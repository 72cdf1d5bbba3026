import BitcoinCash.Proofs.Address.Networks
import BitcoinCash.Proofs.Address.Scripts

/-! # Addresses know the size of their hash

  An address holds the size of its hash twice: the hash has a length, and a size is declared, which
  both texts of the address rely on. Where the declared size comes from depends on how the address is
  obtained. It is fixed, or found for the length of the hash, or it is the one that a version byte
  declares.

  - **`IsReadFrom`** lists the ways to read an address from a text, **`IsObtained`** all ways to get
    one. `IsObtained.isConsistent` says that the two sizes agree, whichever way it is.
  - **The size that is found is the one that was declared** (`new_of_decodeWithPrefix`), so nothing
    that is decoded is refused by `new`.
  - **`ofCashAddr_eq_error_iff`** and **`ofLegacy_eq_error_iff`** list what is left: each failure of
    a reader comes from its decoder or from a test of its own.
  - **`isConsistent_of_isObtained`** is the main statement.
-/

namespace BitcoinCash.Address

/-! ## Ways to get an address -/

/-- **An address that is read from a text**, by one of the readers. -/
inductive IsReadFrom (text : Text) : Address → Prop
  /-- As CashAddr text, for a network. -/
  | cashAddr {n : Profile} {a : Address} (h : ofCashAddr n text = .ok a) : IsReadFrom text a
  /-- As legacy text, for a network. -/
  | legacy {n : Profile} {a : Address} (h : ofLegacy n text = .ok a) : IsReadFrom text a
  /-- In either format, for a network or for one of a registry. -/
  | either {registry : Registry} {network : Option Profile} {a : Address}
      (h : parseWith registry network text = .ok a) : IsReadFrom text a
  /-- By the encoder of a network. -/
  | encoder {e : Encoder} {a : Address} (h : e.read text = .ok a) : IsReadFrom text a
  /-- Without a network. -/
  | mainnet {a : Address} (h : ofText text = .ok a) : IsReadFrom text a
  /-- From a JSON string. -/
  | json {a : Address} (h : ofJson (.str text) = .ok a) : IsReadFrom text a

/-- **An address as it comes into being**: made of a hash, found for a script, or read. -/
inductive IsObtained : Address → Prop
  /-- Made of a hash for which there is a size. -/
  | hash {n : Profile} {kind : AddressKind} {hash : Bytes} {a : Address}
      (h : new n kind hash = .ok a) : IsObtained a
  /-- Made of a hash of 20 bytes. -/
  | digest (n : Profile) (kind : AddressKind) (hash : Digest 20) :
      IsObtained (standard n kind hash)
  /-- Made for a public key. -/
  | pubKey (n : Profile) (key : Bytes) : IsObtained (ofPubKey n key)
  /-- Made for a redeem script. -/
  | redeemScript (n : Profile) (script : Bytes) : IsObtained (ofRedeemScript n script)
  /-- Found for a script. -/
  | script {n : Profile} {s : Script} {a : Address} (h : ofScript? n s = some a) : IsObtained a
  /-- Found for a script by an encoder. -/
  | encoder {e : Encoder} {s : Script} {a : Address} (h : e.encode s = .ok a) : IsObtained a
  /-- Found for an output. -/
  | output {out : TxOut} {n : Profile} {a : Address} (h : (out.addressFor n).1 = some a) :
      IsObtained a
  /-- Found for an output, if it stands for a public key. -/
  | pubKeyOutput {out : TxOut} {n : Profile} {a : Address}
      (h : (out.pubKeyAddressFor n).1 = some a) : IsObtained a
  /-- Found for an output, if it stands for a redeem script. -/
  | scriptOutput {out : TxOut} {n : Profile} {a : Address}
      (h : (out.scriptAddressFor n).1 = some a) : IsObtained a
  /-- Read from a text. -/
  | text {text : Text} {a : Address} (h : IsReadFrom text a) : IsObtained a
  /-- Read from a JSON value. -/
  | json {v : Json} {a : Address} (h : ofJson v = .ok a) : IsObtained a

/-! ## Readers -/

/-- The JSON values that are read are the strings whose texts are. -/
theorem ofJson_eq_ok_iff {v : Json} {a : Address} :
    ofJson v = .ok a ↔ ∃ text, v = .str text ∧ ofText text = .ok a := by
  unfold ofJson
  cases v with
  | str text => simp [Json.asString, except_mapError_eq_ok_iff]
  | _ => simp [Json.asString]

/-- A text that is accepted for a network is accepted for the one of the address. -/
theorem accepted_for_network {n : Profile} {text : Text} {a : Address}
    (h : ofCashAddr n text = .ok a ∨ ofLegacy n text = .ok a) :
    ofCashAddr a.network text = .ok a ∨ ofLegacy a.network text = .ok a := by
  rcases h with hcash | hlegacy
  · obtain ⟨rfl, -⟩ := ofCashAddr_eq_ok_iff_decodeWithPrefix.mp hcash
    exact .inl hcash
  · obtain ⟨rfl, -⟩ := ofLegacy_eq_ok_iff.mp hlegacy
    exact .inr hlegacy

/-- **All readers accept a text in one of two ways**: as the CashAddr text or as the legacy text. -/
theorem IsReadFrom.accepted {text : Text} {a : Address} (h : IsReadFrom text a) :
    ofCashAddr a.network text = .ok a ∨ ofLegacy a.network text = .ok a := by
  cases h with
  | cashAddr h => exact accepted_for_network (.inl h)
  | legacy h => exact accepted_for_network (.inr h)
  | either h =>
    obtain ⟨n, -, haccepted⟩ := accepted_of_parseWith h
    exact accepted_for_network haccepted
  | encoder h => exact accepted_for_network (Encoder.accepted_of_read h)
  | mainnet h => exact accepted_for_network (Encoder.accepted_of_read (e := .mainnet) h)
  | json h =>
    obtain ⟨_, ⟨⟩, htext⟩ := ofJson_eq_ok_iff.mp h
    exact accepted_for_network (Encoder.accepted_of_read (e := .mainnet) htext)

/-- **What is decoded of a text** are the version byte and the hash of the address that is read from
    it, whatever the prefix is under which it is decoded. -/
theorem IsReadFrom.eq_of_decodeWithPrefix {text : Text} {a : Address} (h : IsReadFrom text a)
    {defaultPrefix : Text} {d : CashAddr.Decoded}
    (hd : CashAddr.decodeWithPrefix defaultPrefix text = .ok d) :
    a.version = d.version ∧ a.hash = d.hash := by
  rcases h.accepted with hcash | hlegacy
  · obtain ⟨-, hown⟩ := ofCashAddr_eq_ok_iff_decodeWithPrefix.mp hcash
    exact CashAddr.payload_eq_of_decodeWithPrefix hown hd
  · -- Nothing is decoded of a legacy text.
    exact absurd hd ((looksLegacy_of_ofLegacy hlegacy).decodeWithPrefix_ne_ok _ _)

/-! ## The two sizes -/

/-- A hash of 20 bytes and the size that is fixed for it. -/
theorem isConsistent_standard (n : Profile) (kind : AddressKind) (hash : Digest 20) :
    (standard n kind hash).IsConsistent :=
  hash.length_bytes

/-- The shapes that stand for an address have a hash of 20 bytes. -/
theorem isConsistent_of_ofShape? {n : Profile} {shape : Script.Shape} {a : Address}
    (h : ofShape? n shape = some a) : a.IsConsistent := by
  cases shape with
  | pubKeyHash hash =>
    cases h
    exact isConsistent_standard _ _ _
  | scriptHash hash =>
    cases h
    exact isConsistent_standard _ _ _
  | opReturn => cases h
  | nonStandard => cases h

/-- The address of an output stands for a shape, even for one that is not the shape of its script. -/
theorem isConsistent_of_addressFor {out : TxOut} {n : Profile} {a : Address}
    (h : (out.addressFor n).1 = some a) : a.IsConsistent := by
  have hshape : ofShape? n out.shape.1 = some a := h
  exact isConsistent_of_ofShape? hshape

theorem IsReadFrom.isConsistent {text : Text} {a : Address} (h : IsReadFrom text a) :
    a.IsConsistent := by
  rcases h.accepted with hcash | hlegacy
  · obtain ⟨-, -, hsize, -⟩ := ofCashAddr_eq_ok_iff.mp hcash
    exact hsize
  · obtain ⟨-, hsize, -⟩ := ofLegacy_eq_ok_iff.mp hlegacy
    exact hsize

/-- **Every address is consistent**, whichever way it is obtained. -/
theorem IsObtained.isConsistent {a : Address} (h : IsObtained a) : a.IsConsistent := by
  cases h with
  | hash h =>
    obtain ⟨-, -, -, hsize⟩ := new_eq_ok_iff.mp h
    exact hsize
  | digest n kind hash => exact isConsistent_standard n kind hash
  | pubKey n key => exact isConsistent_standard n .pubKeyHash (hash160 key)
  | redeemScript n script => exact isConsistent_standard n .scriptHash (hash160 script)
  | script h => exact isConsistent_of_ofShape? h
  | encoder h => exact isConsistent_of_ofShape? (Encoder.encode_eq_ok_iff.mp h)
  | output h => exact isConsistent_of_addressFor h
  | pubKeyOutput h => exact isConsistent_of_addressFor (Option.filter_eq_some_iff.mp h).1
  | scriptOutput h => exact isConsistent_of_addressFor (Option.filter_eq_some_iff.mp h).1
  | text h => exact h.isConsistent
  | json h =>
    obtain ⟨_, -, htext⟩ := ofJson_eq_ok_iff.mp h
    exact (IsReadFrom.mainnet htext).isConsistent

/-! ## Failures -/

/-- A hash that has a size gives an address with that size. -/
theorem new_of_length {n : Profile} {kind : AddressKind} {size : HashSize} {hash : Bytes}
    (h : hash.length = size.byteLength) : new n kind hash = .ok ⟨n, kind, size, hash⟩ :=
  new_eq_ok_iff.mpr ⟨rfl, rfl, rfl, h⟩

/-- **The size that is found is the one that was declared.** -/
theorem new_of_decodeWithPrefix {defaultPrefix text : Text} {d : CashAddr.Decoded}
    (h : CashAddr.decodeWithPrefix defaultPrefix text = .ok d) (n : Profile) :
    ∃ kind size, parseVersionByte d.version = .ok (kind, size) ∧
      new n kind d.hash = .ok ⟨n, kind, size, d.hash⟩ := by
  obtain ⟨-, ⟨kind, size, hparse, hsize⟩, -⟩ :=
    CashAddr.decodeWithPrefix_eq_ok_iff_fullText.mp h
  exact ⟨kind, size, hparse, new_of_length hsize⟩

/-- **A CashAddr text is refused** for a network as its decoder refuses it, or for its prefix. -/
theorem ofCashAddr_eq_error_iff {n : Profile} {text : Text} {e : AddressError} :
    ofCashAddr n text = .error e ↔
      CashAddr.decodeWithPrefix n.cashPrefix text = .error e ∨
      ∃ d, CashAddr.decodeWithPrefix n.cashPrefix text = .ok d ∧ d.cashPrefix ≠ n.cashPrefix ∧
        e = .prefixMismatch (.foreignPrefix n.cashPrefix d.cashPrefix) := by
  unfold ofCashAddr
  cases hd : CashAddr.decodeWithPrefix n.cashPrefix text with
  | error e' => simp
  | ok d =>
    obtain ⟨kind, size, hparse, hnew⟩ := new_of_decodeWithPrefix hd n
    by_cases hown : d.cashPrefix = n.cashPrefix
    · -- Nothing is left that could be refused.
      simp [hown, hparse, hnew]
    · simp [hown, eq_comm]

/-- **A legacy text is refused** for a network as its decoder refuses it, for its version byte, or
    for the length of its payload. -/
theorem ofLegacy_eq_error_iff {n : Profile} {text : Text} {e : AddressError} :
    ofLegacy n text = .error e ↔
      Base58.decodeCheck text = .error e ∨
      ∃ version payload, Base58.decodeCheck text = .ok (version, payload) ∧
        (n.kindOfVersion? version = none ∧
            e = .prefixMismatch (.foreignVersion version n.name) ∨
          n.kindOfVersion? version ≠ none ∧ payload.length ≠ 20 ∧
            e = .hashSizeMismatch payload.length) := by
  unfold ofLegacy ofLegacyParts
  cases hcheck : Base58.decodeCheck text with
  | error e' => simp
  | ok parts =>
    obtain ⟨version, payload⟩ := parts
    cases hkind : n.kindOfVersion? version with
    | none => simp [hkind, eq_comm]
    | some kind =>
      by_cases hlen : payload.length = 20
      · -- Nothing is left that could be refused.
        have hnew : new n kind payload = .ok ⟨n, kind, .bytes20, payload⟩ := new_of_length hlen
        simp [hkind, hlen, hnew]
      · simp [hkind, hlen, eq_comm]

/-! ## Every address -/

/-- **Every address is consistent, and no reader finds out otherwise.**

    - Whichever way an address is obtained, the declared size is the length of the hash, and its
      version byte is accepted and stands for its kind and its size.
    - A CashAddr text gives an address for a network exactly if the version byte and the hash of the
      address are what is decoded of it. Whatever is decoded of a text, under whichever prefix, are
      the version byte and the hash of every address that is read from it, by whichever reader.
    - A hash that is decoded, or that has 20 bytes, is never refused by `new`, which finds the
      declared size. So a CashAddr text is refused as its decoder refuses it or for its prefix, and
      a legacy text as its decoder refuses it, for its version byte, or for the length of its
      payload. -/
theorem isConsistent_of_isObtained :
    (∀ a, IsObtained a →
      a.size.byteLength = a.hash.length ∧ parseVersionByte a.version = .ok (a.kind, a.size)) ∧
    (∀ n text a, ofCashAddr n text = .ok a ↔
      a.network = n ∧ CashAddr.decodeWithPrefix n.cashPrefix text =
        .ok ⟨n.cashPrefix, a.version, a.hash⟩) ∧
    (∀ text a, IsReadFrom text a →
      (ofCashAddr a.network text = .ok a ∨ ofLegacy a.network text = .ok a) ∧
      ∀ defaultPrefix d, CashAddr.decodeWithPrefix defaultPrefix text = .ok d →
        a.version = d.version ∧ a.hash = d.hash) ∧
    (∀ defaultPrefix text d, CashAddr.decodeWithPrefix defaultPrefix text = .ok d → ∀ n,
      ∃ kind size, parseVersionByte d.version = .ok (kind, size) ∧
        new n kind d.hash = .ok ⟨n, kind, size, d.hash⟩) ∧
    (∀ n kind payload, payload.length = 20 →
      new n kind payload = .ok ⟨n, kind, .bytes20, payload⟩) ∧
    (∀ n text e, ofCashAddr n text = .error e ↔
      CashAddr.decodeWithPrefix n.cashPrefix text = .error e ∨
      ∃ d, CashAddr.decodeWithPrefix n.cashPrefix text = .ok d ∧ d.cashPrefix ≠ n.cashPrefix ∧
        e = .prefixMismatch (.foreignPrefix n.cashPrefix d.cashPrefix)) ∧
    ∀ n text e, ofLegacy n text = .error e ↔
      Base58.decodeCheck text = .error e ∨
      ∃ version payload, Base58.decodeCheck text = .ok (version, payload) ∧
        (n.kindOfVersion? version = none ∧
            e = .prefixMismatch (.foreignVersion version n.name) ∨
          n.kindOfVersion? version ≠ none ∧ payload.length ≠ 20 ∧
            e = .hashSizeMismatch payload.length) := by
  refine ⟨?_, ?_, ?_, ?_, ?_, ?_, ?_⟩
  · intro a ha
    exact ⟨ha.isConsistent.symm, a.parseVersionByte_version⟩
  · intro n text a
    exact ofCashAddr_eq_ok_iff_decodeWithPrefix
  · intro text a ha
    exact ⟨ha.accepted, fun _ _ hd => ha.eq_of_decodeWithPrefix hd⟩
  · intro defaultPrefix text d hd n
    exact new_of_decodeWithPrefix hd n
  · intro n kind payload hlen
    exact new_of_length hlen
  · intro n text e
    exact ofCashAddr_eq_error_iff
  · intro n text e
    exact ofLegacy_eq_error_iff

/-- A text with a hash of 24 bytes, read as an address of the public test network and decoded under
    the prefix of the production network, for which it is refused, and a legacy text whose payload is
    empty. -/
theorem isConsistent_of_isObtained_testnet :
    let text := "bchtest:p9leun2tr42mfa9hkmcmrdxc6rq7968kaxuv8gk37d0vutqz".toList
    let a : Address := ⟨.testnet, .scriptHash, .bytes24, [0x7f, 0x9e, 0x4d, 0x4b, 0x1d, 0x55, 0xb4,
      0xf4, 0xb7, 0xb6, 0xf1, 0xb1, 0xb4, 0xd8, 0xd0, 0xc1, 0xe2, 0xe8, 0xf6, 0xe9, 0xb8, 0xc3,
      0xa2, 0xd1]⟩
    parseWith .standard none text = .ok a ∧ a.size.byteLength = a.hash.length ∧
      parseVersionByte a.version = .ok (.scriptHash, .bytes24) ∧ a.version = 0x09 ∧
      CashAddr.decodeWithPrefix Profile.mainnet.cashPrefix text =
        .ok ⟨"bchtest".toList, 0x09, a.hash⟩ ∧
      ofCashAddr .mainnet text =
        .error (.prefixMismatch (.foreignPrefix "bitcoincash".toList "bchtest".toList)) ∧
      ofLegacy .mainnet "dDc8z6".toList = .error (.hashSizeMismatch 0) := by
  intro text a
  obtain ⟨hsizes, -, hdecoded, -, -, hcash, hlegacy⟩ := isConsistent_of_isObtained
  have hread : parseWith .standard none text = .ok a := by decide +kernel
  have hdecode : CashAddr.decodeWithPrefix Profile.mainnet.cashPrefix text =
      .ok ⟨"bchtest".toList, 0x09, a.hash⟩ := by
    decide +kernel
  have hcheck : Base58.decodeCheck "dDc8z6".toList = .ok (5, []) := by decide +kernel
  obtain ⟨hlength, hversion⟩ := hsizes a (.text (.either hread))
  have hbyte := ((hdecoded text a (.either hread)).2 _ _ hdecode).1
  refine ⟨hread, hlength, hversion, hbyte, hdecode, ?_, ?_⟩
  · exact (hcash .mainnet text _).mpr (.inr ⟨_, hdecode, by decide, rfl⟩)
  · exact (hlegacy .mainnet _ _).mpr
      (.inr ⟨5, [], hcheck, .inr ⟨by decide, by decide, rfl⟩⟩)

end BitcoinCash.Address
