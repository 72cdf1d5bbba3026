import BitcoinCash.Address.Encoder
import BitcoinCash.Proofs.Address.Legacy
import BitcoinCash.Proofs.Script.Push

/-! # Scripts and addresses

  The two shapes that stand for an address are recognised in exactly the scripts that are built for
  hashes of 20 bytes, and no script is built for two addresses of one network.

  - **`shape_eq_pubKeyHash_iff`** and **`shape_eq_scriptHash_iff`**: a script has one of these
    shapes exactly if it is the script that is built for the hash.
  - **`shape_eq_opReturn_iff`**: the shape of a data carrier comes before them.
  - **`Address.script_inj`**: kind and hash can be told from the script, for hashes of any length.
  - **`Encoder.encode_eq_ok_iff_script`** is the main statement. Scripts that are recognised and
    addresses with a hash of 20 bytes stand for each other, and the script that is built for a hash
    of another length is not recognised.
-/

namespace BitcoinCash

/-- A byte string is taken for a digest exactly if it is the bytes of one. -/
theorem Digest.ofBytes?_eq_some_iff {n : Nat} {bs : Bytes} {d : Digest n} :
    ofBytes? n bs = some d ↔ bs = d.bytes := by
  unfold ofBytes?
  constructor
  · intro h
    split at h
    · cases h
      rfl
    · simp at h
  · intro h
    have hlen : bs.length = n := by rw [h, d.length_bytes]
    subst h
    rw [dif_pos hlen]

namespace Script

/-! ## Pushes -/

/-- The push of a hash of 20 bytes is one byte for the length, and the hash. -/
theorem push_digest (hash : Digest 20) : push hash.bytes = 0x14 :: hash.bytes := by
  unfold push
  rw [hash.length_bytes]
  rfl

/-! ## Building -/

theorem payToPubKeyHash_inj {hash hash' : Bytes}
    (h : payToPubKeyHash hash = payToPubKeyHash hash') : hash = hash' := by
  have hbytes := List.append_cancel_right (congrArg bytes h)
  exact push_inj (List.append_cancel_left hbytes)

theorem payToScriptHash_inj {hash hash' : Bytes}
    (h : payToScriptHash hash = payToScriptHash hash') : hash = hash' := by
  have hbytes := List.append_cancel_right (congrArg bytes h)
  exact push_inj (List.append_cancel_left hbytes)

/-- The two kinds of scripts begin with different opcodes. -/
theorem payToPubKeyHash_ne_payToScriptHash (hash hash' : Bytes) :
    payToPubKeyHash hash ≠ payToScriptHash hash' := by
  intro h
  have hfirst : some opDup = some opHash160 := congrArg (fun s => s.bytes.head?) h
  exact absurd hfirst (by decide)

/-! ## Recognising -/

/-- **A hash between an opening and a closing** is found exactly if the three are all there is. -/
theorem between?_eq_some_iff {opening closing bs : Bytes} {hash : Digest 20} :
    between? opening closing bs = some hash ↔ bs = opening ++ (hash.bytes ++ closing) := by
  unfold between?
  constructor
  · intro h
    split at h
    · next hends =>
      obtain ⟨hopening, hclosing⟩ := hends
      have hhash := Digest.ofBytes?_eq_some_iff.mp h
      calc bs = bs.take opening.length ++ bs.drop opening.length :=
            (List.take_append_drop _ bs).symm
        _ = opening ++ ((bs.drop opening.length).take 20 ++ bs.drop (opening.length + 20)) := by
            rw [hopening, ← List.drop_drop, List.take_append_drop]
        _ = opening ++ (hash.bytes ++ closing) := by rw [hhash, hclosing]
    · simp at h
  · intro h
    have hhash : (hash.bytes ++ closing).take 20 = hash.bytes := List.take_left' hash.length_bytes
    have hclosing : (hash.bytes ++ closing).drop 20 = closing := List.drop_left' hash.length_bytes
    rw [h, List.take_left, ← List.drop_drop, List.drop_left, hclosing, hhash, if_pos ⟨rfl, rfl⟩]
    exact Digest.ofBytes?_eq_some_iff.mpr rfl

/-- What the first test for a shape finds is the hash of a public key. -/
theorem between?_pubKeyHash_iff {s : Script} {hash : Digest 20} :
    between? [opDup, opHash160, 0x14] [opEqualVerify, opCheckSig] s.bytes = some hash ↔
      s = payToPubKeyHash hash.bytes := by
  have hform : payToPubKeyHash hash.bytes =
      ⟨[opDup, opHash160, 0x14] ++ (hash.bytes ++ [opEqualVerify, opCheckSig])⟩ := by
    unfold payToPubKeyHash
    rw [push_digest]
    rfl
  rw [between?_eq_some_iff, hform]
  cases s
  rw [mk.injEq]

/-- What the second test for a shape finds is the hash of a redeem script. -/
theorem between?_scriptHash_iff {s : Script} {hash : Digest 20} :
    between? [opHash160, 0x14] [opEqual] s.bytes = some hash ↔
      s = payToScriptHash hash.bytes := by
  have hform : payToScriptHash hash.bytes = ⟨[opHash160, 0x14] ++ (hash.bytes ++ [opEqual])⟩ := by
    unfold payToScriptHash
    rw [push_digest]
    rfl
  rw [between?_eq_some_iff, hform]
  cases s
  rw [mk.injEq]

/-- **The shape of a public key hash** is the one of the script that is built for it. -/
theorem shape_eq_pubKeyHash_iff {s : Script} {hash : Digest 20} :
    s.shape = .pubKeyHash hash ↔ s = payToPubKeyHash hash.bytes := by
  unfold shape
  constructor
  · intro h
    split at h
    · simp at h
    · split at h
      · next hfound =>
        cases h
        exact between?_pubKeyHash_iff.mp hfound
      · split at h <;> simp at h
  · intro h
    have hdata : s.isOpReturn = false := by
      rw [h]
      rfl
    rw [hdata, between?_pubKeyHash_iff.mpr h]
    rfl

/-- **The shape of a script hash** is the one of the script that is built for it. -/
theorem shape_eq_scriptHash_iff {s : Script} {hash : Digest 20} :
    s.shape = .scriptHash hash ↔ s = payToScriptHash hash.bytes := by
  unfold shape
  constructor
  · intro h
    split at h
    · simp at h
    · split at h
      · simp at h
      · split at h
        · next hfound =>
          cases h
          exact between?_scriptHash_iff.mp hfound
        · simp at h
  · intro h
    have hdata : s.isOpReturn = false := by
      rw [h]
      rfl
    have hother : between? [opDup, opHash160, 0x14] [opEqualVerify, opCheckSig] s.bytes = none := by
      rw [Option.eq_none_iff_forall_ne_some]
      intro hash' hfound
      -- The script would be built for a public key, too.
      have hkey := between?_pubKeyHash_iff.mp hfound
      exact payToPubKeyHash_ne_payToScriptHash _ _ (hkey.symm.trans h)
    rw [hdata, hother, between?_scriptHash_iff.mpr h]
    rfl

/-- **The shape of a data carrier** is found at its first opcode. -/
theorem shape_eq_opReturn_iff {s : Script} : s.shape = .opReturn ↔ s.isOpReturn = true := by
  unfold shape
  constructor
  · intro h
    split at h
    · next hdata => exact hdata
    · split at h
      · cases h
      · split at h <;> cases h
  · intro h
    rw [if_pos h]

end Script

/-! ## Addresses -/

namespace Address

/-- **No two addresses of one network have one script**, whatever the lengths of their hashes. -/
theorem script_inj {a b : Address} (h : a.script = b.script) :
    a.kind = b.kind ∧ a.hash = b.hash := by
  unfold script at h
  cases hkind : a.kind <;> cases hkind' : b.kind <;> rw [hkind, hkind'] at h
  · exact ⟨rfl, Script.payToPubKeyHash_inj h⟩
  · exact absurd h (Script.payToPubKeyHash_ne_payToScriptHash _ _)
  · exact absurd h.symm (Script.payToPubKeyHash_ne_payToScriptHash _ _)
  · exact ⟨rfl, Script.payToScriptHash_inj h⟩

/-- The network makes no difference for the script. -/
theorem script_withNetwork (a : Address) (n : Profile) :
    script { a with network := n } = a.script := rfl

/-- The script of an address carries no data. -/
theorem isOpReturn_script (a : Address) : a.script.isOpReturn = false := by
  unfold script
  cases a.kind <;> rfl

/-- A consistent address with a hash of 20 bytes is the one that is made of a digest. -/
theorem eq_standard {a : Address} (hsize : a.IsConsistent) (hlen : a.hash.length = 20) :
    a = standard a.network a.kind ⟨a.hash, hlen⟩ := by
  have h20 := hsize.size_eq_bytes20_iff.mpr hlen
  unfold standard
  rw [← h20]

/-- The script of an address that is made of a digest is recognised. -/
theorem ofScript?_script_standard (n : Profile) (kind : AddressKind) (hash : Digest 20) :
    ofScript? n (standard n kind hash).script = some (standard n kind hash) := by
  unfold ofScript?
  cases kind with
  | pubKeyHash =>
    have hshape : (standard n .pubKeyHash hash).script.shape = .pubKeyHash hash :=
      Script.shape_eq_pubKeyHash_iff.mpr rfl
    rw [hshape]
    rfl
  | scriptHash =>
    have hshape : (standard n .scriptHash hash).script.shape = .scriptHash hash :=
      Script.shape_eq_scriptHash_iff.mpr rfl
    rw [hshape]
    rfl

/-- **The address of a script** is the one with a hash of 20 bytes for which it is built. -/
theorem ofScript?_eq_some_iff {n : Profile} {s : Script} {a : Address} :
    ofScript? n s = some a ↔
      a.network = n ∧ a.IsConsistent ∧ a.hash.length = 20 ∧ s = a.script := by
  constructor
  · intro h
    unfold ofScript? at h
    cases hshape : s.shape with
    | pubKeyHash hash =>
      rw [hshape] at h
      cases h
      exact ⟨rfl, hash.length_bytes, hash.length_bytes, Script.shape_eq_pubKeyHash_iff.mp hshape⟩
    | scriptHash hash =>
      rw [hshape] at h
      cases h
      exact ⟨rfl, hash.length_bytes, hash.length_bytes, Script.shape_eq_scriptHash_iff.mp hshape⟩
    | opReturn =>
      rw [hshape] at h
      cases h
    | nonStandard =>
      rw [hshape] at h
      cases h
  · intro h
    obtain ⟨hnetwork, hsize, hlen, hscript⟩ := h
    rw [hscript, ← hnetwork, eq_standard hsize hlen]
    exact ofScript?_script_standard _ _ _

/-- A script for a hash of another length than 20 stands for no address. -/
theorem ofScript?_script_of_length_ne {a : Address} (hlen : a.hash.length ≠ 20) (n : Profile) :
    ofScript? n a.script = none := by
  rw [Option.eq_none_iff_forall_ne_some]
  intro b hb
  obtain ⟨-, -, h20, hscript⟩ := ofScript?_eq_some_iff.mp hb
  have hhash := (script_inj hscript).2
  exact hlen (by rw [hhash, h20])

end Address

/-! ## Encoders -/

namespace Encoder

open Address

/-- An encoder gives the address of a script on its network. -/
theorem encode_eq_ok_iff {e : Encoder} {s : Script} {a : Address} :
    e.encode s = .ok a ↔ ofScript? e.network s = some a := by
  unfold encode
  cases ofScript? e.network s <;> simp

/-- An encoder has one way to refuse a script. -/
theorem encode_eq_error_of_none {e : Encoder} {s : Script} (h : ofScript? e.network s = none) :
    e.encode s = .error .unknownScriptType := by
  unfold encode
  rw [h]

/-- **Scripts and addresses stand for each other.**

    - An encoder gives an address for a script exactly if the address is on its network, has a hash
      of 20 bytes, and has the script. For all other scripts it says that their type is unknown.
    - So there and back is the identity: from a script that is recognised, and from an address of
      the network with a hash of 20 bytes.
    - The script of an address with a hash of another length is recognised by no encoder. -/
theorem encode_eq_ok_iff_script (e : Encoder) :
    (∀ s a, e.encode s = .ok a ↔
      a.network = e.network ∧ a.IsConsistent ∧ a.hash.length = 20 ∧ s = a.script) ∧
    (∀ s, (∀ a : Address, a.network = e.network → a.IsConsistent → a.hash.length = 20 →
      s ≠ a.script) → e.encode s = .error .unknownScriptType) ∧
    (∀ s a, e.encode s = .ok a → e.decode a = s) ∧
    (∀ a : Address, a.network = e.network → a.IsConsistent → a.hash.length = 20 →
      e.encode (e.decode a) = .ok a) ∧
    ∀ a : Address, a.hash.length ≠ 20 → ∀ e' : Encoder,
      e'.encode (e.decode a) = .error .unknownScriptType := by
  have hiff : ∀ s a, e.encode s = .ok a ↔
      a.network = e.network ∧ a.IsConsistent ∧ a.hash.length = 20 ∧ s = a.script := by
    intro s a
    rw [encode_eq_ok_iff, ofScript?_eq_some_iff]
  refine ⟨hiff, ?_, ?_, ?_, ?_⟩
  · intro s hother
    apply encode_eq_error_of_none
    rw [Option.eq_none_iff_forall_ne_some]
    intro a ha
    obtain ⟨hnetwork, hsize, hlen, hscript⟩ := ofScript?_eq_some_iff.mp ha
    exact hother a hnetwork hsize hlen hscript
  · intro s a hok
    obtain ⟨-, -, -, hscript⟩ := (hiff s a).mp hok
    exact hscript.symm
  · intro a hnetwork hsize hlen
    exact (hiff _ a).mpr ⟨hnetwork, hsize, hlen, rfl⟩
  · intro a hlen e'
    exact encode_eq_error_of_none (ofScript?_script_of_length_ne hlen e'.network)

/-- A script hash of 20 bytes goes there and back, and the encoder of another network gives the
    address on that network. A public key hash of 32 bytes and a data carrier are not recognised. -/
theorem encode_eq_ok_iff_script_testnet :
    let a : Address := ⟨.testnet, .scriptHash, .bytes20, List.replicate 20 0x5a⟩
    let b : Address := ⟨.testnet, .pubKeyHash, .bytes32, List.replicate 32 0x5a⟩
    testnet.encode (testnet.decode a) = .ok a ∧
      regtest.encode a.script = .ok { a with network := .regtest } ∧
      regtest.decode { a with network := .regtest } = a.script ∧
      mainnet.encode (testnet.decode b) = .error .unknownScriptType ∧
      mainnet.encode (.dataCarrier [1, 2]) = .error .unknownScriptType := by
  intro a b
  obtain ⟨-, -, -, hforth, hother⟩ := encode_eq_ok_iff_script testnet
  obtain ⟨hiff, -, hback, -⟩ := encode_eq_ok_iff_script regtest
  have htestnet : testnet.encode (testnet.decode a) = .ok a := hforth a rfl rfl rfl
  have hregtest : regtest.encode a.script = .ok { a with network := .regtest } :=
    (hiff _ _).mpr ⟨rfl, rfl, rfl, (script_withNetwork a .regtest).symm⟩
  have hscript : regtest.decode { a with network := .regtest } = a.script := hback _ _ hregtest
  have hlong : mainnet.encode (testnet.decode b) = .error .unknownScriptType :=
    hother b (by decide) mainnet
  refine ⟨htestnet, hregtest, hscript, hlong, ?_⟩
  apply (encode_eq_ok_iff_script mainnet).2.1
  intro c _ _ _ hscript
  have hdata := isOpReturn_script c
  rw [← hscript] at hdata
  exact absurd hdata (by decide)

end Encoder

end BitcoinCash
