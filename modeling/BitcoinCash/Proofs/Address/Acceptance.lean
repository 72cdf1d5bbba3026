import BitcoinCash.Address.Parse
import BitcoinCash.Proofs.Base58.Canonical
import BitcoinCash.Proofs.CashAddr.Spelling

/-! # What acceptance says

  For each way to read an address, the exact condition under which a text gives an address, in
  terms of what the address is written as.

  - **`IsConsistent`**: the size of an address is the one of its hash. Every reader gives such
    addresses, and the readers of CashAddr text give all of them.
  - **`ofCashAddr_eq_ok_iff`**: the full form of the text is the CashAddr text of the address.
  - **`ofLegacy_eq_ok_iff`**: the text is the legacy text, and its version byte stands for the
    kind.
  - **`accepted_of_parseWith`**: what is read in either format is accepted for a candidate network
    by one of these two.
-/

namespace BitcoinCash

theorem HashSize.byteLength_inj {s s' : HashSize} (h : s.byteLength = s'.byteLength) : s = s' := by
  cases s <;> cases s' <;> first | rfl | exact absurd h (by decide)

/-- A version byte that stands for a kind is the one of that kind. -/
theorem Profile.legacyVersion_of_kindOfVersion? {n : Profile} {version : UInt8}
    {kind : AddressKind} (h : n.kindOfVersion? version = some kind) :
    n.legacyVersion kind = version := by
  rw [kindOfVersion?] at h
  split at h
  · next heq =>
    cases h
    exact heq.symm
  · split at h
    · next heq =>
      cases h
      exact heq.symm
    · simp at h

namespace Address

/-- The size of an address is the one of its hash. -/
def IsConsistent (a : Address) : Prop :=
  a.hash.length = a.size.byteLength

instance (a : Address) : Decidable a.IsConsistent :=
  inferInstanceAs (Decidable (_ = _))

/-- An address is made exactly of its parts, and it is consistent. -/
theorem new_eq_ok_iff {n : Profile} {kind : AddressKind} {hash : Bytes} {a : Address} :
    new n kind hash = .ok a ↔
      a.network = n ∧ a.kind = kind ∧ a.hash = hash ∧ a.IsConsistent := by
  rw [new]
  constructor
  · intro h
    split at h
    · next size hsize =>
      cases h
      exact ⟨rfl, rfl, rfl, (HashSize.ofLength?_eq_some_iff.mp hsize).symm⟩
    · simp at h
  · rintro ⟨rfl, rfl, rfl, hsize⟩
    rw [HashSize.ofLength?_eq_some_iff.mpr hsize.symm]

/-! ## CashAddr text -/

theorem parseVersionByte_version (a : Address) :
    parseVersionByte a.version = .ok (a.kind, a.size) :=
  parseVersionByte_versionByte a.kind a.size

/-- **A CashAddr text is accepted** for a network exactly if, in full, it is the one of the
    address. -/
theorem ofCashAddr_eq_ok_iff {n : Profile} {text : Text} {a : Address} :
    ofCashAddr n text = .ok a ↔
      text.mixesCase = false ∧ a.network = n ∧ a.IsConsistent ∧
        CashAddr.fullText n.cashPrefix text = a.toCashAddr := by
  constructor
  · intro h
    rw [ofCashAddr] at h
    split at h
    · simp at h
    · next d hd =>
      split at h
      · simp at h
      · next hown =>
        obtain ⟨hcase, ⟨kind, size, hparse, hlen⟩, hfull⟩ :=
          CashAddr.decodeWithPrefix_eq_ok_iff_fullText.mp hd
        simp only [hparse] at h
        obtain ⟨rfl, rfl, hhash, hsize⟩ := new_eq_ok_iff.mp h
        -- The size that is found for the hash is the declared one.
        have hsame : size = a.size := HashSize.byteLength_inj (by rw [← hlen, ← hhash, hsize])
        have hversion : d.version = a.version := by
          rw [← versionByte_of_parseVersionByte hparse, hsame, version]
        refine ⟨hcase, rfl, hsize, ?_⟩
        rw [hfull, hversion, ← hhash, Decidable.not_not.mp hown, toCashAddr]
  · rintro ⟨hcase, rfl, hsize, hfull⟩
    have hdecode : CashAddr.decodeWithPrefix a.network.cashPrefix text =
        .ok ⟨a.network.cashPrefix, a.version, a.hash⟩ :=
      CashAddr.decodeWithPrefix_eq_ok_iff_fullText.mpr
        ⟨hcase, ⟨a.kind, a.size, a.parseVersionByte_version, hsize⟩, hfull⟩
    simp only [ofCashAddr, hdecode, ne_eq, not_true_eq_false, if_false, parseVersionByte_version]
    exact new_eq_ok_iff.mpr ⟨rfl, rfl, rfl, hsize⟩

/-- **What is decoded of a CashAddr text** are the parts of the address that it is accepted for. -/
theorem ofCashAddr_eq_ok_iff_decodeWithPrefix {n : Profile} {text : Text} {a : Address} :
    ofCashAddr n text = .ok a ↔
      a.network = n ∧ CashAddr.decodeWithPrefix n.cashPrefix text =
        .ok ⟨n.cashPrefix, a.version, a.hash⟩ := by
  rw [ofCashAddr_eq_ok_iff, CashAddr.decodeWithPrefix_eq_ok_iff_fullText]
  constructor
  · rintro ⟨hcase, rfl, hsize, hfull⟩
    exact ⟨rfl, hcase, ⟨a.kind, a.size, a.parseVersionByte_version, hsize⟩, hfull⟩
  · rintro ⟨rfl, hcase, ⟨kind, size, hparse, hsize⟩, hfull⟩
    -- The version byte declares the size of the address.
    cases a.parseVersionByte_version.symm.trans hparse
    exact ⟨hcase, rfl, hsize, hfull⟩

/-- The symbols of a CashAddr text that is accepted are read, too. -/
theorem decodeSymbols_of_ofCashAddr {n : Profile} {text : Text} {a : Address}
    (h : ofCashAddr n text = .ok a) : ∃ r, CashAddr.decodeSymbols n.cashPrefix text = .ok r := by
  obtain ⟨hcase, -, -, hfull⟩ := ofCashAddr_eq_ok_iff.mp h
  exact ⟨_, CashAddr.decodeSymbols_eq_ok_iff.mpr ⟨hcase, hfull⟩⟩

/-! ## Legacy text -/

theorem ofLegacyParts_eq_ok_iff {n : Profile} {version : UInt8} {payload : Bytes} {a : Address} :
    ofLegacyParts n version payload = .ok a ↔
      a.network = n ∧ n.kindOfVersion? version = some a.kind ∧ a.hash = payload ∧
        a.size = .bytes20 ∧ a.IsConsistent := by
  rw [ofLegacyParts]
  constructor
  · intro h
    split at h
    · simp at h
    · next kind hkind =>
      split at h
      · simp at h
      · next hlen =>
        obtain ⟨rfl, rfl, rfl, hsize⟩ := new_eq_ok_iff.mp h
        have h20 : a.size.byteLength = HashSize.bytes20.byteLength :=
          hsize.symm.trans (Decidable.not_not.mp hlen)
        exact ⟨rfl, hkind, rfl, HashSize.byteLength_inj h20, hsize⟩
  · rintro ⟨rfl, hkind, rfl, h20, hsize⟩
    have hlen : a.hash.length = 20 := by
      rw [hsize, h20]
      rfl
    simp only [hkind, hlen, ne_eq, not_true_eq_false, if_false]
    exact new_eq_ok_iff.mpr ⟨rfl, rfl, rfl, hsize⟩

/-- The legacy text of an address whose hash has 20 bytes. -/
theorem toLegacy_of_bytes20 {a : Address} (h : a.size = .bytes20) :
    a.toLegacy = .ok (Base58.encodeCheck (a.network.legacyVersion a.kind) a.hash) :=
  if_pos h

/-- **A legacy text is accepted** for a network exactly if it is the one of the address and the
    network takes its version byte for the kind of the address. -/
theorem ofLegacy_eq_ok_iff {n : Profile} {text : Text} {a : Address} :
    ofLegacy n text = .ok a ↔
      a.network = n ∧ a.IsConsistent ∧ a.toLegacy = .ok text ∧
        n.kindOfVersion? (n.legacyVersion a.kind) = some a.kind := by
  constructor
  · intro h
    rw [ofLegacy] at h
    split at h
    · simp at h
    · next version payload hcheck =>
      obtain ⟨rfl, hkind, rfl, h20, hsize⟩ := ofLegacyParts_eq_ok_iff.mp h
      have hversion := Profile.legacyVersion_of_kindOfVersion? hkind
      refine ⟨rfl, hsize, ?_, by rw [hversion, hkind]⟩
      rw [toLegacy_of_bytes20 h20, hversion, ← Base58.decodeCheck_eq_ok_iff.mp hcheck]
  · rintro ⟨rfl, hsize, htext, hkind⟩
    rw [toLegacy] at htext
    split at htext
    · next h20 =>
      cases htext
      simp only [ofLegacy, Base58.decodeCheck_eq_ok_iff.mpr rfl]
      exact ofLegacyParts_eq_ok_iff.mpr ⟨rfl, hkind, rfl, h20, hsize⟩
    · simp at htext

/-! ## Either format -/

/-- **The network of an explicit prefix** is a candidate with that prefix, if there is one. -/
theorem networkOfPrefix_cases (registry : Registry) (network : Option Profile)
    (cashPrefix : Text) :
    (∃ n ∈ candidates registry network, n.cashPrefix.asciiCaseEq cashPrefix = true ∧
      networkOfPrefix registry network cashPrefix = .ok n) ∨
    (∀ n ∈ candidates registry network, n.cashPrefix.asciiCaseEq cashPrefix = false) ∧
      ∃ mismatch, networkOfPrefix registry network cashPrefix = .error (.prefixMismatch mismatch) := by
  cases network with
  | some m =>
    by_cases h : m.cashPrefix.asciiCaseEq cashPrefix = true
    · exact .inl ⟨m, List.mem_singleton_self m, h, if_pos h⟩
    · refine .inr ⟨?_, _, if_neg h⟩
      intro n hn
      rw [List.mem_singleton.mp hn]
      exact Bool.eq_false_of_not_eq_true h
  | none =>
    unfold networkOfPrefix
    cases hfind : registry.byPrefix? cashPrefix with
    | some n =>
      have hfound : n.cashPrefix.asciiCaseEq cashPrefix = true :=
        List.find?_some (p := fun m : Profile => m.cashPrefix.asciiCaseEq cashPrefix) hfind
      exact .inl ⟨n, List.mem_of_find?_eq_some hfind, hfound, rfl⟩
    | none =>
      refine .inr ⟨?_, _, rfl⟩
      intro n hn
      have hnone := List.find?_eq_none.mp hfind n hn
      exact Bool.eq_false_of_not_eq_true hnone

/-- The network of an explicit prefix is a candidate. -/
theorem networkOfPrefix_mem {registry : Registry} {network : Option Profile} {cashPrefix : Text}
    {n : Profile} (h : networkOfPrefix registry network cashPrefix = .ok n) :
    n ∈ candidates registry network := by
  rcases networkOfPrefix_cases registry network cashPrefix with
    ⟨m, hm, -, hfound⟩ | ⟨-, mismatch, hmissing⟩
  · rwa [← Except.ok.inj (hfound.symm.trans h)]
  · cases hmissing.symm.trans h

/-- It has the prefix, up to the case of ASCII letters. -/
theorem asciiCaseEq_of_networkOfPrefix {registry : Registry} {network : Option Profile}
    {cashPrefix : Text} {n : Profile} (h : networkOfPrefix registry network cashPrefix = .ok n) :
    n.cashPrefix.asciiCaseEq cashPrefix = true := by
  rcases networkOfPrefix_cases registry network cashPrefix with
    ⟨m, -, hsame, hfound⟩ | ⟨-, mismatch, hmissing⟩
  · rwa [← Except.ok.inj (hfound.symm.trans h)]
  · cases hmissing.symm.trans h

/-- Without a given network, the registry is searched for it. -/
theorem networkOfPrefix_none_eq_ok_iff {registry : Registry} {cashPrefix : Text} {n : Profile} :
    networkOfPrefix registry none cashPrefix = .ok n ↔ registry.byPrefix? cashPrefix = some n := by
  unfold networkOfPrefix
  cases registry.byPrefix? cashPrefix <;> simp

/-- A text with a prefix is read for the network that the prefix stands for. -/
theorem parseWith_of_splitLast? {registry : Registry} {network : Option Profile}
    {text cashPrefix body : Text} {n : Profile}
    (hsplit : Text.splitLast? ':' text = some (cashPrefix, body))
    (hnetwork : networkOfPrefix registry network cashPrefix = .ok n) :
    parseWith registry network text = ofCashAddr n text := by
  simp only [parseWith, hsplit, hnetwork]

/-- **A text with a prefix that is an address** is one on the network that the prefix stands for. -/
theorem networkOfPrefix_of_parseWith {registry : Registry} {network : Option Profile}
    {text cashPrefix body : Text} {a : Address}
    (hsplit : Text.splitLast? ':' text = some (cashPrefix, body))
    (h : parseWith registry network text = .ok a) :
    networkOfPrefix registry network cashPrefix = .ok a.network ∧
      ofCashAddr a.network text = .ok a := by
  unfold parseWith at h
  simp only [hsplit] at h
  cases hn : networkOfPrefix registry network cashPrefix with
  | error e =>
    simp only [hn] at h
    cases h
  | ok n =>
    simp only [hn] at h
    have hnetwork : a.network = n := (ofCashAddr_eq_ok_iff.mp h).2.1
    rw [hnetwork]
    exact ⟨rfl, h⟩

theorem mem_of_uniqueByVersion? {registry : Registry} {version : UInt8} {n : Profile}
    (h : registry.uniqueByVersion? version = some n) : n ∈ registry.profiles := by
  rw [Registry.uniqueByVersion?] at h
  split at h
  · next m hm =>
    cases h
    have hfilter : n ∈ registry.profiles.filter (·.usesVersion version) := by
      rw [hm]
      exact List.mem_singleton_self _
    exact List.mem_of_mem_filter hfilter
  · simp at h

/-- The network of a version byte is a candidate. -/
theorem networkOfVersion_mem {registry : Registry} {network : Option Profile} {version : UInt8}
    {n : Profile} (h : networkOfVersion registry network version = .ok n) :
    n ∈ candidates registry network := by
  cases network with
  | some m =>
    cases h
    exact List.mem_singleton_self _
  | none =>
    rw [networkOfVersion] at h
    split at h
    · next m hm =>
      cases h
      exact mem_of_uniqueByVersion? hm
    · split at h <;> simp at h

/-- An address that is found among several networks is accepted for one of them. -/
theorem accepted_of_tryCashAddr {text : Text} {ns : List Profile} {a : Address}
    (h : tryCashAddr text ns = some (.ok a)) : ∃ n ∈ ns, ofCashAddr n text = .ok a := by
  induction ns with
  | nil => simp [tryCashAddr] at h
  | cons n ns ih =>
    rw [tryCashAddr] at h
    split at h
    · next b hb =>
      simp only [Option.some.injEq, Except.ok.injEq] at h
      exact ⟨n, List.mem_cons_self, h ▸ hb⟩
    · split at h
      · obtain ⟨m, hm, hok⟩ := ih h
        exact ⟨m, List.mem_cons_of_mem _ hm, hok⟩
      · simp at h

theorem accepted_of_parseLegacy {registry : Registry} {network : Option Profile} {text : Text}
    {a : Address} (h : parseLegacy registry network text = .ok a) :
    ∃ n ∈ candidates registry network, ofLegacy n text = .ok a := by
  rw [parseLegacy] at h
  split at h
  · simp at h
  · next version payload hcheck =>
    split at h
    · simp at h
    · next n hn =>
      refine ⟨n, networkOfVersion_mem hn, ?_⟩
      simp only [ofLegacy, hcheck, h]

/-- **What is read in either format** is accepted in one of them, for a network that is a
    candidate. -/
theorem accepted_of_parseWith {registry : Registry} {network : Option Profile} {text : Text}
    {a : Address} (h : parseWith registry network text = .ok a) :
    ∃ n ∈ candidates registry network, ofCashAddr n text = .ok a ∨ ofLegacy n text = .ok a := by
  cases hsplit : Text.splitLast? ':' text with
  | some parts =>
    obtain ⟨hn, hok⟩ := networkOfPrefix_of_parseWith hsplit h
    exact ⟨a.network, networkOfPrefix_mem hn, .inl hok⟩
  | none =>
    unfold parseWith at h
    simp only [hsplit] at h
    split at h
    · -- A checksum fits.
      next answer hanswer =>
      obtain ⟨n, hn, hok⟩ := accepted_of_tryCashAddr (h ▸ hanswer)
      exact ⟨n, hn, .inl hok⟩
    · -- None does.
      obtain ⟨n, hn, hok⟩ := accepted_of_parseLegacy h
      exact ⟨n, hn, .inr hok⟩

end Address

end BitcoinCash
