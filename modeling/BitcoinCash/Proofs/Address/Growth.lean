import BitcoinCash.Proofs.Address.Formats

/-! # Growing a registry

  More networks after those of a registry never turn a text into another address.

  - **Prefixes**: the first network of a prefix stays the first (`byPrefix?_append`).
  - **Checksums**: bare text is tried under the old networks before the new ones
    (`tryCashAddr_append`), and the first checksum that fits is final.
  - **Version bytes** can become shared, but never stand for another network
    (`eq_of_uniqueByVersion?_append`).
  - **`parseWith_append`** is the main statement. The case that needs an argument is that of a
    legacy text, which a new network might take for CashAddr; but the two formats have no text in
    common.
-/

namespace BitcoinCash

/-! ## Look-ups -/

namespace Registry

/-- A registry has the networks that it was made of. -/
theorem profiles_of_ofList {profiles : List Profile} {r : Registry}
    (h : ofList profiles = .ok r) : r.profiles = profiles := by
  unfold ofList at h
  split at h
  · simp at h
  · cases h
    rfl

variable {r r' : Registry} {extras : List Profile}

/-- The first network of a prefix stays the first. -/
theorem byPrefix?_append (hgrow : r'.profiles = r.profiles ++ extras) {cashPrefix : Text}
    {n : Profile} (h : r.byPrefix? cashPrefix = some n) : r'.byPrefix? cashPrefix = some n := by
  unfold byPrefix? at h ⊢
  rw [hgrow, List.find?_append, h]
  rfl

/-- The only network that uses a version byte is the one that is on the list of those that do. -/
theorem uniqueByVersion?_eq_some_iff {version : UInt8} {n : Profile} :
    r.uniqueByVersion? version = some n ↔ r.profiles.filter (·.usesVersion version) = [n] := by
  unfold uniqueByVersion?
  constructor
  · intro h
    split at h
    · next m hm =>
      cases h
      exact hm
    · simp at h
  · intro h
    rw [h]

/-- A version byte that stands for a network can come to stand for none, but not for another. -/
theorem eq_of_uniqueByVersion?_append (hgrow : r'.profiles = r.profiles ++ extras)
    {version : UInt8} {n m : Profile} (h : r.uniqueByVersion? version = some n)
    (h' : r'.uniqueByVersion? version = some m) : m = n := by
  rw [uniqueByVersion?_eq_some_iff] at h h'
  rw [hgrow, List.filter_append, h, List.singleton_append, List.cons.injEq] at h'
  exact h'.1.symm

end Registry

namespace Address

/-! ## Readers -/

/-- The networks of a longer list are tried after those of the shorter one. -/
theorem tryCashAddr_append (text : Text) (ns ms : List Profile) :
    tryCashAddr text (ns ++ ms) = (tryCashAddr text ns).or (tryCashAddr text ms) := by
  induction ns with
  | nil => rfl
  | cons n ns ih =>
    rw [List.cons_append, tryCashAddr, tryCashAddr, ih]
    cases ofCashAddr n text with
    | ok a => rfl
    | error e =>
      show (if leavesOpen e then _ else _) = Option.or (if leavesOpen e then _ else _) _
      by_cases hopen : leavesOpen e = true
      · rw [if_pos hopen, if_pos hopen]
      · rw [if_neg hopen, if_neg hopen]
        rfl

section Growth

variable {r r' : Registry} {extras : List Profile} {text : Text}

/-- An explicit prefix keeps its network. -/
theorem networkOfPrefix_append (hgrow : r'.profiles = r.profiles ++ extras) {cashPrefix : Text}
    {n : Profile} (h : networkOfPrefix r none cashPrefix = .ok n) :
    networkOfPrefix r' none cashPrefix = .ok n := by
  rw [networkOfPrefix_none_eq_ok_iff] at h ⊢
  exact Registry.byPrefix?_append hgrow h

/-- The network of a version byte is the only one that uses it. -/
theorem networkOfVersion_none_eq_ok_iff {version : UInt8} {n : Profile} :
    networkOfVersion r none version = .ok n ↔ r.uniqueByVersion? version = some n := by
  unfold networkOfVersion
  cases hunique : r.uniqueByVersion? version with
  | some m => simp
  | none =>
    by_cases hknown : r.knowsVersion version = true <;> simp [hknown]

/-- Legacy texts keep their address, if they keep any. -/
theorem eq_of_parseLegacy_append (hgrow : r'.profiles = r.profiles ++ extras) {a b : Address}
    (h : parseLegacy r none text = .ok a) (h' : parseLegacy r' none text = .ok b) : b = a := by
  unfold parseLegacy at h h'
  cases hcheck : Base58.decodeCheck text with
  | error e => simp [hcheck] at h
  | ok parts =>
    obtain ⟨version, payload⟩ := parts
    simp only [hcheck] at h h'
    cases hn : networkOfVersion r none version with
    | error e => simp [hn] at h
    | ok n =>
      cases hm : networkOfVersion r' none version with
      | error e => simp [hm] at h'
      | ok m =>
        -- Both registries take the version byte for the same network.
        have hsame : m = n := Registry.eq_of_uniqueByVersion?_append hgrow
          (networkOfVersion_none_eq_ok_iff.mp hn) (networkOfVersion_none_eq_ok_iff.mp hm)
        simp only [hn] at h
        simp only [hm, hsame, h, Except.ok.injEq] at h'
        exact h'.symm

/-! ## Parsing -/

/-- **An address is kept** if the text names its prefix or a checksum fits under an old network. Only
    a legacy text is left. -/
theorem parseWith_append_or_legacy (hgrow : r'.profiles = r.profiles ++ extras) {a : Address}
    (h : parseWith r none text = .ok a) :
    parseWith r' none text = .ok a ∨
      (Text.splitLast? ':' text = none ∧ tryCashAddr text r.profiles = none ∧
        parseLegacy r none text = .ok a) := by
  cases hsplit : Text.splitLast? ':' text with
  | some parts =>
    left
    obtain ⟨hn, hok⟩ := networkOfPrefix_of_parseWith hsplit h
    rw [parseWith_of_splitLast? hsplit (networkOfPrefix_append hgrow hn), hok]
  | none =>
    unfold parseWith at h ⊢
    simp only [hsplit, candidates] at h ⊢
    cases hold : tryCashAddr text r.profiles with
    | some answer =>
      left
      simp only [hold] at h
      simp only [hgrow, tryCashAddr_append, hold, Option.some_or, h]
    | none =>
      simp only [hold] at h
      exact .inr ⟨trivial, rfl, h⟩

/-- **A legacy text keeps its address or loses it.** No new network takes the text for CashAddr, and
    none but the old one has its version byte alone. -/
theorem parseWith_append_of_legacy (hgrow : r'.profiles = r.profiles ++ extras) {a : Address}
    (hsplit : Text.splitLast? ':' text = none) (hold : tryCashAddr text r.profiles = none)
    (h : parseLegacy r none text = .ok a) :
    parseWith r' none text = .ok a ∨ ∃ e, parseWith r' none text = .error e := by
  simp only [parseWith, hsplit, candidates, hgrow, tryCashAddr_append, hold, Option.none_or]
  cases hnew : tryCashAddr text extras with
  | some answer =>
    cases answer with
    | error e => exact .inr ⟨e, rfl⟩
    | ok b =>
      obtain ⟨n, -, hlegacy⟩ := accepted_of_parseLegacy h
      obtain ⟨m, -, hcash⟩ := accepted_of_tryCashAddr hnew
      exact absurd hcash ((looksLegacy_of_ofLegacy hlegacy).ofCashAddr_ne_ok m b)
  | none =>
    show parseLegacy r' none text = .ok a ∨ ∃ e, parseLegacy r' none text = .error e
    cases hlater : parseLegacy r' none text with
    | error e => exact .inr ⟨e, rfl⟩
    | ok b =>
      left
      rw [eq_of_parseLegacy_append hgrow h hlater]

end Growth

/-- **Growing a registry never turns a text into another address.** With more networks at the end, a
    text that gave an address gives the same one or none, and CashAddr text gives the same one. -/
theorem parseWith_append {r r' : Registry} {extras : List Profile}
    (hgrow : Registry.ofList (r.profiles ++ extras) = .ok r') {text : Text} {a : Address}
    (h : parseWith r none text = .ok a) :
    (parseWith r' none text = .ok a ∨ ∃ e, parseWith r' none text = .error e) ∧
    ((∃ n ∈ r.profiles, ∃ b, ofCashAddr n text = .ok b) → parseWith r' none text = .ok a) := by
  have hprofiles := Registry.profiles_of_ofList hgrow
  rcases parseWith_append_or_legacy hprofiles h with hkept | ⟨hsplit, hold, hlegacy⟩
  · exact ⟨.inl hkept, fun _ => hkept⟩
  · refine ⟨parseWith_append_of_legacy hprofiles hsplit hold hlegacy, ?_⟩
    -- A legacy text is not a CashAddr text on any network.
    rintro ⟨m, -, b, hcash⟩
    obtain ⟨n, -, hok⟩ := accepted_of_parseLegacy hlegacy
    exact absurd hcash ((looksLegacy_of_ofLegacy hok).ofCashAddr_ne_ok m b)

/-- With the local chain in the registry, a legacy text of the test network loses its address, and
    the bare CashAddr text of the same hash keeps it. -/
theorem parseWith_append_regtest :
    ∃ (r' : Registry) (a : Address),
      Registry.ofList (Registry.standard.profiles ++ [.regtest]) = .ok r' ∧
      parseWith .standard none "mrLC19Je2BuWQDkWSTriGYPyQJXKkkBmCx".toList = .ok a ∧
      (∃ e, parseWith r' none "mrLC19Je2BuWQDkWSTriGYPyQJXKkkBmCx".toList = .error e) ∧
      parseWith .standard none "qpm2qsznhks23z7629mms6s4cwef74vcwvqcw003ap".toList = .ok a ∧
      parseWith r' none "qpm2qsznhks23z7629mms6s4cwef74vcwvqcw003ap".toList = .ok a := by
  let a : Address := ⟨.testnet, .pubKeyHash, .bytes20,
    [0x76, 0xa0, 0x40, 0x53, 0xbd, 0xa0, 0xa8, 0x8b, 0xda, 0x51, 0x77, 0xb8, 0x6a, 0x15, 0xc3, 0xb2,
      0x9f, 0x55, 0x98, 0x73]⟩
  let r' : Registry := ⟨[.mainnet, .testnet, .regtest], by decide⟩
  have hgrow : Registry.ofList (Registry.standard.profiles ++ [.regtest]) = .ok r' := by rfl
  have hlegacy : parseWith .standard none "mrLC19Je2BuWQDkWSTriGYPyQJXKkkBmCx".toList = .ok a := by
    decide +kernel
  have hcash : parseWith .standard none "qpm2qsznhks23z7629mms6s4cwef74vcwvqcw003ap".toList =
      .ok a := by
    decide +kernel
  have htestnet : ofCashAddr .testnet "qpm2qsznhks23z7629mms6s4cwef74vcwvqcw003ap".toList =
      .ok a := by
    decide +kernel
  have hlost : parseWith r' none "mrLC19Je2BuWQDkWSTriGYPyQJXKkkBmCx".toList ≠ .ok a := by
    decide +kernel
  refine ⟨r', a, hgrow, hlegacy, ?_, hcash, ?_⟩
  · exact (parseWith_append hgrow hlegacy).1.resolve_left hlost
  · exact (parseWith_append hgrow hcash).2 ⟨.testnet, by decide, a, htestnet⟩

end Address

end BitcoinCash
