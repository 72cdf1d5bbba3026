import BitcoinCash.Address.Classify
import BitcoinCash.Proofs.Address.Growth

/-! # How a bare text is read

  A text without a prefix is tried as CashAddr under one network after another, and the failure of a
  try decides whether the next one is made.

  - **Before a checksum fits** there are three failures, and they leave the next try open
    (`leavesOpen_of_decodeSymbols`). **After it** there are others, and they are final
    (`IsPayloadError`). So the tries end at the first network with a checksum that fits, whatever
    comes out for it (`tryCashAddr_eq`).
  - **If none fits**, the version byte of the Base58Check text decides (`parseLegacy_of_version`).
  - **`parseWith_bare`** is the main statement.
-/

namespace BitcoinCash

/-! ## Version bytes in use -/

/-- A network uses a version byte if it is the one of either kind. -/
theorem Profile.usesVersion_eq (n : Profile) (version : UInt8) :
    n.usesVersion version =
      decide (version = n.pubKeyHashVersion ∨ version = n.scriptHashVersion) := by
  unfold usesVersion kindOfVersion?
  by_cases hkey : version = n.pubKeyHashVersion
  · rw [if_pos hkey, decide_eq_true (.inl hkey)]
    rfl
  rw [if_neg hkey]
  by_cases hscript : version = n.scriptHashVersion
  · rw [if_pos hscript, decide_eq_true (.inr hscript)]
    rfl
  · rw [if_neg hscript, decide_eq_false (not_or.mpr ⟨hkey, hscript⟩)]
    rfl

/-- A version byte is known if there is a network on the list of those that use it. -/
theorem Registry.knowsVersion_eq (r : Registry) (version : UInt8) :
    r.knowsVersion version = !(r.profiles.filter (·.usesVersion version)).isEmpty := by
  unfold knowsVersion byVersion?
  rw [← List.head?_filter]
  cases r.profiles.filter (·.usesVersion version) with
  | nil => rfl
  | cons n ns => rfl

namespace Address

/-! ## Failures before and after a checksum fits -/

theorem error_of_readSymbols {text : Text} {e : AddressError}
    (h : CashAddr.readSymbols text = .error e) : ∃ c, e = .invalidCharacter c := by
  induction text with
  | nil => simp [CashAddr.readSymbols] at h
  | cons c text ih =>
    unfold CashAddr.readSymbols at h
    cases hc : CashAddr.Symbol.ofChar? c with
    | none =>
      simp only [hc, Except.error.injEq] at h
      exact ⟨c, h.symm⟩
    | some s =>
      simp only [hc] at h
      cases hrest : CashAddr.readSymbols text with
      | error e' =>
        rw [hrest] at h
        cases h
        exact ih hrest
      | ok ss =>
        rw [hrest] at h
        cases h

/-- **Before a checksum fits**, each failure leaves the next try open. -/
theorem leavesOpen_of_decodeSymbols {defaultPrefix text : Text} {e : AddressError}
    (h : CashAddr.decodeSymbols defaultPrefix text = .error e) : leavesOpen e = true := by
  unfold CashAddr.decodeSymbols at h
  split at h
  · cases h
    rfl
  · rcases hsplit : CashAddr.splitPrefix defaultPrefix text with ⟨cashPrefix, body⟩
    simp only [hsplit] at h
    cases hread : CashAddr.readSymbols body with
    | error e' =>
      simp only [hread, Except.error.injEq] at h
      obtain ⟨c, hc⟩ := error_of_readSymbols hread
      rw [← h, hc]
      rfl
    | ok symbols =>
      simp only [hread] at h
      split at h
      · cases h
        rfl
      · split at h
        · cases h
        · cases h
          rfl

/-- The failures that are found behind a checksum that fits: in the padding, in the version byte, in
    the length of the hash, and in the prefix. -/
def IsPayloadError : AddressError → Prop
  | .excessPadding => True
  | .invalidPadding => True
  | .unknownVersionByte _ => True
  | .hashSizeMismatch _ => True
  | .prefixMismatch (.foreignPrefix _ _) => True
  | _ => False

/-- These failures are final. -/
theorem IsPayloadError.leavesOpen_eq_false {e : AddressError} (h : IsPayloadError e) :
    leavesOpen e = false := by
  cases e with
  | mixedCase => exact h.elim
  | invalidCharacter c => exact h.elim
  | checksumMismatch => exact h.elim
  | _ => rfl

theorem isPayloadError_of_symbolsToBytes {ss : List CashAddr.Symbol} {e : AddressError}
    (h : CashAddr.symbolsToBytes ss = .error e) : IsPayloadError e := by
  rw [CashAddr.error_of_symbolsToBytes h]
  split <;> trivial

theorem isPayloadError_of_parseVersionByte {version : UInt8} {e : AddressError}
    (h : parseVersionByte version = .error e) : IsPayloadError e := by
  rw [error_of_parseVersionByte h]
  trivial

theorem isPayloadError_of_splitPayload {cashPrefix : Text} {payload : Bytes} {e : AddressError}
    (h : CashAddr.splitPayload cashPrefix payload = .error e) : IsPayloadError e := by
  rcases CashAddr.error_of_splitPayload h with ⟨version, rfl⟩ | ⟨length, rfl⟩
  · trivial
  · trivial

theorem isPayloadError_of_new {n : Profile} {kind : AddressKind} {hash : Bytes} {e : AddressError}
    (h : new n kind hash = .error e) : IsPayloadError e := by
  unfold new at h
  split at h
  · cases h
  · cases h
    trivial

/-- **After a checksum fits**, each failure is one of the payload or of the prefix. -/
theorem isPayloadError_of_ofCashAddr {n : Profile} {text : Text} {e : AddressError}
    {decoded : Text × List CashAddr.Symbol}
    (hsymbols : CashAddr.decodeSymbols n.cashPrefix text = .ok decoded)
    (h : ofCashAddr n text = .error e) : IsPayloadError e := by
  unfold ofCashAddr CashAddr.decodeWithPrefix at h
  simp only [hsymbols] at h
  cases hbytes : CashAddr.symbolsToBytes decoded.2 with
  | error e' =>
    simp only [hbytes, Except.error.injEq] at h
    rw [← h]
    exact isPayloadError_of_symbolsToBytes hbytes
  | ok payload =>
    simp only [hbytes] at h
    cases hsplit : CashAddr.splitPayload decoded.1 payload with
    | error e' =>
      simp only [hsplit, Except.error.injEq] at h
      rw [← h]
      exact isPayloadError_of_splitPayload hsplit
    | ok d =>
      simp only [hsplit] at h
      split at h
      · cases h
        trivial
      · cases hparse : parseVersionByte d.version with
        | error e' =>
          simp only [hparse, Except.error.injEq] at h
          rw [← h]
          exact isPayloadError_of_parseVersionByte hparse
        | ok parts =>
          simp only [hparse] at h
          exact isPayloadError_of_new h

/-! ## The tries -/

theorem hasCashChecksum_eq_true_iff {n : Profile} {text : Text} :
    hasCashChecksum n text = true ↔
      ∃ decoded, CashAddr.decodeSymbols n.cashPrefix text = .ok decoded := by
  unfold hasCashChecksum
  cases CashAddr.decodeSymbols n.cashPrefix text with
  | ok decoded => simp
  | error e => simp

/-- A text without a checksum that fits is refused, and the next try is left open. -/
theorem ofCashAddr_of_not_hasCashChecksum {n : Profile} {text : Text}
    (h : hasCashChecksum n text = false) :
    ∃ e, ofCashAddr n text = .error e ∧ leavesOpen e = true := by
  cases hsymbols : CashAddr.decodeSymbols n.cashPrefix text with
  | ok decoded =>
    rw [hasCashChecksum_eq_true_iff.mpr ⟨decoded, hsymbols⟩] at h
    cases h
  | error e =>
    refine ⟨e, ?_, leavesOpen_of_decodeSymbols hsymbols⟩
    unfold ofCashAddr CashAddr.decodeWithPrefix
    simp only [hsymbols]

/-- **The tries end at the first network with a checksum that fits**, and what comes out for it is
    the answer. -/
theorem tryCashAddr_eq (text : Text) (ns : List Profile) :
    tryCashAddr text ns = (ns.find? (hasCashChecksum · text)).map (ofCashAddr · text) := by
  induction ns with
  | nil => rfl
  | cons n ns ih =>
    rw [tryCashAddr, List.find?_cons]
    cases hfits : hasCashChecksum n text with
    | true =>
      obtain ⟨decoded, hsymbols⟩ := hasCashChecksum_eq_true_iff.mp hfits
      cases hread : ofCashAddr n text with
      | ok a =>
        show some (Except.ok a) = some (ofCashAddr n text)
        rw [hread]
      | error e =>
        -- The failure is one of the payload, so no other network is tried.
        have hfinal := (isPayloadError_of_ofCashAddr hsymbols hread).leavesOpen_eq_false
        show (if leavesOpen e = true then _ else some (Except.error e)) = some (ofCashAddr n text)
        rw [hfinal, if_neg Bool.false_ne_true, hread]
    | false =>
      obtain ⟨e, hread, hopen⟩ := ofCashAddr_of_not_hasCashChecksum hfits
      simp only [hread, hopen, if_true, ih]

/-- If a checksum fits for some network of a list, there is a first such network. -/
theorem exists_first_checksum {text : Text} {ns : List Profile}
    (h : ∃ n ∈ ns, ∃ decoded, CashAddr.decodeSymbols n.cashPrefix text = .ok decoded) :
    ∃ before n after, ns = before ++ n :: after ∧
      (∀ m ∈ before, ∀ decoded, CashAddr.decodeSymbols m.cashPrefix text ≠ .ok decoded) ∧
      (∃ decoded, CashAddr.decodeSymbols n.cashPrefix text = .ok decoded) ∧
      ns.find? (hasCashChecksum · text) = some n := by
  obtain ⟨m, hm, hfits⟩ := h
  have hsome : (ns.find? (hasCashChecksum · text)).isSome = true :=
    List.find?_isSome.mpr ⟨m, hm, hasCashChecksum_eq_true_iff.mpr hfits⟩
  obtain ⟨n, hfirst⟩ := Option.isSome_iff_exists.mp hsome
  obtain ⟨hn, before, after, hsplit, hbefore⟩ := List.find?_eq_some_iff_append.mp hfirst
  refine ⟨before, n, after, hsplit, ?_, hasCashChecksum_eq_true_iff.mp hn, hfirst⟩
  intro m' hm' decoded hok
  have hnot := hbefore m' hm'
  rw [hasCashChecksum_eq_true_iff.mpr ⟨decoded, hok⟩] at hnot
  exact absurd hnot (by decide)

/-- If no checksum fits, no network is found. -/
theorem find?_hasCashChecksum_eq_none {text : Text} {ns : List Profile}
    (h : ∀ n ∈ ns, ∀ decoded, CashAddr.decodeSymbols n.cashPrefix text ≠ .ok decoded) :
    ns.find? (hasCashChecksum · text) = none := by
  apply List.find?_eq_none.mpr
  intro n hn hfits
  obtain ⟨decoded, hok⟩ := hasCashChecksum_eq_true_iff.mp hfits
  exact h n hn decoded hok

/-! ## Base58Check, if no checksum fits -/

section Legacy

variable {registry : Registry} {network : Option Profile} {text : Text} {version : UInt8}
  {payload : Bytes}

/-- **The network of a version byte** depends on how many networks use it. -/
theorem networkOfVersion_none (registry : Registry) (version : UInt8) :
    networkOfVersion registry none version =
      match registry.profiles.filter (·.usesVersion version) with
      | [] => .error (.prefixMismatch (.unknownVersion version))
      | [n] => .ok n
      | _ => .error (.ambiguousNetwork version) := by
  unfold networkOfVersion Registry.uniqueByVersion?
  rw [Registry.knowsVersion_eq]
  cases registry.profiles.filter (·.usesVersion version) with
  | nil => rfl
  | cons n ns =>
    cases ns with
    | nil => rfl
    | cons m ns => rfl

theorem networkOfVersion_ne_unrecognizedFormat :
    networkOfVersion registry network version ≠ .error .unrecognizedFormat := by
  cases network with
  | some n =>
    intro h
    cases h
  | none =>
    intro h
    rw [networkOfVersion_none] at h
    split at h <;> cases h

theorem ofLegacyParts_ne_unrecognizedFormat {n : Profile} :
    ofLegacyParts n version payload ≠ .error .unrecognizedFormat := by
  intro h
  unfold ofLegacyParts at h
  split at h
  · cases h
  · split at h
    · cases h
    · exact isPayloadError_of_new h

/-- A text with a version byte is read for the given network. -/
theorem parseLegacy_some (h : Base58.decodeCheck text = .ok (version, payload)) (n : Profile) :
    parseLegacy registry (some n) text = ofLegacy n text := by
  unfold parseLegacy ofLegacy
  simp only [h]
  rfl

/-- **Without a given network**, a text with a version byte is read for the only network that uses
    the version byte for either kind. -/
theorem parseLegacy_none (h : Base58.decodeCheck text = .ok (version, payload)) :
    parseLegacy registry none text =
      match registry.profiles.filter fun n =>
        version = n.pubKeyHashVersion ∨ version = n.scriptHashVersion with
      | [] => .error (.prefixMismatch (.unknownVersion version))
      | [n] => ofLegacy n text
      | _ => .error (.ambiguousNetwork version) := by
  have husers : registry.profiles.filter (·.usesVersion version) =
      registry.profiles.filter fun n =>
        version = n.pubKeyHashVersion ∨ version = n.scriptHashVersion :=
    List.filter_congr fun n _ => n.usesVersion_eq version
  rw [← husers]
  unfold parseLegacy ofLegacy
  simp only [h, networkOfVersion_none]
  generalize registry.profiles.filter (·.usesVersion version) = users
  rcases users with _ | ⟨n, _ | ⟨m, ns⟩⟩
  · rfl
  · rfl
  · rfl

/-- **Neither format**: that is the answer exactly if the text is not Base58Check. -/
theorem parseLegacy_eq_unrecognizedFormat_iff :
    parseLegacy registry network text = .error .unrecognizedFormat ↔
      ∃ e, Base58.decodeCheck text = .error e := by
  constructor
  · intro h
    cases hcheck : Base58.decodeCheck text with
    | error e => exact ⟨e, rfl⟩
    | ok parts =>
      -- What comes after the checksum has failures of its own.
      unfold parseLegacy at h
      simp only [hcheck] at h
      cases hn : networkOfVersion registry network parts.1 with
      | error e =>
        simp only [hn, Except.error.injEq] at h
        rw [h] at hn
        exact absurd hn networkOfVersion_ne_unrecognizedFormat
      | ok n =>
        simp only [hn] at h
        exact absurd h ofLegacyParts_ne_unrecognizedFormat
  · intro ⟨e, hcheck⟩
    unfold parseLegacy
    simp only [hcheck]

end Legacy

/-! ## Bare texts -/

/-- A bare text is read as CashAddr if a checksum fits, and otherwise as Base58Check. -/
theorem parseWith_of_bare_eq (registry : Registry) (network : Option Profile) {text : Text}
    (hbare : ':' ∉ text) :
    parseWith registry network text =
      match (candidates registry network).find? (hasCashChecksum · text) with
      | some n => ofCashAddr n text
      | none => parseLegacy registry network text := by
  unfold parseWith
  simp only [Text.splitLast?_eq_none_iff.mpr hbare, tryCashAddr_eq]
  cases (candidates registry network).find? (hasCashChecksum · text) with
  | some n => rfl
  | none => rfl

/-- **How a bare text is read**, for a given network or for those of a registry.

    - If the symbols of the text pass under the prefix of some candidate, the first such candidate
      decides: the answer is what the text gives as CashAddr for it. This is never the address that
      the text has as Base58Check for any network, and if it is a failure, it is one of the payload.
    - If they pass under none, the text is in neither format exactly if it is not Base58Check. If it
      is, it is read for the given network; without one, the networks that use the version byte for
      either kind decide, of which there has to be exactly one. -/
theorem parseWith_bare (registry : Registry) (network : Option Profile) {text : Text}
    (hbare : ':' ∉ text) :
    ((∃ n ∈ candidates registry network, ∃ decoded,
        CashAddr.decodeSymbols n.cashPrefix text = .ok decoded) →
      ∃ before n after, candidates registry network = before ++ n :: after ∧
        (∀ m ∈ before, ∀ decoded, CashAddr.decodeSymbols m.cashPrefix text ≠ .ok decoded) ∧
        (∃ decoded, CashAddr.decodeSymbols n.cashPrefix text = .ok decoded) ∧
        parseWith registry network text = ofCashAddr n text ∧
        (∀ m a, ofLegacy m text = .ok a → parseWith registry network text ≠ .ok a) ∧
        ∀ e, parseWith registry network text = .error e → IsPayloadError e) ∧
    ((∀ n ∈ candidates registry network, ∀ decoded,
        CashAddr.decodeSymbols n.cashPrefix text ≠ .ok decoded) →
      (parseWith registry network text = .error .unrecognizedFormat ↔
        ∃ e, Base58.decodeCheck text = .error e) ∧
      ∀ version payload, Base58.decodeCheck text = .ok (version, payload) →
        (∀ n, network = some n → parseWith registry network text = ofLegacy n text) ∧
        (network = none → ∀ users,
          (registry.profiles.filter fun n =>
            version = n.pubKeyHashVersion ∨ version = n.scriptHashVersion) = users →
          (2 ≤ users.length →
            parseWith registry network text = .error (.ambiguousNetwork version)) ∧
          (users = [] →
            parseWith registry network text =
              .error (.prefixMismatch (.unknownVersion version))) ∧
          ∀ n, users = [n] → parseWith registry network text = ofLegacy n text)) := by
  have hparse := parseWith_of_bare_eq registry network hbare
  constructor
  · -- A checksum fits, and the first network for which it does has the last word.
    intro hfits
    obtain ⟨before, n, after, hsplit, hbefore, ⟨decoded, hn⟩, hfirst⟩ := exists_first_checksum hfits
    simp only [hfirst] at hparse
    refine ⟨before, n, after, hsplit, hbefore, ⟨decoded, hn⟩, hparse, ?_, ?_⟩
    · intro m a hlegacy
      rw [hparse]
      exact (looksLegacy_of_ofLegacy hlegacy).ofCashAddr_ne_ok n a
    · intro e he
      rw [hparse] at he
      exact isPayloadError_of_ofCashAddr hn he
  · -- No checksum fits, so the text is taken for Base58Check.
    intro hnone
    simp only [find?_hasCashChecksum_eq_none hnone] at hparse
    rw [hparse]
    refine ⟨parseLegacy_eq_unrecognizedFormat_iff, ?_⟩
    intro version payload hcheck
    constructor
    · intro n hn
      rw [hn]
      exact parseLegacy_some hcheck n
    · intro hn users husers
      rw [hn, parseLegacy_none hcheck, husers]
      rcases users with _ | ⟨n, _ | ⟨m, ns⟩⟩
      -- None, one and several networks use the version byte.
      · simp
      · simp
      · simp

/-- Bare texts of the public test network, read by a registry that has the local chain as well: the
    checksum of the one tells the network, the version byte of the other does not. -/
theorem parseWith_bare_testnet :
    ∃ r : Registry, r.profiles = [.mainnet, .testnet, .regtest] ∧
      (∃ before n after, r.profiles = before ++ n :: after ∧
        parseWith r none "qpm2qsznhks23z7629mms6s4cwef74vcwvqcw003ap".toList =
          ofCashAddr n "qpm2qsznhks23z7629mms6s4cwef74vcwvqcw003ap".toList) ∧
      parseWith r none "mrLC19Je2BuWQDkWSTriGYPyQJXKkkBmCx".toList =
        .error (.ambiguousNetwork 0x6f) ∧
      parseWith r (some .regtest) "mrLC19Je2BuWQDkWSTriGYPyQJXKkkBmCx".toList =
        ofLegacy .regtest "mrLC19Je2BuWQDkWSTriGYPyQJXKkkBmCx".toList := by
  let r : Registry := ⟨[.mainnet, .testnet, .regtest], by decide⟩
  have hfits : hasCashChecksum .testnet "qpm2qsznhks23z7629mms6s4cwef74vcwvqcw003ap".toList =
      true := by
    decide +kernel
  have hnone : ∀ n ∈ r.profiles,
      hasCashChecksum n "mrLC19Je2BuWQDkWSTriGYPyQJXKkkBmCx".toList = false := by
    decide +kernel
  have hnone' : ∀ n ∈ r.profiles, ∀ decoded, CashAddr.decodeSymbols n.cashPrefix
      "mrLC19Je2BuWQDkWSTriGYPyQJXKkkBmCx".toList ≠ .ok decoded := by
    intro n hn decoded hok
    have hnot := hnone n hn
    rw [hasCashChecksum_eq_true_iff.mpr ⟨decoded, hok⟩] at hnot
    cases hnot
  have hcheck : Base58.decodeCheck "mrLC19Je2BuWQDkWSTriGYPyQJXKkkBmCx".toList =
      .ok (0x6f, [0x76, 0xa0, 0x40, 0x53, 0xbd, 0xa0, 0xa8, 0x8b, 0xda, 0x51, 0x77, 0xb8, 0x6a,
        0x15, 0xc3, 0xb2, 0x9f, 0x55, 0x98, 0x73]) := by
    decide +kernel
  refine ⟨r, rfl, ?_, ?_, ?_⟩
  · have hbare : ':' ∉ "qpm2qsznhks23z7629mms6s4cwef74vcwvqcw003ap".toList := by decide
    obtain ⟨before, n, after, hsplit, -, -, hparse, -⟩ :=
      (parseWith_bare r none hbare).1 ⟨.testnet, by decide, hasCashChecksum_eq_true_iff.mp hfits⟩
    exact ⟨before, n, after, hsplit, hparse⟩
  · have hlegacy := ((parseWith_bare r none (by decide)).2 hnone').2 _ _ hcheck
    exact (hlegacy.2 rfl [.testnet, .regtest] (by decide)).1 (by decide)
  · have hregtest : ∀ n ∈ candidates r (some .regtest), ∀ decoded,
        CashAddr.decodeSymbols n.cashPrefix "mrLC19Je2BuWQDkWSTriGYPyQJXKkkBmCx".toList ≠
          .ok decoded := by
      intro n hn
      rw [List.mem_singleton.mp hn]
      exact hnone' .regtest (by decide)
    exact (((parseWith_bare r (some .regtest) (by decide)).2 hregtest).2 _ _ hcheck).1 .regtest rfl

end Address

end BitcoinCash
