import BitcoinCash.Proofs.Address.Parsing
import BitcoinCash.Proofs.Address.Routing
import BitcoinCash.Proofs.CashAddr.Domain

/-! # The network that a text stands for

  A text without a given network is read for one that it stands for itself: by its prefix, by its
  checksum, or by its version byte.

  - **Reading again**: a text that gives an address gives it for the network of the address, too, and
    then no registry is asked (`parseWith_given`).
  - **Several networks at once**: a version byte that several networks use stands for none of them, but
    a checksum that fits several networks stands for the first. So the network of a bare text is the
    only one that the text fits unless another prefix leaves the same register behind
    (`classifyWith?_bare`). **`classifyWith?_guesses`** is such a text.
-/

namespace BitcoinCash

/-- A version byte has no only network if no network uses it, or if two do. -/
theorem Registry.uniqueByVersion?_eq_none_iff {r : Registry} {version : UInt8} :
    r.uniqueByVersion? version = none ↔
      (∀ n ∈ r.profiles, ¬n.usesVersion version = true) ∨
        ∃ n ∈ r.profiles, ∃ m ∈ r.profiles, n ≠ m ∧ n.usesVersion version = true ∧
          m.usesVersion version = true := by
  have husers : ∀ n, n ∈ r.profiles.filter (·.usesVersion version) ↔
      n ∈ r.profiles ∧ n.usesVersion version = true := fun _ => List.mem_filter
  have hdistinct : (r.profiles.filter (·.usesVersion version)).Nodup :=
    (List.Nodup.of_map _ r.nodup_prefixes).filter _
  unfold uniqueByVersion?
  generalize r.profiles.filter (·.usesVersion version) = users at husers hdistinct
  rcases users with _ | ⟨n, _ | ⟨m, users⟩⟩
  · -- No network uses the version byte.
    refine iff_of_true rfl (.inl ?_)
    intro n hn huses
    exact absurd ((husers n).mpr ⟨hn, huses⟩) List.not_mem_nil
  · -- One network uses it.
    have honly : ∀ m, m ∈ r.profiles ∧ m.usesVersion version = true ↔ m = n := by
      intro m
      rw [← husers, List.mem_singleton]
    refine iff_of_false (by simp) ?_
    rintro (hnot | ⟨p, hp, q, hq, hne, hp', hq'⟩)
    · obtain ⟨hn, hn'⟩ := (honly n).mpr rfl
      exact hnot n hn hn'
    · exact hne (((honly p).mp ⟨hp, hp'⟩).trans ((honly q).mp ⟨hq, hq'⟩).symm)
  · -- Several networks use it, and the first two of them are different.
    obtain ⟨hn, hn'⟩ := (husers n).mp (by simp)
    obtain ⟨hm, hm'⟩ := (husers m).mp (by simp)
    have hne : n ≠ m := by
      rintro rfl
      exact (List.nodup_cons.mp hdistinct).1 List.mem_cons_self
    exact iff_of_true rfl (.inr ⟨n, hn, m, hm, hne, hn', hm'⟩)

namespace Address

/-! ## Reading for the network of the address -/

section Given

variable {registry : Registry} {text : Text} {a : Address}

/-- A text with a prefix is read for the network that the prefix stands for. -/
theorem parseWith_given_of_prefix (registry' : Registry) (hcolon : ':' ∈ text)
    (h : parseWith registry none text = .ok a) :
    parseWith registry' (some a.network) text = .ok a := by
  cases hsplit : Text.splitLast? ':' text with
  | none => exact absurd hcolon (Text.splitLast?_eq_none_iff.mp hsplit)
  | some parts =>
    obtain ⟨cashPrefix, body⟩ := parts
    obtain ⟨hn, hok⟩ := networkOfPrefix_of_parseWith hsplit h
    have hown : networkOfPrefix registry' (some a.network) cashPrefix = .ok a.network :=
      networkOfPrefix_some (asciiCaseEq_of_networkOfPrefix hn)
    rw [parseWith_of_splitLast? hsplit hown, hok]

/-- A bare text is read for a given network if it is read for that network as CashAddr or, without a
    checksum that fits, as a legacy text. -/
theorem parseWith_some_of_bare {n : Profile} (hbare : ':' ∉ text) (registry : Registry)
    (h : ofCashAddr n text = .ok a ∨ hasCashChecksum n text = false ∧ ofLegacy n text = .ok a) :
    parseWith registry (some n) text = .ok a := by
  rcases h with hcash | ⟨hnot, hlegacy⟩
  · exact parseWith_of_bare hbare hcash
  · -- There is one candidate, and no checksum fits for it.
    rw [parseWith_of_bare_eq registry (some n) hbare]
    have hnone : (candidates registry (some n)).find? (hasCashChecksum · text) = none := by
      simp [candidates, hnot]
    simp only [hnone]
    cases hcheck : Base58.decodeCheck text with
    | error e => simp [ofLegacy, hcheck] at hlegacy
    | ok parts => rw [parseLegacy_some hcheck n, hlegacy]

/-- A bare text is read for the network of the first checksum that fits or, if none does, of its version
    byte. -/
theorem parseWith_given_of_bare (registry' : Registry) (hbare : ':' ∉ text)
    (h : parseWith registry none text = .ok a) :
    parseWith registry' (some a.network) text = .ok a := by
  apply parseWith_some_of_bare hbare
  rw [parseWith_of_bare_eq registry none hbare] at h
  cases hfirst : (candidates registry none).find? (hasCashChecksum · text) with
  | some n =>
    left
    simp only [hfirst] at h
    rw [(ofCashAddr_eq_ok_iff.mp h).2.1]
    exact h
  | none =>
    right
    simp only [hfirst] at h
    obtain ⟨n, hn, hlegacy⟩ := accepted_of_parseLegacy h
    rw [(ofLegacy_eq_ok_iff.mp hlegacy).1]
    -- The network of the version byte is a candidate, and no checksum fits for any of these.
    have hnot := List.find?_eq_none.mp hfirst n hn
    exact ⟨Bool.eq_false_of_not_eq_true hnot, hlegacy⟩

end Given

/-- **Giving the network that was found changes nothing.** A text that gives an address without a given
    network gives the same address for the network of the address, whatever the registry is then. -/
theorem parseWith_given {registry : Registry} {text : Text} {a : Address}
    (h : parseWith registry none text = .ok a) (registry' : Registry) :
    parseWith registry' (some a.network) text = .ok a := by
  by_cases hcolon : ':' ∈ text
  · exact parseWith_given_of_prefix registry' hcolon h
  · exact parseWith_given_of_bare registry' hcolon h

/-- A legacy text of the public test network, read again with only the production network registered. -/
theorem parseWith_given_testnet :
    ∃ a : Address, a.network = .testnet ∧
      parseWith .standard none "mrLC19Je2BuWQDkWSTriGYPyQJXKkkBmCx".toList = .ok a ∧
      parseWith (.single .mainnet) (some .testnet) "mrLC19Je2BuWQDkWSTriGYPyQJXKkkBmCx".toList =
        .ok a := by
  let a : Address := ⟨.testnet, .pubKeyHash, .bytes20,
    [0x76, 0xa0, 0x40, 0x53, 0xbd, 0xa0, 0xa8, 0x8b, 0xda, 0x51, 0x77, 0xb8, 0x6a, 0x15, 0xc3, 0xb2,
      0x9f, 0x55, 0x98, 0x73]⟩
  have hparse : parseWith .standard none "mrLC19Je2BuWQDkWSTriGYPyQJXKkkBmCx".toList = .ok a := by
    decide +kernel
  exact ⟨a, rfl, hparse, parseWith_given hparse (.single .mainnet)⟩

/-! ## Networks that a bare text fits -/

/-- No registered network has a checksum that fits the text. -/
def NoChecksumFits (registry : Registry) (text : Text) : Prop :=
  ∀ n ∈ registry.profiles, hasCashChecksum n text = false

/-- **A network fits a bare text** by its checksum or, if no registered network does so, by using the
    first byte of the text as a version byte. -/
def FitsBare (registry : Registry) (text : Text) (n : Profile) : Prop :=
  hasCashChecksum n text = true ∨
    NoChecksumFits registry text ∧
      ∃ version rest, Base58.decodeRaw text = .ok (version :: rest) ∧ n.usesVersion version = true

section Bare

variable {registry : Registry} {text : Text} {n m : Profile}

/-- If a checksum fits, version bytes do not count. -/
theorem fitsBare_iff_of_checksum (hn : n ∈ registry.profiles) (hfits : hasCashChecksum n text = true) :
    FitsBare registry text m ↔ hasCashChecksum m text = true := by
  constructor
  · rintro (hm | ⟨hnone, -⟩)
    · exact hm
    · rw [hnone n hn] at hfits
      cases hfits
  · exact .inl

/-- If no checksum fits, the first byte of the text counts. -/
theorem fitsBare_iff_of_version (hnone : NoChecksumFits registry text) {version : UInt8} {rest : Bytes}
    (hraw : Base58.decodeRaw text = .ok (version :: rest)) (hm : m ∈ registry.profiles) :
    FitsBare registry text m ↔ m.usesVersion version = true := by
  constructor
  · rintro (hfits | ⟨-, version', rest', hraw', huses⟩)
    · rw [hnone m hm] at hfits
      cases hfits
    · rw [hraw, Except.ok.injEq, List.cons.injEq] at hraw'
      rw [hraw'.1]
      exact huses
  · intro huses
    exact .inr ⟨hnone, version, rest, hraw, huses⟩

/-- **A checksum that fits under one prefix** fits under another exactly if both leave the same register
    behind. -/
theorem hasCashChecksum_iff_prefixRegister (hbare : ':' ∉ text)
    (hfits : hasCashChecksum n text = true) :
    hasCashChecksum m text = true ↔
      CashAddr.prefixRegister m.cashPrefix.lower = CashAddr.prefixRegister n.cashPrefix.lower := by
  obtain ⟨decoded, hn⟩ := hasCashChecksum_eq_true_iff.mp hfits
  constructor
  · intro hm
    obtain ⟨decoded', hm⟩ := hasCashChecksum_eq_true_iff.mp hm
    exact CashAddr.prefixRegister_eq_of_decodeSymbols hbare hm hn
  · intro hsame
    -- Both prefixes read the same symbols from the text.
    have hread := CashAddr.map_decodeSymbols_congr hbare hsame
    rw [hn] at hread
    rw [hasCashChecksum_eq_true_iff]
    cases hm : CashAddr.decodeSymbols m.cashPrefix text with
    | ok decoded' => exact ⟨decoded', rfl⟩
    | error e =>
      rw [hm] at hread
      cases hread

/-- A bare text belongs to the first network with a checksum that fits or, if there is none, to the only
    one that uses its version byte. -/
theorem classifyWith?_of_bare_eq (registry : Registry) (hbare : ':' ∉ text) :
    classifyWith? registry text =
      (registry.profiles.find? (hasCashChecksum · text)).or (classifyLegacy? registry text) := by
  unfold classifyWith?
  simp only [Text.splitLast?_eq_none_iff.mpr hbare]
  cases registry.profiles.find? (hasCashChecksum · text) with
  | some n => rfl
  | none => rfl

theorem noChecksumFits_iff :
    NoChecksumFits registry text ↔ registry.profiles.find? (hasCashChecksum · text) = none := by
  unfold NoChecksumFits
  simp only [List.find?_eq_none, Bool.not_eq_true]

/-- The network of a version byte is the only one that fits. -/
theorem fitsBare_of_classifyLegacy? (hnone : NoChecksumFits registry text)
    (h : classifyLegacy? registry text = some n) :
    n ∈ registry.profiles ∧ FitsBare registry text n ∧
      ∀ m ∈ registry.profiles, FitsBare registry text m → m = n := by
  unfold classifyLegacy? at h
  split at h
  · next version rest hraw =>
    have honly : ∀ m, m = n ↔ m ∈ registry.profiles ∧ m.usesVersion version = true := by
      intro m
      rw [← List.mem_singleton, ← Registry.uniqueByVersion?_eq_some_iff.mp h]
      exact List.mem_filter
    obtain ⟨hn, huses⟩ := (honly n).mp rfl
    refine ⟨hn, (fitsBare_iff_of_version hnone hraw hn).mpr huses, ?_⟩
    intro m hm hfits
    exact (honly m).mpr ⟨hm, (fitsBare_iff_of_version hnone hraw hm).mp hfits⟩
  · cases h

/-- If a version byte finds no network, then none fits, or two do. -/
theorem classifyLegacy?_eq_none_iff (hnone : NoChecksumFits registry text) :
    classifyLegacy? registry text = none ↔
      (∀ n ∈ registry.profiles, ¬FitsBare registry text n) ∨
        ∃ n ∈ registry.profiles, ∃ m ∈ registry.profiles, n ≠ m ∧ FitsBare registry text n ∧
          FitsBare registry text m := by
  unfold classifyLegacy?
  split
  · next version rest hraw =>
    rw [Registry.uniqueByVersion?_eq_none_iff]
    have hfits : ∀ m ∈ registry.profiles,
        (m.usesVersion version = true ↔ FitsBare registry text m) :=
      fun m hm => (fitsBare_iff_of_version hnone hraw hm).symm
    apply or_congr
    · exact forall₂_congr fun n hn => not_congr (hfits n hn)
    · constructor
      · rintro ⟨n, hn, m, hm, hne, hn', hm'⟩
        exact ⟨n, hn, m, hm, hne, (hfits n hn).mp hn', (hfits m hm).mp hm'⟩
      · rintro ⟨n, hn, m, hm, hne, hn', hm'⟩
        exact ⟨n, hn, m, hm, hne, (hfits n hn).mpr hn', (hfits m hm).mpr hm'⟩
  · next hraw =>
    -- The text has no first byte.
    refine iff_of_true rfl (.inl ?_)
    rintro n hn (hfits | ⟨-, version, rest, hok, -⟩)
    · rw [hnone n hn] at hfits
      cases hfits
    · exact hraw version rest hok

end Bare

/-- **The network of a bare text** is a registered one that fits. Another registered network fits as
    well exactly if the text has a checksum that fits and the prefixes of the two networks leave the
    same register behind. A bare text belongs to no network exactly if no registered network fits, or
    if no checksum fits and two networks use its version byte. -/
theorem classifyWith?_bare (registry : Registry) {text : Text} (hbare : ':' ∉ text) :
    (∀ n, classifyWith? registry text = some n →
      n ∈ registry.profiles ∧ FitsBare registry text n ∧
      ∀ m ∈ registry.profiles, m ≠ n →
        (FitsBare registry text m ↔ hasCashChecksum n text = true ∧
          CashAddr.prefixRegister m.cashPrefix.lower =
            CashAddr.prefixRegister n.cashPrefix.lower)) ∧
    (classifyWith? registry text = none ↔
      (∀ n ∈ registry.profiles, ¬FitsBare registry text n) ∨
      NoChecksumFits registry text ∧ ∃ n ∈ registry.profiles, ∃ m ∈ registry.profiles,
        n ≠ m ∧ FitsBare registry text n ∧ FitsBare registry text m) := by
  rw [classifyWith?_of_bare_eq registry hbare]
  cases hfirst : registry.profiles.find? (hasCashChecksum · text) with
  | some first =>
    -- A checksum fits, and the first network for which it does is taken.
    have hn : first ∈ registry.profiles := List.mem_of_find?_eq_some hfirst
    have hfits : hasCashChecksum first text = true :=
      List.find?_some (p := fun n => hasCashChecksum n text) hfirst
    constructor
    · intro n hclass
      obtain rfl : first = n := Option.some.inj hclass
      refine ⟨hn, .inl hfits, ?_⟩
      intro m _ _
      rw [fitsBare_iff_of_checksum hn hfits, hasCashChecksum_iff_prefixRegister hbare hfits,
        and_iff_right hfits]
    · refine iff_of_false (by simp) ?_
      rintro (hnot | ⟨hnone, -⟩)
      · exact hnot first hn (.inl hfits)
      · rw [hnone first hn] at hfits
        cases hfits
  | none =>
    -- No checksum fits, and the version byte decides.
    have hnone : NoChecksumFits registry text := noChecksumFits_iff.mpr hfirst
    rw [Option.none_or]
    constructor
    · intro n hclass
      obtain ⟨hn, hfits, honly⟩ := fitsBare_of_classifyLegacy? hnone hclass
      refine ⟨hn, hfits, ?_⟩
      intro m hm hne
      refine iff_of_false (fun hm' => hne (honly m hm hm')) ?_
      rintro ⟨hfits', -⟩
      rw [hnone n hn] at hfits'
      cases hfits'
    · rw [classifyLegacy?_eq_none_iff hnone, and_iff_right hnone]

/-- A bare text of the public test network fits no other shipped network; a legacy text of it fits the
    local chain as well, and belongs to none. -/
theorem classifyWith?_bare_shipped :
    ∃ r : Registry, r.profiles = [.mainnet, .testnet, .regtest] ∧
      classifyWith? r "qpm2qsznhks23z7629mms6s4cwef74vcwvqcw003ap".toList = some .testnet ∧
      ¬FitsBare r "qpm2qsznhks23z7629mms6s4cwef74vcwvqcw003ap".toList .regtest ∧
      classifyWith? r "mrLC19Je2BuWQDkWSTriGYPyQJXKkkBmCx".toList = none ∧
      ∃ n ∈ r.profiles, FitsBare r "mrLC19Je2BuWQDkWSTriGYPyQJXKkkBmCx".toList n := by
  let r : Registry := ⟨[.mainnet, .testnet, .regtest], by decide⟩
  have hcash : classifyWith? r "qpm2qsznhks23z7629mms6s4cwef74vcwvqcw003ap".toList =
      some .testnet := by
    decide +kernel
  have hnone : ∀ n ∈ r.profiles,
      hasCashChecksum n "mrLC19Je2BuWQDkWSTriGYPyQJXKkkBmCx".toList = false := by
    decide +kernel
  have hcheck : Base58.decodeCheck "mrLC19Je2BuWQDkWSTriGYPyQJXKkkBmCx".toList =
      .ok (0x6f, [0x76, 0xa0, 0x40, 0x53, 0xbd, 0xa0, 0xa8, 0x8b, 0xda, 0x51, 0x77, 0xb8, 0x6a,
        0x15, 0xc3, 0xb2, 0x9f, 0x55, 0x98, 0x73]) := by
    decide +kernel
  obtain ⟨rest, hraw⟩ := Base58.exists_decodeRaw hcheck
  have hfits : ∀ n ∈ [Profile.testnet, .regtest],
      FitsBare r "mrLC19Je2BuWQDkWSTriGYPyQJXKkkBmCx".toList n := by
    intro n hn
    have huses : ∀ n ∈ [Profile.testnet, .regtest], n.usesVersion 0x6f = true := by decide
    exact .inr ⟨hnone, 0x6f, rest, hraw, huses n hn⟩
  refine ⟨r, rfl, hcash, ?_, ?_, .testnet, by decide, hfits _ (by decide)⟩
  · have hother := ((classifyWith?_bare r (by decide)).1 _ hcash).2.2 .regtest (by decide) (by decide)
    rw [hother]
    rintro ⟨-, hsame⟩
    exact absurd hsame (by decide +kernel)
  · apply ((classifyWith?_bare r (by decide)).2).mpr
    exact .inr ⟨hnone, .testnet, by decide, .regtest, by decide, by decide, hfits _ (by decide),
      hfits _ (by decide)⟩

/-- **A guess**: digits have the low five bits of letters, so two prefixes in small letters leave the same
    register behind. A bare text then fits both networks, and it belongs to the one that is registered
    first. -/
theorem classifyWith?_guesses :
    ∃ (n : Profile) (r : Registry), n.cashPrefix = "bchte34".toList ∧
      Registry.ofList [.testnet, n] = .ok r ∧ n ≠ .testnet ∧
      ':' ∉ "qpm2qsznhks23z7629mms6s4cwef74vcwvqcw003ap".toList ∧
      classifyWith? r "qpm2qsznhks23z7629mms6s4cwef74vcwvqcw003ap".toList = some .testnet ∧
      FitsBare r "qpm2qsznhks23z7629mms6s4cwef74vcwvqcw003ap".toList n := by
  let n : Profile := ⟨"twin".toList, .other, 48, 50, "bchte34".toList⟩
  let r : Registry := ⟨[.testnet, n], by decide⟩
  have hfits : hasCashChecksum n "qpm2qsznhks23z7629mms6s4cwef74vcwvqcw003ap".toList = true := by
    decide +kernel
  have hclass : classifyWith? r "qpm2qsznhks23z7629mms6s4cwef74vcwvqcw003ap".toList =
      some .testnet := by
    decide +kernel
  exact ⟨n, r, rfl, rfl, by decide, by decide, hclass, .inl hfits⟩

end Address

end BitcoinCash
