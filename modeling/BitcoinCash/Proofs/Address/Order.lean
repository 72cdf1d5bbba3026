import BitcoinCash.Proofs.Address.Dispatch
import BitcoinCash.Proofs.CashAddr.Domain

/-! # The order of a registry

  A registry is searched from the front, and the first network that fits is taken. Where at most one
  network fits, any order finds it.

  - **Prefixes and checksums**: if the prefixes leave different registers behind
    (`HasDistinctDomains`), at most one network has the prefix of a text, and at most one has a
    checksum that fits a bare text (`byPrefix?_perm`, `find?_hasCashChecksum_perm`).
  - **Version bytes**: a look-up of the only network does not depend on the order
    (`uniqueByVersion?_perm`).
  - **`parseWith_perm`** is the main statement.
-/

namespace BitcoinCash

/-- What only one element of a list has is found at that element, in any order of the list. -/
theorem find?_eq_of_perm {α : Type} {f : α → Bool} {l l' : List α} (hperm : l.Perm l')
    (hunique : ∀ a ∈ l, ∀ b ∈ l, f a = true → f b = true → a = b) : l.find? f = l'.find? f := by
  cases hfind : l.find? f with
  | none =>
    symm
    rw [List.find?_eq_none] at hfind ⊢
    intro a ha
    exact hfind a (hperm.mem_iff.mpr ha)
  | some a =>
    have ha := List.mem_of_find?_eq_some hfind
    have hfa : f a = true := List.find?_some hfind
    cases hfind' : l'.find? f with
    | none =>
      rw [List.find?_eq_none] at hfind'
      exact absurd hfa (hfind' a (hperm.mem_iff.mp ha))
    | some b =>
      have hb := hperm.mem_iff.mpr (List.mem_of_find?_eq_some hfind')
      have hfb : f b = true := List.find?_some hfind'
      rw [hunique a ha b hb hfa hfb]

namespace Registry

/-- The networks have **distinct checksum domains**: their prefixes are ASCII, and in small letters
    they leave pairwise different registers behind. -/
structure HasDistinctDomains (r : Registry) : Prop where
  /-- The prefixes are ASCII. -/
  ascii : ∀ n ∈ r.profiles, ∀ c ∈ n.cashPrefix, c.toNat < 0x80
  /-- Their registers are pairwise different. -/
  nodup_registers : (r.profiles.map fun n => CashAddr.prefixRegister n.cashPrefix.lower).Nodup

theorem HasDistinctDomains.eq_of_prefixRegister_eq {r : Registry} (h : r.HasDistinctDomains)
    {n m : Profile} (hn : n ∈ r.profiles) (hm : m ∈ r.profiles)
    (hsame : CashAddr.prefixRegister n.cashPrefix.lower =
      CashAddr.prefixRegister m.cashPrefix.lower) : n = m :=
  List.inj_on_of_nodup_map h.nodup_registers hn hm hsame

/-! ## Look-ups -/

section Lookup

variable {r r' : Registry}

/-- The network of a prefix does not depend on the order. -/
theorem byPrefix?_perm (h : r.HasDistinctDomains) (hperm : r.profiles.Perm r'.profiles)
    (cashPrefix : Text) : r.byPrefix? cashPrefix = r'.byPrefix? cashPrefix := by
  apply find?_eq_of_perm hperm
  intro n hn m hm hfn hfm
  -- Both prefixes are the same but for the case of letters, so the registers are the same.
  have hsame : n.cashPrefix.asciiLower = m.cashPrefix.asciiLower :=
    (beq_iff_eq.mp hfn).trans (beq_iff_eq.mp hfm).symm
  apply h.eq_of_prefixRegister_eq hn hm
  rw [Text.lower_of_ascii (h.ascii n hn), Text.lower_of_ascii (h.ascii m hm), hsame]

/-- The only network of a version byte does not depend on the order. -/
theorem uniqueByVersion?_perm (hperm : r.profiles.Perm r'.profiles) (version : UInt8) :
    r.uniqueByVersion? version = r'.uniqueByVersion? version := by
  have husers := hperm.filter (·.usesVersion version)
  apply Option.ext
  intro n
  rw [uniqueByVersion?_eq_some_iff, uniqueByVersion?_eq_some_iff]
  constructor
  · intro hn
    rw [hn] at husers
    exact List.perm_singleton.mp husers.symm
  · intro hn
    rw [hn] at husers
    exact List.perm_singleton.mp husers

/-- Nor does it depend on the order whether a version byte is known. -/
theorem knowsVersion_perm (hperm : r.profiles.Perm r'.profiles) (version : UInt8) :
    r.knowsVersion version = r'.knowsVersion version := by
  rw [knowsVersion_eq, knowsVersion_eq, (hperm.filter (·.usesVersion version)).isEmpty_eq]

end Lookup

end Registry

namespace Address

/-! ## Readers -/

section Readers

variable {r r' : Registry}

/-- The network with a checksum that fits a bare text does not depend on the order. -/
theorem find?_hasCashChecksum_perm (h : r.HasDistinctDomains)
    (hperm : r.profiles.Perm r'.profiles) {text : Text} (hbare : ':' ∉ text) :
    r.profiles.find? (hasCashChecksum · text) = r'.profiles.find? (hasCashChecksum · text) := by
  apply find?_eq_of_perm hperm
  intro n hn m hm hfn hfm
  obtain ⟨decoded, hok⟩ := hasCashChecksum_eq_true_iff.mp hfn
  obtain ⟨decoded', hok'⟩ := hasCashChecksum_eq_true_iff.mp hfm
  exact h.eq_of_prefixRegister_eq hn hm (CashAddr.prefixRegister_eq_of_decodeSymbols hbare hok hok')

/-- Base58Check text is read in the same way in any order, and it fails in the same way. -/
theorem parseLegacy_perm (hperm : r.profiles.Perm r'.profiles) (text : Text) :
    parseLegacy r none text = parseLegacy r' none text := by
  unfold parseLegacy networkOfVersion
  simp only [Registry.uniqueByVersion?_perm hperm, Registry.knowsVersion_perm hperm]

theorem classifyLegacy?_perm (hperm : r.profiles.Perm r'.profiles) (text : Text) :
    classifyLegacy? r text = classifyLegacy? r' text := by
  unfold classifyLegacy?
  simp only [Registry.uniqueByVersion?_perm hperm]

end Readers

/-- **The order of a registry makes no difference** if its networks have distinct checksum domains.
    Every text gives the same address or the same failure in both orders, and it belongs to the same
    network or to none. -/
theorem parseWith_perm {r r' : Registry} (h : r.HasDistinctDomains)
    (hperm : r.profiles.Perm r'.profiles) (text : Text) :
    parseWith r none text = parseWith r' none text ∧
      classifyWith? r text = classifyWith? r' text := by
  unfold parseWith classifyWith?
  cases hsplit : Text.splitLast? ':' text with
  | some parts =>
    -- The prefix finds the network.
    unfold networkOfPrefix
    simp only [Registry.byPrefix?_perm h hperm, and_self]
  | none =>
    -- A checksum that fits finds the network, or else the version byte.
    have hbare := Text.splitLast?_eq_none_iff.mp hsplit
    have hfind := find?_hasCashChecksum_perm h hperm hbare
    have hcandidates : ∀ registry : Registry, candidates registry none = registry.profiles :=
      fun _ => rfl
    simp only [hcandidates, tryCashAddr_eq, hfind, parseLegacy_perm hperm,
      classifyLegacy?_perm hperm, and_self]

/-- The shipped networks in two orders, and a bare text of the second of them. -/
theorem parseWith_perm_shipped :
    ∃ (r r' : Registry) (a : Address), r.profiles = [.mainnet, .testnet, .regtest] ∧
      r'.profiles = [.regtest, .testnet, .mainnet] ∧ a.network = .testnet ∧
      parseWith r none "qpm2qsznhks23z7629mms6s4cwef74vcwvqcw003ap".toList = .ok a ∧
      parseWith r' none "qpm2qsznhks23z7629mms6s4cwef74vcwvqcw003ap".toList = .ok a ∧
      classifyWith? r' "mrLC19Je2BuWQDkWSTriGYPyQJXKkkBmCx".toList = none := by
  let r : Registry := ⟨[.mainnet, .testnet, .regtest], by decide⟩
  let r' : Registry := ⟨[.regtest, .testnet, .mainnet], by decide⟩
  let a : Address := ⟨.testnet, .pubKeyHash, .bytes20,
    [0x76, 0xa0, 0x40, 0x53, 0xbd, 0xa0, 0xa8, 0x8b, 0xda, 0x51, 0x77, 0xb8, 0x6a, 0x15, 0xc3, 0xb2,
      0x9f, 0x55, 0x98, 0x73]⟩
  have hdomains : r.HasDistinctDomains :=
    ⟨fun n hn c hc => (CashAddr.isSmallAscii_of_mem_shipped n hn c hc).1, by decide +kernel⟩
  have hperm : r.profiles.Perm r'.profiles := by decide
  have hparse : parseWith r none "qpm2qsznhks23z7629mms6s4cwef74vcwvqcw003ap".toList = .ok a := by
    decide +kernel
  have hnone : classifyWith? r "mrLC19Je2BuWQDkWSTriGYPyQJXKkkBmCx".toList = none := by
    decide +kernel
  refine ⟨r, r', a, rfl, rfl, rfl, hparse, ?_, ?_⟩
  · rw [← (parseWith_perm hdomains hperm _).1]
    exact hparse
  · rw [← (parseWith_perm hdomains hperm _).2]
    exact hnone

end Address

end BitcoinCash
