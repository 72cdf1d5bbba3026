import BitcoinCash.Network.Profile
import BitcoinCash.Proofs.CashAddr.Burst

/-! # Checksum domains

  A bare text does not name its prefix. What ties it to one is the checksum, and the checksum knows
  nothing of a prefix but the register that it leaves behind.

  - **A bare text is read from a register** (`readFrom`, `decodeSymbols_of_bare`): prefixes with the
    same register read it alike.
  - **A bare text fits one register only** (`register_eq_of_readFrom`): symbols that lead from two
    registers to the same one have started from the same one.
  - **`decodeSymbols_isolated`** is the main statement. The registers of the shipped networks are
    different, so that no bare text passes on two of them.
-/

namespace BitcoinCash

/-- The networks that come with the library. -/
def Profile.shipped : List Profile := [.mainnet, .testnet, .regtest]

namespace CashAddr

/-! ## Reading from a register -/

/-- The symbols of a bare text without their checksum, if they lead from a register to 1. -/
def readFrom (register : UInt64) (text : Text) : Except AddressError (List Symbol) :=
  if text.mixesCase then .error .mixedCase
  else
    match readSymbols text.lower with
    | .error e => .error e
    | .ok symbols =>
      if symbols.length < checksumLength then .error .checksumMismatch
      else if absorb register symbols = 1 then .ok (symbols.take (symbols.length - checksumLength))
      else .error .checksumMismatch

/-- **A bare text is read from the register of its prefix**, and nothing else of the prefix counts. -/
theorem decodeSymbols_of_bare {text : Text} (hbare : ':' ∉ text) (cashPrefix : Text) :
    decodeSymbols cashPrefix text =
      (readFrom (prefixRegister cashPrefix.lower) text).map (cashPrefix.lower, ·) := by
  unfold decodeSymbols readFrom
  rw [splitPrefix_of_bare hbare]
  cases text.mixesCase with
  | true => rfl
  | false =>
    simp only [Bool.false_eq_true, if_false]
    cases readSymbols text.lower with
    | error e => rfl
    | ok symbols =>
      by_cases hshort : symbols.length < checksumLength
      · simp only [if_pos hshort]
        rfl
      · simp only [if_neg hshort]
        by_cases hpass : verifies cashPrefix.lower symbols = true
        · rw [if_pos hpass, if_pos (verifies_iff_absorb.mp hpass)]
          rfl
        · rw [if_neg hpass, if_neg (mt verifies_iff_absorb.mpr hpass)]
          rfl

/-- The symbols of a text that is read lead from the register to 1. -/
theorem absorb_of_readFrom {register : UInt64} {text : Text} {ss : List Symbol}
    (h : readFrom register text = .ok ss) :
    ∃ symbols, readSymbols text.lower = .ok symbols ∧ absorb register symbols = 1 := by
  unfold readFrom at h
  split at h
  · cases h
  · cases hread : readSymbols text.lower with
    | error e =>
      simp only [hread] at h
      cases h
    | ok symbols =>
      simp only [hread] at h
      split at h
      · cases h
      · split at h
        · next hpass => exact ⟨symbols, rfl, hpass⟩
        · cases h

/-- **A bare text fits one register only**: no symbols lead from two registers to 1. -/
theorem register_eq_of_readFrom {register register' : UInt64} (hr : register.toNat < 2 ^ 40)
    (hr' : register'.toNat < 2 ^ 40) {text : Text} {ss ss' : List Symbol}
    (h : readFrom register text = .ok ss) (h' : readFrom register' text = .ok ss') :
    register = register' := by
  obtain ⟨symbols, hread, hpass⟩ := absorb_of_readFrom h
  obtain ⟨symbols', hread', hpass'⟩ := absorb_of_readFrom h'
  -- Both times the same symbols are read.
  have hsame : symbols = symbols' := by
    rw [hread, Except.ok.injEq] at hread'
    exact hread'
  rw [← hsame] at hpass'
  exact absorb_left_inj hr hr' (hpass.trans hpass'.symm)

/-! ## Two prefixes -/

/-- A bare text that is read under a prefix is read from its register. -/
theorem exists_readFrom_of_decodeSymbols {cashPrefix text : Text} {r : Text × List Symbol}
    (hbare : ':' ∉ text) (h : decodeSymbols cashPrefix text = .ok r) :
    ∃ ss, readFrom (prefixRegister cashPrefix.lower) text = .ok ss := by
  rw [decodeSymbols_of_bare hbare] at h
  cases hread : readFrom (prefixRegister cashPrefix.lower) text with
  | error e =>
    rw [hread] at h
    cases h
  | ok ss => exact ⟨ss, rfl⟩

/-- **Prefixes that read one bare text** leave the same register behind. -/
theorem prefixRegister_eq_of_decodeSymbols {p q text : Text} {r r' : Text × List Symbol}
    (hbare : ':' ∉ text) (h : decodeSymbols p text = .ok r) (h' : decodeSymbols q text = .ok r') :
    prefixRegister p.lower = prefixRegister q.lower := by
  obtain ⟨ss, hread⟩ := exists_readFrom_of_decodeSymbols hbare h
  obtain ⟨ss', hread'⟩ := exists_readFrom_of_decodeSymbols hbare h'
  exact register_eq_of_readFrom (prefixRegister_lt _) (prefixRegister_lt _) hread hread'

/-- Prefixes with the same register find the same symbols in a bare text, or the same failure. -/
theorem map_decodeSymbols_congr {p q text : Text} (hbare : ':' ∉ text)
    (h : prefixRegister p.lower = prefixRegister q.lower) :
    (decodeSymbols p text).map Prod.snd = (decodeSymbols q text).map Prod.snd := by
  rw [decodeSymbols_of_bare hbare, decodeSymbols_of_bare hbare, h]
  cases readFrom (prefixRegister q.lower) text with
  | error e => rfl
  | ok ss => rfl

/-- The shipped networks have different registers. -/
theorem prefixRegister_shipped_ne : ∀ n ∈ Profile.shipped, ∀ m ∈ Profile.shipped, n ≠ m →
    prefixRegister n.cashPrefix ≠ prefixRegister m.cashPrefix := by
  decide +kernel

theorem isSmallAscii_of_mem_shipped : ∀ n ∈ Profile.shipped, n.cashPrefix.IsSmallAscii := by
  decide

/-- **Bare texts are isolated by the registers of their prefixes.** Under two prefixes in small
    letters that leave different registers behind, no bare text is accepted twice. If the registers
    are the same, every bare text has the same symbols under both, or fails alike. The registers of
    the shipped networks are different, so that no bare text is accepted on two of them. -/
theorem decodeSymbols_isolated :
    (∀ p q : Text, p.lower = p → q.lower = q → ∀ text : Text, ':' ∉ text →
      (prefixRegister p ≠ prefixRegister q →
        ¬((∃ r, decodeSymbols p text = .ok r) ∧ ∃ r, decodeSymbols q text = .ok r)) ∧
      (prefixRegister p = prefixRegister q →
        (decodeSymbols p text).map Prod.snd = (decodeSymbols q text).map Prod.snd)) ∧
    ∀ n ∈ Profile.shipped, ∀ m ∈ Profile.shipped, n ≠ m →
      prefixRegister n.cashPrefix ≠ prefixRegister m.cashPrefix ∧
      ∀ text : Text, ':' ∉ text → ¬((∃ r, decodeSymbols n.cashPrefix text = .ok r) ∧
        ∃ r, decodeSymbols m.cashPrefix text = .ok r) := by
  have hdifferent : ∀ p q : Text, p.lower = p → q.lower = q → ∀ text : Text, ':' ∉ text →
      prefixRegister p ≠ prefixRegister q →
      ¬((∃ r, decodeSymbols p text = .ok r) ∧ ∃ r, decodeSymbols q text = .ok r) := by
    intro p q hp hq text hbare hne
    rintro ⟨⟨r, h⟩, r', h'⟩
    have hsame := prefixRegister_eq_of_decodeSymbols hbare h h'
    rw [hp, hq] at hsame
    exact hne hsame
  refine ⟨?_, ?_⟩
  · intro p q hp hq text hbare
    refine ⟨hdifferent p q hp hq text hbare, ?_⟩
    intro hsame
    apply map_decodeSymbols_congr hbare
    rw [hp, hq, hsame]
  · intro n hn m hm hne
    have hregister := prefixRegister_shipped_ne n hn m hm hne
    refine ⟨hregister, ?_⟩
    intro text hbare
    exact hdifferent _ _ (isSmallAscii_of_mem_shipped n hn).lower_eq
      (isSmallAscii_of_mem_shipped m hm).lower_eq text hbare hregister

/-- Of a prefix only the low five bits of its bytes count, and a digit has those of a letter. So a bare
    text of the public test network is read in the same way under a prefix that ends in digits. It is
    refused on the production network. -/
theorem decodeSymbols_isolated_digits :
    let text := "qpm2qsznhks23z7629mms6s4cwef74vcwvqcw003ap".toList
    (decodeSymbols "bchtest".toList text).map Prod.snd =
      (decodeSymbols "bchte34".toList text).map Prod.snd ∧
    (∃ r, decodeSymbols "bchtest".toList text = .ok r) ∧
    ¬∃ r, decodeSymbols "bitcoincash".toList text = .ok r := by
  intro text
  have hbare : ':' ∉ text := by decide
  have hlower : ∀ p ∈ ["bchtest".toList, "bchte34".toList, "bitcoincash".toList],
      Text.lower p = p := by
    decide +kernel
  have htest : decodeSymbols "bchtest".toList text =
      .ok ("bchtest".toList, bytesToSymbols [0x00, 0x76, 0xa0, 0x40, 0x53, 0xbd, 0xa0, 0xa8, 0x8b,
        0xda, 0x51, 0x77, 0xb8, 0x6a, 0x15, 0xc3, 0xb2, 0x9f, 0x55, 0x98, 0x73]) := by
    decide +kernel
  obtain ⟨hprefixes, hshipped⟩ := decodeSymbols_isolated
  refine ⟨?_, ⟨_, htest⟩, ?_⟩
  · apply (hprefixes _ _ (hlower _ (by decide)) (hlower _ (by decide)) text hbare).2
    decide +kernel
  · intro hmain
    exact (hshipped .testnet (by decide) .mainnet (by decide) (by decide)).2 text hbare
      ⟨⟨_, htest⟩, hmain⟩

end CashAddr

end BitcoinCash
