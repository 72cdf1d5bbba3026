import BitcoinCash.Proofs.Address.Acceptance

/-! # Texts and addresses

  Parsing never makes an address up, and it finds each address in all spellings of its CashAddr
  text.

  - **`parseWith_sound`**: a text that gives an address is a spelling of that address, and the
    network is the one that was asked for or a registered one.
  - **`parseWith_cashAddrSpellings`**: the CashAddr text of an address gives the address, with or
    without the prefix and in small or capital letters, if its network is asked for; with the
    prefix, it does so too if its network is the first registered one with that prefix.
-/

namespace BitcoinCash.Address

/-! ## Soundness -/

/-- **Parsing is sound.** The network of the address is the given one or else a registered one,
    and the text, if need be in small letters and after the prefix, is the CashAddr text or the
    legacy text of the address. -/
theorem parseWith_sound {registry : Registry} {network : Option Profile} {text : Text}
    {a : Address} (h : parseWith registry network text = .ok a) :
    ((∀ n, network = some n → a.network = n) ∧
      (network = none → a.network ∈ registry.profiles)) ∧
    (text.lower = a.toCashAddr ∨ a.network.cashPrefix ++ ':' :: text.lower = a.toCashAddr ∨
      a.toLegacy = .ok text) := by
  -- Whatever way the text was read, one network accepted it in one format.
  obtain ⟨n, hn, hok⟩ := accepted_of_parseWith h
  have hnetwork : a.network = n := by
    rcases hok with hcash | hlegacy
    · exact (ofCashAddr_eq_ok_iff.mp hcash).2.1
    · exact (ofLegacy_eq_ok_iff.mp hlegacy).1
  refine ⟨⟨?_, ?_⟩, ?_⟩
  · rintro m rfl
    rw [hnetwork]
    exact List.mem_singleton.mp hn
  · rintro rfl
    rw [hnetwork]
    exact hn
  · rcases hok with hcash | hlegacy
    · obtain ⟨-, rfl, -, hfull⟩ := ofCashAddr_eq_ok_iff.mp hcash
      by_cases hcolon : ':' ∈ text
      · left
        rw [← hfull, CashAddr.fullText, if_pos hcolon]
      · -- The prefix of the network has to be in small letters already.
        right; left
        have hlower := CashAddr.eq_lower_of_fullText hcolon hfull
        rw [← hfull, CashAddr.fullText, if_neg hcolon, ← hlower]
    · right; right
      exact (ofLegacy_eq_ok_iff.mp hlegacy).2.2.1

/-- A legacy text that is read without a given network. -/
theorem parseWith_legacy_text :
    ∃ a, parseWith .standard none "1BpEi6DfDAUFd7GtittLSdBeYJvcoaVggu".toList = .ok a ∧
      a.network ∈ Registry.standard.profiles ∧
      a.toLegacy = .ok "1BpEi6DfDAUFd7GtittLSdBeYJvcoaVggu".toList := by
  have hparse : parseWith .standard none "1BpEi6DfDAUFd7GtittLSdBeYJvcoaVggu".toList =
      .ok ⟨.mainnet, .pubKeyHash, .bytes20,
        [0x76, 0xa0, 0x40, 0x53, 0xbd, 0xa0, 0xa8, 0x8b, 0xda, 0x51, 0x77, 0xb8, 0x6a, 0x15, 0xc3,
          0xb2, 0x9f, 0x55, 0x98, 0x73]⟩ := by
    decide +kernel
  obtain ⟨⟨-, hregistered⟩, hspelling⟩ := parseWith_sound hparse
  refine ⟨_, hparse, hregistered rfl, ?_⟩
  rcases hspelling with hfull | hbare | hlegacy
  · exact absurd hfull (by decide +kernel)
  · exact absurd hbare (by decide +kernel)
  · exact hlegacy

/-! ## Spellings of the CashAddr text -/

/-- The CashAddr text without the prefix and the colon after it. -/
def toBareCashAddr (a : Address) : Text :=
  a.toCashAddr.drop (a.network.cashPrefix.length + 1)

/-- The ways to spell the CashAddr text: with and without the prefix, in small and in capital
    letters. -/
def cashAddrSpellings (a : Address) : List Text :=
  [a.toCashAddr, a.toCashAddr.asciiUpper, a.toBareCashAddr, a.toBareCashAddr.asciiUpper]

section Spellings

variable {a : Address}

/-- The parts of the CashAddr text. The one after the colon is spelled with symbols. -/
theorem toCashAddr_eq_append (a : Address) :
    a.toCashAddr = a.network.cashPrefix ++ ':' :: a.toBareCashAddr ∧
      ∃ ss : List CashAddr.Symbol, a.toBareCashAddr = ss.map CashAddr.Symbol.char := by
  obtain ⟨ss, hss⟩ : ∃ ss : List CashAddr.Symbol,
      a.toCashAddr = a.network.cashPrefix ++ ':' :: ss.map CashAddr.Symbol.char := ⟨_, rfl⟩
  have hbare : a.toBareCashAddr = ss.map CashAddr.Symbol.char := by
    rw [toBareCashAddr, hss, List.drop_append]
    simp
  exact ⟨by rw [hss, hbare], ss, hbare⟩

theorem colon_not_mem_toBareCashAddr (a : Address) : ':' ∉ a.toBareCashAddr := by
  obtain ⟨-, ss, hss⟩ := toCashAddr_eq_append a
  rw [hss]
  exact CashAddr.colon_not_mem_map_char ss

theorem isSmallAscii_toBareCashAddr (a : Address) : a.toBareCashAddr.IsSmallAscii := by
  obtain ⟨-, ss, hss⟩ := toCashAddr_eq_append a
  rw [hss]
  exact CashAddr.isSmallAscii_map_char ss

theorem isSmallAscii_toCashAddr (hascii : a.network.cashPrefix.IsSmallAscii) :
    a.toCashAddr.IsSmallAscii :=
  CashAddr.isSmallAscii_spell hascii _

/-- Each spelling is accepted for the network of the address. -/
theorem ofCashAddr_of_mem_cashAddrSpellings (hascii : a.network.cashPrefix.IsSmallAscii)
    (ha : a.IsConsistent) : ∀ text ∈ a.cashAddrSpellings, ofCashAddr a.network text = .ok a := by
  have hsmall := isSmallAscii_toCashAddr hascii
  have hbare := isSmallAscii_toBareCashAddr a
  -- A text is accepted if folding it gives the text with or without the prefix.
  have hwith : ∀ text : Text, text.mixesCase = false → text.lower = a.toCashAddr →
      ofCashAddr a.network text = .ok a := by
    intro text hcase hlower
    have hcolon : ':' ∈ text := by
      rw [← Text.colon_mem_lower_iff, hlower, (toCashAddr_eq_append a).1]
      exact List.mem_append_right _ List.mem_cons_self
    refine ofCashAddr_eq_ok_iff.mpr ⟨hcase, rfl, ha, ?_⟩
    rw [CashAddr.fullText, if_pos hcolon, hlower]
  have hwithout : ∀ text : Text, text.mixesCase = false → text.lower = a.toBareCashAddr →
      ofCashAddr a.network text = .ok a := by
    intro text hcase hlower
    have hcolon : ':' ∉ text := by
      rw [← Text.colon_mem_lower_iff, hlower]
      exact colon_not_mem_toBareCashAddr a
    refine ofCashAddr_eq_ok_iff.mpr ⟨hcase, rfl, ha, ?_⟩
    rw [CashAddr.fullText, if_neg hcolon, hlower, hascii.lower_eq, (toCashAddr_eq_append a).1]
  simp only [cashAddrSpellings, List.forall_mem_cons, List.not_mem_nil, false_implies,
    implies_true, and_true]
  exact ⟨hwith _ hsmall.mixesCase_eq hsmall.lower_eq,
    hwith _ hsmall.mixesCase_asciiUpper hsmall.lower_asciiUpper,
    hwithout _ hbare.mixesCase_eq hbare.lower_eq,
    hwithout _ hbare.mixesCase_asciiUpper hbare.lower_asciiUpper⟩

/-! ## Completeness -/

theorem splitLast?_toCashAddr (a : Address) :
    Text.splitLast? ':' a.toCashAddr = some (a.network.cashPrefix, a.toBareCashAddr) := by
  rw [(toCashAddr_eq_append a).1]
  exact Text.splitLast?_append (colon_not_mem_toBareCashAddr a)

theorem colon_not_mem_asciiUpper_toBareCashAddr (a : Address) :
    ':' ∉ a.toBareCashAddr.asciiUpper := fun h =>
  colon_not_mem_toBareCashAddr a
    ((isSmallAscii_toBareCashAddr a).colon_mem_asciiUpper_iff.mp h)

theorem splitLast?_asciiUpper_toCashAddr (a : Address) :
    Text.splitLast? ':' a.toCashAddr.asciiUpper =
      some (a.network.cashPrefix.asciiUpper, a.toBareCashAddr.asciiUpper) := by
  rw [(toCashAddr_eq_append a).1, Text.asciiUpper_append]
  exact Text.splitLast?_append (colon_not_mem_asciiUpper_toBareCashAddr a)

/-- The capital form of a prefix is taken for the same. -/
theorem asciiCaseEq_asciiUpper (s t : Text) : s.asciiCaseEq t.asciiUpper = s.asciiCaseEq t := by
  rw [Text.asciiCaseEq, Text.asciiCaseEq, Text.asciiLower_asciiUpper]

theorem asciiCaseEq_self (s : Text) : s.asciiCaseEq s = true :=
  beq_self_eq_true _

/-- A given network is the one of its own prefix. -/
theorem networkOfPrefix_some {registry : Registry} {n : Profile} {cashPrefix : Text}
    (h : n.cashPrefix.asciiCaseEq cashPrefix = true) :
    networkOfPrefix registry (some n) cashPrefix = .ok n :=
  if_pos h

/-- A registered network is the one of its own prefix, if no earlier one has it as well. -/
theorem networkOfPrefix_none {registry : Registry} {n : Profile} {before after : List Profile}
    {cashPrefix : Text} (hregistry : registry.profiles = before ++ n :: after)
    (hearlier : ∀ m ∈ before, m.cashPrefix.asciiCaseEq cashPrefix = false)
    (h : n.cashPrefix.asciiCaseEq cashPrefix = true) :
    networkOfPrefix registry none cashPrefix = .ok n := by
  have hnone : before.find? (·.cashPrefix.asciiCaseEq cashPrefix) = none := by
    rw [List.find?_eq_none]
    intro m hm
    rw [hearlier m hm]
    exact Bool.false_ne_true
  have hfind : registry.byPrefix? cashPrefix = some n := by
    rw [Registry.byPrefix?, hregistry, List.find?_append, hnone, Option.none_or]
    exact List.find?_cons_of_pos (p := fun m : Profile => m.cashPrefix.asciiCaseEq cashPrefix) h
  simp only [networkOfPrefix, hfind]

/-- A bare text that is accepted for the given network is read. -/
theorem parseWith_of_bare {registry : Registry} {n : Profile} {text : Text}
    (hcolon : ':' ∉ text) (hok : ofCashAddr n text = .ok a) :
    parseWith registry (some n) text = .ok a := by
  have htry : tryCashAddr text (candidates registry (some n)) = some (.ok a) := by
    simp only [candidates, tryCashAddr, hok]
  simp only [parseWith, Text.splitLast?_eq_none_iff.mpr hcolon, htry]

end Spellings

/-- **Parsing is complete for CashAddr texts.** Each spelling of the CashAddr text of an address
    is read for the network of the address. The two spellings with the prefix are also read when
    no network is given, if the network is registered and no earlier one has the same prefix. -/
theorem parseWith_cashAddrSpellings (registry : Registry) {a : Address}
    (hascii : a.network.cashPrefix.IsSmallAscii) (ha : a.IsConsistent) :
    (∀ text ∈ a.cashAddrSpellings, parseWith registry (some a.network) text = .ok a) ∧
    (∀ before after, registry.profiles = before ++ a.network :: after →
      (∀ m ∈ before, m.cashPrefix.asciiCaseEq a.network.cashPrefix = false) →
        parseWith registry none a.toCashAddr = .ok a ∧
        parseWith registry none a.toCashAddr.asciiUpper = .ok a) := by
  have hok := ofCashAddr_of_mem_cashAddrSpellings hascii ha
  simp only [cashAddrSpellings, List.forall_mem_cons, List.not_mem_nil, false_implies,
    implies_true, and_true] at hok ⊢
  obtain ⟨hsmall, hcapital, hbare, hbareCapital⟩ := hok
  have hself := asciiCaseEq_self a.network.cashPrefix
  have hupper : a.network.cashPrefix.asciiCaseEq a.network.cashPrefix.asciiUpper = true := by
    rw [asciiCaseEq_asciiUpper, hself]
  refine ⟨⟨?_, ?_, ?_, ?_⟩, ?_⟩
  -- With a prefix, the network is found by it; a bare text is tried for the given network.
  · rw [parseWith_of_splitLast? (splitLast?_toCashAddr a) (networkOfPrefix_some hself), hsmall]
  · rw [parseWith_of_splitLast? (splitLast?_asciiUpper_toCashAddr a) (networkOfPrefix_some hupper),
      hcapital]
  · exact parseWith_of_bare (colon_not_mem_toBareCashAddr a) hbare
  · exact parseWith_of_bare (colon_not_mem_asciiUpper_toBareCashAddr a) hbareCapital
  · intro before after hregistry hearlier
    constructor
    · rw [parseWith_of_splitLast? (splitLast?_toCashAddr a)
        (networkOfPrefix_none hregistry hearlier hself), hsmall]
    · -- An earlier network does not have the capital form of the prefix either.
      have hearlier' : ∀ m ∈ before,
          m.cashPrefix.asciiCaseEq a.network.cashPrefix.asciiUpper = false := by
        intro m hm
        rw [asciiCaseEq_asciiUpper, hearlier m hm]
      rw [parseWith_of_splitLast? (splitLast?_asciiUpper_toCashAddr a)
        (networkOfPrefix_none hregistry hearlier' hupper), hcapital]

/-- A script hash of 24 bytes on the test network, the second one of the standard registry. -/
theorem parseWith_testnet_spellings :
    ∃ a : Address, a.network = .testnet ∧ a.kind = .scriptHash ∧
      a.hash = List.replicate 24 0x5a ∧
      (∀ text ∈ a.cashAddrSpellings, parseWith .standard (some .testnet) text = .ok a) ∧
      parseWith .standard none a.toCashAddr = .ok a ∧
      parseWith .standard none a.toCashAddr.asciiUpper = .ok a := by
  let a : Address := ⟨.testnet, .scriptHash, .bytes24, List.replicate 24 0x5a⟩
  have hascii : a.network.cashPrefix.IsSmallAscii := by decide
  have hearlier : ∀ m ∈ [Profile.mainnet],
      m.cashPrefix.asciiCaseEq a.network.cashPrefix = false := by
    decide +kernel
  obtain ⟨hgiven, hregistered⟩ := parseWith_cashAddrSpellings .standard hascii rfl
  exact ⟨a, rfl, rfl, rfl, hgiven, hregistered [.mainnet] [] rfl hearlier⟩

end BitcoinCash.Address
