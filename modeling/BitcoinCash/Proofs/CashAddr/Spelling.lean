import BitcoinCash.Proofs.CashAddr.Bits
import BitcoinCash.Proofs.CashAddr.Checksum
import BitcoinCash.Proofs.CashAddr.Version
import BitcoinCash.Proofs.Text.Case

/-! # Reading accepts what writing makes

  A CashAddr text is accepted exactly if, in small letters and with the prefix that it is read
  under, it is the text that would be written for the answer.

  - **`fullText`** is that form of a text: the form in which accepted texts are unique.
  - **`decodeSymbols_eq_ok_iff`** says it of symbols, **`decodeWithPrefix_eq_ok_iff_fullText`** of
    payloads.
  - **`payload_eq_of_decodeWithPrefix`**: a text has one payload, whatever the prefix is under which
    it is read.
  - **`decodeWithPrefix_eq_ok_iff`** is the main statement. It takes texts with and without a
    prefix apart.
-/

namespace BitcoinCash.CashAddr

/-! ## The alphabet -/

theorem ofChar?_char (s : Symbol) : Symbol.ofChar? s.char = some s := by
  revert s
  decide +kernel

theorem char_of_ofChar? {c : Char} {s : Symbol} (h : Symbol.ofChar? c = some s) : s.char = c := by
  rw [Symbol.ofChar?, Option.map_eq_some_iff] at h
  obtain ⟨i, hi, rfl⟩ := h
  obtain ⟨hlt, hc, -⟩ := List.idxOf?_eq_some_iff.mp hi
  have hi32 : i < 32 := hlt
  rw [Symbol.char, BitVec.toNat_ofNat, Nat.mod_eq_of_lt hi32, List.getD_eq_getElem _ _ hlt, hc]

theorem isSmallAscii_map_char (ss : List Symbol) : Text.IsSmallAscii (ss.map Symbol.char) := by
  have hall : ∀ s : Symbol, s.char.toNat < 0x80 ∧ s.char.isUpper = false := by decide +kernel
  intro c hc
  obtain ⟨s, -, rfl⟩ := List.mem_map.mp hc
  exact hall s

theorem colon_not_mem_map_char (ss : List Symbol) : ':' ∉ ss.map Symbol.char := by
  have hall : ∀ s : Symbol, s.char ≠ ':' := by decide +kernel
  intro hc
  obtain ⟨s, -, hs⟩ := List.mem_map.mp hc
  exact hall s hs

/-- What is written for symbols is small ASCII text, if the prefix is. -/
theorem isSmallAscii_spell {cashPrefix : Text} (hascii : cashPrefix.IsSmallAscii)
    (ss : List Symbol) : (spell cashPrefix ss).IsSmallAscii := by
  have hbody : Text.IsSmallAscii (':' :: (ss ++ checksum cashPrefix ss).map Symbol.char) :=
    List.forall_mem_cons.mpr ⟨by decide, isSmallAscii_map_char _⟩
  exact hascii.append hbody

/-- Symbols are read exactly from the characters that they are written with. -/
theorem readSymbols_eq_ok_iff {t : Text} {ss : List Symbol} :
    readSymbols t = .ok ss ↔ t = ss.map Symbol.char := by
  constructor
  · intro h
    induction t generalizing ss with
    | nil =>
      cases h
      rfl
    | cons c t ih =>
      rw [readSymbols] at h
      split at h
      · simp at h
      · next s hs =>
        cases hrest : readSymbols t with
        | error e => rw [hrest] at h; simp [Except.map] at h
        | ok more =>
          rw [hrest] at h
          cases h
          rw [List.map_cons, char_of_ofChar? hs, ih hrest]
  · rintro rfl
    induction ss with
    | nil => rfl
    | cons s ss ih =>
      rw [List.map_cons, readSymbols, ofChar?_char]
      simp only [ih]
      rfl

/-- Symbols are told apart by their characters. -/
theorem map_char_inj {ss ts : List Symbol} (h : ss.map Symbol.char = ts.map Symbol.char) :
    ss = ts := by
  have hread := readSymbols_eq_ok_iff.mpr h
  rw [readSymbols_eq_ok_iff.mpr rfl, Except.ok.injEq] at hread
  exact hread

/-! ## The full form of a text -/

/-- A text in small letters, after the prefix that it is read under if it names none. -/
def fullText (defaultPrefix text : Text) : Text :=
  if ':' ∈ text then text.lower else defaultPrefix.lower ++ ':' :: text.lower

/-- The two parts of a text are those of its full form around the last colon. -/
theorem splitPrefix_eq_iff {defaultPrefix text cashPrefix body : Text} (hbody : ':' ∉ body) :
    splitPrefix defaultPrefix text = (cashPrefix, body) ↔
      fullText defaultPrefix text = cashPrefix ++ ':' :: body := by
  have hcut : Text.splitLast? ':' (fullText defaultPrefix text) =
      some (splitPrefix defaultPrefix text) := by
    rw [fullText, splitPrefix]
    split
    · next h =>
      have hlower := (Text.colon_mem_lower_iff text).mpr h
      cases hsplit : Text.splitLast? ':' text.lower with
      | some parts => rfl
      | none => exact absurd hlower (Text.splitLast?_eq_none_iff.mp hsplit)
    · next h =>
      have hlower := Text.colon_not_mem_lower h
      simp only [Text.splitLast?_eq_none_iff.mpr hlower, Text.splitLast?_append hlower]
  constructor
  · intro h
    rw [h] at hcut
    exact Text.eq_append_of_splitLast? hcut
  · intro h
    rw [h, Text.splitLast?_append hbody, Option.some.injEq] at hcut
    exact hcut.symm

/-- The second of the two parts is the same, whatever the default prefix is. -/
theorem splitPrefix_snd (p q text : Text) : (splitPrefix p text).2 = (splitPrefix q text).2 := by
  unfold splitPrefix
  cases Text.splitLast? ':' text.lower with
  | some parts => rfl
  | none => rfl

/-- A text without a colon is its own body. -/
theorem splitPrefix_of_bare {text : Text} (hbare : ':' ∉ text) (defaultPrefix : Text) :
    splitPrefix defaultPrefix text = (defaultPrefix.lower, text.lower) := by
  rw [splitPrefix_eq_iff (Text.colon_not_mem_lower hbare), fullText, if_neg hbare]

/-- Written texts are told apart by prefix and symbols. -/
theorem spell_inj {p q : Text} {ss ts : List Symbol} (h : spell p ss = spell q ts) :
    p = q ∧ ss = ts := by
  obtain ⟨hsame, hbody⟩ :=
    Text.append_sep_inj (colon_not_mem_map_char _) (colon_not_mem_map_char _) h
  have hlen : (checksum p ss).length = (checksum q ts).length := by simp
  exact ⟨hsame, (List.append_inj' (map_char_inj hbody) hlen).1⟩

/-- The prefix of a text without a colon is the default one. -/
theorem eq_lower_of_fullText {defaultPrefix text cashPrefix : Text} {ss : List Symbol}
    (hcolon : ':' ∉ text) (h : fullText defaultPrefix text = spell cashPrefix ss) :
    cashPrefix = defaultPrefix.lower := by
  rw [fullText, if_neg hcolon, spell] at h
  exact (Text.append_sep_inj (Text.colon_not_mem_lower hcolon) (colon_not_mem_map_char _) h).1.symm

/-! ## Symbols -/

/-- The last eight of the symbols that are read have to be the checksum of the others. -/
theorem decodeBody_iff {cashPrefix : Text} {symbols ss : List Symbol} :
    (checksumLength ≤ symbols.length ∧ verifies cashPrefix symbols = true ∧
      symbols.take (symbols.length - checksumLength) = ss) ↔
    symbols = ss ++ checksum cashPrefix ss := by
  constructor
  · rintro ⟨hlen, hverifies, rfl⟩
    have hsplit := List.take_append_drop (symbols.length - checksumLength) symbols
    have hdrop : (symbols.drop (symbols.length - checksumLength)).length = checksumLength := by
      rw [List.length_drop]
      omega
    rw [← hsplit] at hverifies
    rw [← (verifies_append_iff hdrop).mp hverifies, hsplit]
  · rintro rfl
    refine ⟨by simp, verifies_checksum cashPrefix ss, by simp⟩

/-- **Symbols are read exactly from the texts that are written for them**, in all spellings of
    these texts that do not mix the cases. -/
theorem decodeSymbols_eq_ok_iff {defaultPrefix text cashPrefix : Text} {ss : List Symbol} :
    decodeSymbols defaultPrefix text = .ok (cashPrefix, ss) ↔
      text.mixesCase = false ∧ fullText defaultPrefix text = spell cashPrefix ss := by
  have hspell : fullText defaultPrefix text = spell cashPrefix ss ↔
      splitPrefix defaultPrefix text =
        (cashPrefix, (ss ++ checksum cashPrefix ss).map Symbol.char) :=
    (splitPrefix_eq_iff (colon_not_mem_map_char _)).symm
  rw [hspell, decodeSymbols]
  cases text.mixesCase with
  | true => simp
  | false =>
    obtain ⟨p, body⟩ := splitPrefix defaultPrefix text
    simp only [Bool.false_eq_true, if_false, true_and, Prod.mk.injEq]
    cases hread : readSymbols body with
    | error e =>
      constructor
      · intro h
        simp at h
      · rintro ⟨rfl, hbody⟩
        rw [readSymbols_eq_ok_iff.mpr hbody] at hread
        simp at hread
    | ok symbols =>
      have hbody : body = (ss ++ checksum cashPrefix ss).map Symbol.char ↔
          symbols = ss ++ checksum cashPrefix ss := by
        rw [← readSymbols_eq_ok_iff, hread, Except.ok.injEq]
      rw [hbody, ← decodeBody_iff]
      grind

/-! ## Payloads -/

/-- **A reader looks at a text in two ways**: whether it mixes the cases, and its small form. -/
theorem decodeWithPrefix_congr {t t' : Text} (hcase : t.mixesCase = t'.mixesCase)
    (hlower : t.lower = t'.lower) (defaultPrefix : Text) :
    decodeWithPrefix defaultPrefix t = decodeWithPrefix defaultPrefix t' := by
  unfold decodeWithPrefix decodeSymbols splitPrefix
  rw [hcase, hlower]

/-- A text that mixes the cases is refused for that. -/
theorem decodeWithPrefix_of_mixesCase {t : Text} (h : t.mixesCase = true) (defaultPrefix : Text) :
    decodeWithPrefix defaultPrefix t = .error .mixedCase := by
  have hsymbols : decodeSymbols defaultPrefix t = .error .mixedCase := if_pos h
  simp only [decodeWithPrefix, hsymbols]

/-- **Payloads are read exactly from the texts that are written for them**, if they are version
    byte and hash. -/
theorem decodeWithPrefix_eq_ok_iff_fullText {defaultPrefix text : Text} {d : Decoded} :
    decodeWithPrefix defaultPrefix text = .ok d ↔
      text.mixesCase = false ∧
      (∃ kind size, parseVersionByte d.version = .ok (kind, size) ∧
        d.hash.length = size.byteLength) ∧
      fullText defaultPrefix text = encode d.cashPrefix (d.version :: d.hash) := by
  constructor
  · intro h
    rw [decodeWithPrefix] at h
    split at h
    · simp at h
    · next cashPrefix ss hss =>
      split at h
      · simp at h
      · next payload hpayload =>
        obtain ⟨hcase, hfull⟩ := decodeSymbols_eq_ok_iff.mp hss
        obtain ⟨rfl, rfl, hdeclared⟩ := splitPayload_eq_ok_iff.mp h
        refine ⟨hcase, hdeclared, ?_⟩
        rw [hfull, encode, bytesToSymbols_of_symbolsToBytes hpayload]
  · rintro ⟨hcase, hdeclared, hfull⟩
    have hss := decodeSymbols_eq_ok_iff.mpr ⟨hcase, hfull⟩
    have hpayload := splitPayload_eq_ok_iff.mpr ⟨rfl, rfl, hdeclared⟩
    simp only [decodeWithPrefix, hss, symbolsToBytes_bytesToSymbols, hpayload]

/-- **A text has one payload**, under all prefixes under which it is accepted. -/
theorem payload_eq_of_decodeWithPrefix {p q text : Text} {d d' : Decoded}
    (h : decodeWithPrefix p text = .ok d) (h' : decodeWithPrefix q text = .ok d') :
    d.version = d'.version ∧ d.hash = d'.hash := by
  obtain ⟨-, -, hfull⟩ := decodeWithPrefix_eq_ok_iff_fullText.mp h
  obtain ⟨-, -, hfull'⟩ := decodeWithPrefix_eq_ok_iff_fullText.mp h'
  have hbody := splitPrefix_snd p q text
  rw [(splitPrefix_eq_iff (colon_not_mem_map_char _)).mpr hfull,
    (splitPrefix_eq_iff (colon_not_mem_map_char _)).mpr hfull'] at hbody
  -- The symbols before the two checksums are the same.
  have hsymbols := (List.append_inj' (map_char_inj hbody) (by simp)).1
  exact List.cons_eq_cons.mp (bytesToSymbols_inj hsymbols)

/-- **Reading accepts exactly what writing makes.** A text is accepted if and only if it does not
    mix the cases, the version byte declares the length of the hash, and the text in small
    letters is the written one, with its prefix if it has a colon and otherwise without. -/
theorem decodeWithPrefix_eq_ok_iff {defaultPrefix : Text} (hascii : defaultPrefix.IsSmallAscii)
    (text cashPrefix : Text) (version : UInt8) (hash : Bytes) :
    decodeWithPrefix defaultPrefix text = .ok ⟨cashPrefix, version, hash⟩ ↔
      ¬((∃ c ∈ text, Text.isLowercase c) ∧ ∃ c ∈ text, Text.isUppercase c) ∧
      (∃ kind size, parseVersionByte version = .ok (kind, size) ∧
        hash.length = size.byteLength) ∧
      (':' ∈ text → text.lower = encode cashPrefix (version :: hash)) ∧
      (':' ∉ text → cashPrefix = defaultPrefix ∧
        defaultPrefix ++ ':' :: text.lower = encode defaultPrefix (version :: hash)) := by
  rw [decodeWithPrefix_eq_ok_iff_fullText, Text.mixesCase_eq_false_iff]
  refine and_congr_right fun _ => and_congr_right fun _ => ?_
  by_cases hcolon : ':' ∈ text
  · -- The text names its prefix.
    simp [fullText, hcolon]
  · -- The text is read under the default prefix.
    simp only [hcolon, false_implies, true_and, not_false_eq_true, true_implies]
    constructor
    · intro hfull
      have hsame : cashPrefix = defaultPrefix := by
        rw [eq_lower_of_fullText hcolon hfull, hascii.lower_eq]
      rw [fullText, if_neg hcolon, hascii.lower_eq] at hfull
      exact ⟨hsame, by rw [hfull, hsame]⟩
    · rintro ⟨rfl, hfull⟩
      rw [fullText, if_neg hcolon, hascii.lower_eq, hfull]

/-- A bare text in capital letters is read under the default prefix. -/
theorem decodeWithPrefix_bare_capitals :
    decodeWithPrefix defaultPrefix "QPM2QSZNHKS23Z7629MMS6S4CWEF74VCWVY22GDX6A".toList =
      .ok ⟨defaultPrefix, 0x00,
        [0x76, 0xa0, 0x40, 0x53, 0xbd, 0xa0, 0xa8, 0x8b, 0xda, 0x51, 0x77, 0xb8, 0x6a, 0x15, 0xc3,
          0xb2, 0x9f, 0x55, 0x98, 0x73]⟩ := by
  have hascii : defaultPrefix.IsSmallAscii := by decide
  refine (decodeWithPrefix_eq_ok_iff hascii _ _ _ _).mpr ⟨?_, ?_, ?_, ?_⟩
  · exact Text.mixesCase_eq_false_iff.mp (by decide +kernel)
  · exact ⟨.pubKeyHash, .bytes20, by decide, by decide⟩
  · intro hcolon
    exact absurd hcolon (by decide +kernel)
  · intro _
    exact ⟨rfl, by decide +kernel⟩

end BitcoinCash.CashAddr
