import BitcoinCash.Proofs.Address.Parsing
import BitcoinCash.Proofs.CashAddr.Letters

/-! # The case of a text that names its prefix

  The prefix is compared twice, and not in the same way: the network is looked up without regard to the
  case of ASCII letters, and the reader of the text folds all letters of Unicode.

  - **On ASCII text** the two agree. The capital form and the small form of a text are read alike
    (`AnswersAlike`), and a text that mixes the cases is refused (`parseWith_letterCase`).
  - **The Kelvin sign** is where they differ. It is read as a `k` by the reader and not found by the
    look-up, so that a text with one in its prefix is an address for `ofCashAddr` alone
    (`parseWith_eq_ok_iff_ofCashAddr`). **`ofCashAddr_kelvin_prefix`** is such a text.
-/

namespace BitcoinCash

namespace Address

variable {registry : Registry} {network : Option Profile} {n : Profile}
  {front front' body body' : Text}

theorem ofCashAddr_congr {t t' : Text} (hcase : t.mixesCase = t'.mixesCase)
    (hlower : t.lower = t'.lower) (n : Profile) : ofCashAddr n t = ofCashAddr n t' := by
  unfold ofCashAddr
  rw [CashAddr.decodeWithPrefix_congr hcase hlower]

theorem ofCashAddr_of_mixesCase {t : Text} (h : t.mixesCase = true) (n : Profile) :
    ofCashAddr n t = .error .mixedCase := by
  simp only [ofCashAddr, CashAddr.decodeWithPrefix_of_mixesCase h]

/-! ## Looking up the prefix -/

/-- The case of ASCII letters makes no difference to what is found. -/
theorem networkOfPrefix_eq_ok_congr (h : front.asciiLower = front'.asciiLower) :
    networkOfPrefix registry network front = .ok n ↔
      networkOfPrefix registry network front' = .ok n := by
  have hsame : (fun m : Profile => m.cashPrefix.asciiCaseEq front) =
      fun m : Profile => m.cashPrefix.asciiCaseEq front' := by
    funext m
    rw [Text.asciiCaseEq, Text.asciiCaseEq, h]
  cases network with
  | some m =>
    have hm : m.cashPrefix.asciiCaseEq front = m.cashPrefix.asciiCaseEq front' := congrFun hsame m
    unfold networkOfPrefix
    simp only [hm]
    split <;> simp
  | none =>
    unfold networkOfPrefix Registry.byPrefix?
    rw [hsame]
    cases registry.profiles.find? fun m => m.cashPrefix.asciiCaseEq front' <;> simp

/-- **A text that names its prefix** is read for the network of the prefix. -/
theorem parseWith_of_colon (registry : Registry) (network : Option Profile) (front : Text)
    (hbody : ':' ∉ body) : parseWith registry network (front ++ ':' :: body) =
      networkOfPrefix registry network front >>= (ofCashAddr · (front ++ ':' :: body)) := by
  unfold parseWith
  simp only [Text.splitLast?_append hbody]
  cases networkOfPrefix registry network front <;> rfl

/-! ## Capital and small letters -/

/-- **Two texts have the same answer**, but for the data that a failure carries. -/
inductive AnswersAlike :
    Except AddressError Address → Except AddressError Address → Prop
  /-- Both are read, as the same address. -/
  | address (a : Address) : AnswersAlike (.ok a) (.ok a)
  /-- Both are refused, for a failure of the same kind. -/
  | failure {e e' : AddressError} (h : e.ctorIdx = e'.ctorIdx) : AnswersAlike (.error e) (.error e')

theorem AnswersAlike.refl (answer : Except AddressError Address) : AnswersAlike answer answer :=
  match answer with
  | .ok a => .address a
  | .error _ => .failure rfl

/-- Texts that fold to the same text are read alike. -/
theorem answersAlike_parseWith (hbody : ':' ∉ body) (hbody' : ':' ∉ body')
    (hfront : front.asciiLower = front'.asciiLower)
    (hcase : Text.mixesCase (front ++ ':' :: body) = Text.mixesCase (front' ++ ':' :: body'))
    (hlower : Text.lower (front ++ ':' :: body) = Text.lower (front' ++ ':' :: body')) :
    AnswersAlike (parseWith registry network (front ++ ':' :: body))
      (parseWith registry network (front' ++ ':' :: body')) := by
  rw [parseWith_of_colon registry network front hbody,
    parseWith_of_colon registry network front' hbody']
  rcases networkOfPrefix_cases registry network front with ⟨n, -, -, hn⟩ | ⟨-, m, hm⟩
  · have hn' := (networkOfPrefix_eq_ok_congr hfront).mp hn
    rw [hn, hn']
    show AnswersAlike (ofCashAddr n _) (ofCashAddr n _)
    rw [ofCashAddr_congr hcase hlower]
    exact .refl _
  · rcases networkOfPrefix_cases registry network front' with ⟨n, -, -, hn'⟩ | ⟨-, m', hm'⟩
    · rw [← networkOfPrefix_eq_ok_congr hfront, hm] at hn'
      cases hn'
    · rw [hm, hm']
      exact .failure rfl

/-- A text that mixes the cases is no address. The prefix is looked up first. -/
theorem parseWith_of_mixesCase (registry : Registry) (network : Option Profile)
    (hmixed : Text.mixesCase (front ++ ':' :: body) = true) (hbody : ':' ∉ body) :
    parseWith registry network (front ++ ':' :: body) =
      networkOfPrefix registry network front >>= fun _ => .error .mixedCase := by
  rw [parseWith_of_colon registry network front hbody]
  simp only [ofCashAddr_of_mixesCase hmixed]

/-- The capital form and the small form of an ASCII text are read alike. -/
theorem answersAlike_asciiForms {text : Text} (hascii : ∀ c ∈ text, c.toNat < 0x80)
    (hcolon : ':' ∈ text) :
    AnswersAlike (parseWith registry network text.asciiUpper)
      (parseWith registry network text.asciiLower) := by
  obtain ⟨front, body, htext, hbody⟩ := Text.exists_append_of_mem hcolon
  have hbodyAscii : ∀ c ∈ body, c.toNat < 0x80 := by
    intro c hc
    refine hascii c ?_
    rw [htext]
    exact List.mem_append_right _ (List.mem_cons_of_mem _ hc)
  obtain ⟨hupper, hlower⟩ := Text.colon_not_mem_asciiForms hbodyAscii hbody
  have hfront : Text.asciiLower (Text.asciiUpper front) = Text.asciiLower (Text.asciiLower front) := by
    rw [← Text.asciiLower_asciiUpper (Text.asciiLower front), Text.asciiUpper_asciiLower]
  -- The capital form of the text is the one of its small form.
  have hsmall := Text.isSmallAscii_asciiLower hascii
  have hcase : text.asciiUpper.mixesCase = text.asciiLower.mixesCase := by
    rw [← Text.asciiUpper_asciiLower, hsmall.mixesCase_asciiUpper, hsmall.mixesCase_eq]
  have hfold : text.asciiUpper.lower = text.asciiLower.lower := by
    rw [← Text.asciiUpper_asciiLower, hsmall.lower_asciiUpper, hsmall.lower_eq]
  have hcapitalForm : text.asciiUpper = Text.asciiUpper front ++ ':' :: Text.asciiUpper body := by
    rw [htext, Text.asciiUpper_append]
    rfl
  have hsmallForm : text.asciiLower = Text.asciiLower front ++ ':' :: Text.asciiLower body := by
    rw [htext, Text.asciiLower, List.map_append]
    rfl
  rw [hcapitalForm, hsmallForm] at hcase hfold ⊢
  exact answersAlike_parseWith hupper hlower hfront hcase hfold

/-- **Case carries no information.** An ASCII text that names its prefix is read alike in capital and
    in small letters. If it has letters of both cases, it is refused, for mixing them if a candidate
    (the given network, or each registered one) has the prefix up to case, and otherwise for the
    prefix. -/
theorem parseWith_letterCase (registry : Registry) (network : Option Profile) {text : Text}
    (hascii : ∀ c ∈ text, c.toNat < 0x80) (hcolon : ':' ∈ text) :
    AnswersAlike (parseWith registry network text.asciiUpper)
      (parseWith registry network text.asciiLower) ∧
    ((∃ c ∈ text, c.isUpper) → (∃ c ∈ text, c.isLower) →
      (∃ e, parseWith registry network text = .error e) ∧
      ∀ front body, text = front ++ ':' :: body → ':' ∉ body →
        ((∃ n ∈ candidates registry network, n.cashPrefix.asciiCaseEq front = true) →
          parseWith registry network text = .error .mixedCase) ∧
        ((∀ n ∈ candidates registry network, n.cashPrefix.asciiCaseEq front = false) →
          ∃ mismatch, parseWith registry network text = .error (.prefixMismatch mismatch))) := by
  refine ⟨answersAlike_asciiForms hascii hcolon, ?_⟩
  intro hcapital hsmall
  have hmixed := Text.mixesCase_of_letters hascii hcapital hsmall
  refine ⟨?_, ?_⟩
  · obtain ⟨front, body, rfl, hbody⟩ := Text.exists_append_of_mem hcolon
    rw [parseWith_of_mixesCase registry network hmixed hbody]
    cases networkOfPrefix registry network front with
    | error e => exact ⟨e, rfl⟩
    | ok n => exact ⟨.mixedCase, rfl⟩
  · intro front body htext hbody
    rw [htext] at hmixed
    rw [htext, parseWith_of_mixesCase registry network hmixed hbody]
    rcases networkOfPrefix_cases registry network front with
      ⟨n, hmem, hsame, hfound⟩ | ⟨hnone, mismatch, hmissing⟩
    · rw [hfound]
      refine ⟨fun _ => rfl, fun hother => ?_⟩
      exact absurd hsame (Bool.eq_false_iff.mp (hother n hmem))
    · rw [hmissing]
      refine ⟨fun hother => ?_, fun _ => ⟨mismatch, rfl⟩⟩
      obtain ⟨n, hmem, hsame⟩ := hother
      exact absurd hsame (Bool.eq_false_iff.mp (hnone n hmem))

/-- An address on the second network of the standard registry is found in capital and in small letters,
    and refused with one capital letter in its prefix. -/
theorem parseWith_letterCase_testnet :
    let body : Text := "qpm2qsznhks23z7629mms6s4cwef74vcwvqcw003ap".toList
    let text : Text := "bchtest:".toList ++ body
    let mixed : Text := "bchTest:".toList ++ body
    (∃ a, parseWith .standard none text = .ok a ∧
      AnswersAlike (parseWith .standard none text.asciiUpper) (.ok a)) ∧
    parseWith .standard none mixed = .error .mixedCase ∧
    ∃ mismatch, parseWith .standard (some .mainnet) mixed = .error (.prefixMismatch mismatch) := by
  intro body text mixed
  have hsmall : text.asciiLower = text := by decide +kernel
  have hread : parseWith .standard none text = .ok ⟨.testnet, .pubKeyHash, .bytes20,
      [0x76, 0xa0, 0x40, 0x53, 0xbd, 0xa0, 0xa8, 0x8b, 0xda, 0x51, 0x77, 0xb8, 0x6a, 0x15, 0xc3,
        0xb2, 0x9f, 0x55, 0x98, 0x73]⟩ := by
    decide +kernel
  have hascii : ∀ t ∈ [text, mixed], ∀ c ∈ t, c.toNat < 0x80 := by
    have hall : [text, mixed].all (·.all (·.toNat < 0x80)) = true := by decide +kernel
    simpa only [List.all_eq_true, decide_eq_true_eq] using hall
  have hcolon : ':' ∈ text ∧ ':' ∈ mixed := by decide +kernel
  have hcapital : ∃ c ∈ mixed, c.isUpper := ⟨'T', by decide +kernel, rfl⟩
  have hother : ∃ c ∈ mixed, c.isLower := ⟨'b', by decide +kernel, rfl⟩
  have hbody : ':' ∉ body := by decide +kernel
  refine ⟨⟨_, hread, ?_⟩, ?_, ?_⟩
  · obtain ⟨halike, -⟩ := parseWith_letterCase .standard none (hascii text (by simp)) hcolon.1
    rwa [hsmall, hread] at halike
  · obtain ⟨-, hmixed⟩ :=
      parseWith_letterCase .standard none (hascii mixed (by simp)) hcolon.2
    apply ((hmixed hcapital hother).2 "bchTest".toList body rfl hbody).1
    exact ⟨.testnet, by decide, by decide +kernel⟩
  · obtain ⟨-, hmixed⟩ :=
      parseWith_letterCase .standard (some .mainnet) (hascii mixed (by simp)) hcolon.2
    exact ((hmixed hcapital hother).2 "bchTest".toList body rfl hbody).2 (by decide +kernel)

/-! ## The Kelvin sign -/

/-- An accepted text names the prefix of the network, in small letters or, up to Kelvin signs, in
    capital letters. -/
theorem front_of_ofCashAddr {a : Address} (hascii : n.cashPrefix.IsSmallAscii) (hbody : ':' ∉ body)
    (h : ofCashAddr n (front ++ ':' :: body) = .ok a) :
    front = n.cashPrefix ∨ front.plainLetters = n.cashPrefix.asciiUpper := by
  obtain ⟨hcase, rfl, -, hfull⟩ := ofCashAddr_eq_ok_iff.mp h
  have hcolon : ':' ∈ front ++ ':' :: body := List.mem_append_right _ List.mem_cons_self
  rw [CashAddr.fullText, if_pos hcolon] at hfull
  have hspelling :=
    (Text.mixesCase_and_lower_eq_iff (isSmallAscii_toCashAddr hascii)).mp ⟨hcase, hfull⟩
  rw [(toCashAddr_eq_append a).1] at hspelling
  rcases hspelling with hsmall | hcapital
  · exact .inl (Text.append_sep_inj hbody (colon_not_mem_toBareCashAddr a) hsmall).1
  · refine .inr ?_
    have hplain : ':' ∉ body.plainLetters := mt (Text.colon_mem_plainLetters_iff body).mp hbody
    have hparts : Text.plainLetters (front ++ ':' :: body) =
        front.plainLetters ++ ':' :: body.plainLetters := by
      rw [Text.plainLetters, List.map_append]
      rfl
    rw [hparts, Text.asciiUpper_append] at hcapital
    exact (Text.append_sep_inj hplain (colon_not_mem_asciiUpper_toBareCashAddr a) hcapital).1

/-- The prefix that an accepted text names is the one of the network up to case, with a `K` in the
    place of each Kelvin sign. -/
theorem asciiCaseEq_plainLetters_of_ofCashAddr {a : Address} (hascii : n.cashPrefix.IsSmallAscii)
    (hbody : ':' ∉ body) (h : ofCashAddr n (front ++ ':' :: body) = .ok a) :
    n.cashPrefix.asciiCaseEq front.plainLetters = true := by
  rcases front_of_ofCashAddr hascii hbody h with hsmall | hcapital
  · have hkelvin : Text.kelvin ∉ front := by
      rw [hsmall]
      exact Text.kelvin_not_mem_of_asciiCaseEq hascii (asciiCaseEq_self _)
    rw [Text.plainLetters_eq_self hkelvin, hsmall, asciiCaseEq_self]
  · rw [hcapital, asciiCaseEq_asciiUpper, asciiCaseEq_self]

/-- A text with a Kelvin sign in its prefix is read only for networks with a `k` in theirs. -/
theorem k_mem_of_kelvin_mem {a : Address} (hascii : n.cashPrefix.IsSmallAscii) (hbody : ':' ∉ body)
    (h : ofCashAddr n (front ++ ':' :: body) = .ok a) (hkelvin : Text.kelvin ∈ front) :
    'k' ∈ n.cashPrefix := by
  have hsame : n.cashPrefix.asciiLower = front.plainLetters.asciiLower :=
    beq_iff_eq.mp (asciiCaseEq_plainLetters_of_ofCashAddr hascii hbody h)
  have hcapital : 'K' ∈ front.plainLetters := List.mem_map_of_mem (f := Text.plainLetter) hkelvin
  rw [← hascii.asciiLower_eq, hsame]
  exact List.mem_map_of_mem (f := Char.toLower) hcapital

/-- The reader does not notice a `K` in the place of a Kelvin sign. -/
theorem ofCashAddr_plainLetters_front (n : Profile) (front body : Text) :
    ofCashAddr n (front.plainLetters ++ ':' :: body) = ofCashAddr n (front ++ ':' :: body) := by
  have hplain : Text.plainLetters (front.plainLetters ++ ':' :: body) =
      Text.plainLetters (front ++ ':' :: body) := by
    rw [Text.plainLetters, List.map_append, ← Text.plainLetters, ← Text.plainLetters,
      Text.plainLetters_plainLetters, Text.plainLetters, Text.plainLetters, Text.plainLetters,
      List.map_append]
  apply ofCashAddr_congr
  · rw [← Text.mixesCase_plainLetters, hplain, Text.mixesCase_plainLetters]
  · rw [← Text.lower_plainLetters, hplain, Text.lower_plainLetters]

/-- A text that names its prefix is read for a given network if it is the prefix of that, up to case. -/
theorem parseWith_some_of_colon (registry : Registry) (n : Profile) (front : Text)
    (hbody : ':' ∉ body) : parseWith registry (some n) (front ++ ':' :: body) =
      if n.cashPrefix.asciiCaseEq front then ofCashAddr n (front ++ ':' :: body)
      else .error (.prefixMismatch (.foreignPrefix n.cashPrefix front)) := by
  rw [parseWith_of_colon registry (some n) front hbody, networkOfPrefix]
  split <;> rfl

/-- What `ofCashAddr` accepts, the look-up of the prefix lets through, but for Kelvin signs. -/
theorem parseWith_some_eq_ok_iff (registry : Registry) {a : Address}
    (hascii : n.cashPrefix.IsSmallAscii) (hbody : ':' ∉ body) :
    parseWith registry (some n) (front ++ ':' :: body) = .ok a ↔
      ofCashAddr n (front ++ ':' :: body) = .ok a ∧ Text.kelvin ∉ front := by
  rw [parseWith_some_of_colon registry n front hbody]
  constructor
  · intro h
    split at h
    · next hsame => exact ⟨h, Text.kelvin_not_mem_of_asciiCaseEq hascii hsame⟩
    · cases h
  · intro h
    obtain ⟨hread, hkelvin⟩ := h
    have hsame := asciiCaseEq_plainLetters_of_ofCashAddr hascii hbody hread
    rw [Text.plainLetters_eq_self hkelvin] at hsame
    rw [if_pos hsame, hread]

/-- **Two ways to read a text for a network.** For a network with a small ASCII prefix, a text that
    names a prefix is read by both or by neither, unless it has a Kelvin sign in its prefix.

    - `parseWith` accepts what `ofCashAddr` accepts, without Kelvin signs in the prefix.
    - `ofCashAddr` accepts what `parseWith` accepts with a `K` in the place of each of them.
    - Under a prefix without a `k` there is no difference.
    - Where there is one, `parseWith` finds that the prefix is not the one of the network. -/
theorem parseWith_eq_ok_iff_ofCashAddr (registry : Registry) {n : Profile}
    (hascii : n.cashPrefix.IsSmallAscii) {front body : Text} (hbody : ':' ∉ body) :
    (∀ a, parseWith registry (some n) (front ++ ':' :: body) = .ok a ↔
      ofCashAddr n (front ++ ':' :: body) = .ok a ∧ Text.kelvin ∉ front) ∧
    (∀ a, ofCashAddr n (front ++ ':' :: body) = .ok a ↔
      parseWith registry (some n) (front.plainLetters ++ ':' :: body) = .ok a) ∧
    ('k' ∉ n.cashPrefix → ∀ a, ofCashAddr n (front ++ ':' :: body) = .ok a ↔
      parseWith registry (some n) (front ++ ':' :: body) = .ok a) ∧
    (Text.kelvin ∈ front → parseWith registry (some n) (front ++ ':' :: body) =
      .error (.prefixMismatch (.foreignPrefix n.cashPrefix front))) := by
  refine ⟨fun a => parseWith_some_eq_ok_iff registry hascii hbody, ?_, ?_, ?_⟩
  · intro a
    rw [parseWith_some_eq_ok_iff registry hascii hbody, ofCashAddr_plainLetters_front]
    exact (and_iff_left (Text.kelvin_not_mem_plainLetters front)).symm
  · intro hk a
    rw [parseWith_some_eq_ok_iff registry hascii hbody]
    refine ⟨fun h => ⟨h, fun hkelvin => hk ?_⟩, And.left⟩
    exact k_mem_of_kelvin_mem hascii hbody h hkelvin
  · intro hkelvin
    rw [parseWith_some_of_colon registry n front hbody, if_neg]
    exact fun hsame => Text.kelvin_not_mem_of_asciiCaseEq hascii hsame hkelvin

/-- An address of the public test network in capital letters is read both ways, and with a Kelvin sign
    in its prefix it is refused. -/
theorem parseWith_eq_ok_iff_ofCashAddr_testnet :
    let body : Text := "QPM2QSZNHKS23Z7629MMS6S4CWEF74VCWVQCW003AP".toList
    (∃ a, ofCashAddr .testnet ("BCHTEST".toList ++ ':' :: body) = .ok a ∧
      parseWith .standard (some .testnet) ("BCHTEST".toList ++ ':' :: body) = .ok a) ∧
    parseWith .standard (some .testnet) ([Text.kelvin] ++ ':' :: body) =
      .error (.prefixMismatch (.foreignPrefix "bchtest".toList [Text.kelvin])) := by
  intro body
  have hbody : ':' ∉ body := by decide +kernel
  have hascii : Profile.testnet.cashPrefix.IsSmallAscii := by decide
  have hread : ofCashAddr .testnet ("BCHTEST".toList ++ ':' :: body) = .ok ⟨.testnet, .pubKeyHash,
      .bytes20, [0x76, 0xa0, 0x40, 0x53, 0xbd, 0xa0, 0xa8, 0x8b, 0xda, 0x51, 0x77, 0xb8, 0x6a, 0x15,
        0xc3, 0xb2, 0x9f, 0x55, 0x98, 0x73]⟩ := by
    decide +kernel
  refine ⟨⟨_, hread, ?_⟩, ?_⟩
  · obtain ⟨-, -, hsame, -⟩ :=
      @parseWith_eq_ok_iff_ofCashAddr .standard _ hascii "BCHTEST".toList _ hbody
    exact (hsame (by decide) _).mp hread
  · obtain ⟨-, -, -, hmismatch⟩ :=
      @parseWith_eq_ok_iff_ofCashAddr .standard _ hascii [Text.kelvin] _ hbody
    exact hmismatch List.mem_cons_self

/-- A text that is an address for `ofCashAddr` and names a foreign prefix for `parseWith`. The prefix of
    the network is in small ASCII letters, and its `k` is a Kelvin sign in the text. -/
theorem ofCashAddr_kelvin_prefix :
    let n : Profile := ⟨"kash".toList, .other, 48, 50, "kash".toList⟩
    let front : Text := Text.kelvin :: "ASH".toList
    let text := front ++ ':' :: "QPM2QSZNHKS23Z7629MMS6S4CWEF74VCWV7HS0M737".toList
    n.cashPrefix.IsSmallAscii ∧ ':' ∈ text ∧
      ofCashAddr n text = .ok ⟨n, .pubKeyHash, .bytes20,
        [0x76, 0xa0, 0x40, 0x53, 0xbd, 0xa0, 0xa8, 0x8b, 0xda, 0x51, 0x77, 0xb8, 0x6a, 0x15, 0xc3,
          0xb2, 0x9f, 0x55, 0x98, 0x73]⟩ ∧
      parseWith .standard (some n) text =
        .error (.prefixMismatch (.foreignPrefix n.cashPrefix front)) := by
  decide +kernel

end Address

end BitcoinCash
