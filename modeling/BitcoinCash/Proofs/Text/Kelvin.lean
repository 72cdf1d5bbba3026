import BitcoinCash.Proofs.Text.Case

/-! # The Kelvin sign

  One character beyond ASCII has an ASCII small form: the Kelvin sign. It is a capital letter, and its
  small form is `k`, so that a text with it is folded like the same text with a `K`.

  - **`plainLetters`** puts a `K` in the place of each Kelvin sign. Neither folding nor the test for
    mixed cases notices (`lower_plainLetters`, `mixesCase_plainLetters`).
  - **`plainLetters_ascii`**: apart from Kelvin signs, a text with an ASCII small form is ASCII.
  - **`mixesCase_and_lower_eq_iff`** is the main statement. A small ASCII text is the small form of
    two texts that do not mix the cases, itself and its capital form, up to Kelvin signs in the
    second.
-/

namespace BitcoinCash.Text

/-- The Kelvin sign. -/
def kelvin : Char := Char.ofNat 0x212a

/-- A `K` for the Kelvin sign, and every other character for itself. -/
def plainLetter (c : Char) : Char :=
  if c = kelvin then 'K' else c

/-- The text with a `K` in the place of each Kelvin sign. -/
def plainLetters (t : Text) : Text :=
  t.map plainLetter

/-! ## What does not notice -/

/-- What is the same for the Kelvin sign and for `K` does not tell the two apart. -/
theorem plainLetter_congr {α : Type} {f : Char → α} (h : f 'K' = f kelvin) (c : Char) :
    f (plainLetter c) = f c := by
  unfold plainLetter
  split
  · next hc => rw [hc, h]
  · rfl

/-- A text without Kelvin signs stays as it is. -/
theorem plainLetters_eq_self {t : Text} (h : kelvin ∉ t) : plainLetters t = t := by
  have hchar : ∀ c ∈ t, plainLetter c = c := by
    intro c hc
    have hne : c ≠ kelvin := fun heq => h (heq ▸ hc)
    rw [plainLetter, if_neg hne]
  rw [plainLetters, List.map_congr_left hchar, List.map_id']

/-- A Kelvin sign begins a word, as a `K` does. -/
theorem startsCased_plainLetters (t : Text) : startsCased (plainLetters t) = startsCased t := by
  induction t with
  | nil => rfl
  | cons c t ih =>
    have hignore := plainLetter_congr (f := isCaseIgnorable) (by decide +kernel) c
    have hcased := plainLetter_congr (f := isCased) (by decide +kernel) c
    show startsCased (plainLetter c :: plainLetters t) = startsCased (c :: t)
    rw [startsCased_cons, startsCased_cons, hignore, hcased, ih]

theorem lowerFrom_plainLetters (before after : Text) :
    lowerFrom (plainLetters before) (plainLetters after) = lowerFrom before after := by
  induction after generalizing before with
  | nil => rfl
  | cons c after ih =>
    have hsigma : ((plainLetter c).toNat = 0x3a3) = (c.toNat = 0x3a3) :=
      plainLetter_congr (f := fun c => c.toNat = 0x3a3) (by decide +kernel) c
    have hlower := plainLetter_congr (f := lowerChar) (by decide +kernel) c
    have hrest := ih (c :: before)
    show lowerFrom (plainLetters before) (plainLetter c :: plainLetters after) = _
    change lowerFrom (plainLetter c :: plainLetters before) (plainLetters after) = _ at hrest
    rw [lowerFrom, lowerFrom, hrest, hlower, startsCased_plainLetters, startsCased_plainLetters]
    simp only [hsigma]

/-- **A Kelvin sign is folded like a `K`.** -/
theorem lower_plainLetters (t : Text) : (plainLetters t).lower = t.lower :=
  lowerFrom_plainLetters [] t

/-- **A Kelvin sign is a capital letter, like a `K`.** -/
theorem mixesCase_plainLetters (t : Text) : (plainLetters t).mixesCase = t.mixesCase := by
  have hsmall := plainLetter_congr (f := isLowercase) (by decide +kernel)
  have hcapital := plainLetter_congr (f := isUppercase) (by decide +kernel)
  simp [mixesCase, plainLetters, List.any_map, Function.comp_def, hsmall, hcapital]

theorem colon_mem_plainLetters_iff (t : Text) : ':' ∈ t.plainLetters ↔ ':' ∈ t := by
  rw [← colon_mem_lower_iff, lower_plainLetters, colon_mem_lower_iff]

theorem plainLetters_plainLetters (t : Text) : t.plainLetters.plainLetters = t.plainLetters := by
  rw [plainLetters, plainLetters, List.map_map]
  exact List.map_congr_left fun c _ => plainLetter_congr (f := plainLetter) (by decide) c

theorem kelvin_not_mem_plainLetters (t : Text) : kelvin ∉ t.plainLetters := by
  intro h
  obtain ⟨c, -, hc⟩ := List.mem_map.mp h
  unfold plainLetter at hc
  split at hc
  · exact absurd hc (by decide)
  · next hne => exact hne hc

/-- A small ASCII text is no text with a Kelvin sign, up to the case of ASCII letters. -/
theorem kelvin_not_mem_of_asciiCaseEq {s t : Text} (hs : s.IsSmallAscii)
    (h : s.asciiCaseEq t = true) : kelvin ∉ t := by
  intro hmem
  have hsame : s.asciiLower = t.asciiLower := beq_iff_eq.mp h
  -- The Kelvin sign is its own ASCII small form.
  have hlower : kelvin ∈ t.asciiLower := List.mem_map_of_mem (f := Char.toLower) hmem
  rw [← hsame, hs.asciiLower_eq] at hlower
  exact absurd (hs kelvin hlower).1 (by decide)

/-! ## Texts with an ASCII small form -/

/-- The small form of a character is a character. -/
theorem isValidChar_shifted {n : Nat} (hn : n.isValidChar) :
    (shifted smallForms n).isValidChar := by
  have hruns : ∀ s ∈ smallForms, s.target + (s.run.last - s.run.first) < 0xd800 ∨
      0xdfff < s.target ∧ s.target + (s.run.last - s.run.first) < 0x110000 := by
    decide +kernel
  unfold shifted
  split
  · next s hs =>
    have hcontains : s.run.contains n = true :=
      List.find?_some (p := fun s : Shift => s.run.contains n) hs
    simp only [Run.contains, Bool.and_eq_true, decide_eq_true_eq] at hcontains
    have hrange := hruns s (List.mem_of_find?_eq_some hs)
    unfold Nat.isValidChar
    omega
  · exact hn

/-- A character with an ASCII small form is ASCII, unless it is the Kelvin sign. -/
theorem plainLetter_ascii {c : Char} (h : ∀ d ∈ lowerChar c, d.toNat < 0x80) :
    (plainLetter c).toNat < 0x80 := by
  by_cases hc : c.toNat < 0x80
  · have hne : c ≠ kelvin := by
      intro heq
      rw [heq] at hc
      exact absurd hc (by decide)
    rwa [plainLetter, if_neg hne]
  · unfold lowerChar at h
    rw [if_neg hc] at h
    split at h
    · -- The dot above the `i` is not ASCII.
      exact absurd (h (Char.ofNat 0x307) (by simp)) (by decide)
    · have hsmall := h _ (List.mem_singleton.mpr rfl)
      have hvalid : (shifted smallForms c.toNat).isValidChar := isValidChar_shifted c.valid
      rw [Char.toNat_ofNat, if_pos hvalid] at hsmall
      have hcode := eq_kelvin_of_shifted_lt (Nat.not_lt.mp hc) hsmall
      have hkelvin : c = kelvin := by rw [kelvin, ← hcode, Char.ofNat_toNat]
      rw [plainLetter, if_pos hkelvin]
      decide

/-- **A text with an ASCII small form is ASCII**, apart from Kelvin signs. -/
theorem plainLetters_ascii {before t : Text} (h : ∀ d ∈ lowerFrom before t, d.toNat < 0x80) :
    ∀ c ∈ plainLetters t, c.toNat < 0x80 := by
  induction t generalizing before with
  | nil => simp [plainLetters]
  | cons c t ih =>
    rw [lowerFrom] at h
    have hhead := fun d hd => h d (List.mem_append_left _ hd)
    have hrest := ih fun d hd => h d (List.mem_append_right _ hd)
    have hfirst : (plainLetter c).toNat < 0x80 := by
      split at hhead
      · -- The small forms of a capital sigma are not ASCII.
        split at hhead
        · exact absurd (hhead _ (List.mem_singleton.mpr rfl)) (by decide)
        · exact absurd (hhead _ (List.mem_singleton.mpr rfl)) (by decide)
      · exact plainLetter_ascii hhead
    exact List.forall_mem_cons.mpr ⟨hfirst, hrest⟩

/-- An ASCII text that does not mix the cases is its own small form or the capital form of it. -/
theorem eq_asciiLower_or_asciiUpper {t : Text} (hascii : ∀ c ∈ t, c.toNat < 0x80)
    (hcase : t.mixesCase = false) : t = t.asciiLower ∨ t = t.asciiLower.asciiUpper := by
  by_cases hcapital : ∃ c ∈ t, isUppercase c
  · -- With a capital letter in the text, a small one would mix the cases.
    refine .inr ?_
    rw [asciiUpper_asciiLower]
    refine (asciiUpper_of_no_lower ?_).symm
    intro c hc
    by_contra hsmall
    have hlower : isLowercase c = true := by
      rw [isLowercase, if_pos (hascii c hc)]
      simpa using hsmall
    exact mixesCase_eq_false_iff.mp hcase ⟨⟨c, hc, hlower⟩, hcapital⟩
  · refine .inl (asciiLower_of_no_upper ?_).symm
    intro c hc
    by_contra hupper
    refine hcapital ⟨c, hc, ?_⟩
    rw [isUppercase, if_pos (hascii c hc)]
    simpa using hupper

/-- **The spellings of a small ASCII text.** Among the texts that do not mix the cases, it is the small
    form of itself and of its capital form, and a `K` of the latter may be a Kelvin sign. -/
theorem mixesCase_and_lower_eq_iff {t w : Text} (hw : w.IsSmallAscii) :
    t.mixesCase = false ∧ t.lower = w ↔ t = w ∨ t.plainLetters = w.asciiUpper := by
  constructor
  · intro h
    obtain ⟨hcase, hlower⟩ := h
    have hascii : ∀ c ∈ plainLetters t, c.toNat < 0x80 := by
      refine @plainLetters_ascii [] t ?_
      intro d hd
      exact (hw d (hlower ▸ hd)).1
    have hsmall : t.plainLetters.asciiLower = w := by
      rw [← lower_of_ascii hascii, lower_plainLetters, hlower]
    rw [← mixesCase_plainLetters] at hcase
    have hspelling := eq_asciiLower_or_asciiUpper hascii hcase
    rw [hsmall] at hspelling
    refine hspelling.imp_left ?_
    intro hplain
    -- There is no Kelvin sign, since it would have become a capital letter.
    have hkelvin : kelvin ∉ t := by
      intro hmem
      have hK : 'K' ∈ w := hplain ▸ List.mem_map_of_mem (f := plainLetter) hmem
      exact absurd (hw 'K' hK).2 (by decide)
    rw [← hplain, plainLetters_eq_self hkelvin]
  · intro h
    rcases h with rfl | hcapital
    · exact ⟨hw.mixesCase_eq, hw.lower_eq⟩
    · rw [← mixesCase_plainLetters, ← lower_plainLetters, hcapital]
      exact ⟨hw.mixesCase_asciiUpper, hw.lower_asciiUpper⟩

end BitcoinCash.Text
