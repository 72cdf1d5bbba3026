import BitcoinCash.Text.Case
import Mathlib

/-! # Cutting and folding text

  How the two foldings of letters, the one of ASCII and the one of Unicode, go together with each
  other and with the cut at a separator.

  - **Cutting**: `splitLast?` finds the last separator (`splitLast?_append`), if there is one
    (`splitLast?_eq_none_iff`).
  - **Colons** are neither made nor lost by folding (`colon_mem_lower_iff`).
  - **What follows** a text has a say in how it is folded only through a capital sigma
    (`exists_lowerFrom_append`), and only through the last one (`exists_lowerFrom_append_sigma`).
  - **`IsSmallAscii`** is the class of texts on which writers of addresses work: ASCII without
    capital letters. Folding leaves such a text alone (`IsSmallAscii.lower_eq`) and undoes its
    capital form (`IsSmallAscii.lower_asciiUpper`), and neither form mixes the cases.
-/

namespace BitcoinCash.Text

/-! ## Cutting -/

/-- There is nothing to cut exactly if the separator does not occur. -/
theorem splitLast?_eq_none_iff {sep : Char} {t : Text} : splitLast? sep t = none ↔ sep ∉ t := by
  induction t with
  | nil => simp [splitLast?]
  | cons c t ih =>
    rw [splitLast?, List.mem_cons, not_or, ← ih]
    cases splitLast? sep t with
    | none => simp [eq_comm]
    | some parts => simp

/-- The parts around a separator that does not occur in the second part. -/
theorem splitLast?_append {sep : Char} {before after : Text} (h : sep ∉ after) :
    splitLast? sep (before ++ sep :: after) = some (before, after) := by
  induction before with
  | nil => simp [splitLast?, splitLast?_eq_none_iff.mpr h]
  | cons c before ih => simp [splitLast?, ih]

/-- What stands around the last separator is determined by the text. -/
theorem append_sep_inj {sep : Char} {s s' t t' : Text} (ht : sep ∉ t) (ht' : sep ∉ t')
    (h : s ++ sep :: t = s' ++ sep :: t') : s = s' ∧ t = t' := by
  have hcut : splitLast? sep (s ++ sep :: t) = some (s, t) := splitLast?_append ht
  rw [h, splitLast?_append ht', Option.some.injEq, Prod.mk.injEq] at hcut
  exact ⟨hcut.1.symm, hcut.2.symm⟩

/-- A text with a character in it is cut at the last one. -/
theorem exists_append_of_mem {c : Char} {t : Text} (h : c ∈ t) :
    ∃ front back, t = front ++ c :: back ∧ c ∉ back := by
  obtain ⟨back, front, hsplit, hback⟩ := List.eq_append_cons_of_mem (List.mem_reverse.mpr h)
  have hrev := congrArg List.reverse hsplit
  refine ⟨front.reverse, back.reverse, by simpa using hrev, ?_⟩
  rwa [List.mem_reverse]

/-! ## Folding one character -/

/-- A property of ASCII characters is a property of the first 128 code points. -/
theorem of_ascii {P : Char → Prop} (h : ∀ n < 0x80, P (Char.ofNat n)) {c : Char}
    (hc : c.toNat < 0x80) : P c := by
  have := h c.toNat hc
  rwa [Char.ofNat_toNat] at this

theorem toLower_eq_colon_iff {c : Char} (hc : c.toNat < 0x80) : c.toLower = ':' ↔ c = ':' :=
  of_ascii (P := fun c => c.toLower = ':' ↔ c = ':') (by decide) hc

/-- No small form is a colon: they all lie beyond it. -/
theorem ofNat_shifted_ne_colon {n : Nat} (hn : 0x80 ≤ n) :
    Char.ofNat (shifted smallForms n) ≠ ':' := by
  have htarget : ∀ s ∈ smallForms, 0x3a < s.target := by decide +kernel
  have hbeyond : 0x3a < shifted smallForms n := by
    rw [shifted]
    split
    · next s hs => exact Nat.lt_add_right _ (htarget s (List.mem_of_find?_eq_some hs))
    · omega
  intro h
  have hnat := congrArg Char.toNat h
  rw [Char.toNat_ofNat] at hnat
  -- A number that is no code point stands for the zero character, which is no colon either.
  split at hnat
  · exact absurd hnat (Nat.ne_of_gt hbeyond)
  · exact absurd hnat (by decide)

/-- The Kelvin sign is the only character beyond ASCII that has an ASCII small form. -/
theorem eq_kelvin_of_shifted_lt {n : Nat} (hn : 0x80 ≤ n)
    (h : shifted smallForms n < 0x80) : n = 0x212a := by
  have hruns : ∀ s ∈ smallForms, s.target < 0x80 →
      s.run.first = 0x212a ∧ s.run.last = 0x212a := by
    decide +kernel
  unfold shifted at h
  split at h
  · next s hs =>
    obtain ⟨hfirst, hlast⟩ := hruns s (List.mem_of_find?_eq_some hs) (by omega)
    have hcontains : s.run.contains n = true :=
      List.find?_some (p := fun s : Shift => s.run.contains n) hs
    simp only [Run.contains, Bool.and_eq_true, decide_eq_true_eq] at hcontains
    omega
  · omega

theorem colon_mem_lowerChar_iff (c : Char) : ':' ∈ lowerChar c ↔ c = ':' := by
  rw [lowerChar]
  split
  · next h => rw [List.mem_singleton, eq_comm, toLower_eq_colon_iff h]
  · next h =>
    have hne : c ≠ ':' := by
      rintro rfl
      exact h (by decide)
    split
    · exact iff_of_false (by decide) hne
    · rw [List.mem_singleton]
      exact iff_of_false (ofNat_shifted_ne_colon (Nat.not_lt.mp h)).symm hne

theorem colon_mem_lowerFrom_iff (before after : Text) :
    ':' ∈ lowerFrom before after ↔ ':' ∈ after := by
  induction after generalizing before with
  | nil => rfl
  | cons c after ih =>
    rw [lowerFrom, List.mem_append, ih, List.mem_cons, eq_comm (a := ':')]
    apply or_congr_left
    split
    · next h =>
      -- A capital sigma has two small forms.
      have hne : c ≠ ':' := by
        rintro rfl
        exact absurd h (by decide)
      refine iff_of_false ?_ hne
      split <;> decide
    · exact colon_mem_lowerChar_iff c

/-- **Folding neither makes nor loses a colon.** -/
theorem colon_mem_lower_iff (t : Text) : ':' ∈ t.lower ↔ ':' ∈ t :=
  colon_mem_lowerFrom_iff [] t

/-- A text without a colon has none in small letters either. -/
theorem colon_not_mem_lower {t : Text} (h : ':' ∉ t) : ':' ∉ t.lower :=
  mt (colon_mem_lower_iff t).mp h

/-! ## Folding in context -/

/-- The case-ignorable characters of ASCII are punctuation. -/
theorem isAlphanum_of_isCaseIgnorable {c : Char} (hc : c.toNat < 0x80)
    (h : isCaseIgnorable c = true) : c.isAlphanum = false := by
  have hruns : ∀ r ∈ caseIgnorable, r.first < 0x80 → ∀ n < 0x80, r.contains n = true →
      (Char.ofNat n).isAlphanum = false := by
    decide +kernel
  obtain ⟨r, hr, hcontains⟩ := List.any_eq_true.mp h
  have hfirst : r.first ≤ c.toNat := by
    simp only [Run.contains, Bool.and_eq_true, decide_eq_true_eq] at hcontains
    exact hcontains.1.1
  have hpunctuation := hruns r hr (Nat.lt_of_le_of_lt hfirst hc) c.toNat hc hcontains
  rwa [Char.ofNat_toNat] at hpunctuation

/-- Case-ignorable characters are passed over, and the next character counts. -/
theorem startsCased_cons (c : Char) (t : Text) :
    startsCased (c :: t) = if isCaseIgnorable c then startsCased t else isCased c := by
  unfold startsCased
  rw [List.dropWhile_cons]
  split_ifs <;> rfl

/-- What stands in front does not tell apart two texts that start alike. -/
theorem startsCased_append_congr {s s' : Text} (h : startsCased s = startsCased s') (t : Text) :
    startsCased (t ++ s) = startsCased (t ++ s') := by
  induction t with
  | nil => exact h
  | cons c t ih =>
    rw [List.cons_append, List.cons_append, startsCased_cons, startsCased_cons, ih]

/-- **A text is folded without regard to what follows it**, but for a capital sigma in it, which
    asks whether a word goes on. -/
theorem exists_lowerFrom_append {t : Text} {s s' : Text}
    (h : (∀ c ∈ t, c.toNat ≠ 0x3a3) ∨ startsCased s = startsCased s') (before : Text) :
    ∃ small, lowerFrom before (t ++ s) = small ++ lowerFrom (t.reverse ++ before) s ∧
      lowerFrom before (t ++ s') = small ++ lowerFrom (t.reverse ++ before) s' := by
  induction t generalizing before with
  | nil => exact ⟨[], rfl, rfl⟩
  | cons c t ih =>
    have hrest : (∀ c ∈ t, c.toNat ≠ 0x3a3) ∨ startsCased s = startsCased s' :=
      h.imp_left fun hall c hc => hall c (List.mem_cons_of_mem _ hc)
    obtain ⟨small, hs, hs'⟩ := ih hrest (c :: before)
    have hsame : c.toNat ≠ 0x3a3 ∨ startsCased (t ++ s) = startsCased (t ++ s') :=
      h.imp (fun hall => hall c List.mem_cons_self) fun heq => startsCased_append_congr heq t
    rw [List.reverse_cons, List.append_assoc, List.singleton_append, List.cons_append,
      List.cons_append, lowerFrom, lowerFrom, hs, hs']
    by_cases hc : c.toNat = 0x3a3
    · -- A capital sigma: both texts go on alike.
      have heq := hsame.resolve_left (not_not_intro hc)
      rw [if_pos hc, if_pos hc, heq]
      exact ⟨_ ++ small, (List.append_assoc ..).symm, (List.append_assoc ..).symm⟩
    · rw [if_neg hc, if_neg hc]
      exact ⟨lowerChar c ++ small, (List.append_assoc ..).symm, (List.append_assoc ..).symm⟩

theorem toNat_eq_sigma_iff {c : Char} : c.toNat = 0x3a3 ↔ c = 'Σ' := by
  constructor
  · intro h
    rw [← Char.ofNat_toNat c, h]
  · rintro rfl
    rfl

/-- A capital sigma becomes one of the two small ones. -/
theorem exists_lowerFrom_sigma (before after : Text) : ∃ a ∈ ['σ', 'ς'],
    lowerFrom before ('Σ' :: after) = a :: lowerFrom ('Σ' :: before) after := by
  rw [lowerFrom, if_pos (toNat_eq_sigma_iff.mpr rfl)]
  split
  · exact ⟨'ς', by decide, rfl⟩
  · exact ⟨'σ', by decide, rfl⟩

/-- **What follows a text changes one letter of it at most**: the small form of its last capital
    sigma. -/
theorem exists_lowerFrom_append_sigma (t s s' before : Text) :
    ∃ small small', lowerFrom before (t ++ s) = small ++ lowerFrom (t.reverse ++ before) s ∧
      lowerFrom before (t ++ s') = small' ++ lowerFrom (t.reverse ++ before) s' ∧
      (small = small' ∨ startsCased s ≠ startsCased s' ∧ ∃ front back, ∃ a ∈ ['σ', 'ς'],
        ∃ a' ∈ ['σ', 'ς'], small = front ++ a :: back ∧ small' = front ++ a' :: back) := by
  by_cases h : (∀ c ∈ t, c.toNat ≠ 0x3a3) ∨ startsCased s = startsCased s'
  · obtain ⟨small, hs, hs'⟩ := exists_lowerFrom_append h before
    exact ⟨small, small, hs, hs', .inl rfl⟩
  · push Not at h
    obtain ⟨⟨c, hc, hsigma⟩, hne⟩ := h
    rw [toNat_eq_sigma_iff.mp hsigma] at hc
    -- In front of the last capital sigma a word goes on with it, and after it there is no other.
    obtain ⟨front, back, rfl, hback⟩ := exists_append_of_mem hc
    have hstart : startsCased ('Σ' :: (back ++ s)) = startsCased ('Σ' :: (back ++ s')) := by
      have hignore : isCaseIgnorable 'Σ' = false := by decide +kernel
      rw [startsCased_cons, startsCased_cons, hignore]
      rfl
    have hnone : ∀ c ∈ back, c.toNat ≠ 0x3a3 := by
      intro c hc hsigma
      rw [toNat_eq_sigma_iff.mp hsigma] at hc
      exact hback hc
    obtain ⟨small, h₁, h₁'⟩ := exists_lowerFrom_append (.inr hstart) before
    obtain ⟨a, ha, h₂⟩ := exists_lowerFrom_sigma (front.reverse ++ before) (back ++ s)
    obtain ⟨a', ha', h₂'⟩ := exists_lowerFrom_sigma (front.reverse ++ before) (back ++ s')
    obtain ⟨rest, h₃, h₃'⟩ :=
      @exists_lowerFrom_append back s s' (.inl hnone) ('Σ' :: (front.reverse ++ before))
    refine ⟨small ++ a :: rest, small ++ a' :: rest, ?_, ?_,
      .inr ⟨hne, small, rest, a, ha, a', ha', rfl, rfl⟩⟩
    · rw [List.append_assoc, List.cons_append, h₁, h₂, h₃]
      simp
    · rw [List.append_assoc, List.cons_append, h₁', h₂', h₃']
      simp

/-! ## ASCII text -/

/-- All characters are ASCII, and none is a capital letter. -/
def IsSmallAscii (t : Text) : Prop :=
  ∀ c ∈ t, c.toNat < 0x80 ∧ c.isUpper = false

instance (t : Text) : Decidable t.IsSmallAscii :=
  decidable_of_iff (t.all fun c => decide (c.toNat < 0x80) && !c.isUpper) (by simp [IsSmallAscii])

/-- On ASCII text the two foldings are the same, whatever comes before it. -/
theorem lowerFrom_of_ascii {t : Text} (h : ∀ c ∈ t, c.toNat < 0x80) (before : Text) :
    lowerFrom before t = t.asciiLower := by
  induction t generalizing before with
  | nil => rfl
  | cons c t ih =>
    have hc : c.toNat < 0x80 := h c List.mem_cons_self
    have hsigma : c.toNat ≠ 0x3a3 := by omega
    rw [lowerFrom, if_neg hsigma, lowerChar, if_pos hc,
      ih (fun c hc => h c (List.mem_cons_of_mem _ hc))]
    rfl

theorem lower_of_ascii {t : Text} (h : ∀ c ∈ t, c.toNat < 0x80) : t.lower = t.asciiLower :=
  lowerFrom_of_ascii h []

theorem mixesCase_eq_false_iff {t : Text} :
    t.mixesCase = false ↔ ¬((∃ c ∈ t, isLowercase c) ∧ ∃ c ∈ t, isUppercase c) := by
  rw [mixesCase, ← Bool.not_eq_true, Bool.and_eq_true, List.any_eq_true, List.any_eq_true]

/-- A text none of whose characters is capital does not mix the cases. -/
theorem mixesCase_of_no_upper {t : Text} (h : ∀ c ∈ t, isUppercase c = false) :
    t.mixesCase = false := by
  rw [mixesCase_eq_false_iff]
  rintro ⟨-, c, hc, hupper⟩
  rw [h c hc] at hupper
  exact absurd hupper (by decide)

/-- A text none of whose characters is small does not mix the cases. -/
theorem mixesCase_of_no_lower {t : Text} (h : ∀ c ∈ t, isLowercase c = false) :
    t.mixesCase = false := by
  rw [mixesCase_eq_false_iff]
  rintro ⟨⟨c, hc, hlower⟩, -⟩
  rw [h c hc] at hlower
  exact absurd hlower (by decide)

/-- An ASCII text with a capital and a small letter mixes the cases. -/
theorem mixesCase_of_letters {t : Text} (h : ∀ c ∈ t, c.toNat < 0x80) (hcapital : ∃ c ∈ t, c.isUpper)
    (hsmall : ∃ c ∈ t, c.isLower) : t.mixesCase = true := by
  obtain ⟨c, hc, hupper⟩ := hcapital
  obtain ⟨d, hd, hlower⟩ := hsmall
  rw [mixesCase, Bool.and_eq_true, List.any_eq_true, List.any_eq_true]
  refine ⟨⟨d, hd, ?_⟩, c, hc, ?_⟩
  · rwa [isLowercase, if_pos (h d hd)]
  · rwa [isUppercase, if_pos (h c hc)]

/-- In the end the last folding counts. -/
theorem asciiLower_asciiUpper (t : Text) : t.asciiUpper.asciiLower = t.asciiLower := by
  rw [asciiLower, asciiUpper, List.map_map]
  exact List.map_congr_left fun c _ => Char.toLower_toUpper_eq_toLower c

/-- The same the other way round. -/
theorem asciiUpper_asciiLower (t : Text) : t.asciiLower.asciiUpper = t.asciiUpper := by
  rw [asciiLower, asciiUpper, List.map_map]
  exact List.map_congr_left fun c _ => Char.toUpper_toLower_eq_toUpper c

/-- A text without ASCII capital letters is its own small form. -/
theorem asciiLower_of_no_upper {t : Text} (h : ∀ c ∈ t, c.isUpper = false) : t.asciiLower = t := by
  have hchar : ∀ c ∈ t, c.toLower = c := fun c hc =>
    Char.toLower_eq_of_not_isUpper (Bool.not_eq_true _ ▸ h c hc)
  rw [asciiLower, List.map_congr_left hchar, List.map_id']

/-- What becomes ASCII text by folding its ASCII letters is ASCII text. -/
theorem ascii_of_asciiLower {t : Text} (h : ∀ c ∈ t.asciiLower, c.toNat < 0x80) :
    ∀ c ∈ t, c.toNat < 0x80 := by
  intro c hc
  by_contra hbeyond
  have hupper : ¬c.isUpper = true := by
    intro hupper
    have hle : c.toNat ≤ 'Z'.toNat := (of_decide_eq_true hupper).2
    exact hbeyond (Nat.lt_of_le_of_lt hle (by decide))
  have hsame : c.toLower = c := Char.toLower_eq_of_not_isUpper hupper
  have hlower := h c.toLower (List.mem_map_of_mem hc)
  rw [hsame] at hlower
  exact hbeyond hlower

/-- A text without ASCII small letters is its own capital form. -/
theorem asciiUpper_of_no_lower {t : Text} (h : ∀ c ∈ t, c.isLower = false) : t.asciiUpper = t := by
  have hchar : ∀ c ∈ t, c.toUpper = c := fun c hc =>
    Char.toUpper_eq_of_not_isLower (Bool.not_eq_true _ ▸ h c hc)
  rw [asciiUpper, List.map_congr_left hchar, List.map_id']

theorem asciiUpper_append (s t : Text) : asciiUpper (s ++ t) = asciiUpper s ++ asciiUpper t :=
  List.map_append

namespace IsSmallAscii

variable {t : Text}

theorem append {s : Text} (hs : s.IsSmallAscii) (ht : t.IsSmallAscii) :
    IsSmallAscii (s ++ t) := by
  intro c hc
  rcases List.mem_append.mp hc with h | h
  · exact hs c h
  · exact ht c h

theorem asciiLower_eq (h : t.IsSmallAscii) : t.asciiLower = t :=
  asciiLower_of_no_upper fun c hc => (h c hc).2

/-- Folding leaves small ASCII text alone. -/
theorem lower_eq (h : t.IsSmallAscii) : t.lower = t := by
  rw [lower_of_ascii fun c hc => (h c hc).1, h.asciiLower_eq]

/-- The capital form is ASCII, too. -/
theorem asciiUpper_ascii (h : t.IsSmallAscii) : ∀ c ∈ t.asciiUpper, c.toNat < 0x80 := by
  intro c hc
  obtain ⟨d, hd, rfl⟩ := List.mem_map.mp hc
  exact of_ascii (P := fun c => c.toUpper.toNat < 0x80) (by decide) (h d hd).1

theorem asciiLower_asciiUpper (h : t.IsSmallAscii) : t.asciiUpper.asciiLower = t := by
  rw [Text.asciiLower_asciiUpper, h.asciiLower_eq]

/-- Folding undoes the capital form. -/
theorem lower_asciiUpper (h : t.IsSmallAscii) : t.asciiUpper.lower = t := by
  rw [lower_of_ascii h.asciiUpper_ascii, h.asciiLower_asciiUpper]

theorem isUppercase_eq (h : t.IsSmallAscii) : ∀ c ∈ t, isUppercase c = false := by
  intro c hc
  rw [isUppercase, if_pos (h c hc).1]
  exact (h c hc).2

theorem mixesCase_eq (h : t.IsSmallAscii) : t.mixesCase = false :=
  mixesCase_of_no_upper h.isUppercase_eq

theorem mixesCase_asciiUpper (h : t.IsSmallAscii) : t.asciiUpper.mixesCase = false := by
  apply mixesCase_of_no_lower
  intro c hc
  have hascii := h.asciiUpper_ascii c hc
  obtain ⟨d, -, rfl⟩ := List.mem_map.mp hc
  rw [isLowercase, if_pos hascii, Char.isLower_toUpper_eq_false]

/-- The capital form has a colon exactly where the text has one. -/
theorem colon_mem_asciiUpper_iff (h : t.IsSmallAscii) : ':' ∈ t.asciiUpper ↔ ':' ∈ t := by
  rw [← colon_mem_lower_iff t.asciiUpper, h.lower_asciiUpper]

end IsSmallAscii

/-- The small form of an ASCII text. -/
theorem isSmallAscii_asciiLower {t : Text} (h : ∀ c ∈ t, c.toNat < 0x80) :
    t.asciiLower.IsSmallAscii := by
  intro c hc
  obtain ⟨d, hd, rfl⟩ := List.mem_map.mp hc
  exact of_ascii (P := fun c => c.toLower.toNat < 0x80 ∧ c.toLower.isUpper = false) (by decide)
    (h d hd)

/-- No letter becomes a colon, whichever form is taken. -/
theorem colon_not_mem_asciiForms {t : Text} (h : ∀ c ∈ t, c.toNat < 0x80) (hcolon : ':' ∉ t) :
    ':' ∉ t.asciiUpper ∧ ':' ∉ t.asciiLower := by
  have hsmall : ':' ∉ t.asciiLower := by
    rw [← lower_of_ascii h]
    exact colon_not_mem_lower hcolon
  refine ⟨?_, hsmall⟩
  rw [← asciiUpper_asciiLower, (isSmallAscii_asciiLower h).colon_mem_asciiUpper_iff]
  exact hsmall

end BitcoinCash.Text
