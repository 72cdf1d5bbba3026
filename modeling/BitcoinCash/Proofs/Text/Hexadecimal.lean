import BitcoinCash.Hex
import BitcoinCash.Proofs.Text.Case

/-! # Hexadecimal text

  A text is read as bytes exactly if it looks like the digits of them, whatever the case of the
  letters and with a marker or without one.

  - **`Hex.IsHexText`** says on characters what hexadecimal text looks like. The reader works on
    UTF-8 bytes; the two agree because a character beyond ASCII has no ASCII byte
    (`Text.exists_cons_of_utf8_eq_cons`, `Hex.mem_digits_of_digitValue?`).
  - **`Hex.isHexText_iff`**: such a text stands for bytes. Its digits, in small letters, are the
    ones that are written for them.
  - **`Hex.decode_eq_ok_iff`** is the main statement: these bytes are what is read.
-/

namespace BitcoinCash

/-! ## ASCII in UTF-8 -/

namespace Text

/-- An ASCII character is one byte. -/
theorem utf8EncodeChar_of_lt {c : Char} (h : c.toNat < 0x80) :
    String.utf8EncodeChar c = [UInt8.ofNat c.toNat] := by
  unfold String.utf8EncodeChar
  exact if_pos (Nat.le_of_lt_succ h)

/-- Any other character has no ASCII byte. -/
theorem le_of_mem_utf8EncodeChar {c : Char} (h : 0x80 ≤ c.toNat) {b : UInt8}
    (hb : b ∈ String.utf8EncodeChar c) : 0x80 ≤ b.toNat := by
  have hc : ¬c.val.toNat ≤ 127 := Nat.not_le.mpr h
  unfold String.utf8EncodeChar at hb
  rw [if_neg hc] at hb
  -- There are two, three or four bytes, each with the highest bit set.
  split at hb
  · rcases List.mem_pair.mp hb with rfl | rfl
    all_goals
      rw [UInt8.toNat_ofNat']
      omega
  split at hb
  · simp only [List.mem_cons, List.not_mem_nil, or_false] at hb
    rcases hb with rfl | rfl | rfl
    all_goals
      rw [UInt8.toNat_ofNat']
      omega
  · simp only [List.mem_cons, List.not_mem_nil, or_false] at hb
    rcases hb with rfl | rfl | rfl | rfl
    all_goals
      rw [UInt8.toNat_ofNat']
      omega

theorem utf8_cons (c : Char) (t : Text) : utf8 (c :: t) = String.utf8EncodeChar c ++ utf8 t :=
  List.flatMap_cons

theorem utf8_cons_of_lt {c : Char} (h : c.toNat < 0x80) (t : Text) :
    utf8 (c :: t) = UInt8.ofNat c.toNat :: utf8 t := by
  rw [utf8_cons, utf8EncodeChar_of_lt h]
  rfl

/-- ASCII text has as many bytes as characters. -/
theorem length_utf8_of_ascii {t : Text} (h : ∀ c ∈ t, c.toNat < 0x80) :
    t.utf8.length = t.length := by
  induction t with
  | nil => rfl
  | cons c t ih =>
    rw [utf8_cons_of_lt (h c List.mem_cons_self), List.length_cons, List.length_cons,
      ih fun c hc => h c (List.mem_cons_of_mem _ hc)]

theorem toNat_ofNat_of_ascii {c : Char} (h : c.toNat < 0x80) :
    (UInt8.ofNat c.toNat).toNat = c.toNat :=
  UInt8.toNat_ofNat_of_lt' (Nat.lt_trans h (by decide))

/-- The first byte of a character. -/
theorem exists_utf8EncodeChar_eq_cons (c : Char) :
    ∃ b bs, String.utf8EncodeChar c = b :: bs ∧ b ∈ String.utf8EncodeChar c := by
  obtain ⟨b, bs, hbs⟩ := List.exists_cons_of_ne_nil (String.utf8EncodeChar_ne_nil (c := c))
  refine ⟨b, bs, hbs, ?_⟩
  rw [hbs]
  exact List.mem_cons_self

/-- **An ASCII byte at the front** is the first character. -/
theorem exists_cons_of_utf8_eq_cons {t : Text} {a : Char} {rest : Bytes} (ha : a.toNat < 0x80)
    (h : t.utf8 = UInt8.ofNat a.toNat :: rest) : ∃ t' : Text, t = a :: t' ∧ t'.utf8 = rest := by
  cases t with
  | nil => cases h
  | cons c t =>
    by_cases hc : c.toNat < 0x80
    · rw [utf8_cons_of_lt hc, List.cons.injEq] at h
      have hnat := congrArg UInt8.toNat h.1
      rw [toNat_ofNat_of_ascii ha, toNat_ofNat_of_ascii hc] at hnat
      rw [Char.toNat_inj.mp hnat]
      exact ⟨t, rfl, h.2⟩
    · -- The byte would be one of a character beyond ASCII.
      exfalso
      obtain ⟨b, bs, hbs, hmem⟩ := exists_utf8EncodeChar_eq_cons c
      have hlarge := le_of_mem_utf8EncodeChar (Nat.not_lt.mp hc) hmem
      rw [utf8_cons, hbs, List.cons_append, List.cons.injEq] at h
      rw [h.1, toNat_ofNat_of_ascii ha] at hlarge
      omega

end Text

namespace Hex

/-- The digits of either case. -/
def digits : Text :=
  "0123456789abcdefABCDEF".toList

/-- The text without one leading `0x` or `0X`. -/
def withoutMarker : Text → Text
  | '0' :: 'x' :: t => t
  | '0' :: 'X' :: t => t
  | t => t

/-- **Hexadecimal text**: an even number of bytes and, but for the marker, only digits. -/
structure IsHexText (t : Text) : Prop where
  /-- The count of bytes is even. -/
  even : t.utf8.length % 2 = 0
  /-- What follows the marker are digits. -/
  digits : ∀ c ∈ withoutMarker t, c ∈ digits

/-! ## Digits -/

theorem toNat_digit_lt {v : Nat} (hv : v < 16) : (digit v).toNat < 0x80 := by
  have hall : ∀ v < 16, (digit v).toNat < 0x80 := by decide
  exact hall v hv

/-- **The digits** are the characters whose small form is written for a number. -/
theorem mem_digits_iff {c : Char} : c ∈ digits ↔ ∃ v < 16, c.toLower = digit v := by
  constructor
  · have hall : digits.all fun c => (List.range 16).any fun v => c.toLower == digit v := by decide
    intro hc
    obtain ⟨v, hv, hdigit⟩ := List.any_eq_true.mp (List.all_eq_true.mp hall c hc)
    exact ⟨v, List.mem_range.mp hv, eq_of_beq hdigit⟩
  · intro ⟨v, hv, hdigit⟩
    have hascii : c.toNat < 0x80 := by
      by_cases hupper : c.isUpper = true
      · have hle : c.val ≤ 'Z'.val := (of_decide_eq_true hupper).2
        exact Nat.lt_of_le_of_lt (UInt32.le_iff_toNat_le.mp hle) (by decide)
      · rw [Char.toLower_eq_of_not_isUpper hupper] at hdigit
        rw [hdigit]
        exact toNat_digit_lt hv
    exact Text.of_ascii (P := fun c => ∀ v < 16, c.toLower = digit v → c ∈ digits)
      (by decide +kernel) hascii v hv hdigit

theorem toNat_lt_of_mem_digits {c : Char} (hc : c ∈ digits) : c.toNat < 0x80 := by
  have hall : digits.all fun c => decide (c.toNat < 0x80) := by decide
  exact of_decide_eq_true (List.all_eq_true.mp hall c hc)

/-- A digit of either case is read as the number that its small form is written for. -/
theorem digitValue?_of_toLower {c : Char} {v : Nat} (hv : v < 16) (h : c.toLower = digit v) :
    digitValue? (UInt8.ofNat c.toNat) = some v := by
  have hc : c.toNat < 0x80 := toNat_lt_of_mem_digits (mem_digits_iff.mpr ⟨v, hv, h⟩)
  exact Text.of_ascii
    (P := fun c => ∀ v < 16, c.toLower = digit v → digitValue? (UInt8.ofNat c.toNat) = some v)
    (by decide +kernel) hc v hv h

/-- A character whose bytes are all read as digits is a digit. -/
theorem mem_digits_of_digitValue? {c : Char}
    (h : ∀ b ∈ String.utf8EncodeChar c, (digitValue? b).isSome) : c ∈ digits := by
  by_cases hc : c.toNat < 0x80
  · rw [Text.utf8EncodeChar_of_lt hc] at h
    exact Text.of_ascii (P := fun c => (digitValue? (UInt8.ofNat c.toNat)).isSome → c ∈ digits)
      (by decide +kernel) hc (h _ List.mem_cons_self)
  · -- No byte beyond ASCII is read.
    exfalso
    have hascii : ∀ b : UInt8, (digitValue? b).isSome → b.toNat < 0x80 := by decide +kernel
    obtain ⟨b, -, -, hmem⟩ := Text.exists_utf8EncodeChar_eq_cons c
    have hlt := hascii b (h b hmem)
    have hle := Text.le_of_mem_utf8EncodeChar (Nat.not_lt.mp hc) hmem
    omega

/-! ## Writing -/

theorem encode_cons (b : UInt8) (bs : Bytes) :
    encode (b :: bs) = digit (b.toNat / 16) :: digit (b.toNat % 16) :: encode bs := rfl

theorem encode_append (bs cs : Bytes) : encode (bs ++ cs) = encode bs ++ encode cs :=
  List.flatMap_append

@[simp] theorem length_encode (bs : Bytes) : (encode bs).length = 2 * bs.length := by
  induction bs with
  | nil => rfl
  | cons b bs ih =>
    rw [encode_cons, List.length_cons, List.length_cons, List.length_cons, ih]
    omega

/-- All that is written are the digits of numbers. -/
theorem exists_digit_of_mem_encode {c : Char} {bs : Bytes} (hc : c ∈ encode bs) :
    ∃ v < 16, c = digit v := by
  obtain ⟨b, -, hcb⟩ := List.mem_flatMap.mp hc
  have hb := b.toNat_lt
  rcases List.mem_pair.mp hcb with hdigit | hdigit
  · exact ⟨b.toNat / 16, by omega, hdigit⟩
  · exact ⟨b.toNat % 16, by omega, hdigit⟩

/-- The digits that are written are small ones already. -/
@[simp] theorem asciiLower_encode (bs : Bytes) : (encode bs).asciiLower = encode bs := by
  have hsmall : ∀ v < 16, (digit v).isUpper = false := by decide
  apply Text.asciiLower_of_no_upper
  intro c hc
  obtain ⟨v, hv, hdigit⟩ := exists_digit_of_mem_encode hc
  rw [hdigit]
  exact hsmall v hv

/-! ## Reading pairs of digits -/

section Pairs

variable {d : Text} {bs : Bytes}

/-- Only digits are, in small letters, the digits of a byte string. -/
theorem mem_digits_of_asciiLower (h : d.asciiLower = encode bs) : ∀ c ∈ d, c ∈ digits := by
  intro c hc
  have hlower : c.toLower ∈ encode bs := by
    rw [← h]
    exact List.mem_map_of_mem hc
  exact mem_digits_iff.mpr (exists_digit_of_mem_encode hlower)

/-- **Digits of either case are read** as the bytes that they are written for in small letters. -/
theorem decodePairs_utf8 (h : d.asciiLower = encode bs) (index : Nat) (read : Bytes) :
    decodePairs index read d.utf8 = .ok (read.reverse ++ bs) := by
  induction bs generalizing d index read with
  | nil =>
    have hd : d = [] := List.map_eq_nil_iff.mp h
    rw [hd, List.append_nil]
    rfl
  | cons b bs ih =>
    have hb := b.toNat_lt
    have hascii : ∀ c ∈ d, c.toNat < 0x80 := fun c hc =>
      toNat_lt_of_mem_digits (mem_digits_of_asciiLower h c hc)
    -- The first two digits are those of the first byte.
    obtain ⟨high, d₁, rfl, hhigh, h₁⟩ := List.map_eq_cons_iff.mp h
    obtain ⟨low, d₂, rfl, hlow, h₂⟩ := List.map_eq_cons_iff.mp h₁
    have hbyte : UInt8.ofNat (16 * (b.toNat / 16) + b.toNat % 16) = b := by
      rw [Nat.div_add_mod, UInt8.ofNat_toNat]
    rw [Text.utf8_cons_of_lt (hascii high (by simp)), Text.utf8_cons_of_lt (hascii low (by simp)),
      decodePairs, digitValue?_of_toLower (by omega) hhigh, digitValue?_of_toLower (by omega) hlow]
    show decodePairs (index + 2) (UInt8.ofNat (16 * (b.toNat / 16) + b.toNat % 16) :: read) _ = _
    rw [hbyte, ih h₂, List.reverse_cons, List.append_assoc]
    rfl

/-- Nothing but digits is read. -/
theorem isSome_digitValue?_of_decodePairs {index : Nat} {read raw out : Bytes}
    (h : decodePairs index read raw = .ok out) : ∀ b ∈ raw, (digitValue? b).isSome := by
  fun_induction decodePairs index read raw with
  | case1 => simp
  | case2 => cases h
  | case3 => cases h
  | case4 => cases h
  | case5 index read high low rest vh vl hlow hhigh ih =>
    intro b hb
    rcases List.mem_cons.mp hb with rfl | hb
    · rw [hhigh]
      rfl
    rcases List.mem_cons.mp hb with rfl | hb
    · rw [hlow]
      rfl
    · exact ih h b hb

/-- An even number of digits are those of a byte string. -/
theorem exists_asciiLower_eq_encode : ∀ {d : Text}, (∀ c ∈ d, c ∈ digits) → d.length % 2 = 0 →
    ∃ bs, d.asciiLower = encode bs
  | [], _, _ => ⟨[], rfl⟩
  | [_], _, heven => by cases heven
  | high :: low :: rest, hdigits, heven => by
    have heven' : rest.length % 2 = 0 := by
      rw [List.length_cons, List.length_cons] at heven
      omega
    obtain ⟨h, hh, hhigh⟩ := mem_digits_iff.mp (hdigits high (by simp))
    obtain ⟨l, hl, hlow⟩ := mem_digits_iff.mp (hdigits low (by simp))
    obtain ⟨bs, hrest⟩ := exists_asciiLower_eq_encode
      (fun c hc => hdigits c (List.mem_cons_of_mem _ (List.mem_cons_of_mem _ hc))) heven'
    have hbyte : (UInt8.ofNat (16 * h + l)).toNat = 16 * h + l :=
      UInt8.toNat_ofNat_of_lt' (show 16 * h + l < 256 by omega)
    refine ⟨UInt8.ofNat (16 * h + l) :: bs, ?_⟩
    rw [encode_cons, hbyte, show (16 * h + l) / 16 = h by omega,
      show (16 * h + l) % 16 = l by omega, ← hrest, ← hhigh, ← hlow]
    rfl

end Pairs

/-! ## Reading a text -/

section Decode

variable {t : Text} {bs : Bytes}

/-- The marker is the same two characters for the reader. -/
theorem dropMarker_utf8 (t : Text) : dropMarker t.utf8 = (withoutMarker t).utf8 := by
  fun_cases withoutMarker t with
  | case1 t => rfl
  | case2 t => rfl
  | case3 t hsmall hcapital =>
    unfold dropMarker
    split
    · next rest h =>
      obtain ⟨t₁, rfl, h₁⟩ := Text.exists_cons_of_utf8_eq_cons (a := '0') (by decide) h
      obtain ⟨t₂, rfl, -⟩ := Text.exists_cons_of_utf8_eq_cons (a := 'x') (by decide) h₁
      exact absurd rfl (hsmall t₂)
    · next rest h =>
      obtain ⟨t₁, rfl, h₁⟩ := Text.exists_cons_of_utf8_eq_cons (a := '0') (by decide) h
      obtain ⟨t₂, rfl, -⟩ := Text.exists_cons_of_utf8_eq_cons (a := 'X') (by decide) h₁
      exact absurd rfl (hcapital t₂)
    · rfl

/-- The marker does not make an even count odd. -/
theorem length_utf8_withoutMarker (t : Text) :
    (withoutMarker t).utf8.length % 2 = t.utf8.length % 2 := by
  fun_cases withoutMarker t with
  | case1 t => exact (Nat.add_mod_right (Text.utf8 t).length 2).symm
  | case2 t => exact (Nat.add_mod_right (Text.utf8 t).length 2).symm
  | case3 t => rfl

/-- **Hexadecimal text stands for bytes**, and no other text does. -/
theorem isHexText_iff : IsHexText t ↔ ∃ bs, (withoutMarker t).asciiLower = encode bs := by
  constructor
  · intro h
    have hascii : ∀ c ∈ withoutMarker t, c.toNat < 0x80 := fun c hc =>
      toNat_lt_of_mem_digits (h.digits c hc)
    apply exists_asciiLower_eq_encode h.digits
    rw [← Text.length_utf8_of_ascii hascii, length_utf8_withoutMarker]
    exact h.even
  · intro ⟨bs, h⟩
    have hdigits := mem_digits_of_asciiLower h
    have hascii : ∀ c ∈ withoutMarker t, c.toNat < 0x80 := fun c hc =>
      toNat_lt_of_mem_digits (hdigits c hc)
    have hlength := congrArg List.length h
    rw [length_encode, Text.asciiLower, List.length_map] at hlength
    refine ⟨?_, hdigits⟩
    rw [← length_utf8_withoutMarker, Text.length_utf8_of_ascii hascii, hlength]
    exact Nat.mul_mod_right 2 _

/-- **A text is read** as the bytes that its digits are written for in small letters, and only if
    there are such bytes. -/
theorem decode_eq_ok_iff : decode t = .ok bs ↔ (withoutMarker t).asciiLower = encode bs := by
  have hread : ∀ {bs}, (withoutMarker t).asciiLower = encode bs → decode t = .ok bs := by
    intro bs h
    have heven := (isHexText_iff.mpr ⟨bs, h⟩).even
    have hodd : ¬t.utf8.length % 2 = 1 := by omega
    show (if t.utf8.length % 2 = 1 then _ else _) = _
    rw [if_neg hodd, dropMarker_utf8, decodePairs_utf8 h]
    rfl
  refine ⟨fun h => ?_, hread⟩
  -- What is read are digits, and these are read as the bytes that they stand for.
  have hraw : t.utf8.length % 2 = 0 ∧ decodePairs 0 [] (withoutMarker t).utf8 = .ok bs := by
    change (if t.utf8.length % 2 = 1 then _ else _) = _ at h
    split at h
    · cases h
    · rw [dropMarker_utf8] at h
      exact ⟨by omega, h⟩
  have hdigits : ∀ c ∈ withoutMarker t, c ∈ digits := by
    intro c hc
    apply mem_digits_of_digitValue?
    intro b hb
    exact isSome_digitValue?_of_decodePairs hraw.2 b (List.mem_flatMap.mpr ⟨c, hc, hb⟩)
  obtain ⟨bs', hform⟩ := isHexText_iff.mp ⟨hraw.1, hdigits⟩
  rw [hread hform, Except.ok.injEq] at h
  rw [← h]
  exact hform

end Decode

end Hex

end BitcoinCash
