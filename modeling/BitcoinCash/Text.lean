import BitcoinCash.Bytes

/-! # Text

  Text is a list of Unicode code points. Codecs work on it directly; what is shown to a person
  (an error message) is assembled from it at the end.

  - **`utf8`** gives the bytes of a text, where a rule speaks of bytes.
  - **`splitLast?`** and **`splitLastPart?`** cut a text at the last occurrence of a separator, which
    is one character or a text.
  - **ASCII case** is folded by `asciiLower` and `asciiUpper`, which leave all other characters
    alone.
-/

namespace BitcoinCash

/-- A text: its code points in order. -/
abbrev Text := List Char

namespace Text

/-- The UTF-8 bytes of a text. -/
def utf8 (t : Text) : Bytes :=
  t.flatMap String.utf8EncodeChar

/-- A number in decimal digits. -/
def decimal (n : Nat) : Text :=
  Nat.toDigits 10 n

/-- An integer in decimal digits, with a minus sign if it is negative. -/
def decimalInt (n : Int) : Text :=
  if n < 0 then '-' :: decimal n.natAbs else decimal n.natAbs

/-- The text before and the text after the last `sep`, if there is one. -/
def splitLast? (sep : Char) : Text → Option (Text × Text)
  | [] => none
  | c :: t =>
    match splitLast? sep t with
    | some (before, after) => some (c :: before, after)
    | none => if c = sep then some ([], t) else none

/-- The text before and the text after the last occurrence of `part`, if there is one. -/
def splitLastPart? (part : Text) : Text → Option (Text × Text)
  | [] => none
  | c :: t =>
    match splitLastPart? part t with
    | some (before, after) => some (c :: before, after)
    | none => (part.isPrefixOf? (c :: t)).map ([], ·)

/-- Folds the ASCII capital letters of a text to small ones. -/
def asciiLower (t : Text) : Text :=
  t.map Char.toLower

/-- Folds the ASCII small letters of a text to capital ones. -/
def asciiUpper (t : Text) : Text :=
  t.map Char.toUpper

/-- Equality of texts that takes an ASCII letter and its other case for the same. -/
def asciiCaseEq (s t : Text) : Bool :=
  asciiLower s == asciiLower t

/-! ## Cutting loses nothing -/

/-- The two parts around the last `sep` make up the text again. -/
theorem eq_append_of_splitLast? {sep : Char} {t before after : Text}
    (h : splitLast? sep t = some (before, after)) : t = before ++ sep :: after := by
  induction t generalizing before with
  | nil => simp [splitLast?] at h
  | cons c t ih =>
    rw [splitLast?] at h
    split at h
    · -- The last `sep` comes later.
      next before' after' hrest =>
      simp only [Option.some.injEq, Prod.mk.injEq] at h
      obtain ⟨rfl, rfl⟩ := h
      rw [ih hrest, List.cons_append]
    · -- There is none later, so it is here.
      split at h
      · next hc =>
        simp only [Option.some.injEq, Prod.mk.injEq] at h
        obtain ⟨rfl, rfl⟩ := h
        rw [hc, List.nil_append]
      · simp at h

end Text

end BitcoinCash
