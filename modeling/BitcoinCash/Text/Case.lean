import BitcoinCash.Text.CaseTable

/-! # Letter case of text

  Case by the Unicode properties, not by ASCII alone.

  - **`isLowercase`, `isUppercase`** test one character.
  - **`lower`** folds a text. One letter of it becomes two (`İ` is written `i` with a dot above),
    and a capital sigma depends on its neighbours: at the end of a word it becomes `ς`.
-/

namespace BitcoinCash.Text

/-- Is the character lowercase? -/
def isLowercase (c : Char) : Bool :=
  if c.toNat < 0x80 then c.isLower else inRuns lowercase c.toNat

/-- Is the character uppercase? -/
def isUppercase (c : Char) : Bool :=
  if c.toNat < 0x80 then c.isUpper else inRuns uppercase c.toNat

/-- Is the character lowercase, uppercase or titlecase? -/
def isCased (c : Char) : Bool :=
  if c.toNat < 0x80 then c.isAlpha else inRuns cased c.toNat

/-- Is the character passed over in the search for the end of a word? -/
def isCaseIgnorable (c : Char) : Bool :=
  inRuns caseIgnorable c.toNat

/-- The small form of a single character, whatever its neighbours are. -/
def lowerChar (c : Char) : Text :=
  if c.toNat < 0x80 then [c.toLower]
  else if c.toNat = 0x130 then ['i', Char.ofNat 0x307]
  else [Char.ofNat (shifted smallForms c.toNat)]

/-- Does a cased character come first, once case-ignorable ones are passed over? -/
def startsCased (t : Text) : Bool :=
  match t.dropWhile isCaseIgnorable with
  | c :: _ => isCased c
  | [] => false

/-- Folds the rest `after` of a text whose characters `before` it, the nearest first, have been
    folded already. A capital sigma that ends a word becomes `ς`. -/
def lowerFrom (before : Text) : (after : Text) → Text
  | [] => []
  | c :: after =>
    let small :=
      if c.toNat = 0x3a3 then
        if startsCased before && !startsCased after then [Char.ofNat 0x3c2] else [Char.ofNat 0x3c3]
      else lowerChar c
    small ++ lowerFrom (c :: before) after

/-- The text in small letters. -/
def lower (t : Text) : Text :=
  lowerFrom [] t

/-- Does the text hold both a lowercase and an uppercase character? -/
def mixesCase (t : Text) : Bool :=
  t.any isLowercase && t.any isUppercase

end BitcoinCash.Text
