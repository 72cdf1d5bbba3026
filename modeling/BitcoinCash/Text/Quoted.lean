import BitcoinCash.Text.PrintTable

/-! # Quoted text

  How a message shows a character or a text that it quotes. Visible characters stand for
  themselves. The others are written with a backslash: the common control characters by a letter,
  all the rest as `u` and their hexadecimal code point in braces. The quotation mark around the
  whole and the backslash are escaped too; the other quotation mark is not.
-/

namespace BitcoinCash.Text

/-- Is the character shown as itself? -/
def isVisible (c : Char) : Bool :=
  if 0x20 ≤ c.toNat ∧ c.toNat < 0x7f then true
  else !(inRuns combining c.toNat || inRuns invisible c.toNat)

/-- A character between quotation marks `mark`. -/
def escapeIn (mark c : Char) : Text :=
  if c.toNat = 0 then ['\\', '0']
  else if c = '\t' then ['\\', 't']
  else if c = '\n' then ['\\', 'n']
  else if c = '\r' then ['\\', 'r']
  else if c = '\\' ∨ c = mark then ['\\', c]
  else if isVisible c then [c]
  else ['\\', 'u', '\x7b'] ++ Nat.toDigits 16 c.toNat ++ ['\x7d']

/-- A character in single quotation marks. -/
def quoteChar (c : Char) : Text :=
  '\'' :: escapeIn '\'' c ++ ['\'']

/-- A text in double quotation marks. -/
def quote (t : Text) : Text :=
  '"' :: t.flatMap (escapeIn '"') ++ ['"']

end BitcoinCash.Text
