import BitcoinCash.Text

/-! # Positions at the end of messages

  A message about a value that was read from a text may end with a position in that text, as in
  `… at line 3 column 7`. A message from elsewhere that ends this way is taken to carry a position
  too, and the position is written anew.

  - **Reading** takes the last ` at line `, and only if two numbers of 64 bits follow it and nothing
    comes after them.
  - **Writing** gives the numbers without zeros in front. Lines are counted from 1; a position in
    line 0 is no position, and nothing is written for it.
-/

namespace BitcoinCash.Json

/-- A position in a text. -/
structure Position where
  /-- The line, counted from 1. -/
  line : Nat
  /-- The column. -/
  column : Nat
  deriving DecidableEq, Repr

namespace Position

/-- What stands in front of the line. -/
def lineMark : Text := " at line ".toList

/-- What stands between the line and the column. -/
def columnMark : Text := " column ".toList

/-- A number of 64 bits in decimal digits. -/
def number? (digits : Text) : Option Nat :=
  let n := digits.foldl (fun n d => 10 * n + (d.toNat - '0'.toNat)) 0
  if digits.isEmpty ∨ UInt64.size ≤ n then none else some n

/-- The position that a text consists of, once the mark of the line is gone. -/
def read? (t : Text) : Option Position := do
  let rest ← columnMark.isPrefixOf? (t.dropWhile Char.isDigit)
  if rest.all Char.isDigit then
    return ⟨← number? (t.takeWhile Char.isDigit), ← number? rest⟩
  else none

/-- How a position ends a message. -/
def suffix (p : Position) : Text :=
  if p.line = 0 then []
  else lineMark ++ Text.decimal p.line ++ columnMark ++ Text.decimal p.column

end Position

/-- A message whose position, if it ends with one, is written anew. -/
def restatePosition (message : Text) : Text :=
  match Text.splitLastPart? Position.lineMark message with
  | none => message
  | some (before, after) =>
    match Position.read? after with
    | none => message
    | some p => before ++ p.suffix

end BitcoinCash.Json
