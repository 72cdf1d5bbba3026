import BitcoinCash.Text

/-! # Symbols

  A CashAddr text is spelled with 32 characters, each of which stands for five bits. The alphabet
  leaves out `1`, `b`, `i` and `o`, which look like other characters.
-/

namespace BitcoinCash.CashAddr

/-- Five bits. As an element of the field with 32 elements, a symbol is a polynomial over the
    field with two elements; addition is exclusive or. -/
abbrev Symbol := BitVec 5

namespace Symbol

/-- The characters in the order of the symbols they stand for. -/
def charset : Text :=
  "qpzry9x8gf2tvdw0s3jn54khce6mua7l".toList

/-- The character of a symbol. -/
def char (s : Symbol) : Char :=
  charset.getD s.toNat 'q'

/-- The symbol that a small letter or a digit stands for. -/
def ofChar? (c : Char) : Option Symbol :=
  (charset.idxOf? c).map (BitVec.ofNat 5)

/-- A byte as a symbol, if it is below 32. -/
def ofByte? (b : UInt8) : Option Symbol :=
  if b < 32 then some (BitVec.ofNat 5 b.toNat) else none

/-- The low five bits of a byte. -/
def lowBits (b : UInt8) : Symbol :=
  BitVec.ofNat 5 b.toNat

end Symbol

end BitcoinCash.CashAddr
