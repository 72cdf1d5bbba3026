import BitcoinCash.Bytes
import BitcoinCash.Text

/-! # Base 58

  A byte string as a number in base 58. The alphabet leaves out `0`, `O`, `I` and `l`, which look
  like other characters.

  - **Zero bytes in front** have no place in a number; each of them is written as one `1`, the
    digit zero.
  - **The rest** is read as a big-endian number and written in as few digits as it needs.
-/

namespace BitcoinCash.Base58

/-- The digits in order of their value. -/
def alphabet : Text :=
  "123456789ABCDEFGHJKLMNPQRSTUVWXYZabcdefghijkmnopqrstuvwxyz".toList

/-! ## Positional notation -/

/-- The digits of `n` in base `b`, most significant first, in front of `tail`. Zero has none. -/
def digitsOnto (b : Nat) (base : 1 < b) (n : Nat) (tail : List Nat) : List Nat :=
  if n = 0 then tail else digitsOnto b base (n / b) (n % b :: tail)
termination_by n
decreasing_by exact Nat.div_lt_self (by omega) base

/-- The digits of `n` in base `b`, most significant first. Zero has none. -/
def digits (b : Nat) (base : 1 < b) (n : Nat) : List Nat :=
  digitsOnto b base n []

/-- The number that has the given digits in base `b`, most significant first. -/
def ofDigits (b : Nat) (ds : List Nat) : Nat :=
  ds.foldl (fun n d => b * n + d) 0

/-! ## Text -/

/-- The value of a character as a digit. -/
def digitValue? (c : Char) : Option Nat :=
  alphabet.idxOf? c

/-- The character of a digit; numbers from 58 on have none and are written `1`. -/
def digitChar (d : Nat) : Char :=
  alphabet.getD d '1'

/-- The base-58 text of a byte string. -/
def encode (bs : Bytes) : Text :=
  (bs.takeWhile (· == 0)).map (fun _ => '1') ++
    (digits 58 (by decide) (Bytes.ofBigEndian bs)).map digitChar

/-- The first character of a text that is no digit, if there is one. -/
def firstForeign? (t : Text) : Option Char :=
  t.find? (fun c => (digitValue? c).isNone)

/-- The byte string of a base-58 text; characters that are no digits are passed over. -/
def bytesOf (t : Text) : Bytes :=
  let ds := t.filterMap digitValue?
  (ds.takeWhile (· == 0)).map (fun _ => 0) ++
    (digits 256 (by decide) (ofDigits 58 ds)).map UInt8.ofNat

/-- The byte string of a base-58 text, or the first character that is no digit. -/
def decode (t : Text) : Except Char Bytes :=
  match firstForeign? t with
  | some c => .error c
  | none => .ok (bytesOf t)

end BitcoinCash.Base58
