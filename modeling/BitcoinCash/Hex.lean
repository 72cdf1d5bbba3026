import BitcoinCash.Bytes
import BitcoinCash.Text

/-! # Hexadecimal text

  Two hexadecimal digits per byte.

  - **Writing** gives lowercase digits and no marker.
  - **Reading** takes either case and one leading `0x` or `0X`. It works on the UTF-8 bytes of
    the text: first their count has to be even, then the marker is dropped, then every byte has
    to be a digit. The first one that is not is reported with its position after the marker.
-/

namespace BitcoinCash.Hex

/-- Why a text is not hexadecimal. -/
inductive DecodeError
  /-- The text has an odd number of bytes. -/
  | oddLength
  /-- The byte at `index`, counted after the marker, is not a digit. -/
  | invalidDigit (byte : UInt8) (index : Nat)
  deriving DecidableEq, Repr

/-- The digit of a number below sixteen; larger numbers have none and are written `0`. -/
def digit (n : Nat) : Char :=
  ['0', '1', '2', '3', '4', '5', '6', '7', '8', '9', 'a', 'b', 'c', 'd', 'e', 'f'].getD n '0'

/-- The two digits of a byte, high half first. -/
def ofByte (b : UInt8) : Text :=
  [digit (b.toNat / 16), digit (b.toNat % 16)]

/-- The lowercase digits of a byte string. -/
def encode (bs : Bytes) : Text :=
  bs.flatMap ofByte

/-- The value of an ASCII byte as a digit of either case. -/
def digitValue? (b : UInt8) : Option Nat :=
  if 0x30 ≤ b ∧ b ≤ 0x39 then some (b.toNat - 0x30)
  else if 0x61 ≤ b ∧ b ≤ 0x66 then some (b.toNat - 0x57)
  else if 0x41 ≤ b ∧ b ≤ 0x46 then some (b.toNat - 0x37)
  else none

/-- The text without one leading `0x` or `0X`. -/
def dropMarker : Bytes → Bytes
  | 0x30 :: 0x78 :: rest => rest
  | 0x30 :: 0x58 :: rest => rest
  | bs => bs

/-- Reads digits in pairs; `index` is the position of the first of them, and `read` holds the
    bytes found so far, last one first. -/
def decodePairs : (index : Nat) → (read : Bytes) → Bytes → Except DecodeError Bytes
  | _, read, [] => .ok read.reverse
  | _, _, [_] => .error .oddLength
  | index, read, high :: low :: rest =>
    match digitValue? high, digitValue? low with
    | none, _ => .error (.invalidDigit high index)
    | some _, none => .error (.invalidDigit low (index + 1))
    | some h, some l => decodePairs (index + 2) (UInt8.ofNat (16 * h + l) :: read) rest

/-- The bytes that a hexadecimal text stands for. -/
def decode (t : Text) : Except DecodeError Bytes :=
  let raw := t.utf8
  if raw.length % 2 = 1 then .error .oddLength
  else decodePairs 0 [] (dropMarker raw)

end BitcoinCash.Hex
