import BitcoinCash.Script.Basic

/-! # Pushes

  A push is an opcode, a length, and that many bytes of data.

  - **Writing** uses the shortest of four forms. The length field has four bytes at most and keeps
    the low 32 bits of a longer length.
  - **Reading** takes any of the four forms, whether it is the shortest or not.
-/

namespace BitcoinCash.Script

/-- The opcode and the length field in front of `n` bytes of data. -/
def pushHeader (n : Nat) : Bytes :=
  if n ≤ opPushBytes75.toNat then [UInt8.ofNat n]
  else if n ≤ 0xff then opPushData1 :: Bytes.littleEndian 1 n
  else if n ≤ 0xffff then opPushData2 :: Bytes.littleEndian 2 n
  else opPushData4 :: Bytes.littleEndian 4 n

/-- The push of some data. -/
def push (data : Bytes) : Bytes :=
  pushHeader data.length ++ data

/-- The first `n` bytes of a byte string that has that many. -/
def takeExactly? (n : Nat) (bs : Bytes) : Option Bytes :=
  if n ≤ bs.length then some (bs.take n) else none

/-- Data whose length is in the first `width` bytes. -/
def readSized? (width : Nat) (bs : Bytes) : Option Bytes :=
  match takeExactly? width bs with
  | some field => takeExactly? (Bytes.ofLittleEndian field) (bs.drop width)
  | none => none

/-- The data of the push that a byte string begins with. -/
def readPush? : Bytes → Option Bytes
  | [] => none
  | op :: rest =>
    if op ≤ opPushBytes75 then takeExactly? op.toNat rest
    else if op = opPushData1 then readSized? 1 rest
    else if op = opPushData2 then readSized? 2 rest
    else if op = opPushData4 then readSized? 4 rest
    else none

end BitcoinCash.Script
