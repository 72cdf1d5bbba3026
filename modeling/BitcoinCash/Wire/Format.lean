import BitcoinCash.Script.Basic
import BitcoinCash.Wire.CompactSize

/-! # Wire formats

  How the values inside an output are read and written.

  - **Integers** of 64 bits are eight bytes, least significant first, and are written by a single
    call.
  - **A byte vector** is its length as a compact size, and its bytes. The length is checked against
    a limit before any of the bytes is read. All the bytes are written, in as many calls as it
    takes, and the count that a writer reports includes all of them.
  - **A script** is written like a byte vector.
-/

namespace BitcoinCash

namespace Wire

/-- The longest byte vector that a reader accepts. -/
def maxVectorLength : UInt64 := 0x02000000

/-! ## Integers -/

/-- Reads an unsigned integer. -/
def readUInt64 {σ : Type} [ByteSource σ] : Reading σ UInt64 := do
  return UInt64.ofNat (Bytes.ofLittleEndian (← Reading.bytes 8))

/-- Writes an unsigned integer. -/
def writeUInt64 {σ : Type} [ByteSink σ] (n : UInt64) : Writing σ Nat :=
  Writing.once (Bytes.littleEndian 8 n.toNat)

/-- Reads a signed integer, a negative one in two's complement. -/
def readInt64 {σ : Type} [ByteSource σ] : Reading σ Int64 := do
  return (← readUInt64).toInt64

/-- Writes a signed integer, a negative one in two's complement. -/
def writeInt64 {σ : Type} [ByteSink σ] (n : Int64) : Writing σ Nat :=
  writeUInt64 n.toUInt64

/-! ## Byte vectors -/

/-- Reads a byte vector. -/
def readVector {σ : Type} [ByteSource σ] : Reading σ Bytes := do
  let declared ← CompactSize.read
  if maxVectorLength < declared then
    throw (.protocolViolation (.lengthTooLarge declared maxVectorLength))
  else Reading.bytes declared.toNat

/-- Writes a byte vector. -/
def writeVector {σ : Type} [ByteSink σ] (bs : Bytes) : Writing σ Nat := do
  let n ← CompactSize.write (UInt64.ofNat bs.length)
  Writing.all bs
  return n + bs.length

end Wire

/-! ## Scripts -/

namespace Script

/-- The count of bytes of the length in front of the script. -/
def lengthWidth (s : Script) : Nat :=
  CompactSize.width (UInt64.ofNat s.length)

/-- The count of bytes of the wire form. -/
def wireLength (s : Script) : Nat :=
  s.lengthWidth + s.length

/-- Reads a script. -/
def read {σ : Type} [ByteSource σ] : Reading σ Script := do
  return ⟨← Wire.readVector⟩

/-- Writes a script. -/
def write {σ : Type} [ByteSink σ] (s : Script) : Writing σ Nat :=
  Wire.writeVector s.bytes

end Script

end BitcoinCash
