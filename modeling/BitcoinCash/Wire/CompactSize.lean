import BitcoinCash.Wire.Sink
import BitcoinCash.Wire.Source

/-! # Compact sizes

  A number of 64 bits in as few bytes as its range needs.

  - **Up to `fc`** the number is one byte.
  - **Beyond** it a marker says how many bytes follow: `fd` two, `fe` four, `ff` eight, least
    significant first.

  A reader refuses a number that is longer than it has to be, once all of it has been read. A
  writer makes one call for the marker and one for the rest.
-/

namespace BitcoinCash

/-- A computation that takes bytes from a source. -/
abbrev Reading (σ α : Type) := ExceptT WireError (StateM σ) α

/-- A computation that gives bytes to a sink. -/
abbrev Writing (σ α : Type) := ExceptT WireError (StateM σ) α

/-- Exactly `n` bytes. -/
def Reading.bytes {σ : Type} [ByteSource σ] (n : Nat) : Reading σ Bytes :=
  ExceptT.mk fun s => getBytes n s

/-- One byte. -/
def Reading.byte {σ : Type} [ByteSource σ] : Reading σ UInt8 := do
  return (← Reading.bytes 1).headD 0

/-- A single call with some bytes. The result is the count of those that were accepted. -/
def Writing.once {σ : Type} [ByteSink σ] (bs : Bytes) : Writing σ Nat :=
  ExceptT.mk fun s => putOnce bs s

/-- As many calls as it takes to get rid of some bytes. -/
def Writing.all {σ : Type} [ByteSink σ] (bs : Bytes) : Writing σ Unit :=
  ExceptT.mk fun s => putAll bs s

namespace CompactSize

/-- The count of bytes that a number is written in. -/
def width (n : UInt64) : Nat :=
  if n ≤ 0xfc then 1
  else if n ≤ 0xffff then 3
  else if n ≤ 0xffffffff then 5
  else 9

/-- The marker of a number of `width` bytes; a number of one byte has none. -/
def marker? (width : Nat) : Option UInt8 :=
  match width with
  | 3 => some 0xfd
  | 5 => some 0xfe
  | 9 => some 0xff
  | _ => none

/-- The count of bytes of a number that begins with the given byte. -/
def widthOfFirst (first : UInt8) : Nat :=
  if first ≤ 0xfc then 1
  else if first = 0xfd then 3
  else if first = 0xfe then 5
  else 9

/-- The bytes of a number. -/
def encode (n : UInt64) : Bytes :=
  match marker? (width n) with
  | none => [n.toUInt8]
  | some m => m :: Bytes.littleEndian (width n - 1) n.toNat

/-- Reads a number. -/
def read {σ : Type} [ByteSource σ] : Reading σ UInt64 := do
  let first ← Reading.byte
  let declared := widthOfFirst first
  let n ←
    if 1 < declared then do
      let body ← Reading.bytes (declared - 1)
      pure (UInt64.ofNat (Bytes.ofLittleEndian body))
    else pure first.toUInt64
  if width n < declared then throw (.protocolViolation (.nonMinimal n declared))
  else return n

/-- Writes a number. The result is the count of bytes that were accepted. -/
def write {σ : Type} [ByteSink σ] (n : UInt64) : Writing σ Nat :=
  match marker? (width n) with
  | none => Writing.once [n.toUInt8]
  | some m => do
    let a ← Writing.once [m]
    let b ← Writing.once (Bytes.littleEndian (width n - 1) n.toNat)
    return a + b

end CompactSize

end BitcoinCash
