import BitcoinCash.Bytes

/-! # Scripts

  The locking script of an output: a byte string whose bytes are opcodes and the data they push.
-/

namespace BitcoinCash

/-- A locking script. -/
structure Script where
  /-- Its bytes. -/
  bytes : Bytes
  deriving DecidableEq, Repr

namespace Script

/-! ## Opcodes -/

/-- The highest opcode that pushes as many bytes as its own value. -/
def opPushBytes75 : UInt8 := 0x4b
/-- Pushes data whose length is in one byte. -/
def opPushData1 : UInt8 := 0x4c
/-- Pushes data whose length is in two bytes. -/
def opPushData2 : UInt8 := 0x4d
/-- Pushes data whose length is in four bytes. -/
def opPushData4 : UInt8 := 0x4e
/-- Marks an output that carries data and cannot be spent. -/
def opReturn : UInt8 := 0x6a
/-- Doubles the top of the stack. -/
def opDup : UInt8 := 0x76
/-- Compares the two topmost values. -/
def opEqual : UInt8 := 0x87
/-- Compares the two topmost values and stops if they differ. -/
def opEqualVerify : UInt8 := 0x88
/-- Replaces the top of the stack by its `hash160`. -/
def opHash160 : UInt8 := 0xa9
/-- Checks a signature against a public key. -/
def opCheckSig : UInt8 := 0xac

/-! ## Access -/

/-- The empty script. -/
def empty : Script := ⟨[]⟩

/-- The count of bytes. -/
def length (s : Script) : Nat := s.bytes.length

/-- The byte at a position, if the script reaches that far. -/
def byteAt? (s : Script) (i : Nat) : Option UInt8 := s.bytes[i]?

/-- The bytes from `start` on and before `stop`, if both are positions of the script in order. -/
def slice? (s : Script) (start stop : Nat) : Option Bytes :=
  if start ≤ stop ∧ stop ≤ s.length then some ((s.bytes.take stop).drop start) else none

/-- Scripts are ordered like words in a dictionary, byte by byte. -/
def le (s t : Script) : Bool :=
  (compare s.bytes t.bytes).isLE

/-- The scripts in ascending order. -/
def sort (ss : List Script) : List Script :=
  ss.mergeSort le

end Script

end BitcoinCash
