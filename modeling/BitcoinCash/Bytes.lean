/-! # Bytes

  Byte strings, and natural numbers of a fixed width inside them.

  - **`Bytes`** is a list of bytes, so that what a format writes and what it reads are lists
    with the usual lemmas.
  - **`littleEndian` / `ofLittleEndian`** and **`bigEndian` / `ofBigEndian`** write a number into a
    given count of bytes and read it back. Writing keeps the low bytes only.
-/

namespace BitcoinCash

/-- A string of bytes. -/
abbrev Bytes := List UInt8

namespace Bytes

/-- The low `width` bytes of `n`, least significant byte first. -/
def littleEndian : (width : Nat) → (n : Nat) → Bytes
  | 0, _ => []
  | width + 1, n => UInt8.ofNat n :: littleEndian width (n / 256)

/-- The number whose base-256 digits are `bs`, least significant first. -/
def ofLittleEndian : Bytes → Nat
  | [] => 0
  | b :: bs => b.toNat + 256 * ofLittleEndian bs

/-- The low `width` bytes of `n`, most significant byte first. -/
def bigEndian (width n : Nat) : Bytes :=
  (littleEndian width n).reverse

/-- The number whose base-256 digits are `bs`, most significant first. -/
def ofBigEndian (bs : Bytes) : Nat :=
  bs.foldl (fun n b => 256 * n + b.toNat) 0

/-! ## Widths -/

@[simp] theorem length_littleEndian (width n : Nat) : (littleEndian width n).length = width := by
  induction width generalizing n with
  | zero => rfl
  | succ width ih => simp [littleEndian, ih]

@[simp] theorem length_bigEndian (width n : Nat) : (bigEndian width n).length = width := by
  simp [bigEndian]

end Bytes

end BitcoinCash
