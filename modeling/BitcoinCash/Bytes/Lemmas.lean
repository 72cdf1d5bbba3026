import BitcoinCash.Bytes
import Mathlib.Algebra.Group.Nat.Defs

/-! # Numbers in bytes, read back

  Writing a number into `width` bytes and reading it back gives the number if it is below
  256^`width`, and reading bytes and writing them back gives the bytes.

  - **`ofLittleEndian_littleEndian`**: a number that fits is read back.
  - **`ofLittleEndian_lt`**: what is read always fits.
  - **`littleEndian_ofLittleEndian`**: bytes are written back from the number that they say.
-/

namespace BitcoinCash.Bytes

/-- A number that fits is read back from its bytes. -/
theorem ofLittleEndian_littleEndian {width n : Nat} (h : n < 256 ^ width) :
    ofLittleEndian (littleEndian width n) = n := by
  induction width generalizing n with
  | zero => simp [littleEndian, ofLittleEndian]; omega
  | succ width ih =>
    have hrest : n / 256 < 256 ^ width := by
      rw [Nat.div_lt_iff_lt_mul (by decide), ← Nat.pow_succ]
      exact h
    rw [littleEndian, ofLittleEndian, ih hrest, UInt8.toNat_ofNat']
    omega

/-- What bytes say is less than what one more bit could say. -/
theorem ofLittleEndian_lt (bs : Bytes) : ofLittleEndian bs < 256 ^ bs.length := by
  induction bs with
  | nil => simp [ofLittleEndian]
  | cons b bs ih =>
    have hb := b.toNat_lt
    rw [ofLittleEndian, List.length_cons, Nat.pow_succ]
    omega

/-- Bytes behind others count for more, by one factor of 256 for each byte in front of them. -/
theorem ofLittleEndian_append (bs bs' : Bytes) :
    ofLittleEndian (bs ++ bs') = ofLittleEndian bs + 256 ^ bs.length * ofLittleEndian bs' := by
  induction bs with
  | nil => simp [ofLittleEndian]
  | cons b bs ih =>
    rw [List.cons_append, ofLittleEndian, ofLittleEndian, ih, List.length_cons, Nat.pow_succ,
      Nat.mul_add, Nat.add_assoc, ← Nat.mul_assoc, Nat.mul_comm 256 (256 ^ bs.length)]

/-- Bytes are written back from the number that they say. -/
theorem littleEndian_ofLittleEndian (bs : Bytes) :
    littleEndian bs.length (ofLittleEndian bs) = bs := by
  induction bs with
  | nil => rfl
  | cons b bs ih =>
    have hb := b.toNat_lt
    have hlow : UInt8.ofNat (b.toNat + 256 * ofLittleEndian bs) = b := by
      apply UInt8.toNat.inj
      rw [UInt8.toNat_ofNat']
      omega
    have hhigh : (b.toNat + 256 * ofLittleEndian bs) / 256 = ofLittleEndian bs := by omega
    rw [List.length_cons, ofLittleEndian, littleEndian, hlow, hhigh, ih]

end BitcoinCash.Bytes
