import BitcoinCash.CashAddr.Symbol
import Mathlib

/-! # Symbols as elements of a field

  The symbols are the elements of a field, the polynomials in `a` over the field with two elements
  modulo `a⁵ + a³ + 1`. Bit `i` of a symbol is the coefficient of `aⁱ`.

  - **Addition** is exclusive or (`toField_xor`), and different symbols are different elements
    (`toField_inj`).
  - **Multiplication by `a`** is a shift (`toField_double`). Starting at one it comes past every
    symbol but zero, so that these are powers of `a` (`exists_toField_eq_pow`) and units.
  - **Symbols and elements are the same** (`toField_bijective`), and the elements are a field
    (`isField_GF32`).
  - **Frobenius**: to square ten times changes no symbol (`toField_pow_1024`).
-/

namespace BitcoinCash.CashAddr

open Polynomial

/-! ## The field -/

/-- The polynomial that makes the field: `a` is a root of it. -/
noncomputable def fieldModulus : (ZMod 2)[X] :=
  X ^ 5 + X ^ 3 + 1

/-- The field with 32 elements. -/
abbrev GF32 := AdjoinRoot fieldModulus

/-- The element that the symbols are powers of. -/
noncomputable abbrev GF32.a : GF32 :=
  AdjoinRoot.root fieldModulus

theorem fieldModulus_monic : fieldModulus.Monic := by
  unfold fieldModulus
  monicity!

theorem degree_fieldModulus : fieldModulus.degree = 5 := by
  unfold fieldModulus
  compute_degree!

instance : Nontrivial GF32 :=
  AdjoinRoot.nontrivial fieldModulus (by rw [degree_fieldModulus]; decide)

instance : CharP GF32 2 :=
  charP_of_injective_algebraMap' (ZMod 2) 2

/-- The fifth power of `a` is a sum of lower ones. -/
theorem GF32.a_pow_five : GF32.a ^ 5 = GF32.a ^ 3 + 1 := by
  have hroot : AdjoinRoot.mk fieldModulus (X ^ 5 + X ^ 3 + 1) = 0 :=
    AdjoinRoot.mk_self
  rw [map_add, map_add, map_pow, map_pow, map_one, AdjoinRoot.mk_X, add_assoc] at hroot
  exact CharTwo.add_eq_zero.mp hroot

namespace Symbol

/-! ## Bits as coefficients -/

/-- The polynomial whose coefficients are the bits of a symbol. -/
noncomputable def bitPoly (s : Symbol) : (ZMod 2)[X] :=
  ∑ i ∈ Finset.range 5, monomial i (if s.getLsbD i then 1 else 0)

/-- A symbol as an element of the field. -/
noncomputable def toField (s : Symbol) : GF32 :=
  AdjoinRoot.mk fieldModulus s.bitPoly

/-- The powers of `a` that the bits of a symbol stand for. -/
theorem toField_eq_sum (s : Symbol) :
    s.toField = ∑ i ∈ Finset.range 5, if s.getLsbD i then GF32.a ^ i else 0 := by
  rw [toField, bitPoly, map_sum]
  refine Finset.sum_congr rfl fun i _ => ?_
  split
  · rw [monomial_one_right_eq_X_pow, map_pow, AdjoinRoot.mk_X]
  · rw [monomial_zero_right, map_zero]

theorem coeff_bitPoly (s : Symbol) (i : Nat) :
    s.bitPoly.coeff i = if s.getLsbD i then 1 else 0 := by
  by_cases hi : i < 5
  · simp [bitPoly, coeff_monomial, hi]
  · -- Beyond the width there are neither coefficients nor bits.
    simp [bitPoly, coeff_monomial, hi, BitVec.getLsbD_of_ge s i (Nat.not_lt.mp hi)]

theorem bitPoly_xor (s t : Symbol) : (s ^^^ t).bitPoly = s.bitPoly + t.bitPoly := by
  ext i
  rw [coeff_add, coeff_bitPoly, coeff_bitPoly, coeff_bitPoly, BitVec.getLsbD_xor]
  cases s.getLsbD i <;> cases t.getLsbD i <;> decide

theorem bitPoly_eq_zero_iff {s : Symbol} : s.bitPoly = 0 ↔ s = 0 := by
  constructor
  · intro h
    apply BitVec.eq_of_getLsbD_eq
    intro i _
    have hcoeff := coeff_bitPoly s i
    rw [h, coeff_zero] at hcoeff
    cases hbit : s.getLsbD i with
    | false => simp
    | true => simp [hbit] at hcoeff
  · rintro rfl
    simp [bitPoly]

theorem degree_bitPoly_lt (s : Symbol) : s.bitPoly.degree < 5 := by
  apply (degree_lt_iff_coeff_zero _ 5).mpr
  intro i hi
  rw [coeff_bitPoly, BitVec.getLsbD_of_ge s i hi]
  rfl

/-- **Addition** of elements is exclusive or of symbols. -/
@[simp] theorem toField_xor (s t : Symbol) : (s ^^^ t).toField = s.toField + t.toField := by
  rw [toField, bitPoly_xor, map_add]
  rfl

/-- Only zero is zero: the polynomials of the other symbols are too short to be multiples. -/
theorem toField_eq_zero_iff {s : Symbol} : s.toField = 0 ↔ s = 0 := by
  rw [← bitPoly_eq_zero_iff]
  constructor
  · intro h
    by_contra hne
    refine fieldModulus_monic.not_dvd_of_degree_lt hne ?_ (AdjoinRoot.mk_eq_zero.mp h)
    rw [degree_fieldModulus]
    exact s.degree_bitPoly_lt
  · intro h
    rw [toField, h, map_zero]

@[simp] theorem toField_zero : (0 : Symbol).toField = 0 :=
  toField_eq_zero_iff.mpr rfl

@[simp] theorem toField_one : (1 : Symbol).toField = 1 := by
  have hpoly : (1 : Symbol).bitPoly = 1 := by
    simp [bitPoly, Finset.sum_range_succ, BitVec.getLsbD, Nat.testBit_succ]
  rw [toField, hpoly, map_one]

/-- **Different symbols are different elements.** -/
theorem toField_inj {s t : Symbol} : s.toField = t.toField ↔ s = t := by
  rw [← CharTwo.add_eq_zero, ← toField_xor, toField_eq_zero_iff]
  exact BitVec.xor_eq_zero_iff

/-! ## Powers of `a` -/

/-- A symbol times `a`: the bits move up, and the one that falls out comes back as `a³ + 1`. -/
def double (s : Symbol) : Symbol :=
  (s <<< 1) ^^^ (if s.getLsbD 4 then 9 else 0)

/-- To move the bits up is to multiply by `X`, but for the bit that falls out. -/
theorem bitPoly_shiftLeft_one (s : Symbol) :
    bitPoly (s <<< 1) = X * s.bitPoly + if s.getLsbD 4 then X ^ 5 else 0 := by
  ext i
  rw [coeff_add, coeff_bitPoly, BitVec.getLsbD_shiftLeft, apply_ite (coeff · i), coeff_X_pow,
    coeff_zero]
  cases i with
  | zero => simp
  | succ i =>
    rw [coeff_X_mul, coeff_bitPoly]
    rcases Nat.lt_trichotomy i 4 with hi | rfl | hi
    · simp [show i + 1 < 5 by omega, show i ≠ 4 by omega]
    · -- The bit that falls out: its coefficient is there twice.
      cases s.getLsbD 4 <;> decide
    · simp [show ¬i + 1 < 5 by omega, show i ≠ 4 by omega, BitVec.getLsbD_of_ge s i hi]

theorem toField_nine : toField 9 = GF32.a ^ 5 := by
  have hpoly : bitPoly 9 = X ^ 3 + 1 := by
    simp [bitPoly, Finset.sum_range_succ, BitVec.getLsbD, Nat.testBit_succ,
      monomial_one_right_eq_X_pow, add_comm]
  rw [toField, hpoly, map_add, map_pow, map_one, AdjoinRoot.mk_X, GF32.a_pow_five]

/-- **Multiplication by `a`** is a shift. -/
theorem toField_double (s : Symbol) : s.double.toField = GF32.a * s.toField := by
  have hshift : toField (s <<< 1) =
      GF32.a * s.toField + if s.getLsbD 4 then GF32.a ^ 5 else 0 := by
    rw [toField, bitPoly_shiftLeft_one, map_add, map_mul, AdjoinRoot.mk_X,
      apply_ite (AdjoinRoot.mk fieldModulus), map_pow, AdjoinRoot.mk_X, map_zero]
    rfl
  rw [double, toField_xor, hshift]
  by_cases hbit : s.getLsbD 4 = true
  · -- The bit that falls out is added twice.
    rw [if_pos hbit, if_pos hbit, toField_nine, CharTwo.add_cancel_right]
  · rw [if_neg hbit, if_neg hbit, toField_zero, add_zero, add_zero]

theorem toField_iterate_double (i : Nat) (s : Symbol) :
    (double^[i] s).toField = GF32.a ^ i * s.toField := by
  induction i with
  | zero => rw [pow_zero, one_mul, Function.iterate_zero, id]
  | succ i ih => rw [Function.iterate_succ_apply', toField_double, ih, pow_succ', mul_assoc]

/-- The powers of `a` repeat after 31 of them. -/
theorem a_pow_31 : GF32.a ^ 31 = 1 := by
  have hcycle : double^[31] 1 = 1 := by decide +kernel
  rw [← mul_one (GF32.a ^ 31), ← toField_one, ← toField_iterate_double, hcycle]

/-- **Every symbol but zero is a power of `a`.** -/
theorem exists_toField_eq_pow {s : Symbol} (hs : s ≠ 0) : ∃ i, s.toField = GF32.a ^ i := by
  have hall : ∀ s : Symbol, s ≠ 0 → ∃ i < 31, double^[i] 1 = s := by decide +kernel
  obtain ⟨i, -, hi⟩ := hall s hs
  exact ⟨i, by rw [← hi, toField_iterate_double, toField_one, mul_one]⟩

/-- Every symbol but zero can be divided by. -/
theorem isUnit_toField {s : Symbol} (hs : s ≠ 0) : IsUnit s.toField := by
  obtain ⟨i, hi⟩ := exists_toField_eq_pow hs
  rw [hi]
  exact (IsUnit.of_pow_eq_one a_pow_31 (by decide)).pow i

/-! ## All elements -/

theorem natCard_GF32 : Nat.card GF32 = 32 := by
  let basis := AdjoinRoot.powerBasis' fieldModulus_monic
  have hdim : basis.dim = 5 :=
    (AdjoinRoot.powerBasis'_dim fieldModulus_monic).trans
      (natDegree_eq_of_degree_eq_some degree_fieldModulus)
  rw [Nat.card_congr basis.basis.equivFun.toEquiv, Nat.card_fun, Nat.card_zmod, Nat.card_fin, hdim]
  norm_num

/-- **Every element is written as one symbol.** -/
theorem toField_bijective : Function.Bijective toField := by
  have : Finite GF32 := Nat.finite_of_card_ne_zero (by rw [natCard_GF32]; decide)
  have hinj : Function.Injective toField := fun _ _ => toField_inj.mp
  apply hinj.bijective_of_nat_card_le
  rw [natCard_GF32, Nat.card_eq_fintype_card]
  decide

/-- **The elements are a field.** -/
theorem isField_GF32 : IsField GF32 where
  exists_pair_ne := exists_pair_ne GF32
  mul_comm := mul_comm
  mul_inv_cancel := by
    intro z hz
    obtain ⟨s, rfl⟩ := toField_bijective.surjective z
    have hs : s ≠ 0 := fun h => hz (toField_eq_zero_iff.mpr h)
    exact (isUnit_toField hs).exists_right_inv

/-! ## Frobenius -/

/-- To square a symbol ten times, or five times and five times again, does not change it. -/
theorem toField_pow_1024 (s : Symbol) : s.toField ^ 1024 = s.toField := by
  by_cases hs : s = 0
  · rw [hs, toField_zero, zero_pow (by decide)]
  · obtain ⟨i, hi⟩ := exists_toField_eq_pow hs
    calc s.toField ^ 1024 = GF32.a ^ i * (GF32.a ^ 31) ^ (33 * i) := by
          rw [hi]
          ring
      _ = s.toField := by rw [a_pow_31, one_pow, mul_one, hi]

end Symbol

end BitcoinCash.CashAddr
