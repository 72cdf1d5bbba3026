import BitcoinCash.Proofs.CashAddr.Division

/-! # Two wrong symbols do not cancel

  Up to multiples of the divisor, the powers of `x` repeat after 1025 of them, which is `32² + 1`. So
  `z ^ 1025` is the same for a residue `z` and for `z` moved by some places, and it is a constant for
  one symbol at any place. For the sum of two symbols at different places it is none.

  - **The divisor** comes in once, by a look at all powers of `x`: the sum of a power and of its
    inverse is no constant (`x_pow_add_ne_of`).
  - **Frobenius**: to square ten times takes `x` to its inverse and leaves symbols alone, so that
    `z ^ 1025` for two symbols comes down to such a sum (`sum_pow_1025_ne_of`).
  - **`eq_or_eq_of_sum_eq`** puts this together: two symbols, at most 1024 places apart, do not even
    cancel with the help of a third one at any distance.
  - **`eq_of_residue_set_set`** says it of lists in which two symbols are replaced.
-/

namespace BitcoinCash.CashAddr

open Polynomial

/-! ## Constants -/

instance : Nontrivial Residue := by
  refine ⟨0, 1, fun h => ?_⟩
  have hdvd : divisor ∣ (1 : GF32[X]) := AdjoinRoot.mk_eq_zero.mp (by rw [map_one, h])
  refine divisor_monic.not_dvd_of_degree_lt one_ne_zero ?_ hdvd
  rw [degree_one, degree_divisor]
  decide

instance : CharP Residue 2 :=
  charP_of_injective_algebraMap' (ZMod 2) 2

/-- **Short polynomials are their own remainders**, and are told apart by their residues. -/
theorem eq_of_mk_eq_mk {p q : GF32[X]} (hp : p.degree < 8) (hq : q.degree < 8)
    (h : AdjoinRoot.mk divisor p = AdjoinRoot.mk divisor q) : p = q := by
  by_contra hne
  refine divisor_monic.not_dvd_of_degree_lt (sub_ne_zero.mpr hne) ?_ (AdjoinRoot.mk_eq_mk.mp h)
  rw [degree_divisor]
  exact (degree_sub_le p q).trans_lt (max_lt hp hq)

theorem degree_C_lt (c : GF32) : (C c).degree < 8 :=
  degree_C_le.trans_lt (by decide)

theorem of_inj {c d : GF32} (h : AdjoinRoot.of divisor c = AdjoinRoot.of divisor d) : c = d :=
  C_injective (eq_of_mk_eq_mk (degree_C_lt c) (degree_C_lt d) h)

/-- A register whose residue is a constant holds nothing but its lowest symbol. -/
theorem lt_of_residue_eq_of {r : UInt64} (hr : r.toNat < 2 ^ 40) {c : GF32}
    (h : residue (registerSymbols r) = AdjoinRoot.of divisor c) : r.toNat < 32 := by
  have hpoly : poly (registerSymbols r) = C c := by
    have hshort := degree_poly_lt (registerSymbols r)
    rw [length_registerSymbols] at hshort
    exact eq_of_mk_eq_mk hshort (degree_C_lt c) h
  rw [registerSymbols_eq, symbolsOf, poly_append_singleton] at hpoly
  have hhigh : poly (symbolsOf 7 (r.toNat / 32)) = 0 := by
    ext i
    have hcoeff := congrArg (coeff · (i + 1)) hpoly
    simpa [coeff_C_succ] using hcoeff
  have hzero : symbolsOf 7 (r.toNat / 32) = List.replicate 7 0 :=
    List.eq_replicate_iff.mpr ⟨length_symbolsOf 7 _, eq_zero_of_poly_eq_zero hhigh⟩
  have hquot : r.toNat / 32 = 0 := by
    rw [← ofSymbols_symbolsOf (show r.toNat / 32 < 32 ^ 7 by omega), hzero]
    decide
  omega

/-! ## Powers of `x` -/

/-- The register of a power of `x`. -/
def xPower (n : Nat) : UInt64 :=
  absorb 1 (List.replicate n 0)

theorem xPower_lt (n : Nat) : (xPower n).toNat < 2 ^ 40 :=
  absorb_lt 1 (by decide) _

theorem residue_xPower (n : Nat) : residue (registerSymbols (xPower n)) = Residue.x ^ n := by
  have hone : residue (registerSymbols 1) = 1 := by
    have hsymbols : registerSymbols 1 = List.replicate 7 0 ++ [1] := by decide
    rw [residue, hsymbols, poly_append_singleton, poly_replicate_zero, zero_mul, zero_add,
      Symbol.toField_one, C_1, map_one]
  have hzeros : residue (List.replicate n 0) = 0 := by
    rw [residue, poly_replicate_zero, map_zero]
  rw [xPower, residue_absorb (by decide), residue_append, hone, hzeros, one_mul, add_zero,
    List.length_replicate]

/-- **The powers of `x` repeat** after 1025 of them. -/
theorem x_pow_1025 : Residue.x ^ 1025 = 1 := by
  have hcycle : xPower 1025 = xPower 0 := by decide +kernel
  rw [← residue_xPower, hcycle, residue_xPower, pow_zero]

theorem absorb_replicate_zero (r : UInt64) (n : Nat) :
    absorb r (List.replicate n 0) = (step · 0)^[n] r := by
  induction n generalizing r with
  | zero => rfl
  | succ n ih => exact ih (step r 0)

/-- The registers of the powers of `x` from the first one to the last before they repeat. -/
def xPowers : List UInt64 :=
  List.iterate (step · 0) (step 1 0) 1024

theorem length_xPowers : xPowers.length = 1024 :=
  List.length_iterate _ _ _

theorem getElem_xPowers {i : Nat} (hi : i < xPowers.length) : xPowers[i] = xPower (i + 1) := by
  rw [xPower, absorb_replicate_zero, Function.iterate_succ_apply]
  exact List.getElem_iterate (step · 0) (step 1 0) 1024 i hi

/-- A power and the one at the same distance from the end differ above the lowest symbol. -/
theorem all_xPowers_xor_reverse :
    (List.zipWith (· ^^^ ·) xPowers xPowers.reverse).all (32 ≤ ·) = true := by
  decide +kernel

theorem le_xPower_xor {n : Nat} (h0 : 0 < n) (h : n < 1025) :
    32 ≤ (xPower n ^^^ xPower (1025 - n)).toNat := by
  have hlen := length_xPowers
  have hi : n - 1 < (List.zipWith (· ^^^ ·) xPowers xPowers.reverse).length := by
    rw [List.length_zipWith, List.length_reverse]
    omega
  have hge := List.all_eq_true.mp all_xPowers_xor_reverse _ (List.getElem_mem hi)
  rw [List.getElem_zipWith, List.getElem_reverse, getElem_xPowers, getElem_xPowers, hlen,
    show n - 1 + 1 = n by omega, show 1024 - 1 - (n - 1) + 1 = 1025 - n by omega] at hge
  exact UInt64.le_iff_toNat_le.mp (of_decide_eq_true hge)

/-- **The sum of a power of `x` and of its inverse is no constant**, but for the power one. -/
theorem x_pow_add_ne_of {n : Nat} (h0 : 0 < n) (h : n < 1025) (c : GF32) :
    Residue.x ^ n + Residue.x ^ (1025 - n) ≠ AdjoinRoot.of divisor c := by
  intro hsum
  rw [← residue_xPower, ← residue_xPower, residue, residue, ← map_add,
    ← poly_registerSymbols_xor] at hsum
  have hlt : (xPower n ^^^ xPower (1025 - n)).toNat < 2 ^ 40 := by
    rw [UInt64.toNat_xor]
    exact Nat.xor_lt_two_pow (xPower_lt n) (xPower_lt _)
  exact Nat.not_lt.mpr (le_xPower_xor h0 h) (lt_of_residue_eq_of hlt hsum)

/-! ## Sums of two symbols -/

namespace Symbol

/-- A symbol as a residue. -/
noncomputable def toResidue (s : Symbol) : Residue :=
  AdjoinRoot.of divisor s.toField

@[simp] theorem toResidue_zero : (0 : Symbol).toResidue = 0 := by
  rw [toResidue, toField_zero, map_zero]

theorem toResidue_xor (s t : Symbol) : (s ^^^ t).toResidue = s.toResidue + t.toResidue := by
  rw [toResidue, toField_xor, map_add]
  rfl

theorem toResidue_pow_1024 (s : Symbol) : s.toResidue ^ 1024 = s.toResidue := by
  rw [toResidue, ← map_pow, toField_pow_1024]

end Symbol

/-- To square ten times takes `x` to its inverse. -/
theorem x_pow_pow_1024 {n : Nat} (h0 : 0 < n) (h : n < 1025) :
    (Residue.x ^ n) ^ 1024 = Residue.x ^ (1025 - n) := by
  rw [← pow_mul, show n * 1024 = 1025 * (n - 1) + (1025 - n) by omega, pow_add, pow_mul, x_pow_1025,
    one_pow, one_mul]

/-- Moving a residue by some places does not change its power. -/
theorem mul_x_pow_pow_1025 (z : Residue) (n : Nat) : (z * Residue.x ^ n) ^ 1025 = z ^ 1025 := by
  rw [mul_pow, ← pow_mul, mul_comm n, pow_mul, x_pow_1025, one_pow, mul_one]

/-- **The power of two symbols at different places is no constant.** -/
theorem sum_pow_1025_ne_of {e f : Symbol} (he : e ≠ 0) (hf : f ≠ 0) {n : Nat} (h0 : 0 < n)
    (h : n < 1025) (c : GF32) :
    (e.toResidue * Residue.x ^ n + f.toResidue) ^ 1025 ≠ AdjoinRoot.of divisor c := by
  intro hpow
  have hfrobenius : (e.toResidue * Residue.x ^ n + f.toResidue) ^ 1024 =
      e.toResidue * Residue.x ^ (1025 - n) + f.toResidue := by
    rw [show 1024 = 2 ^ 10 from rfl, add_pow_char_pow, mul_pow, ← show 1024 = 2 ^ 10 from rfl,
      x_pow_pow_1024 h0 h, e.toResidue_pow_1024, f.toResidue_pow_1024]
  have hinverse : Residue.x ^ n * Residue.x ^ (1025 - n) = 1 := by
    rw [← pow_add, Nat.add_sub_of_le h.le, x_pow_1025]
  rw [pow_succ, hfrobenius] at hpow
  -- Both symbols can be divided by, so the sum of the powers would be a constant.
  obtain ⟨e', he'⟩ := (e.isUnit_toField he).exists_left_inv
  obtain ⟨f', hf'⟩ := (f.isUnit_toField hf).exists_left_inv
  have he1 : AdjoinRoot.of divisor e' * e.toResidue = 1 := by
    rw [Symbol.toResidue, ← map_mul, he', map_one]
  have hf1 : AdjoinRoot.of divisor f' * f.toResidue = 1 := by
    rw [Symbol.toResidue, ← map_mul, hf', map_one]
  apply x_pow_add_ne_of h0 h (e' * f' * (c - e.toField ^ 2 - f.toField ^ 2))
  rw [map_mul, map_mul, map_sub, map_sub, map_pow, map_pow]
  show _ = _ * (_ - e.toResidue ^ 2 - f.toResidue ^ 2)
  linear_combination AdjoinRoot.of divisor e' * AdjoinRoot.of divisor f' * hpow -
    (Residue.x ^ n + Residue.x ^ (1025 - n)) * (AdjoinRoot.of divisor f' * f.toResidue * he1 + hf1) -
    AdjoinRoot.of divisor e' * AdjoinRoot.of divisor f' * e.toResidue ^ 2 * hinverse

/-- One symbol at any place has a constant for its power. -/
theorem mul_x_pow_pow_1025_eq_of (d : Symbol) (k : Nat) :
    (d.toResidue * Residue.x ^ k) ^ 1025 = AdjoinRoot.of divisor (d.toField * d.toField) := by
  rw [mul_x_pow_pow_1025, pow_succ, d.toResidue_pow_1024, map_mul]
  rfl

/-- Two symbols that are not zero, at places less than 1025 apart, have no constant for theirs. -/
theorem add_pow_1025_ne_of {e f : Symbol} (he : e ≠ 0) (hf : f ≠ 0) {m n : Nat} (hmn : n < m)
    (h : m < n + 1025) (c : GF32) :
    (e.toResidue * Residue.x ^ m + f.toResidue * Residue.x ^ n) ^ 1025 ≠
      AdjoinRoot.of divisor c := by
  have hmove : e.toResidue * Residue.x ^ m + f.toResidue * Residue.x ^ n =
      (e.toResidue * Residue.x ^ (m - n) + f.toResidue) * Residue.x ^ n := by
    rw [add_mul, mul_assoc, ← pow_add, Nat.sub_add_cancel hmn.le]
  rw [hmove, mul_x_pow_pow_1025]
  exact sum_pow_1025_ne_of he hf (by omega) (by omega) c

/-- **Two symbols do not become one**: if the sum of two symbols at different places, less than 1025
    apart, is a symbol at some third place, then one of them is zero, and the other is that symbol. -/
theorem eq_or_eq_of_sum_eq {d e f : Symbol} {k m n : Nat} (hne : m ≠ n) (hm : m < n + 1025)
    (hn : n < m + 1025)
    (h : e.toResidue * Residue.x ^ m + f.toResidue * Residue.x ^ n = d.toResidue * Residue.x ^ k) :
    (e = 0 ∧ f = d) ∨ (f = 0 ∧ e = d) := by
  -- A symbol is known from its square: to square it nine times more gives it back.
  have hsquare : ∀ {s : Symbol} {i : Nat},
      s.toResidue * Residue.x ^ i = d.toResidue * Residue.x ^ k → s = d := by
    intro s i hs
    have hpow := congrArg (· ^ 1025) hs
    simp only [mul_x_pow_pow_1025_eq_of] at hpow
    have hroot := congrArg (· ^ 512) (of_inj hpow)
    simp only [← pow_two, ← pow_mul] at hroot
    rw [s.toField_pow_1024, d.toField_pow_1024] at hroot
    exact Symbol.toField_inj.mp hroot
  by_cases he : e = 0
  · rw [he, Symbol.toResidue_zero, zero_mul, zero_add] at h
    exact .inl ⟨he, hsquare h⟩
  · by_cases hf : f = 0
    · rw [hf, Symbol.toResidue_zero, zero_mul, add_zero] at h
      exact .inr ⟨hf, hsquare h⟩
    · -- Two symbols that are not zero have no constant for their power, one symbol has.
      exfalso
      have hpow := congrArg (· ^ 1025) h
      simp only [mul_x_pow_pow_1025_eq_of] at hpow
      rcases Nat.lt_or_gt_of_ne hne with hlt | hgt
      · rw [add_comm] at hpow
        exact add_pow_1025_ne_of hf he hlt hn _ hpow
      · exact add_pow_1025_ne_of he hf hgt hm _ hpow

/-! ## Replaced symbols -/

theorem residue_cons (s : Symbol) (ss : List Symbol) :
    residue (s :: ss) = s.toResidue * Residue.x ^ ss.length + residue ss := by
  rw [residue, poly_cons, map_add, map_mul, map_pow, AdjoinRoot.mk_X, AdjoinRoot.mk_C]
  rfl

/-- A symbol that is replaced adds the difference at its place. -/
theorem residue_set {ss : List Symbol} {i : Nat} (hi : i < ss.length) (s : Symbol) :
    residue (ss.set i s) =
      residue ss + (ss[i] ^^^ s).toResidue * Residue.x ^ (ss.length - 1 - i) := by
  obtain ⟨front, back, hss, hfront, hset⟩ : ∃ front back, ss = front ++ ss[i] :: back ∧
      front.length = i ∧ ss.set i s = front ++ s :: back :=
    List.exists_of_set hi
  have hplace : ss.length - 1 - i = back.length := by
    have hlen := congrArg List.length hss
    rw [List.length_append, List.length_cons] at hlen
    omega
  have hsplit : residue ss = residue (front ++ ss[i] :: back) := congrArg residue hss
  rw [hplace, hset, hsplit, residue_append, residue_append, residue_cons, residue_cons,
    Symbol.toResidue_xor, List.length_cons, List.length_cons]
  linear_combination -CharTwo.add_self_eq_zero (ss[i].toResidue * Residue.x ^ back.length)

/-- **Two replaced symbols** do not change the residue by a symbol at some third place, unless they
    are the same one and are replaced by the sum with that symbol. -/
theorem eq_of_residue_set_set {ss : List Symbol} (hlen : ss.length ≤ 1025) {i j : Nat}
    (hi : i < ss.length) (hj : j < ss.length) {s t : Symbol} (hs : ss[i] ≠ s) (ht : ss[j] ≠ t)
    {d : Symbol} {k : Nat}
    (h : residue ss + residue ((ss.set i s).set j t) = d.toResidue * Residue.x ^ k) :
    i = j ∧ ss[j] ^^^ t = d := by
  have hs0 : ss[i] ^^^ s ≠ 0 := mt BitVec.xor_eq_zero_iff.mp hs
  have ht0 : ss[j] ^^^ t ≠ 0 := mt BitVec.xor_eq_zero_iff.mp ht
  by_cases hij : i = j
  · subst hij
    rw [List.set_set, residue_set hj, CharTwo.add_cancel_left] at h
    refine ⟨rfl, ?_⟩
    -- The other symbol is a zero next to this one.
    have hsum : (ss[i] ^^^ t).toResidue * Residue.x ^ (ss.length - 1 - i) +
        (0 : Symbol).toResidue * Residue.x ^ (ss.length - i) = d.toResidue * Residue.x ^ k := by
      rw [Symbol.toResidue_zero, zero_mul, add_zero, h]
    rcases eq_or_eq_of_sum_eq (by omega) (by omega) (by omega) hsum with ⟨hzero, -⟩ | ⟨-, hd⟩
    · exact absurd hzero ht0
    · exact hd
  · exfalso
    have hj' : j < (ss.set i s).length := by rwa [List.length_set]
    rw [residue_set hj', residue_set hi, List.getElem_set_ne hij, List.length_set, add_assoc,
      CharTwo.add_cancel_left] at h
    rcases eq_or_eq_of_sum_eq (by omega) (by omega) (by omega) h with ⟨hzero, -⟩ | ⟨hzero, -⟩
    · exact hs0 hzero
    · exact ht0 hzero

end BitcoinCash.CashAddr
