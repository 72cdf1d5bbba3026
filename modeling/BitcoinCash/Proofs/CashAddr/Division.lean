import BitcoinCash.Proofs.CashAddr.Checksum
import BitcoinCash.Proofs.CashAddr.Field

/-! # The register holds a remainder

  Symbols are the coefficients of a polynomial over the field, the highest first, and what they
  leave in the register is its remainder by the divisor.

  - **The generators** are the multiples of the divisor, without its highest coefficient, by the
    first powers of `a` (`registerSymbols_generators`), so that `feedback` is the multiple by any
    symbol (`poly_feedback`).
  - **A step** appends a symbol and takes a multiple of the divisor away (`poly_step`).
  - **`residue_absorb`** is the main statement: the register and the input still to come are, up to
    multiples of the divisor, what they were before.
-/

namespace BitcoinCash.CashAddr

open Polynomial

/-! ## Polynomials -/

/-- The polynomial whose coefficients are symbols, the highest first. -/
noncomputable def poly (ss : List Symbol) : GF32[X] :=
  ss.foldl (fun p s => p * X + C s.toField) 0

/-- The coefficients of the divisor below the highest one, which is one. -/
def divisorTail : List Symbol :=
  [19, 3, 25, 11, 25, 3, 19, 1]

/-- The divisor, a polynomial of degree eight. -/
noncomputable def divisor : GF32[X] :=
  poly (1 :: divisorTail)

@[simp] theorem poly_nil : poly [] = 0 := rfl

theorem poly_append_singleton (ss : List Symbol) (s : Symbol) :
    poly (ss ++ [s]) = poly ss * X + C s.toField := by
  rw [poly, List.foldl_append]
  rfl

theorem poly_append (ss ts : List Symbol) :
    poly (ss ++ ts) = poly ss * X ^ ts.length + poly ts := by
  induction ts using List.reverseRecOn with
  | nil => simp
  | append_singleton ts t ih =>
    rw [← List.append_assoc, poly_append_singleton, ih, poly_append_singleton, List.length_append,
      List.length_singleton]
    ring

theorem poly_cons (s : Symbol) (ss : List Symbol) :
    poly (s :: ss) = C s.toField * X ^ ss.length + poly ss := by
  have hone : poly [s] = C s.toField := by simp [poly]
  rw [← List.singleton_append, poly_append, hone]

theorem poly_replicate_zero (n : Nat) : poly (List.replicate n 0) = 0 := by
  induction n with
  | zero => rfl
  | succ n ih => rw [List.replicate_succ, poly_cons, ih, Symbol.toField_zero, C_0, zero_mul, add_zero]

theorem degree_poly_lt (ss : List Symbol) : (poly ss).degree < ss.length := by
  induction ss using List.reverseRecOn with
  | nil => simp
  | append_singleton ss s ih =>
    rw [degree_lt_iff_coeff_zero] at ih ⊢
    intro i hi
    rw [List.length_append, List.length_singleton] at hi
    obtain ⟨j, rfl⟩ : ∃ j, i = j + 1 := ⟨i - 1, by omega⟩
    rw [poly_append_singleton, coeff_add, coeff_mul_X, coeff_C_succ, add_zero]
    exact ih j (by omega)

/-- A polynomial is zero only if all its coefficients are. -/
theorem eq_zero_of_poly_eq_zero {ss : List Symbol} (h : poly ss = 0) : ∀ s ∈ ss, s = 0 := by
  induction ss using List.reverseRecOn with
  | nil => simp
  | append_singleton ss s ih =>
    rw [poly_append_singleton] at h
    have hlast : s = 0 := by
      have hcoeff := congrArg (coeff · 0) h
      simpa [Symbol.toField_eq_zero_iff] using hcoeff
    have hfront : poly ss = 0 := by
      ext i
      have hcoeff := congrArg (coeff · (i + 1)) h
      simpa [coeff_C_succ] using hcoeff
    intro t ht
    rcases List.mem_append.mp ht with ht | ht
    · exact ih hfront t ht
    · rw [List.mem_singleton.mp ht, hlast]

/-- **Sums** of polynomials are sums symbol by symbol. -/
theorem poly_zipWith_xor {ss ts : List Symbol} (h : ss.length = ts.length) :
    poly (List.zipWith (· ^^^ ·) ss ts) = poly ss + poly ts := by
  induction ss generalizing ts with
  | nil =>
    rw [List.length_eq_zero_iff.mp h.symm]
    simp
  | cons s ss ih =>
    cases ts with
    | nil => simp at h
    | cons t ts =>
      have hlen : ss.length = ts.length := by simpa using h
      rw [List.zipWith_cons_cons, poly_cons, poly_cons, poly_cons, ih hlen, Symbol.toField_xor, C_add,
        List.length_zipWith, hlen, Nat.min_self]
      ring

theorem poly_map {f : Symbol → Symbol} {c : GF32} (hf : ∀ s, (f s).toField = c * s.toField)
    (ss : List Symbol) : poly (ss.map f) = C c * poly ss := by
  induction ss using List.reverseRecOn with
  | nil => simp
  | append_singleton ss s ih =>
    rw [List.map_append, List.map_singleton, poly_append_singleton, poly_append_singleton, ih, hf,
      C_mul]
    ring

theorem divisor_eq : divisor = X ^ 8 + poly divisorTail := by
  rw [divisor, poly_cons, Symbol.toField_one, C_1, one_mul]
  rfl

theorem divisor_monic : divisor.Monic := by
  rw [divisor_eq]
  exact monic_X_pow_add (degree_poly_lt divisorTail)

theorem degree_divisor : divisor.degree = 8 := by
  have htail : (poly divisorTail).degree < ((X : GF32[X]) ^ 8).degree := by
    rw [degree_X_pow]
    exact degree_poly_lt divisorTail
  rw [divisor_eq, degree_add_eq_left_of_degree_lt htail, degree_X_pow]
  rfl

/-! ## A step -/

theorem registerSymbols_xor (r r' : UInt64) :
    registerSymbols (r ^^^ r') =
      List.zipWith (· ^^^ ·) (registerSymbols r) (registerSymbols r') := by
  rw [registerSymbols, registerSymbols, registerSymbols, List.zipWith_map, List.zipWith_self]
  refine List.map_congr_left fun i _ => ?_
  rw [UInt64.shiftRight_xor, UInt64.toNat_xor, BitVec.ofNat_xor]

theorem poly_registerSymbols_xor (r r' : UInt64) :
    poly (registerSymbols (r ^^^ r')) = poly (registerSymbols r) + poly (registerSymbols r') := by
  rw [registerSymbols_xor, poly_zipWith_xor (by simp)]

/-- The generators are the tail of the divisor times the first powers of `a`. -/
theorem registerSymbols_generators : ∀ i < 5,
    registerSymbols (generators.getD i 0) = divisorTail.map Symbol.double^[i] := by
  decide +kernel

theorem poly_generators {i : Nat} (hi : i < 5) :
    poly (registerSymbols (generators.getD i 0)) = C (GF32.a ^ i) * poly divisorTail := by
  rw [registerSymbols_generators i hi, poly_map (Symbol.toField_iterate_double i)]

theorem poly_foldl_addIf (gs : List (UInt64 × Nat)) (top : UInt8) (r : UInt64) :
    poly (registerSymbols
        (gs.foldl (fun r (g, i) => if top.toNat.testBit i then r ^^^ g else r) r)) =
      poly (registerSymbols r) +
        (gs.map fun gi => if top.toNat.testBit gi.2 then poly (registerSymbols gi.1) else 0).sum := by
  induction gs generalizing r with
  | nil => simp
  | cons gi gs ih =>
    obtain ⟨g, i⟩ := gi
    rw [List.foldl_cons, ih, List.map_cons, List.sum_cons, ← add_assoc]
    congr 1
    show poly (registerSymbols (if top.toNat.testBit i then r ^^^ g else r)) =
      poly (registerSymbols r) + if top.toNat.testBit i then poly (registerSymbols g) else 0
    split
    · exact poly_registerSymbols_xor r g
    · rw [add_zero]

/-- **What leaves the register comes back as a multiple of the divisor**, without the highest
    coefficient. -/
theorem poly_feedback (top : UInt8) :
    poly (registerSymbols (feedback top)) = C (Symbol.lowBits top).toField * poly divisorTail := by
  have hindex : generators.zipIdx = (List.range 5).map fun i => (generators.getD i 0, i) := by
    decide
  have hzero : poly (registerSymbols 0) = 0 := poly_replicate_zero 8
  have hterm : ∀ i ∈ Finset.range 5,
      (if top.toNat.testBit i then poly (registerSymbols (generators.getD i 0)) else 0) =
        C (if (Symbol.lowBits top).getLsbD i then GF32.a ^ i else 0) * poly divisorTail := by
    intro i hi
    have hi5 : i < 5 := Finset.mem_range.mp hi
    rw [Symbol.lowBits, BitVec.getLsbD_ofNat, decide_eq_true hi5, Bool.true_and]
    split
    · exact poly_generators hi5
    · rw [C_0, zero_mul]
  rw [feedback, poly_foldl_addIf, hzero, zero_add, hindex, List.map_map]
  calc ∑ i ∈ Finset.range 5,
        (if top.toNat.testBit i then poly (registerSymbols (generators.getD i 0)) else 0) =
      ∑ i ∈ Finset.range 5,
        C (if (Symbol.lowBits top).getLsbD i then GF32.a ^ i else 0) * poly divisorTail :=
        Finset.sum_congr rfl hterm
    _ = C (Symbol.lowBits top).toField * poly divisorTail := by
        rw [← Finset.sum_mul, ← map_sum, ← Symbol.toField_eq_sum]

theorem ofSymbols_cons (s : Symbol) (ss : List Symbol) :
    ofSymbols (s :: ss) = s.toNat * 32 ^ ss.length + ofSymbols ss := by
  induction ss using List.reverseRecOn with
  | nil => simp [ofSymbols]
  | append_singleton ss t ih =>
    rw [← List.cons_append, ofSymbols_append_singleton, ih, ofSymbols_append_singleton,
      List.length_append, List.length_singleton]
    ring

/-- A register is the symbol at the top, and seven others. -/
theorem exists_registerSymbols_eq_cons (r : UInt64) :
    ∃ top rest, registerSymbols r = top :: rest ∧ rest.length = 7 := by
  have hlen : (registerSymbols r).length = 7 + 1 := length_registerSymbols r
  obtain ⟨top, rest, h⟩ := List.exists_cons_of_length_eq_add_one hlen
  rw [h] at hlen
  exact ⟨top, rest, h, Nat.succ.inj hlen⟩

/-- What leaves the register, and what a step makes of the others and the new symbol. -/
theorem registerSymbols_shift {r : UInt64} (hr : r.toNat < 2 ^ 40) {top : Symbol}
    {rest : List Symbol} (h : registerSymbols r = top :: rest) (hrest : rest.length = 7)
    (s : Symbol) :
    Symbol.lowBits (r >>> 35).toUInt8 = top ∧
      registerSymbols (((r &&& 0x07ffffffff) <<< 5) ^^^ UInt64.ofNat s.toNat) = rest ++ [s] := by
  have hr8 : r.toNat < 32 ^ 8 := hr
  have htop := top.isLt
  have hlow : ofSymbols rest < 2 ^ 35 := by
    have := ofSymbols_lt rest
    rwa [hrest] at this
  have hnat : r.toNat = top.toNat * 2 ^ 35 + ofSymbols rest := by
    calc r.toNat = ofSymbols (registerSymbols r) := by
          rw [registerSymbols_eq]
          exact (ofSymbols_symbolsOf hr8).symm
      _ = top.toNat * 2 ^ 35 + ofSymbols rest := by
          rw [h, ofSymbols_cons, hrest]
          rfl
  constructor
  · apply BitVec.eq_of_toNat_eq
    rw [Symbol.lowBits, BitVec.toNat_ofNat, toNat_top hr, hnat]
    omega
  · have hkept : r.toNat % 2 ^ 35 = ofSymbols rest := by omega
    rw [registerSymbols_eq, UInt64.toNat_xor, toNat_kept, toNat_ofNat_symbol, hkept,
      Nat.mul_comm 32, ← Nat.shiftLeft_eq _ 5, shiftLeft_xor_of_lt _ s.isLt,
      ← ofSymbols_append_singleton]
    exact symbolsOf_ofSymbols (by rw [List.length_append, hrest]; rfl)

/-- **A step** appends a symbol and takes a multiple of the divisor away. -/
theorem poly_step {r : UInt64} (hr : r.toNat < 2 ^ 40) (s : Symbol) :
    poly (registerSymbols (step r s)) +
        C (Symbol.lowBits (r >>> 35).toUInt8).toField * divisor =
      poly (registerSymbols r ++ [s]) := by
  obtain ⟨top, rest, h, hrest⟩ := exists_registerSymbols_eq_cons r
  obtain ⟨htop, hshift⟩ := registerSymbols_shift hr h hrest s
  have hlen : (rest ++ [s]).length = 8 := by rw [List.length_append, hrest]; rfl
  rw [step, poly_registerSymbols_xor, hshift, poly_feedback, htop, divisor_eq, h, List.cons_append,
    poly_cons, hlen]
  -- The multiple of the tail is there twice.
  linear_combination CharTwo.add_self_eq_zero (C top.toField * poly divisorTail)

/-! ## A run -/

/-- Polynomials up to multiples of the divisor. -/
abbrev Residue := AdjoinRoot divisor

/-- The indeterminate. -/
noncomputable abbrev Residue.x : Residue :=
  AdjoinRoot.root divisor

/-- What division leaves of the polynomial of symbols. -/
noncomputable def residue (ss : List Symbol) : Residue :=
  AdjoinRoot.mk divisor (poly ss)

theorem residue_append (ss ts : List Symbol) :
    residue (ss ++ ts) = residue ss * Residue.x ^ ts.length + residue ts := by
  rw [residue, poly_append, map_add, map_mul, map_pow, AdjoinRoot.mk_X]
  rfl

theorem residue_step {r : UInt64} (hr : r.toNat < 2 ^ 40) (s : Symbol) :
    residue (registerSymbols (step r s)) = residue (registerSymbols r ++ [s]) := by
  rw [residue, residue, ← poly_step hr s, map_add, map_mul, AdjoinRoot.mk_self, mul_zero, add_zero]

/-- **The register holds a remainder**: its symbols are what the division leaves of those that it
    held before with the input after them. -/
theorem residue_absorb {r : UInt64} (hr : r.toNat < 2 ^ 40) (ss : List Symbol) :
    residue (registerSymbols (absorb r ss)) = residue (registerSymbols r ++ ss) := by
  induction ss generalizing r with
  | nil => rw [List.append_nil]; rfl
  | cons s ss ih =>
    calc residue (registerSymbols (absorb (step r s) ss))
        = residue (registerSymbols (step r s) ++ ss) := ih (step_lt r s)
      _ = residue (registerSymbols r ++ [s] ++ ss) := by
          rw [residue_append, residue_step hr, ← residue_append]
      _ = residue (registerSymbols r ++ s :: ss) := by rw [List.append_assoc, List.singleton_append]

end BitcoinCash.CashAddr
