import BitcoinCash.Proofs.CashAddr.Division

/-! # The checksum is the remainder of a division

  The symbols of a text are read as the coefficients of a polynomial over the field with 32 elements,
  and the checksum function divides it by a fixed polynomial of degree eight.

  - **`poly_eq_sum`** and **`divisor_eq_sum`** spell the polynomials out.
  - **`poly_absorb`**: what a run leaves in the register is not only equal to its input up to
    multiples of the divisor (`residue_absorb`). It is the remainder, because eight symbols have no
    higher degree.
  - **`poly_polymod`** is the main statement.
-/

namespace BitcoinCash.CashAddr

open Polynomial

/-! ## Coefficients -/

/-- The first of `n` symbols is the coefficient of `Xⁿ⁻¹`, and the last is that of one. -/
theorem poly_eq_sum (ss : List Symbol) :
    poly ss = ∑ i : Fin ss.length, C ss[i].toField * X ^ (ss.length - 1 - i) := by
  induction ss with
  | nil => rfl
  | cons s ss ih =>
    have hplace (i : Fin ss.length) : (s :: ss).length - 1 - i.succ = ss.length - 1 - i := by
      rw [List.length_cons, Fin.val_succ]
      omega
    rw [poly_cons, ih]
    show _ = ∑ i : Fin (ss.length + 1), _
    rw [Fin.sum_univ_succ]
    simp only [hplace]
    rfl

theorem divisor_eq_sum :
    divisor = X ^ 8 + C (Symbol.toField 19) * X ^ 7 + C (Symbol.toField 3) * X ^ 6 +
      C (Symbol.toField 25) * X ^ 5 + C (Symbol.toField 11) * X ^ 4 +
      C (Symbol.toField 25) * X ^ 3 + C (Symbol.toField 3) * X ^ 2 +
      C (Symbol.toField 19) * X + 1 := by
  rw [divisor_eq, divisorTail]
  simp only [poly_cons, List.length_cons, List.length_nil, poly_nil, Symbol.toField_one, C_1]
  ring

/-! ## The remainder -/

/-- **A run leaves the remainder** of what the register held before with the input after it. -/
theorem poly_absorb {r : UInt64} (hr : r.toNat < 2 ^ 40) (ss : List Symbol) :
    poly (registerSymbols (absorb r ss)) = poly (registerSymbols r ++ ss) %ₘ divisor := by
  have hdvd := AdjoinRoot.mk_eq_mk.mp (residue_absorb hr ss)
  -- Eight coefficients are too few for the divisor to be taken away once more.
  have hshort : (poly (registerSymbols (absorb r ss))).degree < divisor.degree := by
    rw [degree_divisor]
    exact degree_poly_lt (registerSymbols (absorb r ss))
  rw [← modByMonic_eq_of_dvd_sub divisor_monic hdvd]
  exact ((modByMonic_eq_self_iff divisor_monic).mpr hshort).symm

/-- The one that a run starts from is a coefficient in front of all others. -/
theorem poly_registerSymbols_one_append (ss : List Symbol) :
    poly (registerSymbols 1 ++ ss) = X ^ ss.length + poly ss := by
  have hsymbols : registerSymbols 1 = List.replicate 7 0 ++ [1] := by decide
  rw [poly_append, hsymbols, poly_append_singleton, poly_replicate_zero, Symbol.toField_one, C_1]
  ring

/-- The symbol at the top of a register of forty bits fits into a byte. -/
theorem toUInt64_top {r : UInt64} (hr : r.toNat < 2 ^ 40) :
    (r >>> 35).toUInt8.toUInt64 = r >>> 35 := by
  apply UInt64.toNat.inj
  rw [UInt8.toNat_toUInt64, toNat_top hr, UInt64.toNat_shiftRight]
  exact (Nat.shiftRight_eq_div_pow _ _).symm

/-- **The checksum function divides polynomials over the field with 32 elements.** Every element of
    the field is one symbol. Without its last step, which is an exclusive or with one, `polymod`
    leaves the remainder of the symbols behind a coefficient of one. Whatever the register takes in,
    it has forty bits, and its top symbol is cut off without a loss. -/
theorem poly_polymod (ss : List Symbol) :
    IsField GF32 ∧ Function.Bijective Symbol.toField ∧
      poly (registerSymbols (polymod ss ^^^ 1)) =
        (X ^ ss.length + ∑ i : Fin ss.length, C ss[i].toField * X ^ (ss.length - 1 - i)) %ₘ
          (X ^ 8 + C (Symbol.toField 19) * X ^ 7 + C (Symbol.toField 3) * X ^ 6 +
            C (Symbol.toField 25) * X ^ 5 + C (Symbol.toField 11) * X ^ 4 +
            C (Symbol.toField 25) * X ^ 3 + C (Symbol.toField 3) * X ^ 2 +
            C (Symbol.toField 19) * X + 1) ∧
      polymod ss ^^^ 1 = absorb 1 ss ∧
      ∀ taken, (absorb 1 (ss.take taken)).toNat < 2 ^ 40 ∧
        (absorb 1 (ss.take taken) >>> 35).toUInt8.toUInt64 = absorb 1 (ss.take taken) >>> 35 := by
  have hregister : polymod ss ^^^ 1 = absorb 1 ss := by
    rw [polymod, UInt64.xor_assoc, UInt64.xor_self, UInt64.xor_zero]
  refine ⟨Symbol.isField_GF32, Symbol.toField_bijective, ?_, hregister, ?_⟩
  · rw [hregister, poly_absorb (by decide), poly_registerSymbols_one_append, poly_eq_sum ss,
      divisor_eq_sum]
  · intro taken
    have hbits := absorb_lt 1 (by decide) (ss.take taken)
    exact ⟨hbits, toUInt64_top hbits⟩

/-- The remainder of `X⁸` is the divisor without its highest coefficient. -/
example : registerSymbols (polymod (List.replicate 8 0) ^^^ 1) = divisorTail := by
  decide +kernel

end BitcoinCash.CashAddr
