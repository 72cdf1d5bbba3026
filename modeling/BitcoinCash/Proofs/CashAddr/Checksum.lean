import BitcoinCash.Proofs.CashAddr.Register

/-! # The checksum is the only one

  Of all lists of eight symbols exactly one passes as the checksum of a prefix and symbols: the
  one that is written after them.

  - **`absorb_eq_xor`** splits the register after eight more symbols into what the earlier input
    leaves there and the eight symbols themselves.
  - **`prefixRegister`** is all that the checksum knows of a prefix (`verifies_iff_absorb`).
  - **`verifies_append_iff`** is the main statement.
-/

namespace BitcoinCash.CashAddr

/-- Adding symbols to as many zeros changes nothing. -/
theorem zipWith_xor_replicate_zero (ss : List Symbol) :
    List.zipWith (· ^^^ ·) (List.replicate ss.length 0) ss = ss := by
  induction ss with
  | nil => rfl
  | cons s ss ih =>
    rw [List.length_cons, List.replicate_succ, List.zipWith_cons_cons, ih]
    congr 1
    exact BitVec.zero_xor

/-- The register after more symbols is the one after as many zeros, and the symbols themselves as
    the zero register takes them in. -/
theorem absorb_eq_xor (r : UInt64) (ss : List Symbol) :
    absorb r ss = absorb r (List.replicate ss.length 0) ^^^ absorb 0 ss := by
  have hsplit := absorb_xor r 0 (List.replicate ss.length 0) ss List.length_replicate
  rwa [zipWith_xor_replicate_zero, UInt64.xor_zero] at hsplit

theorem polymod_append (ss ts : List Symbol) :
    polymod (ss ++ ts) =
      polymod (ss ++ List.replicate ts.length 0) ^^^ absorb 0 ts := by
  rw [polymod, polymod, absorb_append, absorb_append, absorb_eq_xor _ ts]
  ac_rfl

theorem polymod_lt (ss : List Symbol) : (polymod ss).toNat < 2 ^ 40 := by
  rw [polymod, UInt64.toNat_xor]
  exact Nat.xor_lt_two_pow (absorb_lt 1 (by decide) ss) (by decide)

/-! ## What a prefix leaves behind -/

/-- The register after a prefix and the zero that ends it, from which the symbols of a text go on. -/
def prefixRegister (cashPrefix : Text) : UInt64 :=
  absorb 1 (expandPrefix cashPrefix)

theorem prefixRegister_lt (cashPrefix : Text) : (prefixRegister cashPrefix).toNat < 2 ^ 40 :=
  absorb_lt 1 (by decide) _

/-- Symbols pass exactly if they lead from the register of the prefix to 1. -/
theorem verifies_iff_absorb {cashPrefix : Text} {ss : List Symbol} :
    verifies cashPrefix ss = true ↔ absorb (prefixRegister cashPrefix) ss = 1 := by
  rw [verifies, beq_iff_eq, polymod, UInt64.xor_eq_zero_iff, absorb_append]
  rfl

/-! ## The last eight symbols -/

@[simp] theorem length_registerSymbols (r : UInt64) :
    (registerSymbols r).length = checksumLength := by
  simp [registerSymbols]

@[simp] theorem length_checksum (cashPrefix : Text) (ss : List Symbol) :
    (checksum cashPrefix ss).length = checksumLength :=
  length_registerSymbols _

/-- **The checksum is the only one that passes.** -/
theorem verifies_append_iff {cashPrefix : Text} {ss check : List Symbol}
    (h : check.length = checksumLength) :
    verifies cashPrefix (ss ++ check) = true ↔ check = checksum cashPrefix ss := by
  have hcheck : registerSymbols (absorb 0 check) = check := registerSymbols_absorb_zero h
  rw [verifies, beq_iff_eq, ← List.append_assoc, polymod_append, UInt64.xor_eq_zero_iff, h]
  constructor
  · intro heq
    rw [checksum, heq, hcheck]
  · intro heq
    apply registerSymbols_inj (polymod_lt _) (absorb_lt 0 (by decide) check)
    rw [hcheck, heq, checksum]

/-- The checksum that is written passes. -/
theorem verifies_checksum (cashPrefix : Text) (ss : List Symbol) :
    verifies cashPrefix (ss ++ checksum cashPrefix ss) = true :=
  (verifies_append_iff (length_checksum cashPrefix ss)).mpr rfl

end BitcoinCash.CashAddr
