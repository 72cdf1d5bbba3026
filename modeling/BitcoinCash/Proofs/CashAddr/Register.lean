import BitcoinCash.CashAddr.Checksum
import Mathlib.Algebra.Group.Nat.Defs
import Mathlib.Data.List.Induction

/-! # The checksum register

  What one symbol, and what many, do to the register of the CashAddr checksum.

  - **Linear**: the register after the sum of two inputs is the sum of the registers after each
    of them (`step_xor`, `absorb_xor`). Sums are exclusive or, taken symbol by symbol.
  - **Bounded**: the register never leaves its forty bits (`step_lt`, `absorb_lt`).
  - **Exact on short input**: from the zero register, up to eight symbols are only written one
    after another (`toNat_absorb_zero`), so that they can be read off it again
    (`registerSymbols_absorb_zero`).
-/

namespace BitcoinCash.CashAddr

/-! ## Linearity -/

theorem xor_xor_xor_comm (a b c d : UInt64) : (a ^^^ b) ^^^ (c ^^^ d) = (a ^^^ c) ^^^ (b ^^^ d) := by
  ac_rfl

/-- One generator, added for a bit of a sum, is added for the same bit of one of the summands, or
    for both, which cancels. -/
theorem addIf_xor (x y : Bool) (r r' g : UInt64) :
    (if (x ^^ y) then (r ^^^ r') ^^^ g else r ^^^ r') =
      (if x then r ^^^ g else r) ^^^ (if y then r' ^^^ g else r') := by
  cases x <;> cases y
  · rfl
  · show (r ^^^ r') ^^^ g = r ^^^ (r' ^^^ g)
    ac_rfl
  · show (r ^^^ r') ^^^ g = (r ^^^ g) ^^^ r'
    ac_rfl
  · show r ^^^ r' = (r ^^^ g) ^^^ (r' ^^^ g)
    rw [xor_xor_xor_comm, UInt64.xor_self, UInt64.xor_zero]

/-- The sum over the generators is linear, whichever of them are summed. -/
theorem foldl_addIf_xor (gs : List (UInt64 × Nat)) (a b : UInt8) (r r' : UInt64) :
    gs.foldl (fun r (g, i) => if (a ^^^ b).toNat.testBit i then r ^^^ g else r) (r ^^^ r') =
      gs.foldl (fun r (g, i) => if a.toNat.testBit i then r ^^^ g else r) r ^^^
        gs.foldl (fun r (g, i) => if b.toNat.testBit i then r ^^^ g else r) r' := by
  induction gs generalizing r r' with
  | nil => rfl
  | cons gi gs ih =>
    obtain ⟨g, i⟩ := gi
    have hbit : (a ^^^ b).toNat.testBit i = (a.toNat.testBit i ^^ b.toNat.testBit i) := by
      rw [UInt8.toNat_xor, Nat.testBit_xor]
    simp only [List.foldl_cons, hbit, addIf_xor]
    exact ih _ _

theorem feedback_xor (a b : UInt8) : feedback (a ^^^ b) = feedback a ^^^ feedback b :=
  foldl_addIf_xor generators.zipIdx a b 0 0

theorem feedback_zero : feedback 0 = 0 := by
  decide

theorem ofNat_toNat_xor (s s' : Symbol) :
    UInt64.ofNat (s ^^^ s').toNat = UInt64.ofNat s.toNat ^^^ UInt64.ofNat s'.toNat := by
  rw [BitVec.toNat_xor, UInt64.ofNat_xor]

/-- **A step is linear** in the register and the symbol together. -/
theorem step_xor (r r' : UInt64) (s s' : Symbol) :
    step (r ^^^ r') (s ^^^ s') = step r s ^^^ step r' s' := by
  have htop : ((r ^^^ r') >>> 35).toUInt8 = (r >>> 35).toUInt8 ^^^ (r' >>> 35).toUInt8 := by
    rw [UInt64.shiftRight_xor, UInt64.toUInt8_xor]
  have hlow : ((r ^^^ r') &&& 0x07ffffffff) <<< 5 =
      ((r &&& 0x07ffffffff) <<< 5) ^^^ ((r' &&& 0x07ffffffff) <<< 5) := by
    rw [← UInt64.shiftLeft_xor]
    congr 1
    apply UInt64.toBitVec_inj.1
    simp only [UInt64.toBitVec_and, UInt64.toBitVec_xor]
    ext i
    simp only [BitVec.getElem_and, BitVec.getElem_xor]
    exact Bool.and_xor_distrib_right _ _ _
  simp only [step, htop, hlow, feedback_xor, ofNat_toNat_xor]
  ac_rfl

theorem absorb_append (r : UInt64) (ss ts : List Symbol) :
    absorb r (ss ++ ts) = absorb (absorb r ss) ts :=
  List.foldl_append ..

/-- **Absorbing is linear** in the register and the symbols together. -/
theorem absorb_xor (r r' : UInt64) (ss ss' : List Symbol) (h : ss.length = ss'.length) :
    absorb (r ^^^ r') (List.zipWith (· ^^^ ·) ss ss') = absorb r ss ^^^ absorb r' ss' := by
  induction ss generalizing r r' ss' with
  | nil =>
    cases ss' with
    | nil => rfl
    | cons s' ss' => simp at h
  | cons s ss ih =>
    cases ss' with
    | nil => simp at h
    | cons s' ss' =>
      show absorb (step (r ^^^ r') (s ^^^ s')) (List.zipWith (· ^^^ ·) ss ss') = _
      rw [step_xor]
      exact ih _ _ ss' (by simpa using h)

/-! ## Bounds -/

/-- The symbol at the top of the register is its highest digit. -/
theorem toNat_top {r : UInt64} (hr : r.toNat < 2 ^ 40) :
    (r >>> 35).toUInt8.toNat = r.toNat / 2 ^ 35 := by
  rw [UInt64.toNat_toUInt8, UInt64.toNat_shiftRight]
  show r.toNat >>> 35 % 2 ^ 8 = r.toNat / 2 ^ 35
  rw [Nat.shiftRight_eq_div_pow]
  omega

/-- What a step keeps of the register are its seven lowest digits, moved up by one place. -/
theorem toNat_kept (r : UInt64) :
    ((r &&& 0x07ffffffff) <<< 5).toNat = 32 * (r.toNat % 2 ^ 35) := by
  rw [UInt64.toNat_shiftLeft, UInt64.toNat_and]
  show (r.toNat &&& (2 ^ 35 - 1)) <<< 5 % 2 ^ 64 = 32 * (r.toNat % 2 ^ 35)
  rw [Nat.and_two_pow_sub_one_eq_mod, Nat.shiftLeft_eq]
  omega

theorem foldl_addIf_lt (gs : List (UInt64 × Nat)) (hgs : ∀ gi ∈ gs, gi.1.toNat < 2 ^ 40)
    (top : UInt8) (r : UInt64) (hr : r.toNat < 2 ^ 40) :
    (gs.foldl (fun r (g, i) => if top.toNat.testBit i then r ^^^ g else r) r).toNat < 2 ^ 40 := by
  induction gs generalizing r with
  | nil => exact hr
  | cons gi gs ih =>
    obtain ⟨g, i⟩ := gi
    apply ih (fun gi h => hgs gi (List.mem_cons_of_mem _ h))
    show (if top.toNat.testBit i then r ^^^ g else r).toNat < 2 ^ 40
    split
    · rw [UInt64.toNat_xor]
      exact Nat.xor_lt_two_pow hr (hgs (g, i) List.mem_cons_self)
    · exact hr

theorem feedback_lt (top : UInt8) : (feedback top).toNat < 2 ^ 40 :=
  foldl_addIf_lt generators.zipIdx (by decide) top 0 (by decide)

theorem toNat_ofNat_symbol (s : Symbol) : (UInt64.ofNat s.toNat).toNat = s.toNat :=
  UInt64.toNat_ofNat_of_lt' (Nat.lt_trans s.isLt (by decide))

/-- **A step stays within forty bits**, whatever the register was. -/
theorem step_lt (r : UInt64) (s : Symbol) : (step r s).toNat < 2 ^ 40 := by
  have hs : (UInt64.ofNat s.toNat).toNat < 2 ^ 40 := by
    rw [toNat_ofNat_symbol]
    exact Nat.lt_trans s.isLt (by decide)
  have hkept : ((r &&& 0x07ffffffff) <<< 5).toNat < 2 ^ 40 := by
    rw [toNat_kept]
    omega
  rw [step, UInt64.toNat_xor, UInt64.toNat_xor]
  exact Nat.xor_lt_two_pow (Nat.xor_lt_two_pow hkept hs) (feedback_lt _)

/-- **The register stays within forty bits.** -/
theorem absorb_lt (r : UInt64) (hr : r.toNat < 2 ^ 40) (ss : List Symbol) :
    (absorb r ss).toNat < 2 ^ 40 := by
  induction ss generalizing r with
  | nil => exact hr
  | cons s ss ih => exact ih _ (step_lt r s)

/-! ## Symbols as digits -/

/-- The number whose digits in base 32 are the symbols, the highest first. -/
def ofSymbols (ss : List Symbol) : Nat :=
  ss.foldl (fun n s => 32 * n + s.toNat) 0

/-- The lowest `width` digits of a number in base 32, the highest first. -/
def symbolsOf : (width n : Nat) → List Symbol
  | 0, _ => []
  | width + 1, n => symbolsOf width (n / 32) ++ [BitVec.ofNat 5 n]

theorem ofSymbols_append_singleton (ss : List Symbol) (s : Symbol) :
    ofSymbols (ss ++ [s]) = 32 * ofSymbols ss + s.toNat := by
  rw [ofSymbols, List.foldl_append]
  rfl

@[simp] theorem length_symbolsOf (width n : Nat) : (symbolsOf width n).length = width := by
  induction width generalizing n with
  | zero => rfl
  | succ width ih => simp [symbolsOf, ih]

/-- Digits that fit make up the number again. -/
theorem ofSymbols_symbolsOf {width n : Nat} (h : n < 32 ^ width) :
    ofSymbols (symbolsOf width n) = n := by
  induction width generalizing n with
  | zero =>
    have : n = 0 := by simpa using h
    rw [this]
    rfl
  | succ width ih =>
    have hrest : n / 32 < 32 ^ width := by
      rw [Nat.div_lt_iff_lt_mul (by decide), ← Nat.pow_succ]
      exact h
    rw [symbolsOf, ofSymbols_append_singleton, ih hrest, BitVec.toNat_ofNat]
    omega

/-- The digits of a number are the symbols that it was made of. -/
theorem symbolsOf_ofSymbols {width : Nat} {ss : List Symbol} (h : ss.length = width) :
    symbolsOf width (ofSymbols ss) = ss := by
  induction width generalizing ss with
  | zero => rw [List.length_eq_zero_iff.mp h]; rfl
  | succ width ih =>
    -- The last symbol is the remainder by 32, the others are the quotient.
    obtain ⟨front, last, rfl⟩ : ∃ front last, ss = front ++ [last] :=
      ⟨_, _, (List.dropLast_concat_getLast (List.ne_nil_of_length_eq_add_one h)).symm⟩
    have hlast := last.isLt
    have hquot : (32 * ofSymbols front + last.toNat) / 32 = ofSymbols front := by omega
    have hrem : BitVec.ofNat 5 (32 * ofSymbols front + last.toNat) = last := by
      apply BitVec.eq_of_toNat_eq
      rw [BitVec.toNat_ofNat]
      omega
    rw [ofSymbols_append_singleton, symbolsOf, hquot, hrem, ih (by simpa using h)]

/-- Fewer symbols than `width` make a number of fewer than `width` digits. -/
theorem ofSymbols_lt (ss : List Symbol) : ofSymbols ss < 32 ^ ss.length := by
  induction ss using List.reverseRecOn with
  | nil => decide
  | append_singleton ss s ih =>
    have hs := s.isLt
    rw [ofSymbols_append_singleton, List.length_append, List.length_singleton, Nat.pow_succ]
    omega

/-! ## Short input -/

/-- A sum of numbers without a common bit is their exclusive or. -/
theorem shiftLeft_xor_of_lt (m : Nat) {n : Nat} (h : n < 2 ^ 5) : m <<< 5 ^^^ n = 32 * m + n := by
  apply Nat.eq_of_testBit_eq
  intro i
  rw [show 32 * m + n = 2 ^ 5 * m + n from rfl, Nat.testBit_two_pow_mul_add m h, Nat.testBit_xor,
    Nat.testBit_shiftLeft]
  by_cases hi : i < 5
  · simp [hi, Nat.not_le.mpr hi]
  · have hn : n.testBit i = false :=
      Nat.testBit_lt_two_pow (Nat.lt_of_lt_of_le h (Nat.pow_le_pow_right (by decide) (by omega)))
    simp [hi, hn, Nat.not_lt.mp hi]

/-- While the register is below the top five bits, a step only appends the symbol. -/
theorem toNat_step_of_lt {r : UInt64} (hr : r.toNat < 2 ^ 35) (s : Symbol) :
    (step r s).toNat = 32 * r.toNat + s.toNat := by
  have htop : (r >>> 35).toUInt8 = 0 := by
    apply UInt8.toNat.inj
    rw [toNat_top (Nat.lt_trans hr (by decide))]
    exact Nat.div_eq_of_lt hr
  have hlow : ((r &&& 0x07ffffffff) <<< 5).toNat = r.toNat <<< 5 := by
    rw [toNat_kept, Nat.mod_eq_of_lt hr, Nat.shiftLeft_eq]
    exact Nat.mul_comm _ _
  rw [step, htop, feedback_zero, UInt64.xor_zero, UInt64.toNat_xor, hlow, toNat_ofNat_symbol]
  exact shiftLeft_xor_of_lt _ s.isLt

/-- **From the zero register, up to eight symbols are written one after another.** -/
theorem toNat_absorb_zero {ss : List Symbol} (h : ss.length ≤ 8) :
    (absorb 0 ss).toNat = ofSymbols ss := by
  induction ss using List.reverseRecOn with
  | nil => rfl
  | append_singleton ss s ih =>
    have hlen : ss.length ≤ 7 := by
      rw [List.length_append, List.length_singleton] at h
      omega
    have hprev := ih (by omega)
    have hroom : (absorb 0 ss).toNat < 2 ^ 35 := by
      rw [hprev]
      calc ofSymbols ss < 32 ^ ss.length := ofSymbols_lt ss
        _ ≤ 32 ^ 7 := Nat.pow_le_pow_right (by decide) hlen
    rw [absorb_append, ofSymbols_append_singleton, ← hprev]
    exact toNat_step_of_lt hroom s

/-! ## The symbols of a register -/

/-- The symbols of a register are its lowest eight digits. -/
theorem registerSymbols_eq (r : UInt64) : registerSymbols r = symbolsOf 8 r.toNat := by
  simp [registerSymbols, checksumLength, List.range_succ, symbolsOf, Nat.shiftRight_eq_div_pow,
    Nat.div_div_eq_div_mul]

theorem registerSymbols_absorb_zero {ss : List Symbol} (h : ss.length = 8) :
    registerSymbols (absorb 0 ss) = ss := by
  rw [registerSymbols_eq, toNat_absorb_zero (Nat.le_of_eq h), symbolsOf_ofSymbols h]

/-- Registers of forty bits with the same symbols are the same. -/
theorem registerSymbols_inj {r r' : UInt64} (hr : r.toNat < 2 ^ 40) (hr' : r'.toNat < 2 ^ 40)
    (h : registerSymbols r = registerSymbols r') : r = r' := by
  rw [registerSymbols_eq, registerSymbols_eq] at h
  have hnat : ofSymbols (symbolsOf 8 r.toNat) = ofSymbols (symbolsOf 8 r'.toNat) := by rw [h]
  rw [ofSymbols_symbolsOf hr, ofSymbols_symbolsOf hr'] at hnat
  exact UInt64.toNat.inj hnat

end BitcoinCash.CashAddr
