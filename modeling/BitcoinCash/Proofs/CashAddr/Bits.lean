import BitcoinCash.CashAddr.Regroup
import Mathlib.Algebra.Group.Nat.Defs

/-! # Bytes and symbols as the same bits

  A byte string and a list of symbols are compared by the bits they spell, highest bit first.

  - **From bytes to symbols** the bits are kept, and fewer than five zero bits come after them
    (`symbolBits_bytesToSymbols`).
  - **From symbols to bytes** the answer is the byte string that has the same bits but for fewer
    than five zero bits at the end (`symbolsToBytes_eq_ok_iff`).
  - **Together** the two undo each other (`symbolsToBytes_bytesToSymbols`,
    `bytesToSymbols_of_symbolsToBytes`): each byte string has one list of symbols.

  The invariant of both loops is that the last `waiting` bits of the window are those that have
  been read and not yet written. The twelve bits of the window are enough for that
  (`bitsOf_pushBits`).
-/

namespace BitcoinCash

/-! ## The bits of a number -/

/-- The lowest `width` bits of a number, the highest first. -/
def bitsOf : (width n : Nat) → List Bool
  | 0, _ => []
  | width + 1, n => n.testBit width :: bitsOf width n

@[simp] theorem length_bitsOf (width n : Nat) : (bitsOf width n).length = width := by
  induction width with
  | zero => rfl
  | succ width ih => rw [bitsOf, List.length_cons, ih]

theorem bitsOf_congr {width m n : Nat} (h : ∀ i < width, m.testBit i = n.testBit i) :
    bitsOf width m = bitsOf width n := by
  induction width with
  | zero => rfl
  | succ width ih =>
    rw [bitsOf, bitsOf, h width (by omega), ih fun i hi => h i (by omega)]

theorem testBit_eq_of_bitsOf_eq {width m n : Nat} (h : bitsOf width m = bitsOf width n) :
    ∀ i < width, m.testBit i = n.testBit i := by
  induction width with
  | zero => intro i hi; omega
  | succ width ih =>
    intro i hi
    rw [bitsOf, bitsOf, List.cons.injEq] at h
    rcases Nat.lt_succ_iff_lt_or_eq.mp hi with hlt | rfl
    · exact ih h.2 i hlt
    · exact h.1

/-- Only the lowest bits count. -/
theorem bitsOf_mod (width n : Nat) : bitsOf width (n % 2 ^ width) = bitsOf width n := by
  apply bitsOf_congr
  intro i hi
  simp [Nat.testBit_mod_two_pow, hi]

/-- Numbers that fit into `width` bits are told apart by them. -/
theorem eq_of_bitsOf_eq {width m n : Nat} (hm : m < 2 ^ width) (hn : n < 2 ^ width)
    (h : bitsOf width m = bitsOf width n) : m = n := by
  apply Nat.eq_of_testBit_eq
  intro i
  by_cases hi : i < width
  · exact testBit_eq_of_bitsOf_eq h i hi
  · have hpow : 2 ^ width ≤ 2 ^ i := Nat.pow_le_pow_right (by decide) (by omega)
    rw [Nat.testBit_lt_two_pow (by omega), Nat.testBit_lt_two_pow (by omega)]

/-- The high bits come first, then the low ones. -/
theorem bitsOf_add (high low n : Nat) :
    bitsOf (high + low) n = bitsOf high (n >>> low) ++ bitsOf low n := by
  induction high with
  | zero => rw [Nat.zero_add]; rfl
  | succ high ih =>
    rw [Nat.succ_add, bitsOf, ih, bitsOf, Nat.testBit_shiftRight, Nat.add_comm low high]
    rfl

theorem bitsOf_eq_replicate_iff {width n : Nat} :
    bitsOf width n = List.replicate width false ↔ n % 2 ^ width = 0 := by
  have hzero : bitsOf width 0 = List.replicate width false := by
    induction width with
    | zero => rfl
    | succ width ih => rw [bitsOf, ih, Nat.zero_testBit, List.replicate_succ]
  rw [← hzero, ← bitsOf_mod width n]
  constructor
  · exact eq_of_bitsOf_eq (Nat.mod_lt _ (Nat.two_pow_pos width)) (Nat.two_pow_pos width)
  · intro h
    rw [h]

/-! ## The bits of bytes and of symbols -/

/-- The bits of a byte string, the highest bit of each byte first. -/
def Bytes.bits (bs : Bytes) : List Bool :=
  bs.flatMap fun b => bitsOf 8 b.toNat

namespace CashAddr

/-- The bits of a list of symbols, the highest bit of each symbol first. -/
def symbolBits (ss : List Symbol) : List Bool :=
  ss.flatMap fun s => bitsOf 5 s.toNat

@[simp] theorem bits_nil : Bytes.bits [] = [] := rfl

@[simp] theorem bits_cons (b : UInt8) (bs : Bytes) :
    Bytes.bits (b :: bs) = bitsOf 8 b.toNat ++ Bytes.bits bs := rfl

@[simp] theorem bits_append (bs cs : Bytes) :
    Bytes.bits (bs ++ cs) = Bytes.bits bs ++ Bytes.bits cs :=
  List.flatMap_append

@[simp] theorem symbolBits_nil : symbolBits [] = [] := rfl

@[simp] theorem symbolBits_cons (s : Symbol) (ss : List Symbol) :
    symbolBits (s :: ss) = bitsOf 5 s.toNat ++ symbolBits ss := rfl

@[simp] theorem symbolBits_append (ss ts : List Symbol) :
    symbolBits (ss ++ ts) = symbolBits ss ++ symbolBits ts :=
  List.flatMap_append

@[simp] theorem length_bits (bs : Bytes) : (Bytes.bits bs).length = 8 * bs.length := by
  induction bs with
  | nil => rfl
  | cons b bs ih =>
    rw [bits_cons, List.length_append, length_bitsOf, ih, List.length_cons]
    omega

@[simp] theorem length_symbolBits (ss : List Symbol) : (symbolBits ss).length = 5 * ss.length := by
  induction ss with
  | nil => rfl
  | cons s ss ih =>
    rw [symbolBits_cons, List.length_append, length_bitsOf, ih, List.length_cons]
    omega

theorem bitsOf_toNat_ofNat_byte (n : Nat) : bitsOf 8 (UInt8.ofNat n).toNat = bitsOf 8 n := by
  rw [UInt8.toNat_ofNat', bitsOf_mod]

theorem bitsOf_toNat_ofNat_symbol (n : Nat) : bitsOf 5 (BitVec.ofNat 5 n).toNat = bitsOf 5 n := by
  rw [BitVec.toNat_ofNat, bitsOf_mod]

theorem byte_eq_of_bitsOf_eq {b c : UInt8} (h : bitsOf 8 b.toNat = bitsOf 8 c.toNat) : b = c :=
  UInt8.toNat.inj (eq_of_bitsOf_eq b.toNat_lt c.toNat_lt h)

/-- Lists of numbers of one width are told apart by their bits. -/
theorem flatMap_bitsOf_inj {α : Type} {width : Nat} (hwidth : 0 < width) {value : α → Nat}
    (hvalue : Function.Injective value) (hlt : ∀ a, value a < 2 ^ width) {as bs : List α}
    (h : as.flatMap (fun a => bitsOf width (value a)) =
      bs.flatMap (fun a => bitsOf width (value a))) : as = bs := by
  induction as generalizing bs with
  | nil =>
    cases bs with
    | nil => rfl
    | cons b bs =>
      have hlen := congrArg List.length h
      simp only [List.flatMap_nil, List.length_nil, List.flatMap_cons, List.length_append,
        length_bitsOf] at hlen
      omega
  | cons a as ih =>
    cases bs with
    | nil =>
      have hlen := congrArg List.length h
      simp only [List.flatMap_nil, List.length_nil, List.flatMap_cons, List.length_append,
        length_bitsOf] at hlen
      omega
    | cons b bs =>
      obtain ⟨hhead, htail⟩ := List.append_inj h (by rw [length_bitsOf, length_bitsOf])
      rw [hvalue (eq_of_bitsOf_eq (hlt a) (hlt b) hhead), ih htail]

/-- Symbols are told apart by their bits. -/
theorem symbolBits_inj {ss ts : List Symbol} (h : symbolBits ss = symbolBits ts) : ss = ts :=
  flatMap_bitsOf_inj (by decide) (fun _ _ => BitVec.eq_of_toNat_eq) BitVec.isLt h

/-- Bytes are told apart by their bits. -/
theorem bits_inj {bs cs : Bytes} (h : Bytes.bits bs = Bytes.bits cs) : bs = cs :=
  flatMap_bitsOf_inj (by decide) (fun _ _ => UInt8.toNat.inj) UInt8.toNat_lt h

/-! ## The window -/

/-- The window after `width` more bits, which are the number `value`, if it forgets nothing. -/
def appendBits (window width value : Nat) : Nat :=
  (window <<< width) ||| value

/-- The bits that waited come first, then the new ones. -/
theorem bitsOf_appendBits {width value : Nat} (hvalue : value < 2 ^ width) (window waiting : Nat) :
    bitsOf (waiting + width) (appendBits window width value) =
      bitsOf waiting window ++ bitsOf width value := by
  rw [bitsOf_add]
  congr 1
  · apply bitsOf_congr
    intro i _
    -- The new bits are all below the place of this one.
    have hpow : 2 ^ width ≤ 2 ^ (width + i) := Nat.pow_le_pow_right (by decide) (by omega)
    rw [appendBits, Nat.testBit_shiftRight, Nat.testBit_or, Nat.testBit_shiftLeft,
      Nat.add_sub_cancel_left, Nat.testBit_lt_two_pow (x := value) (by omega)]
    simp
  · apply bitsOf_congr
    intro i hi
    rw [appendBits, Nat.testBit_or, Nat.testBit_shiftLeft]
    simp [Nat.not_le.mpr hi]

/-- The window has room for twelve bits and keeps the lowest ones. -/
theorem bitsOf_pushBits_of_le {count : Nat} (hroom : count ≤ 12) (window width value : Nat) :
    bitsOf count (pushBits window width value) = bitsOf count (appendBits window width value) := by
  apply bitsOf_congr
  intro i hi
  have hmask : (0xfff : Nat).testBit i = true := by
    rw [show (0xfff : Nat) = 2 ^ 12 - 1 from rfl, Nat.testBit_two_pow_sub_one]
    exact decide_eq_true (by omega)
  rw [pushBits, Nat.testBit_and, hmask, Bool.and_true, appendBits]

/-- **The window keeps what is needed**: as long as there is room for them, the bits that waited
    and the new bits are its last ones. -/
theorem bitsOf_pushBits {waiting width value : Nat} (hroom : waiting + width ≤ 12)
    (hvalue : value < 2 ^ width) (window : Nat) :
    bitsOf (waiting + width) (pushBits window width value) =
      bitsOf waiting window ++ bitsOf width value := by
  rw [bitsOf_pushBits_of_le hroom, bitsOf_appendBits hvalue]

/-! ## From bytes to symbols -/

/-- The symbols that are taken from a window, and the bits that are left in it. -/
theorem symbolBits_takeSymbols (window waiting : Nat) :
    symbolBits (takeSymbols window waiting) ++ bitsOf (waiting % 5) window =
      bitsOf waiting window := by
  induction waiting using Nat.strongRecOn with
  | ind waiting ih =>
    rw [takeSymbols]
    split
    · next h => rw [Nat.mod_eq_of_lt h, symbolBits_nil, List.nil_append]
    · next h =>
      have hmod : waiting % 5 = (waiting - 5) % 5 := by omega
      have hsplit : waiting = 5 + (waiting - 5) := by omega
      rw [symbolBits_cons, bitsOf_toNat_ofNat_symbol, List.append_assoc, hmod,
        ih (waiting - 5) (by omega)]
      conv => rhs; rw [hsplit, bitsOf_add]

/-- What waits in the window, the bytes that follow, and fewer than five zeros make up the
    symbols. -/
theorem symbolBits_symbolsFrom {waiting : Nat} (hwaiting : waiting < 5) (window : Nat)
    (bs : Bytes) :
    ∃ pad < 5, symbolBits (symbolsFrom window waiting bs) =
      bitsOf waiting window ++ Bytes.bits bs ++ List.replicate pad false := by
  induction bs generalizing window waiting with
  | nil =>
    rw [symbolsFrom]
    split
    · next h =>
      rw [h]
      exact ⟨0, by decide, rfl⟩
    · next h =>
      obtain ⟨pad, hfill⟩ : ∃ pad, waiting + pad = 5 := ⟨5 - waiting, by omega⟩
      have hpad : 5 - waiting = pad := by omega
      have hzeros : bitsOf pad (window <<< pad) = List.replicate pad false := by
        rw [bitsOf_eq_replicate_iff, Nat.shiftLeft_eq, Nat.mul_mod_left]
      have hsplit : bitsOf (waiting + pad) (window <<< pad) =
          bitsOf waiting window ++ List.replicate pad false := by
        rw [bitsOf_add, Nat.shiftLeft_shiftRight, hzeros]
      rw [hfill] at hsplit
      refine ⟨pad, by omega, ?_⟩
      rw [hpad, symbolBits_cons, symbolBits_nil, List.append_nil, bitsOf_toNat_ofNat_symbol, hsplit,
        bits_nil, List.append_nil]
  | cons b bs ih =>
    obtain ⟨pad, hpad, hrest⟩ := ih (Nat.mod_lt (waiting + 8) (by decide))
      (pushBits window 8 b.toNat)
    refine ⟨pad, hpad, ?_⟩
    rw [symbolsFrom, symbolBits_append, hrest, ← List.append_assoc, ← List.append_assoc,
      symbolBits_takeSymbols, bitsOf_pushBits (by omega) b.toNat_lt, bits_cons, ← List.append_assoc]

/-- **The symbols of a byte string** spell its bits, and fewer than five zeros after them. -/
theorem symbolBits_bytesToSymbols (bs : Bytes) :
    ∃ pad < 5, symbolBits (bytesToSymbols bs) = Bytes.bits bs ++ List.replicate pad false :=
  symbolBits_symbolsFrom (by decide) 0 bs

/-- A byte string has as many symbols as it takes to hold its bits. -/
theorem length_bytesToSymbols (bs : Bytes) :
    ∃ pad < 5, 5 * (bytesToSymbols bs).length = 8 * bs.length + pad := by
  obtain ⟨pad, hpad, hbits⟩ := symbolBits_bytesToSymbols bs
  have hlen := congrArg List.length hbits
  rw [length_symbolBits, List.length_append, length_bits, List.length_replicate] at hlen
  exact ⟨pad, hpad, hlen⟩

/-! ## From symbols to bytes -/

/-- Bits that are too few for a byte are a byte string and zeros only if they are all zeros. -/
theorem bitsOf_eq_bits_append_iff {waiting : Nat} (hwaiting : waiting < 8) (window : Nat)
    (bs : Bytes) :
    (∃ pad < 5, bitsOf waiting window = Bytes.bits bs ++ List.replicate pad false) ↔
      waiting < 5 ∧ window % 2 ^ waiting = 0 ∧ bs = [] := by
  constructor
  · rintro ⟨pad, hpad, heq⟩
    have hlen := congrArg List.length heq
    rw [length_bitsOf, List.length_append, length_bits, List.length_replicate] at hlen
    have hbs : bs = [] := List.length_eq_zero_iff.mp (by omega)
    have hwidth : waiting = pad := by rw [hbs] at hlen; simpa using hlen
    rw [hbs, ← hwidth, bits_nil, List.nil_append, bitsOf_eq_replicate_iff] at heq
    exact ⟨by omega, heq, hbs⟩
  · rintro ⟨hlt, hzero, rfl⟩
    exact ⟨waiting, hlt, bitsOf_eq_replicate_iff.mpr hzero⟩

/-- At the end, only fewer than five zeros may wait. -/
theorem bytesFrom_nil_eq_ok_iff (window waiting : Nat) (bs : Bytes) :
    bytesFrom window waiting [] = .ok bs ↔
      waiting < 5 ∧ window % 2 ^ waiting = 0 ∧ bs = [] := by
  unfold bytesFrom
  rw [Nat.one_shiftLeft]
  by_cases hmany : 5 ≤ waiting
  · rw [if_pos hmany]
    constructor
    · intro h
      simp at h
    · rintro ⟨hlt, -, -⟩
      omega
  rw [if_neg hmany]
  by_cases hbad : window % 2 ^ waiting ≠ 0
  · rw [if_pos hbad]
    constructor
    · intro h
      simp at h
    · rintro ⟨-, hzero, -⟩
      exact absurd hzero hbad
  · rw [if_neg hbad]
    constructor
    · intro h
      cases h
      exact ⟨by omega, Decidable.not_not.mp hbad, rfl⟩
    · rintro ⟨-, -, rfl⟩
      rfl

/-- Eight bits in front are the first byte. -/
theorem bitsOf_append_eq_bits_append_iff (value : Nat) (rest : List Bool) (bs : Bytes) :
    (∃ pad < 5, bitsOf 8 value ++ rest = Bytes.bits bs ++ List.replicate pad false) ↔
      ∃ more, bs = UInt8.ofNat value :: more ∧
        ∃ pad < 5, rest = Bytes.bits more ++ List.replicate pad false := by
  constructor
  · rintro ⟨pad, hpad, hbits⟩
    cases bs with
    | nil =>
      -- Eight bits cannot be fewer than five zeros.
      have hlen := congrArg List.length hbits
      simp only [List.length_append, length_bitsOf, bits_nil, List.length_nil,
        List.length_replicate] at hlen
      omega
    | cons b bs =>
      rw [bits_cons, List.append_assoc] at hbits
      obtain ⟨hhead, htail⟩ := List.append_inj hbits (by rw [length_bitsOf, length_bitsOf])
      have hb : UInt8.ofNat value = b :=
        byte_eq_of_bitsOf_eq ((bitsOf_toNat_ofNat_byte _).trans hhead)
      exact ⟨bs, by rw [hb], pad, hpad, htail⟩
  · rintro ⟨more, rfl, pad, hpad, hrest⟩
    refine ⟨pad, hpad, ?_⟩
    rw [hrest, bits_cons, bitsOf_toNat_ofNat_byte, List.append_assoc]

/-- What waits in the window and the symbols that follow are the bytes and fewer than five
    zeros. -/
theorem bytesFrom_eq_ok_iff {waiting : Nat} (hwaiting : waiting < 8) (window : Nat)
    (ss : List Symbol) (bs : Bytes) :
    bytesFrom window waiting ss = .ok bs ↔
      ∃ pad < 5, bitsOf waiting window ++ symbolBits ss =
        Bytes.bits bs ++ List.replicate pad false := by
  induction ss generalizing window waiting bs with
  | nil =>
    rw [symbolBits_nil, List.append_nil, bitsOf_eq_bits_append_iff hwaiting,
      bytesFrom_nil_eq_ok_iff]
  | cons s ss ih =>
    -- The new symbol joins the bits that wait.
    have hpush : bitsOf waiting window ++ symbolBits (s :: ss) =
        bitsOf (waiting + 5) (pushBits window 5 s.toNat) ++ symbolBits ss := by
      rw [bitsOf_pushBits (by omega) s.isLt, symbolBits_cons, List.append_assoc]
    rw [hpush, bytesFrom]
    generalize pushBits window 5 s.toNat = next
    split
    · next h =>
      -- There is a byte, which has to be the first one of the answer.
      obtain ⟨left, hleft⟩ : ∃ left, waiting + 5 = 8 + left := ⟨waiting + 5 - 8, by omega⟩
      have hsub : waiting + 5 - 8 = left := by omega
      rw [hsub, hleft, bitsOf_add, List.append_assoc, bitsOf_append_eq_bits_append_iff]
      constructor
      · intro heq
        cases hrest : bytesFrom next left ss with
        | error e =>
          rw [hrest] at heq
          simp [Except.map] at heq
        | ok more =>
          rw [hrest] at heq
          cases heq
          exact ⟨more, rfl, (ih (by omega) next more).mp hrest⟩
      · rintro ⟨more, rfl, hmore⟩
        rw [(ih (by omega) next more).mpr hmore]
        rfl
    · next h => exact ih (by omega) next bs

/-- A failure says how many bits are left: five or more, or else fewer, and they are not all zero. -/
theorem error_of_bytesFrom {window waiting : Nat} (hwaiting : waiting < 8) {ss : List Symbol}
    {e : AddressError} (h : bytesFrom window waiting ss = .error e) :
    e = if 5 ≤ (waiting + 5 * ss.length) % 8 then .excessPadding else .invalidPadding := by
  induction ss generalizing window waiting with
  | nil =>
    -- The last symbol is reached, and the bits that wait are those that are left.
    have hleft : (waiting + 5 * ([] : List Symbol).length) % 8 = waiting := Nat.mod_eq_of_lt hwaiting
    rw [hleft]
    unfold bytesFrom at h
    by_cases hmany : 5 ≤ waiting
    · rw [if_pos hmany] at h ⊢
      exact (Except.error.inj h).symm
    · rw [if_neg hmany] at h ⊢
      split at h
      · exact (Except.error.inj h).symm
      · cases h
  | cons s ss ih =>
    have hcount : 5 * (s :: ss).length = 5 + 5 * ss.length := by
      rw [List.length_cons]
      omega
    unfold bytesFrom at h
    dsimp only at h
    split at h
    · -- A byte is taken off, which does not change the count modulo eight.
      have hwaiting' : waiting + 5 - 8 < 8 := by omega
      have hsame : (waiting + 5 * (s :: ss).length) % 8 =
          (waiting + 5 - 8 + 5 * ss.length) % 8 := by
        omega
      rw [hsame]
      cases hrest : bytesFrom (pushBits window 5 s.toNat) (waiting + 5 - 8) ss with
      | error e' =>
        rw [hrest] at h
        cases h
        exact ih hwaiting' hrest
      | ok bs =>
        rw [hrest] at h
        cases h
    · have hsame : waiting + 5 * (s :: ss).length = waiting + 5 + 5 * ss.length := by omega
      rw [hsame]
      exact ih (by omega) h

/-- **The bytes of a list of symbols** have the same bits, but for fewer than five zeros at the
    end. -/
theorem symbolsToBytes_eq_ok_iff (ss : List Symbol) (bs : Bytes) :
    symbolsToBytes ss = .ok bs ↔
      ∃ pad < 5, symbolBits ss = Bytes.bits bs ++ List.replicate pad false :=
  bytesFrom_eq_ok_iff (by decide) 0 ss bs

/-- **Which failure it is** depends on the count of symbols alone. -/
theorem error_of_symbolsToBytes {ss : List Symbol} {e : AddressError}
    (h : symbolsToBytes ss = .error e) :
    e = if 5 ≤ 5 * ss.length % 8 then .excessPadding else .invalidPadding := by
  have he := error_of_bytesFrom (by decide) h
  rwa [Nat.zero_add] at he

/-! ## There and back -/

/-- A byte string is read back from its symbols. -/
theorem symbolsToBytes_bytesToSymbols (bs : Bytes) : symbolsToBytes (bytesToSymbols bs) = .ok bs :=
  (symbolsToBytes_eq_ok_iff _ _).mpr (symbolBits_bytesToSymbols bs)

/-- Byte strings are told apart by their symbols. -/
theorem bytesToSymbols_inj {bs cs : Bytes} (h : bytesToSymbols bs = bytesToSymbols cs) :
    bs = cs := by
  have hread := congrArg symbolsToBytes h
  rw [symbolsToBytes_bytesToSymbols, symbolsToBytes_bytesToSymbols] at hread
  exact Except.ok.inj hread

/-- Symbols that give bytes are the symbols of these bytes. -/
theorem bytesToSymbols_of_symbolsToBytes {ss : List Symbol} {bs : Bytes}
    (h : symbolsToBytes ss = .ok bs) : bytesToSymbols bs = ss := by
  obtain ⟨pad, hpad, hbits⟩ := (symbolsToBytes_eq_ok_iff ss bs).mp h
  obtain ⟨pad', hpad', hbits'⟩ := symbolBits_bytesToSymbols bs
  -- Both fill up to a multiple of five, and there is only one below the next.
  have hlen := congrArg List.length hbits
  have hlen' := congrArg List.length hbits'
  simp only [List.length_append, length_symbolBits, length_bits, List.length_replicate]
    at hlen hlen'
  have hsame : pad' = pad := by omega
  apply symbolBits_inj
  rw [hbits, hbits', hsame]

end CashAddr

end BitcoinCash
