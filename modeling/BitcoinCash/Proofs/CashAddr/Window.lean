import BitcoinCash.Proofs.CashAddr.Padding
import Mathlib.Data.Set.Function

/-! # Bytes and symbols, one at a time

  Repacking takes in one byte, or one symbol, after another. In between, something has been written,
  and the lowest bits of the window wait to be written.

  - **`Progress`** is a point of a run. What has been written there, and the answer for the rest that
    starts from the window, make up the answer for everything (`symbols_packed`, `bytes_unpacked`).
  - **`Progress.Holds`** is the invariant: what has been written and the bits that wait are the bits
    that have been read. One more byte, or symbol, keeps it for every window that has room for twelve
    bits (`Holds.takeByte`, `Holds.takeSymbol`).
  - **The bits above** those that wait are never looked at (`symbolsFrom_congr`, `bytesFrom_congr`),
    so that a window which forgets nothing gives the same answers.
  - **`bijOn_bytesToSymbols`** is the main statement.
-/

namespace BitcoinCash.CashAddr

/-! ## Points of a run -/

/-- A way for a window to take in `width` more bits, which are the number `value`. -/
abbrev Push := (window width value : Nat) → Nat

/-- A point of a run. -/
structure Progress (α : Type) where
  /-- What has been written. -/
  written : List α
  /-- The window. -/
  window : Nat
  /-- The count of its lowest bits that wait to be written. -/
  waiting : Nat

namespace Progress

/-- Nothing has been read. -/
def start {α : Type} : Progress α := ⟨[], 0, 0⟩

/-- The point after one more byte. -/
def takeByte (push : Push) (p : Progress Symbol) (b : UInt8) : Progress Symbol :=
  let window := push p.window 8 b.toNat
  ⟨p.written ++ takeSymbols window (p.waiting + 8), window, (p.waiting + 8) % 5⟩

/-- The point after one more symbol. -/
def takeSymbol (push : Push) (p : Progress UInt8) (s : Symbol) : Progress UInt8 :=
  let window := push p.window 5 s.toNat
  if 8 ≤ p.waiting + 5 then
    ⟨p.written ++ [UInt8.ofNat (window >>> (p.waiting + 5 - 8))], window, p.waiting + 5 - 8⟩
  else ⟨p.written, window, p.waiting + 5⟩

/-- The symbols of everything if `rest` is still to be read. -/
def symbols (p : Progress Symbol) (rest : Bytes) : List Symbol :=
  p.written ++ symbolsFrom p.window p.waiting rest

/-- The bytes of everything if `rest` is still to be read. -/
def bytes (p : Progress UInt8) (rest : List Symbol) : Except AddressError Bytes :=
  (bytesFrom p.window p.waiting rest).map (p.written ++ ·)

theorem symbols_takeByte (p : Progress Symbol) (b : UInt8) (rest : Bytes) :
    (p.takeByte pushBits b).symbols rest = p.symbols (b :: rest) := by
  rw [symbols, symbols, symbolsFrom, ← List.append_assoc]
  rfl

theorem bytes_takeSymbol (p : Progress UInt8) (s : Symbol) (rest : List Symbol) :
    (p.takeSymbol pushBits s).bytes rest = p.bytes (s :: rest) := by
  rw [bytes, bytes, takeSymbol, bytesFrom.eq_def _ _ (s :: rest)]
  dsimp only
  split
  · -- The byte that is written is the next one of the answer.
    cases bytesFrom (pushBits p.window 5 s.toNat) (p.waiting + 5 - 8) rest with
    | error e => rfl
    | ok bs => simp [Except.map]
  · rfl

end Progress

/-- The point at which the bytes have been read. -/
def packed (push : Push) (bs : Bytes) : Progress Symbol :=
  bs.foldl (Progress.takeByte push) .start

/-- The point at which the symbols have been read. -/
def unpacked (push : Push) (ss : List Symbol) : Progress UInt8 :=
  ss.foldl (Progress.takeSymbol push) .start

theorem packed_append_singleton (push : Push) (bs : Bytes) (b : UInt8) :
    packed push (bs ++ [b]) = (packed push bs).takeByte push b :=
  List.foldl_concat ..

theorem unpacked_append_singleton (push : Push) (ss : List Symbol) (s : Symbol) :
    unpacked push (ss ++ [s]) = (unpacked push ss).takeSymbol push s :=
  List.foldl_concat ..

/-- **Every run from bytes to symbols** passes through these points. -/
theorem symbols_packed (front back : Bytes) :
    (packed pushBits front).symbols back = bytesToSymbols (front ++ back) := by
  induction front using List.reverseRecOn generalizing back with
  | nil => rfl
  | append_singleton front b ih =>
    rw [packed_append_singleton, Progress.symbols_takeByte, ih, List.append_assoc]
    rfl

/-- **Every run from symbols to bytes** passes through these points. -/
theorem bytes_unpacked (front back : List Symbol) :
    (unpacked pushBits front).bytes back = symbolsToBytes (front ++ back) := by
  induction front using List.reverseRecOn generalizing back with
  | nil =>
    show (bytesFrom 0 0 back).map ([] ++ ·) = bytesFrom 0 0 back
    cases bytesFrom 0 0 back <;> rfl
  | append_singleton front s ih =>
    rw [unpacked_append_singleton, Progress.bytes_takeSymbol, ih, List.append_assoc]
    rfl

/-! ## What has been read and not written -/

/-- A window with room for twelve bits: if no more than that are needed, the bits that waited and the
    new bits are its lowest ones. -/
def HoldsTwelve (push : Push) : Prop :=
  ∀ {waiting width value : Nat}, waiting + width ≤ 12 → value < 2 ^ width → ∀ window,
    bitsOf (waiting + width) (push window width value) =
      bitsOf waiting window ++ bitsOf width value

theorem holdsTwelve_pushBits : HoldsTwelve pushBits :=
  fun hroom hvalue window => bitsOf_pushBits hroom hvalue window

theorem holdsTwelve_appendBits : HoldsTwelve appendBits :=
  fun _ hvalue window => bitsOf_appendBits hvalue window _

namespace Progress

/-- **No bit is missing**: the bits of what has been written, and then the bits that wait, are `bits`.
    Fewer bits wait than the next byte or symbol to be written has. -/
structure Holds {α : Type} (spell : List α → List Bool) (width : Nat) (bits : List Bool)
    (p : Progress α) : Prop where
  /-- Fewer than `width` bits wait. -/
  waiting_lt : p.waiting < width
  /-- What has been written and what waits is `bits`. -/
  bits_eq : spell p.written ++ bitsOf p.waiting p.window = bits

section Steps

variable {push : Push}

/-- One more byte: at most four bits wait for it. -/
theorem Holds.takeByte (hpush : HoldsTwelve push) {bits : List Bool} {p : Progress Symbol}
    (h : p.Holds symbolBits 5 bits) (b : UInt8) :
    (p.takeByte push b).Holds symbolBits 5 (bits ++ bitsOf 8 b.toNat) where
  waiting_lt := Nat.mod_lt _ (by decide)
  bits_eq := by
    have hroom : p.waiting + 8 ≤ 12 := by
      have hlt := h.waiting_lt
      omega
    show symbolBits (p.written ++ takeSymbols (push p.window 8 b.toNat) (p.waiting + 8)) ++
      bitsOf ((p.waiting + 8) % 5) (push p.window 8 b.toNat) = _
    rw [symbolBits_append, List.append_assoc, symbolBits_takeSymbols, hpush hroom b.toNat_lt,
      ← List.append_assoc, h.bits_eq]

/-- One more symbol: at most seven bits wait for it. -/
theorem Holds.takeSymbol (hpush : HoldsTwelve push) {bits : List Bool} {p : Progress UInt8}
    (h : p.Holds Bytes.bits 8 bits) (s : Symbol) :
    (p.takeSymbol push s).Holds Bytes.bits 8 (bits ++ bitsOf 5 s.toNat) := by
  have hlt := h.waiting_lt
  have hread : Bytes.bits p.written ++ bitsOf (p.waiting + 5) (push p.window 5 s.toNat) =
      bits ++ bitsOf 5 s.toNat := by
    rw [hpush (by omega) s.isLt, ← List.append_assoc, h.bits_eq]
  unfold Progress.takeSymbol
  dsimp only
  split
  · -- A whole byte is written, and what is behind it waits.
    obtain ⟨left, hleft⟩ : ∃ left, p.waiting + 5 = 8 + left := ⟨p.waiting + 5 - 8, by omega⟩
    have hsub : p.waiting + 5 - 8 = left := by omega
    rw [hleft, bitsOf_add] at hread
    rw [hsub]
    refine ⟨by show left < 8; omega, ?_⟩
    rw [← hread, bits_append, bits_cons, bits_nil, List.append_nil, bitsOf_toNat_ofNat_byte,
      List.append_assoc]
  · exact ⟨by show p.waiting + 5 < 8; omega, hread⟩

end Steps

/-- The same has been written, and the same bits wait. -/
def Agrees {α : Type} (p q : Progress α) : Prop :=
  p.written = q.written ∧ p.waiting = q.waiting ∧
    bitsOf p.waiting p.window = bitsOf q.waiting q.window

/-- **The invariant leaves no choice**: how many bits wait is their count modulo the width. -/
theorem Holds.agrees {α : Type} {spell : List α → List Bool} {width : Nat}
    (hlength : ∀ as, (spell as).length = width * as.length)
    (hinj : ∀ {as bs}, spell as = spell bs → as = bs) {bits : List Bool} {p q : Progress α}
    (hp : p.Holds spell width bits) (hq : q.Holds spell width bits) : p.Agrees q := by
  have hbits := hp.bits_eq.trans hq.bits_eq.symm
  have hlen : width * p.written.length + p.waiting = width * q.written.length + q.waiting := by
    have hcount := congrArg List.length hbits
    simpa only [List.length_append, hlength, length_bitsOf] using hcount
  have hwaiting : p.waiting = q.waiting := by
    have hmod := congrArg (· % width) hlen
    simpa only [Nat.mul_add_mod, Nat.mod_eq_of_lt hp.waiting_lt,
      Nat.mod_eq_of_lt hq.waiting_lt] using hmod
  obtain ⟨hwritten, hrest⟩ := List.append_inj' hbits (by rw [length_bitsOf, length_bitsOf, hwaiting])
  exact ⟨hinj hwritten, hwaiting, hrest⟩

end Progress

open Progress

section Runs

variable {push : Push}

/-- **At no point of a run** from bytes to symbols is a bit missing. -/
theorem holds_packed (hpush : HoldsTwelve push) (bs : Bytes) :
    (packed push bs).Holds symbolBits 5 bs.bits := by
  induction bs using List.reverseRecOn with
  | nil => exact ⟨Nat.zero_lt_succ 4, rfl⟩
  | append_singleton bs b ih =>
    rw [packed_append_singleton, bits_append, bits_cons, bits_nil, List.append_nil]
    exact ih.takeByte hpush b

/-- **At no point of a run** from symbols to bytes is a bit missing. -/
theorem holds_unpacked (hpush : HoldsTwelve push) (ss : List Symbol) :
    (unpacked push ss).Holds Bytes.bits 8 (symbolBits ss) := by
  induction ss using List.reverseRecOn with
  | nil => exact ⟨Nat.zero_lt_succ 7, rfl⟩
  | append_singleton ss s ih =>
    rw [unpacked_append_singleton, symbolBits_append, symbolBits_cons, symbolBits_nil,
      List.append_nil]
    exact ih.takeSymbol hpush s

end Runs

/-! ## Another window -/

/-- **Only the bits that wait are looked at** when bytes follow. -/
theorem symbolsFrom_congr {waiting : Nat} (hwaiting : waiting < 5) {window window' : Nat}
    (h : bitsOf waiting window = bitsOf waiting window') (rest : Bytes) :
    symbolsFrom window waiting rest = symbolsFrom window' waiting rest := by
  obtain ⟨pad, hpad, hbits⟩ := symbolBits_symbolsFrom hwaiting window rest
  obtain ⟨pad', hpad', hbits'⟩ := symbolBits_symbolsFrom hwaiting window' rest
  -- Both are filled up to a multiple of five bits.
  have hlen := congrArg List.length hbits
  have hlen' := congrArg List.length hbits'
  simp only [List.length_append, length_symbolBits, length_bitsOf, length_bits,
    List.length_replicate] at hlen hlen'
  have hsame : pad = pad' := by omega
  apply symbolBits_inj
  rw [hbits, hbits', h, hsame]

/-- **Only the bits that wait are looked at** when symbols follow. -/
theorem bytesFrom_congr {waiting : Nat} (hwaiting : waiting < 8) {window window' : Nat}
    (h : bitsOf waiting window = bitsOf waiting window') (rest : List Symbol) :
    bytesFrom window waiting rest = bytesFrom window' waiting rest := by
  have hok : ∀ bs,
      bytesFrom window waiting rest = .ok bs ↔ bytesFrom window' waiting rest = .ok bs := by
    intro bs
    rw [bytesFrom_eq_ok_iff hwaiting, bytesFrom_eq_ok_iff hwaiting, h]
  cases hread : bytesFrom window waiting rest with
  | ok bs => exact ((hok bs).mp hread).symm
  | error e =>
    cases hread' : bytesFrom window' waiting rest with
    | ok bs =>
      rw [(hok bs).mpr hread'] at hread
      cases hread
    | error e' =>
      -- Which failure it is depends on the count of the bits alone.
      rw [error_of_bytesFrom hwaiting hread, error_of_bytesFrom hwaiting hread']

/-- Points that agree have the same answers before them. -/
theorem symbols_of_agrees {p q : Progress Symbol} (hp : p.waiting < 5) (h : p.Agrees q)
    (rest : Bytes) : p.symbols rest = q.symbols rest := by
  obtain ⟨hwritten, hwaiting, hbits⟩ := h
  rw [← hwaiting] at hbits
  rw [symbols, symbols, hwritten, ← hwaiting, symbolsFrom_congr hp hbits]

theorem bytes_of_agrees {p q : Progress UInt8} (hp : p.waiting < 8) (h : p.Agrees q)
    (rest : List Symbol) : p.bytes rest = q.bytes rest := by
  obtain ⟨hwritten, hwaiting, hbits⟩ := h
  rw [← hwaiting] at hbits
  rw [bytes, bytes, hwritten, ← hwaiting, bytesFrom_congr hp hbits]

/-! ## The bijection -/

/-- Symbols stand for bytes exactly if their padding is zero. -/
theorem isZeroPadded_iff (ss : List Symbol) :
    IsZeroPadded ss ↔ ∃ bs, symbolsToBytes ss = .ok bs := by
  constructor
  · intro h
    obtain ⟨bs, -, hok⟩ := h.exists_bytes
    exact ⟨bs, hok⟩
  · rintro ⟨bs, hok⟩
    obtain ⟨pad, hpad, hbits⟩ := (symbolsToBytes_eq_ok_iff ss bs).mp hok
    have hleft := left_eq_of_symbolBits hpad hbits
    have hlen := congrArg List.length hbits
    rw [length_symbolBits, List.length_append, length_bits, List.length_replicate] at hlen
    have hwhole : 8 * (5 * ss.length / 8) = bs.bits.length := by
      rw [length_bits]
      omega
    refine ⟨by omega, ?_⟩
    rw [hleft, hwhole, hbits, List.drop_left]

/-- Symbols give bytes exactly if they are the symbols of these bytes. -/
theorem symbolsToBytes_eq_ok_iff_eq (ss : List Symbol) (bs : Bytes) :
    symbolsToBytes ss = .ok bs ↔ bytesToSymbols bs = ss := by
  constructor
  · exact bytesToSymbols_of_symbolsToBytes
  · rintro rfl
    exact symbolsToBytes_bytesToSymbols bs

/-- **Byte strings and symbols with zero padding stand for each other.**

    - The symbols of byte strings are all lists of symbols with zero padding, each of them once.
    - A byte string has one symbol for every five bits and one for the bits that are left. The
      symbols are below 32, and they spell the bits of the byte string and fewer than five zeros.
    - Symbols give a byte string exactly if they are its symbols.
    - At every point of a run, what has been written and the bits of the window that wait are the
      bits that have been read. There the window of twelve bits has the same bits waiting as a
      window that forgets nothing, and from there on both give the answer for everything. -/
theorem bijOn_bytesToSymbols :
    Set.BijOn bytesToSymbols Set.univ {ss | IsZeroPadded ss} ∧
    (∀ bs : Bytes,
      (bytesToSymbols bs).length = (8 * bs.length + 4) / 5 ∧
      (∀ v ∈ (bytesToSymbols bs).map Symbol.toByte, v < 32) ∧
      ∃ pad < 5, symbolBits (bytesToSymbols bs) = bs.bits ++ List.replicate pad false) ∧
    (∀ ss bs, symbolsToBytes ss = .ok bs ↔ bytesToSymbols bs = ss) ∧
    (∀ front back : Bytes,
      (packed pushBits front).Holds symbolBits 5 front.bits ∧
      (packed pushBits front).Agrees (packed appendBits front) ∧
      (packed pushBits front).symbols back = bytesToSymbols (front ++ back) ∧
      (packed appendBits front).symbols back = bytesToSymbols (front ++ back)) ∧
    ∀ front back : List Symbol,
      (unpacked pushBits front).Holds Bytes.bits 8 (symbolBits front) ∧
      (unpacked pushBits front).Agrees (unpacked appendBits front) ∧
      (unpacked pushBits front).bytes back = symbolsToBytes (front ++ back) ∧
      (unpacked appendBits front).bytes back = symbolsToBytes (front ++ back) := by
  refine ⟨⟨?_, ?_, ?_⟩, ?_, symbolsToBytes_eq_ok_iff_eq, ?_, ?_⟩
  · intro bs _
    exact (isZeroPadded_iff _).mpr ⟨bs, symbolsToBytes_bytesToSymbols bs⟩
  · intro bs _ cs _ hsame
    exact bytesToSymbols_inj hsame
  · intro ss hss
    obtain ⟨bs, hok⟩ := (isZeroPadded_iff ss).mp hss
    exact ⟨bs, Set.mem_univ bs, bytesToSymbols_of_symbolsToBytes hok⟩
  · intro bs
    refine ⟨?_, ?_, symbolBits_bytesToSymbols bs⟩
    · obtain ⟨pad, hpad, hcount⟩ := length_bytesToSymbols bs
      omega
    · intro v hv
      obtain ⟨s, -, rfl⟩ := List.mem_map.mp hv
      rw [UInt8.lt_iff_toNat_lt, toNat_toByte]
      exact s.isLt
  · intro front back
    have hmasked := holds_packed holdsTwelve_pushBits front
    have hagrees := hmasked.agrees length_symbolBits symbolBits_inj
      (holds_packed holdsTwelve_appendBits front)
    refine ⟨hmasked, hagrees, symbols_packed front back, ?_⟩
    rw [← symbols_of_agrees hmasked.waiting_lt hagrees, symbols_packed]
  · intro front back
    have hmasked := holds_unpacked holdsTwelve_pushBits front
    have hagrees := hmasked.agrees length_bits bits_inj
      (holds_unpacked holdsTwelve_appendBits front)
    refine ⟨hmasked, hagrees, bytes_unpacked front back, ?_⟩
    rw [← bytes_of_agrees hmasked.waiting_lt hagrees, bytes_unpacked]

/-- Two bytes are three symbols and one bit. The window has forgotten four of their bits, all of which
    have been written. -/
theorem bijOn_bytesToSymbols_two_bytes :
    bytesToSymbols [0xff, 0x01] = [31, 28, 0, 16] ∧
    (bytesToSymbols [0xff, 0x01]).length = 4 ∧
    symbolsToBytes [31, 28, 0, 16] = .ok [0xff, 0x01] ∧
    IsZeroPadded [31, 28, 0, 16] ∧ ¬IsZeroPadded [31, 28, 0, 17] ∧
    (packed pushBits [0xff, 0x01]).window = 0xf01 ∧
    (packed appendBits [0xff, 0x01]).window = 0xff01 ∧
    (packed pushBits [0xff, 0x01]).Agrees (packed appendBits [0xff, 0x01]) ∧
    (packed appendBits [0xff, 0x01]).symbols [] = [31, 28, 0, 16] := by
  obtain ⟨hbij, hspelled, hiff, hpacked, -⟩ := bijOn_bytesToSymbols
  have hsymbols : bytesToSymbols [0xff, 0x01] = [31, 28, 0, 16] := by decide +kernel
  have hpadded : bytesToSymbols [0xff, 0x01] ∈ {ss | IsZeroPadded ss} :=
    hbij.mapsTo (Set.mem_univ _)
  obtain ⟨-, hagrees, -, hunmasked⟩ := hpacked [0xff, 0x01] []
  rw [hsymbols] at hpadded
  refine ⟨hsymbols, (hspelled _).1, (hiff _ _).mpr hsymbols, hpadded, by decide, by decide,
    by decide, hagrees, ?_⟩
  rw [hunmasked, List.append_nil, hsymbols]

end BitcoinCash.CashAddr
