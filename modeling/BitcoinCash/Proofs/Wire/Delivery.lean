import BitcoinCash.Proofs.Wire.RoundTrip
import Mathlib.Data.List.Forall2

/-! # Sources that hold a byte string

  A source hands its bytes over in pieces of any size, and it may interrupt in between. None of this
  can be seen in what is read from it.

  - **`ByteSource.Holds`** says that a source hands over a byte string and then ends. Nothing is
    said about the pieces, and they need not be the same when a call is repeated.
  - **`Agree`** compares the outcome on such a source with the one on the byte string itself, and
    **`Reading.Matches`** says so of a computation. It is kept by `>>=`, so what has to be shown for
    every reader is shown for **`getBytes`** alone (`agree_getBytes`).
  - **`Piecewise.GivesAll.holds`**: a piecewise source is of this kind, if its only fault is an
    interruption.
  - **`Wire.readRequests_of_holds`** is the main statement, about any number of values of any
    kinds, read one after another, and the reading may go on after a failure.
-/

namespace BitcoinCash

/-! ## Holding a byte string -/

namespace ByteSource

variable {σ : Type} [ByteSource σ]

/-- **What is left in a source**, as a relation that every call keeps. A source may cut the bytes
    into any pieces and interrupt in between, and which pieces these are may change from call to
    call. -/
structure Delivers (Left : σ → Bytes → Prop) : Prop where
  /-- What is handed over is taken off the front of what is left. -/
  handed_over : ∀ {s bs n piece s'}, Left s bs → ByteSource.read n s = (.delivered piece, s') →
    ∃ rest, bs = piece ++ rest ∧ Left s' rest
  /-- Who asks for something gets nothing only at the end. -/
  some_piece : ∀ {s bs n s'}, Left s bs → n ≠ 0 → ByteSource.read n s = (.delivered [], s') →
    bs = []
  /-- There are no faults but interruptions, and nothing is lost by them. -/
  only_interrupted : ∀ {s bs n fault s'}, Left s bs →
    ByteSource.read n s = (.failed fault, s') → fault = .interrupted ∧ Left s' bs

/-- **The source holds a byte string**: it hands over these bytes in order, in some pieces, and
    then it ends. -/
def Holds (s : σ) (bs : Bytes) : Prop :=
  ∃ Left : σ → Bytes → Prop, Delivers Left ∧ Left s bs

/-- Holding a byte string is kept by every call, too. -/
theorem delivers_holds : Delivers (Holds (σ := σ)) where
  handed_over := by
    intro s bs n piece s' h hread
    obtain ⟨Left, hkeeps, hs⟩ := h
    obtain ⟨rest, hbs, hs'⟩ := hkeeps.handed_over hs hread
    exact ⟨rest, hbs, Left, hkeeps, hs'⟩
  some_piece := by
    intro s bs n s' h hn hread
    obtain ⟨Left, hkeeps, hs⟩ := h
    exact hkeeps.some_piece hs hn hread
  only_interrupted := by
    intro s bs n fault s' h hread
    obtain ⟨Left, hkeeps, hs⟩ := h
    obtain ⟨hfault, hs'⟩ := hkeeps.only_interrupted hs hread
    exact ⟨hfault, Left, hkeeps, hs'⟩

end ByteSource

open ByteSource (Holds delivers_holds)

/-! ## Outcomes that agree -/

section Agree

variable {σ α β : Type} [ByteSource σ]

/-- **The outcome on a source agrees** with the outcome on a byte string: the results are the same,
    and the source holds what is left of the byte string. -/
def Agree (outcome : Except WireError α × σ) (outcome' : Except WireError α × Bytes) : Prop :=
  outcome.1 = outcome'.1 ∧ Holds outcome.2 outcome'.2

/-- **Two computations match** if they agree on each source and the byte string that it holds. -/
def Reading.Matches (x : Reading σ α) (y : Reading Bytes α) : Prop :=
  ∀ s bs, Holds s bs → Agree (x.run s) (y.run bs)

theorem Reading.Matches.pure (a : α) : Matches (σ := σ) (pure a) (pure a) := fun _ _ h => ⟨rfl, h⟩

theorem Reading.Matches.throw (e : WireError) :
    Matches (σ := σ) (α := α) (throw e) (throw e) := fun _ _ h => ⟨rfl, h⟩

/-- Steps that match do so in a row. -/
theorem Reading.Matches.bind {x : Reading σ α} {y : Reading Bytes α} {f : α → Reading σ β}
    {g : α → Reading Bytes β} (hxy : Matches x y) (hfg : ∀ a, Matches (f a) (g a)) :
    Matches (x >>= f) (y >>= g) := by
  intro s bs h
  obtain ⟨hresult, hleft⟩ := hxy s bs h
  rcases hx : x.run s with ⟨result, s'⟩
  rcases hy : y.run bs with ⟨result', rest⟩
  rw [hx, hy] at hresult hleft
  change result = result' at hresult
  subst hresult
  cases result with
  | ok a =>
    rw [run_bind_ok hx, run_bind_ok hy]
    exact hfg a s' rest hleft
  | error e =>
    rw [run_bind_error hx, run_bind_error hy]
    exact ⟨rfl, hleft⟩

end Agree

/-! ## Reading -/

/-- A byte string gives the bytes at its front, and then what the rest of it gives. -/
theorem getBytes_append {n : Nat} {piece : Bytes} (hle : piece.length ≤ n) (rest : Bytes) :
    getBytes n (piece ++ rest) =
      ((getBytes (n - piece.length) rest).1.map (piece ++ ·),
        (getBytes (n - piece.length) rest).2) := by
  rw [getBytes_bytes, getBytes_bytes, List.length_append]
  by_cases henough : n - piece.length ≤ rest.length
  · rw [if_pos henough, if_pos (by omega), List.take_append, List.drop_append,
      List.take_of_length_le hle, List.drop_of_length_le hle]
    rfl
  · rw [if_neg henough, if_neg (by omega)]
    rfl

section Reading

variable {σ : Type} [ByteSource σ]

/-- A piece that is handed over is the front of what is asked for. -/
theorem agree_of_piece {n : Nat} {s s' : σ} {bs piece : Bytes}
    {outcome : Except WireError Bytes × σ}
    (h : Holds s bs) (hread : ByteSource.read n s = (.delivered piece, s'))
    (hrest : ∀ {rest}, Holds s' rest → Agree outcome (getBytes (n - piece.length) rest)) :
    Agree (outcome.1.map (piece ++ ·), outcome.2) (getBytes n bs) := by
  obtain ⟨rest, hbs, hs'⟩ := delivers_holds.handed_over h hread
  obtain ⟨hresult, hleft⟩ := hrest hs'
  rw [hbs, getBytes_append (ByteSource.read_le hread), ← hresult]
  exact ⟨rfl, hleft⟩

/-- **Asking again until there are enough bytes** hides the pieces and the interruptions. -/
theorem agree_getBytes (n : Nat) {s : σ} {bs : Bytes} (h : Holds s bs) :
    Agree (getBytes n s) (getBytes n bs) := by
  -- The induction is on the calls; each of them leaves less to ask for or fewer interruptions.
  fun_induction getBytes n s generalizing bs with
  | case1 s =>
    rw [getBytes_bytes, if_pos (Nat.zero_le _)]
    exact ⟨rfl, h⟩
  | case2 n s hn s' hread =>
    -- Nothing is handed over, so nothing was left.
    have hnil := delivers_holds.some_piece h hn hread
    obtain ⟨rest, hbs, hs'⟩ := delivers_holds.handed_over h hread
    have hrest : rest = [] := hbs.symm.trans hnil
    have hmissing : getBytes n ([] : Bytes) = (.error .truncatedInput, []) :=
      Reading.run_bytes_of_lt (Nat.pos_of_ne_zero hn)
    rw [hrest] at hs'
    rw [hnil, hmissing]
    exact ⟨rfl, hs'⟩
  | case3 n s hn b piece s' hread more s'' hmore ih =>
    rw [hmore] at ih
    exact agree_of_piece h hread ih
  | case4 n s hn b piece s' hread e s'' hmore ih =>
    rw [hmore] at ih
    exact agree_of_piece h hread ih
  | case5 n s hn s' hread ih => exact ih (delivers_holds.only_interrupted h hread).2
  | case6 n s hn f s' hfault hread =>
    exact absurd (delivers_holds.only_interrupted h hread).1 hfault

theorem matches_bytes (n : Nat) : Reading.Matches (σ := σ) (Reading.bytes n) (Reading.bytes n) :=
  fun _ _ h => agree_getBytes n h

theorem matches_byte : Reading.Matches (σ := σ) Reading.byte Reading.byte :=
  (matches_bytes 1).bind fun bs => .pure (bs.headD 0)

theorem matches_checkWidth (declared : Nat) (n : UInt64) :
    Reading.Matches (σ := σ) (CompactSize.checkWidth declared n)
      (CompactSize.checkWidth declared n) := by
  unfold CompactSize.checkWidth
  by_cases hnarrow : CompactSize.width n < declared
  · rw [if_pos hnarrow, if_pos hnarrow]
    exact .throw _
  · rw [if_neg hnarrow, if_neg hnarrow]
    exact .pure n

theorem matches_compactSize : Reading.Matches (σ := σ) CompactSize.read CompactSize.read := by
  rw [CompactSize.read_eq, CompactSize.read_eq]
  refine matches_byte.bind fun first => ?_
  by_cases hmarked : 1 < CompactSize.widthOfFirst first
  · rw [if_pos hmarked, if_pos hmarked]
    exact (matches_bytes _).bind fun body => matches_checkWidth _ _
  · rw [if_neg hmarked, if_neg hmarked]
    exact matches_checkWidth _ _

theorem matches_readUInt64 : Reading.Matches (σ := σ) Wire.readUInt64 Wire.readUInt64 :=
  (matches_bytes 8).bind fun _ => .pure _

theorem matches_readInt64 : Reading.Matches (σ := σ) Wire.readInt64 Wire.readInt64 :=
  matches_readUInt64.bind fun n => .pure n.toInt64

theorem matches_readVector : Reading.Matches (σ := σ) Wire.readVector Wire.readVector := by
  refine matches_compactSize.bind fun declared => ?_
  by_cases hlimit : Wire.maxVectorLength < declared
  · rw [if_pos hlimit, if_pos hlimit]
    exact .throw _
  · rw [if_neg hlimit, if_neg hlimit]
    exact matches_bytes _

theorem matches_script : Reading.Matches (σ := σ) Script.read Script.read :=
  matches_readVector.bind fun bs => .pure (Script.mk bs)

theorem matches_txOut : Reading.Matches (σ := σ) TxOut.read TxOut.read :=
  matches_readInt64.bind fun value => matches_script.bind fun script =>
    .pure (TxOut.new value script)

end Reading

/-! ## What a source holds -/

namespace ByteSource.Holds

variable {σ : Type} [ByteSource σ] {s : σ} {bs bs' : Bytes}

/-- A source that holds a byte string gives no more than that. -/
theorem length_le (h : Holds s bs) (h' : Holds s bs') : bs.length ≤ bs'.length := by
  have hall := (agree_getBytes bs.length h).1
  have hall' := (agree_getBytes bs.length h').1
  rw [hall, getBytes_bytes, getBytes_bytes, if_pos (Nat.le_refl _)] at hall'
  by_cases hle : bs.length ≤ bs'.length
  · exact hle
  · rw [if_neg hle] at hall'
    cases hall'

/-- **A source holds one byte string.** -/
theorem unique (h : Holds s bs) (h' : Holds s bs') : bs = bs' := by
  have hlen : bs.length = bs'.length := Nat.le_antisymm (h.length_le h') (h'.length_le h)
  have hall := (agree_getBytes bs.length h).1
  have hall' := (agree_getBytes bs.length h').1
  rw [hall, getBytes_bytes, getBytes_bytes, if_pos (Nat.le_refl _), if_pos (Nat.le_of_eq hlen),
    List.take_length, hlen, List.take_length] at hall'
  cases hall'
  rfl

end ByteSource.Holds

namespace Piecewise

variable {p p' : Piecewise} {n : Nat}

theorem handOver_eq_delivered {piece : Bytes} (h : p.handOver n = (.delivered piece, p')) :
    piece = p.rest.take (p.allowance n) ∧
      p' = { p with
        rest := p.rest.drop (p.allowance n), consumed := p.consumed + piece.length } := by
  cases h
  exact ⟨rfl, rfl⟩

/-- What is handed over is the front of what is left, and no fault is due. -/
theorem read_eq_delivered {piece : Bytes} (h : ByteSource.read n p = (.delivered piece, p')) :
    piece = p.rest.take (p.allowance n) ∧
      p' = { p with rest := p.rest.drop (p.allowance n), consumed := p.consumed + piece.length } ∧
      ∀ position fault, p.pending = some (position, fault) → p.consumed < position := by
  change p.read n = _ at h
  unfold read at h
  split at h
  · next position fault hpending =>
    by_cases hdue : position ≤ p.consumed
    · rw [if_pos hdue] at h
      cases h
    · rw [if_neg hdue] at h
      obtain ⟨hpiece, hp'⟩ := handOver_eq_delivered h
      refine ⟨hpiece, hp', fun position' fault' h' => ?_⟩
      rw [hpending] at h'
      cases h'
      omega
  · next hnone =>
    obtain ⟨hpiece, hp'⟩ := handOver_eq_delivered h
    refine ⟨hpiece, hp', fun position fault h' => ?_⟩
    rw [hnone] at h'
    cases h'

/-- The fault is the one that was to come, and nothing is lost by it. -/
theorem read_eq_failed {fault : Fault} (h : ByteSource.read n p = (.failed fault, p')) :
    ∃ position, p.pending = some (position, fault) ∧ p' = { p with pending := none } := by
  change p.read n = _ at h
  unfold read at h
  split at h
  · next position fault' hpending =>
    by_cases hdue : position ≤ p.consumed
    · rw [if_pos hdue] at h
      cases h
      exact ⟨position, hpending, rfl⟩
    · rw [if_neg hdue] at h
      cases h
  · cases h

/-- Who asks for something is allowed something, unless a fault is due. -/
theorem allowance_pos (hchunk : p.chunk ≠ some 0)
    (hposition : ∀ position fault, p.pending = some (position, fault) → p.consumed < position)
    (hn : 0 < n) : 0 < p.allowance n := by
  have hsome : ∀ c, p.chunk = some c → 0 < min n c := by
    intro c hc
    have hne : c ≠ 0 := fun hzero => hchunk (hzero ▸ hc)
    omega
  have hroom : ∀ position fault, p.pending = some (position, fault) → 0 < position - p.consumed :=
    fun position fault h => Nat.sub_pos_of_lt (hposition position fault h)
  unfold allowance
  cases hc : p.chunk with
  | none =>
    cases hp : p.pending with
    | none => exact hn
    | some fault => exact Nat.lt_min.mpr ⟨hn, hroom _ _ hp⟩
  | some c =>
    cases hp : p.pending with
    | none => exact hsome c hc
    | some fault => exact Nat.lt_min.mpr ⟨hsome c hc, hroom _ _ hp⟩

/-- **A source that gives all its bytes**: its pieces have a byte or more, and the fault that is
    still to come, if any, is an interruption. -/
structure GivesAll (p : Piecewise) : Prop where
  /-- No piece is empty by design. -/
  chunk_ne_zero : p.chunk ≠ some 0
  /-- The fault is one after which a call is made again. -/
  interrupted : ∀ position fault, p.pending = some (position, fault) → fault = .interrupted

/-- A call that hands something over makes no difference to this. -/
theorem GivesAll.of_delivered {piece : Bytes} (h : p.GivesAll)
    (hread : ByteSource.read n p = (.delivered piece, p')) : p'.GivesAll := by
  obtain ⟨-, hp', -⟩ := read_eq_delivered hread
  rw [hp']
  exact ⟨h.chunk_ne_zero, h.interrupted⟩

/-- **A piecewise source that gives all its bytes** holds those that are left. -/
theorem GivesAll.holds (h : p.GivesAll) : Holds p p.rest := by
  refine ⟨fun p bs => p.rest = bs ∧ p.GivesAll, ⟨?_, ?_, ?_⟩, rfl, h⟩
  · intro p bs n piece p' hp hread
    obtain ⟨hbs, hall⟩ := hp
    obtain ⟨hpiece, hp', -⟩ := read_eq_delivered hread
    refine ⟨p.rest.drop (p.allowance n), ?_, ?_, hall.of_delivered hread⟩
    · rw [← hbs, hpiece, List.take_append_drop]
    · rw [hp']
  · -- Nothing is handed over, although something is allowed.
    intro p bs n p' hp hn hread
    obtain ⟨hbs, hall⟩ := hp
    obtain ⟨hpiece, -, hposition⟩ := read_eq_delivered hread
    have hallowed := allowance_pos hall.chunk_ne_zero hposition (Nat.pos_of_ne_zero hn)
    rw [eq_comm, List.take_eq_nil_iff] at hpiece
    rw [← hbs]
    exact hpiece.resolve_left (Nat.ne_of_gt hallowed)
  · intro p bs n fault p' hp hread
    obtain ⟨hbs, hall⟩ := hp
    obtain ⟨position, hfault, hp'⟩ := read_eq_failed hread
    subst hp'
    exact ⟨hall.interrupted _ _ hfault, hbs, hall.chunk_ne_zero, fun position fault h => nomatch h⟩

end Piecewise

/-! ## Many readings in a row -/

namespace Wire

/-- What can be asked of a reader. -/
inductive Request
  /-- A number as a compact size. -/
  | compactSize
  /-- An unsigned integer. -/
  | uint64
  /-- A signed integer. -/
  | int64
  /-- A byte vector. -/
  | vector
  /-- A script. -/
  | script
  /-- An output. -/
  | output

/-- What a reader answers. -/
inductive Answer
  /-- A number. -/
  | number (n : UInt64)
  /-- A signed number. -/
  | signed (v : Int64)
  /-- The bytes of a byte vector. -/
  | bytes (bs : Bytes)
  /-- A script. -/
  | script (s : Script)
  /-- An output. -/
  | output (out : TxOut)

section Requests

variable {σ : Type} [ByteSource σ]

/-- Reads what is asked for. -/
def Request.read : Request → Reading σ Answer
  | .compactSize => do return .number (← CompactSize.read)
  | .uint64 => do return .number (← readUInt64)
  | .int64 => do return .signed (← readInt64)
  | .vector => do return .bytes (← readVector)
  | .script => do return .script (← Script.read)
  | .output => do return .output (← TxOut.read)

/-- Reads one thing after another, each from where the one before it has stopped, be that a success
    or not. Every outcome is noted: the result, and the source as it is then. -/
def readRequests : List Request → σ → List (Except WireError Answer × σ)
  | [], _ => []
  | request :: requests, s =>
    request.read.run s :: readRequests requests (request.read.run s).2

/-- **One reading** does not depend on the pieces. -/
theorem matches_request (request : Request) : Reading.Matches (σ := σ) request.read request.read :=
  match request with
  | .compactSize => matches_compactSize.bind fun n => .pure (Answer.number n)
  | .uint64 => matches_readUInt64.bind fun n => .pure (Answer.number n)
  | .int64 => matches_readInt64.bind fun v => .pure (Answer.signed v)
  | .vector => matches_readVector.bind fun bs => .pure (Answer.bytes bs)
  | .script => matches_script.bind fun s => .pure (Answer.script s)
  | .output => matches_txOut.bind fun out => .pure (Answer.output out)

/-- **Many readings** agree one by one. -/
theorem agree_readRequests (requests : List Request) {s : σ} {bs : Bytes} (h : Holds s bs) :
    List.Forall₂ Agree (readRequests requests s) (readRequests requests bs) := by
  induction requests generalizing s bs with
  | nil => exact .nil
  | cons request requests ih =>
    have hone := matches_request request s bs h
    exact .cons hone (ih hone.2)

/-- **How a byte string is delivered makes no difference** to what is read from it. Whatever is
    asked for, in whatever order, each result is the one that the byte string gives. After each of
    them the source holds exactly what is left of the byte string, so as many bytes have been
    taken. -/
theorem readRequests_of_holds {s : σ} {bs : Bytes} (h : Holds s bs) (requests : List Request) :
    (readRequests requests s).map Prod.fst = (readRequests requests bs).map Prod.fst ∧
      List.Forall₂ (fun after after' => ∀ rest, Holds after.2 rest ↔ rest = after'.2)
        (readRequests requests s) (readRequests requests bs) := by
  have hagree := agree_readRequests requests h
  constructor
  · rw [← List.forall₂_eq_eq_eq, List.forall₂_map_left_iff, List.forall₂_map_right_iff]
    exact hagree.imp fun _ _ hone => hone.1
  · refine hagree.imp fun after after' hone rest => ⟨fun hrest => hrest.unique hone.2, ?_⟩
    intro hrest
    rw [hrest]
    exact hone.2

/-- Single bytes, and an interruption after the third one. The reading goes on after a refusal,
    behind the length that is refused. -/
theorem readRequests_of_holds_single :
    (readRequests [.compactSize, .compactSize, .vector, .uint64]
        (Piecewise.ofBytes [0x05, 0xfd, 0x05, 0x00, 0x02, 0xaa, 0xbb, 0x01] (some 1)
          (some (3, .interrupted)))).map Prod.fst =
      [.ok (.number 5), .error (.protocolViolation (.nonMinimal 5 3)), .ok (.bytes [0xaa, 0xbb]),
        .error .truncatedInput] := by
  have hholds : Holds (Piecewise.ofBytes [0x05, 0xfd, 0x05, 0x00, 0x02, 0xaa, 0xbb, 0x01] (some 1)
      (some (3, .interrupted))) [0x05, 0xfd, 0x05, 0x00, 0x02, 0xaa, 0xbb, 0x01] := by
    refine Piecewise.GivesAll.holds ⟨by decide, fun position fault h => ?_⟩
    cases h
    rfl
  have hbytes : ∀ n, Reading.bytes n = ExceptT.mk fun bs : Bytes =>
      if n ≤ bs.length then (.ok (bs.take n), bs.drop n) else (.error .truncatedInput, []) :=
    fun n => congrArg ExceptT.mk (funext (getBytes_bytes n))
  rw [(readRequests_of_holds hholds _).1]
  simp only [readRequests, Request.read, CompactSize.read, readVector, readUInt64, Reading.byte,
    hbytes]
  rfl

end Requests

end Wire

end BitcoinCash
