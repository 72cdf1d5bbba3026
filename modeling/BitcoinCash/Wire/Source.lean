import BitcoinCash.Wire.Error

/-! # Sources

  Where bytes are read from. One call asks for some bytes and gets fewer or as many, or a fault.

  - **`ByteSource`** is what is asked of a source: it never hands over more than was asked for, and
    it does not interrupt for ever.
  - **`getBytes`** asks again and again until it has all the bytes it needs. An interruption makes
    no difference; any other fault ends it, and so does a source that has nothing left.
  - **`Piecewise`** is a source that cuts a byte string into pieces and fails once at a given
    position.
-/

namespace BitcoinCash

/-- What one call to a source gives. -/
inductive Delivery
  /-- The next bytes; none if the source has ended. -/
  | delivered (bs : Bytes)
  /-- A fault. -/
  | failed (fault : Fault)
  deriving DecidableEq

/-- **A source of bytes** with states in `σ`. -/
class ByteSource (σ : Type) where
  /-- Asks for up to `n` bytes. -/
  read : (n : Nat) → σ → Delivery × σ
  /-- No more is handed over than was asked for. -/
  read_le : ∀ {n s bs s'}, read n s = (.delivered bs, s') → bs.length ≤ n
  /-- Interruptions come to an end. This only makes `getBytes` return, which asks again after each of
      them. A run that returns has met a finite number of interruptions, so it is also a run with a
      source that answers these calls alike and interrupts none after them. -/
  interruptions_end : WellFounded fun s' s => ∃ n, read n s = (.failed .interrupted, s')

/-- A state of a source, seen as one that may interrupt a few more times. -/
structure Interruptible (σ : Type) where
  /-- The state. -/
  state : σ

instance {σ : Type} [ByteSource σ] : WellFoundedRelation (Interruptible σ) where
  rel := InvImage _ Interruptible.state
  wf := InvImage.wf _ (ByteSource.interruptions_end (σ := σ))

/-- Exactly `n` bytes of a source, however many calls it takes. -/
def getBytes {σ : Type} [ByteSource σ] (n : Nat) (s : σ) : Except WireError Bytes × σ :=
  if n = 0 then (.ok [], s)
  else
    match _h : ByteSource.read n s with
    | (.delivered [], s') => (.error .truncatedInput, s')
    | (.delivered (b :: bs), s') =>
      match getBytes (n - (bs.length + 1)) s' with
      | (.ok more, s'') => (.ok (b :: bs ++ more), s'')
      | (.error e, s'') => (.error e, s'')
    | (.failed .interrupted, s') => getBytes n s'
    | (.failed f, s') => (.error (.ofFault f), s')
termination_by (n, Interruptible.mk s)
decreasing_by
  · exact Prod.Lex.left _ _ (by omega)
  · exact Prod.Lex.right _ ⟨n, _h⟩

/-- One step of `getBytes`. -/
theorem getBytes_eq {σ : Type} [ByteSource σ] (n : Nat) (s : σ) :
    getBytes n s =
      if n = 0 then (.ok [], s)
      else
        match ByteSource.read n s with
        | (.delivered [], s') => (.error .truncatedInput, s')
        | (.delivered (b :: bs), s') =>
          match getBytes (n - (bs.length + 1)) s' with
          | (.ok more, s'') => (.ok (b :: bs ++ more), s'')
          | (.error e, s'') => (.error e, s'')
        | (.failed .interrupted, s') => getBytes n s'
        | (.failed f, s') => (.error (.ofFault f), s') := by
  rw [getBytes]
  split
  · rfl
  · split <;> simp_all

/-! ## Byte strings as sources -/

/-- A byte string hands over its first bytes and keeps the rest. -/
instance : ByteSource Bytes where
  read n bs := (.delivered (bs.take n), bs.drop n)
  read_le h := by
    cases h
    rw [List.length_take]
    exact Nat.min_le_left _ _
  interruptions_end := ⟨fun s => ⟨s, fun _ ⟨_, h⟩ => by simp at h⟩⟩

/-- Reading from a byte string is cutting it. -/
theorem read_bytes (n : Nat) (bs : Bytes) :
    ByteSource.read n bs = (.delivered (bs.take n), bs.drop n) := rfl

/-- **Exactly `n` bytes of a byte string** are its first ones, if it has that many. -/
theorem getBytes_bytes (n : Nat) (bs : Bytes) :
    getBytes n bs =
      if n ≤ bs.length then (.ok (bs.take n), bs.drop n) else (.error .truncatedInput, []) := by
  rw [getBytes_eq]
  split
  · next h => simp [h]
  · next h =>
    obtain ⟨m, rfl⟩ := Nat.exists_eq_succ_of_ne_zero h
    cases bs with
    | nil =>
      -- Nothing is left although something is asked for.
      simp [read_bytes]
    | cons b bs =>
      simp only [read_bytes, List.take_succ_cons, List.drop_succ_cons]
      rw [getBytes_eq]
      by_cases hm : m ≤ bs.length
      · -- The first call gives everything.
        simp [hm]
      · -- The first call gives all there is, the second one nothing.
        have hdrop : bs.drop m = [] := List.drop_eq_nil_of_le (by omega)
        have hmore : m - min m bs.length ≠ 0 := by omega
        simp [hm, hdrop, hmore, read_bytes]

/-! ## Piecewise sources -/

/-- **A byte string in pieces.** The source hands over at most `chunk` bytes at a time, and it
    fails once when it comes to a position. -/
structure Piecewise where
  /-- The bytes that are left. -/
  rest : Bytes
  /-- The count of bytes handed over so far. -/
  consumed : Nat
  /-- The most bytes that one call gets, if there is a limit. -/
  chunk : Option Nat
  /-- A fault that is still to come, and the position at which it does. -/
  pending : Option (Nat × Fault)

namespace Piecewise

/-- A source of the given bytes. -/
def ofBytes (bs : Bytes) (chunk : Option Nat) (pending : Option (Nat × Fault)) : Piecewise :=
  ⟨bs, 0, chunk, pending⟩

/-- The most bytes that one call gets which asks for `n`: no call goes beyond the position of a
    fault that is still to come. -/
def allowance (p : Piecewise) (n : Nat) : Nat :=
  let n := match p.chunk with
    | some c => min n c
    | none => n
  match p.pending with
  | some (position, _) => min n (position - p.consumed)
  | none => n

/-- Hands over the first bytes, as many as one call may get. -/
def handOver (p : Piecewise) (n : Nat) : Delivery × Piecewise :=
  let piece := p.rest.take (p.allowance n)
  (.delivered piece,
    { p with rest := p.rest.drop (p.allowance n), consumed := p.consumed + piece.length })

/-- One call. -/
def read (n : Nat) (p : Piecewise) : Delivery × Piecewise :=
  match p.pending with
  | some (position, fault) =>
    if position ≤ p.consumed then (.failed fault, { p with pending := none }) else p.handOver n
  | none => p.handOver n

theorem allowance_le (p : Piecewise) (n : Nat) : p.allowance n ≤ n := by
  unfold allowance
  cases p.chunk <;> cases p.pending <;> dsimp only <;> omega

theorem length_handOver_le {p p' : Piecewise} {n : Nat} {bs : Bytes}
    (h : p.handOver n = (.delivered bs, p')) : bs.length ≤ n := by
  have := allowance_le p n
  simp only [handOver, Prod.mk.injEq, Delivery.delivered.injEq] at h
  rw [← h.1, List.length_take]
  omega

instance : ByteSource Piecewise where
  read := read
  read_le := by
    intro n p bs p' h
    unfold read at h
    split at h
    · split at h
      · simp at h
      · exact length_handOver_le h
    · exact length_handOver_le h
  interruptions_end := by
    -- The only fault is the pending one, and it is gone afterwards.
    refine Subrelation.wf ?_ (InvImage.wf (fun p => p.pending.toList.length) Nat.lt_wfRel.wf)
    intro p' p ⟨n, h⟩
    unfold read at h
    split at h
    · next hp =>
      split at h
      · simp only [Prod.mk.injEq] at h
        simp [InvImage, WellFoundedRelation.rel, hp, ← h.2]
      · simp [handOver] at h
    · simp [handOver] at h

end Piecewise

end BitcoinCash
