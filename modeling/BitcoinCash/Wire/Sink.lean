import BitcoinCash.Digest.Hash
import BitcoinCash.Wire.Error

/-! # Sinks

  Where bytes are written to. One call offers some bytes, and the sink accepts a number of them
  from the front, or reports a fault.

  - **`ByteSink`** is what is asked of a sink: it never claims to accept more than it was offered,
    and it does not interrupt for ever.
  - **`putOnce`** makes a single call and reports how much was accepted, be it nothing.
  - **`putAll`** offers what is left again and again until all is accepted.
  - **`Bounded`** is a sink with a limit for each call and for the whole.
-/

namespace BitcoinCash

/-- What one call to a sink gives. -/
inductive Acceptance
  /-- The first `n` bytes were accepted. -/
  | accepted (n : Nat)
  /-- A fault. -/
  | failed (fault : Fault)
  deriving DecidableEq

/-- **A sink for bytes** with states in `σ`. -/
class ByteSink (σ : Type) where
  /-- Offers some bytes. -/
  write : (bs : Bytes) → σ → Acceptance × σ
  /-- No more is accepted than was offered. -/
  accepted_le : ∀ {bs s n s'}, write bs s = (.accepted n, s') → n ≤ bs.length
  /-- Interruptions come to an end. This only makes `putAll` return: it is the one that offers its
      bytes again after an interruption, and to a sink that interrupts for ever it would do so for
      ever. No run that returns is lost, because it has met a finite number of interruptions. It is
      also a run with a sink that answers these calls alike and interrupts none after them. -/
  interruptions_end : WellFounded fun s' s => ∃ bs, write bs s = (.failed .interrupted, s')

/-- Offers some bytes once. The result is the count of those that were accepted. -/
def putOnce {σ : Type} [ByteSink σ] (bs : Bytes) (s : σ) : Except WireError Nat × σ :=
  match ByteSink.write bs s with
  | (.accepted n, s') => (.ok n, s')
  | (.failed f, s') => (.error (.ofFault f), s')

/-- A state of a sink, seen as one that may interrupt a few more times. -/
structure InterruptibleSink (σ : Type) where
  /-- The state. -/
  state : σ

instance {σ : Type} [ByteSink σ] : WellFoundedRelation (InterruptibleSink σ) where
  rel := InvImage _ InterruptibleSink.state
  wf := InvImage.wf _ (ByteSink.interruptions_end (σ := σ))

/-- Offers some bytes until all of them are accepted. A sink that accepts nothing is a failure, and
    so is any fault but an interruption. -/
def putAll {σ : Type} [ByteSink σ] (bs : Bytes) (s : σ) : Except WireError Unit × σ :=
  if bs.isEmpty then (.ok (), s)
  else
    match h : ByteSink.write bs s with
    | (.accepted 0, s') => (.error (.ioError .writeZero), s')
    | (.accepted (n + 1), s') => putAll (bs.drop (n + 1)) s'
    | (.failed .interrupted, s') => putAll bs s'
    | (.failed f, s') => (.error (.ofFault f), s')
termination_by (bs.length, InterruptibleSink.mk s)
decreasing_by
  · have := ByteSink.accepted_le h
    exact Prod.Lex.left _ _ (by simp only [List.length_drop]; omega)
  · exact Prod.Lex.right _ ⟨bs, h⟩

/-- One step of `putAll`. -/
theorem putAll_eq {σ : Type} [ByteSink σ] (bs : Bytes) (s : σ) :
    putAll bs s =
      if bs.isEmpty then (.ok (), s)
      else
        match ByteSink.write bs s with
        | (.accepted 0, s') => (.error (.ioError .writeZero), s')
        | (.accepted (n + 1), s') => putAll (bs.drop (n + 1)) s'
        | (.failed .interrupted, s') => putAll bs s'
        | (.failed f, s') => (.error (.ofFault f), s') := by
  rw [putAll]
  split
  · rfl
  · split <;> simp_all

/-! ## Sinks that accept everything -/

/-- A byte string accepts all that it is offered and has it at its end. -/
instance : ByteSink Bytes where
  write bs s := (.accepted bs.length, s ++ bs)
  accepted_le h := by
    cases h
    exact Nat.le_refl _
  interruptions_end := ⟨fun s => ⟨s, fun _ ⟨_, h⟩ => by simp at h⟩⟩

/-- Writing to a byte string is appending. -/
theorem write_bytes (bs s : Bytes) : ByteSink.write bs s = (.accepted bs.length, s ++ bs) := rfl

/-- A single call with a byte string as the sink gets rid of everything. -/
theorem putOnce_bytes (bs s : Bytes) : putOnce bs s = (.ok bs.length, s ++ bs) := rfl

/-- One call is enough if a byte string is the sink. -/
theorem putAll_bytes (bs s : Bytes) : putAll bs s = (.ok (), s ++ bs) := by
  rw [putAll_eq]
  cases bs with
  | nil => simp
  | cons b bs =>
    simp only [write_bytes, List.isEmpty_cons, List.length_cons]
    rw [putAll_eq]
    simp

instance : ByteSink Hash256Stream where
  write bs s := (.accepted bs.length, s.update bs)
  accepted_le h := by
    cases h
    exact Nat.le_refl _
  interruptions_end := ⟨fun s => ⟨s, fun _ ⟨_, h⟩ => by simp at h⟩⟩

instance : ByteSink Hash160Stream where
  write bs s := (.accepted bs.length, s.update bs)
  accepted_le h := by
    cases h
    exact Nat.le_refl _
  interruptions_end := ⟨fun s => ⟨s, fun _ ⟨_, h⟩ => by simp at h⟩⟩

/-! ## Bounded sinks -/

/-- How a full sink declines what it is offered. -/
inductive Refusal
  /-- As if an input had ended. -/
  | unexpectedEnd
  /-- In its own words. -/
  | other (message : Text)
  deriving DecidableEq, Repr

/-- A refusal as a fault. -/
def Refusal.fault : Refusal → Fault
  | unexpectedEnd => .unexpectedEnd
  | other message => .other message

/-- **A sink with limits.** -/
structure Bounded where
  /-- What was accepted so far. -/
  accepted : Bytes
  /-- The most bytes that one call gets rid of, if there is a limit. -/
  chunk : Option Nat
  /-- The most bytes that all calls get rid of, if there is a limit. -/
  capacity : Option Nat
  /-- What a full sink reports; if there is nothing here, it accepts zero bytes. -/
  refusal : Option Refusal

namespace Bounded

/-- A sink that has accepted nothing yet. -/
def empty (chunk capacity : Option Nat) (refusal : Option Refusal) : Bounded :=
  ⟨[], chunk, capacity, refusal⟩

/-- Is there no room left? -/
def isFull (b : Bounded) : Bool :=
  match b.capacity with
  | some c => c ≤ b.accepted.length
  | none => false

/-- How many of `n` bytes one call gets rid of. -/
def allowance (b : Bounded) (n : Nat) : Nat :=
  let n := match b.chunk with
    | some c => min n c
    | none => n
  match b.capacity with
  | some c => min n (c - b.accepted.length)
  | none => n

/-- One call. -/
def write (bs : Bytes) (b : Bounded) : Acceptance × Bounded :=
  match b.refusal with
  | some r =>
    if b.isFull && !bs.isEmpty then (.failed r.fault, b)
    else (.accepted (b.allowance bs.length),
      { b with accepted := b.accepted ++ bs.take (b.allowance bs.length) })
  | none => (.accepted (b.allowance bs.length),
      { b with accepted := b.accepted ++ bs.take (b.allowance bs.length) })

theorem allowance_le (b : Bounded) (n : Nat) : b.allowance n ≤ n := by
  unfold allowance
  cases b.chunk <;> cases b.capacity <;> dsimp only <;> omega

instance : ByteSink Bounded where
  write := write
  accepted_le := by
    intro bs b n b' h
    have := allowance_le b bs.length
    unfold write at h
    split at h
    · split at h
      · simp at h
      · simp only [Prod.mk.injEq, Acceptance.accepted.injEq] at h
        omega
    · simp only [Prod.mk.injEq, Acceptance.accepted.injEq] at h
      omega
  interruptions_end := by
    -- No refusal is an interruption.
    refine ⟨fun b => ⟨b, fun b' ⟨bs, h⟩ => ?_⟩⟩
    unfold write at h
    split at h
    · next r _ =>
      split at h
      · cases r <;> simp [Refusal.fault] at h
      · simp at h
    · simp at h

end Bounded

end BitcoinCash
