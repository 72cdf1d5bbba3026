import BitcoinCash.Proofs.Wire.Mirror

/-! # Digests of what arrives in pieces

  A digest does not depend on how its message is cut into calls.

  - **`Digest.Hasher.update_update`**: to take in two strings is to take in one after the other, so
    that a hasher which took in pieces is the one that took in the whole message. At the end it holds
    what the padded message gives in one go (`Digest.Hasher.finish_update_start`).
  - **`DigestsAs`** is what is asked of a stream: all calls are accepted, and the digest at the end is
    that of the message.
  - **`digestsAs_of_hasher`** derives it for any sink around a hasher. For an output, the hasher
    mirrors the byte string that the output is written to.
  - **`digestsAs_hash256_and_hash160`** is the main statement.
-/

namespace BitcoinCash

/-! ## Hashers -/

namespace Digest.Hasher

variable {σ : Type} {D : Scheme σ}

theorem update_eq (h : Hasher D) (bs : Bytes) :
    h.update bs = ⟨(absorb D h.state (h.pending ++ bs)).1, (absorb D h.state (h.pending ++ bs)).2,
      h.count + bs.length⟩ := rfl

/-- **Two strings in a row** are one. -/
theorem update_update (h : Hasher D) (bs cs : Bytes) :
    (h.update bs).update cs = h.update (bs ++ cs) := by
  have habsorb := absorb_append D h.state (h.pending ++ bs) cs
  rw [List.append_assoc] at habsorb
  rw [update_eq (h.update bs), update_eq h (bs ++ cs), habsorb, List.length_append, ← Nat.add_assoc]
  rfl

theorem start_update_nil : (start : Hasher D).update [] = start := by
  have hnone : absorb D D.initial [] = (D.initial, []) := absorb_of_lt D D.initial (by decide)
  rw [update_eq]
  show (⟨(absorb D D.initial []).1, (absorb D D.initial []).2, 0⟩ : Hasher D) = start
  rw [hnone]
  rfl

/-- **A message that was taken in** is padded as in one go. -/
theorem finish_update_start (message : Bytes) :
    ((start : Hasher D).update message).finish = finalState D message := by
  -- The padding comes after the message, so that it may be absorbed in a second go.
  rw [finalState, absorb_append, update_eq]
  show (absorb D _ (_ ++ padding D (0 + message.length))).1 = _
  rw [Nat.zero_add]
  rfl

end Digest.Hasher

/-! ## Calls -/

/-- What can be asked of a stream before its end. -/
inductive Call
  /-- Some bytes are offered, or none. -/
  | write (bs : Bytes)
  /-- The stream is flushed. -/
  | flush

namespace Call

/-- The bytes that a call offers. -/
def bytes : Call → Bytes
  | write bs => bs
  | flush => []

/-- All bytes that are offered, in order. -/
def message (calls : List Call) : Bytes :=
  calls.flatMap bytes

variable {σ : Type} [ByteSink σ]

/-- One call to a stream that is flushed by `flushed`. The result is the count of accepted bytes. -/
def perform (flushed : σ → σ) : Call → Writing σ Nat
  | write bs => Writing.once bs
  | flush => do
    modify flushed
    return 0

/-- All calls in order, each with its count. -/
def performAll (flushed : σ → σ) (calls : List Call) : Writing σ (List Nat) :=
  calls.mapM (perform flushed)

/-! ## Runs -/

section Run

variable {g : Bytes → σ} {flushed : σ → σ}

/-- **One call** to a stream that stands for the bytes it has taken in. -/
theorem run_perform (hg : ByteSink.Mirrors g) (hflushed : ∀ taken, flushed (g taken) = g taken)
    (call : Call) (taken : Bytes) :
    (call.perform flushed).run (g taken) = (.ok call.bytes.length, g (taken ++ call.bytes)) := by
  cases call with
  | write bs => exact hg.once bs taken
  | flush =>
    show ((.ok 0, flushed (g taken)) : Except WireError Nat × σ) = _
    rw [hflushed, bytes, List.append_nil]
    rfl

/-- **A run of calls** appends all that they offer. -/
theorem run_performAll (hg : ByteSink.Mirrors g) (hflushed : ∀ taken, flushed (g taken) = g taken)
    (calls : List Call) (taken : Bytes) :
    (performAll flushed calls).run (g taken) =
      (.ok (calls.map fun call => call.bytes.length), g (taken ++ message calls)) := by
  unfold performAll
  induction calls generalizing taken with
  | nil =>
    rw [message, List.flatMap_nil, List.append_nil]
    rfl
  | cons call calls ih =>
    rw [List.mapM_cons, run_bind_ok (run_perform hg hflushed call taken), run_bind_ok (ih _),
      List.append_assoc]
    rfl

end Run

end Call

/-! ## Streams -/

/-- **A stream digests what it takes in**, as `hash` does with all of it. -/
structure DigestsAs {σ : Type} [ByteSink σ] {n : Nat} (start : σ) (flushed : σ → σ)
    (finish : σ → Digest n) (hash : Bytes → Digest n) : Prop where
  /-- However a message is cut into calls, with flushes in between, each call is accepted as a whole,
      and the digest is that of the message. -/
  calls : ∀ calls, ∃ s,
    (Call.performAll flushed calls).run start =
      (.ok (calls.map fun call => call.bytes.length), s) ∧
    finish s = hash (Call.message calls)
  /-- An output is accepted as a whole, and the digest is that of its wire form. -/
  output : ∀ out : TxOut, ∃ s,
    out.write.run start = (.ok out.wireLength, s) ∧ finish s = hash out.toWire

open Digest (Hasher)

/-- **A sink around a hasher** digests what it takes in, if flushing it does nothing and what it gives
    at the end is the digest of what the hasher took in. -/
theorem digestsAs_of_hasher {τ σ : Type} {D : Digest.Scheme τ} [ByteSink σ] {n : Nat}
    {wrap : Hasher D → σ} {flushed : σ → σ} {finish : σ → Digest n} {hash : Bytes → Digest n}
    (hwrite : ∀ bs h, ByteSink.write bs (wrap h) = (.accepted bs.length, wrap (h.update bs)))
    (hflushed : ∀ h, flushed (wrap h) = wrap h)
    (hfinish : ∀ message, finish (wrap (Hasher.start.update message)) = hash message) :
    DigestsAs (wrap .start) flushed finish hash := by
  -- The sink mirrors the byte string of all that it took in.
  let g (message : Bytes) : σ := wrap (Hasher.start.update message)
  have hstart : g [] = wrap .start := congrArg wrap Hasher.start_update_nil
  have hg : ByteSink.Mirrors g := by
    intro bs taken
    rw [hwrite, Hasher.update_update]
    rfl
  rw [← hstart]
  constructor
  · intro calls
    exact ⟨_, Call.run_performAll hg (fun _ => hflushed _) calls [], hfinish _⟩
  · intro out
    exact ⟨_, (hg.txOut out).run_eq (out.puts_write []), hfinish _⟩

/-- **The two digests of the chain may be taken from pieces**: a stream gives the digest of all that it
    took in, be it by whatever calls or from an output. -/
theorem digestsAs_hash256_and_hash160 :
    DigestsAs Hash256Stream.start Hash256Stream.flush Hash256Stream.finish hash256 ∧
      DigestsAs Hash160Stream.start Hash160Stream.flush Hash160Stream.finish hash160 := by
  constructor
  · apply @digestsAs_of_hasher _ _ Sha256.scheme _ _ Hash256Stream.mk
    · intro bs h
      rfl
    · intro h
      rfl
    · intro message
      rw [Hash256Stream.finish, Hasher.finish_update_start]
      rfl
  · apply @digestsAs_of_hasher _ _ Sha256.scheme _ _ Hash160Stream.mk
    · intro bs h
      rfl
    · intro h
      rfl
    · intro message
      rw [Hash160Stream.finish, Hasher.finish_update_start]
      rfl

end BitcoinCash
