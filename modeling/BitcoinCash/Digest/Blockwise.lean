import BitcoinCash.Bytes

/-! # Blockwise digests

  A digest that runs a compression function over blocks of 64 bytes. The message is followed by
  the byte `80`, by as few zero bytes as make room, and by its length in bits in eight bytes.

  - **One shot**: `Scheme.finalState` pads the whole message and absorbs it.
  - **Streaming**: a `Hasher` keeps the chaining state, the bytes that do not fill a block yet,
    and the count of bytes so far. It never sees the message as a whole.

  The two agree however the message is cut, because absorbing a text after another is absorbing
  their concatenation (`absorb_append`).
-/

namespace BitcoinCash.Digest

/-- What a blockwise digest is made of; `σ` is its chaining state. -/
structure Scheme (σ : Type) where
  /-- The state before the first block. -/
  initial : σ
  /-- The state after one more block of 64 bytes. -/
  compress : σ → Bytes → σ
  /-- The eight bytes that stand for a length in bits. -/
  lengthField : Nat → Bytes

variable {σ : Type} (D : Scheme σ)

/-! ## Absorbing blocks -/

/-- Nothing is left after 63 bytes exactly if there are too few for a block. The question can be
    answered without counting the bytes of a long message. -/
theorem isEmpty_drop_iff (bs : Bytes) : (bs.drop 63).isEmpty ↔ bs.length < 64 := by
  rw [List.isEmpty_iff, List.drop_eq_nil_iff]
  omega

/-- Feeds every whole block of `bs` to the compression function. The result is the state after
    them, and the bytes at the end that do not fill a block. -/
def absorb (s : σ) (bs : Bytes) : σ × Bytes :=
  if (bs.drop 63).isEmpty then (s, bs)
  else absorb (D.compress s (bs.take 64)) (bs.drop 64)
termination_by bs.length
decreasing_by
  rename_i h
  rw [isEmpty_drop_iff] at h
  simp only [List.length_drop]
  omega

/-- Fewer bytes than a block are left as they are. -/
theorem absorb_of_lt (s : σ) {bs : Bytes} (h : bs.length < 64) : absorb D s bs = (s, bs) := by
  rw [absorb, if_pos ((isEmpty_drop_iff bs).mpr h)]

/-- The first block is compressed before anything else. -/
theorem absorb_of_le (s : σ) {bs : Bytes} (h : 64 ≤ bs.length) :
    absorb D s bs = absorb D (D.compress s (bs.take 64)) (bs.drop 64) := by
  rw [absorb, if_neg (fun hempty => absurd ((isEmpty_drop_iff bs).mp hempty) (by omega))]

/-- **Absorbing in two goes** is absorbing the concatenation: the second go starts with what the
    first one left over. -/
theorem absorb_append (s : σ) (bs cs : Bytes) :
    absorb D s (bs ++ cs) = absorb D (absorb D s bs).1 ((absorb D s bs).2 ++ cs) := by
  fun_induction absorb D s bs with
  | case1 s bs h =>
    -- The first go compresses nothing.
    rfl
  | case2 s bs h ih =>
    -- Both sides compress the same first block.
    rw [isEmpty_drop_iff] at h
    rw [absorb_of_le D s (by rw [List.length_append]; omega),
      List.take_append_of_le_length (by omega), List.drop_append_of_le_length (by omega)]
    exact ih

/-! ## One shot -/

/-- What follows a message of `n` bytes: with it the length is a multiple of 64. -/
def padding (n : Nat) : Bytes :=
  0x80 :: List.replicate ((119 - n % 64) % 64) 0 ++ D.lengthField (8 * n)

/-- The chaining state after the whole padded message. -/
def finalState (message : Bytes) : σ :=
  (absorb D D.initial (message ++ padding D message.length)).1

/-! ## Streaming -/

/-- A digest under way. -/
structure Hasher (D : Scheme σ) where
  /-- The state after the blocks that are complete. -/
  state : σ
  /-- The bytes after the last complete block. -/
  pending : Bytes
  /-- The count of bytes taken in so far. -/
  count : Nat

namespace Hasher

variable {D}

/-- A digest of nothing so far. -/
def start : Hasher D := ⟨D.initial, [], 0⟩

/-- Takes in more bytes. -/
def update (h : Hasher D) (bs : Bytes) : Hasher D :=
  let (state, pending) := absorb D h.state (h.pending ++ bs)
  ⟨state, pending, h.count + bs.length⟩

/-- The chaining state after the padding of all that was taken in. -/
def finish (h : Hasher D) : σ :=
  (absorb D h.state (h.pending ++ padding D h.count)).1

end Hasher

end BitcoinCash.Digest
