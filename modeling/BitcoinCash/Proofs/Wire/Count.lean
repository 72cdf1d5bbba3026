import BitcoinCash.Proofs.Wire.Canonical
import BitcoinCash.Proofs.Wire.Received

/-! # The count that a writer reports

  Whatever a sink does with the calls it gets, a count that is reported for an output is the count
  of the bytes that have arrived.

  - **`Writing.Sends`** says what has arrived once a computation has succeeded. Nothing is asked of
    the sink: it may cut a call short, accept nothing of it, interrupt or fail.
  - **`Counts`** compares the bytes that have arrived, and their count, with the wire form. It is
    kept when one part is written behind another (`Counts.append`).
  - **`TxOut.write_counts`** is the main statement: a count below the length of the wire form is
    how a caller learns that something is missing.
-/

namespace BitcoinCash

/-! ## What has arrived -/

section Sends

variable {σ α β : Type}

/-- **What a computation sends** whenever it succeeds: the bytes that the sink has accepted in the
    meantime, together with the result, are as `Post` says. -/
def Writing.Sends (x : Writing (Recorded σ) α) (Post : α → Bytes → Prop) : Prop :=
  ∀ r r' a, x.run r = (.ok a, r') →
    ∃ accepted, r'.received = r.received ++ accepted ∧ Post a accepted

namespace Writing.Sends

variable {x : Writing (Recorded σ) α} {f : α → Writing (Recorded σ) β}

/-- What writes nothing sends nothing. -/
theorem pure {Post : α → Bytes → Prop} {a : α} (h : Post a []) :
    Sends (σ := σ) (pure a) Post := by
  intro r r' a' hrun
  obtain ⟨rfl, rfl⟩ := run_pure_eq_ok_iff.mp hrun
  exact ⟨[], (List.append_nil _).symm, h⟩

/-- What two steps send stands in a row. -/
theorem bind {First : α → Bytes → Prop} {Post : β → Bytes → Prop} (hx : Sends x First)
    (hf : ∀ a first, First a first → Sends (f a) fun b more => Post b (first ++ more)) :
    Sends (x >>= f) Post := by
  intro r r'' b hrun
  obtain ⟨a, r', hrun₁, hrun₂⟩ := run_bind_eq_ok_iff.mp hrun
  obtain ⟨first, hr', hfirst⟩ := hx r r' a hrun₁
  obtain ⟨more, hr'', hmore⟩ := hf a first hfirst r' r'' b hrun₂
  refine ⟨first ++ more, ?_, hmore⟩
  rw [hr'', hr', List.append_assoc]

end Writing.Sends

end Sends

/-! ## Honest counts -/

/-- **An honest count** of the bytes that have arrived of a wire form: it is at most the length of
    the form, and it is that length only if the form has arrived. -/
structure Counts (form : Bytes) (n : Nat) (accepted : Bytes) : Prop where
  /-- The count is the one of the bytes. -/
  length_eq : accepted.length = n
  /-- There are no more of them than the form has. -/
  le_length : n ≤ form.length
  /-- Nothing is missing if the count is the length of the form. -/
  eq_of_length : n = form.length → accepted = form

namespace Counts

variable {form form' accepted accepted' : Bytes} {n m : Nat}

/-- The front of a form. -/
theorem take (h : n ≤ form.length) : Counts form n (form.take n) where
  length_eq := List.length_take_of_le h
  le_length := h
  eq_of_length hn := List.take_of_length_le (Nat.le_of_eq hn.symm)

/-- The whole of a form. -/
theorem whole (form : Bytes) : Counts form form.length form :=
  ⟨rfl, Nat.le_refl _, fun _ => rfl⟩

/-- **Counts are added up.** A sum is as large as it can be only if both parts are. -/
theorem append (h : Counts form n accepted) (h' : Counts form' m accepted') :
    Counts (form ++ form') (n + m) (accepted ++ accepted') where
  length_eq := by rw [List.length_append, h.length_eq, h'.length_eq]
  le_length := by
    rw [List.length_append]
    exact Nat.add_le_add h.le_length h'.le_length
  eq_of_length hsum := by
    have hle := h.le_length
    have hle' := h'.le_length
    rw [List.length_append] at hsum
    rw [h.eq_of_length (by omega), h'.eq_of_length (by omega)]

/-- The count is the length of the form exactly if the form has arrived. -/
theorem eq_length_iff (h : Counts form n accepted) : n = form.length ↔ accepted = form := by
  constructor
  · exact h.eq_of_length
  · intro hform
    rw [← h.length_eq, hform]

end Counts

/-- **Two parts of a wire form**, written one behind the other, each with an honest count. -/
theorem Writing.Sends.add {σ : Type} {x y : Writing (Recorded σ) Nat} {form form' : Bytes}
    (hx : Sends x (Counts form)) (hy : Sends y (Counts form')) :
    Sends (do return (← x) + (← y)) (Counts (form ++ form')) := by
  refine hx.bind fun n accepted hn => ?_
  refine Sends.bind hy fun m accepted' hm => .pure ?_
  rw [List.append_nil]
  exact hn.append hm

/-! ## Writing -/

section Write

variable {σ : Type} [ByteSink σ]

open Writing (Sends)

/-- What a sink with a record accepts goes into the record. -/
theorem Recorded.received_of_accepted {bs : Bytes} {r r' : Recorded σ} {n : Nat}
    (h : ByteSink.write bs r = (.accepted n, r')) : r'.received = r.received ++ bs.take n := by
  change r.write bs = _ at h
  unfold Recorded.write at h
  split at h
  · cases h
    rfl
  · cases h

/-- A fault leaves the record as it is. -/
theorem Recorded.received_of_failed {bs : Bytes} {r r' : Recorded σ} {fault : Fault}
    (h : ByteSink.write bs r = (.failed fault, r')) : r'.received = r.received := by
  change r.write bs = _ at h
  unfold Recorded.write at h
  split at h
  · cases h
  · cases h
    rfl

/-- **A single call** is reported as it is accepted. -/
theorem sends_once (bs : Bytes) : Sends (σ := σ) (Writing.once bs) (Counts bs) := by
  intro r r' n hrun
  change putOnce bs r = _ at hrun
  unfold putOnce at hrun
  split at hrun
  · next m r'' hwrite =>
    cases hrun
    exact ⟨bs.take n, Recorded.received_of_accepted hwrite, .take (ByteSink.accepted_le hwrite)⟩
  · cases hrun

/-- **Calls that are made until nothing is left** send everything, or they end in a failure. -/
theorem sends_all (bs : Bytes) :
    Sends (σ := σ) (Writing.all bs) fun _ accepted => accepted = bs := by
  intro r r' _ hrun
  refine ⟨bs, ?_, rfl⟩
  change putAll bs r = _ at hrun
  -- The induction is on the calls. Those that fail for good are no success.
  fun_induction putAll bs r with
  | case1 bs r hempty =>
    cases hrun
    rw [List.isEmpty_iff.mp hempty, List.append_nil]
  | case2 bs r hempty r₁ hwrite => cases hrun
  | case3 bs r hempty n r₁ hwrite ih =>
    rw [ih hrun, Recorded.received_of_accepted hwrite, List.append_assoc, List.take_append_drop]
  | case4 bs r hempty r₁ hwrite ih => rw [ih hrun, Recorded.received_of_failed hwrite]
  | case5 bs r hempty fault r₁ hfault hwrite => cases hrun

theorem sends_compactSize (n : UInt64) :
    Sends (σ := σ) (CompactSize.write n) (Counts (CompactSize.encode n)) := by
  unfold CompactSize.write CompactSize.encode
  cases CompactSize.marker? (CompactSize.width n) with
  | none => exact sends_once _
  | some marker =>
    -- The marker is offered by a call of its own.
    exact (sends_once [marker]).add (sends_once _)

theorem sends_writeVector (bs : Bytes) :
    Sends (σ := σ) (Wire.writeVector bs) (Counts (Wire.vectorBytes bs)) := by
  refine (sends_compactSize _).bind fun n first hn => (sends_all bs).bind fun _ more hmore => ?_
  refine .pure ?_
  rw [List.append_nil, hmore]
  exact hn.append (.whole bs)

theorem sends_txOut (out : TxOut) : Sends (σ := σ) out.write (Counts out.toWire) := by
  rw [TxOut.toWire_eq]
  exact (sends_once _).add (sends_writeVector _)

/-- **The count that is reported for an output is honest**, whatever the sink does. Exactly as many
    bytes have been accepted in the meantime; there are at most as many as the wire form has, and as
    many as it has if and only if they are the wire form. That is the value in eight bytes, lowest byte
    first, and the script behind the compact size of its length. -/
theorem TxOut.write_counts {out : TxOut} {s s' : σ} {n : Nat} (h : out.write.run s = (.ok n, s'))
    (received : Bytes) :
    ∃ accepted,
      out.write.run (⟨s, received⟩ : Recorded σ) = (.ok n, ⟨s', received ++ accepted⟩) ∧
      accepted.length = n ∧ n ≤ out.wireLength ∧ (n = out.wireLength ↔ accepted = out.toWire) ∧
      out.toWire = Bytes.littleEndian 8 out.value.toUInt64.toNat ++
        (CompactSize.encode (UInt64.ofNat out.script.bytes.length) ++ out.script.bytes) := by
  -- The sink with a record does the same.
  have hfollows := Recorded.follows_txOut out (⟨s, received⟩ : Recorded σ)
  rcases hrun : out.write.run (⟨s, received⟩ : Recorded σ) with ⟨result, s'', received''⟩
  rw [hrun, h] at hfollows
  cases hfollows
  obtain ⟨accepted, hreceived, hcount⟩ := sends_txOut out _ _ n hrun
  change received'' = _ at hreceived
  rw [← length_toWire]
  exact ⟨accepted, by rw [hreceived], hcount.length_eq, hcount.le_length, hcount.eq_length_iff,
    toWire_eq out⟩

/-- A full sink that does not say so accepts nothing of an output without a script, and nothing is
    reported. The wire form is the value −1 and an empty script. -/
theorem TxOut.write_counts_null :
    let full : Bounded := .empty none (some 0) none
    ∃ accepted, null.write.run (⟨full, [1]⟩ : Recorded Bounded) = (.ok 0, ⟨full, [1] ++ accepted⟩) ∧
      accepted.length = 0 ∧ accepted ≠ null.toWire ∧
      null.toWire = [0xff, 0xff, 0xff, 0xff, 0xff, 0xff, 0xff, 0xff, 0x00] := by
  intro full
  have hscript : (Writing.all []).run full = (.ok (), full) := by
    show putAll [] full = _
    rw [putAll_eq]
    rfl
  have hvector : null.script.write.run full = (.ok 0, full) :=
    (run_bind_ok rfl).trans (run_bind_ok hscript)
  have hwrite : null.write.run full = (.ok 0, full) :=
    (run_bind_ok rfl).trans (run_bind_ok hvector)
  obtain ⟨accepted, hrun, hlength, -, hwhole, hform⟩ := TxOut.write_counts hwrite [1]
  refine ⟨accepted, hrun, hlength, fun h => ?_, hform⟩
  have hnine := hwhole.mpr h
  cases hnine

end Write

end BitcoinCash
