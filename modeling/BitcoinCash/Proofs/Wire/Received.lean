import BitcoinCash.Proofs.Wire.Mirror

/-! # What a sink receives

  A sink may accept fewer bytes of a call than it was offered. What arrives then depends on whether
  the rest is offered again.

  - **`Recorded`** is a sink with a record of all that it has accepted. Whoever writes to it notices
    no difference (`Recorded.mirrors_sink`).
  - **`ByteSink.AcceptsAtLeast`** is said of a sink that never fails and never accepts too little.
  - **`TxOut.write_acceptsAtLeast`** is the main statement. The script always arrives, because what is
    left of it is offered again. The value and the length in front of the script are offered once, so
    they arrive as far as these calls are accepted. The count that is reported is the count of what
    has arrived, and it is the length of the wire form only if nothing is missing.
  - **`TxOut.write_loses_bytes`**: a sink that accepts single bytes does not get the wire form.
-/

namespace BitcoinCash

/-! ## Sinks with a record -/

/-- **A sink with a record** of what it has accepted. -/
structure Recorded (σ : Type) where
  /-- The sink. -/
  sink : σ
  /-- All bytes that it has accepted, in order. -/
  received : Bytes

namespace Recorded

variable {σ : Type} [ByteSink σ]

/-- One call. The bytes that are accepted go into the record. -/
def write (bs : Bytes) (r : Recorded σ) : Acceptance × Recorded σ :=
  match ByteSink.write bs r.sink with
  | (.accepted n, s) => (.accepted n, ⟨s, r.received ++ bs.take n⟩)
  | (.failed f, s) => (.failed f, ⟨s, r.received⟩)

/-- The sink of a record does what it does without the record. -/
theorem write_sink (bs : Bytes) (r : Recorded σ) :
    ByteSink.write bs r.sink = ((r.write bs).1, (r.write bs).2.sink) := by
  unfold write
  rcases ByteSink.write bs r.sink with ⟨n | f, s⟩
  · rfl
  · rfl

instance : ByteSink (Recorded σ) where
  write bs r := r.write bs
  accepted_le := by
    intro bs r n r' h
    have hsink := write_sink bs r
    rw [h] at hsink
    exact ByteSink.accepted_le hsink
  interruptions_end := by
    -- Each interruption is one of the sink.
    refine Subrelation.wf ?_ (InvImage.wf Recorded.sink (ByteSink.interruptions_end (σ := σ)))
    intro r' r ⟨bs, h⟩
    have hsink := write_sink bs r
    rw [h] at hsink
    exact ⟨bs, hsink⟩

/-- **Whoever writes to a sink with a record** notices no difference. -/
theorem mirrors_sink : ByteSink.Mirrors (sink : Recorded σ → σ) := write_sink

theorem follows_once (bs : Bytes) :
    Writing.Mirrors sink (Writing.once bs) (Writing.once (σ := σ) bs) :=
  mirrors_sink.once bs

theorem follows_compactSize (n : UInt64) :
    Writing.Mirrors sink (CompactSize.write n) (CompactSize.write (σ := σ) n) :=
  mirrors_sink.compactSize n

/-- **An output is written to a sink with a record** as to any other. -/
theorem follows_txOut (out : TxOut) : Writing.Mirrors sink out.write (out.write (σ := σ)) :=
  mirrors_sink.txOut out

end Recorded

/-! ## Sinks that never fail -/

/-- **A sink that never fails** and accepts at least `k` bytes of each call, or all of them if it is
    offered fewer, and that stays so for ever. How much more it accepts may change from call to
    call. -/
def ByteSink.AcceptsAtLeast {σ : Type} [ByteSink σ] (k : Nat) (s : σ) : Prop :=
  ∃ Good : σ → Prop, Good s ∧ ∀ s, Good s → ∀ bs, ∃ n s',
    ByteSink.write bs s = (.accepted n, s') ∧ min k bs.length ≤ n ∧ Good s'

namespace ByteSink.AcceptsAtLeast

variable {σ : Type} [ByteSink σ] {k : Nat} {s : σ}

/-- **One call** to a sink that never fails, with a record. -/
theorem exists_write (h : AcceptsAtLeast k s) (bs received : Bytes) :
    ∃ n s', ByteSink.write bs (⟨s, received⟩ : Recorded σ) =
        (.accepted n, ⟨s', received ++ bs.take n⟩) ∧
      min k bs.length ≤ n ∧ n ≤ bs.length ∧ AcceptsAtLeast k s' := by
  obtain ⟨Good, hs, hstep⟩ := h
  obtain ⟨n, s', hwrite, hn, hs'⟩ := hstep s hs bs
  refine ⟨n, s', ?_, hn, ByteSink.accepted_le hwrite, Good, hs', hstep⟩
  show Recorded.write bs _ = _
  unfold Recorded.write
  rw [hwrite]

/-- What is offered once arrives as far as it is accepted. -/
theorem run_once (h : AcceptsAtLeast k s) (bs received : Bytes) :
    ∃ n s', (Writing.once bs).run (⟨s, received⟩ : Recorded σ) =
        (.ok n, ⟨s', received ++ bs.take n⟩) ∧
      min k bs.length ≤ n ∧ n ≤ bs.length ∧ AcceptsAtLeast k s' := by
  obtain ⟨n, s', hwrite, hn, hle, hs'⟩ := h.exists_write bs received
  refine ⟨n, s', ?_, hn, hle, hs'⟩
  show putOnce bs _ = _
  unfold putOnce
  rw [hwrite]

/-- **What is offered again and again arrives.** -/
theorem run_all (h : AcceptsAtLeast k s) (hk : 0 < k) (bs received : Bytes) :
    ∃ s', (Writing.all bs).run (⟨s, received⟩ : Recorded σ) = (.ok (), ⟨s', received ++ bs⟩) ∧
      AcceptsAtLeast k s' := by
  show ∃ s', putAll bs (⟨s, received⟩ : Recorded σ) = _ ∧ _
  -- The induction is on what is left; each call makes it shorter.
  induction hlen : bs.length using Nat.strongRecOn generalizing bs s received with
  | _ len ih =>
    by_cases hempty : bs.isEmpty = true
    · refine ⟨s, ?_, h⟩
      rw [putAll_eq, if_pos hempty, List.isEmpty_iff.mp hempty, List.append_nil]
    · obtain ⟨n, s₁, hwrite, hn, hle, hs₁⟩ := h.exists_write bs received
      have hsome : 0 < bs.length := List.length_pos_iff.mpr fun hnil => hempty (by rw [hnil]; rfl)
      obtain ⟨m, rfl⟩ : ∃ m, n = m + 1 := Nat.exists_eq_succ_of_ne_zero (by omega)
      have hshorter : (bs.drop (m + 1)).length < len := by
        rw [List.length_drop]
        omega
      obtain ⟨s₂, hrest, hs₂⟩ :=
        ih _ hshorter hs₁ (bs.drop (m + 1)) (received ++ bs.take (m + 1)) rfl
      refine ⟨s₂, ?_, hs₂⟩
      rw [putAll_eq, if_neg hempty, hwrite]
      show putAll (bs.drop (m + 1)) _ = _
      rw [hrest, List.append_assoc, List.take_append_drop]

/-- **A compact size** arrives as far as two calls are accepted, one for the marker and one for the
    rest. The first byte is always there. -/
theorem run_compactSize (h : AcceptsAtLeast k s) (hk : 0 < k) (m : UInt64) (received : Bytes) :
    ∃ n s', (CompactSize.write m).run (⟨s, received⟩ : Recorded σ) =
        (.ok n, ⟨s', received ++ (CompactSize.encode m).take n⟩) ∧
      min (k + 1) (CompactSize.width m) ≤ n ∧ n ≤ CompactSize.width m ∧ AcceptsAtLeast k s' := by
  unfold CompactSize.write CompactSize.encode
  cases hmarker : CompactSize.marker? (CompactSize.width m) with
  | none =>
    obtain ⟨n, s', hrun, hn, hle, hs'⟩ := h.run_once [m.toUInt8] received
    refine ⟨n, s', hrun, ?_, ?_, hs'⟩
    · rw [(CompactSize.marker?_eq_none hmarker).1]
      rw [List.length_singleton] at hn
      omega
    · rw [(CompactSize.marker?_eq_none hmarker).1]
      exact hle
  | some first =>
    have hwidth := CompactSize.length_cons_littleEndian hmarker
    rw [List.length_cons] at hwidth
    obtain ⟨a, s₁, hrun₁, ha, hale, hs₁⟩ := h.run_once [first] received
    obtain ⟨b, s₂, hrun₂, hb, hble, hs₂⟩ := hs₁.run_once
      (Bytes.littleEndian (CompactSize.width m - 1) m.toNat) (received ++ [first].take a)
    -- A single byte is either accepted or not.
    rw [List.length_singleton] at ha hale
    have hone : a = 1 := by omega
    rw [hone] at hrun₁ hrun₂
    refine ⟨1 + b, s₂, ?_, by omega, by omega, hs₂⟩
    rw [run_bind_ok hrun₁, run_bind_ok hrun₂, Nat.add_comm 1 b, List.take_succ_cons]
    show (_, (⟨s₂, received ++ [first] ++ _⟩ : Recorded σ)) = _
    rw [List.append_assoc]
    rfl

end ByteSink.AcceptsAtLeast

open ByteSink (AcceptsAtLeast)

/-- A bounded sink with room for everything accepts what it allows for one call. -/
theorem Bounded.acceptsAtLeast {k : Nat} {b : Bounded} (hchunk : ∀ c, b.chunk = some c → k ≤ c)
    (hroom : b.capacity = none) : AcceptsAtLeast k b := by
  refine ⟨fun b => (∀ c, b.chunk = some c → k ≤ c) ∧ b.capacity = none, ⟨hchunk, hroom⟩, ?_⟩
  intro b ⟨hchunk, hroom⟩ bs
  have hcall : Bounded.write bs b = (.accepted (b.allowance bs.length),
      { b with accepted := b.accepted ++ bs.take (b.allowance bs.length) }) := by
    have hfull : b.isFull = false := by
      unfold isFull
      rw [hroom]
    unfold Bounded.write
    cases b.refusal with
    | none => rfl
    | some refusal => simp only [hfull, Bool.false_and, Bool.false_eq_true, if_false]
  have hallowed : min k bs.length ≤ b.allowance bs.length := by
    unfold allowance
    rw [hroom]
    cases hc : b.chunk with
    | none => exact Nat.min_le_right _ _
    | some c =>
      have hle := hchunk c hc
      show min k bs.length ≤ min bs.length c
      omega
  exact ⟨_, _, hcall, hallowed, hchunk, hroom⟩

/-- An empty sink with a limit for each call, and none for the whole. -/
theorem Bounded.acceptsAtLeast_empty (k : Nat) (refusal : Option Refusal) :
    AcceptsAtLeast k (Bounded.empty (some k) none refusal) := by
  apply acceptsAtLeast
  · intro c hc
    exact Nat.le_of_eq (Option.some.inj hc)
  · rfl

/-! ## Outputs -/

namespace TxOut

/-- The wire form of an output, of which only `a` bytes of the value and `b` bytes of the length of
    the script are there. -/
def cutWire (out : TxOut) (a b : Nat) : Bytes :=
  (Bytes.littleEndian 8 out.value.toUInt64.toNat).take a ++
    ((CompactSize.encode (UInt64.ofNat out.script.length)).take b ++ out.script.bytes)

section CutWire

variable {out : TxOut} {a b : Nat}

theorem length_cutWire (ha : a ≤ 8) (hb : b ≤ out.script.lengthWidth) :
    (out.cutWire a b).length = a + (b + out.script.length) := by
  unfold cutWire
  rw [List.length_append, List.length_append, List.length_take, List.length_take,
    Bytes.length_littleEndian, CompactSize.length_encode, Nat.min_eq_left ha]
  show a + (min b out.script.lengthWidth + out.script.length) = _
  rw [Nat.min_eq_left hb]

/-- **A cut form is shorter** if anything is missing. -/
theorem length_cutWire_eq_iff (ha : a ≤ 8) (hb : b ≤ out.script.lengthWidth) :
    (out.cutWire a b).length = out.wireLength ↔ a = 8 ∧ b = out.script.lengthWidth := by
  rw [length_cutWire ha hb]
  unfold wireLength Script.wireLength
  omega

/-- **A cut form is the wire form** exactly if nothing is missing. -/
theorem cutWire_eq_toWire_iff (ha : a ≤ 8) (hb : b ≤ out.script.lengthWidth) :
    out.cutWire a b = out.toWire ↔ a = 8 ∧ b = out.script.lengthWidth := by
  constructor
  · intro h
    apply (length_cutWire_eq_iff ha hb).mp
    rw [h, length_toWire]
  · intro ⟨ha, hb⟩
    have hvalue : (Bytes.littleEndian 8 out.value.toUInt64.toNat).take 8 =
        Bytes.littleEndian 8 out.value.toUInt64.toNat :=
      List.take_of_length_le (Nat.le_of_eq (Bytes.length_littleEndian 8 _))
    have hlength : (CompactSize.encode (UInt64.ofNat out.script.length)).take
        out.script.lengthWidth = CompactSize.encode (UInt64.ofNat out.script.length) :=
      List.take_of_length_le (Nat.le_of_eq (CompactSize.length_encode _))
    rw [ha, hb, toWire_eq, cutWire, hvalue, hlength]
    rfl

end CutWire

section Write

variable {σ : Type} [ByteSink σ] {k : Nat} {s : σ}

/-- An output is written by one call for the value, one or two calls for the length of the script,
    and as many as it takes for the script. -/
theorem exists_run_write (hk : 0 < k) (h : AcceptsAtLeast k s) (out : TxOut) :
    ∃ a b s₁ s₂ s' r₁ r₂,
      (Wire.writeInt64 out.value).run (⟨s, []⟩ : Recorded σ) = (.ok a, ⟨s₁, r₁⟩) ∧
      (CompactSize.write (UInt64.ofNat out.script.length)).run (⟨s₁, r₁⟩ : Recorded σ) =
        (.ok b, ⟨s₂, r₂⟩) ∧
      out.write.run (⟨s, []⟩ : Recorded σ) =
        (.ok (a + (b + out.script.length)), ⟨s', out.cutWire a b⟩) ∧
      min k 8 ≤ a ∧ a ≤ 8 ∧
      min (k + 1) out.script.lengthWidth ≤ b ∧ b ≤ out.script.lengthWidth := by
  obtain ⟨a, s₁, hvalue, ha, hale, hs₁⟩ :=
    h.run_once (Bytes.littleEndian 8 out.value.toUInt64.toNat) []
  rw [Bytes.length_littleEndian] at ha hale
  obtain ⟨b, s₂, hlength, hb, hble, hs₂⟩ := hs₁.run_compactSize hk
    (UInt64.ofNat out.script.length) ([] ++ (Bytes.littleEndian 8 out.value.toUInt64.toNat).take a)
  obtain ⟨s', hscript, -⟩ := hs₂.run_all hk out.script.bytes
    ([] ++ (Bytes.littleEndian 8 out.value.toUInt64.toNat).take a ++
      (CompactSize.encode (UInt64.ofNat out.script.length)).take b)
  refine ⟨a, b, s₁, s₂, s', _, _, hvalue, hlength, ?_, ha, hale, hb, hble⟩
  have hvector : out.script.write.run _ = (.ok (b + out.script.length), _) :=
    (run_bind_ok hlength).trans (run_bind_ok hscript)
  have hwrite : out.write.run _ = (.ok (a + (b + out.script.length)), _) :=
    (run_bind_ok hvalue).trans (run_bind_ok hvector)
  rw [hwrite, List.nil_append, List.append_assoc]
  rfl

/-- **What arrives of an output** at a sink that never fails. The script arrives, and the value and
    the length of the script arrive as far as the calls for them are accepted, so that the whole wire
    form arrives if and only if these calls are accepted whole. The count that is reported is the one
    of the bytes that have arrived. A sink that accepts eight bytes of each call gets everything. -/
theorem write_acceptsAtLeast (hk : 0 < k) (hs : AcceptsAtLeast k s) (out : TxOut) :
    ∃ a b s₁ s₂ s',
      (Wire.writeInt64 out.value).run s = (.ok a, s₁) ∧
      (CompactSize.write (UInt64.ofNat out.script.length)).run s₁ = (.ok b, s₂) ∧
      out.write.run s = (.ok (out.cutWire a b).length, s') ∧
      out.write.run (⟨s, []⟩ : Recorded σ) =
        (.ok (out.cutWire a b).length, ⟨s', out.cutWire a b⟩) ∧
      min k 8 ≤ a ∧ min (k + 1) out.script.lengthWidth ≤ b ∧
      ((out.cutWire a b).length = out.wireLength ↔ a = 8 ∧ b = out.script.lengthWidth) ∧
      (out.cutWire a b = out.toWire ↔ a = 8 ∧ b = out.script.lengthWidth) ∧
      (8 ≤ k → out.cutWire a b = out.toWire) := by
  obtain ⟨a, b, s₁, s₂, s', r₁, r₂, hvalue, hlength, hwrite, ha, hale, hb, hble⟩ :=
    exists_run_write hk hs out
  rw [← length_cutWire hale hble] at hwrite
  refine ⟨a, b, s₁, s₂, s', ?_, ?_, ?_, hwrite, ha, hb, length_cutWire_eq_iff hale hble,
    cutWire_eq_toWire_iff hale hble, ?_⟩
  -- The sink does all this without the record, too.
  · exact (Recorded.follows_once _).run_eq hvalue
  · exact (Recorded.follows_compactSize _).run_eq hlength
  · exact (Recorded.follows_txOut out).run_eq hwrite
  · intro height
    have hwidth : out.script.lengthWidth ≤ 9 := CompactSize.width_le _
    exact (cutWire_eq_toWire_iff hale hble).mpr ⟨by omega, by omega⟩

/-- A data carrier, written to a sink that accepts eight bytes of each call and to one that accepts
    single bytes. The second one gets one byte of the value. -/
theorem write_acceptsAtLeast_dataCarrier :
    (∃ s', (dataCarrier [1, 2]).write.run
        (⟨Bounded.empty (some 8) none none, []⟩ : Recorded Bounded) =
      (.ok 13, ⟨s', [0, 0, 0, 0, 0, 0, 0, 0, 0x04, 0x6a, 0x02, 0x01, 0x02]⟩)) ∧
    ∃ s', (dataCarrier [1, 2]).write.run
        (⟨Bounded.empty (some 1) none none, []⟩ : Recorded Bounded) =
      (.ok 6, ⟨s', [0, 0x04, 0x6a, 0x02, 0x01, 0x02]⟩) := by
  constructor
  · obtain ⟨a, b, _, _, s', -, -, -, hwrite, -, -, -, -, hwhole⟩ :=
      write_acceptsAtLeast (by decide) (Bounded.acceptsAtLeast_empty 8 none) (dataCarrier [1, 2])
    have hform : (dataCarrier [1, 2]).toWire =
        [0, 0, 0, 0, 0, 0, 0, 0, 0x04, 0x6a, 0x02, 0x01, 0x02] := by
      rw [toWire_eq]
      decide
    refine ⟨s', ?_⟩
    rw [hwrite, hwhole (by decide), hform]
    rfl
  · obtain ⟨a, b, _, _, s', hvalue, hlength, -, hwrite, -⟩ :=
      write_acceptsAtLeast (by decide) (Bounded.acceptsAtLeast_empty 1 none) (dataCarrier [1, 2])
    -- The sink says how much it accepts of the value and of the length.
    cases hvalue
    cases hlength
    exact ⟨s', hwrite⟩

/-- **A sink that accepts single bytes loses the rest of the value**, although it never fails and
    accepts something of each call. -/
theorem write_loses_bytes :
    ¬∀ (σ : Type) (_ : ByteSink σ) (s : σ) (out : TxOut), AcceptsAtLeast 1 s →
      ∃ s', out.write.run (⟨s, []⟩ : Recorded σ) = (.ok out.wireLength, ⟨s', out.toWire⟩) := by
  intro hall
  let s : Bounded := .empty (some 1) none none
  have hs : AcceptsAtLeast 1 s := Bounded.acceptsAtLeast_empty 1 none
  obtain ⟨s', hwhole⟩ := hall Bounded inferInstance s null hs
  obtain ⟨a, b, _, _, _, _, _, hvalue, -, hwrite, -, -, -, hb⟩ :=
    exists_run_write (by decide) hs null
  -- One byte of the value arrives, and one is all that there is of the length.
  have ha : a = 1 := by
    cases hvalue
    rfl
  have hlength : null.script.lengthWidth = 1 := by decide
  have hcount : a + (b + null.script.length) = null.wireLength := by
    rw [hwrite, Prod.mk.injEq, Except.ok.injEq] at hwhole
    exact hwhole.1
  have hwire : null.wireLength = 9 := by decide
  have hempty : null.script.length = 0 := rfl
  omega

end Write

end TxOut

end BitcoinCash
