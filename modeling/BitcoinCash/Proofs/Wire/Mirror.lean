import BitcoinCash.Proofs.Wire.RoundTrip

/-! # Sinks that mirror each other

  What is written to one sink can say all about what is written to another one.

  - **`ByteSink.Mirrors`**: a map between the states of two sinks that every single call respects.
  - **`Writing.Mirrors`**: every run of a computation respects the map. It is kept by `>>=`, so that
    each writer needs one line for each of its parts, up to outputs (`ByteSink.Mirrors.txOut`).
-/

namespace BitcoinCash

/-! ## Computations -/

section Writing

variable {τ σ α β : Type} {g : τ → σ}

/-- **A computation mirrors another one** if it gives the same result, and ends with the image of the
    state that the other one ends with, whenever it begins with such an image. -/
def Writing.Mirrors (g : τ → σ) (x : Writing τ α) (y : Writing σ α) : Prop :=
  ∀ r, y.run (g r) = ((x.run r).1, g (x.run r).2)

theorem Writing.Mirrors.pure (a : α) :
    Mirrors g (pure a : Writing τ α) (pure a) := fun _ => rfl

/-- A run of the one computation is a run of the other. -/
theorem Writing.Mirrors.run_eq {x : Writing τ α} {y : Writing σ α} (hxy : Mirrors g x y) {r r' : τ}
    {result : Except WireError α} (hx : x.run r = (result, r')) : y.run (g r) = (result, g r') := by
  rw [hxy r, hx]

/-- Steps that mirror each other do so in a row. -/
theorem Writing.Mirrors.bind {x : Writing τ α} {y : Writing σ α} {f : α → Writing τ β}
    {f' : α → Writing σ β} (hxy : Mirrors g x y) (hf : ∀ a, Mirrors g (f a) (f' a)) :
    Mirrors g (x >>= f) (y >>= f') := by
  intro r
  rcases hx : x.run r with ⟨result, r'⟩
  have hy := hxy.run_eq hx
  cases result with
  | ok a =>
    rw [run_bind_ok hx, run_bind_ok hy]
    exact hf a r'
  | error e => rw [run_bind_error hx, run_bind_error hy]

end Writing

/-! ## Sinks -/

variable {τ σ : Type} [ByteSink τ] [ByteSink σ] {g : τ → σ}

/-- **A sink mirrors another one**: every call is answered like the one to the other sink. -/
def ByteSink.Mirrors (g : τ → σ) : Prop :=
  ∀ bs r, ByteSink.write bs (g r) = ((ByteSink.write bs r).1, g (ByteSink.write bs r).2)

namespace ByteSink.Mirrors

/-- A call to the one sink is a call to the other. -/
theorem write_eq (hg : Mirrors g) {bs : Bytes} {r r' : τ} {acceptance : Acceptance}
    (h : ByteSink.write bs r = (acceptance, r')) :
    ByteSink.write bs (g r) = (acceptance, g r') := by
  rw [hg bs r, h]

theorem once (hg : Mirrors g) (bs : Bytes) :
    Writing.Mirrors g (Writing.once bs) (Writing.once bs) := by
  intro r
  show putOnce bs (g r) = ((putOnce bs r).1, g (putOnce bs r).2)
  unfold putOnce
  rcases hwrite : ByteSink.write bs r with ⟨n | f, r'⟩
  · rw [hg.write_eq hwrite]
  · rw [hg.write_eq hwrite]

theorem all (hg : Mirrors g) (bs : Bytes) :
    Writing.Mirrors g (Writing.all bs) (Writing.all bs) := by
  intro r
  show putAll bs (g r) = ((putAll bs r).1, g (putAll bs r).2)
  -- The induction is on the calls; each of them leaves fewer bytes or fewer interruptions.
  fun_induction putAll bs r with
  | case1 bs r hempty => rw [putAll_eq, if_pos hempty]
  | case2 bs r hempty r' hwrite =>
    rw [putAll_eq, if_neg hempty, hg.write_eq hwrite]
  | case3 bs r hempty n r' hwrite ih =>
    rw [putAll_eq, if_neg hempty, hg.write_eq hwrite]
    exact ih
  | case4 bs r hempty r' hwrite ih =>
    rw [putAll_eq, if_neg hempty, hg.write_eq hwrite]
    exact ih
  | case5 bs r hempty f r' hfault hwrite =>
    rw [putAll_eq, if_neg hempty, hg.write_eq hwrite]
    -- An interruption would not have ended the run.
    cases f with
    | interrupted => exact absurd rfl hfault
    | _ => rfl

/-! ## Writers -/

theorem compactSize (hg : Mirrors g) (n : UInt64) :
    Writing.Mirrors g (CompactSize.write n) (CompactSize.write n) := by
  unfold CompactSize.write
  cases CompactSize.marker? (CompactSize.width n) with
  | none => exact hg.once _
  | some m => exact (hg.once [m]).bind fun a => (hg.once _).bind fun b => .pure (a + b)

theorem writeVector (hg : Mirrors g) (bs : Bytes) :
    Writing.Mirrors g (Wire.writeVector bs) (Wire.writeVector bs) :=
  (hg.compactSize _).bind fun n => (hg.all bs).bind fun _ => .pure (n + bs.length)

/-- **An output is written** to the one sink as to the other. -/
theorem txOut (hg : Mirrors g) (out : TxOut) : Writing.Mirrors g out.write out.write :=
  (hg.once _).bind fun a => (hg.writeVector _).bind fun b => .pure (a + b)

end ByteSink.Mirrors

end BitcoinCash
