import BitcoinCash.Text

/-! # Runs of code points

  A class of characters is a list of runs. A run is an arithmetic progression of code points:
  most have step 1, and alphabets in which capital and small letters alternate have step 2.
-/

namespace BitcoinCash.Text

/-- **A run of code points**: `first`, `first + step`, and so on up to `last`. -/
structure Run where
  /-- The first code point. -/
  first : Nat
  /-- The last code point. -/
  last : Nat
  /-- The distance between neighbours. -/
  step : Nat
  deriving DecidableEq, Repr

/-- Is the code point `n` in the run? -/
def Run.contains (r : Run) (n : Nat) : Bool :=
  r.first ≤ n && n ≤ r.last && (n - r.first) % r.step == 0

/-- Is the code point `n` in one of the runs? -/
def inRuns (rs : List Run) (n : Nat) : Bool :=
  rs.any (·.contains n)

/-- **A run that is moved as a whole**: its first code point goes to `target`. -/
structure Shift where
  /-- The code points that are moved. -/
  run : Run
  /-- Where the first of them goes. -/
  target : Nat
  deriving DecidableEq, Repr

/-- The code point that `n` goes to; `n` itself if no run holds it. -/
def shifted (ss : List Shift) (n : Nat) : Nat :=
  match ss.find? (·.run.contains n) with
  | some s => s.target + (n - s.run.first)
  | none => n

end BitcoinCash.Text
