import BitcoinCash.Json.Value

/-! # JSON numbers

  - **Scanning** finds the parts of a literal: a sign, whole digits without a zero in front, and
    perhaps a fraction and an exponent.
  - **The value** of a literal without fraction and exponent is an integer if it fits in 64 bits.
    Minus zero is not an integer.
  - **A floating-point value** is computed in two steps, each of which rounds: as many digits as
    fit in an unsigned integer of 64 bits, and a power of ten. It may miss the nearest number by
    a little. A literal that is too large has no value.
-/

namespace BitcoinCash.Json

/-- The parts of a number literal. -/
structure Literal where
  /-- Is there a minus sign? -/
  negative : Bool
  /-- The digits in front of the point. -/
  whole : List Nat
  /-- The digits after the point, if there is one. -/
  fraction : List Nat
  /-- The sign and the digits of the exponent, if there is one. -/
  exponent : Option (Bool × List Nat)

/-! ## Scanning -/

/-- The digits that a text begins with, and the rest. -/
def scanDigits (t : Text) : List Nat × Text :=
  ((t.takeWhile Char.isDigit).map fun c => c.toNat - '0'.toNat, t.dropWhile Char.isDigit)

/-- The digits that a text begins with, at least one of them. -/
def scanSomeDigits? (t : Text) : Option (List Nat × Text) :=
  match scanDigits t with
  | ([], _) => none
  | found => some found

/-- Whole digits: a zero alone, or digits of which the first one is not zero. -/
def scanWhole? : Text → Option (List Nat × Text)
  | '0' :: t => some ([0], t)
  | t => scanSomeDigits? t

/-- A fraction, if the text begins with a point. -/
def scanFraction? : Text → Option (List Nat × Text)
  | '.' :: t => scanSomeDigits? t
  | t => some ([], t)

/-- The digits of an exponent with its sign. -/
def scanSigned? : Text → Option ((Bool × List Nat) × Text)
  | '-' :: t => (scanSomeDigits? t).map fun (ds, t) => ((true, ds), t)
  | '+' :: t => (scanSomeDigits? t).map fun (ds, t) => ((false, ds), t)
  | t => (scanSomeDigits? t).map fun (ds, t) => ((false, ds), t)

/-- An exponent, if the text begins with its letter. -/
def scanExponent? : Text → Option (Option (Bool × List Nat) × Text)
  | 'e' :: t => (scanSigned? t).map fun (e, t) => (some e, t)
  | 'E' :: t => (scanSigned? t).map fun (e, t) => (some e, t)
  | t => some (none, t)

/-- The literal of a number without its sign. -/
def scanUnsigned? (negative : Bool) (t : Text) : Option (Literal × Text) := do
  let (whole, t) ← scanWhole? t
  let (fraction, t) ← scanFraction? t
  let (exponent, t) ← scanExponent? t
  return (⟨negative, whole, fraction, exponent⟩, t)

/-- The number literal that a text begins with. -/
def scanNumber? : Text → Option (Literal × Text)
  | '-' :: t => scanUnsigned? true t
  | t => scanUnsigned? false t

/-! ## Value -/

/-- Appends digits to a number as long as it fits in 64 bits. The result has the digits that did
    not fit. -/
def takeDigits (n : Nat) : List Nat → Nat × List Nat
  | [] => (n, [])
  | d :: ds => if 10 * n + d < UInt64.size then takeDigits (10 * n + d) ds else (n, d :: ds)

/-- A power of ten, correctly rounded. -/
def powerOfTen (k : Nat) : Float :=
  Float.ofScientific 1 false k

/-- `f` · 10^`exponent`, unless it is too large. Powers of ten up to 308 are numbers; for a smaller
    number than they can make, the division is done in steps. -/
def scale? (f : Float) (exponent : Int) : Option Float :=
  if exponent.natAbs ≤ 308 then
    if 0 ≤ exponent then
      let scaled := f * powerOfTen exponent.natAbs
      if scaled.isInf then none else some scaled
    else some (f / powerOfTen exponent.natAbs)
  else if f == 0 then some f
  else if 0 ≤ exponent then none
  else scale? (f / powerOfTen 308) (exponent + 308)
termination_by (-exponent).toNat
decreasing_by omega

/-- A number with the sign of its literal. -/
def Literal.signed (l : Literal) (x : Float) : Json :=
  .float (if l.negative then -x else x)

/-- The value of a literal that is no integer: the digits `n` that fit, times a power of ten. -/
def Literal.float? (l : Literal) (n : Nat) (dropped : Nat) : Option Json :=
  let (n, rest) := takeDigits n l.fraction
  let start : Int := dropped - (l.fraction.length - rest.length : Nat)
  let f := (UInt64.ofNat n).toFloat
  match l.exponent with
  | none => (scale? f start).map l.signed
  | some (below, ds) =>
    let e : Nat := ds.foldl (fun e d => 10 * e + d) 0
    if 0x80000000 ≤ e then if n ≠ 0 ∧ !below then none else some (l.signed 0)
    else (scale? f (if below then start - (e : Int) else start + (e : Int))).map l.signed

/-- The value of a literal. -/
def Literal.value? (l : Literal) : Option Json :=
  let (n, rest) := takeDigits 0 l.whole
  if rest.isEmpty && l.fraction.isEmpty && l.exponent.isNone then
    if !l.negative then some (.int n)
    else if n = 0 ∨ Int64.minValue.toInt.natAbs < n then some (l.signed (UInt64.ofNat n).toFloat)
    else some (.int (-n))
  else l.float? n rest.length

end BitcoinCash.Json
