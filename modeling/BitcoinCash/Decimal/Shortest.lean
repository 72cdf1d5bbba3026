import BitcoinCash.Text

/-! # Shortest decimals

  The decimal text of a binary floating-point number: the fewest digits that read back as the
  number, and of those the nearest to it; of two equally near ones the even one.

  A number is m · 2^q. It is what every real in an interval around it is rounded to: the interval
  reaches halfway to either neighbour, and its ends belong to it exactly if m is even. All of this
  is arithmetic on natural numbers over a common denominator.
-/

namespace BitcoinCash.Decimal

/-- **The reals that are rounded to a number**, as fractions with one denominator. -/
structure Rounding where
  /-- Numerator of the lower end. -/
  low : Nat
  /-- Numerator of the number itself. -/
  value : Nat
  /-- Numerator of the upper end. -/
  high : Nat
  /-- The denominator of the three. -/
  denominator : Nat
  /-- Do the ends belong to the interval? -/
  closed : Bool

/-- The interval of a finite positive number, given the bits of its binary form without the sign:
    a stored exponent, and 52 bits of a fraction. Below a power of two the neighbours are twice as
    close as above it. -/
def Rounding.ofBits (bits : Nat) : Rounding :=
  let stored : Nat := bits >>> 52
  let fraction := bits % (1 <<< 52)
  let m := if stored = 0 then fraction else (1 <<< 52) + fraction
  let q : Int := if stored = 0 then -1074 else (stored : Int) - 1075
  let below := if fraction = 0 ∧ 1 < stored then 1 else 2
  let up := 1 <<< (q - 2).toNat
  ⟨(4 * m - below) * up, 4 * m * up, (4 * m + 2) * up, 1 <<< (2 - q).toNat, m % 2 = 0⟩

/-- A power of ten. -/
def tenTo (exponent : Nat) : Nat :=
  Nat.pow 10 exponent

/-- How `digits` · 10^`exponent` compares with a fraction. -/
def compareScaled (digits : Nat) (exponent : Int) (numerator denominator : Nat) : Ordering :=
  compare (digits * tenTo exponent.toNat * denominator) (numerator * tenTo (-exponent).toNat)

/-- Is `digits` · 10^`exponent` rounded to the number? -/
def Rounding.contains (r : Rounding) (digits : Nat) (exponent : Int) : Bool :=
  let fromLow := compareScaled digits exponent r.low r.denominator
  let fromHigh := compareScaled digits exponent r.high r.denominator
  (fromLow == .gt || (r.closed && fromLow == .eq)) &&
    (fromHigh == .lt || (r.closed && fromHigh == .eq))

/-- The least power of ten above the number, as an exponent. -/
def Rounding.magnitude (r : Rounding) : Int :=
  let exponents := (List.range 640).map fun (i : Nat) => (i : Int) - 324
  (exponents.find? fun k => compareScaled 1 k r.value r.denominator == .gt).getD 316

/-- The multiple of 10^`exponent` that is rounded to the number and nearest to it, as the
    multiplier. -/
def Rounding.nearest? (r : Rounding) (exponent : Int) : Option Nat :=
  let grid := r.denominator * tenTo exponent.toNat
  let value := r.value * tenTo (-exponent).toNat
  let below := value / grid
  let hitBelow := r.contains below exponent
  let hitAbove := r.contains (below + 1) exponent
  let preferAbove :=
    match compare (2 * value) ((2 * below + 1) * grid) with
    | .lt => false
    | .gt => true
    | .eq => below % 2 = 1
  if hitBelow && hitAbove then some (if preferAbove then below + 1 else below)
  else if hitBelow then some below
  else if hitAbove then some (below + 1)
  else none

/-- The shortest digits, without zeros at the end, and the exponent of the first one plus one: the
    number is 0.d₁d₂… · 10^exponent. -/
def Rounding.shortest (r : Rounding) : Text × Int :=
  let k := r.magnitude
  let found := (List.range 17).findSome? fun (i : Nat) =>
    (r.nearest? (k - (i + 1))).map (·, k - (i + 1))
  let (digits, exponent) := found.getD (0, 0)
  let text := Text.decimal digits
  ((text.reverse.dropWhile (· == '0')).reverse, exponent + text.length)

/-- An exponent with its sign, which is written in front of a positive one too. -/
def exponentText (exponent : Int) : Text :=
  if exponent < 0 then Text.decimalInt exponent else '+' :: Text.decimalInt exponent

/-- Lays out digits in front of an exponent. From 10^−5 to 10^16 the text is positional and has a
    fraction; outside it has one digit in front of the point and a signed exponent. -/
def layOut (digits : Text) (point : Int) : Text :=
  let count := digits.length
  if count ≤ point ∧ point ≤ 16 then
    digits ++ List.replicate (point.toNat - count) '0' ++ ['.', '0']
  else if 0 < point ∧ point ≤ 16 then
    digits.take point.toNat ++ '.' :: digits.drop point.toNat
  else if -5 < point ∧ point ≤ 0 then
    ['0', '.'] ++ List.replicate (-point).toNat '0' ++ digits
  else
    let fraction := if count ≤ 1 then [] else '.' :: digits.drop 1
    digits.take 1 ++ fraction ++ 'e' :: exponentText (point - 1)

/-- The decimal text of a finite number. -/
def ofFloat (x : Float) : Text :=
  let bits := x.toBits.toNat
  let sign := if 1 <<< 63 ≤ bits then ['-'] else []
  let bits := bits % (1 <<< 63)
  if bits = 0 then sign ++ ['0', '.', '0']
  else
    let (digits, point) := (Rounding.ofBits bits).shortest
    sign ++ layOut digits point

end BitcoinCash.Decimal
