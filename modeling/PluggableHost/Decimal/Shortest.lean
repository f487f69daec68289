import PluggableHost.Decimal.Binary

namespace PluggableHost.Decimal

/-!
# The shortest decimal of a binary number

Of all decimals that read back as a number, the text shows one with the fewest
digits, and of those the nearest to it. The reals that read back form an
interval around the number, whose ends count when the mantissa is even.
-/

/-- A decimal, `digits · 10 ^ scale`. -/
structure Numeral where
  digits : Nat
  scale : Int
  deriving Repr, DecidableEq

/-- Compare `left · 2 ^ twos` with `right · 10 ^ tens` after clearing both powers. -/
def scaledPair (left : Nat) (twos : Int) (right : Nat) (tens : Int) : Nat × Nat :=
  (left * Nat.pow 2 twos.toNat * Nat.pow 10 (-tens).toNat,
    right * Nat.pow 10 tens.toNat * Nat.pow 2 (-twos).toNat)

/-- The reals that read back as a number, in units of `2 ^ unit`. -/
structure Interval where
  low : Nat
  centre : Nat
  high : Nat
  unit : Int
  closed : Bool

/-- The interval of a finite number. The gap below a power of two is half the gap above. -/
def readingInterval (mantissa : Nat) (exponent : Int) : Interval :=
  let narrowBelow := mantissa = Nat.pow 2 52 ∧ exponent > leastExponent
  { low := if narrowBelow then 4 * mantissa - 1 else 4 * mantissa - 2
    centre := 4 * mantissa
    high := 4 * mantissa + 2
    unit := exponent - 2
    closed := mantissa % 2 = 0 }

/-- The decimal lies in the interval. -/
def Interval.holds (interval : Interval) (decimal : Numeral) : Bool :=
  let below := scaledPair interval.low interval.unit decimal.digits decimal.scale
  let above := scaledPair interval.high interval.unit decimal.digits decimal.scale
  if interval.closed then below.1 ≤ below.2 && above.2 ≤ above.1
  else below.1 < below.2 && above.2 < above.1

/-- The two neighbours of the centre on the grid of multiples of `10 ^ scale`. -/
def Interval.neighbours (interval : Interval) (scale : Int) : Numeral × Numeral :=
  let pair := scaledPair interval.centre interval.unit 1 scale
  let digits := pair.1 / pair.2
  (⟨digits, scale⟩, ⟨digits + 1, scale⟩)

/--
The upper neighbour is at least as near to the centre as the lower one: twice the centre
is no less than the sum of both.
-/
def Interval.prefersUpper (interval : Interval) (lower : Numeral) : Bool :=
  let pair := scaledPair (2 * interval.centre) interval.unit (2 * lower.digits + 1) lower.scale
  pair.2 ≤ pair.1

/-- The neighbour on one grid that reads back, if one does. -/
def Interval.hit? (interval : Interval) (scale : Int) : Option Numeral :=
  let (lower, upper) := interval.neighbours scale
  match interval.holds lower, interval.holds upper with
  | true, true => some (if interval.prefersUpper lower then upper else lower)
  | true, false => some lower
  | false, true => some upper
  | false, false => none

/--
The scale at which the centre has one digit before the point.

The first digit of a fraction is found by growing the numerator up to the denominator.
-/
def Interval.leadingScale (interval : Interval) : Int :=
  let pair := scaledPair interval.centre interval.unit 1 0
  let whole := pair.1 / pair.2
  if whole > 0 then ((Nat.toDigits 10 whole).length : Int) - 1
  else
    let places := (Nat.toDigits 10 (pair.2 / pair.1)).length
    if pair.1 * Nat.pow 10 (places - 1) ≥ pair.2 then 1 - (places : Int) else -(places : Int)

/-- The first hit on grids of one digit, two digits and so on. -/
def Interval.firstHit (interval : Interval) (scale : Int) : Nat → Numeral
  | 0 => (interval.neighbours scale).1
  | fuel + 1 =>
      match interval.hit? scale with
      | some decimal => decimal
      | none => interval.firstHit (scale - 1) fuel

/-- The same decimal without a zero at its end, as the upper neighbour of a nine leaves one. -/
def Numeral.withoutLastZero (decimal : Numeral) : Numeral :=
  if decimal.digits % 10 = 0 then ⟨decimal.digits / 10, decimal.scale + 1⟩ else decimal

/-- The shortest decimal that reads back as a finite, non-zero number. -/
def shortest (mantissa : Nat) (exponent : Int) : Numeral :=
  let interval := readingInterval mantissa exponent
  (interval.firstHit interval.leadingScale 18).withoutLastZero

/-- The decimal in positional notation, with a point and at least one digit on either side. -/
def Numeral.positional (decimal : Numeral) : String :=
  let digits := Nat.toDigits 10 decimal.digits
  if decimal.scale ≥ 0 then
    String.ofList (digits ++ List.replicate decimal.scale.toNat '0') ++ ".0"
  else
    let places := (-decimal.scale).toNat
    let padded := List.replicate (places + 1 - digits.length) '0' ++ digits
    let split := padded.length - places
    String.ofList (padded.take split) ++ "." ++ String.ofList (padded.drop split)

/-- The number in its shortest decimal form. -/
def Binary.text : Binary → String
  | .notANumber => "NaN"
  | .infinite negative => if negative then "-inf" else "inf"
  | .finite negative mantissa exponent =>
      let magnitude :=
        if mantissa = 0 then "0.0" else (shortest mantissa exponent).positional
      if negative then "-" ++ magnitude else magnitude

end PluggableHost.Decimal
