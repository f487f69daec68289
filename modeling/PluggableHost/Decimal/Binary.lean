namespace PluggableHost.Decimal

/-!
# Binary floating point numbers, exactly

A floating point number of double width is kept as an integer times a power of
two, so that reading a decimal and writing one are exact integer arithmetic.
-/

/-- A double-width number: a class, or a signed `mantissa · 2 ^ exponent`. -/
inductive Binary where
  | notANumber
  | infinite (negative : Bool)
  | finite (negative : Bool) (mantissa : Nat) (exponent : Int)
  deriving Repr, DecidableEq

/-- The exponent of the smallest positive number. -/
def leastExponent : Int := -1074

/-- The quotient of two natural numbers, rounded to the nearest, ties to even. -/
def roundedQuotient (numerator denominator : Nat) : Nat :=
  let quotient := numerator / denominator
  let remainder := numerator % denominator
  if 2 * remainder > denominator then quotient + 1
  else if 2 * remainder = denominator then quotient + quotient % 2
  else quotient

/--
The exponent at which `numerator / denominator` has 53 binary digits, or the least one.

The estimate is right where the quotient is below `2 ^ 53` at it, and one too small
otherwise.
-/
def fittingExponent (numerator denominator : Nat) : Int :=
  let estimate : Int := (numerator.log2 : Int) - (denominator.log2 : Int) - 53
  let scaled (exponent : Int) : Bool :=
    if exponent ≥ 0 then numerator < Nat.pow 2 53 * (denominator * Nat.pow 2 exponent.toNat)
    else numerator * Nat.pow 2 (-exponent).toNat < Nat.pow 2 53 * denominator
  let exponent := if scaled estimate then estimate else estimate + 1
  if exponent < leastExponent then leastExponent else exponent

/-- The number nearest to a non-negative quotient, or infinity when that is out of range. -/
def nearest (negative : Bool) (numerator denominator : Nat) : Binary :=
  if numerator = 0 then .finite negative 0 leastExponent
  else
    let exponent := fittingExponent numerator denominator
    let mantissa :=
      if exponent ≥ 0 then roundedQuotient numerator (denominator * Nat.pow 2 exponent.toNat)
      else roundedQuotient (numerator * Nat.pow 2 (-exponent).toNat) denominator
    let carried := mantissa = Nat.pow 2 53
    let exponent := if carried then exponent + 1 else exponent
    let mantissa := if carried then Nat.pow 2 52 else mantissa
    if exponent > 971 then .infinite negative
    else .finite negative mantissa exponent

/-- The number nearest to `digits · 10 ^ scale`, for a scale of any size. -/
def ofDecimal (negative : Bool) (digits : Nat) (scale : Int) : Binary :=
  if digits = 0 then .finite negative 0 leastExponent
  else
    let magnitude := (Nat.toDigits 10 digits).length + scale
    if magnitude > 400 then .infinite negative
    else if magnitude < -400 then .finite negative 0 leastExponent
    else if scale ≥ 0 then nearest negative (digits * Nat.pow 10 scale.toNat) 1
    else nearest negative digits (Nat.pow 10 (-scale).toNat)

end PluggableHost.Decimal
