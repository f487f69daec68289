namespace PluggableHost.Text

/-!
# Digits

Numbers as digits of a base up to sixteen, in ASCII alone.
-/

/-- The value of a digit in a base up to sixteen. -/
def digitValue? (base : Nat) (character : Char) : Option Nat :=
  let code := character.toNat
  let value :=
    if 48 ≤ code && code ≤ 57 then code - 48
    else if 97 ≤ code && code ≤ 102 then code - 87
    else if 65 ≤ code && code ≤ 70 then code - 55
    else 16
  if value < base then some value else none

/-- The character is a digit in a base. -/
def isDigitOf (base : Nat) (character : Char) : Bool :=
  (digitValue? base character).isSome

/-- The number that digits write in a base. -/
def digitsValue (base : Nat) (digits : List Char) : Nat :=
  digits.foldl (fun value digit => value * base + (digitValue? base digit).getD 0) 0

end PluggableHost.Text
