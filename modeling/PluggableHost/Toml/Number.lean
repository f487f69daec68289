import PluggableHost.Decimal.Binary
import PluggableHost.Toml.Quotation

namespace PluggableHost.Toml

open PluggableHost.Text

/-!
# Numbers, dates and times in a document

Digits may be grouped by single underscores. Whole decimal numbers have no
leading zeros and fit 64 bits; a number with a fraction or an exponent is
finite. Dates must be in the calendar.
-/

/-- More digits of a base, where an underscore may stand between two. -/
def readMoreDigits (base : Nat) : List Char → List Char × List Char
  | '_' :: digit :: rest =>
      if isDigitOf base digit then
        let (digits, rest) := readMoreDigits base rest
        (digit :: digits, rest)
      else ([], '_' :: digit :: rest)
  | digit :: rest =>
      if isDigitOf base digit then
        let (digits, rest) := readMoreDigits base rest
        (digit :: digits, rest)
      else ([], digit :: rest)
  | [] => ([], [])

/-- Read digits of a base; at least one. -/
def readDigits (base : Nat) : List Char → Option (Reading (List Char))
  | digit :: rest =>
      if isDigitOf base digit then
        let (digits, rest) := readMoreDigits base rest
        some (digit :: digits, rest)
      else none
  | [] => none

/-- A decimal number without leading zeros. -/
def readWhole : List Char → Option (Reading (List Char))
  | '0' :: rest => some (['0'], rest)
  | text => readDigits 10 text

/-- An optional sign; true is minus. -/
def readSign : List Char → Bool × List Char
  | '+' :: rest => (false, rest)
  | '-' :: rest => (true, rest)
  | text => (false, text)

/-- The integers of 64 bits. -/
def fitsInteger (value : Int) : Bool :=
  -9223372036854775808 ≤ value && value ≤ 9223372036854775807

/-- A number in digits of a base that its prefix names. -/
def readBased (base : Nat) (text : List Char) : Option (Reading Int) := do
  let (digits, rest) ← readDigits base text
  let value : Int := digitsValue base digits
  if fitsInteger value then some (value, rest) else none

/-- Read a whole number in any of its forms. -/
def readInteger : List Char → Option (Reading Int)
  | '0' :: 'x' :: rest => readBased 16 rest
  | '0' :: 'o' :: rest => readBased 8 rest
  | '0' :: 'b' :: rest => readBased 2 rest
  | text => do
      let (negative, text) := readSign text
      let (digits, rest) ← readWhole text
      let magnitude : Int := digitsValue 10 digits
      let value := if negative then -magnitude else magnitude
      if fitsInteger value then some (value, rest) else none

/-- The digits after a point; none without a point. -/
def readFraction : List Char → Option (Reading (Option (List Char)))
  | '.' :: rest => (readDigits 10 rest).map fun (digits, rest) => (some digits, rest)
  | text => some (none, text)

/-- The exponent after its letter; none without one. -/
def readExponent : List Char → Option (Reading (Option Int))
  | letter :: rest =>
      if letter = 'e' || letter = 'E' then do
        let (negative, rest) := readSign rest
        let (digits, rest) ← readDigits 10 rest
        let magnitude : Int := digitsValue 10 digits
        some (some (if negative then -magnitude else magnitude), rest)
      else some (none, letter :: rest)
  | [] => some (none, [])

/-- The names of numbers that are not finite. -/
def readSpecial (negative : Bool) : List Char → Option (Reading Decimal.Binary)
  | 'i' :: 'n' :: 'f' :: rest => some (.infinite negative, rest)
  | 'n' :: 'a' :: 'n' :: rest => some (.notANumber, rest)
  | _ => none

/-- A number that is written out must not be greater than every double. -/
def isInRange : Decimal.Binary → Bool
  | .infinite negative => negative
  | _ => true

/-- A number with a fraction or an exponent, or one that is not finite. -/
def readFloat (text : List Char) : Option (Reading Decimal.Binary) :=
  let (negative, text) := readSign text
  match readSpecial negative text with
  | some reading => some reading
  | none => do
      let (whole, text) ← readWhole text
      let (fraction, text) ← readFraction text
      let (exponent, text) ← readExponent text
      if fraction.isNone && exponent.isNone then none
      let places := fraction.getD []
      let value := Decimal.ofDecimal negative (digitsValue 10 (whole ++ places))
        (exponent.getD 0 - places.length)
      if isInRange value then some (value, text) else none

/-- A number of exactly so many decimal digits. -/
def readFixed (count : Nat) (text : List Char) : Option (Reading Nat) :=
  let digits := text.take count
  if digits.length = count && digits.all (isDigitOf 10) then
    some (digitsValue 10 digits, text.drop count)
  else none

/-- A number of two digits within bounds. -/
def readTwo (low high : Nat) (text : List Char) : Option (Reading Nat) := do
  let (value, rest) ← readFixed 2 text
  if low ≤ value && value ≤ high then some (value, rest) else none

/-- Read the one character that is expected. -/
def readMark (mark : Char) : List Char → Option (List Char)
  | character :: rest => if character = mark then some rest else none
  | [] => none

/-- The number of days in a month. -/
def daysIn (year month : Nat) : Nat :=
  if month = 2 then
    if year % 4 = 0 && (year % 100 ≠ 0 || year % 400 = 0) then 29 else 28
  else if month = 4 || month = 6 || month = 9 || month = 11 then 30
  else 31

/-- A date in the calendar. -/
def skipDate (text : List Char) : Option (List Char) := do
  let (year, text) ← readFixed 4 text
  let text ← readMark '-' text
  let (month, text) ← readTwo 1 12 text
  let text ← readMark '-' text
  let (_, text) ← readTwo 1 (daysIn year month) text
  return text

/-- The fraction of a second, if there is one. -/
def skipSecondFraction (text : List Char) : Option (List Char) :=
  match text with
  | '.' :: rest =>
      if (rest.takeWhile (isDigitOf 10)).isEmpty then none
      else some (rest.dropWhile (isDigitOf 10))
  | _ => some text

/-- A time of the day, with seconds. -/
def skipTime (text : List Char) : Option (List Char) := do
  let (_, text) ← readTwo 0 23 text
  let text ← readMark ':' text
  let (_, text) ← readTwo 0 59 text
  let text ← readMark ':' text
  let (_, text) ← readTwo 0 60 text
  skipSecondFraction text

/-- An offset from universal time, if there is one. -/
def skipOffset (text : List Char) : Option (List Char) :=
  match text with
  | 'Z' :: rest => some rest
  | 'z' :: rest => some rest
  | sign :: rest =>
      if sign = '+' || sign = '-' then do
        let (_, rest) ← readTwo 0 23 rest
        let rest ← readMark ':' rest
        let (_, rest) ← readTwo 0 59 rest
        return rest
      else some text
  | [] => some []

/-- A date, a time, or both with or without an offset. -/
def skipMoment (text : List Char) : Option (List Char) :=
  match skipDate text with
  | some (mark :: rest) =>
      if mark = 'T' || mark = 't' || mark = ' ' then
        match skipTime rest with
        | some rest => skipOffset rest
        | none => if mark = ' ' then some (mark :: rest) else none
      else some (mark :: rest)
  | some [] => some []
  | none => skipTime text

end PluggableHost.Toml
