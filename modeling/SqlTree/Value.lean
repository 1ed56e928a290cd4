/-! # Values

The values that a statement carries, and how each is written as an SQL literal. Compiled text holds
placeholders in their place; the literals are for reading and logging. They are made of numerals,
dates and quoted texts, which come first.
-/

namespace SqlTree

/-! ## Decimal numerals

Natural numbers, integers and decimals as text, and the shortest decimal among the reals that
round to a binary number. The reals that round to it form an interval around it; the shortest
decimal is the one on the coarsest grid of multiples of a power of ten that meets the interval,
and of two such multiples the nearer. All comparisons are between natural numbers, so they are
exact.
-/

/-- The decimal digits of `n`, at least `width` of them, with zeros in front. -/
def paddedDigits (width n : Nat) : String :=
  let digits := Nat.toDigits 10 n
  String.ofList (List.replicate (width - digits.length) '0' ++ digits)

/-- The decimal digits of `n`, without needless zeros. -/
def naturalText (n : Nat) : String :=
  String.ofList (Nat.toDigits 10 n)

/-- The decimal digits of `i`, after a minus sign if it is negative. -/
def integerText (i : Int) : String :=
  if i < 0 then "-" ++ naturalText i.natAbs else naturalText i.natAbs

/-- The number `digits · 10 ^ exponent`. -/
structure Decimal where
  digits : Nat
  exponent : Int
deriving DecidableEq, Repr

namespace Decimal

/-- Positional notation: zeros fill the places between the digits and the point, and a number
below one has a zero before its point. There is no point after the last digit. -/
def text (decimal : Decimal) : String :=
  let digits := Nat.toDigits 10 decimal.digits
  if 0 ≤ decimal.exponent then
    String.ofList (digits ++ List.replicate decimal.exponent.toNat '0')
  else
    let places := (-decimal.exponent).toNat
    let whole := digits.length - places
    if places < digits.length then
      String.ofList (digits.take whole ++ '.' :: digits.drop whole)
    else
      String.ofList ('0' :: '.' :: (List.replicate (places - digits.length) '0' ++ digits))

end Decimal

/-- A positive number with the interval of reals that round to it. The three numbers count units
of `2 ^ exponent`; `closed` says whether the two ends belong to the interval. -/
structure RoundingInterval where
  low : Nat
  value : Nat
  high : Nat
  exponent : Int
  closed : Bool
deriving DecidableEq, Repr

namespace RoundingInterval

/-- What a number of units is multiplied by to compare it with multiples of `10 ^ place`. -/
def unitScale (interval : RoundingInterval) (place : Int) : Nat :=
  Nat.pow 2 interval.exponent.toNat * Nat.pow 10 (-place).toNat

/-- What a multiple of `10 ^ place` is multiplied by to compare it with numbers of units. -/
def placeScale (interval : RoundingInterval) (place : Int) : Nat :=
  Nat.pow 2 (-interval.exponent).toNat * Nat.pow 10 place.toNat

/-- Whether `digits · 10 ^ place` lies in the interval. -/
def contains (interval : RoundingInterval) (place : Int) (digits : Nat) : Bool :=
  let low := interval.low * interval.unitScale place
  let high := interval.high * interval.unitScale place
  let point := digits * interval.placeScale place
  if interval.closed then low ≤ point && point ≤ high else low < point && point < high

/-- The greatest `digits` with `digits · 10 ^ place` at most the number. -/
def floorAt (interval : RoundingInterval) (place : Int) : Nat :=
  interval.value * interval.unitScale place / interval.placeScale place

/-- The multiple of `10 ^ place` in the interval that is nearest to the number; the greater of
two that are equally near. -/
def nearestAt? (interval : RoundingInterval) (place : Int) : Option Nat :=
  let below := interval.floorAt place
  match interval.contains place below, interval.contains place (below + 1) with
  | true, true =>
    if 2 * (interval.value * interval.unitScale place) <
        (2 * below + 1) * interval.placeScale place then some below else some (below + 1)
  | true, false => some below
  | false, true => some (below + 1)
  | false, false => none

/-- The first place from `place` downward, among `count` places, with a multiple in the interval. -/
def searchFrom (interval : RoundingInterval) : (count : Nat) → (place : Int) → Decimal
  | 0, place => ⟨interval.floorAt place, place⟩
  | count + 1, place =>
    match interval.nearestAt? place with
    | some digits => ⟨digits, place⟩
    | none => interval.searchFrom count (place - 1)

/-- The least place whose power of ten is above the number, or a place little above that one. -/
def topPlace (interval : RoundingInterval) : Int :=
  let above := interval.value * Nat.pow 2 interval.exponent.toNat
  let below := Nat.pow 2 (-interval.exponent).toNat
  if below ≤ above then (Nat.toDigits 10 (above / below)).length
  else 1 - (Nat.toDigits 10 (below / above)).length

/-- The shortest decimal in the interval. A binary number of 53 bits has one of at most 17 digits,
so no more than 18 places are looked at. -/
def shortest (interval : RoundingInterval) : Decimal :=
  interval.searchFrom 20 interval.topPlace

end RoundingInterval

/-! ## Binary floating-point numbers

A number of the 64-bit binary interchange format is kept as its bits, so that two numbers are
equal exactly when their bits are. Its text has the fewest digits that read back as the number.
-/

/-- A binary floating-point number: a sign bit, eleven bits of exponent, 52 bits of fraction. -/
structure Binary64 where
  bits : UInt64
deriving DecidableEq, Repr, Inhabited

namespace Binary64

/-- The number with the value of a 32-bit binary floating-point number. -/
def ofBinary32 (bits : UInt32) : Binary64 :=
  ⟨(Float32.ofBits bits).toFloat.toBits⟩

def isNegative (number : Binary64) : Bool :=
  Nat.pow 2 63 ≤ number.bits.toNat

def biasedExponent (number : Binary64) : Nat :=
  number.bits.toNat / Nat.pow 2 52 % Nat.pow 2 11

def fraction (number : Binary64) : Nat :=
  number.bits.toNat % Nat.pow 2 52

/-- The magnitude of a finite number as a significand and the exponent of its last bit. -/
def magnitude (number : Binary64) : Nat × Int :=
  if number.biasedExponent = 0 then (number.fraction, -1074)
  else (Nat.pow 2 52 + number.fraction, number.biasedExponent - 1075)

/-- The reals that round to the magnitude of a finite number that is not zero. The gap below a
power of two is half the gap above it, and a half goes to the even significand. -/
def roundingInterval (number : Binary64) : RoundingInterval :=
  let (significand, exponent) := number.magnitude
  let narrow := number.fraction = 0 && 1 < number.biasedExponent
  { low := if narrow then 4 * significand - 1 else 4 * significand - 2
    value := 4 * significand
    high := 4 * significand + 2
    exponent := exponent - 2
    closed := significand % 2 = 0 }

/-- The number as text, in positional notation at every size. -/
def text (number : Binary64) : String :=
  if number.biasedExponent = 2047 then
    if number.fraction ≠ 0 then "NaN" else if number.isNegative then "-inf" else "inf"
  else
    let unsigned :=
      if number.magnitude.1 = 0 then "0" else number.roundingInterval.shortest.text
    if number.isNegative then "-" ++ unsigned else unsigned

end Binary64

/-! ## Dates and times of day

Dates of the proleptic Gregorian calendar and times of day as text. A leap second is kept as the
second 59 with a thousand million nanoseconds or more, and is written as the second 60.
-/

/-- A day of the proleptic Gregorian calendar; the year before year 1 is year 0. -/
structure Date where
  year : Int
  month : Nat
  day : Nat
deriving DecidableEq, Repr, Inhabited

/-- A time of day; `nano` is 10 ^ 9 or more within a leap second. -/
structure Time where
  hour : Nat
  minute : Nat
  second : Nat
  nano : Nat
deriving DecidableEq, Repr, Inhabited

structure DateTime where
  date : Date
  time : Time
deriving DecidableEq, Repr, Inhabited

/-- A year with at least four digits, and with a sign if it is not from 0 to 9999. -/
def yearText (year : Int) : String :=
  if year < 0 then "-" ++ paddedDigits 4 year.natAbs
  else if 9999 < year then "+" ++ paddedDigits 4 year.natAbs
  else paddedDigits 4 year.natAbs

/-- Year, month and day with hyphens between them. -/
def Date.text (date : Date) : String :=
  yearText date.year ++ "-" ++ paddedDigits 2 date.month ++ "-" ++ paddedDigits 2 date.day

/-- A fraction of a second after its point, to thousandths, millionths or thousand millionths as
is needed to be exact; nothing for a whole second. -/
def fractionText (nano : Nat) : String :=
  if nano = 0 then ""
  else if nano % 1000000 = 0 then "." ++ paddedDigits 3 (nano / 1000000)
  else if nano % 1000 = 0 then "." ++ paddedDigits 6 (nano / 1000)
  else "." ++ paddedDigits 9 nano

/-- Hour, minute and second with colons between them, and the fraction of the second. -/
def Time.text (time : Time) : String :=
  paddedDigits 2 time.hour ++ ":" ++ paddedDigits 2 time.minute ++ ":" ++
    paddedDigits 2 (time.second + time.nano / 1000000000) ++ fractionText (time.nano % 1000000000)

/-- The date and the time with a blank between them. -/
def DateTime.text (moment : DateTime) : String :=
  moment.date.text ++ " " ++ moment.time.text

/-! ## Quoted texts

A text between two quotes, with each quote inside it written twice, so that a quote that stands
alone ends it.
-/

namespace Quoted

/-- The characters with each `quote` among them written twice. -/
def doubled (quote : Char) (text : List Char) : List Char :=
  text.flatMap fun c => if c = quote then [c, c] else [c]

/-- The text between two quotes. -/
def enclose (quote : Char) (text : String) : String :=
  String.ofList (quote :: doubled quote text.toList ++ [quote])

end Quoted

/-! ## Literals -/

inductive Value where
  | null
  | bool (value : Bool)
  | int (value : Int64)
  | float (value : Binary64)
  | text (value : String)
  | blob (bytes : List UInt8)
  | date (value : Date)
  | dateTime (value : DateTime)
  | time (value : Time)
deriving DecidableEq, Repr, Inhabited

def hexDigit (n : Nat) : Char :=
  if n < 10 then Char.ofNat (48 + n) else Char.ofNat (55 + n)

def hexByte (byte : UInt8) : List Char :=
  [hexDigit (byte.toNat / 16), hexDigit (byte.toNat % 16)]

namespace Value

def isNull : Value → Bool
  | null => true
  | _ => false

def inline : Value → String
  | null => "NULL"
  | bool true => "TRUE"
  | bool false => "FALSE"
  | int value => integerText value.toInt
  | float value => value.text
  | text value => Quoted.enclose '\'' value
  | blob bytes => String.ofList ('X' :: '\'' :: bytes.flatMap hexByte ++ ['\''])
  | date value => "'" ++ value.text ++ "'"
  | dateTime value => "'" ++ value.text ++ "'"
  | time value => "'" ++ value.text ++ "'"

theorem isNull_iff {value : Value} : value.isNull = true ↔ value = null := by
  cases value <;> simp [isNull]

end Value

end SqlTree
