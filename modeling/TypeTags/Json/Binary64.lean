/-!
# Numbers of 64 bits

A number written with a fraction or an exponent is read as the nearest binary number of 53
significant bits, ties going to the even one, and written with the fewest decimal digits that read
back as the same number.

* `Binary64.ofDecimal`: the nearest number to a decimal.
* `Binary64.toInt?`: the integer a number is, if it is one.
* `Binary64.text`: the shortest decimal.
-/

namespace TypeTags

/-- A binary number; a finite one is `mantissa * 2 ^ exponent`, with its sign. -/
inductive Binary64 where
  | nan
  | infinite (negative : Bool)
  | finite (negative : Bool) (mantissa : Nat) (exponent : Int)
  deriving DecidableEq, Repr

namespace Binary64

/-- The quotient rounded to the nearest integer, a tie going to the even one. -/
def roundDiv (num den : Nat) : Nat :=
  let quotient := num / den
  let twice := 2 * (num % den)
  if twice < den then quotient
  else if den < twice then quotient + 1
  else if quotient % 2 = 0 then quotient else quotient + 1

/-- The fraction `num / den * base ^ power`, as a numerator and a denominator. -/
def scale (num den base : Nat) (power : Int) : Nat × Nat :=
  if 0 ≤ power then (num * Nat.pow base power.toNat, den)
  else (num, den * Nat.pow base (-power).toNat)

/-- The leading bit of a mantissa that has all of its 53 bits. -/
def leadingBit : Nat := Nat.pow 2 52

def minExponent : Int := -1074

def maxExponent : Int := 971

/-- The largest power of two that is at most `num / den`, for positive numbers. -/
def log2Ratio (num den : Nat) : Int :=
  let guess : Int := (Nat.log2 num : Int) - Nat.log2 den
  let (n, d) := scale num den 2 (-guess)
  if n < d then guess - 1 else guess

/-- The number nearest to a positive fraction. -/
def ofFraction (negative : Bool) (num den : Nat) : Binary64 :=
  let exponent := max minExponent (log2Ratio num den - 52)
  let (n, d) := scale num den 2 (-exponent)
  let mantissa := roundDiv n d
  let (mantissa, exponent) :=
    if mantissa = 2 * leadingBit then (leadingBit, exponent + 1) else (mantissa, exponent)
  if maxExponent < exponent then infinite negative else finite negative mantissa exponent

/-- The number nearest to `digits * 10 ^ power`. -/
def ofDecimal (negative : Bool) (digits : Nat) (power : Int) : Binary64 :=
  let places : Int := (Nat.toDigits 10 digits).length
  if digits = 0 ∨ places + power < -400 then finite negative 0 0
  else if 400 < places + power then infinite negative
  else
    let (num, den) := scale digits 1 10 power
    ofFraction negative num den

def toInt? : Binary64 → Option Int
  | finite negative mantissa exponent =>
    let (num, den) := scale mantissa 1 2 exponent
    if num % den = 0 then
      let n : Int := (num / den : Nat)
      some (if negative then -n else n)
    else none
  | _ => none

/-- The decimal exponent of the first digit of `num / den`, looked for in `fuel` steps upwards. -/
def leadingPower (num den : Nat) (power : Int) : Nat → Int
  | 0 => power
  | fuel + 1 =>
    let (n, d) := scale num den 10 (-(power + 1))
    if n < d then power else leadingPower num den (power + 1) fuel

/-- Whether a decimal lies in the interval of numbers that round to `mantissa * 2 ^ exponent`. -/
def readsBack (mantissa : Nat) (exponent : Int) (digits : Nat) (power : Int) : Bool :=
  let below := if mantissa = leadingBit ∧ minExponent < exponent then 1 else 2
  let (num, den) := scale (4 * digits) 1 10 power
  let (lowNum, lowDen) := scale (4 * mantissa - below) 1 2 exponent
  let (highNum, highDen) := scale (4 * mantissa + 2) 1 2 exponent
  let low := lowNum * den
  let high := highNum * den
  if mantissa % 2 = 0 then low ≤ num * lowDen && num * highDen ≤ high
  else low < num * lowDen && num * highDen < high

/-- The fewest digits that read back, trying `count` digits first and `fuel` more; the first digit
stands for the power `leading`. -/
def shortestFrom (mantissa : Nat) (exponent leading : Int) (count : Nat) : Nat → Nat × Int
  | 0 => (mantissa, 0)
  | fuel + 1 =>
    let power := leading - count + 1
    let (num, den) := scale mantissa 1 2 exponent
    let (n, d) := scale num den 10 (-power)
    let low := n / d
    let near := roundDiv n d
    let far := if near = low then low + 1 else low
    if readsBack mantissa exponent near power then (near, power)
    else if readsBack mantissa exponent far power then (far, power)
    else shortestFrom mantissa exponent leading (count + 1) fuel

/-- Decimal digits without the zeros at their end, which go into the power. -/
def dropZeros (digits : Nat) (power : Int) : Nat → Nat × Int
  | 0 => (digits, power)
  | fuel + 1 =>
    if digits % 10 = 0 ∧ digits ≠ 0 then dropZeros (digits / 10) (power + 1) fuel
    else (digits, power)

/-- A decimal in positional notation from `1e-4` up to `1e16`, and with an exponent of at least two
digits beyond; a fraction is always written, except before an exponent. -/
def decimalText (digits : Nat) (power : Int) : String :=
  let ds := Nat.toDigits 10 digits
  let leading := power + ds.length - 1
  if -4 ≤ leading ∧ leading < 16 then
    if 0 ≤ power then String.ofList (ds ++ List.replicate power.toNat '0') ++ ".0"
    else if 0 ≤ leading then
      let whole := ds.take (leading + 1).toNat
      String.ofList (whole ++ '.' :: ds.drop (leading + 1).toNat)
    else "0." ++ String.ofList (List.replicate (-leading - 1).toNat '0' ++ ds)
  else
    let fraction := if ds.tail.isEmpty then [] else '.' :: ds.tail
    let size := Nat.toDigits 10 leading.natAbs
    let padded := if size.length < 2 then '0' :: size else size
    String.ofList (ds.take 1 ++ fraction ++ ['e', if leading < 0 then '-' else '+'] ++ padded)

/-- The shortest decimal that reads back as the number. -/
def text : Binary64 → String
  | nan => "nan"
  | infinite negative => if negative then "-inf" else "inf"
  | finite negative mantissa exponent =>
    let body :=
      if mantissa = 0 then "0.0"
      else
        let (num, den) := scale mantissa 1 2 exponent
        let leading := leadingPower num den (-324) 640
        let (digits, power) := shortestFrom mantissa exponent leading 1 17
        let (digits, power) := dropZeros digits power 20
        decimalText digits power
    if negative then "-" ++ body else body

end Binary64

end TypeTags
