/-
# The shortest decimal of a binary number

A binary number is written with the fewest decimal digits that read back as
the same number, and of those with the digits nearest to it. Numbers from
`0.0001` up to `10 ^ 16` are written positionally and keep at least one digit
after the point; the others carry an exponent of at least two digits.
-/

import TermText.Number.Binary

namespace TermText.Number.Binary

/-- How many decimal digits a whole number has. -/
def decimalLength (n : Nat) : Nat := (Nat.toDigits 10 n).length

/-- `n · 10 ^ k`, where a negative `k` counts as zero. -/
def decimalScaled (n : Nat) (k : Int) : Nat := n * Nat.pow 10 k.toNat

/-- The `k` with `10 ^ k ≤ n / d < 10 ^ (k + 1)`, for positive `n` and `d`. -/
def decade (n d : Nat) : Int :=
  let guess := (decimalLength n : Int) - (decimalLength d : Int)
  if decimalScaled n (-guess) < decimalScaled d guess then guess - 1 else guess

/-- A decimal `digits · 10 ^ exponent`. -/
structure Decimal where
  digits : Nat
  exponent : Int
  deriving DecidableEq, Repr

/-- The decimal with `count` digits that reads back as `number` and is nearest
to `n / d`, if there is one. On the grid of `count` digits only the two
neighbours of the value can be nearest; a tie goes to the even one. -/
def nearestReadingBack (number : Binary) (negative : Bool) (n d count : Nat) : Option Decimal :=
  let exponent := decade n d - (count : Int) + 1
  let top := decimalScaled n (-exponent)
  let bottom := decimalScaled d exponent
  let lower := top / bottom
  let rest := top % bottom
  let preferUpper := 2 * rest > bottom || (2 * rest == bottom && lower % 2 == 1)
  let candidates := if preferUpper then [lower + 1, lower] else [lower, lower + 1]
  (candidates.find? fun digits => ofDecimal negative digits exponent == number).map
    fun digits => ⟨digits, exponent⟩

/-- The shortest decimal that reads back. Seventeen digits always suffice. -/
def shortest (negative : Bool) (significand : Nat) (exponent : Int) : Decimal :=
  let n := scaled significand exponent
  let d := scaled 1 (-exponent)
  let number := Binary.finite negative significand exponent
  ((List.range 17).findSome? fun count =>
    nearestReadingBack number negative n d (count + 1)).getD ⟨0, 0⟩

/-- Digits before and after the point, for a decimal whose first digit has
place value `10 ^ place`. -/
def positional (digits : List Char) (place : Int) : List Char :=
  if place < 0 then
    ['0', '.'] ++ List.replicate (-place - 1).toNat '0' ++ digits
  else
    let before := place.toNat + 1
    let padded := digits ++ List.replicate (before - digits.length) '0'
    let after := padded.drop before
    padded.take before ++ ['.'] ++ (if after.isEmpty then ['0'] else after)

/-- One digit before the point, and an exponent with a sign and at least two digits. -/
def exponential (digits : List Char) (place : Int) : List Char :=
  let size := Nat.toDigits 10 place.natAbs
  let padded := if size.length < 2 then '0' :: size else size
  let fraction := if digits.length ≤ 1 then [] else '.' :: digits.drop 1
  digits.take 1 ++ fraction ++ ['e', if place < 0 then '-' else '+'] ++ padded

/-- Digits without the zeros at their end, which say nothing about the value. -/
def significant (digits : List Char) : List Char :=
  (digits.reverse.dropWhile (· == '0')).reverse

/-- The written form of a number without its sign. -/
def magnitude (negative : Bool) (significand : Nat) (exponent : Int) : List Char :=
  if significand = 0 then ['0', '.', '0']
  else
    let decimal := shortest negative significand exponent
    let place := decimal.exponent + (decimalLength decimal.digits : Int) - 1
    let digits := significant (Nat.toDigits 10 decimal.digits)
    if -4 ≤ place && place < 16 then positional digits place else exponential digits place

/-- The written form of a number. -/
def literal : Binary → String
  | .infinite negative => if negative then "-inf" else "inf"
  | .finite negative significand exponent =>
      let text := magnitude negative significand exponent
      String.ofList (if negative then '-' :: text else text)

end TermText.Number.Binary
