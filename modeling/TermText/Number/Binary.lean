/-
# Binary floating-point numbers

Numbers with a significand of 53 bits and an exponent from −1074 to 971, and
two infinities. All arithmetic here is exact on whole numbers and rounds once
at the end, to the nearest number and at a tie to the even significand.
-/

namespace TermText.Number

/-- A number `± significand · 2 ^ exponent`, or an infinity. Zero has a sign. -/
inductive Binary
  | finite (negative : Bool) (significand : Nat) (exponent : Int)
  | infinite (negative : Bool)
  deriving DecidableEq, Repr

namespace Binary

/-- `n · 2 ^ k`, where a negative `k` counts as zero. The quotient
`scaled n k / scaled d (-k)` is therefore `n / d · 2 ^ k` for every `k`. -/
def scaled (n : Nat) (k : Int) : Nat := n * Nat.pow 2 k.toNat

/-- The whole number nearest to `n / d`; of two equally near the even one. -/
def roundEven (n d : Nat) : Nat :=
  let whole := n / d
  let rest := n % d
  if 2 * rest < d then whole
  else if 2 * rest = d then whole + whole % 2
  else whole + 1

/-- The `k` with `2 ^ k ≤ n / d < 2 ^ (k + 1)`, for positive `n` and `d`. -/
def binade (n d : Nat) : Int :=
  let guess := (Nat.log2 n : Int) - (Nat.log2 d : Int)
  if scaled n (-guess) < scaled d guess then guess - 1 else guess

/-- The nearest number to `± n / d`. -/
def ofRatio (negative : Bool) (n d : Nat) : Binary :=
  if n = 0 then .finite negative 0 (-1074)
  else
    let exponent := max (binade n d - 52) (-1074)
    let significand := roundEven (scaled n (-exponent)) (scaled d exponent)
    if significand = Nat.pow 2 53 then
      if exponent + 1 > 971 then .infinite negative
      else .finite negative (Nat.pow 2 52) (exponent + 1)
    else if exponent > 971 then .infinite negative
    else .finite negative significand exponent

/-- The nearest number to `± digits · 10 ^ exponent`. -/
def ofDecimal (negative : Bool) (digits : Nat) (exponent : Int) : Binary :=
  ofRatio negative (digits * Nat.pow 10 exponent.toNat) (Nat.pow 10 (-exponent).toNat)

/-- Three times a number, rounded. -/
def tripled : Binary → Binary
  | .infinite negative => .infinite negative
  | .finite negative significand exponent =>
      ofRatio negative (scaled (3 * significand) exponent) (scaled 1 (-exponent))

end Binary

end TermText.Number
