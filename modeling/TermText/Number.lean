/-
# Numbers

A number is a truth value, a whole number of any size or a binary
floating-point number. The three kinds are written differently and compare by
value alone: true is one and false is zero. Comparisons are exact, never
rounded.
-/

import TermText.Number.Binary
import TermText.Number.Shortest

namespace TermText

inductive Number
  | truth (value : Bool)
  | whole (value : Int)
  | real (value : Number.Binary)
  deriving DecidableEq, Repr

namespace Number

/-- An exact value: a whole number over a power of two, or an infinity. -/
inductive Exact
  | fraction (numerator : Int) (scale : Nat)
  | infinite (negative : Bool)

/-- The exact value of a number. -/
def exact : Number → Exact
  | .truth value => .fraction (if value then 1 else 0) 0
  | .whole value => .fraction value 0
  | .real (.infinite negative) => .infinite negative
  | .real (.finite negative significand exponent) =>
      let size : Int := Binary.scaled significand exponent
      .fraction (if negative then -size else size) (-exponent).toNat

/-- Whether the number is at most the whole number `bound`. -/
def atMost (number : Number) (bound : Int) : Bool :=
  match number.exact with
  | .fraction numerator scale => numerator ≤ bound * Nat.pow 2 scale
  | .infinite negative => negative

/-- Whether the number is less than the whole number `bound`. -/
def below (number : Number) (bound : Int) : Bool :=
  match number.exact with
  | .fraction numerator scale => numerator < bound * Nat.pow 2 scale
  | .infinite negative => negative

/-- Whether two numbers have the same value, whatever their kinds. -/
def same (first second : Number) : Bool :=
  match first.exact, second.exact with
  | .fraction n s, .fraction m t => n * Nat.pow 2 t == m * Nat.pow 2 s
  | .infinite p, .infinite q => p == q
  | _, _ => false

/-- Three times the number, rounded only where the kind rounds. -/
def tripled : Number → Number
  | .truth value => .whole (if value then 3 else 0)
  | .whole value => .whole (3 * value)
  | .real value => .real value.tripled

/-- The written form of a number. -/
def literal : Number → String
  | .truth value => if value then "True" else "False"
  | .whole value => toString value
  | .real value => value.literal

/-- A bound that a number does not exceed may be raised. -/
theorem atMost_mono {number : Number} {low high : Int} (h : number.atMost low = true)
    (le : low ≤ high) : number.atMost high = true := by
  unfold atMost at h ⊢
  split at h
  · next numerator scale _ =>
      simp only [decide_eq_true_eq] at h ⊢
      exact Int.le_trans h (Int.mul_le_mul_of_nonneg_right le (Int.natCast_nonneg _))
  · exact h

end Number

end TermText
