/-
# What is known of a failed reading

A failed reading notes nothing but the lack of a separator, which it notes once
with the two tokens that the cursor shows where it stopped. The failures of the
checks that a compound makes of its own brackets are none of a reading, nor is
the end of the stack, and a failure for the nesting names the limit in force.
The brackets that are open where a reading stopped have all been gone into, so
the limit admits as many levels from the one where it started.
-/

import TermText.Proofs.Brackets

namespace TermText

/-- Whether a failure under a limit is one that reading comes to, with these notes. -/
def Failure.Reported (limit : Number) (stopped : Cursor) (notes : List Note) : Failure → Prop
  | .expectedAtom _ | .expectedOperator => notes = []
  | .expectedSeparator _ => notes = [.seen "seq".toList stopped]
  | .tooDeep bound => notes = [] ∧ bound = limit
  | .expected _ _ | .stackExhausted => False

/-- Whether a failure at the end of some tokens, which were read from a level on, lies where
it can: it is not the first token that lacks a separator, and the level of an operator
that is too deep counts the brackets that are open. -/
def Failure.LiesBehind (limit : Number) (level : Int) (tokens : List Token) : Failure → Prop
  | .expectedSeparator _ => tokens ≠ []
  | .tooDeep _ => limit.atMost (level + Token.balance tokens) = true
  | .expectedAtom _ | .expectedOperator | .expected _ _ | .stackExhausted => True

/-- It also lies where it can behind more tokens, read from as many levels further out as
these leave brackets open. -/
theorem Failure.LiesBehind.append {limit : Number} {level inside : Int} {failure : Failure}
    {front tokens : List Token} (lies : failure.LiesBehind limit inside tokens)
    (opened : inside = level + Token.balance front) :
    failure.LiesBehind limit level (front ++ tokens) := by
  cases failure with
  | expectedSeparator => exact List.append_ne_nil_of_right_ne_nil front lies
  | tooDeep =>
      subst opened
      simpa [LiesBehind, add_assoc] using lies
  | expectedAtom | expectedOperator | expected | stackExhausted => trivial

namespace Parser

variable {limit : Number} {level : Int} {cursor stopped : Cursor} {failure : Failure}
  {notes : List Note}

/-- Whether the limit admits from a level on as many levels as some tokens leave brackets
open. -/
def Admits (limit : Number) (level : Int) (tokens : List Token) : Prop :=
  ∀ depth : Nat, (depth : Int) < Token.balance tokens → limit.atMost (level + depth) = false

theorem admits_of_balance_le {tokens : List Token} (closed : Token.balance tokens ≤ 0) :
    Admits limit level tokens :=
  fun depth within => absurd within (by omega)

/-- Tokens that leave one bracket open are admitted where a compound is. -/
theorem admits_of_balance_eq_one {tokens : List Token} (opened : Token.balance tokens = 1)
    (below : limit.atMost level = false) : Admits limit level tokens := by
  intro depth outer
  obtain rfl : depth = 0 := by omega
  simpa using below

/-- What is admitted from the level that it is reached at is admitted with its front. -/
theorem Admits.append {inside : Int} {front tokens : List Token}
    (outer : Admits limit level front) (inner : Admits limit inside tokens)
    (opened : inside = level + Token.balance front) : Admits limit level (front ++ tokens) := by
  intro depth within
  rw [Token.balance_append] at within
  by_cases outside : (depth : Int) < Token.balance front
  · exact outer depth outside
  · obtain ⟨further, same⟩ : ∃ further : Nat, (depth : Int) = Token.balance front + further :=
      ⟨(depth - Token.balance front).toNat, by omega⟩
    have admitted := inner further (by omega)
    rwa [opened, add_assoc, ← same] at admitted

/-- A failed reading stopped where its failure lies, inside brackets that the limit admits. -/
def Located (limit : Number) (level : Int) (cursor : Cursor) : Reading → Prop
  | .term (.failed failure stopped _) | .arguments (.failed failure stopped _) =>
      ∃ tokens, cursor.Passes tokens stopped ∧ failure.LiesBehind limit level tokens ∧
        Admits limit level tokens
  | .term (.returned _ _ _) | .arguments (.returned _ _ _) => True

theorem Reads.located {reading : Reading} (reads : Reads limit level cursor reading) :
    Located limit level cursor reading := by
  induction reads with
  | atom | compound | none | one => trivial
  | noAtom | noOperator => exact ⟨[], .refl _, trivial, admits_of_balance_le le_rfl⟩
  | tooDeep _ reached =>
      exact ⟨[], .refl _, by simpa [Failure.LiesBehind] using reached, admits_of_balance_le le_rfl⟩
  | badArguments operator below _ ih =>
      obtain ⟨tokens, passage, lies, admitted⟩ := ih
      have opened := operator.balance_eq
      exact ⟨_, operator.passes.trans passage, lies.append (by rw [opened]),
        (admits_of_balance_eq_one opened below).append admitted (by rw [opened])⟩
  | badArgument _ _ ih => exact ih
  | @more level _ next _ outcome _ first separator _ _ ihRest =>
      cases outcome with
      | returned => trivial
      | failed =>
          obtain ⟨tokens, passage, lies, admitted⟩ := ihRest
          have read := first.explained
          have closed := read.balance_eq_zero separator
          have comma := next.passes_advance (by simp [separator])
          exact ⟨_, (read.passes.trans comma).trans passage,
            lies.append (by rw [closed, add_zero]),
            (admits_of_balance_le closed.le).append admitted (by rw [closed, add_zero])⟩
  | unseparated _ first _ _ =>
      have read := first.explained
      exact ⟨_, read.passes, read.spelled.ne_nil,
        admits_of_balance_le read.spelled.balanced.even.le⟩

/-- What is reported of a reading that fails. -/
def Reported (limit : Number) : Reading → Prop
  | .term (.failed failure stopped notes) | .arguments (.failed failure stopped notes) =>
      failure.Reported limit stopped notes
  | .term (.returned _ _ _) | .arguments (.returned _ _ _) => True

theorem Reads.reported {reading : Reading} (reads : Reads limit level cursor reading) :
    Reported limit reading := by
  induction reads with
  | atom | compound | none | one => trivial
  | noAtom | noOperator | unseparated => rfl
  | tooDeep => exact ⟨rfl, rfl⟩
  | badArguments _ _ _ ih => exact ih
  | badArgument _ _ ih => exact ih
  | @more _ _ _ _ outcome _ _ _ _ _ ih =>
      cases outcome with
      | returned => trivial
      | failed => exact ih

/-- All that is known of a failed reading. -/
structure FailsAt (limit : Number) (level : Int) (cursor : Cursor) (failure : Failure)
    (stopped : Cursor) (notes : List Note) : Prop where
  located : ∃ tokens, cursor.Passes tokens stopped ∧ failure.LiesBehind limit level tokens ∧
    Admits limit level tokens
  described : failure.Describes stopped
  reported : failure.Reported limit stopped notes

theorem failsAt_of_expr (failed : expr limit level cursor = .failed failure stopped notes) :
    FailsAt limit level cursor failure stopped notes := by
  have reads := reads_expr limit level cursor
  rw [failed] at reads
  exact ⟨reads.located, reads.described, reads.reported⟩

theorem failsAt_of_arguments
    (failed : arguments limit level cursor = .failed failure stopped notes) :
    FailsAt limit level cursor failure stopped notes := by
  have reads := reads_arguments limit level cursor
  rw [failed] at reads
  exact ⟨reads.located, reads.described, reads.reported⟩

end Parser

end TermText
