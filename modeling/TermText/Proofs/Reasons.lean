/-
# Why a rule fails, and where

A failed rule leaves its cursor on the token that it could not go on from, and its message
is true of that token. There are four such messages, and from a message one can tell which
of the four reasons it gives. The nesting that a rule finds too deep is the level where the
rule was started and one more for each bracket that is open where it stopped. The checks
that a compound makes of its own two brackets are never the reason.
-/

import TermText.Parser.Step
import TermText.Proofs.Matching

namespace TermText

namespace Parser

variable {limit : Number} {level : Int} {cursor stopped : Cursor} {failure : Failure}
  {notes : List Note}

/-! ## Reasons -/

/-- The rules that are started at a level. -/
inductive Rule
  | term | compound | arguments
  deriving DecidableEq, Repr

/-- Run a rule at a level. -/
def Rule.run (rule : Rule) (limit : Number) (level : Int) (cursor : Cursor) : Outcome Reply :=
  match rule with
  | .term => (expr limit level cursor).map .term
  | .compound => (Parser.compound limit level cursor).map .term
  | .arguments => (Parser.arguments limit level cursor).map .terms

theorem Rule.measured (rule : Rule) : Measured rule.run := by
  cases rule with
  | term => exact measured_expr.map Reply.term
  | compound => exact measured_compound.map Reply.term
  | arguments => exact measured_arguments.map Reply.terms

/-- The reasons for which a rule fails. -/
inductive Reason
  | noAtom | noOperator | noSeparator | tooDeep
  deriving DecidableEq, Repr

namespace Reason

/-- Whether a reason is what the message says, and holds where a rule stopped that was
started from a cursor. Only the rule for compounds can miss an operator anywhere; the others
have seen an opening bracket, and no name in front of it. -/
def Holds (rule : Rule) (limit : Number) (level : Int) (cursor stopped : Cursor)
    (message : String) : Reason → Prop
  | .noAtom =>
      message = "Expected atom, got " ++ stopped.current.kind.name ∧
        stopped.current.kind ≠ .atom ∧ stopped.lookahead.kind ≠ .opening
  | .noOperator =>
      message = "Expected operator followed by argument list" ∧ ¬ AtOperator stopped ∧
        (rule ≠ .compound → stopped.current.kind ≠ .atom ∧ stopped.lookahead.kind = .opening)
  | .noSeparator =>
      message = "Expected ')' or separator, got " ++ stopped.current.kind.name ∧
        cursor.position < stopped.position ∧
        stopped.current.kind ≠ .separator ∧ stopped.current.kind ≠ .closing
  | .tooDeep =>
      message = "Nesting deeper than " ++ limit.literal ++ " levels" ∧ AtOperator stopped ∧
        limit.atMost (level + Token.balance (cursor.upTo stopped)) = true

/-- How the messages that give a reason start. -/
def start : Reason → String
  | .noAtom => "Expected atom, got "
  | .noOperator => "Expected operator followed by argument list"
  | .noSeparator => "Expected ')' or separator, got "
  | .tooDeep => "Nesting deeper than "

variable {rule : Rule} {reason : Reason} {message : String}

theorem Holds.start_prefix (holds : reason.Holds rule limit level cursor stopped message) :
    reason.start.toList <+: message.toList := by
  cases reason with
  | noAtom | noSeparator =>
      rw [holds.1, String.toList_append]
      exact List.prefix_append _ _
  | noOperator => rw [holds.1, start]
  | tooDeep =>
      rw [holds.1, String.toList_append, String.toList_append, List.append_assoc]
      exact List.prefix_append _ _

/-- A message gives one reason at most. -/
theorem Holds.unique {other : Reason} (holds : reason.Holds rule limit level cursor stopped message)
    (another : other.Holds rule limit level cursor stopped message) : reason = other := by
  have either := List.prefix_or_prefix_of_prefix holds.start_prefix another.start_prefix
  revert either
  cases reason <;> cases other <;> decide

/-- The message of a check for one kind of token gives no reason. -/
theorem Holds.message_ne (holds : reason.Holds rule limit level cursor stopped message)
    (wanted got : Kind) : message ≠ (Failure.expected wanted got).message := by
  rintro rfl
  have named : ("Expected " ++ wanted.name ++ ", got ").toList <+:
      (Failure.expected wanted got).message.toList := by
    have text : (Failure.expected wanted got).message.toList =
        ("Expected " ++ wanted.name ++ ", got ").toList ++ got.name.toList := String.toList_append
    rw [text]
    exact List.prefix_append _ _
  have either := List.prefix_or_prefix_of_prefix holds.start_prefix named
  revert either
  cases reason <;> cases wanted <;> decide

end Reason

/-- What is known of a failed reading is a reason. -/
theorem FailsAt.exists_holds (fails : FailsAt limit level cursor failure stopped notes)
    (rule : Rule) :
    ∃ reason : Reason, reason.Holds rule limit level cursor stopped failure.message := by
  obtain ⟨tokens, passage, lies, -⟩ := fails.located
  have described := fails.described
  have reported := fails.reported
  cases failure with
  | expectedAtom got =>
      obtain ⟨rfl, noName, alone⟩ := described
      exact ⟨.noAtom, rfl, noName, alone⟩
  | expectedOperator =>
      have noOperator : ¬ AtOperator stopped := fun operator => described.1 operator.1
      exact ⟨.noOperator, rfl, noOperator, fun _ => described⟩
  | expectedSeparator got =>
      obtain ⟨rfl, noSeparator, noClosing⟩ := described
      have moved : cursor.position < stopped.position := by
        rw [passage.position_eq]
        have some := List.length_pos_of_ne_nil lies
        omega
      exact ⟨.noSeparator, rfl, moved, noSeparator, noClosing⟩
  | tooDeep deepest =>
      obtain ⟨-, rfl⟩ := reported
      refine ⟨.tooDeep, rfl, described, ?_⟩
      rwa [passage.upTo_eq]
  | expected | stackExhausted => exact described.elim

/-- Where a rule fails a reading has failed, unless it is the rule for compounds and no
operator was there to begin with. -/
theorem Rule.failsAt_or {rule : Rule}
    (failed : rule.run limit level cursor = .failed failure stopped notes) :
    FailsAt limit level cursor failure stopped notes ∨
      rule = .compound ∧ failure = .expectedOperator ∧ stopped = cursor ∧
        ¬ AtOperator cursor := by
  cases rule with
  | term => exact .inl (failsAt_of_expr (Outcome.map_eq_failed_iff.1 failed))
  | arguments => exact .inl (failsAt_of_arguments (Outcome.map_eq_failed_iff.1 failed))
  | compound =>
      have fails : Parser.compound limit level cursor = .failed failure stopped notes :=
        Outcome.map_eq_failed_iff.1 failed
      by_cases operator : AtOperator cursor
      · apply Or.inl
        apply failsAt_of_expr
        rw [expr_eq, if_pos operator.2, fails]
      · rw [compound_eq, if_neg operator] at fails
        cases fails
        exact .inr ⟨rfl, rfl, rfl, operator⟩

/-- Without a stack no rule fails for its end. -/
theorem Rule.ne_stackExhausted {rule : Rule}
    (failed : rule.run limit level cursor = .failed failure stopped notes) :
    failure ≠ .stackExhausted := by
  rintro rfl
  exact rule.measured.reported failed

/-- A failure that is accounted for: a rule that was started from a cursor stopped on the same
tokens, at the cursor or further on, and what its message says is exactly one reason. It is
none of the checks for a single kind of token. -/
structure Accounted (rule : Rule) (limit : Number) (level : Int) (cursor : Cursor)
    (failure : Failure) (stopped : Cursor) : Prop where
  same : stopped.tokens = cursor.tokens
  later : cursor.position ≤ stopped.position
  reason : ∃! reason : Reason, reason.Holds rule limit level cursor stopped failure.message
  unchecked : ∀ wanted got, failure.message ≠ (Failure.expected wanted got).message

theorem Reason.Holds.accounted {rule : Rule} {reason : Reason} {tokens : List Token}
    (holds : reason.Holds rule limit level cursor stopped failure.message)
    (passage : cursor.Passes tokens stopped) :
    Accounted rule limit level cursor failure stopped where
  same := passage.tokens_eq
  later := passage.position_le
  reason := ⟨reason, holds, fun _ another => another.unique holds⟩
  unchecked := holds.message_ne

/-- Every failure of a rule is accounted for. -/
theorem Rule.accounted {rule : Rule}
    (failed : rule.run limit level cursor = .failed failure stopped notes) :
    Accounted rule limit level cursor failure stopped := by
  rcases Rule.failsAt_or failed with fails | ⟨rfl, rfl, rfl, noOperator⟩
  · obtain ⟨tokens, passage, -⟩ := fails.located
    obtain ⟨reason, holds⟩ := fails.exists_holds rule
    exact holds.accounted passage
  · have holds : Reason.noOperator.Holds .compound limit level stopped stopped
        Failure.expectedOperator.message := ⟨rfl, noOperator, fun other => absurd rfl other⟩
    exact holds.accounted (.refl stopped)

/-- A rule that fails, on a stack or not, at whatever level and under whatever limit, does
so for exactly one reason, which its message gives and which holds of the tokens where it
stopped; no check for a single kind of token is the cause. The end of the stack, which is no
such reason, is never the cause without a stack, nor on one that has room for notes in as
many levels as the limit leaves. -/
theorem existsUnique_reason (stack : Stack) (rule : Rule) (limit : Number) (level : Int)
    (cursor : Cursor) :
    (∀ run : Number → Int → Cursor → Outcome Reply,
      run = rule.run ∨ run = onStack stack rule.run →
      ∀ failure stopped notes, run limit level cursor = .failed failure stopped notes →
        failure ≠ .stackExhausted → Accounted rule limit level cursor failure stopped) ∧
    (∀ failure stopped notes, rule.run limit level cursor = .failed failure stopped notes →
      failure ≠ .stackExhausted) ∧
    (limit.atMost (level + stack.noted) = true →
      onStack stack rule.run limit level cursor = rule.run limit level cursor) := by
  refine ⟨?_, fun _ _ _ => Rule.ne_stackExhausted, fun outlasted =>
    rule.measured.onStack_of_atMost outlasted cursor⟩
  rintro run (rfl | rfl) failure stopped notes failed noEnd
  · exact Rule.accounted failed
  · exact Rule.accounted (rule.measured.eq_of_onStack_failed failed noEnd)

/-- On one level `G` is too deep in `F(G(A,))`, and behind `F` there is no operator. -/
theorem existsUnique_reason_nested :
    (Number.whole 1).atMost (0 + Stack.standard.noted) = true ∧
    (∃ stopped notes, onStack .standard Rule.term.run (.whole 1) 0 atNested =
        .failed (.tooDeep (.whole 1)) stopped notes ∧
      Failure.tooDeep (.whole 1) ≠ .stackExhausted ∧
      Accounted .term (.whole 1) 0 atNested (.tooDeep (.whole 1)) stopped ∧
      Rule.term.run (.whole 1) 0 atNested = .failed (.tooDeep (.whole 1)) stopped notes) ∧
    ∃ stopped notes, Rule.compound.run (.whole 1) 0 atNested.advance =
        .failed .expectedOperator stopped notes ∧
      Failure.expectedOperator ≠ .stackExhausted ∧
      Accounted .compound (.whole 1) 0 atNested.advance .expectedOperator stopped := by
  have outlasted : (Number.whole 1).atMost (0 + Stack.standard.noted) = true := by decide
  refine ⟨outlasted, ?_, ?_⟩
  · have result : (onStack .standard Rule.term.run (.whole 1) 0 atNested).result =
        .error (.tooDeep (.whole 1)) := by
      cbv
    obtain ⟨stopped, notes, failed⟩ := Outcome.exists_failed result
    obtain ⟨accounted, -, same⟩ := existsUnique_reason .standard .term (.whole 1) 0 atNested
    exact ⟨stopped, notes, failed, Failure.noConfusion,
      accounted _ (.inr rfl) _ _ _ failed Failure.noConfusion, (same outlasted).symm.trans failed⟩
  · have result : (Rule.compound.run (.whole 1) 0 atNested.advance).result =
        .error .expectedOperator := by
      cbv
    obtain ⟨stopped, notes, failed⟩ := Outcome.exists_failed result
    obtain ⟨accounted, noEnd, -⟩ :=
      existsUnique_reason .standard .compound (.whole 1) 0 atNested.advance
    exact ⟨stopped, notes, failed, noEnd _ _ _ failed,
      accounted _ (.inl rfl) _ _ _ failed (noEnd _ _ _ failed)⟩

end Parser

end TermText
