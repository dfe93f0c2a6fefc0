/-
# The loop and the recursion

Arguments are read by a loop that gathers them, and they could as well be read by
recursion on what follows. The two come to the same from every cursor: the same arguments
or the same failure, at the same place and with the same notes. What the loop has gathered
before only stands in front of what the recursion returns. Both stop in front of a closing
bracket, which is left under the cursor.
-/

import TermText.Parser.Sequence
import TermText.Proofs.Room

namespace TermText.Parser

variable {limit : Number} {level : Int} {cursor last : Cursor}

/-- Behind a term that has been read, the recursion is decided by the token that follows. -/
theorem Reads.sequence_eq {term : Term} {next : Cursor} (noClosing : cursor.current.kind ≠ .closing)
    (first : Reads limit level cursor (.term (.returned term next []))) :
    sequence limit level cursor =
      if next.current.kind = .separator then
        (sequence limit level next.advance).map (term :: ·)
      else if next.current.kind = .closing then .returned [term] next []
      else Parser.unseparated next := by
  have read : expr limit level cursor = .returned term next [] := first.followed
  rw [Parser.sequence_eq, if_neg noClosing, read, Outcome.andThen_returned, Outcome.after_nil]

/-- What a reading of arguments says of the recursion. -/
def Sequenced (limit : Number) (level : Int) (cursor : Cursor) : Reading → Prop
  | .term _ => True
  | .arguments outcome => sequence limit level cursor = outcome

theorem Reads.sequenced {reading : Reading} (reads : Reads limit level cursor reading) :
    Sequenced limit level cursor reading := by
  induction reads with
  | atom | noAtom | noOperator | tooDeep | compound | badArguments => trivial
  | none closed =>
      simp only [Sequenced]
      rw [Parser.sequence_eq, if_pos closed]
  | badArgument noClosing first =>
      simp only [Sequenced]
      rw [Parser.sequence_eq, if_neg noClosing, show expr _ _ _ = _ from first.followed,
        Outcome.andThen_failed]
  | one noClosing first closed =>
      simp only [Sequenced]
      rw [first.sequence_eq noClosing, if_neg (by simp [closed]), if_pos closed]
  | more noClosing first separator _ _ ih =>
      simp only [Sequenced] at ih ⊢
      rw [first.sequence_eq noClosing, if_pos separator, ih]
  | unseparated noClosing first noSeparator noEnd =>
      simp only [Sequenced]
      rw [first.sequence_eq noClosing, if_neg noSeparator, if_neg noEnd]

/-- Whatever the loop has gathered stands in front of what the recursion returns. -/
theorem argumentsFrom_eq_map_sequence (limit : Number) (level : Int) (gathered : List Term)
    (cursor : Cursor) :
    argumentsFrom limit level gathered cursor =
      (sequence limit level cursor).map (gathered.reverse ++ ·) := by
  obtain ⟨outcome, reads⟩ := (exists_reads limit level cursor).2
  have loop : argumentsFrom limit level gathered cursor = outcome.map (gathered.reverse ++ ·) :=
    reads.followed gathered
  have recursion : sequence limit level cursor = outcome := reads.sequenced
  rw [loop, recursion]

/-- A loop that starts with nothing gathered is the recursion. -/
theorem arguments_eq_sequence : arguments = sequence := by
  funext limit level cursor
  rw [arguments, argumentsFrom_eq_map_sequence]
  cases sequence limit level cursor with
  | returned => rfl
  | failed => rfl

/-- The loop over arguments is the recursive rule, on a stack or not: from every cursor, at
every level and under every limit both return the same arguments or fail alike, and leave
the cursor at the same place. Where they return, a closing bracket stands there that has not
been passed over. -/
theorem loop_eq_recursion (stack : Stack) (limit : Number) (level : Int) (cursor : Cursor) :
    arguments limit level cursor = sequence limit level cursor ∧
    onStack stack arguments limit level cursor = onStack stack sequence limit level cursor ∧
    ∀ rule : Number → Int → Cursor → Outcome (List Term),
      rule = arguments ∨ rule = onStack stack arguments →
      ∀ terms last notes, rule limit level cursor = .returned terms last notes →
        last.tokens = cursor.tokens ∧ last.current.kind = .closing := by
  refine ⟨by rw [arguments_eq_sequence], by rw [arguments_eq_sequence], ?_⟩
  intro rule either terms last notes returned
  obtain ⟨tokens, -, passage, closed⟩ :=
    spelled_of_arguments (measured_arguments.eq_of_run either returned)
  exact ⟨passage.tokens_eq, closed⟩

/-- The cursor on the first of the tokens of `A,G(),)`. -/
def atArguments : Cursor :=
  .ofTokens [⟨.atom, ['A']⟩, ⟨.separator, [',']⟩, ⟨.atom, ['G']⟩, ⟨.opening, ['(']⟩,
    ⟨.closing, [')']⟩, ⟨.separator, [',']⟩, ⟨.closing, [')']⟩]

/-- On a stack too, both read the arguments `A` and `G()` and leave the last bracket. -/
theorem loop_eq_recursion_trailingSeparator :
    ∃ last notes,
      onStack .standard arguments (.whole 1) 0 atArguments =
        .returned [.atom ['A'], .compound ['G'] []] last notes ∧
      onStack .standard sequence (.whole 1) 0 atArguments =
        .returned [.atom ['A'], .compound ['G'] []] last notes ∧
      last.tokens = atArguments.tokens ∧ last.current.kind = .closing := by
  have read : (onStack .standard arguments (.whole 1) 0 atArguments).result =
      .ok [.atom ['A'], .compound ['G'] []] := by
    cbv
  obtain ⟨last, notes, returned⟩ := Outcome.exists_returned read
  obtain ⟨-, same, stops⟩ := loop_eq_recursion .standard (.whole 1) 0 atArguments
  exact ⟨last, notes, returned, same.symm.trans returned, stops _ (.inr rfl) _ _ _ returned⟩

end TermText.Parser
