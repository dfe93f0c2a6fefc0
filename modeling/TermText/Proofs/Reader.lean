/-
# Reading a text on a stack

Reading a text is the rule for terms at level zero, with a note on the tokens before it
and, where it fails, one on the rejection behind it. So there are three ways in which it
ends: with a term, with what a failed reading reports, or with the stack. The last is out
of the question where the stack has room for notes in as many levels as the limit leaves.
-/

import TermText.Parser
import TermText.Proofs.Room

namespace TermText.Parser

variable {stack : Stack} {dialect : Dialect}

/-- Noting a rejection does not change a result. -/
theorem result_parse (stack : Stack) (dialect : Dialect) (text : Text) :
    (parse stack dialect text).result = (parseStrict stack dialect text).result := by
  unfold parse
  cases parseStrict stack dialect text with
  | returned => rfl
  | failed => rfl

/-- Nor does it move the cursor. -/
theorem cursor_parse (stack : Stack) (dialect : Dialect) (text : Text) :
    (parse stack dialect text).cursor = (parseStrict stack dialect text).cursor := by
  unfold parse
  cases parseStrict stack dialect text with
  | returned => rfl
  | failed => rfl

/-- The result is that of the rule for terms at level zero. -/
theorem result_parse_eq_onStack (stack : Stack) (dialect : Dialect) (text : Text) :
    (parse stack dialect text).result =
      (onStack stack expr dialect.limit 0 (start dialect text)).result := by
  rw [result_parse, parseStrict, Outcome.result_after]

/-- So is the cursor. -/
theorem cursor_parse_eq_onStack (stack : Stack) (dialect : Dialect) (text : Text) :
    (parse stack dialect text).cursor =
      (onStack stack expr dialect.limit 0 (start dialect text)).cursor := by
  rw [cursor_parse, parseStrict, Outcome.cursor_after]

/-- The reader returns a term that is recognised up to where it stops, and that fits the
levels of the stack. -/
theorem recognises_of_parse {text : Text} {term : Term}
    (read : (parse stack dialect text).result = .ok term) :
    Recognises dialect.limit 0 (start dialect text) term (parse stack dialect text).cursor ∧
      term.Fits (.whole (0 + stack.levels)) 0 := by
  rw [result_parse_eq_onStack] at read
  obtain ⟨last, notes, returned⟩ := Outcome.exists_returned read
  rw [cursor_parse_eq_onStack, returned]
  exact onStack_expr_iff.1 ⟨notes, returned⟩

/-- A term that is recognised and fits the levels of the stack is returned. -/
theorem Recognises.result_parse {text : Text} {term : Term} {last : Cursor}
    (recognised : Recognises dialect.limit 0 (start dialect text) term last)
    (fits : term.Fits (.whole (0 + stack.levels)) 0) :
    (parse stack dialect text).result = .ok term := by
  obtain ⟨notes, returned⟩ := onStack_expr_iff.2 ⟨recognised, fits⟩
  rw [result_parse_eq_onStack, returned]
  rfl

/-- On a stack that has as many levels as the limit leaves, a run that notes nothing decides
what a text is read as. -/
theorem result_parse_of_noteless (outlasted : dialect.limit.atMost stack.levels = true)
    {text : Text} (noteless : (expr dialect.limit 0 (start dialect text)).notes = []) :
    (parse stack dialect text).result = (expr dialect.limit 0 (start dialect text)).result := by
  have levels : dialect.limit.atMost (0 + stack.levels) = true := by simpa using outlasted
  rw [result_parse_eq_onStack, measured_expr.onStack_of_noteless levels noteless]

/-- No text is rejected for the end of a stack that has room for notes in as many levels as
the limit leaves. -/
theorem ne_stackExhausted_of_parse (roomy : dialect.limit.atMost stack.noted = true)
    {text : Text} {failure : Failure}
    (rejected : (parse stack dialect text).result = .error failure) :
    failure ≠ .stackExhausted := by
  rintro rfl
  rw [result_parse_eq_onStack, ← measured_expr.exceeds_iff] at rejected
  exact measured_expr.not_exceeds (by simpa using roomy) _ rejected

/-- What a rejected text leaves behind: where reading stopped, why, and what was noted until
then. -/
structure RejectedAs (stack : Stack) (dialect : Dialect) (text : Text) (failure : Failure)
    (stopped : Cursor) (notes : List Note) : Prop where
  strict : parseStrict stack dialect text =
    .failed failure stopped (tokenized dialect text :: notes)
  noted : parse stack dialect text =
    .failed failure stopped (tokenized dialect text :: (notes ++ [.rejected text failure]))

/-- A failed run is a rejection. -/
theorem rejectedAs_of_onStack {text : Text} {failure : Failure} {stopped : Cursor}
    {notes : List Note}
    (failed : onStack stack expr dialect.limit 0 (start dialect text) =
      .failed failure stopped notes) :
    RejectedAs stack dialect text failure stopped notes := by
  have strict : parseStrict stack dialect text =
      .failed failure stopped (tokenized dialect text :: notes) := by
    rw [parseStrict, failed]
    rfl
  exact ⟨strict, by rw [parse, strict]; simp⟩

/-- A text is read, with a note on its tokens alone; or it is rejected as a failed reading
reports it; or the stack ends, which is so exactly if the run exceeds it. -/
theorem parse_cases (stack : Stack) (dialect : Dialect) (text : Text) :
    (∃ term last, parse stack dialect text = .returned term last [tokenized dialect text] ∧
      parseStrict stack dialect text = .returned term last [tokenized dialect text]) ∨
    (∃ failure stopped notes, failure.Describes stopped ∧
      failure.Reported dialect.limit stopped notes ∧
      RejectedAs stack dialect text failure stopped notes) ∨
    Exceeds stack expr dialect.limit 0 (start dialect text) ∧
      ∃ stopped, RejectedAs stack dialect text .stackExhausted stopped [] := by
  by_cases exceeds : Exceeds stack expr dialect.limit 0 (start dialect text)
  · obtain ⟨stopped, ended⟩ := measured_expr.exists_of_exceeds exceeds
    exact .inr (.inr ⟨exceeds, stopped, rejectedAs_of_onStack ended⟩)
  · have same := measured_expr.onStack_of_not_exceeds exceeds
    cases came : expr dialect.limit 0 (start dialect text) with
    | returned term last notes =>
        obtain rfl := noteless_of_expr came
        rw [came] at same
        refine .inl ⟨term, last, ?_, ?_⟩
        · rw [parse, parseStrict, same]
          rfl
        · rw [parseStrict, same]
          rfl
    | failed failure stopped notes =>
        have fails := failsAt_of_expr came
        exact .inr (.inl ⟨failure, stopped, notes, fails.described, fails.reported,
          rejectedAs_of_onStack (same.trans came)⟩)

end TermText.Parser
