/-
# Arguments by recursion

The rule for arguments as a recursion on what follows: nothing in front of a
closing bracket, else a term, and after a separator the rest by the same rule.
It gathers nothing on the way, where the reader's own loop does.
-/

import TermText.Parser.Rules

namespace TermText.Parser

/-- The arguments of a compound, read by recursion. -/
def sequence (limit : Number) (level : Int) (cursor : Cursor) : Outcome (List Term) :=
  if cursor.current.kind = .closing then .returned [] cursor []
  else
    match read : expr limit level cursor with
    | .failed failure stopped notes => .failed failure stopped notes
    | .returned term next notes =>
        have moved : next.later.length < cursor.later.length := by
          simpa only [read, Outcome.within_returned] using expr_within limit level cursor
        have passed := next.length_later_advance_le
        let rest :=
          if next.current.kind = .separator then
            (sequence limit level next.advance).map (term :: ·)
          else if next.current.kind = .closing then .returned [term] next []
          else unseparated next
        rest.after notes
termination_by cursor.later.length

/-- The recursion without the fact that it ends. -/
theorem sequence_eq (limit : Number) (level : Int) (cursor : Cursor) :
    sequence limit level cursor =
      if cursor.current.kind = .closing then .returned [] cursor []
      else
        (expr limit level cursor).andThen fun term next =>
          if next.current.kind = .separator then
            (sequence limit level next.advance).map (term :: ·)
          else if next.current.kind = .closing then .returned [term] next []
          else unseparated next := by
  rw [sequence]
  split
  · rfl
  · split
    · next h => simp [h, Outcome.andThen]
    · next h => simp only [h, Outcome.andThen]

end TermText.Parser
