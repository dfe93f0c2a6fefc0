/-
# Running a rule on a stack

A rule takes part of a stack for every level that it goes into, counted from
the level where it was started and not from the outermost, and a note that it
makes takes another part, on top of the levels it is in. How far a stack goes
depends on those who call the rule and on whether notes are written, so it is
not fixed here. Where the limit is reached before the stack ends, the stack
makes no difference. Otherwise the end of the stack is the limit that counts,
and reaching it is a failure of its own: the limit that was asked for has not
been passed.
-/

import TermText.Parser.Rules

namespace TermText.Parser

/-- What there is of a stack: the levels for which it lasts, and those of them in which it
has room for a note. -/
structure Stack where
  levels : Nat
  noted : Nat
  noted_le : noted ≤ levels

namespace Stack

/-- A stack of a thousand frames: three go to each level, the last ten to the callers, and
notes are not written. -/
def standard : Stack := ⟨330, 330, by decide⟩

/-- The same stack where notes are written, each of which takes as many frames as four levels. -/
def logging : Stack := ⟨330, 326, by decide⟩

end Stack

/-- A failure at the end of the stack. -/
def stackEnds : Failure → Failure
  | .tooDeep _ => .stackExhausted
  | failure => failure

/-- Run a rule that may go into so many levels and no further. -/
def within {α : Type} (levels : Nat) (rule : Number → Int → Cursor → Outcome α)
    (limit : Number) (level : Int) (cursor : Cursor) : Outcome α :=
  if limit.atMost (level + levels) then rule limit level cursor
  else (rule (.whole (level + levels)) level cursor).mapFailure stackEnds

/-- What comes of an outcome where notes can be made in so many levels and no further: a
failure that is to be noted inside more open brackets than that is lost. -/
def notedWithin {α : Type} (levels : Nat) (start : Cursor) : Outcome α → Outcome α
  | .returned value cursor notes => .returned value cursor notes
  | .failed failure stopped notes =>
      if notes ≠ [] ∧ (levels : Int) < Token.balance (start.upTo stopped) then
        .failed .stackExhausted stopped []
      else .failed failure stopped notes

/-- Run a rule that is started at a level on a stack of its own. -/
def onStack {α : Type} (stack : Stack) (rule : Number → Int → Cursor → Outcome α)
    (limit : Number) (level : Int) (cursor : Cursor) : Outcome α :=
  notedWithin stack.noted cursor (within stack.levels rule limit level cursor)

end TermText.Parser
