/-
# The rules of the grammar

A term is an atom or a compound, and it is a compound exactly when the token
after its name is an opening bracket. The arguments of a compound are read by
a loop that stops in front of the closing bracket, so a separator may also
stand after the last argument. A rule is given a level of nesting, which may
be any whole number, and refuses a compound at a level that the limit has
reached. What follows the term is not looked at.

The rules end because a rule that returns has moved the cursor forward: each
is computed together with that fact, and `expr_eq`, `compound_eq` and
`argumentsFrom_eq` give the same rules without it.
-/

import TermText.Parser.Outcome
import TermText.Term

namespace TermText.Parser

/-- The cursor is moved past a token of the wanted kind. -/
def expect (wanted : Kind) (cursor : Cursor) : Outcome Unit :=
  if cursor.current.kind = wanted then .returned () cursor.advance []
  else
    .failed (.expected wanted cursor.current.kind) cursor
      [.seen "expect".toList cursor]

/-- An atom is a single name. -/
def atom (cursor : Cursor) : Outcome Term :=
  if cursor.current.kind = .atom then .returned (.atom cursor.current.text) cursor.advance []
  else .failed (.expectedAtom cursor.current.kind) cursor []

/-- What is wrong where neither a separator nor a closing bracket follows an argument. -/
def unseparated {α : Type} (cursor : Cursor) : Outcome α :=
  .failed (.expectedSeparator cursor.current.kind) cursor [.seen "seq".toList cursor]

/-- Whether a name with an opening bracket after it is under the cursor. -/
def AtOperator (cursor : Cursor) : Prop :=
  cursor.current.kind = .atom ∧ cursor.lookahead.kind = .opening

instance (cursor : Cursor) : Decidable (AtOperator cursor) :=
  inferInstanceAs (Decidable (_ ∧ _))

theorem atom_within (cursor : Cursor) : (atom cursor).Within cursor.later.length := by
  unfold atom
  split
  · next h => exact cursor.length_later_advance_lt (by simp [h])
  · trivial

theorem expect_within (wanted : Kind) (cursor : Cursor) :
    (expect wanted cursor).Within (cursor.later.length + 1) := by
  unfold expect
  split
  · exact Nat.lt_succ_of_le cursor.length_later_advance_le
  · trivial

mutual
/-- A term at a level, with the fact that reading it moves the cursor. -/
def exprWithin (limit : Number) (level : Int) (cursor : Cursor) :
    { outcome : Outcome Term // outcome.Within cursor.later.length } :=
  if cursor.lookahead.kind = .opening then compoundWithin limit level cursor
  else ⟨atom cursor, atom_within cursor⟩
termination_by (cursor.later.length, 1)

/-- A compound at a level, with the fact that reading it moves the cursor. -/
def compoundWithin (limit : Number) (level : Int) (cursor : Cursor) :
    { outcome : Outcome Term // outcome.Within cursor.later.length } :=
  if operator : AtOperator cursor then
    if limit.atMost level then ⟨.failed (.tooDeep limit) cursor [], trivial⟩
    else
      have start := cursor.length_later_advance_lt (by simp [operator.1])
      (expect .opening cursor.advance).goOn (expect_within .opening _) fun _ inside opened =>
        let read := argumentsWithin limit (level + 1) [] inside
        read.val.goOn read.property fun arguments outside ended =>
          (expect .closing outside).goOn (expect_within .closing _) fun _ after closed =>
            ⟨.returned (.compound cursor.current.text arguments) after [],
              show after.later.length < cursor.later.length by omega⟩
  else ⟨.failed .expectedOperator cursor [], trivial⟩
termination_by (cursor.later.length, 0)

/-- Arguments up to the closing bracket after those gathered so far, nearest
first, with the fact that reading them never moves the cursor back. -/
def argumentsWithin (limit : Number) (level : Int) (gathered : List Term) (cursor : Cursor) :
    { outcome : Outcome (List Term) // outcome.Within (cursor.later.length + 1) } :=
  if cursor.current.kind = .closing then
    ⟨.returned gathered.reverse cursor [], Nat.lt_succ_self _⟩
  else
    let read := exprWithin limit level cursor
    read.val.goOn read.property fun term next moved =>
      if next.current.kind = .separator then
        have passed := next.length_later_advance_le
        let rest := argumentsWithin limit level (term :: gathered) next.advance
        ⟨rest.val, rest.property.mono (by omega)⟩
      else if next.current.kind = .closing then
        let rest := argumentsWithin limit level (term :: gathered) next
        ⟨rest.val, rest.property.mono (by omega)⟩
      else ⟨unseparated next, trivial⟩
termination_by (cursor.later.length, 2)
end

/-- A term at a level of nesting. -/
def expr (limit : Number) (level : Int) (cursor : Cursor) : Outcome Term :=
  (exprWithin limit level cursor).val

/-- A compound at a level of nesting. -/
def compound (limit : Number) (level : Int) (cursor : Cursor) : Outcome Term :=
  (compoundWithin limit level cursor).val

/-- The arguments of a compound from those gathered so far, nearest first, to
the closing bracket, which stays under the cursor. -/
def argumentsFrom (limit : Number) (level : Int) (gathered : List Term) (cursor : Cursor) :
    Outcome (List Term) :=
  (argumentsWithin limit level gathered cursor).val

/-- The arguments of a compound. -/
def arguments (limit : Number) (level : Int) (cursor : Cursor) : Outcome (List Term) :=
  argumentsFrom limit level [] cursor

section Equations

variable (limit : Number) (level : Int) (gathered : List Term) (cursor : Cursor)

/-- One token after the name decides between a compound and an atom. -/
theorem expr_eq : expr limit level cursor =
    if cursor.lookahead.kind = .opening then compound limit level cursor else atom cursor := by
  unfold expr compound
  rw [exprWithin]
  split <;> rfl

/-- A compound is an operator, an opening bracket, arguments one level further
in, and a closing bracket. -/
theorem compound_eq : compound limit level cursor =
    if AtOperator cursor then
      if limit.atMost level then .failed (.tooDeep limit) cursor []
      else
        (expect .opening cursor.advance).andThen fun _ inside =>
          (arguments limit (level + 1) inside).andThen fun arguments outside =>
            (expect .closing outside).andThen fun _ after =>
              .returned (.compound cursor.current.text arguments) after []
    else .failed .expectedOperator cursor [] := by
  unfold compound
  rw [compoundWithin]
  split
  · split
    · rfl
    · apply Outcome.val_goOn
      intro _ inside opened
      apply Outcome.val_goOn
      intro arguments outside ended
      apply Outcome.val_goOn
      intro _ after closed
      rfl
  · rfl

/-- The loop over the arguments: it ends in front of a closing bracket, and
after an argument it wants a separator or that bracket. -/
theorem argumentsFrom_eq : argumentsFrom limit level gathered cursor =
    if cursor.current.kind = .closing then .returned gathered.reverse cursor []
    else
      (expr limit level cursor).andThen fun term next =>
        if next.current.kind = .separator then
          argumentsFrom limit level (term :: gathered) next.advance
        else if next.current.kind = .closing then
          argumentsFrom limit level (term :: gathered) next
        else unseparated next := by
  unfold argumentsFrom
  rw [argumentsWithin]
  split
  · rfl
  · apply Outcome.val_goOn
    intro term next moved
    split
    · rfl
    · split <;> rfl

/-- A term that was read leaves fewer tokens to come. -/
theorem expr_within : (expr limit level cursor).Within cursor.later.length :=
  (exprWithin limit level cursor).property

/-- A compound that was read leaves fewer tokens to come. -/
theorem compound_within : (compound limit level cursor).Within cursor.later.length :=
  (compoundWithin limit level cursor).property

end Equations

end TermText.Parser
