/-
# Outcomes

What comes of running a rule at a cursor: a value or a failure, and with
either of them the cursor where the rule stopped and the notes it made.
-/

import TermText.Note

namespace TermText

/-- A rule returned a value or failed; the cursor stands where it stopped. -/
inductive Outcome (α : Type)
  | returned (value : α) (cursor : Cursor) (notes : List Note)
  | failed (failure : Failure) (cursor : Cursor) (notes : List Note)

namespace Outcome

variable {α : Type}

/-- The cursor where the rule stopped. -/
def cursor : Outcome α → Cursor
  | .returned _ cursor _ => cursor
  | .failed _ cursor _ => cursor

/-- The notes in the order in which they were made. -/
def notes : Outcome α → List Note
  | .returned _ _ notes => notes
  | .failed _ _ notes => notes

/-- The value, or why there is none. -/
def result : Outcome α → Except Failure α
  | .returned value _ _ => .ok value
  | .failed failure _ _ => .error failure

/-- The same outcome with notes that were made before it. -/
def after (earlier : List Note) : Outcome α → Outcome α
  | .returned value cursor notes => .returned value cursor (earlier ++ notes)
  | .failed failure cursor notes => .failed failure cursor (earlier ++ notes)

/-- Go on with the value at the cursor where it was returned. A failure stays a
failure, and the notes are kept in order. -/
def andThen {β : Type} (outcome : Outcome α) (next : α → Cursor → Outcome β) : Outcome β :=
  match outcome with
  | .returned value cursor notes => (next value cursor).after notes
  | .failed failure cursor notes => .failed failure cursor notes

/-- The same outcome with the value put into another form. -/
def map {β : Type} (form : α → β) : Outcome α → Outcome β
  | .returned value cursor notes => .returned (form value) cursor notes
  | .failed failure cursor notes => .failed failure cursor notes

/-- The same outcome with a failure put into another form. -/
def mapFailure (form : Failure → Failure) : Outcome α → Outcome α
  | .returned value cursor notes => .returned value cursor notes
  | .failed failure cursor notes => .failed (form failure) cursor notes

/-- Whether a value was returned with fewer than `bound` tokens after the
cursor. A failure promises nothing. -/
def Within (bound : Nat) : Outcome α → Prop
  | .returned _ cursor _ => cursor.later.length < bound
  | .failed _ _ _ => True

@[simp] theorem within_returned {bound : Nat} (value : α) (cursor : Cursor)
    (notes : List Note) :
    (returned value cursor notes).Within bound ↔ cursor.later.length < bound :=
  Iff.rfl

@[simp] theorem cursor_after (earlier : List Note) (outcome : Outcome α) :
    (outcome.after earlier).cursor = outcome.cursor := by
  cases outcome <;> rfl

@[simp] theorem result_after (earlier : List Note) (outcome : Outcome α) :
    (outcome.after earlier).result = outcome.result := by
  cases outcome <;> rfl

@[simp] theorem within_after {bound : Nat} (earlier : List Note) (outcome : Outcome α) :
    (outcome.after earlier).Within bound ↔ outcome.Within bound := by
  cases outcome <;> rfl

@[simp] theorem andThen_returned {β : Type} (value : α) (cursor : Cursor) (notes : List Note)
    (next : α → Cursor → Outcome β) :
    (returned value cursor notes).andThen next = (next value cursor).after notes :=
  rfl

@[simp] theorem andThen_failed {β : Type} (failure : Failure) (cursor : Cursor)
    (notes : List Note) (next : α → Cursor → Outcome β) :
    (failed failure cursor notes).andThen next = failed failure cursor notes :=
  rfl

@[simp] theorem after_nil (outcome : Outcome α) : outcome.after [] = outcome := by
  cases outcome <;> rfl

@[simp] theorem cursor_map {β : Type} (form : α → β) (outcome : Outcome α) :
    (outcome.map form).cursor = outcome.cursor := by
  cases outcome <;> rfl

@[simp] theorem cursor_mapFailure (form : Failure → Failure) (outcome : Outcome α) :
    (outcome.mapFailure form).cursor = outcome.cursor := by
  cases outcome <;> rfl

theorem Within.mono {low high : Nat} {outcome : Outcome α} (h : outcome.Within low)
    (le : low ≤ high) : outcome.Within high := by
  cases outcome with
  | returned value cursor notes => exact Nat.lt_of_lt_of_le h le
  | failed failure cursor notes => trivial

/-- Go on after an outcome whose cursor has come so far, with that knowledge at
hand. The steps of a rule that proves how far it moves are joined by this. -/
def goOn {β : Type} {bound goal : Nat} (outcome : Outcome α) (reached : outcome.Within bound)
    (next : (value : α) → (cursor : Cursor) → cursor.later.length < bound →
      { outcome : Outcome β // outcome.Within goal }) :
    { outcome : Outcome β // outcome.Within goal } :=
  match outcome, reached with
  | .returned value cursor notes, reached =>
      let rest := next value cursor reached
      ⟨rest.val.after notes, (rest.val.within_after notes).2 rest.property⟩
  | .failed failure cursor notes, _ => ⟨.failed failure cursor notes, trivial⟩

/-- The knowledge is only there to be used: without it, going on is `andThen`. -/
theorem val_goOn {β : Type} {bound goal : Nat} (outcome : Outcome α)
    (reached : outcome.Within bound)
    (next : (value : α) → (cursor : Cursor) → cursor.later.length < bound →
      { outcome : Outcome β // outcome.Within goal })
    (plain : α → Cursor → Outcome β)
    (same : ∀ value cursor h, (next value cursor h).val = plain value cursor) :
    (outcome.goOn reached next).val = outcome.andThen plain := by
  cases outcome with
  | returned value cursor notes => exact congrArg (after notes) (same value cursor reached)
  | failed failure cursor notes => rfl

end Outcome

end TermText
