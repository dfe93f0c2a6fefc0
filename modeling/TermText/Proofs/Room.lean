/-
# Room on a stack

When a run comes to the end of its stack. The rules know nothing of a stack, so this
is said of runs without one: a run exceeds a stack if it goes further in than the
stack lasts, or fails with a note to be made inside more open brackets than the stack
has room for. A run that does not exceed the stack comes to the same on it, and one that
does fails at its end. Neither can happen where the limit leaves no more levels than
those in which notes can be made: a limit admits every bracket that a run has gone into.
-/

import TermText.Proofs.Budget

namespace TermText.Parser

variable {α β : Type} {limit : Number} {level : Int} {cursor : Cursor} {stack : Stack}
  {rule : Number → Int → Cursor → Outcome α}

/-- What has to be known of a rule to run it on a stack: where a run fails it stopped inside
brackets that the limit admits and reports as a reading does, and a limit that is reached no
later cuts the run off, if it makes a difference. -/
structure Measured (rule : Number → Int → Cursor → Outcome α) : Prop where
  admitted : ∀ {limit level cursor failure stopped notes},
    rule limit level cursor = .failed failure stopped notes →
      ∃ tokens, cursor.Passes tokens stopped ∧ Admits limit level tokens
  reported : ∀ {limit level cursor failure stopped notes},
    rule limit level cursor = .failed failure stopped notes →
      failure.Reported limit stopped notes
  alike_or_tooDeep : ∀ {limit level other elsewhere},
    Tighter limit level other elsewhere → ∀ cursor,
      (rule limit level cursor).Alike (rule other elsewhere cursor) ∨
        ∃ stopped, rule limit level cursor = .failed (.tooDeep limit) stopped []

/-- Whether a run of a rule needs more than there is of a stack. -/
inductive Exceeds (stack : Stack) (rule : Number → Int → Cursor → Outcome α) (limit : Number)
    (level : Int) (cursor : Cursor) : Prop
  | levels {stopped : Cursor} :
      ¬ limit.atMost (level + stack.levels) = true →
      rule (.whole (level + stack.levels)) level cursor =
        .failed (.tooDeep (.whole (level + stack.levels))) stopped [] →
      Exceeds stack rule limit level cursor
  | note {failure : Failure} {stopped : Cursor} {notes : List Note} :
      rule limit level cursor = .failed failure stopped notes → notes ≠ [] →
      (stack.noted : Int) < Token.balance (cursor.upTo stopped) →
      Exceeds stack rule limit level cursor

namespace Measured

/-- In so many levels a rule comes to the same, unless it goes further in. -/
theorem within_eq_or (measured : Measured rule) (levels : Nat) (limit : Number) (level : Int)
    (cursor : Cursor) :
    within levels rule limit level cursor = rule limit level cursor ∨
      ¬ limit.atMost (level + levels) = true ∧ ∃ stopped,
        rule (.whole (level + levels)) level cursor =
          .failed (.tooDeep (.whole (level + levels))) stopped [] ∧
        within levels rule limit level cursor = .failed .stackExhausted stopped [] := by
  by_cases outlasted : limit.atMost (level + levels) = true
  · exact .inl (within_of_atMost rule outlasted cursor)
  · rw [within_of_not_atMost rule outlasted]
    have cut := measured.alike_or_tooDeep (tighter_of_not_outlasted outlasted) cursor
    cases short : rule (.whole (level + levels)) level cursor with
    | returned value last notes =>
        rcases cut with alike | ⟨stopped, failed⟩
        · rw [short] at alike
          exact .inl (alike.symm.eq_returned).symm
        · rw [short] at failed
          cases failed
    | failed failure stopped notes =>
        have reported := measured.reported short
        cases failure with
        | tooDeep bound =>
            obtain ⟨rfl, rfl⟩ := reported
            exact .inr ⟨outlasted, stopped, rfl, rfl⟩
        | expectedAtom | expectedOperator | expectedSeparator | expected | stackExhausted =>
            rcases cut with alike | ⟨elsewhere, failed⟩
            · rw [short] at alike
              obtain ⟨failure, long, similar⟩ := alike.symm.exists_failed
              rw [long, similar.symm.eq_of_ne_tooDeep fun _ => Failure.noConfusion]
              exact .inl rfl
            · rw [short] at failed
              cases failed

/-- A run that does not exceed the stack is the same on it. -/
theorem onStack_of_not_exceeds (measured : Measured rule)
    (fits : ¬ Exceeds stack rule limit level cursor) :
    onStack stack rule limit level cursor = rule limit level cursor := by
  rcases measured.within_eq_or stack.levels limit level cursor with
    same | ⟨ends, stopped, deep, -⟩
  · rw [onStack, same]
    cases came : rule limit level cursor with
    | returned => rfl
    | failed => exact if_neg fun lost => fits (.note came lost.1 lost.2)
  · exact absurd (.levels ends deep) fits

/-- A run that exceeds the stack fails at its end. -/
theorem exists_of_exceeds (measured : Measured rule)
    (exceeds : Exceeds stack rule limit level cursor) :
    ∃ stopped, onStack stack rule limit level cursor = .failed .stackExhausted stopped [] := by
  cases exceeds with
  | @levels stopped ends deep =>
      refine ⟨stopped, ?_⟩
      rw [onStack, within_of_not_atMost rule ends, deep, Outcome.mapFailure]
      exact notedWithin_noteless _ _ _ _
  | @note failure stopped notes failed noted deeper =>
      rcases measured.within_eq_or stack.levels limit level cursor with
        same | ⟨-, elsewhere, -, ended⟩
      · refine ⟨stopped, ?_⟩
        rw [onStack, same, failed]
        exact if_pos ⟨noted, deeper⟩
      · refine ⟨elsewhere, ?_⟩
        rw [onStack, ended]
        exact notedWithin_noteless _ _ _ _

/-- Where the limit leaves no more levels than those in which notes can be made, no run
exceeds the stack. -/
theorem not_exceeds (measured : Measured rule)
    (outlasted : limit.atMost (level + stack.noted) = true) (cursor : Cursor) :
    ¬ Exceeds stack rule limit level cursor := by
  intro exceeds
  cases exceeds with
  | levels ends =>
      have fewer := stack.noted_le
      exact ends (Number.atMost_mono outlasted (by omega))
  | note failed _ deeper =>
      obtain ⟨tokens, passage, admitted⟩ := measured.admitted failed
      rw [passage.upTo_eq] at deeper
      simp [admitted _ deeper] at outlasted

/-- A stack that has room for all that the limit leaves makes no difference. -/
theorem onStack_of_atMost (measured : Measured rule)
    (outlasted : limit.atMost (level + stack.noted) = true) (cursor : Cursor) :
    onStack stack rule limit level cursor = rule limit level cursor :=
  measured.onStack_of_not_exceeds (measured.not_exceeds outlasted cursor)

/-- On a stack a rule comes to the same, or to the end of the stack. -/
theorem onStack_eq_or (measured : Measured rule) (stack : Stack) (limit : Number) (level : Int)
    (cursor : Cursor) :
    onStack stack rule limit level cursor = rule limit level cursor ∨
      ∃ stopped, onStack stack rule limit level cursor = .failed .stackExhausted stopped [] := by
  by_cases exceeds : Exceeds stack rule limit level cursor
  · exact .inr (measured.exists_of_exceeds exceeds)
  · exact .inl (measured.onStack_of_not_exceeds exceeds)

/-- Where the limit leaves no more levels than the stack has, only a note can exceed it. -/
theorem onStack_of_noteless (measured : Measured rule)
    (outlasted : limit.atMost (level + stack.levels) = true)
    (noteless : (rule limit level cursor).notes = []) :
    onStack stack rule limit level cursor = rule limit level cursor := by
  apply measured.onStack_of_not_exceeds
  rintro (⟨ends, -⟩ | ⟨failed, noted, -⟩)
  · exact ends outlasted
  · rw [failed] at noteless
    exact noted noteless

/-- What is returned on a stack is returned without one. -/
theorem eq_of_onStack_returned (measured : Measured rule) {value : α} {last : Cursor}
    {notes : List Note}
    (returned : onStack stack rule limit level cursor = .returned value last notes) :
    rule limit level cursor = .returned value last notes := by
  rcases measured.onStack_eq_or stack limit level cursor with same | ⟨stopped, ended⟩
  · exact same.symm.trans returned
  · rw [ended] at returned
    cases returned

/-- So what is returned, on a stack or not, is returned without one. -/
theorem eq_of_run (measured : Measured rule) {run : Number → Int → Cursor → Outcome α} {value : α}
    {last : Cursor} {notes : List Note} (either : run = rule ∨ run = onStack stack rule)
    (returned : run limit level cursor = .returned value last notes) :
    rule limit level cursor = .returned value last notes := by
  rcases either with rfl | rfl
  · exact returned
  · exact measured.eq_of_onStack_returned returned

/-- What fails on a stack, and not for its end, fails so without one. -/
theorem eq_of_onStack_failed (measured : Measured rule) {failure : Failure} {stopped : Cursor}
    {notes : List Note}
    (failed : onStack stack rule limit level cursor = .failed failure stopped notes)
    (noEnd : failure ≠ .stackExhausted) :
    rule limit level cursor = .failed failure stopped notes := by
  rcases measured.onStack_eq_or stack limit level cursor with same | ⟨elsewhere, ended⟩
  · exact same.symm.trans failed
  · rw [ended] at failed
    exact absurd (Outcome.failed.inj failed).1.symm noEnd

/-- Only runs that exceed the stack come to its end. -/
theorem exceeds_iff (measured : Measured rule) :
    Exceeds stack rule limit level cursor ↔
      (onStack stack rule limit level cursor).result = .error .stackExhausted := by
  constructor
  · intro exceeds
    obtain ⟨stopped, ended⟩ := measured.exists_of_exceeds exceeds
    rw [ended]
    rfl
  · intro ended
    by_contra fits
    rw [measured.onStack_of_not_exceeds fits] at ended
    obtain ⟨stopped, notes, failed⟩ := Outcome.exists_failed ended
    exact measured.reported failed

/-- The values of a measured rule may be put into another form. -/
theorem map (measured : Measured rule) (form : α → β) :
    Measured fun limit level cursor => (rule limit level cursor).map form where
  admitted failed := measured.admitted (Outcome.map_eq_failed_iff.1 failed)
  reported failed := measured.reported (Outcome.map_eq_failed_iff.1 failed)
  alike_or_tooDeep tighter cursor := by
    rcases measured.alike_or_tooDeep tighter cursor with alike | ⟨stopped, failed⟩
    · exact .inl (alike.map form)
    · exact .inr ⟨stopped, Outcome.map_eq_failed_iff.2 failed⟩

end Measured

/-- What exceeds the stack does so in any form of its values. -/
theorem Exceeds.map (exceeds : Exceeds stack rule limit level cursor) (form : α → β) :
    Exceeds stack (fun limit level cursor => (rule limit level cursor).map form) limit level
      cursor := by
  cases exceeds with
  | levels ends deep => exact .levels ends (Outcome.map_eq_failed_iff.2 deep)
  | note failed noted deeper => exact .note (Outcome.map_eq_failed_iff.2 failed) noted deeper

/-! ## The rules are measured -/

theorem measured_expr : Measured expr where
  admitted failed := by
    obtain ⟨tokens, passage, -, admitted⟩ := (failsAt_of_expr failed).located
    exact ⟨tokens, passage, admitted⟩
  reported failed := (failsAt_of_expr failed).reported
  alike_or_tooDeep tighter cursor := (cutOff_expr tighter cursor).alike_or_tooDeep

theorem measured_compound : Measured compound where
  admitted {_ _ cursor _ stopped _} failed := by
    by_cases operator : AtOperator cursor
    · rw [compound_of_atOperator operator] at failed
      exact measured_expr.admitted failed
    · rw [compound_of_not_atOperator operator] at failed
      cases failed
      exact ⟨[], .refl cursor, admits_of_balance_le le_rfl⟩
  reported {_ _ cursor _ _ _} failed := by
    by_cases operator : AtOperator cursor
    · rw [compound_of_atOperator operator] at failed
      exact measured_expr.reported failed
    · rw [compound_of_not_atOperator operator] at failed
      cases failed
      rfl
  alike_or_tooDeep tighter cursor := by
    by_cases operator : AtOperator cursor
    · simp only [compound_of_atOperator operator]
      exact measured_expr.alike_or_tooDeep tighter cursor
    · simp only [compound_of_not_atOperator operator]
      exact .inl (.refl _)

theorem measured_arguments : Measured arguments where
  admitted failed := by
    obtain ⟨tokens, passage, -, admitted⟩ := (failsAt_of_arguments failed).located
    exact ⟨tokens, passage, admitted⟩
  reported failed := (failsAt_of_arguments failed).reported
  alike_or_tooDeep {_ _ other elsewhere} tighter cursor := by
    rcases (reads_arguments other elsewhere cursor).cutShort tighter with
      ⟨same, reads, alike⟩ | ⟨-, stopped, reads⟩
    · exact .inl (by rwa [reads.arguments_eq])
    · exact .inr ⟨stopped, reads.arguments_eq⟩

/-! ## What is read on a stack -/

variable {term : Term} {last : Cursor}

/-- A limit in place of the one that something was recognised under. -/
theorem Recognises.of_fits {other : Number} (recognised : Recognises limit level cursor term last)
    (fits : term.Fits other level) : Recognises other level cursor term last :=
  { recognised with fits }

/-- What a run recognises exceeds the stack exactly if it does not fit the levels of the
stack. -/
theorem Recognises.exceeds_iff (recognised : Recognises limit level cursor term last) :
    Exceeds stack expr limit level cursor ↔
      ¬ term.Fits (.whole (level + stack.levels)) level := by
  constructor
  · rintro (⟨-, deep⟩ | ⟨failed, -, -⟩) fits
    · rw [(recognised.of_fits fits).expr_eq] at deep
      cases deep
    · rw [recognised.expr_eq] at failed
      cases failed
  · intro deep
    obtain ⟨stopped, reads⟩ := (reads_of_spells (.whole (level + stack.levels))
      recognised.spelled level cursor last recognised.passes recognised.ended).2 deep
    refine .levels (fun outlasted => ?_) reads.followed
    -- Under a limit that is reached no later the same would have been too deep.
    rcases (cutOff_expr (tighter_of_outlasted outlasted level) cursor).alike_or_tooDeep with
      alike | ⟨elsewhere, failed⟩
    · rw [recognised.expr_eq, show expr _ level cursor = _ from reads.followed] at alike
      exact alike
    · rw [recognised.expr_eq] at failed
      cases failed

/-- What is recognised under a limit that leaves no more levels than the stack has fits the
levels of the stack. -/
theorem Recognises.fits_levels (recognised : Recognises limit level cursor term last)
    (outlasted : limit.atMost (level + stack.levels) = true) :
    term.Fits (.whole (level + stack.levels)) level := by
  refine not_not.1 fun deep => ?_
  have noteless : (expr limit level cursor).notes = [] := by
    rw [recognised.expr_eq]
    rfl
  obtain ⟨stopped, ended⟩ := measured_expr.exists_of_exceeds
    (recognised.exceeds_iff.2 deep)
  rw [measured_expr.onStack_of_noteless outlasted noteless, recognised.expr_eq] at ended
  cases ended

/-- On a stack the rule for terms returns what is recognised and fits the levels of the
stack. -/
theorem onStack_expr_iff :
    (∃ notes, onStack stack expr limit level cursor = .returned term last notes) ↔
      Recognises limit level cursor term last ∧
        term.Fits (.whole (level + stack.levels)) level := by
  constructor
  · rintro ⟨notes, returned⟩
    have recognised := recognises_of_expr (measured_expr.eq_of_onStack_returned returned)
    refine ⟨recognised, not_not.1 fun deep => ?_⟩
    obtain ⟨stopped, ended⟩ := measured_expr.exists_of_exceeds
      (recognised.exceeds_iff.2 deep)
    rw [ended] at returned
    cases returned
  · rintro ⟨recognised, fits⟩
    have room : ¬ Exceeds stack expr limit level cursor := fun exceeds =>
      recognised.exceeds_iff.1 exceeds fits
    exact ⟨[], (measured_expr.onStack_of_not_exceeds room).trans recognised.expr_eq⟩

end TermText.Parser
