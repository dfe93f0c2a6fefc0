/-
# Recognition on a stack, and towers

On a stack the rule for terms recognises the grammar as far as the stack lasts. Whether
it lasts is a matter of levels alone: a term is read if its nesting fits both the limit
and the levels of the stack, which are counted from the level where the run starts. From
level zero on a limit that leaves no more levels than the stack has decides alone. Further
out it need not: a tower of one operator inside another fits any limit if it starts at a
level low enough, and is too high for a stack that has fewer levels than the tower.
-/

import TermText.Proofs.Room

namespace TermText

/-- So many operators inside one another, with a name in the middle. -/
def Term.tower : Nat → Term
  | 0 => .atom ['A']
  | height + 1 => .compound ['F'] [tower height]

/-- So many operators, each with its opening bracket. -/
def Token.openings : Nat → List Token
  | 0 => []
  | height + 1 => ⟨.atom, ['F']⟩ :: ⟨.opening, ['(']⟩ :: openings height

/-- The tokens of a tower. -/
def Token.tower : Nat → List Token
  | 0 => [⟨.atom, ['A']⟩]
  | height + 1 => ⟨.atom, ['F']⟩ :: ⟨.opening, ['(']⟩ :: tower height ++ [⟨.closing, [')']⟩]

@[simp] theorem Token.balance_openings (height : Nat) :
    Token.balance (Token.openings height) = height := by
  induction height with
  | zero => rfl
  | succ height ih =>
      rw [Token.openings, Token.balance_cons_of_ne (by simp) (by simp),
        Token.balance_cons_of_opening rfl, ih]
      omega

theorem spells_tower (height : Nat) :
    Spells (Token.tower height) (.term (Term.tower height)) := by
  induction height with
  | zero => exact .atom rfl
  | succ height ih => exact .compound rfl rfl rfl (.one ih)

/-- A tower fits a limit that it does not grow beyond. -/
theorem fits_tower {bound : Int} {height : Nat} {level : Int} (low : level + height ≤ bound) :
    (Term.tower height).Fits (.whole bound) level := by
  induction height generalizing level with
  | zero => trivial
  | succ height ih =>
      have below : (Number.whole bound).atMost level = false := by
        rw [← Bool.not_eq_true, Parser.whole_atMost_iff]
        omega
      exact ⟨below, ih (by omega), trivial⟩

/-- A tower that fits a limit does not grow beyond it. -/
theorem lt_of_fits_tower {bound : Int} {height : Nat} {level : Int}
    (fits : (Term.tower (height + 1)).Fits (.whole bound) level) : level + height < bound := by
  induction height generalizing level with
  | zero =>
      have below := fits.1
      rw [← Bool.not_eq_true, Parser.whole_atMost_iff] at below
      omega
  | succ height ih =>
      have inner := ih fits.2.1
      omega

namespace Parser

variable {limit : Number} {level : Int} {cursor : Cursor} {stack : Stack} {term : Term}
  {last : Cursor}

/-- What is not returned has failed, for the end of the stack only if the run exceeds it. -/
theorem exists_failed_of_unread
    (unread : ¬ ∃ term last, Recognises limit level cursor term last ∧
      term.Fits (.whole (level + stack.levels)) level) :
    ∃ failure stopped notes, onStack stack expr limit level cursor =
        .failed failure stopped notes ∧
      (failure = .stackExhausted ↔ Exceeds stack expr limit level cursor) := by
  cases came : onStack stack expr limit level cursor with
  | returned term last notes =>
      exact absurd ⟨term, last, onStack_expr_iff.1 ⟨notes, came⟩⟩ unread
  | failed failure stopped notes =>
      refine ⟨failure, stopped, notes, rfl, ?_⟩
      rw [measured_expr.exceeds_iff, came, Outcome.result, Except.error.injEq]

/-- On any stack the rule for terms returns exactly what the grammar, the lookahead, the
limit and the levels of the stack allow. It fails in every other case, for the end of the
stack exactly if the run exceeds it, and one term and one place to stop are allowed at
most. Where the limit leaves no more levels than those in which the stack has room for a
note, as on the standard stack every limit of at most 330 does from level zero on, the stack
is out of the question. -/
theorem expr_recognises (stack : Stack) (limit : Number) (level : Int) (cursor : Cursor) :
    (∀ term last,
      (∃ notes, onStack stack expr limit level cursor = .returned term last notes) ↔
        Recognises limit level cursor term last ∧
          term.Fits (.whole (level + stack.levels)) level) ∧
    ((¬ ∃ term last, Recognises limit level cursor term last ∧
        term.Fits (.whole (level + stack.levels)) level) →
      ∃ failure stopped notes, onStack stack expr limit level cursor =
          .failed failure stopped notes ∧
        (failure = .stackExhausted ↔ Exceeds stack expr limit level cursor)) ∧
    (∀ term other last elsewhere, Recognises limit level cursor term last →
      Recognises limit level cursor other elsewhere → term = other ∧ last = elsewhere) ∧
    (limit.atMost (level + stack.noted) = true →
      ¬ Exceeds stack expr limit level cursor ∧
      ∀ term last, Recognises limit level cursor term last →
        term.Fits (.whole (level + stack.levels)) level) := by
  refine ⟨fun _ _ => onStack_expr_iff, exists_failed_of_unread, fun _ _ _ _ one another =>
    one.unique another, fun outlasted => ?_⟩
  have room := measured_expr.not_exceeds outlasted cursor
  exact ⟨room, fun term last recognised =>
    not_not.1 fun deep => room (recognised.exceeds_iff.2 deep)⟩

/-- With a single level, `F(A,)` is recognised, and returned on a stack; what follows its
first token is no term, and is refused for another reason than the end of the stack. -/
theorem expr_recognises_trailing_separator :
    (Number.whole 1).atMost (0 + Stack.standard.noted) = true ∧
    (∃ last, Recognises (.whole 1) 0 atTrailingSeparator (.compound ['F'] [.atom ['A']]) last ∧
      onStack .standard expr (.whole 1) 0 atTrailingSeparator =
        .returned (.compound ['F'] [.atom ['A']]) last []) ∧
    ∃ failure stopped notes,
      onStack .standard expr (.whole 1) 0 atTrailingSeparator.advance =
        .failed failure stopped notes ∧ failure ≠ .stackExhausted := by
  have outlasted : (Number.whole 1).atMost (0 + Stack.standard.noted) = true := by decide
  refine ⟨outlasted, ?_, ?_⟩
  · have result : (onStack .standard expr (.whole 1) 0 atTrailingSeparator).result =
        .ok (.compound ['F'] [.atom ['A']]) := by
      cbv
    obtain ⟨last, notes, returned⟩ := Outcome.exists_returned result
    obtain ⟨returns, -, -, -⟩ := expr_recognises .standard (.whole 1) 0 atTrailingSeparator
    have recognised := ((returns _ last).1 ⟨notes, returned⟩).1
    have noteless := (measured_expr.onStack_of_atMost outlasted atTrailingSeparator).trans
      recognised.expr_eq
    exact ⟨last, recognised, noteless⟩
  · obtain ⟨-, fails, -, roomy⟩ :=
      expr_recognises .standard (.whole 1) 0 atTrailingSeparator.advance
    have unread : ¬ ∃ term last,
        Recognises (.whole 1) 0 atTrailingSeparator.advance term last ∧
          term.Fits (.whole (0 + Stack.standard.levels)) 0 := by
      rintro ⟨term, last, recognised, -⟩
      exact absurd (recognised.spelled.current_atom recognised.passes) (by decide)
    obtain ⟨failure, stopped, notes, failed, only⟩ := fails unread
    exact ⟨failure, stopped, notes, failed, fun ended =>
      (roomy outlasted).1 (only.1 ended)⟩

/-! ## Towers on a stack -/

/-- The cursor on the first token of a tower. -/
def atTower (height : Nat) : Cursor := .ofTokens (Token.tower height)

/-- The tokens of a tower lead to the stop behind them. -/
theorem exists_passes_tower (height : Nat) :
    ∃ last, (atTower height).Passes (Token.tower height) last ∧ last.current.kind = .stop := by
  have ahead : (atTower height).ahead = Token.tower height ++ [.stop] := by
    rw [atTower, Cursor.ahead_ofTokens, Cursor.close, if_neg]
    cases height with
    | zero => decide
    | succ height => simp only [Token.tower, List.getLast?_concat, Option.map_some]; decide
  obtain ⟨last, passage, rest⟩ := Cursor.Passes.exists_of_ahead ahead (by simp)
  have atStop : last.current = Token.stop := (List.cons.inj rest).1
  exact ⟨last, passage, by rw [atStop]; rfl⟩

/-- A tower that fits the limit is recognised. -/
theorem exists_recognises_tower {height : Nat} (fits : (Term.tower height).Fits limit level) :
    ∃ last, Recognises limit level (atTower height) (Term.tower height) last := by
  obtain ⟨last, passage, atStop⟩ := exists_passes_tower height
  exact ⟨last, .of_passes passage (spells_tower height) (.inr (by simp [atStop])) fits⟩

/-- A tower that is higher than the stack exceeds it. -/
theorem exceeds_tower {height : Nat} (fits : (Term.tower height).Fits limit level)
    (higher : stack.levels < height) : Exceeds stack expr limit level (atTower height) := by
  obtain ⟨last, recognised⟩ := exists_recognises_tower fits
  refine recognised.exceeds_iff.2 fun within => ?_
  obtain ⟨below, rfl⟩ : ∃ below, height = below + 1 := ⟨height - 1, by omega⟩
  have low := lt_of_fits_tower within
  omega

/-- The first of some operators is passed over with its bracket. -/
theorem passes_openings {height : Nat} {inner : Cursor}
    (passage : cursor.Passes (Token.openings (height + 1)) inner) :
    AtOperator cursor ∧ cursor.advance.advance.Passes (Token.openings height) inner := by
  obtain ⟨name, onBracket⟩ := passage.of_cons
  obtain ⟨bracket, inside⟩ := onBracket.of_cons
  rw [AtOperator, cursor.lookahead_eq_current_advance, name, bracket]
  exact ⟨⟨rfl, rfl⟩, inside⟩

/-- Behind operators that the limit admits, reading fails as the innermost arguments do. -/
theorem reads_openings {height : Nat} {inner stopped : Cursor} {failure : Failure}
    {notes : List Note} (fits : (Term.tower (height + 1)).Fits limit level)
    (passage : cursor.Passes (Token.openings (height + 1)) inner)
    (fails : Reads limit (level + (height + 1)) inner
      (.arguments (.failed failure stopped notes))) :
    Reads limit level cursor (.term (.failed failure stopped notes)) := by
  induction height generalizing level cursor with
  | zero =>
      obtain ⟨operator, onInner⟩ := passes_openings passage
      obtain rfl := onInner.eq_of_nil
      exact .badArguments operator fits.1 (by simpa using fails)
  | succ height ih =>
      obtain ⟨operator, inside⟩ := passes_openings passage
      have noClosing : cursor.advance.advance.current.kind ≠ .closing := by
        simp [(passes_openings inside).1.1]
      refine .badArguments operator fits.1 (.badArgument noClosing (ih fits.2.1 inside ?_))
      rwa [Nat.cast_succ, add_comm (height + 1 : Int), ← add_assoc] at fails

/-- The cursor on the first of so many operators with their brackets and a name, none of
which is closed. -/
def atOpenings (height : Nat) : Cursor :=
  .ofTokens (Token.openings height ++ [⟨.atom, ['A']⟩] ++ [.stop])

/-- Brackets that are not closed are noted as such behind the last token, if there are any. -/
theorem exists_expr_openings {height : Nat} (fits : (Term.tower (height + 1)).Fits limit level) :
    ∃ last, (atOpenings (height + 1)).Passes
        (Token.openings (height + 1) ++ [⟨.atom, ['A']⟩]) last ∧
      expr limit level (atOpenings (height + 1)) =
        .failed (.expectedSeparator .stop) last [.seen "seq".toList last] := by
  have ahead : (atOpenings (height + 1)).ahead =
      Token.openings (height + 1) ++ [⟨.atom, ['A']⟩] ++ [.stop] := by
    rw [atOpenings, Cursor.ahead_ofTokens, Cursor.close_append_stop]
  obtain ⟨last, passage, rest⟩ := Cursor.Passes.exists_of_ahead ahead (by simp)
  have atStop : last.current.kind = .stop := by
    rw [show last.current = Token.stop from (List.cons.inj rest).1]
    rfl
  obtain ⟨inner, front, onName⟩ := passage.of_append
  obtain ⟨name, stays⟩ := onName.of_cons
  obtain rfl := stays.eq_of_nil
  have kind : inner.current.kind = .atom := by rw [name]
  have alone : inner.lookahead.kind ≠ .opening := by
    rw [inner.lookahead_eq_current_advance, atStop]
    decide
  have unclosed (level : Int) : Reads limit level inner
      (.arguments (.failed (.expectedSeparator .stop) inner.advance
        [.seen "seq".toList inner.advance])) := by
    have fails : Reads limit level inner (.arguments (unseparated inner.advance)) :=
      .unseparated (by simp [kind]) (.atom kind alone) (by simp [atStop]) (by simp [atStop])
    rwa [unseparated, atStop] at fails
  exact ⟨inner.advance, passage, (reads_openings fits front (unclosed _)).followed⟩

/-- A note that is to be made inside more brackets than the stack has room for is lost. -/
theorem exceeds_openings {height : Nat} (fits : (Term.tower (height + 1)).Fits limit level)
    (deeper : stack.noted < height + 1) :
    Exceeds stack expr limit level (atOpenings (height + 1)) := by
  obtain ⟨last, passage, failed⟩ := exists_expr_openings fits
  refine .note failed (List.cons_ne_nil _ _) ?_
  rw [passage.upTo_eq, Token.balance_append, Token.balance_openings,
    Token.balance_cons_of_ne (by simp) (by simp), Token.balance_nil]
  omega

/-- A thousand levels out a tower of four hundred operators fits the limit of 330 and is
recognised, and still it is not returned. And where notes are written, three hundred and
thirty brackets that the limit admits and nothing closes are not refused as such. -/
theorem expr_recognises_fails :
    (Number.whole 330).atMost 330 = true ∧
    (∃ last, Recognises (.whole 330) (-1000) (atTower 400) (Term.tower 400) last) ∧
    (∃ stopped, onStack .standard expr (.whole 330) (-1000) (atTower 400) =
      .failed .stackExhausted stopped []) ∧
    ∃ stopped, onStack .logging expr (.whole 330) 0 (atOpenings 330) =
      .failed .stackExhausted stopped [] := by
  have high : (Term.tower 400).Fits (.whole 330) (-1000) := fits_tower (by decide)
  have fits : (Term.tower 330).Fits (.whole 330) 0 := fits_tower (by decide)
  exact ⟨by decide, exists_recognises_tower high,
    measured_expr.exists_of_exceeds (exceeds_tower high (by decide)),
    measured_expr.exists_of_exceeds (exceeds_openings fits (by decide))⟩

end Parser

end TermText
