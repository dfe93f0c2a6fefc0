/-
# Progress

Why reading ends. It is the cursor that brings it to an end and not the limit, which may be any
number, as may the level where a rule is started: a name, an opening bracket and a separator
are no stops, so they are never the last token, and moving on from one of them leaves fewer
tokens to come. Each round of the loop over arguments passes over a token at least, and a loop
inside another one starts behind the operator and its bracket. So no chain of calls goes on for
ever, and three units of fuel for each token from the cursor to the end are enough for a run
that counts its calls. Only a stack can end a run before its rule does.
-/

import TermText.Parser.Fuelled
import TermText.Proofs.Reasons
import TermText.Proofs.Towers

namespace TermText

namespace Cursor

variable {first last : Cursor} {tokens : List Token}

/-- Cursors on the same tokens, in the order of their positions. -/
instance : Preorder Cursor where
  le first last := last.tokens = first.tokens ∧ first.position ≤ last.position
  le_refl _ := ⟨rfl, le_rfl⟩
  le_trans _ _ _ early late := ⟨late.1.trans early.1, early.2.trans late.2⟩

theorem lt_iff : first < last ↔ last.tokens = first.tokens ∧ first.position < last.position := by
  constructor
  · rintro ⟨⟨same, later⟩, notBack⟩
    exact ⟨same, later.lt_of_ne fun level => notBack ⟨same.symm, level.ge⟩⟩
  · rintro ⟨same, later⟩
    exact ⟨⟨same, later.le⟩, fun back => absurd back.2 (not_le.2 later)⟩

/-- What is reached over some tokens comes later. -/
theorem Passes.lt (passage : first.Passes tokens last) (some : tokens ≠ []) : first < last := by
  have positive := List.length_pos_of_ne_nil some
  have moved := passage.position_eq
  exact lt_iff.2 ⟨passage.tokens_eq, by omega⟩

theorem le_advance (cursor : Cursor) : cursor ≤ cursor.advance := by
  obtain ⟨tokens, passage⟩ := cursor.exists_passes_advance
  exact ⟨passage.tokens_eq, passage.position_le⟩

/-- A later cursor has fewer tokens to come. -/
theorem length_later_le (later : first ≤ last) : last.later.length ≤ first.later.length := by
  obtain ⟨same, moved⟩ := later
  have total := position_add_length_later same
  omega

theorem length_later_lt (later : first < last) : last.later.length < first.later.length := by
  obtain ⟨same, moved⟩ := lt_iff.1 later
  have total := position_add_length_later same
  omega

end Cursor

namespace Parser

variable {limit : Number} {level : Int} {cursor : Cursor}

/-! ## Rounds of the loop -/

/-- One round of the loop over arguments: an argument is read and put with those gathered so
far. A separator after it is passed over, and a closing bracket is left to the loop. -/
def round (limit : Number) (level : Int) (gathered : List Term) (cursor : Cursor) :
    Outcome (List Term) :=
  (expr limit level cursor).andThen fun term next =>
    if next.current.kind = .separator then .returned (term :: gathered) next.advance []
    else if next.current.kind = .closing then .returned (term :: gathered) next []
    else unseparated next

/-- The loop goes round until it comes to a closing bracket. -/
theorem argumentsFrom_eq_round (limit : Number) (level : Int) (gathered : List Term)
    (cursor : Cursor) :
    argumentsFrom limit level gathered cursor =
      if cursor.current.kind = .closing then .returned gathered.reverse cursor []
      else (round limit level gathered cursor).andThen (argumentsFrom limit level) := by
  rw [argumentsFrom_eq, round]
  split
  · rfl
  · cases expr limit level cursor with
    | failed => rfl
    | returned term next notes =>
        simp only [Outcome.andThen_returned]
        split
        · simp [Outcome.after]
        · split
          · simp [Outcome.after]
          · rfl

/-- A term that was read has moved the cursor forward. -/
theorem lt_of_expr {term : Term} {next : Cursor} {notes : List Note}
    (returned : expr limit level cursor = .returned term next notes) : cursor < next :=
  have recognised := recognises_of_expr returned
  recognised.passes.lt recognised.spelled.ne_nil

/-- A round that was completed has moved the cursor forward. -/
theorem lt_of_round {gathered terms : List Term} {next : Cursor} {notes : List Note}
    (returned : round limit level gathered cursor = .returned terms next notes) :
    cursor < next := by
  rw [round] at returned
  cases read : expr limit level cursor with
  | failed =>
      rw [read] at returned
      cases returned
  | returned term last earlier =>
      have moved := lt_of_expr read
      rw [read, Outcome.andThen_returned] at returned
      split at returned
      · cases returned
        exact moved.trans_le last.le_advance
      · split at returned
        · cases returned
          exact moved
        · cases returned

/-! ## Calls inside calls -/

/-- A loop that is at the first cursor comes to the second after another round. -/
def GoesRound (limit : Number) (level : Int) (cursor next : Cursor) : Prop :=
  cursor.current.kind ≠ .closing ∧ ∃ gathered terms notes,
    round limit level gathered cursor = .returned terms next notes

/-- A rule that is started at a level and a cursor. -/
structure Call where
  rule : Rule
  level : Int
  cursor : Cursor

/-- The calls that a call makes itself: a term with a bracket behind its first token calls for a
compound, a compound below the limit for its arguments, and the loop over arguments for a term
in each of its rounds. -/
inductive Calls (limit : Number) : Call → Call → Prop
  | compound {level : Int} {cursor : Cursor} :
      cursor.lookahead.kind = .opening →
      Calls limit ⟨.term, level, cursor⟩ ⟨.compound, level, cursor⟩
  | arguments {level : Int} {cursor inside : Cursor} {notes : List Note} :
      AtOperator cursor → limit.atMost level = false →
      expect .opening cursor.advance = .returned () inside notes →
      Calls limit ⟨.compound, level, cursor⟩ ⟨.arguments, level + 1, inside⟩
  | term {level : Int} {start cursor : Cursor} :
      Relation.ReflTransGen (GoesRound limit level) start cursor →
      cursor.current.kind ≠ .closing →
      Calls limit ⟨.arguments, level, start⟩ ⟨.term, level, cursor⟩

variable {outer inner : Call}

/-- An operator and its bracket lie before the arguments that are called for. -/
theorem AtOperator.lt_of_expect {inside : Cursor} {notes : List Note} (operator : AtOperator cursor)
    (opened : expect .opening cursor.advance = .returned () inside notes) : cursor < inside := by
  rw [expect_of_kind operator.opening] at opened
  cases opened
  exact operator.passes.lt (List.cons_ne_nil _ _)

/-- The rounds of a loop lead forward. -/
theorem le_of_rounds {start : Cursor}
    (rounds : Relation.ReflTransGen (GoesRound limit level) start cursor) : start ≤ cursor :=
  Relation.reflTransGen_le_of_le (fun _ _ ⟨_, _, _, _, goes⟩ => (lt_of_round goes).le) _ _ rounds

/-- No call starts before the call that it is made by. -/
theorem Calls.le (calls : Calls limit outer inner) : outer.cursor ≤ inner.cursor := by
  cases calls with
  | compound => exact le_rfl
  | arguments operator _ opened => exact (operator.lt_of_expect opened).le
  | term rounds => exact le_of_rounds rounds

/-- Nor does any call inside that one. -/
theorem le_of_calls (chain : Relation.ReflTransGen (Calls limit) outer inner) :
    outer.cursor ≤ inner.cursor := by
  induction chain with
  | refl => exact le_rfl
  | tail _ calls ih => exact ih.trans calls.le

/-- A loop is only called for by a compound, and starts inside its bracket. -/
theorem Calls.lt (calls : Calls limit outer inner) (loop : inner.rule = .arguments) :
    outer.cursor < inner.cursor := by
  cases calls with
  | compound | term => cases loop
  | arguments operator _ opened => exact operator.lt_of_expect opened

/-- However deep it is inside another call, a loop starts later. -/
theorem lt_of_nested (nested : Relation.TransGen (Calls limit) outer inner)
    (loop : inner.rule = .arguments) : outer.cursor < inner.cursor := by
  obtain ⟨caller, above, calls⟩ := Relation.TransGen.tail'_iff.1 nested
  exact (le_of_calls above).trans_lt (calls.lt loop)

/-- A bound on the calls that can be inside one another below a call: three for each token to
come, and those that are left of the three at its own token. -/
def Call.cost (call : Call) : Nat :=
  3 * call.cursor.later.length +
    match call.rule with
    | .term => 1
    | .compound => 0
    | .arguments => 2

theorem Calls.cost_lt (calls : Calls limit outer inner) : inner.cost < outer.cost := by
  cases calls with
  | compound => simp [Call.cost]
  | arguments operator _ opened =>
      have fewer := Cursor.length_later_lt (operator.lt_of_expect opened)
      simp only [Call.cost]
      omega
  | term rounds =>
      have noMore := Cursor.length_later_le (le_of_rounds rounds)
      simp only [Call.cost]
      omega

/-- Calls do not go on inside one another for ever, whatever the limit. -/
theorem wellFounded_calls (limit : Number) :
    WellFounded fun inner outer => Calls limit outer inner :=
  Subrelation.wf (fun calls => calls.cost_lt) (measure Call.cost).wf

/-! ## Fuel -/

/-- Run a rule with a bound on the calls inside one another. -/
def Rule.fuelled (rule : Rule) (limit : Number) (fuel : Nat) (level : Int) (cursor : Cursor) :
    Option (Outcome Reply) :=
  match rule with
  | .term => (Fuelled.expr limit fuel level cursor).map (·.map .term)
  | .compound => (Fuelled.compound limit fuel level cursor).map (·.map .term)
  | .arguments => (Fuelled.argumentsFrom limit fuel level [] cursor).map (·.map .terms)

/-- Whether this much fuel is enough for every call that costs less, and the same comes of it. -/
structure Suffices (limit : Number) (fuel : Nat) : Prop where
  expr : ∀ level cursor, Call.cost ⟨.term, level, cursor⟩ < fuel →
    Fuelled.expr limit fuel level cursor = some (Parser.expr limit level cursor)
  compound : ∀ level cursor, Call.cost ⟨.compound, level, cursor⟩ < fuel →
    Fuelled.compound limit fuel level cursor = some (Parser.compound limit level cursor)
  arguments : ∀ level gathered cursor, Call.cost ⟨.arguments, level, cursor⟩ < fuel →
    Fuelled.argumentsFrom limit fuel level gathered cursor =
      some (argumentsFrom limit level gathered cursor)

variable {fuel : Nat}

/-- Going on with fuel comes to the same as going on, if it does so with what was returned. -/
theorem Fuelled.andThen_eq {α β : Type} {outcome : Outcome α}
    {next : α → Cursor → Option (Outcome β)} {plain : α → Cursor → Outcome β}
    (same : ∀ value last notes, outcome = .returned value last notes →
      next value last = some (plain value last)) :
    Fuelled.andThen (some outcome) next = some (outcome.andThen plain) := by
  cases outcome with
  | failed => rfl
  | returned value last notes => exact congrArg (Option.map _) (same value last notes rfl)

namespace Suffices

theorem expr_succ (enough : Suffices limit fuel)
    (cheap : Call.cost ⟨.term, level, cursor⟩ < fuel + 1) :
    Fuelled.expr limit (fuel + 1) level cursor = some (Parser.expr limit level cursor) := by
  rw [Fuelled.expr, expr_eq]
  split
  · next bracket =>
      have calls : Calls limit ⟨.term, level, cursor⟩ ⟨.compound, level, cursor⟩ :=
        .compound bracket
      have cheaper := calls.cost_lt
      exact enough.compound level cursor (by omega)
  · rfl

theorem compound_succ (enough : Suffices limit fuel)
    (cheap : Call.cost ⟨.compound, level, cursor⟩ < fuel + 1) :
    Fuelled.compound limit (fuel + 1) level cursor =
      some (Parser.compound limit level cursor) := by
  rw [Fuelled.compound, compound_eq]
  split
  · next operator =>
      split
      · rfl
      · next below =>
          apply Fuelled.andThen_eq
          intro _ inside notes opened
          have cheaper := (Calls.arguments operator (by simpa using below) opened).cost_lt
          rw [enough.arguments (level + 1) [] inside (by omega), ← Parser.arguments]
          apply Fuelled.andThen_eq
          intro arguments outside _ _
          apply Fuelled.andThen_eq
          intro _ after _ _
          rfl
  · rfl

theorem arguments_succ (enough : Suffices limit fuel) (gathered : List Term)
    (cheap : Call.cost ⟨.arguments, level, cursor⟩ < fuel + 1) :
    Fuelled.argumentsFrom limit (fuel + 1) level gathered cursor =
      some (argumentsFrom limit level gathered cursor) := by
  rw [Fuelled.argumentsFrom, argumentsFrom_eq]
  split
  · rfl
  · next noClosing =>
      have calls : Calls limit ⟨.arguments, level, cursor⟩ ⟨.term, level, cursor⟩ :=
        .term .refl noClosing
      have cheaper := calls.cost_lt
      rw [enough.expr level cursor (by omega)]
      apply Fuelled.andThen_eq
      intro term next notes returned
      have moved := lt_of_expr returned
      -- The loop goes on behind a token, so it costs less from there.
      have further (last : Cursor) (later : next ≤ last) :
          Call.cost ⟨.arguments, level, last⟩ < fuel := by
        have fewer := Cursor.length_later_lt (moved.trans_le later)
        simp only [Call.cost] at cheap ⊢
        omega
      split
      · exact enough.arguments level _ _ (further _ next.le_advance)
      · split
        · exact enough.arguments level _ _ (further _ le_rfl)
        · rfl

end Suffices

/-- Any fuel is enough for the calls that cost less. -/
theorem suffices_fuel (limit : Number) (fuel : Nat) : Suffices limit fuel := by
  induction fuel with
  | zero => exact ⟨by simp, by simp, by simp⟩
  | succ fuel ih =>
      exact ⟨fun _ _ => ih.expr_succ, fun _ _ => ih.compound_succ,
        fun _ gathered _ => ih.arguments_succ gathered⟩

/-- Three units of fuel for each token from the cursor to the end are enough for every rule. -/
theorem Rule.fuelled_eq (rule : Rule) (limit : Number) {fuel : Nat} (level : Int)
    {cursor : Cursor} (enough : 3 * cursor.ahead.length ≤ fuel) :
    rule.fuelled limit fuel level cursor = some (rule.run limit level cursor) := by
  have cheap (rule : Rule) : Call.cost ⟨rule, level, cursor⟩ < fuel := by
    simp only [Cursor.ahead, List.length_cons] at enough
    cases rule <;> simp only [Call.cost] <;> omega
  have same := suffices_fuel limit fuel
  cases rule with
  | term => rw [Rule.fuelled, same.expr level cursor (cheap .term)]; rfl
  | compound => rw [Rule.fuelled, same.compound level cursor (cheap .compound)]; rfl
  | arguments => rw [Rule.fuelled, same.arguments level [] cursor (cheap .arguments)]; rfl

/-! ## Ending -/

/-- Reading ends because the cursor goes forward, at every level and under every limit. The loop
over arguments goes round until it comes to a closing bracket, and each round that is completed
moves the cursor forward. A loop that is called for inside a loop, at whatever depth, starts at
a later token, and calls do not go on inside one another for ever. So every rule returns or
fails, never for the end of a stack that it does not have, and given as fuel three times the
number of tokens from the cursor to the end it does the same without running out. On a stack
the same comes of a run that does not exceed it, and a run that does fails at its end. Where
the limit leaves no more levels than those in which the stack has room for a note, as on the
standard stack every limit of at most 330 does from level zero on, no run exceeds it. -/
theorem ends_by_progress (stack : Stack) (limit : Number) (level : Int) (cursor : Cursor) :
    (∀ gathered, argumentsFrom limit level gathered cursor =
      if cursor.current.kind = .closing then .returned gathered.reverse cursor []
      else (round limit level gathered cursor).andThen (argumentsFrom limit level)) ∧
    (∀ gathered terms next notes,
      round limit level gathered cursor = .returned terms next notes →
        cursor.position < next.position) ∧
    (∀ inside inner, Relation.TransGen (Calls limit) ⟨.arguments, level, cursor⟩
      ⟨.arguments, inside, inner⟩ → cursor.position < inner.position) ∧
    (WellFounded fun inner outer => Calls limit outer inner) ∧
    ∀ rule : Rule,
      ((∃ reply last notes, rule.run limit level cursor = .returned reply last notes) ∨
        ∃ failure stopped notes, rule.run limit level cursor = .failed failure stopped notes ∧
          failure ≠ .stackExhausted) ∧
      (∀ fuel, 3 * cursor.ahead.length ≤ fuel →
        rule.fuelled limit fuel level cursor = some (rule.run limit level cursor)) ∧
      (¬ Exceeds stack rule.run limit level cursor →
        onStack stack rule.run limit level cursor = rule.run limit level cursor) ∧
      (Exceeds stack rule.run limit level cursor → ∃ stopped,
        onStack stack rule.run limit level cursor = .failed .stackExhausted stopped []) ∧
      (limit.atMost (level + stack.noted) = true →
        ¬ Exceeds stack rule.run limit level cursor) := by
  refine ⟨fun gathered => argumentsFrom_eq_round limit level gathered cursor,
    fun _ _ _ _ returned => (Cursor.lt_iff.1 (lt_of_round returned)).2,
    fun _ _ nested => (Cursor.lt_iff.1 (lt_of_nested nested rfl)).2,
    wellFounded_calls limit, fun rule => ⟨?_, fun _ => rule.fuelled_eq limit level,
      rule.measured.onStack_of_not_exceeds, rule.measured.exists_of_exceeds,
      fun outlasted => rule.measured.not_exceeds outlasted cursor⟩⟩
  cases came : rule.run limit level cursor with
  | returned reply last notes => exact .inl ⟨reply, last, notes, rfl⟩
  | failed failure stopped notes =>
      exact .inr ⟨failure, stopped, notes, rfl, Rule.ne_stackExhausted came⟩

/-- A thousand levels out a run on a tower of four hundred operators, which the limit of 330
admits, ends with the stack; and where notes are written, so does one on three hundred and
thirty brackets that nothing closes. -/
theorem ends_by_progress_fails :
    (Number.whole 330).atMost 330 = true ∧
    (∃ stopped, onStack .standard Rule.term.run (.whole 330) (-1000) (atTower 400) =
      .failed .stackExhausted stopped []) ∧
    ∃ stopped, onStack .logging Rule.term.run (.whole 330) 0 (atOpenings 330) =
      .failed .stackExhausted stopped [] := by
  have high : (Term.tower 400).Fits (.whole 330) (-1000) := fits_tower (by decide)
  have fits : (Term.tower 330).Fits (.whole 330) 0 := fits_tower (by decide)
  exact ⟨by decide,
    Rule.term.measured.exists_of_exceeds ((exceeds_tower high (by decide)).map Reply.term),
    Rule.term.measured.exists_of_exceeds ((exceeds_openings fits (by decide)).map Reply.term)⟩

/-- Seven levels below zero, a round over `G(A,)` inside `F(G(A,))` moves the cursor forward,
and the loop inside the brackets of `G` starts later than the one inside those of `F`, which
ends in the same way with the fuel for nine tokens and on a stack, unless the stack has no
level for `G`. -/
theorem ends_by_progress_nested :
    let inside := atNested.advance.advance
    let none : Stack := ⟨0, 0, le_rfl⟩
    (∃ terms next notes, round (.whole 1) (-7) [] inside = .returned terms next notes ∧
      inside.position < next.position) ∧
    Relation.TransGen (Calls (.whole 1)) ⟨.arguments, -7, inside⟩
      ⟨.arguments, -7 + 1, inside.advance.advance⟩ ∧
    inside.position < inside.advance.advance.position ∧
    3 * inside.ahead.length ≤ 27 ∧
    Rule.arguments.fuelled (.whole 1) 27 (-7) inside =
      some (Rule.arguments.run (.whole 1) (-7) inside) ∧
    (Number.whole 1).atMost (-7 + Stack.standard.noted) = true ∧
    onStack .standard Rule.arguments.run (.whole 1) (-7) inside =
      Rule.arguments.run (.whole 1) (-7) inside ∧
    Exceeds none Rule.arguments.run (.whole 1) (-7) inside ∧
    ∃ stopped, onStack none Rule.arguments.run (.whole 1) (-7) inside =
      .failed .stackExhausted stopped [] := by
  intro inside none
  have operator : AtOperator inside := by decide
  have nested : Relation.TransGen (Calls (.whole 1)) ⟨.arguments, -7, inside⟩
      ⟨.arguments, -7 + 1, inside.advance.advance⟩ :=
    ((Relation.TransGen.single (.term .refl (by decide))).tail (.compound operator.2)).tail
      (.arguments operator (by decide) (expect_of_kind operator.opening))
  have read : (round (.whole 1) (-7) [] inside).result =
      .ok [.compound ['G'] [.atom ['A']]] := by
    cbv
  obtain ⟨next, notes, returned⟩ := Outcome.exists_returned read
  have short : 3 * inside.ahead.length ≤ 27 := by decide
  have outlasted : (Number.whole 1).atMost (-7 + Stack.standard.noted) = true := by decide
  have exceeds : Exceeds none Rule.arguments.run (.whole 1) (-7) inside := by
    rw [Rule.arguments.measured.exceeds_iff]
    cbv
  obtain ⟨-, forward, later, -, rules⟩ := ends_by_progress .standard (.whole 1) (-7) inside
  obtain ⟨-, fuelled, same, -, room⟩ := rules .arguments
  obtain ⟨-, -, -, -, rules⟩ := ends_by_progress none (.whole 1) (-7) inside
  obtain ⟨-, -, -, ended, -⟩ := rules .arguments
  exact ⟨⟨_, next, notes, returned, forward _ _ _ _ returned⟩, nested, later _ _ nested, short,
    fuelled 27 short, outlasted, same (room outlasted), exceeds, ended exceeds⟩

end Parser

end TermText
