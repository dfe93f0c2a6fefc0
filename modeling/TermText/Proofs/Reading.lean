/-
# Readings

Everything that the two recursive rules can do, as a relation: one constructor
for each way in which a term, or a list of arguments, is read or refused. A
reading mentions neither the arguments gathered before nor the checks of a
compound that cannot fail, and a reading that returns makes no note; that the
rules behave in this way is proved here once. Later statements about the rules
go by induction on a reading and never open the rules themselves.
-/

import TermText.Parser.Rules
import TermText.Proofs.Passage

namespace TermText

/-- A result that is a value was returned at some cursor. -/
theorem Outcome.exists_returned {α : Type} {outcome : Outcome α} {value : α}
    (result : outcome.result = .ok value) :
    ∃ last notes, outcome = .returned value last notes := by
  cases outcome with
  | returned other last notes =>
      obtain rfl : other = value := Except.ok.inj result
      exact ⟨last, notes, rfl⟩
  | failed => cases result

/-- A result that is a failure was found at some cursor. -/
theorem Outcome.exists_failed {α : Type} {outcome : Outcome α} {failure : Failure}
    (result : outcome.result = .error failure) :
    ∃ stopped notes, outcome = .failed failure stopped notes := by
  cases outcome with
  | returned => cases result
  | failed other stopped notes =>
      obtain rfl : other = failure := Except.error.inj result
      exact ⟨stopped, notes, rfl⟩

/-- What is left of an outcome that failed after its value was put into another form. -/
theorem Outcome.map_eq_failed_iff {α β : Type} {form : α → β} {outcome : Outcome α}
    {failure : Failure} {stopped : Cursor} {notes : List Note} :
    outcome.map form = .failed failure stopped notes ↔
      outcome = .failed failure stopped notes := by
  cases outcome with
  | returned => simp [map]
  | failed => simp [map]

/-- Whether a failure is right about the tokens where the cursor stopped. -/
def Failure.Describes (stopped : Cursor) : Failure → Prop
  | .expectedAtom got => stopped.current.kind = got ∧ got ≠ .atom ∧
      stopped.lookahead.kind ≠ .opening
  | .expectedOperator => stopped.current.kind ≠ .atom ∧ stopped.lookahead.kind = .opening
  | .expectedSeparator got => stopped.current.kind = got ∧ got ≠ .separator ∧ got ≠ .closing
  | .tooDeep _ => Parser.AtOperator stopped
  | .expected _ _ | .stackExhausted => False

namespace Parser

/-- What was to be read, and what came of it. -/
inductive Reading
  | term (outcome : Outcome Term)
  | arguments (outcome : Outcome (List Term))

/-- At a level and a cursor, this is what reading comes to. One relation covers
both kinds of readings, so that an induction goes through both at once. -/
inductive Reads (limit : Number) : Int → Cursor → Reading → Prop
  | atom {level : Int} {cursor : Cursor} :
      cursor.current.kind = .atom → cursor.lookahead.kind ≠ .opening →
      Reads limit level cursor
        (.term (.returned (.atom cursor.current.text) cursor.advance []))
  | noAtom {level : Int} {cursor : Cursor} :
      cursor.current.kind ≠ .atom → cursor.lookahead.kind ≠ .opening →
      Reads limit level cursor
        (.term (.failed (.expectedAtom cursor.current.kind) cursor []))
  | noOperator {level : Int} {cursor : Cursor} :
      cursor.current.kind ≠ .atom → cursor.lookahead.kind = .opening →
      Reads limit level cursor (.term (.failed .expectedOperator cursor []))
  | tooDeep {level : Int} {cursor : Cursor} :
      AtOperator cursor → limit.atMost level = true →
      Reads limit level cursor (.term (.failed (.tooDeep limit) cursor []))
  | compound {level : Int} {cursor outside : Cursor} {arguments : List Term} :
      AtOperator cursor → limit.atMost level = false →
      Reads limit (level + 1) cursor.advance.advance
        (.arguments (.returned arguments outside [])) →
      outside.current.kind = .closing →
      Reads limit level cursor
        (.term (.returned (.compound cursor.current.text arguments) outside.advance []))
  | badArguments {level : Int} {cursor stopped : Cursor} {failure : Failure}
      {notes : List Note} :
      AtOperator cursor → limit.atMost level = false →
      Reads limit (level + 1) cursor.advance.advance
        (.arguments (.failed failure stopped notes)) →
      Reads limit level cursor (.term (.failed failure stopped notes))
  | none {level : Int} {cursor : Cursor} :
      cursor.current.kind = .closing →
      Reads limit level cursor (.arguments (.returned [] cursor []))
  | badArgument {level : Int} {cursor stopped : Cursor} {failure : Failure}
      {notes : List Note} :
      cursor.current.kind ≠ .closing →
      Reads limit level cursor (.term (.failed failure stopped notes)) →
      Reads limit level cursor (.arguments (.failed failure stopped notes))
  | one {level : Int} {cursor next : Cursor} {term : Term} :
      cursor.current.kind ≠ .closing →
      Reads limit level cursor (.term (.returned term next [])) →
      next.current.kind = .closing →
      Reads limit level cursor (.arguments (.returned [term] next []))
  | more {level : Int} {cursor next : Cursor} {term : Term} {outcome : Outcome (List Term)} :
      cursor.current.kind ≠ .closing →
      Reads limit level cursor (.term (.returned term next [])) →
      next.current.kind = .separator →
      Reads limit level next.advance (.arguments outcome) →
      Reads limit level cursor (.arguments (outcome.map (term :: ·)))
  | unseparated {level : Int} {cursor next : Cursor} {term : Term} :
      cursor.current.kind ≠ .closing →
      Reads limit level cursor (.term (.returned term next [])) →
      next.current.kind ≠ .separator → next.current.kind ≠ .closing →
      Reads limit level cursor (.arguments (unseparated next))

variable {limit : Number} {level : Int} {cursor : Cursor}

/-! ## The rules follow the readings -/

@[simp] theorem expect_of_kind {wanted : Kind} (found : cursor.current.kind = wanted) :
    expect wanted cursor = .returned () cursor.advance [] :=
  if_pos found

/-- Behind an operator the bracket that the lookahead showed is under the cursor. -/
theorem AtOperator.opening (operator : AtOperator cursor) :
    cursor.advance.current.kind = .opening := by
  rw [← cursor.lookahead_eq_current_advance]
  exact operator.2

/-- An operator and its bracket are passed over on the way to the arguments. -/
theorem AtOperator.passes (operator : AtOperator cursor) :
    cursor.Passes [cursor.current, cursor.advance.current] cursor.advance.advance :=
  (cursor.passes_advance (by simp [operator.1])).trans
    (cursor.advance.passes_advance (by simp [operator.opening]))

/-- A compound below the limit is decided by its arguments and by the token
after them. -/
theorem expr_of_atOperator (operator : AtOperator cursor)
    (below : limit.atMost level = false) :
    expr limit level cursor =
      (arguments limit (level + 1) cursor.advance.advance).andThen fun arguments outside =>
        (expect .closing outside).andThen fun _ after =>
          .returned (.compound cursor.current.text arguments) after [] := by
  rw [expr_eq, if_pos operator.2, compound_eq, if_pos operator,
    if_neg (by simp [below]), expect_of_kind operator.opening]
  simp

/-- What a reading says of the rules: the rule for terms comes to its outcome,
and the loop over arguments puts those gathered before in front. -/
def Followed (limit : Number) (level : Int) (cursor : Cursor) : Reading → Prop
  | .term outcome => expr limit level cursor = outcome
  | .arguments outcome => ∀ gathered,
      argumentsFrom limit level gathered cursor = outcome.map (gathered.reverse ++ ·)

theorem Reads.followed {reading : Reading} (reads : Reads limit level cursor reading) :
    Followed limit level cursor reading := by
  induction reads with
  | atom name alone =>
      simp only [Followed]
      rw [expr_eq, if_neg alone, Parser.atom, if_pos name]
  | noAtom noName alone =>
      simp only [Followed]
      rw [expr_eq, if_neg alone, Parser.atom, if_neg noName]
  | noOperator noName bracket =>
      simp only [Followed]
      rw [expr_eq, if_pos bracket, compound_eq, if_neg (fun operator => noName operator.1)]
  | tooDeep operator reached =>
      simp only [Followed]
      rw [expr_eq, if_pos operator.2, compound_eq, if_pos operator, if_pos reached]
  | compound operator below inner closed ih =>
      simp only [Followed]
      rw [expr_of_atOperator operator below, Parser.arguments, ih []]
      simp [Outcome.map, closed]
  | badArguments operator below inner ih =>
      simp only [Followed]
      rw [expr_of_atOperator operator below, Parser.arguments, ih []]
      simp [Outcome.map]
  | none closed =>
      intro gathered
      rw [argumentsFrom_eq, if_pos closed]
      simp [Outcome.map]
  | badArgument noClosing first ih =>
      intro gathered
      rw [argumentsFrom_eq, if_neg noClosing, ih]
      simp [Outcome.map]
  | one noClosing first closed ih =>
      intro gathered
      rw [argumentsFrom_eq, if_neg noClosing, ih, Outcome.andThen_returned,
        if_neg (by simp [closed]), if_pos closed, argumentsFrom_eq, if_pos closed]
      simp [Outcome.map]
  | @more _ _ _ _ outcome noClosing first separator rest ihFirst ihRest =>
      intro gathered
      rw [argumentsFrom_eq, if_neg noClosing, ihFirst, Outcome.andThen_returned,
        if_pos separator, ihRest]
      cases outcome <;> simp [Outcome.map]
  | unseparated noClosing first noSeparator noEnd ih =>
      intro gathered
      rw [argumentsFrom_eq, if_neg noClosing, ih, Outcome.andThen_returned,
        if_neg noSeparator, if_neg noEnd]
      simp [Parser.unseparated, Outcome.map]

/-! ## What every reading leaves behind -/

/-- What a returned value leaves behind: no notes, and after arguments the
closing bracket under the cursor. -/
def Settled : Reading → Prop
  | .term (.returned _ _ notes) => notes = []
  | .arguments (.returned _ next notes) => notes = [] ∧ next.current.kind = .closing
  | .term (.failed _ _ _) | .arguments (.failed _ _ _) => True

theorem Reads.settled {reading : Reading} (reads : Reads limit level cursor reading) :
    Settled reading := by
  induction reads with
  | atom | compound => rfl
  | none closed => exact ⟨rfl, closed⟩
  | one _ _ closed => exact ⟨rfl, closed⟩
  | @more _ _ _ _ outcome _ _ _ _ _ ih =>
      cases outcome with
      | returned => exact ih
      | failed => trivial
  | noAtom | noOperator | tooDeep | badArguments | badArgument | unseparated => trivial

/-- What a failed reading says is right. -/
def Described : Reading → Prop
  | .term (.failed failure stopped _) | .arguments (.failed failure stopped _) =>
      failure.Describes stopped
  | .term (.returned _ _ _) | .arguments (.returned _ _ _) => True

theorem Reads.described {reading : Reading} (reads : Reads limit level cursor reading) :
    Described reading := by
  induction reads with
  | noAtom noName alone => exact ⟨rfl, noName, alone⟩
  | noOperator noName bracket => exact ⟨noName, bracket⟩
  | tooDeep operator => exact operator
  | badArguments _ _ _ ih => exact ih
  | badArgument _ _ ih => exact ih
  | @more _ _ _ _ outcome _ _ _ _ _ ih =>
      cases outcome with
      | returned => trivial
      | failed => exact ih
  | unseparated _ _ noSeparator noEnd => exact ⟨rfl, noSeparator, noEnd⟩
  | atom | compound | none | one => trivial

/-! ## Every call has a reading -/

/-- Where the arguments of a compound at this cursor have a reading, so has a
term. -/
theorem exists_reads_term (level : Int) (cursor : Cursor)
    (inner : AtOperator cursor → ∃ outcome,
      Reads limit (level + 1) cursor.advance.advance (.arguments outcome)) :
    ∃ outcome, Reads limit level cursor (.term outcome) := by
  by_cases name : cursor.current.kind = .atom
  · by_cases bracket : cursor.lookahead.kind = .opening
    · have operator : AtOperator cursor := ⟨name, bracket⟩
      by_cases reached : limit.atMost level = true
      · exact ⟨_, .tooDeep operator reached⟩
      · have below : limit.atMost level = false := by simpa using reached
        obtain ⟨outcome, reads⟩ := inner operator
        cases outcome with
        | returned arguments outside notes =>
            obtain ⟨rfl, closed⟩ := reads.settled
            exact ⟨_, .compound operator below reads closed⟩
        | failed failure stopped notes => exact ⟨_, .badArguments operator below reads⟩
    · exact ⟨_, .atom name bracket⟩
  · by_cases bracket : cursor.lookahead.kind = .opening
    · exact ⟨_, .noOperator name bracket⟩
    · exact ⟨_, .noAtom name bracket⟩

/-- Where a term at this cursor has a reading, and the arguments after it and
its separator have one, so have the arguments from this cursor on. -/
theorem exists_reads_arguments (level : Int) (cursor : Cursor)
    (first : ∃ outcome, Reads limit level cursor (.term outcome))
    (rest : ∀ term next, expr limit level cursor = .returned term next [] →
      ∃ outcome, Reads limit level next.advance (.arguments outcome)) :
    ∃ outcome, Reads limit level cursor (.arguments outcome) := by
  by_cases closed : cursor.current.kind = .closing
  · exact ⟨_, .none closed⟩
  · obtain ⟨outcome, reads⟩ := first
    cases outcome with
    | failed failure stopped notes => exact ⟨_, .badArgument closed reads⟩
    | returned term next notes =>
        obtain rfl : notes = [] := reads.settled
        by_cases separator : next.current.kind = .separator
        · obtain ⟨after, readsRest⟩ := rest term next reads.followed
          exact ⟨_, .more closed reads separator readsRest⟩
        · by_cases ended : next.current.kind = .closing
          · exact ⟨_, .one closed reads ended⟩
          · exact ⟨_, .unseparated closed reads separator ended⟩

/-- Both kinds of readings exist everywhere. The induction is on the tokens to
come: the arguments of a compound start after two tokens that are no stops, and
the arguments after a separator behind a term, which takes a token at least. -/
theorem exists_reads (limit : Number) (level : Int) (cursor : Cursor) :
    (∃ outcome, Reads limit level cursor (.term outcome)) ∧
      ∃ outcome, Reads limit level cursor (.arguments outcome) := by
  induction size : cursor.later.length using Nat.strongRecOn
    generalizing level cursor with
  | ind count ih =>
      have first : ∃ outcome, Reads limit level cursor (.term outcome) := by
        apply exists_reads_term
        intro operator
        have moved := cursor.length_later_advance_lt (by simp [operator.1])
        have passed := cursor.advance.length_later_advance_le
        exact (ih _ (by omega) (level + 1) cursor.advance.advance rfl).2
      refine ⟨first, exists_reads_arguments level cursor first ?_⟩
      intro term next returned
      have moved : next.later.length < cursor.later.length := by
        simpa only [returned, Outcome.within_returned] using expr_within limit level cursor
      have passed := next.length_later_advance_le
      exact (ih _ (by omega) level next.advance rfl).2

/-- The rule for terms is described by its reading. -/
theorem reads_expr (limit : Number) (level : Int) (cursor : Cursor) :
    Reads limit level cursor (.term (expr limit level cursor)) := by
  obtain ⟨outcome, reads⟩ := (exists_reads limit level cursor).1
  rwa [show expr limit level cursor = outcome from reads.followed]

/-- A term is returned without notes. -/
theorem noteless_of_expr {term : Term} {last : Cursor} {notes : List Note}
    (returned : expr limit level cursor = .returned term last notes) : notes = [] := by
  have reads := reads_expr limit level cursor
  rw [returned] at reads
  exact reads.settled

/-- A loop that starts with nothing gathered comes to what is read. -/
theorem Reads.arguments_eq {outcome : Outcome (List Term)}
    (reads : Reads limit level cursor (.arguments outcome)) :
    arguments limit level cursor = outcome := by
  have followed : arguments limit level cursor = outcome.map ([] ++ ·) := reads.followed []
  rw [followed]
  cases outcome <;> rfl

/-- The rule for arguments is described by its reading. -/
theorem reads_arguments (limit : Number) (level : Int) (cursor : Cursor) :
    Reads limit level cursor (.arguments (arguments limit level cursor)) := by
  obtain ⟨outcome, reads⟩ := (exists_reads limit level cursor).2
  rwa [reads.arguments_eq]

/-- On an operator the rule for compounds is the rule for terms. -/
theorem compound_of_atOperator (operator : AtOperator cursor) (limit : Number) (level : Int) :
    compound limit level cursor = expr limit level cursor := by
  rw [expr_eq, if_pos operator.2]

/-- Elsewhere it fails at once. -/
theorem compound_of_not_atOperator (noOperator : ¬ AtOperator cursor) (limit : Number)
    (level : Int) : compound limit level cursor = .failed .expectedOperator cursor [] := by
  rw [compound_eq, if_neg noOperator]

end Parser

end TermText
