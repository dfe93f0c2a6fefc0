/-
# The machine simulates the rules

The machine with an explicit stack and the recursive rules come to the same
outcome at every cursor, level and limit: the same term or the same failure,
at the same cursor and with the same notes. What the rules keep in their
callers, the machine keeps on its stack, so a reading inside any stack of open
compounds is compared with the machine from that stack, and what the callers
would do next with `resume`. The machine's stack has no end. Where the callers
are on one that does, the two come to the same unless the run exceeds it.
-/

import TermText.Parser.Machine
import TermText.Proofs.Towers

namespace TermText.Parser.Machine

variable {limit : Number} {level : Int} {cursor : Cursor}

/-- What comes of a move. -/
def Move.follow (limit : Number) (level : Int) : Move → Outcome Term
  | .halt outcome => outcome
  | .go state cursor => run limit level state cursor

/-- The state in which a term is wanted inside these open compounds. -/
def enter : List Open → State
  | [] => .first
  | top :: below => .wanted top below

/-- What the open compounds still do once a term inside them is complete. -/
def resume (limit : Number) (level : Int) : List Open → Term → Cursor → Outcome Term
  | [], term, cursor => .returned term cursor []
  | top :: below, term, cursor => run limit level (.completed (top.add term) below) cursor

/-! ## One move -/

theorem run_eq (limit : Number) (level : Int) (state : State) (cursor : Cursor) :
    run limit level state cursor = (step limit level cursor state).follow limit level := by
  rw [run]
  split
  · next moved => simp only [moved, Move.follow]
  · next moved => simp only [moved, Move.follow]

theorem follow_closeTop (top : Open) (below : List Open) :
    (closeTop top below cursor).follow limit level =
      resume limit level below top.close cursor.advance := by
  cases below with
  | nil => rfl
  | cons => rfl

/-- Where a term is wanted and no closing bracket ends the arguments, a term
begins. -/
theorem run_enter {stack : List Open}
    (noClosing : stack ≠ [] → cursor.current.kind ≠ .closing) :
    run limit level (enter stack) cursor =
      (begin limit level stack
        (fun term => match stack with
          | [] => .halt (.returned term cursor.advance [])
          | top :: below => .go (.completed (top.add term) below) cursor.advance)
        cursor).follow limit level := by
  rw [run_eq]
  cases stack with
  | nil => rfl
  | cons top below =>
      simp only [enter, step]
      rw [if_neg (noClosing (List.cons_ne_nil top below))]

theorem run_enter_atom {stack : List Open} (name : cursor.current.kind = .atom)
    (alone : cursor.lookahead.kind ≠ .opening) :
    run limit level (enter stack) cursor =
      resume limit level stack (.atom cursor.current.text) cursor.advance := by
  rw [run_enter (by simp [name]), begin, if_neg (fun operator => alone operator.2), if_pos name]
  cases stack with
  | nil => rfl
  | cons => rfl

theorem run_enter_tooDeep {stack : List Open} (operator : AtOperator cursor)
    (reached : limit.atMost (level + stack.length) = true) :
    run limit level (enter stack) cursor = .failed (.tooDeep limit) cursor [] := by
  rw [run_enter (by simp [operator.1]), begin, if_pos operator, if_pos reached, Move.follow]

theorem run_enter_operator {stack : List Open} (operator : AtOperator cursor)
    (below : limit.atMost (level + stack.length) = false) :
    run limit level (enter stack) cursor =
      run limit level (.wanted ⟨cursor.current.text, []⟩ stack) cursor.advance.advance := by
  rw [run_enter (by simp [operator.1]), begin, if_pos operator, if_neg (by simp [below]),
    Move.follow]

theorem run_enter_noAtom {stack : List Open}
    (noClosing : stack ≠ [] → cursor.current.kind ≠ .closing)
    (noName : cursor.current.kind ≠ .atom) (alone : cursor.lookahead.kind ≠ .opening) :
    run limit level (enter stack) cursor =
      .failed (.expectedAtom cursor.current.kind) cursor [] := by
  rw [run_enter noClosing, begin, if_neg (fun operator => noName operator.1), if_neg noName,
    if_neg alone, Move.follow]

theorem run_enter_noOperator {stack : List Open}
    (noClosing : stack ≠ [] → cursor.current.kind ≠ .closing)
    (noName : cursor.current.kind ≠ .atom) (bracket : cursor.lookahead.kind = .opening) :
    run limit level (enter stack) cursor = .failed .expectedOperator cursor [] := by
  rw [run_enter noClosing, begin, if_neg (fun operator => noName operator.1), if_neg noName,
    if_pos bracket, Move.follow]

theorem run_wanted_closing {top : Open} {below : List Open}
    (closed : cursor.current.kind = .closing) :
    run limit level (.wanted top below) cursor =
      resume limit level below top.close cursor.advance := by
  rw [run_eq, step, if_pos closed, follow_closeTop]

theorem run_completed_closing {top : Open} {below : List Open}
    (closed : cursor.current.kind = .closing) :
    run limit level (.completed top below) cursor =
      resume limit level below top.close cursor.advance := by
  rw [run_eq, step, if_pos closed, follow_closeTop]

theorem run_completed_separator {top : Open} {below : List Open}
    (separator : cursor.current.kind = .separator) :
    run limit level (.completed top below) cursor =
      run limit level (.wanted top below) cursor.advance := by
  rw [run_eq, step, if_neg (by simp [separator]), if_pos separator, Move.follow]

theorem run_completed_unseparated {top : Open} {below : List Open}
    (noSeparator : cursor.current.kind ≠ .separator)
    (noClosing : cursor.current.kind ≠ .closing) :
    run limit level (.completed top below) cursor = unseparated cursor := by
  rw [run_eq, step, if_neg noClosing, if_neg noSeparator, Move.follow]

/-! ## All moves -/

/-- What a reading says of the machine. A term is read inside any stack whose
height accounts for the level, and then the stack goes on; arguments are read
into any open compound, and then the compound is complete. -/
def Simulated (limit : Number) (level : Int) (cursor : Cursor) : Reading → Prop
  | .term outcome => ∀ (base : Int) (stack : List Open),
      level = base + stack.length → (stack ≠ [] → cursor.current.kind ≠ .closing) →
      run limit base (enter stack) cursor = outcome.andThen (resume limit base stack)
  | .arguments outcome =>
      ∀ (base : Int) (operator : Text) (gathered : List Term) (below : List Open),
      level = base + below.length + 1 →
      run limit base (.wanted ⟨operator, gathered⟩ below) cursor =
        outcome.andThen fun arguments outside =>
          resume limit base below (.compound operator (gathered.reverse ++ arguments))
            outside.advance

/-- A term where an argument is wanted completes an argument of the innermost
open compound. -/
theorem Simulated.argument {outcome : Outcome Term} {base : Int} {below : List Open}
    (simulated : Simulated limit level cursor (.term outcome)) (top : Open)
    (height : level = base + below.length + 1) (noClosing : cursor.current.kind ≠ .closing) :
    run limit base (.wanted top below) cursor =
      outcome.andThen fun term next => run limit base (.completed (top.add term) below) next :=
  simulated base (top :: below) (by simp [height, Int.add_assoc]) (fun _ => noClosing)

theorem simulated_of_reads {reading : Reading} (reads : Reads limit level cursor reading) :
    Simulated limit level cursor reading := by
  induction reads with
  | atom name alone =>
      intro base stack height noClosing
      rw [run_enter_atom name alone]
      simp
  | noAtom noName alone =>
      intro base stack height noClosing
      rw [run_enter_noAtom noClosing noName alone]
      simp
  | noOperator noName bracket =>
      intro base stack height noClosing
      rw [run_enter_noOperator noClosing noName bracket]
      simp
  | tooDeep operator reached =>
      intro base stack height noClosing
      subst height
      rw [run_enter_tooDeep operator reached]
      simp
  | compound operator below inner closed ih =>
      intro base stack height noClosing
      subst height
      rw [run_enter_operator operator below, ih base _ [] stack rfl]
      simp
  | badArguments operator below inner ih =>
      intro base stack height noClosing
      subst height
      rw [run_enter_operator operator below, ih base _ [] stack rfl]
      simp
  | none closed =>
      intro base operator gathered below height
      rw [run_wanted_closing closed]
      simp [Open.close]
  | badArgument noClosing first ih =>
      intro base operator gathered below height
      rw [ih.argument _ height noClosing]
      simp
  | one noClosing first closed ih =>
      intro base operator gathered below height
      rw [ih.argument _ height noClosing, Outcome.andThen_returned, Outcome.after_nil,
        run_completed_closing closed]
      simp [Open.add, Open.close]
  | @more _ _ _ term outcome noClosing first separator rest ihFirst ihRest =>
      intro base operator gathered below height
      have continued := ihRest base operator (term :: gathered) below height
      rw [ihFirst.argument _ height noClosing, Outcome.andThen_returned, Outcome.after_nil,
        run_completed_separator separator, Open.add, continued]
      cases outcome <;> simp [Outcome.map]
  | unseparated noClosing first noSeparator noEnd ih =>
      intro base operator gathered below height
      rw [ih.argument _ height noClosing, Outcome.andThen_returned, Outcome.after_nil,
        run_completed_unseparated noSeparator noEnd]
      rfl

/-- The machine reads what the rule for terms reads. -/
theorem read_eq : read = expr := by
  funext limit level cursor
  have entered := simulated_of_reads (reads_expr limit level cursor) level [] (by simp)
    (fun none => absurd rfl none)
  rw [read, show State.first = enter [] from rfl, entered]
  cases expr limit level cursor with
  | returned => simp [resume, Outcome.after]
  | failed => rfl

/-- From every cursor, at every level and under every limit the machine comes to the same as
the rule for terms: term or failure, cursor and notes. So it does where the rule is run on a
stack, unless the machine would have more compounds open than the stack has levels, or note a
failure inside more than it has room for notes in; then the rule fails for the end of the
stack. That is never so where the limit leaves no more levels than those in which there is
room for a note, as on the standard stack every limit of at most 330 does from level zero
on. -/
theorem read_eq_expr (stack : Stack) (limit : Number) (level : Int) (cursor : Cursor) :
    read limit level cursor = expr limit level cursor ∧
    (¬ Exceeds stack read limit level cursor →
      read limit level cursor = onStack stack expr limit level cursor) ∧
    (Exceeds stack read limit level cursor → ∃ stopped,
      onStack stack expr limit level cursor = .failed .stackExhausted stopped []) ∧
    (limit.atMost (level + stack.noted) = true →
      ¬ Exceeds stack read limit level cursor) := by
  rw [read_eq]
  exact ⟨rfl, fun fits => (measured_expr.onStack_of_not_exceeds fits).symm,
    measured_expr.exists_of_exceeds, fun outlasted => measured_expr.not_exceeds outlasted cursor⟩

/-- The cursor on the first of the tokens of `F(G(A B`, which no term is. -/
def atUnclosed : Cursor :=
  .ofTokens [⟨.atom, ['F']⟩, ⟨.opening, ['(']⟩, ⟨.atom, ['G']⟩, ⟨.opening, ['(']⟩,
    ⟨.atom, ['A']⟩, ⟨.atom, ['B']⟩]

/-- Two levels below the limit, both fail at the missing separator. A stack that has two
levels, and room for a note in one of them alone, ends there. -/
theorem read_eq_expr_atUnclosed :
    let short : Stack := ⟨2, 1, by decide⟩
    (Number.whole 1).atMost (-1 + Stack.standard.noted) = true ∧
    (read (.whole 1) (-1) atUnclosed).result = .error (.expectedSeparator .atom) ∧
    read (.whole 1) (-1) atUnclosed = onStack .standard expr (.whole 1) (-1) atUnclosed ∧
    Exceeds short read (.whole 1) (-1) atUnclosed ∧
    ∃ stopped, onStack short expr (.whole 1) (-1) atUnclosed =
      .failed .stackExhausted stopped [] := by
  intro short
  have outlasted : (Number.whole 1).atMost (-1 + Stack.standard.noted) = true := by decide
  have result : (read (.whole 1) (-1) atUnclosed).result =
      .error (.expectedSeparator .atom) := by
    cbv
  have exceeds : Exceeds short read (.whole 1) (-1) atUnclosed := by
    rw [read_eq, measured_expr.exceeds_iff]
    cbv
  obtain ⟨-, same, -, room⟩ := read_eq_expr .standard (.whole 1) (-1) atUnclosed
  obtain ⟨-, -, ended, -⟩ := read_eq_expr short (.whole 1) (-1) atUnclosed
  exact ⟨outlasted, result, same (room outlasted), exceeds, ended exceeds⟩

/-- A thousand levels out the machine reads a tower of four hundred operators, which the limit
of 330 admits, and where notes are written it misses a separator inside three hundred and
thirty brackets. The rule comes to the end of its stack both times. -/
theorem read_eq_expr_fails :
    (Number.whole 330).atMost 330 = true ∧
    ((read (.whole 330) (-1000) (atTower 400)).result = .ok (Term.tower 400) ∧
      ∃ stopped, onStack .standard expr (.whole 330) (-1000) (atTower 400) =
        .failed .stackExhausted stopped []) ∧
    (read (.whole 330) 0 (atOpenings 330)).result = .error (.expectedSeparator .stop) ∧
    ∃ stopped, onStack .logging expr (.whole 330) 0 (atOpenings 330) =
      .failed .stackExhausted stopped [] := by
  have high : (Term.tower 400).Fits (.whole 330) (-1000) := fits_tower (by decide)
  have fits : (Term.tower 330).Fits (.whole 330) 0 := fits_tower (by decide)
  obtain ⟨last, recognised⟩ := exists_recognises_tower high
  obtain ⟨stopped, -, failed⟩ := exists_expr_openings fits
  rw [read_eq, recognised.expr_eq, failed]
  exact ⟨by decide, ⟨rfl, measured_expr.exists_of_exceeds (exceeds_tower high (by decide))⟩, rfl,
    measured_expr.exists_of_exceeds (exceeds_openings fits (by decide))⟩

end TermText.Parser.Machine
