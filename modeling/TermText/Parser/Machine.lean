/-
# Reading with an explicit stack

A machine that reads a term in one pass over the tokens, without recursion. It
keeps a stack of open compounds, each with its operator and the arguments so
far, and it knows whether a term is wanted or has just been completed. It has
no stack but this one, so only the limit bounds the nesting.
-/

import TermText.Parser.Rules

namespace TermText.Parser

/-- A compound whose closing bracket has not come yet; the arguments are nearest first. -/
structure Open where
  operator : Text
  gathered : List Term

namespace Open

/-- One more argument for an open compound. -/
def add (top : Open) (term : Term) : Open := { top with gathered := term :: top.gathered }

/-- The compound that a closing bracket completes. -/
def close (top : Open) : Term := .compound top.operator top.gathered.reverse

end Open

namespace Machine

/-- What the machine is in the middle of: nothing yet, or the arguments of the
innermost open compound. In the latter an argument is wanted after the opening
bracket and after a separator, and has just been completed otherwise. -/
inductive State
  | first
  | wanted (top : Open) (below : List Open)
  | completed (top : Open) (below : List Open)

/-- One move of the machine: it halts, or goes on from another cursor. -/
inductive Move
  | halt (outcome : Outcome Term)
  | go (state : State) (cursor : Cursor)

/-- A closing bracket completes the innermost compound. It is the term that was
to be read when no other is open, else an argument of the next. -/
def closeTop (top : Open) (below : List Open) (cursor : Cursor) : Move :=
  match below with
  | [] => .halt (.returned top.close cursor.advance [])
  | outer :: rest => .go (.completed (outer.add top.close) rest) cursor.advance

/-- A term begins: an operator opens another compound, and an atom is complete
at once and goes to `deliver`. -/
def begin (limit : Number) (level : Int) (stack : List Open) (deliver : Term → Move)
    (cursor : Cursor) : Move :=
  if AtOperator cursor then
    if limit.atMost (level + stack.length) then .halt (.failed (.tooDeep limit) cursor [])
    else .go (.wanted ⟨cursor.current.text, []⟩ stack) cursor.advance.advance
  else if cursor.current.kind = .atom then deliver (.atom cursor.current.text)
  else if cursor.lookahead.kind = .opening then .halt (.failed .expectedOperator cursor [])
  else .halt (.failed (.expectedAtom cursor.current.kind) cursor [])

/-- One move from a state. -/
def step (limit : Number) (level : Int) (cursor : Cursor) : State → Move
  | .first =>
      begin limit level [] (fun term => .halt (.returned term cursor.advance [])) cursor
  | .wanted top below =>
      if cursor.current.kind = .closing then closeTop top below cursor
      else
        begin limit level (top :: below)
          (fun term => .go (.completed (top.add term) below) cursor.advance) cursor
  | .completed top below =>
      if cursor.current.kind = .closing then closeTop top below cursor
      else if cursor.current.kind = .separator then .go (.wanted top below) cursor.advance
      else .halt (unseparated cursor)

/-- Every move that goes on has moved the cursor forward. -/
theorem length_later_lt_of_step {limit : Number} {level : Int} {cursor next : Cursor}
    {state after : State} (h : step limit level cursor state = .go after next) :
    next.later.length < cursor.later.length := by
  have advanced (kind : cursor.current.kind ≠ .stop) :=
    Cursor.length_later_advance_lt kind
  have twice := cursor.advance.length_later_advance_le
  cases state with
  | first =>
      simp only [step, begin] at h
      split at h
      · next operator =>
          split at h <;> cases h
          have := advanced (by simp [operator.1])
          omega
      · split at h <;> try split at h
        all_goals cases h
  | wanted top below =>
      simp only [step, begin, closeTop] at h
      split at h
      · next closing =>
          split at h <;> cases h
          exact advanced (by simp [closing])
      · split at h
        · next operator =>
            split at h <;> cases h
            have := advanced (by simp [operator.1])
            omega
        · split at h
          · next atom =>
              cases h
              exact advanced (by simp [atom])
          · split at h <;> cases h
  | completed top below =>
      simp only [step, closeTop] at h
      split at h
      · next closing =>
          split at h <;> cases h
          exact advanced (by simp [closing])
      · split at h
        · next separator =>
            cases h
            exact advanced (by simp [separator])
        · cases h

/-- Run the machine from a state until it halts. -/
def run (limit : Number) (level : Int) (state : State) (cursor : Cursor) : Outcome Term :=
  match h : step limit level cursor state with
  | .halt outcome => outcome
  | .go after next =>
      have := length_later_lt_of_step h
      run limit level after next
termination_by cursor.later.length

/-- Read a term at a level of nesting. -/
def read (limit : Number) (level : Int) (cursor : Cursor) : Outcome Term :=
  run limit level .first cursor

end Machine

end TermText.Parser
