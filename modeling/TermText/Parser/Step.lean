/-
# Steps on a cursor

The moves, questions and rules that can be run one after the other on the same
tokens. Each step starts where the step before it stopped, also when that one
failed, and a rule is started on a stack of its own at any level.
-/

import TermText.Parser.Stack

namespace TermText.Parser

/-- Something to be done at a cursor. -/
inductive Step
  | advance
  | consume
  | size
  | describe
  | currentIs (kind : Kind)
  | lookaheadIs (kind : Kind)
  | trace (label : Text)
  | expect (wanted : Kind)
  | expr (level : Int)
  | atom
  | compound (level : Int)
  | arguments (level : Int)
  deriving DecidableEq, Repr

/-- What a step answers. -/
inductive Reply
  | nothing
  | token (token : Token)
  | count (count : Nat)
  | text (text : String)
  | truth (truth : Bool)
  | term (term : Term)
  | terms (terms : List Term)

namespace Step

/-- Run a step on a stack with a limit on nesting. -/
def run (stack : Stack) (limit : Number) (cursor : Cursor) : Step → Outcome Reply
  | .advance => .returned .nothing cursor.advance []
  | .consume => .returned (.token cursor.current) cursor.advance []
  | .size => .returned (.count cursor.size) cursor []
  | .describe => .returned (.text cursor.literal) cursor []
  | .currentIs kind => .returned (.truth (cursor.current.kind == kind)) cursor []
  | .lookaheadIs kind => .returned (.truth (cursor.lookahead.kind == kind)) cursor []
  | .trace label => .returned .nothing cursor [.seen label cursor]
  | .expect wanted => (Parser.expect wanted cursor).map fun _ => .nothing
  | .expr level => (onStack stack Parser.expr limit level cursor).map .term
  | .atom => (Parser.atom cursor).map .term
  | .compound level => (onStack stack Parser.compound limit level cursor).map .term
  | .arguments level => (onStack stack Parser.arguments limit level cursor).map .terms

/-- Run steps one after the other and keep what came of each. -/
def runAll (stack : Stack) (limit : Number) (cursor : Cursor) : List Step → List (Outcome Reply)
  | [] => []
  | step :: rest =>
      let outcome := step.run stack limit cursor
      outcome :: runAll stack limit outcome.cursor rest

end Step

end TermText.Parser
