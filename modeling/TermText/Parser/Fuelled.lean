/-
# Reading with fuel

The rules once more with a bound on how often they may call one another. Each
call costs one unit, and a run without fuel has no outcome at all, which is
not the same as a failure. The rules themselves need no bound; this is the
measure of what they cost.
-/

import TermText.Parser.Rules

namespace TermText.Parser.Fuelled

/-- Go on after an outcome, unless the fuel ran out before it. -/
def andThen {α β : Type} (outcome : Option (Outcome α))
    (next : α → Cursor → Option (Outcome β)) : Option (Outcome β) :=
  match outcome with
  | none => none
  | some (.returned value cursor notes) => (next value cursor).map (.after notes)
  | some (.failed failure cursor notes) => some (.failed failure cursor notes)

mutual
/-- A term at a level of nesting. -/
def expr (limit : Number) : Nat → Int → Cursor → Option (Outcome Term)
  | 0, _, _ => none
  | fuel + 1, level, cursor =>
      if cursor.lookahead.kind = .opening then compound limit fuel level cursor
      else some (atom cursor)

/-- A compound at a level of nesting. -/
def compound (limit : Number) : Nat → Int → Cursor → Option (Outcome Term)
  | 0, _, _ => none
  | fuel + 1, level, cursor =>
      if AtOperator cursor then
        if limit.atMost level then some (.failed (.tooDeep limit) cursor [])
        else
          andThen (some (expect .opening cursor.advance)) fun _ inside =>
            andThen (argumentsFrom limit fuel (level + 1) [] inside) fun arguments outside =>
              andThen (some (expect .closing outside)) fun _ after =>
                some (.returned (.compound cursor.current.text arguments) after [])
      else some (.failed .expectedOperator cursor [])

/-- The arguments of a compound after those gathered so far, nearest first. -/
def argumentsFrom (limit : Number) :
    Nat → Int → List Term → Cursor → Option (Outcome (List Term))
  | 0, _, _, _ => none
  | fuel + 1, level, gathered, cursor =>
      if cursor.current.kind = .closing then some (.returned gathered.reverse cursor [])
      else
        andThen (expr limit fuel level cursor) fun term next =>
          if next.current.kind = .separator then
            argumentsFrom limit fuel level (term :: gathered) next.advance
          else if next.current.kind = .closing then
            argumentsFrom limit fuel level (term :: gathered) next
          else some (unseparated next)
end

end TermText.Parser.Fuelled
