/-
# The outline of a term

A term written over several lines, a line for each node: a name for an atom,
an operator with the number of its arguments for a compound. A node's line
starts with one indent for each term around it.
-/

import TermText.Term

namespace TermText.Term

/-- What an outline shows of a node: an operator is told from a name by the
number of arguments after a slash. -/
def Node.label : Node → Text
  | .atom name => name
  | .compound operator arity => operator ++ '/' :: Nat.toDigits 10 arity

/-- The indents in front of a line. -/
def margin (indent : Text) (level : Nat) : Text := (List.replicate level indent).flatten

mutual
/-- The lines of a term at a level of nesting. -/
def outlineLines (indent : Text) (level : Nat) : Term → List Text
  | .atom name => [margin indent level ++ (Node.atom name).label]
  | .compound operator arguments =>
      (margin indent level ++ (Node.compound operator arguments.length).label) ::
        outlineLinesList indent (level + 1) arguments

def outlineLinesList (indent : Text) (level : Nat) : List Term → List Text
  | [] => []
  | term :: rest => term.outlineLines indent level ++ outlineLinesList indent level rest
end

/-- The outline of a term, its lines separated by line feeds. -/
def outline (indent : Text) (term : Term) : Text :=
  ['\n'].intercalate (term.outlineLines indent 0)

/-- The indent that outlines have unless another is asked for. -/
def twoSpaces : Text := [' ', ' ']

end TermText.Term
