/-
# Nesting

How deep compounds lie inside one another. A limit does not count atoms, so
this is not the depth of a term: a compound without arguments is as deep as an
atom but nests one level more.
-/

import TermText.Number
import TermText.Term

namespace TermText.Term

mutual
/-- The largest number of compounds on a path from the root. -/
def nesting : Term → Nat
  | .atom _ => 0
  | .compound _ arguments => 1 + nestingList arguments

def nestingList : List Term → Nat
  | [] => 0
  | term :: rest => max term.nesting (nestingList rest)
end

mutual
/-- Whether no compound of a term whose root is at `level` lies at a level that
the limit has reached. -/
def Fits (limit : Number) (level : Int) : Term → Prop
  | .atom _ => True
  | .compound _ arguments => limit.atMost level = false ∧ AllFit limit (level + 1) arguments

def AllFit (limit : Number) (level : Int) : List Term → Prop
  | [] => True
  | term :: rest => term.Fits limit level ∧ AllFit limit level rest
end

end TermText.Term
