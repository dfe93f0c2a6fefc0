/-
# Readable terms

The terms that a dialect's notations can hold. Outside this class a notation
still exists, but it is the notation of another term, or of none.
-/

import TermText.Dialect
import TermText.Term.Nesting

namespace TermText.Term

mutual
/-- Whether every name in a term is a name in the dialect. -/
def Named (dialect : Dialect) : Term → Prop
  | .atom name => dialect.IsName name
  | .compound operator arguments => dialect.IsName operator ∧ AllNamed dialect arguments

def AllNamed (dialect : Dialect) : List Term → Prop
  | [] => True
  | term :: rest => term.Named dialect ∧ AllNamed dialect rest
end

/-- Whether a term has only names of the dialect and nests within its limit. -/
def Readable (dialect : Dialect) (term : Term) : Prop :=
  term.Named dialect ∧ term.Fits dialect.limit 0

end TermText.Term
