/-
# Trees

What a caller builds where a term is wanted. A tree has the shape of a term,
but any other value may stand in it as well, as the root or as an argument.
Such a foreign value takes part in equality and depth, and it is refused only
where it would have to be written.
-/

import TermText.Term
import TermText.Value

namespace TermText

inductive Tree
  | atom (name : Text)
  | compound (operator : Text) (arguments : List Tree)
  | foreign (value : Value)

namespace Tree

mutual
/-- A term as a tree. -/
def ofTerm : Term → Tree
  | .atom name => .atom name
  | .compound operator arguments => .compound operator (ofTerms arguments)

def ofTerms : List Term → List Tree
  | [] => []
  | term :: rest => ofTerm term :: ofTerms rest
end

/-- An argument of `apply`: a text stands for the atom of that name. -/
def operand : Tree → Tree
  | .foreign (.text name) => .atom name
  | tree => tree

/-- An operator applied to trees, in which plain texts become atoms. -/
def apply (operator : Text) (arguments : List Tree) : Tree :=
  .compound operator (arguments.map operand)

/-- The arguments that a value given in place of a list of them holds. -/
def operandsOf (value : Value) : Except Value.Misuse (List Tree) :=
  value.elements.map (·.map .foreign)

/-- Whether a tree is an atom. -/
def isAtom : Tree → Bool
  | .atom _ => true
  | .compound _ _ | .foreign _ => false

/-- Whether a tree is a compound. -/
def isCompound : Tree → Bool
  | .compound _ _ => true
  | .atom _ | .foreign _ => false

/-- How many arguments a tree has; only a compound has any. -/
def arity : Tree → Nat
  | .compound _ arguments => arguments.length
  | .atom _ | .foreign _ => 0

mutual
/-- How many trees stand one inside the other; a foreign value counts as an atom. -/
def depth : Tree → Nat
  | .atom _ | .foreign _ => 1
  | .compound _ arguments => 1 + deepest arguments

def deepest : List Tree → Nat
  | [] => 0
  | tree :: rest => max tree.depth (deepest rest)
end

theorem length_ofTerms (terms : List Term) : (ofTerms terms).length = terms.length := by
  induction terms with
  | nil => rfl
  | cons term rest ih => rw [ofTerms, List.length_cons, List.length_cons, ih]

mutual
/-- A term has the same depth as a tree. -/
theorem depth_ofTerm : (term : Term) → (ofTerm term).depth = term.depth
  | .atom _ => rfl
  | .compound _ arguments => by rw [ofTerm, depth, Term.depth, deepest_ofTerms arguments]

theorem deepest_ofTerms : (terms : List Term) → deepest (ofTerms terms) = Term.deepest terms
  | [] => rfl
  | term :: rest => by
      rw [ofTerms, deepest, Term.deepest, depth_ofTerm term, deepest_ofTerms rest]
end

mutual
/-- Equality of trees; a foreign value never equals a term. -/
def same : Tree → Tree → Bool
  | .atom first, .atom second => first == second
  | .compound first firsts, .compound second seconds =>
      first == second && sameList firsts seconds
  | .foreign first, .foreign second => first.same second
  | _, _ => false

def sameList : List Tree → List Tree → Bool
  | [], [] => true
  | first :: firsts, second :: seconds => first.same second && sameList firsts seconds
  | _, _ => false
end

/-- A node of a tree seen on its own. -/
inductive Node
  | atom (name : Text)
  | compound (operator : Text) (arity : Nat)
  | foreign (value : Value)

mutual
/-- The nodes of a tree, each before its arguments and those in order. -/
def preorder : Tree → List Node
  | .atom name => [.atom name]
  | .foreign value => [.foreign value]
  | .compound operator arguments =>
      .compound operator arguments.length :: preorderList arguments

def preorderList : List Tree → List Node
  | [] => []
  | tree :: rest => tree.preorder ++ preorderList rest
end

mutual
/-- The form in which messages show a tree. One argument has a comma after it. -/
def literal : Tree → String
  | .atom name => "AtomTerm(name=" ++ name.quoted ++ ")"
  | .foreign value => value.literal
  | .compound operator arguments =>
      let listed := literals arguments
      let comma := if listed.length = 1 then "," else ""
      "CompoundTerm(op=" ++ operator.quoted ++ ", args=(" ++ ", ".intercalate listed ++
        comma ++ "))"

def literals : List Tree → List String
  | [] => []
  | tree :: rest => tree.literal :: literals rest
end

end Tree

end TermText
