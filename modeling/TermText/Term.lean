/-
# Terms

A term is an atom, which is only a name, or a compound: an operator applied to
a list of terms, which may be empty. Names are arbitrary texts; which names a
notation can hold is a matter of the dialect.
-/

import TermText.Text

namespace TermText

inductive Term
  | atom (name : Text)
  | compound (operator : Text) (arguments : List Term)

namespace Term

/-- What holds of every atom, and of a compound whenever it holds of all its
arguments, holds of every term. -/
@[elab_as_elim, induction_eliminator]
theorem induction {motive : Term → Prop} (atom : ∀ name, motive (.atom name))
    (compound : ∀ operator arguments, (∀ term ∈ arguments, motive term) →
      motive (.compound operator arguments)) : ∀ term, motive term
  | .atom name => atom name
  | .compound operator arguments =>
      compound operator arguments fun term _ => induction atom compound term

mutual
/-- Equality of terms is decided node by node. -/
protected def decEq : (first second : Term) → Decidable (first = second)
  | .atom first, .atom second =>
      if h : first = second then isTrue (h ▸ rfl) else isFalse (fun e => h (Term.atom.inj e))
  | .compound first firsts, .compound second seconds =>
      if h : first = second then
        match Term.decEqList firsts seconds with
        | isTrue hs => isTrue (h ▸ hs ▸ rfl)
        | isFalse hs => isFalse (fun e => hs (Term.compound.inj e).2)
      else isFalse (fun e => h (Term.compound.inj e).1)
  | .atom _, .compound _ _ => isFalse (fun e => nomatch e)
  | .compound _ _, .atom _ => isFalse (fun e => nomatch e)

protected def decEqList : (firsts seconds : List Term) → Decidable (firsts = seconds)
  | [], [] => isTrue rfl
  | first :: firsts, second :: seconds =>
      match Term.decEq first second, Term.decEqList firsts seconds with
      | isTrue h, isTrue hs => isTrue (h ▸ hs ▸ rfl)
      | isFalse h, _ => isFalse (fun e => h (List.cons.inj e).1)
      | _, isFalse hs => isFalse (fun e => hs (List.cons.inj e).2)
  | [], _ :: _ => isFalse (fun e => nomatch e)
  | _ :: _, [] => isFalse (fun e => nomatch e)
end

instance : DecidableEq Term := Term.decEq

/-- How many arguments a term has; an atom has none. -/
def arity : Term → Nat
  | .atom _ => 0
  | .compound _ arguments => arguments.length

mutual
/-- How many terms stand one inside the other: one for an atom and for a
compound without arguments. -/
def depth : Term → Nat
  | .atom _ => 1
  | .compound _ arguments => 1 + deepest arguments

/-- The depth of the deepest of several terms, zero where there are none. -/
def deepest : List Term → Nat
  | [] => 0
  | term :: rest => max term.depth (deepest rest)
end

/-- A node of a term seen on its own: an atom's name, or a compound's operator
and how many arguments follow it. -/
inductive Node
  | atom (name : Text)
  | compound (operator : Text) (arity : Nat)
  deriving DecidableEq, Repr

mutual
/-- The nodes of a term, each before its arguments and those in order. -/
def preorder : Term → List Node
  | .atom name => [.atom name]
  | .compound operator arguments =>
      .compound operator arguments.length :: preorderList arguments

def preorderList : List Term → List Node
  | [] => []
  | term :: rest => term.preorder ++ preorderList rest
end

end Term

end TermText
