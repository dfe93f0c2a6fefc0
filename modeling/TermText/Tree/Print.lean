/-
# Printing trees

The notation and the outline of a tree. Both exist only for a tree without
foreign values; otherwise both name the first of these that they meet, and
nothing of the text that was written up to it remains. The two printers walk
over the tree each on its own.
-/

import TermText.Term.Outline
import TermText.Term.Render
import TermText.Tree

namespace TermText

/-- Why a tree was not printed: a foreign value has no notation and no name. -/
inductive PrintError
  | notRenderable (value : Value)
  | nameless (value : Value)

/-- The text of a refusal. -/
def PrintError.message : PrintError → String
  | .notRenderable value => "Cannot render " ++ value.kind
  | .nameless value => "'" ++ value.kind ++ "' object has no attribute 'name'"

namespace Tree

mutual
/-- The notation of a tree. -/
def render (dialect : Dialect) : Tree → Except PrintError Text
  | .atom name => .ok name
  | .foreign value => .error (.notRenderable value)
  | .compound operator arguments => do
      let inner ← renderArguments dialect arguments
      .ok (operator ++ dialect.opening :: inner ++ [dialect.closing])

def renderArguments (dialect : Dialect) : List Tree → Except PrintError Text
  | [] => .ok []
  | tree :: rest => do
      let first ← tree.render dialect
      let further ← renderFurther dialect rest
      .ok (first ++ further)

def renderFurther (dialect : Dialect) : List Tree → Except PrintError Text
  | [] => .ok []
  | tree :: rest => do
      let next ← tree.render dialect
      let further ← renderFurther dialect rest
      .ok (dialect.separator :: next ++ further)
end

/-- The notation of a tree where it may also be missing: null has none, and
that is no fault. -/
def render? (dialect : Dialect) : Tree → Except PrintError (Option Text)
  | .foreign .null => .ok none
  | tree => (tree.render dialect).map some

mutual
/-- The lines of a tree's outline at a level of nesting. -/
def outlineLines (indent : Text) (level : Nat) : Tree → Except PrintError (List Text)
  | .atom name => .ok [Term.margin indent level ++ (Term.Node.atom name).label]
  | .foreign value => .error (.nameless value)
  | .compound operator arguments => do
      let below ← outlineLinesList indent (level + 1) arguments
      .ok ((Term.margin indent level ++
        (Term.Node.compound operator arguments.length).label) :: below)

def outlineLinesList (indent : Text) (level : Nat) : List Tree → Except PrintError (List Text)
  | [] => .ok []
  | tree :: rest => do
      let first ← tree.outlineLines indent level
      let further ← outlineLinesList indent level rest
      .ok (first ++ further)
end

/-- The outline of a tree. -/
def outline (indent : Text) (tree : Tree) : Except PrintError Text :=
  (tree.outlineLines indent 0).map (['\n'].intercalate ·)

mutual
/-- A term is rendered as a tree just as it is as a term. -/
theorem render_ofTerm (dialect : Dialect) :
    (term : Term) → (ofTerm term).render dialect = .ok (term.render dialect)
  | .atom _ => rfl
  | .compound _ arguments => by
      rw [ofTerm, render, renderArguments_ofTerms dialect arguments, Term.render]
      rfl

theorem renderArguments_ofTerms (dialect : Dialect) : (terms : List Term) →
    renderArguments dialect (ofTerms terms) = .ok (Term.renderArguments dialect terms)
  | [] => rfl
  | term :: rest => by
      rw [ofTerms, renderArguments, render_ofTerm dialect term,
        renderFurther_ofTerms dialect rest, Term.renderArguments]
      rfl

theorem renderFurther_ofTerms (dialect : Dialect) : (terms : List Term) →
    renderFurther dialect (ofTerms terms) = .ok (Term.renderFurther dialect terms)
  | [] => rfl
  | term :: rest => by
      rw [ofTerms, renderFurther, render_ofTerm dialect term,
        renderFurther_ofTerms dialect rest, Term.renderFurther]
      rfl
end

mutual
theorem outlineLines_ofTerm (indent : Text) (level : Nat) : (term : Term) →
    (ofTerm term).outlineLines indent level = .ok (term.outlineLines indent level)
  | .atom _ => rfl
  | .compound _ arguments => by
      rw [ofTerm, outlineLines, outlineLinesList_ofTerms indent (level + 1) arguments,
        length_ofTerms, Term.outlineLines]
      rfl

theorem outlineLinesList_ofTerms (indent : Text) (level : Nat) : (terms : List Term) →
    outlineLinesList indent level (ofTerms terms) =
      .ok (Term.outlineLinesList indent level terms)
  | [] => rfl
  | term :: rest => by
      rw [ofTerms, outlineLinesList, outlineLines_ofTerm indent level term,
        outlineLinesList_ofTerms indent level rest, Term.outlineLinesList]
      rfl
end

/-- A term has the same outline as a tree. -/
theorem outline_ofTerm (indent : Text) (term : Term) :
    (ofTerm term).outline indent = .ok (term.outline indent) := by
  rw [outline, outlineLines_ofTerm]
  rfl

end Tree

end TermText
