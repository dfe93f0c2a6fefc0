/-
# Refused trees

The two printers walk over a tree each on its own, and neither asks whether the other would
go through with it. Both give way to the first foreign value that they come to, and both come
to the nodes in preorder. So they refuse the same trees, for the same value, and whatever they
have put together before it is dropped. Without foreign values a tree is written as the term
that it is; a tree with some is compared with the term that has atoms in their places. Its
depth is the depth of that term, and measuring it never comes to nothing.
-/

import TermText.Tree.Print

namespace TermText.Tree

/-! ## Foreign values and the atoms in their places -/

/-- The foreign value that a node is. -/
def Node.foreign? : Node → Option Value
  | .atom _ | .compound _ _ => none
  | .foreign value => some value

/-- The foreign values among several trees, in preorder. -/
def foreignersOf (trees : List Tree) : List Value := (preorderList trees).filterMap Node.foreign?

/-- The foreign values of a tree, in preorder. -/
def foreigners (tree : Tree) : List Value := tree.preorder.filterMap Node.foreign?

@[simp] theorem foreigners_compound (operator : Text) (arguments : List Tree) :
    (compound operator arguments).foreigners = foreignersOf arguments :=
  rfl

@[simp] theorem foreignersOf_cons (tree : Tree) (rest : List Tree) :
    foreignersOf (tree :: rest) = tree.foreigners ++ foreignersOf rest :=
  List.filterMap_append

mutual
/-- The term that has an atom in the place of each foreign value. -/
def toTerm (name : Value → Text) : Tree → Term
  | .atom own => .atom own
  | .foreign value => .atom (name value)
  | .compound operator arguments => .compound operator (toTerms name arguments)

def toTerms (name : Value → Text) : List Tree → List Term
  | [] => []
  | tree :: rest => tree.toTerm name :: toTerms name rest
end

theorem length_toTerms (name : Value → Text) (trees : List Tree) :
    (toTerms name trees).length = trees.length := by
  induction trees with
  | nil => rfl
  | cons tree rest ih => rw [toTerms, List.length_cons, List.length_cons, ih]

/-- The first of the foreign values is a node with none of them before it. -/
theorem exists_preorder_eq {tree : Tree} {value : Value} {others : List Value}
    (first : tree.foreigners = value :: others) :
    ∃ before after, tree.preorder = before ++ .foreign value :: after ∧
      ∀ other, .foreign other ∉ before := by
  obtain ⟨before, node, after, split, earlier, own, -⟩ := List.filterMap_eq_cons_iff.1 first
  cases node with
  | atom | compound => cases own
  | foreign =>
      obtain rfl := Option.some.inj own
      exact ⟨before, after, split, fun other member => nomatch earlier _ member⟩

/-- There are none exactly when no node is foreign. -/
theorem foreigners_eq_nil_iff {tree : Tree} :
    tree.foreigners = [] ↔ ∀ value, .foreign value ∉ tree.preorder := by
  rw [foreigners, List.filterMap_eq_nil_iff]
  constructor
  · intro none value member
    cases none _ member
  · intro absent node member
    cases node with
    | atom | compound => rfl
    | foreign value => exact absurd member (absent value)

/-! ## Giving way to the first foreign value -/

section Printing

variable {α β : Type} {refuse : Value → PrintError} {values others : List Value}

/-- What comes of writing something that holds these foreign values: without any it is
written out, else the first of them is refused. -/
def writtenUnless (refuse : Value → PrintError) (values : List Value) (whole : α) :
    Except PrintError α :=
  match values with
  | [] => .ok whole
  | value :: _ => .error (refuse value)

/-- What is written after something else gives way after it. -/
theorem writtenUnless_bind {front : α} {next : α → Except PrintError β} {whole : β}
    (further : next front = writtenUnless refuse others whole) :
    writtenUnless refuse values front >>= next =
      writtenUnless refuse (values ++ others) whole := by
  cases values with
  | nil => exact further
  | cons => rfl

/-- What is only finished off gives way to nothing more. -/
theorem writtenUnless_bind_ok {front : α} {finish : α → β} :
    (writtenUnless refuse values front >>= fun inner => .ok (finish inner)) =
      writtenUnless refuse values (finish front) := by
  cases values with
  | nil => rfl
  | cons => rfl

theorem writtenUnless_eq_ok_iff {whole text : α} :
    writtenUnless refuse values whole = .ok text ↔ values = [] ∧ whole = text := by
  cases values with
  | nil => simp [writtenUnless]
  | cons => simp [writtenUnless]

end Printing

mutual
/-- A notation is that of the term with atoms for foreign values, unless there are any. -/
theorem render_eq (dialect : Dialect) (name : Value → Text) : (tree : Tree) →
    tree.render dialect =
      writtenUnless .notRenderable tree.foreigners ((tree.toTerm name).render dialect)
  | .atom _ | .foreign _ => rfl
  | .compound _ arguments => by
      rw [render, renderArguments_eq dialect name arguments, writtenUnless_bind_ok,
        foreigners_compound, toTerm, Term.render]

theorem renderArguments_eq (dialect : Dialect) (name : Value → Text) : (trees : List Tree) →
    renderArguments dialect trees =
      writtenUnless .notRenderable (foreignersOf trees)
        (Term.renderArguments dialect (toTerms name trees))
  | [] => rfl
  | tree :: rest => by
      rw [renderArguments, render_eq dialect name tree, foreignersOf_cons, toTerms,
        Term.renderArguments]
      apply writtenUnless_bind
      rw [renderFurther_eq dialect name rest, writtenUnless_bind_ok]

theorem renderFurther_eq (dialect : Dialect) (name : Value → Text) : (trees : List Tree) →
    renderFurther dialect trees =
      writtenUnless .notRenderable (foreignersOf trees)
        (Term.renderFurther dialect (toTerms name trees))
  | [] => rfl
  | tree :: rest => by
      rw [renderFurther, render_eq dialect name tree, foreignersOf_cons, toTerms,
        Term.renderFurther]
      apply writtenUnless_bind
      rw [renderFurther_eq dialect name rest, writtenUnless_bind_ok]
end

mutual
/-- The lines of an outline are those of the term with atoms for foreign values, unless there
are any. -/
theorem outlineLines_eq (indent : Text) (name : Value → Text) (level : Nat) : (tree : Tree) →
    tree.outlineLines indent level =
      writtenUnless .nameless tree.foreigners ((tree.toTerm name).outlineLines indent level)
  | .atom _ | .foreign _ => rfl
  | .compound _ arguments => by
      rw [outlineLines, outlineLinesList_eq indent name (level + 1) arguments,
        writtenUnless_bind_ok, foreigners_compound, toTerm, Term.outlineLines, length_toTerms]

theorem outlineLinesList_eq (indent : Text) (name : Value → Text) (level : Nat) :
    (trees : List Tree) → outlineLinesList indent level trees =
      writtenUnless .nameless (foreignersOf trees)
        (Term.outlineLinesList indent level (toTerms name trees))
  | [] => rfl
  | tree :: rest => by
      rw [outlineLinesList, outlineLines_eq indent name level tree, foreignersOf_cons, toTerms,
        Term.outlineLinesList]
      apply writtenUnless_bind
      rw [outlineLinesList_eq indent name level rest, writtenUnless_bind_ok]
end

theorem outline_eq (indent : Text) (name : Value → Text) (tree : Tree) :
    tree.outline indent =
      writtenUnless .nameless tree.foreigners ((tree.toTerm name).outline indent) := by
  rw [outline, outlineLines_eq indent name 0 tree, Term.outline]
  cases tree.foreigners with
  | nil => rfl
  | cons => rfl

/-- Where something stands at the root, a notation that may be missing is not. -/
theorem render?_eq {tree : Tree} (present : tree ≠ .foreign .null) (dialect : Dialect)
    (name : Value → Text) :
    tree.render? dialect =
      writtenUnless .notRenderable tree.foreigners (some ((tree.toTerm name).render dialect)) := by
  have whole : tree.render? dialect = (tree.render dialect).map some := by
    cases tree with
    | atom | compound => rfl
    | foreign value =>
        cases value with
        | null => exact absurd rfl present
        | number | text | list | object => rfl
  rw [whole, render_eq dialect name tree]
  cases tree.foreigners with
  | nil => rfl
  | cons => rfl

/-! ## Measuring -/

mutual
/-- The depth of a tree as it is measured, by the greatest of its arguments' depths. Of no
arguments there is no greatest, so it is only asked for where there are some. -/
def depth? : Tree → Option Nat
  | .atom _ | .foreign _ => some 1
  | .compound _ arguments =>
      if arguments.isEmpty then some 1
      else do
        let depths ← depths? arguments
        let greatest ← depths.max?
        some (1 + greatest)

def depths? : List Tree → Option (List Nat)
  | [] => some []
  | tree :: rest => do
      let first ← tree.depth?
      let further ← depths? rest
      some (first :: further)
end

/-- Of some trees one is the deepest. -/
theorem max?_map_depth {trees : List Tree} (more : trees ≠ []) :
    (trees.map depth).max? = some (deepest trees) := by
  induction trees with
  | nil => exact absurd rfl more
  | cons tree rest ih =>
      rw [List.map_cons, List.max?_cons, deepest]
      cases rest with
      | nil => simp [deepest]
      | cons => rw [ih (List.cons_ne_nil _ _), Option.elim_some]

mutual
/-- A measure is always taken, and it is the depth. -/
theorem depth?_eq : (tree : Tree) → tree.depth? = some tree.depth
  | .atom _ | .foreign _ => rfl
  | .compound _ [] => rfl
  | .compound _ (first :: rest) => by
      have greatest := max?_map_depth (List.cons_ne_nil first rest)
      rw [depth?, depths?_eq (first :: rest), if_neg (by simp), Option.bind_eq_bind,
        Option.bind_some, greatest]
      rfl

theorem depths?_eq : (trees : List Tree) → depths? trees = some (trees.map depth)
  | [] => rfl
  | tree :: rest => by
      rw [depths?, depth?_eq tree, depths?_eq rest]
      rfl
end

mutual
/-- A foreign value counts as an atom does. -/
theorem depth_toTerm (name : Value → Text) : (tree : Tree) →
    (tree.toTerm name).depth = tree.depth
  | .atom _ | .foreign _ => rfl
  | .compound _ arguments => by
      rw [toTerm, Term.depth, depth, deepest_toTerms name arguments]

theorem deepest_toTerms (name : Value → Text) : (trees : List Tree) →
    Term.deepest (toTerms name trees) = deepest trees
  | [] => rfl
  | tree :: rest => by
      rw [toTerms, Term.deepest, deepest, depth_toTerm name tree, deepest_toTerms name rest]
end

/-! ## The two printers -/

/-- A tree other than null has a notation exactly when it has an outline, and that is when no
foreign value stands in it, at the root or as an argument. Otherwise neither printer has a text
to show: both refuse the first foreign value in preorder, and each names its kind in a message
of its own. The depth of any tree can be measured, and a foreign value counts for it as an atom
in its place does. -/
theorem printers_agree {tree : Tree} (present : tree ≠ .foreign .null) (dialect : Dialect)
    (indent : Text) :
    ((∃ text, tree.render? dialect = .ok (some text)) ↔ ∃ text, tree.outline indent = .ok text) ∧
    ((∃ text, tree.outline indent = .ok text) ↔ ∀ value, .foreign value ∉ tree.preorder) ∧
    ((¬ ∃ text, tree.render? dialect = .ok (some text)) → ∃ before value after,
      tree.preorder = before ++ .foreign value :: after ∧ (∀ other, .foreign other ∉ before) ∧
      tree.render? dialect = .error (.notRenderable value) ∧
      tree.outline indent = .error (.nameless value) ∧
      (PrintError.notRenderable value).message = "Cannot render " ++ value.kind ∧
      (PrintError.nameless value).message =
        "'" ++ value.kind ++ "' object has no attribute 'name'") ∧
    tree.depth? = some tree.depth ∧
    ∀ name, (ofTerm (tree.toTerm name)).depth = tree.depth := by
  -- Which atoms stand for the foreign values makes no difference to what is refused.
  have written := render?_eq present dialect fun _ => []
  have lines := tree.outline_eq indent fun _ => []
  have rendered : (∃ text, tree.render? dialect = .ok (some text)) ↔ tree.foreigners = [] := by
    simp [written, writtenUnless_eq_ok_iff]
  have outlined : (∃ text, tree.outline indent = .ok text) ↔ tree.foreigners = [] := by
    simp [lines, writtenUnless_eq_ok_iff]
  refine ⟨rendered.trans outlined.symm, outlined.trans foreigners_eq_nil_iff, fun refused => ?_,
    tree.depth?_eq, fun name => ?_⟩
  · obtain ⟨value, others, first⟩ := List.exists_cons_of_ne_nil (mt rendered.2 refused)
    obtain ⟨before, after, split, earlier⟩ := exists_preorder_eq first
    rw [first] at written lines
    exact ⟨before, value, after, split, earlier, written, lines, rfl, rfl⟩
  · rw [depth_ofTerm, depth_toTerm]

/-- Null and a number as arguments of an argument, with a text after it. -/
def holed : Tree :=
  .compound ['F'] [.atom ['A'], .compound ['G'] [.foreign .null, .foreign (.number (.whole 3))],
    .foreign (.text ['x'])]

/-- Both printers refuse it for the null that they meet first. -/
theorem printers_agree_holed :
    holed ≠ .foreign .null ∧
    (¬ ∃ text, holed.render? .standard = .ok (some text)) ∧
    (¬ ∃ text, holed.outline Term.twoSpaces = .ok text) ∧
    ∃ first second, holed.render? .standard = .error first ∧
      holed.outline Term.twoSpaces = .error second ∧
      first.message = "Cannot render NoneType" ∧
      second.message = "'NoneType' object has no attribute 'name'" ∧
      ∀ name, (ofTerm (holed.toTerm name)).depth = 3 := by
  have present : holed ≠ .foreign .null := Tree.noConfusion
  have found : holed.render? .standard = .error (.notRenderable .null) := rfl
  have refused : ¬ ∃ text, holed.render? .standard = .ok (some text) := by simp [found]
  obtain ⟨both, -, blame, -, depths⟩ := printers_agree present .standard Term.twoSpaces
  obtain ⟨-, value, -, -, -, one, other, first, second⟩ := blame refused
  obtain rfl : value = .null :=
    PrintError.notRenderable.inj (Except.error.inj (one.symm.trans found))
  exact ⟨present, refused, mt both.2 refused, _, _, one, other, first, second, depths⟩

end TermText.Tree
