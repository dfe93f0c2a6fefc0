/-
# Reading an outline

An outline has a line for every node of its term, in preorder, and a line has as many
indents in front as there are terms around its node. Where names keep clear of what an
outline is made of, its lines can be told apart and taken apart again: the indents end where
the label begins, a slash tells an operator from a name, and the last slash is the one in
front of the number of arguments. The nodes in preorder then leave only one term, because
each operator says how many arguments follow it.
-/

import Mathlib
import TermText.Term.Outline

namespace TermText.Term

variable {indent : Text}

/-! ## Places -/

mutual
/-- The nodes of a term whose root is at a level, in preorder, each with the level it is at. -/
def placed (level : Nat) : Term → List (Nat × Node)
  | .atom name => [(level, .atom name)]
  | .compound operator arguments =>
      (level, .compound operator arguments.length) :: placedList (level + 1) arguments

def placedList (level : Nat) : List Term → List (Nat × Node)
  | [] => []
  | term :: rest => term.placed level ++ placedList level rest
end

/-- The line that an outline has for a node at a level. -/
def line (indent : Text) (place : Nat × Node) : Text := margin indent place.1 ++ place.2.label

theorem mem_placedList {level : Nat} {place : Nat × Node} {terms : List Term} :
    place ∈ placedList level terms ↔ ∃ term ∈ terms, place ∈ term.placed level := by
  induction terms with
  | nil => simp [placedList]
  | cons term rest ih => simp [placedList, ih]

theorem map_snd_placedList {level : Nat} {terms : List Term}
    (each : ∀ term ∈ terms, (term.placed level).map Prod.snd = term.preorder) :
    (placedList level terms).map Prod.snd = preorderList terms := by
  induction terms with
  | nil => rfl
  | cons term rest ih =>
      have others := ih fun other member => each other (by simp [member])
      rw [placedList, preorderList, List.map_append, each term (by simp), others]

/-- Without their levels the places of a term are its nodes in preorder. -/
theorem map_snd_placed (term : Term) (level : Nat) :
    (term.placed level).map Prod.snd = term.preorder := by
  induction term generalizing level with
  | atom name => rfl
  | compound operator arguments ih =>
      rw [placed, preorder, List.map_cons,
        map_snd_placedList fun term member => ih term member (level + 1)]

theorem outlineLinesList_eq {level : Nat} {terms : List Term}
    (each : ∀ term ∈ terms,
      term.outlineLines indent level = (term.placed level).map (line indent)) :
    outlineLinesList indent level terms = (placedList level terms).map (line indent) := by
  induction terms with
  | nil => rfl
  | cons term rest ih =>
      have others := ih fun other member => each other (by simp [member])
      rw [outlineLinesList, placedList, List.map_append, each term (by simp), others]

/-- An outline has a line for each place. -/
theorem outlineLines_eq (indent : Text) (term : Term) (level : Nat) :
    term.outlineLines indent level = (term.placed level).map (line indent) := by
  induction term generalizing level with
  | atom name => rfl
  | compound operator arguments ih =>
      rw [outlineLines, placed, List.map_cons,
        outlineLinesList_eq fun term member => ih term member (level + 1)]
      rfl

theorem placed_ne_nil (term : Term) (level : Nat) : term.placed level ≠ [] := by
  cases term <;> simp [placed]

/-! ## What names must keep clear of -/

/-- Whether a text can mark levels: it is not empty, it breaks no line, and it has no slash. -/
structure IsIndent (indent : Text) : Prop where
  ne_nil : indent ≠ []
  lineFeed : '\n' ∉ indent
  slash : '/' ∉ indent

/-- Whether a node's name breaks no line and starts with no indent, and an atom's name has
no slash either. -/
def Node.Legible (indent : Text) : Node → Prop
  | .atom name => '\n' ∉ name ∧ ¬ indent <+: name ∧ '/' ∉ name
  | .compound operator _ => '\n' ∉ operator ∧ ¬ indent <+: operator

/-- Whether all names in a term are such. -/
def Legible (indent : Text) (term : Term) : Prop := ∀ node ∈ term.preorder, node.Legible indent

theorem Legible.of_mem_placed {term : Term} (legible : term.Legible indent) {level : Nat}
    {place : Nat × Node} (member : place ∈ term.placed level) : place.2.Legible indent := by
  apply legible
  rw [← term.map_snd_placed level]
  exact List.mem_map_of_mem member

/-! ## Labels -/

/-- Only digits are written for a number. -/
theorem notMem_toDigits {c : Char} (noDigit : c.isDigit = false) (number : Nat) :
    c ∉ Nat.toDigits 10 number := by
  intro member
  rw [Nat.isDigit_of_mem_toDigits (by decide) (by decide) member] at noDigit
  cases noDigit

/-- Different numbers are written differently. -/
theorem toDigits_injective : Function.Injective (Nat.toDigits 10) := by
  intro first second same
  rw [← Nat.ofDigitChars_ten_toDigits (n := first), same, Nat.ofDigitChars_ten_toDigits]

/-- Nothing stands between the last slash of a text and a slash with none behind it. -/
theorem eq_nil_of_slash {between behind after : Text} (noSlash : '/' ∉ behind)
    (same : '/' :: behind = between ++ '/' :: after) : between = [] := by
  cases between with
  | nil => rfl
  | cons c rest =>
      have later : behind = rest ++ '/' :: after := (List.cons.inj same).2
      exact absurd (by simp [later]) noSlash

/-- The last slash of a text is in one place. -/
theorem append_slash_inj {first second behind after : Text} (noSlash : '/' ∉ behind)
    (none : '/' ∉ after) (same : first ++ '/' :: behind = second ++ '/' :: after) :
    first = second ∧ behind = after := by
  rcases List.append_eq_append_iff.1 same with ⟨between, rfl, rest⟩ | ⟨between, rfl, rest⟩
  · obtain rfl := eq_nil_of_slash noSlash rest
    exact ⟨by simp, (List.cons.inj rest).2⟩
  · obtain rfl := eq_nil_of_slash none rest
    exact ⟨by simp, (List.cons.inj rest).2.symm⟩

namespace Node

variable {node other : Node}

theorem Legible.lineFeed_notMem_label (legible : node.Legible indent) : '\n' ∉ node.label := by
  cases node with
  | atom name => exact legible.1
  | compound operator arity =>
      simp [label, legible.1, notMem_toDigits]

/-- No label starts with an indent. What of an indent an operator leaves would go on with the
slash behind the operator. -/
theorem Legible.not_prefix_label (legible : node.Legible indent) (marks : IsIndent indent) :
    ¬ indent <+: node.label := by
  cases node with
  | atom name => exact legible.2.1
  | compound operator arity =>
      intro starts
      have shown : operator <+: label (.compound operator arity) := List.prefix_append _ _
      rcases List.prefix_or_prefix_of_prefix starts shown with within | ⟨rest, rfl⟩
      · exact legible.2 within
      · rw [label, List.prefix_append_right_inj] at starts
        cases rest with
        | nil => exact legible.2 (by simp)
        | cons c rest =>
            obtain ⟨rfl, -⟩ := List.cons_prefix_cons.1 starts
            exact marks.slash (by simp)

theorem slash_mem_label {operator : Text} {arity : Nat} :
    '/' ∈ label (.compound operator arity) := by
  simp [label]

/-- A label shows which node it is of. -/
theorem Legible.eq_of_label_eq (legible : node.Legible indent) (another : other.Legible indent)
    (same : node.label = other.label) : node = other := by
  cases node with
  | atom name =>
      cases other with
      | atom => exact congrArg atom same
      | compound =>
          have slash : '/' ∈ label (.atom name) := same ▸ slash_mem_label
          exact absurd slash legible.2.2
  | compound operator arity =>
      cases other with
      | atom name =>
          have slash : '/' ∈ label (.atom name) := same ▸ slash_mem_label
          exact absurd slash another.2.2
      | compound =>
          obtain ⟨rfl, digits⟩ := append_slash_inj (notMem_toDigits (by decide) _)
            (notMem_toDigits (by decide) _) same
          rw [toDigits_injective digits]

end Node

/-! ## Lines -/

theorem margin_add (indent : Text) (level further : Nat) :
    margin indent (level + further) = margin indent level ++ margin indent further := by
  rw [margin, margin, margin, List.replicate_add, List.flatten_append]

theorem margin_one (indent : Text) : margin indent 1 = indent := by
  simp [margin]

theorem lineFeed_notMem_line (marks : IsIndent indent) {place : Nat × Node}
    (legible : place.2.Legible indent) : '\n' ∉ line indent place := by
  simp [line, margin, marks.lineFeed, legible.lineFeed_notMem_label]

/-- A line has no more indents in front than its level. -/
theorem not_prefix_line (marks : IsIndent indent) {place : Nat × Node}
    (legible : place.2.Legible indent) : ¬ margin indent (place.1 + 1) <+: line indent place := by
  rw [margin_add, margin_one, line, List.prefix_append_right_inj]
  exact legible.not_prefix_label marks

/-- Where a line starts with that many indents, its level is no less. -/
theorem le_of_prefix_line (marks : IsIndent indent) {place : Nat × Node}
    (legible : place.2.Legible indent) {count : Nat}
    (starts : margin indent count <+: line indent place) : count ≤ place.1 := by
  by_contra more
  obtain ⟨further, rfl⟩ := Nat.exists_eq_add_of_lt (not_le.1 more)
  apply not_prefix_line marks legible
  rw [Nat.add_right_comm, margin_add] at starts
  exact (List.prefix_append _ _).trans starts

/-- A line shows which node it is of and at which level. -/
theorem eq_of_line_eq (marks : IsIndent indent) {place other : Nat × Node}
    (legible : place.2.Legible indent) (another : other.2.Legible indent)
    (same : line indent place = line indent other) : place = other := by
  have level : place.1 = other.1 := by
    apply le_antisymm
    · apply le_of_prefix_line marks another
      rw [← same]
      exact List.prefix_append _ _
    · apply le_of_prefix_line marks legible
      rw [same]
      exact List.prefix_append _ _
  rw [line, line, level, List.append_cancel_left_eq] at same
  exact Prod.ext level (legible.eq_of_label_eq another same)

/-- Lines show which nodes they are of. -/
theorem eq_of_map_line_eq (marks : IsIndent indent) {places others : List (Nat × Node)}
    (legible : ∀ place ∈ places, place.2.Legible indent)
    (another : ∀ place ∈ others, place.2.Legible indent)
    (same : places.map (line indent) = others.map (line indent)) : places = others := by
  induction places generalizing others with
  | nil => exact (List.map_eq_nil_iff.1 same.symm).symm
  | cons place rest ih =>
      cases others with
      | nil => cases same
      | cons other others =>
          obtain ⟨first, later⟩ := List.cons.inj same
          rw [eq_of_line_eq marks (legible place (by simp)) (another other (by simp)) first,
            ih (fun place member => legible place (by simp [member]))
              (fun place member => another place (by simp [member])) later]

/-- Split at its line feeds, an outline gives the lines back. -/
theorem splitOn_outline (marks : IsIndent indent) {term : Term} (legible : term.Legible indent) :
    (term.outline indent).splitOn '\n' = (term.placed 0).map (line indent) := by
  rw [outline, outlineLines_eq]
  apply List.splitOn_intercalate
  · intro text member
    obtain ⟨place, shown, rfl⟩ := List.mem_map.1 member
    exact lineFeed_notMem_line marks (legible.of_mem_placed shown)
  · simpa using term.placed_ne_nil 0

/-! ## Nodes in preorder -/

/-- Whether a term can be told from the nodes in preorder, in front of any others. -/
def Regained (term : Term) : Prop :=
  ∀ other rest more, term.preorder ++ rest = other.preorder ++ more → term = other ∧ rest = more

theorem eq_of_preorderList_append {terms others : List Term}
    (each : ∀ term ∈ terms, term.Regained) (lengths : terms.length = others.length)
    {rest more : List Node}
    (same : preorderList terms ++ rest = preorderList others ++ more) :
    terms = others ∧ rest = more := by
  induction terms generalizing others with
  | nil =>
      obtain rfl : others = [] := List.eq_nil_of_length_eq_zero lengths.symm
      exact ⟨rfl, same⟩
  | cons term terms ih =>
      cases others with
      | nil => cases lengths
      | cons other others =>
          rw [preorderList, preorderList, List.append_assoc, List.append_assoc] at same
          obtain ⟨rfl, later⟩ := each term (by simp) _ _ _ same
          obtain ⟨rfl, after⟩ := ih (fun term member => each term (by simp [member]))
            (Nat.succ.inj lengths) later
          exact ⟨rfl, after⟩

/-- Each operator in preorder says how many arguments follow it, so the nodes leave one term. -/
theorem regained (term : Term) : term.Regained := by
  induction term with
  | atom name =>
      intro other rest more same
      cases other with
      | atom =>
          obtain ⟨first, after⟩ := List.cons.inj same
          exact ⟨congrArg atom (Node.atom.inj first), after⟩
      | compound => cases (List.cons.inj same).1
  | compound operator arguments ih =>
      intro other rest more same
      cases other with
      | atom => cases (List.cons.inj same).1
      | compound =>
          obtain ⟨first, later⟩ := List.cons.inj same
          obtain ⟨rfl, lengths⟩ := Node.compound.inj first
          obtain ⟨rfl, after⟩ := eq_of_preorderList_append ih lengths later
          exact ⟨rfl, after⟩

theorem preorder_injective : Function.Injective preorder := by
  intro term other same
  exact (term.regained other [] [] (by rw [same])).1

/-! ## Outlines -/

/-- Under an indent without line feed and slash, the outlines of terms with legible names are
different for different terms. Split at its line feeds, such an outline has one line for each
node in preorder, and a line starts with as many indents as the node's level and no more. -/
theorem injOn_outline (marks : IsIndent indent) :
    Set.InjOn (outline indent) {term | term.Legible indent} ∧
    ∀ term : Term, term.Legible indent →
      (term.outline indent).splitOn '\n' = (term.placed 0).map (line indent) ∧
      (term.placed 0).map Prod.snd = term.preorder ∧
      ∀ place ∈ term.placed 0, margin indent place.1 <+: line indent place ∧
        ¬ margin indent (place.1 + 1) <+: line indent place := by
  refine ⟨fun term legible other another same => ?_, fun term legible =>
    ⟨splitOn_outline marks legible, term.map_snd_placed 0, fun place member =>
      ⟨List.prefix_append _ _, not_prefix_line marks (legible.of_mem_placed member)⟩⟩⟩
  have places : term.placed 0 = other.placed 0 := by
    apply eq_of_map_line_eq marks (fun _ => legible.of_mem_placed) (fun _ => another.of_mem_placed)
    rw [← splitOn_outline marks legible, same, splitOn_outline marks another]
  apply preorder_injective
  rw [← term.map_snd_placed 0, places, other.map_snd_placed 0]

/-- A compound whose operator has a slash of its own: its only line is `F/1/0`. -/
def slashed : Term := .compound "F/1".toList []

/-- A compound with an atom of no name behind an argument: its last line is an indent. -/
def unslashed : Term := .compound ['F'] [.compound ['F'] [], .atom []]

/-- The two have different outlines, and the second is taken apart into its three lines. -/
theorem injOn_outline_slash :
    IsIndent twoSpaces ∧ slashed.Legible twoSpaces ∧ unslashed.Legible twoSpaces ∧
    slashed.outline twoSpaces ≠ unslashed.outline twoSpaces ∧
    (unslashed.outline twoSpaces).splitOn '\n' =
      ["F/2".toList, "  F/0".toList, "  ".toList] ∧
    ∀ place ∈ unslashed.placed 0, margin twoSpaces place.1 <+: line twoSpaces place ∧
      ¬ margin twoSpaces (place.1 + 1) <+: line twoSpaces place := by
  have marks : IsIndent twoSpaces := ⟨by decide, by decide, by decide⟩
  have first : slashed.Legible twoSpaces := by
    simp [Legible, slashed, preorder, preorderList, Node.Legible, twoSpaces]
  have second : unslashed.Legible twoSpaces := by
    simp [Legible, unslashed, preorder, preorderList, Node.Legible, twoSpaces]
  obtain ⟨injective, lines⟩ := injOn_outline marks
  refine ⟨marks, first, second, fun same => ?_, (lines _ second).1, (lines _ second).2.2⟩
  exact absurd (injective first second same) (by decide)

end TermText.Term
