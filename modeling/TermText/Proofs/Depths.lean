/-
# Measures of depth

A term is measured in three ways: by its depth, by the levels on which its outline shows
nodes, and by the number of compounds inside one another, which is what a limit bounds. Depth
counts the levels of all nodes and nesting the levels of compounds alone, so the two differ
by one at most, and they are the same where the innermost compounds have no arguments. What
a limit admits is therefore known from the depth up to one level.
-/

import TermText.Proofs.Outlines
import TermText.Proofs.RoundTrip

namespace TermText

/-! ## Whole limits -/

namespace Number

variable {limit : Number} {bound level : Int}

/-- A number with the value of a whole number is that number at its own scale. -/
theorem exists_exact_of_same_whole (same : limit.same (.whole bound) = true) :
    ∃ scale, limit.exact = .fraction (bound * Nat.pow 2 scale) scale := by
  have whole : (whole bound).exact = .fraction bound 0 := rfl
  unfold Number.same at same
  cases found : limit.exact with
  | infinite => simp [found, whole] at same
  | fraction numerator scale =>
      simp only [found, whole, beq_iff_eq] at same
      exact ⟨scale, by simpa using same⟩

theorem atMost_iff_of_same_whole (same : limit.same (.whole bound) = true) :
    limit.atMost level = true ↔ bound ≤ level := by
  obtain ⟨scale, found⟩ := exists_exact_of_same_whole same
  have positive : (0 : Int) < Nat.pow 2 scale := by exact_mod_cast Nat.two_pow_pos scale
  simp only [atMost, found, decide_eq_true_eq]
  exact mul_le_mul_iff_left₀ positive

theorem below_iff_of_same_whole (same : limit.same (.whole bound) = true) :
    limit.below level = true ↔ bound < level := by
  obtain ⟨scale, found⟩ := exists_exact_of_same_whole same
  have positive : (0 : Int) < Nat.pow 2 scale := by exact_mod_cast Nat.two_pow_pos scale
  simp only [below, found, decide_eq_true_eq]
  exact mul_lt_mul_iff_left₀ positive

end Number

namespace Term

/-! ## Levels of nodes -/

/-- Whether nodes of a kind take up so many levels, from `level` on: they are on no level
behind these, and some are on the last one if there is any. -/
structure Spans (counts : Node → Prop) (level : Nat) (places : List (Nat × Node))
    (height : Nat) : Prop where
  below : ∀ place ∈ places, counts place.2 → place.1 < level + height
  reached : 0 < height → ∃ place ∈ places, counts place.2 ∧ place.1 + 1 = level + height

variable {counts : Node → Prop} {level : Nat}

theorem Spans.append {first second : List (Nat × Node)} {height other : Nat}
    (one : Spans counts level first height) (another : Spans counts level second other) :
    Spans counts level (first ++ second) (max height other) := by
  constructor
  · intro place member counted
    rcases List.mem_append.1 member with early | late
    · exact lt_of_lt_of_le (one.below place early counted) (by simp)
    · exact lt_of_lt_of_le (another.below place late counted) (by simp)
  · intro positive
    rcases le_total other height with less | less
    · rw [max_eq_left less] at positive ⊢
      obtain ⟨place, member, counted, last⟩ := one.reached positive
      exact ⟨place, by simp [member], counted, last⟩
    · rw [max_eq_right less] at positive ⊢
      obtain ⟨place, member, counted, last⟩ := another.reached positive
      exact ⟨place, by simp [member], counted, last⟩

/-- Around nodes that are one level further in, a node that counts takes up one level more. -/
theorem Spans.cons {root : Node} {inner : List (Nat × Node)} {height : Nat}
    (spans : Spans counts (level + 1) inner height) (counted : counts root) :
    Spans counts level ((level, root) :: inner) (1 + height) := by
  constructor
  · rintro place member kind
    rcases List.mem_cons.1 member with rfl | within
    · simp
    · have := spans.below place within kind
      omega
  · intro _
    cases height with
    | zero => exact ⟨(level, root), by simp, counted, rfl⟩
    | succ height =>
        obtain ⟨place, member, kind, last⟩ := spans.reached (Nat.succ_pos height)
        exact ⟨place, by simp [member], kind, by omega⟩

/-- Side by side, terms take up as many levels as the one that takes up most. -/
theorem Spans.placedList {height : Term → Nat} {terms : List Term}
    (each : ∀ term ∈ terms, Spans counts level (term.placed level) (height term)) :
    Spans counts level (placedList level terms) ((terms.map height).foldr max 0) := by
  induction terms with
  | nil => exact ⟨by simp [Term.placedList], by simp⟩
  | cons term rest ih =>
      have others := ih fun other member => each other (by simp [member])
      exact (each term (by simp)).append others

theorem deepest_eq (terms : List Term) : deepest terms = (terms.map depth).foldr max 0 := by
  induction terms with
  | nil => rfl
  | cons term rest ih => rw [deepest, ih, List.map_cons, List.foldr_cons]

theorem nestingList_eq (terms : List Term) :
    nestingList terms = (terms.map nesting).foldr max 0 := by
  induction terms with
  | nil => rfl
  | cons term rest ih => rw [nestingList, ih, List.map_cons, List.foldr_cons]

/-- The depth of a term is the number of levels that its nodes take up. -/
theorem spans_depth (term : Term) (level : Nat) :
    Spans (fun _ => True) level (term.placed level) term.depth := by
  induction term generalizing level with
  | atom name =>
      refine ⟨by simp [placed, depth], fun _ => ⟨(level, .atom name), ?_⟩⟩
      simp [placed, depth]
  | compound operator arguments ih =>
      rw [placed, depth, deepest_eq]
      exact (Spans.placedList fun term member => ih term member (level + 1)).cons trivial

/-- Whether a node is an operator. -/
def Node.IsOperator : Node → Prop
  | .atom _ => False
  | .compound _ _ => True

/-- The nesting of a term is the number of levels that its operators take up. -/
theorem spans_nesting (term : Term) (level : Nat) :
    Spans Node.IsOperator level (term.placed level) term.nesting := by
  induction term generalizing level with
  | atom name =>
      refine ⟨by simp [placed, Node.IsOperator], fun positive => ?_⟩
      simp [nesting] at positive
  | compound operator arguments ih =>
      rw [placed, nesting, nestingList_eq]
      exact (Spans.placedList fun term member => ih term member (level + 1)).cons trivial

theorem depth_pos (term : Term) : 0 < term.depth := by
  cases term <;> simp [depth]

/-! ## Neighbouring levels -/

theorem exists_root_mem_placed (term : Term) (level : Nat) :
    ∃ node, (level, node) ∈ term.placed level := by
  cases term with
  | atom name => exact ⟨.atom name, by simp [placed]⟩
  | compound operator arguments => exact ⟨_, List.mem_cons_self⟩

/-- One level further in than an operator with arguments there is a node. -/
theorem exists_mem_placed_inside {term : Term} {operator : Text} {arity outer : Nat}
    (member : (outer, .compound operator arity) ∈ term.placed level) (some : 0 < arity) :
    ∃ node, (outer + 1, node) ∈ term.placed level := by
  induction term generalizing level with
  | atom name => simp [placed] at member
  | compound root arguments ih =>
      rcases List.mem_cons.1 member with own | within
      · obtain ⟨rfl, shown⟩ := Prod.mk.inj own
        obtain ⟨rfl, rfl⟩ := Node.compound.inj shown
        obtain ⟨first, argument⟩ := List.exists_mem_of_length_pos some
        obtain ⟨node, inside⟩ := first.exists_root_mem_placed (outer + 1)
        exact ⟨node, List.mem_cons_of_mem _ (mem_placedList.2 ⟨first, argument, inside⟩)⟩
      · obtain ⟨term, argument, inside⟩ := mem_placedList.1 within
        obtain ⟨node, further⟩ := ih term argument inside
        exact ⟨node, List.mem_cons_of_mem _ (mem_placedList.2 ⟨term, argument, further⟩)⟩

/-- One level further out than a node that is not the root there is an operator with
arguments. -/
theorem exists_mem_placed_around {term : Term} {place : Nat × Node}
    (member : place ∈ term.placed level) (noRoot : place.1 ≠ level) :
    ∃ outer operator arity, (outer, .compound operator arity) ∈ term.placed level ∧
      0 < arity ∧ place.1 = outer + 1 := by
  induction term generalizing level with
  | atom name =>
      rw [placed, List.mem_singleton] at member
      exact absurd (congrArg Prod.fst member) noRoot
  | compound root arguments ih =>
      rcases List.mem_cons.1 member with own | within
      · exact absurd (congrArg Prod.fst own) noRoot
      · obtain ⟨term, argument, inside⟩ := mem_placedList.1 within
        by_cases first : place.1 = level + 1
        · exact ⟨level, root, arguments.length, List.mem_cons_self,
            List.length_pos_of_mem argument, first⟩
        · obtain ⟨outer, operator, arity, around, some, next⟩ := ih term argument inside first
          exact ⟨outer, operator, arity,
            List.mem_cons_of_mem _ (mem_placedList.2 ⟨term, argument, around⟩), some, next⟩

/-! ## Depth and nesting -/

/-- The last level with a node is one less than the depth. -/
theorem isGreatest_level (term : Term) :
    ∃ last, IsGreatest {level | ∃ node, (level, node) ∈ term.placed 0} last ∧
      term.depth = last + 1 := by
  have spans := term.spans_depth 0
  obtain ⟨⟨last, node⟩, member, -, reached⟩ := spans.reached term.depth_pos
  rw [Nat.zero_add] at reached
  refine ⟨last, ⟨⟨node, member⟩, ?_⟩, reached.symm⟩
  rintro level ⟨other, another⟩
  have := spans.below _ another trivial
  omega

/-- The nesting is the largest number of compounds that are one inside the other: as many as
the level of the innermost tells. -/
theorem isGreatest_nesting (term : Term) :
    IsGreatest (insert 0 {count | ∃ level operator arity,
      (level, .compound operator arity) ∈ term.placed 0 ∧ count = level + 1}) term.nesting := by
  have spans := term.spans_nesting 0
  constructor
  · rcases Nat.eq_zero_or_pos term.nesting with none | some
    · exact .inl none
    · obtain ⟨⟨level, node⟩, member, operator, reached⟩ := spans.reached some
      cases node with
      | atom => exact operator.elim
      | compound name arity => exact .inr ⟨level, name, arity, member, by simpa using reached.symm⟩
  · rintro count (rfl | ⟨level, operator, arity, member, rfl⟩)
    · exact Nat.zero_le _
    · simpa using spans.below _ member trivial

theorem nesting_le_depth (term : Term) : term.nesting ≤ term.depth := by
  rcases Nat.eq_zero_or_pos term.nesting with none | some
  · omega
  · obtain ⟨place, member, -, reached⟩ := (term.spans_nesting 0).reached some
    have := (term.spans_depth 0).below place member trivial
    omega

/-- The deepest node is an argument of a compound, if it is not the root. -/
theorem depth_le_nesting_add_one (term : Term) : term.depth ≤ term.nesting + 1 := by
  obtain ⟨place, member, -, reached⟩ := (term.spans_depth 0).reached term.depth_pos
  by_cases root : place.1 = 0
  · omega
  · obtain ⟨outer, operator, arity, around, -, next⟩ := exists_mem_placed_around member root
    have := (term.spans_nesting 0).below _ around trivial
    omega

/-- The depth of a compound is its nesting where the innermost compounds have no arguments. -/
theorem depth_eq_nesting_iff {term : Term} (isCompound : term.IsCompound) :
    term.depth = term.nesting ↔ ∀ level operator arity,
      (level, .compound operator arity) ∈ term.placed 0 → level + 1 = term.nesting →
        arity = 0 := by
  constructor
  · intro same level operator arity member innermost
    by_contra some
    obtain ⟨node, inside⟩ := exists_mem_placed_inside member (Nat.pos_of_ne_zero some)
    have := (term.spans_depth 0).below _ inside trivial
    omega
  · intro empty
    refine le_antisymm ?_ term.nesting_le_depth
    by_contra more
    obtain ⟨place, member, -, reached⟩ := (term.spans_depth 0).reached term.depth_pos
    have positive : 0 < term.nesting := by
      cases term with
      | atom => exact isCompound.elim
      | compound => simp [nesting]
    obtain ⟨outer, operator, arity, around, some, next⟩ :=
      exists_mem_placed_around member (by omega)
    have innermost : outer + 1 = term.nesting := by
      have := term.depth_le_nesting_add_one
      omega
    have := empty outer operator arity around innermost
    omega

/-! ## Limits on nesting -/

section Limits

variable {limit : Number} {bound : Int}

theorem allFit_iff {level : Int} {terms : List Term}
    (each : ∀ term ∈ terms, (term.Fits limit level ↔
      term.nesting = 0 ∨ level + term.nesting ≤ bound)) :
    AllFit limit level terms ↔
      nestingList terms = 0 ∨ level + nestingList terms ≤ bound := by
  induction terms with
  | nil => simp [AllFit, nestingList]
  | cons term rest ih =>
      have others := ih fun other member => each other (by simp [member])
      rw [AllFit, nestingList, each term (by simp), others]
      omega

/-- A term fits a whole limit when its nesting does, counted from the level of its root. -/
theorem fits_iff (whole : ∀ level, limit.atMost level = true ↔ bound ≤ level) (term : Term)
    (level : Int) :
    term.Fits limit level ↔ term.nesting = 0 ∨ level + term.nesting ≤ bound := by
  induction term generalizing level with
  | atom name => simp [Fits, nesting]
  | compound operator arguments ih =>
      have below : limit.atMost level = false ↔ level < bound := by
        rw [← Bool.not_eq_true, whole, not_le]
      rw [Fits, nesting, below, allFit_iff fun term member => ih term member (level + 1)]
      omega

end Limits

end Term

namespace Parser

variable {dialect : Dialect} {bound : Int}

/-- A dialect's limit, where it is whole, is at least one, and bounds the nesting. -/
theorem fits_limit_iff (value : dialect.limit.same (.whole bound) = true) (term : Term) :
    term.Fits dialect.limit 0 ↔ (term.nesting : Int) ≤ bound := by
  have positive : 1 ≤ bound := by
    have below := dialect.positive
    rwa [← Bool.not_eq_true, Number.below_iff_of_same_whole value, not_lt] at below
  rw [Term.fits_iff (fun _ => Number.atMost_iff_of_same_whole value)]
  omega

/-- The depth of a term is one more than the last level on which its outline shows a node. Its
nesting is the largest number of compounds one inside the other. The depth is the nesting or
one more, and for a compound it is the nesting exactly when the innermost of that many
compounds have no arguments. So under a whole limit a term that is read is at most one deeper
than the limit; and of the terms with names of the dialect, on a stack that has as many levels
as the limit, those no deeper than the limit are read back, and those at least two deeper are
refused for their nesting. -/
theorem depths_agree :
    (∀ term : Term,
      (∃ last, IsGreatest {level | ∃ node, (level, node) ∈ term.placed 0} last ∧
        term.depth = last + 1) ∧
      (∀ indent, term.outline indent =
        ['\n'].intercalate ((term.placed 0).map (Term.line indent))) ∧
      IsGreatest (insert 0 {count | ∃ level operator arity,
        (level, .compound operator arity) ∈ term.placed 0 ∧ count = level + 1}) term.nesting ∧
      term.nesting ≤ term.depth ∧ term.depth ≤ term.nesting + 1 ∧
      (term.IsCompound → (term.depth = term.nesting ↔ ∀ level operator arity,
        (level, .compound operator arity) ∈ term.placed 0 → level + 1 = term.nesting →
          arity = 0))) ∧
    ∀ (dialect : Dialect) (bound : Int), dialect.limit.same (.whole bound) = true →
      (∀ stack text term, (parse stack dialect text).result = .ok term →
        (term.depth : Int) ≤ bound + 1) ∧
      ∀ (stack : Stack) (term : Term), bound ≤ stack.levels → term.Named dialect →
        ((term.depth : Int) ≤ bound →
          (parse stack dialect (term.render dialect)).result = .ok term) ∧
        (bound + 2 ≤ (term.depth : Int) →
          ∃ failure, (parse stack dialect (term.render dialect)).result = .error failure ∧
            failure.message = "Nesting deeper than " ++ dialect.limit.literal ++ " levels") := by
  refine ⟨fun term => ⟨term.isGreatest_level, fun indent => ?_, term.isGreatest_nesting,
    term.nesting_le_depth, term.depth_le_nesting_add_one, Term.depth_eq_nesting_iff⟩, ?_⟩
  · rw [Term.outline, Term.outlineLines_eq]
  intro dialect bound value
  refine ⟨fun stack text term read => ?_, fun stack term most named => ?_⟩
  · have fits := (recognises_of_parse read).1.fits
    rw [fits_limit_iff value] at fits
    have := term.depth_le_nesting_add_one
    omega
  have outlasted : dialect.limit.atMost stack.levels = true :=
    (Number.atMost_iff_of_same_whole value).2 most
  refine ⟨fun shallow => result_parse_render outlasted ⟨named, ?_⟩, fun deep =>
    ⟨_, result_parse_render_of_deep outlasted named ?_, rfl⟩⟩
  · rw [fits_limit_iff value]
    have := term.nesting_le_depth
    omega
  · rw [fits_limit_iff value]
    have := term.depth_le_nesting_add_one
    omega

/-- On one level `G()` is read back, `F(A)` is read although it is deeper than the limit, and
`F(G(A))`, which is deeper by two, is refused. -/
theorem depths_agree_oneLevel :
    oneLevel.limit.same (.whole 1) = true ∧ (1 : Int) ≤ Stack.standard.levels ∧
    (Term.compound ['F'] [.atom ['A']]).IsCompound ∧
    (Term.compound ['F'] [.atom ['A']]).depth ≠ (Term.compound ['F'] [.atom ['A']]).nesting ∧
    (parse .standard oneLevel "F(A)".toList).result = .ok (.compound ['F'] [.atom ['A']]) ∧
    ((Term.compound ['F'] [.atom ['A']]).depth : Int) ≤ 1 + 1 ∧
    (Term.compound ['G'] []).Named oneLevel ∧ ((Term.compound ['G'] []).depth : Int) ≤ 1 ∧
    (parse .standard oneLevel ((Term.compound ['G'] []).render oneLevel)).result =
      .ok (.compound ['G'] []) ∧
    (Term.compound ['F'] [.compound ['G'] [.atom ['A']]]).Named oneLevel ∧
    (1 : Int) + 2 ≤ (Term.compound ['F'] [.compound ['G'] [.atom ['A']]]).depth ∧
    ∃ failure, (parse .standard oneLevel
        ((Term.compound ['F'] [.compound ['G'] [.atom ['A']]]).render oneLevel)).result =
          .error failure ∧
      failure.message = "Nesting deeper than " ++ oneLevel.limit.literal ++ " levels" := by
  have value : oneLevel.limit.same (.whole 1) = true := by decide
  have name (c : Char) (ordinary : c ∉ oneLevel.reserved) : oneLevel.IsName [c] :=
    ⟨by simp, by simpa using ordinary⟩
  have shallow : (Term.compound ['G'] []).Named oneLevel := ⟨name 'G' (by decide), trivial⟩
  have deep : (Term.compound ['F'] [.compound ['G'] [.atom ['A']]]).Named oneLevel :=
    ⟨name 'F' (by decide), ⟨name 'G' (by decide), name 'A' (by decide), trivial⟩, trivial⟩
  have read : (parse .standard oneLevel "F(A)".toList).result =
      .ok (.compound ['F'] [.atom ['A']]) := by
    cbv
  obtain ⟨terms, dialects⟩ := depths_agree
  obtain ⟨returned, rendered⟩ := dialects oneLevel 1 value
  have differ : (Term.compound ['F'] [.atom ['A']]).depth ≠
      (Term.compound ['F'] [.atom ['A']]).nesting := by
    obtain ⟨-, -, -, -, -, same⟩ := terms (.compound ['F'] [.atom ['A']])
    intro equal
    have empty := (same trivial).1 equal 0 ['F'] 1 (by simp [Term.placed]) (by decide)
    cases empty
  exact ⟨value, by decide, trivial, differ, read, returned .standard _ _ read, shallow, by decide,
    (rendered .standard _ (by decide) shallow).1 (by decide), deep, by decide,
    (rendered .standard _ (by decide) deep).2 (by decide)⟩

end Parser

end TermText
