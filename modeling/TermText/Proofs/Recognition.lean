/-
# The rules recognise the grammar

The rule for terms returns exactly the terms that the grammar spells from the
cursor on, within two conditions that the grammar does not have: an atom must
not be followed by an opening bracket, because then a compound was to be read,
and no compound may lie at a level that the limit has reached. Soundness is an
induction on the reading and completeness one on the spelling. The latter also
says what happens to a term that is spelled but does not fit: it is refused for
its nesting and for nothing else.
-/

import TermText.Grammar
import TermText.Proofs.Reading
import TermText.Term.Nesting

namespace TermText

/-- Whether a term is an operator with arguments, which may be none. -/
def Term.IsCompound : Term → Prop
  | .atom _ => False
  | .compound _ _ => True

/-- A spelling of a term starts with a name. -/
theorem Spells.head_atom {tokens : List Token} {term : Term}
    (spelled : Spells tokens (.term term)) :
    ∃ name rest, tokens = name :: rest ∧ name.kind = .atom := by
  cases spelled with
  | atom name => exact ⟨_, _, rfl, name⟩
  | compound operator => exact ⟨_, _, rfl, operator⟩

/-- Where a spelling of a term lies ahead, a name is under the cursor. -/
theorem Spells.current_atom {tokens : List Token} {term : Term} {first last : Cursor}
    (spelled : Spells tokens (.term term)) (passage : first.Passes tokens last) :
    first.current.kind = .atom := by
  obtain ⟨name, rest, rfl, kind⟩ := spelled.head_atom
  rw [passage.of_cons.1]
  exact kind

namespace Parser

/-- From the cursor's position to just before that of another cursor on the same
tokens, the tokens spell the term; it ends there, and its nesting fits. -/
structure Recognises (limit : Number) (level : Int) (cursor : Cursor) (term : Term)
    (last : Cursor) : Prop where
  same : last.tokens = cursor.tokens
  later : cursor.position ≤ last.position
  spelled : Spells (cursor.upTo last) (.term term)
  ended : term.IsCompound ∨ last.current.kind ≠ .opening
  fits : term.Fits limit level

variable {limit : Number} {level : Int} {cursor : Cursor}

/-- The tokens between the two cursors are passed over. -/
theorem Recognises.passes {term : Term} {last : Cursor}
    (recognised : Recognises limit level cursor term last) :
    cursor.Passes (cursor.upTo last) last :=
  Cursor.passes_upTo recognised.same recognised.later

/-- A spelling that is passed over lies between the two cursors. -/
theorem Recognises.of_passes {tokens : List Token} {term : Term} {last : Cursor}
    (passage : cursor.Passes tokens last) (spelled : Spells tokens (.term term))
    (ended : term.IsCompound ∨ last.current.kind ≠ .opening) (fits : term.Fits limit level) :
    Recognises limit level cursor term last where
  same := passage.tokens_eq
  later := passage.position_le
  spelled := by rwa [passage.upTo_eq]
  ended := ended
  fits := fits

/-! ## Soundness -/

/-- What a reading says of the grammar. No failure is for want of stack. -/
def Explained (limit : Number) (level : Int) (cursor : Cursor) : Reading → Prop
  | .term (.returned term last _) => Recognises limit level cursor term last
  | .arguments (.returned terms last _) =>
      (∃ tokens, Spells tokens (.arguments terms) ∧ cursor.Passes tokens last) ∧
        Term.AllFit limit level terms
  | .term (.failed failure _ _) | .arguments (.failed failure _ _) =>
      failure ≠ .stackExhausted

theorem Reads.explained {reading : Reading} (reads : Reads limit level cursor reading) :
    Explained limit level cursor reading := by
  induction reads with
  | @atom _ cursor name alone =>
      have passage := cursor.passes_advance (by simp [name])
      refine .of_passes passage (.atom name) (.inr ?_) trivial
      rwa [← cursor.lookahead_eq_current_advance]
  | noAtom | noOperator | tooDeep => exact Failure.noConfusion
  | @compound _ cursor outside arguments operator below inner closed ih =>
      obtain ⟨⟨tokens, spelled, passage⟩, fit⟩ := ih
      have finish := outside.passes_advance (by simp [closed])
      have whole := (operator.passes.trans passage).trans finish
      exact .of_passes whole (.compound operator.1 operator.opening closed spelled) (.inl trivial)
        ⟨below, fit⟩
  | badArguments _ _ _ ih => exact ih
  | none => exact ⟨⟨_, .none, .refl _⟩, trivial⟩
  | badArgument _ _ ih => exact ih
  | one _ _ _ ih => exact ⟨⟨_, .one ih.spelled, ih.passes⟩, ih.fits, trivial⟩
  | @more _ _ next term outcome _ _ separator _ ihFirst ihRest =>
      cases outcome with
      | failed => exact ihRest
      | returned terms last notes =>
          obtain ⟨⟨rest, spelled, passage⟩, fit⟩ := ihRest
          have comma := next.passes_advance (by simp [separator])
          refine ⟨⟨_, .more ihFirst.spelled separator spelled, ?_⟩, ihFirst.fits, fit⟩
          exact ihFirst.passes.trans (comma.trans passage)
  | unseparated => exact Failure.noConfusion

/-! ## Completeness -/

/-- What a spelling says of the rules, at any level and from any cursor that it
lies ahead of: what fits is read to its end, what does not is too deep. -/
def ReadsSpelled (limit : Number) (tokens : List Token) : Phrase → Prop
  | .term term => ∀ (level : Int) (first last : Cursor), first.Passes tokens last →
      term.IsCompound ∨ last.current.kind ≠ .opening →
      (term.Fits limit level → Reads limit level first (.term (.returned term last []))) ∧
        (¬ term.Fits limit level → ∃ stopped,
          Reads limit level first (.term (.failed (.tooDeep limit) stopped [])))
  | .arguments terms => ∀ (level : Int) (first last : Cursor), first.Passes tokens last →
      last.current.kind = .closing →
      (Term.AllFit limit level terms →
          Reads limit level first (.arguments (.returned terms last []))) ∧
        (¬ Term.AllFit limit level terms → ∃ stopped,
          Reads limit level first (.arguments (.failed (.tooDeep limit) stopped [])))

/-- What is spelled is read, except for the nesting. -/
theorem reads_of_spells {tokens : List Token} {phrase : Phrase} (limit : Number)
    (spelled : Spells tokens phrase) : ReadsSpelled limit tokens phrase := by
  induction spelled with
  | atom name =>
      intro level first last passage ended
      obtain ⟨rfl, stays⟩ := passage.of_cons
      obtain rfl := stays.eq_of_nil
      have alone : first.lookahead.kind ≠ .opening := by
        rw [first.lookahead_eq_current_advance]
        exact ended.resolve_left id
      exact ⟨fun _ => .atom name alone, fun deep => absurd trivial deep⟩
  | @compound operator left right inner arguments name opening closing spelled ih =>
      intro level first last passage ended
      obtain ⟨outside, before, finish⟩ := passage.of_append
      obtain ⟨rfl, onLeft⟩ := before.of_cons
      obtain ⟨rfl, inside⟩ := onLeft.of_cons
      obtain ⟨rfl, stays⟩ := finish.of_cons
      obtain rfl := stays.eq_of_nil
      have atOperator : AtOperator first := by
        refine ⟨name, ?_⟩
        rw [first.lookahead_eq_current_advance]
        exact opening
      obtain ⟨whenFits, whenDeep⟩ := ih (level + 1) _ _ inside closing
      by_cases reached : limit.atMost level = true
      · exact ⟨fun fits => absurd fits.1 (by simp [reached]),
          fun _ => ⟨first, .tooDeep atOperator reached⟩⟩
      · have below : limit.atMost level = false := by simpa using reached
        refine ⟨fun fits => .compound atOperator below (whenFits fits.2) closing, fun deep => ?_⟩
        obtain ⟨stopped, reads⟩ := whenDeep (fun fit => deep ⟨below, fit⟩)
        exact ⟨stopped, .badArguments atOperator below reads⟩
  | none =>
      intro level first last passage closed
      obtain rfl := passage.eq_of_nil
      exact ⟨fun _ => .none closed, fun deep => absurd trivial deep⟩
  | one spelled ih =>
      intro level first last passage closed
      have noClosing : first.current.kind ≠ .closing := by
        simp [spelled.current_atom passage]
      obtain ⟨whenFits, whenDeep⟩ := ih level first last passage (.inr (by simp [closed]))
      refine ⟨fun fit => .one noClosing (whenFits fit.1) closed, fun deep => ?_⟩
      obtain ⟨stopped, reads⟩ := whenDeep (fun fits => deep ⟨fits, trivial⟩)
      exact ⟨stopped, .badArgument noClosing reads⟩
  | @more tokens rest separator term terms spelled kind _ ihFirst ihRest =>
      intro level first last passage closed
      obtain ⟨next, passageFirst, further⟩ := passage.of_append
      obtain ⟨rfl, passageRest⟩ := further.of_cons
      have noClosing : first.current.kind ≠ .closing := by
        simp [spelled.current_atom passageFirst]
      obtain ⟨firstFits, firstDeep⟩ := ihFirst level first next passageFirst
        (.inr (by simp [kind]))
      obtain ⟨restFits, restDeep⟩ := ihRest level _ last passageRest closed
      constructor
      · intro fit
        exact .more noClosing (firstFits fit.1) kind (restFits fit.2)
      · intro deep
        by_cases fits : term.Fits limit level
        · obtain ⟨stopped, reads⟩ := restDeep (fun fit => deep ⟨fits, fit⟩)
          exact ⟨stopped, .more noClosing (firstFits fits) kind reads⟩
        · obtain ⟨stopped, reads⟩ := firstDeep fits
          exact ⟨stopped, .badArgument noClosing reads⟩

/-! ## Recognition -/

/-- What is recognised is returned, without notes. -/
theorem Recognises.expr_eq {term : Term} {last : Cursor}
    (recognised : Recognises limit level cursor term last) :
    expr limit level cursor = .returned term last [] := by
  have reads := (reads_of_spells limit recognised.spelled level cursor last recognised.passes
    recognised.ended).1 recognised.fits
  exact reads.followed

/-- What is returned is recognised. -/
theorem recognises_of_expr {term : Term} {last : Cursor} {notes : List Note}
    (returned : expr limit level cursor = .returned term last notes) :
    Recognises limit level cursor term last := by
  have explained := (reads_expr limit level cursor).explained
  rwa [returned] at explained

/-- Arguments that are returned are spelled, up to a closing bracket that stays under the
cursor. -/
theorem spelled_of_arguments {terms : List Term} {last : Cursor} {notes : List Note}
    (returned : arguments limit level cursor = .returned terms last notes) :
    ∃ tokens, Spells tokens (.arguments terms) ∧ cursor.Passes tokens last ∧
      last.current.kind = .closing := by
  have reads := reads_arguments limit level cursor
  rw [returned] at reads
  obtain ⟨⟨tokens, spelled, passage⟩, -⟩ := reads.explained
  exact ⟨tokens, spelled, passage, reads.settled.2⟩

/-- A term and where it ends are recognised in one way at most. -/
theorem Recognises.unique {term other : Term} {last elsewhere : Cursor}
    (one : Recognises limit level cursor term last)
    (another : Recognises limit level cursor other elsewhere) :
    term = other ∧ last = elsewhere := by
  have same := one.expr_eq.symm.trans another.expr_eq
  exact ⟨(Outcome.returned.inj same).1, (Outcome.returned.inj same).2.1⟩

/-- The cursor on the first of the tokens of `F(A,)`. -/
def atTrailingSeparator : Cursor :=
  .ofTokens [⟨.atom, ['F']⟩, ⟨.opening, ['(']⟩, ⟨.atom, ['A']⟩, ⟨.separator, [',']⟩,
    ⟨.closing, [')']⟩]

end Parser

end TermText
