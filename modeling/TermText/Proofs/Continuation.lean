/-
# What a text can be continued to

The answer on a text says what any text that starts with it can come to. A term
that has ended for certain, because its closing bracket has come or because
something else follows it, is read from every continuation. A failure that names
a token of the text is a failure of every continuation, and one that names the
stop is none of some continuation: the brackets that are still open can be closed.
So a failed reading is described by the tokens that it passed over, both by how
they can be completed and by what they rule out.
-/

import TermText.Proofs.Concatenation
import TermText.Proofs.RoundTrip

namespace TermText

/-! ## What a failure names -/

/-- The kind of the token that a failure names, where it names one. -/
def Failure.got : Failure → Option Kind
  | .expectedAtom got | .expectedSeparator got | .expected _ got => some got
  | .expectedOperator | .tooDeep _ | .stackExhausted => none

namespace Parser

variable {limit : Number} {level : Int} {cursor other place : Cursor}

/-! ## Completing what was passed over -/

/-- What a failed reading passed over can be completed with closing brackets: to a
term, unless it is nothing at all, or to arguments. -/
def Completable (right : Token) (limit : Number) (level : Int) (cursor : Cursor) : Reading → Prop
  | .term (.failed _ stopped _) => ∃ tokens, cursor.Passes tokens stopped ∧
      (tokens = [] ∨ ∃ count root,
        Spells (tokens ++ List.replicate count right) (.term root) ∧ root.Fits limit level)
  | .arguments (.failed _ stopped _) => ∃ tokens, cursor.Passes tokens stopped ∧
      ∃ count terms, Spells (tokens ++ List.replicate count right) (.arguments terms) ∧
        Term.AllFit limit level terms
  | .term (.returned _ _ _) | .arguments (.returned _ _ _) => True

theorem Reads.completable {reading : Reading} {right : Token} (closing : right.kind = .closing)
    (reads : Reads limit level cursor reading) : Completable right limit level cursor reading := by
  induction reads with
  | atom | compound | none | one => trivial
  | noAtom | noOperator | tooDeep => exact ⟨[], .refl _, .inl rfl⟩
  | @badArguments level cursor stopped failure notes operator below inner ih =>
      obtain ⟨tokens, passage, count, terms, spelled, fit⟩ := ih
      refine ⟨_, operator.passes.trans passage, .inr ⟨count + 1,
        .compound cursor.current.text terms, ?_, below, fit⟩⟩
      rw [List.replicate_succ', ← List.append_assoc, List.append_assoc _ tokens]
      exact .compound operator.1 operator.opening closing spelled
  | badArgument noClosing first ih =>
      obtain ⟨tokens, passage, rfl | ⟨count, term, spelled, fits⟩⟩ := ih
      · exact ⟨[], passage, 0, [], .none, trivial⟩
      · exact ⟨tokens, passage, count, [term], .one spelled, fits, trivial⟩
  | @more level cursor next term outcome noClosing first separator rest _ ihRest =>
      cases outcome with
      | returned => trivial
      | failed =>
          have read := first.explained
          obtain ⟨tokens, passage, count, terms, spelled, fit⟩ := ihRest
          have comma := next.passes_advance (by simp [separator])
          refine ⟨_, read.passes.trans (comma.trans passage), count, term :: terms, ?_,
            read.fits, fit⟩
          rw [List.append_assoc]
          exact .more read.spelled separator spelled
  | unseparated noClosing first noSeparator noEnd ih =>
      have read := first.explained
      refine ⟨_, read.passes, 0, _, .one ?_, read.fits, trivial⟩
      rw [List.replicate_zero, List.append_nil]
      exact read.spelled

/-! ## Repeating what was passed over -/

/-- Whether from another cursor the same tokens lead to one of the same kind as the
one that stopped the reading, and, after a failure for the nesting, to an
operator as well. -/
def Repeats (failure : Failure) (stopped : Cursor) (tokens : List Token) (other : Cursor) :
    Prop :=
  ∃ place, other.Passes tokens place ∧ place.current.kind = stopped.current.kind ∧
    ∀ bound, failure = .tooDeep bound → place.lookahead.kind = .opening

/-- Where what was passed over is repeated, reading fails again. -/
def Lasting (limit : Number) (level : Int) (cursor : Cursor) : Reading → Prop
  | .term (.failed failure stopped _) => ∃ tokens, cursor.Passes tokens stopped ∧
      ∀ other, Repeats failure stopped tokens other →
        ∃ another last notes, Reads limit level other (.term (.failed another last notes))
  | .arguments (.failed failure stopped _) => ∃ tokens, cursor.Passes tokens stopped ∧
      ∀ other, Repeats failure stopped tokens other →
        ∃ another last notes, Reads limit level other (.arguments (.failed another last notes))
  | .term (.returned _ _ _) | .arguments (.returned _ _ _) => True

/-- Where the tokens of an operator are repeated, an operator is found again. -/
theorem AtOperator.of_passes {tokens : List Token} (operator : AtOperator cursor)
    (repeated : other.Passes ([cursor.current, cursor.advance.current] ++ tokens) place) :
    AtOperator other ∧ other.advance.advance.Passes tokens place := by
  obtain ⟨name, onBracket⟩ := repeated.of_cons
  obtain ⟨bracket, inside⟩ := onBracket.of_cons
  refine ⟨⟨by rw [name]; exact operator.1, ?_⟩, inside⟩
  rw [other.lookahead_eq_current_advance, bracket]
  exact operator.opening

/-- Without a name under the cursor no term is read. -/
theorem exists_reads_failed (limit : Number) (level : Int) (noName : cursor.current.kind ≠ .atom) :
    ∃ failure stopped notes, Reads limit level cursor (.term (.failed failure stopped notes)) := by
  by_cases bracket : cursor.lookahead.kind = .opening
  · exact ⟨_, _, _, .noOperator noName bracket⟩
  · exact ⟨_, _, _, .noAtom noName bracket⟩

/-- What was recognised is read again where its tokens are repeated. -/
theorem Recognises.reads_again {term : Term} {last : Cursor}
    (recognised : Recognises limit level cursor term last)
    (passage : other.Passes (cursor.upTo last) place)
    (kind : place.current.kind = last.current.kind) :
    Reads limit level other (.term (.returned term place [])) :=
  (reads_of_spells limit recognised.spelled level other place passage
    (kind ▸ recognised.ended)).1 recognised.fits

theorem Reads.lasting {reading : Reading} (reads : Reads limit level cursor reading) :
    Lasting limit level cursor reading := by
  induction reads with
  | atom | compound | none | one => trivial
  | noAtom noName | noOperator noName =>
      refine ⟨[], .refl _, ?_⟩
      rintro other ⟨place, passage, kind, -⟩
      obtain rfl := passage.eq_of_nil
      exact exists_reads_failed limit _ (by rwa [kind])
  | tooDeep operator reached =>
      refine ⟨[], .refl _, ?_⟩
      rintro other ⟨place, passage, kind, bracket⟩
      obtain rfl := passage.eq_of_nil
      exact ⟨_, _, _, .tooDeep ⟨kind.trans operator.1, bracket _ rfl⟩ reached⟩
  | @badArguments level cursor stopped failure notes operator below inner ih =>
      obtain ⟨tokens, passage, again⟩ := ih
      refine ⟨_, operator.passes.trans passage, ?_⟩
      rintro other ⟨place, repeated, kind, bracket⟩
      obtain ⟨repeats, inside⟩ := operator.of_passes repeated
      obtain ⟨another, last, notes, fails⟩ := again _ ⟨place, inside, kind, bracket⟩
      exact ⟨another, last, notes, .badArguments repeats below fails⟩
  | badArgument noClosing first ih =>
      obtain ⟨tokens, passage, again⟩ := ih
      refine ⟨tokens, passage, ?_⟩
      rintro other ⟨place, repeated, kind, bracket⟩
      obtain ⟨another, last, notes, fails⟩ := again _ ⟨place, repeated, kind, bracket⟩
      refine ⟨another, last, notes, .badArgument ?_ fails⟩
      rwa [passage.kind_current_eq repeated kind]
  | @more level cursor next term outcome noClosing first separator rest _ ihRest =>
      cases outcome with
      | returned => trivial
      | failed =>
          have read := first.explained
          obtain ⟨tokens, passage, again⟩ := ihRest
          have comma := next.passes_advance (by simp [separator])
          refine ⟨_, read.passes.trans (comma.trans passage), ?_⟩
          rintro other ⟨place, repeated, kind, bracket⟩
          -- The argument in front is read again, so the failure is left to the rest.
          obtain ⟨between, early, late⟩ := repeated.of_append
          obtain ⟨same, further⟩ := late.of_cons
          have noClosing : other.current.kind ≠ .closing := by
            simp [read.spelled.current_atom early]
          obtain ⟨another, last, notes, fails⟩ := again _ ⟨place, further, kind, bracket⟩
          exact ⟨another, last, notes, .more noClosing (read.reads_again early (by rw [same]))
            (by rw [same]; exact separator) fails⟩
  | unseparated noClosing first noSeparator noEnd ih =>
      have read := first.explained
      refine ⟨_, read.passes, ?_⟩
      rintro other ⟨place, repeated, kind, -⟩
      have noClosing : other.current.kind ≠ .closing := by
        simp [read.spelled.current_atom repeated]
      exact ⟨_, _, _, .unseparated noClosing (read.reads_again repeated kind)
        (by rwa [kind]) (by rwa [kind])⟩

/-! ## Texts -/

section Texts

variable {stack : Stack} {dialect : Dialect} {text : Text} {term : Term}
  {words rest : List Token}

end Texts

end Parser

end TermText
