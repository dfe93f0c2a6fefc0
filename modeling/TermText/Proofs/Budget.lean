/-
# The limit as a budget

A limit matters to a rule only through what it leaves at the level where the
rule is started, and it only ever cuts a reading short. Of two runs from one
cursor, the one that is left less comes to the same as the other, with the
cursor at the same place, or fails for the nesting; and where both are left the
same, they differ at most in the limit that such a failure names. The levels of
compounds that are closed already do not count: a term that the longer run
returns is returned by the shorter one exactly when its own nesting fits. None of this
is changed by running the rule on a stack.
-/

import TermText.Parser.Stack
import TermText.Proofs.Reporting

namespace TermText

namespace Number

/-- Whether one exact value is at most another. -/
def Exact.atMost : Exact → Exact → Bool
  | .fraction n s, .fraction m t => n * Nat.pow 2 t ≤ m * Nat.pow 2 s
  | .fraction _ _, .infinite negative => !negative
  | .infinite negative, .fraction _ _ => negative
  | .infinite negative, .infinite other => negative || !other

instance : LE Exact := ⟨fun first second => first.atMost second = true⟩

instance (first second : Exact) : Decidable (first ≤ second) :=
  inferInstanceAs (Decidable (first.atMost second = true))

/-- What a limit leaves at a level: the limit less the level, exactly. -/
def budget (limit : Number) (level : Int) : Exact :=
  match limit.exact with
  | .fraction numerator scale => .fraction (numerator - level * Nat.pow 2 scale) scale
  | .infinite negative => .infinite negative

/-- Where less is left, the limit is reached at least as early: as many levels further
in as the other limit is reached, if not before. -/
theorem atMost_of_budget_le {limit other : Number} {level elsewhere : Int}
    (less : limit.budget level ≤ other.budget elsewhere) {further : Int}
    (reached : other.atMost (elsewhere + further) = true) :
    limit.atMost (level + further) = true := by
  have left : (limit.budget level).atMost (other.budget elsewhere) = true := less
  unfold budget at left
  unfold atMost at reached ⊢
  cases found : limit.exact with
  | infinite negative =>
      cases there : other.exact with
      | infinite => simp_all [Exact.atMost]
      | fraction => simp_all [Exact.atMost]
  | fraction n s =>
      cases there : other.exact with
      | infinite => simp_all [Exact.atMost]
      | fraction m t =>
          simp only [found, there, Exact.atMost, decide_eq_true_eq] at left reached ⊢
          have positive : (0 : Int) < Nat.pow 2 t := by exact_mod_cast Nat.two_pow_pos t
          have nonnegative : (0 : Int) ≤ Nat.pow 2 s := Int.natCast_nonneg _
          -- The scale of the other limit cancels.
          refine le_of_mul_le_mul_right ?_ positive
          linarith [mul_le_mul_of_nonneg_right reached nonnegative]

/-- What whole limits leave is a difference of whole numbers. -/
theorem budget_whole_le_iff {limit other level elsewhere : Int} :
    (whole limit).budget level ≤ (whole other).budget elsewhere ↔
      limit - level ≤ other - elsewhere := by
  show ((whole limit).budget level).atMost ((whole other).budget elsewhere) = true ↔ _
  simp [budget, exact, Exact.atMost]

end Number

/-- Whether two failures are the same but for the limit that a failure for the
nesting names. -/
def Failure.Alike (first second : Failure) : Prop :=
  first = second ∨ ∃ limit other, first = .tooDeep limit ∧ second = .tooDeep other

namespace Failure

theorem Alike.symm {first second : Failure} (alike : first.Alike second) : second.Alike first := by
  rcases alike with rfl | ⟨limit, other, rfl, rfl⟩
  · exact .inl rfl
  · exact .inr ⟨_, _, rfl, rfl⟩

/-- A failure for anything but the nesting is only like itself. -/
theorem Alike.eq_of_ne_tooDeep {first second : Failure} (alike : first.Alike second)
    (other : ∀ bound, first ≠ .tooDeep bound) : second = first := by
  rcases alike with rfl | ⟨bound, _, rfl, -⟩
  · rfl
  · exact absurd rfl (other bound)

end Failure

/-- Whether two outcomes have the same value, or failures that are alike, and the same
cursor and notes. -/
def Outcome.Alike {α : Type} : Outcome α → Outcome α → Prop
  | .returned value cursor notes, .returned other last further =>
      value = other ∧ cursor = last ∧ notes = further
  | .failed failure cursor notes, .failed other last further =>
      failure.Alike other ∧ cursor = last ∧ notes = further
  | .returned _ _ _, .failed _ _ _ | .failed _ _ _, .returned _ _ _ => False

namespace Outcome

variable {α β : Type} {first second : Outcome α}

theorem Alike.refl (outcome : Outcome α) : outcome.Alike outcome := by
  cases outcome with
  | returned => exact ⟨rfl, rfl, rfl⟩
  | failed => exact ⟨.inl rfl, rfl, rfl⟩

theorem Alike.symm (alike : first.Alike second) : second.Alike first := by
  cases first with
  | returned =>
      cases second with
      | returned => exact ⟨alike.1.symm, alike.2.1.symm, alike.2.2.symm⟩
      | failed => exact alike.elim
  | failed =>
      cases second with
      | returned => exact alike.elim
      | failed => exact ⟨alike.1.symm, alike.2.1.symm, alike.2.2.symm⟩

theorem Alike.map (alike : first.Alike second) (form : α → β) :
    (first.map form).Alike (second.map form) := by
  cases first with
  | returned =>
      cases second with
      | returned => exact ⟨congrArg form alike.1, alike.2⟩
      | failed => exact alike
  | failed =>
      cases second with
      | returned => exact alike
      | failed => exact alike

/-- Only a returned value is like a returned value. -/
theorem Alike.eq_returned {value : α} {last : Cursor} {notes : List Note}
    (alike : first.Alike (.returned value last notes)) : first = .returned value last notes := by
  cases first with
  | returned =>
      obtain ⟨rfl, rfl, rfl⟩ := alike
      rfl
  | failed => exact alike.elim

/-- Outcomes that are alike have the same values. -/
theorem Alike.result_eq_ok_iff (alike : first.Alike second) {value : α} :
    first.result = .ok value ↔ second.result = .ok value := by
  cases first with
  | returned =>
      cases second with
      | returned => rw [result, result, alike.1]
      | failed => exact alike.elim
  | failed =>
      cases second with
      | returned => exact alike.elim
      | failed => simp [result]

/-- A failure for anything but the nesting is only like itself. -/
theorem Alike.result_eq_error (alike : first.Alike second) {failure : Failure}
    (failed : first.result = .error failure) (other : ∀ bound, failure ≠ .tooDeep bound) :
    second.result = .error failure := by
  cases first with
  | returned => cases failed
  | failed =>
      cases second with
      | returned => exact alike.elim
      | failed =>
          obtain rfl := Except.error.inj failed
          exact congrArg Except.error (alike.1.eq_of_ne_tooDeep other)

/-- Only a failure is like a failure. -/
theorem Alike.exists_failed {failure : Failure} {stopped : Cursor} {notes : List Note}
    (alike : first.Alike (.failed failure stopped notes)) :
    ∃ other, first = .failed other stopped notes ∧ other.Alike failure := by
  cases first with
  | returned => exact alike.elim
  | failed other =>
      obtain ⟨same, rfl, rfl⟩ := alike
      exact ⟨other, rfl, same⟩

end Outcome

namespace Parser

variable {limit other : Number} {level elsewhere : Int} {cursor : Cursor}

/-! ## Two runs from one cursor -/

/-- Whether a limit at one level is reached wherever the other limit is reached from the
other level: at the same number of levels further in. -/
def Tighter (limit : Number) (level : Int) (other : Number) (elsewhere : Int) : Prop :=
  ∀ further : Int, other.atMost (elsewhere + further) = true →
    limit.atMost (level + further) = true

/-- This is as true one level further in. -/
theorem Tighter.inside (tighter : Tighter limit level other elsewhere) :
    Tighter limit (level + 1) other (elsewhere + 1) := by
  intro further reached
  rw [add_assoc] at reached ⊢
  exact tighter _ reached

/-- It is said of the levels themselves with nothing further in. -/
theorem Tighter.reached (tighter : Tighter limit level other elsewhere)
    (reached : other.atMost elsewhere = true) : limit.atMost level = true := by
  simpa using tighter 0 (by simpa using reached)

/-- What a reading says of another run from the same cursor, with a limit and a level
that leave less: it comes to the same, or fails for its nesting. The latter is only so
where less is left indeed. -/
def CutShort (limit : Number) (level : Int) (other : Number) (elsewhere : Int)
    (cursor : Cursor) : Reading → Prop
  | .term outcome =>
      (∃ same, Reads limit level cursor (.term same) ∧ same.Alike outcome) ∨
        ¬ Tighter other elsewhere limit level ∧
          ∃ stopped, Reads limit level cursor (.term (.failed (.tooDeep limit) stopped []))
  | .arguments outcome =>
      (∃ same, Reads limit level cursor (.arguments same) ∧ same.Alike outcome) ∨
        ¬ Tighter other elsewhere limit level ∧
          ∃ stopped, Reads limit level cursor (.arguments (.failed (.tooDeep limit) stopped []))

theorem Reads.cutShort {reading : Reading} (reads : Reads other elsewhere cursor reading)
    {level : Int} (tighter : Tighter limit level other elsewhere) :
    CutShort limit level other elsewhere cursor reading := by
  induction reads generalizing level with
  | atom name alone => exact .inl ⟨_, .atom name alone, .refl _⟩
  | noAtom noName alone => exact .inl ⟨_, .noAtom noName alone, .refl _⟩
  | noOperator noName bracket => exact .inl ⟨_, .noOperator noName bracket, .refl _⟩
  | tooDeep operator reached =>
      exact .inl ⟨_, .tooDeep operator (tighter.reached reached), .inr ⟨_, _, rfl, rfl⟩, rfl, rfl⟩
  | compound operator below inner closed ih =>
      by_cases reached : limit.atMost level = true
      · refine .inr ⟨fun converse => ?_, _, .tooDeep operator reached⟩
        simp [converse.reached reached] at below
      · rcases ih tighter.inside with ⟨same, again, alike⟩ | ⟨less, stopped, fails⟩
        · obtain rfl := alike.eq_returned
          exact .inl ⟨_, .compound operator (by simpa using reached) again closed, .refl _⟩
        · exact .inr ⟨fun converse => less converse.inside, stopped,
            .badArguments operator (by simpa using reached) fails⟩
  | badArguments operator below inner ih =>
      by_cases reached : limit.atMost level = true
      · refine .inr ⟨fun converse => ?_, _, .tooDeep operator reached⟩
        simp [converse.reached reached] at below
      · rcases ih tighter.inside with ⟨same, again, alike⟩ | ⟨less, stopped, fails⟩
        · obtain ⟨failure, rfl, similar⟩ := alike.exists_failed
          exact .inl ⟨_, .badArguments operator (by simpa using reached) again, similar, rfl, rfl⟩
        · exact .inr ⟨fun converse => less converse.inside, stopped,
            .badArguments operator (by simpa using reached) fails⟩
  | none closed => exact .inl ⟨_, .none closed, .refl _⟩
  | badArgument noClosing first ih =>
      rcases ih tighter with ⟨same, again, alike⟩ | ⟨less, stopped, fails⟩
      · obtain ⟨failure, rfl, similar⟩ := alike.exists_failed
        exact .inl ⟨_, .badArgument noClosing again, similar, rfl, rfl⟩
      · exact .inr ⟨less, stopped, .badArgument noClosing fails⟩
  | one noClosing first closed ih =>
      rcases ih tighter with ⟨same, again, alike⟩ | ⟨less, stopped, fails⟩
      · obtain rfl := alike.eq_returned
        exact .inl ⟨_, .one noClosing again closed, .refl _⟩
      · exact .inr ⟨less, stopped, .badArgument noClosing fails⟩
  | more noClosing first separator rest ihFirst ihRest =>
      rcases ihFirst tighter with ⟨same, again, alike⟩ | ⟨less, stopped, fails⟩
      · obtain rfl := alike.eq_returned
        rcases ihRest tighter with ⟨others, further, alike⟩ | ⟨less, stopped, fails⟩
        · exact .inl ⟨_, .more noClosing again separator further, alike.map _⟩
        · exact .inr ⟨less, stopped, .more noClosing again separator fails⟩
      · exact .inr ⟨less, stopped, .badArgument noClosing fails⟩
  | unseparated noClosing first noSeparator noEnd ih =>
      rcases ih tighter with ⟨same, again, alike⟩ | ⟨less, stopped, fails⟩
      · obtain rfl := alike.eq_returned
        exact .inl ⟨_, .unseparated noClosing again noSeparator noEnd, .refl _⟩
      · exact .inr ⟨less, stopped, .badArgument noClosing fails⟩

/-- A run of a rule that is left no more than another run from the same cursor comes to
the same as the other or fails for the nesting. It returns a term that the other one
returns exactly when the term's nesting fits, and where it is left no less either it
comes to the same. -/
structure CutOff (rule : Number → Int → Cursor → Outcome Term) (limit : Number) (level : Int)
    (other : Number) (elsewhere : Int) (cursor : Cursor) : Prop where
  alike_or_tooDeep : (rule limit level cursor).Alike (rule other elsewhere cursor) ∨
    ∃ stopped, rule limit level cursor = .failed (.tooDeep limit) stopped []
  ok_iff_fits : ∀ term, (rule other elsewhere cursor).result = .ok term →
    ((∃ value, (rule limit level cursor).result = .ok value) ↔ term.Fits limit level)
  alike_of_tighter : Tighter other elsewhere limit level →
    (rule limit level cursor).Alike (rule other elsewhere cursor)

/-- The rule for terms is cut off by its limit. -/
theorem cutOff_expr (tighter : Tighter limit level other elsewhere) (cursor : Cursor) :
    CutOff expr limit level other elsewhere cursor := by
  have cut : (expr limit level cursor).Alike (expr other elsewhere cursor) ∨
      ¬ Tighter other elsewhere limit level ∧
        ∃ stopped, expr limit level cursor = .failed (.tooDeep limit) stopped [] := by
    rcases (reads_expr other elsewhere cursor).cutShort tighter with
      ⟨same, again, alike⟩ | ⟨less, stopped, fails⟩
    · exact .inl (by rwa [show expr limit level cursor = same from again.followed])
    · exact .inr ⟨less, stopped, fails.followed⟩
  refine ⟨cut.imp_right And.right, ?_, fun converse => cut.resolve_right fun less =>
    less.1 converse⟩
  intro term read
  obtain ⟨last, notes, returned⟩ := Outcome.exists_returned read
  have recognised := recognises_of_expr returned
  obtain ⟨whenFits, whenDeep⟩ := reads_of_spells limit recognised.spelled level cursor last
    recognised.passes recognised.ended
  constructor
  · rintro ⟨value, succeeded⟩
    by_contra deep
    obtain ⟨stopped, fails⟩ := whenDeep deep
    rw [show expr limit level cursor = _ from fails.followed] at succeeded
    cases succeeded
  · intro fits
    rw [show expr limit level cursor = _ from (whenFits fits).followed]
    exact ⟨term, rfl⟩

/-! ## On a stack -/

variable {levels : Nat}

/-- Failures that are alike are the same after the end of the stack has been named. -/
theorem stackEnds_eq_of_alike {first second : Failure} (alike : first.Alike second) :
    stackEnds first = stackEnds second := by
  rcases alike with rfl | ⟨bound, other, rfl, rfl⟩
  · rfl
  · rfl

/-- Outcomes that are alike are the same in all but name after the end of the stack has
been named in both. -/
theorem mapFailure_stackEnds_alike {first second : Outcome Term} (alike : first.Alike second) :
    (first.mapFailure stackEnds).Alike (second.mapFailure stackEnds) := by
  cases first with
  | returned =>
      cases second with
      | returned => exact alike
      | failed => exact alike
  | failed =>
      cases second with
      | returned => exact alike
      | failed => exact ⟨.inl (stackEnds_eq_of_alike alike.1), alike.2⟩

/-- Outcomes that are alike are so where the notes of both have to be made on a stack. -/
theorem notedWithin_alike {first second : Outcome Term} (alike : first.Alike second)
    (levels : Nat) (start : Cursor) :
    (notedWithin levels start first).Alike (notedWithin levels start second) := by
  cases first with
  | returned =>
      cases second with
      | returned => exact alike
      | failed => exact alike.elim
  | failed failure stopped notes =>
      cases second with
      | returned => exact alike.elim
      | failed other =>
          obtain ⟨similar, rfl, rfl⟩ := alike
          simp only [notedWithin]
          split
          · exact .refl _
          · exact ⟨similar, rfl, rfl⟩

/-- A value needs no note. -/
theorem result_notedWithin_eq_ok_iff {levels : Nat} {start : Cursor} {outcome : Outcome Term}
    {term : Term} :
    (notedWithin levels start outcome).result = .ok term ↔ outcome.result = .ok term := by
  cases outcome with
  | returned => rfl
  | failed =>
      simp only [notedWithin]
      split <;> simp [Outcome.result]

/-- A failure without a note is not lost. -/
theorem notedWithin_noteless {α : Type} (levels : Nat) (start : Cursor) (failure : Failure)
    (stopped : Cursor) :
    notedWithin levels start (.failed failure stopped [] : Outcome α) =
      .failed failure stopped [] := by
  simp [notedWithin]

/-- A whole limit is reached at itself and beyond. -/
theorem whole_atMost_iff {bound level : Int} :
    (Number.whole bound).atMost level = true ↔ bound ≤ level := by
  simp [Number.atMost, Number.exact]

/-- A limit that the stack outlasts is reached before the stack ends, wherever the run
on it started. -/
theorem tighter_of_outlasted (outlasted : limit.atMost (level + levels) = true)
    (elsewhere : Int) :
    Tighter limit level (.whole (elsewhere + levels)) elsewhere := by
  intro further reached
  rw [whole_atMost_iff] at reached
  exact Number.atMost_mono outlasted (by omega)

/-- A limit that the stack does not outlast is reached after the stack has ended. -/
theorem tighter_of_not_outlasted (ends : ¬ limit.atMost (level + levels) = true) :
    Tighter (.whole (level + levels)) level limit level := by
  intro further reached
  by_contra within
  rw [whole_atMost_iff] at within
  exact ends (Number.atMost_mono reached (by omega))

/-- A limit that lies within the levels is the limit of a run in them. -/
theorem within_of_atMost {α : Type} (rule : Number → Int → Cursor → Outcome α)
    (outlasted : limit.atMost (level + levels) = true) (cursor : Cursor) :
    within levels rule limit level cursor = rule limit level cursor :=
  if_pos outlasted

/-- Levels that end before the limit are the limit of a run in them. -/
theorem within_of_not_atMost {α : Type} (rule : Number → Int → Cursor → Outcome α)
    (ends : ¬ limit.atMost (level + levels) = true) (cursor : Cursor) :
    within levels rule limit level cursor =
      (rule (.whole (level + levels)) level cursor).mapFailure stackEnds :=
  if_neg ends

/-- A result that has been renamed at the end of the stack is a value when it was one. -/
theorem result_mapFailure_eq_ok_iff {α : Type} {outcome : Outcome α} {form : Failure → Failure}
    {value : α} : (outcome.mapFailure form).result = .ok value ↔ outcome.result = .ok value := by
  cases outcome with
  | returned => rfl
  | failed => simp [Outcome.mapFailure, Outcome.result]

/-- An outcome that is like another one stays so when the end of the stack is named in
the other, unless it fails for its own limit. -/
theorem alike_mapFailure_or_tooDeep {long : Outcome Term}
    (alike : (expr limit level cursor).Alike long) :
    (expr limit level cursor).Alike (long.mapFailure stackEnds) ∨
      ∃ stopped, expr limit level cursor = .failed (.tooDeep limit) stopped [] := by
  cases short : expr limit level cursor with
  | returned =>
      rw [short] at alike
      cases long with
      | returned => exact .inl alike
      | failed => exact .inl alike
  | failed failure stopped notes =>
      have reported := (failsAt_of_expr short).reported
      rw [short] at alike
      cases long with
      | returned => exact .inl alike
      | failed =>
          obtain ⟨rfl | ⟨bound, there, rfl, rfl⟩, same⟩ := alike
          · cases failure with
            | tooDeep bound =>
                obtain ⟨rfl, rfl⟩ := reported
                exact .inr ⟨stopped, rfl⟩
            | expectedAtom | expectedOperator | expectedSeparator | expected | stackExhausted =>
                exact .inl ⟨.inl rfl, same⟩
          · obtain ⟨rfl, rfl⟩ := reported
            exact .inr ⟨stopped, rfl⟩

/-- What is returned before the levels end fits every limit that lies beyond them. -/
theorem fits_of_not_outlasted (ends : ¬ limit.atMost (level + levels) = true)
    (cursor : Cursor) {term : Term}
    (read : (expr (.whole (level + levels)) level cursor).result = .ok term) :
    term.Fits limit level := by
  rcases (cutOff_expr (tighter_of_not_outlasted ends) cursor).alike_or_tooDeep with
    alike | ⟨stopped, fails⟩
  · rw [alike.result_eq_ok_iff] at read
    obtain ⟨last, notes, returned⟩ := Outcome.exists_returned read
    exact (recognises_of_expr returned).fits
  · rw [fails] at read
    cases read

/-- In so many levels and no more the rule for terms is cut off by its limit all the same. -/
theorem cutOff_within_expr (levels : Nat) (tighter : Tighter limit level other elsewhere)
    (cursor : Cursor) : CutOff (within levels expr) limit level other elsewhere cursor := by
  by_cases outlasted : limit.atMost (level + levels) = true
  · have short := within_of_atMost expr outlasted cursor
    by_cases further : other.atMost (elsewhere + levels) = true
    · have cut := cutOff_expr tighter cursor
      have long := within_of_atMost expr further cursor
      exact ⟨by rw [short, long]; exact cut.alike_or_tooDeep,
        by rw [short, long]; exact cut.ok_iff_fits,
        by rw [short, long]; exact cut.alike_of_tighter⟩
    · -- Only the longer run can come to the end of the levels.
      have cut := cutOff_expr (tighter_of_outlasted outlasted elsewhere) cursor
      have long := within_of_not_atMost expr further cursor
      refine ⟨?_, fun term read => ?_, fun converse => absurd (converse _ outlasted) further⟩
      · rw [short, long]
        exact cut.alike_or_tooDeep.elim alike_mapFailure_or_tooDeep .inr
      · rw [long, result_mapFailure_eq_ok_iff] at read
        rw [short]
        exact cut.ok_iff_fits term read
  · -- Both runs go as far as the levels do, which is equally far.
    have ends : ¬ other.atMost (elsewhere + levels) = true :=
      fun reached => outlasted (tighter _ reached)
    have short := within_of_not_atMost expr outlasted cursor
    have long := within_of_not_atMost expr ends cursor
    have far (level elsewhere : Int) : Tighter (.whole (level + levels)) level
        (.whole (elsewhere + levels)) elsewhere :=
      tighter_of_outlasted (whole_atMost_iff.2 le_rfl) elsewhere
    have alike := (cutOff_expr (far level elsewhere) cursor).alike_of_tighter
      (far elsewhere level)
    have same : (within levels expr limit level cursor).Alike
        (within levels expr other elsewhere cursor) := by
      rw [short, long]
      exact mapFailure_stackEnds_alike alike
    refine ⟨.inl same, fun term read => ?_, fun _ => same⟩
    rw [← same.result_eq_ok_iff] at read
    refine iff_of_true ⟨term, read⟩ (fits_of_not_outlasted outlasted cursor ?_)
    rwa [short, result_mapFailure_eq_ok_iff] at read

/-- On a stack it is so too: what a note takes of the stack is the same for both runs. -/
theorem cutOff_onStack_expr (stack : Stack) (tighter : Tighter limit level other elsewhere)
    (cursor : Cursor) : CutOff (onStack stack expr) limit level other elsewhere cursor := by
  have cut := cutOff_within_expr stack.levels tighter cursor
  refine ⟨?_, fun term read => ?_, fun converse =>
    notedWithin_alike (cut.alike_of_tighter converse) _ _⟩
  · rcases cut.alike_or_tooDeep with alike | ⟨stopped, fails⟩
    · exact .inl (notedWithin_alike alike _ _)
    · exact .inr ⟨stopped, by rw [onStack, fails, notedWithin_noteless]⟩
  · simp only [onStack, result_notedWithin_eq_ok_iff] at read ⊢
    exact cut.ok_iff_fits term read

end Parser

end TermText
