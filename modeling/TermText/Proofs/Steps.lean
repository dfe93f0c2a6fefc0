/-
# Runs of steps

What steps that follow one another on the same tokens can do to the cursor, whatever
they are and however many of them fail. A step passes over tokens and never goes back,
so the tokens stay as they are and the cursor stays among them; a step that reads passes
over no stop, and one that returns a term over a token at least. A stop that has come
under the cursor is not left for good: that depends on the tokens after it, and exactly
where all of them are stops is it the end.
-/

import TermText.Parser.Step
import TermText.Proofs.Reading

namespace TermText

namespace Cursor

variable {first middle last : Cursor}

/-- All that a cursor shows is among its tokens, at its position and at the next one,
which on the last token is that position again. -/
theorem getElem?_tokens (cursor : Cursor) :
    cursor.tokens[cursor.position]? = some cursor.current ∧
      cursor.tokens[min (cursor.position + 1) (cursor.size - 1)]? = some cursor.lookahead := by
  rcases cursor with ⟨passed, current, _ | ⟨next, later⟩, closed⟩
  · simp [tokens, ahead, position, size, lookahead]
  · simp [tokens, ahead, position, size, lookahead]

/-- A cursor stands on one of its tokens, with those to come after it. -/
theorem size_eq (cursor : Cursor) :
    cursor.size = cursor.position + 1 + cursor.later.length := by
  simp only [size, tokens, ahead, position, List.length_append, List.length_reverse,
    List.length_cons]
  omega

theorem current_mem_ahead (cursor : Cursor) : cursor.current ∈ cursor.ahead :=
  List.mem_cons_self

theorem lookahead_mem_ahead (cursor : Cursor) : cursor.lookahead ∈ cursor.ahead := by
  rcases cursor with ⟨_, _, _ | ⟨_, _⟩, _⟩
  · simp [lookahead, ahead]
  · simp [lookahead, ahead]

/-- On the same tokens a cursor that has passed more of them has as many fewer to come. -/
theorem position_add_length_later (same : last.tokens = first.tokens) :
    last.position + last.later.length = first.position + first.later.length := by
  have early := first.size_eq
  have late := last.size_eq
  rw [size, same, ← size] at late
  omega

/-- A passage that leaves fewer tokens to come has moved the cursor. -/
theorem Passes.position_lt {tokens : List Token} (passage : first.Passes tokens last)
    (fewer : last.later.length < first.later.length) : first.position < last.position := by
  have total := position_add_length_later passage.tokens_eq
  omega

/-- Moving on passes over one token or none. -/
theorem exists_passes_advance (cursor : Cursor) :
    ∃ tokens, cursor.Passes tokens cursor.advance := by
  by_cases more : cursor.later = []
  · refine ⟨[], ?_⟩
    rcases cursor with ⟨passed, current, later, closed⟩
    obtain rfl : later = [] := more
    exact .refl _
  · exact ⟨_, passes_advance_of_later_ne_nil more⟩

/-- Whether the last cursor is reached from the first without passing over a stop. -/
def ReachesBeforeStop (first last : Cursor) : Prop :=
  ∃ tokens, first.Passes tokens last ∧ ∀ token ∈ tokens, token.kind ≠ .stop

namespace ReachesBeforeStop

theorem refl (cursor : Cursor) : cursor.ReachesBeforeStop cursor :=
  ⟨[], .refl cursor, by simp⟩

theorem trans (early : first.ReachesBeforeStop middle) (late : middle.ReachesBeforeStop last) :
    first.ReachesBeforeStop last := by
  obtain ⟨before, passage, noStops⟩ := early
  obtain ⟨after, further, noMore⟩ := late
  refine ⟨before ++ after, passage.trans further, fun token member => ?_⟩
  exact (List.mem_append.1 member).elim (noStops token) (noMore token)

theorem advance {cursor : Cursor} (noStop : cursor.current.kind ≠ .stop) :
    cursor.ReachesBeforeStop cursor.advance :=
  ⟨_, passes_advance noStop, by simpa using noStop⟩

/-- No token between the two cursors is a stop. -/
theorem kind_ne_stop_of_mem_upTo (reaches : first.ReachesBeforeStop last) {token : Token}
    (member : token ∈ first.upTo last) : token.kind ≠ .stop := by
  obtain ⟨tokens, passage, noStops⟩ := reaches
  rw [passage.upTo_eq] at member
  exact noStops token member

end ReachesBeforeStop

end Cursor

namespace Outcome

variable {α β : Type} {bound : Nat}

@[simp] theorem within_map (form : α → β) (outcome : Outcome α) :
    (outcome.map form).Within bound ↔ outcome.Within bound := by
  cases outcome <;> rfl

@[simp] theorem within_mapFailure (form : Failure → Failure) (outcome : Outcome α) :
    (outcome.mapFailure form).Within bound ↔ outcome.Within bound := by
  cases outcome <;> rfl

end Outcome

namespace Parser

variable {limit : Number} {level : Int} {cursor : Cursor}

@[simp] theorem cursor_notedWithin {α : Type} (levels : Nat) (start : Cursor)
    (outcome : Outcome α) : (notedWithin levels start outcome).cursor = outcome.cursor := by
  cases outcome with
  | returned => rfl
  | failed =>
      simp only [notedWithin]
      split <;> rfl

@[simp] theorem within_notedWithin {α : Type} {bound : Nat} (levels : Nat) (start : Cursor)
    (outcome : Outcome α) :
    (notedWithin levels start outcome).Within bound ↔ outcome.Within bound := by
  cases outcome with
  | returned => rfl
  | failed =>
      simp only [notedWithin]
      split <;> rfl

/-! ## Single rules -/

/-- An operator and its bracket are no stops. -/
theorem AtOperator.reachesBeforeStop (operator : AtOperator cursor) :
    cursor.ReachesBeforeStop cursor.advance.advance :=
  (Cursor.ReachesBeforeStop.advance (by simp [operator.1])).trans
    (.advance (by simp [operator.opening]))

/-- The cursor where a reading stopped. -/
def Reading.last : Reading → Cursor
  | .term outcome => outcome.cursor
  | .arguments outcome => outcome.cursor

/-- A reading passes over no stop, also when it fails. -/
theorem Reads.reachesBeforeStop {reading : Reading} (reads : Reads limit level cursor reading) :
    cursor.ReachesBeforeStop reading.last := by
  induction reads with
  | atom name => exact Cursor.ReachesBeforeStop.advance (by simp [name])
  | noAtom | noOperator | tooDeep | none => exact .refl _
  | @compound _ _ outside _ operator _ _ closed ih =>
      have finish : outside.ReachesBeforeStop outside.advance := .advance (by simp [closed])
      exact (operator.reachesBeforeStop.trans ih).trans finish
  | badArguments operator _ _ ih => exact operator.reachesBeforeStop.trans ih
  | badArgument _ _ ih => exact ih
  | one _ _ _ ih => exact ih
  | @more _ _ next _ _ _ _ separator _ ihFirst ihRest =>
      have comma : next.ReachesBeforeStop next.advance := .advance (by simp [separator])
      simpa [Reading.last] using ihFirst.trans (comma.trans ihRest)
  | unseparated _ _ _ _ ih => exact ih

/-- The rule for compounds passes over no stop either. -/
theorem compound_reachesBeforeStop (limit : Number) (level : Int) (cursor : Cursor) :
    cursor.ReachesBeforeStop (compound limit level cursor).cursor := by
  by_cases operator : AtOperator cursor
  · rw [compound_of_atOperator operator]
    exact (reads_expr limit level cursor).reachesBeforeStop
  · rw [compound_of_not_atOperator operator]
    exact .refl cursor

/-- On a stack a rule stops where it does under some limit without one. -/
theorem exists_cursor_onStack_eq {α : Type} (stack : Stack)
    (rule : Number → Int → Cursor → Outcome α) (limit : Number) (level : Int) (cursor : Cursor) :
    ∃ bound, (onStack stack rule limit level cursor).cursor = (rule bound level cursor).cursor := by
  rw [onStack, cursor_notedWithin, within]
  split
  · exact ⟨limit, rfl⟩
  · exact ⟨_, Outcome.cursor_mapFailure _ _⟩

/-- What a rule returns under any limit it leaves behind on a stack too. -/
theorem within_onStack {α : Type} {rule : Number → Int → Cursor → Outcome α} {bound : Nat}
    (moved : ∀ limit, (rule limit level cursor).Within bound) (stack : Stack) (limit : Number) :
    (onStack stack rule limit level cursor).Within bound := by
  rw [onStack, within_notedWithin, within]
  split
  · exact moved limit
  · exact (Outcome.within_mapFailure _ _).2 (moved _)

/-! ## Single steps -/

/-- Whether a step is one of the rules of the grammar. -/
def Step.IsRule : Step → Prop
  | .expr _ | .atom | .compound _ | .arguments _ => True
  | .advance | .consume | .size | .describe | .currentIs _ | .lookaheadIs _ | .trace _
  | .expect _ => False

/-- Whether a step is a rule that returns a term. -/
def Step.ReadsTerm : Step → Prop
  | .expr _ | .atom | .compound _ => True
  | .advance | .consume | .size | .describe | .currentIs _ | .lookaheadIs _ | .trace _
  | .expect _ | .arguments _ => False

/-- A rule passes over no stop, whether it returns or fails. -/
theorem Step.reachesBeforeStop {step : Step} (isRule : step.IsRule) (stack : Stack)
    (limit : Number) (cursor : Cursor) :
    cursor.ReachesBeforeStop (step.run stack limit cursor).cursor := by
  cases step with
  | expr level =>
      obtain ⟨bound, same⟩ := exists_cursor_onStack_eq stack Parser.expr limit level cursor
      rw [Step.run, Outcome.cursor_map, same]
      exact (reads_expr bound level cursor).reachesBeforeStop
  | atom =>
      rw [Step.run, Outcome.cursor_map, Parser.atom]
      split
      · next name => exact .advance (by simp [name])
      · exact .refl cursor
  | compound level =>
      obtain ⟨bound, same⟩ := exists_cursor_onStack_eq stack Parser.compound limit level cursor
      rw [Step.run, Outcome.cursor_map, same]
      exact compound_reachesBeforeStop bound level cursor
  | arguments level =>
      obtain ⟨bound, same⟩ := exists_cursor_onStack_eq stack Parser.arguments limit level cursor
      rw [Step.run, Outcome.cursor_map, same]
      exact (reads_arguments bound level cursor).reachesBeforeStop
  | advance | consume | size | describe | currentIs | lookaheadIs | trace | expect =>
      exact isRule.elim

/-- Every step moves the cursor forward over tokens, or leaves it where it is. -/
theorem Step.exists_passes (step : Step) (stack : Stack) (limit : Number) (cursor : Cursor) :
    ∃ tokens, cursor.Passes tokens (step.run stack limit cursor).cursor := by
  have rule (isRule : step.IsRule) :
      ∃ tokens, cursor.Passes tokens (step.run stack limit cursor).cursor :=
    (reachesBeforeStop isRule stack limit cursor).imp fun _ => And.left
  cases step with
  | advance | consume => exact cursor.exists_passes_advance
  | size | describe | currentIs | lookaheadIs | trace => exact ⟨[], .refl cursor⟩
  | expect wanted =>
      rw [Step.run, Outcome.cursor_map, Parser.expect]
      split
      · exact cursor.exists_passes_advance
      · exact ⟨[], .refl cursor⟩
  | expr | atom | compound | arguments => exact rule trivial

/-- A rule that returns a term leaves fewer tokens to come. -/
theorem Step.within {step : Step} (readsTerm : step.ReadsTerm) (stack : Stack) (limit : Number)
    (cursor : Cursor) : (step.run stack limit cursor).Within cursor.later.length := by
  cases step with
  | expr level =>
      rw [Step.run, Outcome.within_map]
      exact within_onStack (fun bound => expr_within bound level cursor) stack limit
  | atom =>
      rw [Step.run, Outcome.within_map]
      exact atom_within cursor
  | compound level =>
      rw [Step.run, Outcome.within_map]
      exact within_onStack (fun bound => compound_within bound level cursor) stack limit
  | advance | consume | size | describe | currentIs | lookaheadIs | trace | expect | arguments =>
      exact readsTerm.elim

/-! ## Steps one after the other -/

/-- The cursor where the last of some steps stopped, and where the next one starts. -/
def Step.reached (stack : Stack) (limit : Number) (cursor : Cursor) (steps : List Step) : Cursor :=
  ((runAll stack limit cursor steps).getLast?.map Outcome.cursor).getD cursor

namespace Step

@[simp] theorem reached_cons (stack : Stack) (limit : Number) (cursor : Cursor) (step : Step)
    (rest : List Step) :
    reached stack limit cursor (step :: rest) =
      reached stack limit (step.run stack limit cursor).cursor rest := by
  cases rest with
  | nil => rfl
  | cons next rest =>
      simp only [reached, runAll, List.getLast?_cons_cons]
      rw [List.getLast?_eq_some_getLast (List.cons_ne_nil _ _)]
      rfl

theorem reached_append (stack : Stack) (limit : Number) (cursor : Cursor)
    (early late : List Step) :
    reached stack limit cursor (early ++ late) =
      reached stack limit (reached stack limit cursor early) late := by
  induction early generalizing cursor with
  | nil => rfl
  | cons step rest ih => simp [ih]

/-- However many steps are run, the cursor only moves forward over tokens. -/
theorem exists_passes_reached (stack : Stack) (limit : Number) (cursor : Cursor)
    (steps : List Step) :
    ∃ tokens, cursor.Passes tokens (reached stack limit cursor steps) := by
  induction steps generalizing cursor with
  | nil => exact ⟨[], .refl cursor⟩
  | cons step rest ih =>
      obtain ⟨first, early⟩ := step.exists_passes stack limit cursor
      obtain ⟨others, late⟩ := ih (step.run stack limit cursor).cursor
      exact ⟨first ++ others, by simpa using early.trans late⟩

/-- What lies ahead is reached by moving on. -/
theorem reached_replicate_advance {tokens : List Token} {last : Cursor}
    (passage : cursor.Passes tokens last) :
    reached stack limit cursor (List.replicate tokens.length .advance) = last := by
  induction tokens generalizing cursor with
  | nil => exact passage.eq_of_nil.symm
  | cons token tokens ih =>
      rw [List.length_cons, List.replicate_succ, reached_cons]
      exact ih passage.of_cons.2

/-! ## Where a stop is the end -/

/-- Where nothing but stops follows the first stop, nothing else lies ahead of any stop
that the cursor comes to. -/
theorem kind_of_mem_ahead {tokens : List Token} {last : Cursor}
    (only : ∀ token ∈ cursor.ahead.dropWhile (·.kind != .stop), token.kind = .stop)
    (passage : cursor.Passes tokens last) (atStop : last.current.kind = .stop) :
    ∀ token ∈ last.ahead, token.kind = .stop := by
  have stays : last.ahead.dropWhile (·.kind != .stop) = last.ahead := by
    simp [Cursor.ahead, atStop]
  intro token member
  apply only
  rw [passage.1, List.dropWhile_append, stays]
  split
  · exact member
  · exact List.mem_append_right _ member

/-- A cursor that has come to a stop shows stops ever after, exactly where nothing but
stops follows the first stop. -/
theorem stop_stays_iff (stack : Stack) (limit : Number) (cursor : Cursor) :
    (∀ steps more, (reached stack limit cursor steps).current.kind = .stop →
      (reached stack limit cursor (steps ++ more)).current.kind = .stop ∧
        (reached stack limit cursor (steps ++ more)).lookahead.kind = .stop) ↔
    ∀ token ∈ cursor.ahead.dropWhile (·.kind != .stop), token.kind = .stop := by
  constructor
  · intro stays token member
    -- Moving on reaches the first stop and from there the token in question.
    obtain ⟨between, after, split⟩ := List.append_of_mem member
    have front : cursor.ahead =
        cursor.ahead.takeWhile (·.kind != .stop) ++ (between ++ token :: after) := by
      rw [← split, List.takeWhile_append_dropWhile]
    obtain ⟨first, early, ahead⟩ := Cursor.Passes.exists_of_ahead front (by simp)
    obtain ⟨last, late, rest⟩ := Cursor.Passes.exists_of_ahead ahead (by simp)
    have atStop : first.current.kind = .stop := by
      have head := List.head?_dropWhile_not (·.kind != .stop) cursor.ahead
      rw [split, ← ahead] at head
      simpa [Cursor.ahead] using head
    have there := (stays (List.replicate _ .advance) (List.replicate between.length .advance)
      (by rwa [reached_replicate_advance early])).1
    rw [reached_append, reached_replicate_advance early, reached_replicate_advance late] at there
    rwa [(List.cons.inj rest).1] at there
  · intro only steps more atStop
    obtain ⟨tokens, passage⟩ := exists_passes_reached stack limit cursor steps
    obtain ⟨others, further⟩ :=
      exists_passes_reached stack limit (reached stack limit cursor steps) more
    rw [reached_append]
    have stops := kind_of_mem_ahead only passage atStop
    rw [further.1] at stops
    exact ⟨stops _ (List.mem_append_right _ (Cursor.current_mem_ahead _)),
      stops _ (List.mem_append_right _ (Cursor.lookahead_mem_ahead _))⟩

/-- Whatever steps have been run on a list of tokens, and whichever of them have failed,
the tokens are the same and end in a stop, the cursor stands on one of them and shows that
one and the next, and further steps never move it back. A rule that is run there passes
over a token at least when it returns a term, and over no stop in any case. And from
every stop that is reached only stops are shown ever after, exactly where every token
after the first stop is a stop. -/
theorem reached_invariant (stack : Stack) (limit : Number) (tokens : List Token) :
    (∀ steps, let place := reached stack limit (.ofTokens tokens) steps
      place.tokens = Cursor.close tokens ∧
      place.position < (Cursor.close tokens).length ∧
      (Cursor.close tokens)[place.position]? = some place.current ∧
      (Cursor.close tokens)[min (place.position + 1) ((Cursor.close tokens).length - 1)]? =
        some place.lookahead ∧
      (∀ more, place.position ≤
        (reached stack limit (.ofTokens tokens) (steps ++ more)).position) ∧
      ∀ step : Step,
        (step.ReadsTerm → ∀ reply last notes,
          step.run stack limit place = .returned reply last notes →
          place.position + 1 ≤ last.position) ∧
        (step.IsRule → ∀ token ∈ place.upTo (step.run stack limit place).cursor,
          token.kind ≠ .stop)) ∧
    (Cursor.close tokens).getLast?.map Token.kind = some .stop ∧
    ((∀ steps more, (reached stack limit (.ofTokens tokens) steps).current.kind = .stop →
      (reached stack limit (.ofTokens tokens) (steps ++ more)).current.kind = .stop ∧
        (reached stack limit (.ofTokens tokens) (steps ++ more)).lookahead.kind = .stop) ↔
      ∀ token ∈ (Cursor.close tokens).dropWhile (·.kind != .stop), token.kind = .stop) := by
  refine ⟨fun steps => ?_, ?_, ?_⟩
  · intro place
    obtain ⟨passed, passage⟩ := exists_passes_reached stack limit (.ofTokens tokens) steps
    have same : place.tokens = Cursor.close tokens := by
      rw [passage.tokens_eq, Cursor.tokens_ofTokens]
    have size : (Cursor.close tokens).length = place.size := by rw [Cursor.size, same]
    obtain ⟨current, lookahead⟩ := place.getElem?_tokens
    refine ⟨same, ?_, ?_, ?_, fun more => ?_, fun step => ⟨?_, ?_⟩⟩
    · have sizes := place.size_eq
      omega
    · rwa [← same]
    · rwa [size, ← same]
    · obtain ⟨others, further⟩ := exists_passes_reached stack limit place more
      rw [reached_append]
      exact further.position_le
    · intro readsTerm reply last notes returned
      have fewer := within readsTerm stack limit place
      obtain ⟨between, onward⟩ := step.exists_passes stack limit place
      rw [returned] at fewer onward
      exact onward.position_lt fewer
    · intro isRule token member
      exact (reachesBeforeStop isRule stack limit place).kind_ne_stop_of_mem_upTo member
  · rw [List.getLast?_eq_some_getLast (Cursor.close_ne_nil tokens), Option.map_some,
      Cursor.kind_getLast_close]
  · rw [stop_stays_iff, Cursor.ahead_ofTokens]

end Step

end Parser

end TermText
