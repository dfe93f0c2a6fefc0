/-
# Where failures are found

Reading fails at the earliest token that allows it. What has been passed over until then can
still be completed to a term, and what comes under the cursor where reading stopped rules
every completion out, the end of the tokens excepted. One token is enough for that, but for
an operator that is too deep, which without its bracket could still be a name. All this is
said of whole lists of tokens, in whatever order they come.
-/

import TermText.Proofs.Continuation

namespace TermText

/-- How many tokens from the one under the cursor on a failure depends on. -/
def Failure.extent : Failure → Nat
  | .tooDeep _ => 2
  | .expectedAtom _ | .expectedOperator | .expectedSeparator _ | .expected _ _
  | .stackExhausted => 1

/-- No token of a spelling is a stop. -/
theorem Spells.kind_ne_stop {tokens : List Token} {phrase : Phrase}
    (spelled : Spells tokens phrase) : ∀ token ∈ tokens, token.kind ≠ .stop := by
  induction spelled with
  | atom name => simp [name]
  | compound name opening closing _ ih =>
      simp only [List.mem_append, List.mem_cons, List.not_mem_nil, or_false]
      rintro token ((rfl | rfl | inner) | rfl)
      · simp [name]
      · simp [opening]
      · exact ih token inner
      · simp [closing]
  | none => simp
  | one _ ih => exact ih
  | more _ separator _ ihFirst ihRest =>
      simp only [List.mem_append, List.mem_cons]
      rintro token (first | rfl | rest)
      · exact ihFirst token first
      · simp [separator]
      · exact ihRest token rest

namespace Cursor

/-- A stop is added to a list that has none. -/
theorem close_eq_append {tokens : List Token} (noStops : ∀ token ∈ tokens, token.kind ≠ .stop) :
    close tokens = tokens ++ [.stop] := by
  apply if_neg
  intro found
  obtain ⟨token, last, kind⟩ := Option.map_eq_some_iff.1 found
  exact noStops token (List.mem_of_getLast? last) kind

/-- From the start of a list every front of it can be passed over that a token follows, and
then that token is under the cursor. -/
theorem exists_passes_ofTokens (words : List Token) (next : Token) (rest : List Token) :
    ∃ place after, (ofTokens (words ++ next :: rest)).Passes words place ∧
      place.current = next ∧ place.later = rest ++ after := by
  obtain ⟨after, closed⟩ : ∃ after,
      close (words ++ next :: rest) = words ++ next :: (rest ++ after) := by
    rcases close_eq_or (words ++ next :: rest) with same | longer
    · exact ⟨[], by rw [same, List.append_nil]⟩
    · exact ⟨[.stop], by simp [longer]⟩
  obtain ⟨place, passage, ahead⟩ :=
    Passes.exists_of_ahead ((ahead_ofTokens _).trans closed) (List.cons_ne_nil _ _)
  obtain ⟨current, later⟩ := List.cons.inj ahead
  exact ⟨place, after, passage, current, later⟩

end Cursor

namespace Parser

variable {limit : Number} {level : Int} {tokens words : List Token} {failure : Failure}
  {stopped : Cursor} {notes : List Note}

/-- A list of tokens that spells a term within the limit is read to its end. -/
theorem exists_returned_of_spells {term : Term} (spelled : Spells words (.term term))
    (fits : term.Fits limit level) :
    ∃ last, expr limit level (.ofTokens words) = .returned term last [] ∧
      last.position = words.length := by
  have ahead : (Cursor.ofTokens words).ahead = words ++ [.stop] := by
    rw [Cursor.ahead_ofTokens, Cursor.close_eq_append spelled.kind_ne_stop]
  obtain ⟨last, passage, rest⟩ := Cursor.Passes.exists_of_ahead ahead (by simp)
  have atStop : last.current = Token.stop := (List.cons.inj rest).1
  have reads := (reads_of_spells limit spelled level _ last passage
    (.inr (by simp [atStop, Token.stop]))).1 fits
  refine ⟨last, reads.followed, ?_⟩
  rw [passage.position_eq, Cursor.position_ofTokens, Nat.zero_add]

/-- What a failed reading of a list passed over can be continued to tokens that are read to
their end. -/
theorem exists_completion
    (reads : Reads limit level (.ofTokens tokens) (.term (.failed failure stopped notes))) :
    ∃ more, (∀ token ∈ more, token.kind ≠ .stop) ∧ ∃ term last,
      expr limit level (.ofTokens (tokens.take stopped.position ++ more)) =
        .returned term last [] ∧
      last.position = (tokens.take stopped.position ++ more).length := by
  obtain ⟨words, passage, completed⟩ :=
    reads.completable (show (⟨.closing, []⟩ : Token).kind = .closing from rfl)
  obtain ⟨more, term, spelled, fits⟩ : ∃ more term, Spells (words ++ more) (.term term) ∧
      term.Fits limit level := by
    rcases completed with rfl | ⟨count, root, spelled, fits⟩
    · exact ⟨[⟨.atom, []⟩], _, .atom rfl, trivial⟩
    · exact ⟨_, root, spelled, fits⟩
  obtain ⟨last, returned, position⟩ := exists_returned_of_spells spelled fits
  rw [passage.take_position]
  exact ⟨more, fun token member => spelled.kind_ne_stop token (by simp [member]), term, last,
    returned, position⟩

/-- The tokens that a failure depends on lie ahead of where reading stopped, and wherever
they follow what was passed over, that is repeated. -/
theorem exists_repeats (described : failure.Describes stopped)
    (noStop : stopped.current.kind ≠ .stop) :
    ∃ seen last, stopped.Passes seen last ∧ seen.length = failure.extent ∧
      ∀ words more, Repeats failure stopped words (.ofTokens (words ++ seen ++ more)) := by
  have single (deeper : ∀ bound, failure ≠ .tooDeep bound) (words more : List Token) :
      Repeats failure stopped words (.ofTokens (words ++ [stopped.current] ++ more)) := by
    rw [List.append_assoc, List.singleton_append]
    obtain ⟨place, after, passage, current, -⟩ :=
      Cursor.exists_passes_ofTokens words stopped.current more
    exact ⟨place, passage, by rw [current], fun bound same => absurd same (deeper bound)⟩
  cases failure with
  | tooDeep =>
      have operator : AtOperator stopped := described
      refine ⟨_, _, operator.passes, rfl, fun words more => ?_⟩
      rw [List.append_assoc]
      obtain ⟨place, after, passage, current, later⟩ :=
        Cursor.exists_passes_ofTokens words stopped.current (stopped.advance.current :: more)
      refine ⟨place, passage, by rw [current], fun bound same => ?_⟩
      simp [Cursor.lookahead, later, operator.opening]
  | expectedAtom | expectedOperator | expectedSeparator | expected | stackExhausted =>
      exact ⟨_, _, stopped.passes_advance noStop, rfl, single fun _ => Failure.noConfusion⟩

/-- What a failed reading of a list passed over fails with every continuation that keeps the
tokens the failure depends on. -/
theorem exists_failed_of_extent
    (reads : Reads limit level (.ofTokens tokens) (.term (.failed failure stopped notes)))
    (noStop : stopped.current.kind ≠ .stop) (more : List Token) :
    ∃ another, (expr limit level
      (.ofTokens (tokens.take (stopped.position + failure.extent) ++ more))).result =
        .error another := by
  obtain ⟨words, passage, again⟩ := reads.lasting
  obtain ⟨seen, last, onward, extent, repeated⟩ := exists_repeats reads.described noStop
  have front : tokens.take (stopped.position + failure.extent) = words ++ seen := by
    rw [← extent, ← onward.position_eq]
    exact (passage.trans onward).take_position
  obtain ⟨another, there, others, fails⟩ := again _ (repeated words more)
  refine ⟨another, ?_⟩
  rw [front, show expr _ _ _ = _ from fails.followed]
  rfl

/-- A failure is found as early as it can be. When a list of tokens is not read, on a stack
that has room for notes in as many levels as the limit leaves, the tokens up to where reading
stopped can be continued, without a stop, to tokens that are read to their end; and unless it
stopped at a stop, the tokens that the failure depends on, which are the next one, or the next
two after too deep a nesting, leave no continuation of any kind to be read. -/
theorem failure_is_earliest (stack : Stack) (limit : Number) (level : Int)
    (outlasted : limit.atMost (level + stack.noted) = true) (tokens : List Token)
    (failure : Failure) (stopped : Cursor) (notes : List Note)
    (failed : onStack stack expr limit level (.ofTokens tokens) = .failed failure stopped notes) :
    (∃ more, (∀ token ∈ more, token.kind ≠ .stop) ∧ ∃ term last,
      onStack stack expr limit level (.ofTokens (tokens.take stopped.position ++ more)) =
        .returned term last [] ∧
      last.position = (tokens.take stopped.position ++ more).length) ∧
    (stopped.current.kind ≠ .stop → ∀ more, ∃ another,
      (onStack stack expr limit level
        (.ofTokens (tokens.take (stopped.position + failure.extent) ++ more))).result =
          .error another) := by
  simp only [measured_expr.onStack_of_atMost outlasted] at failed ⊢
  have reads := reads_expr limit level (.ofTokens tokens)
  rw [failed] at reads
  exact ⟨exists_completion reads, exists_failed_of_extent reads⟩

/-- The tokens of `F(G())`, which nests on two levels. -/
def twoLevels : List Token :=
  [⟨.atom, ['F']⟩, ⟨.opening, ['(']⟩, ⟨.atom, ['G']⟩, ⟨.opening, ['(']⟩, ⟨.closing, [')']⟩,
    ⟨.closing, [')']⟩, .stop]

/-- On one level `G` is too deep: `F(` can still be completed, and `F(G(` cannot. -/
theorem failure_is_earliest_twoLevels :
    (Number.whole 1).atMost (0 + Stack.standard.noted) = true ∧
    ∃ stopped notes,
      onStack .standard expr (.whole 1) 0 (.ofTokens twoLevels) =
        .failed (.tooDeep (.whole 1)) stopped notes ∧
      (∃ more, (∀ token ∈ more, token.kind ≠ .stop) ∧ ∃ term last,
        onStack .standard expr (.whole 1) 0 (.ofTokens (twoLevels.take 2 ++ more)) =
          .returned term last [] ∧
        last.position = (twoLevels.take 2 ++ more).length) ∧
      stopped.current.kind ≠ .stop ∧
      ∀ more, ∃ another,
        (onStack .standard expr (.whole 1) 0 (.ofTokens (twoLevels.take 4 ++ more))).result =
          .error another := by
  have outlasted : (Number.whole 1).atMost (0 + Stack.standard.noted) = true := by decide
  have result : (onStack .standard expr (.whole 1) 0 (.ofTokens twoLevels)).result =
      .error (.tooDeep (.whole 1)) := by
    cbv
  have place : (onStack .standard expr (.whole 1) 0 (.ofTokens twoLevels)).cursor.position = 2 := by
    cbv
  have kind : (onStack .standard expr (.whole 1) 0 (.ofTokens twoLevels)).cursor.current.kind =
      .atom := by
    cbv
  obtain ⟨stopped, notes, failed⟩ := Outcome.exists_failed result
  obtain ⟨completion, lasting⟩ := failure_is_earliest .standard _ _ outlasted _ _ _ _ failed
  rw [failed, Outcome.cursor] at place kind
  have noStop : stopped.current.kind ≠ .stop := by simp [kind]
  rw [place] at completion lasting
  exact ⟨outlasted, stopped, notes, failed, completion, noStop, lasting noStop⟩

end Parser

end TermText
