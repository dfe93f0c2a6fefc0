/-
# Passages

What lies between two places in the same list of tokens. A cursor passes over
tokens to reach another one, passages compose end to end, and from a given
cursor the tokens determine where a passage ends. Rules are described by the
passages they make, so that no statement about a rule has to count positions.
-/

import Mathlib
import TermText.Cursor

namespace TermText.Cursor

variable {first middle last : Cursor} {before after tokens : List Token}

/-- From the first cursor exactly these tokens lead to the last one. -/
def Passes (first : Cursor) (tokens : List Token) (last : Cursor) : Prop :=
  first.ahead = tokens ++ last.ahead ∧ last.passed = tokens.reverse ++ first.passed

/-- A cursor is what it has passed and what it has ahead. -/
theorem eq_of_passed_of_ahead (passed : first.passed = last.passed)
    (ahead : first.ahead = last.ahead) : first = last := by
  rcases first with ⟨_, _, _, _⟩
  rcases last with ⟨_, _, _, _⟩
  simp only [Cursor.ahead, List.cons.injEq] at passed ahead
  obtain ⟨current, later⟩ := ahead
  subst passed current later
  rfl

/-- The lookahead is the token that moving on would bring under the cursor,
also on the last token. -/
theorem lookahead_eq_current_advance (cursor : Cursor) :
    cursor.lookahead = cursor.advance.current := by
  rcases cursor with ⟨_, _, _ | ⟨_, _⟩, _⟩ <;> rfl

/-- Moving on passes over the current token, unless it is the last one. -/
theorem passes_advance_of_later_ne_nil {cursor : Cursor} (more : cursor.later ≠ []) :
    cursor.Passes [cursor.current] cursor.advance := by
  rcases cursor with ⟨_, _, _ | ⟨_, _⟩, _⟩
  · exact absurd rfl more
  · exact ⟨rfl, rfl⟩

/-- Moving on from a token that is no stop passes over it. -/
theorem passes_advance {cursor : Cursor} (noStop : cursor.current.kind ≠ .stop) :
    cursor.Passes [cursor.current] cursor.advance :=
  passes_advance_of_later_ne_nil (later_ne_nil noStop)

/-- A list that already ends in a stop is closed as it is. -/
theorem close_append_stop (tokens : List Token) : close (tokens ++ [.stop]) = tokens ++ [.stop] :=
  if_pos (by simp [Token.stop])

/-- At most a stop is added to a list. -/
theorem close_eq_or (tokens : List Token) :
    close tokens = tokens ∨ close tokens = tokens ++ [.stop] := by
  unfold close
  split
  · exact .inl rfl
  · exact .inr rfl

/-- Before the cursor on the first token lies the whole list. -/
theorem ahead_ofTokens (tokens : List Token) : (ofTokens tokens).ahead = close tokens := by
  unfold ofTokens
  split
  · next none => exact absurd none (close_ne_nil tokens)
  · next found => exact found.symm

namespace Passes

theorem refl (cursor : Cursor) : cursor.Passes [] cursor := ⟨rfl, rfl⟩

theorem trans (early : first.Passes before middle) (late : middle.Passes after last) :
    first.Passes (before ++ after) last := by
  constructor
  · rw [early.1, late.1, List.append_assoc]
  · rw [late.2, early.2, List.reverse_append, List.append_assoc]

/-- From a given cursor the tokens passed over determine where the passage ends. -/
theorem unique (one : first.Passes tokens middle) (other : first.Passes tokens last) :
    middle = last :=
  eq_of_passed_of_ahead (one.2.trans other.2.symm)
    (List.append_cancel_left (one.1.symm.trans other.1))

/-- A passage over no tokens stays where it is. -/
theorem eq_of_nil (passage : first.Passes [] last) : last = first :=
  passage.unique (refl first)

/-- A passage over some tokens starts at the first of them and moves on. -/
theorem of_cons {token : Token} (passage : first.Passes (token :: tokens) last) :
    first.current = token ∧ first.advance.Passes tokens last := by
  obtain ⟨ahead, passed⟩ := passage
  rcases first with ⟨_, _, _ | ⟨_, _⟩, _⟩
  · simp [Cursor.ahead] at ahead
  · simp only [Cursor.ahead, List.cons_append, List.cons.injEq] at ahead
    refine ⟨ahead.1, ahead.2, ?_⟩
    simp only [passed, advance, List.reverse_cons, List.append_assoc, ahead.1]
    rfl

/-- A passage over two lists in a row stops between them. -/
theorem of_append (passage : first.Passes (before ++ after) last) :
    ∃ middle, first.Passes before middle ∧ middle.Passes after last := by
  induction before generalizing first with
  | nil => exact ⟨first, refl first, passage⟩
  | cons token before ih =>
      obtain ⟨current, rest⟩ := of_cons passage
      have more : first.later ≠ [] := by
        intro none
        have ahead := passage.1
        simp [Cursor.ahead, none] at ahead
      obtain ⟨middle, early, late⟩ := ih rest
      refine ⟨middle, ?_, late⟩
      rw [← current]
      exact (passes_advance_of_later_ne_nil more).trans early

/-- Whatever lies ahead can be passed over, except for all of it. -/
theorem exists_of_ahead (ahead : first.ahead = before ++ after) (more : after ≠ []) :
    ∃ last, first.Passes before last ∧ last.ahead = after := by
  induction before generalizing first with
  | nil => exact ⟨first, refl first, ahead⟩
  | cons token before ih =>
      simp only [Cursor.ahead, List.cons_append, List.cons.injEq] at ahead
      obtain ⟨rfl, later⟩ := ahead
      have step := passes_advance_of_later_ne_nil (show first.later ≠ [] by simp [later, more])
      have beyond : first.later = first.advance.ahead := (List.cons.inj step.1).2
      obtain ⟨last, passage, reached⟩ := ih (beyond.symm.trans later)
      exact ⟨last, step.trans passage, reached⟩

/-- Two passages over the same tokens start at the same kind of token when they stop
at the same kind. -/
theorem kind_current_eq {other place : Cursor} (one : first.Passes tokens last)
    (another : other.Passes tokens place) (kind : place.current.kind = last.current.kind) :
    other.current.kind = first.current.kind := by
  cases tokens with
  | nil => rw [← one.eq_of_nil, ← another.eq_of_nil, kind]
  | cons => rw [one.of_cons.1, another.of_cons.1]

/-- A passage changes no token. -/
theorem tokens_eq (passage : first.Passes tokens last) : last.tokens = first.tokens := by
  simp [Cursor.tokens, passage.1, passage.2]

/-- A passage moves the cursor by the number of tokens passed over. -/
theorem position_eq (passage : first.Passes tokens last) :
    last.position = first.position + tokens.length := by
  simp [position, passage.2, Nat.add_comm]

/-- A passage never moves the cursor back. -/
theorem position_le (passage : first.Passes tokens last) : first.position ≤ last.position := by
  rw [passage.position_eq]
  exact Nat.le_add_right _ _

/-- What is passed over from the start of a list is a front of it. -/
theorem prefix_of_ofTokens {words : List Token} (passage : (ofTokens tokens).Passes words last) :
    words <+: tokens := by
  have ahead := passage.1
  rw [ahead_ofTokens] at ahead
  rcases close_eq_or tokens with same | longer
  · exact ⟨last.ahead, by rw [← ahead, same]⟩
  · -- A passage leaves one token at least, so the stop that was added is not passed over.
    rw [longer] at ahead
    have within : words <+: tokens ++ [.stop] := ⟨last.ahead, ahead.symm⟩
    rcases List.prefix_concat_iff.1 within with whole | shorter
    · rw [whole] at ahead
      simp [Cursor.ahead] at ahead
    · exact shorter

/-- The front is as long as the position that is reached. -/
theorem take_position {words : List Token} (passage : (ofTokens tokens).Passes words last) :
    tokens.take last.position = words := by
  rw [passage.position_eq, position_ofTokens, Nat.zero_add]
  exact (List.prefix_iff_eq_take.1 passage.prefix_of_ofTokens).symm

end Passes

theorem drop_position_tokens (cursor : Cursor) :
    cursor.tokens.drop cursor.position = cursor.ahead := by
  rw [Cursor.tokens, position, ← List.length_reverse, List.drop_left]

/-- A passage is over the tokens between the two positions. -/
theorem Passes.upTo_eq (passage : first.Passes tokens last) : first.upTo last = tokens := by
  rw [upTo, drop_position_tokens, passage.position_eq, Nat.add_sub_cancel_left, passage.1,
    List.take_left]

/-- In the same list of tokens there is a passage to every later position. -/
theorem passes_upTo (same : last.tokens = first.tokens) (later : first.position ≤ last.position) :
    first.Passes (first.upTo last) last := by
  have split : first.passed.reverse ++ first.ahead = last.passed.reverse ++ last.ahead := same.symm
  obtain ⟨between, passed, ahead⟩ : ∃ between, last.passed.reverse =
      first.passed.reverse ++ between ∧ first.ahead = between ++ last.ahead := by
    rcases List.append_eq_append_iff.1 split with ⟨between, longer, ahead⟩ | ⟨rest, shorter, ahead⟩
    · exact ⟨between, longer, ahead⟩
    · -- The first cursor has passed no more than the last, so nothing is left over.
      have lengths := congrArg List.length shorter
      simp only [List.length_append, List.length_reverse, position] at lengths later
      obtain rfl : rest = [] := List.eq_nil_of_length_eq_zero (by omega)
      exact ⟨[], by simpa using shorter.symm, by simpa using ahead.symm⟩
  have passage : first.Passes between last := by
    refine ⟨ahead, ?_⟩
    have turned := congrArg List.reverse passed
    simpa using turned
  rwa [passage.upTo_eq]

end TermText.Cursor
