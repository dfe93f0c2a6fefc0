/-
# Matching brackets

No rule counts brackets, and still each stops where a count would make it stop: a
compound ends behind the bracket that closes its first one, and its arguments end in
front of it. That is so because what is spelled is balanced, and nothing but the
spelling of a term is passed over on the way.
-/

import TermText.Proofs.Room
import TermText.Proofs.Steps

namespace TermText

namespace Cursor

variable {first last : Cursor} {tokens : List Token} {place : Nat}

/-- Up to a place that a passage comes by, its front lies. -/
theorem Passes.extract_eq (passage : first.Passes tokens last) (within : place ≤ last.position) :
    first.tokens.extract first.position place = tokens.take (place - first.position) := by
  have moved := passage.position_eq
  rw [List.extract_eq_take_drop, drop_position_tokens, passage.1,
    List.take_append_of_le_length (by omega)]

/-- At a place that a passage comes by, one of its tokens stands. -/
theorem Passes.getElem?_tokens_eq (passage : first.Passes tokens last)
    (later : first.position ≤ place) (within : place < last.position) :
    first.tokens[place]? = tokens[place - first.position]? := by
  have moved := passage.position_eq
  calc
    first.tokens[place]? = first.ahead[place - first.position]? := by
      rw [← drop_position_tokens, List.getElem?_drop, Nat.add_sub_cancel' later]
    _ = tokens[place - first.position]? := by
      rw [passage.1, List.getElem?_append_left (by omega)]

/-- The places from the cursor on where a closing bracket closes none that is opened between
the cursor and that place. -/
def unmatched (cursor : Cursor) : Set Nat :=
  {place | cursor.position ≤ place ∧ cursor.tokens[place]?.map Token.kind = some .closing ∧
    Token.balance (cursor.tokens.extract cursor.position place) = 0}

/-- A passage over balanced tokens to a closing bracket leads to the first place where such a
bracket is unmatched. -/
theorem Passes.isLeast_unmatched (passage : first.Passes tokens last)
    (balanced : Token.Balanced tokens) (closed : last.current.kind = .closing) :
    IsLeast first.unmatched last.position := by
  have moved := passage.position_eq
  constructor
  · refine ⟨by omega, ?_, ?_⟩
    · rw [← passage.tokens_eq, (Cursor.getElem?_tokens last).1, Option.map_some, closed]
    · rw [passage.extract_eq le_rfl, moved, Nat.add_sub_cancel_left, List.take_length,
        balanced.even]
  · rintro place ⟨later, closing, even⟩
    by_contra! early
    rw [passage.getElem?_tokens_eq later early, Option.map_eq_some_iff] at closing
    obtain ⟨right, found, kind⟩ := closing
    have isFront : tokens.take (place - first.position) ++ [right] <+: tokens := by
      have longer := List.take_prefix (place - first.position + 1) tokens
      rwa [List.take_add_one, found] at longer
    have opened := balanced.balance_pos_of_closing kind isFront
    rw [← passage.extract_eq early.le] at opened
    omega

end Cursor

namespace Parser

variable {limit : Number} {level : Int} {cursor last : Cursor}

/-- A compound between two cursors ends at its matching bracket: there its brackets have
closed one another, and behind the first of them that was never so before. It has as many
compounds as opening brackets were passed over, and as many nodes as names. -/
structure EndsAtMatch (cursor : Cursor) (term : Term) (last : Cursor) : Prop where
  same : last.tokens = cursor.tokens
  even : Token.balance (cursor.upTo last) = 0
  inside : ∀ place, cursor.position + 2 ≤ place → place < last.position →
    0 < Token.balance (cursor.tokens.extract cursor.position place)
  compounds : term.preorder.countP Term.Node.isCompound =
    Token.countOf .opening (cursor.upTo last)
  nodes : term.preorder.length = Token.countOf .atom (cursor.upTo last)

theorem Recognises.endsAtMatch {term : Term} (recognised : Recognises limit level cursor term last)
    (isCompound : term.IsCompound) : EndsAtMatch cursor term last where
  same := recognised.same
  even := recognised.spelled.balanced.even
  inside := by
    intro place late early
    have passage := recognised.passes
    have moved := passage.position_eq
    rw [passage.extract_eq early.le]
    apply recognised.spelled.balance_pos isCompound (List.take_prefix _ _)
    · rw [List.length_take]
      omega
    · rw [List.length_take]
      omega
  compounds := recognised.spelled.count_preorder.2
  nodes := recognised.spelled.count_preorder.1

/-- Arguments end in front of the first closing bracket that is unmatched. -/
theorem isLeast_unmatched_of_arguments {terms : List Term} {notes : List Note}
    (returned : arguments limit level cursor = .returned terms last notes) :
    last.tokens = cursor.tokens ∧ IsLeast cursor.unmatched last.position := by
  obtain ⟨tokens, spelled, passage, closed⟩ := spelled_of_arguments returned
  exact ⟨passage.tokens_eq, passage.isLeast_unmatched spelled.balanced closed⟩

/-- The rules stop where brackets match, on a stack or not. A compound that is returned from
a cursor ends behind the bracket that closes its first one, and its size is that of the
tokens passed over. Arguments end in front of the first closing bracket that none opened
since the cursor is there for. -/
theorem stops_at_matching_bracket (stack : Stack) (limit : Number) (level : Int)
    (cursor : Cursor) :
    (∀ rule : Number → Int → Cursor → Outcome Term, rule = expr ∨ rule = onStack stack expr →
      ∀ term last notes, rule limit level cursor = .returned term last notes →
        term.IsCompound → EndsAtMatch cursor term last) ∧
    (∀ rule : Number → Int → Cursor → Outcome (List Term),
      rule = arguments ∨ rule = onStack stack arguments →
      ∀ terms last notes, rule limit level cursor = .returned terms last notes →
        last.tokens = cursor.tokens ∧ IsLeast cursor.unmatched last.position) := by
  constructor
  · intro rule either term last notes returned isCompound
    have read := measured_expr.eq_of_run either returned
    exact (recognises_of_expr read).endsAtMatch isCompound
  · intro rule either terms last notes returned
    have read := measured_arguments.eq_of_run either returned
    exact isLeast_unmatched_of_arguments read

/-- The cursor on the first of the tokens of `F(G(A,)))`, with a stop before the last bracket. -/
def atNested : Cursor :=
  .ofTokens [⟨.atom, ['F']⟩, ⟨.opening, ['(']⟩, ⟨.atom, ['G']⟩, ⟨.opening, ['(']⟩, ⟨.atom, ['A']⟩,
    ⟨.separator, [',']⟩, ⟨.closing, [')']⟩, ⟨.closing, [')']⟩, .stop, ⟨.closing, [')']⟩]

/-- `F(G(A,))` ends at its second closing bracket, and its arguments in front of it. -/
theorem stops_at_matching_bracket_nested :
    let inner : Term := .compound ['G'] [.atom ['A']]
    (∃ last notes, onStack .standard expr (.whole 1) (-1) atNested =
        .returned (.compound ['F'] [inner]) last notes ∧
      (Term.compound ['F'] [inner]).IsCompound ∧
      EndsAtMatch atNested (.compound ['F'] [inner]) last) ∧
    ∃ last notes, onStack .standard arguments (.whole 1) 0 atNested.advance.advance =
        .returned [inner] last notes ∧
      IsLeast atNested.advance.advance.unmatched last.position := by
  intro inner
  constructor
  · have read : (onStack .standard expr (.whole 1) (-1) atNested).result =
        .ok (.compound ['F'] [inner]) := by
      cbv
    obtain ⟨last, notes, returned⟩ := Outcome.exists_returned read
    have matched := (stops_at_matching_bracket .standard (.whole 1) (-1) atNested).1
      _ (.inr rfl) _ _ _ returned trivial
    exact ⟨last, notes, returned, trivial, matched⟩
  · have read : (onStack .standard arguments (.whole 1) 0 atNested.advance.advance).result =
        .ok [inner] := by
      cbv
    obtain ⟨last, notes, returned⟩ := Outcome.exists_returned read
    have matched := (stops_at_matching_bracket .standard (.whole 1) 0 _).2
      _ (.inr rfl) _ _ _ returned
    exact ⟨last, notes, returned, matched.2⟩

end Parser

end TermText
