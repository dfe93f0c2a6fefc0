/-
# Cursors

A place in a list of tokens whose last token is a stop: the tokens passed so
far, the token under the cursor and the tokens after it. A cursor only moves
forward and stays on the last token. Stops may also stand before the end;
the cursor walks over them like over any other token.
-/

import TermText.Token

namespace TermText

/-- A place in a list of tokens; `passed` is in reverse, nearest first. -/
structure Cursor where
  passed : List Token
  current : Token
  later : List Token
  closed : ((current :: later).getLast (List.cons_ne_nil _ _)).kind = .stop

namespace Cursor

/-- A list of tokens with a stop at its end, which is added only where it is missing. -/
def close (tokens : List Token) : List Token :=
  if (tokens.getLast?.map Token.kind) = some .stop then tokens else tokens ++ [.stop]

theorem close_ne_nil (tokens : List Token) : close tokens ≠ [] := by
  unfold close
  split
  · intro h
    simp_all
  · simp

theorem kind_getLast_close (tokens : List Token) :
    ((close tokens).getLast (close_ne_nil tokens)).kind = .stop := by
  unfold close
  split
  · next h =>
      rw [Option.map_eq_some_iff] at h
      obtain ⟨last, found, kind⟩ := h
      rw [List.getLast?_eq_some_getLast (by intro h; simp [h] at found)] at found
      rw [Option.some.inj found]
      exact kind
  · simp [Token.stop]

/-- The cursor on the first token of a list, closed by a stop. -/
def ofTokens (tokens : List Token) : Cursor :=
  match h : close tokens with
  | [] => absurd h (close_ne_nil tokens)
  | current :: later =>
      { passed := []
        current
        later
        closed := by simpa only [h] using kind_getLast_close tokens }

/-- The tokens from the cursor to the end. -/
def ahead (cursor : Cursor) : List Token := cursor.current :: cursor.later

/-- All the tokens, passed and to come. -/
def tokens (cursor : Cursor) : List Token := cursor.passed.reverse ++ cursor.ahead

/-- How many tokens have been passed. -/
def position (cursor : Cursor) : Nat := cursor.passed.length

/-- How many tokens there are. -/
def size (cursor : Cursor) : Nat := cursor.tokens.length

/-- The token after the current one; on the last token it is that token itself. -/
def lookahead (cursor : Cursor) : Token := cursor.later.head?.getD cursor.current

/-- The tokens from the position of one cursor to just before that of another. -/
def upTo (first last : Cursor) : List Token :=
  (first.tokens.drop first.position).take (last.position - first.position)

/-- Whether the current token is a stop. -/
def atEnd (cursor : Cursor) : Bool := cursor.current.kind == .stop

/-- The cursor one token further on, or the same cursor on the last token. -/
def advance (cursor : Cursor) : Cursor :=
  match cursor with
  | { later := [], .. } => cursor
  | { passed, current, later := next :: later, closed } =>
      { passed := current :: passed
        current := next
        later
        closed := by rwa [List.getLast_cons_cons] at closed }

/-- The form in which messages show a cursor. -/
def literal (cursor : Cursor) : String :=
  "TokenStream(pos=" ++ toString cursor.position ++ ", current=" ++ cursor.current.literal ++
    ", lookahead=" ++ cursor.lookahead.literal ++ ")"

/-- The list that a cursor was made from, with its stop, is the list it walks over. -/
theorem tokens_ofTokens (tokens : List Token) : (ofTokens tokens).tokens = close tokens := by
  unfold ofTokens
  split
  · next h => exact absurd h (close_ne_nil tokens)
  · next h => simp [Cursor.tokens, ahead, h]

@[simp] theorem position_ofTokens (tokens : List Token) : (ofTokens tokens).position = 0 := by
  unfold ofTokens
  split
  · next h => exact absurd h (close_ne_nil tokens)
  · rfl

/-- A token that is no stop is not the last one. -/
theorem later_ne_nil {cursor : Cursor} (h : cursor.current.kind ≠ .stop) : cursor.later ≠ [] := by
  intro none
  have closed := cursor.closed
  simp only [none, List.getLast_singleton] at closed
  exact h closed

/-- Moving on never leaves more tokens to come. -/
theorem length_later_advance_le (cursor : Cursor) :
    cursor.advance.later.length ≤ cursor.later.length := by
  unfold advance
  split <;> simp

/-- Moving on from a token that is no stop leaves fewer tokens to come. -/
theorem length_later_advance_lt {cursor : Cursor} (h : cursor.current.kind ≠ .stop) :
    cursor.advance.later.length < cursor.later.length := by
  have more := later_ne_nil h
  unfold advance
  split
  · simp_all
  · simp

end Cursor

end TermText
