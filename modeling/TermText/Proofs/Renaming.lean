/-
# The choice of characters

Nothing depends on which characters a dialect uses. Let the characters be renamed
by a permutation, in a text and in its dialect alike: then the tokens carry the
renamed characters, the reader stops at the same place with the term of the renamed
names or with the same failure, and the notation of a term is renamed as well. A
reading compares kinds of tokens only, so renaming what they carry leaves every
step of it a step of the same reading.
-/

import TermText.Parser
import TermText.Proofs.Reading
import TermText.Proofs.Scanning

namespace TermText

variable (π : Equiv.Perm Char)

/-! ## Renaming characters -/

/-- The dialect with its four characters renamed, under the same limit. -/
def Dialect.rename (dialect : Dialect) : Dialect where
  separator := π dialect.separator
  opening := π dialect.opening
  closing := π dialect.closing
  marker := π dialect.marker
  limit := dialect.limit
  distinct := dialect.distinct.map π.injective
  positive := dialect.positive
  bounded := dialect.bounded

section

variable (dialect : Dialect)

@[simp] theorem Dialect.separator_rename : (dialect.rename π).separator = π dialect.separator := rfl

@[simp] theorem Dialect.opening_rename : (dialect.rename π).opening = π dialect.opening := rfl

@[simp] theorem Dialect.closing_rename : (dialect.rename π).closing = π dialect.closing := rfl

@[simp] theorem Dialect.marker_rename : (dialect.rename π).marker = π dialect.marker := rfl

@[simp] theorem Dialect.limit_rename : (dialect.rename π).limit = dialect.limit := rfl

end

/-- The token of the same kind with what it carries renamed. -/
def Token.rename (token : Token) : Token := ⟨token.kind, token.text.map π⟩

@[simp] theorem Token.kind_rename (token : Token) : (token.rename π).kind = token.kind := rfl

namespace Term

mutual
/-- The term with all its names renamed. -/
def rename : Term → Term
  | .atom name => .atom (name.map π)
  | .compound operator arguments => .compound (operator.map π) (renameAll arguments)

def renameAll : List Term → List Term
  | [] => []
  | term :: rest => term.rename :: renameAll rest
end

end Term

/-- The same place among the renamed tokens. -/
def Cursor.rename (cursor : Cursor) : Cursor where
  passed := cursor.passed.map (Token.rename π)
  current := cursor.current.rename π
  later := cursor.later.map (Token.rename π)
  closed := by
    have closed := cursor.closed
    simpa only [← List.map_cons, List.getLast_map, Token.kind_rename] using closed

/-- The same report on the renamed text. -/
def Note.rename : Note → Note
  | .tokenized characters tokens => .tokenized characters tokens
  | .trace label current lookahead => .trace label (current.rename π) (lookahead.rename π)
  | .rejected text failure => .rejected (text.map π) failure

/-- The outcome on renamed tokens, where values are renamed by `form`. -/
def Outcome.rename {α : Type} (form : α → α) : Outcome α → Outcome α
  | .returned value cursor notes =>
      .returned (form value) (cursor.rename π) (notes.map (Note.rename π))
  | .failed failure cursor notes => .failed failure (cursor.rename π) (notes.map (Note.rename π))

/-- A reading of renamed tokens. -/
def Parser.Reading.rename : Parser.Reading → Parser.Reading
  | .term outcome => .term (outcome.rename π (Term.rename π))
  | .arguments outcome => .arguments (outcome.rename π (Term.renameAll π))

variable {π}

/-! ## Tokens -/

namespace Token

variable {dialect : Dialect}

theorem punctuationKind?_rename (c : Char) :
    punctuationKind? (dialect.rename π) (π c) = punctuationKind? dialect c := by
  simp [punctuationKind?]

theorem closeName_map (name : Text) :
    closeName (name.map π) = (closeName name).map (rename π) := by
  cases name with
  | nil => rfl
  | cons => rfl

theorem scanFrom_rename (collected text : Text) :
    scanFrom (dialect.rename π) (collected.map π) (text.map π) =
      (scanFrom dialect collected text).map (rename π) := by
  induction text generalizing collected with
  | nil =>
      rw [List.map_nil, scanFrom, scanFrom, List.map_append, closeName_map]
      rfl
  | cons c rest ih =>
      rw [List.map_cons, scanFrom, scanFrom, punctuationKind?_rename]
      have fresh := ih []
      rw [List.map_nil] at fresh
      cases punctuationKind? dialect c with
      | some kind => simp [closeName_map, fresh, rename]
      | none =>
          by_cases mark : c = dialect.marker
          · simp [mark, closeName_map, ← fresh]
          · have longer := ih (collected ++ [c])
            simp [mark, ← longer]

/-- The tokens of a renamed text are the renamed tokens. -/
theorem ofText_rename (dialect : Dialect) (text : Text) :
    ofText (dialect.rename π) (text.map π) = (ofText dialect text).map (rename π) := by
  simpa only [ofText_eq_scanFrom, List.map_nil] using scanFrom_rename [] text

end Token

/-! ## Cursors -/

namespace Cursor

theorem current_rename (cursor : Cursor) :
    (cursor.rename π).current = cursor.current.rename π := rfl

theorem advance_rename (cursor : Cursor) :
    (cursor.rename π).advance = cursor.advance.rename π := by
  rcases cursor with ⟨_, _, _ | ⟨_, _⟩, _⟩
  · rfl
  · rfl

theorem lookahead_rename (cursor : Cursor) :
    (cursor.rename π).lookahead = cursor.lookahead.rename π := by
  rw [lookahead_eq_current_advance, advance_rename, current_rename,
    lookahead_eq_current_advance]

theorem close_rename (tokens : List Token) :
    close (tokens.map (Token.rename π)) = (close tokens).map (Token.rename π) := by
  have last : (tokens.map (Token.rename π)).getLast?.map Token.kind =
      tokens.getLast?.map Token.kind := by
    simp [List.getLast?_map, Function.comp_def]
  rw [close, close, last]
  split
  · rfl
  · simp [Token.rename, Token.stop]

theorem passed_ofTokens (tokens : List Token) : (ofTokens tokens).passed = [] :=
  List.eq_nil_of_length_eq_zero (position_ofTokens tokens)

theorem ofTokens_rename (tokens : List Token) :
    ofTokens (tokens.map (Token.rename π)) = (ofTokens tokens).rename π := by
  apply eq_of_passed_of_ahead
  · rw [passed_ofTokens, rename, passed_ofTokens, List.map_nil]
  · rw [ahead_ofTokens, close_rename, ← ahead_ofTokens]
    rfl

theorem tokens_rename (cursor : Cursor) :
    (cursor.rename π).tokens = cursor.tokens.map (Token.rename π) := by
  simp [tokens, ahead, rename]

theorem position_rename (cursor : Cursor) : (cursor.rename π).position = cursor.position :=
  List.length_map _

theorem upTo_rename (first last : Cursor) :
    (first.rename π).upTo (last.rename π) = (first.upTo last).map (Token.rename π) := by
  simp only [upTo, tokens_rename, position_rename, List.map_take, List.map_drop]

end Cursor

/-- Renamed tokens have the same brackets. -/
theorem Token.balance_map_rename (tokens : List Token) :
    Token.balance (tokens.map (Token.rename π)) = Token.balance tokens := by
  simp [balance, countOf, List.countP_map, Function.comp_def]

/-! ## Readings -/

namespace Parser

variable {limit : Number} {level : Int} {cursor : Cursor}

theorem kind_lookahead_rename (cursor : Cursor) :
    (cursor.rename π).lookahead.kind = cursor.lookahead.kind := by
  rw [cursor.lookahead_rename, Token.kind_rename]

theorem AtOperator.rename (operator : AtOperator cursor) : AtOperator (cursor.rename π) :=
  ⟨operator.1, (kind_lookahead_rename cursor).trans operator.2⟩

theorem unseparated_rename {α : Type} (cursor : Cursor) (form : α → α) :
    (unseparated cursor).rename π form = unseparated (cursor.rename π) := by
  rw [unseparated, unseparated, Note.seen, Note.seen, Cursor.lookahead_rename]
  rfl

/-- Every step of a reading is a step of the reading of the renamed tokens. -/
theorem Reads.rename {reading : Reading} (reads : Reads limit level cursor reading) :
    Reads limit level (cursor.rename π) (reading.rename π) := by
  induction reads with
  | @atom level cursor name alone =>
      have step : Reads limit level (cursor.rename π) _ :=
        .atom name (by rwa [kind_lookahead_rename])
      rwa [cursor.advance_rename] at step
  | noAtom noName alone => exact .noAtom noName (by rwa [kind_lookahead_rename])
  | noOperator noName bracket => exact .noOperator noName (by rwa [kind_lookahead_rename])
  | tooDeep operator reached => exact .tooDeep operator.rename reached
  | compound operator below inner closed ih =>
      rw [← Cursor.advance_rename, ← Cursor.advance_rename] at ih
      have step := Reads.compound operator.rename below ih closed
      rwa [Cursor.advance_rename] at step
  | badArguments operator below inner ih =>
      rw [← Cursor.advance_rename, ← Cursor.advance_rename] at ih
      exact .badArguments operator.rename below ih
  | none closed => exact .none closed
  | badArgument noClosing first ih => exact .badArgument noClosing ih
  | one noClosing first closed ih => exact .one noClosing ih closed
  | @more level cursor next term outcome noClosing first separator rest ihFirst ihRest =>
      rw [← Cursor.advance_rename] at ihRest
      have step : Reads limit level (cursor.rename π) (.arguments
          ((outcome.rename π (Term.renameAll π)).map (term.rename π :: ·))) :=
        .more noClosing ihFirst separator ihRest
      cases outcome with
      | returned => exact step
      | failed => exact step
  | @unseparated level cursor next term noClosing first noSeparator noEnd ih =>
      have step : Reads limit level (cursor.rename π)
          (.arguments (Parser.unseparated (next.rename π))) :=
        .unseparated noClosing ih noSeparator noEnd
      rwa [← unseparated_rename next (Term.renameAll π)] at step

/-- The rule for terms comes to the same on renamed tokens. -/
theorem expr_rename (limit : Number) (level : Int) (cursor : Cursor) :
    expr limit level (cursor.rename π) =
      (expr limit level cursor).rename π (Term.rename π) :=
  (reads_expr limit level cursor).rename.followed

theorem within_expr_rename (levels : Nat) (limit : Number) (level : Int) (cursor : Cursor) :
    within levels expr limit level (cursor.rename π) =
      (within levels expr limit level cursor).rename π (Term.rename π) := by
  rw [within, within]
  split
  · exact expr_rename limit level cursor
  · rw [expr_rename]
    cases expr (.whole (level + levels)) level cursor with
    | returned => rfl
    | failed => rfl

/-- Renaming keeps the brackets, so as many notes can be made. -/
theorem notedWithin_rename {α : Type} (levels : Nat) (start : Cursor) (outcome : Outcome α)
    (form : α → α) :
    notedWithin levels (start.rename π) (outcome.rename π form) =
      (notedWithin levels start outcome).rename π form := by
  cases outcome with
  | returned => rfl
  | failed failure stopped notes =>
      simp only [Outcome.rename, notedWithin, Cursor.upTo_rename, Token.balance_map_rename,
        ne_eq, List.map_eq_nil_iff]
      split <;> rfl

theorem onStack_expr_rename (stack : Stack) (limit : Number) (level : Int) (cursor : Cursor) :
    onStack stack expr limit level (cursor.rename π) =
      (onStack stack expr limit level cursor).rename π (Term.rename π) := by
  rw [onStack, onStack, within_expr_rename, notedWithin_rename]

/-! ## Texts -/

variable {dialect : Dialect}

theorem start_rename (dialect : Dialect) (text : Text) :
    start (dialect.rename π) (text.map π) = (start dialect text).rename π := by
  rw [start, Token.ofText_rename, Cursor.ofTokens_rename, start]

theorem parseStrict_rename (stack : Stack) (dialect : Dialect) (text : Text) :
    parseStrict stack (dialect.rename π) (text.map π) =
      (parseStrict stack dialect text).rename π (Term.rename π) := by
  have count : tokenized (dialect.rename π) (text.map π) = tokenized dialect text := by
    rw [tokenized, tokenized, Token.ofText_rename, List.length_map, List.length_map]
  rw [parseStrict, parseStrict, start_rename, count]
  rw [Dialect.limit_rename, onStack_expr_rename]
  cases onStack stack expr dialect.limit 0 (start dialect text) with
  | returned => rfl
  | failed => rfl

/-- Reading a renamed text comes to the renamed outcome, down to the cursor and the notes. -/
theorem parse_rename (stack : Stack) (dialect : Dialect) (text : Text) :
    parse stack (dialect.rename π) (text.map π) =
      (parse stack dialect text).rename π (Term.rename π) := by
  rw [parse, parse, parseStrict_rename]
  cases parseStrict stack dialect text with
  | returned => rfl
  | failed => simp [Outcome.rename, Note.rename]

end Parser

/-! ## Notations -/

namespace Term

variable {dialect : Dialect}

theorem renderFurther_renameAll {terms : List Term}
    (each : ∀ term ∈ terms, (term.rename π).render (dialect.rename π) =
      (term.render dialect).map π) :
    renderFurther (dialect.rename π) (renameAll π terms) =
      (renderFurther dialect terms).map π := by
  induction terms with
  | nil => rfl
  | cons term rest ih =>
      have first := each term (by simp)
      have others := ih fun other member => each other (List.mem_cons_of_mem term member)
      simp [renameAll, renderFurther, first, others]

theorem renderArguments_renameAll {terms : List Term}
    (each : ∀ term ∈ terms, (term.rename π).render (dialect.rename π) =
      (term.render dialect).map π) :
    renderArguments (dialect.rename π) (renameAll π terms) =
      (renderArguments dialect terms).map π := by
  cases terms with
  | nil => rfl
  | cons term rest =>
      have first := each term (by simp)
      have others := renderFurther_renameAll fun other member =>
        each other (List.mem_cons_of_mem term member)
      simp [renameAll, renderArguments, first, others]

/-- The notation of a renamed term is the renamed notation. -/
theorem render_rename (dialect : Dialect) (term : Term) :
    (term.rename π).render (dialect.rename π) = (term.render dialect).map π := by
  induction term with
  | atom name => rfl
  | compound operator arguments ih =>
      simp [rename, render, renderArguments_renameAll ih]

end Term

/-- Whatever permutation renames the characters of a dialect and of all texts, the
tokens of a text carry the renamed characters; a text is read exactly when the
original is, as the term of the renamed names, and fails for the same reason; and
the notation of a term is the renamed notation. -/
theorem indifferent_rename (π : Equiv.Perm Char) (dialect : Dialect) :
    (∀ text, Token.ofText (dialect.rename π) (text.map π) =
      (Token.ofText dialect text).map (Token.rename π)) ∧
    (∀ stack text, (Parser.parse stack (dialect.rename π) (text.map π)).result =
      (Parser.parse stack dialect text).result.map (Term.rename π)) ∧
    (∀ term : Term, (term.rename π).render (dialect.rename π) =
      (term.render dialect).map π) := by
  refine ⟨Token.ofText_rename dialect, fun stack text => ?_, Term.render_rename dialect⟩
  rw [Parser.parse_rename]
  cases Parser.parse stack dialect text with
  | returned => rfl
  | failed => rfl

/-- Commas and semicolons change places, and so do `A` and `B`. -/
def swapped : Equiv.Perm Char := Equiv.swap ',' ';' * Equiv.swap 'A' 'B'

/-- With the characters swapped `F(B;C)` has the tokens of `F(A,C)` with the other characters,
is read as the other term, and is the notation of it. -/
theorem indifferent_rename_swapped :
    Token.ofText (Dialect.standard.rename swapped) "F(B;C)".toList =
      (Token.ofText .standard "F(A,C)".toList).map (Token.rename swapped) ∧
    (Parser.parse .standard (Dialect.standard.rename swapped) "F(B;C)".toList).result =
      .ok (.compound ['F'] [.atom ['B'], .atom ['C']]) ∧
    (Term.compound ['F'] [.atom ['B'], .atom ['C']]).render (Dialect.standard.rename swapped) =
      "F(B;C)".toList := by
  have text : "F(A,C)".toList.map swapped = "F(B;C)".toList := by decide
  have term : (Term.compound ['F'] [.atom ['A'], .atom ['C']]).rename swapped =
      .compound ['F'] [.atom ['B'], .atom ['C']] := by
    decide
  have read : (Parser.parse .standard .standard "F(A,C)".toList).result =
      .ok (.compound ['F'] [.atom ['A'], .atom ['C']]) := by
    cbv
  obtain ⟨tokens, results, notations⟩ := indifferent_rename swapped .standard
  rw [← text, ← term]
  refine ⟨tokens _, ?_, notations _⟩
  rw [results, read]
  rfl

end TermText
