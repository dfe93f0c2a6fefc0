/-
# The normal form of a notation

Reading a text and writing the term gives the text back up to the separators
that stand in front of a closing bracket: what is written is what the tokens up
to the end of the term carry, each once and in order, without these separators.
So a text whose tokens all belong to the term is its own normal form exactly
when no separator stands in front of a closing bracket in it.
-/

import TermText.Proofs.Concatenation
import TermText.Proofs.RoundTrip

namespace TermText

namespace Token

variable {dialect : Dialect} {text : Text} {token : Token} {tokens words rest : List Token}

/-- Whether the first token is kept in front of the second: it is no separator, or
the second is no closing bracket. -/
def Kept (first second : Token) : Prop := ¬ (first.kind = .separator ∧ second.kind = .closing)

instance (first second : Token) : Decidable (Kept first second) :=
  inferInstanceAs (Decidable (¬ _))

/-- The tokens without the separators that have a closing bracket right after them. -/
def withoutTrailing : List Token → List Token
  | [] => []
  | [token] => [token]
  | first :: second :: rest =>
      if Kept first second then first :: withoutTrailing (second :: rest)
      else withoutTrailing (second :: rest)

theorem withoutTrailing_cons_of_kept (kept : ∀ next ∈ rest.head?, Kept token next) :
    withoutTrailing (token :: rest) = token :: withoutTrailing rest := by
  cases rest with
  | nil => rfl
  | cons next rest => exact if_pos (kept next (by simp))

theorem withoutTrailing_cons_of_kind_ne (noSeparator : token.kind ≠ .separator)
    (rest : List Token) : withoutTrailing (token :: rest) = token :: withoutTrailing rest :=
  withoutTrailing_cons_of_kept fun _ _ trailing => noSeparator trailing.1

theorem withoutTrailing_cons_of_not_kept {next : Token} (trailing : ¬ Kept token next) :
    withoutTrailing (token :: next :: rest) = withoutTrailing (next :: rest) :=
  if_neg trailing

/-- Leaving separators out never makes a list longer. -/
theorem length_withoutTrailing_le (tokens : List Token) :
    (withoutTrailing tokens).length ≤ tokens.length := by
  fun_induction withoutTrailing tokens with
  | case1 | case2 => rfl
  | case3 first second rest kept ih => exact Nat.succ_le_succ ih
  | case4 first second rest trailing ih => exact Nat.le_succ_of_le ih

theorem withoutTrailing_eq_self_iff (tokens : List Token) :
    withoutTrailing tokens = tokens ↔ tokens.IsChain Kept := by
  fun_induction withoutTrailing tokens with
  | case1 => simp
  | case2 => simp
  | case3 first second rest kept ih => simp [kept, ih]
  | case4 first second rest trailing ih =>
      have shorter := length_withoutTrailing_le (second :: rest)
      refine iff_of_false (fun same => ?_) fun chain => trailing chain.rel
      rw [same] at shorter
      simp at shorter

/-! ## Separators in a text -/

/-- A separator in front of a closing bracket in a text stays so among its tokens. -/
theorem notMem_infix_of_isChain (chain : (ofText dialect text).IsChain Kept) :
    ¬ [dialect.separator, dialect.closing] <:+: text := by
  rintro ⟨before, after, rfl⟩
  have ends : EndsName dialect (dialect.separator :: dialect.closing :: after) :=
    endsName_punctuation (by simp [Dialect.punctuation]) _
  have cut := ofText_append_of_endsName ends before
  rw [ofText_eq_scanFrom dialect (_ :: _), scanFrom_punctuation punctuationKind?_separator,
    scanFrom_punctuation punctuationKind?_closing] at cut
  rw [List.append_assoc, List.cons_append, List.cons_append, List.nil_append, cut] at chain
  exact chain.right_of_append.rel ⟨rfl, rfl⟩

theorem carries_pair {separator closing : Token} (first : separator.Carries dialect)
    (second : closing.Carries dialect) (trailing : ¬ Kept separator closing) :
    texts [separator, closing] = [dialect.separator, dialect.closing] := by
  rw [Kept, not_not] at trailing
  simp_all [Carries]

/-- Tokens next to one another carry characters next to one another, where no
marker is between them. -/
theorem isChain_of_notMem_infix (unmarked : dialect.marker ∉ text)
    (none : ¬ [dialect.separator, dialect.closing] <:+: text) :
    (ofText dialect text).IsChain Kept := by
  refine (List.isChain_isInfix _).imp fun first second next => ?_
  by_contra trailing
  have pair := carries_pair (carries_of_mem_ofText (next.subset (by simp)))
    (carries_of_mem_ofText (next.subset (by simp))) trailing
  obtain ⟨before, after, split⟩ := next
  refine none ⟨texts before, texts after, ?_⟩
  rw [← pair, ← texts_append, ← texts_append, split, texts_ofText_of_notMem unmarked]

end Token

/-! ## What a spelling writes -/

theorem Term.argumentTokens_cons_of_ne_nil (dialect : Dialect) (term : Term) {rest : List Term}
    (more : rest ≠ []) :
    argumentTokens dialect (term :: rest) =
      term.tokens dialect ++ ⟨.separator, [dialect.separator]⟩ :: argumentTokens dialect rest := by
  cases rest with
  | nil => exact absurd rfl more
  | cons => rfl

/-- Arguments are none at all, or their spelling starts with a name. -/
theorem Spells.nil_or_head_atom {tokens : List Token} {terms : List Term}
    (spelled : Spells tokens (.arguments terms)) :
    (tokens = [] ∧ terms = []) ∨
      (terms ≠ [] ∧ ∃ name rest, tokens = name :: rest ∧ name.kind = .atom) := by
  cases spelled with
  | none => exact .inl ⟨rfl, rfl⟩
  | one first => exact .inr ⟨List.cons_ne_nil _ _, first.head_atom⟩
  | more first =>
      obtain ⟨name, rest, rfl, kind⟩ := first.head_atom
      exact .inr ⟨List.cons_ne_nil _ _, name, _, rfl, kind⟩

/-- What a spelling comes to without its trailing separators, in front of any
tokens: the tokens of the term; or those of the arguments, in front of the
bracket that closes them. -/
def Phrase.Normalises (dialect : Dialect) (tokens : List Token) : Phrase → Prop
  | .term root => ∀ rest, Token.withoutTrailing (tokens ++ rest) =
      root.tokens dialect ++ Token.withoutTrailing rest
  | .arguments terms => ∀ right rest, right.kind = .closing →
      Token.withoutTrailing (tokens ++ right :: rest) =
        Term.argumentTokens dialect terms ++ right :: Token.withoutTrailing rest

theorem Spells.normalises {dialect : Dialect} {tokens : List Token} {phrase : Phrase}
    (spelled : Spells tokens phrase) (carries : ∀ token ∈ tokens, token.Carries dialect) :
    phrase.Normalises dialect tokens := by
  induction spelled with
  | @atom name kind =>
      intro rest
      rw [List.singleton_append, Token.withoutTrailing_cons_of_kind_ne (by simp [kind]),
        Term.tokens, ← kind, List.singleton_append]
  | @compound operator left right inner arguments name opening closing _ ih =>
      intro rest
      have within := ih (fun token member => carries token (by simp [member])) right rest closing
      have leftSame := Token.eq_of_carries (carries left (by simp)) opening
        Token.punctuationKind?_opening
      have rightSame := Token.eq_of_carries (carries right (by simp)) closing
        Token.punctuationKind?_closing
      simp only [List.cons_append, List.append_assoc, List.nil_append]
      rw [Token.withoutTrailing_cons_of_kind_ne (by simp [name]),
        Token.withoutTrailing_cons_of_kind_ne (by simp [opening]), within, leftSame, rightSame]
      simp [Term.tokens, ← name]
  | none =>
      intro right rest closing
      rw [List.nil_append, Token.withoutTrailing_cons_of_kind_ne (by simp [closing])]
      rfl
  | @one tokens term _ ih =>
      intro right rest closing
      rw [ih carries, Token.withoutTrailing_cons_of_kind_ne (by simp [closing])]
      simp [Term.argumentTokens, Term.furtherTokens]
  | @more tokens others separator term terms _ kind spelled ihFirst ihRest =>
      intro right rest closing
      have first := ihFirst fun token member => carries token (by simp [member])
      have later := ihRest (fun token member => carries token (by simp [member])) right rest closing
      rw [List.append_assoc, first, List.cons_append]
      -- The separator is left out only where nothing stands between it and the bracket.
      rcases spelled.nil_or_head_atom with ⟨rfl, rfl⟩ | ⟨more, name, after, rfl, atom⟩
      · have trailing : ¬ Token.Kept separator right := fun kept => kept ⟨kind, closing⟩
        rw [List.nil_append, Token.withoutTrailing_cons_of_not_kept trailing,
          Token.withoutTrailing_cons_of_kind_ne (by simp [closing])]
        simp [Term.argumentTokens, Term.furtherTokens]
      · have same := Token.eq_of_carries (carries separator (by simp)) kind
          Token.punctuationKind?_separator
        rw [Token.withoutTrailing_cons_of_kept (by simp [Token.Kept, atom]), later, same,
          Term.argumentTokens_cons_of_ne_nil dialect term more, List.append_assoc,
          List.cons_append]

/-- A whole spelling comes to the tokens of its term. -/
theorem Spells.withoutTrailing_eq {dialect : Dialect} {tokens : List Token} {term : Term}
    (spelled : Spells tokens (.term term)) (carries : ∀ token ∈ tokens, token.Carries dialect) :
    Token.withoutTrailing tokens = term.tokens dialect := by
  have inFront := spelled.normalises carries []
  simpa [Token.withoutTrailing] using inFront

namespace Parser

variable {dialect : Dialect} {text : Text} {term : Term} {words : List Token}

/-- Where all tokens but the stop spell a term with names of the dialect, writing
the term gives the text back exactly when the tokens have no trailing separator. -/
theorem render_eq_self_iff (unmarked : dialect.marker ∉ text) (named : term.Named dialect)
    (normal : Token.withoutTrailing words = term.tokens dialect)
    (whole : Token.ofText dialect text = words ++ [.stop]) :
    term.render dialect = text ↔ (Token.ofText dialect text).IsChain Token.Kept := by
  have chained : (Token.ofText dialect text).IsChain Token.Kept ↔ words.IsChain Token.Kept := by
    rw [whole, List.isChain_append]
    simp [Token.Kept, Token.stop]
  rw [chained, ← Token.withoutTrailing_eq_self_iff, normal]
  constructor
  · rintro rfl
    rw [Token.ofText_render named] at whole
    exact List.append_cancel_right whole
  · intro same
    calc
      term.render dialect = Token.texts (words ++ [.stop]) := by
        rw [← term.texts_tokens, same]
        simp [Token.stop]
      _ = text := by rw [← whole, Token.texts_ofText_of_notMem unmarked]

/-- On any stack, writing the term that a text was read as gives what the consumed tokens carry,
without the separators right in front of a closing bracket. Where no marker was
in the text and all tokens but the stop were consumed, that is the text itself
exactly when no separator stands in front of a closing bracket in it. -/
theorem render_of_parse (stack : Stack) (dialect : Dialect) (text : Text) (term : Term)
    (read : (parse stack dialect text).result = .ok term) :
    term.render dialect = Token.texts (Token.withoutTrailing
      ((Token.ofText dialect text).take (parse stack dialect text).cursor.position)) ∧
    (dialect.marker ∉ text →
      (parse stack dialect text).cursor.position + 1 = (Token.ofText dialect text).length →
      (term.render dialect = text ↔ ¬ [dialect.separator, dialect.closing] <:+: text)) := by
  have recognised := (recognises_of_parse read).1
  have spelled := recognised.spelled
  rw [← recognised.passes.take_position] at spelled
  have carries : ∀ token ∈
      (Token.ofText dialect text).take (parse stack dialect text).cursor.position,
      token.Carries dialect := fun token member =>
    Token.carries_of_mem_ofText (List.mem_of_mem_take member)
  have normal := spelled.withoutTrailing_eq carries
  have named : term.Named dialect := spelled.named fun token member =>
    Token.isName_of_mem_ofText (List.mem_of_mem_take member)
  refine ⟨by rw [normal, term.texts_tokens], fun unmarked consumed => ?_⟩
  have whole : Token.ofText dialect text =
      (Token.ofText dialect text).take (parse stack dialect text).cursor.position ++ [.stop] := by
    have front : (Token.ofText dialect text).take (parse stack dialect text).cursor.position =
        (Token.ofText dialect text).dropLast := by
      rw [List.dropLast_eq_take, ← consumed, Nat.add_sub_cancel]
    rw [front]
    exact Token.ofText_eq_dropLast_append dialect text
  rw [render_eq_self_iff unmarked named normal whole]
  exact ⟨Token.notMem_infix_of_isChain, Token.isChain_of_notMem_infix unmarked⟩

/-- All of `F(A,)` is read, and it is not its own normal form. -/
theorem render_of_parse_trailingSeparator :
    (parse .standard oneLevel "F(A,)".toList).result = .ok (.compound ['F'] [.atom ['A']]) ∧
    oneLevel.marker ∉ "F(A,)".toList ∧
    (parse .standard oneLevel "F(A,)".toList).cursor.position + 1 =
      (Token.ofText oneLevel "F(A,)".toList).length ∧
    (Term.compound ['F'] [.atom ['A']]).render oneLevel = Token.texts (Token.withoutTrailing
      ((Token.ofText oneLevel "F(A,)".toList).take
        (parse .standard oneLevel "F(A,)".toList).cursor.position)) ∧
    ((Term.compound ['F'] [.atom ['A']]).render oneLevel = "F(A,)".toList ↔
      ¬ [oneLevel.separator, oneLevel.closing] <:+: "F(A,)".toList) := by
  have read : (parse .standard oneLevel "F(A,)".toList).result =
      .ok (.compound ['F'] [.atom ['A']]) := by
    cbv
  have unmarked : oneLevel.marker ∉ "F(A,)".toList := by decide
  have consumed : (parse .standard oneLevel "F(A,)".toList).cursor.position + 1 =
      (Token.ofText oneLevel "F(A,)".toList).length := by
    cbv
  obtain ⟨written, whole⟩ := render_of_parse .standard oneLevel _ _ read
  exact ⟨read, unmarked, consumed, written, whole unmarked consumed⟩

end Parser

end TermText
