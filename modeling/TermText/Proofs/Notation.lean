/-
# The tokens of a notation

Every term has a list of tokens that spells it: its names and the punctuation
that its notation puts between them. Cutting the notation of a term gives
these tokens back as soon as its names are names of the dialect, whatever text
follows, provided that this text cannot be taken for a continuation of the last
name. Conversely the tokens of any text have only names of the dialect, so a
term that a text spells has no others.
-/

import TermText.Grammar
import TermText.Proofs.Scanning
import TermText.Term.Readable
import TermText.Term.Render

namespace TermText

namespace Term

mutual
/-- The tokens of a term's notation, without a stop. -/
def tokens (dialect : Dialect) : Term → List Token
  | .atom name => [⟨.atom, name⟩]
  | .compound operator arguments =>
      ⟨.atom, operator⟩ :: ⟨.opening, [dialect.opening]⟩ :: argumentTokens dialect arguments ++
        [⟨.closing, [dialect.closing]⟩]

/-- The tokens of a list of arguments. -/
def argumentTokens (dialect : Dialect) : List Term → List Token
  | [] => []
  | term :: rest => term.tokens dialect ++ furtherTokens dialect rest

/-- The tokens of the arguments after the first, each with its separator. -/
def furtherTokens (dialect : Dialect) : List Term → List Token
  | [] => []
  | term :: rest =>
      ⟨.separator, [dialect.separator]⟩ :: term.tokens dialect ++ furtherTokens dialect rest
end

/-- Arguments are spelled by their tokens when each of them is. -/
theorem spells_argumentTokens {dialect : Dialect} {arguments : List Term}
    (each : ∀ term ∈ arguments, Spells (term.tokens dialect) (.term term)) :
    Spells (argumentTokens dialect arguments) (.arguments arguments) := by
  induction arguments with
  | nil => exact .none
  | cons term rest ih =>
      have first := each term (by simp)
      cases rest with
      | nil => simpa [argumentTokens, furtherTokens] using Spells.one first
      | cons next rest =>
          have others := ih fun other member => each other (List.mem_cons_of_mem _ member)
          exact .more first rfl others

/-- A term is spelled by its tokens, whatever its names are. -/
theorem spells_tokens (dialect : Dialect) (term : Term) :
    Spells (term.tokens dialect) (.term term) := by
  induction term with
  | atom name => exact .atom rfl
  | compound operator arguments ih => exact .compound rfl rfl rfl (spells_argumentTokens ih)

theorem texts_furtherTokens {dialect : Dialect} {terms : List Term}
    (each : ∀ term ∈ terms, Token.texts (term.tokens dialect) = term.render dialect) :
    Token.texts (furtherTokens dialect terms) = renderFurther dialect terms := by
  induction terms with
  | nil => rfl
  | cons term rest ih =>
      have first := each term (by simp)
      have others := ih fun other member => each other (List.mem_cons_of_mem term member)
      simp [furtherTokens, renderFurther, first, others]

theorem texts_argumentTokens {dialect : Dialect} {arguments : List Term}
    (each : ∀ term ∈ arguments, Token.texts (term.tokens dialect) = term.render dialect) :
    Token.texts (argumentTokens dialect arguments) = renderArguments dialect arguments := by
  cases arguments with
  | nil => rfl
  | cons term rest =>
      have first := each term (by simp)
      have others := texts_furtherTokens fun other member =>
        each other (List.mem_cons_of_mem term member)
      simp [argumentTokens, renderArguments, first, others]

/-- The notation of a term is what its tokens carry, whatever its names are. -/
theorem texts_tokens (dialect : Dialect) (term : Term) :
    Token.texts (term.tokens dialect) = term.render dialect := by
  induction term with
  | atom name => simp [tokens, render]
  | compound operator arguments ih =>
      simp [tokens, render, texts_argumentTokens ih]

/-- All of several terms have names of the dialect only when each of them has. -/
theorem AllNamed.of_mem {dialect : Dialect} {terms : List Term} {term : Term}
    (named : AllNamed dialect terms) (member : term ∈ terms) : term.Named dialect := by
  induction terms with
  | nil => cases member
  | cons first rest ih =>
      rcases List.mem_cons.1 member with rfl | later
      · exact named.1
      · exact ih named.2 later

end Term

namespace Token

variable {dialect : Dialect} {name tail : Text} {c : Char}

/-! ## Scanning what is written -/

/-- Whether a text cannot be taken for the continuation of a name. -/
def EndsName (dialect : Dialect) : Text → Prop
  | [] => True
  | c :: _ => c ∈ dialect.reserved

theorem endsName_punctuation (special : c ∈ dialect.punctuation) (rest : Text) :
    EndsName dialect (c :: rest) :=
  Dialect.mem_reserved_iff.2 (.inl special)

/-- Characters that are not reserved are collected. -/
theorem scanFrom_append (plain : ∀ c ∈ name, c ∉ dialect.reserved) (collected tail : Text) :
    scanFrom dialect collected (name ++ tail) = scanFrom dialect (collected ++ name) tail := by
  induction name generalizing collected with
  | nil => simp
  | cons c rest ih =>
      have ordinary := plain c (by simp)
      rw [Dialect.mem_reserved_iff, not_or] at ordinary
      rw [List.cons_append, scanFrom, punctuationKind?_eq_none_iff.2 ordinary.1]
      simp only [if_neg ordinary.2]
      rw [ih (fun d member => plain d (by simp [member])), List.append_assoc,
        List.singleton_append]

/-- What ends a name closes it and is then scanned from the start. -/
theorem scanFrom_of_endsName (ends : EndsName dialect tail) (collected : Text) :
    scanFrom dialect collected tail = closeName collected ++ scanFrom dialect [] tail := by
  cases tail with
  | nil => rfl
  | cons c rest =>
      rw [scanFrom, scanFrom]
      cases found : punctuationKind? dialect c with
      | some kind => simp [closeName]
      | none =>
          have mark : c = dialect.marker :=
            (Dialect.mem_reserved_iff.1 ends).resolve_left (punctuationKind?_eq_none_iff.1 found)
          simp [mark, closeName]

/-- A name in front of what ends it is a token. -/
theorem scanFrom_name (isName : dialect.IsName name) (ends : EndsName dialect tail) :
    scanFrom dialect [] (name ++ tail) = ⟨.atom, name⟩ :: scanFrom dialect [] tail := by
  rw [scanFrom_append isName.2, List.nil_append, scanFrom_of_endsName ends]
  cases name with
  | nil => exact absurd rfl isName.1
  | cons => rfl

/-- A punctuation character in front is a token. -/
theorem scanFrom_punctuation {kind : Kind} (found : punctuationKind? dialect c = some kind)
    (rest : Text) :
    scanFrom dialect [] (c :: rest) = ⟨kind, [c]⟩ :: scanFrom dialect [] rest := by
  rw [scanFrom, found]
  rfl

theorem punctuationKind?_separator :
    punctuationKind? dialect dialect.separator = some .separator :=
  if_pos rfl

theorem punctuationKind?_opening : punctuationKind? dialect dialect.opening = some .opening := by
  have distinct := dialect.distinct
  simp only [List.nodup_cons, List.mem_cons, List.not_mem_nil] at distinct
  simp only [punctuationKind?]
  grind

theorem punctuationKind?_closing : punctuationKind? dialect dialect.closing = some .closing := by
  have distinct := dialect.distinct
  simp only [List.nodup_cons, List.mem_cons, List.not_mem_nil] at distinct
  simp only [punctuationKind?]
  grind

/-- After an argument comes a separator or whatever comes after the arguments. -/
theorem endsName_renderFurther (ends : EndsName dialect tail) (further : List Term) :
    EndsName dialect (Term.renderFurther dialect further ++ tail) := by
  cases further with
  | nil => exact ends
  | cons term rest => exact endsName_punctuation (by simp [Dialect.punctuation]) _

/-- Whether a term's notation is cut into the term's tokens, in front of every
text that cannot continue its last name. -/
def IsCut (dialect : Dialect) (term : Term) : Prop :=
  ∀ tail, EndsName dialect tail →
    scanFrom dialect [] (term.render dialect ++ tail) =
      term.tokens dialect ++ scanFrom dialect [] tail

theorem scanFrom_renderFurther {terms : List Term} (each : ∀ term ∈ terms, IsCut dialect term)
    (ends : EndsName dialect tail) :
    scanFrom dialect [] (Term.renderFurther dialect terms ++ tail) =
      Term.furtherTokens dialect terms ++ scanFrom dialect [] tail := by
  induction terms with
  | nil => rfl
  | cons term rest ih =>
      have first := each term (by simp) _ (endsName_renderFurther ends rest)
      have others := ih fun other member => each other (by simp [member])
      simp only [Term.renderFurther, Term.furtherTokens, List.cons_append, List.append_assoc]
      rw [scanFrom_punctuation punctuationKind?_separator, first, others]

theorem scanFrom_renderArguments {terms : List Term} (each : ∀ term ∈ terms, IsCut dialect term)
    (ends : EndsName dialect tail) :
    scanFrom dialect [] (Term.renderArguments dialect terms ++ tail) =
      Term.argumentTokens dialect terms ++ scanFrom dialect [] tail := by
  cases terms with
  | nil => rfl
  | cons term rest =>
      have first := each term (by simp) _ (endsName_renderFurther ends rest)
      have others := scanFrom_renderFurther
        (fun other member => each other (List.mem_cons_of_mem term member)) ends
      simp only [Term.renderArguments, Term.argumentTokens, List.append_assoc]
      rw [first, others]

/-- Where the names are names of the dialect, notations are cut into tokens. -/
theorem isCut_of_named {term : Term} (named : term.Named dialect) : IsCut dialect term := by
  induction term with
  | atom name =>
      intro tail ends
      exact scanFrom_name named ends
  | compound operator arguments ih =>
      intro tail ends
      have each (term : Term) (member : term ∈ arguments) : IsCut dialect term :=
        ih term member (named.2.of_mem member)
      have bracket : EndsName dialect (dialect.closing :: tail) :=
        endsName_punctuation (by simp [Dialect.punctuation]) tail
      have inner := scanFrom_renderArguments each bracket
      simp only [Term.render, Term.tokens, List.cons_append, List.append_assoc, List.nil_append]
      rw [scanFrom_name named.1 (endsName_punctuation (by simp [Dialect.punctuation]) _),
        scanFrom_punctuation punctuationKind?_opening, inner,
        scanFrom_punctuation punctuationKind?_closing]

/-- The tokens of a notation with names of the dialect are those of the term. -/
theorem ofText_render {term : Term} (named : term.Named dialect) :
    ofText dialect (term.render dialect) = term.tokens dialect ++ [stop] := by
  have cut := isCut_of_named named [] trivial
  rw [List.append_nil] at cut
  rw [ofText_eq_scanFrom, cut]
  rfl

/-! ## The tokens in a text -/

/-- Whether a token's text is one that tokens of its kind have in the dialect. -/
def Carries (dialect : Dialect) (token : Token) : Prop :=
  match token.kind with
  | .atom => dialect.IsName token.text
  | .separator => token.text = [dialect.separator]
  | .opening => token.text = [dialect.opening]
  | .closing => token.text = [dialect.closing]
  | .stop => token.text = []

theorem carries_of_punctuationKind? {kind : Kind}
    (found : punctuationKind? dialect c = some kind) : Carries dialect ⟨kind, [c]⟩ := by
  simp only [punctuationKind?] at found
  grind [Carries]

/-- What has been collected of a name is a name of the dialect once it is closed. -/
theorem carries_of_mem_closeName {collected : Text} {token : Token}
    (plain : ∀ c ∈ collected, c ∉ dialect.reserved) (member : token ∈ closeName collected) :
    token.Carries dialect := by
  cases collected with
  | nil => cases member
  | cons c rest =>
      rw [List.mem_singleton.1 member]
      exact ⟨List.cons_ne_nil c rest, plain⟩

theorem carries_of_mem_scanFrom {collected text : Text} {token : Token}
    (plain : ∀ c ∈ collected, c ∉ dialect.reserved)
    (member : token ∈ scanFrom dialect collected text) : token.Carries dialect := by
  induction text generalizing collected with
  | nil =>
      rcases List.mem_append.1 member with early | late
      · exact carries_of_mem_closeName plain early
      · rw [List.mem_singleton.1 late]
        rfl
  | cons c rest ih =>
      rw [scanFrom] at member
      cases found : punctuationKind? dialect c with
      | some kind =>
          simp only [found, List.mem_append, List.mem_cons] at member
          rcases member with early | rfl | late
          · exact carries_of_mem_closeName plain early
          · exact carries_of_punctuationKind? found
          · exact ih (by simp) late
      | none =>
          simp only [found] at member
          by_cases mark : c = dialect.marker
          · rw [if_pos mark, List.mem_append] at member
            rcases member with early | late
            · exact carries_of_mem_closeName plain early
            · exact ih (by simp) late
          · rw [if_neg mark] at member
            have unpunctuated := punctuationKind?_eq_none_iff.1 found
            exact ih (plain_append_singleton plain unpunctuated mark) member

/-- Every token of a text carries what its kind allows, whatever markers the text has. -/
theorem carries_of_mem_ofText {text : Text} {token : Token}
    (member : token ∈ ofText dialect text) : token.Carries dialect := by
  rw [ofText_eq_scanFrom] at member
  exact carries_of_mem_scanFrom (show ∀ c ∈ [], c ∉ dialect.reserved by simp) member

/-- Every atom among the tokens of a text is a name of the dialect. -/
theorem isName_of_mem_ofText {text : Text} {token : Token}
    (member : token ∈ ofText dialect text) (atom : token.kind = .atom) :
    dialect.IsName token.text := by
  have carries := carries_of_mem_ofText member
  simpa only [Carries, atom] using carries

end Token

/-- What tokens spell has no other names than those of the tokens. -/
def Phrase.Named (dialect : Dialect) : Phrase → Prop
  | .term root => root.Named dialect
  | .arguments terms => Term.AllNamed dialect terms

theorem Spells.named {dialect : Dialect} {tokens : List Token} {phrase : Phrase}
    (spelled : Spells tokens phrase)
    (names : ∀ token ∈ tokens, token.kind = .atom → dialect.IsName token.text) :
    phrase.Named dialect := by
  induction spelled with
  | atom name => exact names _ (by simp) name
  | compound operator _ _ _ ih =>
      refine ⟨names _ (by simp) operator, ih fun token member => names token ?_⟩
      simp [member]
  | none => trivial
  | one _ ih => exact ⟨ih names, trivial⟩
  | more _ _ _ ihFirst ihRest =>
      refine ⟨ihFirst fun token member => names token ?_,
        ihRest fun token member => names token ?_⟩
      · simp [member]
      · simp [member]

end TermText
