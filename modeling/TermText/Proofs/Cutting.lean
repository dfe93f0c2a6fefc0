/-
# Texts and their tokens

Cutting a text loses nothing but its markers, so a text without markers is the
concatenation of what its tokens carry. The lists of tokens that such texts are
cut into are those that could not be cut in any other way: every token carries
what its kind allows, and no two names meet. Between these lists and the texts
without markers cutting is a bijection.
-/

import Mathlib
import TermText.Proofs.Notation

namespace TermText.Token

variable {dialect : Dialect} {collected text : Text} {token : Token}

/-! ## What the tokens carry -/

theorem texts_closeName (name : Text) : texts (closeName name) = name := by
  cases name with
  | nil => rfl
  | cons => simp [closeName]

theorem marker_ne_of_punctuationKind? {c : Char} {kind : Kind}
    (found : punctuationKind? dialect c = some kind) : c ≠ dialect.marker := by
  rintro rfl
  exact dialect.marker_notMem_punctuation (mem_punctuation_of_punctuationKind? found)

/-- Scanning keeps what has been collected and every character but the markers. -/
theorem texts_scanFrom (dialect : Dialect) (collected text : Text) :
    texts (scanFrom dialect collected text) =
      collected ++ text.filter (· ≠ dialect.marker) := by
  induction text generalizing collected with
  | nil => simp [scanFrom, texts_closeName, stop]
  | cons c rest ih =>
      rw [scanFrom]
      cases found : punctuationKind? dialect c with
      | some kind =>
          have noMark := marker_ne_of_punctuationKind? found
          simp [texts_closeName, ih, noMark]
      | none =>
          by_cases mark : c = dialect.marker
          · simp [mark, texts_closeName, ih]
          · simp [mark, ih]

theorem texts_ofText (dialect : Dialect) (text : Text) :
    texts (ofText dialect text) = text.filter (· ≠ dialect.marker) := by
  rw [ofText_eq_scanFrom, texts_scanFrom, List.nil_append]

/-- A text without markers is what its tokens carry. -/
theorem texts_ofText_of_notMem (unmarked : dialect.marker ∉ text) :
    texts (ofText dialect text) = text := by
  rw [texts_ofText, List.filter_eq_self]
  intro c member
  simpa using ne_of_mem_of_not_mem member unmarked

/-! ## The stop -/

/-- Every token in front of the last one comes from a piece of the text. -/
theorem kind_ne_stop_of_mem_pieces (member : token ∈ (pieces dialect text).map (ofPiece dialect)) :
    token.kind ≠ .stop := by
  obtain ⟨piece, -, rfl⟩ := List.mem_map.1 member
  simp only [ofPiece, punctuationKinds, List.lookup_cons, List.lookup_nil]
  grind

theorem ofText_eq_dropLast_append (dialect : Dialect) (text : Text) :
    ofText dialect text = (ofText dialect text).dropLast ++ [stop] := by
  simp [ofText]

theorem kind_ne_stop_of_mem_dropLast (member : token ∈ (ofText dialect text).dropLast) :
    token.kind ≠ .stop := by
  rw [ofText, List.dropLast_concat] at member
  exact kind_ne_stop_of_mem_pieces member

/-- Whether two tokens may follow one another without a marker between them. -/
def Apart (first second : Token) : Prop := ¬ (first.kind = .atom ∧ second.kind = .atom)

/-- Whether a list of tokens ends in its only stop, every token carries what its
kind allows, and no two names meet. -/
structure WellCut (dialect : Dialect) (tokens : List Token) : Prop where
  ends : tokens.getLast? = some stop
  single : ∀ token ∈ tokens.dropLast, token.kind ≠ .stop
  carries : ∀ token ∈ tokens, token.Carries dialect
  apart : tokens.IsChain Apart

/-- Where no marker cuts a name, punctuation stands between any two. -/
theorem isChain_scanFrom (unmarked : dialect.marker ∉ text) :
    (scanFrom dialect collected text).IsChain Apart := by
  induction text generalizing collected with
  | nil => cases collected <;> simp [scanFrom, closeName, stop, Apart]
  | cons c rest ih =>
      rw [List.mem_cons, not_or] at unmarked
      rw [scanFrom]
      cases found : punctuationKind? dialect c with
      | some kind =>
          have noName : kind ≠ .atom := by
            simp only [punctuationKind?] at found
            grind
          -- Punctuation is no name, so a name may end in front of it.
          have fromHere : (⟨kind, [c]⟩ :: scanFrom dialect [] rest).IsChain Apart :=
            (ih unmarked.2).cons fun _ _ both => noName both.1
          cases collected with
          | nil => exact fromHere
          | cons => exact .cons_cons (fun both => noName both.2) fromHere
      | none =>
          simp only [if_neg (Ne.symm unmarked.1)]
          exact ih unmarked.2

theorem wellCut_ofText (unmarked : dialect.marker ∉ text) :
    WellCut dialect (ofText dialect text) where
  ends := by simp [ofText]
  single _ := kind_ne_stop_of_mem_dropLast
  carries _ := carries_of_mem_ofText
  apart := by
    rw [ofText_eq_scanFrom]
    exact isChain_scanFrom unmarked

/-- A token that is neither a name nor a stop is punctuation. -/
theorem Carries.exists_punctuation (carries : token.Carries dialect)
    (noName : token.kind ≠ .atom) (noStop : token.kind ≠ .stop) :
    ∃ c, token.text = [c] ∧ punctuationKind? dialect c = some token.kind := by
  rcases token with ⟨kind, text⟩
  cases kind with
  | atom => exact absurd rfl noName
  | stop => exact absurd rfl noStop
  | separator => exact ⟨_, carries, punctuationKind?_separator⟩
  | opening => exact ⟨_, carries, punctuationKind?_opening⟩
  | closing => exact ⟨_, carries, punctuationKind?_closing⟩

/-- A token of the kind of a punctuation character is that character. -/
theorem eq_of_carries {c : Char} {kind : Kind} (carries : token.Carries dialect)
    (same : token.kind = kind) (found : punctuationKind? dialect c = some kind) :
    token = ⟨kind, [c]⟩ := by
  rcases token with ⟨_, text⟩
  obtain rfl : _ = kind := same
  simp only [punctuationKind?] at found
  grind [Carries]

section Words

variable {words : List Token}

/-- Where no name comes first, what words carry cannot continue a name. -/
theorem endsName_texts (sound : ∀ word ∈ words, word.kind ≠ .stop ∧ word.Carries dialect)
    (noName : ∀ word ∈ words.head?, word.kind ≠ .atom) : EndsName dialect (texts words) := by
  cases words with
  | nil => trivial
  | cons word rest =>
      obtain ⟨noStop, carries⟩ := sound word (by simp)
      obtain ⟨c, single, found⟩ := carries.exists_punctuation (noName word (by simp)) noStop
      rw [texts_cons, single]
      exact endsName_punctuation (mem_punctuation_of_punctuationKind? found) _

/-- Scanning what the words of a text carry gives the words back. -/
theorem scanFrom_texts (sound : ∀ word ∈ words, word.kind ≠ .stop ∧ word.Carries dialect)
    (apart : words.IsChain Apart) :
    scanFrom dialect [] (texts words) = words ++ [stop] := by
  induction words with
  | nil => rfl
  | cons word rest ih =>
      obtain ⟨noStop, carries⟩ := sound word (by simp)
      have others : ∀ word ∈ rest, word.kind ≠ .stop ∧ word.Carries dialect :=
        fun other member => sound other (by simp [member])
      rw [texts_cons, List.cons_append, ← ih others apart.tail]
      by_cases name : word.kind = .atom
      · have ends : EndsName dialect (texts rest) :=
          endsName_texts others fun next first other => apart.rel_head? first ⟨name, other⟩
        have isName : dialect.IsName word.text := by simpa only [Carries, name] using carries
        rw [scanFrom_name isName ends, ← name]
      · obtain ⟨c, single, found⟩ := carries.exists_punctuation name noStop
        rw [single, List.singleton_append, scanFrom_punctuation found, ← single]

end Words

theorem WellCut.ofText_texts {tokens : List Token} (wellCut : WellCut dialect tokens) :
    ofText dialect (texts tokens) = tokens := by
  have split : tokens.dropLast ++ [stop] = tokens :=
    List.dropLast_append_getLast? stop (by simp [wellCut.ends])
  have sound : ∀ word ∈ tokens.dropLast, word.kind ≠ .stop ∧ word.Carries dialect :=
    fun word member => ⟨wellCut.single word member,
      wellCut.carries word (List.mem_of_mem_dropLast member)⟩
  calc
    ofText dialect (texts tokens) = scanFrom dialect [] (texts tokens.dropLast) := by
      rw [ofText_eq_scanFrom, ← split]
      simp [stop]
    _ = tokens := by rw [scanFrom_texts sound wellCut.apart.dropLast, split]

/-- What well-cut tokens carry has no marker in it. -/
theorem WellCut.marker_notMem_texts {tokens : List Token} (wellCut : WellCut dialect tokens) :
    dialect.marker ∉ texts tokens := by
  intro member
  have kept := texts_ofText dialect (texts tokens)
  rw [wellCut.ofText_texts] at kept
  rw [kept] at member
  simp at member

/-- Cutting is a bijection between the texts without markers and the well-cut
lists of tokens, and joining what the tokens carry is its inverse. Of a text with
markers, joining gives back all but these. -/
theorem bijOn_ofText (dialect : Dialect) :
    Set.BijOn (ofText dialect) {text | dialect.marker ∉ text}
      {tokens | WellCut dialect tokens} ∧
    (∀ text, texts (ofText dialect text) = text.filter (· ≠ dialect.marker)) ∧
    (∀ tokens, WellCut dialect tokens → ofText dialect (texts tokens) = tokens) ∧
    (∀ text, dialect.marker ∉ text → WellCut dialect (ofText dialect text)) := by
  have inverse : Set.InvOn texts (ofText dialect) {text | dialect.marker ∉ text}
      {tokens | WellCut dialect tokens} :=
    ⟨fun _ => texts_ofText_of_notMem, fun _ wellCut => wellCut.ofText_texts⟩
  exact ⟨inverse.bijOn (fun _ => wellCut_ofText) (fun _ wellCut => wellCut.marker_notMem_texts),
    texts_ofText dialect, fun _ wellCut => wellCut.ofText_texts, fun _ => wellCut_ofText⟩

/-- The tokens of `F(A,)`. -/
def ofTrailingSeparator : List Token :=
  [⟨.atom, ['F']⟩, ⟨.opening, ['(']⟩, ⟨.atom, ['A']⟩, ⟨.separator, [',']⟩, ⟨.closing, [')']⟩,
    stop]

/-- The tokens of `F(A,)` are well cut and come back from what they carry, and the
text without a marker is cut into such tokens. -/
theorem bijOn_ofText_trailingSeparator :
    WellCut .standard ofTrailingSeparator ∧
    ofText .standard (texts ofTrailingSeparator) = ofTrailingSeparator ∧
    Dialect.standard.marker ∉ "F(A,)".toList ∧
    WellCut .standard (ofText .standard "F(A,)".toList) := by
  have wellCut : WellCut .standard ofTrailingSeparator := by
    refine ⟨rfl, by decide, ?_, ?_⟩
    · simp [ofTrailingSeparator, Carries, Dialect.IsName, Dialect.reserved, Dialect.standard, stop]
    · simp [ofTrailingSeparator, Apart, stop]
  have unmarked : Dialect.standard.marker ∉ "F(A,)".toList := by decide
  exact ⟨wellCut, (bijOn_ofText .standard).2.2.1 _ wellCut, unmarked,
    (bijOn_ofText .standard).2.2.2 _ unmarked⟩

end TermText.Token
