/-
# Splitting is scanning

The reader puts each punctuation character in turn between two markers, in
three passes over the whole text, and splits the result at the markers. Since
the four characters of a dialect differ, no pass touches what an earlier one
has put in, and the three are one pass that spaces every punctuation character.
What is then split is compared with the scanner character by character, with
the part of a name that has been collected in front.
-/

import TermText.Token.Scan
import TermText.Token.Split

namespace TermText

namespace Dialect

theorem mem_reserved_iff {dialect : Dialect} {c : Char} :
    c ∈ dialect.reserved ↔ c ∈ dialect.punctuation ∨ c = dialect.marker := by
  simp [reserved, punctuation, or_assoc]

/-- The marker is no punctuation. -/
theorem marker_notMem_punctuation (dialect : Dialect) :
    dialect.marker ∉ dialect.punctuation := by
  have distinct := dialect.distinct
  simp only [List.nodup_cons, List.mem_cons, List.not_mem_nil] at distinct
  simp only [punctuation, List.mem_cons, List.not_mem_nil]
  grind

end Dialect

namespace Token

variable {dialect : Dialect} {c : Char} {kind : Kind} {name : Text}

theorem punctuationKind?_eq_none_iff :
    punctuationKind? dialect c = none ↔ c ∉ dialect.punctuation := by
  simp only [punctuationKind?, Dialect.punctuation, List.mem_cons, List.not_mem_nil]
  grind

theorem mem_punctuation_of_punctuationKind? (found : punctuationKind? dialect c = some kind) :
    c ∈ dialect.punctuation := by
  by_cases special : c ∈ dialect.punctuation
  · exact special
  · rw [punctuationKind?_eq_none_iff.2 special] at found
    cases found

/-! ## The three passes as one -/

/-- A character as one pass leaves it: punctuation between two markers. -/
def spaced (dialect : Dialect) (c : Char) : Text :=
  if c ∈ dialect.punctuation then [dialect.marker, c, dialect.marker] else [c]

/-- The passes for the three punctuation characters do not disturb each other. -/
theorem marked_eq_flatMap (dialect : Dialect) (text : Text) :
    marked dialect text = text.flatMap (spaced dialect) := by
  have distinct := dialect.distinct
  simp only [List.nodup_cons, List.mem_cons, List.not_mem_nil] at distinct
  simp only [marked, Dialect.punctuation, List.foldl_cons, List.foldl_nil, isolate,
    List.flatMap_assoc]
  apply congrArg (text.flatMap ·)
  funext c
  by_cases separator : c = dialect.separator
  · grind [spaced, Dialect.punctuation]
  · by_cases opening : c = dialect.opening
    · grind [spaced, Dialect.punctuation]
    · by_cases closing : c = dialect.closing
      · grind [spaced, Dialect.punctuation]
      · grind [spaced, Dialect.punctuation]

/-! ## Pieces as tokens -/

/-- The tokens of a text in which the punctuation is spaced. -/
def ofMarked (dialect : Dialect) (text : Text) : List Token :=
  ((text.splitOn dialect.marker).filter fun piece => !piece.isEmpty).map (ofPiece dialect)

theorem ofPiece_of_punctuationKind? (found : punctuationKind? dialect c = some kind) :
    ofPiece dialect [c] = ⟨kind, [c]⟩ := by
  simp only [ofPiece, punctuationKinds, List.lookup_cons, List.lookup_nil, punctuationKind?]
    at found ⊢
  grind

/-- A piece without punctuation is a name. -/
theorem ofPiece_of_notMem (plain : ∀ c ∈ name, c ∉ dialect.punctuation) :
    ofPiece dialect name = ⟨.atom, name⟩ := by
  have differs (c : Char) (special : c ∈ dialect.punctuation) : (name == [c]) = false := by
    simp only [beq_eq_false_iff_ne]
    rintro rfl
    exact plain c (by simp) special
  have unlisted : (punctuationKinds dialect).lookup name = none := by
    rw [punctuationKinds, List.lookup_cons, differs _ (by simp [Dialect.punctuation]),
      List.lookup_cons, differs _ (by simp [Dialect.punctuation]),
      List.lookup_cons, differs _ (by simp [Dialect.punctuation]), List.lookup_nil]
  rw [ofPiece, unlisted, Option.getD_none]

/-- A piece without reserved characters is what has been collected of a name. -/
theorem ofMarked_name (plain : ∀ c ∈ name, c ∉ dialect.reserved) :
    ofMarked dialect name = closeName name := by
  have unmarked : dialect.marker ∉ name := fun member =>
    plain _ member (Dialect.mem_reserved_iff.2 (.inr rfl))
  rw [ofMarked, List.splitOn_eq_singleton unmarked]
  cases name with
  | nil => rfl
  | cons c rest =>
      simp only [List.filter_cons, List.isEmpty_cons, Bool.not_false, if_true, List.filter_nil,
        List.map_cons, List.map_nil, closeName]
      rw [ofPiece_of_notMem fun d member special =>
        plain d member (Dialect.mem_reserved_iff.2 (.inl special))]

/-- A marker ends the piece in front of it. -/
theorem ofMarked_append_marker {piece : Text} (unmarked : dialect.marker ∉ piece) (rest : Text) :
    ofMarked dialect (piece ++ dialect.marker :: rest) =
      ofMarked dialect piece ++ ofMarked dialect rest := by
  rw [ofMarked, List.splitOn_append_cons_self_of_not_mem unmarked, ofMarked, ofMarked,
    List.splitOn_eq_singleton unmarked, List.filter_cons]
  split <;> simp_all

/-- Between two markers a punctuation character is a token of its own. -/
theorem ofMarked_punctuation (found : punctuationKind? dialect c = some kind) (rest : Text) :
    ofMarked dialect (c :: dialect.marker :: rest) =
      ⟨kind, [c]⟩ :: ofMarked dialect rest := by
  have special := mem_punctuation_of_punctuationKind? found
  have unmarked : dialect.marker ∉ [c] := by
    intro member
    exact dialect.marker_notMem_punctuation (List.mem_singleton.1 member ▸ special)
  have alone : ofMarked dialect [c] = [⟨kind, [c]⟩] := by
    rw [ofMarked, List.splitOn_eq_singleton unmarked]
    simp [ofPiece_of_punctuationKind? found]
  rw [← List.singleton_append, ofMarked_append_marker unmarked, alone, List.singleton_append]

/-! ## Splitting against scanning -/

/-- What has been collected of a name stays free of reserved characters when a
character that is not reserved is added. -/
theorem plain_append_singleton (plain : ∀ c ∈ name, c ∉ dialect.reserved)
    (ordinary : c ∉ dialect.punctuation) (noMark : c ≠ dialect.marker) :
    ∀ d ∈ name ++ [c], d ∉ dialect.reserved := by
  intro d member
  rcases List.mem_append.1 member with old | new
  · exact plain d old
  · rw [List.mem_singleton.1 new, Dialect.mem_reserved_iff]
    exact fun reserved => reserved.elim ordinary noMark

/-- With part of a name collected in front, what is split is what is scanned. -/
theorem ofMarked_append_flatMap (text : Text) (plain : ∀ c ∈ name, c ∉ dialect.reserved) :
    ofMarked dialect (name ++ text.flatMap (spaced dialect)) ++ [stop] =
      scanFrom dialect name text := by
  induction text generalizing name with
  | nil => simp [ofMarked_name plain, scanFrom]
  | cons c rest ih =>
      have unmarked : dialect.marker ∉ name := fun member =>
        plain _ member (Dialect.mem_reserved_iff.2 (.inr rfl))
      have fresh := ih (show ∀ c ∈ [], c ∉ dialect.reserved by simp)
      rw [List.flatMap_cons, scanFrom]
      cases found : punctuationKind? dialect c with
      | some kind =>
          have special := mem_punctuation_of_punctuationKind? found
          simp only [spaced, if_pos special, List.cons_append, List.nil_append]
          rw [ofMarked_append_marker unmarked, ofMarked_name plain, ofMarked_punctuation found,
            List.append_assoc, List.cons_append, ← fresh, List.nil_append]
      | none =>
          have ordinary := punctuationKind?_eq_none_iff.1 found
          simp only [spaced, if_neg ordinary, List.cons_append, List.nil_append]
          by_cases mark : c = dialect.marker
          · subst mark
            rw [ofMarked_append_marker unmarked, ofMarked_name plain, if_pos rfl,
              List.append_assoc, ← fresh, List.nil_append]
          · rw [if_neg mark, ← ih (plain_append_singleton plain ordinary mark),
              List.append_assoc, List.singleton_append]

/-- Cutting a text is scanning it with nothing collected. -/
theorem ofText_eq_scanFrom (dialect : Dialect) (text : Text) :
    ofText dialect text = scanFrom dialect [] text := by
  rw [ofText, pieces, marked_eq_flatMap]
  exact ofMarked_append_flatMap text (show ∀ c ∈ [], c ∉ dialect.reserved by simp)

/-- Replacing three times and splitting comes to the same tokens as one scan from
left to right, for every dialect and every text. -/
theorem ofText_eq_scan (dialect : Dialect) (text : Text) :
    ofText dialect text = scan dialect text := by
  rw [ofText_eq_scanFrom, scan]

end Token

end TermText
