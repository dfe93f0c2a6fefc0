/-
# Texts in a row

What becomes of the tokens of a text when another text follows it. Only a name
at the very end of the text is still open: every token in front of it stays as
it is, and an open name is closed by what follows or grows into a longer one.
So the tokens in front of any place stay, and at the place itself a token keeps
its kind. Where no name runs on from one text into the next, cutting both is
cutting each of them; where one does, its two parts are joined.
-/

import TermText.Proofs.Cutting

namespace TermText

/-- Two names written together are a name. -/
theorem Dialect.IsName.append {dialect : Dialect} {left right : Text}
    (first : dialect.IsName left) (second : dialect.IsName right) :
    dialect.IsName (left ++ right) := by
  refine ⟨List.append_ne_nil_of_left_ne_nil first.1 _, fun c member => ?_⟩
  exact (List.mem_append.1 member).elim (first.2 c) (second.2 c)

namespace Token

variable {dialect : Dialect} {name text tail first second : Text} {c : Char}

/-- At the end of a text some tokens are closed and a name may still be open. -/
theorem exists_scanFrom_append (dialect : Dialect) (collected text : Text) :
    ∃ closed name, scanFrom dialect collected text = closed ++ closeName name ++ [stop] ∧
      ∀ tail, scanFrom dialect collected (text ++ tail) = closed ++ scanFrom dialect name tail := by
  induction text generalizing collected with
  | nil => exact ⟨[], collected, rfl, fun _ => rfl⟩
  | cons c rest ih =>
      simp only [List.cons_append, scanFrom]
      cases punctuationKind? dialect c with
      | some kind =>
          obtain ⟨closed, name, alone, followed⟩ := ih []
          exact ⟨closeName collected ++ ⟨kind, [c]⟩ :: closed, name, by simp [alone],
            by simp [followed]⟩
      | none =>
          by_cases mark : c = dialect.marker
          · obtain ⟨closed, name, alone, followed⟩ := ih []
            exact ⟨closeName collected ++ closed, name, by simp [mark, alone],
              by simp [mark, followed]⟩
          · simpa only [if_neg mark] using ih (collected ++ [c])

/-- A text in front of what ends a name is cut as if it stood alone. -/
theorem ofText_append_of_endsName (ends : EndsName dialect tail) (text : Text) :
    ofText dialect (text ++ tail) = (ofText dialect text).dropLast ++ ofText dialect tail := by
  obtain ⟨closed, name, alone, followed⟩ := exists_scanFrom_append dialect [] text
  simp only [ofText_eq_scanFrom]
  rw [alone, followed, scanFrom_of_endsName ends, List.dropLast_concat, List.append_assoc]

/-- Whether a name runs on from one text into another: the first ends and the second starts
with a character that is not reserved. -/
def RunsOn (dialect : Dialect) (first second : Text) : Prop :=
  (∃ last ∈ first.getLast?, last ∉ dialect.reserved) ∧
    ∃ next ∈ second.head?, next ∉ dialect.reserved

theorem endsName_iff : EndsName dialect tail ↔ ∀ next ∈ tail.head?, next ∈ dialect.reserved := by
  cases tail with
  | nil => simp [EndsName]
  | cons c rest => simp [EndsName]

theorem ofText_nil (dialect : Dialect) : ofText dialect [] = [stop] := by
  rw [ofText_eq_scanFrom]
  rfl

/-- A reserved character closes what stands in front of it and leaves no name open. -/
theorem ofText_cons_of_reserved (reserved : c ∈ dialect.reserved) (tail : Text) :
    ofText dialect (c :: tail) = (ofText dialect [c]).dropLast ++ ofText dialect tail := by
  simp only [ofText_eq_scanFrom, scanFrom]
  cases found : punctuationKind? dialect c with
  | some kind => rfl
  | none =>
      have mark : c = dialect.marker :=
        (Dialect.mem_reserved_iff.1 reserved).resolve_left (punctuationKind?_eq_none_iff.1 found)
      simp [mark, closeName]

/-- A text with no name open at its end is cut as if it stood alone. -/
theorem ofText_append_of_closed (closed : ∀ last ∈ first.getLast?, last ∈ dialect.reserved)
    (second : Text) :
    ofText dialect (first ++ second) =
      (ofText dialect first).dropLast ++ ofText dialect second := by
  rcases List.eq_nil_or_concat first with rfl | ⟨front, last, rfl⟩
  · rfl
  · rw [List.concat_eq_append] at closed ⊢
    have reserved : last ∈ dialect.reserved := closed last (by simp)
    have cut (tail : Text) : ofText dialect (front ++ [last] ++ tail) =
        (ofText dialect front).dropLast ++ (ofText dialect [last]).dropLast ++
          ofText dialect tail := by
      have ends : EndsName dialect (last :: tail) := reserved
      rw [List.append_assoc, List.singleton_append, ofText_append_of_endsName ends,
        ofText_cons_of_reserved reserved, List.append_assoc]
    have alone := cut []
    rw [List.append_nil, ofText_nil] at alone
    rw [cut, alone, List.dropLast_concat]

/-- A text starts with a run of characters that are not reserved, which may be none, and
goes on with what ends a name. -/
theorem exists_run_append (dialect : Dialect) (text : Text) :
    ∃ run rest, text = run ++ rest ∧ (∀ c ∈ run, c ∉ dialect.reserved) ∧
      EndsName dialect rest := by
  induction text with
  | nil => exact ⟨[], [], rfl, by simp, trivial⟩
  | cons c tail ih =>
      by_cases reserved : c ∈ dialect.reserved
      · exact ⟨[], c :: tail, rfl, by simp, reserved⟩
      · obtain ⟨run, rest, rfl, plain, ends⟩ := ih
        refine ⟨c :: run, rest, rfl, ?_, ends⟩
        simpa [reserved] using plain

/-- A name that is open at the end of a text is all that follows its last reserved character. -/
theorem exists_append_name (opened : ∃ last ∈ first.getLast?, last ∉ dialect.reserved) :
    ∃ front name, first = front ++ name ∧ dialect.IsName name ∧
      ∀ last ∈ front.getLast?, last ∈ dialect.reserved := by
  obtain ⟨run, rest, turned, plain, ends⟩ := exists_run_append dialect first.reverse
  have split : first = rest.reverse ++ run.reverse := by
    rw [← List.reverse_append, ← turned, List.reverse_reverse]
  refine ⟨rest.reverse, run.reverse, split, ⟨?_, by simpa using plain⟩, ?_⟩
  · rintro none
    obtain ⟨last, found, ordinary⟩ := opened
    rw [split, none, List.append_nil, List.getLast?_reverse] at found
    exact ordinary (endsName_iff.1 ends last found)
  · rw [List.getLast?_reverse]
    exact endsName_iff.1 ends

/-- A name that a text starts with goes up to what ends it. -/
theorem exists_name_append (starts : ∃ next ∈ second.head?, next ∉ dialect.reserved) :
    ∃ name rest, second = name ++ rest ∧ dialect.IsName name ∧ EndsName dialect rest := by
  obtain ⟨run, rest, rfl, plain, ends⟩ := exists_run_append dialect second
  refine ⟨run, rest, rfl, ⟨?_, plain⟩, ends⟩
  rintro rfl
  obtain ⟨next, found, ordinary⟩ := starts
  exact ordinary (endsName_iff.1 ends next found)

theorem ofText_name_append (isName : dialect.IsName name) (ends : EndsName dialect tail) :
    ofText dialect (name ++ tail) = ⟨.atom, name⟩ :: ofText dialect tail := by
  simp only [ofText_eq_scanFrom]
  exact scanFrom_name isName ends

/-- Where a name runs on from one text into another, the tokens of both texts in a row are
those of the first and those of the second with the two parts of that name made one. In every
other case they are the tokens of the first, without its stop, and those of the second. -/
theorem ofText_append (dialect : Dialect) (first second : Text) :
    (RunsOn dialect first second → ∃ before left right after,
      ofText dialect first = before ++ [⟨.atom, left⟩, stop] ∧
      ofText dialect second = ⟨.atom, right⟩ :: after ∧
      ofText dialect (first ++ second) = before ++ ⟨.atom, left ++ right⟩ :: after) ∧
    (¬ RunsOn dialect first second →
      ofText dialect (first ++ second) =
        (ofText dialect first).dropLast ++ ofText dialect second) := by
  constructor
  · rintro ⟨opened, starts⟩
    obtain ⟨front, left, rfl, leftName, closed⟩ := exists_append_name opened
    obtain ⟨right, rest, rfl, rightName, ends⟩ := exists_name_append starts
    refine ⟨(ofText dialect front).dropLast, left, right, ofText dialect rest, ?_, ?_, ?_⟩
    · have alone := ofText_name_append leftName (show EndsName dialect [] from trivial)
      rw [List.append_nil] at alone
      rw [ofText_append_of_closed closed, alone]
      rfl
    · exact ofText_name_append rightName ends
    · rw [List.append_assoc, ofText_append_of_closed closed, ← List.append_assoc left,
        ofText_name_append (Dialect.IsName.append leftName rightName) ends]
  · intro apart
    by_cases opened : ∃ last ∈ first.getLast?, last ∉ dialect.reserved
    · apply ofText_append_of_endsName
      rw [endsName_iff]
      intro next found
      by_contra ordinary
      exact apart ⟨opened, next, found, ordinary⟩
    · apply ofText_append_of_closed
      simpa using opened

/-- In `F(AB)` a name runs on over a cut behind `A`, and none over a cut behind `B`. -/
theorem ofText_append_insideName :
    RunsOn .standard "F(A".toList "B)".toList ∧
    (∃ before left right after,
      ofText .standard "F(A".toList = before ++ [⟨.atom, left⟩, stop] ∧
      ofText .standard "B)".toList = ⟨.atom, right⟩ :: after ∧
      ofText .standard ("F(A".toList ++ "B)".toList) = before ++ ⟨.atom, left ++ right⟩ :: after) ∧
    ¬ RunsOn .standard "F(AB".toList ")".toList ∧
    ofText .standard ("F(AB".toList ++ ")".toList) =
      (ofText .standard "F(AB".toList).dropLast ++ ofText .standard ")".toList := by
  have inside : RunsOn .standard "F(A".toList "B)".toList :=
    ⟨⟨'A', rfl, by decide⟩, 'B', rfl, by decide⟩
  have behind : ¬ RunsOn .standard "F(AB".toList ")".toList := by
    rintro ⟨-, next, found, ordinary⟩
    obtain rfl : ')' = next := Option.some.inj found
    exact ordinary (by decide)
  exact ⟨inside, (ofText_append .standard _ _).1 inside, behind,
    (ofText_append .standard _ _).2 behind⟩

end Token

end TermText
