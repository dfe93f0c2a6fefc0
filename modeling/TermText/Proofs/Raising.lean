/-
# Raising the limit

What a limit has to say about texts. Dialects that differ in nothing but the limit cut a
text into the same tokens, and two runs from one cursor differ only in what their limits
leave. So a higher limit changes nothing but a failure for the nesting, whatever the stack.
-/

import TermText.Proofs.RoundTrip

namespace TermText.Parser

variable {dialect higher : Dialect}

/-- Dialects with the same characters cut a text into the same tokens. -/
theorem ofText_eq_of_reserved_eq (same : higher.reserved = dialect.reserved) (text : Text) :
    Token.ofText higher text = Token.ofText dialect text := by
  simp only [Dialect.reserved, List.cons.injEq, and_true] at same
  obtain ⟨separator, opening, closing, marker⟩ := same
  have piece : Token.ofPiece higher = Token.ofPiece dialect := by
    funext piece
    simp only [Token.ofPiece, Token.punctuationKinds, separator, opening, closing]
  simp only [Token.ofText, piece, Token.pieces, Token.marked, Dialect.punctuation, separator,
    opening, closing, marker]

/-- A higher limit leaves a term as it is, and a failure for anything but the nesting. -/
theorem result_parse_of_budget_le (same : higher.reserved = dialect.reserved)
    (raised : dialect.limit.budget 0 ≤ higher.limit.budget 0) (stack : Stack) (text : Text) :
    (∀ term, (parse stack dialect text).result = .ok term →
      (parse stack higher text).result = .ok term) ∧
    (∀ failure, (parse stack dialect text).result = .error failure →
      (∀ bound, failure ≠ .tooDeep bound) → (parse stack higher text).result = .error failure) := by
  have cut := cutOff_onStack_expr stack (fun _ => Number.atMost_of_budget_le raised)
    (start dialect text)
  have tokens : start higher text = start dialect text :=
    congrArg Cursor.ofTokens (ofText_eq_of_reserved_eq same text)
  simp only [result_parse_eq_onStack, tokens]
  rcases cut.alike_or_tooDeep with alike | ⟨stopped, fails⟩
  · exact ⟨fun term read => alike.result_eq_ok_iff.1 read,
      fun failure rejected other => alike.result_eq_error rejected other⟩
  · rw [fails]
    refine ⟨fun term read => (by cases read), fun failure rejected other => ?_⟩
    exact absurd (Except.error.inj rejected).symm (other _)

/-- The limit only cuts a run off, and only by what it leaves at the level where the run
starts. Of two runs from one cursor, on a stack or not, the one that is left no more comes
to the same as the other, up to the limit that a failure for the nesting names and with
the cursor at the same place, or it fails for the nesting; it returns a term that the other
returns exactly when no compound of the term lies where the limit is reached; and where
both are left the same, they come to the same. So raising the limit of a dialect changes
no term that a text is read as, and no failure but one for the nesting. -/
theorem limit_cuts_off :
    (∀ (stack : Stack) (limit other : Number) (level elsewhere : Int) (cursor : Cursor)
      (rule : Number → Int → Cursor → Outcome Term), rule = expr ∨ rule = onStack stack expr →
      limit.budget level ≤ other.budget elsewhere →
      ((rule limit level cursor).Alike (rule other elsewhere cursor) ∨
        ∃ stopped, rule limit level cursor = .failed (.tooDeep limit) stopped []) ∧
      (∀ term, (rule other elsewhere cursor).result = .ok term →
        ((∃ value, (rule limit level cursor).result = .ok value) ↔ term.Fits limit level)) ∧
      (other.budget elsewhere ≤ limit.budget level →
        (rule limit level cursor).Alike (rule other elsewhere cursor))) ∧
    (∀ (stack : Stack) (dialect higher : Dialect) (text : Text),
      higher.reserved = dialect.reserved →
      dialect.limit.budget 0 ≤ higher.limit.budget 0 →
      (∀ term, (parse stack dialect text).result = .ok term →
        (parse stack higher text).result = .ok term) ∧
      (∀ failure, (parse stack dialect text).result = .error failure →
        (∀ bound, failure ≠ .tooDeep bound) →
        (parse stack higher text).result = .error failure)) := by
  refine ⟨fun stack limit other level elsewhere cursor rule isRule less => ?_,
    fun stack dialect higher text same raised =>
      result_parse_of_budget_le same raised stack text⟩
  have tighter : Tighter limit level other elsewhere := fun _ => Number.atMost_of_budget_le less
  have cut : CutOff rule limit level other elsewhere cursor := by
    rcases isRule with rfl | rfl
    · exact cutOff_expr tighter cursor
    · exact cutOff_onStack_expr stack tighter cursor
  exact ⟨cut.alike_or_tooDeep, cut.ok_iff_fits, fun more =>
    cut.alike_of_tighter fun _ => Number.atMost_of_budget_le more⟩

/-- With one level left `F(A,)` is returned as it is with two, because its nesting fits,
and two hundred levels instead of one change neither that term nor the failure of `F(,`. -/
theorem limit_cuts_off_oneLevel :
    (Number.whole 1).budget 0 ≤ (Number.whole 3).budget 1 ∧
    (onStack .standard expr (.whole 3) 1 atTrailingSeparator).result =
      .ok (.compound ['F'] [.atom ['A']]) ∧
    (∃ value, (onStack .standard expr (.whole 1) 0 atTrailingSeparator).result = .ok value) ∧
    Dialect.standard.reserved = oneLevel.reserved ∧
    oneLevel.limit.budget 0 ≤ Dialect.standard.limit.budget 0 ∧
    (parse .standard .standard "F(A,)".toList).result = .ok (.compound ['F'] [.atom ['A']]) ∧
    (parse .standard .standard "F(,".toList).result = .error (.expectedAtom .separator) := by
  have less : (Number.whole 1).budget 0 ≤ (Number.whole 3).budget 1 :=
    Number.budget_whole_le_iff.2 (by decide)
  have long : (onStack .standard expr (.whole 3) 1 atTrailingSeparator).result =
      .ok (.compound ['F'] [.atom ['A']]) := by
    cbv
  have fits : (Term.compound ['F'] [.atom ['A']]).Fits (.whole 1) 0 :=
    ⟨by decide, trivial, trivial⟩
  have raised : oneLevel.limit.budget 0 ≤ Dialect.standard.limit.budget 0 := by decide
  have read : (parse .standard oneLevel "F(A,)".toList).result =
      .ok (.compound ['F'] [.atom ['A']]) := by
    cbv
  have rejected : (parse .standard oneLevel "F(,".toList).result =
      .error (.expectedAtom .separator) := by
    cbv
  obtain ⟨runs, texts⟩ := limit_cuts_off
  refine ⟨less, long, ?_, rfl, raised, (texts .standard oneLevel .standard _ rfl raised).1 _ read,
    (texts .standard oneLevel .standard _ rfl raised).2 _ rejected fun bound => Failure.noConfusion⟩
  exact ((runs _ _ _ _ _ _ _ (.inr rfl) less).2.1 _ long).2 fits

end TermText.Parser
