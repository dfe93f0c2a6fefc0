/-
# Writing and reading

Reading undoes writing on exactly the readable terms of a dialect: the terms
whose names are names of the dialect and whose nesting fits its limit. No text
is read as any other term. A term with names of the dialect that nests too
deep has a notation too, and reading it fails for the nesting alone. The stack
is assumed to have as many levels as the limit leaves.
-/

import TermText.Proofs.Notation
import TermText.Proofs.Reader

namespace TermText.Parser

variable {dialect : Dialect}

/-- All the tokens of a text lie ahead of its start. -/
theorem ahead_start (dialect : Dialect) (text : Text) :
    (start dialect text).ahead = Token.ofText dialect text := by
  rw [start, Cursor.ahead_ofTokens]
  exact Cursor.close_append_stop _

/-- A term that is recognised in a text is readable. -/
theorem readable_of_recognises {text : Text} {term : Term} {last : Cursor}
    (recognised : Recognises dialect.limit 0 (start dialect text) term last) :
    term.Readable dialect := by
  refine ⟨recognised.spelled.named fun token member => ?_, recognised.fits⟩
  have within : token ∈ Token.ofText dialect text := by
    rw [← ahead_start, recognised.passes.1]
    exact List.mem_append_left _ member
  exact Token.isName_of_mem_ofText within

/-- From the start of a notation with names of the dialect, the tokens of the
term lead to the stop. -/
theorem exists_passes_tokens {term : Term} (named : term.Named dialect) :
    ∃ last, (start dialect (term.render dialect)).Passes (term.tokens dialect) last ∧
      last.current.kind = .stop := by
  have ahead := ahead_start dialect (term.render dialect)
  rw [Token.ofText_render named] at ahead
  obtain ⟨last, passage, rest⟩ := Cursor.Passes.exists_of_ahead ahead (by simp)
  have atStop : last.current = Token.stop := (List.cons.inj rest).1
  exact ⟨last, passage, by rw [atStop]; rfl⟩

/-- What reading the notation of a term with names of the dialect comes to. -/
theorem reads_render {term : Term} (named : term.Named dialect) :
    (term.Fits dialect.limit 0 → ∃ last,
      Recognises dialect.limit 0 (start dialect (term.render dialect)) term last) ∧
    (¬ term.Fits dialect.limit 0 → ∃ stopped,
      expr dialect.limit 0 (start dialect (term.render dialect)) =
        .failed (.tooDeep dialect.limit) stopped []) := by
  obtain ⟨last, passage, atStop⟩ := exists_passes_tokens named
  have ended : term.IsCompound ∨ last.current.kind ≠ .opening := .inr (by simp [atStop])
  refine ⟨fun fits => ⟨last, .of_passes passage (term.spells_tokens dialect) ended fits⟩,
    fun deep => ?_⟩
  obtain ⟨stopped, reads⟩ := (reads_of_spells dialect.limit (term.spells_tokens dialect) 0 _
    last passage ended).2 deep
  exact ⟨stopped, reads.followed⟩

variable {stack : Stack}

/-- The notation of a readable term is read as that term, if the stack has as many levels
as the limit leaves. -/
theorem result_parse_render {term : Term} (outlasted : dialect.limit.atMost stack.levels = true)
    (readable : term.Readable dialect) :
    (parse stack dialect (term.render dialect)).result = .ok term := by
  obtain ⟨last, recognised⟩ := (reads_render readable.1).1 readable.2
  exact recognised.result_parse (recognised.fits_levels (by simpa using outlasted))

/-- The notation of a term that nests too deep is refused for its nesting. -/
theorem result_parse_render_of_deep {term : Term}
    (outlasted : dialect.limit.atMost stack.levels = true) (named : term.Named dialect)
    (deep : ¬ term.Fits dialect.limit 0) :
    (parse stack dialect (term.render dialect)).result = .error (.tooDeep dialect.limit) := by
  obtain ⟨stopped, refused⟩ := (reads_render named).2 deep
  have noteless : (expr dialect.limit 0 (start dialect (term.render dialect))).notes = [] := by
    rw [refused]
    rfl
  rw [result_parse_of_noteless outlasted noteless, refused]
  rfl

/-- On any stack that has as many levels as the limit leaves, every term that a text is read
as is readable; a term is read back from its notation exactly when it is readable; and a
term that is unreadable only for its nesting is refused with the message that says so. -/
theorem parse_render (stack : Stack) (dialect : Dialect)
    (outlasted : dialect.limit.atMost stack.levels = true) :
    (∀ text term, (parse stack dialect text).result = .ok term → term.Readable dialect) ∧
    (∀ term : Term, (parse stack dialect (term.render dialect)).result = .ok term ↔
      term.Readable dialect) ∧
    (∀ term : Term, term.Named dialect → ¬ term.Fits dialect.limit 0 →
      ∃ failure, (parse stack dialect (term.render dialect)).result = .error failure ∧
        failure.message = "Nesting deeper than " ++ dialect.limit.literal ++ " levels") := by
  have sound (text : Text) (term : Term) (read : (parse stack dialect text).result = .ok term) :
      term.Readable dialect :=
    readable_of_recognises (recognises_of_parse read).1
  refine ⟨sound, fun term => ⟨sound _ term, result_parse_render outlasted⟩,
    fun term named deep => ?_⟩
  exact ⟨_, result_parse_render_of_deep outlasted named deep, rfl⟩

/-- The standard characters with a single level of nesting. -/
def oneLevel : Dialect :=
  { Dialect.standard with limit := .whole 1, positive := by decide, bounded := by decide }

/-- On one level `F(A,)` is read as a readable term, and `F(G())` is refused for
its nesting. -/
theorem parse_render_oneLevel :
    oneLevel.limit.atMost Stack.standard.levels = true ∧
    (parse .standard oneLevel "F(A,)".toList).result = .ok (.compound ['F'] [.atom ['A']]) ∧
    (Term.compound ['F'] [.atom ['A']]).Readable oneLevel ∧
    (parse .standard oneLevel ((Term.compound ['F'] [.atom ['A']]).render oneLevel)).result =
      .ok (.compound ['F'] [.atom ['A']]) ∧
    (Term.compound ['F'] [.compound ['G'] []]).Named oneLevel ∧
    ¬ (Term.compound ['F'] [.compound ['G'] []]).Fits oneLevel.limit 0 ∧
    ∃ failure,
      (parse .standard oneLevel
        ((Term.compound ['F'] [.compound ['G'] []]).render oneLevel)).result = .error failure ∧
      failure.message = "Nesting deeper than " ++ oneLevel.limit.literal ++ " levels" := by
  have outlasted : oneLevel.limit.atMost Stack.standard.levels = true := by decide
  have read : (parse .standard oneLevel "F(A,)".toList).result =
      .ok (.compound ['F'] [.atom ['A']]) := by
    cbv
  have named : (Term.compound ['F'] [.compound ['G'] []]).Named oneLevel := by
    refine ⟨⟨by decide, ?_⟩, ⟨⟨by decide, ?_⟩, trivial⟩, trivial⟩
    · simp [Dialect.reserved, oneLevel, Dialect.standard]
    · simp [Dialect.reserved, oneLevel, Dialect.standard]
  have deep : ¬ (Term.compound ['F'] [.compound ['G'] []]).Fits oneLevel.limit 0 :=
    fun fits => absurd fits.2.1.1 (by decide)
  obtain ⟨sound, back, refused⟩ := parse_render .standard oneLevel outlasted
  have readable := sound _ _ read
  exact ⟨outlasted, read, readable, (back _).2 readable, named, deep, refused _ named deep⟩

end TermText.Parser
