/-
# What is noted of a text

The messages on the reading of a text are fixed by its outcome. The first counts its
characters and its tokens. Where reading stopped for want of a separator, the next shows
the two tokens at that place, and no other failure shows any tokens. The last one repeats
the text and the failure, where rejections are noted; the end of the stack it calls by
another name than the failure does. In particular the checks that a compound makes of its
own brackets never leave a message.
-/

import TermText.Proofs.RoundTrip
import TermText.Proofs.Scanning
import TermText.Proofs.Towers

namespace TermText

/-! ## How messages start -/

/-- A message starts as the front of it does. -/
theorem prefix_append {start front : String} (starts : start.toList <+: front.toList)
    (back : String) : start.toList <+: (front ++ back).toList := by
  rw [String.toList_append]
  exact starts.trans (List.prefix_append _ _)

/-- Whether two messages diverge before either of them ends. -/
def Diverge (first second : String) : Prop :=
  ¬ (first.toList <+: second.toList ∨ second.toList <+: first.toList)

instance (first second : String) : Decidable (Diverge first second) :=
  inferInstanceAs (Decidable (¬ (first.toList <+: second.toList ∨ second.toList <+: first.toList)))

/-- Once they have diverged they stay apart, whatever comes after. -/
theorem Diverge.append {start front : String} (apart : Diverge start front) (back : String) :
    Diverge start (front ++ back) := by
  have onward : front.toList <+: (front ++ back).toList := prefix_append (List.prefix_refl _) back
  rintro (starts | ends)
  · exact apart (List.prefix_or_prefix_of_prefix starts onward)
  · exact apart (.inr (onward.trans ends))

theorem Diverge.not_starts {start message : String} (apart : Diverge start message) :
    ¬ start.toList <+: message.toList :=
  fun starts => apart (.inl starts)

/-! ## Failures for want of a separator -/

namespace Failure

/-- Whether a failure is, by the start of its message, one for want of a separator. -/
def WantsSeparator (failure : Failure) : Prop :=
  "Expected ')' or separator".toList <+: failure.message.toList

instance (failure : Failure) : Decidable failure.WantsSeparator :=
  inferInstanceAs (Decidable ("Expected ')' or separator".toList <+: failure.message.toList))

theorem wantsSeparator_expectedSeparator (got : Kind) :
    (expectedSeparator got).WantsSeparator :=
  prefix_append (by decide) got.name

/-- No other failure that reading comes to starts in this way. -/
theorem Reported.not_wantsSeparator {limit : Number} {stopped : Cursor} {notes : List Note}
    {failure : Failure} (reported : failure.Reported limit stopped notes)
    (other : ∀ got, failure ≠ .expectedSeparator got) : ¬ failure.WantsSeparator := by
  cases failure with
  | expectedAtom got =>
      have apart : Diverge "Expected ')' or separator" "Expected atom, got " := by decide
      exact (apart.append got.name).not_starts
  | expectedOperator => decide
  | expectedSeparator got => exact absurd rfl (other got)
  | tooDeep bound =>
      have apart : Diverge "Expected ')' or separator" "Nesting deeper than " := by decide
      exact ((apart.append bound.literal).append " levels").not_starts
  | expected | stackExhausted => exact reported.elim

end Failure

/-! ## Messages on a text -/

namespace Parser

variable {dialect : Dialect} {text : Text} {outcome : Outcome Term}

/-- The message that counts the characters and the tokens of a text. -/
def countMessage (dialect : Dialect) (text : Text) : String :=
  "Tokenized " ++ toString text.length ++ " characters into " ++
    toString (Token.ofText dialect text).length ++ " tokens"

/-- The form in which the message shows a token: a name with its text between quotes, any
other token by its kind. -/
def shownToken (token : Token) : String :=
  match token.kind with
  | .atom => "Token(ATOM, " ++ token.text.quoted ++ ")"
  | .separator => "Token(SEP)"
  | .opening => "Token(LPAR)"
  | .closing => "Token(RPAR)"
  | .stop => "Token(END)"

/-- The message that shows the two tokens at a place where a separator is wanted. -/
def placeMessage (place : Cursor) : String :=
  "TRACE:seq token=" ++ shownToken place.current ++ " lookahead=" ++ shownToken place.lookahead

/-- The message that repeats a rejected text and its failure. -/
def rejectionMessage (text : Text) (failure : Failure) : String :=
  "Parse of " ++ text.quoted ++ " failed: " ++
    if failure = .stackExhausted then "recursion limit reached" else failure.message

/-- What an outcome says was told until reading ended. -/
def toldOfReading (dialect : Dialect) (text : Text) (outcome : Outcome Term) : List String :=
  countMessage dialect text ::
    match outcome.result with
    | .ok _ => []
    | .error failure => if failure.WantsSeparator then [placeMessage outcome.cursor] else []

/-- What an outcome says was told after reading had ended. -/
def toldOfRejection (text : Text) (outcome : Outcome Term) : List String :=
  match outcome.result with
  | .ok _ => []
  | .error failure => [rejectionMessage text failure]

theorem literal_eq_shownToken (token : Token) : token.literal = shownToken token := by
  rw [Token.literal, shownToken]
  cases token.kind with
  | atom => rfl
  | separator | opening | closing | stop =>
      simp only [Kind.name]
      decide

/-- The place where a separator is wanted is shown under the label of argument lists. -/
theorem message_seen (place : Cursor) :
    (Note.seen "seq".toList place).message = placeMessage place := by
  have label : "TRACE:" ++ String.ofList "seq".toList ++ " token=" = "TRACE:seq token=" := rfl
  calc
    (Note.seen "seq".toList place).message = "TRACE:seq token=" ++ place.current.literal ++
        " lookahead=" ++ place.lookahead.literal :=
      congrArg (· ++ place.current.literal ++ " lookahead=" ++ place.lookahead.literal) label
    _ = placeMessage place :=
      congrArg₂ (fun first second => "TRACE:seq token=" ++ first ++ " lookahead=" ++ second)
        (literal_eq_shownToken place.current) (literal_eq_shownToken place.lookahead)

/-- The end of the stack is noted in words of its own, any other failure in its own words. -/
theorem message_rejected (text : Text) (failure : Failure) :
    (Note.rejected text failure).message = rejectionMessage text failure := by
  cases failure <;> simp [Note.message, rejectionMessage, Failure.remark]

/-- The end of the stack is not for want of a separator. -/
theorem not_wantsSeparator_stackExhausted : ¬ Failure.stackExhausted.WantsSeparator := by
  decide

/-- The notes of a failed reading are told by its failure and by where it stopped. -/
theorem map_message_of_reported {limit : Number} {stopped : Cursor} {notes : List Note}
    {failure : Failure} (reported : failure.Reported limit stopped notes) :
    notes.map Note.message =
      if failure.WantsSeparator then [placeMessage stopped] else [] := by
  cases failure with
  | expectedSeparator got =>
      obtain rfl : notes = [.seen "seq".toList stopped] := reported
      rw [if_pos (Failure.wantsSeparator_expectedSeparator got), List.map_singleton, message_seen]
  | expectedAtom | expectedOperator =>
      rw [if_neg (reported.not_wantsSeparator fun _ => Failure.noConfusion)]
      obtain rfl : notes = [] := reported
      rfl
  | tooDeep =>
      rw [if_neg (reported.not_wantsSeparator fun _ => Failure.noConfusion)]
      obtain ⟨rfl, -⟩ := reported
      rfl
  | expected | stackExhausted => exact reported.elim

/-- A failure for want of a separator names the token at the place where reading stopped. -/
theorem message_eq_of_wantsSeparator {limit : Number} {stopped : Cursor} {notes : List Note}
    {failure : Failure} (reported : failure.Reported limit stopped notes)
    (described : failure.Describes stopped) (wants : failure.WantsSeparator) :
    failure.message = "Expected ')' or separator, got " ++ stopped.current.kind.name := by
  cases failure with
  | expectedSeparator got =>
      obtain ⟨rfl, -⟩ := described
      rfl
  | expectedAtom | expectedOperator | expected | tooDeep | stackExhausted =>
      exact absurd wants (reported.not_wantsSeparator fun _ => Failure.noConfusion)

/-- No message that is told is of a check for a single kind of token. -/
theorem not_expect_of_mem_told {message : String}
    (told : message ∈ toldOfReading dialect text outcome ++ toldOfRejection text outcome) :
    ¬ "TRACE:expect".toList <+: message.toList := by
  have count : Diverge "TRACE:expect" "Tokenized " := by decide
  have place : Diverge "TRACE:expect" "TRACE:seq token=" := by decide
  have rejection : Diverge "TRACE:expect" "Parse of " := by decide
  rw [List.mem_append, toldOfReading, toldOfRejection, List.mem_cons] at told
  rcases told with (rfl | shown) | last
  · exact ((((count.append _).append _).append _).append _).not_starts
  · cases came : outcome.result with
    | ok => simp [came] at shown
    | error failure =>
        simp only [came] at shown
        split at shown
        · rw [List.mem_singleton.1 shown]
          exact (((place.append _).append _).append _).not_starts
        · cases shown
  · cases came : outcome.result with
    | ok => simp [came] at last
    | error failure =>
        simp only [came] at last
        rw [List.mem_singleton.1 last]
        exact (((rejection.append _).append _).append _).not_starts

/-- What a rejected text leaves behind is told by its failure and by where reading stopped. -/
theorem RejectedAs.told {stack : Stack} {failure : Failure} {stopped : Cursor} {notes : List Note}
    (rejected : RejectedAs stack dialect text failure stopped notes)
    (shown : notes.map Note.message =
      if failure.WantsSeparator then [placeMessage stopped] else []) :
    (parse stack dialect text).notes.map Note.message =
      toldOfReading dialect text (parse stack dialect text) ++
        toldOfRejection text (parse stack dialect text) ∧
    (parseStrict stack dialect text).notes.map Note.message =
      toldOfReading dialect text (parse stack dialect text) := by
  have counted : (tokenized dialect text).message = countMessage dialect text := rfl
  rw [rejected.noted, rejected.strict]
  simp only [Outcome.notes, List.map_cons, List.map_append, shown, counted, message_rejected]
  exact ⟨rfl, rfl⟩

/-- On any stack the messages on a text, in their order, are those that the outcome tells of,
and a reader that notes no rejection leaves the same without the last. A failure for want of a
separator names the kind of the first token that is shown, and no message is of a check for a
single kind of token. Where the stack has room for notes in as many levels as the limit leaves,
no failure is for its end, so that the last message repeats the failure as it is. -/
theorem messages_determined (stack : Stack) (dialect : Dialect) (text : Text) :
    (parse stack dialect text).notes.map Note.message =
      toldOfReading dialect text (parse stack dialect text) ++
        toldOfRejection text (parse stack dialect text) ∧
    (parseStrict stack dialect text).notes.map Note.message =
      toldOfReading dialect text (parse stack dialect text) ∧
    (∀ failure, (parse stack dialect text).result = .error failure → failure.WantsSeparator →
      failure.message = "Expected ')' or separator, got " ++
        (parse stack dialect text).cursor.current.kind.name) ∧
    (∀ message ∈ (parse stack dialect text).notes.map Note.message,
      ¬ "TRACE:expect".toList <+: message.toList) ∧
    (dialect.limit.atMost stack.noted = true →
      ∀ failure, (parse stack dialect text).result = .error failure →
        failure ≠ .stackExhausted) := by
  have told : (parse stack dialect text).notes.map Note.message =
      toldOfReading dialect text (parse stack dialect text) ++
        toldOfRejection text (parse stack dialect text) ∧
      (parseStrict stack dialect text).notes.map Note.message =
        toldOfReading dialect text (parse stack dialect text) := by
    rcases parse_cases stack dialect text with ⟨term, last, read, strict⟩ |
      ⟨failure, stopped, notes, -, reported, rejected⟩ | ⟨-, stopped, rejected⟩
    · rw [read, strict]
      exact ⟨rfl, rfl⟩
    · exact rejected.told (map_message_of_reported reported)
    · exact rejected.told (if_neg not_wantsSeparator_stackExhausted).symm
  refine ⟨told.1, told.2, fun failure failed wants => ?_, fun message member => ?_,
    fun roomy failure => ne_stackExhausted_of_parse roomy⟩
  · rcases parse_cases stack dialect text with ⟨term, last, read, -⟩ |
      ⟨other, stopped, notes, described, reported, rejected⟩ | ⟨-, stopped, rejected⟩
    · rw [read] at failed
      cases failed
    · rw [rejected.noted] at failed ⊢
      obtain rfl : other = failure := Except.error.inj failed
      exact message_eq_of_wantsSeparator reported described wants
    · rw [rejected.noted] at failed
      obtain rfl : Failure.stackExhausted = failure := Except.error.inj failed
      exact absurd wants not_wantsSeparator_stackExhausted
  · rw [told.1] at member
    exact not_expect_of_mem_told member

/-- Behind `F(A(B)` a separator or a bracket is missing in front of `C`, and three messages
are left of it. -/
theorem messages_determined_unseparated :
    (parse .standard .standard "F(A(B)C)".toList).result = .error (.expectedSeparator .atom) ∧
    (Failure.expectedSeparator .atom).WantsSeparator ∧
    toldOfReading .standard "F(A(B)C)".toList (parse .standard .standard "F(A(B)C)".toList) ++
        toldOfRejection "F(A(B)C)".toList (parse .standard .standard "F(A(B)C)".toList) =
      ["Tokenized 8 characters into 9 tokens",
        "TRACE:seq token=Token(ATOM, 'C') lookahead=Token(RPAR)",
        "Parse of 'F(A(B)C)' failed: Expected ')' or separator, got ATOM"] ∧
    (Failure.expectedSeparator .atom).message = "Expected ')' or separator, got " ++
      (parse .standard .standard "F(A(B)C)".toList).cursor.current.kind.name ∧
    (∀ message ∈ (parse .standard .standard "F(A(B)C)".toList).notes.map Note.message,
      ¬ "TRACE:expect".toList <+: message.toList) ∧
    Dialect.standard.limit.atMost Stack.standard.noted = true ∧
    Failure.expectedSeparator .atom ≠ .stackExhausted := by
  have roomy : Dialect.standard.limit.atMost Stack.standard.noted = true := by decide
  have failed : (parse .standard .standard "F(A(B)C)".toList).result =
      .error (.expectedSeparator .atom) := by
    cbv
  have noted : (parse .standard .standard "F(A(B)C)".toList).notes =
      [.tokenized 8 9, .trace "seq".toList ⟨.atom, ['C']⟩ ⟨.closing, [')']⟩,
        .rejected "F(A(B)C)".toList (.expectedSeparator .atom)] := by
    cbv
  have wants := Failure.wantsSeparator_expectedSeparator .atom
  obtain ⟨messages, -, named, unchecked, noEnd⟩ :=
    messages_determined .standard .standard "F(A(B)C)".toList
  refine ⟨failed, wants, ?_, named _ failed wants, unchecked, roomy, noEnd roomy _ failed⟩
  rw [← messages, noted]
  decide +kernel

/-! ## Where the last message does not repeat the failure -/

/-- The standard characters with three hundred and thirty levels of nesting. -/
def deepest : Dialect :=
  { Dialect.standard with limit := .whole 330, positive := by decide, bounded := by decide }

/-- So many operators, each with its opening bracket, and a name. -/
def unclosed : Nat → Text
  | 0 => ['A']
  | height + 1 => 'F' :: '(' :: unclosed height

theorem ofText_unclosed (height : Nat) : Token.ofText deepest (unclosed height) =
    Token.openings height ++ [⟨.atom, ['A']⟩] ++ [.stop] := by
  rw [Token.ofText_eq_scanFrom]
  induction height with
  | zero => decide
  | succ height ih =>
      have name : deepest.IsName ['F'] := by
        refine ⟨by simp, ?_⟩
        simp [Dialect.reserved, deepest, Dialect.standard]
      have ends : Token.EndsName deepest ('(' :: unclosed height) :=
        Token.endsName_punctuation (by simp [Dialect.punctuation, deepest, Dialect.standard]) _
      have bracket : Token.punctuationKind? deepest '(' = some .opening := by decide
      rw [unclosed, ← List.singleton_append, Token.scanFrom_name name ends,
        Token.scanFrom_punctuation bracket, ih]
      rfl

/-- Where the stack has no room for a note inside so many brackets, the stack ends, and that
is noted. -/
theorem parse_unclosed (stack : Stack) (height : Nat) (within : height < 330)
    (deeper : stack.noted < height + 1) :
    (parse stack deepest (unclosed (height + 1))).result = .error .stackExhausted ∧
    (parse stack deepest (unclosed (height + 1))).notes.map Note.message =
      [countMessage deepest (unclosed (height + 1)),
        rejectionMessage (unclosed (height + 1)) .stackExhausted] := by
  have fits : (Term.tower (height + 1)).Fits deepest.limit 0 := fits_tower (by omega)
  have started : start deepest (unclosed (height + 1)) = atOpenings (height + 1) := by
    rw [start, ofText_unclosed, atOpenings]
  have exceeds : Exceeds stack expr deepest.limit 0 (start deepest (unclosed (height + 1))) := by
    rw [started]
    exact exceeds_openings fits deeper
  obtain ⟨stopped, ended⟩ := measured_expr.exists_of_exceeds exceeds
  rw [(rejectedAs_of_onStack ended).noted, ← message_rejected]
  exact ⟨rfl, rfl⟩

/-- Where notes are written, three hundred and thirty brackets that nothing closes end the
stack, and the last message does not repeat the text of that failure. -/
theorem messages_determined_fails :
    deepest.limit.atMost 330 = true ∧
    (parse .logging deepest (unclosed 330)).result = .error .stackExhausted ∧
    (parse .logging deepest (unclosed 330)).notes.map Note.message =
      [countMessage deepest (unclosed 330),
        "Parse of " ++ (unclosed 330).quoted ++ " failed: " ++ "recursion limit reached"] ∧
    "Parse of " ++ (unclosed 330).quoted ++ " failed: " ++ Failure.stackExhausted.message ∉
      (parse .logging deepest (unclosed 330)).notes.map Note.message := by
  obtain ⟨failed, messages⟩ :=
    parse_unclosed .logging 329 (by decide) (by decide)
  refine ⟨by decide, failed, messages, ?_⟩
  rw [messages, List.mem_cons, List.mem_singleton]
  have count : Diverge "Parse of " "Tokenized " := by decide
  rintro (same | same)
  · have starts : "Parse of ".toList <+: (countMessage deepest (unclosed 330)).toList := by
      rw [← same]
      exact prefix_append (prefix_append (prefix_append (List.prefix_refl _) _) _) _
    exact ((((count.append _).append _).append _).append _).not_starts starts
  · rw [rejectionMessage, if_pos rfl, String.append_right_inj] at same
    exact absurd same (by decide)

end Parser

end TermText
