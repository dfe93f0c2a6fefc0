/-
# Lines of the log

A text is shown in messages between quotes with every line feed escaped, so whatever
text is read, each note on its reading is a single line. No text can therefore be
mistaken in the log for a line of its own.
-/

import TermText.CommandLine.Report
import TermText.Proofs.Reader

namespace TermText

/-! ## Texts in messages -/

/-- A message put together of single lines is a single line. -/
theorem lineFeed_notMem_append {front back : String} (first : '\n' ∉ front.toList)
    (second : '\n' ∉ back.toList) : '\n' ∉ (front ++ back).toList := by
  rw [String.toList_append, List.mem_append, not_or]
  exact ⟨first, second⟩

/-- Digits are no line feeds, whatever the base. -/
theorem lineFeed_notMem_toDigits {base : Nat} (large : 1 < base) (number : Nat) :
    '\n' ∉ Nat.toDigits base number := by
  induction number using Nat.strongRecOn with
  | ind number ih =>
      rw [Nat.toDigits_eq_if large]
      split
      · simp
      · next many =>
          have fewer : number / base < number := Nat.div_lt_self (by omega) large
          simpa using ih _ fewer

theorem lineFeed_notMem_toString (number : Nat) : '\n' ∉ (toString number).toList := by
  rw [Nat.toString_eq_repr, Nat.toList_repr]
  exact lineFeed_notMem_toDigits (by decide) number

namespace Text

theorem lineFeed_notMem_hexadecimal (width value : Nat) : '\n' ∉ hexadecimal width value := by
  simp [hexadecimal, lineFeed_notMem_toDigits]

theorem lineFeed_notMem_numericEscape (c : Char) : '\n' ∉ numericEscape c := by
  unfold numericEscape
  split_ifs <;> simp [lineFeed_notMem_hexadecimal]

/-- A line feed is escaped, and no escape holds one. -/
theorem lineFeed_notMem_escape {quote : Char} (visible : quote ≠ '\n') (c : Char) :
    '\n' ∉ escape quote c := by
  unfold escape
  split_ifs with special
  · rcases special with rfl | rfl
    · simpa using visible.symm
    · decide
  · decide
  · decide
  · decide
  · next other _ _ _ => simpa using Ne.symm other
  · exact lineFeed_notMem_numericEscape c

theorem enclosing_ne_lineFeed (text : Text) : enclosing text ≠ '\n' := by
  unfold enclosing
  split <;> decide

/-- A quoted text is a single line. -/
theorem lineFeed_notMem_quoted (text : Text) : '\n' ∉ text.quoted.toList := by
  have visible := enclosing_ne_lineFeed text
  simp [quoted, visible.symm, lineFeed_notMem_escape visible]

end Text

theorem Kind.lineFeed_notMem_name (kind : Kind) : '\n' ∉ kind.name.toList := by
  cases kind <;> decide

theorem Token.lineFeed_notMem_literal (token : Token) : '\n' ∉ token.literal.toList := by
  unfold Token.literal
  split
  · exact lineFeed_notMem_append (lineFeed_notMem_append (by decide)
      (Text.lineFeed_notMem_quoted _)) (by decide)
  · exact lineFeed_notMem_append (lineFeed_notMem_append (by decide)
      (Kind.lineFeed_notMem_name _)) (by decide)

/-- The message of a failure that reading comes to is a single line, if the limit is
written on one. -/
theorem Failure.lineFeed_notMem_message {limit : Number} {stopped : Cursor} {notes : List Note}
    {failure : Failure} (reported : failure.Reported limit stopped notes)
    (plain : '\n' ∉ limit.literal.toList) : '\n' ∉ failure.message.toList := by
  cases failure with
  | expectedAtom got | expectedSeparator got =>
      exact lineFeed_notMem_append (by decide) (Kind.lineFeed_notMem_name got)
  | expectedOperator => decide
  | tooDeep bound =>
      obtain ⟨-, rfl⟩ := reported
      exact lineFeed_notMem_append (lineFeed_notMem_append (by decide) plain) (by decide)
  | expected | stackExhausted => exact reported.elim

theorem Note.lineFeed_notMem_tokenized (characters tokens : Nat) :
    '\n' ∉ (tokenized characters tokens).message.toList := by
  refine lineFeed_notMem_append (lineFeed_notMem_append (lineFeed_notMem_append
    (lineFeed_notMem_append ?_ ?_) ?_) ?_) ?_
  · decide
  · exact lineFeed_notMem_toString characters
  · decide
  · exact lineFeed_notMem_toString tokens
  · decide

theorem Note.lineFeed_notMem_seen {label : Text} (plain : '\n' ∉ label) (cursor : Cursor) :
    '\n' ∉ (seen label cursor).message.toList := by
  refine lineFeed_notMem_append (lineFeed_notMem_append (lineFeed_notMem_append
    (lineFeed_notMem_append (lineFeed_notMem_append ?_ ?_) ?_) ?_) ?_) ?_
  · decide
  · rwa [String.toList_ofList]
  · decide
  · exact Token.lineFeed_notMem_literal _
  · decide
  · exact Token.lineFeed_notMem_literal _

theorem Note.lineFeed_notMem_rejected {failure : Failure} (plain : '\n' ∉ failure.remark.toList)
    (text : Text) : '\n' ∉ (rejected text failure).message.toList := by
  refine lineFeed_notMem_append (lineFeed_notMem_append (lineFeed_notMem_append ?_ ?_) ?_) plain
  · decide
  · exact Text.lineFeed_notMem_quoted text
  · decide

/-- What a failed reading notes is at most one line. -/
theorem Failure.Reported.lineFeed_notMem {limit : Number} {stopped : Cursor} {notes : List Note}
    {failure : Failure} (reported : failure.Reported limit stopped notes) {note : Note}
    (member : note ∈ notes) : '\n' ∉ note.message.toList := by
  cases failure with
  | expectedSeparator got =>
      obtain rfl : notes = [.seen "seq".toList stopped] := reported
      rw [List.mem_singleton] at member
      exact member ▸ Note.lineFeed_notMem_seen (by decide) stopped
  | expectedAtom | expectedOperator =>
      obtain rfl : notes = [] := reported
      cases member
  | tooDeep =>
      obtain ⟨rfl, -⟩ := reported
      cases member
  | expected | stackExhausted => exact reported.elim

/-! ## Notes on a text -/

namespace Parser

variable {stack : Stack} {dialect : Dialect} {text : Text}

/-- Why a text is rejected is said in a single line, and so is what is noted of it, if the
limit is written on one. -/
theorem lineFeed_notMem_of_result (plain : '\n' ∉ dialect.limit.literal.toList)
    {failure : Failure} (failed : (parse stack dialect text).result = .error failure) :
    '\n' ∉ failure.message.toList ∧ '\n' ∉ failure.remark.toList := by
  rcases parse_cases stack dialect text with ⟨term, last, read, -⟩ |
    ⟨other, stopped, notes, -, reported, rejected⟩ | ⟨-, stopped, rejected⟩
  · rw [read] at failed
    cases failed
  · rw [rejected.noted] at failed
    obtain rfl : other = failure := Except.error.inj failed
    have single := Failure.lineFeed_notMem_message reported plain
    refine ⟨single, ?_⟩
    cases other with
    | stackExhausted => exact reported.elim
    | expectedAtom | expectedOperator | expectedSeparator | expected | tooDeep => exact single
  · rw [rejected.noted] at failed
    obtain rfl : Failure.stackExhausted = failure := Except.error.inj failed
    decide

/-- Every note on a text is a single line, if the limit is written on one. -/
theorem lineFeed_notMem_of_mem_notes (plain : '\n' ∉ dialect.limit.literal.toList) {note : Note}
    (member : note ∈ (parse stack dialect text).notes) : '\n' ∉ note.message.toList := by
  have first : '\n' ∉ (tokenized dialect text).message.toList :=
    Note.lineFeed_notMem_tokenized _ _
  have last {failure : Failure} (failed : (parse stack dialect text).result = .error failure) :
      '\n' ∉ (Note.rejected text failure).message.toList :=
    Note.lineFeed_notMem_rejected (lineFeed_notMem_of_result plain failed).2 text
  rcases parse_cases stack dialect text with ⟨term, last, read, -⟩ |
    ⟨failure, stopped, notes, -, reported, rejected⟩ | ⟨-, stopped, rejected⟩
  · rw [read, Outcome.notes, List.mem_singleton] at member
    exact member ▸ first
  · rw [rejected.noted, Outcome.notes, List.mem_cons, List.mem_append,
      List.mem_singleton] at member
    rcases member with rfl | inner | rfl
    · exact first
    · exact reported.lineFeed_notMem inner
    · exact last (by rw [rejected.noted]; rfl)
  · rw [rejected.noted, Outcome.notes, List.nil_append, List.mem_cons,
      List.mem_singleton] at member
    rcases member with rfl | rfl
    · exact first
    · exact last (by rw [rejected.noted]; rfl)

end Parser

/-! ## The log -/

namespace CommandLine

/-- Whether a line is one of the log: a single line with the time and the level of a
message in front. -/
def IsLogLine (line : String) : Prop :=
  ∃ message : String, line = logLine message ∧ '\n' ∉ message.toList

/-- All that is logged of a verbose reading is lines of the log. -/
theorem isLogLine_of_mem_log {stack : Parser.Stack} {text : Text} {line : String}
    (member : line ∈ log (Parser.parse stack .standard text).notes) : IsLogLine line := by
  simp only [log, List.map_cons, List.map_map, List.mem_cons, List.mem_map] at member
  rcases member with rfl | ⟨note, member, rfl⟩
  · exact ⟨_, rfl, by simp [Text.lineFeed_notMem_quoted]⟩
  · exact ⟨_, rfl, Parser.lineFeed_notMem_of_mem_notes (by decide) member⟩

end CommandLine

end TermText
