/-
# Reading a text

A text is cut into tokens and the term at the front of them is read at level
zero; tokens after the term are ignored. A reader notes how many tokens there
were, and `parse` also notes why a text was rejected.
-/

import TermText.Parser.Stack
import TermText.Term.Render
import TermText.Token.Split

namespace TermText.Parser

/-- The cursor on the first token of a text. -/
def start (dialect : Dialect) (text : Text) : Cursor := .ofTokens (Token.ofText dialect text)

/-- The note that a text was cut into tokens. -/
def tokenized (dialect : Dialect) (text : Text) : Note :=
  .tokenized text.length (Token.ofText dialect text).length

/-- Read the term at the front of a text. -/
def parseStrict (stack : Stack) (dialect : Dialect) (text : Text) : Outcome Term :=
  (onStack stack expr dialect.limit 0 (start dialect text)).after [tokenized dialect text]

/-- Read the term at the front of a text, and note a rejection. -/
def parse (stack : Stack) (dialect : Dialect) (text : Text) : Outcome Term :=
  match parseStrict stack dialect text with
  | .returned term cursor notes => .returned term cursor notes
  | .failed failure cursor notes => .failed failure cursor (notes ++ [.rejected text failure])

/-- What comes of reading a text, writing the term and reading that again. -/
structure RoundTrip where
  term : Option Term
  written : Option Text
  sameTerm : Bool
  sameText : Bool
  notes : List Note

/-- Read a text, write the term and read it again. Where there is no term there
is nothing to write, and nothing is the same as nothing. -/
def roundTrip (stack : Stack) (dialect : Dialect) (text : Text) : RoundTrip :=
  let first := parse stack dialect text
  match first.result with
  | .error _ =>
      { term := none, written := none, sameTerm := true, sameText := true,
        notes := first.notes }
  | .ok term =>
      let written := term.render dialect
      let second := parse stack dialect written
      let again := second.result.toOption
      { term := some term
        written := some written
        sameTerm := again == some term
        sameText := again.map (·.render dialect) == some written
        notes := first.notes ++ second.notes }

end TermText.Parser
