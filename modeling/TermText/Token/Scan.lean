/-
# Tokens by scanning

The same tokens read from left to right in one pass: a name is collected
character by character until punctuation, a marker or the end of the text
closes it. The scanner says what the tokens of a text are without an
intermediate text; the reader itself splits.
-/

import TermText.Dialect
import TermText.Token

namespace TermText.Token

/-- The kind of a punctuation character. -/
def punctuationKind? (dialect : Dialect) (c : Char) : Option Kind :=
  if c = dialect.separator then some .separator
  else if c = dialect.opening then some .opening
  else if c = dialect.closing then some .closing
  else none

/-- The name collected so far as a token; nothing collected is no token. -/
def closeName : Text → List Token
  | [] => []
  | name => [⟨.atom, name⟩]

/-- The tokens of the rest of a text after the characters of `name`. -/
def scanFrom (dialect : Dialect) (name : Text) : Text → List Token
  | [] => closeName name ++ [stop]
  | c :: rest =>
      match punctuationKind? dialect c with
      | some kind => closeName name ++ ⟨kind, [c]⟩ :: scanFrom dialect [] rest
      | none =>
          if c = dialect.marker then closeName name ++ scanFrom dialect [] rest
          else scanFrom dialect (name ++ [c]) rest

/-- The tokens of a text, with the stop after the last one. -/
def scan (dialect : Dialect) (text : Text) : List Token := scanFrom dialect [] text

end TermText.Token
