/-
# Tokens by splitting

A notation is cut into tokens by whole-text steps: each punctuation character
in turn is put between two markers, the result is split at the markers, and
the pieces that are not empty are the tokens. A marker that was in the text
before is such a cut too, so it ends a name and leaves nothing behind.
-/

import TermText.Dialect
import TermText.Token

namespace TermText.Token

/-- Every `c` of a text between two markers. -/
def isolate (marker c : Char) (text : Text) : Text :=
  text.flatMap fun d => if d = c then [marker, d, marker] else [d]

/-- A text with every punctuation character between two markers. -/
def marked (dialect : Dialect) (text : Text) : Text :=
  dialect.punctuation.foldl (fun text c => isolate dialect.marker c text) text

/-- What lies between the markers, where something does. -/
def pieces (dialect : Dialect) (text : Text) : List Text :=
  ((marked dialect text).splitOn dialect.marker).filter fun piece => !piece.isEmpty

/-- The pieces that are punctuation, with their kinds. -/
def punctuationKinds (dialect : Dialect) : List (Text × Kind) :=
  [([dialect.separator], .separator), ([dialect.opening], .opening),
    ([dialect.closing], .closing)]

/-- The token that a piece is: punctuation by its text, a name otherwise. -/
def ofPiece (dialect : Dialect) (piece : Text) : Token :=
  ⟨((punctuationKinds dialect).lookup piece).getD .atom, piece⟩

/-- The tokens of a text, with the stop after the last one. -/
def ofText (dialect : Dialect) (text : Text) : List Token :=
  (pieces dialect text).map (ofPiece dialect) ++ [stop]

end TermText.Token
