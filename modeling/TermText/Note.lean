/-
# Notes

What a reader reports about its work while it goes on. Notes never influence a
result; they are part of an outcome so that their order can be relied on.
-/

import TermText.Cursor
import TermText.Parser.Failure

namespace TermText

/-- A report about the reading of a text. -/
inductive Note
  | tokenized (characters tokens : Nat)
  | trace (label : Text) (current lookahead : Token)
  | rejected (text : Text) (failure : Failure)
  deriving DecidableEq, Repr

namespace Note

/-- The two tokens that a cursor shows. -/
def seen (label : Text) (cursor : Cursor) : Note :=
  .trace label cursor.current cursor.lookahead

/-- The text of a note. -/
def message : Note → String
  | .tokenized characters tokens =>
      "Tokenized " ++ toString characters ++ " characters into " ++ toString tokens ++ " tokens"
  | .trace label current lookahead =>
      "TRACE:" ++ String.ofList label ++ " token=" ++ current.literal ++
        " lookahead=" ++ lookahead.literal
  | .rejected text failure => "Parse of " ++ text.quoted ++ " failed: " ++ failure.remark

end Note

end TermText
