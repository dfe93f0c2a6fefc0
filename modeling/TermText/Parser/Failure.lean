/-
# Failures

Why a notation, or a part of one, is no term. The text of a failure names the
kind of token that was found, or the limit that was passed.
-/

import TermText.Number
import TermText.Token

namespace TermText

/-- Why a rule did not return. -/
inductive Failure
  | expectedAtom (got : Kind)
  | expectedOperator
  | expectedSeparator (got : Kind)
  | expected (wanted got : Kind)
  | tooDeep (limit : Number)
  | stackExhausted
  deriving DecidableEq, Repr

/-- The text of a failure. -/
def Failure.message : Failure → String
  | .expectedAtom got => "Expected atom, got " ++ got.name
  | .expectedOperator => "Expected operator followed by argument list"
  | .expectedSeparator got => "Expected ')' or separator, got " ++ got.name
  | .expected wanted got => "Expected " ++ wanted.name ++ ", got " ++ got.name
  | .tooDeep limit => "Nesting deeper than " ++ limit.literal ++ " levels"
  | .stackExhausted => "Nesting exceeds the recursion limit"

/-- What a log says of a failure. That is its text, but the end of the stack is logged in
words of its own. -/
def Failure.remark : Failure → String
  | .stackExhausted => "recursion limit reached"
  | failure => failure.message

end TermText
