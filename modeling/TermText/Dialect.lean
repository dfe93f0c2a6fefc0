/-
# Dialects

A dialect fixes the characters of a notation and how deep its terms may nest.
The separator and the two brackets are its punctuation; the marker is a
fourth character that only cuts a text and never stands for anything. A
dialect exists only when the four characters differ and the limit is at least
one and small enough for the reader, so no rule that receives one has to look
again. `ofFields` is the check, in the order in which its faults are reported.
-/

import TermText.Value

namespace TermText

/-- The characters and the nesting limit of a notation. The limit need not be
whole: what counts is which whole levels it admits. Three times the limit stays
below a thousand, because a reader is granted a thousand frames of stack and
spends three on a level. -/
structure Dialect where
  separator : Char
  opening : Char
  closing : Char
  marker : Char
  limit : Number
  distinct : [separator, opening, closing, marker].Nodup
  positive : limit.below 1 = false
  bounded : limit.tripled.below 1000 = true

/-- Why a dialect was refused. -/
inductive DialectError
  | unknownField (name : Text)
  | notOneCharacter (value : Value)
  | notDistinct (separator opening closing marker : Char)
  | limitNotNumber (value : Value)
  | limitNotPositive (limit : Number)
  | limitTooLarge (limit : Number)

namespace Dialect

/-- Comma, round brackets, the null character and two hundred levels. -/
def standard : Dialect where
  separator := ','
  opening := '('
  closing := ')'
  marker := '\x00'
  limit := .whole 200
  distinct := by decide
  positive := by decide
  bounded := by decide

/-- The characters that are a token of their own wherever they stand. -/
def punctuation (dialect : Dialect) : List Char :=
  [dialect.separator, dialect.opening, dialect.closing]

/-- The characters that no name can hold. -/
def reserved (dialect : Dialect) : List Char :=
  [dialect.separator, dialect.opening, dialect.closing, dialect.marker]

/-- Whether a text can be a name: it is not empty and has no reserved character. -/
def IsName (dialect : Dialect) (text : Text) : Prop :=
  text ≠ [] ∧ ∀ c ∈ text, c ∉ dialect.reserved

/-- Equality of dialects; the limits are compared by value. -/
def same (first second : Dialect) : Bool :=
  first.reserved == second.reserved && first.limit.same second.limit

/-- Four characters as a tuple. -/
def tupleLiteral (chars : List Char) : String :=
  "(" ++ ", ".intercalate (chars.map fun c => Text.quoted [c]) ++ ")"

/-- The form in which messages show a dialect. -/
def literal (dialect : Dialect) : String :=
  "Settings(separator=" ++ Text.quoted [dialect.separator] ++
    ", lparen=" ++ Text.quoted [dialect.opening] ++
    ", rparen=" ++ Text.quoted [dialect.closing] ++
    ", end_marker=" ++ Text.quoted [dialect.marker] ++
    ", max_depth=" ++ dialect.limit.literal ++ ")"

/-- The names under which a dialect's fields are given. -/
def fieldNames : List Text :=
  ["separator".toList, "lparen".toList, "rparen".toList, "end_marker".toList,
    "max_depth".toList]

/-- The value given for a field, or the value the standard dialect has there. -/
def field (fields : List (Text × Value)) (name : Text) (standard : Value) : Value :=
  ((fields.find? fun entry => entry.1 == name).map (·.2)).getD standard

/-- The character that a value stands for. -/
def character : Value → Except DialectError Char
  | .text [c] => .ok c
  | value => .error (.notOneCharacter value)

/-- The number that a limit is given as. -/
def limitNumber : Value → Except DialectError Number
  | .number limit => .ok limit
  | value => .error (.limitNotNumber value)

/-- The dialect with these characters and this limit. -/
def ofParts (separator opening closing marker : Char) (limit : Value) :
    Except DialectError Dialect :=
  if distinct : [separator, opening, closing, marker].Nodup then
    match limitNumber limit with
    | .error fault => .error fault
    | .ok limit =>
        if positive : limit.below 1 = false then
          if bounded : limit.tripled.below 1000 = true then
            .ok { separator, opening, closing, marker, limit, distinct, positive, bounded }
          else .error (.limitTooLarge limit)
        else .error (.limitNotPositive limit)
  else .error (.notDistinct separator opening closing marker)

/-- The dialect described by named fields. Names are checked first, then each
character in turn, then that they differ, and the limit last. -/
def ofFields (fields : List (Text × Value)) : Except DialectError Dialect :=
  match fields.find? fun entry => !fieldNames.contains entry.1 with
  | some (name, _) => .error (.unknownField name)
  | none => do
      let given := field fields
      let separator ← character (given "separator".toList (.text [standard.separator]))
      let opening ← character (given "lparen".toList (.text [standard.opening]))
      let closing ← character (given "rparen".toList (.text [standard.closing]))
      let marker ← character (given "end_marker".toList (.text [standard.marker]))
      ofParts separator opening closing marker
        (given "max_depth".toList (.number standard.limit))

end Dialect

/-- The text of a refusal. -/
def DialectError.message : DialectError → String
  | .unknownField name =>
      "Settings.__init__() got an unexpected keyword argument '" ++ String.ofList name ++ "'"
  | .notOneCharacter value =>
      "Syntax characters must be single characters, got " ++ value.literal
  | .notDistinct separator opening closing marker =>
      "Syntax characters must be distinct, got " ++
        Dialect.tupleLiteral [separator, opening, closing, marker]
  | .limitNotNumber value =>
      "'<' not supported between instances of '" ++ value.kind ++ "' and 'int'"
  | .limitNotPositive limit => "max_depth must be positive, got " ++ limit.literal
  | .limitTooLarge limit =>
      "max_depth " ++ limit.literal ++ " exceeds the interpreter recursion limit (1000)"

end TermText
