/-
# Values

What a caller may hand over where a term, a text or a setting is expected.
Values are only named, shown and compared here; which of them are acceptable
is decided by whoever receives them.
-/

import TermText.Number
import TermText.Text.Quoted

namespace TermText

/-- Plain data. The entries of an object keep their order and have distinct names. -/
inductive Value
  | null
  | number (value : Number)
  | text (value : Text)
  | list (items : List Value)
  | object (entries : List (Text × Value))

namespace Value

/-- The name of a value's kind in messages. -/
def kind : Value → String
  | .null => "NoneType"
  | .number (.truth _) => "bool"
  | .number (.whole _) => "int"
  | .number (.real _) => "float"
  | .text _ => "str"
  | .list _ => "list"
  | .object _ => "dict"

mutual
/-- The form in which messages show a value. -/
def literal : Value → String
  | .null => "None"
  | .number value => value.literal
  | .text value => value.quoted
  | .list items => "[" ++ ", ".intercalate (itemLiterals items) ++ "]"
  | .object entries => "\x7b" ++ ", ".intercalate (entryLiterals entries) ++ "\x7d"

def itemLiterals : List Value → List String
  | [] => []
  | item :: rest => item.literal :: itemLiterals rest

def entryLiterals : List (Text × Value) → List String
  | [] => []
  | (name, value) :: rest => (name.quoted ++ ": " ++ value.literal) :: entryLiterals rest
end

mutual
/-- Equality of values: numbers by value, lists in order, objects by name. -/
def same : Value → Value → Bool
  | .null, .null => true
  | .number first, .number second => first.same second
  | .text first, .text second => first == second
  | .list first, .list second => sameItems first second
  | .object first, .object second =>
      first.length == second.length && sameEntries first second
  | _, _ => false

def sameItems : List Value → List Value → Bool
  | [], [] => true
  | first :: firsts, second :: seconds => first.same second && sameItems firsts seconds
  | _, _ => false

/-- Whether each entry of the first object has its equal in the second. -/
def sameEntries : List (Text × Value) → List (Text × Value) → Bool
  | [], _ => true
  | (name, value) :: rest, others =>
      (match others.find? fun entry => entry.1 == name with
        | some (_, other) => value.same other
        | none => false) && sameEntries rest others
end

/-- Why a value cannot be used as it was meant. -/
inductive Misuse
  | notText (value : Value)
  | notSequence (value : Value)

/-- The text of a complaint. -/
def Misuse.message : Misuse → String
  | .notText value => "'" ++ value.kind ++ "' object has no attribute 'replace'"
  | .notSequence value => "'" ++ value.kind ++ "' object is not iterable"

/-- The text that a value is. -/
def asText : Value → Except Misuse Text
  | .text value => .ok value
  | value => .error (.notText value)

/-- The elements of a value taken as a sequence: the code points of a text, each
a text of its own, the items of a list, the names of an object. -/
def elements : Value → Except Misuse (List Value)
  | .text value => .ok (value.map fun c => .text [c])
  | .list items => .ok items
  | .object entries => .ok (entries.map fun entry => .text entry.1)
  | value => .error (.notSequence value)

end Value

end TermText
