/-
# Words of a command line

How a single argument is taken in a scope. An argument with a hyphen in front
is an option, unless it is the hyphen alone, a negative number, or has a space
in it and resembles no option. A long option may be cut to any length at which
it is the only one left, and may carry a value after an equals sign; a short
option may do so too, or have more letters joined to its own. Two hyphens alone
end the options: every argument after them is plain.
-/

import TermText.CommandLine.Scope
import TermText.Text.Decimal

namespace TermText.CommandLine

/-- What is attached to an option in the same argument: nothing, the letters right
behind its own, or a value behind an equals sign. -/
inductive Attached
  | nothing
  | letters (text : Text)
  | value (text : Text)
  deriving DecidableEq, Repr

/-- How an argument is taken. -/
inductive Word
  | plain (text : Text)
  | option (flag : Flag) (short : Bool) (attached : Attached)
  | unknown (argument : Text)
  | ambiguous (argument : Text) (candidates : List Text)
  | dashes
  deriving DecidableEq, Repr

namespace Word

/-- What stands before the first equals sign, and after it where there is one. -/
def cutAtEquals (argument : Text) : Text × Option Text :=
  match argument.dropWhile (· != '=') with
  | [] => (argument, none)
  | _ :: value => (argument.takeWhile (· != '='), some value)

/-- Whether a spelling is one hyphen and a letter. -/
def isShort (spelling : Text) : Bool := !(['-', '-'].isPrefixOf spelling)

/-- Whether an argument is a hyphen and a decimal number, in the digits of any script
and with digits after the point where there is one. One line feed may follow. -/
def isNegativeNumber (argument : Text) : Bool :=
  match argument with
  | '-' :: digits =>
      let digits := if digits.getLast? = some '\n' then digits.dropLast else digits
      match digits.dropWhile Text.isDecimal with
      | [] => !digits.isEmpty
      | '.' :: fraction => !fraction.isEmpty && fraction.all Text.isDecimal
      | _ => false
  | _ => false

/-- The spellings that an argument may be short for, with what is attached. -/
def candidates (scope : Scope) (argument : Text) : List (Text × Flag × Attached) :=
  if isShort argument then
    (scope.spellings.filter fun spelling => spelling.1 == argument.take 2).map
      fun spelling => (spelling.1, spelling.2, .letters (argument.drop 2))
  else
    let (start, value) := cutAtEquals argument
    (scope.spellings.filter fun spelling => start.isPrefixOf spelling.1).map
      fun spelling => (spelling.1, spelling.2, (value.map Attached.value).getD .nothing)

/-- An argument with a hyphen in front that is no spelling of a flag. -/
def resembling (scope : Scope) (argument : Text) : Word :=
  match candidates scope argument with
  | [(spelling, flag, attached)] => .option flag (isShort spelling) attached
  | [] =>
      if isNegativeNumber argument || argument.contains ' ' then .plain argument
      else .unknown argument
  | several => .ambiguous argument (several.map (·.1))

/-- An argument with a hyphen in front and more behind it: a whole spelling, or one in front
of an equals sign, or what such an argument resembles. -/
def hyphened (scope : Scope) (argument : Text) : Word :=
  match scope.spellings.lookup argument with
  | some flag => .option flag (isShort argument) .nothing
  | none =>
      match cutAtEquals argument with
      | (spelling, some value) =>
          match scope.spellings.lookup spelling with
          | some flag => .option flag (isShort spelling) (.value value)
          | none => resembling scope argument
      | (_, none) => resembling scope argument

/-- How an argument is taken before the options have ended. -/
def ofArgument (scope : Scope) (argument : Text) : Word :=
  match argument with
  | '-' :: _ :: _ => if argument = ['-', '-'] then .dashes else hyphened scope argument
  | _ => .plain argument

/-- The words of the arguments in order. -/
def ofArguments (scope : Scope) : List Text → List Word
  | [] => []
  | argument :: rest =>
      match ofArgument scope argument with
      | .dashes => .dashes :: rest.map .plain
      | word => word :: ofArguments scope rest

end Word

end TermText.CommandLine
