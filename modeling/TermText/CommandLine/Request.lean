/-
# Requests

What a command line asks for. The program's own scope ends at the first plain
argument, which is the command; all arguments after it are the command's. In
both scopes the arguments are taken from left to right, and a request for help
is granted as soon as it is met. Arguments that nothing has a use for are
gathered and refused only at the end, when nothing else was wrong.
-/

import TermText.CommandLine.Usage
import TermText.CommandLine.Word

namespace TermText.CommandLine

/-- What the program is to do. -/
inductive Request
  | help (scope : Scope)
  | refuse (scope : Scope) (error : UsageError)
  | parse (text : Text) (tree verbose : Bool)
  | demo
  | version
  deriving DecidableEq, Repr

/-- What becomes of letters that are joined to a short option from the first on that is no
option itself. The releases of the option reader differ: the earlier ones refuse them as a
value, and read letters behind an equals sign like any others; the later ones put them
aside, and refuse whatever an equals sign or a second hyphen stands in front of. -/
inductive Joining
  | refusing
  | puttingAside
  deriving DecidableEq, Repr

/-- The flags that an option raises, in order, and what is left over of its argument. -/
structure Raised where
  flags : List Flag
  leftOver : List Text
  deriving DecidableEq, Repr

/-- The flags of short options joined into one argument. What remains when a
letter is no option of the scope is a value, and no flag takes one, or it is left over. -/
def joinedFlags (joining : Joining) (scope : Scope) (flag : Flag) :
    Text → Except UsageError Raised
  | [] => .error (.valueGiven flag [])
  | letter :: rest =>
      if joining = .puttingAside ∧ letter = '=' then .error (.valueGiven flag rest)
      else
        match scope.spellings.lookup ['-', letter] with
        | some next =>
            if rest = [] then .ok ⟨[flag, next], []⟩
            else
              (joinedFlags joining scope next rest).map fun raised =>
                { raised with flags := flag :: raised.flags }
        | none =>
            if joining = .puttingAside ∧ letter ≠ '-' then .ok ⟨[flag], ['-' :: letter :: rest]⟩
            else .error (.valueGiven flag (letter :: rest))

/-- What an option raises. A long one takes no letters, and where a value is refused a
short one takes none either. -/
def raisedFlags (joining : Joining) (scope : Scope) (flag : Flag) (short : Bool) :
    Attached → Except UsageError Raised
  | .nothing => .ok ⟨[flag], []⟩
  | .letters text => joinedFlags joining scope flag text
  | .value text =>
      if short ∧ joining = .refusing then joinedFlags joining scope flag text
      else .error (.valueGiven flag text)

/-- What has been gathered from the arguments of a command. -/
structure Gathered where
  text : Option Text
  tree : Bool
  verbose : Bool
  surplus : List Text
  deriving DecidableEq, Repr

namespace Gathered

/-- Nothing gathered yet. -/
def nothing : Gathered := ⟨none, false, false, []⟩

/-- Raise a flag; help is not kept but granted at once. -/
def raise (gathered : Gathered) : Flag → Gathered
  | .help => gathered
  | .tree => { gathered with tree := true }
  | .verbose => { gathered with verbose := true }

/-- Put aside an argument that nothing has a use for. -/
def putAside (gathered : Gathered) (argument : Text) : Gathered :=
  { gathered with surplus := gathered.surplus ++ [argument] }

/-- Raise the flags of an option, and put aside what is left over of it. -/
def accept (gathered : Gathered) (raised : Raised) : Gathered :=
  raised.leftOver.foldl putAside (raised.flags.foldl raise gathered)

end Gathered

/-- How taking the arguments of a command ends. -/
inductive Taken
  | help
  | refused (error : UsageError)
  | all (gathered : Gathered)
  deriving DecidableEq, Repr

/-- The place of a command's text. Two hyphens right before or right after the
text belong to it, so it matters whether the text was the last word taken. -/
inductive Place
  | free | justFilled | closed
  deriving DecidableEq, Repr

/-- The place of a command's text before any argument is taken: none where it has no text. -/
def Command.place (command : Command) : Place := if command.takesText then .free else .closed

/-- The place when another word than the text or its hyphens is met. -/
def Place.leave : Place → Place
  | .free => .free
  | .justFilled | .closed => .closed

/-- Take the words of a command in order. Two hyphens beside the text are
dropped with it; elsewhere they are surplus. -/
def take (joining : Joining) (scope : Scope) (place : Place) (gathered : Gathered) :
    List Word → Taken
  | [] => .all gathered
  | .plain text :: rest =>
      if place = .free then take joining scope .justFilled { gathered with text := some text } rest
      else take joining scope .closed (gathered.putAside text) rest
  | .dashes :: rest =>
      if place = .justFilled then take joining scope .closed gathered rest
      else if place = .free ∧ rest ≠ [] then take joining scope .free gathered rest
      else take joining scope place (gathered.putAside ['-', '-']) rest
  | .unknown argument :: rest => take joining scope place.leave (gathered.putAside argument) rest
  | .ambiguous argument candidates :: _ => .refused (.ambiguous argument candidates)
  | .option flag short attached :: rest =>
      match raisedFlags joining scope flag short attached with
      | .error error => .refused error
      | .ok raised =>
          if .help ∈ raised.flags then .help
          else take joining scope place.leave (gathered.accept raised) rest

/-- The first word that may stand for several options. It is refused before
any other word is taken. -/
def ambiguity? (words : List Word) : Option UsageError :=
  words.findSome? fun word =>
    match word with
    | .ambiguous argument candidates => some (.ambiguous argument candidates)
    | _ => none

namespace Request

/-- A request is granted only when no argument was left over. -/
def unlessSurplus (surplus : List Text) (request : Request) : Request :=
  if surplus = [] then request else .refuse .program (.unrecognized surplus)

/-- What a command asks for when all its arguments are taken. -/
def ofGathered (command : Command) (surplus : List Text) (gathered : Gathered) : Request :=
  let surplus := surplus ++ gathered.surplus
  match command, gathered.text with
  | .parse, none => .refuse (.command .parse) (.required "text")
  | .parse, some text => unlessSurplus surplus (.parse text gathered.tree gathered.verbose)
  | .demo, _ => unlessSurplus surplus .demo
  | .version, _ => unlessSurplus surplus .version

/-- What a command with its arguments asks for. `surplus` are the arguments
already put aside before the command. -/
def ofCommand (joining : Joining) (command : Command) (surplus arguments : List Text) :
    Request :=
  let scope := Scope.command command
  let words := Word.ofArguments scope arguments
  match ambiguity? words with
  | some error => .refuse scope error
  | none =>
      match take joining scope command.place .nothing words with
      | .help => .help scope
      | .refused error => .refuse scope error
      | .all gathered => ofGathered command surplus gathered

/-- What the arguments of the program ask for, after the `surplus` put aside so far. -/
def ofArgumentsFrom (joining : Joining) (surplus : List Text) : List Text → Request
  | [] => .refuse .program (.required "command")
  | argument :: rest =>
      match Word.ofArgument .program argument with
      | .plain word =>
          match Command.ofWord? word with
          | some command => ofCommand joining command surplus rest
          | none => .refuse .program (.unknownCommand word)
      | .dashes =>
          if rest = [] then .refuse .program (.required "command")
          else .refuse .program (.unknownCommand ['-', '-'])
      | .unknown argument => ofArgumentsFrom joining (surplus ++ [argument]) rest
      | .ambiguous argument candidates => .refuse .program (.ambiguous argument candidates)
      | .option flag short attached =>
          match raisedFlags joining .program flag short attached with
          | .error error => .refuse .program error
          | .ok _ => .help .program

/-- What a command line asks for. -/
def ofArguments (joining : Joining) (arguments : List Text) : Request :=
  ofArgumentsFrom joining [] arguments

end Request

end TermText.CommandLine
