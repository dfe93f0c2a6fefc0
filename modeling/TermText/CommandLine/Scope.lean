/-
# Scopes and flags

The command line is read in two scopes: the program with its own options, and
one command with its options. A scope knows the spellings of its flags. Every
flag is a switch: it takes no value.
-/

import TermText.Text

namespace TermText.CommandLine

/-- The commands of the program. -/
inductive Command
  | parse | demo | version
  deriving DecidableEq, Repr

/-- Where an argument stands: before the command or after it. -/
inductive Scope
  | program
  | command (command : Command)
  deriving DecidableEq, Repr

/-- The switches of all scopes. -/
inductive Flag
  | help | tree | verbose
  deriving DecidableEq, Repr

namespace Command

/-- The word that calls a command. -/
def name : Command → String
  | .parse => "parse"
  | .demo => "demo"
  | .version => "version"

/-- The command that a word calls. -/
def ofWord? (word : Text) : Option Command :=
  [Command.parse, .demo, .version].find? fun command => command.name.toList == word

/-- Whether a command is given a text of its own. -/
def takesText : Command → Bool
  | .parse => true
  | .demo | .version => false

end Command

/-- The spellings of a flag, as messages name it. -/
def Flag.names : Flag → String
  | .help => "-h/--help"
  | .tree => "--tree"
  | .verbose => "-v/--verbose"

/-- The spellings of the flags of a scope, with the flags they stand for. -/
def Scope.spellings : Scope → List (Text × Flag)
  | .command .parse =>
      [("-h".toList, .help), ("--help".toList, .help), ("--tree".toList, .tree),
        ("-v".toList, .verbose), ("--verbose".toList, .verbose)]
  | .program | .command .demo | .command .version =>
      [("-h".toList, .help), ("--help".toList, .help)]

end TermText.CommandLine
