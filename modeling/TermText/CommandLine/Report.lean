/-
# Carrying out a request

What the program prints and with which code it ends: 0 when it did what was
asked, 1 when a text is no term, 2 when the command line was refused. Only
`parse` can be told to be verbose, and what it then logs comes before anything
else on the error stream. Reading is always done in the standard dialect.
-/

import TermText.CommandLine.Request
import TermText.Parser
import TermText.Term.Outline

namespace TermText.CommandLine

/-- What running the program leaves behind: its exit code, and the lines on its
output and error streams. -/
structure Report where
  code : Nat
  output : List String
  errors : List String
  deriving DecidableEq, Repr

namespace Report

/-- Lines as they are written, each with a line feed after it. -/
def written (lines : List String) : String := String.join (lines.map (· ++ "\n"))

/-- All that is written to the output stream. -/
def standardOutput (report : Report) : String := written report.output

/-- All that is written to the error stream. -/
def standardError (report : Report) : String := written report.errors

end Report

/-- A line of the log. The clock is not read: every line is of midnight. -/
def logLine (message : String) : String := "00:00:00 - DEBUG - " ++ message

/-- The log of a verbose reading. -/
def log (notes : List Note) : List String :=
  (("Running command " ++ Text.quoted Command.parse.name.toList) :: notes.map Note.message).map
    logLine

/-- A term as `parse` prints it: its notation, or its outline and its depth. -/
def printed (tree : Bool) (term : Term) : List String :=
  if tree then
    [String.ofList (term.outline Term.twoSpaces), "depth: " ++ toString term.depth]
  else [String.ofList (term.render .standard)]

/-- Read a text and print the term. -/
def parseReport (stack : Parser.Stack) (text : Text) (tree verbose : Bool) : Report :=
  let outcome := Parser.parse stack .standard text
  let logged := if verbose then log outcome.notes else []
  match outcome.result with
  | .ok term => { code := 0, output := printed tree term, errors := logged }
  | .error failure =>
      { code := 1, output := [],
        errors := logged ++ ["[formula] Error: " ++ failure.message] }

/-- The text that `demo` reads and prints. -/
def sample : Text := "Ola(Bom,Dia(DD,MM(),AAAA))".toList

/-- The version of the program and who made it. -/
def versionReport : Report :=
  { code := 0, output := ["formula version 0.1.0", "Author: formula Team"], errors := [] }

/-- Carry out an accepted command line by the word of its command, with the text and the
switches that `parse` was given. A word that calls no command would get the program's help
and the code of a refusal. -/
def dispatch (stack : Parser.Stack) (word text : Text) (tree verbose : Bool) : Report :=
  if word = Command.parse.name.toList then parseReport stack text tree verbose
  else if word = Command.demo.name.toList then parseReport stack sample false false
  else if word = Command.version.name.toList then versionReport
  else { code := 2, output := Scope.program.help, errors := [] }

/-- Carry out a request. -/
def Request.perform (stack : Parser.Stack) : Request → Report
  | .help scope => { code := 0, output := scope.help, errors := [] }
  | .refuse scope error => { code := 2, output := [], errors := scope.refusal error }
  | .parse text tree verbose => dispatch stack Command.parse.name.toList text tree verbose
  | .demo => dispatch stack Command.demo.name.toList [] false false
  | .version => dispatch stack Command.version.name.toList [] false false

/-- Run the program on its arguments. -/
def run (joining : Joining) (stack : Parser.Stack) (arguments : List Text) : Report :=
  (Request.ofArguments joining arguments).perform stack

end TermText.CommandLine
