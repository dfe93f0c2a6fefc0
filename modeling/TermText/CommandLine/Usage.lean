/-
# Usage, help and refusals

What the program says about itself, and why it does not accept a command line.
-/

import TermText.CommandLine.Scope
import TermText.Text.Quoted

namespace TermText.CommandLine

/-- Why a command line is refused. -/
inductive UsageError
  | required (argument : String)
  | unknownCommand (word : Text)
  | ambiguous (argument : Text) (candidates : List Text)
  | valueGiven (flag : Flag) (value : Text)
  | unrecognized (arguments : List Text)
  deriving DecidableEq, Repr

/-- The text of a refusal. -/
def UsageError.message : UsageError → String
  | .required argument => "the following arguments are required: " ++ argument
  | .unknownCommand word =>
      "argument command: invalid choice: " ++ word.quoted ++
        " (choose from 'parse', 'demo', 'version')"
  | .ambiguous argument candidates =>
      "ambiguous option: " ++ String.ofList argument ++ " could match " ++
        ", ".intercalate (candidates.map String.ofList)
  | .valueGiven flag value =>
      "argument " ++ flag.names ++ ": ignored explicit argument " ++ value.quoted
  | .unrecognized arguments =>
      "unrecognized arguments: " ++ " ".intercalate (arguments.map String.ofList)

namespace Scope

/-- The words that lead to a scope. -/
def path : Scope → String
  | .program => "formula"
  | .command called => "formula " ++ called.name

/-- The first line of help, which also stands above every refusal. -/
def usage (scope : Scope) : String :=
  "usage: " ++ scope.path ++
    match scope with
    | .program => " [-h] \x7bparse,demo,version\x7d ..."
    | .command .parse => " [-h] [--tree] [-v] text"
    | .command .demo | .command .version => " [-h]"

/-- The help of a scope below its usage. -/
def details : Scope → List String
  | .program =>
      ["",
        "formula: parse and print term formulas",
        "",
        "positional arguments:",
        "  \x7bparse,demo,version\x7d",
        "    parse               Parse a formula and print it",
        "    demo                Parse and print Ola(Bom,Dia(DD,MM(),AAAA))",
        "    version             Show version information",
        "",
        "options:",
        "  -h, --help            show this help message and exit",
        "",
        "Examples:",
        "  python -m formula parse \"Foo(A,Bar())\"",
        "  python -m formula parse \"Foo(A,Bar())\" --tree",
        "  python -m formula demo",
        "        "]
  | .command .parse =>
      ["",
        "positional arguments:",
        "  text           Formula text to parse",
        "",
        "options:",
        "  -h, --help     show this help message and exit",
        "  --tree         Print the parsed term as an indented tree followed by its",
        "                 depth",
        "  -v, --verbose  Enable debug logging"]
  | .command .demo | .command .version =>
      ["",
        "options:",
        "  -h, --help  show this help message and exit"]

/-- The help of a scope, a line each. -/
def help (scope : Scope) : List String := scope.usage :: scope.details

/-- A refusal as it is reported in a scope, a line each. -/
def refusal (scope : Scope) (error : UsageError) : List String :=
  [scope.usage, scope.path ++ ": error: " ++ error.message]

end Scope

end TermText.CommandLine
