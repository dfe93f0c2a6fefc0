/-
# The program

The outer layer of the command line: it writes what a run leaves behind. The program is
the first on its stack.
-/

import TermText.CommandLine.Report

open TermText.CommandLine in
def main (arguments : List String) : IO UInt32 := do
  let report := run .refusing .standard (arguments.map String.toList)
  (← IO.getStdout).putStr report.standardOutput
  (← IO.getStderr).putStr report.standardError
  return report.code.toUInt32
