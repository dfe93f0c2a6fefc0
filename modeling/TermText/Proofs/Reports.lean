/-
# What a run leaves behind

The exit code tells the streams apart. A run that did what was asked prints to its
output and logs at most; one that was given no term, or no request at all, prints
nothing and says why on its error stream. Which of these it is depends on the command
line only through the request, so the switches of `parse` may stand anywhere around the
text. What is carried out is a request for help or one of a command, by its name; there is
room on the stack for the sample.
-/

import TermText.Proofs.Help
import TermText.Proofs.LogLines
import TermText.Proofs.RoundTrip

namespace TermText.CommandLine

/-! ## Streams -/

namespace Report

variable {report : Report} {lines : List String}

@[simp] theorem written_nil : written [] = "" := rfl

theorem written_cons (line : String) (rest : List String) :
    written (line :: rest) = line ++ "\n" ++ written rest := by
  simp [written, String.join_cons]

theorem written_append (front back : List String) :
    written (front ++ back) = written front ++ written back := by
  simp [written]

/-- Every line that is written is seen, if only by its line feed. -/
theorem written_eq_empty_iff : written lines = "" ↔ lines = [] := by
  cases lines with
  | nil => simp
  | cons line rest => simp [written_cons]

theorem standardOutput_eq_empty_iff : report.standardOutput = "" ↔ report.output = [] :=
  written_eq_empty_iff

theorem standardError_eq_empty_iff : report.standardError = "" ↔ report.errors = [] :=
  written_eq_empty_iff

end Report

/-! ## Reports on a text -/

section

variable {stack : Parser.Stack} {text : Text} {tree verbose : Bool} {term : Term}
  {failure : Failure}

theorem printed_ne_nil (tree : Bool) (term : Term) : printed tree term ≠ [] := by
  cases tree <;> simp [printed]

/-- What a reading logs, where it is to be verbose. -/
def logged (stack : Parser.Stack) (text : Text) (verbose : Bool) : List String :=
  if verbose then log (Parser.parse stack .standard text).notes else []

theorem parseReport_of_ok (read : (Parser.parse stack .standard text).result = .ok term) :
    parseReport stack text tree verbose = ⟨0, printed tree term, logged stack text verbose⟩ := by
  simp only [parseReport, read]
  rfl

theorem parseReport_of_error
    (failed : (Parser.parse stack .standard text).result = .error failure) :
    parseReport stack text tree verbose =
      ⟨1, [], logged stack text verbose ++ ["[formula] Error: " ++ failure.message]⟩ := by
  simp only [parseReport, failed]
  rfl

theorem isLogLine_of_mem_logged {line : String} (member : line ∈ logged stack text verbose) :
    IsLogLine line := by
  cases verbose with
  | false => cases member
  | true => exact isLogLine_of_mem_log member

/-- The term that the sample is the notation of. -/
def sampleTerm : Term :=
  .compound "Ola".toList [.atom "Bom".toList, .compound "Dia".toList
    [.atom "DD".toList, .compound "MM".toList [], .atom "AAAA".toList]]

theorem render_sampleTerm : sampleTerm.render .standard = sample := by decide

theorem named_sampleTerm : sampleTerm.Named .standard := by
  simp [sampleTerm, Term.Named, Term.AllNamed, Dialect.IsName, Dialect.reserved, Dialect.standard]

/-- The term of the sample nests three levels. -/
theorem fits_sampleTerm {levels : Int} (room : 3 ≤ levels) :
    sampleTerm.Fits (.whole levels) 0 := by
  simp only [sampleTerm, Term.Fits, Term.AllFit, ← Bool.not_eq_true, Parser.whole_atMost_iff,
    true_and, and_true]
  omega

/-- The sample is read and printed where the stack lasts for its levels. -/
theorem parseReport_sample (room : 3 ≤ stack.levels) :
    parseReport stack sample false false = ⟨0, [String.ofList sample], []⟩ := by
  obtain ⟨last, recognised⟩ :=
    (Parser.reads_render named_sampleTerm).1 (fits_sampleTerm (by decide))
  have fits : sampleTerm.Fits (.whole (0 + stack.levels)) 0 := fits_sampleTerm (by omega)
  have read := recognised.result_parse fits
  rw [render_sampleTerm] at read
  rw [parseReport_of_ok read, printed, render_sampleTerm]
  rfl

end

/-! ## Carrying out -/

section

variable (stack : Parser.Stack) (text : Text) (tree verbose : Bool)

theorem dispatch_parse :
    dispatch stack Command.parse.name.toList text tree verbose =
      parseReport stack text tree verbose :=
  if_pos rfl

theorem dispatch_demo :
    dispatch stack Command.demo.name.toList text tree verbose =
      parseReport stack sample false false := by
  rw [dispatch, if_neg (by decide), if_pos rfl]

theorem dispatch_version :
    dispatch stack Command.version.name.toList text tree verbose = versionReport := by
  rw [dispatch, if_neg (by decide), if_neg (by decide), if_pos rfl]

end

/-! ## Reports on a request -/

/-- How carrying out a request ends: with what was to be told, with the term that was read,
with a text that is none, or with a refusal. -/
inductive Ends (stack : Parser.Stack) : Request → Report → Prop
  | told {request : Request} {lines : List String} :
      (∀ text tree verbose, request ≠ .parse text tree verbose) →
      (∀ scope error, request ≠ .refuse scope error) → lines ≠ [] →
      Ends stack request ⟨0, lines, []⟩
  | read {text : Text} {tree verbose : Bool} {term : Term} :
      (Parser.parse stack .standard text).result = .ok term →
      Ends stack (.parse text tree verbose) ⟨0, printed tree term, logged stack text verbose⟩
  | unread {text : Text} {tree verbose : Bool} {failure : Failure} :
      (Parser.parse stack .standard text).result = .error failure →
      Ends stack (.parse text tree verbose)
        ⟨1, [], logged stack text verbose ++ ["[formula] Error: " ++ failure.message]⟩
  | refused (scope : Scope) (error : UsageError) :
      Ends stack (.refuse scope error) ⟨2, [], scope.refusal error⟩

theorem Request.ends {stack : Parser.Stack} (room : 3 ≤ stack.levels) (request : Request) :
    Ends stack request (request.perform stack) := by
  cases request with
  | help scope => exact .told (by simp) (by simp) (by simp [Scope.help])
  | refuse scope error => exact .refused scope error
  | parse text tree verbose =>
      cases result : (Parser.parse stack .standard text).result with
      | ok term =>
          rw [perform, dispatch_parse, parseReport_of_ok result]
          exact .read result
      | error failure =>
          rw [perform, dispatch_parse, parseReport_of_error result]
          exact .unread result
  | demo =>
      rw [perform, dispatch_demo, parseReport_sample room]
      exact .told (by simp) (by simp) (by simp)
  | version =>
      rw [perform, dispatch_version]
      exact .told (by simp) (by simp) (by simp)

namespace Ends

variable {stack : Parser.Stack} {request : Request} {report : Report}

/-- Something is printed exactly when what was asked could be done. -/
theorem code_eq_zero_iff (ends : Ends stack request report) :
    report.code = 0 ↔ report.output ≠ [] := by
  cases ends with
  | told _ _ shown => simpa using shown
  | read => simp [printed_ne_nil]
  | unread => simp
  | refused => simp

/-- Where what was asked could be done, the error stream is the log of a verbose reading. -/
theorem errors_of_code_eq_zero (ends : Ends stack request report) (done : report.code = 0) :
    (∀ line ∈ report.errors, IsLogLine line) ∧
      (report.errors ≠ [] → ∃ text tree, request = .parse text tree true) := by
  cases ends with
  | told => simp
  | @read text tree verbose =>
      refine ⟨fun line => isLogLine_of_mem_logged, fun some => ?_⟩
      cases verbose with
      | false => exact absurd rfl some
      | true => exact ⟨text, tree, rfl⟩
  | unread => cases done
  | refused => cases done

/-- The code is 1 exactly when a text was to be read that is no term. -/
theorem code_eq_one_iff (ends : Ends stack request report) :
    report.code = 1 ↔ ∃ text tree verbose failure, request = .parse text tree verbose ∧
      (Parser.parse stack .standard text).result = .error failure := by
  cases ends with
  | told notRead => simp [notRead]
  | read result => simp [result]
  | unread result => simp [result]
  | refused => simp

/-- The code is 2 exactly when the command line was refused. -/
theorem code_eq_two_iff (ends : Ends stack request report) :
    report.code = 2 ↔ ∃ scope error, request = .refuse scope error := by
  cases ends with
  | told _ notRefused => simp [notRefused]
  | read => simp
  | unread => simp
  | refused => simp

theorem code_mem (ends : Ends stack request report) : report.code ∈ [0, 1, 2] := by
  cases ends <;> simp

/-- Nothing is done in silence. -/
theorem errors_ne_nil (ends : Ends stack request report) (undone : report.code ≠ 0) :
    report.errors ≠ [] := by
  cases ends with
  | told => exact absurd rfl undone
  | read => exact absurd rfl undone
  | unread => simp
  | refused => simp [Scope.refusal]

end Ends

/-! ## Reports on a command line -/

section

variable {joining : Joining} {stack : Parser.Stack} {arguments : List Text}

/-- A text is to be read, with any switches, exactly when the command line is one of `parse`
with that text. -/
theorem exists_ofArguments_eq_parse_iff {text : Text} :
    (∃ tree verbose, Request.ofArguments joining arguments = .parse text tree verbose) ↔
      ∃ flags, ReadsText joining arguments text flags := by
  simp only [Request.ofArguments_eq_parse_iff]
  constructor
  · rintro ⟨tree, verbose, flags, reads, -⟩
    exact ⟨flags, reads⟩
  · rintro ⟨flags, reads⟩
    exact ⟨_, _, flags, reads, rfl, rfl⟩

/-- What is accepted is carried out by the name of its command. -/
theorem exists_perform_eq_dispatch {request : Request} {command : Command}
    (accepted : request.command? = some command) (stack : Parser.Stack) :
    ∃ text tree verbose,
      request.perform stack = dispatch stack command.name.toList text tree verbose := by
  cases request with
  | help => cases accepted
  | refuse => cases accepted
  | parse text tree verbose =>
      obtain rfl := Option.some.inj accepted
      exact ⟨text, tree, verbose, rfl⟩
  | demo =>
      obtain rfl := Option.some.inj accepted
      exact ⟨[], false, false, rfl⟩
  | version =>
      obtain rfl := Option.some.inj accepted
      exact ⟨[], false, false, rfl⟩

/-! ### Switches around a text -/

/-- The switches of `parse` in full. -/
def switchSpellings : List Text := ["--tree".toList, "-v".toList, "--verbose".toList]

/-- A switch raises the one flag that it stands for. -/
theorem exists_raises_of_switch {argument : Text} (switch : argument ∈ switchSpellings) :
    ∃ flag, Raises joining (.command .parse) argument [flag] [] ∧
      flag ≠ .help ∧ (flag = .tree ↔ argument = "--tree".toList) ∧
      (flag = .verbose ↔ argument = "-v".toList ∨ argument = "--verbose".toList) := by
  simp only [switchSpellings, List.mem_cons, List.not_mem_nil, or_false] at switch
  rcases switch with rfl | rfl | rfl
  · exact ⟨.tree, raises_iff.2 ⟨_, false, .nothing, rfl, rfl⟩, by decide⟩
  · exact ⟨.verbose, raises_iff.2 ⟨_, true, .nothing, rfl, rfl⟩, by decide⟩
  · exact ⟨.verbose, raises_iff.2 ⟨_, false, .nothing, rfl, rfl⟩, by decide⟩

/-- Which flags switches raise depends only on which switches there are. -/
theorem exists_switches {arguments : List Text}
    (spelled : ∀ argument ∈ arguments, argument ∈ switchSpellings) :
    ∃ flags, Switches joining (.command .parse) arguments flags ∧ .help ∉ flags ∧
      (.tree ∈ flags ↔ "--tree".toList ∈ arguments) ∧
      (.verbose ∈ flags ↔ "-v".toList ∈ arguments ∨ "--verbose".toList ∈ arguments) := by
  induction arguments with
  | nil => exact ⟨[], .none, by simp⟩
  | cons argument rest ih =>
      rw [List.forall_mem_cons] at spelled
      obtain ⟨flags, raised, noHelp, tree, verbose⟩ := ih spelled.2
      obtain ⟨flag, raises, notHelp, isTree, isVerbose⟩ := exists_raises_of_switch spelled.1
      refine ⟨flag :: flags, .more raises raised, ?_, ?_, ?_⟩
      · simp [notHelp.symm, noHelp]
      · rw [List.mem_cons, List.mem_cons, tree, eq_comm, isTree, eq_comm]
      · rw [List.mem_cons, List.mem_cons, List.mem_cons, verbose, eq_comm, isVerbose]
        grind

/-- A text among switches is read, and the switches count no matter where they stand. -/
theorem run_eq_parseReport (joining : Joining) (stack : Parser.Stack) (text : Text)
    (noHyphen : text.head? ≠ some '-') (before after : List Text)
    (spelled : ∀ argument ∈ before ++ after, argument ∈ switchSpellings) :
    run joining stack ("parse".toList :: (before ++ text :: after)) =
      parseReport stack text (decide ("--tree".toList ∈ before ++ after))
        (decide ("-v".toList ∈ before ++ after ∨ "--verbose".toList ∈ before ++ after)) := by
  rw [List.forall_mem_append] at spelled
  obtain ⟨flags, early, noHelp, tree, verbose⟩ := exists_switches spelled.1
  obtain ⟨others, late, noMore, treeLate, verboseLate⟩ := exists_switches spelled.2
  have reads : ReadsText joining ("parse".toList :: (before ++ text :: after)) text
      (flags ++ others) :=
    ⟨_, rfl, .options early (.inl noHyphen) late, by simp [noHelp, noMore]⟩
  rw [run, Request.ofArguments_eq_parse_iff.2 ⟨_, reads, rfl, rfl⟩, Request.perform, dispatch_parse]
  congr 1
  · simp [tree, treeLate]
  · simp only [List.mem_append, verbose, verboseLate, or_or_or_comm]

/-- What `parse` does with a text among switches. It depends on the text, on whether the
outline is asked for and on whether the reading is to be verbose. A term is printed and the
code is 0; otherwise the code is 1, and the last line on the error stream is why the text is
no term. Being verbose puts lines of the log in front of it and changes nothing else. -/
theorem run_parse (joining : Joining) (stack : Parser.Stack) (text : Text)
    (noHyphen : text.head? ≠ some '-') (before after : List Text)
    (spelled : ∀ argument ∈ before ++ after, argument ∈ switchSpellings) :
    let report := run joining stack ("parse".toList :: (before ++ text :: after))
    let tree := decide ("--tree".toList ∈ before ++ after)
    let verbose := decide ("-v".toList ∈ before ++ after ∨ "--verbose".toList ∈ before ++ after)
    report = parseReport stack text tree verbose ∧
    ∃ logged, (∀ line ∈ logged, IsLogLine line) ∧ (verbose = false → logged = []) ∧
      (∀ term, (Parser.parse stack .standard text).result = .ok term →
        report.code = 0 ∧
        report.standardOutput =
          (if tree then
            String.ofList (term.outline Term.twoSpaces) ++ "\n" ++
              "depth: " ++ toString term.depth ++ "\n"
          else String.ofList (term.render .standard) ++ "\n") ∧
        report.standardError = Report.written logged) ∧
      ∀ failure, (Parser.parse stack .standard text).result = .error failure →
        report.code = 1 ∧ report.standardOutput = "" ∧ '\n' ∉ failure.message.toList ∧
        report.standardError =
          Report.written logged ++ "[formula] Error: " ++ failure.message ++ "\n" := by
  intro report tree verbose
  have same : report = parseReport stack text tree verbose :=
    run_eq_parseReport joining stack text noHyphen before after spelled
  refine ⟨same, logged stack text verbose, fun line => isLogLine_of_mem_logged, ?_, ?_, ?_⟩
  · intro quiet
    rw [logged, quiet]
    rfl
  · intro term read
    rw [same, parseReport_of_ok read]
    refine ⟨rfl, ?_, rfl⟩
    simp only [Report.standardOutput, printed]
    split <;> simp only [Report.written_cons, Report.written_nil, String.append_assoc,
      String.append_empty]
  · intro failure failed
    rw [same, parseReport_of_error failed]
    refine ⟨rfl, rfl, (Parser.lineFeed_notMem_of_result (by decide) failed).1, ?_⟩
    simp [Report.standardError, Report.written_append, Report.written_cons, String.append_assoc]

/-- Switches on both sides, one of them twice. -/
theorem run_parse_onBothSides :
    "F(A)".toList.head? ≠ some '-' ∧
    (∀ argument ∈ ["-v".toList] ++ ["--tree".toList, "--verbose".toList],
      argument ∈ switchSpellings) ∧
    let report := run .refusing .standard ["parse".toList, "-v".toList, "F(A)".toList,
      "--tree".toList, "--verbose".toList]
    report = parseReport .standard "F(A)".toList true true ∧ report.code = 0 ∧
      report.standardOutput = "F/1\n  A\ndepth: 2\n" := by
  have noHyphen : "F(A)".toList.head? ≠ some '-' := by decide
  have spelled : ∀ argument ∈ ["-v".toList] ++ ["--tree".toList, "--verbose".toList],
      argument ∈ switchSpellings := by decide
  obtain ⟨same, _, -, -, printed, -⟩ := run_parse .refusing .standard _ noHyphen _ _ spelled
  have read : (Parser.parse .standard .standard "F(A)".toList).result =
      .ok (.compound "F".toList [.atom "A".toList]) := by
    cbv
  obtain ⟨code, output, -⟩ := printed _ read
  refine ⟨noHyphen, spelled, same, code, output.trans ?_⟩
  decide

/-! ### Any command line -/

/-- The exit code and the two streams of a run agree, whatever the command line, where the
stack lasts for the sample. Code 0 comes with output, and with nothing on the error stream but
the log of a verbose reading; code 1 comes without output, and exactly where a text to be read
is no term; code 2 comes without output but with errors, and exactly where the command line
neither asks for help nor is one of a command. Help is told in its scope, and what is accepted
is carried out by the name of its command, which the command line starts with. -/
theorem run_consistent (joining : Joining) (stack : Parser.Stack) (room : 3 ≤ stack.levels)
    (arguments : List Text) :
    let report := run joining stack arguments
    report.code ∈ [0, 1, 2] ∧
    (report.code = 0 ↔ report.standardOutput ≠ "") ∧
    (report.code = 0 →
      (∃ logged, (∀ line ∈ logged, IsLogLine line) ∧
        report.standardError = Report.written logged) ∧
      (report.standardError ≠ "" →
        ∃ text flags, ReadsText joining arguments text flags ∧ .verbose ∈ flags)) ∧
    (report.code = 1 ↔ ∃ text flags failure, ReadsText joining arguments text flags ∧
      (Parser.parse stack .standard text).result = .error failure) ∧
    (report.code = 1 → report.standardOutput = "") ∧
    (report.code = 2 ↔ (∀ scope, ¬ AsksForHelp joining arguments scope) ∧
      ∀ command, ¬ Accepts joining command arguments) ∧
    (report.code = 2 → report.standardOutput = "" ∧ report.standardError ≠ "") ∧
    (∀ scope, AsksForHelp joining arguments scope → report = ⟨0, scope.help, []⟩) ∧
    ∀ command, Accepts joining command arguments →
      ∃ rest text tree verbose, arguments = command.name.toList :: rest ∧
        report = dispatch stack command.name.toList text tree verbose := by
  intro report
  have ends : Ends stack (Request.ofArguments joining arguments) report := Request.ends room _
  have printed : report.code = 0 ↔ report.standardOutput ≠ "" :=
    ends.code_eq_zero_iff.trans (not_congr Report.standardOutput_eq_empty_iff).symm
  have silent (undone : report.code ≠ 0) : report.standardOutput = "" :=
    by_contra fun some => undone (printed.2 some)
  refine ⟨ends.code_mem, printed, fun done => ?_, ?_, fun code => silent (by omega),
    ends.code_eq_two_iff.trans Request.exists_ofArguments_eq_refuse_iff,
    fun code => ⟨silent (by omega), ?_⟩, fun scope asks => ?_, fun command accepts => ?_⟩
  · obtain ⟨lines, verbosely⟩ := ends.errors_of_code_eq_zero done
    refine ⟨⟨_, lines, rfl⟩, fun some => ?_⟩
    obtain ⟨text, tree, asked⟩ := verbosely (mt Report.standardError_eq_empty_iff.2 some)
    obtain ⟨flags, reads, -, verbose⟩ := Request.ofArguments_eq_parse_iff.1 asked
    exact ⟨text, flags, reads, of_decide_eq_true verbose.symm⟩
  · rw [ends.code_eq_one_iff]
    constructor
    · rintro ⟨text, tree, verbose, failure, asked, failed⟩
      obtain ⟨flags, reads⟩ := exists_ofArguments_eq_parse_iff.1 ⟨tree, verbose, asked⟩
      exact ⟨text, flags, failure, reads, failed⟩
    · rintro ⟨text, flags, failure, reads, failed⟩
      obtain ⟨tree, verbose, asked⟩ := exists_ofArguments_eq_parse_iff.2 ⟨flags, reads⟩
      exact ⟨text, tree, verbose, failure, asked, failed⟩
  · exact mt Report.standardError_eq_empty_iff.1 (ends.errors_ne_nil (by omega))
  · show (Request.ofArguments joining arguments).perform stack = _
    rw [Request.ofArguments_eq_help_iff.2 asks]
    rfl
  · have accepted := Request.command?_ofArguments_iff.2 accepts
    obtain ⟨-, rest, starts, -⟩ := Request.exists_of_command?_ofArgumentsFrom accepted
    obtain ⟨text, tree, verbose, same⟩ := exists_perform_eq_dispatch accepted stack
    exact ⟨rest, text, tree, verbose, starts, same⟩

/-- A front of the option for help is a request for it, and so is a letter for help joined to
another behind an unknown option; of a further letter that is no option it depends on the
joining. A front of a switch is that switch, and a switch that there is not is refused. -/
theorem run_consistent_lines :
    3 ≤ Parser.Stack.standard.levels ∧
    run .refusing .standard ["--he".toList] = ⟨0, Scope.program.help, []⟩ ∧
    run .refusing .standard ["parse".toList, "--no".toList, "-vh".toList, "--".toList] =
      ⟨0, (Scope.command .parse).help, []⟩ ∧
    run .puttingAside .standard ["parse".toList, "-hx".toList] =
      ⟨0, (Scope.command .parse).help, []⟩ ∧
    (run .refusing .standard ["parse".toList, "-hx".toList]).code = 2 ∧
    (run .refusing .standard ["parse".toList, "--t".toList, "F(".toList]).code = 1 ∧
    (run .refusing .standard ["parse".toList, "--no".toList, "F(A)".toList]).code = 2 ∧
    (run .refusing .standard
      ["parse".toList, "--no".toList, "F(A)".toList]).standardError ≠ "" := by
  have room : 3 ≤ Parser.Stack.standard.levels := by decide
  have cut : AsksForHelp .refusing ["--he".toList] .program :=
    .early (@Raises.long _ _ _ "--help".toList .help (by decide) (by decide) (by decide)
      (by decide) (by decide))
  have joined : AsksForHelp .refusing
      ["parse".toList, "--no".toList, "-vh".toList, "--".toList] (.command .parse) := by
    have unknown : Unknown (.command .parse) "--no".toList := by decide
    have raises : Raises .refusing (.command .parse) "-vh".toList [.verbose, .help] [] :=
      .short (.letter (by decide) (.letter (by decide) .none)) (by decide)
    exact .late (by decide)
      (.later (.inr (.inl unknown)) (.here raises (by decide)))
  have further : AsksForHelp .puttingAside ["parse".toList, "-hx".toList] (.command .parse) := by
    have unspelled : ∀ flag, (['-', 'x'], flag) ∉ (Scope.command .parse).spellings :=
      fun flag => by cases flag <;> decide
    have raises : Raises .puttingAside (.command .parse) "-hx".toList [.help] ["-x".toList] :=
      .short (.letter (by decide) (.leftOver rfl unspelled (by decide) (by decide))) (by decide)
    exact .late (by decide) (.here raises (by decide))
  have reads : ReadsText .refusing ["parse".toList, "--t".toList, "F(".toList] "F(".toList
      [.tree] := by
    have raises : Raises .refusing (.command .parse) "--t".toList [.tree] [] :=
      @Raises.long _ _ _ "--tree".toList .tree (by decide) (by decide) (by decide) (by decide)
        (by decide)
    exact ⟨_, rfl, .options (.more raises .none) (by decide) .none, by decide⟩
  have failed : (Parser.parse .standard .standard "F(".toList).result =
      .error (.expectedAtom .stop) := by
    cbv
  have helped {joining : Joining} {arguments : List Text} {scope : Scope}
      (asks : AsksForHelp joining arguments scope) :
      run joining .standard arguments = ⟨0, scope.help, []⟩ := by
    obtain ⟨-, -, -, -, -, -, -, help, -⟩ := run_consistent joining .standard room arguments
    exact help scope asks
  have refused {joining : Joining} {arguments : List Text} {scope : Scope} {error : UsageError}
      (refuse : Request.ofArguments joining arguments = .refuse scope error) :
      (run joining .standard arguments).code = 2 ∧
        (run joining .standard arguments).standardError ≠ "" := by
    obtain ⟨-, -, -, -, -, two, loud, -⟩ := run_consistent joining .standard room arguments
    have code := two.2 (Request.exists_ofArguments_eq_refuse_iff.1 ⟨scope, error, refuse⟩)
    exact ⟨code, (loud code).2⟩
  obtain ⟨-, -, -, one, -⟩ := run_consistent .refusing .standard room
    ["parse".toList, "--t".toList, "F(".toList]
  exact ⟨room, helped cut, helped joined, helped further, (refused rfl).1,
    one.2 ⟨_, _, _, reads, failed⟩, refused rfl⟩

end

end TermText.CommandLine
