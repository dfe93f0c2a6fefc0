/-
# Help, acceptance and refusal

A command line that asks for help is granted it as soon as the request is met, whatever
stands behind it: in front of the command only unknown options may stand before it, and
among the arguments of a command only such as are harmless, while none that names several
flags may stand anywhere in front of two hyphens. A command line that is accepted is one of
`parse` with its text, or the bare name of another command. Every other command line is
refused. None of this is said by how the arguments are taken, but by what each of them is.
-/

import TermText.Proofs.Requests

namespace TermText.CommandLine

/-! ## Descriptions -/

/-- Whether the arguments that follow an argument of a command are taken as if it was not
there: it stands for itself, or is an unknown option, or raises other flags than help. -/
def Harmless (joining : Joining) (scope : Scope) (argument : Text) : Prop :=
  Plain scope argument ∨ Unknown scope argument ∨
    ∃ flags left, Raises joining scope argument flags left ∧ .help ∉ flags

/-- Arguments of which one raises help, and those in front of it are harmless. -/
inductive HelpAmong (joining : Joining) (scope : Scope) : List Text → Prop
  | here {argument : Text} {flags : List Flag} {left rest : List Text} :
      Raises joining scope argument flags left → .help ∈ flags →
      HelpAmong joining scope (argument :: rest)
  | later {argument : Text} {rest : List Text} :
      Harmless joining scope argument → HelpAmong joining scope rest →
      HelpAmong joining scope (argument :: rest)

/-- Whether every argument in front of two hyphens can be told apart. -/
def Clear (scope : Scope) (arguments : List Text) : Prop :=
  ∀ argument ∈ arguments.takeWhile (· != ['-', '-']), ¬ Ambiguous scope argument

instance (scope : Scope) (arguments : List Text) : Decidable (Clear scope arguments) :=
  inferInstanceAs (Decidable (∀ argument ∈ arguments.takeWhile (· != ['-', '-']), _))

/-- Whether a command line asks for the help of a scope: of the program by an option of its
own, of a command by one of the command's. Only unknown options may stand in front of the
first, or of the name of the command. -/
inductive AsksForHelp (joining : Joining) : List Text → Scope → Prop
  | early {argument : Text} {flags : List Flag} {left rest : List Text} :
      Raises joining .program argument flags left →
      AsksForHelp joining (argument :: rest) .program
  | late {command : Command} {rest : List Text} :
      Clear (.command command) rest → HelpAmong joining (.command command) rest →
      AsksForHelp joining (command.name.toList :: rest) (.command command)
  | past {argument : Text} {rest : List Text} {scope : Scope} :
      Unknown .program argument → AsksForHelp joining rest scope →
      AsksForHelp joining (argument :: rest) scope

/-- Whether a command line is one of a command: of `parse` with its text among options, of any
other with nothing at all. -/
inductive Accepts (joining : Joining) : Command → List Text → Prop
  | parse {arguments : List Text} {text : Text} {flags : List Flag} :
      ReadsText joining arguments text flags → Accepts joining .parse arguments
  | demo : Accepts joining .demo [Command.demo.name.toList]
  | version : Accepts joining .version [Command.version.name.toList]

variable {joining : Joining} {scope : Scope} {argument : Text} {arguments rest : List Text}
  {flags : List Flag} {left surplus : List Text} {command : Command}

/-! ## Flags that are raised -/

/-- Joined letters raise flags of the scope alone. -/
theorem Joined.exists_spelling {letters : Text} (joined : Joined joining scope letters flags left)
    {flag : Flag} (member : flag ∈ flags) : ∃ spelling, (spelling, flag) ∈ scope.spellings := by
  induction joined with
  | none => cases member
  | leftOver => cases member
  | letter spelled _ ih =>
      rcases List.mem_cons.1 member with rfl | later
      · exact ⟨_, spelled⟩
      · exact ih later

/-- An argument that raises flags raises one at least, and flags of the scope alone. -/
theorem Raises.exists_spelling (raises : Raises joining scope argument flags left) :
    flags ≠ [] ∧ ∀ flag ∈ flags, ∃ spelling, (spelling, flag) ∈ scope.spellings := by
  cases raises with
  | long spelled => exact ⟨by simp, fun flag member => ⟨_, List.mem_singleton.1 member ▸ spelled⟩⟩
  | short joined some => exact ⟨some, fun flag => joined.exists_spelling⟩
  | equated _ spelled _ joined =>
      refine ⟨by simp, fun flag member => ?_⟩
      rcases List.mem_cons.1 member with rfl | later
      · exact ⟨_, spelled⟩
      · exact joined.exists_spelling later

/-- Where help is the only flag, whatever raises flags raises help. -/
theorem Raises.help_mem (raises : Raises joining scope argument flags left)
    (only : ∀ spelled ∈ scope.spellings, spelled.2 = .help) : .help ∈ flags := by
  obtain ⟨some, spelled⟩ := raises.exists_spelling
  obtain ⟨flag, others, rfl⟩ := List.exists_cons_of_ne_nil some
  obtain ⟨spelling, member⟩ := spelled flag List.mem_cons_self
  exact only _ member ▸ List.mem_cons_self

/-- A command that is given no text has no flag but help. -/
theorem Scope.eq_help_of_spelled (noText : command.takesText = false) :
    ∀ spelled ∈ (Scope.command command).spellings, spelled.2 = .help := by
  cases command with
  | parse => cases noText
  | demo | version => decide

/-! ## What becomes of each argument -/

/-- An option raises what its flag and what is attached to it raise. -/
theorem raises_iff_of_option {flag : Flag} {short : Bool} {attached : Attached}
    (word : Word.ofArgument scope argument = .option flag short attached) :
    Raises joining scope argument flags left ↔
      raisedFlags joining scope flag short attached = .ok ⟨flags, left⟩ := by
  rw [raises_iff]
  constructor
  · rintro ⟨_, _, _, taken, raised⟩
    obtain ⟨rfl, rfl, rfl⟩ := Word.option.inj (word.symm.trans taken)
    exact raised
  · exact fun raised => ⟨flag, short, attached, word, raised⟩

/-- What is no option raises nothing. -/
theorem not_raises (other : ∀ flag short attached,
    Word.ofArgument scope argument ≠ .option flag short attached) :
    ¬ Raises joining scope argument flags left := fun raises => by
  obtain ⟨flag, short, attached, taken, -⟩ := raises_iff.1 raises
  exact other flag short attached taken

/-- Where nothing is raised, only an argument that stands for itself is harmless, or an
unknown option. -/
theorem harmless_iff_of_not_raises
    (other : ∀ flag short attached, Word.ofArgument scope argument ≠ .option flag short attached) :
    Harmless joining scope argument ↔
      (∃ text, Word.ofArgument scope argument = .plain text) ∨
        ∃ text, Word.ofArgument scope argument = .unknown text := by
  simp [Harmless, not_raises other, ofArgument_eq_plain_iff, ofArgument_eq_unknown_iff]

theorem helpAmong_cons_iff :
    HelpAmong joining scope (argument :: rest) ↔
      (∃ flags left, Raises joining scope argument flags left ∧ .help ∈ flags) ∨
        Harmless joining scope argument ∧ HelpAmong joining scope rest := by
  constructor
  · intro among
    cases among with
    | here raises help => exact .inl ⟨_, _, raises, help⟩
    | later harmless further => exact .inr ⟨harmless, further⟩
  · rintro (⟨flags, left, raises, help⟩ | ⟨harmless, further⟩)
    · exact .here raises help
    · exact .later harmless further

/-- Where an argument is no option, help can only be among those behind it. -/
theorem helpAmong_cons_iff_of_not_raises
    (other : ∀ flag short attached, Word.ofArgument scope argument ≠ .option flag short attached) :
    HelpAmong joining scope (argument :: rest) ↔
      Harmless joining scope argument ∧ HelpAmong joining scope rest := by
  simp [helpAmong_cons_iff, not_raises other]

/-- The first argument that names several flags is refused before any is taken, and only
arguments in front of two hyphens can be such. -/
theorem ambiguity?_eq_none_iff :
    ambiguity? (Word.ofArguments scope arguments) = none ↔ Clear scope arguments := by
  induction arguments with
  | nil => simp [Word.ofArguments, ambiguity?, Clear]
  | cons argument rest ih =>
      by_cases dashes : argument = ['-', '-']
      · subst dashes
        rw [Word.ofArguments_dashes]
        simp [ambiguity?, Clear]
      · have onward : Clear scope (argument :: rest) ↔
            ¬ Ambiguous scope argument ∧ Clear scope rest := by
          simp [Clear, dashes]
        have taken : Word.ofArgument scope argument ≠ .dashes :=
          mt ofArgument_eq_dashes_iff.1 dashes
        rw [onward, ← ih, ← exists_ofArgument_eq_ambiguous_iff, Word.ofArguments_cons rfl taken]
        cases word : Word.ofArgument scope argument with
        | dashes => exact absurd word taken
        | ambiguous other candidates => simp [ambiguity?]
        | plain | option | unknown => simp [ambiguity?]

/-- Plain words are taken without help. -/
theorem take_plain_ne_help {place : Place} {gathered : Gathered} :
    take joining scope place gathered (arguments.map .plain) ≠ .help := by
  induction arguments generalizing place gathered with
  | nil => exact nofun
  | cons argument rest ih =>
      rw [List.map_cons, take]
      split
      · exact ih
      · exact ih

/-- Nothing behind two hyphens is a request for help. -/
theorem take_dashes_ne_help {place : Place} {gathered : Gathered} :
    take joining scope place gathered (.dashes :: arguments.map .plain) ≠ .help := by
  rw [take]
  split
  · exact take_plain_ne_help
  · split
    · exact take_plain_ne_help
    · exact take_plain_ne_help

/-- The arguments of a command are taken for a request for help exactly when one of them
raises help and those in front of it are harmless. -/
theorem take_eq_help_iff {place : Place} {gathered : Gathered} :
    take joining scope place gathered (Word.ofArguments scope arguments) = .help ↔
      HelpAmong joining scope arguments := by
  induction arguments generalizing place gathered with
  | nil =>
      constructor
      · intro help
        cases help
      · intro among
        cases among
  | cons argument rest ih =>
      cases word : Word.ofArgument scope argument with
      | plain other =>
          obtain ⟨rfl, plain⟩ := ofArgument_eq_plain_iff.1 word
          have harmless : Harmless joining scope other := .inl plain
          rw [helpAmong_cons_iff_of_not_raises (by simp [word]), and_iff_right harmless,
            Word.ofArguments_plain plain, take]
          split
          · exact ih
          · exact ih
      | unknown other =>
          obtain ⟨rfl, unknown⟩ := ofArgument_eq_unknown_iff.1 word
          have harmless : Harmless joining scope other := .inr (.inl unknown)
          rw [helpAmong_cons_iff_of_not_raises (by simp [word]), and_iff_right harmless,
            Word.ofArguments_cons word (by simp), take]
          exact ih
      | dashes =>
          have harmful : ¬ Harmless joining scope argument := by
            simp [harmless_iff_of_not_raises, word]
          obtain rfl := ofArgument_eq_dashes_iff.1 word
          rw [helpAmong_cons_iff_of_not_raises (by simp [word]), Word.ofArguments_dashes]
          exact ⟨fun help => absurd help take_dashes_ne_help, fun among => absurd among.1 harmful⟩
      | ambiguous other candidates =>
          have harmful : ¬ Harmless joining scope argument := by
            simp [harmless_iff_of_not_raises, word]
          rw [helpAmong_cons_iff_of_not_raises (by simp [word]),
            Word.ofArguments_cons word (by simp)]
          constructor
          · intro help
            cases help
          · exact fun among => absurd among.1 harmful
      | option flag short attached =>
          have plain : ¬ Plain scope argument := fun plain => by
            cases word.symm.trans (ofArgument_eq_plain_iff.2 ⟨rfl, plain⟩)
          have known : ¬ Unknown scope argument := fun unknown => by
            cases word.symm.trans (ofArgument_eq_unknown_iff.2 ⟨rfl, unknown⟩)
          rw [helpAmong_cons_iff, Harmless, Word.ofArguments_cons word (by simp), take]
          simp only [plain, known, false_or, raises_iff_of_option word]
          cases raisedFlags joining scope flag short attached with
          | error error => simp
          | ok raised =>
              obtain ⟨flags, left⟩ := raised
              by_cases help : .help ∈ flags
              · simp [help]
              · simp [help, ih]

/-! ## What a command line asks for -/

namespace Request

/-- What is put off until all arguments are taken is no request for help. -/
theorem ofGathered_ne_help {gathered : Gathered} :
    ofGathered command surplus gathered ≠ .help scope := by
  have granted {surplus : List Text} {request : Request} (other : request ≠ .help scope) :
      unlessSurplus surplus request ≠ .help scope := by
    unfold unlessSurplus
    split
    · exact other
    · exact nofun
  unfold ofGathered
  split
  · exact nofun
  · exact granted nofun
  · exact granted nofun
  · exact granted nofun

/-- The name of a command is plain wherever it stands, and calls that command. -/
theorem ofArgumentsFrom_name (command : Command) (surplus rest : List Text) :
    ofArgumentsFrom joining surplus (command.name.toList :: rest) =
      ofCommand joining command surplus rest := by
  cases command <;> rfl

/-- A command is asked for help exactly when help is among its arguments and none of them
names several flags. -/
theorem ofCommand_eq_help_iff :
    ofCommand joining command surplus arguments = .help scope ↔
      scope = .command command ∧ Clear (.command command) arguments ∧
        HelpAmong joining (.command command) arguments := by
  have helped : take joining (.command command) command.place .nothing
      (Word.ofArguments (.command command) arguments) = .help ↔
        HelpAmong joining (.command command) arguments := take_eq_help_iff
  rw [← ambiguity?_eq_none_iff, ← helped, ofCommand]
  cases ambiguity? (Word.ofArguments (.command command) arguments) with
  | some error => simp
  | none =>
      cases take joining (.command command) command.place .nothing
          (Word.ofArguments (.command command) arguments) with
      | help =>
          exact ⟨fun same => ⟨(Request.help.inj same).symm, rfl, rfl⟩, fun asked => by rw [asked.1]⟩
      | refused error => simp
      | all gathered => simp [ofGathered_ne_help]

/-- A command line is taken for a request for help exactly when it asks for help. -/
theorem ofArgumentsFrom_eq_help_iff :
    ofArgumentsFrom joining surplus arguments = .help scope ↔
      AsksForHelp joining arguments scope := by
  induction arguments generalizing surplus with
  | nil => exact ⟨nofun, nofun⟩
  | cons argument rest ih =>
      constructor
      · intro asked
        rcases ofArgumentsFrom_cons_cases joining surplus argument rest with
          ⟨command, rfl, same⟩ | ⟨unknown, same⟩ | ⟨flags, left, raises, same⟩ | ⟨error, same⟩
        · rw [same] at asked
          obtain ⟨rfl, clear, among⟩ := ofCommand_eq_help_iff.1 asked
          exact .late clear among
        · rw [same] at asked
          exact .past unknown (ih.1 asked)
        · rw [same] at asked
          cases asked
          exact .early raises
        · rw [same] at asked
          cases asked
      · intro asks
        cases asks with
        | early raises =>
            obtain ⟨flag, short, attached, word, raised⟩ := raises_iff.1 raises
            simp only [ofArgumentsFrom, word, raised]
        | late clear among =>
            rw [ofArgumentsFrom_name]
            exact ofCommand_eq_help_iff.2 ⟨rfl, clear, among⟩
        | past unknown further =>
            rw [ofArgumentsFrom, ofArgument_eq_unknown_iff.2 ⟨rfl, unknown⟩]
            exact ih.2 further

theorem ofArguments_eq_help_iff :
    ofArguments joining arguments = .help scope ↔ AsksForHelp joining arguments scope :=
  ofArgumentsFrom_eq_help_iff

/-- A command that is given no text is accepted with no arguments at all. -/
theorem eq_nil_of_command?_ofCommand (noText : command.takesText = false)
    (accepted : (ofCommand joining command surplus arguments).command? = some command) :
    arguments = [] := by
  obtain ⟨gathered, taken, same⟩ := exists_gathered_of_command? accepted
  rw [same] at accepted
  obtain ⟨-, noSurplus, -⟩ := eq_of_command?_ofGathered accepted
  have closed : command.place = .closed := by simp [Command.place, noText]
  rw [closed] at taken
  obtain ⟨flags, switches, noHelp, -⟩ := switches_of_take_closed noSurplus taken
  cases switches with
  | none => rfl
  | more raises _ =>
      have help := raises.help_mem (Scope.eq_help_of_spelled noText)
      exact absurd (List.mem_append_left _ help) noHelp

/-- A command line is taken for a request to a command exactly when it is one of that
command. -/
theorem command?_ofArguments_iff :
    (ofArguments joining arguments).command? = some command ↔
      Accepts joining command arguments := by
  constructor
  · intro accepted
    obtain ⟨-, rest, rfl, granted⟩ := exists_of_command?_ofArgumentsFrom accepted
    cases command with
    | parse =>
        cases asked : ofArguments joining (Command.parse.name.toList :: rest) with
        | parse text tree verbose =>
            obtain ⟨flags, reads, -⟩ := ofArguments_eq_parse_iff.1 asked
            exact .parse reads
        | help | refuse | demo | version => simp [asked, command?] at accepted
    | demo =>
        rw [ofArguments, granted] at accepted
        obtain rfl := eq_nil_of_command?_ofCommand rfl accepted
        exact .demo
    | version =>
        rw [ofArguments, granted] at accepted
        obtain rfl := eq_nil_of_command?_ofCommand rfl accepted
        exact .version
  · intro accepts
    cases accepts with
    | parse reads =>
        rw [ofArguments_eq_parse_iff.2 ⟨_, reads, rfl, rfl⟩]
        rfl
    | demo => rfl
    | version => rfl

/-- A command line is refused exactly when it neither asks for help nor is accepted. -/
theorem exists_ofArguments_eq_refuse_iff :
    (∃ scope error, ofArguments joining arguments = .refuse scope error) ↔
      (∀ scope, ¬ AsksForHelp joining arguments scope) ∧
        ∀ command, ¬ Accepts joining command arguments := by
  simp only [← ofArguments_eq_help_iff, ← command?_ofArguments_iff]
  cases ofArguments joining arguments <;> simp [command?]

end Request

end TermText.CommandLine
