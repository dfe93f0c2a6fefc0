/-
# Command lines that are accepted

A command line is accepted when it is neither refused nor a request for help. It starts
with the name of its command, because anything in front of it would be left over, and
what it asks for is decided by the arguments after that. Those of `parse` are accepted
exactly when they are one text among switches; what stands around the text does not
matter, only which switches are there. Two hyphens may stand right in front of the text
or right behind it, but nothing else may follow.
-/

import TermText.Proofs.Words

namespace TermText.CommandLine

/-! ## Words and flags -/

namespace Word

variable {scope : Scope} {argument : Text}

/-- After two hyphens every argument is plain. -/
theorem ofArguments_dashes (scope : Scope) (rest : List Text) :
    ofArguments scope (['-', '-'] :: rest) = .dashes :: rest.map .plain :=
  rfl

/-- Any other argument leaves the options open. -/
theorem ofArguments_cons {word : Word} (taken : ofArgument scope argument = word)
    (other : word ≠ .dashes) (rest : List Text) :
    ofArguments scope (argument :: rest) = word :: ofArguments scope rest := by
  rw [ofArguments, taken]
  split
  · exact absurd rfl other
  · rfl

theorem ofArguments_plain (plain : Plain scope argument) (rest : List Text) :
    ofArguments scope (argument :: rest) = .plain argument :: ofArguments scope rest :=
  ofArguments_cons (ofArgument_eq_plain_iff.2 ⟨rfl, plain⟩) (by simp) rest

end Word

namespace Gathered

variable (flags : List Flag) (gathered : Gathered)

@[simp] theorem text_foldl_raise : (flags.foldl raise gathered).text = gathered.text := by
  induction flags generalizing gathered with
  | nil => rfl
  | cons flag rest ih =>
      rw [List.foldl_cons, ih]
      cases flag <;> rfl

@[simp] theorem surplus_foldl_raise : (flags.foldl raise gathered).surplus = gathered.surplus := by
  induction flags generalizing gathered with
  | nil => rfl
  | cons flag rest ih =>
      rw [List.foldl_cons, ih]
      cases flag <;> rfl

theorem tree_foldl_raise :
    (flags.foldl raise gathered).tree = (gathered.tree || decide (.tree ∈ flags)) := by
  induction flags generalizing gathered with
  | nil => simp
  | cons flag rest ih =>
      rw [List.foldl_cons, ih]
      cases flag <;> simp [raise]

theorem verbose_foldl_raise :
    (flags.foldl raise gathered).verbose = (gathered.verbose || decide (.verbose ∈ flags)) := by
  induction flags generalizing gathered with
  | nil => simp
  | cons flag rest ih =>
      rw [List.foldl_cons, ih]
      cases flag <;> simp [raise]

theorem surplus_accept (raised : Raised) :
    (gathered.accept raised).surplus = gathered.surplus ++ raised.leftOver := by
  have aside (leftOver : List Text) (gathered : Gathered) :
      (leftOver.foldl putAside gathered).surplus = gathered.surplus ++ leftOver := by
    induction leftOver generalizing gathered with
    | nil => simp
    | cons argument rest ih =>
        rw [List.foldl_cons, ih]
        simp [putAside]
  rw [accept, aside, surplus_foldl_raise]

/-- Flags and the text are gathered apart. -/
theorem foldl_raise_withText (gathered : Gathered) (flags : List Flag) (text : Option Text) :
    flags.foldl raise { gathered with text := text } =
      { flags.foldl raise gathered with text := text } := by
  induction flags generalizing gathered with
  | nil => rfl
  | cons flag rest ih =>
      rw [List.foldl_cons, List.foldl_cons, ← ih]
      cases flag <;> rfl

end Gathered

/-! ## Arguments around one text -/

/-- Arguments that are all options and raise their flags with nothing left over. -/
inductive Switches (joining : Joining) (scope : Scope) : List Text → List Flag → Prop
  | none : Switches joining scope [] []
  | more {argument : Text} {flags others : List Flag} {rest : List Text} :
      Raises joining scope argument flags [] → Switches joining scope rest others →
      Switches joining scope (argument :: rest) (flags ++ others)

/-- Arguments that are one text among options, with the flags that the options raise. Behind
two hyphens the text may be anything; two hyphens behind the text are the last argument. -/
inductive Surrounds (joining : Joining) (scope : Scope) (text : Text) :
    List Text → List Flag → Prop
  | options {before after : List Text} {flags others : List Flag} :
      Switches joining scope before flags → Plain scope text →
      Switches joining scope after others →
      Surrounds joining scope text (before ++ text :: after) (flags ++ others)
  | behindDashes {before : List Text} {flags : List Flag} :
      Switches joining scope before flags →
      Surrounds joining scope text (before ++ [['-', '-'], text]) flags
  | inFrontOfDashes {before : List Text} {flags : List Flag} :
      Switches joining scope before flags → Plain scope text →
      Surrounds joining scope text (before ++ [text, ['-', '-']]) flags

variable {joining : Joining} {scope : Scope} {place : Place} {gathered result : Gathered}
  {argument text : Text} {arguments before after : List Text} {flags others : List Flag}
  {left : List Text}

/-! ### What is arranged like this is taken -/

/-- An option raises its flags, and what follows is taken. -/
theorem take_raises (raises : Raises joining scope argument flags left) (noHelp : .help ∉ flags)
    (rest : List Text) :
    take joining scope place gathered (Word.ofArguments scope (argument :: rest)) =
      take joining scope place.leave (gathered.accept ⟨flags, left⟩)
        (Word.ofArguments scope rest) := by
  obtain ⟨flag, short, attached, taken, raised⟩ := raises_iff.1 raises
  rw [Word.ofArguments_cons taken (by simp), take, raised]
  exact if_neg noHelp

/-- Options in front of the text raise their flags and leave its place free. -/
theorem Switches.take_free (switches : Switches joining scope before flags)
    (noHelp : .help ∉ flags) (gathered : Gathered) (rest : List Text) :
    take joining scope .free gathered (Word.ofArguments scope (before ++ rest)) =
      take joining scope .free (flags.foldl .raise gathered) (Word.ofArguments scope rest) := by
  induction switches generalizing gathered with
  | none => rfl
  | more raises _ ih =>
      rw [List.mem_append, not_or] at noHelp
      rw [List.cons_append, take_raises raises noHelp.1, List.foldl_append]
      exact ih noHelp.2 _

/-- Options at the end raise their flags, wherever the text is. -/
theorem Switches.take_all (switches : Switches joining scope after flags)
    (noHelp : .help ∉ flags) (place : Place) (gathered : Gathered) :
    take joining scope place gathered (Word.ofArguments scope after) =
      .all (flags.foldl .raise gathered) := by
  induction switches generalizing place gathered with
  | none => rfl
  | more raises _ ih =>
      rw [List.mem_append, not_or] at noHelp
      rw [take_raises raises noHelp.1, List.foldl_append]
      exact ih noHelp.2 _ _

/-- Options are never ambiguous. -/
theorem Switches.ambiguity?_append (switches : Switches joining scope before flags)
    (rest : List Text) :
    ambiguity? (Word.ofArguments scope (before ++ rest)) =
      ambiguity? (Word.ofArguments scope rest) := by
  induction switches with
  | none => rfl
  | more raises _ ih =>
      obtain ⟨flag, short, attached, taken, -⟩ := raises_iff.1 raises
      rw [List.cons_append, Word.ofArguments_cons taken (by simp)]
      exact ih

/-- A text among options is taken with the flags that they raise. -/
theorem Surrounds.take_eq (surrounds : Surrounds joining scope text arguments flags)
    (noHelp : .help ∉ flags) (gathered : Gathered) :
    take joining scope .free gathered (Word.ofArguments scope arguments) =
      .all (flags.foldl .raise { gathered with text := some text }) := by
  cases surrounds with
  | @options _ _ flags others early plain late =>
      rw [List.mem_append, not_or] at noHelp
      rw [early.take_free noHelp.1, Word.ofArguments_plain plain, take, if_pos rfl,
        late.take_all noHelp.2, List.foldl_append,
        gathered.foldl_raise_withText flags (some text)]
  | behindDashes early =>
      rw [early.take_free noHelp, gathered.foldl_raise_withText flags (some text)]
      rfl
  | inFrontOfDashes early plain =>
      rw [early.take_free noHelp, Word.ofArguments_plain plain,
        gathered.foldl_raise_withText flags (some text)]
      rfl

/-- A text among options is never ambiguous. -/
theorem Surrounds.ambiguity?_eq_none (surrounds : Surrounds joining scope text arguments flags) :
    ambiguity? (Word.ofArguments scope arguments) = none := by
  cases surrounds with
  | @options _ after _ _ early plain late =>
      rw [early.ambiguity?_append, Word.ofArguments_plain plain]
      have ended := late.ambiguity?_append []
      rwa [List.append_nil] at ended
  | behindDashes early =>
      rw [early.ambiguity?_append]
      rfl
  | inFrontOfDashes early plain =>
      rw [early.ambiguity?_append, Word.ofArguments_plain plain]
      rfl

/-! ### What is taken is arranged like this -/

/-- What has been put aside stays there. -/
theorem surplus_prefix_of_take {words : List Word}
    (taken : take joining scope place gathered words = .all result) :
    gathered.surplus <+: result.surplus := by
  induction words generalizing place gathered with
  | nil => exact (Taken.all.inj taken) ▸ List.prefix_rfl
  | cons word rest ih =>
      have aside (argument : Text) : gathered.surplus <+: (gathered.putAside argument).surplus :=
        List.prefix_append _ _
      cases word with
      | plain text =>
          rw [take] at taken
          split at taken
          · simpa using ih taken
          · exact (aside text).trans (ih taken)
      | dashes =>
          rw [take] at taken
          split at taken
          · exact ih taken
          · split at taken
            · exact ih taken
            · exact (aside _).trans (ih taken)
      | unknown argument => exact (aside argument).trans (ih taken)
      | ambiguous => cases taken
      | option flag short attached =>
          rw [take] at taken
          split at taken
          · cases taken
          · next raised _ =>
              split at taken
              · cases taken
              · have accepted := ih taken
                rw [Gathered.surplus_accept] at accepted
                exact (List.prefix_append _ _).trans accepted

/-- Nothing is left over only where nothing was put aside. -/
theorem not_take_putAside {argument : Text} {words : List Word} (noSurplus : result.surplus = []) :
    take joining scope place (gathered.putAside argument) words ≠ .all result := by
  intro taken
  have stays := surplus_prefix_of_take taken
  simp [noSurplus, Gathered.putAside] at stays

/-- Plain words leave nothing over only where there are none. -/
theorem eq_nil_of_take_plain (noSurplus : result.surplus = []) (filled : place ≠ .free)
    (taken : take joining scope place gathered (arguments.map .plain) = .all result) :
    arguments = [] ∧ result = gathered := by
  cases arguments with
  | nil => exact ⟨rfl, (Taken.all.inj taken).symm⟩
  | cons argument rest =>
      rw [List.map_cons, take, if_neg filled] at taken
      exact absurd taken (not_take_putAside noSurplus)

/-- Where arguments are taken and nothing is left over, the first of them is an option, the
text where its place is free, or two hyphens beside the text: the last argument behind it,
or the last but one in front of it. -/
theorem first_of_take {rest : List Text} (noSurplus : result.surplus = [])
    (taken : take joining scope place gathered (Word.ofArguments scope (argument :: rest)) =
      .all result) :
    (∃ flags, Raises joining scope argument flags [] ∧ .help ∉ flags ∧
      take joining scope place.leave (flags.foldl .raise gathered)
        (Word.ofArguments scope rest) = .all result) ∨
    (place = .free ∧ Plain scope argument ∧
      take joining scope .justFilled { gathered with text := some argument }
        (Word.ofArguments scope rest) = .all result) ∨
    argument = ['-', '-'] ∧
      (place = .justFilled ∧ rest = [] ∧ result = gathered ∨
        place = .free ∧ ∃ text, rest = [text] ∧ result = { gathered with text := some text }) := by
  cases word : Word.ofArgument scope argument with
  | plain other =>
      obtain ⟨rfl, plain⟩ := ofArgument_eq_plain_iff.1 word
      rw [Word.ofArguments_plain plain, take] at taken
      split at taken
      · next free => exact .inr (.inl ⟨free, plain, taken⟩)
      · exact absurd taken (not_take_putAside noSurplus)
  | dashes =>
      obtain rfl := ofArgument_eq_dashes_iff.1 word
      rw [Word.ofArguments_dashes, take] at taken
      -- Every word behind two hyphens is plain, and only a free place has a use for one.
      split at taken
      · next filled =>
          obtain ⟨rfl, same⟩ := eq_nil_of_take_plain noSurplus (by decide) taken
          exact .inr (.inr ⟨rfl, .inl ⟨filled, rfl, same⟩⟩)
      · split at taken
        · next before =>
            obtain ⟨text, further, rfl⟩ := List.exists_cons_of_ne_nil (by simpa using before.2)
            rw [List.map_cons, take, if_pos rfl] at taken
            obtain ⟨rfl, same⟩ := eq_nil_of_take_plain noSurplus (by decide) taken
            exact .inr (.inr ⟨rfl, .inr ⟨before.1, text, rfl, same⟩⟩)
        · exact absurd taken (not_take_putAside noSurplus)
  | unknown other =>
      rw [Word.ofArguments_cons word (by simp)] at taken
      exact absurd taken (not_take_putAside noSurplus)
  | ambiguous other candidates =>
      rw [Word.ofArguments_cons word (by simp)] at taken
      cases taken
  | option flag short attached =>
      rw [Word.ofArguments_cons word (by simp), take] at taken
      split at taken
      · cases taken
      · next raised found =>
          split at taken
          · cases taken
          · next noHelp =>
              have stays := surplus_prefix_of_take taken
              obtain ⟨flags, left⟩ := raised
              obtain rfl : left = [] := by
                rw [noSurplus, Gathered.surplus_accept] at stays
                exact (List.append_eq_nil_iff.1 (List.prefix_nil.1 stays)).2
              exact .inl ⟨flags, raises_iff.2 ⟨flag, short, attached, word, found⟩, noHelp, taken⟩

/-- Where the place of the text is closed, only options are taken. -/
theorem switches_of_take_closed (noSurplus : result.surplus = [])
    (taken : take joining scope .closed gathered (Word.ofArguments scope arguments) =
      .all result) :
    ∃ flags, Switches joining scope arguments flags ∧ .help ∉ flags ∧
      result = flags.foldl .raise gathered := by
  induction arguments generalizing gathered with
  | nil => exact ⟨[], .none, by simp, (Taken.all.inj taken).symm⟩
  | cons argument rest ih =>
      rcases first_of_take noSurplus taken with
        ⟨flags, raises, noHelp, onward⟩ | ⟨free, -⟩ | ⟨-, ⟨filled, -⟩ | ⟨free, -⟩⟩
      · obtain ⟨others, switches, noMore, rfl⟩ := ih onward
        refine ⟨flags ++ others, .more raises switches, ?_, List.foldl_append.symm⟩
        simp [noHelp, noMore]
      · cases free
      · cases filled
      · cases free

/-- Right behind the text only options are taken, or two hyphens and nothing more. -/
theorem switches_or_dashes_of_take_justFilled (noSurplus : result.surplus = [])
    (taken : take joining scope .justFilled gathered (Word.ofArguments scope arguments) =
      .all result) :
    (∃ flags, Switches joining scope arguments flags ∧ .help ∉ flags ∧
      result = flags.foldl .raise gathered) ∨
    arguments = [['-', '-']] ∧ result = gathered := by
  cases arguments with
  | nil => exact .inl ⟨[], .none, by simp, (Taken.all.inj taken).symm⟩
  | cons argument rest =>
      rcases first_of_take noSurplus taken with
        ⟨flags, raises, noHelp, onward⟩ | ⟨free, -⟩ | ⟨rfl, ⟨-, rfl, same⟩ | ⟨free, -⟩⟩
      · -- What is taken behind an option is taken with the place of the text closed.
        refine .inl (switches_of_take_closed noSurplus ?_)
        rw [take_raises raises noHelp]
        exact onward
      · cases free
      · exact .inr ⟨rfl, same⟩
      · cases free

/-- A text among options stays one behind a further option. -/
theorem Surrounds.cons (raises : Raises joining scope argument flags [])
    (surrounds : Surrounds joining scope text arguments others) :
    Surrounds joining scope text (argument :: arguments) (flags ++ others) := by
  cases surrounds with
  | options early plain late =>
      rw [← List.append_assoc]
      exact .options (.more raises early) plain late
  | behindDashes early => exact .behindDashes (.more raises early)
  | inFrontOfDashes early plain => exact .inFrontOfDashes (.more raises early) plain

/-- Where arguments are taken with a text and nothing left over, they are that text among
options. -/
theorem surrounds_of_take_free (noSurplus : result.surplus = [])
    (noText : gathered.text = none) (found : result.text = some text)
    (taken : take joining scope .free gathered (Word.ofArguments scope arguments) =
      .all result) :
    ∃ flags, Surrounds joining scope text arguments flags ∧ .help ∉ flags ∧
      result = flags.foldl .raise { gathered with text := some text } := by
  induction arguments generalizing gathered with
  | nil =>
      obtain rfl : gathered = result := Taken.all.inj taken
      rw [noText] at found
      cases found
  | cons argument rest ih =>
      rcases first_of_take noSurplus taken with
        ⟨flags, raises, noHelp, onward⟩ | ⟨-, plain, onward⟩ |
          ⟨rfl, ⟨filled, -⟩ | ⟨-, other, rfl, rfl⟩⟩
      · obtain ⟨others, surrounds, noMore, rfl⟩ := ih (by simpa using noText) onward
        refine ⟨flags ++ others, surrounds.cons raises, by simp [noHelp, noMore], ?_⟩
        rw [List.foldl_append, gathered.foldl_raise_withText flags (some text)]
      · rcases switches_or_dashes_of_take_justFilled noSurplus onward with
          ⟨flags, late, noHelp, rfl⟩ | ⟨rfl, rfl⟩
        · obtain rfl : argument = text := by simpa using found
          exact ⟨flags, .options .none plain late, noHelp, rfl⟩
        · obtain rfl := Option.some.inj found
          exact ⟨[], .inFrontOfDashes .none plain, by simp, rfl⟩
      · cases filled
      · obtain rfl := Option.some.inj found
        exact ⟨[], .behindDashes .none, by simp, rfl⟩

/-! ## Accepted requests -/

/-- Whether a command line is one of `parse` that has a text to be read: the name of the
command, and the text among options of which none is for help. -/
def ReadsText (joining : Joining) (arguments : List Text) (text : Text) (flags : List Flag) :
    Prop :=
  ∃ rest, arguments = Command.parse.name.toList :: rest ∧
    Surrounds joining (.command .parse) text rest flags ∧ .help ∉ flags

namespace Request

/-- The command of a request that is neither refused nor a request for help. -/
def command? : Request → Option Command
  | .parse _ _ _ => some .parse
  | .demo => some .demo
  | .version => some .version
  | .help _ | .refuse _ _ => none

variable {command : Command} {surplus rest : List Text} {tree verbose : Bool}

/-- A request is accepted only when nothing is left over. -/
theorem eq_of_command?_unlessSurplus {request : Request}
    (accepted : (unlessSurplus surplus request).command? = some command) :
    surplus = [] ∧ request.command? = some command := by
  unfold unlessSurplus at accepted
  split at accepted
  · next empty => exact ⟨empty, accepted⟩
  · cases accepted

/-- What was gathered for a command is accepted as a request for that command, and only
when nothing was put aside, before the command or after it. -/
theorem eq_of_command?_ofGathered {called : Command}
    (accepted : (ofGathered called surplus gathered).command? = some command) :
    surplus = [] ∧ gathered.surplus = [] ∧ called = command := by
  have noSurplus {request : Request}
      (accepted : (unlessSurplus (surplus ++ gathered.surplus) request).command? = some command) :
      surplus = [] ∧ gathered.surplus = [] ∧ request.command? = some command := by
    obtain ⟨empty, same⟩ := eq_of_command?_unlessSurplus accepted
    obtain ⟨before, after⟩ := List.append_eq_nil_iff.1 empty
    exact ⟨before, after, same⟩
  unfold ofGathered at accepted
  cases called with
  | parse =>
      cases found : gathered.text with
      | none => simp [found, command?] at accepted
      | some text =>
          simp only [found] at accepted
          simpa [command?] using noSurplus accepted
  | demo => simpa [command?] using noSurplus accepted
  | version => simpa [command?] using noSurplus accepted

/-- A command that accepts its arguments has taken them all. -/
theorem exists_gathered_of_command? {called : Command}
    (accepted : (ofCommand joining called surplus arguments).command? = some command) :
    ∃ gathered, take joining (.command called) called.place .nothing
        (Word.ofArguments (.command called) arguments) = .all gathered ∧
      ofCommand joining called surplus arguments = ofGathered called surplus gathered := by
  unfold ofCommand at accepted ⊢
  cases unclear : ambiguity? (Word.ofArguments (.command called) arguments) with
  | some error => simp [unclear, command?] at accepted
  | none =>
      simp only [unclear] at accepted ⊢
      cases taken : take joining (.command called) called.place .nothing
          (Word.ofArguments (.command called) arguments) with
      | help => simp [taken, command?] at accepted
      | refused error => simp [taken, command?] at accepted
      | all gathered => exact ⟨gathered, rfl, rfl⟩

/-- The command that a word calls has that name. -/
theorem eq_name_of_ofWord? {word : Text} (called : Command.ofWord? word = some command) :
    word = command.name.toList := by
  have same := List.find?_some called
  exact (eq_of_beq same).symm

/-- What the first argument of a command line decides: it calls a command, or is an option
that there is not and is put aside, or raises the flag for help, or the command line is
refused. -/
theorem ofArgumentsFrom_cons_cases (joining : Joining) (surplus : List Text) (argument : Text)
    (rest : List Text) :
    (∃ command : Command, argument = command.name.toList ∧
      ofArgumentsFrom joining surplus (argument :: rest) =
        ofCommand joining command surplus rest) ∨
    (Unknown .program argument ∧ ofArgumentsFrom joining surplus (argument :: rest) =
      ofArgumentsFrom joining (surplus ++ [argument]) rest) ∨
    (∃ flags left, Raises joining .program argument flags left ∧
      ofArgumentsFrom joining surplus (argument :: rest) = .help .program) ∨
    ∃ error, ofArgumentsFrom joining surplus (argument :: rest) = .refuse .program error := by
  rw [ofArgumentsFrom]
  cases word : Word.ofArgument .program argument with
  | plain text =>
      obtain ⟨rfl, -⟩ := ofArgument_eq_plain_iff.1 word
      dsimp only
      cases called : Command.ofWord? text with
      | none => exact .inr (.inr (.inr ⟨_, rfl⟩))
      | some command => exact .inl ⟨command, eq_name_of_ofWord? called, rfl⟩
  | dashes =>
      refine .inr (.inr (.inr ?_))
      dsimp only
      split
      · exact ⟨_, rfl⟩
      · exact ⟨_, rfl⟩
  | unknown other =>
      obtain ⟨rfl, unknown⟩ := ofArgument_eq_unknown_iff.1 word
      exact .inr (.inl ⟨unknown, rfl⟩)
  | ambiguous other candidates => exact .inr (.inr (.inr ⟨_, rfl⟩))
  | option flag short attached =>
      dsimp only
      cases raised : raisedFlags joining .program flag short attached with
      | error error => exact .inr (.inr (.inr ⟨_, rfl⟩))
      | ok result =>
          have raises := raises_iff.2 ⟨flag, short, attached, word, raised⟩
          exact .inr (.inr (.inl ⟨_, _, raises, rfl⟩))

/-- An accepted command line is the name of a command and the arguments of that command,
and nothing has been put aside in front of it. -/
theorem exists_of_command?_ofArgumentsFrom
    (accepted : (ofArgumentsFrom joining surplus arguments).command? = some command) :
    surplus = [] ∧ ∃ rest, arguments = command.name.toList :: rest ∧
      ofArgumentsFrom joining surplus arguments = ofCommand joining command [] rest := by
  induction arguments generalizing surplus with
  | nil => cases accepted
  | cons argument rest ih =>
      rcases ofArgumentsFrom_cons_cases joining surplus argument rest with
        ⟨called, rfl, same⟩ | ⟨-, same⟩ | ⟨flags, left, -, same⟩ | ⟨error, same⟩
      · rw [same] at accepted ⊢
        obtain ⟨gathered, -, taken⟩ := exists_gathered_of_command? accepted
        rw [taken] at accepted
        obtain ⟨rfl, -, rfl⟩ := eq_of_command?_ofGathered accepted
        exact ⟨rfl, rest, rfl, rfl⟩
      · -- What was put aside makes the rest fail, whatever it is.
        rw [same] at accepted
        have aside := (ih accepted).1
        simp at aside
      · rw [same] at accepted
        cases accepted
      · rw [same] at accepted
        cases accepted

/-- A text is to be read when it was gathered with its flags and nothing else. -/
theorem ofGathered_parse_eq_iff :
    ofGathered .parse [] gathered = .parse text tree verbose ↔
      gathered = ⟨some text, tree, verbose, []⟩ := by
  constructor
  · intro same
    have accepted : (ofGathered .parse [] gathered).command? = some .parse := by rw [same]; rfl
    obtain ⟨-, noSurplus, -⟩ := eq_of_command?_ofGathered accepted
    rcases gathered with ⟨_ | found, tree, verbose, surplus⟩
    · cases same
    · obtain rfl : surplus = [] := noSurplus
      obtain ⟨rfl, rfl, rfl⟩ := Request.parse.inj same
      rfl
  · rintro rfl
    rfl

/-- Which flags were raised beside a text is all that was gathered with it. -/
theorem foldl_raise_eq (flags : List Flag) (text : Text) :
    flags.foldl .raise { Gathered.nothing with text := some text } =
      ⟨some text, decide (.tree ∈ flags), decide (.verbose ∈ flags), []⟩ := by
  rw [Gathered.mk.injEq]
  refine ⟨?_, ?_, ?_, ?_⟩
  · simp
  · simp [Gathered.tree_foldl_raise, Gathered.nothing]
  · simp [Gathered.verbose_foldl_raise, Gathered.nothing]
  · simp [Gathered.nothing]

/-- A command line asks for a text to be read exactly when it is one of `parse` with that
text among options. Of the options it matters only which flags they raise. -/
theorem ofArguments_eq_parse_iff :
    ofArguments joining arguments = .parse text tree verbose ↔
      ∃ flags, ReadsText joining arguments text flags ∧
        tree = decide (.tree ∈ flags) ∧ verbose = decide (.verbose ∈ flags) := by
  constructor
  · intro same
    have accepted : (ofArgumentsFrom joining [] arguments).command? = some .parse := by
      rw [show ofArgumentsFrom joining [] arguments = _ from same]
      rfl
    obtain ⟨-, rest, rfl, granted⟩ := exists_of_command?_ofArgumentsFrom accepted
    rw [granted] at accepted
    obtain ⟨gathered, taken, gives⟩ := exists_gathered_of_command? accepted
    have read : ofGathered .parse [] gathered = .parse text tree verbose := by
      rw [← gives, ← granted]
      exact same
    obtain rfl := ofGathered_parse_eq_iff.1 read
    obtain ⟨flags, surrounds, noHelp, raised⟩ := surrounds_of_take_free rfl rfl rfl taken
    rw [foldl_raise_eq, Gathered.mk.injEq] at raised
    exact ⟨flags, ⟨rest, rfl, surrounds, noHelp⟩, raised.2.1, raised.2.2.1⟩
  · rintro ⟨flags, ⟨rest, rfl, surrounds, noHelp⟩, rfl, rfl⟩
    have called : ofArguments joining (Command.parse.name.toList :: rest) =
        ofCommand joining .parse [] rest := rfl
    have taken := surrounds.take_eq noHelp .nothing
    rw [called, ofCommand]
    have free : Command.parse.place = .free := rfl
    simp only [surrounds.ambiguity?_eq_none, free, taken, foldl_raise_eq]
    exact ofGathered_parse_eq_iff.2 rfl

end Request

end TermText.CommandLine
