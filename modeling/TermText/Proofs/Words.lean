/-
# What a single argument says

What an argument says is described here by its characters and by the spellings of a scope
alone: which flags it names, which it raises and what is left over of it then, and when it
stands for itself. The reader of options takes an argument for exactly what it says. Nothing
in the descriptions follows the reader: it looks for whole spellings first, then in front of
an equals sign, then for the fronts of spellings, while an argument names all flags at once
whose spellings agree with it.
-/

import Mathlib
import TermText.CommandLine.Request

namespace TermText.CommandLine

/-! ## Descriptions -/

/-- Whether an argument names a flag by a spelling: a short spelling stands in front of it;
of a long one, a front of two characters at least stands before the equals sign or the end. -/
def Names (argument spelling : Text) : Prop :=
  Word.isShort spelling = true ∧ spelling <+: argument ∨
    Word.isShort spelling = false ∧ ['-', '-'] <+: argument ∧
      argument.takeWhile (· != '=') <+: spelling

instance (argument spelling : Text) : Decidable (Names argument spelling) :=
  inferInstanceAs (Decidable (_ ∨ _))

/-- Whether an argument names no flag of a scope. -/
def Nameless (scope : Scope) (argument : Text) : Prop :=
  ∀ spelled ∈ scope.spellings, ¬ Names argument spelled.1

/-- Whether an argument names several flags of a scope. Two hyphens alone are none of these. -/
def Ambiguous (scope : Scope) (argument : Text) : Prop :=
  argument ≠ ['-', '-'] ∧ ∃ spelled ∈ scope.spellings, ∃ other ∈ scope.spellings,
    spelled ≠ other ∧ Names argument spelled.1 ∧ Names argument other.1

/-- Decimal digits, with a point and more digits behind them or not; there is a digit at the
end. -/
def IsNumeral (digits : Text) : Prop :=
  ∃ whole fraction : Text, (∀ c ∈ whole, Text.isDecimal c) ∧ (∀ c ∈ fraction, Text.isDecimal c) ∧
    (digits = whole ∧ whole ≠ [] ∨ digits = whole ++ '.' :: fraction ∧ fraction ≠ [])

/-- A hyphen and a numeral; at the end there may be a line feed. -/
def NegativeNumber (argument : Text) : Prop :=
  ∃ numeral ending : Text, IsNumeral numeral ∧ (ending = [] ∨ ending = ['\n']) ∧
    argument = '-' :: (numeral ++ ending)

/-- Whether an argument stands for itself: it has no hyphen in front, or is the hyphen alone,
or names no flag and is a number or has a space in it. -/
def Plain (scope : Scope) (argument : Text) : Prop :=
  argument.head? ≠ some '-' ∨ argument = ['-'] ∨
    Nameless scope argument ∧ (NegativeNumber argument ∨ ' ' ∈ argument)

/-- Whether an argument is an option that the scope does not have. -/
def Unknown (scope : Scope) (argument : Text) : Prop :=
  argument.head? = some '-' ∧ argument ≠ ['-'] ∧ Nameless scope argument ∧
    ¬ NegativeNumber argument ∧ ' ' ∉ argument

/-- The flags of letters behind a hyphen, in order, and what is left over of the letters. Where
any may be left over, those are that stand from the first on that is no option, but a hyphen
or an equals sign there is never one of them. -/
inductive Joined (joining : Joining) (scope : Scope) : Text → List Flag → List Text → Prop
  | none : Joined joining scope [] [] []
  | letter {letter : Char} {flag : Flag} {rest : Text} {flags : List Flag} {left : List Text} :
      (['-', letter], flag) ∈ scope.spellings → Joined joining scope rest flags left →
      Joined joining scope (letter :: rest) (flag :: flags) left
  | leftOver {letter : Char} {rest : Text} :
      joining = .puttingAside → (∀ flag, (['-', letter], flag) ∉ scope.spellings) →
      letter ≠ '-' → letter ≠ '=' →
      Joined joining scope (letter :: rest) [] ['-' :: letter :: rest]

/-- The flags that an argument raises, in order, and what is left over of it. A long spelling,
or a front of it that no other spelling has, raises its flag; a hyphen and letters raise the
flags of the letters, one at least. Where no letters may be left over, an equals sign may
stand behind the first of them. -/
inductive Raises (joining : Joining) (scope : Scope) : Text → List Flag → List Text → Prop
  | long {argument spelling : Text} {flag : Flag} :
      (spelling, flag) ∈ scope.spellings → ['-', '-'] <+: argument → argument ≠ ['-', '-'] →
      argument <+: spelling →
      (∀ other ∈ scope.spellings, argument <+: other.1 → other = (spelling, flag)) →
      Raises joining scope argument [flag] []
  | short {letters : Text} {flags : List Flag} {left : List Text} :
      Joined joining scope letters flags left → flags ≠ [] →
      Raises joining scope ('-' :: letters) flags left
  | equated {letter : Char} {letters : Text} {flag : Flag} {flags : List Flag} :
      joining = .refusing → (['-', letter], flag) ∈ scope.spellings → letters ≠ [] →
      Joined joining scope letters flags [] →
      Raises joining scope ('-' :: letter :: '=' :: letters) (flag :: flags) []

/-! ## Spellings -/

namespace Scope

variable {scope : Scope} {spelling : Text} {flag : Flag}

/-- A spelling is a hyphen and a letter, or two hyphens and a word without an equals sign. -/
theorem spelling_form (spelled : (spelling, flag) ∈ scope.spellings) :
    (∃ letter, spelling = ['-', letter] ∧ letter ≠ '-' ∧ letter ≠ '=') ∨
      ∃ letter rest, spelling = '-' :: '-' :: letter :: rest ∧ '=' ∉ spelling := by
  have all : ∀ spelled ∈ scope.spellings,
      (spelled.1 = ['-', spelled.1.getD 1 '-'] ∧ spelled.1.getD 1 '-' ≠ '-' ∧
        spelled.1.getD 1 '-' ≠ '=') ∨
      (spelled.1 = '-' :: '-' :: spelled.1.getD 2 '-' :: spelled.1.drop 3 ∧
        '=' ∉ spelled.1) := by
    rcases scope with _ | _ | _ | _ <;> decide
  exact (all _ spelled).imp (fun short => ⟨_, short⟩) (fun long => ⟨_, _, long⟩)

/-- No spelling is the front of another. -/
theorem eq_of_spelling_prefix {spelled other : Text × Flag} (one : spelled ∈ scope.spellings)
    (another : other ∈ scope.spellings) (front : spelled.1 <+: other.1) : spelled = other := by
  have all : ∀ spelled ∈ scope.spellings, ∀ other ∈ scope.spellings,
      spelled.1 <+: other.1 → spelled = other := by
    rcases scope with _ | _ | _ | _ <;> decide
  exact all _ one _ another front

theorem lookup_eq_some_iff :
    scope.spellings.lookup spelling = some flag ↔ (spelling, flag) ∈ scope.spellings := by
  rw [List.lookup_eq_some_iff]
  constructor
  · rintro ⟨before, after, same, -⟩
    rw [same]
    exact List.mem_append_right _ List.mem_cons_self
  · intro spelled
    have distinct : (scope.spellings.map Prod.fst).Nodup := by
      rcases scope with _ | _ | _ | _ <;> decide
    obtain ⟨before, after, same⟩ := List.append_of_mem spelled
    refine ⟨before, after, same, fun earlier member => ?_⟩
    rw [same, List.map_append, List.nodup_append] at distinct
    have apart := distinct.2.2 _ (List.mem_map_of_mem member) spelling (by simp)
    simpa using Ne.symm apart

theorem lookup_eq_none_iff :
    scope.spellings.lookup spelling = none ↔ ∀ flag, (spelling, flag) ∉ scope.spellings := by
  rw [Option.eq_none_iff_forall_ne_some]
  simp only [ne_eq, lookup_eq_some_iff]

/-- The spellings that a condition selects, where a member is the only one that it can hold of. -/
theorem filter_eq_singleton {condition : Text × Flag → Bool} {spelled : Text × Flag}
    (member : spelled ∈ scope.spellings) (holds : condition spelled = true)
    (only : ∀ other ∈ scope.spellings, condition other = true → other = spelled) :
    scope.spellings.filter condition = [spelled] := by
  have distinct : scope.spellings.Nodup := by
    rcases scope with _ | _ | _ | _ <;> decide
  have same : scope.spellings.filter condition = scope.spellings.filter (· == spelled) := by
    refine List.filter_congr fun other there => ?_
    rw [Bool.eq_iff_iff, beq_iff_eq]
    exact ⟨only other there, fun equal => equal ▸ holds⟩
  rw [same, List.filter_beq, List.count_eq_one_of_mem distinct member, List.replicate_one]

end Scope

namespace Word

variable {scope : Scope} {argument rest : Text} {letter : Char}

/-! ## How arguments are taken -/

/-- What is attached to a short option whose letter stands in front of it. -/
def behind : Text → Attached
  | [] => .nothing
  | '=' :: value => .value value
  | letters => .letters letters

theorem behind_cons {c : Char} (unequal : c ≠ '=') (rest : Text) :
    behind (c :: rest) = .letters (c :: rest) := by
  unfold behind
  split <;> simp_all

/-- What is attached to a long option in an argument. -/
def equated (argument : Text) : Attached :=
  ((cutAtEquals argument).2.map Attached.value).getD .nothing

/-- How an argument is taken that has a hyphen in front and is no option. -/
def noOption (argument : Text) : Word :=
  if isNegativeNumber argument || argument.contains ' ' then .plain argument
  else .unknown argument

theorem noOption_eq_or (argument : Text) :
    noOption argument = .plain argument ∨ noOption argument = .unknown argument := by
  unfold noOption
  split
  · exact .inl rfl
  · exact .inr rfl

theorem fst_cutAtEquals (argument : Text) :
    (cutAtEquals argument).1 = argument.takeWhile (· != '=') := by
  unfold cutAtEquals
  split
  · next none => exact (List.takeWhile_eq_self_iff.2 (List.dropWhile_eq_nil_iff.1 none)).symm
  · rfl

/-- Without an equals sign the whole argument is the front, and nothing is attached. -/
theorem equated_of_notMem (unequal : '=' ∉ argument) :
    argument.takeWhile (· != '=') = argument ∧ equated argument = .nothing := by
  have other : ∀ c ∈ argument, (c != '=') = true := fun c member => by
    simpa using ne_of_mem_of_not_mem member unequal
  have ended : argument.dropWhile (· != '=') = [] := List.dropWhile_eq_nil_iff.2 other
  exact ⟨List.takeWhile_eq_self_iff.2 other, by simp [equated, cutAtEquals, ended]⟩

/-- An equals sign attaches what is behind it. -/
theorem equated_of_mem (equals : '=' ∈ argument) : ∃ value, equated argument = .value value := by
  have more : argument.dropWhile (· != '=') ≠ [] := fun ended => by
    simpa using List.dropWhile_eq_nil_iff.1 ended _ equals
  obtain ⟨first, value, found⟩ := List.exists_cons_of_ne_nil more
  exact ⟨value, by simp [equated, cutAtEquals, found]⟩

theorem cutAtEquals_cons {c : Char} (unequal : c ≠ '=') (rest : Text) :
    cutAtEquals (c :: rest) = (c :: (cutAtEquals rest).1, (cutAtEquals rest).2) := by
  have found : (c != '=') = true := by simpa using unequal
  simp only [cutAtEquals, List.dropWhile_cons, List.takeWhile_cons, found, if_true]
  split <;> rfl

theorem isShort_cons (apart : letter ≠ '-') (rest : Text) :
    isShort ('-' :: letter :: rest) = true := by
  simp [isShort, List.isPrefixOf, apart.symm]

/-- A text of another form is no spelling. -/
theorem lookup_eq_none {spelling : Text} (noLetter : ∀ letter ≠ '-', spelling ≠ ['-', letter])
    (noWord : ∀ letter rest, spelling ≠ '-' :: '-' :: letter :: rest) :
    scope.spellings.lookup spelling = none := by
  rw [Scope.lookup_eq_none_iff]
  intro flag spelled
  rcases Scope.spelling_form spelled with ⟨letter, same, apart, -⟩ | ⟨letter, rest, same, -⟩
  · exact noLetter letter apart same
  · exact noWord letter rest same

/-- What the spellings of one letter are selected by a hyphen and a letter in front. -/
theorem resembling_short (scope : Scope) (apart : letter ≠ '-') (rest : Text) :
    resembling scope ('-' :: letter :: rest) =
      match scope.spellings.lookup ['-', letter] with
      | some flag => .option flag true (.letters rest)
      | none => noOption ('-' :: letter :: rest) := by
  have found : candidates scope ('-' :: letter :: rest) =
      (scope.spellings.filter fun spelling => spelling.1 == ['-', letter]).map
        fun spelling => (spelling.1, spelling.2, .letters rest) := by
    rw [candidates, if_pos (isShort_cons apart rest)]
    rfl
  cases known : scope.spellings.lookup ['-', letter] with
  | none =>
      have nothing : (scope.spellings.filter fun spelling => spelling.1 == ['-', letter]) = [] := by
        rw [List.filter_eq_nil_iff]
        rintro ⟨spelling, flag⟩ spelled same
        obtain rfl : spelling = ['-', letter] := eq_of_beq same
        exact Scope.lookup_eq_none_iff.1 known flag spelled
      rw [resembling, found, nothing]
      rfl
  | some flag =>
      have spelled := Scope.lookup_eq_some_iff.1 known
      have one : (scope.spellings.filter fun spelling => spelling.1 == ['-', letter]) =
          [(['-', letter], flag)] := by
        refine Scope.filter_eq_singleton spelled (by simp) fun other there same => ?_
        refine Scope.eq_of_spelling_prefix there spelled ?_
        rw [eq_of_beq same]
      rw [resembling, found, one]
      simp [isShort_cons apart []]

/-- Behind a hyphen and a letter everything is attached to the option of that letter. -/
theorem ofArgument_short (scope : Scope) (apart : letter ≠ '-') (rest : Text) :
    ofArgument scope ('-' :: letter :: rest) =
      match scope.spellings.lookup ['-', letter] with
      | some flag => .option flag true (behind rest)
      | none => noOption ('-' :: letter :: rest) := by
  have noDashes : ('-' :: letter :: rest) ≠ ['-', '-'] := by simp [apart]
  have longer (c : Char) (tail : Text) :
      scope.spellings.lookup ('-' :: letter :: c :: tail) = none :=
    lookup_eq_none (by simp) (by simp [apart])
  have hyphen : scope.spellings.lookup ['-'] = none := lookup_eq_none (by simp) (by simp)
  rw [ofArgument, if_neg noDashes, hyphened]
  by_cases equals : letter = '='
  · subst equals
    have unspelled : scope.spellings.lookup ['-', '='] = none := by
      rw [Scope.lookup_eq_none_iff]
      intro flag spelled
      rcases Scope.spelling_form spelled with ⟨letter, same, -, unequal⟩ | ⟨_, _, same, -⟩
      · simp at same
        exact unequal same.symm
      · simp at same
    have whole : scope.spellings.lookup ('-' :: '=' :: rest) = none := by
      cases rest with
      | nil => exact unspelled
      | cons c tail => exact longer c tail
    have cut : cutAtEquals ('-' :: '=' :: rest) = (['-'], some rest) := rfl
    simp only [whole, cut, hyphen, resembling_short scope apart rest, unspelled]
  · have cut := cutAtEquals_cons (c := '-') (by decide) (letter :: rest)
    rw [cutAtEquals_cons equals rest] at cut
    cases rest with
    | nil =>
        have bare : cutAtEquals [] = ([], none) := rfl
        cases known : scope.spellings.lookup ['-', letter] with
        | none => simp only [cut, bare, resembling_short scope apart [], known]
        | some flag => simp [isShort_cons apart [], behind]
    | cons c tail =>
        simp only [longer c tail, cut]
        by_cases separated : c = '='
        · subst separated
          have onward : cutAtEquals ('=' :: tail) = ([], some tail) := rfl
          simp only [onward, resembling_short scope apart]
          cases known : scope.spellings.lookup ['-', letter] with
          | none => rfl
          | some flag => simp [isShort_cons apart [], behind]
        · rw [cutAtEquals_cons separated tail, behind_cons separated]
          cases (cutAtEquals tail).2 with
          | none => simp only [resembling_short scope apart]
          | some value => simp only [longer, resembling_short scope apart]

/-- The spellings that an argument with two hyphens in front may stand for. -/
def standingFor (scope : Scope) (argument : Text) : List (Text × Flag) :=
  scope.spellings.filter fun spelled => (argument.takeWhile (· != '=')).isPrefixOf spelled.1

/-- A whole spelling stands for itself alone. -/
theorem standingFor_of_lookup {flag : Flag}
    (known : scope.spellings.lookup (argument.takeWhile (· != '=')) = some flag) :
    standingFor scope argument = [(argument.takeWhile (· != '='), flag)] := by
  have spelled := Scope.lookup_eq_some_iff.1 known
  refine Scope.filter_eq_singleton spelled (by simp) fun other there front => ?_
  exact (Scope.eq_of_spelling_prefix spelled there (List.isPrefixOf_iff_prefix.1 front)).symm

/-- An argument with two hyphens in front is the option that it stands for, if that is one. -/
theorem ofArgument_long (scope : Scope) (letter : Char) (rest : Text) :
    let argument := '-' :: '-' :: letter :: rest
    ofArgument scope argument =
      match standingFor scope argument with
      | [(spelling, flag)] => .option flag (isShort spelling) (equated argument)
      | [] => noOption argument
      | several => .ambiguous argument (several.map (·.1)) := by
  intro argument
  have noDashes : argument ≠ ['-', '-'] := by simp [argument]
  have long : isShort argument = false := by simp [argument, isShort, List.isPrefixOf]
  have resembled : resembling scope argument =
      match standingFor scope argument with
      | [(spelling, flag)] => .option flag (isShort spelling) (equated argument)
      | [] => noOption argument
      | several => .ambiguous argument (several.map (·.1)) := by
    have found : candidates scope argument = (standingFor scope argument).map
        fun spelled => (spelled.1, spelled.2, equated argument) := by
      rw [candidates, if_neg (by simp [long]), standingFor, ← fst_cutAtEquals]
      rfl
    rw [resembling, found]
    rcases standingFor scope argument with _ | ⟨first, _ | ⟨second, others⟩⟩
    · rfl
    · rfl
    · simp
  have unfolded : ofArgument scope argument = hyphened scope argument := by
    rw [ofArgument]
    exact if_neg noDashes
  rw [unfolded, hyphened]
  cases known : scope.spellings.lookup argument with
  | some flag =>
      have spelled := Scope.lookup_eq_some_iff.1 known
      have unequal : '=' ∉ argument := by
        rcases Scope.spelling_form spelled with ⟨_, same, -⟩ | ⟨_, _, -, unequal⟩
        · simp [argument] at same
        · exact unequal
      obtain ⟨whole, attached⟩ := equated_of_notMem unequal
      have alone := standingFor_of_lookup (show scope.spellings.lookup
        (argument.takeWhile (· != '=')) = some flag by rwa [whole])
      rw [whole] at alone
      simp only [alone, attached]
  | none =>
      have start := fst_cutAtEquals argument
      rcases cut : cutAtEquals argument with ⟨spelling, _ | value⟩
      · exact resembled
      · rw [cut] at start
        have attached : equated argument = .value value := by simp [equated, cut]
        dsimp only at start ⊢
        cases there : scope.spellings.lookup spelling with
        | none => exact resembled
        | some flag =>
            have alone := standingFor_of_lookup (show scope.spellings.lookup
              (argument.takeWhile (· != '=')) = some flag by rwa [← start])
            rw [← start] at alone
            simp only [alone, attached]

/-- Only two hyphens end the options. -/
theorem ofArgument_dashes (scope : Scope) : ofArgument scope ['-', '-'] = .dashes := rfl

/-- An argument without a hyphen in front, or with nothing behind it, is plain. -/
theorem ofArgument_of_bare (scope : Scope) (bare : argument.head? ≠ some '-' ∨ argument = ['-']) :
    ofArgument scope argument = .plain argument := by
  unfold ofArgument
  split
  · simp at bare
  · rfl

/-- The forms that an argument can have: nothing behind a hyphen in front, if there is one; two
hyphens alone; a letter behind a hyphen; something behind two hyphens. -/
theorem form_cases {motive : Text → Prop} (argument : Text)
    (bare : ∀ argument, argument.head? ≠ some '-' ∨ argument = ['-'] → motive argument)
    (dashes : motive ['-', '-'])
    (short : ∀ letter rest, letter ≠ '-' → motive ('-' :: letter :: rest))
    (long : ∀ letter rest, motive ('-' :: '-' :: letter :: rest)) : motive argument := by
  rcases argument with _ | ⟨first, _ | ⟨second, rest⟩⟩
  · exact bare _ (by simp)
  · exact bare _ (by simpa using ne_or_eq first '-')
  · by_cases hyphen : first = '-'
    · subst hyphen
      by_cases another : second = '-'
      · subst another
        cases rest with
        | nil => exact dashes
        | cons letter rest => exact long letter rest
      · exact short second rest another
    · exact bare _ (.inl (by simpa using hyphen))

end Word

/-! ## Numbers -/

theorem isNumeral_iff (digits : Text) :
    IsNumeral digits ↔
      match digits.dropWhile Text.isDecimal with
      | [] => digits ≠ []
      | '.' :: fraction => fraction ≠ [] ∧ ∀ c ∈ fraction, Text.isDecimal c
      | _ => False := by
  constructor
  · rintro ⟨whole, fraction, decimals, more, ⟨rfl, some⟩ | ⟨rfl, some⟩⟩
    · rw [List.dropWhile_eq_nil_iff.2 decimals]
      exact some
    · have point : Text.isDecimal '.' = false := by decide
      rw [List.dropWhile_append_of_pos decimals, List.dropWhile_cons_of_neg (by simp [point])]
      exact ⟨some, more⟩
  · intro found
    have decimals : ∀ c ∈ digits.takeWhile Text.isDecimal, Text.isDecimal c :=
      fun c member => List.mem_takeWhile_imp member
    have whole := List.takeWhile_append_dropWhile (p := Text.isDecimal) (l := digits)
    split at found
    · next ended =>
        rw [ended, List.append_nil] at whole
        rw [whole] at decimals
        exact ⟨digits, [], decimals, by simp, .inl ⟨rfl, found⟩⟩
    · next fraction pointed =>
        rw [pointed] at whole
        exact ⟨_, fraction, decimals, found.2, .inr ⟨whole.symm, found.1⟩⟩
    · exact found.elim

/-- A numeral does not end in a line feed. -/
theorem IsNumeral.getLast?_ne {digits : Text} (numeral : IsNumeral digits) :
    digits.getLast? ≠ some '\n' := by
  have visible {back : Text} (decimals : ∀ c ∈ back, Text.isDecimal c) :
      back.getLast? ≠ some '\n' := by
    intro last
    have decimal := decimals _ (List.mem_of_getLast? last)
    exact absurd decimal (by decide)
  obtain ⟨whole, fraction, decimals, more, ⟨rfl, -⟩ | ⟨rfl, some⟩⟩ := numeral
  · exact visible decimals
  · obtain ⟨first, rest, rfl⟩ := List.exists_cons_of_ne_nil some
    rw [List.getLast?_append_cons, List.getLast?_cons_cons]
    exact visible more

theorem isNegativeNumber_cons (digits : Text) :
    Word.isNegativeNumber ('-' :: digits) = true ↔
      IsNumeral (if digits.getLast? = some '\n' then digits.dropLast else digits) := by
  rw [isNumeral_iff, Word.isNegativeNumber]
  generalize (if digits.getLast? = some '\n' then digits.dropLast else digits) = numeral
  cases rest : numeral.dropWhile Text.isDecimal with
  | nil => simp
  | cons point fraction =>
      by_cases pointed : point = '.'
      · subst pointed
        simp
      · simp [pointed]

theorem isNegativeNumber_iff {argument : Text} :
    Word.isNegativeNumber argument = true ↔ NegativeNumber argument := by
  constructor
  · intro negative
    rcases argument with _ | ⟨first, digits⟩
    · cases negative
    · obtain rfl : first = '-' := by
        by_contra other
        rw [Word.isNegativeNumber] at negative
        · cases negative
        · simpa using other
      rw [isNegativeNumber_cons] at negative
      split at negative
      · next last =>
          have whole := List.dropLast_append_getLast? '\n' last
          exact ⟨_, _, negative, .inr rfl, by rw [whole]⟩
      · exact ⟨_, [], negative, .inl rfl, by rw [List.append_nil]⟩
  · rintro ⟨numeral, ending, isNumeral, rfl | rfl, rfl⟩
    · rwa [isNegativeNumber_cons, List.append_nil, if_neg isNumeral.getLast?_ne]
    · rwa [isNegativeNumber_cons, List.getLast?_concat, if_pos rfl, List.dropLast_concat]

instance (argument : Text) : Decidable (NegativeNumber argument) :=
  decidable_of_iff _ isNegativeNumber_iff

/-- The digits of any script make a number, but not those that are set higher. -/
example : NegativeNumber "-\u0663.5".toList ∧ ¬ NegativeNumber "-\u00b2".toList := by decide

instance (scope : Scope) (argument : Text) : Decidable (Nameless scope argument) :=
  inferInstanceAs (Decidable (∀ spelled ∈ scope.spellings, ¬ Names argument spelled.1))

instance (scope : Scope) (argument : Text) : Decidable (Ambiguous scope argument) :=
  inferInstanceAs (Decidable (_ ∧ ∃ spelled ∈ scope.spellings, ∃ other ∈ scope.spellings, _))

instance (scope : Scope) (argument : Text) : Decidable (Plain scope argument) :=
  inferInstanceAs (Decidable (_ ∨ _ ∨ _))

instance (scope : Scope) (argument : Text) : Decidable (Unknown scope argument) :=
  inferInstanceAs (Decidable (_ ∧ _ ∧ _))

/-! ## What names a flag -/

variable {joining : Joining} {scope : Scope} {argument rest : Text} {letter : Char}

/-- Behind a hyphen a letter names the flag that it is the letter of. -/
theorem names_short_iff (apart : letter ≠ '-') {spelling : Text} {flag : Flag}
    (spelled : (spelling, flag) ∈ scope.spellings) :
    Names ('-' :: letter :: rest) spelling ↔ spelling = ['-', letter] := by
  rcases Scope.spelling_form spelled with ⟨other, rfl, notHyphen, -⟩ | ⟨first, more, rfl, -⟩
  · simp [Names, Word.isShort_cons notHyphen []]
  · have long : Word.isShort ('-' :: '-' :: first :: more) = false := by
      simp [Word.isShort, List.isPrefixOf]
    simp [Names, long, apart.symm]

/-- Something behind two hyphens names the spellings that it may stand for. -/
theorem names_long_iff {spelling : Text} {flag : Flag}
    (spelled : (spelling, flag) ∈ scope.spellings) :
    Names ('-' :: '-' :: letter :: rest) spelling ↔
      (spelling, flag) ∈ Word.standingFor scope ('-' :: '-' :: letter :: rest) := by
  rw [Word.standingFor, List.mem_filter, List.isPrefixOf_iff_prefix]
  rcases Scope.spelling_form spelled with ⟨other, rfl, notHyphen, -⟩ | ⟨first, more, rfl, -⟩
  · simp [Names, Word.isShort_cons notHyphen [], notHyphen, notHyphen.symm]
  · have long : Word.isShort ('-' :: '-' :: first :: more) = false := by
      simp [Word.isShort, List.isPrefixOf]
    simp [Names, long, spelled]

/-- A hyphen and a letter name a flag where the letter is one of an option. -/
theorem nameless_short_iff (apart : letter ≠ '-') :
    Nameless scope ('-' :: letter :: rest) ↔ scope.spellings.lookup ['-', letter] = none := by
  rw [Scope.lookup_eq_none_iff]
  constructor
  · intro nameless flag spelled
    exact nameless _ spelled ((names_short_iff apart spelled).2 rfl)
  · rintro unspelled ⟨spelling, flag⟩ spelled names
    obtain rfl := (names_short_iff apart spelled).1 names
    exact unspelled flag spelled

theorem nameless_long_iff :
    Nameless scope ('-' :: '-' :: letter :: rest) ↔
      Word.standingFor scope ('-' :: '-' :: letter :: rest) = [] := by
  rw [List.eq_nil_iff_forall_not_mem]
  constructor
  · rintro nameless ⟨spelling, flag⟩ stands
    have spelled := (List.mem_filter.1 stands).1
    exact nameless _ spelled ((names_long_iff spelled).2 stands)
  · rintro nothing ⟨spelling, flag⟩ spelled names
    exact nothing _ ((names_long_iff spelled).1 names)

/-! ## Arguments that are no options -/

theorem noOption_eq_plain_iff {text : Text} :
    Word.noOption argument = .plain text ↔
      text = argument ∧ (NegativeNumber argument ∨ ' ' ∈ argument) := by
  rw [Word.noOption, ← isNegativeNumber_iff, ← List.contains_iff_mem, ← Bool.or_eq_true]
  split
  · next found =>
      exact ⟨fun same => ⟨(Word.plain.inj same).symm, found⟩, fun same => by rw [same.1]⟩
  · next found => exact ⟨nofun, fun same => absurd same.2 found⟩

theorem noOption_eq_unknown_iff {text : Text} :
    Word.noOption argument = .unknown text ↔
      text = argument ∧ ¬ NegativeNumber argument ∧ ' ' ∉ argument := by
  rw [Word.noOption, ← isNegativeNumber_iff, ← List.contains_iff_mem, ← not_or,
    ← Bool.or_eq_true]
  split
  · next found => exact ⟨nofun, fun same => absurd found same.2⟩
  · next found =>
      exact ⟨fun same => ⟨(Word.unknown.inj same).symm, found⟩, fun same => by rw [same.1]⟩

/-- Two hyphens alone name the flag for help, which every scope has. -/
theorem not_nameless_dashes : ¬ Nameless scope ['-', '-'] := by
  intro nameless
  have spelled : ("--help".toList, Flag.help) ∈ scope.spellings := by
    rcases scope with _ | _ | _ | _ <;> decide
  exact nameless _ spelled (by decide)

theorem plain_of_bare (bare : argument.head? ≠ some '-' ∨ argument = ['-']) :
    Plain scope argument :=
  bare.imp_right .inl

/-- An argument is taken as it stands exactly when it stands for itself. -/
theorem ofArgument_eq_plain_iff {text : Text} :
    Word.ofArgument scope argument = .plain text ↔ text = argument ∧ Plain scope argument := by
  cases argument using Word.form_cases with
  | bare argument bare =>
      rw [Word.ofArgument_of_bare scope bare]
      simp [plain_of_bare bare, eq_comm]
  | dashes => simp [Word.ofArgument_dashes, Plain, not_nameless_dashes]
  | short letter rest apart =>
      have head : ('-' :: letter :: rest).head? = some '-' := rfl
      have longer : ('-' :: letter :: rest) ≠ ['-'] := by simp
      rw [Word.ofArgument_short scope apart, Plain, nameless_short_iff apart]
      cases scope.spellings.lookup ['-', letter] with
      | none => simp [noOption_eq_plain_iff]
      | some flag => simp
  | long letter rest =>
      rw [Word.ofArgument_long, Plain, nameless_long_iff]
      rcases Word.standingFor scope ('-' :: '-' :: letter :: rest) with _ | ⟨one, _ | ⟨other, more⟩⟩
      · simp [noOption_eq_plain_iff]
      · simp
      · simp

/-- Only two hyphens end the options. -/
theorem ofArgument_eq_dashes_iff :
    Word.ofArgument scope argument = .dashes ↔ argument = ['-', '-'] := by
  refine ⟨fun dashes => ?_, fun same => same ▸ Word.ofArgument_dashes scope⟩
  cases argument using Word.form_cases with
  | bare argument bare =>
      rw [Word.ofArgument_of_bare scope bare] at dashes
      cases dashes
  | dashes => rfl
  | short letter rest apart =>
      rw [Word.ofArgument_short scope apart] at dashes
      split at dashes
      · cases dashes
      · rcases Word.noOption_eq_or ('-' :: letter :: rest) with taken | taken <;>
          cases taken.symm.trans dashes
  | long letter rest =>
      rw [Word.ofArgument_long] at dashes
      split at dashes
      · cases dashes
      · rcases Word.noOption_eq_or ('-' :: '-' :: letter :: rest) with taken | taken <;>
          cases taken.symm.trans dashes
      · cases dashes

/-- An argument is taken for an option that there is not exactly when it is none. -/
theorem ofArgument_eq_unknown_iff {text : Text} :
    Word.ofArgument scope argument = .unknown text ↔ text = argument ∧ Unknown scope argument := by
  cases argument using Word.form_cases with
  | bare argument bare =>
      rw [Word.ofArgument_of_bare scope bare]
      rcases bare with noHyphen | rfl
      · simp [Unknown, noHyphen]
      · simp [Unknown]
  | dashes => simp [Word.ofArgument_dashes, Unknown, not_nameless_dashes]
  | short letter rest apart =>
      rw [Word.ofArgument_short scope apart, Unknown, nameless_short_iff apart]
      cases scope.spellings.lookup ['-', letter] with
      | none => simp [noOption_eq_unknown_iff]
      | some flag => simp
  | long letter rest =>
      rw [Word.ofArgument_long, Unknown, nameless_long_iff]
      rcases Word.standingFor scope ('-' :: '-' :: letter :: rest) with _ | ⟨one, _ | ⟨other, more⟩⟩
      · simp [noOption_eq_unknown_iff]
      · simp
      · simp

/-- What names a flag has a hyphen in front and something behind it. -/
theorem Names.form {spelled : Text × Flag} (names : Names argument spelled.1)
    (member : spelled ∈ scope.spellings) :
    argument.head? = some '-' ∧ argument ≠ ['-'] := by
  rcases names with ⟨-, more, rfl⟩ | ⟨-, ⟨more, rfl⟩, -⟩
  · rcases Scope.spelling_form member with ⟨letter, same, -⟩ | ⟨letter, rest, same, -⟩
    · simp [same]
    · simp [same]
  · simp

/-- An argument cannot be told apart exactly when it names several flags. -/
theorem exists_ofArgument_eq_ambiguous_iff :
    (∃ text candidates, Word.ofArgument scope argument = .ambiguous text candidates) ↔
      Ambiguous scope argument := by
  cases argument using Word.form_cases with
  | bare argument bare =>
      rw [Word.ofArgument_of_bare scope bare]
      refine ⟨nofun, ?_⟩
      rintro ⟨-, spelled, member, -, -, -, names, -⟩
      obtain ⟨hyphen, longer⟩ := names.form member
      exact absurd bare (by simp [hyphen, longer])
  | dashes => simp [Word.ofArgument_dashes, Ambiguous]
  | short letter rest apart =>
      rw [Word.ofArgument_short scope apart]
      constructor
      · rintro ⟨text, candidates, same⟩
        split at same
        · cases same
        · rcases Word.noOption_eq_or ('-' :: letter :: rest) with taken | taken <;>
            cases taken.symm.trans same
      · rintro ⟨-, spelled, member, other, there, different, names, again⟩
        refine absurd (Scope.eq_of_spelling_prefix member there ?_) different
        rw [(names_short_iff apart member).1 names, (names_short_iff apart there).1 again]
  | long letter rest =>
      have members {spelled : Text × Flag} (member : spelled ∈ scope.spellings) :
          Names ('-' :: '-' :: letter :: rest) spelled.1 ↔
            spelled ∈ Word.standingFor scope ('-' :: '-' :: letter :: rest) :=
        names_long_iff member
      have distinct : (Word.standingFor scope ('-' :: '-' :: letter :: rest)).Nodup := by
        refine List.Nodup.filter _ ?_
        rcases scope with _ | _ | _ | _ <;> decide
      rw [Word.ofArgument_long, Ambiguous]
      rcases found : Word.standingFor scope ('-' :: '-' :: letter :: rest) with
        _ | ⟨one, _ | ⟨two, more⟩⟩
      · constructor
        · rintro ⟨text, candidates, same⟩
          rcases Word.noOption_eq_or ('-' :: '-' :: letter :: rest) with taken | taken <;>
            cases taken.symm.trans same
        · rintro ⟨-, spelled, member, -, -, -, names, -⟩
          have stands := (members member).1 names
          simp [found] at stands
      · refine ⟨nofun, ?_⟩
        rintro ⟨-, spelled, member, other, there, different, names, again⟩
        have stands := (members member).1 names
        have another := (members there).1 again
        rw [found, List.mem_singleton] at stands another
        exact absurd (stands.trans another.symm) different
      · have stands (spelled : Text × Flag) (listed : spelled ∈ one :: two :: more) :
            spelled ∈ scope.spellings ∧ Names ('-' :: '-' :: letter :: rest) spelled.1 := by
          rw [← found] at listed
          have member := (List.mem_filter.1 listed).1
          exact ⟨member, (members member).2 listed⟩
        have first := stands one (by simp)
        have second := stands two (by simp)
        have different : one ≠ two := by
          rw [found] at distinct
          exact fun same => (List.nodup_cons.1 distinct).1 (by simp [same])
        exact ⟨fun _ => ⟨by simp, one, first.1, two, second.1, different, first.2, second.2⟩,
          fun _ => ⟨_, _, rfl⟩⟩

/-! ## Arguments that raise flags -/

theorem letter_ne {flag : Flag} (spelled : (['-', letter], flag) ∈ scope.spellings) :
    letter ≠ '-' ∧ letter ≠ '=' := by
  rcases Scope.spelling_form spelled with ⟨other, same, apart⟩ | ⟨_, _, same, -⟩
  · obtain rfl : letter = other := by simpa using same
    exact apart
  · simp at same

/-- A spelling stands for one flag. -/
theorem flag_unique {spelling : Text} {flag other : Flag}
    (spelled : (spelling, flag) ∈ scope.spellings) (again : (spelling, other) ∈ scope.spellings) :
    flag = other :=
  Option.some.inj
    ((Scope.lookup_eq_some_iff.2 spelled).symm.trans (Scope.lookup_eq_some_iff.2 again))

variable {flag : Flag} {letters : Text} {flags : List Flag} {left : List Text}

theorem joined_nil_iff : Joined joining scope [] flags left ↔ flags = [] ∧ left = [] := by
  constructor
  · intro joined
    cases joined with
    | none => exact ⟨rfl, rfl⟩
  · rintro ⟨rfl, rfl⟩
    exact .none

/-- Where letters are refused none are left over. -/
theorem Joined.left_eq_nil (joined : Joined joining scope letters flags left)
    (refusing : joining = .refusing) : left = [] := by
  induction joined with
  | none => rfl
  | letter _ _ ih => exact ih
  | leftOver aside =>
      rw [refusing] at aside
      cases aside

/-- Behind a letter of an option its flag is the first. -/
theorem joined_cons_iff (spelled : (['-', letter], flag) ∈ scope.spellings) :
    Joined joining scope (letter :: letters) flags left ↔
      ∃ others, flags = flag :: others ∧ Joined joining scope letters others left := by
  constructor
  · intro joined
    cases joined with
    | letter known rest =>
        obtain rfl := flag_unique spelled known
        exact ⟨_, rfl, rest⟩
    | leftOver _ unspelled => exact absurd spelled (unspelled flag)
  · rintro ⟨others, rfl, rest⟩
    exact .letter spelled rest

/-- Behind any other character there are no flags. -/
theorem joined_cons_iff_of_unspelled (unspelled : ∀ flag, (['-', letter], flag) ∉ scope.spellings) :
    Joined joining scope (letter :: letters) flags left ↔
      joining = .puttingAside ∧ letter ≠ '-' ∧ letter ≠ '=' ∧ flags = [] ∧
        left = ['-' :: letter :: letters] := by
  constructor
  · intro joined
    cases joined with
    | letter known _ => exact absurd known (unspelled _)
    | leftOver aside _ noHyphen unequal => exact ⟨aside, noHyphen, unequal, rfl, rfl⟩
  · rintro ⟨aside, noHyphen, unequal, rfl, rfl⟩
    exact .leftOver aside unspelled noHyphen unequal

/-- The letters behind a short option raise its flag and theirs. There has to be one. -/
theorem joinedFlags_eq_ok_iff :
    joinedFlags joining scope flag letters = .ok ⟨flags, left⟩ ↔
      letters ≠ [] ∧ ∃ others, flags = flag :: others ∧
        Joined joining scope letters others left := by
  induction letters generalizing flag flags with
  | nil => simp [joinedFlags]
  | cons letter rest ih =>
      rw [joinedFlags]
      cases known : scope.spellings.lookup ['-', letter] with
      | some next =>
          have spelled := Scope.lookup_eq_some_iff.1 known
          simp only [(letter_ne spelled).2, and_false, if_false, joined_cons_iff spelled]
          by_cases ended : rest = []
          · subst ended
            simp [joined_nil_iff, eq_comm]
          · rw [if_neg ended]
            constructor
            · intro came
              cases inner : joinedFlags joining scope next rest with
              | error => simp [inner, Except.map] at came
              | ok raised =>
                  simp only [inner, Except.map, Except.ok.injEq, Raised.mk.injEq] at came
                  obtain ⟨rfl, rfl⟩ := came
                  obtain ⟨-, more, same, joined⟩ := ih.1 inner
                  exact ⟨by simp, raised.flags, rfl, more, same, joined⟩
            · rintro ⟨-, _, rfl, more, rfl, joined⟩
              rw [ih.2 ⟨ended, more, rfl, joined⟩]
              rfl
      | none =>
          have unspelled := Scope.lookup_eq_none_iff.1 known
          simp only [joined_cons_iff_of_unspelled unspelled]
          by_cases aside : joining = .puttingAside
          · by_cases equals : letter = '='
            · simp [equals, aside]
            · by_cases hyphen : letter = '-'
              · simp [hyphen]
              · simp [aside, equals, hyphen, eq_comm]
          · simp [aside]

/-- A front of one spelling and of no other stands for that spelling. -/
theorem standingFor_eq_singleton_iff {spelling : Text} (unequal : '=' ∉ argument) :
    Word.standingFor scope argument = [(spelling, flag)] ↔
      (spelling, flag) ∈ scope.spellings ∧ argument <+: spelling ∧
        ∀ other ∈ scope.spellings, argument <+: other.1 → other = (spelling, flag) := by
  have stands (other : Text × Flag) : other ∈ Word.standingFor scope argument ↔
      other ∈ scope.spellings ∧ argument <+: other.1 := by
    rw [Word.standingFor, (Word.equated_of_notMem unequal).1, List.mem_filter,
      List.isPrefixOf_iff_prefix]
  constructor
  · intro alone
    simp only [alone, List.mem_singleton] at stands
    obtain ⟨spelled, front⟩ := (stands (spelling, flag)).1 rfl
    exact ⟨spelled, front, fun other there again => (stands other).2 ⟨there, again⟩⟩
  · rintro ⟨spelled, front, only⟩
    rw [Word.standingFor, (Word.equated_of_notMem unequal).1]
    exact Scope.filter_eq_singleton spelled (List.isPrefixOf_iff_prefix.2 front)
      fun other there again => only other there (List.isPrefixOf_iff_prefix.1 again)

/-- What is behind a short option raises flags as letters do. An equals sign in front of them
makes a difference only where they may be left over. -/
theorem raisedFlags_behind_eq_ok_iff :
    raisedFlags joining scope flag true (Word.behind rest) = .ok ⟨flags, left⟩ ↔
      ∃ others, flags = flag :: others ∧
        (Joined joining scope rest others left ∨
          joining = .refusing ∧ ∃ letters, rest = '=' :: letters ∧ letters ≠ [] ∧
            Joined joining scope letters others left) := by
  rcases rest with _ | ⟨first, more⟩
  · simp [Word.behind, raisedFlags, joined_nil_iff, eq_comm]
  · by_cases equals : first = '='
    · subst equals
      have unspelled : ∀ flag, (['-', '='], flag) ∉ scope.spellings :=
        fun flag spelled => (letter_ne spelled).2 rfl
      simp only [Word.behind, raisedFlags, joined_cons_iff_of_unspelled unspelled]
      by_cases refusing : joining = .refusing
      · simp [refusing, joinedFlags_eq_ok_iff]
        grind
      · simp [refusing]
    · rw [Word.behind_cons equals]
      simp [raisedFlags, joinedFlags_eq_ok_iff, equals]

/-- An argument raises flags exactly as the option does that it is taken for. -/
theorem raises_iff :
    Raises joining scope argument flags left ↔
      ∃ flag short attached, Word.ofArgument scope argument = .option flag short attached ∧
        raisedFlags joining scope flag short attached = .ok ⟨flags, left⟩ := by
  constructor
  · intro raises
    cases raises with
    | @long _ spelling flag spelled hyphens more front only =>
        obtain ⟨rest, rfl⟩ := hyphens
        obtain ⟨letter, rest, rfl⟩ :=
          List.exists_cons_of_ne_nil (show rest ≠ [] by simpa using more)
        have unequal : '=' ∉ ['-', '-'] ++ letter :: rest := by
          rcases Scope.spelling_form spelled with ⟨_, rfl, -⟩ | ⟨_, _, -, unequal⟩
          · have shorter := front.length_le
            simp at shorter
          · exact fun member => unequal (front.subset member)
        have alone := (standingFor_eq_singleton_iff unequal).2 ⟨spelled, front, only⟩
        have attached := (Word.equated_of_notMem unequal).2
        simp only [List.cons_append, List.nil_append] at alone attached ⊢
        refine ⟨flag, Word.isShort spelling, .nothing, ?_, rfl⟩
        rw [Word.ofArgument_long]
        simp only [alone, attached]
    | @short letters _ _ joined some =>
        cases joined with
        | none => exact absurd rfl some
        | leftOver => exact absurd rfl some
        | @letter letter flag rest others _ spelled joined =>
            refine ⟨flag, true, Word.behind rest, ?_,
              raisedFlags_behind_eq_ok_iff.2 ⟨others, rfl, .inl joined⟩⟩
            rw [Word.ofArgument_short scope (letter_ne spelled).1,
              Scope.lookup_eq_some_iff.2 spelled]
    | @equated letter letters flag others refusing spelled some joined =>
        refine ⟨flag, true, Word.behind ('=' :: letters), ?_, raisedFlags_behind_eq_ok_iff.2
          ⟨others, rfl, .inr ⟨refusing, letters, rfl, some, joined⟩⟩⟩
        rw [Word.ofArgument_short scope (letter_ne spelled).1, Scope.lookup_eq_some_iff.2 spelled]
  · rintro ⟨flag, short, attached, taken, raised⟩
    cases argument using Word.form_cases with
    | bare argument bare =>
        rw [Word.ofArgument_of_bare scope bare] at taken
        cases taken
    | dashes => cases taken
    | short letter rest apart =>
        rw [Word.ofArgument_short scope apart] at taken
        cases known : scope.spellings.lookup ['-', letter] with
        | none =>
            rw [known] at taken
            rcases Word.noOption_eq_or ('-' :: letter :: rest) with none | none <;>
              cases none.symm.trans taken
        | some found =>
            rw [known] at taken
            cases taken
            have spelled := Scope.lookup_eq_some_iff.1 known
            obtain ⟨others, rfl, joined | ⟨refusing, letters, rfl, some, joined⟩⟩ :=
              raisedFlags_behind_eq_ok_iff.1 raised
            · exact .short (.letter spelled joined) (by simp)
            · obtain rfl := joined.left_eq_nil refusing
              exact .equated refusing spelled some joined
    | long letter rest =>
        rw [Word.ofArgument_long] at taken
        rcases found : Word.standingFor scope ('-' :: '-' :: letter :: rest) with
          _ | ⟨one, _ | ⟨two, more⟩⟩
        · rw [found] at taken
          rcases Word.noOption_eq_or ('-' :: '-' :: letter :: rest) with none | none <;>
            cases none.symm.trans taken
        · rw [found] at taken
          cases taken
          obtain ⟨spelled, front⟩ := List.mem_filter.1 (found ▸ List.mem_singleton_self one)
          by_cases equals : '=' ∈ '-' :: '-' :: letter :: rest
          · -- A long option takes no value.
            have long : Word.isShort one.1 = false := by
              rw [List.isPrefixOf_iff_prefix] at front
              obtain ⟨back, same⟩ := front
              simp [Word.isShort, ← same]
            obtain ⟨value, attached⟩ := Word.equated_of_mem equals
            simp [attached, raisedFlags, long] at raised
          · rw [(Word.equated_of_notMem equals).2] at raised
            obtain ⟨rfl, rfl⟩ := Raised.mk.inj (Except.ok.inj raised)
            obtain ⟨spelled, front, only⟩ := (standingFor_eq_singleton_iff equals).1 found
            exact .long spelled (by simp) (by simp) front only
        · rw [found] at taken
          cases taken

end TermText.CommandLine
