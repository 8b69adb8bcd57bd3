import WhatsGoingOn.Library.CommandLine
import WhatsGoingOn.Library.Text

/-!
# The shell of a Windows Terminal profile

A profile tells of its shell by a command line, which is split into the command
and the arguments that the shell is launched with.
-/

namespace WhatsGoingOn
namespace Host

open CommandLine Text

/-! ## Splitting -/

/-- The variables of the loop in `split_windows_command_line`. -/
structure CommandLineSplit where
  args : List (List Char)
  current : List Char
  inQuotes : Bool
  deriving DecidableEq, Repr

namespace CommandLineSplit

/-- Nothing has been read. -/
def initial : CommandLineSplit :=
  ⟨[], [], false⟩

/-- Ends the argument that has been begun, unless it is empty. -/
def take (split : CommandLineSplit) : CommandLineSplit :=
  if split.current.isEmpty then split
  else { split with args := split.args ++ [split.current], current := [] }

/-- A quote opens or closes, a blank outside quotes ends an argument. -/
def step (split : CommandLineSplit) (ch : Char) : CommandLineSplit :=
  if ch = '"' then { split with inQuotes := !split.inQuotes }
  else if isWhiteSpace ch && !split.inQuotes then split.take
  else { split with current := split.current ++ [ch] }

/-- The split after a text. -/
def run (split : CommandLineSplit) (text : List Char) : CommandLineSplit :=
  text.foldl step split

@[simp] theorem run_nil (split : CommandLineSplit) : split.run [] = split :=
  rfl

@[simp] theorem run_cons (split : CommandLineSplit) (ch : Char)
    (text : List Char) :
    split.run (ch :: text) = (split.step ch).run text :=
  rfl

theorem run_append (split : CommandLineSplit) (first second : List Char) :
    split.run (first ++ second) = (split.run first).run second :=
  List.foldl_append

/-- A state with some arguments before it. -/
def after (before : List (List Char)) (split : CommandLineSplit) :
    CommandLineSplit :=
  { split with args := before ++ split.args }

theorem take_after (before : List (List Char)) (split : CommandLineSplit) :
    (split.after before).take = split.take.after before := by
  by_cases empty : split.current.isEmpty = true <;>
    simp [take, after, empty]

/-- Arguments that were split off before stay in front. -/
theorem step_after (before : List (List Char)) (split : CommandLineSplit)
    (ch : Char) :
    (split.after before).step ch = (split.step ch).after before := by
  by_cases quote : ch = '"'
  · simp [step, after, quote]
  · by_cases separates : (isWhiteSpace ch && !split.inQuotes) = true
    · have separatesAfter :
          (isWhiteSpace ch && !(split.after before).inQuotes) = true :=
        separates
      rw [step, step, if_neg quote, if_neg quote, if_pos separates,
        if_pos separatesAfter, take_after]
    · simp [step, after, quote, separates]

/-- What is split next does not depend on the arguments that there are. -/
theorem run_after (before : List (List Char)) (split : CommandLineSplit)
    (text : List Char) :
    (split.after before).run text = (split.run text).after before := by
  induction text generalizing split with
  | nil => rfl
  | cons ch text inductionHypothesis =>
      rw [run_cons, run_cons, step_after, inductionHypothesis]

/-- Outside of quotes a space ends an argument, and the next one is begun. -/
theorem step_space (split : CommandLineSplit)
    (unquoted : split.inQuotes = false) :
    split.step ' ' = initial.after split.take.args := by
  obtain ⟨args, current, inQuotes⟩ := split
  subst unquoted
  by_cases empty : current = [] <;>
    simp [step, isWhiteSpace, take, after, initial, empty]

/-- Text that is not split is added to the argument that has been begun. -/
theorem run_whole (text : List Char) (noQuote : '"' ∉ text)
    (inQuotes : Bool)
    (notSplit : inQuotes = true ∨ text.any isWhiteSpace = false)
    (args : List (List Char)) (current : List Char) :
    (CommandLineSplit.mk args current inQuotes).run text =
      ⟨args, current ++ text, inQuotes⟩ := by
  induction text generalizing current with
  | nil => simp
  | cons ch text inductionHypothesis =>
      rw [List.mem_cons, not_or] at noQuote
      rw [List.any_cons, Bool.or_eq_false_iff] at notSplit
      have notQuote : ch ≠ '"' := fun same => noQuote.1 same.symm
      have added : (isWhiteSpace ch && !inQuotes) = false := by
        rcases notSplit with isQuoted | noSpace
        · simp [isQuoted]
        · simp [noSpace.1]
      have steps : (CommandLineSplit.mk args current inQuotes).step ch =
          ⟨args, current ++ [ch], inQuotes⟩ := by
        simp [step, notQuote, added]
      rw [run_cons, steps, inductionHypothesis noQuote.2
        (notSplit.imp_right And.right)]
      simp

/-- A text without quotes leaves the split inside or outside them. -/
theorem run_inQuotes (split : CommandLineSplit) (text : List Char)
    (noQuote : '"' ∉ text) :
    (split.run text).inQuotes = split.inQuotes := by
  induction text generalizing split with
  | nil => rfl
  | cons ch text inductionHypothesis =>
      rw [List.mem_cons, not_or] at noQuote
      have notQuote : ch ≠ '"' := fun same => noQuote.1 same.symm
      have keeps : (split.step ch).inQuotes = split.inQuotes := by
        by_cases separates : (isWhiteSpace ch && !split.inQuotes) = true
        · by_cases empty : split.current.isEmpty = true <;>
            simp [step, notQuote, separates, take, empty]
        · simp [step, notQuote, separates]
      rw [run_cons, inductionHypothesis _ noQuote.2, keeps]

/-- A property of the arguments that have been split off, and one of the
argument that has been begun. -/
structure Holds (word : List Char → Prop) (begun : Bool → List Char → Prop)
    (split : CommandLineSplit) : Prop where
  args : ∀ arg ∈ split.args, word arg
  current : begun split.inQuotes split.current

/-- What a property has to meet to be kept while a text is split. -/
structure Keeps (word : List Char → Prop) (begun : Bool → List Char → Prop)
    (text : List Char) : Prop where
  empty : ∀ inQuotes current, begun inQuotes current → begun inQuotes []
  ends : ∀ inQuotes current, current ≠ [] → begun inQuotes current →
    word current
  toggles : '"' ∈ text → ∀ inQuotes current, begun inQuotes current →
    begun (!inQuotes) current
  adds : ∀ ch ∈ text, ch ≠ '"' → ∀ inQuotes current,
    (isWhiteSpace ch && !inQuotes) = false → begun inQuotes current →
      begun inQuotes (current ++ [ch])

section Invariant

variable {word : List Char → Prop} {begun : Bool → List Char → Prop}

/-- Taking an argument keeps what holds of the arguments. -/
theorem Holds.take {text : List Char} (keeps : Keeps word begun text)
    {split : CommandLineSplit} (holds : Holds word begun split) :
    Holds word begun split.take := by
  by_cases empty : split.current = []
  · rwa [CommandLineSplit.take, if_pos (by simp [empty])]
  · rw [CommandLineSplit.take, if_neg (by simp [empty])]
    refine ⟨?_, keeps.empty _ _ holds.current⟩
    intro arg member
    rcases List.mem_append.mp member with before | last
    · exact holds.args arg before
    · rw [List.mem_singleton.mp last]
      exact keeps.ends _ _ empty holds.current

/-- A character keeps what holds of the arguments. -/
theorem Holds.step {text : List Char} (keeps : Keeps word begun text)
    {split : CommandLineSplit} (holds : Holds word begun split) {ch : Char}
    (member : ch ∈ text) :
    Holds word begun (split.step ch) := by
  by_cases quote : ch = '"'
  · subst quote
    exact ⟨holds.args, keeps.toggles member _ _ holds.current⟩
  · by_cases separates : (isWhiteSpace ch && !split.inQuotes) = true
    · rw [CommandLineSplit.step, if_neg quote, if_pos separates]
      exact holds.take keeps
    · rw [CommandLineSplit.step, if_neg quote, if_neg separates]
      exact ⟨holds.args, keeps.adds ch member quote _ _
        (Bool.not_eq_true _ ▸ separates) holds.current⟩

theorem Holds.run {text : List Char} (keeps : Keeps word begun text)
    {split : CommandLineSplit} (holds : Holds word begun split)
    (part : List Char) (within : part ⊆ text) :
    Holds word begun (split.run part) := by
  induction part generalizing split with
  | nil => exact holds
  | cons ch part inductionHypothesis =>
      rw [List.cons_subset] at within
      exact inductionHypothesis (holds.step keeps within.1) within.2

end Invariant

end CommandLineSplit

/-- The arguments of a line, as lists of characters. -/
def splitArgs (commandLine : List Char) : List (List Char) :=
  (CommandLineSplit.initial.run commandLine).take.args

theorem splitArgs_holds {word : List Char → Prop}
    {begun : Bool → List Char → Prop} {text : List Char}
    (keeps : CommandLineSplit.Keeps word begun text)
    (initially : begun false []) :
    ∀ arg ∈ splitArgs text, word arg := by
  have holds : CommandLineSplit.initial.Holds word begun :=
    ⟨by simp [CommandLineSplit.initial], initially⟩
  exact ((holds.run keeps text (List.Subset.refl text)).take keeps).args

/-- No argument is empty, and none has a quote. -/
theorem splitArgs_clean (commandLine : List Char) :
    ∀ arg ∈ splitArgs commandLine, arg ≠ [] ∧ '"' ∉ arg := by
  have keeps : CommandLineSplit.Keeps (fun arg => arg ≠ [] ∧ '"' ∉ arg)
      (fun _ current => '"' ∉ current) commandLine := by
    refine ⟨?_, ?_, ?_, ?_⟩
    · exact fun _ _ _ => List.not_mem_nil
    · exact fun _ _ notEmpty noQuote => ⟨notEmpty, noQuote⟩
    · exact fun _ _ _ noQuote => noQuote
    · intro ch _ notQuote _ current _ noQuote member
      rcases List.mem_append.mp member with before | last
      · exact noQuote before
      · exact notQuote (List.mem_singleton.mp last).symm
  exact splitArgs_holds keeps List.not_mem_nil

/-- Outside of quotes no argument has white space. -/
theorem splitArgs_unquoted (text : List Char) (noQuote : '"' ∉ text) :
    ∀ arg ∈ splitArgs text, arg.any isWhiteSpace = false := by
  have keeps : CommandLineSplit.Keeps
      (fun arg => arg.any isWhiteSpace = false)
      (fun inQuotes current =>
        inQuotes = false ∧ current.any isWhiteSpace = false) text := by
    refine ⟨?_, ?_, ?_, ?_⟩
    · exact fun _ _ begun => ⟨begun.1, rfl⟩
    · exact fun _ _ _ begun => begun.2
    · exact fun member => absurd member noQuote
    · intro ch _ _ inQuotes current notSeparated begun
      rw [begun.1, Bool.not_false, Bool.and_true] at notSeparated
      refine ⟨begun.1, ?_⟩
      rw [List.any_append, begun.2]
      simp [notSeparated]
  exact splitArgs_holds keeps ⟨rfl, rfl⟩

theorem splitArgs_whole (text : List Char) (noQuote : '"' ∉ text)
    (noSpace : text.any isWhiteSpace = false) (notEmpty : text ≠ []) :
    splitArgs text = [text] := by
  rw [splitArgs, CommandLineSplit.initial,
    CommandLineSplit.run_whole text noQuote false (Or.inr noSpace)]
  simp [CommandLineSplit.take, notEmpty]

theorem splitArgs_enclosed (text : List Char) (noQuote : '"' ∉ text)
    (notEmpty : text ≠ []) :
    splitArgs ('"' :: (text ++ ['"'])) = [text] := by
  have opens : CommandLineSplit.initial.step '"' = ⟨[], [], true⟩ := rfl
  rw [splitArgs, CommandLineSplit.run_cons, opens, CommandLineSplit.run_append,
    CommandLineSplit.run_whole text noQuote true (Or.inl rfl)]
  simp [CommandLineSplit.step, CommandLineSplit.take, notEmpty]

/-- A space outside of quotes splits a line. -/
theorem splitArgs_space (first second : List Char)
    (unquoted : (CommandLineSplit.initial.run first).inQuotes = false) :
    splitArgs (first ++ ' ' :: second) =
      splitArgs first ++ splitArgs second := by
  rw [splitArgs, CommandLineSplit.run_append, CommandLineSplit.run_cons,
    CommandLineSplit.step_space _ unquoted, CommandLineSplit.run_after,
    CommandLineSplit.take_after]
  rfl

/-- The arguments of a command line as the daemon splits it. -/
def splitWindowsCommandLine (commandLine : String) : List String :=
  (splitArgs commandLine.toList).map String.ofList

/-! ## The shell -/

/-- A shell that the daemon offers. -/
structure AvailableShellInfo where
  shellId : String
  name : String
  command : String
  args : List String
  isDefault : Bool
  deriving DecidableEq, Repr

/-- What a name between two percent signs is replaced by. -/
def windowsEnvVar (env : String → Option String) (name : List Char) :
    List Char :=
  if name.isEmpty then "%%".toList
  else
    match env (String.ofList name) with
    | some value => value.toList
    | none => '%' :: (name ++ ['%'])

/-- The loop of `expand_windows_env_vars`, over the parts of a text between its
percent signs. -/
def expandWindowsEnvVarsFrom (env : String → Option String) :
    List (List Char) → List Char
  | [] => []
  | [part] => part
  | [part, unclosed] => part ++ '%' :: unclosed
  | part :: name :: next :: rest =>
      part ++ windowsEnvVar env name ++
        expandWindowsEnvVarsFrom env (next :: rest)

/-- The text with the variables between percent signs replaced. -/
def expandWindowsEnvVars (env : String → Option String) (text : String) :
    String :=
  String.ofList (expandWindowsEnvVarsFrom env (text.toList.splitOn '%'))

section Shell

-- The variables of the environment, and the file name of a path.
variable (env : String → Option String)
variable (commandFileName : String → Option String)

/-- The id that a shell has by the name of its file. -/
def windowsTerminalShellId (command : String) : String :=
  match (commandFileName command).map toAsciiLowercase with
  | some "pwsh.exe" => "pwsh"
  | some "powershell.exe" => "windows-powershell"
  | some "cmd.exe" => "cmd"
  | some "bash.exe" => "bash"
  | _ => "windows-terminal-default"

/-- The shell of a profile, if its command line names one. -/
def windowsTerminalProfileShellInfo (profileName : Option String)
    (commandLine : String) : Option AvailableShellInfo :=
  match (splitWindowsCommandLine commandLine).map (expandWindowsEnvVars env) with
  | [] => none
  | command :: args =>
      let name :=
        ((profileName.filter (· != "")).or (commandFileName command)).getD
          "Windows Terminal default"
      some
        { shellId := windowsTerminalShellId commandFileName command
          name, command, args
          isDefault := true }

end Shell

example : expandWindowsEnvVars (fun _ => some "C:") "%a%\\b%%%c" = "C:\\b%%%c" :=
  by decide

/-! ## Which arguments are kept -/

/-- Split off as a whole: there is something of it, no quote, and white space
only when a blank has it written between quotes. -/
def splitsWhole (argument : List Char) : Bool :=
  !argument.isEmpty && !argument.any (· == '"') &&
    (argument.any isBlank || !argument.any isWhiteSpace)

/-- No backslash at its end is doubled. -/
def endsUndoubled (argument : List Char) : Bool :=
  !argument.any isBlank || argument.getLast? != some '\\'

/-- The split gives each argument back. -/
def profileArgumentsKept (program : String) (arguments : List String) : Bool :=
  splitsWhole program.toList &&
    arguments.all fun argument =>
      splitsWhole argument.toList && endsUndoubled argument.toList

/-- What it takes to be split off as a whole. -/
theorem splitsWhole_iff (argument : List Char) :
    splitsWhole argument = true ↔
      argument ≠ [] ∧ '"' ∉ argument ∧
        (argument.any isBlank = true ∨ argument.any isWhiteSpace = false) := by
  have quote : argument.any (· == '"') = true ↔ '"' ∈ argument := by
    rw [List.any_eq_true]
    constructor
    · rintro ⟨ch, member, same⟩
      exact (beq_iff_eq.mp same) ▸ member
    · exact fun member => ⟨_, member, beq_self_eq_true _⟩
  simp only [splitsWhole, Bool.and_eq_true, Bool.or_eq_true,
    Bool.not_eq_true', List.isEmpty_eq_false_iff, and_assoc,
    ← Bool.not_eq_true (argument.any (· == '"')), quote]

theorem needsQuotes_eq (argument : List Char) (notEmpty : argument ≠ []) :
    needsQuotes argument = argument.any isBlank := by
  simp [needsQuotes, notEmpty]

/-- Where a path or an argument is written between quotes, it is split off with
what is written. -/
theorem splitArgs_written (argument written : List Char)
    (noQuote : '"' ∉ written) (whole : splitsWhole argument = true)
    (blank : argument.any isBlank = true → written ≠ [])
    (plain : argument.any isBlank = false → written = argument) :
    splitArgs (if needsQuotes argument then '"' :: (written ++ ['"'])
      else argument) = [written] := by
  obtain ⟨notEmpty, argumentNoQuote, spaces⟩ := (splitsWhole_iff _).mp whole
  rw [needsQuotes_eq argument notEmpty]
  by_cases quotes : argument.any isBlank = true
  · rw [if_pos quotes, splitArgs_enclosed written noQuote (blank quotes)]
  · have noBlank := Bool.not_eq_true _ ▸ quotes
    have noSpace := spaces.resolve_left quotes
    rw [if_neg quotes, plain noBlank,
      splitArgs_whole argument argumentNoQuote noSpace notEmpty]

theorem splitArgs_quoteProgram (program : List Char)
    (whole : splitsWhole program = true) :
    splitArgs (quoteProgram program) = [program] := by
  have conditions := (splitsWhole_iff _).mp whole
  exact splitArgs_written program program conditions.2.1 whole
    (fun _ => conditions.1) (fun _ => rfl)

/-- An argument that is quoted is split off with its backslashes. -/
theorem splitArgs_quoteArgument (argument : List Char)
    (whole : splitsWhole argument = true) :
    ∃ count : Nat,
      splitArgs (quoteArgument argument) =
          [argument ++ List.replicate count '\\'] ∧
        (count = 0 ↔ endsUndoubled argument = true) := by
  obtain ⟨notEmpty, noQuote, spaces⟩ := (splitsWhole_iff _).mp whole
  obtain ⟨count, writes, undoubled⟩ := quoteArgument_eq argument noQuote
  by_cases quotes : argument.any isBlank = true
  · refine ⟨count, ?_, ?_⟩
    · rw [writes]
      refine splitArgs_written argument _ ?_ whole ?_ ?_
      · simp [noQuote]
      · simp [notEmpty]
      · exact fun noBlank => absurd quotes (by simp [noBlank])
    · rw [undoubled]
      simp [endsUndoubled, quotes]
  · refine ⟨0, ?_, by simp [endsUndoubled, quotes]⟩
    have noSpace := spaces.resolve_left quotes
    rw [writes, if_neg (by simpa [needsQuotes_eq argument notEmpty] using quotes),
      splitArgs_whole argument noQuote noSpace notEmpty]
    simp

/-- White space is only left where a blank had it written between quotes. -/
theorem blank_of_mem_written (argument written : List Char)
    (noQuote : '"' ∉ written) (argumentNoQuote : '"' ∉ argument)
    (starts : argument <+: written) (empty : argument = [] → written = [])
    (arg : List Char)
    (member : arg ∈ splitArgs
      (if needsQuotes argument then '"' :: (written ++ ['"']) else argument)) :
    arg.any isBlank = true ∨ arg.any isWhiteSpace = false := by
  by_cases quotes : needsQuotes argument = true
  · rw [if_pos quotes] at member
    by_cases notEmpty : written = []
    · subst notEmpty
      have nothing : splitArgs ('"' :: ([] ++ ['"'])) = [] := rfl
      rw [nothing] at member
      exact absurd member List.not_mem_nil
    · rw [splitArgs_enclosed written noQuote notEmpty,
        List.mem_singleton] at member
      rw [needsQuotes_eq argument (mt empty notEmpty)] at quotes
      obtain ⟨rest, rfl⟩ := starts
      rw [member, List.any_append, quotes]
      exact Or.inl rfl
  · rw [if_neg quotes] at member
    exact Or.inr (splitArgs_unquoted argument argumentNoQuote arg member)

theorem blank_of_mem_program (program : List Char) (noQuote : '"' ∉ program)
    (arg : List Char) (member : arg ∈ splitArgs (quoteProgram program)) :
    arg.any isBlank = true ∨ arg.any isWhiteSpace = false :=
  blank_of_mem_written program program noQuote noQuote
    (List.prefix_refl program) id arg member

/-- What is split off a quoted argument has a blank, or no white space. -/
theorem blank_of_mem_argument (argument : List Char)
    (noQuote : '"' ∉ argument) (arg : List Char)
    (member : arg ∈ splitArgs (quoteArgument argument)) :
    arg.any isBlank = true ∨ arg.any isWhiteSpace = false := by
  obtain ⟨count, writes, undoubled⟩ := quoteArgument_eq argument noQuote
  rw [writes] at member
  refine blank_of_mem_written argument _ ?_ noQuote
    (List.prefix_append argument _) ?_ arg member
  · simp [noQuote]
  · rintro rfl
    rw [undoubled.mpr (by simp)]
    rfl

/-! ### A line of several arguments -/

/-- After a quoted argument the split is outside quotes. -/
theorem unquoted_after_argument (argument : List Char)
    (noQuote : '"' ∉ argument) :
    (CommandLineSplit.initial.run (quoteArgument argument)).inQuotes =
      false := by
  obtain ⟨count, writes, undoubled⟩ := quoteArgument_eq argument noQuote
  have plain : '"' ∉ argument ++ List.replicate count '\\' := by
    simp [noQuote]
  rw [writes]
  by_cases quotes : needsQuotes argument = true
  · rw [if_pos quotes, CommandLineSplit.run_cons, CommandLineSplit.run_append,
      CommandLineSplit.run_cons, CommandLineSplit.run_nil]
    change (!(CommandLineSplit.run _ _).inQuotes) = false
    rw [CommandLineSplit.run_inQuotes _ _ plain]
    rfl
  · rw [if_neg quotes, CommandLineSplit.run_inQuotes _ _ noQuote]
    rfl

/-- After a quoted program the split is outside quotes. -/
theorem unquoted_after_program (program : List Char)
    (noQuote : '"' ∉ program) :
    (CommandLineSplit.initial.run (quoteProgram program)).inQuotes =
      false := by
  by_cases quotes : needsQuotes program = true
  · rw [quoteProgram, if_pos quotes, CommandLineSplit.run_cons,
      CommandLineSplit.run_append, CommandLineSplit.run_cons,
      CommandLineSplit.run_nil]
    change (!(CommandLineSplit.run _ _).inQuotes) = false
    rw [CommandLineSplit.run_inQuotes _ _ noQuote]
    rfl
  · rw [quoteProgram, if_neg quotes, CommandLineSplit.run_inQuotes _ _ noQuote]
    rfl

/-- Without a quote in an argument, each is split on its own. -/
theorem splitArgs_flatMap (first : List Char)
    (unquoted : (CommandLineSplit.initial.run first).inQuotes = false)
    (arguments : List (List Char))
    (noQuotes : ∀ argument ∈ arguments, '"' ∉ argument) :
    splitArgs (first ++
        arguments.flatMap fun argument => ' ' :: quoteArgument argument) =
      splitArgs first ++
        arguments.flatMap fun argument =>
          splitArgs (quoteArgument argument) := by
  induction arguments generalizing first with
  | nil => simp
  | cons argument arguments inductionHypothesis =>
      obtain ⟨noQuote, othersNoQuotes⟩ := List.forall_mem_cons.mp noQuotes
      have stillUnquoted : (CommandLineSplit.initial.run
          (first ++ ' ' :: quoteArgument argument)).inQuotes = false := by
        rw [CommandLineSplit.run_append, CommandLineSplit.run_cons,
          CommandLineSplit.step_space _ unquoted, CommandLineSplit.run_after]
        exact unquoted_after_argument argument noQuote
      rw [List.flatMap_cons, ← List.append_assoc,
        inductionHypothesis _ stillUnquoted othersNoQuotes,
        splitArgs_space first _ unquoted, List.flatMap_cons, List.append_assoc]

/-- Arguments that are split off as wholes are kept when no backslashes have
been added to one. -/
theorem flatMap_splitArgs_iff (arguments : List (List Char))
    (whole : ∀ argument ∈ arguments, splitsWhole argument = true) :
    (arguments.flatMap fun argument => splitArgs (quoteArgument argument)) =
        arguments ↔
      ∀ argument ∈ arguments, endsUndoubled argument = true := by
  induction arguments with
  | nil => simp
  | cons argument arguments inductionHypothesis =>
      obtain ⟨firstWhole, othersWhole⟩ := List.forall_mem_cons.mp whole
      obtain ⟨count, splits, undoubled⟩ :=
        splitArgs_quoteArgument argument firstWhole
      rw [List.flatMap_cons, splits, List.singleton_append, List.cons_eq_cons,
        inductionHypothesis othersWhole, List.forall_mem_cons, ← undoubled]
      simp

/-- A command line is split into what it was written from exactly when each
argument is split off as it is. -/
theorem splitArgs_write_iff (program : List Char) (noQuote : '"' ∉ program)
    (arguments : List (List Char)) :
    splitArgs (write program arguments) = program :: arguments ↔
      splitsWhole program = true ∧
        ∀ argument ∈ arguments,
          splitsWhole argument = true ∧ endsUndoubled argument = true := by
  have splits (noQuotes : ∀ argument ∈ arguments, '"' ∉ argument) :
      splitArgs (write program arguments) =
        splitArgs (quoteProgram program) ++
          arguments.flatMap fun argument =>
            splitArgs (quoteArgument argument) :=
    splitArgs_flatMap _ (unquoted_after_program program noQuote) arguments
      noQuotes
  constructor
  · intro kept
    have clean := splitArgs_clean (write program arguments)
    rw [kept] at clean
    have noQuotes : ∀ argument ∈ arguments, '"' ∉ argument :=
      fun argument member => (clean _ (List.mem_cons_of_mem _ member)).2
    rw [splits noQuotes] at kept
    have whole : ∀ argument ∈ program :: arguments,
        splitsWhole argument = true := by
      intro argument member
      refine (splitsWhole_iff _).mpr ⟨(clean _ member).1, (clean _ member).2, ?_⟩
      -- an argument is found among the parts of some argument
      rw [← kept, List.mem_append, List.mem_flatMap] at member
      rcases member with ofProgram | ⟨source, sourceMember, ofSource⟩
      · exact blank_of_mem_program program noQuote argument ofProgram
      · exact blank_of_mem_argument source (noQuotes source sourceMember)
          argument ofSource
    obtain ⟨programWhole, argumentsWhole⟩ := List.forall_mem_cons.mp whole
    rw [splitArgs_quoteProgram program programWhole, List.singleton_append,
      List.cons_eq_cons] at kept
    have undoubled := (flatMap_splitArgs_iff arguments argumentsWhole).mp kept.2
    exact ⟨programWhole,
      fun argument member =>
        ⟨argumentsWhole argument member, undoubled argument member⟩⟩
  · rintro ⟨programWhole, argumentsKept⟩
    have argumentsWhole := fun argument member =>
      (argumentsKept argument member).1
    rw [splits fun argument member =>
        ((splitsWhole_iff _).mp (argumentsWhole argument member)).2.1,
      splitArgs_quoteProgram program programWhole,
      (flatMap_splitArgs_iff arguments argumentsWhole).mpr
        fun argument member => (argumentsKept argument member).2]
    rfl

/-! ## The shell that is launched -/

/-- The command line of a program with some arguments. -/
def writtenCommandLine (program : String) (arguments : List String) : String :=
  String.ofList (write program.toList (arguments.map String.toList))

theorem map_ofList_eq_iff (texts : List (List Char)) (strings : List String) :
    texts.map String.ofList = strings ↔ texts = strings.map String.toList := by
  constructor
  · rintro rfl
    simp [Function.comp_def]
  · rintro rfl
    simp [Function.comp_def]

theorem profileArgumentsKept_iff (program : String) (arguments : List String) :
    profileArgumentsKept program arguments = true ↔
      splitsWhole program.toList = true ∧
        ∀ argument ∈ arguments.map String.toList,
          splitsWhole argument = true ∧ endsUndoubled argument = true := by
  simp [profileArgumentsKept]

/-- A profile's command line, which is read as the program and the arguments it
was written for, is split into these, and the shell is launched with them as
their variables are expanded, exactly if each is split off as a whole and no
backslash was doubled for a quote that closes an argument. -/
theorem profile_arguments_kept_iff (env : String → Option String)
    (commandFileName : String → Option String) (profileName : Option String)
    (program : String) (noQuote : '"' ∉ program.toList)
    (arguments : List String) :
    (read (writtenCommandLine program arguments).toList).map String.ofList =
        program :: arguments ∧
      ((splitWindowsCommandLine (writtenCommandLine program arguments) =
          program :: arguments ∧
        ∃ shell : AvailableShellInfo,
          windowsTerminalProfileShellInfo env commandFileName profileName
              (writtenCommandLine program arguments) = some shell ∧
            shell.command :: shell.args =
              (program :: arguments).map (expandWindowsEnvVars env)) ↔
        profileArgumentsKept program arguments = true) := by
  have splits : splitWindowsCommandLine (writtenCommandLine program arguments) =
      program :: arguments ↔ profileArgumentsKept program arguments = true := by
    rw [profileArgumentsKept_iff, ← splitArgs_write_iff program.toList noQuote,
      splitWindowsCommandLine, map_ofList_eq_iff, writtenCommandLine,
      String.toList_ofList]
    rfl
  rw [← splits]
  refine ⟨?_, And.left, ?_⟩
  · rw [map_ofList_eq_iff, writtenCommandLine, String.toList_ofList,
      read_write program.toList noQuote]
    rfl
  · intro kept
    refine ⟨kept, ?_⟩
    rw [windowsTerminalProfileShellInfo, kept]
    exact ⟨_, rfl, rfl⟩

/-- A command with a blank in its argument is kept. -/
theorem profile_arguments_kept_iff_example :
    (read (writtenCommandLine "bash.exe" ["-c", "echo a"]).toList).map
        String.ofList = ["bash.exe", "-c", "echo a"] ∧
      ((splitWindowsCommandLine
          (writtenCommandLine "bash.exe" ["-c", "echo a"]) =
          ["bash.exe", "-c", "echo a"] ∧
        ∃ shell : AvailableShellInfo,
          windowsTerminalProfileShellInfo (fun _ => none) (fun _ => none) none
              (writtenCommandLine "bash.exe" ["-c", "echo a"]) = some shell ∧
            shell.command :: shell.args =
              ["bash.exe", "-c", "echo a"].map
                (expandWindowsEnvVars fun _ => none)) ↔
        profileArgumentsKept "bash.exe" ["-c", "echo a"] = true) :=
  profile_arguments_kept_iff (fun _ => none) (fun _ => none) none "bash.exe"
    (by decide) ["-c", "echo a"]

/-- A quote of an argument is left out, and the backslash before it stays. -/
theorem quoted_argument_not_kept :
    ¬ ∀ (program : String), '"' ∉ program.toList →
      ∀ arguments : List String,
        splitWindowsCommandLine (writtenCommandLine program arguments) =
          program :: arguments := by
  intro kept
  exact absurd (kept "cmd.exe" (by decide) ["say \"hi\""]) (by decide)

end Host
end WhatsGoingOn
