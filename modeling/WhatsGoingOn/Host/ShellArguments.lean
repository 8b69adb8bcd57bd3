import WhatsGoingOn.Host.ShellIntegration

/-!
# The arguments that bash is started with

Bash reads option words, and the operands of some of them, up to the first word
that is none.  Only the options for a login shell and for startup files are to be
taken out of its arguments.
-/

namespace WhatsGoingOn
namespace Host

open Bytes

/-! ## What bash makes of its arguments -/

/-- What a word is to bash. -/
inductive WordRole where
  | option
  | operand
  | startupFile
  | positional
  deriving DecidableEq, Repr

/-- What the words from some place on are read as. -/
inductive WordScan where
  | options
  | operands (more : Nat)
  | startupFile
  | positional
  deriving DecidableEq, Repr

/-- An option that is written out. -/
def isLongOption (word : String) : Bool :=
  startsWith "--" word && word != "--"

/-- A word of option letters. -/
def isShortOption (word : String) : Bool :=
  (startsWith "-" word && !startsWith "--" word && word != "-") ||
    startsWith "+" word

/-- How many operands follow a word of option letters. -/
def operandCount (word : String) : Nat :=
  word.toList.countP fun letter => letter == 'o' || letter == 'O'

/-- How the words after a word of the options are read. -/
def scanAfter (word : String) : WordScan :=
  if word = "--rcfile" ∨ word = "--init-file" then .startupFile
  else if isLongOption word then .options
  else if isShortOption word then
    match operandCount word with
    | 0 => .options
    | more + 1 => .operands more
  else .positional

/-- The role of a word, and how those after it are read. -/
def scanWord (word : String) : WordScan → WordRole × WordScan
  | .options =>
      (if isLongOption word || isShortOption word then .option
        else .positional, scanAfter word)
  | .operands 0 => (.operand, .options)
  | .operands (more + 1) => (.operand, .operands more)
  | .startupFile => (.startupFile, .options)
  | .positional => (.positional, .positional)

/-- The words with their roles. -/
def roles (scan : WordScan) : List String → List (WordRole × String)
  | [] => []
  | word :: words =>
      ((scanWord word scan).1, word) :: roles (scanWord word scan).2 words

/-! ## What is to be kept -/

/-- An option for a login shell or a startup file that is written out. -/
def isStartupOption (word : String) : Bool :=
  word == "--login" || word == "--rcfile" || word == "--init-file" ||
    startsWith "--rcfile=" word || startsWith "--init-file=" word

/-- A word of option letters without the one for a login shell. -/
def withoutLoginLetter (word : String) : String :=
  String.ofList (word.toList.filter (· != 'l'))

/-- What is to be kept of a word. -/
def keptOf (word : String) : WordRole → List String
  | .startupFile => []
  | .operand | .positional => [word]
  | .option =>
      if isStartupOption word then []
      else if startsWith "-" word && !startsWith "--" word then
        if withoutLoginLetter word = "-" then [] else [withoutLoginLetter word]
      else [word]

/-- The arguments without the options for login shells and startup files. -/
def withoutStartup (args : List String) : List String :=
  (roles .options args).flatMap fun (role, word) => keptOf word role

/-- No long option comes after a word of option letters. -/
def LongFirst (args : List String) : Prop :=
  (roles .options args).Pairwise fun early late =>
    early.1 = .option → isShortOption early.2 = true →
      late.1 = .option → isLongOption late.2 = false

/-! ## One word -/

/-- A word of option letters with the one for a login shell. -/
def hasLoginLetter (word : String) : Bool :=
  startsWith "-" word && !startsWith "--" word &&
    word.toList.any (· == 'l')

/-- A word that asks for a login shell or a startup file. -/
def isStartupWord (word : String) : Bool :=
  isStartupOption word || hasLoginLetter word

/-- The letters beside the one for a login shell are none, or one `i`. -/
def plainLetters (word : String) : Bool :=
  !hasLoginLetter word || withoutLoginLetter word == "-" ||
    withoutLoginLetter word == "-i"

/-- A word of letters has none beside the login letter or one `i`, and a word
that is no option does not look like one for a login shell or a startup file. -/
def isKept (word : String) : WordRole → Bool
  | .option => plainLetters word
  | .operand | .positional => !isStartupWord word
  | .startupFile => true

/-- Every argument is one of which the filter keeps what is to be kept. -/
def Kept (args : List String) : Prop :=
  ∀ entry ∈ roles .options args, isKept entry.2 entry.1 = true

/-- The launch gets no `-i` in front of the arguments, or there is no long
option among them that is kept. -/
def KeepsOrder (args : List String) : Prop :=
  (∃ entry ∈ roles .options args, "-i" ∈ keptOf entry.2 entry.1) ∨
    ∀ entry ∈ roles .options args, entry.1 = .option →
      isLongOption entry.2 = true → isStartupOption entry.2 = true

section Word

variable {word : String}

theorem startsWith_iff {start text : String} :
    startsWith start text = true ↔
      ∃ rest, text.toList = start.toList ++ rest := by
  rw [startsWith, List.isPrefixOf_iff_prefix]
  exact ⟨fun ⟨rest, same⟩ => ⟨rest, same.symm⟩,
    fun ⟨rest, same⟩ => ⟨rest, same.symm⟩⟩

/-- A text has at least a byte for each character. -/
theorem length_le_utf8 (text : String) :
    text.toList.length ≤ (utf8 text).length := by
  rw [Text.utf8_eq]
  induction text.toList with
  | nil => simp
  | cons character characters inductionHypothesis =>
      have present := List.length_pos_iff.mpr
        (String.utf8EncodeChar_ne_nil (c := character))
      rw [List.flatMap_cons, List.length_append, List.length_cons]
      omega

/-- A login letter is the option alone, or one in a group. -/
theorem hasLoginLetter_iff :
    hasLoginLetter word = true ↔
      word = "-l" ∨ isShortOptionWith word 'l' = true := by
  constructor
  · intro login
    simp only [hasLoginLetter, Bool.and_eq_true] at login
    obtain ⟨⟨dash, single⟩, letter⟩ := login
    obtain ⟨letters, spelled⟩ := startsWith_iff.mp dash
    replace spelled : word.toList = '-' :: letters := spelled
    have letterThere : letters.any (· == 'l') = true := by
      simpa [spelled] using letter
    have long := length_le_utf8 word
    match letters with
    | [] => simp at letterThere
    | [only] =>
        have same : only = 'l' := by simpa using letterThere
        subst same
        exact Or.inl (String.ext (by rw [spelled]; rfl))
    | first :: second :: others =>
        rw [spelled, List.length_cons, List.length_cons, List.length_cons]
          at long
        refine Or.inr ?_
        simp only [isShortOptionWith, Bool.and_eq_true, dash, single,
          decide_eq_true_eq, spelled, List.drop_succ_cons, List.drop_zero,
          letterThere, and_true, true_and]
        omega
  · rintro (same | letter)
    · subst same
      rfl
    · simp only [isShortOptionWith, Bool.and_eq_true] at letter
      obtain ⟨⟨⟨dash, single⟩, -⟩, letter⟩ := letter
      obtain ⟨character, present, same⟩ := List.any_eq_true.mp letter
      simp only [hasLoginLetter, Bool.and_eq_true, dash, single, true_and]
      exact List.any_eq_true.mpr ⟨character, List.mem_of_mem_drop present, same⟩

/-- A word that starts otherwise is another word. -/
theorem ne_of_startsWith {start : String} (starts : startsWith start word = true)
    (other : String) (otherwise : startsWith start other = false) :
    word ≠ other := by
  intro same
  rw [same, otherwise] at starts
  exact absurd starts (by decide)

theorem ne_of_not_startsWith {start : String}
    (otherwise : startsWith start word = false) (other : String)
    (starts : startsWith start other = true) : word ≠ other := by
  intro same
  rw [same, starts] at otherwise
  exact absurd otherwise (by decide)

theorem not_startsWith_append {start : String}
    (otherwise : startsWith start word = false) (more : String) :
    startsWith (start ++ more) word = false := by
  rw [Bool.eq_false_iff] at otherwise ⊢
  intro starts
  obtain ⟨rest, spelled⟩ := startsWith_iff.mp starts
  rw [String.toList_append, List.append_assoc] at spelled
  exact otherwise (startsWith_iff.mpr ⟨_, spelled⟩)

/-- The argument after an option for a startup file is skipped. -/
theorem filterBashArg_skips (word : String) :
    (filterBashArg word).2.2 =
      decide (word = "--rcfile" ∨ word = "--init-file") := by
  unfold filterBashArg
  split
  case isTrue login =>
    rcases login with same | same
    · subst same; rfl
    · subst same; rfl
  case isFalse =>
    split
    case isTrue operand => simp [operand]
    case isFalse noOperand =>
      simp only [noOperand, decide_false]
      split
      · rfl
      · split
        · rfl
        · split <;> rfl

/-- Options about startup files are left out. -/
theorem filterBashArg_startup (startup : isStartupOption word = true) :
    (filterBashArg word).1 = [] := by
  simp only [isStartupOption, Bool.or_eq_true, beq_iff_eq] at startup
  rcases startup with (((same | same) | same) | starts) | starts
  · subst same; rfl
  · subst same; rfl
  · subst same; rfl
  all_goals
    have notLogin := ne_of_startsWith starts "--login" (by rfl)
    have notLetter := ne_of_startsWith starts "-l" (by rfl)
    have notRcfile := ne_of_startsWith starts "--rcfile" (by rfl)
    have notInitFile := ne_of_startsWith starts "--init-file"
      (by rfl)
    have notInteractive := ne_of_startsWith starts "-i" (by rfl)
    simp [filterBashArg, notLogin, notLetter, notRcfile, notInitFile,
      notInteractive, starts]

/-- Of a word with a login letter at most the letter of an interactive shell is
kept. -/
theorem filterBashArg_login (login : hasLoginLetter word = true) :
    filterBashArg word =
      (if word.toList.any (· == 'i') then ["-i"] else [], true, false) := by
  rcases hasLoginLetter_iff.mp login with same | letter
  · subst same
    rfl
  simp only [isShortOptionWith, Bool.and_eq_true, Bool.not_eq_true'] at letter
  obtain ⟨⟨⟨dash, single⟩, long⟩, letter⟩ := letter
  have notLogin := ne_of_not_startsWith single "--login" (by rfl)
  have notRcfile := ne_of_not_startsWith single "--rcfile" (by rfl)
  have notInitFile := ne_of_not_startsWith single "--init-file"
    (by rfl)
  have notRcfiles : startsWith "--rcfile=" word = false :=
    not_startsWith_append single "rcfile="
  have notInitFiles : startsWith "--init-file=" word = false :=
    not_startsWith_append single "init-file="
  have notLetter : word ≠ "-l" := by
    rintro rfl
    exact absurd long (by decide)
  have notInteractive : word ≠ "-i" := by
    rintro rfl
    exact absurd long (by decide)
  obtain ⟨letters, spelled⟩ := startsWith_iff.mp dash
  replace spelled : word.toList = '-' :: letters := spelled
  simp only [spelled, List.drop_succ_cons, List.drop_zero] at letter
  have sameInteractive :
      isShortOptionWith word 'i' = word.toList.any (· == 'i') := by
    simp [isShortOptionWith, dash, single, of_decide_eq_true long, spelled]
  have loginLetter : isShortOptionWith word 'l' = true := by
    simp [isShortOptionWith, dash, single, of_decide_eq_true long, spelled,
      letter]
  simp [filterBashArg, notLogin, notRcfile, notInitFile, notRcfiles,
    notInitFiles, notLetter, notInteractive, loginLetter, sameInteractive]

theorem filterBashArg_other (other : isStartupWord word = false) :
    filterBashArg word = ([word], false, false) := by
  simp only [isStartupWord, isStartupOption, Bool.or_eq_false_iff,
    beq_eq_false_iff_ne] at other
  obtain ⟨⟨⟨⟨⟨notLogin, notRcfile⟩, notInitFile⟩, notRcfiles⟩, notInitFiles⟩,
    noLetter⟩ := other
  have noLogin := mt hasLoginLetter_iff.mpr (Bool.eq_false_iff.mp noLetter)
  rw [not_or, Bool.not_eq_true] at noLogin
  simp [filterBashArg, notLogin, notRcfile, notInitFile, notRcfiles,
    notInitFiles, noLogin.1, noLogin.2]

/-- A word of letters without the login letter has no login letter. -/
theorem toList_withoutLoginLetter (word : String) :
    (withoutLoginLetter word).toList = word.toList.filter (· != 'l') := by
  rw [withoutLoginLetter, String.toList_ofList]

theorem withoutLoginLetter_eq (noLetter : word.toList.any (· == 'l') = false) :
    withoutLoginLetter word = word := by
  refine String.ext ?_
  rw [toList_withoutLoginLetter]
  refine List.filter_eq_self.mpr fun character present => ?_
  have other := List.any_eq_false.mp noLetter character present
  simpa using other

/-- An argument that the filter lets through asks for no login shell and no
startup file. -/
theorem isStartupWord_of_mem_filterBashArg {arg : String}
    (present : arg ∈ (filterBashArg word).1) : isStartupWord arg = false := by
  by_cases startup : isStartupOption word = true
  · rw [filterBashArg_startup startup] at present
    cases present
  by_cases login : hasLoginLetter word = true
  · rw [filterBashArg_login login] at present
    dsimp only at present
    split at present
    · rw [List.mem_singleton.mp present]
      rfl
    · cases present
  have other : isStartupWord word = false := by
    rw [isStartupWord, Bool.eq_false_iff.mpr startup,
      Bool.eq_false_iff.mpr login]
    rfl
  rw [filterBashArg_other other] at present
  rwa [List.mem_singleton.mp present]

end Word

/-! ## The words of the options -/

section Options

variable {word : String}

theorem hasLoginLetter_iff_of_dash (dash : startsWith "-" word = true)
    (single : startsWith "--" word = false) :
    hasLoginLetter word = word.toList.any (· == 'l') := by
  simp [hasLoginLetter, dash, single]

/-- A word with a login letter is no option about startup files. -/
theorem not_startupOption_of_login (login : hasLoginLetter word = true) :
    isStartupOption word = false := by
  simp only [hasLoginLetter, Bool.and_eq_true, Bool.not_eq_true'] at login
  have single := login.1.2
  have notRcfiles : startsWith "--rcfile=" word = false :=
    not_startsWith_append single "rcfile="
  have notInitFiles : startsWith "--init-file=" word = false :=
    not_startsWith_append single "init-file="
  simp [isStartupOption, notRcfiles, notInitFiles,
    ne_of_not_startsWith single "--login" (by rfl),
    ne_of_not_startsWith single "--rcfile" (by rfl),
    ne_of_not_startsWith single "--init-file" (by rfl)]

/-- What is kept of a word of letters with the one for a login shell. -/
theorem keptOf_login (login : hasLoginLetter word = true) :
    keptOf word .option =
      if withoutLoginLetter word = "-" then [] else [withoutLoginLetter word] := by
  have notStartup := not_startupOption_of_login login
  simp only [hasLoginLetter, Bool.and_eq_true, Bool.not_eq_true'] at login
  simp [keptOf, notStartup, login.1.1, login.1.2]

/-- A word of the options without a login letter that is no startup option is
kept as it is. -/
theorem keptOf_other (spelled : word ≠ "-")
    (other : isStartupWord word = false) : keptOf word .option = [word] := by
  simp only [isStartupWord, Bool.or_eq_false_iff] at other
  simp only [keptOf, other.1, Bool.false_eq_true, if_false]
  split
  case isTrue letters =>
    rw [Bool.and_eq_true, Bool.not_eq_true'] at letters
    rw [hasLoginLetter_iff_of_dash letters.1 letters.2] at other
    rw [withoutLoginLetter_eq other.2, if_neg spelled]
  case isFalse => rfl

theorem keptOf_startup (startup : isStartupOption word = true) :
    keptOf word .option = [] := by
  simp [keptOf, startup]

/-- The filter keeps of a word of the options at most what is to be kept, and
all of it for a word whose letters are plain. -/
theorem filterBashArg_option (spelled : word ≠ "-") :
    (filterBashArg word).1.length ≤ (keptOf word .option).length ∧
      ((filterBashArg word).1 = keptOf word .option ↔
        plainLetters word = true) := by
  by_cases startup : isStartupOption word = true
  · have noLetter : hasLoginLetter word = false := by
      by_contra login
      rw [Bool.not_eq_false] at login
      rw [not_startupOption_of_login login] at startup
      cases startup
    rw [filterBashArg_startup startup, keptOf_startup startup]
    simp [plainLetters, noLetter]
  by_cases login : hasLoginLetter word = true
  · rw [filterBashArg_login login, keptOf_login login]
    simp only [plainLetters, login, Bool.not_true, Bool.false_or,
      Bool.or_eq_true, beq_iff_eq]
    have interactive : word.toList.any (· == 'i') =
        (withoutLoginLetter word).toList.any (· == 'i') := by
      rw [toList_withoutLoginLetter, List.any_filter]
      congr 1
      funext character
      by_cases same : character = 'i'
      · subst same; rfl
      · simp [same]
    rw [interactive]
    generalize withoutLoginLetter word = others
    by_cases none : others = "-"
    · subst none
      decide
    · rw [if_neg none]
      by_cases one : others = "-i"
      · subst one
        decide
      · simp only [none, one, or_self, iff_false]
        split
        · exact ⟨Nat.le_refl 1, fun same => one (List.singleton_inj.mp same).symm⟩
        · exact ⟨Nat.zero_le 1, by simp⟩
  have other : isStartupWord word = false := by
    rw [isStartupWord, Bool.eq_false_iff.mpr startup,
      Bool.eq_false_iff.mpr login]
    rfl
  rw [filterBashArg_other other, keptOf_other spelled other]
  simp [plainLetters, Bool.eq_false_iff.mpr login]

end Options

/-! ## The list of the arguments -/

section Arguments

variable {word : String} {words : List String}

/-- What is to be kept of the words from some place on. -/
def keptFrom (scan : WordScan) (words : List String) : List String :=
  (roles scan words).flatMap fun (role, word) => keptOf word role

theorem keptFrom_cons (scan : WordScan) (word : String) (words : List String) :
    keptFrom scan (word :: words) =
      keptOf word (scanWord word scan).1 ++
        keptFrom (scanWord word scan).2 words := by
  rw [keptFrom, roles, List.flatMap_cons]
  rfl

theorem filterBashArgsFrom_cons (word : String) (words : List String) :
    (filterBashArgsFrom false (word :: words)).1 =
      (filterBashArg word).1 ++
        (filterBashArgsFrom (filterBashArg word).2.2 words).1 := by
  rfl

/-- No word that is kept is about startup files. -/
theorem isStartupWord_of_mem_filterBashArgsFrom {arg : String} {skip : Bool}
    (present : arg ∈ (filterBashArgsFrom skip words).1) :
    isStartupWord arg = false := by
  induction words generalizing skip with
  | nil => cases present
  | cons word words inductionHypothesis =>
      cases skip with
      | true => exact inductionHypothesis present
      | false =>
          rw [filterBashArgsFrom_cons, List.mem_append] at present
          rcases present with here | later
          · exact isStartupWord_of_mem_filterBashArg here
          · exact inductionHypothesis later

/-- Two lists whose parts are at most as long as those of two others are equal
to them part by part. -/
theorem append_eq_append_iff_of_length_le {items others early late : List String}
    (short : items.length ≤ early.length) (shortRest : others.length ≤ late.length) :
    items ++ others = early ++ late ↔ items = early ∧ others = late := by
  constructor
  · intro same
    have lengths := congrArg List.length same
    rw [List.length_append, List.length_append] at lengths
    exact List.append_inj same (by omega)
  · rintro ⟨rfl, rfl⟩
    rfl

theorem option_ne_dash {scan : WordScan}
    (option : (scanWord word scan).1 = .option) : word ≠ "-" := by
  rintro rfl
  cases scan with
  | options => exact absurd option (by decide)
  | operands more => cases more <;> cases option
  | startupFile => cases option
  | positional => cases option

theorem scan_of_option {scan : WordScan}
    (option : (scanWord word scan).1 = .option) : scan = .options := by
  cases scan with
  | options => rfl
  | operands more => cases more <;> cases option
  | startupFile => cases option
  | positional => cases option

/-- Two options take the name of a startup file after them. -/
theorem scanAfter_startupFile :
    scanAfter word = .startupFile ↔
      word = "--rcfile" ∨ word = "--init-file" := by
  unfold scanAfter
  split
  case isTrue operand => simp [operand]
  case isFalse noOperand =>
    simp only [noOperand, iff_false]
    split
    · nofun
    · split
      · split <;> nofun
      · nofun

theorem not_operandOption (other : isStartupWord word = false) :
    ¬(word = "--rcfile" ∨ word = "--init-file") := by
  rintro (same | same)
  · rw [same] at other; exact absurd other (by decide)
  · rw [same] at other; exact absurd other (by decide)

/-- A word that is no option and asks for no startup file has none after it. -/
theorem scanWord_startupFile {scan : WordScan} (read : scan ≠ .startupFile)
    (settled : (scanWord word scan).1 = .option ∨ isStartupWord word = false) :
    (scanWord word scan).2 = .startupFile ↔
      word = "--rcfile" ∨ word = "--init-file" := by
  have elsewhere (role : (scanWord word scan).1 ≠ .option) :
      ¬(word = "--rcfile" ∨ word = "--init-file") :=
    not_operandOption (settled.resolve_left role)
  cases scan with
  | options => exact scanAfter_startupFile
  | operands more =>
      cases more with
      | zero => simp [scanWord, elsewhere nofun]
      | succ more => simp [scanWord, elsewhere nofun]
  | startupFile => exact absurd rfl read
  | positional => simp [scanWord, elsewhere nofun]

theorem scanWord_ne_startupFile {scan : WordScan} (read : scan ≠ .startupFile) :
    (scanWord word scan).1 ≠ .startupFile := by
  cases scan with
  | options => simp only [scanWord]; split <;> nofun
  | operands more => cases more <;> nofun
  | startupFile => exact absurd rfl read
  | positional => nofun

/-- One word is filtered to what is to be kept of it just if it is one of
which the filter keeps it. -/
theorem filterBashArg_settled {scan : WordScan} (read : scan ≠ .startupFile)
    (settled : (scanWord word scan).1 = .option ∨ isStartupWord word = false) :
    (filterBashArg word).1.length ≤
        (keptOf word (scanWord word scan).1).length ∧
      ((filterBashArg word).1 = keptOf word (scanWord word scan).1 ↔
        isKept word (scanWord word scan).1 = true) := by
  generalize same : (scanWord word scan).1 = role at settled
  cases role with
  | option => exact filterBashArg_option (option_ne_dash same)
  | operand =>
      have other := settled.resolve_left nofun
      simp [filterBashArg_other other, keptOf, isKept, other]
  | startupFile => exact absurd same (scanWord_ne_startupFile read)
  | positional =>
      have other := settled.resolve_left nofun
      simp [filterBashArg_other other, keptOf, isKept, other]

/-- The words that are no options ask for no login shell and no startup file. -/
def OthersSettled (scan : WordScan) (words : List String) : Prop :=
  ∀ entry ∈ roles scan words, entry.1 = .option ∨ entry.1 = .startupFile ∨
    isStartupWord entry.2 = false

/-- When no other word is about startup, the filter keeps no more than it should,
and all of it exactly when each word is one of which it keeps that. -/
theorem filterBashArgsFrom_eq_iff {scan : WordScan}
    (settled : OthersSettled scan words) :
    (filterBashArgsFrom (decide (scan = .startupFile)) words).1.length ≤
        (keptFrom scan words).length ∧
      ((filterBashArgsFrom (decide (scan = .startupFile)) words).1 =
          keptFrom scan words ↔
        ∀ entry ∈ roles scan words, isKept entry.2 entry.1 = true) := by
  induction words generalizing scan with
  | nil => simp [filterBashArgsFrom, keptFrom, roles]
  | cons word words inductionHypothesis =>
      have here := settled _ List.mem_cons_self
      have later : OthersSettled (scanWord word scan).2 words :=
        fun entry present => settled entry (List.mem_cons_of_mem _ present)
      have rest := inductionHypothesis later
      rw [keptFrom_cons]
      simp only [roles, List.forall_mem_cons]
      by_cases skipped : scan = .startupFile
      · subst skipped
        exact ⟨rest.1, rest.2.trans ⟨fun all => ⟨rfl, all⟩, And.right⟩⟩
      · have others := here.imp_right fun others =>
          others.resolve_left (scanWord_ne_startupFile skipped)
        have one := filterBashArg_settled skipped others
        have skips : (filterBashArg word).2.2 =
            decide ((scanWord word scan).2 = .startupFile) := by
          rw [filterBashArg_skips,
            decide_eq_decide.mpr (scanWord_startupFile skipped others)]
        rw [decide_eq_false skipped, filterBashArgsFrom_cons, skips,
          append_eq_append_iff_of_length_le one.1 rest.1, one.2, rest.2,
          List.length_append, List.length_append]
        exact ⟨Nat.add_le_add one.1 rest.1, Iff.rfl⟩

/-- The filter returns the arguments without the options for login shells and
startup files just if every argument is one of which it keeps what is to be
kept. -/
theorem filterBashArgs_eq_iff (args : List String) :
    (filterBashArgs args).1 = withoutStartup args ↔ Kept args := by
  constructor
  · intro same
    have settled : OthersSettled .options args := by
      intro entry present
      have asked (keeps : keptOf entry.2 entry.1 = [entry.2]) :
          isStartupWord entry.2 = false := by
        have kept : entry.2 ∈ withoutStartup args := by
          refine List.mem_flatMap.mpr ⟨entry, present, ?_⟩
          show entry.2 ∈ keptOf entry.2 entry.1
          rw [keeps]
          exact List.mem_singleton_self entry.2
        rw [← same] at kept
        exact isStartupWord_of_mem_filterBashArgsFrom kept
      generalize entry.1 = kind at asked
      cases kind with
      | option => exact Or.inl rfl
      | startupFile => exact Or.inr (Or.inl rfl)
      | operand => exact Or.inr (Or.inr (asked rfl))
      | positional => exact Or.inr (Or.inr (asked rfl))
    exact (filterBashArgsFrom_eq_iff settled).2.mp same
  · intro kept
    have settled : OthersSettled .options args := by
      intro entry present
      have keeps := kept entry present
      generalize entry.1 = kind at keeps
      cases kind with
      | option => exact Or.inl rfl
      | startupFile => exact Or.inr (Or.inl rfl)
      | operand => exact Or.inr (Or.inr (by simpa [isKept] using keeps))
      | positional => exact Or.inr (Or.inr (by simpa [isKept] using keeps))
    exact (filterBashArgsFrom_eq_iff settled).2.mpr kept

end Arguments

/-! ## The order of the options -/

section Order

variable {word : String} {words args : List String}

/-- What becomes of a word of which the filter keeps what is to be kept. -/
theorem keptOf_cases {role : WordRole} (keeps : isKept word role = true)
    (spelled : role = .option → word ≠ "-") :
    (role ≠ .startupFile ∧ isStartupWord word = false ∧
        keptOf word role = [word]) ∨
      ((role = .startupFile ∨ role = .option ∧ isStartupOption word = true) ∧
        keptOf word role = []) ∨
      (role = .option ∧ hasLoginLetter word = true ∧
        (withoutLoginLetter word = "-" ∧ keptOf word role = [] ∨
          withoutLoginLetter word = "-i" ∧ keptOf word role = ["-i"])) := by
  cases role with
  | startupFile => exact Or.inr (Or.inl ⟨Or.inl rfl, rfl⟩)
  | operand => exact Or.inl ⟨nofun, by simpa [isKept] using keeps, rfl⟩
  | positional => exact Or.inl ⟨nofun, by simpa [isKept] using keeps, rfl⟩
  | option =>
      by_cases startup : isStartupOption word = true
      · exact Or.inr (Or.inl ⟨Or.inr ⟨rfl, startup⟩, keptOf_startup startup⟩)
      by_cases login : hasLoginLetter word = true
      · simp only [isKept, plainLetters, login, Bool.not_true, Bool.false_or,
          Bool.or_eq_true, beq_iff_eq] at keeps
        refine Or.inr (Or.inr ⟨rfl, login, keeps.imp ?_ ?_⟩)
        · intro same
          exact ⟨same, by rw [keptOf_login login, if_pos same]⟩
        · intro same
          refine ⟨same, ?_⟩
          rw [keptOf_login login, same, if_neg (by decide)]
      · have other : isStartupWord word = false := by
          rw [isStartupWord, Bool.eq_false_iff.mpr startup,
            Bool.eq_false_iff.mpr login]
          rfl
        exact Or.inl ⟨nofun, other, keptOf_other (spelled rfl) other⟩

/-- How words are read from a place where the words before are settled. -/
def settledScan : WordScan → WordScan
  | .startupFile => .options
  | scan => scan

theorem settledScan_eq {scan : WordScan} (read : scan ≠ .startupFile) :
    settledScan scan = scan := by
  cases scan <;> first | rfl | exact absurd rfl read

/-- After an option about startup files come further options. -/
theorem scanAfter_startup (startup : isStartupOption word = true) :
    settledScan (scanAfter word) = .options := by
  simp only [isStartupOption, Bool.or_eq_true, beq_iff_eq] at startup
  rcases startup with (((same | same) | same) | starts) | starts
  · subst same; rfl
  · subst same; rfl
  · subst same; rfl
  all_goals
    have notRcfile := ne_of_startsWith starts "--rcfile" (by rfl)
    have notInitFile := ne_of_startsWith starts "--init-file"
      (by rfl)
    have notDashes := ne_of_startsWith starts "--" (by rfl)
    have dashes : startsWith "--" word = true := by
      obtain ⟨rest, spelled⟩ := startsWith_iff.mp starts
      exact startsWith_iff.mpr ⟨_, spelled⟩
    simp [scanAfter, notRcfile, notInitFile, isLongOption, dashes, notDashes,
      settledScan]

theorem operandCount_withoutLoginLetter (word : String) :
    operandCount (withoutLoginLetter word) = operandCount word := by
  rw [operandCount, operandCount, toList_withoutLoginLetter,
    List.countP_filter]
  refine List.countP_congr fun character _ => ?_
  by_cases login : character = 'l'
  · subst login
    decide
  · simp [login]

/-- A plain word of letters with the login letter has no operands. -/
theorem scanAfter_login (login : hasLoginLetter word = true)
    (plain : withoutLoginLetter word = "-" ∨ withoutLoginLetter word = "-i") :
    scanAfter word = .options := by
  have count : operandCount word = 0 := by
    rw [← operandCount_withoutLoginLetter]
    rcases plain with same | same
    · rw [same]; rfl
    · rw [same]; rfl
  have notDash : word ≠ "-" := by
    rintro rfl
    exact absurd login (by decide)
  simp only [hasLoginLetter, Bool.and_eq_true, Bool.not_eq_true'] at login
  obtain ⟨⟨dash, single⟩, -⟩ := login
  simp [scanAfter, isLongOption, isShortOption, dash, single, notDash, count,
    ne_of_not_startsWith single "--rcfile" (by rfl),
    ne_of_not_startsWith single "--init-file" (by rfl)]

/-- What is kept is read as what it was read as. -/
theorem roles_keptFrom {scan : WordScan}
    (kept : ∀ entry ∈ roles scan words, isKept entry.2 entry.1 = true) :
    roles (settledScan scan) (keptFrom scan words) =
      (roles scan words).flatMap fun (role, word) =>
        (keptOf word role).map (role, ·) := by
  induction words generalizing scan with
  | nil => rfl
  | cons word words inductionHypothesis =>
      have later := @inductionHypothesis (scanWord word scan).2
        fun entry present => kept entry (List.mem_cons_of_mem _ present)
      have here := kept _ List.mem_cons_self
      rw [keptFrom_cons, roles, List.flatMap_cons, ← later]
      dsimp only
      rcases keptOf_cases here fun option => option_ne_dash option with
        ⟨role, other, same⟩ | ⟨dropped, same⟩ | ⟨option, login, plain⟩
      · have read : scan ≠ .startupFile := by
          rintro rfl
          exact role rfl
        have readNext : (scanWord word scan).2 ≠ .startupFile := by
          rw [Ne, scanWord_startupFile read (Or.inr other)]
          exact not_operandOption other
        rw [same, settledScan_eq read, settledScan_eq readNext]
        rfl
      · have settled :
            settledScan scan = settledScan (scanWord word scan).2 := by
          by_cases read : scan = .startupFile
          · rw [read]; rfl
          · have option := dropped.resolve_left (scanWord_ne_startupFile read)
            have first := scan_of_option option.1
            rw [first]
            exact (scanAfter_startup option.2).symm
        rw [same, settled]
        rfl
      · have first := scan_of_option option
        subst first
        rcases plain with ⟨letters, same⟩ | ⟨letters, same⟩
        · have next := scanAfter_login login (Or.inl letters)
          rw [same]
          simp only [scanWord, next]
          rfl
        · have next := scanAfter_login login (Or.inr letters)
          rw [same, option]
          simp only [scanWord, next]
          rfl

theorem roles_withoutStartup (kept : Kept args) :
    roles .options (withoutStartup args) =
      (roles .options args).flatMap fun (role, word) =>
        (keptOf word role).map (role, ·) :=
  roles_keptFrom kept

theorem ne_dash_of_mem_roles {scan : WordScan} {entry : WordRole × String}
    (present : entry ∈ roles scan words) (option : entry.1 = .option) :
    entry.2 ≠ "-" := by
  induction words generalizing scan with
  | nil => cases present
  | cons word words inductionHypothesis =>
      rw [roles] at present
      rcases List.mem_cons.mp present with same | later
      · subst same
        exact option_ne_dash option
      · exact inductionHypothesis later

theorem isShortOption_of_login (login : hasLoginLetter word = true) :
    isShortOption word = true := by
  have notDash : word ≠ "-" := by
    rintro rfl
    exact absurd login (by decide)
  simp only [hasLoginLetter, Bool.and_eq_true, Bool.not_eq_true'] at login
  simp [isShortOption, login.1.1, login.1.2, notDash]

/-- A word that is kept is a short or a long option only if it was one. -/
theorem option_of_mem_keptOf (kept : Kept args) {entry : WordRole × String}
    (present : entry ∈ roles .options args)
    (keeps : word ∈ keptOf entry.2 entry.1) :
    (isShortOption word = true → isShortOption entry.2 = true) ∧
      (isLongOption word = true → word = entry.2) := by
  rcases keptOf_cases (kept entry present) (ne_dash_of_mem_roles present) with
    ⟨-, -, same⟩ | ⟨-, same⟩ | ⟨-, login, ⟨-, same⟩ | ⟨-, same⟩⟩
  · rw [same, List.mem_singleton] at keeps
    exact ⟨fun short => keeps ▸ short, fun _ => keeps⟩
  · rw [same] at keeps
    cases keeps
  · rw [same] at keeps
    cases keeps
  · rw [same, List.mem_singleton] at keeps
    refine ⟨fun _ => isShortOption_of_login login, fun long => ?_⟩
    rw [keeps] at long
    exact absurd long (by decide)

/-- Keeping words puts no long option behind a word of letters. -/
theorem longFirst_withoutStartup (kept : Kept args) (first : LongFirst args) :
    LongFirst (withoutStartup args) := by
  rw [LongFirst, roles_withoutStartup kept, List.pairwise_flatMap]
  constructor
  · intro entry present
    rcases keptOf_cases (kept entry present) (ne_dash_of_mem_roles present) with
      ⟨-, -, same⟩ | ⟨-, same⟩ | ⟨-, -, ⟨-, same⟩ | ⟨-, same⟩⟩
    all_goals
      dsimp only
      rw [same]
      simp
  · refine List.Pairwise.imp_of_mem ?_ first
    intro early late earlyThere lateThere before keptEarly earlyKept keptLate
      lateKept
    obtain ⟨earlyWord, earlyKeeps, same⟩ := List.mem_map.mp earlyKept
    subst same
    obtain ⟨lateWord, lateKeeps, same⟩ := List.mem_map.mp lateKept
    subst same
    intro earlyOption earlyShort lateOption
    rw [Bool.eq_false_iff]
    intro lateLong
    have earlyWas := (option_of_mem_keptOf kept earlyThere earlyKeeps).1
    have lateWas := (option_of_mem_keptOf kept lateThere lateKeeps).2 lateLong
    rw [lateWas, before earlyOption (earlyWas earlyShort) lateOption] at lateLong
    cases lateLong

/-- The launch of bash has its long options first just if the filtered
arguments do and no `-i` comes in front of a long one. -/
theorem longFirst_integrateBash (script command : String) :
    LongFirst (integrateBash (some script) command args).args ↔
      ("-i" ∈ (filterBashArgs args).1 ∨
        ∀ entry ∈ roles .options (filterBashArgs args).1,
          entry.1 = .option → isLongOption entry.2 = false) ∧
        LongFirst (filterBashArgs args).1 := by
  have prologue (others : List String) :
      LongFirst (["--init-file", script] ++ others) ↔ LongFirst others := by
    have read : roles .options (["--init-file", script] ++ others) =
        (.option, "--init-file") :: (.startupFile, script) ::
          roles .options others := by
      simp [roles, scanWord, show isLongOption "--init-file" = true by
        rfl, show scanAfter "--init-file" = .startupFile by
        rfl]
    rw [LongFirst, LongFirst, read, List.pairwise_cons, List.pairwise_cons]
    simp [show isShortOption "--init-file" = false by rfl]
  have interactive (others : List String) :
      LongFirst ("-i" :: others) ↔
        (∀ entry ∈ roles .options others,
          entry.1 = .option → isLongOption entry.2 = false) ∧
          LongFirst others := by
    have read : roles .options ("-i" :: others) =
        (.option, "-i") :: roles .options others := by
      simp [roles, scanWord, show isShortOption "-i" = true by
        rfl, show scanAfter "-i" = .options by rfl]
    rw [LongFirst, LongFirst, read, List.pairwise_cons]
    simp [show isShortOption "-i" = true by rfl]
  show LongFirst ((["--init-file", script] ++
    (if (filterBashArgs args).1.any (· == "-i") then [] else ["-i"])) ++
      (filterBashArgs args).1) ↔ _
  rw [List.append_assoc, prologue]
  by_cases asked : "-i" ∈ (filterBashArgs args).1
  · have found : (filterBashArgs args).1.any (· == "-i") = true :=
      List.any_eq_true.mpr ⟨_, asked, rfl⟩
    rw [if_pos found]
    simp [asked]
  · have missing : (filterBashArgs args).1.any (· == "-i") = false := by
      rw [List.any_eq_false]
      rintro word present
      simpa using fun same : word = "-i" => asked (same ▸ present)
    rw [missing]
    simp only [Bool.false_eq_true, if_false, asked, false_or]
    exact interactive _

/-- No long option is kept just if the long options are all for startup. -/
theorem no_long_kept_iff (kept : Kept args) :
    (∀ entry ∈ roles .options (withoutStartup args),
        entry.1 = .option → isLongOption entry.2 = false) ↔
      ∀ entry ∈ roles .options args, entry.1 = .option →
        isLongOption entry.2 = true → isStartupOption entry.2 = true := by
  rw [roles_withoutStartup kept]
  constructor
  · intro none entry present option long
    by_contra other
    have single : startsWith "--" entry.2 = true := by
      rw [isLongOption, Bool.and_eq_true] at long
      exact long.1
    have noLogin : isStartupWord entry.2 = false := by
      simp [isStartupWord, Bool.eq_false_iff.mpr other, hasLoginLetter, single]
    have keeps := keptOf_other (ne_dash_of_mem_roles present option) noLogin
    have there := none (entry.1, entry.2)
      (List.mem_flatMap.mpr ⟨entry, present, List.mem_map.mpr
        ⟨entry.2, by rw [option, keeps]; exact List.mem_singleton_self _, rfl⟩⟩)
      option
    rw [there] at long
    cases long
  · intro startup entry present option
    obtain ⟨source, sourceThere, mapped⟩ := List.mem_flatMap.mp present
    obtain ⟨word, keeps, same⟩ := List.mem_map.mp mapped
    subst same
    rw [Bool.eq_false_iff]
    intro long
    have same := (option_of_mem_keptOf kept sourceThere keeps).2 long
    subst same
    rw [option, keptOf_startup (startup source sourceThere option long)] at keeps
    cases keeps

/-- The filter returns the arguments without the options for a login shell and
startup files, and the launch keeps long options first, just if every argument
is one of which the filter keeps what is to be kept, and the launch gets no `-i`
in front of a long option. -/
theorem filterBashArgs_keeps_iff (script command : String)
    (args : List String) :
    ((filterBashArgs args).1 = withoutStartup args ∧
        (LongFirst args →
          LongFirst (integrateBash (some script) command args).args)) ↔
      Kept args ∧ (LongFirst args → KeepsOrder args) := by
  rw [filterBashArgs_eq_iff]
  refine and_congr_right fun kept => forall_congr' fun first => ?_
  have same := (filterBashArgs_eq_iff args).mpr kept
  rw [longFirst_integrateBash, same,
    and_iff_left (longFirst_withoutStartup kept first)]
  refine or_congr ?_ (no_long_kept_iff kept)
  rw [withoutStartup, List.mem_flatMap]

/-- The filter loses a letter and an argument of a script, and the launch puts
a letter in front of a long option. -/
theorem args_not_kept :
    (filterBashArgs ["-lx"]).1 ≠ withoutStartup ["-lx"] ∧
      (filterBashArgs ["script.sh", "-l"]).1 ≠
        withoutStartup ["script.sh", "-l"] ∧
      LongFirst ["--norc"] ∧
      ¬LongFirst (integrateBash (some "bash") "bash" ["--norc"]).args := by
  unfold LongFirst
  decide

end Order

end Host
end WhatsGoingOn
