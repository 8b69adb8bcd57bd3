import WhatsGoingOn.Library.Utf8

/-!
# Shell integration

The scripts that the shells read when they start, as far as they tell of the
working directory.  Each shell reads a script by its own rules of quoting.
-/

namespace WhatsGoingOn
namespace Host

open Bytes Text

/-- The shells that have an integration script. -/
inductive ShellKind where
  | bash
  | fish
  | zsh
  deriving DecidableEq, Repr

/-! ## Quoting -/

/-- What is left of a text between double quotes in bash and zsh. -/
def unquoteDouble : List Char → List Char
  | [] => []
  | [character] => [character]
  | first :: second :: rest =>
      if first = '\\' ∧ second ∈ ['\\', '$', Char.ofNat 96, '"'] then
        second :: unquoteDouble rest
      else first :: unquoteDouble (second :: rest)

/-- Where in the quotes of a fish script a place is. -/
inductive FishQuote where
  | outside
  | single
  | double
  deriving DecidableEq, Repr

/-- The quotes that are open after some text.  Between single quotes a backslash
quotes a backslash and a single quote. -/
def fishQuote : FishQuote → List Char → FishQuote
  | quote, [] => quote
  | .outside, '\\' :: _ :: rest => fishQuote .outside rest
  | .outside, '\x27' :: rest => fishQuote .single rest
  | .outside, '"' :: rest => fishQuote .double rest
  | .single, '\\' :: '\\' :: rest => fishQuote .single rest
  | .single, '\\' :: '\x27' :: rest => fishQuote .single rest
  | .single, '\x27' :: rest => fishQuote .outside rest
  | .double, '\\' :: '\\' :: rest => fishQuote .double rest
  | .double, '\\' :: '"' :: rest => fishQuote .double rest
  | .double, '"' :: rest => fishQuote .outside rest
  | quote, _ :: rest => fishQuote quote rest

/-! ## The scripts -/

/-- The lines of `FISH_INTEGRATION_SCRIPT`. -/
def fishIntegrationScript : List String := [
    "",
    "if set -q WGO_SHELL_INTEGRATION",
    "  return",
    "end",
    "set -gx WGO_SHELL_INTEGRATION 1",
    "",
    "function __wgo_escape_value --argument-names value",
    "  set value (string replace --all '\\' '\\\\' -- \"$value\")",
    "  set value (string replace --all ';' '\\x3b' -- \"$value\")",
    "  printf '%s' \"$value\"",
    "end",
    "",
    "function __wgo_esc",
    "  printf \"\\e]633;%s\\a\" (string join ';' -- $argv)",
    "end",
    "",
    "function __wgo_cmd_executed --on-event fish_preexec",
    "  __wgo_esc E (__wgo_escape_value \"$argv\")",
    "  __wgo_esc C",
    "end",
    "",
    "function __wgo_cmd_finished --on-event fish_postexec",
    "  __wgo_esc D $status",
    "end",
    "",
    "function __wgo_update_cwd --on-event fish_prompt",
    "  __wgo_esc P Cwd=(__wgo_escape_value \"$PWD\")",
    "end",
    "",
    "if functions --query fish_prompt",
    "  functions --copy fish_prompt __wgo_original_fish_prompt",
    "else",
    "  function __wgo_original_fish_prompt",
    "    printf '%s@%s %s> ' (whoami) (prompt_hostname) (prompt_pwd)",
    "  end",
    "end",
    "",
    "function fish_prompt",
    "  __wgo_esc A",
    "  __wgo_original_fish_prompt",
    "  __wgo_esc B",
    "end"]

/-- Whether a shell can read its script to the end: the quotes of the fish
script have to be closed.  The hooks that call `__wgo_update_cwd` at a prompt are
left out: that of zsh, `__wgo_precmd`, fails before at `local status`, a name that
zsh keeps to itself. -/
def ShellKind.readsScript : ShellKind → Bool
  | .fish =>
      fishQuote .outside
        (fishIntegrationScript.flatMap fun line => line.toList ++ ['\n']) =
          .outside
  | .bash | .zsh => true

/-- The expansion of a parameter in which every place of a character is
replaced. -/
def replaceAll (pattern : Char) (text replacement : List Char) : List Char :=
  text.flatMap fun character =>
    if character = pattern then replacement else [character]

/-- `__wgo_escape_value`, with the texts of the script. -/
def escapeValue (value : String) : String :=
  let value := replaceAll '\\' value.toList (unquoteDouble "\\\\\\\\".toList)
  String.ofList (replaceAll ';' value (unquoteDouble "\\\\x3b".toList))

/-- What the output of a command is replaced by. -/
def commandOutput (output : String) : String :=
  trimEndMatches (fun character => character = '\n') output

/-- `__wgo_update_cwd`: what a shell prints of its working directory, which is
nothing when it has not read its script. -/
def ShellKind.updateCwd (shell : ShellKind) (pwd : String) : List UInt8 :=
  if shell.readsScript then
    utf8 ("\x1b]633;P;Cwd=" ++ commandOutput (escapeValue pwd) ++ "\x07")
  else []

/-- The text of a script, from the characters of its lines. -/
theorem flatMap_lines {script : List String} {lines : List (List Char)}
    (spelled : List.Forall₂ (fun text line => text = String.ofList line)
      script lines) :
    (script.flatMap fun line => line.toList ++ ['\n']) =
      lines.flatMap fun line => line ++ ['\n'] := by
  induction spelled with
  | nil => rfl
  | cons same _ inductionHypothesis =>
      rw [List.flatMap_cons, List.flatMap_cons, inductionHypothesis, same,
        String.toList_ofList]

/-- The fish script ends between single quotes. -/
theorem fishIntegrationScript_ends :
    ∃ lines, List.Forall₂ (fun text line => text = String.ofList line)
        fishIntegrationScript lines ∧
      fishQuote .outside (lines.flatMap fun line => line ++ ['\n']) =
        .single := by
  apply Exists.intro
  apply And.intro
  · -- The lines are found here, and only their characters are evaluated.
    simp only [fishIntegrationScript]
    repeat (apply List.Forall₂.cons; · rfl)
    exact .nil
  · decide +kernel

/-- Fish finds no end of its script. -/
theorem fish_reads_nothing : ShellKind.fish.readsScript = false := by
  obtain ⟨lines, spelled, ends⟩ := fishIntegrationScript_ends
  rw [ShellKind.readsScript, flatMap_lines spelled, ends]
  rfl

/-! ## The arguments of bash -/

/-- How a shell is started with its integration. -/
structure IntegratedShellLaunch where
  command : String
  args : List String
  env : List (String × String)
  deriving DecidableEq, Repr

/-- A launch that is left as it is. -/
def unchanged (command : String) (args : List String) :
    IntegratedShellLaunch :=
  ⟨command, args, []⟩

/-- `str::starts_with`. -/
def startsWith (start text : String) : Bool :=
  start.toList.isPrefixOf text.toList

/-- The argument is a group of short options with the given letter in it. -/
def isShortOptionWith (arg : String) (option : Char) : Bool :=
  startsWith "-" arg && !startsWith "--" arg &&
    decide (2 < (utf8 arg).length) &&
      (arg.toList.drop 1).any (· == option)

/-- What an argument is filtered to, whether it asks for a login shell, and
whether the argument after it is skipped. -/
def filterBashArg (arg : String) : List String × Bool × Bool :=
  if arg = "--login" ∨ arg = "-l" then ([], true, false)
  else if arg = "--rcfile" ∨ arg = "--init-file" then ([], false, true)
  else if arg = "-i" then ([arg], false, false)
  else if startsWith "--rcfile=" arg || startsWith "--init-file=" arg then
    ([], false, false)
  else if isShortOptionWith arg 'l' then
    (if isShortOptionWith arg 'i' then ["-i"] else [], true, false)
  else ([arg], false, false)

/-- The loop of `filter_bash_args`. -/
def filterBashArgsFrom (skipNext : Bool) : List String → List String × Bool
  | [] => ([], false)
  | arg :: args =>
      if skipNext then filterBashArgsFrom false args
      else
        let (filtered, login, skipNext) := filterBashArg arg
        let (others, otherLogin) := filterBashArgsFrom skipNext args
        (filtered ++ others, login || otherLogin)

/-- The arguments that are left for bash, and whether it is a login shell. -/
def filterBashArgs (args : List String) : List String × Bool :=
  filterBashArgsFrom false args

/-- The launch of bash, with the path of its script if that could be written. -/
def integrateBash (script : Option String) (command : String)
    (args : List String) : IntegratedShellLaunch :=
  match script with
  | none => unchanged command args
  | some script =>
      let (filteredArgs, login) := filterBashArgs args
      { command
        args :=
          ["--init-file", script] ++
            (if filteredArgs.any (· == "-i") then [] else ["-i"]) ++
              filteredArgs
        env := if login then [("WGO_SHELL_LOGIN", "1")] else [] }

example : (filterBashArgs ["--rcfile", "a", "-il", "--norc"]) =
    (["-i", "--norc"], true) := by
  decide

end Host
end WhatsGoingOn
