import WhatsGoingOn.Host.ShellIntegration
import WhatsGoingOn.Library.ShellWords

/-!
# Quoting the path of a script

zsh and fish are made to read a script by a line of shell text that names it.
The path in that line is quoted, so that the shell reads one word out of it
whatever characters it has.
-/

namespace WhatsGoingOn
namespace Host

open ShellWords

/-! ## The lines -/

/-- Single quotes as sh reads them; a quote inside is written outside. -/
def shSingleQuote (value : String) : String :=
  "'" ++ String.ofList (replaceAll '\x27' value.toList "'\\''".toList) ++ "'"

/-- Single quotes as fish reads them, with backslashes inside. -/
def fishSingleQuote (value : String) : String :=
  let value := replaceAll '\\' value.toList "\\\\".toList
  "'" ++ String.ofList (replaceAll '\x27' value "\\'".toList) ++ "'"

example : fishSingleQuote "a\\'" = "'a\\\\\\''" :=
  rfl

/-- The `.zshrc` that `ensure_zsh_zdotdir` writes, up to the last line. -/
def zshrcStart : String :=
  "if [ -n \"$\x7bWGO_USER_ZDOTDIR:-\x7d\" ] && " ++
    "[ -r \"$\x7bWGO_USER_ZDOTDIR\x7d/.zshrc\" ]; then\n" ++
    "  source \"$\x7bWGO_USER_ZDOTDIR\x7d/.zshrc\"\n" ++
    "fi\n"

/-- The `.zshrc` that `ensure_zsh_zdotdir` writes. -/
def zshrc (script : String) : String :=
  zshrcStart ++ "source " ++ shSingleQuote script ++ "\n"

/-- The launch of fish, with the path of its script if that could be written. -/
def integrateFish (script : Option String) (command : String)
    (args : List String) : IntegratedShellLaunch :=
  match script with
  | none => unchanged command args
  | some script =>
      { command
        args := ["--init-command", "source " ++ fishSingleQuote script] ++ args
        env := [] }

/-! ## How they are read -/

/-- How `sh_single_quote` writes a character: the quotes are closed, and opened
again after a quote that a backslash quotes. -/
def shWrite (character : Char) : List Char :=
  if character = '\x27' then "'\\''".toList else [character]

/-- How fish's quotes hold one character. -/
def fishWrite (character : Char) : List Char :=
  if character = '\x27' then "\\'".toList
  else if character = '\\' then "\\\\".toList
  else [character]

theorem shSingleQuote_toList (value : String) :
    (shSingleQuote value).toList =
      '\x27' :: (value.toList.flatMap shWrite ++ ['\x27']) := by
  have writes : replaceAll '\x27' value.toList "'\\''".toList =
      value.toList.flatMap shWrite := rfl
  rw [shSingleQuote, writes]
  simp

/-- The backslashes that quote a single quote are written after those of the
value have been doubled. -/
theorem fishSingleQuote_toList (value : String) :
    (fishSingleQuote value).toList =
      '\x27' :: (value.toList.flatMap fishWrite ++ ['\x27']) := by
  have writes : ∀ character,
      ((if character = '\\' then "\\\\".toList else [character]).flatMap
        fun character =>
          if character = '\x27' then "\\'".toList else [character]) =
        fishWrite character := by
    intro character
    by_cases backslash : character = '\\'
    · subst backslash
      rfl
    · by_cases quote : character = '\x27' <;>
        simp [fishWrite, backslash, quote]
  simp only [fishSingleQuote, replaceAll, List.flatMap_assoc, writes]
  simp

theorem run_shWrite (character : Char) (letters : List Letter)
    (before : List Token) :
    (Lexer.mk .single (some letters) before).run .posix (shWrite character) =
      ⟨.single, some (letters ++ [.quoted character]), before⟩ := by
  by_cases quote : character = '\x27'
  · subst quote
    rfl
  · simp [shWrite, quote, Lexer.step, Lexer.add]

theorem run_fishWrite (character : Char) (letters : List Letter)
    (before : List Token) :
    (Lexer.mk .single (some letters) before).run .fish (fishWrite character) =
      ⟨.single, some (letters ++ [.quoted character]), before⟩ := by
  by_cases quote : character = '\x27'
  · subst quote
    rfl
  · by_cases backslash : character = '\\'
    · subst backslash
      rfl
    · simp [fishWrite, quote, backslash, Lexer.step, Lexer.add]

theorem run_shSingleQuote (value : String) (before : List Token) :
    (Lexer.mk .plain none before).run .posix (shSingleQuote value).toList =
      ⟨.plain, some (value.toList.map .quoted), before⟩ := by
  rw [shSingleQuote_toList, run_quoted .posix shWrite run_shWrite]

theorem run_fishSingleQuote (value : String) (before : List Token) :
    (Lexer.mk .plain none before).run .fish (fishSingleQuote value).toList =
      ⟨.plain, some (value.toList.map .quoted), before⟩ := by
  rw [fishSingleQuote_toList, run_quoted .fish fishWrite run_fishWrite]

theorem tokens_of_run (shell : Shell) (text : List Char) (word : List Letter)
    (before : List Token)
    (runs : Lexer.initial.run shell text = ⟨.plain, some word, before⟩) :
    tokens shell text = some (before ++ [.word word]) := by
  simp [tokens, runs, Lexer.finish]

theorem shSingleQuote_word (value : String) :
    tokens .posix (shSingleQuote value).toList =
      some [quotedWord value.toList] := by
  rw [tokens_of_run .posix _ _ [] (run_shSingleQuote value [])]
  rfl

theorem fishSingleQuote_word (value : String) :
    tokens .fish (fishSingleQuote value).toList =
      some [quotedWord value.toList] := by
  rw [tokens_of_run .fish _ _ [] (run_fishSingleQuote value [])]
  rfl

/-- What fish reads of its `--init-command`. -/
theorem initCommand_words (script : String) :
    tokens .fish ("source " ++ fishSingleQuote script).toList =
      some [plainWord "source".toList, quotedWord script.toList] := by
  have source : Lexer.initial.run .fish "source ".toList =
      ⟨.plain, none, [plainWord "source".toList]⟩ := rfl
  rw [String.toList_append, tokens_of_run .fish _
    (script.toList.map .quoted) [plainWord "source".toList]]
  · rfl
  · rw [Lexer.run_append, source, run_fishSingleQuote]

/-- The lines before the last one are read to the end of a line. -/
theorem zshrcStart_run :
    ∃ start : List Token, Lexer.initial.run .posix zshrcStart.toList =
      ⟨.plain, none, start ++ [.newline]⟩ := by
  refine ⟨(Lexer.initial.run .posix zshrcStart.toList).tokens.dropLast, ?_⟩
  set_option maxRecDepth 2000 in rfl

/-- The last line of the `.zshrc` is the only one that the path is part of. -/
theorem zshrc_words (script : String) (start : List Token)
    (reads : Lexer.initial.run .posix zshrcStart.toList =
      ⟨.plain, none, start⟩) :
    tokens .posix (zshrc script).toList =
      some (start ++
        [plainWord "source".toList, quotedWord script.toList, .newline]) := by
  have source : (Lexer.mk .plain none start).run .posix "source ".toList =
      ⟨.plain, none, start ++ [plainWord "source".toList]⟩ := rfl
  have ends : Lexer.initial.run .posix (zshrc script).toList =
      ⟨.plain, none, start ++
        [plainWord "source".toList, quotedWord script.toList, .newline]⟩ := by
    simp only [zshrc, String.toList_append, Lexer.run_append, reads, source,
      run_shSingleQuote]
    simp [Lexer.step, Lexer.stepPlain, Lexer.emit, Lexer.finish, quotedWord]
  simp [tokens, ends, Lexer.finish]

/-- A path is one word that stands for itself, in the quotes of either shell;
what zsh and fish are made to run is `source` with the path of the script as its
only argument, after lines that the path has no part in. -/
theorem script_path_is_read (script : String) :
    tokens .posix (shSingleQuote script).toList =
        some [quotedWord script.toList] ∧
      tokens .fish (fishSingleQuote script).toList =
        some [quotedWord script.toList] ∧
      (∃ start : List Token,
        tokens .posix zshrcStart.toList = some (start ++ [.newline]) ∧
          tokens .posix (zshrc script).toList =
            some (start ++ [.newline] ++
              [plainWord "source".toList, quotedWord script.toList,
                .newline])) ∧
      ∀ (command : String) (args : List String), ∃ line : String,
        (integrateFish (some script) command args).args =
            "--init-command" :: line :: args ∧
          tokens .fish line.toList =
            some [plainWord "source".toList, quotedWord script.toList] := by
  refine ⟨shSingleQuote_word script, fishSingleQuote_word script, ?_, ?_⟩
  · obtain ⟨start, reads⟩ := zshrcStart_run
    refine ⟨start, ?_, zshrc_words script _ reads⟩
    simp [tokens, reads, Lexer.finish]
  · intro command args
    exact ⟨_, rfl, initCommand_words script⟩

end Host
end WhatsGoingOn
