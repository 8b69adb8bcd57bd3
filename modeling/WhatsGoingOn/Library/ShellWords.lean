import Mathlib.Data.List.Basic

/-!
# The words of a shell

How a line is split into words and operators by the rules of quoting of the
POSIX shells and of fish.  Of each character of a word it is told whether it is
quoted: one that is stands for itself.
-/

namespace WhatsGoingOn
namespace ShellWords

/-! ## Lexers -/

/-- The shells, by their rules of quoting. -/
inductive Shell where
  | posix
  | fish
  deriving DecidableEq, Repr

/-- A character of a word.  What is not quoted may be expanded. -/
inductive Letter where
  | quoted (character : Char)
  | plain (character : Char)
  deriving DecidableEq, Repr

/-- A word, an operator or the end of a line. -/
inductive Token where
  | word (letters : List Letter)
  | operator (character : Char)
  | newline
  deriving DecidableEq, Repr

/-- How the next character is read. -/
inductive Mode where
  | plain
  | escaped
  | single
  | singleEscaped
  | double
  | doubleEscaped
  | comment
  | failed
  deriving DecidableEq, Repr

/-- A lexer, with the word that has been begun and the tokens before it. -/
structure Lexer where
  mode : Mode
  word : Option (List Letter)
  tokens : List Token
  deriving DecidableEq, Repr

namespace Lexer

/-- Nothing has been read. -/
def initial : Lexer :=
  ⟨.plain, none, []⟩

/-- Goes on to read in another mode, in a word. -/
def enter (lexer : Lexer) (mode : Mode) : Lexer :=
  { lexer with mode, word := some (lexer.word.getD []) }

/-- Adds letters to the word, and reads on in a mode. -/
def add (lexer : Lexer) (mode : Mode) (letters : List Letter) : Lexer :=
  { lexer with mode, word := some (lexer.word.getD [] ++ letters) }

/-- Ends the word that has been begun, if one has. -/
def finish (lexer : Lexer) : Lexer :=
  { lexer with
    word := none
    tokens := lexer.tokens ++ (lexer.word.map Token.word).toList }

/-- The word that was open is complete, and the token follows it. -/
def emit (lexer : Lexer) (token : Token) : Lexer :=
  { lexer.finish with
    mode := .plain
    tokens := lexer.finish.tokens ++ [token] }

/-- The characters that end a word and stand for themselves. -/
def isOperator (character : Char) : Bool :=
  character == ';' || character == '&' || character == '|' ||
    character == '<' || character == '>' || character == '(' ||
      character == ')'

/-- A character outside of quotes. -/
def stepPlain (lexer : Lexer) (character : Char) : Lexer :=
  if character = '\x27' then lexer.enter .single
  else if character = '"' then lexer.enter .double
  else if character = '\\' then { lexer with mode := .escaped }
  else if character = ' ' ∨ character = '\t' then lexer.finish
  else if character = '\n' then lexer.emit .newline
  else if isOperator character then lexer.emit (.operator character)
  else if character = '#' ∧ lexer.word = none then
    { lexer with mode := .comment }
  else lexer.add .plain [.plain character]

/-- A character after a backslash outside of quotes.  In fish the letters and
digits there stand for other characters, which are not read here. -/
def stepEscaped (shell : Shell) (lexer : Lexer) (character : Char) : Lexer :=
  if character = '\n' then { lexer with mode := .plain }
  else if shell = .fish ∧ character.isAlphanum = true then
    { lexer with mode := .failed }
  else lexer.add .plain [.quoted character]

/-- A character between double quotes, where a parameter is still expanded. -/
def stepDouble (lexer : Lexer) (character : Char) : Lexer :=
  if character = '"' then { lexer with mode := .plain }
  else if character = '\\' then { lexer with mode := .doubleEscaped }
  else if character = '$' ∨ character = '\x60' then
    lexer.add .double [.plain character]
  else lexer.add .double [.quoted character]

/-- What a backslash does inside double quotes. -/
def stepDoubleEscaped (shell : Shell) (lexer : Lexer) (character : Char) :
    Lexer :=
  if character = '\n' then { lexer with mode := .double }
  else if character = '\\' ∨ character = '"' ∨ character = '$' ∨
      shell = .posix ∧ character = '\x60' then
    lexer.add .double [.quoted character]
  else lexer.add .double [.quoted '\\', .quoted character]

/-- One character. -/
def step (shell : Shell) (lexer : Lexer) (character : Char) : Lexer :=
  match lexer.mode with
  | .plain => lexer.stepPlain character
  | .escaped => lexer.stepEscaped shell character
  | .single =>
      if character = '\x27' then { lexer with mode := .plain }
      else if shell = .fish ∧ character = '\\' then
        { lexer with mode := .singleEscaped }
      else lexer.add .single [.quoted character]
  | .singleEscaped =>
      -- only a backslash and a single quote are quoted between single quotes
      if character = '\\' ∨ character = '\x27' then
        lexer.add .single [.quoted character]
      else lexer.add .single [.quoted '\\', .quoted character]
  | .double => lexer.stepDouble character
  | .doubleEscaped => lexer.stepDoubleEscaped shell character
  | .comment =>
      if character = '\n' then lexer.emit .newline else lexer
  | .failed => lexer

/-- The lexer after a text. -/
def run (shell : Shell) (lexer : Lexer) (text : List Char) : Lexer :=
  text.foldl (step shell) lexer

@[simp] theorem run_nil (shell : Shell) (lexer : Lexer) :
    lexer.run shell [] = lexer :=
  rfl

@[simp] theorem run_cons (shell : Shell) (lexer : Lexer) (character : Char)
    (text : List Char) :
    lexer.run shell (character :: text) =
      (lexer.step shell character).run shell text :=
  rfl

theorem run_append (shell : Shell) (lexer : Lexer)
    (first second : List Char) :
    lexer.run shell (first ++ second) =
      (lexer.run shell first).run shell second :=
  List.foldl_append

/-- A way to write every character between single quotes quotes every text: the
word grows by its characters, and the quotes are still open. -/
theorem run_flatMap_single (shell : Shell) (write : Char → List Char)
    (writes : ∀ character letters tokens,
      (Lexer.mk .single (some letters) tokens).run shell (write character) =
        ⟨.single, some (letters ++ [.quoted character]), tokens⟩)
    (text : List Char) (letters : List Letter) (tokens : List Token) :
    (Lexer.mk .single (some letters) tokens).run shell (text.flatMap write) =
      ⟨.single, some (letters ++ text.map .quoted), tokens⟩ := by
  induction text generalizing letters with
  | nil => simp
  | cons character text inductionHypothesis =>
      rw [List.flatMap_cons, run_append, writes, inductionHypothesis]
      simp

end Lexer

/-- The tokens of a text, unless it ends between quotes or after a backslash. -/
def tokens (shell : Shell) (text : List Char) : Option (List Token) :=
  let lexer := Lexer.initial.run shell text
  if lexer.mode = .plain ∨ lexer.mode = .comment then
    some lexer.finish.tokens
  else none

/-- A word that stands for a text whatever its characters are. -/
def quotedWord (text : List Char) : Token :=
  .word (text.map .quoted)

/-- A word without quotes. -/
def plainWord (text : List Char) : Token :=
  .word (text.map .plain)

/-- A text between single quotes is one more word after a place between words,
when every character is written so that it stands for itself. -/
theorem run_quoted (shell : Shell) (write : Char → List Char)
    (writes : ∀ character letters tokens,
      (Lexer.mk .single (some letters) tokens).run shell (write character) =
        ⟨.single, some (letters ++ [.quoted character]), tokens⟩)
    (text : List Char) (before : List Token) :
    (Lexer.mk .plain none before).run shell
        ('\x27' :: (text.flatMap write ++ ['\x27'])) =
      ⟨.plain, some (text.map .quoted), before⟩ := by
  have opens : (Lexer.mk .plain none before).step shell '\x27' =
      ⟨.single, some [], before⟩ := rfl
  rw [Lexer.run_cons, opens, Lexer.run_append,
    Lexer.run_flatMap_single shell write writes]
  rfl

end ShellWords
end WhatsGoingOn
