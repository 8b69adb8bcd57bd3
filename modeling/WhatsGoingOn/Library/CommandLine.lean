import Mathlib.Data.List.Basic

/-!
# Windows command lines

A program is given its arguments as one line, which it splits itself.  How
`CommandLineToArgvW` splits a line, and how a list of arguments is written so
that it reads the same list.
-/

namespace WhatsGoingOn
namespace CommandLine

/-- What parts the arguments of a command line. -/
def isBlank (character : Char) : Bool :=
  character == ' ' || character == '\t'

/-! ## Writing -/

/-- Without quotes an argument is empty or would be split. -/
def needsQuotes (argument : List Char) : Bool :=
  argument.isEmpty || argument.any isBlank

/-- The characters of an argument after some backslashes.  Those before a quote
are doubled, and the quote that closes the argument may be one. -/
def escapeFrom (closing : Bool) (backslashes : Nat) : List Char → List Char
  | [] => if closing then List.replicate backslashes '\\' else []
  | character :: rest =>
      if character = '\\' then
        '\\' :: escapeFrom closing (backslashes + 1) rest
      else if character = '"' then
        List.replicate (backslashes + 1) '\\' ++
          '"' :: escapeFrom closing 0 rest
      else character :: escapeFrom closing 0 rest

/-- The argument as it is written, in quotes where it needs them. -/
def quoteArgument (argument : List Char) : List Char :=
  if needsQuotes argument then
    '"' :: (escapeFrom true 0 argument ++ ['"'])
  else escapeFrom false 0 argument

/-- The path of a program is read up to the next quote, whatever is before
that. -/
def quoteProgram (program : List Char) : List Char :=
  if needsQuotes program then '"' :: (program ++ ['"']) else program

/-- The program and its arguments on one line. -/
def write (program : List Char) (arguments : List (List Char)) : List Char :=
  quoteProgram program ++
    arguments.flatMap fun argument => ' ' :: quoteArgument argument

/-! ### Arguments without a quote -/

theorem escapeFrom_false (argument : List Char) (noQuote : '"' ∉ argument)
    (backslashes : Nat) :
    escapeFrom false backslashes argument = argument := by
  induction argument generalizing backslashes with
  | nil => rfl
  | cons character rest inductionHypothesis =>
      rw [List.mem_cons, not_or] at noQuote
      have notQuote : character ≠ '"' := fun same => noQuote.1 same.symm
      by_cases backslash : character = '\\' <;>
        simp [escapeFrom, backslash, notQuote, inductionHypothesis noQuote.2]

/-- Before the closing quote the backslashes at the end of an argument are
doubled. -/
theorem escapeFrom_true (argument : List Char) (noQuote : '"' ∉ argument)
    (backslashes : Nat) :
    ∃ count : Nat,
      escapeFrom true backslashes argument =
          argument ++ List.replicate count '\\' ∧
        (count = 0 ↔
          (List.replicate backslashes '\\' ++ argument).getLast? ≠
            some '\\') := by
  induction argument generalizing backslashes with
  | nil =>
      refine ⟨backslashes, rfl, ?_⟩
      cases backslashes with
      | zero => simp
      | succ backslashes => simp [List.replicate_succ']
  | cons character rest inductionHypothesis =>
      rw [List.mem_cons, not_or] at noQuote
      have notQuote : character ≠ '"' := fun same => noQuote.1 same.symm
      by_cases backslash : character = '\\'
      · obtain ⟨count, writes, none⟩ :=
          inductionHypothesis noQuote.2 (backslashes + 1)
        refine ⟨count, by simp [escapeFrom, backslash, writes], ?_⟩
        rw [none, List.replicate_succ', backslash]
        simp
      · obtain ⟨count, writes, none⟩ := inductionHypothesis noQuote.2 0
        refine ⟨count, by simp [escapeFrom, backslash, notQuote, writes], ?_⟩
        rw [none]
        cases rest with
        | nil => simp [backslash]
        | cons next rest => simp [List.getLast?_cons_cons]

theorem quoteArgument_eq (argument : List Char) (noQuote : '"' ∉ argument) :
    ∃ count : Nat,
      quoteArgument argument =
          (if needsQuotes argument then
            '"' :: (argument ++ List.replicate count '\\' ++ ['"'])
          else argument) ∧
        (count = 0 ↔ argument.getLast? ≠ some '\\') := by
  obtain ⟨count, writes, none⟩ := escapeFrom_true argument noQuote 0
  refine ⟨count, ?_, none⟩
  rw [quoteArgument, writes, escapeFrom_false argument noQuote]

/-! ## Reading -/

/-- The argument that has been begun, the backslashes after it that are not told
yet, and the arguments before it. -/
structure Reader where
  quoted : Bool
  backslashes : Nat
  argument : Option (List Char)
  arguments : List (List Char)
  deriving DecidableEq, Repr

namespace Reader

/-- Nothing has been read. -/
def initial : Reader :=
  ⟨false, 0, none, []⟩

/-- The argument so far, with some of the backslashes that are not told yet. -/
def begun (reader : Reader) (backslashes : Nat) : List Char :=
  reader.argument.getD [] ++ List.replicate backslashes '\\'

/-- At the end of the line the backslashes and the argument are complete. -/
def finish (reader : Reader) : Reader :=
  { reader with
    backslashes := 0
    argument := none
    arguments := reader.arguments ++
      (reader.argument.map fun _ => reader.begun reader.backslashes).toList }

/-- One character.  A quote after an odd number of backslashes is a character of
the argument. -/
def step (reader : Reader) (character : Char) : Reader :=
  if character = '\\' then
    { reader with
      backslashes := reader.backslashes + 1
      argument := some (reader.begun 0) }
  else if character = '"' then
    let begun := reader.begun (reader.backslashes / 2)
    if reader.backslashes % 2 = 0 then
      { reader with
        quoted := !reader.quoted
        backslashes := 0
        argument := some begun }
    else
      { reader with backslashes := 0, argument := some (begun ++ ['"']) }
  else if isBlank character && !reader.quoted then reader.finish
  else
    { reader with
      backslashes := 0
      argument := some (reader.begun reader.backslashes ++ [character]) }

/-- The reader after a text. -/
def run (reader : Reader) (text : List Char) : Reader :=
  text.foldl step reader

end Reader

/-- The path of the program at the start of a line, and the line after it. -/
def readProgram : List Char → List Char × List Char
  | [] => ([], [])
  | character :: rest =>
      if character = '"' then
        (rest.takeWhile (· != '"'), (rest.dropWhile (· != '"')).drop 1)
      else
        ((character :: rest).takeWhile (!isBlank ·),
          (character :: rest).dropWhile (!isBlank ·))

/-- `CommandLineToArgvW`, less its rule that two quotes inside quotes are one
quote of the argument. -/
def read (line : List Char) : List (List Char) :=
  let (program, rest) := readProgram line
  program :: (Reader.initial.run rest).finish.arguments

example : (read "\"a b\\\" c\\\\d \"e\\\\\\\"f\" \"\"".toList) =
    ["a b\\".toList, "c\\\\d".toList, "e\\\"f".toList, []] := by
  rfl

/-! ## What is written is read -/

namespace Reader

@[simp] theorem run_nil (reader : Reader) : reader.run [] = reader :=
  rfl

@[simp] theorem run_cons (reader : Reader) (character : Char)
    (text : List Char) :
    reader.run (character :: text) = (reader.step character).run text :=
  rfl

theorem run_append (reader : Reader) (first second : List Char) :
    reader.run (first ++ second) = (reader.run first).run second :=
  List.foldl_append

/-- Backslashes are counted until it is known what they stand for. -/
theorem run_replicate (quoted : Bool) (backslashes count : Nat)
    (argument : List Char) (before : List (List Char)) :
    (Reader.mk quoted backslashes (some argument) before).run
        (List.replicate count '\\') =
      ⟨quoted, backslashes + count, some argument, before⟩ := by
  induction count generalizing backslashes with
  | zero => rfl
  | succ count inductionHypothesis =>
      have steps : (Reader.mk quoted backslashes (some argument) before).step
          '\\' = ⟨quoted, backslashes + 1, some argument, before⟩ := by
        simp [step, begun]
      rw [List.replicate_succ, run_cons, steps, inductionHypothesis]
      congr 1
      omega

/-- What is written of an argument is read as that argument.  The backslashes at
its end are not told yet: there are twice as many when a quote is to follow. -/
theorem run_escapeFrom (closing quoted : Bool) (text : List Char)
    (notSplit : quoted = true ∨ text.any isBlank = false)
    (backslashes : Nat) (argument : List Char) (before : List (List Char)) :
    ∃ (read : List Char) (count : Nat),
      (Reader.mk quoted backslashes (some argument) before).run
          (escapeFrom closing backslashes text) =
        ⟨quoted, if closing then 2 * count else count, some read, before⟩ ∧
      read ++ List.replicate count '\\' =
        argument ++ List.replicate backslashes '\\' ++ text := by
  induction text generalizing backslashes argument with
  | nil =>
      refine ⟨argument, backslashes, ?_, by simp⟩
      cases closing with
      | false => rfl
      | true =>
          simp only [escapeFrom, if_true, run_replicate]
          congr 1
          omega
  | cons character rest inductionHypothesis =>
      have restNotSplit : quoted = true ∨ rest.any isBlank = false := by
        rcases notSplit with isQuoted | noBlank
        · exact Or.inl isQuoted
        · rw [List.any_cons, Bool.or_eq_false_iff] at noBlank
          exact Or.inr noBlank.2
      have continues := inductionHypothesis restNotSplit
      by_cases backslash : character = '\\'
      · subst backslash
        obtain ⟨read, count, runs, reads⟩ :=
          continues (backslashes + 1) argument
        refine ⟨read, count, ?_, ?_⟩
        · simpa [escapeFrom, step, begun] using runs
        · rw [reads, List.replicate_succ']
          simp
      by_cases quote : character = '"'
      · subst quote
        obtain ⟨read, count, runs, reads⟩ := continues 0
          (argument ++ List.replicate backslashes '\\' ++ ['"'])
        refine ⟨read, count, ?_, ?_⟩
        · have odd : (backslashes + (backslashes + 1)) % 2 = 1 := by omega
          have half : (backslashes + (backslashes + 1)) / 2 = backslashes := by
            omega
          have steps : (Reader.mk quoted (backslashes + (backslashes + 1))
              (some argument) before).step '"' =
              ⟨quoted, 0, some (argument ++ List.replicate backslashes '\\' ++
                ['"']), before⟩ := by
            simp [step, begun, odd, half]
          simp only [escapeFrom, backslash, if_false, if_true, run_append,
            run_replicate, run_cons, steps]
          exact runs
        · rw [reads]
          simp
      · obtain ⟨read, count, runs, reads⟩ := continues 0
          (argument ++ List.replicate backslashes '\\' ++ [character])
        refine ⟨read, count, ?_, ?_⟩
        · have inArgument : (isBlank character && !quoted) = false := by
            rcases notSplit with isQuoted | noBlank
            · simp [isQuoted]
            · rw [List.any_cons, Bool.or_eq_false_iff] at noBlank
              simp [noBlank.1]
          have steps : (Reader.mk quoted backslashes (some argument)
              before).step character =
              ⟨quoted, 0, some (argument ++ List.replicate backslashes '\\' ++
                [character]), before⟩ := by
            simp [step, begun, backslash, quote, inArgument]
          simp only [escapeFrom, backslash, quote, if_false, run_cons, steps]
          exact runs
        · rw [reads]
          simp

/-- An argument has been begun by any character that is no blank. -/
theorem step_none (character : Char) (notBlank : isBlank character = false)
    (before : List (List Char)) :
    (Reader.mk false 0 none before).step character =
      (Reader.mk false 0 (some []) before).step character := by
  simp [step, begun, notBlank]

theorem escapeFrom_cons (character : Char) (rest : List Char)
    (notBlank : isBlank character = false) :
    ∃ (first : Char) (others : List Char),
      escapeFrom false 0 (character :: rest) = first :: others ∧
        isBlank first = false := by
  by_cases backslash : character = '\\'
  · exact ⟨_, _, by rw [escapeFrom, if_pos backslash], rfl⟩
  by_cases quote : character = '"'
  · exact ⟨_, _, by rw [escapeFrom, if_neg backslash, if_pos quote]; rfl, rfl⟩
  · exact ⟨_, _, by rw [escapeFrom, if_neg backslash, if_neg quote], notBlank⟩

/-- An argument that was quoted is read back. -/
theorem run_quoteArgument (argument : List Char) (before : List (List Char)) :
    ((Reader.mk false 0 none before).run (quoteArgument argument)).quoted =
        false ∧
      ((Reader.mk false 0 none before).run (quoteArgument argument)).finish =
        ⟨false, 0, none, before ++ [argument]⟩ := by
  by_cases quotes : needsQuotes argument = true
  · obtain ⟨read, count, runs, reads⟩ :=
      run_escapeFrom true true argument (Or.inl rfl) 0 [] before
    have opens : (Reader.mk false 0 none before).step '"' =
        ⟨true, 0, some [], before⟩ := by
      simp [step, begun]
    have closes : (Reader.mk true (2 * count) (some read) before).step '"' =
        ⟨false, 0, some (read ++ List.replicate count '\\'), before⟩ := by
      simp [step, begun]
    have all : (Reader.mk false 0 none before).run (quoteArgument argument) =
        ⟨false, 0, some argument, before⟩ := by
      rw [quoteArgument, if_pos quotes, run_cons, opens, run_append, runs,
        if_pos rfl, run_cons, closes, reads]
      rfl
    rw [all]
    simp [finish, begun]
  · rw [needsQuotes, Bool.or_eq_true, not_or, Bool.not_eq_true,
      Bool.not_eq_true] at quotes
    obtain ⟨notEmpty, noBlank⟩ := quotes
    obtain ⟨read, count, runs, reads⟩ :=
      run_escapeFrom false false argument (Or.inr noBlank) 0 [] before
    cases argument with
    | nil => simp at notEmpty
    | cons character rest =>
        rw [List.any_cons, Bool.or_eq_false_iff] at noBlank
        obtain ⟨first, others, writes, firstNotBlank⟩ :=
          escapeFrom_cons character rest noBlank.1
        have all : (Reader.mk false 0 none before).run
            (quoteArgument (character :: rest)) =
              ⟨false, count, some read, before⟩ := by
          rw [quoteArgument, if_neg (by
            simp [needsQuotes, noBlank.1, noBlank.2])]
          rw [writes, run_cons] at runs ⊢
          rw [step_none first firstNotBlank, runs]
          rfl
        rw [all]
        simp [finish, begun, reads]

/-- Arguments that were quoted are read back one after the other. -/
theorem run_arguments (reader : Reader) (unquoted : reader.quoted = false)
    (arguments : List (List Char)) :
    (reader.run (arguments.flatMap fun argument =>
      ' ' :: quoteArgument argument)).finish.arguments =
        reader.finish.arguments ++ arguments := by
  induction arguments generalizing reader with
  | nil => simp
  | cons argument arguments inductionHypothesis =>
      have separates : reader.step ' ' =
          ⟨false, 0, none, reader.finish.arguments⟩ := by
        simp [step, isBlank, finish, unquoted]
      obtain ⟨stillUnquoted, finished⟩ :=
        run_quoteArgument argument reader.finish.arguments
      rw [List.flatMap_cons, run_append, run_cons, separates,
        inductionHypothesis _ stillUnquoted, finished]
      simp

end Reader

/-- A program that was quoted is read back. -/
theorem readProgram_quoteProgram (program : List Char)
    (noQuote : '"' ∉ program) (rest : List Char)
    (separated : ∀ character ∈ rest.head?, isBlank character = true) :
    readProgram (quoteProgram program ++ rest) = (program, rest) := by
  by_cases quotes : needsQuotes program = true
  · have noneIsQuote : ∀ character ∈ program, (character != '"') = true := by
      intro character member
      rw [bne_iff_ne]
      exact fun same => noQuote (same ▸ member)
    simp [quoteProgram, quotes, readProgram,
      List.takeWhile_append_of_pos noneIsQuote,
      List.dropWhile_append_of_pos noneIsQuote]
  · rw [needsQuotes, Bool.or_eq_true, not_or, Bool.not_eq_true,
      Bool.not_eq_true] at quotes
    obtain ⟨notEmpty, noBlank⟩ := quotes
    have noneIsBlank : ∀ character ∈ program, (!isBlank character) = true := by
      intro character member
      rw [List.any_eq_false] at noBlank
      simpa using noBlank character member
    have stops : rest.takeWhile (!isBlank ·) = [] ∧
        rest.dropWhile (!isBlank ·) = rest := by
      cases rest with
      | nil => simp
      | cons character rest =>
          have blank := separated character rfl
          simp [blank]
    cases program with
    | nil => simp at notEmpty
    | cons character others =>
        have notQuote : character ≠ '"' := by
          rintro rfl
          exact noQuote List.mem_cons_self
        rw [quoteProgram, if_neg (by simp [needsQuotes, noBlank]),
          List.cons_append, readProgram, if_neg notQuote, ← List.cons_append,
          List.takeWhile_append_of_pos noneIsBlank,
          List.dropWhile_append_of_pos noneIsBlank, stops.1, stops.2,
          List.append_nil]

/-- A line that has been written for a list is read as that list. -/
theorem read_write (program : List Char) (noQuote : '"' ∉ program)
    (arguments : List (List Char)) :
    read (write program arguments) = program :: arguments := by
  have separated : ∀ character ∈ (arguments.flatMap fun argument =>
      ' ' :: quoteArgument argument).head?, isBlank character = true := by
    cases arguments with
    | nil => simp
    | cons argument arguments =>
        intro character head
        cases head
        rfl
  rw [read, write, readProgram_quoteProgram program noQuote _ separated]
  exact congrArg (program :: ·)
    (Reader.run_arguments Reader.initial rfl arguments)

end CommandLine
end WhatsGoingOn
