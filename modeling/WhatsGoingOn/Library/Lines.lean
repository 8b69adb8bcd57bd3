import WhatsGoingOn.Library.Text

/-!
# Lines of a text

A text that is read line by line, as the Rust standard library splits it.  The
lines that were written with an end after each of them are read back, without
a carriage return before an end, and a part of such a text that ends with a
line is made of the first lines.
-/

namespace WhatsGoingOn
namespace Text

/-- A line without the carriage return at its end. -/
def stripReturn (line : List Char) : List Char :=
  if line.getLast? = some '\r' then line.dropLast else line

/-- The lines of a text after a part of its first line.  What follows the last
end of a line is a line, unless it is empty. -/
def linesFrom (line : List Char) : List Char → List (List Char)
  | [] => if line = [] then [] else [line]
  | character :: rest =>
      if character = '\n' then stripReturn line :: linesFrom [] rest
      else linesFrom (line ++ [character]) rest

/-- `str::lines`. -/
def lines (text : String) : List String :=
  (linesFrom [] text.toList).map String.ofList

/-- The text of lines, with an end after each of them. -/
def unlines (lines : List String) : List Char :=
  lines.flatMap fun line => line.toList ++ ['\n']

@[simp] theorem unlines_nil : unlines [] = [] := rfl

@[simp] theorem unlines_cons (line : String) (rest : List String) :
    unlines (line :: rest) = line.toList ++ '\n' :: unlines rest := by
  simp [unlines]

theorem unlines_append (first second : List String) :
    unlines (first ++ second) = unlines first ++ unlines second :=
  List.flatMap_append

example : lines "a\r\n\nb\r" = ["a", "", "b\r"] := by decide

/-! ## Reading lines that were written -/

/-- A line as it is read when it was written with an end after it. -/
def withoutReturn (line : String) : String :=
  String.ofList (stripReturn line.toList)

/-- What a line loses is a carriage return. -/
theorem mem_withoutReturn {line : String} {character : Char}
    (member : character ∈ line.toList) :
    character ∈ (withoutReturn line).toList ∨ character = '\r' := by
  rw [withoutReturn, String.toList_ofList, stripReturn]
  split
  · rename_i last
    obtain ⟨front, same⟩ := List.getLast?_eq_some_iff.mp last
    rw [same, List.mem_append, List.mem_singleton] at member
    rw [same, List.dropLast_concat]
    exact member
  · exact .inl member

theorem linesFrom_line (before line rest : List Char)
    (noBreak : '\n' ∉ line) :
    linesFrom before (line ++ '\n' :: rest) =
      stripReturn (before ++ line) :: linesFrom [] rest := by
  induction line generalizing before with
  | nil => simp [linesFrom]
  | cons character line inductionHypothesis =>
      rw [List.mem_cons, not_or] at noBreak
      obtain ⟨notEnd, noBreak⟩ := noBreak
      rw [List.cons_append, linesFrom, if_neg (Ne.symm notEnd),
        inductionHypothesis _ noBreak, List.append_assoc, List.singleton_append]

/-- Lines are read back, each without a carriage return at its end. -/
theorem lines_eq {text : String} {written : List String}
    (same : text.toList = unlines written)
    (noBreak : ∀ line ∈ written, '\n' ∉ line.toList) :
    lines text = written.map withoutReturn := by
  rw [lines, same]
  clear same
  induction written with
  | nil => rfl
  | cons line written inductionHypothesis =>
      rw [unlines_cons, linesFrom_line _ _ _ (noBreak line (.head _)),
        List.map_cons, List.map_cons,
        inductionHypothesis fun other member => noBreak other (.tail _ member)]
      rfl

/-! ## Plain lines -/

/-- A text of one line without a carriage return. -/
def IsPlain (line : String) : Prop :=
  '\n' ∉ line.toList ∧ '\r' ∉ line.toList

theorem isPlain_of_all {line : String}
    (all : (line.toList.all fun character =>
      character != '\n' && character != '\r') = true) :
    IsPlain line := by
  rw [List.all_eq_true] at all
  constructor
  all_goals
    intro member
    exact absurd (all _ member) (by decide)

theorem IsPlain.withoutReturn {line : String} (plain : IsPlain line) :
    withoutReturn line = line := by
  have kept : stripReturn line.toList = line.toList := by
    unfold stripReturn
    rw [if_neg]
    intro last
    exact plain.2 (List.mem_of_getLast? last)
  rw [Text.withoutReturn, kept, String.ofList_toList]

theorem map_withoutReturn {lines : List String}
    (plain : ∀ line ∈ lines, IsPlain line) :
    lines.map withoutReturn = lines := by
  conv_rhs => rw [← List.map_id lines]
  exact List.map_congr_left fun line member => (plain line member).withoutReturn

/-! ## Parts of a text -/

theorem endsWith_newline_iff (text : String) :
    endsWith "\n" text = true ↔ ['\n'] <:+ text.toList := by
  simp [endsWith]

theorem endsWith_newline {text : String} {written : List String}
    (same : text.toList = unlines written) (nonempty : written ≠ []) :
    endsWith "\n" text = true := by
  have split := List.dropLast_concat_getLast nonempty
  rw [endsWith_newline_iff, same, ← split, unlines_append, unlines_cons,
    unlines_nil]
  exact (List.suffix_append _ _).trans
    (List.suffix_append (unlines written.dropLast) _)

/-- A part of a text that ends with a line is made of first lines of it. -/
theorem eq_unlines_take {part : List Char} {lines : List String}
    (noBreak : ∀ line ∈ lines, '\n' ∉ line.toList)
    (initial : part <+: unlines lines) (ends : ['\n'] <:+ part) :
    ∃ count < lines.length, part = unlines (lines.take (count + 1)) := by
  have breaks : ∀ {ending : List Char}, ['\n'] <:+ ending → '\n' ∈ ending :=
    fun suffix => suffix.subset (List.mem_singleton_self _)
  induction lines generalizing part with
  | nil =>
      rw [unlines_nil, List.prefix_nil] at initial
      simp [initial] at ends
  | cons line lines inductionHypothesis =>
      have noBreakLine := noBreak line (.head _)
      obtain ⟨missing, same⟩ := initial
      rw [unlines_cons] at same
      rcases List.append_eq_append_iff.mp same with
        ⟨more, within, -⟩ | ⟨more, rfl, others⟩
      · -- The part would end within the first line.
        rw [within] at noBreakLine
        exact absurd (List.mem_append_left _ (breaks ends)) noBreakLine
      · cases more with
        | nil =>
            rw [List.append_nil] at ends
            exact absurd (breaks ends) noBreakLine
        | cons character rest =>
            rw [List.cons_append] at others
            obtain ⟨rfl, following⟩ := List.cons_eq_cons.mp others
            rcases List.eq_nil_or_concat rest with rfl | ⟨front, last, rfl⟩
            · exact ⟨0, Nat.succ_pos _, by simp⟩
            · have endsRest : ['\n'] <:+ front ++ [last] := by
                refine List.suffix_of_suffix_length_le ends
                  ⟨line.toList ++ ['\n'], by simp⟩ (by simp)
              obtain ⟨count, within, taken⟩ := inductionHypothesis
                (fun other member => noBreak other (.tail _ member))
                ⟨missing, by simpa using following.symm⟩ endsRest
              refine ⟨count + 1, Nat.succ_lt_succ within, ?_⟩
              rw [List.take_succ_cons, unlines_cons, ← taken,
                List.concat_eq_append]

/-- The lines of a part of a text that is not all of it. -/
theorem lines_of_part {text part : String} {written : List String}
    (same : text.toList = unlines written)
    (noBreak : ∀ line ∈ written, '\n' ∉ line.toList)
    (initial : part.toList <+: text.toList) (strict : part ≠ text)
    (ends : endsWith "\n" part = true) :
    ∃ count, count + 1 < written.length ∧
      part.toList = unlines (written.take (count + 1)) ∧
      lines part = (written.take (count + 1)).map withoutReturn := by
  rw [same] at initial
  obtain ⟨count, within, taken⟩ := eq_unlines_take noBreak initial
    ((endsWith_newline_iff part).mp ends)
  have missing : count + 1 ≠ written.length := by
    intro all
    rw [all, List.take_length, ← same] at taken
    exact strict (String.toList_inj.mp taken)
  refine ⟨count, by omega, taken, lines_eq taken ?_⟩
  intro line member
  exact noBreak line (List.mem_of_mem_take member)

end Text
end WhatsGoingOn
