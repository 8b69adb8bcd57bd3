import Mathlib.Data.List.DropRight
import WhatsGoingOn.Host.ShellIntegration
import WhatsGoingOn.Host.TerminalStrings

/-!
# The working directory that a shell tells

A shell escapes the backslashes and semicolons of a path, and the parser undoes
that.  Bells and escapes are not escaped, white space at the ends is trimmed,
and fish does not read its script.
-/

namespace WhatsGoingOn
namespace Host

open Bytes Text TerminalMetadataParser

/-! ## Escaping -/

/-- What a character of a path is escaped to. -/
def escapeChar (character : Char) : List Char :=
  if character = '\\' then ['\\', '\\']
  else if character = ';' then ['\\', 'x', '3', 'b']
  else [character]

/-- The bytes that characters are escaped to. -/
def escapedBytes (characters : List Char) : List UInt8 :=
  (characters.flatMap escapeChar).flatMap String.utf8EncodeChar

/-- A text is escaped character by character. -/
theorem escapeValue_toList (value : String) :
    (escapeValue value).toList = value.toList.flatMap escapeChar := by
  have backslashes : unquoteDouble "\\\\\\\\".toList = ['\\', '\\'] := by
    decide
  have semicolon : unquoteDouble "\\\\x3b".toList = ['\\', 'x', '3', 'b'] := by
    decide
  rw [escapeValue, String.toList_ofList]
  rw [backslashes, semicolon, replaceAll, replaceAll, List.flatMap_assoc]
  congr 1
  funext character
  unfold escapeChar
  split
  · rfl
  · rw [List.flatMap_singleton]

theorem utf8_escapeValue (value : String) :
    utf8 (escapeValue value) = escapedBytes value.toList := by
  rw [utf8_eq, escapeValue_toList]
  rfl

theorem escapedBytes_append (early late : List Char) :
    escapedBytes (early ++ late) = escapedBytes early ++ escapedBytes late := by
  simp [escapedBytes]

theorem escapedBytes_cons (character : Char) (characters : List Char) :
    escapedBytes (character :: characters) =
      (escapeChar character).flatMap String.utf8EncodeChar ++
        escapedBytes characters := by
  simp [escapedBytes]

section Escape

variable {character : Char} {characters : List Char}

/-- Only two characters are escaped. -/
theorem escapeChar_plain (notBackslash : character ≠ '\\')
    (notSemicolon : character ≠ ';') :
    escapeChar character = [character] := by
  rw [escapeChar, if_neg notBackslash, if_neg notSemicolon]

/-- Bytes without a backslash are left as they are. -/
theorem unescapeOsc633Bytes_plain {bytes : List UInt8}
    (plain : 92 ∉ bytes) (rest : List UInt8) :
    unescapeOsc633Bytes (bytes ++ rest) =
      bytes ++ unescapeOsc633Bytes rest := by
  induction bytes with
  | nil => rfl
  | cons byte bytes inductionHypothesis =>
      rw [List.mem_cons, not_or] at plain
      rw [List.cons_append, unescapeOsc633Bytes, inductionHypothesis plain.2,
        List.cons_append]
      · rintro rest rfl
        exact absurd rfl plain.1
      · rintro high low rest rfl
        exact absurd rfl plain.1

/-- A character has no byte of another one that is ASCII. -/
theorem not_mem_utf8EncodeChar {byte : UInt8} {other : Char}
    (isOther : byte.toNat = other.toNat) (ascii : byte < 0x80)
    (different : character ≠ other) :
    byte ∉ String.utf8EncodeChar character := by
  intro member
  rcases mem_utf8EncodeChar member with same | high
  · exact different (Char.toNat_inj.mp (same.symm.trans isOther))
  · exact absurd ascii (UInt8.not_lt.mpr high)

/-- Escaped bytes are unescaped. -/
theorem unescape_escapedBytes (characters : List Char) :
    unescapeOsc633Bytes (escapedBytes characters) =
      characters.flatMap String.utf8EncodeChar := by
  induction characters with
  | nil => simp [escapedBytes, unescapeOsc633Bytes]
  | cons character characters inductionHypothesis =>
      rw [escapedBytes_cons, List.flatMap_cons, ← inductionHypothesis]
      by_cases backslash : character = '\\'
      · subst backslash
        have escaped : (escapeChar '\\').flatMap String.utf8EncodeChar =
            [92, 92] := by
          decide
        have bytes : String.utf8EncodeChar '\\' = [92] := by decide
        rw [escaped, bytes]
        rfl
      · by_cases semicolon : character = ';'
        · subst semicolon
          have escaped : (escapeChar ';').flatMap String.utf8EncodeChar =
              [92, 120, 51, 98] := by
            decide
          have bytes : String.utf8EncodeChar ';' = [59] := by decide
          rw [escaped, bytes]
          rfl
        · rw [escapeChar_plain backslash semicolon, List.flatMap_singleton,
            unescapeOsc633Bytes_plain]
          exact not_mem_utf8EncodeChar rfl (by decide) backslash

/-- Every text is escaped so that it is unescaped to itself. -/
theorem unescape_escapeValue (value : String) :
    unescapeOsc633Value (escapeValue value) = value := by
  rw [unescapeOsc633Value, utf8_escapeValue, unescape_escapedBytes, ← utf8_eq,
    fromUtf8Lossy_utf8]

end Escape

/-! ## Characters that are not escaped -/

/-- Whether a path has no bell outside pairs of an escape and a character, does
not end inside such a pair, and has none that becomes a terminator. -/
def inert : List Char → Bool
  | [] => true
  | [character] => character != '\x1b' && character != '\x07'
  | character :: next :: rest =>
      if character = '\x1b' then next != '\\' && next != ';' && inert rest
      else character != '\x07' && inert (next :: rest)

/-- Whether some bytes of a string neither end it nor end in a pair. -/
def inertBytes : List UInt8 → Bool
  | [] => true
  | [byte] => byte != 0x1b && byte != 0x07
  | byte :: next :: rest =>
      if byte = 0x1b then next != 92 && inertBytes rest
      else byte != 0x07 && inertBytes (next :: rest)

section Inert

variable {character : Char} {characters : List Char}
  {windows : Bool} {opened content bytes rest read : List UInt8}

theorem inert_cons (notEscape : character ≠ '\x1b')
    (notBell : character ≠ '\x07') :
    inert (character :: characters) = inert characters := by
  cases characters with
  | nil => simp [inert, notEscape, notBell]
  | cons next characters => simp [inert, notEscape, notBell]

/-- Where a path that is not inert ends the string or is ended. -/
theorem exists_of_not_inert (notInert : inert characters = false) :
    ∃ before, inert before = true ∧
      ((∃ after, characters = before ++ '\x07' :: after) ∨
        (∃ next after, (next = '\\' ∨ next = ';') ∧
          characters = before ++ '\x1b' :: next :: after) ∨
        characters = before ++ ['\x1b']) := by
  induction characters using inert.induct with
  | case1 => cases notInert
  | case2 character =>
      refine ⟨[], rfl, ?_⟩
      by_cases escape : character = '\x1b'
      · exact Or.inr (Or.inr (by rw [escape]; rfl))
      · have bell : character = '\x07' := by
          simpa [inert, escape] using notInert
        exact Or.inl ⟨[], by rw [bell]; rfl⟩
  | case3 next rest inductionHypothesis =>
      by_cases ends : next = '\\' ∨ next = ';'
      · exact ⟨[], rfl, Or.inr (Or.inl ⟨next, rest, ends, rfl⟩)⟩
      · rw [not_or] at ends
        obtain ⟨before, isInert, shape⟩ := inductionHypothesis
          (by simpa [inert, ends.1, ends.2] using notInert)
        refine ⟨'\x1b' :: next :: before, ?_, ?_⟩
        · simp [inert, ends.1, ends.2, isInert]
        · rcases shape with ⟨after, rfl⟩ | ⟨last, after, isLast, rfl⟩ | rfl
          · exact Or.inl ⟨after, rfl⟩
          · exact Or.inr (Or.inl ⟨last, after, isLast, rfl⟩)
          · exact Or.inr (Or.inr rfl)
  | case4 character next rest notEscape inductionHypothesis =>
      by_cases bell : character = '\x07'
      · exact ⟨[], rfl, Or.inl ⟨next :: rest, by rw [bell]; rfl⟩⟩
      · obtain ⟨before, isInert, shape⟩ := inductionHypothesis
          (by simpa [inert, notEscape, bell] using notInert)
        refine ⟨character :: before, ?_, ?_⟩
        · rw [inert_cons notEscape bell, isInert]
        · rcases shape with ⟨after, same⟩ | ⟨last, after, isLast, same⟩ | same
          · exact Or.inl ⟨after, by rw [same]; rfl⟩
          · exact Or.inr (Or.inl ⟨last, after, isLast, by rw [same]; rfl⟩)
          · exact Or.inr (Or.inr (by rw [same]; rfl))

theorem inertBytes_append
    (plain : ∀ byte ∈ bytes, byte ≠ 0x1b ∧ byte ≠ 0x07) :
    inertBytes (bytes ++ rest) = inertBytes rest := by
  induction bytes with
  | nil => rfl
  | cons byte bytes inductionHypothesis =>
      obtain ⟨⟨notEscape, notBell⟩, plain⟩ := List.forall_mem_cons.mp plain
      rw [← inductionHypothesis plain, List.cons_append]
      cases bytes ++ rest with
      | nil => simp [inertBytes, notEscape, notBell]
      | cons next more => simp [inertBytes, notEscape, notBell]

/-- A character that neither is an escape nor a bell has no byte of one. -/
theorem plain_escapeChar (notEscape : character ≠ '\x1b')
    (notBell : character ≠ '\x07') :
    ∀ byte ∈ (escapeChar character).flatMap String.utf8EncodeChar,
      byte ≠ 0x1b ∧ byte ≠ 0x07 := by
  by_cases backslash : character = '\\'
  · subst backslash
    decide +kernel
  · by_cases semicolon : character = ';'
    · subst semicolon
      decide +kernel
    · rw [escapeChar_plain backslash semicolon, List.flatMap_singleton]
      intro byte member
      constructor
      · rintro rfl
        exact not_mem_utf8EncodeChar rfl (by decide) notEscape member
      · rintro rfl
        exact not_mem_utf8EncodeChar rfl (by decide) notBell member

/-- The escaped bytes of an inert path do not end the string they stand in. -/
theorem inertBytes_escapedBytes (isInert : inert characters = true) :
    inertBytes (escapedBytes characters) = true := by
  induction characters using inert.induct with
  | case1 => rfl
  | case2 character =>
      simp only [inert, Bool.and_eq_true, bne_iff_ne] at isInert
      have plain := plain_escapeChar isInert.1 isInert.2
      rw [escapedBytes_cons, inertBytes_append plain]
      rfl
  | case3 next rest inductionHypothesis =>
      simp only [inert, if_true, Bool.and_eq_true, bne_iff_ne] at isInert
      obtain ⟨⟨notBackslash, notSemicolon⟩, isInert⟩ := isInert
      have escape : (escapeChar '\x1b').flatMap String.utf8EncodeChar =
          [0x1b] := by
        decide
      rw [escapedBytes_cons, escapedBytes_cons, escape,
        escapeChar_plain notBackslash notSemicolon, List.flatMap_singleton]
      have noBackslash : 92 ∉ String.utf8EncodeChar next :=
        not_mem_utf8EncodeChar rfl (by decide) notBackslash
      have high := @le_of_mem_tail_utf8EncodeChar next
      cases bytes : String.utf8EncodeChar next with
      | nil => exact absurd bytes String.utf8EncodeChar_ne_nil
      | cons first others =>
          rw [bytes, List.tail_cons] at high
          rw [bytes, List.mem_cons, not_or] at noBackslash
          have plain : ∀ byte ∈ others, byte ≠ 0x1b ∧ byte ≠ 0x07 := by
            intro byte member
            constructor
            · rintro rfl
              exact absurd (high member) (by decide)
            · rintro rfl
              exact absurd (high member) (by decide)
          simp only [List.cons_append, List.nil_append, inertBytes, if_true]
          rw [inertBytes_append plain, inductionHypothesis isInert,
            Bool.and_true, bne_iff_ne]
          exact Ne.symm noBackslash.1
  | case4 character next rest notEscape inductionHypothesis =>
      simp only [inert, notEscape, if_false, Bool.and_eq_true,
        bne_iff_ne] at isInert
      rw [escapedBytes_cons,
        inertBytes_append (plain_escapeChar notEscape isInert.1)]
      exact inductionHypothesis isInert.2

/-- Inert bytes are read as long as there is room. -/
theorem handed_inert (isInert : inertBytes content = true)
    (room : read.length + content.length ≤ maxOscMetadataBytes) :
    handed windows (.osc (read.take maxOscMetadataBytes) false) opened
        (content ++ rest) =
      handed windows
        (.osc ((read ++ content).take maxOscMetadataBytes) false) opened
        rest := by
  induction content using inertBytes.induct generalizing read with
  | case1 => rw [List.append_nil, List.nil_append]
  | case2 byte =>
      simp only [inertBytes, Bool.and_eq_true, bne_iff_ne] at isInert
      simp only [List.length_singleton] at room
      rw [List.singleton_append, handed_byte isInert.2 isInert.1,
        if_neg (by omega)]
  | case3 next rest inductionHypothesis =>
      simp only [inertBytes, if_true, Bool.and_eq_true, bne_iff_ne] at isInert
      simp only [List.length_cons] at room
      rw [List.cons_append, List.cons_append, handed_pair isInert.1,
        inductionHypothesis isInert.2 (by simp; omega), List.append_assoc]
      rfl
  | case4 byte next rest notEscape inductionHypothesis =>
      simp only [inertBytes, notEscape, if_false, Bool.and_eq_true,
        bne_iff_ne] at isInert
      simp only [List.length_cons] at room
      rw [List.cons_append, handed_byte isInert.1 notEscape,
        if_neg (by omega),
        inductionHypothesis isInert.2 (by simp; omega), List.append_assoc]
      rfl

end Inert

/-! ## What the parser is told -/

/-- A text is split at the first place of a separator. -/
theorem splitOnce_eq {separator : Char} {before rest text : String}
    (absent : separator ∉ before.toList)
    (whole : text.toList = before.toList ++ separator :: rest.toList) :
    splitOnce separator text = some (before, rest) := by
  have split (early late : List Char) (absent : separator ∉ early) :
      splitOnceList separator (early ++ separator :: late) =
        some (early, late) := by
    induction early with
    | nil => simp [splitOnceList]
    | cons first early inductionHypothesis =>
        rw [List.mem_cons, not_or] at absent
        rw [List.cons_append, splitOnceList, if_neg (Ne.symm absent.1),
          inductionHypothesis absent.2]
        rfl
  rw [splitOnce, whole, split _ _ absent, Option.map_some,
    String.ofList_toList, String.ofList_toList]

/-- The bytes before the path. -/
def cwdProperty : List UInt8 := utf8 "633;P;Cwd="

/-- The content of a command that tells of a path. -/
def cwdContent (path : List Char) : List UInt8 :=
  cwdProperty ++ escapedBytes path

/-- The content tells of the path, without white space at its ends. -/
theorem update_cwdContent (windows : Bool) (path : String) :
    update windows (cwdContent path.toList) =
      (nonEmptyString path).map .cwd := by
  have text : fromUtf8Lossy (cwdContent path.toList) =
      "633;P;Cwd=" ++ escapeValue path := by
    rw [cwdContent, cwdProperty, ← utf8_escapeValue, ← utf8_append,
      fromUtf8Lossy_utf8]
  have kind : splitOnce ';' ("633;P;Cwd=" ++ escapeValue path) =
      some ("633", "P;Cwd=" ++ escapeValue path) :=
    splitOnce_eq (by decide) (by simp)
  have subkind : splitOnce ';' ("P;Cwd=" ++ escapeValue path) =
      some ("P", "Cwd=" ++ escapeValue path) :=
    splitOnce_eq (by decide) (by simp)
  have name : splitOnce '=' ("Cwd=" ++ escapeValue path) =
      some ("Cwd", escapeValue path) :=
    splitOnce_eq (by decide) (by simp)
  rw [update, text, parseOscMetadata, kind]
  simp [parseOsc633Metadata, subkind, name, unescape_escapeValue]

/-- What a shell that has read its script prints, after the opening. -/
def cwdString (path : List Char) : List UInt8 :=
  cwdContent path ++ [0x07]

section Told

variable {windows : Bool} {path before after : List Char}
  {character next : Char}

theorem inertBytes_cwdContent (isInert : inert path = true) :
    inertBytes (cwdContent path) = true := by
  have plain : ∀ byte ∈ cwdProperty, byte ≠ 0x1b ∧ byte ≠ 0x07 := by
    decide +kernel
  rw [cwdContent, inertBytes_append plain]
  exact inertBytes_escapedBytes isInert

theorem cwdContent_append (early late : List Char) :
    cwdContent (early ++ late) = cwdContent early ++ escapedBytes late := by
  rw [cwdContent, cwdContent, escapedBytes_append, List.append_assoc]

/-- What is read of a string before its path is not inert any more. -/
theorem handed_cwd {rest : List UInt8} (isInert : inert before = true)
    (room : (cwdContent before).length ≤ maxOscMetadataBytes)
    (opened : List UInt8) :
    handed windows (.osc [] false) opened (cwdContent before ++ rest) =
      handed windows (.osc (cwdContent before) false) opened rest := by
  have same := @handed_inert windows opened (cwdContent before) rest []
    (inertBytes_cwdContent isInert) (by simpa using room)
  rwa [List.nil_append, List.take_of_length_le room] at same

/-- An inert path is handed over whole. -/
theorem completedAll_inert (isInert : inert path = true)
    (room : (cwdContent path).length ≤ maxOscMetadataBytes) :
    completedAll windows (.osc [] false) (cwdString path) =
      [cwdContent path] := by
  rw [← handed_contents windows _ [], cwdString, handed_cwd isInert room,
    handed_terminator rfl]
  rfl

/-- Of a path that is not inert nothing is handed over, or what is before some
control character. -/
theorem completedAll_not_inert (notInert : inert path = false)
    (room : (cwdContent path).length ≤ maxOscMetadataBytes) :
    completedAll windows (.osc [] false) (cwdString path) = [] ∨
      ∃ before control after,
        path = before ++ control :: after ∧
          (control = '\x07' ∨ control = '\x1b') ∧
            ∃ more, completedAll windows (.osc [] false) (cwdString path) =
              cwdContent before :: more := by
  obtain ⟨before, isInert, shape⟩ := exists_of_not_inert notInert
  have fits {rest : List Char} (same : path = before ++ rest) :
      (cwdContent before).length ≤ maxOscMetadataBytes := by
    rw [same, cwdContent_append, List.length_append] at room
    omega
  have bell : (escapeChar '\x07').flatMap String.utf8EncodeChar = [0x07] := by
    decide
  have escape : (escapeChar '\x1b').flatMap String.utf8EncodeChar =
      [0x1b] := by
    decide
  rcases shape with ⟨after, same⟩ | ⟨next, after, ends, same⟩ | same
  · right
    refine ⟨before, _, after, same, Or.inl rfl, ?_⟩
    rw [← handed_contents windows _ [], cwdString, same, cwdContent_append,
      escapedBytes_cons, bell, List.append_assoc,
      handed_cwd isInert (fits same), List.cons_append, List.nil_append,
      List.cons_append, handed_terminator rfl]
    exact ⟨_, rfl⟩
  · right
    have begins : ∃ rest, (escapeChar next).flatMap String.utf8EncodeChar =
        92 :: rest := by
      rcases ends with rfl | rfl
      · exact ⟨[92], by decide⟩
      · exact ⟨[120, 51, 98], by decide⟩
    obtain ⟨rest, begins⟩ := begins
    refine ⟨before, _, next :: after, same, Or.inr rfl, ?_⟩
    rw [← handed_contents windows _ [], cwdString, same, cwdContent_append,
      escapedBytes_cons, escapedBytes_cons, escape, begins, List.append_assoc,
      handed_cwd isInert (fits same), List.cons_append, List.nil_append,
      List.cons_append, List.cons_append, List.cons_append,
      handed_terminator rfl]
    exact ⟨_, rfl⟩
  · left
    rw [← handed_contents windows _ [], cwdString, same, cwdContent_append,
      escapedBytes_cons, escape, List.append_assoc,
      handed_cwd isInert (fits same)]
    simp [escapedBytes, handed, completed, pushByte, openedAfter]

end Told

/-! ## White space -/

/-- Trimming makes no text longer. -/
theorem length_trim_le (text : String) :
    (trim text).toList.length ≤ text.toList.length := by
  rw [trim, trimMatches, String.toList_ofList]
  have inner := (List.rdropWhile_prefix isWhiteSpace
    (l := text.toList.dropWhile isWhiteSpace)).length_le
  exact inner.trans (List.dropWhile_suffix isWhiteSpace).length_le

/-- A path that begins with a slash is not all white space. -/
theorem nonEmptyString_absolute {path : String}
    (absolute : path.toList.head? = some '/') :
    nonEmptyString path = some (trim path) := by
  apply if_neg
  rw [String.isEmpty_iff]
  intro empty
  have nothing := congrArg String.toList empty
  rw [trim, trimMatches, String.toList_ofList] at nothing
  cases characters : path.toList with
  | nil => simp [characters] at absolute
  | cons first rest =>
      rw [characters, List.head?_cons, Option.some.injEq] at absolute
      subst absolute
      rw [characters, List.dropWhile_cons_of_neg (by decide)] at nothing
      have white := List.rdropWhile_eq_nil_iff.mp nothing '/'
        List.mem_cons_self
      revert white
      decide

/-- A trimmed text has no new line at its end. -/
theorem rdropWhile_of_trim {path : String} (trimmed : trim path = path) :
    (path.toList.rdropWhile fun character => character = '\n') =
      path.toList := by
  have shorter : ∀ before, path.toList ≠ before ++ ['\n'] := by
    intro before ends
    have same := congrArg (List.length ∘ String.toList) trimmed
    simp only [Function.comp_apply] at same
    rw [trim, trimMatches, String.toList_ofList, ends] at same
    have suffix := List.dropWhile_suffix isWhiteSpace (l := before ++ ['\n'])
    rcases List.suffix_concat_iff.mp suffix with nothing | ⟨rest, kept, inside⟩
    · rw [nothing] at same
      simp at same
    · rw [kept] at same
      change (List.rdropWhile isWhiteSpace (rest ++ ['\n'])).length = _ at same
      rw [List.rdropWhile_concat_pos _ _ _ (by decide)] at same
      have inner := (List.rdropWhile_prefix isWhiteSpace (l := rest)).length_le
      have outer := inside.length_le
      simp at same
      omega
  rcases List.eq_nil_or_concat' path.toList with
    empty | ⟨characters, character, ends⟩
  · rw [empty]
    rfl
  · rw [ends]
    apply List.rdropWhile_concat_neg
    simp only [decide_eq_true_eq]
    rintro rfl
    exact shorter characters ends

/-- A command substitution takes the line ends off the escaped path. -/
theorem commandOutput_escapeValue (path : String) :
    (commandOutput (escapeValue path)).toList =
      (path.toList.rdropWhile fun character => character = '\n').flatMap
        escapeChar := by
  rw [commandOutput, trimEndMatches, String.toList_ofList, escapeValue_toList]
  change List.rdropWhile _ _ = _
  induction path.toList using List.reverseRecOn with
  | nil => rfl
  | append_singleton characters character inductionHypothesis =>
      by_cases newLine : character = '\n'
      · subst newLine
        have kept : escapeChar '\n' = ['\n'] := by decide
        rw [List.flatMap_append, List.flatMap_singleton, kept,
          List.rdropWhile_concat_pos _ _ _ (by simp),
          List.rdropWhile_concat_pos _ _ _ (by simp)]
        exact inductionHypothesis
      · have ends : ∃ start last, escapeChar character = start ++ [last] ∧
            last ≠ '\n' := by
          unfold escapeChar
          split
          · exact ⟨['\\'], '\\', rfl, by decide⟩
          · split
            · exact ⟨['\\', 'x', '3'], 'b', rfl, by decide⟩
            · exact ⟨[], character, rfl, newLine⟩
        obtain ⟨start, last, escaped, notNewLine⟩ := ends
        rw [List.rdropWhile_concat_neg _ _ _ (by simpa using newLine),
          List.flatMap_append, List.flatMap_singleton, escaped,
          ← List.append_assoc,
          List.rdropWhile_concat_neg _ _ _ (by simpa using notNewLine)]

/-! ## Every path -/

/-- A path without the new lines at its end. -/
def withoutNewLines (path : String) : List Char :=
  path.toList.rdropWhile fun character => character = '\n'

theorem utf8_commandOutput (path : String) :
    utf8 (commandOutput (escapeValue path)) =
      escapedBytes (withoutNewLines path) := by
  rw [utf8_eq, commandOutput_escapeValue]
  rfl

theorem updateCwd_eq {shell : ShellKind} (reads : shell.readsScript = true)
    (path : String) :
    shell.updateCwd path =
      0x1b :: 93 :: cwdString (withoutNewLines path) := by
  have opening : utf8 "\x1b]633;P;Cwd=" = 0x1b :: 93 :: cwdProperty := by
    decide
  have bell : utf8 "\x07" = [0x07] := by decide
  rw [ShellKind.updateCwd, if_pos reads, utf8_append, utf8_append,
    utf8_commandOutput, opening, bell, cwdString, cwdContent]
  simp

/-- What is told of a path does not depend on the chunks. -/
theorem pushAll_updateCwd {shell : ShellKind} (reads : shell.readsScript = true)
    (windows : Bool) {path : String} {chunks : List (List UInt8)}
    (whole : chunks.flatten = shell.updateCwd path) :
    (pushAll windows new chunks).2 =
      (completedAll windows (.osc [] false)
        (cwdString (withoutNewLines path))).filterMap (update windows) := by
  rw [new, pushAll_events, whole, updateCwd_eq reads]
  simp [completedAll, completed, pushByte]

/-- The content of an absolute path tells of it without white space at its
ends. -/
theorem update_absolute (windows : Bool) {characters : List Char}
    (absolute : characters.head? = some '/') :
    update windows (cwdContent characters) =
      some (.cwd (trim (String.ofList characters))) := by
  have told := update_cwdContent windows (String.ofList characters)
  rw [nonEmptyString_absolute (by simpa using absolute),
    String.toList_ofList] at told
  exact told

/-- An absolute path is still one without the line ends at its end. -/
theorem withoutNewLines_absolute {path : String}
    (absolute : path.toList.head? = some '/') :
    (withoutNewLines path).head? = some '/' := by
  obtain ⟨dropped, kept⟩ := List.rdropWhile_prefix
    (fun character : Char => decide (character = '\n')) (l := path.toList)
  change withoutNewLines path ++ dropped = path.toList at kept
  rw [← kept] at absolute
  cases characters : withoutNewLines path with
  | nil =>
      have newLines := List.rdropWhile_eq_nil_iff.mp characters
      rw [← kept, characters, List.nil_append] at newLines
      rw [characters, List.nil_append] at absolute
      have newLine := newLines '/' (List.mem_of_mem_head? absolute)
      revert newLine
      decide
  | cons first rest =>
      rw [characters] at absolute
      exact absolute

/-- Something shorter than a path does not tell of the path. -/
theorem not_told_of_shorter {path : String} {characters : List Char}
    (shorter : characters.length < path.toList.length) :
    trim (String.ofList characters) ≠ path := by
  intro same
  have length := length_trim_le (String.ofList characters)
  rw [same, String.toList_ofList] at length
  omega

/-- A path that is told as it is has no new line at its end, is trimmed and is
inert. -/
theorem inert_of_told {windows : Bool} {path : String}
    (absolute : path.toList.head? = some '/')
    (room : (cwdContent (withoutNewLines path)).length ≤ maxOscMetadataBytes)
    (told : (completedAll windows (.osc [] false)
      (cwdString (withoutNewLines path))).filterMap (update windows) =
        [.cwd path]) :
    trim path = path ∧ inert path.toList = true := by
  have starts := withoutNewLines_absolute absolute
  have isPrefix : withoutNewLines path <+: path.toList :=
    List.rdropWhile_prefix _ _
  have shorter := isPrefix.length_le
  cases isInert : inert (withoutNewLines path) with
  | true =>
      rw [completedAll_inert isInert room, List.filterMap_cons,
        update_absolute windows starts] at told
      simp only [List.filterMap_nil, List.cons.injEq, and_true,
        TerminalMetadata.cwd.injEq] at told
      have whole : withoutNewLines path = path.toList := by
        apply isPrefix.eq_of_length
        by_contra different
        exact not_told_of_shorter (by omega) told
      rw [whole] at isInert
      rw [whole, String.ofList_toList] at told
      exact ⟨told, isInert⟩
  | false =>
      rcases @completedAll_not_inert windows _ isInert room with
        nothing | ⟨before, control, after, split, isControl, more, some⟩
      · rw [nothing] at told
        cases told
      · have beforeStarts : before.head? = Option.some '/' := by
          rw [split] at starts
          cases before with
          | nil =>
              rcases isControl with rfl | rfl <;> cases starts
          | cons first before => exact starts
        rw [some, List.filterMap_cons,
          update_absolute windows beforeStarts] at told
        simp only [List.cons.injEq, TerminalMetadata.cwd.injEq] at told
        refine absurd told.1 (not_told_of_shorter ?_)
        rw [split] at shorter
        simp at shorter
        omega

/-- A text is unescaped to what was escaped.  A path is told as it is exactly
when the shell reads its script, the path is trimmed, and its control characters
are inert. -/
theorem cwd_is_told_iff (windows : Bool) (shell : ShellKind) (path : String)
    (absolute : path.toList.head? = some '/')
    (short : (utf8 ("633;P;Cwd=" ++ commandOutput
      (escapeValue path))).length ≤ maxOscMetadataBytes) :
    (∀ value, unescapeOsc633Value (escapeValue value) = value) ∧
      ((∀ chunks : List (List UInt8), chunks.flatten = shell.updateCwd path →
        (pushAll windows new chunks).2 = [.cwd path]) ↔
          shell.readsScript = true ∧ trim path = path ∧
            inert path.toList = true) := by
  have room :
      (cwdContent (withoutNewLines path)).length ≤ maxOscMetadataBytes := by
    rwa [utf8_append, utf8_commandOutput] at short
  refine ⟨unescape_escapeValue, ?_, ?_⟩
  · intro told
    have reads : shell.readsScript = true := by
      by_contra unread
      have nothing := told [] (by rw [ShellKind.updateCwd, if_neg unread]; rfl)
      cases nothing
    have once := told [shell.updateCwd path] (by simp)
    rw [pushAll_updateCwd reads windows List.flatten_singleton] at once
    exact ⟨reads, inert_of_told absolute room once⟩
  · rintro ⟨reads, trimmed, isInert⟩ chunks whole
    have kept : withoutNewLines path = path.toList :=
      rdropWhile_of_trim trimmed
    rw [kept] at room
    rw [pushAll_updateCwd reads windows whole, kept,
      completedAll_inert isInert room, List.filterMap_cons,
      update_absolute windows absolute, String.ofList_toList, trimmed]
    rfl

theorem cwd_is_told_iff_plain :
    (∀ value, unescapeOsc633Value (escapeValue value) = value) ∧
      ((∀ chunks : List (List UInt8),
        chunks.flatten = ShellKind.bash.updateCwd "/a;b\\" →
          (pushAll false new chunks).2 = [.cwd "/a;b\\"]) ↔
            ShellKind.bash.readsScript = true ∧
              trim "/a;b\\" = "/a;b\\" ∧
                inert "/a;b\\".toList = true) :=
  cwd_is_told_iff false .bash "/a;b\\" (by rfl)
    (by decide)

/-- Fish tells of no path, and bash tells of another one when there is a space
at the end or a bell in it. -/
theorem other_cwd_is_told :
    (push false new (ShellKind.fish.updateCwd "/a")).2 = [] ∧
      (push false new (ShellKind.bash.updateCwd "/a ")).2 = [.cwd "/a"] ∧
        (push false new (ShellKind.bash.updateCwd "/a\x07b")).2 =
          [.cwd "/a"] := by
  refine ⟨?_, by decide +kernel, by decide +kernel⟩
  rw [ShellKind.updateCwd, if_neg (by simp [fish_reads_nothing])]
  rfl

end Host
end WhatsGoingOn
