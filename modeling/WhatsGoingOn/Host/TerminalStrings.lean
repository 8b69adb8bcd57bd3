import Mathlib.Data.List.Infix
import WhatsGoingOn.Host.TerminalMetadata

/-!
# The strings in terminal output

An operating system command is the string between its opening, an escape and a
bracket, and its terminator, the first bell or escape and backslash after it.
The parser reads an escape inside a string and the byte after it as a pair, and
it misses a terminator that begins in the middle of a pair.
-/

namespace WhatsGoingOn
namespace Host

open Text (fromUtf8Lossy)

/-! ## The grammar -/

/-- The bytes before the first terminator, and those after it. -/
def oscContent : List UInt8 → Option (List UInt8 × List UInt8)
  | [] => none
  | 0x07 :: after => some ([], after)
  | 0x1b :: 92 :: after => some ([], after)
  | byte :: rest =>
      (oscContent rest).map fun (content, after) => (byte :: content, after)

/-- A string is opened somewhere in some output. -/
def Opens (stream opened : List UInt8) : Prop :=
  0x1b :: 93 :: opened <:+ stream

/-- A complete string of some output: what is opened has a content and leaves
what is after its terminator. -/
structure OscString (stream opened content after : List UInt8) : Prop where
  opens : Opens stream opened
  content : oscContent opened = some (content, after)

/-- A string starts inside another one. -/
def Within (stream opened : List UInt8) : Prop :=
  ∃ outer content after, OscString stream outer content after ∧
    Opens outer opened ∧ ¬ Opens after opened

/-- Whether some content does not end in the middle of a pair. -/
def paired : List UInt8 → Bool
  | [] => true
  | [byte] => byte != 0x1b
  | byte :: next :: rest =>
      if byte = 0x1b then paired rest else paired (next :: rest)

/-- Whether some content has a byte outside its pairs for which there is no
room. -/
def overflows (place : Nat) : List UInt8 → Bool
  | [] => false
  | [byte] => byte != 0x1b && maxOscMetadataBytes ≤ place
  | byte :: next :: rest =>
      if byte = 0x1b then overflows (place + 2) rest
      else maxOscMetadataBytes ≤ place || overflows (place + 1) (next :: rest)

/-- Some content is given up or collected to its last byte. -/
def Collected (content : List UInt8) : Prop :=
  overflows 0 content = true ∨
    (paired content = true ∧ content.length ≤ maxOscMetadataBytes)

section Grammar

variable {bytes content after rest opened stream : List UInt8} {byte : UInt8}

theorem oscContent_eq_nil (found : oscContent bytes = some ([], after)) :
    bytes = 0x07 :: after ∨ bytes = 0x1b :: 92 :: after := by
  unfold oscContent at found
  split at found
  · cases found
  · cases found
    exact Or.inl rfl
  · cases found
    exact Or.inr rfl
  · simp at found

/-- The content of a string begins with a byte that does not end it. -/
theorem oscContent_eq_cons
    (found : oscContent bytes = some (byte :: content, after)) :
    byte ≠ 0x07 ∧ ∃ rest, bytes = byte :: rest ∧
      oscContent rest = some (content, after) ∧
        (byte = 0x1b → rest.head? ≠ some 92) := by
  unfold oscContent at found
  split at found
  · cases found
  · cases found
  · cases found
  · rename_i first rest notBell notEscape
    simp only [Option.map_eq_some_iff, Prod.mk.injEq, List.cons.injEq,
      Prod.exists] at found
    obtain ⟨content, after, found, ⟨rfl, rfl⟩, rfl⟩ := found
    refine ⟨fun bell => notBell (by rw [bell]), rest, rfl, found, ?_⟩
    intro escape head
    cases rest with
    | nil => cases head
    | cons next rest =>
        cases head
        exact notEscape rest escape rfl

theorem oscContent_cons (found : (oscContent bytes).isSome) :
    (oscContent (byte :: bytes)).isSome := by
  unfold oscContent
  split <;> simp_all

/-- What ends with a terminator and something after it has some content. -/
theorem oscContent_of_suffix (suffix : rest <:+ bytes)
    (found : (oscContent rest).isSome) : (oscContent bytes).isSome := by
  obtain ⟨before, rfl⟩ := suffix
  induction before with
  | nil => exact found
  | cons byte before inductionHypothesis =>
      exact oscContent_cons inductionHypothesis

/-- The bytes are the content, a terminator and what is after it. -/
theorem oscContent_eq_some
    (found : oscContent bytes = some (content, after)) :
    bytes = content ++ 0x07 :: after ∨
      bytes = content ++ 0x1b :: 92 :: after := by
  induction content generalizing bytes with
  | nil => exact oscContent_eq_nil found
  | cons byte content inductionHypothesis =>
      obtain ⟨-, rest, rfl, found, -⟩ := oscContent_eq_cons found
      rcases inductionHypothesis found with rfl | rfl
      · exact Or.inl rfl
      · exact Or.inr rfl

theorem after_suffix (found : oscContent bytes = some (content, after)) :
    after <:+ bytes := by
  rcases oscContent_eq_some found with rfl | rfl
  · exact ⟨content ++ [0x07], by simp⟩
  · exact ⟨content ++ [0x1b, 92], by simp⟩

theorem Opens.of_suffix (opens : Opens rest opened) (suffix : rest <:+ stream) :
    Opens stream opened :=
  List.IsSuffix.trans opens suffix

theorem Opens.length_lt (opens : Opens stream opened) :
    opened.length < stream.length := by
  have length := List.IsSuffix.length_le opens
  simp at length
  omega

theorem OscString.of_suffix (string : OscString rest opened content after)
    (suffix : rest <:+ stream) : OscString stream opened content after :=
  ⟨string.opens.of_suffix suffix, string.content⟩

theorem Within.of_suffix (within : Within rest opened)
    (suffix : rest <:+ stream) : Within stream opened := by
  obtain ⟨outer, content, after, string, opens, notAfter⟩ := within
  exact ⟨outer, content, after, string.of_suffix suffix, opens, notAfter⟩

end Grammar

/-! ## What the parser hands over -/

/-- A string whose content is handed to `parseOscMetadata`: what was opened, the
content, and what is left of the output. -/
structure HandedString where
  opened : List UInt8
  content : List UInt8
  remaining : List UInt8
  deriving DecidableEq, Repr

namespace TerminalMetadataParser

open TerminalMetadataParserState

/-- The content that a byte completes. -/
def completed (byte : UInt8) : TerminalMetadataParserState → Option (List UInt8)
  | .osc buffer true => if byte = 92 then some buffer else none
  | .osc buffer false => if byte = 0x07 then some buffer else none
  | .normal | .escape => none

/-- The contents that are completed, in order. -/
def completedAll (windows : Bool) (state : TerminalMetadataParserState) :
    List UInt8 → List (List UInt8)
  | [] => []
  | byte :: bytes =>
      (completed byte state).toList ++
        completedAll windows (pushByte windows byte state).1 bytes

/-- What was opened last, after a byte. -/
def openedAfter (byte : UInt8) (bytes opened : List UInt8) :
    TerminalMetadataParserState → List UInt8
  | .escape => if byte = 93 then bytes else opened
  | .normal | .osc _ _ => opened

/-- The strings that are handed over, for what was opened last. -/
def handed (windows : Bool) (state : TerminalMetadataParserState)
    (opened : List UInt8) : List UInt8 → List HandedString
  | [] => []
  | byte :: bytes =>
      ((completed byte state).map fun content =>
        ⟨opened, content, bytes⟩).toList ++
      handed windows (pushByte windows byte state).1
        (openedAfter byte bytes opened state) bytes

/-- The strings of some output that are handed over. -/
def handedStrings (windows : Bool) (stream : List UInt8) : List HandedString :=
  handed windows .normal [] stream

/-- What some completed content tells. -/
def update (windows : Bool) (content : List UInt8) : Option TerminalMetadata :=
  parseOscMetadata windows (fromUtf8Lossy content)

/-- Push one chunk after the other. -/
def pushAll (windows : Bool) (parser : TerminalMetadataParser) :
    List (List UInt8) → TerminalMetadataParser × List TerminalMetadata
  | [] => (parser, [])
  | chunk :: chunks =>
      let (next, events) := parser.push windows chunk
      let (last, later) := pushAll windows next chunks
      (last, events ++ later)

section Handed

variable {windows : Bool} {state : TerminalMetadataParserState}
  {buffer opened bytes content after stream : List UInt8} {byte : UInt8}

/-- The parser tells what the strings that are complete say. -/
theorem pushByte_events (windows : Bool) (byte : UInt8)
    (state : TerminalMetadataParserState) :
    (pushByte windows byte state).2 =
      (completed byte state).toList.filterMap (update windows) := by
  have finish (content : List UInt8) :
      (finishOsc windows content).2 = [content].filterMap (update windows) := by
    simp only [finishOsc, update, List.filterMap_cons, List.filterMap_nil]
    split <;> simp_all
  cases state with
  | normal => rfl
  | escape => rfl
  | osc buffer escape =>
      cases escape with
      | true =>
          simp only [pushByte, completed]
          split
          · exact finish buffer
          · rfl
      | false =>
          simp only [pushByte, completed]
          split
          · exact finish buffer
          · split
            · rfl
            · split <;> rfl

/-- The parser after a chunk, and what the completed contents tell. -/
theorem push_eq (windows : Bool) (state : TerminalMetadataParserState)
    (bytes : List UInt8) :
    push windows ⟨state⟩ bytes =
      (⟨bytes.foldl (fun state byte => (pushByte windows byte state).1) state⟩,
        (completedAll windows state bytes).filterMap (update windows)) := by
  have generally (earlier : List TerminalMetadata) :
      bytes.foldl
        (fun pushed byte =>
          ((pushByte windows byte pushed.1).1,
            pushed.2 ++ (pushByte windows byte pushed.1).2))
        (state, earlier) =
        (bytes.foldl (fun state byte => (pushByte windows byte state).1) state,
          earlier ++
            (completedAll windows state bytes).filterMap (update windows)) := by
    induction bytes generalizing state earlier with
    | nil => simp [completedAll]
    | cons byte bytes inductionHypothesis =>
        rw [List.foldl_cons, inductionHypothesis, pushByte_events,
          completedAll, List.filterMap_append, ← List.append_assoc]
        rfl
  have pushed := generally []
  rw [List.nil_append] at pushed
  exact congrArg (Prod.map TerminalMetadataParser.mk id) pushed

/-- The strings of two texts are those of one after the other. -/
theorem completedAll_append (windows : Bool)
    (state : TerminalMetadataParserState) (early late : List UInt8) :
    completedAll windows state (early ++ late) =
      completedAll windows state early ++
        completedAll windows (early.foldl
          (fun state byte => (pushByte windows byte state).1) state) late := by
  induction early generalizing state with
  | nil => rfl
  | cons byte early inductionHypothesis =>
      rw [List.cons_append, completedAll, inductionHypothesis, completedAll,
        List.append_assoc]
      rfl

/-- The chunks do not matter, only what they make together. -/
theorem pushAll_events (windows : Bool) (state : TerminalMetadataParserState)
    (chunks : List (List UInt8)) :
    (pushAll windows ⟨state⟩ chunks).2 =
      (completedAll windows state chunks.flatten).filterMap
        (update windows) := by
  induction chunks generalizing state with
  | nil => rfl
  | cons chunk chunks inductionHypothesis =>
      rw [List.flatten_cons, completedAll_append, List.filterMap_append,
        ← inductionHypothesis, pushAll, push_eq]

theorem handed_contents (windows : Bool) (state : TerminalMetadataParserState)
    (opened bytes : List UInt8) :
    (handed windows state opened bytes).map HandedString.content =
      completedAll windows state bytes := by
  induction bytes generalizing state opened with
  | nil => rfl
  | cons byte bytes inductionHypothesis =>
      rw [handed, completedAll, List.map_append, inductionHypothesis]
      cases completed byte state <;> rfl

/-! ## One string -/

/-- Outside a string it does not matter what was opened before. -/
theorem handed_outside {other : List UInt8}
    (outside : state = .normal ∨ state = .escape) :
    handed windows state opened bytes = handed windows state other bytes := by
  induction bytes generalizing state with
  | nil => rfl
  | cons byte bytes inductionHypothesis =>
      rcases outside with rfl | rfl
      · rw [handed, handed]
        congr 1
        apply inductionHypothesis
        simp only [pushByte]
        split <;> simp
      · rw [handed, handed]
        congr 1
        simp only [openedAfter]
        split
        · rfl
        · rename_i notBracket
          apply inductionHypothesis
          simp only [pushByte, notBracket, if_false]
          split <;> simp

/-- A byte that does not open a string is skipped. -/
theorem handed_skip
    (opensNot : ∀ rest, byte :: bytes ≠ 0x1b :: 93 :: rest) :
    handed windows .normal opened (byte :: bytes) =
      handed windows .normal opened bytes := by
  by_cases escape : byte = 0x1b
  · subst escape
    cases bytes with
    | nil => rfl
    | cons next bytes =>
        have notBracket : next ≠ 93 := fun bracket =>
          opensNot bytes (by rw [bracket])
        by_cases again : next = 0x1b
        · simp [handed, completed, pushByte, openedAfter, again]
        · simp [handed, completed, pushByte, openedAfter, again, notBracket]
  · simp [handed, completed, pushByte, openedAfter, escape]

/-- After its opening a string is read. -/
theorem handed_opened (rest : List UInt8) :
    handed windows .normal opened (0x1b :: 93 :: rest) =
      handed windows (.osc [] false) rest rest := by
  simp [handed, completed, pushByte, openedAfter]

/-- The buffer holds the content up to the limit. -/
theorem pushOscByte_take (read : List UInt8) (byte : UInt8) :
    pushOscByte (read.take maxOscMetadataBytes) byte =
      (read ++ [byte]).take maxOscMetadataBytes := by
  unfold pushOscByte
  rw [List.length_take]
  split
  · rename_i room
    have short : read.length < maxOscMetadataBytes := by omega
    rw [List.take_of_length_le short.le, List.take_of_length_le]
    simp
    omega
  · rename_i full
    have long : maxOscMetadataBytes ≤ read.length := by omega
    rw [List.take_append_of_le_length long]

/-- Two bytes of a pair are read. -/
theorem handed_pair {read : List UInt8} (next : byte ≠ 92) :
    handed windows (.osc (read.take maxOscMetadataBytes) false) opened
        (0x1b :: byte :: bytes) =
      handed windows
        (.osc ((read ++ [0x1b, byte]).take maxOscMetadataBytes) false)
        opened bytes := by
  have both : pushOscByte
      (pushOscByte (read.take maxOscMetadataBytes) 0x1b) byte =
        (read ++ [0x1b, byte]).take maxOscMetadataBytes := by
    rw [pushOscByte_take, pushOscByte_take, List.append_assoc]
    rfl
  rw [← both]
  simp [handed, completed, pushByte, openedAfter, next]

/-- A byte outside the pairs is read while there is room. -/
theorem handed_byte {read : List UInt8}
    (notBell : byte ≠ 0x07) (notEscape : byte ≠ 0x1b) :
    handed windows (.osc (read.take maxOscMetadataBytes) false) opened
        (byte :: bytes) =
      if maxOscMetadataBytes ≤ read.length then
        handed windows .normal opened bytes
      else
        handed windows
          (.osc ((read ++ [byte]).take maxOscMetadataBytes) false)
          opened bytes := by
  rw [← pushOscByte_take, pushOscByte, List.length_take]
  by_cases full : maxOscMetadataBytes ≤ read.length
  · simp [handed, completed, pushByte, openedAfter, notBell, notEscape, full]
  · have room : min maxOscMetadataBytes read.length < maxOscMetadataBytes := by
      omega
    simp [handed, completed, pushByte, openedAfter, notBell, notEscape, full]

theorem handed_terminator
    (found : oscContent bytes = some ([], after)) :
    handed windows (.osc buffer false) opened bytes =
      ⟨opened, buffer, after⟩ :: handed windows .normal opened after := by
  rcases oscContent_eq_nil found with rfl | rfl
  · simp [handed, completed, pushByte, finishOsc, openedAfter]
  · simp [handed, completed, pushByte, finishOsc, openedAfter]

/-- A string that is collected to its last byte is handed over when its
terminator is read. -/
theorem handed_string {read : List UInt8}
    (found : oscContent bytes = some (content, after))
    (isPaired : paired content = true)
    (fits : overflows read.length content = false) :
    handed windows (.osc (read.take maxOscMetadataBytes) false) opened bytes =
      ⟨opened, (read ++ content).take maxOscMetadataBytes, after⟩ ::
        handed windows .normal opened after := by
  induction content using paired.induct generalizing read bytes with
  | case1 =>
      rw [List.append_nil]
      exact handed_terminator found
  | case2 byte =>
      have notEscape : byte ≠ 0x1b := by simpa [paired] using isPaired
      have room : ¬ maxOscMetadataBytes ≤ read.length := by
        simpa [overflows, notEscape] using fits
      obtain ⟨notBell, rest, rfl, found, -⟩ := oscContent_eq_cons found
      rw [handed_byte notBell notEscape, if_neg room]
      exact handed_terminator found
  | case3 next rest inductionHypothesis =>
      obtain ⟨-, bytes, rfl, found, notEnd⟩ := oscContent_eq_cons found
      obtain ⟨-, bytes, rfl, found, -⟩ := oscContent_eq_cons found
      have notBackslash : next ≠ 92 := fun same =>
        notEnd rfl (by rw [same]; rfl)
      rw [handed_pair notBackslash,
        inductionHypothesis found (by simpa [paired] using isPaired)]
      · simp
      · simpa [overflows] using fits
  | case4 byte next rest notEscape inductionHypothesis =>
      obtain ⟨notBell, bytes, rfl, found, -⟩ := oscContent_eq_cons found
      simp only [overflows, notEscape, if_false, Bool.or_eq_false_iff,
        decide_eq_false_iff_not] at fits
      rw [handed_byte notBell notEscape, if_neg fits.1,
        inductionHypothesis found (by simpa [paired, notEscape] using isPaired)]
      · simp
      · simpa using fits.2

/-- A string with a byte for which there is no room is given up there. -/
theorem handed_overflow {read : List UInt8}
    (found : oscContent bytes = some (content, after))
    (full : overflows read.length content = true) :
    ∃ dropped, dropped <:+ bytes ∧ after <:+ dropped ∧
      handed windows (.osc (read.take maxOscMetadataBytes) false) opened
        bytes = handed windows .normal opened dropped := by
  induction content using paired.induct generalizing read bytes with
  | case1 => cases full
  | case2 byte =>
      simp only [overflows, Bool.and_eq_true, bne_iff_ne, ne_eq,
        decide_eq_true_iff] at full
      obtain ⟨notBell, rest, rfl, found, -⟩ := oscContent_eq_cons found
      refine ⟨rest, List.suffix_cons byte rest, after_suffix found, ?_⟩
      rw [handed_byte notBell full.1, if_pos full.2]
  | case3 next rest inductionHypothesis =>
      obtain ⟨-, bytes, rfl, found, notEnd⟩ := oscContent_eq_cons found
      obtain ⟨-, bytes, rfl, found, -⟩ := oscContent_eq_cons found
      have notBackslash : next ≠ 92 := fun same =>
        notEnd rfl (by rw [same]; rfl)
      obtain ⟨dropped, suffix, afterSuffix, same⟩ :=
        @inductionHypothesis bytes (read ++ [0x1b, next]) found
          (by simpa [overflows] using full)
      refine ⟨dropped, suffix.trans ⟨[0x1b, next], rfl⟩, afterSuffix, ?_⟩
      rw [handed_pair notBackslash, same]
  | case4 byte next rest notEscape inductionHypothesis =>
      obtain ⟨notBell, bytes, rfl, found, -⟩ := oscContent_eq_cons found
      rw [handed_byte notBell notEscape]
      by_cases here : maxOscMetadataBytes ≤ read.length
      · rw [if_pos here]
        exact ⟨bytes, List.suffix_cons byte bytes, after_suffix found, rfl⟩
      · obtain ⟨dropped, suffix, afterSuffix, same⟩ :=
          @inductionHypothesis bytes (read ++ [byte]) found
            (by simpa [overflows, notEscape, here] using full)
        refine ⟨dropped, suffix.trans (List.suffix_cons byte bytes),
          afterSuffix, ?_⟩
        rw [if_neg here, same]

/-! ## Every string that is handed over -/

/-- What a handed string is in any case: its content is what fits of something
paired that is followed by a terminator. -/
structure Terminated (string : HandedString) : Prop where
  shape : ∃ read, paired read = true ∧
    string.content = read.take maxOscMetadataBytes ∧
      (string.opened = read ++ 0x07 :: string.remaining ∨
        string.opened = read ++ 0x1b :: 92 :: string.remaining)

/-- Paired content decides nothing about what follows. -/
theorem paired_append {early late : List UInt8}
    (isPaired : paired early = true) :
    paired (early ++ late) = paired late := by
  induction early using paired.induct with
  | case1 => rfl
  | case2 byte =>
      have notEscape : byte ≠ 0x1b := by simpa [paired] using isPaired
      cases late with
      | nil => simp [paired, notEscape]
      | cons next late => simp [paired, notEscape]
  | case3 next rest inductionHypothesis =>
      have rest := inductionHypothesis (by simpa [paired] using isPaired)
      simpa [paired] using rest
  | case4 byte next rest notEscape inductionHypothesis =>
      have rest :=
        inductionHypothesis (by simpa [paired, notEscape] using isPaired)
      simpa [paired, notEscape] using rest

/-- The bytes that were read of a string and those that are left make what was
opened. -/
def Reading (opened bytes : List UInt8) : TerminalMetadataParserState → Prop
  | .osc buffer escaped =>
      ∃ read, paired read = true ∧
        buffer = read.take maxOscMetadataBytes ∧
          opened = read ++ ((if escaped then [0x1b] else []) ++ bytes)
  | .normal | .escape => True

theorem Reading.start (opened : List UInt8) :
    Reading opened opened (.osc [] false) :=
  ⟨[], rfl, rfl, rfl⟩

/-- The parser reads on as the strings are cut. -/
theorem Reading.next (reading : Reading opened (byte :: bytes) state) :
    Reading (openedAfter byte bytes opened state) bytes
      (pushByte windows byte state).1 := by
  cases state with
  | normal =>
      simp only [pushByte]
      split <;> trivial
  | escape =>
      simp only [pushByte, openedAfter]
      split
      · exact .start bytes
      · split <;> trivial
  | osc buffer escaped =>
      obtain ⟨read, isPaired, rfl, isOpened⟩ := reading
      cases escaped with
      | true =>
          simp only [pushByte]
          split
          · trivial
          · refine ⟨read ++ [0x1b, byte], ?_, ?_,
              by simp [openedAfter, isOpened]⟩
            · rw [paired_append isPaired]
              rfl
            · rw [pushOscByte_take, pushOscByte_take, List.append_assoc]
              rfl
      | false =>
          simp only [pushByte]
          split
          · trivial
          · rename_i notBell
            split
            · rename_i isEscape
              exact ⟨read, isPaired, rfl,
                by simp [openedAfter, isOpened, isEscape]⟩
            · rename_i notEscape
              split
              · rename_i room
                refine ⟨read ++ [byte], ?_, ?_, by simp [openedAfter, isOpened]⟩
                · rw [paired_append isPaired]
                  simp [paired, notEscape]
                · rw [← pushOscByte_take, pushOscByte, if_pos room]
              · trivial

/-- A string that is handed over has its end in the text. -/
theorem Reading.terminated (reading : Reading opened (byte :: bytes) state)
    (complete : completed byte state = some content) :
    Terminated ⟨opened, content, bytes⟩ ∧
      ∃ buffer escaped, state = .osc buffer escaped := by
  cases state with
  | normal => cases complete
  | escape => cases complete
  | osc buffer escaped =>
      obtain ⟨read, isPaired, rfl, rfl⟩ := reading
      refine ⟨⟨read, isPaired, ?_⟩, _, _, rfl⟩
      cases escaped with
      | true =>
          simp only [completed, Option.ite_none_right_eq_some,
            Option.some.injEq] at complete
          obtain ⟨rfl, rfl⟩ := complete
          exact ⟨rfl, Or.inr rfl⟩
      | false =>
          simp only [completed, Option.ite_none_right_eq_some,
            Option.some.injEq] at complete
          obtain ⟨rfl, rfl⟩ := complete
          exact ⟨rfl, Or.inl rfl⟩

/-- The output that is still to be read, with an escape that was read. -/
def pending (bytes : List UInt8) : TerminalMetadataParserState → List UInt8
  | .escape => 0x1b :: bytes
  | .normal | .osc _ _ => bytes

/-- What is opened after a byte was being read before it, or is opened in the
output from that byte on. -/
theorem opens_before {found : List UInt8}
    (later : ((∃ buffer escaped,
          (pushByte windows byte state).1 = .osc buffer escaped) ∧
        found = openedAfter byte bytes opened state) ∨
      Opens (pending bytes (pushByte windows byte state).1) found) :
    ((∃ buffer escaped, state = .osc buffer escaped) ∧ found = opened) ∨
      Opens (pending (byte :: bytes) state) found := by
  have skip {more : List UInt8} {next : UInt8} (opens : Opens more found) :
      Opens (next :: more) found :=
    opens.of_suffix (List.suffix_cons next more)
  cases state with
  | normal =>
      right
      by_cases isEscape : byte = 0x1b
      · simpa [pushByte, isEscape, pending] using later
      · apply skip
        simpa [pushByte, isEscape, pending] using later
  | escape =>
      right
      by_cases bracket : byte = 93
      · rcases later with ⟨-, same⟩ | opens
        · rw [same, openedAfter, if_pos bracket, bracket]
          exact List.suffix_rfl
        · apply skip
          apply skip
          simpa [pushByte, bracket, pending] using opens
      · by_cases again : byte = 0x1b
        · apply skip
          simpa [pushByte, again, pending] using later
        · apply skip
          apply skip
          simpa [pushByte, bracket, again, pending] using later
  | osc buffer escaped =>
      rcases later with ⟨-, same⟩ | opens
      · exact Or.inl ⟨⟨buffer, escaped, rfl⟩, same⟩
      · right
        apply skip
        have outside : pending bytes
            (pushByte windows byte (.osc buffer escaped)).1 = bytes := by
          cases escaped with
          | true =>
              simp only [pushByte]
              split <;> rfl
          | false =>
              simp only [pushByte]
              split
              · rfl
              · split
                · rfl
                · split <;> rfl
        rwa [outside] at opens

/-- The strings that are handed over are terminated strings of the text. -/
theorem handed_terminated (reading : Reading opened bytes state) :
    ∀ string ∈ handed windows state opened bytes, Terminated string ∧
      (((∃ buffer escaped, state = .osc buffer escaped) ∧
          string.opened = opened) ∨
        Opens (pending bytes state) string.opened) := by
  induction bytes generalizing state opened with
  | nil => simp [handed]
  | cons byte bytes inductionHypothesis =>
      intro string isHanded
      rw [handed, List.mem_append, Option.mem_toList,
        Option.map_eq_some_iff] at isHanded
      rcases isHanded with ⟨content, complete, rfl⟩ | later
      · obtain ⟨terminated, isOsc⟩ := reading.terminated complete
        exact ⟨terminated, Or.inl ⟨isOsc, rfl⟩⟩
      · obtain ⟨terminated, opens⟩ :=
          inductionHypothesis reading.next string later
        exact ⟨terminated, opens_before opens⟩

theorem opens_of_handed {string : HandedString}
    (isHanded : string ∈ handed windows .normal opened bytes) :
    Opens bytes string.opened := by
  have reading : Reading opened bytes .normal := trivial
  rcases (handed_terminated reading string isHanded).2 with
    ⟨⟨_, _, impossible⟩, -⟩ | opens
  · cases impossible
  · exact opens

/-- The strings are handed over in the order in which they are opened. -/
theorem handed_ordered (reading : Reading opened bytes state) :
    (handed windows state opened bytes).Pairwise fun earlier later =>
      later.opened.length < earlier.opened.length := by
  induction bytes generalizing state opened with
  | nil => exact List.Pairwise.nil
  | cons byte bytes inductionHypothesis =>
      have later := inductionHypothesis
        (@Reading.next windows state opened bytes byte reading)
      rw [handed]
      cases complete : completed byte state with
      | none => exact later
      | some content =>
          obtain ⟨-, buffer, escaped, rfl⟩ := reading.terminated complete
          obtain ⟨read, -, -, isOpened⟩ := reading
          have finishes :
              (pushByte windows byte (.osc buffer escaped)).1 = .normal := by
            cases escaped with
            | true => simp_all [completed, pushByte, finishOsc]
            | false => simp_all [completed, pushByte, finishOsc]
          refine List.Pairwise.cons ?_ later
          rw [finishes]
          intro string isHanded
          have shorter := (opens_of_handed isHanded).length_lt
          simp [isOpened]
          omega

end Handed

/-! ## Complete strings -/

/-- The strings that are handed over are complete strings of the output, and
those that start outside another one are all handed over, in order. -/
structure HandsOver (windows : Bool) (stream : List UInt8) : Prop where
  exact : ∀ string ∈ handedStrings windows stream,
    OscString stream string.opened string.content string.remaining ∧
      string.content.length ≤ maxOscMetadataBytes
  complete : ∀ opened content after, OscString stream opened content after →
    content.length ≤ maxOscMetadataBytes → ¬ Within stream opened →
      ⟨opened, content, after⟩ ∈ handedStrings windows stream
  ordered : (handedStrings windows stream).Pairwise fun earlier later =>
    later.opened.length < earlier.opened.length

section HandsOver

variable {windows : Bool} {stream opened content after rest bytes : List UInt8}
  {byte : UInt8}

theorem opens_cons :
    Opens (0x1b :: 93 :: rest) opened ↔ opened = rest ∨ Opens rest opened := by
  unfold Opens
  rw [List.suffix_cons_iff, List.suffix_cons_iff]
  simp

theorem opens_skip (opensNot : ∀ rest, byte :: bytes ≠ 0x1b :: 93 :: rest) :
    Opens (byte :: bytes) opened ↔ Opens bytes opened := by
  unfold Opens
  rw [List.suffix_cons_iff]
  exact or_iff_right fun same => opensNot opened same.symm

theorem Terminated.content_isSome {string : HandedString}
    (terminated : Terminated string) :
    (oscContent string.opened).isSome := by
  obtain ⟨read, -, -, same | same⟩ := terminated.shape
  · exact oscContent_of_suffix ⟨read, same.symm⟩ rfl
  · exact oscContent_of_suffix ⟨read, same.symm⟩ rfl

/-- Nothing is handed over of a string without a terminator. -/
theorem handed_unterminated (none : oscContent rest = none) :
    handed windows (.osc [] false) rest rest = [] := by
  apply List.eq_nil_iff_forall_not_mem.mpr
  intro string isHanded
  obtain ⟨terminated, same⟩ :=
    handed_terminated (.start rest) string isHanded
  have found := terminated.content_isSome
  have suffix : string.opened <:+ rest := by
    rcases same with ⟨-, same⟩ | opens
    · rw [same]
    · exact List.IsSuffix.trans ⟨[0x1b, 93], rfl⟩ opens
  have impossible := oscContent_of_suffix suffix found
  rw [none] at impossible
  cases impossible

/-- A byte that opens nothing does not matter. -/
theorem HandsOver.skip
    (opensNot : ∀ rest, byte :: bytes ≠ 0x1b :: 93 :: rest)
    (handsOver : HandsOver windows bytes) :
    HandsOver windows (byte :: bytes) := by
  have same : handedStrings windows (byte :: bytes) =
      handedStrings windows bytes := handed_skip opensNot
  refine ⟨?_, ?_, ?_⟩
  · rw [same]
    intro string isHanded
    obtain ⟨oscString, fits⟩ := handsOver.exact string isHanded
    exact ⟨oscString.of_suffix (List.suffix_cons byte bytes), fits⟩
  · rw [same]
    intro opened content after oscString fits outside
    apply handsOver.complete opened content after _ fits
    · intro within
      exact outside (within.of_suffix (List.suffix_cons byte bytes))
    · exact ⟨(opens_skip opensNot).mp oscString.opens, oscString.content⟩
  · exact handed_ordered trivial

/-- Nothing comes of a string without a terminator. -/
theorem HandsOver.unterminated (none : oscContent rest = none) :
    HandsOver windows (0x1b :: 93 :: rest) := by
  have nothing : handedStrings windows (0x1b :: 93 :: rest) = [] := by
    rw [handedStrings, handed_opened, handed_unterminated none]
  refine ⟨?_, ?_, ?_⟩
  · rw [nothing]
    exact fun string isHanded => absurd isHanded List.not_mem_nil
  · intro opened content after string
    have suffix : opened <:+ rest := by
      rcases opens_cons.mp string.opens with rfl | opens
      · exact List.suffix_rfl
      · exact List.IsSuffix.trans ⟨[0x1b, 93], rfl⟩ opens
    have found := oscContent_of_suffix suffix (by simp [string.content])
    rw [none] at found
    cases found
  · rw [nothing]
    exact List.Pairwise.nil

/-- A string that is given up leaves the strings after it to be read. -/
theorem HandsOver.dropped {dropped : List UInt8}
    (found : oscContent rest = some (content, after))
    (long : maxOscMetadataBytes < content.length)
    (suffix : dropped <:+ rest) (afterSuffix : after <:+ dropped)
    (same : handedStrings windows (0x1b :: 93 :: rest) =
      handedStrings windows dropped)
    (handsOver : HandsOver windows dropped) :
    HandsOver windows (0x1b :: 93 :: rest) := by
  have inside : dropped <:+ 0x1b :: 93 :: rest :=
    suffix.trans ⟨[0x1b, 93], rfl⟩
  refine ⟨?_, ?_, handed_ordered trivial⟩
  · rw [same]
    intro string isHanded
    obtain ⟨oscString, fits⟩ := handsOver.exact string isHanded
    exact ⟨oscString.of_suffix inside, fits⟩
  · rw [same]
    intro opened later next oscString fits outside
    rcases opens_cons.mp oscString.opens with rfl | opens
    · have isContent := oscString.content
      rw [found] at isContent
      cases isContent
      omega
    · by_cases isAfter : Opens after opened
      · apply handsOver.complete opened later next _ fits
        · exact fun within => outside (within.of_suffix inside)
        · exact ⟨isAfter.of_suffix afterSuffix, oscString.content⟩
      · exact absurd ⟨rest, content, after,
          ⟨opens_cons.mpr (Or.inl rfl), found⟩, opens, isAfter⟩ outside

/-- A string that is collected is handed over, and those after it are read. -/
theorem HandsOver.string
    (found : oscContent rest = some (content, after))
    (fits : content.length ≤ maxOscMetadataBytes)
    (same : handedStrings windows (0x1b :: 93 :: rest) =
      ⟨rest, content, after⟩ :: handedStrings windows after)
    (handsOver : HandsOver windows after) :
    HandsOver windows (0x1b :: 93 :: rest) := by
  have inside : after <:+ 0x1b :: 93 :: rest :=
    (after_suffix found).trans ⟨[0x1b, 93], rfl⟩
  have first : OscString (0x1b :: 93 :: rest) rest content after :=
    ⟨opens_cons.mpr (Or.inl rfl), found⟩
  refine ⟨?_, ?_, handed_ordered trivial⟩
  · rw [same, List.forall_mem_cons]
    refine ⟨⟨first, fits⟩, fun string isHanded => ?_⟩
    obtain ⟨oscString, fits⟩ := handsOver.exact string isHanded
    exact ⟨oscString.of_suffix inside, fits⟩
  · rw [same]
    intro opened later next oscString fits outside
    rcases opens_cons.mp oscString.opens with rfl | opens
    · have isContent := oscString.content
      rw [found] at isContent
      cases isContent
      exact List.mem_cons_self
    · by_cases isAfter : Opens after opened
      · apply List.mem_cons_of_mem
        apply handsOver.complete opened later next _ fits
        · exact fun within => outside (within.of_suffix inside)
        · exact ⟨isAfter, oscString.content⟩
      · exact absurd ⟨rest, content, after, first, opens, isAfter⟩ outside

/-- Content that overflows is longer than the limit. -/
theorem overflows_long {place : Nat} {content : List UInt8}
    (full : overflows place content = true) :
    maxOscMetadataBytes < place + content.length := by
  induction content using paired.induct generalizing place with
  | case1 => cases full
  | case2 byte =>
      simp only [overflows, Bool.and_eq_true, decide_eq_true_iff] at full
      simp
      omega
  | case3 next rest inductionHypothesis =>
      have longer := @inductionHypothesis (place + 2)
        (by simpa [overflows] using full)
      simp
      omega
  | case4 byte next rest notEscape inductionHypothesis =>
      simp only [overflows, notEscape, if_false, Bool.or_eq_true,
        decide_eq_true_iff] at full
      rcases full with here | later
      · simp
        omega
      · have longer := inductionHypothesis later
        simp only [List.length_cons] at longer ⊢
        omega

/-- A string that is opened, when what comes after it is handed over. -/
theorem HandsOver.opening
    (collected : ∀ content after, oscContent rest = some (content, after) →
      Collected content)
    (later : ∀ next, next <:+ rest → HandsOver windows next) :
    HandsOver windows (0x1b :: 93 :: rest) := by
  cases found : oscContent rest with
  | none => exact .unterminated found
  | some parts =>
      obtain ⟨content, after⟩ := parts
      rcases collected content after found with full | ⟨isPaired, fits⟩
      · obtain ⟨dropped, suffix, afterSuffix, same⟩ :=
          @handed_overflow windows rest rest content after [] found full
        refine .dropped found (by simpa using overflows_long full) suffix
          afterSuffix ?_ (later dropped suffix)
        rw [handedStrings, handed_opened]
        exact same.trans (handed_outside (Or.inl rfl))
      · have room : overflows 0 content = false := by
          rw [Bool.eq_false_iff]
          intro full
          have long := overflows_long full
          omega
        have same := @handed_string windows rest rest content after [] found
          isPaired room
        refine .string found fits ?_ (later after (after_suffix found))
        rw [List.nil_append, List.take_of_length_le fits,
          handed_outside (Or.inl rfl)] at same
        rw [handedStrings, handed_opened]
        exact same

/-- Strings that are given up or collected are handed over as they are. -/
theorem HandsOver.of_collected
    (collected : ∀ opened content after,
      OscString stream opened content after → Collected content) :
    HandsOver windows stream := by
  induction length : stream.length using Nat.strong_induction_on
    generalizing stream with
  | h size inductionHypothesis =>
      subst length
      have later {next : List UInt8} (suffix : next <:+ stream)
          (shorter : next.length < stream.length) :
          HandsOver windows next :=
        inductionHypothesis next.length shorter
          (fun opened content after string =>
            collected opened content after (string.of_suffix suffix)) rfl
      match stream with
      | [] =>
          refine ⟨nofun, ?_, List.Pairwise.nil⟩
          intro opened content after string
          exact absurd string.opens.length_lt (Nat.not_lt_zero _)
      | byte :: bytes =>
          by_cases opens : ∃ rest, byte :: bytes = 0x1b :: 93 :: rest
          · obtain ⟨rest, isOpening⟩ := opens
            rw [isOpening] at collected later ⊢
            apply HandsOver.opening
            · intro content after found
              exact collected rest content after
                ⟨opens_cons.mpr (Or.inl rfl), found⟩
            · intro next suffix
              have shorter := suffix.length_le
              apply later (suffix.trans ⟨[0x1b, 93], rfl⟩)
              simp
              omega
          · exact (later (List.suffix_cons byte bytes)
              (Nat.lt_succ_self _)).skip (not_exists.mp opens)

/-- A string that is handed over at its terminator does not end in the middle of
a pair. -/
theorem paired_of_handed
    (isHanded : ⟨opened, content, after⟩ ∈ handedStrings windows stream)
    (found : oscContent opened = some (content, after)) :
    paired content = true := by
  have reading : Reading [] stream .normal := trivial
  obtain ⟨read, isPaired, isContent, shape⟩ :=
    (handed_terminated reading _ isHanded).1.shape
  dsimp only at isContent shape
  have short : content.length ≤ read.length := by
    rw [isContent, List.length_take]
    exact Nat.min_le_right _ _
  have whole (same : content.length = read.length) : content = read := by
    rw [isContent, List.take_eq_self_iff]
    rw [isContent, List.length_take] at same
    omega
  suffices isRead : content = read by rwa [isRead]
  apply whole
  rcases shape with isOpened | isOpened <;>
    rcases oscContent_eq_some found with isString | isString <;>
    rw [isOpened] at isString <;>
    have sizes := congrArg List.length isString <;>
    simp only [List.length_append, List.length_cons] at sizes
  · omega
  · -- A bell cannot end an escape and a backslash.
    have ends : (read ++ [0x07]) ++ after =
        (content ++ [0x1b, 92]) ++ after := by
      simpa using isString
    have last := congrArg List.getLast? (List.append_cancel_right ends)
    simp at last
  · omega
  · omega

/-- A byte that is no escape begins no pair, whatever is before it. -/
theorem paired_append_cons {before : List UInt8} (notEscape : byte ≠ 0x1b) :
    paired (before ++ byte :: bytes) = paired bytes := by
  have alone : paired (byte :: bytes) = paired bytes := by
    cases bytes with
    | nil => simp [paired, notEscape]
    | cons next bytes => simp [paired, notEscape]
  induction before using paired.induct with
  | case1 => exact alone
  | case2 first =>
      by_cases escape : first = 0x1b
      · simp [paired, escape]
      · simpa [paired, escape] using alone
  | case3 next rest inductionHypothesis =>
      simpa [paired] using inductionHypothesis
  | case4 first next rest notEscape inductionHypothesis =>
      simpa [paired, notEscape] using inductionHypothesis

/-- The content of a string inside another one ends it. -/
theorem content_of_inner {inner next : List UInt8}
    (found : oscContent bytes = some (content, after))
    (opens : Opens bytes opened)
    (foundInner : oscContent opened = some (inner, next)) :
    Opens after opened ∨
      ∃ before, content = before ++ 0x1b :: 93 :: inner := by
  induction content generalizing bytes with
  | nil =>
      left
      rcases oscContent_eq_nil found with rfl | rfl
      · exact (opens_skip (by simp)).mp opens
      · rw [opens_skip (by simp), opens_skip (by simp)] at opens
        exact opens
  | cons first content inductionHypothesis =>
      obtain ⟨-, rest, rfl, foundRest, -⟩ := oscContent_eq_cons found
      rcases List.suffix_cons_iff.mp opens with same | later
      · right
        obtain ⟨rfl, rfl⟩ := List.cons.inj same
        have reads : oscContent (93 :: opened) = some (93 :: inner, next) := by
          simp [oscContent, foundInner]
        cases reads.symm.trans foundRest
        exact ⟨[], rfl⟩
      · rcases inductionHypothesis foundRest later with isAfter | ⟨before, same⟩
        · exact Or.inl isAfter
        · exact Or.inr ⟨first :: before, by rw [same]; rfl⟩

/-- When no string that starts outside another one ends in the middle of a pair,
none does. -/
theorem paired_of_outermost
    (outermost : ∀ opened content after,
      OscString stream opened content after → ¬ Within stream opened →
        paired content = true)
    (string : OscString stream opened content after) :
    paired content = true := by
  induction size : stream.length - opened.length using
      Nat.strong_induction_on generalizing opened content after with
  | h size inductionHypothesis =>
      subst size
      by_cases within : Within stream opened
      · obtain ⟨outer, outerContent, outerAfter, outerString, opens,
          notAfter⟩ := within
        have nearer : stream.length - outer.length <
            stream.length - opened.length := by
          have inside := string.opens.length_lt
          have longer := opens.length_lt
          omega
        have isPaired := inductionHypothesis _ nearer outerString rfl
        rcases content_of_inner outerString.content opens string.content with
          isAfter | ⟨before, isContent⟩
        · exact absurd isAfter notAfter
        · rw [isContent, List.append_cons,
            paired_append_cons (by decide)] at isPaired
          exact isPaired
      · exact outermost opened content after string within

/-- A string that is too long but has nothing beyond the limit except pairs is
handed over without its end. -/
theorem not_handsOver_of_truncated
    (found : oscContent rest = some (content, after))
    (isPaired : paired content = true)
    (room : overflows 0 content = false)
    (long : maxOscMetadataBytes < content.length) :
    ¬ HandsOver windows (0x1b :: 93 :: rest) := by
  intro handsOver
  have same := @handed_string windows rest rest content after [] found
    isPaired room
  have told : ⟨rest, content.take maxOscMetadataBytes, after⟩ ∈
      handedStrings windows (0x1b :: 93 :: rest) := by
    rw [handedStrings, handed_opened]
    exact same ▸ List.mem_cons_self
  have complete := (handsOver.exact _ told).1.content
  rw [found] at complete
  have sizes := congrArg (fun parts => (parts.map fun parts =>
    parts.1.length).getD 0) complete
  simp at sizes
  omega

end HandsOver

/-- However some output is split into chunks, its metadata is what the strings
that are handed over tell.  They are its complete strings when each string is
given up or collected to its last byte, and when all strings fit, exactly when
none that starts outside another one ends in the middle of a pair. -/
theorem metadata_of_complete_strings (windows : Bool) (stream : List UInt8) :
    (∀ chunks : List (List UInt8), chunks.flatten = stream →
      (pushAll windows new chunks).2 =
        (handedStrings windows stream).filterMap fun string =>
          update windows string.content) ∧
    ((∀ opened content after, OscString stream opened content after →
      Collected content) → HandsOver windows stream) ∧
    ((∀ opened content after, OscString stream opened content after →
        content.length ≤ maxOscMetadataBytes) →
      (HandsOver windows stream ↔ ∀ opened content after,
        OscString stream opened content after → ¬ Within stream opened →
          paired content = true)) := by
  refine ⟨?_, .of_collected, fun fits => ⟨?_, ?_⟩⟩
  · rintro chunks rfl
    rw [new, pushAll_events, ← handed_contents windows .normal [],
      List.filterMap_map]
    rfl
  · intro handsOver opened content after string outside
    have isHanded := handsOver.complete opened content after string
      (fits opened content after string) outside
    exact paired_of_handed isHanded string.content
  · intro outermost
    apply HandsOver.of_collected
    intro opened content after string
    exact Or.inr ⟨paired_of_outermost outermost string,
      fits opened content after string⟩

/-- An escape before the bell that ends a string: the bell is taken for the
second byte of a pair, and the title that is told is no complete string. -/
def escapedBell : List UInt8 :=
  [0x1b, 93, 48, 59, 97, 0x1b, 0x07, 98, 0x07]

theorem escapedBell_not_handed :
    (push false new escapedBell).2 = [.title "a\x1b\x07b"] ∧
      ¬ HandsOver false escapedBell := by
  refine ⟨by decide, fun handsOver => ?_⟩
  have told : ⟨escapedBell.drop 2, [48, 59, 97, 0x1b, 0x07, 98], []⟩ ∈
      handedStrings false escapedBell := by
    decide
  have complete := (handsOver.exact _ told).1.content
  revert complete
  decide

end TerminalMetadataParser

end Host
end WhatsGoingOn
