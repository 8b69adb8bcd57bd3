import WhatsGoingOn.Library.ReadLoop
import WhatsGoingOn.Windows.WindowIpc

/-!
# Reading messages from a named pipe

The processes read what the pipe brings, and try to decode what has come after
each read.  A message that the pipe cuts at a bad place is refused, or taken for
another one.
-/

namespace WhatsGoingOn
namespace Windows

open Daemon (Fault Panic ServiceError usizeMax)
open Bytes (utf8 ofUtf8)

/-! ## The program -/

/-- `PAIRING_IPC_MAX_BYTES`. -/
def pairingIpcMaxBytes : Nat := 4096

/-- `WINDOW_IPC_MAX_BYTES`. -/
def windowIpcMaxBytes : Nat := 16 * 1024 * 1024

/-- An error of a loop: a message, or that the bytes are not UTF-8, with what
the loop adds to that. -/
inductive IpcReadError where
  | failed (message : String)
  | notUtf8 (context : String)
  deriving DecidableEq, Repr

/-- What a loop makes of its buffer. -/
def decodeBuffer {ε ρ : Type} (notUtf8 : ε)
    (decode : String → Option (Except ε ρ)) (bytes : List UInt8) :
    Option (Except ε ρ) :=
  match ofUtf8 bytes with
  | none => some (.error notUtf8)
  | some text => decode text

/-- The loop that reads a request. -/
def pairingRequestLoop : ReadLoop UInt8 IpcReadError PairingIpcRequest where
  limit := pairingIpcMaxBytes
  closed := .failed
    "pairing request pipe closed before a complete request was received"
  tooLarge := .failed "pairing request exceeds 4096 bytes"
  decode := decodeBuffer (.notUtf8 "pairing request is not UTF-8") fun text =>
    (decodePairingIpcRequest text).map .ok

/-- `read_pairing_ipc_request`, over what the reads bring. -/
def readPairingIpcRequest (reads : List (List UInt8)) :
    Except IpcReadError PairingIpcRequest :=
  pairingRequestLoop.read [] reads

/-- What the loop returns for a response. -/
def pairingOutcome (response : Except String Unit) : Except IpcReadError Unit :=
  response.mapError .failed

/-- The loop that reads the answer to a request. -/
def pairingResponseLoop : ReadLoop UInt8 IpcReadError Unit where
  limit := pairingIpcMaxBytes
  closed := .failed
    "pairing response pipe closed before a complete response was received"
  tooLarge := .failed "pairing response exceeds 4096 bytes"
  decode := decodeBuffer (.notUtf8 "pairing response is not UTF-8") fun text =>
    (decodePairingIpcResponse text).map pairingOutcome

/-- `read_pairing_ipc_response`. -/
def readPairingIpcResponse (reads : List (List UInt8)) :
    Except IpcReadError Unit :=
  pairingResponseLoop.read [] reads

/-- An error of the loop for windows: one of the service, or that the bytes are
not UTF-8. -/
inductive WindowIpcReadError where
  | fault (fault : Fault ServiceError)
  | notUtf8
  deriving DecidableEq, Repr

/-- The answer could not be read. -/
def WindowIpcReadError.failed (message : String) : WindowIpcReadError :=
  .fault (.error (.operationFailed message))

/-- What the loop returns for a response. -/
def windowOutcome (response : WindowResponse) :
    Except WindowIpcReadError (List WindowDetail) :=
  response.mapError .fault

/-- The loop that reads a snapshot of the windows. -/
def windowResponseLoop :
    ReadLoop UInt8 WindowIpcReadError (List WindowDetail) where
  limit := windowIpcMaxBytes
  closed := .failed
    "window snapshot response pipe closed before a complete response was received"
  tooLarge := .failed "window snapshot response exceeds 16777216 bytes"
  decode := decodeBuffer .notUtf8 fun text =>
    (decodeWindowIpcResponse text).map windowOutcome

/-- `read_window_ipc_response`. -/
def readWindowIpcResponse (reads : List (List UInt8)) :
    Except WindowIpcReadError (List WindowDetail) :=
  windowResponseLoop.read [] reads

/-! ## Messages that come in reads -/

/-- A text within a limit comes in reads that each bring some of it. -/
structure Delivers (limit : Nat) (text : String) (reads : List (List UInt8)) :
    Prop where
  nonempty : ∀ chunk ∈ reads, chunk ≠ []
  whole : reads.flatten = utf8 text
  small : (utf8 text).length ≤ limit

/-- No read but the last one ends inside a character. -/
def WholeCharacters (reads : List (List UInt8)) : Prop :=
  ∀ part ∈ ReadLoop.parts [] reads, ∃ text, utf8 text = part

/-- A read that is not the last one ends behind a text. -/
def EndsBehind (text : String) (reads : List (List UInt8)) : Prop :=
  utf8 text ∈ ReadLoop.parts [] reads

instance (text : String) (reads : List (List UInt8)) :
    Decidable (EndsBehind text reads) :=
  inferInstanceAs (Decidable (_ ∈ _))

section Loop

variable {ε ρ : Type} {notUtf8 : ε} {decode : String → Option (Except ε ρ)}

theorem decodeBuffer_utf8 (text : String) :
    decodeBuffer notUtf8 decode (utf8 text) = decode text := by
  rw [decodeBuffer, Bytes.ofUtf8_utf8]

/-- A text that another one begins with, and that is not all of it. -/
def StrictPart (part text : String) : Prop :=
  part.toList <+: text.toList ∧ part ≠ text

theorem Delivers.strictPart {limit : Nat} {text part : String}
    {reads : List (List UInt8)} (delivers : Delivers limit text reads)
    (ends : EndsBehind part reads) : StrictPart part text := by
  obtain ⟨initial, different⟩ :=
    ReadLoop.prefix_of_mem_parts delivers.nonempty ends
  rw [List.nil_append, delivers.whole] at initial different
  exact ⟨Text.toList_prefix_of_utf8 initial, fun same => different (by rw [same])⟩

theorem ascii_of_all {characters : List Char}
    (all : (characters.all fun character => character.toNat < 0x80) = true) :
    ∀ character ∈ characters, character.toNat < 0x80 := by
  simpa using all

/-- No read of a text in ASCII ends inside a character. -/
theorem Delivers.wholeCharacters {limit : Nat} {text : String}
    {reads : List (List UInt8)} (delivers : Delivers limit text reads)
    (ascii : ∀ character ∈ text.toList, character.toNat < 0x80) :
    WholeCharacters reads := by
  intro part member
  obtain ⟨initial, -⟩ := ReadLoop.prefix_of_mem_parts delivers.nonempty member
  have bytes (characters : List Char)
      (ascii : ∀ character ∈ characters, character.toNat < 0x80) :
      utf8 (String.ofList characters) =
        characters.map fun character => UInt8.ofNat character.toNat := by
    rw [Text.utf8_ofList, List.map_eq_flatMap]
    refine List.flatMap_congr fun character known => ?_
    exact Text.utf8EncodeChar_ascii (ascii character known)
  have whole := bytes text.toList ascii
  rw [String.ofList_toList] at whole
  rw [List.nil_append, delivers.whole, whole] at initial
  obtain ⟨front, before, rfl⟩ := List.prefix_map_iff.mp initial
  exact ⟨String.ofList front,
    bytes front fun character known => ascii character (before.subset known)⟩

/-- A loop returns the decoding of a text exactly where each part that a read
ends behind is a text that is decoded as nothing, or as the whole text. -/
theorem read_iff (loop : ReadLoop UInt8 ε ρ) {text : String}
    {reads : List (List UInt8)} {result : Except ε ρ}
    (decodes : loop.decode = decodeBuffer notUtf8 decode)
    (delivers : Delivers loop.limit text reads) (some : text ≠ "")
    (whole : decode text = .some result)
    (refused : result ≠ .error notUtf8)
    (early : ∀ part, StrictPart part text → decode part = .some result →
      (∀ character ∈ text.toList, character.toNat < 0x80) ∧
        ∀ other, StrictPart other text →
          decode other = none ∨ decode other = .some result) :
    loop.read [] reads = result ↔ WholeCharacters reads ∧
      ∀ part, EndsBehind part reads →
        decode part = none ∨ decode part = .some result := by
  have read : reads ≠ [] := by
    rintro rfl
    have nothing : utf8 text = utf8 "" := delivers.whole.symm
    exact some (Bytes.utf8_injective nothing)
  have harmless_text (part : String) :
      loop.Harmless result (utf8 part) ↔
        decode part = none ∨ decode part = .some result := by
    rw [ReadLoop.Harmless, decodes, decodeBuffer_utf8]
  have text_of_harmless {part : List UInt8}
      (harmless : loop.Harmless result part) : ∃ text, utf8 text = part := by
    rw [ReadLoop.Harmless, decodes, decodeBuffer] at harmless
    cases decoded : ofUtf8 part with
    | some text => exact ⟨text, Bytes.utf8_of_ofUtf8 decoded⟩
    | none =>
        rw [decoded] at harmless
        rcases harmless with impossible | same
        · cases impossible
        · exact absurd (Option.some.inj same).symm refused
  have all : (∀ part ∈ ReadLoop.parts [] reads, loop.Harmless result part) ↔
      WholeCharacters reads ∧ ∀ part, EndsBehind part reads →
        decode part = none ∨ decode part = .some result := by
    constructor
    · intro harmless
      exact ⟨fun part member => text_of_harmless (harmless part member),
        fun part ends => (harmless_text part).mp (harmless _ ends)⟩
    · rintro ⟨characters, texts⟩ part member
      obtain ⟨text, rfl⟩ := characters part member
      exact (harmless_text text).mpr (texts text member)
  rw [← all]
  refine ReadLoop.read_eq_iff delivers.nonempty read ?_ ?_ ?_
  · rw [List.nil_append, delivers.whole]
    exact delivers.small
  · rw [List.nil_append, delivers.whole, decodes, decodeBuffer_utf8, whole]
  · intro part member same
    obtain ⟨partText, rfl⟩ := text_of_harmless (.inr same)
    rw [decodes, decodeBuffer_utf8] at same
    obtain ⟨ascii, texts⟩ := early partText (delivers.strictPart member) same
    exact all.mpr ⟨delivers.wholeCharacters ascii,
      fun other ends => texts other (delivers.strictPart ends)⟩

end Loop

/-! ## Requests -/

theorem ne_empty_of_lines {text : String} {line : String}
    {lines : List String} (same : text.toList = Text.unlines (line :: lines)) :
    text ≠ "" := by
  rintro rfl
  rw [Text.unlines_cons] at same
  exact List.append_ne_nil_of_right_ne_nil _ (List.cons_ne_nil _ _) same.symm

/-- A request is read as it is decoded exactly where no read ends inside a
character. -/
theorem readPairingIpcRequest_iff {request : PairingIpcRequest}
    {reads : List (List UInt8)}
    (delivers : Delivers pairingIpcMaxBytes (encodePairingIpcRequest request)
      reads) :
    readPairingIpcRequest reads = .ok request.withoutBreaks ↔
      WholeCharacters reads := by
  have none (part : String)
      (strict : StrictPart part (encodePairingIpcRequest request)) :
      decodePairingIpcRequest part = none :=
    decodePairingIpcRequest_part request strict.1 strict.2
  have some : encodePairingIpcRequest request ≠ "" := by
    have same := encodePairingIpcRequest_eq request
    cases request <;> exact ne_empty_of_lines same
  have whole : (decodePairingIpcRequest (encodePairingIpcRequest request)).map
      (.ok : _ → Except IpcReadError _) = .some (.ok request.withoutBreaks) := by
    rw [decode_encodePairingIpcRequest]
    rfl
  refine (read_iff pairingRequestLoop rfl delivers some whole nofun ?_).trans
    (and_iff_left ?_)
  · intro part strict same
    rw [none part strict] at same
    cases same
  intro part ends
  rw [none part (delivers.strictPart ends)]
  exact .inl rfl

/-! ## Responses with an error -/

/-- The first two lines of an error. -/
def errorStart (version : String) : String :=
  version ++ "\nerror\n"

/-- The message of an error as it is read back. -/
def shownMessage (message : String) : String :=
  Text.withoutReturn (Text.replaceChar '\n' ' ' message)

/-- A decoder that takes the third line of an error for its message, and a
message of its own where there is none. -/
structure Refuses {ε ρ : Type} (version fallback : String)
    (failed : String → Except ε ρ) (decode : String → Option (Except ε ρ)) :
    Prop where
  incomplete : ∀ text, Text.endsWith "\n" text = false → decode text = none
  versionOnly : ∀ text, Text.endsWith "\n" text = true →
    Text.lines text = [version] → decode text = none
  error : ∀ text rest, Text.endsWith "\n" text = true →
    Text.lines text = version :: "error" :: rest →
      decode text = some (failed (rest.head?.getD fallback))
  injective : Function.Injective failed
  plain : Text.IsPlain version
  ascii : ∀ character ∈ version.toList ++ fallback.toList,
    character.toNat < 0x80

namespace Refuses

variable {ε ρ : Type} {version fallback : String}
  {failed : String → Except ε ρ} {decode : String → Option (Except ε ρ)}
  {text : String} {message : String}

theorem noBreak_replaceChar (message : String) :
    '\n' ∉ (Text.replaceChar '\n' ' ' message).toList := by
  rw [Text.replaceChar, String.toList_ofList]
  intro member
  obtain ⟨character, -, same⟩ := List.mem_map.mp member
  split at same
  · cases same
  · contradiction

/-- The lines of an error. -/
theorem noBreak (refuses : Refuses version fallback failed decode)
    (message : String) :
    ∀ line ∈ [version, "error", Text.replaceChar '\n' ' ' message],
      '\n' ∉ line.toList := by
  simp only [List.forall_mem_cons]
  exact ⟨refuses.plain.1, by decide, noBreak_replaceChar message,
    List.forall_mem_nil _⟩

theorem whole (refuses : Refuses version fallback failed decode)
    (same : text.toList =
      Text.unlines [version, "error", Text.replaceChar '\n' ' ' message]) :
    decode text = some (failed (shownMessage message)) := by
  have lines := Text.lines_eq same (refuses.noBreak message)
  have ends := Text.endsWith_newline same (List.cons_ne_nil _ _)
  rw [List.map_cons, refuses.plain.withoutReturn] at lines
  exact refuses.error text [shownMessage message] ends lines

/-- The first two lines are an error without a message. -/
theorem start (refuses : Refuses version fallback failed decode) :
    decode (errorStart version) = some (failed fallback) := by
  have same : (errorStart version).toList =
      Text.unlines [version, "error"] := by
    simp [errorStart]
  have lines := Text.lines_eq same fun line member =>
    refuses.noBreak "" line (by simp at member ⊢; tauto)
  have ends := Text.endsWith_newline same (List.cons_ne_nil _ _)
  rw [List.map_cons, refuses.plain.withoutReturn] at lines
  exact refuses.error _ [] ends lines

/-- No other part of an error is decoded. -/
theorem part (refuses : Refuses version fallback failed decode)
    (same : text.toList =
      Text.unlines [version, "error", Text.replaceChar '\n' ' ' message])
    {part : String} (strict : StrictPart part text) :
    decode part = none ∨ part = errorStart version := by
  cases ends : Text.endsWith "\n" part with
  | false => exact .inl (refuses.incomplete part ends)
  | true =>
      obtain ⟨count, few, taken, lines⟩ := Text.lines_of_part same
        (refuses.noBreak message) strict.1 strict.2 ends
      simp only [List.length_cons, List.length_nil] at few
      match count, few with
      | 0, _ =>
          rw [List.take_succ_cons, List.take_zero, List.map_singleton,
            refuses.plain.withoutReturn] at lines
          exact .inl (refuses.versionOnly part ends lines)
      | 1, _ =>
          right
          apply String.toList_inj.mp
          rw [taken]
          simp [errorStart]

/-- The characters of an error whose message is read back as the message of
the decoder. -/
theorem ascii_of_shown (refuses : Refuses version fallback failed decode)
    (same : text.toList =
      Text.unlines [version, "error", Text.replaceChar '\n' ' ' message])
    (shown : shownMessage message = fallback) :
    ∀ character ∈ text.toList, character.toNat < 0x80 := by
  have ascii := List.forall_mem_append.mp refuses.ascii
  intro character member
  rw [same] at member
  simp only [Text.unlines_cons, Text.unlines_nil, List.mem_append,
    List.mem_cons, List.not_mem_nil, or_false] at member
  rcases member with inVersion | rfl | inError | rfl | inMessage | rfl
  · exact ascii.1 character inVersion
  · decide
  · have letters : ∀ letter ∈ "error".toList, letter.toNat < 0x80 :=
      ascii_of_all rfl
    exact letters character inError
  · decide
  · rcases Text.mem_withoutReturn inMessage with inShown | rfl
    · rw [← shown] at ascii
      exact ascii.2 character inShown
    · decide
  · decide

/-- An error is read as it is decoded exactly where no read ends inside a
character, nor behind the first two lines, unless its message is the one of the
decoder. -/
theorem read_iff (refuses : Refuses version fallback failed decode)
    (loop : ReadLoop UInt8 ε ρ) {notUtf8 : ε} {reads : List (List UInt8)}
    (decodes : loop.decode = decodeBuffer notUtf8 decode)
    (refused : ∀ shown, failed shown ≠ .error notUtf8)
    (same : text.toList =
      Text.unlines [version, "error", Text.replaceChar '\n' ' ' message])
    (delivers : Delivers loop.limit text reads) :
    loop.read [] reads = failed (shownMessage message) ↔
      WholeCharacters reads ∧
        (EndsBehind (errorStart version) reads →
          shownMessage message = fallback) := by
  have start := refuses.start
  have harmless (shown : shownMessage message = fallback) (part : String)
      (strict : StrictPart part text) :
      decode part = none ∨
        decode part = some (failed (shownMessage message)) := by
    rcases refuses.part same strict with missing | rfl
    · exact .inl missing
    · exact .inr (start.trans (by rw [shown]))
  have shown_of_start
      (decoded : decode (errorStart version) =
        some (failed (shownMessage message))) :
      shownMessage message = fallback := by
    rw [start] at decoded
    exact (refuses.injective (Option.some.inj decoded)).symm
  refine (Windows.read_iff loop decodes delivers (ne_empty_of_lines same)
    (refuses.whole same) (refused _) ?_).trans (and_congr_right fun _ => ?_)
  · intro part strict decoded
    rcases refuses.part same strict with missing | rfl
    · rw [missing] at decoded
      cases decoded
    · have shown := shown_of_start decoded
      exact ⟨refuses.ascii_of_shown same shown, harmless shown⟩
  · constructor
    · intro texts ends
      rcases texts _ ends with missing | decoded
      · rw [start] at missing
        cases missing
      · exact shown_of_start decoded
    · intro shown part ends
      have strict := delivers.strictPart ends
      rcases refuses.part same strict with missing | rfl
      · exact .inl missing
      · exact harmless (shown ends) _ strict

end Refuses

/-! ## Responses -/

/-- How an error in a pairing response is decoded. -/
theorem refuses_pairing :
    Refuses pairingIpcVersion "pairing request was rejected"
      (fun message => pairingOutcome (.error message))
      (fun text => (decodePairingIpcResponse text).map pairingOutcome) where
  incomplete text ends := by
    rw [decodePairingIpcResponse, ends]
    rfl
  versionOnly text ends lines := by
    rw [decodePairingIpcResponse, ends, lines]
    rfl
  error text rest ends lines := by
    rw [decodePairingIpcResponse, ends, lines]
    rfl
  injective left right same := by
    injection same with same
    injection same
  plain := Text.isPlain_of_all rfl
  ascii := ascii_of_all rfl

/-- How an error in a window response is decoded. -/
theorem refuses_window :
    Refuses windowIpcVersion "window snapshot request was rejected"
      (fun message => windowOutcome (.failed message))
      (fun text => (decodeWindowIpcResponse text).map windowOutcome) where
  incomplete text ends := by
    rw [decodeWindowIpcResponse, ends]
    rfl
  versionOnly text ends lines := by
    rw [decodeWindowIpcResponse, ends, lines]
    rfl
  error text rest ends lines := by
    rw [decodeWindowIpcResponse, ends, lines]
    rfl
  injective left right same := by
    injection same with same
    injection same with same
    injection same with same
    injection same
  plain := Text.isPlain_of_all rfl
  ascii := ascii_of_all rfl

/-- A confirmation is read as one exactly when no read cuts a character. -/
theorem readPairingIpcResponse_ok_iff {reads : List (List UInt8)}
    (delivers : Delivers pairingIpcMaxBytes encodePairingIpcOkResponse reads) :
    readPairingIpcResponse reads = .ok () ↔ WholeCharacters reads := by
  have same : encodePairingIpcOkResponse.toList =
      Text.unlines [pairingIpcVersion, "ok"] := by
    simp [encodePairingIpcOkResponse]
  have none (part : String)
      (strict : StrictPart part encodePairingIpcOkResponse) :
      (decodePairingIpcResponse part).map pairingOutcome = none := by
    cases ends : Text.endsWith "\n" part with
    | false => exact refuses_pairing.incomplete part ends
    | true =>
        obtain ⟨count, few, -, lines⟩ := Text.lines_of_part same
          (by decide) strict.1 strict.2 ends
        match count, few with
        | 0, _ => exact refuses_pairing.versionOnly part ends lines
  refine (read_iff pairingResponseLoop rfl delivers (ne_empty_of_lines same)
    (show _ = some (.ok ()) by decide) nofun ?_).trans (and_iff_left ?_)
  · intro part strict decoded
    rw [none part strict] at decoded
    cases decoded
  · exact fun part ends => .inl (none part (delivers.strictPart ends))

/-- The first two lines of a response with windows. -/
def windowIpcOkStart : String := windowIpcVersion ++ "\nok\n"

/-- Windows are read exactly where no read ends inside a character, nor behind
the first two lines. -/
theorem readWindowIpcResponse_ok_iff {details : List WindowDetail}
    {text : String} {reads : List (List UInt8)}
    (few : details.length ≤ usizeMax)
    (within : ∀ detail ∈ details, detail.Within)
    (held : ∀ detail ∈ details, detail.Held)
    (encoded : encodeWindowIpcOkResponse details = .ok text)
    (delivers : Delivers windowIpcMaxBytes text reads) :
    readWindowIpcResponse reads = .ok details ↔
      WholeCharacters reads ∧ ¬ EndsBehind windowIpcOkStart reads := by
  obtain ⟨written, decoded, whole⟩ :=
    decode_encodeWindowIpcOkResponse few within held
  rw [encoded] at decoded
  cases decoded
  obtain ⟨written, payloads, again, same, length, plain, -⟩ :=
    encodeWindowIpcOkResponse_eq within held
  rw [encoded] at again
  cases again
  have start : decodeWindowIpcResponse windowIpcOkStart =
      some (.failed "window snapshot response is malformed") := by
    decide
  have parts (part : String) (strict : StrictPart part text) :
      decodeWindowIpcResponse part = none ∨ part = windowIpcOkStart := by
    cases ends : Text.endsWith "\n" part with
    | false =>
        left
        rw [decodeWindowIpcResponse, ends]
        rfl
    | true =>
        obtain ⟨count, fewer, taken, lines⟩ := Text.lines_of_part same
          (fun line member => (plain line member).1) strict.1 strict.2 ends
        rw [Text.map_withoutReturn fun line member =>
          plain line (List.mem_of_mem_take member)] at lines
        simp only [okLines, List.length_cons] at fewer
        obtain rfl | rfl | ⟨count, rfl⟩ :
            count = 0 ∨ count = 1 ∨ ∃ more, count = more + 2 := by
          rcases count with - | - | count <;> simp
        · left
          rw [decodeWindowIpcResponse, ends, lines]
          rfl
        · right
          apply String.toList_inj.mp
          rw [taken]
          simp [okLines, windowIpcOkStart]
        · left
          have read := windowIpcResponseOfLines_ok
            (length.le.trans few) count
          rw [if_neg (by omega)] at read
          rw [decodeWindowIpcResponse, ends, lines]
          exact read
  refine (read_iff windowResponseLoop rfl delivers (ne_empty_of_lines same)
    (show _ = some (.ok details) by rw [whole]; rfl) (by simp) ?_).trans
      (and_congr_right fun _ => ?_)
  · intro part strict decoded
    rcases parts part strict with missing | rfl
    · rw [missing] at decoded
      cases decoded
    · rw [start] at decoded
      cases decoded
  · constructor
    · intro texts ends
      rcases texts _ ends with missing | decoded
      · rw [start] at missing
        cases missing
      · rw [start] at decoded
        cases decoded
    · intro notBehind part ends
      rcases parts part (delivers.strictPart ends) with missing | rfl
      · rw [missing]
        exact .inl rfl
      · exact absurd ends notBehind

/-! ## All messages -/

/-- A message that a process writes to a pipe. -/
inductive IpcMessage where
  | pairingRequest (request : PairingIpcRequest)
  | pairingOk
  | pairingError (message : String)
  | windowOk (details : List WindowDetail)
  | windowError (message : String)

namespace IpcMessage

/-- The text that is written. -/
def encode : IpcMessage → Except Panic String
  | .pairingRequest request => .ok (encodePairingIpcRequest request)
  | .pairingOk => .ok encodePairingIpcOkResponse
  | .pairingError message => .ok (encodePairingIpcErrorResponse message)
  | .windowOk details => encodeWindowIpcOkResponse details
  | .windowError message => .ok (encodeWindowIpcErrorResponse message)

/-- How many bytes the loop for the message takes. -/
def maxBytes : IpcMessage → Nat
  | .pairingRequest _ | .pairingOk | .pairingError _ => pairingIpcMaxBytes
  | .windowOk _ | .windowError _ => windowIpcMaxBytes

/-- The windows are ones that Rust holds, in the ranges of the schema. -/
def Holds : IpcMessage → Prop
  | .windowOk details =>
      details.length ≤ usizeMax ∧
        ∀ detail ∈ details, detail.Within ∧ detail.Held
  | _ => True

/-- The loop for the message returns what its decoder makes of the whole
text. -/
def ReturnsDecoding (message : IpcMessage) (text : String)
    (reads : List (List UInt8)) : Prop :=
  match message with
  | .pairingRequest _ =>
      (decodePairingIpcRequest text).map .ok =
        some (readPairingIpcRequest reads)
  | .pairingOk | .pairingError _ =>
      (decodePairingIpcResponse text).map pairingOutcome =
        some (readPairingIpcResponse reads)
  | .windowOk _ | .windowError _ =>
      (decodeWindowIpcResponse text).map windowOutcome =
        some (readWindowIpcResponse reads)

/-- No read but the last one ends behind the first two lines of windows, or of
an error with another message than that of the decoder. -/
def Spared (message : IpcMessage) (reads : List (List UInt8)) : Prop :=
  match message with
  | .pairingRequest _ | .pairingOk => True
  | .pairingError message =>
      EndsBehind (errorStart pairingIpcVersion) reads →
        shownMessage message = "pairing request was rejected"
  | .windowOk _ => ¬ EndsBehind windowIpcOkStart reads
  | .windowError message =>
      EndsBehind (errorStart windowIpcVersion) reads →
        shownMessage message = "window snapshot request was rejected"

end IpcMessage

/-- The loops return the decoding of a whole message exactly where no read but
the last one ends inside a character, and none ends behind the first two lines
of windows, or of an error with another message than that of the decoder. -/
theorem ipc_loops_return_decoding_iff
    (message : IpcMessage) (text : String) (reads : List (List UInt8))
    (encoded : message.encode = .ok text) (holds : message.Holds)
    (delivers : Delivers message.maxBytes text reads) :
    message.ReturnsDecoding text reads ↔
      WholeCharacters reads ∧ message.Spared reads := by
  cases message with
  | pairingRequest request =>
      cases encoded
      unfold IpcMessage.ReturnsDecoding
      dsimp only
      rw [decode_encodePairingIpcRequest, Option.map_some, Option.some.injEq,
        eq_comm]
      exact (readPairingIpcRequest_iff delivers).trans
        (and_iff_left trivial).symm
  | pairingOk =>
      cases encoded
      have whole : (decodePairingIpcResponse encodePairingIpcOkResponse).map
          pairingOutcome = some (.ok ()) := by
        decide
      unfold IpcMessage.ReturnsDecoding
      dsimp only
      rw [whole, Option.some.injEq, eq_comm]
      exact (readPairingIpcResponse_ok_iff delivers).trans
        (and_iff_left trivial).symm
  | pairingError message =>
      cases encoded
      have same : (encodePairingIpcErrorResponse message).toList =
          Text.unlines [pairingIpcVersion, "error",
            Text.replaceChar '\n' ' ' message] := by
        simp [encodePairingIpcErrorResponse]
      unfold IpcMessage.ReturnsDecoding
      dsimp only
      rw [refuses_pairing.whole same, Option.some.injEq, eq_comm]
      exact refuses_pairing.read_iff pairingResponseLoop rfl nofun same delivers
  | windowOk details =>
      obtain ⟨few, each⟩ := holds
      have within : ∀ detail ∈ details, detail.Within :=
        fun detail member => (each detail member).1
      have held : ∀ detail ∈ details, detail.Held :=
        fun detail member => (each detail member).2
      obtain ⟨written, again, whole⟩ :=
        decode_encodeWindowIpcOkResponse few within held
      have encoded : encodeWindowIpcOkResponse details = .ok text := encoded
      rw [encoded] at again
      cases again
      unfold IpcMessage.ReturnsDecoding
      dsimp only
      rw [whole, Option.map_some, Option.some.injEq, eq_comm]
      exact readWindowIpcResponse_ok_iff few within held encoded delivers
  | windowError message =>
      cases encoded
      have same : (encodeWindowIpcErrorResponse message).toList =
          Text.unlines [windowIpcVersion, "error",
            Text.replaceChar '\n' ' ' message] := by
        simp [encodeWindowIpcErrorResponse]
      unfold IpcMessage.ReturnsDecoding
      dsimp only
      rw [refuses_window.whole same, Option.some.injEq, eq_comm]
      exact refuses_window.read_iff windowResponseLoop rfl nofun same delivers

/-- The bytes of a text in two reads. -/
def cutAt (count : Nat) (text : String) : List (List UInt8) :=
  [(utf8 text).take count, (utf8 text).drop count]

/-- A request to confirm a phone with an accent in its label. -/
def phoneRequest : PairingIpcRequest :=
  .confirm ⟨"https://a", "1234", "é"⟩

/-- The request in front of the label and no window behind the count. -/
theorem ipc_loops_return_decoding_iff_phone :
    IpcMessage.ReturnsDecoding (.pairingRequest phoneRequest)
        (encodePairingIpcRequest phoneRequest)
        (cutAt 34 (encodePairingIpcRequest phoneRequest)) ∧
      IpcMessage.ReturnsDecoding (.windowOk []) "windows.v1\nok\n0\n"
        (cutAt 15 "windows.v1\nok\n0\n") := by
  constructor
  · refine (ipc_loops_return_decoding_iff (.pairingRequest phoneRequest) _ _
      rfl trivial ⟨by decide, by decide, by decide⟩).mpr
        ⟨fun part member => ?_, trivial⟩
    obtain rfl := List.mem_singleton.mp member
    exact ⟨"pairing.v2\nconfirm\nhttps://a\n1234\n", by decide⟩
  · have behind : ¬ EndsBehind windowIpcOkStart
        (cutAt 15 "windows.v1\nok\n0\n") := by
      decide
    refine (ipc_loops_return_decoding_iff (.windowOk []) _ _ (by decide)
      ⟨by decide, List.forall_mem_nil _⟩
      ⟨by decide, by decide, by decide⟩).mpr ⟨fun part member => ?_, behind⟩
    obtain rfl := List.mem_singleton.mp member
    exact ⟨"windows.v1\nok\n0", by decide⟩

/-- A request is refused that is cut inside a character.  The message of an
error is lost, and windows are, where a read ends behind the first two lines. -/
theorem messages_cut_by_pipe :
    let request := cutAt 35 (encodePairingIpcRequest phoneRequest)
    let response := cutAt 17 (encodePairingIpcErrorResponse "denied")
    let windows := cutAt 14 "windows.v1\nok\n0\n"
    (Delivers pairingIpcMaxBytes (encodePairingIpcRequest phoneRequest)
          request ∧
        decodePairingIpcRequest (encodePairingIpcRequest phoneRequest) =
          some phoneRequest ∧
        readPairingIpcRequest request =
          .error (.notUtf8 "pairing request is not UTF-8")) ∧
      (Delivers pairingIpcMaxBytes (encodePairingIpcErrorResponse "denied")
          response ∧
        decodePairingIpcResponse (encodePairingIpcErrorResponse "denied") =
          some (.error "denied") ∧
        readPairingIpcResponse response =
          .error (.failed "pairing request was rejected")) ∧
      encodeWindowIpcOkResponse [] = .ok "windows.v1\nok\n0\n" ∧
        Delivers windowIpcMaxBytes "windows.v1\nok\n0\n" windows ∧
        decodeWindowIpcResponse "windows.v1\nok\n0\n" = some (.ok []) ∧
        readWindowIpcResponse windows =
          .error (.failed "window snapshot response is malformed") := by
  refine ⟨⟨⟨?_, ?_, ?_⟩, ?_, ?_⟩, ⟨⟨?_, ?_, ?_⟩, ?_, ?_⟩, ?_, ⟨?_, ?_, ?_⟩, ?_,
    ?_⟩
  all_goals decide

end Windows
end WhatsGoingOn
