import WhatsGoingOn.Host.Terminal
import WhatsGoingOn.Library.Utf8
import WhatsGoingOn.Windows.PairingIpc
import WhatsGoingOn.Windows.WindowDetail

/-!
# Messages with windows between processes

The daemon of Windows asks the process of a user for the windows of the user.
A response is text: one line in hexadecimal for the bytes of each window, or
the message of an error.
-/

namespace WhatsGoingOn
namespace Windows

open Daemon (usizeMax Panic Fault CodecError ServiceError WindowInfo)

/-- `WINDOW_IPC_VERSION`. -/
def windowIpcVersion : String := "windows.v1"

/-! ## Bytes in hexadecimal -/

/-- `DIGITS` at an index. -/
def hexDigit (index : UInt8) : Char :=
  "0123456789abcdef".toList.getD index.toNat '0'

/-- `hex_encode`. -/
def hexEncode (bytes : List UInt8) : String :=
  String.ofList
    (bytes.flatMap fun byte : UInt8 =>
      [hexDigit (byte >>> 4), hexDigit (byte &&& 15)])

/-- `hex_nibble`. -/
def hexNibble (byte : UInt8) : Except ServiceError UInt8 :=
  if 0x30 ≤ byte ∧ byte ≤ 0x39 then .ok (byte - 0x30)
  else if 0x61 ≤ byte ∧ byte ≤ 0x66 then .ok (byte - 0x61 + 10)
  else if 0x41 ≤ byte ∧ byte ≤ 0x46 then .ok (byte - 0x41 + 10)
  else .error (.operationFailed "hex payload contains a non-hex byte")

/-- The loop of `hex_decode`. -/
def hexPairs : List UInt8 → Except ServiceError (List UInt8)
  | first :: second :: rest => do
      let high ← hexNibble first
      let low ← hexNibble second
      let bytes ← hexPairs rest
      pure ((high <<< 4 ||| low) :: bytes)
  | _ => .ok []

/-- `hex_decode`. -/
def hexDecode (text : String) : Except ServiceError (List UInt8) :=
  let raw := Bytes.utf8 text
  if raw.length % 2 ≠ 0 then
    .error (.operationFailed "hex payload has odd length")
  else hexPairs raw

/-! ## Responses -/

/-- The line of a window. -/
def encodePayload (detail : WindowDetail) : Except Panic String :=
  hexEncode <$> detail.encode

/-- `encode_window_ipc_ok_response`. -/
def encodeWindowIpcOkResponse (details : List WindowDetail) :
    Except Panic String := do
  let payloads ← details.mapM encodePayload
  pure (windowIpcVersion ++ "\nok\n" ++ toString details.length ++ "\n" ++
    String.join (payloads.map (· ++ "\n")))

/-- `encode_window_ipc_error_response`. -/
def encodeWindowIpcErrorResponse (message : String) : String :=
  windowIpcVersion ++ "\nerror\n" ++ Text.replaceChar '\n' ' ' message ++ "\n"

/-- The window of a line. -/
def decodePayload (line : String) :
    Except (Fault ServiceError) WindowDetail :=
  match hexDecode line with
  | .error failure => .error (.error failure)
  | .ok bytes =>
      match WindowDetail.decode bytes with
      | .ok detail => .ok detail
      | .error (.error failure) =>
          .error (.error (.operationFailed failure.text))
      | .error (.panic cause) => .error (.panic cause)

/-- What a response says, or a panic. -/
abbrev WindowResponse : Type :=
  Except (Fault ServiceError) (List WindowDetail)

/-- The response that carries an error. -/
def WindowResponse.failed (message : String) : WindowResponse :=
  .error (.error (.operationFailed message))

/-- The response of the lines after the version. -/
def windowIpcResponseOfLines : List String → Option WindowResponse
  | [] => none
  | "ok" :: lines =>
      match lines.head?.bind (Decimal.parseUnsigned usizeMax) with
      | none => some (.failed "window snapshot response is malformed")
      | some count =>
          let payloads := lines.tail.take count
          if payloads.length ≠ count then none
          else some (payloads.mapM decodePayload)
  | "error" :: lines =>
      some (.failed
        (lines.head?.getD "window snapshot request was rejected"))
  | _ => some (.failed "window snapshot response is malformed")

/-- `decode_window_ipc_response`. -/
def decodeWindowIpcResponse (text : String) : Option WindowResponse :=
  if !Text.endsWith "\n" text then none
  else
    match Text.lines text with
    | [] => some (.failed "window snapshot response has an unknown version")
    | version :: lines =>
        if version ≠ windowIpcVersion then
          some (.failed "window snapshot response has an unknown version")
        else windowIpcResponseOfLines lines

/-! ## Hexadecimal is read back -/

theorem hexDigit_below (index : Fin 16) :
    (hexDigit (UInt8.ofNat index)).toNat < 0x80 ∧
      hexDigit (UInt8.ofNat index) ≠ '\n' ∧
        hexDigit (UInt8.ofNat index) ≠ '\r' := by
  revert index
  decide

theorem hexNibble_below (index : Fin 16) :
    hexNibble (UInt8.ofNat (hexDigit (UInt8.ofNat index)).toNat) =
      .ok (UInt8.ofNat index) := by
  revert index
  decide

/-- The halves of a byte make the byte. -/
theorem nibbles (byte : UInt8) :
    (byte >>> 4) <<< 4 ||| (byte &&& 15) = byte := by
  apply UInt8.toBitVec_inj.mp
  ext index bound
  by_cases low : index < 4
  · have mask : (15#8)[index] = true := by
      match index, low with
      | 0, _ | 1, _ | 2, _ | 3, _ => simp
    simp [low, mask]
  · have mask : (15#8)[index] = false := by
      match index, low, bound with
      | 4, _, _ | 5, _, _ | 6, _, _ | 7, _, _ => simp
    have place : 4 + (index - 4) = index := by omega
    simp [low, mask, place, BitVec.getLsbD_eq_getElem bound]

theorem shiftRight_lt (byte : UInt8) : (byte >>> 4).toNat < 16 := by
  have small := byte.toNat_lt
  have shifted : (byte >>> 4).toNat = byte.toNat / 16 := by
    simp [Nat.shiftRight_eq_div_pow]
  omega

theorem and_lt (byte : UInt8) : (byte &&& 15).toNat < 16 := by
  rw [UInt8.toNat_and]
  exact Nat.and_lt_two_pow (n := 4) _ (by decide)

/-- A digit is read back, and it is a character of a plain line. -/
theorem hexDigit_spec {index : UInt8} (small : index.toNat < 16) :
    ((hexDigit index).toNat < 0x80 ∧
      hexDigit index ≠ '\n' ∧ hexDigit index ≠ '\r') ∧
        hexNibble (UInt8.ofNat (hexDigit index).toNat) = .ok index := by
  have below := hexDigit_below ⟨index.toNat, small⟩
  have read := hexNibble_below ⟨index.toNat, small⟩
  rw [UInt8.ofNat_toNat] at below read
  exact ⟨below, read⟩

theorem utf8_hexEncode_cons (byte : UInt8) (bytes : List UInt8) :
    Bytes.utf8 (hexEncode (byte :: bytes)) =
      UInt8.ofNat (hexDigit (byte >>> 4)).toNat ::
        UInt8.ofNat (hexDigit (byte &&& 15)).toNat ::
          Bytes.utf8 (hexEncode bytes) := by
  have high := (hexDigit_spec (shiftRight_lt byte)).1.1
  have low := (hexDigit_spec (and_lt byte)).1.1
  simp only [hexEncode, Text.utf8_ofList, List.flatMap_cons,
    List.cons_append, List.nil_append, Text.utf8EncodeChar_ascii high,
    Text.utf8EncodeChar_ascii low]

theorem hexPairs_hexEncode (bytes : List UInt8) :
    hexPairs (Bytes.utf8 (hexEncode bytes)) = .ok bytes := by
  induction bytes with
  | nil => rfl
  | cons byte bytes inductionHypothesis =>
      rw [utf8_hexEncode_cons, hexPairs, (hexDigit_spec (shiftRight_lt byte)).2,
        (hexDigit_spec (and_lt byte)).2, inductionHypothesis]
      exact congrArg (fun first => Except.ok (first :: bytes)) (nibbles byte)

/-- Hexadecimal is read back. -/
theorem hexDecode_hexEncode (bytes : List UInt8) :
    hexDecode (hexEncode bytes) = .ok bytes := by
  have even : (Bytes.utf8 (hexEncode bytes)).length % 2 = 0 := by
    induction bytes with
    | nil => rfl
    | cons byte bytes inductionHypothesis =>
        rw [utf8_hexEncode_cons, List.length_cons, List.length_cons]
        omega
  unfold hexDecode
  rw [if_neg (not_not.mpr even), hexPairs_hexEncode]

/-- Hexadecimal digits have no line ends among them. -/
theorem isPlain_hexEncode (bytes : List UInt8) :
    Text.IsPlain (hexEncode bytes) := by
  have plain : ∀ character ∈ (hexEncode bytes).toList,
      character ≠ '\n' ∧ character ≠ '\r' := by
    intro character member
    rw [hexEncode, String.toList_ofList] at member
    obtain ⟨byte, -, digit⟩ := List.mem_flatMap.mp member
    simp only [List.mem_cons, List.not_mem_nil, or_false] at digit
    rcases digit with rfl | rfl
    · exact (hexDigit_spec (shiftRight_lt byte)).1.2
    · exact (hexDigit_spec (and_lt byte)).1.2
  exact ⟨fun member => (plain _ member).1 rfl,
    fun member => (plain _ member).2 rfl⟩

/-! ## Responses are read back -/

/-- A line of a window is read back. -/
theorem decode_encodePayload {detail : WindowDetail}
    (within : detail.Within) (held : detail.Held) :
    ∃ line, encodePayload detail = .ok line ∧ Text.IsPlain line ∧
      decodePayload line = .ok detail := by
  obtain ⟨bytes, encoded, decoded⟩ := detail.decode_encode within held
  refine ⟨hexEncode bytes, ?_, isPlain_hexEncode bytes, ?_⟩
  · rw [encodePayload, encoded]
    rfl
  · rw [decodePayload, hexDecode_hexEncode]
    simp only [decoded]

/-- So are the lines of a list of windows. -/
theorem decode_encodePayloads {details : List WindowDetail}
    (within : ∀ detail ∈ details, detail.Within)
    (held : ∀ detail ∈ details, detail.Held) :
    ∃ payloads, details.mapM encodePayload = .ok payloads ∧
      payloads.length = details.length ∧
        (∀ line ∈ payloads, Text.IsPlain line) ∧
          payloads.mapM decodePayload = .ok details := by
  induction details with
  | nil => exact ⟨[], rfl, rfl, List.forall_mem_nil _, rfl⟩
  | cons detail details inductionHypothesis =>
      obtain ⟨line, lineEncoded, linePlain, lineDecoded⟩ :=
        decode_encodePayload (within detail (.head _)) (held detail (.head _))
      obtain ⟨payloads, encoded, length, plain, decoded⟩ :=
        inductionHypothesis
          (fun other member => within other (.tail _ member))
          (fun other member => held other (.tail _ member))
      refine ⟨line :: payloads, ?_, congrArg Nat.succ length,
        List.forall_mem_cons.mpr ⟨linePlain, plain⟩, ?_⟩
      · rw [List.mapM_cons, lineEncoded, encoded]
        rfl
      · rw [List.mapM_cons, lineDecoded, decoded]
        rfl

/-- The lines of a response with windows. -/
def okLines (payloads : List String) : List String :=
  windowIpcVersion :: "ok" :: toString payloads.length :: payloads

theorem isPlain_okLines {payloads : List String}
    (plain : ∀ line ∈ payloads, Text.IsPlain line) :
    ∀ line ∈ okLines payloads, Text.IsPlain line := by
  simp only [okLines, List.forall_mem_cons]
  exact ⟨Text.isPlain_of_all rfl, Text.isPlain_of_all rfl,
    isPlain_toString payloads.length, plain⟩

theorem toList_join_lines (lines : List String) :
    (String.join (lines.map (· ++ "\n"))).toList = Text.unlines lines := by
  induction lines with
  | nil => rfl
  | cons line lines inductionHypothesis =>
      rw [List.map_cons, String.join_cons, String.toList_append,
        inductionHypothesis]
      simp

/-- Windows in range are written as lines that are read back. -/
theorem encodeWindowIpcOkResponse_eq {details : List WindowDetail}
    (within : ∀ detail ∈ details, detail.Within)
    (held : ∀ detail ∈ details, detail.Held) :
    ∃ text payloads, encodeWindowIpcOkResponse details = .ok text ∧
      text.toList = Text.unlines (okLines payloads) ∧
        payloads.length = details.length ∧
          (∀ line ∈ okLines payloads, Text.IsPlain line) ∧
            payloads.mapM decodePayload = .ok details := by
  obtain ⟨payloads, encoded, length, plain, decoded⟩ :=
    decode_encodePayloads within held
  refine ⟨windowIpcVersion ++ "\nok\n" ++ toString details.length ++ "\n" ++
    String.join (payloads.map (· ++ "\n")), payloads, ?_, ?_, length,
      isPlain_okLines plain, decoded⟩
  · rw [encodeWindowIpcOkResponse, encoded]
    rfl
  · rw [String.toList_append, toList_join_lines, ← length]
    simp [okLines]

/-- A response of some payloads is read from as many lines. -/
theorem windowIpcResponseOfLines_ok {payloads : List String}
    (few : payloads.length ≤ usizeMax) (taken : Nat) :
    windowIpcResponseOfLines
        ("ok" :: toString payloads.length :: payloads.take taken) =
      if payloads.length ≤ taken then some (payloads.mapM decodePayload)
      else none := by
  have count : Decimal.parseUnsigned usizeMax (toString payloads.length) =
      some payloads.length :=
    Decimal.parseUnsigned_toString few
  simp only [windowIpcResponseOfLines, List.head?_cons, Option.bind_some,
    count, List.tail_cons, List.take_take]
  by_cases enough : payloads.length ≤ taken
  · rw [if_pos enough, Nat.min_eq_left enough, List.take_length,
      if_neg (not_not.mpr rfl)]
  · have fewer : (payloads.take (min payloads.length taken)).length ≠
        payloads.length := by
      rw [List.length_take]
      omega
    rw [if_neg enough, if_pos fewer]

/-- Windows in range are read back. -/
theorem decode_encodeWindowIpcOkResponse {details : List WindowDetail}
    (few : details.length ≤ usizeMax)
    (within : ∀ detail ∈ details, detail.Within)
    (held : ∀ detail ∈ details, detail.Held) :
    ∃ text, encodeWindowIpcOkResponse details = .ok text ∧
      decodeWindowIpcResponse text = some (.ok details) := by
  obtain ⟨text, payloads, encoded, same, length, plain, decoded⟩ :=
    encodeWindowIpcOkResponse_eq within held
  refine ⟨text, encoded, ?_⟩
  have ends : Text.endsWith "\n" text = true :=
    Text.endsWith_newline same (List.cons_ne_nil _ _)
  have lines : Text.lines text = okLines payloads := by
    rw [Text.lines_eq same fun line member => (plain line member).1,
      Text.map_withoutReturn plain]
  have read := windowIpcResponseOfLines_ok (length.le.trans few)
    payloads.length
  rw [if_pos (Nat.le_refl _), List.take_length, decoded] at read
  rw [decodeWindowIpcResponse, ends, lines]
  exact read

/-- A request of a pairing is read back with spaces for the line breaks of its
texts, and no earlier part of it is read as a request.  Windows in the ranges
of the schema are read back as they are. -/
theorem ipc_messages_are_read_back :
    (∀ request : PairingIpcRequest,
      decodePairingIpcRequest (encodePairingIpcRequest request) =
          some request.withoutBreaks ∧
        ∀ part : String,
          part.toList <+: (encodePairingIpcRequest request).toList →
            part ≠ encodePairingIpcRequest request →
              decodePairingIpcRequest part = none) ∧
      ∀ details : List WindowDetail, details.length ≤ usizeMax →
        (∀ detail ∈ details, detail.Within) →
          (∀ detail ∈ details, detail.Held) →
            ∃ text, encodeWindowIpcOkResponse details = .ok text ∧
              decodeWindowIpcResponse text = some (.ok details) := by
  refine ⟨fun request => ⟨decode_encodePairingIpcRequest request, ?_⟩, ?_⟩
  · intro part initial strict
    exact decodePairingIpcRequest_part request initial strict
  · intro details few within held
    exact decode_encodeWindowIpcOkResponse few within held

/-- A window left of the first screen. -/
def editorWindow : WindowDetail :=
  ⟨⟨"0x1f\n", some "é – editor", some 4242, none⟩,
    ⟨some true, some false, none⟩, some ⟨-1920, 0, 1920, 1080⟩⟩

/-- A request without its last line is none, and a window is read back. -/
theorem ipc_messages_are_read_back_editor :
    decodePairingIpcRequest "pairing.v2\ncode\nhttps://a b\n" = none ∧
      ∃ text, encodeWindowIpcOkResponse [editorWindow] = .ok text ∧
        decodeWindowIpcResponse text = some (.ok [editorWindow]) := by
  constructor
  · exact (ipc_messages_are_read_back.1
      (.showCode ⟨"https://a\nb", "123456", 60⟩)).2 _ (by decide) (by decide)
  · refine ipc_messages_are_read_back.2 [editorWindow] (by decide) ?_ ?_
    · rintro _ (_ | ⟨_, ⟨⟩⟩)
      simp [WindowDetail.Within, WindowInfo.Within, WindowBounds.Within,
        editorWindow]
      decide
    · rintro _ (_ | ⟨_, ⟨⟩⟩)
      simp [WindowDetail.Held, WindowInfo.Held, editorWindow]
      decide

end Windows
end WhatsGoingOn
