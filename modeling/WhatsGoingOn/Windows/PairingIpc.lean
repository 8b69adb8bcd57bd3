import WhatsGoingOn.Library.Decimal
import WhatsGoingOn.Library.Lines
import WhatsGoingOn.Windows.PairingConfirmation

/-!
# Pairing messages between processes

The daemon asks the process of a user to confirm a pairing or to show a code.
Requests and responses are lines of text.  The daemons of both platforms write
them in the same way and read the requests in the same way; how a response is
read is that of Windows.
-/

namespace WhatsGoingOn
namespace Windows

/-- `PAIRING_IPC_VERSION`. -/
def pairingIpcVersion : String := "pairing.v2"

/-- A code that is shown to the user. -/
structure PairingCodeNotification where
  daemonUrl : String
  pairingCode : String
  expiresInSeconds : Int64
  deriving DecidableEq, Repr

/-- A pairing to be confirmed, or a code to be shown. -/
inductive PairingIpcRequest where
  | confirm (request : PairingConfirmationRequest)
  | showCode (notification : PairingCodeNotification)
  deriving DecidableEq, Repr

/-- A character of a line. -/
def lineCharacter (character : Char) : Char :=
  if character = '\r' ∨ character = '\n' then ' ' else character

/-- `ipc_line`. -/
def ipcLine (value : String) : String :=
  String.ofList (value.toList.map lineCharacter)

/-- `encode_pairing_ipc_request`. -/
def encodePairingIpcRequest : PairingIpcRequest → String
  | .confirm request =>
      pairingIpcVersion ++ "\nconfirm\n" ++ ipcLine request.daemonUrl ++
        "\n" ++ ipcLine request.confirmationCode ++ "\n" ++
          ipcLine request.clientLabel ++ "\n"
  | .showCode notification =>
      pairingIpcVersion ++ "\ncode\n" ++ ipcLine notification.daemonUrl ++
        "\n" ++ ipcLine notification.pairingCode ++ "\n" ++
          toString notification.expiresInSeconds.toInt ++ "\n"

/-- `str::parse` for an `i64`. -/
def parseI64 (text : String) : Option Int64 :=
  (Decimal.parseSigned Int64.minValue.toInt Int64.maxValue.toInt text).map
    Int64.ofInt

/-- The request of some lines. -/
def pairingIpcRequestOfLines : List String → Option PairingIpcRequest
  | version :: kind :: fields =>
      if version ≠ pairingIpcVersion then none
      else
        match kind, fields with
        | "confirm", daemonUrl :: confirmationCode :: clientLabel :: _ =>
            some (.confirm ⟨daemonUrl, confirmationCode, clientLabel⟩)
        | "code", daemonUrl :: pairingCode :: expiresInSeconds :: _ =>
            (parseI64 expiresInSeconds).map fun expiresInSeconds =>
              .showCode ⟨daemonUrl, pairingCode, expiresInSeconds⟩
        | _, _ => none
  | _ => none

/-- `decode_pairing_ipc_request`. -/
def decodePairingIpcRequest (text : String) : Option PairingIpcRequest :=
  if !Text.endsWith "\n" text then none
  else pairingIpcRequestOfLines (Text.lines text)

/-- `encode_pairing_ipc_ok_response`. -/
def encodePairingIpcOkResponse : String :=
  pairingIpcVersion ++ "\nok\n"

/-- `encode_pairing_ipc_error_response`. -/
def encodePairingIpcErrorResponse (message : String) : String :=
  pairingIpcVersion ++ "\nerror\n" ++ Text.replaceChar '\n' ' ' message ++ "\n"

/-- The response of the lines after the version, which is the text of an error
or is no error. -/
def pairingIpcResponseOfLines : List String → Option (Except String Unit)
  | [] => none
  | "ok" :: _ => some (.ok ())
  | "error" :: lines =>
      some (.error (lines.head?.getD "pairing request was rejected"))
  | _ => some (.error "pairing response is malformed")

/-- `decode_pairing_ipc_response`. -/
def decodePairingIpcResponse (text : String) : Option (Except String Unit) :=
  if !Text.endsWith "\n" text then none
  else
    match Text.lines text with
    | [] => some (.error "pairing response has an unknown version")
    | version :: lines =>
        if version ≠ pairingIpcVersion then
          some (.error "pairing response has an unknown version")
        else pairingIpcResponseOfLines lines

/-! ## Lines of the messages -/

open Text (IsPlain isPlain_of_all)

/-- A line has no line ends in it. -/
theorem isPlain_ipcLine (value : String) : IsPlain (ipcLine value) := by
  have plain (character : Char) :
      lineCharacter character ≠ '\n' ∧ lineCharacter character ≠ '\r' := by
    unfold lineCharacter
    split
    · decide
    · rename_i other
      exact ⟨fun same => other (.inr same), fun same => other (.inl same)⟩
  unfold IsPlain
  rw [ipcLine, String.toList_ofList]
  constructor
  all_goals
    intro member
    obtain ⟨character, -, same⟩ := List.mem_map.mp member
  · exact (plain character).1 same
  · exact (plain character).2 same

theorem isPlain_toString (number : Int) : IsPlain (toString number) := by
  constructor
  all_goals
    intro member
    rcases Decimal.digit_or_minus member with digit | minus
    · exact absurd digit (by decide)
    · exact absurd minus (by decide)

/-- The lines of a request. -/
def PairingIpcRequest.lines : PairingIpcRequest → List String
  | .confirm request =>
      [pairingIpcVersion, "confirm", ipcLine request.daemonUrl,
        ipcLine request.confirmationCode, ipcLine request.clientLabel]
  | .showCode notification =>
      [pairingIpcVersion, "code", ipcLine notification.daemonUrl,
        ipcLine notification.pairingCode,
        toString notification.expiresInSeconds.toInt]

theorem encodePairingIpcRequest_eq (request : PairingIpcRequest) :
    (encodePairingIpcRequest request).toList = Text.unlines request.lines := by
  cases request with
  | confirm request =>
      simp [encodePairingIpcRequest, PairingIpcRequest.lines]
  | showCode notification =>
      simp [encodePairingIpcRequest, PairingIpcRequest.lines]

/-- The lines of a request have no line ends in them. -/
theorem PairingIpcRequest.isPlain_lines (request : PairingIpcRequest) :
    ∀ line ∈ request.lines, IsPlain line := by
  have version : IsPlain pairingIpcVersion := isPlain_of_all rfl
  cases request with
  | confirm request =>
      simp only [PairingIpcRequest.lines, List.forall_mem_cons]
      exact ⟨version, isPlain_of_all rfl, isPlain_ipcLine _,
        isPlain_ipcLine _, isPlain_ipcLine _, List.forall_mem_nil _⟩
  | showCode notification =>
      simp only [PairingIpcRequest.lines, List.forall_mem_cons]
      exact ⟨version, isPlain_of_all rfl, isPlain_ipcLine _,
        isPlain_ipcLine _, isPlain_toString _, List.forall_mem_nil _⟩

/-! ## Requests are read back -/

/-- A request with spaces for the line breaks of its text fields. -/
def PairingIpcRequest.withoutBreaks : PairingIpcRequest → PairingIpcRequest
  | .confirm request =>
      .confirm ⟨ipcLine request.daemonUrl, ipcLine request.confirmationCode,
        ipcLine request.clientLabel⟩
  | .showCode notification =>
      .showCode ⟨ipcLine notification.daemonUrl,
        ipcLine notification.pairingCode, notification.expiresInSeconds⟩

theorem parseI64_toString (value : Int64) :
    parseI64 (toString value.toInt) = some value := by
  rw [parseI64, Decimal.parseSigned_toString value.minValue_le_toInt
    value.toInt_le, Option.map_some, Int64.ofInt_toInt]

theorem pairingIpcRequestOfLines_lines (request : PairingIpcRequest) :
    pairingIpcRequestOfLines request.lines = some request.withoutBreaks := by
  cases request with
  | confirm request => rfl
  | showCode notification =>
      change (parseI64 (toString notification.expiresInSeconds.toInt)).map _ = _
      rw [parseI64_toString]
      rfl

/-- A request is read back, without line breaks in its fields. -/
theorem decode_encodePairingIpcRequest (request : PairingIpcRequest) :
    decodePairingIpcRequest (encodePairingIpcRequest request) =
      some request.withoutBreaks := by
  have same := encodePairingIpcRequest_eq request
  have plain := request.isPlain_lines
  have ends : Text.endsWith "\n" (encodePairingIpcRequest request) = true :=
    Text.endsWith_newline same (by cases request <;> exact List.cons_ne_nil _ _)
  rw [decodePairingIpcRequest, ends,
    Text.lines_eq same fun line member => (plain line member).1,
    Text.map_withoutReturn plain, pairingIpcRequestOfLines_lines]
  rfl

/-- The first lines of a request are no request. -/
theorem pairingIpcRequestOfLines_take (request : PairingIpcRequest)
    {count : Nat} (few : count < request.lines.length) :
    pairingIpcRequestOfLines (request.lines.take count) = none := by
  cases request with
  | confirm request =>
      match count, few with
      | 0, _ | 1, _ | 2, _ | 3, _ | 4, _ => rfl
  | showCode notification =>
      match count, few with
      | 0, _ | 1, _ | 2, _ | 3, _ | 4, _ => rfl

/-- No other part of a request is complete. -/
theorem decodePairingIpcRequest_part (request : PairingIpcRequest)
    {part : String}
    (initial : part.toList <+: (encodePairingIpcRequest request).toList)
    (strict : part ≠ encodePairingIpcRequest request) :
    decodePairingIpcRequest part = none := by
  have plain := request.isPlain_lines
  unfold decodePairingIpcRequest
  cases ends : Text.endsWith "\n" part with
  | false => rfl
  | true =>
      obtain ⟨count, few, -, lines⟩ := Text.lines_of_part
        (encodePairingIpcRequest_eq request)
        (fun line member => (plain line member).1) initial strict ends
      rw [lines, Text.map_withoutReturn fun line member =>
        plain line (List.mem_of_mem_take member)]
      exact pairingIpcRequestOfLines_take request few

end Windows
end WhatsGoingOn
