import WhatsGoingOn.Host.Replies
import WhatsGoingOn.Web.Calls
import WhatsGoingOn.Web.ReadFileBytes

/-!
# Errors of procedures

The daemon names the errors of its procedures in the words of Rust, and writes
each as a variant of the error union of the procedure, or else as an error of
the envelope.  The client throws the same error under its TypeScript name.
-/

namespace WhatsGoingOn
namespace Web

open Daemon (Value ProcId)
open Codegen.TypeScript (DecodeError textValue)
open Daemon.ReqResMessage (SmallFields)

/-! ## The program -/

/-- A variant of an error union, by its discriminator.  Every variant has a
message. -/
structure MethodError where
  type : String
  message : String
  deriving DecidableEq, Repr

/-- What the generated decoders of error unions share: the name of the union
and the discriminators of its variants. -/
def decodeErrorValue (union : String) (variants : List (Int × String))
    (value : CborValue) : Except DecodeError MethodError := do
  let (variantId, fields) ← expectUnion value
  match variants.lookup variantId with
  | none => throw (.unknownVariant union variantId)
  | some type => do
      let message ← fieldOrDefault (fields.lookup 1) textValue ""
      pure ⟨type, message⟩

/-- The errors of `GetDaemonInfo`. -/
def decodeGetDaemonInfoErrorValue : CborValue → Except DecodeError MethodError :=
  decodeErrorValue "GetDaemonInfoError" [(0, "failed")]

/-- The errors of `StartPairing`. -/
def decodeStartPairingErrorValue : CborValue → Except DecodeError MethodError :=
  decodeErrorValue "StartPairingError" [(0, "failed")]

/-- The errors of `CompletePairing`. -/
def decodeCompletePairingErrorValue :
    CborValue → Except DecodeError MethodError :=
  decodeErrorValue "CompletePairingError"
    [(1, "pairingNotStarted"), (2, "pairingExpired"), (3, "invalidPairingCode")]

/-- The errors of `RenewClientCredential`. -/
def decodeRenewClientCredentialErrorValue :
    CborValue → Except DecodeError MethodError :=
  decodeErrorValue "RenewClientCredentialError" [(0, "failed")]

/-- The errors of `SubscribeRoots`. -/
def decodeSubscribeRootsErrorValue :
    CborValue → Except DecodeError MethodError :=
  decodeErrorValue "SubscribeRootsError" [(0, "failed")]

/-- The errors of `SubscribeDirectory`. -/
def decodeSubscribeDirectoryErrorValue :
    CborValue → Except DecodeError MethodError :=
  decodeErrorValue "SubscribeDirectoryError"
    [(0, "failed"), (1, "permissionDenied"), (2, "notFound"),
      (3, "notDirectory")]

/-- The errors of `WriteFile`. -/
def decodeWriteFileErrorValue : CborValue → Except DecodeError MethodError :=
  decodeErrorValue "WriteFileError"
    [(0, "failed"), (1, "permissionDenied"), (2, "notFound"),
      (3, "alreadyExists"), (4, "notDirectory"), (5, "notFile"),
      (6, "invalidPath")]

/-- The errors that the changes of the file system share. -/
def decodeFsMutationErrorValue : CborValue → Except DecodeError MethodError :=
  decodeErrorValue "FsMutationError" [(0, "failed")]

/-- The errors of `CreateTerminalSession`. -/
def decodeCreateTerminalSessionErrorValue :
    CborValue → Except DecodeError MethodError :=
  decodeErrorValue "CreateTerminalSessionError"
    [(0, "failed"), (1, "permissionDenied"), (2, "invalidSize"),
      (3, "shellNotFound"), (4, "invalidLaunch")]

/-- The errors of `SubscribeTerminalSessions`. -/
def decodeSubscribeTerminalSessionsErrorValue :
    CborValue → Except DecodeError MethodError :=
  decodeErrorValue "SubscribeTerminalSessionsError"
    [(0, "failed"), (1, "permissionDenied")]

/-- The errors of `SubscribeAvailableShells`. -/
def decodeSubscribeAvailableShellsErrorValue :
    CborValue → Except DecodeError MethodError :=
  decodeErrorValue "SubscribeAvailableShellsError"
    [(0, "failed"), (1, "permissionDenied")]

/-- The errors of `AttachTerminalSession`. -/
def decodeAttachTerminalSessionErrorValue :
    CborValue → Except DecodeError MethodError :=
  decodeErrorValue "AttachTerminalSessionError"
    [(0, "failed"), (1, "notFound"), (2, "permissionDenied"),
      (3, "invalidSize")]

/-- The errors of `TakeTerminalControl`. -/
def decodeTakeTerminalControlErrorValue :
    CborValue → Except DecodeError MethodError :=
  decodeErrorValue "TakeTerminalControlError"
    [(0, "failed"), (1, "notFound"), (2, "permissionDenied"),
      (3, "attachNotFound"), (4, "invalidSize")]

/-- The errors of `WriteTerminalInput`. -/
def decodeWriteTerminalInputErrorValue :
    CborValue → Except DecodeError MethodError :=
  decodeErrorValue "WriteTerminalInputError"
    [(0, "failed"), (1, "notFound"), (2, "permissionDenied"),
      (3, "attachNotFound"), (4, "notPrimaryAttach")]

/-- The errors of `CloseTerminalSession`. -/
def decodeCloseTerminalSessionErrorValue :
    CborValue → Except DecodeError MethodError :=
  decodeErrorValue "CloseTerminalSessionError"
    [(0, "failed"), (1, "notFound"), (2, "permissionDenied")]

/-- The errors of `SubscribeClients`. -/
def decodeSubscribeClientsErrorValue :
    CborValue → Except DecodeError MethodError :=
  decodeErrorValue "SubscribeClientsError"
    [(0, "failed"), (1, "permissionDenied")]

/-- The errors of `SubscribeTrashItems`. -/
def decodeSubscribeTrashItemsErrorValue :
    CborValue → Except DecodeError MethodError :=
  decodeErrorValue "SubscribeTrashItemsError"
    [(0, "failed"), (1, "permissionDenied")]

/-- The errors of `GetDaemonEnvironment`. -/
def decodeGetDaemonEnvironmentErrorValue :
    CborValue → Except DecodeError MethodError :=
  decodeErrorValue "GetDaemonEnvironmentError" [(0, "failed")]

/-- The errors of `SubscribeProcesses`. -/
def decodeSubscribeProcessesErrorValue :
    CborValue → Except DecodeError MethodError :=
  decodeErrorValue "SubscribeProcessesError"
    [(0, "failed"), (1, "permissionDenied")]

/-- The errors of `SubscribeProcessDetail`. -/
def decodeSubscribeProcessDetailErrorValue :
    CborValue → Except DecodeError MethodError :=
  decodeErrorValue "SubscribeProcessDetailError"
    [(0, "failed"), (1, "notFound"), (2, "permissionDenied")]

/-- The errors of `SubscribeWindows`. -/
def decodeSubscribeWindowsErrorValue :
    CborValue → Except DecodeError MethodError :=
  decodeErrorValue "SubscribeWindowsError"
    [(0, "failed"), (1, "unsupported"), (2, "permissionDenied")]

/-- The errors of `SubscribeWindowDetail`. -/
def decodeSubscribeWindowDetailErrorValue :
    CborValue → Except DecodeError MethodError :=
  decodeErrorValue "SubscribeWindowDetailError"
    [(0, "failed"), (1, "notFound"), (2, "unsupported"),
      (3, "permissionDenied")]

/-- The errors of `SubscribeProcessResourcesInUse`. -/
def decodeSubscribeProcessResourcesInUseErrorValue :
    CborValue → Except DecodeError MethodError :=
  decodeErrorValue "SubscribeProcessResourcesInUseError"
    [(0, "failed"), (1, "notFound"), (2, "permissionDenied"),
      (3, "unsupported")]

/-- The errors of `SubscribeProcessSocketsInUse`. -/
def decodeSubscribeProcessSocketsInUseErrorValue :
    CborValue → Except DecodeError MethodError :=
  decodeErrorValue "SubscribeProcessSocketsInUseError"
    [(0, "failed"), (1, "notFound"), (2, "permissionDenied"),
      (3, "unsupported")]

/-- The errors of `SubscribeProcessModules`. -/
def decodeSubscribeProcessModulesErrorValue :
    CborValue → Except DecodeError MethodError :=
  decodeErrorValue "SubscribeProcessModulesError"
    [(0, "failed"), (1, "notFound"), (2, "permissionDenied"),
      (3, "unsupported")]

/-- `decodeError` of the codec of a procedure. -/
def decodeError : ProcId → CborValue → Except DecodeError MethodError
  | .getDaemonInfo => decodeGetDaemonInfoErrorValue
  | .startPairing => decodeStartPairingErrorValue
  | .completePairing => decodeCompletePairingErrorValue
  | .renewClientCredential => decodeRenewClientCredentialErrorValue
  | .subscribeRoots => decodeSubscribeRootsErrorValue
  | .subscribeDirectory => decodeSubscribeDirectoryErrorValue
  | .readFile => fun value => do
      let error ← decodeReadFileErrorValue value
      pure ⟨error.type.text, error.message⟩
  | .writeFile => decodeWriteFileErrorValue
  | .createNodes | .renamePaths | .deletePaths | .restoreTrashItems
  | .purgeTrashItems =>
      decodeFsMutationErrorValue
  | .createTerminalSession => decodeCreateTerminalSessionErrorValue
  | .subscribeTerminalSessions => decodeSubscribeTerminalSessionsErrorValue
  | .subscribeAvailableShells => decodeSubscribeAvailableShellsErrorValue
  | .attachTerminalSession => decodeAttachTerminalSessionErrorValue
  | .takeTerminalControl => decodeTakeTerminalControlErrorValue
  | .writeTerminalInput => decodeWriteTerminalInputErrorValue
  | .closeTerminalSession => decodeCloseTerminalSessionErrorValue
  | .subscribeClients => decodeSubscribeClientsErrorValue
  | .subscribeTrashItems => decodeSubscribeTrashItemsErrorValue
  | .getDaemonEnvironment => decodeGetDaemonEnvironmentErrorValue
  | .subscribeProcesses => decodeSubscribeProcessesErrorValue
  | .subscribeProcessDetail => decodeSubscribeProcessDetailErrorValue
  | .subscribeWindows => decodeSubscribeWindowsErrorValue
  | .subscribeWindowDetail => decodeSubscribeWindowDetailErrorValue
  | .subscribeProcessResourcesInUse =>
      decodeSubscribeProcessResourcesInUseErrorValue
  | .subscribeProcessSocketsInUse =>
      decodeSubscribeProcessSocketsInUseErrorValue
  | .subscribeProcessModules => decodeSubscribeProcessModulesErrorValue

/-- The codec of a procedure, with the decoder of its responses. -/
def procCodec {α : Type} (proc : ProcId)
    (decodeResponse : CborValue → Except DecodeError α) :
    ProcCodec DecodeError MethodError α where
  decodeResponse := decodeResponse
  decodeError := decodeError proc
  errorCode := fun error => error.type
  errorMessage := fun error => error.message

/-! ## Names of errors -/

/-- The characters of a name whose words are joined by underscores, joined by
capitals. -/
def capitalizeWords : List Char → List Char
  | '_' :: letter :: rest => letter.toUpper :: capitalizeWords rest
  | letter :: rest => letter :: capitalizeWords rest
  | [] => []

/-- The TypeScript name for a Rust name. -/
def camelCase (name : String) : String :=
  String.ofList (capitalizeWords name.toList)

example : camelCase "attach_not_found" = "attachNotFound" := by decide

/-- The variants of the error union of a procedure, as the client names
them. -/
def clientErrors (proc : ProcId) : List (Int × String) :=
  proc.methodErrors.map fun error =>
    ((error.2.toNat : Int), camelCase error.1)

theorem variantId_cases (variantId : Int) :
    variantId = 0 ∨ variantId = 1 ∨ variantId = 2 ∨ variantId = 3 ∨
      variantId = 4 ∨ variantId ≠ 0 ∧ variantId ≠ 1 ∧ variantId ≠ 2 ∧
        variantId ≠ 3 ∧ variantId ≠ 4 := by
  omega

/-- The errors of ReadFile are decoded like those of the others. -/
theorem decodeReadFileErrorValue_eq (value : CborValue) :
    decodeError .readFile value =
      decodeErrorValue "ReadFileError" (clientErrors .readFile) value := by
  have variants : clientErrors .readFile =
      [(0, "failed"), (1, "permissionDenied"), (2, "notFound"),
        (3, "notFile"), (4, "invalidPath")] := by
    decide
  rw [variants]
  change (decodeReadFileErrorValue value >>= _) = _
  unfold decodeReadFileErrorValue decodeErrorValue
  cases expectUnion value with
  | error failure => rfl
  | ok union =>
      obtain ⟨variantId, fields⟩ := union
      cases text : fieldOrDefault (fields.lookup 1) textValue "" <;>
        rcases variantId_cases variantId with
          rfl | rfl | rfl | rfl | rfl | ⟨zero, one, two, three, four⟩ <;>
        simp [bind, Except.bind, pure, Except.pure, throw, throwThe,
          MonadExceptOf.throw, SortedMap.lookup_cons_eq,
          ReadFileErrorType.text, *]

/-- The client names the variants of every error union as the daemon does. -/
theorem decodeError_eq (proc : ProcId) :
    ∃ union, ∀ value, decodeError proc value =
      decodeErrorValue union (clientErrors proc) value := by
  cases proc with
  | readFile => exact ⟨_, decodeReadFileErrorValue_eq⟩
  | _ => exact ⟨_, fun _ => rfl⟩

/-- The numbers of the variants are small, and tell them apart. -/
theorem methodErrors_distinct (proc : ProcId) :
    (∀ error ∈ proc.methodErrors, error.2.toNat ≤ 6) ∧
      (proc.methodErrors.map fun error => error.2.toNat).Nodup := by
  cases proc <;> decide

theorem lookup_clientErrors {proc : ProcId} {code : String} {variantId : UInt64}
    (known : proc.methodErrorVariant code = some variantId) :
    variantId.toNat ≤ 6 ∧
      (clientErrors proc).lookup (variantId.toNat : Int) =
        some (camelCase code) := by
  have member : (code, variantId) ∈ proc.methodErrors :=
    SortedMap.mem_of_lookup known
  obtain ⟨small, distinct⟩ := methodErrors_distinct proc
  refine ⟨small _ member, SortedMap.lookup_of_mem ?_
    (List.mem_map.mpr ⟨_, member, rfl⟩)⟩
  have keys : SortedMap.keys (clientErrors proc) =
      (proc.methodErrors.map fun error => error.2.toNat).map Int.ofNat := by
    simp [clientErrors, SortedMap.keys]
  rw [keys]
  exact distinct.map Int.ofNat_injective

/-! ## Payloads of errors -/

/-- A text that the encoders take. -/
def Short (text : String) : Prop :=
  (Bytes.utf8 text).length ≤ maxSafeInteger

/-- What the client makes of small fields, of which it may alter the texts. -/
theorem image_stripMarks_fields {fields : List (UInt64 × Value)}
    (small : SmallFields maxSafeInteger fields) :
    image (stripMarks (.map fields)) =
      .map (fields.map fun entry =>
        ((entry.1.toNat : Int), image (stripMarks entry.2))) :=
  image_stripMarks_map fun entry member =>
    isSafeInteger_natCast.mpr
      ((small.fieldOf entry member).1.trans (by decide))

/-- The client decodes the variant of an error union. -/
theorem decodePayload_union {δ : Type} {variantId : UInt64} {message : String}
    (small : variantId.toNat ≤ 6) (short : Short message) :
    (decodePayload (Value.array [.u64 variantId,
        .map [(1, .text message)]]).encode :
          Except (StreamFailure δ) CborValue) =
      .ok (.array [.number (.integer variantId.toNat),
        .map [(1, .text (stripByteOrderMark message))]]) := by
  have safe : variantId.toNat ≤ maxSafeInteger := small.trans (by decide)
  have fields : SmallFields maxSafeInteger [(1, .text message)] :=
    .one (by decide) short
  have common : CommonProfile
      (.array [.u64 variantId, .map [(1, .text message)]]) :=
    .array (by decide : 2 ≤ maxArrayLength) (List.forall_mem_cons.mpr
      ⟨.leaf (isSafeInteger_natCast.mpr safe) rfl,
        List.forall_mem_singleton.mpr (fields_common fields)⟩)
  rw [decodePayload, decodeCbor_encode common, stripMarks_array, image_array,
    List.map_map, List.map_cons, List.map_cons, List.map_nil,
    Function.comp_apply, Function.comp_apply, image_stripMarks_fields fields]
  exact congrArg (fun number => Except.ok (CborValue.array [number, _]))
    (image_number safe)

/-- The client decodes an error of the envelope. -/
theorem decodePayload_rpcError {δ : Type} {payload : Daemon.RpcErrorPayload}
    (short : Short payload.message) :
    (decodePayload payload.encode : Except (StreamFailure δ) CborValue) =
      .ok (.map [(1, .number (.integer payload.code.asU64.toNat)),
        (2, .text (stripByteOrderMark payload.message))]) := by
  have small : payload.code.asU64.toNat ≤ maxSafeInteger := by
    cases payload.code <;> decide
  have fields : SmallFields maxSafeInteger
      [(1, .u64 payload.code.asU64), (2, .text payload.message)] :=
    .two (by decide) (by decide) small short
  have encoded : payload.encode = (Value.map
      [(1, .u64 payload.code.asU64), (2, .text payload.message)]).encode := rfl
  rw [decodePayload, encoded, decodeCbor_encode (fields_common fields),
    image_stripMarks_fields fields]
  exact congrArg (fun number => Except.ok (CborValue.map [(1, number), _]))
    (image_number small)

/-! ## What the client throws -/

/-- The name of a code of the envelope. -/
def envelopeCode : Daemon.RpcErrorCode → String
  | .badMessage => "badMessage"
  | .unauthorized => "unauthorized"
  | .missingPayload => "missingPayload"
  | .notImplemented => "notImplemented"
  | .permissionDenied => "permissionDenied"
  | .notFound => "notFound"
  | .operationFailed => "operationFailed"
  | .malformedPayload => "malformedPayload"

/-- The code of the error that the client throws where the daemon fails with a
code. -/
def reportedCode (proc : ProcId) (code : String) : String :=
  match proc.methodErrorVariant code with
  | some _ => camelCase code
  | none => envelopeCode (Host.rpcErrorCode code)

theorem rpcErrorOf_system {δ ε α : Type} (proc : ProcCodec δ ε α)
    {response : ReqResMessage} {payload : Daemon.RpcErrorPayload}
    (hasError : response.error = some payload.encode)
    (hasKind : response.errorKind = some .system)
    (short : Short payload.message) :
    rpcErrorOf proc response = .rpcError (envelopeCode payload.code)
      (stripByteOrderMark payload.message) := by
  rw [rpcErrorOf, hasError, hasKind]
  simp only [decodePayload_rpcError short]
  cases payload.code <;> rfl

/-- An error of the method is thrown under its own name. -/
theorem rpcErrorOf_method {α : Type} {proc : ProcId}
    (decodeResponse : CborValue → Except DecodeError α)
    {response : ReqResMessage} {error : List UInt8} {code message : String}
    (known : proc.methodErrorPayload code message = some error)
    (hasError : response.error = some error)
    (hasKind : response.errorKind = some .method) (short : Short message) :
    rpcErrorOf (procCodec proc decodeResponse) response =
      .rpcError (camelCase code) (stripByteOrderMark message) := by
  obtain ⟨variantId, variant, rfl⟩ := Option.map_eq_some_iff.mp known
  obtain ⟨small, named⟩ := lookup_clientErrors variant
  obtain ⟨union, same⟩ := decodeError_eq proc
  have safe : isSafeInteger variantId.toNat = true :=
    isSafeInteger_natCast.mpr (small.trans (by decide))
  have decoded : decodeErrorValue union (clientErrors proc)
      (.array [.number (.integer variantId.toNat),
        .map [(1, .text (stripByteOrderMark message))]]) =
      .ok ⟨camelCase code, stripByteOrderMark message⟩ := by
    refine Outcome.bind_eq_ok.mpr
      ⟨(variantId.toNat, _), Outcome.bind_eq_ok.mpr ⟨_, if_pos safe, rfl⟩, ?_⟩
    simp only [named]
    rfl
  have written : (Value.array [.u64 variantId,
      .map (SortedMap.insert 1 (.text message) [])]).encode =
        (Value.array [.u64 variantId, .map [(1, .text message)]]).encode := rfl
  rw [rpcErrorOf, hasError, hasKind, written]
  simp only [decodePayload_union small short, procCodec, same, decoded]

/-- The client throws the error of a procedure, under its TypeScript name and
with its text, whether the response is a stream or not. -/
theorem errors_reach_client {α : Type} (proc : ProcId)
    (decodeResponse : CborValue → Except DecodeError α)
    (undefined : Except DecodeError α) (code : String) {message : String}
    (short : Short message) :
    eventOf (procCodec proc decodeResponse)
        (receive (Host.streamErrorMessage proc.asU64 code message)) =
      .error (.rpcError (reportedCode proc code)
        (stripByteOrderMark message)) ∧
    responseOf (procCodec proc decodeResponse) undefined
        (receive (Host.errorMessage proc.asU64 code message)) =
      .error (.response (.rpcError (reportedCode proc code)
        (stripByteOrderMark message))) := by
  have thrown {response : ReqResMessage}
      (hasError : response.error =
        some (Host.errorParts proc.asU64 code message).2)
      (hasKind : response.errorKind =
        some (receivedErrorKind (Host.errorParts proc.asU64 code message).1)) :
      rpcErrorOf (procCodec proc decodeResponse) response =
        .rpcError (reportedCode proc code) (stripByteOrderMark message) := by
    unfold Host.errorParts Host.methodErrorPayload at hasError hasKind
    rw [ProcId.fromU64_asU64, Option.bind_some] at hasError hasKind
    unfold reportedCode
    cases known : proc.methodErrorVariant code with
    | none =>
        have missing : proc.methodErrorPayload code message = none := by
          rw [ProcId.methodErrorPayload, known]
          rfl
        rw [missing] at hasError hasKind
        exact rpcErrorOf_system _ hasError hasKind short
    | some variantId =>
        obtain ⟨error, payload⟩ :
            ∃ error, proc.methodErrorPayload code message = some error := by
          rw [ProcId.methodErrorPayload, known]
          exact ⟨_, rfl⟩
        rw [payload] at hasError hasKind
        exact rpcErrorOf_method decodeResponse payload hasError hasKind short
  exact ⟨congrArg Except.error (thrown rfl rfl),
    congrArg (fun failure => Except.error (CallFailure.response failure))
      (thrown rfl rfl)⟩

/-- A file that does not exist. -/
theorem errors_reach_client_not_found :
    eventOf (procCodec .readFile decodeReadFileChunkValue)
        (receive (Host.streamErrorMessage ProcId.readFile.asU64 "not_found"
          "no such file")) =
      .error (.rpcError (reportedCode .readFile "not_found")
        (stripByteOrderMark "no such file")) ∧
    responseOf (procCodec .readFile decodeReadFileChunkValue)
        (.error .expectedMap)
        (receive (Host.errorMessage ProcId.readFile.asU64 "not_found"
          "no such file")) =
      .error (.response (.rpcError (reportedCode .readFile "not_found")
        (stripByteOrderMark "no such file"))) :=
  errors_reach_client .readFile decodeReadFileChunkValue (.error .expectedMap)
    "not_found"
    (by decide : (Bytes.utf8 "no such file").length ≤ maxSafeInteger)

example : reportedCode .readFile "not_found" = "notFound" := by decide

end Web
end WhatsGoingOn
