import WhatsGoingOn.Daemon.Wire

/-!
# Procedures of the daemon

The table that is generated from the procedures of the schema, and the
decoding of a request for one of them.
-/

namespace WhatsGoingOn
namespace Daemon

/-- Which directions of a procedure are streams. -/
inductive ProcStream where
  | unary
  | server
  | client
  | bidi
  deriving DecidableEq, Repr

/-- The procedures. -/
inductive ProcId where
  | getDaemonInfo
  | startPairing
  | completePairing
  | renewClientCredential
  | subscribeRoots
  | subscribeDirectory
  | readFile
  | writeFile
  | createNodes
  | renamePaths
  | deletePaths
  | createTerminalSession
  | subscribeTerminalSessions
  | subscribeAvailableShells
  | attachTerminalSession
  | takeTerminalControl
  | writeTerminalInput
  | closeTerminalSession
  | subscribeClients
  | subscribeTrashItems
  | restoreTrashItems
  | purgeTrashItems
  | getDaemonEnvironment
  | subscribeProcesses
  | subscribeProcessDetail
  | subscribeWindows
  | subscribeWindowDetail
  | subscribeProcessResourcesInUse
  | subscribeProcessSocketsInUse
  | subscribeProcessModules
  deriving DecidableEq, Repr

namespace ProcId

/-- The number that a call carries on the wire. -/
def asU64 : ProcId → UInt64
  | .getDaemonInfo => 1
  | .startPairing => 2
  | .completePairing => 3
  | .renewClientCredential => 4
  | .subscribeRoots => 5
  | .subscribeDirectory => 6
  | .readFile => 7
  | .writeFile => 8
  | .createNodes => 9
  | .renamePaths => 10
  | .deletePaths => 11
  | .createTerminalSession => 12
  | .subscribeTerminalSessions => 13
  | .subscribeAvailableShells => 14
  | .attachTerminalSession => 15
  | .takeTerminalControl => 16
  | .writeTerminalInput => 17
  | .closeTerminalSession => 18
  | .subscribeClients => 19
  | .subscribeTrashItems => 20
  | .restoreTrashItems => 21
  | .purgeTrashItems => 22
  | .getDaemonEnvironment => 23
  | .subscribeProcesses => 24
  | .subscribeProcessDetail => 25
  | .subscribeWindows => 26
  | .subscribeWindowDetail => 27
  | .subscribeProcessResourcesInUse => 28
  | .subscribeProcessSocketsInUse => 29
  | .subscribeProcessModules => 30

/-- The procedure of a number, if there is one. -/
def fromU64 (value : UInt64) : Option ProcId :=
  match value with
  | 1 => some .getDaemonInfo
  | 2 => some .startPairing
  | 3 => some .completePairing
  | 4 => some .renewClientCredential
  | 5 => some .subscribeRoots
  | 6 => some .subscribeDirectory
  | 7 => some .readFile
  | 8 => some .writeFile
  | 9 => some .createNodes
  | 10 => some .renamePaths
  | 11 => some .deletePaths
  | 12 => some .createTerminalSession
  | 13 => some .subscribeTerminalSessions
  | 14 => some .subscribeAvailableShells
  | 15 => some .attachTerminalSession
  | 16 => some .takeTerminalControl
  | 17 => some .writeTerminalInput
  | 18 => some .closeTerminalSession
  | 19 => some .subscribeClients
  | 20 => some .subscribeTrashItems
  | 21 => some .restoreTrashItems
  | 22 => some .purgeTrashItems
  | 23 => some .getDaemonEnvironment
  | 24 => some .subscribeProcesses
  | 25 => some .subscribeProcessDetail
  | 26 => some .subscribeWindows
  | 27 => some .subscribeWindowDetail
  | 28 => some .subscribeProcessResourcesInUse
  | 29 => some .subscribeProcessSocketsInUse
  | 30 => some .subscribeProcessModules
  | _ => none

/-- Which side of the call is a stream. -/
def stream : ProcId → ProcStream
  | .writeFile | .writeTerminalInput => .client
  | .subscribeRoots | .subscribeDirectory | .readFile
  | .subscribeTerminalSessions | .subscribeAvailableShells
  | .attachTerminalSession | .subscribeClients | .subscribeTrashItems
  | .subscribeProcesses | .subscribeProcessDetail | .subscribeWindows
  | .subscribeWindowDetail | .subscribeProcessResourcesInUse
  | .subscribeProcessSocketsInUse | .subscribeProcessModules => .server
  | .getDaemonInfo | .startPairing | .completePairing
  | .renewClientCredential | .createNodes | .renamePaths | .deletePaths
  | .createTerminalSession | .takeTerminalControl | .closeTerminalSession
  | .restoreTrashItems | .purgeTrashItems | .getDaemonEnvironment => .unary

/-- The name that the schema gives the procedure. -/
def name : ProcId → String
  | .getDaemonInfo => "GetDaemonInfo"
  | .startPairing => "StartPairing"
  | .completePairing => "CompletePairing"
  | .renewClientCredential => "RenewClientCredential"
  | .subscribeRoots => "SubscribeRoots"
  | .subscribeDirectory => "SubscribeDirectory"
  | .readFile => "ReadFile"
  | .writeFile => "WriteFile"
  | .createNodes => "CreateNodes"
  | .renamePaths => "RenamePaths"
  | .deletePaths => "DeletePaths"
  | .createTerminalSession => "CreateTerminalSession"
  | .subscribeTerminalSessions => "SubscribeTerminalSessions"
  | .subscribeAvailableShells => "SubscribeAvailableShells"
  | .attachTerminalSession => "AttachTerminalSession"
  | .takeTerminalControl => "TakeTerminalControl"
  | .writeTerminalInput => "WriteTerminalInput"
  | .closeTerminalSession => "CloseTerminalSession"
  | .subscribeClients => "SubscribeClients"
  | .subscribeTrashItems => "SubscribeTrashItems"
  | .restoreTrashItems => "RestoreTrashItems"
  | .purgeTrashItems => "PurgeTrashItems"
  | .getDaemonEnvironment => "GetDaemonEnvironment"
  | .subscribeProcesses => "SubscribeProcesses"
  | .subscribeProcessDetail => "SubscribeProcessDetail"
  | .subscribeWindows => "SubscribeWindows"
  | .subscribeWindowDetail => "SubscribeWindowDetail"
  | .subscribeProcessResourcesInUse => "SubscribeProcessResourcesInUse"
  | .subscribeProcessSocketsInUse => "SubscribeProcessSocketsInUse"
  | .subscribeProcessModules => "SubscribeProcessModules"

/-- Whether the request of a procedure has no payload. -/
def inputIsVoid : ProcId → Bool
  | .getDaemonInfo | .renewClientCredential | .subscribeRoots
  | .subscribeTerminalSessions | .subscribeAvailableShells
  | .subscribeClients | .subscribeTrashItems | .getDaemonEnvironment
  | .subscribeProcesses | .subscribeWindows => true
  | _ => false

/-- The variants of the error union of a procedure, by their codes. -/
def methodErrors : ProcId → List (String × UInt64)
  | .getDaemonInfo | .startPairing | .renewClientCredential
  | .subscribeRoots | .createNodes | .renamePaths | .deletePaths
  | .restoreTrashItems | .purgeTrashItems | .getDaemonEnvironment =>
      [("failed", 0)]
  | .completePairing =>
      [("pairing_not_started", 1), ("pairing_expired", 2),
        ("invalid_pairing_code", 3)]
  | .subscribeDirectory =>
      [("failed", 0), ("permission_denied", 1), ("not_found", 2),
        ("not_directory", 3)]
  | .readFile =>
      [("failed", 0), ("permission_denied", 1), ("not_found", 2),
        ("not_file", 3), ("invalid_path", 4)]
  | .writeFile =>
      [("failed", 0), ("permission_denied", 1), ("not_found", 2),
        ("already_exists", 3), ("not_directory", 4), ("not_file", 5),
        ("invalid_path", 6)]
  | .createTerminalSession =>
      [("failed", 0), ("permission_denied", 1), ("invalid_size", 2),
        ("shell_not_found", 3), ("invalid_launch", 4)]
  | .subscribeTerminalSessions | .subscribeAvailableShells
  | .subscribeClients | .subscribeTrashItems | .subscribeProcesses =>
      [("failed", 0), ("permission_denied", 1)]
  | .attachTerminalSession =>
      [("failed", 0), ("not_found", 1), ("permission_denied", 2),
        ("invalid_size", 3)]
  | .takeTerminalControl =>
      [("failed", 0), ("not_found", 1), ("permission_denied", 2),
        ("attach_not_found", 3), ("invalid_size", 4)]
  | .writeTerminalInput =>
      [("failed", 0), ("not_found", 1), ("permission_denied", 2),
        ("attach_not_found", 3), ("not_primary_attach", 4)]
  | .closeTerminalSession | .subscribeProcessDetail =>
      [("failed", 0), ("not_found", 1), ("permission_denied", 2)]
  | .subscribeWindows =>
      [("failed", 0), ("unsupported", 1), ("permission_denied", 2)]
  | .subscribeWindowDetail =>
      [("failed", 0), ("not_found", 1), ("unsupported", 2),
        ("permission_denied", 3)]
  | .subscribeProcessResourcesInUse | .subscribeProcessSocketsInUse
  | .subscribeProcessModules =>
      [("failed", 0), ("not_found", 1), ("permission_denied", 2),
        ("unsupported", 3)]

/-- `ProcId::method_error_variant`. -/
def methodErrorVariant (proc : ProcId) (code : String) : Option UInt64 :=
  proc.methodErrors.lookup code

/-- `ProcId::method_error_payload`: the error union of the procedure, with the
message as its only field. -/
def methodErrorPayload (proc : ProcId) (code message : String) :
    Option (List UInt8) :=
  (proc.methodErrorVariant code).map fun variantId =>
    (Value.array
      [.u64 variantId, .map (SortedMap.insert 1 (.text message) [])]).encode

/-- The table reads back the number of every procedure. -/
@[simp]
theorem fromU64_asU64 (proc : ProcId) : fromU64 proc.asU64 = some proc := by
  cases proc <;> rfl

theorem eq_asU64_of_fromU64 {value : UInt64} {proc : ProcId}
    (known : fromU64 value = some proc) : value = proc.asU64 := by
  unfold fromU64 at known
  split at known
  all_goals cases known
  all_goals rfl

end ProcId

/-! ## Requests -/

/-- A decoded request; `value` is absent where the procedure takes none. -/
structure RpcRequest (ρ : Type) where
  proc : ProcId
  value : Option ρ
  deriving DecidableEq, Repr

/-- Failures of `RpcRequest::decode`. -/
inductive RpcRequestDecodeError where
  | unknownProcId (procId : UInt64)
  | missingPayload (proc : ProcId)
  | malformedPayload (proc : ProcId) (source : CodecError)
  deriving DecidableEq, Repr

namespace RpcRequest

variable {ρ : Type}

/-- `RpcRequest::decode`, over the payload decoders of the procedures. -/
def decode
    (decodePayload : ProcId → List UInt8 → Except (Fault CodecError) ρ)
    (procId : UInt64)
    (payload : Option (List UInt8)) :
    Except (Fault RpcRequestDecodeError) (RpcRequest ρ) :=
  match ProcId.fromU64 procId with
  | none => .error (.error (.unknownProcId procId))
  | some proc =>
      if proc.inputIsVoid then .ok ⟨proc, none⟩
      else
        match payload with
        | none => .error (.error (.missingPayload proc))
        | some payload =>
            match decodePayload proc payload with
            | .ok value => .ok ⟨proc, some value⟩
            | .error (.error source) =>
                .error (.error (.malformedPayload proc source))
            | .error (.panic cause) => .error (.panic cause)

/-- A decoded request is for the procedure that was asked for. -/
theorem asU64_proc_of_decode
    {decodePayload : ProcId → List UInt8 → Except (Fault CodecError) ρ}
    {procId : UInt64} {payload : Option (List UInt8)}
    {request : RpcRequest ρ}
    (decoded : decode decodePayload procId payload = .ok request) :
    request.proc.asU64 = procId := by
  unfold decode at decoded
  split at decoded
  · cases decoded
  · rename_i proc known
    rw [ProcId.eq_asU64_of_fromU64 known]
    split at decoded
    · cases decoded
      rfl
    · split at decoded
      · cases decoded
      · split at decoded
        · cases decoded
          rfl
        · cases decoded
        · cases decoded

end RpcRequest

end Daemon
end WhatsGoingOn
