import WhatsGoingOn.Daemon.Procedures

/-!
# Error replies of the host

How the host words its refusals: by the error union of the procedure where
that has the code, else by the generic error of the envelope.
-/

namespace WhatsGoingOn
namespace Host

open Daemon

/-- The code of the system that a text stands for. -/
def rpcErrorCode (code : String) : RpcErrorCode :=
  match code with
  | "bad_message" => .badMessage
  | "unauthorized" => .unauthorized
  | "missing_payload" => .missingPayload
  | "not_implemented" => .notImplemented
  | "permission_denied" => .permissionDenied
  | "not_found" => .notFound
  | "failed" => .operationFailed
  | "operation_failed" => .operationFailed
  | "malformed_payload" => .malformedPayload
  | _ => .operationFailed

/-- The payload of an error that the schema lists for the procedure. -/
def methodErrorPayload (procId : UInt64) (code message : String) :
    Option (List UInt8) :=
  (ProcId.fromU64 procId).bind fun proc => proc.methodErrorPayload code message

/-- The kind and the payload of an error reply. -/
def errorParts (procId : UInt64) (code message : String) :
    RpcErrorKind × List UInt8 :=
  match methodErrorPayload procId code message with
  | some error => (.method, error)
  | none =>
      (.system, RpcErrorPayload.encode ⟨rpcErrorCode code, message⟩)

/-- The message that answers a unary call with an error. -/
def errorMessage (procId : UInt64) (code message : String) : ReqResMessage :=
  let (errorKind, error) := errorParts procId code message
  .responseUnaryError error errorKind

/-- The message that ends a stream with an error. -/
def streamErrorMessage (procId : UInt64) (code message : String) :
    ReqResMessage :=
  let (errorKind, error) := errorParts procId code message
  .responseStreamErrorEnd error errorKind

/-- An error of the system in answer to a unary call. -/
def genericErrorMessage (_procId : UInt64) (code : RpcErrorCode)
    (message : String) : ReqResMessage :=
  .responseUnaryError (RpcErrorPayload.encode ⟨code, message⟩) .system

/-- An error of the system at the end of a stream. -/
def streamGenericErrorMessage (_procId : UInt64) (code : RpcErrorCode)
    (message : String) : ReqResMessage :=
  .responseStreamErrorEnd (RpcErrorPayload.encode ⟨code, message⟩) .system

/-- The answer to an authentication that is refused. -/
def sessionAuthErrorMessage (code : SessionAuthErrorCode) (message : String) :
    ReqResMessage :=
  .sessionAuthError code message

/-- What `unauthorized_message` says, and its streaming sibling. -/
def credentialsRequired : String :=
  "valid paired client credentials are required"

/-- The answer to a call that needs credentials. -/
def unauthorizedMessage (procId : UInt64) : ReqResMessage :=
  genericErrorMessage procId .unauthorized credentialsRequired

/-- Code and text of the reply to a request that does not decode. -/
def describeDecodeError : RpcRequestDecodeError → RpcErrorCode × String
  | .unknownProcId _ =>
      (.notImplemented,
        "this RPC is reserved but not implemented in the first cut")
  | .missingPayload proc =>
      (.missingPayload, proc.name ++ " requires a payload")
  | .malformedPayload proc _ =>
      (.malformedPayload, proc.name ++ " payload is malformed")

/-- The answer to a unary call whose request cannot be read. -/
def rpcRequestDecodeErrorMessage
    (procId : UInt64) (failure : RpcRequestDecodeError) : ReqResMessage :=
  genericErrorMessage procId (describeDecodeError failure).1
    (describeDecodeError failure).2

/-- The end of a stream whose request cannot be read. -/
def streamRpcRequestDecodeErrorMessage
    (procId : UInt64) (failure : RpcRequestDecodeError) : ReqResMessage :=
  streamGenericErrorMessage procId (describeDecodeError failure).1
    (describeDecodeError failure).2

end Host
end WhatsGoingOn
