import WhatsGoingOn.Daemon.Codec

/-!
# Wire messages of the daemon

The envelopes of datagrams and of request/response streams, with the codecs
that are generated for them from the wire schema.
-/

namespace WhatsGoingOn
namespace Daemon

/-- `MAX_MESSAGE_SEQUENCE_SIZE`: 64 MiB. -/
def maxMessageSequenceSize : Nat := 64 * 1024 * 1024

/-- `PAIRED_SECRET_AUTH_MECHANISM`. -/
def pairedSecretAuthMechanism : String := "wgo.paired-secret.v1"

/-- Failures of the wire layer. -/
inductive WireError where
  | cbor (error : CborError)
  | codec (error : CodecError)
  | emptySequence
  | incompleteMessagePair
  | sequenceTooLarge
  deriving DecidableEq, Repr

/-- Lift a fault of the CBOR decoder. -/
def Fault.ofCbor : Fault CborError → Fault WireError
  | .error failure => .error (.cbor failure)
  | .panic cause => .panic cause

/-! ## Datagrams -/

/-- The message of a datagram. -/
inductive DatagramMessage where
  | ping (pingId : UInt64)
  | pong (pingId : UInt64)
  deriving DecidableEq, Repr

namespace DatagramMessage

/-- A union of the variant's number and its fields, the ping id checked. -/
def encodeValue : DatagramMessage → Except CodecError Value
  | .ping pingId => do
      let pingId ← encodeU53 pingId
      pure (.array [.u64 1, .map (SortedMap.insert 1 pingId [])])
  | .pong pingId => do
      let pingId ← encodeU53 pingId
      pure (.array [.u64 2, .map (SortedMap.insert 1 pingId [])])

/-- The message of a union; an id that is left out is zero. -/
def decodeValue (value : Value) : Except CodecError DatagramMessage := do
  let (variantId, fields) ← expectUnion value
  match variantId with
  | 1 => do
      let pingId ← fieldOrDefault (fields.lookup 1) expectU64 0
      pure (.ping pingId)
  | 2 => do
      let pingId ← fieldOrDefault (fields.lookup 1) expectU64 0
      pure (.pong pingId)
  | variantId =>
      .error (.unknownUnionVariant "DatagramMessage" variantId)

/-- `DatagramMessage::encode`.  It panics where the generated encoder
fails. -/
def encode (message : DatagramMessage) : Except Panic (List UInt8) :=
  match message.encodeValue with
  | .ok value => .ok value.encode
  | .error _ => .error (.expect "generated datagram message failed to encode")

/-- `DatagramMessage::decode`. -/
def decode (bytes : List UInt8) : Except (Fault WireError) DatagramMessage :=
  match Value.decode bytes with
  | .error fault => .error fault.ofCbor
  | .ok value =>
      match decodeValue value with
      | .ok message => .ok message
      | .error failure => .error (.error (.codec failure))

end DatagramMessage

/-! ## Request/response streams -/

/-- Which schema the payload of an error response follows. -/
inductive RpcErrorKind where
  | system
  | method
  deriving DecidableEq, Repr

namespace RpcErrorKind

/-- The kind of an error by its number. -/
def decodeValue (value : Value) : Except CodecError RpcErrorKind := do
  match ← expectU64 value with
  | 1 => pure .system
  | 2 => pure .method
  | variantId => .error (.unknownEnumVariant "RpcErrorKind" variantId)

end RpcErrorKind

/-- Reasons for which a session is not authenticated. -/
inductive SessionAuthErrorCode where
  | unsupportedMechanism
  | invalidCredentials
  | malformedPayload
  | alreadyAuthenticated
  deriving DecidableEq, Repr

namespace SessionAuthErrorCode

/-- The code of a refused authentication by its number. -/
def decodeValue (value : Value) :
    Except CodecError SessionAuthErrorCode := do
  match ← expectU64 value with
  | 1 => pure .unsupportedMechanism
  | 2 => pure .invalidCredentials
  | 3 => pure .malformedPayload
  | 4 => pure .alreadyAuthenticated
  | variantId => .error (.unknownEnumVariant "SessionAuthErrorCode" variantId)

end SessionAuthErrorCode

/-- A message of a request/response stream. -/
inductive ReqResMessage where
  | requestUnary (procId : UInt64) (payload : Option (List UInt8))
  | requestStreamStart (procId : UInt64) (payload : Option (List UInt8))
  | requestStreamChunk (payload : List UInt8)
  | responseUnaryOk (payload : Option (List UInt8))
  | responseUnaryError (error : List UInt8) (errorKind : RpcErrorKind)
  | responseStreamStart (payload : Option (List UInt8))
  | responseStreamChunk (payload : List UInt8)
  | responseStreamErrorEnd (error : List UInt8) (errorKind : RpcErrorKind)
  | sessionAuthenticate (mechanism : String) (payload : List UInt8)
  | sessionAuthenticated
  | sessionAuthError (code : SessionAuthErrorCode) (message : String)
  deriving DecidableEq, Repr

namespace ReqResMessage

/-- The message of a union, with the defaults of fields that are left out. -/
def decodeValue (value : Value) : Except CodecError ReqResMessage := do
  let (variantId, fields) ← expectUnion value
  match variantId with
  | 0 => do
      let procId ← fieldOrDefault (fields.lookup 1) expectU64 0
      let payload ← optionalField (fields.lookup 2) expectBytes
      pure (.requestUnary procId payload)
  | 1 => do
      let procId ← fieldOrDefault (fields.lookup 1) expectU64 0
      let payload ← optionalField (fields.lookup 2) expectBytes
      pure (.requestStreamStart procId payload)
  | 2 => do
      let payload ← fieldOrDefault (fields.lookup 2) expectBytes []
      pure (.requestStreamChunk payload)
  | 3 => do
      let payload ← optionalField (fields.lookup 2) expectBytes
      pure (.responseUnaryOk payload)
  | 4 => do
      let error ← fieldOrDefault (fields.lookup 3) expectBytes []
      let errorKind ←
        fieldOrDefault (fields.lookup 4) RpcErrorKind.decodeValue .system
      pure (.responseUnaryError error errorKind)
  | 5 => do
      let payload ← optionalField (fields.lookup 2) expectBytes
      pure (.responseStreamStart payload)
  | 6 => do
      let payload ← fieldOrDefault (fields.lookup 2) expectBytes []
      pure (.responseStreamChunk payload)
  | 7 => do
      let error ← fieldOrDefault (fields.lookup 3) expectBytes []
      let errorKind ←
        fieldOrDefault (fields.lookup 4) RpcErrorKind.decodeValue .system
      pure (.responseStreamErrorEnd error errorKind)
  | 8 => do
      let mechanism ← fieldOrDefault (fields.lookup 1) expectText ""
      let payload ← fieldOrDefault (fields.lookup 2) expectBytes []
      pure (.sessionAuthenticate mechanism payload)
  | 9 => pure .sessionAuthenticated
  | 10 => do
      let code ← fieldOrDefault (fields.lookup 1)
        SessionAuthErrorCode.decodeValue .unsupportedMechanism
      let message ← fieldOrDefault (fields.lookup 2) expectText ""
      pure (.sessionAuthError code message)
  | variantId =>
      .error (.unknownUnionVariant "ReqResMessage" variantId)

/-- `ReqResMessage::is_session_control`. -/
def isSessionControl : ReqResMessage → Bool
  | .sessionAuthenticate .. | .sessionAuthenticated | .sessionAuthError .. =>
      true
  | _ => false

/-- `ReqResMessage::proc_id`. -/
def procId : ReqResMessage → Option UInt64
  | .requestUnary procId _ | .requestStreamStart procId _ => some procId
  | _ => none

/-- `ReqResMessage::from_flattened_parts`. -/
def fromFlattenedParts
    (kind fields : Value) : Except WireError ReqResMessage :=
  match decodeValue (.array [kind, fields]) with
  | .ok message => .ok message
  | .error failure => .error (.codec failure)

/-- `ReqResMessage::decode_prefix`: the message at the front and its length,
or nothing while the input stops inside it. -/
def decodePrefix (bytes : List UInt8) :
    Except (Fault WireError) (Option (ReqResMessage × Nat)) :=
  if maxMessageSequenceSize < bytes.length then
    .error (.error .sequenceTooLarge)
  else
    match Value.decodePrefix bytes with
    | .error fault => .error fault.ofCbor
    | .ok none => .ok none
    | .ok (some (kind, kindLength)) =>
        match Value.decodePrefix (bytes.drop kindLength) with
        | .error fault => .error fault.ofCbor
        | .ok none => .ok none
        | .ok (some (fields, fieldsLength)) =>
            match fromFlattenedParts kind fields with
            | .error failure => .error (.error failure)
            | .ok message => .ok (some (message, kindLength + fieldsLength))

/-- The messages of a sequence of values, two values each. -/
def decodePairs : List Value → Except WireError (List ReqResMessage)
  | [] => .ok []
  | [_] => .error .incompleteMessagePair
  | kind :: fields :: values => do
      let message ← fromFlattenedParts kind fields
      let messages ← decodePairs values
      pure (message :: messages)

/-- `ReqResMessage::decode_sequence`. -/
def decodeSequence (bytes : List UInt8) :
    Except (Fault WireError) (List ReqResMessage) :=
  if maxMessageSequenceSize < bytes.length then
    .error (.error .sequenceTooLarge)
  else
    match Value.decodeSequence bytes with
    | .error fault => .error fault.ofCbor
    | .ok values =>
        if values.isEmpty then .error (.error .emptySequence)
        else if values.length % 2 ≠ 0 then
          .error (.error .incompleteMessagePair)
        else
          match decodePairs values with
          | .error failure => .error (.error failure)
          | .ok messages => .ok messages

end ReqResMessage

/-! ## Errors and credentials on the wire -/

/-- Error codes of the envelope. -/
inductive RpcErrorCode where
  | badMessage
  | unauthorized
  | missingPayload
  | notImplemented
  | permissionDenied
  | notFound
  | operationFailed
  | malformedPayload
  deriving DecidableEq, Repr

namespace RpcErrorCode

/-- The number that an error of the system carries on the wire. -/
def asU64 : RpcErrorCode → UInt64
  | .badMessage => 1
  | .unauthorized => 2
  | .missingPayload => 3
  | .notImplemented => 4
  | .permissionDenied => 6
  | .notFound => 7
  | .operationFailed => 8
  | .malformedPayload => 9

end RpcErrorCode

/-- An error outside the contract of a procedure. -/
structure RpcErrorPayload where
  code : RpcErrorCode
  message : String
  deriving DecidableEq, Repr

namespace RpcErrorPayload

/-- The code under 1 and the message under 2. -/
def encodeValue (payload : RpcErrorPayload) : Value :=
  .map (SortedMap.insert 2 (.text payload.message)
    (SortedMap.insert 1 (.u64 payload.code.asU64) []))

/-- `RpcErrorPayload::encode`.  No field of it can fail to encode. -/
def encode (payload : RpcErrorPayload) : List UInt8 :=
  payload.encodeValue.encode

end RpcErrorPayload

/-- The payload of the paired-secret authentication mechanism. -/
structure PairedSecretCredential where
  credentialId : String
  credentialSecret : String
  deriving DecidableEq, Repr

namespace PairedSecretCredential

/-- Both texts are empty where they are left out. -/
def decodeValue (value : Value) : Except CodecError PairedSecretCredential := do
  let fields ← expectMap value
  let credentialId ← fieldOrDefault (fields.lookup 1) expectText ""
  let credentialSecret ← fieldOrDefault (fields.lookup 2) expectText ""
  pure ⟨credentialId, credentialSecret⟩

/-- `PairedSecretCredential::decode`. -/
def decode (bytes : List UInt8) :
    Except (Fault WireError) PairedSecretCredential :=
  match Value.decode bytes with
  | .error fault => .error fault.ofCbor
  | .ok value =>
      match decodeValue value with
      | .ok credential => .ok credential
      | .error failure => .error (.error (.codec failure))

end PairedSecretCredential
end Daemon
end WhatsGoingOn
