import WhatsGoingOn.Daemon.Pairing
import WhatsGoingOn.Host.ReqResReader
import WhatsGoingOn.Host.Replies
import WhatsGoingOn.Library.Tasks

/-!
# Rpc sessions and their streams

A peer opens any number of rpc sessions, and any number of streams on each.
Every stream is a task of its own: it reads its messages, authenticates its
session or dispatches a procedure, and writes replies.  A step of a task is
one access to what the tasks share: the state of its session, the paired
clients, and what the handlers of the procedures work on.
-/

namespace WhatsGoingOn
namespace Host

open Bytes Daemon

/-- What the host is built on: the digest, the decoders of the payloads, and
which optional services there are. -/
structure Platform (ρ : Type) where
  sha256Base64url : List UInt8 → String
  decodePayload : ProcId → List UInt8 → Except (Fault CodecError) ρ
  windows : Bool
  processResourcesInUse : Bool
  processSocketsInUse : Bool
  processModules : Bool

/-! ## Dispatch of procedures -/

/-- `build_rpc_handlers`: the procedures that have a handler. -/
def buildRpcHandlers {ρ : Type} (platform : Platform ρ) : List ProcId :=
  [.getDaemonInfo, .getDaemonEnvironment, .startPairing, .completePairing,
    .renewClientCredential, .subscribeRoots, .subscribeDirectory, .readFile,
    .writeFile, .createNodes, .renamePaths, .deletePaths,
    .createTerminalSession, .subscribeTerminalSessions,
    .subscribeAvailableShells, .attachTerminalSession, .takeTerminalControl,
    .writeTerminalInput, .closeTerminalSession, .subscribeClients,
    .subscribeTrashItems, .restoreTrashItems, .purgeTrashItems,
    .subscribeProcesses, .subscribeProcessDetail] ++
  (if platform.processResourcesInUse then
    [.subscribeProcessResourcesInUse] else []) ++
  (if platform.processSocketsInUse then
    [.subscribeProcessSocketsInUse] else []) ++
  (if platform.processModules then [.subscribeProcessModules] else []) ++
  (if platform.windows then [.subscribeWindows, .subscribeWindowDetail] else [])

/-- The procedure answers with a stream. -/
def isServerStreamProc (procId : UInt64) : Bool :=
  (ProcId.fromU64 procId).any fun proc => proc.stream == .server

/-- The procedure takes a stream of requests. -/
def isClientStreamProc (procId : UInt64) : Bool :=
  (ProcId.fromU64 procId).any fun proc => proc.stream == .client

/-- Only what leads up to a pairing is open to everyone. -/
def requiresAuthentication (procId : UInt64) : Bool :=
  procId != ProcId.getDaemonInfo.asU64 &&
    procId != ProcId.startPairing.asU64 &&
    procId != ProcId.completePairing.asU64

/-- What becomes of a request: an immediate reply, a run of its handler, or
the end of the task where decoding panics. -/
inductive Dispatch (ρ : Type) where
  | reply (message : ReqResMessage)
  | handle (request : RpcRequest ρ)
  | panicked

/-- The text of the reply for a procedure without a handler. -/
def notImplementedText : String :=
  "this RPC is reserved but not implemented in the first cut"

section Dispatch

variable {ρ : Type}

/-- What the dispatchers of the three shapes of streams share: the check of
the session, the decoding of the request, and the lookup of its handler. -/
def dispatchRpc
    (platform : Platform ρ)
    (stream : ProcStream)
    (unauthorized : ReqResMessage)
    (undecodable : RpcRequestDecodeError → ReqResMessage)
    (unimplemented : UInt64 → ReqResMessage)
    (authenticated : Bool)
    (procId : UInt64)
    (payload : Option (List UInt8)) : Dispatch ρ :=
  if requiresAuthentication procId && !authenticated then .reply unauthorized
  else
    match RpcRequest.decode platform.decodePayload procId payload with
    | .error (.error failure) => .reply (undecodable failure)
    | .error (.panic _) => .panicked
    | .ok request =>
        if request.proc.stream = stream ∧
            request.proc ∈ buildRpcHandlers platform then .handle request
        else .reply (unimplemented request.proc.asU64)

/-- A call whose answer is a stream. -/
def dispatchServerStreamRpc
    (platform : Platform ρ) (authenticated : Bool)
    (procId : UInt64) (payload : Option (List UInt8)) : Dispatch ρ :=
  dispatchRpc platform .server
    (streamGenericErrorMessage procId .unauthorized credentialsRequired)
    (streamRpcRequestDecodeErrorMessage procId)
    (fun requestProcId =>
      streamErrorMessage requestProcId "not_implemented" notImplementedText)
    authenticated procId payload

/-- A call with one request and one answer. -/
def dispatchUnaryRpc
    (platform : Platform ρ) (authenticated : Bool)
    (procId : UInt64) (payload : Option (List UInt8)) : Dispatch ρ :=
  dispatchRpc platform .unary
    (unauthorizedMessage procId)
    (rpcRequestDecodeErrorMessage procId)
    (fun requestProcId =>
      errorMessage requestProcId "not_implemented" notImplementedText)
    authenticated procId payload

/-- A call whose requests are a stream. -/
def dispatchClientStreamRpc
    (platform : Platform ρ) (authenticated : Bool)
    (procId : UInt64) (payload : Option (List UInt8)) : Dispatch ρ :=
  if !isClientStreamProc procId then
    .reply (genericErrorMessage procId .badMessage
      "this RPC does not accept a request stream")
  else
    dispatchRpc platform .client
      (unauthorizedMessage procId)
      (rpcRequestDecodeErrorMessage procId)
      (fun requestProcId =>
        errorMessage requestProcId "not_implemented" notImplementedText)
      authenticated procId payload

end Dispatch

/-! ## Tasks of streams -/

/-- The state of one rpc session. -/
structure RpcSessionState where
  sessionId : Nat
  authenticatedClientId : Option String
  deriving DecidableEq, Repr

/-- What the streams share.  `world` is what the handlers work on. -/
structure HostState (ω : Type) where
  nextRpcSessionId : Nat
  sessions : List RpcSessionState
  clientCredentials : ClientCredentials
  world : ω

/-- The dispatcher that a request is on its way to. -/
inductive Dispatcher where
  | serverStream
  | unary
  | clientStream
  deriving DecidableEq, Repr

/-- How far the task of a stream is.  At `installed` it has authenticated its
session, and the answer is still to be written. -/
inductive StreamStage (ρ : Type) where
  | first (reader : ReqResMessageReader)
  | control (reader : ReqResMessageReader) (messages : List ReqResMessage)
  | authenticate (mechanism : String) (payload : List UInt8)
  | verify (credential : PairedSecretCredential)
  | install (credential : PairedSecretCredential)
  | installed
  | second (dispatcher : Dispatcher) (procId : UInt64)
      (payload : Option (List UInt8)) (reader : ReqResMessageReader)
  | dispatch (dispatcher : Dispatcher) (procId : UInt64)
      (payload : Option (List UInt8))
  | running (request : RpcRequest ρ)
  | finished

/-- The task of a stream: the session it is on, the first message it read,
its stage, and the messages it has written. -/
structure StreamTask (ρ : Type) where
  session : Nat
  request : Option ReqResMessage
  stage : StreamStage ρ
  sent : List ReqResMessage

/-- What one action of a handler does: it may change everything that the
handlers share, write messages, and end. -/
structure HandlerEffect (ω : Type) where
  clientCredentials : ClientCredentials
  world : ω
  messages : List ReqResMessage
  finished : Bool

/-- What drives a task: its own code, with the clock; an action of its
handler; or a failure of its transport. -/
inductive StreamInput (ω : Type) where
  | proceed (nowUnix : Int)
  | handle (effect : HandlerEffect ω)
  | fail

namespace StreamTask

variable {ρ ω : Type}

/-- Write one message and end.  Whoever replies has changed nothing that is
shared: a write that waits or fails is this step, taken later or not at all. -/
def reply (task : StreamTask ρ) (message : ReqResMessage) : StreamTask ρ :=
  { task with stage := .finished, sent := task.sent ++ [message] }

/-- Go on to another stage. -/
def moveTo (task : StreamTask ρ) (stage : StreamStage ρ) : StreamTask ρ :=
  { task with stage := stage }

/-- The opening of `handle_reqres_stream`, by the first message. -/
def readFirst (task : StreamTask ρ) (reader : ReqResMessageReader) :
    StreamTask ρ :=
  match reader.next with
  | .error _ => task.moveTo .finished
  | .ok (none, _) =>
      task.reply (genericErrorMessage 0 .badMessage
        "reqres message sequence is empty")
  | .ok (some message, reader) =>
      let task := { task with request := some message }
      if message.isSessionControl then
        task.moveTo (.control reader [message])
      else
        match message with
        | .requestUnary procId payload =>
            if isServerStreamProc procId then
              task.moveTo (.second .serverStream procId payload reader)
            else task.moveTo (.second .unary procId payload reader)
        | .requestStreamStart procId payload =>
            task.moveTo (.dispatch .clientStream procId payload)
        | _ =>
            task.reply (genericErrorMessage 0 .badMessage
              "reqres stream must start with a request message")

/-- `handle_session_control_messages`, up to the authentication. -/
def handleSessionControlMessages
    (task : StreamTask ρ) (messages : List ReqResMessage) : StreamTask ρ :=
  match messages with
  | [.sessionAuthenticate mechanism payload] =>
      task.moveTo (.authenticate mechanism payload)
  | [_] =>
      task.reply (sessionAuthErrorMessage .malformedPayload
        "client must send SessionAuthenticate on a session-control stream")
  | _ =>
      task.reply (sessionAuthErrorMessage .malformedPayload
        "session authentication expects exactly one control message")

/-- One turn of `read_remaining_reqres_messages`. -/
def readControl
    (task : StreamTask ρ) (reader : ReqResMessageReader)
    (messages : List ReqResMessage) : StreamTask ρ :=
  match reader.next with
  | .error _ => task.moveTo .finished
  | .ok (some message, reader) =>
      task.moveTo (.control reader (messages ++ [message]))
  | .ok (none, _) => task.handleSessionControlMessages messages

/-- `authenticate_session_control`, up to the check of the credential. -/
def authenticateSessionControl
    (task : StreamTask ρ) (session : RpcSessionState)
    (mechanism : String) (payload : List UInt8) : StreamTask ρ :=
  if session.authenticatedClientId.isSome then
    task.reply (sessionAuthErrorMessage .alreadyAuthenticated
      "session is already authenticated")
  else if mechanism ≠ pairedSecretAuthMechanism then
    task.reply (sessionAuthErrorMessage .unsupportedMechanism
      "unsupported session authentication mechanism")
  else
    match PairedSecretCredential.decode payload with
    | .ok credential => task.moveTo (.verify credential)
    | .error (.error _) =>
        task.reply (sessionAuthErrorMessage .malformedPayload
          "session authentication payload is malformed")
    | .error (.panic _) => task.moveTo .finished

end StreamTask

/-- `verify_session_credentials`. -/
def verifySessionCredentials
    (sha256Base64url : List UInt8 → String)
    (credential : PairedSecretCredential)
    (clientCredentials : ClientCredentials)
    (nowUnix : Int) : Bool :=
  clientCredentials.clients.any fun record =>
    record.clientId == credential.credentialId &&
      verifyClientCredential sha256Base64url record
        credential.credentialSecret nowUnix

namespace StreamTask

variable {ρ ω : Type}

/-- `authenticate_session_control`: the check of the credential. -/
def verifyCredential
    (platform : Platform ρ) (task : StreamTask ρ)
    (clientCredentials : ClientCredentials)
    (credential : PairedSecretCredential) (nowUnix : Int) : StreamTask ρ :=
  if verifySessionCredentials platform.sha256Base64url credential
      clientCredentials nowUnix then task.moveTo (.install credential)
  else
    task.reply (sessionAuthErrorMessage .invalidCredentials
      "paired credential verification failed")

/-- A unary request must be the only message of its stream. -/
def readSecond
    (task : StreamTask ρ) (dispatcher : Dispatcher) (procId : UInt64)
    (payload : Option (List UInt8)) (reader : ReqResMessageReader) :
    StreamTask ρ :=
  match reader.next with
  | .error _ => task.moveTo .finished
  | .ok (none, _) => task.moveTo (.dispatch dispatcher procId payload)
  | .ok (some _, _) =>
      match dispatcher with
      | .serverStream =>
          task.reply (streamGenericErrorMessage procId .badMessage
            "server-stream request sequence may contain only one message")
      | _ =>
          task.reply (genericErrorMessage procId .badMessage
            "unary request sequence may contain only one message")

/-- What a dispatcher makes of a request. -/
def dispatched
    (platform : Platform ρ) (dispatcher : Dispatcher) (authenticated : Bool)
    (procId : UInt64) (payload : Option (List UInt8)) : Dispatch ρ :=
  match dispatcher with
  | .serverStream => dispatchServerStreamRpc platform authenticated procId payload
  | .unary => dispatchUnaryRpc platform authenticated procId payload
  | .clientStream => dispatchClientStreamRpc platform authenticated procId payload

/-- The task after its message was dispatched. -/
def dispatch
    (platform : Platform ρ) (task : StreamTask ρ)
    (session : RpcSessionState) (dispatcher : Dispatcher)
    (procId : UInt64) (payload : Option (List UInt8)) : StreamTask ρ :=
  match dispatched platform dispatcher session.authenticatedClientId.isSome
      procId payload with
  | .reply message => task.reply message
  | .handle request => task.moveTo (.running request)
  | .panicked => task.moveTo .finished

end StreamTask

section System

variable {ρ ω : Type}

/-- A stream is accepted on a session, with the chunks that it will carry. -/
def acceptStream (shared : HostState ω) (request : Nat × List (List UInt8)) :
    Option (StreamTask ρ) :=
  if request.1 < shared.sessions.length then
    some {
      session := request.1
      request := none
      stage := .first (ReqResMessageReader.new request.2)
      sent := [] }
  else none

/-- One action of the task of a stream. -/
def advanceStream (platform : Platform ρ)
    (shared : HostState ω) (task : StreamTask ρ) :
    StreamInput ω → Option (HostState ω × StreamTask ρ)
  | .fail => some (shared, task.moveTo .finished)
  | .handle effect =>
      match task.stage with
      | .running _ =>
          some
            ({ shared with
                clientCredentials := effect.clientCredentials
                world := effect.world },
              { task with
                stage := if effect.finished then .finished else task.stage
                sent := task.sent ++ effect.messages })
      | _ => none
  | .proceed nowUnix =>
      match task.stage with
      | .first reader => some (shared, task.readFirst reader)
      | .control reader messages =>
          some (shared, task.readControl reader messages)
      | .authenticate mechanism payload =>
          shared.sessions[task.session]?.map fun session =>
            (shared, task.authenticateSessionControl session mechanism payload)
      | .verify credential =>
          some (shared, task.verifyCredential platform
            shared.clientCredentials credential nowUnix)
      | .install credential =>
          shared.sessions[task.session]?.map fun session =>
            ({ shared with
                sessions := shared.sessions.set task.session
                  { session with
                    authenticatedClientId := some credential.credentialId } },
              task.moveTo .installed)
      | .installed => some (shared, task.reply .sessionAuthenticated)
      | .second dispatcher procId payload reader =>
          some (shared, task.readSecond dispatcher procId payload reader)
      | .dispatch dispatcher procId payload =>
          shared.sessions[task.session]?.map fun session =>
            (shared, task.dispatch platform session dispatcher procId payload)
      | .running _ | .finished => none

/-- `run_rpc_session` for one more session. -/
def connectSession (shared : HostState ω) (_ : Unit) :
    Option (HostState ω) :=
  some { shared with
    nextRpcSessionId := shared.nextRpcSessionId + 1
    sessions := shared.sessions ++ [⟨shared.nextRpcSessionId, none⟩] }

/-- The host, as a system of tasks. -/
def host (platform : Platform ρ) :
    TaskSystem (HostState ω) (StreamTask ρ) (Nat × List (List UInt8))
      (StreamInput ω) Unit where
  launch := acceptStream
  advance := advanceStream platform
  disturb := connectSession

/-- The host when it starts. -/
def HostState.initial (clientCredentials : ClientCredentials) (world : ω) :
    HostState ω :=
  ⟨1, [], clientCredentials, world⟩

end System

end Host
end WhatsGoingOn
