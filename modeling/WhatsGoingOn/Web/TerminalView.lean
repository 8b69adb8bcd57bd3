import WhatsGoingOn.Host.TerminalManager
import WhatsGoingOn.Library.Run

/-!
# Terminal views

Views of one terminal at several clients.  A view learns who has control from
the events of its attach stream, and from the responses to its own requests;
each of the two channels keeps its order, and nothing relates the two.
-/

namespace WhatsGoingOn
namespace Web

open Daemon (ServiceError)
open Host

/-- What a view has recorded of its attach and of the control of its
terminal. -/
structure TerminalView where
  attachId : Option String
  primaryAttachId : Option String
  terminalSessionFinished : Bool
  deriving DecidableEq, Repr

namespace TerminalView

/-- Not attached, and nobody is known to be in control. -/
def initial : TerminalView := ⟨none, none, false⟩

/-- The view believes that it may type. -/
def isLivePrimaryAttach (view : TerminalView) : Bool :=
  view.attachId.isSome && view.primaryAttachId == view.attachId

/-- What an event of the stream changes of the view. -/
def handleTerminalEvent (view : TerminalView) : TerminalEvent → TerminalView
  | .attached attachId primaryAttachId session =>
      { view with
        attachId := some attachId
        primaryAttachId := primaryAttachId
        terminalSessionFinished :=
          view.terminalSessionFinished || session.exit.isSome }
  | .controlChanged primaryAttachId =>
      { view with primaryAttachId := some primaryAttachId }
  | .sessionExited _ => { view with terminalSessionFinished := true }
  | .sessionClosed _ => ⟨none, none, true⟩
  | .outputChunk _ _ | .historyGap _ | .pseudoTerminalResized _ _
  | .workingDirectoryChanged _ | .titleChanged _ => view

/-- The end of `takeCurrentControl`. -/
def handleResponse (view : TerminalView) :
    Except ServiceError String → TerminalView
  | .ok primaryAttachId =>
      { view with primaryAttachId := some primaryAttachId }
  | .error _ => view

end TerminalView

/-- A client that is attached to the terminal: its view, its attach stream, and
its requests for control and their responses that are on the way. -/
structure TerminalClient where
  view : TerminalView
  stream : AttachStream
  requests : List TakeTerminalControlReq
  responses : List (Except ServiceError String)

/-- A terminal and its clients. -/
structure TerminalClients where
  session : TerminalSession
  nextAttachId : Nat
  clients : List TerminalClient

/-- What happens to a terminal and its clients. -/
inductive TerminalClientsInput where
  | attach (request : AttachTerminalSessionReq) (rpcSessionId nowMs : Nat)
  | output (bytes : List UInt8) (nowMs : Nat)
  | takeCurrentControl (client cols rows : Nat)
  | takeControl (client request : Nat) (resizeError : Option String)
  | event (client : Nat)
  | response (client : Nat)
  deriving DecidableEq, Repr

/-- `take_terminal_control` at the daemon. -/
def takeTerminalControl (session : TerminalSession)
    (request : TakeTerminalControlReq) (rpcSessionId : Nat)
    (resizeError : Option String) :
    TerminalSession × Except ServiceError String :=
  match validateSize request.viewportCols request.viewportRows with
  | .error error => (session, .error error)
  | .ok () =>
      let (session, result) :=
        session.takeControl request rpcSessionId resizeError
      (session, result.map fun () => request.attachId)

namespace TerminalClient

/-- The events of the attach stream that are on the way. -/
def undelivered (client : TerminalClient) (session : TerminalSession) :
    List TerminalEvent :=
  client.stream.pending ++ session.outputTx.drop client.stream.place

/-- The next event of the attach stream. -/
def nextEvent (client : TerminalClient) (session : TerminalSession) :
    Option (TerminalEvent × AttachStream) :=
  match client.stream.pending with
  | event :: pending =>
      some (event, { client.stream with
        pending := pending
        delivered := client.stream.delivered ++ [event] })
  | [] =>
      session.outputTx[client.stream.place]?.map fun event =>
        (event, { client.stream with
          place := client.stream.place + 1
          delivered := client.stream.delivered ++ [event] })

end TerminalClient

namespace TerminalClients

/-- A terminal that has just been created. -/
def initial (request : CreateTerminalSessionReq)
    (terminalSessionId creatorClientId : String)
    (initialCwd : Option String) (nowMs : Nat) : TerminalClients :=
  ⟨.create request terminalSessionId creatorClientId initialCwd nowMs, 0, []⟩

/-- Changes a client. -/
def setClient (state : TerminalClients) (index : Nat)
    (client : TerminalClient) : TerminalClients :=
  { state with clients := state.clients.set index client }

/-- One step of a terminal and its clients. -/
def step (windows : Bool) (state : TerminalClients) :
    TerminalClientsInput → Option TerminalClients
  | .attach request rpcSessionId nowMs =>
      match do
          validateSize request.viewportCols request.viewportRows
          state.session.attach request
            ("attach-" ++ toString state.nextAttachId) rpcSessionId nowMs with
      | .error _ => none
      | .ok (session, attached) =>
          some { state with
            session := session
            nextAttachId := state.nextAttachId + 1
            clients := state.clients ++
              [⟨.initial, .start rpcSessionId 0 attached, [], []⟩] }
  | .output bytes nowMs =>
      (state.session.recordOutput windows bytes nowMs).map fun recorded =>
        { state with session := recorded.1 }
  | .takeCurrentControl index cols rows =>
      state.clients[index]?.bind fun client =>
        match client.view.attachId, client.view.terminalSessionFinished with
        | some attachId, false =>
            some (state.setClient index { client with
              requests := client.requests ++
                [⟨client.stream.attached.terminalSessionId, attachId, cols,
                  rows⟩] })
        | _, _ => none
  | .takeControl index position resizeError =>
      state.clients[index]?.bind fun client =>
        client.requests[position]?.map fun request =>
          let (session, response) := takeTerminalControl state.session request
            client.stream.rpcSessionId resizeError
          { state with session := session }.setClient index { client with
            requests := client.requests.eraseIdx position
            responses := client.responses ++ [response] }
  | .event index =>
      state.clients[index]?.bind fun client =>
        (client.nextEvent state.session).map fun (event, stream) =>
          state.setClient index { client with
            view := client.view.handleTerminalEvent event
            stream := stream }
  | .response index =>
      state.clients[index]?.bind fun client =>
        match client.responses with
        | [] => none
        | response :: responses =>
            some (state.setClient index { client with
              view := client.view.handleResponse response
              responses := responses })

end TerminalClients

end Web
end WhatsGoingOn
