import Mathlib.Data.String.Basic
import WhatsGoingOn.Host.Terminal
import WhatsGoingOn.Library.Broadcast
import WhatsGoingOn.Library.SortedMap
import WhatsGoingOn.Library.Tasks

/-!
# The terminal manager

Requests, attach streams, subscriptions of the table of sessions, and the two
threads of every session run side by side.  Each looks its session up under the
lock of the table, changes it under the lock of the session, and tells the
subscribers of the table afterwards, with no lock held.  Each of these is a step
of its own here.
-/

namespace WhatsGoingOn
namespace Host

open Broadcast
open Daemon (ServiceError)

/-! ## What the tasks share -/

/-- `TerminalManagerInner`.  The sessions that the table refers to, or did, are
in the order in which they were added: tasks may still hold one that is no
longer in the table. -/
structure TerminalManager where
  objects : List TerminalSession
  sessions : List (String × Nat)
  nextSessionId : Nat
  nextAttachId : Nat
  tableTx : List TerminalSessionsTableEvent

namespace TerminalManager

/-- No session has been made. -/
def new : TerminalManager := ⟨[], [], 1, 1, []⟩

/-- Where the session of an id is kept. -/
def getSession (manager : TerminalManager) (terminalSessionId : String) :
    Option Nat :=
  manager.sessions.lookup terminalSessionId

/-- Put a session in the place of one. -/
def setSession (manager : TerminalManager) (index : Nat)
    (session : TerminalSession) : TerminalManager :=
  { manager with objects := manager.objects.set index session }

/-- Add a session to the table. -/
def insertSession (manager : TerminalManager) (terminalSessionId : String)
    (session : TerminalSession) : TerminalManager :=
  { manager with
    objects := manager.objects ++ [session]
    sessions := SortedMap.insert terminalSessionId manager.objects.length
      manager.sessions }

/-- Take a session off the table. -/
def removeSession (manager : TerminalManager) (terminalSessionId : String) :
    TerminalManager :=
  { manager with
    sessions := manager.sessions.filter fun entry =>
      entry.1 != terminalSessionId }

/-- The event goes to everyone who subscribes to the table. -/
def broadcast (manager : TerminalManager)
    (event : TerminalSessionsTableEvent) : TerminalManager :=
  { manager with tableTx := manager.tableTx ++ [event] }

end TerminalManager

/-- What the subscribers of the table are told: the new record of a session,
or that it is gone. -/
inductive Announcement where
  | upsert (info : TerminalSessionInfo)
  | remove (terminalSessionId : String)
  deriving DecidableEq, Repr

namespace Announcement

/-- The event that an announcement is told with. -/
def event : Announcement → TerminalSessionsTableEvent
  | .upsert info => .patch [] [info]
  | .remove terminalSessionId => .patch [⟨terminalSessionId⟩] []

/-- The session that an announcement is about. -/
def subject : Announcement → String
  | .upsert info => info.terminalSessionId
  | .remove terminalSessionId => terminalSessionId

end Announcement

/-! ## Tasks -/

/-- An attach stream of an rpc session: what it has attached, what it still
writes before it follows the channel, its place there, and what it has
written. -/
structure AttachStream where
  rpcSessionId : Nat
  index : Nat
  attached : AttachedTerminal
  pending : List TerminalEvent
  place : Nat
  delivered : List TerminalEvent
  deriving DecidableEq, Repr

namespace AttachStream

/-- The events that a stream writes first. -/
def start (rpcSessionId index : Nat) (attached : AttachedTerminal) :
    AttachStream where
  rpcSessionId := rpcSessionId
  index := index
  attached := attached
  pending :=
    .attached attached.attachId attached.primaryAttachId attached.session ::
      attached.replay ++ (attached.session.exit.map .sessionExited).toList
  place := attached.receiver
  delivered := []

/-- Whether a stream ends with an event. -/
def endsWith : TerminalEvent → Bool
  | .sessionExited _ | .sessionClosed _ => true
  | _ => false

/-- What a stream writes for what it has received. -/
def eventOf (stream : AttachStream) : Received TerminalEvent → TerminalEvent
  | .value event => event
  | .lagged _ => .historyGap (stream.attached.session.latestOutputSeq + 1)

end AttachStream

/-- What a task does after an announcement. -/
inductive Followup where
  | done
  | streaming (stream : AttachStream)
  | detached (stream : AttachStream)
  | reading (terminalSessionId : String)
  deriving DecidableEq, Repr

/-- What a task does next. -/
inductive TerminalTask where
  -- `create_session`
  | creating (request : CreateTerminalSessionReq) (creatorClientId : String)
  | inserting (request : CreateTerminalSessionReq)
      (terminalSessionId creatorClientId : String)
      (initialCwd : Option String) (createdAtMs : Nat)
  | announcing (announcement : Announcement) (followup : Followup)
  -- `attach`, and the stream
  | attaching (request : AttachTerminalSessionReq) (rpcSessionId : Nat)
  | numbering (request : AttachTerminalSessionReq) (rpcSessionId index : Nat)
  | attachingTo (request : AttachTerminalSessionReq)
      (rpcSessionId index : Nat) (attachId : String)
  | streaming (stream : AttachStream)
  | detaching (stream : AttachStream)
  | detachingFrom (stream : AttachStream) (index : Nat)
  | detached (stream : AttachStream)
  -- `take_control`
  | controlling (request : TakeTerminalControlReq) (rpcSessionId : Nat)
  | controllingOf (request : TakeTerminalControlReq)
      (rpcSessionId index : Nat)
  -- `write_input`
  | writing (terminalSessionId attachId : String) (bytes : List UInt8)
      (rpcSessionId : Nat)
  | writingTo (index : Nat) (attachId : String) (bytes : List UInt8)
      (rpcSessionId : Nat)
  -- `close_session`
  | closing (terminalSessionId : String)
  | closingOf (terminalSessionId : String) (index : Nat)
  -- The thread that reads the output, and `record_output`
  | reading (terminalSessionId : String)
  | recording (terminalSessionId : String) (bytes : List UInt8)
  | recordingTo (terminalSessionId : String) (index : Nat)
      (bytes : List UInt8)
  -- The thread that waits for the program, and `mark_exited`
  | waiting (terminalSessionId : String)
  | marking (terminalSessionId : String)
      (status : Option (Nat × Option String))
  | markingOf (index : Nat) (status : Option (Nat × Option String))
  -- A subscription of the table: its snapshots, the first of them before it
  -- has a place in the channel, and what it has written
  | opening
  | collecting (remaining : List Nat) (rows : List TerminalSessionInfo)
      (place : Option Nat) (delivered : List TerminalSessionsTableEvent)
  | subscribing (delivered : List TerminalSessionsTableEvent)
  | following (place : Nat) (delivered : List TerminalSessionsTableEvent)
  | finished (result : Except ServiceError Unit)
  deriving DecidableEq, Repr

/-- A request, or one of the threads of a session. -/
inductive TerminalRequest where
  | createSession (request : CreateTerminalSessionReq)
      (creatorClientId : String)
  | attach (request : AttachTerminalSessionReq) (rpcSessionId : Nat)
  | takeControl (request : TakeTerminalControlReq) (rpcSessionId : Nat)
  | writeInput (terminalSessionId attachId : String) (bytes : List UInt8)
      (rpcSessionId : Nat)
  | closeSession (terminalSessionId : String)
  | subscribeSessions
  | outputReader (terminalSessionId : String)
  | childWaiter (terminalSessionId : String)

/-- What a task learns from outside: the time, a working directory for a new
session, what a program has written and how it ended, and what its
pseudo-terminal answers. -/
structure TerminalAnswers where
  nowMs : Nat
  currentDir : Option String
  output : List UInt8
  status : Option (Nat × Option String)
  resizeError : Option String
  written : PtyWrite
  deriving DecidableEq, Repr

/-- A task goes on, or what it uses outside fails: the pseudo-terminal of a new
session, the output of a program, or the stream to a client. -/
inductive TerminalInput where
  | proceed (answers : TerminalAnswers)
  | fail (error : String)
  deriving DecidableEq, Repr

namespace TerminalTask

/-- The task ends without an error. -/
def done : TerminalTask := .finished (.ok ())

/-- What the task goes on with once its announcement is made. -/
def after : Followup → TerminalTask
  | .done => done
  | .streaming stream => .streaming stream
  | .detached stream => .detached stream
  | .reading terminalSessionId => .reading terminalSessionId

/-- The task ends with an error. -/
def failed (error : ServiceError) : TerminalTask := .finished (.error error)

/-- Go on with a size if it is one. -/
def sized (cols rows : Nat) (task : TerminalTask) : TerminalTask :=
  match validateSize cols rows with
  | .error error => failed error
  | .ok () => task

/-- Go on with the place of a session, or without. -/
def withSession (manager : TerminalManager) (terminalSessionId : String)
    (missing : TerminalTask) (found : Nat → TerminalTask) : TerminalTask :=
  match manager.getSession terminalSessionId with
  | none => missing
  | some index => found index

/-- The start of a request, before it touches what is shared. -/
def start : TerminalRequest → TerminalTask
  | .createSession request creatorClientId =>
      sized request.cols request.rows
        (if (Text.trim request.launch.command).isEmpty then
          failed (.operationFailed "terminal command is empty")
        else .creating request creatorClientId)
  | .attach request rpcSessionId =>
      sized request.viewportCols request.viewportRows
        (.attaching request rpcSessionId)
  | .takeControl request rpcSessionId =>
      sized request.viewportCols request.viewportRows
        (.controlling request rpcSessionId)
  | .writeInput terminalSessionId attachId bytes rpcSessionId =>
      .writing terminalSessionId attachId bytes rpcSessionId
  | .closeSession terminalSessionId => .closing terminalSessionId
  | .subscribeSessions => .opening
  | .outputReader terminalSessionId => .reading terminalSessionId
  | .childWaiter terminalSessionId => .waiting terminalSessionId

/-- One step of a task that holds the lock of its session. -/
def locked (windows : Bool) (manager : TerminalManager)
    (session : TerminalSession) (answers : TerminalAnswers) :
    TerminalTask → Option (TerminalManager × TerminalTask)
  | .attachingTo request rpcSessionId index attachId =>
      match session.attach request attachId rpcSessionId answers.nowMs with
      | .error error => some (manager, failed error)
      | .ok (session, attached) =>
          some (manager.setSession index session,
            .announcing (.upsert session.info)
              (.streaming (.start rpcSessionId index attached)))
  | .detachingFrom stream index =>
      let session := session.detach stream.attached.attachId answers.nowMs
      some (manager.setSession index session,
        .announcing (.upsert session.info) (.detached stream))
  | .controllingOf request rpcSessionId index =>
      match session.takeControl request rpcSessionId answers.resizeError with
      | (session, .error error) =>
          some (manager.setSession index session, failed error)
      | (session, .ok ()) =>
          some (manager.setSession index session,
            .announcing (.upsert session.info) .done)
  | .writingTo index attachId bytes rpcSessionId =>
      let (session, result) :=
        session.writeInput attachId bytes rpcSessionId answers.written
      some (manager.setSession index session, .finished result)
  | .closingOf terminalSessionId index =>
      some (manager.setSession index session.close,
        .announcing (.remove terminalSessionId) .done)
  | .recordingTo terminalSessionId index bytes =>
      match session.recordOutput windows bytes answers.nowMs with
      | none => some (manager, done)
      | some (session, none) =>
          some (manager.setSession index session, .reading terminalSessionId)
      | some (session, some info) =>
          some (manager.setSession index session,
            .announcing (.upsert info) (.reading terminalSessionId))
  | .markingOf index status =>
      match session.markExited status answers.nowMs with
      | none => some (manager, done)
      | some session =>
          some (manager.setSession index session,
            .announcing (.upsert session.info) .done)
  | _ => none

/-- The session whose lock a task takes next. -/
def lockOf : TerminalTask → Option Nat
  | .attachingTo _ _ index _ | .detachingFrom _ index
  | .controllingOf _ _ index | .writingTo index _ _ _ | .closingOf _ index
  | .recordingTo _ index _ | .markingOf index _ => some index
  | _ => none

/-- One step of a task that takes no lock of a session. -/
def unlocked (manager : TerminalManager) (answers : TerminalAnswers) :
    TerminalTask → Option (TerminalManager × TerminalTask)
  | .creating request creatorClientId =>
      some ({ manager with nextSessionId := manager.nextSessionId + 1 },
        .inserting request ("terminal-" ++ toString manager.nextSessionId)
          creatorClientId (request.cwd.or answers.currentDir) answers.nowMs)
  | .inserting request terminalSessionId creatorClientId initialCwd
      createdAtMs =>
      let session := TerminalSession.create request terminalSessionId
        creatorClientId initialCwd createdAtMs
      some (manager.insertSession terminalSessionId session,
        .announcing (.upsert session.info) .done)
  | .announcing announcement followup =>
      some (manager.broadcast announcement.event, after followup)
  | .attaching request rpcSessionId =>
      some (manager, withSession manager request.terminalSessionId
        (failed .notFound) (.numbering request rpcSessionId))
  | .numbering request rpcSessionId index =>
      some ({ manager with nextAttachId := manager.nextAttachId + 1 },
        .attachingTo request rpcSessionId index
          ("attach-" ++ toString manager.nextAttachId))
  | .streaming stream =>
      match stream.pending with
      | event :: pending =>
          let stream := { stream with
            pending := pending
            delivered := stream.delivered ++ [event] }
          some (manager, .streaming stream)
      | [] =>
          if stream.attached.session.exit.isSome then
            some (manager, .detaching stream)
          else
            (manager.objects[stream.index]?.bind fun session =>
              receive terminalEventChannelCapacity session.outputTx
                stream.place).map fun (received, place) =>
                  let event := stream.eventOf received
                  let stream := { stream with
                    place := place
                    delivered := stream.delivered ++ [event] }
                  (manager,
                    if AttachStream.endsWith event then .detaching stream
                    else .streaming stream)
  | .detaching stream =>
      some (manager, withSession manager stream.attached.terminalSessionId
        (.detached stream) (.detachingFrom stream))
  | .controlling request rpcSessionId =>
      some (manager, withSession manager request.terminalSessionId
        (failed .notFound) (.controllingOf request rpcSessionId))
  | .writing terminalSessionId attachId bytes rpcSessionId =>
      some (manager, withSession manager terminalSessionId (failed .notFound)
        fun index => .writingTo index attachId bytes rpcSessionId)
  | .closing terminalSessionId =>
      match manager.getSession terminalSessionId with
      | none => some (manager, failed .notFound)
      | some index =>
          some (manager.removeSession terminalSessionId,
            .closingOf terminalSessionId index)
  -- The reader takes at most 8192 bytes at once, and ends without any.
  | .reading terminalSessionId =>
      if answers.output = [] then some (manager, done)
      else if answers.output.length ≤ 8192 then
        some (manager, .recording terminalSessionId answers.output)
      else none
  | .recording terminalSessionId bytes =>
      some (manager, withSession manager terminalSessionId done
        fun index => .recordingTo terminalSessionId index bytes)
  | .waiting terminalSessionId =>
      some (manager, .marking terminalSessionId answers.status)
  | .marking terminalSessionId status =>
      some (manager, withSession manager terminalSessionId done
        fun index => .markingOf index status)
  -- The rows of a snapshot are read one after the other.  That the table
  -- stays locked meanwhile is not used.
  | .opening =>
      some (manager, .collecting (manager.sessions.map Prod.snd) [] none [])
  | .collecting (index :: remaining) rows place delivered =>
      manager.objects[index]?.map fun session =>
        (manager,
          .collecting remaining (rows ++ [session.info]) place delivered)
  | .collecting [] rows none delivered =>
      some (manager, .subscribing (delivered ++ [.snapshot rows]))
  | .collecting [] rows (some place) delivered =>
      some (manager, .following place (delivered ++ [.snapshot rows]))
  | .subscribing delivered =>
      some (manager, .following manager.tableTx.length delivered)
  | .following place delivered =>
      (receive terminalTableChannelCapacity manager.tableTx place).map
        fun (received, next) =>
          (manager,
            match received with
            | .value event => .following next (delivered ++ [event])
            | .lagged _ =>
                .collecting (manager.sessions.map Prod.snd) [] (some next)
                  delivered)
  | _ => none

/-- A task that fails outside: a session is not created, a thread ends, and a
stream that cannot be written is detached, or ends. -/
def broken (error : String) : TerminalTask → Option TerminalTask
  | .creating _ _ => some (failed (.operationFailed error))
  | .reading _ => some done
  | .streaming stream => some (.detaching stream)
  | .opening | .collecting .. | .subscribing _ | .following .. => some done
  | _ => none

end TerminalTask

/-- One action of a task. -/
def advanceTerminal (windows : Bool) (manager : TerminalManager)
    (task : TerminalTask) :
    TerminalInput → Option (TerminalManager × TerminalTask)
  | .proceed answers =>
      match task.lockOf with
      | some index =>
          manager.objects[index]?.bind fun session =>
            task.locked windows manager session answers
      | none => task.unlocked manager answers
  | .fail error => (task.broken error).map fun after => (manager, after)

/-- The terminal manager, as a system of tasks. -/
def terminalSystem (windows : Bool) :
    TaskSystem TerminalManager TerminalTask TerminalRequest TerminalInput
      Empty where
  launch _ request := some (.start request)
  advance := advanceTerminal windows
  disturb _ cause := cause.elim

end Host
end WhatsGoingOn
