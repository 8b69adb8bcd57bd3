import Mathlib.Logic.Function.Basic
import WhatsGoingOn.Daemon.Services
import WhatsGoingOn.Host.TerminalMetadata

/-!
# Terminal sessions

A terminal session runs a program on a pseudo-terminal.  Its output is recorded
in numbered chunks, of which the last are retained, and told to the attach
streams of the session on a broadcast channel.  What is here of a session
happens under its lock.  Sequence numbers are natural numbers: the 64 bits that
count chunks do not run out.
-/

namespace WhatsGoingOn
namespace Host

open Daemon (ServiceError)

/-- `TERMINAL_OUTPUT_RETENTION_BYTES`. -/
def terminalOutputRetentionBytes : Nat := 1024 * 1024

/-- `TERMINAL_EVENT_CHANNEL_CAPACITY`. -/
def terminalEventChannelCapacity : Nat := 4096

/-- `TERMINAL_TABLE_CHANNEL_CAPACITY`. -/
def terminalTableChannelCapacity : Nat := 256

/-! ## Data -/

/-- The command that a session runs. -/
structure TerminalLaunchSpec where
  command : String
  args : List String
  deriving DecidableEq, Repr

/-- How the program of a session ended. -/
structure TerminalExit where
  code : Option Int
  signal : Option String
  exitedAtMs : Nat
  deriving DecidableEq, Repr

/-- What a session tells of itself: a row of the table. -/
structure TerminalSessionInfo where
  terminalSessionId : String
  creatorClientId : String
  createdAtMs : Nat
  lastAttachedAtMs : Option Nat
  lastDetachedAtMs : Option Nat
  lastOutputAtMs : Option Nat
  cols : Nat
  rows : Nat
  primaryAttachId : Option String
  latestOutputSeq : Nat
  lastKnownTitle : Option String
  exit : Option TerminalExit
  lastKnownCwd : Option String
  launch : TerminalLaunchSpec
  deriving DecidableEq, Repr

/-- Why a stream of a session is closed. -/
inductive TerminalSessionCloseReason where
  | closedByClient
  deriving DecidableEq, Repr

/-- What the stream of an attach sends. -/
inductive TerminalEvent where
  | attached (attachId : String) (primaryAttachId : Option String)
      (session : TerminalSessionInfo)
  | outputChunk (seq : Nat) (bytes : List UInt8)
  | historyGap (nextSeq : Nat)
  | controlChanged (primaryAttachId : String)
  | pseudoTerminalResized (cols rows : Nat)
  | sessionExited (exit : TerminalExit)
  | sessionClosed (reason : TerminalSessionCloseReason)
  | workingDirectoryChanged (cwd : String)
  | titleChanged (title : String)
  deriving DecidableEq, Repr

/-- Sessions are told apart by their ids. -/
structure TerminalSessionKey where
  terminalSessionId : String
  deriving DecidableEq, Repr

/-- What the stream of the table sends. -/
inductive TerminalSessionsTableEvent where
  | snapshot (rows : List TerminalSessionInfo)
  | patch (removes : List TerminalSessionKey)
      (upserts : List TerminalSessionInfo)
  deriving DecidableEq, Repr

/-- What a client asks with for a new session. -/
structure CreateTerminalSessionReq where
  cols : Nat
  rows : Nat
  cwd : Option String
  launch : TerminalLaunchSpec
  title : Option String
  deriving DecidableEq, Repr

/-- What a client asks with to attach to a session. -/
structure AttachTerminalSessionReq where
  terminalSessionId : String
  afterSeq : Option Nat
  viewportCols : Nat
  viewportRows : Nat
  deriving DecidableEq, Repr

/-- What a client asks with to take control of a session. -/
structure TakeTerminalControlReq where
  terminalSessionId : String
  attachId : String
  viewportCols : Nat
  viewportRows : Nat
  deriving DecidableEq, Repr

/-- A piece of output with its number. -/
structure OutputRecord where
  seq : Nat
  bytes : List UInt8
  deriving DecidableEq, Repr

/-! ## A session under its lock -/

/-- `TerminalSession`.  Of the pseudo-terminal it has the size that was last
applied and the input that was written; of the channel all that was sent. -/
structure TerminalSession where
  info : TerminalSessionInfo
  size : Nat × Nat
  input : List UInt8
  childKiller : Bool
  outputTx : List TerminalEvent
  outputBuffer : List OutputRecord
  retainedOutputBytes : Nat
  metadataParser : TerminalMetadataParser
  attachOwners : String → Option Nat
  closed : Bool

/-- What an attach gives to its stream; the receiver is its place in the
channel. -/
structure AttachedTerminal where
  terminalSessionId : String
  attachId : String
  primaryAttachId : Option String
  session : TerminalSessionInfo
  replay : List TerminalEvent
  receiver : Nat
  deriving DecidableEq, Repr

/-- How writing to a pseudo-terminal ends: an error leaves some of the bytes
written. -/
inductive PtyWrite where
  | complete
  | failed (written : Nat) (error : String)
  deriving DecidableEq, Repr

/-- Neither side is zero or beyond sixteen bits. -/
def validateSize (cols rows : Nat) : Except ServiceError Unit :=
  if cols = 0 ∨ rows = 0 ∨ 65535 < cols ∨ 65535 < rows then
    .error (.operationFailed "terminal size is invalid")
  else .ok ()

namespace TerminalSession

/-- A session as it is created, with the pseudo-terminal of its size. -/
def create (request : CreateTerminalSessionReq)
    (terminalSessionId creatorClientId : String) (initialCwd : Option String)
    (nowMs : Nat) : TerminalSession where
  info :=
    { terminalSessionId := terminalSessionId
      creatorClientId := creatorClientId
      createdAtMs := nowMs
      lastAttachedAtMs := none
      lastDetachedAtMs := none
      lastOutputAtMs := none
      cols := request.cols
      rows := request.rows
      primaryAttachId := none
      latestOutputSeq := 0
      lastKnownTitle := request.title
      exit := none
      lastKnownCwd := initialCwd
      launch := request.launch }
  size := (request.cols, request.rows)
  input := []
  childKiller := true
  outputTx := []
  outputBuffer := []
  retainedOutputBytes := 0
  metadataParser := .new
  attachOwners := fun _ => none
  closed := false

/-- Send an event to the attach streams. -/
def send (session : TerminalSession) (event : TerminalEvent) :
    TerminalSession :=
  { session with outputTx := session.outputTx ++ [event] }

/-- The attach is the caller's own. -/
def validateAttachOwner (session : TerminalSession) (attachId : String)
    (rpcSessionId : Nat) : Except ServiceError Unit :=
  match session.attachOwners attachId with
  | some owner =>
      if owner = rpcSessionId then .ok () else .error .permissionDenied
  | none => .error (.operationFailed "attach not found")

/-- The event of a retained chunk. -/
def chunkEvent (record : OutputRecord) : TerminalEvent :=
  .outputChunk record.seq record.bytes

/-- The retained output after some sequence number, and what is missing before
it. -/
def replayEvents (session : TerminalSession) (afterSeq : Option Nat) :
    List TerminalEvent :=
  match session.outputBuffer with
  | [] => []
  | firstRecord :: _ =>
      let minRequestedSeq := (afterSeq.map (· + 1)).getD firstRecord.seq
      (if minRequestedSeq < firstRecord.seq then
          [.historyGap firstRecord.seq]
        else []) ++
        (session.outputBuffer.filter fun record =>
          (afterSeq.map fun seq => decide (seq < record.seq)).getD true).map
          chunkEvent

/-- The session with one more attach, and what the attach is given. -/
def attach (session : TerminalSession) (request : AttachTerminalSessionReq)
    (attachId : String) (rpcSessionId nowMs : Nat) :
    Except ServiceError (TerminalSession × AttachedTerminal) :=
  if session.closed then .error .notFound
  else
    let info := { session.info with lastAttachedAtMs := some nowMs }
    .ok
      ({ session with
          info := info
          attachOwners :=
            Function.update session.attachOwners attachId (some rpcSessionId) },
        { terminalSessionId := request.terminalSessionId
          attachId := attachId
          primaryAttachId := info.primaryAttachId
          session := info
          replay := session.replayEvents request.afterSeq
          receiver := session.outputTx.length })

/-- The session without the attach. -/
def detach (session : TerminalSession) (attachId : String) (nowMs : Nat) :
    TerminalSession :=
  { session with
    info := { session.info with lastDetachedAtMs := some nowMs }
    attachOwners := Function.update session.attachOwners attachId none }

/-- `take_control`.  The pseudo-terminal may refuse its new size with an
error; what was set before that stays set. -/
def takeControl (session : TerminalSession) (request : TakeTerminalControlReq)
    (rpcSessionId : Nat) (resizeError : Option String) :
    TerminalSession × Except ServiceError Unit :=
  match session.validateAttachOwner request.attachId rpcSessionId with
  | .error error => (session, .error error)
  | .ok () =>
      let previousPrimary := session.info.primaryAttachId
      let previousSize := (session.info.cols, session.info.rows)
      let size := (request.viewportCols, request.viewportRows)
      let updated := { session with
        info := { session.info with
          primaryAttachId := some request.attachId
          cols := request.viewportCols
          rows := request.viewportRows } }
      match resizeError with
      | some error => (updated, .error (.operationFailed error))
      | none =>
          let resized := { updated with size := size }
          let controlled :=
            if previousPrimary ≠ some request.attachId then
              resized.send (.controlChanged request.attachId)
            else resized
          let notified :=
            if previousSize ≠ size then
              controlled.send (.pseudoTerminalResized request.viewportCols
                request.viewportRows)
            else controlled
          (notified, .ok ())

/-- Input is written for the attach in control only; what the pty answers is
given. -/
def writeInput (session : TerminalSession) (attachId : String)
    (bytes : List UInt8) (rpcSessionId : Nat) (result : PtyWrite) :
    TerminalSession × Except ServiceError Unit :=
  match session.validateAttachOwner attachId rpcSessionId with
  | .error error => (session, .error error)
  | .ok () =>
      if session.info.primaryAttachId ≠ some attachId then
        (session,
          .error (.operationFailed "attach is not the live primary attach"))
      else
        match result with
        | .complete =>
            ({ session with input := session.input ++ bytes }, .ok ())
        | .failed written error =>
            ({ session with input := session.input ++ bytes.take written },
              .error (.operationFailed error))

/-- The part of `close_session` under the lock of the session. -/
def close (session : TerminalSession) : TerminalSession :=
  { session with closed := true, childKiller := false }.send
    (.sessionClosed .closedByClient)

/-- What some metadata makes of the record of a session, and whether that
changes anything. -/
def learn (info : TerminalSessionInfo) :
    TerminalMetadata → TerminalSessionInfo × Bool
  | .title title =>
      if info.lastKnownTitle ≠ some title then
        ({ info with lastKnownTitle := some title }, true)
      else (info, false)
  | .cwd cwd =>
      if info.lastKnownCwd ≠ some cwd then
        ({ info with lastKnownCwd := some cwd }, true)
      else (info, false)

/-- What several pieces of metadata teach, and whether any was news. -/
def learnAll (info : TerminalSessionInfo)
    (metadata : List TerminalMetadata) : TerminalSessionInfo × Bool :=
  metadata.foldl
    (fun learned event =>
      let (info, changed) := learn learned.1 event
      (info, learned.2 || changed))
    (info, false)

/-- The event that tells the attaches of a piece of metadata. -/
def metadataEvent : TerminalMetadata → TerminalEvent
  | .title title => .titleChanged title
  | .cwd cwd => .workingDirectoryChanged cwd

/-- Drop the oldest chunks until few enough bytes are retained. -/
def evict : List OutputRecord → Nat → List OutputRecord × Nat
  | [], retained => ([], retained)
  | record :: records, retained =>
      if terminalOutputRetentionBytes < retained then
        evict records (retained - record.bytes.length)
      else (record :: records, retained)

/-- `record_output`: nothing of a closed session or of no bytes; else the
session, and its record if metadata has changed it. -/
def recordOutput (windows : Bool) (session : TerminalSession)
    (bytes : List UInt8) (nowMs : Nat) :
    Option (TerminalSession × Option TerminalSessionInfo) :=
  if session.closed || bytes.isEmpty then none
  else
    let (metadataParser, metadata) :=
      session.metadataParser.push windows bytes
    let seq := session.info.latestOutputSeq + 1
    let (info, metadataChanged) :=
      learnAll { session.info with
        latestOutputSeq := seq
        lastOutputAtMs := some nowMs } metadata
    let (outputBuffer, retainedOutputBytes) :=
      evict (session.outputBuffer ++ [⟨seq, bytes⟩])
        (session.retainedOutputBytes + bytes.length)
    some
      ({ session with
          info := info
          metadataParser := metadataParser
          outputBuffer := outputBuffer
          retainedOutputBytes := retainedOutputBytes
          outputTx := session.outputTx ++
            .outputChunk seq bytes :: metadata.map metadataEvent },
        if metadataChanged then some info else none)

/-- `mark_exited`, for the status of the program if it is known. -/
def markExited (session : TerminalSession)
    (status : Option (Nat × Option String)) (nowMs : Nat) :
    Option TerminalSession :=
  if session.closed || session.info.exit.isSome then none
  else
    let exit : TerminalExit :=
      { code := status.map fun status => Int.ofNat status.1
        signal := status.bind fun status => status.2
        exitedAtMs := nowMs }
    some ({ session with
      childKiller := false
      info := { session.info with exit := some exit } }.send
        (.sessionExited exit))

end TerminalSession

end Host
end WhatsGoingOn
