import Mathlib.Logic.Function.Basic
import WhatsGoingOn.Daemon.Pairing
import WhatsGoingOn.Host.Replies
import WhatsGoingOn.Library.Tasks
import WhatsGoingOn.Library.Text

/-!
# Pairing and the client credentials

A peer starts a pairing on an rpc session; someone at the machine confirms it,
is shown a code, and the peer completes the pairing with that code on the same
session.  The daemon keeps one active challenge, and one current attempt for
each client id.  A completed pairing, like a renewal, then loads the client
credentials from their file, changes them, and stores them again.  Each step
of a task here is one access to what the tasks share, or one answer from
outside: the clock, the person at the machine, or the random generator.
-/

namespace WhatsGoingOn
namespace Host

open Bytes Daemon Text

/-! ## Requests -/

/-- Two ASCII digits, or nothing. -/
def normalizeConfirmationCode (raw : String) : Option String :=
  let code := trim raw
  if (utf8 code).length = 2 ∧
      (utf8 code).all (fun byte => decide (48 ≤ byte ∧ byte ≤ 57)) = true then
    some code
  else none

/-- The label without blanks at its ends, or a word in its place. -/
def pairingClientLabel (raw : String) : String :=
  let label := trim raw
  if label.isEmpty then "browser" else label

/-- The client id without blanks at its ends, if anything is left. -/
def normalizePairingClientId (raw : Option String) : Option String :=
  (raw.map trim).filter fun clientId => !clientId.isEmpty

/-- Which attempts supersede each other. -/
inductive PairingAttemptKey where
  | clientId (id : String)
  | anonymous
  deriving DecidableEq, Repr

/-- Clients without an id share one key. -/
def pairingAttemptKey : Option String → PairingAttemptKey
  | some clientId => .clientId clientId
  | none => .anonymous

/-- What a client asks with to start a pairing. -/
structure StartPairingRequest where
  confirmationCode : String
  clientLabel : String
  clientId : Option String
  deriving DecidableEq, Repr

/-- A pairing as its request asks for it, on the rpc session of the request. -/
structure PairingStart where
  session : Nat
  confirmationCode : String
  clientLabel : String
  clientId : Option String
  deriving DecidableEq, Repr

namespace PairingStart

/-- The key that the attempt is known by. -/
def attemptKey (start : PairingStart) : PairingAttemptKey :=
  pairingAttemptKey start.clientId

end PairingStart

/-- A pairing that has been given a number. -/
structure PairingAttempt where
  start : PairingStart
  attemptId : Nat
  deriving DecidableEq, Repr

/-! ## The state of pairing -/

/-- The challenge that waits for its code, and the attempt it is of. -/
structure ActivePairingChallenge where
  attemptId : Nat
  attemptKey : PairingAttemptKey
  ownerSessionId : Nat
  record : PairingRecord
  clientLabel : String
  clientId : Option String
  deriving DecidableEq, Repr

/-- `PairingState`; the hash map of the current attempts is a function. -/
structure PairingState where
  nextAttemptId : Nat
  currentAttempts : PairingAttemptKey → Option Nat
  activeChallenge : Option ActivePairingChallenge

namespace PairingState

/-- No attempt has begun. -/
def initial : PairingState := ⟨0, fun _ => none, none⟩

/-- No attempt of the key is current. -/
def removeAttempt (state : PairingState) (key : PairingAttemptKey) :
    PairingState :=
  { state with
    currentAttempts := Function.update state.currentAttempts key none }

/-- Whether the active challenge is one of an attempt. -/
def activeFor (state : PairingState) (Of : ActivePairingChallenge → Bool) :
    Bool :=
  state.activeChallenge.any Of

/-- A new attempt takes the place of the one before it under the same key,
whose challenge goes with it. -/
def beginPairingAttempt (state : PairingState) (key : PairingAttemptKey) :
    PairingState × Nat :=
  let attemptId := state.nextAttemptId + 1
  ({ nextAttemptId := attemptId
     currentAttempts :=
      Function.update state.currentAttempts key (some attemptId)
     activeChallenge :=
      if state.activeFor (fun challenge => challenge.attemptKey = key) then
        none
      else state.activeChallenge },
    attemptId)

/-- The attempt is the one that is current under its key. -/
def isCurrentPairingAttempt
    (state : PairingState) (attempt : PairingAttempt) : Bool :=
  state.currentAttempts attempt.start.attemptKey == some attempt.attemptId

/-- The local confirmation was rejected. -/
def rejectAttempt (state : PairingState) (attempt : PairingAttempt) :
    PairingState :=
  if state.isCurrentPairingAttempt attempt then
    state.removeAttempt attempt.start.attemptKey
  else state

/-- The challenge of a confirmed attempt. -/
def challengeOf (attempt : PairingAttempt) (record : PairingRecord) :
    ActivePairingChallenge :=
  { attemptId := attempt.attemptId
    attemptKey := attempt.start.attemptKey
    ownerSessionId := attempt.start.session
    record := record
    clientLabel := attempt.start.clientLabel
    clientId := attempt.start.clientId }

/-- The code could not be shown. -/
def withdrawChallenge (state : PairingState) (attempt : PairingAttempt) :
    PairingState :=
  if state.activeFor (fun challenge =>
      challenge.attemptKey = attempt.start.attemptKey ∧
        challenge.attemptId = attempt.attemptId) then
    { state with activeChallenge := none }.removeAttempt
      attempt.start.attemptKey
  else state

/-- Give up the active challenge and its attempt. -/
def clearChallenge (state : PairingState)
    (challenge : ActivePairingChallenge) : PairingState :=
  { state with activeChallenge := none }.removeAttempt challenge.attemptKey

/-- The part of `complete_pairing` under the lock: refuse the code, or take
the challenge. -/
def completePairing
    (sha256Base64url : List UInt8 → String)
    (state : PairingState) (session : Nat) (code : String) (nowUnix : Int) :
    PairingState × (ReqResMessage ⊕ ActivePairingChallenge) :=
  let procId := ProcId.completePairing.asU64
  match state.activeChallenge with
  | none =>
      (state, .inl (errorMessage procId "pairing_not_started"
        "create a local pairing code before completing pairing"))
  | some pairing =>
      if pairing.ownerSessionId ≠ session then
        (state, .inl (errorMessage procId "pairing_not_started"
          "start pairing on this session before completing pairing"))
      else if pairing.record.expiresAtUnix ≤ nowUnix then
        (state.clearChallenge pairing,
          .inl (errorMessage procId "pairing_expired" "pairing code expired"))
      else if !verifyPairingCode sha256Base64url pairing.record (trim code)
          nowUnix then
        (state, .inl (errorMessage procId "invalid_pairing_code"
          "pairing code is invalid"))
      else (state.clearChallenge pairing, .inr pairing)

end PairingState

/-! ## Changes of the client credentials -/

/-- What a request answers. -/
inductive UnaryRpcOutcome where
  | startPairing (pairingCodeExpiresAtUnix : Int)
  | completePairing (clientId clientSecret : String)
      (clientCredentialExpiresAtUnix : Int)
  | renewClientCredential (clientCredentialExpiresAtUnix : Int)
  | message (reply : ReqResMessage)
  deriving DecidableEq, Repr

/-- The requests that change the credentials: a completion, with the challenge
that it took, and a renewal by an authenticated client. -/
inductive CredentialRequest where
  | complete (challenge : ActivePairingChallenge)
  | renew (clientId : String)
  deriving DecidableEq, Repr

/-- What is drawn at random for a new credential. -/
structure DrawnCredential where
  clientId : String
  clientSecret : String
  deriving DecidableEq, Repr

namespace CredentialRequest

/-- The credential that a completion issues, over the loaded table. -/
def issue
    (sha256Base64url : List UInt8 → String)
    (challenge : ActivePairingChallenge) (nowUnix : Int)
    (drawn : DrawnCredential) (loaded : ClientCredentials) :
    IssuedClientSecret :=
  let existingRecord := challenge.clientId.bind fun clientId =>
    loaded.clients.find? fun record => record.clientId == clientId
  match existingRecord with
  | some record =>
      reissueClientSecret sha256Base64url record drawn.clientSecret
        challenge.clientLabel nowUnix
  | none =>
      issueClientSecret sha256Base64url drawn.clientId drawn.clientSecret
        challenge.clientLabel nowUnix

/-- `retain` and `push` of `complete_pairing`. -/
def replaceRecord
    (record : ClientCredentialRecord) (credentials : ClientCredentials) :
    ClientCredentials :=
  ⟨credentials.clients.filter (fun other =>
    other.clientId != record.clientId) ++ [record]⟩

/-- Renew the first record of a client. -/
def renewFirst (clientId : String) (nowUnix : Int) :
    List ClientCredentialRecord → List ClientCredentialRecord
  | [] => []
  | record :: records =>
      if record.clientId == clientId then
        renewClientCredential record nowUnix :: records
      else record :: renewFirst clientId nowUnix records

/-- What a request makes of the loaded table: the table to store and the
answer, or only an answer. -/
def perform
    (sha256Base64url : List UInt8 → String)
    (request : CredentialRequest) (nowUnix : Int)
    (drawn : DrawnCredential) (loaded : ClientCredentials) :
    ClientCredentials × UnaryRpcOutcome ⊕ UnaryRpcOutcome :=
  match request with
  | .complete challenge =>
      let issued := issue sha256Base64url challenge nowUnix drawn loaded
      .inl (replaceRecord issued.record loaded,
        .completePairing issued.clientId issued.clientSecret
          issued.record.expiresAtUnix)
  | .renew clientId =>
      match loaded.clients.find? (fun record => record.clientId == clientId)
        with
      | none =>
          .inr (.message
            (unauthorizedMessage ProcId.renewClientCredential.asU64))
      | some _ =>
          .inl (⟨renewFirst clientId nowUnix loaded.clients⟩,
            .renewClientCredential (clientCredentialExpiresAt nowUnix))

end CredentialRequest

/-! ## Tasks -/

/-- What the tasks share: the state of pairing, the credential file, the
credentials in memory, and the watch channel that tells subscribers of the
client table, with its value and its receivers. -/
structure PairingHost where
  pairing : PairingState
  file : ClientCredentials
  memory : ClientCredentials
  published : ClientCredentials
  receivers : Nat

/-- How far the task of a request is. -/
inductive PairingTask where
  | beginning (start : PairingStart)
  | confirming (attempt : PairingAttempt)
  | rejected (attempt : PairingAttempt)
  | confirmed (attempt : PairingAttempt)
  | creating (attempt : PairingAttempt)
  | notifying (attempt : PairingAttempt) (expiresAtUnix : Int)
  | unnotified (attempt : PairingAttempt)
  | completing (session : Nat) (code : String)
  | checking (session : Nat) (code : String) (nowUnix : Int)
  | renewing (clientId : String)
  | load (request : CredentialRequest) (nowUnix : Int)
  | remember (request : CredentialRequest) (nowUnix : Int)
      (loaded : ClientCredentials)
  | save (request : CredentialRequest) (nowUnix : Int)
      (loaded : ClientCredentials)
  | install (outcome : UnaryRpcOutcome) (stored : ClientCredentials)
  | publish (outcome : UnaryRpcOutcome) (stored : ClientCredentials)
  | finished (outcome : Option UnaryRpcOutcome)
  deriving DecidableEq, Repr

/-- A request that reaches its handler.  A renewal comes with the client that
its session has authenticated. -/
inductive PairingRequest where
  | startPairing (session : Nat) (request : StartPairingRequest)
  | completePairing (session : Nat) (code : String)
  | renewClientCredential (authenticatedClientId : Option String)

/-- What a task may learn from outside: the time, the number and the
credential drawn, and whether the person at the machine confirmed the pairing
and was shown the code. -/
structure Answers where
  nowUnix : Int
  drawnCode : Nat
  drawn : DrawnCredential
  confirmed : Bool
  notified : Bool
  deriving DecidableEq, Repr

/-- A task goes on, or a file that it reads or writes fails. -/
inductive PairingInput where
  | proceed (answers : Answers)
  | fail
  deriving DecidableEq, Repr

/-- What else happens: subscriptions of the client table open and end, and
rpc sessions close. -/
inductive PairingCause where
  | subscriptions (receivers : Nat)
  | closeSession (session : Nat)
  deriving DecidableEq, Repr

/-- The answer when the attempt cannot be begun. -/
def failedToStart : UnaryRpcOutcome :=
  .message (errorMessage ProcId.startPairing.asU64 "failed"
    "daemon failed to start pairing")

/-- The answer when the dialog fails. -/
def failedToConfirm : UnaryRpcOutcome :=
  .message (errorMessage ProcId.startPairing.asU64 "failed"
    "daemon failed to confirm pairing")

/-- The answer to an attempt that another has replaced. -/
def superseded : UnaryRpcOutcome :=
  .message (errorMessage ProcId.startPairing.asU64 "failed"
    "pairing request was superseded")

/-- The start of a request, before it touches what is shared.  Without a
notifier the daemon cannot ask for confirmation. -/
def startRequest (pairingNotifier : Bool) : PairingRequest → PairingTask
  | .startPairing session request =>
      match normalizeConfirmationCode request.confirmationCode with
      | none =>
          .finished (some (.message (genericErrorMessage
            ProcId.startPairing.asU64 .malformedPayload
            "StartPairing confirmationCode must be two ASCII digits")))
      | some confirmationCode =>
          if !pairingNotifier then .finished (some failedToStart)
          else
            .beginning {
              session := session
              confirmationCode := confirmationCode
              clientLabel := pairingClientLabel request.clientLabel
              clientId := normalizePairingClientId request.clientId }
  | .completePairing session code => .completing session code
  | .renewClientCredential none =>
      .finished (some (.message
        (unauthorizedMessage ProcId.renewClientCredential.asU64)))
  | .renewClientCredential (some clientId) => .renewing clientId

namespace PairingTask

/-- One step of a task that does not fail. -/
def proceed
    (sha256Base64url : List UInt8 → String)
    (shared : PairingHost) (task : PairingTask) (answers : Answers) :
    Option (PairingHost × PairingTask) :=
  match task with
  | .beginning start =>
      let (pairing, attemptId) :=
        shared.pairing.beginPairingAttempt start.attemptKey
      some ({ shared with pairing := pairing }, .confirming ⟨start, attemptId⟩)
  | .confirming attempt =>
      some (shared,
        if answers.confirmed then .confirmed attempt else .rejected attempt)
  | .rejected attempt =>
      some ({ shared with pairing := shared.pairing.rejectAttempt attempt },
        .finished (some failedToConfirm))
  | .confirmed attempt =>
      some (shared,
        if shared.pairing.isCurrentPairingAttempt attempt then
          .creating attempt
        else .finished (some superseded))
  | .creating attempt =>
      if shared.pairing.isCurrentPairingAttempt attempt then
        let record := (createPairingCode sha256Base64url answers.drawnCode
          answers.nowUnix).record
        some
          ({ shared with
              pairing := { shared.pairing with
                activeChallenge :=
                  some (PairingState.challengeOf attempt record) } },
            .notifying attempt record.expiresAtUnix)
      else some (shared, .finished (some superseded))
  | .notifying attempt expiresAtUnix =>
      some (shared,
        if answers.notified then
          .finished (some (.startPairing expiresAtUnix))
        else .unnotified attempt)
  | .unnotified attempt =>
      some
        ({ shared with pairing := shared.pairing.withdrawChallenge attempt },
          .finished (some failedToStart))
  | .completing session code =>
      some (shared, .checking session code answers.nowUnix)
  | .checking session code nowUnix =>
      match shared.pairing.completePairing sha256Base64url session code nowUnix
        with
      | (pairing, .inl reply) =>
          some ({ shared with pairing := pairing },
            .finished (some (.message reply)))
      | (pairing, .inr challenge) =>
          some ({ shared with pairing := pairing },
            .load (.complete challenge) nowUnix)
  | .renewing clientId =>
      some (shared, .load (.renew clientId) answers.nowUnix)
  -- `load_runtime_client_credentials`: the file, then the copy in memory.
  | .load request nowUnix =>
      some (shared, .remember request nowUnix shared.file)
  | .remember request nowUnix loaded =>
      some ({ shared with memory := loaded }, .save request nowUnix loaded)
  -- `store_runtime_client_credentials`: the file, the copy in memory, and
  -- the channel, which drops what is sent without receivers.
  | .save request nowUnix loaded =>
      match request.perform sha256Base64url nowUnix answers.drawn loaded with
      | .inl (stored, outcome) =>
          some ({ shared with file := stored }, .install outcome stored)
      | .inr outcome => some (shared, .finished (some outcome))
  | .install outcome stored =>
      some ({ shared with memory := stored }, .publish outcome stored)
  | .publish outcome stored =>
      some
        ({ shared with
            published :=
              if shared.receivers = 0 then shared.published else stored },
          .finished (some outcome))
  | .finished _ => none

/-- Where a file can fail: the configuration of the daemon is read before the
confirmation, and the credential file is read and written. -/
def canFail : PairingTask → Bool
  | .confirming _ | .load .. | .save .. => true
  | _ => false

end PairingTask

/-- One action of a task. -/
def advancePairing
    (sha256Base64url : List UInt8 → String)
    (shared : PairingHost) (task : PairingTask) :
    PairingInput → Option (PairingHost × PairingTask)
  | .proceed answers => task.proceed sha256Base64url shared answers
  | .fail => if task.canFail then some (shared, .finished none) else none

/-- Nothing of pairing depends on a session staying open. -/
def disturbPairing (shared : PairingHost) :
    PairingCause → Option PairingHost
  | .subscriptions receivers => some { shared with receivers := receivers }
  | .closeSession _ => some shared

/-- Pairing, as a system of tasks. -/
def pairingSystem
    (sha256Base64url : List UInt8 → String) (pairingNotifier : Bool) :
    TaskSystem PairingHost PairingTask PairingRequest PairingInput
      PairingCause where
  launch _ request := some (startRequest pairingNotifier request)
  advance := advancePairing sha256Base64url
  disturb := disturbPairing

/-- The daemon when it starts: it has read the credential file, and nobody
has subscribed yet. -/
def PairingHost.initial (credentials : ClientCredentials) : PairingHost :=
  ⟨.initial, credentials, credentials, credentials, 0⟩

end Host
end WhatsGoingOn
