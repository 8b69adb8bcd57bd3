import WhatsGoingOn.Host.SessionGate
import WhatsGoingOn.Web.Calls
import WhatsGoingOn.Web.RequestStreams

/-!
# Authentication of a session, by the client and the daemon

The client opens a stream with its credential and reads the answer.  Whatever
else goes on at the host, it learns that the session is authenticated only
where the host authenticated it as this client, and is refused only where the
host did not.  The host authenticates the session before it writes the answer:
where the answer does not arrive, the client cannot tell.
-/

namespace WhatsGoingOn
namespace Web

open Daemon (Value maxMessageSequenceSize pairedSecretAuthMechanism)
open Daemon.ReqResMessage (SmallFields)
open Host (HostEvent HostState HostTasks Platform ReqResMessageReader
  StreamFails StreamTask Verifies host pairedHost)
open Reader (Reads Spells)

/-! ## The program -/

/-- What a client presents: its id and its secret. -/
structure PairedSecretCredential where
  credentialId : String
  credentialSecret : String
  deriving DecidableEq, Repr

/-- The id under 1 and the secret under 2. -/
def encodePairedSecretCredentialValue (credential : PairedSecretCredential) :
    CborValue :=
  .map [(1, .text credential.credentialId),
    (2, .text credential.credentialSecret)]

/-- The bytes of the credential. -/
def encodePairedSecretCredential (credential : PairedSecretCredential) :
    Except EncodeError (List UInt8) :=
  encodePart (encodePairedSecretCredentialValue credential)

/-- The request that `authenticateWebTransport` writes. -/
def authenticateRequest (clientId clientSecret : String) :
    Except EncodeError (List UInt8) := do
  let payload ← encodePairedSecretCredential ⟨clientId, clientSecret⟩
  encodeReqResMessageSequence
    [{ kind := .sessionAuthenticate,
       mechanism := some pairedSecretAuthMechanism, payload := some payload }]

/-- The name of a code, as the error that is thrown carries it. -/
def sessionAuthErrorCode : Option SessionAuthErrorCode → String
  | none => "SessionAuthError"
  | some .unsupportedMechanism => "unsupportedMechanism"
  | some .invalidCredentials => "invalidCredentials"
  | some .malformedPayload => "malformedPayload"
  | some .alreadyAuthenticated => "alreadyAuthenticated"

/-- What `authenticateWebTransport` throws. -/
inductive AuthenticateFailure where
  | sequence (failure : CallFailure Empty)
  /-- "expected one session authentication response" -/
  | notOneResponse
  /-- "expected session authentication response" -/
  | unexpectedKind
  /-- `RpcError` -/
  | rpcError (code message : String)
  deriving DecidableEq, Repr

/-- What `authenticateWebTransport` makes of the messages it reads. -/
def authenticateResponse :
    List ReqResMessage → Except AuthenticateFailure Unit
  | [response] =>
      if response.kind = .sessionAuthError then
        .error (.rpcError (sessionAuthErrorCode response.authErrorCode)
          (response.message.getD "Session authentication failed"))
      else if response.kind ≠ .sessionAuthenticated then
        .error .unexpectedKind
      else .ok ()
  | _ => .error .notOneResponse

/-- `authenticateWebTransport`, once the request is written: what it makes of
the chunks that `readAll` collects. -/
def authenticateResult (chunks : List (List UInt8)) :
    Except AuthenticateFailure Unit :=
  match decodeReqResMessageSequence chunks.flatten with
  | .error failure => .error (.sequence failure)
  | .ok messages => authenticateResponse messages

/-! ## The request -/

/-- The daemon decodes the credential that the client encodes. -/
theorem decode_encodePairedSecretCredential
    {credential : PairedSecretCredential} {payload : List UInt8}
    (encoded : encodePairedSecretCredential credential = .ok payload) :
    Daemon.PairedSecretCredential.decode payload =
      .ok ⟨credential.credentialId, credential.credentialSecret⟩ := by
  have encodes := (encodes_of_encodePart encoded).entry
  have fields : SmallFields maxSafeInteger
      [(1, .text credential.credentialId),
        (2, .text credential.credentialSecret)] :=
    .two (by decide) (by decide) (encodes _ (.head _)).text
      (encodes _ (.tail _ (.head _))).text
  have common := fields_common fields
  have written := encodePart_image common
  rw [image_fields fields] at written
  cases written.symm.trans encoded
  rw [Daemon.PairedSecretCredential.decode, common.valid.decode_encode]
  rfl

/-- The daemon reads the request of the client, and nothing after it. -/
theorem reads_authenticateRequest {clientId clientSecret : String}
    {request : List UInt8}
    (encoded : authenticateRequest clientId clientSecret = .ok request)
    (small : request.length ≤ maxMessageSequenceSize)
    {chunks : List (List UInt8)} (carried : chunks.flatten = request)
    (nonempty : ∀ chunk ∈ chunks, chunk ≠ []) :
    ∃ payload reader after,
      (ReqResMessageReader.new chunks).next = .ok (some
        (.sessionAuthenticate pairedSecretAuthMechanism payload), reader) ∧
      reader.next = .ok (none, after) ∧
      Daemon.PairedSecretCredential.decode payload =
        .ok ⟨clientId, clientSecret⟩ := by
  obtain ⟨payload, credential, encoded⟩ := Outcome.bind_eq_ok.mp encoded
  obtain ⟨written, each, runs⟩ :=
    runs_of_sequence encoded small carried nonempty
  cases each with
  | @cons _ pair _ _ first others =>
      cases others
      obtain ⟨piece, sent⟩ := pair
      have same := first.same
      cases sent with
      | sessionAuthenticate mechanism payload' =>
          cases same
          cases runs with
          | message read later =>
              cases later with
              | finished ends =>
                  exact ⟨payload, _, _, read, ends,
                    decode_encodePairedSecretCredential credential⟩
      | _ => cases same

/-! ## The task of the stream -/

section Task

variable {ρ ω : Type}

/-- In one step, the stream authenticates its session, with a credential that
it found to match a stored record before. -/
def Installs (platform : Platform ρ) (opened : HostTasks ρ ω)
    (stream session : Nat) (credential : Daemon.PairedSecretCredential)
    (history : List (HostEvent ω)) (state : HostTasks ρ ω)
    (event : HostEvent ω) (next : HostTasks ρ ω) : Prop :=
  ∃ nowUnix task after sessionState,
    event = .advance stream (.proceed nowUnix) ∧
      state.tasks[stream]? = some task ∧ next.tasks[stream]? = some after ∧
      after = task.moveTo .installed ∧
      next.shared.sessions[session]? = some sessionState ∧
      sessionState.authenticatedClientId = some credential.credentialId ∧
      Occurred (host platform).step opened
        (Verifies platform.sha256Base64url stream session credential) history

variable (platform : Platform ρ) (opened : HostTasks ρ ω)
  (stream session : Nat) (chunks : List (List UInt8)) (payload : List UInt8)
  (credential : Daemon.PairedSecretCredential)

/-- How far the task of the stream is. -/
def Underway (history : List (HostEvent ω)) (task : StreamTask ρ) : Prop :=
  match task.stage with
  | .first reader => reader = .new chunks
  | .control reader messages =>
      messages = [.sessionAuthenticate pairedSecretAuthMechanism payload] ∧
        ∃ after, reader.next = .ok (none, after)
  | .authenticate mechanism other =>
      mechanism = pairedSecretAuthMechanism ∧ other = payload
  | .verify other => other = credential
  | .install other =>
      other = credential ∧ Occurred (host platform).step opened
        (Verifies platform.sha256Base64url stream session credential) history
  | .installed | .finished => True
  | _ => False

/-- The first message of the task, once it is read. -/
def Asks (task : StreamTask ρ) : Prop :=
  (∃ reader, task.stage = .first reader) ∨ task.stage = .finished ∨
    task.request =
      some (.sessionAuthenticate pairedSecretAuthMechanism payload)

/-- What the client is told where its session is not authenticated. -/
inductive Refuses : Daemon.ReqResMessage → String → String → Prop where
  | already : Refuses
      (Host.sessionAuthErrorMessage .alreadyAuthenticated
        "session is already authenticated")
      "alreadyAuthenticated" "session is already authenticated"
  | invalid : Refuses
      (Host.sessionAuthErrorMessage .invalidCredentials
        "paired credential verification failed")
      "invalidCredentials" "paired credential verification failed"

/-- What the task has done, and what it has answered. -/
inductive Answered (history : List (HostEvent ω)) (task : StreamTask ρ) :
    Prop where
  | undecided (going : task.stage ≠ .finished)
      (notInstalled : task.stage ≠ .installed) (silent : task.sent = [])
      (none : ¬ Occurred (host platform).step opened
        (Installs platform opened stream session credential) history)
  | installed (stage : task.stage = .installed) (silent : task.sent = [])
      (occurred : Occurred (host platform).step opened
        (Installs platform opened stream session credential) history)
  | authenticated (finished : task.stage = .finished)
      (sent : task.sent = [.sessionAuthenticated])
      (occurred : Occurred (host platform).step opened
        (Installs platform opened stream session credential) history)
  | refused {message : Daemon.ReqResMessage} {code text : String}
      (refuses : Refuses message code text) (finished : task.stage = .finished)
      (sent : task.sent = [message])
      (none : ¬ Occurred (host platform).step opened
        (Installs platform opened stream session credential) history)
  | lost (finished : task.stage = .finished) (silent : task.sent = [])
      (failed : Occurred (host platform).step opened (StreamFails stream) history)

/-- What holds of the task throughout. -/
structure Follows (history : List (HostEvent ω)) (task : StreamTask ρ) :
    Prop where
  onSession : task.session = session
  underway : Underway platform opened stream session chunks payload credential
    history task
  asks : Asks payload task
  answered : Answered platform opened stream session credential history task

variable {platform opened stream session chunks payload credential}

section Step

variable {history : List (HostEvent ω)} {state next : HostTasks ρ ω}
  {event : HostEvent ω} {task after : StreamTask ρ}

/-- A step after which the answer is not to be written installs nothing. -/
theorem not_installs_concat
    (reached : run (host platform).step opened history = some state)
    (taken : (host platform).step state event = some next)
    (foundAfter : next.tasks[stream]? = some after)
    (other : after.stage ≠ .installed)
    (before : ¬ Occurred (host platform).step opened
      (Installs platform opened stream session credential) history) :
    ¬ Occurred (host platform).step opened
      (Installs platform opened stream session credential)
      (history ++ [event]) := by
  rw [Occurred.concat_iff reached taken]
  rintro (occurred | ⟨_, task, _, _, -, -, foundNext, moved, -⟩)
  · exact before occurred
  · cases foundAfter.symm.trans foundNext
    exact other (congrArg StreamTask.stage moved)

/-- Only the code of the task itself authenticates its session. -/
theorem installs_concat_iff
    (reached : run (host platform).step opened history = some state)
    (taken : (host platform).step state event = some next)
    (other : ∀ nowUnix, event ≠ .advance stream (.proceed nowUnix)) :
    Occurred (host platform).step opened
        (Installs platform opened stream session credential)
        (history ++ [event]) ↔
      Occurred (host platform).step opened
        (Installs platform opened stream session credential) history := by
  rw [Occurred.concat_iff reached taken]
  refine or_iff_left ?_
  rintro ⟨nowUnix, _, _, _, proceeds, -⟩
  exact other nowUnix proceeds

/-- Before the answer is to be written, nothing is written or installed. -/
theorem Answered.undecided_of
    (answered : Answered platform opened stream session credential history
      task)
    (unfinished : task.stage ≠ .finished) (untold : task.stage ≠ .installed) :
    task.sent = [] ∧ ¬ Occurred (host platform).step opened
      (Installs platform opened stream session credential) history := by
  cases answered with
  | undecided _ _ silent none => exact ⟨silent, none⟩
  | installed stage => exact absurd stage untold
  | authenticated finished => exact absurd finished unfinished
  | refused _ finished => exact absurd finished unfinished
  | lost finished => exact absurd finished unfinished

/-- A step that answers nothing yet. -/
theorem answered_moveTo
    (reached : run (host platform).step opened history = some state)
    (taken : (host platform).step state event = some next)
    (foundAfter : next.tasks[stream]? = some after)
    (unfinished : task.stage ≠ .finished) (untold : task.stage ≠ .installed)
    (going : after.stage ≠ .finished) (other : after.stage ≠ .installed)
    (same : after.sent = task.sent)
    (answered : Answered platform opened stream session credential history
      task) :
    Answered platform opened stream session credential (history ++ [event])
      after := by
  obtain ⟨silent, none⟩ := answered.undecided_of unfinished untold
  exact .undecided going other (same.trans silent)
    (not_installs_concat reached taken foundAfter other none)

/-- A step that answers with an error. -/
theorem answered_error {message : Daemon.ReqResMessage} {code text : String}
    (reached : run (host platform).step opened history = some state)
    (taken : (host platform).step state event = some next)
    (foundAfter : next.tasks[stream]? = some (task.reply message))
    (unfinished : task.stage ≠ .finished) (untold : task.stage ≠ .installed)
    (refuses : Refuses message code text)
    (answered : Answered platform opened stream session credential history
      task) :
    Answered platform opened stream session credential (history ++ [event])
      (task.reply message) := by
  obtain ⟨silent, none⟩ := answered.undecided_of unfinished untold
  refine .refused refuses rfl ?_ ?_
  · rw [StreamTask.reply, silent]
    rfl
  · exact not_installs_concat reached taken foundAfter (by rintro ⟨⟩) none

/-- The step that writes what the session was authenticated with. -/
theorem answered_told
    (stage : task.stage = .installed)
    (answered : Answered platform opened stream session credential history
      task) :
    Answered platform opened stream session credential (history ++ [event])
      (task.reply .sessionAuthenticated) := by
  have unfinished : task.stage ≠ .finished := by
    rw [stage]
    rintro ⟨⟩
  cases answered with
  | undecided _ untold => exact absurd stage untold
  | installed _ silent occurred =>
      refine .authenticated rfl ?_ (occurred.append _)
      rw [StreamTask.reply, silent]
      rfl
  | authenticated finished => exact absurd finished unfinished
  | refused _ finished => exact absurd finished unfinished
  | lost finished => exact absurd finished unfinished

/-- The transport of the stream fails, with or without an answer left to be
written. -/
theorem answered_fail
    (reached : run (host platform).step opened history = some state)
    (taken : (host platform).step state (.advance stream .fail) = some next)
    (answered : Answered platform opened stream session credential history
      task) :
    Answered platform opened stream session credential
      (history ++ [.advance stream .fail]) (task.moveTo .finished) := by
  have same := @installs_concat_iff _ _ platform opened stream session credential
    _ _ _ _ reached taken (by rintro _ ⟨⟩)
  have failed : Occurred (host platform).step opened (StreamFails stream)
      (history ++ [.advance stream .fail]) := .now reached taken rfl
  cases answered with
  | undecided _ _ silent => exact .lost rfl silent failed
  | installed _ silent => exact .lost rfl silent failed
  | authenticated _ sent occurred =>
      exact .authenticated rfl sent (same.mpr occurred)
  | refused refuses _ sent none =>
      exact .refused refuses rfl sent (fun occurred => none (same.mp occurred))
  | lost _ silent => exact .lost rfl silent failed

/-- What one step of the code of the task does. -/
inductive Proceeds (payload : List UInt8)
    (credential : Daemon.PairedSecretCredential) (session : Nat)
    (task : StreamTask ρ) (shared : HostState ω) (after : StreamTask ρ)
    (underway : Prop) : Prop where
  | moves (untold : task.stage ≠ .installed) (same : after.sent = task.sent)
      (kept : after.session = task.session)
      (going : after.stage ≠ .finished) (other : after.stage ≠ .installed)
      (asks : Asks payload after) (further : underway)
  | refuses {message : Daemon.ReqResMessage} {code text : String}
      (untold : task.stage ≠ .installed) (refusal : Refuses message code text)
      (replied : after = task.reply message)
  | installs (sessionState : Host.RpcSessionState)
      (stage : task.stage = .install credential)
      (moved : after = task.moveTo .installed)
      (stored : shared.sessions[session]? = some sessionState)
      (authenticated : sessionState.authenticatedClientId =
        some credential.credentialId)
  | tells (stage : task.stage = .installed)
      (replied : after = task.reply .sessionAuthenticated)

/-- The first message of a task that has read it and goes on. -/
theorem Asks.request
    (asks : Asks payload task) (unread : ∀ reader, task.stage ≠ .first reader)
    (going : task.stage ≠ .finished) :
    task.request =
      some (.sessionAuthenticate pairedSecretAuthMechanism payload) := by
  rcases asks with ⟨reader, stage⟩ | finished | asked
  · exact absurd stage (unread reader)
  · exact absurd finished going
  · exact asked

/-- A session that is authenticated refuses; any other reads the credential. -/
theorem proceeds_authenticate {shared : HostState ω}
    {sessionState : Host.RpcSessionState}
    (decoded : Daemon.PairedSecretCredential.decode payload = .ok credential)
    (stage : task.stage = .authenticate pairedSecretAuthMechanism payload)
    (asks : Asks payload task) :
    Proceeds payload credential session task shared
      (task.authenticateSessionControl sessionState pairedSecretAuthMechanism
        payload)
      (Underway platform opened stream session chunks payload credential history
        (task.authenticateSessionControl sessionState pairedSecretAuthMechanism
          payload)) := by
  unfold StreamTask.authenticateSessionControl
  split
  · exact .refuses (by simp [stage]) .already rfl
  · rw [if_neg (not_not.mpr rfl), decoded]
    exact .moves (by simp [stage]) rfl rfl (by rintro ⟨⟩) (by rintro ⟨⟩)
      (.inr (.inr (asks.request (by simp [stage]) (by simp [stage])))) rfl

/-- A credential that matches no record is refused, and one that does was
verified in this step. -/
theorem proceeds_verify {nowUnix : Int} {shared : HostState ω}
    (decoded : Daemon.PairedSecretCredential.decode payload = .ok credential)
    (reached : run (host platform).step opened history = some state)
    (taken : (host platform).step state (.advance stream (.proceed nowUnix)) =
      some next)
    (found : state.tasks[stream]? = some task)
    (onSession : task.session = session)
    (stage : task.stage = .verify credential) (asks : Asks payload task) :
    Proceeds payload credential session task shared
      (task.verifyCredential platform state.shared.clientCredentials credential
        nowUnix)
      (Underway platform opened stream session chunks payload credential
        (history ++ [.advance stream (.proceed nowUnix)])
        (task.verifyCredential platform state.shared.clientCredentials
          credential nowUnix)) := by
  have request := asks.request (by simp [stage]) (by simp [stage])
  unfold StreamTask.verifyCredential
  split
  · rename_i verified
    obtain ⟨record, member, matched⟩ :=
      Host.verifySessionCredentials_iff.mp verified
    refine .moves (by simp [stage]) rfl rfl (by rintro ⟨⟩) (by rintro ⟨⟩)
      (.inr (.inr request)) ⟨rfl, ?_⟩
    exact .now reached taken ⟨task, nowUnix, record, rfl, found, onSession,
      ⟨payload, request, decoded⟩, member, matched⟩
  · exact .refuses (by simp [stage]) .invalid rfl

/-- The stages of the task, one by one. -/
theorem proceeds {reader readerAfter : ReqResMessageReader}
    (first : (ReqResMessageReader.new chunks).next = .ok (some
      (.sessionAuthenticate pairedSecretAuthMechanism payload), reader))
    (second : reader.next = .ok (none, readerAfter))
    (decoded : Daemon.PairedSecretCredential.decode payload = .ok credential)
    {nowUnix : Int} {shared : HostState ω}
    (reached : run (host platform).step opened history = some state)
    (taken : (host platform).step state (.advance stream (.proceed nowUnix)) =
      some next)
    (found : state.tasks[stream]? = some task)
    (onSession : task.session = session)
    (underway : Underway platform opened stream session chunks payload
      credential history task)
    (asks : Asks payload task)
    (acted : Host.advanceStream platform state.shared task
      (.proceed nowUnix) = some (shared, after)) :
    task.stage ≠ .finished ∧
      Proceeds payload credential session task shared after
        (Underway platform opened stream session chunks payload credential
          (history ++ [.advance stream (.proceed nowUnix)]) after) := by
  cases stage : task.stage with
  | first begin =>
      refine ⟨(by rintro ⟨⟩), ?_⟩
      simp only [Underway, stage] at underway
      simp only [Host.advanceStream, stage] at acted
      cases acted
      rw [underway, StreamTask.readFirst, first]
      exact .moves (by simp [stage]) rfl rfl (by rintro ⟨⟩) (by rintro ⟨⟩)
        (.inr (.inr rfl)) ⟨rfl, _, second⟩
  | control begin messages =>
      refine ⟨(by rintro ⟨⟩), ?_⟩
      simp only [Underway, stage] at underway
      obtain ⟨rfl, ended, ends⟩ := underway
      simp only [Host.advanceStream, stage] at acted
      cases acted
      rw [StreamTask.readControl, ends]
      exact .moves (by simp [stage]) rfl rfl (by rintro ⟨⟩) (by rintro ⟨⟩)
        (.inr (.inr (asks.request (by simp [stage]) (by simp [stage]))))
        ⟨rfl, rfl⟩
  | authenticate mechanism other =>
      refine ⟨(by rintro ⟨⟩), ?_⟩
      simp only [Underway, stage] at underway
      obtain ⟨rfl, rfl⟩ := underway
      simp only [Host.advanceStream, stage] at acted
      obtain ⟨sessionState, -, same⟩ := Option.map_eq_some_iff.mp acted
      cases same
      exact proceeds_authenticate decoded stage asks
  | verify other =>
      refine ⟨(by rintro ⟨⟩), ?_⟩
      simp only [Underway, stage] at underway
      subst underway
      simp only [Host.advanceStream, stage] at acted
      cases acted
      exact proceeds_verify decoded reached taken found onSession stage asks
  | install other =>
      refine ⟨(by rintro ⟨⟩), ?_⟩
      simp only [Underway, stage] at underway
      obtain ⟨rfl, -⟩ := underway
      simp only [Host.advanceStream, stage] at acted
      obtain ⟨sessionState, stored, same⟩ := Option.map_eq_some_iff.mp acted
      cases same
      rw [onSession] at stored ⊢
      refine .installs { sessionState with
        authenticatedClientId := some other.credentialId } stage rfl ?_ rfl
      exact List.getElem?_set_self (List.getElem?_eq_some_iff.mp stored).1
  | installed =>
      refine ⟨(by rintro ⟨⟩), ?_⟩
      simp only [Host.advanceStream, stage] at acted
      cases acted
      exact .tells stage rfl
  | second dispatcher procId asked reader =>
      simp only [Underway, stage] at underway
  | dispatch dispatcher procId asked =>
      simp only [Underway, stage] at underway
  | running request => simp only [Underway, stage] at underway
  | finished =>
      simp only [Host.advanceStream, stage] at acted
      cases acted

/-- Each step of the task keeps it what it is. -/
theorem Follows.advance {reader readerAfter : ReqResMessageReader}
    (first : (ReqResMessageReader.new chunks).next = .ok (some
      (.sessionAuthenticate pairedSecretAuthMechanism payload), reader))
    (second : reader.next = .ok (none, readerAfter))
    (decoded : Daemon.PairedSecretCredential.decode payload = .ok credential)
    {input : Host.StreamInput ω} {shared : HostState ω}
    (reached : run (host platform).step opened history = some state)
    (found : state.tasks[stream]? = some task)
    (follows : Follows platform opened stream session chunks payload credential
      history task)
    (acted : Host.advanceStream platform state.shared task input =
      some (shared, after)) :
    Follows platform opened stream session chunks payload credential
      (history ++ [.advance stream input]) after := by
  obtain ⟨onSession, underway, asks, answered⟩ := follows
  have inside := (List.getElem?_eq_some_iff.mp found).1
  have taken : (host platform).step state (.advance stream input) =
      some ⟨shared, state.tasks.set stream after⟩ :=
    TaskSystem.step_advance_eq_some.mpr ⟨task, shared, after, found, acted, rfl⟩
  have foundAfter : (state.tasks.set stream after)[stream]? = some after :=
    List.getElem?_set_self inside
  cases input with
  | fail =>
      cases acted
      exact ⟨onSession, trivial, .inr (.inl rfl),
        answered_fail reached taken answered⟩
  | handle effect =>
      simp only [Host.advanceStream] at acted
      split at acted
      · rename_i stage
        simp only [Underway, stage] at underway
      · cases acted
  | proceed nowUnix =>
      obtain ⟨unfinished, steps⟩ := proceeds first second decoded reached taken
        found onSession underway asks acted
      cases steps with
      | moves untold same kept going other asks further =>
          exact ⟨kept.trans onSession, further, asks,
            answered_moveTo reached taken foundAfter unfinished untold going
              other same answered⟩
      | refuses untold refusal replied =>
          subst replied
          exact ⟨onSession, trivial, .inr (.inl rfl),
            answered_error reached taken foundAfter unfinished untold refusal
              answered⟩
      | installs sessionState stage moved stored authenticated =>
          subst moved
          simp only [Underway, stage] at underway
          have request : task.request = some (.sessionAuthenticate
              pairedSecretAuthMechanism payload) := by
            simpa [Asks, stage] using asks
          refine ⟨onSession, trivial, .inr (.inr request), ?_⟩
          have installed : Occurred (host platform).step opened
              (Installs platform opened stream session credential)
              (history ++ [.advance stream (.proceed nowUnix)]) :=
            .now reached taken ⟨nowUnix, task, _, sessionState, rfl, found,
              foundAfter, rfl, stored, authenticated, underway.2⟩
          obtain ⟨silent, -⟩ := answered.undecided_of unfinished
            (by simp [stage])
          exact .installed rfl silent installed
      | tells stage replied =>
          subst replied
          exact ⟨onSession, trivial, .inr (.inl rfl),
            answered_told stage answered⟩

/-- No step of another task takes anything from it. -/
theorem Follows.frame
    (reached : run (host platform).step opened history = some state)
    (taken : (host platform).step state event = some next)
    (other : ∀ input, event ≠ .advance stream input)
    (follows : Follows platform opened stream session chunks payload credential
      history task) :
    Follows platform opened stream session chunks payload credential
      (history ++ [event]) task := by
  obtain ⟨onSession, underway, asks, answered⟩ := follows
  have same := @installs_concat_iff _ _ platform opened stream session credential
    _ _ _ _ reached taken fun _ => other _
  refine ⟨onSession, ?_, asks, ?_⟩
  · cases stage : task.stage with
    | install credential =>
        simp only [Underway, stage] at underway ⊢
        exact ⟨underway.1, underway.2.append _⟩
    | _ =>
        simp only [Underway, stage] at underway ⊢
        try exact underway
  · cases answered with
    | undecided going untold silent none =>
        exact .undecided going untold silent (fun late => none (same.mp late))
    | installed stage silent occurred =>
        exact .installed stage silent (same.mpr occurred)
    | authenticated finished sent occurred =>
        exact .authenticated finished sent (same.mpr occurred)
    | refused refuses finished sent none =>
        exact .refused refuses finished sent
          (fun late => none (same.mp late))
    | lost finished silent failed =>
        exact .lost finished silent (failed.append _)

end Step

end Task

/-! ## The answer -/

section Answer

variable {ρ ω : Type}

/-- The client learnt nothing: no message arrived as a whole. -/
def Untold : Except AuthenticateFailure Unit → Prop
  | .error (.sequence _) | .error .notOneResponse => True
  | _ => False

/-- What the client makes of an answer of the daemon, and of a front part of
it. -/
theorem authenticateResult_of_message {message : Daemon.ReqResMessage}
    (within : message.Within maxSafeInteger) (unmarked : HasNoMark message) :
    ∃ bytes, Daemon.ReqResMessage.encodeSequence [message] = .ok bytes ∧
      (∀ replies : List (List UInt8), replies.flatten = bytes →
        authenticateResult replies = authenticateResponse [receive message]) ∧
      ∀ replies : List (List UInt8), replies.flatten <+: bytes →
        replies.flatten ≠ bytes → Untold (authenticateResult replies) := by
  obtain ⟨bytes, encoded, read⟩ := readMessage_encode within unmarked
  have spelled : Spells readMessage bytes (receive message) := read
  refine ⟨bytes, ?_, ?_, ?_⟩
  · rw [← List.append_nil bytes]
    exact Outcome.bind_eq_ok.mpr
      ⟨bytes, encoded, Outcome.bind_eq_ok.mpr ⟨[], rfl, rfl⟩⟩
  · rintro replies rfl
    have reads := spelled []
    rw [List.append_nil] at reads
    rw [authenticateResult,
      decodeReqResMessageSequence_of_reads (.next reads (.done []))]
  · rintro replies ⟨more, rfl⟩ strict
    have some : more ≠ [] := by
      rintro rfl
      exact strict (List.append_nil _).symm
    rw [authenticateResult]
    rcases decodeReqResMessageSequence_of_incomplete
        (spelled.strict stable_readMessage some) with
      ⟨-, nothing⟩ | failed | failed
    · rw [nothing]
      trivial
    · rw [failed]
      trivial
    · rw [failed]
      trivial

/-- What the client may make of an answer that is all it reads, by what the
host did. -/
inductive Concludes (platform : Platform ρ) (opened : HostTasks ρ ω)
    (stream session : Nat) (credential : Daemon.PairedSecretCredential)
    (late : List (HostEvent ω)) : Except AuthenticateFailure Unit → Prop where
  | authenticated (installed : Occurred (host platform).step opened
      (Installs platform opened stream session credential) late) :
      Concludes platform opened stream session credential late (.ok ())
  | refused {message : Daemon.ReqResMessage} {code text : String}
      (refuses : Refuses message code text)
      (none : ¬ Occurred (host platform).step opened
        (Installs platform opened stream session credential) late) :
      Concludes platform opened stream session credential late
        (.error (.rpcError code text))
  | lost (failed : Occurred (host platform).step opened (StreamFails stream) late) :
      Concludes platform opened stream session credential late
        (.error .notOneResponse)

/-- What the client and the host make of a request for authentication that is
decided, however the answer is split: the client concludes by what the host
did, and learns nothing where any byte of the answer is missing. -/
structure Decided (platform : Platform ρ) (opened : HostTasks ρ ω)
    (stream session : Nat) (credential : Daemon.PairedSecretCredential)
    (late : List (HostEvent ω)) (sent : List Daemon.ReqResMessage)
    (bytes : List UInt8) : Prop where
  encoded : Daemon.ReqResMessage.encodeSequence sent = .ok bytes
  whole : ∀ replies : List (List UInt8), replies.flatten = bytes →
    Concludes platform opened stream session credential late
      (authenticateResult replies)
  cut : ∀ replies : List (List UInt8), replies.flatten <+: bytes →
    replies.flatten ≠ bytes → Untold (authenticateResult replies)

/-- A refusal reaches the client with its code and its text. -/
theorem Refuses.received {message : Daemon.ReqResMessage} {code text : String}
    (refuses : Refuses message code text) :
    message.Within maxSafeInteger ∧ HasNoMark message ∧
      authenticateResponse [receive message] =
        .error (.rpcError code text) := by
  have tellable (code : Daemon.SessionAuthErrorCode) {text : String}
      (short : (Bytes.utf8 text).length ≤ maxSafeInteger)
      (unmarked : text.toList.head? ≠ some '\uFEFF') :
      (Host.sessionAuthErrorMessage code text).Within maxSafeInteger ∧
        HasNoMark (Host.sessionAuthErrorMessage code text) :=
    ⟨short, unmarked⟩
  cases refuses with
  | already =>
      obtain ⟨within, unmarked⟩ := tellable .alreadyAuthenticated
        (by decide : (Bytes.utf8 "session is already authenticated").length ≤
          maxSafeInteger) (by decide)
      exact ⟨within, unmarked, rfl⟩
  | invalid =>
      obtain ⟨within, unmarked⟩ := tellable .invalidCredentials
        (by decide : (Bytes.utf8 "paired credential verification failed").length
          ≤ maxSafeInteger) (by decide)
      exact ⟨within, unmarked, rfl⟩

/-- A task that has ended has decided what the client is told. -/
theorem Answered.decided {platform : Platform ρ} {opened : HostTasks ρ ω}
    {stream session : Nat} {credential : Daemon.PairedSecretCredential}
    {late : List (HostEvent ω)} {task : StreamTask ρ}
    (answered : Answered platform opened stream session credential late task)
    (finished : task.stage = .finished) :
    ∃ bytes, Decided platform opened stream session credential late task.sent
      bytes := by
  cases answered with
  | undecided going => exact absurd finished going
  | installed stage => simp [finished] at stage
  | authenticated _ sent occurred =>
      have within : Daemon.ReqResMessage.sessionAuthenticated.Within
          maxSafeInteger := trivial
      obtain ⟨bytes, encoded, whole, cut⟩ :=
        authenticateResult_of_message within trivial
      refine ⟨bytes, sent ▸ encoded, fun replies same => ?_, cut⟩
      rw [whole replies same]
      exact .authenticated occurred
  | refused refuses _ sent none =>
      obtain ⟨within, unmarked, response⟩ := refuses.received
      obtain ⟨bytes, encoded, whole, cut⟩ :=
        authenticateResult_of_message within unmarked
      refine ⟨bytes, sent ▸ encoded, fun replies same => ?_, cut⟩
      rw [whole replies same, response]
      exact .refused refuses none
  | lost _ silent failed =>
      refine ⟨[], silent ▸ rfl, fun replies same => ?_, ?_⟩
      · rw [authenticateResult, same]
        exact .lost failed
      · rintro replies front strict
        exact absurd (List.prefix_nil.mp front) strict

/-- Where a client asks for authentication on a stream of a session: what holds
of the stream, in every state that follows. -/
structure Agreement (platform : Platform ρ) (opened : HostTasks ρ ω)
    (stream session : Nat) (credential : Daemon.PairedSecretCredential)
    (late : List (HostEvent ω)) (task : StreamTask ρ) : Prop where
  onSession : task.session = session
  undecided : task.stage ≠ .finished → task.sent = [] ∧
    (Occurred (host platform).step opened
      (Installs platform opened stream session credential) late ↔
        task.stage = .installed)
  decided : task.stage = .finished →
    ∃ bytes, Decided platform opened stream session credential late task.sent
      bytes

/-- However the request and the answer are split, and whatever other streams,
handlers and sessions do meanwhile, the client and the host agree on whether
the client authenticated the session, unless the answer is lost. -/
theorem client_and_host_agree (platform : Platform ρ)
    {clientId clientSecret : String} {request : List UInt8}
    (encoded : authenticateRequest clientId clientSecret = .ok request)
    (small : request.length ≤ maxMessageSequenceSize)
    {session : Nat} {chunks : List (List UInt8)}
    (carried : chunks.flatten = request)
    (nonempty : ∀ chunk ∈ chunks, chunk ≠ [])
    {before opened state : HostTasks ρ ω} {late : List (HostEvent ω)}
    (accepted : (host platform).step before (.launch (session, chunks)) =
      some opened)
    (reached : run (host platform).step opened late = some state) :
    ∃ task, state.tasks[before.tasks.length]? = some task ∧
      Agreement platform opened before.tasks.length session
        ⟨clientId, clientSecret⟩ late task := by
  obtain ⟨payload, reader, readerAfter, first, second, decoded⟩ :=
    reads_authenticateRequest encoded small carried nonempty
  obtain ⟨started, launched, same⟩ :=
    TaskSystem.step_launch_eq_some.mp accepted
  have start : started =
      { session := session, request := none,
        stage := .first (ReqResMessageReader.new chunks), sent := [] } := by
    simp only [host, Host.acceptStream] at launched
    split at launched
    · exact (Option.some.inj launched).symm
    · cases launched
  have kept : ∃ task, state.tasks[before.tasks.length]? = some task ∧
      Follows platform opened before.tasks.length session chunks payload
        ⟨clientId, clientSecret⟩ late task := by
    apply TaskSystem.run_task _ _ _ reached
    · refine ⟨started, by rw [same, List.getElem?_concat_length], ?_⟩
      rw [start]
      refine ⟨rfl, rfl, .inl ⟨_, rfl⟩,
        .undecided (by rintro ⟨⟩) (by rintro ⟨⟩) rfl ?_⟩
      rintro ⟨_, _, _, _, _, impossible, -⟩
      simp at impossible
    · intro history state input task shared after reached found follows acted
      exact follows.advance first second decoded reached found acted
    · intro history state event next task reached taken other follows
      exact follows.frame reached taken other
  obtain ⟨task, found, follows⟩ := kept
  refine ⟨task, found, follows.onSession, fun going => ?_,
    follows.answered.decided⟩
  cases follows.answered with
  | undecided _ untold silent none =>
      exact ⟨silent, fun occurred => absurd occurred none,
        fun stage => absurd stage untold⟩
  | installed stage silent occurred =>
      exact ⟨silent, fun _ => stage, fun _ => occurred⟩
  | authenticated finished => exact absurd finished going
  | refused _ finished => exact absurd finished going
  | lost finished => exact absurd finished going

/-- The request of a client whose name and secret are one letter each. -/
def letterRequest : List UInt8 :=
  [8, 162, 1, 116, 119, 103, 111, 46, 112, 97, 105, 114, 101, 100, 45, 115,
    101, 99, 114, 101, 116, 46, 118, 49, 2, 71, 162, 1, 97, 99, 2, 97, 115]

/-- What the client asks with when both texts are one letter. -/
theorem authenticateRequest_letters :
    authenticateRequest "c" "s" = .ok letterRequest := by
  have fields : SmallFields maxSafeInteger [(1, .text "c"), (2, .text "s")] :=
    .two (by decide) (by decide)
      (by decide : (Bytes.utf8 "c").length ≤ maxSafeInteger)
      (by decide : (Bytes.utf8 "s").length ≤ maxSafeInteger)
  have credential := encodePart_image (fields_common fields)
  rw [image_fields fields] at credential
  have message : Written
      { kind := .sessionAuthenticate,
        mechanism := some pairedSecretAuthMechanism,
        payload := some [162, 1, 97, 99, 2, 97, 115] } letterRequest
      (.sessionAuthenticate pairedSecretAuthMechanism
        [162, 1, 97, 99, 2, 97, 115]) :=
    ⟨⟨by decide, by decide⟩, rfl, rfl⟩
  exact Outcome.bind_eq_ok.mpr ⟨_, credential,
    Outcome.bind_eq_ok.mpr ⟨_, message.encodes, rfl⟩⟩

/-- The stream is served to its end. -/
def served : List (HostEvent Unit) :=
  List.replicate 6 (.advance 0 (.proceed 10))

theorem served_runs :
    (((host Host.pairedPlatform).step pairedHost
      (.launch (0, [letterRequest]))).bind fun opened =>
        run (host Host.pairedPlatform).step opened served).isSome = true := by
  decide +kernel

/-- The client of the stored credential. -/
theorem client_and_host_agree_letters :
    ∃ opened state,
      (host Host.pairedPlatform).step pairedHost
        (.launch (0, [letterRequest])) = some opened ∧
      run (host Host.pairedPlatform).step opened served = some state ∧
      ∃ task, state.tasks[pairedHost.tasks.length]? = some task ∧
        Agreement Host.pairedPlatform opened pairedHost.tasks.length 0
          ⟨"c", "s"⟩ served task := by
  obtain ⟨state, runs⟩ := Option.isSome_iff_exists.mp served_runs
  obtain ⟨opened, accepted, reached⟩ := Option.bind_eq_some_iff.mp runs
  exact ⟨opened, state, accepted, reached,
    client_and_host_agree Host.pairedPlatform authenticateRequest_letters
      (by decide) rfl (by decide) accepted reached⟩

end Answer

end Web
end WhatsGoingOn
