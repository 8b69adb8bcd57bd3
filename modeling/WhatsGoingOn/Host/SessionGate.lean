import WhatsGoingOn.Host.Session

/-!
# Procedures run only on authenticated sessions

Whatever the peers send on their streams, and however the tasks of the streams
take turns: a procedure that requires authentication does nothing on a
session before a credential that matches a stored, unexpired record has
authenticated that session.
-/

namespace WhatsGoingOn
namespace Host

open Bytes Daemon

variable {ρ ω : Type}

/-- The steps of the host. -/
abbrev HostEvent (ω : Type) : Type :=
  TaskEvent (Nat × List (List UInt8)) (StreamInput ω) Unit

/-- The state of the host with its streams. -/
abbrev HostTasks (ρ ω : Type) : Type :=
  TaskState (HostState ω) (StreamTask ρ)

/-! ## What is claimed -/

/-- The errors that refuse a request before it is a procedure's: the session
is not authenticated, or the messages of the stream do not form a request. -/
inductive Refusal : ReqResMessage → Prop where
  | unauthorized (procId : UInt64) : Refusal (unauthorizedMessage procId)
  | streamUnauthorized (procId : UInt64) :
      Refusal (streamGenericErrorMessage procId .unauthorized
        credentialsRequired)
  | malformed (procId : UInt64) (text : String) :
      Refusal (genericErrorMessage procId .badMessage text)
  | streamMalformed (procId : UInt64) (text : String) :
      Refusal (streamGenericErrorMessage procId .badMessage text)

/-- The request of a stream presents a credential. -/
def Presents (request : Option ReqResMessage)
    (credential : PairedSecretCredential) : Prop :=
  ∃ payload,
    request =
        some (.sessionAuthenticate pairedSecretAuthMechanism payload) ∧
      PairedSecretCredential.decode payload = .ok credential

/-- A record is the one of a credential, and not expired. -/
structure Matches (sha256Base64url : List UInt8 → String)
    (record : ClientCredentialRecord) (credential : PairedSecretCredential)
    (nowUnix : Int) : Prop where
  clientId : record.clientId = credential.credentialId
  secret : record.secretSha256Base64url =
    sha256Base64url (utf8 credential.credentialSecret)
  unexpired : nowUnix < record.expiresAtUnix

/-- In one step, the credential that a stream of the session presents is found
to match a stored record. -/
def Verifies (sha256Base64url : List UInt8 → String)
    (stream session : Nat) (credential : PairedSecretCredential)
    (_ : List (HostEvent ω)) (state : HostTasks ρ ω) (event : HostEvent ω)
    (_ : HostTasks ρ ω) : Prop :=
  ∃ task nowUnix record,
    event = .advance stream (.proceed nowUnix) ∧
      state.tasks[stream]? = some task ∧ task.session = session ∧
      Presents task.request credential ∧
      record ∈ state.shared.clientCredentials.clients ∧
      Matches sha256Base64url record credential nowUnix

/-- In one step, the transport of a stream fails. -/
def StreamFails (stream : Nat) (_ : List (HostEvent ω)) (_ : HostTasks ρ ω)
    (event : HostEvent ω) (_ : HostTasks ρ ω) : Prop :=
  event = .advance stream .fail

/-- In one step, the authentication that a stream of the session asked for
succeeds, for a credential that was verified before: what is left to do is to
answer so. -/
def Authenticates (platform : Platform ρ) (start : HostState ω) (session : Nat)
    (history : List (HostEvent ω)) (state : HostTasks ρ ω)
    (event : HostEvent ω) (next : HostTasks ρ ω) : Prop :=
  ∃ stream nowUnix task after credential sessionState,
    event = .advance stream (.proceed nowUnix) ∧
      state.tasks[stream]? = some task ∧ task.session = session ∧
      Presents task.request credential ∧
      next.tasks[stream]? = some after ∧
      after = task.moveTo .installed ∧
      next.shared.sessions[session]? = some sessionState ∧
      sessionState.authenticatedClientId = some credential.credentialId ∧
      Occurred (host platform).step ⟨start, []⟩
        (Verifies platform.sha256Base64url stream session credential) history

/-- In one step, a procedure is executed on a session: its handler acts, or
its stream yields something other than a refusal. -/
def Executes (session : Nat) (procId : UInt64)
    (state : HostTasks ρ ω) (event : HostEvent ω) (next : HostTasks ρ ω) :
    Prop :=
  ∃ stream input task after,
    event = .advance stream input ∧
      state.tasks[stream]? = some task ∧ next.tasks[stream]? = some after ∧
      task.session = session ∧
      after.request.bind ReqResMessage.procId = some procId ∧
      ((∃ effect, input = .handle effect) ∨
        ∃ message ∈ after.sent.drop task.sent.length, ¬ Refusal message)

/-! ## What one step can do -/

/-- A request reaches its handler, or is answered otherwise than by a refusal,
only if its procedure is free or the session is authenticated. -/
theorem dispatchRpc_gated
    {platform : Platform ρ} {stream : ProcStream} {unauthorized : ReqResMessage}
    {undecodable : RpcRequestDecodeError → ReqResMessage}
    {unimplemented : UInt64 → ReqResMessage} {authenticated : Bool}
    {procId : UInt64} {payload : Option (List UInt8)}
    (required : requiresAuthentication procId = true)
    (missing : authenticated = false) :
    dispatchRpc platform stream unauthorized undecodable unimplemented
      authenticated procId payload = .reply unauthorized := by
  simp [dispatchRpc, required, missing]

/-- A handler is asked for the procedure that was named. -/
theorem asU64_of_dispatchRpc
    {platform : Platform ρ} {stream : ProcStream} {unauthorized : ReqResMessage}
    {undecodable : RpcRequestDecodeError → ReqResMessage}
    {unimplemented : UInt64 → ReqResMessage} {authenticated : Bool}
    {procId : UInt64} {payload : Option (List UInt8)} {request : RpcRequest ρ}
    (handled : dispatchRpc platform stream unauthorized undecodable
      unimplemented authenticated procId payload = .handle request) :
    request.proc.asU64 = procId := by
  unfold dispatchRpc at handled
  split at handled
  · cases handled
  · split at handled
    · cases handled
    · cases handled
    · rename_i decoded
      split at handled
      · cases handled
        exact RpcRequest.asU64_proc_of_decode decoded
      · cases handled

/-- Without authentication every dispatcher refuses a procedure that requires
it. -/
theorem dispatched_unauthenticated
    (platform : Platform ρ) (dispatcher : Dispatcher) {procId : UInt64}
    (payload : Option (List UInt8))
    (required : requiresAuthentication procId = true) :
    ∃ message, Refusal message ∧
      StreamTask.dispatched platform dispatcher false procId payload =
        .reply message := by
  cases dispatcher with
  | serverStream =>
      refine ⟨_, .streamUnauthorized procId, ?_⟩
      simp [StreamTask.dispatched, dispatchServerStreamRpc,
        dispatchRpc_gated required]
  | unary =>
      refine ⟨_, .unauthorized procId, ?_⟩
      simp [StreamTask.dispatched, dispatchUnaryRpc,
        dispatchRpc_gated required]
  | clientStream =>
      by_cases streaming : isClientStreamProc procId = true
      · refine ⟨_, .unauthorized procId, ?_⟩
        simp [StreamTask.dispatched, dispatchClientStreamRpc, streaming,
          dispatchRpc_gated required]
      · refine ⟨_, .malformed procId "this RPC does not accept a request stream",
          ?_⟩
        simp [StreamTask.dispatched, dispatchClientStreamRpc, streaming]

/-- The handler that a dispatcher finds is that of the procedure asked for. -/
theorem asU64_of_dispatched
    {platform : Platform ρ} {dispatcher : Dispatcher} {authenticated : Bool}
    {procId : UInt64} {payload : Option (List UInt8)} {request : RpcRequest ρ}
    (handled : StreamTask.dispatched platform dispatcher authenticated procId
      payload = .handle request) :
    request.proc.asU64 = procId := by
  cases dispatcher with
  | serverStream =>
      unfold StreamTask.dispatched dispatchServerStreamRpc at handled
      exact asU64_of_dispatchRpc handled
  | unary =>
      unfold StreamTask.dispatched dispatchUnaryRpc at handled
      exact asU64_of_dispatchRpc handled
  | clientStream =>
      unfold StreamTask.dispatched dispatchClientStreamRpc at handled
      dsimp only at handled
      split at handled
      · cases handled
      · exact asU64_of_dispatchRpc handled

/-- A credential is verified by a record that matches it. -/
theorem verifySessionCredentials_iff
    {sha256Base64url : List UInt8 → String}
    {credential : PairedSecretCredential}
    {clientCredentials : ClientCredentials} {nowUnix : Int} :
    verifySessionCredentials sha256Base64url credential clientCredentials
        nowUnix = true ↔
      ∃ record ∈ clientCredentials.clients,
        Matches sha256Base64url record credential nowUnix := by
  simp only [verifySessionCredentials, List.any_eq_true, Bool.and_eq_true,
    beq_iff_eq, verifyClientCredential_iff]
  constructor
  · rintro ⟨record, stored, sameId, active, sameSecret⟩
    exact ⟨record, stored, sameId, sameSecret, active⟩
  · rintro ⟨record, stored, matched⟩
    exact ⟨record, stored, matched.clientId, matched.unexpired,
      matched.secret⟩

/-! ## Tasks and their first messages -/

/-- The stage of a task fits the first message that it read. -/
def Consistent (task : StreamTask ρ) : Prop :=
  match task.stage with
  | .first _ | .finished => True
  | .control _ messages =>
      ∃ message rest, task.request = some message ∧
        message.isSessionControl = true ∧ messages = message :: rest
  | .authenticate mechanism payload =>
      task.request = some (.sessionAuthenticate mechanism payload)
  | .verify credential | .install credential =>
      Presents task.request credential
  | .installed => ∃ credential, Presents task.request credential
  | .second _ procId _ _ | .dispatch _ procId _ =>
      task.request.bind ReqResMessage.procId = some procId
  | .running request =>
      task.request.bind ReqResMessage.procId = some request.proc.asU64

/-- A session control message names no procedure. -/
theorem procId_of_isSessionControl
    {message : ReqResMessage} (control : message.isSessionControl = true) :
    message.procId = none := by
  cases message <;> first | rfl | cases control

theorem procId_of_presents
    {request : Option ReqResMessage} {credential : PairedSecretCredential}
    (presents : Presents request credential) :
    request.bind ReqResMessage.procId = none := by
  obtain ⟨payload, rfl, -⟩ := presents
  rfl

section Functions

variable {task : StreamTask ρ}

/-- The first message leads to a stage that fits it. -/
theorem consistent_readFirst (reader : ReqResMessageReader) :
    Consistent (task.readFirst reader) := by
  unfold StreamTask.readFirst
  split
  · trivial
  · trivial
  · rename_i message reader' _
    dsimp only
    split
    · rename_i control
      exact ⟨message, [], rfl, control, rfl⟩
    · split
      · split <;> rfl
      · rfl
      · trivial

/-- Further messages lead to a stage that fits them. -/
theorem consistent_readControl
    {reader : ReqResMessageReader} {messages : List ReqResMessage}
    (stage : task.stage = .control reader messages)
    (consistent : Consistent task) :
    Consistent (task.readControl reader messages) := by
  simp only [Consistent, stage] at consistent
  obtain ⟨message, rest, request, control, rfl⟩ := consistent
  unfold StreamTask.readControl
  split
  · trivial
  · rename_i later reader' _
    exact ⟨message, rest ++ [later], request, control, rfl⟩
  · unfold StreamTask.handleSessionControlMessages
    split
    · rename_i mechanism payload shape
      cases shape
      exact request
    · trivial
    · trivial

/-- The opening of an authentication leads to a stage that fits it. -/
theorem consistent_authenticateSessionControl
    {session : RpcSessionState} {mechanism : String} {payload : List UInt8}
    (stage : task.stage = .authenticate mechanism payload)
    (consistent : Consistent task) :
    Consistent (task.authenticateSessionControl session mechanism payload) := by
  simp only [Consistent, stage] at consistent
  unfold StreamTask.authenticateSessionControl
  split
  · trivial
  · split
    · trivial
    · rename_i supported
      split
      · rename_i credential decoded
        rw [not_not.mp supported] at consistent
        exact ⟨payload, consistent, decoded⟩
      · trivial
      · trivial

/-- The check of a credential leads to a stage that fits it. -/
theorem consistent_verifyCredential
    {platform : Platform ρ} {clientCredentials : ClientCredentials}
    {credential : PairedSecretCredential} {nowUnix : Int}
    (stage : task.stage = .verify credential)
    (consistent : Consistent task) :
    Consistent (task.verifyCredential platform clientCredentials credential
      nowUnix) := by
  simp only [Consistent, stage] at consistent
  unfold StreamTask.verifyCredential
  split
  · exact consistent
  · trivial

/-- A second message leads to a stage that fits the first. -/
theorem consistent_readSecond
    {dispatcher : Dispatcher} {procId : UInt64}
    {payload : Option (List UInt8)} {reader : ReqResMessageReader}
    (stage : task.stage = .second dispatcher procId payload reader)
    (consistent : Consistent task) :
    Consistent (task.readSecond dispatcher procId payload reader) := by
  simp only [Consistent, stage] at consistent
  unfold StreamTask.readSecond
  split
  · trivial
  · exact consistent
  · split <;> trivial

/-- A dispatch leads to a stage that fits it. -/
theorem consistent_dispatch
    {platform : Platform ρ} {session : RpcSessionState}
    {dispatcher : Dispatcher} {procId : UInt64}
    {payload : Option (List UInt8)}
    (stage : task.stage = .dispatch dispatcher procId payload)
    (consistent : Consistent task) :
    Consistent (task.dispatch platform session dispatcher procId payload) := by
  simp only [Consistent, stage] at consistent
  unfold StreamTask.dispatch
  split
  · trivial
  · rename_i request handled
    simp only [Consistent, StreamTask.moveTo]
    rw [asU64_of_dispatched handled]
    exact consistent
  · trivial

end Functions

/-- An action keeps the stage fitting the first message. -/
theorem consistent_advanceStream
    {platform : Platform ρ} {shared after : HostState ω}
    {task next : StreamTask ρ} {input : StreamInput ω}
    (consistent : Consistent task)
    (acted : advanceStream platform shared task input = some (after, next)) :
    Consistent next := by
  cases input with
  | fail =>
      cases acted
      trivial
  | handle effect =>
      simp only [advanceStream] at acted
      split at acted
      · rename_i request stage
        cases acted
        by_cases ended : effect.finished = true
        · simp [Consistent, ended]
        · simp only [Consistent, stage] at consistent
          simpa [Consistent, ended, stage] using consistent
      · cases acted
  | proceed nowUnix =>
      simp only [advanceStream] at acted
      split at acted
      · cases acted
        exact consistent_readFirst _
      · rename_i stage
        cases acted
        exact consistent_readControl stage consistent
      · rename_i stage
        obtain ⟨session, -, same⟩ := Option.map_eq_some_iff.mp acted
        cases same
        exact consistent_authenticateSessionControl stage consistent
      · rename_i stage
        cases acted
        exact consistent_verifyCredential stage consistent
      · rename_i credential stage
        obtain ⟨session, -, same⟩ := Option.map_eq_some_iff.mp acted
        cases same
        simp only [Consistent, stage] at consistent
        exact ⟨credential, consistent⟩
      · cases acted
        trivial
      · rename_i stage
        cases acted
        exact consistent_readSecond stage consistent
      · rename_i stage
        obtain ⟨session, -, same⟩ := Option.map_eq_some_iff.mp acted
        cases same
        exact consistent_dispatch stage consistent
      · cases acted
      · cases acted

/-! ## What a task keeps, and what it writes unauthenticated -/

section Functions

variable {task : StreamTask ρ}

/-- The first message leaves a stream on its session. -/
@[simp]
theorem session_readFirst (reader : ReqResMessageReader) :
    (task.readFirst reader).session = task.session := by
  unfold StreamTask.readFirst
  split
  · rfl
  · rfl
  · dsimp only
    split
    · rfl
    · split
      · split <;> rfl
      · rfl
      · rfl

@[simp]
theorem session_readControl
    (reader : ReqResMessageReader) (messages : List ReqResMessage) :
    (task.readControl reader messages).session = task.session := by
  unfold StreamTask.readControl StreamTask.handleSessionControlMessages
  split
  · rfl
  · rfl
  · split <;> rfl

@[simp]
theorem session_authenticateSessionControl
    (session : RpcSessionState) (mechanism : String)
    (payload : List UInt8) :
    (task.authenticateSessionControl session mechanism payload).session =
      task.session := by
  unfold StreamTask.authenticateSessionControl
  split
  · rfl
  · split
    · rfl
    · split <;> rfl

@[simp]
theorem session_verifyCredential
    (platform : Platform ρ) (clientCredentials : ClientCredentials)
    (credential : PairedSecretCredential) (nowUnix : Int) :
    (task.verifyCredential platform clientCredentials credential
      nowUnix).session = task.session := by
  unfold StreamTask.verifyCredential
  split <;> rfl

@[simp]
theorem session_readSecond
    (dispatcher : Dispatcher) (procId : UInt64)
    (payload : Option (List UInt8)) (reader : ReqResMessageReader) :
    (task.readSecond dispatcher procId payload reader).session =
      task.session := by
  unfold StreamTask.readSecond
  split
  · rfl
  · rfl
  · split <;> rfl

@[simp]
theorem session_dispatch
    (platform : Platform ρ) (session : RpcSessionState)
    (dispatcher : Dispatcher) (procId : UInt64)
    (payload : Option (List UInt8)) :
    (task.dispatch platform session dispatcher procId payload).session =
      task.session := by
  unfold StreamTask.dispatch
  split <;> rfl

/-- What a task appends to the messages it has written. -/
def Writes (task after : StreamTask ρ) (Allowed : ReqResMessage → Prop) :
    Prop :=
  ∀ message ∈ after.sent.drop task.sent.length, Allowed message

variable {Allowed : ReqResMessage → Prop}

@[simp]
theorem writes_moveTo (stage : StreamStage ρ) :
    Writes task (task.moveTo stage) Allowed := by
  simp [Writes, StreamTask.moveTo]

@[simp]
theorem writes_reply {message : ReqResMessage} :
    Writes task (task.reply message) Allowed ↔ Allowed message := by
  simp [Writes, StreamTask.reply]

/-- Reading its first message, a task writes refusals. -/
theorem writes_readFirst (reader : ReqResMessageReader) :
    Writes task (task.readFirst reader) Refusal := by
  unfold StreamTask.readFirst
  split
  · simp
  · rw [writes_reply]
    exact .malformed 0 _
  · rename_i message reader' _
    dsimp only
    split
    · simp [Writes, StreamTask.moveTo]
    · split
      · split <;> simp [Writes, StreamTask.moveTo]
      · simp [Writes, StreamTask.moveTo]
      · intro reply member
        simp only [StreamTask.reply, List.drop_left,
          List.mem_singleton] at member
        subst member
        exact .malformed 0 _

/-- Reading past its request, a task writes refusals. -/
theorem writes_readSecond
    (dispatcher : Dispatcher) (procId : UInt64)
    (payload : Option (List UInt8)) (reader : ReqResMessageReader) :
    Writes task (task.readSecond dispatcher procId payload reader)
      Refusal := by
  unfold StreamTask.readSecond
  split
  · simp
  · simp
  · split
    · rw [writes_reply]
      exact .streamMalformed procId _
    · rw [writes_reply]
      exact .malformed procId _

/-- On a session that is not authenticated, a procedure that requires
authentication is refused. -/
theorem writes_dispatch
    (platform : Platform ρ) {session : RpcSessionState}
    (dispatcher : Dispatcher) {procId : UInt64}
    (payload : Option (List UInt8))
    (required : requiresAuthentication procId = true)
    (unauthenticated : session.authenticatedClientId = none) :
    Writes task (task.dispatch platform session dispatcher procId payload)
      Refusal := by
  obtain ⟨message, refusal, dispatched⟩ :=
    dispatched_unauthenticated platform dispatcher payload required
  simp [StreamTask.dispatch, unauthenticated, dispatched, refusal]

theorem request_readControl
    (reader : ReqResMessageReader) (messages : List ReqResMessage) :
    (task.readControl reader messages).request = task.request := by
  unfold StreamTask.readControl StreamTask.handleSessionControlMessages
  split
  · rfl
  · rfl
  · split <;> rfl

theorem request_authenticateSessionControl
    (session : RpcSessionState) (mechanism : String)
    (payload : List UInt8) :
    (task.authenticateSessionControl session mechanism payload).request =
      task.request := by
  unfold StreamTask.authenticateSessionControl
  split
  · rfl
  · split
    · rfl
    · split <;> rfl

theorem request_verifyCredential
    (platform : Platform ρ) (clientCredentials : ClientCredentials)
    (credential : PairedSecretCredential) (nowUnix : Int) :
    (task.verifyCredential platform clientCredentials credential
      nowUnix).request = task.request := by
  unfold StreamTask.verifyCredential
  split <;> rfl

theorem request_dispatch
    (platform : Platform ρ) (session : RpcSessionState)
    (dispatcher : Dispatcher) (procId : UInt64)
    (payload : Option (List UInt8)) :
    (task.dispatch platform session dispatcher procId payload).request =
      task.request := by
  unfold StreamTask.dispatch
  split <;> rfl

/-- As long as its session is not authenticated, the stream of a procedure
that requires authentication writes refusals. -/
theorem writes_proceed
    {platform : Platform ρ} {shared after : HostState ω}
    {next : StreamTask ρ} {nowUnix : Int} {procId : UInt64}
    (consistent : Consistent task)
    (acted : advanceStream platform shared task (.proceed nowUnix) =
      some (after, next))
    (names : next.request.bind ReqResMessage.procId = some procId)
    (required : requiresAuthentication procId = true)
    (unauthenticated : ∀ session, shared.sessions[task.session]? = some session →
      session.authenticatedClientId = none) :
    Writes task next Refusal := by
  simp only [advanceStream] at acted
  split at acted
  · cases acted
    exact writes_readFirst _
  · rename_i stage
    cases acted
    simp only [Consistent, stage] at consistent
    obtain ⟨message, rest, request, control, -⟩ := consistent
    rw [request_readControl, request] at names
    simp [procId_of_isSessionControl control] at names
  · rename_i stage
    obtain ⟨session, -, same⟩ := Option.map_eq_some_iff.mp acted
    cases same
    simp only [Consistent, stage] at consistent
    rw [request_authenticateSessionControl, consistent] at names
    cases names
  · rename_i stage
    cases acted
    simp only [Consistent, stage] at consistent
    rw [request_verifyCredential, procId_of_presents consistent] at names
    cases names
  · rename_i stage
    obtain ⟨session, -, same⟩ := Option.map_eq_some_iff.mp acted
    cases same
    simp only [Consistent, stage] at consistent
    simp [StreamTask.moveTo, procId_of_presents consistent] at names
  · rename_i stage
    cases acted
    simp only [Consistent, stage] at consistent
    obtain ⟨credential, presents⟩ := consistent
    simp [StreamTask.reply, procId_of_presents presents] at names
  · cases acted
    exact writes_readSecond _ _ _ _
  · rename_i stage
    obtain ⟨session, found, same⟩ := Option.map_eq_some_iff.mp acted
    cases same
    simp only [Consistent, stage] at consistent
    rw [request_dispatch, consistent] at names
    cases names
    exact writes_dispatch platform _ _ required
      (unauthenticated session found)
  · cases acted
  · cases acted

end Functions

/-! ## The invariant -/

section Invariant

variable (platform : Platform ρ) (start : HostState ω)

/-- Every authenticated session was authenticated by a successful request. -/
def SessionsEarned (history : List (HostEvent ω)) (shared : HostState ω) :
    Prop :=
  ∀ session sessionState, shared.sessions[session]? = some sessionState →
    sessionState.authenticatedClientId.isSome = true →
    Occurred (host platform).step ⟨start, []⟩
      (Authenticates platform start session) history

/-- A task that is about to authenticate its session has verified its
credential, and one that runs a handler was let through. -/
def Earned (history : List (HostEvent ω)) (stream : Nat)
    (task : StreamTask ρ) : Prop :=
  match task.stage with
  | .install credential =>
      Occurred (host platform).step ⟨start, []⟩
        (Verifies platform.sha256Base64url stream task.session credential)
        history
  | .running request =>
      requiresAuthentication request.proc.asU64 = true →
        Occurred (host platform).step ⟨start, []⟩
          (Authenticates platform start task.session) history
  | _ => True

variable {platform start}

/-- What was earned stays earned. -/
theorem Earned.append
    {history : List (HostEvent ω)} {stream : Nat} {task : StreamTask ρ}
    (earned : Earned platform start history stream task)
    (later : List (HostEvent ω)) :
    Earned platform start (history ++ later) stream task := by
  unfold Earned at earned ⊢
  split
  · rename_i stage
    rw [stage] at earned
    exact Occurred.append earned later
  · rename_i stage
    rw [stage] at earned
    exact fun required => (earned required).append later
  · trivial

theorem SessionsEarned.append
    {history : List (HostEvent ω)} {shared : HostState ω}
    (earned : SessionsEarned platform start history shared)
    (later : List (HostEvent ω)) :
    SessionsEarned platform start (history ++ later) shared :=
  fun session sessionState found authenticated =>
    (earned session sessionState found authenticated).append later

/-- Where a dispatched request goes on to its handler, its procedure is free
or its session is authenticated. -/
theorem earned_dispatch
    {history : List (HostEvent ω)} {shared : HostState ω} {stream : Nat}
    {task : StreamTask ρ} {session : RpcSessionState}
    {dispatcher : Dispatcher} {procId : UInt64}
    {payload : Option (List UInt8)}
    (sessions : SessionsEarned platform start history shared)
    (found : shared.sessions[task.session]? = some session) :
    Earned platform start history stream
      (task.dispatch platform session dispatcher procId payload) := by
  unfold StreamTask.dispatch
  split
  · trivial
  · rename_i request handled
    show requiresAuthentication request.proc.asU64 = true → _
    intro required
    rw [asU64_of_dispatched handled] at required
    by_cases authenticated : session.authenticatedClientId.isSome = true
    · exact sessions _ _ found authenticated
    · exfalso
      rw [Bool.not_eq_true] at authenticated
      obtain ⟨message, -, refused⟩ :=
        dispatched_unauthenticated platform dispatcher payload required
      rw [authenticated, refused] at handled
      cases handled
  · trivial

/-- The first message earns nothing that needs an authentication. -/
theorem earned_readFirst
    {history : List (HostEvent ω)} {stream : Nat} {task : StreamTask ρ}
    (reader : ReqResMessageReader) :
    Earned platform start history stream (task.readFirst reader) := by
  unfold StreamTask.readFirst
  split
  · trivial
  · trivial
  · dsimp only
    split
    · trivial
    · split
      · split <;> trivial
      · trivial
      · trivial

theorem earned_readControl
    {history : List (HostEvent ω)} {stream : Nat} {task : StreamTask ρ}
    (reader : ReqResMessageReader) (messages : List ReqResMessage) :
    Earned platform start history stream
      (task.readControl reader messages) := by
  unfold StreamTask.readControl StreamTask.handleSessionControlMessages
  split
  · trivial
  · trivial
  · split <;> trivial

/-- The opening of an authentication earns nothing. -/
theorem earned_authenticateSessionControl
    {history : List (HostEvent ω)} {stream : Nat} {task : StreamTask ρ}
    (session : RpcSessionState) (mechanism : String)
    (payload : List UInt8) :
    Earned platform start history stream
      (task.authenticateSessionControl session mechanism payload) := by
  unfold StreamTask.authenticateSessionControl
  split
  · trivial
  · split
    · trivial
    · split <;> trivial

theorem earned_readSecond
    {history : List (HostEvent ω)} {stream : Nat} {task : StreamTask ρ}
    (dispatcher : Dispatcher) (procId : UInt64)
    (payload : Option (List UInt8)) (reader : ReqResMessageReader) :
    Earned platform start history stream
      (task.readSecond dispatcher procId payload reader) := by
  unfold StreamTask.readSecond
  split
  · trivial
  · trivial
  · split <;> trivial

/-- An action gives a task what its next stage owes. -/
theorem earned_advance
    {history : List (HostEvent ω)} {state : HostTasks ρ ω} {stream : Nat}
    {input : StreamInput ω} {task after : StreamTask ρ}
    {shared : HostState ω}
    (reached : run (host platform).step ⟨start, []⟩ history = some state)
    (sessions : SessionsEarned platform start history state.shared)
    (consistent : Consistent task)
    (earned : Earned platform start history stream task)
    (found : state.tasks[stream]? = some task)
    (acted : advanceStream platform state.shared task input =
      some (shared, after)) :
    Earned platform start (history ++ [.advance stream input]) stream
      after := by
  have taken : (host platform).step state (.advance stream input) =
      some ⟨shared, state.tasks.set stream after⟩ :=
    TaskSystem.step_advance_eq_some.mpr
      ⟨task, shared, after, found, acted, rfl⟩
  cases input with
  | fail =>
      cases acted
      trivial
  | handle effect =>
      simp only [advanceStream] at acted
      split at acted
      · rename_i request stage
        cases acted
        by_cases ended : effect.finished = true
        · simp [Earned, ended]
        · have kept := earned.append [.advance stream (.handle effect)]
          simp only [Earned, stage] at kept
          simpa [Earned, ended, stage] using kept
      · cases acted
  | proceed nowUnix =>
      simp only [advanceStream] at acted
      split at acted
      · cases acted
        exact earned_readFirst _
      · cases acted
        exact earned_readControl _ _
      · obtain ⟨session, -, same⟩ := Option.map_eq_some_iff.mp acted
        cases same
        exact earned_authenticateSessionControl _ _ _
      · rename_i credential stage
        cases acted
        simp only [Consistent, stage] at consistent
        unfold StreamTask.verifyCredential at taken ⊢
        split at taken
        · rename_i verified
          rw [if_pos verified]
          obtain ⟨record, stored, matched⟩ :=
            verifySessionCredentials_iff.mp verified
          exact Occurred.now reached taken
            ⟨task, nowUnix, record, rfl, found, rfl, consistent, stored,
              matched⟩
        · rename_i refused
          rw [if_neg refused]
          trivial
      · obtain ⟨session, -, same⟩ := Option.map_eq_some_iff.mp acted
        cases same
        trivial
      · cases acted
        trivial
      · cases acted
        exact earned_readSecond _ _ _ _
      · obtain ⟨session, present, same⟩ := Option.map_eq_some_iff.mp acted
        cases same
        exact (earned_dispatch sessions present).append _
      · cases acted
      · cases acted

/-- Only a successful authentication marks a session. -/
theorem sessionsEarned_advance
    {history : List (HostEvent ω)} {state : HostTasks ρ ω} {stream : Nat}
    {input : StreamInput ω} {task after : StreamTask ρ}
    {shared : HostState ω}
    (reached : run (host platform).step ⟨start, []⟩ history = some state)
    (sessions : SessionsEarned platform start history state.shared)
    (consistent : Consistent task)
    (earned : Earned platform start history stream task)
    (found : state.tasks[stream]? = some task)
    (acted : advanceStream platform state.shared task input =
      some (shared, after)) :
    SessionsEarned platform start (history ++ [.advance stream input])
      shared := by
  have taken : (host platform).step state (.advance stream input) =
      some ⟨shared, state.tasks.set stream after⟩ :=
    TaskSystem.step_advance_eq_some.mpr
      ⟨task, shared, after, found, acted, rfl⟩
  have kept := sessions.append [.advance stream input]
  cases input with
  | fail =>
      cases acted
      exact kept
  | handle effect =>
      simp only [advanceStream] at acted
      split at acted
      · cases acted
        exact kept
      · cases acted
  | proceed nowUnix =>
      simp only [advanceStream] at acted
      split at acted
      case h_5 credential stage =>
        obtain ⟨previous, present, same⟩ := Option.map_eq_some_iff.mp acted
        cases same
        simp only [Consistent, stage] at consistent
        simp only [Earned, stage] at earned
        intro session sessionState lookup authenticated
        rcases TaskSystem.getElem?_set_cases lookup with
          ⟨rfl, rfl⟩ | ⟨-, older⟩
        · apply Occurred.now reached taken
          refine ⟨stream, nowUnix, task, task.moveTo .installed,
            credential, _, rfl, found, rfl, consistent, ?_, rfl, lookup, rfl,
            earned⟩
          have inside := (List.getElem?_eq_some_iff.mp found).1
          simp [inside]
        · exact kept _ _ older authenticated
      all_goals first
        | cases acted
          exact kept
        | obtain ⟨session, -, same⟩ := Option.map_eq_some_iff.mp acted
          cases same
          exact kept
        | cases acted

/-- The invariant of the host. -/
theorem nonInterference
    (clear : ∀ sessionState ∈ start.sessions,
      sessionState.authenticatedClientId = none) :
    TaskSystem.NonInterference (host platform) start
      (fun history shared => SessionsEarned platform start history shared)
      (fun history _ stream task =>
        Consistent task ∧ Earned platform start history stream task) where
  initially := by
    intro session sessionState lookup authenticated
    rw [clear sessionState (List.mem_of_getElem? lookup)] at authenticated
    cases authenticated
  launches := by
    intro history state request task reached holds launched
    refine ⟨SessionsEarned.append holds.shared _, ?_⟩
    simp only [host, acceptStream] at launched
    split at launched
    · cases launched
      exact ⟨trivial, trivial⟩
    · cases launched
  advances := by
    intro history state stream input task shared after reached holds found
      acted
    obtain ⟨consistent, earned⟩ := holds.task found
    exact ⟨sessionsEarned_advance reached holds.shared consistent earned found
        acted,
      consistent_advanceStream consistent acted,
      earned_advance reached holds.shared consistent earned found acted⟩
  disturbs := by
    intro history state cause shared reached holds connected
    cases connected
    intro session sessionState lookup authenticated
    rcases TaskSystem.getElem?_concat_cases lookup with
      ⟨rfl, rfl⟩ | ⟨-, older⟩
    · cases authenticated
    · exact (holds.shared _ _ older authenticated).append _
  frame := by
    intro history state event next other task reached holds taken _ found
    obtain ⟨consistent, earned⟩ := holds.task found
    exact ⟨consistent, earned.append _⟩

end Invariant

/-! ## The gate -/

/-- Whatever the platform is, whatever credentials are stored at the start,
and however streams, handlers and credentials go on: a step executes a
procedure other than `GetDaemonInfo`, `StartPairing` and `CompletePairing` on
a session only after a stream of that session authenticated it. -/
theorem executes_only_authenticated
    (platform : Platform ρ) (clientCredentials : ClientCredentials) (world : ω)
    {history : List (HostEvent ω)} {state next : HostTasks ρ ω}
    {event : HostEvent ω} {session : Nat} {procId : UInt64}
    (reached : run (host platform).step
      ⟨.initial clientCredentials world, []⟩ history = some state)
    (taken : (host platform).step state event = some next)
    (notGetDaemonInfo : procId ≠ ProcId.getDaemonInfo.asU64)
    (notStartPairing : procId ≠ ProcId.startPairing.asU64)
    (notCompletePairing : procId ≠ ProcId.completePairing.asU64)
    (executes : Executes session procId state event next) :
    Occurred (host platform).step ⟨.initial clientCredentials world, []⟩
      (Authenticates platform (.initial clientCredentials world) session)
      history := by
  have required : requiresAuthentication procId = true := by
    simp [requiresAuthentication, notGetDaemonInfo, notStartPairing,
      notCompletePairing]
  have sound : TaskSystem.NonInterference (host platform)
      (.initial clientCredentials world) _ _ :=
    nonInterference (by simp [HostState.initial])
  have holds := sound.holds reached
  obtain ⟨stream, input, task, after, rfl, found, afterFound, rfl, names,
    acts⟩ := executes
  obtain ⟨consistent, earned⟩ := holds.task found
  obtain ⟨task', shared, after', found', acted, rfl⟩ :=
    TaskSystem.step_advance_eq_some.mp taken
  rw [found] at found'
  cases found'
  have inside := (List.getElem?_eq_some_iff.mp found).1
  simp only [List.getElem?_set_self inside, Option.some.injEq] at afterFound
  subst afterFound
  cases input with
  | fail =>
      cases acted
      rcases acts with ⟨effect, impossible⟩ | ⟨message, written, -⟩
      · cases impossible
      · simp [StreamTask.moveTo] at written
  | handle effect =>
      simp only [host, advanceStream] at acted
      split at acted
      · rename_i request stage
        cases acted
        simp only [Consistent, stage] at consistent
        simp only [Earned, stage] at earned
        rw [consistent] at names
        cases names
        exact earned required
      · cases acted
  | proceed nowUnix =>
      by_contra unauthenticated
      rcases acts with ⟨effect, impossible⟩ | ⟨message, written, unrefused⟩
      · cases impossible
      · refine unrefused (writes_proceed consistent acted names required ?_
          message written)
        intro sessionState lookup
        by_contra authenticated
        exact unauthenticated (holds.shared _ _ lookup
          (Option.isSome_iff_ne_none.mpr authenticated))

/-! ## A session that authenticates and subscribes to the roots -/

/-- The digest, on the one secret of the run. -/
def pairedPlatform : Platform Unit where
  sha256Base64url := fun bytes =>
    if bytes = utf8 "s" then "BDpxh3TFcr2KJa2-sb_NXAJWrhHOz5-cP5JdDlK-r4k"
    else ""
  decodePayload := fun _ _ => .error (.error .expectedMap)
  windows := false
  processResourcesInUse := false
  processSocketsInUse := false
  processModules := false

/-- The credentials of one client, whose secret the sample streams present. -/
def pairedCredentials : ClientCredentials :=
  ⟨[⟨"c", "browser", "BDpxh3TFcr2KJa2-sb_NXAJWrhHOz5-cP5JdDlK-r4k", 0,
    1000⟩]⟩

/-- A host that knows the client, and has one session. -/
def pairedHost : HostTasks Unit Unit :=
  ⟨{ nextRpcSessionId := 2, sessions := [⟨1, none⟩],
     clientCredentials := pairedCredentials, world := () }, []⟩

/-- `SessionAuthenticate` with the credential of the client, on a stream of
its own, and then `RequestUnary` for `SubscribeRoots` on another. -/
def rootsHistory : List (HostEvent Unit) :=
  [.disturb (),
    .launch (0,
      [[8, 162, 1, 116, 119, 103, 111, 46, 112, 97, 105, 114, 101, 100, 45,
        115, 101, 99, 114, 101, 116, 46, 118, 49, 2, 71, 162, 1, 97, 99, 2,
        97, 115]]),
    .advance 0 (.proceed 10), .advance 0 (.proceed 10),
    .advance 0 (.proceed 10), .advance 0 (.proceed 10),
    .advance 0 (.proceed 10), .advance 0 (.proceed 10),
    .launch (0, [[0, 161, 1, 5]]),
    .advance 1 (.proceed 10), .advance 1 (.proceed 10),
    .advance 1 (.proceed 10)]

/-- The handler of the subscription writes its first snapshot. -/
def rootsSnapshot : HostEvent Unit :=
  .advance 1 (.handle
    ⟨pairedCredentials, (), [.responseStreamStart (some [])], false⟩)

theorem rootsHistory_runs :
    ((run (host pairedPlatform).step
      ⟨.initial pairedCredentials (), []⟩ rootsHistory).bind fun state =>
        (((host pairedPlatform).step state rootsSnapshot).bind fun next =>
          (state.tasks[1]?.bind fun task => next.tasks[1]?.map fun after =>
            task.session == 0 &&
              after.request.bind ReqResMessage.procId == some 5))) =
      some true := by
  decide +kernel

/-- The roots are read after the session was authenticated. -/
theorem executes_only_authenticated_roots :
    ∃ state next,
      run (host pairedPlatform).step ⟨.initial pairedCredentials (), []⟩
          rootsHistory = some state ∧
        Executes 0 5 state rootsSnapshot next ∧
        Occurred (host pairedPlatform).step
          ⟨.initial pairedCredentials (), []⟩
          (Authenticates pairedPlatform (.initial pairedCredentials ()) 0)
          rootsHistory := by
  obtain ⟨state, reached, rest⟩ :=
    Option.bind_eq_some_iff.mp rootsHistory_runs
  obtain ⟨next, taken, rest⟩ := Option.bind_eq_some_iff.mp rest
  obtain ⟨task, found, rest⟩ := Option.bind_eq_some_iff.mp rest
  obtain ⟨after, afterFound, checked⟩ := Option.map_eq_some_iff.mp rest
  rw [Bool.and_eq_true, beq_iff_eq, beq_iff_eq] at checked
  have executes : Executes 0 5 state rootsSnapshot next :=
    ⟨1, _, task, after, rfl, found, afterFound, checked.1, checked.2,
      Or.inl ⟨_, rfl⟩⟩
  exact ⟨state, next, reached, executes,
    executes_only_authenticated pairedPlatform pairedCredentials () reached
      taken (by decide) (by decide) (by decide) executes⟩

end Host
end WhatsGoingOn
