import WhatsGoingOn.Host.SessionGate

/-!
# The identity of a session

A session is authenticated as one client.  The check that it is not
authenticated yet and the assignment of its identity are two steps of the task
that serves a request, so that another request may authenticate the session in
between.  Where none does, the first identity of a session is its last.
-/

namespace WhatsGoingOn
namespace Host

open Bytes Daemon

variable {ρ ω : Type}

/-! ## What is claimed -/

/-- The client that a session is authenticated as. -/
def HostState.identity (shared : HostState ω) (session : Nat) :
    Option String :=
  shared.sessions[session]?.bind RpcSessionState.authenticatedClientId

/-- The answer to a request on a session that is authenticated. -/
def alreadyAuthenticatedMessage : ReqResMessage :=
  sessionAuthErrorMessage .alreadyAuthenticated
    "session is already authenticated"

namespace StreamTask

/-- The task serves a request that has passed the check of the session. -/
def pastCheck (task : StreamTask ρ) : Bool :=
  match task.stage with
  | .verify _ | .install _ => true
  | _ => false

/-- The task has a request to authenticate that it has not answered. -/
def asks (task : StreamTask ρ) : Bool :=
  match task.stage with
  | .authenticate _ _ | .verify _ | .install _ => true
  | _ => false

/-- The task is about to authenticate its session. -/
def installs (task : StreamTask ρ) : Bool :=
  match task.stage with
  | .install _ => true
  | _ => false

/-- The request of the task has authenticated its session: it is answered so,
or about to be. -/
def Succeeded (task : StreamTask ρ) : Prop :=
  (∃ mechanism payload,
    task.request = some (.sessionAuthenticate mechanism payload)) ∧
  (task.stage = .installed ∨ ReqResMessage.sessionAuthenticated ∈ task.sent)

end StreamTask

/-- A step authenticates a session while another request on it is between its
check and its answer. -/
def overtakes (state : HostTasks ρ ω) : HostEvent ω → Bool
  | .advance stream (.proceed _) =>
      (state.tasks[stream]?).any fun task =>
        task.installs &&
          (List.range state.tasks.length).any fun other =>
            other != stream && (state.tasks[other]?).any fun second =>
              second.session == task.session && second.pastCheck
  | _ => false

/-! ## What one step does to identities -/

/-- A task that has not answered has written nothing. -/
def Silent (task : StreamTask ρ) : Prop :=
  match task.stage with
  | .running _ | .finished => True
  | _ => task.sent = []

section Functions

variable {task : StreamTask ρ}

/-- What a task may become that does not succeed: it writes nothing, or refuses
and ends. -/
def Declines (task after : StreamTask ρ) : Prop :=
  (after.sent = task.sent ∧ after.stage ≠ .installed) ∨
    ∃ message, message ≠ ReqResMessage.sessionAuthenticated ∧
      after.sent = task.sent ++ [message] ∧ after.stage = .finished

theorem declines_moveTo {stage : StreamStage ρ}
    (other : stage ≠ .installed) :
    Declines task (task.moveTo stage) :=
  Or.inl ⟨rfl, other⟩

theorem declines_reply {message : ReqResMessage}
    (different : message ≠ .sessionAuthenticated) :
    Declines task (task.reply message) :=
  Or.inr ⟨message, different, rfl, rfl⟩

/-- The first message does not succeed by itself. -/
theorem declines_readFirst (reader : ReqResMessageReader) :
    Declines task (task.readFirst reader) := by
  unfold StreamTask.readFirst
  split
  · exact declines_moveTo (by simp)
  · exact declines_reply (by simp [genericErrorMessage])
  · dsimp only
    split
    · exact Or.inl ⟨rfl, by simp [StreamTask.moveTo]⟩
    · split
      · split <;> exact Or.inl ⟨rfl, by simp [StreamTask.moveTo]⟩
      · exact Or.inl ⟨rfl, by simp [StreamTask.moveTo]⟩
      · exact Or.inr ⟨_, by simp [genericErrorMessage], rfl, rfl⟩

theorem declines_readControl
    (reader : ReqResMessageReader) (messages : List ReqResMessage) :
    Declines task (task.readControl reader messages) := by
  unfold StreamTask.readControl StreamTask.handleSessionControlMessages
  split
  · exact declines_moveTo (by simp)
  · exact declines_moveTo (by simp)
  · split
    · exact declines_moveTo (by simp)
    · exact declines_reply (by simp [sessionAuthErrorMessage])
    · exact declines_reply (by simp [sessionAuthErrorMessage])

/-- The opening of an authentication does not succeed by itself. -/
theorem declines_authenticateSessionControl
    (session : RpcSessionState) (mechanism : String) (payload : List UInt8) :
    Declines task
      (task.authenticateSessionControl session mechanism payload) := by
  unfold StreamTask.authenticateSessionControl
  split
  · exact declines_reply (by simp [sessionAuthErrorMessage])
  · split
    · exact declines_reply (by simp [sessionAuthErrorMessage])
    · split
      · exact declines_moveTo (by simp)
      · exact declines_reply (by simp [sessionAuthErrorMessage])
      · exact declines_moveTo (by simp)

theorem declines_verifyCredential
    (platform : Platform ρ) (clientCredentials : ClientCredentials)
    (credential : PairedSecretCredential) (nowUnix : Int) :
    Declines task
      (task.verifyCredential platform clientCredentials credential
        nowUnix) := by
  unfold StreamTask.verifyCredential
  split
  · exact declines_moveTo (by simp)
  · exact declines_reply (by simp [sessionAuthErrorMessage])

theorem Declines.silent {after : StreamTask ρ}
    (declines : Declines task after) (silent : task.sent = []) :
    Silent after := by
  unfold Silent
  rcases declines with ⟨same, -⟩ | ⟨message, -, -, stage⟩
  · split
    · trivial
    · trivial
    · rw [same, silent]
  · rw [stage]
    trivial

theorem Declines.not_succeeded {after : StreamTask ρ}
    (declines : Declines task after) (silent : task.sent = []) :
    ¬ after.Succeeded := by
  rintro ⟨-, succeeded⟩
  rcases declines with ⟨same, other⟩ | ⟨message, different, sent, stage⟩
  · simp [same, silent, other] at succeeded
  · simp [sent, silent, different.symm, stage] at succeeded

/-- A request for a procedure is not one to authenticate. -/
theorem not_succeeded_of_procId {procId : UInt64}
    (names : task.request.bind ReqResMessage.procId = some procId) :
    ¬ task.Succeeded := by
  rintro ⟨⟨mechanism, payload, request⟩, -⟩
  rw [request] at names
  cases names

end Functions

/-- An action that leaves the sessions as they are. -/
structure KeepsIdentity
    (shared after : HostState ω) (task next : StreamTask ρ) : Prop where
  sessions : after.sessions = shared.sessions
  session : next.session = task.session
  past : next.pastCheck = true →
    shared.identity task.session = none ∨ task.pastCheck = true
  success : next.Succeeded → task.Succeeded
  silent : Silent next

namespace KeepsIdentity

variable {shared : HostState ω} {task next : StreamTask ρ}

/-- A task that has written nothing keeps identities by declining. -/
theorem of_declines
    (session : next.session = task.session)
    (silent : task.sent = [])
    (declines : Declines task next)
    (past : next.pastCheck = true →
      shared.identity task.session = none ∨ task.pastCheck = true) :
    KeepsIdentity shared shared task next where
  sessions := rfl
  session := session
  past := past
  success := fun succeeded =>
    absurd succeeded (declines.not_succeeded silent)
  silent := declines.silent silent

/-- A task that was asked for a procedure keeps identities. -/
theorem of_procId {after : HostState ω} {procId : UInt64}
    (names : next.request.bind ReqResMessage.procId = some procId)
    (sessions : after.sessions = shared.sessions)
    (session : next.session = task.session)
    (checked : next.pastCheck = false) (silent : Silent next) :
    KeepsIdentity shared after task next where
  sessions := sessions
  session := session
  past := by
    rw [checked]
    rintro ⟨⟩
  success := fun succeeded => absurd succeeded (not_succeeded_of_procId names)
  silent := silent

end KeepsIdentity

section Step

variable {platform : Platform ρ} {shared after : HostState ω}
  {task next : StreamTask ρ}

/-- The first message passes no check. -/
theorem pastCheck_readFirst (reader : ReqResMessageReader) :
    (task.readFirst reader).pastCheck = false := by
  unfold StreamTask.readFirst
  split
  · rfl
  · rfl
  · dsimp only
    split
    · rfl
    · split
      · split <;> rfl
      · rfl
      · rfl

theorem pastCheck_readControl
    (reader : ReqResMessageReader) (messages : List ReqResMessage) :
    (task.readControl reader messages).pastCheck = false := by
  unfold StreamTask.readControl StreamTask.handleSessionControlMessages
  split
  · rfl
  · rfl
  · split <;> rfl

/-- A request passes the check of a session that is not authenticated. -/
theorem pastCheck_authenticateSessionControl
    {session : RpcSessionState} {mechanism : String} {payload : List UInt8}
    (past : (task.authenticateSessionControl session mechanism
      payload).pastCheck = true) :
    session.authenticatedClientId = none := by
  unfold StreamTask.authenticateSessionControl at past
  split at past
  · cases past
  · rename_i unauthenticated
    exact Option.not_isSome_iff_eq_none.mp unauthenticated

theorem pastCheck_readSecond
    (dispatcher : Dispatcher) (procId : UInt64)
    (payload : Option (List UInt8)) (reader : ReqResMessageReader) :
    (task.readSecond dispatcher procId payload reader).pastCheck = false := by
  unfold StreamTask.readSecond
  split
  · rfl
  · rfl
  · split <;> rfl

theorem request_readSecond
    (dispatcher : Dispatcher) (procId : UInt64)
    (payload : Option (List UInt8)) (reader : ReqResMessageReader) :
    (task.readSecond dispatcher procId payload reader).request =
      task.request := by
  unfold StreamTask.readSecond
  split
  · rfl
  · rfl
  · split <;> rfl

theorem pastCheck_dispatch
    (session : RpcSessionState) (dispatcher : Dispatcher) (procId : UInt64)
    (payload : Option (List UInt8)) :
    (task.dispatch platform session dispatcher procId payload).pastCheck =
      false := by
  unfold StreamTask.dispatch
  split <;> rfl

theorem silent_readSecond
    (dispatcher : Dispatcher) (procId : UInt64)
    (payload : Option (List UInt8)) (reader : ReqResMessageReader)
    (silent : task.sent = []) :
    Silent (task.readSecond dispatcher procId payload reader) := by
  unfold StreamTask.readSecond
  split
  · trivial
  · exact silent
  · split <;> trivial

theorem silent_dispatch
    (session : RpcSessionState) (dispatcher : Dispatcher) (procId : UInt64)
    (payload : Option (List UInt8)) :
    Silent (task.dispatch platform session dispatcher procId payload) := by
  unfold StreamTask.dispatch
  split <;> trivial

/-- What an action does to the identity of the task's session: nothing, or it
authenticates the session. -/
theorem advance_identity {input : StreamInput ω}
    (consistent : Consistent task) (silent : Silent task)
    (acted : advanceStream platform shared task input = some (after, next)) :
    KeepsIdentity shared after task next ∨
      ∃ credential session, task.stage = .install credential ∧
        shared.sessions[task.session]? = some session ∧
        after.sessions = shared.sessions.set task.session
          { session with
            authenticatedClientId := some credential.credentialId } ∧
        next = task.moveTo .installed := by
  cases input with
  | fail =>
      cases acted
      refine Or.inl ⟨rfl, rfl, (by rintro ⟨⟩), ?_, trivial⟩
      rintro ⟨asked, impossible | answered⟩
      · cases impossible
      · exact ⟨asked, Or.inr answered⟩
  | handle effect =>
      simp only [advanceStream] at acted
      split at acted
      · rename_i request stage
        cases acted
        simp only [Consistent, stage] at consistent
        refine Or.inl (.of_procId consistent rfl rfl ?_ ?_)
        · unfold StreamTask.pastCheck
          dsimp only
          cases effect.finished <;> simp [stage]
        · unfold Silent
          dsimp only
          cases effect.finished <;> simp [stage]
      · cases acted
  | proceed nowUnix =>
      simp only [advanceStream] at acted
      split at acted
      · rename_i reader stage
        cases acted
        simp only [Silent, stage] at silent
        apply Or.inl
        apply KeepsIdentity.of_declines (session_readFirst reader) silent
          (declines_readFirst reader)
        simp [pastCheck_readFirst]
      · rename_i reader messages stage
        cases acted
        simp only [Silent, stage] at silent
        apply Or.inl
        apply KeepsIdentity.of_declines (session_readControl reader messages)
          silent (declines_readControl reader messages)
        simp [pastCheck_readControl]
      · rename_i mechanism payload stage
        obtain ⟨session, found, same⟩ := Option.map_eq_some_iff.mp acted
        cases same
        simp only [Silent, stage] at silent
        apply Or.inl
        apply KeepsIdentity.of_declines
          (session_authenticateSessionControl session mechanism payload)
          silent (declines_authenticateSessionControl _ _ _)
        intro past
        left
        simp [HostState.identity, found,
          pastCheck_authenticateSessionControl past]
      · rename_i credential stage
        cases acted
        simp only [Silent, stage] at silent
        apply Or.inl
        apply KeepsIdentity.of_declines (session_verifyCredential _ _ _ _)
          silent (declines_verifyCredential _ _ _ _)
        intro _
        right
        simp [StreamTask.pastCheck, stage]
      · rename_i credential stage
        obtain ⟨session, found, same⟩ := Option.map_eq_some_iff.mp acted
        cases same
        exact Or.inr ⟨credential, session, stage, found, rfl, rfl⟩
      · rename_i stage
        cases acted
        exact Or.inl ⟨rfl, rfl, (by rintro ⟨⟩),
          fun succeeded => ⟨succeeded.1, Or.inl stage⟩, trivial⟩
      · rename_i dispatcher procId payload reader stage
        cases acted
        simp only [Silent, stage] at silent
        simp only [Consistent, stage] at consistent
        rw [← request_readSecond dispatcher procId payload reader]
          at consistent
        exact Or.inl (.of_procId consistent rfl (session_readSecond _ _ _ _)
          (pastCheck_readSecond _ _ _ _) (silent_readSecond _ _ _ _ silent))
      · rename_i dispatcher procId payload stage
        obtain ⟨session, found, same⟩ := Option.map_eq_some_iff.mp acted
        cases same
        simp only [Consistent, stage] at consistent
        rw [← request_dispatch platform session dispatcher procId payload]
          at consistent
        exact Or.inl (.of_procId consistent rfl (session_dispatch _ _ _ _ _)
          (pastCheck_dispatch _ _ _ _) (silent_dispatch _ _ _ _))
      · cases acted
      · cases acted

/-- On an authenticated session, a request that has not passed the check is
answered that the session is authenticated. -/
theorem advance_authenticated {nowUnix : Int}
    (waiting : task.asks = true) (before : task.pastCheck = false)
    (authenticated : (shared.identity task.session).isSome = true)
    (acted : advanceStream platform shared task (.proceed nowUnix) =
      some (after, next)) :
    next = task.reply alreadyAuthenticatedMessage := by
  unfold StreamTask.asks at waiting
  unfold StreamTask.pastCheck at before
  split at waiting
  · rename_i mechanism payload stage
    simp only [advanceStream, stage] at acted
    obtain ⟨session, found, same⟩ := Option.map_eq_some_iff.mp acted
    cases same
    simp only [HostState.identity, found, Option.bind_some] at authenticated
    unfold StreamTask.authenticateSessionControl
    rw [if_pos authenticated]
    rfl
  · rename_i stage
    simp [stage] at before
  · rename_i stage
    simp [stage] at before
  · cases waiting

end Step

/-! ## The invariant -/

/-- An authenticated session has no request that has passed its check, and one
request that has succeeded. -/
structure OneIdentity (state : HostTasks ρ ω) : Prop where
  consistent : ∀ {stream : Nat} {task : StreamTask ρ},
    state.tasks[stream]? = some task → Consistent task
  silent : ∀ {stream : Nat} {task : StreamTask ρ},
    state.tasks[stream]? = some task → Silent task
  past : ∀ {stream : Nat} {task : StreamTask ρ},
    state.tasks[stream]? = some task → task.pastCheck = true →
      state.shared.identity task.session = none
  success : ∀ {stream : Nat} {task : StreamTask ρ},
    state.tasks[stream]? = some task → task.Succeeded →
      (state.shared.identity task.session).isSome = true
  unique : ∀ {stream other : Nat} {task second : StreamTask ρ},
    state.tasks[stream]? = some task → state.tasks[other]? = some second →
      task.session = second.session → task.Succeeded → second.Succeeded →
        stream = other

namespace OneIdentity

variable {platform : Platform ρ} {state : HostTasks ρ ω}

/-- A new stream has asked for nothing. -/
theorem launch {request : Nat × List (List UInt8)} {started : StreamTask ρ}
    (one : OneIdentity state)
    (launched : acceptStream state.shared request = some started) :
    OneIdentity ⟨state.shared, state.tasks ++ [started]⟩ := by
  unfold acceptStream at launched
  split at launched
  · cases launched
    constructor
    · intro stream task found
      rcases TaskSystem.getElem?_concat_cases found with ⟨-, rfl⟩ | ⟨-, older⟩
      · trivial
      · exact one.consistent older
    · intro stream task found
      rcases TaskSystem.getElem?_concat_cases found with ⟨-, rfl⟩ | ⟨-, older⟩
      · exact rfl
      · exact one.silent older
    · intro stream task found past
      rcases TaskSystem.getElem?_concat_cases found with ⟨-, rfl⟩ | ⟨-, older⟩
      · cases past
      · exact one.past older past
    · intro stream task found succeeded
      rcases TaskSystem.getElem?_concat_cases found with ⟨-, rfl⟩ | ⟨-, older⟩
      · simp [StreamTask.Succeeded] at succeeded
      · exact one.success older succeeded
    · intro stream other task second found present same succeeded again
      rcases TaskSystem.getElem?_concat_cases found with ⟨-, rfl⟩ | ⟨-, older⟩
      · simp [StreamTask.Succeeded] at succeeded
      · rcases TaskSystem.getElem?_concat_cases present with
          ⟨-, rfl⟩ | ⟨-, elder⟩
        · simp [StreamTask.Succeeded] at again
        · exact one.unique older elder same succeeded again
  · cases launched

/-- A new session has no identity. -/
theorem identity_connect (shared : HostState ω) (session : Nat) :
    ({ shared with
        nextRpcSessionId := shared.nextRpcSessionId + 1
        sessions := shared.sessions ++ [⟨shared.nextRpcSessionId, none⟩] } :
      HostState ω).identity session = shared.identity session := by
  unfold HostState.identity
  rcases Nat.lt_trichotomy session shared.sessions.length with
    inside | rfl | outside
  · rw [List.getElem?_append_left inside]
  · simp
  · have beyond : (shared.sessions ++
        [⟨shared.nextRpcSessionId, none⟩])[session]? = none := by
      apply List.getElem?_eq_none
      simp only [List.length_append, List.length_singleton]
      omega
    have before : shared.sessions[session]? = none :=
      List.getElem?_eq_none (Nat.le_of_lt outside)
    dsimp only
    rw [beyond, before]

/-- A new session has no identity. -/
theorem connect (one : OneIdentity state) :
    OneIdentity
      ({ state with
        shared := { state.shared with
          nextRpcSessionId := state.shared.nextRpcSessionId + 1
          sessions := state.shared.sessions ++
            [⟨state.shared.nextRpcSessionId, none⟩] } } :
        HostTasks ρ ω) where
  consistent := one.consistent
  silent := one.silent
  past := by
    intro stream task found past
    rw [identity_connect]
    exact one.past found past
  success := by
    intro stream task found succeeded
    rw [identity_connect]
    exact one.success found succeeded
  unique := one.unique

/-- The identities after one session is authenticated. -/
theorem identity_set {shared after : HostState ω} {session : Nat}
    {former updated : RpcSessionState}
    (found : shared.sessions[session]? = some former)
    (sessions : after.sessions = shared.sessions.set session updated)
    (other : Nat) :
    after.identity other =
      if other = session then updated.authenticatedClientId
      else shared.identity other := by
  have inside := (List.getElem?_eq_some_iff.mp found).1
  unfold HostState.identity
  rw [sessions]
  by_cases same : other = session
  · subst same
    rw [List.getElem?_set_self inside, if_pos rfl]
    rfl
  · rw [List.getElem?_set_ne (Ne.symm same), if_neg same]

/-- An action that leaves the sessions as they are keeps the invariant. -/
theorem keep {stream : Nat} {task after : StreamTask ρ} {shared : HostState ω}
    (one : OneIdentity state)
    (found : state.tasks[stream]? = some task)
    (consistent : Consistent after)
    (keeps : KeepsIdentity state.shared shared task after) :
    OneIdentity ⟨shared, state.tasks.set stream after⟩ := by
  have identity : shared.identity = state.shared.identity := by
    funext session
    unfold HostState.identity
    rw [keeps.sessions]
  constructor
  · intro other second lookup
    rcases TaskSystem.getElem?_set_cases lookup with ⟨rfl, rfl⟩ | ⟨-, older⟩
    · exact consistent
    · exact one.consistent older
  · intro other second lookup
    rcases TaskSystem.getElem?_set_cases lookup with ⟨rfl, rfl⟩ | ⟨-, older⟩
    · exact keeps.silent
    · exact one.silent older
  · intro other second lookup past
    rw [identity]
    rcases TaskSystem.getElem?_set_cases lookup with ⟨rfl, rfl⟩ | ⟨-, older⟩
    · rw [keeps.session]
      rcases keeps.past past with unauthenticated | before
      · exact unauthenticated
      · exact one.past found before
    · exact one.past older past
  · intro other second lookup succeeded
    rw [identity]
    rcases TaskSystem.getElem?_set_cases lookup with ⟨rfl, rfl⟩ | ⟨-, older⟩
    · rw [keeps.session]
      exact one.success found (keeps.success succeeded)
    · exact one.success older succeeded
  · intro first second early late lookup present same succeeded again
    rcases TaskSystem.getElem?_set_cases lookup with
      ⟨rfl, rfl⟩ | ⟨apart, older⟩
    · rcases TaskSystem.getElem?_set_cases present with
        ⟨rfl, rfl⟩ | ⟨-, elder⟩
      · rfl
      · rw [keeps.session] at same
        exact one.unique found elder same (keeps.success succeeded) again
    · rcases TaskSystem.getElem?_set_cases present with
        ⟨rfl, rfl⟩ | ⟨-, elder⟩
      · rw [keeps.session] at same
        exact one.unique older found same succeeded (keeps.success again)
      · exact one.unique older elder same succeeded again

/-- A request that authenticates its session keeps the invariant, if no other
request is between its check and its answer. -/
theorem install {stream : Nat} {task : StreamTask ρ} {shared : HostState ω}
    {credential : PairedSecretCredential} {session : RpcSessionState}
    (one : OneIdentity state)
    (found : state.tasks[stream]? = some task)
    (stage : task.stage = .install credential)
    (present : state.shared.sessions[task.session]? = some session)
    (sessions : shared.sessions = state.shared.sessions.set task.session
      { session with authenticatedClientId := some credential.credentialId })
    (alone : ∀ {other : Nat} {second : StreamTask ρ}, other ≠ stream →
      state.tasks[other]? = some second → second.session = task.session →
        second.pastCheck = false) :
    OneIdentity
      ⟨shared, state.tasks.set stream (task.moveTo .installed)⟩ := by
  have identity := identity_set present sessions
  have unauthenticated := one.past found (by simp [StreamTask.pastCheck, stage])
  -- No other request on the session has succeeded: it is not authenticated.
  have first {other : Nat} {second : StreamTask ρ}
      (older : state.tasks[other]? = some second)
      (same : second.session = task.session) (succeeded : second.Succeeded) :
      False := by
    have authenticated := one.success older succeeded
    rw [same, unauthenticated] at authenticated
    cases authenticated
  constructor
  · intro other second lookup
    rcases TaskSystem.getElem?_set_cases lookup with ⟨rfl, rfl⟩ | ⟨-, older⟩
    · have presents := one.consistent found
      simp only [Consistent, stage] at presents
      exact ⟨credential, presents⟩
    · exact one.consistent older
  · intro other second lookup
    rcases TaskSystem.getElem?_set_cases lookup with ⟨rfl, rfl⟩ | ⟨-, older⟩
    · have silent := one.silent found
      simp only [Silent, stage] at silent
      exact silent
    · exact one.silent older
  · intro other second lookup past
    rcases TaskSystem.getElem?_set_cases lookup with
      ⟨rfl, rfl⟩ | ⟨apart, older⟩
    · cases past
    · dsimp only
      rw [identity]
      by_cases same : second.session = task.session
      · rw [alone apart older same] at past
        cases past
      · rw [if_neg same]
        exact one.past older past
  · intro other second lookup succeeded
    dsimp only
    rw [identity]
    by_cases same : second.session = task.session
    · rw [if_pos same]
      rfl
    · rw [if_neg same]
      rcases TaskSystem.getElem?_set_cases lookup with ⟨rfl, rfl⟩ | ⟨-, older⟩
      · exact absurd rfl same
      · exact one.success older succeeded
  · intro other another early late lookup there same succeeded again
    rcases TaskSystem.getElem?_set_cases lookup with
      ⟨rfl, rfl⟩ | ⟨-, older⟩
    · rcases TaskSystem.getElem?_set_cases there with ⟨rfl, rfl⟩ | ⟨-, elder⟩
      · rfl
      · exact (first elder same.symm again).elim
    · rcases TaskSystem.getElem?_set_cases there with ⟨rfl, rfl⟩ | ⟨-, elder⟩
      · exact (first older same succeeded).elim
      · exact one.unique older elder same succeeded again

/-- A step that overtakes no request keeps the invariant. -/
theorem step {event : HostEvent ω} {next : HostTasks ρ ω}
    (one : OneIdentity state)
    (alone : overtakes state event = false)
    (taken : (host platform).step state event = some next) :
    OneIdentity next := by
  cases event with
  | launch request =>
      obtain ⟨started, launched, rfl⟩ :=
        TaskSystem.step_launch_eq_some.mp taken
      exact one.launch launched
  | disturb cause =>
      obtain ⟨shared, disturbed, rfl⟩ :=
        TaskSystem.step_disturb_eq_some.mp taken
      cases disturbed
      exact one.connect
  | advance stream input =>
      obtain ⟨task, shared, after, found, acted, rfl⟩ :=
        TaskSystem.step_advance_eq_some.mp taken
      have consistent := one.consistent found
      rcases advance_identity consistent (one.silent found) acted with
        keeps | ⟨credential, session, stage, present, sessions, rfl⟩
      · exact one.keep found (consistent_advanceStream consistent acted) keeps
      · apply one.install found stage present sessions
        intro other second apart older same
        cases input with
        | proceed nowUnix =>
            simp only [overtakes, found, Option.any_some, StreamTask.installs,
              stage, Bool.true_and, List.any_eq_false, List.mem_range]
              at alone
            have inside := (List.getElem?_eq_some_iff.mp older).1
            simpa [apart, older, same] using alone other inside
        | handle effect => simp [advanceStream, host, stage] at acted
        | fail =>
            have moved := congrArg
              (fun result => result.map fun pair => pair.2.stage) acted
            simp [advanceStream, host, StreamTask.moveTo] at moved

theorem initial (clientCredentials : ClientCredentials) (world : ω) :
    OneIdentity (ρ := ρ) ⟨.initial clientCredentials world, []⟩ := by
  constructor <;> simp

/-- A session keeps its identity. -/
theorem identity_kept {event : HostEvent ω} {next : HostTasks ρ ω}
    {session : Nat} {client : String}
    (one : OneIdentity state)
    (taken : (host platform).step state event = some next)
    (authenticated : state.shared.identity session = some client) :
    next.shared.identity session = some client := by
  cases event with
  | launch request =>
      obtain ⟨started, launched, rfl⟩ :=
        TaskSystem.step_launch_eq_some.mp taken
      exact authenticated
  | disturb cause =>
      obtain ⟨shared, disturbed, rfl⟩ :=
        TaskSystem.step_disturb_eq_some.mp taken
      cases disturbed
      exact (identity_connect _ _).trans authenticated
  | advance stream input =>
      obtain ⟨task, shared, after, found, acted, rfl⟩ :=
        TaskSystem.step_advance_eq_some.mp taken
      rcases advance_identity (one.consistent found) (one.silent found)
          acted with
        keeps | ⟨credential, former, stage, present, sessions, rfl⟩
      · unfold HostState.identity
        rw [keeps.sessions]
        exact authenticated
      · have unauthenticated :=
          one.past found (by simp [StreamTask.pastCheck, stage])
        dsimp only
        rw [identity_set present sessions, if_neg]
        · exact authenticated
        · rintro rfl
          rw [unauthenticated] at authenticated
          cases authenticated

/-- A request on an authenticated session is answered so. -/
theorem answered {stream : Nat} {nowUnix : Int} {next : HostTasks ρ ω}
    {task : StreamTask ρ}
    (one : OneIdentity state)
    (taken : (host platform).step state (.advance stream (.proceed nowUnix)) =
      some next)
    (found : state.tasks[stream]? = some task)
    (waiting : task.asks = true)
    (authenticated : (state.shared.identity task.session).isSome = true) :
    next.tasks[stream]? = some (task.reply alreadyAuthenticatedMessage) := by
  obtain ⟨task', shared, after, found', acted, rfl⟩ :=
    TaskSystem.step_advance_eq_some.mp taken
  cases found.symm.trans found'
  have before : task.pastCheck = false := by
    rw [← Bool.not_eq_true]
    intro past
    rw [one.past found past] at authenticated
    cases authenticated
  have inside := (List.getElem?_eq_some_iff.mp found).1
  rw [List.getElem?_set_self inside,
    advance_authenticated waiting before authenticated acted]

end OneIdentity

/-! ## One identity -/

/-- In every run in which no request authenticates a session while another is
between its check and its answer: one request on a session succeeds at most, and
once a session is authenticated, every step keeps its identity and answers
other requests that it is. -/
theorem session_has_one_identity
    (platform : Platform ρ) (clientCredentials : ClientCredentials) (world : ω)
    {history : List (HostEvent ω)} {state : HostTasks ρ ω}
    (reached : run (host platform).step
      ⟨.initial clientCredentials world, []⟩ history = some state)
    (alone : Throughout (host platform).step
      ⟨.initial clientCredentials world, []⟩
      (fun state event => overtakes state event = false) history) :
    (∀ (stream other : Nat) (task second : StreamTask ρ),
      state.tasks[stream]? = some task → state.tasks[other]? = some second →
        task.session = second.session → task.Succeeded → second.Succeeded →
          stream = other) ∧
      ∀ before event after (middle next : HostTasks ρ ω)
        (session : Nat) (client : String),
        history = before ++ event :: after →
        run (host platform).step ⟨.initial clientCredentials world, []⟩
          before = some middle →
        (host platform).step middle event = some next →
        middle.shared.identity session = some client →
          next.shared.identity session = some client ∧
            ∀ stream nowUnix task,
              event = .advance stream (.proceed nowUnix) →
              middle.tasks[stream]? = some task → task.session = session →
              task.asks = true →
                next.tasks[stream]? =
                  some (task.reply alreadyAuthenticatedMessage) := by
  have invariant {early : List (HostEvent ω)} {there : HostTasks ρ ω}
      (reached : run (host platform).step
        ⟨.initial clientCredentials world, []⟩ early = some there)
      (alone : Throughout (host platform).step
        ⟨.initial clientCredentials world, []⟩
        (fun state event => overtakes state event = false) early) :
      OneIdentity there := by
    apply run_invariant_throughout (OneIdentity.initial clientCredentials world)
      _ reached alone
    exact fun _ _ _ _ _ one condition taken => one.step condition taken
  constructor
  · intro stream other task second found present same succeeded again
    exact (invariant reached alone).unique found present same succeeded again
  · rintro before event after middle next session client rfl there taken
      authenticated
    have one := invariant there alone.early
    refine ⟨one.identity_kept taken authenticated, ?_⟩
    rintro stream nowUnix task rfl found rfl waiting
    exact one.answered taken found waiting (by rw [authenticated]; rfl)

/-- Two clients with the same secret. -/
def twoCredentials : ClientCredentials :=
  ⟨[⟨"c", "browser", "BDpxh3TFcr2KJa2-sb_NXAJWrhHOz5-cP5JdDlK-r4k", 0, 1000⟩,
    ⟨"d", "browser", "BDpxh3TFcr2KJa2-sb_NXAJWrhHOz5-cP5JdDlK-r4k", 0,
      1000⟩]⟩

/-- `SessionAuthenticate` with the credential of a client that has a name of one
letter, on a new stream of the first session. -/
def authenticateStream (client : UInt8) : HostEvent Unit :=
  .launch (0,
    [[8, 162, 1, 116, 119, 103, 111, 46, 112, 97, 105, 114, 101, 100, 45,
      115, 101, 99, 114, 101, 116, 46, 118, 49, 2, 71, 162, 1, 97, client, 2,
      97, 115]])

/-- A stream goes on some times. -/
def streamProceeds (stream count : Nat) : List (HostEvent Unit) :=
  List.replicate count (.advance stream (.proceed 10))

/-- Two streams present the secret, one after the other. -/
def serialHistory : List (HostEvent Unit) :=
  .disturb () :: authenticateStream 99 :: authenticateStream 100 ::
    (streamProceeds 0 6 ++ streamProceeds 1 2)

/-- The second client's request is answered after the first's. -/
theorem session_has_one_identity_serial :
    ∃ state task,
      run (host pairedPlatform).step ⟨.initial twoCredentials (), []⟩
          serialHistory = some state ∧
        state.shared.identity 0 = some "c" ∧
        state.tasks[1]? = some task ∧ task.asks = true ∧
        ∀ (next : HostTasks Unit Unit),
          (host pairedPlatform).step state (.advance 1 (.proceed 10)) =
              some next →
            next.shared.identity 0 = some "c" ∧
              next.tasks[1]? =
                some (task.reply alreadyAuthenticatedMessage) := by
  have ends : (run (host pairedPlatform).step
      ⟨.initial twoCredentials (), []⟩ serialHistory).map (fun state =>
        (state.shared.identity 0,
          state.tasks[1]?.map fun task => (task.asks, task.session))) =
      some (some "c", some (true, 0)) := by
    decide +kernel
  obtain ⟨state, reached, values⟩ := Option.map_eq_some_iff.mp ends
  simp only [Prod.mk.injEq, Option.map_eq_some_iff] at values
  obtain ⟨authenticated, task, found, waiting, session⟩ := values
  refine ⟨state, task, reached, authenticated, found, waiting, ?_⟩
  intro next taken
  have whole : run (host pairedPlatform).step
      ⟨.initial twoCredentials (), []⟩
      (serialHistory ++ [.advance 1 (.proceed 10)]) = some next :=
    run_concat_eq_some.mpr ⟨state, reached, taken⟩
  have guarantee := session_has_one_identity pairedPlatform twoCredentials ()
    whole (throughout_of_checkEach_eq_false (by decide +kernel))
  obtain ⟨same, answered⟩ := guarantee.2 serialHistory _ [] state next 0 "c"
    rfl reached taken authenticated
  exact ⟨same, answered 1 10 task rfl found session waiting⟩

/-- Both streams pass the check before either installs its client. -/
def crossedHistory : List (HostEvent Unit) :=
  .disturb () :: authenticateStream 99 :: authenticateStream 100 ::
    (streamProceeds 0 4 ++ streamProceeds 1 4 ++ streamProceeds 0 2)

/-- Two requests that have both passed the check both succeed, and the second
changes the identity of the session. -/
theorem session_changes_identity :
    (run (host pairedPlatform).step ⟨.initial twoCredentials (), []⟩
        crossedHistory).map (fun state => state.shared.identity 0) =
      some (some "c") ∧
    (run (host pairedPlatform).step ⟨.initial twoCredentials (), []⟩
        (crossedHistory ++ streamProceeds 1 2)).map (fun state =>
          (state.shared.identity 0, state.tasks.map StreamTask.sent)) =
      some (some "d", [[.sessionAuthenticated], [.sessionAuthenticated]]) := by
  decide +kernel

end Host
end WhatsGoingOn
