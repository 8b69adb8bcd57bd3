import WhatsGoingOn.Library.Run

/-!
# The controller of rpc sessions

A controller holds one session of a machine at most.  Its asynchronous
functions are calls that wait for a session to open or for an answer of the
daemon; between two of their steps other calls, and the handlers of the
sessions, may run.  The round-trip times of the datagrams are left out.
-/

namespace WhatsGoingOn
namespace Web

/-- A daemon that the user has added, with the credentials it gave. -/
structure Machine where
  id : String
  name : String
  baseUrl : String
  clientId : Option String
  clientSecret : Option String
  clientCredentialExpiresAtUnix : Option Int
  deriving DecidableEq, Repr

/-- The client id of a machine that is paired. -/
def Machine.pairedClientId (machine : Machine) : Option String :=
  if (machine.clientSecret.filter (· != "")).isSome then
    machine.clientId.filter (· != "")
  else none

/-- What the daemon answers to `CompletePairing`. -/
structure IssuedCredentials where
  clientId : String
  clientSecret : String
  clientCredentialExpiresAtUnix : Int
  deriving DecidableEq, Repr

/-- The phase of the connection.  A session has made it reachable. -/
inductive ConnectionPhase where
  | idle
  | reachable (session : Nat)
  | offline
  deriving DecidableEq, Repr

/-- What is known of the daemon.  It has been asked over a session. -/
inductive DaemonInfoState (δ : Type) where
  | idle
  | loading
  | ready (session : Nat) (daemonInfo : δ)
  | error (message : String)
  deriving DecidableEq, Repr

/-- How far `openRpcSession` is. -/
inductive SessionStage where
  | connecting
  | authenticating
  | renewing
  | opened
  | failed
  deriving DecidableEq, Repr

/-- A session that is opened for a machine as it was then. -/
structure ManagedRpcSession where
  machine : Machine
  stage : SessionStage
  authenticatedClientId : Option String
  deriving DecidableEq, Repr

/-- A call of a function of the controller, and what it waits for: the opening
of a session, an answer over it, or the rest of the event loop. -/
inductive Call where
  | openInitialSession (session : Nat)
  | webTransport (session : Nat) (clientId : String)
  | webTransportAuthenticating (session : Nat) (clientId : String)
  | startPairing (session : Nat)
  | startPairingAsked (session : Nat)
  | completePairing (session : Nat)
  | completePairingAsked (session : Nat)
  | completePairingIssued (credentials : IssuedCredentials)
  | completePairingReopening (session : Nat) (credentials : IssuedCredentials)
  | completePairingAuthenticating (session : Nat)
      (credentials : IssuedCredentials)
  | refreshDaemonInfo (session : Nat)
  | refreshDaemonInfoAsked (session : Nat)
  | returned
  | returnedCredentials (credentials : IssuedCredentials)
  | threw
  | threwCredentials (credentials : IssuedCredentials)
  deriving DecidableEq, Repr

/-- What a call goes on with. -/
inductive Answer (δ : Type) where
  | none
  | succeeded
  | credentials (credentials : IssuedCredentials)
  | daemonInfo (daemonInfo : δ)
  | failed (message : String)
  deriving DecidableEq, Repr

/-- A controller.  `machine` is what `getMachine` finds, and a session is
numbered in the order of `openRpcSession`. -/
structure ControllerState (δ : Type) where
  closed : Bool
  pairingStarted : Bool
  rpcSession : Option Nat
  machine : Option Machine
  sessions : List ManagedRpcSession
  calls : List Call
  connection : ConnectionPhase
  daemonInfo : DaemonInfoState δ
  deriving DecidableEq, Repr

/-- What happens to a controller. -/
inductive ControllerInput (δ : Type) where
  | setMachine (machine : Option Machine)
  | close
  | closeRpcSession
  | reconnect
  | webTransport
  | startPairing
  | completePairing
  | advance (session : Nat) (succeeds : Bool)
  | rejected (session : Nat)
  | transportClosed (session : Nat)
  | resume (call : Nat) (answer : Answer δ)
  deriving DecidableEq, Repr

namespace ControllerState

variable {δ : Type}

/-! ## Functions of the controller -/

/-- The session that is held, or a new one, unless the machine is missing. -/
def getRpcSession (state : ControllerState δ) :
    Option (Nat × ControllerState δ) :=
  match state.rpcSession, state.machine with
  | some session, _ => some (session, state)
  | none, none => none
  | none, some machine =>
      some (state.sessions.length,
        { state with
          rpcSession := some state.sessions.length
          sessions := state.sessions ++ [⟨machine, .connecting, none⟩] })

/-- The call is under way. -/
def start (state : ControllerState δ) (call : Call) : ControllerState δ :=
  { state with calls := state.calls ++ [call] }

/-- Neither a connection nor what is known of the daemon is shown. -/
def setConnectionOffline (state : ControllerState δ) : ControllerState δ :=
  { state with connection := .offline, daemonInfo := .idle }

/-- `if (!closed) setConnectionOffline()`. -/
def goOffline (state : ControllerState δ) : ControllerState δ :=
  if state.closed then state else state.setConnectionOffline

/-- Connects to the machine, if there is one. -/
def openInitialSession (state : ControllerState δ) : ControllerState δ :=
  match state.getRpcSession with
  | none => state.goOffline
  | some (session, state) => state.start (.openInitialSession session)

/-- The session is given up. -/
def closeRpcSession (state : ControllerState δ) : ControllerState δ :=
  { state with pairingStarted := false, rpcSession := none }.goOffline

/-- A controller that has just been created. -/
def initial (machine : Option Machine) : ControllerState δ :=
  openInitialSession
    ⟨false, false, none, machine, [], [], .idle, .idle⟩

/-- Once closed, the controller stays closed. -/
def close (state : ControllerState δ) : ControllerState δ :=
  if state.closed then state else { state with closed := true }.closeRpcSession

/-- The session is given up for a new one. -/
def reconnect (state : ControllerState δ) : ControllerState δ :=
  state.closeRpcSession.openInitialSession

/-- `authenticatedRpcSession`. -/
def webTransport (state : ControllerState δ) : ControllerState δ :=
  match state.machine.bind Machine.pairedClientId, state.getRpcSession with
  | some clientId, some (session, state) =>
      state.start (.webTransport session clientId)
  | _, _ => state.start .threw

/-- Asks for a code on the session there is, or on a new one. -/
def startPairing (state : ControllerState δ) : ControllerState δ :=
  match state.machine with
  | none => state.start .threw
  | some _ =>
      match { state with pairingStarted := false }.getRpcSession with
      | none => { state with pairingStarted := false }.start .threw
      | some (session, state) => state.start (.startPairing session)

/-- A code is sent only where one has been asked for on the session. -/
def completePairing (state : ControllerState δ) : ControllerState δ :=
  match state.pairingStarted, state.rpcSession with
  | true, some session => state.start (.completePairing session)
  | _, _ => state.start .threw

/-- An error is shown unless the controller is closed. -/
def failRefresh (state : ControllerState δ) (message : String) :
    ControllerState δ :=
  if state.closed then state else { state with daemonInfo := .error message }

/-- `refreshDaemonInfoForCurrentMachine`, up to its first wait. -/
def refreshDaemonInfo (state : ControllerState δ) : ControllerState δ :=
  match state.getRpcSession with
  | none => state.failRefresh "missing machine"
  | some (session, state) => state.start (.refreshDaemonInfo session)

/-- Whether a session is the one that the controller holds. -/
def isControllerRpcSession (state : ControllerState δ) (session : Nat) :
    Bool :=
  !state.closed && state.rpcSession == some session

/-! ## Sessions -/

/-- Changes a session. -/
def setSession (state : ControllerState δ) (session : Nat)
    (managed : ManagedRpcSession) : ControllerState δ :=
  { state with sessions := state.sessions.set session managed }

/-- How far a session is. -/
def stageOf (state : ControllerState δ) (session : Nat) :
    Option SessionStage :=
  state.sessions[session]?.map ManagedRpcSession.stage

/-- The session was authenticated with the client's credential. -/
def isAuthenticated (state : ControllerState δ) (session : Nat)
    (clientId : String) : Bool :=
  (state.sessions[session]?.bind ManagedRpcSession.authenticatedClientId) ==
    some clientId

/-- The session has been authenticated with the client's credential. -/
def setAuthenticated (state : ControllerState δ) (session : Nat)
    (clientId : String) : ControllerState δ :=
  match state.sessions[session]? with
  | none => state
  | some managed =>
      state.setSession session
        { managed with authenticatedClientId := some clientId }

/-- The end of `openRpcSession`. -/
def finishOpening (state : ControllerState δ) (session : Nat)
    (managed : ManagedRpcSession) : ControllerState δ :=
  { state.setSession session { managed with stage := .opened } with
    connection := .reachable session
    daemonInfo := .loading }.refreshDaemonInfo

/-- What `openRpcSession` has waited for has happened or failed. -/
def advance (state : ControllerState δ) (session : Nat) (succeeds : Bool) :
    Option (ControllerState δ) :=
  match state.sessions[session]? with
  | none => none
  | some managed =>
      let fail := state.setSession session { managed with stage := .failed }
      match managed.stage with
      | .connecting =>
          if !succeeds || state.closed then some fail
          else if managed.machine.pairedClientId.isSome then
            some (state.setSession session
              { managed with stage := .authenticating })
          else some (state.finishOpening session managed)
      | .authenticating =>
          if !succeeds || state.closed then some fail
          else
            some (state.setSession session
              { managed with
                stage := .renewing
                authenticatedClientId := managed.machine.pairedClientId })
      | .renewing =>
          -- a renewal that fails does not matter
          if state.closed then some fail
          else some (state.finishOpening session managed)
      | .opened | .failed => none

/-- The handlers of `getRpcSession` clear the session when it is held. -/
def clear (state : ControllerState δ) (session : Nat) : ControllerState δ :=
  if state.rpcSession = some session then
    { state with rpcSession := none }.goOffline
  else state

/-- The handler of a transport that is closed looks whether the controller is
closed first. -/
def handleTransportClosed (state : ControllerState δ) (session : Nat) :
    ControllerState δ :=
  if state.closed then state else state.clear session

/-! ## Calls -/

/-- Changes a call. -/
def setCall (state : ControllerState δ) (index : Nat) (call : Call) :
    ControllerState δ :=
  { state with calls := state.calls.set index call }

/-- Go on with a call when the session that it waits for has opened or failed. -/
def whenOpened (state : ControllerState δ) (session : Nat)
    (opened failed : ControllerState δ) : Option (ControllerState δ) :=
  match state.stageOf session with
  | some .opened => some opened
  | some .failed => some failed
  | _ => none

/-- What a call goes on to do with what it has waited for. -/
def resume (state : ControllerState δ) (index : Nat) :
    Call → Answer δ → Option (ControllerState δ)
  | .openInitialSession session, .none =>
      state.whenOpened session (state.setCall index .returned)
        (state.goOffline.setCall index .returned)
  | .webTransport session clientId, .none =>
      state.whenOpened session
        (state.setCall index
          (if state.isAuthenticated session clientId then .returned
          else .webTransportAuthenticating session clientId))
        (state.setCall index .threw)
  | .webTransportAuthenticating session clientId, .succeeded =>
      some ((state.setAuthenticated session clientId).setCall index .returned)
  | .webTransportAuthenticating _ _, .failed _ =>
      some (state.setCall index .threw)
  | .startPairing session, .none =>
      state.whenOpened session
        (state.setCall index
          (if state.isControllerRpcSession session then
            .startPairingAsked session
          else .threw))
        (state.setCall index .threw)
  | .startPairingAsked _, .succeeded =>
      some ({ state with pairingStarted := true }.setCall index .returned)
  | .startPairingAsked _, .failed _ => some (state.setCall index .threw)
  | .completePairing session, .none =>
      state.whenOpened session
        (state.setCall index
          (if state.isControllerRpcSession session then
            .completePairingAsked session
          else .threw))
        (state.setCall index .threw)
  | .completePairingAsked _, .credentials credentials =>
      some (state.setCall index (.completePairingIssued credentials))
  | .completePairingAsked _, .failed _ => some (state.setCall index .threw)
  | .completePairingIssued credentials, .none =>
      some (state.setCall index
        (match state.rpcSession with
        | some session => .completePairingReopening session credentials
        | none => .threwCredentials credentials))
  | .completePairingReopening session credentials, .none =>
      state.whenOpened session
        (state.setCall index
          (if state.isAuthenticated session credentials.clientId then
            .returnedCredentials credentials
          else .completePairingAuthenticating session credentials))
        (state.setCall index (.threwCredentials credentials))
  | .completePairingAuthenticating session credentials, .succeeded =>
      some ((state.setAuthenticated session credentials.clientId).setCall index
        (.returnedCredentials credentials))
  | .completePairingAuthenticating _ credentials, .failed _ =>
      some (state.setCall index (.threwCredentials credentials))
  | .refreshDaemonInfo session, .none =>
      if state.stageOf session = some .opened then
        some (state.setCall index
          (if state.closed then .returned
          else .refreshDaemonInfoAsked session))
      else none
  | .refreshDaemonInfo session, .failed message =>
      if state.stageOf session = some .failed then
        some ((state.failRefresh message).setCall index .returned)
      else none
  | .refreshDaemonInfoAsked session, .daemonInfo daemonInfo =>
      some ((if state.closed then state
        else { state with
          daemonInfo := .ready session daemonInfo }).setCall index .returned)
  | .refreshDaemonInfoAsked _, .failed message =>
      some ((state.failRefresh message).setCall index .returned)
  | _, _ => none

/-- One step of a controller. -/
def step (state : ControllerState δ) :
    ControllerInput δ → Option (ControllerState δ)
  | .setMachine machine => some { state with machine }
  | .close => some state.close
  | .closeRpcSession => some state.closeRpcSession
  | .reconnect => some state.reconnect
  | .webTransport => some state.webTransport
  | .startPairing => some state.startPairing
  | .completePairing => some state.completePairing
  | .advance session succeeds => state.advance session succeeds
  | .rejected session =>
      if state.stageOf session = some .failed then some (state.clear session)
      else none
  | .transportClosed session =>
      if state.stageOf session = some .opened then
        some (state.handleTransportClosed session)
      else none
  | .resume index answer =>
      state.calls[index]?.bind fun call => state.resume index call answer

/-! ## What a step changes -/

variable {state next : ControllerState δ}

/-- A step of `openRpcSession` changes the session only, for the machine that it
has, or it ends it. -/
theorem advance_cases {session : Nat} {succeeds : Bool}
    (taken : state.advance session succeeds = some next) :
    ∃ managed, state.sessions[session]? = some managed ∧
      ((∃ stage authenticatedClientId,
          next = state.setSession session
            { managed with stage, authenticatedClientId }) ∨
        (state.closed = false ∧
          (managed.stage = .connecting ∧ succeeds = true ∧
              managed.machine.pairedClientId = none ∨
            managed.stage = .renewing) ∧
          next = state.finishOpening session managed)) := by
  unfold advance at taken
  split at taken
  · cases taken
  · rename_i managed found
    refine ⟨managed, found, ?_⟩
    dsimp only at taken
    split at taken
    · rename_i stage
      split at taken
      · cases taken
        exact Or.inl ⟨_, _, rfl⟩
      · rename_i goes
        simp only [Bool.or_eq_true, Bool.not_eq_true', not_or,
          Bool.not_eq_false, Bool.not_eq_true] at goes
        split at taken
        · cases taken
          exact Or.inl ⟨_, _, rfl⟩
        · rename_i unpaired
          cases taken
          rw [Option.not_isSome_iff_eq_none] at unpaired
          exact Or.inr ⟨goes.2, Or.inl ⟨stage, goes.1, unpaired⟩, rfl⟩
    · split at taken <;> cases taken <;> exact Or.inl ⟨_, _, rfl⟩
    · rename_i stage
      split at taken
      · cases taken
        exact Or.inl ⟨_, _, rfl⟩
      · rename_i notClosed
        cases taken
        exact Or.inr ⟨Bool.not_eq_true _ ▸ notClosed, Or.inr stage, rfl⟩
    · cases taken
    · cases taken

/-- What a call changes besides itself when it goes on. -/
inductive Resumes (state : ControllerState δ) :
    Call → ControllerState δ → Prop
  | itself (call : Call) : Resumes state call state
  | offline {session : Nat} (failed : state.stageOf session = some .failed) :
      Resumes state (.openInitialSession session) state.goOffline
  | authenticated (call : Call) (session : Nat) (clientId : String) :
      Resumes state call (state.setAuthenticated session clientId)
  | paired (call : Call) :
      Resumes state call { state with pairingStarted := true }
  | unknown {call : Call} {session : Nat} (message : String)
      (refreshes : call = .refreshDaemonInfo session ∧
          state.stageOf session = some .failed ∨
        call = .refreshDaemonInfoAsked session) :
      Resumes state call (state.failRefresh message)
  | refreshed (session : Nat) (daemonInfo : δ) :
      Resumes state (.refreshDaemonInfoAsked session)
        (if state.closed then state
        else { state with daemonInfo := .ready session daemonInfo })

/-- A call goes on, and what it changes besides itself. -/
theorem resume_cases {index : Nat} {call : Call} {answer : Answer δ}
    (taken : state.resume index call answer = some next) :
    ∃ base done, state.Resumes call base ∧ next = base.setCall index done := by
  have opened {session : Nat} {done other : Call}
      (taken : state.whenOpened session (state.setCall index done)
        (state.setCall index other) = some next) :
      ∃ base done, state.Resumes call base ∧
        next = base.setCall index done := by
    unfold whenOpened at taken
    split at taken <;> cases taken <;> exact ⟨state, _, .itself call, rfl⟩
  unfold resume at taken
  split at taken
  · unfold whenOpened at taken
    split at taken
    · cases taken
      exact ⟨state, _, .itself _, rfl⟩
    · rename_i failed
      cases taken
      exact ⟨_, _, .offline failed, rfl⟩
    · cases taken
  · exact opened taken
  · cases taken
    exact ⟨_, _, .authenticated _ _ _, rfl⟩
  · cases taken
    exact ⟨state, _, .itself _, rfl⟩
  · exact opened taken
  · cases taken
    exact ⟨_, _, .paired _, rfl⟩
  · cases taken
    exact ⟨state, _, .itself _, rfl⟩
  · exact opened taken
  · cases taken
    exact ⟨state, _, .itself _, rfl⟩
  · cases taken
    exact ⟨state, _, .itself _, rfl⟩
  · cases taken
    exact ⟨state, _, .itself _, rfl⟩
  · exact opened taken
  · cases taken
    exact ⟨_, _, .authenticated _ _ _, rfl⟩
  · cases taken
    exact ⟨state, _, .itself _, rfl⟩
  · split at taken <;> cases taken
    exact ⟨state, _, .itself _, rfl⟩
  · split at taken
    · rename_i failed
      cases taken
      exact ⟨_, _, .unknown _ (Or.inl ⟨rfl, failed⟩), rfl⟩
    · cases taken
  · cases taken
    exact ⟨_, _, .refreshed _ _, rfl⟩
  · cases taken
    exact ⟨_, _, .unknown _ (Or.inr rfl), rfl⟩
  · cases taken

end ControllerState

end Web
end WhatsGoingOn
