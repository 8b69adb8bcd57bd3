import WhatsGoingOn.Web.RpcSession

/-!
# The status of the session that is held

The status of the connection and of the daemon is that of the session that the
controller holds, as long as no opening and no answer is late: one that belongs
to a session the controller no longer holds.
-/

namespace WhatsGoingOn
namespace Web

/-- The session that a call waits for, or for whose answer it waits. -/
def Call.session : Call → Option Nat
  | .openInitialSession session | .webTransport session _
  | .webTransportAuthenticating session _ | .startPairing session
  | .startPairingAsked session | .completePairing session
  | .completePairingAsked session | .completePairingReopening session _
  | .completePairingAuthenticating session _ | .refreshDaemonInfo session
  | .refreshDaemonInfoAsked session => some session
  | _ => none

namespace ControllerState

variable {δ : Type} {state next : ControllerState δ}

/-- The session to which something that ends or fails belongs. -/
def owner (state : ControllerState δ) : ControllerInput δ → Option Nat
  | .advance session _ | .rejected session | .transportClosed session =>
      some session
  | .resume index _ => state.calls[index]?.bind Call.session
  | _ => none

/-- The state is already the one that `setConnectionOffline` sets. -/
def isOffline (state : ControllerState δ) : Bool :=
  match state.connection, state.daemonInfo with
  | .offline, .idle => true
  | _, _ => false

/-- The step ends `openRpcSession`. -/
def finishes (state : ControllerState δ) (session : Nat) (succeeds : Bool) :
    Bool :=
  match state.sessions[session]? with
  | none => false
  | some managed =>
      match managed.stage with
      | .connecting => succeeds && managed.machine.pairedClientId.isNone
      | .renewing => true
      | _ => false

/-- An opening ends, a question about the daemon is answered or fails, or a
session that was to be opened first has failed while the status is another,
and the session is not the one that is held. -/
def intrudes (state : ControllerState δ) (input : ControllerInput δ) : Bool :=
  !state.closed &&
    match input with
    | .advance session succeeds =>
        state.rpcSession != some session && state.finishes session succeeds
    | .resume index _ =>
        match state.calls[index]? with
        | some (.openInitialSession session) =>
            state.rpcSession != some session &&
              state.stageOf session == some .failed && !state.isOffline
        | some (.refreshDaemonInfo session) =>
            state.rpcSession != some session &&
              state.stageOf session == some .failed
        | some (.refreshDaemonInfoAsked session) =>
            state.rpcSession != some session
        | _ => false
    | _ => false

/-- The status of a controller that is not closed is that of the session that it
holds. -/
structure StatusHeld (state : ControllerState δ) : Prop where
  connection : state.closed = false → ∀ session,
    state.connection = .reachable session → state.rpcSession = some session
  daemonInfo : state.closed = false → ∀ session daemonInfo,
    state.daemonInfo = .ready session daemonInfo →
      state.rpcSession = some session

/-- Nothing that is shown changes, and no session is opened. -/
def Undisturbed (state next : ControllerState δ) : Prop :=
  next.connection = state.connection ∧ next.daemonInfo = state.daemonInfo ∧
    next.sessions.length = state.sessions.length

/-! ## The functions of the controller -/

/-- The status depends on four fields only. -/
theorem StatusHeld.congr
    (held : StatusHeld state)
    (closed : next.closed = state.closed)
    (rpcSession : next.rpcSession = state.rpcSession)
    (connection : next.connection = state.connection)
    (daemonInfo : next.daemonInfo = state.daemonInfo) :
    StatusHeld next where
  connection := by
    rw [closed, rpcSession, connection]
    exact held.connection
  daemonInfo := by
    rw [closed, rpcSession, daemonInfo]
    exact held.daemonInfo

theorem StatusHeld.goOffline (state : ControllerState δ) :
    StatusHeld state.goOffline := by
  unfold ControllerState.goOffline
  split
  · rename_i closed
    constructor <;> simp [closed]
  · constructor <;> simp [setConnectionOffline]

theorem StatusHeld.closeRpcSession (state : ControllerState δ) :
    StatusHeld state.closeRpcSession :=
  StatusHeld.goOffline _

/-- The session that is held is not opened again, and a new one is opened only
when there is no status. -/
theorem StatusHeld.getRpcSession {session : Nat}
    (held : StatusHeld state)
    (got : state.getRpcSession = some (session, next)) :
    StatusHeld next := by
  unfold ControllerState.getRpcSession at got
  split at got
  · cases got
    exact held
  · cases got
  · rename_i none machine
    cases got
    constructor
    · intro closed session reachable
      have present := held.connection closed session reachable
      rw [none] at present
      cases present
    · intro closed session daemonInfo ready
      have present := held.daemonInfo closed session daemonInfo ready
      rw [none] at present
      cases present

theorem StatusHeld.start (held : StatusHeld state) (call : Call) :
    StatusHeld (state.start call) :=
  held.congr rfl rfl rfl rfl

theorem StatusHeld.setCall (held : StatusHeld state)
    (index : Nat) (call : Call) : StatusHeld (state.setCall index call) :=
  held.congr rfl rfl rfl rfl

theorem StatusHeld.setSession (held : StatusHeld state)
    (session : Nat) (managed : ManagedRpcSession) :
    StatusHeld (state.setSession session managed) :=
  held.congr rfl rfl rfl rfl

theorem StatusHeld.setAuthenticated (held : StatusHeld state)
    (session : Nat) (clientId : String) :
    StatusHeld (state.setAuthenticated session clientId) := by
  unfold ControllerState.setAuthenticated
  split
  · exact held
  · exact held.setSession _ _

theorem StatusHeld.openInitialSession (held : StatusHeld state) :
    StatusHeld state.openInitialSession := by
  unfold ControllerState.openInitialSession
  split
  · exact StatusHeld.goOffline state
  · rename_i got
    exact (held.getRpcSession got).start _

theorem StatusHeld.initial (machine : Option Machine) :
    StatusHeld (initial machine : ControllerState δ) :=
  StatusHeld.openInitialSession ⟨nofun, nofun⟩

theorem StatusHeld.clear (held : StatusHeld state) (session : Nat) :
    StatusHeld (state.clear session) := by
  unfold ControllerState.clear
  split
  · exact StatusHeld.goOffline _
  · exact held

theorem StatusHeld.failRefresh (held : StatusHeld state) (message : String) :
    StatusHeld (state.failRefresh message) := by
  unfold ControllerState.failRefresh
  split
  · exact held
  · exact ⟨held.connection, nofun⟩

/-- The session that is held is the one that a refresh asks. -/
theorem StatusHeld.finishOpening {session : Nat} {managed : ManagedRpcSession}
    (isHeld : state.rpcSession = some session) :
    StatusHeld (state.finishOpening session managed) := by
  unfold ControllerState.finishOpening ControllerState.refreshDaemonInfo
    ControllerState.getRpcSession
  simp only [ControllerState.setSession, isHeld]
  refine ⟨fun _ other reachable => ?_, nofun⟩
  cases reachable
  rfl

/-! ## Steps that are not late -/

/-- A call that fails for a session that is not held fails late. -/
theorem isOffline_of_not_intrudes {index session : Nat} {answer : Answer δ}
    (quiet : state.intrudes (.resume index answer) = false)
    (found : state.calls[index]? = some (.openInitialSession session))
    (failed : state.stageOf session = some .failed)
    (replaced : state.rpcSession ≠ some session) :
    state.closed = true ∨ state.isOffline = true := by
  simp only [intrudes, found, failed, beq_self_eq_true, Bool.and_true,
    Bool.and_eq_false_iff, Bool.not_eq_false', bne_eq_false_iff_eq] at quiet
  rcases quiet with closed | same | offline
  · exact Or.inl closed
  · exact absurd same replaced
  · exact Or.inr offline

/-- A refresh that ends is that of the session that is held. -/
theorem refreshes_held {index session : Nat} {answer : Answer δ} {call : Call}
    (quiet : state.intrudes (.resume index answer) = false)
    (found : state.calls[index]? = some call)
    (refreshes : call = .refreshDaemonInfo session ∧
        state.stageOf session = some .failed ∨
      call = .refreshDaemonInfoAsked session) :
    state.closed = true ∨ state.rpcSession = some session := by
  rcases refreshes with ⟨rfl, failed⟩ | rfl
  · simp only [intrudes, found, failed, beq_self_eq_true, Bool.and_true,
      Bool.and_eq_false_iff, Bool.not_eq_false', bne_eq_false_iff_eq] at quiet
    exact quiet
  · simp only [intrudes, found, Bool.and_eq_false_iff, Bool.not_eq_false',
      bne_eq_false_iff_eq] at quiet
    exact quiet

/-- The steps of `openRpcSession` that end it. -/
theorem finishes_eq_true {session : Nat} {succeeds : Bool}
    {managed : ManagedRpcSession}
    (found : state.sessions[session]? = some managed)
    (ends : managed.stage = .connecting ∧ succeeds = true ∧
        managed.machine.pairedClientId = none ∨
      managed.stage = .renewing) :
    state.finishes session succeeds = true := by
  rcases ends with ⟨stage, succeeds, unpaired⟩ | stage
  · simp [finishes, found, stage, succeeds, unpaired]
  · simp [finishes, found, stage]

/-- An opening that ends is that of the session that is held. -/
theorem finishes_held {session : Nat} {succeeds : Bool}
    (quiet : state.intrudes (.advance session succeeds) = false)
    (isOpen : state.closed = false)
    (finishes : state.finishes session succeeds = true) :
    state.rpcSession = some session := by
  simpa [intrudes, isOpen, finishes] using quiet

/-- The answer to a refresh is that of the session that is held. -/
theorem StatusHeld.refreshed {session : Nat} {daemonInfo : δ}
    (held : StatusHeld state)
    (same : state.closed = true ∨ state.rpcSession = some session) :
    StatusHeld (if state.closed then state
      else { state with daemonInfo := .ready session daemonInfo }) := by
  split
  · exact held
  · rename_i isOpen
    rcases same with closed | same
    · exact absurd closed isOpen
    · refine ⟨held.connection, fun _ other otherInfo ready => ?_⟩
      cases ready
      exact same

/-- A step that is not late keeps the status that of the session that is
held. -/
theorem StatusHeld.step {input : ControllerInput δ}
    (held : StatusHeld state)
    (quiet : state.intrudes input = false)
    (taken : state.step input = some next) : StatusHeld next := by
  cases input with
  | setMachine machine =>
      cases taken
      exact held.congr rfl rfl rfl rfl
  | close =>
      cases taken
      unfold ControllerState.close
      split
      · exact held
      · exact StatusHeld.closeRpcSession _
  | closeRpcSession =>
      cases taken
      exact StatusHeld.closeRpcSession state
  | reconnect =>
      cases taken
      exact (StatusHeld.closeRpcSession state).openInitialSession
  | webTransport =>
      cases taken
      unfold ControllerState.webTransport
      split
      · rename_i got
        exact (held.getRpcSession got).start _
      · exact held.start _
  | startPairing =>
      cases taken
      have cleared : StatusHeld { state with pairingStarted := false } :=
        held.congr rfl rfl rfl rfl
      unfold ControllerState.startPairing
      split
      · exact held.start _
      · split
        · exact cleared.start _
        · rename_i got
          exact (cleared.getRpcSession got).start _
  | completePairing =>
      cases taken
      unfold ControllerState.completePairing
      split <;> exact held.start _
  | advance session succeeds =>
      obtain ⟨managed, found, ⟨stage, clientId, rfl⟩ | ⟨isOpen, ends, rfl⟩⟩ :=
        advance_cases taken
      · exact held.setSession session _
      · exact StatusHeld.finishOpening
          (finishes_held quiet isOpen (finishes_eq_true found ends))
  | rejected session =>
      simp only [ControllerState.step] at taken
      split at taken <;> cases taken
      exact held.clear session
  | transportClosed session =>
      simp only [ControllerState.step] at taken
      split at taken <;> cases taken
      unfold ControllerState.handleTransportClosed
      split
      · exact held
      · exact held.clear session
  | resume index answer =>
      obtain ⟨call, found, goes⟩ := Option.bind_eq_some_iff.mp taken
      obtain ⟨base, done, resumes, rfl⟩ := resume_cases goes
      refine StatusHeld.setCall ?_ index done
      cases resumes with
      | itself => exact held
      | offline => exact StatusHeld.goOffline state
      | authenticated call session clientId =>
          exact held.setAuthenticated session clientId
      | paired => exact held.congr rfl rfl rfl rfl
      | unknown message => exact held.failRefresh message
      | refreshed session daemonInfo =>
          exact held.refreshed (refreshes_held quiet found (Or.inr rfl))

/-- Setting the connection offline when it is changes nothing. -/
theorem goOffline_undisturbed
    (offline : state.closed = true ∨ state.isOffline = true) :
    Undisturbed state state.goOffline := by
  unfold ControllerState.goOffline
  split
  · exact ⟨rfl, rfl, rfl⟩
  · rename_i isOpen
    rcases offline with closed | offline
    · exact absurd closed isOpen
    · unfold isOffline at offline
      split at offline
      · rename_i connection daemonInfo
        exact ⟨connection.symm, daemonInfo.symm, rfl⟩
      · cases offline

/-- A step that is not late, of a session that is not held, changes nothing that
is shown. -/
theorem undisturbed_of_replaced {input : ControllerInput δ} {session : Nat}
    (quiet : state.intrudes input = false)
    (taken : state.step input = some next)
    (owned : state.owner input = some session)
    (replaced : state.rpcSession ≠ some session) :
    Undisturbed state next := by
  cases input with
  | advance other succeeds =>
      cases owned
      obtain ⟨managed, found, ⟨stage, clientId, rfl⟩ | ⟨isOpen, ends, -⟩⟩ :=
        advance_cases taken
      · simp [Undisturbed, setSession]
      · exact absurd (finishes_held quiet isOpen
          (finishes_eq_true found ends)) replaced
  | rejected other =>
      cases owned
      simp only [ControllerState.step] at taken
      split at taken <;> cases taken
      simp [Undisturbed, clear, replaced]
  | transportClosed other =>
      cases owned
      simp only [ControllerState.step] at taken
      split at taken <;> cases taken
      simp [Undisturbed, handleTransportClosed, clear, replaced]
  | resume index answer =>
      obtain ⟨call, found, goes⟩ := Option.bind_eq_some_iff.mp taken
      simp only [owner, found, Option.bind_some] at owned
      have closedOnly
          (refreshes : call = .refreshDaemonInfo session ∧
              state.stageOf session = some .failed ∨
            call = .refreshDaemonInfoAsked session) :
          state.closed = true :=
        (refreshes_held quiet found refreshes).resolve_right replaced
      obtain ⟨base, done, resumes, rfl⟩ := resume_cases goes
      suffices undisturbed : Undisturbed state base from undisturbed
      cases resumes with
      | itself => exact ⟨rfl, rfl, rfl⟩
      | offline failed =>
          cases owned
          exact goOffline_undisturbed
            (isOffline_of_not_intrudes quiet found failed replaced)
      | authenticated call other clientId =>
          unfold setAuthenticated
          split <;> simp [Undisturbed, setSession]
      | paired => exact ⟨rfl, rfl, rfl⟩
      | @unknown call other message refreshes =>
          have same : other = session := by
            rcases refreshes with ⟨rfl, -⟩ | rfl <;> cases owned <;> rfl
          subst same
          simp [Undisturbed, failRefresh, closedOnly refreshes]
      | refreshed other daemonInfo =>
          cases owned
          simp [Undisturbed, closedOnly (Or.inr rfl)]
  | _ => cases owned

end ControllerState

/-! ## Every run -/

/-- In every run in which nothing ends late: the status of a controller that is
not closed is that of the session it holds, and what ends or fails for another
session changes no status and opens no session. -/
theorem status_is_of_held_session {δ : Type}
    (machine : Option Machine)
    {history : List (ControllerInput δ)} {state : ControllerState δ}
    (reached : run ControllerState.step (.initial machine) history = some state)
    (quiet : Throughout ControllerState.step (.initial machine)
      (fun state input => state.intrudes input = false) history) :
    state.StatusHeld ∧
      ∀ before input after (middle next : ControllerState δ) session,
        history = before ++ input :: after →
        run ControllerState.step (.initial machine) before = some middle →
        middle.step input = some next →
        middle.owner input = some session →
        middle.rpcSession ≠ some session →
          next.connection = middle.connection ∧
            next.daemonInfo = middle.daemonInfo ∧
            next.sessions.length = middle.sessions.length := by
  constructor
  · apply run_invariant_throughout
      (ControllerState.StatusHeld.initial machine) _ reached quiet
    exact fun _ _ _ _ _ held quiet taken => held.step quiet taken
  · intro before input after middle next session shape there taken owned
      replaced
    exact ControllerState.undisturbed_of_replaced
      (quiet before input after middle shape there) taken owned replaced

/-- A machine that is not paired. -/
def plainMachine : Machine :=
  ⟨"m", "machine", "https://a.ts.net", none, none, none⟩

/-- The daemon is asked over a session, which is replaced and closed before
another opens. -/
def replacedInTimeHistory : List (ControllerInput Unit) :=
  [.advance 0 true, .resume 0 .none, .resume 1 .none,
    .resume 1 (.daemonInfo ()), .reconnect, .transportClosed 0,
    .advance 1 true, .resume 3 .none]

/-- A session that was replaced in time does not set the status. -/
theorem status_is_of_held_session_replaced :
    ∃ state, run ControllerState.step (.initial (some plainMachine))
        replacedInTimeHistory = some state ∧
      state.connection = .reachable 1 ∧ state.rpcSession = some 1 := by
  have ends : (run ControllerState.step (.initial (some plainMachine))
      replacedInTimeHistory).map (fun state =>
        (state.connection, state.closed)) = some (.reachable 1, false) := by
    rfl
  obtain ⟨state, reached, values⟩ := Option.map_eq_some_iff.mp ends
  simp only [Prod.mk.injEq] at values
  have status := status_is_of_held_session (some plainMachine) reached
    (throughout_of_checkEach_eq_false (by rfl))
  exact ⟨state, reached, values.1, status.1.connection values.2 1 values.1⟩

/-- A session that has been replaced opens late: the connection is reachable
over it, and the session that is held has not opened. -/
theorem late_opening_is_shown :
    (run ControllerState.step
        (.initial (some plainMachine) : ControllerState Unit)
        [.reconnect, .advance 0 true]).map (fun state =>
          (state.closed, state.connection, state.rpcSession,
            state.stageOf 1)) =
      some (false, .reachable 0, some 1, some .connecting) := by
  rfl

end Web
end WhatsGoingOn
