import WhatsGoingOn.Web.RpcSession

/-!
# Credentials reach the caller

The daemon has issued a credential when its answer to `CompletePairing` comes.
The function that has asked for it reads the session that is held again, and
authenticates it, before it returns the credential.
-/

namespace WhatsGoingOn
namespace Web

namespace Call

/-- The credentials that have been issued to a call. -/
def issued : Call → Option IssuedCredentials
  | .completePairingIssued credentials
  | .completePairingReopening _ credentials
  | .completePairingAuthenticating _ credentials
  | .returnedCredentials credentials
  | .threwCredentials credentials => some credentials
  | _ => none

/-- A call has thrown its credentials away. -/
def lost : Call → Bool
  | .threwCredentials _ => true
  | _ => false

/-- A call has returned some credentials, or it goes on with them. -/
def Keeps (call : Call) (credentials : IssuedCredentials) : Prop :=
  call = .returnedCredentials credentials ∨
    call = .completePairingIssued credentials ∨
    ∃ session, call = .completePairingReopening session credentials ∨
      call = .completePairingAuthenticating session credentials

/-- A call keeps the credentials that it has and has not thrown away. -/
theorem keeps_iff {call : Call} {credentials : IssuedCredentials} :
    call.Keeps credentials ↔
      call.issued = some credentials ∧ call.lost = false := by
  cases call <;> simp [Keeps, issued, lost]

theorem lost_eq_false {call : Call} (issued : call.issued = none) :
    call.lost = false := by
  cases call <;> first | rfl | cases issued

end Call

namespace ControllerState

variable {δ : Type} {state next : ControllerState δ}

/-- A call that has been issued credentials goes on, and no session is held; or
the session it reads has failed; or the session cannot be authenticated. -/
def loses (state : ControllerState δ) : ControllerInput δ → Bool
  | .resume index answer =>
      match state.calls[index]?, answer with
      | some (.completePairingIssued _), _ => state.rpcSession.isNone
      | some (.completePairingReopening session _), _ =>
          state.stageOf session == some .failed
      | some (.completePairingAuthenticating _ _), .failed _ => true
      | _, _ => false
  | _ => false

/-! ## What a step does to the calls -/

/-- What an answer makes of a call: it is issued the credentials of the answer,
or it keeps what it has unless the step loses it. -/
structure TakesAnswer (state next : ControllerState δ) (index : Nat)
    (call : Call) (answer : Answer δ) (done : Call) : Prop where
  calls : next.calls = state.calls.set index done
  lost : done.lost = state.loses (.resume index answer)
  asked : ∀ session, done = .completePairingAsked session →
    (state.stageOf session).isSome
  issued : (∃ credentials, answer = .credentials credentials ∧
      call.issued = none ∧ done.issued = some credentials) ∨
    ((∀ credentials, answer ≠ .credentials credentials) ∧
      done.issued = call.issued)

/-- Calls are started that have asked for nothing yet, and no other call
changes. -/
def StartsCalls (state next : ControllerState δ) : Prop :=
  ∃ started, next.calls = state.calls ++ started ∧
    ∀ call ∈ started, call.issued = none ∧
      ∀ session, call ≠ .completePairingAsked session

theorem StartsCalls.of_eq (same : next.calls = state.calls) :
    StartsCalls state next :=
  ⟨[], by simp [same], by simp⟩

theorem calls_of_getRpcSession {session : Nat}
    (found : state.getRpcSession = some (session, next)) :
    next.calls = state.calls := by
  unfold getRpcSession at found
  split at found <;> cases found <;> rfl

@[simp] theorem calls_goOffline (state : ControllerState δ) :
    state.goOffline.calls = state.calls := by
  unfold goOffline
  split <;> rfl

@[simp] theorem calls_failRefresh (state : ControllerState δ)
    (message : String) : (state.failRefresh message).calls = state.calls := by
  unfold failRefresh
  split <;> rfl

@[simp] theorem calls_setAuthenticated (state : ControllerState δ)
    (session : Nat) (clientId : String) :
    (state.setAuthenticated session clientId).calls = state.calls := by
  unfold setAuthenticated
  split <;> rfl

/-- A call that goes on without credentials in the answer. -/
theorem goes_on {index : Nat} {call : Call} {answer : Answer δ}
    (done : Call) (calls : next.calls = state.calls.set index done)
    (lost : done.lost = state.loses (.resume index answer))
    (plain : ∀ credentials, answer ≠ .credentials credentials)
    (asked : ∀ session, done = .completePairingAsked session →
      (state.stageOf session).isSome)
    (issued : done.issued = call.issued) :
    ∃ done, TakesAnswer state next index call answer done :=
  ⟨done, calls, lost, asked, Or.inr ⟨plain, issued⟩⟩

/-- An answer goes to the call that waits for it. -/
theorem resume_calls {index : Nat} {call : Call} {answer : Answer δ}
    (found : state.calls[index]? = some call)
    (taken : state.resume index call answer = some next) :
    ∃ done, TakesAnswer state next index call answer done := by
  unfold resume at taken
  split at taken
  · unfold whenOpened at taken
    split at taken <;> cases taken
    · exact goes_on _ rfl (by simp [loses, found, Call.lost]) nofun nofun rfl
    · exact goes_on .returned (by simp [setCall])
        (by simp [loses, found, Call.lost]) nofun nofun rfl
  · unfold whenOpened at taken
    split at taken <;> cases taken
    · refine goes_on _ rfl ?_ nofun ?_ ?_ <;>
        split <;> simp [loses, found, Call.lost, Call.issued]
    · exact goes_on _ rfl (by simp [loses, found, Call.lost]) nofun nofun rfl
  · cases taken
    exact goes_on _ (congrArg (List.set · _ _) (calls_setAuthenticated _ _ _))
      (by simp [loses, found, Call.lost]) nofun nofun rfl
  · cases taken
    exact goes_on _ rfl (by simp [loses, found, Call.lost]) nofun nofun rfl
  · unfold whenOpened at taken
    split at taken <;> cases taken
    · refine goes_on _ rfl ?_ nofun ?_ ?_ <;>
        split <;> simp [loses, found, Call.lost, Call.issued]
    · exact goes_on _ rfl (by simp [loses, found, Call.lost]) nofun nofun rfl
  · cases taken
    exact goes_on _ rfl (by simp [loses, found, Call.lost]) nofun nofun rfl
  · cases taken
    exact goes_on _ rfl (by simp [loses, found, Call.lost]) nofun nofun rfl
  · unfold whenOpened at taken
    split at taken <;> cases taken
    · rename_i stage
      refine goes_on _ rfl ?_ nofun ?_ ?_ <;>
        split <;> simp [loses, found, Call.lost, Call.issued, stage]
    · exact goes_on _ rfl (by simp [loses, found, Call.lost]) nofun nofun rfl
  · rename_i credentials
    cases taken
    exact ⟨_, rfl, by simp [loses, found, Call.lost], nofun,
      Or.inl ⟨credentials, rfl, rfl, rfl⟩⟩
  · cases taken
    exact goes_on _ rfl (by simp [loses, found, Call.lost]) nofun nofun rfl
  · cases taken
    refine goes_on _ rfl ?_ nofun ?_ ?_ <;>
      cases held : state.rpcSession <;>
        simp [loses, found, Call.lost, Call.issued, held]
  · unfold whenOpened at taken
    split at taken
    · rename_i stage
      cases taken
      refine goes_on _ rfl ?_ nofun ?_ ?_ <;>
        split <;> simp [loses, found, Call.lost, Call.issued, stage]
    · rename_i stage
      cases taken
      exact goes_on _ rfl (by simp [loses, found, Call.lost, stage]) nofun nofun
        rfl
    · cases taken
  · cases taken
    exact goes_on _ (congrArg (List.set · _ _) (calls_setAuthenticated _ _ _))
      (by simp [loses, found, Call.lost]) nofun nofun rfl
  · cases taken
    exact goes_on _ rfl (by simp [loses, found, Call.lost]) nofun nofun rfl
  · split at taken <;> cases taken
    refine goes_on _ rfl ?_ nofun ?_ ?_ <;>
      split <;> simp [loses, found, Call.lost, Call.issued]
  · split at taken <;> cases taken
    exact goes_on .returned (by simp [setCall])
      (by simp [loses, found, Call.lost]) nofun nofun rfl
  · cases taken
    refine goes_on .returned ?_ (by simp [loses, found, Call.lost]) nofun
      nofun rfl
    split <;> rfl
  · cases taken
    exact goes_on .returned (by simp [setCall])
      (by simp [loses, found, Call.lost]) nofun nofun rfl
  · cases taken

theorem startsCalls_openInitialSession (state : ControllerState δ) :
    StartsCalls state state.openInitialSession := by
  unfold openInitialSession
  split
  · exact .of_eq (calls_goOffline state)
  · rename_i found
    exact ⟨_, congrArg (· ++ _) (calls_of_getRpcSession found),
      by simp [Call.issued]⟩

theorem startsCalls_refreshDaemonInfo (state : ControllerState δ) :
    StartsCalls state state.refreshDaemonInfo := by
  unfold refreshDaemonInfo
  split
  · exact .of_eq (calls_failRefresh state _)
  · rename_i found
    exact ⟨_, congrArg (· ++ _) (calls_of_getRpcSession found),
      by simp [Call.issued]⟩

/-- A step gives a call its answer, or it only starts calls. -/
theorem step_calls {input : ControllerInput δ}
    (taken : state.step input = some next) :
    (∃ index call answer done, input = .resume index answer ∧
        state.calls[index]? = some call ∧
        TakesAnswer state next index call answer done) ∨
      ((∀ index answer, input ≠ .resume index answer) ∧
        StartsCalls state next) := by
  cases input with
  | setMachine machine =>
      cases taken
      exact Or.inr ⟨nofun, .of_eq rfl⟩
  | close =>
      cases taken
      refine Or.inr ⟨nofun, .of_eq ?_⟩
      unfold close
      split
      · rfl
      · simp [closeRpcSession]
  | closeRpcSession =>
      cases taken
      exact Or.inr ⟨nofun, .of_eq (by simp [closeRpcSession])⟩
  | reconnect =>
      cases taken
      obtain ⟨started, calls, fresh⟩ :=
        startsCalls_openInitialSession state.closeRpcSession
      refine Or.inr ⟨nofun, started, calls.trans ?_, fresh⟩
      simp [closeRpcSession]
  | webTransport =>
      cases taken
      refine Or.inr ⟨nofun, ?_⟩
      unfold webTransport
      split
      · rename_i found
        exact ⟨_, congrArg (· ++ _) (calls_of_getRpcSession found),
          by simp [Call.issued]⟩
      · exact ⟨_, rfl, by simp [Call.issued]⟩
  | startPairing =>
      cases taken
      refine Or.inr ⟨nofun, ?_⟩
      unfold startPairing
      split
      · exact ⟨_, rfl, by simp [Call.issued]⟩
      · split
        · exact ⟨_, rfl, by simp [Call.issued]⟩
        · rename_i found
          have same := calls_of_getRpcSession found
          exact ⟨_, congrArg (· ++ _) same, by simp [Call.issued]⟩
  | completePairing =>
      cases taken
      refine Or.inr ⟨nofun, ?_⟩
      unfold completePairing
      split <;> exact ⟨_, rfl, by simp [Call.issued]⟩
  | advance session succeeds =>
      refine Or.inr ⟨nofun, ?_⟩
      obtain ⟨managed, -, ⟨stage, clientId, rfl⟩ | ⟨-, -, rfl⟩⟩ :=
        advance_cases taken
      · exact .of_eq rfl
      · exact startsCalls_refreshDaemonInfo _
  | rejected session =>
      simp only [step] at taken
      split at taken <;> cases taken
      refine Or.inr ⟨nofun, .of_eq ?_⟩
      unfold clear
      split <;> simp
  | transportClosed session =>
      simp only [step] at taken
      split at taken <;> cases taken
      refine Or.inr ⟨nofun, .of_eq ?_⟩
      unfold handleTransportClosed clear
      split
      · rfl
      · split <;> simp
  | resume index answer =>
      obtain ⟨call, found, goes⟩ := Option.bind_eq_some_iff.mp taken
      obtain ⟨done, answered⟩ := resume_calls found goes
      exact Or.inl ⟨index, call, answer, done, rfl, found, answered⟩

/-! ## Every run -/

/-- No call has thrown credentials away. -/
def KeepsAll (state : ControllerState δ) : Prop :=
  ∀ (index : Nat) (call : Call), state.calls[index]? = some call →
    call.lost = false

theorem KeepsAll.initial (machine : Option Machine) :
    (ControllerState.initial machine : ControllerState δ).KeepsAll := by
  intro index call found
  apply Call.lost_eq_false
  cases machine <;>
    simp [ControllerState.initial, openInitialSession, getRpcSession,
      goOffline, setConnectionOffline, start, List.getElem?_singleton]
      at found
  rw [← found.2]
  rfl

/-- A step keeps all credentials unless it loses some. -/
theorem keepsAll_step {input : ControllerInput δ}
    (keeps : state.KeepsAll)
    (taken : state.step input = some next) :
    next.KeepsAll ↔ state.loses input = false := by
  rcases step_calls taken with
    ⟨index, call, answer, done, rfl, found, calls, lost, -⟩ |
      ⟨other, started, calls, fresh⟩
  · unfold KeepsAll
    rw [calls]
    constructor
    · intro all
      rw [← lost]
      apply all index done
      rw [List.getElem?_set_self (List.getElem?_eq_some_iff.mp found).1]
    · intro quiet later current there
      rw [List.getElem?_set] at there
      split at there
      · split at there <;> cases there
        exact lost.trans quiet
      · exact keeps later current there
  · have quiet : state.loses input = false := by
      unfold loses
      split
      · exact absurd rfl (other _ _)
      · rfl
    refine iff_of_true ?_ quiet
    intro index call there
    rw [calls, List.getElem?_append] at there
    split at there
    · exact keeps index call there
    · exact Call.lost_eq_false (fresh call (List.mem_of_getElem? there)).1

/-- The response that issues some credentials has reached a call. -/
def IsIssue (index : Nat) (credentials : IssuedCredentials)
    (input : ControllerInput δ) : Prop :=
  input = .resume index (.credentials credentials)

/-- The credentials of the calls are those of the responses so far. -/
theorem issued_iff_step {input : ControllerInput δ} {index : Nat}
    {credentials : IssuedCredentials}
    (taken : state.step input = some next) :
    (∃ call, next.calls[index]? = some call ∧
        call.issued = some credentials) ↔
      (∃ call, state.calls[index]? = some call ∧
        call.issued = some credentials) ∨ IsIssue index credentials input := by
  unfold IsIssue
  rcases step_calls taken with
    ⟨position, call, answer, done, rfl, found, calls, -, -, issued⟩ |
      ⟨other, started, calls, fresh⟩
  · rw [calls]
    by_cases same : position = index
    · subst same
      rw [List.getElem?_set_self (List.getElem?_eq_some_iff.mp found).1, found]
      rcases issued with ⟨others, rfl, before, after⟩ | ⟨plain, same⟩
      · simp [before, after, eq_comm]
      · simp [same, plain credentials]
    · rw [List.getElem?_set_ne same]
      simp [same]
  · simp only [other, or_false]
    rw [calls]
    constructor
    · rintro ⟨call, there, issued⟩
      rw [List.getElem?_append] at there
      split at there
      · exact ⟨call, there, issued⟩
      · rw [(fresh call (List.mem_of_getElem? there)).1] at issued
        cases issued
    · rintro ⟨call, there, issued⟩
      refine ⟨call, ?_, issued⟩
      rw [List.getElem?_append_left (List.getElem?_eq_some_iff.mp there).1]
      exact there

/-- A call has credentials exactly when they were issued to it. -/
theorem issued_iff_occurred {machine : Option Machine}
    {history : List (ControllerInput δ)}
    (reached : run step (.initial machine) history = some state)
    (index : Nat) (credentials : IssuedCredentials) :
    (∃ call, state.calls[index]? = some call ∧
        call.issued = some credentials) ↔
      Occurred step (.initial machine)
        (fun _ _ input _ => IsIssue index credentials input) history := by
  apply @run_invariant _ _ _ _ _ (fun history state =>
    (∃ call, state.calls[index]? = some call ∧
        call.issued = some credentials) ↔
      Occurred step (.initial machine)
        (fun _ _ input _ => IsIssue index credentials input) history)
    _ _ _ reached
  · constructor
    · rintro ⟨call, found, issued⟩
      cases machine <;>
        simp [ControllerState.initial, openInitialSession, getRpcSession,
          goOffline, setConnectionOffline, start, List.getElem?_singleton]
          at found
      rw [← found.2] at issued
      cases issued
    · rintro ⟨before, input, after, state, next, shape, -⟩
      simp at shape
  · intro history state input next reached holds taken
    rw [issued_iff_step taken, holds, Occurred.concat_iff reached taken]

end ControllerState

/-- Every response to `CompletePairing` that has reached a call is returned, or
the call goes on with it, in every state of a run: exactly when no step of the
run loses the session that a call with credentials goes on with. -/
theorem issued_credentials_are_returned {δ : Type}
    (machine : Option Machine)
    {history : List (ControllerInput δ)} {state : ControllerState δ}
    (reached :
      run ControllerState.step (.initial machine) history = some state) :
    (∀ early late earlier, history = early ++ late →
        run ControllerState.step (.initial machine) early = some earlier →
        ∀ index credentials,
          Occurred ControllerState.step (.initial machine)
            (fun _ _ input _ =>
              input = .resume index (.credentials credentials)) early →
          ∃ call, earlier.calls[index]? = some call ∧
            call.Keeps credentials) ↔
      Throughout ControllerState.step (.initial machine)
        (fun state input => state.loses input = false) history := by
  rw [← @holds_iff_throughout _ _ _ _ _ _ ControllerState.KeepsAll
    (ControllerState.KeepsAll.initial machine)
    (fun _ _ _ _ _ keeps taken => ControllerState.keepsAll_step keeps taken)
    _ reached]
  apply forall_congr'
  intro early
  apply forall_congr'
  intro late
  apply forall_congr'
  intro earlier
  apply imp_congr_right
  intro shape
  apply imp_congr_right
  intro there
  constructor
  · intro returns index call found
    by_contra lost
    cases call with
    | threwCredentials credentials =>
        obtain ⟨other, same, keeps⟩ := returns index credentials
          ((ControllerState.issued_iff_occurred there index credentials).mp
            ⟨_, found, rfl⟩)
        cases found.symm.trans same
        simp [Call.keeps_iff, Call.lost] at keeps
    | _ => exact lost rfl
  · intro keeps index credentials occurred
    obtain ⟨call, found, issued⟩ :=
      (ControllerState.issued_iff_occurred there index credentials).mpr occurred
    exact ⟨call, found, Call.keeps_iff.mpr ⟨issued, keeps index call found⟩⟩

/-- A machine that is to be paired. -/
def newMachine : Machine :=
  ⟨"m", "machine", "https://a.ts.net", none, none, none⟩

/-- What the daemon issues to it. -/
def newCredentials : IssuedCredentials := ⟨"c", "secret", 2000000000⟩

/-- Pairing is started and completed over the first session, up to the response
of the daemon. -/
def askedHistory : List (ControllerInput Unit) :=
  [.startPairing, .advance 0 true, .resume 1 .none, .resume 1 .succeeded,
    .completePairing, .resume 3 .none]

/-- The session is authenticated with what has been issued. -/
def authenticatedHistory : List (ControllerInput Unit) :=
  askedHistory ++ .resume 3 (.credentials newCredentials) ::
    [.resume 3 .none, .resume 3 .none, .resume 3 .succeeded]

/-- Credentials that are issued to a paired client are kept. -/
theorem issued_credentials_are_returned_paired :
    ∃ state call, run ControllerState.step (.initial (some newMachine))
        authenticatedHistory = some state ∧
      state.calls[3]? = some call ∧ call.Keeps newCredentials := by
  have ends : (run ControllerState.step (.initial (some newMachine))
      authenticatedHistory).isSome := by
    rfl
  obtain ⟨state, reached⟩ := Option.isSome_iff_exists.mp ends
  obtain ⟨middle, next, early, taken, -⟩ := run_split reached
  obtain ⟨call, found, keeps⟩ :=
    (issued_credentials_are_returned (some newMachine) reached).mpr
      (throughout_of_checkEach_eq_false (by rfl))
      authenticatedHistory [] state (List.append_nil _).symm reached 3
      newCredentials
      ⟨askedHistory, _, _, middle, next, rfl, early, taken, rfl⟩
  exact ⟨state, call, reached, found, keeps⟩

/-- The transport is closed when the response has come and before the session
that is held is read again: the credentials are thrown away. -/
theorem issued_credentials_are_lost :
    (run ControllerState.step (.initial (some newMachine))
        (askedHistory ++ [.resume 3 (.credentials newCredentials),
          .transportClosed 0, .resume 3 .none])).map
          (fun state => state.calls[3]?) =
      some (some (.threwCredentials newCredentials)) := by
  rfl

end Web
end WhatsGoingOn
