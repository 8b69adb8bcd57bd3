import WhatsGoingOn.Web.MachineModal
import WhatsGoingOn.Web.PairingCompletion

/-!
# Pairing goes to the machine it is for

An instance of the modal keeps the machine that was in its scope when it was
created.  As long as the modal pairs through an instance of the machine that it
pairs, a pairing prompt goes to that machine, and the credentials that are
stored for a machine come from its own URL.
-/

namespace WhatsGoingOn
namespace Web

/-! ## The sessions of a controller -/

namespace ControllerState

variable {δ : Type} {state middle next : ControllerState δ}

/-- The sessions stay those of their machines, and new ones are opened for the
machine of the controller. -/
def Extends (state next : ControllerState δ) : Prop :=
  next.machine = state.machine ∧
    ∃ added, next.sessions.map ManagedRpcSession.machine =
        state.sessions.map ManagedRpcSession.machine ++ added ∧
      ∀ machine ∈ added, state.machine = some machine

theorem Extends.of_eq
    (machine : next.machine = state.machine)
    (sessions : next.sessions = state.sessions) : state.Extends next :=
  ⟨machine, [], by simp [sessions], by simp⟩

theorem Extends.trans (first : state.Extends middle)
    (second : middle.Extends next) : state.Extends next := by
  obtain ⟨sameMiddle, early, earlySessions, earlyOwn⟩ := first
  obtain ⟨sameNext, late, lateSessions, lateOwn⟩ := second
  refine ⟨sameNext.trans sameMiddle, early ++ late, ?_, ?_⟩
  · rw [lateSessions, earlySessions, List.append_assoc]
  · intro machine added
    rcases List.mem_append.mp added with added | added
    · exact earlyOwn machine added
    · exact sameMiddle.symm.trans (lateOwn machine added)

theorem extends_getRpcSession {session : Nat}
    (found : state.getRpcSession = some (session, next)) :
    state.Extends next := by
  unfold getRpcSession at found
  split at found
  · cases found
    exact .of_eq rfl rfl
  · cases found
  · rename_i machine missing own
    cases found
    exact ⟨rfl, [machine], by simp, by simpa using own⟩

theorem extends_goOffline (state : ControllerState δ) :
    state.Extends state.goOffline := by
  unfold goOffline
  split <;> exact .of_eq rfl rfl

theorem extends_closeRpcSession (state : ControllerState δ) :
    state.Extends state.closeRpcSession :=
  Extends.trans (.of_eq rfl rfl) (extends_goOffline _)

theorem extends_failRefresh (state : ControllerState δ) (message : String) :
    state.Extends (state.failRefresh message) := by
  unfold failRefresh
  split <;> exact .of_eq rfl rfl

theorem extends_openInitialSession (state : ControllerState δ) :
    state.Extends state.openInitialSession := by
  unfold openInitialSession
  split
  · exact extends_goOffline state
  · rename_i found
    exact (extends_getRpcSession found).trans (.of_eq rfl rfl)

theorem extends_refreshDaemonInfo (state : ControllerState δ) :
    state.Extends state.refreshDaemonInfo := by
  unfold refreshDaemonInfo
  split
  · exact extends_failRefresh state _
  · rename_i found
    exact (extends_getRpcSession found).trans (.of_eq rfl rfl)

/-- A session goes on for the machine it was opened for. -/
theorem extends_setSession {session : Nat} {managed changed : ManagedRpcSession}
    (found : state.sessions[session]? = some managed)
    (same : changed.machine = managed.machine) :
    state.Extends (state.setSession session changed) := by
  refine ⟨rfl, [], ?_, by simp⟩
  rw [List.append_nil]
  apply List.ext_getElem?
  intro index
  simp only [setSession, List.getElem?_map, List.getElem?_set]
  split
  · rename_i here
    subst here
    rw [if_pos (List.getElem?_eq_some_iff.mp found).1, found]
    simp [same]
  · rfl

theorem extends_advance {session : Nat} {succeeds : Bool}
    (taken : state.advance session succeeds = some next) :
    state.Extends next := by
  obtain ⟨managed, found, ⟨stage, clientId, rfl⟩ | ⟨-, -, rfl⟩⟩ :=
    advance_cases taken
  · exact extends_setSession found rfl
  · have first : state.Extends (state.setSession session
        { managed with stage := .opened }) := extends_setSession found rfl
    exact (first.trans (.of_eq rfl rfl)).trans (extends_refreshDaemonInfo _)

theorem extends_setAuthenticated (state : ControllerState δ) (session : Nat)
    (clientId : String) :
    state.Extends (state.setAuthenticated session clientId) := by
  unfold setAuthenticated
  split
  · exact .of_eq rfl rfl
  · rename_i found
    exact extends_setSession found rfl

/-- A call that goes on leaves sessions with their machines. -/
theorem extends_resume {index : Nat} {call : Call} {answer : Answer δ}
    (taken : state.resume index call answer = some next) :
    state.Extends next := by
  obtain ⟨base, done, resumes, rfl⟩ := resume_cases taken
  suffices extended : state.Extends base from extended.trans (.of_eq rfl rfl)
  cases resumes with
  | itself => exact .of_eq rfl rfl
  | offline => exact extends_goOffline state
  | authenticated call session clientId =>
      exact extends_setAuthenticated state session clientId
  | paired => exact .of_eq rfl rfl
  | unknown message => exact extends_failRefresh state message
  | refreshed => split <;> exact .of_eq rfl rfl

/-- What a step adds to the sessions. -/
theorem step_sessions {input : ControllerInput δ}
    (taken : state.step input = some next) :
    ∃ added, next.sessions.map ManagedRpcSession.machine =
        state.sessions.map ManagedRpcSession.machine ++ added ∧
      ∀ machine ∈ added, state.machine = some machine := by
  cases input with
  | setMachine machine =>
      cases taken
      exact ⟨[], by simp, by simp⟩
  | close =>
      cases taken
      unfold close
      split
      · exact (Extends.of_eq rfl rfl).2
      · have closes := extends_closeRpcSession { state with closed := true }
        exact (Extends.trans (.of_eq rfl rfl) closes).2
  | closeRpcSession =>
      cases taken
      exact (extends_closeRpcSession state).2
  | reconnect =>
      cases taken
      exact ((extends_closeRpcSession state).trans
        (extends_openInitialSession _)).2
  | webTransport =>
      cases taken
      unfold webTransport
      split
      · rename_i found
        exact ((extends_getRpcSession found).trans (.of_eq rfl rfl)).2
      · exact (Extends.of_eq rfl rfl).2
  | startPairing =>
      cases taken
      unfold startPairing
      split
      · exact (Extends.of_eq rfl rfl).2
      · split
        · exact (Extends.of_eq rfl rfl).2
        · rename_i found
          exact (Extends.trans (extends_getRpcSession found)
            (.of_eq rfl rfl)).2
  | completePairing =>
      cases taken
      unfold completePairing
      split <;> exact (Extends.of_eq rfl rfl).2
  | advance session succeeds => exact (extends_advance taken).2
  | rejected session =>
      simp only [step] at taken
      split at taken <;> cases taken
      unfold clear
      split
      · exact (Extends.trans (.of_eq rfl rfl) (extends_goOffline _)).2
      · exact (Extends.of_eq rfl rfl).2
  | transportClosed session =>
      simp only [step] at taken
      split at taken <;> cases taken
      unfold handleTransportClosed clear
      split
      · exact (Extends.of_eq rfl rfl).2
      · split
        · exact (Extends.trans (.of_eq rfl rfl) (extends_goOffline _)).2
        · exact (Extends.of_eq rfl rfl).2
  | resume index answer =>
      obtain ⟨call, found, goes⟩ := Option.bind_eq_some_iff.mp taken
      exact (extends_resume goes).2

/-- Credentials are the answer to a call that has asked for them. -/
theorem asked_of_credentials {index : Nat} {credentials : IssuedCredentials}
    (taken : state.step (.resume index (.credentials credentials)) =
      some next) :
    ∃ session, state.calls[index]? = some (.completePairingAsked session) := by
  obtain ⟨call, found, goes⟩ := Option.bind_eq_some_iff.mp taken
  cases call with
  | completePairingAsked session => exact ⟨session, found⟩
  | _ => cases goes

/-- All sessions are opened to one URL, and `Issued` knows the credentials that
calls have been issued. -/
structure OpenedTo (Issued : Nat → IssuedCredentials → Prop) (url : String)
    (state : ControllerState δ) : Prop where
  sessions : ∀ managed ∈ state.sessions, managed.machine.baseUrl = url
  asked : ∀ (index session : Nat),
    state.calls[index]? = some (.completePairingAsked session) →
      session < state.sessions.length
  issued : ∀ (index : Nat) call credentials, state.calls[index]? = some call →
    call.issued = some credentials → Issued index credentials

/-- What a session is that a call has asked over. -/
theorem OpenedTo.managed
    {Issued : Nat → IssuedCredentials → Prop} {url : String}
    {index session : Nat}
    (opened : OpenedTo Issued url state)
    (found : state.calls[index]? = some (.completePairingAsked session)) :
    ∃ managed, state.sessions[session]? = some managed ∧
      managed.machine.baseUrl = url := by
  have inside := opened.asked index session found
  exact ⟨_, List.getElem?_eq_getElem inside,
    opened.sessions _ (List.getElem_mem inside)⟩

/-- Sessions stay opened to the machine's address. -/
theorem OpenedTo.step
    {Issued Later : Nat → IssuedCredentials → Prop} {url : String}
    {input : ControllerInput δ}
    (opened : OpenedTo Issued url state)
    (own : ∀ machine, state.machine = some machine → machine.baseUrl = url)
    (taken : state.step input = some next)
    (stays : ∀ index credentials, Issued index credentials →
      Later index credentials)
    (issues : ∀ index credentials,
      input = .resume index (.credentials credentials) →
        Later index credentials) :
    OpenedTo Later url next := by
  obtain ⟨added, machines, ownAdded⟩ := step_sessions taken
  have longer : state.sessions.length ≤ next.sessions.length := by
    have lengths := congrArg List.length machines
    simp only [List.length_map, List.length_append] at lengths
    omega
  refine ⟨?_, ?_, ?_⟩
  · intro managed member
    have listed : managed.machine ∈
        next.sessions.map ManagedRpcSession.machine :=
      List.mem_map_of_mem member
    rw [machines, List.mem_append, List.mem_map] at listed
    rcases listed with ⟨earlier, member, same⟩ | listed
    · rw [← same]
      exact opened.sessions earlier member
    · exact own _ (ownAdded _ listed)
  · intro index session there
    rcases step_calls taken with
      ⟨position, call, answer, done, rfl, found, calls, -, asked, -⟩ |
        ⟨-, started, calls, fresh⟩
    · rw [calls, List.getElem?_set] at there
      split at there
      · split at there <;> cases there
        have held : session < state.sessions.length := by
          simpa [stageOf] using asked session rfl
        exact Nat.lt_of_lt_of_le held longer
      · exact Nat.lt_of_lt_of_le (opened.asked index session there) longer
    · rw [calls, List.getElem?_append] at there
      split at there
      · exact Nat.lt_of_lt_of_le (opened.asked index session there) longer
      · exact absurd rfl ((fresh _ (List.mem_of_getElem? there)).2 session)
  · intro index call credentials there issued
    rcases (issued_iff_step taken).mp ⟨call, there, issued⟩ with
      ⟨earlier, found, same⟩ | issue
    · exact stays index credentials
        (opened.issued index earlier credentials found same)
    · exact issues index credentials issue

end ControllerState

/-! ## The base URLs of the machines -/

namespace MachineStore

variable {store : MachineStore}

/-- The address of the machine of an id. -/
def baseUrlOf (store : MachineStore) (machineId : String) : Option String :=
  (store.findMachine (some machineId)).map Machine.baseUrl

/-- The machines that are in a store stay in it with their base URLs. -/
def Keeps (store next : MachineStore) : Prop :=
  ∀ machineId url, store.baseUrlOf machineId = some url →
    next.baseUrlOf machineId = some url

theorem findMachine_id {machineId : Option String} {machine : Machine}
    (found : store.findMachine machineId = some machine) :
    some machine.id = machineId := by
  unfold findMachine at found
  exact beq_iff_eq.mp (List.find?_some found :)

theorem baseUrlOf_of_findMachine {machineId : Option String}
    {machine : Machine}
    (found : store.findMachine machineId = some machine) :
    store.baseUrlOf machine.id = some machine.baseUrl := by
  rw [baseUrlOf, findMachine_id found, found]
  rfl

theorem keeps_selectMachine (store : MachineStore)
    (machineId : Option String) :
    store.Keeps (store.selectMachine machineId) :=
  fun _ _ known => known

theorem keeps_addMachine (store : MachineStore) (machine : Machine) :
    store.Keeps (store.addMachine machine) := by
  intro machineId url known
  obtain ⟨own, found, rfl⟩ := Option.map_eq_some_iff.mp known
  apply Option.map_eq_some_iff.mpr
  refine ⟨own, ?_, rfl⟩
  rw [findMachine, addMachine, List.find?_append]
  rw [findMachine] at found
  rw [found]
  rfl

/-- What is known after a machine is added was known before it, or is about the
new machine. -/
theorem isSome_of_addMachine {machine : Machine} {machineId : String}
    (known : ((store.addMachine machine).baseUrlOf machineId).isSome) :
    (store.baseUrlOf machineId).isSome ∨ machineId = machine.id := by
  rw [baseUrlOf, Option.isSome_map, findMachine, addMachine,
    List.find?_append, Option.isSome_or, Bool.or_eq_true] at known
  rcases known with known | known
  · exact Or.inl (by rw [baseUrlOf, Option.isSome_map]; exact known)
  · simp only [List.find?_singleton] at known
    split at known
    · rename_i same
      simp only [beq_iff_eq, Option.some.injEq] at same
      exact Or.inr same.symm
    · cases known

/-- An update that keeps ids and addresses keeps the machines. -/
theorem keeps_updateMachine (machineId : String) (update : Machine → Machine)
    (id : ∀ machine, (update machine).id = machine.id)
    (baseUrl : ∀ machine, (update machine).baseUrl = machine.baseUrl) :
    store.Keeps (store.updateMachine machineId update) := by
  intro other url known
  rw [← known, baseUrlOf, baseUrlOf, findMachine, updateMachine,
    List.find?_map, Option.map_map, findMachine]
  congr 1
  · funext machine
    simp only [Function.comp_apply]
    split <;> simp [baseUrl]
  · congr 1
    funext machine
    simp only [Function.comp_apply]
    split <;> simp [id]

theorem keeps_setMachineCredentials (machineId : String)
    (credentials : IssuedCredentials) :
    store.Keeps (store.setMachineCredentials machineId credentials) := by
  apply keeps_updateMachine <;> exact fun _ => rfl

theorem keeps_clearMachineCredentials (machineId : String) :
    store.Keeps (store.clearMachineCredentials machineId) := by
  apply keeps_updateMachine <;> exact fun _ => rfl

theorem keeps_setMachineCredentialExpiry (machineId : String)
    (expires : Int) :
    store.Keeps (store.setMachineCredentialExpiry machineId expires) := by
  apply keeps_updateMachine <;> exact fun _ => rfl

end MachineStore

/-! ## Sound clients -/

namespace ClientState

variable {δ : Type} {state next : ClientState δ}
  {Issued : Nat → Nat → IssuedCredentials → String → Prop}

/-- The machine of a controller. -/
def machineIdOf (state : ClientState δ) (index : Nat) : Option String :=
  state.controllers[index]?.map MachineController.machineId

/-- Controllers stay those of their machines, and machines keep their URLs. -/
structure Grows (state next : ClientState δ) : Prop where
  store : state.store.Keeps next.store
  controllers : ∀ index machineId, state.machineIdOf index = some machineId →
    next.machineIdOf index = some machineId

/-- The controllers of a sound client are those of the machines that they are
used for, and are connected to these machines. -/
structure Sound (Issued : Nat → Nat → IssuedCredentials → String → Prop)
    (state : ClientState δ) : Prop where
  active : ∀ (position : Nat) modal index,
    state.instances[position]? = some modal →
    modal.activeController = some index →
    ∃ machineId, modal.machineId = some machineId ∧
      state.machineIdOf index = some machineId
  opened : ∀ (index : Nat) owned, state.controllers[index]? = some owned →
    ∃ url, state.store.baseUrlOf owned.machineId = some url ∧
      owned.controller.OpenedTo
        (fun call credentials => Issued index call credentials url) url
  requests : ∀ request ∈ state.requests,
    state.machineIdOf request.controller = some request.machine.id
  completions : ∀ completion ∈ state.completions, ∃ machineId,
    state.machineIdOf completion.controller = some machineId ∧
      state.store.baseUrlOf machineId = some completion.selected.baseUrl ∧
      state.store.baseUrlOf completion.selected.id =
        some completion.selected.baseUrl

theorem Sound.mono {Later : Nat → Nat → IssuedCredentials → String → Prop}
    (sound : Sound Issued state)
    (stays : ∀ index call credentials url,
      Issued index call credentials url → Later index call credentials url) :
    Sound Later state := by
  refine ⟨sound.active, ?_, sound.requests, sound.completions⟩
  intro index owned found
  obtain ⟨url, known, opened⟩ := sound.opened index owned found
  exact ⟨url, known, opened.sessions, opened.asked,
    fun position call credentials found issued =>
      stays _ _ _ _ (opened.issued position call credentials found issued)⟩

/-- A client that grows is sound when its modals and its controllers are. -/
theorem Sound.grow {Later : Nat → Nat → IssuedCredentials → String → Prop}
    (sound : Sound Issued state) (grows : state.Grows next)
    (active : ∀ (position : Nat) modal index,
      next.instances[position]? = some modal →
      modal.activeController = some index →
      ∃ machineId, modal.machineId = some machineId ∧
        next.machineIdOf index = some machineId)
    (opened : ∀ (index : Nat) owned, next.controllers[index]? = some owned →
      ∃ url, next.store.baseUrlOf owned.machineId = some url ∧
        owned.controller.OpenedTo
          (fun call credentials => Later index call credentials url) url)
    (requests : next.requests = state.requests)
    (completions : next.completions = state.completions) :
    Sound Later next := by
  refine ⟨active, opened, ?_, ?_⟩
  · rw [requests]
    exact fun request member =>
      grows.controllers _ _ (sound.requests request member)
  · rw [completions]
    intro completion member
    obtain ⟨machineId, owned, url, selected⟩ :=
      sound.completions completion member
    exact ⟨machineId, grows.controllers _ _ owned, grows.store _ _ url,
      grows.store _ _ selected⟩

theorem Sound.setStore {store : MachineStore}
    (sound : Sound Issued state) (keeps : state.store.Keeps store) :
    Sound Issued (state.setStore store) := by
  have grows : state.Grows (state.setStore store) :=
    ⟨keeps, fun _ _ found => found⟩
  apply sound.grow grows sound.active _ rfl rfl
  intro index owned found
  obtain ⟨url, known, opened⟩ := sound.opened index owned found
  exact ⟨url, keeps _ _ known, opened⟩

/-- A modal changes and keeps its scope; its active controller stays or goes. -/
theorem Sound.updateInstance {position : Nat}
    {update : ModalInstance → ModalInstance}
    (sound : Sound Issued state)
    (scope : ∀ modal, (update modal).machineId = modal.machineId)
    (active : ∀ modal index, (update modal).activeController = some index →
      modal.activeController = some index) :
    Sound Issued (state.updateInstance position update) := by
  have grows : state.Grows (state.updateInstance position update) :=
    ⟨fun _ _ known => known, fun _ _ found => found⟩
  apply sound.grow grows _ sound.opened rfl rfl
  intro other modal index there isActive
  rw [ClientState.updateInstance, List.getElem?_modify] at there
  obtain ⟨earlier, found, rfl⟩ := Option.map_eq_some_iff.mp there
  by_cases here : position = other
  · simp only [here, ↓reduceIte] at isActive ⊢
    obtain ⟨machineId, inScope, owned⟩ :=
      sound.active other earlier index found (active earlier index isActive)
    exact ⟨machineId, (scope earlier).trans inScope, owned⟩
  · simp only [here, ↓reduceIte] at isActive ⊢
    exact sound.active other earlier index found isActive

theorem Sound.updateModal {position : Nat}
    {update : MachineModal → MachineModal}
    (sound : Sound Issued state) :
    Sound Issued (state.updateModal position update) :=
  sound.updateInstance (fun _ => rfl) fun _ _ isActive => isActive

/-- A controller keeps its machine. -/
theorem machineIdOf_set {index : Nat} {owned : MachineController δ}
    (found : state.controllers[index]? = some owned)
    (controller : ControllerState δ) (other : Nat) :
    machineIdOf { state with
      controllers := state.controllers.set index
        { owned with controller } } other = state.machineIdOf other := by
  unfold machineIdOf
  rw [List.getElem?_set]
  split
  · rename_i here
    subst here
    rw [if_pos (List.getElem?_eq_some_iff.mp found).1, found]
    rfl
  · rfl

/-- A controller whose machine is known stays connected to it. -/
theorem Sound.stepController
    {Later : Nat → Nat → IssuedCredentials → String → Prop}
    {index : Nat} {input : ControllerInput δ}
    (sound : Sound Issued state)
    (taken : state.stepController index input = some next)
    (stays : ∀ index call credentials url,
      Issued index call credentials url → Later index call credentials url)
    (issues : ∀ call credentials owned session managed,
      input = .resume call (.credentials credentials) →
      state.controllers[index]? = some owned →
      owned.controller.calls[call]? = some (.completePairingAsked session) →
      owned.controller.sessions[session]? = some managed →
        Later index call credentials managed.machine.baseUrl) :
    Sound Later next := by
  obtain ⟨owned, found, goes⟩ := Option.bind_eq_some_iff.mp taken
  obtain ⟨controller, moved, rfl⟩ := Option.map_eq_some_iff.mp goes
  obtain ⟨url, known, opened⟩ := sound.opened index owned found
  have same := machineIdOf_set found controller
  have synced : (state.synced owned).OpenedTo
      (fun call credentials => Issued index call credentials url) url :=
    ⟨opened.sessions, opened.asked, opened.issued⟩
  have own (machine : Machine)
      (isOwn : (state.synced owned).machine = some machine) :
      machine.baseUrl = url := by
    apply Option.some.inj
    rw [← known, MachineStore.baseUrlOf]
    exact (congrArg (Option.map Machine.baseUrl) isOwn).symm
  have connected : controller.OpenedTo
      (fun call credentials => Later index call credentials url) url := by
    apply synced.step own moved (fun _ _ => stays _ _ _ _)
    intro call credentials isIssue
    subst isIssue
    obtain ⟨session, asked⟩ := ControllerState.asked_of_credentials moved
    obtain ⟨managed, there, rfl⟩ := synced.managed asked
    exact issues call credentials owned session managed rfl found asked there
  refine sound.grow ⟨fun _ _ known => known,
    fun other _ found => (same other).trans found⟩ ?_ ?_ rfl rfl
  · intro position modal other there isActive
    rw [same]
    exact sound.active position modal other there isActive
  · intro other changed there
    simp only [List.getElem?_set] at there
    split at there
    · rename_i here
      subst here
      split at there <;> cases there
      exact ⟨url, known, connected⟩
    · exact (sound.mono stays).opened other changed there

theorem getElem?_machineIdOf {index : Nat} {owned : MachineController δ}
    (found : state.controllers[index]? = some owned) :
    state.machineIdOf index = some owned.machineId := by
  rw [machineIdOf, found]
  rfl

/-- A new controller opens its session to its machine's address. -/
theorem initial_openedTo
    {Issues : Nat → IssuedCredentials → Prop} (machine : Machine) :
    (ControllerState.initial (some machine) : ControllerState δ).OpenedTo
      Issues machine.baseUrl := by
  have calls : (ControllerState.initial (some machine) :
      ControllerState δ).calls = [.openInitialSession 0] := rfl
  refine ⟨?_, ?_, ?_⟩
  · intro managed member
    cases List.mem_singleton.mp member
    rfl
  · intro index session found
    rw [calls, List.getElem?_singleton] at found
    split at found <;> cases found
  · intro index call credentials found issued
    rw [calls, List.getElem?_singleton] at found
    split at found <;> cases found
    cases issued

/-- The new controller of a modal. -/
theorem Sound.setActiveController {position : Nat} {modal : ModalInstance}
    {controller : MachineController δ}
    (sound : Sound Issued state)
    (found : state.instances[position]? = some modal)
    (created : state.instantiateController modal.machineId =
      some controller) :
    Sound Issued (state.setActiveController position controller) ∧
      (state.setActiveController position controller).machineIdOf
        state.controllers.length = some controller.machineId ∧
      modal.machineId = some controller.machineId := by
  obtain ⟨machineId, own, goes⟩ := Option.bind_eq_some_iff.mp created
  obtain ⟨machine, listed, rfl⟩ := Option.map_eq_some_iff.mp goes
  have scope : modal.machineId = some machineId := by
    unfold truthy at own
    exact (Option.filter_eq_some_iff.mp own).1
  have grows (index : Nat) (other : String)
      (known : state.machineIdOf index = some other) :
      (state.setActiveController position
        ⟨machineId, .initial (some machine)⟩).machineIdOf index =
          some other := by
    obtain ⟨owned, found, rfl⟩ := Option.map_eq_some_iff.mp known
    apply getElem?_machineIdOf
    apply (List.getElem?_append_left
      (List.getElem?_eq_some_iff.mp found).1).trans found
  have last : (state.setActiveController position
      ⟨machineId, .initial (some machine)⟩).machineIdOf
        state.controllers.length = some machineId := by
    simp [machineIdOf, ClientState.setActiveController,
      ClientState.updateInstance]
  refine ⟨?_, last, scope⟩
  refine sound.grow ⟨fun _ _ known => known, grows⟩ ?_ ?_ rfl rfl
  · intro other changed index there isActive
    rw [ClientState.setActiveController, ClientState.updateInstance,
      List.getElem?_modify] at there
    obtain ⟨earlier, earlierFound, rfl⟩ := Option.map_eq_some_iff.mp there
    by_cases here : position = other
    · subst here
      cases found.symm.trans earlierFound
      simp only [↓reduceIte, Option.some.injEq] at isActive ⊢
      subst isActive
      exact ⟨machineId, scope, last⟩
    · simp only [here, ↓reduceIte] at isActive ⊢
      obtain ⟨otherId, inScope, owned⟩ :=
        sound.active other earlier index earlierFound isActive
      exact ⟨otherId, inScope, grows _ _ owned⟩
  · intro index owned there
    simp only [ClientState.setActiveController, ClientState.updateInstance,
      List.getElem?_append] at there
    split at there
    · exact sound.opened index owned there
    · rw [List.getElem?_singleton] at there
      split at there <;> cases there
      refine ⟨machine.baseUrl, ?_, initial_openedTo machine⟩
      rw [MachineStore.baseUrlOf]
      exact congrArg (Option.map Machine.baseUrl) listed

/-! ## Operations of sound clients -/

/-- A step of a controller leaves the rest of the client as it is. -/
theorem stepController_frame {index : Nat} {input : ControllerInput δ}
    (taken : state.stepController index input = some next) :
    next.store = state.store ∧ next.instances = state.instances ∧
      ∀ other, next.machineIdOf other = state.machineIdOf other := by
  obtain ⟨owned, found, goes⟩ := Option.bind_eq_some_iff.mp taken
  obtain ⟨controller, moved, rfl⟩ := Option.map_eq_some_iff.mp goes
  exact ⟨rfl, rfl, machineIdOf_set found controller⟩

/-- A step that is no response to `CompletePairing`. -/
theorem Sound.stepController_quiet {index : Nat} {input : ControllerInput δ}
    (sound : Sound Issued state)
    (quiet : ∀ call credentials,
      input ≠ .resume call (.credentials credentials))
    (taken : state.stepController index input = some next) :
    Sound Issued next := by
  apply sound.stepController taken fun _ _ _ _ issued => issued
  intro call credentials owned session managed isIssue
  exact absurd isIssue (quiet call credentials)

/-- Closing a controller keeps the client sound, and its store. -/
theorem Sound.disposeController {position : Nat}
    (sound : Sound Issued state) :
    Sound Issued (state.disposeController position) ∧
      (state.disposeController position).store = state.store := by
  unfold ClientState.disposeController
  have closed : Sound Issued
      (((state.instances[position]?.bind
        ModalInstance.activeController).bind fun index =>
          state.stepController index .close).getD state) ∧
      (((state.instances[position]?.bind
        ModalInstance.activeController).bind fun index =>
          state.stepController index .close).getD state).store =
        state.store := by
    cases taken : (state.instances[position]?.bind
        ModalInstance.activeController).bind fun index =>
          state.stepController index .close with
    | none => exact ⟨sound, rfl⟩
    | some next =>
        obtain ⟨index, -, goes⟩ := Option.bind_eq_some_iff.mp taken
        exact ⟨sound.stepController_quiet (by simp) goes,
          (stepController_frame goes).1⟩
  exact ⟨closed.1.updateInstance (fun _ => rfl) (by simp), closed.2⟩

/-- A new controller keeps the client sound. -/
theorem Sound.replaceController {position : Nat}
    (sound : Sound Issued state) :
    Sound Issued (state.replaceController position) := by
  have disposed : Sound Issued (state.disposeController position) :=
    sound.disposeController.1
  unfold ClientState.replaceController
  dsimp only
  split
  · exact disposed
  · rename_i created
    obtain ⟨modal, found, goes⟩ := Option.bind_eq_some_iff.mp created
    exact (disposed.setActiveController found goes).1

/-- The controller of a modal is that of the machine in its scope. -/
theorem Sound.controller {position index : Nat}
    (sound : Sound Issued state)
    (taken : state.controller position = some (index, next)) :
    Sound Issued next ∧ next.store = state.store ∧ ∃ modal machineId,
      state.instances[position]? = some modal ∧
        modal.machineId = some machineId ∧
        next.machineIdOf index = some machineId := by
  obtain ⟨modal, found, goes⟩ := Option.bind_eq_some_iff.mp taken
  split at goes
  · rename_i isActive
    cases goes
    obtain ⟨machineId, scope, owned⟩ :=
      sound.active position modal index found isActive
    exact ⟨sound, rfl, modal, machineId, found, scope, owned⟩
  · obtain ⟨controller, created, same⟩ := Option.map_eq_some_iff.mp goes
    cases same
    obtain ⟨later, owned, scope⟩ := sound.setActiveController found created
    exact ⟨later, rfl, modal, controller.machineId, found, scope, owned⟩

/-- A call is one of a controller of the machine in scope, which is known. -/
theorem Sound.callSession {position index call : Nat}
    {input : ControllerInput δ}
    (sound : Sound Issued state)
    (quiet : ∀ call credentials,
      input ≠ .resume call (.credentials credentials))
    (taken : state.callSession position input = some (index, call, next)) :
    Sound Issued next ∧ next.store = state.store ∧ ∃ modal machineId,
      state.instances[position]? = some modal ∧
        modal.machineId = some machineId ∧
        next.machineIdOf index = some machineId ∧
        (state.store.baseUrlOf machineId).isSome := by
  obtain ⟨⟨active, middle⟩, found, goes⟩ := Option.bind_eq_some_iff.mp taken
  obtain ⟨last, moved, ends⟩ := Option.bind_eq_some_iff.mp goes
  obtain ⟨owned, there, same⟩ := Option.map_eq_some_iff.mp ends
  simp only [Prod.mk.injEq] at same
  obtain ⟨rfl, -, rfl⟩ := same
  obtain ⟨soundMiddle, storeMiddle, modal, machineId, inside, scope, isOf⟩ :=
    sound.controller found
  have later := soundMiddle.stepController_quiet quiet moved
  obtain ⟨storeLast, -, sameIds⟩ := stepController_frame moved
  have store : last.store = state.store := storeLast.trans storeMiddle
  have isOfLast : last.machineIdOf active = some machineId :=
    (sameIds active).trans isOf
  refine ⟨later, store, modal, machineId, inside, scope, isOfLast, ?_⟩
  obtain ⟨url, known, -⟩ := later.opened active owned there
  have sameId := (getElem?_machineIdOf there).symm.trans isOfLast
  rw [← store, ← Option.some.inj sameId, known]
  rfl

theorem Sound.endRequest {position : Nat} {machine : Machine} {serial : Nat}
    {result : Except String Int} (sound : Sound Issued state) :
    Sound Issued (state.endRequest position machine serial result) := by
  unfold ClientState.endRequest
  apply Sound.updateModal
  split
  · exact sound.updateModal
  · exact sound

/-- The scope of a modal that is changed. -/
theorem scope_updateModal {position : Nat} {modal : ModalInstance}
    {update : MachineModal → MachineModal}
    (found : (state.updateModal position update).instances[position]? =
      some modal) :
    ∃ earlier, state.instances[position]? = some earlier ∧
      modal.machineId = earlier.machineId := by
  rw [ClientState.updateModal, ClientState.updateInstance,
    List.getElem?_modify] at found
  obtain ⟨earlier, there, rfl⟩ := Option.map_eq_some_iff.mp found
  exact ⟨earlier, there, by simp⟩

/-- A modal whose machine, if it is known, is the given one. -/
def InScope (state : ClientState δ) (position : Nat)
    (Own : String → Prop) : Prop :=
  ∀ modal machineId, state.instances[position]? = some modal →
    modal.machineId = some machineId →
    (state.store.baseUrlOf machineId).isSome → Own machineId

theorem InScope.updateModal {position : Nat} {Own : String → Prop}
    {update : MachineModal → MachineModal}
    (inScope : state.InScope position Own) :
    (state.updateModal position update).InScope position Own := by
  intro modal machineId found scope known
  obtain ⟨earlier, there, same⟩ := scope_updateModal found
  exact inScope earlier machineId there (same.symm.trans scope) known

/-- A request for a code, for the machine of its dialog, keeps the client
sound. -/
theorem Sound.requestPairingCode {position : Nat} {machine : Machine}
    {confirmationCode : String}
    (sound : Sound Issued state)
    (own : state.InScope position (· = machine.id))
    (taken : state.requestPairingCode position machine confirmationCode =
      some next) :
    Sound Issued next := by
  obtain ⟨modal, found, rfl⟩ := Option.map_eq_some_iff.mp taken
  dsimp only
  split
  · exact sound.updateModal.endRequest
  · rename_i controller call last called
    obtain ⟨later, -, current, machineId, inside, scope, isOf, known⟩ :=
      sound.updateModal.callSession (by simp) called
    refine ⟨later.active, later.opened, ?_, later.completions⟩
    intro request member
    rcases List.mem_append.mp member with member | member
    · exact later.requests request member
    · cases List.mem_singleton.mp member
      rw [← own.updateModal current machineId inside scope known]
      exact isOf

/-- Pairing with the machine that the dialog is for keeps the client sound. -/
theorem Sound.pairSelected {position : Nat}
    (sound : Sound Issued state)
    (own : ∀ selected, state.pairs position = some selected →
      state.InScope position fun machineId =>
        state.store.baseUrlOf machineId = some selected.baseUrl) :
    Sound Issued (state.pairSelected position) := by
  unfold ClientState.pairSelected
  split
  · exact sound
  · rename_i selected pairs
    dsimp only
    split
    · exact sound.updateModal.updateModal
    · rename_i controller call last called
      obtain ⟨later, store, current, machineId, inside, scope, isOf, known⟩ :=
        sound.updateModal.callSession (by simp) called
      refine ⟨later.active, later.opened, later.requests, ?_⟩
      intro completion member
      rcases List.mem_append.mp member with member | member
      · exact later.completions completion member
      · cases List.mem_singleton.mp member
        obtain ⟨modal, -, goes⟩ := Option.bind_eq_some_iff.mp pairs
        split at goes
        · cases goes
        · have isKnown := MachineStore.baseUrlOf_of_findMachine goes
          have url := (own selected pairs).updateModal current machineId inside
            scope known
          refine ⟨machineId, isOf, ?_, ?_⟩
          · rw [store]
            exact url
          · rw [store]
            exact isKnown

/-! ## Steps that do not stray -/

/-- The machine in the scope of a modal. -/
def scopeMachine (state : ClientState δ) (position : Nat) : Option Machine :=
  state.instances[position]?.bind fun modal =>
    state.store.findMachine modal.machineId

/-- The machine in the scope of a modal is another one. -/
def isElsewhere (state : ClientState δ) (position : Nat)
    (machineId : String) : Bool :=
  (state.scopeMachine position).any fun own => own.id != machineId

/-- Whether `addMachine` adds a machine. -/
def adds (urls : MachineUrls) (state : ClientState δ) (position : Nat) :
    Bool :=
  state.instances[position]?.any fun modal =>
    (urls.normalizeMachineUrl modal.modal.baseUrl).toOption.isSome

/-- A modal asks for a pairing code for a machine that is not in its scope, or
pairs a machine whose URL is not that of the machine in its scope. -/
def strays (urls : MachineUrls) (state : ClientState δ) :
    ClientInput δ → Bool
  | .addMachine position id _ =>
      state.adds urls position && state.isElsewhere position id
  | .openPairMachineModal position machineId _ =>
      (state.store.findMachine (some machineId)).isSome &&
        state.isElsewhere position machineId
  | .requestSelectedPairingCode position _ =>
      state.store.selected.any fun selected =>
        state.isElsewhere position selected.id
  | .pairSelected position =>
      (state.pairs position).any fun selected =>
        (state.scopeMachine position).any fun own =>
          own.baseUrl != selected.baseUrl
  | _ => false

/-- What the machine in scope is not known to lack, it has. -/
theorem inScope_of_any {position : Nat} {check : Machine → Bool}
    {Own : String → Prop}
    (passes : (state.scopeMachine position).any check = false)
    (own : ∀ machineId machine,
      state.store.findMachine (some machineId) = some machine →
      check machine = false → Own machineId) :
    state.InScope position Own := by
  intro modal machineId found scope known
  rw [MachineStore.baseUrlOf, Option.isSome_map] at known
  obtain ⟨machine, listed⟩ := Option.isSome_iff_exists.mp known
  apply own machineId machine listed
  rw [scopeMachine, found, Option.bind_some, scope, listed] at passes
  exact passes

theorem inScope_of_isElsewhere {position : Nat} {machineId : String}
    (here : state.isElsewhere position machineId = false) :
    state.InScope position (· = machineId) := by
  refine inScope_of_any here ?_
  intro other machine listed same
  have id := MachineStore.findMachine_id listed
  rw [bne_eq_false_iff_eq] at same
  exact (Option.some.inj id).symm.trans same

theorem Sound.openModal {position : Nat} {machineId : String}
    {mode : MachineModalMode} {update : Machine → MachineModal → MachineModal}
    (sound : Sound Issued state) :
    Sound Issued (state.openModal position machineId mode update) := by
  unfold ClientState.openModal
  split
  · exact sound
  · exact (sound.setStore
      (MachineStore.keeps_selectMachine _ _)).updateModal

/-- Adding a machine keeps the client sound, if it does not stray. -/
theorem Sound.addMachine {urls : MachineUrls} {position : Nat}
    {id confirmationCode : String}
    (sound : Sound Issued state)
    (straight : state.strays urls
      (.addMachine position id confirmationCode) = false)
    (taken : state.addMachine urls position id confirmationCode =
      some next) :
    Sound Issued next := by
  obtain ⟨modal, found, goes⟩ := Option.bind_eq_some_iff.mp taken
  split at goes
  · cases goes
    exact sound.updateModal
  · rename_i normalizedBaseUrl valid
    have here : state.isElsewhere position id = false := by
      simpa [strays, adds, found, valid, Except.toOption] using straight
    apply (sound.setStore (MachineStore.keeps_addMachine _ _)).updateModal
      |>.requestPairingCode _ goes
    apply InScope.updateModal
    intro current machineId there scope known
    rcases MachineStore.isSome_of_addMachine known with known | same
    · exact inScope_of_isElsewhere here current machineId there scope known
    · exact same

/-- Opening a machine's pairing keeps the client sound, if it does not stray. -/
theorem Sound.openPairMachineModal {urls : MachineUrls} {position : Nat}
    {machineId confirmationCode : String}
    (sound : Sound Issued state)
    (straight : state.strays urls
      (.openPairMachineModal position machineId confirmationCode) = false)
    (taken : state.openPairMachineModal position machineId confirmationCode =
      some next) :
    Sound Issued next := by
  unfold ClientState.openPairMachineModal at taken
  split at taken
  · cases taken
    exact sound
  · rename_i machine listed
    have here : state.isElsewhere position machine.id = false := by
      rw [Option.some.inj (MachineStore.findMachine_id listed)]
      simpa [strays, listed] using straight
    apply sound.openModal.requestPairingCode _ taken
    have opened : state.openModal position machineId .pair (fun _ modal =>
        modal) = (state.setStore (state.store.selectMachine
          (some machine.id))).updateModal position fun modal =>
            modal.opened (some .pair) := by
      rw [ClientState.openModal, listed]
    have selected : (state.setStore (state.store.selectMachine
        (some machine.id))).InScope position (· = machine.id) :=
      inScope_of_isElsewhere here
    rw [opened]
    exact selected.updateModal

/-- The answer to a request keeps the client sound. -/
theorem Sound.resumeRequest {index : Nat} {result : Except String Int}
    (sound : Sound Issued state)
    (taken : state.resumeRequest index result = some next) :
    Sound Issued next := by
  obtain ⟨request, found, goes⟩ := Option.bind_eq_some_iff.mp taken
  have settled : Sound Issued
      { state with
        requests := state.requests.set index
          { request with settled := true } } := by
    refine ⟨sound.active, sound.opened, ?_, sound.completions⟩
    intro other member
    rcases List.mem_or_eq_of_mem_set member with member | same
    · exact sound.requests other member
    · rw [same]
      exact sound.requests request (List.mem_of_getElem? found)
  dsimp only at goes
  split at goes <;> cases goes
  · exact settled.endRequest
  · exact settled.endRequest

/-- The answer to a completion keeps the client sound. -/
theorem Sound.resumeCompletion {index : Nat} {message : String}
    (sound : Sound Issued state)
    (taken : state.resumeCompletion index message = some next) :
    Sound Issued next := by
  obtain ⟨completion, found, goes⟩ := Option.bind_eq_some_iff.mp taken
  have settled : Sound Issued
      { state with
        completions := state.completions.set index
          { completion with settled := true } } := by
    refine ⟨sound.active, sound.opened, sound.requests, ?_⟩
    intro other member
    rcases List.mem_or_eq_of_mem_set member with member | same
    · exact sound.completions other member
    · rw [same]
      exact sound.completions completion (List.mem_of_getElem? found)
  dsimp only at goes
  split at goes <;> cases goes
  · exact (settled.setStore
      (MachineStore.keeps_setMachineCredentials _ _)).updateModal
  · exact settled.updateModal
  · exact settled.updateModal

/-- A step that does not stray keeps a client sound. -/
theorem Sound.step
    {Later : Nat → Nat → IssuedCredentials → String → Prop}
    {urls : MachineUrls} {input : ClientInput δ}
    (sound : Sound Issued state)
    (straight : state.strays urls input = false)
    (taken : state.step urls input = some next)
    (stays : ∀ index call credentials url,
      Issued index call credentials url → Later index call credentials url)
    (issues : ∀ index call credentials owned session managed,
      input = .controller index (.resume call (.credentials credentials)) →
      state.controllers[index]? = some owned →
      owned.controller.calls[call]? = some (.completePairingAsked session) →
      owned.controller.sessions[session]? = some managed →
        Later index call credentials managed.machine.baseUrl) :
    Sound Later next := by
  cases input with
  | createInstance machineId =>
      cases taken
      refine Sound.mono ?_ stays
      refine ⟨?_, sound.opened, sound.requests, sound.completions⟩
      intro position modal index there isActive
      rw [List.getElem?_append] at there
      split at there
      · exact sound.active position modal index there isActive
      · rw [List.getElem?_singleton] at there
        split at there <;> cases there
        cases isActive
  | replaceController position =>
      cases taken
      exact sound.replaceController.mono stays
  | disposeController position =>
      cases taken
      exact sound.disposeController.1.mono stays
  | addMachine position id confirmationCode =>
      exact (sound.addMachine straight taken).mono stays
  | openPairMachineModal position machineId confirmationCode =>
      exact (sound.openPairMachineModal straight taken).mono stays
  | requestSelectedPairingCode position confirmationCode =>
      refine Sound.mono ?_ stays
      simp only [ClientState.step,
        ClientState.requestSelectedPairingCode] at taken
      split at taken
      · cases taken
        exact sound
      · rename_i selected isSelected
        apply sound.requestPairingCode _ taken
        apply inScope_of_isElsewhere
        simpa [strays, isSelected] using straight
  | pairSelected position =>
      cases taken
      refine Sound.mono (sound.pairSelected ?_) stays
      intro selected pairs
      rw [strays, pairs, Option.any_some] at straight
      refine inScope_of_any straight ?_
      intro machineId machine listed same
      rw [MachineStore.baseUrlOf, listed, Option.map_some,
        bne_eq_false_iff_eq.mp same]
  | openAddMachineModal position =>
      cases taken
      exact sound.updateModal.mono stays
  | openConfigMachineModal position machineId =>
      cases taken
      exact sound.openModal.mono stays
  | openDeleteMachineModal position machineId =>
      cases taken
      exact sound.openModal.mono stays
  | closeMachineModal position =>
      cases taken
      refine Sound.mono ?_ stays
      unfold ClientState.closeMachineModal
      split
      · exact sound
      · exact sound.updateModal
  | updateMachineNameDraft position value =>
      cases taken
      exact sound.updateModal.mono stays
  | updateBaseUrlDraft position value =>
      cases taken
      exact sound.updateModal.mono stays
  | setPairingCode position value =>
      cases taken
      exact sound.updateModal.mono stays
  | selectMachine machineId =>
      cases taken
      exact (sound.setStore (MachineStore.keeps_selectMachine _ _)).mono stays
  | clearMachineCredentials machineId =>
      cases taken
      exact (sound.setStore
        (MachineStore.keeps_clearMachineCredentials _)).mono stays
  | setMachineCredentialExpiry machineId expires =>
      cases taken
      exact (sound.setStore
        (MachineStore.keeps_setMachineCredentialExpiry _ _)).mono stays
  | controller index input =>
      simp only [ClientState.step] at taken
      split at taken
      · apply sound.stepController taken stays
        intro call credentials owned session managed isIssue
        exact issues index call credentials owned session managed
          (congrArg _ isIssue)
      · cases taken
  | resumeRequest request result =>
      exact (sound.resumeRequest taken).mono stays
  | resumeCompletion completion message =>
      exact (sound.resumeCompletion taken).mono stays

/-! ## Every run -/

/-- In a step, the response to `CompletePairing` that issues some credentials
reaches a call of a controller, over a session that is opened to `url`. -/
def Issues (index call : Nat) (credentials : IssuedCredentials) (url : String)
    (state : ClientState δ) (input : ClientInput δ) : Prop :=
  input = .controller index (.resume call (.credentials credentials)) ∧
    ∃ owned session managed, state.controllers[index]? = some owned ∧
      owned.controller.calls[call]? = some (.completePairingAsked session) ∧
      owned.controller.sessions[session]? = some managed ∧
      managed.machine.baseUrl = url

/-- The client is sound in every run that does not stray. -/
theorem run_sound {urls : MachineUrls} {store : MachineStore}
    {history : List (ClientInput δ)}
    (reached : run (step urls) (.initial store) history = some state)
    (straight : Throughout (step urls) (.initial store)
      (fun state input => state.strays urls input = false) history) :
    Sound (fun index call credentials url =>
      Occurred (step urls) (.initial store)
        (fun _ earlier input _ =>
          Issues index call credentials url earlier input) history) state := by
  apply @run_invariant_throughout _ _ _ _ _ _ (fun history state =>
    Sound (fun index call credentials url =>
      Occurred (step urls) (.initial store)
        (fun _ earlier input _ =>
          Issues index call credentials url earlier input) history) state)
    _ _ _ reached straight
  · refine ⟨?_, ?_, ?_, ?_⟩ <;> simp [initial]
  · intro history state input next early sound straight taken
    apply sound.step straight taken
    · exact fun _ _ _ _ issued => issued.append [input]
    · intro index call credentials owned session managed isIssue found asked
        there
      exact Occurred.now early taken
        ⟨isIssue, owned, session, managed, found, asked, there, rfl⟩

end ClientState

/-- In every run in which no modal strays: a pairing code is asked for over the
controller of the machine it is for, and credentials that are stored for a
machine were issued over a session opened to that machine's own URL. -/
theorem pairing_goes_to_its_machine {δ : Type} (urls : MachineUrls)
    (store : MachineStore)
    {history : List (ClientInput δ)} {state : ClientState δ}
    (reached : run (ClientState.step urls) (.initial store) history =
      some state)
    (straight : Throughout (ClientState.step urls) (.initial store)
      (fun state input => state.strays urls input = false) history) :
    (∀ request ∈ state.requests, ∀ owned session,
        state.controllers[request.controller]? = some owned →
        owned.controller.calls[request.call]? =
          some (.startPairingAsked session) →
        owned.machineId = request.machine.id) ∧
      ∀ before index message after (middle : ClientState δ) completion
        credentials machine,
        history = before ++ .resumeCompletion index message :: after →
        run (ClientState.step urls) (.initial store) before = some middle →
        middle.completions[index]? = some completion →
        middle.callOf completion.controller completion.call =
          some (.returnedCredentials credentials) →
        middle.store.findMachine (some completion.selected.id) =
          some machine →
        Occurred (ClientState.step urls) (.initial store)
          (fun _ earlier input _ => ClientState.Issues completion.controller
            completion.call credentials machine.baseUrl earlier input)
          before := by
  constructor
  · intro request member owned session found asked
    have own := (ClientState.run_sound reached straight).requests request member
    rw [ClientState.getElem?_machineIdOf found] at own
    exact Option.some.inj own
  · rintro before index message after middle completion credentials machine
      rfl there found returned listed
    have sound := ClientState.run_sound there straight.early
    obtain ⟨machineId, own, url, selected⟩ :=
      sound.completions completion (List.mem_of_getElem? found)
    obtain ⟨owned, held, called⟩ := Option.bind_eq_some_iff.mp returned
    obtain ⟨known, isKnown, opened⟩ :=
      sound.opened completion.controller owned held
    have isOwn := (ClientState.getElem?_machineIdOf held).symm.trans own
    rw [Option.some.inj isOwn, url] at isKnown
    rw [MachineStore.baseUrlOf, listed] at selected
    have same : machine.baseUrl = known :=
      (Option.some.inj selected).trans (Option.some.inj isKnown)
    rw [same]
    exact opened.issued completion.call _ credentials called rfl

/-- A browser that takes URLs as they are. -/
def plainUrls : MachineUrls := ⟨.ok, fun _ => "b"⟩

/-- The only machine is selected, and not paired. -/
def oneMachineStore : MachineStore :=
  ⟨[⟨"a", "a", "https://a.ts.net:9012", none, none, none⟩], some "a"⟩

/-- The modal of the machine, with a session that has opened. -/
def openedHistory : List (ClientInput Unit) :=
  [.createInstance (some "a"), .replaceController 0,
    .controller 0 (.advance 0 true)]

/-- The pairing code is asked for, and the machine is paired with it. -/
def pairedHistory : List (ClientInput Unit) :=
  [.controller 0 (.resume 2 .none), .controller 0 (.resume 2 .succeeded),
    .resumeRequest 0 (.ok 300), .setPairingCode 0 "1234", .pairSelected 0,
    .controller 0 (.resume 3 .none),
    .controller 0 (.resume 3 (.credentials newCredentials)),
    .controller 0 (.resume 3 .none), .controller 0 (.resume 3 .none),
    .controller 0 (.resume 3 .succeeded)]

/-- The modal pairs the machine in its scope. -/
def ownPairingHistory : List (ClientInput Unit) :=
  openedHistory ++ .openPairMachineModal 0 "a" "07" :: pairedHistory

/-- A pairing goes to the machine that was selected. -/
theorem pairing_goes_to_its_machine_selected :
    Occurred (ClientState.step plainUrls)
      (.initial oneMachineStore : ClientState Unit)
      (fun _ earlier input _ => ClientState.Issues 0 3 newCredentials
        "https://a.ts.net:9012" earlier input) ownPairingHistory := by
  have ends : (run (ClientState.step plainUrls) (.initial oneMachineStore)
      (ownPairingHistory ++ [.resumeCompletion 0 ""])).isSome := by
    rfl
  have shows : (run (ClientState.step plainUrls) (.initial oneMachineStore)
      ownPairingHistory).map (fun state =>
        (state.completions.map fun completion =>
          (completion.selected.id, completion.controller, completion.call),
          state.callOf 0 3,
          (state.store.findMachine (some "a")).map Machine.baseUrl)) =
        some ([("a", 0, 3)], some (.returnedCredentials newCredentials),
          some "https://a.ts.net:9012") := by
    rfl
  obtain ⟨state, reached⟩ := Option.isSome_iff_exists.mp ends
  obtain ⟨middle, there, values⟩ := Option.map_eq_some_iff.mp shows
  simp only [Prod.mk.injEq, List.map_eq_singleton_iff] at values
  obtain ⟨⟨completion, only, id, controller, call⟩, returned, listed⟩ := values
  obtain ⟨machine, found, url⟩ := Option.map_eq_some_iff.mp listed
  have issued := (pairing_goes_to_its_machine plainUrls oneMachineStore reached
    (throughout_of_checkEach_eq_false (by rfl))).2
    ownPairingHistory 0 "" [] middle completion newCredentials machine rfl there
    (by rw [only]; rfl) (by rw [controller, call]; exact returned)
    (by rw [id]; exact found)
  rw [controller, call, url] at issued
  exact issued

/-- A machine is added through the modal of another one: the code is asked for
over the controller of the other machine, and the credentials that this one
issues are stored for the new machine. -/
theorem pairing_goes_elsewhere :
    (run (ClientState.step plainUrls) (.initial oneMachineStore)
        (openedHistory ++
          [.updateBaseUrlDraft 0 "https://b.ts.net:9012",
            .addMachine 0 "b" "07", .controller 0 (.resume 2 .none)])).map
          (fun state => (state.requests.map fun request => request.machine.id,
            state.controllers.map MachineController.machineId,
            state.callOf 0 2)) =
        some (["b"], ["a"], some (.startPairingAsked 0)) ∧
      (run (ClientState.step plainUrls) (.initial oneMachineStore)
        (openedHistory ++
          [.updateBaseUrlDraft 0 "https://b.ts.net:9012",
            .addMachine 0 "b" "07"] ++ pairedHistory ++
          [.resumeCompletion 0 ""])).map
          (fun state => (state.store.machines.map fun machine =>
            (machine.baseUrl, machine.clientSecret),
            state.controllers.map fun owned =>
              owned.controller.sessions.map fun managed =>
                managed.machine.baseUrl)) =
        some ([("https://a.ts.net:9012", none),
          ("https://b.ts.net:9012", some "secret")],
          [["https://a.ts.net:9012"]]) := by
  decide

end Web
end WhatsGoingOn
