import WhatsGoingOn.Host.PairingAttempts

/-!
# Updates of the client credentials

A completion and a renewal read the whole table of clients from its file, change
one record, and write the table back, to the file, to memory, and to the
channel of the client table.  Nothing keeps two requests from doing so at the
same time.
-/

namespace WhatsGoingOn
namespace Host

open Daemon

/-! ## What a step does to the credentials -/

/-- Whether a task has read the table and not yet published it. -/
def PairingTask.updating : PairingTask → Bool
  | .remember .. | .save .. | .install .. | .publish .. => true
  | _ => false

/-- Whether a task reads the table next. -/
def PairingTask.loading : PairingTask → Bool
  | .load .. => true
  | _ => false

/-- Nothing has changed but the state of pairing. -/
structure SameCredentials (shared next : PairingHost) : Prop where
  file : next.file = shared.file
  memory : next.memory = shared.memory
  published : next.published = shared.published
  receivers : next.receivers = shared.receivers

/-- The effect of one action of a task on the credentials. -/
inductive CredentialEffect
    (sha256Base64url : List UInt8 → String) (shared : PairingHost) :
    PairingTask → PairingInput → PairingHost → PairingTask → Prop
  | load (request : CredentialRequest) (nowUnix : Int) (answers : Answers) :
      CredentialEffect sha256Base64url shared (.load request nowUnix)
        (.proceed answers) shared (.remember request nowUnix shared.file)
  | remember (request : CredentialRequest) (nowUnix : Int)
      (loaded : ClientCredentials) (answers : Answers) :
      CredentialEffect sha256Base64url shared
        (.remember request nowUnix loaded) (.proceed answers)
        { shared with memory := loaded } (.save request nowUnix loaded)
  | save (request : CredentialRequest) (nowUnix : Int)
      (loaded stored : ClientCredentials) (outcome : UnaryRpcOutcome)
      (answers : Answers)
      (performed : request.perform sha256Base64url nowUnix answers.drawn
        loaded = .inl (stored, outcome)) :
      CredentialEffect sha256Base64url shared (.save request nowUnix loaded)
        (.proceed answers) { shared with file := stored }
        (.install outcome stored)
  | refuse (request : CredentialRequest) (nowUnix : Int)
      (loaded : ClientCredentials) (outcome : UnaryRpcOutcome)
      (answers : Answers)
      (performed : request.perform sha256Base64url nowUnix answers.drawn
        loaded = .inr outcome) :
      CredentialEffect sha256Base64url shared (.save request nowUnix loaded)
        (.proceed answers) shared (.finished (some outcome))
  | install (outcome : UnaryRpcOutcome) (stored : ClientCredentials)
      (answers : Answers) :
      CredentialEffect sha256Base64url shared (.install outcome stored)
        (.proceed answers) { shared with memory := stored }
        (.publish outcome stored)
  | publish (outcome : UnaryRpcOutcome) (stored : ClientCredentials)
      (answers : Answers) :
      CredentialEffect sha256Base64url shared (.publish outcome stored)
        (.proceed answers)
        { shared with
          published :=
            if shared.receivers = 0 then shared.published else stored }
        (.finished (some outcome))
  | fail (task : PairingTask) (fails : task.canFail = true) :
      CredentialEffect sha256Base64url shared task .fail shared
        (.finished none)
  | other (task after : PairingTask) (answers : Answers) (next : PairingHost)
      (same : SameCredentials shared next)
      (idle : task.updating = false) (notLoading : task.loading = false)
      (stays : after.updating = false) :
      CredentialEffect sha256Base64url shared task (.proceed answers) next
        after

/-- What a step of a task does to the credentials. -/
theorem advance_credentialEffect
    {sha256Base64url : List UInt8 → String} {shared next : PairingHost}
    {task after : PairingTask} {input : PairingInput}
    (acted : advancePairing sha256Base64url shared task input =
      some (next, after)) :
    CredentialEffect sha256Base64url shared task input next after := by
  cases input with
  | fail =>
      simp only [advancePairing] at acted
      split at acted
      · rename_i fails
        cases acted
        exact .fail task fails
      · cases acted
  | proceed answers =>
      simp only [advancePairing] at acted
      have unchanged : SameCredentials shared shared := ⟨rfl, rfl, rfl, rfl⟩
      cases task with
      | load request nowUnix =>
          cases acted
          exact .load request nowUnix answers
      | remember request nowUnix loaded =>
          cases acted
          exact .remember request nowUnix loaded answers
      | save request nowUnix loaded =>
          simp only [PairingTask.proceed] at acted
          split at acted
          · rename_i stored outcome performed
            cases acted
            exact .save request nowUnix loaded stored outcome answers performed
          · rename_i outcome performed
            cases acted
            exact .refuse request nowUnix loaded outcome answers performed
      | install outcome stored =>
          cases acted
          exact .install outcome stored answers
      | publish outcome stored =>
          cases acted
          exact .publish outcome stored answers
      | finished outcome => cases acted
      | confirming attempt =>
          cases acted
          exact .other _ _ answers _ unchanged rfl rfl (by split <;> rfl)
      | confirmed attempt =>
          cases acted
          exact .other _ _ answers _ unchanged rfl rfl (by split <;> rfl)
      | notifying attempt expiresAtUnix =>
          cases acted
          exact .other _ _ answers _ unchanged rfl rfl (by split <;> rfl)
      | creating attempt =>
          simp only [PairingTask.proceed] at acted
          split at acted <;> cases acted <;>
            exact .other _ _ answers _ ⟨rfl, rfl, rfl, rfl⟩ rfl rfl rfl
      | checking session code nowUnix =>
          simp only [PairingTask.proceed] at acted
          split at acted <;> cases acted <;>
            exact .other _ _ answers _ ⟨rfl, rfl, rfl, rfl⟩ rfl rfl rfl
      | _ =>
          cases acted
          exact .other _ _ answers _ ⟨rfl, rfl, rfl, rfl⟩ rfl rfl rfl

/-! ## Updates, one after the other -/

/-- What a request that succeeds has changed. -/
inductive CredentialUpdate where
  | issued (record : ClientCredentialRecord)
  | renewed (clientId : String) (nowUnix : Int)
  deriving DecidableEq, Repr

namespace CredentialUpdate

/-- The client that an update is about. -/
def clientId : CredentialUpdate → String
  | .issued record => record.clientId
  | .renewed clientId _ => clientId

/-- What an update does to the stored credentials. -/
def apply : CredentialUpdate → ClientCredentials → ClientCredentials
  | .issued record, credentials =>
      CredentialRequest.replaceRecord record credentials
  | .renewed clientId nowUnix, credentials =>
      ⟨CredentialRequest.renewFirst clientId nowUnix credentials.clients⟩

/-- Updates applied in order. -/
def applyAll (updates : List CredentialUpdate)
    (credentials : ClientCredentials) : ClientCredentials :=
  updates.foldl (fun credentials update => update.apply credentials) credentials

end CredentialUpdate

/-- The update of a request. -/
def CredentialRequest.update (sha256Base64url : List UInt8 → String)
    (request : CredentialRequest) (nowUnix : Int) (drawn : DrawnCredential)
    (loaded : ClientCredentials) : CredentialUpdate :=
  match request with
  | .complete challenge =>
      .issued (issue sha256Base64url challenge nowUnix drawn loaded).record
  | .renew clientId => .renewed clientId nowUnix

/-- The first record of a client. -/
def lookupClient (credentials : ClientCredentials) (clientId : String) :
    Option ClientCredentialRecord :=
  credentials.clients.find? fun record => record.clientId == clientId

section Updates

variable {sha256Base64url : List UInt8 → String} {clientId other : String}

/-- What a request stores is its update of what it has loaded; a renewal has
found its client there. -/
theorem perform_eq_inl
    {request : CredentialRequest} {nowUnix : Int} {drawn : DrawnCredential}
    {loaded stored : ClientCredentials} {outcome : UnaryRpcOutcome}
    (performed : request.perform sha256Base64url nowUnix drawn loaded =
      .inl (stored, outcome)) :
    stored = (request.update sha256Base64url nowUnix drawn loaded).apply
        loaded ∧
      ∀ clientId, request = .renew clientId →
        (lookupClient loaded clientId).isSome := by
  cases request with
  | complete challenge =>
      cases performed
      exact ⟨rfl, by simp⟩
  | renew clientId =>
      simp only [CredentialRequest.perform] at performed
      split at performed
      · cases performed
      · rename_i record found
        cases performed
        refine ⟨rfl, ?_⟩
        rintro same ⟨⟩
        simp [lookupClient, found]

/-- A renewal changes the record that is found of its client only. -/
theorem find?_renewFirst (clientId other : String) (nowUnix : Int)
    (records : List ClientCredentialRecord) :
    (CredentialRequest.renewFirst clientId nowUnix records).find?
        (fun record => record.clientId == other) =
      (records.find? (fun record => record.clientId == other)).map
        (fun record =>
          if clientId = other then renewClientCredential record nowUnix
          else record) := by
  induction records with
  | nil => rfl
  | cons record records inductionHypothesis =>
      by_cases its : record.clientId = clientId
      · by_cases same : clientId = other
        · simp [CredentialRequest.renewFirst, its, same, renewClientCredential]
        · simp [CredentialRequest.renewFirst, its, same, renewClientCredential]
      · by_cases same : record.clientId = other
        · have different : clientId ≠ other := fun equal => its (same.trans
            equal.symm)
          simp [CredentialRequest.renewFirst, same, different, different.symm]
        · simp [CredentialRequest.renewFirst, its, same, inductionHypothesis]

/-- A client that was issued credentials is found with them. -/
theorem lookupClient_issued (record : ClientCredentialRecord)
    (credentials : ClientCredentials) :
    lookupClient ((CredentialUpdate.issued record).apply credentials)
      record.clientId = some record := by
  have absent : (credentials.clients.filter
      (fun other => other.clientId != record.clientId)).find?
        (fun other => other.clientId == record.clientId) = none := by
    apply List.find?_eq_none.mpr
    intro other member
    have different := (List.mem_filter.mp member).2
    simpa using different
  simp [lookupClient, CredentialUpdate.apply, CredentialRequest.replaceRecord,
    List.find?_append, absent]

theorem lookupClient_renewed (clientId : String) (nowUnix : Int)
    (credentials : ClientCredentials) :
    lookupClient ((CredentialUpdate.renewed clientId nowUnix).apply credentials)
        clientId =
      (lookupClient credentials clientId).map
        (fun record => renewClientCredential record nowUnix) := by
  simp [lookupClient, CredentialUpdate.apply, find?_renewFirst]

/-- An update leaves the other clients alone. -/
theorem lookupClient_apply_of_ne
    {update : CredentialUpdate} (credentials : ClientCredentials)
    (different : update.clientId ≠ clientId) :
    lookupClient (update.apply credentials) clientId =
      lookupClient credentials clientId := by
  cases update with
  | issued record =>
      have apart : record.clientId ≠ clientId := different
      have same : ∀ other : ClientCredentialRecord,
          (!decide (other.clientId = record.clientId) &&
            decide (other.clientId = clientId)) =
              decide (other.clientId = clientId) := by
        intro other
        by_cases its : other.clientId = clientId
        · simp [its, apart.symm]
        · simp [its]
      simp [lookupClient, CredentialUpdate.apply,
        CredentialRequest.replaceRecord, List.find?_append, List.find?_filter,
        same, apart, beq_eq_decide]
  | renewed renewedId nowUnix =>
      have apart : renewedId ≠ clientId := different
      simp [lookupClient, CredentialUpdate.apply, find?_renewFirst, apart]

theorem applyAll_concat (updates : List CredentialUpdate)
    (update : CredentialUpdate) (credentials : ClientCredentials) :
    CredentialUpdate.applyAll (updates ++ [update]) credentials =
      update.apply (CredentialUpdate.applyAll updates credentials) := by
  simp [CredentialUpdate.applyAll]

/-- Later updates of other clients leave a client alone. -/
theorem lookupClient_applyAll_of_ne
    {updates : List CredentialUpdate} (credentials : ClientCredentials)
    (different : ∀ update ∈ updates, update.clientId ≠ clientId) :
    lookupClient (CredentialUpdate.applyAll updates credentials) clientId =
      lookupClient credentials clientId := by
  induction updates generalizing credentials with
  | nil => rfl
  | cons update updates inductionHypothesis =>
      have rest := inductionHypothesis (update.apply credentials)
        fun later member => different later (by simp [member])
      rw [← lookupClient_apply_of_ne credentials (different update (by simp)),
        ← rest]
      rfl

end Updates

/-! ## What a run has stored -/

/-- The update that one step stores. -/
def updateStored (sha256Base64url : List UInt8 → String) (state : PairingRun) :
    PairingEvent → List CredentialUpdate
  | .advance index (.proceed answers) =>
      match state.tasks[index]? with
      | some (.save request nowUnix loaded) =>
          match request.perform sha256Base64url nowUnix answers.drawn loaded
            with
          | .inl _ =>
              [request.update sha256Base64url nowUnix answers.drawn loaded]
          | .inr _ => []
      | _ => []
  | _ => []

section Runs

variable (sha256Base64url : List UInt8 → String) (pairingNotifier : Bool)
  (credentials : ClientCredentials)

/-- The updates that a run has stored, in order. -/
def updatesStored (history : List PairingEvent) : List CredentialUpdate :=
  collect (pairingSystem sha256Base64url pairingNotifier).step
    (updateStored sha256Base64url) ⟨PairingHost.initial credentials, []⟩ history

/-- No request is between reading the table and publishing it. -/
def Quiet (state : PairingRun) : Prop :=
  ∀ task ∈ state.tasks, task.updating = false

/-- The file, the memory and the client table agree, and hold every update
that was stored: what was issued or renewed last for a client is there. -/
structure NothingLost (history : List PairingEvent) (state : PairingRun) :
    Prop where
  file : state.shared.file = CredentialUpdate.applyAll
    (updatesStored sha256Base64url pairingNotifier credentials history)
    credentials
  memory : state.shared.memory = state.shared.file
  published : state.shared.published = state.shared.file
  issued : ∀ {early late record},
    updatesStored sha256Base64url pairingNotifier credentials history =
        early ++ .issued record :: late →
      (∀ later ∈ late, later.clientId ≠ record.clientId) →
        lookupClient state.shared.file record.clientId = some record
  renewed : ∀ {early late clientId nowUnix},
    updatesStored sha256Base64url pairingNotifier credentials history =
        early ++ .renewed clientId nowUnix :: late →
      (∀ later ∈ late, later.clientId ≠ clientId) →
        ∃ record, lookupClient state.shared.file clientId = some record ∧
          record.expiresAtUnix = clientCredentialExpiresAt nowUnix

/-- Whether a step keeps updates apart: a request reads the table when no
other is between reading and publishing, and publishes it to some receiver. -/
def keepsUpdatesApart (state : PairingRun) : PairingEvent → Bool
  | .advance index (.proceed _) =>
      match state.tasks[index]? with
      | some (.load ..) => state.tasks.all fun task => !task.updating
      | some (.publish ..) => decide (0 < state.shared.receivers)
      | _ => true
  | _ => true

/-- What a task in the middle of an update knows of what is shared. -/
def UpdateStage (shared : PairingHost) : PairingTask → Prop
  | .remember _ _ loaded | .save _ _ loaded =>
      loaded = shared.file ∧ shared.memory = shared.file ∧
        shared.published = shared.file
  | .install _ stored => stored = shared.file
  | .publish _ stored =>
      stored = shared.file ∧ shared.memory = shared.file
  | _ => True

/-- Updates have been made one after the other. -/
structure SerialUpdates (history : List PairingEvent) (state : PairingRun) :
    Prop where
  serial : state.shared.file = CredentialUpdate.applyAll
    (updatesStored sha256Base64url pairingNotifier credentials history)
    credentials
  renewed : ∀ {early late clientId nowUnix},
    updatesStored sha256Base64url pairingNotifier credentials history =
        early ++ .renewed clientId nowUnix :: late →
      (lookupClient (CredentialUpdate.applyAll early credentials)
        clientId).isSome
  one : ∀ {index other : Nat} {task otherTask : PairingTask},
    state.tasks[index]? = some task → task.updating = true →
      state.tasks[other]? = some otherTask → otherTask.updating = true →
        other = index
  quiet : Quiet state →
    state.shared.memory = state.shared.file ∧
      state.shared.published = state.shared.file
  stage : ∀ {index : Nat} {task : PairingTask},
    state.tasks[index]? = some task → UpdateStage state.shared task

end Runs

theorem UpdateStage.of_not_updating
    {shared : PairingHost} {task : PairingTask}
    (idle : task.updating = false) : UpdateStage shared task := by
  cases task <;> trivial

theorem UpdateStage.of_same
    {shared next : PairingHost} {task : PairingTask}
    (same : SameCredentials shared next) (stage : UpdateStage shared task) :
    UpdateStage next task := by
  cases task <;>
    simp_all [UpdateStage, same.file, same.memory, same.published]

section Serial

variable {sha256Base64url : List UInt8 → String} {pairingNotifier : Bool}
  {credentials : ClientCredentials} {history : List PairingEvent}
  {event : PairingEvent} {state next : PairingRun}

theorem updatesStored_concat
    (reached : pairingRun sha256Base64url pairingNotifier credentials history =
      some state)
    (taken : (pairingSystem sha256Base64url pairingNotifier).step state event =
      some next) :
    updatesStored sha256Base64url pairingNotifier credentials
        (history ++ [event]) =
      updatesStored sha256Base64url pairingNotifier credentials history ++
        updateStored sha256Base64url state event :=
  collect_concat (updateStored sha256Base64url) reached taken

/-- A step that touches neither the credentials nor a task that updates
them. -/
theorem SerialUpdates.idle
    (serial : SerialUpdates sha256Base64url pairingNotifier credentials history
      state)
    (stored : updatesStored sha256Base64url pairingNotifier credentials
        (history ++ [event]) =
      updatesStored sha256Base64url pairingNotifier credentials history)
    (same : SameCredentials state.shared next.shared)
    (older : ∀ {index : Nat} {task : PairingTask},
      next.tasks[index]? = some task → task.updating = true →
        state.tasks[index]? = some task)
    (newer : ∀ {index : Nat} {task : PairingTask},
      state.tasks[index]? = some task → task.updating = true →
        next.tasks[index]? = some task) :
    SerialUpdates sha256Base64url pairingNotifier credentials
      (history ++ [event]) next where
  serial := by
    rw [stored, same.file]
    exact serial.serial
  renewed := by
    rw [stored]
    exact serial.renewed
  one first firstUpdates second secondUpdates :=
    serial.one (older first firstUpdates) firstUpdates
      (older second secondUpdates) secondUpdates
  quiet := by
    intro quiet
    have before : Quiet state := by
      intro task member
      by_contra updates
      simp only [Bool.not_eq_false] at updates
      obtain ⟨index, found⟩ := List.getElem?_of_mem member
      have still := quiet task (List.mem_of_getElem? (newer found updates))
      rw [still] at updates
      cases updates
    rw [same.file, same.memory, same.published]
    exact serial.quiet before
  stage := by
    intro index task found
    by_cases updates : task.updating = true
    · exact (serial.stage (older found updates)).of_same same
    · exact UpdateStage.of_not_updating (by simpa using updates)

/-- After a step of the one task that may be updating. -/
theorem serialUpdates_single
    {shared : PairingHost} {tasks : List PairingTask} {index : Nat}
    {after : PairingTask}
    (serial : shared.file = CredentialUpdate.applyAll
      (updatesStored sha256Base64url pairingNotifier credentials history)
      credentials)
    (renewed : ∀ {early late clientId nowUnix},
      updatesStored sha256Base64url pairingNotifier credentials history =
          early ++ .renewed clientId nowUnix :: late →
        (lookupClient (CredentialUpdate.applyAll early credentials)
          clientId).isSome)
    (inside : index < tasks.length)
    (others : ∀ {other task}, tasks[other]? = some task → other ≠ index →
      task.updating = false)
    (stage : UpdateStage shared after)
    (rest : after.updating = false →
      shared.memory = shared.file ∧ shared.published = shared.file) :
    SerialUpdates sha256Base64url pairingNotifier credentials history
      ⟨shared, tasks.set index after⟩ where
  serial := serial
  renewed := renewed
  one := by
    have only : ∀ {other task}, (tasks.set index after)[other]? = some task →
        task.updating = true → other = index := by
      intro other task found updates
      rcases TaskSystem.getElem?_set_cases found with ⟨same, -⟩ |
        ⟨different, before⟩
      · exact same
      · rw [others before different] at updates
        cases updates
    intro first second firstTask secondTask firstFound firstUpdates
      secondFound secondUpdates
    rw [only firstFound firstUpdates, only secondFound secondUpdates]
  quiet := by
    intro quiet
    exact rest (quiet after (List.mem_set inside after))
  stage := by
    intro other task found
    rcases TaskSystem.getElem?_set_cases found with ⟨-, rfl⟩ |
      ⟨different, before⟩
    · exact stage
    · exact UpdateStage.of_not_updating (others before different)

theorem startRequest_idle (request : PairingRequest) :
    (startRequest pairingNotifier request).updating = false := by
  unfold startRequest
  repeat' split
  all_goals rfl

/-- Starting a request or disturbing pairing stores nothing. -/
theorem SerialUpdates.undisturbed
    (serial : SerialUpdates sha256Base64url pairingNotifier credentials history
      state)
    (reached : pairingRun sha256Base64url pairingNotifier credentials history =
      some state)
    (taken : (pairingSystem sha256Base64url pairingNotifier).step state event =
      some next)
    (notAdvance : ∀ index input, event ≠ .advance index input) :
    SerialUpdates sha256Base64url pairingNotifier credentials
      (history ++ [event]) next := by
  have stored := updatesStored_concat reached taken
  cases event with
  | launch request =>
      obtain ⟨task, launched, rfl⟩ := TaskSystem.step_launch_eq_some.mp taken
      cases launched
      simp only [updateStored, List.append_nil] at stored
      refine serial.idle stored ?_ ?_ ?_
      · exact ⟨rfl, rfl, rfl, rfl⟩
      · intro index task found updates
        rcases TaskSystem.getElem?_concat_cases found with ⟨-, rfl⟩ |
          ⟨-, before⟩
        · rw [startRequest_idle] at updates
          cases updates
        · exact before
      · intro index task found updates
        rw [List.getElem?_append_left
          (List.getElem?_eq_some_iff.mp found).1]
        exact found
  | advance index input => exact absurd rfl (notAdvance index input)
  | disturb cause =>
      obtain ⟨shared, disturbed, rfl⟩ :=
        TaskSystem.step_disturb_eq_some.mp taken
      simp only [updateStored, List.append_nil] at stored
      have same : shared.file = state.shared.file ∧
          shared.memory = state.shared.memory ∧
          shared.published = state.shared.published := by
        cases cause <;> cases disturbed <;> exact ⟨rfl, rfl, rfl⟩
      -- Only the receivers may have changed, and no stage speaks of them.
      refine {
        serial := ?_, renewed := ?_, one := serial.one, quiet := ?_,
        stage := ?_ }
      · rw [stored, same.1]
        exact serial.serial
      · rw [stored]
        exact serial.renewed
      · rw [same.1, same.2.1, same.2.2]
        exact serial.quiet
      · intro index task found
        have stage := serial.stage found
        cases task <;> simp_all [UpdateStage]

/-- A task that is not updating acts, and no task that is sees it. -/
theorem SerialUpdates.unseen
    {index : Nat} {task after : PairingTask} {shared : PairingHost}
    (serial : SerialUpdates sha256Base64url pairingNotifier credentials history
      state)
    (stored : updatesStored sha256Base64url pairingNotifier credentials
        (history ++ [event]) =
      updatesStored sha256Base64url pairingNotifier credentials history)
    (found : state.tasks[index]? = some task)
    (same : SameCredentials state.shared shared)
    (idle : task.updating = false) (stays : after.updating = false) :
    SerialUpdates sha256Base64url pairingNotifier credentials
      (history ++ [event]) ⟨shared, state.tasks.set index after⟩ := by
  apply serial.idle stored same
  · intro other otherTask otherFound updates
    rcases TaskSystem.getElem?_set_cases otherFound with ⟨-, rfl⟩ |
      ⟨-, before⟩
    · rw [stays] at updates
      cases updates
    · exact before
  · intro other otherTask otherFound updates
    have different : index ≠ other := by
      rintro rfl
      rw [found] at otherFound
      cases otherFound
      rw [idle] at updates
      cases updates
    rw [List.getElem?_set_ne different]
    exact otherFound

/-- Beside a task that updates the credentials no other does. -/
theorem SerialUpdates.others {index other : Nat} {task second : PairingTask}
    (serial : SerialUpdates sha256Base64url pairingNotifier credentials history
      state)
    (found : state.tasks[index]? = some task) (updates : task.updating = true)
    (present : state.tasks[other]? = some second) (different : other ≠ index) :
    second.updating = false := by
  by_contra again
  simp only [Bool.not_eq_false] at again
  exact different (serial.one found updates present again)

/-- The one task that may be updating acts, and stores nothing. -/
theorem SerialUpdates.alone
    {index : Nat} {task after : PairingTask} {shared : PairingHost}
    (serial : SerialUpdates sha256Base64url pairingNotifier credentials history
      state)
    (stored : updatesStored sha256Base64url pairingNotifier credentials
        (history ++ [event]) =
      updatesStored sha256Base64url pairingNotifier credentials history)
    (found : state.tasks[index]? = some task)
    (file : shared.file = state.shared.file)
    (others : ∀ {other task}, state.tasks[other]? = some task →
      other ≠ index → task.updating = false)
    (stage : UpdateStage shared after)
    (rest : after.updating = false →
      shared.memory = shared.file ∧ shared.published = shared.file) :
    SerialUpdates sha256Base64url pairingNotifier credentials
      (history ++ [event]) ⟨shared, state.tasks.set index after⟩ := by
  refine serialUpdates_single ?_ ?_ (List.getElem?_eq_some_iff.mp found).1
    others stage rest
  · rw [stored, file]
    exact serial.serial
  · rw [stored]
    exact serial.renewed

/-- Every renewal of a list of updates finds its client, if those before the
last do and the last does. -/
theorem renewed_concat {stored : List CredentialUpdate}
    {update : CredentialUpdate}
    (before : ∀ {early late clientId nowUnix},
      stored = early ++ .renewed clientId nowUnix :: late →
        (lookupClient (CredentialUpdate.applyAll early credentials)
          clientId).isSome)
    (latest : ∀ {clientId nowUnix}, update = .renewed clientId nowUnix →
      (lookupClient (CredentialUpdate.applyAll stored credentials)
        clientId).isSome)
    {early late : List CredentialUpdate} {clientId : String} {nowUnix : Int}
    (shape : stored ++ [update] = early ++ .renewed clientId nowUnix :: late) :
    (lookupClient (CredentialUpdate.applyAll early credentials)
      clientId).isSome := by
  rcases List.eq_nil_or_concat late with rfl | ⟨late, last, rfl⟩
  · obtain ⟨rfl, same⟩ := List.append_inj' shape rfl
    exact latest (List.cons.inj same).1
  · have split : stored ++ [update] =
        (early ++ .renewed clientId nowUnix :: late) ++ [last] := by
      simpa using shape
    exact before (List.append_inj' split rfl).1

/-- A task stores what it made of the table that it had loaded. -/
theorem SerialUpdates.save
    {index : Nat} {request : CredentialRequest} {nowUnix : Int}
    {loaded changed : ClientCredentials} {outcome : UnaryRpcOutcome}
    {drawn : DrawnCredential} {shared : PairingHost}
    (serial : SerialUpdates sha256Base64url pairingNotifier credentials history
      state)
    (stored : updatesStored sha256Base64url pairingNotifier credentials
        (history ++ [event]) =
      updatesStored sha256Base64url pairingNotifier credentials history ++
        [request.update sha256Base64url nowUnix drawn loaded])
    (found : state.tasks[index]? = some (.save request nowUnix loaded))
    (performed : request.perform sha256Base64url nowUnix drawn loaded =
      .inl (changed, outcome))
    (file : shared.file = changed) :
    SerialUpdates sha256Base64url pairingNotifier credentials
      (history ++ [event])
      ⟨shared, state.tasks.set index (.install outcome changed)⟩ := by
  obtain ⟨same, -, -⟩ := serial.stage found
  obtain ⟨updated, client⟩ := perform_eq_inl performed
  refine serialUpdates_single ?_ ?_ (List.getElem?_eq_some_iff.mp found).1
    (fun present different => serial.others found rfl present different)
    file.symm (by simp [PairingTask.updating])
  · rw [stored, applyAll_concat, ← serial.serial, ← same, file]
    exact updated
  · intro early late clientId renewedUnix shape
    rw [stored] at shape
    apply renewed_concat serial.renewed _ shape
    intro clientId nowUnix renewal
    rw [← serial.serial, ← same]
    apply client
    cases request with
    | complete challenge => cases renewal
    | renew renewing =>
        cases renewal
        rfl

/-- A task acts. -/
theorem SerialUpdates.advance
    {index : Nat} {input : PairingInput}
    (serial : SerialUpdates sha256Base64url pairingNotifier credentials history
      state)
    (reached : pairingRun sha256Base64url pairingNotifier credentials history =
      some state)
    (apart : keepsUpdatesApart state (.advance index input) = true)
    (taken : (pairingSystem sha256Base64url pairingNotifier).step state
      (.advance index input) = some next) :
    SerialUpdates sha256Base64url pairingNotifier credentials
      (history ++ [.advance index input]) next := by
  have stored := updatesStored_concat reached taken
  obtain ⟨task, shared, after, found, acted, rfl⟩ :=
    TaskSystem.step_advance_eq_some.mp taken
  have effect := advance_credentialEffect acted
  have stage := serial.stage found
  have others (updates : task.updating = true) {other : Nat}
      {second : PairingTask} (present : state.tasks[other]? = some second)
      (different : other ≠ index) : second.updating = false :=
    serial.others found updates present different
  -- What a task that is not updating does is seen by no task that is.
  have unseen (same : SameCredentials state.shared shared)
      (idle : task.updating = false) (stays : after.updating = false)
      (nothing : updateStored sha256Base64url state (.advance index input) =
        []) :
      SerialUpdates sha256Base64url pairingNotifier credentials
        (history ++ [.advance index input])
        ⟨shared, state.tasks.set index after⟩ := by
    rw [nothing, List.append_nil] at stored
    exact serial.unseen stored found same idle stays
  cases effect with
  | load request nowUnix answers =>
      have quiet : Quiet state := by
        simpa [keepsUpdatesApart, found, Quiet] using apart
      obtain ⟨memory, published⟩ := serial.quiet quiet
      simp only [updateStored, found, List.append_nil] at stored
      exact serial.alone stored found rfl
        (fun present _ => quiet _ (List.mem_of_getElem? present))
        ⟨rfl, memory, published⟩ (by simp [PairingTask.updating])
  | remember request nowUnix loaded answers =>
      obtain ⟨same, -, published⟩ := stage
      simp only [updateStored, found, List.append_nil] at stored
      exact serial.alone stored found rfl (others rfl)
        ⟨same, same, published⟩ (by simp [PairingTask.updating])
  | save request nowUnix loaded changed outcome answers performed =>
      simp only [updateStored, found, performed] at stored
      exact serial.save stored found performed rfl
  | refuse request nowUnix loaded outcome answers performed =>
      obtain ⟨-, memory, published⟩ := stage
      simp only [updateStored, found, performed, List.append_nil] at stored
      exact serial.alone stored found rfl (others rfl) trivial
        (fun _ => ⟨memory, published⟩)
  | install outcome changed answers =>
      simp only [updateStored, found, List.append_nil] at stored
      exact serial.alone stored found rfl (others rfl) ⟨stage, stage⟩
        (by simp [PairingTask.updating])
  | publish outcome changed answers =>
      obtain ⟨same, memory⟩ := stage
      have receivers : 0 < state.shared.receivers := by
        simpa [keepsUpdatesApart, found] using apart
      simp only [updateStored, found, List.append_nil] at stored
      refine serial.alone stored found rfl (others rfl) trivial ?_
      intro finished
      exact ⟨memory, by simp [Nat.pos_iff_ne_zero.mp receivers, same]⟩
  | fail _ fails =>
      cases task with
      | save request nowUnix loaded =>
          obtain ⟨-, memory, published⟩ := stage
          simp only [updateStored, List.append_nil] at stored
          exact serial.alone stored found rfl (others rfl) trivial
            (fun _ => ⟨memory, published⟩)
      | confirming attempt => exact unseen ⟨rfl, rfl, rfl, rfl⟩ rfl rfl rfl
      | load request nowUnix => exact unseen ⟨rfl, rfl, rfl, rfl⟩ rfl rfl rfl
      | _ => cases fails
  | other _ _ answers _ same idle notLoading stays =>
      apply unseen same idle stays
      simp only [updateStored, found]
      split
      · rename_i saving
        cases saving
        cases idle
      · rfl

end Serial

/-- In every run that keeps updates apart, no update is lost: whenever no
request is between reading and publishing, the file, the memory and the client
table hold them all. -/
theorem no_update_is_lost
    (sha256Base64url : List UInt8 → String) (pairingNotifier : Bool)
    (credentials : ClientCredentials) {history : List PairingEvent}
    {state : PairingRun}
    (reached : pairingRun sha256Base64url pairingNotifier credentials history =
      some state)
    (apart : Throughout (pairingSystem sha256Base64url pairingNotifier).step
      ⟨PairingHost.initial credentials, []⟩
      (fun state event => keepsUpdatesApart state event = true) history)
    (quiet : Quiet state) :
    NothingLost sha256Base64url pairingNotifier credentials history state := by
  have serial : SerialUpdates sha256Base64url pairingNotifier credentials
      history state := by
    apply run_invariant_throughout _ _ reached apart
    · exact {
        serial := rfl
        renewed := by simp [updatesStored, collect]
        one := by simp
        quiet := fun _ => ⟨rfl, rfl⟩
        stage := by simp }
    · intro history state event next reached serial apart taken
      cases event with
      | advance index input => exact serial.advance reached apart taken
      | launch request => exact serial.undisturbed reached taken (by simp)
      | disturb cause => exact serial.undisturbed reached taken (by simp)
  obtain ⟨memory, published⟩ := serial.quiet quiet
  have after : ∀ {early late update},
      updatesStored sha256Base64url pairingNotifier credentials history =
          early ++ update :: late →
        (∀ later ∈ late, later.clientId ≠ update.clientId) →
          lookupClient state.shared.file update.clientId =
            lookupClient (update.apply
              (CredentialUpdate.applyAll early credentials))
              update.clientId := by
    intro early late update shape untouched
    have split : CredentialUpdate.applyAll (early ++ update :: late)
          credentials =
        CredentialUpdate.applyAll late
          (update.apply (CredentialUpdate.applyAll early credentials)) := by
      simp [CredentialUpdate.applyAll]
    rw [serial.serial, shape, split]
    exact lookupClient_applyAll_of_ne _ untouched
  exact {
    file := serial.serial
    memory := memory
    published := published
    issued := by
      intro early late record shape untouched
      exact (after shape untouched).trans (lookupClient_issued record _)
    renewed := by
      intro early late clientId nowUnix shape untouched
      obtain ⟨record, found⟩ :=
        Option.isSome_iff_exists.mp (serial.renewed shape)
      refine ⟨renewClientCredential record nowUnix,
        (after shape untouched).trans ?_, rfl⟩
      exact (lookupClient_renewed clientId nowUnix _).trans (by simp [found]) }

/-! ## Two pairings complete -/

/-- A request that has returned success. -/
def PairingTask.succeeded : PairingTask → Bool
  | .finished (some (.message _)) => false
  | .finished (some _) => true
  | _ => false

/-- The answers of the platform to the second pairing. -/
def secondAnswers : Answers := ⟨110, 8, ⟨"d", "t"⟩, true, true⟩

/-- A digest that is enough to tell the two codes apart. -/
def pairingCodesSha256 (bytes : List UInt8) : String :=
  if bytes = Bytes.utf8 "000007" then "seven"
  else if bytes = Bytes.utf8 "000008" then "eight"
  else "other"

/-- A task goes on a number of times. -/
def goesOn (index : Nat) (answers : Answers) (times : Nat) :
    List PairingEvent :=
  List.replicate times (.advance index (.proceed answers))

/-- Two pairings, up to where their completions have taken their
challenges. -/
def twoPairings : List PairingEvent :=
  [.launch (.startPairing 0 ⟨"42", "phone", none⟩)] ++
    goesOn 0 pairingAnswers 5 ++
    [.launch (.completePairing 0 "000007")] ++ goesOn 1 pairingAnswers 2 ++
    [.launch (.startPairing 1 ⟨"17", "laptop", none⟩)] ++
    goesOn 2 secondAnswers 5 ++
    [.launch (.completePairing 1 "000008")] ++ goesOn 3 secondAnswers 2

/-- One completion after the other, with a subscriber. -/
def serialCompletions : List PairingEvent :=
  [.disturb (.subscriptions 1)] ++ twoPairings ++ goesOn 1 pairingAnswers 5 ++
    goesOn 3 secondAnswers 5

/-- Both completions read the table before either stores it. -/
def concurrentCompletions : List PairingEvent :=
  [.disturb (.subscriptions 1)] ++ twoPairings ++ goesOn 1 pairingAnswers 1 ++
    goesOn 3 secondAnswers 1 ++ goesOn 1 pairingAnswers 4 ++
    goesOn 3 secondAnswers 4

/-- One completion, while nobody subscribes. -/
def unpublishedCompletion : List PairingEvent :=
  [.launch (.startPairing 0 ⟨"42", "phone", none⟩)] ++
    goesOn 0 pairingAnswers 5 ++
    [.launch (.completePairing 0 "000007")] ++ goesOn 1 pairingAnswers 7

/-- The record of the first pairing. -/
def phoneRecord : ClientCredentialRecord :=
  ⟨"c", "phone", "other", 100, 2592100⟩

/-- The record of the second pairing. -/
def laptopRecord : ClientCredentialRecord :=
  ⟨"d", "laptop", "other", 110, 2592110⟩

theorem serialCompletions_runs :
    (pairingRun pairingCodesSha256 true ⟨[]⟩ serialCompletions).map
        (fun state => (state.tasks.all PairingTask.succeeded,
          state.shared.file)) =
      some (true, ⟨[phoneRecord, laptopRecord]⟩) := by
  rfl

theorem concurrentCompletions_runs :
    (pairingRun pairingCodesSha256 true ⟨[]⟩ concurrentCompletions).map
        (fun state => (state.tasks.all PairingTask.succeeded,
          state.shared.file)) =
      some (true, ⟨[laptopRecord]⟩) := by
  rfl

theorem unpublishedCompletion_runs :
    (pairingRun pairingCodesSha256 true ⟨[]⟩ unpublishedCompletion).map
        (fun state => (state.tasks.all PairingTask.succeeded,
          state.shared.file, state.shared.published)) =
      some (true, ⟨[phoneRecord]⟩, ⟨[]⟩) := by
  rfl

theorem concurrentCompletions_stores :
    updatesStored pairingCodesSha256 true ⟨[]⟩ concurrentCompletions =
      [.issued phoneRecord, .issued laptopRecord] := by
  rfl

/-- Two concurrent completions succeed and one credential is lost; and one
completion without a subscriber succeeds and is not published. -/
theorem update_is_lost :
    (∃ state,
      pairingRun pairingCodesSha256 true ⟨[]⟩ concurrentCompletions =
          some state ∧
        state.tasks.all PairingTask.succeeded = true ∧
        lookupClient state.shared.file "c" = none ∧
        ¬NothingLost pairingCodesSha256 true ⟨[]⟩ concurrentCompletions
          state) ∧
      ∃ state,
        pairingRun pairingCodesSha256 true ⟨[]⟩ unpublishedCompletion =
            some state ∧
          state.tasks.all PairingTask.succeeded = true ∧
          ¬NothingLost pairingCodesSha256 true ⟨[]⟩ unpublishedCompletion
            state := by
  constructor
  · obtain ⟨state, reached, values⟩ :=
      Option.map_eq_some_iff.mp concurrentCompletions_runs
    obtain ⟨succeeded, file⟩ := Prod.mk.inj values
    refine ⟨state, reached, succeeded, by rw [file]; decide, ?_⟩
    intro kept
    have shape : updatesStored pairingCodesSha256 true ⟨[]⟩
          concurrentCompletions =
        [] ++ .issued phoneRecord :: [.issued laptopRecord] :=
      concurrentCompletions_stores
    have found := kept.issued shape (by decide)
    rw [file] at found
    revert found
    decide
  · obtain ⟨state, reached, values⟩ :=
      Option.map_eq_some_iff.mp unpublishedCompletion_runs
    obtain ⟨succeeded, rest⟩ := Prod.mk.inj values
    obtain ⟨file, published⟩ := Prod.mk.inj rest
    refine ⟨state, reached, succeeded, ?_⟩
    intro kept
    have agree := kept.published
    rw [file, published] at agree
    revert agree
    decide

/-- Two pairings that complete one after the other are both stored. -/
theorem no_update_is_lost_serial :
    ∃ state,
      pairingRun pairingCodesSha256 true ⟨[]⟩ serialCompletions = some state ∧
        state.tasks.all PairingTask.succeeded = true ∧
        NothingLost pairingCodesSha256 true ⟨[]⟩ serialCompletions state := by
  obtain ⟨state, reached, values⟩ :=
    Option.map_eq_some_iff.mp serialCompletions_runs
  obtain ⟨succeeded, -⟩ := Prod.mk.inj values
  refine ⟨state, reached, succeeded, no_update_is_lost pairingCodesSha256 true
    ⟨[]⟩ reached (throughout_of_checkEach (by rfl)) ?_⟩
  intro task member
  have finished := List.all_eq_true.mp succeeded task member
  cases task <;> first | rfl | cases finished

end Host
end WhatsGoingOn
