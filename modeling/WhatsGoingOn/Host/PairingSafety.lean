import WhatsGoingOn.Host.CredentialUpdates

/-!
# Credentials are issued to confirmed pairings only

A completion issues a credential for a challenge that it has taken under the
lock, and a challenge is there to be taken because a pairing on the same
session was confirmed at the machine.  Taking a challenge removes it, so it is
taken once.
-/

namespace WhatsGoingOn
namespace Host

open Daemon

section Runs

variable (sha256Base64url : List UInt8 → String) (pairingNotifier : Bool)
  (credentials : ClientCredentials)

/-! ## What happens in a pairing -/

/-- A pairing is confirmed at the machine. -/
def Confirms (index : Nat) (attempt : PairingAttempt)
    (state : PairingRun) (event : PairingEvent) : Prop :=
  ∃ answers, event = .advance index (.proceed answers) ∧
    answers.confirmed = true ∧
    state.tasks[index]? = some (.confirming attempt)

/-- The challenge of a pairing becomes active, with a code just drawn. -/
def Activates (index : Nat) (attempt : PairingAttempt)
    (challenge : ActivePairingChallenge)
    (state : PairingRun) (event : PairingEvent) : Prop :=
  ∃ answers, event = .advance index (.proceed answers) ∧
    state.tasks[index]? = some (.creating attempt) ∧
    state.shared.pairing.isCurrentPairingAttempt attempt = true ∧
    challenge = PairingState.challengeOf attempt
      (createPairingCode sha256Base64url answers.drawnCode
        answers.nowUnix).record

/-- A completion issues a credential: it stores the table with the record. -/
def Issues (index : Nat) (challenge : ActivePairingChallenge) (nowUnix : Int)
    (drawn : DrawnCredential) (loaded : ClientCredentials)
    (state : PairingRun) (event : PairingEvent) : Prop :=
  ∃ answers, event = .advance index (.proceed answers) ∧
    answers.drawn = drawn ∧
    state.tasks[index]? = some (.save (.complete challenge) nowUnix loaded)

/-- Something happened in a run of pairing. -/
abbrev PairingOccurred
    (what : List PairingEvent → PairingRun → PairingEvent → Prop)
    (history : List PairingEvent) : Prop :=
  Occurred (pairingSystem sha256Base64url pairingNotifier).step
    ⟨PairingHost.initial credentials, []⟩
    (fun before state event _ => what before state event) history

/-- A challenge has become active after its pairing was confirmed. -/
def ActivatedAfterConfirmation (challenge : ActivePairingChallenge)
    (history : List PairingEvent) : Prop :=
  PairingOccurred sha256Base64url pairingNotifier credentials
    (fun before state event => ∃ starter attempt,
      Activates sha256Base64url starter attempt challenge state event ∧
        PairingOccurred sha256Base64url pairingNotifier credentials
          (fun _ state event => Confirms starter attempt state event) before)
    history

/-- A task has taken a challenge, while it was active and not expired, with its
code and on its session, after the pairing was confirmed. -/
def EarnedByPairing (index : Nat) (challenge : ActivePairingChallenge)
    (history : List PairingEvent) : Prop :=
  PairingOccurred sha256Base64url pairingNotifier credentials
    (fun before state event => ∃ session,
      Takes sha256Base64url index session challenge state event ∧
        ActivatedAfterConfirmation sha256Base64url pairingNotifier credentials
          challenge before)
    history

/-! ## Challenges taken and credentials issued -/

/-- The challenge that one step takes, and the task that takes it. -/
def challengeTaken (state : PairingRun) : PairingEvent → List (Nat × Nat)
  | .advance index _ =>
      ((state.tasks[index]?.bind (PairingTask.takes sha256Base64url
        state.shared.pairing)).map fun challenge =>
          (index, challenge.attemptId)).toList
  | _ => []

/-- The tasks that have taken challenges in a run, and which. -/
def challengesTaken (history : List PairingEvent) : List (Nat × Nat) :=
  collect (pairingSystem sha256Base64url pairingNotifier).step
    (challengeTaken sha256Base64url) ⟨PairingHost.initial credentials, []⟩
    history

end Runs

/-- The challenge for which an action of a task issues a credential. -/
def PairingTask.issues : PairingTask → List Nat
  | .save (.complete challenge) _ _ => [challenge.attemptId]
  | _ => []

theorem PairingTask.mem_issues
    {task : PairingTask} {attemptId : Nat} (member : attemptId ∈ task.issues) :
    ∃ challenge, task.issuing = some challenge ∧
      attemptId = challenge.attemptId := by
  unfold PairingTask.issues at member
  split at member
  · rename_i challenge nowUnix loaded
    exact ⟨challenge, rfl, List.mem_singleton.mp member⟩
  · cases member

/-- The challenge whose credentials a step stores, or fails to store. -/
def challengeIssued (state : PairingRun) : PairingEvent → List Nat
  | .advance index _ =>
      (state.tasks[index]?.map PairingTask.issues).getD []
  | _ => []

/-- The challenges for which a run has issued credentials, or failed to store
them. -/
def challengesIssued
    (sha256Base64url : List UInt8 → String) (pairingNotifier : Bool)
    (credentials : ClientCredentials) (history : List PairingEvent) :
    List Nat :=
  collect (pairingSystem sha256Base64url pairingNotifier).step challengeIssued
    ⟨PairingHost.initial credentials, []⟩ history

/-- A challenge that has been taken is neither active nor current again. -/
structure TakenTable
    (taken : List (Nat × Nat)) (issued : List Nat) (pairing : PairingState) :
    Prop where
  active : ∀ {challenge}, pairing.activeChallenge = some challenge →
    challenge.attemptId ∉ taken.map Prod.snd
  current : ∀ {key attemptId},
    pairing.currentAttempts key = some attemptId →
      attemptId ∉ taken.map Prod.snd
  distinct : (taken.map Prod.snd).Nodup
  bounded : ∀ attemptId ∈ taken.map Prod.snd,
    attemptId ≤ pairing.nextAttemptId
  issued : ∀ attemptId ∈ issued, attemptId ∈ taken.map Prod.snd

namespace TakenTable

variable {taken : List (Nat × Nat)} {issued : List Nat}
  {pairing smaller : PairingState}

theorem shrink
    (table : TakenTable taken issued pairing)
    (shrinks : Shrinks pairing smaller) : TakenTable taken issued smaller where
  active found := table.active (shrinks.active found)
  current found := table.current (shrinks.current found)
  distinct := table.distinct
  bounded := shrinks.nextAttemptId ▸ table.bounded
  issued := table.issued

/-- A number was taken by one task. -/
theorem eq_of_attemptId
    (table : TakenTable taken issued pairing)
    {index other attemptId : Nat}
    (first : (index, attemptId) ∈ taken) (second : (other, attemptId) ∈ taken) :
    index = other := by
  have equal := List.inj_on_of_nodup_map table.distinct first second rfl
  exact congrArg Prod.fst equal

/-- An attempt that begins has a number that no challenge has. -/
theorem begin (table : TakenTable taken issued pairing)
    (key : PairingAttemptKey) :
    TakenTable taken issued (pairing.beginPairingAttempt key).1 where
  active found := table.active (begin_active_eq_some.mp found).1
  current := by
    intro other attemptId found member
    by_cases same : other = key
    · subst same
      simp only [PairingState.beginPairingAttempt, Function.update_self,
        Option.some.injEq] at found
      have bound := table.bounded attemptId member
      omega
    · simp only [PairingState.beginPairingAttempt,
        Function.update_of_ne same] at found
      exact table.current found member
  distinct := table.distinct
  bounded := fun attemptId member =>
    Nat.le_succ_of_le (table.bounded attemptId member)
  issued := table.issued

/-- The challenge of a current attempt has not been taken. -/
theorem activate (table : TakenTable taken issued pairing)
    {attempt : PairingAttempt} {record : PairingRecord}
    (isCurrent : pairing.isCurrentPairingAttempt attempt = true) :
    TakenTable taken issued
      { pairing with
        activeChallenge := some (PairingState.challengeOf attempt record) }
    where
  active := by
    intro challenge found
    cases found
    rw [PairingState.isCurrentPairingAttempt, beq_iff_eq] at isCurrent
    exact table.current isCurrent
  current := table.current
  distinct := table.distinct
  bounded := table.bounded
  issued := table.issued

/-- The active challenge is taken and cleared. -/
theorem take {begun : List BegunAttempt} {challenge : ActivePairingChallenge}
    (table : TakenTable taken issued pairing)
    (attempts : AttemptTable begun pairing)
    (active : pairing.activeChallenge = some challenge) (index : Nat) :
    TakenTable (taken ++ [(index, challenge.attemptId)]) issued
      (pairing.clearChallenge challenge) := by
  have cleared := table.shrink (clearChallenge_shrinks challenge)
  have new := table.active active
  have cases_of_mem {attemptId : Nat}
      (member : attemptId ∈
        (taken ++ [(index, challenge.attemptId)]).map Prod.snd) :
      attemptId ∈ taken.map Prod.snd ∨ attemptId = challenge.attemptId := by
    rw [List.map_append, List.mem_append] at member
    exact member.imp_right List.mem_singleton.mp
  exact {
    active := by
      intro other found
      simp [PairingState.clearChallenge, PairingState.removeAttempt] at found
    current := by
      intro key attemptId found member
      rcases cases_of_mem member with older | rfl
      · exact cleared.current found older
      · obtain ⟨different, before⟩ := removeAttempt_eq_some.mp found
        exact different (attempts.key_of_current active before)
    distinct := by
      rw [List.map_append]
      apply List.nodup_append.mpr
      refine ⟨table.distinct, by simp, ?_⟩
      intro older member latest same
      simp only [List.map_cons, List.map_nil, List.mem_singleton] at same
      rintro rfl
      exact new (same ▸ member)
    bounded := by
      intro attemptId member
      rcases cases_of_mem member with older | rfl
      · exact cleared.bounded attemptId older
      · exact attempts.active_bounded active
    issued := by
      intro attemptId member
      rw [List.map_append]
      exact List.mem_append_left _ (table.issued attemptId member) }

/-- A credential is issued for a challenge that was taken. -/
theorem issue (table : TakenTable taken issued pairing) {more : List Nat}
    (earlier : ∀ attemptId ∈ more, attemptId ∈ taken.map Prod.snd) :
    TakenTable taken (issued ++ more) pairing where
  active := table.active
  current := table.current
  distinct := table.distinct
  bounded := table.bounded
  issued := by
    intro attemptId member
    rcases List.mem_append.mp member with older | latest
    · exact table.issued attemptId older
    · exact earlier attemptId latest

end TakenTable

/-- The table of the challenges taken, after one action. -/
theorem TakenTable.effect
    {sha256Base64url : List UInt8 → String}
    {taken : List (Nat × Nat)} {issued : List Nat}
    {pairing next : PairingState} {task after : PairingTask}
    {input : PairingInput} {index : Nat} {begun : List BegunAttempt}
    (table : TakenTable taken issued pairing)
    (attempts : AttemptTable begun pairing)
    (effect : PairingEffect sha256Base64url pairing task input next after)
    (mine : ∀ {challenge}, task.issuing = some challenge →
      (index, challenge.attemptId) ∈ taken) :
    TakenTable
      (taken ++ ((task.takes sha256Base64url pairing).map fun challenge =>
        (index, challenge.attemptId)).toList)
      (issued ++ task.issues) next := by
  cases effect with
  | begin start answers =>
      simpa [PairingTask.takes, PairingTask.issues] using
        table.begin start.attemptKey
  | reject attempt answers outcome =>
      simpa [PairingTask.takes, PairingTask.issues] using
        table.shrink (rejectAttempt_shrinks attempt)
  | activate attempt answers isCurrent =>
      simpa [PairingTask.takes, PairingTask.issues] using
        table.activate isCurrent
  | withdraw attempt answers outcome =>
      simpa [PairingTask.takes, PairingTask.issues] using
        table.shrink (withdrawChallenge_shrinks attempt)
  | clear session code nowUnix answers outcome challenge active refused =>
      rw [refused]
      simpa [PairingTask.issues] using
        table.shrink (clearChallenge_shrinks challenge)
  | take session code nowUnix answers challenge active owner verified takes =>
      rw [takes]
      simpa [PairingTask.issues] using table.take attempts active index
  | keep _ _ input notBeginning attempt inactive issuing takes =>
      rw [takes]
      simp only [Option.map_none, Option.toList_none, List.append_nil]
      apply table.issue
      intro attemptId member
      obtain ⟨challenge, issuing, rfl⟩ := PairingTask.mem_issues member
      exact List.mem_map.mpr ⟨_, mine issuing, rfl⟩

/-! ## What one action adds -/

/-- The attempt of a pairing that has been confirmed. -/
def PairingTask.confirmedAttempt : PairingTask → Option PairingAttempt
  | .confirmed attempt | .creating attempt => some attempt
  | _ => none

section Action

variable {sha256Base64url : List UInt8 → String} {shared next : PairingHost}
  {task after : PairingTask} {input : PairingInput}

/-- A pairing is confirmed by the person at the machine. -/
theorem confirmedAttempt_cases {attempt : PairingAttempt}
    (acted : advancePairing sha256Base64url shared task input =
      some (next, after))
    (confirmed : after.confirmedAttempt = some attempt) :
    task.confirmedAttempt = some attempt ∨
      ∃ answers, task = .confirming attempt ∧ input = .proceed answers ∧
        answers.confirmed = true := by
  cases input with
  | fail =>
      simp only [advancePairing] at acted
      split at acted
      · cases acted
        cases confirmed
      · cases acted
  | proceed answers =>
      simp only [advancePairing] at acted
      cases task with
      | confirming starting =>
          cases acted
          split at confirmed
          · rename_i yes
            cases confirmed
            exact Or.inr ⟨answers, rfl, rfl, yes⟩
          · cases confirmed
      | confirmed starting =>
          cases acted
          split at confirmed
          · exact Or.inl confirmed
          · cases confirmed
      | notifying starting expiresAtUnix =>
          cases acted
          split at confirmed <;> cases confirmed
      | creating starting =>
          simp only [PairingTask.proceed] at acted
          split at acted <;> cases acted <;> cases confirmed
      | checking session code nowUnix =>
          simp only [PairingTask.proceed] at acted
          split at acted <;> cases acted <;> cases confirmed
      | save request nowUnix loaded =>
          simp only [PairingTask.proceed] at acted
          split at acted <;> cases acted <;> cases confirmed
      | _ => cases acted <;> cases confirmed

/-- A task that issues is done with its challenge. -/
theorem issues_or_not_issuing
    (acted : advancePairing sha256Base64url shared task input =
      some (next, after)) :
    task.issues = [] ∨ after.issuing = none := by
  cases effect : task with
  | save request nowUnix loaded =>
      subst effect
      cases input with
      | fail =>
          cases acted
          exact Or.inr rfl
      | proceed answers =>
          simp only [advancePairing, PairingTask.proceed] at acted
          split at acted <;> cases acted <;> exact Or.inr rfl
  | _ => exact Or.inl rfl

/-- What a task issues for it has taken, before or just now. -/
theorem PairingEffect.issuing_cases
    {pairing changed : PairingState} {challenge : ActivePairingChallenge}
    (effect : PairingEffect sha256Base64url pairing task input changed after)
    (issuing : after.issuing = some challenge) :
    task.issuing = some challenge ∨
      ∃ session code nowUnix answers, task = .checking session code nowUnix ∧
        input = .proceed answers ∧
        pairing.activeChallenge = some challenge ∧
        challenge.ownerSessionId = session ∧
        verifyPairingCode sha256Base64url challenge.record (Text.trim code)
          nowUnix = true ∧
        task.takes sha256Base64url pairing = some challenge := by
  cases effect with
  | take session code nowUnix answers taken active owner verified takes =>
      cases issuing
      exact Or.inr ⟨session, code, nowUnix, answers, rfl, rfl, active, owner,
        verified, takes⟩
  | keep _ _ input notBeginning attempt inactive kept takes =>
      exact Or.inl (kept challenge issuing)
  | _ => cases issuing

end Action

/-! ## The invariant of issuing -/

section Invariant

variable (sha256Base64url : List UInt8 → String) (pairingNotifier : Bool)
  (credentials : ClientCredentials)

/-- A task has read the table from its file. -/
def HasLoaded (index : Nat) (request : CredentialRequest) (nowUnix : Int)
    (loaded : ClientCredentials) (history : List PairingEvent) : Prop :=
  PairingOccurred sha256Base64url pairingNotifier credentials
    (fun _ state event =>
      (∃ answers, event = .advance index (.proceed answers)) ∧
        state.tasks[index]? = some (.load request nowUnix) ∧
        state.shared.file = loaded)
    history

/-- What is active has been confirmed, and nothing is taken twice. -/
structure ChallengesSound
    (history : List PairingEvent) (pairing : PairingState) : Prop where
  activated : ∀ {challenge}, pairing.activeChallenge = some challenge →
    ActivatedAfterConfirmation sha256Base64url pairingNotifier credentials
      challenge history
  table : TakenTable
    (challengesTaken sha256Base64url pairingNotifier credentials history)
    (challengesIssued sha256Base64url pairingNotifier credentials history)
    pairing

/-- What a task has done that pairs a client. -/
structure TaskEarned
    (history : List PairingEvent) (index : Nat) (task : PairingTask) : Prop
    where
  confirmed : ∀ {attempt}, task.confirmedAttempt = some attempt →
    PairingOccurred sha256Base64url pairingNotifier credentials
      (fun _ state event => Confirms index attempt state event) history
  earned : ∀ {challenge}, task.issuing = some challenge →
    EarnedByPairing sha256Base64url pairingNotifier credentials index challenge
      history
  taken : ∀ {challenge}, task.issuing = some challenge →
    (index, challenge.attemptId) ∈
      challengesTaken sha256Base64url pairingNotifier credentials history
  unissued : ∀ {challenge}, task.issuing = some challenge →
    challenge.attemptId ∉
      challengesIssued sha256Base64url pairingNotifier credentials history
  loaded : ∀ {request nowUnix loaded},
    task = .remember request nowUnix loaded ∨
        task = .save request nowUnix loaded →
      HasLoaded sha256Base64url pairingNotifier credentials index request
        nowUnix loaded history

end Invariant

section Preservation

variable {sha256Base64url : List UInt8 → String} {pairingNotifier : Bool}
  {credentials : ClientCredentials} {history : List PairingEvent}
  {event : PairingEvent} {state : PairingRun}

theorem challengesTaken_concat {next : PairingRun}
    (reached : pairingRun sha256Base64url pairingNotifier credentials history =
      some state)
    (taken : (pairingSystem sha256Base64url pairingNotifier).step state event =
      some next) :
    challengesTaken sha256Base64url pairingNotifier credentials
        (history ++ [event]) =
      challengesTaken sha256Base64url pairingNotifier credentials history ++
        challengeTaken sha256Base64url state event :=
  collect_concat (challengeTaken sha256Base64url) reached taken

theorem challengesIssued_concat {next : PairingRun}
    (reached : pairingRun sha256Base64url pairingNotifier credentials history =
      some state)
    (taken : (pairingSystem sha256Base64url pairingNotifier).step state event =
      some next) :
    challengesIssued sha256Base64url pairingNotifier credentials
        (history ++ [event]) =
      challengesIssued sha256Base64url pairingNotifier credentials history ++
        challengeIssued state event :=
  collect_concat challengeIssued reached taken

/-- What a task has done stays done; only what is issued may grow. -/
theorem TaskEarned.append {index : Nat} {task : PairingTask}
    (earned : TaskEarned sha256Base64url pairingNotifier credentials history
      index task)
    (taken : ∀ {entry},
      entry ∈ challengesTaken sha256Base64url pairingNotifier credentials
          history →
        entry ∈ challengesTaken sha256Base64url pairingNotifier credentials
          (history ++ [event]))
    (unissued : ∀ {challenge}, task.issuing = some challenge →
      challenge.attemptId ∉
        challengesIssued sha256Base64url pairingNotifier credentials
          (history ++ [event])) :
    TaskEarned sha256Base64url pairingNotifier credentials (history ++ [event])
      index task where
  confirmed equal := (earned.confirmed equal).append [event]
  earned equal := (earned.earned equal).append [event]
  taken equal := taken (earned.taken equal)
  unissued := unissued
  loaded equal := (earned.loaded equal).append [event]

/-- A task that starts has done nothing. -/
theorem startRequest_earned (request : PairingRequest) (index : Nat) :
    TaskEarned sha256Base64url pairingNotifier credentials history index
      (startRequest pairingNotifier request) := by
  have nothing :
      (startRequest pairingNotifier request).confirmedAttempt = none ∧
        (startRequest pairingNotifier request).issuing = none := by
    unfold startRequest
    repeat' split
    all_goals simp [PairingTask.confirmedAttempt, PairingTask.issuing,
      PairingTask.request]
  have idle : (startRequest pairingNotifier request).updating = false :=
    startRequest_idle request
  refine ⟨by simp [nothing], by simp [nothing], by simp [nothing],
    by simp [nothing], ?_⟩
  rintro request nowUnix loaded (equal | equal) <;>
  · rw [equal] at idle
    cases idle

theorem pairingSystem_advance
    {index : Nat} {input : PairingInput} {task after : PairingTask}
    {shared : PairingHost} (pairingNotifier : Bool)
    (found : state.tasks[index]? = some task)
    (acted : advancePairing sha256Base64url state.shared task input =
      some (shared, after)) :
    (pairingSystem sha256Base64url pairingNotifier).step state
        (.advance index input) =
      some ⟨shared, state.tasks.set index after⟩ :=
  TaskSystem.step_advance_eq_some.mpr ⟨task, shared, after, found, acted, rfl⟩

/-- The challenges are sound after an action. -/
theorem ChallengesSound.act
    {index : Nat} {input : PairingInput} {task after : PairingTask}
    {shared : PairingHost} {begun : List BegunAttempt}
    (sound : ChallengesSound sha256Base64url pairingNotifier credentials
      history state.shared.pairing)
    (earned : TaskEarned sha256Base64url pairingNotifier credentials history
      index task)
    (attempts : AttemptTable begun state.shared.pairing)
    (reached : pairingRun sha256Base64url pairingNotifier credentials history =
      some state)
    (found : state.tasks[index]? = some task)
    (acted : advancePairing sha256Base64url state.shared task input =
      some (shared, after)) :
    ChallengesSound sha256Base64url pairingNotifier credentials
      (history ++ [.advance index input]) shared.pairing := by
  have moved := pairingSystem_advance pairingNotifier found acted
  have effect := advance_effect acted
  constructor
  · intro challenge active
    rcases effect.active_cases active with before |
      ⟨attempt, answers, rfl, rfl, current, made⟩
    · exact (sound.activated before).append _
    · exact Occurred.now reached moved ⟨index, attempt,
        ⟨answers, rfl, found, current, made⟩, earned.confirmed rfl⟩
  · have table := sound.table.effect attempts effect
      (fun issuing => earned.taken issuing)
    rw [challengesTaken_concat reached moved,
      challengesIssued_concat reached moved]
    simpa [challengeTaken, challengeIssued, found] using table

/-- What the acting task has done afterwards. -/
theorem TaskEarned.act
    {index : Nat} {input : PairingInput} {task after : PairingTask}
    {shared : PairingHost}
    (earned : TaskEarned sha256Base64url pairingNotifier credentials history
      index task)
    (sound : ChallengesSound sha256Base64url pairingNotifier credentials
      history state.shared.pairing)
    (reached : pairingRun sha256Base64url pairingNotifier credentials history =
      some state)
    (found : state.tasks[index]? = some task)
    (acted : advancePairing sha256Base64url state.shared task input =
      some (shared, after)) :
    TaskEarned sha256Base64url pairingNotifier credentials
      (history ++ [.advance index input]) index after := by
  have moved := pairingSystem_advance pairingNotifier found acted
  have effect := advance_effect acted
  have takenAfter := challengesTaken_concat reached moved
  have issuedAfter := challengesIssued_concat reached moved
  constructor
  case confirmed =>
    intro attempt confirmed
    rcases confirmedAttempt_cases acted confirmed with before |
      ⟨answers, rfl, rfl, yes⟩
    · exact (earned.confirmed before).append _
    · exact Occurred.now reached moved ⟨answers, rfl, yes, found⟩
  case earned =>
    intro challenge issuing
    rcases effect.issuing_cases issuing with before |
      ⟨session, code, nowUnix, answers, rfl, rfl, active, owner, verified, -⟩
    · exact (earned.earned before).append _
    · exact Occurred.now reached moved ⟨session,
        ⟨answers, code, nowUnix, rfl, found, active, owner,
          verifyPairingCode_iff.mp verified⟩,
        sound.activated active⟩
  case taken =>
    intro challenge issuing
    rw [takenAfter]
    rcases effect.issuing_cases issuing with before |
      ⟨session, code, nowUnix, answers, rfl, rfl, active, owner, verified,
        takes⟩
    · exact List.mem_append_left _ (earned.taken before)
    · simp [challengeTaken, found, takes]
  case unissued =>
    intro challenge issuing
    have nothing : challengeIssued state (.advance index input) = [] := by
      rcases issues_or_not_issuing acted with none | done
      · simp [challengeIssued, found, none]
      · rw [done] at issuing
        cases issuing
    rw [issuedAfter, nothing, List.append_nil]
    rcases effect.issuing_cases issuing with before |
      ⟨session, code, nowUnix, answers, rfl, rfl, active, owner, verified, -⟩
    · exact earned.unissued before
    · intro issued
      exact sound.table.active active (sound.table.issued _ issued)
  case loaded =>
    intro request nowUnix loaded equal
    have credentialEffect := advance_credentialEffect acted
    cases credentialEffect with
    | load request' nowUnix' answers =>
        rcases equal with same | same
        · cases same
          exact Occurred.now reached moved ⟨⟨answers, rfl⟩, found, rfl⟩
        · cases same
    | remember request' nowUnix' loaded' answers =>
        rcases equal with same | same
        · cases same
        · cases same
          exact (earned.loaded (Or.inl rfl)).append _
    | other _ _ answers _ same idle notLoading stays =>
        rcases equal with rfl | rfl <;> cases stays
    | _ => rcases equal with same | same <;> cases same

/-- The invariant of issuing. -/
theorem earned_nonInterference
    (sha256Base64url : List UInt8 → String) (pairingNotifier : Bool)
    (credentials : ClientCredentials) :
    TaskSystem.NonInterference (pairingSystem sha256Base64url pairingNotifier)
      (PairingHost.initial credentials)
      (fun history shared => ChallengesSound sha256Base64url pairingNotifier
        credentials history shared.pairing)
      (fun history _ index task => TaskEarned sha256Base64url pairingNotifier
        credentials history index task) where
  initially := by
    constructor
    · intro challenge active
      cases active
    · constructor <;> simp [PairingHost.initial, PairingState.initial,
        challengesTaken, challengesIssued, collect]
  launches := by
    intro history state request task reached holds launched
    have taken := TaskSystem.step_launch_eq_some.mpr ⟨task, launched, rfl⟩
    have takenAfter := challengesTaken_concat reached taken
    have issuedAfter := challengesIssued_concat reached taken
    simp only [challengeTaken, challengeIssued, List.append_nil]
      at takenAfter issuedAfter
    cases launched
    refine ⟨⟨fun active => (holds.shared.activated active).append _, ?_⟩,
      startRequest_earned request _⟩
    rw [takenAfter, issuedAfter]
    exact holds.shared.table
  advances := by
    intro history state index input task shared after reached holds found acted
    have attempts := (attempts_nonInterference sha256Base64url pairingNotifier
      credentials).holds reached
    have earned := holds.task found
    exact ⟨holds.shared.act earned attempts.shared.table reached found acted,
      earned.act holds.shared reached found acted⟩
  disturbs := by
    intro history state cause shared reached holds disturbed
    have taken := TaskSystem.step_disturb_eq_some.mpr ⟨shared, disturbed, rfl⟩
    have takenAfter := challengesTaken_concat reached taken
    have issuedAfter := challengesIssued_concat reached taken
    simp only [challengeTaken, challengeIssued, List.append_nil]
      at takenAfter issuedAfter
    have same : shared.pairing = state.shared.pairing := by
      cases cause <;> cases disturbed <;> rfl
    rw [same]
    refine ⟨fun active => (holds.shared.activated active).append _, ?_⟩
    rw [takenAfter, issuedAfter]
    exact holds.shared.table
  frame := by
    intro history state event next other task reached holds taken apart found
    have earned := holds.task found
    have takenAfter := challengesTaken_concat reached taken
    have issuedAfter := challengesIssued_concat reached taken
    apply earned.append
    · intro entry member
      rw [takenAfter]
      exact List.mem_append_left _ member
    · intro challenge issuing issued
      rw [issuedAfter] at issued
      rcases List.mem_append.mp issued with older | latest
      · exact earned.unissued issuing older
      · cases event with
        | launch request => cases latest
        | disturb cause => cases latest
        | advance index input =>
            obtain ⟨acting, shared, after, actingFound, acted, rfl⟩ :=
              TaskSystem.step_advance_eq_some.mp taken
            simp only [challengeIssued, actingFound, Option.map_some,
              Option.getD_some] at latest
            obtain ⟨own, ownIssuing, same⟩ := PairingTask.mem_issues latest
            have mine := earned.taken issuing
            rw [same] at mine
            have equal := holds.shared.table.eq_of_attemptId mine
              ((holds.task actingFound).taken ownIssuing)
            exact apart input (by rw [equal])

end Preservation

/-! ## Client ids stay unique -/

/-- No two records have one client id. -/
def UniqueClients (credentials : ClientCredentials) : Prop :=
  (credentials.clients.map ClientCredentialRecord.clientId).Nodup

theorem map_clientId_renewFirst (clientId : String) (nowUnix : Int)
    (records : List ClientCredentialRecord) :
    (CredentialRequest.renewFirst clientId nowUnix records).map
        ClientCredentialRecord.clientId =
      records.map ClientCredentialRecord.clientId := by
  induction records with
  | nil => rfl
  | cons record records inductionHypothesis =>
      by_cases its : record.clientId = clientId
      · simp [CredentialRequest.renewFirst, its, renewClientCredential]
      · simp [CredentialRequest.renewFirst, its, inductionHypothesis]

/-- No update makes two records of one client. -/
theorem UniqueClients.apply
    {credentials : ClientCredentials} (unique : UniqueClients credentials)
    (update : CredentialUpdate) :
    UniqueClients (update.apply credentials) := by
  cases update with
  | issued record =>
      unfold UniqueClients CredentialUpdate.apply
        CredentialRequest.replaceRecord
      rw [List.map_append]
      apply List.nodup_append.mpr
      refine ⟨unique.sublist (List.filter_sublist.map _), by simp, ?_⟩
      intro clientId member other same equal
      obtain ⟨kept, inside, rfl⟩ := List.mem_map.mp member
      simp only [List.map_cons, List.map_nil, List.mem_singleton] at same
      have different := (List.mem_filter.mp inside).2
      simp [equal, same] at different
  | renewed clientId nowUnix =>
      unfold UniqueClients CredentialUpdate.apply
      rw [map_clientId_renewFirst]
      exact unique

/-- The table that a task holds. -/
def PairingTask.heldTable : PairingTask → Option ClientCredentials
  | .remember _ _ loaded | .save _ _ loaded => some loaded
  | .install _ stored | .publish _ stored => some stored
  | _ => none

theorem heldTable_eq_none {task : PairingTask} (idle : task.updating = false) :
    task.heldTable = none := by
  cases task <;> first | rfl | cases idle

/-- No table has two records of one client: neither those that are stored nor
those that tasks hold. -/
theorem unique_nonInterference
    (sha256Base64url : List UInt8 → String) (pairingNotifier : Bool)
    {credentials : ClientCredentials} (unique : UniqueClients credentials) :
    TaskSystem.NonInterference (pairingSystem sha256Base64url pairingNotifier)
      (PairingHost.initial credentials)
      (fun _ shared => UniqueClients shared.file ∧
        UniqueClients shared.memory ∧ UniqueClients shared.published)
      (fun _ _ _ task => ∀ table ∈ task.heldTable, UniqueClients table) where
  initially := ⟨unique, unique, unique⟩
  launches := by
    intro history state request task reached holds launched
    cases launched
    refine ⟨holds.shared, ?_⟩
    rw [heldTable_eq_none (startRequest_idle request)]
    simp
  advances := by
    intro history state index input task shared after reached holds found acted
    obtain ⟨file, memory, published⟩ := holds.shared
    have held := holds.task found
    cases advance_credentialEffect acted with
    | load request nowUnix answers =>
        refine ⟨⟨file, memory, published⟩, ?_⟩
        rintro table ⟨⟩
        exact file
    | remember request nowUnix loaded answers =>
        exact ⟨⟨file, held loaded rfl, published⟩, held⟩
    | save request nowUnix loaded stored outcome answers performed =>
        have kept : UniqueClients stored := by
          rw [(perform_eq_inl performed).1]
          exact (held loaded rfl).apply _
        refine ⟨⟨kept, memory, published⟩, ?_⟩
        rintro table ⟨⟩
        exact kept
    | refuse request nowUnix loaded outcome answers performed =>
        exact ⟨⟨file, memory, published⟩, by simp [PairingTask.heldTable]⟩
    | install outcome stored answers =>
        exact ⟨⟨file, held stored rfl, published⟩, held⟩
    | publish outcome stored answers =>
        refine ⟨⟨file, memory, ?_⟩, by simp [PairingTask.heldTable]⟩
        split
        · exact published
        · exact held stored rfl
    | fail _ fails =>
        exact ⟨⟨file, memory, published⟩, by simp [PairingTask.heldTable]⟩
    | other _ _ answers _ same idle notLoading stays =>
        rw [same.file, same.memory, same.published, heldTable_eq_none stays]
        exact ⟨⟨file, memory, published⟩, by simp⟩
  disturbs := by
    intro history state cause shared reached holds disturbed
    cases cause <;> cases disturbed <;> exact holds.shared
  frame := by
    intro history state event next other task reached holds taken apart found
    exact holds.task found

/-! ## An update that runs alone -/

/-- No other request is between reading and publishing while one is. -/
def UpdatesAlone (index : Nat) (state : PairingRun) : Prop :=
  ∀ task, state.tasks[index]? = some task → task.updating = true →
    ∀ other otherTask, other ≠ index →
      state.tasks[other]? = some otherTask → otherTask.updating = false

/-- What an update that runs alone knows of the file and the memory. -/
def AloneStage (shared : PairingHost) : PairingTask → Prop
  | .remember _ _ loaded => loaded = shared.file
  | .save _ _ loaded => loaded = shared.file
  | .install _ stored => stored = shared.file
  | .publish _ stored => stored = shared.file ∧ shared.memory = shared.file
  | _ => True

theorem AloneStage.of_not_updating
    {shared : PairingHost} {task : PairingTask}
    (idle : task.updating = false) : AloneStage shared task := by
  cases task <;> trivial

theorem AloneStage.of_same
    {shared next : PairingHost} {task : PairingTask}
    (file : next.file = shared.file) (memory : next.memory = shared.memory)
    (stage : AloneStage shared task) : AloneStage next task := by
  cases task <;> simp_all [AloneStage]

/-- The acting task, after its action. -/
theorem AloneStage.act
    {sha256Base64url : List UInt8 → String} {shared next : PairingHost}
    {task after : PairingTask} {input : PairingInput}
    (stage : AloneStage shared task)
    (effect : CredentialEffect sha256Base64url shared task input next after) :
    AloneStage next after := by
  cases effect with
  | load request nowUnix answers => rfl
  | remember request nowUnix loaded answers => exact stage
  | save request nowUnix loaded stored outcome answers performed => rfl
  | install outcome stored answers => exact ⟨stage, stage⟩
  | other _ _ answers _ same idle notLoading stays =>
      exact AloneStage.of_not_updating stays
  | _ => trivial

/-- While an update runs alone, the file is what it has read, and then what it
has written. -/
theorem aloneStage_of_updatesAlone
    {sha256Base64url : List UInt8 → String} {pairingNotifier : Bool}
    {credentials : ClientCredentials} {history : List PairingEvent}
    {state : PairingRun} {index : Nat}
    (reached : pairingRun sha256Base64url pairingNotifier credentials history =
      some state)
    (alone : Throughout (pairingSystem sha256Base64url pairingNotifier).step
      ⟨PairingHost.initial credentials, []⟩
      (fun state _ => UpdatesAlone index state) history) :
    ∀ task, state.tasks[index]? = some task → AloneStage state.shared task := by
  apply run_invariant_throughout _ _ reached alone
  · simp
  · intro history state event next reached stages alone taken
    cases event with
    | launch request =>
        obtain ⟨started, launched, rfl⟩ :=
          TaskSystem.step_launch_eq_some.mp taken
        cases launched
        intro task found
        rcases TaskSystem.getElem?_concat_cases found with ⟨-, rfl⟩ |
          ⟨-, before⟩
        · exact AloneStage.of_not_updating (startRequest_idle request)
        · exact stages task before
    | advance acting input =>
        obtain ⟨actingTask, shared, after, actingFound, acted, rfl⟩ :=
          TaskSystem.step_advance_eq_some.mp taken
        have effect := advance_credentialEffect acted
        intro task found
        rcases TaskSystem.getElem?_set_cases found with ⟨rfl, rfl⟩ |
          ⟨different, before⟩
        · exact (stages actingTask actingFound).act effect
        · by_cases updates : task.updating = true
          · have idle := alone task before updates acting actingTask
              different.symm actingFound
            have stage := stages task before
            cases effect with
            | load request nowUnix answers => exact stage
            | fail _ fails => exact stage
            | other _ _ answers _ same =>
                exact stage.of_same same.file same.memory
            | _ => cases idle
          · exact AloneStage.of_not_updating (by simpa using updates)
    | disturb cause =>
        obtain ⟨shared, disturbed, rfl⟩ :=
          TaskSystem.step_disturb_eq_some.mp taken
        intro task found
        have stage := stages task found
        cases cause <;> cases disturbed <;> exact stage.of_same rfl rfl

/-! ## What a completion issues -/

/-- The label and the client id of the record that is issued. -/
theorem issue_record
    (sha256Base64url : List UInt8 → String)
    (challenge : ActivePairingChallenge) (nowUnix : Int)
    (drawn : DrawnCredential) (loaded : ClientCredentials) :
    (CredentialRequest.issue sha256Base64url challenge nowUnix drawn
        loaded).record.label = challenge.clientLabel ∧
      (CredentialRequest.issue sha256Base64url challenge nowUnix drawn
          loaded).record.clientId =
        ((challenge.clientId.bind (lookupClient loaded)).map
          ClientCredentialRecord.clientId).getD drawn.clientId := by
  have same : (challenge.clientId.bind fun clientId =>
      loaded.clients.find? fun record => record.clientId == clientId) =
        challenge.clientId.bind (lookupClient loaded) := rfl
  unfold CredentialRequest.issue
  rw [same]
  cases challenge.clientId.bind (lookupClient loaded) with
  | none => exact ⟨rfl, rfl⟩
  | some record => exact ⟨rfl, rfl⟩

theorem clientId_of_lookupClient
    {credentials : ClientCredentials} {clientId : String}
    {record : ClientCredentialRecord}
    (found : lookupClient credentials clientId = some record) :
    record.clientId = clientId := by
  have matching := List.find?_some found
  simpa using matching

section Issuing

variable (sha256Base64url : List UInt8 → String) (pairingNotifier : Bool)
  (credentials : ClientCredentials)

/-- What holds when a completion issues a credential for a challenge, after
some history, from the table that it has loaded. -/
structure SafelyIssued
    (history : List PairingEvent) (state next : PairingRun) (index : Nat)
    (challenge : ActivePairingChallenge) (drawn : DrawnCredential)
    (loaded : ClientCredentials) (record : ClientCredentialRecord) :
    Prop where
  /-- The challenge was taken on its session while it was active and not
  expired, with its code, and after its pairing was confirmed. -/
  earned : EarnedByPairing sha256Base64url pairingNotifier credentials index
    challenge history
  /-- No completion has issued a credential for it before. -/
  once : ¬PairingOccurred sha256Base64url pairingNotifier credentials
    (fun _ state event =>
      ∃ other earlier earlierUnix earlierDrawn earlierLoaded,
        Issues other earlier earlierUnix earlierDrawn earlierLoaded state
            event ∧
          earlier.attemptId = challenge.attemptId)
    history
  label : record.label = challenge.clientLabel
  /-- A client id that is stored is used again. -/
  reused : ∀ {clientId}, challenge.clientId = some clientId →
    (lookupClient loaded clientId).isSome → record.clientId = clientId
  /-- Else the client id is the one drawn. -/
  newId : (∀ clientId, challenge.clientId = some clientId →
      lookupClient loaded clientId = none) →
    record.clientId = drawn.clientId
  /-- Where the drawn id is new, the challenge's id is used exactly when it is
  stored. -/
  exactly : ∀ {clientId}, challenge.clientId = some clientId →
    drawn.clientId ≠ clientId →
      (record.clientId = clientId ↔ (lookupClient loaded clientId).isSome)
  stored : next.shared.file = CredentialRequest.replaceRecord record loaded
  /-- Without a concurrent update, the other records are unchanged. -/
  unchanged :
    Throughout (pairingSystem sha256Base64url pairingNotifier).step
        ⟨PairingHost.initial credentials, []⟩
        (fun state _ => UpdatesAlone index state) history →
      ∀ other, other.clientId ≠ record.clientId →
        (other ∈ next.shared.file.clients ↔
          other ∈ state.shared.file.clients)

/-- What pairing promises after a run. -/
structure PairingSafe
    (history : List PairingEvent) (state : PairingRun) : Prop where
  issued : ∀ {event next index challenge nowUnix drawn loaded},
    (pairingSystem sha256Base64url pairingNotifier).step state event =
        some next →
      Issues index challenge nowUnix drawn loaded state event →
        SafelyIssued sha256Base64url pairingNotifier credentials history state
          next index challenge drawn loaded
          (CredentialRequest.issue sha256Base64url challenge nowUnix drawn
            loaded).record
  /-- What a completion has loaded was the file at that time. -/
  loaded : ∀ {index : Nat} {challenge nowUnix loaded},
    state.tasks[index]? = some (.save (.complete challenge) nowUnix loaded) →
      HasLoaded sha256Base64url pairingNotifier credentials index
        (.complete challenge) nowUnix loaded history
  unique : UniqueClients credentials →
    UniqueClients state.shared.file ∧ UniqueClients state.shared.memory ∧
      UniqueClients state.shared.published

end Issuing

/-- In every run of pairing, a completion issues a credential only for a
challenge that a confirmed pairing on its session has made active, once, and
with a record that leaves the other clients alone. -/
theorem pairing_is_safe
    (sha256Base64url : List UInt8 → String) (pairingNotifier : Bool)
    (credentials : ClientCredentials) {history : List PairingEvent}
    {state : PairingRun}
    (reached : pairingRun sha256Base64url pairingNotifier credentials history =
      some state) :
    PairingSafe sha256Base64url pairingNotifier credentials history state := by
  have holds := (earned_nonInterference sha256Base64url pairingNotifier
    credentials).holds reached
  constructor
  case loaded =>
    intro index challenge nowUnix loaded found
    exact (holds.task found).loaded (Or.inr rfl)
  case unique =>
    intro unique
    exact ((unique_nonInterference sha256Base64url pairingNotifier
      unique).holds reached).shared
  case issued =>
    intro event next index challenge nowUnix drawn loaded taken issues
    obtain ⟨answers, rfl, rfl, found⟩ := issues
    obtain ⟨task, shared, after, found', acted, rfl⟩ :=
      TaskSystem.step_advance_eq_some.mp taken
    rw [found] at found'
    cases found'
    cases acted
    have earned := holds.task found
    obtain ⟨label, clientId⟩ := issue_record sha256Base64url challenge nowUnix
      answers.drawn loaded
    have reused : ∀ {clientId}, challenge.clientId = some clientId →
        (lookupClient loaded clientId).isSome →
          (CredentialRequest.issue sha256Base64url challenge nowUnix
            answers.drawn loaded).record.clientId = clientId := by
      intro its named known
      obtain ⟨record, lookup⟩ := Option.isSome_iff_exists.mp known
      rw [clientId, named, Option.bind_some, lookup]
      exact clientId_of_lookupClient lookup
    have drawn : (∀ clientId, challenge.clientId = some clientId →
        lookupClient loaded clientId = none) →
          (CredentialRequest.issue sha256Base64url challenge nowUnix
            answers.drawn loaded).record.clientId = answers.drawn.clientId := by
      intro unknown
      rw [clientId]
      cases named : challenge.clientId with
      | none => rfl
      | some its => simp [unknown its named]
    constructor
    case earned => exact earned.earned rfl
    case once =>
      intro occurred
      apply earned.unissued rfl
      apply mem_collect_of_occurred
      refine occurred.mono ?_
      rintro before state event next ⟨other, earlier, earlierUnix,
        earlierDrawn, earlierLoaded, ⟨earlierAnswers, rfl, -, earlierFound⟩,
        same⟩
      simp [challengeIssued, earlierFound, PairingTask.issues, same]
    case label => exact label
    case reused => exact reused
    case newId => exact drawn
    case exactly =>
      intro its named different
      constructor
      · intro same
        by_contra unknown
        rw [Option.not_isSome_iff_eq_none] at unknown
        apply different
        rw [← drawn _, same]
        intro other otherNamed
        rw [named] at otherNamed
        cases otherNamed
        exact unknown
      · exact reused named
    case stored => rfl
    case unchanged =>
      intro alone other different
      have stage : loaded = state.shared.file :=
        aloneStage_of_updatesAlone reached alone _ found
      have another : other ≠ (CredentialRequest.issue sha256Base64url challenge
          nowUnix answers.drawn loaded).record := by
        rintro rfl
        exact different rfl
      rw [← stage]
      simp [CredentialRequest.replaceRecord, different, another]

/-! ## A phone that is about to be paired -/

/-- The challenge that the attempt leads to. -/
def phoneChallenge : ActivePairingChallenge :=
  PairingState.challengeOf ⟨startedPairing, 1⟩ ⟨"seven", 280⟩

theorem phone_saves :
    (pairingRun pairingCodesSha256 true ⟨[]⟩
        (twoPairings ++ goesOn 1 pairingAnswers 2)).map
        (fun state => state.tasks[1]?) =
      some (some (.save (.complete phoneChallenge) 100 ⟨[]⟩)) := by
  rfl

theorem pairing_is_safe_phone :
    ∃ state,
      pairingRun pairingCodesSha256 true ⟨[]⟩
          (twoPairings ++ goesOn 1 pairingAnswers 2) = some state ∧
        Issues 1 phoneChallenge 100 pairingAnswers.drawn ⟨[]⟩ state
          (.advance 1 (.proceed pairingAnswers)) ∧
        PairingSafe pairingCodesSha256 true ⟨[]⟩
          (twoPairings ++ goesOn 1 pairingAnswers 2) state := by
  obtain ⟨state, reached, saves⟩ := Option.map_eq_some_iff.mp phone_saves
  exact ⟨state, reached, ⟨pairingAnswers, rfl, rfl, saves⟩,
    pairing_is_safe pairingCodesSha256 true ⟨[]⟩ reached⟩

end Host
end WhatsGoingOn
