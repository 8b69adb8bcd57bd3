import Mathlib.Data.List.Pairwise
import WhatsGoingOn.Host.Pairing

/-!
# Superseded pairing attempts

Attempts with one key supersede each other: beginning a new one gives up what
the older one has reached.  Only the most recently begun attempt of a key can
be active, and what the task of an older one still does changes nothing of the
state of pairing.
-/

namespace WhatsGoingOn
namespace Host

open Daemon

/-- The state of the host with its tasks. -/
abbrev PairingRun := TaskState PairingHost PairingTask

/-- What happens in a run of the host. -/
abbrev PairingEvent := TaskEvent PairingRequest PairingInput PairingCause

/-! ## Attempts in the order of their beginning -/

/-- An attempt and the task that has begun it. -/
structure BegunAttempt extends PairingAttempt where
  task : Nat
  deriving DecidableEq, Repr

namespace BegunAttempt

/-- The key that the attempt is known by. -/
def key (attempt : BegunAttempt) : PairingAttemptKey :=
  attempt.start.attemptKey

end BegunAttempt

/-- What an action of a task begins; beginning cannot fail. -/
def PairingTask.begins (pairing : PairingState) (index : Nat) :
    PairingTask → List BegunAttempt
  | .beginning start => [⟨⟨start, pairing.nextAttemptId + 1⟩, index⟩]
  | _ => []

/-- What one step begins. -/
def attemptBegun (state : PairingRun) : PairingEvent → List BegunAttempt
  | .advance index _ =>
      (state.tasks[index]?.map
        (PairingTask.begins state.shared.pairing index)).getD []
  | _ => []

/-- No attempt begun later has its key. -/
def MostRecent (begun : List BegunAttempt) (attempt : BegunAttempt) : Prop :=
  ∃ early late, begun = early ++ attempt :: late ∧
    ∀ later ∈ late, later.key ≠ attempt.key

/-- An attempt begun later has its key. -/
def Superseded (begun : List BegunAttempt) (attempt : BegunAttempt) : Prop :=
  ∃ early newer late, begun = early ++ newer :: late ∧
    attempt ∈ early ∧ newer.key = attempt.key

/-- The numbers of attempts grow. -/
def Numbered (begun : List BegunAttempt) : Prop :=
  begun.Pairwise fun earlier later => earlier.attemptId < later.attemptId

section Order

variable {begun : List BegunAttempt} {attempt other : BegunAttempt}

theorem MostRecent.mem (recent : MostRecent begun attempt) :
    attempt ∈ begun := by
  obtain ⟨early, late, rfl, -⟩ := recent
  simp

theorem MostRecent.concat_self : MostRecent (begun ++ [attempt]) attempt :=
  ⟨begun, [], rfl, by simp⟩

/-- An attempt with another key changes nothing. -/
theorem MostRecent.concat
    (recent : MostRecent begun attempt)
    (different : other.key ≠ attempt.key) :
    MostRecent (begun ++ [other]) attempt := by
  obtain ⟨early, late, rfl, none⟩ := recent
  refine ⟨early, late ++ [other], by simp, ?_⟩
  intro later member
  rcases List.mem_append.mp member with old | new
  · exact none later old
  · rw [List.mem_singleton.mp new]
    exact different

theorem Superseded.mem (superseded : Superseded begun attempt) :
    attempt ∈ begun := by
  obtain ⟨early, newer, late, rfl, member, -⟩ := superseded
  simp [member]

/-- A superseded attempt stays so. -/
theorem Superseded.concat (superseded : Superseded begun attempt) :
    Superseded (begun ++ [other]) attempt := by
  obtain ⟨early, newer, late, rfl, rest⟩ := superseded
  exact ⟨early, newer, late ++ [other], by simp, rest⟩

theorem superseded_concat
    (member : attempt ∈ begun) (same : other.key = attempt.key) :
    Superseded (begun ++ [other]) attempt :=
  ⟨begun, other, [], rfl, member, same⟩

/-- A number belongs to one attempt. -/
theorem Numbered.eq_of_attemptId
    (numbered : Numbered begun)
    (first : attempt ∈ begun) (second : other ∈ begun)
    (same : attempt.attemptId = other.attemptId) :
    attempt = other := by
  by_contra different
  let Apart := fun first second : BegunAttempt =>
    first.attemptId ≠ second.attemptId
  have symmetric : Std.Symm Apart := ⟨fun _ _ unequal => unequal.symm⟩
  have apart : begun.Pairwise Apart :=
    numbered.imp fun smaller => Nat.ne_of_lt smaller
  exact apart.forall first second different same

/-- The most recent attempt of a key is not superseded. -/
theorem Numbered.not_superseded
    (numbered : Numbered begun) (recent : MostRecent begun attempt) :
    ¬Superseded begun attempt := by
  rintro ⟨early, newer, late, shape, older, same⟩
  obtain ⟨before, after, split, last⟩ := recent
  have growing : Numbered (early ++ newer :: late) := shape ▸ numbered
  have smaller : attempt.attemptId < newer.attemptId :=
    (List.pairwise_append.mp growing).2.2 attempt older newer (by simp)
  have inside : newer ∈ before ++ attempt :: after := by
    rw [← split, shape]
    simp
  rw [split] at numbered
  rcases List.mem_append.mp inside with beforeIt | rest
  · have larger := (List.pairwise_append.mp numbered).2.2 newer beforeIt attempt
      (by simp)
    omega
  · rcases List.mem_cons.mp rest with equal | afterIt
    · rw [equal] at smaller
      exact Nat.lt_irrefl _ smaller
    · exact last newer afterIt same

end Order

/-! ## The table of attempts -/

/-- A challenge is one of an attempt. -/
def IsChallengeOf
    (challenge : ActivePairingChallenge) (attempt : BegunAttempt) : Prop :=
  challenge =
    PairingState.challengeOf attempt.toPairingAttempt challenge.record

theorem IsChallengeOf.attemptId
    {challenge : ActivePairingChallenge} {attempt : BegunAttempt}
    (origin : IsChallengeOf challenge attempt) :
    challenge.attemptId = attempt.attemptId := by
  rw [origin]
  simp [PairingState.challengeOf]

theorem IsChallengeOf.attemptKey
    {challenge : ActivePairingChallenge} {attempt : BegunAttempt}
    (origin : IsChallengeOf challenge attempt) :
    challenge.attemptKey = attempt.key := by
  rw [origin]
  simp [PairingState.challengeOf, BegunAttempt.key]

/-- How the state of pairing and the attempts begun belong together: what is
current is the most recent attempt of its key, and what is active is current. -/
structure AttemptTable
    (begun : List BegunAttempt) (pairing : PairingState) : Prop where
  numbered : Numbered begun
  bounded : ∀ attempt ∈ begun, attempt.attemptId ≤ pairing.nextAttemptId
  current : ∀ {key attemptId},
    pairing.currentAttempts key = some attemptId →
      ∃ attempt, MostRecent begun attempt ∧ attempt.key = key ∧
        attempt.attemptId = attemptId
  active : ∀ {challenge},
    pairing.activeChallenge = some challenge →
      pairing.currentAttempts challenge.attemptKey =
          some challenge.attemptId ∧
        ∃ attempt ∈ begun, IsChallengeOf challenge attempt

/-- Nothing appears in the state of pairing that was not there. -/
structure Shrinks (pairing smaller : PairingState) : Prop where
  nextAttemptId : smaller.nextAttemptId = pairing.nextAttemptId
  current : ∀ {key attemptId},
    smaller.currentAttempts key = some attemptId →
      pairing.currentAttempts key = some attemptId
  active : ∀ {challenge},
    smaller.activeChallenge = some challenge →
      pairing.activeChallenge = some challenge

section Shrinking

variable {pairing : PairingState}

theorem Shrinks.refl (pairing : PairingState) : Shrinks pairing pairing :=
  ⟨rfl, id, id⟩

theorem removeAttempt_eq_some
    {key other : PairingAttemptKey} {attemptId : Nat} :
    (pairing.removeAttempt key).currentAttempts other = some attemptId ↔
      other ≠ key ∧ pairing.currentAttempts other = some attemptId := by
  by_cases same : other = key
  · simp [PairingState.removeAttempt, same]
  · simp [PairingState.removeAttempt, same]

/-- A new attempt gives up the challenge of its key, and no other. -/
theorem begin_active_eq_some
    {key : PairingAttemptKey} {challenge : ActivePairingChallenge} :
    (pairing.beginPairingAttempt key).1.activeChallenge = some challenge ↔
      pairing.activeChallenge = some challenge ∧
        challenge.attemptKey ≠ key := by
  obtain ⟨nextAttemptId, currentAttempts, activeChallenge⟩ := pairing
  simp only [PairingState.beginPairingAttempt, PairingState.activeFor]
  cases activeChallenge with
  | none => simp
  | some active =>
      by_cases same : active.attemptKey = key
      · simp only [Option.any_some, same, decide_true, if_true]
        constructor
        · intro absurdity
          cases absurdity
        · rintro ⟨equal, different⟩
          exact absurd (Option.some.inj equal ▸ same) different
      · simp only [Option.any_some, same, decide_false, Bool.false_eq_true,
          if_false, Option.some.injEq]
        constructor
        · rintro rfl
          exact ⟨rfl, same⟩
        · exact fun both => both.1

theorem removeAttempt_shrinks (key : PairingAttemptKey) :
    Shrinks pairing (pairing.removeAttempt key) where
  nextAttemptId := rfl
  current found := (removeAttempt_eq_some.mp found).2
  active found := found

theorem rejectAttempt_shrinks (attempt : PairingAttempt) :
    Shrinks pairing (pairing.rejectAttempt attempt) := by
  unfold PairingState.rejectAttempt
  split
  · exact removeAttempt_shrinks _
  · exact Shrinks.refl pairing

theorem clearChallenge_shrinks (challenge : ActivePairingChallenge) :
    Shrinks pairing (pairing.clearChallenge challenge) where
  nextAttemptId := rfl
  current found := (removeAttempt_eq_some.mp found).2
  active found := by simp [PairingState.clearChallenge,
    PairingState.removeAttempt] at found

theorem withdrawChallenge_shrinks (attempt : PairingAttempt) :
    Shrinks pairing (pairing.withdrawChallenge attempt) := by
  unfold PairingState.withdrawChallenge
  split
  · exact ⟨rfl, fun found => (removeAttempt_eq_some.mp found).2,
      fun found => by simp [PairingState.removeAttempt] at found⟩
  · exact Shrinks.refl pairing

/-- A completion leaves the state of pairing, or clears the active
challenge. -/
theorem completePairing_cases
    {sha256Base64url : List UInt8 → String}
    {session : Nat} {code : String} {nowUnix : Int}
    {cleared : PairingState} {decision : ReqResMessage ⊕ ActivePairingChallenge}
    (completed : pairing.completePairing sha256Base64url session code nowUnix =
      (cleared, decision)) :
    (cleared = pairing ∧ ∃ reply, decision = .inl reply) ∨
      ∃ challenge, pairing.activeChallenge = some challenge ∧
        cleared = pairing.clearChallenge challenge ∧
        ((∃ reply, decision = .inl reply) ∨
          decision = .inr challenge ∧ challenge.ownerSessionId = session ∧
            verifyPairingCode sha256Base64url challenge.record (Text.trim code)
              nowUnix = true) := by
  unfold PairingState.completePairing at completed
  cases active : pairing.activeChallenge with
  | none =>
      simp only [active, Prod.mk.injEq] at completed
      exact Or.inl ⟨completed.1.symm, _, completed.2.symm⟩
  | some challenge =>
      simp only [active] at completed
      split at completed
      · simp only [Prod.mk.injEq] at completed
        exact Or.inl ⟨completed.1.symm, _, completed.2.symm⟩
      · rename_i owner
        split at completed
        · simp only [Prod.mk.injEq] at completed
          exact Or.inr ⟨challenge, rfl, completed.1.symm,
            Or.inl ⟨_, completed.2.symm⟩⟩
        · split at completed
          · simp only [Prod.mk.injEq] at completed
            exact Or.inl ⟨completed.1.symm, _, completed.2.symm⟩
          · rename_i matching
            simp only [Prod.mk.injEq] at completed
            refine Or.inr ⟨challenge, rfl, completed.1.symm, Or.inr ?_⟩
            exact ⟨completed.2.symm, not_not.mp owner, by simpa using matching⟩

end Shrinking

namespace AttemptTable

variable {begun : List BegunAttempt} {pairing smaller : PairingState}

theorem initial : AttemptTable [] PairingState.initial where
  numbered := List.Pairwise.nil
  bounded := by simp
  current := by simp [PairingState.initial]
  active := by simp [PairingState.initial]

/-- The attempt of an active challenge is the most recent one of its key. -/
theorem latest
    (table : AttemptTable begun pairing)
    {challenge : ActivePairingChallenge}
    (active : pairing.activeChallenge = some challenge) :
    ∃ attempt, MostRecent begun attempt ∧ IsChallengeOf challenge attempt := by
  obtain ⟨found, attempt, member, origin⟩ := table.active active
  obtain ⟨recent, latest, -, number⟩ := table.current found
  have same : recent = attempt := by
    apply table.numbered.eq_of_attemptId latest.mem member
    rw [number, origin.attemptId]
  exact ⟨attempt, same ▸ latest, origin⟩

/-- A number is current for one key. -/
theorem key_of_current
    (table : AttemptTable begun pairing)
    {challenge : ActivePairingChallenge} {key : PairingAttemptKey}
    (active : pairing.activeChallenge = some challenge)
    (current : pairing.currentAttempts key = some challenge.attemptId) :
    key = challenge.attemptKey := by
  obtain ⟨-, attempt, member, origin⟩ := table.active active
  obtain ⟨recent, latest, ofKey, number⟩ := table.current current
  have same : recent = attempt := by
    apply table.numbered.eq_of_attemptId latest.mem member
    rw [number, origin.attemptId]
  rw [← ofKey, origin.attemptKey, same]

theorem active_bounded
    (table : AttemptTable begun pairing)
    {challenge : ActivePairingChallenge}
    (active : pairing.activeChallenge = some challenge) :
    challenge.attemptId ≤ pairing.nextAttemptId := by
  obtain ⟨-, attempt, member, origin⟩ := table.active active
  rw [origin.attemptId]
  exact table.bounded attempt member

/-- A smaller table, if what is active in it is still current. -/
theorem shrink
    (table : AttemptTable begun pairing)
    (shrinks : Shrinks pairing smaller)
    (kept : ∀ {challenge}, smaller.activeChallenge = some challenge →
      smaller.currentAttempts challenge.attemptKey =
        some challenge.attemptId) :
    AttemptTable begun smaller where
  numbered := table.numbered
  bounded := shrinks.nextAttemptId ▸ table.bounded
  current found := table.current (shrinks.current found)
  active found := ⟨kept found, (table.active (shrinks.active found)).2⟩

/-- Beginning an attempt gives up the challenge of its key. -/
theorem begin
    (table : AttemptTable begun pairing) (start : PairingStart) (task : Nat) :
    AttemptTable (begun ++ [⟨⟨start, pairing.nextAttemptId + 1⟩, task⟩])
      (pairing.beginPairingAttempt start.attemptKey).1 where
  numbered := by
    apply List.pairwise_append.mpr
    refine ⟨table.numbered, List.pairwise_singleton _ _, ?_⟩
    intro older member newer new
    rw [List.mem_singleton.mp new]
    exact Nat.lt_succ_of_le (table.bounded older member)
  bounded := by
    intro attempt member
    rcases List.mem_append.mp member with older | new
    · exact Nat.le_succ_of_le (table.bounded attempt older)
    · rw [List.mem_singleton.mp new]
      exact Nat.le_refl _
  current := by
    intro key attemptId found
    by_cases same : key = start.attemptKey
    · subst same
      simp only [PairingState.beginPairingAttempt, Function.update_self,
        Option.some.injEq] at found
      exact ⟨_, MostRecent.concat_self, rfl, found⟩
    · simp only [PairingState.beginPairingAttempt, Function.update_of_ne same]
        at found
      obtain ⟨attempt, recent, ofKey, number⟩ := table.current found
      refine ⟨attempt, recent.concat ?_, ofKey, number⟩
      intro equal
      exact same (ofKey.symm.trans equal.symm)
  active := by
    intro challenge found
    obtain ⟨active, different⟩ := begin_active_eq_some.mp found
    obtain ⟨current, attempt, member, origin⟩ := table.active active
    refine ⟨?_, attempt, by simp [member], origin⟩
    simp only [PairingState.beginPairingAttempt]
    rw [Function.update_of_ne different]
    exact current

/-- Rejecting an attempt that is not active. -/
theorem reject
    (table : AttemptTable begun pairing) (attempt : PairingAttempt)
    (inactive : ∀ {challenge}, pairing.activeChallenge = some challenge →
      challenge.attemptId ≠ attempt.attemptId) :
    AttemptTable begun (pairing.rejectAttempt attempt) := by
  apply table.shrink (rejectAttempt_shrinks attempt)
  intro challenge found
  have active := (rejectAttempt_shrinks attempt).active found
  have numbers := (table.active active).1
  unfold PairingState.rejectAttempt
  split
  · rename_i current
    simp only [PairingState.isCurrentPairingAttempt, beq_iff_eq] at current
    apply removeAttempt_eq_some.mpr
    refine ⟨?_, numbers⟩
    intro same
    rw [same, current] at numbers
    exact inactive active (Option.some.inj numbers).symm
  · exact numbers

/-- Clearing the active challenge. -/
theorem clear
    (table : AttemptTable begun pairing) (challenge : ActivePairingChallenge) :
    AttemptTable begun (pairing.clearChallenge challenge) := by
  apply table.shrink (clearChallenge_shrinks challenge)
  intro other found
  simp [PairingState.clearChallenge, PairingState.removeAttempt] at found

theorem withdraw
    (table : AttemptTable begun pairing) (attempt : PairingAttempt) :
    AttemptTable begun (pairing.withdrawChallenge attempt) := by
  apply table.shrink (withdrawChallenge_shrinks attempt)
  intro challenge
  unfold PairingState.withdrawChallenge
  split
  · intro found
    simp [PairingState.removeAttempt] at found
  · exact fun found => (table.active found).1

/-- A current attempt becomes active. -/
theorem activate
    (table : AttemptTable begun pairing) {attempt : BegunAttempt}
    (member : attempt ∈ begun)
    (current : pairing.isCurrentPairingAttempt attempt.toPairingAttempt = true)
    (record : PairingRecord) :
    AttemptTable begun { pairing with
      activeChallenge := some
        (PairingState.challengeOf attempt.toPairingAttempt record) } where
  numbered := table.numbered
  bounded := table.bounded
  current := table.current
  active := by
    intro challenge found
    cases found
    simp only [PairingState.isCurrentPairingAttempt, beq_iff_eq] at current
    exact ⟨current, attempt, member, rfl⟩

end AttemptTable

/-! ## What tasks know of attempts -/

namespace PairingTask

/-- The attempt of a `StartPairing` that is under way. -/
def attempt : PairingTask → Option PairingAttempt
  | .confirming attempt | .rejected attempt | .confirmed attempt
  | .creating attempt | .notifying attempt _ | .unnotified attempt =>
      some attempt
  | _ => none

/-- The attempt of a `StartPairing` that has not activated it. -/
def inactive : PairingTask → Option PairingAttempt
  | .confirming attempt | .rejected attempt | .confirmed attempt
  | .creating attempt => some attempt
  | _ => none

/-- The request whose change of the credentials is under way. -/
def request : PairingTask → Option CredentialRequest
  | .load request _ | .remember request _ _ | .save request _ _ =>
      some request
  | _ => none

/-- The challenge that a completion has taken and issues a credential for. -/
def issuing (task : PairingTask) : Option ActivePairingChallenge :=
  match task.request with
  | some (.complete challenge) => some challenge
  | _ => none

end PairingTask

section Runs

variable (sha256Base64url : List UInt8 → String) (pairingNotifier : Bool)
  (credentials : ClientCredentials)

/-- A run of pairing, from the start of the daemon. -/
def pairingRun (history : List PairingEvent) : Option PairingRun :=
  run (pairingSystem sha256Base64url pairingNotifier).step
    ⟨PairingHost.initial credentials, []⟩ history

/-- The attempts that a run has begun, in order. -/
def attemptsBegun (history : List PairingEvent) : List BegunAttempt :=
  collect (pairingSystem sha256Base64url pairingNotifier).step attemptBegun
    ⟨PairingHost.initial credentials, []⟩ history

/-- The number that a new attempt replaces in the table. -/
def PairingTask.replaces (pairing : PairingState) : PairingTask → List Nat
  | .beginning start => (pairing.currentAttempts start.attemptKey).toList
  | _ => []

/-- What one step replaces. -/
def attemptReplaced (state : PairingRun) : PairingEvent → List Nat
  | .advance index _ =>
      (state.tasks[index]?.map
        (PairingTask.replaces state.shared.pairing)).getD []
  | _ => []

/-- The numbers that have been replaced while they were current. -/
def attemptsReplaced (history : List PairingEvent) : List Nat :=
  collect (pairingSystem sha256Base64url pairingNotifier).step attemptReplaced
    ⟨PairingHost.initial credentials, []⟩ history

/-- A completion takes a challenge: it is active, of the completion's session and
not expired, and its digest is that of the code. -/
def Takes (index : Nat) (session : Nat) (challenge : ActivePairingChallenge)
    (state : PairingRun) (event : PairingEvent) : Prop :=
  ∃ answers code nowUnix,
    event = .advance index (.proceed answers) ∧
      state.tasks[index]? = some (.checking session code nowUnix) ∧
      state.shared.pairing.activeChallenge = some challenge ∧
      challenge.ownerSessionId = session ∧
      nowUnix < challenge.record.expiresAtUnix ∧
      challenge.record.codeSha256Base64url =
        sha256Base64url (Bytes.utf8 (Text.trim code))

/-- A completion has taken a challenge when its attempt was the most recent
one of its key. -/
def TakenWhenLatest (index : Nat) (challenge : ActivePairingChallenge)
    (history : List PairingEvent) : Prop :=
  Occurred (pairingSystem sha256Base64url pairingNotifier).step
    ⟨PairingHost.initial credentials, []⟩
    (fun before state event _ =>
      (∃ session, Takes sha256Base64url index session challenge state event) ∧
        ∃ attempt,
          MostRecent
              (attemptsBegun sha256Base64url pairingNotifier credentials before)
              attempt ∧
            IsChallengeOf challenge attempt)
    history

/-- What supersession promises after a run. -/
structure SupersededAttemptsAreInert
    (history : List PairingEvent) (state : PairingRun) : Prop where
  /-- An active challenge is one of the most recent attempt of its key. -/
  latest : ∀ {challenge},
    state.shared.pairing.activeChallenge = some challenge →
      ∃ attempt,
        MostRecent
            (attemptsBegun sha256Base64url pairingNotifier credentials history)
            attempt ∧
          IsChallengeOf challenge attempt
  /-- A superseded attempt is not active. -/
  notActive : ∀ {attempt challenge},
    Superseded
        (attemptsBegun sha256Base64url pairingNotifier credentials history)
        attempt →
      state.shared.pairing.activeChallenge = some challenge →
        challenge.attemptId ≠ attempt.attemptId
  /-- What is being issued was decided on when its attempt was the most recent
  one of its key. -/
  decided : ∀ {index : Nat} {task : PairingTask} {challenge},
    state.tasks[index]? = some task → task.issuing = some challenge →
      TakenWhenLatest sha256Base64url pairingNotifier credentials index
        challenge history
  /-- Nothing is issued for an attempt that a newer one has replaced. -/
  notIssued : ∀ {attempt : BegunAttempt} {index : Nat} {task : PairingTask}
      {challenge},
    attempt.attemptId ∈
        attemptsReplaced sha256Base64url pairingNotifier credentials history →
      state.tasks[index]? = some task → task.issuing = some challenge →
        ¬IsChallengeOf challenge attempt
  /-- The task of a superseded attempt changes nothing of pairing. -/
  harmless : ∀ {index : Nat} {task : PairingTask} {attempt input shared after},
    state.tasks[index]? = some task → task.attempt = some attempt →
      Superseded
          (attemptsBegun sha256Base64url pairingNotifier credentials history)
          ⟨attempt, index⟩ →
        advancePairing sha256Base64url state.shared task input =
            some (shared, after) →
          shared.pairing = state.shared.pairing

/-! ## The invariant -/

/-- The table of attempts after a run. -/
structure AttemptsSound
    (history : List PairingEvent) (pairing : PairingState) : Prop where
  table : AttemptTable
    (attemptsBegun sha256Base64url pairingNotifier credentials history)
    pairing
  replaced : ∀ attemptId ∈
      attemptsReplaced sha256Base64url pairingNotifier credentials history,
    ∃ attempt,
      attempt.attemptId = attemptId ∧
        Superseded
          (attemptsBegun sha256Base64url pairingNotifier credentials history)
          attempt

/-- A challenge that a task has taken. -/
structure Decided
    (history : List PairingEvent) (pairing : PairingState) (index : Nat)
    (challenge : ActivePairingChallenge) : Prop where
  begun : ∃ attempt ∈
      attemptsBegun sha256Base64url pairingNotifier credentials history,
    IsChallengeOf challenge attempt
  notCurrent : pairing.currentAttempts challenge.attemptKey ≠
    some challenge.attemptId
  notReplaced : challenge.attemptId ∉
    attemptsReplaced sha256Base64url pairingNotifier credentials history
  taken : TakenWhenLatest sha256Base64url pairingNotifier credentials index
    challenge history

/-- What a task knows of attempts after a run. -/
structure TaskAttempt
    (history : List PairingEvent) (pairing : PairingState) (index : Nat)
    (task : PairingTask) : Prop where
  begun : ∀ {attempt}, task.attempt = some attempt →
    ⟨attempt, index⟩ ∈
      attemptsBegun sha256Base64url pairingNotifier credentials history
  inactive : ∀ {attempt challenge}, task.inactive = some attempt →
    pairing.activeChallenge = some challenge →
      challenge.attemptId ≠ attempt.attemptId
  issuing : ∀ {challenge}, task.issuing = some challenge →
    Decided sha256Base64url pairingNotifier credentials history pairing index
      challenge

end Runs

/-! ## What a step does to the state of pairing -/

/-- The challenge that a completion takes. -/
def PairingTask.takes
    (sha256Base64url : List UInt8 → String) (pairing : PairingState) :
    PairingTask → Option ActivePairingChallenge
  | .checking session code nowUnix =>
      (pairing.completePairing sha256Base64url session code nowUnix).2.getRight?
  | _ => none

/-- The effect of one action of a task on the state of pairing. -/
inductive PairingEffect (sha256Base64url : List UInt8 → String) :
    PairingState → PairingTask → PairingInput → PairingState → PairingTask →
      Prop
  | begin (pairing : PairingState) (start : PairingStart)
      (answers : Answers) :
      PairingEffect sha256Base64url pairing (.beginning start)
        (.proceed answers)
        (pairing.beginPairingAttempt start.attemptKey).1
        (.confirming ⟨start, pairing.nextAttemptId + 1⟩)
  | reject (pairing : PairingState) (attempt : PairingAttempt)
      (answers : Answers) (outcome : Option UnaryRpcOutcome) :
      PairingEffect sha256Base64url pairing (.rejected attempt)
        (.proceed answers) (pairing.rejectAttempt attempt) (.finished outcome)
  | activate (pairing : PairingState) (attempt : PairingAttempt)
      (answers : Answers)
      (current : pairing.isCurrentPairingAttempt attempt = true) :
      PairingEffect sha256Base64url pairing (.creating attempt)
        (.proceed answers)
        { pairing with
          activeChallenge := some (PairingState.challengeOf attempt
            (createPairingCode sha256Base64url answers.drawnCode
              answers.nowUnix).record) }
        (.notifying attempt (createPairingCode sha256Base64url
          answers.drawnCode answers.nowUnix).record.expiresAtUnix)
  | withdraw (pairing : PairingState) (attempt : PairingAttempt)
      (answers : Answers) (outcome : Option UnaryRpcOutcome) :
      PairingEffect sha256Base64url pairing (.unnotified attempt)
        (.proceed answers) (pairing.withdrawChallenge attempt)
        (.finished outcome)
  | clear (pairing : PairingState) (session : Nat) (code : String)
      (nowUnix : Int) (answers : Answers) (outcome : Option UnaryRpcOutcome)
      (challenge : ActivePairingChallenge)
      (active : pairing.activeChallenge = some challenge)
      (refused : (PairingTask.checking session code nowUnix).takes
        sha256Base64url pairing = none) :
      PairingEffect sha256Base64url pairing (.checking session code nowUnix)
        (.proceed answers) (pairing.clearChallenge challenge)
        (.finished outcome)
  | take (pairing : PairingState) (session : Nat) (code : String)
      (nowUnix : Int) (answers : Answers) (challenge : ActivePairingChallenge)
      (active : pairing.activeChallenge = some challenge)
      (owner : challenge.ownerSessionId = session)
      (verified : verifyPairingCode sha256Base64url challenge.record
        (Text.trim code) nowUnix = true)
      (taken : (PairingTask.checking session code nowUnix).takes
        sha256Base64url pairing = some challenge) :
      PairingEffect sha256Base64url pairing (.checking session code nowUnix)
        (.proceed answers) (pairing.clearChallenge challenge)
        (.load (.complete challenge) nowUnix)
  | keep (pairing : PairingState) (task after : PairingTask)
      (input : PairingInput)
      (notBeginning : ∀ start, task ≠ .beginning start)
      (attempt : ∀ attempt, after.attempt = some attempt →
        task.attempt = some attempt)
      (inactive : ∀ attempt, after.inactive = some attempt →
        task.inactive = some attempt)
      (issuing : ∀ challenge, after.issuing = some challenge →
        task.issuing = some challenge)
      (takes : task.takes sha256Base64url pairing = none) :
      PairingEffect sha256Base64url pairing task input pairing after

/-- What the code of a task does to the state of pairing. -/
theorem proceed_effect
    {sha256Base64url : List UInt8 → String} {shared next : PairingHost}
    {task after : PairingTask} {answers : Answers}
    (acted : task.proceed sha256Base64url shared answers =
      some (next, after)) :
    PairingEffect sha256Base64url shared.pairing task (.proceed answers)
      next.pairing after := by
  cases task with
  | beginning start =>
      cases acted
      exact .begin shared.pairing start answers
  | confirming attempt =>
      cases acted
      refine .keep _ _ _ _ (by simp) ?_ ?_ ?_ rfl
      all_goals
        intro value known
        split at known <;> simp_all [PairingTask.attempt, PairingTask.inactive,
          PairingTask.issuing, PairingTask.request]
  | rejected attempt =>
      cases acted
      exact .reject shared.pairing attempt answers _
  | confirmed attempt =>
      cases acted
      refine .keep _ _ _ _ (by simp) ?_ ?_ ?_ rfl
      all_goals
        intro value known
        split at known <;> simp_all [PairingTask.attempt, PairingTask.inactive,
          PairingTask.issuing, PairingTask.request]
  | creating attempt =>
      simp only [PairingTask.proceed] at acted
      split at acted
      · rename_i current
        cases acted
        exact .activate shared.pairing attempt answers current
      · cases acted
        apply PairingEffect.keep <;> simp [PairingTask.attempt,
          PairingTask.inactive, PairingTask.issuing, PairingTask.request,
          PairingTask.takes]
  | notifying attempt expiresAtUnix =>
      cases acted
      refine .keep _ _ _ _ (by simp) ?_ ?_ ?_ rfl
      all_goals
        intro value known
        split at known <;> simp_all [PairingTask.attempt, PairingTask.inactive,
          PairingTask.issuing, PairingTask.request]
  | unnotified attempt =>
      cases acted
      exact .withdraw shared.pairing attempt answers _
  | checking session code nowUnix =>
      simp only [PairingTask.proceed] at acted
      cases completed : shared.pairing.completePairing sha256Base64url session
          code nowUnix with
      | mk cleared decision =>
          have cases := completePairing_cases completed
          have takes : (PairingTask.checking session code nowUnix).takes
              sha256Base64url shared.pairing = decision.getRight? := by
            rw [PairingTask.takes, completed]
          rw [completed] at acted
          rcases cases with ⟨rfl, reply, rfl⟩ | ⟨challenge, active, rfl, result⟩
          · cases acted
            refine .keep _ _ _ _ (by simp) ?_ ?_ ?_ takes <;>
              simp [PairingTask.attempt, PairingTask.inactive,
                PairingTask.issuing, PairingTask.request]
          · rcases result with ⟨reply, rfl⟩ | ⟨rfl, owner, verified⟩
            · cases acted
              exact .clear shared.pairing session code nowUnix answers _
                challenge active takes
            · cases acted
              exact .take shared.pairing session code nowUnix answers challenge
                active owner verified takes
  | save request nowUnix loaded =>
      simp only [PairingTask.proceed] at acted
      split at acted <;>
      · cases acted
        apply PairingEffect.keep <;> simp [PairingTask.attempt,
          PairingTask.inactive, PairingTask.issuing, PairingTask.request,
          PairingTask.takes]
  | finished outcome => cases acted
  | _ =>
      cases acted
      apply PairingEffect.keep <;> simp [PairingTask.attempt,
        PairingTask.inactive, PairingTask.issuing, PairingTask.request,
        PairingTask.takes]

/-- What any step of a task does to the state of pairing. -/
theorem advance_effect
    {sha256Base64url : List UInt8 → String} {shared next : PairingHost}
    {task after : PairingTask} {input : PairingInput}
    (acted : advancePairing sha256Base64url shared task input =
      some (next, after)) :
    PairingEffect sha256Base64url shared.pairing task input next.pairing
      after := by
  cases input with
  | proceed answers => exact proceed_effect acted
  | fail =>
      simp only [advancePairing] at acted
      split at acted
      · rename_i fails
        cases acted
        apply PairingEffect.keep
        case notBeginning =>
          rintro start rfl
          simp [PairingTask.canFail] at fails
        case takes =>
          cases task with
          | checking session code nowUnix => cases fails
          | _ => rfl
        all_goals
          simp [PairingTask.attempt, PairingTask.inactive,
            PairingTask.issuing, PairingTask.request]
      · cases acted

theorem PairingTask.begins_eq_nil
    {task : PairingTask} {pairing : PairingState} {index : Nat}
    (notBeginning : ∀ start, task ≠ .beginning start) :
    task.begins pairing index = [] := by
  cases task with
  | beginning start => exact absurd rfl (notBeginning start)
  | _ => rfl

theorem PairingTask.replaces_eq_nil
    {task : PairingTask} {pairing : PairingState}
    (notBeginning : ∀ start, task ≠ .beginning start) :
    task.replaces pairing = [] := by
  cases task with
  | beginning start => exact absurd rfl (notBeginning start)
  | _ => rfl

/-- The table after one action. -/
theorem AttemptTable.effect
    {sha256Base64url : List UInt8 → String} {begun : List BegunAttempt}
    {pairing next : PairingState} {task after : PairingTask} {index : Nat}
    {input : PairingInput}
    (table : AttemptTable begun pairing)
    (effect : PairingEffect sha256Base64url pairing task input next after)
    (member : ∀ {attempt}, task.attempt = some attempt →
      ⟨attempt, index⟩ ∈ begun)
    (inactive : ∀ {attempt challenge}, task.inactive = some attempt →
      pairing.activeChallenge = some challenge →
        challenge.attemptId ≠ attempt.attemptId) :
    AttemptTable (begun ++ task.begins pairing index) next := by
  cases effect with
  | begin start answers => exact table.begin start index
  | reject attempt answers outcome =>
      rw [PairingTask.begins_eq_nil (by simp), List.append_nil]
      exact table.reject attempt (inactive rfl)
  | activate attempt answers current =>
      rw [PairingTask.begins_eq_nil (by simp), List.append_nil]
      exact table.activate (member rfl) current _
  | withdraw attempt answers outcome =>
      rw [PairingTask.begins_eq_nil (by simp), List.append_nil]
      exact table.withdraw attempt
  | clear session code nowUnix answers outcome challenge active refused =>
      rw [PairingTask.begins_eq_nil (by simp), List.append_nil]
      exact table.clear challenge
  | take session code nowUnix answers challenge active owner verified taken =>
      rw [PairingTask.begins_eq_nil (by simp), List.append_nil]
      exact table.clear challenge
  | keep _ _ input notBeginning =>
      rw [PairingTask.begins_eq_nil notBeginning, List.append_nil]
      exact table

/-- What becomes active in one action is of a current attempt that acts. -/
theorem PairingEffect.active_cases
    {sha256Base64url : List UInt8 → String} {pairing next : PairingState}
    {task after : PairingTask} {input : PairingInput}
    {challenge : ActivePairingChallenge}
    (effect : PairingEffect sha256Base64url pairing task input next after)
    (active : next.activeChallenge = some challenge) :
    pairing.activeChallenge = some challenge ∨
      ∃ attempt answers, task = .creating attempt ∧
        input = .proceed answers ∧
        pairing.isCurrentPairingAttempt attempt = true ∧
        challenge = PairingState.challengeOf attempt
          (createPairingCode sha256Base64url answers.drawnCode
            answers.nowUnix).record := by
  cases effect with
  | begin start answers => exact Or.inl (begin_active_eq_some.mp active).1
  | reject attempt answers outcome =>
      exact Or.inl ((rejectAttempt_shrinks attempt).active active)
  | activate attempt answers current =>
      cases active
      exact Or.inr ⟨attempt, answers, rfl, rfl, current, rfl⟩
  | withdraw attempt answers outcome =>
      exact Or.inl ((withdrawChallenge_shrinks attempt).active active)
  | clear session code nowUnix answers outcome cleared found refused =>
      exact Or.inl ((clearChallenge_shrinks cleared).active active)
  | take session code nowUnix answers challenge found owner verified taken =>
      exact Or.inl ((clearChallenge_shrinks challenge).active active)
  | keep => exact Or.inl active

/-- What becomes current in one action has a new number. -/
theorem PairingEffect.current_cases
    {sha256Base64url : List UInt8 → String} {pairing next : PairingState}
    {task after : PairingTask} {input : PairingInput}
    {key : PairingAttemptKey} {attemptId : Nat}
    (effect : PairingEffect sha256Base64url pairing task input next after)
    (current : next.currentAttempts key = some attemptId) :
    pairing.currentAttempts key = some attemptId ∨
      attemptId = pairing.nextAttemptId + 1 := by
  cases effect with
  | begin start answers =>
      by_cases same : key = start.attemptKey
      · subst same
        simp only [PairingState.beginPairingAttempt, Function.update_self,
          Option.some.injEq] at current
        exact Or.inr current.symm
      · simp only [PairingState.beginPairingAttempt,
          Function.update_of_ne same] at current
        exact Or.inl current
  | reject attempt answers outcome =>
      exact Or.inl ((rejectAttempt_shrinks attempt).current current)
  | activate attempt answers isCurrent => exact Or.inl current
  | withdraw attempt answers outcome =>
      exact Or.inl ((withdrawChallenge_shrinks attempt).current current)
  | clear session code nowUnix answers outcome cleared found refused =>
      exact Or.inl ((clearChallenge_shrinks cleared).current current)
  | take session code nowUnix answers challenge found owner verified taken =>
      exact Or.inl ((clearChallenge_shrinks challenge).current current)
  | keep => exact Or.inl current

/-- A number is replaced where it is current. -/
theorem PairingTask.mem_replaces
    {task : PairingTask} {pairing : PairingState} {attemptId : Nat} :
    attemptId ∈ task.replaces pairing ↔
      ∃ start, task = .beginning start ∧
        pairing.currentAttempts start.attemptKey = some attemptId := by
  cases task <;> simp [PairingTask.replaces]

section Preservation

variable {sha256Base64url : List UInt8 → String} {pairingNotifier : Bool}
  {credentials : ClientCredentials} {history : List PairingEvent}
  {event : PairingEvent} {pairing next : PairingState}
  {task after : PairingTask} {index other : Nat} {input : PairingInput}

/-- What an action of a task adds to the attempts begun and replaced. -/
structure AddsAttempts
    (sha256Base64url : List UInt8 → String) (pairingNotifier : Bool)
    (credentials : ClientCredentials) (history : List PairingEvent)
    (event : PairingEvent) (pairing : PairingState) (index : Nat)
    (task : PairingTask) : Prop where
  begun :
    attemptsBegun sha256Base64url pairingNotifier credentials
        (history ++ [event]) =
      attemptsBegun sha256Base64url pairingNotifier credentials history ++
        task.begins pairing index
  replaced :
    attemptsReplaced sha256Base64url pairingNotifier credentials
        (history ++ [event]) =
      attemptsReplaced sha256Base64url pairingNotifier credentials history ++
        task.replaces pairing

/-- The table of attempts is sound after an action. -/
theorem AttemptsSound.act
    (sound : AttemptsSound sha256Base64url pairingNotifier credentials history
      pairing)
    (known : TaskAttempt sha256Base64url pairingNotifier credentials history
      pairing index task)
    (adds : AddsAttempts sha256Base64url pairingNotifier credentials history
      event pairing index task)
    (effect : PairingEffect sha256Base64url pairing task input next after) :
    AttemptsSound sha256Base64url pairingNotifier credentials
      (history ++ [event]) next where
  table := by
    rw [adds.begun]
    exact sound.table.effect effect known.begun known.inactive
  replaced := by
    intro attemptId member
    rw [adds.replaced] at member
    rw [adds.begun]
    rcases List.mem_append.mp member with older | new
    · obtain ⟨attempt, number, superseded⟩ := sound.replaced attemptId older
      refine ⟨attempt, number, ?_⟩
      cases task with
      | beginning start => exact superseded.concat
      | _ => simpa [PairingTask.begins] using superseded
    · obtain ⟨start, rfl, current⟩ := PairingTask.mem_replaces.mp new
      obtain ⟨attempt, recent, ofKey, number⟩ := sound.table.current current
      exact ⟨attempt, number, superseded_concat recent.mem ofKey.symm⟩

/-- A challenge that has been taken stays so. -/
theorem Decided.act
    {challenge : ActivePairingChallenge}
    (decided : Decided sha256Base64url pairingNotifier credentials history
      pairing other challenge)
    (sound : AttemptsSound sha256Base64url pairingNotifier credentials history
      pairing)
    (adds : AddsAttempts sha256Base64url pairingNotifier credentials history
      event pairing index task)
    (effect : PairingEffect sha256Base64url pairing task input next after) :
    Decided sha256Base64url pairingNotifier credentials (history ++ [event])
      next other challenge where
  begun := by
    obtain ⟨attempt, member, origin⟩ := decided.begun
    rw [adds.begun]
    exact ⟨attempt, List.mem_append_left _ member, origin⟩
  notCurrent := by
    intro current
    obtain ⟨attempt, member, origin⟩ := decided.begun
    rcases effect.current_cases current with before | new
    · exact decided.notCurrent before
    · have bound := sound.table.bounded attempt member
      rw [← origin.attemptId] at bound
      omega
  notReplaced := by
    rw [adds.replaced]
    intro member
    rcases List.mem_append.mp member with older | new
    · exact decided.notReplaced older
    · obtain ⟨start, -, current⟩ := PairingTask.mem_replaces.mp new
      obtain ⟨attempt, begun, origin⟩ := decided.begun
      obtain ⟨recent, latest, ofKey, number⟩ := sound.table.current current
      have same : recent = attempt := by
        apply sound.table.numbered.eq_of_attemptId latest.mem begun
        rw [number, origin.attemptId]
      apply decided.notCurrent
      rw [origin.attemptKey, ← same, ofKey]
      exact current
  taken := decided.taken.append [event]

/-- What an active challenge is when a completion takes it. -/
theorem Decided.take
    {challenge : ActivePairingChallenge}
    (sound : AttemptsSound sha256Base64url pairingNotifier credentials history
      pairing)
    (adds : AddsAttempts sha256Base64url pairingNotifier credentials history
      event pairing index task)
    (notBeginning : ∀ start, task ≠ .beginning start)
    (active : pairing.activeChallenge = some challenge)
    (taken : TakenWhenLatest sha256Base64url pairingNotifier credentials index
      challenge (history ++ [event])) :
    Decided sha256Base64url pairingNotifier credentials (history ++ [event])
      (pairing.clearChallenge challenge) index challenge where
  begun := by
    obtain ⟨-, attempt, member, origin⟩ := sound.table.active active
    rw [adds.begun]
    exact ⟨attempt, List.mem_append_left _ member, origin⟩
  notCurrent := by
    intro current
    exact (removeAttempt_eq_some.mp current).1 rfl
  notReplaced := by
    rw [adds.replaced, PairingTask.replaces_eq_nil notBeginning,
      List.append_nil]
    intro member
    obtain ⟨older, number, superseded⟩ := sound.replaced _ member
    obtain ⟨attempt, latest, origin⟩ := sound.table.latest active
    have same : older = attempt := by
      apply sound.table.numbered.eq_of_attemptId superseded.mem latest.mem
      rw [number, origin.attemptId]
    exact sound.table.numbered.not_superseded latest (same ▸ superseded)
  taken := taken

/-- What the acting task knows afterwards. -/
theorem TaskAttempt.act
    (known : TaskAttempt sha256Base64url pairingNotifier credentials history
      pairing index task)
    (sound : AttemptsSound sha256Base64url pairingNotifier credentials history
      pairing)
    (adds : AddsAttempts sha256Base64url pairingNotifier credentials history
      event pairing index task)
    (effect : PairingEffect sha256Base64url pairing task input next after)
    (takes : ∀ {session code nowUnix answers challenge},
      task = .checking session code nowUnix → input = .proceed answers →
        pairing.activeChallenge = some challenge →
          challenge.ownerSessionId = session →
            verifyPairingCode sha256Base64url challenge.record (Text.trim code)
                nowUnix = true →
              TakenWhenLatest sha256Base64url pairingNotifier credentials index
                challenge (history ++ [event])) :
    TaskAttempt sha256Base64url pairingNotifier credentials
      (history ++ [event]) next index after := by
  have grows : ∀ {attempt : BegunAttempt},
      attempt ∈
          attemptsBegun sha256Base64url pairingNotifier credentials history →
        attempt ∈ attemptsBegun sha256Base64url pairingNotifier credentials
          (history ++ [event]) := by
    intro attempt member
    rw [adds.begun]
    exact List.mem_append_left _ member
  cases effect with
  | begin start answers =>
      refine ⟨?_, ?_, by simp [PairingTask.issuing, PairingTask.request]⟩
      · intro attempt known
        cases known
        rw [adds.begun]
        simp [PairingTask.begins]
      · intro attempt challenge known active
        cases known
        have before := (begin_active_eq_some.mp active).1
        obtain ⟨-, older, member, origin⟩ := sound.table.active before
        have bound := sound.table.bounded older member
        rw [origin.attemptId]
        exact Nat.ne_of_lt (Nat.lt_succ_of_le bound)
  | reject attempt answers outcome =>
      exact ⟨by simp [PairingTask.attempt], by simp [PairingTask.inactive],
        by simp [PairingTask.issuing, PairingTask.request]⟩
  | activate attempt answers current =>
      refine ⟨?_, by simp [PairingTask.inactive],
        by simp [PairingTask.issuing, PairingTask.request]⟩
      intro same equal
      cases equal
      exact grows (known.begun rfl)
  | withdraw attempt answers outcome =>
      exact ⟨by simp [PairingTask.attempt], by simp [PairingTask.inactive],
        by simp [PairingTask.issuing, PairingTask.request]⟩
  | clear session code nowUnix answers outcome challenge active refused =>
      exact ⟨by simp [PairingTask.attempt], by simp [PairingTask.inactive],
        by simp [PairingTask.issuing, PairingTask.request]⟩
  | take session code nowUnix answers challenge active owner verified taken =>
      refine ⟨by simp [PairingTask.attempt], by simp [PairingTask.inactive], ?_⟩
      intro decided equal
      cases equal
      exact Decided.take sound adds (by simp) active
        (takes rfl rfl active owner verified)
  | keep _ _ input notBeginning attempt inactive issuing takes =>
      refine ⟨?_, ?_, ?_⟩
      · intro value equal
        exact grows (known.begun (attempt value equal))
      · intro value challenge equal active
        exact known.inactive (inactive value equal) active
      · intro challenge equal
        exact (known.issuing (issuing challenge equal)).act sound adds
          (.keep pairing task after input notBeginning attempt inactive issuing
            takes)

/-- What the other tasks know afterwards. -/
theorem TaskAttempt.frame
    {idle : PairingTask}
    (idles : TaskAttempt sha256Base64url pairingNotifier credentials history
      pairing other idle)
    (different : other ≠ index)
    (known : TaskAttempt sha256Base64url pairingNotifier credentials history
      pairing index task)
    (sound : AttemptsSound sha256Base64url pairingNotifier credentials history
      pairing)
    (adds : AddsAttempts sha256Base64url pairingNotifier credentials history
      event pairing index task)
    (effect : PairingEffect sha256Base64url pairing task input next after) :
    TaskAttempt sha256Base64url pairingNotifier credentials
      (history ++ [event]) next other idle where
  begun := by
    intro attempt equal
    rw [adds.begun]
    exact List.mem_append_left _ (idles.begun equal)
  inactive := by
    intro attempt challenge equal active
    rcases effect.active_cases active with before |
      ⟨acting, answers, rfl, rfl, current, rfl⟩
    · exact idles.inactive equal before
    · intro same
      have begun : idle.attempt = some attempt := by
        cases idle <;> simp_all [PairingTask.inactive, PairingTask.attempt]
      have equalAttempts :=
        sound.table.numbered.eq_of_attemptId (known.begun rfl)
          (idles.begun begun) same
      exact different (congrArg BegunAttempt.task equalAttempts).symm
  issuing := fun equal => (idles.issuing equal).act sound adds effect

/-- A step that begins nothing leaves the table sound. -/
theorem AttemptsSound.quiet
    (sound : AttemptsSound sha256Base64url pairingNotifier credentials history
      pairing)
    (begun :
      attemptsBegun sha256Base64url pairingNotifier credentials
          (history ++ [event]) =
        attemptsBegun sha256Base64url pairingNotifier credentials history)
    (replaced :
      attemptsReplaced sha256Base64url pairingNotifier credentials
          (history ++ [event]) =
        attemptsReplaced sha256Base64url pairingNotifier credentials history) :
    AttemptsSound sha256Base64url pairingNotifier credentials
      (history ++ [event]) pairing where
  table := by
    rw [begun]
    exact sound.table
  replaced := by
    rw [begun, replaced]
    exact sound.replaced

/-- A step that begins and replaces nothing changes nothing of what is known. -/
theorem TaskAttempt.quiet
    (known : TaskAttempt sha256Base64url pairingNotifier credentials history
      pairing index task)
    (begun :
      attemptsBegun sha256Base64url pairingNotifier credentials
          (history ++ [event]) =
        attemptsBegun sha256Base64url pairingNotifier credentials history)
    (replaced :
      attemptsReplaced sha256Base64url pairingNotifier credentials
          (history ++ [event]) =
        attemptsReplaced sha256Base64url pairingNotifier credentials history) :
    TaskAttempt sha256Base64url pairingNotifier credentials
      (history ++ [event]) pairing index task where
  begun := by
    rw [begun]
    exact known.begun
  inactive := known.inactive
  issuing := by
    intro challenge equal
    have decided := known.issuing equal
    exact {
      begun := begun ▸ decided.begun
      notCurrent := decided.notCurrent
      notReplaced := replaced ▸ decided.notReplaced
      taken := decided.taken.append [event] }

/-- A request that starts knows nothing of attempts. -/
theorem startRequest_knows_nothing (request : PairingRequest) :
    TaskAttempt sha256Base64url pairingNotifier credentials history pairing
      index (startRequest pairingNotifier request) := by
  have nothing :
      (startRequest pairingNotifier request).attempt = none ∧
        (startRequest pairingNotifier request).inactive = none ∧
        (startRequest pairingNotifier request).issuing = none := by
    unfold startRequest
    repeat' split
    all_goals simp [PairingTask.attempt, PairingTask.inactive,
      PairingTask.issuing, PairingTask.request]
  exact ⟨by simp [nothing], by simp [nothing], by simp [nothing]⟩

variable {state : PairingRun}

/-- What a step of a run adds to the attempts begun. -/
theorem attemptsBegun_concat {final : PairingRun}
    (reached : pairingRun sha256Base64url pairingNotifier credentials history =
      some state)
    (taken : (pairingSystem sha256Base64url pairingNotifier).step state event =
      some final) :
    attemptsBegun sha256Base64url pairingNotifier credentials
        (history ++ [event]) =
      attemptsBegun sha256Base64url pairingNotifier credentials history ++
        attemptBegun state event :=
  collect_concat attemptBegun reached taken

theorem attemptsReplaced_concat {final : PairingRun}
    (reached : pairingRun sha256Base64url pairingNotifier credentials history =
      some state)
    (taken : (pairingSystem sha256Base64url pairingNotifier).step state event =
      some final) :
    attemptsReplaced sha256Base64url pairingNotifier credentials
        (history ++ [event]) =
      attemptsReplaced sha256Base64url pairingNotifier credentials history ++
        attemptReplaced state event :=
  collect_concat attemptReplaced reached taken

/-- What is begun and replaced by the step of a task. -/
theorem addsAttempts_of_advance {final : PairingRun}
    (reached : pairingRun sha256Base64url pairingNotifier credentials history =
      some state)
    (found : state.tasks[index]? = some task)
    (taken : (pairingSystem sha256Base64url pairingNotifier).step state
      (.advance index input) = some final) :
    AddsAttempts sha256Base64url pairingNotifier credentials history
      (.advance index input) state.shared.pairing index task where
  begun := by
    rw [attemptsBegun_concat reached taken]
    simp [attemptBegun, found]
  replaced := by
    rw [attemptsReplaced_concat reached taken]
    simp [attemptReplaced, found]

end Preservation

/-- The invariant of pairing attempts. -/
theorem attempts_nonInterference
    (sha256Base64url : List UInt8 → String) (pairingNotifier : Bool)
    (credentials : ClientCredentials) :
    TaskSystem.NonInterference (pairingSystem sha256Base64url pairingNotifier)
      (PairingHost.initial credentials)
      (fun history shared => AttemptsSound sha256Base64url pairingNotifier
        credentials history shared.pairing)
      (fun history shared index task => TaskAttempt sha256Base64url
        pairingNotifier credentials history shared.pairing index task) where
  initially := ⟨AttemptTable.initial, by simp [attemptsReplaced, collect]⟩
  launches := by
    intro history state request task reached holds launched
    have taken := TaskSystem.step_launch_eq_some.mpr ⟨task, launched, rfl⟩
    have begun := attemptsBegun_concat reached taken
    have replaced := attemptsReplaced_concat reached taken
    simp only [attemptBegun, List.append_nil] at begun
    simp only [attemptReplaced, List.append_nil] at replaced
    cases launched
    exact ⟨holds.shared.quiet begun replaced,
      startRequest_knows_nothing request⟩
  advances := by
    intro history state index input task shared after reached holds found acted
    have taken := TaskSystem.step_advance_eq_some.mpr
      ⟨task, shared, after, found, acted, rfl⟩
    have adds := addsAttempts_of_advance reached found taken
    have effect := advance_effect acted
    have known := holds.task found
    refine ⟨holds.shared.act known adds effect,
      known.act holds.shared adds effect ?_⟩
    rintro session code nowUnix answers challenge rfl rfl active owner verified
    refine Occurred.now reached taken ⟨⟨session, answers, code, nowUnix, rfl,
      found, active, owner, verifyPairingCode_iff.mp verified⟩, ?_⟩
    exact holds.shared.table.latest active
  disturbs := by
    intro history state cause shared reached holds disturbed
    have taken := TaskSystem.step_disturb_eq_some.mpr ⟨shared, disturbed, rfl⟩
    have begun := attemptsBegun_concat reached taken
    have replaced := attemptsReplaced_concat reached taken
    simp only [attemptBegun, List.append_nil] at begun
    simp only [attemptReplaced, List.append_nil] at replaced
    have same : shared.pairing = state.shared.pairing := by
      cases cause <;> cases disturbed <;> rfl
    rw [same]
    exact holds.shared.quiet begun replaced
  frame := by
    intro history state event next other task reached holds taken apart found
    have idles := holds.task found
    have begun := attemptsBegun_concat reached taken
    have replaced := attemptsReplaced_concat reached taken
    cases event with
    | launch request =>
        simp only [attemptBegun, List.append_nil] at begun
        simp only [attemptReplaced, List.append_nil] at replaced
        obtain ⟨started, -, rfl⟩ := TaskSystem.step_launch_eq_some.mp taken
        exact idles.quiet begun replaced
    | advance index input =>
        have adds := fun {task} (found : state.tasks[index]? = some task) =>
          addsAttempts_of_advance reached found taken
        obtain ⟨acting, shared, after, actingFound, acted, rfl⟩ :=
          TaskSystem.step_advance_eq_some.mp taken
        have different : other ≠ index := by
          rintro rfl
          exact apart input rfl
        exact idles.frame different (holds.task actingFound) holds.shared
          (adds actingFound) (advance_effect acted)
    | disturb cause =>
        simp only [attemptBegun, List.append_nil] at begun
        simp only [attemptReplaced, List.append_nil] at replaced
        obtain ⟨shared, disturbed, rfl⟩ :=
          TaskSystem.step_disturb_eq_some.mp taken
        have same : shared.pairing = state.shared.pairing := by
          cases cause <;> cases disturbed <;> rfl
        simp only [same]
        exact idles.quiet begun replaced

/-! ## Superseded attempts -/

/-- What the task of an attempt does to the state of pairing, once the attempt
is neither current nor active: nothing. -/
theorem PairingEffect.of_superseded
    {sha256Base64url : List UInt8 → String} {pairing next : PairingState}
    {task after : PairingTask} {input : PairingInput} {attempt : PairingAttempt}
    (effect : PairingEffect sha256Base64url pairing task input next after)
    (its : task.attempt = some attempt)
    (notCurrent : pairing.isCurrentPairingAttempt attempt = false)
    (notActive : ∀ {challenge}, pairing.activeChallenge = some challenge →
      challenge.attemptId ≠ attempt.attemptId) :
    next = pairing := by
  cases effect with
  | begin start answers => cases its
  | reject same answers outcome =>
      cases its
      simp [PairingState.rejectAttempt, notCurrent]
  | activate same answers current =>
      cases its
      rw [notCurrent] at current
      cases current
  | withdraw same answers outcome =>
      cases its
      unfold PairingState.withdrawChallenge PairingState.activeFor
      cases active : pairing.activeChallenge with
      | none => simp
      | some challenge => simp [notActive active]
  | clear session code nowUnix answers outcome challenge active refused => cases its
  | take session code nowUnix answers challenge active owner verified taken =>
      cases its
  | keep => rfl

/-- After every run: an active challenge belongs to the most recently begun
attempt of its key, and an attempt that is superseded is not active, issues no
credential, and leaves the state of the newer one alone. -/
theorem superseded_attempts_are_inert
    (sha256Base64url : List UInt8 → String) (pairingNotifier : Bool)
    (credentials : ClientCredentials) {history : List PairingEvent}
    {state : PairingRun}
    (reached : pairingRun sha256Base64url pairingNotifier credentials history =
      some state) :
    SupersededAttemptsAreInert sha256Base64url pairingNotifier credentials
      history state := by
  have holds := (attempts_nonInterference sha256Base64url pairingNotifier
    credentials).holds reached
  have table := holds.shared.table
  have notActive : ∀ {attempt challenge},
      Superseded
          (attemptsBegun sha256Base64url pairingNotifier credentials history)
          attempt →
        state.shared.pairing.activeChallenge = some challenge →
          challenge.attemptId ≠ attempt.attemptId := by
    intro attempt challenge superseded active same
    obtain ⟨recent, latest, origin⟩ := table.latest active
    have equal : recent = attempt := by
      apply table.numbered.eq_of_attemptId latest.mem superseded.mem
      rw [← origin.attemptId, same]
    exact table.numbered.not_superseded latest (equal ▸ superseded)
  constructor
  case latest => exact table.latest
  case notActive => exact notActive
  case decided =>
    intro index task challenge found issuing
    exact ((holds.task found).issuing issuing).taken
  case notIssued =>
    intro attempt index task challenge replaced found issuing origin
    apply ((holds.task found).issuing issuing).notReplaced
    rw [origin.attemptId]
    exact replaced
  case harmless =>
    intro index task attempt input shared after found its superseded acted
    apply (advance_effect acted).of_superseded its
    · by_contra current
      simp only [PairingState.isCurrentPairingAttempt, Bool.not_eq_false,
        beq_iff_eq] at current
      obtain ⟨recent, latest, -, number⟩ := table.current current
      have equal := table.numbered.eq_of_attemptId latest.mem superseded.mem
        number
      exact table.numbered.not_superseded latest (equal ▸ superseded)
    · exact notActive superseded

/-! ## Two attempts of one client -/

/-- A digest that is enough to tell the code from others. -/
def pairingTestSha256 (bytes : List UInt8) : String :=
  if bytes = Bytes.utf8 "000007" then "seven" else "other"

/-- A client without an id asks to be paired. -/
def startedPairing : PairingStart := ⟨0, "42", "phone", none⟩

/-- The answers of the platform to the pairing. -/
def pairingAnswers : Answers := ⟨100, 7, ⟨"c", "s"⟩, true, true⟩

/-- Two pairings without a client id begin, are confirmed in turn, and the
second is completed. -/
def supersededHistory : List PairingEvent :=
  [.launch (.startPairing 0 ⟨"42", "phone", none⟩),
    .launch (.startPairing 0 ⟨"42", "phone", none⟩),
    .advance 0 (.proceed pairingAnswers), .advance 0 (.proceed pairingAnswers),
    .advance 1 (.proceed pairingAnswers), .advance 1 (.proceed pairingAnswers),
    .advance 1 (.proceed pairingAnswers), .advance 1 (.proceed pairingAnswers),
    .advance 0 (.proceed pairingAnswers),
    .launch (.completePairing 0 "000007"),
    .advance 2 (.proceed pairingAnswers), .advance 2 (.proceed pairingAnswers)]

theorem supersededHistory_runs :
    (pairingRun pairingTestSha256 true ⟨[]⟩ supersededHistory).map
        (fun state => state.tasks[2]?.bind PairingTask.issuing) =
      some (some (PairingState.challengeOf ⟨startedPairing, 2⟩
        ⟨"seven", 280⟩)) := by
  rfl

theorem superseded_attempts_are_inert_phone :
    ∃ state,
      pairingRun pairingTestSha256 true ⟨[]⟩ supersededHistory = some state ∧
        attemptsBegun pairingTestSha256 true ⟨[]⟩ supersededHistory =
          [⟨⟨startedPairing, 1⟩, 0⟩, ⟨⟨startedPairing, 2⟩, 1⟩] ∧
        SupersededAttemptsAreInert pairingTestSha256 true ⟨[]⟩
          supersededHistory state := by
  obtain ⟨state, reached, -⟩ :=
    Option.map_eq_some_iff.mp supersededHistory_runs
  exact ⟨state, reached, by rfl,
    superseded_attempts_are_inert pairingTestSha256 true ⟨[]⟩ reached⟩

end Host
end WhatsGoingOn
