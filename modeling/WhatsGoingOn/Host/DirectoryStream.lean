import WhatsGoingOn.Daemon.Services
import WhatsGoingOn.Library.Run
import WhatsGoingOn.Web.Tables

/-!
# Subscriptions of directories

A directory is watched before it is listed for the snapshot.  An event of the
watcher says that something has changed: the subscription waits a little, throws
away the events that have come meanwhile, and lists the directory again.
-/

namespace WhatsGoingOn
namespace Host

open Daemon KeyedRows

/-! ## The program -/

/-- The code that an error of a service carries on the wire. -/
def serviceErrorCode : ServiceError → String
  | .permissionDenied => "permission_denied"
  | .notFound => "not_found"
  | .alreadyExists => "already_exists"
  | .notDirectory => "not_directory"
  | .notFile => "not_file"
  | .invalidPath => "invalid_path"
  | .unsupported => "unsupported"
  | .operationFailed _ => "failed"

/-- The reason that a directory is closed with when its listing fails. -/
def directoryCloseReasonForError :
    ServiceError → DirectorySubscriptionCloseReason
  | .notFound => .deleted
  | .notDirectory | .notFile => .replacedByNonDirectory
  | .permissionDenied => .permissionLost
  | .operationFailed _ => .failed
  | _ => .unknown

/-- What a subscription writes: an event, or an error that ends it. -/
inductive DirectoryReply where
  | event (event : DirectoryTableEvent)
  | error (code message : String)
  deriving DecidableEq, Repr

/-- How far a subscription is. -/
inductive DirectoryStage where
  | checking
  | registering
  | snapshotting
  | waiting
  | sleeping
  | draining
  | listing
  | finished
  deriving DecidableEq, Repr

/-- A directory and a subscription of it.  The events of the watcher that are
queued succeed or fail. -/
structure DirectoryState where
  content : List FsEntry
  watched : Bool
  /-- Something has changed while the directory is watched, and no event has been
  queued since. -/
  unreported : Bool
  queue : List Bool
  /-- The watcher is gone, and its channel is closed. -/
  watcherGone : Bool
  stage : DirectoryStage
  rows : List FsEntry
  sent : List DirectoryReply
  /-- Writing has failed. -/
  disconnected : Bool
  deriving DecidableEq, Repr

/-- What happens to a directory and its subscription. -/
inductive DirectoryInput where
  | change (content : List FsEntry)
  | report
  | reportError
  | loseWatcher
  | proceed (failure : Option ServiceError)
  | disconnect

namespace DirectoryState

/-- A subscription of a directory that nothing has been done for. -/
def initial (content : List FsEntry) : DirectoryState :=
  ⟨content, false, false, [], false, .checking, [], [], false⟩

/-- The state at another place of the loop. -/
def moveTo (state : DirectoryState) (stage : DirectoryStage) :
    DirectoryState :=
  { state with stage := stage }

/-- Write a last reply. -/
def finish (state : DirectoryState) (reply : DirectoryReply) :
    DirectoryState :=
  { state with stage := .finished, sent := state.sent ++ [reply] }

/-- `stream_service_error_message`. -/
def fail (state : DirectoryState) (failure : ServiceError) :
    DirectoryState :=
  state.finish (.error (serviceErrorCode failure) failure.text)

/-- The close is sent and the loop ends. -/
def close (state : DirectoryState)
    (reason : DirectorySubscriptionCloseReason) : DirectoryState :=
  state.finish (.event (.closed reason))

/-- Compare a listing with the rows that the client has. -/
def relist (state : DirectoryState) : DirectoryState :=
  match directoryPatch state.rows state.content with
  | some event =>
      { state with
        stage := .waiting
        rows := state.content
        sent := state.sent ++ [.event event] }
  | none => state.moveTo .waiting

/-- One action of `stream_directory_subscription`. -/
def proceed (state : DirectoryState) (failure : Option ServiceError) :
    Option DirectoryState :=
  match state.stage with
  | .checking =>
      match failure with
      | some failure => some (state.fail failure)
      | none => some (state.moveTo .registering)
  | .registering =>
      match failure with
      | some failure => some (state.finish (.error "failed" failure.text))
      | none => some { state with watched := true, stage := .snapshotting }
  | .snapshotting =>
      match failure with
      | some failure => some (state.fail failure)
      | none =>
          some { state with
            stage := .waiting
            rows := state.content
            sent := state.sent ++ [.event (.snapshot state.content)] }
  | .waiting =>
      match state.queue with
      | true :: queue => some { state with queue := queue, stage := .sleeping }
      | false :: queue => some { state.close .failed with queue := queue }
      | [] => if state.watcherGone then some (state.close .failed) else none
  | .sleeping => some (state.moveTo .draining)
  | .draining =>
      match state.queue with
      | _ :: queue => some { state with queue := queue }
      | [] => some (state.moveTo .listing)
  | .listing =>
      match failure with
      | some failure => some (state.close (directoryCloseReasonForError failure))
      | none => some state.relist
  | .finished => none

/-- The names in a directory are distinct, and a watcher reports what happens
while it watches. -/
def step (state : DirectoryState) : DirectoryInput → Option DirectoryState
  | .change content =>
      if Distinct FsEntry.name content then
        some { state with
          content := content
          unreported := state.unreported || state.watched }
      else none
  | .report =>
      if state.watched && !state.watcherGone then
        some { state with unreported := false, queue := state.queue ++ [true] }
      else none
  | .reportError =>
      if state.watched && !state.watcherGone then
        some { state with queue := state.queue ++ [false] }
      else none
  | .loseWatcher => some { state with watcherGone := true }
  | .proceed failure => state.proceed failure
  | .disconnect =>
      some { state with stage := .finished, disconnected := true }

/-! ## What a subscription does by itself -/

/-- How much a subscription can do before it waits for the watcher. -/
def work (state : DirectoryState) : Nat :=
  4 * state.queue.length +
    match state.stage with
    | .finished => 0
    | .waiting => 1
    | .listing | .snapshotting => 2
    | .draining | .registering => 3
    | .sleeping | .checking => 4

variable {state next : DirectoryState} {failure : Option ServiceError}

/-- An action writes one reply at most, and leaves less to do. -/
theorem proceed_effect (acted : state.proceed failure = some next) :
    next.work < state.work ∧
      ∃ written : Option DirectoryReply,
        next.sent = state.sent ++ written.toList := by
  have silent {later : DirectoryState} (same : later.sent = state.sent) :
      ∃ written : Option DirectoryReply,
        later.sent = state.sent ++ written.toList :=
    ⟨none, by rw [same, Option.toList_none, List.append_nil]⟩
  unfold proceed at acted
  split at acted
  · rename_i stage
    split at acted <;> cases acted
    · exact ⟨by simp [work, stage, fail, finish], some _, rfl⟩
    · exact ⟨by simp [work, stage, moveTo], silent rfl⟩
  · rename_i stage
    split at acted <;> cases acted
    · exact ⟨by simp [work, stage, finish], some _, rfl⟩
    · exact ⟨by simp [work, stage], silent rfl⟩
  · rename_i stage
    split at acted <;> cases acted
    · exact ⟨by simp [work, stage, fail, finish], some _, rfl⟩
    · exact ⟨by simp [work, stage], some _, rfl⟩
  · rename_i stage
    split at acted
    · rename_i queue
      cases acted
      refine ⟨?_, silent rfl⟩
      simp only [work, stage, queue, List.length_cons]
      omega
    · rename_i queue
      cases acted
      refine ⟨?_, some _, rfl⟩
      simp only [work, stage, queue, close, finish, List.length_cons]
      omega
    · rename_i queue
      split at acted <;> cases acted
      exact ⟨by simp [work, stage, queue, close, finish], some _, rfl⟩
  · rename_i stage
    cases acted
    exact ⟨by simp [work, stage, moveTo], silent rfl⟩
  · rename_i stage
    split at acted <;> rename_i queue <;> cases acted
    · exact ⟨by simp [work, stage, queue], silent rfl⟩
    · exact ⟨by simp [work, stage, queue, moveTo], silent rfl⟩
  · rename_i stage
    split at acted <;> cases acted
    · exact ⟨by simp [work, stage, close, finish], some _, rfl⟩
    · unfold relist
      split
      · exact ⟨by simp [work, stage], some _, rfl⟩
      · exact ⟨by simp [work, stage, moveTo], silent rfl⟩
  · cases acted

/-- A subscription that can do nothing has ended or waits for the watcher. -/
theorem ended_or_waiting (idle : ∀ failure, state.proceed failure = none) :
    state.stage = .finished ∨ (state.stage = .waiting ∧ state.queue = []) := by
  have stopped := idle none
  unfold proceed at stopped
  split at stopped
  · cases stopped
  · cases stopped
  · cases stopped
  · rename_i stage
    split at stopped
    · cases stopped
    · cases stopped
    · rename_i empty
      exact Or.inr ⟨stage, empty⟩
  · cases stopped
  · split at stopped <;> cases stopped
  · cases stopped
  · rename_i stage
    exact Or.inl stage

end DirectoryState

/-! ## What the client folds -/

/-- The events among the replies. -/
def heardEvents : List DirectoryReply → List DirectoryTableEvent :=
  List.filterMap fun reply =>
    match reply with
    | .event event => some event
    | .error _ _ => none

/-- The rows that the client has folded from the replies. -/
def folded (locale : Web.Locale) (sent : List DirectoryReply) : List FsEntry :=
  (heardEvents sent).foldl
    (fun rows event =>
      (Web.applyDirectoryEvent locale ⟨rows, "", ""⟩ event).rows) []

theorem folded_concat (locale : Web.Locale) (sent : List DirectoryReply)
    (event : DirectoryTableEvent) :
    folded locale (sent ++ [.event event]) =
      (Web.applyDirectoryEvent locale ⟨folded locale sent, "", ""⟩
        event).rows := by
  simp [folded, heardEvents]

theorem folded_concat_error (locale : Web.Locale)
    (sent : List DirectoryReply) (code message : String) :
    folded locale (sent ++ [.error code message]) = folded locale sent := by
  simp [folded, heardEvents]

/-- The last reply ends the stream. -/
def Ended (sent : List DirectoryReply) : Prop :=
  ∃ reply, sent.getLast? = some reply ∧
    ((∃ reason, reply = .event (.closed reason)) ∨
      ∃ code message, reply = .error code message)

/-! ## The invariant -/

/-- The client has the rows of the last listing, and while the subscription
waits, these are the content of the directory unless it is still to hear of a
change. -/
structure Follows (locale : Web.Locale) (state : DirectoryState) : Prop where
  content : Distinct FsEntry.name state.content
  rows : Distinct FsEntry.name state.rows
  folded : (folded locale state.sent).Perm state.rows
  watched : state.stage ∈ [.snapshotting, .waiting, .sleeping, .draining,
    .listing] → state.watched = true
  current : state.stage = .waiting →
    state.rows.Perm state.content ∨ state.unreported = true ∨ state.queue ≠ []
  ended : state.stage = .finished →
    state.disconnected = true ∨ Ended state.sent

namespace Follows

variable {locale : Web.Locale} {state next : DirectoryState}

theorem initial {content : List FsEntry}
    (distinct : Distinct FsEntry.name content) :
    Follows locale (.initial content) where
  content := distinct
  rows := List.nodup_nil
  folded := List.Perm.refl _
  watched := by simp [DirectoryState.initial]
  current := nofun
  ended := nofun

/-- A step that neither writes nor lists. -/
theorem moveTo {stage : DirectoryStage} (follows : Follows locale state)
    (watched : stage ∈ [.snapshotting, .waiting, .sleeping, .draining,
      .listing] → state.watched = true)
    (waiting : stage ≠ .waiting) (running : stage ≠ .finished) :
    Follows locale (state.moveTo stage) :=
  { follows with
    watched := watched
    current := fun waits => absurd waits waiting
    ended := fun finished => absurd finished running }

/-- What ends the stream says nothing of the rows. -/
theorem finish {reply : DirectoryReply} (follows : Follows locale state)
    (ends : (∃ reason, reply = .event (.closed reason)) ∨
      ∃ code message, reply = .error code message) :
    Follows locale (state.finish reply) :=
  { follows with
    folded := by
      rcases ends with ⟨reason, rfl⟩ | ⟨code, message, rfl⟩
      · unfold DirectoryState.finish
        rw [folded_concat]
        exact follows.folded
      · unfold DirectoryState.finish
        rw [folded_concat_error]
        exact follows.folded
    watched := by simp [DirectoryState.finish]
    current := nofun
    ended := fun _ => Or.inr
      ⟨reply, by simp [DirectoryState.finish], ends⟩ }

/-- After a snapshot the client has the content of the directory. -/
theorem snapshot (follows : Follows locale state)
    (watched : state.watched = true) :
    Follows locale
      { state with
        stage := .waiting
        rows := state.content
        sent := state.sent ++ [.event (.snapshot state.content)] } where
  content := follows.content
  rows := follows.content
  folded := by
    dsimp only
    rw [folded_concat]
    exact List.Perm.refl _
  watched := fun _ => watched
  current := fun _ => Or.inl (List.Perm.refl _)
  ended := nofun

/-- After a listing the client has the content of the directory. -/
theorem relist (follows : Follows locale state)
    (watched : state.watched = true) : Follows locale state.relist := by
  have computes : Computes FsEntry.name DirectoryEntryKey.name
      directoryPatch := computes_tablePatch fun _ => rfl
  unfold DirectoryState.relist
  split
  · rename_i event changed
    obtain ⟨removes, upserts, rfl, exact⟩ :=
      computes.difference follows.rows follows.content changed
    refine ⟨follows.content, follows.content, ?_, fun _ => watched,
      fun _ => Or.inl (List.Perm.refl _), nofun⟩
    dsimp only
    rw [folded_concat]
    exact (Web.shows_directoryView locale).patch.exact exact follows.rows
      follows.content follows.folded
  · rename_i unchanged
    have same :=
      (computes.none_iff follows.rows follows.content).mp unchanged
    exact { follows with
      watched := fun _ => watched
      current := fun _ => Or.inl same
      ended := nofun }

/-- An action of the subscription keeps the invariant. -/
theorem proceed {failure : Option ServiceError}
    (follows : Follows locale state)
    (acted : state.proceed failure = some next) : Follows locale next := by
  unfold DirectoryState.proceed at acted
  split at acted
  · split at acted
    · cases acted
      exact follows.finish (Or.inr ⟨_, _, rfl⟩)
    · cases acted
      exact follows.moveTo (by simp) nofun nofun
  · split at acted
    · cases acted
      exact follows.finish (Or.inr ⟨_, _, rfl⟩)
    · cases acted
      exact { follows with
        watched := fun _ => rfl
        current := nofun
        ended := nofun }
  · rename_i stage
    split at acted
    · cases acted
      exact follows.finish (Or.inr ⟨_, _, rfl⟩)
    · cases acted
      exact follows.snapshot (follows.watched (by simp [stage]))
  · rename_i stage
    have watched := follows.watched (by simp [stage])
    split at acted
    · cases acted
      exact { follows with
        watched := fun _ => watched
        current := nofun
        ended := nofun }
    · cases acted
      have closed : Follows locale (state.close .failed) :=
        follows.finish (Or.inl ⟨_, rfl⟩)
      exact { closed with current := nofun }
    · split at acted
      · cases acted
        exact follows.finish (Or.inl ⟨_, rfl⟩)
      · cases acted
  · rename_i stage
    have watched := follows.watched (by simp [stage])
    cases acted
    exact follows.moveTo (fun _ => watched) nofun nofun
  · rename_i stage
    have watched := follows.watched (by simp [stage])
    split at acted
    · cases acted
      exact { follows with
        current := fun waits => by simp [stage] at waits }
    · cases acted
      exact follows.moveTo (fun _ => watched) nofun nofun
  · rename_i stage
    have watched := follows.watched (by simp [stage])
    split at acted
    · cases acted
      exact follows.finish (Or.inl ⟨_, rfl⟩)
    · cases acted
      exact follows.relist watched
  · cases acted

/-- Every step keeps the invariant. -/
theorem step {input : DirectoryInput} (follows : Follows locale state)
    (taken : state.step input = some next) : Follows locale next := by
  cases input with
  | change content =>
      simp only [DirectoryState.step] at taken
      split at taken
      · rename_i distinct
        cases taken
        refine { follows with
          content := distinct
          current := ?_ }
        intro waits
        have watched := follows.watched (by
          have stage : state.stage = .waiting := waits
          simp [stage])
        simp [watched]
      · cases taken
  | report =>
      simp only [DirectoryState.step] at taken
      split at taken
      · cases taken
        exact { follows with current := fun _ => by simp }
      · cases taken
  | reportError =>
      simp only [DirectoryState.step] at taken
      split at taken
      · cases taken
        exact { follows with current := fun _ => by simp }
      · cases taken
  | loseWatcher =>
      cases taken
      exact { follows with }
  | proceed failure => exact follows.proceed taken
  | disconnect =>
      cases taken
      exact { follows with
        watched := by simp
        current := nofun
        ended := fun _ => Or.inl rfl }

/-- A subscription that waits, and has nothing to hear of, has told the client of
the content of the directory. -/
theorem upToDate (follows : Follows locale state)
    (stage : state.stage = .waiting) (reported : state.unreported = false)
    (empty : state.queue = []) :
    (Host.folded locale state.sent).Perm state.content := by
  refine follows.folded.trans ?_
  rcases follows.current stage with same | unreported | waiting
  · exact same
  · rw [reported] at unreported
    cases unreported
  · exact absurd empty waiting

end Follows

/-- When every change since the registration has been followed by an event of
the watcher, and the subscription has nothing left to do, then it has ended with
an error or a closing event, or the rows that the client has folded are the
content of the directory. -/
theorem directory_is_followed
    (locale : Web.Locale) (content : List FsEntry)
    (history : List DirectoryInput) (state : DirectoryState)
    (distinct : Distinct FsEntry.name content)
    (reached : run DirectoryState.step (.initial content) history = some state)
    (reported : state.unreported = false)
    (idle : ∀ failure, state.proceed failure = none) :
    (state.stage = .finished ∧
        (state.disconnected = true ∨ Ended state.sent)) ∨
      (state.stage = .waiting ∧
        (folded locale state.sent).Perm state.content) := by
  have follows : Follows locale state :=
    run_state_invariant (Follows.initial distinct)
      (fun _ _ _ follows taken => follows.step taken) reached
  rcases DirectoryState.ended_or_waiting idle with stage | ⟨stage, empty⟩
  · exact Or.inl ⟨stage, follows.ended stage⟩
  · exact Or.inr ⟨stage, follows.upToDate stage reported empty⟩

/-- A file is written while the events of another are thrown away, and a third
one before that listing. -/
def crowdedHistory : List DirectoryInput :=
  [.proceed none, .proceed none, .proceed none,
    .change [⟨"a", "/a", .file, none, none, false⟩], .report, .proceed none,
    .proceed none, .change [⟨"b", "/b", .file, none, none, false⟩], .report,
    .proceed none, .proceed none,
    .change [⟨"c", "/c", .file, none, none, false⟩], .proceed none, .report,
    .proceed none, .proceed none, .proceed none, .proceed none]

/-- Events that crowd each other lead to one listing. -/
theorem directory_is_followed_crowded :
    ∃ state, run DirectoryState.step (.initial []) crowdedHistory =
        some state ∧
      state.content = [⟨"c", "/c", .file, none, none, false⟩] ∧
      (folded Web.plainLocale state.sent).Perm state.content := by
  have ends : (run DirectoryState.step (.initial []) crowdedHistory).map
      (fun state => (state.content, state.unreported, state.queue, state.stage,
        state.watcherGone)) =
      some ([⟨"c", "/c", .file, none, none, false⟩], false, [], .waiting,
        false) := by
    rfl
  obtain ⟨state, reached, values⟩ := Option.map_eq_some_iff.mp ends
  simp only [Prod.mk.injEq] at values
  obtain ⟨content, reported, queue, stage, gone⟩ := values
  have idle : ∀ failure, state.proceed failure = none := by
    intro failure
    simp [DirectoryState.proceed, stage, queue, gone]
  refine ⟨state, reached, content, ?_⟩
  rcases directory_is_followed Web.plainLocale [] crowdedHistory state
      List.nodup_nil reached reported idle with ⟨finished, -⟩ | ⟨-, same⟩
  · rw [stage] at finished
    cases finished
  · exact same

end Host
end WhatsGoingOn
