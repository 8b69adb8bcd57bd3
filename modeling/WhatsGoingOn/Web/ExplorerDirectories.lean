import WhatsGoingOn.Host.DirectoryStream
import WhatsGoingOn.Web.ExplorerSubscriptions
import Mathlib.Data.Option.Basic
import Mathlib.Logic.Function.Basic

/-!
# The explorer and the directories of the daemon

A pane of the explorer and the streams of all its subscriptions run together.
Each stream follows the directory of its subscription, and its events arrive in
order, at any time or never.
-/

namespace WhatsGoingOn
namespace Web

open Daemon KeyedRows
open Host (DirectoryInput DirectoryState heardEvents)
open DirectoryPane (officeMachine)

/-- A pane, the stream of each of its subscriptions, and how many events of a
stream have arrived. -/
structure ExplorerSystem where
  pane : DirectoryPane
  streams : Nat → DirectoryState
  arrived : Nat → Nat

/-- A step of the pane or of one of the daemon's streams. -/
inductive ExplorerSystemEvent where
  /-- Anything but the arrival of an event. -/
  | pane (event : PaneEvent)
  | daemon (index : Nat) (input : DirectoryInput)
  /-- The next event of a stream arrives. -/
  | arrive (index : Nat)

/-- An event of a stream arrives. -/
def PaneEvent.isArrival : PaneEvent → Bool
  | .event _ _ => true
  | _ => false

namespace ExplorerSystem

/-- Events reach the pane only from the streams, in the order they were sent. -/
def step (locale : Locale) (system : ExplorerSystem) :
    ExplorerSystemEvent → Option ExplorerSystem
  | .pane event => do
      guard (event.isArrival = false)
      let pane ← system.pane.step locale event
      some { system with pane := pane }
  | .daemon index input => do
      let stream ← (system.streams index).step input
      some
        { system with streams := Function.update system.streams index stream }
  | .arrive index => do
      let event ← (heardEvents (system.streams index).sent)[
        system.arrived index]?
      let pane ← system.pane.step locale (.event index event)
      some
        { system with
          pane := pane
          arrived :=
            Function.update system.arrived index (system.arrived index + 1) }

/-- A pane was mounted, and nothing was asked of the daemon. -/
def initial (machine : Option Machine) (refreshes : Nat)
    (navigation : ExplorerNavigation) (contents : Nat → List FsEntry) :
    ExplorerSystem where
  pane := .mount machine refreshes navigation
  streams index := .initial (contents index)
  arrived _ := 0

variable {locale : Locale} {system next : ExplorerSystem}

/-! ## The streams -/

/-- A stream keeps what was written. -/
theorem sent_of_step {stream later : DirectoryState} {input : DirectoryInput}
    (taken : stream.step input = some later) : stream.sent <+: later.sent := by
  cases input with
  | change content =>
      simp only [DirectoryState.step] at taken
      split at taken
      · cases taken
        exact List.prefix_rfl
      · cases taken
  | report | reportError =>
      simp only [DirectoryState.step] at taken
      split at taken
      · cases taken
        exact List.prefix_rfl
      · cases taken
  | loseWatcher | disconnect =>
      cases taken
      exact List.prefix_rfl
  | proceed failure =>
      obtain ⟨-, written, sent⟩ := DirectoryState.proceed_effect taken
      rw [sent]
      exact List.prefix_append _ _

/-- The rows that a pane folds are those that the stream accounts for. -/
theorem rowsAfter_heardEvents (locale : Locale)
    (sent : List Host.DirectoryReply) :
    rowsAfter locale (heardEvents sent) = Host.folded locale sent := by
  unfold Host.folded
  induction heardEvents sent using List.reverseRecOn with
  | nil => rfl
  | append_singleton events event inductionHypothesis =>
      have rows : rowsAfter locale (events ++ [event]) =
          (applyDirectoryEvent locale ⟨rowsAfter locale events, "", ""⟩
            event).rows := rowsAfter_concat locale rfl event
      rw [List.foldl_concat, rows, inductionHypothesis]

/-! ## The invariant -/

/-- Every subscription was told a front part of what its stream has written, and
every stream follows its directory. -/
structure Consistent (locale : Locale) (history : List PaneEvent)
    (system : ExplorerSystem) : Prop where
  shown : DirectoryPane.Shown locale history system.pane
  synced : system.pane.Synced
  told : ∀ index, eventsOf index history =
    (heardEvents (system.streams index).sent).take (system.arrived index)
  inRange : ∀ index, system.arrived index ≤
    (heardEvents (system.streams index).sent).length
  follows : ∀ index, Host.Follows locale (system.streams index)

/-- What the pane does by itself keeps it in step with the streams. -/
theorem Consistent.pane {history : List PaneEvent} {event : PaneEvent}
    {pane : DirectoryPane} (consistent : Consistent locale history system)
    (notArrival : event.isArrival = false)
    (plain : ∀ machine, event = .setMachine (some machine) → machine.Plain)
    (taken : system.pane.step locale event = some pane) :
    Consistent locale (history ++ [event]) { system with pane := pane } := by
  obtain ⟨shown, synced⟩ :=
    consistent.shown.step consistent.synced plain taken
  refine ⟨shown, synced, fun index => ?_, consistent.inRange,
    consistent.follows⟩
  have nothing : event.toldTo index = none := by
    cases event with
    | event => cases notArrival
    | setMachine | refresh | user | stored | transport | done | failed
      | unmount => rfl
  rw [eventsOf_concat, nothing, Option.toList_none, List.append_nil]
  exact consistent.told index

/-- What a stream writes does not change the pane. -/
theorem Consistent.daemon {history : List PaneEvent} {index : Nat}
    {input : DirectoryInput} {stream : DirectoryState}
    (consistent : Consistent locale history system)
    (taken : (system.streams index).step input = some stream) :
    Consistent locale history
      { system with
        streams := Function.update system.streams index stream } := by
  have more : heardEvents (system.streams index).sent <+:
      heardEvents stream.sent := (sent_of_step taken).filterMap _
  refine ⟨consistent.shown, consistent.synced, ?_, ?_, ?_⟩
  · intro other
    dsimp only
    by_cases same : other = index
    · subst same
      obtain ⟨rest, written⟩ := more
      rw [consistent.told other, Function.update_self, ← written,
        List.take_append_of_le_length (consistent.inRange other)]
    · rw [Function.update_of_ne same]
      exact consistent.told other
  · intro other
    dsimp only
    by_cases same : other = index
    · subst same
      rw [Function.update_self]
      exact (consistent.inRange other).trans more.length_le
    · rw [Function.update_of_ne same]
      exact consistent.inRange other
  · intro other
    dsimp only
    by_cases same : other = index
    · subst same
      rw [Function.update_self]
      exact (consistent.follows other).step taken
    · rw [Function.update_of_ne same]
      exact consistent.follows other

/-- An event arrives in the order it was sent. -/
theorem Consistent.arrive {history : List PaneEvent} {index : Nat}
    {event : DirectoryTableEvent} {pane : DirectoryPane}
    (consistent : Consistent locale history system)
    (found : (heardEvents (system.streams index).sent)[
      system.arrived index]? = some event)
    (taken : system.pane.step locale (.event index event) = some pane) :
    Consistent locale (history ++ [.event index event])
      { system with
        pane := pane
        arrived := Function.update system.arrived index
          (system.arrived index + 1) } := by
  obtain ⟨shown, synced⟩ := consistent.shown.step consistent.synced
    (fun _ impossible => by cases impossible) taken
  refine ⟨shown, synced, ?_, ?_, consistent.follows⟩
  · intro other
    dsimp only
    rw [eventsOf_concat, consistent.told other, PaneEvent.toldTo]
    by_cases same : other = index
    · subst same
      rw [if_pos rfl, Function.update_self, List.take_add_one, found]
    · rw [if_neg (Ne.symm same), Function.update_of_ne same]
      exact List.append_nil _
  · intro other
    dsimp only
    by_cases same : other = index
    · subst same
      rw [Function.update_self]
      exact (List.getElem?_eq_some_iff.mp found).1
    · rw [Function.update_of_ne same]
      exact consistent.inRange other

/-- All machines of a run are plain. -/
def PlainEvents (events : List ExplorerSystemEvent) : Prop :=
  ∀ found, ExplorerSystemEvent.pane (.setMachine (some found)) ∈ events →
    found.Plain

/-- The invariant, as long as the machines are plain. -/
def Follows (locale : Locale) (events : List ExplorerSystemEvent)
    (system : ExplorerSystem) : Prop :=
  PlainEvents events → ∃ history, Consistent locale history system

/-- The pane follows the streams in every step. -/
theorem Follows.step {events : List ExplorerSystemEvent}
    {event : ExplorerSystemEvent} (follows : Follows locale events system)
    (taken : system.step locale event = some next) :
    Follows locale (events ++ [event]) next := by
  intro plain
  obtain ⟨history, consistent⟩ := follows fun found member =>
    plain found (List.mem_append_left _ member)
  cases event with
  | pane event =>
      obtain ⟨_, allowed, rest⟩ := Option.bind_eq_some_iff.mp taken
      obtain ⟨pane, acted, same⟩ := Option.bind_eq_some_iff.mp rest
      cases same
      have notArrival : event.isArrival = false :=
        (Option.guard_eq_some' _).mp allowed
      refine ⟨_, consistent.pane notArrival (fun machine same => ?_) acted⟩
      exact plain machine (by simp [same])
  | daemon index input =>
      obtain ⟨stream, moved, same⟩ := Option.bind_eq_some_iff.mp taken
      cases same
      exact ⟨history, consistent.daemon moved⟩
  | arrive index =>
      obtain ⟨event, found, rest⟩ := Option.bind_eq_some_iff.mp taken
      obtain ⟨pane, acted, same⟩ := Option.bind_eq_some_iff.mp rest
      cases same
      exact ⟨_, consistent.arrive found acted⟩

/-- Every state of a run is consistent. -/
theorem reached_consistent {machine : Option Machine} {refreshes : Nat}
    {navigation : ExplorerNavigation} {contents : Nat → List FsEntry}
    (plain : ∀ found ∈ machine, found.Plain)
    (distinct : ∀ index, Distinct FsEntry.name (contents index))
    {events : List ExplorerSystemEvent} (allPlain : PlainEvents events)
    (reached : run (step locale)
      (initial machine refreshes navigation contents) events = some system) :
    ∃ history, Consistent locale history system := by
  have first : Follows locale []
      (initial machine refreshes navigation contents) := by
    obtain ⟨shown, synced⟩ := DirectoryPane.mount_shown plain
    exact fun _ => ⟨[], shown, synced, fun _ => rfl, fun _ => Nat.zero_le _,
      fun index => .initial (distinct index)⟩
  have follows : Follows locale events system :=
    run_invariant first (fun _ _ _ _ _ follows taken => follows.step taken)
      reached
  exact follows allPlain

/-! ## Every run -/

/-- Nothing is under way: the stream has nothing to do and was told of every
change, and all that it has written has arrived. -/
structure Settled (system : ExplorerSystem) (index : Nat) : Prop where
  stage : (system.streams index).stage = .waiting
  queue : (system.streams index).queue = []
  reported : (system.streams index).unreported = false
  arrived : system.arrived index =
    (heardEvents (system.streams index).sent).length

/-- Where nothing is under way, the rows are the content of the directory. -/
theorem Consistent.rows_of_settled {history : List PaneEvent} {index : Nat}
    (consistent : Consistent locale history system)
    (rows : system.pane.view.rows = rowsAfter locale (eventsOf index history))
    (settled : system.Settled index) :
    system.pane.view.rows.Perm (system.streams index).content := by
  rw [consistent.told index, settled.arrived, List.take_length,
    rowsAfter_heardEvents] at rows
  rw [rows]
  exact (consistent.follows index).upToDate settled.stage settled.reported
    settled.queue

/-- In every run of a pane and of the streams of its subscriptions: a pane that
is to show a directory of a machine has a current subscription to it, and where
nothing of this one is under way, it shows the content of the directory, no
matter what the streams of earlier subscriptions still do. -/
theorem explorer_shows_directory (locale : Locale)
    {machine : Option Machine} {refreshes : Nat}
    {navigation : ExplorerNavigation} {contents : Nat → List FsEntry}
    (plain : ∀ found ∈ machine, found.Plain)
    (distinct : ∀ index, Distinct FsEntry.name (contents index))
    {events : List ExplorerSystemEvent} (allPlain : PlainEvents events)
    {system : ExplorerSystem}
    (reached : run (step locale)
      (initial machine refreshes navigation contents) events = some system)
    (listening : system.pane.listening = true) {topic : DirectoryTopic}
    (wanted : wantedDirectory system.pane.machine system.pane.directoryPath =
      some topic) :
    ∃ index subscription, system.pane.subscriptions.current = some index ∧
      system.pane.subscriptions.started[index]? = some subscription ∧
        subscription.topic.machine.SameConnection topic.machine ∧
          subscription.topic.path = topic.path ∧
            (system.Settled index → system.pane.view.rows.Perm
              (system.streams index).content) := by
  obtain ⟨history, consistent⟩ :=
    reached_consistent plain distinct allPlain reached
  obtain ⟨index, subscription, isCurrent, found, connection, path, rows⟩ :=
    (consistent.shown.showsSubscription consistent.synced).live listening topic
      wanted
  exact ⟨index, subscription, isCurrent, found, connection, path,
    consistent.rows_of_settled rows⟩

/-- A file is written after the snapshot of a directory has arrived. -/
def writtenFile : List ExplorerSystemEvent :=
  [.pane (.transport 0), .daemon 0 (.proceed none), .daemon 0 (.proceed none),
    .daemon 0 (.proceed none), .arrive 0,
    .daemon 0 (.change [⟨"x", "/a/x", .file, none, none, false⟩]),
    .daemon 0 .report, .daemon 0 (.proceed none), .daemon 0 (.proceed none),
    .daemon 0 (.proceed none), .daemon 0 (.proceed none), .arrive 0]

/-- The pane shows the file. -/
theorem explorer_shows_directory_file :
    ∃ system, run (step plainLocale)
        (initial (some officeMachine) 0 ⟨[], .directory "/a".toList, none⟩
          fun _ => []) writtenFile = some system ∧
      system.pane.view.rows.Perm
        [⟨"x", "/a/x", .file, none, none, false⟩] := by
  have ends : (run (step plainLocale)
      (initial (some officeMachine) 0 ⟨[], .directory "/a".toList, none⟩
        fun _ => []) writtenFile).map
      (fun system => (system.pane.listening, system.pane.subscriptions.current,
        wantedDirectory system.pane.machine system.pane.directoryPath,
        system.streams 0, system.arrived 0)) =
      some (true, some 0, some ⟨officeMachine, "/a".toList⟩,
        { content := [⟨"x", "/a/x", .file, none, none, false⟩]
          watched := true
          unreported := false
          queue := []
          watcherGone := false
          stage := .waiting
          rows := [⟨"x", "/a/x", .file, none, none, false⟩]
          sent := [.event (.snapshot []),
            .event (.patch [] [⟨"x", "/a/x", .file, none, none, false⟩])]
          disconnected := false }, 2) := by
    rfl
  obtain ⟨system, reached, values⟩ := Option.map_eq_some_iff.mp ends
  simp only [Prod.mk.injEq] at values
  obtain ⟨listening, isCurrent, wanted, stream, arrived⟩ := values
  have plain : ∀ found ∈ some officeMachine, found.Plain := by
    rintro _ ⟨⟩
    exact DirectoryPane.plain_officeMachine
  have allPlain : PlainEvents writtenFile := by
    intro found member
    simp [writtenFile] at member
  have distinct : ∀ index : Nat,
      Distinct FsEntry.name ((fun _ => ([] : List FsEntry)) index) :=
    fun _ => List.nodup_nil
  obtain ⟨index, _, alsoCurrent, _, _, _, shows⟩ :=
    explorer_shows_directory plainLocale plain distinct allPlain reached
      listening wanted
  cases isCurrent.symm.trans alsoCurrent
  have settled : system.Settled 0 := by
    refine ⟨?_, ?_, ?_, ?_⟩ <;> rw [stream]
    exact arrived
  have rows := shows settled
  rw [stream] at rows
  exact ⟨system, reached, rows⟩

/-! ## Coming to rest -/

/-- A subscription does something by itself: its stream goes on, or the next of
its events arrives. -/
def advances (index : Nat) : ExplorerSystemEvent → Bool
  | .daemon other (.proceed _) => other == index
  | .arrive other => other == index
  | _ => false

/-- How much a subscription can do by itself. -/
def work (system : ExplorerSystem) (index : Nat) : Nat :=
  2 * (system.streams index).work +
    ((heardEvents (system.streams index).sent).length - system.arrived index)

/-- A reply is at most one event. -/
theorem length_heardEvents_le (sent : List Host.DirectoryReply)
    (written : Option Host.DirectoryReply) :
    (heardEvents (sent ++ written.toList)).length ≤
      (heardEvents sent).length + 1 := by
  have atMost : (heardEvents written.toList).length ≤ written.toList.length :=
    List.length_filterMap_le _ _
  have one : written.toList.length ≤ 1 := by
    cases written <;> simp
  have parts : heardEvents (sent ++ written.toList) =
      heardEvents sent ++ heardEvents written.toList := List.filterMap_append
  rw [parts, List.length_append]
  omega

/-- Whatever a subscription does by itself leaves it less to do. -/
theorem work_step {index : Nat} {event : ExplorerSystemEvent}
    (byItself : advances index event = true)
    (taken : system.step locale event = some next) :
    next.work index < system.work index := by
  cases event with
  | pane event => cases byItself
  | daemon other input =>
      cases input with
      | change | report | reportError | loseWatcher | disconnect =>
          cases byItself
      | proceed failure =>
          obtain rfl : other = index := beq_iff_eq.mp byItself
          obtain ⟨stream, moved, same⟩ := Option.bind_eq_some_iff.mp taken
          cases same
          obtain ⟨less, written, sent⟩ := DirectoryState.proceed_effect moved
          have heard :=
            length_heardEvents_le (system.streams other).sent written
          simp only [work, Function.update_self, sent]
          omega
  | arrive other =>
      obtain rfl : other = index := beq_iff_eq.mp byItself
      obtain ⟨event, found, rest⟩ := Option.bind_eq_some_iff.mp taken
      obtain ⟨pane, -, same⟩ := Option.bind_eq_some_iff.mp rest
      cases same
      have there := (List.getElem?_eq_some_iff.mp found).1
      simp only [work, Function.update_self]
      omega

/-- Every step of the subscription leaves less to be done. -/
theorem work_run {index : Nat} {events : List ExplorerSystemEvent}
    {later : ExplorerSystem}
    (byItself : ∀ event ∈ events, advances index event = true)
    (reached : run (step locale) system events = some later) :
    later.work index + events.length ≤ system.work index := by
  induction events generalizing system with
  | nil =>
      cases reached
      exact Nat.le_refl _
  | cons event events inductionHypothesis =>
      obtain ⟨next, taken, rest⟩ := Option.bind_eq_some_iff.mp reached
      have less := work_step (byItself event List.mem_cons_self) taken
      have bound := inductionHypothesis
        (fun other member => byItself other (List.mem_cons_of_mem _ member))
        rest
      rw [List.length_cons]
      omega

/-- A subscription that is told what arrives, and can do nothing by itself, was
told of all that its stream has written. -/
theorem Consistent.arrived_of_idle {history : List PaneEvent} {index : Nat}
    {subscription : Subscription DirectoryTopic}
    (consistent : Consistent locale history system)
    (found : system.pane.subscriptions.started[index]? = some subscription)
    (receiving : subscription.stage = .receiving)
    (idle : system.step locale (.arrive index) = none) :
    system.arrived index =
      (heardEvents (system.streams index).sent).length := by
  refine Nat.le_antisymm (consistent.inRange index) ?_
  by_contra fewer
  have more := Nat.lt_of_not_le fewer
  simp [step, DirectoryPane.step, List.getElem?_eq_getElem more, found,
    receiving] at idle

/-- In every run of a pane and of the streams of its subscriptions, the current
subscription does a bounded number of steps by itself.  Where it was told of
every change and none of these steps is possible, its stream has ended or the
pane shows the content of the directory. -/
theorem explorer_comes_to_rest (locale : Locale)
    {machine : Option Machine} {refreshes : Nat}
    {navigation : ExplorerNavigation} {contents : Nat → List FsEntry}
    (plain : ∀ found ∈ machine, found.Plain)
    (distinct : ∀ index, Distinct FsEntry.name (contents index))
    {events : List ExplorerSystemEvent} (allPlain : PlainEvents events)
    {system : ExplorerSystem}
    (reached : run (step locale)
      (initial machine refreshes navigation contents) events = some system)
    (listening : system.pane.listening = true) {topic : DirectoryTopic}
    (wanted : wantedDirectory system.pane.machine system.pane.directoryPath =
      some topic) :
    ∃ index subscription, system.pane.subscriptions.current = some index ∧
      system.pane.subscriptions.started[index]? = some subscription ∧
        (∀ more later, (∀ event ∈ more, advances index event = true) →
          run (step locale) system more = some later →
            more.length ≤ system.work index) ∧
        (subscription.stage = .receiving →
          (system.streams index).unreported = false →
            (∀ event, advances index event = true →
              system.step locale event = none) →
              ((system.streams index).stage = .finished ∧
                ((system.streams index).disconnected = true ∨
                  Host.Ended (system.streams index).sent)) ∨
                system.pane.view.rows.Perm
                  (system.streams index).content) := by
  obtain ⟨history, consistent⟩ :=
    reached_consistent plain distinct allPlain reached
  obtain ⟨index, subscription, isCurrent, found, -, -, rows⟩ :=
    (consistent.shown.showsSubscription consistent.synced).live listening topic
      wanted
  refine ⟨index, subscription, isCurrent, found, ?_, ?_⟩
  · intro more later byItself continued
    have bound := work_run byItself continued
    omega
  · intro receiving reported idle
    have arrived := consistent.arrived_of_idle found receiving
      (idle (.arrive index) (beq_self_eq_true index))
    have stopped : ∀ failure,
        (system.streams index).proceed failure = none := by
      intro failure
      have nothing := idle (.daemon index (.proceed failure))
        (beq_self_eq_true index)
      cases acted : (system.streams index).proceed failure with
      | none => rfl
      | some stream =>
          simp [step, DirectoryState.step, acted] at nothing
    rcases DirectoryState.ended_or_waiting stopped with ended | ⟨stage, queue⟩
    · exact Or.inl ⟨ended, (consistent.follows index).ended ended⟩
    · exact Or.inr (consistent.rows_of_settled rows
        ⟨stage, queue, reported, arrived⟩)

/-- After a report the subscription does ten steps by itself at most. -/
theorem explorer_comes_to_rest_reported :
    ∃ system, run (step plainLocale)
        (initial (some officeMachine) 0 ⟨[], .directory "/a".toList, none⟩
          fun _ => []) (writtenFile.take 7) = some system ∧
      ∀ more later, (∀ event ∈ more, advances 0 event = true) →
        run (step plainLocale) system more = some later →
          more.length ≤ 10 := by
  have ends : (run (step plainLocale)
      (initial (some officeMachine) 0 ⟨[], .directory "/a".toList, none⟩
        fun _ => []) (writtenFile.take 7)).map
      (fun system => (system.pane.listening, system.pane.subscriptions.current,
        wantedDirectory system.pane.machine system.pane.directoryPath,
        system.work 0)) =
      some (true, some 0, some ⟨officeMachine, "/a".toList⟩, 10) := by
    rfl
  obtain ⟨system, reached, values⟩ := Option.map_eq_some_iff.mp ends
  simp only [Prod.mk.injEq] at values
  obtain ⟨listening, isCurrent, wanted, work⟩ := values
  have plain : ∀ found ∈ some officeMachine, found.Plain := by
    rintro _ ⟨⟩
    exact DirectoryPane.plain_officeMachine
  have allPlain : PlainEvents (writtenFile.take 7) := by
    intro found member
    simp [writtenFile] at member
  have distinct : ∀ index : Nat,
      Distinct FsEntry.name ((fun _ => ([] : List FsEntry)) index) :=
    fun _ => List.nodup_nil
  obtain ⟨index, _, alsoCurrent, _, bounded, _⟩ :=
    explorer_comes_to_rest plainLocale plain distinct allPlain reached
      listening wanted
  cases isCurrent.symm.trans alsoCurrent
  rw [work] at bounded
  exact ⟨system, reached, bounded⟩

end ExplorerSystem
end Web
end WhatsGoingOn
