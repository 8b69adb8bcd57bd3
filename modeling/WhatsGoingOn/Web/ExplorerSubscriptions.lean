import WhatsGoingOn.Library.Subscriptions
import WhatsGoingOn.Web.ExplorerPaths
import WhatsGoingOn.Web.RpcSession
import WhatsGoingOn.Web.Tables

/-!
# The subscription of the explorer to a directory

A pane of the explorer shows one directory of a machine.  Whenever the machine,
its credentials, the directory or the refresh count changes, it cancels its
subscription and starts another one.  Transports, events and failures of any
subscription may arrive at any time between the actions of the user.
-/

namespace WhatsGoingOn
namespace Web

open Daemon

/-! ## Navigation -/

/-- The directory of a location, if it has one. -/
def directoryPathFromLocation : ExplorerLocation → Option (List Char)
  | .directory path => some path
  | .file directoryPath _ => directoryPath
  | .root | .trash => none

/-- What the user does with the location and the selection. -/
inductive NavigationAction where
  | navigate (path : Option (List Char))
  | navigateTrash
  | replaceWithPath (path : Option (List Char))
  | replaceWithTrash
  | goBack
  | goUp
  | openEntry (entry : FsEntry)
  | openFile (entry : FsEntry)
  | selectEntry (entry : FsEntry)
  deriving DecidableEq, Repr

namespace ExplorerNavigation

/-- The location without the one before it in the history. -/
def replaceWithLocation (navigation : ExplorerNavigation)
    (location : ExplorerLocation) : ExplorerNavigation where
  history := navigation.history
  location := location
  selectedPath := none

/-- The last location of the history, which is taken off it. -/
def goBack (navigation : ExplorerNavigation) : ExplorerNavigation :=
  match navigation.history.getLast? with
  | none => navigation
  | some next =>
      { history := navigation.history.dropLast
        location := next
        selectedPath :=
          match next with
          | .file _ entry => some entry.path.toList
          | _ => none }

/-- A directory is opened, and anything else is selected. -/
def openEntry (navigation : ExplorerNavigation) (entry : FsEntry) :
    ExplorerNavigation :=
  if entry.kind = .directory then navigate navigation (some entry.path.toList)
  else { navigation with selectedPath := some entry.path.toList }

/-- A file is shown from the directory that it was opened in. -/
def openFile (navigation : ExplorerNavigation) (entry : FsEntry) :
    ExplorerNavigation :=
  { navigateTo navigation
      (.file (directoryPathFromLocation navigation.location) entry) with
    selectedPath := some entry.path.toList }

/-- The history of a directory that was moved is forgotten. -/
def replaceWithMovedDirectory (path : Option (List Char)) :
    ExplorerNavigation where
  history := []
  location := locationFromPath path
  selectedPath := none

/-- The navigation after an action of the user. -/
def act (navigation : ExplorerNavigation) :
    NavigationAction → ExplorerNavigation
  | .navigate path => navigate navigation path
  | .navigateTrash => navigateTo navigation .trash
  | .replaceWithPath path =>
      navigation.replaceWithLocation (locationFromPath path)
  | .replaceWithTrash => navigation.replaceWithLocation .trash
  | .goBack => navigation.goBack
  | .goUp => goUp navigation
  | .openEntry entry => navigation.openEntry entry
  | .openFile entry => navigation.openFile entry
  | .selectEntry entry =>
      { navigation with selectedPath := some entry.path.toList }

end ExplorerNavigation

/-! ## What a subscription is for -/

/-- A machine after the credentials of one were cleared. -/
def withoutSecret (machineId : String) (machine : Machine) : Machine :=
  if machine.id = machineId then { machine with clientSecret := none }
  else machine

/-- The machine has credentials. -/
def isPaired (machine : Option Machine) : Bool :=
  (machine.bind Machine.pairedClientId).isSome

/-- `join("\n")`. -/
def joinLines : List (List Char) → List Char
  | [] => []
  | [part] => part
  | part :: parts => part ++ '\n' :: joinLines parts

/-- Subscriptions are begun again when one of these changes. -/
def explorerConnectionKey : Option Machine → List Char
  | none => []
  | some machine =>
      joinLines [machine.id.toList, machine.baseUrl.toList,
        (machine.clientId.getD "").toList,
        (machine.clientSecret.getD "").toList]

/-- The key of the subscription: a change of it starts the next one. -/
def directorySubscriptionKey (machine : Option Machine)
    (path : Option (List Char)) (refreshes : Nat) : List Char :=
  joinLines [explorerConnectionKey machine,
    (if isPaired machine then "paired" else "unpaired").toList,
    path.getD [], Nat.toDigits 10 refreshes]

/-- What a subscription was started with. -/
structure DirectoryTopic where
  machine : Machine
  path : List Char
  deriving DecidableEq, Repr

/-- The subscription that is to be started, if any. -/
def wantedDirectory (machine : Option Machine) (path : Option (List Char)) :
    Option DirectoryTopic :=
  match machine, path with
  | some machine, some path =>
      if isPaired (some machine) = true ∧ path ≠ [] then some ⟨machine, path⟩
      else none
  | _, _ => none

/-! ## The pane -/

/-- The state of a pane.  The key is the one for which `start` was called
last. -/
structure DirectoryPane where
  machine : Option Machine
  refreshes : Nat
  navigation : ExplorerNavigation
  view : EntriesView
  key : List Char
  listening : Bool
  subscriptions : Subscriptions DirectoryTopic
  deriving DecidableEq, Repr

/-- How the task of a subscription fails. -/
structure SubscriptionFailure where
  invalidCredentials : Bool
  message : String
  deriving DecidableEq, Repr

/-- What happens to the pane. -/
inductive PaneEvent where
  | setMachine (machine : Option Machine)
  | refresh
  | user (action : NavigationAction)
  /-- The stored navigation of the pane was changed elsewhere. -/
  | stored (history : List ExplorerLocation) (location : ExplorerLocation)
  /-- A transport is there for a subscription. -/
  | transport (index : Nat)
  | event (index : Nat) (event : DirectoryTableEvent)
  /-- The iterator of a subscription has ended. -/
  | done (index : Nat)
  | failed (index : Nat) (failure : SubscriptionFailure)
  | unmount
  deriving DecidableEq, Repr

namespace DirectoryPane

variable (pane : DirectoryPane)

/-- The directory that the pane is in. -/
def directoryPath : Option (List Char) :=
  directoryPathFromLocation pane.navigation.location

/-- The value of `directorySubscriptionKeyAtom`. -/
def currentKey : List Char :=
  directorySubscriptionKey pane.machine pane.directoryPath pane.refreshes

/-- Stop the subscription there is, and begin one where a directory is wanted. -/
def start : DirectoryPane :=
  let stopped :=
    { pane with
      navigation := { pane.navigation with selectedPath := none }
      view := ⟨[], "idle", "Directory idle"⟩
      subscriptions := pane.subscriptions.stop }
  match wantedDirectory pane.machine pane.directoryPath with
  | none => stopped
  | some topic =>
      { stopped with
        view := ⟨[], "connecting", "Opening directory"⟩
        subscriptions := pane.subscriptions.start topic }

/-- The store calls the listener of the key where the key has changed. -/
def settle : DirectoryPane :=
  if pane.listening = true ∧ pane.currentKey ≠ pane.key then
    { pane with key := pane.currentKey }.start
  else pane

/-- Set the navigation, and after that the selection. -/
def setNavigation (navigation : ExplorerNavigation) : DirectoryPane :=
  let moved :=
    { pane with
      navigation :=
        { navigation with selectedPath := pane.navigation.selectedPath } }.settle
  { moved with
    navigation :=
      { moved.navigation with selectedPath := navigation.selectedPath } }

/-- `applyDirectoryEvent`, with the handler of a moved directory. -/
def receive (locale : Locale) (event : DirectoryTableEvent) : DirectoryPane :=
  let moved :=
    match event with
    | .closed (.moved target) =>
        pane.setNavigation (.replaceWithMovedDirectory
          (target.map String.toList))
    | _ => pane
  { moved with view := applyDirectoryEvent locale moved.view event }

/-- `clearMachineCredentials`, for the machine of the pane. -/
def clearMachineCredentials (machineId : String) : DirectoryPane :=
  { pane with machine := pane.machine.map (withoutSecret machineId) }.settle

/-- The handler of a failure of a subscription that is not cancelled. -/
def fail (machine : Machine) (failure : SubscriptionFailure) : DirectoryPane :=
  if failure.invalidCredentials then
    let cleared := pane.clearMachineCredentials machine.id
    { cleared with
      view :=
        { cleared.view with
          state := ⟨"error",
            "Pairing is no longer valid. Pair this machine again."⟩ } }
  else { pane with view := { pane.view with state := ⟨"error", failure.message⟩ } }

/-- A subscription has come to a stage. -/
def reach (index : Nat) (stage : SubscriptionStage) : DirectoryPane :=
  { pane with subscriptions := pane.subscriptions.reach index stage }

/-- One step of a pane. -/
def step (locale : Locale) (pane : DirectoryPane) :
    PaneEvent → Option DirectoryPane
  | .setMachine machine => some { pane with machine := machine }.settle
  | .refresh => some { pane with refreshes := pane.refreshes + 1 }.settle
  | .user action =>
      some (pane.setNavigation (pane.navigation.act action))
  | .stored history location =>
      some
        { pane with
          navigation := ⟨history, location, pane.navigation.selectedPath⟩ }.settle
  | .transport index => do
      let subscription ← pane.subscriptions.started[index]?
      guard (subscription.stage = .opening)
      some (pane.reach index
        (if subscription.cancelled then .ended else .receiving))
  | .event index event => do
      let subscription ← pane.subscriptions.started[index]?
      guard (subscription.stage = .receiving)
      some (if subscription.cancelled then pane.reach index .ended
        else pane.receive locale event)
  | .done index => do
      let subscription ← pane.subscriptions.started[index]?
      guard (subscription.stage = .receiving)
      some (pane.reach index .ended)
  | .failed index failure => do
      let subscription ← pane.subscriptions.started[index]?
      guard (subscription.stage ≠ .ended)
      let ended := pane.reach index .ended
      some (if subscription.cancelled then ended
        else ended.fail subscription.topic.machine failure)
  | .unmount =>
      some
        { pane with
          listening := false
          subscriptions := pane.subscriptions.stop }

/-- The pane when its effect has run. -/
def mount (machine : Option Machine) (refreshes : Nat)
    (navigation : ExplorerNavigation) : DirectoryPane :=
  let pane : DirectoryPane :=
    { machine := machine
      refreshes := refreshes
      navigation := navigation
      view := ⟨[], "idle", "Directory idle"⟩
      key := []
      listening := true
      subscriptions := .empty }
  { pane with key := pane.currentKey }.start

end DirectoryPane

/-! ## What the key says -/

/-- Text of a machine on one line, and an id that is there. -/
structure Machine.Plain (machine : Machine) : Prop where
  named : machine.id.toList ≠ []
  id : '\n' ∉ machine.id.toList
  baseUrl : '\n' ∉ machine.baseUrl.toList
  clientId : '\n' ∉ (machine.clientId.getD "").toList
  clientSecret : '\n' ∉ (machine.clientSecret.getD "").toList

/-- Without its secret a machine still has its text on one line. -/
theorem Machine.Plain.withoutSecret {machine : Machine} (plain : machine.Plain)
    (machineId : String) : (withoutSecret machineId machine).Plain := by
  unfold Web.withoutSecret
  split
  · exact ⟨plain.named, plain.id, plain.baseUrl, plain.clientId, by simp⟩
  · exact plain

/-- The same machine, with the same credentials. -/
structure Machine.SameConnection (left right : Machine) : Prop where
  id : left.id = right.id
  baseUrl : left.baseUrl = right.baseUrl
  clientId : left.clientId.getD "" = right.clientId.getD ""
  clientSecret : left.clientSecret.getD "" = right.clientSecret.getD ""

theorem Machine.SameConnection.symm {left right : Machine}
    (same : left.SameConnection right) : right.SameConnection left :=
  ⟨same.id.symm, same.baseUrl.symm, same.clientId.symm, same.clientSecret.symm⟩

/-- The first line of a text is found. -/
theorem firstLine_inj {left right leftRest rightRest : List Char}
    (leftLine : '\n' ∉ left) (rightLine : '\n' ∉ right)
    (same : left ++ '\n' :: leftRest = right ++ '\n' :: rightRest) :
    left = right ∧ leftRest = rightRest := by
  induction left generalizing right with
  | nil =>
      cases right with
      | nil => exact ⟨rfl, List.tail_eq_of_cons_eq same⟩
      | cons first right =>
          injection same with head _
          rw [head] at rightLine
          simp at rightLine
  | cons first left inductionHypothesis =>
      cases right with
      | nil =>
          injection same with head _
          rw [← head] at leftLine
          simp at leftLine
      | cons other right =>
          rw [List.mem_cons, not_or] at leftLine rightLine
          injection same with head tail
          obtain ⟨lines, rests⟩ :=
            inductionHypothesis leftLine.2 rightLine.2 tail
          exact ⟨by rw [head, lines], rests⟩

theorem lastLine_inj {left right leftLast rightLast : List Char}
    (leftLine : '\n' ∉ leftLast) (rightLine : '\n' ∉ rightLast)
    (same : left ++ '\n' :: leftLast = right ++ '\n' :: rightLast) :
    left = right := by
  have reversed := congrArg List.reverse same
  simp only [List.reverse_append, List.reverse_cons, List.append_assoc,
    List.singleton_append] at reversed
  have lines := firstLine_inj (by rwa [List.mem_reverse])
    (by rwa [List.mem_reverse]) reversed
  exact List.reverse_inj.mp lines.2

theorem digits_line (number : Nat) : '\n' ∉ Nat.toDigits 10 number := by
  intro member
  have digit := Nat.isDigit_of_mem_toDigits (by decide) (by decide) member
  exact absurd digit (by decide)

theorem directorySubscriptionKey_some (machine : Machine)
    (path : Option (List Char)) (refreshes : Nat) :
    directorySubscriptionKey (some machine) path refreshes =
      machine.id.toList ++ '\n' :: (machine.baseUrl.toList ++ '\n' ::
        ((machine.clientId.getD "").toList ++ '\n' ::
          ((machine.clientSecret.getD "").toList ++ '\n' ::
            ((if isPaired (some machine) then "paired" else "unpaired").toList ++
              '\n' :: (path.getD [] ++ '\n' ::
                Nat.toDigits 10 refreshes))))) := by
  simp [directorySubscriptionKey, explorerConnectionKey, joinLines]

/-- A directory is wanted by a paired machine with a path. -/
theorem wantedDirectory_eq_some {machine : Option Machine}
    {path : Option (List Char)} {topic : DirectoryTopic} :
    wantedDirectory machine path = some topic ↔
      machine = some topic.machine ∧ path = some topic.path ∧
        isPaired (some topic.machine) = true ∧ topic.path ≠ [] := by
  unfold wantedDirectory
  split
  · rename_i found there
    split
    · rename_i holds
      constructor
      · rintro ⟨⟩
        exact ⟨rfl, rfl, holds⟩
      · rintro ⟨⟨⟩, ⟨⟩, _⟩
        rfl
    · rename_i lacks
      constructor
      · rintro ⟨⟩
      · rintro ⟨⟨⟩, ⟨⟩, holds⟩
        exact absurd holds lacks
  · rename_i lacks
    constructor
    · rintro ⟨⟩
    · rintro ⟨isMachine, isPath, _⟩
      exact absurd isPath (lacks _ _ isMachine)

/-- Machines and paths with the same key want the same subscription. -/
theorem wantedDirectory_of_key {machine other : Option Machine}
    {path otherPath : Option (List Char)} {refreshes otherRefreshes : Nat}
    (plain : ∀ found ∈ machine, found.Plain)
    (otherPlain : ∀ found ∈ other, found.Plain)
    (same : directorySubscriptionKey machine path refreshes =
      directorySubscriptionKey other otherPath otherRefreshes)
    {topic : DirectoryTopic}
    (wanted : wantedDirectory machine path = some topic) :
    ∃ otherTopic, wantedDirectory other otherPath = some otherTopic ∧
      topic.machine.SameConnection otherTopic.machine ∧
        topic.path = otherTopic.path := by
  obtain ⟨rfl, rfl, paired, notEmpty⟩ := wantedDirectory_eq_some.mp wanted
  have lines := plain topic.machine rfl
  rw [directorySubscriptionKey_some] at same
  cases other with
  | none =>
      have first := firstLine_inj lines.id (by simp) (show _ = [] ++ '\n' :: _
        from same)
      exact absurd first.1 lines.named
  | some other =>
      have otherLines := otherPlain other rfl
      rw [directorySubscriptionKey_some] at same
      obtain ⟨id, same⟩ := firstLine_inj lines.id otherLines.id same
      obtain ⟨baseUrl, same⟩ :=
        firstLine_inj lines.baseUrl otherLines.baseUrl same
      obtain ⟨clientId, same⟩ :=
        firstLine_inj lines.clientId otherLines.clientId same
      obtain ⟨clientSecret, same⟩ :=
        firstLine_inj lines.clientSecret otherLines.clientSecret same
      obtain ⟨pairing, same⟩ := firstLine_inj
        (by split <;> decide) (by split <;> decide) same
      have otherPaired : isPaired (some other) = true := by
        by_contra unpaired
        rw [if_pos paired, if_neg unpaired] at pairing
        exact absurd pairing (by decide)
      have paths := lastLine_inj (digits_line _) (digits_line _) same
      rw [Option.getD_some] at paths
      cases otherPath with
      | none => exact absurd paths notEmpty
      | some otherPath =>
          rw [Option.getD_some] at paths
          refine ⟨⟨other, otherPath⟩, wantedDirectory_eq_some.mpr
            ⟨rfl, rfl, otherPaired, ?_⟩, ?_, paths⟩
          · rwa [← paths]
          · exact ⟨String.toList_inj.mp id, String.toList_inj.mp baseUrl,
              String.toList_inj.mp clientId, String.toList_inj.mp clientSecret⟩

/-! ## What a pane shows -/

/-- The event that a subscription is told. -/
def PaneEvent.toldTo (index : Nat) : PaneEvent → Option DirectoryTableEvent
  | .event other told => if other = index then some told else none
  | _ => none

/-- The subscription that an event comes from. -/
def PaneEvent.subscription : PaneEvent → Option Nat
  | .transport index | .event index _ | .done index | .failed index _ =>
      some index
  | .setMachine _ | .refresh | .user _ | .stored _ _ | .unmount => none

/-- All events that a subscription was told. -/
def eventsOf (index : Nat) (history : List PaneEvent) :
    List DirectoryTableEvent :=
  history.filterMap (PaneEvent.toldTo index)

/-- The rows of a view that was told some events. -/
def rowsAfter (locale : Locale) (events : List DirectoryTableEvent) :
    List FsEntry :=
  (events.foldl (applyDirectoryEvent locale)
    ⟨[], "idle", "Directory idle"⟩).rows

theorem eventsOf_concat (index : Nat) (history : List PaneEvent)
    (event : PaneEvent) :
    eventsOf index (history ++ [event]) =
      eventsOf index history ++ (event.toldTo index).toList := by
  rw [eventsOf, List.filterMap_append]
  cases told : event.toldTo index <;> simp [eventsOf, told]

/-- The rows after an event are made from the rows before it. -/
theorem applyDirectoryEvent_rows (locale : Locale) {left right : EntriesView}
    (same : left.rows = right.rows) (event : DirectoryTableEvent) :
    (applyDirectoryEvent locale left event).rows =
      (applyDirectoryEvent locale right event).rows := by
  cases event with
  | snapshot rows => rfl
  | patch removes upserts =>
      simp only [applyDirectoryEvent, same]
  | closed reason => exact same

theorem rowsAfter_concat (locale : Locale) {view : EntriesView}
    {events : List DirectoryTableEvent}
    (rows : view.rows = rowsAfter locale events)
    (event : DirectoryTableEvent) :
    rowsAfter locale (events ++ [event]) =
      (applyDirectoryEvent locale view event).rows := by
  rw [rowsAfter, List.foldl_concat]
  exact applyDirectoryEvent_rows locale rows.symm event

namespace DirectoryPane

variable {locale : Locale} {history : List PaneEvent}
  {pane next : DirectoryPane}

/-- What the current subscription was told. -/
def received (pane : DirectoryPane) (history : List PaneEvent) :
    List DirectoryTableEvent :=
  match pane.subscriptions.current with
  | none => []
  | some index => eventsOf index history

/-- The invariant of a pane, whether or not the listener of the key was called
already. -/
structure Shown (locale : Locale) (history : List PaneEvent)
    (pane : DirectoryPane) : Prop where
  sound : pane.subscriptions.Sound
  /-- Only subscriptions that were started were told something. -/
  fresh : ∀ index, pane.subscriptions.started.length ≤ index →
    eventsOf index history = []
  plain : ∀ machine ∈ pane.machine, machine.Plain
  /-- The current subscription was wanted when the key was read last. -/
  opened : pane.listening = true → ∃ machine path refreshes,
    (∀ found ∈ machine, found.Plain) ∧
      directorySubscriptionKey machine path refreshes = pane.key ∧
        pane.subscriptions.topic = wantedDirectory machine path
  rows : pane.listening = true →
    pane.view.rows = rowsAfter locale (pane.received history)
  silent : pane.listening = false → pane.subscriptions.current = none

/-- The listener has seen the present key. -/
def Synced (pane : DirectoryPane) : Prop :=
  pane.listening = true → pane.currentKey = pane.key

namespace Shown

/-- Nothing but the subscriptions and the rows matters. -/
theorem frame (shown : Shown locale history pane)
    (plain : ∀ machine ∈ next.machine, machine.Plain)
    (listening : next.listening = pane.listening)
    (key : next.key = pane.key)
    (subscriptions : next.subscriptions = pane.subscriptions)
    (rows : next.view.rows = pane.view.rows) : Shown locale history next where
  sound := by
    rw [subscriptions]
    exact shown.sound
  fresh := by
    rw [subscriptions]
    exact shown.fresh
  plain := plain
  opened := by
    rw [listening, key, subscriptions]
    exact shown.opened
  rows := by
    rw [listening, rows, received, subscriptions]
    exact shown.rows
  silent := by
    rw [listening, subscriptions]
    exact shown.silent

/-- An event that is not told to the current subscription. -/
theorem later (shown : Shown locale history pane) (event : PaneEvent)
    (quiet : ∀ index, pane.subscriptions.current = some index →
      event.toldTo index = none)
    (known : ∀ index, pane.subscriptions.started.length ≤ index →
      event.toldTo index = none) :
    Shown locale (history ++ [event]) pane where
  sound := shown.sound
  fresh := by
    intro index unknown
    rw [eventsOf_concat, shown.fresh index unknown, known index unknown]
    rfl
  plain := shown.plain
  opened := shown.opened
  rows := by
    intro listening
    rw [shown.rows listening, received, received]
    cases isCurrent : pane.subscriptions.current with
    | none => rfl
    | some index =>
        simp only [eventsOf_concat, quiet index isCurrent, Option.toList_none,
          List.append_nil]
  silent := shown.silent

/-- An event that is told to the current subscription. -/
theorem told (shown : Shown locale history pane) {index : Nat}
    (isCurrent : pane.subscriptions.current = some index)
    (event : DirectoryTableEvent) :
    Shown locale (history ++ [.event index event])
      { pane with view := applyDirectoryEvent locale pane.view event } where
  sound := shown.sound
  fresh := by
    intro other unknown
    have different : index ≠ other :=
      Nat.ne_of_lt (Nat.lt_of_lt_of_le
        (shown.sound.inRange index isCurrent) unknown)
    rw [eventsOf_concat, shown.fresh other unknown, PaneEvent.toldTo,
      if_neg different]
    rfl
  plain := shown.plain
  opened := shown.opened
  rows := by
    intro listening
    have rows := shown.rows listening
    rw [received, isCurrent] at rows
    simp only [received, isCurrent, eventsOf_concat, PaneEvent.toldTo, if_true,
      Option.toList_some]
    exact (rowsAfter_concat locale rows event).symm
  silent := shown.silent

/-- The stage of a subscription changes nothing of what is shown. -/
theorem reach (shown : Shown locale history pane) (index : Nat)
    (stage : SubscriptionStage) :
    Shown locale history (pane.reach index stage) where
  sound := shown.sound.reach index stage
  fresh := by
    rw [DirectoryPane.reach, Subscriptions.length_reach]
    exact shown.fresh
  plain := shown.plain
  opened := by
    rw [DirectoryPane.reach, Subscriptions.topic_reach]
    exact shown.opened
  rows := shown.rows
  silent := shown.silent

end Shown

theorem start_eq_none (unwanted : wantedDirectory pane.machine
      pane.directoryPath = none) :
    pane.start =
      { pane with
        navigation := { pane.navigation with selectedPath := none }
        view := ⟨[], "idle", "Directory idle"⟩
        subscriptions := pane.subscriptions.stop } := by
  simp only [start, unwanted]

theorem start_eq_some {topic : DirectoryTopic}
    (wanted : wantedDirectory pane.machine pane.directoryPath = some topic) :
    pane.start =
      { pane with
        navigation := { pane.navigation with selectedPath := none }
        view := ⟨[], "connecting", "Opening directory"⟩
        subscriptions := pane.subscriptions.start topic } := by
  simp only [start, wanted]

/-- Starting over shows nothing, and subscribes to what the pane wants. -/
theorem shown_start (listening : pane.listening = true)
    (sound : pane.subscriptions.Sound)
    (fresh : ∀ index, pane.subscriptions.started.length ≤ index →
      eventsOf index history = [])
    (plain : ∀ machine ∈ pane.machine, machine.Plain)
    (key : pane.currentKey = pane.key) :
    Shown locale history pane.start ∧ pane.start.Synced := by
  have silent {current : Option Nat} :
      pane.listening = false → current = none := by
    rw [listening]
    intro impossible
    cases impossible
  cases wanted : wantedDirectory pane.machine pane.directoryPath with
  | none =>
      rw [start_eq_none wanted]
      refine ⟨⟨sound.stop, ?_, plain, fun _ => ?_, fun _ => ?_, silent⟩,
        fun _ => key⟩
      · simpa using fresh
      · exact ⟨pane.machine, pane.directoryPath, pane.refreshes, plain, key,
          (Subscriptions.topic_of_current_eq_none
            Subscriptions.stop_current).trans wanted.symm⟩
      · simp [received, rowsAfter]
  | some topic =>
      rw [start_eq_some wanted]
      refine ⟨⟨sound.start topic, ?_, plain, fun _ => ?_, fun _ => ?_, silent⟩,
        fun _ => key⟩
      · intro index unknown
        rw [Subscriptions.length_start] at unknown
        exact fresh index (Nat.le_of_succ_le unknown)
      · exact ⟨pane.machine, pane.directoryPath, pane.refreshes, plain, key,
          (Subscriptions.topic_start topic).trans wanted.symm⟩
      · have nothing : eventsOf pane.subscriptions.stop.started.length
            history = [] := by
          exact fresh _ (Nat.le_of_eq Subscriptions.length_stop.symm)
        change [] = rowsAfter locale
          (eventsOf pane.subscriptions.stop.started.length history)
        rw [nothing]
        rfl

theorem Shown.settle (shown : Shown locale history pane) :
    Shown locale history pane.settle ∧ pane.settle.Synced := by
  unfold DirectoryPane.settle
  split
  · rename_i changed
    exact shown_start changed.1 shown.sound shown.fresh shown.plain rfl
  · rename_i unchanged
    refine ⟨shown, fun listening => ?_⟩
    by_contra changed
    exact unchanged ⟨listening, changed⟩

theorem Shown.setNavigation (shown : Shown locale history pane)
    (navigation : ExplorerNavigation) :
    Shown locale history (pane.setNavigation navigation) ∧
      (pane.setNavigation navigation).Synced := by
  have moved : Shown locale history
      { pane with
        navigation := { navigation with
          selectedPath := pane.navigation.selectedPath } } :=
    shown.frame shown.plain rfl rfl rfl rfl
  obtain ⟨settled, synced⟩ := moved.settle
  exact ⟨settled.frame settled.plain rfl rfl rfl rfl, synced⟩

theorem Shown.clearMachineCredentials (shown : Shown locale history pane)
    (machineId : String) :
    Shown locale history (pane.clearMachineCredentials machineId) ∧
      (pane.clearMachineCredentials machineId).Synced := by
  have cleared : Shown locale history
      { pane with machine := pane.machine.map (withoutSecret machineId) } := by
    refine shown.frame ?_ rfl rfl rfl rfl
    intro machine member
    obtain ⟨found, there, rfl⟩ := Option.mem_map.mp member
    exact (shown.plain found there).withoutSecret machineId
  exact cleared.settle

theorem Shown.fail (shown : Shown locale history pane) (synced : pane.Synced)
    (machine : Machine) (failure : SubscriptionFailure) :
    Shown locale history (pane.fail machine failure) ∧
      (pane.fail machine failure).Synced := by
  unfold DirectoryPane.fail
  split
  · obtain ⟨cleared, isSynced⟩ := shown.clearMachineCredentials machine.id
    exact ⟨cleared.frame cleared.plain rfl rfl rfl rfl, isSynced⟩
  · exact ⟨shown.frame shown.plain rfl rfl rfl rfl, synced⟩

/-- The current subscription is told an event. -/
theorem Shown.receive (shown : Shown locale history pane)
    (synced : pane.Synced) {index : Nat}
    (isCurrent : pane.subscriptions.current = some index)
    (event : DirectoryTableEvent) :
    Shown locale (history ++ [.event index event])
        (pane.receive locale event) ∧
      (pane.receive locale event).Synced := by
  have told := shown.told isCurrent event
  unfold DirectoryPane.receive
  split
  · rename_i target
    -- A closed stream keeps the rows, so they may be told before the move.
    have kept : Shown locale
        (history ++ [.event index (.closed (.moved target))]) pane :=
      told.frame shown.plain rfl rfl rfl rfl
    obtain ⟨moved, isSynced⟩ := kept.setNavigation
      (.replaceWithMovedDirectory (target.map String.toList))
    exact ⟨moved.frame moved.plain rfl rfl rfl rfl, isSynced⟩
  · exact ⟨told, synced⟩

/-! ## Every step -/

/-- What the task of a subscription does, where it is at the right stage. -/
theorem eq_some_of_guarded {index : Nat}
    {allowed : Subscription DirectoryTopic → Prop} [DecidablePred allowed]
    {result : Subscription DirectoryTopic → DirectoryPane}
    (taken : (do
      let subscription ← pane.subscriptions.started[index]?
      guard (allowed subscription)
      some (result subscription)) = some next) :
    ∃ subscription, pane.subscriptions.started[index]? = some subscription ∧
      next = result subscription := by
  obtain ⟨subscription, found, rest⟩ := Option.bind_eq_some_iff.mp taken
  obtain ⟨_, -, same⟩ := Option.bind_eq_some_iff.mp rest
  exact ⟨subscription, found, (Option.some.inj same).symm⟩

/-- A subscription that was cancelled is not the current one. -/
theorem Shown.not_current (shown : Shown locale history pane) {index : Nat}
    {subscription : Subscription DirectoryTopic}
    (found : pane.subscriptions.started[index]? = some subscription)
    (cancelled : subscription.cancelled = true) :
    pane.subscriptions.current ≠ some index := by
  intro isCurrent
  have alive := (shown.sound.live index subscription found).mpr isCurrent
  rw [cancelled] at alive
  cases alive

/-- The pane shows its subscription after every step. -/
theorem Shown.step (shown : Shown locale history pane) (synced : pane.Synced)
    {event : PaneEvent}
    (plain : ∀ machine, event = .setMachine (some machine) → machine.Plain)
    (taken : step locale pane event = some next) :
    Shown locale (history ++ [event]) next ∧ next.Synced := by
  cases event with
  | setMachine machine =>
      cases taken
      have later := shown.later (.setMachine machine)
        (fun _ _ => rfl) fun _ _ => rfl
      have changed : Shown locale (history ++ [.setMachine machine])
          { pane with machine := machine } := by
        refine later.frame ?_ rfl rfl rfl rfl
        rintro found ⟨⟩
        exact plain found rfl
      exact changed.settle
  | refresh =>
      cases taken
      have later := shown.later .refresh
        (fun _ _ => rfl) fun _ _ => rfl
      have changed : Shown locale (history ++ [.refresh])
          { pane with refreshes := pane.refreshes + 1 } :=
        later.frame later.plain rfl rfl rfl rfl
      exact changed.settle
  | user action =>
      cases taken
      have later := shown.later (.user action)
        (fun _ _ => rfl) fun _ _ => rfl
      exact later.setNavigation _
  | stored visited location =>
      cases taken
      have later := shown.later (.stored visited location)
        (fun _ _ => rfl) fun _ _ => rfl
      have changed : Shown locale (history ++ [.stored visited location])
          { pane with
            navigation :=
              ⟨visited, location, pane.navigation.selectedPath⟩ } :=
        later.frame later.plain rfl rfl rfl rfl
      exact changed.settle
  | transport index =>
      obtain ⟨subscription, -, rfl⟩ := eq_some_of_guarded taken
      have later := shown.later (.transport index)
        (fun _ _ => rfl) fun _ _ => rfl
      exact ⟨later.reach index _, synced⟩
  | event index event =>
      obtain ⟨subscription, found, rfl⟩ := eq_some_of_guarded taken
      have inRange := (List.getElem?_eq_some_iff.mp found).1
      split
      · rename_i cancelled
        have notCurrent := shown.not_current found cancelled
        have later : Shown locale (history ++ [.event index event]) pane := by
          refine shown.later _ (fun other isCurrent => ?_)
            (fun other unknown => ?_)
          · refine if_neg fun same => notCurrent ?_
            rw [same]
            exact isCurrent
          · exact if_neg (Nat.ne_of_lt (Nat.lt_of_lt_of_le inRange unknown))
        exact ⟨later.reach index _, synced⟩
      · rename_i alive
        have isCurrent := (shown.sound.live index subscription found).mp
          (Bool.eq_false_of_not_eq_true alive)
        exact shown.receive synced isCurrent event
  | done index =>
      obtain ⟨subscription, -, rfl⟩ := eq_some_of_guarded taken
      have later := shown.later (.done index)
        (fun _ _ => rfl) fun _ _ => rfl
      exact ⟨later.reach index _, synced⟩
  | failed index failure =>
      obtain ⟨subscription, -, rfl⟩ := eq_some_of_guarded taken
      have later := shown.later (.failed index failure)
        (fun _ _ => rfl) fun _ _ => rfl
      have ended := later.reach index .ended
      split
      · exact ⟨ended, synced⟩
      · exact ended.fail synced subscription.topic.machine failure
  | unmount =>
      cases taken
      have later := shown.later .unmount
        (fun _ _ => rfl) fun _ _ => rfl
      refine ⟨⟨later.sound.stop, ?_, later.plain, ?_, ?_, fun _ =>
        Subscriptions.stop_current⟩, ?_⟩
      · simpa using later.fresh
      · intro impossible
        cases impossible
      · intro impossible
        cases impossible
      · intro impossible
        cases impossible

/-! ## Every run -/

theorem mount_shown {machine : Option Machine} {refreshes : Nat}
    {navigation : ExplorerNavigation}
    (plain : ∀ found ∈ machine, found.Plain) :
    Shown locale [] (mount machine refreshes navigation) ∧
      (mount machine refreshes navigation).Synced :=
  shown_start rfl .empty (fun _ _ => rfl) plain rfl

/-- A step of a subscription that is not current changes nothing else. -/
theorem Shown.stale_step (shown : Shown locale history pane)
    {event : PaneEvent} {index : Nat}
    (origin : event.subscription = some index)
    (stale : pane.subscriptions.current ≠ some index)
    (taken : DirectoryPane.step locale pane event = some next) :
    ∃ stage, next = pane.reach index stage := by
  have cancelled {subscription : Subscription DirectoryTopic}
      (found : pane.subscriptions.started[index]? = some subscription) :
      subscription.cancelled = true := by
    by_contra alive
    exact stale ((shown.sound.live index subscription found).mp
      (Bool.eq_false_of_not_eq_true alive))
  cases event with
  | transport other =>
      cases origin
      obtain ⟨subscription, -, rfl⟩ := eq_some_of_guarded taken
      exact ⟨_, rfl⟩
  | event other event =>
      cases origin
      obtain ⟨subscription, found, rfl⟩ := eq_some_of_guarded taken
      exact ⟨_, if_pos (cancelled found)⟩
  | done other =>
      cases origin
      obtain ⟨subscription, -, rfl⟩ := eq_some_of_guarded taken
      exact ⟨_, rfl⟩
  | failed other failure =>
      cases origin
      obtain ⟨subscription, found, rfl⟩ := eq_some_of_guarded taken
      exact ⟨_, if_pos (cancelled found)⟩
  | setMachine | refresh | user | stored | unmount => cases origin

/-- A pane shows what its current subscription was told, and nothing else. -/
structure ShowsSubscription (locale : Locale) (history : List PaneEvent)
    (pane : DirectoryPane) : Prop where
  /-- All subscriptions but the current one are cancelled. -/
  alone : ∀ index subscription,
    pane.subscriptions.started[index]? = some subscription →
      subscription.cancelled = false →
        pane.subscriptions.current = some index
  /-- Where no directory is to be shown, there are no rows. -/
  idle : pane.listening = true →
    wantedDirectory pane.machine pane.directoryPath = none →
      pane.subscriptions.current = none ∧ pane.view.rows = []
  /-- Where one is to be shown, the current subscription is for this directory
  of this machine, and the rows are made from its own events. -/
  live : pane.listening = true → ∀ topic,
    wantedDirectory pane.machine pane.directoryPath = some topic →
      ∃ index subscription, pane.subscriptions.current = some index ∧
        pane.subscriptions.started[index]? = some subscription ∧
          subscription.topic.machine.SameConnection topic.machine ∧
            subscription.topic.path = topic.path ∧
              pane.view.rows = rowsAfter locale (eventsOf index history)
  /-- A pane that was unmounted has none. -/
  unmounted : pane.listening = false → pane.subscriptions.current = none
  /-- No other subscription changes what is shown, or where the pane is. -/
  stale : ∀ index event next, event.subscription = some index →
    pane.subscriptions.current ≠ some index →
      step locale pane event = some next →
        next.view = pane.view ∧ next.navigation = pane.navigation ∧
          next.machine = pane.machine ∧
            next.subscriptions.current = pane.subscriptions.current

/-- What holds of the pane is what it should show. -/
theorem Shown.showsSubscription (shown : Shown locale history pane)
    (synced : pane.Synced) : ShowsSubscription locale history pane where
  alone := fun index subscription found alive =>
    (shown.sound.live index subscription found).mp alive
  idle := by
    intro listening unwanted
    obtain ⟨machine, path, refreshes, plain, key, opened⟩ :=
      shown.opened listening
    have nothing : pane.subscriptions.topic = none := by
      rw [opened]
      cases wanted : wantedDirectory machine path with
      | none => rfl
      | some topic =>
          obtain ⟨_, other, _⟩ := wantedDirectory_of_key plain shown.plain
            (key.trans (synced listening).symm) wanted
          cases unwanted.symm.trans other
    have isNone := shown.sound.current_eq_none nothing
    have rows := shown.rows listening
    rw [received, isNone] at rows
    exact ⟨isNone, rows⟩
  live := by
    intro listening topic wanted
    obtain ⟨machine, path, refreshes, plain, key, opened⟩ :=
      shown.opened listening
    obtain ⟨other, otherWanted, connection, samePath⟩ := wantedDirectory_of_key
      shown.plain plain ((synced listening).trans key.symm) wanted
    obtain ⟨index, subscription, isCurrent, found, rfl⟩ :=
      Subscriptions.topic_eq_some (opened.trans otherWanted)
    have rows := shown.rows listening
    rw [received, isCurrent] at rows
    exact ⟨index, subscription, isCurrent, found, connection.symm,
      samePath.symm, rows⟩
  unmounted := shown.silent
  stale := by
    intro index event next origin notCurrent taken
    obtain ⟨stage, rfl⟩ := shown.stale_step origin notCurrent taken
    exact ⟨rfl, rfl, rfl, rfl⟩

/-- The invariant, as long as the machines are plain. -/
def Follows (locale : Locale) (history : List PaneEvent)
    (pane : DirectoryPane) : Prop :=
  (∀ found, PaneEvent.setMachine (some found) ∈ history → found.Plain) →
    Shown locale history pane ∧ pane.Synced

theorem Follows.step {event : PaneEvent}
    (follows : Follows locale history pane)
    (taken : DirectoryPane.step locale pane event = some next) :
    Follows locale (history ++ [event]) next := by
  intro plain
  obtain ⟨shown, synced⟩ := follows fun found member =>
    plain found (List.mem_append_left _ member)
  refine shown.step synced (fun found same => ?_) taken
  exact plain found (by simp [same])

/-- In every run of a pane the rows are those of the subscription to its
present directory, whatever the earlier subscriptions still receive. -/
theorem directory_pane_shows_subscription (locale : Locale)
    {machine : Option Machine} {refreshes : Nat}
    {navigation : ExplorerNavigation}
    (plain : ∀ found ∈ machine, found.Plain)
    {history : List PaneEvent}
    (machinesPlain : ∀ found,
      PaneEvent.setMachine (some found) ∈ history → found.Plain)
    {pane : DirectoryPane}
    (reached : run (step locale) (mount machine refreshes navigation) history =
      some pane) :
    ShowsSubscription locale history pane := by
  have follows : Follows locale history pane :=
    run_invariant (fun _ => mount_shown plain)
      (fun _ _ _ _ _ follows taken => follows.step taken) reached
  obtain ⟨shown, synced⟩ := follows machinesPlain
  exact shown.showsSubscription synced

/-- A paired machine. -/
def officeMachine : Machine where
  id := "m1"
  name := "Office"
  baseUrl := "https://office:9012"
  clientId := some "c1"
  clientSecret := some "s1"
  clientCredentialExpiresAtUnix := none

theorem plain_officeMachine : officeMachine.Plain where
  named := by decide
  id := by decide
  baseUrl := by decide
  clientId := by decide
  clientSecret := by decide

/-- The user opens another directory before the rows of the first one are
there. -/
def leftDirectory : List PaneEvent :=
  [.transport 0, .user (.navigate (some "/b".toList)),
    .event 0 (.snapshot [⟨"x", "/a/x", .file, none, none, false⟩])]

/-- The rows of the directory that was left are not shown. -/
theorem directory_pane_shows_subscription_left :
    ∃ pane, run (step plainLocale)
        (mount (some officeMachine) 0 ⟨[], .directory "/a".toList, none⟩)
        leftDirectory = some pane ∧
      ShowsSubscription plainLocale leftDirectory pane ∧
        pane.view.rows = [] := by
  have left : ∃ pane, run (step plainLocale)
      (mount (some officeMachine) 0 ⟨[], .directory "/a".toList, none⟩)
      leftDirectory = some pane ∧ pane.view.rows = [] := ⟨_, rfl, rfl⟩
  obtain ⟨pane, reached, rows⟩ := left
  refine ⟨pane, reached, ?_, rows⟩
  refine directory_pane_shows_subscription plainLocale ?_ ?_ reached
  · rintro _ ⟨⟩
    exact plain_officeMachine
  · intro found member
    simp [leftDirectory] at member

end DirectoryPane

end Web
end WhatsGoingOn
