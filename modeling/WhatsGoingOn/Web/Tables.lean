import WhatsGoingOn.Host.TablePatches

/-!
# Streamed tables at the web client

Each view folds the events of its table into the rows that it shows, some views
keep them in an order of their own.
-/

namespace WhatsGoingOn
namespace Web

open Daemon KeyedRows

variable {κ γ ρ ε : Type}

/-! ## Orders of rows -/

/-- How a browser compares texts: plainly, and with `numeric: true` and
`sensitivity: "base"`. -/
structure Locale where
  localeCompare : String → String → Int
  localeCompareNumeric : String → String → Int

/-- `Array.prototype.sort`. -/
def sortRows (compare : ρ → ρ → Int) (rows : List ρ) : List ρ :=
  rows.mergeSort fun left right => compare left right ≤ 0

/-- The first comparison that tells two rows apart. -/
def orElse (first second : Int) : Int :=
  if first = 0 then second else first

/-- Whitespace and line terminators. -/
def isWhiteSpace (c : Char) : Bool :=
  c.toNat ∈ [0x9, 0xa, 0xb, 0xc, 0xd, 0x20, 0xa0, 0x1680, 0x2028, 0x2029,
    0x202f, 0x205f, 0x3000, 0xfeff] ||
    (0x2000 ≤ c.toNat && c.toNat ≤ 0x200a)

/-- `String.prototype.trim`. -/
def trim (text : String) : String :=
  String.ofList (((text.toList.dropWhile isWhiteSpace).reverse.dropWhile
    isWhiteSpace).reverse)

/-- Numbers by their size, and rows without one after them. -/
def compareOptionalNumber : Option UInt64 → Option UInt64 → Int
  | none, none => 0
  | none, some _ => 1
  | some _, none => -1
  | some left, some right => left.toNat - right.toNat

/-- The title that is shown, or the id where there is none. -/
def windowTitle (window : WindowInfo) : String :=
  match window.title with
  | some title => if title = "" then window.windowId else title
  | none => window.windowId

/-- Windows by process, then by title, then by id. -/
def sortedWindows (locale : Locale) : List WindowInfo → List WindowInfo :=
  sortRows fun a b =>
    orElse (compareOptionalNumber a.processId b.processId)
      (orElse (locale.localeCompare (windowTitle a) (windowTitle b))
        (locale.localeCompare a.windowId b.windowId))

/-- Processes by their pids. -/
def sortedProcesses : List ProcessInfo → List ProcessInfo :=
  sortRows fun a b => a.pid.toNat - b.pid.toNat

/-- The kind as it is shown. -/
def processResourceInUseKindLabel : ProcessResourceInUseKind → String
  | .file => "File"
  | .directory => "Directory"
  | .device => "Device"
  | .namedPipe => "Named pipe"
  | .anonymousPipe => "Anonymous pipe"
  | .other => "Other"

/-- Resources by the label of their kind, then by name, then by id. -/
def sortedProcessResourcesInUse (locale : Locale) :
    List ProcessResourceInUseInfo → List ProcessResourceInUseInfo :=
  sortRows fun a b =>
    orElse (locale.localeCompare (processResourceInUseKindLabel a.kind)
        (processResourceInUseKindLabel b.kind))
      (orElse (locale.localeCompare (a.name.getD "") (b.name.getD ""))
        (locale.localeCompare a.resourceId b.resourceId))

/-- The kind as it is shown. -/
def processSocketInUseKindLabel : ProcessSocketInUseKind → String
  | .tcp => "TCP"
  | .udp => "UDP"
  | .unix => "Unix"
  | .raw => "Raw"
  | .unknown => "Unknown"

/-- The endpoint as it is shown. -/
def socketEndpointLabel : Option SocketEndpoint → String
  | none => ""
  | some (.ip address none) => address
  | some (.ip address (some port)) => address ++ ":" ++ toString port.toNat
  | some (.unix path name) => path.getD (name.getD "")

/-- Sockets by the label of their kind, then by their ends, then by id. -/
def sortedProcessSocketsInUse (locale : Locale) :
    List ProcessSocketInUseInfo → List ProcessSocketInUseInfo :=
  sortRows fun a b =>
    orElse (locale.localeCompare (processSocketInUseKindLabel a.kind)
        (processSocketInUseKindLabel b.kind))
      (orElse (locale.localeCompare (socketEndpointLabel a.localEndpoint)
          (socketEndpointLabel b.localEndpoint))
        (orElse (locale.localeCompare (socketEndpointLabel a.remoteEndpoint)
            (socketEndpointLabel b.remoteEndpoint))
          (locale.localeCompare a.socketId b.socketId)))

/-- Executables come before libraries. -/
def processModuleKindSortKey : ProcessModuleKind → Int
  | .executable => 0
  | .dynamicLibrary => 1
  | .unknown => 2

/-- Modules by kind, then by name, then by path, then by id. -/
def sortedProcessModules (locale : Locale) :
    List ProcessModuleInfo → List ProcessModuleInfo :=
  sortRows fun a b =>
    orElse (processModuleKindSortKey a.kind - processModuleKindSortKey b.kind)
      (orElse (locale.localeCompare a.name b.name)
        (orElse (locale.localeCompare (a.path.getD "") (b.path.getD ""))
          (locale.localeCompare a.moduleId b.moduleId)))

/-- Directories come before links, and links before files. -/
def kindRank : FsEntryKind → Int
  | .directory => 0
  | .symlink => 1
  | .file => 2
  | .other => 3

/-- The name without blanks at its ends, or the path. -/
def displayName (entry : FsEntry) : String :=
  if trim entry.name = "" then entry.path else trim entry.name

/-- Entries by the rank of their kind, then by name. -/
def Explorer.sortEntries (locale : Locale) : List FsEntry → List FsEntry :=
  sortRows fun left right =>
    if kindRank left.kind ≠ kindRank right.kind then
      kindRank left.kind - kindRank right.kind
    else locale.localeCompareNumeric (displayName left) (displayName right)

/-! ## Events of tables -/

/-- A patch of rows that a `Map` holds under their keys. -/
def patchMap [DecidableEq κ] (key : ρ → κ) (currentRows : List ρ)
    (removes : List κ) (upserts : List ρ) : List ρ :=
  let rowsByKey :=
    (currentRows.map fun row => (key row, row)).foldl (upsert Prod.fst) []
  let rowsByKey := removes.foldl (fun rows removed =>
    rows.filter fun entry => entry.1 ≠ removed) rowsByKey
  let rowsByKey := upserts.foldl (fun rows row =>
    upsert Prod.fst rows (key row, row)) rowsByKey
  rowsByKey.map Prod.snd

/-- A view that keeps its rows in a `Map` until it sorts them. -/
def applyToMap [DecidableEq κ] (key : ρ → κ) (sorted : List ρ → List ρ)
    (currentRows : List ρ) : TableEvent κ ρ ε → List ρ
  | .snapshot rows => sorted rows
  | .closed _ => currentRows
  | .patch removes upserts => sorted (patchMap key currentRows removes upserts)

/-- The windows after an event. -/
def applyWindowsEvent (locale : Locale) :
    List WindowInfo → WindowsTableEvent → List WindowInfo :=
  applyToMap WindowInfo.windowId (sortedWindows locale)

/-- The processes after an event. -/
def applyProcessesEvent :
    List ProcessInfo → ProcessesTableEvent → List ProcessInfo :=
  applyToMap ProcessInfo.pid sortedProcesses

/-- What a process has open after an event. -/
def applyProcessResourcesInUseEvent (locale : Locale) :
    List ProcessResourceInUseInfo → ProcessResourcesInUseTableEvent →
      List ProcessResourceInUseInfo :=
  applyToMap ProcessResourceInUseInfo.resourceId
    (sortedProcessResourcesInUse locale)

/-- The sockets of a process after an event. -/
def applyProcessSocketsInUseEvent (locale : Locale) :
    List ProcessSocketInUseInfo → ProcessSocketsInUseTableEvent →
      List ProcessSocketInUseInfo :=
  applyToMap ProcessSocketInUseInfo.socketId (sortedProcessSocketsInUse locale)

/-- The modules of a process after an event. -/
def applyProcessModulesEvent (locale : Locale) :
    List ProcessModuleInfo → ProcessModulesTableEvent →
      List ProcessModuleInfo :=
  applyToMap ProcessModuleInfo.moduleId (sortedProcessModules locale)

/-- The phase of a stream and what the view says of it. -/
structure StreamState where
  phase : String
  message : String
  deriving DecidableEq, Repr

/-- The rows of a view, and the state of its stream. -/
structure EntriesView where
  rows : List FsEntry
  state : StreamState
  deriving DecidableEq, Repr

/-- Entries that are removed or replaced are taken out, and all are sorted
again. -/
def applyEntryPatch (locale : Locale) (current : List FsEntry)
    (removedPaths : List String) (upserts : List FsEntry) : List FsEntry :=
  Explorer.sortEntries locale
    (current.filter (fun entry =>
        !removedPaths.contains entry.path &&
          !(upserts.map FsEntry.path).contains entry.path) ++
      upserts)

/-- The reason as it is shown. -/
def rootsCloseReasonLabel : RootsSubscriptionCloseReason → String
  | .failed => "failed"
  | .permissionLost => "permissionLost"
  | .unknown => "unknown"

/-- The explorer's roots after an event. -/
def applyRootsEvent (locale : Locale) (view : EntriesView) :
    RootsTableEvent → EntriesView
  | .snapshot rows => ⟨rows, "live", "Roots live"⟩
  | .patch removes upserts =>
      ⟨applyEntryPatch locale view.rows (removes.map RootEntryKey.path)
        upserts, "live", "Roots updated"⟩
  | .closed reason =>
      { view with
        state := ⟨"closed", "Roots closed: " ++ rootsCloseReasonLabel reason⟩ }

/-- The reason as it is shown. -/
def directoryCloseReasonLabel : DirectorySubscriptionCloseReason → String
  | .failed => "failed"
  | .deleted => "deleted"
  | .moved _ => "moved"
  | .permissionLost => "permissionLost"
  | .replacedByNonDirectory => "replacedByNonDirectory"
  | .unknown => "unknown"

/-- The rows of a directory after a patch. -/
def patchDirectory (locale : Locale) (current : List FsEntry)
    (removes : List DirectoryEntryKey) (upserts : List FsEntry) :
    List FsEntry :=
  let removedNames := removes.map DirectoryEntryKey.name
  let remaining := current.filter fun entry =>
    !removedNames.contains entry.name
  let upsertNames := upserts.map FsEntry.name
  Explorer.sortEntries locale
    (remaining.filter (fun entry => !upsertNames.contains entry.name) ++
      upserts)

/-- The view of a directory after an event.  What is done when the directory has
moved is left to the caller. -/
def applyDirectoryEvent (locale : Locale) (view : EntriesView) :
    DirectoryTableEvent → EntriesView
  | .snapshot rows => ⟨rows, "live", "Directory live"⟩
  | .patch removes upserts =>
      ⟨patchDirectory locale view.rows removes upserts, "live",
        "Directory updated"⟩
  | .closed reason =>
      { view with
        state :=
          ⟨"closed", "Directory closed: " ++ directoryCloseReasonLabel reason⟩ }

/-- The reason as it is shown. -/
def trashCloseReasonLabel : TrashItemsSubscriptionCloseReason → String
  | .failed => "failed"
  | .permissionLost => "permissionLost"
  | .unknown => "unknown"

/-- The rows of the trash and the state of its stream. -/
structure TrashItemsState where
  items : List TrashItem
  state : StreamState
  deriving DecidableEq, Repr

/-- The trash after an event; a close keeps its rows. -/
def applyTrashItemsEvent (current : List TrashItem) :
    TrashItemsTableEvent → TrashItemsState
  | .snapshot rows => ⟨rows, "live", "Trash live"⟩
  | .patch removes upserts =>
      ⟨current.filter (fun item =>
          !removes.contains item.id &&
            !(upserts.map TrashItem.id).contains item.id) ++ upserts,
        "live", "Trash updated"⟩
  | .closed reason =>
      ⟨current, "closed", "Trash closed: " ++ trashCloseReasonLabel reason⟩

/-- The paired clients after an event. -/
def applyClientsEvent (current : List ClientInfo) :
    ClientsTableEvent → List ClientInfo
  | .snapshot rows => rows
  | .patch removes upserts =>
      let removed := removes.map ClientKey.clientId
      let next := current.filter fun client =>
        !removed.contains client.clientId
      upserts.foldl (upsert ClientInfo.clientId) next

/-! ## Views apply patches -/

theorem sortRows_perm (compare : ρ → ρ → Int) (rows : List ρ) :
    (sortRows compare rows).Perm rows :=
  List.mergeSort_perm _ _

section Map

variable [DecidableEq κ] {key : ρ → κ}

/-- What is done to rows is done to the entries of a map. -/
theorem upsert_entry (rows : List ρ) (row : ρ) :
    upsert Prod.fst (rows.map fun row => (key row, row)) (key row, row) =
      (upsert key rows row).map fun row => (key row, row) := by
  induction rows with
  | nil => rfl
  | cons first rows inductionHypothesis =>
      rw [List.map_cons, upsert_cons, upsert_cons, inductionHypothesis]
      split <;> rfl

theorem upserts_entries (rows upserts : List ρ) :
    upserts.foldl (fun rows row => upsert Prod.fst rows (key row, row))
        (rows.map fun row => (key row, row)) =
      (upserts.foldl (upsert key) rows).map fun row => (key row, row) := by
  induction upserts generalizing rows with
  | nil => rfl
  | cons row upserts inductionHypothesis =>
      rw [List.foldl_cons, upsert_entry, inductionHypothesis, List.foldl_cons]

/-- Removing keys from the map removes the rows. -/
theorem removes_entries (rows : List ρ) (removes : List κ) :
    removes.foldl (fun rows removed =>
        rows.filter fun entry => entry.1 ≠ removed)
        (rows.map fun row => (key row, row)) =
      (removes.foldl (fun rows removed =>
        rows.filter fun row => key row ≠ removed) rows).map fun row =>
          (key row, row) := by
  induction removes generalizing rows with
  | nil => rfl
  | cons removed removes inductionHypothesis =>
      rw [List.foldl_cons, List.filter_map, List.foldl_cons,
        ← inductionHypothesis]
      rfl

/-- A patched map holds the rows that a patched list does. -/
theorem patchMap_eq (rows : List ρ) (removes : List κ) (upserts : List ρ) :
    patchMap key rows removes upserts =
      upserts.foldl (upsert key)
        (removes.foldl (fun rows removed =>
            rows.filter fun row => key row ≠ removed)
          (rows.foldl (upsert key) [])) := by
  have entries :
      (rows.map fun row => (key row, row)).foldl (upsert Prod.fst) [] =
        (rows.foldl (upsert key) []).map fun row => (key row, row) := by
    rw [List.foldl_map]
    exact upserts_entries [] rows
  unfold patchMap
  dsimp only
  rw [entries, removes_entries, upserts_entries, List.map_map]
  exact List.map_id _

/-- Patching the map applies the patch. -/
theorem applies_patchMap (key : ρ → κ) :
    Applies key id (patchMap key) where
  distinct := by
    intro rows upserts removes _ _
    have empty : Distinct key ([] : List ρ) := List.nodup_nil
    rw [patchMap_eq]
    exact distinct_upserts
      (distinct_removes (distinct_upserts empty rows) removes) upserts
  rowAt := by
    intro rows upserts removes held distinct
    funext place
    rw [patchMap_eq, rowAt_upserts distinct, rowAt_removes,
      rowAt_upserts held]
    simp [patched]

end Map

/-- What a view has to do with the events of its table: a snapshot replaces its
rows, and patches apply to them. -/
structure Shows [DecidableEq κ] (key : ρ → κ) (keyOf : γ → κ)
    (view : List ρ → TableEvent γ ρ ε → List ρ) : Prop where
  snapshot : ∀ current rows, (view current (.snapshot rows)).Perm rows
  patch : Applies key keyOf fun current removes upserts =>
    view current (.patch removes upserts)

theorem shows_applyToMap [DecidableEq κ] (key : ρ → κ)
    {sorted : List ρ → List ρ} (perm : ∀ rows, (sorted rows).Perm rows) :
    Shows (ε := ε) key id (applyToMap key sorted) where
  snapshot := fun _ rows => perm rows
  patch := (applies_patchMap key).perm fun _ _ _ => perm _

theorem shows_rootsView (locale : Locale) :
    Shows FsEntry.path RootEntryKey.path fun rows event =>
      (applyRootsEvent locale ⟨rows, "", ""⟩ event).rows where
  snapshot := fun _ rows => List.Perm.refl rows
  patch := (applies_append FsEntry.path RootEntryKey.path).perm
    fun _ _ _ => sortRows_perm _ _

/-- A patched directory holds the rows that are left and the upserts. -/
theorem patchDirectory_perm (locale : Locale) (rows : List FsEntry)
    (removes : List DirectoryEntryKey) (upserts : List FsEntry) :
    (patchDirectory locale rows removes upserts).Perm
      (rows.filter (fun row =>
        !(removes.map DirectoryEntryKey.name).contains row.name &&
          !(upserts.map FsEntry.name).contains row.name) ++ upserts) := by
  apply (sortRows_perm _ _).trans
  rw [List.filter_filter]
  apply List.Perm.of_eq
  congr 2
  funext row
  exact Bool.and_comm _ _

theorem shows_directoryView (locale : Locale) :
    Shows FsEntry.name DirectoryEntryKey.name fun rows event =>
      (applyDirectoryEvent locale ⟨rows, "", ""⟩ event).rows where
  snapshot := fun _ rows => List.Perm.refl rows
  patch := (applies_append FsEntry.name DirectoryEntryKey.name).perm
    (patchDirectory_perm locale)

theorem shows_trashView :
    Shows TrashItem.id id fun rows event =>
      (applyTrashItemsEvent rows event).items where
  snapshot := fun _ rows => List.Perm.refl rows
  patch := (applies_append TrashItem.id id).perm fun rows removes upserts =>
    List.Perm.of_eq (by simp [applyTrashItemsEvent])

theorem shows_applyClientsEvent :
    Shows ClientInfo.clientId ClientKey.clientId applyClientsEvent where
  snapshot := fun _ rows => List.Perm.refl rows
  patch := applies_upserts ClientInfo.clientId ClientKey.clientId

/-! ## Daemon and view together -/

/-- A table on both sides: the patch that the daemon computes, and the view that
the client folds its events into. -/
structure StreamedTable where
  Key : Type
  Removal : Type
  Row : Type
  Closing : Type
  [order : LinearOrder Key]
  [equality : DecidableEq Row]
  key : Row → Key
  keyOf : Removal → Key
  patch : List Row → List Row → Option (TableEvent Removal Row Closing)
  view : List Row → TableEvent Removal Row Closing → List Row
  computes : Host.Computes key keyOf patch
  shows : Shows key keyOf view

namespace StreamedTable

variable (table : StreamedTable)

instance : LinearOrder table.Key := table.order

/-- The view of a table follows the samples that its events are made of. -/
theorem view_streamPatches
    {samples : List (List table.Row)} {rows previous : List table.Row}
    (held : Distinct table.key previous)
    (sampled : ∀ sample ∈ samples, Distinct table.key sample)
    (same : rows.Perm previous) :
    ((Host.streamPatches table.patch previous samples).foldl table.view
      rows).Perm (samples.getLastD previous) := by
  induction samples generalizing rows previous with
  | nil => exact same
  | cons next samples inductionHypothesis =>
      obtain ⟨distinct, sampled⟩ := List.forall_mem_cons.mp sampled
      unfold Host.streamPatches
      rw [List.getLastD_cons]
      split
      · rename_i event sent
        obtain ⟨removes, upserts, rfl, exact⟩ :=
          table.computes.difference held distinct sent
        rw [List.foldl_cons]
        apply inductionHypothesis distinct sampled
        exact table.shows.patch.exact exact held distinct same
      · rename_i unchanged
        have kept := (table.computes.none_iff held distinct).mp unchanged
        cases samples with
        | nil => exact same.trans kept
        | cons later samples =>
            exact inductionHypothesis held sampled same

end StreamedTable

/-- The tables that are sampled. -/
inductive TableKind where
  | windows
  | processes
  | clients
  | directory
  | roots
  | trashItems
  | processResourcesInUse
  | processSocketsInUse
  | processModules
  deriving DecidableEq, Repr

/-- Both sides of a table. -/
def TableKind.table (locale : Locale) : TableKind → StreamedTable
  | .windows =>
      { Key := String
        Removal := String
        Row := WindowInfo
        Closing := Empty
        key := WindowInfo.windowId
        keyOf := id
        patch := Host.windowsPatch
        view := applyWindowsEvent locale
        computes := Host.computes_tablePatch fun _ => rfl
        shows := shows_applyToMap _ (sortRows_perm _) }
  | .processes =>
      { Key := UInt64
        Removal := UInt64
        Row := ProcessInfo
        Closing := Empty
        key := ProcessInfo.pid
        keyOf := id
        patch := Host.processesPatch
        view := applyProcessesEvent
        computes := Host.computes_tablePatch fun _ => rfl
        shows := shows_applyToMap _ (sortRows_perm _) }
  | .clients =>
      { Key := String
        Removal := ClientKey
        Row := ClientInfo
        Closing := Empty
        key := ClientInfo.clientId
        keyOf := ClientKey.clientId
        patch := Host.clientsPatch
        view := applyClientsEvent
        computes := Host.computes_clientsPatch
        shows := shows_applyClientsEvent }
  | .directory =>
      { Key := String
        Removal := DirectoryEntryKey
        Row := FsEntry
        Closing := DirectorySubscriptionCloseReason
        key := FsEntry.name
        keyOf := DirectoryEntryKey.name
        patch := Host.directoryPatch
        view := fun rows event =>
          (applyDirectoryEvent locale ⟨rows, "", ""⟩ event).rows
        computes := Host.computes_tablePatch fun _ => rfl
        shows := shows_directoryView locale }
  | .roots =>
      { Key := String
        Removal := RootEntryKey
        Row := FsEntry
        Closing := RootsSubscriptionCloseReason
        key := FsEntry.path
        keyOf := RootEntryKey.path
        patch := Host.rootsPatch
        view := fun rows event =>
          (applyRootsEvent locale ⟨rows, "", ""⟩ event).rows
        computes := Host.computes_tablePatch fun _ => rfl
        shows := shows_rootsView locale }
  | .trashItems =>
      { Key := String
        Removal := String
        Row := TrashItem
        Closing := TrashItemsSubscriptionCloseReason
        key := TrashItem.id
        keyOf := id
        patch := Host.trashItemsPatch
        view := fun rows event => (applyTrashItemsEvent rows event).items
        computes := Host.computes_tablePatch fun _ => rfl
        shows := shows_trashView }
  | .processResourcesInUse =>
      { Key := String
        Removal := String
        Row := ProcessResourceInUseInfo
        Closing := ProcessExit
        key := ProcessResourceInUseInfo.resourceId
        keyOf := id
        patch := Host.processResourcesInUsePatch
        view := applyProcessResourcesInUseEvent locale
        computes := Host.computes_tablePatch fun _ => rfl
        shows := shows_applyToMap _ (sortRows_perm _) }
  | .processSocketsInUse =>
      { Key := String
        Removal := String
        Row := ProcessSocketInUseInfo
        Closing := ProcessExit
        key := ProcessSocketInUseInfo.socketId
        keyOf := id
        patch := Host.processSocketsInUsePatch
        view := applyProcessSocketsInUseEvent locale
        computes := Host.computes_tablePatch fun _ => rfl
        shows := shows_applyToMap _ (sortRows_perm _) }
  | .processModules =>
      { Key := String
        Removal := String
        Row := ProcessModuleInfo
        Closing := ProcessExit
        key := ProcessModuleInfo.moduleId
        keyOf := id
        patch := Host.processModulesPatch
        view := applyProcessModulesEvent locale
        computes := Host.computes_tablePatch fun _ => rfl
        shows := shows_applyToMap _ (sortRows_perm _) }

/-- For every kind of table: the patch of two samples is absent exactly when
they are the same table, makes the second of whatever rows show the first, and
removes no row that it puts in; and over a whole subscription the view shows the
last sample. -/
theorem view_shows_last_sample
    (locale : Locale) (kind : TableKind)
    {rows previous next current : List (kind.table locale).Row}
    {samples : List (List (kind.table locale).Row)}
    (held : Distinct (kind.table locale).key previous)
    (distinct : Distinct (kind.table locale).key next)
    (sampled : ∀ sample ∈ samples, Distinct (kind.table locale).key sample)
    (same : rows.Perm previous) :
    ((kind.table locale).patch previous next = none ↔ previous.Perm next) ∧
    (∀ event, (kind.table locale).patch previous next = some event →
      ((kind.table locale).view rows event).Perm next ∧
        ∃ removes upserts, event = .patch removes upserts ∧
          ∀ removal ∈ removes, ∀ row ∈ upserts,
            (kind.table locale).keyOf removal ≠
              (kind.table locale).key row) ∧
    ((Host.streamTable (kind.table locale).patch previous samples).foldl
      (kind.table locale).view current).Perm (samples.getLastD previous) := by
  generalize kind.table locale = table at *
  refine ⟨table.computes.none_iff held distinct, ?_, ?_⟩
  · intro event sent
    obtain ⟨removes, upserts, rfl, exact⟩ :=
      table.computes.difference held distinct sent
    refine ⟨table.shows.patch.exact exact held distinct same, removes, upserts,
      rfl, ?_⟩
    intro removal removed row sent clash
    exact exact.disjoint sent (clash ▸ List.mem_map_of_mem removed)
  · exact table.view_streamPatches held sampled (table.shows.snapshot _ _)

/-- The order of code points, as a number. -/
def compareCodePoints (left right : String) : Int :=
  if left = right then 0 else if left ≤ right then -1 else 1

/-- The order of code points in place of a browser's. -/
def plainLocale : Locale where
  localeCompare := compareCodePoints
  localeCompareNumeric := compareCodePoints

/-- A sample of two processes. -/
def earlierProcesses : List ProcessInfo :=
  [⟨7, none, "a", .run⟩, ⟨8, some 7, "b", .sleep⟩]

/-- The next sample, in which one is gone, one changed and one new. -/
def laterProcesses : List ProcessInfo :=
  [⟨8, some 7, "b", .run⟩, ⟨9, some 8, "c", .run⟩]

/-- One process exits, one wakes and one starts. -/
theorem view_shows_last_sample_processes :
    Host.processesPatch earlierProcesses laterProcesses =
        some (.patch [7] laterProcesses) ∧
      (applyProcessesEvent earlierProcesses (.patch [7] laterProcesses)).Perm
        laterProcesses := by
  have sent : Host.processesPatch earlierProcesses laterProcesses =
      some (.patch [7] laterProcesses) := by
    rfl
  have held : Distinct ProcessInfo.pid earlierProcesses := by decide
  have distinct : Distinct ProcessInfo.pid laterProcesses := by decide
  have shown := @view_shows_last_sample plainLocale .processes
    earlierProcesses earlierProcesses laterProcesses [] [] held distinct
    (by simp) (List.Perm.refl _)
  exact ⟨sent, (shown.2.1 _ sent).1⟩

end Web
end WhatsGoingOn
