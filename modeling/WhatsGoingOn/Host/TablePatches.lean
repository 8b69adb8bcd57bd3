import Mathlib.Data.String.Basic
import WhatsGoingOn.Daemon.Tables
import WhatsGoingOn.Library.KeyedRows
import WhatsGoingOn.Library.SortedMap

/-!
# Patches of streamed tables

A subscription samples the rows of its table again and again, and streams what
has changed from one sample to the next.
-/

namespace WhatsGoingOn
namespace Host

open Daemon KeyedRows

variable {κ γ ρ ε : Type}

/-! ## The patch of two lists of rows -/

section Patch

variable [LinearOrder κ] [DecidableEq ρ]

/-- The rows in a `BTreeMap`. -/
def byKey (key : ρ → κ) (rows : List ρ) : List (κ × ρ) :=
  SortedMap.insertAll (rows.map fun entry => (key entry, entry)) []

/-- The keys that are gone. -/
def removedKeys (key : ρ → κ) (previous next : List ρ) : List κ :=
  (SortedMap.keys (byKey key previous)).filter fun place =>
    !((byKey key next).lookup place).isSome

/-- A patch, unless nothing has changed. -/
def patchEvent (removes : List γ) (upserts : List ρ) :
    Option (TableEvent γ ρ ε) :=
  if removes.isEmpty && upserts.isEmpty then none
  else some (.patch removes upserts)

/-- The rows that are new or changed, in the order of their keys. -/
def changedRows (key : ρ → κ) (previous next : List ρ) : List ρ :=
  (byKey key next).filterMap fun entry =>
    if (byKey key previous).lookup entry.1 = some entry.2 then none
    else some entry.2

/-- What the patches of most tables are: the keys that are gone, each as the
table writes it, and the rows that are new or changed. -/
def tablePatch (key : ρ → κ) (remove : κ → γ) (previous next : List ρ) :
    Option (TableEvent γ ρ ε) :=
  patchEvent ((removedKeys key previous next).map remove)
    (changedRows key previous next)

end Patch

/-- The change between two samples of the windows. -/
def windowsPatch :
    List WindowInfo → List WindowInfo → Option WindowsTableEvent :=
  tablePatch WindowInfo.windowId id

/-- The change between two samples of the processes. -/
def processesPatch :
    List ProcessInfo → List ProcessInfo → Option ProcessesTableEvent :=
  tablePatch ProcessInfo.pid id

/-- The change between two samples of what a process has open. -/
def processResourcesInUsePatch :
    List ProcessResourceInUseInfo → List ProcessResourceInUseInfo →
      Option ProcessResourcesInUseTableEvent :=
  tablePatch ProcessResourceInUseInfo.resourceId id

/-- The change between two samples of the sockets of a process. -/
def processSocketsInUsePatch :
    List ProcessSocketInUseInfo → List ProcessSocketInUseInfo →
      Option ProcessSocketsInUseTableEvent :=
  tablePatch ProcessSocketInUseInfo.socketId id

/-- The change between two samples of the modules of a process. -/
def processModulesPatch :
    List ProcessModuleInfo → List ProcessModuleInfo →
      Option ProcessModulesTableEvent :=
  tablePatch ProcessModuleInfo.moduleId id

/-- The change between two samples of the roots. -/
def rootsPatch : List FsEntry → List FsEntry → Option RootsTableEvent :=
  tablePatch FsEntry.path RootEntryKey.mk

/-- The change between two listings of a directory. -/
def directoryPatch :
    List FsEntry → List FsEntry → Option DirectoryTableEvent :=
  tablePatch FsEntry.name DirectoryEntryKey.mk

/-- The change between two listings of the trash. -/
def trashItemsPatch :
    List TrashItem → List TrashItem → Option TrashItemsTableEvent :=
  tablePatch TrashItem.id id

/-- The patch of the paired clients keeps the order of the rows. -/
def clientsPatch (previous next : List ClientInfo) : Option ClientsTableEvent :=
  patchEvent ((removedKeys ClientInfo.clientId previous next).map ClientKey.mk)
    (next.filter fun row =>
      (byKey ClientInfo.clientId previous).lookup row.clientId ≠ some row)

/-- The events after the snapshot: one for each sample that has changed. -/
def streamPatches (patch : List ρ → List ρ → Option (TableEvent γ ρ ε)) :
    List ρ → List (List ρ) → List (TableEvent γ ρ ε)
  | _, [] => []
  | rows, nextRows :: samples =>
      match patch rows nextRows with
      | some event => event :: streamPatches patch nextRows samples
      | none => streamPatches patch rows samples

/-- The events of a subscription, of its first sample and the others. -/
def streamTable (patch : List ρ → List ρ → Option (TableEvent γ ρ ε))
    (rows : List ρ) (samples : List (List ρ)) : List (TableEvent γ ρ ε) :=
  .snapshot rows :: streamPatches patch rows samples

/-! ## Patches are differences -/

section Entries

variable {key : ρ → κ}

theorem keys_entries (rows : List ρ) :
    SortedMap.keys (rows.map fun entry => (key entry, entry)) =
      rows.map key := by
  simp [SortedMap.keys, Function.comp_def]

variable [LinearOrder κ]

theorem lookup_entries (rows : List ρ) (place : κ) :
    (rows.map fun entry => (key entry, entry)).lookup place =
      rowAt key rows place := by
  induction rows with
  | nil => rfl
  | cons row rows inductionHypothesis =>
      rw [List.map_cons, SortedMap.lookup_cons_eq, rowAt_cons,
        inductionHypothesis]
      exact if_congr eq_comm rfl rfl

theorem perm_byKey {rows : List ρ} (distinct : Distinct key rows) :
    (byKey key rows).Perm (rows.map fun entry => (key entry, entry)) := by
  apply SortedMap.perm_sort
  rw [keys_entries]
  exact distinct

/-- The map of some rows has under a key what they have. -/
theorem lookup_byKey {rows : List ρ} (distinct : Distinct key rows)
    (place : κ) : (byKey key rows).lookup place = rowAt key rows place := by
  rw [SortedMap.lookup_of_perm (perm_byKey distinct), lookup_entries]
  apply ((perm_byKey distinct).map Prod.fst).symm.nodup
  rw [← SortedMap.keys, keys_entries]
  exact distinct

theorem mem_removedKeys {previous next : List ρ} {place : κ}
    (held : Distinct key previous) (distinct : Distinct key next) :
    place ∈ removedKeys key previous next ↔
      rowAt key previous place ≠ none ∧ rowAt key next place = none := by
  unfold removedKeys
  rw [List.mem_filter, ← SortedMap.lookup_isSome_iff, lookup_byKey held,
    lookup_byKey distinct]
  simp [Option.isSome_iff_ne_none]

end Entries

section Exact

variable [LinearOrder κ] [DecidableEq ρ] {key : ρ → κ}
  {previous next : List ρ}

theorem perm_changedRows (distinct : Distinct key next) :
    (changedRows key previous next).Perm
      (next.filter fun row =>
        (byKey key previous).lookup (key row) ≠ some row) := by
  apply ((perm_byKey distinct).filterMap _).trans
  rw [List.filterMap_map, ← List.filterMap_eq_filter]
  apply List.Perm.of_eq
  congr 1
  funext row
  simp only [Function.comp_apply, Option.guard]
  split <;> simp_all

/-- The keys that are gone and the rows that are new or changed, in whatever
order, are the difference of two tables. -/
theorem exact_of_perm {upserts : List ρ}
    (held : Distinct key previous) (distinct : Distinct key next)
    (perm : upserts.Perm (next.filter fun row =>
      (byKey key previous).lookup (key row) ≠ some row)) :
    Exact key previous next (removedKeys key previous next) upserts := by
  have unique : Distinct key upserts := by
    apply Distinct.perm _ perm.symm
    exact distinct.sublist (List.filter_sublist.map _)
  have member {row : ρ} : row ∈ upserts ↔
      row ∈ next ∧ rowAt key previous (key row) ≠ some row := by
    rw [perm.mem_iff, List.mem_filter, lookup_byKey held, decide_eq_true_iff]
  refine ⟨unique, mem_removedKeys held distinct, ?_⟩
  intro place row
  constructor
  · intro found
    have same := key_of_rowAt found
    subst same
    obtain ⟨inside, changed⟩ := member.mp (mem_of_rowAt found)
    exact ⟨rowAt_of_mem distinct inside, changed⟩
  · rintro ⟨found, changed⟩
    have same := key_of_rowAt found
    subst same
    exact rowAt_of_mem unique (member.mpr ⟨mem_of_rowAt found, changed⟩)

/-- A patch is there exactly when the tables are not the same, and it is their
difference. -/
structure Computes (key : ρ → κ) (keyOf : γ → κ)
    (patch : List ρ → List ρ → Option (TableEvent γ ρ ε)) : Prop where
  none_iff : ∀ {previous next : List ρ},
    Distinct key previous → Distinct key next →
      (patch previous next = none ↔ previous.Perm next)
  difference : ∀ {previous next : List ρ} {event : TableEvent γ ρ ε},
    Distinct key previous → Distinct key next →
      patch previous next = some event →
        ∃ removes upserts, event = .patch removes upserts ∧
          Exact key previous next (removes.map keyOf) upserts

/-- A patch of the removed keys and the changed rows is the difference. -/
theorem computes_patchEvent {keyOf : γ → κ} {remove : κ → γ}
    {upserts : List ρ → List ρ → List ρ}
    (inverse : ∀ place, keyOf (remove place) = place)
    (perm : ∀ {previous next : List ρ}, Distinct key next →
      (upserts previous next).Perm (next.filter fun row =>
        (byKey key previous).lookup (key row) ≠ some row)) :
    Computes key keyOf fun previous next =>
      patchEvent (ε := ε) ((removedKeys key previous next).map remove)
        (upserts previous next) where
  none_iff := by
    intro previous next held distinct
    have exact := exact_of_perm held distinct (perm distinct)
    unfold patchEvent
    rw [perm_iff_rowAt held distinct, ← exact.empty_iff]
    simp
  difference := by
    intro previous next event held distinct sent
    unfold patchEvent at sent
    split at sent
    · cases sent
    · cases sent
      refine ⟨_, _, rfl, ?_⟩
      rw [List.map_map, Function.comp_def]
      simp only [inverse, List.map_id']
      exact exact_of_perm held distinct (perm distinct)

theorem computes_tablePatch {keyOf : γ → κ} {remove : κ → γ}
    (inverse : ∀ place, keyOf (remove place) = place) :
    Computes key keyOf (tablePatch (ε := ε) key remove) :=
  computes_patchEvent inverse perm_changedRows

end Exact

theorem computes_clientsPatch :
    Computes ClientInfo.clientId ClientKey.clientId clientsPatch :=
  computes_patchEvent (fun _ => rfl) fun _ => List.Perm.refl _

end Host
end WhatsGoingOn
