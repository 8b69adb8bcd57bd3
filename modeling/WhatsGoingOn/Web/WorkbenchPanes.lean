import Mathlib.Data.List.Nodup
import Mathlib.Data.List.Pairwise
import Mathlib.Data.List.Perm.Subperm
import WhatsGoingOn.Library.Run
import WhatsGoingOn.Web.Workbench

/-!
# Panes and tabs stay well-formed

Every operation rebuilds the panes that it changes so that their tabs refer to
each other, and it moves the tabs between panes without losing or repeating one.
-/

namespace WhatsGoingOn
namespace Web

/-- A pane has tabs, its active tab is one of them, and a tab has been opened
from another one of them. -/
structure WorkbenchPane.WellFormed (pane : WorkbenchPane) : Prop where
  nonempty : pane.tabs ≠ []
  active : pane.activeTabId ∈ pane.tabIds
  previous : ∀ tab ∈ pane.tabs, ∀ previous,
    tab.previousActiveTabId = some previous →
      previous ≠ tab.id ∧ previous ∈ pane.tabIds

/-- A workbench has panes, no two panes and no two tabs have the same id, and the
active pane is one of its panes. -/
structure WorkbenchState.WellFormed (state : WorkbenchState) : Prop where
  nonempty : state.panes ≠ []
  paneIds : state.paneIds.Nodup
  tabIds : state.tabIds.Nodup
  panes : ∀ pane ∈ state.panes, pane.WellFormed
  active : ∃ paneId ∈ state.paneIds, state.activePaneId = some paneId

/-- Different ids that are all the same are one at most. -/
theorem length_le_one_of_filter_eq_nil {ids : List String} {id : String}
    (distinct : ids.Nodup)
    (none : ids.filter (· != id) = []) : ids.length ≤ 1 := by
  have all : ∀ other ∈ ids, other = id := by
    intro other present
    simpa using List.filter_eq_nil_iff.mp none other present
  rw [List.eq_replicate_of_mem all] at distinct
  exact List.nodup_replicate.mp distinct

/-! ## One pane -/

section Pane

variable {pane : WorkbenchPane} {tab : WorkbenchTab} {tabId : String}

@[simp] theorem normalizePaneTabHistory_id (pane : WorkbenchPane) :
    (normalizePaneTabHistory pane).id = pane.id := rfl

@[simp] theorem normalizePaneTabHistory_tabIds (pane : WorkbenchPane) :
    (normalizePaneTabHistory pane).tabIds = pane.tabIds := by
  simp [normalizePaneTabHistory, WorkbenchPane.tabIds, Function.comp_def]

/-- The history of a pane is of its own tabs. -/
theorem normalizePaneTabHistory_wellFormed (nonempty : pane.tabs ≠ []) :
    (normalizePaneTabHistory pane).WellFormed where
  nonempty := by simpa [normalizePaneTabHistory] using nonempty
  active := by
    rw [normalizePaneTabHistory_tabIds]
    simp only [normalizePaneTabHistory]
    split
    · assumption
    · cases tabs : pane.tabs with
      | nil => exact absurd tabs nonempty
      | cons first rest => simp [WorkbenchPane.tabIds, tabs]
  previous := by
    intro tab present previous opened
    rw [normalizePaneTabHistory_tabIds]
    obtain ⟨original, -, rfl⟩ := List.mem_map.mp present
    have kept := (Option.filter_eq_some_iff.mp opened).2
    simpa using kept

@[simp] theorem activatePaneTab_id (pane : WorkbenchPane) (tabId : String) :
    (activatePaneTab pane tabId).id = pane.id := by
  unfold activatePaneTab
  split
  · rfl
  · split <;> rfl

/-- Showing a tab leaves the tabs. -/
@[simp] theorem activatePaneTab_tabIds
    (pane : WorkbenchPane) (tabId : String) :
    (activatePaneTab pane tabId).tabIds = pane.tabIds := by
  unfold activatePaneTab
  split
  · exact normalizePaneTabHistory_tabIds pane
  · split
    · exact normalizePaneTabHistory_tabIds pane
    · rw [normalizePaneTabHistory_tabIds]
      simp only [WorkbenchPane.tabIds, List.map_map]
      apply List.map_congr_left
      intro tab _
      simp only [Function.comp_apply]
      split <;> rfl

theorem activatePaneTab_wellFormed (nonempty : pane.tabs ≠ []) :
    (activatePaneTab pane tabId).WellFormed := by
  unfold activatePaneTab
  split
  · exact normalizePaneTabHistory_wellFormed nonempty
  · split
    · exact normalizePaneTabHistory_wellFormed nonempty
    · exact normalizePaneTabHistory_wellFormed (by simpa using nonempty)

/-- A tab that is put in is added once. -/
theorem insertTab_perm (tabs : List WorkbenchTab) (tab : WorkbenchTab)
    (targetTabId : Option String) (position : TabDropPosition) :
    (insertTab tabs tab targetTabId position).Perm (tab :: tabs) := by
  have atEnd : (tabs ++ [tab]).Perm (tab :: tabs) :=
    List.perm_append_singleton tab tabs
  have inside (index : Nat) :
      (tabs.take index ++ tab :: tabs.drop index).Perm (tab :: tabs) := by
    have middle : (tabs.take index ++ tab :: tabs.drop index).Perm
        (tab :: (tabs.take index ++ tabs.drop index)) :=
      List.perm_middle
    rwa [List.take_append_drop] at middle
  unfold insertTab
  split
  · exact atEnd
  · exact atEnd
  · split
    · exact atEnd
    · exact inside _

/-- The ids of the tabs after an insertion. -/
theorem mem_insertTab_ids {tabs : List WorkbenchTab}
    {targetTabId : Option String} {position : TabDropPosition}
    {other : String} :
    other ∈ (insertTab tabs tab targetTabId position).map WorkbenchTab.id ↔
      other = tab.id ∨ other ∈ tabs.map WorkbenchTab.id := by
  rw [((insertTab_perm tabs tab targetTabId position).map
    WorkbenchTab.id).mem_iff]
  simp

theorem insertTab_ne_nil {tabs : List WorkbenchTab}
    {targetTabId : Option String} {position : TabDropPosition} :
    insertTab tabs tab targetTabId position ≠ [] := by
  intro empty
  have same := insertTab_perm tabs tab targetTabId position
  rw [empty] at same
  simp at same

theorem WorkbenchPane.findTab_eq_some
    (found : pane.findTab tabId = some tab) :
    tab ∈ pane.tabs ∧ tab.id = tabId :=
  ⟨List.mem_of_find?_eq_some found, by
    simpa using List.find?_some found⟩

@[simp] theorem WorkbenchPane.without_id
    (pane : WorkbenchPane) (tabId : String) :
    (pane.without tabId).id = pane.id := rfl

theorem WorkbenchPane.without_tabIds (pane : WorkbenchPane) (tabId : String) :
    (pane.without tabId).tabIds = pane.tabIds.filter (· != tabId) := by
  simp only [WorkbenchPane.without, normalizePaneTabHistory_tabIds]
  simp [WorkbenchPane.tabIds, List.filter_map, Function.comp_def]

theorem WorkbenchPane.without_wellFormed
    (others : (pane.tabs.filter fun tab => tab.id != tabId) ≠ []) :
    (pane.without tabId).WellFormed :=
  normalizePaneTabHistory_wellFormed others

@[simp] theorem moveTabWithinPane_id (pane : WorkbenchPane) (tabId : String)
    (targetTabId : Option String) (position : TabDropPosition) :
    (moveTabWithinPane pane tabId targetTabId position).id = pane.id := by
  unfold moveTabWithinPane
  split
  · rfl
  · split
    · rfl
    · exact activatePaneTab_id _ _

/-- A tab that moves within its pane stays the only one with its id. -/
theorem moveTabWithinPane_tabIds
    {targetTabId : Option String} {position : TabDropPosition}
    (distinct : pane.tabIds.Nodup) :
    (moveTabWithinPane pane tabId targetTabId position).tabIds.Nodup ∧
      ∀ other ∈ (moveTabWithinPane pane tabId targetTabId position).tabIds,
        other ∈ pane.tabIds := by
  unfold moveTabWithinPane
  split
  · exact ⟨distinct, fun _ present => present⟩
  · split
    · exact ⟨distinct, fun _ present => present⟩
    · rename_i movingTab found
      obtain ⟨present, same⟩ := WorkbenchPane.findTab_eq_some found
      have remaining :
          (pane.tabs.filter fun tab => tab.id != tabId).map WorkbenchTab.id =
            pane.tabIds.filter (· != tabId) := by
        simp [WorkbenchPane.tabIds, List.filter_map, Function.comp_def]
      rw [activatePaneTab_tabIds]
      constructor
      · have order := (insertTab_perm
          (pane.tabs.filter fun tab => tab.id != tabId) movingTab targetTabId
          position).map WorkbenchTab.id
        rw [List.map_cons, remaining, same] at order
        refine order.nodup_iff.mpr (List.nodup_cons.mpr ⟨?_, ?_⟩)
        · simp
        · exact distinct.filter _
      · intro other inserted
        rcases mem_insertTab_ids.mp inserted with rfl | before
        · exact List.mem_map_of_mem present
        · rw [remaining] at before
          exact List.mem_of_mem_filter before

theorem moveTabWithinPane_wellFormed
    {targetTabId : Option String} {position : TabDropPosition}
    (wellFormed : pane.WellFormed) :
    (moveTabWithinPane pane tabId targetTabId position).WellFormed := by
  unfold moveTabWithinPane
  split
  · exact wellFormed
  · split
    · exact wellFormed
    · exact activatePaneTab_wellFormed insertTab_ne_nil

/-- A pane with one new tab. -/
theorem WorkbenchPane.wellFormed_single (paneId : String)
    (alone : tab.previousActiveTabId = none) :
    (WorkbenchPane.mk paneId [tab] tab.id).WellFormed where
  nonempty := by simp
  active := by simp [WorkbenchPane.tabIds]
  previous := by simp [alone]

end Pane

/-! ## All panes -/

namespace WorkbenchState

variable {state : WorkbenchState}

/-- No two panes have a tab with the same id. -/
def Separate (panes : List WorkbenchPane) : Prop :=
  ∀ first ∈ panes, ∀ second ∈ panes, ∀ tabId,
    tabId ∈ first.tabIds → tabId ∈ second.tabIds → first.id = second.id

/-- The tabs of panes with different ids have different ids when they have
within each pane and between panes. -/
theorem nodup_flatMap_tabIds {panes : List WorkbenchPane}
    (distinct : (panes.map WorkbenchPane.id).Nodup) :
    (panes.flatMap WorkbenchPane.tabIds).Nodup ↔
      (∀ pane ∈ panes, pane.tabIds.Nodup) ∧ Separate panes := by
  have apart : panes.Pairwise fun first second => first.id ≠ second.id :=
    List.pairwise_map.mp distinct
  rw [List.nodup_flatMap]
  apply and_congr_right
  intro _
  constructor
  · intro disjoint first firstPresent second secondPresent tabId inFirst
      inSecond
    by_contra different
    have distinctPanes : first ≠ second := fun same =>
      different (congrArg WorkbenchPane.id same)
    have symmetric : Std.Symm
        (Function.onFun List.Disjoint WorkbenchPane.tabIds) :=
      ⟨fun _ _ disjoint => List.disjoint_symm disjoint⟩
    exact disjoint.forall firstPresent secondPresent distinctPanes inFirst
      inSecond
  · intro separate
    refine apart.imp_of_mem ?_
    intro first second firstPresent secondPresent different tabId inFirst
      inSecond
    exact different
      (separate first firstPresent second secondPresent tabId inFirst inSecond)

theorem WellFormed.distinct (wellFormed : state.WellFormed) :
    (∀ pane ∈ state.panes, pane.tabIds.Nodup) ∧ Separate state.panes :=
  (nodup_flatMap_tabIds wellFormed.paneIds).mp wellFormed.tabIds

/-- Panes are separate when each of their tabs is one of the same pane before,
or has been added to one pane only. -/
theorem Separate.of_origin
    {panes next : List WorkbenchPane} (Added : String → String → Prop)
    (separate : Separate panes)
    (origin : ∀ pane ∈ next, ∀ tabId ∈ pane.tabIds,
      Added tabId pane.id ∨
        ∃ before ∈ panes, before.id = pane.id ∧ tabId ∈ before.tabIds)
    (home : ∀ tabId paneId, Added tabId paneId →
      ∀ pane ∈ next, tabId ∈ pane.tabIds → pane.id = paneId) :
    Separate next := by
  intro first firstPresent second secondPresent tabId inFirst inSecond
  rcases origin first firstPresent tabId inFirst with
    added | ⟨before, beforePresent, sameFirst, inBefore⟩
  · exact (home tabId first.id added second secondPresent inSecond).symm
  · rcases origin second secondPresent tabId inSecond with
      added | ⟨other, otherPresent, sameSecond, inOther⟩
    · exact home tabId second.id added first firstPresent inFirst
    · rw [← sameFirst, ← sameSecond]
      exact separate before beforePresent other otherPresent tabId inBefore
        inOther

/-- A workbench is well-formed when its panes are, one by one. -/
theorem WellFormed.of_panes
    {panes : List WorkbenchPane} {activePaneId : String}
    (paneIds : (panes.map WorkbenchPane.id).Nodup)
    (each : ∀ pane ∈ panes, pane.WellFormed ∧ pane.tabIds.Nodup)
    (separate : Separate panes)
    (active : activePaneId ∈ panes.map WorkbenchPane.id) :
    WellFormed ⟨some activePaneId, panes⟩ where
  nonempty := by
    rintro rfl
    cases active
  paneIds := paneIds
  tabIds := (nodup_flatMap_tabIds paneIds).mpr
    ⟨fun pane present => (each pane present).2, separate⟩
  panes := fun pane present => (each pane present).1
  active := ⟨activePaneId, active, rfl⟩

theorem mem_tabIds {tabId : String} :
    tabId ∈ state.tabIds ↔ ∃ pane ∈ state.panes, tabId ∈ pane.tabIds :=
  List.mem_flatMap

theorem mem_paneIds {paneId : String} :
    paneId ∈ state.paneIds ↔ ∃ pane ∈ state.panes, pane.id = paneId :=
  List.mem_map

theorem findPane_eq_some {paneId : String} {pane : WorkbenchPane}
    (found : state.findPane paneId = some pane) :
    pane ∈ state.panes ∧ pane.id = paneId :=
  ⟨List.mem_of_find?_eq_some found, by
    simpa using List.find?_some found⟩

theorem mem_paneIds_of_findPane {paneId : String} {pane : WorkbenchPane}
    (found : state.findPane paneId = some pane) :
    paneId ∈ state.paneIds :=
  mem_paneIds.mpr ⟨pane, findPane_eq_some found⟩

/-- Two panes with the same id are one. -/
theorem WellFormed.pane_unique {first second : WorkbenchPane}
    (wellFormed : state.WellFormed)
    (firstPresent : first ∈ state.panes)
    (secondPresent : second ∈ state.panes)
    (same : first.id = second.id) : first = second :=
  List.inj_on_of_nodup_map wellFormed.paneIds firstPresent secondPresent same

/-! ## Changing one pane -/

section Update

variable {paneId : String} {update : WorkbenchPane → WorkbenchPane}

theorem paneIds_updatePane (same : ∀ pane, (update pane).id = pane.id) :
    (state.updatePane paneId update).paneIds = state.paneIds := by
  simp only [paneIds, updatePane, List.map_map]
  apply List.map_congr_left
  intro pane _
  simp only [Function.comp_apply]
  split
  · exact same pane
  · rfl

/-- A pane of the result is a pane before, changed when it has the id. -/
theorem mem_panes_updatePane {pane : WorkbenchPane} :
    pane ∈ (state.updatePane paneId update).panes ↔
      ∃ before ∈ state.panes,
        (if before.id = paneId then update before else before) = pane :=
  List.mem_map

/-- A change of one pane that adds at most one tab, with a new id. -/
theorem WellFormed.updatePane {activePaneId : String}
    (added : Option String)
    (wellFormed : state.WellFormed)
    (same : ∀ pane, (update pane).id = pane.id)
    (each : ∀ pane ∈ state.panes, pane.id = paneId →
      (update pane).WellFormed ∧ (update pane).tabIds.Nodup)
    (tabs : ∀ pane ∈ state.panes, pane.id = paneId →
      ∀ other ∈ (update pane).tabIds,
        added = some other ∨ other ∈ pane.tabIds)
    (fresh : ∀ tabId, added = some tabId → tabId ∉ state.tabIds)
    (active : activePaneId ∈ state.paneIds) :
    WellFormed { state.updatePane paneId update with
      activePaneId := some activePaneId } := by
  have paneIds : (state.updatePane paneId update).panes.map WorkbenchPane.id =
      state.paneIds := paneIds_updatePane same
  apply WellFormed.of_panes
  · rw [paneIds]
    exact wellFormed.paneIds
  · intro pane present
    obtain ⟨before, beforePresent, rfl⟩ := mem_panes_updatePane.mp present
    split
    · rename_i found
      exact each before beforePresent found
    · exact ⟨wellFormed.panes before beforePresent,
        wellFormed.distinct.1 before beforePresent⟩
  · apply wellFormed.distinct.2.of_origin
      (fun other home => added = some other ∧ home = paneId)
    · intro pane present other inPane
      obtain ⟨before, beforePresent, rfl⟩ := mem_panes_updatePane.mp present
      split at inPane
      · rename_i found
        rcases tabs before beforePresent found other inPane with new | old
        · left
          simp [found, same, new]
        · right
          exact ⟨before, beforePresent, by simp [found, same], old⟩
      · rename_i different
        right
        exact ⟨before, beforePresent, by simp [different], inPane⟩
    · rintro other home ⟨new, rfl⟩ pane present inPane
      obtain ⟨before, beforePresent, rfl⟩ := mem_panes_updatePane.mp present
      split at inPane
      · rename_i found
        simp [found, same]
      · exact absurd (mem_tabIds.mpr ⟨before, beforePresent, inPane⟩)
          (fresh other new)
  · rw [paneIds]
    exact active

/-- A change of one pane that adds no tab and leaves the active pane. -/
theorem WellFormed.updatePane_only
    (wellFormed : state.WellFormed)
    (same : ∀ pane, (update pane).id = pane.id)
    (each : ∀ pane ∈ state.panes, pane.id = paneId →
      (update pane).WellFormed ∧ (update pane).tabIds.Nodup)
    (tabs : ∀ pane ∈ state.panes, pane.id = paneId →
      ∀ other ∈ (update pane).tabIds, other ∈ pane.tabIds) :
    (state.updatePane paneId update).WellFormed := by
  obtain ⟨activePaneId, active, isActive⟩ := wellFormed.active
  have changed := wellFormed.updatePane none same each
    (fun pane present found other inPane =>
      Or.inr (tabs pane present found other inPane)) nofun active
  rwa [← isActive] at changed

/-- A tab is opened in a pane, or one of its tabs is made the active one. -/
theorem WellFormed.open_tab
    (wellFormed : state.WellFormed)
    (tabs : List WorkbenchTab → List WorkbenchTab) {tab : WorkbenchTab}
    (opened : ∀ before, (tabs before).Perm (tab :: before))
    (fresh : tab.id ∉ state.tabIds)
    (found : paneId ∈ state.paneIds) :
    WellFormed { state.updatePane paneId fun pane =>
        activatePaneTab { pane with tabs := tabs pane.tabs } tab.id with
      activePaneId := some paneId } := by
  have ids (before : List WorkbenchTab) :
      ((tabs before).map WorkbenchTab.id).Perm
        (tab.id :: before.map WorkbenchTab.id) :=
    (opened before).map WorkbenchTab.id
  apply wellFormed.updatePane (some tab.id) _ _ _ _ found
  · simp
  · intro pane present _
    constructor
    · apply activatePaneTab_wellFormed
      intro empty
      have same := opened pane.tabs
      rw [show tabs pane.tabs = [] from empty] at same
      simp at same
    · rw [activatePaneTab_tabIds]
      apply (ids pane.tabs).nodup_iff.mpr
      refine List.nodup_cons.mpr ⟨fun inPane => ?_, ?_⟩
      · exact fresh (mem_tabIds.mpr ⟨pane, present, inPane⟩)
      · exact wellFormed.distinct.1 pane present
  · intro pane _ _ other inPane
    rw [activatePaneTab_tabIds] at inPane
    rcases List.mem_cons.mp ((ids pane.tabs).mem_iff.mp inPane) with
      rfl | before
    · exact Or.inl rfl
    · exact Or.inr before
  · rintro _ ⟨⟩
    exact fresh

end Update

/-! ## The operations -/

/-- The first workbench is well formed. -/
theorem WellFormed.initial (paneUuid tabUuid : String) :
    (initial paneUuid tabUuid).WellFormed := by
  apply WellFormed.of_panes
  · simp
  · intro pane present
    rw [List.mem_singleton.mp present]
    exact ⟨WorkbenchPane.wellFormed_single _ rfl,
      by simp [WorkbenchPane.tabIds]⟩
  · intro first firstPresent second secondPresent _ _ _
    rw [List.mem_singleton.mp firstPresent,
      List.mem_singleton.mp secondPresent]
  · simp

/-- A setter of one tab keeps the ids and the tabs that it refers to. -/
theorem WellFormed.updateTab
    {paneId tabId : String} {update : WorkbenchTab → WorkbenchTab}
    (wellFormed : state.WellFormed)
    (same : ∀ tab, (update tab).id = tab.id ∧
      (update tab).previousActiveTabId = tab.previousActiveTabId) :
    (state.updateTab paneId tabId update).WellFormed := by
  have ids (pane : WorkbenchPane) :
      WorkbenchPane.tabIds { pane with
        tabs := pane.tabs.map fun tab =>
          if tab.id = tabId then update tab else tab } = pane.tabIds := by
    simp only [WorkbenchPane.tabIds, List.map_map]
    apply List.map_congr_left
    intro tab _
    simp only [Function.comp_apply]
    split
    · exact (same tab).1
    · rfl
  apply wellFormed.updatePane_only
  · exact fun _ => rfl
  · intro pane present _
    have before := wellFormed.panes pane present
    refine ⟨⟨?_, ?_, ?_⟩, ?_⟩
    · simpa using before.nonempty
    · rw [ids]
      exact before.active
    · intro tab inPane previous opened
      rw [ids]
      obtain ⟨original, originalPresent, rfl⟩ := List.mem_map.mp inPane
      have kept := before.previous original originalPresent previous
      split at opened
      · rename_i found
        simp only [found, if_true]
        rw [(same original).1]
        rw [(same original).2] at opened
        exact kept opened
      · rename_i different
        simpa [different] using kept opened
    · rw [ids]
      exact wellFormed.distinct.1 pane present
  · intro pane _ _ other inPane
    rwa [ids] at inPane

/-- Updating a tab of a tool keeps the workbench well formed. -/
theorem WellFormed.updateToolTab
    {paneId tabId : String} {tool : WorkbenchTool}
    {update : WorkbenchTab → WorkbenchTab}
    (wellFormed : state.WellFormed)
    (same : ∀ tab, (update tab).id = tab.id ∧
      (update tab).previousActiveTabId = tab.previousActiveTabId) :
    (state.updateToolTab paneId tabId tool update).WellFormed := by
  apply wellFormed.updateTab
  intro tab
  split
  · exact same tab
  · exact ⟨rfl, rfl⟩

/-- A tab opened at the end of a pane. -/
theorem WellFormed.openTabInPane {paneId : String} {tab : WorkbenchTab}
    (wellFormed : state.WellFormed)
    (fresh : tab.id ∉ state.tabIds)
    (found : paneId ∈ state.paneIds) :
    (state.openTabInPane paneId tab).WellFormed :=
  wellFormed.open_tab (fun before => before ++ [tab])
    (fun before => List.perm_append_singleton tab before) fresh found

/-- Some tab of a pane is made the active one. -/
theorem WellFormed.activate {paneId : String}
    {choose : WorkbenchPane → String}
    (wellFormed : state.WellFormed)
    (found : paneId ∈ state.paneIds) :
    WellFormed { state.updatePane paneId fun pane =>
        activatePaneTab pane (choose pane) with
      activePaneId := some paneId } := by
  apply wellFormed.updatePane none _ _ _ nofun found
  · simp
  · intro pane present _
    constructor
    · exact activatePaneTab_wellFormed (wellFormed.panes pane present).nonempty
    · rw [activatePaneTab_tabIds]
      exact wellFormed.distinct.1 pane present
  · intro pane _ _ other inPane
    rw [activatePaneTab_tabIds] at inPane
    exact Or.inr inPane

theorem WellFormed.selectTab {paneId tabId : String}
    (wellFormed : state.WellFormed)
    (found : paneId ∈ state.paneIds) :
    (state.selectTab paneId tabId).WellFormed :=
  @WellFormed.activate _ _ (fun _ => tabId) wellFormed found

/-- The active pane is one of the panes. -/
theorem mem_paneIds_of_activePane {paneId : String}
    (active : truthy (state.activePane.map WorkbenchPane.id) = some paneId) :
    paneId ∈ state.paneIds := by
  have same := (Option.filter_eq_some_iff.mp active).1
  obtain ⟨pane, chosen, rfl⟩ := Option.map_eq_some_iff.mp same
  apply List.mem_map_of_mem
  unfold activePane at chosen
  cases named : state.activePaneId.bind state.findPane with
  | some found =>
      rw [named] at chosen
      cases chosen
      obtain ⟨id, -, isFound⟩ := Option.bind_eq_some_iff.mp named
      exact (findPane_eq_some isFound).1
  | none =>
      rw [named] at chosen
      exact List.mem_of_head? chosen

theorem WellFormed.openTabInActivePane {tab : WorkbenchTab}
    (wellFormed : state.WellFormed)
    (fresh : tab.id ∉ state.tabIds) :
    (state.openTabInActivePane tab).WellFormed := by
  unfold WorkbenchState.openTabInActivePane
  split
  · exact wellFormed
  · rename_i active
    exact wellFormed.openTabInPane fresh (mem_paneIds_of_activePane active)

/-- A change of one pane depends on what it does to that pane only. -/
theorem WellFormed.updatePane_congr {pane : WorkbenchPane}
    {first : WorkbenchPane → WorkbenchPane}
    (wellFormed : state.WellFormed)
    (present : pane ∈ state.panes)
    (second : WorkbenchPane → WorkbenchPane)
    (same : first pane = second pane) :
    state.updatePane pane.id first = state.updatePane pane.id second := by
  unfold WorkbenchState.updatePane
  congr 1
  apply List.map_congr_left
  intro before beforePresent
  split
  · rename_i found
    rw [wellFormed.pane_unique beforePresent present found]
    exact same
  · rfl

/-- Selecting a tool keeps the workbench well formed. -/
theorem WellFormed.selectTool {tool : WorkbenchTool} {uuid : String}
    (wellFormed : state.WellFormed)
    (fresh : tabId tool uuid ∉ state.tabIds) :
    (state.selectTool tool uuid).WellFormed := by
  unfold WorkbenchState.selectTool
  split
  · exact wellFormed
  · rename_i active
    have found := mem_paneIds_of_activePane active
    obtain ⟨pane, present, rfl⟩ := mem_paneIds.mp found
    dsimp only
    cases existing : pane.tabs.find? fun tab => tab.tool == tool with
    | some existingTab =>
        have opened := @WellFormed.activate _ _ (fun _ => existingTab.id)
          wellFormed found
        rw [wellFormed.updatePane_congr present (fun before =>
          activatePaneTab before existingTab.id) (by simp only [existing])]
        exact opened
    | none =>
        have opened := @WellFormed.openTabInPane _ _
          (createWorkbenchTab tool uuid) wellFormed fresh found
        rw [wellFormed.updatePane_congr present (fun before =>
          activatePaneTab
            { before with
              tabs := before.tabs ++ [createWorkbenchTab tool uuid] }
            (createWorkbenchTab tool uuid).id) (by simp only [existing])]
        exact opened

theorem WellFormed.focusPane {paneId : String}
    (wellFormed : state.WellFormed) :
    (state.focusPane paneId).WellFormed := by
  unfold WorkbenchState.focusPane
  split
  · exact wellFormed
  · split
    · exact wellFormed
    · rename_i found
      exact { wellFormed with
        active := ⟨paneId, not_not.mp found, rfl⟩ }

/-- A new pane with one new tab. -/
theorem WellFormed.append_pane
    {panes : List WorkbenchPane} {paneId : String} {tab : WorkbenchTab}
    (paneIds : (panes.map WorkbenchPane.id).Nodup)
    (each : ∀ pane ∈ panes, pane.WellFormed ∧ pane.tabIds.Nodup)
    (separate : Separate panes)
    (freshPane : paneId ∉ panes.map WorkbenchPane.id)
    (freshTab : ∀ pane ∈ panes, tab.id ∉ pane.tabIds)
    (alone : tab.previousActiveTabId = none) :
    WellFormed ⟨some paneId, panes ++ [⟨paneId, [tab], tab.id⟩]⟩ := by
  apply WellFormed.of_panes
  · rw [List.map_append, List.map_singleton]
    exact paneIds.append (by simp)
      (List.disjoint_singleton.mpr freshPane)
  · intro pane present
    rcases List.mem_append.mp present with before | new
    · exact each pane before
    · rw [List.mem_singleton.mp new]
      exact ⟨WorkbenchPane.wellFormed_single paneId alone,
        by simp [WorkbenchPane.tabIds]⟩
  · apply separate.of_origin fun other home => other = tab.id ∧ home = paneId
    · intro pane present other inPane
      rcases List.mem_append.mp present with before | new
      · exact Or.inr ⟨pane, before, rfl, inPane⟩
      · rw [List.mem_singleton.mp new] at inPane ⊢
        exact Or.inl ⟨by simpa [WorkbenchPane.tabIds] using inPane, rfl⟩
    · rintro other home ⟨rfl, rfl⟩ pane present inPane
      rcases List.mem_append.mp present with before | new
      · exact absurd inPane (freshTab pane before)
      · rw [List.mem_singleton.mp new]
  · simp

theorem cloneWorkbenchTab_id (tab : WorkbenchTab) (uuid : String) :
    (cloneWorkbenchTab tab uuid).id = tabId tab.tool uuid := by
  unfold cloneWorkbenchTab
  split
  · rename_i terminal
    rw [terminal]
    rfl
  · rfl

theorem cloneWorkbenchTab_previousActiveTabId
    (tab : WorkbenchTab) (uuid : String) :
    (cloneWorkbenchTab tab uuid).previousActiveTabId = none := by
  unfold cloneWorkbenchTab
  split <;> rfl

theorem fresh_tab {uuid : String} (fresh : state.fresh uuid = true)
    (tool : WorkbenchTool) : tabId tool uuid ∉ state.tabIds := by
  simp only [WorkbenchState.fresh, Bool.and_eq_true, List.all_cons,
    decide_eq_true_eq] at fresh
  obtain ⟨-, daemon, files, processes, terminal, windows, -⟩ := fresh
  cases tool with
  | daemon => exact daemon
  | files => exact files
  | processes => exact processes
  | terminal => exact terminal
  | windows => exact windows

theorem fresh_pane {uuid : String} (fresh : state.fresh uuid = true) :
    paneId uuid ∉ state.paneIds := by
  simp only [WorkbenchState.fresh, Bool.and_eq_true, decide_eq_true_eq] at fresh
  exact fresh.1

/-- Adding a pane keeps the workbench well formed. -/
theorem WellFormed.addPane
    {sourcePaneId : Option String} {paneUuid tabUuid : String}
    (wellFormed : state.WellFormed)
    (freshPane : state.fresh paneUuid = true)
    (freshTab : state.fresh tabUuid = true) :
    (state.addPane sourcePaneId paneUuid tabUuid).WellFormed := by
  have tabs (tool : WorkbenchTool) (pane : WorkbenchPane)
      (present : pane ∈ state.panes) : tabId tool tabUuid ∉ pane.tabIds :=
    fun inPane =>
      fresh_tab freshTab tool (mem_tabIds.mpr ⟨pane, present, inPane⟩)
  have each (pane : WorkbenchPane) (present : pane ∈ state.panes) :
      pane.WellFormed ∧ pane.tabIds.Nodup :=
    ⟨wellFormed.panes pane present, wellFormed.distinct.1 pane present⟩
  unfold WorkbenchState.addPane
  split
  · exact WellFormed.append_pane wellFormed.paneIds each wellFormed.distinct.2
      (fresh_pane freshPane) (tabs .files) rfl
  · rename_i source _
    apply WellFormed.append_pane wellFormed.paneIds each wellFormed.distinct.2
      (fresh_pane freshPane)
    · intro pane present
      rw [cloneWorkbenchTab_id]
      exact tabs source.tool pane present
    · exact cloneWorkbenchTab_previousActiveTabId source tabUuid

/-- Duplicating a tab keeps the workbench well formed. -/
theorem WellFormed.duplicateTab {paneId tabId uuid : String}
    (wellFormed : state.WellFormed)
    (fresh : state.fresh uuid = true) :
    (state.duplicateTab paneId tabId uuid).WellFormed := by
  unfold WorkbenchState.duplicateTab
  split
  · exact wellFormed
  · rename_i source found
    obtain ⟨pane, foundPane, -⟩ := Option.bind_eq_some_iff.mp found
    refine wellFormed.open_tab (fun before => insertTab before
      (cloneWorkbenchTab source uuid) (some tabId) .after)
      (fun before => insertTab_perm before _ _ _) ?_
      (mem_paneIds_of_findPane foundPane)
    rw [cloneWorkbenchTab_id]
    exact fresh_tab fresh source.tool

/-- Removing a pane keeps the workbench well formed. -/
theorem WellFormed.removePane {paneId : String}
    (wellFormed : state.WellFormed) :
    (state.removePane paneId).WellFormed := by
  unfold WorkbenchState.removePane
  split
  · exact wellFormed
  · rename_i several
    obtain ⟨activePaneId, active, isActive⟩ := wellFormed.active
    have fewer : ((state.panes.filter fun pane => pane.id != paneId).map
        WorkbenchPane.id) = state.paneIds.filter (· != paneId) := by
      simp [WorkbenchState.paneIds, List.filter_map, Function.comp_def]
    have each (pane : WorkbenchPane)
        (present : pane ∈ state.panes.filter fun pane => pane.id != paneId) :
        pane.WellFormed ∧ pane.tabIds.Nodup :=
      have before := List.mem_of_mem_filter present
      ⟨wellFormed.panes pane before, wellFormed.distinct.1 pane before⟩
    have distinct : ((state.panes.filter fun pane => pane.id != paneId).map
        WorkbenchPane.id).Nodup := by
      rw [fewer]
      exact wellFormed.paneIds.filter _
    have separate :
        Separate (state.panes.filter fun pane => pane.id != paneId) :=
      fun first firstPresent second secondPresent =>
        wellFormed.distinct.2 first (List.mem_of_mem_filter firstPresent)
          second (List.mem_of_mem_filter secondPresent)
    dsimp only
    split
    · have others :
          (state.panes.filter fun pane => pane.id != paneId) ≠ [] := by
        intro empty
        rw [empty, List.map_nil] at fewer
        have length :=
          length_le_one_of_filter_eq_nil wellFormed.paneIds fewer.symm
        rw [WorkbenchState.paneIds, List.length_map] at length
        exact several length
      cases remaining : state.panes.filter fun pane => pane.id != paneId with
      | nil => exact absurd remaining others
      | cons first rest =>
          rw [remaining] at distinct each separate
          exact WellFormed.of_panes distinct each separate (by simp)
    · rename_i different
      rw [isActive]
      apply WellFormed.of_panes distinct each separate
      rw [fewer]
      refine List.mem_filter.mpr ⟨active, ?_⟩
      rw [isActive, Option.some.injEq] at different
      simpa using different

/-- Closing a tab keeps the workbench well formed. -/
theorem WellFormed.closeTab {paneId tabId : String}
    (wellFormed : state.WellFormed) :
    (state.closeTab paneId tabId).WellFormed := by
  apply wellFormed.updatePane_only
  · intro pane
    split <;> rfl
  · intro pane present _
    have distinct := wellFormed.distinct.1 pane present
    split
    · exact ⟨wellFormed.panes pane present, distinct⟩
    · rename_i several
      refine ⟨WorkbenchPane.without_wellFormed fun empty => several ?_, ?_⟩
      · have none : pane.tabIds.filter (· != tabId) = [] := by
          simp [WorkbenchPane.tabIds, List.filter_map, Function.comp_def,
            empty]
        have length := length_le_one_of_filter_eq_nil distinct none
        rwa [WorkbenchPane.tabIds, List.length_map] at length
      · rw [WorkbenchPane.without_tabIds]
        exact distinct.filter _
  · intro pane _ _ other inPane
    split at inPane
    · exact inPane
    · rw [WorkbenchPane.without_tabIds] at inPane
      exact List.mem_of_mem_filter inPane

/-! ## Moving a tab -/

/-- The panes without a tab of one of them, and without that pane when it has no
other. -/
def panesWithout (state : WorkbenchState) (sourcePaneId tabId : String) :
    List WorkbenchPane :=
  state.panes.flatMap fun pane =>
    if pane.id ≠ sourcePaneId then [pane] else removeTab pane tabId

variable {sourcePaneId tabId : String}

/-- A pane that is left is another one, or the one without its tab. -/
theorem mem_panesWithout {pane : WorkbenchPane} :
    pane ∈ state.panesWithout sourcePaneId tabId ↔
      (pane ∈ state.panes ∧ pane.id ≠ sourcePaneId) ∨
        ∃ before ∈ state.panes, before.id = sourcePaneId ∧
          (before.tabs.filter fun tab => tab.id != tabId) ≠ [] ∧
            pane = before.without tabId := by
  unfold panesWithout removeTab
  rw [List.mem_flatMap]
  constructor
  · rintro ⟨before, present, left⟩
    split at left
    · rename_i different
      rw [List.mem_singleton.mp left]
      exact Or.inl ⟨present, different⟩
    · rename_i same
      split at left
      · cases left
      · rename_i others
        exact Or.inr ⟨before, present, not_not.mp same,
          by simpa using others, List.mem_singleton.mp left⟩
  · rintro (⟨present, different⟩ | ⟨before, present, same, others, rfl⟩)
    · exact ⟨pane, present, by simp [different]⟩
    · exact ⟨before, present, by simpa [same] using others⟩

/-- Taking a tab out leaves the panes in order. -/
theorem panesWithout_ids_sublist :
    ((state.panesWithout sourcePaneId tabId).map WorkbenchPane.id).Sublist
      state.paneIds := by
  unfold panesWithout WorkbenchState.paneIds
  induction state.panes with
  | nil => simp
  | cons pane panes inductionHypothesis =>
      have one : ((if pane.id ≠ sourcePaneId then [pane]
          else removeTab pane tabId).map WorkbenchPane.id).Sublist
          [pane.id] := by
        split
        · simp
        · unfold removeTab
          split <;> simp
      rw [List.flatMap_cons, List.map_append, List.map_cons]
      exact one.append inductionHypothesis

/-- What is left is well-formed, pane by pane. -/
theorem WellFormed.panesWithout (wellFormed : state.WellFormed) :
    ((state.panesWithout sourcePaneId tabId).map WorkbenchPane.id).Nodup ∧
      (∀ pane ∈ state.panesWithout sourcePaneId tabId,
        pane.WellFormed ∧ pane.tabIds.Nodup) ∧
      Separate (state.panesWithout sourcePaneId tabId) := by
  refine ⟨panesWithout_ids_sublist.nodup wellFormed.paneIds, ?_, ?_⟩
  · intro pane present
    rcases mem_panesWithout.mp present with
      ⟨before, -⟩ | ⟨before, beforePresent, -, others, rfl⟩
    · exact ⟨wellFormed.panes pane before, wellFormed.distinct.1 pane before⟩
    · refine ⟨WorkbenchPane.without_wellFormed others, ?_⟩
      rw [WorkbenchPane.without_tabIds]
      exact (wellFormed.distinct.1 before beforePresent).filter _
  · apply wellFormed.distinct.2.of_origin fun _ _ => False
    · intro pane present other inPane
      right
      rcases mem_panesWithout.mp present with
        ⟨before, -⟩ | ⟨before, beforePresent, -, -, rfl⟩
      · exact ⟨pane, before, rfl, inPane⟩
      · rw [WorkbenchPane.without_tabIds] at inPane
        exact ⟨before, beforePresent, rfl, List.mem_of_mem_filter inPane⟩
    · exact fun _ _ added => added.elim

/-- The tab is gone from what is left. -/
theorem WellFormed.not_mem_panesWithout {sourcePane : WorkbenchPane}
    (wellFormed : state.WellFormed)
    (found : state.findPane sourcePaneId = some sourcePane)
    (inSource : tabId ∈ sourcePane.tabIds) :
    ∀ pane ∈ state.panesWithout sourcePaneId tabId, tabId ∉ pane.tabIds := by
  obtain ⟨sourcePresent, sameSource⟩ := findPane_eq_some found
  intro pane present inPane
  rcases mem_panesWithout.mp present with
    ⟨before, different⟩ | ⟨before, -, -, -, rfl⟩
  · apply different
    rw [← sameSource]
    exact wellFormed.distinct.2 pane before sourcePane sourcePresent tabId
      inPane inSource
  · rw [WorkbenchPane.without_tabIds] at inPane
    simp at inPane

/-- Moving a tab to a new pane keeps the workbench well formed. -/
theorem WellFormed.moveTabToNewPane {targetPaneId uuid : String}
    (wellFormed : state.WellFormed)
    (fresh : state.fresh uuid = true) :
    (state.moveTabToNewPane sourcePaneId tabId targetPaneId
      uuid).WellFormed := by
  unfold WorkbenchState.moveTabToNewPane
  split
  · exact wellFormed
  · rename_i sourcePane found
    split
    · exact wellFormed
    · rename_i movingTab foundTab
      split
      · exact wellFormed
      · obtain ⟨present, same⟩ := WorkbenchPane.findTab_eq_some foundTab
        obtain ⟨paneIds, each, separate⟩ :=
          @WellFormed.panesWithout _ sourcePaneId tabId wellFormed
        refine WellFormed.append_pane paneIds each separate ?_ ?_ rfl
        · intro inside
          exact fresh_pane fresh (panesWithout_ids_sublist.mem inside)
        · rw [same]
          apply wellFormed.not_mem_panesWithout found
          rw [← same]
          exact List.mem_map_of_mem present

/-- A tab moves within its pane. -/
theorem WellFormed.moveTab_within
    {targetTabId : Option String} {position : TabDropPosition}
    (wellFormed : state.WellFormed)
    (found : sourcePaneId ∈ state.paneIds) :
    WellFormed { state.updatePane sourcePaneId fun pane =>
        moveTabWithinPane pane tabId targetTabId position with
      activePaneId := some sourcePaneId } := by
  apply wellFormed.updatePane none _ _ _ nofun found
  · simp
  · intro pane present _
    exact ⟨moveTabWithinPane_wellFormed (wellFormed.panes pane present),
      (moveTabWithinPane_tabIds (wellFormed.distinct.1 pane present)).1⟩
  · intro pane present _ other inPane
    exact Or.inr ((moveTabWithinPane_tabIds
      (wellFormed.distinct.1 pane present)).2 other inPane)

/-- A tab is taken out of its pane and put in another one. -/
theorem WellFormed.moveTab_between
    {targetPaneId : String} {targetTabId : Option String}
    {position : TabDropPosition}
    {sourcePane : WorkbenchPane} {movingTab : WorkbenchTab}
    (wellFormed : state.WellFormed)
    (found : state.findPane sourcePaneId = some sourcePane)
    (foundTab : sourcePane.findTab tabId = some movingTab)
    (target : targetPaneId ∈ state.paneIds)
    (different : sourcePaneId ≠ targetPaneId) :
    WellFormed { (WorkbenchState.mk (some targetPaneId)
          (state.panesWithout sourcePaneId tabId)).updatePane targetPaneId
        fun pane => activatePaneTab
          { pane with
            tabs := insertTab pane.tabs movingTab targetTabId position }
          movingTab.id with
      activePaneId := some targetPaneId } := by
  obtain ⟨present, same⟩ := WorkbenchPane.findTab_eq_some foundTab
  obtain ⟨paneIds, each, separate⟩ :=
    @WellFormed.panesWithout _ sourcePaneId tabId wellFormed
  have left : targetPaneId ∈
      (state.panesWithout sourcePaneId tabId).map WorkbenchPane.id := by
    obtain ⟨pane, panePresent, rfl⟩ := mem_paneIds.mp target
    exact List.mem_map_of_mem
      (mem_panesWithout.mpr (Or.inl ⟨panePresent, different.symm⟩))
  have without := WellFormed.of_panes paneIds each separate left
  apply without.open_tab
    (fun before => insertTab before movingTab targetTabId position)
    (fun before => insertTab_perm before _ _ _) _ left
  intro inside
  obtain ⟨pane, panePresent, inPane⟩ := mem_tabIds.mp inside
  rw [same] at inPane
  refine wellFormed.not_mem_panesWithout found ?_ pane panePresent inPane
  rw [← same]
  exact List.mem_map_of_mem present

section Move

variable {targetPaneId : String} {targetTabId : Option String}
  {position : TabDropPosition} {sourcePane : WorkbenchPane}
  {movingTab : WorkbenchTab}

/-- A move within a pane changes that pane. -/
theorem moveTab_eq_within
    (found : state.findPane sourcePaneId = some sourcePane)
    (foundTab : sourcePane.findTab tabId = some movingTab) :
    state.moveTab sourcePaneId tabId sourcePaneId targetTabId position =
      { state.updatePane sourcePaneId fun pane =>
          moveTabWithinPane pane tabId targetTabId position with
        activePaneId := some sourcePaneId } := by
  simp only [WorkbenchState.moveTab, found, foundTab, true_and,
    WorkbenchState.updatePane, List.map_eq_flatMap, WorkbenchState.mk.injEq]
  congr 1
  funext pane
  split <;> rfl

/-- A move between two panes takes the tab out of one and puts it in the
other. -/
theorem moveTab_eq_between
    (found : state.findPane sourcePaneId = some sourcePane)
    (foundTab : sourcePane.findTab tabId = some movingTab)
    (target : targetPaneId ∈ state.paneIds)
    (different : sourcePaneId ≠ targetPaneId) :
    state.moveTab sourcePaneId tabId targetPaneId targetTabId position =
      { (WorkbenchState.mk (some targetPaneId)
            (state.panesWithout sourcePaneId tabId)).updatePane targetPaneId
          fun pane => activatePaneTab
            { pane with
              tabs := insertTab pane.tabs movingTab targetTabId position }
            movingTab.id with
        activePaneId := some targetPaneId } := by
  cases foundTarget : state.findPane targetPaneId with
  | none =>
      obtain ⟨pane, present, same⟩ := mem_paneIds.mp target
      have missing := List.find?_eq_none.mp foundTarget pane present
      simp [same] at missing
  | some targetPane =>
      simp only [WorkbenchState.moveTab, found, foundTab, foundTarget,
        different, false_and, if_false, WorkbenchState.updatePane,
        WorkbenchState.panesWithout, List.map_flatMap,
        WorkbenchState.mk.injEq, true_and]
      congr 1
      funext pane
      by_cases isSource : pane.id = sourcePaneId
      · have notTarget : pane.id ≠ targetPaneId :=
          fun isTarget => different (isSource.symm.trans isTarget)
        simp only [isSource, if_true, ne_eq, not_true_eq_false, if_false,
          removeTab]
        split
        · rfl
        · simp [notTarget]
      · simp only [isSource, if_false, ne_eq, not_false_eq_true, if_true,
          List.map_cons, List.map_nil]
        split <;> rfl

/-- What a move does: nothing unless the tab and both panes are found. -/
theorem moveTab_cases
    (sourcePaneId tabId targetPaneId : String)
    (targetTabId : Option String) (position : TabDropPosition) :
    state.moveTab sourcePaneId tabId targetPaneId targetTabId position =
        state ∨
      ∃ sourcePane movingTab,
        state.findPane sourcePaneId = some sourcePane ∧
          sourcePane.findTab tabId = some movingTab ∧
            targetPaneId ∈ state.paneIds := by
  cases found : state.findPane sourcePaneId with
  | none => exact Or.inl (by simp only [WorkbenchState.moveTab, found])
  | some sourcePane =>
      cases foundTarget : state.findPane targetPaneId with
      | none =>
          exact Or.inl (by simp only [WorkbenchState.moveTab, found,
            foundTarget])
      | some targetPane =>
          cases foundTab : sourcePane.findTab tabId with
          | none =>
              exact Or.inl (by simp only [WorkbenchState.moveTab, found,
                foundTarget, foundTab])
          | some movingTab =>
              exact Or.inr ⟨sourcePane, movingTab, rfl, foundTab,
                mem_paneIds_of_findPane foundTarget⟩

/-- Moving a tab keeps the workbench well formed. -/
theorem WellFormed.moveTab (wellFormed : state.WellFormed) :
    (state.moveTab sourcePaneId tabId targetPaneId targetTabId
      position).WellFormed := by
  rcases state.moveTab_cases sourcePaneId tabId targetPaneId targetTabId
      position with same | ⟨sourcePane, movingTab, found, foundTab, target⟩
  · rw [same]
    exact wellFormed
  · by_cases within : sourcePaneId = targetPaneId
    · subst within
      rw [moveTab_eq_within found foundTab]
      exact wellFormed.moveTab_within target
    · rw [moveTab_eq_between found foundTab target within]
      exact wellFormed.moveTab_between found foundTab target within

end Move

/-! ## Every operation -/

/-- An operation that does not assume a pane keeps the workbench
well-formed. -/
theorem WellFormed.apply {operation : WorkbenchOperation}
    (wellFormed : state.WellFormed)
    (fresh : ∀ uuid ∈ operation.uuids, state.fresh uuid = true)
    (known : ∀ paneId, operation.assumedPane = some paneId →
      paneId ∈ state.paneIds) :
    (state.apply operation).WellFormed := by
  have freshTab {uuid : String} (generated : uuid ∈ operation.uuids)
      (tool : WorkbenchTool) : Web.tabId tool uuid ∉ state.tabIds :=
    fresh_tab (fresh uuid generated) tool
  cases operation with
  | selectTool tool uuid =>
      exact wellFormed.selectTool (freshTab (by simp [WorkbenchOperation.uuids])
        tool)
  | focusPane paneId => exact wellFormed.focusPane
  | addPane source paneUuid tabUuid =>
      exact wellFormed.addPane (fresh _ (by simp [WorkbenchOperation.uuids]))
        (fresh _ (by simp [WorkbenchOperation.uuids]))
  | removePane paneId => exact wellFormed.removePane
  | addDaemonTab paneId uuid =>
      exact wellFormed.openTabInPane
        (freshTab (by simp [WorkbenchOperation.uuids]) .daemon) (known _ rfl)
  | addFilesTab paneId config uuid =>
      exact wellFormed.openTabInPane
        (freshTab (by simp [WorkbenchOperation.uuids]) .files) (known _ rfl)
  | addProcessesTab paneId config uuid =>
      exact wellFormed.openTabInPane
        (freshTab (by simp [WorkbenchOperation.uuids]) .processes)
        (known _ rfl)
  | addWindowsTab paneId config uuid =>
      exact wellFormed.openTabInPane
        (freshTab (by simp [WorkbenchOperation.uuids]) .windows) (known _ rfl)
  | addTerminalTab paneId config uuid =>
      exact wellFormed.openTabInPane
        (freshTab (by simp [WorkbenchOperation.uuids]) .terminal) (known _ rfl)
  | openFilesTab config uuid =>
      exact wellFormed.openTabInActivePane
        (freshTab (by simp [WorkbenchOperation.uuids]) .files)
  | openTerminalTab config uuid =>
      exact wellFormed.openTabInActivePane
        (freshTab (by simp [WorkbenchOperation.uuids]) .terminal)
  | duplicateTab paneId tabId uuid =>
      exact wellFormed.duplicateTab
        (fresh _ (by simp [WorkbenchOperation.uuids]))
  | selectTab paneId tabId => exact wellFormed.selectTab (known _ rfl)
  | closeTab paneId tabId => exact wellFormed.closeTab
  | moveTab source tabId target targetTabId position => exact wellFormed.moveTab
  | moveTabToNewPane source tabId target uuid =>
      exact wellFormed.moveTabToNewPane
        (fresh _ (by simp [WorkbenchOperation.uuids]))
  | setDaemonClientDetailId paneId tabId value =>
      exact wellFormed.updateToolTab fun _ => ⟨rfl, rfl⟩
  | setDaemonClientsPageOpen paneId tabId value =>
      exact wellFormed.updateToolTab fun _ => ⟨rfl, rfl⟩
  | setProcessDetailPid paneId tabId value =>
      exact wellFormed.updateToolTab fun _ => ⟨rfl, rfl⟩
  | setProcessPage paneId tabId page =>
      apply wellFormed.updateToolTab
      intro tab
      split <;> exact ⟨rfl, rfl⟩
  | setWindowDetailId paneId tabId value =>
      exact wellFormed.updateToolTab fun _ => ⟨rfl, rfl⟩
  | setTabDirty paneId tabId dirty =>
      apply wellFormed.updateTab
      intro tab
      split <;> exact ⟨rfl, rfl⟩
  | setTerminalSessionSnapshot paneId tabId snapshot =>
      exact wellFormed.updateToolTab fun _ => ⟨rfl, rfl⟩
  | setTerminalSessionId paneId tabId value =>
      exact wellFormed.updateToolTab fun _ => ⟨rfl, rfl⟩

/-- A pane that does not exist is made the active one. -/
theorem not_wellFormed_of_stale {operation : WorkbenchOperation}
    {paneId : String}
    (assumed : operation.assumedPane = some paneId)
    (gone : paneId ∉ state.paneIds) :
    ¬ (state.apply operation).WellFormed := by
  intro wellFormed
  obtain ⟨activePaneId, active, isActive⟩ := wellFormed.active
  have stays : (state.apply operation).activePaneId = some paneId ∧
      (state.apply operation).paneIds = state.paneIds := by
    cases operation <;> cases assumed <;>
      exact ⟨rfl, paneIds_updatePane fun pane => activatePaneTab_id _ _⟩
  rw [stays.1] at isActive
  cases isActive
  rw [stays.2] at active
  exact gone active

/-- An operation keeps the workbench well-formed exactly when it is not
stale. -/
theorem WellFormed.apply_iff {operation : WorkbenchOperation}
    (wellFormed : state.WellFormed)
    (fresh : ∀ uuid ∈ operation.uuids, state.fresh uuid = true) :
    (state.apply operation).WellFormed ↔ operation.stale state = false := by
  unfold WorkbenchOperation.stale
  cases assumed : operation.assumedPane with
  | none =>
      have kept := wellFormed.apply fresh
        (fun paneId isAssumed => by rw [assumed] at isAssumed; cases isAssumed)
      simpa using kept
  | some paneId =>
      by_cases found : paneId ∈ state.paneIds
      · have kept := wellFormed.apply fresh (fun other isAssumed => by
          rw [assumed] at isAssumed
          cases isAssumed
          exact found)
        simpa [found] using kept
      · simpa [found] using not_wellFormed_of_stale assumed found

/-- A tab that is put in a pane that exists is there. -/
theorem mem_tabIds_updatePane
    {paneId tabId : String} {update : WorkbenchPane → WorkbenchPane}
    {activePaneId : Option String}
    (found : paneId ∈ state.paneIds)
    (placed : ∀ pane, tabId ∈ (update pane).tabIds) :
    tabId ∈ WorkbenchState.tabIds
      { state.updatePane paneId update with activePaneId } := by
  obtain ⟨pane, present, rfl⟩ := mem_paneIds.mp found
  exact mem_tabIds.mpr ⟨update pane,
    mem_panes_updatePane.mpr ⟨pane, present, by simp⟩, placed pane⟩

theorem mem_tabIds_openTabInPane {paneId : String} {tab : WorkbenchTab}
    (found : paneId ∈ state.paneIds) :
    tab.id ∈ (state.openTabInPane paneId tab).tabIds := by
  apply mem_tabIds_updatePane found
  intro pane
  rw [activatePaneTab_tabIds]
  simp [WorkbenchPane.tabIds]

/-- A tab that an operation reports is in the workbench. -/
theorem reported_placed {operation : WorkbenchOperation} {tabId : String}
    (known : operation.stale state = false)
    (reported : operation.report state = some tabId) :
    tabId ∈ (state.apply operation).tabIds := by
  have found {paneId : String}
      (assumed : operation.assumedPane = some paneId) :
      paneId ∈ state.paneIds := by
    simpa [WorkbenchOperation.stale, assumed] using known
  cases operation with
  | addDaemonTab paneId uuid =>
      cases reported
      exact mem_tabIds_openTabInPane (found rfl)
  | addFilesTab paneId config uuid =>
      cases reported
      exact mem_tabIds_openTabInPane (found rfl)
  | addProcessesTab paneId config uuid =>
      cases reported
      exact mem_tabIds_openTabInPane (found rfl)
  | addWindowsTab paneId config uuid =>
      cases reported
      exact mem_tabIds_openTabInPane (found rfl)
  | duplicateTab paneId source uuid =>
      obtain ⟨sourceTab, isSource, rfl⟩ := Option.map_eq_some_iff.mp reported
      obtain ⟨pane, isPane, -⟩ := Option.bind_eq_some_iff.mp isSource
      simp only [WorkbenchState.apply, WorkbenchState.duplicateTab, isSource]
      apply mem_tabIds_updatePane (mem_paneIds_of_findPane isPane)
      intro pane
      rw [activatePaneTab_tabIds]
      exact mem_insertTab_ids.mpr (Or.inl rfl)
  | _ => cases reported

end WorkbenchState

/-! ## Every run -/

/-- In every state of a run the workbench is well-formed, and every tab that an
operation reports is in the workbench after it, exactly when no operation opens
or selects a tab of a pane that does not exist. -/
theorem workbench_stays_wellFormed
    (paneUuid tabUuid : String)
    {history : List WorkbenchOperation} {final : WorkbenchState}
    (reached : run WorkbenchState.step (.initial paneUuid tabUuid) history =
      some final) :
    ((∀ early late state, history = early ++ late →
        run WorkbenchState.step (.initial paneUuid tabUuid) early =
            some state →
          state.WellFormed) ∧
      ∀ before operation after (state next : WorkbenchState) tabId,
        history = before ++ operation :: after →
        run WorkbenchState.step (.initial paneUuid tabUuid) before =
            some state →
        state.step operation = some next →
        operation.report state = some tabId →
          tabId ∈ next.tabIds) ↔
      Throughout WorkbenchState.step (.initial paneUuid tabUuid)
        (fun state operation => operation.stale state = false) history := by
  have wellFormed := holds_iff_throughout
    (WorkbenchState.WellFormed.initial paneUuid tabUuid)
    (fun _ state operation next _ wellFormed taken => by
      unfold WorkbenchState.step at taken
      split at taken
      · rename_i fresh
        cases taken
        exact wellFormed.apply_iff (List.all_eq_true.mp fresh)
      · cases taken) reached
  constructor
  · intro both
    exact wellFormed.mp both.1
  · intro throughout
    refine ⟨wellFormed.mpr throughout, ?_⟩
    intro before operation after state next tabId shape there taken reported
    unfold WorkbenchState.step at taken
    split at taken
    · cases taken
      exact WorkbenchState.reported_placed
        (throughout before operation after state shape there) reported
    · cases taken

/-- A tab is opened next to another, moved to a pane of its own, and its pane
is removed when it moves back. -/
def movedHistory : List WorkbenchOperation :=
  [.addFilesTab "pane-a" {} "c", .duplicateTab "pane-a" "files-c" "d",
    .moveTabToNewPane "pane-a" "files-d" "pane-a" "e",
    .focusPane "gone", .closeTab "pane-a" "files-b",
    .moveTab "pane-e" "files-d" "pane-a" (some "files-c") .before]

/-- A workbench after moves, with its tabs. -/
theorem workbench_stays_wellFormed_moved :
    ∃ state, run WorkbenchState.step (.initial "a" "b") movedHistory =
        some state ∧
      state.panes.map WorkbenchPane.tabIds = [["files-d", "files-c"]] ∧
      state.WellFormed := by
  have ends : (run WorkbenchState.step (.initial "a" "b") movedHistory).map
      (fun state => state.panes.map WorkbenchPane.tabIds) =
        some [["files-d", "files-c"]] := by
    rfl
  obtain ⟨state, reached, tabs⟩ := Option.map_eq_some_iff.mp ends
  have both := (workbench_stays_wellFormed "a" "b" reached).mpr
    (throughout_of_checkEach_eq_false (by rfl))
  exact ⟨state, reached, tabs, both.1 movedHistory [] state (by simp) reached⟩

/-- A tab is opened in a pane that does not exist: its id is reported, but no
pane has it, and the active pane is none of the panes. -/
theorem reported_tab_is_missing :
    ∃ state, run WorkbenchState.step (.initial "a" "b")
        [.addFilesTab "gone" {} "c"] = some state ∧
      (WorkbenchOperation.addFilesTab "gone" {} "c").report
        (.initial "a" "b") = some "files-c" ∧
      "files-c" ∉ state.tabIds ∧ ¬ state.WellFormed := by
  refine ⟨_, rfl, rfl, by decide, fun wellFormed => ?_⟩
  obtain ⟨activePaneId, active, isActive⟩ := wellFormed.active
  cases isActive
  revert active
  decide

end Web
end WhatsGoingOn
