import WhatsGoingOn.Web.WorkbenchPanes

/-!
# What tabs contain

The content of a tab is all of it but the tab that it was opened from.  Tabs
that are moved keep their contents, and so do those beside a tab that is opened,
closed or changed.
-/

namespace WhatsGoingOn
namespace Web

/-- A tab without the one that it was opened from. -/
def WorkbenchTab.content (tab : WorkbenchTab) : WorkbenchTab :=
  { tab with previousActiveTabId := none }

@[simp] theorem WorkbenchTab.content_id (tab : WorkbenchTab) :
    tab.content.id = tab.id := rfl

/-- What the tabs of a pane show. -/
def WorkbenchPane.contents (pane : WorkbenchPane) : List WorkbenchTab :=
  pane.tabs.map WorkbenchTab.content

/-- What the tabs of all panes show. -/
def WorkbenchState.contents (state : WorkbenchState) : List WorkbenchTab :=
  state.panes.flatMap WorkbenchPane.contents

/-! ## One pane -/

section Pane

variable {pane : WorkbenchPane} {tab content : WorkbenchTab} {tabId : String}

@[simp] theorem normalizePaneTabHistory_contents (pane : WorkbenchPane) :
    (normalizePaneTabHistory pane).contents = pane.contents := by
  simp only [normalizePaneTabHistory, WorkbenchPane.contents, List.map_map]
  rfl

/-- Showing a tab changes no contents. -/
@[simp] theorem activatePaneTab_contents
    (pane : WorkbenchPane) (tabId : String) :
    (activatePaneTab pane tabId).contents = pane.contents := by
  unfold activatePaneTab
  split
  · exact normalizePaneTabHistory_contents pane
  · split
    · exact normalizePaneTabHistory_contents pane
    · rw [normalizePaneTabHistory_contents]
      simp only [WorkbenchPane.contents, List.map_map]
      apply List.map_congr_left
      intro tab _
      simp only [Function.comp_apply]
      split <;> rfl

theorem WorkbenchPane.without_contents (pane : WorkbenchPane)
    (tabId : String) :
    (pane.without tabId).contents =
      pane.contents.filter fun content => content.id != tabId := by
  simp only [WorkbenchPane.without, normalizePaneTabHistory_contents]
  simp [WorkbenchPane.contents, List.filter_map, Function.comp_def]

theorem removeTab_contents (pane : WorkbenchPane) (tabId : String) :
    (WorkbenchState.removeTab pane tabId).flatMap WorkbenchPane.contents =
      pane.contents.filter fun content => content.id != tabId := by
  unfold WorkbenchState.removeTab
  split
  · rename_i empty
    rw [List.isEmpty_iff] at empty
    simp [WorkbenchPane.contents, List.filter_map, Function.comp_def, empty]
  · rw [List.flatMap_singleton, WorkbenchPane.without_contents]

/-- The contents of a pane when one tab has been added to some tabs. -/
theorem mem_contents_of_perm {tabs before : List WorkbenchTab}
    (added : tabs.Perm (tab :: before)) :
    content ∈ WorkbenchPane.contents { pane with tabs } ↔
      content = tab.content ∨ content ∈ before.map WorkbenchTab.content := by
  rw [WorkbenchPane.contents, (added.map WorkbenchTab.content).mem_iff,
    List.map_cons, List.mem_cons]

/-- The content that is found has its id to itself in its pane. -/
theorem WorkbenchPane.content_unique
    (distinct : pane.tabIds.Nodup)
    (found : pane.findTab tabId = some tab)
    (present : content ∈ pane.contents) (same : content.id = tabId) :
    content = tab.content := by
  obtain ⟨tabPresent, rfl⟩ := WorkbenchPane.findTab_eq_some found
  obtain ⟨other, otherPresent, rfl⟩ := List.mem_map.mp present
  exact congrArg WorkbenchTab.content
    (List.inj_on_of_nodup_map distinct otherPresent tabPresent same)

/-- Moving a tab within its pane changes no contents. -/
theorem mem_contents_moveTabWithinPane
    {targetTabId : Option String} {position : TabDropPosition}
    (distinct : pane.tabIds.Nodup) :
    content ∈ (moveTabWithinPane pane tabId targetTabId position).contents ↔
      content ∈ pane.contents := by
  unfold moveTabWithinPane
  split
  · exact Iff.rfl
  · split
    · exact Iff.rfl
    · rename_i movingTab found
      have moving := (WorkbenchPane.findTab_eq_some found).1
      rw [activatePaneTab_contents,
        mem_contents_of_perm (insertTab_perm _ movingTab targetTabId position)]
      constructor
      · rintro (rfl | left)
        · exact List.mem_map_of_mem moving
        · obtain ⟨tab, remaining, rfl⟩ := List.mem_map.mp left
          exact List.mem_map_of_mem (List.mem_of_mem_filter remaining)
      · intro present
        by_cases same : content.id = tabId
        · exact Or.inl
            (WorkbenchPane.content_unique distinct found present same)
        · obtain ⟨tab, tabPresent, rfl⟩ := List.mem_map.mp present
          right
          exact List.mem_map_of_mem
            (List.mem_filter.mpr ⟨tabPresent, by simpa using same⟩)

end Pane

namespace WorkbenchState

variable {state : WorkbenchState} {content : WorkbenchTab}

/-- The panes of a well-formed workbench, whichever pane is active. -/
def Sturdy (panes : List WorkbenchPane) : Prop :=
  ∃ activePaneId, WellFormed ⟨some activePaneId, panes⟩

theorem WellFormed.sturdy (wellFormed : state.WellFormed) :
    Sturdy state.panes := by
  obtain ⟨paneId, -, active⟩ := wellFormed.active
  refine ⟨paneId, ?_⟩
  rw [← active]
  exact wellFormed

theorem Sturdy.distinct (sturdy : Sturdy state.panes) :
    (∀ pane ∈ state.panes, pane.tabIds.Nodup) ∧ Separate state.panes := by
  obtain ⟨activePaneId, wellFormed⟩ := sturdy
  exact wellFormed.distinct

theorem mem_contents :
    content ∈ state.contents ↔
      ∃ pane ∈ state.panes, content ∈ pane.contents :=
  List.mem_flatMap

/-- A content of a pane has an id of the pane. -/
theorem mem_tabIds_of_contents {pane : WorkbenchPane}
    (present : content ∈ pane.contents) : content.id ∈ pane.tabIds := by
  obtain ⟨tab, tabPresent, rfl⟩ := List.mem_map.mp present
  exact List.mem_map.mpr ⟨tab, tabPresent, rfl⟩

theorem contents_ids (state : WorkbenchState) :
    state.contents.map WorkbenchTab.id = state.tabIds := by
  rw [contents, tabIds, List.map_flatMap]
  congr 1
  funext pane
  rw [WorkbenchPane.contents, List.map_map]
  rfl

/-- No two contents have the same id. -/
theorem Sturdy.content_inj {first second : WorkbenchTab}
    (sturdy : Sturdy state.panes) (firstPresent : first ∈ state.contents)
    (secondPresent : second ∈ state.contents) (same : first.id = second.id) :
    first = second := by
  obtain ⟨activePaneId, wellFormed⟩ := sturdy
  have distinct : (state.contents.map WorkbenchTab.id).Nodup := by
    rw [contents_ids]
    exact wellFormed.tabIds
  exact List.inj_on_of_nodup_map distinct firstPresent secondPresent same

/-- The content that is found has its id to itself in the workbench. -/
theorem Sturdy.content_unique {paneId tabId : String} {pane : WorkbenchPane}
    {tab : WorkbenchTab}
    (sturdy : Sturdy state.panes)
    (found : state.findPane paneId = some pane)
    (foundTab : pane.findTab tabId = some tab) :
    ∀ other ∈ state.panes, ∀ content ∈ other.contents, content.id = tabId →
      other.id = paneId ∧ content = tab.content := by
  obtain ⟨panePresent, rfl⟩ := findPane_eq_some found
  obtain ⟨tabPresent, rfl⟩ := WorkbenchPane.findTab_eq_some foundTab
  intro other otherPresent content inOther same
  have inOtherIds : tab.id ∈ other.tabIds :=
    same ▸ mem_tabIds_of_contents inOther
  have inPaneIds : tab.id ∈ pane.tabIds := List.mem_map_of_mem tabPresent
  have here := sturdy.distinct.2 other otherPresent pane panePresent tab.id
    inOtherIds inPaneIds
  obtain ⟨activePaneId, wellFormed⟩ := sturdy
  have onePane := wellFormed.pane_unique otherPresent panePresent here
  subst onePane
  exact ⟨rfl, WorkbenchPane.content_unique
    (wellFormed.distinct.1 other otherPresent) foundTab inOther same⟩

/-! ## Opening, closing and changing a tab -/

theorem mem_contents_updatePane {paneId : String}
    {update : WorkbenchPane → WorkbenchPane} {activePaneId : Option String} :
    content ∈ contents
        { state.updatePane paneId update with activePaneId } ↔
      ∃ pane ∈ state.panes,
        content ∈ (if pane.id = paneId then update pane
          else pane).contents := by
  simp only [contents, updatePane, List.mem_flatMap, List.mem_map,
    exists_exists_and_eq_and]

/-- A tab that is opened in a pane adds its content. -/
theorem mem_contents_open {paneId : String} {tab : WorkbenchTab}
    {tabs : List WorkbenchTab → List WorkbenchTab}
    (opened : ∀ before, (tabs before).Perm (tab :: before)) :
    content ∈ contents { state.updatePane paneId fun pane =>
        activatePaneTab { pane with tabs := tabs pane.tabs } tab.id with
      activePaneId := some paneId } ↔
      content ∈ state.contents ∨
        (paneId ∈ state.paneIds ∧ content = tab.content) := by
  rw [mem_contents_updatePane, mem_contents, mem_paneIds]
  constructor
  · rintro ⟨pane, present, inside⟩
    split at inside
    · rename_i found
      rw [activatePaneTab_contents, mem_contents_of_perm (opened _)] at inside
      rcases inside with isNew | before
      · exact Or.inr ⟨⟨pane, present, found⟩, isNew⟩
      · exact Or.inl ⟨pane, present, before⟩
    · exact Or.inl ⟨pane, present, inside⟩
  · rintro (⟨pane, present, inside⟩ | ⟨⟨pane, present, found⟩, isNew⟩)
    · refine ⟨pane, present, ?_⟩
      split
      · rw [activatePaneTab_contents, mem_contents_of_perm (opened _)]
        exact Or.inr inside
      · exact inside
    · refine ⟨pane, present, ?_⟩
      rw [if_pos found, activatePaneTab_contents,
        mem_contents_of_perm (opened _)]
      exact Or.inl isNew

theorem mem_contents_openTabInPane {paneId : String} {tab : WorkbenchTab} :
    content ∈ (state.openTabInPane paneId tab).contents ↔
      content ∈ state.contents ∨
        (paneId ∈ state.paneIds ∧ content = tab.content) :=
  @mem_contents_open _ _ _ _ (fun before => before ++ [tab])
    fun before => List.perm_append_singleton tab before

/-- The tabs that are closed with a tab: it has to have others beside it. -/
def closedTabs (state : WorkbenchState) (paneId tabId : String) :
    List WorkbenchTab :=
  (state.panes.filter fun pane =>
    pane.id = paneId ∧ 1 < pane.tabs.length).flatMap fun pane =>
      pane.tabs.filter fun tab => tab.id = tabId

/-- The tabs that are closed with a pane: there have to be others. -/
def removedTabs (state : WorkbenchState) (paneId : String) :
    List WorkbenchTab :=
  if state.panes.length ≤ 1 then []
  else (state.panes.filter fun pane => pane.id = paneId).flatMap
    WorkbenchPane.tabs

theorem content_of_closedTabs {paneId tabId : String} {tab : WorkbenchTab}
    (closed : tab ∈ state.closedTabs paneId tabId) :
    tab.content ∈ state.contents := by
  obtain ⟨pane, present, inside⟩ := List.mem_flatMap.mp closed
  exact mem_contents.mpr ⟨pane, List.mem_of_mem_filter present,
    List.mem_map_of_mem (List.mem_of_mem_filter inside)⟩

theorem content_of_removedTabs {paneId : String} {tab : WorkbenchTab}
    (removed : tab ∈ state.removedTabs paneId) :
    tab.content ∈ state.contents := by
  unfold removedTabs at removed
  split at removed
  · cases removed
  · obtain ⟨pane, present, inside⟩ := List.mem_flatMap.mp removed
    exact mem_contents.mpr ⟨pane, List.mem_of_mem_filter present,
      List.mem_map_of_mem inside⟩

theorem mem_contents_of_closeTab {paneId tabId : String}
    (left : content ∈ (state.closeTab paneId tabId).contents) :
    content ∈ state.contents := by
  obtain ⟨pane, present, inside⟩ := mem_contents_updatePane.mp left
  refine mem_contents.mpr ⟨pane, present, ?_⟩
  split at inside
  · split at inside
    · exact inside
    · rw [WorkbenchPane.without_contents] at inside
      exact List.mem_of_mem_filter inside
  · exact inside

/-- Closing a tab keeps what other tabs show. -/
theorem mem_contents_closeTab {paneId tabId : String}
    (present : content ∈ state.contents)
    (stays : content.id ∉
      (state.closedTabs paneId tabId).map WorkbenchTab.id) :
    content ∈ (state.closeTab paneId tabId).contents := by
  obtain ⟨pane, panePresent, inside⟩ := mem_contents.mp present
  refine mem_contents_updatePane.mpr ⟨pane, panePresent, ?_⟩
  split
  · rename_i found
    split
    · exact inside
    · rename_i several
      rw [WorkbenchPane.without_contents]
      refine List.mem_filter.mpr ⟨inside, ?_⟩
      rw [bne_iff_ne]
      intro same
      obtain ⟨tab, tabPresent, rfl⟩ := List.mem_map.mp inside
      apply stays
      refine List.mem_map.mpr
        ⟨tab, List.mem_flatMap.mpr ⟨pane, ?_, ?_⟩, rfl⟩
      · refine List.mem_filter.mpr ⟨panePresent, ?_⟩
        simpa [found] using several
      · exact List.mem_filter.mpr ⟨tabPresent, by simpa using same⟩
  · exact inside

theorem mem_contents_of_removePane {paneId : String}
    (left : content ∈ (state.removePane paneId).contents) :
    content ∈ state.contents := by
  unfold removePane at left
  split at left
  · exact left
  · obtain ⟨pane, present, inside⟩ := mem_contents.mp left
    exact mem_contents.mpr ⟨pane, List.mem_of_mem_filter present, inside⟩

/-- Removing a pane keeps what other panes show. -/
theorem mem_contents_removePane {paneId : String}
    (present : content ∈ state.contents)
    (stays : content.id ∉ (state.removedTabs paneId).map WorkbenchTab.id) :
    content ∈ (state.removePane paneId).contents := by
  unfold removePane
  unfold removedTabs at stays
  split
  · exact present
  · rename_i several
    rw [if_neg several] at stays
    obtain ⟨pane, panePresent, inside⟩ := mem_contents.mp present
    refine mem_contents.mpr ⟨pane, List.mem_filter.mpr ⟨panePresent, ?_⟩,
      inside⟩
    rw [bne_iff_ne]
    intro found
    obtain ⟨tab, tabPresent, rfl⟩ := List.mem_map.mp inside
    apply stays
    refine List.mem_map.mpr
      ⟨tab, List.mem_flatMap.mpr ⟨pane, ?_, tabPresent⟩, rfl⟩
    exact List.mem_filter.mpr ⟨panePresent, by simpa using found⟩

/-- A session is recorded in the tab that is found, and no other changes. -/
theorem mem_contents_setTerminalSessionId {paneId tabId : String}
    {terminalSessionId : Option String}
    {pane : WorkbenchPane} {tab : WorkbenchTab}
    (sturdy : Sturdy state.panes)
    (found : state.findPane paneId = some pane)
    (foundTab : pane.findTab tabId = some tab)
    (terminal : tab.tool = .terminal) :
    content ∈ (state.setTerminalSessionId paneId tabId
        terminalSessionId).contents ↔
      (content ∈ state.contents ∧ content.id ≠ tabId) ∨
        content = { tab.content with terminalSessionId } := by
  have unique := sturdy.content_unique found foundTab
  obtain ⟨panePresent, rfl⟩ := findPane_eq_some found
  obtain ⟨tabPresent, rfl⟩ := WorkbenchPane.findTab_eq_some foundTab
  rw [setTerminalSessionId, updateToolTab, updateTab]
  constructor
  · intro inside
    obtain ⟨other, otherPresent, inside⟩ := mem_contents_updatePane.mp inside
    split at inside
    · rename_i isHere
      obtain ⟨changed, present, rfl⟩ := List.mem_map.mp inside
      obtain ⟨before, beforePresent, rfl⟩ := List.mem_map.mp present
      have inBefore : before.content ∈ other.contents :=
        List.mem_map_of_mem beforePresent
      split
      · rename_i same
        have isTab := (unique other otherPresent _ inBefore same).2
        have isTerminal : before.tool = .terminal :=
          (congrArg WorkbenchTab.tool isTab).trans terminal
        rw [if_pos isTerminal, ← isTab]
        exact Or.inr rfl
      · rename_i different
        exact Or.inl ⟨mem_contents.mpr ⟨other, otherPresent, inBefore⟩,
          different⟩
    · rename_i elsewhere
      exact Or.inl ⟨mem_contents.mpr ⟨other, otherPresent, inside⟩,
        fun same => elsewhere (unique other otherPresent _ inside same).1⟩
  · rintro (⟨present, different⟩ | rfl)
    · obtain ⟨other, otherPresent, inside⟩ := mem_contents.mp present
      obtain ⟨before, beforePresent, rfl⟩ := List.mem_map.mp inside
      refine mem_contents_updatePane.mpr ⟨other, otherPresent, ?_⟩
      split
      · refine List.mem_map.mpr
          ⟨before, List.mem_map.mpr ⟨before, beforePresent, ?_⟩, rfl⟩
        exact if_neg different
      · exact inside
    · refine mem_contents_updatePane.mpr ⟨pane, panePresent, ?_⟩
      rw [if_pos rfl]
      refine List.mem_map.mpr
        ⟨_, List.mem_map.mpr ⟨tab, tabPresent, rfl⟩, ?_⟩
      rw [if_pos rfl, if_pos terminal]
      rfl

/-! ## Moving a tab -/

/-- What is left of the panes without a tab. -/
theorem mem_contents_panesWithout {sourcePaneId tabId : String} :
    content ∈ (state.panesWithout sourcePaneId tabId).flatMap
        WorkbenchPane.contents ↔
      ∃ pane ∈ state.panes, content ∈ pane.contents ∧
        (pane.id = sourcePaneId → content.id ≠ tabId) := by
  unfold panesWithout
  rw [List.flatMap_assoc, List.mem_flatMap]
  refine exists_congr fun pane => and_congr_right fun _ => ?_
  split
  · rename_i different
    rw [List.flatMap_singleton]
    exact ⟨fun inside => ⟨inside, fun same => absurd same different⟩,
      fun inside => inside.1⟩
  · rename_i same
    rw [removeTab_contents, List.mem_filter, bne_iff_ne]
    rw [not_not] at same
    exact and_congr_right fun _ => ⟨fun isOther _ => isOther,
      fun isOther => isOther same⟩

/-- The contents before a move are those that are left and that of the tab. -/
theorem Sturdy.mem_contents_panesWithout {sourcePaneId tabId : String}
    {sourcePane : WorkbenchPane} {movingTab : WorkbenchTab}
    (sturdy : Sturdy state.panes)
    (found : state.findPane sourcePaneId = some sourcePane)
    (foundTab : sourcePane.findTab tabId = some movingTab) :
    content ∈ state.contents ↔
      content ∈ (state.panesWithout sourcePaneId tabId).flatMap
          WorkbenchPane.contents ∨
        content = movingTab.content := by
  rw [WorkbenchState.mem_contents_panesWithout, mem_contents]
  constructor
  · rintro ⟨pane, present, inside⟩
    by_cases moves : pane.id = sourcePaneId ∧ content.id = tabId
    · exact Or.inr (sturdy.content_unique found foundTab pane present content
        inside moves.2).2
    · exact Or.inl ⟨pane, present, inside, fun isSource same =>
        moves ⟨isSource, same⟩⟩
  · rintro (⟨pane, present, inside, -⟩ | rfl)
    · exact ⟨pane, present, inside⟩
    · exact ⟨sourcePane, (findPane_eq_some found).1,
        List.mem_map_of_mem (WorkbenchPane.findTab_eq_some foundTab).1⟩

/-- Moving a tab changes no contents. -/
theorem Sturdy.mem_contents_moveTab
    {sourcePaneId tabId targetPaneId : String}
    {targetTabId : Option String} {position : TabDropPosition}
    (sturdy : Sturdy state.panes) :
    content ∈ (state.moveTab sourcePaneId tabId targetPaneId targetTabId
        position).contents ↔ content ∈ state.contents := by
  rcases state.moveTab_cases sourcePaneId tabId targetPaneId targetTabId
      position with same | ⟨sourcePane, movingTab, found, foundTab, target⟩
  · rw [same]
  · by_cases within : sourcePaneId = targetPaneId
    · subst within
      rw [moveTab_eq_within found foundTab, mem_contents_updatePane,
        mem_contents]
      refine exists_congr fun pane => and_congr_right fun present => ?_
      split
      · exact mem_contents_moveTabWithinPane (sturdy.distinct.1 pane present)
      · exact Iff.rfl
    · rw [moveTab_eq_between found foundTab target within,
        mem_contents_open fun before => insertTab_perm before movingTab
          targetTabId position,
        sturdy.mem_contents_panesWithout found foundTab]
      obtain ⟨pane, present, isTarget⟩ := mem_paneIds.mp target
      have left : targetPaneId ∈
          (WorkbenchState.mk (some targetPaneId)
            (state.panesWithout sourcePaneId tabId)).paneIds :=
        mem_paneIds.mpr ⟨pane, mem_panesWithout.mpr
          (Or.inl ⟨present, fun isSource =>
            within (isSource.symm.trans isTarget)⟩), isTarget⟩
      exact or_congr_right (and_iff_right left)

/-- Moving a tab to a new pane changes no contents. -/
theorem Sturdy.mem_contents_moveTabToNewPane
    {sourcePaneId tabId targetPaneId uuid : String}
    (sturdy : Sturdy state.panes) :
    content ∈ (state.moveTabToNewPane sourcePaneId tabId targetPaneId
        uuid).contents ↔ content ∈ state.contents := by
  unfold moveTabToNewPane
  split
  · exact Iff.rfl
  · rename_i sourcePane found
    split
    · exact Iff.rfl
    · rename_i movingTab foundTab
      split
      · exact Iff.rfl
      · rw [sturdy.mem_contents_panesWithout found foundTab]
        simp only [contents, List.flatMap_append, List.mem_append,
          List.flatMap_singleton]
        exact or_congr_right List.mem_singleton

/-! ## The panes stay well-formed -/

/-- Opening a tab keeps the panes well formed. -/
theorem sturdy_openTabInPane {paneId : String} {tab : WorkbenchTab}
    (sturdy : Sturdy state.panes) (fresh : tab.id ∉ state.tabIds) :
    Sturdy (state.openTabInPane paneId tab).panes := by
  obtain ⟨activePaneId, wellFormed⟩ := sturdy
  by_cases found : paneId ∈ state.paneIds
  · exact ⟨paneId, wellFormed.openTabInPane fresh found⟩
  · have same : (state.openTabInPane paneId tab).panes = state.panes := by
      refine (List.map_congr_left fun pane present => ?_).trans (List.map_id _)
      refine if_neg fun isHere => found ?_
      exact mem_paneIds.mpr ⟨pane, present, isHere⟩
    rw [same]
    exact ⟨activePaneId, wellFormed⟩

/-- Moving a tab keeps the panes well formed. -/
theorem sturdy_moveTab {sourcePaneId tabId targetPaneId : String}
    {targetTabId : Option String} {position : TabDropPosition}
    (sturdy : Sturdy state.panes) :
    Sturdy (state.moveTab sourcePaneId tabId targetPaneId targetTabId
      position).panes := by
  obtain ⟨activePaneId, wellFormed⟩ := sturdy
  have moved := (@WellFormed.moveTab _ sourcePaneId tabId targetPaneId
    targetTabId position wellFormed).sturdy
  convert moved using 1
  simp only [WorkbenchState.moveTab, findPane]
  split
  · split <;> rfl
  · rfl

/-- Moving a tab to a new pane keeps the panes well formed. -/
theorem sturdy_moveTabToNewPane
    {sourcePaneId tabId targetPaneId uuid : String}
    (sturdy : Sturdy state.panes) (fresh : state.fresh uuid = true) :
    Sturdy (state.moveTabToNewPane sourcePaneId tabId targetPaneId
      uuid).panes := by
  obtain ⟨activePaneId, wellFormed⟩ := sturdy
  have moved := (@WellFormed.moveTabToNewPane _ sourcePaneId tabId targetPaneId
    uuid wellFormed fresh).sturdy
  convert moved using 1
  simp only [WorkbenchState.moveTabToNewPane, findPane]
  split
  · rfl
  · split
    · rfl
    · split <;> rfl

theorem sturdy_removePane {paneId : String} (sturdy : Sturdy state.panes) :
    Sturdy (state.removePane paneId).panes := by
  obtain ⟨activePaneId, wellFormed⟩ := sturdy
  have removed := (@WellFormed.removePane _ paneId wellFormed).sturdy
  convert removed using 1
  simp only [WorkbenchState.removePane]
  split <;> rfl

theorem sturdy_closeTab {paneId tabId : String}
    (sturdy : Sturdy state.panes) :
    Sturdy (state.closeTab paneId tabId).panes := by
  obtain ⟨activePaneId, wellFormed⟩ := sturdy
  exact (@WellFormed.closeTab _ paneId tabId wellFormed).sturdy

theorem sturdy_setTerminalSessionId {paneId tabId : String}
    {terminalSessionId : Option String} (sturdy : Sturdy state.panes) :
    Sturdy (state.setTerminalSessionId paneId tabId
      terminalSessionId).panes := by
  obtain ⟨activePaneId, wellFormed⟩ := sturdy
  exact (@WellFormed.updateToolTab _ paneId tabId .terminal
    (fun tab => { tab with terminalSessionId }) wellFormed
    fun _ => ⟨rfl, rfl⟩).sturdy

end WorkbenchState

end Web
end WhatsGoingOn
