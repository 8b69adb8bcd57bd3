import WhatsGoingOn.Web.TabContents

/-!
# Where a moved tab ends up

A tab is dropped in another place of its pane, in another pane or in a new one.
What it leaves behind keeps its order, a pane that it leaves empty is removed,
and what the operation returns says whether that has happened.
-/

namespace WhatsGoingOn
namespace Web

/-! ## What the operations return -/

/-- What moving a tab to a new pane gives back. -/
structure MoveTabToNewPaneResult where
  newPaneId : String
  sourcePaneRemoved : Bool
  deriving DecidableEq, Repr

namespace WorkbenchState

/-- What `moveTab` returns. -/
def removeSourcePane (state : WorkbenchState)
    (sourcePaneId tabId targetPaneId : String) : Bool :=
  let currentSourcePane := state.findPane sourcePaneId
  let currentTargetPane := state.findPane targetPaneId
  let currentMovingTab := currentSourcePane.bind fun pane => pane.findTab tabId
  sourcePaneId != targetPaneId && currentSourcePane.isSome &&
    currentTargetPane.isSome && currentMovingTab.isSome &&
      currentSourcePane.any fun pane => pane.tabs.length ≤ 1

/-- What `moveTabToNewPane` returns. -/
def moveTabToNewPaneResult (state : WorkbenchState)
    (sourcePaneId tabId targetPaneId uuid : String) :
    Option MoveTabToNewPaneResult :=
  match state.findPane sourcePaneId with
  | none => none
  | some currentSourcePane =>
      match currentSourcePane.findTab tabId with
      | none => none
      | some _ =>
          if sourcePaneId = targetPaneId ∧
              currentSourcePane.tabs.length ≤ 1 then none
          else
            some ⟨paneId uuid, decide (currentSourcePane.tabs.length ≤ 1)⟩

end WorkbenchState

/-! ## The tabs beside one -/

/-- The contents of a pane beside that of a tab, in order. -/
def WorkbenchPane.others (pane : WorkbenchPane) (tabId : String) :
    List WorkbenchTab :=
  pane.contents.filter fun content => content.id != tabId

section Pane

variable {pane : WorkbenchPane} {tab : WorkbenchTab} {tabId : String}
  {targetTabId : Option String} {position : TabDropPosition}

@[simp] theorem WorkbenchPane.without_others (pane : WorkbenchPane)
    (tabId : String) :
    (pane.without tabId).others tabId = pane.others tabId := by
  rw [WorkbenchPane.others, WorkbenchPane.without_contents, List.filter_filter]
  simp only [Bool.and_self]
  rfl

@[simp] theorem activatePaneTab_others (pane : WorkbenchPane)
    (active tabId : String) :
    (activatePaneTab pane active).others tabId = pane.others tabId := by
  rw [WorkbenchPane.others, activatePaneTab_contents]
  rfl

theorem normalizePaneTabHistory_active
    (present : pane.activeTabId ∈ pane.tabIds) :
    (normalizePaneTabHistory pane).activeTabId = pane.activeTabId :=
  if_pos present

theorem activatePaneTab_active (present : tabId ∈ pane.tabIds) :
    (activatePaneTab pane tabId).activeTabId = tabId := by
  unfold activatePaneTab
  rw [if_neg (not_not.mpr present)]
  split
  · rename_i same
    rw [normalizePaneTabHistory_active (by rwa [same]), same]
  · apply normalizePaneTabHistory_active
    obtain ⟨tab, tabPresent, rfl⟩ := List.mem_map.mp present
    exact List.mem_map.mpr
      ⟨_, List.mem_map_of_mem tabPresent, by rw [if_pos rfl]⟩

theorem WorkbenchPane.others_eq_nil :
    pane.others tabId = [] ↔
      (pane.tabs.filter fun tab => tab.id != tabId) = [] := by
  rw [WorkbenchPane.others, WorkbenchPane.contents, List.filter_map,
    List.map_eq_nil_iff]
  rfl

/-- A pane has no tab beside one of its tabs when it has one tab. -/
theorem WorkbenchPane.length_le_one_iff
    (distinct : pane.tabIds.Nodup) (present : tabId ∈ pane.tabIds) :
    pane.tabs.length ≤ 1 ↔ pane.others tabId = [] := by
  rw [WorkbenchPane.others_eq_nil]
  constructor
  · intro short
    rw [List.filter_eq_nil_iff]
    intro tab tabPresent
    obtain ⟨other, otherPresent, rfl⟩ := List.mem_map.mp present
    rcases h : pane.tabs with - | ⟨only, - | ⟨second, rest⟩⟩
    · simp [h] at tabPresent
    · rw [h, List.mem_singleton] at tabPresent otherPresent
      simp [tabPresent, otherPresent]
    · simp [h] at short
  · intro alone
    have none : pane.tabIds.filter (· != tabId) = [] := by
      simp [WorkbenchPane.tabIds, List.filter_map, Function.comp_def, alone]
    have short := length_le_one_of_filter_eq_nil distinct none
    rwa [WorkbenchPane.tabIds, List.length_map] at short

/-- A tab is put somewhere between the others. -/
theorem insertTab_eq (tabs : List WorkbenchTab) (tab : WorkbenchTab)
    (targetTabId : Option String) (position : TabDropPosition) :
    ∃ left right, tabs = left ++ right ∧
      insertTab tabs tab targetTabId position = left ++ tab :: right := by
  have atEnd : ∃ left right, tabs = left ++ right ∧
      tabs ++ [tab] = left ++ tab :: right :=
    ⟨tabs, [], by simp, rfl⟩
  unfold insertTab
  split
  · exact atEnd
  · exact atEnd
  · split
    · exact atEnd
    · exact ⟨_, _, (List.take_append_drop _ tabs).symm, rfl⟩

theorem insertTab_others (pane : WorkbenchPane) (tabs : List WorkbenchTab)
    (tab : WorkbenchTab) (targetTabId : Option String)
    (position : TabDropPosition) :
    WorkbenchPane.others
        { pane with tabs := insertTab tabs tab targetTabId position } tab.id =
      WorkbenchPane.others { pane with tabs } tab.id := by
  obtain ⟨left, right, rfl, inserted⟩ :=
    insertTab_eq tabs tab targetTabId position
  simp [WorkbenchPane.others, WorkbenchPane.contents, inserted]

/-- Moving a tab within its pane leaves the other tabs in order. -/
theorem moveTabWithinPane_others :
    (moveTabWithinPane pane tabId targetTabId position).others tabId =
      pane.others tabId := by
  unfold moveTabWithinPane
  split
  · rfl
  · split
    · rfl
    · rename_i movingTab found
      obtain ⟨-, rfl⟩ := WorkbenchPane.findTab_eq_some found
      rw [activatePaneTab_others, insertTab_others]
      simp only [WorkbenchPane.others, WorkbenchPane.contents,
        List.filter_map, List.filter_filter, Function.comp_def,
        WorkbenchTab.content_id, Bool.and_self]

/-! ## The place of a tab -/

/-- A tab is directly before or after the target when that is another tab and
the position asks for it, and last otherwise. -/
structure Placed (ids : List String) (tabId : String)
    (targetTabId : Option String) (position : TabDropPosition) : Prop where
  before : ∀ target ∈ targetTabId, target ≠ tabId → target ∈ ids →
    position = .before → [tabId, target] <:+: ids
  after : ∀ target ∈ targetTabId, target ≠ tabId → target ∈ ids →
    position = .after → [target, tabId] <:+: ids
  last : (position = .last ∨
    ∀ target ∈ targetTabId, target = tabId ∨ target ∉ ids) →
      ids.getLast? = some tabId

/-- The last of some ids is in its place when nothing else is asked for. -/
theorem Placed.atEnd {ids : List String}
    (nowhere : position = .last ∨
      ∀ target ∈ targetTabId, target = tabId ∨ target ∉ ids) :
    Placed (ids ++ [tabId]) tabId targetTabId position := by
  have notAsked : ∀ target ∈ targetTabId, target ≠ tabId →
      target ∈ ids ++ [tabId] → position = .last := by
    intro target asked different present
    rcases nowhere with last | nowhere
    · exact last
    · rcases nowhere target asked with same | absent
      · exact absurd same different
      · simp [absent, different] at present
  refine ⟨?_, ?_, fun _ => by simp⟩
  · intro target asked different present isBefore
    rw [notAsked target asked different present] at isBefore
    cases isBefore
  · intro target asked different present isAfter
    rw [notAsked target asked different present] at isAfter
    cases isAfter

/-- A tab that is put in has its place. -/
theorem insertTab_placed {tabs : List WorkbenchTab}
    (targetTabId : Option String) (position : TabDropPosition)
    (absent : tab.id ∉ tabs.map WorkbenchTab.id) :
    Placed ((insertTab tabs tab targetTabId position).map WorkbenchTab.id)
      tab.id (truthy targetTabId) position := by
  have isLast (nowhere : position = .last ∨ ∀ target ∈ truthy targetTabId,
      target = tab.id ∨ target ∉ tabs.map WorkbenchTab.id) :
      Placed ((tabs ++ [tab]).map WorkbenchTab.id) tab.id
        (truthy targetTabId) position := by
    rw [List.map_append]
    exact Placed.atEnd nowhere
  unfold insertTab
  split
  · exact isLast (Or.inl rfl)
  · rename_i none
    exact isLast (Or.inr (by simp [none]))
  · rename_i target notLast asked
    split
    · rename_i missing
      refine isLast (Or.inr ?_)
      rw [asked]
      rintro _ ⟨rfl⟩
      right
      simpa [List.findIdx?_eq_none_iff] using missing
    · rename_i targetIndex foundIndex
      obtain ⟨inside, found, -⟩ :=
        List.findIdx?_eq_some_iff_getElem.mp foundIndex
      rw [beq_iff_eq] at found
      have present : target ∈ tabs.map WorkbenchTab.id :=
        found ▸ List.mem_map_of_mem (List.getElem_mem inside)
      rw [asked]
      dsimp only
      refine ⟨?_, ?_, ?_⟩
      · rintro _ ⟨rfl⟩ - - rfl
        rw [if_pos rfl, List.drop_eq_getElem_cons inside, List.map_append,
          List.map_cons, List.map_cons, found]
        exact ⟨_, _, List.append_assoc _ _ _⟩
      · rintro _ ⟨rfl⟩ - - rfl
        rw [if_neg nofun, List.take_succ_eq_append_getElem inside,
          List.map_append, List.map_append, List.map_singleton, List.map_cons,
          found]
        exact ⟨_, _, by simp; rfl⟩
      · rintro (last | nowhere)
        · exact absurd last notLast
        · rcases nowhere target rfl with same | missing
          · exact absurd (same ▸ present) absent
          · rw [List.map_append, List.map_cons, List.mem_append,
              List.mem_cons, not_or, not_or] at missing
            rw [← List.take_append_drop _ tabs, List.map_append,
              List.mem_append] at present
            exact absurd present (not_or.mpr ⟨missing.1, missing.2.2⟩)

end Pane

/-! ## The workbench after a move -/

namespace WorkbenchState

/-- The pane that is moved from is found, and the tab in it. -/
def Holds (state : WorkbenchState) (paneId tabId : String) : Prop :=
  ∃ pane ∈ state.panes, pane.id = paneId ∧ tabId ∈ pane.tabIds

/-- The ids of the panes, without a pane that has no tab beside the moved
one. -/
def paneIdsLeft (state : WorkbenchState) (sourcePaneId tabId : String) :
    List String :=
  (state.panes.filter fun pane =>
    pane.id ≠ sourcePaneId ∨ pane.others tabId ≠ []).map WorkbenchPane.id

/-- A tab has been dropped in a pane of the workbench. -/
structure MovedToPane (state next : WorkbenchState)
    (sourcePaneId tabId targetPaneId : String)
    (targetTabId : Option String) (position : TabDropPosition) : Prop where
  contents : next.contents.Perm state.contents
  others : ∀ pane ∈ next.panes, ∃ before ∈ state.panes,
    before.id = pane.id ∧ pane.others tabId = before.others tabId
  paneIds : next.paneIds =
    if sourcePaneId = targetPaneId then state.paneIds
    else state.paneIdsLeft sourcePaneId tabId
  onItself : sourcePaneId = targetPaneId → targetTabId = some tabId →
    next.panes = state.panes
  placed : ¬ (sourcePaneId = targetPaneId ∧ targetTabId = some tabId) →
    ∃ pane ∈ next.panes, pane.id = targetPaneId ∧
      pane.activeTabId = tabId ∧
        Placed pane.tabIds tabId (truthy targetTabId) position
  activePane : next.activePaneId = some targetPaneId

/-- A tab has been moved to a pane that is new. -/
structure MovedToNewPane (state next : WorkbenchState)
    (sourcePaneId tabId newPaneId : String) : Prop where
  contents : next.contents.Perm state.contents
  others : ∀ pane ∈ next.panes, pane.id ≠ newPaneId →
    ∃ before ∈ state.panes,
      before.id = pane.id ∧ pane.others tabId = before.others tabId
  paneIds : next.paneIds =
    state.paneIdsLeft sourcePaneId tabId ++ [newPaneId]
  placed : ∃ pane ∈ next.panes, pane.id = newPaneId ∧
    pane.activeTabId = tabId ∧ pane.tabIds = [tabId]
  activePane : next.activePaneId = some newPaneId

variable {state next : WorkbenchState}
  {sourcePaneId tabId targetPaneId uuid : String}
  {targetTabId : Option String} {position : TabDropPosition}
  {sourcePane : WorkbenchPane} {movingTab : WorkbenchTab}

/-- The same contents, each once, in another order. -/
theorem WellFormed.contents_perm (wellFormed : state.WellFormed)
    (nextWellFormed : next.WellFormed)
    (same : ∀ content, content ∈ next.contents ↔ content ∈ state.contents) :
    next.contents.Perm state.contents := by
  have distinct {state : WorkbenchState} (wellFormed : state.WellFormed) :
      state.contents.Nodup := by
    apply List.Nodup.of_map WorkbenchTab.id
    rw [contents_ids]
    exact wellFormed.tabIds
  exact (List.perm_ext_iff_of_nodup (distinct nextWellFormed)
    (distinct wellFormed)).mpr same

theorem holds_of_found (found : state.findPane sourcePaneId = some sourcePane)
    (foundTab : sourcePane.findTab tabId = some movingTab) :
    state.Holds sourcePaneId tabId := by
  obtain ⟨present, same⟩ := findPane_eq_some found
  obtain ⟨tabPresent, rfl⟩ := WorkbenchPane.findTab_eq_some foundTab
  exact ⟨sourcePane, present, same, List.mem_map_of_mem tabPresent⟩

/-- A tab that is held is found. -/
theorem WellFormed.found_of_holds (wellFormed : state.WellFormed)
    (holds : state.Holds sourcePaneId tabId) :
    ∃ sourcePane movingTab,
      state.findPane sourcePaneId = some sourcePane ∧
        sourcePane.findTab tabId = some movingTab := by
  obtain ⟨pane, present, rfl, tabPresent⟩ := holds
  obtain ⟨tab, inPane, rfl⟩ := List.mem_map.mp tabPresent
  cases found : state.findPane pane.id with
  | none =>
      have missing := List.find?_eq_none.mp found pane present
      simp at missing
  | some other =>
      obtain ⟨otherPresent, same⟩ := findPane_eq_some found
      obtain rfl := wellFormed.pane_unique otherPresent present same
      cases foundTab : other.findTab tab.id with
      | none =>
          have missing := List.find?_eq_none.mp foundTab tab inPane
          simp at missing
      | some movingTab => exact ⟨other, movingTab, rfl, foundTab⟩

/-- What is left has the ids of the panes that keep a tab. -/
theorem panesWithout_paneIds :
    (state.panesWithout sourcePaneId tabId).map WorkbenchPane.id =
      state.paneIdsLeft sourcePaneId tabId := by
  unfold panesWithout paneIdsLeft
  induction state.panes with
  | nil => rfl
  | cons pane panes inductionHypothesis =>
      rw [List.flatMap_cons, List.map_append, inductionHypothesis]
      by_cases isSource : pane.id = sourcePaneId
      · by_cases alone : pane.others tabId = []
        · have none := WorkbenchPane.others_eq_nil.mp alone
          simp [removeTab, isSource, alone, none]
        · have several := mt WorkbenchPane.others_eq_nil.mpr alone
          simp [removeTab, isSource, alone, several]
      · simp [isSource]

theorem panesWithout_others {pane : WorkbenchPane}
    (left : pane ∈ state.panesWithout sourcePaneId tabId) :
    ∃ before ∈ state.panes,
      before.id = pane.id ∧ pane.others tabId = before.others tabId := by
  rcases mem_panesWithout.mp left with
    ⟨present, -⟩ | ⟨before, present, -, -, rfl⟩
  · exact ⟨pane, present, rfl, rfl⟩
  · exact ⟨before, present, rfl, WorkbenchPane.without_others before tabId⟩

/-- The pane that a tab moves within has it where it is dropped. -/
theorem moveTabWithinPane_placed {pane : WorkbenchPane}
    (found : pane.findTab tabId = some movingTab)
    (elsewhere : targetTabId ≠ some tabId) :
    (moveTabWithinPane pane tabId targetTabId position).activeTabId = tabId ∧
      Placed (moveTabWithinPane pane tabId targetTabId position).tabIds tabId
        (truthy targetTabId) position := by
  obtain ⟨-, rfl⟩ := WorkbenchPane.findTab_eq_some found
  rw [moveTabWithinPane, if_neg elsewhere, found]
  dsimp only
  refine ⟨activatePaneTab_active ?_, ?_⟩
  · exact mem_insertTab_ids.mpr (Or.inl rfl)
  · rw [activatePaneTab_tabIds]
    apply insertTab_placed
    simp

/-- A move within a pane moves that tab only. -/
theorem WellFormed.movedToPane_within (wellFormed : state.WellFormed)
    (found : state.findPane sourcePaneId = some sourcePane)
    (foundTab : sourcePane.findTab tabId = some movingTab) :
    MovedToPane state
      (state.moveTab sourcePaneId tabId sourcePaneId targetTabId position)
      sourcePaneId tabId sourcePaneId targetTabId position where
  contents := wellFormed.contents_perm wellFormed.moveTab fun _ =>
    wellFormed.sturdy.mem_contents_moveTab
  others := by
    rw [moveTab_eq_within found foundTab]
    intro pane present
    obtain ⟨before, beforePresent, rfl⟩ := mem_panes_updatePane.mp present
    refine ⟨before, beforePresent, ?_⟩
    split
    · exact ⟨(moveTabWithinPane_id _ _ _ _).symm, moveTabWithinPane_others⟩
    · exact ⟨rfl, rfl⟩
  paneIds := by
    rw [moveTab_eq_within found foundTab, if_pos rfl]
    exact paneIds_updatePane fun pane => moveTabWithinPane_id _ _ _ _
  onItself := by
    rintro - rfl
    rw [moveTab_eq_within found foundTab]
    refine (List.map_congr_left fun pane _ => ?_).trans (List.map_id _)
    simp [moveTabWithinPane]
  placed := by
    intro elsewhere
    obtain ⟨present, isSource⟩ := findPane_eq_some found
    rw [moveTab_eq_within found foundTab]
    refine ⟨moveTabWithinPane sourcePane tabId targetTabId position,
      mem_panes_updatePane.mpr ⟨sourcePane, present, by rw [if_pos isSource]⟩,
      (moveTabWithinPane_id _ _ _ _).trans isSource, ?_⟩
    exact moveTabWithinPane_placed foundTab fun same =>
      elsewhere ⟨rfl, same⟩
  activePane := by
    rw [moveTab_eq_within found foundTab]

/-- A move between panes moves that tab only. -/
theorem WellFormed.movedToPane_between (wellFormed : state.WellFormed)
    (found : state.findPane sourcePaneId = some sourcePane)
    (foundTab : sourcePane.findTab tabId = some movingTab)
    (target : targetPaneId ∈ state.paneIds)
    (different : sourcePaneId ≠ targetPaneId) :
    MovedToPane state
      (state.moveTab sourcePaneId tabId targetPaneId targetTabId position)
      sourcePaneId tabId targetPaneId targetTabId position where
  contents := wellFormed.contents_perm wellFormed.moveTab fun _ =>
    wellFormed.sturdy.mem_contents_moveTab
  others := by
    obtain ⟨-, isTab⟩ := WorkbenchPane.findTab_eq_some foundTab
    rw [moveTab_eq_between found foundTab target different]
    intro pane present
    obtain ⟨left, leftPresent, rfl⟩ := mem_panes_updatePane.mp present
    obtain ⟨before, beforePresent, same, sameOthers⟩ :=
      panesWithout_others leftPresent
    refine ⟨before, beforePresent, ?_⟩
    split
    · rw [activatePaneTab_id]
      refine ⟨same, ?_⟩
      rw [activatePaneTab_others, ← sameOthers, ← isTab]
      exact insertTab_others left left.tabs movingTab targetTabId position
    · exact ⟨same, sameOthers⟩
  paneIds := by
    rw [moveTab_eq_between found foundTab target different,
      if_neg different, ← panesWithout_paneIds]
    exact paneIds_updatePane fun pane => activatePaneTab_id _ _
  onItself := fun within => absurd within different
  placed := by
    intro _
    obtain ⟨-, isTab⟩ := WorkbenchPane.findTab_eq_some foundTab
    obtain ⟨pane, present, isTarget⟩ := mem_paneIds.mp target
    have left : pane ∈ state.panesWithout sourcePaneId tabId :=
      mem_panesWithout.mpr (Or.inl ⟨present, fun isSource =>
        different (isSource.symm.trans isTarget)⟩)
    rw [moveTab_eq_between found foundTab target different]
    refine ⟨_, mem_panes_updatePane.mpr ⟨pane, left, rfl⟩, ?_⟩
    rw [if_pos isTarget]
    refine ⟨(activatePaneTab_id _ _).trans isTarget, ?_, ?_⟩
    · rw [← isTab]
      exact activatePaneTab_active (mem_insertTab_ids.mpr (Or.inl rfl))
    · rw [activatePaneTab_tabIds, ← isTab]
      apply insertTab_placed
      rw [isTab]
      apply wellFormed.not_mem_panesWithout found _ pane left
      rw [← isTab]
      exact List.mem_map_of_mem (WorkbenchPane.findTab_eq_some foundTab).1
  activePane := by
    rw [moveTab_eq_between found foundTab target different]

/-- A move moves that tab only. -/
theorem WellFormed.movedToPane (wellFormed : state.WellFormed)
    (holds : state.Holds sourcePaneId tabId)
    (target : targetPaneId ∈ state.paneIds) :
    MovedToPane state
      (state.moveTab sourcePaneId tabId targetPaneId targetTabId position)
      sourcePaneId tabId targetPaneId targetTabId position := by
  obtain ⟨sourcePane, movingTab, found, foundTab⟩ :=
    wellFormed.found_of_holds holds
  by_cases within : sourcePaneId = targetPaneId
  · subst within
    exact wellFormed.movedToPane_within found foundTab
  · exact wellFormed.movedToPane_between found foundTab target within

theorem moveTab_eq_self
    (missing : ¬ (state.Holds sourcePaneId tabId ∧
      targetPaneId ∈ state.paneIds)) :
    state.moveTab sourcePaneId tabId targetPaneId targetTabId position =
      state := by
  rcases state.moveTab_cases sourcePaneId tabId targetPaneId targetTabId
      position with same | ⟨sourcePane, movingTab, found, foundTab, target⟩
  · exact same
  · exact absurd ⟨holds_of_found found foundTab, target⟩ missing

/-- The source pane is left when it has a tab beside the moved one. -/
theorem WellFormed.mem_paneIdsLeft (wellFormed : state.WellFormed)
    (found : state.findPane sourcePaneId = some sourcePane)
    (foundTab : sourcePane.findTab tabId = some movingTab) :
    sourcePaneId ∉ state.paneIdsLeft sourcePaneId tabId ↔
      sourcePane.tabs.length ≤ 1 := by
  obtain ⟨present, rfl⟩ := findPane_eq_some found
  obtain ⟨tabPresent, rfl⟩ := WorkbenchPane.findTab_eq_some foundTab
  rw [WorkbenchPane.length_le_one_iff (wellFormed.distinct.1 _ present)
    (List.mem_map_of_mem tabPresent)]
  constructor
  · intro gone
    by_contra several
    exact gone (List.mem_map_of_mem
      (List.mem_filter.mpr ⟨present, by simp [several]⟩))
  · intro alone left
    obtain ⟨other, otherLeft, same⟩ := List.mem_map.mp left
    obtain ⟨otherPresent, kept⟩ := List.mem_filter.mp otherLeft
    obtain rfl := wellFormed.pane_unique otherPresent present same
    simp [alone] at kept

/-- The flag of a move tells whether the source pane is gone. -/
theorem WellFormed.removeSourcePane_iff (wellFormed : state.WellFormed) :
    state.removeSourcePane sourcePaneId tabId targetPaneId = true ↔
      sourcePaneId ∈ state.paneIds ∧
        sourcePaneId ∉ (state.moveTab sourcePaneId tabId targetPaneId
          targetTabId position).paneIds := by
  by_cases moves : state.Holds sourcePaneId tabId ∧
      targetPaneId ∈ state.paneIds
  · obtain ⟨sourcePane, movingTab, found, foundTab⟩ :=
      wellFormed.found_of_holds moves.1
    have source := mem_paneIds_of_findPane found
    have foundTarget : (state.findPane targetPaneId).isSome = true := by
      obtain ⟨pane, present, same⟩ := mem_paneIds.mp moves.2
      exact List.find?_isSome.mpr ⟨pane, present, by simpa using same⟩
    rw [(wellFormed.movedToPane moves.1 moves.2).paneIds]
    by_cases within : sourcePaneId = targetPaneId
    · rw [if_pos within]
      simp [removeSourcePane, within]
    · rw [if_neg within, wellFormed.mem_paneIdsLeft found foundTab]
      simp [removeSourcePane, within, found, foundTab, foundTarget, source]
  · rw [moveTab_eq_self moves]
    constructor
    · intro removed
      simp only [removeSourcePane, Bool.and_eq_true] at removed
      obtain ⟨⟨⟨⟨-, -⟩, foundTarget⟩, foundTab⟩, -⟩ := removed
      cases found : state.findPane sourcePaneId with
      | none => simp [found] at foundTab
      | some sourcePane =>
          rw [found, Option.bind_some] at foundTab
          obtain ⟨movingTab, foundTab⟩ := Option.isSome_iff_exists.mp foundTab
          obtain ⟨target, foundTarget⟩ :=
            Option.isSome_iff_exists.mp foundTarget
          exact absurd ⟨holds_of_found found foundTab,
            mem_paneIds_of_findPane foundTarget⟩ moves
    · rintro ⟨present, gone⟩
      exact absurd present gone

/-! ## A new pane -/

/-- A tab moves to a new pane unless it is the only one of the pane that it is
dropped in. -/
def MovesToNewPane (state : WorkbenchState)
    (sourcePaneId tabId targetPaneId : String) : Prop :=
  state.Holds sourcePaneId tabId ∧
    (sourcePaneId = targetPaneId →
      sourcePaneId ∈ state.paneIdsLeft sourcePaneId tabId)

/-- What a move to a new pane does and returns. -/
theorem WellFormed.moveTabToNewPane_cases (wellFormed : state.WellFormed) :
    (¬ state.MovesToNewPane sourcePaneId tabId targetPaneId ∧
      state.moveTabToNewPane sourcePaneId tabId targetPaneId uuid = state ∧
      state.moveTabToNewPaneResult sourcePaneId tabId targetPaneId uuid =
        none) ∨
    (state.MovesToNewPane sourcePaneId tabId targetPaneId ∧
      ∃ sourcePane movingTab,
        state.findPane sourcePaneId = some sourcePane ∧
        sourcePane.findTab tabId = some movingTab ∧
        state.moveTabToNewPane sourcePaneId tabId targetPaneId uuid =
          ⟨some (paneId uuid), state.panesWithout sourcePaneId tabId ++
            [⟨paneId uuid, [{ movingTab with previousActiveTabId := none }],
              movingTab.id⟩]⟩ ∧
        state.moveTabToNewPaneResult sourcePaneId tabId targetPaneId uuid =
          some ⟨paneId uuid, decide (sourcePane.tabs.length ≤ 1)⟩) := by
  by_cases holds : state.Holds sourcePaneId tabId
  · obtain ⟨sourcePane, movingTab, found, foundTab⟩ :=
      wellFormed.found_of_holds holds
    have left := wellFormed.mem_paneIdsLeft found foundTab
    by_cases alone : sourcePaneId = targetPaneId ∧ sourcePane.tabs.length ≤ 1
    · left
      refine ⟨fun moves => left.mpr alone.2 (moves.2 alone.1), ?_, ?_⟩
      · simp only [WorkbenchState.moveTabToNewPane, found, foundTab,
          if_pos alone]
      · simp only [moveTabToNewPaneResult, found, foundTab, if_pos alone]
    · right
      refine ⟨⟨holds, fun within => ?_⟩, sourcePane, movingTab, found,
        foundTab, ?_, ?_⟩
      · by_contra gone
        exact alone ⟨within, left.mp gone⟩
      · simp only [WorkbenchState.moveTabToNewPane, found, foundTab,
          if_neg alone]
        rfl
      · simp only [moveTabToNewPaneResult, found, foundTab, if_neg alone]
  · left
    refine ⟨fun moves => holds moves.1, ?_⟩
    cases found : state.findPane sourcePaneId with
    | none =>
        simp [WorkbenchState.moveTabToNewPane, moveTabToNewPaneResult, found]
    | some sourcePane =>
        cases foundTab : sourcePane.findTab tabId with
        | none =>
            simp [WorkbenchState.moveTabToNewPane, moveTabToNewPaneResult,
              found, foundTab]
        | some movingTab =>
            exact absurd (holds_of_found found foundTab) holds

/-- A tab that moves to a new pane is alone and active there. -/
theorem WellFormed.movedToNewPane (wellFormed : state.WellFormed)
    (fresh : state.fresh uuid = true)
    (moves : state.MovesToNewPane sourcePaneId tabId targetPaneId) :
    MovedToNewPane state
      (state.moveTabToNewPane sourcePaneId tabId targetPaneId uuid)
      sourcePaneId tabId (paneId uuid) := by
  have contents :=
    wellFormed.contents_perm
      (@WellFormed.moveTabToNewPane _ sourcePaneId tabId targetPaneId uuid
        wellFormed fresh)
      fun _ => wellFormed.sturdy.mem_contents_moveTabToNewPane
  rcases wellFormed.moveTabToNewPane_cases with
    ⟨stays, -⟩ | ⟨-, sourcePane, movingTab, -, foundTab, moved, -⟩
  · exact absurd moves stays
  · obtain ⟨-, isTab⟩ := WorkbenchPane.findTab_eq_some foundTab
    rw [moved] at contents ⊢
    refine ⟨contents, ?_, ?_, ?_, rfl⟩
    · intro pane present different
      rcases List.mem_append.mp present with left | isNew
      · exact panesWithout_others left
      · rw [List.mem_singleton.mp isNew] at different
        exact absurd rfl different
    · rw [WorkbenchState.paneIds, List.map_append, panesWithout_paneIds]
      rfl
    · exact ⟨_, List.mem_append_right _ (List.mem_singleton_self _), rfl,
        isTab, congrArg (fun id => [id]) isTab⟩

/-- What is returned agrees with the new state. -/
theorem WellFormed.moveTabToNewPaneResult_eq (wellFormed : state.WellFormed)
    (fresh : state.fresh uuid = true) :
    (state.moveTabToNewPaneResult sourcePaneId tabId targetPaneId uuid = none ↔
      state.moveTabToNewPane sourcePaneId tabId targetPaneId uuid = state) ∧
    ∀ result ∈ state.moveTabToNewPaneResult sourcePaneId tabId targetPaneId
        uuid,
      result.newPaneId = paneId uuid ∧
        (result.sourcePaneRemoved = true ↔
          sourcePaneId ∉ (state.moveTabToNewPane sourcePaneId tabId
            targetPaneId uuid).paneIds) := by
  rcases wellFormed.moveTabToNewPane_cases with ⟨-, same, noResult⟩ |
    ⟨moves, sourcePane, movingTab, found, foundTab, moved, result⟩
  · rw [noResult]
    exact ⟨iff_of_true rfl same, nofun⟩
  · have notFresh : paneId uuid ∉ state.paneIds := fresh_pane fresh
    have notSource : sourcePaneId ≠ paneId uuid := fun same =>
      notFresh (same ▸ mem_paneIds_of_findPane found)
    have paneIds := (wellFormed.movedToNewPane fresh moves).paneIds
    rw [result]
    refine ⟨iff_of_false nofun fun same => notFresh ?_, ?_⟩
    · rw [← same, paneIds]
      exact List.mem_append_right _ (List.mem_singleton_self _)
    · rintro _ ⟨rfl⟩
      refine ⟨rfl, ?_⟩
      rw [paneIds, List.mem_append, List.mem_singleton, decide_eq_true_iff,
        or_iff_left notSource]
      exact (wellFormed.mem_paneIdsLeft found foundTab).symm

/-! ## Every move -/

/-- A tab that is moved ends up where it is dropped, nothing else changes its
place, and what is returned agrees with the new state. -/
theorem moves_keep_the_other_tabs (wellFormed : state.WellFormed)
    (sourcePaneId tabId targetPaneId : String) :
    (∀ targetTabId position,
      let next :=
        state.moveTab sourcePaneId tabId targetPaneId targetTabId position
      (state.Holds sourcePaneId tabId ∧ targetPaneId ∈ state.paneIds →
        MovedToPane state next sourcePaneId tabId targetPaneId targetTabId
          position) ∧
      (¬ (state.Holds sourcePaneId tabId ∧ targetPaneId ∈ state.paneIds) →
        next = state) ∧
      (state.removeSourcePane sourcePaneId tabId targetPaneId = true ↔
        sourcePaneId ∈ state.paneIds ∧ sourcePaneId ∉ next.paneIds)) ∧
    ∀ uuid, state.fresh uuid = true →
      let next :=
        state.moveTabToNewPane sourcePaneId tabId targetPaneId uuid
      let returned :=
        state.moveTabToNewPaneResult sourcePaneId tabId targetPaneId uuid
      (state.MovesToNewPane sourcePaneId tabId targetPaneId →
        MovedToNewPane state next sourcePaneId tabId (paneId uuid)) ∧
      (¬ state.MovesToNewPane sourcePaneId tabId targetPaneId →
        next = state) ∧
      (returned = none ↔ next = state) ∧
      ∀ result ∈ returned,
        result.newPaneId = paneId uuid ∧
          (result.sourcePaneRemoved = true ↔ sourcePaneId ∉ next.paneIds) := by
  refine ⟨fun targetTabId position => ⟨?_, moveTab_eq_self,
    wellFormed.removeSourcePane_iff⟩, fun uuid fresh => ⟨
    wellFormed.movedToNewPane fresh, ?_,
    wellFormed.moveTabToNewPaneResult_eq fresh⟩⟩
  · rintro ⟨holds, target⟩
    exact wellFormed.movedToPane holds target
  · intro stays
    rcases wellFormed.moveTabToNewPane_cases with ⟨-, same, -⟩ | ⟨moves, -⟩
    · exact same
    · exact absurd moves stays

/-- A tab is opened beside the first one. -/
def twoTabs : WorkbenchState :=
  (initial "a" "b").openTabInPane "pane-a" (createFilesTab {} "c")

/-- Two moves of one tab. -/
theorem moves_keep_the_other_tabs_two :
    MovedToPane twoTabs
      (twoTabs.moveTab "pane-a" "files-c" "pane-a" (some "files-b") .before)
      "pane-a" "files-c" "pane-a" (some "files-b") .before ∧
    MovedToNewPane twoTabs
      (twoTabs.moveTabToNewPane "pane-a" "files-c" "pane-a" "d")
      "pane-a" "files-c" "pane-d" := by
  have wellFormed : twoTabs.WellFormed :=
    (WellFormed.initial "a" "b").openTabInPane (by decide)
      (by decide)
  have holds : twoTabs.Holds "pane-a" "files-c" := by
    unfold Holds
    decide
  have every :=
    moves_keep_the_other_tabs wellFormed "pane-a" "files-c" "pane-a"
  exact ⟨(every.1 (some "files-b") .before).1 ⟨holds, by decide⟩,
    (every.2 "d" (by decide)).1 ⟨holds, fun _ => by decide⟩⟩

end WorkbenchState

end Web
end WhatsGoingOn
