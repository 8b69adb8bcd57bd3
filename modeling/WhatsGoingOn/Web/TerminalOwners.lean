import WhatsGoingOn.Web.TabContents
import WhatsGoingOn.Web.TerminalTabs

/-!
# Sessions have owners

A session that a terminal tab has created is referred to by a tab, or its close
has been issued.  This holds as long as the tab of each request that is answered
is still in the pane that the request came from, without a session, and as long
as each close finds the sessions that it leaves without a tab.
-/

namespace WhatsGoingOn
namespace Web

/-! ## Tabs that refer to a session -/

/-- A terminal tab refers to a session. -/
def WorkbenchTab.refersTo (tab : WorkbenchTab) (session : String) : Bool :=
  tab.tool == .terminal && truthy tab.terminalSessionId == some session

theorem WorkbenchTab.refersTo_iff {tab : WorkbenchTab} {session : String} :
    tab.refersTo session = true ↔
      tab.tool = .terminal ∧ truthy tab.terminalSessionId = some session := by
  simp [refersTo]

namespace WorkbenchState

variable {state next : WorkbenchState} {session : String}

/-- Some tab of a workbench refers to a session. -/
def Refers (state : WorkbenchState) (session : String) : Prop :=
  ∃ pane ∈ state.panes, ∃ tab ∈ pane.tabs, tab.refersTo session = true

instance (state : WorkbenchState) (session : String) :
    Decidable (state.Refers session) :=
  inferInstanceAs (Decidable (∃ pane ∈ state.panes, ∃ tab ∈ pane.tabs,
    tab.refersTo session = true))

theorem refers_iff :
    state.Refers session ↔
      ∃ content ∈ state.contents, content.refersTo session = true := by
  constructor
  · rintro ⟨pane, present, tab, inside, refers⟩
    exact ⟨tab.content, mem_contents.mpr
      ⟨pane, present, List.mem_map_of_mem inside⟩, refers⟩
  · rintro ⟨content, present, refers⟩
    obtain ⟨pane, panePresent, inside⟩ := mem_contents.mp present
    obtain ⟨tab, tabPresent, rfl⟩ := List.mem_map.mp inside
    exact ⟨pane, panePresent, tab, tabPresent, refers⟩

/-- What keeps the contents keeps what they refer to. -/
theorem Refers.mono (refers : state.Refers session)
    (kept : ∀ content ∈ state.contents, content.refersTo session = true →
      content ∈ next.contents) : next.Refers session := by
  obtain ⟨content, present, refersTo⟩ := refers_iff.mp refers
  exact refers_iff.mpr ⟨content, kept content present refersTo, refersTo⟩

end WorkbenchState

/-- The sessions that are closed with some tabs are those to which they refer
and no other tab does. -/
theorem mem_closeTerminalSessions {panes : List WorkbenchPane}
    {tabs : List WorkbenchTab} {session : String} :
    session ∈ closeTerminalSessions panes tabs ↔
      (∃ tab ∈ tabs, tab.refersTo session = true) ∧
        ∀ pane ∈ panes, ∀ tab ∈ pane.tabs,
          tab.id ∉ tabs.map WorkbenchTab.id → tab.refersTo session = false := by
  have mentions {tabs : List WorkbenchTab} :
      session ∈ terminalSessionIds tabs ↔
        ∃ tab ∈ tabs, tab.refersTo session = true := by
    rw [terminalSessionIds, List.mem_filterMap]
    refine exists_congr fun tab => and_congr_right fun _ => ?_
    rw [WorkbenchTab.refersTo_iff]
    by_cases terminal : tab.tool = .terminal <;> simp [terminal]
  rw [closeTerminalSessions, List.mem_eraseDups, List.mem_filter, mentions]
  refine and_congr_right fun _ => ?_
  rw [decide_eq_true_iff, mentions]
  simp only [List.mem_filter, List.mem_flatMap, decide_eq_true_iff]
  constructor
  · intro none pane panePresent tab present remains
    exact Bool.eq_false_iff.mpr fun refers =>
      none ⟨tab, ⟨⟨pane, panePresent, present⟩, remains⟩, refers⟩
  · rintro each ⟨tab, ⟨⟨pane, panePresent, present⟩, remains⟩, refers⟩
    have refersNot := each pane panePresent tab present remains
    rw [refers] at refersNot
    cases refersNot

/-! ## When sessions lose their owners -/

namespace TerminalTabs

/-- The client has created sessions to which only some tabs refer, and they are
not among those that are closed with these tabs. -/
def leaves (state : TerminalTabs) (tabs : List WorkbenchTab)
    (closing : List String) : Bool :=
  (closeTerminalSessions state.workbench.panes tabs).any fun session =>
    session ∈ state.created.map CreatedSession.terminalSessionId &&
      session ∉ state.closing ++ closing

/-- Closing the pane leaves a session to which only its tabs refer. -/
def closePaneLeaves (state : TerminalTabs) (paneId : String) : Bool :=
  1 < state.rendered.length &&
    state.leaves (state.workbench.removedTabs paneId)
      (state.paneSessions paneId)

/-- Closing the tab leaves a session to which only what goes with it refers. -/
def closeTabLeaves (state : TerminalTabs) (paneId tabId : String) : Bool :=
  (state.renderedPane paneId).any fun pane =>
    if 1 < pane.tabs.length then
      state.leaves (state.workbench.closedTabs paneId tabId)
        (state.tabSessions paneId tabId)
    else state.closePaneLeaves paneId

/-- The tab of a component is in its pane and refers to no session. -/
def awaits (state : TerminalTabs) (tool : TerminalTool) : Bool :=
  ((state.workbench.findPane tool.paneId).bind fun pane =>
    pane.findTab tool.tabId).any fun tab =>
      tab.tool == .terminal && (truthy tab.terminalSessionId).isNone

/-- A close misses sessions, or a session is recorded that its tab does not
await. -/
def orphans (state : TerminalTabs) : TerminalTabsInput → Bool
  | .performCloseWorkbenchTab paneId tabId =>
      state.closeTabLeaves paneId tabId
  | .performClosePane paneId => state.closePaneLeaves paneId
  | .created call _ =>
      state.calls[call]?.any fun call =>
        state.tools[call.tool]?.any fun tool =>
          tool.generation == call.generation && !state.awaits tool
  | _ => false

/-! ## Ownership -/

/-- Every session that was created has a tab, or its close has been issued, and
no tab has created two that are not closed. -/
structure Owned (state : TerminalTabs) : Prop where
  owner : ∀ session ∈ state.created,
    session.terminalSessionId ∈ state.closing ∨
      state.workbench.Refers session.terminalSessionId
  single : ∀ first ∈ state.created, ∀ second ∈ state.created,
    first.tabId = second.tabId →
      first.terminalSessionId ∉ state.closing →
        second.terminalSessionId ∉ state.closing → first = second

/-- What every step keeps besides: the tab that has created a session refers to
it for as long as it is there, unless the session is closed. -/
structure Sound (state : TerminalTabs) : Prop extends Owned state where
  sturdy : WorkbenchState.Sturdy state.workbench.panes
  tools : ∀ session ∈ state.created,
    session.tabId ∈ state.tools.map TerminalTool.tabId
  held : ∀ session ∈ state.created,
    session.terminalSessionId ∈ state.closing ∨
      ∀ content ∈ state.workbench.contents, content.id = session.tabId →
        content.refersTo session.terminalSessionId = true

section Sound

variable {state next : TerminalTabs}

/-- Nothing is created: sessions that are not closed keep their tabs, and new
tabs have ids that no component has. -/
theorem Sound.change (sound : Sound state)
    (sturdy : WorkbenchState.Sturdy next.workbench.panes)
    (created : next.created = state.created)
    (closing : state.closing ⊆ next.closing)
    (tools : state.tools.map TerminalTool.tabId ⊆
      next.tools.map TerminalTool.tabId)
    (owner : ∀ session ∈ state.created,
      session.terminalSessionId ∉ next.closing →
        state.workbench.Refers session.terminalSessionId →
          next.workbench.Refers session.terminalSessionId)
    (contents : ∀ content ∈ next.workbench.contents,
      content ∈ state.workbench.contents ∨
        content.id ∉ state.tools.map TerminalTool.tabId) :
    Sound next where
  sturdy := sturdy
  tools := by
    rw [created]
    exact fun session present => tools (sound.tools session present)
  owner := by
    rw [created]
    intro session present
    by_cases closed : session.terminalSessionId ∈ next.closing
    · exact Or.inl closed
    · right
      apply owner session present closed
      exact (sound.owner session present).resolve_left fun before =>
        closed (closing before)
  held := by
    rw [created]
    intro session present
    refine (sound.held session present).imp (fun before => closing before) ?_
    intro held content inNext same
    rcases contents content inNext with before | isNew
    · exact held content before same
    · exact absurd (same ▸ sound.tools session present) isNew
  single := by
    rw [created]
    intro first firstPresent second secondPresent same firstLive secondLive
    exact sound.single first firstPresent second secondPresent same
      (fun before => firstLive (closing before))
      (fun before => secondLive (closing before))

/-- A change of the workbench alone. -/
theorem Sound.workbench {workbench : WorkbenchState} (sound : Sound state)
    (sturdy : WorkbenchState.Sturdy workbench.panes)
    (kept : state.workbench.contents ⊆ workbench.contents)
    (contents : ∀ content ∈ workbench.contents,
      content ∈ state.workbench.contents ∨
        content.id ∉ state.tools.map TerminalTool.tabId) :
    Sound { state with workbench } :=
  sound.change sturdy rfl (List.Subset.refl _) (List.Subset.refl _)
    (fun _ _ _ refers => refers.mono fun _ present _ => kept present) contents

/-- A change of the components and requests alone. -/
theorem Sound.request {tools : List TerminalTool} {calls : List CreateCall}
    {rendered : List WorkbenchPane} (sound : Sound state)
    (kept : state.tools.map TerminalTool.tabId ⊆
      tools.map TerminalTool.tabId) :
    Sound { state with rendered, tools, calls } :=
  sound.change sound.sturdy rfl (List.Subset.refl _) kept
    (fun _ _ _ refers => refers) fun _ present => Or.inl present

/-! ## Opening and moving -/

/-- Opening a tab leaves sessions with their owners. -/
theorem Sound.openTabInPane {paneId : String} {tab : WorkbenchTab}
    (sound : Sound state) (fresh : tab.id ∉ state.workbench.tabIds)
    (isNew : tab.id ∉ state.tools.map TerminalTool.tabId) :
    Sound { state with
      workbench := state.workbench.openTabInPane paneId tab } := by
  apply sound.workbench
  · exact WorkbenchState.sturdy_openTabInPane sound.sturdy fresh
  · intro content present
    exact WorkbenchState.mem_contents_openTabInPane.mpr (Or.inl present)
  · intro content present
    rcases WorkbenchState.mem_contents_openTabInPane.mp present with
      before | ⟨-, rfl⟩
    · exact Or.inl before
    · exact Or.inr isNew

theorem Sound.openTabInActivePane {tab : WorkbenchTab}
    (sound : Sound state) (fresh : tab.id ∉ state.workbench.tabIds)
    (isNew : tab.id ∉ state.tools.map TerminalTool.tabId) :
    Sound { state with
      workbench := state.workbench.openTabInActivePane tab } := by
  unfold WorkbenchState.openTabInActivePane
  split
  · exact sound
  · exact sound.openTabInPane fresh isNew

/-- What an operation has done, and that its identifiers are new. -/
theorem operate_eq_some {operation : WorkbenchOperation}
    (taken : state.operate operation = some next) :
    next = { state with workbench := state.workbench.apply operation } ∧
      (∀ uuid ∈ operation.uuids, state.workbench.fresh uuid = true) ∧
        ∀ uuid ∈ operation.uuids,
          tabId .terminal uuid ∉ state.tools.map TerminalTool.tabId := by
  unfold operate WorkbenchState.step at taken
  split at taken
  · rename_i isNew
    split at taken
    · rename_i fresh
      cases taken
      refine ⟨rfl, List.all_eq_true.mp fresh, ?_⟩
      intro uuid generated
      simpa using List.all_eq_true.mp isNew uuid generated
    · cases taken
  · cases taken

/-! ## Closing -/

/-- A close that misses no session leaves none without an owner. -/
theorem Sound.close {workbench : WorkbenchState} {tabs : List WorkbenchTab}
    {closing : List String}
    (sound : Sound state)
    (found : state.leaves tabs closing = false)
    (sturdy : WorkbenchState.Sturdy workbench.panes)
    (removed : ∀ tab ∈ tabs, tab.content ∈ state.workbench.contents)
    (stays : ∀ content ∈ state.workbench.contents,
      content.id ∉ tabs.map WorkbenchTab.id → content ∈ workbench.contents)
    (contents : workbench.contents ⊆ state.workbench.contents) :
    Sound { state with closing := state.closing ++ closing, workbench } := by
  refine sound.change sturdy rfl (List.subset_append_left _ _)
    (List.Subset.refl _) ?_ fun content inside => Or.inl (contents inside)
  · intro session present live refers
    by_contra orphan
    have missed : session.terminalSessionId ∉
        closeTerminalSessions state.workbench.panes tabs := by
      intro last
      have closed := List.any_eq_false.mp found _ last
      rw [Bool.and_eq_true, not_and] at closed
      apply closed
      · exact decide_eq_true (List.mem_map_of_mem present)
      · exact decide_eq_true live
    apply missed
    have gone : ∀ content ∈ state.workbench.contents,
        content.refersTo session.terminalSessionId = true →
          content.id ∈ tabs.map WorkbenchTab.id := by
      intro content inBefore refersTo
      by_contra remains
      exact orphan (WorkbenchState.refers_iff.mpr
        ⟨content, stays content inBefore remains, refersTo⟩)
    obtain ⟨content, inBefore, refersTo⟩ := WorkbenchState.refers_iff.mp refers
    obtain ⟨tab, inTabs, same⟩ := List.mem_map.mp
      (gone content inBefore refersTo)
    have isContent : tab.content = content :=
      sound.sturdy.content_inj (removed tab inTabs) inBefore same
    refine mem_closeTerminalSessions.mpr ⟨⟨tab, inTabs, ?_⟩, ?_⟩
    · subst isContent
      exact refersTo
    · intro pane panePresent other inside remains
      refine Bool.eq_false_iff.mpr fun refersTo => remains ?_
      exact gone other.content (WorkbenchState.mem_contents.mpr
        ⟨pane, panePresent, List.mem_map_of_mem inside⟩) refersTo

/-- Closing a pane leaves sessions with their owners, or closes them. -/
theorem Sound.performClosePane {paneId : String} (sound : Sound state)
    (found : state.closePaneLeaves paneId = false) :
    Sound (state.performClosePane paneId) := by
  unfold TerminalTabs.performClosePane
  split
  · exact sound
  · rename_i several
    unfold closePaneLeaves at found
    rw [decide_eq_true (Nat.lt_of_not_le several), Bool.true_and] at found
    apply sound.close found
    · exact WorkbenchState.sturdy_removePane sound.sturdy
    · exact fun tab => WorkbenchState.content_of_removedTabs
    · exact fun content => WorkbenchState.mem_contents_removePane
    · exact fun content => WorkbenchState.mem_contents_of_removePane

/-- Closing a tab leaves sessions with their owners, or closes them. -/
theorem Sound.performCloseWorkbenchTab {paneId tabId : String}
    (sound : Sound state)
    (found : state.closeTabLeaves paneId tabId = false) :
    Sound (state.performCloseWorkbenchTab paneId tabId) := by
  unfold TerminalTabs.performCloseWorkbenchTab
  unfold closeTabLeaves at found
  split
  · exact sound
  · rename_i pane isRendered
    rw [isRendered, Option.any_some] at found
    split
    · rename_i several
      rw [if_pos several] at found
      apply sound.close found
      · exact WorkbenchState.sturdy_closeTab sound.sturdy
      · exact fun tab => WorkbenchState.content_of_closedTabs
      · exact fun content => WorkbenchState.mem_contents_closeTab
      · exact fun content => WorkbenchState.mem_contents_of_closeTab
    · rename_i alone
      rw [if_neg alone] at found
      exact sound.performClosePane found

/-! ## Answers -/

/-- A session of an earlier generation is closed when it is created. -/
theorem Sound.created_stale {tool : TerminalTool} {session : String}
    (sound : Sound state) (known : tool ∈ state.tools) :
    Sound { state with
      created := state.created ++ [⟨tool.tabId, session⟩]
      closing := state.closing ++ [session] } where
  sturdy := sound.sturdy
  tools := List.forall_mem_append.mpr
    ⟨sound.tools, List.forall_mem_singleton.mpr (List.mem_map_of_mem known)⟩
  owner := by
    refine List.forall_mem_append.mpr ⟨?_, ?_⟩
    · intro created before
      exact (sound.owner created before).imp_left (List.mem_append_left _)
    · simp
  held := by
    refine List.forall_mem_append.mpr ⟨?_, ?_⟩
    · intro created before
      exact (sound.held created before).imp_left (List.mem_append_left _)
    · simp
  single := by
    refine List.forall_mem_append.mpr ⟨?_, ?_⟩
    · intro first firstBefore
      refine List.forall_mem_append.mpr ⟨?_, ?_⟩
      · intro second secondBefore same firstLive secondLive
        rw [List.mem_append, not_or] at firstLive secondLive
        exact sound.single first firstBefore second secondBefore same
          firstLive.1 secondLive.1
      · simp
    · simp

/-- What it means that a session is awaited: there is a tab in the pane, and its
content refers to no session. -/
theorem awaits_eq_true {tool : TerminalTool}
    (awaited : state.awaits tool = true) :
    ∃ pane tab, state.workbench.findPane tool.paneId = some pane ∧
      pane.findTab tool.tabId = some tab ∧ tab.tool = .terminal ∧
        ∀ session, tab.content.refersTo session = false := by
  obtain ⟨tab, found, empty⟩ := (Option.any_eq_true _ _).mp awaited
  obtain ⟨pane, foundPane, foundTab⟩ := Option.bind_eq_some_iff.mp found
  rw [Bool.and_eq_true, beq_iff_eq, Option.isNone_iff_eq_none] at empty
  refine ⟨pane, tab, foundPane, foundTab, empty.1, ?_⟩
  intro session
  refine Bool.eq_false_iff.mpr fun refersTo => ?_
  have some := (WorkbenchTab.refersTo_iff.mp refersTo).2
  exact Option.some_ne_none session (some.symm.trans empty.2)

/-- A session that its tab awaits is recorded in it. -/
theorem Sound.created_awaited {tool : TerminalTool} {session : String}
    (sound : Sound state) (known : tool ∈ state.tools)
    (awaited : state.awaits tool = true) (named : session ≠ "") :
    Sound { state with
      created := state.created ++ [⟨tool.tabId, session⟩]
      workbench := state.workbench.setTerminalSessionId tool.paneId tool.tabId
        (some session) } := by
  obtain ⟨pane, tab, found, foundTab, terminal, empty⟩ :=
    awaits_eq_true awaited
  have recorded {content : WorkbenchTab} :=
    @WorkbenchState.mem_contents_setTerminalSessionId _ content _ _
      (some session) _ _ sound.sturdy found foundTab terminal
  have present : tab.content ∈ state.workbench.contents :=
    WorkbenchState.mem_contents.mpr
      ⟨pane, (WorkbenchState.findPane_eq_some found).1,
        List.mem_map_of_mem (WorkbenchPane.findTab_eq_some foundTab).1⟩
  have isTab : tab.content.id = tool.tabId :=
    (WorkbenchPane.findTab_eq_some foundTab).2
  -- the tab that is changed referred to none of the sessions before
  have kept (content : WorkbenchTab) (before : content ∈
      state.workbench.contents) (other : String)
      (refersTo : content.refersTo other = true) :
      content ∈ (state.workbench.setTerminalSessionId tool.paneId tool.tabId
        (some session)).contents := by
    refine recorded.mpr (Or.inl ⟨before, fun same => ?_⟩)
    rw [sound.sturdy.content_inj before present (same.trans isTab.symm),
      empty other] at refersTo
    cases refersTo
  have earlier (created : CreatedSession) (before : created ∈ state.created)
      (same : created.tabId = tool.tabId) :
      created.terminalSessionId ∈ state.closing := by
    refine (sound.held created before).resolve_right fun held => ?_
    have refersTo := held tab.content present (isTab.trans same.symm)
    rw [empty] at refersTo
    cases refersTo
  have refersNew : WorkbenchTab.refersTo
      { tab.content with terminalSessionId := some session } session = true :=
    WorkbenchTab.refersTo_iff.mpr ⟨terminal, by simp [truthy, named]⟩
  refine ⟨⟨?_, ?_⟩, ?_, ?_, ?_⟩
  · refine List.forall_mem_append.mpr ⟨?_, ?_⟩
    · intro created before
      refine (sound.owner created before).imp_right fun refers => ?_
      exact refers.mono fun content inBefore refersTo =>
        kept content inBefore _ refersTo
    · refine List.forall_mem_singleton.mpr ?_
      exact Or.inr (WorkbenchState.refers_iff.mpr
        ⟨_, recorded.mpr (Or.inr rfl), refersNew⟩)
  · refine List.forall_mem_append.mpr ⟨?_, ?_⟩
    · intro first firstBefore
      refine List.forall_mem_append.mpr ⟨?_, ?_⟩
      · exact sound.single first firstBefore
      · refine List.forall_mem_singleton.mpr ?_
        intro same firstLive _
        exact absurd (earlier first firstBefore same) firstLive
    · refine List.forall_mem_singleton.mpr ?_
      refine List.forall_mem_append.mpr ⟨?_, ?_⟩
      · intro second secondBefore same _ secondLive
        exact absurd (earlier second secondBefore same.symm) secondLive
      · simp
  · exact WorkbenchState.sturdy_setTerminalSessionId sound.sturdy
  · exact List.forall_mem_append.mpr
      ⟨sound.tools, List.forall_mem_singleton.mpr (List.mem_map_of_mem known)⟩
  · refine List.forall_mem_append.mpr ⟨?_, ?_⟩
    · intro created before
      by_cases same : created.tabId = tool.tabId
      · exact Or.inl (earlier created before same)
      · refine (sound.held created before).imp_right fun held => ?_
        intro content inNext isHere
        rcases recorded.mp inNext with ⟨inBefore, -⟩ | rfl
        · exact held content inBefore isHere
        · exact absurd (isHere.symm.trans isTab) same
    · refine List.forall_mem_singleton.mpr ?_
      right
      intro content inNext isHere
      rcases recorded.mp inNext with ⟨-, different⟩ | rfl
      · exact absurd isHere different
      · exact refersNew

/-- What a request was, when it is answered. -/
theorem answer_eq_some {index : Nat}
    {goesOn : CreateCall → TerminalTool → TerminalTabs → TerminalTabs}
    (taken : state.answer index goesOn = some next) :
    ∃ call tool, state.calls[index]? = some call ∧
      state.tools[call.tool]? = some tool ∧
        next = goesOn call tool { state with
          calls := state.calls.set index { call with answered := true } } := by
  obtain ⟨call, isCall, taken⟩ := Option.bind_eq_some_iff.mp taken
  obtain ⟨tool, isTool, taken⟩ := Option.bind_eq_some_iff.mp taken
  split at taken
  · cases taken
  · cases taken
    exact ⟨call, tool, isCall, isTool, rfl⟩

theorem Sound.createdBy {call : CreateCall} {tool : TerminalTool}
    {session : String} (sound : Sound state) (known : tool ∈ state.tools)
    (awaited : tool.generation = call.generation → state.awaits tool = true)
    (named : session ≠ "") :
    Sound (state.createdBy call tool session) := by
  unfold TerminalTabs.createdBy
  dsimp only
  split
  · exact sound.created_stale known
  · rename_i current
    exact sound.created_awaited known (awaited (not_not.mp current)) named

/-! ## Rendering and requests -/

theorem Sound.render (sound : Sound state) : Sound state.render := by
  apply sound.request
  intro tabId known
  obtain ⟨tool, present, rfl⟩ := List.mem_map.mp known
  refine List.mem_map.mpr
    ⟨_, List.mem_append_left _ (List.mem_map_of_mem present), ?_⟩
  rfl

/-- A terminal that opens is owned by its tab. -/
theorem Sound.openTerminal {index : Nat} (sound : Sound state)
    (taken : state.openTerminal index = some next) : Sound next := by
  obtain ⟨tool, isTool, taken⟩ := Option.bind_eq_some_iff.mp taken
  have same : state.tools.map TerminalTool.tabId ⊆
      (state.tools.set index
        { tool with generation := tool.generation + 1 }).map
          TerminalTool.tabId := by
    rw [List.map_set]
    intro tabId known
    obtain ⟨position, isTabId⟩ := List.mem_iff_getElem?.mp known
    refine List.mem_iff_getElem?.mpr ⟨position, ?_⟩
    rw [List.getElem?_set]
    split
    · rename_i here
      subst here
      rw [List.getElem?_map, isTool, Option.map_some] at isTabId
      have within := (List.getElem?_eq_some_iff.mp isTool).1
      rw [List.length_map, if_pos within]
      exact isTabId
    · exact isTabId
  split at taken
  · dsimp only at taken
    split at taken
    · cases taken
      exact sound.request same
    · cases taken
      exact sound.request same
  · cases taken

/-! ## Steps and runs -/

/-- A step that orphans no session keeps every session owned. -/
theorem Sound.step {input : TerminalTabsInput} (sound : Sound state)
    (kept : state.orphans input = false)
    (taken : state.step input = some next) : Sound next := by
  cases input with
  | openTerminalTab config uuid =>
      obtain ⟨rfl, fresh, isNew⟩ := operate_eq_some taken
      exact sound.openTabInActivePane
        (WorkbenchState.fresh_tab (fresh uuid (List.mem_singleton_self _))
          .terminal)
        (isNew uuid (List.mem_singleton_self _))
  | addTerminalTab paneId config uuid =>
      obtain ⟨rfl, fresh, isNew⟩ := operate_eq_some taken
      exact sound.openTabInPane
        (WorkbenchState.fresh_tab (fresh uuid (List.mem_singleton_self _))
          .terminal)
        (isNew uuid (List.mem_singleton_self _))
  | moveTab sourcePaneId tabId targetPaneId targetTabId position =>
      obtain ⟨rfl, -, -⟩ := operate_eq_some taken
      apply sound.workbench
      · exact WorkbenchState.sturdy_moveTab sound.sturdy
      · exact fun content => sound.sturdy.mem_contents_moveTab.mpr
      · exact fun content inside =>
          Or.inl (sound.sturdy.mem_contents_moveTab.mp inside)
  | moveTabToNewPane sourcePaneId tabId targetPaneId uuid =>
      obtain ⟨rfl, fresh, -⟩ := operate_eq_some taken
      apply sound.workbench
      · exact WorkbenchState.sturdy_moveTabToNewPane sound.sturdy
          (fresh uuid (List.mem_singleton_self _))
      · exact fun content => sound.sturdy.mem_contents_moveTabToNewPane.mpr
      · exact fun content inside =>
          Or.inl (sound.sturdy.mem_contents_moveTabToNewPane.mp inside)
  | performCloseWorkbenchTab paneId tabId =>
      cases taken
      exact sound.performCloseWorkbenchTab kept
  | performClosePane paneId =>
      cases taken
      exact sound.performClosePane kept
  | render =>
      cases taken
      exact sound.render
  | openTerminal tool => exact sound.openTerminal taken
  | created index session =>
      simp only [TerminalTabs.step] at taken
      split at taken
      · rename_i isNew
        obtain ⟨call, tool, isCall, isTool, rfl⟩ := answer_eq_some taken
        have answered : Sound { state with
            calls := state.calls.set index { call with answered := true } } :=
          sound.request (List.Subset.refl _)
        apply answered.createdBy (List.mem_of_getElem? isTool) _ isNew.1
        intro current
        have awaited : state.awaits tool = true := by
          simpa [orphans, isCall, isTool, current] using kept
        exact awaited
      · cases taken
  | failed call =>
      simp only [TerminalTabs.step] at taken
      obtain ⟨call, tool, -, -, rfl⟩ := answer_eq_some taken
      exact sound.request (List.Subset.refl _)

theorem Sound.initial {workbench : WorkbenchState}
    (wellFormed : workbench.WellFormed) :
    Sound (TerminalTabs.initial workbench) where
  sturdy := wellFormed.sturdy
  tools := nofun
  owner := nofun
  held := nofun
  single := nofun

end Sound

end TerminalTabs

end Web
end WhatsGoingOn
