import WhatsGoingOn.Web.Workbench

/-!
# Terminal tabs

Each tab of a pane that shows a terminal has a component while it is rendered.
The component asks the daemon for a session when its tab refers to none, and
records the session in the tab that has its pane id and its tab id.  Sessions
are closed with the tabs that refer to them, as these were rendered last.  The
connection of the client is left out.
-/

namespace WhatsGoingOn
namespace Web

/-- A component of a terminal tab; it stays in the list when its tab has left
its pane. -/
structure TerminalTool where
  paneId : String
  tabId : String
  mounted : Bool
  generation : Nat
  deriving DecidableEq, Repr

/-- A `createTerminalSession` of a component, of the generation that was current
then. -/
structure CreateCall where
  tool : Nat
  generation : Nat
  answered : Bool
  deriving DecidableEq, Repr

/-- A session that the daemon has created, and the tab that asked for it. -/
structure CreatedSession where
  tabId : String
  terminalSessionId : String
  deriving DecidableEq, Repr

/-- The workbench, its panes as they were rendered last, the components and
their requests, the sessions they have created, and the sessions for which
`CloseTerminalSession` has been issued. -/
structure TerminalTabs where
  workbench : WorkbenchState
  rendered : List WorkbenchPane
  tools : List TerminalTool
  calls : List CreateCall
  created : List CreatedSession
  closing : List String
  deriving DecidableEq, Repr

/-- What happens to the terminal tabs. -/
inductive TerminalTabsInput where
  | openTerminalTab (config : WorkbenchTerminalTabConfig) (uuid : String)
  | addTerminalTab (paneId : String) (config : WorkbenchTerminalTabConfig)
      (uuid : String)
  | moveTab (sourcePaneId tabId targetPaneId : String)
      (targetTabId : Option String) (position : TabDropPosition)
  | moveTabToNewPane (sourcePaneId tabId targetPaneId uuid : String)
  | performCloseWorkbenchTab (paneId tabId : String)
  | performClosePane (paneId : String)
  | render
  | openTerminal (tool : Nat)
  | created (call : Nat) (terminalSessionId : String)
  | failed (call : Nat)
  deriving DecidableEq, Repr

/-- The sessions that tabs refer to. -/
def terminalSessionIds (tabs : List WorkbenchTab) : List String :=
  tabs.filterMap fun tab =>
    if tab.tool = .terminal then truthy tab.terminalSessionId else none

/-- `closeTerminalSessions`: the sessions of some tabs to which no other tab
refers. -/
def closeTerminalSessions (panes : List WorkbenchPane)
    (tabs : List WorkbenchTab) : List String :=
  let remaining := terminalSessionIds
    ((panes.flatMap WorkbenchPane.tabs).filter fun tab =>
      tab.id ∉ tabs.map WorkbenchTab.id)
  ((terminalSessionIds tabs).filter (· ∉ remaining)).eraseDups

/-- The terminal tabs of some panes, as components know them. -/
def terminalTabs (panes : List WorkbenchPane) : List (String × String) :=
  panes.flatMap fun pane =>
    (pane.tabs.filter fun tab => tab.tool = .terminal).map fun tab =>
      (pane.id, tab.id)

namespace TerminalTabs

/-- Nothing has been rendered or asked. -/
def initial (workbench : WorkbenchState) : TerminalTabs :=
  ⟨workbench, [], [], [], [], []⟩

/-- The pane of an id as it was last rendered. -/
def renderedPane (state : TerminalTabs) (paneId : String) :
    Option WorkbenchPane :=
  state.rendered.find? fun pane => pane.id == paneId

/-- A tab, as it was rendered last. -/
def renderedTab (state : TerminalTabs) (paneId tabId : String) :
    Option WorkbenchTab :=
  (state.renderedPane paneId).bind fun pane => pane.findTab tabId

/-- The identifiers of new tabs are ones that no tab has had. -/
def operate (state : TerminalTabs) (operation : WorkbenchOperation) :
    Option TerminalTabs :=
  if operation.uuids.all fun uuid =>
      tabId .terminal uuid ∉ state.tools.map TerminalTool.tabId then
    (state.workbench.step operation).map fun workbench =>
      { state with workbench }
  else none

/-- The sessions that are closed with a tab. -/
def tabSessions (state : TerminalTabs) (paneId tabId : String) :
    List String :=
  closeTerminalSessions state.rendered
    (state.renderedTab paneId tabId).toList

/-- The sessions that are closed with a pane. -/
def paneSessions (state : TerminalTabs) (paneId : String) : List String :=
  closeTerminalSessions state.rendered
    (((state.renderedPane paneId).map WorkbenchPane.tabs).getD [])

/-- The pane's sessions are closed, and the pane is removed unless it is the
last. -/
def performClosePane (state : TerminalTabs) (paneId : String) :
    TerminalTabs :=
  if state.rendered.length ≤ 1 then state
  else
    { state with
      closing := state.closing ++ state.paneSessions paneId
      workbench := state.workbench.removePane paneId }

/-- The tab's session is closed and the tab removed, or the pane with its last
tab. -/
def performCloseWorkbenchTab (state : TerminalTabs) (paneId tabId : String) :
    TerminalTabs :=
  match state.renderedPane paneId with
  | none => state
  | some pane =>
      if 1 < pane.tabs.length then
        { state with
          closing := state.closing ++ state.tabSessions paneId tabId
          workbench := state.workbench.closeTab paneId tabId }
      else state.performClosePane paneId

/-- Components of tabs that have gone are unmounted, and new ones are
mounted. -/
def render (state : TerminalTabs) : TerminalTabs :=
  let tabs := terminalTabs state.workbench.panes
  let kept := state.tools.map fun tool =>
    { tool with mounted := tool.mounted && (tool.paneId, tool.tabId) ∈ tabs }
  let mounted := kept.filter TerminalTool.mounted
  let new := tabs.filter fun ids =>
    !mounted.any fun tool => (tool.paneId, tool.tabId) == ids
  { state with
    rendered := state.workbench.panes
    tools := kept ++ new.map fun ids =>
      (⟨ids.1, ids.2, true, 0⟩ : TerminalTool) }

/-- The effect that opens a terminal, up to the request for a session.  A tab
that refers to a session is attached to it. -/
def openTerminal (state : TerminalTabs) (index : Nat) : Option TerminalTabs :=
  state.tools[index]?.bind fun tool =>
    if tool.mounted then
      let generation := tool.generation + 1
      let next :=
        { state with
          tools := state.tools.set index { tool with generation } }
      let tab := state.renderedTab tool.paneId tool.tabId
      let launches := (tab.bind WorkbenchTab.terminalLaunch).any fun launch =>
        launch.command != ""
      if (truthy (tab.bind WorkbenchTab.terminalSessionId)).isSome ||
          !launches then
        some next
      else
        some { next with calls := next.calls ++ [⟨index, generation, false⟩] }
    else none

/-- What `openTerminal` does with a new session. -/
def createdBy (state : TerminalTabs) (call : CreateCall) (tool : TerminalTool)
    (terminalSessionId : String) : TerminalTabs :=
  let created := state.created ++ [⟨tool.tabId, terminalSessionId⟩]
  if tool.generation ≠ call.generation then
    { state with created, closing := state.closing ++ [terminalSessionId] }
  else
    { state with
      created
      workbench := state.workbench.setTerminalSessionId tool.paneId tool.tabId
        (some terminalSessionId) }

/-- A request for a session is answered. -/
def answer (state : TerminalTabs) (index : Nat)
    (goesOn : CreateCall → TerminalTool → TerminalTabs → TerminalTabs) :
    Option TerminalTabs :=
  state.calls[index]?.bind fun call =>
    state.tools[call.tool]?.bind fun tool =>
      if call.answered then none
      else
        some (goesOn call tool { state with
          calls := state.calls.set index { call with answered := true } })

/-- One step of the terminal tabs.  The ids of sessions are new. -/
def step (state : TerminalTabs) : TerminalTabsInput → Option TerminalTabs
  | .openTerminalTab config uuid =>
      state.operate (.openTerminalTab config uuid)
  | .addTerminalTab paneId config uuid =>
      state.operate (.addTerminalTab paneId config uuid)
  | .moveTab sourcePaneId tabId targetPaneId targetTabId position =>
      state.operate
        (.moveTab sourcePaneId tabId targetPaneId targetTabId position)
  | .moveTabToNewPane sourcePaneId tabId targetPaneId uuid =>
      state.operate (.moveTabToNewPane sourcePaneId tabId targetPaneId uuid)
  | .performCloseWorkbenchTab paneId tabId =>
      some (state.performCloseWorkbenchTab paneId tabId)
  | .performClosePane paneId => some (state.performClosePane paneId)
  | .render => some state.render
  | .openTerminal tool => state.openTerminal tool
  | .created call terminalSessionId =>
      if terminalSessionId ≠ "" ∧ terminalSessionId ∉ state.closing ∧
          terminalSessionId ∉
            state.created.map CreatedSession.terminalSessionId then
        state.answer call fun call tool answered =>
          answered.createdBy call tool terminalSessionId
      else none
  | .failed call => state.answer call fun _ _ answered => answered

end TerminalTabs

end Web
end WhatsGoingOn
