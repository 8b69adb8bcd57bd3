import WhatsGoingOn.Host.Terminal

/-!
# The workbench

A workbench has panes, and a pane has tabs.  Its layout, and the state that
other modules keep for a tab, are left out.
-/

namespace WhatsGoingOn
namespace Web

open Host (TerminalLaunchSpec)

/-! ## Data -/

/-- The tools that a tab may show. -/
inductive WorkbenchTool where
  | daemon
  | files
  | processes
  | terminal
  | windows
  deriving DecidableEq, Repr

namespace WorkbenchTool

/-- The text of a tool. -/
def text : WorkbenchTool → String
  | .daemon => "daemon"
  | .files => "files"
  | .processes => "processes"
  | .terminal => "terminal"
  | .windows => "windows"

/-- `titleForTool`. -/
def title : WorkbenchTool → String
  | .daemon => "Daemon"
  | .files => "Files"
  | .processes => "Processes"
  | .terminal => "Terminal"
  | .windows => "Windows"

end WorkbenchTool

/-- Where a tab of the files begins. -/
inductive WorkbenchFilesView where
  | roots
  | home
  | trash
  deriving DecidableEq, Repr

/-- The title of a tab that begins there. -/
def titleForFilesView : WorkbenchFilesView → String
  | .roots => "Root"
  | .home => "Home"
  | .trash => "Trash"

/-- The pages on a process. -/
inductive WorkbenchProcessPage where
  | detail
  | children
  | heldResources
  | heldSockets
  | modules
  deriving DecidableEq, Repr

/-- A tab, with what each of the tools keeps in it. -/
structure WorkbenchTab where
  daemonClientDetailId : Option String := none
  daemonClientsPageOpen : Option Bool := none
  dirty : Option Bool := none
  filesView : Option WorkbenchFilesView := none
  id : String
  previousActiveTabId : Option String := none
  processDetailPid : Option Nat := none
  processPage : Option WorkbenchProcessPage := none
  title : String
  tool : WorkbenchTool
  terminalLaunch : Option TerminalLaunchSpec := none
  terminalLastKnownCwd : Option String := none
  terminalLastKnownTitle : Option String := none
  terminalSessionId : Option String := none
  windowDetailId : Option String := none
  deriving DecidableEq, Repr

/-- What a tab of the terminal is made with. -/
structure WorkbenchTerminalTabConfig where
  cwd : Option String := none
  launch : Option TerminalLaunchSpec := none
  terminalSessionId : Option String := none
  terminalTitle : Option String := none
  title : Option String := none
  deriving DecidableEq, Repr

/-- What a tab of the files is made with. -/
structure WorkbenchFilesTabConfig where
  filesView : Option WorkbenchFilesView := none
  deriving DecidableEq, Repr

/-- What a tab of the processes is made with. -/
structure WorkbenchProcessesTabConfig where
  processDetailPid : Option Nat := none
  processPage : Option WorkbenchProcessPage := none
  title : Option String := none
  deriving DecidableEq, Repr

/-- What a tab of the windows is made with. -/
structure WorkbenchWindowsTabConfig where
  title : Option String := none
  windowDetailId : Option String := none
  deriving DecidableEq, Repr

/-- What a tab keeps of its session. -/
structure WorkbenchTerminalSessionSnapshot where
  lastKnownCwd : Option String := none
  lastKnownTitle : Option String := none
  launch : Option TerminalLaunchSpec := none
  deriving DecidableEq, Repr

/-- Tabs of which one is shown. -/
structure WorkbenchPane where
  id : String
  tabs : List WorkbenchTab
  activeTabId : String
  deriving DecidableEq, Repr

/-- Panes of which one has the focus. -/
structure WorkbenchState where
  activePaneId : Option String
  panes : List WorkbenchPane
  deriving DecidableEq, Repr

/-- Where a tab is dropped. -/
inductive TabDropPosition where
  | before
  | after
  | last
  deriving DecidableEq, Repr

/-- The ids of the tabs of a pane. -/
def WorkbenchPane.tabIds (pane : WorkbenchPane) : List String :=
  pane.tabs.map WorkbenchTab.id

namespace WorkbenchState

/-- The ids of the panes. -/
def paneIds (state : WorkbenchState) : List String :=
  state.panes.map WorkbenchPane.id

/-- The ids of all tabs. -/
def tabIds (state : WorkbenchState) : List String :=
  state.panes.flatMap WorkbenchPane.tabIds

/-- The pane of an id. -/
def findPane (state : WorkbenchState) (paneId : String) :
    Option WorkbenchPane :=
  state.panes.find? fun pane => pane.id == paneId

end WorkbenchState

/-- The tab of an id. -/
def WorkbenchPane.findTab (pane : WorkbenchPane) (tabId : String) :
    Option WorkbenchTab :=
  pane.tabs.find? fun tab => tab.id == tabId

/-! ## New tabs and panes -/

/-- The id of a tab with a new identifier. -/
def tabId (tool : WorkbenchTool) (uuid : String) : String :=
  tool.text ++ "-" ++ uuid

/-- The id of a new pane. -/
def paneId (uuid : String) : String :=
  "pane-" ++ uuid

/-- A tab with the title of its tool. -/
def createWorkbenchTab (tool : WorkbenchTool) (uuid : String) : WorkbenchTab :=
  { id := tabId tool uuid, title := tool.title, tool }

/-- A tab of the files; the roots are shown where nothing else is asked. -/
def createFilesTab (config : WorkbenchFilesTabConfig) (uuid : String) :
    WorkbenchTab :=
  let filesView := config.filesView.getD .roots
  { createWorkbenchTab .files uuid with
    filesView := some filesView
    title := titleForFilesView filesView }

/-- A tab of the processes, on a process if one is given. -/
def createProcessesTab (config : WorkbenchProcessesTabConfig)
    (uuid : String) : WorkbenchTab :=
  { id := tabId .processes uuid
    processDetailPid := config.processDetailPid
    processPage := config.processDetailPid.map fun _ =>
      config.processPage.getD .detail
    title := config.title.getD "Processes"
    tool := .processes }

/-- A tab of the windows, on a window if one is given. -/
def createWindowsTab (config : WorkbenchWindowsTabConfig) (uuid : String) :
    WorkbenchTab :=
  { id := tabId .windows uuid
    title := config.title.getD "Windows"
    tool := .windows
    windowDetailId := config.windowDetailId }

/-- A tab of the terminal, whose session is begun later or given. -/
def createTerminalTab (config : WorkbenchTerminalTabConfig) (uuid : String) :
    WorkbenchTab :=
  { id := tabId .terminal uuid
    title := config.title.getD "Terminal"
    tool := .terminal
    terminalLastKnownCwd := config.cwd
    terminalLastKnownTitle := config.terminalTitle <|> config.title
    terminalLaunch := config.launch
    terminalSessionId := config.terminalSessionId }

/-- A copy of the tab under a new id; a terminal gets a session of its own. -/
def cloneWorkbenchTab (tab : WorkbenchTab) (uuid : String) : WorkbenchTab :=
  if tab.tool = .terminal then
    createTerminalTab
      { cwd := tab.terminalLastKnownCwd
        launch := tab.terminalLaunch
        terminalTitle := tab.terminalLastKnownTitle
        title := some tab.title } uuid
  else
    { tab with
      dirty := none
      id := tabId tab.tool uuid
      previousActiveTabId := none }

/-! ## Tabs of a pane -/

/-- A text that JavaScript takes for true. -/
def truthy (text : Option String) : Option String :=
  text.filter (· != "")

/-- Keep the active tab and the previous ones among the tabs. -/
def normalizePaneTabHistory (pane : WorkbenchPane) : WorkbenchPane :=
  { pane with
    activeTabId :=
      if pane.activeTabId ∈ pane.tabIds then pane.activeTabId
      else (pane.tabIds.head?).getD ""
    tabs := pane.tabs.map fun tab =>
      { tab with
        previousActiveTabId := (truthy tab.previousActiveTabId).filter
          fun previous => previous ≠ tab.id ∧ previous ∈ pane.tabIds } }

/-- The tab is shown, and remembers the tab that was shown before it. -/
def activatePaneTab (pane : WorkbenchPane) (tabId : String) : WorkbenchPane :=
  if tabId ∉ pane.tabIds then normalizePaneTabHistory pane
  else if pane.activeTabId = tabId then normalizePaneTabHistory pane
  else
    let previousActiveTabId :=
      if pane.activeTabId ∈ pane.tabIds then some pane.activeTabId else none
    normalizePaneTabHistory
      { pane with
        activeTabId := tabId
        tabs := pane.tabs.map fun tab =>
          if tab.id = tabId then { tab with previousActiveTabId } else tab }

/-- The tab that the closing one remembers, or else the first. -/
def fallbackActiveTabId (closingTab : Option WorkbenchTab)
    (tabs : List WorkbenchTab) : String :=
  match truthy (closingTab.bind WorkbenchTab.previousActiveTabId) with
  | some previous =>
      if tabs.any fun tab => tab.id == previous then previous
      else ((tabs.map WorkbenchTab.id).head?).getD ""
  | none => ((tabs.map WorkbenchTab.id).head?).getD ""

/-- Before or after a tab that is there, or else at the end. -/
def insertTab (tabs : List WorkbenchTab) (tab : WorkbenchTab)
    (targetTabId : Option String) (position : TabDropPosition) :
    List WorkbenchTab :=
  match position, truthy targetTabId with
  | .last, _ | _, none => tabs ++ [tab]
  | _, some target =>
      match tabs.findIdx? fun item => item.id == target with
      | none => tabs ++ [tab]
      | some targetIndex =>
          let insertIndex :=
            if position = .before then targetIndex else targetIndex + 1
          tabs.take insertIndex ++ tab :: tabs.drop insertIndex

/-- The tab is taken out and put in its place. -/
def moveTabWithinPane (pane : WorkbenchPane) (tabId : String)
    (targetTabId : Option String) (position : TabDropPosition) :
    WorkbenchPane :=
  if targetTabId = some tabId then pane
  else
    match pane.findTab tabId with
    | none => pane
    | some movingTab =>
        let remainingTabs := pane.tabs.filter fun tab => tab.id != tabId
        activatePaneTab
          { pane with
            tabs := insertTab remainingTabs movingTab targetTabId position }
          tabId

/-- A pane without one of its tabs. -/
def WorkbenchPane.without (pane : WorkbenchPane) (tabId : String) :
    WorkbenchPane :=
  let tabs := pane.tabs.filter fun tab => tab.id != tabId
  normalizePaneTabHistory
    { pane with
      tabs
      activeTabId :=
        if pane.activeTabId = tabId then
          fallbackActiveTabId (pane.findTab tabId) tabs
        else pane.activeTabId }

/-! ## Operations -/

namespace WorkbenchState

/-- Change the panes with an id. -/
def updatePane (state : WorkbenchState) (paneId : String)
    (update : WorkbenchPane → WorkbenchPane) : WorkbenchState :=
  { state with
    panes := state.panes.map fun pane =>
      if pane.id = paneId then update pane else pane }

/-- Change the tabs with an id in the panes with an id. -/
def updateTab (state : WorkbenchState) (paneId tabId : String)
    (update : WorkbenchTab → WorkbenchTab) : WorkbenchState :=
  state.updatePane paneId fun pane =>
    { pane with
      tabs := pane.tabs.map fun tab =>
        if tab.id = tabId then update tab else tab }

/-- Change the tabs of one tool with an id. -/
def updateToolTab (state : WorkbenchState) (paneId tabId : String)
    (tool : WorkbenchTool) (update : WorkbenchTab → WorkbenchTab) :
    WorkbenchState :=
  state.updateTab paneId tabId fun tab =>
    if tab.tool = tool then update tab else tab

/-- The session that the tab shows. -/
def setTerminalSessionId (state : WorkbenchState) (paneId tabId : String)
    (terminalSessionId : Option String) : WorkbenchState :=
  state.updateToolTab paneId tabId .terminal fun tab =>
    { tab with terminalSessionId }

/-- What the tab keeps of its session. -/
def setTerminalSessionSnapshot (state : WorkbenchState)
    (paneId tabId : String) (snapshot : WorkbenchTerminalSessionSnapshot) :
    WorkbenchState :=
  state.updateToolTab paneId tabId .terminal fun tab =>
    { tab with
      terminalLastKnownCwd := snapshot.lastKnownCwd
      terminalLastKnownTitle := snapshot.lastKnownTitle
      terminalLaunch := snapshot.launch }

/-- The tab has changes that are not saved. -/
def setTabDirty (state : WorkbenchState) (paneId tabId : String)
    (dirty : Bool) : WorkbenchState :=
  state.updateTab paneId tabId fun tab =>
    if tab.dirty.getD false = dirty then tab
    else { tab with dirty := if dirty then some true else none }

/-- The client whose details the tab shows. -/
def setDaemonClientDetailId (state : WorkbenchState) (paneId tabId : String)
    (daemonClientDetailId : Option String) : WorkbenchState :=
  state.updateToolTab paneId tabId .daemon fun tab =>
    { tab with daemonClientDetailId }

/-- The tab shows the page of the clients. -/
def setDaemonClientsPageOpen (state : WorkbenchState) (paneId tabId : String)
    (daemonClientsPageOpen : Bool) : WorkbenchState :=
  state.updateToolTab paneId tabId .daemon fun tab =>
    { tab with daemonClientsPageOpen := some daemonClientsPageOpen }

/-- The process that the tab shows, from its first page on. -/
def setProcessDetailPid (state : WorkbenchState) (paneId tabId : String)
    (processDetailPid : Option Nat) : WorkbenchState :=
  state.updateToolTab paneId tabId .processes fun tab =>
    { tab with
      processDetailPid
      processPage := processDetailPid.map fun _ => .detail }

/-- A page needs a process. -/
def setProcessPage (state : WorkbenchState) (paneId tabId : String)
    (processPage : WorkbenchProcessPage) : WorkbenchState :=
  state.updateToolTab paneId tabId .processes fun tab =>
    if tab.processDetailPid.isSome then
      { tab with processPage := some processPage }
    else tab

/-- The window that the tab shows. -/
def setWindowDetailId (state : WorkbenchState) (paneId tabId : String)
    (windowDetailId : Option String) : WorkbenchState :=
  state.updateToolTab paneId tabId .windows fun tab =>
    { tab with windowDetailId }

/-- `activePaneFromState`. -/
def activePane (state : WorkbenchState) : Option WorkbenchPane :=
  (state.activePaneId.bind state.findPane) <|> state.panes.head?

/-- The tab is put last and shown, and its pane has the focus. -/
def openTabInPane (state : WorkbenchState) (paneId : String)
    (tab : WorkbenchTab) : WorkbenchState :=
  { state.updatePane paneId fun pane =>
      activatePaneTab { pane with tabs := pane.tabs ++ [tab] } tab.id with
    activePaneId := some paneId }

/-- Without a pane no tab is opened. -/
def openTabInActivePane (state : WorkbenchState) (tab : WorkbenchTab) :
    WorkbenchState :=
  match truthy (state.activePane.map WorkbenchPane.id) with
  | none => state
  | some activePaneId => state.openTabInPane activePaneId tab

/-- `openToolTabInActivePane`. -/
def selectTool (state : WorkbenchState) (tool : WorkbenchTool)
    (uuid : String) : WorkbenchState :=
  match truthy (state.activePane.map WorkbenchPane.id) with
  | none => state
  | some activePaneId =>
      let opened := state.updatePane activePaneId fun pane =>
        match pane.tabs.find? fun tab => tab.tool == tool with
        | some existingTab => activatePaneTab pane existingTab.id
        | none =>
            let tab := createWorkbenchTab tool uuid
            activatePaneTab { pane with tabs := pane.tabs ++ [tab] } tab.id
      { opened with activePaneId := some activePaneId }

/-- The focus moves to a pane that is there. -/
def focusPane (state : WorkbenchState) (paneId : String) : WorkbenchState :=
  if state.activePaneId = some paneId then state
  else if paneId ∉ state.paneIds then state
  else { state with activePaneId := some paneId }

/-- The active tab of a pane, or its first. -/
def sourceTab (pane : WorkbenchPane) : Option WorkbenchTab :=
  pane.findTab pane.activeTabId <|> pane.tabs.head?

/-- A new pane with a copy of the source tab of a pane, or with the files. -/
def addPane (state : WorkbenchState) (sourcePaneId : Option String)
    (paneUuid tabUuid : String) : WorkbenchState :=
  let tab :=
    match (sourcePaneId.bind state.findPane).bind sourceTab with
    | none => createFilesTab {} tabUuid
    | some source => cloneWorkbenchTab source tabUuid
  { activePaneId := some (paneId paneUuid)
    panes := state.panes ++ [⟨paneId paneUuid, [tab], tab.id⟩] }

/-- The last pane stays. -/
def removePane (state : WorkbenchState) (paneId : String) : WorkbenchState :=
  if state.panes.length ≤ 1 then state
  else
    let panes := state.panes.filter fun pane => pane.id != paneId
    { panes
      activePaneId :=
        if state.activePaneId = some paneId then
          panes.head?.map WorkbenchPane.id
        else state.activePaneId }

/-- `duplicateTab`, when the tab exists. -/
def duplicateTab (state : WorkbenchState) (paneId tabId uuid : String) :
    WorkbenchState :=
  match (state.findPane paneId).bind fun pane => pane.findTab tabId with
  | none => state
  | some sourceTab =>
      let tab := cloneWorkbenchTab sourceTab uuid
      let opened := state.updatePane paneId fun pane =>
        activatePaneTab
          { pane with tabs := insertTab pane.tabs tab (some tabId) .after }
          tab.id
      { opened with activePaneId := some paneId }

/-- The tab is shown and its pane has the focus. -/
def selectTab (state : WorkbenchState) (paneId tabId : String) :
    WorkbenchState :=
  { state.updatePane paneId fun pane => activatePaneTab pane tabId with
    activePaneId := some paneId }

/-- The last tab of a pane stays. -/
def closeTab (state : WorkbenchState) (paneId tabId : String) :
    WorkbenchState :=
  state.updatePane paneId fun pane =>
    if pane.tabs.length ≤ 1 then pane else pane.without tabId

/-- A pane without one of its tabs, or no pane when it has no other. -/
def removeTab (pane : WorkbenchPane) (tabId : String) : List WorkbenchPane :=
  if (pane.tabs.filter fun tab => tab.id != tabId).isEmpty then []
  else [pane.without tabId]

/-- Moves a tab to a place in a pane, which may be its own. -/
def moveTab (state : WorkbenchState) (sourcePaneId tabId targetPaneId : String)
    (targetTabId : Option String) (position : TabDropPosition) :
    WorkbenchState :=
  match state.findPane sourcePaneId, state.findPane targetPaneId with
  | some sourcePane, some _ =>
      match sourcePane.findTab tabId with
      | none => state
      | some movingTab =>
          { activePaneId := some targetPaneId
            panes := state.panes.flatMap fun pane =>
              if sourcePaneId = targetPaneId ∧ pane.id = sourcePaneId then
                [moveTabWithinPane pane tabId targetTabId position]
              else if pane.id = sourcePaneId then removeTab pane tabId
              else if pane.id = targetPaneId then
                [activatePaneTab
                  { pane with
                    tabs := insertTab pane.tabs movingTab targetTabId position }
                  movingTab.id]
              else [pane] }
  | _, _ => state

/-- Moves a tab to a new pane, except for the only tab of the pane it is
dropped on. -/
def moveTabToNewPane (state : WorkbenchState)
    (sourcePaneId tabId targetPaneId uuid : String) : WorkbenchState :=
  match state.findPane sourcePaneId with
  | none => state
  | some sourcePane =>
      match sourcePane.findTab tabId with
      | none => state
      | some movingTab =>
          if sourcePaneId = targetPaneId ∧ sourcePane.tabs.length ≤ 1 then state
          else
            let newPane : WorkbenchPane :=
              ⟨paneId uuid, [{ movingTab with previousActiveTabId := none }],
                movingTab.id⟩
            let panes := state.panes.flatMap fun pane =>
              if pane.id ≠ sourcePaneId then [pane]
              else removeTab pane tabId
            { activePaneId := some (paneId uuid), panes := panes ++ [newPane] }

end WorkbenchState

/-- What is done with a workbench, with the identifiers it generates. -/
inductive WorkbenchOperation where
  | selectTool (tool : WorkbenchTool) (uuid : String)
  | focusPane (paneId : String)
  | addPane (sourcePaneId : Option String) (paneUuid tabUuid : String)
  | removePane (paneId : String)
  | addDaemonTab (paneId uuid : String)
  | addFilesTab (paneId : String) (config : WorkbenchFilesTabConfig)
      (uuid : String)
  | addProcessesTab (paneId : String) (config : WorkbenchProcessesTabConfig)
      (uuid : String)
  | addWindowsTab (paneId : String) (config : WorkbenchWindowsTabConfig)
      (uuid : String)
  | addTerminalTab (paneId : String) (config : WorkbenchTerminalTabConfig)
      (uuid : String)
  | openFilesTab (config : WorkbenchFilesTabConfig) (uuid : String)
  | openTerminalTab (config : WorkbenchTerminalTabConfig) (uuid : String)
  | duplicateTab (paneId tabId uuid : String)
  | selectTab (paneId tabId : String)
  | closeTab (paneId tabId : String)
  | moveTab (sourcePaneId tabId targetPaneId : String)
      (targetTabId : Option String) (position : TabDropPosition)
  | moveTabToNewPane (sourcePaneId tabId targetPaneId uuid : String)
  | setDaemonClientDetailId (paneId tabId : String)
      (daemonClientDetailId : Option String)
  | setDaemonClientsPageOpen (paneId tabId : String)
      (daemonClientsPageOpen : Bool)
  | setProcessDetailPid (paneId tabId : String) (processDetailPid : Option Nat)
  | setProcessPage (paneId tabId : String) (processPage : WorkbenchProcessPage)
  | setWindowDetailId (paneId tabId : String) (windowDetailId : Option String)
  | setTabDirty (paneId tabId : String) (dirty : Bool)
  | setTerminalSessionSnapshot (paneId tabId : String)
      (snapshot : WorkbenchTerminalSessionSnapshot)
  | setTerminalSessionId (paneId tabId : String)
      (terminalSessionId : Option String)
  deriving DecidableEq, Repr

namespace WorkbenchState

/-- The workbench of a machine that has no stored one. -/
def initial (paneUuid tabUuid : String) : WorkbenchState :=
  let initialTab := createFilesTab {} tabUuid
  ⟨some (paneId paneUuid), [⟨paneId paneUuid, [initialTab], initialTab.id⟩]⟩

/-- What an operation does. -/
def apply (state : WorkbenchState) : WorkbenchOperation → WorkbenchState
  | .selectTool tool uuid => state.selectTool tool uuid
  | .focusPane paneId => state.focusPane paneId
  | .addPane sourcePaneId paneUuid tabUuid =>
      state.addPane sourcePaneId paneUuid tabUuid
  | .removePane paneId => state.removePane paneId
  | .addDaemonTab paneId uuid =>
      state.openTabInPane paneId (createWorkbenchTab .daemon uuid)
  | .addFilesTab paneId config uuid =>
      state.openTabInPane paneId (createFilesTab config uuid)
  | .addProcessesTab paneId config uuid =>
      state.openTabInPane paneId (createProcessesTab config uuid)
  | .addWindowsTab paneId config uuid =>
      state.openTabInPane paneId (createWindowsTab config uuid)
  | .addTerminalTab paneId config uuid =>
      state.openTabInPane paneId (createTerminalTab config uuid)
  | .openFilesTab config uuid =>
      state.openTabInActivePane (createFilesTab config uuid)
  | .openTerminalTab config uuid =>
      state.openTabInActivePane (createTerminalTab config uuid)
  | .duplicateTab paneId tabId uuid => state.duplicateTab paneId tabId uuid
  | .selectTab paneId tabId => state.selectTab paneId tabId
  | .closeTab paneId tabId => state.closeTab paneId tabId
  | .moveTab sourcePaneId tabId targetPaneId targetTabId position =>
      state.moveTab sourcePaneId tabId targetPaneId targetTabId position
  | .moveTabToNewPane sourcePaneId tabId targetPaneId uuid =>
      state.moveTabToNewPane sourcePaneId tabId targetPaneId uuid
  | .setDaemonClientDetailId paneId tabId daemonClientDetailId =>
      state.setDaemonClientDetailId paneId tabId daemonClientDetailId
  | .setDaemonClientsPageOpen paneId tabId daemonClientsPageOpen =>
      state.setDaemonClientsPageOpen paneId tabId daemonClientsPageOpen
  | .setProcessDetailPid paneId tabId processDetailPid =>
      state.setProcessDetailPid paneId tabId processDetailPid
  | .setProcessPage paneId tabId processPage =>
      state.setProcessPage paneId tabId processPage
  | .setWindowDetailId paneId tabId windowDetailId =>
      state.setWindowDetailId paneId tabId windowDetailId
  | .setTabDirty paneId tabId dirty => state.setTabDirty paneId tabId dirty
  | .setTerminalSessionSnapshot paneId tabId snapshot =>
      state.setTerminalSessionSnapshot paneId tabId snapshot
  | .setTerminalSessionId paneId tabId terminalSessionId =>
      state.setTerminalSessionId paneId tabId terminalSessionId

end WorkbenchState

namespace WorkbenchOperation

/-- The identifiers that an operation generates. -/
def uuids : WorkbenchOperation → List String
  | .selectTool _ uuid | .addDaemonTab _ uuid | .addFilesTab _ _ uuid
  | .addProcessesTab _ _ uuid | .addWindowsTab _ _ uuid
  | .addTerminalTab _ _ uuid | .openFilesTab _ uuid | .openTerminalTab _ uuid
  | .duplicateTab _ _ uuid | .moveTabToNewPane _ _ _ uuid => [uuid]
  | .addPane _ paneUuid tabUuid => [paneUuid, tabUuid]
  | _ => []

/-- The id of the opened tab that an operation returns. -/
def report (state : WorkbenchState) : WorkbenchOperation → Option String
  | .addDaemonTab _ uuid => some (tabId .daemon uuid)
  | .addFilesTab _ _ uuid => some (tabId .files uuid)
  | .addProcessesTab _ _ uuid => some (tabId .processes uuid)
  | .addWindowsTab _ _ uuid => some (tabId .windows uuid)
  | .duplicateTab paneId tabId uuid =>
      ((state.findPane paneId).bind fun pane => pane.findTab tabId).map
        fun source => (cloneWorkbenchTab source uuid).id
  | _ => none

/-- The pane in which an operation opens or selects a tab without asking
whether it exists. -/
def assumedPane : WorkbenchOperation → Option String
  | .addDaemonTab paneId _ | .addFilesTab paneId _ _
  | .addProcessesTab paneId _ _ | .addWindowsTab paneId _ _
  | .addTerminalTab paneId _ _ | .selectTab paneId _ => some paneId
  | _ => none

/-- An operation opens or selects a tab of a pane that does not exist. -/
def stale (state : WorkbenchState) (operation : WorkbenchOperation) : Bool :=
  operation.assumedPane.any fun paneId => paneId ∉ state.paneIds

end WorkbenchOperation

/-- No pane and no tab has an id made from an identifier. -/
def WorkbenchState.fresh (state : WorkbenchState) (uuid : String) : Bool :=
  paneId uuid ∉ state.paneIds &&
    [.daemon, .files, .processes, .terminal, .windows].all fun tool =>
      tabId tool uuid ∉ state.tabIds

/-- One operation, whose generated identifiers are fresh. -/
def WorkbenchState.step (state : WorkbenchState)
    (operation : WorkbenchOperation) : Option WorkbenchState :=
  if operation.uuids.all state.fresh then some (state.apply operation)
  else none

end Web
end WhatsGoingOn
