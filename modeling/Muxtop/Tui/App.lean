import Muxtop.Tui.Keymap
import Muxtop.Tui.Notify
import Muxtop.Tui.Palette

/-!
# The application state machine

Reference: `muxtop-tui/src/app.rs`, `lib.rs`, `clipboard.rs`.

`step` is one turn of the event loop. What the host answers while an event is handled comes with the
event. Redraw scheduling and the sparkline histories are left out.
-/

namespace Muxtop.Tui

open Muxtop.Core

/-- Which overlay, if any, currently owns the keyboard. -/
inductive Overlay
  | none | palette | command | help | actions | inspector | log
deriving DecidableEq, Repr

/-- A pending action that requires user confirmation. -/
inductive ConfirmAction
  | kill (pid : UInt32) (name : String) (signal : Signal)
  | renice (pid : UInt32) (name : String) (delta : ℤ)
  | stopContainer (id name : String)
  | killContainer (id name : String)
  | restartContainer (id name : String)
deriving DecidableEq, Repr

/-- What the mouse can do; `other` stands for clicks and drags. -/
inductive MouseEventKind
  | scrollDown | scrollUp | other
deriving DecidableEq, Repr

/-- A call that changes something outside muxtop. -/
inductive Effect
  | killProcess (pid : UInt32) (signal : Signal)
  | reniceProcess (pid : UInt32) (nice : ℤ)
  | stopContainer (id : String)
  | killContainer (id : String)
  | restartContainer (id : String)
  | toggleScope
deriving DecidableEq, Repr

/-- Whether the TUI is monitoring the local machine or a remote server. -/
inductive ConnectionMode
  | «local» | remote (hostname addr : String)
deriving DecidableEq, Repr

/-- What the host answers while one event is handled: the clock in nanoseconds, before that its readings
while expired toasts are dropped, one for each toast, then the system calls behind the process actions, and
whether the terminal takes an escape sequence. -/
structure World where
  now : ℕ
  toastClock : ℕ → ℕ
  killProcess : UInt32 → Signal → Except String Unit
  getProcessPriority : UInt32 → Except String ℤ
  reniceProcess : UInt32 → ℤ → Except String Unit
  terminalWrite : Bool

/-- Full application state for the TUI. -/
structure AppState extends Views where
  overlay : Overlay := .none
  palette : PaletteState := .new
  confirm : Option ConfirmAction := none
  notifier : Notifier := {}
  themeKind : ThemeKind := .tokyoNight
  paused : Bool := false
  actionsSelected : ℕ := 0
  overlayScroll : ℕ := 0
  running : Bool := true
  /-- Whether a container engine is attached. -/
  containerEngine : Bool := false
  /-- Whether a cluster engine is attached. -/
  clusterEngine : Bool := false
  connectionMode : ConnectionMode := .local
  /-- The calls made so far. No code reads it. -/
  performed : List Effect := []

/-- Configuration passed from CLI arguments to the TUI. -/
structure CliConfig where
  filter : Option String := none
  sortField : SortField := .cpu
  treeMode : Bool := false
  connectionMode : ConnectionMode := .local
  theme : ThemeKind := .tokyoNight

/-- `clipboard::copy` -/
def clipboardCopy (w : World) (text : String) : Except String Unit :=
  if text.isEmpty then .error "nothing to copy"
  else if 4096 < text.utf8ByteSize then .error "selection is too large to copy"
  else if w.terminalWrite then .ok ()
  else .error "terminal write failed"

namespace AppState

/-- `with_config`, with the engines that `run` attaches. -/
def withConfig (config : CliConfig) (containerEngine clusterEngine : Bool) : AppState :=
  { sortField := config.sortField
    treeMode := config.treeMode
    filterInput := config.filter.getD ""
    themeKind := config.theme
    connectionMode := config.connectionMode
    containerEngine := containerEngine
    clusterEngine := clusterEngine }

/-- Change what the tables show. -/
def mapViews (s : AppState) (f : Views → Views) : AppState := { s with toViews := f s.toViews }

variable (s : AppState)

def isRemote : Bool :=
  match s.connectionMode with
  | .remote _ _ => true
  | .local => false

def quit : AppState := { s with running := false }

/-- Record a call. -/
def perform (effect : Effect) : AppState := { s with performed := s.performed ++ [effect] }

section

variable (lib : Lib) (w : World)

/-- Post a message with an explicit severity. -/
def notify (level : Level) (msg : String) : AppState :=
  { s with notifier := s.notifier.push w.now level msg }

/-! ## Overlays -/

def openOverlay (overlay : Overlay) : AppState := { s with overlay := overlay, overlayScroll := 0 }

/-- Close whatever overlay is open. -/
def closeOverlay : AppState :=
  { s with
    overlay := .none
    overlayScroll := 0
    palette := { s.palette with input := "", selected := 0, arg := none } }

/-- Commands that cannot work against a remote host. -/
def remoteBlockedCommands : List Command :=
  [.killProcess, .forceKillProcess, .killNamed, .niceDown, .niceUp, .stopContainer, .killContainer,
    .restartContainer, .stopNamed, .restartNamed, .kubeToggleScope]

/-- The commands to leave out of the palette. -/
def excludedCommands : List Command := if s.isRemote then remoteBlockedCommands else []

def refilterPalette : AppState :=
  { s with palette := s.palette.refilterCtx lib s.excludedCommands (some s.tab) }

def openPalette : AppState :=
  { s with overlay := .palette, palette := { s.palette with input := "", selected := 0 } }
    |>.refilterPalette lib

def openCommandLine : AppState :=
  { s with overlay := .command, palette := { s.palette with input := "", selected := 0 } }
    |>.refilterPalette lib

/-! ## Row actions -/

/-- Copy the selected row's identifier to the system clipboard. -/
def copySelection : AppState :=
  match s.selectedIdentifier lib with
  | none => s.notify w .info "Nothing selected"
  | some id =>
    match clipboardCopy w id with
    | .ok () => s.notify w .success s!"Copied {id}"
    | .error e => s.notify w .error s!"Clipboard unavailable: {e}"

def requestKill (signal : Signal) : AppState :=
  match s.selectedProcess with
  | some proc => { s with confirm := some (.kill proc.pid proc.name signal) }
  | none => s.notify w .info "No process selected"

def requestRenice (delta : ℤ) : AppState :=
  match s.selectedProcess with
  | some proc => { s with confirm := some (.renice proc.pid proc.name delta) }
  | none => s.notify w .info "No process selected"

def remoteRefusal : String := "Actions are disabled in remote mode"

def requestContainerAction (build : String → String → ConfirmAction) : AppState :=
  if s.isRemote then s.notify w .warning remoteRefusal
  else match s.selectedContainer with
    | some c => { s with confirm := some (build c.idFull c.name) }
    | none => s

/-- Flip the Kube tab between the configured namespace and all namespaces. -/
def toggleKubeScope : AppState :=
  if s.clusterEngine then
    { s.perform .toggleScope with kubeSelected := 0, kubeScrollOffset := 0 }
  else
    s.notify w .warning "Namespace scope is local-only (unavailable in remote mode / --no-kube)"

/-- Hand a confirmed container action to the engine. -/
def executeContainerAction (effect : Effect) : AppState :=
  if s.containerEngine then s.perform effect
  else s.notify w .error "No container engine is configured"

def signalName : Signal → String
  | .kill => "SIGKILL"
  | .term => "SIGTERM"

/-- Execute a confirmed action and report the outcome. -/
def executeConfirm : ConfirmAction → AppState
  | .kill pid name signal =>
    let s := s.perform (.killProcess pid signal)
    let sigName := signalName signal
    match w.killProcess pid signal with
    | .ok () => s.notify w .success s!"Sent {sigName} to {name} (PID {pid})"
    | .error e => s.notify w .error s!"Kill failed: {e}"
  | .renice pid name delta =>
    let current := match w.getProcessPriority pid with
      | .ok nice => nice
      | .error _ => 0
    let newNice := current + delta
    let s := s.perform (.reniceProcess pid newNice)
    match w.reniceProcess pid newNice with
    | .ok () => s.notify w .success s!"Reniced {name} (PID {pid}) to nice={newNice}"
    | .error e => s.notify w .error s!"Renice failed: {e}"
  | .stopContainer id _ => s.executeContainerAction w (.stopContainer id)
  | .killContainer id _ => s.executeContainerAction w (.killContainer id)
  | .restartContainer id _ => s.executeContainerAction w (.restartContainer id)

/-! ## Actions -/

/-- One step back: overlay, then toasts, then filter editing, then the filter itself. -/
def goBack : AppState :=
  if s.overlay ≠ .none then s.closeOverlay
  else if !s.notifier.isEmpty then { s with notifier := s.notifier.dismissAll }
  else if s.filterEditing then s.mapViews (·.setFilterEditing false)
  else if !s.filterText.isEmpty then s.mapViews (·.setFilter lib w.now "")
  else s

/-- The actions offered by `x` on the active tab, in keymap order. -/
def tabActions : List Action :=
  ((bindingsFor s.tab).filter fun b =>
    b.scope = .tab s.tab && (b.group = .actions && b.isPrimary) &&
      !(s.isRemote && b.action.isLocalOnly)).map (·.action)

def togglePause : AppState :=
  let s := { s with paused := !s.paused }
  s.notify w .info (if s.paused then "Paused — press Space to resume" else "Resumed")

/-- A manual refresh can but un-freeze a paused view: collection runs on its own schedule. -/
def refresh : AppState :=
  if s.paused then { s with paused := false }.notify w .info "Resumed"
  else s.notify w .info "Refreshing on the next collector tick"

def openInspector : AppState :=
  if s.itemCount lib = 0 then s.notify w .info "Nothing selected" else s.openOverlay .inspector

def openActionsMenu : AppState :=
  if s.tabActions.isEmpty then s.notify w .info "No actions available on this tab"
  else { s with actionsSelected := 0 }.openOverlay .actions

/-- What an action does, the remote guard apart. -/
def runAction : Action → AppState
  | .quit => s.quit
  | .help => s.openOverlay .help
  | .palette => s.openPalette lib
  | .commandMode => s.openCommandLine lib
  | .toggleLog => s.openOverlay .log
  | .togglePause => s.togglePause w
  | .refresh => s.refresh w
  | .nextTab => s.mapViews fun v => v.goToTab v.tab.next
  | .prevTab => s.mapViews fun v => v.goToTab v.tab.prev
  | .goTab tab => s.mapViews (·.goToTab tab)
  | .nextSubview => s.mapViews (·.cycleSubview lib 1)
  | .prevSubview => s.mapViews (·.cycleSubview lib (-1))
  | .rowDown => s.mapViews (·.moveSelection lib 1)
  | .rowUp => s.mapViews (·.moveSelection lib (-1))
  | .rowPageDown => s.mapViews (·.moveSelection lib Views.page)
  | .rowPageUp => s.mapViews (·.moveSelection lib (-Views.page))
  | .rowHalfDown => s.mapViews (·.moveSelection lib (Views.page / 2 : ℕ))
  | .rowHalfUp => s.mapViews (·.moveSelection lib (-(Views.page / 2 : ℕ)))
  | .rowFirst => s.mapViews (·.selectIndex lib 0)
  | .rowLast => s.mapViews fun v => v.selectIndex lib (v.itemCount lib - 1)
  | .colLeft => { s with colScroll := s.colScroll - 1 }
  | .colRight => { s with colScroll := min (s.colScroll + 1) Views.maxColScroll }
  | .openInspector => s.openInspector lib w
  | .actionsMenu => s.openActionsMenu w
  | .copySelection => s.copySelection lib w
  | .openFilter => s.mapViews (·.setFilterEditing true)
  | .back => s.goBack lib w
  | .cycleSort => s.mapViews (·.cycleSort lib)
  | .reverseSort => s.mapViews (·.reverseSort lib)
  | .toggleTree => s.mapViews (·.toggleTree lib)
  | .renice delta => s.requestRenice w delta
  | .kill signal => s.requestKill w signal
  | .containerStop => s.requestContainerAction w .stopContainer
  | .containerKill => s.requestContainerAction w .killContainer
  | .containerRestart => s.requestContainerAction w .restartContainer
  | .kubeSubview sv => s.mapViews (·.switchKubeSubview lib sv)
  | .toggleKubeScope => s.toggleKubeScope w
  | .gpuSubview sv => s.mapViews (·.switchGpuSubview sv)

/-- Perform an action, whatever asked for it; a local-only one is refused against a remote host. -/
def dispatch (action : Action) : AppState :=
  if action.isLocalOnly && s.isRemote then s.notify w .warning remoteRefusal
  else s.runAction lib w action

/-! ## Commands -/

/-- `kill <name>`: the first of the visible processes whose name or command contains the needle. -/
def killNamed (needle : String) : AppState :=
  let needleLower := lib.lower.toLowercase needle
  let found := s.visibleProcesses.filter fun p =>
    Text.contains (lib.lower.toLowercase p.name) needleLower ||
      Text.contains (lib.lower.toLowercase p.command) needleLower
  match found with
  | [] => s.notify w .warning s!"No process matches \x60{needle}\x60"
  | target :: _ =>
    let extra := found.length
    let s :=
      if 1 < extra then
        s.notify w .info s!"{extra} processes match \x60{needle}\x60 — targeting the busiest"
      else s
    { s with confirm := some (.kill target.pid target.name .term) }

/-- `stop <name>` and `restart <name>` -/
def containerNamed (needle : String) (build : String → String → ConfirmAction) : AppState :=
  if s.isRemote then s.notify w .warning remoteRefusal
  else
    let needleLower := lib.lower.toLowercase needle
    let found := s.sortedFilteredContainersCache.find? fun c =>
      Text.contains (lib.lower.toLowercase c.name) needleLower ||
        Text.contains (lib.lower.toLowercase c.image) needleLower ||
        Text.startsWith (lib.lower.toLowercase c.id) needleLower
    match found with
    | some c => { s with confirm := some (build c.idFull c.name) }
    | none => s.notify w .warning s!"No container matches \x60{needle}\x60"

/-- The column of the Network tab that a name stands for. -/
def networkSortNamed (f : String) : Option NetworkSortField :=
  if f = "name" ∨ f = "interface" then some .name
  else if f = "rx" ∨ f = "down" then some .rxRate
  else if f = "tx" ∨ f = "up" then some .txRate
  else if f = "errors" ∨ f = "err" then some .errors
  else none

def containerSortNamed (f : String) : Option ContainerSortField :=
  if f = "name" then some .name
  else if f = "cpu" then some .cpu
  else if f = "mem" ∨ f = "memory" then some .mem
  else if f = "rx" ∨ f = "net" then some .netRx
  else if f = "tx" then some .netTx
  else if f = "uptime" ∨ f = "age" then some .uptime
  else none

def processSortNamed (f : String) : Option SortField :=
  if f = "cpu" then some .cpu
  else if f = "mem" ∨ f = "memory" then some .mem
  else if f = "pid" then some .pid
  else if f = "name" ∨ f = "command" then some .name
  else if f = "user" then some .user
  else none

/-- Re-sort the active tab by a named column, where it has it; the GPU tab sorts the processes. -/
def sortViewsByName (f : String) (v : Views) : Option Views :=
  match v.tab with
  | .network => (networkSortNamed f).map fun field => { v with netSortField := field }
  | .containers => (containerSortNamed f).map (v.setContainerSort lib ·)
  | .kube => none
  | _ => (processSortNamed f).map (v.setProcessSort lib ·)

/-- `sort <field>` -/
def sortByName (field : String) : AppState :=
  let f := lib.lower.toLowercase (Text.trim field)
  match sortViewsByName lib f s.toViews with
  | some v => { s with toViews := v }.notify w .info s!"Sorted by {f}"
  | none => s.notify w .warning s!"\x60{f}\x60 is not a sortable column on this tab"

/-- `theme <name>` -/
def setTheme (name : String) : AppState :=
  match ThemeKind.parse lib.lower name with
  | .ok kind => { s with themeKind := kind }.notify w .success s!"Theme: {kind.name}"
  | .error e => s.notify w .warning e

/-- `tab <name>` -/
def goToTabNamed (name : String) : AppState :=
  let n := lib.lower.toLowercase (Text.trim name)
  match Tab.all.find? fun t => Text.startsWith (lib.lower.toLowercase t.label) n with
  | some tab => s.mapViews (·.goToTab tab)
  | none => s.notify w .warning s!"No tab named \x60{name}\x60"

def usage (cmd : Command) : AppState := s.notify w .info s!"Usage: {cmd.shortcut}"

/-- What an argument-free command does, the remote guard apart. -/
def runCommand (cmd : Command) : AppState :=
  match cmd with
  | .quit => s.dispatch lib w .quit
  | .toggleTreeView => (s.mapViews (·.goToTab .processes)).dispatch lib w .toggleTree
  | .sortByCpu => s.mapViews (·.setProcessSort lib .cpu)
  | .sortByMem => s.mapViews (·.setProcessSort lib .mem)
  | .sortByPid => s.mapViews (·.setProcessSort lib .pid)
  | .sortByName => s.mapViews (·.setProcessSort lib .name)
  | .sortByUser => s.mapViews (·.setProcessSort lib .user)
  | .toggleSortOrder => s.mapViews (·.reverseSort lib)
  | .cycleSort => s.mapViews (·.cycleSort lib)
  | .switchToGeneral => s.mapViews (·.goToTab .general)
  | .switchToProcesses => s.mapViews (·.goToTab .processes)
  | .switchToNetwork => s.mapViews (·.goToTab .network)
  | .switchToContainers => s.mapViews (·.goToTab .containers)
  | .switchToKube => s.mapViews (·.goToTab .kube)
  | .openFilter => s.mapViews (·.setFilterEditing true)
  | .clearFilter => s.mapViews (·.setFilter lib w.now "")
  | .nextTab => s.mapViews fun v => v.goToTab v.tab.next
  | .prevTab => s.mapViews fun v => v.goToTab v.tab.prev
  | .killProcess => s.requestKill w .term
  | .forceKillProcess => s.requestKill w .kill
  | .niceDown => s.requestRenice w 1
  | .niceUp => s.requestRenice w (-1)
  | .sortNetByRx => { s with netSortField := .rxRate }
  | .sortNetByTx => { s with netSortField := .txRate }
  | .sortNetByName => { s with netSortField := .name }
  | .sortNetByErrors => { s with netSortField := .errors }
  | .sortContainersByCpu => s.mapViews (·.setContainerSort lib .cpu)
  | .sortContainersByMem => s.mapViews (·.setContainerSort lib .mem)
  | .sortContainersByName => s.mapViews (·.setContainerSort lib .name)
  | .sortContainersByNetRx => s.mapViews (·.setContainerSort lib .netRx)
  | .stopContainer => s.requestContainerAction w .stopContainer
  | .killContainer => s.requestContainerAction w .killContainer
  | .restartContainer => s.requestContainerAction w .restartContainer
  | .showHelp => s.openOverlay .help
  | .togglePause => s.dispatch lib w .togglePause
  | .refreshNow => s.dispatch lib w .refresh
  | .showLog => s.openOverlay .log
  | .inspectRow => s.dispatch lib w .openInspector
  | .copyRowId => s.copySelection lib w
  | .kubePods => s.mapViews fun v => (v.goToTab .kube).switchKubeSubview lib .pods
  | .kubeNodes => s.mapViews fun v => (v.goToTab .kube).switchKubeSubview lib .nodes
  | .kubeDeployments => s.mapViews fun v => (v.goToTab .kube).switchKubeSubview lib .deployments
  | .kubeToggleScope => (s.mapViews (·.goToTab .kube)).toggleKubeScope w
  | .killNamed | .stopNamed | .restartNamed | .sortBy | .filterBy | .setTheme | .goToTab => s.usage w cmd
  -- the only tab switch that leaves the filter editing alone
  | .switchToGpu => { s with tab := .gpu }

/-- Execute an argument-free command from the palette. -/
def executeCommand (cmd : Command) : AppState :=
  if s.isRemote && remoteBlockedCommands.contains cmd then s.notify w .warning remoteRefusal
  else s.runCommand lib w cmd

/-- Execute a palette command with its optional argument. -/
def executeInvocation (cmd : Command) (arg : Option String) : AppState :=
  match cmd, arg with
  | .killNamed, some name => s.killNamed lib w name
  | .stopNamed, some name => s.containerNamed lib w name .stopContainer
  | .restartNamed, some name => s.containerNamed lib w name .restartContainer
  | .sortBy, some field => s.sortByName lib w field
  | .filterBy, some text => s.mapViews (·.setFilter lib w.now text)
  | .setTheme, some name => s.setTheme lib w name
  | .goToTab, some name => s.goToTabNamed lib w name
  | cmd, _ => if cmd.isVerbOnly then s.usage w cmd else s.executeCommand lib w cmd

/-! ## Keys -/

/-- `MAX_FILTER_LEN` -/
def maxFilterLen : ℕ := 256

/-- Keys while the confirm dialog is up. -/
def handleConfirmKey (key : KeyEvent) : AppState :=
  match key.code with
  | .char 'y' | .char 'Y' | .enter =>
    match s.confirm with
    | some action => { s with confirm := none }.executeConfirm w action
    | none => s
  | .char 'n' | .char 'N' | .esc => { s with confirm := none }
  | _ => s

/-- Remember a chosen command and close the palette. -/
def leavePalette (cmd : Command) : AppState :=
  { s with palette := s.palette.remember cmd }.closeOverlay

/-- Keys while the palette or command line is open. -/
def handlePaletteKey (key : KeyEvent) : AppState :=
  match key.code with
  | .esc => s.closeOverlay
  | .enter =>
    match s.palette.filtered[s.palette.selected]? with
    | some (cmd, _) =>
      let arg := s.palette.arg
      (s.leavePalette cmd).executeInvocation lib w cmd arg
    | none => s
  | .down =>
    { s with palette := { s.palette with
        selected := clampSelection (s.palette.selected + 1) s.palette.filtered.length } }
  | .up => { s with palette := { s.palette with selected := s.palette.selected - 1 } }
  | .backspace =>
    { s with palette := { s.palette with input := Text.pop s.palette.input } }.refilterPalette lib
  | .char c =>
    if key.modifiers.control then
      -- a control chord is no text
      if c = 'p' ∨ c = 'k' then s.closeOverlay else s
    else if s.palette.input.utf8ByteSize < maxFilterLen then
      { s with palette := { s.palette with input := s.palette.input.push c } }.refilterPalette lib
    else s
  | _ => s

/-- Keys shared by the read-only, scrollable overlays. -/
def handleScrollableOverlayKey (key : KeyEvent) : AppState :=
  let down := { s with overlayScroll := s.overlayScroll + 1 }
  let up := { s with overlayScroll := s.overlayScroll - 1 }
  match key.code with
  | .esc | .char 'q' => s.closeOverlay
  | .char '?' => if s.overlay = .help then s.closeOverlay else s
  | .enter => if s.overlay = .inspector then s.closeOverlay else s
  | .char 'l' => if key.modifiers.control then s.closeOverlay else s
  | .down | .char 'j' => down
  | .up | .char 'k' => up
  | .pageDown => { s with overlayScroll := s.overlayScroll + Views.page }
  | .pageUp => { s with overlayScroll := s.overlayScroll - Views.page }
  | .home | .char 'g' => { s with overlayScroll := 0 }
  | .char 'y' => if s.overlay = .inspector then s.copySelection lib w else s
  | _ => s

/-- Keys while the actions menu is open. -/
def handleActionsKey (key : KeyEvent) : AppState :=
  match key.code with
  | .esc | .char 'x' => s.closeOverlay
  | .down | .char 'j' =>
    { s with actionsSelected := clampSelection (s.actionsSelected + 1) s.tabActions.length }
  | .up | .char 'k' => { s with actionsSelected := s.actionsSelected - 1 }
  | .enter =>
    match s.tabActions[s.actionsSelected]? with
    | some action => s.closeOverlay.dispatch lib w action
    | none => s
  | _ => s

/-- Keys while a filter input has the keyboard. -/
def handleFilterKey (v : Views) (key : KeyEvent) : Views :=
  match key.code with
  | .esc => v.setFilterEditing false
  | .enter => (v.setFilterEditing false).afterFilterChange lib w.now true
  | .backspace => (v.setFilterText (Text.pop v.filterText)).afterFilterChange lib w.now false
  | .char c =>
    if key.modifiers.control then v
    else if v.filterText.utf8ByteSize < maxFilterLen then
      (v.setFilterText (v.filterText.push c)).afterFilterChange lib w.now false
    else v
  | _ => v

def expireToasts : AppState := { s with notifier := s.notifier.expire w.toastClock }

/-- Keys that the keymap resolves, where nothing else has the keyboard. -/
def handleBoundKey (key : KeyEvent) : AppState :=
  match resolve key.code key.modifiers s.tab with
  | some action => s.dispatch lib w action
  | none => s

/-- Route a key press to whatever currently owns the keyboard: the confirm dialog, an overlay, the filter
input or the keymap, in this order. -/
def routeKey (key : KeyEvent) : AppState :=
  if s.confirm.isSome then s.handleConfirmKey w key
  else match s.overlay with
    | .palette | .command => s.handlePaletteKey lib w key
    | .help | .log | .inspector => s.handleScrollableOverlayKey lib w key
    | .actions => s.handleActionsKey lib w key
    | .none =>
      if s.filterEditing then s.mapViews (handleFilterKey lib w · key) else s.handleBoundKey lib w key

/-- Ctrl+C quits from every mode; any other key is routed. -/
def handleKeyEvent (key : KeyEvent) : AppState :=
  let s := s.expireToasts w
  if key.code = .char 'c' ∧ key.modifiers.control then s.quit else s.routeKey lib w key

/-! ## Other events -/

def handleMouseEvent (kind : MouseEventKind) : AppState :=
  if s.overlay ≠ .none then
    match kind with
    | .scrollDown => { s with overlayScroll := s.overlayScroll + Views.wheelRows }
    | .scrollUp => { s with overlayScroll := s.overlayScroll - Views.wheelRows }
    | .other => s
  else
    match kind with
    | .scrollDown => s.mapViews (·.scrollRows lib Views.wheelRows)
    | .scrollUp => s.mapViews (·.scrollRows lib (-Views.wheelRows))
    | .other => s

/-- Update the snapshot and recompute derived views, unless paused. -/
def applySnapshot (snapshot : SystemSnapshot) : AppState :=
  if s.paused then s else s.mapViews (·.takeSnapshot lib snapshot)

end

end AppState

/-- What the loop takes up in one turn: an event, or the outcome of a container action. -/
inductive Event
  | tick
  | key (key : KeyEvent)
  | mouse (kind : MouseEventKind)
  | resize (width height : UInt16)
  | snapshot (snapshot : SystemSnapshot)
  | outcome (level : Level) (msg : String)

/-- An event together with the host's answers while it is handled. -/
structure Input where
  world : World
  event : Event

/-- A host that does what it is asked. -/
def World.obliging (now : ℕ) : World where
  now := now
  toastClock _ := now
  killProcess _ _ := .ok ()
  getProcessPriority _ := .ok 0
  reniceProcess _ _ := .ok ()
  terminalWrite := true

/-- A key pressed at a time, without modifiers. -/
def Input.press (now : ℕ) (code : KeyCode) : Input := ⟨.obliging now, .key ⟨code, .none⟩⟩

/-- A snapshot that arrives at a time. -/
def Input.arrive (now : ℕ) (snapshot : SystemSnapshot) : Input := ⟨.obliging now, .snapshot snapshot⟩

namespace AppState

/-- What the body of the event loop does with an event. -/
def handle (s : AppState) (lib : Lib) (w : World) : Event → AppState
  | .tick => s.expireToasts w
  | .key key => s.handleKeyEvent lib w key
  | .mouse kind => s.handleMouseEvent lib kind
  | .resize _ _ => s
  | .snapshot snapshot => s.applySnapshot lib snapshot
  | .outcome level msg => s.notify w level msg

/-- One turn of the event loop, which stops once the user has quit. -/
def step (lib : Lib) (s : AppState) (input : Input) : AppState :=
  if s.running then s.handle lib input.world input.event else s

end AppState

end Muxtop.Tui
