import Muxtop.Tui.Views

/-!
# The command palette

Reference: `muxtop-tui/src/app.rs`, `Command` and `PaletteState`.

The fuzzy scores come from the matcher library; what the palette makes of them is here.
-/

namespace Muxtop.Tui

open StableSort

/-- All available commands in the palette. -/
inductive Command
  | quit | toggleTreeView | sortByCpu | sortByMem | sortByPid | sortByName | sortByUser
  | toggleSortOrder | cycleSort | switchToGeneral | switchToProcesses | openFilter | nextTab | prevTab
  | killProcess | forceKillProcess | niceDown | niceUp | clearFilter | switchToNetwork | sortNetByRx
  | sortNetByTx | sortNetByName | sortNetByErrors | switchToContainers | sortContainersByCpu
  | sortContainersByMem | sortContainersByName | sortContainersByNetRx | stopContainer
  | killContainer | restartContainer | switchToKube | switchToGpu | showHelp | togglePause | refreshNow
  | showLog | inspectRow | copyRowId | kubePods | kubeNodes | kubeDeployments | kubeToggleScope
  | killNamed | stopNamed | restartNamed | sortBy | filterBy | setTheme | goToTab
deriving DecidableEq, Repr

namespace Command

/-- `Command::ALL` -/
def all : List Command := [
  .quit, .toggleTreeView, .sortByCpu, .sortByMem, .sortByPid, .sortByName, .sortByUser,
  .toggleSortOrder, .cycleSort, .switchToGeneral, .switchToProcesses, .openFilter, .nextTab,
  .prevTab, .killProcess, .forceKillProcess, .niceDown, .niceUp, .clearFilter, .switchToNetwork,
  .sortNetByRx, .sortNetByTx, .sortNetByName, .sortNetByErrors, .switchToContainers,
  .sortContainersByCpu, .sortContainersByMem, .sortContainersByName, .sortContainersByNetRx,
  .stopContainer, .killContainer, .restartContainer, .switchToKube, .switchToGpu, .showHelp,
  .togglePause, .refreshNow, .showLog, .inspectRow, .copyRowId, .kubePods, .kubeNodes,
  .kubeDeployments, .kubeToggleScope, .killNamed, .stopNamed, .restartNamed, .sortBy, .filterBy,
  .setTheme, .goToTab]

/-- The verb that introduces this command's argument form, if it has one. -/
def verb : Command → Option String
  | .killNamed => some "kill"
  | .stopNamed => some "stop"
  | .restartNamed => some "restart"
  | .sortBy => some "sort"
  | .filterBy => some "filter"
  | .setTheme => some "theme"
  | .goToTab => some "tab"
  | _ => none

/-- Whether this command is meaningless without an argument. -/
def isVerbOnly (c : Command) : Bool := c.verb.isSome

/-- Which tab a command belongs to, for ranking. -/
def homeTab : Command → Option Tab
  | .toggleTreeView | .sortByCpu | .sortByMem | .sortByPid | .sortByName | .sortByUser
  | .killProcess | .forceKillProcess | .killNamed | .niceDown | .niceUp => some .processes
  | .sortNetByRx | .sortNetByTx | .sortNetByName | .sortNetByErrors => some .network
  | .sortContainersByCpu | .sortContainersByMem | .sortContainersByName | .sortContainersByNetRx
  | .stopContainer | .killContainer | .restartContainer | .stopNamed | .restartNamed =>
    some .containers
  | .kubePods | .kubeNodes | .kubeDeployments | .kubeToggleScope => some .kube
  | _ => none

def label : Command → String
  | .quit => "Quit"
  | .toggleTreeView => "Toggle tree view"
  | .sortByCpu => "Sort by CPU"
  | .sortByMem => "Sort by Memory"
  | .sortByPid => "Sort by PID"
  | .sortByName => "Sort by Name"
  | .sortByUser => "Sort by User"
  | .toggleSortOrder => "Toggle sort order"
  | .cycleSort => "Cycle sort field"
  | .switchToGeneral => "Switch to General tab"
  | .switchToProcesses => "Switch to Processes tab"
  | .openFilter => "Open filter"
  | .nextTab => "Next tab"
  | .prevTab => "Previous tab"
  | .killProcess => "Kill process (SIGTERM)"
  | .forceKillProcess => "Force kill (SIGKILL)"
  | .niceDown => "Lower priority (+1)"
  | .niceUp => "Raise priority (-1)"
  | .clearFilter => "Clear filter"
  | .switchToNetwork => "Switch to Network tab"
  | .sortNetByRx => "Sort network by RX"
  | .sortNetByTx => "Sort network by TX"
  | .sortNetByName => "Sort network by name"
  | .sortNetByErrors => "Sort network by errors"
  | .switchToContainers => "Switch to Containers tab"
  | .sortContainersByCpu => "Sort containers by CPU"
  | .sortContainersByMem => "Sort containers by memory"
  | .sortContainersByName => "Sort containers by name"
  | .sortContainersByNetRx => "Sort containers by network RX"
  | .stopContainer => "Stop container (SIGTERM)"
  | .killContainer => "Kill container (SIGKILL)"
  | .restartContainer => "Restart container"
  | .switchToKube => "Switch to Kubernetes tab"
  | .switchToGpu => "Switch to GPU tab"
  | .showHelp => "Help — keyboard reference"
  | .togglePause => "Pause / resume refresh"
  | .refreshNow => "Refresh now"
  | .showLog => "Message log"
  | .inspectRow => "Inspect selected row"
  | .copyRowId => "Copy row identifier"
  | .kubePods => "Kube: Pods sub-view"
  | .kubeNodes => "Kube: Nodes sub-view"
  | .kubeDeployments => "Kube: Deployments sub-view"
  | .kubeToggleScope => "Kube: toggle namespace scope"
  | .killNamed => "Kill process by name"
  | .stopNamed => "Stop container by name"
  | .restartNamed => "Restart container by name"
  | .sortBy => "Sort by field"
  | .filterBy => "Filter by text"
  | .setTheme => "Switch theme"
  | .goToTab => "Switch tab by name"

def shortcut : Command → String
  | .quit => "q"
  | .toggleTreeView => "t"
  | .sortByCpu => "F3"
  | .sortByMem => "F4"
  | .sortByPid => "F1"
  | .sortByName => "F2"
  | .sortByUser => "F5"
  | .toggleSortOrder => "S"
  | .cycleSort => "s"
  | .switchToGeneral => "Alt+1"
  | .switchToProcesses => "Alt+2"
  | .openFilter => "/"
  | .nextTab => "Tab"
  | .prevTab => "Shift+Tab"
  | .killProcess => "F9"
  | .forceKillProcess => "F10"
  | .niceDown => "F7"
  | .niceUp => "F8"
  | .clearFilter => "Esc"
  | .switchToNetwork => "Alt+3"
  | .sortNetByRx => ""
  | .sortNetByTx => ""
  | .sortNetByName => ""
  | .sortNetByErrors => ""
  | .switchToContainers => "Alt+4"
  | .sortContainersByCpu => ""
  | .sortContainersByMem => ""
  | .sortContainersByName => ""
  | .sortContainersByNetRx => ""
  | .stopContainer => "F9"
  | .killContainer => "F10"
  | .restartContainer => "F11"
  | .switchToKube => "Alt+5"
  | .switchToGpu => "Alt+6"
  | .showHelp => "?"
  | .togglePause => "Space"
  | .refreshNow => "r"
  | .showLog => "Ctrl+L"
  | .inspectRow => "Enter"
  | .copyRowId => "y"
  | .kubePods => "P"
  | .kubeNodes => "N"
  | .kubeDeployments => "D"
  | .kubeToggleScope => "A"
  | .killNamed => "kill <name>"
  | .stopNamed => "stop <name>"
  | .restartNamed => "restart <name>"
  | .sortBy => "sort <field>"
  | .filterBy => "filter <text>"
  | .setTheme => "theme <name>"
  | .goToTab => "tab <name>"

/-- The search haystack: label and shortcut combined. -/
def searchText (c : Command) : String := s!"{c.label} {c.shortcut}"

end Command

/-- State for the command palette overlay. -/
structure PaletteState where
  input : String := ""
  selected : ℕ := 0
  /-- Filtered commands with match scores. -/
  filtered : List (Command × Option UInt16)
  /-- Argument parsed out of a `verb rest` input. -/
  arg : Option String := none
  /-- Commands run this session, most recent first. -/
  history : List Command := []
deriving DecidableEq, Repr

namespace PaletteState

def new : PaletteState :=
  { filtered := (Command.all.filter fun c => !c.isVerbOnly).map fun c => (c, none) }

/-- `HISTORY_LEN` -/
def historyLen : ℕ := 5

/-- Record an executed command so it floats to the top next time. -/
def remember (p : PaletteState) (cmd : Command) : PaletteState :=
  { p with history := (cmd :: p.history.filter (· ≠ cmd)).take historyLen }

/-- `u16::saturating_add` -/
def saturatingAdd16 (a b : UInt16) : UInt16 := UInt16.ofNat (min (a.toNat + b.toNat) 65535)

section

variable (lib : Lib)

/-- Split `verb rest` into a command and its argument. -/
def parseVerb (input : String) : Option (Command × String) := do
  let (head, rest) ← Text.splitOnceWhitespace input
  let head := lib.lower.toLowercase head
  let cmd ← Command.all.find? fun c => c.verb = some head
  some (cmd, Text.trim rest)

/-- Recently used first, then the active tab's commands, then the rest. -/
def rank (history : List Command) (tab : Option Tab) (c : Command) : ℕ × ℕ :=
  let recency := (history.idxOf? c).getD historyLen
  let context := match c.homeTab, tab with
    | some home, some active => if home = active then 0 else 2
    | none, _ => 1
    | _, _ => 2
  (recency, context)

/-- What a command gains for belonging to the tab in front of the user. -/
def bonus (tab : Option Tab) (c : Command) : UInt16 :=
  match c.homeTab, tab with
  | some home, some active => if home = active then 24 else 0
  | none, _ => 8
  | _, _ => 0

/-- The commands that a fuzzy query finds, best first. -/
def fuzzyMatches (input : String) (available : List Command) (tab : Option Tab) :
    List (Command × UInt16) :=
  let scored := available.filterMap fun c =>
    (lib.score input c.searchText).map fun score => (c, saturatingAdd16 score (bonus tab c))
  sortByKeyRev (·.2) scored

/-- Recompute the filtered results, ranking the active tab's commands first. -/
def refilterCtx (p : PaletteState) (excluded : List Command) (tab : Option Tab) : PaletteState :=
  match (parseVerb lib p.input).filter fun found => !excluded.contains found.1 with
  | some (cmd, arg) =>
    -- an argument form collapses the list to the single command it names
    { p with arg := some arg, filtered := [(cmd, some 65535)], selected := 0 }
  | none =>
    let available := Command.all.filter fun c => !c.isVerbOnly && !excluded.contains c
    let filtered :=
      if p.input.isEmpty then
        let cmp a b :=
          let ra := rank p.history tab a
          let rb := rank p.history tab b
          (compare ra.1 rb.1).then (compare ra.2 rb.2)
        (sortBy cmp available).map fun c => (c, none)
      else (fuzzyMatches lib p.input available tab).map fun (c, score) => (c, some score)
    { p with arg := none, filtered := filtered, selected := clampSelection p.selected filtered.length }

/-! ## What the list offers -/

variable {lib} {p : PaletteState} {excluded : List Command} {tab : Option Tab}

/-- The list offers no excluded command. -/
theorem refilterCtx_offers {c : Command} {score : Option UInt16}
    (h : (c, score) ∈ (p.refilterCtx lib excluded tab).filtered) : c ∉ excluded := by
  unfold refilterCtx at h
  -- A typed verb is the only line offered, and it was filtered by the exclusions itself.
  split at h
  case h_1 cmd arg hverb =>
    obtain ⟨-, hfree⟩ := Option.filter_eq_some_iff.1 hverb
    obtain ⟨rfl, -⟩ := Prod.mk.inj (List.mem_singleton.1 h)
    simpa using hfree
  case h_2 =>
    have hmem : c ∈ Command.all.filter fun c => !c.isVerbOnly && !excluded.contains c := by
      dsimp only at h
      split_ifs at h with hempty
      · obtain ⟨c', hc, heq⟩ := List.mem_map.1 h
        obtain ⟨rfl, -⟩ := Prod.mk.inj heq
        exact (sortBy_perm _ _).mem_iff.1 hc
      · obtain ⟨⟨c', s⟩, hc, heq⟩ := List.mem_map.1 h
        obtain ⟨rfl, -⟩ := Prod.mk.inj heq
        obtain ⟨c'', hc'', heq⟩ := List.mem_filterMap.1 ((sortByKeyRev_perm _ _).mem_iff.1 hc)
        obtain ⟨s', -, heq⟩ := Option.map_eq_some_iff.1 heq
        obtain ⟨rfl, -⟩ := Prod.mk.inj heq
        exact hc''
    have havailable := (List.mem_filter.1 hmem).2
    rw [Bool.and_eq_true] at havailable
    simpa using havailable.2

theorem new_offers {c : Command} {score : Option UInt16} (h : (c, score) ∈ new.filtered) :
    c.isVerbOnly = false := by
  obtain ⟨c', hc, heq⟩ := List.mem_map.1 h
  obtain ⟨rfl, -⟩ := Prod.mk.inj heq
  simpa using (List.mem_filter.1 hc).2

end

end PaletteState

end Muxtop.Tui
