import Muxtop.Tui.Tabs

/-!
# The keymap

Reference: `muxtop-tui/src/keymap.rs`.

One table drives dispatch and the actions menu. The columns that only the help screen and the footer
read are left out.
-/

namespace Muxtop.Tui

/-! ## Keys -/

/-- A key, as the terminal reports it. -/
inductive KeyCode
  | char (c : Char)
  | f (n : ℕ)
  | enter | esc | backspace | tab | backTab
  | up | down | left | right | pageUp | pageDown | home | «end»
  | other (code : ℕ)
deriving DecidableEq, Repr

/-- The modifiers held down; `other` stands for the super, hyper and meta bits. -/
structure KeyModifiers where
  shift : Bool := false
  control : Bool := false
  alt : Bool := false
  other : ℕ := 0
deriving DecidableEq, Repr

namespace KeyModifiers

def none : KeyModifiers := {}
def ctrlOnly : KeyModifiers := { control := true }
def altOnly : KeyModifiers := { alt := true }

end KeyModifiers

structure KeyEvent where
  code : KeyCode
  modifiers : KeyModifiers := .none
deriving DecidableEq, Repr

/-! ## Actions -/

/-- The signals muxtop may send. -/
inductive Signal
  | term | kill
deriving DecidableEq, Repr

/-- Everything the user can ask muxtop to do. -/
inductive Action
  | quit | help | palette | commandMode | togglePause | refresh | toggleLog
  | nextTab | prevTab | goTab (tab : Tab) | nextSubview | prevSubview
  | rowDown | rowUp | rowPageDown | rowPageUp | rowHalfDown | rowHalfUp | rowFirst | rowLast
  | colLeft | colRight | openInspector | actionsMenu | copySelection
  | openFilter | back | cycleSort | reverseSort
  | toggleTree | renice (delta : ℤ) | kill (signal : Signal)
  | containerStop | containerKill | containerRestart
  | kubeSubview (sv : KubeSubview) | toggleKubeScope
  | gpuSubview (sv : GpuSubview)
deriving DecidableEq, Repr

/-- Whether the action mutates something outside muxtop. -/
def Action.isLocalOnly : Action → Bool
  | .renice _ | .kill _ | .containerStop | .containerKill | .containerRestart | .toggleKubeScope => true
  | _ => false

/-- Where a binding applies. -/
inductive Scope
  | global | tab (tab : Tab)
deriving DecidableEq, Repr

def Scope.matches : Scope → Tab → Bool
  | .global, _ => true
  | .tab t, current => t == current

inductive Group
  | navigation | table | sortFilter | actions | app
deriving DecidableEq, Repr

/-- One key bound to one action. -/
structure Binding where
  code : KeyCode
  mods : KeyModifiers
  action : Action
  scope : Scope
  group : Group
  display : String
  label : String
  isPrimary : Bool
deriving DecidableEq, Repr

/-! ## The table -/

/-- The complete keymap. The first binding whose key and scope match wins. -/
def bindings : List Binding := [
    -- tab-scoped: Processes
    ⟨.char 't', .none, .toggleTree, .tab .processes, .table, "t", "Tree view", true⟩,
    ⟨.f 5, .none, .toggleTree, .tab .processes, .table, "F5", "Tree view", false⟩,
    ⟨.f 7, .none, .renice 1, .tab .processes, .actions, "F7", "Lower priority (nice +1)", true⟩,
    ⟨.char '-', .none, .renice 1, .tab .processes, .actions, "-", "Lower priority (nice +1)", false⟩,
    ⟨.f 8, .none, .renice (-1), .tab .processes, .actions, "F8", "Raise priority (nice -1)", true⟩,
    ⟨.char '+', .none, .renice (-1), .tab .processes, .actions, "+", "Raise priority (nice -1)", false⟩,
    ⟨.f 9, .none, .kill .term, .tab .processes, .actions, "F9", "Kill process (SIGTERM)", true⟩,
    ⟨.f 10, .none, .kill .kill, .tab .processes, .actions, "F10", "Force kill (SIGKILL)", true⟩,
    -- tab-scoped: Containers
    ⟨.f 9, .none, .containerStop, .tab .containers, .actions, "F9", "Stop container", true⟩,
    ⟨.f 10, .none, .containerKill, .tab .containers, .actions, "F10", "Kill container", true⟩,
    ⟨.f 11, .none, .containerRestart, .tab .containers, .actions, "F11", "Restart container", true⟩,
    -- tab-scoped: Kubernetes
    ⟨.char 'P', .none, .kubeSubview .pods, .tab .kube, .navigation, "P", "Pods sub-view", true⟩,
    ⟨.char 'N', .none, .kubeSubview .nodes, .tab .kube, .navigation, "N", "Nodes sub-view", true⟩,
    ⟨.char 'D', .none, .kubeSubview .deployments, .tab .kube, .navigation, "D", "Deployments sub-view", true⟩,
    ⟨.char 'A', .none, .toggleKubeScope, .tab .kube, .actions, "A", "Toggle namespace scope", true⟩,
    -- tab-scoped: GPU
    ⟨.char 'D', .none, .gpuSubview .devices, .tab .gpu, .navigation, "D", "Devices sub-view", true⟩,
    ⟨.char 'P', .none, .gpuSubview .procs, .tab .gpu, .navigation, "P", "Processes sub-view", true⟩,
    -- global: application
    ⟨.char 'q', .none, .quit, .global, .app, "q", "Quit", true⟩,
    ⟨.char 'c', .ctrlOnly, .quit, .global, .app, "Ctrl+C", "Quit", false⟩,
    ⟨.char '?', .none, .help, .global, .app, "?", "Help", true⟩,
    ⟨.f 1, .none, .help, .global, .app, "F1", "Help", false⟩,
    ⟨.char 'p', .ctrlOnly, .palette, .global, .app, "Ctrl+P", "Command palette", true⟩,
    ⟨.char 'k', .ctrlOnly, .palette, .global, .app, "Ctrl+K", "Command palette", false⟩,
    ⟨.char ':', .none, .commandMode, .global, .app, ":", "Command mode", true⟩,
    ⟨.char ' ', .none, .togglePause, .global, .app, "Space", "Pause / resume refresh", true⟩,
    ⟨.char 'r', .none, .refresh, .global, .app, "r", "Refresh now", true⟩,
    ⟨.char 'l', .ctrlOnly, .toggleLog, .global, .app, "Ctrl+L", "Message log", true⟩,
    -- global: navigation
    ⟨.tab, .none, .nextTab, .global, .navigation, "Tab", "Next tab", true⟩,
    ⟨.backTab, .none, .prevTab, .global, .navigation, "Shift+Tab", "Previous tab", true⟩,
    ⟨.char '1', .altOnly, .goTab .general, .global, .navigation, "Alt+1", "General tab", true⟩,
    ⟨.char '2', .altOnly, .goTab .processes, .global, .navigation, "Alt+2", "Processes tab", true⟩,
    ⟨.char '3', .altOnly, .goTab .network, .global, .navigation, "Alt+3", "Network tab", true⟩,
    ⟨.char '4', .altOnly, .goTab .containers, .global, .navigation, "Alt+4", "Containers tab", true⟩,
    ⟨.char '5', .altOnly, .goTab .kube, .global, .navigation, "Alt+5", "Kubernetes tab", true⟩,
    ⟨.char '6', .altOnly, .goTab .gpu, .global, .navigation, "Alt+6", "GPU tab", true⟩,
    ⟨.char ']', .none, .nextSubview, .global, .navigation, "]", "Next sub-view", true⟩,
    ⟨.char '[', .none, .prevSubview, .global, .navigation, "[", "Previous sub-view", true⟩,
    -- global: table
    ⟨.char 'j', .none, .rowDown, .global, .table, "j", "Move down", true⟩,
    ⟨.down, .none, .rowDown, .global, .table, "↓", "Move down", false⟩,
    ⟨.char 'k', .none, .rowUp, .global, .table, "k", "Move up", true⟩,
    ⟨.up, .none, .rowUp, .global, .table, "↑", "Move up", false⟩,
    ⟨.pageDown, .none, .rowPageDown, .global, .table, "PgDn", "Page down", true⟩,
    ⟨.pageUp, .none, .rowPageUp, .global, .table, "PgUp", "Page up", true⟩,
    ⟨.char 'd', .ctrlOnly, .rowHalfDown, .global, .table, "Ctrl+D", "Half page down", true⟩,
    ⟨.char 'u', .ctrlOnly, .rowHalfUp, .global, .table, "Ctrl+U", "Half page up", true⟩,
    ⟨.char 'g', .none, .rowFirst, .global, .table, "g", "First row", true⟩,
    ⟨.home, .none, .rowFirst, .global, .table, "Home", "First row", false⟩,
    ⟨.char 'G', .none, .rowLast, .global, .table, "G", "Last row", true⟩,
    ⟨.«end», .none, .rowLast, .global, .table, "End", "Last row", false⟩,
    ⟨.char 'h', .none, .colLeft, .global, .table, "h", "Scroll columns left", true⟩,
    ⟨.left, .none, .colLeft, .global, .table, "←", "Scroll columns left", false⟩,
    ⟨.char 'l', .none, .colRight, .global, .table, "l", "Scroll columns right", true⟩,
    ⟨.right, .none, .colRight, .global, .table, "→", "Scroll columns right", false⟩,
    ⟨.enter, .none, .openInspector, .global, .table, "Enter", "Inspect selected row", true⟩,
    ⟨.char 'i', .none, .openInspector, .global, .table, "i", "Inspect selected row", false⟩,
    ⟨.char 'x', .none, .actionsMenu, .global, .actions, "x", "Actions menu", true⟩,
    ⟨.char 'y', .none, .copySelection, .global, .table, "y", "Copy row identifier", true⟩,
    -- global: sort & filter
    ⟨.char '/', .none, .openFilter, .global, .sortFilter, "/", "Filter", true⟩,
    ⟨.f 4, .none, .openFilter, .global, .sortFilter, "F4", "Filter", false⟩,
    ⟨.f 3, .none, .openFilter, .global, .sortFilter, "F3", "Search", false⟩,
    ⟨.char 's', .none, .cycleSort, .global, .sortFilter, "s", "Cycle sort column", true⟩,
    ⟨.f 6, .none, .cycleSort, .global, .sortFilter, "F6", "Cycle sort column", false⟩,
    ⟨.char 'S', .none, .reverseSort, .global, .sortFilter, "S", "Reverse sort order", true⟩,
    ⟨.char 'I', .none, .reverseSort, .global, .sortFilter, "I", "Reverse sort order", false⟩,
    ⟨.esc, .none, .back, .global, .sortFilter, "Esc", "Back / clear filter", true⟩
]

/-- Shift and the bits beyond control and alt do not count. -/
def normalise (mods : KeyModifiers) : KeyModifiers := { control := mods.control, alt := mods.alt }

/-- Resolve a key press to an action for the active tab. -/
def resolve (code : KeyCode) (mods : KeyModifiers) (tab : Tab) : Option Action :=
  (bindings.find? fun b => b.code = code ∧ b.mods = normalise mods ∧ b.scope.matches tab).map (·.action)

/-- Bindings that apply on a tab. -/
def bindingsFor (tab : Tab) : List Binding := bindings.filter (·.scope.matches tab)

example : resolve (.char 'D') {} .gpu = some (.gpuSubview .devices) := by decide
example : resolve .backTab { shift := true } .kube = some .prevTab := by decide
example : resolve (.f 9) {} .network = none := by decide

end Muxtop.Tui
