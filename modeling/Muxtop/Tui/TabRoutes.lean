import Muxtop.Foundation.Runs
import Muxtop.Tui.App

/-!
# The ways to a tab

Keys, the palette, the typed `tab <name>` and the neighbours' keys all switch tabs through
`go_to_tab`, but for the palette's GPU command, which sets the tab and nothing else. `go_to_tab` in turn
leaves the filter of every tab but the GPU's.
-/

namespace Muxtop.Tui

namespace Views

variable {v : Views} {tab : Tab}

/-- Switching tabs: the new tab in front, its columns from the left, and no filter being edited. Nothing
happens where the tab is in front already. -/
def arrive (v : Views) (tab : Tab) : Views :=
  if v.tab = tab then v
  else
    { v with
      tab := tab
      colScroll := 0
      filterActive := false
      netFilterActive := false
      containersFilterActive := false
      kubeFilterActive := false
      gpuFilterActive := false }

/-- No filter but the GPU tab's is being edited. -/
def NoFilterEdited (v : Views) : Prop :=
  v.filterActive = false ∧ v.netFilterActive = false ∧ v.containersFilterActive = false ∧
    v.kubeFilterActive = false

/-- `go_to_tab` arrives, unless it leaves the GPU filter being edited. -/
theorem goToTab_eq_arrive_iff :
    v.goToTab tab = v.arrive tab ↔ v.tab = tab ∨ v.gpuFilterActive = false := by
  unfold goToTab arrive
  split_ifs with hthere
  · exact iff_of_true rfl (.inl hthere)
  · simp only [hthere, false_or]
    constructor
    · exact fun h => congrArg Views.gpuFilterActive h
    · intro hgpu
      rw [hgpu]

/-- Setting the tab alone arrives where there is nothing to reset. -/
theorem setTab_eq_arrive_iff :
    ({ v with tab := tab } : Views) = v.arrive tab ↔
      v.tab = tab ∨ v.gpuFilterActive = false ∧ v.colScroll = 0 ∧ v.NoFilterEdited := by
  unfold arrive
  split_ifs with hthere
  · subst hthere
    exact iff_of_true rfl (.inl rfl)
  · simp only [hthere, false_or]
    constructor
    · intro h
      exact ⟨congrArg Views.gpuFilterActive h, congrArg Views.colScroll h, congrArg Views.filterActive h,
        congrArg Views.netFilterActive h, congrArg Views.containersFilterActive h,
        congrArg Views.kubeFilterActive h⟩
    · rintro ⟨hgpu, hcol, hprocesses, hnet, hcontainers, hkube⟩
      rw [hgpu, hcol, hprocesses, hnet, hcontainers, hkube]

end Views

namespace AppState

variable {lib : Lib} {w : World} {s : AppState} {tab : Tab}

/-- The palette's command for a tab. -/
def switchCommand : Tab → Command
  | .general => .switchToGeneral
  | .processes => .switchToProcesses
  | .network => .switchToNetwork
  | .containers => .switchToContainers
  | .kube => .switchToKube
  | .gpu => .switchToGpu

/-- The states that the ways to a tab lead to. -/
inductive Route (lib : Lib) (w : World) (s : AppState) (tab : Tab) : AppState → Prop
  | key : Route lib w s tab (s.dispatch lib w (.goTab tab))
  | palette : Route lib w s tab (s.executeCommand lib w (switchCommand tab))
  | typed {name : String}
      (h : (Tab.all.find? fun t =>
        Text.startsWith (lib.lower.toLowercase t.label) (lib.lower.toLowercase (Text.trim name))) =
          some tab) :
      Route lib w s tab (s.executeInvocation lib w .goToTab (some name))
  | nextKey (h : s.tab.next = tab) : Route lib w s tab (s.dispatch lib w .nextTab)
  | prevKey (h : s.tab.prev = tab) : Route lib w s tab (s.dispatch lib w .prevTab)
  | nextCommand (h : s.tab.next = tab) : Route lib w s tab (s.executeCommand lib w .nextTab)
  | prevCommand (h : s.tab.prev = tab) : Route lib w s tab (s.executeCommand lib w .prevTab)

/-- Every way to the tab arrives there. -/
def Arrives (lib : Lib) (w : World) (s : AppState) (tab : Tab) : Prop :=
  ∀ s', Route lib w s tab s' → s'.toViews = s.toViews.arrive tab

/-- A command that works against a remote host is run. -/
theorem executeCommand_of_notMem {cmd : Command} (h : cmd ∉ remoteBlockedCommands) :
    s.executeCommand lib w cmd = s.runCommand lib w cmd := by
  unfold executeCommand
  rw [List.contains_eq_mem, decide_eq_false h, Bool.and_false]
  rfl

/-- All ways but one go through `go_to_tab`; the palette's GPU command sets the tab. -/
theorem Route.toViews {s' : AppState} (h : Route lib w s tab s') :
    s'.toViews = s.toViews.goToTab tab ∨ tab = .gpu ∧ s'.toViews = { s.toViews with tab := .gpu } := by
  cases h
  case key => exact .inl rfl
  case palette =>
    cases tab
    case gpu => exact .inr ⟨rfl, by rw [executeCommand_of_notMem (by decide)]; rfl⟩
    all_goals
      left
      rw [executeCommand_of_notMem (by decide)]
      rfl
  case typed name hname =>
    left
    show (s.goToTabNamed lib w name).toViews = _
    unfold goToTabNamed
    dsimp only
    rw [hname]
    rfl
  case nextKey h => exact .inl (h ▸ rfl)
  case prevKey h => exact .inl (h ▸ rfl)
  case nextCommand h =>
    left
    rw [executeCommand_of_notMem (by decide), ← h]
    rfl
  case prevCommand h =>
    left
    rw [executeCommand_of_notMem (by decide), ← h]
    rfl

/-- **Ways to a tab.** In every state, all ways to a tab arrive there exactly when it is in front already,
or the GPU filter is not being edited and, for the GPU tab, the columns are not scrolled and no other
filter is being edited. -/
theorem arrives_iff (lib : Lib) (w : World) (s : AppState) (tab : Tab) :
    Arrives lib w s tab ↔
      s.tab = tab ∨ s.gpuFilterActive = false ∧
        (tab = .gpu → s.colScroll = 0 ∧ s.toViews.NoFilterEdited) := by
  constructor
  · intro h
    by_cases hthere : s.tab = tab
    · exact .inl hthere
    have hkey : s.toViews.goToTab tab = s.toViews.arrive tab := h _ .key
    refine .inr ⟨(Views.goToTab_eq_arrive_iff.1 hkey).resolve_left hthere, fun hgpu => ?_⟩
    subst hgpu
    have hset : ({ s.toViews with tab := .gpu } : Views) = s.toViews.arrive .gpu := by
      rw [← h _ .palette, switchCommand, executeCommand_of_notMem (by decide)]
      rfl
    exact ((Views.setTab_eq_arrive_iff.1 hset).resolve_left hthere).2
  · intro h s' hroute
    obtain hkept | ⟨rfl, hset⟩ := hroute.toViews
    · rw [hkept, Views.goToTab_eq_arrive_iff]
      exact h.imp_right And.left
    · rw [hset, Views.setTab_eq_arrive_iff]
      exact h.imp_right fun hfresh => ⟨hfresh.1, hfresh.2 rfl⟩

/-- After a scroll to the right, the palette's GPU command leaves the columns scrolled. -/
theorem not_arrives_scrolled :
    ¬ ∀ (inputs : List Input) (tab : Tab),
      Arrives .ascii (.obliging 0) (Runs.run (step .ascii) (withConfig {} false false) inputs) tab := by
  intro h
  have hpalette := h [.press 0 .right] .gpu _ .palette
  exact absurd (congrArg Views.colScroll hpalette) (by decide)

end AppState

end Muxtop.Tui
