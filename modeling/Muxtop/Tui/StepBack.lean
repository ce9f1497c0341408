import Muxtop.Tui.ActiveTab
import Muxtop.Tui.Keyboard

/-!
# Stepping back

Reference: `handle_key_event`, `go_back`, `handle_filter_key`, `handle_confirm_key` and the overlays' key
handlers in `muxtop-tui/src/app.rs`.

Esc is handled in six places. What it takes away is the first thing there is of: the confirm dialog, the
overlay, the editing of the filter, the toasts, the filter.
-/

namespace Muxtop.Tui

open Muxtop.Core

/-- The columns that the tables are sorted by, and which way. -/
structure SortState where
  processes : SortField × SortOrder
  network : NetworkSortField × SortOrder
  containers : ContainerSortField × SortOrder
  kube : KubeSortField × SortOrder
  gpu : GpuSortField × SortOrder

namespace Views

variable {lib : Lib} {v v' : Views} {now : ℕ} {w : World} {t : Table}

def sortState (v : Views) : SortState where
  processes := (v.sortField, v.sortOrder)
  network := (v.netSortField, v.netSortOrder)
  containers := (v.containersSortField, v.containersSortOrder)
  kube := (v.kubeSortField, v.kubeSortOrder)
  gpu := (v.gpuSortField, v.gpuSortOrder)

/-! ## What a change of the filter leaves alone -/

/-- The tables with their filters forgotten, too. -/
def settings (v : Views) : Views :=
  { v.choices with
    filterInput := "", netFilterInput := "", containersFilterInput := "", kubeFilterInput := ""
    gpuFilterInput := ""
    filterActive := false, netFilterActive := false, containersFilterActive := false
    kubeFilterActive := false, gpuFilterActive := false }

/-- Leaving the filter input touches no setting. -/
theorem settings_setFilterEditing (on : Bool) : (v.setFilterEditing on).settings = v.settings := by
  unfold setFilterEditing
  split <;> rfl

/-- Nor does clearing the filter. -/
theorem settings_setFilter (text : String) : (v.setFilter lib now text).settings = v.settings := by
  unfold settings setFilter
  rw [choices_afterFilterChange]
  unfold setFilterText
  split <;> rfl

/-- The rows stay when the input is left. -/
theorem tableState_setFilterEditing (on : Bool) : (v.setFilterEditing on).tableState t = v.tableState t := by
  unfold setFilterEditing
  cases v.tab <;> cases t <;> rfl

end Views

namespace AppState

variable {lib : Lib} {w : World} {s s' : AppState}

/-! ## Esc -/

/-- Esc is pressed. -/
def pressEsc (lib : Lib) (s : AppState) (w : World) : AppState := s.handle lib w (.key ⟨.esc, .none⟩)

/-- The first there is of the confirm dialog, the overlay, the editing of the filter, the toasts and the
filter is taken away. -/
def stepBack (lib : Lib) (w : World) (s : AppState) : AppState :=
  if s.confirm.isSome then { s with confirm := none }
  else if s.overlay ≠ .none then s.closeOverlay
  else if s.filterEditing then s.mapViews (·.setFilterEditing false)
  else if !s.notifier.isEmpty then { s with notifier := s.notifier.dismissAll }
  else if !s.filterText.isEmpty then s.mapViews (·.setFilter lib w.now "")
  else s

/-- Esc is bound to a step back on every tab. -/
theorem resolve_esc (tab : Tab) : resolve .esc .none tab = some .back := by
  cases tab <;> decide

/-- The keymap's part, where nothing else has the keyboard. -/
theorem handleBoundKey_esc (hoverlay : s.overlay = .none) (hediting : s.filterEditing = false) :
    s.handleBoundKey lib w ⟨.esc, .none⟩ =
      if !s.notifier.isEmpty then { s with notifier := s.notifier.dismissAll }
      else if !s.filterText.isEmpty then s.mapViews (·.setFilter lib w.now "")
      else s := by
  have hback : s.handleBoundKey lib w ⟨.esc, .none⟩ = s.goBack lib w := by
    unfold handleBoundKey
    rw [resolve_esc]
    rfl
  rw [hback, goBack, if_neg (by simp [hoverlay])]
  simp [hediting]

/-- Whoever has the keyboard steps back. -/
theorem pressEsc_eq : s.pressEsc lib w = (s.expireToasts w).stepBack lib w := by
  unfold pressEsc handle handleKeyEvent
  dsimp only
  rw [if_neg (by rintro ⟨⟨⟩, -⟩)]
  generalize s.expireToasts w = u
  unfold routeKey stepBack
  by_cases hconfirm : u.confirm.isSome = true
  · rw [if_pos hconfirm, if_pos hconfirm]
    rfl
  · rw [if_neg hconfirm, if_neg hconfirm]
    split
    case h_7 hoverlay =>
      rw [if_neg (not_not.2 hoverlay)]
      by_cases hediting : u.filterEditing = true
      · rw [if_pos hediting, if_pos hediting]
        rfl
      · rw [if_neg hediting, if_neg hediting]
        exact handleBoundKey_esc hoverlay (by simpa using hediting)
    all_goals
      next hoverlay =>
        rw [if_pos (by rw [hoverlay]; decide)]
        rfl

/-! ## Fewer and fewer -/

/-- How much there is to take away. -/
def layers (s : AppState) : ℕ :=
  s.confirm.isSome.toNat + (decide (s.overlay ≠ .none)).toNat + s.filterEditing.toNat +
    (!s.notifier.isEmpty).toNat + (!s.filterText.isEmpty).toNat

/-- There are five layers. -/
theorem layers_le : s.layers ≤ 5 := by
  have hconfirm := s.confirm.isSome.toNat_le
  have hoverlay := (decide (s.overlay ≠ .none)).toNat_le
  have hediting := s.filterEditing.toNat_le
  have htoasts := (!s.notifier.isEmpty).toNat_le
  have hfilter := (!s.filterText.isEmpty).toNat_le
  unfold layers
  omega

/-- Toasts only go. -/
theorem layers_expireToasts : (s.expireToasts w).layers ≤ s.layers := by
  have htoasts : (!(s.notifier.expire w.toastClock).isEmpty).toNat ≤ (!s.notifier.isEmpty).toNat := by
    apply Bool.toNat_le_toNat
    cases hactive : s.notifier.active <;> simp [Notifier.expire, Notifier.isEmpty, hactive]
  exact Nat.add_le_add_right (Nat.add_le_add_left htoasts _) _

theorem layers_mapViews (f : Views → Views) :
    (s.mapViews f).layers =
      s.confirm.isSome.toNat + (decide (s.overlay ≠ .none)).toNat + (f s.toViews).filterEditing.toNat +
        (!s.notifier.isEmpty).toNat + (!(f s.toViews).filterText.isEmpty).toNat := rfl

/-- A step back takes something away, where there is something. -/
theorem layers_stepBack : (s.stepBack lib w).layers ≤ s.layers - 1 := by
  unfold stepBack
  split_ifs with hconfirm hoverlay hediting htoasts hfilter
  · simp only [layers, hconfirm, Option.isSome_none, Bool.toNat_false, Bool.toNat_true]
    omega
  · simp only [layers, closeOverlay, hoverlay, ne_eq, not_true_eq_false, not_false_eq_true, decide_false,
      decide_true, Bool.toNat_false, Bool.toNat_true]
    omega
  · rw [layers_mapViews, Views.filterEditing_setFilterEditing, Views.setFilterEditing_filterText]
    simp only [layers, hediting, Bool.toNat_false, Bool.toNat_true]
    omega
  · have hnone : s.notifier.dismissAll.isEmpty = true := rfl
    simp only [layers, htoasts, hnone, Bool.not_true, Bool.toNat_false, Bool.toNat_true]
    omega
  · have hnone : "".isEmpty = true := rfl
    rw [layers_mapViews, Views.filterEditing_setFilter, Views.filterText_setFilter]
    simp only [layers, hfilter, hnone, Bool.not_true, Bool.toNat_false, Bool.toNat_true]
    omega
  · simp [layers, hconfirm, hoverlay, hediting, htoasts, hfilter]

/-- An Esc takes one away, as long as there is any. -/
theorem layers_pressEsc : (s.pressEsc lib w).layers ≤ s.layers - 1 := by
  rw [pressEsc_eq]
  exact layers_stepBack.trans (Nat.sub_le_sub_right layers_expireToasts 1)

/-- Each Esc takes something away until nothing is left. -/
theorem layers_run (worlds : List World) :
    (Runs.run (pressEsc lib) s worlds).layers ≤ s.layers - worlds.length := by
  induction worlds generalizing s with
  | nil => exact Nat.le_refl _
  | cons w worlds ih =>
    have hfirst : (s.pressEsc lib w).layers ≤ s.layers - 1 := layers_pressEsc
    have hrest : (Runs.run (pressEsc lib) (s.pressEsc lib w) worlds).layers ≤
        (s.pressEsc lib w).layers - worlds.length := ih
    rw [Runs.run_cons, List.length_cons]
    omega

/-- Nothing is left to take away. -/
structure AtRest (s : AppState) : Prop where
  confirm : s.confirm = none
  overlay : s.overlay = .none
  toasts : s.notifier.active = []
  editing : ∀ t, s.filterOpen t = false
  filter : s.filterText = ""

/-- What is left is seen, where only the filter input of the tab in front is open. -/
theorem atRest_of_layers (hmodal : ∀ t, Modal (·.filterOpen t) (·.table = t) s) (h : s.layers = 0) :
    s.AtRest := by
  simp only [layers, Nat.add_eq_zero_iff, Bool.toNat_eq_zero, Bool.not_eq_false', Option.isSome_eq_false_iff,
    Option.isNone_iff_eq_none, decide_eq_false_iff_not, not_not, String.isEmpty_iff] at h
  obtain ⟨⟨⟨⟨hconfirm, hoverlay⟩, hediting⟩, htoasts⟩, hfilter⟩ := h
  refine ⟨hconfirm, hoverlay, List.isEmpty_iff.1 htoasts, fun t => ?_, hfilter⟩
  by_contra hopen
  rw [Bool.not_eq_false] at hopen
  obtain ⟨-, -, hfront⟩ := hmodal t hopen
  rw [Views.filterEditing_eq, hfront] at hediting
  cases hopen.symm.trans hediting

/-! ## What stays -/

/-- A step back neither ends the program nor has anything done or reported, and leaves the tab, the
snapshot, the sort columns and the other tables as they are. -/
structure StepsBack (s s' : AppState) : Prop where
  running : s'.running = s.running
  performed : s'.performed = s.performed
  reported : s'.notifier.log = s.notifier.log
  tab : s'.tab = s.tab
  snapshot : s'.lastSnapshot = s.lastSnapshot
  sort : s'.sortState = s.sortState
  others : ∀ t, t ≠ s.tab.table → s'.tableState t = s.tableState t ∧ s'.filterOpen t = s.filterOpen t

/-- A step that leaves the tables, the host and the log alone. -/
theorem stepsBack_of_same (hviews : s'.toViews = s.toViews) (hrunning : s'.running = s.running)
    (hperformed : s'.performed = s.performed) (hlog : s'.notifier.log = s.notifier.log) : StepsBack s s' where
  running := hrunning
  performed := hperformed
  reported := hlog
  tab := congrArg Views.tab hviews
  snapshot := congrArg Views.lastSnapshot hviews
  sort := congrArg Views.sortState hviews
  others t _ := by
    rw [hviews]
    exact ⟨rfl, rfl⟩

/-- A change of the filter of the tab in front. -/
theorem stepsBack_mapViews {f : Views → Views} (hsettings : (f s.toViews).settings = s.toViews.settings)
    (hothers : ∀ t, t ≠ s.tab.table →
      (f s.toViews).tableState t = s.tableState t ∧ (f s.toViews).filterOpen t = s.filterOpen t) :
    StepsBack s (s.mapViews f) where
  running := rfl
  performed := rfl
  reported := rfl
  tab := by
    have htab := congrArg Views.tab hsettings
    exact htab
  snapshot := by
    have hsnapshot := congrArg Views.lastSnapshot hsettings
    exact hsnapshot
  sort := by
    have hsort := congrArg Views.sortState hsettings
    exact hsort
  others := hothers

/-- A step back closes, and does nothing else. -/
theorem stepsBack_stepBack : StepsBack s (s.stepBack lib w) := by
  unfold stepBack
  split_ifs
  · exact stepsBack_of_same rfl rfl rfl rfl
  · exact stepsBack_of_same rfl rfl rfl rfl
  · refine stepsBack_mapViews (Views.settings_setFilterEditing false) fun t ht => ?_
    exact ⟨Views.tableState_setFilterEditing false,
      (Views.filterOpen_setFilterEditing false).trans (if_neg ht)⟩
  · exact stepsBack_of_same rfl rfl rfl rfl
  · refine stepsBack_mapViews (Views.settings_setFilter "") fun t ht => ?_
    exact ⟨Views.tableState_setFilter "" ht, Views.filterOpen_typed "" true⟩
  · exact stepsBack_of_same rfl rfl rfl rfl

/-- So does an Esc. -/
theorem stepsBack_pressEsc (lib : Lib) (s : AppState) (w : World) : StepsBack s (s.pressEsc lib w) := by
  rw [pressEsc_eq]
  obtain ⟨hrunning, hperformed, hlog, htab, hsnapshot, hsort, hothers⟩ :=
    @stepsBack_stepBack lib w (s.expireToasts w)
  exact ⟨hrunning, hperformed, hlog, htab, hsnapshot, hsort, hothers⟩

/-! ## Runs -/

/-- An open filter keeps the keyboard to itself, through any number of them. -/
theorem modal_run (t : Table) (config : CliConfig) (containerEngine clusterEngine : Bool)
    (inputs : List Input) (worlds : List World) :
    Modal (·.filterOpen t) (·.table = t)
      (Runs.run (pressEsc lib)
        (Runs.run (step lib) (withConfig config containerEngine clusterEngine) inputs) worlds) := by
  have flag := Views.tableFlag lib t
  have hstart : Modal (·.filterOpen t) (·.table = t)
      (withConfig config containerEngine clusterEngine) := by
    apply modal_of_closed
    cases t <;> rfl
  have hreached := Runs.run_invariant (I := Modal (·.filterOpen t) (·.table = t))
    (fun _ input h => modal_step flag h input) inputs hstart
  exact Runs.run_invariant (I := Modal (·.filterOpen t) (·.table = t))
    (fun _ _ h => modal_handle flag h _) worlds hreached

/-- **One step back, every time.** From every state that can be reached, at most five presses of Esc in a
row leave nothing open, no toast and no filter on the tab in front; and a press of Esc only steps back. -/
theorem pressEsc_stepsBack (lib : Lib) (config : CliConfig) (containerEngine clusterEngine : Bool)
    (inputs : List Input) (worlds : ℕ → World) :
    let s := Runs.run (step lib) (withConfig config containerEngine clusterEngine) inputs
    let pressed (n : ℕ) := Runs.run (pressEsc lib) s ((List.range n).map worlds)
    (∃ n ≤ 5, AtRest (pressed n)) ∧ ∀ n, StepsBack (pressed n) ((pressed n).pressEsc lib (worlds n)) := by
  intro s pressed
  refine ⟨⟨5, Nat.le_refl 5, ?_⟩, fun n => stepsBack_pressEsc lib (pressed n) (worlds n)⟩
  apply atRest_of_layers fun t => modal_run t config containerEngine clusterEngine inputs _
  have hpressed := @layers_run lib s ((List.range 5).map worlds)
  have hfive : s.layers ≤ 5 := layers_le
  rw [List.length_map, List.length_range] at hpressed
  exact Nat.le_zero.1 (hpressed.trans (by omega))

end AppState

end Muxtop.Tui
