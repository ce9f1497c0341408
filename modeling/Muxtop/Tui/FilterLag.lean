import Muxtop.Core.ProcessTree
import Muxtop.Tui.Keyboard

/-!
# When the process view lags its filter

A filter keystroke that follows the one before within the debounce window is held back, and nothing
runs it later: Enter, a snapshot or a new sort catch up with the filter text, Esc does not.
-/

namespace Muxtop.Tui

open Muxtop.Core

/-- Two filter texts match the same processes of a snapshot. -/
def SameMatches (lower : Text.Lowercase) (snapshot : Option SystemSnapshot) (f f' : String) : Prop :=
  ∀ snap ∈ snapshot, ∀ p ∈ snap.processes, ProcessMatches lower f p ↔ ProcessMatches lower f' p

namespace Views

variable {lib : Lib} {v v' : Views} {now : ℕ} {w : World}

/-! ## The view of a filter text -/

/-- The process view is that of the filter text on screen, so what F9 and `kill <name>` pick from
matches it. -/
structure ShowsFilter (lib : Lib) (v : Views) : Prop where
  view : (v.visibleProcesses, v.visibleTree) =
    processView lib v.lastSnapshot v.filterInput v.sortField v.sortOrder v.treeMode
  targets : ∀ p, v.selectedProcess = some p ∨ p ∈ v.visibleProcesses →
    ProcessMatches lib.lower v.filterInput p

/-- Two filter texts have the same view exactly when they match the same processes. -/
theorem processView_eq_iff {snapshot : Option SystemSnapshot} {f f' : String} {field : SortField}
    {order : SortOrder} {tree : Bool} :
    processView lib snapshot f field order tree = processView lib snapshot f' field order tree ↔
      SameMatches lib.lower snapshot f f' := by
  cases snapshot
  case none => simp [processView, SameMatches]
  case some snap =>
    constructor
    · intro h snap' hsnap p hp
      obtain rfl : snap = snap' := Option.some.inj hsnap
      have hsorted : sortProcesses lib.lower lib.unstable
            (filterProcesses lib.lower snap.processes f) field order =
          sortProcesses lib.lower lib.unstable
            (filterProcesses lib.lower snap.processes f') field order := congrArg Prod.fst h
      have hperm := (sortProcesses_perm lib.lower lib.unstable _ field order).symm.trans
        (hsorted ▸ sortProcesses_perm lib.lower lib.unstable _ field order)
      have hmem := hperm.symm.mem_iff (a := p)
      simpa [filterProcesses_eq, hp] using hmem
    · intro h
      have hfiltered : filterProcesses lib.lower snap.processes f =
          filterProcesses lib.lower snap.processes f' :=
        filterProcesses_eq_iff.2 (h snap rfl)
      simp only [processView, hfiltered]

/-- Every process in a view matches its filter. -/
theorem matches_of_mem_processView {snapshot : Option SystemSnapshot} {f : String}
    {field : SortField} {order : SortOrder} {tree : Bool} {p : ProcessInfo}
    (h : p ∈ (processView lib snapshot f field order tree).1 ∨
      ∃ depth, (p, depth) ∈ (processView lib snapshot f field order tree).2) :
    ProcessMatches lib.lower f p := by
  cases snapshot
  case none => simp [processView] at h
  case some snap =>
    have hmem : p ∈ filterProcesses lib.lower snap.processes f := by
      obtain hlist | ⟨depth, htree⟩ := h
      · exact (sortProcesses_perm ..).mem_iff.1 hlist
      · cases tree
        case false => cases htree
        case true => exact mem_of_mem_flattenTree htree
    rw [filterProcesses_eq] at hmem
    exact of_decide_eq_true (List.mem_filter.1 hmem).2

/-- A coherent view shows the filter text exactly when that matches what it was computed from. -/
theorem showsFilter_iff (h : v.ProcessesCoherent lib) :
    v.ShowsFilter lib ↔ SameMatches lib.lower v.lastSnapshot v.shownFilter v.filterInput := by
  have hview : (v.visibleProcesses, v.visibleTree) =
      processView lib v.lastSnapshot v.filterInput v.sortField v.sortOrder v.treeMode ↔
      SameMatches lib.lower v.lastSnapshot v.shownFilter v.filterInput := by
    rw [h, processView_eq_iff]
  refine ⟨fun hshows => hview.1 hshows.view, fun hsame => ⟨hview.2 hsame, fun p hp => ?_⟩⟩
  have hlisted : p ∈ v.visibleProcesses ∨ ∃ depth, (p, depth) ∈ v.visibleTree := by
    obtain hselected | hmem := hp
    · unfold selectedProcess at hselected
      split_ifs at hselected
      · obtain ⟨⟨p', depth⟩, hentry, rfl⟩ := Option.map_eq_some_iff.1 hselected
        exact .inr ⟨depth, List.mem_of_getElem? hentry⟩
      · exact .inl (List.mem_of_getElem? hselected)
    · exact .inl hmem
  have heq := Prod.mk.inj (hview.2 hsame)
  rw [heq.1, heq.2] at hlisted
  exact matches_of_mem_processView hlisted

/-! ## What an operation does to the process filter -/

/-- Whether the filter text of the last recomputation still stands for the one on screen. -/
def UpToDate (lib : Lib) (v : Views) : Prop :=
  SameMatches lib.lower v.lastSnapshot v.shownFilter v.filterInput

/-- Whether the process filter is the one a tab edits. -/
def FiltersProcesses (tab : Tab) : Prop := tab = .general ∨ tab = .processes

/-- An operation leaves the process filter as it was or has the view recomputed from it, and opens the
filter input on a tab with the process table only. -/
structure Follows (v v' : Views) : Prop where
  filter : v'.lastSnapshot = v.lastSnapshot ∧ v'.shownFilter = v.shownFilter ∧
    v'.filterInput = v.filterInput ∨ v'.shownFilter = v'.filterInput
  editing : v'.filterActive = true → v.filterActive = true ∨ FiltersProcesses v'.tab

/-- A view that was computed from the text on screen is up to date. -/
theorem upToDate_of_shown (h : v.shownFilter = v.filterInput) : v.UpToDate lib := by
  intro snap _ p _
  rw [h]

/-- An operation of this kind leaves the view as up to date as it was, or brings it up. -/
theorem Follows.upToDate (h : Follows v v') (hv : v.UpToDate lib) : v'.UpToDate lib := by
  obtain ⟨hsnap, hshown, hinput⟩ | hshown := h.filter
  · unfold UpToDate
    rw [hsnap, hshown, hinput]
    exact hv
  · exact upToDate_of_shown hshown

/-- A tab switch that keeps the filter input closed. -/
theorem Follows.trans_goToTab {tab : Tab} (h : Follows (v.goToTab tab) v') : Follows v v' := by
  unfold goToTab at h
  split_ifs at h
  · exact h
  · refine ⟨h.filter, fun hactive => ?_⟩
    obtain hfalse | htab := h.editing hactive
    · cases hfalse
    · exact .inr htab

/-- Cursors do not count. -/
theorem Follows.of_cursors {v'' : Views} (h : v''.withoutCursors = v'.withoutCursors)
    (hv : Follows v v') : Follows v v'' := by
  have hforgot : Follows v v'.withoutCursors := ⟨hv.filter, hv.editing⟩
  rw [← h] at hforgot
  exact ⟨hforgot.filter, hforgot.editing⟩

/-- Moving a cursor leaves the filter. -/
theorem UpToDate.of_cursors (h : v'.withoutCursors = v.withoutCursors) (hv : v.UpToDate lib) :
    v'.UpToDate lib := by
  have hforgot : v.withoutCursors.UpToDate lib := hv
  rw [← h] at hforgot
  exact hforgot

/-- `recompute_visible` catches up with the filter. -/
theorem upToDate_recomputeVisible : (v.recomputeVisible lib).UpToDate lib :=
  UpToDate.of_cursors recomputeVisible_withoutCursors (upToDate_of_shown rfl)

/-- What touches none of the process filter. -/
theorem follows_same (hsnap : v'.lastSnapshot = v.lastSnapshot) (hshown : v'.shownFilter = v.shownFilter)
    (hinput : v'.filterInput = v.filterInput) (hactive : v'.filterActive = v.filterActive) :
    Follows v v' :=
  ⟨.inl ⟨hsnap, hshown, hinput⟩, fun h => .inl (hactive ▸ h)⟩

/-- Building the rows anew brings the view up to date. -/
theorem follows_recomputeVisible (hactive : v'.filterActive = v.filterActive) :
    Follows v (v'.recomputeVisible lib) :=
  Follows.of_cursors recomputeVisible_withoutCursors ⟨.inr rfl, fun h => .inl (hactive ▸ h)⟩

/-- The input is opened and closed over the same rows. -/
theorem follows_setFilterEditing (on : Bool) : Follows v (v.setFilterEditing on) := by
  refine ⟨.inl ?_, fun hactive => ?_⟩
  · unfold setFilterEditing
    split <;> exact ⟨rfl, rfl, rfl⟩
  · rw [setFilterEditing_tab]
    unfold setFilterEditing at hactive
    cases htab : v.tab <;> simp only [htab] at hactive
    case general => exact .inr (.inl rfl)
    case processes => exact .inr (.inr rfl)
    all_goals exact .inl hactive

/-- An input that is closed is closed. -/
theorem setFilterEditing_false (htab : FiltersProcesses v.tab) :
    (v.setFilterEditing false).filterActive = false := by
  obtain htab | htab := htab <;> simp [setFilterEditing, htab]

/-- Opening or closing the input does not age the view. -/
theorem upToDate_setFilterEditing {on : Bool} :
    (v.setFilterEditing on).UpToDate lib ↔ v.UpToDate lib := by
  unfold setFilterEditing
  split <;> exact Iff.rfl

/-- Nor does going to a tab. -/
theorem follows_goToTab (tab : Tab) : Follows v (v.goToTab tab) :=
  Follows.trans_goToTab (follows_same rfl rfl rfl rfl)

/-- Without debounce, a new filter text on the active tab is followed by what it asks to recompute. -/
theorem follows_setFilterText (text : String) :
    Follows v ((v.setFilterText text).afterFilterChange lib now true) := by
  unfold afterFilterChange
  apply Follows.of_cursors (mapSelected_withoutCursors _)
  unfold setFilterText
  cases htab : v.tab
  case general => exact follows_recomputeVisible rfl
  case processes => exact follows_recomputeVisible rfl
  all_goals exact follows_same rfl rfl rfl rfl

/-- Every operation leaves the process filter alone or recomputes the view. -/
theorem follows_apply (op : ViewOp) : Follows v (op.apply lib v) := by
  cases op
  case goToTab tab => exact follows_goToTab tab
  case showGpu => exact follows_same rfl rfl rfl rfl
  case scrollColumns => exact follows_same rfl rfl rfl rfl
  case setFilterEditing on => exact follows_setFilterEditing on
  case clearFilter now => exact follows_setFilterText ""
  case moveSelection delta =>
    exact (follows_same rfl rfl rfl rfl).of_cursors (moveSelection_withoutCursors delta)
  case selectIndex index =>
    exact (follows_same rfl rfl rfl rfl).of_cursors (selectIndex_withoutCursors index)
  case scrollRows delta =>
    exact (follows_same rfl rfl rfl rfl).of_cursors (scrollRows_withoutCursors delta)
  case cycleSubview delta =>
    change Follows v (v.cycleSubview lib delta)
    unfold cycleSubview
    split <;> exact follows_same rfl rfl rfl rfl
  case cycleSort =>
    change Follows v (v.cycleSort lib)
    unfold cycleSort
    -- Only on the process tabs does a sort recompute the rows, with the filter text of now.
    split
    case h_5 => exact follows_recomputeVisible rfl
    all_goals exact follows_same rfl rfl rfl rfl
  case reverseSort =>
    change Follows v (v.reverseSort lib)
    unfold reverseSort
    split
    case h_5 => exact follows_recomputeVisible rfl
    all_goals exact follows_same rfl rfl rfl rfl
  case setProcessSort => exact follows_recomputeVisible rfl
  case setNetSort => exact follows_same rfl rfl rfl rfl
  case setContainerSort => exact follows_same rfl rfl rfl rfl
  case toggleTree => exact follows_recomputeVisible rfl
  case switchKubeSubview => exact follows_same rfl rfl rfl rfl
  case switchGpuSubview => exact follows_same rfl rfl rfl rfl
  case topKube => exact follows_same rfl rfl rfl rfl

/-- Nor does any action or command. -/
theorem follows_change (h : ViewChange lib v v') : Follows v v' := by
  cases h
  case same => exact follows_same rfl rfl rfl rfl
  case op op _ => exact follows_apply op
  case there tab op _ => exact (follows_apply op).trans_goToTab

/-- A snapshot catches up with the filter. -/
theorem upToDate_takeSnapshot (snapshot : SystemSnapshot) :
    (v.takeSnapshot lib snapshot).UpToDate lib := upToDate_of_shown rfl

/-! ## Filter keys -/

/-- A filter key closes the process filter input only by Esc or Enter. -/
theorem handleFilterKey_filterActive {key : KeyEvent} (hesc : key.code ≠ .esc)
    (henter : key.code ≠ .enter) :
    (AppState.handleFilterKey lib w v key).filterActive = v.filterActive := by
  have htyped (text : String) :
      ((v.setFilterText text).afterFilterChange lib w.now false).filterActive = v.filterActive :=
    @filterOpen_typed lib v w.now .processes text false
  unfold AppState.handleFilterKey
  split
  case h_1 hcode => exact absurd hcode hesc
  case h_2 hcode => exact absurd hcode henter
  case h_3 => exact htyped _
  case h_4 =>
    split_ifs
    · rfl
    · exact htyped _
    · rfl
  case h_5 => rfl

/-- The tabs that edit the process filter are those of the process table. -/
theorem filtersProcesses_iff {tab : Tab} : FiltersProcesses tab ↔ tab.table = .processes := by
  unfold FiltersProcesses
  cases tab <;> simp [Tab.table]

/-- There, an open process filter has the keyboard. -/
theorem filterEditing_of_active (hactive : v.filterActive = true) (htab : FiltersProcesses v.tab) :
    v.filterEditing = true := by
  rw [filterEditing_eq, filtersProcesses_iff.1 htab]
  exact hactive

/-- On a tab with another table, a filter key leaves the process filter alone. -/
theorem follows_handleFilterKey (key : KeyEvent) (htab : ¬ FiltersProcesses v.tab) :
    Follows v (AppState.handleFilterKey lib w v key) := by
  -- A filter key closes the editor or types; off the process tabs neither reaches the rows.
  have hclosed : Follows v (v.setFilterEditing false) := follows_setFilterEditing false
  have htyped (text : String) :
      Follows v ((v.setFilterText text).afterFilterChange lib w.now false) := by
    unfold afterFilterChange
    apply Follows.of_cursors (mapSelected_withoutCursors _)
    unfold setFilterText
    cases h : v.tab
    case general => exact absurd (.inl h) htab
    case processes => exact absurd (.inr h) htab
    all_goals exact follows_same rfl rfl rfl rfl
  unfold AppState.handleFilterKey
  split
  · exact hclosed
  · unfold afterFilterChange
    apply Follows.of_cursors (mapSelected_withoutCursors _)
    unfold setFilterEditing
    cases h : v.tab
    case general => exact absurd (.inl h) htab
    case processes => exact absurd (.inr h) htab
    all_goals exact follows_same rfl rfl rfl rfl
  · exact htyped _
  · split_ifs
    · exact follows_same rfl rfl rfl rfl
    · exact htyped _
    · exact follows_same rfl rfl rfl rfl
  · exact follows_same rfl rfl rfl rfl

/-- Enter catches up with the filter. -/
theorem upToDate_enter (htab : FiltersProcesses v.tab) :
    ((v.setFilterEditing false).afterFilterChange lib now true).UpToDate lib := by
  unfold afterFilterChange
  apply UpToDate.of_cursors (mapSelected_withoutCursors _)
  rw [setFilterEditing_tab]
  obtain htab | htab := htab
  · rw [htab]
    exact upToDate_recomputeVisible
  · rw [htab]
    exact upToDate_recomputeVisible

end Views

/-! ## The keyboard -/

namespace AppState

open Views (FiltersProcesses)

variable {lib : Lib} {w : World} {s s' : AppState}

/-- While the process filter is edited, nothing else has the keyboard and its tab is in front. -/
def FilterModal (s : AppState) : Prop :=
  s.filterActive = true → s.overlay = .none ∧ s.confirm = none ∧ FiltersProcesses s.tab

/-- The flag of the process filter. -/
theorem processFlag : Views.FilterFlag lib (·.filterActive) FiltersProcesses where
  cursors := (Views.tableFlag lib .processes).cursors
  change h hopen := ((Views.tableFlag lib .processes).change h hopen).imp_right Views.filtersProcesses_iff.2
  setFilter := (Views.tableFlag lib .processes).setFilter
  edit := (Views.tableFlag lib .processes).edit
  snapshot := (Views.tableFlag lib .processes).snapshot
  editing _ := Views.filterEditing_of_active

/-! ## Runs -/

/-- An Esc that ends the editing of the process filter finds the view up to date. -/
def EscapesUpToDate (lib : Lib) (s : AppState) (input : Input) : Prop :=
  s.running = true → s.filterActive = true →
    ∀ key, input.event = .key key → key.code = .esc → s.toViews.UpToDate lib

/-- Unless the process filter is being edited, the process view is that of the filter text. -/
def Settled (lib : Lib) (s : AppState) : Prop := s.filterActive = false → s.toViews.ShowsFilter lib

/-- What holds of every state that the interface reaches while the view keeps up with the filter. -/
structure FilterInv (lib : Lib) (s : AppState) : Prop where
  coherent : s.toViews.Coherent lib
  modal : FilterModal s
  upToDate : s.filterActive = false → s.toViews.UpToDate lib

/-- In a coherent state the view is that of the text when it is up to date. -/
theorem settled_iff (h : s.toViews.Coherent lib) :
    Settled lib s ↔ (s.filterActive = false → s.toViews.UpToDate lib) := by
  unfold Settled
  rw [Views.showsFilter_iff h.processes]
  exact Iff.rfl

/-- While the process filter is edited, an event other than Esc leaves the filter input open or catches
up with the filter. -/
theorem upToDate_handle_editing (h : FilterModal s) (hactive : s.filterActive = true) {e : Event}
    (hesc : ∀ key, e = .key key → key.code = .esc → s.toViews.UpToDate lib)
    (hclosed : (s.handle lib w e).filterActive = false) : (s.handle lib w e).toViews.UpToDate lib := by
  obtain ⟨hoverlay, hconfirm, htab⟩ := h hactive
  obtain ⟨-, hviews⟩ := @handle_editing lib w s hoverlay hconfirm
    (Views.filterEditing_of_active hactive htab) e
  obtain hsame | ⟨key, rfl, hkey⟩ | ⟨snapshot, hsnap⟩ := hviews
  · have hopen : (s.handle lib w e).filterActive = true :=
      (congrArg Views.filterActive hsame).trans hactive
    cases hclosed.symm.trans hopen
  · rw [hkey] at hclosed ⊢
    by_cases hcode : key.code = .esc
    · have hview := hesc key rfl hcode
      simpa [handleFilterKey, hcode] using Views.upToDate_setFilterEditing.2 hview
    · by_cases hcode' : key.code = .enter
      · simpa [handleFilterKey, hcode'] using Views.upToDate_enter htab
      · rw [Views.handleFilterKey_filterActive hcode hcode', hactive] at hclosed
        cases hclosed
  · rw [hsnap]
    exact Views.upToDate_takeSnapshot snapshot

/-- With the filter input closed, an event keeps the view up to date. -/
theorem upToDate_handle_closed (hclosed : s.filterActive = false) (h : s.toViews.UpToDate lib)
    (e : Event) : (s.handle lib w e).toViews.UpToDate lib := by
  have hturned := @turned_handle lib w s e
  generalize (s.handle lib w e).toViews = v at hturned
  cases hturned
  case change hchange => exact (Views.follows_change hchange).upToDate h
  case moved op _ _ => exact (Views.follows_apply op).upToDate h
  case filterBy text _ => exact (Views.follows_setFilterText text).upToDate h
  case edit key _ _ hediting =>
    have htab : ¬ FiltersProcesses s.tab := by
      rintro (htab | htab) <;> simp [Views.filterEditing, htab, hclosed] at hediting
    exact (Views.follows_handleFilterKey key htab).upToDate h
  case snapshot snapshot _ => exact Views.upToDate_takeSnapshot snapshot

/-- A step that leaves the view settled keeps the invariant. -/
theorem FilterInv.step (h : FilterInv lib s) (input : Input)
    (hsettled : Settled lib (s.step lib input)) : FilterInv lib (s.step lib input) := by
  have hcoherent := coherent_step h.coherent input
  exact ⟨hcoherent, modal_step processFlag h.modal input, (settled_iff hcoherent).1 hsettled⟩

/-- A step leaves the view settled exactly when it is no Esc on a view that lags. -/
theorem settled_step_iff (h : FilterInv lib s) (input : Input) :
    Settled lib (s.step lib input) ↔ EscapesUpToDate lib s input := by
  rw [settled_iff (coherent_step h.coherent input)]
  constructor
  · intro hsettled hrunning hactive key hkey hcode
    obtain ⟨hoverlay, hconfirm, htab⟩ := h.modal hactive
    have hstep : (s.step lib input).toViews = s.toViews.setFilterEditing false := by
      rw [AppState.step, if_pos hrunning, hkey, handle_key_editing hoverlay hconfirm
        (Views.filterEditing_of_active hactive htab) (by simp [hcode])]
      simp [mapViews, handleFilterKey, hcode, expireToasts]
    rw [hstep] at hsettled
    have hview := hsettled (Views.setFilterEditing_false htab)
    exact Views.upToDate_setFilterEditing.1 hview
  · intro hesc hclosed
    unfold AppState.step at hclosed ⊢
    split_ifs at hclosed ⊢ with hrunning
    · cases hactive : s.filterActive
      case true =>
        exact upToDate_handle_editing h.modal hactive (hesc hrunning hactive) hclosed
      case false => exact upToDate_handle_closed hactive (h.upToDate hactive) input.event
    · exact h.upToDate hclosed

/-- At the start the filter is empty and closed. -/
theorem filterInv_withConfig (config : CliConfig) (containerEngine clusterEngine : Bool) :
    FilterInv lib (withConfig config containerEngine clusterEngine) where
  coherent := coherent_withConfig config containerEngine clusterEngine
  modal := modal_of_closed rfl
  upToDate _ := by
    rintro snap hsnap
    cases hsnap

/-- **The process view and its filter.** Every state of a run in which the process filter is not being
edited shows the filter text exactly when no Esc of the run ends the editing on a view that lags. -/
theorem alwaysSettled_iff (config : CliConfig) (containerEngine clusterEngine : Bool)
    (inputs : List Input) :
    let start := withConfig config containerEngine clusterEngine
    (∀ before, before <+: inputs → Settled lib (Runs.run (step lib) start before)) ↔
      Runs.Along (step lib) (EscapesUpToDate lib) start inputs := by
  intro start
  have hstart : FilterInv lib start := filterInv_withConfig config containerEngine clusterEngine
  rw [Runs.forall_prefix_iff]
  have hsettled : Settled lib start := (settled_iff hstart.coherent).2 hstart.upToDate
  rw [and_iff_right hsettled]
  exact Runs.along_iff (fun _ input hsettled h => h.step input hsettled)
    (fun _ input h => settled_step_iff h input) inputs hstart

/-- Process 7, called `a`. -/
def lonelyProcess : ProcessInfo := { (default : ProcessInfo) with pid := 7, name := "a", command := "a" }

/-- With one process, `a`, on screen, the filter `ax` is typed within the debounce window and left by
Esc. -/
def hastyTyping : List Input :=
  [.arrive 0 { (default : SystemSnapshot) with processes := [lonelyProcess] }, .press 0 (.char '/'),
    .press 0 (.char 'a'), .press 1000000 (.char 'x'), .press 2000000 .esc]

/-- After the hasty typing, F9 targets a process that the filter on screen does not match. -/
theorem not_alwaysSettled_hastyTyping :
    ¬ ∀ before, before <+: hastyTyping →
      Settled .ascii (Runs.run (step .ascii) (withConfig {} false false) before) := by
  intro h
  have hclosed : (Runs.run (step .ascii) (withConfig {} false false) hastyTyping).filterActive = false := by
    decide
  have hselected : (Runs.run (step .ascii) (withConfig {} false false) hastyTyping).selectedProcess =
      some lonelyProcess := by decide
  have hshows := h hastyTyping (List.prefix_refl _) hclosed
  have hmatches := hshows.targets lonelyProcess (.inl hselected)
  exact absurd hmatches (by decide)

end AppState

end Muxtop.Tui
