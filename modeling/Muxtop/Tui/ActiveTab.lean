import Muxtop.Tui.Draw
import Muxtop.Tui.FilterLag

/-!
# Sorting and filtering one tab

Each of the commands that sort or filter is a choice among the tabs, with a last case that means the
process table. A tab that is missing from the choice has the processes sorted in its place: the GPU tab,
when it is told to sort by a column that it does not have and the processes do.
-/

namespace Muxtop.Tui

open Muxtop.Core
open Text (Lowercase)

/-- How a table is sorted and filtered, where its cursor is, and what its rows are made of. The network
and GPU tables have no rows of their own: they project the snapshot when they are drawn. -/
inductive TableState
  | processes (field : SortField) (order : SortOrder) (filter : String) (selected offset : ℕ)
      (rows : List ProcessInfo) (tree : List (ProcessInfo × ℕ))
  | network (field : NetworkSortField) (order : SortOrder) (filter : String) (selected offset : ℕ)
      (snapshot : Option SystemSnapshot)
  | containers (field : ContainerSortField) (order : SortOrder) (filter : String)
      (selected offset : ℕ) (rows : List ContainerSnapshot)
  | kube (subview : KubeSubview) (field : KubeSortField) (order : SortOrder) (filter : String)
      (selected offset : ℕ) (rows : List ℕ)
  | gpu (subview : GpuSubview) (field : GpuSortField) (order : SortOrder) (filter : String)
      (selected offset : ℕ) (snapshot : Option SystemSnapshot)

namespace Views

def tableState (v : Views) : Table → TableState
  | .processes => .processes v.sortField v.sortOrder v.filterInput v.selected v.scrollOffset
      v.visibleProcesses v.visibleTree
  | .network => .network v.netSortField v.netSortOrder v.netFilterInput v.netSelected v.netScrollOffset
      v.lastSnapshot
  | .containers => .containers v.containersSortField v.containersSortOrder v.containersFilterInput
      v.containersSelected v.containersScrollOffset v.sortedFilteredContainersCache
  | .kube => .kube v.kubeSubview v.kubeSortField v.kubeSortOrder v.kubeFilterInput v.kubeSelected
      v.kubeScrollOffset v.kubeViewCache
  | .gpu => .gpu v.gpuSubview v.gpuSortField v.gpuSortOrder v.gpuFilterInput v.gpuSelected
      v.gpuScrollOffset v.lastSnapshot

variable {lib : Lib} {v : Views} {t : Table}

/-- The process table is as recomputing it would make it. -/
structure Settled (lib : Lib) (v : Views) : Prop where
  rows : (v.visibleProcesses, v.visibleTree) =
    processView lib v.lastSnapshot v.filterInput v.sortField v.sortOrder v.treeMode
  cursor : v.lastSnapshot.isSome = true →
    v.selected ≤ v.processCount - 1 ∧ v.scrollOffset ≤ v.processCount - 1

end Views

/-! ## The commands -/

/-- What sorts or filters the tab in front. -/
inductive TabOp
  | cycleSort
  | reverseSort
  | setFilter (text : String)
  | clearFilter
  | sortBy (field : String)

namespace TabOp

def apply (lib : Lib) (w : World) (s : AppState) : TabOp → AppState
  | .cycleSort => s.mapViews (·.cycleSort lib)
  | .reverseSort => s.mapViews (·.reverseSort lib)
  | .setFilter text => s.mapViews (·.setFilter lib w.now text)
  | .clearFilter => s.mapViews (·.setFilter lib w.now "")
  | .sortBy field => s.sortByName lib w field

/-- The process column that the command names. -/
def processColumn (lib : Lib) : TabOp → Option SortField
  | .sortBy field => AppState.processSortNamed (lib.lower.toLowercase (Text.trim field))
  | _ => none

end TabOp

namespace Views

variable {lib : Lib} {v : Views} {t : Table} {now : ℕ}

/-! ## What each operation leaves alone -/

/-- The cursors move in the table of the tab in front. -/
theorem tableState_mapSelected (f : ℕ → ℕ → ℕ × ℕ) (ht : t ≠ v.tab.table) :
    (v.mapSelected f).tableState t = v.tableState t := by
  unfold mapSelected
  cases htab : v.tab <;> rw [htab] at ht <;> cases t <;> first | rfl | exact absurd rfl ht

/-- A filter text is the table's in front. -/
theorem tableState_setFilterText (text : String) (ht : t ≠ v.tab.table) :
    (v.setFilterText text).tableState t = v.tableState t := by
  unfold setFilterText
  cases htab : v.tab <;> rw [htab] at ht <;> cases t <;> first | rfl | exact absurd rfl ht

/-- The process rows are the process table's. -/
theorem tableState_recomputeVisible (ht : t ≠ .processes) :
    (v.recomputeVisible lib).tableState t = v.tableState t := by
  cases hsnap : v.lastSnapshot <;> cases t <;>
    first | exact absurd rfl ht | simp [recomputeVisible, tableState, hsnap]

/-- So are those that are built after a while. -/
theorem tableState_recomputeVisibleDebounced (ht : t ≠ .processes) :
    (v.recomputeVisibleDebounced lib now).tableState t = v.tableState t := by
  have hstamp : ({ v with lastFilterChange := some now } : Views).tableState t = v.tableState t := by
    cases t <;> rfl
  unfold recomputeVisibleDebounced
  dsimp only
  split_ifs
  · exact (tableState_recomputeVisible ht).trans hstamp
  · exact hstamp

/-- After a change of the filter, the tab in front is projected anew and its cursor moved. -/
theorem afterFilterChange_cases (immediate : Bool) :
    ∃ (u : Views) (f : ℕ → ℕ → ℕ × ℕ), v.afterFilterChange lib now immediate = u.mapSelected f ∧
      u.tab = v.tab ∧ ∀ t, t ≠ v.tab.table → u.tableState t = v.tableState t := by
  have hstamp (last : Option ℕ) (t : Table) :
      ({ v with lastFilterChange := last } : Views).tableState t = v.tableState t := by
    cases t <;> rfl
  -- The process rows are recomputed at once or, while typing, after the debounce.
  have hprocesses (htable : v.tab.table = .processes) :
      let u := if immediate then { v with lastFilterChange := none }.recomputeVisible lib
        else v.recomputeVisibleDebounced lib now
      u.tab = v.tab ∧ ∀ t, t ≠ v.tab.table → u.tableState t = v.tableState t := by
    rw [htable]
    cases immediate
    · refine ⟨?_, fun t ht => tableState_recomputeVisibleDebounced ht⟩
      simp only [Bool.false_eq_true, if_false, recomputeVisibleDebounced]
      split_ifs <;> simp
    · exact ⟨recomputeVisible_tab, fun t ht => (tableState_recomputeVisible ht).trans (hstamp none t)⟩
  unfold afterFilterChange
  cases htab : v.tab <;> rw [htab] at hprocesses
  case general =>
    obtain ⟨hkept, hothers⟩ := hprocesses rfl
    exact ⟨_, _, rfl, hkept, hothers⟩
  case processes =>
    obtain ⟨hkept, hothers⟩ := hprocesses rfl
    exact ⟨_, _, rfl, hkept, hothers⟩
  case network => exact ⟨v, _, rfl, htab, fun _ _ => rfl⟩
  case gpu => exact ⟨v, _, rfl, htab, fun _ _ => rfl⟩
  case containers =>
    refine ⟨_, _, rfl, htab, fun t ht => ?_⟩
    cases t <;> first | rfl | exact absurd rfl ht
  case kube =>
    refine ⟨_, _, rfl, htab, fun t ht => ?_⟩
    cases t <;> first | rfl | exact absurd rfl ht

/-- A filter changes the table in front. -/
theorem tableState_setFilter (text : String) (ht : t ≠ v.tab.table) :
    (v.setFilter lib now text).tableState t = v.tableState t := by
  have htext := tableState_setFilterText text ht
  obtain ⟨u, f, hu, htab, hothers⟩ := @afterFilterChange_cases lib (v.setFilterText text) now true
  rw [setFilterText_tab] at htab hothers
  rw [setFilter, hu, tableState_mapSelected f (by rw [htab]; exact ht), hothers t ht, htext]

/-- A sort of the processes leaves the other tables. -/
theorem tableState_resort (field : SortField) (order : SortOrder) (ht : t ≠ .processes) :
    (({ v with sortField := field, sortOrder := order } : Views).recomputeVisible lib).tableState t =
      v.tableState t := by
  rw [tableState_recomputeVisible ht]
  cases t
  case processes => exact absurd rfl ht
  all_goals rfl

/-- A sort of the processes changes the process table. -/
theorem tableState_setProcessSort (field : SortField) (ht : t ≠ .processes) :
    (v.setProcessSort lib field).tableState t = v.tableState t :=
  tableState_resort field v.sortOrder ht

/-- What the commands take for the processes: any tab that they have no case for. -/
theorem table_eq_processes {tab : Tab} (hnet : tab ≠ .network) (hcontainers : tab ≠ .containers)
    (hkube : tab ≠ .kube) (hgpu : tab ≠ .gpu) : tab.table = .processes := by
  cases tab <;> first | rfl | contradiction

/-- A sort field is the table's in front. -/
theorem tableState_cycleSort (ht : t ≠ v.tab.table) : (v.cycleSort lib).tableState t = v.tableState t := by
  unfold cycleSort
  split
  case h_5 hnet hcontainers hkube hgpu =>
    rw [table_eq_processes hnet hcontainers hkube hgpu] at ht
    exact tableState_resort _ _ ht
  all_goals
    next htab =>
      rw [htab] at ht
      cases t <;> first | rfl | exact absurd rfl ht

/-- So is its direction. -/
theorem tableState_reverseSort (ht : t ≠ v.tab.table) :
    (v.reverseSort lib).tableState t = v.tableState t := by
  unfold reverseSort
  split
  case h_5 hnet hcontainers hkube hgpu =>
    rw [table_eq_processes hnet hcontainers hkube hgpu] at ht
    exact tableState_resort _ _ ht
  all_goals
    next htab =>
      rw [htab] at ht
      cases t <;> first | rfl | exact absurd rfl ht

/-- A cursor in bounds is not clamped. -/
theorem clampSelection_eq_self {selected count : ℕ} :
    clampSelection selected count = selected ↔ selected ≤ count - 1 := by
  unfold clampSelection
  split_ifs <;> omega

/-- The process table after a sort of the processes. -/
theorem tableState_setProcessSort_processes (field : SortField) :
    (v.setProcessSort lib field).tableState .processes =
      let view := processView lib v.lastSnapshot v.filterInput field v.sortOrder v.treeMode
      let count := if v.treeMode then view.2.length else view.1.length
      .processes field v.sortOrder v.filterInput
        (if v.lastSnapshot.isSome then clampSelection v.selected count else v.selected)
        (if v.lastSnapshot.isSome then clampSelection v.scrollOffset count else v.scrollOffset)
        view.1 view.2 := by
  unfold setProcessSort recomputeVisible
  cases hsnap : v.lastSnapshot <;> rfl

/-- A sort of the processes changes nothing exactly when it is the one they have, and they are settled. -/
theorem tableState_setProcessSort_iff (field : SortField) :
    (v.setProcessSort lib field).tableState .processes = v.tableState .processes ↔
      field = v.sortField ∧ v.Settled lib := by
  rw [tableState_setProcessSort_processes]
  simp only [tableState, TableState.processes.injEq, true_and]
  constructor
  · rintro ⟨rfl, hselected, hoffset, hrows, htree⟩
    refine ⟨rfl, Prod.ext hrows.symm htree.symm, fun hsome => ?_⟩
    rw [hrows, htree, if_pos hsome, clampSelection_eq_self] at hselected hoffset
    exact ⟨hselected, hoffset⟩
  · rintro ⟨rfl, hview, hcursor⟩
    have hrows := congrArg Prod.fst hview
    have htree := congrArg Prod.snd hview
    rw [← hrows, ← htree]
    refine ⟨rfl, ?_, ?_, rfl, rfl⟩
    · split_ifs with hsome htree
      · exact clampSelection_eq_self.2 (by simpa [processCount, htree] using (hcursor hsome).1)
      · exact clampSelection_eq_self.2 (by simpa [processCount, htree] using (hcursor hsome).1)
      · rfl
    · split_ifs with hsome htree
      · exact clampSelection_eq_self.2 (by simpa [processCount, htree] using (hcursor hsome).2)
      · exact clampSelection_eq_self.2 (by simpa [processCount, htree] using (hcursor hsome).2)
      · rfl

end Views

namespace AppState

variable {lib : Lib} {w : World} {s : AppState}

/-- The command leaves every table as it is but that of the tab in front. -/
def LeavesOthers (lib : Lib) (w : World) (s : AppState) (op : TabOp) : Prop :=
  ∀ t, t ≠ s.tab.table → (op.apply lib w s).toViews.tableState t = s.toViews.tableState t

/-- On the GPU tab the command names a column of the processes, and they are not already settled in the
order of that column. -/
def Misdirected (lib : Lib) (s : AppState) (op : TabOp) : Prop :=
  s.tab = .gpu ∧ ∃ field ∈ op.processColumn lib, ¬ (field = s.sortField ∧ s.toViews.Settled lib)

/-- What `sort <field>` does to the tables. -/
theorem sortByName_toViews (field : String) :
    (s.sortByName lib w field).toViews =
      (sortViewsByName lib (lib.lower.toLowercase (Text.trim field)) s.toViews).getD s.toViews := by
  unfold sortByName
  dsimp only
  split
  next v hv => rw [hv]; rfl
  next hv => rw [hv]; rfl

/-- On any tab but the GPU's, `sort <field>` sorts that tab. -/
theorem tableState_sortByName (hgpu : s.tab ≠ .gpu) (field : String) {t : Table} (ht : t ≠ s.tab.table) :
    (s.sortByName lib w field).toViews.tableState t = s.toViews.tableState t := by
  rw [sortByName_toViews]
  generalize lib.lower.toLowercase (Text.trim field) = f
  unfold sortViewsByName
  cases htab : s.tab <;> rw [htab] at ht hgpu <;> simp only [Tab.table] at ht
  case network =>
    cases networkSortNamed f
    · rfl
    · cases t <;> first | rfl | exact absurd rfl ht
  case containers =>
    cases containerSortNamed f
    · rfl
    · cases t <;> first | rfl | exact absurd rfl ht
  case kube => rfl
  case gpu => exact absurd rfl hgpu
  all_goals
    cases processSortNamed f
    · rfl
    · exact Views.tableState_setProcessSort _ ht

/-- On the GPU tab, `sort <field>` sorts the processes. -/
theorem sortByName_gpu (hgpu : s.tab = .gpu) (field : String) :
    (s.sortByName lib w field).toViews =
      ((TabOp.sortBy field).processColumn lib).elim s.toViews (s.toViews.setProcessSort lib ·) := by
  rw [sortByName_toViews]
  simp only [sortViewsByName, hgpu, TabOp.processColumn]
  cases processSortNamed (lib.lower.toLowercase (Text.trim field)) <;> rfl

/-- **One tab.** In every state, each command that sorts or filters leaves the other tabs alone, unless it
is `sort <field>` on the GPU tab with the name of a process column by which the processes are not already
sorted. -/
theorem leavesOthers_iff (lib : Lib) (w : World) (s : AppState) (op : TabOp) :
    LeavesOthers lib w s op ↔ ¬ Misdirected lib s op := by
  cases op with
  | cycleSort => exact iff_of_true (fun t ht => Views.tableState_cycleSort ht) (by rintro ⟨-, _, ⟨⟩, -⟩)
  | reverseSort =>
    exact iff_of_true (fun t ht => Views.tableState_reverseSort ht) (by rintro ⟨-, _, ⟨⟩, -⟩)
  | setFilter text =>
    exact iff_of_true (fun t ht => Views.tableState_setFilter text ht) (by rintro ⟨-, _, ⟨⟩, -⟩)
  | clearFilter =>
    exact iff_of_true (fun t ht => Views.tableState_setFilter "" ht) (by rintro ⟨-, _, ⟨⟩, -⟩)
  | sortBy field =>
    -- On the GPU tab a sort by name falls through to the process table.
    by_cases hgpu : s.tab = .gpu
    · unfold LeavesOthers Misdirected
      rw [hgpu]
      simp only [TabOp.apply, sortByName_gpu hgpu]
      cases hcolumn : (TabOp.sortBy field).processColumn lib with
      | none => simp
      | some column =>
        simp only [Option.elim_some, Option.mem_some_iff, exists_eq_left', true_and, not_not]
        rw [← Views.tableState_setProcessSort_iff]
        constructor
        · exact fun h => h .processes nofun
        · intro hprocesses t _
          by_cases ht : t = .processes
          · exact ht ▸ hprocesses
          · exact Views.tableState_setProcessSort column ht
    · exact iff_of_true (fun t ht => tableState_sortByName hgpu field ht) fun h => hgpu h.1

/-- `sort name` on the GPU tab sorts the processes by name. -/
theorem not_leavesOthers_gpuByName :
    ¬ ∀ (s : AppState) (op : TabOp), LeavesOthers .ascii (.obliging 0) s op := by
  intro h
  have hsame := h { tab := .gpu } (.sortBy "name") .processes nofun
  cases hsame

end AppState

end Muxtop.Tui
