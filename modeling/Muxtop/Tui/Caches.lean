import Muxtop.Foundation.Runs
import Muxtop.Tui.ViewOps

/-!
# The caches behind the tables

Every operation on the tables leaves each cache equal to the projection it stands for. The process
cache is that of the filter text it was last computed from, which need not be the one on screen.

The last section is about runs: in every state the interface can reach, the Kubernetes and container
caches are the projections of the snapshot, filter and sort in force.
-/

namespace Muxtop.Tui

open Muxtop.Core StableSort

namespace Views

variable {lib : Lib} {v v' : Views} {now : ℕ}

/-! ## Cursors -/

/-- The state with its selections and scroll offsets forgotten. -/
def withoutCursors (v : Views) : Views :=
  { v with
    selected := 0, scrollOffset := 0
    netSelected := 0, netScrollOffset := 0
    containersSelected := 0, containersScrollOffset := 0
    kubeSelected := 0, kubeScrollOffset := 0
    gpuSelected := 0, gpuScrollOffset := 0 }

/-- Whatever is made of the cursor in front, it is a cursor. -/
@[simp] theorem mapSelected_withoutCursors (f : ℕ → ℕ → ℕ × ℕ) :
    (v.mapSelected f).withoutCursors = v.withoutCursors := by
  unfold mapSelected
  split <;> rfl

/-- Moving the selection moves a cursor. -/
@[simp] theorem moveSelection_withoutCursors (delta : ℤ) :
    (v.moveSelection lib delta).withoutCursors = v.withoutCursors := by
  unfold moveSelection
  dsimp only
  split_ifs
  · rfl
  · exact mapSelected_withoutCursors _

/-- So does selecting a row. -/
@[simp] theorem selectIndex_withoutCursors (index : ℕ) :
    (v.selectIndex lib index).withoutCursors = v.withoutCursors := by
  unfold selectIndex
  dsimp only
  split_ifs
  · rfl
  · exact mapSelected_withoutCursors _

/-- So does scrolling. -/
@[simp] theorem scrollRows_withoutCursors (delta : ℤ) :
    (v.scrollRows lib delta).withoutCursors = v.withoutCursors := by
  unfold scrollRows
  dsimp only
  split_ifs
  · rfl
  · exact mapSelected_withoutCursors _

/-- What `recompute_visible` computes, the clamped cursor apart. -/
theorem recomputeVisible_withoutCursors :
    (v.recomputeVisible lib).withoutCursors =
      withoutCursors
        { v with
          visibleProcesses :=
            (processView lib v.lastSnapshot v.filterInput v.sortField v.sortOrder v.treeMode).1
          visibleTree :=
            (processView lib v.lastSnapshot v.filterInput v.sortField v.sortOrder v.treeMode).2
          shownFilter := v.filterInput } := by
  unfold recomputeVisible
  dsimp only
  split <;> rfl

/-- The tab stays in front while its rows are built anew. -/
@[simp] theorem recomputeVisible_tab : (v.recomputeVisible lib).tab = v.tab := by
  unfold recomputeVisible
  dsimp only
  split <;> rfl

/-- The filter input stays as it is. -/
@[simp] theorem recomputeVisible_filterActive :
    (v.recomputeVisible lib).filterActive = v.filterActive := by
  unfold recomputeVisible
  dsimp only
  split <;> rfl

/-- The rows are built from the snapshot, which stays. -/
@[simp] theorem recomputeVisible_lastSnapshot :
    (v.recomputeVisible lib).lastSnapshot = v.lastSnapshot := by
  unfold recomputeVisible
  dsimp only
  split <;> rfl

/-! ## Coherence -/

def KubeCoherent (lib : Lib) (v : Views) : Prop :=
  v.kubeViewCache =
    kubeView lib v.lastSnapshot v.kubeSubview v.kubeFilterInput v.kubeSortField v.kubeSortOrder

def ContainersCoherent (lib : Lib) (v : Views) : Prop :=
  v.sortedFilteredContainersCache =
    containersView lib v.lastSnapshot v.containersFilterInput v.containersSortField
      v.containersSortOrder

/-- The process view is that of the filter text it was last computed from. -/
def ProcessesCoherent (lib : Lib) (v : Views) : Prop :=
  (v.visibleProcesses, v.visibleTree) =
    processView lib v.lastSnapshot v.shownFilter v.sortField v.sortOrder v.treeMode

/-- Every cache is the projection it stands for. -/
structure Coherent (lib : Lib) (v : Views) : Prop where
  kube : v.KubeCoherent lib
  containers : v.ContainersCoherent lib
  processes : v.ProcessesCoherent lib

/-- Coherence does not see the cursors. -/
theorem Coherent.of_cursors (h : v'.withoutCursors = v.withoutCursors) (hv : v.Coherent lib) :
    v'.Coherent lib := by
  have hforgot : v.withoutCursors.Coherent lib := ⟨hv.kube, hv.containers, hv.processes⟩
  rw [← h] at hforgot
  exact ⟨hforgot.kube, hforgot.containers, hforgot.processes⟩

/-- `recompute_visible` restores the process view and keeps the other two caches. -/
theorem coherent_recomputeVisible (hkube : v.KubeCoherent lib) (hcont : v.ContainersCoherent lib) :
    (v.recomputeVisible lib).Coherent lib := by
  refine Coherent.of_cursors recomputeVisible_withoutCursors ⟨hkube, hcont, rfl⟩

/-- `recompute_containers_view` restores the container rows and keeps the other two caches. -/
theorem coherent_recomputeContainersView (hkube : v.KubeCoherent lib)
    (hproc : v.ProcessesCoherent lib) : (v.recomputeContainersView lib).Coherent lib :=
  ⟨hkube, rfl, hproc⟩

/-- `recompute_kube_view` restores the Kubernetes rows and keeps the other two caches. -/
theorem coherent_recomputeKubeView (hcont : v.ContainersCoherent lib)
    (hproc : v.ProcessesCoherent lib) : (v.recomputeKubeView lib).Coherent lib :=
  ⟨rfl, hcont, hproc⟩

/-- A new filter text on the active tab, and what is re-run for it, keep every cache coherent, debounced
or not. -/
theorem coherent_setFilterText (h : v.Coherent lib) (text : String) (immediate : Bool) :
    ((v.setFilterText text).afterFilterChange lib now immediate).Coherent lib := by
  unfold afterFilterChange
  refine Coherent.of_cursors (mapSelected_withoutCursors _) ?_
  unfold setFilterText
  cases htab : v.tab
  case containers => exact coherent_recomputeContainersView h.kube h.processes
  case kube => exact coherent_recomputeKubeView h.containers h.processes
  case network => exact ⟨h.kube, h.containers, h.processes⟩
  case gpu => exact ⟨h.kube, h.containers, h.processes⟩
  all_goals
    dsimp only
    split_ifs
    · exact coherent_recomputeVisible h.kube h.containers
    · unfold recomputeVisibleDebounced
      dsimp only
      split_ifs
      · exact coherent_recomputeVisible h.kube h.containers
      · exact ⟨h.kube, h.containers, h.processes⟩

/-- A snapshot renews every cache. -/
theorem coherent_takeSnapshot (snapshot : SystemSnapshot) : (v.takeSnapshot lib snapshot).Coherent lib :=
  have hproc : ({ v with lastSnapshot := some snapshot }.recomputeVisible lib).ProcessesCoherent lib :=
    rfl
  coherent_recomputeKubeView rfl hproc

/-- The caches are those of all tabs, whichever is in front. -/
theorem coherent_goToTab (h : v.Coherent lib) (tab : Tab) : (v.goToTab tab).Coherent lib := by
  unfold goToTab
  split_ifs
  · exact h
  · exact ⟨h.kube, h.containers, h.processes⟩

/-- An open input has filtered nothing yet. -/
theorem coherent_setFilterEditing (h : v.Coherent lib) (on : Bool) :
    (v.setFilterEditing on).Coherent lib := by
  unfold setFilterEditing
  split <;> exact ⟨h.kube, h.containers, h.processes⟩

/-- Another sub-view has its rows built anew. -/
theorem coherent_switchKubeSubview (h : v.Coherent lib) (sv : KubeSubview) :
    (v.switchKubeSubview lib sv).Coherent lib :=
  coherent_recomputeKubeView h.containers h.processes

/-- The GPU tab has no cache. -/
theorem coherent_switchGpuSubview (h : v.Coherent lib) (sv : GpuSubview) :
    (v.switchGpuSubview sv).Coherent lib :=
  ⟨h.kube, h.containers, h.processes⟩

/-- The next sub-view is one of these. -/
theorem coherent_cycleSubview (h : v.Coherent lib) (delta : ℤ) :
    (v.cycleSubview lib delta).Coherent lib := by
  unfold cycleSubview
  split
  · exact coherent_switchKubeSubview h _
  · exact coherent_switchGpuSubview h _
  · exact h

/-- A changed sort of the active tab's table is always followed by what it asks to recompute. -/
theorem coherent_cycleSort (h : v.Coherent lib) : (v.cycleSort lib).Coherent lib := by
  unfold cycleSort
  split
  · exact ⟨h.kube, h.containers, h.processes⟩
  · exact coherent_recomputeContainersView h.kube h.processes
  · exact coherent_recomputeKubeView h.containers h.processes
  · exact ⟨h.kube, h.containers, h.processes⟩
  · exact coherent_recomputeVisible h.kube h.containers

/-- The other direction has the rows in front built anew. -/
theorem coherent_reverseSort (h : v.Coherent lib) : (v.reverseSort lib).Coherent lib := by
  unfold reverseSort
  split
  · exact ⟨h.kube, h.containers, h.processes⟩
  · exact coherent_recomputeContainersView h.kube h.processes
  · exact coherent_recomputeKubeView h.containers h.processes
  · exact ⟨h.kube, h.containers, h.processes⟩
  · exact coherent_recomputeVisible h.kube h.containers

/-- Every operation keeps every cache coherent. -/
theorem coherent_apply (h : v.Coherent lib) (op : ViewOp) : (op.apply lib v).Coherent lib := by
  cases op
  case goToTab tab => exact coherent_goToTab h tab
  case showGpu => exact ⟨h.kube, h.containers, h.processes⟩
  case scrollColumns => exact ⟨h.kube, h.containers, h.processes⟩
  case setFilterEditing on => exact coherent_setFilterEditing h on
  case clearFilter now => exact coherent_setFilterText h "" true
  case moveSelection delta => exact h.of_cursors (moveSelection_withoutCursors delta)
  case selectIndex index => exact h.of_cursors (selectIndex_withoutCursors index)
  case scrollRows delta => exact h.of_cursors (scrollRows_withoutCursors delta)
  case cycleSubview delta => exact coherent_cycleSubview h delta
  case cycleSort => exact coherent_cycleSort h
  case reverseSort => exact coherent_reverseSort h
  case setProcessSort => exact coherent_recomputeVisible h.kube h.containers
  case setNetSort => exact ⟨h.kube, h.containers, h.processes⟩
  case setContainerSort => exact coherent_recomputeContainersView h.kube h.processes
  case toggleTree => exact coherent_recomputeVisible h.kube h.containers
  case switchKubeSubview sv => exact coherent_switchKubeSubview h sv
  case switchGpuSubview sv => exact coherent_switchGpuSubview h sv
  case topKube => exact ⟨h.kube, h.containers, h.processes⟩

/-- Any operation on the views. -/
theorem coherent_change (h : v.Coherent lib) (hchange : ViewChange lib v v') : v'.Coherent lib := by
  cases hchange
  case same => exact h
  case op op _ => exact coherent_apply h op
  case there tab op _ => exact coherent_apply (coherent_goToTab h tab) op

/-- Setting the text that there is changes nothing. -/
theorem setFilterText_filterText (v : Views) : v.setFilterText v.filterText = v := by
  rcases v with ⟨tab⟩
  cases tab <;> rfl

/-- The tab stays in front when its input is opened. -/
@[simp] theorem setFilterEditing_tab (on : Bool) : (v.setFilterEditing on).tab = v.tab := by
  unfold setFilterEditing
  split <;> rfl

/-- The text stays when the input is opened. -/
@[simp] theorem setFilterEditing_filterText (on : Bool) :
    (v.setFilterEditing on).filterText = v.filterText := by
  cases htab : v.tab <;> simp [setFilterEditing, filterText, htab]

/-- A filter key may leave the filter input, and may have the text it makes taken up. -/
theorem handleFilterKey_cases {w : World} (key : KeyEvent) :
    ∃ u, (u = v ∨ u = v.setFilterEditing false) ∧
      (AppState.handleFilterKey lib w v key = u ∨
        ∃ immediate, AppState.handleFilterKey lib w v key =
          (u.setFilterText (AppState.typedText v.filterText key)).afterFilterChange lib w.now
            immediate) := by
  unfold AppState.handleFilterKey AppState.typedText
  split
  case h_1 => exact ⟨_, .inr rfl, .inl rfl⟩
  case h_2 hcode =>
    -- Enter leaves the text as it is, so to have typed it again changes nothing.
    refine ⟨_, .inr rfl, .inr ⟨true, ?_⟩⟩
    have hsame := setFilterText_filterText (v.setFilterEditing false)
    rw [setFilterEditing_filterText] at hsame
    simp only [hcode]
    rw [hsame]
  case h_3 hcode => exact ⟨v, .inl rfl, .inr ⟨false, by simp only [hcode]⟩⟩
  case h_4 c hcode =>
    refine ⟨v, .inl rfl, ?_⟩
    simp only [hcode]
    split_ifs
    · exact .inl rfl
    · exact .inr ⟨false, rfl⟩
    · exact .inl rfl
  case h_5 => exact ⟨v, .inl rfl, .inl rfl⟩

/-- The filter keys keep every cache coherent. -/
theorem coherent_handleFilterKey {w : World} (h : v.Coherent lib) (key : KeyEvent) :
    (AppState.handleFilterKey lib w v key).Coherent lib := by
  obtain ⟨u, hu, hkey⟩ := @handleFilterKey_cases lib v w key
  have hcoherent : u.Coherent lib := by
    obtain rfl | rfl := hu
    · exact h
    · exact coherent_setFilterEditing h false
  obtain hkey | ⟨immediate, hkey⟩ := hkey
  · exact hkey ▸ hcoherent
  · exact hkey ▸ coherent_setFilterText hcoherent _ immediate

/-- Every event keeps every cache coherent. -/
theorem coherent_turned {w : World} {s : AppState} {e : Event} (h : s.toViews.Coherent lib)
    (hturned : Turned lib w s e v) : v.Coherent lib := by
  cases hturned
  case change hchange => exact coherent_change h hchange
  case moved op _ _ => exact coherent_apply h op
  case filterBy text _ => exact coherent_setFilterText h text true
  case edit key _ _ _ => exact coherent_handleFilterKey h key
  case snapshot snapshot _ => exact coherent_takeSnapshot snapshot

end Views

/-! ## Container rows -/

/-- Whether a container's name, image or id contains the filter, ignoring case. -/
def ContainerMatches (lower : Text.Lowercase) (filter : String) (c : ContainerSnapshot) : Prop :=
  MatchesText lower c.name filter ∨ MatchesText lower c.image filter ∨ MatchesText lower c.id filter

instance (lower : Text.Lowercase) (filter : String) : DecidablePred (ContainerMatches lower filter) :=
  fun _ => inferInstanceAs (Decidable (_ ∨ _ ∨ _))

/-- The filter of the table is what the cache was filtered by. -/
theorem containerKept_iff {lib : Lib} {filter : String} {c : ContainerSnapshot} :
    Views.containerKept lib (lib.lower.toLowercase filter) c = true ↔
      ContainerMatches lib.lower filter c := by
  simp [Views.containerKept, ContainerMatches, Text.contains, MatchesText, or_assoc]

/-- A sort shows each row once. -/
theorem sortContainers_perm (rows : List ContainerSnapshot) (field : ContainerSortField) :
    (Views.sortContainers rows field).Perm rows := by
  cases field <;> exact sortBy_perm _ _

/-- While the daemon is up, the container view rearranges the containers that match the filter. -/
theorem containersView_perm {lib : Lib} {snapshot : Option SystemSnapshot} {cs : ContainersSnapshot}
    (hcs : snapshot.bind (·.containers) = some cs) (hup : cs.daemonUp = true) (filter : String)
    (field : ContainerSortField) (order : SortOrder) :
    (Views.containersView lib snapshot filter field order).Perm
      (cs.containers.filter fun c => decide (ContainerMatches lib.lower filter c)) := by
  have hkept : (if filter.isEmpty then cs.containers
      else cs.containers.filter (Views.containerKept lib (lib.lower.toLowercase filter))) =
      cs.containers.filter fun c => decide (ContainerMatches lib.lower filter c) := by
    split_ifs with hempty
    · obtain rfl : filter = "" := by simpa using hempty
      refine (List.filter_eq_self.2 fun c _ => ?_).symm
      exact decide_eq_true (.inl (matchesText_empty c.name))
    · refine List.filter_congr fun c _ => ?_
      rw [Bool.eq_iff_iff, containerKept_iff, decide_eq_true_iff]
  simp only [Views.containersView, hcs, hup, if_true, hkept]
  exact (reverseIf_perm _ _).trans (sortContainers_perm _ _)

/-- Without a container snapshot, or with the daemon down, there are no container rows. -/
theorem containersView_eq_nil {lib : Lib} {snapshot : Option SystemSnapshot}
    (h : ∀ cs ∈ snapshot.bind (·.containers), cs.daemonUp = false) (filter : String)
    (field : ContainerSortField) (order : SortOrder) :
    Views.containersView lib snapshot filter field order = [] := by
  unfold Views.containersView
  split
  case h_1 => rfl
  case h_2 cs hcs => simp [h cs hcs]

/-! ## Runs -/

namespace AppState

variable {lib : Lib}

/-- At the start there are no rows to show. -/
theorem coherent_withConfig (config : CliConfig) (containerEngine clusterEngine : Bool) :
    (withConfig config containerEngine clusterEngine).toViews.Coherent lib :=
  ⟨rfl, rfl, rfl⟩

/-- Any input. -/
theorem coherent_step {s : AppState} (h : s.toViews.Coherent lib) (input : Input) :
    (s.step lib input).toViews.Coherent lib := by
  unfold step
  split
  · exact Views.coherent_turned h (turned_handle input.event)
  · exact h

/-- In every state that can be reached, every cache is coherent. -/
theorem coherent_run (config : CliConfig) (containerEngine clusterEngine : Bool)
    (inputs : List Input) :
    (Runs.run (step lib) (withConfig config containerEngine clusterEngine) inputs).toViews.Coherent lib :=
  Runs.run_invariant (I := fun s : AppState => s.toViews.Coherent lib) (fun _ input h => coherent_step h input)
    inputs (coherent_withConfig config containerEngine clusterEngine)

/-- In every state that can be reached: the Kubernetes cache is the view of the current snapshot under the
current sub-view, filter and sort, and lists once each exactly the positions of the objects that match;
the container cache is the projection of the current containers under the current filter and sort, a
rearrangement of those that match, and empty without containers or daemon. -/
theorem caches_reachable (config : CliConfig) (containerEngine clusterEngine : Bool)
    (inputs : List Input) :
    let s := Runs.run (step lib) (withConfig config containerEngine clusterEngine) inputs
    (s.lastSnapshot.bind (·.kube) = none → s.kubeViewCache = []) ∧
    (∀ snap, s.lastSnapshot.bind (·.kube) = some snap →
      s.kubeViewCache =
          computeViewIndices lib.lower snap s.kubeSubview s.kubeFilterInput s.kubeSortField
            s.kubeSortOrder ∧
        s.kubeViewCache.Nodup ∧
        ∀ i, i ∈ s.kubeViewCache ↔
          ∃ o, (kubeObjects snap s.kubeSubview)[i]? = some o ∧
            KubeMatches lib.lower s.kubeFilterInput o) ∧
    s.sortedFilteredContainersCache =
        Views.containersView lib s.lastSnapshot s.containersFilterInput s.containersSortField
          s.containersSortOrder ∧
    (∀ cs, s.lastSnapshot.bind (·.containers) = some cs → cs.daemonUp = true →
      s.sortedFilteredContainersCache.Perm
        (cs.containers.filter fun c =>
          decide (ContainerMatches lib.lower s.containersFilterInput c))) ∧
    ((∀ cs ∈ s.lastSnapshot.bind (·.containers), cs.daemonUp = false) →
      s.sortedFilteredContainersCache = []) := by
  intro s
  have hcoherent : s.toViews.Coherent lib := coherent_run config containerEngine clusterEngine inputs
  -- The coherence of the caches is an invariant of the run; the clauses are read off it.
  refine ⟨?_, ?_, hcoherent.containers, ?_, ?_⟩
  · intro hnone
    rw [hcoherent.kube, Views.kubeView, hnone]
  · intro snap hsnap
    have hcache : s.kubeViewCache = computeViewIndices lib.lower snap s.kubeSubview
        s.kubeFilterInput s.kubeSortField s.kubeSortOrder := by
      rw [hcoherent.kube, Views.kubeView, hsnap]
    refine ⟨hcache, hcache ▸ computeViewIndices_nodup .., fun i => ?_⟩
    rw [hcache]
    exact mem_computeViewIndices
  · intro cs hcs hup
    rw [hcoherent.containers]
    exact containersView_perm hcs hup _ _ _
  · intro hdown
    rw [hcoherent.containers]
    exact containersView_eq_nil hdown _ _ _

end AppState

end Muxtop.Tui
