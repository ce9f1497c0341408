import Muxtop.Tui.Draw

/-!
# Where the cursors stand

The process table is clamped whenever it is recomputed. The other four are clamped by what their own tab
does to them, but not when a snapshot takes rows away, and what they are clamped to is a count of rows
that need not be the number of rows drawn.
-/

namespace Muxtop.Tui

open Muxtop.Core StableSort

namespace Views

variable {lib : Lib} {v v' v'' : Views} {t : Table} {now : ℕ}

/-! ## Bounds -/

/-- The cursor of a table is on one of its rows, or at 0 where it has none. -/
def InBounds (lib : Lib) (v : Views) (t : Table) : Prop :=
  v.cursor t < v.drawnRows lib t ∨ v.drawnRows lib t = 0 ∧ v.cursor t = 0

/-- The tab in front counts more rows than its table draws, and more than one. -/
def Overcounts (lib : Lib) (v : Views) : Prop := max 1 (v.drawnRows lib v.tab.table) < v.itemCount lib

instance : Decidable (v.InBounds lib t) := inferInstanceAs (Decidable (_ ∨ _))
instance : Decidable (v.Overcounts lib) := inferInstanceAs (Decidable (_ < _))

/-- The bound in one piece: subtraction stops at 0. -/
theorem inBounds_iff : v.InBounds lib t ↔ v.cursor t ≤ v.drawnRows lib t - 1 := by
  unfold InBounds
  omega

/-- What keeps a cursor in bounds: it ends in bounds, or it has moved up at most and its table has not
lost rows. -/
def Steady (lib : Lib) (t : Table) (v v' : Views) : Prop :=
  v'.cursor t ≤ v'.drawnRows lib t - 1 ∨
    v'.cursor t ≤ v.cursor t ∧ v.drawnRows lib t ≤ v'.drawnRows lib t

/-- What keeps cursors in bounds keeps them there. -/
theorem Steady.inBounds (h : Steady lib t v v') (hv : v.InBounds lib t) : v'.InBounds lib t := by
  rw [inBounds_iff] at hv ⊢
  unfold Steady at h
  omega

/-- One step after another. -/
theorem Steady.trans (h : Steady lib t v v') (h' : Steady lib t v' v'') : Steady lib t v v'' := by
  unfold Steady at *
  omega

/-- A step that changes neither the cursor nor the number of rows. -/
theorem steady_same (hcursor : v'.cursor t = v.cursor t)
    (hrows : v'.drawnRows lib t = v.drawnRows lib t) : Steady lib t v v' :=
  .inr ⟨hcursor.le, hrows.ge⟩

/-- A cursor that goes back to the top. -/
theorem steady_zero (h : v'.cursor t = 0) : Steady lib t v v' := .inl (h ▸ Nat.zero_le _)

/-! ## Rows and counts -/

/-- The rows do not depend on the cursors. -/
theorem drawnRows_of_cursors (h : v'.withoutCursors = v.withoutCursors) :
    v'.drawnRows lib t = v.drawnRows lib t := by
  have hforgot (u : Views) : u.withoutCursors.drawnRows lib t = u.drawnRows lib t := by
    cases t <;> rfl
  rw [← hforgot v', h, hforgot v]

/-- Whether the tab of a table draws it, rather than a message. -/
def shown (snapshot : Option SystemSnapshot) : Table → Bool
  | .processes => snapshot.isSome
  | .network => snapshot.isSome
  | .containers => (snapshot.bind (·.containers)).any (·.daemonUp)
  | .kube => (snapshot.bind (·.kube)).any (·.reachable)
  | .gpu => (snapshot.bind (·.gpu)).any (·.available)

/-- Without its part of the snapshot a table has no rows. -/
theorem drawnRows_of_hidden (h : shown v.lastSnapshot t = false) : v.drawnRows lib t = 0 := by
  cases t
  case processes => simp_all [drawnRows, shown]
  case network => simp_all [drawnRows, shown, visibleInterfaces]
  case containers =>
    unfold drawnRows
    cases hcs : v.lastSnapshot.bind (·.containers) <;> simp_all [shown]
  case kube =>
    unfold drawnRows kubeRows
    cases hsnap : v.lastSnapshot.bind (·.kube) <;> simp_all [shown]
  case gpu =>
    unfold drawnRows gpuRows
    cases hsnap : v.lastSnapshot.bind (·.gpu) <;> simp_all [shown]

/-- A table that has a row is drawn. -/
theorem shown_of_lt {k : ℕ} (h : k < v.drawnRows lib t) : shown v.lastSnapshot t = true := by
  by_contra hhidden
  rw [drawnRows_of_hidden (by simpa using hhidden)] at h
  exact absurd h (Nat.not_lt_zero _)

/-- The Network tab counts what it draws. -/
theorem netInterfaceCount_eq : v.netInterfaceCount lib = (v.visibleInterfaces lib).length := by
  unfold netInterfaceCount visibleInterfaces
  split
  · rfl
  next snapshot _ =>
    simp only [Text.isEmpty_or_contains]
    split_ifs with hempty
    · obtain hinput : v.netFilterInput = "" := by simpa using hempty
      simp [hinput]
    · rfl

/-- How many containers pass the filter does not depend on the sort. -/
theorem length_containersView (snapshot : Option SystemSnapshot) (filter : String)
    (field field' : ContainerSortField) (order order' : SortOrder) :
    (containersView lib snapshot filter field order).length =
      (containersView lib snapshot filter field' order').length := by
  unfold containersView
  split
  · rfl
  next cs _ =>
    cases cs.daemonUp
    · rfl
    · exact (((reverseIf_perm _ _).trans (sortContainers_perm _ _)).trans
        ((reverseIf_perm _ _).trans (sortContainers_perm _ _)).symm).length_eq

/-- How many objects pass the filter does not depend on the sort. -/
theorem length_kubeView (snapshot : Option SystemSnapshot) (subview : KubeSubview) (filter : String)
    (field field' : KubeSortField) (order order' : SortOrder) :
    (kubeView lib snapshot subview filter field order).length =
      (kubeView lib snapshot subview filter field' order').length := by
  unfold kubeView
  split
  · exact ((computeViewIndices_perm ..).trans (computeViewIndices_perm ..).symm).length_eq
  · rfl

/-- While the daemon is up, the Containers tab counts what it draws. -/
theorem containersCount_eq (h : v.ContainersCoherent lib)
    (hshown : shown v.lastSnapshot .containers = true) :
    v.containersCount lib = v.drawnRows lib .containers := by
  obtain ⟨cs, hcs, hup⟩ := (Option.any_eq_true _ _).1 hshown
  simp only [containersCount, drawnRows, hcs, hup, if_true]
  rw [h, containersView]
  simp only [hcs, hup, if_true]
  rw [((reverseIf_perm _ _).trans (sortContainers_perm _ _)).length_eq]
  split_ifs <;> rfl

/-- While the cluster is reachable, every position in the cache stands for a row. -/
theorem length_kubeRows (h : v.KubeCoherent lib) (hshown : shown v.lastSnapshot .kube = true) :
    v.kubeRows.length = v.kubeViewCache.length := by
  obtain ⟨snap, hsnap, hreachable⟩ := (Option.any_eq_true _ _).1 hshown
  simp only [kubeRows, hsnap, hreachable, if_true]
  rw [List.filterMap_length_eq_length]
  intro i hi
  rw [h, kubeView, hsnap] at hi
  obtain ⟨o, ho, -⟩ := mem_computeViewIndices.1 hi
  simp [ho]

/-- Where a tab other than the GPU's draws its table, it counts what it draws. -/
theorem itemCount_eq (h : v.Coherent lib) (hshown : shown v.lastSnapshot v.tab.table = true)
    (hgpu : v.tab ≠ .gpu) : v.itemCount lib = v.drawnRows lib v.tab.table := by
  unfold itemCount
  cases htab : v.tab <;> simp only [htab, Tab.table] at hshown ⊢
  case general => exact (if_pos hshown).symm
  case processes => exact (if_pos hshown).symm
  case network => exact netInterfaceCount_eq
  case containers => exact containersCount_eq h.containers hshown
  case kube => exact (length_kubeRows h.kube hshown).symm
  case gpu => exact absurd htab hgpu

/-- The GPU table and the count of its rows spell the vendors alike. -/
theorem toLowercase_gpuVendorLabel (vendor : GpuVendor) :
    lib.lower.toLowercase (gpuVendorLabel vendor) = vendorLabel vendor := by
  rw [lib.lower.ascii _ (by cases vendor <;> decide)]
  cases vendor <;> decide

/-- The GPU tab counts what it draws, unless the filter is part of a PID but not of the name. -/
theorem gpuCount_eq (hshown : shown v.lastSnapshot .gpu = true)
    (hpids : v.gpuSubview = .procs → ∀ snap ∈ v.lastSnapshot.bind (·.gpu), ∀ p ∈ snap.processes,
      Text.contains (toString p.pid) (lib.lower.toLowercase v.gpuFilterInput) = true →
        Text.contains (lib.lower.toLowercase p.name)
          (lib.lower.toLowercase v.gpuFilterInput) = true) :
    v.gpuCount lib = v.gpuRows lib := by
  obtain ⟨snap, hsnap, havailable⟩ := (Option.any_eq_true _ _).1 hshown
  simp only [gpuCount, gpuRows, hsnap, havailable, toLowercase_gpuVendorLabel]
  generalize lib.lower.toLowercase v.gpuFilterInput = f at hpids
  cases hsub : v.gpuSubview
  case devices => rfl
  case procs =>
    have hsame (p : GpuProcessSnapshot) (hp : p ∈ snap.processes) :
        (f.isEmpty || Text.contains (lib.lower.toLowercase p.name) f ||
            Text.contains (toString p.pid) f) =
          (f.isEmpty || Text.contains (lib.lower.toLowercase p.name) f) := by
      cases hpid : Text.contains (toString p.pid) f
      · exact Bool.or_false _
      · rw [hpids hsub snap hsnap p hp hpid, Bool.or_true, Bool.or_true]
    cases hprocs : snap.processes
    case nil => simp
    case cons p rest =>
      rw [hprocs] at hsame
      simp only [List.isEmpty_cons, Bool.false_and, Bool.not_true, Bool.false_eq_true, if_false]
      rw [List.filter_congr hsame]

/-- Without a filter, the GPU tab counts what it draws. -/
theorem not_overcounts_unfiltered (hshown : shown v.lastSnapshot .gpu = true)
    (hfilter : v.gpuFilterInput = "") (htab : v.tab = .gpu) : ¬ v.Overcounts lib := by
  have hcount : v.gpuCount lib = v.gpuRows lib :=
    gpuCount_eq hshown fun _ _ _ _ _ _ => by simp [hfilter]
  simp only [Overcounts, itemCount, htab, Tab.table, drawnRows, hcount]
  omega

/-- A tab overcounts only where its table is not drawn, or where the GPU filter is part of the PID of a
process but not of its name. -/
theorem overcounts_cases (h : v.Coherent lib) (hover : v.Overcounts lib) :
    shown v.lastSnapshot v.tab.table = false ∨
      v.tab = .gpu ∧ v.gpuSubview = .procs ∧
        ∃ snap ∈ v.lastSnapshot.bind (·.gpu), ∃ p ∈ snap.processes,
          Text.contains (toString p.pid) (lib.lower.toLowercase v.gpuFilterInput) = true ∧
            ¬ Text.contains (lib.lower.toLowercase p.name)
              (lib.lower.toLowercase v.gpuFilterInput) = true := by
  cases hshown : shown v.lastSnapshot v.tab.table
  case false => exact .inl rfl
  case true =>
    right
    unfold Overcounts at hover
    by_cases htab : v.tab = .gpu
    · refine ⟨htab, ?_⟩
      by_contra hnone
      have hcount : v.gpuCount lib = v.gpuRows lib := by
        refine gpuCount_eq (by rw [htab] at hshown; exact hshown) fun hsub snap hsnap p hp hpid => ?_
        by_contra hname
        exact hnone ⟨hsub, snap, hsnap, p, hp, hpid, hname⟩
      simp only [itemCount, htab, Tab.table, drawnRows, hcount] at hover
      omega
    · rw [itemCount_eq h hshown htab] at hover
      omega

/-! ## What an operation does to the cursors -/

/-- Only the cursor of the tab in front moves. -/
theorem cursor_mapSelected (f : ℕ → ℕ → ℕ × ℕ) :
    (v.mapSelected f).cursor t =
      if v.tab.table = t then (f (v.cursor t) (v.offset t)).1 else v.cursor t := by
  unfold mapSelected
  cases htab : v.tab <;> cases t <;> rfl

/-- Clamping moves no cursor down, and ends on a row or at 0. -/
theorem clampSelection_le (selected count : ℕ) :
    clampSelection selected count ≤ selected ∧ clampSelection selected count ≤ count - 1 := by
  unfold clampSelection
  split_ifs <;> omega

/-- A move of the cursor within the count of a tab that does not overcount. -/
theorem steady_mapSelected {f : ℕ → ℕ → ℕ × ℕ} (hcount : ¬ v.Overcounts lib)
    (hf : ∀ selected offset, (f selected offset).1 ≤ v.itemCount lib - 1) :
    Steady lib t v (v.mapSelected f) := by
  have hrows : (v.mapSelected f).drawnRows lib t = v.drawnRows lib t :=
    drawnRows_of_cursors (mapSelected_withoutCursors f)
  by_cases htab : v.tab.table = t
  · left
    have hcursor : (v.mapSelected f).cursor t = (f (v.cursor t) (v.offset t)).1 := by
      rw [cursor_mapSelected, if_pos htab]
    have hle := hf (v.cursor t) (v.offset t)
    subst htab
    unfold Overcounts at hcount
    omega
  · have hcursor : (v.mapSelected f).cursor t = v.cursor t := by
      rw [cursor_mapSelected, if_neg htab]
    exact steady_same hcursor hrows

/-- The cursor keys and the wheel stay within the count. -/
theorem steady_movesCursor {op : ViewOp} (hop : op.movesCursor = true) (hcount : ¬ v.Overcounts lib) :
    Steady lib t v (op.apply lib v) := by
  cases op <;> try cases hop
  case moveSelection delta =>
    change Steady lib t v (v.moveSelection lib delta)
    unfold moveSelection
    dsimp only
    split_ifs
    · exact steady_same rfl rfl
    · exact steady_mapSelected hcount fun _ _ => by dsimp only; omega
  case selectIndex index =>
    change Steady lib t v (v.selectIndex lib index)
    unfold selectIndex
    dsimp only
    split_ifs
    · exact steady_same rfl rfl
    · exact steady_mapSelected hcount fun _ _ => by dsimp only; omega
  case scrollRows delta =>
    change Steady lib t v (v.scrollRows lib delta)
    unfold scrollRows
    dsimp only
    split_ifs
    · exact steady_same rfl rfl
    · exact steady_mapSelected hcount fun _ _ => by dsimp only; omega

/-- `recompute_visible` clamps the cursor of the processes and leaves the others alone. -/
theorem recomputeVisible_cursor : (v.recomputeVisible lib).cursor t ≤ v.cursor t ∧
    (t ≠ .processes → (v.recomputeVisible lib).cursor t = v.cursor t) ∧
    (v.lastSnapshot.isSome = true →
      (v.recomputeVisible lib).selected ≤ (v.recomputeVisible lib).processCount - 1) := by
  unfold recomputeVisible
  dsimp only
  split
  next hnone => simp [hnone, cursor]
  next snapshot hsome =>
    refine ⟨?_, ?_, fun _ => (clampSelection_le _ _).2⟩
    · cases t
      case processes => exact (clampSelection_le _ _).1
      all_goals exact le_rfl
    · intro ht
      cases t
      case processes => exact absurd rfl ht
      all_goals rfl

/-- `recompute_visible` changes the rows of no other table. -/
theorem drawnRows_recomputeVisible (ht : t ≠ .processes) :
    (v.recomputeVisible lib).drawnRows lib t = v.drawnRows lib t := by
  rw [drawnRows_of_cursors recomputeVisible_withoutCursors]
  cases t
  case processes => exact absurd rfl ht
  all_goals rfl

/-- Recomputing after a change to no other table. -/
theorem steady_recomputeVisible (hsnap : v'.lastSnapshot = v.lastSnapshot)
    (hcursor : v'.cursor t ≤ v.cursor t)
    (hrows : t ≠ .processes → v'.drawnRows lib t = v.drawnRows lib t) :
    Steady lib t v (v'.recomputeVisible lib) := by
  obtain ⟨hle, -, hclamped⟩ := @recomputeVisible_cursor lib v' t
  by_cases ht : t = .processes
  · subst ht
    cases hsome : v'.lastSnapshot.isSome
    case true =>
      left
      have hrows' : (v'.recomputeVisible lib).drawnRows lib .processes =
          (v'.recomputeVisible lib).processCount := by simp [drawnRows, hsome]
      exact hrows' ▸ hclamped hsome
    case false =>
      have hnone : v.drawnRows lib .processes = 0 := drawnRows_of_hidden (hsnap ▸ hsome)
      exact .inr ⟨hle.trans hcursor, hnone ▸ Nat.zero_le _⟩
  · exact .inr ⟨hle.trans hcursor, ((drawnRows_recomputeVisible ht).trans (hrows ht)).ge⟩

/-- A changed sort of the containers. -/
theorem steady_sortContainers (h : v.ContainersCoherent lib) (field : ContainerSortField)
    (order : SortOrder) :
    Steady lib t v
      ({ v with containersSortField := field, containersSortOrder := order }.recomputeContainersView
        lib) := by
  apply steady_same
  · cases t <;> rfl
  · have hlength : (containersView lib v.lastSnapshot v.containersFilterInput field order).length =
        v.sortedFilteredContainersCache.length := by
      rw [h]
      exact length_containersView ..
    cases t
    case containers => simp only [drawnRows, recomputeContainersView, hlength]
    all_goals rfl

/-- A changed order of the Kubernetes rows. -/
theorem steady_sortKube (h : v.KubeCoherent lib) (order : SortOrder) :
    Steady lib t v ({ v with kubeSortOrder := order }.recomputeKubeView lib) := by
  apply steady_same
  · cases t <;> rfl
  · cases t
    case kube =>
      cases hshown : shown v.lastSnapshot .kube
      case false =>
        exact (drawnRows_of_hidden hshown).symm ▸ drawnRows_of_hidden hshown
      case true =>
        have hsorted : ({ v with kubeSortOrder := order }.recomputeKubeView lib).KubeCoherent lib := rfl
        have hnew := length_kubeRows hsorted hshown
        have hold := length_kubeRows h hshown
        simp only [drawnRows]
        rw [hnew, hold, h]
        exact length_kubeView ..
    all_goals rfl

/-- What puts the cursor of one table at the top and leaves the other tables alone. -/
theorem steady_top (top : Table) (hcursor : v'.cursor top = 0)
    (hother : t ≠ top → v'.cursor t = v.cursor t ∧ v'.drawnRows lib t = v.drawnRows lib t) :
    Steady lib t v v' := by
  by_cases ht : t = top
  · exact steady_zero (ht ▸ hcursor)
  · exact steady_same (hother ht).1 (hother ht).2

/-! ### Filters -/

/-- What `after_filter_change` re-runs, before it clamps the cursor. -/
def refilter (lib : Lib) (v : Views) (now : ℕ) (immediate : Bool) : Views :=
  match v.tab with
  | .containers => v.recomputeContainersView lib
  | .kube => v.recomputeKubeView lib
  | .gpu | .network => v
  | _ =>
    if immediate then { v with lastFilterChange := none }.recomputeVisible lib
    else v.recomputeVisibleDebounced lib now

/-- After its rows are there, a changed filter clamps the cursor to them. -/
theorem afterFilterChange_eq (immediate : Bool) :
    v.afterFilterChange lib now immediate =
      (v.refilter lib now immediate).mapSelected fun sel _ =>
        (clampSelection sel ((v.refilter lib now immediate).itemCount lib), 0) := rfl

/-- A change to one table only, which moves no cursor down and keeps the tab and the snapshot. -/
structure Confined (lib : Lib) (here t : Table) (v v' : Views) : Prop where
  tab : v'.tab = v.tab
  snapshot : v'.lastSnapshot = v.lastSnapshot
  cursor : v'.cursor t ≤ v.cursor t
  others : here ≠ t → v'.cursor t = v.cursor t ∧ v'.drawnRows lib t = v.drawnRows lib t

/-- The process rows are built for the process table only. -/
theorem confined_recomputeVisible : Confined lib .processes t v (v.recomputeVisible lib) where
  tab := recomputeVisible_tab
  snapshot := recomputeVisible_lastSnapshot
  cursor := recomputeVisible_cursor.1
  others ht := ⟨recomputeVisible_cursor.2.1 ht.symm, drawnRows_recomputeVisible ht.symm⟩

/-- Two changes to one table. -/
theorem Confined.trans {here : Table} (h : Confined lib here t v v') (h' : Confined lib here t v' v'') :
    Confined lib here t v v'' where
  tab := h'.tab.trans h.tab
  snapshot := h'.snapshot.trans h.snapshot
  cursor := h'.cursor.trans h.cursor
  others ht :=
    ⟨(h'.others ht).1.trans (h.others ht).1, (h'.others ht).2.trans (h.others ht).2⟩

/-- A new text for the filter of the processes, debounced or not. -/
theorem confined_filterProcesses (htab : v.tab.table = .processes) (text : String) (immediate : Bool) :
    Confined lib .processes t v ((v.setFilterText text).refilter lib now immediate) := by
  have htyped (change : Option ℕ) :
      Confined lib .processes t v { v with filterInput := text, lastFilterChange := change } := by
    refine ⟨rfl, rfl, ?_, fun ht => ⟨?_, ?_⟩⟩
    · cases t <;> exact le_rfl
    · cases t <;> rfl
    · cases t <;> rfl
  have hrecomputed (change : Option ℕ) : Confined lib .processes t v
      ({ v with filterInput := text, lastFilterChange := change }.recomputeVisible lib) :=
    (htyped change).trans confined_recomputeVisible
  have hrefilter : (v.setFilterText text).refilter lib now immediate =
      if immediate then
        { v with filterInput := text, lastFilterChange := none }.recomputeVisible lib
      else { v with filterInput := text }.recomputeVisibleDebounced lib now := by
    unfold refilter setFilterText
    cases h : v.tab <;> first | rfl | (rw [h] at htab; cases htab)
  rw [hrefilter]
  split_ifs
  · exact hrecomputed none
  · unfold recomputeVisibleDebounced
    dsimp only
    split_ifs
    · exact hrecomputed (some now)
    · exact htyped (some now)

/-- Taking up a new filter text concerns the table of the tab in front only. -/
theorem confined_refilter (text : String) (immediate : Bool) :
    Confined lib v.tab.table t v ((v.setFilterText text).refilter lib now immediate) := by
  cases htab : v.tab
  case general => exact confined_filterProcesses (by rw [htab]; rfl) text immediate
  case processes => exact confined_filterProcesses (by rw [htab]; rfl) text immediate
  all_goals
    unfold refilter setFilterText
    simp only [htab]
    refine ⟨htab.symm, rfl, ?_, fun ht => ?_⟩
    · cases t <;> exact le_rfl
    · cases t <;> first | exact absurd rfl ht | exact ⟨rfl, rfl⟩

/-- Taking up a new filter text clamps the cursor to the rows that are left. -/
theorem steady_afterFilterChange (h : v.Coherent lib) (text : String) (immediate : Bool)
    (hgpu : v.tab = .gpu → shown v.lastSnapshot .gpu = true →
      ¬ Overcounts lib { v with gpuFilterInput := text }) :
    Steady lib t v ((v.setFilterText text).afterFilterChange lib now immediate) := by
  have hcoherent : ((v.setFilterText text).refilter lib now immediate).Coherent lib := by
    have hclamped := @coherent_setFilterText lib v now h text immediate
    rw [afterFilterChange_eq] at hclamped
    exact hclamped.of_cursors (mapSelected_withoutCursors _).symm
  have hfront (htab : v.tab = .gpu) : (v.setFilterText text).refilter lib now immediate =
      { v with gpuFilterInput := text } := by
    unfold refilter setFilterText
    simp only [htab]
  have hconfined := @confined_refilter lib v t now text immediate
  rw [afterFilterChange_eq]
  generalize (v.setFilterText text).refilter lib now immediate = u at *
  have hrows {f : ℕ → ℕ → ℕ × ℕ} : (u.mapSelected f).drawnRows lib t = u.drawnRows lib t :=
    drawnRows_of_cursors (mapSelected_withoutCursors f)
  by_cases ht : v.tab.table = t
  · have hclamped := clampSelection_le (u.cursor t) (u.itemCount lib)
    unfold Steady
    rw [hrows, cursor_mapSelected, hconfined.tab, if_pos ht]
    subst ht
    cases hshown : shown v.lastSnapshot v.tab.table
    case false =>
      -- the table is not drawn, so its cursor is at the top already
      rw [drawnRows_of_hidden hshown]
      exact .inr ⟨hclamped.1.trans hconfined.cursor, Nat.zero_le _⟩
    case true =>
      have hcount : ¬ u.Overcounts lib := by
        intro hover
        obtain hhidden | ⟨htab, -⟩ := overcounts_cases hcoherent hover
        · rw [hconfined.snapshot, hconfined.tab, hshown] at hhidden
          cases hhidden
        · rw [hconfined.tab] at htab
          rw [hfront htab] at hover
          exact hgpu htab (by rw [htab] at hshown; exact hshown) hover
      unfold Overcounts at hcount
      rw [hconfined.tab] at hcount
      left
      omega
  · obtain ⟨hcursor, hsame⟩ := hconfined.others ht
    refine steady_same ?_ (hrows.trans hsame)
    rw [cursor_mapSelected, hconfined.tab, if_neg ht, hcursor]

/-! ### All operations -/

/-- Going to a tab moves no cursor. -/
theorem steady_goToTab (tab : Tab) : Steady lib t v (v.goToTab tab) := by
  unfold goToTab
  split_ifs
  · exact steady_same rfl rfl
  · apply steady_same
    · cases t <;> rfl
    · cases t <;> rfl

/-- Nor does opening or closing an input. -/
theorem steady_setFilterEditing (on : Bool) : Steady lib t v (v.setFilterEditing on) := by
  unfold setFilterEditing
  split
  all_goals
    apply steady_same
    · cases t <;> rfl
    · cases t <;> rfl

/-- Another sub-view starts at the top. -/
theorem steady_switchKubeSubview (sv : KubeSubview) : Steady lib t v (v.switchKubeSubview lib sv) := by
  refine steady_top .kube rfl fun ht => ?_
  cases t <;> first | exact absurd rfl ht | exact ⟨rfl, rfl⟩

/-- So does one of the GPU tab. -/
theorem steady_switchGpuSubview (sv : GpuSubview) : Steady lib t v (v.switchGpuSubview sv) := by
  refine steady_top .gpu rfl fun ht => ?_
  cases t <;> first | exact absurd rfl ht | exact ⟨rfl, rfl⟩

/-- A new sort of the processes. -/
theorem steady_sortProcesses (field : SortField) (order : SortOrder) :
    Steady lib t v ({ v with sortField := field, sortOrder := order }.recomputeVisible lib) := by
  apply steady_recomputeVisible rfl
  · cases t <;> exact le_rfl
  · intro ht
    cases t <;> first | exact absurd rfl ht | rfl

/-- The tree and the list have as many rows. -/
theorem steady_toggleTree : Steady lib t v (v.toggleTree lib) := by
  unfold toggleTree
  apply steady_recomputeVisible
  · rfl
  · cases t <;> first | exact Nat.zero_le _ | exact le_rfl
  · intro ht
    cases t <;> first | exact absurd rfl ht | rfl

/-- Sorting loses no row. -/
theorem steady_cycleSort (h : v.Coherent lib) : Steady lib t v (v.cycleSort lib) := by
  unfold cycleSort
  split
  · apply steady_same <;> cases t <;> rfl
  · exact steady_sortContainers h.containers _ v.containersSortOrder
  · refine steady_top .kube rfl fun ht => ?_
    cases t <;> first | exact absurd rfl ht | exact ⟨rfl, rfl⟩
  · refine steady_top .gpu rfl fun ht => ?_
    cases t <;> first | exact absurd rfl ht | exact ⟨rfl, rfl⟩
  · exact steady_sortProcesses _ v.sortOrder

/-- Nor does turning round. -/
theorem steady_reverseSort (h : v.Coherent lib) : Steady lib t v (v.reverseSort lib) := by
  unfold reverseSort
  split
  · apply steady_same <;> cases t <;> rfl
  · exact steady_sortContainers h.containers v.containersSortField _
  · exact steady_sortKube h.kube _
  · apply steady_same <;> cases t <;> rfl
  · exact steady_sortProcesses v.sortField _

/-- An operation that moves no cursor. -/
theorem steady_apply (h : v.Coherent lib) {op : ViewOp} (hop : op.movesCursor = false) :
    Steady lib t v (op.apply lib v) := by
  cases op
  case goToTab tab => exact steady_goToTab tab
  case showGpu => apply steady_same <;> cases t <;> rfl
  case scrollColumns => apply steady_same <;> cases t <;> rfl
  case setFilterEditing on => exact steady_setFilterEditing on
  case clearFilter now =>
    exact steady_afterFilterChange h "" true fun htab hshown =>
      not_overcounts_unfiltered hshown rfl htab
  case moveSelection => cases hop
  case selectIndex => cases hop
  case scrollRows => cases hop
  case cycleSubview delta =>
    change Steady lib t v (v.cycleSubview lib delta)
    unfold cycleSubview
    split
    · apply steady_switchKubeSubview
    · apply steady_switchGpuSubview
    · exact steady_same rfl rfl
  case cycleSort => exact steady_cycleSort h
  case reverseSort => exact steady_reverseSort h
  case setProcessSort field => exact steady_sortProcesses field v.sortOrder
  case setNetSort => apply steady_same <;> cases t <;> rfl
  case setContainerSort field => exact steady_sortContainers h.containers field v.containersSortOrder
  case toggleTree => exact steady_toggleTree
  case switchKubeSubview sv => exact steady_switchKubeSubview sv
  case switchGpuSubview sv => exact steady_switchGpuSubview sv
  case topKube =>
    refine steady_top .kube rfl fun ht => ?_
    cases t <;> first | exact absurd rfl ht | exact ⟨rfl, rfl⟩

/-- Any action or command, the cursor keys and new filter texts apart. -/
theorem steady_change (h : v.Coherent lib) (hchange : ViewChange lib v v') : Steady lib t v v' := by
  cases hchange
  case same => exact steady_same rfl rfl
  case op op hop => exact steady_apply h hop
  case there tab op hreset =>
    refine (steady_goToTab tab).trans (steady_apply (coherent_goToTab h tab) ?_)
    cases op <;> first | rfl | exact hreset.elim

/-! ### Snapshots -/

/-- The tables but that of the processes, with the rows of a new snapshot. -/
def showing (lib : Lib) (v : Views) (snapshot : SystemSnapshot) : Views :=
  { v with
    lastSnapshot := some snapshot
    sortedFilteredContainersCache :=
      containersView lib (some snapshot) v.containersFilterInput v.containersSortField
        v.containersSortOrder
    kubeViewCache :=
      kubeView lib (some snapshot) v.kubeSubview v.kubeFilterInput v.kubeSortField v.kubeSortOrder }

/-- A snapshot clamps the cursor of the processes and leaves the others where they are. -/
theorem inBounds_takeSnapshot {snapshot : SystemSnapshot}
    (h : t ≠ .processes → (v.showing lib snapshot).InBounds lib t) :
    (v.takeSnapshot lib snapshot).InBounds lib t := by
  cases t
  case processes =>
    rw [inBounds_iff]
    exact (@recomputeVisible_cursor lib { v with lastSnapshot := some snapshot } .processes).2.2 rfl
  case network => exact h nofun
  case containers => exact h nofun
  case kube => exact h nofun
  case gpu => exact h nofun

/-! ## What a cursor in bounds is good for -/

/-- The cursor of each table is on a row, or at 0 where there is none: the highlighted row is among those
drawn, whatever the height, and the row actions find what they act on. -/
structure Highlights (lib : Lib) (v : Views) : Prop where
  bound : ∀ t, v.cursor t < v.drawnRows lib t ∨ v.drawnRows lib t = 0 ∧ v.cursor t = 0
  drawn : ∀ t height, height ≠ 0 → v.drawnRows lib t ≠ 0 →
    v.cursor t ∈ drawnRange (v.drawnRows lib t) (v.cursor t) (v.offset t) height
  process : v.drawnRows lib .processes ≠ 0 → v.selectedProcess.isSome
  container : v.drawnRows lib .containers ≠ 0 → v.selectedContainer.isSome
  object : v.drawnRows lib .kube ≠ 0 → v.selectedKubeObject.isSome

/-- A cursor on a row has a process to act on. -/
theorem isSome_selectedProcess (h : v.cursor .processes < v.drawnRows lib .processes) :
    v.selectedProcess.isSome := by
  have hrows : v.drawnRows lib .processes ≤ v.processCount := by
    simp only [drawnRows]
    split_ifs <;> omega
  have hsel : v.selected < v.processCount := lt_of_lt_of_le h hrows
  unfold processCount at hsel
  unfold selectedProcess
  split_ifs at hsel ⊢ <;> simpa using hsel

/-- So it has a container. -/
theorem isSome_selectedContainer (h : v.cursor .containers < v.drawnRows lib .containers) :
    v.selectedContainer.isSome := by
  unfold drawnRows at h
  unfold selectedContainer
  cases hcs : v.lastSnapshot.bind (·.containers)
  case none => simp [hcs] at h
  case some cs =>
    cases hup : cs.daemonUp
    case false => simp [hcs, hup] at h
    case true => simpa [hcs, hup, cursor] using h

/-- So it has an object of the cluster. -/
theorem isSome_selectedKubeObject (hcoherent : v.KubeCoherent lib)
    (h : v.cursor .kube < v.drawnRows lib .kube) : v.selectedKubeObject.isSome := by
  have hshown := shown_of_lt h
  have hlength := length_kubeRows hcoherent hshown
  obtain ⟨snap, hsnap, -⟩ := (Option.any_eq_true _ _).1 hshown
  have hsel : v.kubeSelected < v.kubeViewCache.length := hlength ▸ h
  obtain ⟨i, hi⟩ : ∃ i, v.kubeViewCache[v.kubeSelected]? = some i :=
    ⟨_, List.getElem?_eq_getElem hsel⟩
  have hmem : i ∈ v.kubeViewCache := List.mem_of_getElem? hi
  rw [hcoherent, kubeView, hsnap] at hmem
  obtain ⟨o, ho, -⟩ := mem_computeViewIndices.1 hmem
  simp [selectedKubeObject, hsnap, hi, ho]

/-- Cursors in bounds highlight what is drawn. -/
theorem highlights_of_inBounds (hcoherent : v.KubeCoherent lib) (h : ∀ t, v.InBounds lib t) :
    v.Highlights lib := by
  have hrow (t : Table) (hrows : v.drawnRows lib t ≠ 0) : v.cursor t < v.drawnRows lib t :=
    (h t).resolve_right fun hnone => hrows hnone.1
  exact
    { bound := h
      drawn := fun t _ hheight hrows => mem_drawnRange (v.offset t) hheight (hrow t hrows)
      process := fun hrows => isSome_selectedProcess (hrow .processes hrows)
      container := fun hrows => isSome_selectedContainer (hrow .containers hrows)
      object := fun hrows => isSome_selectedKubeObject hcoherent (hrow .kube hrows) }

end Views

/-! ## Runs -/

namespace AppState

open Views (InBounds Overcounts)

variable {lib : Lib} {w : World} {s : AppState} {e : Event}

/-- What an event must not do for the cursors to stay on rows. A snapshot takes no row from under the
cursor of a table other than the processes'; otherwise the cursor is not moved on a tab that counts rows
that its table does not draw, and the GPU tab is not given a filter text under which it does. -/
def KeepsRow (lib : Lib) (s : AppState) : Event → Prop
  | .snapshot snapshot =>
    s.paused = false → ∀ t ∈ [Table.network, .containers, .kube, .gpu],
      s.cursor t = 0 ∨ s.cursor t < (s.toViews.showing lib snapshot).drawnRows lib t
  | e =>
    (s.movesCursor e = true → ¬ s.toViews.Overcounts lib) ∧
      ∀ text ∈ s.askedFilter e, s.tab = .gpu →
        ¬ Overcounts lib { s.toViews with gpuFilterInput := text }

/-- Such an event moves no cursor past the rows that are drawn. -/
theorem KeepsRow.moves (h : KeepsRow lib s e) (hmoves : s.movesCursor e = true) :
    ¬ s.toViews.Overcounts lib := by
  cases e
  case snapshot => cases hmoves
  all_goals exact h.1 hmoves

/-- Nor does its text filter the GPU tab to fewer rows than it counts. -/
theorem KeepsRow.asks (h : KeepsRow lib s e) {text : String} (hasked : s.askedFilter e = some text)
    (htab : s.tab = .gpu) : ¬ Overcounts lib { s.toViews with gpuFilterInput := text } := by
  cases e
  case snapshot => cases hasked
  all_goals exact h.2 text hasked htab

/-- A key in the filter input. -/
theorem steady_handleFilterKey {v : Views} {t : Table} (h : v.Coherent lib) (key : KeyEvent)
    (hgpu : v.tab = .gpu → ¬ Overcounts lib { v with gpuFilterInput := typedText v.filterText key }) :
    Views.Steady lib t v (handleFilterKey lib w v key) := by
  obtain ⟨u, hu, hkey⟩ := @Views.handleFilterKey_cases lib v w key
  have hleft : Views.Steady lib t v u ∧ u.Coherent lib ∧
      (u.tab = .gpu → ¬ Overcounts lib { u with gpuFilterInput := typedText v.filterText key }) := by
    obtain rfl | rfl := hu
    · exact ⟨Views.steady_same rfl rfl, h, hgpu⟩
    · refine ⟨Views.steady_setFilterEditing false, Views.coherent_setFilterEditing h false, ?_⟩
      intro htab
      rw [Views.setFilterEditing_tab] at htab
      have hsame : { v.setFilterEditing false with gpuFilterInput := typedText v.filterText key } =
          { v with gpuFilterInput := typedText v.filterText key, gpuFilterActive := false } := by
        simp [Views.setFilterEditing, htab]
      rw [hsame]
      exact hgpu htab
  obtain ⟨hsteady, hcoherent, hfits⟩ := hleft
  obtain hkey | ⟨immediate, hkey⟩ := hkey
  · exact hkey ▸ hsteady
  · rw [hkey]
    exact hsteady.trans
      (Views.steady_afterFilterChange hcoherent _ immediate fun htab _ => hfits htab)

/-- An event that takes no row away keeps every cursor in bounds. -/
theorem inBounds_handle (hcoherent : s.toViews.Coherent lib) (h : ∀ t, s.toViews.InBounds lib t)
    (hkeeps : KeepsRow lib s e) (t : Table) : (s.handle lib w e).toViews.InBounds lib t := by
  have hturned := @turned_handle lib w s e
  generalize (s.handle lib w e).toViews = v at hturned
  cases hturned
  case change hchange => exact (Views.steady_change hcoherent hchange).inBounds (h t)
  case moved op hop hmoves =>
    exact (Views.steady_movesCursor hop (hkeeps.moves hmoves)).inBounds (h t)
  case filterBy text hasked =>
    exact (Views.steady_afterFilterChange hcoherent text true fun htab _ =>
      hkeeps.asks hasked htab).inBounds (h t)
  case edit key hoverlay hconfirm hediting =>
    have hasked : s.askedFilter (.key key) = some (typedText s.filterText key) := by
      simp [askedFilter, hoverlay, hconfirm, hediting]
    exact (steady_handleFilterKey hcoherent key (hkeeps.asks hasked)).inBounds (h t)
  case snapshot snapshot hpaused =>
    apply Views.inBounds_takeSnapshot
    intro ht
    have hrow := hkeeps hpaused t (by cases t <;> simp_all)
    unfold InBounds
    obtain htop | hlt := hrow
    · have htop' : (s.toViews.showing lib snapshot).cursor t = 0 := by
        cases t <;> exact htop
      omega
    · left
      cases t <;> exact hlt

/-- What holds of every state of a run that takes no row away. -/
structure CursorsInBounds (lib : Lib) (s : AppState) : Prop where
  coherent : s.toViews.Coherent lib
  inBounds : ∀ t, s.toViews.InBounds lib t

/-- A step that takes no row away: one of an interface that has quit, or one whose event does not. -/
def StepKeepsRow (lib : Lib) (s : AppState) (input : Input) : Prop :=
  s.running = true → KeepsRow lib s input.event

instance : DecidablePred (KeepsRow lib s)
  | .snapshot _ => inferInstanceAs (Decidable (_ → ∀ t ∈ _, _ ∨ _))
  | .tick | .key _ | .mouse _ | .resize _ _ | .outcome _ _ =>
    inferInstanceAs (Decidable ((_ → ¬ _) ∧ ∀ text ∈ _, _ → ¬ _))

instance (s : AppState) (input : Input) : Decidable (StepKeepsRow lib s input) :=
  inferInstanceAs (Decidable (_ → _))

/-- Any input that keeps the row. -/
theorem CursorsInBounds.step (h : CursorsInBounds lib s) {input : Input}
    (hkeeps : StepKeepsRow lib s input) : CursorsInBounds lib (s.step lib input) := by
  refine ⟨coherent_step h.coherent input, fun t => ?_⟩
  unfold AppState.step
  split_ifs with hrunning
  · exact inBounds_handle h.coherent h.inBounds (hkeeps hrunning) t
  · exact h.inBounds t

/-- At the start all cursors are at the top. -/
theorem cursorsInBounds_withConfig (config : CliConfig) (containerEngine clusterEngine : Bool) :
    CursorsInBounds lib (withConfig config containerEngine clusterEngine) where
  coherent := coherent_withConfig config containerEngine clusterEngine
  inBounds t := by cases t <;> exact .inr ⟨rfl, rfl⟩

/-- **Selections.** In a run whose steps take no row away, every state highlights a row of each table that
has one. -/
theorem highlights_of_stepsKeepRow (config : CliConfig) (containerEngine clusterEngine : Bool)
    {inputs : List Input}
    (hsteps : Runs.Along (step lib) (StepKeepsRow lib)
      (withConfig config containerEngine clusterEngine) inputs) :
    ∀ before, before <+: inputs →
      (Runs.run (step lib) (withConfig config containerEngine clusterEngine) before).Highlights lib := by
  rintro before ⟨after, rfl⟩
  have hbefore := (Runs.along_append (step lib) before).1 hsteps
  have hend : CursorsInBounds lib (Runs.run (step lib) _ before) :=
    Runs.along_invariant (I := CursorsInBounds lib) (fun _ _ hkeeps h => h.step hkeeps) before hbefore.1
      (cursorsInBounds_withConfig config containerEngine clusterEngine)
  exact Views.highlights_of_inBounds hend.coherent.kube hend.inBounds

/-- A snapshot of a host with a number of network interfaces. -/
def interfaces (count : ℕ) : SystemSnapshot :=
  { (default : SystemSnapshot) with
    networks := { (default : NetworkSnapshot) with interfaces := List.replicate count default } }

/-- Two interfaces come up, and the second one is selected on the Network tab. -/
def secondInterface : List Input :=
  [.arrive 0 (interfaces 2), .press 1 .tab, .press 2 .tab, .press 3 (.char 'j')]

/-- While the interfaces stay or more come up, the second one can be selected. -/
theorem highlights_of_stepsKeepRow_secondInterface :
    (Runs.run (step .ascii) (withConfig {} false false)
      (secondInterface ++ [.arrive 4 (interfaces 3)])).Highlights .ascii :=
  highlights_of_stepsKeepRow {} false false (by decide) _ (List.prefix_refl _)

/-- When an interface goes away, the selection stays below the one that is left. -/
theorem not_highlights_interfaceDown :
    ¬ ∀ before, before <+: secondInterface ++ [.arrive 4 (interfaces 1)] →
      (Runs.run (step .ascii) (withConfig {} false false) before).Highlights .ascii := by
  intro h
  have hbound := (h _ (List.prefix_refl _)).bound .network
  exact absurd hbound (by decide)

end AppState

end Muxtop.Tui
