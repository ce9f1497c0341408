import Muxtop.Core.ProcessList
import Muxtop.Core.ProcessTree
import Muxtop.Tui.KubeView

/-!
# The five tables

Reference: `muxtop-tui/src/app.rs`, the fields of `AppState` that decide what the tables show, and the
methods that touch no other field.

The network and GPU tables are projected from the snapshot at every frame; the process, container and
Kubernetes tables are drawn from caches.
-/

namespace Muxtop.Tui

open Muxtop.Core StableSort
open Text (Lowercase)

/-- What the code calls outside the repository: Unicode lower case, the unstable sort and the scores
of the fuzzy matcher for a query and a text. -/
structure Lib where
  lower : Lowercase
  unstable : UnstableSort ProcessInfo
  score : String → String → Option UInt16

/-- A library for runs on fixed inputs: ASCII lower case, a stable sort and no fuzzy scores. -/
def Lib.ascii : Lib where
  lower := .asciiOnly
  unstable := .stable _
  score _ _ := none

/-- The part of `AppState` behind the tables. -/
structure Views where
  tab : Tab := .general
  colScroll : ℕ := 0
  lastSnapshot : Option SystemSnapshot := none
  sortField : SortField := .cpu
  sortOrder : SortOrder := .desc
  filterInput : String := ""
  filterActive : Bool := false
  treeMode : Bool := false
  selected : ℕ := 0
  scrollOffset : ℕ := 0
  visibleProcesses : List ProcessInfo := []
  visibleTree : List (ProcessInfo × ℕ) := []
  lastFilterChange : Option ℕ := none
  netSelected : ℕ := 0
  netScrollOffset : ℕ := 0
  netSortField : NetworkSortField := .rxRate
  netSortOrder : SortOrder := .desc
  netFilterInput : String := ""
  netFilterActive : Bool := false
  containersSelected : ℕ := 0
  containersScrollOffset : ℕ := 0
  containersSortField : ContainerSortField := .cpu
  containersSortOrder : SortOrder := .desc
  containersFilterInput : String := ""
  containersFilterActive : Bool := false
  sortedFilteredContainersCache : List ContainerSnapshot := []
  kubeSubview : KubeSubview := .pods
  kubeSortField : KubeSortField := .podCpu
  kubeSortOrder : SortOrder := .desc
  kubeFilterInput : String := ""
  kubeFilterActive : Bool := false
  kubeSelected : ℕ := 0
  kubeScrollOffset : ℕ := 0
  kubeViewCache : List ℕ := []
  gpuSubview : GpuSubview := .devices
  gpuSortField : GpuSortField := .deviceIndex
  gpuSortOrder : SortOrder := .desc
  gpuFilterInput : String := ""
  gpuFilterActive : Bool := false
  gpuSelected : ℕ := 0
  gpuScrollOffset : ℕ := 0
  /-- The filter text of the last `recompute_visible`. No code reads it. -/
  shownFilter : String := ""

/-- `FILTER_DEBOUNCE`, in nanoseconds. -/
def filterDebounce : ℕ := 50000000

/-- `widgets::clamp_selection` -/
def clampSelection (selected count : ℕ) : ℕ := if count = 0 then 0 else min selected (count - 1)

/-- By CPU, the busiest first; shares that do not compare are taken for equal. -/
def containerCpuCmp (a b : ContainerSnapshot) : Ordering := b.cpuPct.cmp a.cpuPct

namespace Views

section

variable (lib : Lib)

/-! ## Projections -/

/-- The process view of a snapshot under a filter and a sort: the sorted list, and the flattened tree
in tree mode. -/
def processView (snapshot : Option SystemSnapshot) (filter : String) (field : SortField)
    (order : SortOrder) (tree : Bool) : List ProcessInfo × List (ProcessInfo × ℕ) :=
  match snapshot with
  | none => ([], [])
  | some snapshot =>
    let filtered := filterProcesses lib.lower snapshot.processes filter
    (sortProcesses lib.lower lib.unstable filtered field order,
      if tree then flattenTree (buildProcessTree filtered) else [])

/-- Whether a container's name, image or id contains the filter. -/
def containerKept (f : String) (c : ContainerSnapshot) : Bool :=
  Text.contains (lib.lower.toLowercase c.name) f || Text.contains (lib.lower.toLowercase c.image) f ||
    Text.contains (lib.lower.toLowercase c.id) f

def sortContainers (rows : List ContainerSnapshot) : ContainerSortField → List ContainerSnapshot
  | .name => sortByKey (·.name) rows
  | .cpu => sortBy containerCpuCmp rows
  | .mem => sortByKeyRev (·.memUsedBytes) rows
  | .netRx => sortByKeyRev (·.netRxBytes) rows
  | .netTx => sortByKeyRev (·.netTxBytes) rows
  | .uptime => sortByKey (·.startedAtMs) rows

/-- The container rows under a filter and a sort. -/
def containersView (snapshot : Option SystemSnapshot) (filter : String) (field : ContainerSortField)
    (order : SortOrder) : List ContainerSnapshot :=
  match snapshot.bind (·.containers) with
  | none => []
  | some cs =>
    if cs.daemonUp then
      let f := lib.lower.toLowercase filter
      let rows := if filter.isEmpty then cs.containers else cs.containers.filter (containerKept lib f)
      let isAsc : Bool := order = .asc
      let defaultAsc : Bool := field = .name ∨ field = .uptime
      reverseIf (isAsc != defaultAsc) (sortContainers rows field)
    else []

/-- The Kubernetes rows: `compute_view_indices` where the snapshot has a cluster. -/
def kubeView (snapshot : Option SystemSnapshot) (subview : KubeSubview) (filter : String)
    (field : KubeSortField) (order : SortOrder) : List ℕ :=
  match snapshot.bind (·.kube) with
  | some snap => computeViewIndices lib.lower snap subview filter field order
  | none => []

variable (v : Views)

/-! ## Counts -/

/-- Number of visible processes. -/
def processCount : ℕ := if v.treeMode then v.visibleTree.length else v.visibleProcesses.length

/-- Network interfaces after the filter, in snapshot order. -/
def visibleInterfaces : List NetworkInterfaceSnapshot :=
  match v.lastSnapshot with
  | none => []
  | some snapshot =>
    let filter := lib.lower.toLowercase v.netFilterInput
    snapshot.networks.interfaces.filter fun i =>
      filter.isEmpty || Text.contains (lib.lower.toLowercase i.name) filter

/-- Number of visible network interfaces. -/
def netInterfaceCount : ℕ :=
  match v.lastSnapshot with
  | none => 0
  | some snapshot =>
    if v.netFilterInput.isEmpty then snapshot.networks.interfaces.length
    else
      let filter := lib.lower.toLowercase v.netFilterInput
      (snapshot.networks.interfaces.filter fun i =>
        Text.contains (lib.lower.toLowercase i.name) filter).length

/-- Visible container count. The daemon is not asked for here. -/
def containersCount : ℕ :=
  match v.lastSnapshot.bind (·.containers) with
  | none => 0
  | some cs =>
    if v.containersFilterInput.isEmpty then cs.containers.length
    else (cs.containers.filter (containerKept lib (lib.lower.toLowercase v.containersFilterInput))).length

def kubeCount : ℕ := v.kubeViewCache.length

/-- `GpuVendor::label` -/
def vendorLabel : GpuVendor → String
  | .nvidia => "nvidia"
  | .amd => "amd"
  | .intel => "intel"
  | .apple => "apple"
  | .unknown => "unknown"

/-- Count of rows of the active GPU sub-view after the filter: devices by name and vendor, processes by
name and PID. -/
def gpuCount : ℕ :=
  match v.lastSnapshot.bind (·.gpu) with
  | none => 0
  | some snap =>
    let f := lib.lower.toLowercase v.gpuFilterInput
    match v.gpuSubview with
    | .devices => (snap.devices.filter fun d =>
        f.isEmpty || Text.contains (lib.lower.toLowercase d.name) f ||
          Text.contains (vendorLabel d.vendor) f).length
    | .procs => (snap.processes.filter fun p =>
        f.isEmpty || Text.contains (lib.lower.toLowercase p.name) f ||
          Text.contains (toString p.pid) f).length

/-- Number of visible items in the current tab. -/
def itemCount : ℕ :=
  match v.tab with
  | .network => v.netInterfaceCount lib
  | .containers => v.containersCount lib
  | .kube => v.kubeCount
  | .gpu => v.gpuCount lib
  | _ => v.processCount

/-! ## The current tab -/

/-- Update the selection and the scroll offset of the current tab. -/
def mapSelected (f : ℕ → ℕ → ℕ × ℕ) : Views :=
  match v.tab with
  | .network =>
    let p := f v.netSelected v.netScrollOffset
    { v with netSelected := p.1, netScrollOffset := p.2 }
  | .containers =>
    let p := f v.containersSelected v.containersScrollOffset
    { v with containersSelected := p.1, containersScrollOffset := p.2 }
  | .kube =>
    let p := f v.kubeSelected v.kubeScrollOffset
    { v with kubeSelected := p.1, kubeScrollOffset := p.2 }
  | .gpu =>
    let p := f v.gpuSelected v.gpuScrollOffset
    { v with gpuSelected := p.1, gpuScrollOffset := p.2 }
  | _ =>
    let p := f v.selected v.scrollOffset
    { v with selected := p.1, scrollOffset := p.2 }

/-- Whether the active tab's filter input has the keyboard. -/
def filterEditing : Bool :=
  match v.tab with
  | .gpu => v.gpuFilterActive
  | .network => v.netFilterActive
  | .containers => v.containersFilterActive
  | .kube => v.kubeFilterActive
  | _ => v.filterActive

/-- The active tab's filter text. -/
def filterText : String :=
  match v.tab with
  | .gpu => v.gpuFilterInput
  | .network => v.netFilterInput
  | .containers => v.containersFilterInput
  | .kube => v.kubeFilterInput
  | _ => v.filterInput

def setFilterEditing (on : Bool) : Views :=
  match v.tab with
  | .gpu => { v with gpuFilterActive := on }
  | .network => { v with netFilterActive := on }
  | .containers => { v with containersFilterActive := on }
  | .kube => { v with kubeFilterActive := on }
  | _ => { v with filterActive := on }

/-- Replace the active tab's filter text. -/
def setFilterText (text : String) : Views :=
  match v.tab with
  | .gpu => { v with gpuFilterInput := text }
  | .network => { v with netFilterInput := text }
  | .containers => { v with containersFilterInput := text }
  | .kube => { v with kubeFilterInput := text }
  | _ => { v with filterInput := text }

/-! ## Recomputing the caches -/

def recomputeKubeView : Views :=
  { v with
    kubeViewCache :=
      kubeView lib v.lastSnapshot v.kubeSubview v.kubeFilterInput v.kubeSortField v.kubeSortOrder }

def recomputeContainersView : Views :=
  { v with
    sortedFilteredContainersCache :=
      containersView lib v.lastSnapshot v.containersFilterInput v.containersSortField
        v.containersSortOrder }

/-- Recompute the visible processes and the tree, then clamp the process selection. -/
def recomputeVisible : Views :=
  let view := processView lib v.lastSnapshot v.filterInput v.sortField v.sortOrder v.treeMode
  let v := { v with visibleProcesses := view.1, visibleTree := view.2, shownFilter := v.filterInput }
  match v.lastSnapshot with
  -- without a snapshot the selection is left alone
  | none => v
  | some _ =>
    { v with
      selected := clampSelection v.selected v.processCount
      scrollOffset := clampSelection v.scrollOffset v.processCount }

/-- Recompute unless a filter keystroke came less than the debounce window ago. -/
def recomputeVisibleDebounced (now : ℕ) : Views :=
  let shouldRecompute := match v.lastFilterChange with
    | none => true
    | some last => filterDebounce ≤ now - last
  let v := { v with lastFilterChange := some now }
  if shouldRecompute then v.recomputeVisible lib else v

/-- Re-run whatever the active tab derives from its filter. -/
def afterFilterChange (now : ℕ) (immediate : Bool) : Views :=
  let v := match v.tab with
    | .containers => v.recomputeContainersView lib
    | .kube => v.recomputeKubeView lib
    | .gpu | .network => v
    | _ =>
      if immediate then { v with lastFilterChange := none }.recomputeVisible lib
      else v.recomputeVisibleDebounced lib now
  v.mapSelected fun sel _ => (clampSelection sel (v.itemCount lib), 0)

/-- Replace the active tab's filter wholesale; `clear_filter` sets the empty text. -/
def setFilter (now : ℕ) (text : String) : Views := (v.setFilterText text).afterFilterChange lib now true

/-! ## Navigation -/

/-- Rows moved by a page key. -/
def page : ℕ := 20

/-- Rows travelled per wheel notch. -/
def wheelRows : ℕ := 3

def maxColScroll : ℕ := 8

/-- Move the cursor by `delta` rows, clamped to the list. -/
def moveSelection (delta : ℤ) : Views :=
  let count := v.itemCount lib
  if count = 0 then v
  else v.mapSelected fun sel off => ((max 0 (min (sel + delta) (count - 1))).toNat, off)

def selectIndex (index : ℕ) : Views :=
  let count := v.itemCount lib
  if count = 0 then v else v.mapSelected fun _ off => (min index (count - 1), off)

/-- Scroll the active tab's table, carrying the selection along. -/
def scrollRows (delta : ℤ) : Views :=
  let count := v.itemCount lib
  if count = 0 then v
  else v.mapSelected fun sel off =>
    let off := min (max (off + delta) 0).toNat (count - 1)
    (min (max sel off) (count - 1), off)

/-- Switch tabs, leaving a half-typed filter; the GPU tab's is not left. -/
def goToTab (tab : Tab) : Views :=
  if v.tab = tab then v
  else
    { v with
      tab := tab
      colScroll := 0
      filterActive := false
      netFilterActive := false
      containersFilterActive := false
      kubeFilterActive := false }

/-! ## Sub-views, sorting, tree -/

def switchGpuSubview (sv : GpuSubview) : Views :=
  { v with
    gpuSubview := sv
    gpuSortField := .defaultFor sv
    gpuSortOrder := .desc
    gpuFilterInput := ""
    gpuFilterActive := false
    gpuSelected := 0
    gpuScrollOffset := 0 }

def switchKubeSubview (sv : KubeSubview) : Views :=
  { v with
    kubeSubview := sv
    kubeSortField := .defaultFor sv
    kubeSortOrder := .desc
    kubeFilterInput := ""
    kubeFilterActive := false
    kubeSelected := 0
    kubeScrollOffset := 0 }.recomputeKubeView lib

/-- Walk the active tab's sub-views by `delta`. -/
def cycleSubview (delta : ℤ) : Views :=
  match v.tab with
  | .kube =>
    let order : List KubeSubview := [.pods, .nodes, .deployments]
    v.switchKubeSubview lib (order.getD ((order.idxOf v.kubeSubview + delta) % 3).toNat .pods)
  | .gpu =>
    let order : List GpuSubview := [.devices, .procs]
    v.switchGpuSubview (order.getD ((order.idxOf v.gpuSubview + delta) % 2).toNat .devices)
  | _ => v

def cycleSort : Views :=
  match v.tab with
  | .network => { v with netSortField := nextNetSortField v.netSortField }
  | .containers =>
    { v with containersSortField := nextContainerSortField v.containersSortField }
      |>.recomputeContainersView lib
  | .kube =>
    { v with
      kubeSortField := nextKubeSortField v.kubeSortField v.kubeSubview
      kubeSelected := 0
      kubeScrollOffset := 0 }.recomputeKubeView lib
  | .gpu =>
    { v with
      gpuSortField := nextGpuSortField v.gpuSortField v.gpuSubview
      gpuSelected := 0
      gpuScrollOffset := 0 }
  | _ => { v with sortField := nextSortField v.sortField }.recomputeVisible lib

def reverseSort : Views :=
  match v.tab with
  | .network => { v with netSortOrder := flip v.netSortOrder }
  | .containers =>
    { v with containersSortOrder := flip v.containersSortOrder }.recomputeContainersView lib
  | .kube => { v with kubeSortOrder := flip v.kubeSortOrder }.recomputeKubeView lib
  | .gpu => { v with gpuSortOrder := flip v.gpuSortOrder }
  | _ => { v with sortOrder := flip v.sortOrder }.recomputeVisible lib

def toggleTree : Views :=
  { v with treeMode := !v.treeMode, selected := 0, scrollOffset := 0 }.recomputeVisible lib

def setProcessSort (field : SortField) : Views := { v with sortField := field }.recomputeVisible lib

def setContainerSort (field : ContainerSortField) : Views :=
  { v with containersSortField := field }.recomputeContainersView lib

/-! ## Snapshots -/

/-- The part of `apply_snapshot` that shows in the tables. -/
def takeSnapshot (snapshot : SystemSnapshot) : Views :=
  let v := { v with lastSnapshot := some snapshot }.recomputeVisible lib
  (v.recomputeContainersView lib).recomputeKubeView lib

/-! ## Row identity -/

/-- The currently selected process, if any. -/
def selectedProcess : Option ProcessInfo :=
  if v.treeMode then (v.visibleTree[v.selected]?).map (·.1) else v.visibleProcesses[v.selected]?

/-- The selected container row, if the daemon is up. -/
def selectedContainer : Option ContainerSnapshot :=
  match v.lastSnapshot.bind (·.containers) with
  | none => none
  | some cs => if cs.daemonUp then v.sortedFilteredContainersCache[v.containersSelected]? else none

/-- The snapshot row that the cache names for the Kubernetes selection. -/
def selectedKubeObject : Option KubeObject := do
  let snap ← v.lastSnapshot.bind (·.kube)
  let idx ← v.kubeViewCache[v.kubeSelected]?
  (kubeObjects snap v.kubeSubview)[idx]?

/-- Name of the selected Kubernetes object, whichever sub-view is active. -/
def selectedKubeName : Option String := v.selectedKubeObject.map (·.name)

/-- The device's name, or the PID of the process holding VRAM. The vendor and the PID are not searched
here. -/
def selectedGpuName : Option String := do
  let snap ← v.lastSnapshot.bind (·.gpu)
  let f := lib.lower.toLowercase v.gpuFilterInput
  match v.gpuSubview with
  | .devices =>
    let d ← (snap.devices.filter fun d =>
      f.isEmpty || Text.contains (lib.lower.toLowercase d.name) f)[v.gpuSelected]?
    some d.name
  | .procs =>
    let p ← (snap.processes.filter fun p =>
      f.isEmpty || Text.contains (lib.lower.toLowercase p.name) f)[v.gpuSelected]?
    some (toString p.pid)

/-- A short identifier for the selected row. -/
def selectedIdentifier : Option String :=
  match v.tab with
  | .network => ((v.visibleInterfaces lib)[v.netSelected]?).map (·.name)
  | .containers => (v.sortedFilteredContainersCache[v.containersSelected]?).map (·.idFull)
  | .kube => v.selectedKubeName
  | .gpu => v.selectedGpuName lib
  | _ => v.selectedProcess.map fun p => toString p.pid

end

end Views

end Muxtop.Tui
