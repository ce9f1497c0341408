import Muxtop.Tui.CpuSorts
import Muxtop.Tui.GpuView
import Muxtop.Tui.KubeTables
import Muxtop.Tui.NetworkView

/-!
# The sort arrow

Reference: `header_line` in `muxtop-tui/src/ui/widgets/columns.rs`; the `sort_column` functions and the sorts
of the tables in `muxtop-tui/src/ui/` and `app.rs`.

The header shows the direction that was asked for. Each table sorts in a natural direction of its own, and
has a rule of its own for when to turn the rows round.
-/

namespace Muxtop.Tui

open Muxtop.Core Muxtop.Proto StableSort
open Text (Lowercase)

/-! ## Headers -/

inductive Arrow
  | up | down
deriving DecidableEq, Repr

/-- A table with what its header is drawn from. -/
structure SortedTable (Row : Type) where
  rows : List Row
  sortCol : Option ℕ
  descending : Bool
  /-- How the values in the sort column compare, where the column shows what is sorted by. -/
  key : Option (Row → Row → Ordering)
  /-- The rows that are parked at the end. -/
  missing : Row → Bool

namespace SortedTable

variable {Row : Type} {t : SortedTable Row} {col : ℕ} {key : Row → Row → Ordering}

def arrow (t : SortedTable Row) : Arrow := if t.descending then .down else .up

/-- The arrow behind a column's label, if it is the one sorted by. -/
def headerArrow (t : SortedTable Row) (idx : ℕ) : Option Arrow :=
  if t.sortCol = some idx then some t.arrow else none

/-- The rows that are not parked stand in order, the others behind them. -/
def Arranged (cmp : Row → Row → Ordering) (missing : Row → Bool) (rows : List Row) : Prop :=
  ∃ reported parked, rows = reported ++ parked ∧ Ordered cmp reported ∧
    (∀ row ∈ reported, missing row = false) ∧ ∀ row ∈ parked, missing row = true

/-- Under a descending arrow the values do not rise, under an ascending one they do not fall. -/
def TellsTruth (t : SortedTable Row) : Prop :=
  ∀ idx arrow, t.headerArrow idx = some arrow →
    ∀ cmp ∈ t.key, Arranged (turned (arrow = .down) cmp) t.missing t.rows

/-- A header without an arrow says nothing. -/
theorem tellsTruth_of_sortCol_none (h : t.sortCol = none) : t.TellsTruth := by
  intro idx arrow harrow
  rw [headerArrow, h, if_neg nofun] at harrow
  cases harrow

/-- A table without a key to compare its rows by is not judged. -/
theorem tellsTruth_of_key_none (h : t.key = none) : t.TellsTruth := by
  intro idx arrow _ cmp hcmp
  rw [h] at hcmp
  cases hcmp

/-- A table with an arrow over values that can be compared. -/
theorem tellsTruth_iff_arranged (hcol : t.sortCol = some col) (hkey : t.key = some key) :
    t.TellsTruth ↔ Arranged (turned t.descending key) t.missing t.rows := by
  have hdown : decide (t.arrow = .down) = t.descending := by
    unfold arrow
    cases t.descending <;> rfl
  constructor
  · intro h
    have hrows := h col t.arrow (if_pos hcol) key hkey
    rwa [hdown] at hrows
  · intro h idx arrow hidx cmp hcmp
    obtain rfl : key = cmp := Option.some.inj (hkey.symm.trans hcmp)
    obtain rfl : t.arrow = arrow := by
      unfold headerArrow at hidx
      split_ifs at hidx
      exact Option.some.inj hidx
    rwa [hdown]

/-- Where no row is parked. -/
theorem arranged_iff_ordered {cmp : Row → Row → Ordering} {rows : List Row} :
    Arranged cmp (fun _ => false) rows ↔ Ordered cmp rows := by
  constructor
  · rintro ⟨reported, parked, rfl, hordered, -, hparked⟩
    have hnil : parked = [] := List.eq_nil_iff_forall_not_mem.2 fun row hrow => nomatch hparked row hrow
    rw [hnil, List.append_nil]
    exact hordered
  · intro h
    exact ⟨rows, [], (List.append_nil rows).symm, h, fun _ _ => rfl, nofun⟩

/-- A sort that parks rows. -/
theorem arranged_parkedSort {cmp : Row → Row → Ordering} [Std.TransCmp cmp] (missing : Row → Bool)
    (flip : Bool) (rows : List Row) :
    Arranged (turned flip cmp) missing (parkedSort missing flip cmp rows) := by
  have hperm := (reverseIf_perm flip _).trans (sortBy_perm cmp (rows.filter fun row => !missing row))
  refine ⟨_, _, parkMissing_eq missing _ rows, ?_, ?_, ?_⟩
  · exact (ordered_sortBy _ (.of_transCmp _)).reverseIf flip
  · intro row hrow
    simpa using (List.mem_filter.1 (hperm.mem_iff.1 hrow)).2
  · intro row hrow
    exact (List.mem_filter.1 hrow).2

/-- A table without parked rows that is put in the direction `applied`: its arrow is right if that is the
one shown, or no two rows differ. -/
theorem tellsTruth_iff_of_ordered {applied : Bool} (hcol : t.sortCol = some col) (hkey : t.key = some key)
    (hmissing : t.missing = fun _ => false) (hpre : TotalPreorderOn key t.rows)
    (happlied : Ordered (turned applied key) t.rows) :
    t.TellsTruth ↔ t.descending = applied ∨ Tied key t.rows := by
  rw [tellsTruth_iff_arranged hcol hkey, hmissing, arranged_iff_ordered, ordered_turned_iff hpre happlied]

/-- A table whose rows are sorted in a natural direction, and turned round or not. -/
theorem tellsTruth_iff_of_sorted {flip natural : Bool} {listed : List Row} (hcol : t.sortCol = some col)
    (hkey : t.key = some key) (hmissing : t.missing = fun _ => false)
    (hpre : TotalPreorderOn (turned natural key) listed)
    (hrows : t.rows = reverseIf flip (sortBy (turned natural key) listed)) :
    t.TellsTruth ↔ t.descending = (flip ^^ natural) ∨ Tied key listed := by
  have hperm : t.rows.Perm listed := by
    rw [hrows]
    exact (reverseIf_perm _ _).trans (sortBy_perm _ _)
  have happlied : Ordered (turned (flip ^^ natural) key) t.rows := by
    rw [hrows]
    exact ordered_reverseIf_sortBy hpre.of_turned flip natural
  rw [tellsTruth_iff_of_ordered hcol hkey hmissing (hpre.of_turned.subset hperm.subset) happlied,
    Tied.perm hperm]

end SortedTable

/-! ## Sort columns -/

/-- `sort_column` of `processes.rs` -/
def Processes.sortColumn : SortField → Option ℕ
  | .pid => some 0
  | .user => some 1
  | .cpu => some 3
  | .mem => some 4
  | .name => some 6

/-- `sort_column` of `network.rs` -/
def Network.sortColumn : NetworkSortField → Option ℕ
  | .name => some 0
  | .rxRate => some 2
  | .txRate => some 3
  | .totalRx => some 4
  | .totalTx => some 5
  | .errors => some 6

/-- `sort_column` of `containers.rs` -/
def Containers.sortColumn : ContainerSortField → Option ℕ
  | .name => some 0
  | .cpu => some 3
  | .mem => some 4
  | .netRx => some 5
  | .netTx => some 6
  | .uptime => some 7

def podSortColumn : KubeSortField → Option ℕ
  | .podName => some 1
  | .podPhase => some 2
  | .podRestarts => some 4
  | .podCpu => some 5
  | .podMem => some 6
  | .podAge => some 7
  | _ => none

def nodeSortColumn : KubeSortField → Option ℕ
  | .nodeName => some 0
  | .nodeCpuPct => some 3
  | .nodeMemPct => some 4
  | .nodePodCount => some 5
  | .nodeAge => some 7
  | _ => none

def deploySortColumn : KubeSortField → Option ℕ
  | .deployNamespace => some 0
  | .deployName => some 1
  | .deployReadyRatio => some 2
  | .deployAge => some 6
  | _ => none

def deviceSortColumn : GpuSortField → Option ℕ
  | .deviceIndex => some 0
  | .deviceName => some 1
  | .deviceUtil => some 3
  | .deviceMem => some 4
  | .deviceTemp => some 5
  | .devicePower => some 6
  | _ => none

def procSortColumn : GpuSortField → Option ℕ
  | .procPid => some 0
  | .procDevice => some 1
  | .procName => some 2
  | .procMem => some 4
  | _ => none

/-! ## The tables -/

/-- How the sort columns of the process table compare. -/
def processKey (lower : Lowercase) (field : SortField) (a b : ProcessInfo) : Ordering :=
  match field with
  | .name => compare (lower.toLowercase a.name) (lower.toLowercase b.name)
  | .user => compare (lower.toLowercase a.user) (lower.toLowercase b.user)
  | .cpu => a.cpuPercent.cmp b.cpuPercent
  | .mem => compare a.memoryBytes b.memoryBytes
  | .pid => compare a.pid b.pid

/-- A container that started earlier has been up longer. -/
def containerKey (field : ContainerSortField) (a b : ContainerSnapshot) : Ordering :=
  match field with
  | .name => compare a.name b.name
  | .cpu => a.cpuPct.cmp b.cpuPct
  | .mem => compare a.memUsedBytes b.memUsedBytes
  | .netRx => compare a.netRxBytes b.netRxBytes
  | .netTx => compare a.netTxBytes b.netTxBytes
  | .uptime => compare b.startedAtMs a.startedAtMs

def interfaceKey (history : NetworkHistory) (field : NetworkSortField) (a b : InterfaceRow) : Ordering :=
  match field with
  | .name => compare a.1.name b.1.name
  | .rxRate => (history.bandwidthRx a.1.name).cmp (history.bandwidthRx b.1.name)
  | .txRate => (history.bandwidthTx a.1.name).cmp (history.bandwidthTx b.1.name)
  | .totalRx => compare a.1.bytesRx b.1.bytesRx
  | .totalTx => compare a.1.bytesTx b.1.bytesTx
  | .errors => compare (a.1.errorsRx + a.1.errorsTx) (b.1.errorsRx + b.1.errorsTx)

/-- A phase is shown by its name and sorted by its rank. -/
def podKey (field : KubeSortField) : Option (PodSnapshot → PodSnapshot → Ordering) :=
  match field with
  | .podName => some fun a b => cmpPair (a.namespace, a.name) (b.namespace, b.name)
  | .podPhase => none
  | .podRestarts => some fun a b => compare a.restarts b.restarts
  | .podMem => some fun a b => compare (a.memBytes.getD 0) (b.memBytes.getD 0)
  | .podAge => some fun a b => compare a.ageSeconds b.ageSeconds
  | _ => some fun a b => compare (a.cpuMillis.getD 0) (b.cpuMillis.getD 0)

def nodeKey (field : KubeSortField) (a b : NodeSnapshot) : Ordering :=
  match field with
  | .nodeName => compare a.name b.name
  | .nodeMemPct => compare (a.memUsedBytes.getD 0) (b.memUsedBytes.getD 0)
  | .nodePodCount => compare a.podCount b.podCount
  | .nodeAge => compare a.ageSeconds b.ageSeconds
  | _ => compare (a.cpuUsedMillis.getD 0) (b.cpuUsedMillis.getD 0)

def deploymentKey (field : KubeSortField) (a b : DeploymentSnapshot) : Ordering :=
  match field with
  | .deployNamespace => cmpPair (a.namespace, a.name) (b.namespace, b.name)
  | .deployReadyRatio => (ratio a).cmp (ratio b)
  | .deployAge => compare a.ageSeconds b.ageSeconds
  | _ => compare a.name b.name

def deviceKey (field : GpuSortField) (a b : GpuDeviceRef) : Ordering :=
  match field with
  | .deviceName => compare a.1.name b.1.name
  | .deviceUtil => compare (f32Key (a.1.utilizationPct.getD ⟨0⟩)) (f32Key (b.1.utilizationPct.getD ⟨0⟩))
  | .deviceMem => compare (a.1.memUsedBytes.getD 0) (b.1.memUsedBytes.getD 0)
  | .deviceTemp => compare (f32Key (a.1.temperatureC.getD ⟨0⟩)) (f32Key (b.1.temperatureC.getD ⟨0⟩))
  | .devicePower => compare (f32Key (a.1.powerWatts.getD ⟨0⟩)) (f32Key (b.1.powerWatts.getD ⟨0⟩))
  | _ => compare a.1.index b.1.index

def procKey (field : GpuSortField) (a b : GpuProcessRef) : Ordering :=
  match field with
  | .procPid => compare a.1.pid b.1.pid
  | .procName => compare a.1.name b.1.name
  | .procDevice => (compare a.1.deviceIndex b.1.deviceIndex).then (compare a.1.pid b.1.pid)
  | _ => compare (a.1.memBytes.getD 0) (b.1.memBytes.getD 0)

/-! ### Natural directions -/

/-- Containers are sorted by the key of the column: names upwards, the rest downwards. -/
theorem sortContainers_eq (rows : List ContainerSnapshot) (field : ContainerSortField) :
    Views.sortContainers rows field = sortBy (turned (field ≠ .name) (containerKey field)) rows := by
  cases field <;> rfl

/-- So are interfaces. -/
theorem interfaceCmp_eq (history : NetworkHistory) (field : NetworkSortField) :
    interfaceCmp history field = turned (field ≠ .name) (interfaceKey history field) := by
  cases field <;> rfl

/-- So are pods. -/
theorem podCmp_eq {field : KubeSortField} {key : PodSnapshot → PodSnapshot → Ordering}
    (h : podKey field = some key) : podCmp field = turned (field ≠ .podName) key := by
  cases field
  case podPhase => cases h
  all_goals
    obtain rfl := Option.some.inj h
    rfl

/-- So are nodes. -/
theorem nodeCmp_eq (field : KubeSortField) : nodeCmp field = turned (field ≠ .nodeName) (nodeKey field) := by
  cases field <;> rfl

/-- Deployments are sorted upwards, and downwards by their age alone. -/
theorem deploymentCmp_eq (field : KubeSortField) :
    deploymentCmp field = turned (field = .deployAge) (deploymentKey field) := by
  cases field <;> rfl

/-- Devices are sorted in the direction that is natural to the column. -/
theorem deviceCmp_eq (field : GpuSortField) (h : deviceSortColumn field ≠ none) :
    deviceCmp field = turned (!deviceNaturalAscending field) (deviceKey field) := by
  cases field
  case procPid | procName | procMem | procDevice => exact absurd rfl h
  all_goals rfl

/-- Processes on a device are sorted upwards, and downwards by their memory alone. -/
theorem procCmp_eq (field : GpuSortField) (h : procSortColumn field ≠ none) :
    procCmp field = turned (field = .procMem) (procKey field) := by
  cases field
  case procPid | procName | procMem | procDevice => rfl
  all_goals exact absurd rfl h

namespace Views

variable (lib : Lib) (history : NetworkHistory) (v : Views)

/-! ### Rows before they are sorted -/

def listedProcesses : List ProcessInfo :=
  v.lastSnapshot.elim [] fun snapshot => filterProcesses lib.lower snapshot.processes v.filterInput

/-- The rows of the process tree. -/
def treeRows : List ProcessInfo := (flattenTree (buildProcessTree (v.listedProcesses lib))).map Prod.fst

def listedContainers : List ContainerSnapshot :=
  (v.lastSnapshot.bind (·.containers)).elim [] fun cs =>
    if !cs.daemonUp then []
    else if v.containersFilterInput.isEmpty then cs.containers
    else cs.containers.filter (containerKept lib (lib.lower.toLowercase v.containersFilterInput))

/-- What a sub-view of the cluster makes of the snapshot and the filter. -/
def ofCluster {Row : Type} (rows : Lowercase → KubeSnapshot → String → List Row) : List Row :=
  (v.lastSnapshot.bind (·.kube)).elim [] fun snap => rows lib.lower snap v.kubeFilterInput

/-! ### Tables as they are drawn -/

def processTable : SortedTable ProcessInfo where
  rows :=
    let view := processView lib v.lastSnapshot v.filterInput v.sortField v.sortOrder v.treeMode
    if v.treeMode then view.2.map Prod.fst else view.1
  sortCol := Processes.sortColumn v.sortField
  descending := v.sortOrder = .desc
  key := some (processKey lib.lower v.sortField)
  missing _ := false

def networkTable : SortedTable InterfaceRow where
  rows := v.sortedInterfaces lib history
  sortCol := Network.sortColumn v.netSortField
  descending := v.netSortOrder = .desc
  key := some (interfaceKey history v.netSortField)
  missing _ := false

def containerTable : SortedTable ContainerSnapshot where
  rows := containersView lib v.lastSnapshot v.containersFilterInput v.containersSortField v.containersSortOrder
  sortCol := Containers.sortColumn v.containersSortField
  descending := v.containersSortOrder = .desc
  key := some (containerKey v.containersSortField)
  missing _ := false

def podsTable : SortedTable PodSnapshot where
  rows := v.ofCluster lib fun lower snap filter => podTable lower snap filter v.kubeSortField v.kubeSortOrder
  sortCol := podSortColumn v.kubeSortField
  descending := v.kubeSortOrder = .desc
  key := podKey v.kubeSortField
  missing _ := false

def nodesTable : SortedTable NodeSnapshot where
  rows := v.ofCluster lib fun lower snap filter => nodeTable lower snap filter v.kubeSortField v.kubeSortOrder
  sortCol := nodeSortColumn v.kubeSortField
  descending := v.kubeSortOrder = .desc
  key := some (nodeKey v.kubeSortField)
  missing _ := false

def deploymentsTable : SortedTable DeploymentSnapshot where
  rows := v.ofCluster lib fun lower snap filter =>
    deploymentTable lower snap filter v.kubeSortField v.kubeSortOrder
  sortCol := deploySortColumn v.kubeSortField
  descending := v.kubeSortOrder = .desc
  key := some (deploymentKey v.kubeSortField)
  missing _ := false

/-- A device that cannot report what is sorted on is parked. -/
def devicesTable : SortedTable GpuDeviceRef where
  rows := v.deviceTable lib
  sortCol := deviceSortColumn v.gpuSortField
  descending := v.gpuSortOrder = .desc
  key := some (deviceKey v.gpuSortField)
  missing d := metricMissing d.1 v.gpuSortField

def procsTable : SortedTable GpuProcessRef where
  rows := v.procTable lib
  sortCol := procSortColumn v.gpuSortField
  descending := v.gpuSortOrder = .desc
  key := some (procKey v.gpuSortField)
  missing p := allocationMissing p.1 v.gpuSortField

end Views

/-! ## When the arrow is right -/

/-- The tables with a sort arrow. -/
inductive Listing
  | processes | network | containers | pods | nodes | deployments | gpuDevices | gpuProcesses
deriving DecidableEq, Repr

/-- The arrow over a table tells the truth. -/
def Views.TellsTruth (lib : Lib) (history : NetworkHistory) (v : Views) : Listing → Prop
  | .processes => (v.processTable lib).TellsTruth
  | .network => (v.networkTable lib history).TellsTruth
  | .containers => (v.containerTable lib).TellsTruth
  | .pods => (v.podsTable lib).TellsTruth
  | .nodes => (v.nodesTable lib).TellsTruth
  | .deployments => (v.deploymentsTable lib).TellsTruth
  | .gpuDevices => (v.devicesTable lib).TellsTruth
  | .gpuProcesses => (v.procsTable lib).TellsTruth

/-- In a forest of processes, a process compares with all that is below it as a row does with those under
it, and so does what is below one process with what is below a later sibling. -/
def InTreeOrder (cmp : ProcessInfo → ProcessInfo → Ordering) (forest : List TreeNode) : Prop :=
  DownForest (fun n m => (cmp n.process m.process).isLE = true) forest

/-- The table is sorted the way its arrow says, or cannot show that it is not. A tree is not sorted at all,
and its arrow is right where parents and siblings happen to stand in order; containers by uptime, pods and
nodes by name, and deployments by anything but their age are sorted the other way round. -/
def Views.SortedAsShown (lib : Lib) (v : Views) : Listing → Prop
  | .processes => v.treeMode = true →
    InTreeOrder (turned (v.sortOrder = .desc) (processKey lib.lower v.sortField))
      (buildProcessTree (v.listedProcesses lib))
  | .containers => v.containersSortField = .uptime →
    Tied (containerKey .uptime) (v.listedContainers lib)
  | .pods => v.kubeSortField = .podName →
    Tied (podCmp .podName) (v.ofCluster lib listedPods)
  | .nodes => v.kubeSortField = .nodeName → Tied (nodeKey .nodeName) (v.ofCluster lib listedNodes)
  | .deployments =>
    v.kubeSortField = .deployNamespace ∨ v.kubeSortField = .deployName ∨
        v.kubeSortField = .deployReadyRatio →
      Tied (deploymentKey v.kubeSortField) (v.ofCluster lib listedDeployments)
  | .network | .gpuDevices | .gpuProcesses => True

namespace Views

variable {lib : Lib} {history : NetworkHistory} {v : Views}

/-! ### Processes -/

/-- The CPU shares that are sorted by are numbers. -/
structure SharesAreNumbers (lib : Lib) (v : Views) : Prop where
  processes : ∀ p ∈ v.listedProcesses lib, ¬ p.cpuPercent.IsNaN
  containers : ∀ c ∈ v.listedContainers lib, ¬ c.cpuPct.IsNaN

/-- Shares that are numbers can be compared, and so can everything else. -/
theorem totalPreorderOn_processKey {listed : List ProcessInfo}
    (hfinite : ∀ p ∈ listed, ¬ p.cpuPercent.IsNaN) (field : SortField) :
    TotalPreorderOn (processKey lib.lower field) listed := by
  cases field
  case name => exact .of_key (fun p => lib.lower.toLowercase p.name) listed
  case user => exact .of_key (fun p => lib.lower.toLowercase p.user) listed
  case cpu => exact totalPreorderOn_processCpuCmp.2 (.inl (List.forall_mem_map.2 hfinite))
  case mem => exact .of_key ProcessInfo.memoryBytes listed
  case pid => exact .of_key ProcessInfo.pid listed

/-- The texts go through the stable sort, the numbers through the other. -/
theorem ordered_sortProcesses (hsorts : lib.unstable.Sorts) {listed : List ProcessInfo}
    (hfinite : ∀ p ∈ listed, ¬ p.cpuPercent.IsNaN) (field : SortField) (order : SortOrder) :
    Ordered (turned (order = .desc) (processKey lib.lower field))
      (sortProcesses lib.lower lib.unstable listed field order) := by
  have hpre := @totalPreorderOn_processKey lib listed hfinite field
  cases field
  case name => exact (ordered_sortBy listed hpre).reverseIf _
  case user => exact (ordered_sortBy listed hpre).reverseIf _
  all_goals exact (hsorts _ listed hpre).reverseIf _

/-- The table shows the tree or the sorted list. -/
theorem processTable_rows :
    (v.processTable lib).rows =
      if v.treeMode then v.treeRows lib
      else sortProcesses lib.lower lib.unstable (v.listedProcesses lib) v.sortField v.sortOrder := by
  unfold processTable processView treeRows listedProcesses
  cases v.lastSnapshot with
  | none =>
    have hnil := (sortProcesses_perm lib.lower lib.unstable [] v.sortField v.sortOrder).eq_nil
    cases v.treeMode with
    | false => exact hnil.symm
    | true => rfl
  | some snapshot => cases v.treeMode <;> rfl

/-- The rows of the tree are in order when the walk through the tree meets them in order. -/
theorem ordered_treeRows_iff {cmp : ProcessInfo → ProcessInfo → Ordering} :
    Ordered cmp (v.treeRows lib) ↔ InTreeOrder cmp (buildProcessTree (v.listedProcesses lib)) := by
  rw [treeRows, flattenTree_eq, List.map_map]
  exact List.pairwise_map.trans (pairwise_nodesAll_iff _)

/-- A list of processes is as the arrow says, and a tree is where its walk is in order. -/
theorem processTable_tellsTruth_iff (hsorts : lib.unstable.Sorts) (hfinite : v.SharesAreNumbers lib) :
    (v.processTable lib).TellsTruth ↔ v.SortedAsShown lib .processes := by
  have hcol : ∃ col, (v.processTable lib).sortCol = some col := by
    unfold processTable Processes.sortColumn
    cases v.sortField <;> exact ⟨_, rfl⟩
  obtain ⟨col, hcol⟩ := hcol
  rw [SortedTable.tellsTruth_iff_arranged hcol rfl]
  refine SortedTable.arranged_iff_ordered.trans ?_
  rw [processTable_rows]
  show _ ↔ (v.treeMode = true → _)
  cases v.treeMode with
  | true => exact ⟨fun h _ => ordered_treeRows_iff.1 h, fun h => ordered_treeRows_iff.2 (h rfl)⟩
  | false => exact ⟨fun _ => nofun, fun _ => ordered_sortProcesses hsorts hfinite.processes _ _⟩

/-! ### Interfaces and containers -/

/-- By name the rows ascend unless turned round, by the others they descend. -/
theorem networkTable_tellsTruth : (v.networkTable lib history).TellsTruth := by
  have hcol : ∃ col, (v.networkTable lib history).sortCol = some col := by
    unfold networkTable Network.sortColumn
    cases v.netSortField <;> exact ⟨_, rfl⟩
  obtain ⟨col, hcol⟩ := hcol
  have hpre : TotalPreorderOn (interfaceCmp history v.netSortField) (v.visibleRows lib) := .of_transCmp _
  have hrows := sortInterfaces_eq history (v.visibleRows lib) v.netSortField v.netSortOrder
  rw [interfaceCmp_eq] at hpre hrows
  refine (SortedTable.tellsTruth_iff_of_sorted hcol rfl rfl hpre hrows).2 (.inl ?_)
  show decide (v.netSortOrder = .desc) = _
  cases v.netSortOrder <;> cases v.netSortField <;> rfl

/-- The cache is sorted down first and then turned round, or not. -/
theorem containersView_eq :
    containersView lib v.lastSnapshot v.containersFilterInput v.containersSortField v.containersSortOrder =
      reverseIf (decide (v.containersSortOrder = .asc) !=
          decide (v.containersSortField = .name ∨ v.containersSortField = .uptime))
        (sortContainers (v.listedContainers lib) v.containersSortField) := by
  have hnil (flip : Bool) : [] = reverseIf flip (sortContainers [] v.containersSortField) := by
    cases flip <;> cases v.containersSortField <;> rfl
  unfold containersView listedContainers
  cases v.lastSnapshot.bind (·.containers) with
  | none => exact hnil _
  | some cs =>
    show (if cs.daemonUp then _ else _) = reverseIf _ (sortContainers (if !cs.daemonUp then _ else _) _)
    cases cs.daemonUp with
    | false => exact hnil _
    | true => rfl

/-- Shares that are numbers can be compared here as well. -/
theorem totalPreorderOn_containerKey {rows : List ContainerSnapshot}
    (hfinite : ∀ c ∈ rows, ¬ c.cpuPct.IsNaN) (field : ContainerSortField) :
    TotalPreorderOn (turned (field ≠ .name) (containerKey field)) rows := by
  refine TotalPreorderOn.turned ?_ _
  cases field
  case name => exact .of_key ContainerSnapshot.name rows
  case cpu =>
    have hcpu := totalPreorderOn_containerCpuCmp.2 (.inl (List.forall_mem_map.2 hfinite))
    exact TotalPreorderOn.converse_iff.1 hcpu
  case mem => exact .of_key ContainerSnapshot.memUsedBytes rows
  case netRx => exact .of_key ContainerSnapshot.netRxBytes rows
  case netTx => exact .of_key ContainerSnapshot.netTxBytes rows
  case uptime => exact (TotalPreorderOn.of_key ContainerSnapshot.startedAtMs rows).converse

/-- Containers are sorted against the arrow by their uptime, and with it by every other column. -/
theorem containerTable_tellsTruth_iff (hfinite : v.SharesAreNumbers lib) :
    (v.containerTable lib).TellsTruth ↔ v.SortedAsShown lib .containers := by
  have hcol : ∃ col, (v.containerTable lib).sortCol = some col := by
    unfold containerTable Containers.sortColumn
    cases v.containersSortField <;> exact ⟨_, rfl⟩
  obtain ⟨col, hcol⟩ := hcol
  have hpre := totalPreorderOn_containerKey hfinite.containers v.containersSortField
  have hrows := @containersView_eq lib v
  rw [sortContainers_eq] at hrows
  rw [SortedTable.tellsTruth_iff_of_sorted hcol rfl rfl hpre hrows]
  show decide (v.containersSortOrder = .desc) = _ ∨ _ ↔ (v.containersSortField = .uptime → _)
  by_cases huptime : v.containersSortField = .uptime
  · rw [huptime]
    cases v.containersSortOrder <;> simp
  · have hsame : decide (v.containersSortOrder = .desc) =
        (decide (v.containersSortOrder = .asc) !=
          decide (v.containersSortField = .name ∨ v.containersSortField = .uptime) ^^
            decide (v.containersSortField ≠ .name)) := by
      cases v.containersSortOrder <;> cases hfield : v.containersSortField
      all_goals first | rfl | exact absurd hfield huptime
    exact iff_of_true (.inl hsame) fun h => absurd h huptime

/-! ### Objects of a cluster -/

/-- The table of a cluster that is not there is empty, which is sorted. -/
theorem ofCluster_sorted {Row : Type} {table listed : Lowercase → KubeSnapshot → String → List Row}
    {flip : Bool} {cmp : Row → Row → Ordering}
    (h : ∀ lower snap filter, table lower snap filter = reverseIf flip (sortBy cmp (listed lower snap filter))) :
    v.ofCluster lib table = reverseIf flip (sortBy cmp (v.ofCluster lib listed)) := by
  unfold ofCluster
  cases v.lastSnapshot.bind (·.kube) with
  | none => cases flip <;> rfl
  | some snap => exact h _ _ _

/-- These tables are turned round when they ascend, whatever their natural direction. -/
theorem kube_tellsTruth_iff {Row : Type} {t : SortedTable Row} {col : ℕ} {key cmp : Row → Row → Ordering}
    [Std.TransCmp cmp] {natural : Bool} {table listed : Lowercase → KubeSnapshot → String → List Row}
    (hcol : t.sortCol = some col) (hkey : t.key = some key) (hmissing : t.missing = fun _ => false)
    (hdescending : t.descending = decide (v.kubeSortOrder = .desc)) (hcmp : cmp = turned natural key)
    (hrows : t.rows = v.ofCluster lib table)
    (htable : ∀ lower snap filter, table lower snap filter =
      reverseIf (v.kubeSortOrder = .asc) (sortBy cmp (listed lower snap filter))) :
    t.TellsTruth ↔ natural = true ∨ Tied key (v.ofCluster lib listed) := by
  have hpre : TotalPreorderOn cmp (v.ofCluster lib listed) := .of_transCmp _
  rw [ofCluster_sorted htable, hcmp] at hrows
  rw [hcmp] at hpre
  rw [SortedTable.tellsTruth_iff_of_sorted hcol hkey hmissing hpre hrows, hdescending]
  cases v.kubeSortOrder <;> cases natural <;> simp

/-- Pods are sorted against the arrow by their name. -/
theorem podsTable_tellsTruth_iff : (v.podsTable lib).TellsTruth ↔ v.SortedAsShown lib .pods := by
  have htable (lower : Lowercase) (snap : KubeSnapshot) (filter : String) :=
    podTable_eq lower snap filter v.kubeSortField v.kubeSortOrder
  -- Only a sort by name can go against the arrow.
  cases hkey : (v.podsTable lib).key with
  | none =>
    have hphase : v.kubeSortField ≠ .podName := by
      intro hname
      rw [podsTable, hname] at hkey
      cases hkey
    exact iff_of_true (SortedTable.tellsTruth_of_key_none hkey) fun h => absurd h hphase
  | some key =>
    cases hcol : (v.podsTable lib).sortCol with
    | none =>
      have hother : v.kubeSortField ≠ .podName := by
        intro hname
        rw [podsTable, hname] at hcol
        cases hcol
      exact iff_of_true (SortedTable.tellsTruth_of_sortCol_none hcol) fun h => absurd h hother
    | some col =>
      rw [kube_tellsTruth_iff hcol hkey rfl rfl (podCmp_eq hkey) rfl htable]
      show _ ↔ (v.kubeSortField = .podName → _)
      by_cases hname : v.kubeSortField = .podName
      · have hkey' : podCmp .podName = key := by
          rw [podsTable, hname] at hkey
          exact Option.some.inj hkey
        rw [hkey']
        simp [hname]
      · exact iff_of_true (.inl (decide_eq_true hname)) fun h => absurd h hname

/-- So are nodes. -/
theorem nodesTable_tellsTruth_iff : (v.nodesTable lib).TellsTruth ↔ v.SortedAsShown lib .nodes := by
  have htable (lower : Lowercase) (snap : KubeSnapshot) (filter : String) :=
    nodeTable_eq lower snap filter v.kubeSortField v.kubeSortOrder
  cases hcol : (v.nodesTable lib).sortCol with
  | none =>
    have hother : v.kubeSortField ≠ .nodeName := by
      intro hname
      rw [nodesTable, hname] at hcol
      cases hcol
    exact iff_of_true (SortedTable.tellsTruth_of_sortCol_none hcol) fun h => absurd h hother
  | some col =>
    rw [kube_tellsTruth_iff hcol rfl rfl rfl (nodeCmp_eq _) rfl htable]
    show _ ↔ (v.kubeSortField = .nodeName → _)
    by_cases hname : v.kubeSortField = .nodeName
    · simp [hname]
    · exact iff_of_true (.inl (decide_eq_true hname)) fun h => absurd h hname

/-- Deployments are sorted against the arrow by every column but the age. -/
theorem deploymentsTable_tellsTruth_iff :
    (v.deploymentsTable lib).TellsTruth ↔ v.SortedAsShown lib .deployments := by
  have htable (lower : Lowercase) (snap : KubeSnapshot) (filter : String) :=
    deploymentTable_eq lower snap filter v.kubeSortField v.kubeSortOrder
  cases hcol : (v.deploymentsTable lib).sortCol with
  | none =>
    have hother : ¬ (v.kubeSortField = .deployNamespace ∨ v.kubeSortField = .deployName ∨
        v.kubeSortField = .deployReadyRatio) := by
      rintro (hfield | hfield | hfield) <;> rw [deploymentsTable, hfield] at hcol <;> cases hcol
    exact iff_of_true (SortedTable.tellsTruth_of_sortCol_none hcol) fun h => absurd h hother
  | some col =>
    rw [kube_tellsTruth_iff hcol rfl rfl rfl (deploymentCmp_eq _) rfl htable]
    show _ ↔ (v.kubeSortField = .deployNamespace ∨ v.kubeSortField = .deployName ∨
      v.kubeSortField = .deployReadyRatio → _)
    by_cases hage : v.kubeSortField = .deployAge
    · exact iff_of_true (.inl (decide_eq_true hage)) fun h => by simp [hage] at h
    · have hascends : v.kubeSortField = .deployNamespace ∨ v.kubeSortField = .deployName ∨
          v.kubeSortField = .deployReadyRatio := by
        unfold deploymentsTable deploySortColumn at hcol
        cases hfield : v.kubeSortField <;> rw [hfield] at hage hcol <;> simp at hage hcol ⊢
      simp [hage, hascends]

/-! ### GPUs -/

/-- A table that is turned round where the direction shown is not the natural one. -/
theorem tellsTruth_of_parkedSort {Row : Type} {t : SortedTable Row} {col : ℕ}
    {key cmp : Row → Row → Ordering} [Std.TransCmp cmp] {natural flip : Bool} {rows : List Row}
    (hcol : t.sortCol = some col) (hkey : t.key = some key) (hcmp : cmp = turned natural key)
    (hflip : t.descending = (flip ^^ natural)) (hrows : t.rows = parkedSort t.missing flip cmp rows) :
    t.TellsTruth := by
  have harranged := @SortedTable.arranged_parkedSort _ cmp _ t.missing flip rows
  rw [← hrows, hcmp, turned_turned, ← hflip] at harranged
  exact (SortedTable.tellsTruth_iff_arranged hcol hkey).2 harranged

/-- The devices shown are the sorted ones, whatever is filtered out. -/
theorem exists_deviceTable_eq :
    ∃ rows, v.deviceTable lib = sortDevices rows v.gpuSortField v.gpuSortOrder := by
  have hnil := (sortDevices_perm [] v.gpuSortField v.gpuSortOrder).eq_nil
  unfold deviceTable
  cases v.lastSnapshot.bind (·.gpu) with
  | none => exact ⟨[], hnil.symm⟩
  | some snap =>
    dsimp only
    split_ifs
    · exact ⟨[], hnil.symm⟩
    · exact ⟨_, rfl⟩

/-- So are the processes shown. -/
theorem exists_procTable_eq :
    ∃ rows, v.procTable lib = sortProcs rows v.gpuSortField v.gpuSortOrder := by
  have hnil := (sortProcs_perm [] v.gpuSortField v.gpuSortOrder).eq_nil
  unfold procTable
  cases v.lastSnapshot.bind (·.gpu) with
  | none => exact ⟨[], hnil.symm⟩
  | some snap =>
    dsimp only
    split_ifs
    · exact ⟨[], hnil.symm⟩
    · exact ⟨[], hnil.symm⟩
    · exact ⟨_, rfl⟩

/-- Devices are always sorted as the arrow says. -/
theorem devicesTable_tellsTruth : (v.devicesTable lib).TellsTruth := by
  cases hcol : (v.devicesTable lib).sortCol with
  | none => exact SortedTable.tellsTruth_of_sortCol_none hcol
  | some col =>
    have hcolumn : deviceSortColumn v.gpuSortField = some col := hcol
    have hnatural := deviceCmp_eq v.gpuSortField (by rw [hcolumn]; exact nofun)
    obtain ⟨rows, hrows⟩ := @exists_deviceTable_eq lib v
    rw [sortDevices_eq] at hrows
    refine tellsTruth_of_parkedSort hcol rfl hnatural ?_ hrows
    show decide (v.gpuSortOrder = .desc) = _
    cases v.gpuSortOrder <;> cases deviceNaturalAscending v.gpuSortField <;> rfl

/-- So are their processes. -/
theorem procsTable_tellsTruth : (v.procsTable lib).TellsTruth := by
  cases hcol : (v.procsTable lib).sortCol with
  | none => exact SortedTable.tellsTruth_of_sortCol_none hcol
  | some col =>
    have hcolumn : procSortColumn v.gpuSortField = some col := hcol
    have hnatural := procCmp_eq v.gpuSortField (by rw [hcolumn]; exact nofun)
    obtain ⟨rows, hrows⟩ := @exists_procTable_eq lib v
    rw [sortProcs_eq] at hrows
    refine tellsTruth_of_parkedSort hcol rfl hnatural ?_ hrows
    show decide (v.gpuSortOrder = .desc) = _
    cases v.gpuSortOrder <;> cases decide (v.gpuSortField = .procMem) <;> rfl

/-- A cluster of two pods, sorted by name. -/
def podsByName : Views where
  kubeSortField := .podName
  lastSnapshot := some { (default : SystemSnapshot) with
    kube := some { (default : KubeSnapshot) with
      pods := ["a", "b"].map fun name => { (default : PodSnapshot) with name := name } } }

/-- **The sort arrow.** The arrow over a table tells the truth exactly when the table is sorted the way it is
shown to be, or its rows do not tell. -/
theorem tellsTruth_iff (hsorts : lib.unstable.Sorts) (history : NetworkHistory)
    (hfinite : v.SharesAreNumbers lib) (listing : Listing) :
    v.TellsTruth lib history listing ↔ v.SortedAsShown lib listing := by
  cases listing
  case processes => exact processTable_tellsTruth_iff hsorts hfinite
  case network => exact iff_of_true networkTable_tellsTruth trivial
  case containers => exact containerTable_tellsTruth_iff hfinite
  case pods => exact podsTable_tellsTruth_iff
  case nodes => exact nodesTable_tellsTruth_iff
  case deployments => exact deploymentsTable_tellsTruth_iff
  case gpuDevices => exact iff_of_true devicesTable_tellsTruth trivial
  case gpuProcesses => exact iff_of_true procsTable_tellsTruth trivial

/-- The arrow over the default sort of the processes. -/
theorem tellsTruth_iff_idle :
    ({ lastSnapshot := some (hostSnapshot [idleProcess]) } : Views).TellsTruth .ascii (.new 60) .processes ↔
      ({ lastSnapshot := some (hostSnapshot [idleProcess]) } : Views).SortedAsShown .ascii .processes :=
  tellsTruth_iff (sorts_stable _) (.new 60) ⟨by decide, by decide⟩ .processes

/-- Under a descending arrow the pod `a` stands above the pod `b`. -/
theorem not_tellsTruth_podsByName :
    ¬ ∀ (history : NetworkHistory) (v : Views) (listing : Listing), v.SharesAreNumbers .ascii →
      v.TellsTruth .ascii history listing := by
  intro h
  have htruth : (podsByName.podsTable .ascii).TellsTruth := h (.new 60) podsByName .pods ⟨by decide, by decide⟩
  have htied := podsTable_tellsTruth_iff.1 htruth rfl
  have hequal := htied { (default : PodSnapshot) with name := "a" } (by decide)
    { (default : PodSnapshot) with name := "b" } (by decide)
  exact absurd hequal (by decide)

end Views

end Muxtop.Tui
