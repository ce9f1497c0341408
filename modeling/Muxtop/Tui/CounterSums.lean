import Muxtop.Core.KubeObjects
import Muxtop.Foundation.OverflowChecks
import Muxtop.Proto.WireCodec
import Muxtop.Tui.NetworkView
import Muxtop.Tui.Rows

/-!
# Sums of counters

Reference: `pod_restart_count` in `muxtop-core/src/kube_engine.rs`, `sorted_interfaces` and `interface_row`
in `muxtop-tui/src/ui/network.rs`.

The counters are added as machine integers, where the other totals of the program saturate. So the sums
depend on the build: one has the additions checked and panics, the other lets them wrap.
-/

namespace Muxtop.Tui

open Muxtop.Core Muxtop.Proto OverflowChecks StableSort

/-! ## The code, in either build -/

/-- `pod_restart_count`, or none if it panics. -/
def podRestartCountIn (build : Build) (pod : Api.Pod) : Option UInt32 :=
  match pod.status.bind (·.containerStatuses) with
  | some list => (build.sum (list.map fun cs => (clampToU32 cs.restartCount).toBitVec)).map .ofBitVec
  | none => some 0

def podToSnapshotIn (build : Build) (pod : Api.Pod) (metrics : MetricsCache) (nowMs : UInt64) :
    Option PodSnapshot :=
  (podRestartCountIn build pod).map fun restarts =>
    { podToSnapshot pod metrics nowMs with restarts := restarts }

/-- `errors_rx + errors_tx`, or none if it panics. -/
def errorTotalIn (build : Build) (iface : NetworkInterfaceSnapshot) : Option UInt64 :=
  (build.add iface.errorsRx.toBitVec iface.errorsTx.toBitVec).map .ofBitVec

/-- `interface_row`, or none if its addition panics. -/
def interfaceRowIn (build : Build) (g : Glyphs) (history : NetworkHistory)
    (iface : NetworkInterfaceSnapshot) : Option (List String) :=
  (errorTotalIn build iface).map fun _ => interfaceRow g history iface

/-- The table's sort. By errors it computes the key of every row if there are two, and panics if one of
the additions does. -/
def sortInterfacesIn (build : Build) (history : NetworkHistory) (rows : List InterfaceRow)
    (field : NetworkSortField) (order : SortOrder) : Option (List InterfaceRow) :=
  if field = .errors ∧ 2 ≤ rows.length ∧ ∃ i ∈ rows, errorTotalIn build i.1 = none then none
  else some (sortInterfaces history rows field order)

/-- `sorted_interfaces` -/
def Views.sortedInterfacesIn (build : Build) (lib : Lib) (history : NetworkHistory) (v : Views) :
    Option (List InterfaceRow) :=
  sortInterfacesIn build history (v.visibleRows lib) v.netSortField v.netSortOrder

variable {build : Build} {iface : NetworkInterfaceSnapshot} {snapshot : SystemSnapshot}

/-! ## The totals -/

/-- The restarts of all containers, where a negative count is none. -/
def restartTotal (pod : Api.Pod) : ℕ :=
  (((pod.status.bind (·.containerStatuses)).getD []).map fun cs => cs.restartCount.toInt.toNat).sum

def errorTotal (iface : NetworkInterfaceSnapshot) : ℕ := iface.errorsRx.toNat + iface.errorsTx.toNat

/-- A count below 0 counts as 0. -/
theorem toNat_clampToU32 (n : Int32) : (clampToU32 n).toNat = n.toInt.toNat := by
  have hmax : max n 0 = if n ≤ 0 then 0 else n := rfl
  rw [clampToU32, hmax]
  split_ifs with hn
  · rw [Int32.le_iff_toInt_le, Int32.toInt_zero] at hn
    rw [Int.toNat_of_nonpos hn]
    rfl
  · rw [Int32.not_le] at hn
    exact Int32.toNat_toUInt32_of_le (Int32.le_of_lt hn)

/-- So it does throughout a list. -/
theorem map_toNat_clampToU32 (list : List Api.ContainerStatus) :
    (list.map fun cs => (clampToU32 cs.restartCount).toNat) =
      list.map fun cs => cs.restartCount.toInt.toNat :=
  List.map_congr_left fun cs _ => toNat_clampToU32 cs.restartCount

/-- The total of a pod is the sum that its build can hold. -/
theorem podRestartCountIn_eq (build : Build) (pod : Api.Pod) :
    podRestartCountIn build pod = (build.fit 32 (restartTotal pod)).map .ofBitVec := by
  unfold podRestartCountIn restartTotal
  cases pod.status.bind (·.containerStatuses) with
  | none =>
    have hzero : build.fit 32 0 = some 0#32 := build.fit_of_lt (by decide)
    exact (congrArg (Option.map UInt32.ofBitVec) hzero).symm
  | some list =>
    have hcounts : (list.map fun cs => (clampToU32 cs.restartCount).toBitVec).map BitVec.toNat =
        list.map fun cs => cs.restartCount.toInt.toNat := by
      rw [List.map_map]
      exact map_toNat_clampToU32 list
    dsimp only
    rw [Build.sum_eq, hcounts, Option.getD_some]

/-- So is the total of an interface. -/
theorem errorTotalIn_eq (build : Build) (iface : NetworkInterfaceSnapshot) :
    errorTotalIn build iface = (build.fit 64 (errorTotal iface)).map .ofBitVec := by
  rw [errorTotalIn, Build.add_eq]
  rfl

/-! ## The release build -/

/-- Sums of 32 bits wrap around. -/
theorem sum_eq_ofNat (xs : List UInt32) : xs.sum = .ofNat (xs.map UInt32.toNat).sum := by
  induction xs with
  | nil => rfl
  | cons x xs ih =>
    rw [List.sum_cons, ih, List.map_cons, List.sum_cons, UInt32.ofNat_add, UInt32.ofNat_toNat]

/-- In a release build a sum always comes out. -/
theorem podRestartCountIn_release (pod : Api.Pod) :
    podRestartCountIn .release pod = some (podRestartCount pod) := by
  rw [podRestartCountIn_eq]
  unfold podRestartCount restartTotal
  cases pod.status.bind (·.containerStatuses) with
  | none => rfl
  | some list =>
    have hcounts : (list.map fun cs => clampToU32 cs.restartCount).map UInt32.toNat =
        list.map fun cs => cs.restartCount.toInt.toNat := by
      rw [List.map_map]
      exact map_toNat_clampToU32 list
    dsimp only
    rw [sum_eq_ofNat, hcounts]
    rfl

/-- The snapshot of a release build is the one that wraps. -/
theorem podToSnapshotIn_release (pod : Api.Pod) (metrics : MetricsCache) (nowMs : UInt64) :
    podToSnapshotIn .release pod metrics nowMs = some (podToSnapshot pod metrics nowMs) := by
  rw [podToSnapshotIn, podRestartCountIn_release]
  rfl

/-- So are its rows. -/
theorem interfaceRowIn_release (g : Glyphs) (history : NetworkHistory) (iface : NetworkInterfaceSnapshot) :
    interfaceRowIn .release g history iface = some (interfaceRow g history iface) := rfl

/-- So the interfaces can always be sorted. -/
theorem sortedInterfacesIn_release (lib : Lib) (history : NetworkHistory) (v : Views) :
    v.sortedInterfacesIn .release lib history = some (v.sortedInterfaces lib history) := by
  have hkeys : ¬ ∃ i ∈ v.visibleRows lib, errorTotalIn .release i.1 = none := by
    rintro ⟨i, -, hi⟩
    cases hi
  exact if_neg fun h => hkeys h.2.2

/-! ## What the user is told -/

/-- Either build has the pod's restart total, or the greatest count if the total is greater, and shows it. -/
structure TellsRestarts (pod : Api.Pod) : Prop where
  total : ∀ build : Build,
    podRestartCountIn build pod = some (.ofBitVec (saturated 32 (restartTotal pod)))
  row : ∀ (build : Build) (metrics : MetricsCache) (nowMs : UInt64) (g : Glyphs), ∃ p : PodSnapshot,
    podToSnapshotIn build pod metrics nowMs = some p ∧
      p.restarts.toNat = min (restartTotal pod) (2 ^ 32 - 1) ∧
      (Kube.podRow g p)[4]? = some (toString (min (restartTotal pod) (2 ^ 32 - 1)))

/-- An interface of more errors than another, or of as many and earlier in the snapshot. -/
def MoreErrors (a b : InterfaceRow) : Prop :=
  errorTotal b.1 < errorTotal a.1 ∨ errorTotal b.1 = errorTotal a.1 ∧ a.2 < b.2

/-- Either build has the error totals of all interfaces, or the greatest count for those that are greater;
it shows them, and sorts by them. -/
structure TellsErrors (snapshot : SystemSnapshot) : Prop where
  total : ∀ build : Build, ∀ iface ∈ snapshot.networks.interfaces,
    errorTotalIn build iface = some (.ofBitVec (saturated 64 (errorTotal iface)))
  row : ∀ (build : Build) (g : Glyphs) (history : NetworkHistory), ∀ iface ∈ snapshot.networks.interfaces,
    ∃ cells, interfaceRowIn build g history iface = some cells ∧
      cells[6]? = some (toString (min (errorTotal iface) (2 ^ 64 - 1)))
  sorted : ∀ (build : Build) (lib : Lib) (history : NetworkHistory) (v : Views),
    v.lastSnapshot = some snapshot → v.netSortField = .errors →
      ∃ rows, v.sortedInterfacesIn build lib history = some rows ∧ rows.Perm (v.visibleRows lib) ∧
        rows.Pairwise (Flipped (decide (v.netSortOrder = .asc)) MoreErrors)

/-! ## Restarts -/

/-- Both builds give the total of a pod as long as it fits 32 bits. -/
theorem forall_podRestartCountIn_iff (pod : Api.Pod) :
    (∀ build, podRestartCountIn build pod = some (.ofBitVec (saturated 32 (restartTotal pod)))) ↔
      restartTotal pod < 2 ^ 32 := by
  have hinj : Function.Injective UInt32.ofBitVec := fun _ _ h => UInt32.ofBitVec.inj h
  rw [← forall_map_fit_eq_iff hinj]
  refine forall_congr' fun build => ?_
  rw [podRestartCountIn_eq]

/-- The cell shows the number. -/
theorem restartsCell_eq (n : UInt32) : (if 0 < n then toString n else "0") = toString n.toNat := by
  split_ifs with hn
  · rfl
  · rw [UInt32.not_lt, UInt32.le_zero_iff] at hn
    rw [hn]
    rfl

/-- So the user is told the restarts. -/
theorem tellsRestarts_iff (pod : Api.Pod) : TellsRestarts pod ↔ restartTotal pod < 2 ^ 32 := by
  rw [← forall_podRestartCountIn_iff]
  refine ⟨TellsRestarts.total, fun htotal => ⟨htotal, fun build metrics nowMs g => ?_⟩⟩
  refine ⟨{ podToSnapshot pod metrics nowMs with
    restarts := .ofBitVec (saturated 32 (restartTotal pod)) }, ?_, toNat_saturated 32 _, ?_⟩
  · rw [podToSnapshotIn, htotal]
    rfl
  · rw [← toNat_saturated]
    exact congrArg some (restartsCell_eq _)

/-! ## Errors -/

/-- Both builds give the total of an interface as long as it fits 64 bits. -/
theorem forall_errorTotalIn_iff (iface : NetworkInterfaceSnapshot) :
    (∀ build, errorTotalIn build iface = some (.ofBitVec (saturated 64 (errorTotal iface)))) ↔
      errorTotal iface < 2 ^ 64 := by
  have hinj : Function.Injective UInt64.ofBitVec := fun _ _ h => UInt64.ofBitVec.inj h
  rw [← forall_map_fit_eq_iff hinj]
  refine forall_congr' fun build => ?_
  rw [errorTotalIn_eq]

/-- The cell shows the number. -/
theorem errorsCell_eq (n : UInt64) : (if 0 < n then toString n else "0") = toString n.toNat := by
  split_ifs with hn
  · rfl
  · rw [UInt64.not_lt, UInt64.le_zero_iff] at hn
    rw [hn]
    rfl

/-- Without an overflow the key of the sort is the total. -/
theorem toNat_errors (h : errorTotal iface < 2 ^ 64) :
    (iface.errorsRx + iface.errorsTx).toNat = errorTotal iface := by
  rw [UInt64.toNat_add]
  exact Nat.mod_eq_of_lt h

/-- So the sort by errors puts one row above another when it has more errors. -/
theorem moreErrors_of_before {history : NetworkHistory} {a b : InterfaceRow} (ha : errorTotal a.1 < 2 ^ 64)
    (hb : errorTotal b.1 < 2 ^ 64) (h : Before (interfaceCmp history .errors) Earlier a b) :
    MoreErrors a b := by
  unfold interfaceCmp Before at h
  rw [Std.compare_eq_lt, Std.compare_eq_iff_eq, UInt64.lt_iff_toNat_lt, ← UInt64.toNat_inj,
    toNat_errors ha, toNat_errors hb] at h
  exact h

/-- Interfaces whose totals fit are sorted by them. -/
theorem flipped_moreErrors_of_above {history : NetworkHistory} {order : SortOrder} {a b : InterfaceRow}
    (ha : errorTotal a.1 < 2 ^ 64) (hb : errorTotal b.1 < 2 ^ 64)
    (h : InterfaceAbove history .errors order a b) : Flipped (decide (order = .asc)) MoreErrors a b := by
  cases order with
  | asc => exact moreErrors_of_before hb ha h
  | desc => exact moreErrors_of_before ha hb h

/-- A row that is shown is an interface of the snapshot. -/
theorem mem_of_mem_visibleRows {lib : Lib} {v : Views} {i : InterfaceRow} (hv : v.lastSnapshot = some snapshot)
    (hi : i ∈ v.visibleRows lib) : i.1 ∈ snapshot.networks.interfaces := by
  have hvisible : i.1 ∈ v.visibleInterfaces lib := by
    rw [← Views.map_fst_visibleRows]
    exact List.mem_map_of_mem hi
  unfold Views.visibleInterfaces at hvisible
  rw [hv] at hvisible
  exact List.mem_of_mem_filter hvisible

/-- Without an overflow the sort does not panic, in either build. -/
theorem sortInterfacesIn_eq {history : NetworkHistory} {rows : List InterfaceRow} {field : NetworkSortField}
    {order : SortOrder} (h : ∀ i ∈ rows, errorTotal i.1 < 2 ^ 64) :
    sortInterfacesIn build history rows field order = some (sortInterfaces history rows field order) := by
  refine if_neg ?_
  rintro ⟨-, -, i, hi, hpanic⟩
  rw [(forall_errorTotalIn_iff i.1).2 (h i hi) build] at hpanic
  cases hpanic

/-- So the user is told the errors. -/
theorem tellsErrors_iff (snapshot : SystemSnapshot) :
    TellsErrors snapshot ↔ ∀ iface ∈ snapshot.networks.interfaces, errorTotal iface < 2 ^ 64 := by
  constructor
  · intro h iface hiface
    exact (forall_errorTotalIn_iff iface).1 fun build => h.total build iface hiface
  · intro h
    have htotal (build : Build) (iface : NetworkInterfaceSnapshot)
        (hiface : iface ∈ snapshot.networks.interfaces) :=
      (forall_errorTotalIn_iff iface).2 (h iface hiface) build
    -- Below the bound the row and the sort are those of the exact sum.
    refine ⟨htotal, fun build g history iface hiface => ?_, fun build lib history v hv hfield => ?_⟩
    · refine ⟨interfaceRow g history iface, ?_, ?_⟩
      · rw [interfaceRowIn, htotal build iface hiface]
        rfl
      · have hcell := errorsCell_eq (iface.errorsRx + iface.errorsTx)
        rw [toNat_errors (h iface hiface)] at hcell
        rw [Nat.min_eq_left (Nat.le_sub_one_of_lt (h iface hiface))]
        exact congrArg some hcell
    · have hrows (i : InterfaceRow) (hi : i ∈ v.visibleRows lib) : errorTotal i.1 < 2 ^ 64 :=
        h i.1 (mem_of_mem_visibleRows hv hi)
      have hperm := sortInterfaces_perm history (v.visibleRows lib) .errors v.netSortOrder
      refine ⟨sortInterfaces history (v.visibleRows lib) .errors v.netSortOrder, ?_, hperm, ?_⟩
      · rw [Views.sortedInterfacesIn, hfield]
        exact sortInterfacesIn_eq hrows
      · have hearlier : (v.visibleRows lib).Pairwise Earlier := Views.pairwise_visibleRows
        have habove := pairwise_sortInterfaces hearlier history .errors v.netSortOrder
        refine habove.imp_of_mem fun {a b} ha hb hab => ?_
        exact flipped_moreErrors_of_above (hrows a (hperm.mem_iff.1 ha)) (hrows b (hperm.mem_iff.1 hb)) hab

/-- **Counter sums.** The restarts of a pod and the errors of the interfaces are told as they are exactly
when they fit the integers that they are added in. -/
theorem counterSums_iff (pod : Api.Pod) (snapshot : SystemSnapshot) :
    (TellsRestarts pod ↔ restartTotal pod < 2 ^ 32) ∧
      (TellsErrors snapshot ↔ ∀ iface ∈ snapshot.networks.interfaces, errorTotal iface < 2 ^ 64) :=
  ⟨tellsRestarts_iff pod, tellsErrors_iff snapshot⟩

/-! ## Sums that wrap -/

/-- A pod of three containers that have restarted as often as a count can say. -/
def restartingPod : Api.Pod :=
  let container : Api.ContainerStatus := ⟨true, 2147483647, none⟩
  { (default : Api.Pod) with status := some ⟨none, some [container, container, container], none⟩ }

/-- Two interfaces: the errors of the first wrap to none. -/
def failingInterfaces : List NetworkInterfaceSnapshot :=
  [⟨"eth0", 0, 0, 0, 0, 18446744073709551615, 1, "", true⟩, ⟨"lo", 0, 0, 0, 0, 1, 0, "", true⟩]

/-- Their snapshot is read from a frame. -/
theorem not_counterSums :
    ¬ TellsRestarts restartingPod ∧
      ∃ frame snapshot, snapshot.networks.interfaces = failingInterfaces ∧
        WireMessage.fromFrame .x86_64 frame = .ok (.snapshot snapshot) ∧ ¬ TellsErrors snapshot := by
  have hrestarts : ¬ TellsRestarts restartingPod := by
    rw [tellsRestarts_iff]
    decide
  let snapshot := { hostSnapshot [] with networks := ⟨failingInterfaces, 0, 0⟩ }
  have hsent := fromFrame_snapshot .x86_64 snapshot (by decide) (by decide)
  have herrors : ¬ TellsErrors snapshot := by
    rw [tellsErrors_iff]
    decide
  exact ⟨hrestarts, _, snapshot, rfl, hsent, herrors⟩

example : podRestartCount restartingPod = 2147483645 := by decide
example : (sortInterfaces (.new 2) failingInterfaces.zipIdx .errors .desc).map (·.1.name) = ["lo", "eth0"] := by
  decide

end Muxtop.Tui
