import Mathlib.Algebra.Order.Field.Rat
import Mathlib.Tactic.GCongr
import Mathlib.Tactic.NormNum
import Muxtop.Foundation.TotalPreorder
import Muxtop.Tui.RowIdentity

/-!
# The tables of the Kubernetes tab

Reference: `draw_pods`, `draw_nodes`, `draw_deployments` in `muxtop-tui/src/ui/kube.rs`.

A table shows the objects at the positions of the view. The node table has two columns of percentages; it
is sorted by what the nodes use.
-/

namespace Muxtop.Tui

open Muxtop.Core StableSort
open Text (Lowercase)

/-! ## Tables as sorted lists -/

section Tables

variable (lower : Lowercase) (snap : KubeSnapshot) (filter : String) (field : KubeSortField)
  (order : SortOrder)

def podTable : List PodSnapshot :=
  (computeViewIndices lower snap .pods filter field order).filterMap (snap.pods[·]?)

def nodeTable : List NodeSnapshot :=
  (computeViewIndices lower snap .nodes filter field order).filterMap (snap.nodes[·]?)

def deploymentTable : List DeploymentSnapshot :=
  (computeViewIndices lower snap .deployments filter field order).filterMap (snap.deployments[·]?)

/-- The pods that pass the filter, in snapshot order. -/
def listedPods : List PodSnapshot :=
  snap.pods.filter fun p =>
    containsIgnoreCase lower p.name (lower.toLowercase filter) ||
      containsIgnoreCase lower p.namespace (lower.toLowercase filter)

def listedNodes : List NodeSnapshot :=
  snap.nodes.filter fun n => containsIgnoreCase lower n.name (lower.toLowercase filter)

def listedDeployments : List DeploymentSnapshot :=
  snap.deployments.filter fun d =>
    containsIgnoreCase lower d.name (lower.toLowercase filter) ||
      containsIgnoreCase lower d.namespace (lower.toLowercase filter)

/-- Sorting positions and looking them up is sorting what is looked up. -/
theorem filterMap_sorted {α : Type} (xs : List α) (keep : α → Bool) (flip : Bool)
    (cmp : α → α → Ordering) :
    ((reverseIf flip (sortBy (fun a b => cmp (xs.get a) (xs.get b))
      ((List.finRange xs.length).filter fun i => keep (xs.get i)))).map (·.val)).filterMap (xs[·]?) =
        reverseIf flip (sortBy cmp (xs.filter keep)) := by
  have hget : ((xs[·]?) ∘ fun i : Fin xs.length => i.val) = some ∘ xs.get := by
    funext i
    simp
  have hkept : ((List.finRange xs.length).filter fun i => keep (xs.get i)).map xs.get = xs.filter keep := by
    have hmap := List.filter_map (p := keep) (f := xs.get) (l := List.finRange xs.length)
    rw [List.map_get_finRange] at hmap
    exact hmap.symm
  rw [List.filterMap_map, hget, List.filterMap_eq_map, map_reverseIf, map_sortBy, hkept]

theorem podTable_eq : podTable lower snap filter field order =
    reverseIf (order = .asc) (sortBy (podCmp field) (listedPods lower snap filter)) := by
  unfold podTable computeViewIndices
  dsimp only
  rw [sortPods_eq]
  exact filterMap_sorted snap.pods (fun p =>
    containsIgnoreCase lower p.name (lower.toLowercase filter) ||
      containsIgnoreCase lower p.namespace (lower.toLowercase filter)) _ (podCmp field)

theorem nodeTable_eq : nodeTable lower snap filter field order =
    reverseIf (order = .asc) (sortBy (nodeCmp field) (listedNodes lower snap filter)) := by
  unfold nodeTable computeViewIndices
  dsimp only
  rw [sortNodes_eq]
  exact filterMap_sorted snap.nodes (fun n =>
    containsIgnoreCase lower n.name (lower.toLowercase filter)) _ (nodeCmp field)

theorem deploymentTable_eq : deploymentTable lower snap filter field order =
    reverseIf (order = .asc) (sortBy (deploymentCmp field) (listedDeployments lower snap filter)) := by
  unfold deploymentTable computeViewIndices
  dsimp only
  rw [sortDeployments_eq]
  exact filterMap_sorted snap.deployments (fun d =>
    containsIgnoreCase lower d.name (lower.toLowercase filter) ||
      containsIgnoreCase lower d.namespace (lower.toLowercase filter)) _ (deploymentCmp field)

end Tables

/-! ## The shares of the nodes -/

/-- The two resources whose share in use a node's row shows. -/
inductive NodeMeter
  | cpu | mem
deriving DecidableEq, Repr

namespace NodeMeter

/-- The sort field of the column. -/
def field : NodeMeter → KubeSortField
  | .cpu => .nodeCpuPct
  | .mem => .nodeMemPct

def used? : NodeMeter → NodeSnapshot → Option ℕ
  | .cpu, n => n.cpuUsedMillis.map (·.toNat)
  | .mem, n => n.memUsedBytes.map (·.toNat)

def allocatable : NodeMeter → NodeSnapshot → ℕ
  | .cpu, n => n.cpuAllocatableMillis.toNat
  | .mem, n => n.memAllocatableBytes.toNat

/-- The metric is present, and there is something to take a share of. -/
def Measured (meter : NodeMeter) (n : NodeSnapshot) : Prop :=
  (meter.used? n).isSome = true ∧ 0 < meter.allocatable n

instance (meter : NodeMeter) (n : NodeSnapshot) : Decidable (meter.Measured n) :=
  inferInstanceAs (Decidable (_ ∧ _))

def used (meter : NodeMeter) (n : NodeSnapshot) : ℕ := (meter.used? n).getD 0

/-- The share in use. -/
def share (meter : NodeMeter) (n : NodeSnapshot) : ℚ := meter.used n / meter.allocatable n

/-- The shares fall down a descending table and rise down an ascending one. -/
def OrderedByShare (meter : NodeMeter) (order : SortOrder) (rows : List NodeSnapshot) : Prop :=
  match order with
  | .desc => rows.Pairwise fun a b => meter.share b ≤ meter.share a
  | .asc => rows.Pairwise fun a b => meter.share a ≤ meter.share b

/-- The one of two nodes that uses more has no smaller share; where they use the same, the first. -/
def ShareFollowsUse (meter : NodeMeter) (a b : NodeSnapshot) : Prop :=
  if meter.used a < meter.used b then meter.share a ≤ meter.share b else meter.share b ≤ meter.share a

/-- So of any two nodes. -/
def SharesFollowUse (meter : NodeMeter) (nodes : List NodeSnapshot) : Prop :=
  nodes.Pairwise meter.ShareFollowsUse

variable {meter : NodeMeter} {nodes : List NodeSnapshot}

theorem compare_millis (x y : UInt32) : compare x y = compare x.toNat y.toNat :=
  if_congr UInt32.lt_iff_toNat_lt rfl (if_congr UInt32.toNat_inj.symm rfl rfl)

theorem compare_bytes (x y : UInt64) : compare x y = compare x.toNat y.toNat :=
  if_congr UInt64.lt_iff_toNat_lt rfl (if_congr UInt64.toNat_inj.symm rfl rfl)

/-- The node table compares what the nodes use. -/
theorem nodeCmp_field (meter : NodeMeter) (a b : NodeSnapshot) :
    nodeCmp meter.field a b = compare (meter.used b) (meter.used a) := by
  cases meter
  case cpu =>
    have hused (n : NodeSnapshot) : used .cpu n = (n.cpuUsedMillis.getD 0).toNat :=
      Option.getD_map UInt32.toNat 0 n.cpuUsedMillis
    rw [hused, hused]
    exact compare_millis _ _
  case mem =>
    have hused (n : NodeSnapshot) : used .mem n = (n.memUsedBytes.getD 0).toNat :=
      Option.getD_map UInt64.toNat 0 n.memUsedBytes
    rw [hused, hused]
    exact compare_bytes _ _

/-- The nodes by what they use, the most first. -/
theorem pairwise_sortBy_share (meter : NodeMeter) (nodes : List NodeSnapshot) :
    (sortBy (nodeCmp meter.field) nodes).Pairwise (fun a b => meter.share b ≤ meter.share a) ↔
      meter.SharesFollowUse nodes := by
  have hsorted : (sortBy (nodeCmp meter.field) nodes).Pairwise fun a b =>
      ¬ meter.used a < meter.used b := by
    refine (ordered_sortBy nodes (.of_transCmp nodes)).imp fun {a b} hle => ?_
    rw [nodeCmp_field] at hle
    exact not_lt.2 (Nat.isLE_compare.1 hle)
  have hsymm (a b : NodeSnapshot) (hne : nodeCmp meter.field a b ≠ .eq) :
      meter.ShareFollowsUse a b ↔ meter.ShareFollowsUse b a := by
    rw [nodeCmp_field] at hne
    have hne' : meter.used b ≠ meter.used a := fun heq => hne (Nat.compare_eq_eq.2 heq)
    unfold ShareFollowsUse
    obtain hlt | hlt := lt_or_gt_of_ne hne'
    · rw [if_neg hlt.not_gt, if_pos hlt]
    · rw [if_pos hlt, if_neg hlt.not_gt]
  rw [SharesFollowUse, ← pairwise_sortBy_iff hsymm]
  -- down the sorted table nothing uses more than what is above it
  constructor
  · intro h
    exact h.imp₂ (fun a b hshare huse => (if_neg huse).mpr hshare) hsorted
  · intro h
    exact h.imp₂ (fun a b hshare huse => (if_neg huse).mp hshare) hsorted

/-- Among nodes of one size the greater use is the greater share. -/
theorem sharesFollowUse_of_sameSize (h : ∀ a ∈ nodes, ∀ b ∈ nodes, meter.allocatable a = meter.allocatable b) :
    meter.SharesFollowUse nodes := by
  have hshare (a b : NodeSnapshot) (ha : a ∈ nodes) (hb : b ∈ nodes) (huse : meter.used a ≤ meter.used b) :
      meter.share a ≤ meter.share b := by
    unfold share
    rw [h a ha b hb]
    gcongr
  refine List.Pairwise.imp_of_mem (fun {a b} ha hb _ => ?_) (nodes.pairwise_of_forall fun _ _ => trivial)
  unfold ShareFollowsUse
  split_ifs with huse
  · exact hshare a b ha hb huse.le
  · exact hshare b a hb ha (not_lt.1 huse)

/-- A node with some CPU allocatable and in use. -/
def nodeUsing (used allocatable : UInt32) : NodeSnapshot where
  name := "n"
  status := .ready
  roles := []
  ageSeconds := 0
  kubeletVersion := ""
  cpuCapacityMillis := allocatable
  cpuAllocatableMillis := allocatable
  cpuUsedMillis := some used
  memCapacityBytes := 1
  memAllocatableBytes := 1
  memUsedBytes := some 0
  podCount := 0
  podCapacity := 0

/-- Two nodes, a small one and a large one. -/
def mixedCluster : KubeSnapshot :=
  { (default : KubeSnapshot) with nodes := [nodeUsing 950 1000, nodeUsing 2000 10000] }

/-- **Sorting nodes by a percentage.** The table is in the order of the shares exactly when, among the
nodes listed, a greater use is never a smaller share. -/
theorem orderedByShare_iff (lower : Lowercase) (snap : KubeSnapshot) (filter : String)
    (meter : NodeMeter) (order : SortOrder) :
    meter.OrderedByShare order (nodeTable lower snap filter meter.field order) ↔
      meter.SharesFollowUse (listedNodes lower snap filter) := by
  rw [nodeTable_eq, ← pairwise_sortBy_share]
  cases order
  case desc => exact Iff.rfl
  case asc => exact List.pairwise_reverse

/-- The small node at 95 % stands below the large one at 20 %. -/
theorem not_orderedByShare_mixedCluster :
    ¬ ∀ (lower : Lowercase) (snap : KubeSnapshot) (filter : String) (meter : NodeMeter),
      (∀ n ∈ snap.nodes, meter.Measured n) →
        meter.OrderedByShare .desc (nodeTable lower snap filter meter.field .desc) := by
  intro h
  have hrows := h Lib.ascii.lower mixedCluster "" .cpu (by decide)
  have htable : nodeTable Lib.ascii.lower mixedCluster "" NodeMeter.cpu.field .desc =
      [nodeUsing 2000 10000, nodeUsing 950 1000] := by decide
  rw [htable] at hrows
  have hle : (950 : ℚ) / 1000 ≤ 2000 / 10000 := List.rel_of_pairwise_cons hrows List.mem_cons_self
  norm_num at hle

end NodeMeter

end Muxtop.Tui
