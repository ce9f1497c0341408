import Mathlib.Data.List.FinRange
import Muxtop.Tui.Tabs
import Muxtop.Core.System

/-!
# The Kubernetes tab's view pipeline

Reference: `muxtop-tui/src/ui/kube.rs`.

A view is a list of indices into the sub-view's list. While it is being sorted an index is a `Fin`, so
that looking up its row cannot fail.
-/

namespace Muxtop.Tui

open Muxtop.Core StableSort
open Text (Lowercase)

/-! ## Sorting -/

/-- `Ord` of a pair of string slices. -/
def cmpPair (a b : String × String) : Ordering := (compare a.1 b.1).then (compare a.2 b.2)

/-- Sort key that puts what is broken first. -/
def phaseRank : PodPhase → ℕ
  | .crashLoop => 0
  | .failed => 1
  | .unknown => 2
  | .pending => 3
  | .terminating => 4
  | .running => 5
  | .succeeded => 6

def sortPods (pods : List PodSnapshot) (idx : List (Fin pods.length)) (field : KubeSortField)
    (order : SortOrder) : List (Fin pods.length) :=
  let sorted := match field with
    | .podName =>
      sortBy (fun a b => cmpPair (pods[a].namespace, pods[a].name) (pods[b].namespace, pods[b].name)) idx
    | .podPhase => sortByKey (fun i => phaseRank pods[i].phase) idx
    | .podRestarts => sortByKeyRev (fun i => pods[i].restarts) idx
    | .podMem => sortByKeyRev (fun i => pods[i].memBytes.getD 0) idx
    | .podAge => sortByKeyRev (fun i => pods[i].ageSeconds) idx
    | _ => sortByKeyRev (fun i => pods[i].cpuMillis.getD 0) idx
  reverseIf (order = .asc) sorted

def sortNodes (nodes : List NodeSnapshot) (idx : List (Fin nodes.length)) (field : KubeSortField)
    (order : SortOrder) : List (Fin nodes.length) :=
  let sorted := match field with
    | .nodeName => sortByKey (fun i => nodes[i].name) idx
    | .nodeMemPct => sortByKeyRev (fun i => nodes[i].memUsedBytes.getD 0) idx
    | .nodePodCount => sortByKeyRev (fun i => nodes[i].podCount) idx
    | .nodeAge => sortByKeyRev (fun i => nodes[i].ageSeconds) idx
    | _ => sortByKeyRev (fun i => nodes[i].cpuUsedMillis.getD 0) idx
  reverseIf (order = .asc) sorted

/-- The share of a deployment's replicas that are ready. -/
def ratio (d : DeploymentSnapshot) : F64 :=
  if d.replicasDesired = 0 then ⟨(1.0 : Float).toBits⟩
  else ⟨(d.replicasReady.toUInt64.toFloat / d.replicasDesired.toUInt64.toFloat).toBits⟩

def sortDeployments (deploys : List DeploymentSnapshot) (idx : List (Fin deploys.length))
    (field : KubeSortField) (order : SortOrder) : List (Fin deploys.length) :=
  let sorted := match field with
    | .deployNamespace =>
      sortBy (fun a b => cmpPair (deploys[a].namespace, deploys[a].name)
        (deploys[b].namespace, deploys[b].name)) idx
    | .deployReadyRatio => sortBy (fun a b => (ratio deploys[a]).cmp (ratio deploys[b])) idx
    | .deployAge => sortByKeyRev (fun i => deploys[i].ageSeconds) idx
    | _ => sortByKey (fun i => deploys[i].name) idx
  reverseIf (order = .asc) sorted

section Filter

variable (lower : Lowercase)

/-! ## The view -/

/-- The rows of a sub-view that pass the filter, in snapshot order. -/
def keptPods (pods : List PodSnapshot) (needle : String) : List (Fin pods.length) :=
  (List.finRange pods.length).filter fun i =>
    containsIgnoreCase lower pods[i].name needle || containsIgnoreCase lower pods[i].namespace needle

def keptNodes (nodes : List NodeSnapshot) (needle : String) : List (Fin nodes.length) :=
  (List.finRange nodes.length).filter fun i => containsIgnoreCase lower nodes[i].name needle

def keptDeployments (deploys : List DeploymentSnapshot) (needle : String) :
    List (Fin deploys.length) :=
  (List.finRange deploys.length).filter fun i =>
    containsIgnoreCase lower deploys[i].name needle ||
      containsIgnoreCase lower deploys[i].namespace needle

/-- Indices into the active sub-view's list, filtered and sorted. -/
def computeViewIndices (snap : KubeSnapshot) (subview : KubeSubview) (filter : String)
    (sortField : KubeSortField) (sortOrder : SortOrder) : List ℕ :=
  let needle := lower.toLowercase filter
  match subview with
  | .pods => (sortPods snap.pods (keptPods lower snap.pods needle) sortField sortOrder).map (·.val)
  | .nodes => (sortNodes snap.nodes (keptNodes lower snap.nodes needle) sortField sortOrder).map (·.val)
  | .deployments =>
    (sortDeployments snap.deployments (keptDeployments lower snap.deployments needle)
      sortField sortOrder).map (·.val)

end Filter

/-! ## Rows -/

/-- An object of the cluster, of any of the three kinds. -/
inductive KubeObject
  | pod (p : PodSnapshot) | node (n : NodeSnapshot) | deployment (d : DeploymentSnapshot)
deriving DecidableEq, Repr

namespace KubeObject

def name : KubeObject → String
  | .pod p => p.name
  | .node n => n.name
  | .deployment d => d.name

/-- The namespace of an object of a namespaced kind. -/
def namespace? : KubeObject → Option String
  | .pod p => some p.namespace
  | .node _ => none
  | .deployment d => some d.namespace

end KubeObject

/-- The objects of a sub-view, in snapshot order. -/
def kubeObjects (snap : KubeSnapshot) : KubeSubview → List KubeObject
  | .pods => snap.pods.map .pod
  | .nodes => snap.nodes.map .node
  | .deployments => snap.deployments.map .deployment

/-- Whether an object's name, or the namespace of a namespaced kind, contains the filter. -/
def KubeMatches (lower : Lowercase) (filter : String) (o : KubeObject) : Prop :=
  MatchesText lower o.name filter ∨ ∃ ns ∈ o.namespace?, MatchesText lower ns filter

instance (lower : Lowercase) (filter : String) : DecidablePred (KubeMatches lower filter) := fun o =>
  match h : o.namespace? with
  | none => decidable_of_iff (MatchesText lower o.name filter) (by simp [KubeMatches, h])
  | some ns => decidable_of_iff (MatchesText lower o.name filter ∨ MatchesText lower ns filter)
      (by simp [KubeMatches, h])

/-! ## What the view lists -/

variable {lower : Lowercase}

theorem sortPods_perm (pods : List PodSnapshot) (idx : List (Fin pods.length)) (field : KubeSortField)
    (order : SortOrder) : (sortPods pods idx field order).Perm idx := by
  refine (reverseIf_perm _ _).trans ?_
  cases field <;> exact sortBy_perm _ _

theorem sortNodes_perm (nodes : List NodeSnapshot) (idx : List (Fin nodes.length))
    (field : KubeSortField) (order : SortOrder) : (sortNodes nodes idx field order).Perm idx := by
  refine (reverseIf_perm _ _).trans ?_
  cases field <;> exact sortBy_perm _ _

theorem sortDeployments_perm (deploys : List DeploymentSnapshot) (idx : List (Fin deploys.length))
    (field : KubeSortField) (order : SortOrder) :
    (sortDeployments deploys idx field order).Perm idx := by
  refine (reverseIf_perm _ _).trans ?_
  cases field <;> exact sortBy_perm _ _

/-- The view before it is sorted: the rows that pass the filter, in snapshot order. -/
def unsortedIndices (lower : Lowercase) (snap : KubeSnapshot) (subview : KubeSubview)
    (filter : String) : List ℕ :=
  let needle := lower.toLowercase filter
  match subview with
  | .pods => (keptPods lower snap.pods needle).map (·.val)
  | .nodes => (keptNodes lower snap.nodes needle).map (·.val)
  | .deployments => (keptDeployments lower snap.deployments needle).map (·.val)

/-- Sorting rearranges the view. -/
theorem computeViewIndices_perm (snap : KubeSnapshot) (subview : KubeSubview) (filter : String)
    (field : KubeSortField) (order : SortOrder) :
    (computeViewIndices lower snap subview filter field order).Perm
      (unsortedIndices lower snap subview filter) := by
  cases subview
  case pods => exact (sortPods_perm _ _ _ _).map _
  case nodes => exact (sortNodes_perm _ _ _ _).map _
  case deployments => exact (sortDeployments_perm _ _ _ _).map _

/-- The positions of a list whose rows are kept, as a filter over the objects the rows stand for. -/
theorem kept_eq {α : Type} {filter : String} (l : List α) (toObject : α → KubeObject)
    (keep : α → Bool) (hkeep : ∀ a, keep a = decide (KubeMatches lower filter (toObject a))) :
    ((List.finRange l.length).filter fun i => keep l[i]).map (·.val) =
      (List.range (l.map toObject).length).filter fun i =>
        ((l.map toObject)[i]?).any fun o => decide (KubeMatches lower filter o) := by
  rw [List.length_map, ← List.map_coe_finRange_eq_range, List.filter_map]
  congr 1
  refine List.filter_congr fun i _ => ?_
  simp [hkeep]

/-- The unsorted view lists, in order, the positions of the objects that match. -/
theorem unsortedIndices_eq (snap : KubeSnapshot) (subview : KubeSubview) (filter : String) :
    unsortedIndices lower snap subview filter =
      (List.range (kubeObjects snap subview).length).filter fun i =>
        ((kubeObjects snap subview)[i]?).any fun o => decide (KubeMatches lower filter o) := by
  have hone (name : String) : containsIgnoreCase lower name (lower.toLowercase filter) =
      decide (MatchesText lower name filter) := by
    rw [Bool.eq_iff_iff, containsIgnoreCase_iff]
    exact decide_eq_true_iff.symm
  let needle := lower.toLowercase filter
  cases subview
  case pods =>
    refine kept_eq snap.pods .pod (fun p => containsIgnoreCase lower p.name needle ||
      containsIgnoreCase lower p.namespace needle) fun p => ?_
    simp [needle, hone, KubeMatches, KubeObject.name, KubeObject.namespace?]
  case nodes =>
    refine kept_eq snap.nodes .node (fun n => containsIgnoreCase lower n.name needle) fun n => ?_
    simp [needle, hone, KubeMatches, KubeObject.name, KubeObject.namespace?]
  case deployments =>
    refine kept_eq snap.deployments .deployment (fun d => containsIgnoreCase lower d.name needle ||
      containsIgnoreCase lower d.namespace needle) fun d => ?_
    simp [needle, hone, KubeMatches, KubeObject.name, KubeObject.namespace?]

/-- A view lists no position twice. -/
theorem computeViewIndices_nodup (snap : KubeSnapshot) (subview : KubeSubview) (filter : String)
    (field : KubeSortField) (order : SortOrder) :
    (computeViewIndices lower snap subview filter field order).Nodup := by
  rw [(computeViewIndices_perm snap subview filter field order).nodup_iff, unsortedIndices_eq]
  exact List.nodup_range.filter _

/-- A view lists exactly the positions of the objects that match. -/
theorem mem_computeViewIndices {snap : KubeSnapshot} {subview : KubeSubview} {filter : String}
    {field : KubeSortField} {order : SortOrder} {i : ℕ} :
    i ∈ computeViewIndices lower snap subview filter field order ↔
      ∃ o, (kubeObjects snap subview)[i]? = some o ∧ KubeMatches lower filter o := by
  rw [(computeViewIndices_perm snap subview filter field order).mem_iff, unsortedIndices_eq,
    List.mem_filter, List.mem_range]
  constructor
  · rintro ⟨-, hany⟩
    obtain ⟨o, ho, hmatch⟩ := (Option.any_eq_true _ _).1 hany
    exact ⟨o, ho, of_decide_eq_true hmatch⟩
  · rintro ⟨o, ho, hmatch⟩
    refine ⟨(List.getElem?_eq_some_iff.1 ho).1, ?_⟩
    simp [ho, hmatch]

end Muxtop.Tui
