import Muxtop.Foundation.FloatArith
import Muxtop.Tui.Selection

/-!
# The Kubernetes row under the cursor

The table and the copy read the row from the sorted view. The inspector filters the snapshot anew and
counts to the cursor without sorting. They agree on the object that is as far down in the one as in the
other.
-/

namespace Muxtop.Tui

open Muxtop.Core StableSort
open Text (Lowercase)

/-! ## The order of the table -/

/-- What `sort_pods` compares by. -/
def podCmp (field : KubeSortField) (a b : PodSnapshot) : Ordering :=
  match field with
  | .podName => cmpPair (a.namespace, a.name) (b.namespace, b.name)
  | .podPhase => compare (phaseRank a.phase) (phaseRank b.phase)
  | .podRestarts => compare b.restarts a.restarts
  | .podMem => compare (b.memBytes.getD 0) (a.memBytes.getD 0)
  | .podAge => compare b.ageSeconds a.ageSeconds
  | _ => compare (b.cpuMillis.getD 0) (a.cpuMillis.getD 0)

/-- What `sort_nodes` compares by. -/
def nodeCmp (field : KubeSortField) (a b : NodeSnapshot) : Ordering :=
  match field with
  | .nodeName => compare a.name b.name
  | .nodeMemPct => compare (b.memUsedBytes.getD 0) (a.memUsedBytes.getD 0)
  | .nodePodCount => compare b.podCount a.podCount
  | .nodeAge => compare b.ageSeconds a.ageSeconds
  | _ => compare (b.cpuUsedMillis.getD 0) (a.cpuUsedMillis.getD 0)

/-- What `sort_deployments` compares by. -/
def deploymentCmp (field : KubeSortField) (a b : DeploymentSnapshot) : Ordering :=
  match field with
  | .deployNamespace => cmpPair (a.namespace, a.name) (b.namespace, b.name)
  | .deployReadyRatio => (ratio a).cmp (ratio b)
  | .deployAge => compare b.ageSeconds a.ageSeconds
  | _ => compare a.name b.name

/-- The pods are sorted by the comparator of the column. -/
theorem sortPods_eq (pods : List PodSnapshot) (idx : List (Fin pods.length)) (field : KubeSortField)
    (order : SortOrder) :
    sortPods pods idx field order =
      reverseIf (order = .asc) (sortBy (fun a b => podCmp field (pods.get a) (pods.get b)) idx) := by
  cases field <;> rfl

/-- So are the nodes. -/
theorem sortNodes_eq (nodes : List NodeSnapshot) (idx : List (Fin nodes.length))
    (field : KubeSortField) (order : SortOrder) :
    sortNodes nodes idx field order =
      reverseIf (order = .asc) (sortBy (fun a b => nodeCmp field (nodes.get a) (nodes.get b)) idx) := by
  cases field <;> rfl

/-- So are the deployments. -/
theorem sortDeployments_eq (deploys : List DeploymentSnapshot) (idx : List (Fin deploys.length))
    (field : KubeSortField) (order : SortOrder) :
    sortDeployments deploys idx field order =
      reverseIf (order = .asc)
        (sortBy (fun a b => deploymentCmp field (deploys.get a) (deploys.get b)) idx) := by
  cases field <;> rfl

instance : Std.TransCmp cmpPair :=
  inferInstanceAs (Std.TransCmp (compareLex (compareOn Prod.fst) (compareOn Prod.snd)))

/-- The share of ready replicas is never NaN. -/
theorem ratio_signMagnitude_le (d : DeploymentSnapshot) :
    (ratio d).signMagnitude.2 ≤ 0x7FF0000000000000 := by
  unfold ratio
  split_ifs with h
  · decide
  · exact FloatArith.toNat_div_mod_le h

/-- So deployments are compared by a number. -/
theorem cmp_ratio (a b : DeploymentSnapshot) :
    (ratio a).cmp (ratio b) =
      compare (FloatOrder.value (ratio a).signMagnitude) (FloatOrder.value (ratio b).signMagnitude) :=
  F64.cmp_eq (ratio_signMagnitude_le a) (ratio_signMagnitude_le b)

instance (field : KubeSortField) : Std.TransCmp (podCmp field) := by
  cases field
  case podName => exact transCmp_on cmpPair fun p : PodSnapshot => (p.namespace, p.name)
  case podPhase => exact transCmp_on compare fun p : PodSnapshot => phaseRank p.phase
  case podRestarts => exact transCmp_keyRev PodSnapshot.restarts
  case podMem => exact transCmp_keyRev fun p : PodSnapshot => p.memBytes.getD 0
  case podAge => exact transCmp_keyRev PodSnapshot.ageSeconds
  all_goals exact transCmp_keyRev fun p : PodSnapshot => p.cpuMillis.getD 0

instance (field : KubeSortField) : Std.TransCmp (nodeCmp field) := by
  cases field
  case nodeName => exact transCmp_on compare NodeSnapshot.name
  case nodeMemPct => exact transCmp_keyRev fun n : NodeSnapshot => n.memUsedBytes.getD 0
  case nodePodCount => exact transCmp_keyRev NodeSnapshot.podCount
  case nodeAge => exact transCmp_keyRev NodeSnapshot.ageSeconds
  all_goals exact transCmp_keyRev fun n : NodeSnapshot => n.cpuUsedMillis.getD 0

instance (field : KubeSortField) : Std.TransCmp (deploymentCmp field) := by
  cases field
  case deployNamespace => exact transCmp_on cmpPair fun d : DeploymentSnapshot => (d.namespace, d.name)
  case deployReadyRatio =>
    have hcmp : deploymentCmp .deployReadyRatio =
        fun a b => compare (FloatOrder.value (ratio a).signMagnitude)
          (FloatOrder.value (ratio b).signMagnitude) := by
      funext a b
      exact cmp_ratio a b
    rw [hcmp]
    exact transCmp_on compare fun d : DeploymentSnapshot => FloatOrder.value (ratio d).signMagnitude
  case deployAge => exact transCmp_keyRev DeploymentSnapshot.ageSeconds
  all_goals exact transCmp_on compare DeploymentSnapshot.name

/-- What the sub-views compare their objects by. -/
def kubeCmp (field : KubeSortField) : KubeObject → KubeObject → Ordering
  | .pod a, .pod b => podCmp field a b
  | .node a, .node b => nodeCmp field a b
  | .deployment a, .deployment b => deploymentCmp field a b
  | _, _ => .eq

instance (field : KubeSortField) : Std.OrientedCmp (kubeCmp field) where
  eq_swap {a b} := by
    cases a <;> cases b
    case pod.pod a b => exact @Std.OrientedCmp.eq_swap _ (podCmp field) _ a b
    case node.node a b => exact @Std.OrientedCmp.eq_swap _ (nodeCmp field) _ a b
    case deployment.deployment a b => exact @Std.OrientedCmp.eq_swap _ (deploymentCmp field) _ a b
    all_goals rfl

/-! ## Rows -/

/-- A row: an object with its position in the snapshot. -/
abbrev KubeRow := ℕ × KubeObject

/-- The rows at some positions of a list. -/
def rowsAt (objects : List KubeObject) (positions : List ℕ) : List KubeRow :=
  positions.filterMap fun i => (objects[i]?).map fun o => (i, o)

/-- The rows that match the filter, in snapshot order. -/
def matchingRows (lower : Lowercase) (objects : List KubeObject) (filter : String) : List KubeRow :=
  ((List.range objects.length).zip objects).filter fun row => KubeMatches lower filter row.2

/-- The order of the snapshot. -/
def Above (a b : KubeRow) : Prop := a.1 < b.1

def rowCmp (field : KubeSortField) (a b : KubeRow) : Ordering := kubeCmp field a.2 b.2

/-- Whether the sort puts a row before another. Rows that compare equal keep their order, and an
ascending sort is a descending one turned round. -/
def SortedBefore (field : KubeSortField) (order : SortOrder) (a b : KubeRow) : Prop :=
  match order with
  | .desc => Before (rowCmp field) Above a b
  | .asc => Before (rowCmp field) Above b a

instance : DecidableRel Above := fun a b => Nat.decLt a.1 b.1

instance (field : KubeSortField) (order : SortOrder) : DecidableRel (SortedBefore field order) :=
  fun a b =>
    match order with
    | .desc => inferInstanceAs (Decidable (Before (rowCmp field) Above a b))
    | .asc => inferInstanceAs (Decidable (Before (rowCmp field) Above b a))

instance (field : KubeSortField) : Std.OrientedCmp (rowCmp field) where
  eq_swap {a b} := @Std.OrientedCmp.eq_swap _ (kubeCmp field) _ a.2 b.2

variable {lower : Lowercase} {objects : List KubeObject} {field : KubeSortField} {order : SortOrder}
  {filter : String} {row : KubeRow}

/-- No two rows stand above each other. -/
theorem not_above_of_above (a b : KubeRow) (h : Above a b) : ¬ Above b a := Nat.lt_asymm h

/-- No two rows are sorted before each other. -/
theorem not_sortedBefore_of_sortedBefore (a b : KubeRow) (h : SortedBefore field order a b) :
    ¬ SortedBefore field order b a := by
  cases order
  case desc => exact @not_before_of_before _ (rowCmp field) _ _ not_above_of_above _ _ h
  case asc => exact @not_before_of_before _ (rowCmp field) _ _ not_above_of_above _ _ h

/-- The rows of the list of one kind. -/
theorem rowsAt_map {α : Type} {xs : List α} (toObject : α → KubeObject) (idx : List (Fin xs.length)) :
    rowsAt (xs.map toObject) (idx.map (·.val)) = idx.map fun i => (i.val, toObject (xs.get i)) := by
  have hrow : ((fun i => ((xs.map toObject)[i]?).map fun o => (i, o)) ∘ fun i : Fin xs.length => i.val) =
      some ∘ fun i => (i.val, toObject (xs.get i)) := by
    funext i
    simp
  unfold rowsAt
  rw [List.filterMap_map, hrow, List.filterMap_eq_map]

/-- The rows of a sorted view of one kind are in the order of the sort. -/
theorem pairwise_rowsAt {α : Type} {xs : List α} (cmp : α → α → Ordering) [Std.TransCmp cmp]
    {toObject : α → KubeObject} (hcmp : ∀ a b, kubeCmp field (toObject a) (toObject b) = cmp a b)
    {idx : List (Fin xs.length)} (hidx : idx.Pairwise (· < ·)) :
    (rowsAt (xs.map toObject)
      ((reverseIf (order = .asc) (sortBy (fun a b => cmp (xs.get a) (xs.get b)) idx)).map (·.val))).Pairwise
        (SortedBefore field order) := by
  have hsorted := @pairwise_sortBy _ (fun a b => cmp (xs.get a) (xs.get b)) _
    (transCmp_on cmp xs.get) idx hidx
  rw [rowsAt_map, List.pairwise_map]
  have hrows (a b : Fin xs.length) (h : Before (fun a b => cmp (xs.get a) (xs.get b)) (· < ·) a b) :
      Before (rowCmp field) Above (a.val, toObject (xs.get a)) (b.val, toObject (xs.get b)) := by
    unfold Before rowCmp
    rw [hcmp]
    exact h
  cases order
  case desc => exact hsorted.imp (hrows _ _)
  case asc => exact List.pairwise_reverse.2 (hsorted.imp (hrows _ _))

/-- The rows of a view are in the order of the sort. -/
theorem pairwise_rowsAt_computeViewIndices (snap : KubeSnapshot) (subview : KubeSubview)
    (filter : String) (field : KubeSortField) (order : SortOrder) :
    (rowsAt (kubeObjects snap subview)
      (computeViewIndices lower snap subview filter field order)).Pairwise
        (SortedBefore field order) := by
  have hkept {n : ℕ} (keep : Fin n → Bool) : ((List.finRange n).filter keep).Pairwise (· < ·) :=
    (List.pairwise_lt_finRange n).filter keep
  cases subview
  case pods =>
    dsimp only [computeViewIndices]
    rw [sortPods_eq]
    exact pairwise_rowsAt (podCmp field) (fun _ _ => rfl) (hkept _)
  case nodes =>
    dsimp only [computeViewIndices]
    rw [sortNodes_eq]
    exact pairwise_rowsAt (nodeCmp field) (fun _ _ => rfl) (hkept _)
  case deployments =>
    dsimp only [computeViewIndices]
    rw [sortDeployments_eq]
    exact pairwise_rowsAt (deploymentCmp field) (fun _ _ => rfl) (hkept _)

/-- All rows of a list. -/
theorem rowsAt_range (objects : List KubeObject) :
    rowsAt objects (List.range objects.length) = (List.range objects.length).zip objects := by
  have hrows := rowsAt_map id (List.finRange objects.length)
  rw [List.map_id, List.map_coe_finRange_eq_range] at hrows
  calc rowsAt objects (List.range objects.length)
      = (List.finRange objects.length).map fun i => (i.val, objects.get i) := hrows
    _ = ((List.finRange objects.length).map (·.val)).zip
          ((List.finRange objects.length).map objects.get) := List.zip_map'.symm
    _ = (List.range objects.length).zip objects := by
        rw [List.map_coe_finRange_eq_range, List.map_get_finRange]

/-- The rows that match, by their positions. -/
theorem rowsAt_filter (objects : List KubeObject) (filter : String) :
    rowsAt objects ((List.range objects.length).filter fun i =>
        (objects[i]?).any fun o => decide (KubeMatches lower filter o)) =
      matchingRows lower objects filter := by
  unfold matchingRows
  rw [← rowsAt_range]
  unfold rowsAt
  rw [List.filterMap_filter, List.filter_filterMap]
  congr 1
  funext i
  cases objects[i]? <;> simp [Option.filter]

/-- The rows of a view are the matching ones. -/
theorem rowsAt_computeViewIndices_perm (snap : KubeSnapshot) (subview : KubeSubview)
    (filter : String) (field : KubeSortField) (order : SortOrder) :
    (rowsAt (kubeObjects snap subview)
      (computeViewIndices lower snap subview filter field order)).Perm
        (matchingRows lower (kubeObjects snap subview) filter) := by
  rw [← rowsAt_filter, ← unsortedIndices_eq]
  exact (computeViewIndices_perm snap subview filter field order).filterMap _

/-- The rows that match come in the order of the snapshot. -/
theorem pairwise_matchingRows : (matchingRows lower objects filter).Pairwise Above := by
  have hpositions : (((List.range objects.length).zip objects).map Prod.fst).Pairwise (· < ·) := by
    rw [List.map_fst_zip (by rw [List.length_range])]
    exact List.pairwise_lt_range
  exact (List.pairwise_map.1 hpositions).filter _

/-- The positions of the rows are the ones they were looked up at. -/
theorem map_fst_rowsAt {positions : List ℕ} (h : ∀ i ∈ positions, (objects[i]?).isSome) :
    (rowsAt objects positions).map Prod.fst = positions := by
  induction positions with
  | nil => rfl
  | cons i rest ih =>
    obtain ⟨o, ho⟩ := Option.isSome_iff_exists.1 (h i List.mem_cons_self)
    have hrest := ih fun j hj => h j (List.mem_cons_of_mem i hj)
    unfold rowsAt at *
    rw [List.filterMap_cons_some (by rw [ho]; rfl), List.map_cons, hrest]

/-- A row goes with the object at its position. -/
theorem getElem?_of_mem_rowsAt {positions : List ℕ} (h : row ∈ rowsAt objects positions) :
    objects[row.1]? = some row.2 := by
  obtain ⟨i, -, hi⟩ := List.mem_filterMap.1 h
  obtain ⟨o, ho, rfl⟩ := Option.map_eq_some_iff.1 hi
  exact ho

namespace Views

variable {lib : Lib} {v : Views} {snap : KubeSnapshot}

/-- The row highlighted, the object copied and the object inspected are one object of the snapshot. -/
def SameRow (lib : Lib) (v : Views) : Prop :=
  ∃ row ∈ v.kubeRows[v.kubeSelected]?,
    v.kubeViewCache[v.kubeSelected]? = some row.1 ∧ v.selectedKubeName = some row.2.name ∧
      v.kubeDetails lib = some row

/-- The objects of the sub-view in front. -/
def subviewObjects (v : Views) : List KubeObject :=
  (v.lastSnapshot.bind (·.kube)).elim [] fun snap => kubeObjects snap v.kubeSubview

/-- Some object that matches the filter has as many matching objects above it in the snapshot as the sort
puts before it, and the cursor is that far down. -/
def InPlace (lib : Lib) (v : Views) : Prop :=
  let rows := matchingRows lib.lower v.subviewObjects v.kubeFilterInput
  ∃ row ∈ rows, (rows.countP fun a => Above a row) = v.kubeSelected ∧
    (rows.countP fun a => SortedBefore v.kubeSortField v.kubeSortOrder a row) = v.kubeSelected

instance : Decidable (v.SameRow lib) := inferInstanceAs (Decidable (∃ row ∈ _, _))
instance : Decidable (v.InPlace lib) := inferInstanceAs (Decidable (∃ row ∈ _, _))

/-- The inspector's filter is that of the view: the text it puts for a node's namespace matches nothing
that the name does not. -/
theorem keep_eq (o : KubeObject) (filter : String) :
    ((lower.toLowercase filter).isEmpty ||
        Text.contains (lower.toLowercase o.name) (lower.toLowercase filter) ||
        Text.contains (lower.toLowercase (o.namespace?.getD "")) (lower.toLowercase filter)) =
      decide (KubeMatches lower filter o) := by
  have hmatch (text : String) : Text.contains (lower.toLowercase text) (lower.toLowercase filter) =
      decide (MatchesText lower text filter) := rfl
  rw [Text.isEmpty_or_contains]
  cases o
  case node n =>
    have hempty : Text.contains (lower.toLowercase "") (lower.toLowercase filter) =
        (lower.toLowercase filter).isEmpty := by
      rw [Text.Lowercase.toLowercase_empty, Text.empty_contains]
    simp only [KubeObject.namespace?, Option.getD_none]
    rw [hempty, Bool.or_comm, Text.isEmpty_or_contains, hmatch]
    simp [KubeMatches, KubeObject.namespace?]
  all_goals simp [hmatch, KubeMatches, KubeObject.namespace?]

/-- The inspector shows the matching row at the cursor, in snapshot order. -/
theorem kubeDetails_eq (hsnap : v.lastSnapshot.bind (·.kube) = some snap) :
    v.kubeDetails lib =
      (matchingRows lib.lower (kubeObjects snap v.kubeSubview) v.kubeFilterInput)[v.kubeSelected]? := by
  unfold kubeDetails matchingRows
  rw [hsnap]
  simp only [keep_eq]
  rfl

/-- The table shows the rows of the view. -/
theorem kubeRows_eq (hcoherent : v.KubeCoherent lib)
    (hsnap : v.lastSnapshot.bind (·.kube) = some snap) (hreachable : snap.reachable = true) :
    v.kubeRows = rowsAt (kubeObjects snap v.kubeSubview)
      (computeViewIndices lib.lower snap v.kubeSubview v.kubeFilterInput v.kubeSortField
        v.kubeSortOrder) := by
  simp only [kubeRows, hsnap, hreachable, if_true]
  rw [hcoherent, kubeView, hsnap]
  rfl

/-- What is copied is the row highlighted, whatever the sort. -/
theorem selectedKubeName_eq (hcoherent : v.KubeCoherent lib)
    (hsnap : v.lastSnapshot.bind (·.kube) = some snap) (hreachable : snap.reachable = true)
    (hrow : v.kubeRows[v.kubeSelected]? = some row) :
    v.kubeViewCache[v.kubeSelected]? = some row.1 ∧ v.selectedKubeName = some row.2.name := by
  have hcache : v.kubeViewCache = computeViewIndices lib.lower snap v.kubeSubview v.kubeFilterInput
      v.kubeSortField v.kubeSortOrder := by
    rw [hcoherent, kubeView, hsnap]
  rw [kubeRows_eq hcoherent hsnap hreachable, ← hcache] at hrow
  have hpositions : (rowsAt (kubeObjects snap v.kubeSubview) v.kubeViewCache).map Prod.fst =
      v.kubeViewCache := by
    apply map_fst_rowsAt
    intro i hi
    rw [hcache] at hi
    obtain ⟨o, ho, -⟩ := mem_computeViewIndices.1 hi
    exact Option.isSome_of_eq_some ho
  have hobject := getElem?_of_mem_rowsAt (List.mem_of_getElem? hrow)
  have hposition : v.kubeViewCache[v.kubeSelected]? = some row.1 := by
    rw [← hpositions, List.getElem?_map, hrow]
    rfl
  refine ⟨hposition, ?_⟩
  simp [selectedKubeName, selectedKubeObject, hsnap, hposition, hobject]

/-- Where the cursor is on a row, the three agree when the object at the cursor in snapshot order is in
place. -/
theorem sameRow_iff (hcoherent : v.KubeCoherent lib)
    (hsel : v.cursor .kube < v.drawnRows lib .kube) : v.SameRow lib ↔ v.InPlace lib := by
  obtain ⟨snap, hsnap, hreachable⟩ := (Option.any_eq_true _ _).1 (shown_of_lt hsel)
  have hobjects : v.subviewObjects = kubeObjects snap v.kubeSubview := by
    rw [subviewObjects, hsnap]
    rfl
  have hsame : v.SameRow lib ↔
      ∃ row, v.kubeRows[v.kubeSelected]? = some row ∧ v.kubeDetails lib = some row := by
    constructor
    · rintro ⟨row, hrow, -, -, hdetails⟩
      exact ⟨row, hrow, hdetails⟩
    · rintro ⟨row, hrow, hdetails⟩
      obtain ⟨hposition, hname⟩ := selectedKubeName_eq hcoherent hsnap hreachable hrow
      exact ⟨row, hrow, hposition, hname, hdetails⟩
  rw [hsame, kubeRows_eq hcoherent hsnap hreachable, kubeDetails_eq hsnap]
  unfold InPlace
  rw [hobjects]
  exact exists_common_iff not_sortedBefore_of_sortedBefore not_above_of_above
    (rowsAt_computeViewIndices_perm ..) (pairwise_rowsAt_computeViewIndices ..) pairwise_matchingRows
    (List.Subset.refl _)

end Views

/-! ## Runs -/

namespace AppState

variable {lib : Lib}

/-- **The selected Kubernetes row.** In every state that can be reached with the cursor on a row, the row
highlighted, the object copied and the object inspected are the same exactly when some matching object
stands at the cursor both in the snapshot's order and in the sort's. -/
theorem sameRow_reachable_iff (config : CliConfig) (containerEngine clusterEngine : Bool)
    (inputs : List Input) :
    let s := Runs.run (step lib) (withConfig config containerEngine clusterEngine) inputs
    s.cursor .kube < s.drawnRows lib .kube → (s.SameRow lib ↔ s.InPlace lib) :=
  fun hsel => Views.sameRow_iff (coherent_run config containerEngine clusterEngine inputs).kube hsel

/-- A snapshot of a cluster that runs some pods, given by name and CPU. -/
def cluster (pods : List (String × UInt32)) : SystemSnapshot :=
  let pod (p : String × UInt32) : PodSnapshot :=
    { (default : PodSnapshot) with name := p.1, cpuMillis := some p.2 }
  { (default : SystemSnapshot) with
    kube := some { (default : KubeSnapshot) with reachable := true, pods := pods.map pod } }

/-- Where the snapshot lists the pods as the sort does, all three are the busiest pod. -/
theorem sameRow_reachable_iff_busiestFirst :
    (Runs.run (step .ascii) (withConfig {} false true)
      [.arrive 0 (cluster [("api", 20), ("db", 10)])]).SameRow .ascii :=
  (sameRow_reachable_iff {} false true [.arrive 0 (cluster [("api", 20), ("db", 10)])]
    (by decide)).2 (by decide)

/-- Where the busier pod is listed last, the table highlights it and the inspector shows the other. -/
theorem not_sameRow_busiestLast :
    ¬ ∀ inputs : List Input,
      let s := Runs.run (step .ascii) (withConfig {} false true) inputs
      s.cursor .kube < s.drawnRows .ascii .kube → s.SameRow .ascii := by
  intro h
  exact absurd (h [.arrive 0 (cluster [("api", 10), ("db", 20)])] (by decide)) (by decide)

end AppState

end Muxtop.Tui
