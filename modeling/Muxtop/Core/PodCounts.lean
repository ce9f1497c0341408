import Muxtop.Core.KubeScope
import Muxtop.Foundation.Tally

/-!
# The pods of each node

A node is shown with the number of pods that run on it, those that have terminated left out. The pods
are counted by the phase they are shown with, and that phase hides a terminated pod which is going
away or whose containers are in a crash loop: such a pod is counted.
-/

namespace Muxtop.Core

namespace Api.Pod

/-- The scheduler has put the pod on the node of that name. -/
def runsOn (pod : Api.Pod) (name : String) : Bool := pod.spec.bind (·.nodeName) == some name

/-- The API server says that all containers of the pod have terminated. -/
def terminated (pod : Api.Pod) : Bool :=
  pod.status.bind (·.phase) == some "Succeeded" || pod.status.bind (·.phase) == some "Failed"

/-- Some container waits in a crash loop. -/
def crashLoops (pod : Api.Pod) : Bool :=
  ((pod.status.bind (·.containerStatuses)).getD []).any fun cs =>
    (cs.state.bind (·.waiting)).bind (·.reason) == some "CrashLoopBackOff"

/-- The pod is shown as going away or as crash looping, whatever its phase. -/
def hidesPhase (pod : Api.Pod) : Bool := pod.metadata.deletionTimestamp.isSome || pod.crashLoops

end Api.Pod

/-- The pods on a node that have not terminated. -/
def nonTerminated (pods : List Api.Pod) (name : String) : ℕ :=
  pods.countP fun pod => pod.runsOn name && !pod.terminated

/-- The pods on a node that have terminated and are shown as something else. -/
def hiddenTerminated (pods : List Api.Pod) (name : String) : ℕ :=
  pods.countP fun pod => pod.runsOn name && (pod.terminated && pod.hidesPhase)

/-- The count that a node is to be shown with; no pod runs on a node without a name. -/
def expectedPods (pods : List Api.Pod) (node : Api.Node) : ℕ :=
  node.metadata.name.elim 0 (nonTerminated pods)

/-- No terminated pod of the node is shown as something else, up to a full turn of the counter, and
the counter can hold the others. A pod on a node whose name is empty passes for one on no node. -/
def PhasesTell (pods : List Api.Pod) (node : Api.Node) : Prop :=
  ∀ name, node.metadata.name = some name →
    if name = "" then nonTerminated pods name = 0
    else nonTerminated pods name < 2 ^ 32 ∧ 2 ^ 32 ∣ hiddenTerminated pods name

/-! ## What is counted -/

/-- The shown phase is a terminal one exactly when the pod has terminated and nothing hides it. -/
theorem podPhaseSynthetic_terminal (pod : Api.Pod) :
    (podPhaseSynthetic pod = .succeeded ∨ podPhaseSynthetic pod = .failed) ↔
      pod.terminated = true ∧ pod.hidesPhase = false := by
  unfold podPhaseSynthetic Api.Pod.hidesPhase
  dsimp only
  by_cases hdel : pod.metadata.deletionTimestamp.isSome
  case pos => simp [hdel]
  case neg =>
    rw [if_neg hdel, ← Api.Pod.crashLoops]
    by_cases hcrash : pod.crashLoops
    case pos =>
      rw [if_pos hcrash]
      simp [hcrash]
    case neg =>
      unfold Api.Pod.terminated
      rw [if_neg hcrash]
      cases pod.status.bind (·.phase) with
      | none => simp [hdel, hcrash]
      | some phase =>
        simp only [Option.getD_some]
        split <;> simp_all

/-- The node under which a pod is counted. -/
def countedOn (pod : PodSnapshot) : Option String :=
  if pod.node = "" ∨ pod.phase = .succeeded ∨ pod.phase = .failed then none else some pod.node

theorem podsPerNode_eq_tally (pods : List PodSnapshot) :
    podsPerNode pods = AList.tally countedOn 0 (· + 1) pods := by
  unfold podsPerNode AList.tally
  congr 1
  funext counts pod
  unfold AList.bump countedOn
  split <;> rfl

theorem countedOn_podToSnapshot (pod : Api.Pod) (metrics : MetricsCache) (nowMs : UInt64)
    (name : String) :
    countedOn (podToSnapshot pod metrics nowMs) = some name ↔
      name ≠ "" ∧ pod.runsOn name = true ∧ ¬(pod.terminated = true ∧ pod.hidesPhase = false) := by
  have hterminal := podPhaseSynthetic_terminal pod
  have hphase : (podToSnapshot pod metrics nowMs).phase = podPhaseSynthetic pod := rfl
  have hnode : (podToSnapshot pod metrics nowMs).node = (pod.spec.bind (·.nodeName)).getD "" := rfl
  unfold countedOn Api.Pod.runsOn
  rw [hphase, hnode, ← hterminal]
  cases pod.spec.bind (·.nodeName) with
  | none => simp
  | some node =>
    simp only [Option.getD_some, beq_iff_eq, Option.some_inj]
    split <;> grind

/-- On a node with a name, the pods that have not terminated are counted and those that have and are
shown as something else. -/
theorem countP_countedOn (pods : List Api.Pod) (metrics : MetricsCache) (nowMs : UInt64)
    {name : String} (hname : name ≠ "") :
    (pods.map (podToSnapshot · metrics nowMs)).countP (fun pod => countedOn pod = some name) =
      nonTerminated pods name + hiddenTerminated pods name := by
  induction pods with
  | nil => rfl
  | cons pod pods ih =>
    have hcounted := countedOn_podToSnapshot pod metrics nowMs name
    simp only [nonTerminated, hiddenTerminated, List.map_cons, List.countP_cons] at ih ⊢
    rw [ih]
    cases hruns : pod.runsOn name <;> cases hterm : pod.terminated <;>
      cases hhides : pod.hidesPhase <;> simp [hname, hruns, hterm, hhides] at hcounted ⊢ <;>
      simp [hcounted] <;> omega

theorem iterate_succ_toNat (n : ℕ) : ((· + 1 : UInt32 → UInt32)^[n] 0).toNat = n % 2 ^ 32 := by
  induction n with
  | zero => rfl
  | succ n ih =>
    rw [Function.iterate_succ_apply', UInt32.toNat_add, ih]
    have hone : (1 : UInt32).toNat = 1 := rfl
    omega

/-- The counter of a name. -/
theorem podsPerNode_toNat (pods : List Api.Pod) (metrics : MetricsCache) (nowMs : UInt64)
    (name : String) :
    (((podsPerNode (pods.map (podToSnapshot · metrics nowMs))).lookup name).getD 0).toNat =
      if name = "" then 0 else (nonTerminated pods name + hiddenTerminated pods name) % 2 ^ 32 := by
  rw [podsPerNode_eq_tally, AList.lookup_tally, iterate_succ_toNat]
  split
  case isTrue hname =>
    -- an empty node name stands for a pod that is on no node yet
    have hnone : (pods.map (podToSnapshot · metrics nowMs)).countP
        (fun pod => countedOn pod = some name) = 0 := by
      rw [List.countP_eq_zero]
      intro row hrow hcounted
      obtain ⟨pod, -, rfl⟩ := List.mem_map.1 hrow
      exact ((countedOn_podToSnapshot pod metrics nowMs name).1 (by simpa using hcounted)).1 hname
    rw [hnone]
    rfl
  case isFalse hname => rw [countP_countedOn pods metrics nowMs hname]

/-! ## The counts of a snapshot -/

/-- One node is shown with its count exactly when the phases of its pods tell which have
terminated. -/
theorem node_podCount_iff (pods : List Api.Pod) (metrics : MetricsCache) (nowMs : UInt64)
    (node : Api.Node) :
    (((podsPerNode (pods.map (podToSnapshot · metrics nowMs))).lookup
        (node.metadata.name.getD "")).getD 0).toNat = expectedPods pods node ↔
      PhasesTell pods node := by
  rw [podsPerNode_toNat]
  unfold expectedPods PhasesTell
  cases hname : node.metadata.name with
  | none => simp
  | some name =>
    simp only [Option.getD_some, Option.elim_some, Option.some_inj, forall_eq']
    by_cases hempty : name = ""
    case pos => simp [hempty, eq_comm]
    case neg =>
      simp only [hempty, if_false]
      omega

/-- Each node of a snapshot has the number of pods on it that have not terminated, exactly when the
phases of the cached pods tell it on every node. -/
theorem snapshot_podCounts_iff (engine : KubeEngine) (resources : ResourceCache)
    (metrics : MetricsCache) (nowMs : UInt64) (scope : KubeScope) :
    (engine.snapshotOf (engine.rows resources metrics nowMs) scope).nodes.map (·.podCount.toNat) =
        resources.nodes.map (expectedPods resources.pods) ↔
      ∀ node ∈ resources.nodes, PhasesTell resources.pods node := by
  have hrows : (engine.snapshotOf (engine.rows resources metrics nowMs) scope).nodes.map
        (·.podCount.toNat) = resources.nodes.map fun node =>
          (((podsPerNode (resources.pods.map (podToSnapshot · metrics nowMs))).lookup
            (node.metadata.name.getD "")).getD 0).toNat := by
    simp [KubeEngine.snapshotOf, KubeEngine.rows, nodeToSnapshot, Function.comp_def]
  rw [hrows, List.map_inj_left]
  constructor
  · intro h node hnode
    exact (node_podCount_iff _ metrics nowMs node).1 (h node hnode)
  · intro h node hnode
    exact (node_podCount_iff _ metrics nowMs node).2 (h node hnode)

/-- A pod that has succeeded and is being deleted, on the one node of the cluster. -/
def deletedJob : ResourceCache where
  pods := [
    { metadata := ⟨some "batch", some "job", none, none, some 1767225600000⟩
      spec := some ⟨some "n"⟩
      status := some ⟨some "Succeeded", none, none⟩ }]
  nodes := [⟨⟨none, some "n", none, none, none⟩, none, none⟩]
  deployments := []
  lastUpdateMs := 1767225600000

/-- It is counted as a pod of that node. -/
theorem not_snapshot_podCounts_deletedJob :
    ¬ ∀ (resources : ResourceCache),
      (kindEngine.snapshotOf (kindEngine.rows resources default 0) .allNamespaces).nodes.map
          (·.podCount.toNat) =
        resources.nodes.map (expectedPods resources.pods) := by
  intro h
  have hcounts := h deletedJob
  exact absurd hcounts (by decide)

end Muxtop.Core
