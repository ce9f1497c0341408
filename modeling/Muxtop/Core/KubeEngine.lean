import Muxtop.Core.KubeObjects
import Muxtop.Foundation.Runs

/-!
# The Kubernetes engine

`KubeEngine` of `muxtop-core/src/kube_engine.rs` and the tasks that share it: the resource poll
loop, the metrics loop, the calls of `set_scope` and `toggle_scope`, and the calls of `snapshot`.
A step of the system is what one task does between two points where it may wait, so a run is an
interleaving of the tasks.

The scope, the resource cache and the metrics cache are each behind a lock of their own. Where a
task holds a lock only within a step, that step is one event. A `snapshot` call alone holds locks
while it waits: the resource cache from its first step to its end, the metrics cache from its
second. An event whose task is not there to take it, or whose lock is held, leaves the state as it
is.
-/

namespace Muxtop.Core

/-! ## The scope -/

/-- Which namespaces the pod and deployment lists cover. -/
inductive KubeScope
  | allNamespaces
  | ofNamespace (ns : String)
deriving DecidableEq

/-- The namespace this scope targets, or `none` when cluster-wide. -/
def KubeScope.namespace : KubeScope → Option String
  | .allNamespaces => none
  | .ofNamespace ns => some ns

/-- The namespace name when scoped, the empty string when cluster-wide. -/
def KubeScope.label (scope : KubeScope) : String := scope.namespace.getD ""

/-- What the engine is made with and keeps. -/
structure KubeEngine where
  clusterKind : ClusterKind
  serverVersion : Option String
  /-- The namespace that a toggle from cluster-wide scopes to. -/
  scopedNamespace : String
  /-- The rounding of fractional quantities, which is floating-point arithmetic. -/
  floatMillis : String → Option UInt32

/-! ## The tasks -/

/-- What the three lists of a tick gave; `none` is a list that failed or timed out. -/
structure Lists where
  pods : Option (List Api.Pod)
  nodes : Option (List Api.Node)
  deployments : Option (List Api.Deployment)

/-- Where the resource poll loop is. -/
inductive ResourceLoop
  | awaitsTick
  | lists (scope : KubeScope)
  | awaitsCache (scope : KubeScope) (lists : Lists)
  | stopped

/-- Where a call of `toggle_scope` or `set_scope` is. -/
inductive ScopeCall
  | awaitsToggle
  | awaitsScope (next : KubeScope)
  | awaitsClear (next : KubeScope)
  | returned (next : KubeScope)

/-- The rows that a `snapshot` call computes while it holds both caches. -/
structure Rows where
  pods : List PodSnapshot
  nodes : List NodeSnapshot
  deployments : List DeploymentSnapshot
  reachable : Bool
  metricsAvailable : Bool

/-- Where a call of `snapshot` is, from when it holds the resource cache. -/
inductive SnapshotCall
  | awaitsMetrics
  | awaitsScope (rows : Rows)
  | returned (snapshot : KubeSnapshot)

/-- The engine's shared state and the tasks that use it. -/
structure EngineState where
  scope : KubeScope
  resources : ResourceCache
  metrics : MetricsCache
  loop : ResourceLoop
  scopeCalls : List ScopeCall
  snapshotCalls : List SnapshotCall

def SnapshotCall.hasReturned : SnapshotCall → Bool
  | .returned _ => true
  | _ => false

def SnapshotCall.holdsMetrics : SnapshotCall → Bool
  | .awaitsScope _ => true
  | _ => false

namespace EngineState

/-- No call of `snapshot` holds the resource cache. -/
def resourcesFree (s : EngineState) : Bool := s.snapshotCalls.all SnapshotCall.hasReturned

/-- No call of `snapshot` holds the metrics cache. -/
def metricsFree (s : EngineState) : Bool := !s.snapshotCalls.any SnapshotCall.holdsMetrics

/-- The snapshots that calls of `snapshot` have returned. -/
def published (s : EngineState) : List KubeSnapshot :=
  s.snapshotCalls.filterMap fun
    | .returned snapshot => some snapshot
    | _ => none

end EngineState

/-! ## What the tasks do -/

/-- Objects of the named namespace only, unless the scope is cluster-wide. -/
def Lists.answer (lists : Lists) (scope : KubeScope) : Prop :=
  ∀ ns, scope.namespace = some ns →
    (∀ pod ∈ lists.pods.getD [], pod.metadata.namespace = some ns) ∧
      ∀ d ∈ lists.deployments.getD [], d.metadata.namespace = some ns

instance (lists : Lists) (scope : KubeScope) : Decidable (lists.answer scope) :=
  match h : scope.namespace with
  | none => isTrue fun ns hns => by rw [h] at hns; contradiction
  | some ns =>
    decidable_of_iff ((∀ pod ∈ lists.pods.getD [], pod.metadata.namespace = some ns) ∧
        ∀ d ∈ lists.deployments.getD [], d.metadata.namespace = some ns) (by
      simp [Lists.answer, h])

/-- The end of `tick_resources`: a list that failed keeps what the cache holds. -/
def ResourceCache.write (cache : ResourceCache) (lists : Lists) (nowMs : UInt64) :
    ResourceCache where
  pods := lists.pods.getD cache.pods
  nodes := lists.nodes.getD cache.nodes
  deployments := lists.deployments.getD cache.deployments
  lastUpdateMs := nowMs

/-- The end of `set_scope`. -/
def ResourceCache.clear (cache : ResourceCache) : ResourceCache :=
  { cache with pods := [], deployments := [] }

namespace KubeEngine

/-- The rows of a snapshot, with the pods of each node counted. -/
def rows (engine : KubeEngine) (resources : ResourceCache) (metrics : MetricsCache)
    (nowMs : UInt64) : Rows :=
  let pods := resources.pods.map (podToSnapshot · metrics nowMs)
  let nodes := resources.nodes.map (nodeToSnapshot engine.floatMillis · metrics nowMs)
  let scheduled := podsPerNode pods
  { pods := pods
    nodes := nodes.map fun node =>
      { node with podCount := (scheduled.lookup node.name).getD 0 }
    deployments := resources.deployments.map (deploymentToSnapshot · nowMs)
    reachable := 0 < resources.lastUpdateMs
    metricsAvailable := metrics.available }

/-- The snapshot that a call returns. -/
def snapshotOf (engine : KubeEngine) (rows : Rows) (scope : KubeScope) : KubeSnapshot where
  clusterKind := engine.clusterKind
  serverVersion := engine.serverVersion
  currentNamespace := scope.label
  reachable := rows.reachable
  metricsAvailable := rows.metricsAvailable
  pods := rows.pods
  nodes := rows.nodes
  deployments := rows.deployments

/-- The scope that `toggle_scope` sets. -/
def toggled (engine : KubeEngine) : KubeScope → KubeScope
  | .allNamespaces => .ofNamespace engine.scopedNamespace
  | .ofNamespace _ => .allNamespaces

/-- What a call of `toggle_scope` or `set_scope` does next. -/
def stepScopeCall (engine : KubeEngine) (s : EngineState) (i : ℕ) : EngineState :=
  match s.scopeCalls[i]? with
  | some .awaitsToggle =>
    { s with scopeCalls := s.scopeCalls.set i (.awaitsScope (engine.toggled s.scope)) }
  | some (.awaitsScope next) =>
    { s with scope := next, scopeCalls := s.scopeCalls.set i (.awaitsClear next) }
  | some (.awaitsClear next) =>
    if s.resourcesFree then
      { s with
        resources := s.resources.clear
        scopeCalls := s.scopeCalls.set i (.returned next) }
    else s
  | _ => s

/-- What a call of `snapshot` does next: it takes the metrics cache and computes the rows, then it
reads the scope and returns. -/
def stepSnapshotCall (engine : KubeEngine) (s : EngineState) (i : ℕ) (nowMs : UInt64) :
    EngineState :=
  match s.snapshotCalls[i]? with
  | some .awaitsMetrics =>
    let rows := engine.rows s.resources s.metrics nowMs
    { s with snapshotCalls := s.snapshotCalls.set i (.awaitsScope rows) }
  | some (.awaitsScope rows) =>
    { s with snapshotCalls := s.snapshotCalls.set i (.returned (engine.snapshotOf rows s.scope)) }
  | _ => s

end KubeEngine

/-! ## The system -/

/-- What can happen next. -/
inductive EngineEvent
  /-- The poll loop wakes up and reads the scope it lists under. -/
  | tick
  /-- The API server has answered the lists. -/
  | answered (lists : Lists)
  /-- The poll loop writes the cache. -/
  | writeResources (nowMs : UInt64)
  | cancel
  /-- The metrics loop writes its cache. -/
  | writeMetrics (metrics : MetricsCache)
  | callToggleScope
  | callSetScope (next : KubeScope)
  | stepScopeCall (i : ℕ)
  /-- A call of `snapshot` takes the resource cache. -/
  | callSnapshot
  | stepSnapshotCall (i : ℕ) (nowMs : UInt64)

namespace KubeEngine

def step (engine : KubeEngine) (s : EngineState) : EngineEvent → EngineState
  | .tick =>
    match s.loop with
    | .awaitsTick => { s with loop := .lists s.scope }
    | _ => s
  | .answered lists =>
    match s.loop with
    | .lists scope =>
      if lists.answer scope then { s with loop := .awaitsCache scope lists } else s
    | _ => s
  | .writeResources nowMs =>
    match s.loop with
    | .awaitsCache _ lists =>
      if s.resourcesFree then
        { s with loop := .awaitsTick, resources := s.resources.write lists nowMs }
      else s
    | _ => s
  | .cancel => { s with loop := .stopped }
  | .writeMetrics metrics => if s.metricsFree then { s with metrics := metrics } else s
  | .callToggleScope => { s with scopeCalls := s.scopeCalls ++ [.awaitsToggle] }
  | .callSetScope next => { s with scopeCalls := s.scopeCalls ++ [.awaitsScope next] }
  | .stepScopeCall i => engine.stepScopeCall s i
  | .callSnapshot => { s with snapshotCalls := s.snapshotCalls ++ [.awaitsMetrics] }
  | .stepSnapshotCall i nowMs => engine.stepSnapshotCall s i nowMs

/-- The engine as `connect` makes it, scoped to the namespace it is given. -/
def connected («namespace» : Option String) : EngineState where
  scope := match «namespace» with
    | some ns => .ofNamespace ns
    | none => .allNamespaces
  resources := default
  metrics := default
  loop := .awaitsTick
  scopeCalls := []
  snapshotCalls := []

/-- The state after a list of events. -/
def run (engine : KubeEngine) (s : EngineState) (events : List EngineEvent) : EngineState :=
  Runs.run engine.step s events

end KubeEngine

end Muxtop.Core
