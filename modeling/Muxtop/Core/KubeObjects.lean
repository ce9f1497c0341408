import Mathlib.Data.List.AList
import Mathlib.Data.UInt
import Muxtop.Core.System
import Muxtop.Foundation.Text

/-!
# Kubernetes objects and the snapshots made of them

The conversions of `muxtop-core/src/kube_engine.rs`, from the typed objects the API server lists to
the rows of a `KubeSnapshot`. Of the `k8s-openapi` types only the fields that the conversions read
are here; a `BTreeMap` is a list of its entries in key order.
-/

namespace Muxtop.Core

/-! ## Objects of the API -/

namespace Api

structure ObjectMeta where
  «namespace» : Option String
  name : Option String
  labels : Option (List (String × String))
  /-- In milliseconds since the Unix epoch, as `timestamp_millis` gives it. -/
  creationTimestamp : Option Int64
  deletionTimestamp : Option Int64
deriving DecidableEq, Inhabited

structure ContainerStateWaiting where
  reason : Option String
deriving DecidableEq

structure ContainerState where
  waiting : Option ContainerStateWaiting
deriving DecidableEq

structure ContainerStatus where
  ready : Bool
  restartCount : Int32
  state : Option ContainerState
deriving DecidableEq

structure PodSpec where
  nodeName : Option String
deriving DecidableEq

structure PodStatus where
  phase : Option String
  containerStatuses : Option (List ContainerStatus)
  qosClass : Option String
deriving DecidableEq

structure Pod where
  metadata : ObjectMeta
  spec : Option PodSpec
  status : Option PodStatus
deriving DecidableEq, Inhabited

structure NodeSpec where
  unschedulable : Option Bool
deriving DecidableEq

structure NodeCondition where
  type : String
  status : String
deriving DecidableEq

structure NodeSystemInfo where
  kubeletVersion : String
deriving DecidableEq

abbrev Quantities := List (String × String)

structure NodeStatus where
  conditions : Option (List NodeCondition)
  nodeInfo : Option NodeSystemInfo
  capacity : Option Quantities
  allocatable : Option Quantities
deriving DecidableEq

structure Node where
  metadata : ObjectMeta
  spec : Option NodeSpec
  status : Option NodeStatus
deriving DecidableEq

structure DeploymentStrategy where
  type : Option String
deriving DecidableEq

structure DeploymentSpec where
  replicas : Option Int32
  strategy : Option DeploymentStrategy
deriving DecidableEq

structure DeploymentStatus where
  readyReplicas : Option Int32
  updatedReplicas : Option Int32
  availableReplicas : Option Int32
deriving DecidableEq

structure Deployment where
  metadata : ObjectMeta
  spec : Option DeploymentSpec
  status : Option DeploymentStatus
deriving DecidableEq

end Api

/-! ## The caches -/

/-- Raw API objects produced by the poll loop. -/
structure ResourceCache where
  pods : List Api.Pod
  nodes : List Api.Node
  deployments : List Api.Deployment
  lastUpdateMs : UInt64
deriving DecidableEq

instance : Inhabited ResourceCache := ⟨⟨[], [], [], 0⟩⟩

/-- Metrics by `(namespace, pod name)` and by node name: millicores and bytes. -/
structure MetricsCache where
  available : Bool
  pods : AList fun _ : String × String => UInt32 × UInt64
  nodes : AList fun _ : String => UInt32 × UInt64
deriving DecidableEq

instance : Inhabited MetricsCache := ⟨⟨false, ∅, ∅⟩⟩

/-! ## Quantities and times -/

def saturatingMul32 (a b : UInt32) : UInt32 := .ofNat (min (a.toNat * b.toNat) (UInt32.size - 1))
def saturatingMul64 (a b : UInt64) : UInt64 := .ofNat (min (a.toNat * b.toNat) (UInt64.size - 1))

/-- Millicores of a `Quantity`. `floatMillis` is `(s.parse::<f64>()? * 1000.0).round() as u32`. -/
def parseQuantityToMillis (floatMillis : String → Option UInt32) (raw : String) : UInt32 :=
  let s := Text.trim raw
  match Text.stripSuffix s "m" with
  | some stripped => (Text.parseU32 stripped).getD 0
  | none =>
    match Text.parseU32 s with
    | some int => saturatingMul32 int 1000
    | none => (floatMillis s).getD 0

def multipliers : List (String × UInt64) :=
  [("Ti", 2 ^ 40), ("Gi", 2 ^ 30), ("Mi", 2 ^ 20), ("Ki", 2 ^ 10),
    ("T", 1000000000000), ("G", 1000000000), ("M", 1000000), ("K", 1000)]

/-- Bytes of a `Quantity`. -/
def parseQuantityToBytes (raw : String) : UInt64 :=
  let s := Text.trim raw
  let suffixed := multipliers.findSome? fun (suffix, mult) =>
    (Text.stripSuffix s suffix).map fun stripped =>
      ((Text.parseU64 stripped).map (saturatingMul64 · mult)).getD 0
  suffixed.getD ((Text.parseU64 s).getD 0)

def creationAgeSeconds (creation : Option Int64) (nowMs : UInt64) : UInt64 :=
  match creation with
  | none => 0
  | some createdMs => if createdMs ≤ 0 then 0 else (nowMs - min nowMs createdMs.toUInt64) / 1000

/-! ## Pods -/

/-- A pod that is going away is `terminating` whatever its containers do. -/
def podPhaseSynthetic (pod : Api.Pod) : PodPhase :=
  let statuses := (pod.status.bind (·.containerStatuses)).getD []
  let crashLooping (cs : Api.ContainerStatus) : Bool :=
    (cs.state.bind (·.waiting)).bind (·.reason) == some "CrashLoopBackOff"
  if pod.metadata.deletionTimestamp.isSome then .terminating
  else if statuses.any crashLooping then .crashLoop
  else match (pod.status.bind (·.phase)).getD "" with
    | "Pending" => .pending
    | "Running" => .running
    | "Succeeded" => .succeeded
    | "Failed" => .failed
    | _ => .unknown

/-- Ready containers and all containers, each at most 255. -/
def podReadyRatio (pod : Api.Pod) : UInt8 × UInt8 :=
  match pod.status.bind (·.containerStatuses) with
  | some list =>
    (.ofNat (min (list.countP (·.ready)) 255), .ofNat (min list.length 255))
  | none => (0, 0)

/-- `max(0) as u32`. -/
def clampToU32 (n : Int32) : UInt32 := (max n 0).toUInt32

/-- The sum wraps around, as it does in a release build. -/
def podRestartCount (pod : Api.Pod) : UInt32 :=
  match pod.status.bind (·.containerStatuses) with
  | some list => (list.map fun cs => clampToU32 cs.restartCount).sum
  | none => 0

def podQos (pod : Api.Pod) : QosClass :=
  match (pod.status.bind (·.qosClass)).getD "" with
  | "Guaranteed" => .guaranteed
  | "Burstable" => .burstable
  | _ => .bestEffort

def podToSnapshot (pod : Api.Pod) (metrics : MetricsCache) (nowMs : UInt64) : PodSnapshot :=
  let ns := pod.metadata.namespace.getD ""
  let name := pod.metadata.name.getD ""
  let used := metrics.pods.lookup (ns, name)
  { «namespace» := ns
    name := name
    phase := podPhaseSynthetic pod
    ready := podReadyRatio pod
    restarts := podRestartCount pod
    ageSeconds := creationAgeSeconds pod.metadata.creationTimestamp nowMs
    node := (pod.spec.bind (·.nodeName)).getD ""
    cpuMillis := used.map Prod.fst
    memBytes := used.map Prod.snd
    qos := podQos pod }

/-! ## Nodes -/

def nodeStatusSynthetic (node : Api.Node) : NodeStatus :=
  if node.spec.bind (·.unschedulable) = some true then .schedulingDisabled
  else
    let conditions := (node.status.bind (·.conditions)).getD []
    match (conditions.find? (·.type == "Ready")).map (·.status) with
    | some "True" => .ready
    | some "False" => .notReady
    | _ => .unknown

/-- The roles that the labels of a node name, sorted. -/
def nodeRoles (node : Api.Node) : List String :=
  let role (label : String × String) : Option String :=
    (Text.stripPrefix label.1 "node-role.kubernetes.io/").filter (· ≠ "")
  ((node.metadata.labels.getD []).filterMap role).mergeSort fun a b => decide (a ≤ b)

/-- The row of a node but for its pods, which `snapshot` counts. -/
def nodeToSnapshot (floatMillis : String → Option UInt32) (node : Api.Node)
    (metrics : MetricsCache) (nowMs : UInt64) : NodeSnapshot :=
  let name := node.metadata.name.getD ""
  let capacity := (node.status.bind (·.capacity)).getD []
  let allocatable := (node.status.bind (·.allocatable)).getD []
  let cpu (quantities : Api.Quantities) : UInt32 :=
    ((quantities.lookup "cpu").map (parseQuantityToMillis floatMillis)).getD 0
  let memory (quantities : Api.Quantities) : UInt64 :=
    ((quantities.lookup "memory").map parseQuantityToBytes).getD 0
  let used := metrics.nodes.lookup name
  { name := name
    status := nodeStatusSynthetic node
    roles := nodeRoles node
    ageSeconds := creationAgeSeconds node.metadata.creationTimestamp nowMs
    kubeletVersion := ((node.status.bind (·.nodeInfo)).map (·.kubeletVersion)).getD ""
    cpuCapacityMillis := cpu capacity
    cpuAllocatableMillis := cpu allocatable
    cpuUsedMillis := used.map Prod.fst
    memCapacityBytes := memory capacity
    memAllocatableBytes := memory allocatable
    memUsedBytes := used.map Prod.snd
    podCount := 0
    podCapacity := ((capacity.lookup "pods").bind Text.parseU32).getD 0 }

/-- How many pods are scheduled on each node. -/
def podsPerNode (pods : List PodSnapshot) : AList fun _ : String => UInt32 :=
  pods.foldl (fun counts pod =>
    if pod.node = "" ∨ pod.phase = .succeeded ∨ pod.phase = .failed then counts
    else counts.insert pod.node ((counts.lookup pod.node).getD 0 + 1)) ∅

/-! ## Deployments -/

def deploymentToSnapshot (d : Api.Deployment) (nowMs : UInt64) : DeploymentSnapshot :=
  let replicas (count : Api.DeploymentStatus → Option Int32) : UInt32 :=
    (d.status.map fun s => clampToU32 ((count s).getD 0)).getD 0
  { «namespace» := d.metadata.namespace.getD ""
    name := d.metadata.name.getD ""
    replicasDesired := clampToU32 ((d.spec.bind (·.replicas)).getD 0)
    replicasReady := replicas (·.readyReplicas)
    replicasUptodate := replicas (·.updatedReplicas)
    replicasAvailable := replicas (·.availableReplicas)
    ageSeconds := creationAgeSeconds d.metadata.creationTimestamp nowMs
    strategy :=
      if (d.spec.bind (·.strategy)).bind (·.type) = some "Recreate" then .recreate
      else .rollingUpdate }

/-! ## What the conversions keep -/

@[simp] theorem podToSnapshot_namespace (pod : Api.Pod) (metrics : MetricsCache) (nowMs : UInt64) :
    (podToSnapshot pod metrics nowMs).namespace = pod.metadata.namespace.getD "" := rfl

@[simp] theorem deploymentToSnapshot_namespace (d : Api.Deployment) (nowMs : UInt64) :
    (deploymentToSnapshot d nowMs).namespace = d.metadata.namespace.getD "" := rfl

end Muxtop.Core
