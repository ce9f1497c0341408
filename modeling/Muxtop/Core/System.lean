import Muxtop.Core.Process

/-!
# The system snapshot

Reference: `muxtop-core/src/system.rs`, `network.rs`, `containers.rs`, `kube.rs`, `gpu.rs`.

Field order is the wire order. The source shares the container and cluster snapshots through `Arc`,
which the wire does not show.
-/

namespace Muxtop.Core

/-! ## Host -/

structure CoreSnapshot where
  name : String
  usage : F32
  frequency : UInt64
deriving DecidableEq, Repr, Inhabited

structure CpuSnapshot where
  globalUsage : F32
  cores : List CoreSnapshot
deriving DecidableEq, Repr, Inhabited

structure MemorySnapshot where
  total : UInt64
  used : UInt64
  available : UInt64
  swapTotal : UInt64
  swapUsed : UInt64
deriving DecidableEq, Repr, Inhabited

structure LoadSnapshot where
  one : F64
  five : F64
  fifteen : F64
  uptimeSecs : UInt64
deriving DecidableEq, Repr, Inhabited

structure NetworkInterfaceSnapshot where
  name : String
  bytesRx : UInt64
  bytesTx : UInt64
  packetsRx : UInt64
  packetsTx : UInt64
  errorsRx : UInt64
  errorsTx : UInt64
  macAddress : String
  isUp : Bool
deriving DecidableEq, Repr, Inhabited

structure NetworkSnapshot where
  interfaces : List NetworkInterfaceSnapshot
  totalRx : UInt64
  totalTx : UInt64
deriving DecidableEq, Repr, Inhabited

/-! ## Containers -/

inductive ContainerState
  | created | running | paused | restarting | exited | dead | removing
deriving DecidableEq, Repr, Inhabited

inductive EngineKind
  | docker | podman | unknown
deriving DecidableEq, Repr, Inhabited

structure ContainerSnapshot where
  id : String
  idFull : String
  name : String
  image : String
  state : ContainerState
  statusText : String
  cpuPct : F32
  memUsedBytes : UInt64
  memLimitBytes : UInt64
  netRxBytes : UInt64
  netTxBytes : UInt64
  blockReadBytes : UInt64
  blockWriteBytes : UInt64
  startedAtMs : UInt64
deriving DecidableEq, Repr, Inhabited

structure ContainersSnapshot where
  engine : EngineKind
  daemonUp : Bool
  containers : List ContainerSnapshot
deriving DecidableEq, Repr, Inhabited

/-! ## Kubernetes -/

/-- A pod's phase; `crashLoop` and `terminating` are synthetic. -/
inductive PodPhase
  | pending | running | succeeded | failed | crashLoop | terminating | unknown
deriving DecidableEq, Repr, Inhabited

inductive QosClass
  | guaranteed | burstable | bestEffort
deriving DecidableEq, Repr, Inhabited

inductive NodeStatus
  | ready | notReady | schedulingDisabled | unknown
deriving DecidableEq, Repr, Inhabited

inductive DeploymentStrategy
  | rollingUpdate | recreate
deriving DecidableEq, Repr, Inhabited

inductive ClusterKind
  | generic | kind | k3d | k3s | eks | gke | aks | openshift
deriving DecidableEq, Repr, Inhabited

structure PodSnapshot where
  «namespace» : String
  name : String
  phase : PodPhase
  ready : UInt8 × UInt8
  restarts : UInt32
  ageSeconds : UInt64
  node : String
  cpuMillis : Option UInt32
  memBytes : Option UInt64
  qos : QosClass
deriving DecidableEq, Repr, Inhabited

structure NodeSnapshot where
  name : String
  status : NodeStatus
  roles : List String
  ageSeconds : UInt64
  kubeletVersion : String
  cpuCapacityMillis : UInt32
  cpuAllocatableMillis : UInt32
  cpuUsedMillis : Option UInt32
  memCapacityBytes : UInt64
  memAllocatableBytes : UInt64
  memUsedBytes : Option UInt64
  podCount : UInt32
  podCapacity : UInt32
deriving DecidableEq, Repr, Inhabited

structure DeploymentSnapshot where
  «namespace» : String
  name : String
  replicasDesired : UInt32
  replicasReady : UInt32
  replicasUptodate : UInt32
  replicasAvailable : UInt32
  ageSeconds : UInt64
  strategy : DeploymentStrategy
deriving DecidableEq, Repr, Inhabited

/-- A cluster snapshot. `currentNamespace` is the scope, empty when cluster-wide. -/
structure KubeSnapshot where
  clusterKind : ClusterKind
  serverVersion : Option String
  currentNamespace : String
  reachable : Bool
  metricsAvailable : Bool
  pods : List PodSnapshot
  nodes : List NodeSnapshot
  deployments : List DeploymentSnapshot
deriving DecidableEq, Repr, Inhabited

/-! ## GPUs -/

inductive GpuVendor
  | nvidia | amd | intel | apple | unknown
deriving DecidableEq, Repr, Inhabited

inductive GpuBackend
  | nvml | amdSysfs | appleIoReport
deriving DecidableEq, Repr, Inhabited

inductive GpuProcessKind
  | compute | graphics | both | unknown
deriving DecidableEq, Repr, Inhabited

structure GpuDeviceSnapshot where
  index : UInt32
  vendor : GpuVendor
  backend : GpuBackend
  name : String
  busId : String
  driverVersion : Option String
  utilizationPct : Option F32
  memUtilizationPct : Option F32
  memUsedBytes : Option UInt64
  memTotalBytes : Option UInt64
  temperatureC : Option F32
  powerWatts : Option F32
  powerLimitWatts : Option F32
  graphicsClockMhz : Option UInt32
  memoryClockMhz : Option UInt32
  fanPct : Option F32
  encoderPct : Option F32
  decoderPct : Option F32
  supportsProcessStats : Bool
deriving DecidableEq, Repr, Inhabited

structure GpuProcessSnapshot where
  pid : UInt32
  deviceIndex : UInt32
  name : String
  kind : GpuProcessKind
  memBytes : Option UInt64
deriving DecidableEq, Repr, Inhabited

structure GpusSnapshot where
  backends : List GpuBackend
  available : Bool
  devices : List GpuDeviceSnapshot
  processes : List GpuProcessSnapshot
  detail : String
deriving DecidableEq, Repr, Inhabited

/-! ## The snapshot -/

/-- Full system snapshot aggregating all subsystems. -/
structure SystemSnapshot where
  cpu : CpuSnapshot
  memory : MemorySnapshot
  load : LoadSnapshot
  processes : List ProcessInfo
  networks : NetworkSnapshot
  containers : Option ContainersSnapshot
  kube : Option KubeSnapshot
  gpu : Option GpusSnapshot
  timestampMs : UInt64
deriving DecidableEq, Repr, Inhabited

end Muxtop.Core
