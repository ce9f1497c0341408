import Muxtop.Core.System
import Muxtop.Foundation.BincodeCombinators

/-!
# The wire layout of the system snapshot

Reference: the `Encode`/`Decode` derives of `muxtop-core`. A structure is its fields in order, an
enumeration its variants in order. `size_of` of a vector's element type, which the decode limit
counts, is the compiler's choice and a parameter.
-/

namespace Muxtop.Proto

open Bincode Bincode.Codec Muxtop.Core

/-- `size_of` of the element types of the snapshot's vectors. -/
structure Layout where
  string : ℕ
  coreSnapshot : ℕ
  processInfo : ℕ
  networkInterfaceSnapshot : ℕ
  containerSnapshot : ℕ
  podSnapshot : ℕ
  nodeSnapshot : ℕ
  deploymentSnapshot : ℕ
  gpuBackend : ℕ
  gpuDeviceSnapshot : ℕ
  gpuProcessSnapshot : ℕ
deriving DecidableEq, Repr

/-- The sizes on 64-bit targets. -/
def Layout.x86_64 : Layout where
  string := 24
  coreSnapshot := 40
  processInfo := 128
  networkInterfaceSnapshot := 104
  containerSnapshot := 184
  podSnapshot := 112
  nodeSnapshot := 144
  deploymentSnapshot := 80
  gpuBackend := 1
  gpuDeviceSnapshot := 192
  gpuProcessSnapshot := 56

/-! ## Enumerations -/

def containerState : Codec ContainerState :=
  variants [.created, .running, .paused, .restarting, .exited, .dead, .removing]
    (fun a => by cases a <;> decide) (by decide) (by decide)

def engineKind : Codec EngineKind :=
  variants [.docker, .podman, .unknown] (fun a => by cases a <;> decide) (by decide) (by decide)

def podPhase : Codec PodPhase :=
  variants [.pending, .running, .succeeded, .failed, .crashLoop, .terminating, .unknown]
    (fun a => by cases a <;> decide) (by decide) (by decide)

def qosClass : Codec QosClass :=
  variants [.guaranteed, .burstable, .bestEffort] (fun a => by cases a <;> decide) (by decide)
    (by decide)

def nodeStatus : Codec NodeStatus :=
  variants [.ready, .notReady, .schedulingDisabled, .unknown] (fun a => by cases a <;> decide)
    (by decide) (by decide)

def deploymentStrategy : Codec DeploymentStrategy :=
  variants [.rollingUpdate, .recreate] (fun a => by cases a <;> decide) (by decide) (by decide)

def clusterKind : Codec ClusterKind :=
  variants [.generic, .kind, .k3d, .k3s, .eks, .gke, .aks, .openshift]
    (fun a => by cases a <;> decide) (by decide) (by decide)

def gpuVendor : Codec GpuVendor :=
  variants [.nvidia, .amd, .intel, .apple, .unknown] (fun a => by cases a <;> decide) (by decide)
    (by decide)

def gpuBackend : Codec GpuBackend :=
  variants [.nvml, .amdSysfs, .appleIoReport] (fun a => by cases a <;> decide) (by decide)
    (by decide)

def gpuProcessKind : Codec GpuProcessKind :=
  variants [.compute, .graphics, .both, .unknown] (fun a => by cases a <;> decide) (by decide)
    (by decide)

/-! ## Structures -/

def coreSnapshot : Codec CoreSnapshot :=
  (string.pair (f32.pair u64)).struct
    (fun (name, usage, frequency) => ⟨name, usage, frequency⟩)
    (fun s => (s.name, s.usage, s.frequency)) (fun _ => rfl) (fun _ => rfl)

def memorySnapshot : Codec MemorySnapshot :=
  (u64.pair (u64.pair (u64.pair (u64.pair u64)))).struct
    (fun (total, used, available, swapTotal, swapUsed) =>
      ⟨total, used, available, swapTotal, swapUsed⟩)
    (fun s => (s.total, s.used, s.available, s.swapTotal, s.swapUsed)) (fun _ => rfl) (fun _ => rfl)

def loadSnapshot : Codec LoadSnapshot :=
  (f64.pair (f64.pair (f64.pair u64))).struct
    (fun (one, five, fifteen, uptimeSecs) => ⟨one, five, fifteen, uptimeSecs⟩)
    (fun s => (s.one, s.five, s.fifteen, s.uptimeSecs)) (fun _ => rfl) (fun _ => rfl)

def processInfo : Codec ProcessInfo :=
  (u32.pair (u32.option.pair (string.pair (string.pair (string.pair (f32.pair (u64.pair
    (f32.pair string)))))))).struct
    (fun (pid, parentPid, name, command, user, cpuPercent, memoryBytes, memoryPercent, status) =>
      ⟨pid, parentPid, name, command, user, cpuPercent, memoryBytes, memoryPercent, status⟩)
    (fun s => (s.pid, s.parentPid, s.name, s.command, s.user, s.cpuPercent, s.memoryBytes,
      s.memoryPercent, s.status)) (fun _ => rfl) (fun _ => rfl)

def networkInterfaceSnapshot : Codec NetworkInterfaceSnapshot :=
  (string.pair (u64.pair (u64.pair (u64.pair (u64.pair (u64.pair (u64.pair (string.pair
    bool)))))))).struct
    (fun (name, bytesRx, bytesTx, packetsRx, packetsTx, errorsRx, errorsTx, macAddress, isUp) =>
      ⟨name, bytesRx, bytesTx, packetsRx, packetsTx, errorsRx, errorsTx, macAddress, isUp⟩)
    (fun s => (s.name, s.bytesRx, s.bytesTx, s.packetsRx, s.packetsTx, s.errorsRx, s.errorsTx,
      s.macAddress, s.isUp)) (fun _ => rfl) (fun _ => rfl)

def containerSnapshot : Codec ContainerSnapshot :=
  (string.pair (string.pair (string.pair (string.pair (containerState.pair (string.pair (f32.pair
    (u64.pair (u64.pair (u64.pair (u64.pair (u64.pair (u64.pair u64))))))))))))).struct
    (fun (id, idFull, name, image, state, statusText, cpuPct, memUsedBytes, memLimitBytes,
        netRxBytes, netTxBytes, blockReadBytes, blockWriteBytes, startedAtMs) =>
      ⟨id, idFull, name, image, state, statusText, cpuPct, memUsedBytes, memLimitBytes, netRxBytes,
        netTxBytes, blockReadBytes, blockWriteBytes, startedAtMs⟩)
    (fun s => (s.id, s.idFull, s.name, s.image, s.state, s.statusText, s.cpuPct, s.memUsedBytes,
      s.memLimitBytes, s.netRxBytes, s.netTxBytes, s.blockReadBytes, s.blockWriteBytes,
      s.startedAtMs)) (fun _ => rfl) (fun _ => rfl)

def podSnapshot : Codec PodSnapshot :=
  (string.pair (string.pair (podPhase.pair ((u8.pair u8).pair (u32.pair (u64.pair (string.pair
    (u32.option.pair (u64.option.pair qosClass))))))))).struct
    (fun (ns, name, phase, ready, restarts, ageSeconds, node, cpuMillis, memBytes, qos) =>
      ⟨ns, name, phase, ready, restarts, ageSeconds, node, cpuMillis, memBytes, qos⟩)
    (fun s => (s.namespace, s.name, s.phase, s.ready, s.restarts, s.ageSeconds, s.node, s.cpuMillis,
      s.memBytes, s.qos)) (fun _ => rfl) (fun _ => rfl)

def nodeSnapshot (layout : Layout) : Codec NodeSnapshot :=
  (string.pair (nodeStatus.pair ((string.vec layout.string).pair (u64.pair (string.pair (u32.pair
    (u32.pair (u32.option.pair (u64.pair (u64.pair (u64.option.pair (u32.pair u32)))))))))))).struct
    (fun (name, status, roles, ageSeconds, kubeletVersion, cpuCapacityMillis, cpuAllocatableMillis,
        cpuUsedMillis, memCapacityBytes, memAllocatableBytes, memUsedBytes, podCount, podCapacity) =>
      ⟨name, status, roles, ageSeconds, kubeletVersion, cpuCapacityMillis, cpuAllocatableMillis,
        cpuUsedMillis, memCapacityBytes, memAllocatableBytes, memUsedBytes, podCount, podCapacity⟩)
    (fun s => (s.name, s.status, s.roles, s.ageSeconds, s.kubeletVersion, s.cpuCapacityMillis,
      s.cpuAllocatableMillis, s.cpuUsedMillis, s.memCapacityBytes, s.memAllocatableBytes,
      s.memUsedBytes, s.podCount, s.podCapacity)) (fun _ => rfl) (fun _ => rfl)

def deploymentSnapshot : Codec DeploymentSnapshot :=
  (string.pair (string.pair (u32.pair (u32.pair (u32.pair (u32.pair (u64.pair
    deploymentStrategy))))))).struct
    (fun (ns, name, replicasDesired, replicasReady, replicasUptodate, replicasAvailable, ageSeconds,
        strategy) =>
      ⟨ns, name, replicasDesired, replicasReady, replicasUptodate, replicasAvailable, ageSeconds,
        strategy⟩)
    (fun s => (s.namespace, s.name, s.replicasDesired, s.replicasReady, s.replicasUptodate,
      s.replicasAvailable, s.ageSeconds, s.strategy)) (fun _ => rfl) (fun _ => rfl)

def gpuDeviceSnapshot : Codec GpuDeviceSnapshot :=
  (u32.pair (gpuVendor.pair (gpuBackend.pair (string.pair (string.pair (string.option.pair
    (f32.option.pair (f32.option.pair (u64.option.pair (u64.option.pair (f32.option.pair
    (f32.option.pair (f32.option.pair (u32.option.pair (u32.option.pair (f32.option.pair
    (f32.option.pair (f32.option.pair bool)))))))))))))))))).struct
    (fun (index, vendor, backend, name, busId, driverVersion, utilizationPct, memUtilizationPct,
        memUsedBytes, memTotalBytes, temperatureC, powerWatts, powerLimitWatts, graphicsClockMhz,
        memoryClockMhz, fanPct, encoderPct, decoderPct, supportsProcessStats) =>
      ⟨index, vendor, backend, name, busId, driverVersion, utilizationPct, memUtilizationPct,
        memUsedBytes, memTotalBytes, temperatureC, powerWatts, powerLimitWatts, graphicsClockMhz,
        memoryClockMhz, fanPct, encoderPct, decoderPct, supportsProcessStats⟩)
    (fun s => (s.index, s.vendor, s.backend, s.name, s.busId, s.driverVersion, s.utilizationPct,
      s.memUtilizationPct, s.memUsedBytes, s.memTotalBytes, s.temperatureC, s.powerWatts,
      s.powerLimitWatts, s.graphicsClockMhz, s.memoryClockMhz, s.fanPct, s.encoderPct, s.decoderPct,
      s.supportsProcessStats)) (fun _ => rfl) (fun _ => rfl)

def gpuProcessSnapshot : Codec GpuProcessSnapshot :=
  (u32.pair (u32.pair (string.pair (gpuProcessKind.pair u64.option)))).struct
    (fun (pid, deviceIndex, name, kind, memBytes) => ⟨pid, deviceIndex, name, kind, memBytes⟩)
    (fun s => (s.pid, s.deviceIndex, s.name, s.kind, s.memBytes)) (fun _ => rfl) (fun _ => rfl)

section Aggregates

variable (layout : Layout)

def cpuSnapshot : Codec CpuSnapshot :=
  (f32.pair (coreSnapshot.vec layout.coreSnapshot)).struct
    (fun (globalUsage, cores) => ⟨globalUsage, cores⟩) (fun s => (s.globalUsage, s.cores))
    (fun _ => rfl) (fun _ => rfl)

def networkSnapshot : Codec NetworkSnapshot :=
  ((networkInterfaceSnapshot.vec layout.networkInterfaceSnapshot).pair (u64.pair u64)).struct
    (fun (interfaces, totalRx, totalTx) => ⟨interfaces, totalRx, totalTx⟩)
    (fun s => (s.interfaces, s.totalRx, s.totalTx)) (fun _ => rfl) (fun _ => rfl)

def containersSnapshot : Codec ContainersSnapshot :=
  (engineKind.pair (bool.pair (containerSnapshot.vec layout.containerSnapshot))).struct
    (fun (engine, daemonUp, containers) => ⟨engine, daemonUp, containers⟩)
    (fun s => (s.engine, s.daemonUp, s.containers)) (fun _ => rfl) (fun _ => rfl)

def kubeSnapshot : Codec KubeSnapshot :=
  (clusterKind.pair (string.option.pair (string.pair (bool.pair (bool.pair
    ((podSnapshot.vec layout.podSnapshot).pair (((nodeSnapshot layout).vec layout.nodeSnapshot).pair
    (deploymentSnapshot.vec layout.deploymentSnapshot)))))))).struct
    (fun (clusterKind, serverVersion, currentNamespace, reachable, metricsAvailable, pods, nodes,
        deployments) =>
      ⟨clusterKind, serverVersion, currentNamespace, reachable, metricsAvailable, pods, nodes,
        deployments⟩)
    (fun s => (s.clusterKind, s.serverVersion, s.currentNamespace, s.reachable, s.metricsAvailable,
      s.pods, s.nodes, s.deployments)) (fun _ => rfl) (fun _ => rfl)

def gpusSnapshot : Codec GpusSnapshot :=
  ((gpuBackend.vec layout.gpuBackend).pair (bool.pair
    ((gpuDeviceSnapshot.vec layout.gpuDeviceSnapshot).pair
    ((gpuProcessSnapshot.vec layout.gpuProcessSnapshot).pair string)))).struct
    (fun (backends, available, devices, processes, detail) =>
      ⟨backends, available, devices, processes, detail⟩)
    (fun s => (s.backends, s.available, s.devices, s.processes, s.detail))
    (fun _ => rfl) (fun _ => rfl)

/-- The system snapshot; an `Arc` is encoded as what it holds. -/
def systemSnapshot : Codec SystemSnapshot :=
  ((cpuSnapshot layout).pair (memorySnapshot.pair (loadSnapshot.pair
    ((processInfo.vec layout.processInfo).pair ((networkSnapshot layout).pair
    ((containersSnapshot layout).option.pair ((kubeSnapshot layout).option.pair
    ((gpusSnapshot layout).option.pair u64)))))))).struct
    (fun (cpu, memory, load, processes, networks, containers, kube, gpu, timestampMs) =>
      ⟨cpu, memory, load, processes, networks, containers, kube, gpu, timestampMs⟩)
    (fun s => (s.cpu, s.memory, s.load, s.processes, s.networks, s.containers, s.kube, s.gpu,
      s.timestampMs)) (fun _ => rfl) (fun _ => rfl)

end Aggregates

end Muxtop.Proto
