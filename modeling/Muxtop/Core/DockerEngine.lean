import Mathlib.Data.List.AList
import Muxtop.Core.KubeObjects
import Muxtop.Foundation.FloatArith

/-!
# The container engine

Reference: `muxtop-core/src/docker_engine.rs`, `container_engine.rs`.

`list_and_stats` lists the containers, fetches the stats of each in parallel and keeps one CPU
reading per container for the next tick. What the daemon answers during one call is a `Tick`.
-/

namespace Muxtop.Core

/-! ## What the daemon reports -/

namespace Bollard

inductive ContainerSummaryStateEnum
  | empty | created | running | paused | restarting | exited | removing | dead
deriving DecidableEq, Repr

structure ContainerSummary where
  id : Option String
  names : Option (List String)
  image : Option String
  created : Option Int64
  state : Option ContainerSummaryStateEnum
  status : Option String
deriving DecidableEq, Repr

structure ContainerCpuUsage where
  totalUsage : Option UInt64
deriving DecidableEq, Repr

structure ContainerCpuStats where
  cpuUsage : Option ContainerCpuUsage
  systemCpuUsage : Option UInt64
  onlineCpus : Option UInt32
deriving DecidableEq, Repr

structure ContainerMemoryStats where
  usage : Option UInt64
  limit : Option UInt64
deriving DecidableEq, Repr

structure ContainerBlkioStatEntry where
  op : Option String
  value : Option UInt64
deriving DecidableEq, Repr

structure ContainerBlkioStats where
  ioServiceBytesRecursive : Option (List ContainerBlkioStatEntry)
deriving DecidableEq, Repr

structure ContainerNetworkStats where
  rxBytes : Option UInt64
  txBytes : Option UInt64
deriving DecidableEq, Repr

structure ContainerStatsResponse where
  cpuStats : Option ContainerCpuStats
  memoryStats : Option ContainerMemoryStats
  blkioStats : Option ContainerBlkioStats
  /-- per interface; the order of the entries is that of the map -/
  networks : Option (List (String × ContainerNetworkStats))
deriving DecidableEq, Repr

end Bollard

open Bollard

/-- Errors raised by a container engine. A timeout carries its budget in milliseconds. -/
inductive EngineError
  | connectFailed (reason : String)
  | containerNotFound (id : String)
  | permissionDenied (reason : String)
  | timeout (budget : ℕ)
  | other (reason : String)
deriving DecidableEq, Repr

def saturatingAdd64 (a b : UInt64) : UInt64 := .ofNat (min (a.toNat + b.toNat) (UInt64.size - 1))
def saturatingSub64 (a b : UInt64) : UInt64 := if b ≤ a then a - b else 0

/-! ## One row -/

/-- Last CPU reading for a container. -/
structure CachedCpu where
  cpuUsage : UInt64
  systemUsage : UInt64
deriving DecidableEq, Repr

/-- Docker's CPU-percentage formula; zero without a previous sample. -/
def computeCpuPct (stats : ContainerStatsResponse) (prev : Option CachedCpu) : F32 :=
  match stats.cpuStats with
  | none => ⟨0⟩
  | some cpuStats =>
      let totalUsage := (cpuStats.cpuUsage.bind (·.totalUsage)).getD 0
      let systemUsage := cpuStats.systemCpuUsage.getD 0
      let onlineCpus := (max (cpuStats.onlineCpus.getD 1) 1).toUInt64.toFloat
      match prev with
      | none => ⟨0⟩
      | some prev =>
          let cpuDelta := (saturatingSub64 totalUsage prev.cpuUsage).toFloat
          let systemDelta := (saturatingSub64 systemUsage prev.systemUsage).toFloat
          if 0.0 < systemDelta then
            let pct := cpuDelta / systemDelta * onlineCpus * 100.0
            FloatArith.toF32 (FloatArith.clamp pct 0.0 (onlineCpus * 100.0))
          else ⟨0⟩

def mapState : Option ContainerSummaryStateEnum → ContainerState
  | some .created => .created
  | some .running => .running
  | some .paused => .paused
  | some .restarting => .restarting
  | some .exited => .exited
  | some .dead => .dead
  | some .removing => .removing
  | some .empty | none => .exited

/-- The first twelve characters of an id. -/
def shortId (id : String) : String := String.ofList (id.toList.take 12)

/-- The first name without its leading slashes, or the short id. -/
def canonicalName (names : Option (List String)) (id : String) : String :=
  match names.bind List.head? with
  | some s => String.ofList (s.toList.dropWhile (· = '/'))
  | none => shortId id

/-- Sum the recursive block-io entries of one operation. -/
def sumBlkio (stats : ContainerStatsResponse) (opLabel : String) : UInt64 :=
  match stats.blkioStats.bind (·.ioServiceBytesRecursive) with
  | none => 0
  | some entries =>
      ((entries.filter fun e => e.op.map (·.map Char.toLower) = some opLabel).filterMap
        (·.value)).foldl saturatingAdd64 0

/-- Sum per-interface byte counters. -/
def sumNetworks (stats : ContainerStatsResponse) : UInt64 × UInt64 :=
  match stats.networks with
  | none => (0, 0)
  | some nets =>
      nets.foldl (fun (rx, tx) n =>
        (saturatingAdd64 rx (n.2.rxBytes.getD 0), saturatingAdd64 tx (n.2.txBytes.getD 0))) (0, 0)

/-- The CPU reading that a stats response reports. -/
def cpuCache (stats : ContainerStatsResponse) : CachedCpu where
  cpuUsage := ((stats.cpuStats.bind (·.cpuUsage)).bind (·.totalUsage)).getD 0
  systemUsage := (stats.cpuStats.bind (·.systemCpuUsage)).getD 0

/-- The row of a container and its cache entry for the next tick. `now` is the wall clock. -/
def buildSnapshot (summary : ContainerSummary) (stats : ContainerStatsResponse)
    (prev : Option CachedCpu) (now : UInt64) : ContainerSnapshot × CachedCpu :=
  let id := summary.id.getD ""
  let snap : ContainerSnapshot :=
    { id := shortId id
      idFull := id
      name := canonicalName summary.names (shortId id)
      image := summary.image.getD "<unknown>"
      state := mapState summary.state
      statusText := summary.status.getD ""
      cpuPct := computeCpuPct stats prev
      memUsedBytes := (stats.memoryStats.bind (·.usage)).getD 0
      memLimitBytes := (stats.memoryStats.bind (·.limit)).getD 0
      netRxBytes := (sumNetworks stats).1
      netTxBytes := (sumNetworks stats).2
      blockReadBytes := sumBlkio stats "read"
      blockWriteBytes := sumBlkio stats "write"
      startedAtMs :=
        ((summary.created.filter (0 < ·)).map fun s => saturatingMul64 s.toUInt64 1000).getD now }
  (snap, cpuCache stats)

/-! ## One tick -/

/-- What the daemon answers during one `list_and_stats` whose list call succeeds. -/
structure Tick where
  listed : List ContainerSummary
  /-- the containers in the order in which their futures completed -/
  completed : List ContainerSummary
  completed_perm : completed.Perm listed
  /-- what `fetch_stats` resolves to -/
  fetchStats : String → Except EngineError ContainerStatsResponse
  /-- the wall clock when the row of a container is built, in milliseconds -/
  clock : String → UInt64

structure DockerEngine where
  lastCpu : AList fun _ : String => CachedCpu

namespace DockerEngine

/-- An engine that has not ticked. -/
def connect : DockerEngine := ⟨∅⟩

/-- The previous reading that a container's future is given. -/
def prev (lastCpu : AList fun _ : String => CachedCpu) (container : ContainerSummary) :
    Option CachedCpu :=
  container.id.bind fun id => lastCpu.lookup id

/-- One container's future. -/
def fetchRow (lastCpu : AList fun _ : String => CachedCpu) (tick : Tick)
    (container : ContainerSummary) : Except EngineError (ContainerSnapshot × CachedCpu) :=
  match container.id with
  | none => .error (.other "container has no id")
  | some id =>
      match tick.fetchStats id with
      | .error e => .error e
      | .ok stats => .ok (buildSnapshot container stats (prev lastCpu container) (tick.clock id))

/-- Take in one result: a row that failed is dropped, whatever the error. -/
def collectRow (acc : List ContainerSnapshot × AList fun _ : String => CachedCpu) :
    Except EngineError (ContainerSnapshot × CachedCpu) →
      List ContainerSnapshot × AList fun _ : String => CachedCpu
  | .ok (snap, cached) => (acc.1 ++ [snap], acc.2.insert snap.id cached)
  | .error (.containerNotFound _) => acc
  | .error _ => acc

/-- `list_and_stats`, when the list call gives an error or a tick. -/
def listAndStats (engine : DockerEngine) :
    Except EngineError Tick → Except EngineError (List ContainerSnapshot) × DockerEngine
  | .error e => (.error e, engine)
  | .ok tick =>
      let lastCpuSnapshot := engine.lastCpu
      let results := tick.completed.map (fetchRow lastCpuSnapshot tick)
      let (snapshots, newCache) := results.foldl collectRow ([], ∅)
      (.ok snapshots, { engine with lastCpu := newCache })

end DockerEngine

end Muxtop.Core
