import Muxtop.Core.NetworkHistory
import Muxtop.Tui.Cells
import Muxtop.Tui.Draw

/-!
# The rows of the tables

Reference: the row builders of `muxtop-tui/src/ui/processes.rs`, `network.rs`, `containers.rs`, `kube.rs`
and `gpu.rs`.

A row is the texts of its cells; their colours are left out.
-/

namespace Muxtop.Tui

open Muxtop.Core
open FloatText (fixed32 fixed64)

/-! ## Processes -/

namespace Processes

/-- Severity of a process state. -/
def stateLevel (status : String) : Level :=
  if status = "Running" then .success
  else if status = "Sleeping" ∨ status = "Idle" then .neutral
  else if status = "Zombie" then .error
  else if status = "Stopped" then .warning
  else .info

/-- Whether the ancestor at `level` still has siblings, given the entries below. -/
def ancestorHasMoreSiblings (level : ℕ) : List (ProcessInfo × ℕ) → Bool
  | [] => false
  | (_, d) :: below => if d < level then false else if d = level then true
    else ancestorHasMoreSiblings level below

/-- Whether an entry is the last of its siblings, given the entries below. -/
def isLastAtDepth (depth : ℕ) : List (ProcessInfo × ℕ) → Bool
  | [] => true
  | (_, d) :: below => if d < depth then true else if d = depth then false
    else isLastAtDepth depth below

/-- The tree connectors of an entry: one for each ancestor below the root, then its own. -/
def treePrefix (g : Glyphs) (entries : List (ProcessInfo × ℕ)) (idx : Fin entries.length) : String :=
  let depth := entries[idx].2
  let below := entries.drop (idx + 1)
  if depth = 0 then ""
  else
    let pipes := (List.range' 1 (depth - 1)).map fun level =>
      if ancestorHasMoreSiblings level below then g.treePipe else g.treeGap
    "".intercalate pipes ++ if isLastAtDepth depth below then g.treeLast else g.treeBranch

def processRow (g : Glyphs) (proc : ProcessInfo) (connectors : Option String) : List String :=
  let command := scrubCtrl proc.command
  let command := match connectors with
    | some connectors => connectors ++ command
    | none => command
  [toString proc.pid,
    scrubCtrl proc.user,
    marker (stateLevel proc.status) g,
    fixed32 1 proc.cpuPercent,
    fixed32 1 proc.memoryPercent,
    humanBytes proc.memoryBytes,
    command]

end Processes

/-! ## Network interfaces -/

/-- `as u64` of a bandwidth. -/
def bytesPerSec (bandwidth : F64) : UInt64 := (Float.ofBits bandwidth.bits).toUInt64

def interfaceRow (g : Glyphs) (history : NetworkHistory) (iface : NetworkInterfaceSnapshot) :
    List String :=
  let errors := iface.errorsRx + iface.errorsTx
  let level : Level := if iface.isUp then .success else .neutral
  [scrubCtrl iface.name,
    marker level g,
    g.arrowDown ++ " " ++ humanRate (bytesPerSec (history.bandwidthRx iface.name)),
    g.arrowUp ++ " " ++ humanRate (bytesPerSec (history.bandwidthTx iface.name)),
    humanBytes iface.bytesRx,
    humanBytes iface.bytesTx,
    if 0 < errors then toString errors else "0"]

/-! ## Containers -/

namespace Containers

def stateLevel : ContainerState → Level
  | .running => .success
  | .paused | .created => .info
  | .restarting | .removing => .warning
  | .exited | .dead => .error

def stateLabel : ContainerState → String
  | .created => "created"
  | .running => "running"
  | .paused => "paused"
  | .restarting => "restarting"
  | .exited => "exited"
  | .dead => "dead"
  | .removing => "removing"

/-- Compact uptime from a start timestamp. -/
def uptime (startedAtMs nowMs : UInt64) : String :=
  if startedAtMs = 0 ∨ nowMs ≤ startedAtMs then "0s" else formatAge ((nowMs - startedAtMs) / 1000)

def containerRow (g : Glyphs) (nowMs : UInt64) (c : ContainerSnapshot) : List String :=
  let running := decide (c.state = .running)
  let memory :=
    if 0 < c.memLimitBytes then humanBytes c.memUsedBytes ++ "/" ++ humanBytes c.memLimitBytes
    else humanBytes c.memUsedBytes
  [scrubCtrl c.name,
    scrubCtrl c.image,
    marker (stateLevel c.state) g ++ " " ++ stateLabel c.state,
    if running then fixed32 1 c.cpuPct else g.none,
    if running then memory else g.none,
    if running then humanBytes c.netRxBytes else g.none,
    if running then humanBytes c.netTxBytes else g.none,
    if running then uptime c.startedAtMs nowMs else g.none]

end Containers

/-! ## Kubernetes objects -/

namespace Kube

def phaseLevel : PodPhase → Level
  | .running => .success
  | .succeeded => .neutral
  | .pending | .terminating => .info
  | .failed | .crashLoop => .error
  | .unknown => .warning

def phaseLabel : PodPhase → String
  | .pending => "Pending"
  | .running => "Running"
  | .succeeded => "Succeeded"
  | .failed => "Failed"
  | .crashLoop => "CrashLoop"
  | .terminating => "Terminating"
  | .unknown => "Unknown"

/-- A missing metric is a dash, not zero. -/
def podRow (g : Glyphs) (p : PodSnapshot) : List String :=
  [scrubCtrl p.namespace,
    scrubCtrl p.name,
    marker (phaseLevel p.phase) g ++ " " ++ phaseLabel p.phase,
    toString p.ready.1 ++ "/" ++ toString p.ready.2,
    if 0 < p.restarts then toString p.restarts else "0",
    p.cpuMillis.elim g.none fun m => toString m ++ "m",
    p.memBytes.elim g.none humanBytes,
    formatAge p.ageSeconds]

def nodeLevel : NodeStatus → Level
  | .ready => .success
  | .schedulingDisabled => .warning
  | .notReady => .error
  | .unknown => .warning

/-- The roles come as they are in the snapshot. -/
def nodeRow (g : Glyphs) (n : NodeSnapshot) : List String :=
  let cpuPct (used : UInt32) : Float :=
    if 0 < n.cpuAllocatableMillis then used.toFloat / n.cpuAllocatableMillis.toFloat * 100 else 0
  let memPct (used : UInt64) : Float :=
    if 0 < n.memAllocatableBytes then used.toFloat / n.memAllocatableBytes.toFloat * 100 else 0
  [scrubCtrl n.name,
    marker (nodeLevel n.status) g ++ " " ++ debugStatus n.status,
    if n.roles.isEmpty then g.none else ",".intercalate n.roles,
    n.cpuUsedMillis.elim g.none fun used => fixed64 0 (cpuPct used) ++ "%",
    n.memUsedBytes.elim g.none fun used => fixed64 0 (memPct used) ++ "%",
    toString n.podCount ++ "/" ++ toString n.podCapacity,
    scrubCtrl n.kubeletVersion,
    formatAge n.ageSeconds]

def deployRow (d : DeploymentSnapshot) : List String :=
  [scrubCtrl d.namespace,
    scrubCtrl d.name,
    toString d.replicasReady ++ "/" ++ toString d.replicasDesired,
    toString d.replicasUptodate,
    toString d.replicasAvailable,
    debugStrategy d.strategy,
    formatAge d.ageSeconds]

end Kube

/-! ## GPUs -/

namespace Gpu

/-- Memory in use, and in all where the driver reports it. -/
def vramCell (g : Glyphs) (d : GpuDeviceSnapshot) : String :=
  match d.memUsedBytes, d.memTotalBytes with
  | some used, some total =>
    if 0 < total then humanBytes used ++ "/" ++ humanBytes total else humanBytes used
  | some used, none => humanBytes used
  | none, _ => g.none

/-- Power drawn, and the limit where there is one. -/
def powerCell (g : Glyphs) (d : GpuDeviceSnapshot) : String :=
  match d.powerWatts, d.powerLimitWatts with
  | some w, some limit => watts w ++ "/" ++ watts limit ++ "W"
  | some w, none => watts w ++ "W"
  | none, _ => g.none

def encdecCell (g : Glyphs) (d : GpuDeviceSnapshot) : String :=
  match d.encoderPct, d.decoderPct with
  | some e, some dec => fixed32 0 e ++ "/" ++ fixed32 0 dec ++ "%"
  | _, _ => g.none

/-- What a driver cannot report is a dash, never zero. -/
def deviceRow (g : Glyphs) (d : GpuDeviceSnapshot) : List String :=
  [toString d.index,
    scrubCtrl d.name,
    gpuVendorLabel d.vendor,
    d.utilizationPct.elim g.none fun p => fixed32 0 p ++ "%",
    vramCell g d,
    d.temperatureC.elim g.none fun t => fixed32 0 t ++ "C",
    powerCell g d,
    d.graphicsClockMhz.elim g.none fun c => toString c ++ "MHz",
    d.fanPct.elim g.none fun f => fixed32 0 f ++ "%",
    encdecCell g d]

def kindLabel : GpuProcessKind → String
  | .compute => "compute"
  | .graphics => "graphics"
  | .both => "both"
  | .unknown => "unknown"

def procRow (g : Glyphs) (p : GpuProcessSnapshot) : List String :=
  [toString p.pid,
    toString p.deviceIndex,
    if p.name.isEmpty then g.none else scrubCtrl p.name,
    kindLabel p.kind,
    p.memBytes.elim g.none humanBytes]

end Gpu

end Muxtop.Tui
