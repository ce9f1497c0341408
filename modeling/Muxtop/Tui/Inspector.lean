import Muxtop.Tui.Rows

/-!
# The inspector

Reference: `muxtop-tui/src/ui/inspector.rs`.

Each function gives the title and the rows for one object. Which object is under the cursor is not
decided here.
-/

namespace Muxtop.Tui

open Muxtop.Core
open FloatText (fixed32 fixed64)

/-- One row of the detail view. -/
inductive DetailRow
  | kv (key value : String)
  | heading (title : String)
  | wrapped (key value : String)
  | meter (key : String) (pct : Float) (label : String)

/-- The texts of a row. -/
def DetailRow.texts : DetailRow → List String
  | .kv key value => [key, value]
  | .heading title => [title]
  | .wrapped key value => [key, value]
  | .meter key _ label => [key, label]

namespace Inspector

/-- `f64::from` of an `f32`. -/
def widen (x : F32) : Float := (Float32.ofBits x.bits).toFloat

/-- The status comes as it is in the snapshot. -/
def processDetails (g : Glyphs) (p : ProcessInfo) : String × List DetailRow :=
  (titled g "Process" (scrubCtrl p.name),
    [.kv "PID" (toString p.pid),
      .kv "Parent" (p.parentPid.elim g.none toString),
      .kv "User" (scrubCtrl p.user),
      .kv "Status" p.status,
      .heading "RESOURCES",
      .meter "CPU" (widen p.cpuPercent) (fixed32 1 p.cpuPercent ++ "%"),
      .meter "Memory" (widen p.memoryPercent)
        (humanBytes p.memoryBytes ++ " (" ++ fixed32 1 p.memoryPercent ++ "%)"),
      .heading "COMMAND",
      .wrapped "" (scrubCtrl p.command)])

def networkDetails (g : Glyphs) (i : NetworkInterfaceSnapshot) : String × List DetailRow :=
  (titled g "Interface" (scrubCtrl i.name),
    [.kv "State" (if i.isUp then "up" else "down"),
      .kv "MAC" (scrubCtrl i.macAddress),
      .heading "TOTALS",
      .kv "Received" (humanBytes i.bytesRx),
      .kv "Sent" (humanBytes i.bytesTx),
      .kv "Packets rx" (toString i.packetsRx),
      .kv "Packets tx" (toString i.packetsTx),
      .heading "ERRORS",
      .kv "Receive" (toString i.errorsRx),
      .kv "Transmit" (toString i.errorsTx)])

/-- The short ID comes as it is in the snapshot. -/
def containerDetails (g : Glyphs) (c : ContainerSnapshot) : String × List DetailRow :=
  let memPct : Float :=
    if 0 < c.memLimitBytes then c.memUsedBytes.toFloat / c.memLimitBytes.toFloat * 100 else 0
  let memLabel :=
    if 0 < c.memLimitBytes then humanBytes c.memUsedBytes ++ " / " ++ humanBytes c.memLimitBytes
    else humanBytes c.memUsedBytes ++ " (no limit)"
  (titled g "Container" (scrubCtrl c.name),
    [.kv "ID" c.id,
      .kv "State" (scrubCtrl c.statusText),
      .wrapped "Image" (scrubCtrl c.image),
      .heading "RESOURCES",
      .meter "CPU" (widen c.cpuPct) (fixed32 1 c.cpuPct ++ "%"),
      .meter "Memory" memPct memLabel,
      .heading "IO",
      .kv "Net rx" (humanBytes c.netRxBytes),
      .kv "Net tx" (humanBytes c.netTxBytes),
      .kv "Block read" (humanBytes c.blockReadBytes),
      .kv "Block write" (humanBytes c.blockWriteBytes)])

def podDetails (g : Glyphs) (p : PodSnapshot) : String × List DetailRow :=
  (titled g "Pod" (scrubCtrl p.name),
    [.kv "Namespace" (scrubCtrl p.namespace),
      .kv "Phase" (debugPhase p.phase),
      .kv "Ready" (toString p.ready.1 ++ "/" ++ toString p.ready.2),
      .kv "Restarts" (toString p.restarts),
      .kv "Node" (scrubCtrl p.node),
      .kv "QoS" (debugQos p.qos),
      .kv "Age" (formatAge p.ageSeconds),
      .heading "METRICS",
      .kv "CPU" (p.cpuMillis.elim (g.none ++ " (no metrics-server)") fun m => toString m ++ "m"),
      .kv "Memory" (p.memBytes.elim (g.none ++ " (no metrics-server)") humanBytes)])

/-- The roles come as they are in the snapshot. -/
def nodeDetails (g : Glyphs) (n : NodeSnapshot) : String × List DetailRow :=
  (titled g "Node" (scrubCtrl n.name),
    [.kv "Status" (debugStatus n.status),
      .kv "Roles" (", ".intercalate n.roles),
      .kv "Kubelet" (scrubCtrl n.kubeletVersion),
      .kv "Age" (formatAge n.ageSeconds),
      .heading "CAPACITY",
      .kv "Pods" (toString n.podCount ++ " / " ++ toString n.podCapacity),
      .kv "CPU"
        (toString n.cpuAllocatableMillis ++ "m allocatable of " ++ toString n.cpuCapacityMillis ++ "m"),
      .kv "Memory"
        (humanBytes n.memAllocatableBytes ++ " allocatable of " ++ humanBytes n.memCapacityBytes)])

def deploymentDetails (g : Glyphs) (d : DeploymentSnapshot) : String × List DetailRow :=
  (titled g "Deployment" (scrubCtrl d.name),
    [.kv "Namespace" (scrubCtrl d.namespace),
      .kv "Ready" (toString d.replicasReady ++ "/" ++ toString d.replicasDesired),
      .kv "Up to date" (toString d.replicasUptodate),
      .kv "Available" (toString d.replicasAvailable),
      .kv "Strategy" (debugStrategy d.strategy),
      .kv "Age" (formatAge d.ageSeconds)])

def gpuLoad (g : Glyphs) (d : GpuDeviceSnapshot) : DetailRow :=
  match d.utilizationPct with
  | some p => .meter "GPU" (widen p) (fixed32 0 p ++ "%")
  | none => .kv "GPU" g.none

/-- The memory of a GPU on the SoC die is the machine's. -/
def gpuMemory (g : Glyphs) (d : GpuDeviceSnapshot) : DetailRow :=
  let memoryLabel := if d.vendor = .apple then "Unified memory" else "VRAM"
  match d.memUsedBytes, d.memTotalBytes with
  | some used, some total =>
    if 0 < total then
      .meter memoryLabel (used.toFloat / total.toFloat * 100)
        (humanBytes used ++ " / " ++ humanBytes total)
    else .kv memoryLabel g.none
  | _, _ => .kv memoryLabel g.none

def gpuPower (g : Glyphs) (d : GpuDeviceSnapshot) : String :=
  match d.powerWatts, d.powerLimitWatts with
  | some w, some l => watts w ++ " W / " ++ watts l ++ " W"
  | some w, none => watts w ++ " W"
  | none, _ => g.none

def gpuNote (d : GpuDeviceSnapshot) : List DetailRow :=
  if d.supportsProcessStats then []
  else [.heading "NOTE", .wrapped "" "This backend reports no per-process usage."]

def gpuDeviceDetails (g : Glyphs) (d : GpuDeviceSnapshot) : String × List DetailRow :=
  (titled g "GPU" (scrubCtrl d.name),
    [.kv "Index" (toString d.index),
      .kv "Bus" (if d.busId.isEmpty then g.none else scrubCtrl d.busId),
      .kv "Driver" (d.driverVersion.elim g.none scrubCtrl),
      .heading "LOAD",
      gpuLoad g d,
      gpuMemory g d,
      .heading "PHYSICAL",
      .kv "Temperature" (d.temperatureC.elim g.none fun t => fixed32 0 t ++ " C"),
      .kv "Power" (gpuPower g d),
      .kv "Fan" (d.fanPct.elim g.none fun f => fixed32 0 f ++ "%"),
      .kv "Graphics clock" (d.graphicsClockMhz.elim g.none fun c => toString c ++ " MHz"),
      .kv "Memory clock" (d.memoryClockMhz.elim g.none fun c => toString c ++ " MHz")] ++ gpuNote d)

def gpuProcessDetails (g : Glyphs) (p : GpuProcessSnapshot) : String × List DetailRow :=
  (titled g "GPU process" (if p.name.isEmpty then g.none else scrubCtrl p.name),
    [.kv "PID" (toString p.pid),
      .kv "Device" (toString p.deviceIndex),
      .kv "Type" (debugKind p.kind),
      .kv "VRAM" (p.memBytes.elim g.none humanBytes)])

end Inspector

end Muxtop.Tui
