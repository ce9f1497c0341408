import Muxtop.Tui.Draw

/-!
# The tables of the GPU tab

Reference: `muxtop-tui/src/ui/gpu.rs`.

The source sorts references into the snapshot. A reference is kept here as what it refers to and its
position, so that two devices of one name stay apart.
-/

namespace Muxtop.Tui

open Muxtop.Core StableSort
open Text (Lowercase)

/-- A reference to a device of a snapshot, with its position. -/
abbrev GpuDeviceRef := GpuDeviceSnapshot × ℕ

/-- A reference to a GPU process of a snapshot, with its position. -/
abbrev GpuProcessRef := GpuProcessSnapshot × ℕ

/-! ## Sorting -/

/-- Hundredths of a metric, 0 for NaN. -/
def f32Key (v : F32) : ℤ := (Float32.ofBits v.bits * 100.0).toInt64.toInt

/-- Whether the device cannot report the metric being sorted on. -/
def metricMissing (d : GpuDeviceSnapshot) : GpuSortField → Bool
  | .deviceUtil => d.utilizationPct.isNone
  | .deviceMem => d.memUsedBytes.isNone
  | .deviceTemp => d.temperatureC.isNone
  | .devicePower => d.powerWatts.isNone
  | _ => false

/-- Whether a device column ascends unless it is reversed. -/
def deviceNaturalAscending : GpuSortField → Bool
  | .deviceIndex | .deviceName => true
  | _ => false

def sortDevices (devices : List GpuDeviceRef) (field : GpuSortField) (order : SortOrder) :
    List GpuDeviceRef :=
  let sorted (reported : List GpuDeviceRef) : List GpuDeviceRef :=
    match field with
    | .deviceName => sortByKey (fun d => d.1.name) reported
    | .deviceUtil => sortByKeyRev (fun d => f32Key (d.1.utilizationPct.getD ⟨0⟩)) reported
    | .deviceMem => sortByKeyRev (fun d => d.1.memUsedBytes.getD 0) reported
    | .deviceTemp => sortByKeyRev (fun d => f32Key (d.1.temperatureC.getD ⟨0⟩)) reported
    | .devicePower => sortByKeyRev (fun d => f32Key (d.1.powerWatts.getD ⟨0⟩)) reported
    | _ => sortByKey (fun d => d.1.index) reported
  parkMissing (fun d => metricMissing d.1 field)
    (fun reported => reverseIf (decide (order = .asc) != deviceNaturalAscending field) (sorted reported))
    devices

/-- Whether the memory of the process is sorted on and not known. -/
def allocationMissing (p : GpuProcessSnapshot) (field : GpuSortField) : Bool :=
  decide (field = .procMem) && p.memBytes.isNone

def sortProcs (procs : List GpuProcessRef) (field : GpuSortField) (order : SortOrder) :
    List GpuProcessRef :=
  let sorted (reported : List GpuProcessRef) : List GpuProcessRef :=
    match field with
    | .procPid => sortByKey (fun p => p.1.pid) reported
    | .procName => sortByKey (fun p => p.1.name) reported
    | .procDevice =>
      sortBy (fun a b => (compare a.1.deviceIndex b.1.deviceIndex).then (compare a.1.pid b.1.pid)) reported
    | _ => sortByKeyRev (fun p => p.1.memBytes.getD 0) reported
  parkMissing (fun p => allocationMissing p.1 field)
    (fun reported => reverseIf (decide (order = .asc) != !decide (field = .procMem)) (sorted reported))
    procs

/-! ## The order of the tables -/

/-- What `sort_devices` compares the devices that report the metric by. -/
def deviceCmp (field : GpuSortField) (a b : GpuDeviceRef) : Ordering :=
  match field with
  | .deviceName => compare a.1.name b.1.name
  | .deviceUtil => compare (f32Key (b.1.utilizationPct.getD ⟨0⟩)) (f32Key (a.1.utilizationPct.getD ⟨0⟩))
  | .deviceMem => compare (b.1.memUsedBytes.getD 0) (a.1.memUsedBytes.getD 0)
  | .deviceTemp => compare (f32Key (b.1.temperatureC.getD ⟨0⟩)) (f32Key (a.1.temperatureC.getD ⟨0⟩))
  | .devicePower => compare (f32Key (b.1.powerWatts.getD ⟨0⟩)) (f32Key (a.1.powerWatts.getD ⟨0⟩))
  | _ => compare a.1.index b.1.index

/-- What `sort_procs` compares the processes with a known allocation by. -/
def procCmp (field : GpuSortField) (a b : GpuProcessRef) : Ordering :=
  match field with
  | .procPid => compare a.1.pid b.1.pid
  | .procName => compare a.1.name b.1.name
  | .procDevice => (compare a.1.deviceIndex b.1.deviceIndex).then (compare a.1.pid b.1.pid)
  | _ => compare (b.1.memBytes.getD 0) (a.1.memBytes.getD 0)

/-- Devices are sorted by the column, those without a figure parked at the end. -/
theorem sortDevices_eq (devices : List GpuDeviceRef) (field : GpuSortField) (order : SortOrder) :
    sortDevices devices field order =
      parkedSort (fun d => metricMissing d.1 field)
        (decide (order = .asc) != deviceNaturalAscending field) (deviceCmp field) devices := by
  cases field <;> rfl

/-- So are processes, those without an allocation parked. -/
theorem sortProcs_eq (procs : List GpuProcessRef) (field : GpuSortField) (order : SortOrder) :
    sortProcs procs field order =
      parkedSort (fun p => allocationMissing p.1 field)
        (decide (order = .asc) != !decide (field = .procMem)) (procCmp field) procs := by
  cases field <;> rfl

instance (field : GpuSortField) : Std.TransCmp (deviceCmp field) := by
  cases field
  case deviceName => exact transCmp_on compare fun d : GpuDeviceRef => d.1.name
  case deviceUtil => exact transCmp_keyRev fun d : GpuDeviceRef => f32Key (d.1.utilizationPct.getD ⟨0⟩)
  case deviceMem => exact transCmp_keyRev fun d : GpuDeviceRef => d.1.memUsedBytes.getD 0
  case deviceTemp => exact transCmp_keyRev fun d : GpuDeviceRef => f32Key (d.1.temperatureC.getD ⟨0⟩)
  case devicePower => exact transCmp_keyRev fun d : GpuDeviceRef => f32Key (d.1.powerWatts.getD ⟨0⟩)
  all_goals exact transCmp_on compare fun d : GpuDeviceRef => d.1.index

instance (field : GpuSortField) : Std.TransCmp (procCmp field) := by
  cases field
  case procPid => exact transCmp_on compare fun p : GpuProcessRef => p.1.pid
  case procName => exact transCmp_on compare fun p : GpuProcessRef => p.1.name
  case procDevice =>
    exact inferInstanceAs (Std.TransCmp (compareLex (compareOn fun p : GpuProcessRef => p.1.deviceIndex)
      (compareOn fun p : GpuProcessRef => p.1.pid)))
  all_goals exact transCmp_keyRev fun p : GpuProcessRef => p.1.memBytes.getD 0

variable {field : GpuSortField} {order : SortOrder}

/-- Whether the table draws a device above another. Those that cannot report the metric come last, in the
order of the snapshot. -/
def DeviceAbove (field : GpuSortField) (order : SortOrder) : GpuDeviceRef → GpuDeviceRef → Prop :=
  SortedParked (fun d => metricMissing d.1 field)
    (decide (order = .asc) != deviceNaturalAscending field) (deviceCmp field) Earlier

/-- Whether the table draws a process above another. -/
def ProcAbove (field : GpuSortField) (order : SortOrder) : GpuProcessRef → GpuProcessRef → Prop :=
  SortedParked (fun p => allocationMissing p.1 field)
    (decide (order = .asc) != !decide (field = .procMem)) (procCmp field) Earlier

instance : DecidableRel (DeviceAbove field order) := inferInstanceAs (DecidableRel (SortedParked _ _ _ _))
instance : DecidableRel (ProcAbove field order) := inferInstanceAs (DecidableRel (SortedParked _ _ _ _))

/-- No two devices stand above each other. -/
theorem not_deviceAbove_of_deviceAbove (a b : GpuDeviceRef) (h : DeviceAbove field order a b) :
    ¬ DeviceAbove field order b a :=
  not_sortedParked_of_sortedParked not_earlier_of_earlier a b h

/-- Nor do two processes. -/
theorem not_procAbove_of_procAbove (a b : GpuProcessRef) (h : ProcAbove field order a b) :
    ¬ ProcAbove field order b a :=
  not_sortedParked_of_sortedParked not_earlier_of_earlier a b h

/-- A sort shows each device once, -/
theorem sortDevices_perm (devices : List GpuDeviceRef) (field : GpuSortField) (order : SortOrder) :
    (sortDevices devices field order).Perm devices := by
  rw [sortDevices_eq]
  exact parkedSort_perm _ _ _ devices

/-- and each process. -/
theorem sortProcs_perm (procs : List GpuProcessRef) (field : GpuSortField) (order : SortOrder) :
    (sortProcs procs field order).Perm procs := by
  rw [sortProcs_eq]
  exact parkedSort_perm _ _ _ procs

/-- The devices stand in the order that the sort has. -/
theorem pairwise_sortDevices {devices : List GpuDeviceRef} (h : devices.Pairwise Earlier)
    (field : GpuSortField) (order : SortOrder) :
    (sortDevices devices field order).Pairwise (DeviceAbove field order) := by
  rw [sortDevices_eq]
  exact pairwise_parkedSort _ _ h

/-- So do the processes. -/
theorem pairwise_sortProcs {procs : List GpuProcessRef} (h : procs.Pairwise Earlier)
    (field : GpuSortField) (order : SortOrder) :
    (sortProcs procs field order).Pairwise (ProcAbove field order) := by
  rw [sortProcs_eq]
  exact pairwise_parkedSort _ _ h

/-! ## What the tab shows -/

/-- The devices that the table keeps, by name and vendor. -/
def keptDevices (lower : Lowercase) (snap : GpusSnapshot) (filter : String) : List GpuDeviceRef :=
  let f := lower.toLowercase filter
  snap.devices.zipIdx.filter fun d =>
    f.isEmpty || Text.contains (lower.toLowercase d.1.name) f ||
      Text.contains (lower.toLowercase (gpuVendorLabel d.1.vendor)) f

/-- The processes that the table keeps, by name. -/
def keptProcs (lower : Lowercase) (snap : GpusSnapshot) (filter : String) : List GpuProcessRef :=
  let f := lower.toLowercase filter
  snap.processes.zipIdx.filter fun p => f.isEmpty || Text.contains (lower.toLowercase p.1.name) f

namespace Views

variable (lib : Lib) (v : Views)

/-- The rows of `draw_devices`; none while the tab explains itself instead. -/
def deviceTable : List GpuDeviceRef :=
  match v.lastSnapshot.bind (·.gpu) with
  | none => []
  | some snap =>
    if !snap.available then []
    else sortDevices (keptDevices lib.lower snap v.gpuFilterInput) v.gpuSortField v.gpuSortOrder

/-- The rows of `draw_procs`; none where no backend reports processes. -/
def procTable : List GpuProcessRef :=
  match v.lastSnapshot.bind (·.gpu) with
  | none => []
  | some snap =>
    if !snap.available then []
    else if snap.processes.isEmpty && !snap.devices.any (·.supportsProcessStats) then []
    else sortProcs (keptProcs lib.lower snap v.gpuFilterInput) v.gpuSortField v.gpuSortOrder

/-- The device whose name `selected_gpu_name` returns. -/
def copiedDevice : Option GpuDeviceRef := do
  let snap ← v.lastSnapshot.bind (·.gpu)
  let f := lib.lower.toLowercase v.gpuFilterInput
  (snap.devices.zipIdx.filter fun d =>
    f.isEmpty || Text.contains (lib.lower.toLowercase d.1.name) f)[v.gpuSelected]?

/-- The process whose PID `selected_gpu_name` returns. -/
def copiedProc : Option GpuProcessRef := do
  let snap ← v.lastSnapshot.bind (·.gpu)
  let f := lib.lower.toLowercase v.gpuFilterInput
  (snap.processes.zipIdx.filter fun p =>
    f.isEmpty || Text.contains (lib.lower.toLowercase p.1.name) f)[v.gpuSelected]?

/-- The device that `gpu_details` shows. -/
def inspectedDevice : Option GpuDeviceRef := do
  let snap ← v.lastSnapshot.bind (·.gpu)
  let f := lib.lower.toLowercase v.gpuFilterInput
  (snap.devices.zipIdx.filter fun d =>
    f.isEmpty || Text.contains (lib.lower.toLowercase d.1.name) f)[v.gpuSelected]?

/-- The process that `gpu_details` shows. -/
def inspectedProc : Option GpuProcessRef := do
  let snap ← v.lastSnapshot.bind (·.gpu)
  let f := lib.lower.toLowercase v.gpuFilterInput
  (snap.processes.zipIdx.filter fun p =>
    f.isEmpty || Text.contains (lib.lower.toLowercase p.1.name) f)[v.gpuSelected]?

end Views

end Muxtop.Tui
