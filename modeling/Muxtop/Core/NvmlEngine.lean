import Mathlib.Data.List.Induction
import Muxtop.Core.GpuEngine
import Muxtop.Foundation.Retain

/-!
# The NVML engine

`collect` and `collect_processes` of `muxtop-core/src/nvml_engine.rs`. A device that cannot be read is
skipped, so the devices are numbered as they are read; the processes of a device come from two lists and
are merged by pid, in the order in which the pids are first seen.
-/

namespace Muxtop.Core

/-- The kind of a process that is seen as one kind and then as another. -/
def GpuProcessKind.merge (a b : GpuProcessKind) : GpuProcessKind :=
  if a = b then a
  else
    match a, b with
    | .unknown, b => b
    | a, .unknown => a
    | _, _ => .both

/-- An empty snapshot that says why. -/
def GpusSnapshot.unavailableWith (detail : String) : GpusSnapshot := { unavailable with detail := detail }

/-! ## What the library answers -/

namespace Nvml

inductive UsedGpuMemory
  | unavailable
  | used (bytes : UInt64)
deriving DecidableEq

structure ProcessInfo where
  pid : UInt32
  usedGpuMemory : UsedGpuMemory
deriving DecidableEq

structure Utilization where
  gpu : UInt32
  memory : UInt32

structure MemoryInfo where
  used : UInt64
  total : UInt64

/-- The answers of a device; `none` is a query that failed. -/
structure Device where
  utilizationRates : Option Utilization
  memoryInfo : Option MemoryInfo
  enforcedPowerLimit : Option UInt32
  powerManagementLimit : Option UInt32
  name : Option String
  busId : Option String
  temperature : Option UInt32
  powerUsage : Option UInt32
  graphicsClock : Option UInt32
  memoryClock : Option UInt32
  fanSpeed : Option UInt32
  encoderUtilization : Option UInt32
  decoderUtilization : Option UInt32
  runningComputeProcesses : Option (List ProcessInfo)
  runningGraphicsProcesses : Option (List ProcessInfo)

end Nvml

/-- The library: the number of its devices, and each device that can be read. -/
structure Nvml where
  deviceCount : Except String UInt32
  deviceByIndex : UInt32 → Option Nvml.Device

namespace NvmlEngine

open Nvml (Device)

/-! ## The processes of a device -/

/-- The rows under way: what is known of each pid, and the pids in the order they were seen. -/
structure Merged where
  merged : AList fun _ : UInt32 => GpuProcessKind × Option UInt64 := ∅
  order : List UInt32 := []

def memOf : Nvml.UsedGpuMemory → Option UInt64
  | .unavailable => none
  | .used bytes => some bytes

/-- One process of the list of a kind. The first list that reported a figure keeps it. -/
def absorbProcess (kind : GpuProcessKind) (m : Merged) (info : Nvml.ProcessInfo) : Merged :=
  match m.merged.lookup info.pid with
  | some (k, mem) =>
    { m with merged := m.merged.insert info.pid (k.merge kind, mem.or (memOf info.usedGpuMemory)) }
  | none =>
    { merged := m.merged.insert info.pid (kind, memOf info.usedGpuMemory)
      order := m.order ++ [info.pid] }

def absorb (m : Merged) (procs : List Nvml.ProcessInfo) (kind : GpuProcessKind) : Merged :=
  procs.foldl (absorbProcess kind) m

/-- The rows of a device, the process names left empty. -/
def collectProcesses (device : Device) (deviceIndex : UInt32) : List GpuProcessSnapshot :=
  let m : Merged := {}
  let m := match device.runningComputeProcesses with
    | some procs => absorb m procs .compute
    | none => m
  let m := match device.runningGraphicsProcesses with
    | some procs => absorb m procs .graphics
    | none => m
  m.order.map fun pid =>
    let (kind, memBytes) := (m.merged.lookup pid).getD (.unknown, none)
    { pid, deviceIndex, name := "", kind, memBytes }

/-! ## The devices -/

def toF32 (n : UInt32) : F32 := ⟨n.toFloat32.toBits⟩

/-- Milliwatts as watts. -/
def watts (milliwatts : UInt32) : F32 := ⟨(milliwatts.toFloat32 / 1000).toBits⟩

def deviceSnapshot (driverVersion : Option String) (device : Device) (index : UInt32) :
    GpuDeviceSnapshot where
  index := index
  vendor := .nvidia
  backend := .nvml
  name := device.name.getD ""
  busId := device.busId.getD ""
  driverVersion := driverVersion
  utilizationPct := device.utilizationRates.map (toF32 ·.gpu)
  memUtilizationPct := device.utilizationRates.map (toF32 ·.memory)
  memUsedBytes := device.memoryInfo.map (·.used)
  memTotalBytes := device.memoryInfo.map (·.total)
  temperatureC := device.temperature.map toF32
  powerWatts := device.powerUsage.map watts
  powerLimitWatts := (device.enforcedPowerLimit.or device.powerManagementLimit).map watts
  graphicsClockMhz := device.graphicsClock
  memoryClockMhz := device.memoryClock
  fanPct := device.fanSpeed.map toF32
  encoderPct := device.encoderUtilization.map toF32
  decoderPct := device.decoderUtilization.map toF32
  supportsProcessStats := true

/-- What the loop over the devices has gathered. -/
structure Collected where
  devices : List GpuDeviceSnapshot := []
  processes : List GpuProcessSnapshot := []

/-- One turn of the loop. -/
def collectDevice (nvml : Nvml) (driverVersion : Option String) (c : Collected) (index : ℕ) :
    Collected :=
  match nvml.deviceByIndex (.ofNat index) with
  | none => c
  | some device =>
    let devices := c.devices ++ [deviceSnapshot driverVersion device (.ofNat c.devices.length)]
    let deviceIndex := UInt32.ofNat (devices.length - 1)
    { devices, processes := c.processes ++ collectProcesses device deviceIndex }

def collect (nvml : Nvml) (driverVersion : Option String) : Except GpuError GpusSnapshot :=
  match nvml.deviceCount with
  | .error e => .error (.query ("nvmlDeviceGetCount failed: " ++ e))
  | .ok count =>
    let c := (List.range count.toNat).foldl (collectDevice nvml driverVersion) {}
    if c.devices.isEmpty then
      .ok (.unavailableWith "NVML reported devices but none could be read")
    else
      .ok
        { backends := [.nvml]
          available := true
          devices := c.devices
          processes := c.processes
          detail := "" }

/-! ## What the rows are to be -/

/-- The devices that can be read, in order. -/
def readable (count : UInt32) (deviceByIndex : UInt32 → Option Device) : List Device :=
  (List.range count.toNat).filterMap fun index => deviceByIndex (.ofNat index)

def computeProcesses (device : Device) : List Nvml.ProcessInfo := device.runningComputeProcesses.getD []
def graphicsProcesses (device : Device) : List Nvml.ProcessInfo := device.runningGraphicsProcesses.getD []

/-- The list has the pid. -/
def lists (procs : List Nvml.ProcessInfo) (pid : UInt32) : Bool := procs.any (·.pid == pid)

/-- The kind of a process that is in one of the lists or in both. -/
def kindOf (device : Device) (pid : UInt32) : GpuProcessKind :=
  if lists (computeProcesses device) pid && lists (graphicsProcesses device) pid then .both
  else if lists (computeProcesses device) pid then .compute
  else .graphics

/-- The first figure reported for a process, the compute list first. -/
def firstFigure (device : Device) (pid : UInt32) : Option UInt64 :=
  ((computeProcesses device ++ graphicsProcesses device).filter (·.pid == pid)).findSome?
    fun info => memOf info.usedGpuMemory

/-- The row of a process that runs on the device with this number. -/
def rowOf (device : Device) (i : ℕ) (pid : UInt32) : GpuProcessSnapshot where
  pid := pid
  deviceIndex := .ofNat i
  name := ""
  kind := kindOf device pid
  memBytes := firstFigure device pid

/-- The devices that can be read, numbered in order; for each of them one row for each pid of its lists;
and no other rows. -/
structure Attributed (driverVersion : Option String) (devices : List Device) (snapshot : GpusSnapshot) :
    Prop where
  inOrder : snapshot.devices =
    devices.zipIdx.map fun d => deviceSnapshot driverVersion d.1 (.ofNat d.2)
  indices : snapshot.devices.map (·.index.toNat) = List.range devices.length
  rows : ∀ (i : ℕ) (device : Device), devices[i]? = some device → ∀ pid,
    snapshot.processes.filter (fun p => p.deviceIndex.toNat == i && p.pid == pid) =
      if lists (computeProcesses device ++ graphicsProcesses device) pid then [rowOf device i pid]
      else []
  attached : ∀ p ∈ snapshot.processes, p.deviceIndex.toNat < devices.length

/-! ## The two lists of a device as one -/

/-- A process with the kind of the list it is in. -/
abbrev Tagged := GpuProcessKind × Nvml.ProcessInfo

/-- The processes in the order in which they are absorbed. -/
def tagged (device : Device) : List Tagged :=
  (computeProcesses device).map (Prod.mk .compute) ++ (graphicsProcesses device).map (Prod.mk .graphics)

def mergeAll (xs : List Tagged) : Merged := xs.foldl (fun m x => absorbProcess x.1 m x.2) {}

def seen (xs : List Tagged) (pid : UInt32) : Bool := xs.any (·.2.pid == pid)

def hasKind (xs : List Tagged) (kind : GpuProcessKind) (pid : UInt32) : Bool :=
  xs.any fun x => x.1 == kind && x.2.pid == pid

def kindIn (xs : List Tagged) (pid : UInt32) : GpuProcessKind :=
  if hasKind xs .compute pid && hasKind xs .graphics pid then .both
  else if hasKind xs .compute pid then .compute
  else .graphics

def figureIn (xs : List Tagged) (pid : UInt32) : Option UInt64 :=
  (xs.filter (·.2.pid == pid)).findSome? fun x => memOf x.2.usedGpuMemory

/-- The lists are of these kinds alone. -/
def OfLists (xs : List Tagged) : Prop := ∀ x ∈ xs, x.1 = .compute ∨ x.1 = .graphics

/-- What is gathered from some processes: each pid once, with its kind and its first figure. -/
structure MergesAll (xs : List Tagged) (m : Merged) : Prop where
  nodup : m.order.Nodup
  order : ∀ pid, pid ∈ m.order ↔ seen xs pid = true
  lookup : ∀ pid, m.merged.lookup pid =
    if seen xs pid then some (kindIn xs pid, figureIn xs pid) else none

section

variable {xs : List Tagged} {x : Tagged} {pid : UInt32}

/-- A PID has been seen in a list or in its last entry. -/
theorem seen_concat : seen (xs ++ [x]) pid = (seen xs pid || x.2.pid == pid) := by
  simp [seen]

/-- The same for its kind of work. -/
theorem hasKind_concat (kind : GpuProcessKind) :
    hasKind (xs ++ [x]) kind pid = (hasKind xs kind pid || (x.1 == kind && x.2.pid == pid)) := by
  simp [hasKind]

/-- A PID that has been seen was in one of the two lists. -/
theorem seen_eq (h : OfLists xs) : seen xs pid = (hasKind xs .compute pid || hasKind xs .graphics pid) := by
  induction xs with
  | nil => rfl
  | cons x xs ih =>
    have hx := h x List.mem_cons_self
    have ih := ih fun y hy => h y (List.mem_cons_of_mem _ hy)
    unfold seen hasKind at ih ⊢
    rw [List.any_cons, List.any_cons, List.any_cons, ih]
    obtain hx | hx := hx <;> cases hpid : x.2.pid == pid <;> simp [hx]

/-- A process of another pid changes nothing. -/
theorem kindIn_concat_of_ne (hpid : x.2.pid ≠ pid) : kindIn (xs ++ [x]) pid = kindIn xs pid := by
  simp [kindIn, hasKind_concat, hpid]

/-- Other processes have no say in a figure. -/
theorem figureIn_concat_of_ne (hpid : x.2.pid ≠ pid) : figureIn (xs ++ [x]) pid = figureIn xs pid := by
  simp [figureIn, hpid]

/-- A pid that is new has the kind of its list. -/
theorem kindIn_concat_new (hxs : OfLists xs) (hx : x.1 = .compute ∨ x.1 = .graphics)
    (hnew : seen xs x.2.pid = false) : kindIn (xs ++ [x]) x.2.pid = x.1 := by
  rw [seen_eq hxs, Bool.or_eq_false_iff] at hnew
  obtain hx | hx := hx <;> simp [kindIn, hasKind_concat, hnew, hx]

/-- A pid that was seen before merges the kinds. -/
theorem kindIn_concat_seen (hxs : OfLists xs) (hx : x.1 = .compute ∨ x.1 = .graphics)
    (hold : seen xs x.2.pid = true) :
    kindIn (xs ++ [x]) x.2.pid = (kindIn xs x.2.pid).merge x.1 := by
  rw [seen_eq hxs] at hold
  unfold kindIn
  rw [hasKind_concat, hasKind_concat]
  obtain hx | hx := hx <;> rw [hx] <;>
    cases hc : hasKind xs .compute x.2.pid <;> cases hg : hasKind xs .graphics x.2.pid <;>
    simp_all [GpuProcessKind.merge]

/-- The first figure that is given stands. -/
theorem figureIn_concat : figureIn (xs ++ [x]) x.2.pid =
    (figureIn xs x.2.pid).or (memOf x.2.usedGpuMemory) := by
  simp only [figureIn, List.filter_append, List.findSome?_append]
  simp

/-- Nothing is known of a pid that was not seen. -/
theorem figureIn_of_not_seen (h : seen xs pid = false) : figureIn xs pid = none := by
  rw [seen, List.any_eq_false] at h
  rw [figureIn, List.filter_eq_nil_iff.2 h]
  rfl

/-- The entry of the process is the only one that changes. -/
theorem MergesAll.lookup_insert {m : Merged} (h : MergesAll xs m) (pid : UInt32) :
    (m.merged.insert x.2.pid (kindIn (xs ++ [x]) x.2.pid, figureIn (xs ++ [x]) x.2.pid)).lookup pid =
      if seen (xs ++ [x]) pid then some (kindIn (xs ++ [x]) pid, figureIn (xs ++ [x]) pid) else none := by
  rw [AList.lookup_insert_eq, seen_concat]
  by_cases hpid : pid = x.2.pid
  · subst hpid
    rw [if_pos rfl, beq_self_eq_true, Bool.or_true, if_pos rfl]
  · rw [if_neg hpid, h.lookup, beq_eq_false_iff_ne.2 (Ne.symm hpid), Bool.or_false,
      kindIn_concat_of_ne (Ne.symm hpid), figureIn_concat_of_ne (Ne.symm hpid)]

/-- Absorbing one more process. -/
theorem MergesAll.absorb {m : Merged} (h : MergesAll xs m) (hxs : OfLists xs)
    (hx : x.1 = .compute ∨ x.1 = .graphics) : MergesAll (xs ++ [x]) (absorbProcess x.1 m x.2) := by
  have hlookup := h.lookup x.2.pid
  have hinsert := h.lookup_insert (x := x)
  rw [figureIn_concat] at hinsert
  unfold absorbProcess
  cases hseen : seen xs x.2.pid with
  | true =>
    rw [hseen, if_pos rfl] at hlookup
    rw [kindIn_concat_seen hxs hx hseen] at hinsert
    rw [hlookup]
    refine ⟨h.nodup, fun pid => ?_, hinsert⟩
    rw [h.order, seen_concat, Bool.or_eq_true, beq_iff_eq]
    exact ⟨.inl, fun hpid => hpid.elim id fun hsame => by rw [← hsame]; exact hseen⟩
  | false =>
    rw [hseen, if_neg (by decide)] at hlookup
    rw [kindIn_concat_new hxs hx hseen, figureIn_of_not_seen hseen, Option.none_or] at hinsert
    rw [hlookup]
    -- a pid is in the order only after it was seen
    have hnew : x.2.pid ∉ m.order := fun hmem => by
      rw [h.order, hseen] at hmem
      cases hmem
    refine ⟨List.nodup_append.2 ⟨h.nodup, List.nodup_singleton _, ?_⟩, fun pid => ?_, hinsert⟩
    · rintro pid hpid _ hlast rfl
      rw [List.mem_singleton.1 hlast] at hpid
      exact hnew hpid
    · dsimp only
      rw [List.mem_append, h.order, List.mem_singleton, seen_concat, Bool.or_eq_true, beq_iff_eq,
        eq_comm (a := pid)]

/-- Entry by entry, the rows are those of the entries so far. -/
theorem mergesAll_mergeAll (xs : List Tagged) (h : OfLists xs) : MergesAll xs (mergeAll xs) := by
  induction xs using List.reverseRecOn with
  | nil => exact ⟨List.nodup_nil, fun pid => by simp [mergeAll, seen], fun pid => rfl⟩
  | append_singleton xs x ih =>
    have hxs : OfLists xs := fun y hy => h y (List.mem_append_left _ hy)
    have hx := h x (List.mem_append_right _ (List.mem_singleton_self x))
    have hfold : mergeAll (xs ++ [x]) = absorbProcess x.1 (mergeAll xs) x.2 := by
      simp [mergeAll]
    rw [hfold]
    exact (ih hxs).absorb hxs hx

end

/-! ## One device -/

section

variable (device : Device) (pid : UInt32)

/-- The entries are of the two lists. -/
theorem ofLists_tagged : OfLists (tagged device) := by
  intro x hx
  obtain hx | hx := List.mem_append.1 hx
  · obtain ⟨info, -, rfl⟩ := List.mem_map.1 hx
    exact .inl rfl
  · obtain ⟨info, -, rfl⟩ := List.mem_map.1 hx
    exact .inr rfl

/-- A PID is seen when the library lists it. -/
theorem seen_tagged : seen (tagged device) pid =
    lists (computeProcesses device ++ graphicsProcesses device) pid := by
  simp [seen, tagged, lists, List.any_map, Function.comp_def]

/-- Its kind is that of the lists it is in. -/
theorem kindIn_tagged : kindIn (tagged device) pid = kindOf device pid := by
  have hcompute : hasKind (tagged device) .compute pid = lists (computeProcesses device) pid := by
    simp [hasKind, tagged, lists, List.any_map, Function.comp_def]
  have hgraphics : hasKind (tagged device) .graphics pid = lists (graphicsProcesses device) pid := by
    simp [hasKind, tagged, lists, List.any_map, Function.comp_def]
  rw [kindIn, hcompute, hgraphics, kindOf]

/-- Its figure is the first that the library gives. -/
theorem figureIn_tagged : figureIn (tagged device) pid = firstFigure device pid := by
  simp [figureIn, tagged, firstFigure, List.filter_map, List.findSome?_map, Function.comp_def]

/-- The rows of a device, one for each pid in the order in which the pids were seen. -/
theorem collectProcesses_eq (i : ℕ) : collectProcesses device (.ofNat i) =
    (mergeAll (tagged device)).order.map (rowOf device i) := by
  have hmerge := mergesAll_mergeAll (tagged device) (ofLists_tagged device)
  have hfold : (match device.runningGraphicsProcesses with
      | some procs => absorb (match device.runningComputeProcesses with
          | some procs => absorb {} procs .compute
          | none => {}) procs .graphics
      | none => match device.runningComputeProcesses with
          | some procs => absorb {} procs .compute
          | none => {}) = mergeAll (tagged device) := by
    unfold mergeAll tagged computeProcesses graphicsProcesses absorb
    cases device.runningComputeProcesses <;> cases device.runningGraphicsProcesses <;>
      simp [List.foldl_append, List.foldl_map]
  unfold collectProcesses
  dsimp only
  rw [hfold]
  refine List.map_congr_left fun pid hpid => ?_
  rw [hmerge.lookup, if_pos ((hmerge.order pid).1 hpid), kindIn_tagged, figureIn_tagged]
  rfl

/-- Of the rows of a device, one at most has a given pid. -/
theorem filter_collectProcesses (i : ℕ) :
    (collectProcesses device (.ofNat i)).filter (·.pid == pid) =
      if lists (computeProcesses device ++ graphicsProcesses device) pid then [rowOf device i pid]
      else [] := by
  have hmerge := mergesAll_mergeAll (tagged device) (ofLists_tagged device)
  have hmem := hmerge.order pid
  rw [seen_tagged] at hmem
  have hpids : ((mergeAll (tagged device)).order.filter fun pid' => pid' == pid) =
      if lists (computeProcesses device ++ graphicsProcesses device) pid then [pid] else [] := by
    rw [List.filter_beq, hmerge.nodup.count]
    by_cases hin : pid ∈ (mergeAll (tagged device)).order
    case pos => rw [if_pos hin, if_pos (hmem.1 hin), List.replicate_one]
    case neg => rw [if_neg hin, if_neg fun hlisted => hin (hmem.2 hlisted), List.replicate_zero]
  rw [collectProcesses_eq, List.filter_map]
  change ((mergeAll (tagged device)).order.filter fun pid' => pid' == pid).map (rowOf device i) = _
  rw [hpids]
  split <;> rfl

end

/-! ## The loop over the devices -/

/-- What the loop has gathered from the devices that it could read. -/
def gathered (driverVersion : Option String) (devices : List Device) : Collected where
  devices := devices.zipIdx.map fun d => deviceSnapshot driverVersion d.1 (.ofNat d.2)
  processes := devices.zipIdx.flatMap fun d => collectProcesses d.1 (.ofNat d.2)

/-- One device more has its row and its processes behind the others. -/
theorem gathered_concat (driverVersion : Option String) (devices : List Device) (device : Device) :
    gathered driverVersion (devices ++ [device]) =
      { devices := (gathered driverVersion devices).devices ++
          [deviceSnapshot driverVersion device (.ofNat devices.length)]
        processes := (gathered driverVersion devices).processes ++
          collectProcesses device (.ofNat devices.length) } := by
  simp [gathered, List.zipIdx_append]

/-- The loop gathers the devices that the library has. -/
theorem foldl_collectDevice (nvml : Nvml) (driverVersion : Option String) (indices : List ℕ) :
    indices.foldl (collectDevice nvml driverVersion) {} =
      gathered driverVersion (indices.filterMap fun index => nvml.deviceByIndex (.ofNat index)) := by
  induction indices using List.reverseRecOn with
  | nil => rfl
  | append_singleton indices index ih =>
    rw [List.foldl_append, ih, List.filterMap_append, List.foldl_cons, List.foldl_nil, collectDevice]
    cases hdevice : nvml.deviceByIndex (.ofNat index) with
    | none => simp [hdevice]
    | some device =>
      have hlen : (gathered driverVersion
          (indices.filterMap fun index => nvml.deviceByIndex (.ofNat index))).devices.length =
            (indices.filterMap fun index => nvml.deviceByIndex (.ofNat index)).length := by
        simp [gathered]
      simp [hdevice, gathered_concat, hlen]

/-! ## The snapshot -/

/-- The process of a device names that device. -/
theorem deviceIndex_of_mem {device : Device} {i : ℕ} {p : GpuProcessSnapshot}
    (hp : p ∈ collectProcesses device (.ofNat i)) : p.deviceIndex = .ofNat i := by
  rw [collectProcesses_eq] at hp
  obtain ⟨pid, -, rfl⟩ := List.mem_map.1 hp
  rfl

/-- The numbers of the devices fit 32 bits. -/
theorem toNat_ofNat_of_lt {i n : ℕ} (hi : i < n) (hn : n < 2 ^ 32) : (UInt32.ofNat i).toNat = i := by
  rw [UInt32.toNat_ofNat']
  exact Nat.mod_eq_of_lt (hi.trans hn)

/-- One element of a numbered list picked by its number. -/
theorem flatMap_zipIdx_if {α β : Type} (f : α → List β) (xs : List α) (k i : ℕ) :
    ((xs.zipIdx k).flatMap fun d => if d.2 = k + i then f d.1 else []) = (xs[i]?).elim [] f := by
  induction xs generalizing k i with
  | nil => rfl
  | cons x xs ih =>
    rw [List.zipIdx_cons, List.flatMap_cons]
    cases i with
    | zero =>
      have hrest : ((xs.zipIdx (k + 1)).flatMap fun d => if d.2 = k + 0 then f d.1 else []) = [] := by
        rw [List.flatMap_eq_nil_iff]
        intro d hd
        have hle := (List.mem_zipIdx hd).1
        exact if_neg (by omega)
      rw [hrest, if_pos (Nat.add_zero k).symm, List.append_nil]
      rfl
    | succ i =>
      have hshift := ih (k + 1) i
      rw [show k + 1 + i = k + (i + 1) by omega] at hshift
      rw [if_neg (by omega), hshift, List.nil_append]
      rfl

/-- The rows of one device among those of all. -/
theorem filter_gathered (driverVersion : Option String) (devices : List Device)
    (hlen : devices.length < 2 ^ 32) (i : ℕ) (pid : UInt32) :
    (gathered driverVersion devices).processes.filter
        (fun p => p.deviceIndex.toNat == i && p.pid == pid) =
      (devices[i]?).elim [] fun device =>
        (collectProcesses device (.ofNat i)).filter (·.pid == pid) := by
  -- a device at another position has no process under this number
  have hpick := flatMap_zipIdx_if
    (fun device => (collectProcesses device (.ofNat i)).filter (·.pid == pid)) devices 0 i
  rw [Nat.zero_add] at hpick
  rw [gathered, List.filter_flatMap, ← hpick]
  refine List.flatMap_congr fun d hd => ?_
  have hlt : d.2 < devices.length := by
    have hbound := (List.mem_zipIdx hd).2.1
    omega
  have hindex : ∀ p ∈ collectProcesses d.1 (.ofNat d.2), p.deviceIndex.toNat = d.2 := fun p hp => by
    rw [deviceIndex_of_mem hp, toNat_ofNat_of_lt hlt hlen]
  split
  case isTrue hsame =>
    rw [← hsame]
    refine List.filter_congr fun p hp => ?_
    rw [hindex p hp, beq_self_eq_true, Bool.true_and]
  case isFalse hother =>
    rw [List.filter_eq_nil_iff]
    intro p hp
    rw [hindex p hp, beq_eq_false_iff_ne.2 hother, Bool.false_and]
    decide

/-- So each process is attributed to the device that it was listed for. -/
theorem gathered_attributed (driverVersion : Option String) (devices : List Device)
    (hlen : devices.length < 2 ^ 32) {snapshot : GpusSnapshot}
    (hdevices : snapshot.devices = (gathered driverVersion devices).devices)
    (hprocesses : snapshot.processes = (gathered driverVersion devices).processes) :
    Attributed driverVersion devices snapshot := by
  constructor
  case inOrder => exact hdevices
  case indices =>
    rw [hdevices, gathered, List.map_map]
    -- the numbers that are given out are the positions
    have hnumbers : devices.zipIdx.map Prod.snd = List.range devices.length := by
      rw [List.zipIdx_map_snd, List.range_eq_range']
    rw [← hnumbers]
    refine List.map_congr_left fun d hd => ?_
    have hbound := (List.mem_zipIdx hd).2.1
    exact toNat_ofNat_of_lt (by omega) hlen
  case rows =>
    intro i device hdevice pid
    rw [hprocesses, filter_gathered driverVersion devices hlen, hdevice]
    exact filter_collectProcesses device pid i
  case attached =>
    intro p hp
    rw [hprocesses, gathered, List.mem_flatMap] at hp
    obtain ⟨d, hd, hp⟩ := hp
    have hbound := (List.mem_zipIdx hd).2.1
    rw [deviceIndex_of_mem hp, toNat_ofNat_of_lt (by omega) hlen]
    omega

/-- **NVML collection.** Whichever devices can be read, the snapshot has these in order, and one row for
each process of each of them. -/
theorem collect_attributed (count : UInt32) (deviceByIndex : UInt32 → Option Device)
    (driverVersion : Option String) :
    ∃ snapshot, collect ⟨.ok count, deviceByIndex⟩ driverVersion = .ok snapshot ∧
      Attributed driverVersion (readable count deviceByIndex) snapshot := by
  have hlen : (readable count deviceByIndex).length < 2 ^ 32 := by
    have hle := List.length_filterMap_le (fun index => deviceByIndex (.ofNat index))
      (List.range count.toNat)
    rw [List.length_range] at hle
    exact lt_of_le_of_lt hle count.toNat_lt
  have hfold := foldl_collectDevice ⟨.ok count, deviceByIndex⟩ driverVersion (List.range count.toNat)
  unfold collect
  dsimp only
  rw [hfold]
  change ∃ snapshot, (if (gathered driverVersion (readable count deviceByIndex)).devices.isEmpty then _
    else _) = _ ∧ _
  split
  case isTrue hnone =>
    have hempty : readable count deviceByIndex = [] := by
      simpa [gathered] using hnone
    refine ⟨_, rfl, gathered_attributed driverVersion _ hlen ?_ ?_⟩ <;> rw [hempty] <;> rfl
  case isFalse => exact ⟨_, rfl, gathered_attributed driverVersion _ hlen rfl rfl⟩

end NvmlEngine

end Muxtop.Core
