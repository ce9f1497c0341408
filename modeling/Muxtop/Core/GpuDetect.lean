import Muxtop.Core.AmdEngine
import Muxtop.Core.AppleEngine

/-!
# The GPUs of a host

`detect_gpu_engines` of `muxtop-core/src/gpu_engine.rs`, with the engines that it finds, `NullGpuEngine` and
the `connect`s. Each engine numbers its devices from 0 and reports a process once for a device, which is
what the merge needs; so the snapshot of the host is well formed at every tick, whatever the host answers.
-/

namespace Muxtop.Core

/-! ## The host -/

inductive TargetOs
  | linux | windows | macos
deriving DecidableEq, Repr

/-- What the host answers at a moment. -/
structure GpuHost where
  nvmlInit : Except String Unit
  nvml : Nvml
  sysDriverVersion : Option String
  sysfs : Sysfs
  registry : Apple.Registry
  /-- whether `IOReport` can be opened -/
  sampler : Bool
  sample : Option Apple.Report
  /-- why the blocking task of an engine did not come to its end, if it did not -/
  crashed : GpuBackend → Option String

/-- An engine that was found. -/
inductive GpuSource
  | nvml (driverVersion : Option String)
  | amd (engine : AmdEngine)
  | apple (engine : Apple.Engine)

/-! ## The engines -/

def NvmlEngine.connect (host : GpuHost) : Except GpuError (Option String) :=
  match host.nvmlInit with
  | .error e => .error (.driverUnavailable "NVIDIA" e)
  | .ok () =>
    match host.nvml.deviceCount with
    | .error e => .error (.driverUnavailable "NVIDIA" ("device enumeration failed: " ++ e))
    | .ok count =>
      if count = 0 then .error (.driverUnavailable "NVIDIA" "NVML loaded but reports no devices")
      else .ok host.sysDriverVersion

namespace GpuSource

def backend : GpuSource → GpuBackend
  | .nvml _ => .nvml
  | .amd _ => .amdSysfs
  | .apple _ => .appleIoReport

/-- The text that begins the error of a task that crashed. -/
def taskName : GpuSource → String
  | .nvml _ => "NVML"
  | .amd _ => "AMD sysfs"
  | .apple _ => "Apple GPU"

/-- `GpuEngine::snapshot` -/
def snapshot (host : GpuHost) (source : GpuSource) : Except GpuError GpusSnapshot :=
  match host.crashed source.backend with
  | some e => .error (.query (source.taskName ++ " collection task panicked or was cancelled: " ++ e))
  | none =>
    match source with
    | .nvml driverVersion => NvmlEngine.collect host.nvml driverVersion
    | .amd engine => .ok (AmdEngine.collect host.sysfs engine)
    | .apple engine => .ok (Apple.collect engine host.registry host.sample)

end GpuSource

/-- What detection gives: the engines found, or why there are none. -/
inductive GpuEngine
  | null (detail : String)
  | composite (backends : List GpuSource)

namespace GpuEngine

/-- Keep an engine that was found, or why it was not. -/
def keep {α : Type} (source : α → GpuSource) (probed : List GpuSource × List String) :
    Except GpuError α → List GpuSource × List String
  | .ok engine => (probed.1 ++ [source engine], probed.2)
  | .error err => (probed.1, probed.2 ++ [toString err])

def probePlatformBackends (os : TargetOs) (host : GpuHost) : List GpuSource × List String :=
  match os with
  | .linux =>
    keep .amd (keep .nvml ([], []) (NvmlEngine.connect host)) (AmdEngine.connect host.sysfs)
  | .windows => keep .nvml ([], []) (NvmlEngine.connect host)
  | .macos => keep .apple ([], []) (Apple.connect host.registry host.sampler)

def detectGpuEngines (os : TargetOs) (host : GpuHost) : GpuEngine :=
  let (backends, reasons) := probePlatformBackends os host
  if backends.isEmpty then
    .null (if reasons.isEmpty then "no supported GPU backend on this platform"
      else "; ".intercalate reasons)
  else .composite backends

/-- `GpuEngine::snapshot`, which fails for neither. -/
def snapshot (host : GpuHost) : GpuEngine → GpusSnapshot
  | .null detail => .unavailableWith detail
  | .composite backends => CompositeGpuEngine.snapshot (backends.map (GpuSource.snapshot host))

end GpuEngine

/-! ## Well-formed snapshots -/

/-- The devices are numbered in order, their kinds are told, and a row of a process is the only one of its
process and its device, which is there and accounts for processes. -/
structure GpusSnapshot.WellFormed (s : GpusSnapshot) : Prop where
  indices : s.devices.map (·.index.toNat) = List.range s.devices.length
  attached : ∀ p ∈ s.processes, ∃ d ∈ s.devices, d.index = p.deviceIndex ∧ d.supportsProcessStats = true
  unique : (s.processes.map fun p => (p.deviceIndex, p.pid)).Nodup
  nodup : s.backends.Nodup
  backends : ∀ d ∈ s.devices, d.backend ∈ s.backends

namespace GpusSnapshot.WellFormed

variable {s : GpusSnapshot}

/-- A device stands at its index. -/
theorem getElem?_of_index (h : s.WellFormed) {d : GpuDeviceSnapshot} (hd : d ∈ s.devices) :
    s.devices[d.index.toNat]? = some d := by
  obtain ⟨i, hi⟩ := List.getElem?_of_mem hd
  have hindex : (s.devices.map (·.index.toNat))[i]? = some d.index.toNat := by
    rw [List.getElem?_map, hi]
    rfl
  rw [h.indices] at hindex
  have hlt := (List.getElem?_eq_some_iff.1 hi).1
  rw [List.getElem?_range hlt] at hindex
  rw [← Option.some.inj hindex, hi]

/-- A well-formed snapshot is numbered. -/
theorem numbered (h : s.WellFormed) : CompositeGpuEngine.Numbered s := by
  refine ⟨h.indices, fun p hp => ?_⟩
  obtain ⟨d, hd, hindex, -⟩ := h.attached p hp
  rw [← hindex]
  exact (List.getElem?_eq_some_iff.1 (h.getElem?_of_index hd)).1

end GpusSnapshot.WellFormed

namespace CompositeGpuEngine

variable {s : GpusSnapshot} {m : Merge}

/-- A snapshot without devices is well formed. -/
theorem wellFormed_unavailable : GpusSnapshot.unavailable.WellFormed where
  indices := rfl
  attached := fun _ hp => absurd hp List.not_mem_nil
  unique := List.nodup_nil
  nodup := List.nodup_nil
  backends := fun _ hd => absurd hd List.not_mem_nil

/-- What a turn of the loop makes of a backend that is available. -/
theorem absorb_lists (m : Merge) (havailable : s.available = true) :
    (absorb m (.ok s)).merged.devices = m.merged.devices ++
        s.devices.map (fun d => { d with index := UInt32.ofNat m.merged.devices.length + d.index }) ∧
      (absorb m (.ok s)).merged.processes = m.merged.processes ++
        s.processes.map (fun p =>
          { p with deviceIndex := p.deviceIndex + UInt32.ofNat m.merged.devices.length }) ∧
      (absorb m (.ok s)).merged.backends = s.backends.foldl pushDistinct m.merged.backends := by
  simp [absorb, havailable]

/-- A turn of the loop keeps the merge well formed. -/
theorem wellFormed_absorb (h : m.merged.WellFormed) (hs : s.WellFormed) (havailable : s.available = true)
    (hfits : m.merged.devices.length + s.devices.length ≤ 2 ^ 32) :
    (absorb m (.ok s)).merged.WellFormed := by
  obtain ⟨hdevices, hprocesses, hbackends⟩ := absorb_lists m havailable
  obtain ⟨hnodup, hmem⟩ := foldl_pushDistinct s.backends h.nodup
  constructor
  case indices =>
    have hnew : (s.devices.map fun d => (UInt32.ofNat m.merged.devices.length + d.index).toNat) =
        (List.range s.devices.length).map (m.merged.devices.length + ·) := by
      rw [← hs.indices, List.map_map]
      exact List.map_congr_left fun d hd => toNat_offset_add (hs.numbered.index_lt hd) hfits
    rw [hdevices, List.map_append, h.indices, List.map_map, List.length_append, List.length_map,
      List.range_add]
    exact congrArg _ hnew
  case attached =>
    intro p hp
    rw [hprocesses, List.mem_append] at hp
    rw [hdevices]
    rcases hp with hp | hp
    · obtain ⟨d, hd, hindex⟩ := h.attached p hp
      exact ⟨d, List.mem_append_left _ hd, hindex⟩
    · obtain ⟨p₀, hp₀, rfl⟩ := List.mem_map.1 hp
      obtain ⟨d, hd, hindex, hstats⟩ := hs.attached p₀ hp₀
      refine ⟨_, List.mem_append_right _ (List.mem_map_of_mem hd), ?_, hstats⟩
      show _ + d.index = p₀.deviceIndex + _
      rw [hindex, UInt32.add_comm]
  case unique =>
    rw [hprocesses, List.map_append, List.map_map, List.nodup_append]
    refine ⟨h.unique, ?_, ?_⟩
    · have hmoved := hs.unique.map (f := fun key : UInt32 × UInt32 =>
        (key.1 + UInt32.ofNat m.merged.devices.length, key.2)) (by
          rintro ⟨i, pid⟩ ⟨i', pid'⟩ hsame
          have hpid : pid = pid' := congrArg Prod.snd hsame
          have hindex : i = i' := (UInt32.add_left_inj _).1 (congrArg Prod.fst hsame)
          rw [hpid, hindex])
      rwa [List.map_map] at hmoved
    · -- the devices before have smaller numbers
      rintro key hkey _ hkey' rfl
      obtain ⟨p, hp, rfl⟩ := List.mem_map.1 hkey
      obtain ⟨p', hp', hsame⟩ := List.mem_map.1 hkey'
      have hold := h.numbered.2 p hp
      have hnew := toNat_offset_add (hs.numbered.2 p' hp') hfits
      have hindex : p'.deviceIndex + UInt32.ofNat m.merged.devices.length = p.deviceIndex :=
        congrArg Prod.fst hsame
      rw [UInt32.add_comm, hindex] at hnew
      omega
  case nodup => rwa [hbackends]
  case backends =>
    intro d hd
    rw [hdevices, List.mem_append] at hd
    rw [hbackends, hmem]
    rcases hd with hd | hd
    · exact .inl (h.backends d hd)
    · obtain ⟨d₀, hd₀, rfl⟩ := List.mem_map.1 hd
      exact .inr (hs.backends d₀ hd₀)

/-- Absorbing well-formed snapshots makes one, if the numbers suffice. -/
theorem wellFormed_foldl (answers : List Answer) (h : m.merged.WellFormed)
    (hcontributors : ∀ s ∈ contributors answers, s.WellFormed)
    (hfits : m.merged.devices.length + ((contributors answers).flatMap (·.devices)).length ≤ 2 ^ 32) :
    (answers.foldl absorb m).merged.WellFormed := by
  induction answers generalizing m with
  | nil => exact h
  | cons answer rest ih =>
    cases hanswer : contribution answer with
    | none =>
      have hrest : contributors (answer :: rest) = contributors rest := List.filterMap_cons_none hanswer
      rw [hrest] at hcontributors hfits
      rw [List.foldl_cons, absorb_of_contribution_none hanswer]
      exact ih h hcontributors hfits
    | some s =>
      have hrest : contributors (answer :: rest) = s :: contributors rest :=
        List.filterMap_cons_some hanswer
      rw [hrest, List.flatMap_cons, List.length_append] at hfits
      rw [hrest] at hcontributors
      obtain ⟨rfl, havailable⟩ := contribution_eq_some hanswer
      have hstep := wellFormed_absorb h (hcontributors s List.mem_cons_self) havailable (by omega)
      refine ih hstep (fun s' hs' => hcontributors s' (List.mem_cons_of_mem s hs')) ?_
      rw [(absorb_lists m havailable).1, List.length_append, List.length_map]
      omega

/-- So the merged snapshot is well formed. -/
theorem wellFormed_snapshot (answers : List Answer) (hcontributors : ∀ s ∈ contributors answers, s.WellFormed)
    (hfits : ((contributors answers).flatMap (·.devices)).length ≤ 2 ^ 32) :
    (snapshot answers).WellFormed := by
  have hmerged := wellFormed_foldl (m := ⟨.unavailable, []⟩) answers wellFormed_unavailable hcontributors
    (by simpa [GpusSnapshot.unavailable] using hfits)
  obtain ⟨hdevices, hprocesses, hbackends⟩ := snapshot_lists answers
  constructor
  case indices => rw [hdevices]; exact hmerged.indices
  case attached => rw [hdevices, hprocesses]; exact hmerged.attached
  case unique => rw [hprocesses]; exact hmerged.unique
  case nodup => rw [hbackends]; exact hmerged.nodup
  case backends => rw [hdevices, hbackends]; exact hmerged.backends

end CompositeGpuEngine

/-! ## What the engines report -/

/-- The numbers of so many devices fit 32 bits. -/
theorem toNat_ofNat_zipIdx {α : Type} {xs : List α} (hlen : xs.length ≤ 2 ^ 32) {x : α × ℕ}
    (hx : x ∈ xs.zipIdx) : (UInt32.ofNat x.2).toNat = x.2 := by
  have hbound := (List.mem_zipIdx hx).2.1
  rw [UInt32.toNat_ofNat']
  exact Nat.mod_eq_of_lt (by omega)

/-- Devices that are numbered by their places, if there are any, and no processes. -/
theorem wellFormed_of_zipIdx {α : Type} {xs : List α} {build : α × ℕ → GpuDeviceSnapshot} {kind : GpuBackend}
    {reason : String} {s : GpusSnapshot}
    (h : s = if (xs.zipIdx.map build).isEmpty then .unavailableWith reason
      else ⟨[kind], true, xs.zipIdx.map build, [], ""⟩)
    (hindex : ∀ x, (build x).index = .ofNat x.2) (hkind : ∀ x, (build x).backend = kind)
    (havailable : s.available = true) (hfits : s.devices.length ≤ 2 ^ 32) : s.WellFormed := by
  split_ifs at h
  · subst h
    cases havailable
  subst h
  have hlen : xs.length ≤ 2 ^ 32 := by
    rwa [List.length_map, List.length_zipIdx] at hfits
  constructor
  -- the numbers that are given out are the positions
  case indices =>
    have hnumbers : xs.zipIdx.map Prod.snd = List.range xs.length := by
      rw [List.zipIdx_map_snd, List.range_eq_range']
    rw [List.map_map, List.length_map, List.length_zipIdx, ← hnumbers]
    refine List.map_congr_left fun x hx => ?_
    show (build x).index.toNat = x.2
    rw [hindex, toNat_ofNat_zipIdx hlen hx]
  case attached => exact fun _ hp => absurd hp List.not_mem_nil
  case unique => exact List.nodup_nil
  case nodup => exact List.nodup_singleton kind
  case backends =>
    intro d hd
    obtain ⟨x, -, rfl⟩ := List.mem_map.1 hd
    rw [hkind]
    exact List.mem_singleton_self kind

namespace NvmlEngine

open Nvml (Device)

variable {driverVersion : Option String} {devices : List Device} {s : GpusSnapshot}

/-- No device lists a process in two rows. -/
theorem Attributed.unique (h : Attributed driverVersion devices s) :
    (s.processes.map fun p => (p.deviceIndex, p.pid)).Nodup := by
  rw [List.nodup_iff_count_le_one]
  rintro ⟨index, pid⟩
  -- a pair occurs as often as there are rows of that device and that process
  have hcount : (s.processes.map fun p => (p.deviceIndex, p.pid)).count (index, pid) =
      (s.processes.filter fun p => p.deviceIndex.toNat == index.toNat && p.pid == pid).length := by
    rw [List.count, List.countP_map, List.countP_eq_length_filter]
    refine congrArg _ (List.filter_congr fun p _ => ?_)
    rw [Bool.eq_iff_iff]
    simp [Prod.ext_iff, UInt32.toNat_inj]
  rw [hcount]
  rcases hdevice : devices[index.toNat]? with _ | device
  · have hnone : s.processes.filter (fun p => p.deviceIndex.toNat == index.toNat && p.pid == pid) = [] := by
      rw [List.filter_eq_nil_iff]
      intro p hp hrow
      have hlt := h.attached p hp
      have hindex : p.deviceIndex.toNat = index.toNat := by
        simp only [Bool.and_eq_true, beq_iff_eq] at hrow
        exact hrow.1
      rw [List.getElem?_eq_none_iff] at hdevice
      omega
    rw [hnone]
    exact Nat.zero_le 1
  · rw [h.rows index.toNat device hdevice pid]
    split_ifs
    · exact Nat.le_refl 1
    · exact Nat.zero_le 1

/-- Devices with their processes attributed are well formed. -/
theorem wellFormed_of_attributed (h : Attributed driverVersion devices s) (hbackends : s.backends = [.nvml]) :
    s.WellFormed := by
  have hlen : s.devices.length = devices.length := by
    rw [h.inOrder, List.length_map, List.length_zipIdx]
  constructor
  case indices => rw [h.indices, hlen]
  case attached =>
    intro p hp
    have hlt : p.deviceIndex.toNat < s.devices.length := hlen ▸ h.attached p hp
    obtain ⟨d, hd⟩ : ∃ d, s.devices[p.deviceIndex.toNat]? = some d := ⟨_, List.getElem?_eq_getElem hlt⟩
    refine ⟨d, List.mem_of_getElem? hd, ?_, ?_⟩
    -- the device at a position has it for its number
    · have hindex : (s.devices.map (·.index.toNat))[p.deviceIndex.toNat]? = some d.index.toNat := by
        rw [List.getElem?_map, hd]
        rfl
      rw [h.indices, List.getElem?_range (h.attached p hp)] at hindex
      exact UInt32.toNat_inj.1 (Option.some.inj hindex).symm
    · have hmem := List.mem_of_getElem? hd
      rw [h.inOrder] at hmem
      obtain ⟨x, -, rfl⟩ := List.mem_map.1 hmem
      rfl
  case unique => exact h.unique
  case nodup =>
    rw [hbackends]
    exact List.nodup_singleton _
  case backends =>
    intro d hd
    rw [h.inOrder] at hd
    obtain ⟨x, -, rfl⟩ := List.mem_map.1 hd
    rw [hbackends]
    exact List.mem_singleton_self _

/-- So is what the library is asked for. -/
theorem wellFormed_collect {nvml : Nvml} (h : collect nvml driverVersion = .ok s)
    (havailable : s.available = true) : s.WellFormed := by
  unfold collect at h
  rcases hcount : nvml.deviceCount with e | count
  · rw [hcount] at h
    cases h
  rw [hcount] at h
  dsimp only at h
  rw [foldl_collectDevice] at h
  split_ifs at h with hempty
  · cases h
    cases havailable
  · have hlen : (readable count nvml.deviceByIndex).length < 2 ^ 32 := by
      have hle := List.length_filterMap_le (fun index => nvml.deviceByIndex (.ofNat index))
        (List.range count.toNat)
      rw [List.length_range] at hle
      exact lt_of_le_of_lt hle count.toNat_lt
    have hattributed := @gathered_attributed driverVersion (readable count nvml.deviceByIndex) hlen s
    cases h
    exact wellFormed_of_attributed (hattributed rfl rfl) rfl

end NvmlEngine

/-- What an engine reports is well formed. -/
theorem GpuSource.wellFormed_snapshot {host : GpuHost} {source : GpuSource} {s : GpusSnapshot}
    (h : source.snapshot host = .ok s) (havailable : s.available = true)
    (hfits : s.devices.length ≤ 2 ^ 32) : s.WellFormed := by
  unfold snapshot at h
  split at h
  · cases h
  cases source with
  | nvml driverVersion => exact NvmlEngine.wellFormed_collect h havailable
  | amd engine =>
    exact wellFormed_of_zipIdx (Except.ok.inj h).symm (fun _ => rfl) (fun _ => rfl) havailable hfits
  | apple engine =>
    exact wellFormed_of_zipIdx (Except.ok.inj h).symm (fun _ => rfl) (fun _ => rfl) havailable hfits

/-! ## The snapshot of the host -/

namespace CompositeGpuEngine

/-- Absorbing adds as many devices as contribute. -/
theorem length_foldl_absorb (answers : List Answer) (m : Merge) :
    (answers.foldl absorb m).merged.devices.length =
      m.merged.devices.length + ((contributors answers).flatMap (·.devices)).length := by
  induction answers generalizing m with
  | nil => rfl
  | cons answer rest ih =>
    rw [List.foldl_cons, ih]
    cases hanswer : contribution answer with
    | none =>
      have hrest : contributors (answer :: rest) = contributors rest := List.filterMap_cons_none hanswer
      rw [absorb_of_contribution_none hanswer, hrest]
    | some s =>
      have hrest : contributors (answer :: rest) = s :: contributors rest :=
        List.filterMap_cons_some hanswer
      obtain ⟨rfl, havailable⟩ := contribution_eq_some hanswer
      rw [(absorb_lists m havailable).1, hrest, List.flatMap_cons, List.length_append, List.length_append,
        List.length_map]
      omega

/-- The merged snapshot has as many devices as its contributors. -/
theorem length_devices (answers : List Answer) :
    (snapshot answers).devices.length = ((contributors answers).flatMap (·.devices)).length := by
  rw [(snapshot_lists answers).1, length_foldl_absorb]
  exact Nat.zero_add _

/-- No contributor has more. -/
theorem length_le_of_mem {snapshots : List GpusSnapshot} {s : GpusSnapshot} (hs : s ∈ snapshots) :
    s.devices.length ≤ (snapshots.flatMap (·.devices)).length := by
  obtain ⟨before, after, rfl⟩ := List.append_of_mem hs
  rw [List.flatMap_append, List.flatMap_cons, List.length_append, List.length_append]
  omega

end CompositeGpuEngine

/-- **The GPUs of a host are well formed at every tick.** Whatever the host answers at detection and at a
tick, the snapshot numbers the devices in order, tells their kinds, and has no row of a process but on a
device that accounts for processes, and no two rows for one process on one device; as long as 32 bits
number the devices. -/
theorem wellFormed_host (os : TargetOs) (detected host : GpuHost)
    (hfits : ((GpuEngine.detectGpuEngines os detected).snapshot host).devices.length ≤ 2 ^ 32) :
    ((GpuEngine.detectGpuEngines os detected).snapshot host).WellFormed := by
  generalize GpuEngine.detectGpuEngines os detected = engine at hfits ⊢
  rcases engine with detail | backends
  · constructor
    case indices => rfl
    case attached => exact fun _ hp => absurd hp List.not_mem_nil
    case unique => exact List.nodup_nil
    case nodup => exact List.nodup_nil
    case backends => exact fun _ hd => absurd hd List.not_mem_nil
  · change (CompositeGpuEngine.snapshot _).devices.length ≤ _ at hfits
    rw [CompositeGpuEngine.length_devices] at hfits
    refine CompositeGpuEngine.wellFormed_snapshot _ ?_ hfits
    intro s hs
    obtain ⟨answer, hanswer, hcontribution⟩ := List.mem_filterMap.1 hs
    obtain ⟨rfl, havailable⟩ := CompositeGpuEngine.contribution_eq_some hcontribution
    obtain ⟨source, -, hsource⟩ := List.mem_map.1 hanswer
    exact source.wellFormed_snapshot hsource havailable
      ((CompositeGpuEngine.length_le_of_mem hs).trans hfits)

/-- A laptop with a GPU of either vendor. -/
def laptop : GpuHost where
  nvmlInit := .ok ()
  nvml :=
    { deviceCount := .ok 1
      deviceByIndex := fun _ => some
        { utilizationRates := none, memoryInfo := none, enforcedPowerLimit := none
          powerManagementLimit := none, name := some "RTX 4060", busId := none, temperature := none
          powerUsage := none, graphicsClock := none, memoryClock := none, fanSpeed := none
          encoderUtilization := none, decoderUtilization := none
          runningComputeProcesses := some [⟨42, .used 1024⟩], runningGraphicsProcesses := none } }
  sysDriverVersion := none
  sysfs :=
    { readToString := fun path =>
        if path = AmdEngine.drmRoot ++ ["card1", "device", "vendor"] then some "0x1002\n" else none
      readDir := fun path => if path = AmdEngine.drmRoot then some ["card1-eDP-1", "card1"] else none }
  registry := ⟨[], none, none⟩
  sampler := false
  sample := none
  crashed := fun _ => none

/-- A laptop with two devices on it. -/
theorem wellFormed_host_laptop :
    ((GpuEngine.detectGpuEngines .linux laptop).snapshot laptop).devices.length = 2 ∧
      ((GpuEngine.detectGpuEngines .linux laptop).snapshot laptop).WellFormed := by
  have hlen : ((GpuEngine.detectGpuEngines .linux laptop).snapshot laptop).devices.length = 2 := by
    decide +kernel
  exact ⟨hlen, wellFormed_host .linux laptop laptop (by rw [hlen]; decide)⟩

end Muxtop.Core
