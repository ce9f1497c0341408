import Muxtop.Core.AppleMetrics
import Muxtop.Core.NvmlEngine
import Muxtop.Foundation.FloatArith

/-!
# The Apple engine

`AppleEngine::connect`, `Inner::collect` and `build_device` of `muxtop-core/src/apple/engine.rs`, with the
derivations of `apple/metrics.rs` that they use. What the IORegistry and `IOReport` give is data here.
-/

namespace Muxtop.Core.Apple

/-- A node of the IORegistry. -/
structure AcceleratorInfo where
  model : Option String
  «class» : Option String
  gpuCoreCount : Option UInt32
  driverVersion : Option String
  utilizationPct : Option Int64
  inUseMemoryBytes : Option UInt64

/-- Apple's own driver family. -/
def AcceleratorInfo.isAppleGpu (info : AcceleratorInfo) : Bool :=
  info.«class».any (Text.startsWith · "AGX")

/-- What `IOReport` gives for the interval since the sample before; `elapsed` is in nanoseconds. -/
structure Report where
  energy : Option (Int64 × String)
  residencies : List Residency
  elapsed : ℕ

/-- The accelerators and the total of unified memory, as the IORegistry tells them. -/
structure Registry where
  accelerators : List AcceleratorInfo
  gpuDvfsBlob : Option (List UInt8)
  unifiedMemoryBytes : Option UInt64

/-- What is read once and kept, and whether `IOReport` could be opened. -/
structure Engine where
  unifiedMemoryBytes : Option UInt64
  dvfs : Option DvfsTable
  sampler : Bool

/-! ## Derivations -/

/-- `Duration::as_secs_f64` -/
def asSecsF64 (elapsed : ℕ) : Float :=
  Float.ofNat (elapsed / 1000000000) + Float.ofNat (elapsed % 1000000000) / 1e9

def energyUnitJoules (unit : String) : Option Float :=
  match Text.trim unit with
  | "nJ" => some 1e-9
  | "uJ" | "µJ" | "μJ" => some 1e-6
  | "mJ" => some 1e-3
  | "J" => some 1.0
  | _ => none

/-- The average power over an interval. -/
def energyDeltaToWatts (delta : Int64) (unit : String) (elapsed : ℕ) : Option F32 :=
  if delta < 0 then none
  else
    let seconds := asSecsF64 elapsed
    if seconds ≤ 0.0 then none
    else
      (energyUnitJoules unit).map fun joules => FloatArith.toF32 (delta.toFloat * joules / seconds)

def clampPct (raw : Int64) : F32 :=
  let pct := raw.toFloat32
  let pct := if pct < 0 then 0 else pct
  ⟨(if 100 < pct then 100 else pct).toBits⟩

/-- The ticks in states that run, and in all states; a state without a clock is not to have run. -/
def residencyTicks (table : DvfsTable) : List Residency → Option (ℕ × ℕ)
  | [] => some (0, 0)
  | r :: rest =>
    match clockOf table r.1 with
    | some clock => (residencyTicks table rest).map fun (active, total) =>
        (if 0 < clock then r.2.toNat + active else active, r.2.toNat + total)
    | none => if r.2 = 0 then residencyTicks table rest else none

def activeResidencyPct (residencies : List Residency) (table : DvfsTable) : Option F32 :=
  (residencyTicks table residencies).bind fun (active, total) =>
    if total = 0 then none
    else some (FloatArith.toF32 (Float.ofNat active / Float.ofNat total * 100.0))

/-! ## The engine -/

def macosUnsupportedGpuDetail : String :=
  "no Apple Silicon GPU on this Mac — muxtop's macOS backend does not cover " ++
    "the AMD or Intel GPU in an Intel Mac"

def connect (registry : Registry) (sampler : Bool) : Except GpuError Engine :=
  if registry.accelerators.isEmpty then
    .error (.driverUnavailable "Apple" "no IOAccelerator service in the IORegistry")
  else if !registry.accelerators.any AcceleratorInfo.isAppleGpu then
    .error (.unsupported macosUnsupportedGpuDetail)
  else .ok ⟨registry.unifiedMemoryBytes, registry.gpuDvfsBlob.bind parseDvfsTable, sampler⟩

/-- The SoC, else the driver class, with the number of cores. -/
def deviceName (info : AcceleratorInfo) : String :=
  let base := (info.model.or info.«class»).getD "Apple GPU"
  match info.gpuCoreCount with
  | some cores => if 0 < cores then base ++ " (" ++ toString cores ++ "-core GPU)" else base
  | none => base

def buildDevice (engine : Engine) (powerWatts : Option F32) (graphicsClockMhz : Option UInt32)
    (residencyPct : Option F32) (index : UInt32) (info : AcceleratorInfo) : GpuDeviceSnapshot where
  index := index
  vendor := .apple
  backend := .appleIoReport
  name := deviceName info
  busId := ""
  driverVersion := info.driverVersion
  utilizationPct := (info.utilizationPct.map clampPct).or residencyPct
  memUtilizationPct := none
  memUsedBytes := info.inUseMemoryBytes
  memTotalBytes := engine.unifiedMemoryBytes
  temperatureC := none
  powerWatts := powerWatts
  powerLimitWatts := none
  graphicsClockMhz := graphicsClockMhz
  memoryClockMhz := none
  fanPct := none
  encoderPct := none
  decoderPct := none
  supportsProcessStats := false

/-- `Inner::collect`, from the registry and what the sampler gives, if there is one. -/
def collect (engine : Engine) (registry : Registry) (sample : Option Report) : GpusSnapshot :=
  let interval := if engine.sampler then sample else none
  let powerWatts := interval.bind fun report => report.energy.bind fun (delta, unit) =>
    energyDeltaToWatts delta unit report.elapsed
  let graphicsClockMhz := interval.bind fun report => engine.dvfs.bind fun table =>
    residencyWeightedClockMhz report.residencies table
  let residencyPct := interval.bind fun report => engine.dvfs.bind fun table =>
    activeResidencyPct report.residencies table
  let devices := (registry.accelerators.filter AcceleratorInfo.isAppleGpu).zipIdx.map fun (info, index) =>
    buildDevice engine powerWatts graphicsClockMhz residencyPct (.ofNat index) info
  if devices.isEmpty then .unavailableWith "the Apple GPU disappeared from the IORegistry"
  else
    { backends := [.appleIoReport]
      available := true
      devices := devices
      processes := []
      detail := "" }

end Muxtop.Core.Apple
