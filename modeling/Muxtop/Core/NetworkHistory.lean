import Muxtop.Core.System
import Muxtop.Foundation.FloatArith

/-!
# Network history

Reference: `muxtop-core/src/network.rs`.

Time is the monotonic clock in nanoseconds.
-/

namespace Muxtop.Core

structure TimestampedSnapshot where
  snapshot : NetworkSnapshot
  timestamp : ℕ
deriving Repr

/-- The last snapshots, the newest at the end. -/
structure NetworkHistory where
  samples : List TimestampedSnapshot
  capacity : ℕ
deriving Repr

namespace NetworkHistory

/-- An empty history. A difference needs two samples. -/
def new (capacity : ℕ) : NetworkHistory := ⟨[], max capacity 2⟩

/-- Push a new snapshot, evicting the oldest if at capacity. -/
def push (h : NetworkHistory) (snapshot : NetworkSnapshot) (now : ℕ) : NetworkHistory :=
  let samples := if h.capacity ≤ h.samples.length then h.samples.drop 1 else h.samples
  { h with samples := samples ++ [⟨snapshot, now⟩] }

/-- The value of the first interface of that name. -/
def findIfaceValue (snapshot : NetworkSnapshot) (iface : String)
    (extract : NetworkInterfaceSnapshot → UInt64) : Option UInt64 :=
  (snapshot.interfaces.find? fun i => i.name = iface).map extract

/-- `Duration::as_secs_f64` -/
def asSecsF64 (nanos : ℕ) : Float :=
  (nanos / 10 ^ 9).toFloat + (nanos % 10 ^ 9).toFloat / (10 ^ 9 : ℕ).toFloat

/-- Bytes per second over the last interval; 0 after a counter reset and where no time has passed. -/
def bandwidth (h : NetworkHistory) (iface : String)
    (extract : NetworkInterfaceSnapshot → UInt64) : F64 :=
  if hlen : h.samples.length < 2 then ⟨0⟩
  else
    let prev := h.samples[h.samples.length - 2]
    let curr := h.samples[h.samples.length - 1]
    let prevVal := (findIfaceValue prev.snapshot iface extract).getD 0
    let currVal := (findIfaceValue curr.snapshot iface extract).getD 0
    let delta := (UInt64.ofNat (currVal.toNat - prevVal.toNat)).toFloat
    let elapsed := asSecsF64 (curr.timestamp - prev.timestamp)
    if 0 < elapsed then ⟨(delta / elapsed).toBits⟩ else ⟨0⟩

def bandwidthRx (h : NetworkHistory) (iface : String) : F64 := h.bandwidth iface (·.bytesRx)
def bandwidthTx (h : NetworkHistory) (iface : String) : F64 := h.bandwidth iface (·.bytesTx)

/-- A bandwidth is never NaN. -/
theorem bandwidth_signMagnitude_le (h : NetworkHistory) (iface : String)
    (extract : NetworkInterfaceSnapshot → UInt64) :
    (h.bandwidth iface extract).signMagnitude.2 ≤ 0x7FF0000000000000 := by
  have hzero : (⟨0⟩ : F64).signMagnitude.2 ≤ 0x7FF0000000000000 := by decide
  unfold bandwidth
  split
  · exact hzero
  · dsimp only
    split
    next helapsed => exact FloatArith.toNat_rate_mod_le helapsed
    next => exact hzero

end NetworkHistory

end Muxtop.Core
