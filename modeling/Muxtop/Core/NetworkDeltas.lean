import Muxtop.Core.NetworkHistory
import Muxtop.Foundation.RingBuffer

/-!
# The deltas of the network history

A history holds the last snapshots, and an interface's traffic is the difference of its counters in two
consecutive ones. An interface that a snapshot does not have counts as one whose counter stands at 0, so
one that appears brings the traffic of its lifetime.
-/

namespace Muxtop.Core

open RingBuffer

namespace NetworkHistory

variable (iface : String) (extract : NetworkInterfaceSnapshot → UInt64)

/-! ## The code -/

/-- The last byte deltas, one for each two consecutive samples. -/
def sparkline (h : NetworkHistory) (points : ℕ) : List UInt64 :=
  if h.samples.length < 2 ∨ points = 0 then []
  else
    let n := min points (h.samples.length - 1)
    let start := h.samples.length - n - 1
    let value (i : ℕ) : UInt64 :=
      ((h.samples[i]?).bind fun s => findIfaceValue s.snapshot iface extract).getD 0
    (List.range' start n).map fun i =>
      let prevVal := value i
      let currVal := value (i + 1)
      -- a counter that went back counts as no traffic
      .ofNat (currVal.toNat - prevVal.toNat)

def sparklineRx (h : NetworkHistory) (points : ℕ) : List UInt64 := h.sparkline iface (·.bytesRx) points
def sparklineTx (h : NetworkHistory) (points : ℕ) : List UInt64 := h.sparkline iface (·.bytesTx) points

/-! ## What the deltas are to be -/

/-- The increase of the counter of an interface that both samples have. -/
def increase (prev curr : TimestampedSnapshot) : UInt64 :=
  match findIfaceValue prev.snapshot iface extract, findIfaceValue curr.snapshot iface extract with
  | some before, some now => if before ≤ now then now - before else 0
  | _, _ => 0

/-- Bytes per second between two samples. -/
def rate (prev curr : TimestampedSnapshot) (delta : UInt64) : F64 :=
  let elapsed := asSecsF64 (curr.timestamp - prev.timestamp)
  if 0 < elapsed then ⟨(delta.toFloat / elapsed).toBits⟩ else ⟨0⟩

/-- The history holds the last of the pushed samples, its deltas are the increases of the counter, and
its bandwidth is the rate of the last one. -/
structure TellsTraffic (capacity : ℕ) (pushed : List TimestampedSnapshot) (h : NetworkHistory) :
    Prop where
  samples : h.samples = pushed.rtake (max capacity 2)
  length : h.samples.length = min pushed.length (max capacity 2)
  sparkline : ∀ points, h.sparkline iface extract points =
    (consecutive (increase iface extract) h.samples).rtake points
  bandwidth : h.bandwidth iface extract = ((consecutive
    (fun prev curr => rate prev curr (increase iface extract prev curr)) h.samples).getLast?).getD ⟨0⟩

/-- The history after some pushes. -/
def pushAll (capacity : ℕ) (pushed : List TimestampedSnapshot) : NetworkHistory :=
  pushed.foldl (fun h s => h.push s.snapshot s.timestamp) (new capacity)

/-- If the interface is new in the second sample, its counter stands at 0 there. -/
def AppearsAtZero (prev curr : TimestampedSnapshot) : Prop :=
  findIfaceValue prev.snapshot iface extract = none →
    ∀ value ∈ findIfaceValue curr.snapshot iface extract, value = 0

/-! ## What the history holds -/

theorem pushAll_eq (capacity : ℕ) (pushed : List TimestampedSnapshot) :
    pushAll capacity pushed = ⟨pushed.rtake (max capacity 2), max capacity 2⟩ := by
  obtain ⟨k, hk⟩ : ∃ k, max capacity 2 = k + 1 := ⟨max capacity 2 - 1, by omega⟩
  have hfold : pushAll capacity pushed =
      ⟨pushed.foldl (RingBuffer.push (max capacity 2)) [], max capacity 2⟩ := by
    unfold pushAll
    induction pushed using List.reverseRecOn with
    | nil => rfl
    | append_singleton pushed s ih =>
      rw [List.foldl_append, ih, List.foldl_append]
      rfl
  rw [hfold, hk, foldl_push]

/-! ## What the code counts -/

/-- The difference that the code takes. -/
def counted (prev curr : TimestampedSnapshot) : UInt64 :=
  .ofNat (((findIfaceValue curr.snapshot iface extract).getD 0).toNat -
    ((findIfaceValue prev.snapshot iface extract).getD 0).toNat)

theorem counted_eq_increase_iff (prev curr : TimestampedSnapshot) :
    counted iface extract prev curr = increase iface extract prev curr ↔
      AppearsAtZero iface extract prev curr := by
  unfold counted increase AppearsAtZero
  cases findIfaceValue prev.snapshot iface extract with
  | none =>
    cases findIfaceValue curr.snapshot iface extract with
    | none => simp
    | some now => simp
  | some before =>
    cases findIfaceValue curr.snapshot iface extract with
    | none => simp
    | some now =>
      simp only [Option.getD_some, reduceCtorEq, false_implies, iff_true]
      split
      case isTrue hle =>
        rw [← UInt64.toNat_inj, UInt64.toNat_sub_of_le _ _ hle, UInt64.toNat_ofNat']
        exact Nat.mod_eq_of_lt (lt_of_le_of_lt (Nat.sub_le _ _) now.toNat_lt)
      case isFalse hback =>
        rw [UInt64.not_le, UInt64.lt_iff_toNat_lt] at hback
        rw [Nat.sub_eq_zero_of_le (Nat.le_of_lt hback)]
        rfl

/-- The sparkline is made of the last differences. -/
theorem sparkline_eq (h : NetworkHistory) (points : ℕ) :
    h.sparkline iface extract points = (consecutive (counted iface extract) h.samples).rtake points := by
  unfold sparkline
  split
  case isTrue hshort =>
    symm
    rw [← List.length_eq_zero_iff, length_rtake, length_consecutive]
    omega
  case isFalse hlong =>
    rw [not_or, Nat.not_lt] at hlong
    dsimp only
    apply List.ext_getElem?
    intro i
    have hstart : h.samples.length - min points (h.samples.length - 1) - 1 =
        h.samples.length - 1 - points := by omega
    rw [hstart, List.getElem?_map, List.rtake, List.getElem?_drop, length_consecutive,
      getElem?_consecutive]
    by_cases hi : i < min points (h.samples.length - 1)
    case pos =>
      have hprev : h.samples.length - 1 - points + i < h.samples.length := by omega
      have hcurr : h.samples.length - 1 - points + i + 1 < h.samples.length := by omega
      rw [List.getElem?_range' hi]
      simp only [List.getElem?_eq_getElem hprev, List.getElem?_eq_getElem hcurr, Nat.one_mul,
        Option.map_some, Option.bind_some, counted]
    case neg =>
      -- behind the points asked for both sides have ended
      have hover : h.samples.length ≤ h.samples.length - 1 - points + i + 1 := by omega
      have hend : (List.range' (h.samples.length - 1 - points)
          (min points (h.samples.length - 1)))[i]? = none :=
        List.getElem?_eq_none (by rw [List.length_range']; exact Nat.le_of_not_lt hi)
      rw [List.getElem?_eq_none hover, hend]
      simp

theorem bandwidth_eq (h : NetworkHistory) :
    h.bandwidth iface extract = ((consecutive
      (fun prev curr => rate prev curr (counted iface extract prev curr)) h.samples).getLast?).getD ⟨0⟩ := by
  rw [List.getLast?_eq_getElem?, length_consecutive, getElem?_consecutive]
  unfold bandwidth
  split
  case isTrue hshort =>
    have hover : h.samples.length ≤ h.samples.length - 1 - 1 + 1 := by omega
    rw [List.getElem?_eq_none hover]
    simp
  case isFalse hlong =>
    have hprev : h.samples.length - 1 - 1 = h.samples.length - 2 := by omega
    have hcurr : h.samples.length - 2 + 1 = h.samples.length - 1 := by omega
    rw [hprev, hcurr, List.getElem?_eq_getElem (by omega), List.getElem?_eq_getElem (by omega)]
    rfl

/-- **Network deltas.** The history tells the traffic of an interface exactly when no two consecutive
samples that it holds show the interface appear with a counter that has already moved. -/
theorem tellsTraffic_iff (capacity : ℕ) (pushed : List TimestampedSnapshot) :
    TellsTraffic iface extract capacity pushed (pushAll capacity pushed) ↔
      (pushed.rtake (max capacity 2)).IsChain (AppearsAtZero iface extract) := by
  have hsamples : (pushAll capacity pushed).samples = pushed.rtake (max capacity 2) := by
    rw [pushAll_eq]
  -- what is counted between two samples is the increase, where the interface was not missing
  have hchain : consecutive (counted iface extract) (pushAll capacity pushed).samples =
        consecutive (increase iface extract) (pushAll capacity pushed).samples ↔
      (pushed.rtake (max capacity 2)).IsChain (AppearsAtZero iface extract) := by
    rw [consecutive_eq_iff, hsamples]
    simp only [counted_eq_increase_iff]
  rw [← hchain]
  constructor
  · intro h
    have hall := h.sparkline (pushAll capacity pushed).samples.length
    rwa [sparkline_eq, rtake_of_length_le (by simp), rtake_of_length_le (by simp)] at hall
  · intro h
    constructor
    case samples => exact hsamples
    case length => rw [hsamples, length_rtake, Nat.min_comm]
    case sparkline =>
      intro points
      rw [sparkline_eq, h]
    case bandwidth =>
      have hagree := (consecutive_eq_iff _ _ _).1 h
      rw [bandwidth_eq, (consecutive_eq_iff _ _ _).2]
      exact hagree.imp fun prev curr hsame => by rw [hsame]

/-- An interface that has carried traffic before it is first seen. -/
def lateInterface : List TimestampedSnapshot :=
  [⟨⟨[], 0, 0⟩, 0⟩, ⟨⟨[⟨"wg0", 5000000, 0, 0, 0, 0, 0, "", true⟩], 5000000, 0⟩, 1000000000⟩]

/-- All of it shows as the traffic of the second in which the interface appears. -/
theorem not_tellsTraffic_lateInterface :
    ¬ ∀ pushed : List TimestampedSnapshot, TellsTraffic "wg0" (·.bytesRx) 60 pushed (pushAll 60 pushed) := by
  intro h
  have hshown := (h lateInterface).sparkline 1
  exact absurd hshown (by decide)

end NetworkHistory

end Muxtop.Core
