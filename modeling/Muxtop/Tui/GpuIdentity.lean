import Muxtop.Tui.GpuView
import Muxtop.Tui.Selection

/-!
# The GPU row under the cursor

The table keeps devices by name and vendor and sorts them, those without the metric last. The copy and
the inspector keep them by name only and count down the snapshot. The table and the others agree on the
row that is as far down in the one as in the other.
-/

namespace Muxtop.Tui

open Muxtop.Core StableSort
open Text (Lowercase)

/-- The devices that match by name, which the copy and the inspector count. -/
def namedDevices (lower : Lowercase) (snap : GpusSnapshot) (filter : String) : List GpuDeviceRef :=
  let f := lower.toLowercase filter
  snap.devices.zipIdx.filter fun d => f.isEmpty || Text.contains (lower.toLowercase d.1.name) f

variable {lower : Lowercase} {snap : GpusSnapshot} {filter : String}

/-- A device that matches by name is in the table. -/
theorem namedDevices_subset : namedDevices lower snap filter ⊆ keptDevices lower snap filter := by
  intro d hd
  obtain ⟨hmem, hname⟩ := List.mem_filter.1 hd
  refine List.mem_filter.2 ⟨hmem, ?_⟩
  rw [hname, Bool.true_or]

theorem pairwise_namedDevices : (namedDevices lower snap filter).Pairwise Earlier :=
  (pairwise_zipIdx snap.devices).filter _

theorem pairwise_keptDevices : (keptDevices lower snap filter).Pairwise Earlier :=
  (pairwise_zipIdx snap.devices).filter _

theorem pairwise_keptProcs : (keptProcs lower snap filter).Pairwise Earlier :=
  (pairwise_zipIdx snap.processes).filter _

/-- The table and the inspector have one device at a place when as many stand above it in both. -/
theorem exists_common_device_iff (lower : Lowercase) (snap : GpusSnapshot) (filter : String)
    (field : GpuSortField) (order : SortOrder) (k : ℕ) :
    (∃ d, (sortDevices (keptDevices lower snap filter) field order)[k]? = some d ∧
        (namedDevices lower snap filter)[k]? = some d) ↔
      ∃ d ∈ namedDevices lower snap filter,
        ((namedDevices lower snap filter).countP fun a => Earlier a d) = k ∧
          ((keptDevices lower snap filter).countP fun a => DeviceAbove field order a d) = k :=
  exists_common_iff not_deviceAbove_of_deviceAbove not_earlier_of_earlier (sortDevices_perm ..)
    (pairwise_sortDevices pairwise_keptDevices field order) pairwise_namedDevices namedDevices_subset

theorem exists_common_proc_iff (lower : Lowercase) (snap : GpusSnapshot) (filter : String)
    (field : GpuSortField) (order : SortOrder) (k : ℕ) :
    (∃ p, (sortProcs (keptProcs lower snap filter) field order)[k]? = some p ∧
        (keptProcs lower snap filter)[k]? = some p) ↔
      ∃ p ∈ keptProcs lower snap filter,
        ((keptProcs lower snap filter).countP fun a => Earlier a p) = k ∧
          ((keptProcs lower snap filter).countP fun a => ProcAbove field order a p) = k :=
  exists_common_iff not_procAbove_of_procAbove not_earlier_of_earlier (sortProcs_perm ..)
    (pairwise_sortProcs pairwise_keptProcs field order) pairwise_keptProcs (List.Subset.refl _)

namespace Views

variable {lib : Lib} {v : Views}

/-- The device highlighted, the one copied and the one inspected are one device of the snapshot. -/
def SameDevice (lib : Lib) (v : Views) : Prop :=
  ∃ d ∈ (v.deviceTable lib)[v.gpuSelected]?,
    v.copiedDevice lib = some d ∧ v.selectedGpuName lib = some d.1.name ∧ v.inspectedDevice lib = some d

/-- The process highlighted, the one copied and the one inspected are one process of the snapshot. -/
def SameProcess (lib : Lib) (v : Views) : Prop :=
  ∃ p ∈ (v.procTable lib)[v.gpuSelected]?,
    v.copiedProc lib = some p ∧ v.selectedGpuName lib = some (toString p.1.pid) ∧
      v.inspectedProc lib = some p

/-- The row highlighted, the one copied and the one inspected are the same in the sub-view in front. -/
def SameGpuRow (lib : Lib) (v : Views) : Prop :=
  v.gpuSubview = .devices ∧ v.SameDevice lib ∨ v.gpuSubview = .procs ∧ v.SameProcess lib

/-- Some device that matches by name has as many of these above it in the snapshot as the table draws
devices above it, and the cursor is that far down. -/
def DeviceInPlace (lib : Lib) (v : Views) (snap : GpusSnapshot) : Prop :=
  let named := namedDevices lib.lower snap v.gpuFilterInput
  ∃ d ∈ named, (named.countP fun a => Earlier a d) = v.gpuSelected ∧
    ((keptDevices lib.lower snap v.gpuFilterInput).countP fun a =>
      DeviceAbove v.gpuSortField v.gpuSortOrder a d) = v.gpuSelected

/-- Some process that matches has as many of these above it in the snapshot as in the table, and the
cursor is that far down. -/
def ProcessInPlace (lib : Lib) (v : Views) (snap : GpusSnapshot) : Prop :=
  let kept := keptProcs lib.lower snap v.gpuFilterInput
  ∃ p ∈ kept, (kept.countP fun a => Earlier a p) = v.gpuSelected ∧
    (kept.countP fun a => ProcAbove v.gpuSortField v.gpuSortOrder a p) = v.gpuSelected

/-- A row of the sub-view in front is in place. -/
def GpuInPlace (lib : Lib) (v : Views) : Prop :=
  ∃ snap ∈ v.lastSnapshot.bind (·.gpu),
    v.gpuSubview = .devices ∧ v.DeviceInPlace lib snap ∨ v.gpuSubview = .procs ∧ v.ProcessInPlace lib snap

instance : Decidable (v.SameDevice lib) := inferInstanceAs (Decidable (∃ d ∈ _, _))
instance : Decidable (v.SameProcess lib) := inferInstanceAs (Decidable (∃ p ∈ _, _))
instance : Decidable (v.SameGpuRow lib) := inferInstanceAs (Decidable (_ ∨ _))
instance : Decidable (v.DeviceInPlace lib snap) := inferInstanceAs (Decidable (∃ d ∈ _, _))
instance : Decidable (v.ProcessInPlace lib snap) := inferInstanceAs (Decidable (∃ p ∈ _, _))
instance : Decidable (v.GpuInPlace lib) := inferInstanceAs (Decidable (∃ snap ∈ _, _))

/-- What is copied names the row counted to. -/
theorem selectedGpuName_eq :
    v.selectedGpuName lib =
      match v.gpuSubview with
      | .devices => (v.copiedDevice lib).map (·.1.name)
      | .procs => (v.copiedProc lib).map fun p => toString p.1.pid := by
  unfold selectedGpuName copiedDevice copiedProc
  cases v.lastSnapshot.bind (·.gpu) with
  | none => cases v.gpuSubview <;> rfl
  | some snap =>
    cases v.gpuSubview
    case devices =>
      simp only [Option.bind_eq_bind, Option.bind_some]
      rw [← map_fst_filter_zipIdx, List.getElem?_map, Option.bind_map]
      exact Option.map_eq_bind.symm
    case procs =>
      simp only [Option.bind_eq_bind, Option.bind_some]
      rw [← map_fst_filter_zipIdx, List.getElem?_map, Option.bind_map]
      exact Option.map_eq_bind.symm

/-- The rows counted for the frame are those of the table in front. -/
theorem gpuRows_eq :
    v.gpuRows lib =
      match v.gpuSubview with
      | .devices => (v.deviceTable lib).length
      | .procs => (v.procTable lib).length := by
  unfold gpuRows deviceTable procTable
  cases v.lastSnapshot.bind (·.gpu) with
  | none => cases v.gpuSubview <;> rfl
  | some snap =>
    cases v.gpuSubview
    case devices =>
      dsimp only
      rw [apply_ite List.length, (sortDevices_perm _ _ _).length_eq, keptDevices]
      rw [← map_fst_filter_zipIdx, List.length_map]
      rfl
    case procs =>
      dsimp only
      rw [apply_ite List.length, apply_ite List.length, (sortProcs_perm _ _ _).length_eq, keptProcs]
      rw [← map_fst_filter_zipIdx, List.length_map]
      rfl

/-- **The selected GPU row.** In every state with the cursor on a row, the row highlighted, the one copied
and the one inspected are the same exactly when some row that matches by name stands at the cursor both
among these in the snapshot's order and in the table. -/
theorem sameGpuRow_iff (lib : Lib) (v : Views) (hsel : v.cursor .gpu < v.drawnRows lib .gpu) :
    v.SameGpuRow lib ↔ v.GpuInPlace lib := by
  obtain ⟨snap, hsnap, havailable⟩ := (Option.any_eq_true _ _).1 (shown_of_lt hsel)
  have hrow : v.gpuSelected < v.gpuRows lib := hsel
  rw [gpuRows_eq] at hrow
  simp only [SameGpuRow, GpuInPlace, hsnap, Option.mem_some_iff, exists_eq_left']
  -- Device and process sub-views part here; each compares the drawn list with the indexed one.
  refine or_congr (and_congr_right fun hsub => ?_) (and_congr_right fun hsub => ?_)
  · have htable : v.deviceTable lib =
        sortDevices (keptDevices lib.lower snap v.gpuFilterInput) v.gpuSortField v.gpuSortOrder := by
      simp [deviceTable, hsnap, havailable]
    have hcopied : v.copiedDevice lib =
        (namedDevices lib.lower snap v.gpuFilterInput)[v.gpuSelected]? := by
      rw [copiedDevice, hsnap]
      rfl
    have hinspected : v.inspectedDevice lib = v.copiedDevice lib := rfl
    unfold SameDevice
    rw [selectedGpuName_eq, hsub, hinspected, exists_same_iff, htable, hcopied]
    exact exists_common_device_iff ..
  · rw [hsub] at hrow
    have hdrawn : (snap.processes.isEmpty && !snap.devices.any (·.supportsProcessStats)) = false := by
      by_contra hhidden
      simp [procTable, hsnap, havailable, eq_true_of_ne_false hhidden] at hrow
    have htable : v.procTable lib =
        sortProcs (keptProcs lib.lower snap v.gpuFilterInput) v.gpuSortField v.gpuSortOrder := by
      simp only [procTable, hsnap, havailable, hdrawn, Bool.not_true, Bool.false_eq_true, if_false]
    have hcopied : v.copiedProc lib =
        (keptProcs lib.lower snap v.gpuFilterInput)[v.gpuSelected]? := by
      rw [copiedProc, hsnap]
      rfl
    have hinspected : v.inspectedProc lib = v.copiedProc lib := rfl
    unfold SameProcess
    rw [selectedGpuName_eq, hsub, hinspected, exists_same_iff, htable, hcopied]
    exact exists_common_proc_iff ..

end Views

namespace AppState

/-- A host with some cards, given by index and name. -/
def cards (devices : List (UInt32 × String)) : SystemSnapshot :=
  let card (d : UInt32 × String) : GpuDeviceSnapshot :=
    { (default : GpuDeviceSnapshot) with index := d.1, name := d.2 }
  { (default : SystemSnapshot) with
    gpu := some { (default : GpusSnapshot) with available := true, devices := devices.map card } }

/-- The GPU tab over some cards. -/
def gpuTab (devices : List (UInt32 × String)) : List Input :=
  [.arrive 0 (cards devices), ⟨.obliging 1, .key ⟨.char '6', .altOnly⟩⟩]

/-- Where the snapshot lists the cards in the order of the table, all three are the first card. -/
theorem sameGpuRow_iff_lastFirst :
    (Runs.run (step .ascii) (withConfig {} false false) (gpuTab [(1, "T4"), (0, "A100")])).SameGpuRow
      .ascii :=
  (Views.sameGpuRow_iff .ascii _ (by decide)).2 (by decide)

/-- The table draws the card of the highest index first, and the copy and the inspector take the first
card of the snapshot. -/
theorem not_sameGpuRow_twoCards :
    ¬ ∀ inputs : List Input,
      let s := Runs.run (step .ascii) (withConfig {} false false) inputs
      s.cursor .gpu < s.drawnRows .ascii .gpu → s.SameGpuRow .ascii := by
  intro h
  exact absurd (h (gpuTab [(0, "A100"), (1, "T4")]) (by decide)) (by decide)

end AppState

end Muxtop.Tui
