import Muxtop.Foundation.FloatCompare
import Muxtop.Proto.WireCodec
import Muxtop.Tui.Views

/-!
# The sorts by CPU

Reference: `sort_processes` in `muxtop-core/src/process.rs`, `recompute_containers_view` in
`muxtop-tui/src/app.rs`, `draw_top_processes` in `muxtop-tui/src/ui/general.rs`.

All three compare CPU shares as floats, and take shares that do not compare for equal. The shares are
what a server sends.
-/

namespace Muxtop.Tui

open Muxtop.Core Muxtop.Proto StableSort

/-- By CPU, the busiest first; shares that do not compare are taken for equal. -/
def topCpuCmp (a b : ProcessInfo) : Ordering := b.cpuPercent.cmp a.cpuPercent

/-- The processes that `draw_top_processes` lists in a panel with an interior of some width and height. -/
def topProcesses (processes : List ProcessInfo) (width height : ℕ) : List ProcessInfo :=
  if height = 0 ∨ width = 0 then [] else (sortBy topCpuCmp processes).take (height - 1)

/-- The three sorts by CPU are given total orders up to ties, and the rows come out in order. -/
structure SortsSoundly (lib : Lib) (processes : List ProcessInfo) (containers : List ContainerSnapshot) :
    Prop where
  processCmp : TotalPreorderOn processCpuCmp processes
  containerCmp : TotalPreorderOn containerCpuCmp containers
  topCmp : TotalPreorderOn topCpuCmp processes
  processRows : ∀ order, Ordered (turned (order = .desc) processCpuCmp)
    (sortProcesses lib.lower lib.unstable processes .cpu order)
  containerRows : ∀ flip, Ordered (turned flip containerCpuCmp)
    (reverseIf flip (Views.sortContainers containers .cpu))
  topRows : ∀ width height, Ordered topCpuCmp (topProcesses processes width height)

variable {lib : Lib} {processes : List ProcessInfo} {containers : List ContainerSnapshot}

theorem totalPreorderOn_processCpuCmp :
    TotalPreorderOn processCpuCmp processes ↔ F32.Comparable (processes.map (·.cpuPercent)) :=
  (TotalPreorderOn.on_iff fun p : ProcessInfo => p.cpuPercent).trans F32.totalPreorderOn_iff

theorem totalPreorderOn_topCpuCmp :
    TotalPreorderOn topCpuCmp processes ↔ F32.Comparable (processes.map (·.cpuPercent)) :=
  TotalPreorderOn.converse_iff.trans totalPreorderOn_processCpuCmp

theorem totalPreorderOn_containerCpuCmp :
    TotalPreorderOn containerCpuCmp containers ↔ F32.Comparable (containers.map (·.cpuPct)) :=
  TotalPreorderOn.converse_iff.trans
    ((TotalPreorderOn.on_iff fun c : ContainerSnapshot => c.cpuPct).trans F32.totalPreorderOn_iff)

/-- The processes sorted by CPU are in order. -/
theorem ordered_sortProcesses_cpu (hsorts : lib.unstable.Sorts)
    (h : F32.Comparable (processes.map (·.cpuPercent))) (order : SortOrder) :
    Ordered (turned (order = .desc) processCpuCmp)
      (sortProcesses lib.lower lib.unstable processes .cpu order) :=
  (hsorts processCpuCmp processes (totalPreorderOn_processCpuCmp.2 h)).reverseIf _

theorem ordered_topProcesses (h : F32.Comparable (processes.map (·.cpuPercent))) (width height : ℕ) :
    Ordered topCpuCmp (topProcesses processes width height) := by
  unfold topProcesses
  split_ifs
  · exact List.Pairwise.nil
  · exact (ordered_sortBy processes (totalPreorderOn_topCpuCmp.2 h)).sublist (List.take_sublist _ _)

/-- **Sorting by CPU.** The three sorts are given total orders up to ties exactly when neither list has a
NaN, or one that has, no two unequal shares; and then their rows come out in order. -/
theorem sortsSoundly_iff (hsorts : lib.unstable.Sorts) (processes : List ProcessInfo)
    (containers : List ContainerSnapshot) :
    SortsSoundly lib processes containers ↔
      F32.Comparable (processes.map (·.cpuPercent)) ∧ F32.Comparable (containers.map (·.cpuPct)) := by
  constructor
  · intro h
    exact ⟨totalPreorderOn_processCpuCmp.1 h.processCmp, totalPreorderOn_containerCpuCmp.1 h.containerCmp⟩
  · rintro ⟨hprocesses, hcontainers⟩
    have hcontainerCmp := totalPreorderOn_containerCpuCmp.2 hcontainers
    exact
      { processCmp := totalPreorderOn_processCpuCmp.2 hprocesses
        containerCmp := hcontainerCmp
        topCmp := totalPreorderOn_topCpuCmp.2 hprocesses
        processRows := ordered_sortProcesses_cpu hsorts hprocesses
        containerRows := (ordered_sortBy containers hcontainerCmp).reverseIf
        topRows := ordered_topProcesses hprocesses }

/-- With two processes that share the CPU equally, the rows come out in order. -/
theorem sortsSoundly_iff_idle :
    SortsSoundly .ascii [idleProcess, idleProcess] [] ↔
      F32.Comparable ([idleProcess, idleProcess].map (·.cpuPercent)) ∧
        F32.Comparable (([] : List ContainerSnapshot).map (·.cpuPct)) :=
  sortsSoundly_iff (sorts_stable _) _ _

/-- Processes with shares of 1, NaN and 2 percent. -/
def undecidedProcesses : List ProcessInfo :=
  [⟨0x3F800000⟩, ⟨0x7FC00000⟩, ⟨0x40000000⟩].map fun share => { idleProcess with cpuPercent := share }

/-- A server can send the three shares: 1 and 2 are apart, and both equal to NaN. -/
theorem not_sortsSoundly_undecided :
    ¬ ∀ frame snap, WireMessage.fromFrame .x86_64 frame = .ok (.snapshot snap) →
      SortsSoundly .ascii snap.processes ((snap.containers.map (·.containers)).getD []) := by
  intro h
  have hsent := fromFrame_snapshot .x86_64 (hostSnapshot undecidedProcesses) (by decide) (by decide)
  have hequal := (h _ _ hsent).processCmp.eq_trans { idleProcess with cpuPercent := ⟨0x3F800000⟩ }
    (by decide) { idleProcess with cpuPercent := ⟨0x7FC00000⟩ } (by decide)
    { idleProcess with cpuPercent := ⟨0x40000000⟩ } (by decide) (by decide) (by decide)
  exact absurd hequal (by decide)

end Muxtop.Tui
