import Muxtop.Tui.Selection

/-!
# How many rows a tab counts

What a tab counts bounds its cursor and is shown beside its name. Each count is made apart from the rows
that are drawn. In states that can be reached they agree on every tab that draws its table, but for the
processes of the GPU tab, which are counted by name or PID and drawn by name.
-/

namespace Muxtop.Tui

open Muxtop.Core

/-- Of two tests for a list, the first takes as many elements as both where the second adds none. -/
theorem length_filter_or_eq_iff {α : Type*} (p q : α → Bool) (l : List α) :
    (l.filter fun a => p a || q a).length = (l.filter p).length ↔ ∀ a ∈ l, q a = true → p a = true := by
  induction l with
  | nil => simp
  | cons a l ih =>
    have hle : (l.filter p).length ≤ (l.filter fun a => p a || q a).length :=
      (List.monotone_filter_right l fun a ha => by simp [ha]).length_le
    simp only [List.filter_cons, List.forall_mem_cons, ← ih]
    cases hp : p a <;> cases hq : q a <;> simp
    omega

namespace Views

variable {lib : Lib} {v : Views}

/-- The tab in front draws its table. The GPU tab's processes are not drawn where no device tells of
them. -/
def DrawsTable (v : Views) : Prop :=
  shown v.lastSnapshot v.tab.table = true ∧
    (v.tab = .gpu → v.gpuSubview = .procs → ∀ snap ∈ v.lastSnapshot.bind (·.gpu),
      snap.processes ≠ [] ∨ snap.devices.any (·.supportsProcessStats) = true)

/-- The GPU processes are in front, and the filter is part of the PID of one but not of its name. -/
def CountsByPid (lib : Lib) (v : Views) : Prop :=
  v.tab = .gpu ∧ v.gpuSubview = .procs ∧ ∃ snap ∈ v.lastSnapshot.bind (·.gpu), ∃ p ∈ snap.processes,
    Text.contains (toString p.pid) (lib.lower.toLowercase v.gpuFilterInput) = true ∧
      ¬ Text.contains (lib.lower.toLowercase p.name) (lib.lower.toLowercase v.gpuFilterInput) = true

/-- Where the GPU processes are drawn, they are counted right exactly when no PID matches without its
name. -/
theorem gpuCount_eq_iff (hdraws : v.DrawsTable) (htab : v.tab = .gpu) :
    v.gpuCount lib = v.gpuRows lib ↔ ¬ v.CountsByPid lib := by
  obtain ⟨hshown, hprocs⟩ := hdraws
  rw [htab] at hshown
  constructor
  · rintro hcount ⟨-, hsub, snap, hsnap, p, hp, hpid, hname⟩
    obtain ⟨snap', hsnap', havailable⟩ := (Option.any_eq_true _ _).1 hshown
    obtain rfl : snap = snap' := Option.some.inj (hsnap.symm.trans hsnap')
    have hdrawn : (snap.processes.isEmpty && !snap.devices.any (·.supportsProcessStats)) = false := by
      rw [List.isEmpty_eq_false_iff.2 (List.ne_nil_of_mem hp), Bool.false_and]
    simp only [gpuCount, gpuRows, hsnap', havailable, hsub, hdrawn, Bool.not_true, Bool.false_eq_true,
      if_false, Text.isEmpty_or_contains] at hcount
    exact hname ((length_filter_or_eq_iff _ _ _).1 hcount p hp hpid)
  · intro hpids
    refine gpuCount_eq hshown fun hsub snap hsnap p hp hpid => ?_
    by_contra hname
    exact hpids ⟨htab, hsub, snap, hsnap, p, hp, hpid, hname⟩

end Views

namespace AppState

variable {lib : Lib}

/-- **Counts.** In every state that can be reached, a tab that draws its table counts the rows it draws,
exactly unless it is the GPU tab with its processes in front and a filter that is part of a PID but not of
the name beside it. -/
theorem itemCount_eq_drawnRows_iff (config : CliConfig) (containerEngine clusterEngine : Bool)
    (inputs : List Input) :
    let s := Runs.run (step lib) (withConfig config containerEngine clusterEngine) inputs
    s.tab ≠ .general → s.DrawsTable →
      (s.itemCount lib = s.drawnRows lib s.tab.table ↔ ¬ s.CountsByPid lib) := by
  intro s _ hdraws
  have hcoherent : s.Coherent lib := coherent_run config containerEngine clusterEngine inputs
  by_cases hgpu : s.tab = .gpu
  · simp only [Views.itemCount, hgpu, Tab.table, Views.drawnRows]
    exact Views.gpuCount_eq_iff hdraws hgpu
  · exact iff_of_true (Views.itemCount_eq hcoherent hdraws.1 hgpu) fun h => hgpu h.1

/-- A host whose GPU runs one process. -/
def gpuProcess (pid : UInt32) (name : String) : SystemSnapshot :=
  { (default : SystemSnapshot) with
    gpu := some { (default : GpusSnapshot) with
      available := true
      processes := [{ (default : GpuProcessSnapshot) with pid := pid, name := name }] } }

/-- The processes of the GPU tab, under a filter of one character. -/
def filterGpuProcesses (filter : Char) : List Input :=
  [.arrive 0 (gpuProcess 42 "train"), ⟨.obliging 1, .key ⟨.char '6', .altOnly⟩⟩, .press 2 (.char 'P'),
    .press 3 (.char '/'), .press 4 (.char filter)]

/-- Under a filter that is part of the name, the one process is counted and drawn. -/
theorem itemCount_eq_drawnRows_iff_byName :
    let s := Runs.run (step .ascii) (withConfig {} false false) (filterGpuProcesses 't')
    s.itemCount .ascii = s.drawnRows .ascii s.tab.table :=
  (itemCount_eq_drawnRows_iff {} false false (filterGpuProcesses 't') (by decide)
    ⟨by decide, fun _ _ snap hsnap => .inl (by cases hsnap; decide)⟩).2 (by
      rintro ⟨-, -, snap, hsnap, p, hp, hpid, -⟩
      cases hsnap
      obtain rfl := List.mem_singleton.1 hp
      exact absurd hpid (by decide))

/-- Under a filter that is part of the PID, the process is counted and not drawn. -/
theorem not_itemCount_eq_drawnRows_byPid :
    ¬ ∀ inputs : List Input,
      let s := Runs.run (step .ascii) (withConfig {} false false) inputs
      s.tab ≠ .general → s.DrawsTable → s.itemCount .ascii = s.drawnRows .ascii s.tab.table := by
  intro h
  have hcount := h (filterGpuProcesses '4') (by decide)
    ⟨by decide, fun _ _ snap hsnap => .inl (by cases hsnap; decide)⟩
  exact absurd hcount (by decide)

end AppState

end Muxtop.Tui
