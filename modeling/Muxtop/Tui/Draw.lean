import Muxtop.Tui.Caches

/-!
# What the tabs draw

Reference: `muxtop-tui/src/ui/widgets/table.rs`, `widgets/mod.rs`, and the `draw_*` functions of
`ui/processes.rs`, `network.rs`, `containers.rs`, `kube.rs` and `gpu.rs`; `kube_details` of
`ui/inspector.rs`.

Only which rows a frame shows is modelled. The order of the network and GPU rows is left out, since it
does not change their number.
-/

namespace Muxtop.Tui

open Muxtop.Core
open Text (Lowercase)

/-! ## The table widget -/

/-- `viewport_offset`, the scroll offset that keeps `selected` on screen. -/
def viewportOffset (selected offset height : ℕ) : ℕ :=
  if height = 0 then 0
  else if selected < offset then selected
  else if offset + height ≤ selected then selected - (height - 1)
  else offset

/-- The rows that `table::draw` draws in a body of some height. -/
def drawnRange (total selected offset height : ℕ) : List ℕ :=
  if height = 0 then []
  else if total = 0 then []
  else
    let scroll := viewportOffset selected offset height
    List.range' scroll (min (scroll + height) total - scroll)

/-- The rows drawn include the selected one, if the table has it. -/
theorem mem_drawnRange {total selected : ℕ} (offset : ℕ) {height : ℕ} (hheight : height ≠ 0)
    (hsel : selected < total) : selected ∈ drawnRange total selected offset height := by
  have htotal : total ≠ 0 := by omega
  rw [drawnRange, if_neg hheight, if_neg htotal, List.mem_range'_1]
  dsimp only [viewportOffset]
  split_ifs <;> omega

/-! ## The tables -/

/-- The five tables. The General tab has none of its own, its cursor is that of the processes. -/
inductive Table
  | processes | network | containers | kube | gpu
deriving DecidableEq, Repr

/-- The table whose cursor a tab moves. -/
def Tab.table : Tab → Table
  | .general | .processes => .processes
  | .network => .network
  | .containers => .containers
  | .kube => .kube
  | .gpu => .gpu

/-- `vendor_label` of the GPU tab. -/
def gpuVendorLabel : GpuVendor → String
  | .nvidia => "NVIDIA"
  | .amd => "AMD"
  | .intel => "Intel"
  | .apple => "Apple"
  | .unknown => "Unknown"

namespace Views

/-- The Kubernetes rows with their positions in the snapshot; none while the cluster is unreachable. -/
def kubeRows (v : Views) : List (ℕ × KubeObject) :=
  match v.lastSnapshot.bind (·.kube) with
  | none => []
  | some snap =>
    if snap.reachable then
      v.kubeViewCache.filterMap fun i => ((kubeObjects snap v.kubeSubview)[i]?).map fun o => (i, o)
    else []

section

variable (lib : Lib) (v : Views)

/-- The number of GPU rows: devices by name and vendor, processes by name only. -/
def gpuRows : ℕ :=
  match v.lastSnapshot.bind (·.gpu) with
  | none => 0
  | some snap =>
    let f := lib.lower.toLowercase v.gpuFilterInput
    if !snap.available then 0
    else match v.gpuSubview with
      | .devices => (snap.devices.filter fun d =>
          f.isEmpty || Text.contains (lib.lower.toLowercase d.name) f ||
            Text.contains (lib.lower.toLowercase (gpuVendorLabel d.vendor)) f).length
      | .procs =>
        if snap.processes.isEmpty && !snap.devices.any (·.supportsProcessStats) then 0
        else (snap.processes.filter fun p =>
          f.isEmpty || Text.contains (lib.lower.toLowercase p.name) f).length

/-- The number of rows of a table; none where its tab explains itself instead. -/
def drawnRows : Table → ℕ
  | .processes => if v.lastSnapshot.isSome then v.processCount else 0
  | .network => (v.visibleInterfaces lib).length
  | .containers =>
    match v.lastSnapshot.bind (·.containers) with
    | none => 0
    | some cs => if cs.daemonUp then v.sortedFilteredContainersCache.length else 0
  | .kube => v.kubeRows.length
  | .gpu => v.gpuRows lib

/-- The selected row of a table. -/
def cursor : Table → ℕ
  | .processes => v.selected
  | .network => v.netSelected
  | .containers => v.containersSelected
  | .kube => v.kubeSelected
  | .gpu => v.gpuSelected

/-- The stored scroll offset of a table. -/
def offset : Table → ℕ
  | .processes => v.scrollOffset
  | .network => v.netScrollOffset
  | .containers => v.containersScrollOffset
  | .kube => v.kubeScrollOffset
  | .gpu => v.gpuScrollOffset

/-! ## The inspector -/

/-- The object that `kube_details` shows, with its position in the snapshot. -/
def kubeDetails : Option (ℕ × KubeObject) := do
  let snap ← v.lastSnapshot.bind (·.kube)
  let f := lib.lower.toLowercase v.kubeFilterInput
  let keep (name ns : String) : Bool :=
    f.isEmpty || Text.contains (lib.lower.toLowercase name) f ||
      Text.contains (lib.lower.toLowercase ns) f
  let rows := (List.range (kubeObjects snap v.kubeSubview).length).zip (kubeObjects snap v.kubeSubview)
  (rows.filter fun row => keep row.2.name (row.2.namespace?.getD ""))[v.kubeSelected]?

end

end Views

end Muxtop.Tui
