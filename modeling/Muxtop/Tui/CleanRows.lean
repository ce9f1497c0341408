import Muxtop.Proto.WireCodec
import Muxtop.Tui.Inspector

/-!
# Control characters in tables and in the inspector

The texts of a snapshot come from a server or from an API and may hold anything. All of them are scrubbed
on the way to a cell or a detail row but three: the roles of a node, the status of a process and the short
ID of a container.
-/

namespace Muxtop.Tui

open Muxtop.Core Muxtop.Proto

/-- A row that some table builds for an object of the snapshot. -/
inductive TableRow (g : Glyphs) (snapshot : SystemSnapshot) : List String → Prop
  | process {p : ProcessInfo} (hp : p ∈ snapshot.processes) :
      TableRow g snapshot (Processes.processRow g p none)
  | treeProcess {p : ProcessInfo} (hp : p ∈ snapshot.processes) (entries : List (ProcessInfo × ℕ))
      (idx : Fin entries.length) :
      TableRow g snapshot (Processes.processRow g p (some (Processes.treePrefix g entries idx)))
  | interface {i : NetworkInterfaceSnapshot} (hi : i ∈ snapshot.networks.interfaces)
      (history : NetworkHistory) : TableRow g snapshot (interfaceRow g history i)
  | container {cs : ContainersSnapshot} (hcs : cs ∈ snapshot.containers) {c : ContainerSnapshot}
      (hc : c ∈ cs.containers) (nowMs : UInt64) : TableRow g snapshot (Containers.containerRow g nowMs c)
  | pod {kube : KubeSnapshot} (hkube : kube ∈ snapshot.kube) {p : PodSnapshot} (hp : p ∈ kube.pods) :
      TableRow g snapshot (Kube.podRow g p)
  | node {kube : KubeSnapshot} (hkube : kube ∈ snapshot.kube) {n : NodeSnapshot} (hn : n ∈ kube.nodes) :
      TableRow g snapshot (Kube.nodeRow g n)
  | deployment {kube : KubeSnapshot} (hkube : kube ∈ snapshot.kube) {d : DeploymentSnapshot}
      (hd : d ∈ kube.deployments) : TableRow g snapshot (Kube.deployRow d)
  | gpuDevice {gpus : GpusSnapshot} (hgpus : gpus ∈ snapshot.gpu) {d : GpuDeviceSnapshot}
      (hd : d ∈ gpus.devices) : TableRow g snapshot (Gpu.deviceRow g d)
  | gpuProcess {gpus : GpusSnapshot} (hgpus : gpus ∈ snapshot.gpu) {p : GpuProcessSnapshot}
      (hp : p ∈ gpus.processes) : TableRow g snapshot (Gpu.procRow g p)

/-- The title and the rows that the inspector builds for an object of the snapshot. -/
inductive Panel (g : Glyphs) (snapshot : SystemSnapshot) : String × List DetailRow → Prop
  | process {p : ProcessInfo} (hp : p ∈ snapshot.processes) :
      Panel g snapshot (Inspector.processDetails g p)
  | interface {i : NetworkInterfaceSnapshot} (hi : i ∈ snapshot.networks.interfaces) :
      Panel g snapshot (Inspector.networkDetails g i)
  | container {cs : ContainersSnapshot} (hcs : cs ∈ snapshot.containers) {c : ContainerSnapshot}
      (hc : c ∈ cs.containers) : Panel g snapshot (Inspector.containerDetails g c)
  | pod {kube : KubeSnapshot} (hkube : kube ∈ snapshot.kube) {p : PodSnapshot} (hp : p ∈ kube.pods) :
      Panel g snapshot (Inspector.podDetails g p)
  | node {kube : KubeSnapshot} (hkube : kube ∈ snapshot.kube) {n : NodeSnapshot} (hn : n ∈ kube.nodes) :
      Panel g snapshot (Inspector.nodeDetails g n)
  | deployment {kube : KubeSnapshot} (hkube : kube ∈ snapshot.kube) {d : DeploymentSnapshot}
      (hd : d ∈ kube.deployments) : Panel g snapshot (Inspector.deploymentDetails g d)
  | gpuDevice {gpus : GpusSnapshot} (hgpus : gpus ∈ snapshot.gpu) {d : GpuDeviceSnapshot}
      (hd : d ∈ gpus.devices) : Panel g snapshot (Inspector.gpuDeviceDetails g d)
  | gpuProcess {gpus : GpusSnapshot} (hgpus : gpus ∈ snapshot.gpu) {p : GpuProcessSnapshot}
      (hp : p ∈ gpus.processes) : Panel g snapshot (Inspector.gpuProcessDetails g p)

/-- The texts of a panel, its title first. -/
def panelTexts (panel : String × List DetailRow) : List String :=
  panel.1 :: panel.2.flatMap DetailRow.texts

/-- No text of a row or a panel holds a control character but the tab. -/
structure ShowsClean (g : Glyphs) (snapshot : SystemSnapshot) : Prop where
  rows : ∀ row, TableRow g snapshot row → ∀ text ∈ row, Clean text
  panels : ∀ panel, Panel g snapshot panel → ∀ text ∈ panelTexts panel, Clean text

/-- Nor do the texts of the snapshot that nothing scrubs. -/
structure UnscrubbedClean (snapshot : SystemSnapshot) : Prop where
  status : ∀ p ∈ snapshot.processes, Clean p.status
  id : ∀ cs ∈ snapshot.containers, ∀ c ∈ cs.containers, Clean c.id
  role : ∀ kube ∈ snapshot.kube, ∀ n ∈ kube.nodes, ∀ role ∈ n.roles, Clean role

variable {g : Glyphs}

/-! ## Tables -/

/-- The connectors in front of a process are drawn from the glyphs. -/
theorem clean_treePrefix (hg : g.IsClean) (entries : List (ProcessInfo × ℕ))
    (idx : Fin entries.length) : Clean (Processes.treePrefix g entries idx) := by
  unfold Processes.treePrefix
  refine clean_ite Text.over_empty (Text.over_append.2 ⟨?_, clean_ite hg.treeLast hg.treeBranch⟩)
  rw [Text.over_intercalate Text.over_empty]
  intro text htext
  obtain ⟨level, -, rfl⟩ := List.mem_map.1 htext
  exact clean_ite hg.treePipe hg.treeGap

/-- The status of a process stands in its row as a marker only; the command and the user are scrubbed. -/
theorem clean_processRow (hg : g.IsClean) (p : ProcessInfo) {connectors : Option String}
    (hconnectors : ∀ c ∈ connectors, Clean c) : ∀ text ∈ Processes.processRow g p connectors, Clean text := by
  cases connectors with
  | none => simp [Processes.processRow, clean_marker hg]
  | some c =>
    have hc := hconnectors c rfl
    simp [Processes.processRow, clean_marker hg, hc]

/-- Of an interface the row shows the scrubbed name and figures. -/
theorem clean_interfaceRow (hg : g.IsClean) (history : NetworkHistory) (i : NetworkInterfaceSnapshot) :
    ∀ text ∈ interfaceRow g history i, Clean text := by
  simp +decide [interfaceRow, clean_marker hg, hg.arrowUp, hg.arrowDown]

/-- Of a container the row shows the scrubbed name and image, the state and figures. -/
theorem clean_containerRow (hg : g.IsClean) (nowMs : UInt64) (c : ContainerSnapshot) :
    ∀ text ∈ Containers.containerRow g nowMs c, Clean text := by
  have hlabel : Clean (Containers.stateLabel c.state) := by cases c.state <;> decide
  have huptime : Clean (Containers.uptime c.startedAtMs nowMs) := by simp +decide [Containers.uptime]
  simp +decide [Containers.containerRow, clean_marker hg, hg.none, hlabel, huptime]

/-- Of a pod the row shows scrubbed texts, the phase and figures. -/
theorem clean_podRow (hg : g.IsClean) (p : PodSnapshot) : ∀ text ∈ Kube.podRow g p, Clean text := by
  have hlabel : Clean (Kube.phaseLabel p.phase) := by cases p.phase <;> decide
  simp +decide [Kube.podRow, clean_marker hg, hg.none, hlabel]

/-- The cell of a node's roles is clean when they are. -/
theorem clean_roles_iff (hg : g.IsClean) {separator : String} (hseparator : Clean separator) (n : NodeSnapshot) :
    Clean (if n.roles.isEmpty then g.none else separator.intercalate n.roles) ↔
      ∀ role ∈ n.roles, Clean role := by
  rw [← Text.over_intercalate hseparator]
  split_ifs with hempty
  · rw [List.isEmpty_iff.1 hempty]
    exact iff_of_true hg.none Text.over_empty
  · exact Iff.rfl

/-- The roles are what can make the row of a node unclean. -/
theorem clean_nodeRow_iff (hg : g.IsClean) (n : NodeSnapshot) :
    (∀ text ∈ Kube.nodeRow g n, Clean text) ↔ ∀ role ∈ n.roles, Clean role := by
  rw [← clean_roles_iff hg (by decide : Clean ",")]
  unfold Kube.nodeRow
  generalize (if n.roles.isEmpty then g.none else ",".intercalate n.roles) = roles
  simp +decide [clean_marker hg, hg.none]

/-- Of a deployment the row shows scrubbed texts and counts. -/
theorem clean_deployRow (d : DeploymentSnapshot) : ∀ text ∈ Kube.deployRow d, Clean text := by
  simp +decide [Kube.deployRow]

/-- Of a device the row shows the scrubbed name and figures. -/
theorem clean_deviceRow (hg : g.IsClean) (d : GpuDeviceSnapshot) :
    ∀ text ∈ Gpu.deviceRow g d, Clean text := by
  have hvendor : Clean (gpuVendorLabel d.vendor) := by cases d.vendor <;> decide
  have hvram : Clean (Gpu.vramCell g d) := by
    unfold Gpu.vramCell
    split <;> simp +decide [hg.none]
  have hpower : Clean (Gpu.powerCell g d) := by
    unfold Gpu.powerCell
    split <;> simp +decide [hg.none]
  have hencdec : Clean (Gpu.encdecCell g d) := by
    unfold Gpu.encdecCell
    split <;> simp +decide [hg.none]
  simp +decide [Gpu.deviceRow, hg.none, hvendor, hvram, hpower, hencdec]

/-- Of a process on a device the row shows the scrubbed name, the kind of work and figures. -/
theorem clean_procRow (hg : g.IsClean) (p : GpuProcessSnapshot) : ∀ text ∈ Gpu.procRow g p, Clean text := by
  have hkind : Clean (Gpu.kindLabel p.kind) := by cases p.kind <;> decide
  simp [Gpu.procRow, hg.none, hkind]

/-! ## The inspector -/

/-- The texts of a row are clean. -/
def DetailRow.IsClean (row : DetailRow) : Prop := ∀ text ∈ row.texts, Clean text

/-- Both texts of a pair are shown. -/
@[simp] theorem isClean_kv {key value : String} :
    (DetailRow.kv key value).IsClean ↔ Clean key ∧ Clean value := by
  simp [DetailRow.IsClean, DetailRow.texts]

/-- Of a heading the title is shown. -/
@[simp] theorem isClean_heading {title : String} : (DetailRow.heading title).IsClean ↔ Clean title := by
  simp [DetailRow.IsClean, DetailRow.texts]

/-- Both texts of a wrapped pair are shown. -/
@[simp] theorem isClean_wrapped {key value : String} :
    (DetailRow.wrapped key value).IsClean ↔ Clean key ∧ Clean value := by
  simp [DetailRow.IsClean, DetailRow.texts]

/-- Of a meter the key and the label are shown. -/
@[simp] theorem isClean_meter {key label : String} {pct : Float} :
    (DetailRow.meter key pct label).IsClean ↔ Clean key ∧ Clean label := by
  simp [DetailRow.IsClean, DetailRow.texts]

/-- The rows of a panel are clean. -/
def CleanDetails (rows : List DetailRow) : Prop := ∀ row ∈ rows, row.IsClean

/-- A panel without rows shows nothing. -/
@[simp] theorem cleanDetails_nil : CleanDetails [] := fun _ hrow => absurd hrow List.not_mem_nil

/-- A panel is clean row by row. -/
@[simp] theorem cleanDetails_cons {row : DetailRow} {rows : List DetailRow} :
    CleanDetails (row :: rows) ↔ row.IsClean ∧ CleanDetails rows :=
  List.forall_mem_cons

/-- The sections of a panel are clean one by one. -/
theorem cleanDetails_append {rows rows' : List DetailRow} :
    CleanDetails (rows ++ rows') ↔ CleanDetails rows ∧ CleanDetails rows' :=
  List.forall_mem_append

/-- Under a clean title, a panel is as clean as its rows. -/
theorem clean_panelTexts {title : String} {rows : List DetailRow} (htitle : Clean title) :
    (∀ text ∈ panelTexts (title, rows), Clean text) ↔ CleanDetails rows := by
  simp only [panelTexts, List.forall_mem_cons, htitle, true_and, List.mem_flatMap]
  exact ⟨fun h row hrow text htext => h text ⟨row, hrow, htext⟩,
    fun h text ⟨row, hrow, htext⟩ => h row hrow text htext⟩

/-- The status is the one text of a process that the inspector does not scrub. -/
theorem clean_processDetails_iff (hg : g.IsClean) (p : ProcessInfo) :
    (∀ text ∈ panelTexts (Inspector.processDetails g p), Clean text) ↔ Clean p.status := by
  unfold Inspector.processDetails
  rw [clean_panelTexts (clean_titled hg (by decide) (clean_scrubCtrl p.name))]
  simp +decide [hg.none]

/-- The name and the MAC address of an interface are scrubbed; the rest are figures. -/
theorem clean_networkDetails (hg : g.IsClean) (i : NetworkInterfaceSnapshot) :
    ∀ text ∈ panelTexts (Inspector.networkDetails g i), Clean text := by
  unfold Inspector.networkDetails
  rw [clean_panelTexts (clean_titled hg (by decide) (clean_scrubCtrl i.name))]
  simp +decide

/-- The short ID is the one text of a container that the inspector does not scrub. -/
theorem clean_containerDetails_iff (hg : g.IsClean) (c : ContainerSnapshot) :
    (∀ text ∈ panelTexts (Inspector.containerDetails g c), Clean text) ↔ Clean c.id := by
  unfold Inspector.containerDetails
  rw [clean_panelTexts (clean_titled hg (by decide) (clean_scrubCtrl c.name))]
  simp +decide

/-- All texts of a pod are scrubbed. -/
theorem clean_podDetails (hg : g.IsClean) (p : PodSnapshot) :
    ∀ text ∈ panelTexts (Inspector.podDetails g p), Clean text := by
  unfold Inspector.podDetails
  rw [clean_panelTexts (clean_titled hg (by decide) (clean_scrubCtrl p.name))]
  simp +decide [hg.none]

/-- The roles are the one text of a node that the inspector does not scrub. -/
theorem clean_nodeDetails_iff (hg : g.IsClean) (n : NodeSnapshot) :
    (∀ text ∈ panelTexts (Inspector.nodeDetails g n), Clean text) ↔ ∀ role ∈ n.roles, Clean role := by
  have hroles := Text.over_intercalate (by decide : Clean ", ") n.roles
  unfold Inspector.nodeDetails
  rw [clean_panelTexts (clean_titled hg (by decide) (clean_scrubCtrl n.name))]
  simp +decide [hroles]

/-- All texts of a deployment are scrubbed. -/
theorem clean_deploymentDetails (hg : g.IsClean) (d : DeploymentSnapshot) :
    ∀ text ∈ panelTexts (Inspector.deploymentDetails g d), Clean text := by
  unfold Inspector.deploymentDetails
  rw [clean_panelTexts (clean_titled hg (by decide) (clean_scrubCtrl d.name))]
  simp +decide

/-- All texts of a device are scrubbed. -/
theorem clean_gpuDeviceDetails (hg : g.IsClean) (d : GpuDeviceSnapshot) :
    ∀ text ∈ panelTexts (Inspector.gpuDeviceDetails g d), Clean text := by
  have hload : (Inspector.gpuLoad g d).IsClean := by
    unfold Inspector.gpuLoad
    split <;> simp +decide [hg.none]
  have hmemory : (Inspector.gpuMemory g d).IsClean := by
    unfold Inspector.gpuMemory
    dsimp only
    split
    · split_ifs <;> simp +decide [hg.none]
    · simp +decide [hg.none]
  have hpower : Clean (Inspector.gpuPower g d) := by
    unfold Inspector.gpuPower
    split <;> simp +decide [hg.none]
  have hnote : CleanDetails (Inspector.gpuNote d) := by
    unfold Inspector.gpuNote
    split_ifs <;> simp +decide
  unfold Inspector.gpuDeviceDetails
  rw [clean_panelTexts (clean_titled hg (by decide) (clean_scrubCtrl d.name)), cleanDetails_append]
  refine ⟨?_, hnote⟩
  simp +decide [hload, hmemory, hpower, hg.none]

/-- All texts of a process on a device are scrubbed. -/
theorem clean_gpuProcessDetails (hg : g.IsClean) (p : GpuProcessSnapshot) :
    ∀ text ∈ panelTexts (Inspector.gpuProcessDetails g p), Clean text := by
  unfold Inspector.gpuProcessDetails
  rw [clean_panelTexts (clean_titled hg (by decide) (clean_ite hg.none (clean_scrubCtrl p.name)))]
  simp +decide [hg.none]

/-! ## Snapshots -/

/-- **Control characters.** For every snapshot, no text of a table row, of a detail row or of a title holds
a control character but the tab, exactly when no role of a node, no status of a process and no short ID of
a container does. -/
theorem showsClean_iff (unicode : Bool) (snapshot : SystemSnapshot) :
    ShowsClean (Glyphs.new unicode) snapshot ↔ UnscrubbedClean snapshot := by
  have hg := Glyphs.isClean_new unicode
  constructor
  · intro h
    -- Each unscrubbed field is shown by one row or panel, which then is not clean.
    constructor
    case status =>
      intro p hp
      exact (clean_processDetails_iff hg p).1 (h.panels _ (.process hp))
    case id =>
      intro cs hcs c hc
      exact (clean_containerDetails_iff hg c).1 (h.panels _ (.container hcs hc))
    case role =>
      intro kube hkube n hn
      exact (clean_nodeRow_iff hg n).1 (h.rows _ (.node hkube hn))
  -- Every other text goes through the scrubber on its way to the screen.
  · intro h
    constructor
    case rows =>
      intro row hrow
      cases hrow
      case process p hp => exact clean_processRow hg p nofun
      case treeProcess p hp entries idx =>
        refine clean_processRow hg p fun c hc => ?_
        obtain rfl := Option.some.inj hc
        exact clean_treePrefix hg entries idx
      case interface i hi history => exact clean_interfaceRow hg history i
      case container cs hcs c hc nowMs => exact clean_containerRow hg nowMs c
      case pod kube hkube p hp => exact clean_podRow hg p
      case node kube hkube n hn => exact (clean_nodeRow_iff hg n).2 (h.role kube hkube n hn)
      case deployment kube hkube d hd => exact clean_deployRow d
      case gpuDevice gpus hgpus d hd => exact clean_deviceRow hg d
      case gpuProcess gpus hgpus p hp => exact clean_procRow hg p
    case panels =>
      intro panel hpanel
      cases hpanel
      case process p hp => exact (clean_processDetails_iff hg p).2 (h.status p hp)
      case interface i hi => exact clean_networkDetails hg i
      case container cs hcs c hc => exact (clean_containerDetails_iff hg c).2 (h.id cs hcs c hc)
      case pod kube hkube p hp => exact clean_podDetails hg p
      case node kube hkube n hn => exact (clean_nodeDetails_iff hg n).2 (h.role kube hkube n hn)
      case deployment kube hkube d hd => exact clean_deploymentDetails hg d
      case gpuDevice gpus hgpus d hd => exact clean_gpuDeviceDetails hg d
      case gpuProcess gpus hgpus p hp => exact clean_gpuProcessDetails hg p

/-- A process whose status is the sequence that clears a terminal. -/
def escapingProcess : ProcessInfo where
  pid := 1
  parentPid := none
  name := "sh"
  command := "sh"
  user := "root"
  cpuPercent := ⟨0⟩
  memoryBytes := 0
  memoryPercent := ⟨0⟩
  status := "\x1b[2J"

/-- Its snapshot is read from a frame, and the inspector shows the escape character. -/
theorem not_showsClean_escape :
    ¬∀ (unicode : Bool) (frame : Frame) (snapshot : SystemSnapshot),
      WireMessage.fromFrame .x86_64 frame = .ok (.snapshot snapshot) →
        ShowsClean (Glyphs.new unicode) snapshot := by
  intro h
  let snapshot := hostSnapshot [escapingProcess]
  have hdecode := fromFrame_snapshot .x86_64 snapshot (by decide) (by decide)
  have hclean := (h true _ snapshot hdecode).panels _ (.process (List.mem_singleton_self _))
  have hstatus := (clean_processDetails_iff (Glyphs.isClean_new true) escapingProcess).1 hclean
  exact absurd hstatus (by decide)

end Muxtop.Tui
