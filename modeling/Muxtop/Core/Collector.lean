import Muxtop.Core.DockerEngine
import Muxtop.Core.KubeConnect
import Muxtop.Core.NvmlEngine
import Muxtop.Foundation.BoundedChannel
import Muxtop.Foundation.PollLoop
import Muxtop.Foundation.Runs

/-!
# The collector

Reference: `muxtop-core/src/collector.rs`, with `SystemSnapshot::collect` and the `unavailable` snapshots.

Four tasks share a cancellation token. Three of them poll an engine into a slot each; the system loop reads
the slots one after the other, so the others may write in between, and offers a snapshot to a channel
without waiting for room. What sysinfo reports at a tick is a parameter of the tick.
-/

namespace Muxtop.Core

/-! ## Snapshots -/

def ContainersSnapshot.unavailable : ContainersSnapshot where
  engine := .unknown
  daemonUp := false
  containers := []

def KubeSnapshot.unavailable : KubeSnapshot where
  clusterKind := .generic
  serverVersion := none
  currentNamespace := ""
  reachable := false
  metricsAvailable := false
  pods := []
  nodes := []
  deployments := []

/-- Fill in the names that the backends left empty, where the lookup knows them. -/
def GpusSnapshot.resolveProcessNames (snapshot : GpusSnapshot) (lookup : UInt32 → Option String) :
    GpusSnapshot :=
  { snapshot with
    processes := snapshot.processes.map fun process =>
      if process.name.isEmpty then
        match lookup process.pid with
        | some name => { process with name := name }
        | none => process
      else process }

/-- What the host reports at a tick. -/
structure HostSample where
  cpu : CpuSnapshot
  memory : MemorySnapshot
  load : LoadSnapshot
  processes : List ProcessInfo
  networks : NetworkSnapshot
  timestampMs : UInt64
deriving DecidableEq, Inhabited

/-- The name of a process in the table that the sample was taken from. -/
def HostSample.processName (host : HostSample) (pid : UInt32) : Option String :=
  (host.processes.find? (·.pid == pid)).map (·.name)

/-- `SystemSnapshot::collect` -/
def SystemSnapshot.collect (host : HostSample) (containers : Option ContainersSnapshot)
    (kube : Option KubeSnapshot) (gpu : Option GpusSnapshot) : SystemSnapshot where
  cpu := host.cpu
  memory := host.memory
  load := host.load
  processes := host.processes
  networks := host.networks
  containers := containers
  kube := kube
  gpu := gpu.map (·.resolveProcessNames host.processName)
  timestampMs := host.timestampMs

/-! ## What the loops publish -/

def publishContainers (kind : EngineKind) :
    Except EngineError (List ContainerSnapshot) → ContainersSnapshot
  | .ok containers => ⟨kind, true, containers⟩
  | .error _ => .unavailable

def publishKube : Except ClusterError KubeSnapshot → KubeSnapshot
  | .ok snapshot => snapshot
  | .error _ => .unavailable

def publishGpu : Except GpuError GpusSnapshot → GpusSnapshot
  | .ok snapshot => snapshot
  | .error err => .unavailableWith (toString err)

/-! ## The tasks -/

/-- The engines attached: the kind of the container engine, and whether there are the other two. -/
structure Engines where
  container : Option EngineKind
  cluster : Bool
  gpu : Bool

namespace Collector

/-- Where the system loop stands: between ticks, before each of the reads of a tick, before the offer, and
on its way out, where it waits for the other loops. -/
inductive Phase
  | idle
  | readContainers (host : HostSample)
  | readKube (host : HostSample) (containers : Option ContainersSnapshot)
  | readGpu (host : HostSample) (containers : Option ContainersSnapshot) (kube : Option KubeSnapshot)
  | send (snapshot : SystemSnapshot)
  | joining
  | finished

/-- The tasks, the token and the channel. -/
structure State where
  cancelled : Bool
  phase : Phase
  containers : PollLoop ContainersSnapshot
  kube : PollLoop KubeSnapshot
  gpu : PollLoop GpusSnapshot
  channel : BoundedChannel SystemSnapshot

/-- What happens next: something outside, a step of the system loop or a step of a polling loop. -/
inductive Event
  | cancel
  | recv
  | close
  | tick (host : HostSample)
  | advance
  | stop
  | join
  | container (e : PollLoop.Event (Except EngineError (List ContainerSnapshot)))
  | cluster (e : PollLoop.Event (Except ClusterError KubeSnapshot))
  | gpu (e : PollLoop.Event (Except GpuError GpusSnapshot))

/-- The slot of a loop that is not there never changes: no containers, an unreachable cluster, no GPU. -/
def spawn (engines : Engines) (capacity : ℕ) : State where
  cancelled := false
  phase := .idle
  containers := if engines.container.isSome then .spawned none else .absent none
  kube := if engines.cluster then .spawned none else .absent (some .unavailable)
  gpu := if engines.gpu then .spawned none else .absent (some .unavailable)
  channel := .new capacity

/-- The next read of a tick, or the offer. -/
def advance (s : State) : State :=
  match s.phase with
  | .readContainers host => { s with phase := .readKube host s.containers.slot }
  | .readKube host containers => { s with phase := .readGpu host containers s.kube.slot }
  | .readGpu host containers kube =>
    { s with phase := .send (.collect host containers kube s.gpu.slot) }
  | .send snapshot =>
    match s.channel.offer with
    | .sent => { s with phase := .idle, channel := s.channel.trySend snapshot }
    | .full => { s with phase := .idle }
    | .closed => { s with phase := .joining }
  | _ => s

/-- Whether the other loops have ended. -/
def State.ended (s : State) : Prop :=
  s.containers.phase = .ended ∧ s.kube.phase = .ended ∧ s.gpu.phase = .ended

instance (s : State) : Decidable s.ended := inferInstanceAs (Decidable (_ ∧ _))

def State.isIdle (s : State) : Bool :=
  match s.phase with
  | .idle => true
  | _ => false

def State.isJoining (s : State) : Bool :=
  match s.phase with
  | .joining => true
  | _ => false

/-- The handle has completed, and with it the sender is dropped. -/
def State.isFinished (s : State) : Bool :=
  match s.phase with
  | .finished => true
  | _ => false

/-- An event that its task is not ready for does not happen. -/
def step (kind : EngineKind) (s : State) : Event → State
  | .cancel => { s with cancelled := true }
  | .recv => { s with channel := s.channel.tryRecv.2 }
  | .close => { s with channel := s.channel.close }
  | .tick host => if s.isIdle then { s with phase := .readContainers host } else s
  | .advance => advance s
  | .stop => if s.isIdle ∧ s.cancelled then { s with phase := .joining } else s
  | .join => if s.isJoining ∧ s.ended then { s with phase := .finished } else s
  | .container e => { s with containers := s.containers.step (publishContainers kind) s.cancelled e }
  | .cluster e => { s with kube := s.kube.step publishKube s.cancelled e }
  | .gpu e => { s with gpu := s.gpu.step publishGpu s.cancelled e }

/-- The receiving end and the token are not the tasks' own. -/
def Event.isTask : Event → Bool
  | .recv | .close | .cancel => false
  | _ => true

/-- The state after some events. -/
def run (engines : Engines) (capacity : ℕ) (events : List Event) : State :=
  Runs.run (step (engines.container.getD .unknown)) (spawn engines capacity) events

end Collector

end Muxtop.Core
