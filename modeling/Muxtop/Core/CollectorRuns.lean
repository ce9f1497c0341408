import Muxtop.Core.Collector

/-!
# What the collector sends, and when it ends

Whatever the order in which the tasks step, a snapshot that goes into the channel is made of what each
engine's loop had published last when its slot was read, within the tick of the rest of the snapshot. The
collector's handle completes only when no loop is left, which takes a cancellation where an engine is
attached: the loop of an engine does not see that the channel is closed.
-/

namespace Muxtop.Core

/-! ## What a snapshot is made of -/

/-- The host's part of a snapshot. -/
def SystemSnapshot.host (snapshot : SystemSnapshot) : HostSample where
  cpu := snapshot.cpu
  memory := snapshot.memory
  load := snapshot.load
  processes := snapshot.processes
  networks := snapshot.networks
  timestampMs := snapshot.timestampMs

/-- A process of the GPUs, as the backend gave it but for the name, which the host fills in where the
backend gave none and the host knows one. -/
structure GpuProcessSnapshot.NamedBy (host : HostSample) (given named : GpuProcessSnapshot) : Prop where
  same : named = { given with name := named.name }
  kept : given.name ≠ "" → named.name = given.name
  filled : given.name = "" → named.name = (host.processName given.pid).getD ""

/-- The GPUs as the backend gave them, their processes under their names. -/
structure GpusSnapshot.NamedBy (host : HostSample) (given named : GpusSnapshot) : Prop where
  same : named = { given with processes := named.processes }
  processes : List.Forall₂ (GpuProcessSnapshot.NamedBy host) given.processes named.processes

/-- A snapshot holds what the host reported and what is known of the engines, and nothing else. -/
structure SystemSnapshot.MadeOf (host : HostSample) (containers : Option ContainersSnapshot)
    (kube : Option KubeSnapshot) (gpu : Option GpusSnapshot) (snapshot : SystemSnapshot) : Prop where
  sample : snapshot.host = host
  containers : snapshot.containers = containers
  kube : snapshot.kube = kube
  gpu : Option.Rel (GpusSnapshot.NamedBy host) gpu snapshot.gpu

/-- Resolving the names touches nothing but the names that are missing. -/
theorem GpusSnapshot.namedBy_resolveProcessNames (given : GpusSnapshot) (host : HostSample) :
    given.NamedBy host (given.resolveProcessNames host.processName) where
  same := rfl
  processes := by
    refine List.forall₂_map_right_iff.2 (List.forall₂_same.2 fun process _ => ?_)
    by_cases hname : process.name = ""
    · rw [if_pos (String.isEmpty_iff.2 hname)]
      cases hknown : host.processName process.pid with
      | none => exact ⟨rfl, fun h => absurd hname h, fun _ => by rw [hknown]; exact hname⟩
      | some name => exact ⟨rfl, fun h => absurd hname h, fun _ => by rw [hknown]; rfl⟩
    · rw [if_neg (mt String.isEmpty_iff.1 hname)]
      exact ⟨rfl, fun _ => rfl, fun h => absurd h hname⟩

/-- `collect` makes a snapshot of exactly what it is given. -/
theorem SystemSnapshot.MadeOf.collect (host : HostSample) (containers : Option ContainersSnapshot)
    (kube : Option KubeSnapshot) (gpu : Option GpusSnapshot) :
    (SystemSnapshot.collect host containers kube gpu).MadeOf host containers kube gpu where
  sample := rfl
  containers := rfl
  kube := rfl
  gpu := by
    cases gpu with
    | none => exact .none
    | some given => exact .some (given.namedBy_resolveProcessNames host)

namespace Collector

open Runs (trace)

/-! ## Slots -/

section

variable (engines : Engines) (capacity : ℕ)

/-- The kind that the container loop publishes. -/
def kindOf : EngineKind := engines.container.getD .unknown

/-- What an event publishes about the containers: the answer of the engine, if it is taken up. -/
def State.publishedContainers (s : State) : Event → Option ContainersSnapshot
  | .container e => s.containers.published (publishContainers (kindOf engines)) e
  | _ => none

def State.publishedKube (s : State) : Event → Option KubeSnapshot
  | .cluster e => s.kube.published publishKube e
  | _ => none

def State.publishedGpu (s : State) : Event → Option GpusSnapshot
  | .gpu e => s.gpu.published publishGpu e
  | _ => none

/-- What a run publishes, in order. -/
def publications {α : Type} (published : State → Event → Option α) (events : List Event) : List α :=
  trace (step (kindOf engines)) (fun s e => (published s e).toList) (spawn engines capacity) events

/-- What is known of the containers after some events: what was published last. -/
def containersAt (events : List Event) : Option ContainersSnapshot :=
  (publications engines capacity (State.publishedContainers engines) events).getLast?

/-- Without an engine the cluster is unreachable from the start. -/
def kubeAt (events : List Event) : Option KubeSnapshot :=
  (publications engines capacity State.publishedKube events).getLast?.or
    (if engines.cluster then none else some .unavailable)

def gpuAt (events : List Event) : Option GpusSnapshot :=
  (publications engines capacity State.publishedGpu events).getLast?.or
    (if engines.gpu then none else some .unavailable)

end

variable {engines : Engines} {capacity : ℕ} {kind : EngineKind}

/-- The system loop writes no slot. -/
theorem advance_slots (s : State) :
    (advance s).containers = s.containers ∧ (advance s).kube = s.kube ∧ (advance s).gpu = s.gpu ∧
      (advance s).cancelled = s.cancelled := by
  unfold advance
  split
  case h_4 => split <;> exact ⟨rfl, rfl, rfl, rfl⟩
  all_goals exact ⟨rfl, rfl, rfl, rfl⟩

/-- The container loop moves by its own events only. -/
theorem containers_step (s : State) (e : Event) :
    (step kind s e).containers =
      match e with
      | .container e => s.containers.step (publishContainers kind) s.cancelled e
      | _ => s.containers := by
  cases e
  case advance => exact (advance_slots s).1
  case tick => unfold step; dsimp only; split_ifs <;> rfl
  case stop => unfold step; dsimp only; split_ifs <;> rfl
  case join => unfold step; dsimp only; split_ifs <;> rfl
  all_goals rfl

/-- So does the cluster loop. -/
theorem kube_step (s : State) (e : Event) :
    (step kind s e).kube =
      match e with
      | .cluster e => s.kube.step publishKube s.cancelled e
      | _ => s.kube := by
  cases e
  case advance => exact (advance_slots s).2.1
  case tick => unfold step; dsimp only; split_ifs <;> rfl
  case stop => unfold step; dsimp only; split_ifs <;> rfl
  case join => unfold step; dsimp only; split_ifs <;> rfl
  all_goals rfl

/-- So does the GPU loop. -/
theorem gpu_step (s : State) (e : Event) :
    (step kind s e).gpu =
      match e with
      | .gpu e => s.gpu.step publishGpu s.cancelled e
      | _ => s.gpu := by
  cases e
  case advance => exact (advance_slots s).2.2.1
  case tick => unfold step; dsimp only; split_ifs <;> rfl
  case stop => unfold step; dsimp only; split_ifs <;> rfl
  case join => unfold step; dsimp only; split_ifs <;> rfl
  all_goals rfl

/-- A slot that only what is published changes holds what was published last. -/
theorem slot_run {α : Type} (slot : State → Option α) (published : State → Event → Option α)
    (hstep : ∀ s e, slot (step (kindOf engines) s e) = (published s e).or (slot s))
    {seed : Option α} (hseed : slot (spawn engines capacity) = seed) (events : List Event) :
    slot (run engines capacity events) =
      (publications engines capacity published events).getLast?.or seed :=
  (Runs.slot_run slot published hstep events (spawn engines capacity)).trans (by rw [hseed]; rfl)

/-- The slot of the containers holds what was published last. -/
theorem containers_slot_run (events : List Event) :
    (run engines capacity events).containers.slot = containersAt engines capacity events := by
  have hseed : (spawn engines capacity).containers.slot = none := by
    unfold spawn
    dsimp only
    split_ifs <;> rfl
  refine (slot_run (·.containers.slot) (State.publishedContainers engines) (fun s e => ?_) hseed
    events).trans ?_
  · rw [containers_step]
    cases e
    case container e => exact PollLoop.slot_step e
    all_goals rfl
  · exact Option.or_none

/-- So does the slot of the cluster, or else its seed. -/
theorem kube_slot_run (events : List Event) :
    (run engines capacity events).kube.slot = kubeAt engines capacity events := by
  have hseed : (spawn engines capacity).kube.slot =
      if engines.cluster then none else some .unavailable := by
    unfold spawn
    dsimp only
    split_ifs <;> rfl
  refine slot_run (·.kube.slot) State.publishedKube (fun s e => ?_) hseed events
  rw [kube_step]
  cases e
  case cluster e => exact PollLoop.slot_step e
  all_goals rfl

/-- So does the slot of the GPUs, or else its seed. -/
theorem gpu_slot_run (events : List Event) :
    (run engines capacity events).gpu.slot = gpuAt engines capacity events := by
  have hseed : (spawn engines capacity).gpu.slot = if engines.gpu then none else some .unavailable := by
    unfold spawn
    dsimp only
    split_ifs <;> rfl
  refine slot_run (·.gpu.slot) State.publishedGpu (fun s e => ?_) hseed events
  rw [gpu_step]
  cases e
  case gpu e => exact PollLoop.slot_step e
  all_goals rfl

/-! ## Ticks -/

/-- How many steps the tick under way still takes. -/
def Phase.left : Phase → ℕ
  | .readContainers _ => 4
  | .readKube _ _ => 3
  | .readGpu _ _ _ => 2
  | .send _ => 1
  | _ => 0

/-- The event is a step that the system loop takes. -/
def State.ownStep (s : State) : Event → Prop
  | .tick _ => s.isIdle = true
  | .advance => 0 < s.phase.left
  | .stop => s.isIdle = true ∧ s.cancelled = true
  | .join => s.isJoining = true ∧ s.ended
  | _ => False

/-- Only its own steps move the system loop. -/
theorem phase_step {s : State} {e : Event} (h : ¬ s.ownStep e) : (step kind s e).phase = s.phase := by
  cases e
  case tick => exact congrArg State.phase (if_neg h)
  case stop => exact congrArg State.phase (if_neg h)
  case join => exact congrArg State.phase (if_neg h)
  case advance =>
    show (advance s).phase = s.phase
    cases hphase : s.phase
    case idle | joining | finished => unfold advance; rw [hphase]; exact hphase
    all_goals
      refine absurd ?_ h
      show 0 < s.phase.left
      rw [hphase]
      exact Nat.succ_pos _
  all_goals rfl

section

variable (engines : Engines) (capacity : ℕ)

/-- The last step that the system loop took was the event `e`, and of the events before it `past` holds. -/
def LastStep (past : List Event → Prop) (e : Event) (events : List Event) : Prop :=
  Runs.Latest (step (kindOf engines)) State.ownStep past e (spawn engines capacity) events

/-- The loop has begun a tick with what the host reported, and read no slot since. -/
def Ticked (host : HostSample) : List Event → Prop :=
  LastStep engines capacity (fun _ => True) (.tick host)

/-- Its next step was to read the containers, as they were known then. -/
def HasContainers (host : HostSample) (containers : Option ContainersSnapshot) : List Event → Prop :=
  LastStep engines capacity
    (fun before => Ticked engines capacity host before ∧ containers = containersAt engines capacity before)
    .advance

/-- Its next step was to read the cluster, as it was known then. -/
def HasKube (host : HostSample) (containers : Option ContainersSnapshot) (kube : Option KubeSnapshot) :
    List Event → Prop :=
  LastStep engines capacity
    (fun before => HasContainers engines capacity host containers before ∧
      kube = kubeAt engines capacity before)
    .advance

/-- Its next step was to read the GPUs, and of what it had read the snapshot is made. -/
def Gathered (snapshot : SystemSnapshot) : List Event → Prop :=
  LastStep engines capacity
    (fun before => ∃ host containers kube, HasKube engines capacity host containers kube before ∧
      snapshot.MadeOf host containers kube (gpuAt engines capacity before))
    .advance

/-- What the system loop has done so far in the tick under way. -/
def ReadSoFar (events : List Event) : Phase → Prop
  | .readContainers host => Ticked engines capacity host events
  | .readKube host containers => HasContainers engines capacity host containers events
  | .readGpu host containers kube => HasKube engines capacity host containers kube events
  | .send snapshot => Gathered engines capacity snapshot events
  | _ => True

end

/-- Where it stands it stays through the steps of others. -/
theorem ReadSoFar.later {events : List Event} {phase : Phase} (h : ReadSoFar engines capacity events phase)
    {e : Event} (hother : ¬ (run engines capacity events).ownStep e) :
    ReadSoFar engines capacity (events ++ [e]) phase := by
  cases phase with
  | readContainers host => exact Runs.Latest.later h hother
  | readKube host containers => exact Runs.Latest.later h hother
  | readGpu host containers kube => exact Runs.Latest.later h hother
  | send snapshot => exact Runs.Latest.later h hother
  | idle => trivial
  | joining => trivial
  | finished => trivial

/-- A run ends with its last event. -/
theorem run_concat (events : List Event) (e : Event) :
    run engines capacity (events ++ [e]) = step (kindOf engines) (run engines capacity events) e :=
  Runs.run_append _ _ _ _

/-- The next read of a tick is of the slot as it is then. -/
theorem readSoFar_advance {events : List Event} {s : State} (hrun : run engines capacity events = s)
    (hown : s.ownStep .advance) (h : ReadSoFar engines capacity events s.phase) :
    ReadSoFar engines capacity (events ++ [.advance]) (advance s).phase := by
  subst hrun
  unfold advance
  split
  case h_1 host hphase =>
    rw [hphase] at h
    exact Runs.latest_now ⟨h, containers_slot_run events⟩ hown
  case h_2 host containers hphase =>
    rw [hphase] at h
    exact Runs.latest_now ⟨h, kube_slot_run events⟩ hown
  case h_3 host containers kube hphase =>
    rw [hphase] at h
    refine Runs.latest_now ⟨host, containers, kube, h, ?_⟩ hown
    rw [gpu_slot_run]
    exact .collect ..
  case h_4 => split <;> trivial
  case h_5 hcontainers hkube hgpu hsend =>
    cases hphase : (run engines capacity events).phase
    case readContainers => exact absurd hphase (hcontainers _)
    case readKube => exact absurd hphase (hkube _ _)
    case readGpu => exact absurd hphase (hgpu _ _ _)
    case send => exact absurd hphase (hsend _)
    all_goals trivial

/-- In every run the system loop has done what its place in the tick asks for, and nothing since. -/
theorem readSoFar_run (events : List Event) :
    ReadSoFar engines capacity events (run engines capacity events).phase := by
  induction events using List.reverseRecOn with
  | nil => trivial
  | append_singleton events e ih =>
    rw [run_concat]
    by_cases hown : (run engines capacity events).ownStep e
    · cases e
      case advance => exact readSoFar_advance rfl hown ih
      case tick host =>
        have hphase : (step (kindOf engines) (run engines capacity events) (.tick host)).phase =
            .readContainers host := congrArg State.phase (if_pos hown)
        rw [hphase]
        exact Runs.latest_now trivial hown
      case stop =>
        have hphase : (step (kindOf engines) (run engines capacity events) .stop).phase = .joining :=
          congrArg State.phase (if_pos hown)
        rw [hphase]
        trivial
      case join =>
        have hphase : (step (kindOf engines) (run engines capacity events) .join).phase = .finished :=
          congrArg State.phase (if_pos hown)
        rw [hphase]
        trivial
      all_goals exact hown.elim
    · rw [phase_step hown]
      exact ih.later hown

/-! ## The channel -/

/-- The snapshot that an event puts into the channel. -/
def State.accepted (s : State) : Event → Option SystemSnapshot
  | .advance =>
    match s.phase with
    | .send snapshot => if s.channel.offer = .sent then some snapshot else none
    | _ => none
  | _ => none

/-- The snapshot that an event takes out of the channel. -/
def State.received (s : State) : Event → Option SystemSnapshot
  | .recv => s.channel.tryRecv.1
  | _ => none

/-- A snapshot was collected and put into the channel: a tick, the reads of the three slots and the offer
were five steps of the system loop with no other step of its own between them. -/
def Collected (engines : Engines) (capacity : ℕ) (events : List Event) (snapshot : SystemSnapshot) : Prop :=
  ∃ before after, events = before ++ .advance :: after ∧
    (run engines capacity before).accepted .advance = some snapshot ∧
    Gathered engines capacity snapshot before

/-- The system loop puts into the channel what it offers, if there is room. -/
theorem channel_advance {s : State} {accepted received : List SystemSnapshot}
    (h : s.channel.Ledger accepted received) :
    (advance s).channel.Ledger (accepted ++ (s.accepted .advance).toList) received := by
  unfold advance State.accepted
  cases hphase : s.phase
  case send snapshot =>
    have hsend := h.trySend snapshot
    cases hoffer : s.channel.offer
    case sent =>
      rw [hoffer] at hsend
      exact hsend
    all_goals
      dsimp only
      rw [if_neg (by decide), Option.toList_none, List.append_nil]
      exact h
  all_goals
    dsimp only
    rw [Option.toList_none, List.append_nil]
    exact h

/-- A run publishes last what its last event does. -/
theorem publications_concat {α : Type} (published : State → Event → Option α) (events : List Event)
    (e : Event) :
    publications engines capacity published (events ++ [e]) =
      publications engines capacity published events ++
        (published (run engines capacity events) e).toList := by
  rw [publications, Runs.trace_append, Runs.trace_cons, Runs.trace_nil, List.append_nil]
  rfl

/-- What an event does to the channel is in the ledger. -/
theorem ledger_step {s : State} {accepted received : List SystemSnapshot}
    (h : s.channel.Ledger accepted received) (e : Event) :
    (step kind s e).channel.Ledger (accepted ++ (s.accepted e).toList)
      (received ++ (s.received e).toList) := by
  have hsame : s.channel.Ledger (accepted ++ []) (received ++ []) := by
    rw [List.append_nil, List.append_nil]
    exact h
  cases e
  case advance =>
    have hoffered := channel_advance h
    rw [← List.append_nil received] at hoffered
    exact hoffered
  case recv =>
    have htaken := h.tryRecv
    rw [← List.append_nil accepted] at htaken
    exact htaken
  case close =>
    have hclosed := h.close
    rw [← List.append_nil accepted, ← List.append_nil received] at hclosed
    exact hclosed
  case tick => unfold step; dsimp only; split_ifs <;> exact hsame
  case stop => unfold step; dsimp only; split_ifs <;> exact hsame
  case join => unfold step; dsimp only; split_ifs <;> exact hsame
  all_goals exact hsame

/-- What was put into the channel arrives in order; what has not arrived is queued, within the capacity,
or was lost with the receiver. -/
theorem ledger_run (events : List Event) :
    (run engines capacity events).channel.Ledger (publications engines capacity State.accepted events)
      (publications engines capacity State.received events) := by
  induction events using List.reverseRecOn with
  | nil => exact BoundedChannel.ledger_new capacity
  | append_singleton events e ih =>
    rw [run_concat, publications_concat, publications_concat]
    exact ledger_step ih e

/-- The snapshot of an offer that is taken has just been gathered. -/
theorem gathered_of_accepted {events : List Event} {snapshot : SystemSnapshot} {e : Event}
    (h : (run engines capacity events).accepted e = some snapshot) :
    e = .advance ∧ Gathered engines capacity snapshot events := by
  have hread := @readSoFar_run engines capacity events
  unfold State.accepted at h
  split at h
  case h_2 => cases h
  case h_1 =>
    split at h
    case h_2 => cases h
    case h_1 sent hphase =>
      split_ifs at h
      · rw [hphase] at hread
        rw [← Option.some.inj h]
        exact ⟨rfl, hread⟩

/-- Whatever was put into the channel had been collected. -/
theorem collected_of_accepted {events : List Event} {snapshot : SystemSnapshot}
    (h : snapshot ∈ publications engines capacity State.accepted events) :
    Collected engines capacity events snapshot := by
  obtain ⟨before, e, after, rfl, hmem⟩ := (Runs.mem_trace ..).1 h
  have haccepted := Option.mem_toList.1 hmem
  obtain ⟨rfl, hgathered⟩ := gathered_of_accepted haccepted
  exact ⟨before, after, rfl, haccepted, hgathered⟩

/-- **What arrives from the collector.** In every run, whatever the order of the steps: the snapshots that
the receiver takes are those that were put into the channel, in order and unaltered, the rest of which is
queued within its capacity while the receiver is there. Whenever a snapshot is put there, the last four
steps that the system loop took were a tick and the reads of the three slots, and the snapshot is made of
what the host reported at that tick and, for each engine, what its loop had published last at that read. -/
theorem received_snapshots (engines : Engines) (capacity : ℕ) (events : List Event) :
    (run engines capacity events).channel.Ledger (publications engines capacity State.accepted events)
        (publications engines capacity State.received events) ∧
      (∀ before e after snapshot, events = before ++ e :: after →
        (run engines capacity before).accepted e = some snapshot →
        e = .advance ∧ Gathered engines capacity snapshot before) ∧
      ∀ snapshot ∈ publications engines capacity State.received events,
        Collected engines capacity events snapshot := by
  have hledger := @ledger_run engines capacity events
  refine ⟨hledger, fun before e after snapshot _ haccepted => gathered_of_accepted haccepted, ?_⟩
  exact fun snapshot h => collected_of_accepted (hledger.received_prefix.subset h)

/-! ## What the tasks leave alone -/

/-- No task takes a snapshot, closes the channel or cancels. -/
theorem task_leaves {e : Event} (h : e.isTask = true) (s : State) :
    s.received e = none ∧ (step kind s e).channel.closed = s.channel.closed ∧
      (step kind s e).cancelled = s.cancelled := by
  cases e
  case recv | close | cancel => cases h
  case advance =>
    refine ⟨rfl, ?_, (advance_slots s).2.2.2⟩
    show (advance s).channel.closed = _
    unfold advance
    split
    case h_4 => split <;> simp
    all_goals rfl
  case tick => unfold step; dsimp only; split_ifs <;> exact ⟨rfl, rfl, rfl⟩
  case stop => unfold step; dsimp only; split_ifs <;> exact ⟨rfl, rfl, rfl⟩
  case join => unfold step; dsimp only; split_ifs <;> exact ⟨rfl, rfl, rfl⟩
  all_goals exact ⟨rfl, rfl, rfl⟩

/-- Taking a snapshot leaves the channel as open as it was. -/
theorem closed_recv (s : State) : (step kind s .recv).channel.closed = s.channel.closed :=
  BoundedChannel.closed_tryRecv

/-! ## The end -/

/-- What has to have happened for the tasks to stand where they do. -/
structure Winding (engines : Engines) (s : State) : Prop where
  finished : s.phase = .finished → s.ended
  left : s.phase = .joining ∨ s.phase = .finished → s.cancelled = true ∨ s.channel.closed = true
  container : engines.container.isSome = true → s.containers.phase = .ended → s.cancelled = true
  cluster : engines.cluster = true → s.kube.phase = .ended → s.cancelled = true
  gpu : engines.gpu = true → s.gpu.phase = .ended → s.cancelled = true

/-- At the start nothing is winding down. -/
theorem winding_spawn : Winding engines (spawn engines capacity) where
  finished := nofun
  left h := h.elim nofun nofun
  container h := by
    unfold spawn
    rw [if_pos h]
    exact nofun
  cluster h := by
    unfold spawn
    rw [if_pos h]
    exact nofun
  gpu h := by
    unfold spawn
    rw [if_pos h]
    exact nofun

/-- A polling loop that has ended under the token has been cancelled, whatever it does next. -/
theorem cancelled_of_ended_step {α ρ : Type} {publish : ρ → α} {p : PollLoop α} {cancelled : Bool}
    (h : p.phase = .ended → cancelled = true) {e : PollLoop.Event ρ}
    (hended : (p.step publish cancelled e).phase = .ended) : cancelled = true := by
  by_cases hp : p.phase = .ended
  · exact h hp
  · exact PollLoop.cancelled_of_ended hp hended

/-- The system loop leaves when the channel is closed. -/
theorem winding_advance {s : State} (h : Winding engines s) : Winding engines (advance s) := by
  obtain ⟨hcontainers, hkube, hgpu, hcancelled⟩ := advance_slots s
  have hloops {phase : Phase} {channel : BoundedChannel SystemSnapshot}
      (hfinished : phase ≠ .finished)
      (hleft : phase = .joining → s.cancelled = true ∨ channel.closed = true) :
      Winding engines { s with phase := phase, channel := channel } :=
    ⟨fun hf => absurd hf hfinished, fun hl => hl.elim hleft fun hf => absurd hf hfinished,
      h.container, h.cluster, h.gpu⟩
  unfold advance
  split
  case h_1 => exact hloops nofun nofun
  case h_2 => exact hloops nofun nofun
  case h_3 => exact hloops nofun nofun
  case h_4 =>
    split
    case h_1 => exact hloops nofun nofun
    case h_2 => exact hloops nofun nofun
    case h_3 hoffer =>
      refine hloops nofun fun _ => .inr ?_
      unfold BoundedChannel.offer at hoffer
      split_ifs at hoffer with hclosed
      · exact hclosed
  case h_5 => exact h

/-- The tasks end one by one, and the collector after them. -/
theorem winding_step {s : State} (h : Winding engines s) (e : Event) :
    Winding engines (step kind s e) := by
  cases e
  case cancel => exact ⟨h.finished, fun _ => .inl rfl, fun _ _ => rfl, fun _ _ => rfl, fun _ _ => rfl⟩
  case recv =>
    refine ⟨h.finished, fun hleft => ?_, h.container, h.cluster, h.gpu⟩
    show s.cancelled = true ∨ s.channel.tryRecv.2.closed = true
    rw [BoundedChannel.closed_tryRecv]
    exact h.left hleft
  case close => exact ⟨h.finished, fun _ => .inr rfl, h.container, h.cluster, h.gpu⟩
  case tick host =>
    unfold step
    dsimp only
    split_ifs
    · exact ⟨nofun, fun hleft => hleft.elim nofun nofun, h.container, h.cluster, h.gpu⟩
    · exact h
  case advance => exact winding_advance h
  case stop =>
    unfold step
    dsimp only
    split_ifs with hstop
    · exact ⟨nofun, fun _ => .inl hstop.2, h.container, h.cluster, h.gpu⟩
    · exact h
  case join =>
    unfold step
    dsimp only
    split_ifs with hjoin
    · have hjoining : s.phase = .joining := by
        have hphase := hjoin.1
        unfold State.isJoining at hphase
        split at hphase
        · assumption
        · cases hphase
      exact ⟨fun _ => hjoin.2, fun _ => h.left (.inl hjoining), h.container, h.cluster, h.gpu⟩
    · exact h
  -- once a loop has ended its own events move it no more, so the end stays the end
  case container e =>
    refine ⟨fun hf => ?_, h.left, fun hc => cancelled_of_ended_step (h.container hc), h.cluster, h.gpu⟩
    obtain ⟨hcontainers, hkube, hgpu⟩ := h.finished hf
    refine ⟨?_, hkube, hgpu⟩
    show (s.containers.step _ _ e).phase = .ended
    rw [PollLoop.step_of_ended hcontainers]
    exact hcontainers
  case cluster e =>
    refine ⟨fun hf => ?_, h.left, h.container, fun hc => cancelled_of_ended_step (h.cluster hc), h.gpu⟩
    obtain ⟨hcontainers, hkube, hgpu⟩ := h.finished hf
    refine ⟨hcontainers, ?_, hgpu⟩
    show (s.kube.step _ _ e).phase = .ended
    rw [PollLoop.step_of_ended hkube]
    exact hkube
  case gpu e =>
    refine ⟨fun hf => ?_, h.left, h.container, h.cluster, fun hc => cancelled_of_ended_step (h.gpu hc)⟩
    obtain ⟨hcontainers, hkube, hgpu⟩ := h.finished hf
    refine ⟨hcontainers, hkube, ?_⟩
    show (s.gpu.step _ _ e).phase = .ended
    rw [PollLoop.step_of_ended hgpu]
    exact hgpu

/-- This is so in every run. -/
theorem winding_run (events : List Event) : Winding engines (run engines capacity events) :=
  Runs.run_invariant (I := Winding engines) (fun _ e h => winding_step h e) events winding_spawn

/-- Once the handle has completed, the tasks stay as they are. -/
structure Same (s s' : State) : Prop where
  phase : s'.phase = s.phase
  containers : s'.containers = s.containers
  kube : s'.kube = s.kube
  gpu : s'.gpu = s.gpu

/-- Once everything has ended no event moves a task. -/
theorem same_step_of_finished {s : State} (hphase : s.phase = .finished) (hended : s.ended) (e : Event) :
    Same s (step kind s e) := by
  obtain ⟨hcontainers, hkube, hgpu⟩ := hended
  cases e
  case tick host =>
    have hidle : s.isIdle = false := by simp [State.isIdle, hphase]
    simp only [step, hidle]
    exact ⟨rfl, rfl, rfl, rfl⟩
  case advance =>
    have hstays : advance s = s := by simp [advance, hphase]
    exact ⟨congrArg State.phase hstays, congrArg State.containers hstays, congrArg State.kube hstays,
      congrArg State.gpu hstays⟩
  case stop =>
    have hidle : s.isIdle = false := by simp [State.isIdle, hphase]
    simp only [step, hidle]
    exact ⟨rfl, rfl, rfl, rfl⟩
  case join =>
    have hjoining : s.isJoining = false := by simp [State.isJoining, hphase]
    simp only [step, hjoining]
    exact ⟨rfl, rfl, rfl, rfl⟩
  case container e => exact ⟨rfl, PollLoop.step_of_ended hcontainers e, rfl, rfl⟩
  case cluster e => exact ⟨rfl, rfl, PollLoop.step_of_ended hkube e, rfl⟩
  case gpu e => exact ⟨rfl, rfl, rfl, PollLoop.step_of_ended hgpu e⟩
  all_goals exact ⟨rfl, rfl, rfl, rfl⟩

/-- Nor does any number of them. -/
theorem same_run_of_finished :
    (later : List Event) → {s : State} → s.phase = .finished → s.ended →
      Same s (Runs.run (step kind) s later)
  | [], _, _, _ => ⟨rfl, rfl, rfl, rfl⟩
  | e :: later, s, hphase, hended => by
    have hstep := @same_step_of_finished kind s hphase hended e
    have hended' : (step kind s e).ended := by
      unfold State.ended
      rw [hstep.containers, hstep.kube, hstep.gpu]
      exact hended
    have hrest := same_run_of_finished later (hstep.phase.trans hphase) hended'
    exact ⟨hrest.phase.trans hstep.phase, hrest.containers.trans hstep.containers,
      hrest.kube.trans hstep.kube, hrest.gpu.trans hstep.gpu⟩

/-! ### After a cancellation -/

/-- The events that wind the tasks down: the calls under way are answered, each loop takes the
cancellation, and the system loop ends its tick if it is in one. -/
def windDown (s : State) (containers : Except EngineError (List ContainerSnapshot))
    (kube : Except ClusterError KubeSnapshot) (gpu : Except GpuError GpusSnapshot) : List Event :=
  (s.containers.ending containers).map .container ++ ((s.kube.ending kube).map .cluster ++
    ((s.gpu.ending gpu).map .gpu ++
      [.advance, .advance, .advance, .advance, .stop, .join]))

/-- Events of the container loop run that loop and nothing else. -/
theorem run_containers (events : List (PollLoop.Event (Except EngineError (List ContainerSnapshot))))
    (s : State) :
    Runs.run (step kind) s (events.map .container) =
      { s with
        containers := events.foldl (PollLoop.step (publishContainers kind) s.cancelled) s.containers } := by
  induction events generalizing s with
  | nil => rfl
  | cons e events ih => exact ih _

/-- So do those of the cluster loop. -/
theorem run_kube (events : List (PollLoop.Event (Except ClusterError KubeSnapshot))) (s : State) :
    Runs.run (step kind) s (events.map .cluster) =
      { s with kube := events.foldl (PollLoop.step publishKube s.cancelled) s.kube } := by
  induction events generalizing s with
  | nil => rfl
  | cons e events ih => exact ih _

/-- So do those of the GPU loop. -/
theorem run_gpu (events : List (PollLoop.Event (Except GpuError GpusSnapshot))) (s : State) :
    Runs.run (step kind) s (events.map .gpu) =
      { s with gpu := events.foldl (PollLoop.step publishGpu s.cancelled) s.gpu } := by
  induction events generalizing s with
  | nil => rfl
  | cons e events ih => exact ih _

/-- A read leaves one step less to take. -/
theorem left_advance (s : State) : (advance s).phase.left ≤ s.phase.left - 1 := by
  unfold advance
  split
  case h_1 h => rw [h]; exact le_rfl
  case h_2 h => rw [h]; exact le_rfl
  case h_3 h => rw [h]; exact le_rfl
  case h_4 h =>
    rw [h]
    split <;> exact le_rfl
  case h_5 hcontainers hkube hgpu hsend =>
    cases hphase : s.phase
    case readContainers => exact absurd hphase (hcontainers _)
    case readKube => exact absurd hphase (hkube _ _)
    case readGpu => exact absurd hphase (hgpu _ _ _)
    case send => exact absurd hphase (hsend _)
    all_goals exact le_rfl

/-- A cancelled system loop between ticks, or on its way out, ends when the other loops have. -/
theorem finished_of_left {s : State} (hleft : s.phase.left = 0) (hcancelled : s.cancelled = true)
    (hended : s.ended) : (Runs.run (step kind) s [.stop, .join]).phase = .finished := by
  show (step kind (step kind s .stop) .join).phase = .finished
  cases hphase : s.phase
  case idle =>
    have hstop : step kind s .stop = { s with phase := .joining } :=
      if_pos ⟨by simp [State.isIdle, hphase], hcancelled⟩
    rw [hstop]
    exact congrArg State.phase (if_pos ⟨rfl, hended⟩)
  case joining =>
    have hstop : step kind s .stop = s := if_neg (by simp [State.isIdle, hphase])
    rw [hstop]
    exact congrArg State.phase (if_pos ⟨by simp [State.isJoining, hphase], hended⟩)
  case finished =>
    have hstop : step kind s .stop = s := if_neg (by simp [State.isIdle, hphase])
    have hjoin : step kind s .join = s := if_neg (by simp [State.isJoining, hphase])
    rw [hstop, hjoin]
    exact hphase
  all_goals
    rw [hphase] at hleft
    cases hleft

/-- A cancelled collector can always wind down, whatever the calls under way answer. -/
theorem windDown_finishes {s : State} (hcancelled : s.cancelled = true)
    (containers : Except EngineError (List ContainerSnapshot))
    (kube : Except ClusterError KubeSnapshot) (gpu : Except GpuError GpusSnapshot) :
    (Runs.run (step kind) s (windDown s containers kube gpu)).phase = .finished := by
  unfold windDown
  rw [Runs.run_append, run_containers, Runs.run_append, run_kube, Runs.run_append, run_gpu, hcancelled]
  dsimp only
  -- the loops have ended; the system loop is where it was
  generalize hdone : ({
    cancelled := true
    phase := s.phase
    channel := s.channel
    containers := (s.containers.ending containers).foldl (PollLoop.step (publishContainers kind) true)
      s.containers
    kube := (s.kube.ending kube).foldl (PollLoop.step publishKube true) s.kube
    gpu := (s.gpu.ending gpu).foldl (PollLoop.step publishGpu true) s.gpu } : State) = done
  have hended : done.ended := by
    subst hdone
    exact ⟨PollLoop.foldl_ending _ _, PollLoop.foldl_ending _ _, PollLoop.foldl_ending _ _⟩
  have hstill : done.cancelled = true := by
    subst hdone
    rfl
  have hadvance (t : State) (ht : t.ended ∧ t.cancelled = true) :
      (advance t).ended ∧ (advance t).cancelled = true := by
    obtain ⟨hcontainers, hkube, hgpu, hcancel⟩ := advance_slots t
    unfold State.ended
    rw [hcontainers, hkube, hgpu, hcancel]
    exact ht
  obtain ⟨hended', hcancelled'⟩ :=
    hadvance _ (hadvance _ (hadvance _ (hadvance _ ⟨hended, hstill⟩)))
  have hleft : (advance (advance (advance (advance done)))).phase.left = 0 := by
    have h₁ := left_advance done
    have h₂ := left_advance (advance done)
    have h₃ := left_advance (advance (advance done))
    have h₄ := left_advance (advance (advance (advance done)))
    have hmost : done.phase.left ≤ 4 := by
      cases done.phase <;> simp [Phase.left]
    omega
  exact finished_of_left hleft hcancelled' hended'

/-- The way to the end is made of steps of the tasks. -/
theorem isTask_windDown {s : State} {containers : Except EngineError (List ContainerSnapshot)}
    {kube : Except ClusterError KubeSnapshot} {gpu : Except GpuError GpusSnapshot} {e : Event}
    (h : e ∈ windDown s containers kube gpu) : e.isTask = true := by
  simp only [windDown, List.mem_append, List.mem_map] at h
  rcases h with ⟨_, _, rfl⟩ | ⟨_, _, rfl⟩ | ⟨_, _, rfl⟩ | h
  · rfl
  · rfl
  · rfl
  · simp only [List.mem_cons, List.not_mem_nil, or_false] at h
    rcases h with rfl | rfl | rfl | rfl | rfl | rfl <;> rfl

/-- Winding down takes two steps of each polling loop and six of the system loop at most. -/
theorem length_windDown (s : State) (containers : Except EngineError (List ContainerSnapshot))
    (kube : Except ClusterError KubeSnapshot) (gpu : Except GpuError GpusSnapshot) :
    (windDown s containers kube gpu).length ≤ 12 := by
  have hcontainers := s.containers.length_ending containers
  have hkube := s.kube.length_ending kube
  have hgpu := s.gpu.length_ending gpu
  simp only [windDown, List.length_append, List.length_map, List.length_cons, List.length_nil]
  omega

/-- **When the collector's handle completes.** In every run: once it has, all polling loops have ended and
nothing steps any more, and there was a cancellation, or no engine at all and a closed channel; and from
every state after a cancellation, whatever the calls under way answer, the tasks wind down in at most twelve
steps of their own. -/
theorem handle_completes (engines : Engines) (capacity : ℕ) (events : List Event) :
    let s := run engines capacity events
    (s.phase = .finished → s.ended ∧
      (s.cancelled = true ∨ s.channel.closed = true ∧ engines = ⟨none, false, false⟩) ∧
      ∀ later, Same s (run engines capacity (events ++ later))) ∧
    (s.cancelled = true → ∀ containers kube gpu,
      (windDown s containers kube gpu).length ≤ 12 ∧
      (∀ e ∈ windDown s containers kube gpu, e.isTask = true) ∧
      (run engines capacity (events ++ windDown s containers kube gpu)).phase = .finished) := by
  intro s
  have hwinding : Winding engines s := winding_run events
  constructor
  · intro hphase
    have hended := hwinding.finished hphase
    refine ⟨hended, ?_, fun later => ?_⟩
    · cases hcancelled : s.cancelled
      case true => exact .inl rfl
      case false =>
        right
        -- without a cancellation no loop that there is has ended
        have hlost {b : Prop} (h : s.cancelled = true) : b := by rw [hcancelled] at h; cases h
        refine ⟨(hwinding.left (.inr hphase)).elim hlost id, ?_⟩
        rcases engines with ⟨container, cluster, gpu⟩
        cases container with
        | some kind => exact hlost (hwinding.container rfl hended.1)
        | none =>
          cases cluster with
          | true => exact hlost (hwinding.cluster rfl hended.2.1)
          | false =>
            cases gpu with
            | true => exact hlost (hwinding.gpu rfl hended.2.2)
            | false => rfl
    · rw [run, Runs.run_append]
      exact same_run_of_finished later hphase hended
  · intro hcancelled containers kube gpu
    refine ⟨length_windDown s containers kube gpu, fun e he => isTask_windDown he, ?_⟩
    rw [run, Runs.run_append]
    exact windDown_finishes hcancelled containers kube gpu

end Collector

end Muxtop.Core
