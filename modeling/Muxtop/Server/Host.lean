import Muxtop.Core.CollectorRuns
import Muxtop.Server.AcceptLoop

/-!
# The server program

Reference: `main` of `muxtop-server/src/main.rs`, and the relay task in `run` of `server.rs`.

The collector and the server share a channel of four snapshots, whose receiver the relay owns, and a token,
which an interrupt fires. `main` waits for the accept loop and then for the collector; an accept that fails
ends it at once.
-/

namespace Muxtop.Server

open Muxtop.Core (SystemSnapshot Engines ContainerSnapshot KubeSnapshot GpusSnapshot EngineError
  ClusterError GpuError)

/-- What is left of the server's events when the relay's and the token's are taken out. -/
def ServerEvent.isServing : ServerEvent → Bool
  | .cancel | .collected _ | .relayCancelled => false
  | _ => true

structure Host where
  collector : Core.Collector.State
  server : ServerState

namespace Host

/-- A step of the collector's tasks, of the relay or of the rest of the server, or an interrupt. -/
inductive Event
  | task (e : Core.Collector.Event)
  | relay
  | relayCancelled
  | serve (e : ServerEvent)
  | interrupt

/-- What the relay finds when it polls the channel: a snapshot, or, when the sender is gone and nothing is
left, the end. -/
def polled (h : Host) : Option (Option SystemSnapshot) :=
  match h.collector.channel.queue with
  | snapshot :: _ => some (some snapshot)
  | [] => if h.collector.isFinished then some none else none

/-- What a step asks of the collector. The channel is closed where the relay ends. -/
def demands (h : Host) : Event → List Core.Collector.Event
  | .task e => if e.isTask then [e] else []
  | .relay =>
    if h.server.relayRunning then
      match h.polled with
      | some (some _) => [.recv]
      | some none => [.close]
      | none => []
    else []
  | .relayCancelled => if h.server.relayRunning ∧ h.server.cancelled then [.close] else []
  | .serve _ => []
  | .interrupt => [.cancel]

/-- What a step is to the server. -/
def served (h : Host) : Event → List ServerEvent
  | .task _ => []
  | .relay => if h.server.relayRunning then h.polled.toList.map .collected else []
  | .relayCancelled => [.relayCancelled]
  | .serve e => if e.isServing then [e] else []
  | .interrupt => [.cancel]

variable (engines : Engines) (layout : Proto.Layout) (config : ServerConfig)

def step (h : Host) (e : Event) : Host where
  collector := Runs.run (Core.Collector.step (Core.Collector.kindOf engines)) h.collector (h.demands e)
  server := Runs.run (serverStep layout config) h.server (h.served e)

def start (now : Instant) : Host := ⟨Core.Collector.spawn engines 4, .start config now⟩

def run (now : Instant) (events : List Event) : Host :=
  Runs.run (step engines layout config) (start engines config now) events

/-- What the collector and its channel see of a run. -/
def collectorEvents (now : Instant) (events : List Event) : List Core.Collector.Event :=
  Runs.trace (step engines layout config) demands (start engines config now) events

/-- The snapshot that the relay takes out of the channel in a step. -/
def takes (h : Host) : Event → List SystemSnapshot
  | .relay => if h.server.relayRunning then h.collector.channel.queue.head?.toList else []
  | _ => []

/-- The snapshot that the relay broadcasts in a step: what it takes, unless nobody listens. -/
def broadcasts (h : Host) (e : Event) : List SystemSnapshot :=
  if h.server.receiverCount = 0 then [] else h.takes e

variable {engines layout config} {now : Instant}

/-! ## What is broadcast -/

/-- A run ends with its last event. -/
theorem run_concat (events : List Event) (e : Event) :
    run engines layout config now (events ++ [e]) =
      step engines layout config (run engines layout config now events) e :=
  Runs.run_append _ _ _ _

/-- The collector sees last what the last event asks of it. -/
theorem collectorEvents_concat (events : List Event) (e : Event) :
    collectorEvents engines layout config now (events ++ [e]) =
      collectorEvents engines layout config now events ++
        (run engines layout config now events).demands e := by
  rw [collectorEvents, Runs.trace_append, Runs.trace_cons, Runs.trace_nil, List.append_nil]
  rfl

/-- The collector runs as it does alone. -/
theorem collector_run (events : List Event) :
    (run engines layout config now events).collector =
      Core.Collector.run engines 4 (collectorEvents engines layout config now events) := by
  induction events using List.reverseRecOn with
  | nil => rfl
  | append_singleton events e ih =>
    rw [run_concat, collectorEvents_concat, Core.Collector.run, Runs.run_append]
    show Runs.run _ (run engines layout config now events).collector _ = _
    rw [ih]
    rfl

/-- A poll finds what is first in the channel. -/
theorem polled_cons {h : Host} {snapshot : SystemSnapshot} {queue : List SystemSnapshot}
    (hqueue : h.collector.channel.queue = snapshot :: queue) : h.polled = some (some snapshot) := by
  unfold polled
  rw [hqueue]

/-- A poll of an empty channel finds its end once the collector has finished. -/
theorem polled_nil {h : Host} (hqueue : h.collector.channel.queue = []) :
    h.polled = if h.collector.isFinished then some none else none := by
  unfold polled
  rw [hqueue]

/-- What is taken out of the channel, the relay takes. -/
theorem received_step (h : Host) (e : Event) :
    Runs.trace (Core.Collector.step (Core.Collector.kindOf engines)) (fun s e => (s.received e).toList)
      h.collector (h.demands e) = h.takes e := by
  rcases e with e | _ | _ | e | _
  · by_cases htask : e.isTask = true
    · rw [demands, if_pos htask, Runs.trace_cons,
        (@Core.Collector.task_leaves (Core.Collector.kindOf engines) _ htask h.collector).1]
      rfl
    · rw [demands, if_neg htask]
      rfl
  · cases hrunning : h.server.relayRunning
    · simp only [demands, takes, hrunning]
      rfl
    · rcases hqueue : h.collector.channel.queue with _ | ⟨snapshot, queue⟩
      · simp only [demands, takes, hrunning, if_true, polled_nil hqueue, hqueue]
        cases h.collector.isFinished <;> rfl
      · simp only [demands, takes, hrunning, if_true, polled_cons hqueue, hqueue]
        show (h.collector.channel.tryRecv.1).toList ++ [] = _
        rw [BoundedChannel.tryRecv_fst, hqueue]
        rfl
  · unfold demands
    split_ifs <;> rfl
  · rfl
  · rfl

/-- The snapshots that the relay has taken out of the channel. -/
def taken (engines : Engines) (layout : Proto.Layout) (config : ServerConfig) (now : Instant)
    (events : List Event) : List SystemSnapshot :=
  Runs.trace (step engines layout config) takes (start engines config now) events

/-- What the relay takes is what the collector's channel has delivered. -/
theorem taken_eq (events : List Event) :
    taken engines layout config now events =
      Core.Collector.publications engines 4 Core.Collector.State.received
        (collectorEvents engines layout config now events) := by
  induction events using List.reverseRecOn with
  | nil => rfl
  | append_singleton events e ih =>
    have htaken : taken engines layout config now (events ++ [e]) =
        taken engines layout config now events ++ (run engines layout config now events).takes e := by
      unfold taken
      rw [Runs.trace_append, Runs.trace_cons, Runs.trace_nil, List.append_nil]
      rfl
    rw [htaken, collectorEvents_concat, Core.Collector.publications, Runs.trace_append,
      ← @received_step engines, ih, collector_run]
    rfl

/-- Only the relay changes what has been broadcast. -/
theorem relayed_serving (s : ServerState) {e : ServerEvent} (h : e.isServing = true) :
    (serverStep layout config s e).relayed = s.relayed := by
  have hcases := serverStep_cases layout config s e
  generalize serverStep layout config s e = s' at hcases
  rcases hcases with hsame | ⟨snapshot, -⟩ | ⟨call, -⟩ | ⟨j, step, -⟩
  · exact hsame.relayed
  · cases h
  · rcases s.accept_cases config call with ⟨-, hsame⟩ | ⟨-, -, -, -, -, hrelayed⟩
    · exact hsame.relayed
    · exact hrelayed
  · rcases s.stepTask_cases j step with heq | ⟨task, -, -, heq⟩ <;> rw [heq]

/-- A snapshot is relayed if anyone is there to receive it. -/
theorem relayed_relay (s : ServerState) (snapshot : SystemSnapshot) :
    (s.relay layout snapshot).relayed =
      s.relayed ++ if s.receiverCount = 0 then [] else [snapshot] := by
  unfold ServerState.relay
  split_ifs with hnone
  · exact (List.append_nil _).symm
  · rfl

/-- A step relays what it broadcasts. -/
theorem relayed_step (h : Host) (e : Event) :
    (step engines layout config h e).server.relayed = h.server.relayed ++ h.broadcasts e := by
  have hnothing : h.server.relayed = h.server.relayed ++ if h.server.receiverCount = 0 then [] else [] := by
    rw [ite_self, List.append_nil]
  show (Runs.run (serverStep layout config) h.server (h.served e)).relayed = _
  rcases e with e | _ | _ | e | _
  · exact hnothing
  · cases hrunning : h.server.relayRunning
    · simp only [served, broadcasts, takes, hrunning]
      exact hnothing
    · rcases hqueue : h.collector.channel.queue with _ | ⟨snapshot, queue⟩
      · simp only [served, broadcasts, takes, hrunning, if_true, polled_nil hqueue, hqueue]
        cases h.collector.isFinished <;> exact hnothing
      · simp only [served, broadcasts, takes, hrunning, if_true, polled_cons hqueue, hqueue]
        show (serverStep layout config h.server (.collected (some snapshot))).relayed = _
        simp only [serverStep, hrunning, if_true]
        exact relayed_relay h.server snapshot
  · have hcancelled : (serverStep layout config h.server .relayCancelled).relayed = h.server.relayed := by
      unfold serverStep
      split_ifs <;> rfl
    exact hcancelled.trans hnothing
  · by_cases hserving : e.isServing = true
    · rw [served, if_pos hserving]
      exact (relayed_serving h.server hserving).trans hnothing
    · rw [served, if_neg hserving]
      exact hnothing
  · exact hnothing

/-- What has been broadcast is what the relay took while there was somebody to listen. -/
theorem relayed_run (events : List Event) :
    (run engines layout config now events).server.relayed =
      Runs.trace (step engines layout config) broadcasts (start engines config now) events :=
  (Runs.log_run (fun h : Host => h.server.relayed) relayed_step events (start engines config now)).trans
    (List.nil_append _)

/-- What is relayed was taken. -/
theorem relayed_sublist_taken (events : List Event) :
    (run engines layout config now events).server.relayed.Sublist
      (taken engines layout config now events) := by
  rw [relayed_run]
  unfold taken
  generalize start engines config now = h
  induction events generalizing h with
  | nil => exact List.Sublist.refl _
  | cons e events ih =>
    rw [Runs.trace_cons, Runs.trace_cons]
    refine List.Sublist.append ?_ (ih _)
    unfold broadcasts
    split_ifs
    · exact List.nil_sublist _
    · exact List.Sublist.refl _

/-- Whatever has been broadcast was collected on this machine. -/
theorem collected_of_relayed {events : List Event} {snapshot : SystemSnapshot}
    (hmem : snapshot ∈ (run engines layout config now events).server.relayed) :
    Core.Collector.Collected engines 4 (collectorEvents engines layout config now events) snapshot := by
  have hreceived := (relayed_sublist_taken events).subset hmem
  rw [taken_eq] at hreceived
  exact Core.Collector.collected_of_accepted
    (List.IsPrefix.subset (BoundedChannel.Ledger.received_prefix (Core.Collector.ledger_run _)) hreceived)

/-- **What is broadcast.** In every run of the collector's tasks, the relay, the accept loop, the sessions
and an interrupt: the snapshots broadcast are, in order and unaltered, those that the relay took from the
collector while a client was connected, and each had been collected within one tick. -/
theorem relays (engines : Engines) (layout : Proto.Layout) (config : ServerConfig) (now : Instant)
    (events : List Event) :
    (run engines layout config now events).server.relayed =
        Runs.trace (step engines layout config) broadcasts (start engines config now) events ∧
      (run engines layout config now events).server.relayed.Sublist
        (Core.Collector.publications engines 4 Core.Collector.State.received
          (collectorEvents engines layout config now events)) ∧
      ∀ snapshot ∈ (run engines layout config now events).server.relayed,
        Core.Collector.Collected engines 4 (collectorEvents engines layout config now events) snapshot := by
  refine ⟨relayed_run events, ?_, fun snapshot h => collected_of_relayed h⟩
  rw [← taken_eq]
  exact relayed_sublist_taken events

/-! ## When the server stops -/

/-- The token, the relay and the accept loop are as they were. -/
structure SameFlags (s s' : ServerState) : Prop where
  cancelled : s'.cancelled = s.cancelled
  relayRunning : s'.relayRunning = s.relayRunning
  acceptLoop : s'.acceptLoop = s.acceptLoop

/-- Relaying ends nothing. -/
theorem sameFlags_relay (s : ServerState) (snapshot : SystemSnapshot) :
    SameFlags s (s.relay layout snapshot) := by
  unfold ServerState.relay
  split_ifs <;> exact ⟨rfl, rfl, rfl⟩

/-- Nor does accepting a connection. -/
theorem sameFlags_accept (s : ServerState) (call : Call) : SameFlags s (s.accept config call) := by
  simp only [ServerState.accept]
  split_ifs <;> exact ⟨rfl, rfl, rfl⟩

/-- Nor does the step of a session. -/
theorem sameFlags_stepTask (s : ServerState) (i : ℕ) (step : Task → Task) :
    SameFlags s (s.stepTask i step) := by
  rcases s.stepTask_cases i step with heq | ⟨task, -, -, heq⟩ <;> rw [heq] <;> exact ⟨rfl, rfl, rfl⟩

/-- What a step makes of the accept loop: it goes on, leaves at the token, or fails. -/
inductive AcceptLoopStep (s : ServerState) (e : ServerEvent) (loop : AcceptLoop) : Prop
  | same (h : loop = s.acceptLoop)
  | left (h : loop = .left (.ok ())) (hcancelled : s.cancelled = true)
  | failed {error : Proto.ErrorKind} (h : loop = .left (.error error))
      (hevent : e = .accepted (.error error))

/-- While the server serves, only the accept loop may end of itself. -/
theorem flags_serving (s : ServerState) {e : ServerEvent} (h : e.isServing = true) :
    (serverStep layout config s e).cancelled = s.cancelled ∧
      (serverStep layout config s e).relayRunning = s.relayRunning ∧
      AcceptLoopStep s e (serverStep layout config s e).acceptLoop := by
  -- Of the events served, only those of the accept loop touch a flag.
  have hsame {s' : ServerState} (hflags : SameFlags s s') :
      s'.cancelled = s.cancelled ∧ s'.relayRunning = s.relayRunning ∧ AcceptLoopStep s e s'.acceptLoop :=
    ⟨hflags.cancelled, hflags.relayRunning, .same hflags.acceptLoop⟩
  cases e
  case cancel | collected | relayCancelled => cases h
  case accepted result =>
    cases hloop : s.acceptLoop with
    | left result' =>
      have hstays : serverStep layout config s (.accepted result) = s := by simp only [serverStep, hloop]
      rw [hstays]
      exact hsame ⟨rfl, rfl, rfl⟩
    | running =>
      rcases result with error | call
      · have hfails : serverStep layout config s (.accepted (.error error)) =
            { s with acceptLoop := .left (.error error) } := by simp only [serverStep, hloop]
        rw [hfails]
        exact ⟨rfl, rfl, .failed rfl rfl⟩
      · have haccepts : serverStep layout config s (.accepted (.ok call)) = s.accept config call := by
          simp only [serverStep, hloop]
        rw [haccepts]
        exact hsame (sameFlags_accept s call)
  case acceptCancelled =>
    by_cases hleaves : s.acceptLoop = .running ∧ s.cancelled = true
    · have hleft : serverStep layout config s .acceptCancelled =
          { s with acceptLoop := .left (.ok ()) } := by
        simp only [serverStep, hleaves.1, hleaves.2, if_true]
      rw [hleft]
      exact ⟨rfl, rfl, .left rfl hleaves.2⟩
    · have hstays : serverStep layout config s .acceptCancelled = s := by
        simp only [serverStep]
        split
        · rfl
        next hloop => exact if_neg fun hcancelled => hleaves ⟨hloop, hcancelled⟩
      rw [hstays]
      exact hsame ⟨rfl, rfl, rfl⟩
  case tls i outcome => exact hsame (sameFlags_stepTask s i _)
  case recv i fault => exact hsame (sameFlags_stepTask s i _)
  case session i event =>
    simp only [serverStep]
    split_ifs
    · exact hsame (sameFlags_stepTask s i _)
    · exact hsame ⟨rfl, rfl, rfl⟩

/-- An accept has failed in these events. -/
def AcceptFailed (events : List Event) (error : Proto.ErrorKind) : Prop :=
  .serve (.accepted (.error error)) ∈ events

/-- How far the program is wound down, by what has happened so far. -/
structure Winding (h : Host) (events : List Event) : Prop where
  cancelled : h.server.cancelled = true ↔ .interrupt ∈ events
  token : h.collector.cancelled = h.server.cancelled
  closed : h.collector.channel.closed = !h.server.relayRunning
  relay : h.server.relayRunning = false → h.server.cancelled = true
  left : h.server.acceptLoop = .left (.ok ()) → h.server.cancelled = true
  failed : ∀ error, h.server.acceptLoop = .left (.error error) → AcceptFailed events error

/-- A step at which the token and the relay stay as they are. -/
theorem Winding.concat {h h' : Host} {events : List Event} {e : Event} (hw : h.Winding events)
    (he : e ≠ .interrupt) (hcancelled : h'.server.cancelled = h.server.cancelled)
    (htoken : h'.collector.cancelled = h.collector.cancelled)
    (hclosed : h'.collector.channel.closed = !h'.server.relayRunning)
    (hrelay : h'.server.relayRunning = false → h.server.cancelled = true)
    (hleft : h'.server.acceptLoop = .left (.ok ()) → h.server.cancelled = true)
    (hfailed : ∀ error, h'.server.acceptLoop = .left (.error error) → AcceptFailed (events ++ [e]) error) :
    h'.Winding (events ++ [e]) := by
  refine ⟨?_, ?_, hclosed, fun hno => hcancelled.trans (hrelay hno),
    fun hl => hcancelled.trans (hleft hl), hfailed⟩
  · rw [hcancelled, hw.cancelled, List.mem_append, List.mem_singleton, or_iff_left (Ne.symm he)]
  · rw [htoken, hcancelled, hw.token]

/-- What has failed stays failed. -/
theorem AcceptFailed.later {events : List Event} {error : Proto.ErrorKind} (h : AcceptFailed events error)
    (e : Event) : AcceptFailed (events ++ [e]) error := List.mem_append_left _ h

/-- A step of the relay: it goes on, or ends where the collector has. -/
theorem winding_relay {h : Host} {events : List Event} (hw : h.Winding events)
    (hcollector : Core.Collector.Winding engines h.collector) :
    (step engines layout config h .relay).Winding (events ++ [.relay]) := by
  have hlater error (hl : h.server.acceptLoop = .left (.error error)) := (hw.failed error hl).later .relay
  cases hrunning : h.server.relayRunning
  · have hsame : step engines layout config h .relay = h := by
      simp only [step, demands, served, hrunning]
      rfl
    rw [hsame]
    exact hw.concat nofun rfl rfl hw.closed hw.relay hw.left hlater
  · rcases hqueue : h.collector.channel.queue with _ | ⟨snapshot, queue⟩
    · cases hfinished : h.collector.isFinished
      · have hsame : step engines layout config h .relay = h := by
          simp only [step, demands, served, hrunning, polled_nil hqueue, hfinished]
          rfl
        rw [hsame]
        exact hw.concat nofun rfl rfl hw.closed hw.relay hw.left hlater
      · -- the sender is gone, so the collector has been cancelled
        have hphase : h.collector.phase = .finished := by
          unfold Core.Collector.State.isFinished at hfinished
          split at hfinished
          · assumption
          · cases hfinished
        have hopen : h.collector.channel.closed = false := by rw [hw.closed, hrunning]; rfl
        have hcancelled : h.server.cancelled = true := by
          rw [← hw.token]
          rcases hcollector.left (.inr hphase) with hcancelled | hclosed
          · exact hcancelled
          · rw [hopen] at hclosed
            cases hclosed
        have hstep : step engines layout config h .relay =
            ⟨{ h.collector with channel := h.collector.channel.close },
              { h.server with relayRunning := false }⟩ := by
          simp only [step, demands, served, hrunning, polled_nil hqueue, hfinished]
          rfl
        rw [hstep]
        exact hw.concat nofun rfl rfl rfl (fun _ => hcancelled) hw.left hlater
    · have hflags := @sameFlags_relay layout h.server snapshot
      have hstep : step engines layout config h .relay =
          ⟨Core.Collector.step (Core.Collector.kindOf engines) h.collector .recv,
            h.server.relay layout snapshot⟩ := by
        simp only [step, demands, served, hrunning, polled_cons hqueue, if_true]
        show (⟨_, serverStep layout config h.server (.collected (some snapshot))⟩ : Host) = _
        simp only [serverStep, hrunning, if_true]
        rfl
      rw [hstep]
      refine hw.concat nofun hflags.cancelled rfl ?_ ?_ ?_ ?_
      · show _ = !(h.server.relay layout snapshot).relayRunning
        rw [hflags.relayRunning, ← hw.closed]
        exact @Core.Collector.closed_recv (Core.Collector.kindOf engines) h.collector
      · show (h.server.relay layout snapshot).relayRunning = false → _
        rw [hflags.relayRunning]
        exact hw.relay
      · show (h.server.relay layout snapshot).acceptLoop = _ → _
        rw [hflags.acceptLoop]
        exact hw.left
      · intro error
        show (h.server.relay layout snapshot).acceptLoop = _ → _
        rw [hflags.acceptLoop]
        exact hlater error

/-- The parts of the server end in order, whatever the event. -/
theorem winding_step {h : Host} {events : List Event} (hw : h.Winding events)
    (hcollector : Core.Collector.Winding engines h.collector) (e : Event) :
    (step engines layout config h e).Winding (events ++ [e]) := by
  have hlater error (hl : h.server.acceptLoop = .left (.error error)) := (hw.failed error hl).later e
  rcases e with e | _ | _ | e | _
  · by_cases htask : e.isTask = true
    · obtain ⟨-, hclosed, hcancelled⟩ :=
        @Core.Collector.task_leaves (Core.Collector.kindOf engines) _ htask h.collector
      have hstep : step engines layout config h (.task e) =
          ⟨Core.Collector.step (Core.Collector.kindOf engines) h.collector e, h.server⟩ := by
        simp only [step, demands, htask]
        rfl
      rw [hstep]
      exact hw.concat (fun h => by cases h) rfl hcancelled (hclosed.trans hw.closed) hw.relay hw.left hlater
    · have hstep : step engines layout config h (.task e) = h := by
        simp only [step, demands, if_neg htask]
        rfl
      rw [hstep]
      exact hw.concat (fun h => by cases h) rfl rfl hw.closed hw.relay hw.left hlater
  · exact winding_relay hw hcollector
  · by_cases hends : h.server.relayRunning = true ∧ h.server.cancelled = true
    · have hstep : step engines layout config h .relayCancelled =
          ⟨{ h.collector with channel := h.collector.channel.close },
            { h.server with relayRunning := false }⟩ := by
        simp only [step, demands, served, hends]
        show (⟨_, serverStep layout config h.server .relayCancelled⟩ : Host) = _
        simp only [serverStep, hends.2]
        rfl
      rw [hstep]
      exact hw.concat (fun h => by cases h) rfl rfl rfl (fun _ => hends.2) hw.left hlater
    · have hstep : step engines layout config h .relayCancelled = h := by
        have hserver : serverStep layout config h.server .relayCancelled = h.server := by
          simp only [serverStep]
          split_ifs with hcancelled
          · have hno : h.server.relayRunning = false := by simpa [hcancelled] using hends
            rw [← hno]
          · rfl
        simp only [step, demands, if_neg hends]
        show (⟨_, serverStep layout config h.server .relayCancelled⟩ : Host) = _
        rw [hserver]
        rfl
      rw [hstep]
      exact hw.concat (fun h => by cases h) rfl rfl hw.closed hw.relay hw.left hlater
  · by_cases hserving : e.isServing = true
    · obtain ⟨hcancelled, hrelay, haccept⟩ := @flags_serving layout config h.server e hserving
      have hstep : step engines layout config h (.serve e) =
          ⟨h.collector, serverStep layout config h.server e⟩ := by
        simp only [step, served, if_pos hserving]
        rfl
      rw [hstep]
      refine hw.concat (fun h => by cases h) hcancelled rfl (hw.closed.trans (congrArg not hrelay.symm))
        (fun hno => hw.relay (hrelay.symm.trans hno)) ?_ ?_
      · intro hloop
        rcases haccept with hsame | ⟨-, hleaves⟩ | ⟨hfails, -⟩
        · exact hw.left (hsame.symm.trans hloop)
        · exact hleaves
        · cases hfails.symm.trans hloop
      · intro error hloop
        rcases haccept with hsame | ⟨hleaves, -⟩ | ⟨hfails, hevent⟩
        · exact hlater error (hsame.symm.trans hloop)
        · cases hleaves.symm.trans hloop
        · cases hfails.symm.trans hloop
          rw [hevent]
          exact List.mem_append_right _ List.mem_cons_self
    · have hstep : step engines layout config h (.serve e) = h := by
        simp only [step, served, if_neg hserving]
        rfl
      rw [hstep]
      exact hw.concat (fun h => by cases h) rfl rfl hw.closed hw.relay hw.left hlater
  · exact ⟨⟨fun _ => List.mem_append_right _ List.mem_cons_self, fun _ => rfl⟩, rfl, hw.closed,
      fun _ => rfl, fun _ => rfl, hlater⟩

/-- So do the collector's. -/
theorem collector_winding (events : List Event) :
    Core.Collector.Winding engines (run engines layout config now events).collector := by
  rw [collector_run]
  exact Core.Collector.winding_run _

/-- This is so in every run. -/
theorem winding_run (events : List Event) : (run engines layout config now events).Winding events := by
  induction events using List.reverseRecOn with
  | nil => exact ⟨⟨nofun, nofun⟩, rfl, rfl, nofun, nofun, nofun⟩
  | append_singleton events e ih =>
    rw [run_concat]
    exact winding_step ih (collector_winding events) e

/-- Steps of the collector's tasks are steps of the collector. -/
theorem run_tasks (tasks : List Core.Collector.Event) (htasks : ∀ e ∈ tasks, e.isTask = true) (h : Host) :
    Runs.run (step engines layout config) h (tasks.map .task) =
      ⟨Runs.run (Core.Collector.step (Core.Collector.kindOf engines)) h.collector tasks, h.server⟩ := by
  induction tasks generalizing h with
  | nil => rfl
  | cons e tasks ih =>
    have hstep : step engines layout config h (.task e) =
        ⟨Core.Collector.step (Core.Collector.kindOf engines) h.collector e, h.server⟩ := by
      simp only [step, demands, htasks e List.mem_cons_self]
      rfl
    rw [List.map_cons, Runs.run_cons, ih (fun e' he' => htasks e' (List.mem_cons_of_mem _ he')), hstep,
      Runs.run_cons]

/-- **When the server stops.** In every run, as long as there has been no interrupt, the relay takes what
the collector sends, the collector's system loop goes on, and the accept loop goes on unless an accept has
failed. After an interrupt, where no accept has failed, the accept loop and the collector's tasks have
steps that end the program, whatever the engines' calls under way answer. -/
theorem serves_until_interrupted (engines : Engines) (layout : Proto.Layout) (config : ServerConfig)
    (now : Instant) (events : List Event) :
    let h := run engines layout config now events
    (.interrupt ∉ events →
      h.server.relayRunning = true ∧ h.collector.channel.closed = false ∧
        ¬ (h.collector.phase = .joining ∨ h.collector.phase = .finished) ∧
        ∀ result, h.server.acceptLoop = .left result →
          ∃ error, result = .error error ∧ AcceptFailed events error) ∧
    (.interrupt ∈ events → (∀ error, h.server.acceptLoop ≠ .left (.error error)) →
      ∀ containers kube gpu,
        let ended := run engines layout config now (events ++ .serve .acceptCancelled ::
          (Core.Collector.windDown h.collector containers kube gpu).map .task)
        ended.server.acceptLoop = .left (.ok ()) ∧ ended.collector.phase = .finished) := by
  intro h
  have hwinding := @winding_run engines layout config now events
  constructor
  · intro hnone
    have hcancelled : h.server.cancelled = false := by
      by_contra hcancelled
      exact hnone (hwinding.cancelled.1 (by simpa using hcancelled))
    have hrunning : h.server.relayRunning = true := by
      by_contra hstopped
      exact absurd (hcancelled.symm.trans (hwinding.relay (by simpa using hstopped))) nofun
    have hopen : h.collector.channel.closed = false := hwinding.closed.trans (congrArg not hrunning)
    refine ⟨hrunning, hopen, fun hleft => ?_, ?_⟩
    · rcases (collector_winding events).left hleft with htoken | hclosed
      · exact absurd ((hwinding.token.symm.trans htoken).symm.trans hcancelled) nofun
      · exact absurd (hopen.symm.trans hclosed) nofun
    · rintro (error | _) hloop
      · exact ⟨error, rfl, hwinding.failed error hloop⟩
      · exact absurd (hcancelled.symm.trans (hwinding.left hloop)) nofun
  · intro hinterrupt hfine containers kube gpu
    have hcancelled : h.server.cancelled = true := hwinding.cancelled.2 hinterrupt
    have hleaves : step engines layout config h (.serve .acceptCancelled) =
        ⟨h.collector, { h.server with acceptLoop := .left (.ok ()) }⟩ := by
      show (⟨h.collector, serverStep layout config h.server .acceptCancelled⟩ : Host) = _
      cases hloop : h.server.acceptLoop with
      | running => simp only [serverStep, hloop, hcancelled, if_true]
      | left result =>
        rcases result with error | _
        · exact absurd hloop (hfine error)
        · simp only [serverStep, hloop]
          rw [← hloop]
    have hend := @run_tasks engines layout config
      (Core.Collector.windDown h.collector containers kube gpu)
      (fun _ he => Core.Collector.isTask_windDown he) (step engines layout config h (.serve .acceptCancelled))
    have hrun : run engines layout config now (events ++ .serve .acceptCancelled ::
        (Core.Collector.windDown h.collector containers kube gpu).map .task) =
        ⟨Runs.run (Core.Collector.step (Core.Collector.kindOf engines)) h.collector
          (Core.Collector.windDown h.collector containers kube gpu),
          { h.server with acceptLoop := .left (.ok ()) }⟩ := by
      rw [run, Runs.run_append, Runs.run_cons]
      show Runs.run _ (step engines layout config h (.serve .acceptCancelled)) _ = _
      rw [hend, hleaves]
    simp only [hrun]
    exact ⟨trivial, Core.Collector.windDown_finishes (hwinding.token.trans hcancelled) containers kube gpu⟩

end Host

end Muxtop.Server
