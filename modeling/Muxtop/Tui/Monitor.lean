import Muxtop.Core.CollectorRuns
import Muxtop.Tui.Interface

/-!
# The monitor of the local machine

Reference: `run_app` of `src/main.rs`.

The collector's tasks and the interface's thread share a channel of four snapshots. When the thread has
left, `main` cancels the collector and waits for it.
-/

namespace Muxtop.Tui

open Muxtop.Core

/-- The whole program. -/
structure Monitor where
  collector : Collector.State
  interface : Interface

namespace Monitor

/-- A step of one of the collector's tasks, or of the interface's thread. -/
inductive Event
  | task (e : Collector.Event)
  | interface (e : Interface.Event)

def start (engines : Engines) (config : CliConfig) : Monitor where
  collector := Collector.spawn engines 4
  interface := .start config engines.container.isSome engines.cluster

/-- What the channel has first. -/
def next (m : Monitor) : Option SystemSnapshot := m.collector.channel.queue.head?

/-- What a step asks of the collector. The interface takes a snapshot, or drops its end of the channel, and
then `main` cancels. -/
def demands (m : Monitor) : Event → List Collector.Event
  | .task e => if e.isTask then [e] else []
  | .interface e =>
    match m.interface.demand e with
    | .nothing => []
    | .recv => [.recv]
    | .leave => [.close, .cancel]

def step (engines : Engines) (lib : Lib) (m : Monitor) (e : Event) : Monitor where
  collector := Runs.run (Collector.step (Collector.kindOf engines)) m.collector (m.demands e)
  interface :=
    match e with
    | .task _ => m.interface
    | .interface e => m.interface.step lib m.next e

def run (engines : Engines) (lib : Lib) (config : CliConfig) (events : List Event) : Monitor :=
  Runs.run (step engines lib) (start engines config) events

/-- What the collector and its channel see of a run. -/
def collectorEvents (engines : Engines) (lib : Lib) (config : CliConfig) (events : List Event) :
    List Collector.Event :=
  Runs.trace (step engines lib) demands (start engines config) events

variable {engines : Engines} {lib : Lib} {config : CliConfig} {m : Monitor}

/-! ## The collector's side -/

theorem run_concat (events : List Event) (e : Event) :
    run engines lib config (events ++ [e]) = step engines lib (run engines lib config events) e :=
  Runs.run_append _ _ _ _

theorem collectorEvents_concat (events : List Event) (e : Event) :
    collectorEvents engines lib config (events ++ [e]) =
      collectorEvents engines lib config events ++ (run engines lib config events).demands e := by
  rw [collectorEvents, Runs.trace_append, Runs.trace_cons, Runs.trace_nil, List.append_nil]
  rfl

/-- The collector runs as it does alone. -/
theorem collector_run (events : List Event) :
    (run engines lib config events).collector =
      Collector.run engines 4 (collectorEvents engines lib config events) := by
  induction events using List.reverseRecOn with
  | nil => rfl
  | append_singleton events e ih =>
    rw [run_concat, collectorEvents_concat, Collector.run, Runs.run_append]
    show Runs.run _ (run engines lib config events).collector _ = _
    rw [ih]
    rfl

/-- The snapshots that the collector has put into the channel, oldest first. -/
def sent (engines : Engines) (lib : Lib) (config : CliConfig) (events : List Event) :
    List SystemSnapshot :=
  Collector.publications engines 4 Collector.State.accepted (collectorEvents engines lib config events)

/-- The snapshots that the interface has taken out of it. -/
def taken (engines : Engines) (lib : Lib) (config : CliConfig) (events : List Event) :
    List SystemSnapshot :=
  Collector.publications engines 4 Collector.State.received (collectorEvents engines lib config events)

/-- What a step takes out of the channel. -/
def takes (m : Monitor) : Event → List SystemSnapshot
  | .task _ => []
  | .interface e => m.interface.takes m.next e

/-- What a step of the collector's tasks takes from the channel, and whether it leaves it open. -/
theorem step_task (m : Monitor) (e : Collector.Event) :
    Runs.trace (Collector.step (Collector.kindOf engines)) (fun s e => (s.received e).toList) m.collector
        (m.demands (.task e)) = [] ∧
      (step engines lib m (.task e)).collector.channel.closed = m.collector.channel.closed ∧
      (step engines lib m (.task e)).collector.cancelled = m.collector.cancelled := by
  by_cases htask : e.isTask = true
  · obtain ⟨hnone, hclosed, hcancelled⟩ :=
      @Collector.task_leaves (Collector.kindOf engines) _ htask m.collector
    have hdemands : m.demands (.task e) = [e] := if_pos htask
    simp only [step, hdemands]
    refine ⟨?_, hclosed, hcancelled⟩
    rw [Runs.trace_cons, hnone]
    rfl
  · have hdemands : m.demands (.task e) = [] := if_neg htask
    simp only [step, hdemands]
    exact ⟨rfl, rfl, rfl⟩

/-- The same of a step of the interface: it takes what its turn does, and closes and cancels where it asks
to leave. -/
theorem step_interface (m : Monitor) (e : Interface.Event) :
    Runs.trace (Collector.step (Collector.kindOf engines)) (fun s e => (s.received e).toList) m.collector
        (m.demands (.interface e)) = m.interface.takes m.next e ∧
      (step engines lib m (.interface e)).collector.channel.closed =
        (m.collector.channel.closed || decide (m.interface.demand e = .leave)) ∧
      (step engines lib m (.interface e)).collector.cancelled =
        (m.collector.cancelled || decide (m.interface.demand e = .leave)) := by
  cases hdemand : m.interface.demand e with
  | nothing =>
    simp only [step, demands, Interface.takes, hdemand]
    exact ⟨rfl, (Bool.or_false _).symm, (Bool.or_false _).symm⟩
  | recv =>
    simp only [step, demands, Interface.takes, hdemand]
    refine ⟨?_, ?_, (Bool.or_false _).symm⟩
    · rw [Runs.trace_cons, Runs.trace_nil, List.append_nil, if_pos trivial]
      exact congrArg Option.toList BoundedChannel.tryRecv_fst
    · exact (@Collector.closed_recv (Collector.kindOf engines) m.collector).trans (Bool.or_false _).symm
  | leave =>
    simp only [step, demands, Interface.takes, hdemand]
    exact ⟨rfl, (Bool.or_true _).symm, (Bool.or_true _).symm⟩

theorem taken_concat (events : List Event) (e : Event) :
    taken engines lib config (events ++ [e]) =
      taken engines lib config events ++ (run engines lib config events).takes e := by
  unfold taken
  rw [collectorEvents_concat, Collector.publications, Runs.trace_append]
  show _ ++ Runs.trace _ _ (Collector.run engines 4 (collectorEvents engines lib config events)) _ = _
  rw [← collector_run]
  rcases e with e | e
  · rw [(@step_task engines lib (run engines lib config events) e).1]
    rfl
  · rw [(@step_interface engines lib (run engines lib config events) e).1]
    rfl

/-! ## What is shown -/

/-- What the interface knows of the channel: what it found last was taken last, and the channel is closed
and the collector cancelled exactly when it has left. -/
structure Knows (m : Monitor) (seen : List SystemSnapshot) : Prop where
  holds : m.interface.Holds seen
  quits : m.interface.Quits m.collector.cancelled
  closed : m.collector.channel.closed = m.collector.cancelled

theorem knows_step {seen : List SystemSnapshot} (h : m.Knows seen) (e : Event) :
    (step engines lib m e).Knows (seen ++ m.takes e) := by
  rcases e with e | e
  · obtain ⟨-, hclosed, hcancelled⟩ := @step_task engines lib m e
    refine ⟨?_, ?_, ?_⟩
    · rw [takes, List.append_nil]
      exact h.holds
    · rw [hcancelled]
      exact h.quits
    · rw [hclosed, hcancelled]
      exact h.closed
  · obtain ⟨-, hclosed, hcancelled⟩ := @step_interface engines lib m e
    refine ⟨Interface.holds_step h.holds e, ?_, ?_⟩
    · rw [hcancelled]
      exact Interface.quits_step h.quits e
    · rw [hclosed, hcancelled, h.closed]

theorem knows_run (events : List Event) :
    (run engines lib config events).Knows (taken engines lib config events) := by
  induction events using List.reverseRecOn with
  | nil => exact ⟨Interface.holds_start _ _ _, Interface.quits_start _ _ _, rfl⟩
  | append_singleton events e ih =>
    rw [run_concat, taken_concat]
    exact knows_step ih e

/-- The interface takes up the snapshot that it found last, the channel being empty, and shows it. -/
def Delivers (m : Monitor) (snapshot : SystemSnapshot) : Prop := m.interface.Delivers m.next snapshot

/-- What the interface takes up is the newest snapshot that had been put into the channel. -/
theorem newest_of_delivers {events : List Event} {snapshot : SystemSnapshot}
    (h : (run engines lib config events).Delivers snapshot) :
    (sent engines lib config events).getLast? = some snapshot ∧
      Collector.Collected engines 4 (collectorEvents engines lib config events) snapshot := by
  have hknows := @knows_run engines lib config events
  have hledger := @Collector.ledger_run engines 4 (collectorEvents engines lib config events)
  rw [← collector_run] at hledger
  have hopen : (run engines lib config events).collector.channel.closed = false := by
    rw [hknows.closed]
    by_contra hleft
    exact hknows.quits.left.1 (by simpa using hleft) (Interface.there_of_draining h.poll)
  have hempty : (run engines lib config events).collector.channel.queue = [] :=
    List.head?_eq_none_iff.1 h.empty
  have hsent := hledger.open hopen
  rw [hempty, List.append_nil] at hsent
  have hlast : (sent engines lib config events).getLast? = some snapshot := by
    rw [← hknows.holds snapshot h.poll]
    exact congrArg List.getLast? hsent
  exact ⟨hlast, Collector.collected_of_accepted (List.mem_of_getLast? hlast)⟩

/-- Nothing but a delivery changes what is shown. -/
theorem lastSnapshot_step (m : Monitor) (e : Event) :
    (step engines lib m e).interface.app.lastSnapshot = m.interface.app.lastSnapshot ∨
      ∃ w snapshot, e = .interface (.drain w) ∧ m.Delivers snapshot := by
  rcases e with e | e
  · exact .inl rfl
  · rcases @Interface.lastSnapshot_step lib m.next m.interface e with hsame | ⟨w, snapshot, rfl, hdelivers⟩
    · exact .inl hsame
    · exact .inr ⟨w, snapshot, rfl, hdelivers⟩

/-- **The interface shows the newest snapshot.** In every run, whatever the order of the tasks' steps, the
interface's and the user's: a snapshot that is shown was the newest in the channel when it was taken up,
the view not being paused then, had been collected within one tick, and is shown until the next one; and
whenever the interface has emptied the channel and the view is not paused, it shows what was put there
last. -/
theorem shows_newest (engines : Engines) (lib : Lib) (config : CliConfig) (events : List Event) :
    (∀ snapshot, (run engines lib config events).interface.app.lastSnapshot = some snapshot →
      ∃ before w after, events = before ++ .interface (.drain w) :: after ∧
        (run engines lib config before).Delivers snapshot ∧
        (sent engines lib config before).getLast? = some snapshot ∧
        Collector.Collected engines 4 (collectorEvents engines lib config before) snapshot ∧
        ∀ mid, mid <+: after →
          (run engines lib config (before ++ .interface (.drain w) :: mid)).interface.app.lastSnapshot =
            some snapshot) ∧
    ∀ snapshot w, (run engines lib config events).Delivers snapshot →
      (run engines lib config (events ++ [.interface (.drain w)])).interface.app.lastSnapshot =
        (sent engines lib config events).getLast? := by
  constructor
  · intro snapshot hshown
    -- The step that put the snapshot up is the last that changed what is shown.
    have hnone : ¬ (start engines config).interface.app.lastSnapshot = some snapshot := nofun
    obtain ⟨before, e, after, rfl, hbefore, hkept⟩ := Runs.exists_gaining_step
      (I := fun m : Monitor => m.interface.app.lastSnapshot = some snapshot) events hnone hshown
    have hgained := hkept [] (List.nil_prefix ..)
    rw [Runs.run_append] at hgained
    change ¬ (run engines lib config before).interface.app.lastSnapshot = some snapshot at hbefore
    change (step engines lib (run engines lib config before) e).interface.app.lastSnapshot = some snapshot
      at hgained
    rcases @lastSnapshot_step engines lib (run engines lib config before) e with
      hsame | ⟨w, found, rfl, hdelivers⟩
    · exact absurd (hsame ▸ hgained) hbefore
    · obtain rfl := Option.some.inj ((Interface.lastSnapshot_of_delivers hdelivers w).symm.trans hgained)
      obtain ⟨hlast, hcollected⟩ := newest_of_delivers hdelivers
      exact ⟨before, w, after, rfl, hdelivers, hlast, hcollected, hkept⟩
  · intro snapshot w hdelivers
    rw [run_concat, (newest_of_delivers hdelivers).1]
    exact Interface.lastSnapshot_of_delivers hdelivers w

/-! ## The end -/

theorem run_tasks (tasks : List Collector.Event) (htasks : ∀ e ∈ tasks, e.isTask = true) (m : Monitor) :
    (Runs.run (step engines lib) m (tasks.map .task)).collector =
      Runs.run (Collector.step (Collector.kindOf engines)) m.collector tasks := by
  induction tasks generalizing m with
  | nil => rfl
  | cons e tasks ih =>
    have hcollector : (step engines lib m (.task e)).collector =
        Collector.step (Collector.kindOf engines) m.collector e := by
      simp only [step, demands, htasks e List.mem_cons_self]
      rfl
    rw [List.map_cons, Runs.run_cons, ih (fun e' he' => htasks e' (List.mem_cons_of_mem _ he')),
      hcollector, Runs.run_cons]

/-- A thread that is to leave asks for it at its next turn, if it has not gone. -/
theorem cancelled_of_stopped (h : m.interface.Quits m.collector.cancelled)
    (hstopped : m.interface.app.running = false ∨ m.interface.poll = .gone true) (w : World) :
    (step engines lib m (.interface (.drain w))).collector.cancelled = true := by
  rw [(@step_interface engines lib m (.drain w)).2.2]
  have hgone {failed : Bool} (hpoll : m.interface.poll = .gone failed) : m.collector.cancelled = true :=
    h.left.2 (Interface.not_there hpoll)
  rcases hstopped with hstopped | hpoll
  · rcases h.stopped hstopped with hpoll | ⟨failed, hpoll⟩
    · simp [Interface.demand, hpoll, hstopped]
    · rw [hgone hpoll, Bool.true_or]
  · rw [hgone hpoll, Bool.true_or]

/-- **When the program ends.** In every run the collector's handle completes only after the user has quit
or the terminal has failed; and from every state after that, whatever the engines' calls under way answer,
the interface's next turn and at most twelve steps of the tasks lead there. -/
theorem quitting_ends (engines : Engines) (lib : Lib) (config : CliConfig) (events : List Event) :
    let m := run engines lib config events
    let stopped := m.interface.app.running = false ∨ m.interface.poll = .gone true
    (m.collector.phase = .finished → stopped) ∧
      (stopped → ∀ w containers kube gpu,
        let tasks := Collector.windDown (step engines lib m (.interface (.drain w))).collector containers
          kube gpu
        tasks.length ≤ 12 ∧ (∀ e ∈ tasks, e.isTask = true) ∧
        (run engines lib config
          (events ++ .interface (.drain w) :: tasks.map .task)).collector.phase = .finished) := by
  intro m stopped
  have hknows := @knows_run engines lib config events
  constructor
  -- The collector can only have wound down because the interface had left and cancelled it.
  · intro hfinished
    have hwinding : Collector.Winding engines m.collector := by
      show Collector.Winding engines (run engines lib config events).collector
      rw [collector_run]
      exact Collector.winding_run _
    have hleft : m.collector.cancelled = true :=
      (hwinding.left (.inr hfinished)).elim id fun hclosed => hknows.closed.symm.trans hclosed
    have hgone := hknows.quits.left.1 hleft
    unfold Interface.there at hgone
    obtain ⟨failed, hpoll⟩ := Classical.not_forall_not.1 hgone
    rcases failed with _ | _
    · exact .inl (hknows.quits.quit hpoll)
    · exact .inr hpoll
  · intro hstopped w containers kube gpu tasks
    have hcancelled := @cancelled_of_stopped engines lib m hknows.quits hstopped w
    have htasks : ∀ e ∈ tasks, e.isTask = true := fun e he => Collector.isTask_windDown he
    refine ⟨Collector.length_windDown _ containers kube gpu, htasks, ?_⟩
    rw [run, Runs.run_append, Runs.run_cons, run_tasks _ htasks]
    exact Collector.windDown_finishes hcancelled containers kube gpu

end Monitor

end Muxtop.Tui
