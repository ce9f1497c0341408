import Mathlib.Data.List.DropRight
import Muxtop.Core.DockerEngine
import Muxtop.Core.KubeEngine
import Muxtop.Foundation.TaskPool
import Muxtop.Tui.Confirmations

/-!
# The tasks of the actions

Reference: `execute_container_action`, `toggle_kube_scope`, `pump_action_results` and `quit` of
`muxtop-tui/src/app.rs`; `EngineError` of `muxtop-core/src/container_engine.rs`.

A container action that has been confirmed, and a namespace toggle, run in a task of their own, which tells
the interface how they came out. The interface's loop takes up what the tasks have told it before it asks for
an event. When the user quits, the tasks that are still there return and tell nothing.
-/

namespace Muxtop.Tui

open Muxtop.Core

/-! ## What is told -/

/-- `{:?}` of a `Duration` of some milliseconds. -/
def durationDebug (ms : ℕ) : String :=
  if ms = 0 then "0ns"
  else if ms < 1000 then toString ms ++ "ms"
  else
    let decimals := ((toString (1000 + ms % 1000)).toList.drop 1).rdropWhile (· = '0')
    toString (ms / 1000) ++ (if decimals = [] then "" else "." ++ String.ofList decimals) ++ "s"

example : durationDebug 10000 = "10s" ∧ durationDebug 1500 = "1.5s" := by decide

/-- The text of an error. -/
def engineErrorText : EngineError → String
  | .connectFailed reason => "container engine connection failed: " ++ reason
  | .containerNotFound id => "container not found: " ++ id
  | .permissionDenied reason => "permission denied: " ++ reason
  | .timeout budget => "operation timed out after " ++ durationDebug budget
  | .other reason => "engine error: " ++ reason

inductive ContainerCall
  | stop | kill | restart
deriving DecidableEq

/-- The call that a task makes. The grace period of `stop`, ten seconds, is always the same. -/
inductive TaskCall
  | container (call : ContainerCall) (id name : String)
  | toggleScope
deriving DecidableEq

/-- What the engines answer: the container engine to a container call, the cluster engine to a toggle. -/
structure TaskAnswer where
  action : Except EngineError Unit
  scope : KubeScope

def ContainerCall.done (name : String) : ContainerCall → String
  | .stop => s!"Container {name} stopped"
  | .kill => s!"Container {name} killed"
  | .restart => s!"Container {name} restarted"

def ContainerCall.failed (name error : String) : ContainerCall → String
  | .stop => s!"Failed to stop {name}: {error}"
  | .kill => s!"Failed to kill {name}: {error}"
  | .restart => s!"Failed to restart {name}: {error}"

/-- What a task tells the interface. -/
def outcome : TaskCall → TaskAnswer → Level × String
  | .container call _ name, answer =>
    match answer.action with
    | .ok () => (.success, call.done name)
    | .error e => (.error, call.failed name (engineErrorText e))
  | .toggleScope, answer =>
    match answer.scope.namespace with
    | some ns => (.info, s!"Kube scope: namespace {ns}")
    | none => (.info, "Kube scope: all namespaces")

/-! ## What is spawned -/

/-- Whether a call is left to a task. -/
def Effect.spawns : Effect → Bool
  | .killProcess .. | .reniceProcess .. => false
  | .stopContainer _ | .killContainer _ | .restartContainer _ | .toggleScope => true

def TaskCall.effect : TaskCall → Effect
  | .container .stop id _ => .stopContainer id
  | .container .kill id _ => .killContainer id
  | .container .restart id _ => .restartContainer id
  | .toggleScope => .toggleScope

/-- The call that `execute_container_action` makes of an action. -/
def ConfirmAction.taskCall : ConfirmAction → Option TaskCall
  | .stopContainer id name => some (.container .stop id name)
  | .killContainer id name => some (.container .kill id name)
  | .restartContainer id name => some (.container .restart id name)
  | .kill .. | .renice .. => none

namespace AppState

/-- The task of the action that an input confirms, if a container engine is attached. -/
def confirmedTask (s : AppState) (input : Input) : List TaskCall :=
  if s.containerEngine then ((s.answered input).bind ConfirmAction.taskCall).toList else []

/-- The calls that a turn of the loop makes or hands to a task. -/
def made (lib : Lib) (s : AppState) (input : Input) : List Effect :=
  (s.step lib input).performed.drop s.performed.length

/-- The tasks that a turn of the loop spawns. -/
def spawned (lib : Lib) (s : AppState) (input : Input) : List TaskCall :=
  s.confirmedTask input ++ ((s.made lib input).filter (· = .toggleScope)).map fun _ => .toggleScope

variable {lib : Lib} {s : AppState}

theorem effect_confirmedTask (s : AppState) (input : Input) :
    (s.confirmedTask input).map TaskCall.effect = (s.confirmedCalls input).filter Effect.spawns := by
  unfold confirmedTask confirmedCalls
  rcases s.answered input with _ | action
  · split_ifs <;> rfl
  · cases hengine : s.containerEngine
    · cases action <;> rfl
    · cases action <;> rfl

/-- A turn adds to the calls what it makes. -/
theorem performed_step (input : Input) :
    (s.step lib input).performed = s.performed ++ s.made lib input := by
  unfold made
  rcases (confirms_step lib s input).performed with hcalls | ⟨-, htoggle⟩
  · rw [hcalls, List.drop_left]
  · rw [htoggle, List.drop_left]

/-- A turn spawns a task for each call that it leaves to one. -/
theorem effect_spawned (input : Input) :
    (s.spawned lib input).map TaskCall.effect = (s.made lib input).filter Effect.spawns := by
  rw [spawned, List.map_append, effect_confirmedTask]
  unfold made
  rcases (confirms_step lib s input).performed with hcalls | ⟨hnone, htoggle⟩
  · rw [hcalls, List.drop_left]
    have hno : (s.confirmedCalls input).filter (· = .toggleScope) = [] := by
      rw [← filter_confirmedCalls, List.filter_filter]
      refine List.filter_eq_nil_iff.2 fun effect _ => ?_
      cases effect <;> simp [Effect.confirmed]
    rw [hno]
    exact List.append_nil _
  · rw [htoggle, List.drop_left, hnone]
    rfl

end AppState

def Event.isOutcome : Event → Bool
  | .outcome .. => true
  | _ => false

/-! ## The application with its tasks -/

structure AppTasks where
  app : AppState
  /-- the tasks, and the channel that they share -/
  pool : TaskPool TaskCall (Level × String)

namespace AppTasks

/-- What happens: the loop takes up an event, or an outcome; the runtime polls a task, or an engine
answers it. -/
inductive Event
  | input (input : Input)
  | receive (w : World)
  | poll (i : ℕ)
  | answer (i : ℕ) (answer : TaskAnswer)

/-- Whether `quit` has cancelled the token that the tasks share. -/
def cancelled (s : AppTasks) : Bool := !s.app.running

variable (lib : Lib)

/-- What the pool sees of a step, and what the token is then. -/
def demands (s : AppTasks) : Event → List (Bool × TaskPool.Event TaskCall TaskAnswer)
  | .input input =>
    if input.event.isOutcome then [] else [(s.cancelled, .spawn (s.app.spawned lib input))]
  | .receive _ => if s.app.running then [(false, .take)] else []
  | .poll i => [(s.cancelled, .poll i)]
  | .answer i answer => [(s.cancelled, .answer i answer)]

/-- What the application sees of a step. -/
def inputs (s : AppTasks) : Event → List Input
  | .input input => if input.event.isOutcome then [] else [input]
  | .receive w =>
    if s.app.running then (s.pool.queue.head?.map fun told => ⟨w, .outcome told.1 told.2⟩).toList else []
  | _ => []

def step (s : AppTasks) (e : Event) : AppTasks where
  app := Runs.run (AppState.step lib) s.app (s.inputs e)
  pool := Runs.run (fun p e => TaskPool.step outcome e.1 p e.2) s.pool (s.demands lib e)

def start (config : CliConfig) (containerEngine clusterEngine : Bool) : AppTasks where
  app := .withConfig config containerEngine clusterEngine
  pool := .start

def run (s : AppTasks) (events : List Event) : AppTasks := Runs.run (step lib) s events

/-- What the pool sees of a run. -/
def poolEvents (s : AppTasks) (events : List Event) : List (Bool × TaskPool.Event TaskCall TaskAnswer) :=
  Runs.trace (step lib) (demands lib) s events

/-- The outcomes that the loop takes up. -/
def taken (s : AppTasks) (events : List Event) : List (Level × String) :=
  TaskPool.log outcome (fun _ => TaskPool.takes) (s.poolEvents lib events)

/-- The tasks that have told how they came out. -/
def finished (s : AppTasks) (events : List Event) : List (TaskPool.Finish TaskCall TaskAnswer) :=
  TaskPool.log outcome TaskPool.finishes (s.poolEvents lib events)

/-- The tasks whose calls have reached an engine. -/
def called (s : AppTasks) (events : List Event) : List ℕ :=
  TaskPool.log outcome TaskPool.calls (s.poolEvents lib events)

variable {lib} {s : AppTasks}

theorem run_concat (events : List Event) (e : Event) :
    s.run lib (events ++ [e]) = (s.run lib events).step lib e :=
  Runs.run_append _ _ _ _

theorem poolEvents_concat (events : List Event) (e : Event) :
    s.poolEvents lib (events ++ [e]) = s.poolEvents lib events ++ (s.run lib events).demands lib e := by
  rw [poolEvents, Runs.trace_append, Runs.trace_cons, Runs.trace_nil, List.append_nil]
  rfl

/-- The pool runs as it does alone. -/
theorem pool_run (h : s.pool = .start) (events : List Event) :
    (s.run lib events).pool = TaskPool.run outcome (s.poolEvents lib events) := by
  induction events using List.reverseRecOn with
  | nil => exact h
  | append_singleton events e ih =>
    rw [run_concat, poolEvents_concat, TaskPool.run, Runs.run_append]
    show Runs.run _ (s.run lib events).pool _ = _
    rw [ih]
    rfl

/-- An outcome is told, and nothing is done. -/
theorem performed_outcome (app : AppState) (w : World) (told : Level × String) :
    (app.step lib ⟨w, .outcome told.1 told.2⟩).performed = app.performed := by
  unfold AppState.step
  split_ifs <;> rfl

/-- There is a task for each call that was left to one, in this order. -/
theorem tasks_step (h : s.pool.tasks.map (·.call.effect) = s.app.performed.filter Effect.spawns)
    (e : Event) :
    (s.step lib e).pool.tasks.map (·.call.effect) = (s.step lib e).app.performed.filter Effect.spawns := by
  have hsame (e : TaskPool.Event TaskCall TaskAnswer) (c : Bool) :
      (TaskPool.step outcome c s.pool e).tasks.map (·.call.effect) =
        s.app.performed.filter Effect.spawns ++ e.new.map TaskCall.effect := by
    have hcalls := congrArg (List.map TaskCall.effect) (@TaskPool.calls_step _ _ _ outcome c s.pool e)
    rw [List.map_append, List.map_map, List.map_map] at hcalls
    rw [← h]
    exact hcalls
  -- An outcome spawns nothing; every other input spawns exactly what the interface performed.
  rcases e with input | w | i | ⟨i, answer⟩
  · by_cases houtcome : input.event.isOutcome = true
    · simp only [step, inputs, demands, if_pos houtcome]
      exact h
    · simp only [step, inputs, demands, if_neg houtcome]
      show (TaskPool.step outcome s.cancelled s.pool (.spawn _)).tasks.map _ =
        (s.app.step lib input).performed.filter _
      rw [hsame, AppState.performed_step, List.filter_append, ← AppState.effect_spawned]
      rfl
  · by_cases hrunning : s.app.running = true
    · simp only [step, inputs, demands, if_pos hrunning]
      show (TaskPool.step outcome false s.pool .take).tasks.map _ = _
      rw [hsame]
      rcases s.pool.queue.head? with _ | told
      · exact List.append_nil _
      · show _ = (s.app.step lib ⟨w, .outcome told.1 told.2⟩).performed.filter _
        rw [performed_outcome]
        exact List.append_nil _
    · simp only [step, inputs, demands, if_neg hrunning]
      exact h
  · exact (hsame (.poll i) s.cancelled).trans (List.append_nil _)
  · exact (hsame (.answer i answer) s.cancelled).trans (List.append_nil _)

/-! ## After the user has quit -/

theorem running_step (h : s.app.running = false) (e : Event) : (s.step lib e).app.running = false := by
  have hsame (input : Input) : s.app.step lib input = s.app := if_neg (by simp [h])
  show (Runs.run (AppState.step lib) s.app (s.inputs e)).running = false
  generalize s.inputs e = inputs
  induction inputs with
  | nil => exact h
  | cons input inputs ih => rwa [Runs.run_cons, hsame]

/-- No call reaches an engine then, no task tells anything, and nothing is taken up. -/
theorem quiet_of_stopped (h : s.app.running = false) (e : Event) :
    ∀ d ∈ s.demands lib e, d.1 = true ∧ ∀ p : TaskPool TaskCall (Level × String), p.takes d.2 = [] := by
  have hcancelled : s.cancelled = true := by rw [cancelled, h]; rfl
  intro d hd
  rcases e with input | w | i | ⟨i, answer⟩
  · simp only [demands] at hd
    split_ifs at hd
    · cases hd
    · rw [List.mem_singleton.1 hd]
      exact ⟨hcancelled, fun _ => rfl⟩
  · simp [demands, h] at hd
  · rw [List.mem_singleton.1 hd]
    exact ⟨hcancelled, fun _ => rfl⟩
  · rw [List.mem_singleton.1 hd]
    exact ⟨hcancelled, fun _ => rfl⟩

theorem running_run {events : List Event} (h : (s.run lib events).app.running = false) (more : List Event) :
    (s.run lib (events ++ more)).app.running = false := by
  rw [run, Runs.run_append]
  exact Runs.run_invariant (I := fun s : AppTasks => s.app.running = false)
    (fun s e hs => running_step hs e) more h

/-- The logs of a run do not grow after the user has quit. -/
theorem logs_of_stopped {events : List Event} (h : (s.run lib events).app.running = false)
    (more : List Event) :
    s.called lib (events ++ more) = s.called lib events ∧
      s.finished lib (events ++ more) = s.finished lib events ∧
      s.taken lib (events ++ more) = s.taken lib events := by
  unfold called finished taken
  induction more using List.reverseRecOn with
  | nil => simp only [List.append_nil, and_self]
  | append_singleton more e ih =>
    have hquiet := @quiet_of_stopped lib _ (running_run h more) e
    have hsilent {p : TaskPool TaskCall (Level × String)} {d : Bool × TaskPool.Event TaskCall TaskAnswer}
        (hd : d ∈ (s.run lib (events ++ more)).demands lib e) :
        p.calls d.1 d.2 = [] ∧ p.finishes d.1 d.2 = [] := by
      rw [(hquiet d hd).1]
      exact TaskPool.quiet_of_cancelled d.2
    rw [← List.append_assoc, poolEvents_concat]
    refine ⟨?_, ?_, ?_⟩
    · rw [TaskPool.log_append_of_quiet _ fun d hd p => (hsilent hd).1]
      exact ih.1
    · rw [TaskPool.log_append_of_quiet _ fun d hd p => (hsilent hd).2]
      exact ih.2.1
    · rw [TaskPool.log_append_of_quiet _ fun d hd p => (hquiet d hd).2 p]
      exact ih.2.2

/-! ## How an action comes out -/

/-- What has just been posted is the last entry of the log. -/
theorem getLast?_log_push (n : Notifier) (now : ℕ) (level : Level) (text : String) :
    (n.push now level text).log.getLast? = some ⟨level, scrubCtrl text, now⟩ := by
  show ((n.log ++ [_]).drop _).getLast? = _
  rw [List.getLast?_drop, if_neg, List.getLast?_concat]
  rw [List.length_append, List.length_singleton, Notifier.logCapacity]
  omega

theorem step_receive (hrunning : s.app.running = true) {told : Level × String}
    {rest : List (Level × String)} (hqueue : s.pool.queue = told :: rest) (w : World) :
    s.step lib (.receive w) =
      ⟨s.app.notify w told.1 told.2, { s.pool with queue := rest }⟩ := by
  have hinputs : s.inputs (.receive w) = [⟨w, .outcome told.1 told.2⟩] := by
    simp only [inputs, if_pos hrunning, hqueue]
    rfl
  have hdemands : s.demands lib (.receive w) = [(false, .take)] := if_pos hrunning
  have happ : s.app.step lib ⟨w, .outcome told.1 told.2⟩ = s.app.notify w told.1 told.2 :=
    if_pos hrunning
  simp only [step, hinputs, hdemands, Runs.run_cons, Runs.run_nil, happ, TaskPool.step, hqueue,
    List.tail_cons]

/-- The loop takes up what the channel holds, to the last message. -/
theorem receives (hrunning : s.app.running = true) {before : List (Level × String)} {told : Level × String}
    (hqueue : s.pool.queue = before ++ [told]) (w : World) :
    (s.run lib (List.replicate (before.length + 1) (.receive w))).app.notifier.log.getLast? =
        some ⟨told.1, scrubCtrl told.2, w.now⟩ ∧
      (s.run lib (List.replicate (before.length + 1) (.receive w))).pool.queue = [] := by
  induction before generalizing s with
  | nil =>
    show (s.step lib (.receive w)).app.notifier.log.getLast? = _ ∧ (s.step lib (.receive w)).pool.queue = _
    rw [step_receive hrunning hqueue]
    exact ⟨getLast?_log_push _ _ _ _, rfl⟩
  | cons first before ih =>
    rw [List.length_cons, List.replicate_succ, run, Runs.run_cons, step_receive hrunning hqueue]
    exact ih hrunning rfl

/-- An answer to a task that waits for it goes to the end of the channel. -/
theorem step_answered (hrunning : s.app.running = true) {i : ℕ} {call : TaskCall}
    (htask : s.pool.tasks[i]? = some ⟨call, .calling⟩) (answer : TaskAnswer) :
    (s.step lib (.answer i answer)).app = s.app ∧
      (s.step lib (.answer i answer)).pool.queue = s.pool.queue ++ [outcome call answer] := by
  have hgoing : s.cancelled = false := by rw [cancelled, hrunning]; rfl
  refine ⟨rfl, ?_⟩
  show (TaskPool.step outcome s.cancelled s.pool (.answer i answer)).queue = _
  simp only [TaskPool.step, htask, hgoing]
  rfl

/-- While the interface runs, an answer reaches the log. -/
theorem told_of_answer (hrunning : s.app.running = true) {i : ℕ} {call : TaskCall}
    (htask : s.pool.tasks[i]? = some ⟨call, .calling⟩) (answer : TaskAnswer) (w : World) :
    (s.run lib (.answer i answer :: List.replicate (s.pool.queue.length + 1)
      (.receive w))).app.notifier.log.getLast? =
        some ⟨(outcome call answer).1, scrubCtrl (outcome call answer).2, w.now⟩ := by
  obtain ⟨happ, hqueue⟩ := @step_answered lib s hrunning i call htask answer
  rw [run, Runs.run_cons]
  exact (receives (happ ▸ hrunning) hqueue w).1

/-- **Every outcome is told once.** In every run of the interface, its tasks and the engines, in whatever
order they take their steps: there is one task for each container call that was confirmed and for each
namespace toggle, it calls its engine at most once, and the outcomes that the interface takes up are, in the
order in which the engines answered and each once, those of the tasks whose engines have answered while the
interface was running. While it runs, an answer is the last entry of the log once the interface has taken up
what there was to take up. Once the user has quit, no call reaches an engine, and nothing more is told. -/
theorem outcomes_told (lib : Lib) (config : CliConfig) (containerEngine clusterEngine : Bool)
    (events : List Event) :
    let s := start config containerEngine clusterEngine
    let r := s.run lib events
    r.pool.tasks.map (·.call.effect) = r.app.performed.filter Effect.spawns ∧
      (s.called lib events).Nodup ∧
      s.taken lib events ++ r.pool.queue =
        (s.finished lib events).map (TaskPool.Finish.sent outcome) ∧
      ((s.finished lib events).map (·.index)).Nodup ∧
      (∀ f ∈ s.finished lib events, f.index ∈ s.called lib events ∧
        r.pool.tasks[f.index]? = some ⟨f.call, .returned (some (outcome f.call f.answer))⟩) ∧
      (r.app.running = true → ∀ i call, r.pool.tasks[i]? = some ⟨call, .calling⟩ → ∀ answer w,
        (r.run lib (.answer i answer :: List.replicate (r.pool.queue.length + 1)
          (.receive w))).app.notifier.log.getLast? =
            some ⟨(outcome call answer).1, scrubCtrl (outcome call answer).2, w.now⟩) ∧
      (r.app.running = false → ∀ more,
        s.called lib (events ++ more) = s.called lib events ∧
          s.finished lib (events ++ more) = s.finished lib events ∧
          s.taken lib (events ++ more) = s.taken lib events) := by
  intro s r
  have hhistory := TaskPool.history_run outcome (s.poolEvents lib events)
  rw [← pool_run rfl] at hhistory
  refine ⟨?_, hhistory.calledOnce, hhistory.queue, hhistory.finishedOnce, fun f hf => ?_,
    fun hrunning i call htask answer w => told_of_answer hrunning htask answer w,
    fun hstopped more => logs_of_stopped hstopped more⟩
  · refine Runs.run_invariant (I := fun s : AppTasks =>
      s.pool.tasks.map (·.call.effect) = s.app.performed.filter Effect.spawns)
      (fun s e hs => tasks_step hs e) events ?_
    rfl
  · exact ⟨hhistory.called f hf, hhistory.returned f hf⟩

end AppTasks

end Muxtop.Tui
