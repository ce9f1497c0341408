import Mathlib.Data.List.Induction
import Mathlib.Data.List.Nodup
import Muxtop.Foundation.Runs

/-!
# Tasks that race a cancellation

Tasks are spawned at will. Each makes one call, waits for its answer, and sends one message about it into
an unbounded channel; but a token is looked at first whenever the task is polled, and a task that finds it
fired returns and sends nothing.
-/

namespace TaskPool

/-- Where a task stands: not polled yet, waiting for the answer to its call, or at its end, with what it
sent. -/
inductive Phase (μ : Type*)
  | spawned
  | calling
  | returned (sent : Option μ)

structure Task (κ μ : Type*) where
  call : κ
  phase : Phase μ

/-- What happens: tasks are spawned, one is polled, the call of one is answered, or the message that has
waited longest is taken. -/
inductive Event (κ ρ : Type*)
  | spawn (calls : List κ)
  | poll (i : ℕ)
  | answer (i : ℕ) (r : ρ)
  | take

/-- A task that sent a message, and the answer it was about. -/
structure Finish (κ ρ : Type*) where
  index : ℕ
  call : κ
  answer : ρ

end TaskPool

/-- The tasks, in the order in which they were spawned, and the channel. -/
structure TaskPool (κ μ : Type*) where
  tasks : List (TaskPool.Task κ μ)
  queue : List μ

namespace TaskPool

variable {κ ρ μ : Type*} (report : κ → ρ → μ)

def start : TaskPool κ μ := ⟨[], []⟩

/-- A task polled while it waits: it makes its call, or goes on waiting, unless the token has fired. -/
def polled (cancelled : Bool) : Phase μ → Phase μ
  | .spawned => if cancelled then .returned none else .calling
  | .calling => if cancelled then .returned none else .calling
  | .returned sent => .returned sent

/-- One event; `cancelled` is the token. An event that no task is ready for does not happen. -/
def step (cancelled : Bool) (p : TaskPool κ μ) : Event κ ρ → TaskPool κ μ
  | .spawn calls => { p with tasks := p.tasks ++ calls.map fun call => ⟨call, .spawned⟩ }
  | .poll i =>
    match p.tasks[i]? with
    | some task => { p with tasks := p.tasks.set i { task with phase := polled cancelled task.phase } }
    | none => p
  | .answer i r =>
    match p.tasks[i]? with
    | some ⟨call, .calling⟩ =>
      if cancelled then { p with tasks := p.tasks.set i ⟨call, .returned none⟩ }
      else ⟨p.tasks.set i ⟨call, .returned (some (report call r))⟩, p.queue ++ [report call r]⟩
    | _ => p
  | .take => { p with queue := p.queue.tail }

/-- The task that makes its call. -/
def calls (cancelled : Bool) (p : TaskPool κ μ) : Event κ ρ → List ℕ
  | .poll i =>
    match p.tasks[i]? with
    | some ⟨_, .spawned⟩ => if cancelled then [] else [i]
    | _ => []
  | _ => []

/-- The task that sends its message. -/
def finishes (cancelled : Bool) (p : TaskPool κ μ) : Event κ ρ → List (Finish κ ρ)
  | .answer i r =>
    match p.tasks[i]? with
    | some ⟨call, .calling⟩ => if cancelled then [] else [⟨i, call, r⟩]
    | _ => []
  | _ => []

/-- The message that is taken. -/
def takes (p : TaskPool κ μ) : Event κ ρ → List μ
  | .take => p.queue.head?.toList
  | _ => []

/-- The message. -/
def Finish.sent (f : Finish κ ρ) : μ := report f.call f.answer

/-! ## What a step can do -/

/-- A step, with the calls it makes, the messages it sends and those it takes. -/
inductive Step (cancelled : Bool) (p : TaskPool κ μ) :
    Event κ ρ → TaskPool κ μ → List ℕ → List (Finish κ ρ) → List μ → Prop
  | idle {e : Event κ ρ} : Step cancelled p e p [] [] []
  | spawned (new : List κ) :
      Step cancelled p (.spawn new) { p with tasks := p.tasks ++ new.map fun call => ⟨call, .spawned⟩ } [] [] []
  | called {i : ℕ} {call : κ} (htask : p.tasks[i]? = some ⟨call, .spawned⟩) (hgoing : cancelled = false) :
      Step cancelled p (.poll i) { p with tasks := p.tasks.set i ⟨call, .calling⟩ } [i] [] []
  | left {e : Event κ ρ} {i : ℕ} {task : Task κ μ} (htask : p.tasks[i]? = some task)
      (hphase : task.phase = .spawned ∨ task.phase = .calling) :
      Step cancelled p e { p with tasks := p.tasks.set i { task with phase := .returned none } } [] [] []
  | finished {i : ℕ} {call : κ} {r : ρ} (htask : p.tasks[i]? = some ⟨call, .calling⟩)
      (hgoing : cancelled = false) :
      Step cancelled p (.answer i r)
        ⟨p.tasks.set i ⟨call, .returned (some (report call r))⟩, p.queue ++ [report call r]⟩ []
        [⟨i, call, r⟩] []
  | took {m : μ} {rest : List μ} (hqueue : p.queue = m :: rest) :
      Step cancelled p .take { p with queue := rest } [] [] [m]

variable {report} {cancelled : Bool} {p p' : TaskPool κ μ}

/-- Setting what is there changes nothing. -/
theorem set_same {l : List (Task κ μ)} {i : ℕ} {task : Task κ μ} (h : l[i]? = some task) :
    l.set i task = l := by
  obtain ⟨hi, rfl⟩ := List.getElem?_eq_some_iff.1 h
  exact List.set_getElem_self hi

/-- A poll makes a call, or ends a task once the token has fired. -/
theorem step_poll (i : ℕ) :
    Step report cancelled p (.poll i) (p.step report cancelled (.poll i))
      (p.calls (ρ := ρ) cancelled (.poll i)) (p.finishes cancelled (.poll i)) (p.takes (ρ := ρ) (.poll i)) := by
  rcases htask : p.tasks[i]? with _ | ⟨call, phase⟩
  · simp only [step, calls, finishes, takes, htask]
    exact .idle
  · simp only [step, calls, finishes, takes, htask]
    rcases phase with _ | _ | sent
    · cases hgoing : cancelled
      · exact .called htask rfl
      · exact .left htask (.inl rfl)
    · cases hgoing : cancelled
      · rw [polled, if_neg Bool.false_ne_true, set_same htask]
        exact .idle
      · exact .left htask (.inr rfl)
    · rw [polled, set_same htask]
      exact .idle

/-- An answer ends the task that asked. -/
theorem step_answer (i : ℕ) (r : ρ) :
    Step report cancelled p (.answer i r) (p.step report cancelled (.answer i r))
      (p.calls cancelled (.answer i r)) (p.finishes cancelled (.answer i r)) (p.takes (.answer i r)) := by
  rcases htask : p.tasks[i]? with _ | ⟨call, _ | _ | sent⟩
  · simp only [step, calls, finishes, takes, htask]
    exact .idle
  · simp only [step, calls, finishes, takes, htask]
    exact .idle
  · simp only [step, calls, finishes, takes, htask]
    cases hgoing : cancelled
    · exact .finished htask rfl
    · exact .left htask (.inr rfl)
  · simp only [step, calls, finishes, takes, htask]
    exact .idle

/-- Every step is one of these. -/
theorem step_cases (e : Event κ ρ) :
    Step report cancelled p e (p.step report cancelled e) (p.calls cancelled e)
      (p.finishes cancelled e) (p.takes e) := by
  cases e with
  | spawn new => exact .spawned new
  | poll i => exact step_poll i
  | answer i r => exact step_answer i r
  | take =>
    rcases hqueue : p.queue with _ | ⟨m, rest⟩
    · simp only [step, calls, finishes, takes, hqueue]
      rw [show ({ p with queue := [].tail } : TaskPool κ μ) = p by rw [List.tail_nil, ← hqueue]]
      exact .idle
    · simp only [step, calls, finishes, takes, hqueue]
      exact .took hqueue

/-- What an event spawns. -/
def Event.new : Event κ ρ → List κ
  | .spawn calls => calls
  | _ => []

/-- A task keeps its call. -/
theorem calls_set {l : List (Task κ μ)} {i : ℕ} {task new : Task κ μ} (h : l[i]? = some task)
    (hcall : new.call = task.call) : (l.set i new).map Task.call = l.map Task.call := by
  obtain ⟨hi, rfl⟩ := List.getElem?_eq_some_iff.1 h
  rw [List.map_set, hcall]
  refine List.ext_getElem (by simp) fun j _ _ => ?_
  rw [List.getElem_set]
  split_ifs with hij
  · subst hij
    simp
  · rfl

/-- A task keeps its call, and its place among the tasks. -/
theorem calls_step (e : Event κ ρ) :
    (p.step report cancelled e).tasks.map Task.call = p.tasks.map Task.call ++ e.new := by
  cases e with
  | spawn new =>
    rw [step, List.map_append, List.map_map]
    exact congrArg _ (List.map_id new)
  | poll i =>
    refine Eq.trans ?_ (List.append_nil _).symm
    rw [step]
    rcases htask : p.tasks[i]? with _ | task
    · rfl
    · exact calls_set htask rfl
  | answer i r =>
    refine Eq.trans ?_ (List.append_nil _).symm
    rw [step]
    -- Only a task whose call is under way is changed by an answer.
    rcases htask : p.tasks[i]? with _ | ⟨call, _ | _ | sent⟩
    · rfl
    · rfl
    · dsimp only
      split_ifs
      · exact calls_set htask rfl
      · exact calls_set htask rfl
    · rfl
  | take => exact (List.append_nil _).symm

/-! ## Histories -/

/-- What holds of the calls that were made, the messages that were sent and those that were taken. -/
structure History (report : κ → ρ → μ) (p : TaskPool κ μ) (made : List ℕ) (finished : List (Finish κ ρ))
    (taken : List μ) : Prop where
  /-- the channel loses nothing and keeps the order -/
  queue : taken ++ p.queue = finished.map (Finish.sent report)
  /-- a task makes its call once, and sends once -/
  calledOnce : made.Nodup
  finishedOnce : (finished.map Finish.index).Nodup
  /-- only a task that made its call sends, and it is at its end -/
  called : ∀ f ∈ finished, f.index ∈ made
  returned : ∀ f ∈ finished, p.tasks[f.index]? = some ⟨f.call, .returned (some (f.sent report))⟩
  /-- a task that has not been polled has made no call; one that waits has made it, and has sent nothing -/
  spawned : ∀ i ∈ made, ∃ task : Task κ μ, p.tasks[i]? = some task ∧ task.phase ≠ .spawned
  calling : ∀ i call, p.tasks[i]? = some ⟨call, .calling⟩ → i ∈ made

/-- At the start nothing was called. -/
theorem history_start : History report start [] [] [] where
  queue := rfl
  calledOnce := List.nodup_nil
  finishedOnce := List.nodup_nil
  called _ h := absurd h List.not_mem_nil
  returned _ h := absurd h List.not_mem_nil
  spawned _ h := absurd h List.not_mem_nil
  calling _ _ h := by cases h

/-- The other tasks are as they were. -/
theorem getElem?_set_cases {l : List (Task κ μ)} {i j : ℕ} {task new : Task κ μ}
    (h : (l.set i new)[j]? = some task) :
    j = i ∧ task = new ∨ j ≠ i ∧ l[j]? = some task := by
  by_cases hj : i = j
  · subst hj
    obtain ⟨hlt, hget⟩ := List.getElem?_eq_some_iff.1 h
    rw [List.getElem_set_self] at hget
    exact .inl ⟨rfl, hget.symm⟩
  · rw [List.getElem?_set_ne hj] at h
    exact .inr ⟨Ne.symm hj, h⟩

/-- The task that was stepped is where it was. -/
theorem getElem?_set_of {l : List (Task κ μ)} {i : ℕ} {task : Task κ μ}
    (h : l[i]? = some task) (new : Task κ μ) :
    (l.set i new)[i]? = some new :=
  List.getElem?_set_self (List.getElem?_eq_some_iff.1 h).1
variable {made : List ℕ} {finished : List (Finish κ ρ)} {taken : List μ}

/-- A task that has not returned is none of those that sent a message, which stay as they are. -/
theorem History.returned_set (h : History report p made finished taken) {i : ℕ} {task : Task κ μ}
    (htask : p.tasks[i]? = some task) (hphase : task.phase = .spawned ∨ task.phase = .calling)
    (new : Task κ μ) {f : Finish κ ρ} (hf : f ∈ finished) :
    f.index ≠ i ∧ (p.tasks.set i new)[f.index]? = some ⟨f.call, .returned (some (f.sent report))⟩ := by
  have hreturned := h.returned f hf
  have hne : f.index ≠ i := by
    rintro rfl
    rw [htask] at hreturned
    rw [Option.some.inj hreturned] at hphase
    rcases hphase with hphase | hphase <;> cases hphase
  exact ⟨hne, by rw [List.getElem?_set_ne hne.symm, hreturned]⟩

/-- So are the others when tasks are added. -/
theorem getElem?_append_of_some {l : List (Task κ μ)} {i : ℕ} {task : Task κ μ} (h : l[i]? = some task)
    (more : List (Task κ μ)) : (l ++ more)[i]? = some task := by
  rw [List.getElem?_append_left (List.getElem?_eq_some_iff.1 h).1, h]

/-- A task that was not there has not been polled. -/
theorem spawned_of_new {l : List (Task κ μ)} {new : List κ} {i : ℕ} {task : Task κ μ}
    (h : (l ++ new.map fun call => ⟨call, .spawned⟩)[i]? = some task) :
    l[i]? = some task ∨ task.phase = .spawned := by
  rw [List.getElem?_append] at h
  split_ifs at h
  · exact .inl h
  · obtain ⟨call, -, rfl⟩ := List.mem_map.1 (List.mem_of_getElem? h)
    exact .inr rfl

/-- New tasks. -/
theorem History.spawn (h : History report p made finished taken) (new : List κ) :
    History report { p with tasks := p.tasks ++ new.map fun call => ⟨call, .spawned⟩ } made finished taken where
  queue := h.queue
  calledOnce := h.calledOnce
  finishedOnce := h.finishedOnce
  called := h.called
  returned f hf := getElem?_append_of_some (h.returned f hf) _
  spawned i hi := by
    obtain ⟨task, htask, hphase⟩ := h.spawned i hi
    exact ⟨task, getElem?_append_of_some htask _, hphase⟩
  calling i call htask := by
    rcases spawned_of_new htask with hold | hphase
    · exact h.calling i call hold
    · cases hphase

/-- A task that goes on to another phase than `spawned`. -/
theorem History.spawned_set (h : History report p made finished taken) {i : ℕ} {task new : Task κ μ}
    (htask : p.tasks[i]? = some task) (hphase : new.phase ≠ .spawned) {j : ℕ} (hj : j ∈ made ∨ j = i) :
    ∃ task', (p.tasks.set i new)[j]? = some task' ∧ task'.phase ≠ .spawned := by
  by_cases hji : j = i
  · subst hji
    exact ⟨new, getElem?_set_of htask new, hphase⟩
  · obtain ⟨task', htask', hphase'⟩ := h.spawned j (hj.resolve_right hji)
    exact ⟨task', by rw [List.getElem?_set_ne (Ne.symm hji), htask'], hphase'⟩

/-- A call that begins. -/
theorem History.call (h : History report p made finished taken) {i : ℕ} {call : κ}
    (htask : p.tasks[i]? = some ⟨call, .spawned⟩) :
    History report { p with tasks := p.tasks.set i ⟨call, .calling⟩ } (made ++ [i]) finished taken where
  queue := h.queue
  calledOnce := by
    refine List.nodup_append.2 ⟨h.calledOnce, List.nodup_singleton i, fun j hj j' hj' => ?_⟩
    obtain rfl := List.mem_singleton.1 hj'
    rintro rfl
    obtain ⟨task, hsame, hphase⟩ := h.spawned j hj
    rw [htask] at hsame
    exact hphase (Option.some.inj hsame ▸ rfl)
  finishedOnce := h.finishedOnce
  called f hf := List.mem_append_left _ (h.called f hf)
  returned f hf := (h.returned_set htask (.inl rfl) _ hf).2
  spawned j hj := by
    refine h.spawned_set htask (fun hphase => by cases hphase) ?_
    rcases List.mem_append.1 hj with hj | hj
    · exact .inl hj
    · exact .inr (List.mem_singleton.1 hj)
  calling j call' hcalling := by
    rcases getElem?_set_cases hcalling with ⟨rfl, -⟩ | ⟨-, hold⟩
    · exact List.mem_append_right _ (List.mem_singleton_self _)
    · exact List.mem_append_left _ (h.calling j call' hold)

/-- A task that is cancelled, before its call or in it. -/
theorem History.leave (h : History report p made finished taken) {i : ℕ} {task : Task κ μ}
    (htask : p.tasks[i]? = some task) (hphase : task.phase = .spawned ∨ task.phase = .calling) :
    History report { p with tasks := p.tasks.set i { task with phase := .returned none } } made finished
      taken where
  queue := h.queue
  calledOnce := h.calledOnce
  finishedOnce := h.finishedOnce
  called := h.called
  returned f hf := (h.returned_set htask hphase _ hf).2
  spawned j hj := h.spawned_set htask (fun hreturned => by cases hreturned) (.inl hj)
  calling j call hcalling := by
    rcases getElem?_set_cases hcalling with ⟨-, hnew⟩ | ⟨-, hold⟩
    · cases hnew
    · exact h.calling j call hold

/-- A call that is answered, with its report sent. -/
theorem History.finish (h : History report p made finished taken) {i : ℕ} {call : κ} {r : ρ}
    (htask : p.tasks[i]? = some ⟨call, .calling⟩) :
    History report ⟨p.tasks.set i ⟨call, .returned (some (report call r))⟩, p.queue ++ [report call r]⟩ made
      (finished ++ [⟨i, call, r⟩]) taken where
  queue := by
    rw [← List.append_assoc, h.queue, List.map_append]
    rfl
  calledOnce := h.calledOnce
  finishedOnce := by
    rw [List.map_append]
    -- A task that was calling had not finished before.
    refine List.nodup_append.2 ⟨h.finishedOnce, List.nodup_singleton i, fun j hj j' hj' => ?_⟩
    obtain ⟨f, hf, rfl⟩ := List.mem_map.1 hj
    obtain rfl := List.mem_singleton.1 hj'
    exact (h.returned_set htask (.inr rfl) ⟨call, .calling⟩ hf).1
  called f hf := by
    rcases List.mem_append.1 hf with hf | hf
    · exact h.called f hf
    · obtain rfl := List.mem_singleton.1 hf
      exact h.calling i call htask
  returned f hf := by
    rcases List.mem_append.1 hf with hf | hf
    · exact (h.returned_set htask (.inr rfl) _ hf).2
    · obtain rfl := List.mem_singleton.1 hf
      exact getElem?_set_of htask _
  spawned j hj := h.spawned_set htask (fun hreturned => by cases hreturned) (.inl hj)
  calling j call' hcalling := by
    rcases getElem?_set_cases hcalling with ⟨-, hnew⟩ | ⟨-, hold⟩
    · cases hnew
    · exact h.calling j call' hold

/-- A report that is taken. -/
theorem History.take (h : History report p made finished taken) {m : μ} {rest : List μ}
    (hqueue : p.queue = m :: rest) :
    History report { p with queue := rest } made finished (taken ++ [m]) where
  queue := by rw [List.append_assoc, List.singleton_append, ← hqueue, h.queue]
  calledOnce := h.calledOnce
  finishedOnce := h.finishedOnce
  called := h.called
  returned := h.returned
  spawned := h.spawned
  calling := h.calling

/-- Any step. -/
theorem history_step (h : History report p made finished taken) (e : Event κ ρ) :
    History report (p.step report cancelled e) (made ++ p.calls cancelled e)
      (finished ++ p.finishes cancelled e) (taken ++ p.takes e) := by
  have hcases := @step_cases _ _ _ report cancelled p e
  generalize p.step report cancelled e = p', p.calls cancelled e = new, p.finishes cancelled e = ends,
    p.takes e = out at hcases ⊢
  cases hcases with
  | idle => simpa only [List.append_nil] using h
  | spawned more => simpa only [List.append_nil] using h.spawn more
  | called htask _ => simpa only [List.append_nil] using h.call htask
  | left htask hphase => simpa only [List.append_nil] using h.leave htask hphase
  | finished htask _ => simpa only [List.append_nil] using h.finish htask
  | took hqueue => simpa only [List.append_nil] using h.take hqueue

/-! ## Runs -/

/-- A run, each event with what the token was then. -/
def run (report : κ → ρ → μ) (events : List (Bool × Event κ ρ)) : TaskPool κ μ :=
  Runs.run (fun p e => step report e.1 p e.2) start events

/-- What the steps of a run give out. -/
def log {β : Type*} (report : κ → ρ → μ) (emit : Bool → TaskPool κ μ → Event κ ρ → List β)
    (events : List (Bool × Event κ ρ)) : List β :=
  Runs.trace (fun p e => step report e.1 p e.2) (fun p e => emit e.1 p e.2) start events

/-- A run ends with its last event. -/
theorem run_concat (events : List (Bool × Event κ ρ)) (e : Bool × Event κ ρ) :
    run report (events ++ [e]) = (run report events).step report e.1 e.2 :=
  Runs.run_append _ _ _ _

/-- What it logs last is of its last event. -/
theorem log_concat {β : Type*} (emit : Bool → TaskPool κ μ → Event κ ρ → List β)
    (events : List (Bool × Event κ ρ)) (e : Bool × Event κ ρ) :
    log report emit (events ++ [e]) = log report emit events ++ emit e.1 (run report events) e.2 := by
  rw [log, Runs.trace_append, Runs.trace_cons, Runs.trace_nil, List.append_nil]
  rfl

/-- Steps that give out nothing in any state. -/
theorem log_append_of_quiet {β : Type*} {emit : Bool → TaskPool κ μ → Event κ ρ → List β}
    (events : List (Bool × Event κ ρ)) {more : List (Bool × Event κ ρ)}
    (hquiet : ∀ e ∈ more, ∀ p, emit e.1 p e.2 = []) :
    log report emit (events ++ more) = log report emit events := by
  induction more using List.reverseRecOn with
  | nil => rw [List.append_nil]
  | append_singleton more e ih =>
    rw [← List.append_assoc, log_concat, hquiet e (List.mem_append_right _ (List.mem_singleton_self e)),
      List.append_nil]
    exact ih fun e' he' => hquiet e' (List.mem_append_left _ he')

/-- **The history of a run.** -/
theorem history_run (report : κ → ρ → μ) (events : List (Bool × Event κ ρ)) :
    History report (run report events) (log report calls events) (log report finishes events)
      (log report (fun _ => takes) events) := by
  induction events using List.reverseRecOn with
  | nil => exact history_start
  | append_singleton events e ih =>
    rw [run_concat, log_concat, log_concat, log_concat]
    exact history_step ih e.2

/-! ## The token, and the channel's other end -/

/-- Once the token has fired, no call is made and nothing is sent. -/
theorem quiet_of_cancelled (e : Event κ ρ) : p.calls true e = [] ∧ p.finishes true e = [] := by
  cases e with
  | spawn new => exact ⟨rfl, rfl⟩
  | take => exact ⟨rfl, rfl⟩
  | poll i =>
    refine ⟨?_, rfl⟩
    unfold calls
    dsimp only
    split <;> rfl
  | answer i r =>
    refine ⟨rfl, ?_⟩
    unfold finishes
    dsimp only
    split <;> rfl

end TaskPool
