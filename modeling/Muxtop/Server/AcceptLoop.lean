import Muxtop.Server.Server

/-!
# The accept loop and its permits

Permits and live tasks add up to `max_clients` in every state (`permits_add_receiverCount`): the accept
loop takes a permit for the task it spawns, and a task gives its permit back in the step in which it
returns. `orderly_iff` says which runs the accept loop gets through: those in which no accept fails
before the token fires.
-/

namespace Muxtop.Server

open Muxtop.Core Muxtop.Proto

/-! ## What a step of a task does -/

/-- A step of a task that is not there changes nothing; any other replaces the task, and gives the
permit back if the task returns. -/
theorem ServerState.stepTask_cases (s : ServerState) (i : ℕ) (step : Task → Task) :
    s.stepTask i step = s ∨
      ∃ task, s.tasks[i]? = some task ∧ task.live = true ∧
        s.stepTask i step = { s with
          tasks := s.tasks.set i (step task)
          permits := if (step task).live then s.permits else s.permits + 1 } := by
  unfold ServerState.stepTask
  split
  case h_1 => exact Or.inl rfl
  case h_2 task htask =>
    split
    case isTrue => exact Or.inl rfl
    case isFalse hlive => exact Or.inr ⟨task, htask, by simpa using hlive, rfl⟩

/-- Replacing a live task by another one loses a live task if that is not live. -/
theorem countP_set_live {tasks : List Task} {i : ℕ} {task : Task} (htask : tasks[i]? = some task)
    (hlive : task.live = true) (next : Task) :
    (tasks.set i next).countP Task.live + (if next.live then 0 else 1) = tasks.countP Task.live := by
  obtain ⟨hi, rfl⟩ := List.getElem?_eq_some_iff.1 htask
  have hpos : 0 < tasks.countP Task.live := List.countP_pos_iff.2 ⟨_, List.getElem_mem hi, hlive⟩
  rw [List.countP_set hi, if_pos hlive]
  split <;> omega

variable (layout : Layout) (config : ServerConfig)

/-- The steps a task takes in this state. -/
inductive TaskStep (s : ServerState) : (Task → Task) → Prop
  | tls (outcome : TlsOutcome) : TaskStep s (Task.tls outcome)
  | recv (fault : Option ErrorKind) :
      TaskStep s (Task.recv layout config s.broadcast s.broadcastClosed fault)
  | session (event : Event) (h : event.ofPeer s.cancelled = true) :
      TaskStep s (Task.onSession layout config event)

/-- Neither the tasks nor what is broadcast change. -/
structure ServerState.SameTasks (s s' : ServerState) : Prop where
  permits : s'.permits = s.permits
  tasks : s'.tasks = s.tasks
  broadcast : s'.broadcast = s.broadcast
  relayed : s'.relayed = s.relayed

/-- **What a step of the server can be.** -/
inductive StepCases (s : ServerState) : ServerEvent → ServerState → Prop
  | other {e : ServerEvent} {s' : ServerState} (h : s.SameTasks s') : StepCases s e s'
  | relay (snapshot : SystemSnapshot) (h : s.relayRunning = true) :
      StepCases s (.collected (some snapshot)) (s.relay layout snapshot)
  | accept (call : Call) (h : s.acceptLoop = .running) :
      StepCases s (.accepted (.ok call)) (s.accept config call)
  | task {e : ServerEvent} (i : ℕ) (step : Task → Task) (h : TaskStep layout config s step) :
      StepCases s e (s.stepTask i step)

/-- Every step of the server is one of these. -/
theorem serverStep_cases (s : ServerState) (e : ServerEvent) :
    StepCases layout config s e (serverStep layout config s e) := by
  have hsame : StepCases layout config s e s := .other ⟨rfl, rfl, rfl, rfl⟩
  cases e with
  | cancel => exact .other ⟨rfl, rfl, rfl, rfl⟩
  | collected snapshot =>
      cases snapshot with
      | none => exact .other ⟨rfl, rfl, rfl, rfl⟩
      | some snapshot =>
          simp only [serverStep]
          split
          · exact .relay snapshot ‹_›
          · exact hsame
  | relayCancelled =>
      simp only [serverStep]
      split
      · exact .other ⟨rfl, rfl, rfl, rfl⟩
      · exact hsame
  | accepted result =>
      simp only [serverStep]
      split
      · exact hsame
      · split
        · exact .other ⟨rfl, rfl, rfl, rfl⟩
        · exact .accept _ ‹_›
  | acceptCancelled =>
      simp only [serverStep]
      split
      · exact hsame
      · split
        · exact .other ⟨rfl, rfl, rfl, rfl⟩
        · exact hsame
  | tls i outcome => exact .task i _ (.tls outcome)
  | recv i fault => exact .task i _ (.recv fault)
  | session i event =>
      simp only [serverStep]
      split
      · exact .task i _ (.session event ‹_›)
      · exact hsame

/-- The connection is refused: by the rate limiter, or for want of a permit. -/
def ServerState.Refuses (s : ServerState) (call : Call) : Prop :=
  (config.rateLimiter.tryAdmit s.limiter call.ip call.now).1 = false ∨ s.permits = 0

/-- A connection is refused, or a task is spawned for it with a permit. -/
theorem ServerState.accept_cases (s : ServerState) (call : Call) :
    s.Refuses config call ∧ s.SameTasks (s.accept config call) ∨
      ¬ s.Refuses config call ∧ s.permits ≠ 0 ∧
        (s.accept config call).permits = s.permits - 1 ∧
        (s.accept config call).tasks =
          s.tasks ++ [⟨.tlsHandshake, s.broadcast.sent.length, s.broadcast.sent.length⟩] ∧
        (s.accept config call).broadcast = s.broadcast ∧
        (s.accept config call).relayed = s.relayed := by
  unfold ServerState.accept ServerState.Refuses
  simp only
  split
  case isTrue hrefused => exact Or.inl ⟨Or.inl (by simpa using hrefused), rfl, rfl, rfl, rfl⟩
  case isFalse hadmitted =>
    split
    case isTrue hpermits => exact Or.inl ⟨Or.inr hpermits, rfl, rfl, rfl, rfl⟩
    case isFalse hpermits =>
      refine Or.inr ⟨?_, hpermits, rfl, rfl, rfl, rfl⟩
      rintro (hrefused | hzero)
      · exact hadmitted (by simp [hrefused])
      · exact hpermits hzero

/-- The relay leaves the tasks alone. -/
theorem ServerState.relay_tasks (s : ServerState) (snapshot : SystemSnapshot) :
    (s.relay layout snapshot).tasks = s.tasks ∧ (s.relay layout snapshot).permits = s.permits := by
  unfold ServerState.relay
  split
  · exact ⟨rfl, rfl⟩
  · split <;> exact ⟨rfl, rfl⟩

/-! ## Permits -/

/-- No permit is lost and none is made: each is free or held by a live task. -/
def PermitsHeld (s : ServerState) : Prop := s.permits + s.receiverCount = config.maxClients

variable {config}

/-- A task that steps gives its permit back when it ends. -/
theorem PermitsHeld.stepTask {s : ServerState} (h : PermitsHeld config s) (i : ℕ)
    (step : Task → Task) : PermitsHeld config (s.stepTask i step) := by
  rcases s.stepTask_cases i step with heq | ⟨task, htask, hlive, heq⟩
  · rwa [heq]
  · have hcount := countP_set_live htask hlive (step task)
    rw [heq]
    unfold PermitsHeld ServerState.receiverCount at h ⊢
    simp only
    cases hnext : (step task).live with
    | true =>
        rw [hnext, if_pos rfl] at hcount
        rw [if_pos rfl]
        omega
    | false =>
        rw [hnext, if_neg Bool.false_ne_true] at hcount
        rw [if_neg Bool.false_ne_true]
        omega

/-- A step that leaves the tasks and the permits alone. -/
theorem PermitsHeld.of_same {s s' : ServerState} (h : PermitsHeld config s) (hsame : s.SameTasks s') :
    PermitsHeld config s' := by
  rw [PermitsHeld, ServerState.receiverCount, hsame.permits, hsame.tasks]
  exact h

/-- A connection that is let in takes a permit, and any other takes none. -/
theorem PermitsHeld.accept {s : ServerState} (h : PermitsHeld config s) (call : Call) :
    PermitsHeld config (s.accept config call) := by
  rcases s.accept_cases config call with ⟨-, hsame⟩ | ⟨-, hpermits, hpermits', htasks', -⟩
  · exact h.of_same hsame
  · unfold PermitsHeld ServerState.receiverCount at h ⊢
    rw [hpermits', htasks', List.countP_append, List.countP_singleton, Task.live, if_pos rfl]
    omega

/-- Any step of the server. -/
theorem PermitsHeld.serverStep {s : ServerState} (h : PermitsHeld config s) (e : ServerEvent) :
    PermitsHeld config (serverStep layout config s e) := by
  have hcases := serverStep_cases layout config s e
  generalize Server.serverStep layout config s e = s' at hcases
  rcases hcases with hsame | ⟨snapshot, -⟩ | ⟨call, -⟩ | ⟨i, step, -⟩
  · exact h.of_same hsame
  · obtain ⟨htasks, hpermits⟩ := s.relay_tasks layout snapshot
    rw [PermitsHeld, ServerState.receiverCount, htasks, hpermits]
    exact h
  · exact h.accept call
  · exact h.stepTask i step

/-- **Permits and live tasks add up to the budget in every state of every run.** -/
theorem permits_add_receiverCount (now : Instant) (events : List ServerEvent) :
    (runServer layout config now events).permits +
      (runServer layout config now events).receiverCount = config.maxClients :=
  Runs.run_invariant (I := PermitsHeld config) (fun _ e hs => hs.serverStep layout e) events rfl

/-! ## Every step keeps the order -/

variable (config)

/-- What a step should do. The accept loop leaves only when the token has fired; at most `max_clients`
tasks are live; a connection that is refused leaves the permits and the tasks as they are; a task that
returns gives its permit back. -/
structure Orderly (s : ServerState) (e : ServerEvent) : Prop where
  leaves : s.acceptLoop = .running → (serverStep layout config s e).acceptLoop ≠ .running →
    s.cancelled = true
  budget : (serverStep layout config s e).receiverCount ≤ config.maxClients
  refused : ∀ call, e = .accepted (.ok call) → s.Refuses config call →
    (serverStep layout config s e).permits = s.permits ∧
      (serverStep layout config s e).tasks = s.tasks
  returned : ∀ (i : ℕ) (task task' : Task), s.tasks[i]? = some task → task.live = true →
    (serverStep layout config s e).tasks[i]? = some task' → task'.live = false →
      (serverStep layout config s e).permits = s.permits + 1

/-- An accept that fails finds the accept loop left or the token fired. -/
def NoAcceptError (s : ServerState) (e : ServerEvent) : Prop :=
  ∀ error, e = .accepted (.error error) → s.acceptLoop = .running → s.cancelled = true

/-- A task that was live is still there with its stage unless a step of its own replaced it. -/
theorem permits_of_returned {s : ServerState} {e : ServerEvent} {i : ℕ} {task task' : Task}
    (htask : s.tasks[i]? = some task) (hlive : task.live = true)
    (htask' : (serverStep layout config s e).tasks[i]? = some task') (hdead : task'.live = false) :
    (serverStep layout config s e).permits = s.permits + 1 := by
  -- The slot was live before, so the step that left it returned changed this very slot.
  have hkept : ∀ tasks : List Task, tasks[i]? = some task' → tasks[i]? = s.tasks[i]? → False := by
    intro tasks h h'
    rw [h', htask, Option.some.injEq] at h
    rw [← h, hlive] at hdead
    cases hdead
  have hcases := serverStep_cases layout config s e
  revert htask' hcases
  generalize serverStep layout config s e = s'
  rintro htask' (hsame | ⟨snapshot, -⟩ | ⟨call, -⟩ | ⟨j, step, -⟩)
  · exact (hkept _ htask' (by rw [hsame.tasks])).elim
  · exact (hkept _ htask' (by rw [(s.relay_tasks layout snapshot).1])).elim
  · refine (hkept _ htask' ?_).elim
    rcases s.accept_cases config call with ⟨-, hsame⟩ | ⟨-, -, -, htasks', -⟩
    · rw [hsame.tasks]
    · rw [htasks', List.getElem?_append_left (List.getElem?_eq_some_iff.1 htask).1]
  · rcases s.stepTask_cases j step with heq | ⟨other, hother, -, heq⟩
    · exact (hkept _ htask' (by rw [heq])).elim
    · rw [heq] at htask' ⊢
      by_cases hij : j = i
      · subst hij
        rw [htask, Option.some.injEq] at hother
        subst hother
        rw [List.getElem?_set_self (List.getElem?_eq_some_iff.1 htask).1, Option.some.injEq] at htask'
        simp only [htask', hdead, Bool.false_eq_true, if_false]
      · exact (hkept _ htask' (List.getElem?_set_ne hij)).elim

/-! ### When the loop leaves -/

theorem relay_acceptLoop (s : ServerState) (snapshot : SystemSnapshot) :
    (s.relay layout snapshot).acceptLoop = s.acceptLoop := by
  unfold ServerState.relay
  split
  · rfl
  · split <;> rfl

theorem accept_acceptLoop (s : ServerState) (call : Call) :
    (s.accept config call).acceptLoop = s.acceptLoop := by
  simp only [ServerState.accept]
  split
  · rfl
  · split <;> rfl

theorem stepTask_acceptLoop (s : ServerState) (i : ℕ) (step : Task → Task) :
    (s.stepTask i step).acceptLoop = s.acceptLoop := by
  obtain heq | ⟨task, -, -, heq⟩ := s.stepTask_cases i step <;> rw [heq]

/-- The accept loop leaves at the token, or at an accept that fails. -/
theorem acceptLoop_cases (s : ServerState) (e : ServerEvent) (hrunning : s.acceptLoop = .running)
    (hleft : (serverStep layout config s e).acceptLoop ≠ .running) :
    s.cancelled = true ∨ ∃ error, e = .accepted (.error error) := by
  -- Every event but a failed accept and the leaving one keeps the loop as it was.
  have hkept (hsame : (serverStep layout config s e).acceptLoop = s.acceptLoop) : False :=
    hleft (hsame.trans hrunning)
  cases e with
  | cancel => exact absurd hrunning hleft
  | collected snapshot =>
      refine (hkept ?_).elim
      cases snapshot with
      | none => rfl
      | some snapshot =>
          simp only [serverStep]
          split
          · exact relay_acceptLoop ..
          · rfl
  | relayCancelled =>
      refine (hkept ?_).elim
      simp only [serverStep]
      split <;> rfl
  | accepted result =>
      cases result with
      | error error => exact Or.inr ⟨error, rfl⟩
      | ok call =>
          refine (hkept ?_).elim
          simp only [serverStep, hrunning]
          exact (accept_acceptLoop ..).trans hrunning
  | acceptCancelled =>
      cases hcancelled : s.cancelled with
      | true => exact Or.inl rfl
      | false =>
          refine (hkept ?_).elim
          simp only [serverStep, hrunning, hcancelled, Bool.false_eq_true, if_false]
  | tls i outcome => exact (hkept (stepTask_acceptLoop ..)).elim
  | recv i fault => exact (hkept (stepTask_acceptLoop ..)).elim
  | session i event =>
      refine (hkept ?_).elim
      simp only [serverStep]
      split
      · exact stepTask_acceptLoop ..
      · rfl

/-- A step is orderly when it is no error of `accept`. -/
theorem orderly_step_iff {s : ServerState} (h : PermitsHeld config s) (e : ServerEvent) :
    NoAcceptError s e ↔ Orderly layout config s e := by
  constructor
  · intro hnone
    refine ⟨?_, ?_, ?_, ?_⟩
    · intro hrunning hleft
      rcases acceptLoop_cases layout config s e hrunning hleft with hcancelled | ⟨error, herror⟩
      · exact hcancelled
      · exact hnone error herror hrunning
    · have hheld : PermitsHeld config (serverStep layout config s e) := h.serverStep layout e
      unfold PermitsHeld at hheld
      omega
    · rintro call rfl hrefuses
      simp only [serverStep]
      split
      · exact ⟨rfl, rfl⟩
      · rcases s.accept_cases config call with ⟨-, hsame⟩ | ⟨hadmits, -⟩
        · exact ⟨hsame.permits, hsame.tasks⟩
        · exact absurd hrefuses hadmits
    · intro i task task' htask hlive htask' hdead
      exact permits_of_returned layout config htask hlive htask' hdead
  · rintro horderly error rfl hrunning
    refine horderly.leaves hrunning ?_
    simp only [serverStep, hrunning, ne_eq, reduceCtorEq, not_false_eq_true]

/-- **The accept loop withstands every run but those in which an accept fails before the token
fires.** -/
theorem orderly_iff (now : Instant) (events : List ServerEvent) :
    Runs.Along (serverStep layout config) (Orderly layout config) (.start config now) events ↔
      Runs.Along (serverStep layout config) NoAcceptError (.start config now) events := by
  have hstart : PermitsHeld config (.start config now) := rfl
  exact (Runs.along_iff (I := PermitsHeld config) (fun _ e _ hs => hs.serverStep layout e)
    (fun _ e hs => orderly_step_iff layout config hs e) events hstart).symm

/-- A server for four clients. -/
def fourClients : ServerConfig := ⟨4, 2, ⟨"0123456789abcdef", "0.4.0", "host", 1⟩⟩

/-- A peer that aborts its connection before it is accepted stops the server. -/
theorem not_orderly_connectionAborted :
    (runServer .x86_64 fourClients 0 [.accepted (.error .connectionAborted)]).acceptLoop =
        .left (.error .connectionAborted) ∧
      ¬ Runs.Along (serverStep .x86_64 fourClients) (Orderly .x86_64 fourClients)
        (.start fourClients 0) [.accepted (.error .connectionAborted)] := by
  refine ⟨rfl, fun h => ?_⟩
  exact absurd (h.1.leaves rfl (by simp [serverStep, ServerState.start])) Bool.false_ne_true

end Muxtop.Server
