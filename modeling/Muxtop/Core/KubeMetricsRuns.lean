import Muxtop.Core.KubeMetrics
import Mathlib.Data.List.Basic

/-!
# The figures in a snapshot

A call of `snapshot` computes its rows while it holds the metrics cache, which the metrics loop replaces as
a whole. The rows of a call come about in one step (`rowsOf_stepMetrics`), and what the cache holds then is
what the last tick wrote (`metrics_run`).
-/

namespace Muxtop.Core

/-- The rows of a snapshot. -/
def KubeSnapshot.rows (snapshot : KubeSnapshot) : Rows where
  pods := snapshot.pods
  nodes := snapshot.nodes
  deployments := snapshot.deployments
  reachable := snapshot.reachable
  metricsAvailable := snapshot.metricsAvailable

/-- The rows that a call has computed. -/
def SnapshotCall.rows : SnapshotCall → Option Rows
  | .awaitsMetrics => none
  | .awaitsScope rows => some rows
  | .returned snapshot => some snapshot.rows

def EngineState.rowsOf (s : EngineState) (i : ℕ) : Option Rows :=
  s.snapshotCalls[i]?.bind SnapshotCall.rows

/-- What the rows of a snapshot say, after a tick or before the first. -/
structure Tells (floatMillis : String → Option UInt32) (reader : MetricsReader) (tick : Option MetricsTick)
    (rows : Rows) : Prop where
  available : rows.metricsAvailable = tick.any reader.answered
  pods : ∀ pod ∈ rows.pods,
    pod.cpuMillis.map (·.toNat) =
        (tick.bind (reader.podItem · (pod.namespace, pod.name))).map (cpuTotal floatMillis) ∧
      pod.memBytes.map (·.toNat) =
        (tick.bind (reader.podItem · (pod.namespace, pod.name))).map memoryTotal
  nodes : ∀ node ∈ rows.nodes,
    node.cpuUsedMillis = (tick.bind (reader.nodeItem · node.name)).map
        (fun item => (cpuUsage floatMillis item).getD 0) ∧
      node.memUsedBytes = (tick.bind (reader.nodeItem · node.name)).map
        (fun item => (memoryUsage item).getD 0)

namespace KubeEngine

variable {engine : KubeEngine} {reader : MetricsReader} {ns : Option String}

/-! ## The cache -/

/-- What the cache holds after a tick, or before the first. -/
def cacheOf (floatMillis : String → Option UInt32) (reader : MetricsReader) (tick : Option MetricsTick) :
    MetricsCache :=
  (tick.map (reader.tickMetrics floatMillis)).getD default

/-- Only the metrics loop writes the figures. -/
theorem metrics_step {s : EngineState} {e : EngineEvent} (h : e.writesMetrics = false) :
    (engine.step s e).metrics = s.metrics := by
  -- of all steps of the engine only one writes the figures, and it is left out
  cases e
  case writeMetrics => cases h
  case tick => unfold step; dsimp only; split <;> rfl
  case answered lists =>
    unfold step
    dsimp only
    split
    · split <;> rfl
    · rfl
  case writeResources nowMs =>
    unfold step
    dsimp only
    split
    · split <;> rfl
    · rfl
  case stepScopeCall i =>
    unfold step stepScopeCall
    dsimp only
    split
    case h_3 => split <;> rfl
    all_goals rfl
  case stepSnapshotCall i nowMs =>
    unfold step stepSnapshotCall
    dsimp only
    split <;> rfl
  all_goals rfl

/-- When it writes, it writes those of its tick. -/
theorem metrics_stepMetrics (s : MetricsState) (e : MetricsEvent) :
    (engine.stepMetrics reader s e).engine.metrics =
      ((written s e).map (reader.tickMetrics engine.floatMillis)).getD s.engine.metrics := by
  cases e
  case engine e =>
    unfold stepMetrics
    dsimp only
    cases hwrites : e.writesMetrics
    case true => rfl
    case false => exact metrics_step hwrites
  case tick => unfold stepMetrics; dsimp only; split <;> rfl
  case fetched => unfold stepMetrics; dsimp only; split <;> rfl
  case write =>
    unfold stepMetrics written
    dsimp only
    split
    case h_2 => rfl
    -- the write waits while a snapshot is being built
    case h_1 tick hloop =>
      cases hfree : s.engine.metricsFree
      case false => rfl
      case true =>
        show (engine.step s.engine (.writeMetrics (reader.tickMetrics engine.floatMillis tick))).metrics = _
        unfold step
        dsimp only
        rw [if_pos hfree]
        rfl
  case stop => rfl

/-- A run ends with its last event. -/
theorem runMetrics_concat (events : List MetricsEvent) (e : MetricsEvent) :
    engine.runMetrics reader ns (events ++ [e]) =
      engine.stepMetrics reader (engine.runMetrics reader ns events) e :=
  Runs.run_append _ _ _ _

/-- The ticks of a run end with the one that its last event writes. -/
theorem ticks_concat (events : List MetricsEvent) (e : MetricsEvent) :
    engine.ticks reader ns (events ++ [e]) =
      engine.ticks reader ns events ++ (written (engine.runMetrics reader ns events) e).toList := by
  unfold ticks
  rw [Runs.trace_append, Runs.trace_cons, Runs.trace_nil, List.append_nil]
  rfl

/-- The cache holds what the last tick wrote. -/
theorem metrics_run (events : List MetricsEvent) :
    (engine.runMetrics reader ns events).engine.metrics =
      cacheOf engine.floatMillis reader (engine.ticks reader ns events).getLast? := by
  induction events using List.reverseRecOn with
  | nil => rfl
  | append_singleton events e ih =>
    rw [runMetrics_concat, metrics_stepMetrics, ticks_concat, ih, List.getLast?_append]
    cases written (engine.runMetrics reader ns events) e <;> rfl

/-! ## The rows -/

/-- A pod has the figures of its last item. -/
theorem lookup_cacheOf_pods {floatMillis : String → Option UInt32} (tick : Option MetricsTick)
    (key : String × String) :
    (cacheOf floatMillis reader tick).pods.lookup key =
      (tick.bind (reader.podItem · key)).map (podUsage floatMillis) := by
  cases tick with
  | none => exact AList.lookup_empty key
  | some tick => exact (lookup_tickMetrics tick).1 key

/-- So does a node. -/
theorem lookup_cacheOf_nodes {floatMillis : String → Option UInt32} (tick : Option MetricsTick)
    (name : String) :
    (cacheOf floatMillis reader tick).nodes.lookup name =
      (tick.bind (reader.nodeItem · name)).map (nodeUsage floatMillis) := by
  cases tick with
  | none => exact AList.lookup_empty name
  | some tick => exact (lookup_tickMetrics tick).2 name

/-- Rows computed from what a tick left say what the tick was told. -/
theorem tells_rows (resources : ResourceCache) (tick : Option MetricsTick) (nowMs : UInt64) :
    Tells engine.floatMillis reader tick
      (engine.rows resources (cacheOf engine.floatMillis reader tick) nowMs) where
  available := by
    show (cacheOf engine.floatMillis reader tick).available = _
    cases tick with
    | none => rfl
    | some tick => exact available_tickMetrics tick
  pods := by
    intro pod hpod
    obtain ⟨object, -, rfl⟩ := List.mem_map.1 hpod
    have hlookup := @lookup_cacheOf_pods reader engine.floatMillis tick
      ((object.metadata.namespace.getD ""), (object.metadata.name.getD ""))
    constructor
    · show (((cacheOf engine.floatMillis reader tick).pods.lookup _).map Prod.fst).map _ = _
      rw [hlookup, Option.map_map, Option.map_map]
      exact Option.map_congr fun item _ => (toNat_podUsage item).1
    · show (((cacheOf engine.floatMillis reader tick).pods.lookup _).map Prod.snd).map _ = _
      rw [hlookup, Option.map_map, Option.map_map]
      exact Option.map_congr fun item _ => (toNat_podUsage item).2
  nodes := by
    intro node hnode
    obtain ⟨counted, hcounted, rfl⟩ := List.mem_map.1 hnode
    obtain ⟨object, -, rfl⟩ := List.mem_map.1 hcounted
    have hlookup := @lookup_cacheOf_nodes reader engine.floatMillis tick
      (object.metadata.name.getD "")
    constructor
    · show ((cacheOf engine.floatMillis reader tick).nodes.lookup _).map Prod.fst = _
      rw [hlookup, Option.map_map]
      rfl
    · show ((cacheOf engine.floatMillis reader tick).nodes.lookup _).map Prod.snd = _
      rw [hlookup, Option.map_map]
      rfl

/-- What a call's own step does to the rows. -/
theorem rowsOf_stepSnapshotCall (s : EngineState) (i j : ℕ) (nowMs : UInt64) :
    (engine.stepSnapshotCall s j nowMs).rowsOf i = s.rowsOf i ∨
      j = i ∧ s.snapshotCalls[i]? = some .awaitsMetrics ∧
        (engine.stepSnapshotCall s j nowMs).rowsOf i =
          some (engine.rows s.resources s.metrics nowMs) := by
  rcases hcall : s.snapshotCalls[j]? with _ | call
  · left
    unfold stepSnapshotCall
    rw [hcall]
  have hj := (List.getElem?_eq_some_iff.1 hcall).1
  have hset (call' : SnapshotCall) : (s.snapshotCalls.set j call')[i]?.bind SnapshotCall.rows =
      if j = i then call'.rows else s.rowsOf i := by
    by_cases hij : j = i
    · subst hij
      rw [if_pos rfl, List.getElem?_set_self hj, Option.bind_some]
    · rw [if_neg hij, List.getElem?_set_ne hij]
      rfl
  cases call with
  | awaitsMetrics =>
    have hnext : (engine.stepSnapshotCall s j nowMs).rowsOf i =
        if j = i then some (engine.rows s.resources s.metrics nowMs) else s.rowsOf i := by
      unfold stepSnapshotCall
      rw [hcall]
      exact hset _
    by_cases hij : j = i
    · subst hij
      exact .inr ⟨rfl, hcall, by rw [hnext, if_pos rfl]⟩
    · exact .inl (by rw [hnext, if_neg hij])
  | awaitsScope rows =>
    left
    have hnext : (engine.stepSnapshotCall s j nowMs).rowsOf i =
        if j = i then some rows else s.rowsOf i := by
      unfold stepSnapshotCall
      rw [hcall]
      exact hset _
    by_cases hij : j = i
    · subst hij
      rw [hnext, if_pos rfl, EngineState.rowsOf, hcall]
      rfl
    · rw [hnext, if_neg hij]
  | returned snapshot =>
    left
    unfold stepSnapshotCall
    rw [hcall]

/-- A call that begins has no rows. -/
theorem rowsOf_callSnapshot (s : EngineState) (i : ℕ) :
    (engine.step s .callSnapshot).rowsOf i = s.rowsOf i := by
  show (s.snapshotCalls ++ [.awaitsMetrics])[i]?.bind SnapshotCall.rows = _
  unfold EngineState.rowsOf
  rcases Nat.lt_trichotomy i s.snapshotCalls.length with hlt | rfl | hgt
  · rw [List.getElem?_append_left hlt]
  · rw [List.getElem?_concat_length, List.getElem?_eq_none (Nat.le_refl _)]
    rfl
  · rw [List.getElem?_eq_none (by rw [List.length_append, List.length_singleton]; omega),
      List.getElem?_eq_none (by omega)]

/-- The rows of a call come about in one step of its own, from what the caches hold then. -/
theorem rowsOf_step (s : EngineState) (e : EngineEvent) (i : ℕ) :
    (engine.step s e).rowsOf i = s.rowsOf i ∨
      ∃ nowMs, e = .stepSnapshotCall i nowMs ∧ s.snapshotCalls[i]? = some .awaitsMetrics ∧
        (engine.step s e).rowsOf i = some (engine.rows s.resources s.metrics nowMs) := by
  cases e
  case callSnapshot => exact .inl (rowsOf_callSnapshot s i)
  case stepSnapshotCall j nowMs =>
    rcases rowsOf_stepSnapshotCall s i j nowMs with hsame | ⟨rfl, hcall, hrows⟩
    · exact .inl hsame
    · exact .inr ⟨nowMs, rfl, hcall, hrows⟩
  case tick => left; unfold step; dsimp only; split <;> rfl
  case answered lists =>
    left
    unfold step
    dsimp only
    split
    · split <;> rfl
    · rfl
  case writeResources nowMs =>
    left
    unfold step
    dsimp only
    split
    · split <;> rfl
    · rfl
  case writeMetrics metrics => left; unfold step; dsimp only; split <;> rfl
  case stepScopeCall j =>
    left
    unfold step stepScopeCall
    dsimp only
    split
    case h_3 => split <;> rfl
    all_goals rfl
  all_goals exact .inl rfl

/-- The rows of a call are built when it reads the figures. -/
theorem rowsOf_stepMetrics (s : MetricsState) (e : MetricsEvent) (i : ℕ) :
    (engine.stepMetrics reader s e).engine.rowsOf i = s.engine.rowsOf i ∨
      ∃ nowMs, e = .engine (.stepSnapshotCall i nowMs) ∧
        s.engine.snapshotCalls[i]? = some .awaitsMetrics ∧
        (engine.stepMetrics reader s e).engine.rowsOf i =
          some (engine.rows s.engine.resources s.engine.metrics nowMs) := by
  cases e
  case engine e =>
    unfold stepMetrics
    dsimp only
    cases hwrites : e.writesMetrics
    case true => exact .inl rfl
    case false =>
      rcases @rowsOf_step engine s.engine e i with hsame | ⟨nowMs, rfl, hcall, hrows⟩
      · exact .inl hsame
      · exact .inr ⟨nowMs, rfl, hcall, hrows⟩
  case write =>
    left
    unfold stepMetrics
    dsimp only
    split
    case h_2 => rfl
    case h_1 tick hloop =>
      split
      · rcases @rowsOf_step engine s.engine
          (.writeMetrics (reader.tickMetrics engine.floatMillis tick)) i with hsame | ⟨_, hevent, -⟩
        · exact hsame
        · cases hevent
      · rfl
  case tick => left; unfold stepMetrics; dsimp only; split <;> rfl
  case fetched => left; unfold stepMetrics; dsimp only; split <;> rfl
  case stop => exact .inl rfl

/-! ## The scope of a tick -/

/-- The event is a step that the metrics loop takes. -/
def ownStep (s : MetricsState) : MetricsEvent → Prop
  | .engine _ => False
  | .tick => s.loop = .awaitsTick
  | .fetched _ => ∃ scope, s.loop = .fetches scope
  | .write => ∃ tick, s.loop = .awaitsCache tick ∧ s.engine.metricsFree = true
  | .stop => s.loop ≠ .stopped

/-- The steps of the other tasks, the toggles among them, leave the metrics loop where it is. -/
theorem loop_stepMetrics {s : MetricsState} {e : MetricsEvent} (h : ¬ ownStep s e) :
    (engine.stepMetrics reader s e).loop = s.loop := by
  cases e
  -- an event of the engine leaves the loop where it is
  case engine e => unfold stepMetrics; dsimp only; split <;> rfl
  case tick =>
    unfold stepMetrics
    dsimp only
    split
    next hloop => exact absurd hloop h
    · rfl
  case fetched respond =>
    unfold stepMetrics
    dsimp only
    split
    next scope hloop => exact absurd ⟨scope, hloop⟩ h
    · rfl
  case write =>
    unfold stepMetrics
    dsimp only
    split
    next tick hloop =>
      split
      next hfree => exact absurd ⟨tick, hloop, hfree⟩ h
      · rfl
    · rfl
  case stop => exact (Classical.not_not.1 h).symm

section

variable (engine reader ns)

/-- The last step that the metrics loop took was to wake up, and the scope was the one given then. -/
def WokeUnder (scope : KubeScope) : List MetricsEvent → Prop :=
  Runs.Latest (engine.stepMetrics reader) ownStep
    (fun before => (engine.runMetrics reader ns before).engine.scope = scope) .tick (startMetrics ns)

/-- Its next step, and the last one, was to ask for the metrics, under that scope. -/
def Asked (tick : MetricsTick) : List MetricsEvent → Prop :=
  Runs.Latest (engine.stepMetrics reader) ownStep (WokeUnder engine reader ns tick.scope)
    (.fetched tick.respond) (startMetrics ns)

/-- What the metrics loop has done so far in the tick under way. -/
def TickSoFar (events : List MetricsEvent) : MetricsLoop → Prop
  | .fetches scope => WokeUnder engine reader ns scope events
  | .awaitsCache tick => Asked engine reader ns tick events
  | _ => True

end

/-- Where the loop stands it stays through the steps of others. -/
theorem TickSoFar.later {events : List MetricsEvent} {loop : MetricsLoop}
    (h : TickSoFar engine reader ns events loop) {e : MetricsEvent}
    (hother : ¬ ownStep (engine.runMetrics reader ns events) e) :
    TickSoFar engine reader ns (events ++ [e]) loop := by
  cases loop with
  | fetches scope => exact Runs.Latest.later h hother
  | awaitsCache tick => exact Runs.Latest.later h hother
  | awaitsTick => trivial
  | stopped => trivial

/-- In every run the metrics loop has done what its place in the tick asks for, and nothing since. -/
theorem tickSoFar_run (events : List MetricsEvent) :
    TickSoFar engine reader ns events (engine.runMetrics reader ns events).loop := by
  induction events using List.reverseRecOn with
  | nil => trivial
  | append_singleton events e ih =>
    rw [runMetrics_concat]
    -- a step of the loop's own starts the next stage; through all others the stage stays
    by_cases hown : ownStep (engine.runMetrics reader ns events) e
    · cases e
      case engine => exact hown.elim
      case stop => trivial
      case tick =>
        have hloop : (engine.stepMetrics reader (engine.runMetrics reader ns events) .tick).loop =
            .fetches (engine.runMetrics reader ns events).engine.scope := by
          unfold stepMetrics
          dsimp only
          rw [hown]
        rw [hloop]
        exact Runs.latest_now rfl hown
      case fetched respond =>
        obtain ⟨scope, hfetches⟩ := hown
        have hloop : (engine.stepMetrics reader (engine.runMetrics reader ns events)
            (.fetched respond)).loop = .awaitsCache ⟨scope, respond⟩ := by
          unfold stepMetrics
          dsimp only
          rw [hfetches]
        rw [hfetches] at ih
        rw [hloop]
        exact Runs.latest_now ih ⟨scope, hfetches⟩
      case write =>
        obtain ⟨tick, hawaits, hfree⟩ := hown
        have hloop : (engine.stepMetrics reader (engine.runMetrics reader ns events) .write).loop =
            .awaitsTick := by
          unfold stepMetrics
          dsimp only
          rw [hawaits]
          exact congrArg MetricsState.loop (if_pos hfree)
        rw [hloop]
        trivial
    · rw [loop_stepMetrics hown]
      exact ih.later hown

/-- What is written is the tick that was asked. -/
theorem asked_of_written {events : List MetricsEvent} {e : MetricsEvent} {tick : MetricsTick}
    (h : written (engine.runMetrics reader ns events) e = some tick) :
    e = .write ∧ Asked engine reader ns tick events := by
  have hso := @tickSoFar_run engine reader ns events
  unfold written at h
  split at h
  case h_2 => cases h
  case h_1 =>
    split at h
    case h_2 => cases h
    case h_1 asked hloop =>
      split_ifs at h
      rw [hloop] at hso
      rw [← Option.some.inj h]
      exact ⟨rfl, hso⟩

/-- **Every snapshot's figures are those of one tick.** In every run, whatever the order of the steps of
the two loops, the toggles and the calls: all rows of a snapshot carry what the last metrics tick written
before the call read the caches was told, a pod the totals over the containers of its last item and a node
those of its own, and nothing where that tick has no item. Whenever a tick is written, the last two steps
that the loop took were its wake-up and the two requests, and they asked under the scope that was in force
at that wake-up. -/
theorem snapshot_figures (engine : KubeEngine) (reader : MetricsReader) (ns : Option String)
    (events : List MetricsEvent) :
    (∀ i snapshot,
      (engine.runMetrics reader ns events).engine.snapshotCalls[i]? = some (.returned snapshot) →
      ∃ before nowMs after, events = before ++ .engine (.stepSnapshotCall i nowMs) :: after ∧
        (engine.runMetrics reader ns before).engine.snapshotCalls[i]? = some .awaitsMetrics ∧
        Tells engine.floatMillis reader (engine.ticks reader ns before).getLast? snapshot.rows) ∧
    ∀ before e after tick, events = before ++ e :: after →
      written (engine.runMetrics reader ns before) e = some tick →
      e = .write ∧ Asked engine reader ns tick before := by
  -- the rows were computed in one step, in which the call read the figures as they were then
  constructor
  · intro i snapshot hreturned
    have hrows : (engine.runMetrics reader ns events).engine.rowsOf i = some snapshot.rows := by
      rw [EngineState.rowsOf, hreturned]
      rfl
    have hstart : ¬ (startMetrics ns).engine.rowsOf i = some snapshot.rows := nofun
    obtain ⟨before, e, after, rfl, hbefore, hkept⟩ := Runs.exists_gaining_step
      (I := fun s : MetricsState => s.engine.rowsOf i = some snapshot.rows) events hstart hrows
    have hgained := hkept [] List.nil_prefix
    rw [Runs.run_append] at hgained
    change ¬ (engine.runMetrics reader ns before).engine.rowsOf i = some snapshot.rows at hbefore
    change (engine.stepMetrics reader (engine.runMetrics reader ns before) e).engine.rowsOf i =
      some snapshot.rows at hgained
    rcases @rowsOf_stepMetrics engine reader
      (engine.runMetrics reader ns before) e i with hsame | ⟨nowMs, rfl, hcall, hcomputed⟩
    · exact absurd (hsame ▸ hgained) hbefore
    · refine ⟨before, nowMs, after, rfl, hcall, ?_⟩
      rw [hcomputed, metrics_run] at hgained
      rw [← Option.some.inj hgained]
      exact tells_rows _ _ _
  · intro before e after tick _ hwritten
    exact asked_of_written hwritten

end KubeEngine

end Muxtop.Core
