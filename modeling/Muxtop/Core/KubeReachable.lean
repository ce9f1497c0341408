import Mathlib.Data.List.Induction
import Muxtop.Core.KubeScope

/-!
# When a cluster counts as reachable

A snapshot says that the cluster is reachable when the resource cache has a time of update. A tick of
the poll loop stamps the cache whether or not a list has succeeded, so a cluster that has never answered
counts as reachable after the first tick.
-/

namespace Muxtop.Core

/-- Some list of the tick succeeded. -/
def Lists.succeeded (lists : Lists) : Bool :=
  lists.pods.isSome || lists.nodes.isSome || lists.deployments.isSome

namespace EngineState

/-- What the step writes to the cache and when, if it is the end of a tick. -/
def tickEnd (s : EngineState) : EngineEvent → Option (Lists × UInt64)
  | .writeResources nowMs =>
    match s.loop with
    | .awaitsCache _ lists => if s.resourcesFree then some (lists, nowMs) else none
    | _ => none
  | _ => none

/-- The step ends a tick in which a list succeeded. -/
def Brings (s : EngineState) (e : EngineEvent) : Prop := (s.tickEnd e).any (·.1.succeeded)

instance (s : EngineState) : DecidablePred s.Brings := fun _ => inferInstanceAs (Decidable (_ = true))

end EngineState

/-- The rows of each kind are those of its own list, and the old ones where that list failed. -/
structure KeepsFailed (lists : Lists) (cache cache' : ResourceCache) : Prop where
  pods : cache'.pods = lists.pods.getD cache.pods
  nodes : cache'.nodes = lists.nodes.getD cache.nodes
  deployments : cache'.deployments = lists.deployments.getD cache.deployments

variable {engine : KubeEngine} {s : EngineState} {e : EngineEvent} {lists : Lists} {nowMs : UInt64}

/-- How many ticks of a run brought a list. -/
def successes (engine : KubeEngine) (s : EngineState) (events : List EngineEvent) : ℕ :=
  Runs.count engine.step EngineState.Brings s events

/-- In every state of the run, a snapshot says that the cluster is reachable exactly when a list has
succeeded, and each tick leaves the rows of the lists that fail. -/
structure TellsData (engine : KubeEngine) (s : EngineState) (events : List EngineEvent) : Prop where
  reachable : ∀ before, before <+: events → ∀ nowMs,
    (engine.rows (engine.run s before).resources (engine.run s before).metrics nowMs).reachable = true ↔
      0 < successes engine s before
  kept : ∀ before e, before ++ [e] <+: events → ∀ lists nowMs,
    (engine.run s before).tickEnd e = some (lists, nowMs) →
      KeepsFailed lists (engine.run s before).resources (engine.run s (before ++ [e])).resources

/-- The clock of a tick stands at the Unix epoch exactly while no list has succeeded. -/
def StampsData (engine : KubeEngine) (s : EngineState) (events : List EngineEvent) : Prop :=
  ∀ before e, before ++ [e] <+: events → ∀ lists nowMs,
    (engine.run s before).tickEnd e = some (lists, nowMs) →
      (nowMs = 0 ↔ successes engine s (before ++ [e]) = 0)

/-! ## What a step does to the cache -/

theorem resources_of_tickEnd (h : s.tickEnd e = some (lists, nowMs)) :
    (engine.step s e).resources = s.resources.write lists nowMs := by
  cases e
  case writeResources nowMs' =>
    simp only [EngineState.tickEnd] at h
    split at h
    next scope lists' hloop =>
      split_ifs at h with hfree
      obtain ⟨rfl, rfl⟩ := Prod.mk.inj (Option.some.inj h)
      simp [KubeEngine.step, hloop, hfree]
    next => cases h
  all_goals cases h

/-- Only the end of a tick stamps the cache. -/
theorem lastUpdateMs_of_tickEnd_none (h : s.tickEnd e = none) :
    (engine.step s e).resources.lastUpdateMs = s.resources.lastUpdateMs := by
  cases e
  case writeResources nowMs =>
    unfold EngineState.tickEnd at h
    unfold KubeEngine.step
    cases hloop : s.loop
    case awaitsCache scope lists =>
      rw [hloop] at h
      dsimp only at h ⊢
      split_ifs at h with hfree
      rw [if_neg hfree]
    all_goals rfl
  case stepScopeCall i =>
    simp only [KubeEngine.step, KubeEngine.stepScopeCall]
    repeat' split
    all_goals rfl
  all_goals
    simp only [KubeEngine.step, KubeEngine.stepSnapshotCall]
    repeat' split
    all_goals rfl

theorem run_concat (events : List EngineEvent) :
    engine.run s (events ++ [e]) = engine.step (engine.run s events) e :=
  Runs.run_append engine.step s events [e]

theorem successes_concat (events : List EngineEvent) :
    successes engine s (events ++ [e]) =
      successes engine s events + if (engine.run s events).Brings e then 1 else 0 :=
  Runs.count_append engine.step events

theorem reachable_iff (resources : ResourceCache) (metrics : MetricsCache) (nowMs : UInt64) :
    (engine.rows resources metrics nowMs).reachable = true ↔ resources.lastUpdateMs ≠ 0 := by
  simp [KubeEngine.rows, UInt64.pos_iff_ne_zero]

/-! ## Runs -/

/-- Where the clock stands at the epoch exactly while nothing has succeeded, so does the stamp. -/
theorem lastUpdateMs_eq_zero_iff (hfresh : s.resources.lastUpdateMs = 0) (events : List EngineEvent)
    (h : StampsData engine s events) :
    (engine.run s events).resources.lastUpdateMs = 0 ↔ successes engine s events = 0 := by
  induction events using List.reverseRecOn with
  | nil => exact iff_of_true hfresh rfl
  | append_singleton events e ih =>
    have hearlier := ih fun before e' hbefore => h before e' (hbefore.trans (List.prefix_append _ _))
    cases hend : (engine.run s events).tickEnd e with
    | none =>
      have hbrings : ¬ (engine.run s events).Brings e := by simp [EngineState.Brings, hend]
      rw [run_concat, lastUpdateMs_of_tickEnd_none hend, successes_concat, if_neg hbrings]
      exact hearlier
    | some written =>
      rw [run_concat, resources_of_tickEnd hend]
      exact h events e (List.prefix_refl _) written.1 written.2 hend

/-- **Reachability.** In every run of the engine, snapshots tell whether a list has ever succeeded, and
ticks keep the rows of the lists that fail, exactly when the clock of each tick stands at the Unix epoch
while no list has succeeded and not from then on. -/
theorem tellsData_iff_stampsData (engine : KubeEngine) (ns : Option String)
    (events : List EngineEvent) :
    TellsData engine (KubeEngine.connected ns) events ↔
      StampsData engine (KubeEngine.connected ns) events := by
  constructor
  · rintro ⟨hreachable, -⟩ before e hbefore lists nowMs hend
    have hstate := hreachable (before ++ [e]) hbefore 0
    rw [reachable_iff, run_concat, resources_of_tickEnd hend, Nat.pos_iff_ne_zero] at hstate
    exact not_iff_not.1 hstate
  · intro h
    constructor
    case reachable =>
      intro before hbefore nowMs
      have hstamps : StampsData engine (KubeEngine.connected ns) before :=
        fun before' e hbefore' => h before' e (hbefore'.trans hbefore)
      rw [reachable_iff, Nat.pos_iff_ne_zero]
      exact not_congr (lastUpdateMs_eq_zero_iff rfl before hstamps)
    case kept =>
      intro before e _ lists nowMs hend
      rw [run_concat, resources_of_tickEnd hend]
      exact ⟨rfl, rfl, rfl⟩

/-- A tick in which all three lists fail, on a day of the clock. -/
def failedTick : List EngineEvent :=
  [.tick, .answered ⟨none, none, none⟩, .writeResources 1767225600000]

/-- After it, snapshots say that the cluster is reachable. -/
theorem not_tellsData_failedTick :
    ¬ ∀ events : List EngineEvent, TellsData kindEngine (KubeEngine.connected none) events := by
  intro h
  have hstate := ((h failedTick).reachable failedTick (List.prefix_refl _) 0).1 rfl
  exact absurd hstate (by decide)

end Muxtop.Core
