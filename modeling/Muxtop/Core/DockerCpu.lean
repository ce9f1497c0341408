import Muxtop.Core.DockerEngine
import Muxtop.Foundation.InsertAll
import Muxtop.Foundation.Runs

/-!
# Whose CPU reading a container is compared with

A tick enters each reading into the cache under the short id of its container, and looks the previous
reading up under the full id. `lookup_lastCpu` says what is found there after a tick: the reading of
the last container to answer whose first twelve characters are the id asked for. From it,
`comparedToOwn_iff` says when that is the reading of the container itself.
-/

namespace Muxtop.Core

open Bollard

/-! ## What one tick leaves in the cache -/

namespace Tick

/-- The ids whose stats were fetched with the readings they reported, in the order of completion. -/
def answers (tick : Tick) : List (String × CachedCpu) :=
  tick.completed.filterMap fun container =>
    container.id.bind fun id => (tick.fetchStats id).toOption.map fun stats => (id, cpuCache stats)

/-- A container with this id is listed. -/
def Lists (tick : Tick) (id : String) : Prop := ∃ container ∈ tick.listed, container.id = some id

/-- A container with this id is listed, and these stats were fetched for it. -/
def Fetched (tick : Tick) (id : String) (stats : ContainerStatsResponse) : Prop :=
  tick.Lists id ∧ tick.fetchStats id = .ok stats

/-- A container that answered is cached under its id. -/
theorem mem_answers_of_fetched {tick : Tick} {id : String} {stats : ContainerStatsResponse}
    (h : tick.Fetched id stats) : (id, cpuCache stats) ∈ tick.answers := by
  obtain ⟨⟨container, hmem, hid⟩, hfetch⟩ := h
  refine List.mem_filterMap.2 ⟨container, tick.completed_perm.mem_iff.2 hmem, ?_⟩
  simp [hid, hfetch, Except.toOption]

end Tick

/-- An id of twelve characters at most is not shortened. -/
theorem shortId_eq_self_iff (id : String) : shortId id = id ↔ id.length ≤ 12 := by
  rw [← String.length_toList]
  constructor
  · intro h
    rw [← h, shortId, String.toList_ofList]
    exact List.length_take_le _ _
  · intro h
    rw [shortId, List.take_of_length_le h, String.ofList_toList]

namespace DockerEngine

/-- The rows and the cache are collected side by side. -/
theorem foldl_collectRow :
    (results : List (Except EngineError (ContainerSnapshot × CachedCpu))) →
    (acc : List ContainerSnapshot × AList fun _ : String => CachedCpu) →
    results.foldl collectRow acc =
      (acc.1 ++ results.filterMap fun r => r.toOption.map (·.1),
        acc.2.insertAll (results.filterMap fun r => r.toOption.map fun row => (row.1.id, row.2)))
  | [], acc => by simp [AList.insertAll]
  | .ok row :: results, acc => by
      rw [List.foldl_cons, foldl_collectRow results]
      simp [collectRow, Except.toOption, AList.insertAll]
  | .error e :: results, acc => by
      have hskip : collectRow acc (.error e) = acc := by cases e <;> rfl
      rw [List.foldl_cons, hskip, foldl_collectRow results]
      simp [Except.toOption]

variable (engine : DockerEngine) (tick : Tick)

/-- The rows of a tick are those of the containers whose stats were fetched. -/
theorem listAndStats_rows :
    (engine.listAndStats (.ok tick)).1 =
      .ok (tick.completed.filterMap fun container =>
        (fetchRow engine.lastCpu tick container).toOption.map (·.1)) := by
  simp only [listAndStats, foldl_collectRow, List.nil_append, List.filterMap_map]
  rfl

/-- After a tick the cache has what this tick answered, under the short ids. -/
theorem listAndStats_lastCpu :
    (engine.listAndStats (.ok tick)).2.lastCpu =
      AList.insertAll ∅ (tick.answers.map fun answer => (shortId answer.1, answer.2)) := by
  simp only [listAndStats, foldl_collectRow, List.filterMap_map, Tick.answers, List.map_filterMap]
  congr 2
  funext container
  cases hid : container.id with
  | none => simp [fetchRow, hid, Except.toOption]
  | some id =>
      cases hfetch : tick.fetchStats id with
      | error e => simp [fetchRow, hid, hfetch, Except.toOption]
      | ok stats => simp [fetchRow, hid, hfetch, Except.toOption, buildSnapshot]

/-- **What a lookup after a tick finds.** -/
theorem lookup_lastCpu (id : String) :
    (engine.listAndStats (.ok tick)).2.lastCpu.lookup id =
      (tick.answers.filter (shortId ·.1 = id)).getLast?.map (·.2) := by
  rw [listAndStats_lastCpu, AList.lookup_insertAll, AList.lookup_empty, Option.or_none,
    List.filter_map, List.getLast?_map, Option.map_map]
  rfl

end DockerEngine

/-! ## The percentage -/

/-- The reported online CPUs, at least one. -/
def onlineCpus (stats : ContainerStatsResponse) : Float :=
  (max ((stats.cpuStats.bind (·.onlineCpus)).getD 1) 1).toUInt64.toFloat

/-- How far the system's counter went between two readings. -/
def systemDelta (prev now : CachedCpu) : Float :=
  (saturatingSub64 now.systemUsage prev.systemUsage).toFloat

/-- How far the container's counter went between two readings. -/
def cpuDelta (prev now : CachedCpu) : Float :=
  (saturatingSub64 now.cpuUsage prev.cpuUsage).toFloat

/-- Docker's formula. -/
def cpuShare (stats : ContainerStatsResponse) (prev : CachedCpu) : F32 :=
  FloatArith.toF32 (FloatArith.clamp
    (cpuDelta prev (cpuCache stats) / systemDelta prev (cpuCache stats) * onlineCpus stats * 100.0)
    0.0 (onlineCpus stats * 100.0))

/-- Without an earlier reading the share is 0. -/
theorem computeCpuPct_none (stats : ContainerStatsResponse) : computeCpuPct stats none = ⟨0⟩ := by
  simp only [computeCpuPct]
  split <;> rfl

/-- With one it is the container's part of what the system used. -/
theorem computeCpuPct_some (stats : ContainerStatsResponse) (prev : CachedCpu)
    (h : 0.0 < systemDelta prev (cpuCache stats)) :
    computeCpuPct stats (some prev) = cpuShare stats prev := by
  cases hstats : stats.cpuStats with
  | none =>
      -- nothing was reported, so the counters are zero and the system's has not moved
      have hzero : systemDelta prev (cpuCache stats) = (0 : UInt64).toFloat := by
        have hsub : saturatingSub64 0 prev.systemUsage = 0 := by
          simp only [saturatingSub64]
          split
          case isTrue hle => rw [UInt64.le_antisymm hle (UInt64.zero_le), UInt64.sub_self]
          case isFalse => rfl
        simp only [systemDelta, cpuCache, hstats, Option.bind_none, Option.getD_none, hsub]
      rw [hzero] at h
      exact absurd h (by decide +kernel)
  | some cpuStats =>
      simp only [systemDelta, cpuCache, hstats, Option.bind_some] at h
      simp only [computeCpuPct, hstats, if_pos h]
      simp only [cpuShare, cpuDelta, systemDelta, onlineCpus, cpuCache, hstats, Option.bind_some]

/-! ## Two ticks in a row -/

namespace DockerEngine

/-- The engine after the ticks of a run. -/
def after (ticks : List (Except EngineError Tick)) : DockerEngine :=
  Runs.run (fun engine tick => (engine.listAndStats tick).2) connect ticks

/-- List calls that fail leave the engine as it was. -/
theorem after_append_failures (ticks : List (Except EngineError Tick)) :
    (failures : List EngineError) → after (ticks ++ failures.map .error) = after ticks
  | [] => by simp
  | e :: failures => by
      have hstep : after (ticks ++ [.error e]) = after ticks := by
        rw [after, Runs.run_append]
        rfl
      rw [List.map_cons, List.append_cons, after_append_failures, hstep]

/-- The engine that a tick finds when the last list call to succeed was that of `first`. -/
def between (earlier : List (Except EngineError Tick)) (first : Tick)
    (failures : List EngineError) : DockerEngine :=
  after (earlier ++ [.ok first] ++ failures.map .error)

/-- A lookup finds the last answer under an id, failed ticks apart. -/
theorem lookup_between (earlier : List (Except EngineError Tick)) (first : Tick)
    (failures : List EngineError) (id : String) :
    (between earlier first failures).lastCpu.lookup id =
      (first.answers.filter (shortId ·.1 = id)).getLast?.map (·.2) := by
  rw [between, after_append_failures, after, Runs.run_append]
  exact lookup_lastCpu _ first id

variable (earlier : List (Except EngineError Tick)) (first : Tick) (failures : List EngineError)
  (second : Tick) (container : ContainerSummary)

/-- A container of the second tick is compared with its own reading of the first tick, and with none
when it has not been listed before. -/
structure ComparedToOwn : Prop where
  own : ∀ id stats₁ stats₂, container.id = some id → first.Fetched id stats₁ →
    second.Fetched id stats₂ →
    prev (between earlier first failures).lastCpu container = some (cpuCache stats₁) ∧
      (0.0 < systemDelta (cpuCache stats₁) (cpuCache stats₂) →
        ∀ rows, ((between earlier first failures).listAndStats (.ok second)).1 = .ok rows →
          ∀ snap ∈ rows, snap.idFull = id → snap.cpuPct = cpuShare stats₂ (cpuCache stats₁))
  firstSeen : ∀ id, container.id = some id → (∀ tick, .ok tick ∈ earlier → ¬ tick.Lists id) →
    ¬ first.Lists id → prev (between earlier first failures).lastCpu container = none

/-- The id of a container is its own short id, and no other container of the first tick that has the
same short id answered last with another reading; the id of a container not listed before is the
short id of none. -/
structure HeldUnderOwnId : Prop where
  own : ∀ id stats₁ stats₂, container.id = some id → first.Fetched id stats₁ →
    second.Fetched id stats₂ →
    id.length ≤ 12 ∧ ∀ last, (first.answers.filter (shortId ·.1 = id)).getLast? = some last →
      last.2 = cpuCache stats₁
  firstSeen : ∀ id, container.id = some id → (∀ tick, .ok tick ∈ earlier → ¬ tick.Lists id) →
    ¬ first.Lists id → ∀ answer ∈ first.answers, shortId answer.1 ≠ id

/-- A reading is found under an id exactly if the id is short enough and the last container to answer
under it reported that reading. -/
theorem lookup_between_eq_iff {id : String} {stats : ContainerStatsResponse}
    (h : first.Fetched id stats) :
    (between earlier first failures).lastCpu.lookup id = some (cpuCache stats) ↔
      id.length ≤ 12 ∧ ∀ last, (first.answers.filter (shortId ·.1 = id)).getLast? = some last →
        last.2 = cpuCache stats := by
  rw [lookup_between]
  constructor
  · intro hlookup
    obtain ⟨answer, hlast, hreading⟩ := Option.map_eq_some_iff.1 hlookup
    have hmem := List.mem_of_getLast? hlast
    have hkey : shortId answer.1 = id := by simpa using (List.mem_filter.1 hmem).2
    refine ⟨?_, ?_⟩
    · rw [← hkey, shortId, String.length_ofList]
      exact List.length_take_le _ _
    · intro last hlast'
      rw [hlast, Option.some.injEq] at hlast'
      rw [← hlast', hreading]
  · rintro ⟨hshort, hreading⟩
    -- the container itself answered, so there is a last one to have done so
    have hself := Tick.mem_answers_of_fetched h
    have hmem : (id, cpuCache stats) ∈ first.answers.filter (shortId ·.1 = id) :=
      List.mem_filter.2 ⟨hself, by simpa using (shortId_eq_self_iff id).2 hshort⟩
    obtain ⟨last, hlast⟩ := Option.isSome_iff_exists.1
      (List.getLast?_isSome.2 (List.ne_nil_of_mem hmem))
    rw [hlast, Option.map_some, hreading last hlast]

/-- It finds none where no id is cut to the one that is looked for. -/
theorem lookup_between_eq_none_iff (id : String) :
    (between earlier first failures).lastCpu.lookup id = none ↔
      ∀ answer ∈ first.answers, shortId answer.1 ≠ id := by
  rw [lookup_between, Option.map_eq_none_iff, List.getLast?_eq_none_iff, List.filter_eq_nil_iff]
  simp

/-- A row that a tick returns was computed from the reading found under its container's full id. -/
theorem cpuPct_of_row {engine : DockerEngine} {tick : Tick} {rows : List ContainerSnapshot}
    (hrows : (engine.listAndStats (.ok tick)).1 = .ok rows) {snap : ContainerSnapshot}
    (hsnap : snap ∈ rows) {stats : ContainerStatsResponse}
    (hfetch : tick.fetchStats snap.idFull = .ok stats) :
    snap.cpuPct = computeCpuPct stats (engine.lastCpu.lookup snap.idFull) := by
  rw [listAndStats_rows, Except.ok.injEq] at hrows
  rw [← hrows] at hsnap
  obtain ⟨container, -, hrow⟩ := List.mem_filterMap.1 hsnap
  cases hid : container.id with
  | none => simp [fetchRow, hid, Except.toOption] at hrow
  | some id =>
      cases hfetched : tick.fetchStats id with
      | error e => simp [fetchRow, hid, hfetched, Except.toOption] at hrow
      | ok fetched =>
          simp only [fetchRow, hid, hfetched, Except.toOption, Option.map_some,
            Option.some.injEq] at hrow
          subst hrow
          simp only [buildSnapshot, hid, Option.getD_some] at hfetch ⊢
          rw [hfetched, Except.ok.injEq] at hfetch
          rw [← hfetch, prev, hid, Option.bind_some]
          rfl

/-- **A container is compared with its own previous sample exactly when its full id is the short id
that the sample is kept under.** -/
theorem comparedToOwn_iff :
    ComparedToOwn earlier first failures second container ↔
      HeldUnderOwnId earlier first second container := by
  constructor
  · rintro ⟨hown, hfirstSeen⟩
    refine ⟨?_, ?_⟩
    · intro id stats₁ stats₂ hid hfirst hsecond
      have hprev := (hown id stats₁ stats₂ hid hfirst hsecond).1
      rw [prev, hid, Option.bind_some] at hprev
      exact (lookup_between_eq_iff earlier first failures hfirst).1 hprev
    · intro id hid hearlier hnot
      have hprev := hfirstSeen id hid hearlier hnot
      rw [prev, hid, Option.bind_some] at hprev
      exact (lookup_between_eq_none_iff earlier first failures id).1 hprev
  · rintro ⟨hown, hfirstSeen⟩
    refine ⟨?_, ?_⟩
    · intro id stats₁ stats₂ hid hfirst hsecond
      have hlookup := (lookup_between_eq_iff earlier first failures hfirst).2
        (hown id stats₁ stats₂ hid hfirst hsecond)
      refine ⟨by rw [prev, hid, Option.bind_some, hlookup], ?_⟩
      intro hdelta rows hrows snap hsnap hidFull
      subst hidFull
      rw [cpuPct_of_row hrows hsnap hsecond.2, hlookup, computeCpuPct_some _ _ hdelta]
    · intro id hid hearlier hnot
      rw [prev, hid, Option.bind_some]
      exact (lookup_between_eq_none_iff earlier first failures id).2
        (hfirstSeen id hid hearlier hnot)

/-- A container that is alone. -/
def soleContainer : ContainerSummary where
  id := some "4f66ad9a0b2e7c31"
  names := some ["/web"]
  image := some "nginx"
  created := some 1700000000
  state := some .running
  status := some "Up 2 minutes"

/-- A tick that lists one container and fetches these counters for it. -/
def soleTick (totalUsage systemUsage : UInt64) : Tick where
  listed := [soleContainer]
  completed := [soleContainer]
  completed_perm := .rfl
  fetchStats := fun _ =>
    .ok
      { cpuStats := some ⟨some ⟨some totalUsage⟩, some systemUsage, some 1⟩
        memoryStats := none
        blkioStats := none
        networks := none }
  clock := fun _ => 0

/-- A container that used half of the CPU between two ticks is shown at zero: its id has sixteen
characters, so its reading is kept where it is not looked for. -/
theorem not_comparedToOwn_of_long_id :
    (((between [] (soleTick 100 1000) []).listAndStats (.ok (soleTick 150 1100))).1.toOption.map
        fun rows => rows.map (·.cpuPct)) = some [⟨0⟩] ∧
      cpuShare ⟨some ⟨some ⟨some 150⟩, some 1100, some 1⟩, none, none, none⟩ ⟨100, 1000⟩ =
        ⟨0x42480000⟩ ∧
      ¬ ComparedToOwn [] (soleTick 100 1000) [] (soleTick 150 1100) soleContainer := by
  refine ⟨by decide +kernel, by decide +kernel, ?_⟩
  intro h
  have hfetched : ∀ total system, ∃ stats, (soleTick total system).Fetched "4f66ad9a0b2e7c31" stats :=
    fun total system => ⟨_, ⟨soleContainer, List.mem_singleton_self _, rfl⟩, rfl⟩
  obtain ⟨stats₁, hfirst⟩ := hfetched 100 1000
  obtain ⟨stats₂, hsecond⟩ := hfetched 150 1100
  have hprev := (h.own _ stats₁ stats₂ rfl hfirst hsecond).1
  have hnone : prev (between [] (soleTick 100 1000) []).lastCpu soleContainer = none := by
    decide +kernel
  rw [hnone] at hprev
  cases hprev

end DockerEngine

end Muxtop.Core
