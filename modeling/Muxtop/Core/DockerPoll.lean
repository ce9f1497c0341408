import Muxtop.Core.DockerCpu
import Muxtop.Foundation.BufferUnordered
import Muxtop.Foundation.Saturating

/-!
# The stats of all containers at once

Reference: `list_and_stats`, `fetch_stats` and `map_bollard_error` of `muxtop-core/src/docker_engine.rs`.

A poll lists the containers and asks for the stats of all of them, sixteen at a time. The answers come in
any order, or not at all. `DockerEngine.listAndStats` is told the order of the answers; here it is found.
-/

namespace Muxtop.Core

open Bollard

/-- What the client library fails with; an error that is not a response carries how it is written. -/
inductive BollardError
  | dockerResponseServerError (statusCode : UInt16) (message : String)
  | requestTimeoutError
  | ioError (text : String)
  | hyperResponseError (text : String)
  | httpClientError (text : String)
  | socketNotFoundError (text : String)
  | unlisted (text : String)

/-- In milliseconds. -/
def actionTimeout : ℕ := 10_000

/-- In milliseconds. -/
def statsTimeout : ℕ := 1_500

def parallelStats : ℕ := 16

def mapBollardError : BollardError → EngineError
  | .dockerResponseServerError statusCode message =>
    match statusCode with
    | 404 => .containerNotFound message
    | 403 => .permissionDenied message
    | _ => .other s!"HTTP {statusCode}: {message}"
  | .requestTimeoutError => .timeout actionTimeout
  | .ioError text | .hyperResponseError text | .httpClientError text | .socketNotFoundError text =>
    .connectFailed text
  | .unlisted text => .other text

/-- What comes of a request for stats: nothing in time, the first item of the stream, or no item. -/
inductive StatsAnswer
  | elapsed
  | item (first : Except BollardError ContainerStatsResponse)
  | closed

def fetchStats : StatsAnswer → Except EngineError ContainerStatsResponse
  | .elapsed => .error (.timeout statsTimeout)
  | .item (.ok stats) => .ok stats
  | .item (.error e) => .error (mapBollardError e)
  | .closed => .error (.other "stats stream ended immediately")

/-- An answer, and the wall clock when it is taken up. -/
structure Answered where
  answer : StatsAnswer
  now : UInt64

namespace DockerEngine

/-- The future of one container. Without an id there is nothing to ask for. -/
def statsFuture (lastCpu : AList fun _ : String => CachedCpu) (container : ContainerSummary) (a : Answered) :
    Except EngineError (ContainerSnapshot × CachedCpu) :=
  match container.id with
  | none => .error (.other "container has no id")
  | some _ =>
    match fetchStats a.answer with
    | .error e => .error e
    | .ok stats => .ok (buildSnapshot container stats (prev lastCpu container) a.now)

/-- What a poll takes in once all futures have completed. -/
def collected (engine : DockerEngine) (ended : List (ContainerSummary × Answered)) :
    Except EngineError (List ContainerSnapshot) × DockerEngine :=
  let results := ended.map fun e => statsFuture engine.lastCpu e.1 e.2
  let (snapshots, newCache) := results.foldl collectRow ([], ∅)
  (.ok snapshots, { engine with lastCpu := newCache })

/-- A poll, when the daemon lists its containers, or fails to, and the futures go on as they do; it returns
once all of them have completed. -/
def poll (engine : DockerEngine) (list : Except BollardError (List ContainerSummary))
    (events : List (BufferUnordered.Event Answered)) :
    Option (Except EngineError (List ContainerSnapshot) × DockerEngine) :=
  match list with
  | .error e => some (.error (mapBollardError e), engine)
  | .ok listed =>
    let s := BufferUnordered.run parallelStats listed events
    if s.finished then some (engine.collected s.ended) else none

/-! ## Rows -/

/-- The row of a container whose stats came. -/
def rowOf (lastCpu : AList fun _ : String => CachedCpu) (e : ContainerSummary × Answered) :
    Option ContainerSnapshot :=
  (statsFuture lastCpu e.1 e.2).toOption.map Prod.fst

/-- The counters that a row sums up, over what the daemon tells. -/
def summed (stats : ContainerStatsResponse) (bytes : ContainerNetworkStats → Option UInt64) : ℕ :=
  ((stats.networks.getD []).map fun n => ((bytes n.2).getD 0).toNat).sum

/-- The bytes of block input and output under an operation, in letters of either case. -/
def blkioBytes (stats : ContainerStatsResponse) (opLabel : String) : ℕ :=
  ((((stats.blkioStats.bind (·.ioServiceBytesRecursive)).getD []).filter fun e =>
    e.op.map (·.map Char.toLower) = some opLabel).map fun e => (e.value.getD 0).toNat).sum

/-- The sums stop at the greatest value. -/
theorem adds_saturatingAdd64 : Saturating.Adds UInt64.toNat saturatingAdd64 (UInt64.size - 1) :=
  Saturating.adds_ofNat (fun a => a.toNat_lt_size) fun _ hn => UInt64.toNat_ofNat_of_lt' hn

/-- Two sums in one loop are two loops. -/
theorem foldl_pair {α β γ : Type} (f : β → α → β) (g : γ → α → γ) (l : List α) (b : β) (c : γ) :
    l.foldl (fun (acc : β × γ) a => (f acc.1 a, g acc.2 a)) (b, c) = (l.foldl f b, l.foldl g c) := by
  induction l generalizing b c with
  | nil => rfl
  | cons a l ih => exact ih _ _

/-- The traffic of a container is the sum over its networks, cut once. -/
theorem sumNetworks_toNat (stats : ContainerStatsResponse) :
    (sumNetworks stats).1.toNat = min (summed stats (·.rxBytes)) (UInt64.size - 1) ∧
      (sumNetworks stats).2.toNat = min (summed stats (·.txBytes)) (UInt64.size - 1) := by
  unfold sumNetworks summed
  rcases stats.networks with _ | nets
  · exact ⟨rfl, rfl⟩
  · have hpair := foldl_pair
      (fun (total : UInt64) (n : String × ContainerNetworkStats) => saturatingAdd64 total (n.2.rxBytes.getD 0))
      (fun (total : UInt64) (n : String × ContainerNetworkStats) => saturatingAdd64 total (n.2.txBytes.getD 0))
      nets 0 0
    simp only [hpair, adds_saturatingAdd64.toNat_foldl, UInt64.toNat_zero, Nat.zero_add, Option.getD_some,
      and_self]

/-- So is its block traffic over the entries of one kind. -/
theorem sumBlkio_toNat (stats : ContainerStatsResponse) (opLabel : String) :
    (sumBlkio stats opLabel).toNat = min (blkioBytes stats opLabel) (UInt64.size - 1) := by
  unfold sumBlkio blkioBytes
  rcases stats.blkioStats.bind (·.ioServiceBytesRecursive) with _ | entries
  · rfl
  · have hnone (l : List ContainerBlkioStatEntry) :
        ((l.filterMap (·.value)).map UInt64.toNat).sum = (l.map fun e => (e.value.getD 0).toNat).sum := by
      induction l with
      | nil => rfl
      | cons e l ih =>
        rcases hvalue : e.value with _ | v
        · simp [hvalue, ih]
        · simp [hvalue, ih]
    have hfold := adds_saturatingAdd64.toNat_foldl id
      ((entries.filter fun e => e.op.map (·.map Char.toLower) = some opLabel).filterMap (·.value)) 0
    rw [UInt64.toNat_zero, Nat.zero_add] at hfold
    exact hfold.trans (congrArg (min · _) (hnone _))

/-- What a row tells of the container that it is about. -/
structure Tells (lastCpu : AList fun _ : String => CachedCpu) (container : ContainerSummary)
    (stats : ContainerStatsResponse) (row : ContainerSnapshot) : Prop where
  idFull : container.id = some row.idFull
  id : row.id.toList = row.idFull.toList.take 12
  cpuPct : row.cpuPct = computeCpuPct stats (lastCpu.lookup row.idFull)
  rx : row.netRxBytes.toNat = min (summed stats (·.rxBytes)) (UInt64.size - 1)
  tx : row.netTxBytes.toNat = min (summed stats (·.txBytes)) (UInt64.size - 1)
  read : row.blockReadBytes.toNat = min (blkioBytes stats "read") (UInt64.size - 1)
  write : row.blockWriteBytes.toNat = min (blkioBytes stats "write") (UInt64.size - 1)

/-- A row tells what the answer says. -/
theorem tells_buildSnapshot (lastCpu : AList fun _ : String => CachedCpu) {container : ContainerSummary}
    {id : String} (hid : container.id = some id) (stats : ContainerStatsResponse) (now : UInt64) :
    Tells lastCpu container stats (buildSnapshot container stats (prev lastCpu container) now).1 where
  idFull := by simp [buildSnapshot, hid]
  id := by simp [buildSnapshot, shortId]
  cpuPct := by
    show computeCpuPct stats (prev lastCpu container) =
      computeCpuPct stats (lastCpu.lookup (container.id.getD ""))
    rw [prev, hid]
    rfl
  rx := (sumNetworks_toNat stats).1
  tx := (sumNetworks_toNat stats).2
  read := sumBlkio_toNat stats "read"
  write := sumBlkio_toNat stats "write"

/-- A container has a row exactly if it has an id and its stats came, whatever came of the others. -/
theorem rowOf_eq_some_iff {lastCpu : AList fun _ : String => CachedCpu} {e : ContainerSummary × Answered}
    {row : ContainerSnapshot} :
    rowOf lastCpu e = some row ↔ e.1.id.isSome ∧ ∃ stats, e.2.answer = .item (.ok stats) ∧
      row = (buildSnapshot e.1 stats (prev lastCpu e.1) e.2.now).1 := by
  rcases e with ⟨container, answer, now⟩
  rcases hid : container.id with _ | id
  · simp [rowOf, statsFuture, hid, Except.toOption]
  · rcases answer with _ | (error | stats) | _
    · simp [rowOf, statsFuture, hid, fetchStats, Except.toOption]
    · simp [rowOf, statsFuture, hid, fetchStats, Except.toOption]
    · simp [rowOf, statsFuture, hid, fetchStats, Except.toOption, eq_comm]
    · simp [rowOf, statsFuture, hid, fetchStats, Except.toOption]

/-- The rows come in the order that the answers came in. -/
theorem collected_rows (engine : DockerEngine) (ended : List (ContainerSummary × Answered)) :
    (engine.collected ended).1 = .ok (ended.filterMap (rowOf engine.lastCpu)) := by
  simp only [collected, foldl_collectRow, List.nil_append, List.filterMap_map]
  rfl

/-! ## The order that the answers came in -/

/-- Under distinct keys an element is found by its own. -/
theorem find?_of_key {α κ : Type} [DecidableEq κ] {key : α → Option κ} {l : List α}
    (hkeys : (l.filterMap key).Nodup) {a : α} (ha : a ∈ l) {k : κ} (hk : key a = some k) :
    l.find? (fun a => key a == some k) = some a := by
  induction l with
  | nil => cases ha
  | cons first l ih =>
    by_cases hfirst : key first = some k
    · rw [List.find?_cons_of_pos (by simpa using hfirst)]
      rcases List.mem_cons.1 ha with rfl | hrest
      · rfl
      · -- two elements of one key
        rw [List.filterMap_cons_some hfirst] at hkeys
        exact absurd (List.mem_filterMap.2 ⟨a, hrest, hk⟩) (List.nodup_cons.1 hkeys).1
    · rw [List.find?_cons_of_neg (by simpa using hfirst)]
      rcases List.mem_cons.1 ha with rfl | hrest
      · exact absurd hk hfirst
      · refine ih ?_ hrest
        rcases hother : key first with _ | other
        · rwa [List.filterMap_cons_none hother] at hkeys
        · rw [List.filterMap_cons_some hother] at hkeys
          exact (List.nodup_cons.1 hkeys).2

/-- The tick that a poll comes to. -/
def tickOf (listed : List ContainerSummary) (ended : List (ContainerSummary × Answered))
    (hperm : (ended.map Prod.fst).Perm listed) : Tick where
  listed := listed
  completed := ended.map Prod.fst
  completed_perm := hperm
  fetchStats id :=
    match ended.find? fun e => e.1.id == some id with
    | some e => fetchStats e.2.answer
    | none => .error (.other "not listed")
  clock id :=
    match ended.find? fun e => e.1.id == some id with
    | some e => e.2.now
    | none => 0

/-- An answer that came in some order is the one its container gave. -/
theorem fetchRow_tickOf (engine : DockerEngine) {listed : List ContainerSummary}
    {ended : List (ContainerSummary × Answered)} (hperm : (ended.map Prod.fst).Perm listed)
    (hids : (ended.filterMap (·.1.id)).Nodup) {e : ContainerSummary × Answered} (he : e ∈ ended) :
    fetchRow engine.lastCpu (tickOf listed ended hperm) e.1 = statsFuture engine.lastCpu e.1 e.2 := by
  unfold fetchRow statsFuture
  rcases hid : e.1.id with _ | id
  · rfl
  · have hfind := find?_of_key hids he hid
    have hfetch : (tickOf listed ended hperm).fetchStats id = fetchStats e.2.answer := by
      simp only [tickOf, hfind]
    have hclock : (tickOf listed ended hperm).clock id = e.2.now := by
      simp only [tickOf, hfind]
    rcases hstats : fetchStats e.2.answer with error | stats
    · simp only [hfetch, hstats]
    · simp only [hfetch, hclock, hstats]

/-- So the order of the answers is the order of the rows, and nothing else. -/
theorem listAndStats_tickOf (engine : DockerEngine) {listed : List ContainerSummary}
    {ended : List (ContainerSummary × Answered)} (hperm : (ended.map Prod.fst).Perm listed)
    (hids : (listed.filterMap (·.id)).Nodup) :
    engine.listAndStats (.ok (tickOf listed ended hperm)) = engine.collected ended := by
  have hids' : (ended.filterMap (·.1.id)).Nodup := by
    have hmap : ended.filterMap (·.1.id) = (ended.map Prod.fst).filterMap (·.id) := by
      rw [List.filterMap_map]
      rfl
    rw [hmap]
    exact ((hperm.filterMap _).nodup_iff).2 hids
  have hresults : (ended.map Prod.fst).map (fetchRow engine.lastCpu (tickOf listed ended hperm)) =
      ended.map fun e => statsFuture engine.lastCpu e.1 e.2 := by
    rw [List.map_map]
    exact List.map_congr_left fun e he => fetchRow_tickOf engine hperm hids' he
  show (let (snapshots, newCache) :=
      ((ended.map Prod.fst).map (fetchRow engine.lastCpu (tickOf listed ended hperm))).foldl collectRow ([], ∅)
    (Except.ok snapshots, { engine with lastCpu := newCache })) = _
  rw [hresults]
  rfl

/-- **A poll, whatever order the stats come in.** At any time at most sixteen requests are under way, and
the containers that were asked for are the first ones of the list, once each. From any time on, whatever the
remaining answers are, the poll can come to its end with them; then every container has been asked for once,
the rows are those of the containers that have an id and whose stats came, in the order in which they came,
and a row depends on nothing else that was answered: its counters are the exact sums over what its
container's stats tell, cut once at the greatest value, in whatever order the map gives them out. Where the
ids differ the poll is a tick of the engine. -/
theorem poll_rows (engine : DockerEngine) (listed : List ContainerSummary)
    (events : List (BufferUnordered.Event Answered)) :
    let s := BufferUnordered.run parallelStats listed events
    s.inFlight.length ≤ 16 ∧
      (∃ asked, asked ++ s.pending = listed ∧ (s.inFlight ++ s.ended.map Prod.fst).Perm asked) ∧
      (∀ answer : ContainerSummary → Answered, ∃ more,
        (engine.poll (.ok listed) (events ++ more)).isSome ∧
          more.length ≤ 2 * s.pending.length + s.inFlight.length ∧
          s.EndedBy answer (BufferUnordered.run parallelStats listed (events ++ more))) ∧
      (∀ result, engine.poll (.ok listed) events = some result →
        (s.ended.map Prod.fst).Perm listed ∧ result.1 = .ok (s.ended.filterMap (rowOf engine.lastCpu)) ∧
          ((listed.filterMap (·.id)).Nodup → ∃ tick : Tick, tick.listed = listed ∧
            tick.completed = s.ended.map Prod.fst ∧ result = engine.listAndStats (.ok tick))) ∧
      (∀ e ∈ s.ended, ∀ row, rowOf engine.lastCpu e = some row →
        ∃ stats, e.2.answer = .item (.ok stats) ∧ Tells engine.lastCpu e.1 stats row) ∧
      ∀ e ∈ s.ended, rowOf engine.lastCpu e = none ↔
        e.1.id = none ∨ ∃ error, fetchStats e.2.answer = .error error := by
  intro s
  have hsound : BufferUnordered.Sound parallelStats listed s :=
    BufferUnordered.sound_run parallelStats listed events
  refine ⟨hsound.bounded, hsound.begun, fun answer => ?_, fun result hresult => ?_, fun e _ row hrow => ?_,
    fun e _ => ?_⟩
  · obtain ⟨more, hfinished, hlength, hended⟩ :=
      BufferUnordered.exists_finished (by decide : 0 < parallelStats) answer s
    have hrun : BufferUnordered.run parallelStats listed (events ++ more) =
        Runs.run (BufferUnordered.step parallelStats) s more := Runs.run_append _ _ _ _
    refine ⟨more, ?_, hlength, hrun ▸ hended⟩
    rw [poll, hrun, if_pos hfinished]
    rfl
  · rw [poll] at hresult
    split_ifs at hresult with hfinished
    obtain rfl := Option.some.inj hresult
    have hperm := hsound.perm_of_finished hfinished
    exact ⟨hperm, collected_rows engine s.ended, fun hids =>
      ⟨tickOf listed s.ended hperm, rfl, rfl, (listAndStats_tickOf engine hperm hids).symm⟩⟩
  · obtain ⟨hid, stats, hanswer, rfl⟩ := rowOf_eq_some_iff.1 hrow
    obtain ⟨id, hid⟩ := Option.isSome_iff_exists.1 hid
    exact ⟨stats, hanswer, tells_buildSnapshot engine.lastCpu hid stats e.2.now⟩
  · unfold rowOf statsFuture
    rcases hid : e.1.id with _ | id
    · simp [Except.toOption]
    · rcases hfetch : fetchStats e.2.answer with error | stats
      · simp [Except.toOption]
      · simp [Except.toOption]

end DockerEngine

end Muxtop.Core
