import Muxtop.Core.DockerEngine
import Muxtop.Foundation.Retain
import Muxtop.Foundation.RingBuffer
import Muxtop.Foundation.Runs
import Muxtop.Tui.App

/-!
# The histories of the containers

`push_container_history` of `muxtop-tui/src/app.rs`. Three maps have an entry for each container of the
last list: its CPU shares, the increases of its received bytes, and the count that the next increase is
taken from. A container that a list leaves out loses all three, so one that comes back starts anew.
-/

namespace Muxtop.Tui

open Muxtop.Core RingBuffer

structure ContainerHistory where
  cpuHist : AList fun _ : String => List F32 := ∅
  rxHist : AList fun _ : String => List UInt64 := ∅
  rxLast : AList fun _ : String => UInt64 := ∅

namespace ContainerHistory

/-! ## The code -/

def containerHistoryLen : ℕ := 60

/-- What one container adds to its rings. -/
def pushContainer (h : ContainerHistory) (c : ContainerSnapshot) : ContainerHistory :=
  let cpuRing := (h.cpuHist.lookup c.id).getD []
  let delta := match h.rxLast.lookup c.id with
    | some prev => saturatingSub64 c.netRxBytes prev
    | none => 0
  let rxRing := (h.rxHist.lookup c.id).getD []
  { cpuHist := h.cpuHist.insert c.id (RingBuffer.push containerHistoryLen cpuRing c.cpuPct)
    rxHist := h.rxHist.insert c.id (RingBuffer.push containerHistoryLen rxRing delta)
    rxLast := h.rxLast.insert c.id c.netRxBytes }

/-- Update the rings for every container of the list, then drop those of the others. -/
def pushContainerHistory (h : ContainerHistory) (cs : ContainersSnapshot) : ContainerHistory :=
  let pushed := cs.containers.foldl pushContainer h
  let seen := cs.containers.map (·.id)
  { cpuHist := pushed.cpuHist.retainKeys seen
    rxHist := pushed.rxHist.retainKeys seen
    rxLast := pushed.rxLast.retainKeys seen }

/-- The part of `apply_snapshot` that keeps the histories. -/
def applySnapshot (h : ContainerHistory) (paused : Bool) (snapshot : SystemSnapshot) :
    ContainerHistory :=
  if paused then h
  else
    match snapshot.containers with
    | some cs => h.pushContainerHistory cs
    | none => h

/-- A snapshot, and whether the view is paused when it arrives. -/
structure Arrival where
  paused : Bool
  snapshot : SystemSnapshot

/-- The histories after some arrivals. -/
def run (arrivals : List Arrival) : ContainerHistory :=
  arrivals.foldl (fun h a => h.applySnapshot a.paused a.snapshot) {}

/-! ## What the histories are to hold -/

/-- The container list that the arrival brings to the histories, if any. -/
def Arrival.containers (a : Arrival) : Option (List ContainerSnapshot) :=
  if a.paused then none else a.snapshot.containers.map (·.containers)

/-- The lists so far. -/
def lists (arrivals : List Arrival) : List (List ContainerSnapshot) :=
  arrivals.filterMap Arrival.containers

/-- The list has a container of that id. -/
def has (id : String) (list : List ContainerSnapshot) : Bool := list.any (·.id == id)

/-- The container of that id in each of the consecutive lists, up to the last one, that have it. -/
def appearances (id : String) (lists : List (List ContainerSnapshot)) : List ContainerSnapshot :=
  (lists.rtakeWhile (has id)).filterMap fun list => list.find? (·.id == id)

/-- The increases of a counter, with 0 for its first value. -/
def increases : List UInt64 → List UInt64
  | [] => []
  | first :: rest => 0 :: consecutive (fun prev curr => saturatingSub64 curr prev) (first :: rest)

/-- The rings hold the last appearances of each container of the last list, and no others. -/
structure Tracks (lists : List (List ContainerSnapshot)) (h : ContainerHistory) : Prop where
  keys : ∀ id, (id ∈ h.cpuHist ↔ ∃ last ∈ lists.getLast?, id ∈ last.map (·.id)) ∧
    (id ∈ h.rxHist ↔ id ∈ h.cpuHist) ∧ (id ∈ h.rxLast ↔ id ∈ h.cpuHist)
  cpu : ∀ id, ∀ ring ∈ h.cpuHist.lookup id,
    ring = ((appearances id lists).map (·.cpuPct)).rtake containerHistoryLen
  rx : ∀ id, ∀ ring ∈ h.rxHist.lookup id,
    ring = (increases ((appearances id lists).map (·.netRxBytes))).rtake containerHistoryLen
  last : ∀ id, ∀ value ∈ h.rxLast.lookup id,
    value ∈ ((appearances id lists).map (·.netRxBytes)).getLast?
  lengths : ∀ id, (∀ ring ∈ h.cpuHist.lookup id,
      ring.length = min containerHistoryLen (lists.rtakeWhile (has id)).length) ∧
    ∀ ring ∈ h.rxHist.lookup id,
      ring.length = min containerHistoryLen (lists.rtakeWhile (has id)).length

/-! ## What the maps have under one id -/

@[ext]
structure Entry where
  cpu : Option (List F32)
  rx : Option (List UInt64)
  last : Option UInt64

def Entry.empty : Entry := ⟨none, none, none⟩

/-- The entry with one more appearance. -/
def Entry.push (e : Entry) (c : ContainerSnapshot) : Entry where
  cpu := some (RingBuffer.push containerHistoryLen (e.cpu.getD []) c.cpuPct)
  rx := some (RingBuffer.push containerHistoryLen (e.rx.getD [])
    (e.last.elim 0 (saturatingSub64 c.netRxBytes)))
  last := some c.netRxBytes

def entry (h : ContainerHistory) (id : String) : Entry :=
  ⟨h.cpuHist.lookup id, h.rxHist.lookup id, h.rxLast.lookup id⟩

/-- The entry that some appearances leave. -/
def Entry.of (seen : List ContainerSnapshot) : Entry :=
  if seen = [] then .empty
  else
    { cpu := some ((seen.map (·.cpuPct)).rtake containerHistoryLen)
      rx := some ((increases (seen.map (·.netRxBytes))).rtake containerHistoryLen)
      last := (seen.map (·.netRxBytes)).getLast? }

/-- One more value adds its increase over the last one. -/
theorem increases_concat (values : List UInt64) (value : UInt64) :
    increases (values ++ [value]) = increases values ++
      [values.getLast?.elim 0 (saturatingSub64 value)] := by
  induction values using List.reverseRecOn with
  | nil => rfl
  | append_singleton values last _ =>
    have hcons (front : List UInt64) (x : UInt64) : increases (front ++ [x]) =
        0 :: consecutive (fun prev curr => saturatingSub64 curr prev) (front ++ [x]) := by
      cases front <;> rfl
    have happend : values ++ [last] ++ [value] = values ++ [last, value] := by simp
    rw [hcons, hcons, happend, consecutive_concat, List.getLast?_concat, List.cons_append]
    rfl

/-- The ring of the shares holds the last of them. -/
theorem Entry.of_cpu (seen : List ContainerSnapshot) :
    (Entry.of seen).cpu.getD [] = (seen.map (·.cpuPct)).rtake containerHistoryLen := by
  unfold Entry.of
  split
  case isTrue h => simp [h, Entry.empty]
  case isFalse => rfl

/-- The ring of the traffic holds the last increases. -/
theorem Entry.of_rx (seen : List ContainerSnapshot) :
    (Entry.of seen).rx.getD [] = (increases (seen.map (·.netRxBytes))).rtake containerHistoryLen := by
  unfold Entry.of
  split
  case isTrue h => simp [h, Entry.empty, increases]
  case isFalse => rfl

/-- The last reading is kept beside them. -/
theorem Entry.of_last (seen : List ContainerSnapshot) :
    (Entry.of seen).last = (seen.map (·.netRxBytes)).getLast? := by
  unfold Entry.of
  split
  case isTrue h => simp [h, Entry.empty]
  case isFalse => rfl

/-- One appearance more is pushed. -/
theorem Entry.of_concat (seen : List ContainerSnapshot) (c : ContainerSnapshot) :
    Entry.of (seen ++ [c]) = (Entry.of seen).push c := by
  have hlen : containerHistoryLen = 59 + 1 := rfl
  have hsome : seen ++ [c] ≠ [] := by simp
  unfold Entry.push
  rw [Entry.of_cpu, Entry.of_rx, Entry.of_last, hlen, push_rtake, push_rtake, ← increases_concat, Entry.of,
    if_neg hsome, List.map_append, List.map_append, hlen]
  ext1
  · rfl
  · rfl
  · exact List.getLast?_concat

/-! ## One list -/

/-- A container is pushed under its own id. -/
theorem entry_pushContainer (h : ContainerHistory) (c : ContainerSnapshot) (id : String) :
    (h.pushContainer c).entry id = if id = c.id then (h.entry id).push c else h.entry id := by
  unfold entry pushContainer
  simp only [AList.lookup_insert_eq]
  split
  case isTrue hid =>
    subst hid
    unfold Entry.push
    cases h.rxLast.lookup c.id <;> rfl
  case isFalse => rfl

/-- Of a list with distinct ids, one container at most touches an entry. -/
theorem entry_foldl_pushContainer (list : List ContainerSnapshot) (h : ContainerHistory)
    (hdistinct : (list.map (·.id)).Nodup) (id : String) :
    (list.foldl pushContainer h).entry id =
      (list.find? (·.id == id)).elim (h.entry id) (h.entry id).push := by
  induction list generalizing h with
  | nil => rfl
  | cons c list ih =>
    rw [List.map_cons, List.nodup_cons] at hdistinct
    rw [List.foldl_cons, ih (h.pushContainer c) hdistinct.2, entry_pushContainer]
    by_cases hid : c.id = id
    · -- the ids are distinct, so the rest of the list does not have this one
      have hnone : list.find? (·.id == id) = none := by
        rw [List.find?_eq_none]
        intro c' hc' hsame
        refine hdistinct.1 ?_
        rw [hid, ← eq_of_beq hsame]
        exact List.mem_map_of_mem hc'
      rw [hnone, if_pos hid.symm, List.find?_cons_of_pos (by simpa using hid)]
      rfl
    · rw [if_neg (Ne.symm hid), List.find?_cons_of_neg (by simpa using hid)]

/-- A list has an id when a container in it has. -/
theorem has_iff {id : String} {list : List ContainerSnapshot} :
    has id list = true ↔ id ∈ list.map (·.id) := by
  simp [has]

/-- No container is found under an id that the list does not have. -/
theorem find?_of_not_has {id : String} {list : List ContainerSnapshot} (h : has id list = false) :
    list.find? (·.id == id) = none := by
  rw [List.find?_eq_none]
  intro c hc hid
  rw [has, List.any_eq_false] at h
  exact h c hc hid

/-- A list leaves the entries of its containers, each with one more appearance. -/
theorem entry_pushContainerHistory (h : ContainerHistory) (cs : ContainersSnapshot)
    (hdistinct : (cs.containers.map (·.id)).Nodup) (id : String) :
    (h.pushContainerHistory cs).entry id =
      (cs.containers.find? (·.id == id)).elim .empty (h.entry id).push := by
  have hpruned : (h.pushContainerHistory cs).entry id =
      if id ∈ cs.containers.map (·.id) then (cs.containers.foldl pushContainer h).entry id
      else .empty := by
    unfold pushContainerHistory entry
    simp only [AList.lookup_retainKeys]
    split <;> rfl
  rw [hpruned]
  split
  case isTrue hmem =>
    rw [entry_foldl_pushContainer _ _ hdistinct]
    obtain ⟨c, hc, hid⟩ := List.mem_map.1 hmem
    have hsome : (cs.containers.find? (·.id == id)).isSome :=
      List.find?_isSome.2 ⟨c, hc, by simpa using hid⟩
    obtain ⟨c', hc'⟩ := Option.isSome_iff_exists.1 hsome
    rw [hc']
    rfl
  case isFalse hmem =>
    rw [find?_of_not_has (Bool.eq_false_iff.2 fun h => hmem (has_iff.1 h))]
    rfl

/-- One more list adds an appearance, or starts afresh. -/
theorem appearances_concat (id : String) (lists : List (List ContainerSnapshot))
    (list : List ContainerSnapshot) :
    appearances id (lists ++ [list]) =
      (list.find? (·.id == id)).elim [] fun c => appearances id lists ++ [c] := by
  unfold appearances
  cases hhas : has id list with
  | false =>
    rw [List.rtakeWhile_concat_neg _ _ _ (by simp [hhas]), find?_of_not_has hhas]
    rfl
  | true =>
    rw [List.rtakeWhile_concat_pos _ _ _ hhas, List.filterMap_append]
    have hsome : (list.find? (·.id == id)).isSome := by
      rw [List.find?_isSome]
      simpa [has] using hhas
    obtain ⟨c, hc⟩ := Option.isSome_iff_exists.1 hsome
    simp [hc]

/-! ## Runs -/

/-- A run ends with its last arrival. -/
theorem run_concat (arrivals : List Arrival) (a : Arrival) :
    run (arrivals ++ [a]) = (run arrivals).applySnapshot a.paused a.snapshot := by
  rw [run, List.foldl_append]
  rfl

/-- An arrival without a list leaves the histories, one with a list updates them. -/
theorem run_concat_eq (arrivals : List Arrival) (a : Arrival) :
    (a.containers = none ∧ run (arrivals ++ [a]) = run arrivals ∧
        lists (arrivals ++ [a]) = lists arrivals) ∨
      ∃ cs : ContainersSnapshot, a.containers = some cs.containers ∧
        run (arrivals ++ [a]) = (run arrivals).pushContainerHistory cs ∧
          lists (arrivals ++ [a]) = lists arrivals ++ [cs.containers] := by
  have hlists : lists (arrivals ++ [a]) = lists arrivals ++ a.containers.toList := by
    rw [lists, List.filterMap_append]
    cases hlist : a.containers <;> simp [lists, hlist]
  rw [run_concat, hlists]
  unfold Arrival.containers applySnapshot
  by_cases hpaused : a.paused
  · left
    simp [hpaused]
  · cases hcs : a.snapshot.containers with
    | none => left; simp [hpaused]
    | some cs => right; exact ⟨cs, by simp [hpaused]⟩

/-- After every run, an entry is what the appearances of its container leave. -/
theorem entry_run (arrivals : List Arrival)
    (hdistinct : ∀ list ∈ lists arrivals, (list.map (·.id)).Nodup) (id : String) :
    (run arrivals).entry id = Entry.of (appearances id (lists arrivals)) := by
  induction arrivals using List.reverseRecOn with
  | nil => rfl
  | append_singleton arrivals a ih =>
    obtain ⟨-, hrun, hlists⟩ | ⟨cs, -, hrun, hlists⟩ := run_concat_eq arrivals a
    · rw [hlists] at hdistinct
      rw [hrun, hlists]
      exact ih hdistinct
    · rw [hlists] at hdistinct
      have hlast := hdistinct cs.containers (by simp)
      have hearlier := ih fun list hlist => hdistinct list (List.mem_append_left _ hlist)
      rw [hrun, hlists, entry_pushContainerHistory _ _ hlast, appearances_concat, hearlier]
      cases cs.containers.find? (·.id == id) with
      | none => rfl
      | some c => exact (Entry.of_concat _ c).symm

/-- An id has appeared in as many lists as it was in at the end. -/
theorem length_appearances (id : String) (lists : List (List ContainerSnapshot)) :
    (appearances id lists).length = (lists.rtakeWhile (has id)).length := by
  refine List.filterMap_length_eq_length.2 fun list hlist => ?_
  have hhas : has id list = true := List.mem_rtakeWhile_imp hlist
  rw [List.find?_isSome]
  simpa [has] using hhas

/-- A container has appearances exactly when the last list has it. -/
theorem appearances_ne_nil_iff (id : String) (lists : List (List ContainerSnapshot)) :
    appearances id lists ≠ [] ↔ ∃ last ∈ lists.getLast?, id ∈ last.map (·.id) := by
  rw [← List.length_pos_iff, length_appearances, List.length_pos_iff, Ne, List.rtakeWhile_eq_nil_iff]
  simp only [not_forall, not_not]
  constructor
  · rintro ⟨hne, hhas⟩
    exact ⟨_, List.getLast?_eq_getLast_of_ne_nil hne, has_iff.1 hhas⟩
  · rintro ⟨last, hlast, hmem⟩
    have hne : lists ≠ [] := by
      rintro rfl
      cases hlast
    refine ⟨hne, has_iff.2 ?_⟩
    rw [List.getLast?_eq_getLast_of_ne_nil hne] at hlast
    rwa [Option.some.inj hlast]

/-- Each reading has an increase, the first against itself. -/
theorem length_increases (values : List UInt64) : (increases values).length = values.length := by
  cases values with
  | nil => rfl
  | cons first rest => simp [increases]

/-- What the histories hold under an id is one entry. -/
theorem tracks_of_entry {lists : List (List ContainerSnapshot)} {h : ContainerHistory}
    (hentry : ∀ id, h.entry id = Entry.of (appearances id lists)) : Tracks lists h := by
  have hcpu (id : String) : h.cpuHist.lookup id = (Entry.of (appearances id lists)).cpu :=
    congrArg Entry.cpu (hentry id)
  have hrx (id : String) : h.rxHist.lookup id = (Entry.of (appearances id lists)).rx :=
    congrArg Entry.rx (hentry id)
  have hlast (id : String) : h.rxLast.lookup id = (Entry.of (appearances id lists)).last :=
    congrArg Entry.last (hentry id)
  have hcpuRing (id : String) : ∀ ring ∈ h.cpuHist.lookup id,
      ring = ((appearances id lists).map (·.cpuPct)).rtake containerHistoryLen := by
    intro ring hin
    rw [← Entry.of_cpu, ← hcpu, hin, Option.getD_some]
  have hrxRing (id : String) : ∀ ring ∈ h.rxHist.lookup id,
      ring = (increases ((appearances id lists).map (·.netRxBytes))).rtake containerHistoryLen := by
    intro ring hin
    rw [← Entry.of_rx, ← hrx, hin, Option.getD_some]
  -- The three maps hold the id together, all of them or none.
  constructor
  case keys =>
    intro id
    simp only [← AList.lookup_isSome, hcpu, hrx, hlast, ← appearances_ne_nil_iff]
    unfold Entry.of
    split
    case isTrue hnil => simp [hnil, Entry.empty]
    case isFalse hsome => simp [hsome, List.getLast?_isSome]
  case cpu => exact hcpuRing
  case rx => exact hrxRing
  case last =>
    intro id value hin
    rwa [hlast, Entry.of_last] at hin
  case lengths =>
    refine fun id => ⟨fun ring hin => ?_, fun ring hin => ?_⟩
    · rw [hcpuRing id ring hin, length_rtake, List.length_map, length_appearances]
    · rw [hrxRing id ring hin, length_rtake, length_increases, List.length_map, length_appearances]

/-- **Container histories.** After every run of arrivals whose lists have distinct ids, the three maps
hold the last appearances of the containers of the last list; an arrival that is paused or has no list
changes nothing. -/
theorem run_tracks (arrivals : List Arrival)
    (hdistinct : ∀ list ∈ lists arrivals, (list.map (·.id)).Nodup) :
    Tracks (lists arrivals) (run arrivals) ∧
      ∀ a : Arrival, (a.paused = true ∨ a.snapshot.containers = none) →
        run (arrivals ++ [a]) = run arrivals := by
  refine ⟨tracks_of_entry (entry_run arrivals hdistinct), fun a ha => ?_⟩
  rw [run_concat, applySnapshot]
  obtain hpaused | hnone := ha
  · rw [if_pos hpaused]
  · rw [hnone, ite_self]

/-- A container that is listed, left out, and listed again. -/
def returning : List Arrival :=
  let web : ContainerSnapshot := { (default : ContainerSnapshot) with id := "web", netRxBytes := 7 }
  let snapshot (list : List ContainerSnapshot) : SystemSnapshot :=
    { (default : SystemSnapshot) with containers := some ⟨.docker, true, list⟩ }
  [⟨false, snapshot [web]⟩, ⟨false, snapshot []⟩, ⟨false, snapshot [web]⟩]

/-- A container that was gone for a while starts afresh. -/
theorem run_tracks_returning : Tracks (lists returning) (run returning) :=
  (run_tracks returning (by decide)).1

/-! ## The histories of the application -/

/-- What a turn of the event loop brings to the histories. -/
def arrival (s : AppState) (input : Input) : Option Arrival :=
  match input.event with
  | .snapshot snapshot => if s.running then some ⟨s.paused, snapshot⟩ else none
  | _ => none

/-- A turn of the event loop, with the histories beside the rest of the state. -/
def turn (lib : Lib) (sh : AppState × ContainerHistory) (input : Input) : AppState × ContainerHistory :=
  (sh.1.step lib input,
    (arrival sh.1 input).elim sh.2 fun a => sh.2.applySnapshot a.paused a.snapshot)

/-- The snapshots that reach the histories in a run of the event loop. -/
def arrivals (lib : Lib) : AppState → List Input → List Arrival
  | _, [] => []
  | s, input :: inputs => (arrival s input).toList ++ arrivals lib (s.step lib input) inputs

/-- The histories of the application are those of its arrivals. -/
theorem run_turn (lib : Lib) (inputs : List Input) (s : AppState) (before : List Arrival) :
    (Runs.run (turn lib) (s, run before) inputs).2 = run (before ++ arrivals lib s inputs) := by
  induction inputs generalizing s before with
  | nil => simp [arrivals]
  | cons input inputs ih =>
    have hturn : turn lib (s, run before) input =
        (s.step lib input, run (before ++ (arrival s input).toList)) := by
      unfold turn
      cases arrival s input with
      | none => simp
      | some a => simp [run_concat]
    rw [Runs.run_cons, hturn, ih, arrivals, List.append_assoc]

/-- The application's histories hold the last appearances, as long as the lists have distinct ids. -/
theorem tracks_run_turn (lib : Lib) (s : AppState) (inputs : List Input)
    (hdistinct : ∀ list ∈ lists (arrivals lib s inputs), (list.map (·.id)).Nodup) :
    Tracks (lists (arrivals lib s inputs)) (Runs.run (turn lib) (s, {}) inputs).2 := by
  have hrun := run_turn lib inputs s []
  rw [List.nil_append] at hrun
  change Tracks _ (Runs.run (turn lib) (s, run []) inputs).2
  rw [hrun]
  exact tracks_of_entry (entry_run _ hdistinct)

end ContainerHistory

end Muxtop.Tui
