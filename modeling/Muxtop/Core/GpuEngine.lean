import Mathlib.Algebra.Group.Nat.Defs
import Mathlib.Data.List.Nodup
import Muxtop.Core.System
import Muxtop.Foundation.Text

/-!
# Merging the GPU backends

`CompositeGpuEngine` of `muxtop-core/src/gpu_engine.rs`, with the errors of its backends.

Each backend numbers its own devices from 0. The merge puts the devices one list after the other and
renumbers them, so a process must be renumbered by as much as the device it runs on. The loop keeps
that true of the backends it has been through, whichever of them answer.
-/

namespace Muxtop.Core

/-- Errors raised by a GPU engine. -/
inductive GpuError
  | noBackend
  | driverUnavailable (vendor reason : String)
  | query (reason : String)
  | sysfs (path reason : String)
  | unsupported (detail : String)
deriving DecidableEq, Repr

instance : ToString GpuError where
  toString
    | .noBackend => "no GPU backend available"
    | .driverUnavailable vendor reason => vendor ++ " driver unavailable: " ++ reason
    | .query reason => "GPU query failed: " ++ reason
    | .sysfs path reason => "GPU sysfs read failed at " ++ path ++ ": " ++ reason
    | .unsupported detail => detail

/-- Canonical empty snapshot when no GPU backend is usable. -/
def GpusSnapshot.unavailable : GpusSnapshot where
  backends := []
  available := false
  devices := []
  processes := []
  detail := ""

namespace CompositeGpuEngine

/-! ## The engine -/

/-- What a backend answers when it is asked for a snapshot. -/
abbrev Answer := Except GpuError GpusSnapshot

/-- The variables of the loop over the backends. -/
structure Merge where
  merged : GpusSnapshot
  failures : List String

def pushDistinct (kinds : List GpuBackend) (kind : GpuBackend) : List GpuBackend :=
  if kinds.contains kind then kinds else kinds ++ [kind]

/-- One turn of the loop. -/
def absorb (m : Merge) : Answer → Merge
  | .error err => { m with failures := m.failures ++ [toString err] }
  | .ok snapshot =>
    if !snapshot.available then
      if snapshot.detail.isEmpty then m else { m with failures := m.failures ++ [snapshot.detail] }
    else
      let offset := UInt32.ofNat m.merged.devices.length
      { m with
        merged := { m.merged with
          devices := m.merged.devices ++
            snapshot.devices.map fun d => { d with index := offset + d.index }
          processes := m.merged.processes ++
            snapshot.processes.map fun p => { p with deviceIndex := p.deviceIndex + offset }
          backends := snapshot.backends.foldl pushDistinct m.merged.backends } }

/-- `CompositeGpuEngine::snapshot`, which never fails. -/
def snapshot (answers : List Answer) : GpusSnapshot :=
  let m := answers.foldl absorb ⟨.unavailable, []⟩
  if !m.merged.devices.isEmpty then { m.merged with available := true }
  else
    { m.merged with
      available := false
      detail := if m.failures.isEmpty then "no GPU detected" else "; ".intercalate m.failures }

/-! ## What each backend contributes -/

/-- The snapshot of a backend that is available. -/
def contribution : Answer → Option GpusSnapshot
  | .ok snapshot => if snapshot.available then some snapshot else none
  | .error _ => none

/-- Why a backend contributes nothing, where it says so. -/
def failure : Answer → Option String
  | .error err => some (toString err)
  | .ok snapshot => if !snapshot.available && !snapshot.detail.isEmpty then some snapshot.detail else none

/-- The available backends' snapshots, in the order of the backends. -/
def contributors (answers : List Answer) : List GpusSnapshot := answers.filterMap contribution

/-- A device apart from its number. -/
def unnumbered (d : GpuDeviceSnapshot) : GpuDeviceSnapshot := { d with index := 0 }

/-- A process apart from the device it runs on. -/
def unbilled (p : GpuProcessSnapshot) : GpuProcessSnapshot := { p with deviceIndex := 0 }

/-- The backend's devices are numbered from 0 in order, and its processes run on them. -/
def Numbered (snapshot : GpusSnapshot) : Prop :=
  snapshot.devices.map (·.index.toNat) = List.range snapshot.devices.length ∧
    ∀ p ∈ snapshot.processes, p.deviceIndex.toNat < snapshot.devices.length

instance (snapshot : GpusSnapshot) : Decidable (Numbered snapshot) := inferInstanceAs (Decidable (_ ∧ _))

/-- For each merged device, which contributor it comes from and where it stood there. -/
def origins (snapshots : List GpusSnapshot) : List (ℕ × ℕ) :=
  snapshots.zipIdx.flatMap fun s => (List.range s.1.devices.length).map fun i => (s.2, i)

/-- The merge of some snapshots: their devices one after the other, numbered from 0, each process with
the device it had, and each kind once. -/
structure MergeOf (snapshots : List GpusSnapshot) (merged : GpusSnapshot) : Prop where
  indices : merged.devices.map (·.index.toNat) = List.range merged.devices.length
  devices : merged.devices.map unnumbered = snapshots.flatMap fun s => s.devices.map unnumbered
  processes :
    (merged.processes.map fun p => (unbilled p, (origins snapshots)[p.deviceIndex.toNat]?)) =
      snapshots.zipIdx.flatMap fun s =>
        s.1.processes.map fun p => (unbilled p, some (s.2, p.deviceIndex.toNat))
  nodup : merged.backends.Nodup
  backends : ∀ kind, kind ∈ merged.backends ↔ ∃ s ∈ snapshots, kind ∈ s.backends

/-- What a composite snapshot promises of the backends' answers. -/
structure Composed (answers : List Answer) : Prop where
  merge : MergeOf (contributors answers) (snapshot answers)
  available : (snapshot answers).available = true ↔ (snapshot answers).devices ≠ []
  detail : (snapshot answers).devices = [] →
    ∀ reason ∈ answers.filterMap failure, Text.contains (snapshot answers).detail reason = true
  /-- Without the backends that contribute nothing, the others contribute the same. -/
  alone :
    let others := snapshot (answers.filter fun answer => (contribution answer).isSome)
    (snapshot answers).devices = others.devices ∧ (snapshot answers).processes = others.processes ∧
      (snapshot answers).backends = others.backends

variable {snapshots : List GpusSnapshot} {answers : List Answer} {s merged : GpusSnapshot} {m : Merge}

/-! ## One turn -/

/-- Each device of the snapshots has an origin. -/
theorem length_origins (snapshots : List GpusSnapshot) :
    (origins snapshots).length = (snapshots.flatMap (·.devices)).length := by
  have hlengths : (snapshots.zipIdx.map fun s => s.1.devices.length) =
      snapshots.map fun s => s.devices.length := by
    have hmap := List.map_map (l := snapshots.zipIdx) (f := Prod.fst)
      (g := fun s : GpusSnapshot => s.devices.length)
    rw [List.zipIdx_map_fst] at hmap
    exact hmap.symm
  simp [origins, List.length_flatMap, hlengths]

/-- The devices of another snapshot come behind those before. -/
theorem origins_append (snapshots : List GpusSnapshot) (s : GpusSnapshot) :
    origins (snapshots ++ [s]) =
      origins snapshots ++ (List.range s.devices.length).map fun i => (snapshots.length, i) := by
  simp [origins, List.zipIdx_append]

/-- A merged snapshot has a device for each origin. -/
theorem MergeOf.length (h : MergeOf snapshots merged) :
    merged.devices.length = (origins snapshots).length := by
  have hlength := congrArg List.length h.devices
  rw [length_origins]
  simpa [List.length_flatMap] using hlength

/-- A process that has been merged runs on a device that has been merged. -/
theorem MergeOf.device_lt (h : MergeOf snapshots merged) {p : GpuProcessSnapshot}
    (hp : p ∈ merged.processes) : p.deviceIndex.toNat < (origins snapshots).length := by
  have hmem := List.mem_map_of_mem
    (f := fun p => (unbilled p, (origins snapshots)[p.deviceIndex.toNat]?)) hp
  rw [h.processes] at hmem
  obtain ⟨from_, -, hfrom⟩ := List.mem_flatMap.1 hmem
  obtain ⟨p', -, hp'⟩ := List.mem_map.1 hfrom
  have hsome : (origins snapshots)[p.deviceIndex.toNat]? = some (from_.2, p'.deviceIndex.toNat) :=
    (congrArg Prod.snd hp').symm
  exact (List.getElem?_eq_some_iff.1 hsome).1

/-- A device's number is that of a row. -/
theorem Numbered.index_lt (h : Numbered s) {d : GpuDeviceSnapshot} (hd : d ∈ s.devices) :
    d.index.toNat < s.devices.length := by
  have hmem := List.mem_map_of_mem (f := (·.index.toNat)) hd
  rw [h.1] at hmem
  exact List.mem_range.1 hmem

/-- Pushing adds one backend and loses none. -/
theorem mem_pushDistinct {kinds : List GpuBackend} {kind kind' : GpuBackend} :
    kind' ∈ pushDistinct kinds kind ↔ kind' ∈ kinds ∨ kind' = kind := by
  unfold pushDistinct
  split_ifs with h
  · constructor
    · exact Or.inl
    · rintro (hmem | rfl)
      · exact hmem
      · simpa using h
  · simp

/-- No backend is named twice. -/
theorem nodup_pushDistinct {kinds : List GpuBackend} (kind : GpuBackend) (h : kinds.Nodup) :
    (pushDistinct kinds kind).Nodup := by
  unfold pushDistinct
  split_ifs with hmem
  · exact h
  · refine List.nodup_append.2 ⟨h, List.nodup_singleton kind, ?_⟩
    intro a ha b hb
    obtain rfl := List.mem_singleton.1 hb
    rintro rfl
    exact hmem (by simpa using ha)

/-- Pushing a backend's kinds adds those that are not there. -/
theorem foldl_pushDistinct (pushed : List GpuBackend) {kinds : List GpuBackend} (h : kinds.Nodup) :
    (pushed.foldl pushDistinct kinds).Nodup ∧
      ∀ kind, kind ∈ pushed.foldl pushDistinct kinds ↔ kind ∈ kinds ∨ kind ∈ pushed := by
  induction pushed generalizing kinds with
  | nil => simp [h]
  | cons first rest ih =>
    obtain ⟨hnodup, hmem⟩ := ih (nodup_pushDistinct first h)
    refine ⟨hnodup, fun kind => ?_⟩
    rw [List.foldl_cons, hmem, mem_pushDistinct, List.mem_cons]
    exact or_assoc

/-- The number of a device moves up by the devices before, where they fit into 32 bits. -/
theorem toNat_offset_add {offset count : ℕ} {index : UInt32} (hindex : index.toNat < count)
    (hfits : offset + count ≤ 2 ^ 32) : (UInt32.ofNat offset + index).toNat = offset + index.toNat := by
  rw [UInt32.toNat_add, UInt32.toNat_ofNat']
  omega

/-- A backend that is available adds its devices and processes to the merge. -/
theorem mergeOf_absorb (h : MergeOf snapshots m.merged) (hs : Numbered s) (havailable : s.available = true)
    (hfits : ((snapshots ++ [s]).flatMap (·.devices)).length ≤ 2 ^ 32) :
    MergeOf (snapshots ++ [s]) (absorb m (.ok s)).merged := by
  have hlength : m.merged.devices.length + s.devices.length ≤ 2 ^ 32 := by
    rw [h.length, length_origins]
    simpa using hfits
  simp only [absorb, havailable, Bool.not_true, Bool.false_eq_true, if_false]
  constructor
  case indices =>
    have hnew : (s.devices.map fun d =>
        (UInt32.ofNat m.merged.devices.length + d.index).toNat) =
          (List.range s.devices.length).map (m.merged.devices.length + ·) := by
      rw [← hs.1, List.map_map]
      exact List.map_congr_left fun d hd => toNat_offset_add (hs.index_lt hd) hlength
    rw [List.map_append, h.indices, List.map_map, List.length_append, List.length_map, List.range_add]
    exact congrArg _ hnew
  case devices =>
    rw [List.map_append, h.devices, List.map_map, List.flatMap_append, List.flatMap_singleton]
    rfl
  case processes =>
    rw [List.map_append, origins_append, List.zipIdx_append, List.flatMap_append, ← h.processes]
    congr 1
    · -- a process merged before keeps its device
      refine List.map_congr_left fun p hp => ?_
      rw [List.getElem?_append_left (h.device_lt hp)]
    · rw [List.map_map, List.zipIdx_singleton, List.flatMap_singleton]
      refine List.map_congr_left fun p hp => ?_
      have hdevice := hs.2 p hp
      have hmoved : (p.deviceIndex + UInt32.ofNat m.merged.devices.length).toNat =
          (origins snapshots).length + p.deviceIndex.toNat := by
        rw [UInt32.add_comm, toNat_offset_add hdevice hlength, h.length]
      show (_, _) = (_, _)
      rw [hmoved, List.getElem?_append_right (Nat.le_add_right _ _), Nat.add_sub_cancel_left,
        List.getElem?_map, List.getElem?_range hdevice]
      simp [unbilled]
  case nodup => exact (foldl_pushDistinct s.backends h.nodup).1
  case backends =>
    intro kind
    rw [(foldl_pushDistinct s.backends h.nodup).2, h.backends]
    simp [or_and_right, exists_or]

/-- A backend that contributes nothing leaves the merge alone and may give a reason. -/
theorem absorb_of_contribution_none {answer : Answer} (h : contribution answer = none) :
    absorb m answer = { m with failures := m.failures ++ (failure answer).toList } := by
  cases answer with
  | error err => rfl
  | ok snapshot =>
    have havailable : snapshot.available = false := by simpa [contribution] using h
    cases hempty : snapshot.detail.isEmpty <;> simp [absorb, failure, havailable, hempty]

/-- Only a backend that answered, and has devices, contributes. -/
theorem contribution_eq_some {answer : Answer} (h : contribution answer = some s) :
    answer = .ok s ∧ s.available = true := by
  cases answer with
  | error err => cases h
  | ok snapshot =>
    obtain ⟨havailable, rfl⟩ : snapshot.available = true ∧ snapshot = s := by simpa [contribution] using h
    exact ⟨rfl, havailable⟩

/-- Such a backend has not failed. -/
theorem failure_of_contribution {answer : Answer} (h : contribution answer = some s) :
    failure answer = none := by
  obtain ⟨rfl, havailable⟩ := contribution_eq_some h
  simp [failure, havailable]

/-- Nor does it add to the failures. -/
theorem absorb_failures {answer : Answer} (h : contribution answer = some s) :
    (absorb m answer).failures = m.failures := by
  obtain ⟨rfl, havailable⟩ := contribution_eq_some h
  simp [absorb, havailable]

/-! ## The loop -/

/-- The loop merges the backends that contribute. -/
theorem mergeOf_foldl (answers : List Answer) (h : MergeOf snapshots m.merged)
    (hnumbered : ∀ s ∈ contributors answers, Numbered s)
    (hfits : ((snapshots ++ contributors answers).flatMap (·.devices)).length ≤ 2 ^ 32) :
    MergeOf (snapshots ++ contributors answers) (answers.foldl absorb m).merged := by
  -- the induction is on the answers, over what has been merged before
  induction answers generalizing snapshots m with
  | nil => simpa [contributors] using h
  | cons answer rest ih =>
    cases hanswer : contribution answer with
    | none =>
      have hcontributors : contributors (answer :: rest) = contributors rest :=
        List.filterMap_cons_none hanswer
      rw [hcontributors] at hnumbered hfits ⊢
      rw [List.foldl_cons, absorb_of_contribution_none hanswer]
      exact ih h hnumbered hfits
    | some s =>
      have hcontributors : contributors (answer :: rest) = s :: contributors rest :=
        List.filterMap_cons_some hanswer
      rw [hcontributors, List.append_cons] at hfits ⊢
      rw [hcontributors] at hnumbered
      obtain ⟨rfl, havailable⟩ := contribution_eq_some hanswer
      -- the numbers suffice for what is merged next, as they do for all of it
      have hstep : ((snapshots ++ [s]).flatMap (·.devices)).length ≤ 2 ^ 32 := by
        rw [List.flatMap_append, List.length_append] at hfits
        omega
      exact ih (mergeOf_absorb h (hnumbered s List.mem_cons_self) havailable hstep)
        (fun s' hs' => hnumbered s' (List.mem_cons_of_mem s hs')) hfits

/-- The loop collects the reasons of the others. -/
theorem foldl_failures (answers : List Answer) (m : Merge) :
    (answers.foldl absorb m).failures = m.failures ++ answers.filterMap failure := by
  induction answers generalizing m with
  | nil => simp
  | cons answer rest ih =>
    rw [List.foldl_cons, ih]
    cases hanswer : contribution answer with
    | none =>
      rw [absorb_of_contribution_none hanswer, List.append_assoc]
      cases hfailure : failure answer <;> simp [hfailure]
    | some s => rw [absorb_failures hanswer, List.filterMap_cons_none (failure_of_contribution hanswer)]

/-- The merge does not depend on the reasons. -/
theorem absorb_merged {m' : Merge} (h : m.merged = m'.merged) (answer : Answer) :
    (absorb m answer).merged = (absorb m' answer).merged := by
  cases answer with
  | error err => exact h
  | ok snapshot =>
    dsimp only [absorb]
    split_ifs <;> simp [h]

/-- The merge does not depend on the backends that contribute nothing. -/
theorem foldl_filter_merged (answers : List Answer) {m m' : Merge} (h : m.merged = m'.merged) :
    (answers.foldl absorb m).merged =
      ((answers.filter fun answer => (contribution answer).isSome).foldl absorb m').merged := by
  induction answers generalizing m m' with
  | nil => exact h
  | cons answer rest ih =>
    cases hanswer : contribution answer with
    | none =>
      rw [List.filter_cons_of_neg (by simp [hanswer]), List.foldl_cons,
        absorb_of_contribution_none hanswer]
      exact ih h
    | some s =>
      rw [List.filter_cons_of_pos (by simp [hanswer]), List.foldl_cons, List.foldl_cons]
      exact ih (absorb_merged h answer)

/-! ## The snapshot -/

/-- Nothing merged is nothing available. -/
theorem mergeOf_unavailable : MergeOf [] GpusSnapshot.unavailable where
  indices := rfl
  devices := rfl
  processes := rfl
  nodup := List.nodup_nil
  backends := by simp [GpusSnapshot.unavailable]

/-- The end of the snapshot changes whether there is one and what it says, and nothing else. -/
theorem snapshot_lists (answers : List Answer) :
    (snapshot answers).devices = (answers.foldl absorb ⟨.unavailable, []⟩).merged.devices ∧
      (snapshot answers).processes = (answers.foldl absorb ⟨.unavailable, []⟩).merged.processes ∧
      (snapshot answers).backends = (answers.foldl absorb ⟨.unavailable, []⟩).merged.backends := by
  dsimp only [snapshot]
  split_ifs <;> exact ⟨rfl, rfl, rfl⟩

/-- The merged snapshot is available when it has a device. -/
theorem available_iff (answers : List Answer) :
    (snapshot answers).available = true ↔ (snapshot answers).devices ≠ [] := by
  rw [(snapshot_lists answers).1]
  dsimp only [snapshot]
  split_ifs with h <;> simpa using h

/-- Where there is no device, every reason is in the detail. -/
theorem contains_detail (hnone : (snapshot answers).devices = []) {reason : String}
    (hreason : reason ∈ answers.filterMap failure) :
    Text.contains (snapshot answers).detail reason = true := by
  have hfailures : (answers.foldl absorb ⟨.unavailable, []⟩).failures = answers.filterMap failure := by
    rw [foldl_failures, List.nil_append]
  rw [(snapshot_lists answers).1] at hnone
  have hsome : (answers.filterMap failure).isEmpty = false := by
    simpa using List.ne_nil_of_mem hreason
  simp only [snapshot, hnone, hfailures, hsome, List.isEmpty_nil, Bool.not_true, Bool.false_eq_true,
    if_false]
  exact Text.contains_intercalate "; " hreason

/-- **The composite.** Where each available backend numbers its devices in order, the snapshot is the
merge of them, as long as 32 bits number all devices. -/
theorem composed_of_numbered (answers : List Answer)
    (hnumbered : ∀ s ∈ contributors answers, Numbered s)
    (hfits : ((contributors answers).flatMap (·.devices)).length ≤ 2 ^ 32) : Composed answers := by
  obtain ⟨hdevices, hprocesses, hbackends⟩ := snapshot_lists answers
  obtain hmerge := @mergeOf_foldl [] ⟨.unavailable, []⟩ answers mergeOf_unavailable hnumbered hfits
  constructor
  case merge =>
    constructor
    case indices => rw [hdevices]; exact hmerge.indices
    case devices => rw [hdevices]; exact hmerge.devices
    case processes => rw [hprocesses]; exact hmerge.processes
    case nodup => rw [hbackends]; exact hmerge.nodup
    case backends => rw [hbackends]; exact hmerge.backends
  case available => exact available_iff answers
  case detail => exact fun hnone reason => contains_detail hnone
  case alone =>
    intro others
    obtain ⟨hdevices', hprocesses', hbackends'⟩ :=
      snapshot_lists (answers.filter fun answer => (contribution answer).isSome)
    rw [hdevices, hprocesses, hbackends, foldl_filter_merged answers rfl]
    exact ⟨hdevices'.symm, hprocesses'.symm, hbackends'.symm⟩

/-- Some devices in order, with one process on the first. -/
def fleet (count : ℕ) : GpusSnapshot :=
  { (default : GpusSnapshot) with
    available := true
    devices := (List.range count).map fun i => { (default : GpuDeviceSnapshot) with index := .ofNat i }
    processes := if count = 0 then [] else [default] }

/-- A made-up fleet is numbered. -/
theorem numbered_fleet {count : ℕ} (h : count ≤ 2 ^ 32) : Numbered (fleet count) := by
  constructor
  · have hnumbers : (fleet count).devices.map (·.index.toNat) = (List.range count).map id := by
      simp only [fleet, List.map_map]
      refine List.map_congr_left fun i hi => ?_
      have hlt := List.mem_range.1 hi
      exact (UInt32.toNat_ofNat').trans (Nat.mod_eq_of_lt (by omega))
    rw [hnumbers, List.map_id]
    simp [fleet]
  · intro p hp
    simp only [fleet] at hp ⊢
    split_ifs at hp with hcount
    · exact absurd hp List.not_mem_nil
    · obtain rfl := List.mem_singleton.1 hp
      rw [List.length_map, List.length_range]
      exact Nat.pos_of_ne_zero hcount

/-- Two cards of one vendor, a broken driver, and a card of another. -/
theorem composed_of_numbered_brokenDriver :
    Composed [.ok (fleet 2), .error (.driverUnavailable "AMD" "no card"), .ok (fleet 1)] :=
  composed_of_numbered _ (by decide) (by decide)

/-- The number of the device after some others. -/
theorem index_of_last (count : ℕ) :
    ((snapshot [.ok (fleet count), .ok (fleet 1)]).devices.map (·.index.toNat))[count]? =
      some (count % 2 ^ 32) := by
  rw [(snapshot_lists _).1]
  simp [absorb, fleet, GpusSnapshot.unavailable]

/-- The device after 2^32 others is numbered 0 again. -/
theorem not_composed_pastU32 :
    ¬ ∀ answers : List Answer, (∀ s ∈ contributors answers, Numbered s) → Composed answers := by
  intro h
  obtain ⟨count, hcount⟩ : ∃ count, count = 2 ^ 32 := ⟨_, rfl⟩
  have hcomposed : Composed [.ok (fleet count), .ok (fleet 1)] := by
    refine h _ fun s hs => ?_
    obtain rfl | rfl : s = fleet count ∨ s = fleet 1 := by
      simpa [contributors, contribution, fleet] using hs
    · exact numbered_fleet hcount.le
    · exact numbered_fleet (by omega)
  have hlast := index_of_last count
  rw [hcomposed.merge.indices] at hlast
  obtain ⟨hlt, heq⟩ := List.getElem?_eq_some_iff.1 hlast
  rw [List.getElem_range] at heq
  omega

end CompositeGpuEngine

end Muxtop.Core
