import Muxtop.Core.Process
import Muxtop.Foundation.StableSort
import Muxtop.Foundation.Text

/-!
# Filtering and sorting the process list

Reference: `muxtop-core/src/process.rs`.
-/

namespace Muxtop.Core

open StableSort
open Text (Lowercase)

/-- Fields by which a process list can be sorted. -/
inductive SortField
  | cpu | mem | pid | name | user
deriving DecidableEq, Repr, Inhabited

/-- Direction of a sort operation. -/
inductive SortOrder
  | asc | desc
deriving DecidableEq, Repr, Inhabited

/-- By CPU; shares that do not compare are taken for equal. -/
def processCpuCmp (a b : ProcessInfo) : Ordering := a.cpuPercent.cmp b.cpuPercent

section Pipeline

variable (lower : Lowercase) (unstable : UnstableSort ProcessInfo)

/-- Sort `procs` by `field` in the given `order`; name and user ignore case. -/
def sortProcesses (procs : List ProcessInfo) (field : SortField) (order : SortOrder) :
    List ProcessInfo :=
  let sorted := match field with
    | .name => sortByKey (fun p => lower.toLowercase p.name) procs
    | .user => sortByKey (fun p => lower.toLowercase p.user) procs
    | .cpu => unstable.sortBy processCpuCmp procs
    | .mem => unstable.sortBy (fun a b => compare a.memoryBytes b.memoryBytes) procs
    | .pid => unstable.sortBy (fun a b => compare a.pid b.pid) procs
  reverseIf (order = .desc) sorted

/-- Case-insensitive substring test with a fast path for ASCII; the needle is already lower case. -/
def containsIgnoreCase (haystack needleLower : String) : Bool :=
  if needleLower.isEmpty then true
  else if Text.isAscii needleLower && Text.isAscii haystack then
    -- no window where the haystack is the shorter one
    (Text.windows needleLower.toList.length haystack.toList).any fun w =>
      (w.zip needleLower.toList).all fun (a, b) => a.toLower == b.toLower
  else Text.contains (lower.toLowercase haystack) needleLower

/-- Every process whose name or command contains `pattern`, whatever the case. -/
def filterProcesses (procs : List ProcessInfo) (pattern : String) : List ProcessInfo :=
  if pattern.isEmpty then procs
  else
    let needle := lower.toLowercase pattern
    procs.filter fun p =>
      containsIgnoreCase lower p.name needle || containsIgnoreCase lower p.command needle

/-! ## What the pipeline keeps -/

theorem sortProcesses_perm (procs : List ProcessInfo) (field : SortField) (order : SortOrder) :
    (sortProcesses lower unstable procs field order).Perm procs := by
  refine (reverseIf_perm _ _).trans ?_
  cases field
  case name => exact sortByKey_perm _ _
  case user => exact sortByKey_perm _ _
  case cpu => exact unstable.perm _ _
  case mem => exact unstable.perm _ _
  case pid => exact unstable.perm _ _

/-- Whether a row's text contains a filter, ignoring case. -/
def MatchesText (text pattern : String) : Prop :=
  (lower.toLowercase pattern).toList <:+: (lower.toLowercase text).toList

instance (text pattern : String) : Decidable (MatchesText lower text pattern) :=
  inferInstanceAs (Decidable (_ <:+: _))

variable {lower unstable}

/-- The empty filter matches every text. -/
theorem matchesText_empty (text : String) : MatchesText lower text "" := by
  simp [MatchesText]

theorem mem_windows {size : ℕ} {l w : List Char} (h : size ≤ l.length) :
    w ∈ Text.windows size l ↔ w.length = size ∧ w <:+: l := by
  constructor
  · intro hw
    obtain ⟨i, hi, rfl⟩ := List.mem_map.1 hw
    have hlen : i < l.length + 1 - size := List.mem_range.1 hi
    refine ⟨by simp only [List.length_take, List.length_drop]; omega, ?_⟩
    exact (List.take_prefix _ _).isInfix.trans (List.drop_suffix _ _).isInfix
  · rintro ⟨rfl, before, after, rfl⟩
    refine List.mem_map.2 ⟨before.length, List.mem_range.2 ?_, by simp⟩
    simp only [List.length_append]
    omega

/-- Two runs of characters agree up to case exactly when they lower to the same. -/
theorem all_zip_toLower :
    (w needle : List Char) → w.length = needle.length →
      (((w.zip needle).all fun (a, b) => a.toLower == b.toLower) = true ↔
        w.map Char.toLower = needle.map Char.toLower)
  | [], [], _ => by simp
  | a :: w, b :: needle, h => by
    have ih := all_zip_toLower w needle (Nat.succ.inj h)
    simp_all

/-- The ASCII path and the general path agree: with a lowered needle, both search the lowered text. -/
theorem containsIgnoreCase_iff (text pattern : String) :
    containsIgnoreCase lower text (lower.toLowercase pattern) = true ↔
      MatchesText lower text pattern := by
  unfold containsIgnoreCase MatchesText
  have hneedle : (lower.toLowercase pattern).toList.map Char.toLower =
      (lower.toLowercase pattern).toList :=
    List.map_congr_left (lower.lowered pattern) |>.trans (List.map_id _)
  generalize lower.toLowercase pattern = needle at hneedle
  split_ifs with hempty hascii
  · have : needle.toList = [] := by simpa using hempty
    simp [this]
  · have hlowered : (lower.toLowercase text).toList = text.toList.map Char.toLower := by
      rw [lower.ascii text (Bool.and_eq_true _ _ ▸ hascii).2]
      simp [Text.asciiLowercase]
    rw [hlowered, List.infix_map_iff, List.any_eq_true]
    constructor
    · rintro ⟨w, hw, hall⟩
      have hsize : needle.toList.length ≤ text.toList.length := by
        obtain ⟨i, hi, -⟩ := List.mem_map.1 hw
        have := List.mem_range.1 hi
        have hpos : needle.toList ≠ [] := by simpa using hempty
        have := List.length_pos_iff.2 hpos
        omega
      obtain ⟨hlen, hin⟩ := (mem_windows hsize).1 hw
      exact ⟨w, hin, hneedle ▸ ((all_zip_toLower w _ hlen).1 hall).symm⟩
    · rintro ⟨w, hin, hw⟩
      have hlen : w.length = needle.toList.length := by simp [hw]
      refine ⟨w, (mem_windows (hlen ▸ hin.length_le)).2 ⟨hlen, hin⟩, ?_⟩
      exact (all_zip_toLower w _ hlen).2 (by rw [hneedle, hw])
  · simp [Text.contains]

/-- Whether a process matches a filter. -/
def ProcessMatches (lower : Lowercase) (pattern : String) (p : ProcessInfo) : Prop :=
  MatchesText lower p.name pattern ∨ MatchesText lower p.command pattern

instance (pattern : String) (p : ProcessInfo) : Decidable (ProcessMatches lower pattern p) :=
  inferInstanceAs (Decidable (_ ∨ _))

/-- The filtered list is the processes that match, in their order. -/
theorem filterProcesses_eq (procs : List ProcessInfo) (pattern : String) :
    filterProcesses lower procs pattern =
      procs.filter fun p => decide (ProcessMatches lower pattern p) := by
  unfold filterProcesses
  split_ifs with hempty
  · obtain rfl : pattern = "" := by simpa using hempty
    refine (List.filter_eq_self.2 fun p _ => ?_).symm
    exact decide_eq_true (.inl (matchesText_empty p.name))
  · refine List.filter_congr fun p _ => ?_
    rw [Bool.eq_iff_iff, Bool.or_eq_true, containsIgnoreCase_iff, containsIgnoreCase_iff]
    exact decide_eq_true_iff.symm

/-- The search with its fast path finds what a search of the lowered text finds. -/
theorem containsIgnoreCase_eq (text pattern : String) :
    containsIgnoreCase lower text (lower.toLowercase pattern) =
      Text.contains (lower.toLowercase text) (lower.toLowercase pattern) := by
  rw [Bool.eq_iff_iff, containsIgnoreCase_iff, Text.contains, decide_eq_true_iff]
  rfl

/-- **Search.** The fast path agrees with a search of the lowered text, for texts and filters of any
letters; and the filter leaves, in their order, the processes whose lowered name or command contains the
lowered filter. -/
theorem search_eq_contains (lower : Lowercase) :
    (∀ text pattern : String, containsIgnoreCase lower text (lower.toLowercase pattern) =
        Text.contains (lower.toLowercase text) (lower.toLowercase pattern)) ∧
      ∀ (procs : List ProcessInfo) (pattern : String), filterProcesses lower procs pattern =
        procs.filter fun p =>
          Text.contains (lower.toLowercase p.name) (lower.toLowercase pattern) ||
            Text.contains (lower.toLowercase p.command) (lower.toLowercase pattern) := by
  refine ⟨containsIgnoreCase_eq, fun procs pattern => ?_⟩
  rw [filterProcesses_eq]
  refine List.filter_congr fun p _ => ?_
  rw [Bool.eq_iff_iff, decide_eq_true_iff, Bool.or_eq_true, Text.contains, Text.contains,
    decide_eq_true_iff, decide_eq_true_iff]
  rfl

/-- Two filters leave the same processes exactly when they match the same ones of the list. -/
theorem filterProcesses_eq_iff {procs : List ProcessInfo} {pattern pattern' : String} :
    filterProcesses lower procs pattern = filterProcesses lower procs pattern' ↔
      ∀ p ∈ procs, (ProcessMatches lower pattern p ↔ ProcessMatches lower pattern' p) := by
  rw [filterProcesses_eq, filterProcesses_eq]
  constructor
  · intro h p hp
    have := congrArg (p ∈ ·) h
    simpa [hp] using this
  · intro h
    exact List.filter_congr fun p hp => by simp [h p hp]

end Pipeline

end Muxtop.Core
