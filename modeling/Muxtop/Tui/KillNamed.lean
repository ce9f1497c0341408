import Muxtop.Tui.Caches
import Muxtop.Tui.SortArrow

/-!
# The target of `kill <name>`

Reference: `kill_named` in `muxtop-tui/src/app.rs`, `sort_processes` in `muxtop-core/src/process.rs`.

The command takes the first match of the process list, which stands in the order that was last asked for.
So what it targets is decided by the sort keys and not by the shares. Where keys are equal the sorts by
CPU, memory and PID leave it open which match comes first; the two by text go by the snapshot.
-/

namespace Muxtop.Tui

open Muxtop.Core StableSort

/-- Whether a process matches the needle, in its name or its command. -/
def killMatches (lib : Lib) (needle : String) (p : ProcessInfo) : Bool :=
  let needleLower := lib.lower.toLowercase needle
  Text.contains (lib.lower.toLowercase p.name) needleLower ||
    Text.contains (lib.lower.toLowercase p.command) needleLower

/-- A match of a list that no other match is busier than. -/
def Busiest (lib : Lib) (needle : String) (visible : List ProcessInfo) (p : ProcessInfo) : Prop :=
  p ∈ visible ∧ killMatches lib needle p = true ∧
    ∀ q ∈ visible, killMatches lib needle q = true → p.cpuPercent.cmp q.cpuPercent ≠ .lt

namespace AppState

variable {lib : Lib} {w : World} {s : AppState} {needle : String}

/-- `kill` puts the termination of a busiest match up for confirmation, if anything matches, and leaves
the dialog alone if nothing does. -/
structure TargetsBusiest (lib : Lib) (w : World) (s : AppState) (needle : String) : Prop where
  target : (∃ p ∈ s.visibleProcesses, killMatches lib needle p = true) →
    ∃ p, Busiest lib needle s.visibleProcesses p ∧
      (s.killNamed lib w needle).confirm = some (.kill p.pid p.name .term)
  nothing : (∀ p ∈ s.visibleProcesses, killMatches lib needle p = false) →
    (s.killNamed lib w needle).confirm = s.confirm

/-- The match that stands above all others has the PID and the name of a busiest one. -/
def TopmostBusiest (lib : Lib) (s : AppState) (needle : String) : Prop :=
  ∀ above top below, s.visibleProcesses = above ++ top :: below →
    (∀ p ∈ above, killMatches lib needle p = false) → killMatches lib needle top = true →
    ∃ p, Busiest lib needle s.visibleProcesses p ∧ p.pid = top.pid ∧ p.name = top.name

theorem killNamed_of_none (h : ∀ p ∈ s.visibleProcesses, killMatches lib needle p = false) :
    (s.killNamed lib w needle).confirm = s.confirm := by
  have hfound : s.visibleProcesses.filter (killMatches lib needle) = [] :=
    List.filter_eq_nil_iff.2 fun p hp => by rw [h p hp]; decide
  unfold killNamed
  unfold killMatches at hfound
  dsimp only at hfound ⊢
  rw [hfound]
  rfl

theorem killNamed_of_first {above below : List ProcessInfo} {top : ProcessInfo}
    (hvisible : s.visibleProcesses = above ++ top :: below)
    (habove : ∀ p ∈ above, killMatches lib needle p = false) (htop : killMatches lib needle top = true) :
    (s.killNamed lib w needle).confirm = some (.kill top.pid top.name .term) := by
  have hfound : s.visibleProcesses.filter (killMatches lib needle) =
      top :: below.filter (killMatches lib needle) := by
    rw [hvisible, List.filter_append, List.filter_cons_of_pos htop,
      List.filter_eq_nil_iff.2 fun p hp => by rw [habove p hp]; decide]
    rfl
  unfold killNamed
  unfold killMatches at hfound
  dsimp only at hfound ⊢
  rw [hfound]

/-- A list with a match has a first one. -/
theorem exists_first {visible : List ProcessInfo}
    (h : ∃ p ∈ visible, killMatches lib needle p = true) :
    ∃ above top below, visible = above ++ top :: below ∧
      (∀ p ∈ above, killMatches lib needle p = false) ∧ killMatches lib needle top = true := by
  induction visible with
  | nil =>
    obtain ⟨p, hp, -⟩ := h
    cases hp
  | cons first rest ih =>
    cases hfirst : killMatches lib needle first with
    | true => exact ⟨[], first, rest, rfl, by simp, hfirst⟩
    | false =>
      obtain ⟨p, hp, hmatch⟩ := h
      obtain rfl | hrest := List.mem_cons.1 hp
      · rw [hfirst] at hmatch
        cases hmatch
      · obtain ⟨above, top, below, rfl, habove, htop⟩ := ih ⟨p, hrest, hmatch⟩
        exact ⟨first :: above, top, below, rfl, List.forall_mem_cons.2 ⟨hfirst, habove⟩, htop⟩

/-- The command targets a busiest match exactly when the topmost match is one. -/
theorem targetsBusiest_iff_topmost : TargetsBusiest lib w s needle ↔ TopmostBusiest lib s needle := by
  constructor
  · rintro ⟨htarget, -⟩ above top below hvisible habove htop
    obtain ⟨p, hp, hconfirm⟩ := htarget ⟨top, by simp [hvisible], htop⟩
    rw [killNamed_of_first hvisible habove htop] at hconfirm
    injection hconfirm with hkill
    injection hkill with hpid hname
    exact ⟨p, hp, hpid.symm, hname.symm⟩
  · intro h
    refine ⟨fun hmatch => ?_, killNamed_of_none⟩
    obtain ⟨above, top, below, hvisible, habove, htop⟩ := exists_first hmatch
    obtain ⟨p, hp, hpid, hname⟩ := h above top below hvisible habove htop
    exact ⟨p, hp, by rw [killNamed_of_first hvisible habove htop, hpid, hname]⟩

/-! ## What decides which match is topmost -/

/-- The processes that are listed, in the order of the snapshot. -/
def listedAs (lib : Lib) (s : AppState) : List ProcessInfo :=
  s.lastSnapshot.elim [] fun snapshot => filterProcesses lib.lower snapshot.processes s.shownFilter

/-- The list as another sort may leave it, which settles ties in its own way. -/
def sortedBy (lib : Lib) (s : AppState) (unstable : UnstableSort ProcessInfo) : AppState :=
  { s with visibleProcesses := sortProcesses lib.lower unstable (s.listedAs lib) s.sortField s.sortOrder }

/-- The sorts by text are stable. -/
def isStable : SortField → Bool
  | .name | .user => true
  | _ => false

/-- A process at some place of the snapshot may be listed above one at another: its sort key comes first;
or the keys are equal and the sort is not stable, or the places are in the order that the list is in. -/
def MayStandAbove (lower : Text.Lowercase) (field : SortField) (order : SortOrder) (x y : ProcessInfo × ℕ) :
    Prop :=
  turned (order = .desc) (processKey lower field) x.1 y.1 = .lt ∨
    turned (order = .desc) (processKey lower field) x.1 y.1 = .eq ∧
      (isStable field = true → Flipped (order = .desc) Earlier x y)

/-- A match that may be listed above all other matches. -/
def MayStandFirst (lib : Lib) (s : AppState) (needle : String) (x : ProcessInfo × ℕ) : Prop :=
  x ∈ (s.listedAs lib).zipIdx ∧ killMatches lib needle x.1 = true ∧
    ∀ y ∈ (s.listedAs lib).zipIdx, killMatches lib needle y.1 = true → y.2 ≠ x.2 →
      MayStandAbove lib.lower s.sortField s.sortOrder x y

/-- Every match that may be listed first has the PID and the name of a busiest one. -/
def FirstAreBusiest (lib : Lib) (s : AppState) (needle : String) : Prop :=
  ∀ x, MayStandFirst lib s needle x →
    ∃ p, Busiest lib needle (s.listedAs lib) p ∧ p.pid = x.1.pid ∧ p.name = x.1.name

section Sorted

variable {unstable : UnstableSort ProcessInfo} {above below : List ProcessInfo} {top : ProcessInfo}

theorem sortedBy_perm : (s.sortedBy lib unstable).visibleProcesses.Perm (s.listedAs lib) :=
  sortProcesses_perm _ _ _ _ _

/-- Which match is a busiest one does not depend on the order. -/
theorem busiest_sortedBy_iff {p : ProcessInfo} :
    Busiest lib needle (s.sortedBy lib unstable).visibleProcesses p ↔
      Busiest lib needle (s.listedAs lib) p := by
  unfold Busiest
  simp only [sortedBy_perm.mem_iff]

/-- A sort by text puts the processes in the order of their keys, and those of one key in the order of the
snapshot, or all of it the other way round. -/
theorem exists_sorted_places (hstable : isStable s.sortField = true) :
    ∃ places : List (ProcessInfo × ℕ), places.Perm (s.listedAs lib).zipIdx ∧
      (s.sortedBy lib unstable).visibleProcesses = places.map Prod.fst ∧
      places.Pairwise (MayStandAbove lib.lower s.sortField s.sortOrder) := by
  have hkey : ∃ key : ProcessInfo → String, processKey lib.lower s.sortField =
      (fun a b => compare (key a) (key b)) ∧
      (s.sortedBy lib unstable).visibleProcesses =
        reverseIf (s.sortOrder = .desc) (sortByKey key (s.listedAs lib)) := by
    unfold sortedBy
    cases hfield : s.sortField
    case name => exact ⟨fun p => lib.lower.toLowercase p.name, rfl, rfl⟩
    case user => exact ⟨fun p => lib.lower.toLowercase p.user, rfl, rfl⟩
    all_goals
      rw [hfield] at hstable
      cases hstable
  obtain ⟨key, hprocessKey, hvisible⟩ := hkey
  -- Sorted with its place, a row carries the tie-break that a stable sort leaves implicit.
  have htrans : Std.TransCmp fun a b : ProcessInfo × ℕ => compare (key a.1) (key b.1) :=
    transCmp_on compare fun a : ProcessInfo × ℕ => key a.1
  refine ⟨reverseIf (s.sortOrder = .desc)
    (sortBy (fun a b => compare (key a.1) (key b.1)) (s.listedAs lib).zipIdx), ?_, ?_, ?_⟩
  · exact (reverseIf_perm _ _).trans (sortBy_perm _ _)
  · rw [hvisible, map_reverseIf, map_sortBy (fun a b : ProcessInfo => compare (key a) (key b)) Prod.fst,
      List.zipIdx_map_fst]
    rfl
  · have hsorted : (sortBy (fun a b : ProcessInfo × ℕ => compare (key a.1) (key b.1))
        (s.listedAs lib).zipIdx).Pairwise
          (Before (fun a b => compare (key a.1) (key b.1)) fun a b => a.2 < b.2) :=
      pairwise_sortBy _ (pairwise_zipIdx (s.listedAs lib))
    have hordered := pairwise_reverseIf (decide (s.sortOrder = .desc)) hsorted
    refine hordered.imp fun {x y} hxy => ?_
    unfold MayStandAbove
    rw [hprocessKey]
    cases horder : s.sortOrder with
    | asc =>
      rw [horder] at hxy
      exact hxy.imp id fun h => ⟨h.1, fun _ => h.2⟩
    | desc =>
      rw [horder] at hxy
      exact hxy.imp id fun h => ⟨h.1, fun _ => h.2⟩

theorem isLE_of_mayStandAbove {lower : Text.Lowercase} {field : SortField} {order : SortOrder}
    {x y : ProcessInfo × ℕ} (h : MayStandAbove lower field order x y) :
    (turned (order = .desc) (processKey lower field) x.1 y.1).isLE = true := by
  obtain hlt | ⟨heq, -⟩ := h
  · rw [hlt]
    rfl
  · rw [heq]
    rfl

/-- A sort that is not stable may put either of two equal processes first. -/
theorem mayStandAbove_of_isLE {lower : Text.Lowercase} {field : SortField} {order : SortOrder}
    {x y : ProcessInfo × ℕ} (hstable : isStable field = false)
    (h : (turned (order = .desc) (processKey lower field) x.1 y.1).isLE = true) :
    MayStandAbove lower field order x y := by
  unfold MayStandAbove
  cases hcmp : turned (order = .desc) (processKey lower field) x.1 y.1 with
  | lt => exact .inl rfl
  | eq => exact .inr ⟨rfl, fun hstable' => absurd hstable' (by rw [hstable]; decide)⟩
  | gt =>
    rw [hcmp] at h
    cases h

/-- A stable sort leaves no choice. -/
theorem not_mayStandAbove {lower : Text.Lowercase} {field : SortField} {order : SortOrder}
    {listed : List ProcessInfo} {x y : ProcessInfo × ℕ} (hpre : TotalPreorderOn (processKey lower field) listed)
    (hstable : isStable field = true) (hx : x.1 ∈ listed) (hy : y.1 ∈ listed)
    (h : MayStandAbove lower field order x y) : ¬ MayStandAbove lower field order y x := by
  have hswap := (hpre.turned (order = .desc)).swap x.1 hx y.1 hy
  unfold MayStandAbove at h ⊢
  obtain h | ⟨h, hplaces⟩ := h <;> rw [h] at hswap <;> rintro (h' | ⟨h', hplaces'⟩) <;> rw [h'] at hswap
  case inl.inl | inl.inr | inr.inl => cases hswap
  case inr.inr =>
    exact not_flipped_of_flipped not_earlier_of_earlier _ _ (hplaces hstable) (hplaces' hstable)

/-- The topmost match is one that may stand first. -/
theorem mayStandFirst_of_topmost (hsorts : unstable.Sorts)
    (hfinite : ∀ p ∈ s.listedAs lib, ¬ p.cpuPercent.IsNaN)
    (hvisible : (s.sortedBy lib unstable).visibleProcesses = above ++ top :: below)
    (habove : ∀ p ∈ above, killMatches lib needle p = false) (htop : killMatches lib needle top = true) :
    ∃ x, MayStandFirst lib s needle x ∧ x.1 = top := by
  -- A stable sort is known place by place, an unstable one up to the keys only.
  cases hstable : isStable s.sortField with
  | true =>
    obtain ⟨places, hplaces, hlist, hordered⟩ := @exists_sorted_places lib s unstable hstable
    rw [hlist] at hvisible
    obtain ⟨first, rest, rfl, rfl, hrest⟩ := List.map_eq_append_iff.1 hvisible
    obtain ⟨x, last, rfl, rfl, rfl⟩ := List.map_eq_cons_iff.1 hrest
    refine ⟨x, ⟨hplaces.subset (by simp), htop, fun y hy hmatch hother => ?_⟩, rfl⟩
    obtain hy | hy := List.mem_append.1 (hplaces.symm.subset hy)
    · rw [habove y.1 (List.mem_map_of_mem hy)] at hmatch
      cases hmatch
    · obtain rfl | hy := List.mem_cons.1 hy
      · exact absurd rfl hother
      · exact (List.pairwise_cons.1 (List.pairwise_append.1 hordered).2.1).1 y hy
  | false =>
    have hpre : TotalPreorderOn (processKey lib.lower s.sortField) (s.listedAs lib) :=
      Views.totalPreorderOn_processKey hfinite s.sortField
    have hordered : Ordered (turned (s.sortOrder = .desc) (processKey lib.lower s.sortField))
        (s.sortedBy lib unstable).visibleProcesses :=
      @Views.ordered_sortProcesses { lib with unstable := unstable } hsorts _ hfinite _ _
    rw [hvisible] at hordered
    have hbelow := (List.pairwise_cons.1 (List.pairwise_append.1 hordered).2.1).1
    have hmem : top ∈ s.listedAs lib := by
      rw [← sortedBy_perm.mem_iff, hvisible]
      simp
    obtain ⟨x, hx, rfl⟩ := mem_iff_exists_place.1 hmem
    refine ⟨x, ⟨hx, htop, fun y hy hmatch _ => mayStandAbove_of_isLE hstable ?_⟩, rfl⟩
    have hlisted : y.1 ∈ (s.sortedBy lib unstable).visibleProcesses :=
      sortedBy_perm.mem_iff.2 (mem_iff_exists_place.2 ⟨y, hy, rfl⟩)
    rw [hvisible] at hlisted
    obtain hy | hy := List.mem_append.1 hlisted
    · rw [habove y.1 hy] at hmatch
      cases hmatch
    · obtain heq | hy := List.mem_cons.1 hy
      · rw [heq, (hpre.turned _).cmp_self hmem]
        rfl
      · exact hbelow y.1 hy

/-- A match that may stand first is the topmost one under some sort. -/
theorem exists_topmost (hfinite : ∀ p ∈ s.listedAs lib, ¬ p.cpuPercent.IsNaN) {x : ProcessInfo × ℕ}
    (hx : MayStandFirst lib s needle x) :
    ∃ unstable : UnstableSort ProcessInfo, unstable.Sorts ∧ ∃ above below,
      (s.sortedBy lib unstable).visibleProcesses = above ++ x.1 :: below ∧
        ∀ p ∈ above, killMatches lib needle p = false := by
  obtain ⟨hplace, hmatch, hfirst⟩ := hx
  have hpre : TotalPreorderOn (processKey lib.lower s.sortField) (s.listedAs lib) :=
    Views.totalPreorderOn_processKey hfinite s.sortField
  have hmem : x.1 ∈ s.listedAs lib := mem_iff_exists_place.2 ⟨x, hplace, rfl⟩
  cases hstable : isStable s.sortField with
  | true =>
    -- There is one such list, and its topmost match may stand first as well.
    refine ⟨.stable _, sorts_stable _, ?_⟩
    have hlisted : ∃ p ∈ (s.sortedBy lib (.stable _)).visibleProcesses, killMatches lib needle p = true :=
      ⟨x.1, sortedBy_perm.mem_iff.2 hmem, hmatch⟩
    obtain ⟨above, top, below, hvisible, habove, htop⟩ := exists_first hlisted
    obtain ⟨y, ⟨hy, hymatch, hyfirst⟩, rfl⟩ :=
      mayStandFirst_of_topmost (sorts_stable _) hfinite hvisible habove htop
    by_cases hsame : y.2 = x.2
    · rw [← fst_eq_of_place hy hplace hsame]
      exact ⟨above, below, hvisible, habove⟩
    · have hymem : y.1 ∈ s.listedAs lib := mem_iff_exists_place.2 ⟨y, hy, rfl⟩
      exact absurd (hyfirst x hplace hmatch (Ne.symm hsame))
        (not_mayStandAbove hpre hstable hmem hymem (hfirst y hy hymatch hsame))
  | false =>
    refine ⟨.favouring x.1 (s.sortOrder = .desc), sorts_favouring _ _, ?_⟩
    have hlist : (s.sortedBy lib (.favouring x.1 (s.sortOrder = .desc))).visibleProcesses =
        reverseIf (s.sortOrder = .desc) ((UnstableSort.favouring x.1 (s.sortOrder = .desc)).sortBy
          (processKey lib.lower s.sortField) (s.listedAs lib)) := by
      unfold sortedBy
      cases hfield : s.sortField
      case name | user =>
        rw [hfield] at hstable
        cases hstable
      all_goals rfl
    obtain ⟨above, below, hfavoured, habove⟩ :=
      @reverseIf_favouring _ (processKey lib.lower s.sortField) _ _ _ hmem (s.sortOrder = .desc)
    rw [← hlist] at hfavoured
    refine ⟨above, below, hfavoured, fun q hq => ?_⟩
    by_contra hqmatch
    have hqlisted : q ∈ s.listedAs lib := by
      rw [← sortedBy_perm.mem_iff, hfavoured]
      exact List.mem_append_left _ hq
    obtain ⟨y, hy, rfl⟩ := mem_iff_exists_place.1 hqlisted
    have hle : (turned (s.sortOrder = .desc) (processKey lib.lower s.sortField) x.1 y.1).isLE = true := by
      by_cases hsame : y.2 = x.2
      · rw [fst_eq_of_place hy hplace hsame, (hpre.turned _).cmp_self hmem]
        rfl
      · exact isLE_of_mayStandAbove (hfirst y hy (Bool.not_eq_false _ ▸ hqmatch) hsame)
    rw [habove y.1 hq] at hle
    cases hle

end Sorted

/-! ## Reachable states -/

/-- The process list is a sorted one, in the order in force. -/
theorem sortedBy_of_coherent (h : s.toViews.Coherent lib) : s.sortedBy lib lib.unstable = s := by
  have hvisible := congrArg Prod.fst h.processes
  have hsorted : sortProcesses lib.lower lib.unstable (s.listedAs lib) s.sortField s.sortOrder =
      s.visibleProcesses := by
    unfold Views.processView at hvisible
    unfold listedAs
    cases hsnap : s.lastSnapshot with
    | none =>
      rw [hsnap] at hvisible
      exact ((sortProcesses_perm _ _ [] _ _).eq_nil).trans hvisible.symm
    | some snap =>
      rw [hsnap] at hvisible
      exact hvisible.symm
  unfold sortedBy
  rw [hsorted]

/-- The processes are sorted by CPU, the busiest first. -/
def SortedByCpuDesc (s : AppState) : Prop := s.sortField = .cpu ∧ s.sortOrder = .desc

instance (s : AppState) : Decidable s.SortedByCpuDesc := inferInstanceAs (Decidable (_ ∧ _))

/-- The match that a list puts first is decided by the shares where they are the sort key. -/
theorem firstAreBusiest_of_sortedByCpuDesc (h : s.SortedByCpuDesc) : FirstAreBusiest lib s needle := by
  rintro x ⟨hplace, hmatch, hfirst⟩
  refine ⟨x.1, ⟨mem_iff_exists_place.2 ⟨x, hplace, rfl⟩, hmatch, fun q hq hqmatch hlt => ?_⟩, rfl, rfl⟩
  obtain ⟨y, hy, rfl⟩ := mem_iff_exists_place.1 hq
  by_cases hsame : y.2 = x.2
  · rw [fst_eq_of_place hy hplace hsame, F32.cmp_self] at hlt
    cases hlt
  · have hle := isLE_of_mayStandAbove (hfirst y hy hqmatch hsame)
    rw [h.1, h.2] at hle
    change (y.1.cpuPercent.cmp x.1.cpuPercent).isLE = true at hle
    rw [F32.cmp_swap, hlt] at hle
    cases hle

/-- Whatever the sort makes of ties, the command targets a busiest match exactly when every match that may
be listed first is one. -/
theorem forall_targetsBusiest_iff (hfinite : ∀ p ∈ s.listedAs lib, ¬ p.cpuPercent.IsNaN) :
    (∀ unstable : UnstableSort ProcessInfo, unstable.Sorts →
        TargetsBusiest lib w (s.sortedBy lib unstable) needle) ↔ FirstAreBusiest lib s needle := by
  constructor
  · intro h x hx
    obtain ⟨unstable, hsorts, above, below, hvisible, habove⟩ := exists_topmost hfinite hx
    obtain ⟨p, hp, hsame⟩ :=
      targetsBusiest_iff_topmost.1 (h unstable hsorts) above x.1 below hvisible habove hx.2.1
    exact ⟨p, busiest_sortedBy_iff.1 hp, hsame⟩
  · intro h unstable hsorts
    rw [targetsBusiest_iff_topmost]
    intro above top below hvisible habove htop
    obtain ⟨x, hx, rfl⟩ := mayStandFirst_of_topmost hsorts hfinite hvisible habove htop
    obtain ⟨p, hp, hsame⟩ := h x hx
    exact ⟨p, busiest_sortedBy_iff.2 hp, hsame⟩

/-- Two matches, of which the idler one stands above. -/
theorem not_targetsBusiest_of_pair (top next : ProcessInfo) (hvisible : s.visibleProcesses = [top, next])
    (htop : killMatches lib needle top = true) (hnext : killMatches lib needle next = true)
    (hidler : top.cpuPercent.cmp next.cpuPercent = .lt) (hpid : next.pid ≠ top.pid) :
    ¬ TargetsBusiest lib w s needle := by
  rw [targetsBusiest_iff_topmost]
  intro h
  obtain ⟨p, ⟨hp, -, hbusiest⟩, hsame, -⟩ := h [] top [next] hvisible nofun htop
  rw [hvisible] at hp hbusiest
  obtain rfl | hp := List.mem_cons.1 hp
  · exact hbusiest next (by simp) hnext hidler
  · obtain rfl := List.mem_singleton.1 hp
    exact hpid hsame

/-- A worker with some share of the CPU, and a letter and a number for everything else. -/
def worker (share : F32) (letter : String) (number : UInt32) : ProcessInfo :=
  { (default : ProcessInfo) with
    pid := number
    name := letter
    user := letter
    command := "job"
    cpuPercent := share
    memoryBytes := number.toUInt64 }

/-- The workers arrive in a monitor started under some sort. -/
def arrival (field : SortField) (workers : List ProcessInfo) : AppState :=
  Runs.run (step .ascii) (withConfig { sortField := field } false false)
    [.arrive 0 { (default : SystemSnapshot) with processes := workers }]

/-- **`kill <name>`.** In every state that can be reached, with shares that are numbers: the list is what
the sort left, and the command targets a busiest match, whatever a sort that is not stable makes of ties,
if and only if every match that the sort keys let stand first has the PID and the name of a busiest one. -/
theorem targetsBusiest_iff (config : CliConfig) (containerEngine clusterEngine : Bool)
    (inputs : List Input) (w : World) (needle : String) :
    let s := Runs.run (step lib) (withConfig config containerEngine clusterEngine) inputs
    (∀ p ∈ s.visibleProcesses, ¬ p.cpuPercent.IsNaN) →
      s.sortedBy lib lib.unstable = s ∧
        ((∀ unstable : UnstableSort ProcessInfo, unstable.Sorts →
            TargetsBusiest lib w (s.sortedBy lib unstable) needle) ↔ FirstAreBusiest lib s needle) := by
  intro s hfinite
  have hlist : s.sortedBy lib lib.unstable = s :=
    sortedBy_of_coherent (coherent_run config containerEngine clusterEngine inputs)
  refine ⟨hlist, forall_targetsBusiest_iff fun p hp => hfinite p ?_⟩
  rw [← hlist]
  exact sortedBy_perm.mem_iff.2 hp

/-- Two workers under the default sort. -/
theorem targetsBusiest_iff_byCpu :
    let s := arrival .cpu [worker ⟨0x3F800000⟩ "b" 2, worker ⟨0x40000000⟩ "a" 1]
    s.sortedBy .ascii Lib.ascii.unstable = s ∧
      ((∀ unstable : UnstableSort ProcessInfo, unstable.Sorts →
          TargetsBusiest .ascii (.obliging 1) (s.sortedBy .ascii unstable) "job") ↔
        FirstAreBusiest .ascii s "job") :=
  targetsBusiest_iff _ false false _ _ _ (by decide)

/-- Started with `--sort mem`, the monitor targets an idle worker that holds more memory than a busy one. -/
theorem not_targetsBusiest_byMem :
    ¬ ∀ (config : CliConfig) (inputs : List Input) (needle : String),
      let s := Runs.run (step .ascii) (withConfig config false false) inputs
      (∀ p ∈ s.visibleProcesses, ¬ p.cpuPercent.IsNaN) → TargetsBusiest .ascii (.obliging 1) s needle := by
  intro h
  have hvisible : (arrival .mem [worker ⟨0x40000000⟩ "a" 1, worker ⟨0x3F800000⟩ "b" 2]).visibleProcesses =
      [worker ⟨0x3F800000⟩ "b" 2, worker ⟨0x40000000⟩ "a" 1] := by decide
  have htargets := h { sortField := .mem } [.arrive 0 { (default : SystemSnapshot) with
    processes := [worker ⟨0x40000000⟩ "a" 1, worker ⟨0x3F800000⟩ "b" 2] }] "job" (by decide)
  exact not_targetsBusiest_of_pair _ _ hvisible (by decide) (by decide) (by decide) (by decide) htargets

/-- Every sort but the one by CPU, the busiest first, has two workers that it shows the wrong way round. -/
theorem exists_not_targetsBusiest {field : SortField} {order : SortOrder}
    (h : ¬ (field = .cpu ∧ order = .desc)) :
    ∃ workers, ¬ TargetsBusiest .ascii w
      { withConfig {} false false with
        visibleProcesses := sortProcesses .asciiOnly (.stable _) workers field order } "job" := by
  cases order with
  | asc =>
    refine ⟨[worker ⟨0x40000000⟩ "b" 2, worker ⟨0x3F800000⟩ "a" 1], ?_⟩
    refine not_targetsBusiest_of_pair (worker ⟨0x3F800000⟩ "a" 1) (worker ⟨0x40000000⟩ "b" 2) ?_
      (by decide) (by decide) (by decide) (by decide)
    cases field <;> decide
  | desc =>
    refine ⟨[worker ⟨0x40000000⟩ "a" 1, worker ⟨0x3F800000⟩ "b" 2], ?_⟩
    refine not_targetsBusiest_of_pair (worker ⟨0x3F800000⟩ "b" 2) (worker ⟨0x40000000⟩ "a" 1) ?_
      (by decide) (by decide) (by decide) (by decide)
    cases field with
    | cpu => exact absurd ⟨rfl, rfl⟩ h
    | _ => decide

end AppState

end Muxtop.Tui
