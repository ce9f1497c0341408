import Mathlib.Data.List.Sort

/-!
# Sorting by a comparison function

`slice::sort_by` and its relatives. The stable sort is the one result that a stable sort by a total
comparison can have; an unstable sort is only known to rearrange its input.

A stable sort puts an element as many places down as there are elements that come before it, those that
compare equal in the order they had. So an element stands at one place in two arrangements when as many
come before it in the one as in the other. The arrangements here are sorts, sorts turned round, and sorts
that park the elements without a key at the end.
-/

namespace StableSort

variable {α κ : Type*}

/-- `sort_by`: equal elements keep their order. -/
def sortBy (cmp : α → α → Ordering) (l : List α) : List α :=
  l.insertionSort fun a b => (cmp a b).isLE = true

/-- `sort_by_key` and `sort_by_cached_key`. -/
def sortByKey [Ord κ] (key : α → κ) (l : List α) : List α :=
  sortBy (fun a b => compare (key a) (key b)) l

/-- `sort_by_key` with `std::cmp::Reverse`. -/
def sortByKeyRev [Ord κ] (key : α → κ) (l : List α) : List α :=
  sortBy (fun a b => compare (key b) (key a)) l

/-- Reverse a list where a condition says so. -/
def reverseIf (flip : Bool) (l : List α) : List α := if flip then l.reverse else l

variable {cmp : α → α → Ordering} {l : List α}

/-- A sort rearranges. -/
theorem sortBy_perm (cmp : α → α → Ordering) (l : List α) : (sortBy cmp l).Perm l :=
  List.perm_insertionSort _ l

/-- So does a sort by a key. -/
theorem sortByKey_perm [Ord κ] (key : α → κ) (l : List α) : (sortByKey key l).Perm l :=
  sortBy_perm _ l

/-- So does a sort by a key, the greatest first. -/
theorem sortByKeyRev_perm [Ord κ] (key : α → κ) (l : List α) : (sortByKeyRev key l).Perm l :=
  sortBy_perm _ l

/-- So does turning round. -/
theorem reverseIf_perm (flip : Bool) (l : List α) : (reverseIf flip l).Perm l := by
  cases flip
  · exact .refl l
  · exact l.reverse_perm

/-- `sort_unstable_by`: which of two equal elements comes first is left open. -/
structure UnstableSort (α : Type*) where
  sortBy : (α → α → Ordering) → List α → List α
  perm : ∀ cmp l, (sortBy cmp l).Perm l

/-- The stable sort is one unstable sort. -/
def UnstableSort.stable (α : Type*) : UnstableSort α := ⟨StableSort.sortBy, sortBy_perm⟩

/-! ## Elements that do not tie -/

/-- Sorting by a key that elements have, before they are looked up or after. -/
theorem map_sortBy {β : Type*} (cmp : α → α → Ordering) (key : β → α) (l : List β) :
    (sortBy (fun a b => cmp (key a) (key b)) l).map key = sortBy cmp (l.map key) :=
  List.map_insertionSort _ _ key l fun _ _ _ _ => Iff.rfl

/-- A list may be turned round before or after its elements are looked up. -/
theorem map_reverseIf {β : Type*} (f : β → α) (flip : Bool) (l : List β) :
    (reverseIf flip l).map f = reverseIf flip (l.map f) := by
  cases flip
  · rfl
  · exact List.map_reverse

section Ties

variable {P : α → α → Prop}

/-- Inserting in order or in front makes no difference to such a relation. -/
theorem pairwise_orderedInsert_iff (hsymm : ∀ a b, cmp a b ≠ .eq → (P a b ↔ P b a)) (a : α) :
    (l : List α) →
      ((l.orderedInsert (fun a b => (cmp a b).isLE = true) a).Pairwise P ↔ (a :: l).Pairwise P)
  | [] => Iff.rfl
  | b :: l => by
    have ih := pairwise_orderedInsert_iff hsymm a l
    rw [List.orderedInsert_cons]
    split_ifs with hab
    · exact Iff.rfl
    · have hba : P a b ↔ P b a := hsymm a b fun heq => hab (by rw [heq]; rfl)
      have hinserted : (∀ x ∈ l.orderedInsert (fun a b => (cmp a b).isLE = true) a, P b x) ↔
          P b a ∧ ∀ x ∈ l, P b x := by
        simp only [List.mem_orderedInsert, forall_eq_or_imp]
      simp only [List.pairwise_cons, List.forall_mem_cons] at ih ⊢
      rw [hinserted, ih, hba]
      tauto

/-- A relation that does not tell the order of elements that do not tie holds along a list or not,
sorted or unsorted. -/
theorem pairwise_sortBy_iff (hsymm : ∀ a b, cmp a b ≠ .eq → (P a b ↔ P b a)) :
    (l : List α) → ((sortBy cmp l).Pairwise P ↔ l.Pairwise P)
  | [] => Iff.rfl
  | a :: l => by
    have hperm := sortBy_perm cmp l
    have hinsert := pairwise_orderedInsert_iff hsymm a (sortBy cmp l)
    refine hinsert.trans ?_
    rw [List.pairwise_cons, List.pairwise_cons, pairwise_sortBy_iff hsymm l]
    simp only [hperm.mem_iff]

end Ties

/-! ## Ranks -/

section Rank

variable {R : α → α → Prop} {lt : α → α → Prop} {x : α} {k : ℕ}

/-- The order a stable sort puts elements in, where `lt` is the order they had. -/
def Before (cmp : α → α → Ordering) (lt : α → α → Prop) (a b : α) : Prop :=
  cmp a b = .lt ∨ cmp a b = .eq ∧ lt a b

instance [DecidableRel lt] : DecidableRel (Before cmp lt) := fun _ _ =>
  inferInstanceAs (Decidable (_ ∨ _))

/-- Comparing by a key. -/
theorem transCmp_on (cmp : κ → κ → Ordering) [Std.TransCmp cmp] (key : α → κ) :
    Std.TransCmp fun a b => cmp (key a) (key b) where
  eq_swap := Std.OrientedCmp.eq_swap
  isLE_trans := Std.TransCmp.isLE_trans

/-- Comparing by a key, the greatest first. -/
theorem transCmp_keyRev [Ord κ] [Std.TransOrd κ] (key : α → κ) :
    Std.TransCmp fun a b => compare (key b) (key a) :=
  transCmp_on (fun a b => compare b a) key

/-- Of elements that stand right, the one that was earlier comes before the other. -/
theorem before_of_isLE {a b : α} (hcmp : (cmp a b).isLE) (hlt : lt a b) : Before cmp lt a b := by
  unfold Before
  cases h : cmp a b
  case lt => exact .inl rfl
  case eq => exact .inr ⟨rfl, hlt⟩
  case gt => simp [h] at hcmp

/-- What comes before another element does not compare greater. -/
theorem isLE_of_before {a b : α} (h : Before cmp lt a b) : (cmp a b).isLE := by
  obtain h | ⟨h, -⟩ := h <;> simp [h]

/-- No two elements come before each other. -/
theorem not_before_of_before [Std.OrientedCmp cmp] (hasymm : ∀ a b, lt a b → ¬ lt b a) {a b : α}
    (h : Before cmp lt a b) : ¬ Before cmp lt b a := by
  have hswap := @Std.OrientedCmp.eq_swap _ cmp _ a b
  obtain h | ⟨h, hlt⟩ := h
  · rintro (h' | ⟨h', -⟩) <;> simp [h, h'] at hswap
  · rintro (h' | ⟨-, hlt'⟩)
    · simp [h, h'] at hswap
    · exact hasymm a b hlt hlt'

/-- Inserting an element that came before all of a list. -/
theorem pairwise_orderedInsert [Std.TransCmp cmp] {a : α} :
    (l : List α) → (∀ b ∈ l, lt a b) → l.Pairwise (Before cmp lt) →
      (l.orderedInsert (fun a b => (cmp a b).isLE = true) a).Pairwise (Before cmp lt)
  | [], _, _ => List.pairwise_singleton _ _
  | b :: l, hfirst, h => by
    obtain ⟨hb, hl⟩ := List.pairwise_cons.1 h
    rw [List.orderedInsert_cons]
    split_ifs with hab
    · refine List.pairwise_cons.2 ⟨fun c hc => ?_, h⟩
      obtain rfl | hc' := List.mem_cons.1 hc
      · exact before_of_isLE hab (hfirst c hc)
      · exact before_of_isLE (Std.TransCmp.isLE_trans hab (isLE_of_before (hb c hc'))) (hfirst c hc)
    · have hlater := pairwise_orderedInsert l (fun c hc => hfirst c (List.mem_cons_of_mem b hc)) hl
      refine List.pairwise_cons.2 ⟨fun c hc => ?_, hlater⟩
      obtain rfl | hc' := (List.mem_orderedInsert _).1 hc
      · exact .inl (Std.OrientedCmp.lt_of_not_isLE hab)
      · exact hb c hc'

/-- A stable sort puts its elements in order, and those that compare equal in the order they had. -/
theorem pairwise_sortBy [Std.TransCmp cmp] :
    (l : List α) → l.Pairwise lt → (sortBy cmp l).Pairwise (Before cmp lt)
  | [], _ => List.Pairwise.nil
  | a :: l, h => by
    obtain ⟨hfirst, hl⟩ := List.pairwise_cons.1 h
    have hsorted := pairwise_sortBy l hl
    refine pairwise_orderedInsert _ (fun b hb => ?_) hsorted
    exact hfirst b ((sortBy_perm cmp l).mem_iff.1 hb)

/-- In a list put in order, an element stands as far down as elements come before it. -/
theorem countP_of_getElem? [DecidableRel R] (hasymm : ∀ a b, R a b → ¬ R b a) :
    (l : List α) → (k : ℕ) → l.Pairwise R → l[k]? = some x → (l.countP fun a => R a x) = k
  | [], _, _, hx => by simp at hx
  | a :: l, 0, h, hx => by
    obtain rfl : a = x := by simpa using hx
    obtain ⟨ha, -⟩ := List.pairwise_cons.1 h
    refine List.countP_eq_zero.2 fun b hb => ?_
    have hnot : ¬ R b a := by
      obtain rfl | hb' := List.mem_cons.1 hb
      · exact fun hbb => hasymm b b hbb hbb
      · exact hasymm a b (ha b hb')
    simpa using hnot
  | a :: l, k + 1, h, hx => by
    obtain ⟨ha, hl⟩ := List.pairwise_cons.1 h
    have hx' : l[k]? = some x := by simpa using hx
    have hrest := countP_of_getElem? hasymm l k hl hx'
    rw [List.countP_cons_of_pos (by simpa using ha x (List.mem_of_getElem? hx')), hrest]

/-- Where a rearrangement that is in order has an element. -/
theorem getElem?_iff_countP [DecidableRel R] (hasymm : ∀ a b, R a b → ¬ R b a) {sorted : List α}
    (hperm : sorted.Perm l) (hsorted : sorted.Pairwise R) (hx : x ∈ l) :
    sorted[k]? = some x ↔ (l.countP fun a => R a x) = k := by
  rw [← hperm.countP_eq]
  constructor
  · exact countP_of_getElem? hasymm sorted k hsorted
  · rintro rfl
    obtain ⟨j, hj⟩ := List.getElem?_of_mem (hperm.mem_iff.2 hx)
    rw [countP_of_getElem? hasymm sorted j hsorted hj]
    exact hj

/-- Two arrangements have an element in common at one place when as many elements come before it in the
one as in the other, and that many. -/
theorem exists_common_iff {S : α → α → Prop} [DecidableRel R] [DecidableRel S] {shown table found : List α}
    (hR : ∀ a b, R a b → ¬ R b a) (hS : ∀ a b, S a b → ¬ S b a) (hperm : table.Perm shown)
    (htable : table.Pairwise R) (hfound : found.Pairwise S) (hsub : found ⊆ shown) :
    (∃ x, table[k]? = some x ∧ found[k]? = some x) ↔
      ∃ x ∈ found, (found.countP fun a => S a x) = k ∧ (shown.countP fun a => R a x) = k := by
  constructor
  · rintro ⟨x, hx, hx'⟩
    have hmem := List.mem_of_getElem? hx'
    refine ⟨x, hmem, ?_, ?_⟩
    · exact (getElem?_iff_countP hS (.refl found) hfound hmem).1 hx'
    · exact (getElem?_iff_countP hR hperm htable (hsub hmem)).1 hx
  · rintro ⟨x, hmem, hbelow, habove⟩
    refine ⟨x, ?_, ?_⟩
    · exact (getElem?_iff_countP hR hperm htable (hsub hmem)).2 habove
    · exact (getElem?_iff_countP hS (.refl found) hfound hmem).2 hbelow

/-- Two places hold one element, and the identifier found there is that element's, as soon as they hold
one element. -/
theorem exists_same_iff {row found : Option α} {κ : Type*} (identifier : α → κ) :
    (∃ x ∈ row, found = some x ∧ found.map identifier = some (identifier x) ∧ found = some x) ↔
      ∃ x, row = some x ∧ found = some x := by
  constructor
  · rintro ⟨x, hrow, hfound, -, -⟩
    exact ⟨x, hrow, hfound⟩
  · rintro ⟨x, hrow, hfound⟩
    exact ⟨x, hrow, hfound, by rw [hfound]; rfl, hfound⟩

end Rank

/-! ## Positions -/

section Positions

/-- The order of a list whose elements carry their positions. -/
def Earlier (a b : α × ℕ) : Prop := a.2 < b.2

instance : DecidableRel (@Earlier α) := fun a b => Nat.decLt a.2 b.2

/-- No two places are earlier than each other. -/
theorem not_earlier_of_earlier (a b : α × ℕ) (h : Earlier a b) : ¬ Earlier b a := Nat.lt_asymm h

/-- Places are in order. -/
theorem pairwise_zipIdx (l : List α) : l.zipIdx.Pairwise Earlier := by
  have hpositions : (l.zipIdx.map Prod.snd).Pairwise (· < ·) := by
    rw [List.zipIdx_map_snd]
    exact List.pairwise_lt_range'
  rw [List.pairwise_map] at hpositions
  exact hpositions

/-- An element of a list has a place in it. -/
theorem mem_iff_exists_place {a : α} {l : List α} : a ∈ l ↔ ∃ x ∈ l.zipIdx, x.1 = a := by
  rw [← List.mem_map, List.zipIdx_map_fst]

/-- One element stands at a place. -/
theorem fst_eq_of_place {l : List α} {x y : α × ℕ} (hx : x ∈ l.zipIdx) (hy : y ∈ l.zipIdx)
    (h : x.2 = y.2) : x.1 = y.1 := by
  rw [List.mem_zipIdx_iff_getElem?] at hx hy
  rw [h, hy] at hx
  exact (Option.some.inj hx).symm

/-- A filter that does not look at the positions. -/
theorem map_fst_filter_zipIdx (keep : α → Bool) (l : List α) :
    (l.zipIdx.filter fun a => keep a.1).map Prod.fst = l.filter keep := by
  have hmap := List.filter_map (p := keep) (f := @Prod.fst α ℕ) (l := l.zipIdx)
  rw [List.zipIdx_map_fst] at hmap
  exact hmap.symm

end Positions

/-! ## Sorts turned round -/

section Flipped

variable {R : α → α → Prop} {flip : Bool}

/-- An order, or its converse where a list is reversed. -/
def Flipped (flip : Bool) (R : α → α → Prop) (a b : α) : Prop := if flip = true then R b a else R a b

instance [DecidableRel R] : DecidableRel (Flipped flip R) := fun _ _ =>
  inferInstanceAs (Decidable (ite _ _ _))

/-- A list turned round is in the converse order. -/
theorem pairwise_reverseIf (flip : Bool) (h : l.Pairwise R) : (reverseIf flip l).Pairwise (Flipped flip R) := by
  cases flip
  case false => exact h
  case true => exact List.pairwise_reverse.2 h

/-- An asymmetric relation is asymmetric turned round as well. -/
theorem not_flipped_of_flipped (hasymm : ∀ a b, R a b → ¬ R b a) (a b : α) (h : Flipped flip R a b) :
    ¬ Flipped flip R b a := by
  cases flip
  case false => exact hasymm a b h
  case true => exact hasymm b a h

end Flipped

/-! ## Parked elements -/

section Parked

variable {R lt : α → α → Prop} {missing : α → Bool} {arrange : List α → List α}

/-- Put the elements that miss something behind the others, and arrange only the others. -/
def parkMissing (missing : α → Bool) (arrange : List α → List α) (l : List α) : List α :=
  let l := sortByKey missing l
  let split := l.findIdx missing
  arrange (l.take split) ++ l.drop split

/-- The order of such an arrangement, where `R` is that of the arranged elements. -/
def ParkedBefore (missing : α → Bool) (R lt : α → α → Prop) (a b : α) : Prop :=
  if missing a = missing b then if missing a = true then lt a b else R a b else missing b = true

instance [DecidableRel R] [DecidableRel lt] : DecidableRel (ParkedBefore missing R lt) := fun _ _ =>
  inferInstanceAs (Decidable (ite _ _ _))

/-- It is asymmetric with some elements parked. -/
theorem not_parkedBefore_of_parkedBefore (hR : ∀ a b, R a b → ¬ R b a) (hlt : ∀ a b, lt a b → ¬ lt b a)
    (a b : α) (h : ParkedBefore missing R lt a b) : ¬ ParkedBefore missing R lt b a := by
  unfold ParkedBefore at *
  cases ha : missing a <;> cases hb : missing b <;> rw [ha, hb] at h
  case false.false => exact hR a b h
  case false.true => exact nofun
  case true.false => cases h
  case true.true => exact hlt a b h

/-- An element that misses nothing is inserted before all others, one that does after those that miss
nothing. -/
theorem orderedInsert_parked (a : α) {reported parked : List α} (hreported : ∀ b ∈ reported, missing b = false)
    (hparked : ∀ b ∈ parked, missing b = true) :
    (reported ++ parked).orderedInsert (fun a b => (compare (missing a) (missing b)).isLE = true) a =
      if missing a then reported ++ a :: parked else a :: (reported ++ parked) := by
  cases ha : missing a
  case false =>
    cases hl : reported ++ parked with
    | nil => rfl
    | cons b l =>
      rw [List.orderedInsert_cons, if_pos, if_neg nofun]
      rw [ha]
      cases missing b <;> rfl
  case true =>
    rw [if_pos rfl]
    -- The parked key goes past all that report theirs and stops in front of the parked ones.
    induction reported with
    | nil =>
      cases parked with
      | nil => rfl
      | cons b parked =>
        rw [List.nil_append, List.orderedInsert_cons, if_pos, List.nil_append]
        rw [ha, hparked b List.mem_cons_self]
        rfl
    | cons b reported ih =>
      rw [List.cons_append, List.orderedInsert_cons, if_neg, List.cons_append,
        ih fun c hc => hreported c (List.mem_cons_of_mem b hc)]
      rw [ha, hreported b List.mem_cons_self]
      decide

/-- Sorting by what is missing keeps the order of both parts. -/
theorem sortByKey_missing (missing : α → Bool) (l : List α) :
    sortByKey missing l = l.filter (fun a => !missing a) ++ l.filter missing := by
  induction l with
  | nil => rfl
  | cons a l ih =>
    show (sortByKey missing l).orderedInsert _ a = _
    rw [ih, orderedInsert_parked a (fun b hb => by simpa using (List.mem_filter.1 hb).2)
      fun b hb => (List.mem_filter.1 hb).2]
    cases ha : missing a <;> simp [ha]

/-- The arranged part and the parked one. -/
theorem parkMissing_eq (missing : α → Bool) (arrange : List α → List α) (l : List α) :
    parkMissing missing arrange l =
      arrange (l.filter fun a => !missing a) ++ l.filter missing := by
  have hsplit : (l.filter (fun a => !missing a) ++ l.filter missing).findIdx missing =
      (l.filter fun a => !missing a).length := by
    have hreported : ∀ b ∈ l.filter (fun a => !missing a), missing b = false := fun b hb => by
      simpa using (List.mem_filter.1 hb).2
    rw [List.findIdx_append, List.findIdx_eq_length_of_false hreported, if_neg (lt_irrefl _)]
    cases hparked : l.filter missing with
    | nil => simp
    | cons b parked =>
      have hb : missing b = true := (List.mem_filter.1 (hparked ▸ List.mem_cons_self)).2
      simp [List.findIdx_cons, hb]
  simp only [parkMissing, sortByKey_missing, hsplit]
  rw [List.take_left, List.drop_left]

/-- Parking rearranges, as the arrangement of the others does. -/
theorem parkMissing_perm (harrange : ∀ l, (arrange l).Perm l) (l : List α) :
    (parkMissing missing arrange l).Perm l := by
  rw [parkMissing_eq]
  refine ((harrange _).append_right _).trans ?_
  exact List.perm_append_comm.trans (List.filter_append_perm missing l)

/-- The elements with a key are as they were arranged, and the parked ones behind them as they were. -/
theorem pairwise_parkMissing (harrange : ∀ l, (arrange l).Perm l) (h : l.Pairwise lt)
    (hreported : (arrange (l.filter fun a => !missing a)).Pairwise R) :
    (parkMissing missing arrange l).Pairwise (ParkedBefore missing R lt) := by
  have hfound (a : α) (ha : a ∈ arrange (l.filter fun a => !missing a)) : missing a = false := by
    simpa using (List.mem_filter.1 ((harrange _).mem_iff.1 ha)).2
  have hparked (a : α) (ha : a ∈ l.filter missing) : missing a = true := (List.mem_filter.1 ha).2
  rw [parkMissing_eq, List.pairwise_append]
  refine ⟨?_, ?_, ?_⟩
  · refine hreported.imp_of_mem fun ha hb hab => ?_
    simpa [ParkedBefore, hfound _ ha, hfound _ hb] using hab
  · refine (h.filter missing).imp_of_mem fun ha hb hab => ?_
    simpa [ParkedBefore, hparked _ ha, hparked _ hb] using hab
  · intro a ha b hb
    simp [ParkedBefore, hfound a ha, hparked b hb]

/-- A stable sort of the elements that miss nothing, turned round where `flip` says so. -/
def parkedSort (missing : α → Bool) (flip : Bool) (cmp : α → α → Ordering) (l : List α) : List α :=
  parkMissing missing (fun reported => reverseIf flip (sortBy cmp reported)) l

/-- Its order. -/
def SortedParked (missing : α → Bool) (flip : Bool) (cmp : α → α → Ordering) (lt : α → α → Prop) :
    α → α → Prop :=
  ParkedBefore missing (Flipped flip (Before cmp lt)) lt

instance [DecidableRel lt] {flip : Bool} : DecidableRel (SortedParked missing flip cmp lt) :=
  inferInstanceAs (DecidableRel (ParkedBefore _ _ _))

/-- No two elements of a parked sort stand before each other. -/
theorem not_sortedParked_of_sortedParked [Std.OrientedCmp cmp] {flip : Bool}
    (hlt : ∀ a b, lt a b → ¬ lt b a) (a b : α) (h : SortedParked missing flip cmp lt a b) :
    ¬ SortedParked missing flip cmp lt b a := by
  refine not_parkedBefore_of_parkedBefore (fun a b => ?_) hlt a b h
  exact not_flipped_of_flipped (fun a b => not_before_of_before hlt) a b

/-- A parked sort rearranges. -/
theorem parkedSort_perm (missing : α → Bool) (flip : Bool) (cmp : α → α → Ordering) (l : List α) :
    (parkedSort missing flip cmp l).Perm l :=
  parkMissing_perm (fun _ => (reverseIf_perm _ _).trans (sortBy_perm _ _)) l

/-- A parked sort sorts the elements with a key, and leaves the others in the order they had. -/
theorem pairwise_parkedSort [Std.TransCmp cmp] (missing : α → Bool) (flip : Bool) (h : l.Pairwise lt) :
    (parkedSort missing flip cmp l).Pairwise (SortedParked missing flip cmp lt) := by
  refine pairwise_parkMissing (fun _ => (reverseIf_perm _ _).trans (sortBy_perm _ _)) h ?_
  exact pairwise_reverseIf flip (pairwise_sortBy _ (h.filter _))

end Parked

/-! ## Keys that differ -/

section Keys

variable [Ord κ] [Std.TransOrd κ] {key : α → κ}

/-- A list sorted by a key is in the order of the keys. -/
theorem pairwise_sortByKey (key : α → κ) (l : List α) :
    (sortByKey key l).Pairwise fun a b => (compare (key a) (key b)).isLE := by
  have : Std.TransCmp fun a b : α => compare (key a) (key b) := transCmp_on compare key
  have hsorted : (sortByKey key l).Pairwise
      (Before (fun a b => compare (key a) (key b)) fun _ _ => True) :=
    pairwise_sortBy l (List.pairwise_of_forall fun _ _ => trivial)
  exact hsorted.imp fun hab => isLE_of_before hab

/-- Where no two elements share a key, the order they are sorted from does not matter. -/
theorem sortByKey_eq_of_perm [Std.LawfulEqOrd κ] {l l' : List α} (hperm : l.Perm l')
    (hnodup : (l.map key).Nodup) : sortByKey key l = sortByKey key l' := by
  have hperm' : (sortByKey key l).Perm (sortByKey key l') :=
    (sortByKey_perm key l).trans (hperm.trans (sortByKey_perm key l').symm)
  refine List.Perm.eq_of_pairwise ?_ (pairwise_sortByKey key l) (pairwise_sortByKey key l') hperm'
  intro a b ha hb hab hba
  have hsame : key a = key b := Std.LawfulEqOrd.eq_of_compare (Std.OrientedCmp.isLE_antisymm hab hba)
  have hb' : b ∈ l := (hperm.trans (sortByKey_perm key l').symm).mem_iff.2 hb
  exact List.inj_on_of_nodup_map hnodup ((sortByKey_perm key l).mem_iff.1 ha) hb' hsame

end Keys

end StableSort
