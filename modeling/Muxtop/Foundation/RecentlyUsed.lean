import Mathlib.Data.List.Nodup
import Mathlib.Data.List.Sort

/-!
# Recently used elements

The last few distinct elements of a history, the most recent first; and lists that show these first.
-/

namespace RecentlyUsed

variable {α : Type*} [DecidableEq α] {cap : ℕ} {l xs : List α}

/-- Move an element to the front, and keep `cap` elements. -/
def touch (cap : ℕ) (a : α) (l : List α) : List α := (a :: l.filter (· ≠ a)).take cap

/-- How recently an element was used; `cap` for one that was not. -/
def recency (cap : ℕ) (l : List α) (a : α) : ℕ := (l.idxOf? a).getD cap

/-! ## The history -/

/-- Repetitions may be dropped before or after a selection. -/
theorem eraseDups_filter (p : α → Bool) (l : List α) : (l.filter p).eraseDups = l.eraseDups.filter p := by
  induction hlength : l.length using Nat.strong_induction_on generalizing l with
  | _ n ih =>
    cases l with
    | nil => rfl
    | cons a l =>
      have hshorter : (l.filter fun b => !b == a).length < n :=
        Nat.lt_of_le_of_lt (List.length_filter_le _ _) (Nat.lt_of_succ_le (Nat.le_of_eq hlength))
      have hrest := ih _ hshorter (l.filter fun b => !b == a) rfl
      rw [List.filter_filter] at hrest
      rw [List.eraseDups_cons, List.filter_cons, List.filter_cons]
      cases hp : p a
      case true =>
        rw [if_pos rfl, if_pos rfl, List.eraseDups_cons, List.filter_filter, ← hrest]
        simp only [Bool.and_comm]
      case false =>
        rw [if_neg Bool.false_ne_true, if_neg Bool.false_ne_true, ← hrest]
        congr 1
        refine List.filter_congr fun b _ => ?_
        by_cases hb : b = a
        · rw [hb, hp]
          rfl
        · simp [hb]

/-- What is left has none. -/
theorem nodup_eraseDups (l : List α) : l.eraseDups.Nodup := by
  induction hlength : l.length using Nat.strong_induction_on generalizing l with
  | _ n ih =>
    cases l with
    | nil => exact List.nodup_nil
    | cons a l =>
      have hshorter : (l.filter fun b => !b == a).length < n :=
        Nat.lt_of_le_of_lt (List.length_filter_le _ _) (Nat.lt_of_succ_le (Nat.le_of_eq hlength))
      rw [List.eraseDups_cons, List.nodup_cons]
      exact ⟨by simp, ih _ hshorter _ rfl⟩

/-- Without one element, one more of the others is needed at most. -/
theorem take_filter_ne (a : α) (cap : ℕ) {l : List α} (h : l.Nodup) :
    ((l.take (cap + 1)).filter (· ≠ a)).take cap = (l.filter (· ≠ a)).take cap := by
  induction l generalizing cap with
  | nil => rfl
  | cons b l ih =>
    obtain ⟨hfresh, hrest⟩ := List.nodup_cons.1 h
    by_cases hb : b = a
    · have hothers : ∀ c ∈ l, decide (c ≠ a) = true := fun c hc =>
        decide_eq_true fun heq => hfresh (by rwa [hb, ← heq])
      rw [List.take_succ_cons, List.filter_cons_of_neg (by simpa using hb),
        List.filter_cons_of_neg (by simpa using hb), List.filter_eq_self.2 hothers,
        List.filter_eq_self.2 fun c hc => hothers c (List.mem_of_mem_take hc), List.take_take, min_self]
    · cases cap with
      | zero => rfl
      | succ cap =>
        rw [List.take_succ_cons, List.filter_cons_of_pos (by simpa using hb),
          List.filter_cons_of_pos (by simpa using hb), List.take_succ_cons, List.take_succ_cons,
          ih cap hrest]

/-- The last `cap` distinct elements of a history, with one more use. -/
theorem touch_eraseDups (cap : ℕ) (a : α) (l : List α) :
    touch cap a (l.eraseDups.take cap) = (a :: l).eraseDups.take cap := by
  cases cap with
  | zero => rfl
  | succ cap =>
    rw [touch, List.eraseDups_cons, eraseDups_filter, List.take_succ_cons, List.take_succ_cons,
      take_filter_ne a cap (nodup_eraseDups l)]
    congr 2
    refine List.filter_congr fun b _ => ?_
    by_cases hb : b = a <;> simp [hb]

/-! ## What is shown first -/

/-- An element of the history counts by its place in it. -/
theorem recency_of_mem {a : α} (h : a ∈ l) : recency cap l a = l.idxOf a := by
  obtain ⟨i, hi⟩ := Option.isSome_iff_exists.1 (List.isSome_idxOf?.2 h)
  rw [recency, List.idxOf_eq_getD_idxOf?, hi]
  rfl

/-- Any other counts as used before all of it. -/
theorem recency_of_notMem {a : α} (h : a ∉ l) : recency cap l a = cap := by
  rw [recency, List.idxOf?_eq_none_iff.2 h]
  rfl

/-- So the two can be told apart. -/
theorem recency_lt_iff {a : α} (hcap : l.length ≤ cap) : recency cap l a < cap ↔ a ∈ l := by
  constructor
  · intro hlt
    by_contra hnone
    rw [recency_of_notMem hnone] at hlt
    exact Nat.lt_irrefl cap hlt
  · intro hmem
    rw [recency_of_mem hmem]
    exact Nat.lt_of_lt_of_le (List.idxOf_lt_length_of_mem hmem) hcap

/-- The history is in the order of the counts. -/
theorem pairwise_recency (h : l.Nodup) : l.Pairwise fun a b => recency cap l a < recency cap l b := by
  rw [List.pairwise_iff_getElem]
  intro i j hi hj hlt
  rw [recency_of_mem (List.getElem_mem hi), recency_of_mem (List.getElem_mem hj), h.idxOf_getElem i hi,
    h.idxOf_getElem j hj]
  exact hlt

omit [DecidableEq α] in
/-- A list that goes by a test has what passes it first. -/
theorem filter_append_filter_not {p : α → Bool} (h : xs.Pairwise fun a b => p b = true → p a = true) :
    xs.filter p ++ xs.filter (fun a => !p a) = xs := by
  induction xs with
  | nil => rfl
  | cons a xs ih =>
    obtain ⟨hfirst, hrest⟩ := List.pairwise_cons.1 h
    cases hp : p a
    case true =>
      rw [List.filter_cons_of_pos hp, List.filter_cons_of_neg (by simp [hp]), List.cons_append, ih hrest]
    case false =>
      have hothers : ∀ b ∈ xs, p b = false := fun b hb => by
        rw [← Bool.not_eq_true]
        intro hpb
        rw [hfirst b hb hpb] at hp
        cases hp
      rw [List.filter_cons_of_neg (by simp [hp]), List.filter_cons_of_pos (by simp [hp]),
        List.filter_eq_nil_iff.2 fun b hb => by simp [hothers b hb],
        List.filter_eq_self.2 fun b hb => by simp [hothers b hb], List.nil_append]

/-- A list by recency shows what was used first, in the order of the history. -/
theorem recent_append_rest (hhistory : l.Nodup) (hcap : l.length ≤ cap) (hxs : xs.Nodup)
    (hsorted : xs.Pairwise fun a b => recency cap l a ≤ recency cap l b) :
    xs = l.filter (· ∈ xs) ++ xs.filter (· ∉ l) := by
  have hsplit : xs.filter (· ∈ l) ++ xs.filter (fun a => !decide (a ∈ l)) = xs := by
    refine filter_append_filter_not (hsorted.imp fun {a b} hle hb => ?_)
    rw [decide_eq_true_iff, ← recency_lt_iff hcap] at hb ⊢
    exact Nat.lt_of_le_of_lt hle hb
  have hrecent : xs.filter (· ∈ l) = l.filter (· ∈ xs) := by
    have hperm : (xs.filter (· ∈ l)).Perm (l.filter (· ∈ xs)) := by
      rw [List.perm_ext_iff_of_nodup (hxs.filter _) (hhistory.filter _)]
      intro a
      simp only [List.mem_filter, decide_eq_true_iff]
      exact and_comm
    have hless : l.Pairwise fun a b => recency cap l a ≤ recency cap l b :=
      (pairwise_recency hhistory).imp fun {a b} hlt => Nat.le_of_lt hlt
    refine hperm.eq_of_pairwise (fun a b ha hb hab hba => ?_) (hsorted.filter _) (hless.filter _)
    have hmem : a ∈ l := of_decide_eq_true (List.mem_filter.1 ha).2
    have hsame := Nat.le_antisymm hab hba
    rw [recency_of_mem hmem, recency_of_mem (List.mem_of_mem_filter hb)] at hsame
    exact (List.idxOf_inj hmem).1 hsame
  rw [hrecent] at hsplit
  simpa only [decide_not] using hsplit.symm

end RecentlyUsed
