import Mathlib.Data.List.Basic
import Mathlib.Data.List.TakeWhile

/-!
# Dropping elements of a list

Elements are dropped one by one, in an order that is given, until the rest fits; or the first few of those
that a test picks out are left out.
-/

namespace GreedyDrop

variable {α β : Type*}

/-- Drop from `rest` until what is dropped suffices. -/
def dropUntil (fits : List α → Bool) : List α → List α → List α
  | dropped, [] => dropped
  | dropped, a :: rest => if fits dropped then dropped else dropUntil fits (dropped ++ [a]) rest

/-- Leave out the first `remaining` elements that pass the test. -/
def skipFirst (p : α → Bool) : ℕ → List α → List α
  | _, [] => []
  | remaining, a :: rest =>
    if !p a || remaining == 0 then a :: skipFirst p remaining rest
    else skipFirst p (remaining - 1) rest

theorem dropUntil_of_fits {fits : List α → Bool} {dropped : List α} (h : fits dropped = true)
    (rest : List α) : dropUntil fits dropped rest = dropped := by
  cases rest with
  | nil => rfl
  | cons a rest => rw [dropUntil, if_pos h]

/-- What is dropped is the start of the order, and it suffices unless it is everything. -/
theorem exists_dropUntil_eq (fits : List α → Bool) (dropped rest : List α) :
    ∃ k, dropUntil fits dropped rest = dropped ++ rest.take k ∧
      (fits (dropped ++ rest.take k) = true ∨ rest.take k = rest) := by
  induction rest generalizing dropped with
  | nil => exact ⟨0, by simp [dropUntil]⟩
  | cons a rest ih =>
    rw [dropUntil]
    split
    case isTrue hfits => exact ⟨0, by simp [hfits]⟩
    case isFalse =>
      obtain ⟨k, hdropped, hend⟩ := ih (dropped ++ [a])
      rw [List.append_assoc, List.singleton_append, ← List.take_succ_cons] at hdropped hend
      refine ⟨k + 1, hdropped, hend.imp id fun hall => ?_⟩
      rw [List.take_succ_cons, hall]

/-- Where the order goes by a relation, what is kept of it comes behind all that is dropped. -/
theorem rel_of_dropped_of_kept {R : α → α → Prop} {order : List α} (h : order.Pairwise R) {k : ℕ} {a b : α}
    (ha : a ∈ order.take k) (hb : b ∈ order) (hkept : b ∉ order.take k) : R a b := by
  rw [← List.take_append_drop k order] at h hb
  exact (List.pairwise_append.1 h).2.2 a ha b ((List.mem_append.1 hb).resolve_left hkept)

theorem skipFirst_map (f : β → α) (p : α → Bool) (remaining : ℕ) (l : List β) :
    skipFirst p remaining (l.map f) = (skipFirst (fun b => p (f b)) remaining l).map f := by
  induction l generalizing remaining with
  | nil => rfl
  | cons b l ih =>
    rw [List.map_cons, skipFirst, skipFirst]
    split
    · rw [List.map_cons, ih]
    · exact ih _

/-- What is left out are the first elements among those that pass the test. -/
theorem skipFirst_eq [BEq α] [LawfulBEq α] (p : α → Bool) (remaining : ℕ) {l : List α} (h : l.Nodup) :
    skipFirst p remaining l = l.filter fun a => a ∉ (l.filter p).take remaining := by
  induction l generalizing remaining with
  | nil => rfl
  | cons a l ih =>
    obtain ⟨hfresh, hrest⟩ := List.nodup_cons.1 h
    rw [skipFirst, ih _ hrest, ih _ hrest, List.filter_cons (p := p)]
    cases hp : p a
    case false =>
      have hkept : a ∉ (l.filter p).take remaining := fun ha =>
        hfresh (List.mem_of_mem_filter (List.mem_of_mem_take ha))
      rw [if_pos (by simp), if_neg Bool.false_ne_true, List.filter_cons_of_pos (by simpa using hkept)]
    case true =>
      cases remaining with
      | zero => simp
      | succ remaining =>
        rw [if_neg (by simp), if_pos rfl, List.take_succ_cons, List.filter_cons_of_neg (by simp)]
        refine List.filter_congr fun b hb => ?_
        have hne : b ≠ a := fun heq => hfresh (heq ▸ hb)
        simp [hne]

end GreedyDrop
