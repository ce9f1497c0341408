import Mathlib.Data.List.Induction
import Mathlib.Logic.Function.Iterate
import Muxtop.Foundation.Retain

/-!
# Counting a list by key

A finite map with one counter for each key, bumped once for each element under that key.
-/

namespace AList

variable {α β κ : Type*} [DecidableEq κ]

/-- Bump the counter of the key of an element, if it has one; a new counter starts at `zero`. -/
def bump (key : α → Option κ) (zero : β) (next : β → β) (m : AList fun _ : κ => β) (x : α) :
    AList fun _ : κ => β :=
  match key x with
  | some k => m.insert k (next ((m.lookup k).getD zero))
  | none => m

/-- The counters after a list. -/
def tally (key : α → Option κ) (zero : β) (next : β → β) (xs : List α) : AList fun _ : κ => β :=
  xs.foldl (bump key zero next) ∅

variable (key : α → Option κ) (zero : β) (next : β → β)

theorem lookup_bump (m : AList fun _ : κ => β) (x : α) (k : κ) :
    ((bump key zero next m x).lookup k).getD zero =
      if key x = some k then next ((m.lookup k).getD zero) else (m.lookup k).getD zero := by
  unfold bump
  split
  case h_1 k' hkey =>
    rw [lookup_insert_eq]
    by_cases hk : k = k'
    · rw [if_pos hk, if_pos (by rw [hkey, hk]), hk]
      rfl
    · rw [if_neg hk, if_neg (by simpa [hkey] using Ne.symm hk)]
  case h_2 hkey => rw [if_neg (by simp [hkey])]

/-- A counter stands at the number of elements under its key. -/
theorem lookup_tally (xs : List α) (k : κ) :
    ((tally key zero next xs).lookup k).getD zero =
      next^[xs.countP fun x => key x = some k] zero := by
  induction xs using List.reverseRecOn with
  | nil => rfl
  | append_singleton xs x ih =>
    have hstep : tally key zero next (xs ++ [x]) =
        bump key zero next (tally key zero next xs) x := by
      simp [tally]
    rw [hstep, lookup_bump, ih, List.countP_append]
    by_cases hkey : key x = some k
    · rw [if_pos hkey, ← Function.iterate_succ_apply' next]
      simp [hkey]
    · rw [if_neg hkey]
      simp [hkey]

end AList
