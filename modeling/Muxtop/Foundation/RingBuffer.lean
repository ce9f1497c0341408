import Mathlib.Data.List.Chain
import Mathlib.Data.List.DropRight
import Mathlib.Data.List.Induction

/-!
# Bounded rings

A list of the newest values, of a bounded length: a value pushed into a full ring drives the oldest one
out. And what a function makes of each two consecutive values of a list.
-/

namespace RingBuffer

variable {α β : Type*}

/-- Push a value at the back; a full ring loses its front. -/
def push (capacity : ℕ) (ring : List α) (x : α) : List α :=
  (if capacity ≤ ring.length then ring.drop 1 else ring) ++ [x]

theorem length_rtake (xs : List α) (n : ℕ) : (xs.rtake n).length = min n xs.length := by
  rw [List.rtake, List.length_drop]
  omega

theorem rtake_of_length_le {xs : List α} {n : ℕ} (h : xs.length ≤ n) : xs.rtake n = xs := by
  rw [List.rtake, Nat.sub_eq_zero_of_le h, List.drop_zero]

/-- The ring of the last values takes the next one in. -/
theorem push_rtake (capacity : ℕ) (xs : List α) (x : α) :
    push (capacity + 1) (xs.rtake (capacity + 1)) x = (xs ++ [x]).rtake (capacity + 1) := by
  rw [List.rtake_concat_succ, push, length_rtake]
  congr 1
  split
  case isTrue hfull =>
    rw [List.rtake, List.rtake, List.drop_drop]
    congr 1
    omega
  case isFalse hroom => rw [rtake_of_length_le (by omega), rtake_of_length_le (by omega)]

/-- What is pushed into an empty ring leaves the last values there. -/
theorem foldl_push (capacity : ℕ) (xs : List α) :
    xs.foldl (push (capacity + 1)) [] = xs.rtake (capacity + 1) := by
  induction xs using List.reverseRecOn with
  | nil => simp
  | append_singleton xs x ih =>
    rw [List.foldl_append, ih]
    exact push_rtake capacity xs x

/-! ## Consecutive values -/

/-- The function at each two consecutive values. -/
def consecutive (f : α → α → β) (xs : List α) : List β := List.zipWith f xs xs.tail

@[simp] theorem length_consecutive (f : α → α → β) (xs : List α) :
    (consecutive f xs).length = xs.length - 1 := by
  rw [consecutive, List.length_zipWith, List.length_tail]
  omega

theorem getElem?_consecutive (f : α → α → β) (xs : List α) (i : ℕ) :
    (consecutive f xs)[i]? = (xs[i]?).bind fun a => (xs[i + 1]?).map (f a) := by
  rw [consecutive, List.getElem?_zipWith, List.getElem?_tail]
  cases xs[i]? <;> cases xs[i + 1]? <;> rfl

@[simp] theorem consecutive_cons_cons (f : α → α → β) (a b : α) (xs : List α) :
    consecutive f (a :: b :: xs) = f a b :: consecutive f (b :: xs) := rfl

/-- One more value adds what the function makes of the last one and it. -/
theorem consecutive_concat (f : α → α → β) (xs : List α) (a b : α) :
    consecutive f (xs ++ [a, b]) = consecutive f (xs ++ [a]) ++ [f a b] := by
  induction xs with
  | nil => rfl
  | cons x xs ih =>
    cases xs with
    | nil => rfl
    | cons y xs => exact congrArg (f x y :: ·) ih

/-- Two functions make the same of a list when they agree on its consecutive values. -/
theorem consecutive_eq_iff (f g : α → α → β) (xs : List α) :
    consecutive f xs = consecutive g xs ↔ xs.IsChain fun a b => f a b = g a b := by
  induction xs with
  | nil => simp [consecutive]
  | cons a xs ih =>
    cases xs with
    | nil => simp [consecutive]
    | cons b xs => rw [consecutive_cons_cons, consecutive_cons_cons, List.cons_eq_cons, ih,
        List.isChain_cons_cons]

end RingBuffer
