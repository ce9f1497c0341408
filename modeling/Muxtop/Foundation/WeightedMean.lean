import Mathlib.Algebra.BigOperators.Group.List.Basic
import Mathlib.Algebra.Order.BigOperators.Group.List
import Mathlib.Algebra.Order.Group.Nat
import Mathlib.Algebra.Ring.Nat

/-!
# Weighted means

The floor of the weighted mean of some natural numbers, given as pairs of a weight and a value. It lies
between two values that have a weight.
-/

namespace WeightedMean

def weight (xs : List (ℕ × ℕ)) : ℕ := (xs.map Prod.fst).sum

def weightedSum (xs : List (ℕ × ℕ)) : ℕ := (xs.map fun x => x.1 * x.2).sum

def mean (xs : List (ℕ × ℕ)) : ℕ := weightedSum xs / weight xs

/-- The weights add up. -/
@[simp] theorem weight_cons (x : ℕ × ℕ) (xs : List (ℕ × ℕ)) : weight (x :: xs) = x.1 + weight xs := by
  simp [weight]

/-- So do the weighted values. -/
@[simp] theorem weightedSum_cons (x : ℕ × ℕ) (xs : List (ℕ × ℕ)) :
    weightedSum (x :: xs) = x.1 * x.2 + weightedSum xs := by
  simp [weightedSum]

theorem weight_singleton (x : ℕ × ℕ) : weight [x] = x.1 := by simp [weight]

theorem weightedSum_singleton (x : ℕ × ℕ) : weightedSum [x] = x.1 * x.2 := by simp [weightedSum]

/-- In any order. -/
theorem weight_perm {xs ys : List (ℕ × ℕ)} (h : xs.Perm ys) : weight xs = weight ys :=
  (h.map _).sum_eq

/-- So do the weighted values. -/
theorem weightedSum_perm {xs ys : List (ℕ × ℕ)} (h : xs.Perm ys) : weightedSum xs = weightedSum ys :=
  (h.map _).sum_eq

/-- The weights of two parts add up. -/
theorem weight_append (xs ys : List (ℕ × ℕ)) : weight (xs ++ ys) = weight xs + weight ys := by
  simp [weight]

/-- So do their weighted values. -/
theorem weightedSum_append (xs ys : List (ℕ × ℕ)) :
    weightedSum (xs ++ ys) = weightedSum xs + weightedSum ys := by
  simp [weightedSum]

/-- A sum is 0 when nothing weighs anything. -/
theorem weight_eq_zero_iff {xs : List (ℕ × ℕ)} : weight xs = 0 ↔ ∀ x ∈ xs, x.1 = 0 := by
  rw [weight, List.sum_eq_zero_iff_forall_eq_nat]
  exact List.forall_mem_map

/-! ## The values other than 0 -/

def nonzero (xs : List (ℕ × ℕ)) : List (ℕ × ℕ) := xs.filter (0 < ·.2)

/-- Fewer values weigh no more. -/
theorem weight_nonzero_le (xs : List (ℕ × ℕ)) : weight (nonzero xs) ≤ weight xs :=
  (List.filter_sublist.map Prod.fst).sum_le_sum fun _ _ => Nat.zero_le _

/-- A value of 0 adds nothing, whatever its weight. -/
theorem weightedSum_nonzero (xs : List (ℕ × ℕ)) : weightedSum (nonzero xs) = weightedSum xs := by
  induction xs with
  | nil => rfl
  | cons x xs ih =>
    rw [nonzero, List.filter_cons]
    split
    case isTrue => rw [weightedSum_cons, weightedSum_cons, ← nonzero, ih]
    case isFalse hzero =>
      have hvalue : x.2 = 0 := by simpa using hzero
      rw [weightedSum_cons, hvalue, Nat.mul_zero, Nat.zero_add, ← nonzero, ih]

/-- The values other than 0 of two parts. -/
theorem nonzero_append (xs ys : List (ℕ × ℕ)) : nonzero (xs ++ ys) = nonzero xs ++ nonzero ys :=
  List.filter_append ..

theorem nonzero_cons_zero (w : ℕ) (xs : List (ℕ × ℕ)) : nonzero ((w, 0) :: xs) = nonzero xs := rfl

/-- A value other than 0 stays. -/
theorem nonzero_cons_of_pos {x : ℕ × ℕ} (h : 0 < x.2) (xs : List (ℕ × ℕ)) :
    nonzero (x :: xs) = x :: nonzero xs :=
  List.filter_cons_of_pos (by simpa using h)

/-- A value adds its weight if it is not 0. -/
theorem weight_nonzero_cons (x : ℕ × ℕ) (xs : List (ℕ × ℕ)) :
    weight (nonzero (x :: xs)) = (if 0 < x.2 then x.1 else 0) + weight (nonzero xs) := by
  split_ifs with h
  · rw [nonzero_cons_of_pos h, weight_cons]
  · have hzero : x = (x.1, 0) := Prod.ext rfl (Nat.eq_zero_of_not_pos h)
    rw [hzero, nonzero_cons_zero, Nat.zero_add]

/-- Where every value with a weight is other than 0, none is left out. -/
theorem weight_nonzero_of_pos {xs : List (ℕ × ℕ)} (h : ∀ x ∈ xs, 0 < x.1 → 0 < x.2) :
    weight (nonzero xs) = weight xs := by
  induction xs with
  | nil => rfl
  | cons x xs ih =>
    rw [weight_nonzero_cons, weight_cons, ih fun y hy => h y (List.mem_cons_of_mem _ hy)]
    split_ifs with hpos
    · rfl
    · have hweight : x.1 = 0 := Nat.eq_zero_of_not_pos fun hx => hpos (h x List.mem_cons_self hx)
      rw [hweight]

/-! ## The mean -/

/-- The mean depends on the two sums alone. -/
theorem mean_congr {xs ys : List (ℕ × ℕ)} (h : weight xs = weight ys)
    (hsum : weightedSum xs = weightedSum ys) : mean xs = mean ys := by
  rw [mean, mean, h, hsum]

/-- Where each value with a weight is at least `m`, so is the sum at that rate. -/
theorem mul_weight_le {m : ℕ} {xs : List (ℕ × ℕ)} (h : ∀ x ∈ xs, 0 < x.1 → m ≤ x.2) :
    m * weight xs ≤ weightedSum xs := by
  induction xs with
  | nil => simp [weight, weightedSum]
  | cons x xs ih =>
    have hrest := ih fun y hy => h y (List.mem_cons_of_mem _ hy)
    have hhead : m * x.1 ≤ x.1 * x.2 := by
      obtain hzero | hpos := Nat.eq_zero_or_pos x.1
      · simp [hzero]
      · rw [Nat.mul_comm m]
        exact Nat.mul_le_mul_left _ (h x List.mem_cons_self hpos)
    rw [weight_cons, weightedSum_cons, Nat.mul_add]
    exact Nat.add_le_add hhead hrest

/-- Where each value with a weight is at most `m`, so is the sum at that rate. -/
theorem weightedSum_le {m : ℕ} {xs : List (ℕ × ℕ)} (h : ∀ x ∈ xs, 0 < x.1 → x.2 ≤ m) :
    weightedSum xs ≤ m * weight xs := by
  induction xs with
  | nil => simp [weight, weightedSum]
  | cons x xs ih =>
    have hrest := ih fun y hy => h y (List.mem_cons_of_mem _ hy)
    have hhead : x.1 * x.2 ≤ m * x.1 := by
      obtain hzero | hpos := Nat.eq_zero_or_pos x.1
      · simp [hzero]
      · rw [Nat.mul_comm m]
        exact Nat.mul_le_mul_left _ (h x List.mem_cons_self hpos)
    rw [weight_cons, weightedSum_cons, Nat.mul_add]
    exact Nat.add_le_add hhead hrest

/-- The mean is rounded down, -/
theorem mean_mul_weight_le (xs : List (ℕ × ℕ)) : mean xs * weight xs ≤ weightedSum xs :=
  Nat.div_mul_le_self _ _

/-- and by less than one. -/
theorem weightedSum_lt {xs : List (ℕ × ℕ)} (h : 0 < weight xs) :
    weightedSum xs < (mean xs + 1) * weight xs := by
  rw [Nat.mul_comm]
  exact Nat.lt_mul_div_succ _ h

/-- Some value with a weight is at most the mean. -/
theorem exists_le_mean {xs : List (ℕ × ℕ)} (h : 0 < weight xs) :
    ∃ x ∈ xs, 0 < x.1 ∧ x.2 ≤ mean xs := by
  by_contra hnone
  have hall : ∀ x ∈ xs, 0 < x.1 → mean xs + 1 ≤ x.2 := fun x hx hpos =>
    Nat.lt_of_not_le fun hle => hnone ⟨x, hx, hpos, hle⟩
  exact absurd (mul_weight_le hall) (Nat.not_le_of_lt (weightedSum_lt h))

/-- Some value with a weight is at least the mean. -/
theorem exists_mean_le {xs : List (ℕ × ℕ)} (h : 0 < weight xs) :
    ∃ x ∈ xs, 0 < x.1 ∧ mean xs ≤ x.2 := by
  by_contra hnone
  have hall : ∀ x ∈ xs, 0 < x.1 → x.2 + 1 ≤ mean xs := fun x hx hpos =>
    Nat.lt_of_not_le fun hle => hnone ⟨x, hx, hpos, hle⟩
  have hbounded : ∀ x ∈ xs, 0 < x.1 → x.2 ≤ mean xs - 1 := fun x hx hpos => by
    have hlt := hall x hx hpos
    omega
  have hpositive : 0 < mean xs := by
    by_contra hzero
    obtain ⟨x, hx, hpos, -⟩ := exists_le_mean h
    have hlt := hall x hx hpos
    omega
  have hover := (mean_mul_weight_le xs).trans (weightedSum_le hbounded)
  have hle := Nat.le_of_mul_le_mul_right hover h
  omega

/-! ## One more value -/

/-- A value weighed in leaves the mean where it was when the bounds of the mean still hold. -/
theorem mean_cons_eq_iff {xs : List (ℕ × ℕ)} {w v m : ℕ} (h : 0 < weight xs) :
    mean ((w, v) :: xs) = m ↔
      m * (w + weight xs) ≤ w * v + weightedSum xs ∧
        w * v + weightedSum xs < (m + 1) * (w + weight xs) := by
  have hpos : 0 < w + weight xs := Nat.add_pos_right w h
  rw [mean, weight_cons, weightedSum_cons, Nat.div_eq_iff hpos, Nat.add_mul, Nat.one_mul]
  dsimp only
  omega

/-- What a weight leaves alone, a smaller one does. -/
theorem mean_cons_of_le {xs : List (ℕ × ℕ)} {w w' v : ℕ} (h : 0 < weight xs) (hle : w' ≤ w)
    (hmean : mean ((w, v) :: xs) = mean xs) : mean ((w', v) :: xs) = mean xs := by
  have hlow := mean_mul_weight_le xs
  have hhigh := weightedSum_lt h
  generalize mean xs = m at *
  obtain ⟨hlow', hhigh'⟩ := (mean_cons_eq_iff h).1 hmean
  refine (mean_cons_eq_iff h).2 ⟨?_, ?_⟩
  · obtain hv | hv := Nat.le_total m v
    · have hw := Nat.mul_le_mul_left w' hv
      rw [Nat.mul_add, Nat.mul_comm m w']
      omega
    · -- A value below the mean draws it down the less, the less it weighs.
      obtain ⟨d, rfl⟩ := Nat.exists_eq_add_of_le hv
      have hw := Nat.mul_le_mul_right d hle
      rw [Nat.mul_add, Nat.add_mul, Nat.mul_comm w v] at hlow'
      rw [Nat.mul_add, Nat.add_mul, Nat.mul_comm w' v]
      rw [Nat.mul_comm d w] at hlow'
      rw [Nat.mul_comm d w']
      omega
  · obtain hv | hv := Nat.le_total v (m + 1)
    · have hw := Nat.mul_le_mul_left w' hv
      rw [Nat.mul_add, Nat.mul_comm (m + 1) w']
      omega
    · obtain ⟨d, rfl⟩ := Nat.exists_eq_add_of_le hv
      have hw := Nat.mul_le_mul_right d hle
      rw [Nat.mul_add w, Nat.mul_add (m + 1), Nat.mul_comm w (m + 1)] at hhigh'
      rw [Nat.mul_add w', Nat.mul_add (m + 1), Nat.mul_comm w' (m + 1)]
      omega

/-- A value that weighs as much as all the others leaves the mean alone only if it is the mean, or the
next number above. -/
theorem mean_cons_eq_mean_iff {xs : List (ℕ × ℕ)} {w v : ℕ} (h : 0 < weight xs) (hw : weight xs ≤ w) :
    mean ((w, v) :: xs) = mean xs ↔ v = mean xs ∨ v = mean xs + 1 := by
  have hlow := mean_mul_weight_le xs
  have hhigh := weightedSum_lt h
  rw [mean_cons_eq_iff h]
  generalize mean xs = m at *
  rw [Nat.add_mul, Nat.one_mul] at hhigh
  rw [Nat.mul_add, Nat.mul_add, Nat.add_mul m 1 w, Nat.add_mul m 1 (weight xs), Nat.one_mul, Nat.one_mul,
    Nat.mul_comm m w]
  constructor
  · rintro ⟨hlow', hhigh'⟩
    by_contra hother
    obtain hv | hv : v + 1 ≤ m ∨ m + 2 ≤ v := by omega
    · have hdrop := Nat.mul_le_mul_left w hv
      rw [Nat.mul_add, Nat.mul_one] at hdrop
      omega
    · have hrise := Nat.mul_le_mul_left w hv
      rw [Nat.mul_add] at hrise
      omega
  · rintro (rfl | rfl)
    · omega
    · rw [Nat.mul_add, Nat.mul_one]
      omega

end WeightedMean
