import Muxtop.Foundation.FloatBits
import Muxtop.Foundation.TotalPreorder

/-!
# Sorting by floats

`partial_cmp(..).unwrap_or(Ordering::Equal)` as a comparison for a sort. NaN comes out equal to every
float, which no total order up to ties allows for unless all are equal.
-/

namespace F32

open StableSort

/-- The float is NaN. -/
def IsNaN (x : F32) : Prop := 0x7F800000 < x.signMagnitude.2

instance (x : F32) : Decidable x.IsNaN := inferInstanceAs (Decidable (_ < _))

/-- Floats other than NaN are compared as numbers. -/
theorem cmp_eq {a b : F32} (ha : ¬ a.IsNaN) (hb : ¬ b.IsNaN) :
    a.cmp b = compare (FloatOrder.value a.signMagnitude) (FloatOrder.value b.signMagnitude) := by
  unfold IsNaN at ha hb
  unfold F32.cmp F32.partialCmp FloatOrder.partialCmp
  dsimp only
  rw [if_neg (by omega)]
  rfl

theorem cmp_of_isNaN {a b : F32} (h : a.IsNaN ∨ b.IsNaN) : a.cmp b = .eq := by
  unfold IsNaN at h
  unfold F32.cmp F32.partialCmp FloatOrder.partialCmp
  dsimp only
  rw [if_pos h]
  rfl

theorem cmp_swap (a b : F32) : a.cmp b = (b.cmp a).swap := by
  by_cases h : a.IsNaN ∨ b.IsNaN
  · rw [cmp_of_isNaN h, cmp_of_isNaN h.symm]
    rfl
  · obtain ⟨ha, hb⟩ := not_or.1 h
    rw [cmp_eq ha hb, cmp_eq hb ha]
    exact Std.OrientedCmp.eq_swap

theorem cmp_self (a : F32) : a.cmp a = .eq := by
  have hswap := cmp_swap a a
  cases h : a.cmp a with
  | eq => rfl
  | lt =>
    rw [h] at hswap
    cases hswap
  | gt =>
    rw [h] at hswap
    cases hswap

/-- The floats of a list can be put in order: none is NaN, or all compare equal. -/
def Comparable (xs : List F32) : Prop := (∀ x ∈ xs, ¬ x.IsNaN) ∨ ∀ x ∈ xs, ∀ y ∈ xs, x.cmp y = .eq

/-- Two floats apart and a NaN between them are equal by twos, and not all three. -/
theorem totalPreorderOn_iff {xs : List F32} : TotalPreorderOn F32.cmp xs ↔ Comparable xs := by
  constructor
  · intro h
    by_cases hnan : ∃ n ∈ xs, n.IsNaN
    · obtain ⟨n, hn, hisnan⟩ := hnan
      refine .inr fun x hx y hy => ?_
      exact h.eq_trans x hx n hn y hy (cmp_of_isNaN (.inr hisnan)) (cmp_of_isNaN (.inl hisnan))
    · exact .inl fun x hx hisnan => hnan ⟨x, hx, hisnan⟩
  · rintro (hnumbers | hequal)
    · have hvalues : TotalPreorderOn (fun a b : F32 => compare (FloatOrder.value a.signMagnitude)
          (FloatOrder.value b.signMagnitude)) xs :=
        (TotalPreorderOn.on_iff fun x : F32 => FloatOrder.value x.signMagnitude).2
          (TotalPreorderOn.of_transCmp _)
      exact hvalues.congr fun a ha b hb => cmp_eq (hnumbers a ha) (hnumbers b hb)
    · exact .of_all_eq hequal

end F32
