import Mathlib.Algebra.BigOperators.Group.List.Basic
import Mathlib.Algebra.Order.Group.Nat
import Mathlib.Algebra.Ring.Nat

/-!
# Saturating sums

A type whose addition stops at a greatest value, seen through the numbers that its elements stand for.
Adding up a list one by one gives the exact total, cut once at the end.
-/

namespace Saturating

variable {α β : Type*} {toNat : α → ℕ} {add : α → α → α} {top : ℕ}

/-- Addition that stops at `top`. -/
structure Adds (toNat : α → ℕ) (add : α → α → α) (top : ℕ) : Prop where
  le_top : ∀ a, toNat a ≤ top
  toNat_add : ∀ a b, toNat (add a b) = min (toNat a + toNat b) top

/-- A sum is cut at most once, however often it would have been. -/
theorem Adds.toNat_foldl (h : Adds toNat add top) (f : β → α) (l : List β) (a : α) :
    toNat (l.foldl (fun total b => add total (f b)) a) =
      min (toNat a + (l.map fun b => toNat (f b)).sum) top := by
  induction l generalizing a with
  | nil =>
    have hle := h.le_top a
    rw [List.foldl_nil, List.map_nil, List.sum_nil]
    omega
  | cons b l ih =>
    rw [List.foldl_cons, ih, h.toNat_add, List.map_cons, List.sum_cons]
    omega

/-- Addition of natural numbers in a type of `size` values. -/
theorem adds_ofNat {ofNat : ℕ → α} {size : ℕ} (hlt : ∀ a, toNat a < size)
    (hofNat : ∀ n < size, toNat (ofNat n) = n) :
    Adds toNat (fun a b => ofNat (min (toNat a + toNat b) (size - 1))) (size - 1) where
  le_top a := by
    have ha := hlt a
    omega
  toNat_add a b := by
    have ha := hlt a
    exact hofNat _ (by omega)

/-- `u32::saturating_add` -/
def add32 (a b : UInt32) : UInt32 := .ofNat (min (a.toNat + b.toNat) (UInt32.size - 1))

/-- `u64::saturating_add` -/
def add64 (a b : UInt64) : UInt64 := .ofNat (min (a.toNat + b.toNat) (UInt64.size - 1))

@[simp] theorem add32_zero (a : UInt32) : add32 a 0 = a := by
  have ha := a.toNat_lt_size
  have hmin : min (a.toNat + (0 : UInt32).toNat) (UInt32.size - 1) = a.toNat := by
    rw [UInt32.toNat_zero]
    omega
  rw [add32, hmin, UInt32.ofNat_toNat]

@[simp] theorem add64_zero (a : UInt64) : add64 a 0 = a := by
  have ha := a.toNat_lt_size
  have hmin : min (a.toNat + (0 : UInt64).toNat) (UInt64.size - 1) = a.toNat := by
    rw [UInt64.toNat_zero]
    omega
  rw [add64, hmin, UInt64.ofNat_toNat]

theorem adds_add32 : Adds UInt32.toNat add32 (UInt32.size - 1) :=
  adds_ofNat (fun a => a.toNat_lt_size) fun _ hn => UInt32.toNat_ofNat_of_lt' hn

theorem adds_add64 : Adds UInt64.toNat add64 (UInt64.size - 1) :=
  adds_ofNat (fun a => a.toNat_lt_size) fun _ hn => UInt64.toNat_ofNat_of_lt' hn

end Saturating
