import Mathlib.Algebra.Ring.Nat
import Mathlib.Data.Option.Basic

/-!
# Sums that may overflow

A program that is built for debugging panics where an addition of machine integers overflows, and one that
is built for release goes on with the sum modulo `2 ^ w`. Either way a chain of additions does what a single
one of the total would do. A total is told by all builds, as itself or as the greatest integer, exactly when
it is less than `2 ^ w`.
-/

namespace OverflowChecks

inductive Build
  | debug
  | release
deriving DecidableEq, Repr

variable {w n : ℕ}

/-- `x + y`, or none if the build panics. -/
def Build.add (build : Build) (x y : BitVec w) : Option (BitVec w) :=
  match build with
  | .debug => if x.uaddOverflow y then none else some (x + y)
  | .release => some (x + y)

/-- `iter().sum()`, or none if one of the additions panics. -/
def Build.sum (build : Build) (xs : List (BitVec w)) : Option (BitVec w) := xs.foldlM build.add 0#w

/-- What a build makes of a total. -/
def Build.fit (build : Build) (w n : ℕ) : Option (BitVec w) :=
  match build with
  | .debug => if n < 2 ^ w then some (BitVec.ofNat w n) else none
  | .release => some (BitVec.ofNat w n)

/-- The total, or the greatest integer if the total is greater. -/
def saturated (w n : ℕ) : BitVec w := BitVec.ofNat w (min n (2 ^ w - 1))

/-! ## Additions -/

theorem Build.add_eq (build : Build) (x y : BitVec w) :
    build.add x y = build.fit w (x.toNat + y.toNat) := by
  have hsum : x + y = BitVec.ofNat w (x.toNat + y.toNat) := by
    rw [BitVec.ofNat_add, BitVec.ofNat_toNat, BitVec.ofNat_toNat, BitVec.setWidth_eq, BitVec.setWidth_eq]
  cases build with
  | debug =>
    unfold add fit BitVec.uaddOverflow
    by_cases h : x.toNat + y.toNat < 2 ^ w
    · simp [h, hsum]
    · simp [h, Nat.not_lt.1 h]
  | release => exact congrArg some hsum

/-- Going on from a total. -/
theorem Build.fit_bind_add (build : Build) (y : BitVec w) :
    ((build.fit w n).bind fun x => build.add x y) = build.fit w (n + y.toNat) := by
  cases build with
  | debug =>
    unfold fit
    split_ifs with hn hsum hsum
    case pos => rw [Option.bind_some, add_eq, fit, BitVec.toNat_ofNat, Nat.mod_eq_of_lt hn, if_pos hsum]
    case neg => rw [Option.bind_some, add_eq, fit, BitVec.toNat_ofNat, Nat.mod_eq_of_lt hn, if_neg hsum]
    case pos => exact absurd (Nat.lt_of_le_of_lt (Nat.le_add_right n y.toNat) hsum) hn
    case neg => rfl
  | release =>
    refine congrArg some ?_
    rw [BitVec.ofNat_add, BitVec.ofNat_toNat, BitVec.setWidth_eq]

/-- The invariant of the chain: the accumulator is what the build makes of the total so far. -/
theorem Build.fit_bind_foldlM (build : Build) (n : ℕ) (xs : List (BitVec w)) :
    ((build.fit w n).bind fun acc => xs.foldlM build.add acc) =
      build.fit w (n + (xs.map BitVec.toNat).sum) := by
  induction xs generalizing n with
  | nil =>
    rw [List.map_nil, List.sum_nil, Nat.add_zero]
    exact Option.bind_fun_some _
  | cons x xs ih =>
    have hstep : ((build.fit w n).bind fun acc => (x :: xs).foldlM build.add acc) =
        ((build.fit w n).bind fun acc => build.add acc x).bind fun acc => xs.foldlM build.add acc := by
      rw [Option.bind_assoc]
      rfl
    rw [hstep, fit_bind_add, ih, List.map_cons, List.sum_cons, Nat.add_assoc]

theorem Build.fit_of_lt (build : Build) (h : n < 2 ^ w) : build.fit w n = some (BitVec.ofNat w n) := by
  cases build with
  | debug => exact if_pos h
  | release => rfl

theorem Build.sum_eq (build : Build) (xs : List (BitVec w)) :
    build.sum xs = build.fit w (xs.map BitVec.toNat).sum := by
  have hchain := build.fit_bind_foldlM 0 xs
  rw [build.fit_of_lt (Nat.two_pow_pos w), Nat.zero_add] at hchain
  exact hchain

/-! ## Totals that all builds tell -/

theorem toNat_saturated (w n : ℕ) : (saturated w n).toNat = min n (2 ^ w - 1) := by
  have hlt : min n (2 ^ w - 1) < 2 ^ w :=
    Nat.lt_of_le_of_lt (Nat.min_le_right _ _) (Nat.sub_one_lt_of_lt (Nat.two_pow_pos w))
  rw [saturated, BitVec.toNat_ofNat, Nat.mod_eq_of_lt hlt]

theorem saturated_of_lt (h : n < 2 ^ w) : saturated w n = BitVec.ofNat w n := by
  rw [saturated, Nat.min_eq_left (Nat.le_sub_one_of_lt h)]

/-- Where a total is too great, the build for debugging panics. -/
theorem forall_fit_eq_saturated_iff :
    (∀ build : Build, build.fit w n = some (saturated w n)) ↔ n < 2 ^ w := by
  constructor
  · intro h
    by_contra hlarge
    have hpanic : Build.debug.fit w n = none := if_neg hlarge
    exact absurd (hpanic.symm.trans (h .debug)) nofun
  · intro h build
    rw [build.fit_of_lt h, saturated_of_lt h]

/-- Whatever type has the sum in it. -/
theorem forall_map_fit_eq_iff {α : Type} {f : BitVec w → α} (hf : Function.Injective f) :
    (∀ build : Build, (build.fit w n).map f = some (f (saturated w n))) ↔ n < 2 ^ w := by
  rw [← forall_fit_eq_saturated_iff]
  exact forall_congr' fun build => (Option.map_injective hf).eq_iff (b := some (saturated w n))

end OverflowChecks
