import Mathlib.Algebra.Order.Field.Basic
import Mathlib.Tactic.Linarith
import Mathlib.Tactic.Ring
import Muxtop.Foundation.Runs

/-!
# Token buckets

A bucket holds at most `capacity` tokens and gains `rate` of them per unit of time. An attempt is
admitted when a whole token is there, which it takes. The bucket is refilled lazily: it records
what it held when it was last touched, and its level at a later time is computed from that.

The level at a time is all there is to observe of a bucket from then on (`take_of_level_eq`), so a
bucket that is full cannot be told from a new one, and no stretch of time of length `T` sees more
than `capacity + rate * T` admissions (`admitted_le_capacity_add`).
-/

/-- How a bucket fills: tokens per unit of time, and the most it holds. -/
structure TokenBucket.Policy (K : Type*) where
  rate : K
  capacity : K

/-- The tokens a bucket held when it was last touched, and when that was. -/
@[ext] structure TokenBucket (K : Type*) where
  tokens : K
  touched : K
  deriving DecidableEq

namespace TokenBucket

variable {K : Type*} [Field K] [LinearOrder K]

/-- A bucket that was full at time zero. -/
def full (policy : Policy K) : TokenBucket K where
  tokens := policy.capacity
  touched := 0

/-- The tokens the bucket holds at time `t`. -/
def level (policy : Policy K) (b : TokenBucket K) (t : K) : K :=
  min (b.tokens + (t - b.touched) * policy.rate) policy.capacity

/-- Whether an attempt at time `t` finds a whole token. -/
def admits (policy : Policy K) (b : TokenBucket K) (t : K) : Bool := 1 ≤ b.level policy t

/-- The bucket after an attempt at time `t`. -/
def take (policy : Policy K) (b : TokenBucket K) (t : K) : TokenBucket K where
  tokens := if b.admits policy t then b.level policy t - 1 else b.level policy t
  touched := t

/-- The bucket after attempts at the given times. -/
def after (policy : Policy K) (b : TokenBucket K) (times : List K) : TokenBucket K :=
  Runs.run (take policy) b times

/-- How many of the attempts at the given times are admitted. -/
def admitted (policy : Policy K) : TokenBucket K → List K → ℕ
  | _, [] => 0
  | b, t :: times => (b.admits policy t).toNat + (b.take policy t).admitted policy times

/-- A bucket after two series of attempts. -/
theorem after_append (policy : Policy K) (b : TokenBucket K) (before times : List K) :
    b.after policy (before ++ times) = (b.after policy before).after policy times :=
  Runs.run_append _ _ _ _

/-- What is admitted in two series. -/
theorem admitted_append (policy : Policy K) :
    (before : List K) → (b : TokenBucket K) → (times : List K) →
      b.admitted policy (before ++ times) =
        b.admitted policy before + (b.after policy before).admitted policy times
  | [], b, times => (Nat.zero_add _).symm
  | t :: before, b, times => by
    rw [List.cons_append, admitted, admitted, admitted_append policy before, Nat.add_assoc]
    rfl

section Level

variable {policy : Policy K} {b : TokenBucket K} {s t : K}

/-- A bucket is never more than full. -/
theorem level_le_capacity : b.level policy t ≤ policy.capacity := min_le_right _ _

/-- A full one is full. -/
@[simp] theorem level_full_zero : (full policy).level policy 0 = policy.capacity := by
  simp [level, full]

/-- Buckets of one level admit alike. -/
theorem admits_of_level_eq {b' : TokenBucket K} (h : b.level policy t = b'.level policy t) :
    b.admits policy t = b'.admits policy t := by
  simp only [admits, h]

/-- Two buckets of one level are one bucket from then on. -/
theorem take_of_level_eq {b' : TokenBucket K} (h : b.level policy t = b'.level policy t) :
    b.take policy t = b'.take policy t := by
  simp only [take, admits_of_level_eq h, h]

variable [IsStrictOrderedRing K]

/-- A bucket only fills while nothing is taken. -/
theorem level_mono (hrate : 0 ≤ policy.rate) (hst : s ≤ t) :
    b.level policy s ≤ b.level policy t :=
  min_le_min_right _ (by
    have := mul_le_mul_of_nonneg_right (sub_le_sub_right hst b.touched) hrate
    linarith)

/-- A bucket that is full stays full while nothing is taken. -/
theorem level_eq_capacity_of_le (hrate : 0 ≤ policy.rate) (hst : s ≤ t)
    (hfull : b.level policy s = policy.capacity) : b.level policy t = policy.capacity :=
  le_antisymm level_le_capacity (hfull ▸ level_mono hrate hst)

/-- What is left after an attempt, at a later time, is at most what was there and the refill. -/
theorem level_take_le (policy : Policy K) (b : TokenBucket K) (s t : K) :
    ((b.take policy s).level policy t) + ((b.admits policy s).toNat : K) ≤
      b.level policy s + (t - s) * policy.rate := by
  have hlevel : (b.take policy s).level policy t ≤
      (b.take policy s).tokens + (t - s) * policy.rate := min_le_left _ _
  cases hadmits : b.admits policy s <;>
    · simp only [take, hadmits, Bool.toNat_true, Bool.toNat_false, Nat.cast_one,
        Nat.cast_zero, Bool.false_eq_true, if_true, if_false] at hlevel ⊢
      linarith

/-- No attempt overdraws the bucket. -/
theorem tokens_take_nonneg (h : 0 ≤ b.level policy t) : 0 ≤ (b.take policy t).tokens := by
  simp only [take]
  split
  case isTrue hadmits =>
    have : 1 ≤ b.level policy t := by simpa [admits] using hadmits
    linarith
  case isFalse => exact h

/-- A bucket is never less than empty. -/
theorem level_nonneg (hrate : 0 ≤ policy.rate) (hcapacity : 0 ≤ policy.capacity)
    (htokens : 0 ≤ b.tokens) (ht : b.touched ≤ t) : 0 ≤ b.level policy t :=
  le_min (add_nonneg htokens (mul_nonneg (sub_nonneg.mpr ht) hrate)) hcapacity

end Level

/-- A bucket that was touched in the past and is not overdrawn. -/
structure Settled (b : TokenBucket K) (t : K) : Prop where
  tokens_nonneg : 0 ≤ b.tokens
  touched_le : b.touched ≤ t

/-- A settled bucket stays so as time passes. -/
theorem Settled.mono {b : TokenBucket K} {s t : K} (h : b.Settled s) (hst : s ≤ t) : b.Settled t :=
  ⟨h.tokens_nonneg, h.touched_le.trans hst⟩

/-- A full bucket is settled from the start. -/
theorem settled_full {policy : Policy K} (hcapacity : 0 ≤ policy.capacity) {t : K} (ht : 0 ≤ t) :
    (full policy).Settled t :=
  ⟨hcapacity, ht⟩

section Window

variable {policy : Policy K} [IsStrictOrderedRing K]

/-- An attempt leaves a bucket settled. -/
theorem Settled.take {b : TokenBucket K} {t : K} (hrate : 0 ≤ policy.rate)
    (hcapacity : 0 ≤ policy.capacity) (h : b.Settled t) : (b.take policy t).Settled t :=
  ⟨tokens_take_nonneg (level_nonneg hrate hcapacity h.tokens_nonneg h.touched_le), le_rfl⟩

/-- From the first attempt on, no more are admitted than there were tokens and are refilled. -/
theorem admitted_cons_le (hrate : 0 ≤ policy.rate) (hcapacity : 0 ≤ policy.capacity) {stop : K} :
    (times : List K) → {b : TokenBucket K} → {t : K} → (t :: times).Pairwise (· ≤ ·) →
      (∀ s ∈ t :: times, s ≤ stop) → b.Settled t →
      (b.admitted policy (t :: times) : K) ≤ b.level policy t + (stop - t) * policy.rate
  | [], b, t, _, hstop, hb => by
    have hnext := level_take_le policy b t t
    have hleft : 0 ≤ (b.take policy t).level policy t :=
      level_nonneg hrate hcapacity (hb.take hrate hcapacity).tokens_nonneg le_rfl
    have hgain : 0 ≤ (stop - t) * policy.rate :=
      mul_nonneg (sub_nonneg.mpr (hstop t (by simp))) hrate
    rw [sub_self, zero_mul] at hnext
    simp only [admitted, add_zero]
    linarith
  | u :: times, b, t, hsorted, hstop, hb => by
    have htu : t ≤ u := List.rel_of_pairwise_cons hsorted (by simp)
    -- what is left at `u` is what there was at `t` and the refill, less the token taken
    have hrest := admitted_cons_le hrate hcapacity times (List.Pairwise.of_cons hsorted)
      (fun s hs => hstop s (List.mem_cons_of_mem _ hs)) ((hb.take hrate hcapacity).mono htu)
    have hnext := level_take_le policy b t u
    have hsplit : (u - t) * policy.rate + (stop - u) * policy.rate = (stop - t) * policy.rate := by
      ring
    rw [admitted, Nat.cast_add]
    linarith

/-- In a stretch of time of length `T`, at most `capacity + rate * T` attempts are admitted. -/
theorem admitted_le_capacity_add (hrate : 0 ≤ policy.rate) (hcapacity : 0 ≤ policy.capacity)
    {b : TokenBucket K} {start T : K} (hT : 0 ≤ T) {times : List K}
    (hsorted : times.Pairwise (· ≤ ·)) (hwindow : ∀ t ∈ times, start ≤ t ∧ t ≤ start + T)
    (hb : ∀ t ∈ times, b.Settled t) :
    (b.admitted policy times : K) ≤ policy.capacity + policy.rate * T := by
  cases times with
  | nil => simpa [admitted] using add_nonneg hcapacity (mul_nonneg hrate hT)
  | cons t times =>
    have hbound := admitted_cons_le hrate hcapacity times hsorted
      (fun s hs => (hwindow s hs).2) (hb t (by simp))
    have hlevel : b.level policy t ≤ policy.capacity := level_le_capacity
    have hlength : (start + T - t) * policy.rate ≤ T * policy.rate :=
      mul_le_mul_of_nonneg_right (by linarith [(hwindow t (by simp)).1]) hrate
    rw [mul_comm policy.rate]
    linarith

/-- Attempts in the past leave a bucket settled. -/
theorem Settled.after (hrate : 0 ≤ policy.rate) (hcapacity : 0 ≤ policy.capacity) {t : K} :
    (times : List K) → {b : TokenBucket K} → {s : K} → times.Pairwise (· ≤ ·) →
      (∀ u ∈ times, s ≤ u ∧ u ≤ t) → s ≤ t → b.Settled s → (b.after policy times).Settled t
  | [], _, _, _, _, hst, hb => hb.mono hst
  | u :: times, _, _, hsorted, hbounds, _, hb =>
    Settled.after hrate hcapacity times hsorted.of_cons
      (fun v hv => ⟨List.rel_of_pairwise_cons hsorted hv, (hbounds v (by simp [hv])).2⟩)
      (hbounds u (by simp)).2 ((hb.mono (hbounds u (by simp)).1).take hrate hcapacity)

end Window

end TokenBucket
