import Mathlib.Algebra.Field.Rat
import Mathlib.Algebra.Order.Ring.Rat
import Muxtop.Foundation.TokenBucket
import Muxtop.Server.RateLimit

/-!
# One token bucket for every source

What the rate limiter is for: every source address has a token bucket of its own, full at first,
and an attempt is admitted when the bucket of its source holds a token. The limiter keeps a bucket
only for the sources it tracks. `Tracks` relates the two: a tracked source's entry is its bucket,
and the bucket of a source that is not tracked is full. Sweeps keep the relation because they drop
full buckets only, and a full bucket stays full.

An attempt that the ceiling turns away never reaches its bucket, so the buckets see the attempts
that are charged to them (`charged`); below the ceiling these are all the attempts of the source.
-/

namespace Muxtop.Server

/-- The bucket as an ideal one, in seconds. -/
def Bucket.ideal (self : Bucket) : TokenBucket ℚ where
  tokens := self.tokens
  touched := Duration.asSecs self.lastRefill

def Call.secs (self : Call) : ℚ := Duration.asSecs self.now

theorem Duration.asSecs_le {d d' : Duration} (h : d ≤ d') : d.asSecs ≤ d'.asSecs :=
  div_le_div_of_nonneg_right (Nat.cast_le.mpr h) (by norm_num)

theorem Duration.asSecs_nonneg (d : Duration) : 0 ≤ d.asSecs :=
  div_nonneg (Nat.cast_nonneg _) (by norm_num)

namespace RateLimiter

def policy (limiter : RateLimiter) : TokenBucket.Policy ℚ where
  rate := limiter.refillPerSec
  capacity := limiter.burst

/-- The times of the attempts of a source. -/
def attempts (ip : IpAddr) (calls : List Call) : List ℚ :=
  (calls.filter (·.ip = ip)).map Call.secs

/-- The ceiling turns the attempt away: its source is unknown, and the map is full even after the
sweep that may be due. -/
def turnedAway (limiter : RateLimiter) (state : LimiterState) (call : Call) : Prop :=
  call.ip ∉ state.buckets ∧ limiter.maxTracked ≤ (limiter.sweepIfDue state call.now).buckets.size

instance (limiter : RateLimiter) (state : LimiterState) (call : Call) :
    Decidable (limiter.turnedAway state call) :=
  inferInstanceAs (Decidable (_ ∧ _))

/-- What an attempt charges to the bucket of a source. -/
def chargedBy (limiter : RateLimiter) (ip : IpAddr) (state : LimiterState) (call : Call) : List ℚ :=
  if call.ip = ip ∧ ¬ limiter.turnedAway state call then [call.secs] else []

/-- The times of the attempts of a source that the ceiling does not turn away. -/
def charged (limiter : RateLimiter) (ip : IpAddr) : LimiterState → List Call → List ℚ
  | _, [] => []
  | state, call :: calls =>
    limiter.chargedBy ip state call ++ limiter.charged ip (limiter.step state call) calls

/-- The ideal buckets after an attempt: the source's own bucket is charged. -/
def charge (limiter : RateLimiter) (buckets : IpAddr → TokenBucket ℚ) (call : Call) :
    IpAddr → TokenBucket ℚ :=
  Function.update buckets call.ip ((buckets call.ip).take limiter.policy call.secs)

/-- The map of the limiter stands for a bucket for every source, as of `now`. -/
structure Tracks (limiter : RateLimiter) (ideals : IpAddr → TokenBucket ℚ) (now : Instant)
    (buckets : AList fun _ : IpAddr => Bucket) : Prop where
  tracked : ∀ ip b, buckets.lookup ip = some b → b.ideal = ideals ip ∧ b.lastRefill ≤ now
  untracked : ∀ ip, buckets.lookup ip = none →
    (ideals ip).level limiter.policy (Duration.asSecs now) = limiter.burst

variable {limiter : RateLimiter} {ideals : IpAddr → TokenBucket ℚ}

/-! ## What one attempt does -/

theorem refilledAt_eq_level {b : Bucket} {now : Instant} (h : b.lastRefill ≤ now) :
    b.refilledAt now limiter.refillPerSec limiter.burst =
      b.ideal.level limiter.policy (Duration.asSecs now) := by
  simp only [Bucket.refilledAt, TokenBucket.level, policy, Bucket.ideal, Instant.durationSince,
    Duration.asSecs, Nat.cast_sub h, sub_div]

/-- Every way an attempt can go: the ceiling turns it away, or a bucket is debited. -/
theorem tryAdmit_cases (hrate : limiter.refillPerSec ≠ 0) (state : LimiterState) (call : Call) :
    (limiter.turnedAway state call ∧ limiter.tryAdmit state call.ip call.now =
      (false, { limiter.sweepIfDue state call.now with ceilingLogged := true })) ∨
    (¬ limiter.turnedAway state call ∧ ∃ kept : LimiterState,
      (kept = state ∧ call.ip ∈ state.buckets ∨
        kept = { limiter.sweepIfDue state call.now with ceilingLogged := false } ∧
          call.ip ∉ state.buckets) ∧
      limiter.tryAdmit state call.ip call.now = limiter.debit kept call.ip call.now) := by
  by_cases hmem : call.ip ∈ state.buckets
  · refine Or.inr ⟨fun h => h.1 hmem, state, Or.inl ⟨rfl, hmem⟩, ?_⟩
    rw [tryAdmit, if_neg hrate, if_pos hmem]
  · by_cases hfull : limiter.maxTracked ≤ (limiter.sweepIfDue state call.now).buckets.size
    · refine Or.inl ⟨⟨hmem, hfull⟩, ?_⟩
      simp only [tryAdmit, if_neg hrate, if_neg hmem, if_pos hfull]
    · refine Or.inr ⟨fun h => hfull h.2,
        { limiter.sweepIfDue state call.now with ceilingLogged := false }, Or.inr ⟨rfl, hmem⟩, ?_⟩
      simp only [tryAdmit, if_neg hrate, if_neg hmem, if_neg hfull]

theorem Tracks.mono (hrate : 0 < limiter.refillPerSec) {s t : Instant} {buckets}
    (h : limiter.Tracks ideals s buckets) (hst : s ≤ t) : limiter.Tracks ideals t buckets where
  tracked ip b hb := ⟨(h.tracked ip b hb).1, (h.tracked ip b hb).2.trans hst⟩
  untracked ip hb :=
    TokenBucket.level_eq_capacity_of_le hrate.le (Duration.asSecs_le hst) (h.untracked ip hb)

/-- An entry that a sweep drops stands for a full bucket. -/
theorem level_eq_burst_of_swept {now : Instant} {buckets} (h : limiter.Tracks ideals now buckets)
    {ip : IpAddr} {b : Bucket} (hb : buckets.lookup ip = some b)
    (hdropped : ¬ b.refilledAt now limiter.refillPerSec limiter.burst < limiter.burst) :
    (ideals ip).level limiter.policy (Duration.asSecs now) = limiter.burst := by
  obtain ⟨hideal, htouched⟩ := h.tracked ip b hb
  rw [refilledAt_eq_level htouched, hideal, not_lt] at hdropped
  exact le_antisymm TokenBucket.level_le_capacity hdropped

/-- A sweep cannot be observed. -/
theorem Tracks.sweepIfDue {now : Instant} {state : LimiterState}
    (h : limiter.Tracks ideals now state.buckets) :
    limiter.Tracks ideals now (limiter.sweepIfDue state now).buckets := by
  rw [RateLimiter.sweepIfDue]
  split
  case isFalse => exact h
  case isTrue =>
    constructor
    case tracked =>
      intro ip b hb
      rw [LimiterState.sweep, AList.lookup_retain, Option.filter_eq_some_iff] at hb
      exact h.tracked ip b hb.1
    case untracked =>
      intro ip hnone
      rw [LimiterState.sweep, AList.lookup_retain] at hnone
      cases hb : state.buckets.lookup ip with
      | none => exact h.untracked ip hb
      | some b =>
        rw [hb, Option.filter_some, ite_eq_right_iff] at hnone
        exact level_eq_burst_of_swept h hb fun hkeep => by simpa using hnone (by simpa using hkeep)

/-- The entry that an attempt debits, a new one or not, has the level of the source's bucket. -/
theorem Tracks.level_getD {now : Instant} {buckets} (h : limiter.Tracks ideals now buckets)
    (ip : IpAddr) :
    ((buckets.lookup ip).getD ⟨now, limiter.burst⟩).lastRefill ≤ now ∧
      ((buckets.lookup ip).getD ⟨now, limiter.burst⟩).ideal.level limiter.policy
          (Duration.asSecs now) =
        (ideals ip).level limiter.policy (Duration.asSecs now) := by
  cases hb : buckets.lookup ip with
  | none =>
    rw [h.untracked ip hb, Option.getD_none]
    exact ⟨le_rfl, by simp [TokenBucket.level, Bucket.ideal, policy]⟩
  | some b =>
    obtain ⟨hideal, htouched⟩ := h.tracked ip b hb
    rw [Option.getD_some, hideal]
    exact ⟨htouched, rfl⟩

/-- A debit answers and leaves its entry as taking from the bucket does. -/
theorem debit_eq_take {state : LimiterState} {ip : IpAddr} {now : Instant} {b : Bucket}
    (hb : (state.buckets.lookup ip).getD ⟨now, limiter.burst⟩ = b) (htouched : b.lastRefill ≤ now) :
    limiter.debit state ip now =
      (b.ideal.admits limiter.policy (Duration.asSecs now),
        { state with
          buckets := state.buckets.insert ip
            { lastRefill := now
              tokens := (b.ideal.take limiter.policy (Duration.asSecs now)).tokens } }) := by
  simp only [RateLimiter.debit, hb, refilledAt_eq_level htouched, TokenBucket.admits,
    TokenBucket.take]
  split <;> simp [*]

/-- Debiting the entry is charging the source's bucket. -/
theorem Tracks.debit {state : LimiterState} {call : Call}
    (h : limiter.Tracks ideals call.now state.buckets) :
    (limiter.debit state call.ip call.now).1 =
        (ideals call.ip).admits limiter.policy call.secs ∧
      limiter.Tracks (limiter.charge ideals call) call.now
        (limiter.debit state call.ip call.now).2.buckets := by
  obtain ⟨htouched, hlevel⟩ := h.level_getD call.ip
  -- a new entry and the bucket of an unknown source differ, but not in their level from now on
  rw [debit_eq_take rfl htouched, TokenBucket.admits_of_level_eq hlevel,
    TokenBucket.take_of_level_eq hlevel]
  refine ⟨rfl, ?_, ?_⟩
  · intro ip b hb
    rw [AList.lookup_insert_eq] at hb
    rw [charge, Function.update_apply]
    split at hb <;> rename_i hip
    · rw [if_pos hip, ← Option.some.inj hb]
      exact ⟨rfl, le_rfl⟩
    · rw [if_neg hip]
      exact h.tracked ip b hb
  · intro ip hnone
    rw [AList.lookup_insert_eq] at hnone
    split at hnone <;> rename_i hip
    · contradiction
    · rw [charge, Function.update_of_ne hip]
      exact h.untracked ip hnone

/-- An attempt that the ceiling does not turn away is answered by its source's bucket. -/
theorem Tracks.step_of_not_turnedAway (hrate : limiter.refillPerSec ≠ 0) {state : LimiterState}
    {call : Call} (h : limiter.Tracks ideals call.now state.buckets)
    (hcharged : ¬ limiter.turnedAway state call) :
    limiter.answer state call = (ideals call.ip).admits limiter.policy call.secs ∧
      limiter.Tracks (limiter.charge ideals call) call.now (limiter.step state call).buckets := by
  obtain ⟨haway, -⟩ | ⟨-, kept, hkept, htry⟩ := tryAdmit_cases hrate state call
  · exact absurd haway hcharged
  · have htracks : limiter.Tracks ideals call.now kept.buckets := by
      obtain ⟨rfl, -⟩ | ⟨hswept, -⟩ := hkept
      · exact h
      · rw [hswept]
        exact h.sweepIfDue
    rw [answer, step, htry]
    exact htracks.debit

/-- An attempt that the ceiling turns away leaves every bucket as it is. -/
theorem Tracks.step_of_turnedAway (hrate : limiter.refillPerSec ≠ 0) {state : LimiterState}
    {call : Call} (h : limiter.Tracks ideals call.now state.buckets)
    (haway : limiter.turnedAway state call) :
    limiter.answer state call = false ∧
      limiter.Tracks ideals call.now (limiter.step state call).buckets := by
  obtain ⟨-, htry⟩ | ⟨hcharged, -⟩ := tryAdmit_cases hrate state call
  · rw [answer, step, htry]
    exact ⟨rfl, h.sweepIfDue⟩
  · exact absurd haway hcharged

/-- What an attempt does to the buckets: each takes what the attempt charges to it, and the answer
is that of the source's own. -/
theorem Tracks.step (hrate : limiter.refillPerSec ≠ 0) {state : LimiterState} {call : Call}
    (h : limiter.Tracks ideals call.now state.buckets) :
    limiter.Tracks (fun ip => (ideals ip).after limiter.policy (limiter.chargedBy ip state call))
        call.now (limiter.step state call).buckets ∧
      ∀ ip, (if call.ip = ip ∧ limiter.answer state call then 1 else 0) =
        (ideals ip).admitted limiter.policy (limiter.chargedBy ip state call) := by
  by_cases haway : limiter.turnedAway state call
  · obtain ⟨hrefused, htracks⟩ := h.step_of_turnedAway hrate haway
    have hnone : ∀ ip, limiter.chargedBy ip state call = [] := fun ip => by simp [chargedBy, haway]
    simp only [hnone, hrefused]
    exact ⟨htracks, by simp [TokenBucket.admitted]⟩
  · obtain ⟨hanswer, htracks⟩ := h.step_of_not_turnedAway hrate haway
    -- only the bucket of the source is charged
    have hcharged : ∀ ip, limiter.chargedBy ip state call =
        if call.ip = ip then [call.secs] else [] := fun ip => by simp [chargedBy, haway]
    have hcharge : (fun ip => (ideals ip).after limiter.policy (limiter.chargedBy ip state call)) =
        limiter.charge ideals call := by
      funext ip
      rw [hcharged, charge, Function.update_apply]
      by_cases hip : call.ip = ip
      · rw [if_pos hip, if_pos hip.symm, hip]
        rfl
      · rw [if_neg hip, if_neg (Ne.symm hip)]
        rfl
    refine ⟨hcharge ▸ htracks, fun ip => ?_⟩
    rw [hcharged, hanswer]
    by_cases hip : call.ip = ip
    · subst hip
      cases hadmits : (ideals call.ip).admits limiter.policy call.secs <;>
        simp [TokenBucket.admitted, hadmits]
    · simp [hip, TokenBucket.admitted]

/-! ## What a run does -/

/-- After a run, the map stands for the buckets with the attempts charged to them. -/
theorem Tracks.run (hrate : 0 < limiter.refillPerSec) {stop : Instant} :
    (calls : List Call) → {ideals : IpAddr → TokenBucket ℚ} → {state : LimiterState} →
      {now : Instant} → limiter.Tracks ideals now state.buckets → now ≤ stop →
      (∀ call ∈ calls, now ≤ call.now ∧ call.now ≤ stop) → calls.Pairwise (·.now ≤ ·.now) →
      limiter.Tracks (fun ip => (ideals ip).after limiter.policy (limiter.charged ip state calls))
        stop (limiter.run state calls).buckets
  | [], _, _, _, h, hstop, _, _ => h.mono hrate hstop
  | call :: calls, ideals, state, now, h, _, hbounds, hsorted => by
    obtain ⟨hnow, hstop⟩ := hbounds call (by simp)
    have hstep := ((h.mono hrate hnow).step hrate.ne').1
    have hrun := Tracks.run hrate calls hstep hstop
      (fun c hc => ⟨List.rel_of_pairwise_cons hsorted hc, (hbounds c (by simp [hc])).2⟩)
      hsorted.of_cons
    simpa only [charged, TokenBucket.after_append, run_cons] using hrun

/-- In a run, as many attempts of a source are admitted as its bucket admits. -/
theorem Tracks.admissions (hrate : 0 < limiter.refillPerSec) (ip : IpAddr) :
    (calls : List Call) → {ideals : IpAddr → TokenBucket ℚ} → {state : LimiterState} →
      {now : Instant} → limiter.Tracks ideals now state.buckets →
      (∀ call ∈ calls, now ≤ call.now) → calls.Pairwise (·.now ≤ ·.now) →
      limiter.admissions ip state calls =
        (ideals ip).admitted limiter.policy (limiter.charged ip state calls)
  | [], _, _, _, _, _, _ => rfl
  | call :: calls, ideals, state, now, h, hbounds, hsorted => by
    obtain ⟨htracks, hanswer⟩ := (h.mono hrate (hbounds call (by simp))).step hrate.ne'
    have hrest := Tracks.admissions hrate ip calls htracks
      (fun c hc => List.rel_of_pairwise_cons hsorted hc) hsorted.of_cons
    rw [RateLimiter.admissions, hrest, hanswer ip, charged, TokenBucket.admitted_append]

/-- At first no source is tracked and every bucket is full. -/
theorem tracks_initialState (limiter : RateLimiter) (created : Instant) :
    limiter.Tracks (fun _ => .full limiter.policy) 0 (initialState created).buckets where
  tracked ip b hb := by simp [initialState] at hb
  untracked ip _ := by simp [Duration.asSecs, policy]

/-- What is charged to a bucket is some of the attempts, in order. -/
theorem charged_sublist (limiter : RateLimiter) (ip : IpAddr) :
    (calls : List Call) → (state : LimiterState) →
      (limiter.charged ip state calls).Sublist (calls.map Call.secs)
  | [], _ => List.Sublist.slnil
  | call :: calls, state => by
    have hrest := limiter.charged_sublist ip calls (limiter.step state call)
    rw [charged, chargedBy]
    split
    · exact hrest.cons_cons _
    · exact hrest.cons _

theorem pairwise_secs {calls : List Call} (h : calls.Pairwise (·.now ≤ ·.now)) :
    (calls.map Call.secs).Pairwise (· ≤ ·) :=
  List.pairwise_map.mpr (h.imp Duration.asSecs_le)

end RateLimiter

end Muxtop.Server
