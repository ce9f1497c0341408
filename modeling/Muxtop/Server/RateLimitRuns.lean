import Muxtop.Server.RateLimitBuckets

/-!
# Runs of the rate limiter

Below the ceiling, the limiter is one token bucket for every source: it answers each attempt as the
bucket of its source does, whatever the other sources do and whenever the sweeps run. In every
stretch of time it therefore admits a source at most as often as one bucket can.

At the ceiling, a sweep does show. A source whose full bucket has been dropped is unknown again,
and an unknown source is turned away while the map is full: the ceiling takes in the sources it
tracks, not the sources it has ever admitted.
-/

namespace Muxtop.Server

namespace RateLimiter

variable {limiter : RateLimiter}

/-! ## Below the ceiling -/

/-- In each state that takes an attempt there is room for one more source. -/
abbrev Room (limiter : RateLimiter) (state : LimiterState) (calls : List Call) : Prop :=
  Runs.Along limiter.step (fun s _ => s.buckets.size < limiter.maxTracked) state calls

/-- A sweep tracks no more sources than before. -/
theorem size_sweepIfDue_le (limiter : RateLimiter) (state : LimiterState) (now : Instant) :
    (limiter.sweepIfDue state now).buckets.size ≤ state.buckets.size := by
  rw [sweepIfDue]
  split
  case isTrue => exact AList.size_retain_le _ _
  case isFalse => exact le_rfl

/-- Where there is room no source is turned away. -/
theorem not_turnedAway_of_room {state : LimiterState} {call : Call}
    (h : state.buckets.size < limiter.maxTracked) : ¬ limiter.turnedAway state call := fun haway =>
  absurd (haway.2.trans (limiter.size_sweepIfDue_le state call.now)) (Nat.not_le.mpr h)

/-- Where there is room, every attempt of a source is charged to it. -/
theorem charged_eq_attempts (ip : IpAddr) :
    (calls : List Call) → {state : LimiterState} → limiter.Room state calls →
      limiter.charged ip state calls = attempts ip calls
  | [], _, _ => rfl
  | call :: calls, state, h => by
    have hrest := charged_eq_attempts ip calls h.2
    have haway : ¬ limiter.turnedAway state call := not_turnedAway_of_room h.1
    rw [charged, hrest, chargedBy]
    by_cases hip : call.ip = ip <;> simp [attempts, hip, haway]

/-- The buckets after a run from the start. -/
def idealAfter (limiter : RateLimiter) (times : List ℚ) : TokenBucket ℚ :=
  (TokenBucket.full limiter.policy).after limiter.policy times

/-- Every run tracks the buckets that the sources would have by themselves. -/
theorem tracks_run (hrate : 0 < limiter.refillPerSec) (created : Instant) {before : List Call}
    {stop : Instant} (hsorted : before.Pairwise (·.now ≤ ·.now))
    (hstop : ∀ call ∈ before, call.now ≤ stop) :
    limiter.Tracks
      (fun ip => limiter.idealAfter (limiter.charged ip (initialState created) before)) stop
      (limiter.run (initialState created) before).buckets :=
  (limiter.tracks_initialState created).run hrate before (Nat.zero_le _)
    (fun call hcall => ⟨Nat.zero_le _, hstop call hcall⟩) hsorted

/-- Such a bucket is settled by the time of the last attempt. -/
theorem settled_idealAfter (hrate : 0 < limiter.refillPerSec) (hburst : 1 ≤ limiter.burst)
    (created : Instant) (ip : IpAddr) {before : List Call} {stop : Instant}
    (hsorted : before.Pairwise (·.now ≤ ·.now)) (hstop : ∀ call ∈ before, call.now ≤ stop) :
    (limiter.idealAfter (limiter.charged ip (initialState created) before)).Settled
      (Duration.asSecs stop) := by
  have hsub := limiter.charged_sublist ip before (initialState created)
  have hbounds : ∀ u ∈ limiter.charged ip (initialState created) before,
      0 ≤ u ∧ u ≤ Duration.asSecs stop := by
    intro u hu
    obtain ⟨call, hcall, rfl⟩ := List.mem_map.mp (hsub.subset hu)
    exact ⟨Duration.asSecs_nonneg _, Duration.asSecs_le (hstop call hcall)⟩
  have hcapacity : 0 ≤ limiter.policy.capacity := zero_le_one.trans hburst
  exact TokenBucket.Settled.after hrate.le hcapacity _ ((pairwise_secs hsorted).sublist hsub)
    hbounds (Duration.asSecs_nonneg _) (TokenBucket.settled_full hcapacity le_rfl)

/-- No source is admitted more often in a stretch of time than one bucket can. -/
theorem admissions_le (hrate : 0 < limiter.refillPerSec) (hburst : 1 ≤ limiter.burst)
    (created : Instant) {ip : IpAddr} {before window : List Call}
    (hsorted : (before ++ window).Pairwise (·.now ≤ ·.now)) {start T : ℚ} (hT : 0 ≤ T)
    (hwindow : ∀ call ∈ window, start ≤ call.secs ∧ call.secs ≤ start + T) :
    (limiter.admissions ip (limiter.run (initialState created) before) window : ℚ) ≤
      limiter.burst + limiter.refillPerSec * T := by
  have hcapacity : 0 ≤ limiter.burst := zero_le_one.trans hburst
  obtain ⟨hbefore, hlater, hcross⟩ := List.pairwise_append.mp hsorted
  cases window with
  | nil => simpa [admissions] using add_nonneg hcapacity (mul_nonneg hrate.le hT)
  | cons first window =>
    -- the bucket is looked at when the first attempt comes: the window may start before it
    have hfirst : ∀ call ∈ first :: window, first.now ≤ call.now := fun call hcall => by
      rcases List.mem_cons.mp hcall with rfl | hmem
      · exact le_rfl
      · exact List.rel_of_pairwise_cons hlater hmem
    have hpast : ∀ call ∈ before, call.now ≤ first.now := fun call hcall =>
      hcross call hcall first (by simp)
    have hsub := limiter.charged_sublist ip (first :: window)
      (limiter.run (initialState created) before)
    have hsettled := settled_idealAfter hrate hburst created ip hbefore hpast
    rw [(tracks_run hrate created hbefore hpast).admissions hrate ip (first :: window) hfirst hlater]
    have hcharged : ∀ t ∈ limiter.charged ip (limiter.run (initialState created) before)
        (first :: window), (start ≤ t ∧ t ≤ start + T) ∧ Duration.asSecs first.now ≤ t := by
      intro t ht
      obtain ⟨call, hcall, rfl⟩ := List.mem_map.mp (hsub.subset ht)
      exact ⟨hwindow call hcall, Duration.asSecs_le (hfirst call hcall)⟩
    exact TokenBucket.admitted_le_capacity_add hrate.le hcapacity hT
      ((pairwise_secs hlater).sublist hsub) (fun t ht => (hcharged t ht).1)
      fun t ht => hsettled.mono (hcharged t ht).2

/-- **The limiter is one token bucket for every source.** In a run that leaves room for one more
source, every attempt is answered as by a bucket that sees the attempts of its source only; and in
a stretch of time of `T` seconds a source is admitted at most `burst + refillPerSec * T` times. -/
theorem tryAdmit_refines_buckets (hrate : 0 < limiter.refillPerSec) (hburst : 1 ≤ limiter.burst)
    (created : Instant) {calls : List Call} (hsorted : calls.Pairwise (·.now ≤ ·.now))
    (hroom : limiter.Room (initialState created) calls) :
    (∀ before call rest, calls = before ++ call :: rest →
      limiter.answer (limiter.run (initialState created) before) call =
        (limiter.idealAfter (attempts call.ip before)).admits limiter.policy call.secs) ∧
    (∀ ip before window rest, calls = before ++ window ++ rest → ∀ start T : ℚ, 0 ≤ T →
      (∀ call ∈ window, start ≤ call.secs ∧ call.secs ≤ start + T) →
      (limiter.admissions ip (limiter.run (initialState created) before) window : ℚ) ≤
        limiter.burst + limiter.refillPerSec * T) := by
  constructor
  · rintro before call rest rfl
    obtain ⟨hbefore, -, hcross⟩ := List.pairwise_append.mp hsorted
    obtain ⟨hroom, hnext⟩ := (Runs.along_append _ before).mp hroom
    have htracks := tracks_run hrate created hbefore fun c hc => hcross c hc call (by simp)
    rw [← charged_eq_attempts call.ip before hroom]
    exact (htracks.step_of_not_turnedAway hrate.ne' (not_turnedAway_of_room hnext.1)).1
  · rintro ip before window rest rfl start T hT hwindow
    have hsorted := (List.pairwise_append.mp hsorted).1
    exact admissions_le hrate hburst created hsorted hT hwindow

/-- One token a second and no more than one, for the sources a test needs. -/
def oneASecond (maxTracked : ℕ) : RateLimiter where
  refillPerSec := 1
  burst := 1
  maxTracked := maxTracked

def sourceA : IpAddr := .v4 1
def sourceB : IpAddr := .v4 2

/-- A source is admitted, and comes back when the sweep for another one has dropped its bucket. -/
def returning : List Call :=
  [⟨sourceA, 0⟩, ⟨sourceB, Duration.fromSecs 30⟩, ⟨sourceA, Duration.fromSecs 30⟩]

theorem tryAdmit_refines_buckets_returning :
    (oneASecond 2).answer ((oneASecond 2).run (initialState 0) (returning.take 2))
        ⟨sourceA, Duration.fromSecs 30⟩ =
      ((oneASecond 2).idealAfter (attempts sourceA (returning.take 2))).admits
        (oneASecond 2).policy (Duration.asSecs (Duration.fromSecs 30)) ∧
    ((oneASecond 2).admissions sourceA (initialState 0) returning : ℚ) ≤ 1 + 1 * 30 := by
  have hsorted : returning.Pairwise (·.now ≤ ·.now) := by decide +kernel
  have hroom : (oneASecond 2).Room (initialState 0) returning := by decide +kernel
  have hrate : 0 < (oneASecond 2).refillPerSec := by decide
  have h := tryAdmit_refines_buckets hrate (by decide) 0 hsorted hroom
  exact ⟨h.1 (returning.take 2) ⟨sourceA, Duration.fromSecs 30⟩ [] rfl,
    h.2 sourceA [] returning [] rfl 0 30 (by decide) (by decide +kernel)⟩

/-! ## At the ceiling -/

/-- A source that is turned away is refused. -/
theorem answer_of_turnedAway (hrate : limiter.refillPerSec ≠ 0) {state : LimiterState}
    {call : Call} (h : limiter.turnedAway state call) : limiter.answer state call = false := by
  obtain ⟨-, htry⟩ | ⟨hcharged, -⟩ := tryAdmit_cases hrate state call
  · rw [answer, htry]
  · exact absurd h hcharged

/-- An attempt that the ceiling does not turn away leaves its source tracked. -/
theorem mem_step_of_not_turnedAway (hrate : limiter.refillPerSec ≠ 0) {state : LimiterState}
    {call : Call} (h : ¬ limiter.turnedAway state call) :
    call.ip ∈ (limiter.step state call).buckets := by
  obtain ⟨haway, -⟩ | ⟨-, kept, -, htry⟩ := tryAdmit_cases hrate state call
  · exact absurd haway h
  · rw [step, htry, debit]
    split <;> exact (AList.mem_insert _).mpr (Or.inl rfl)

/-- Only a sweep drops a source, and only one whose bucket is full. -/
theorem swept_of_notMem_step (hrate : limiter.refillPerSec ≠ 0) {state : LimiterState}
    {call : Call} {ideals : IpAddr → TokenBucket ℚ}
    (h : limiter.Tracks ideals call.now state.buckets) {ip : IpAddr} (hmem : ip ∈ state.buckets)
    (hdropped : ip ∉ (limiter.step state call).buckets) :
    sweepDue state call.now ∧ (ideals ip).level limiter.policy call.secs = limiter.burst := by
  -- a debit only adds a source
  have hswept : ip ∉ (limiter.sweepIfDue state call.now).buckets := by
    obtain ⟨-, htry⟩ | ⟨-, kept, hkept, htry⟩ := tryAdmit_cases hrate state call
    · rwa [step, htry] at hdropped
    · have hgone : ip ∉ kept.buckets := fun hin => hdropped (by
        rw [step, htry, debit]
        split <;> exact (AList.mem_insert _).mpr (Or.inr hin))
      obtain ⟨rfl, -⟩ | ⟨hkept, -⟩ := hkept
      · exact absurd hmem hgone
      · rwa [hkept] at hgone
  have hdue : sweepDue state call.now := by
    by_contra hnot
    rw [sweepIfDue, if_neg hnot] at hswept
    exact hswept hmem
  refine ⟨hdue, ?_⟩
  obtain ⟨b, hb⟩ := Option.isSome_iff_exists.mp (AList.lookup_isSome.mpr hmem)
  rw [sweepIfDue, if_pos hdue, LimiterState.sweep, ← AList.lookup_eq_none, AList.lookup_retain, hb,
    Option.filter_some, ite_eq_right_iff] at hswept
  exact level_eq_burst_of_swept h hb fun hkeep => by simpa using hswept (by simpa using hkeep)

/-- The bucket of a source, which sees its attempts less those the ceiling turned away. -/
def ownBucket (limiter : RateLimiter) (created : Instant) (ip : IpAddr) (before : List Call) :
    TokenBucket ℚ :=
  limiter.idealAfter (limiter.charged ip (initialState created) before)

/-- In the run, a sweep dropped the entry of a source while its bucket was full. -/
def Swept (limiter : RateLimiter) (created : Instant) (ip : IpAddr) (before : List Call) : Prop :=
  ∃ earlier call later, before = earlier ++ call :: later ∧
    sweepDue (limiter.run (initialState created) earlier) call.now ∧
    ip ∈ (limiter.run (initialState created) earlier).buckets ∧
    ip ∉ (limiter.run (initialState created) (earlier ++ [call])).buckets ∧
    (limiter.ownBucket created ip earlier).level limiter.policy call.secs = limiter.burst

/-- Some attempt of the source was admitted in the run. -/
def AdmittedIn (limiter : RateLimiter) (created : Instant) (ip : IpAddr) (before : List Call) :
    Prop :=
  ∃ earlier call later, before = earlier ++ call :: later ∧ call.ip = ip ∧
    limiter.answer (limiter.run (initialState created) earlier) call = true

/-- A source that was admitted and is no longer tracked was dropped by a sweep. -/
theorem swept_of_admittedIn (hrate : 0 < limiter.refillPerSec) {created : Instant} {ip : IpAddr}
    {before : List Call} (hsorted : before.Pairwise (·.now ≤ ·.now))
    (hadmitted : limiter.AdmittedIn created ip before)
    (hmem : ip ∉ (limiter.run (initialState created) before).buckets) :
    limiter.Swept created ip before := by
  obtain ⟨earlier, first, later, rfl, rfl, hanswer⟩ := hadmitted
  have hfirst : first.ip ∈
      (limiter.step (limiter.run (initialState created) earlier) first).buckets := by
    refine mem_step_of_not_turnedAway hrate.ne' fun haway => ?_
    rw [answer_of_turnedAway hrate.ne' haway] at hanswer
    contradiction
  -- it was tracked then and is not now, so some attempt in between dropped it
  rw [run_append, run_cons] at hmem
  obtain ⟨kept, call, rest, rfl, hkept, hlost⟩ :=
    Runs.exists_losing_step (I := fun s : LimiterState => first.ip ∈ s.buckets) later hfirst hmem
  have hcalls : earlier ++ first :: (kept ++ call :: rest) =
      (earlier ++ first :: kept) ++ call :: rest := by simp
  rw [hcalls] at hsorted
  obtain ⟨hbefore, -, hcross⟩ := List.pairwise_append.mp hsorted
  have htracks := tracks_run hrate created hbefore fun c hc => hcross c hc call (by simp)
  have hrun : limiter.run (initialState created) (earlier ++ first :: kept) =
      limiter.run (limiter.step (limiter.run (initialState created) earlier) first) kept := by
    rw [run_append, run_cons]
  have hin : first.ip ∈
      (limiter.run (initialState created) (earlier ++ first :: kept)).buckets := hrun ▸ hkept
  have hout : first.ip ∉ (limiter.step
      (limiter.run (initialState created) (earlier ++ first :: kept)) call).buckets := hrun ▸ hlost
  obtain ⟨hdue, hfull⟩ := swept_of_notMem_step hrate.ne' htracks hin hout
  exact ⟨earlier ++ first :: kept, call, rest, hcalls, hdue, hin,
    by rwa [run_append], hfull⟩

/-- **When a source that has been admitted is refused.** Its entry is in the map and its own bucket
holds less than a token; or a sweep has dropped its entry when its bucket was full, its bucket is
full, and the map is at the ceiling. -/
theorem refused_iff_of_admittedIn (hrate : 0 < limiter.refillPerSec) (hburst : 1 ≤ limiter.burst)
    (created : Instant) {before : List Call} {call : Call}
    (hsorted : (before ++ [call]).Pairwise (·.now ≤ ·.now))
    (hadmitted : limiter.AdmittedIn created call.ip before) :
    limiter.answer (limiter.run (initialState created) before) call = false ↔
      call.ip ∈ (limiter.run (initialState created) before).buckets ∧
          (limiter.ownBucket created call.ip before).level limiter.policy call.secs < 1 ∨
        limiter.turnedAway (limiter.run (initialState created) before) call ∧
          (limiter.ownBucket created call.ip before).level limiter.policy call.secs =
            limiter.burst ∧
          limiter.Swept created call.ip before := by
  obtain ⟨hbefore, -, hcross⟩ := List.pairwise_append.mp hsorted
  have htracks := tracks_run hrate created hbefore fun c hc => hcross c hc call (by simp)
  by_cases haway : limiter.turnedAway (limiter.run (initialState created) before) call
  · have hrefused := (htracks.step_of_turnedAway hrate.ne' haway).1
    have hfull := htracks.untracked call.ip (AList.lookup_eq_none.mpr haway.1)
    exact iff_of_true hrefused
      (Or.inr ⟨haway, hfull, swept_of_admittedIn hrate hbefore hadmitted haway.1⟩)
  · have hanswer := (htracks.step_of_not_turnedAway hrate.ne' haway).1
    have hempty : limiter.answer (limiter.run (initialState created) before) call = false ↔
        (limiter.ownBucket created call.ip before).level limiter.policy call.secs < 1 := by
      rw [hanswer, TokenBucket.admits, decide_eq_false_iff_not, not_le]
      rfl
    rw [hempty]
    refine ⟨fun hlevel => Or.inl ⟨?_, hlevel⟩, fun h => h.elim And.right fun h => absurd h.1 haway⟩
    -- an unknown source has a full bucket, which holds a token
    by_contra hunknown
    have hfull := htracks.untracked call.ip (AList.lookup_eq_none.mpr hunknown)
    exact absurd (hfull.symm.trans_lt hlevel) (not_lt.mpr hburst)

theorem refused_iff_of_admittedIn_returning :
    (oneASecond 1).answer ((oneASecond 1).run (initialState 0) (returning.take 2))
        ⟨sourceA, Duration.fromSecs 30⟩ = false ↔
      sourceA ∈ ((oneASecond 1).run (initialState 0) (returning.take 2)).buckets ∧
          ((oneASecond 1).ownBucket 0 sourceA (returning.take 2)).level (oneASecond 1).policy
            (Duration.asSecs (Duration.fromSecs 30)) < 1 ∨
        (oneASecond 1).turnedAway ((oneASecond 1).run (initialState 0) (returning.take 2))
            ⟨sourceA, Duration.fromSecs 30⟩ ∧
          ((oneASecond 1).ownBucket 0 sourceA (returning.take 2)).level (oneASecond 1).policy
            (Duration.asSecs (Duration.fromSecs 30)) = 1 ∧
          (oneASecond 1).Swept 0 sourceA (returning.take 2) := by
  have hadmitted : (oneASecond 1).AdmittedIn 0 sourceA (returning.take 2) :=
    ⟨[], ⟨sourceA, 0⟩, [⟨sourceB, Duration.fromSecs 30⟩], rfl, rfl, by decide +kernel⟩
  have hsorted : returning.Pairwise (·.now ≤ ·.now) := by decide +kernel
  have hrate : 0 < (oneASecond 1).refillPerSec := by decide
  exact refused_iff_of_admittedIn hrate (by decide) 0 hsorted hadmitted

/-- An attempt is refused only when the bucket fed by all attempts of its source is empty. -/
def RefusedOnlyWhenEmpty (limiter : RateLimiter) (created : Instant) (before : List Call)
    (call : Call) : Prop :=
  limiter.answer (limiter.run (initialState created) before) call = false →
    (limiter.idealAfter (attempts call.ip before)).level limiter.policy call.secs < 1

instance (limiter : RateLimiter) (created : Instant) (before : List Call) (call : Call) :
    Decidable (limiter.RefusedOnlyWhenEmpty created before call) :=
  inferInstanceAs (Decidable (_ → _))

/-- A source that was admitted, and whose bucket is full, is turned away: the sweep for the other
source dropped its entry, and the map has no room for it. -/
theorem not_refusedOnlyWhenEmpty_returning :
    ¬ ∀ (limiter : RateLimiter) (created : Instant) (before : List Call) (call : Call),
      0 < limiter.refillPerSec → 1 ≤ limiter.burst → 1 ≤ limiter.maxTracked →
      (before ++ [call]).Pairwise (·.now ≤ ·.now) → limiter.AdmittedIn created call.ip before →
      limiter.RefusedOnlyWhenEmpty created before call := by
  intro h
  have hadmitted : (oneASecond 1).AdmittedIn 0 sourceA (returning.take 2) :=
    ⟨[], ⟨sourceA, 0⟩, [⟨sourceB, Duration.fromSecs 30⟩], rfl, rfl, by decide +kernel⟩
  have hempty := h (oneASecond 1) 0 (returning.take 2) ⟨sourceA, Duration.fromSecs 30⟩
    (by decide) (by decide) (by decide) (by decide +kernel) hadmitted
  exact absurd hempty (by decide +kernel)

-- The attempts that are turned away do not count: the one at 59.2 s finds no room, so the one at
-- 60.1 s takes the token that the one at 60.3 s would have found.
example : ¬ (oneASecond 1).RefusedOnlyWhenEmpty 0
    (returning.take 2 ++ [⟨sourceA, 59200000000⟩, ⟨sourceA, 60100000000⟩])
    ⟨sourceA, 60300000000⟩ := by
  decide +kernel

end RateLimiter

end Muxtop.Server
