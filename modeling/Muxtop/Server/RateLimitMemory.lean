import Muxtop.Server.RateLimitRuns

/-!
# The memory of the rate limiter

Whoever connects and however often, the map stays within the ceiling, every entry is a bucket that some
attempt has left behind, sweeps keep their distance and the log says once for each episode that the
ceiling was reached.
-/

namespace Muxtop.Server

namespace RateLimiter

/-- Whether an attempt sweeps the map: its source is unknown, and the sweep is due. -/
def Sweeps (limiter : RateLimiter) (state : LimiterState) (call : Call) : Prop :=
  limiter.refillPerSec ≠ 0 ∧ call.ip ∉ state.buckets ∧ sweepDue state call.now

/-- Whether an attempt logs that the ceiling was reached: it is turned away, and the first of its episode. -/
def Warns (limiter : RateLimiter) (state : LimiterState) (call : Call) : Prop :=
  limiter.refillPerSec ≠ 0 ∧ limiter.turnedAway state call ∧ state.ceilingLogged = false

/-- Whether an attempt gives an unknown source a bucket. -/
def Takes (limiter : RateLimiter) (state : LimiterState) (call : Call) : Prop :=
  call.ip ∉ state.buckets ∧ call.ip ∈ (limiter.step state call).buckets

/-- What the map may hold at a time. -/
structure Bounded (limiter : RateLimiter) (now : Instant) (state : LimiterState) : Prop where
  size_le : state.buckets.size ≤ limiter.maxTracked
  bucket : ∀ ip b, state.buckets.lookup ip = some b →
    0 ≤ b.tokens ∧ b.tokens ≤ limiter.burst ∧ b.lastRefill ≤ now

/-- What an attempt leaves written of itself: the time, if it sweeps and only then; the flag, raised if it
warns and only then; and without a sweep every other source keeps its bucket. -/
structure Books (limiter : RateLimiter) (state : LimiterState) (call : Call) : Prop where
  swept : limiter.Sweeps state call → (limiter.step state call).lastSweep = call.now
  unswept : ¬ limiter.Sweeps state call → (limiter.step state call).lastSweep = state.lastSweep
  warned : limiter.Warns state call ↔
    state.ceilingLogged = false ∧ (limiter.step state call).ceilingLogged = true
  others : ¬ limiter.Sweeps state call → ∀ ip ≠ call.ip,
    (limiter.step state call).buckets.lookup ip = state.buckets.lookup ip

variable {limiter : RateLimiter}

/-! ## One attempt -/

theorem Bounded.mono {s t : Instant} {state : LimiterState} (h : limiter.Bounded s state) (hst : s ≤ t) :
    limiter.Bounded t state where
  size_le := h.size_le
  bucket ip b hb := by
    obtain ⟨hnonneg, hle, htouched⟩ := h.bucket ip b hb
    exact ⟨hnonneg, hle, htouched.trans hst⟩

theorem bounded_initialState (limiter : RateLimiter) (created now : Instant) :
    limiter.Bounded now (initialState created) where
  size_le := Nat.zero_le _
  bucket ip b hb := by simp [initialState] at hb

/-- A sweep leaves some of the buckets, as they are. -/
theorem lookup_sweepIfDue {state : LimiterState} {now : Instant} {ip : IpAddr} {b : Bucket}
    (h : (limiter.sweepIfDue state now).buckets.lookup ip = some b) :
    state.buckets.lookup ip = some b := by
  rw [sweepIfDue] at h
  split at h
  case isTrue =>
    rw [LimiterState.sweep, AList.lookup_retain, Option.filter_eq_some_iff] at h
    exact h.1
  case isFalse => exact h

/-- The tokens of a refilled bucket. -/
theorem refilledAt_bounds (hrate : 0 < limiter.refillPerSec) (hburst : 1 ≤ limiter.burst) {b : Bucket}
    (h : 0 ≤ b.tokens) (now : Instant) :
    0 ≤ b.refilledAt now limiter.refillPerSec limiter.burst ∧
      b.refilledAt now limiter.refillPerSec limiter.burst ≤ limiter.burst := by
  have hgain : 0 ≤ (Instant.durationSince now b.lastRefill).asSecs * limiter.refillPerSec :=
    mul_nonneg (Duration.asSecs_nonneg _) hrate.le
  exact ⟨le_min (add_nonneg h hgain) (zero_le_one.trans hburst), min_le_right _ _⟩

/-- A debit writes one entry, whose bucket holds what it may. -/
theorem debit_spec (hrate : 0 < limiter.refillPerSec) (hburst : 1 ≤ limiter.burst) {now : Instant}
    {state : LimiterState}
    (h : ∀ ip b, state.buckets.lookup ip = some b →
      0 ≤ b.tokens ∧ b.tokens ≤ limiter.burst ∧ b.lastRefill ≤ now)
    (ip : IpAddr) :
    ∃ tokens, 0 ≤ tokens ∧ tokens ≤ limiter.burst ∧
      (limiter.debit state ip now).2 =
        { state with buckets := state.buckets.insert ip ⟨now, tokens⟩ } := by
  have hentry : 0 ≤ ((state.buckets.lookup ip).getD ⟨now, limiter.burst⟩).tokens := by
    cases hb : state.buckets.lookup ip with
    | none => exact zero_le_one.trans hburst
    | some b => exact (h ip b hb).1
  obtain ⟨hnonneg, hle⟩ := refilledAt_bounds hrate hburst hentry now
  unfold debit
  dsimp only
  split_ifs with htoken
  · exact ⟨_, sub_nonneg.2 htoken, (sub_le_self _ zero_le_one).trans hle, rfl⟩
  · exact ⟨_, hnonneg, hle, rfl⟩

/-- A debit keeps the bounds where its source is known or there is room. -/
theorem Bounded.debit (hrate : 0 < limiter.refillPerSec) (hburst : 1 ≤ limiter.burst) {now : Instant}
    {state : LimiterState} (h : limiter.Bounded now state) {ip : IpAddr}
    (hroom : ip ∈ state.buckets ∨ state.buckets.size < limiter.maxTracked) :
    limiter.Bounded now (limiter.debit state ip now).2 := by
  obtain ⟨tokens, hnonneg, hle, heq⟩ := debit_spec hrate hburst h.bucket ip
  rw [heq]
  constructor
  case size_le =>
    dsimp only
    by_cases hmem : ip ∈ state.buckets
    · rw [AList.size_insert_of_mem hmem]
      exact h.size_le
    · rw [AList.size_insert_of_notMem hmem]
      exact hroom.resolve_left hmem
  case bucket =>
    intro ip' b hb
    rw [AList.lookup_insert_eq] at hb
    split at hb
    · rw [← Option.some.inj hb]
      exact ⟨hnonneg, hle, le_rfl⟩
    · exact h.bucket ip' b hb

/-- A sweep keeps the bounds. -/
theorem Bounded.sweepIfDue {now : Instant} {state : LimiterState} (h : limiter.Bounded now state) :
    limiter.Bounded now (limiter.sweepIfDue state now) where
  size_le := (limiter.size_sweepIfDue_le state now).trans h.size_le
  bucket ip b hb := h.bucket ip b (lookup_sweepIfDue hb)

/-- Every attempt keeps the bounds. -/
theorem Bounded.step (hrate : 0 < limiter.refillPerSec) (hburst : 1 ≤ limiter.burst) {state : LimiterState}
    {call : Call} (h : limiter.Bounded call.now state) :
    limiter.Bounded call.now (limiter.step state call) := by
  obtain ⟨-, htry⟩ | ⟨haway, kept, hkept, htry⟩ := tryAdmit_cases hrate.ne' state call
  · rw [RateLimiter.step, htry]
    exact ⟨h.sweepIfDue.size_le, h.sweepIfDue.bucket⟩
  · rw [RateLimiter.step, htry]
    obtain ⟨rfl, hmem⟩ | ⟨hkept, hmem⟩ := hkept
    · exact h.debit hrate hburst (.inl hmem)
    · have hswept : limiter.Bounded call.now kept := by
        rw [hkept]
        exact ⟨h.sweepIfDue.size_le, h.sweepIfDue.bucket⟩
      refine hswept.debit hrate hburst (.inr ?_)
      rw [hkept]
      exact Nat.not_le.1 fun hfull => haway ⟨hmem, hfull⟩

theorem Bounded.run (hrate : 0 < limiter.refillPerSec) (hburst : 1 ≤ limiter.burst) {stop : Instant} :
    (calls : List Call) → {state : LimiterState} → {now : Instant} → limiter.Bounded now state →
      now ≤ stop → (∀ call ∈ calls, now ≤ call.now ∧ call.now ≤ stop) →
      calls.Pairwise (·.now ≤ ·.now) → limiter.Bounded stop (limiter.run state calls)
  | [], _, _, h, hstop, _, _ => h.mono hstop
  | call :: calls, state, now, h, _, hbounds, hsorted => by
    obtain ⟨hnow, hstop⟩ := hbounds call (by simp)
    exact Bounded.run hrate hburst calls ((h.mono hnow).step hrate hburst) hstop
      (fun c hc => ⟨List.rel_of_pairwise_cons hsorted hc, (hbounds c (by simp [hc])).2⟩)
      hsorted.of_cons

/-! ## Sweeps and warnings -/

/-- The attempt that sweeps is the last sweep. -/
theorem lastSweep_step_of_sweeps {state : LimiterState} {call : Call} (h : limiter.Sweeps state call) :
    (limiter.step state call).lastSweep = call.now := by
  obtain ⟨hrate, hmem, hdue⟩ := h
  unfold RateLimiter.step tryAdmit debit sweepIfDue
  rw [if_neg hrate, if_neg hmem, if_pos hdue]
  dsimp only
  split_ifs <;> rfl

/-- A debit touches the bucket of its source and nothing else. -/
theorem debit_leaves (state : LimiterState) (ip : IpAddr) (now : Instant) :
    (limiter.debit state ip now).2.lastSweep = state.lastSweep ∧
      (limiter.debit state ip now).2.ceilingLogged = state.ceilingLogged ∧
      ∀ other ≠ ip, (limiter.debit state ip now).2.buckets.lookup other = state.buckets.lookup other := by
  unfold debit
  dsimp only
  split_ifs <;> exact ⟨rfl, rfl, fun other hother => AList.lookup_insert_ne hother⟩

/-- An attempt that does not sweep leaves the time of the last sweep and the buckets of the others. -/
theorem unswept_step {state : LimiterState} {call : Call} (h : ¬ limiter.Sweeps state call) :
    (limiter.step state call).lastSweep = state.lastSweep ∧
      ∀ ip ≠ call.ip, (limiter.step state call).buckets.lookup ip = state.buckets.lookup ip := by
  by_cases hrate : limiter.refillPerSec = 0
  · have hstep : limiter.step state call = state := congrArg Prod.snd (if_pos hrate)
    rw [hstep]
    exact ⟨rfl, fun _ _ => rfl⟩
  by_cases hmem : call.ip ∈ state.buckets
  · have hstep : limiter.step state call = (limiter.debit state call.ip call.now).2 :=
      congrArg Prod.snd ((if_neg hrate).trans (if_pos hmem))
    rw [hstep]
    exact ⟨(debit_leaves ..).1, (debit_leaves ..).2.2⟩
  · have hswept : limiter.sweepIfDue state call.now = state := if_neg fun hdue => h ⟨hrate, hmem, hdue⟩
    unfold RateLimiter.step tryAdmit
    rw [if_neg hrate, if_neg hmem, hswept]
    dsimp only
    split_ifs
    · exact ⟨rfl, fun _ _ => rfl⟩
    · have hleaves := @debit_leaves limiter { state with ceilingLogged := false } call.ip call.now
      exact ⟨hleaves.1, hleaves.2.2⟩

/-- The flag goes up at a warning and at no other attempt. -/
theorem warns_iff {state : LimiterState} {call : Call} (hrate : limiter.refillPerSec ≠ 0) :
    limiter.Warns state call ↔
      state.ceilingLogged = false ∧ (limiter.step state call).ceilingLogged = true := by
  obtain ⟨haway, htry⟩ | ⟨hnot, kept, hkept, htry⟩ := tryAdmit_cases hrate state call
  · rw [step, htry]
    exact ⟨fun h => ⟨h.2.2, rfl⟩, fun h => ⟨hrate, haway, h.1⟩⟩
  · constructor
    · exact fun h => absurd h.2.1 hnot
    · rintro ⟨hdown, hup⟩
      rw [step, htry, (debit_leaves ..).2.1] at hup
      obtain ⟨rfl, -⟩ | ⟨hkept, -⟩ := hkept
      · rw [hdown] at hup
        cases hup
      · rw [hkept] at hup
        cases hup

/-- Every attempt keeps its books. -/
theorem books_step (hrate : limiter.refillPerSec ≠ 0) (state : LimiterState) (call : Call) :
    limiter.Books state call where
  swept := lastSweep_step_of_sweeps
  unswept h := (unswept_step h).1
  warned := warns_iff hrate
  others h := (unswept_step h).2

/-- The last sweep was no earlier than a time, where it was not and no attempt was. -/
theorem lastSweep_step {since : Instant} {state : LimiterState} {call : Call} (hnow : since ≤ call.now)
    (h : since ≤ state.lastSweep) : since ≤ (limiter.step state call).lastSweep := by
  by_cases hsweeps : limiter.Sweeps state call
  · rwa [lastSweep_step_of_sweeps hsweeps]
  · rwa [(unswept_step hsweeps).1]

/-- A sweep comes a second after the last one or later. -/
theorem le_of_sweeps {state : LimiterState} {call : Call} (h : limiter.Sweeps state call) :
    state.lastSweep + minSweepGap ≤ call.now := by
  have hgap : minSweepGap ≤ call.now - state.lastSweep := h.2.2.1
  have hpos : 0 < minSweepGap := by decide
  have hle : state.lastSweep ≤ call.now := (Nat.lt_of_sub_pos (hpos.trans_le hgap)).le
  exact (Nat.le_sub_iff_add_le' hle).1 hgap

/-- The episode is over when an unknown source gets a bucket. -/
theorem takes_of_ceilingLogged {state : LimiterState} {call : Call} (hrate : limiter.refillPerSec ≠ 0)
    (hbefore : state.ceilingLogged = true) (hafter : ¬ (limiter.step state call).ceilingLogged = true) :
    limiter.Takes state call := by
  obtain ⟨-, htry⟩ | ⟨haway, kept, hkept, htry⟩ := tryAdmit_cases hrate state call
  · rw [step, htry] at hafter
    exact absurd rfl hafter
  · obtain ⟨rfl, -⟩ | ⟨-, hmem⟩ := hkept
    · rw [step, htry, (debit_leaves ..).2.1] at hafter
      exact absurd hbefore hafter
    · exact ⟨hmem, mem_step_of_not_turnedAway hrate haway⟩

/-! ## Runs -/

/-- Two sweeps of a run are a second apart. -/
theorem sweeps_apart {before between : List Call} {first second : Call} {start : LimiterState}
    (hsorted : (first :: between).Pairwise (·.now ≤ ·.now))
    (hfirst : limiter.Sweeps (limiter.run start before) first)
    (hsecond : limiter.Sweeps (limiter.run start (before ++ first :: between)) second) :
    first.now + minSweepGap ≤ second.now := by
  have hlater : Runs.Along limiter.step (fun _ call => first.now ≤ call.now)
      (limiter.step (limiter.run start before) first) between :=
    Runs.along_of_forall limiter.step fun call hcall => List.rel_of_pairwise_cons hsorted hcall
  have hlast : first.now ≤ (limiter.run start (before ++ first :: between)).lastSweep := by
    rw [run_append, run_cons]
    refine Runs.along_invariant (I := fun s : LimiterState => first.now ≤ s.lastSweep)
      (fun s call hnow h => lastSweep_step hnow h) between hlater ?_
    exact (lastSweep_step_of_sweeps hfirst).ge
  exact (Nat.add_le_add_right hlast _).trans (le_of_sweeps hsecond)

/-- Between two warnings of a run an unknown source gets a bucket. -/
theorem takes_between_warnings {before between : List Call} {first second : Call} {start : LimiterState}
    (hfirst : limiter.Warns (limiter.run start before) first)
    (hsecond : limiter.Warns (limiter.run start (before ++ first :: between)) second) :
    ∃ earlier call later, between = earlier ++ call :: later ∧
      limiter.Takes (limiter.run start (before ++ first :: earlier)) call := by
  have hover : ¬ (limiter.run start (before ++ first :: between)).ceilingLogged = true := by
    rw [hsecond.2.2]
    decide
  rw [run_append, run_cons] at hover
  obtain ⟨earlier, call, later, hbetween, hkept, hlost⟩ :=
    Runs.exists_losing_step (I := fun s : LimiterState => s.ceilingLogged = true) between
      ((warns_iff hfirst.1).1 hfirst).2 hover
  refine ⟨earlier, call, later, hbetween, ?_⟩
  rw [run_append, run_cons]
  exact takes_of_ceilingLogged hfirst.1 hkept hlost

/-- **The memory of the limiter stays bounded.** After every attempt of a run the map is within the
ceiling, its buckets hold what they may and the books say whether the attempt swept or warned; an attempt
turned away at the ceiling leaves the buckets to the sweep; two sweeps are at least `minSweepGap` apart,
and between two warnings an unknown source was given a bucket. -/
theorem memory_bounded (hrate : 0 < limiter.refillPerSec) (hburst : 1 ≤ limiter.burst) (created : Instant)
    {calls : List Call} (hsorted : calls.Pairwise (·.now ≤ ·.now)) :
    (∀ before call rest, calls = before ++ call :: rest →
      limiter.Bounded call.now (limiter.run (initialState created) (before ++ [call])) ∧
      limiter.Books (limiter.run (initialState created) before) call ∧
      (limiter.turnedAway (limiter.run (initialState created) before) call →
        limiter.answer (limiter.run (initialState created) before) call = false ∧
        (limiter.run (initialState created) (before ++ [call])).buckets =
          (limiter.sweepIfDue (limiter.run (initialState created) before) call.now).buckets)) ∧
    (∀ before first between second rest, calls = before ++ first :: between ++ second :: rest →
      limiter.Sweeps (limiter.run (initialState created) before) first →
      limiter.Sweeps (limiter.run (initialState created) (before ++ first :: between)) second →
      first.now + minSweepGap ≤ second.now) ∧
    (∀ before first between second rest, calls = before ++ first :: between ++ second :: rest →
      limiter.Warns (limiter.run (initialState created) before) first →
      limiter.Warns (limiter.run (initialState created) (before ++ first :: between)) second →
      ∃ earlier call later, between = earlier ++ call :: later ∧
        limiter.Takes (limiter.run (initialState created) (before ++ first :: earlier)) call) := by
  refine ⟨?_, ?_, ?_⟩
  -- The attempts before this one are no later than it, which is what the invariant asks of a run.
  · rintro before call rest rfl
    obtain ⟨hbefore, -, hcross⟩ := List.pairwise_append.mp hsorted
    have hrun : limiter.Bounded call.now (limiter.run (initialState created) before) :=
      (limiter.bounded_initialState created 0).run hrate hburst before (Nat.zero_le _)
        (fun c hc => ⟨Nat.zero_le _, hcross c hc call (by simp)⟩) hbefore
    rw [run_append]
    refine ⟨hrun.step hrate hburst, books_step hrate.ne' _ call,
      fun haway => ⟨answer_of_turnedAway hrate.ne' haway, ?_⟩⟩
    obtain ⟨-, htry⟩ | ⟨hnot, -⟩ :=
      tryAdmit_cases hrate.ne' (limiter.run (initialState created) before) call
    · exact congrArg (fun r => r.2.buckets) htry
    · exact absurd haway hnot
  · rintro before first between second rest rfl hfirst hsecond
    have hmiddle := (List.pairwise_append.mp (List.pairwise_append.mp hsorted).1).2.1
    exact sweeps_apart hmiddle hfirst hsecond
  · rintro before first between second rest - hfirst hsecond
    exact takes_between_warnings hfirst hsecond

def sourceC : IpAddr := .v4 3

/-- A flood of two sources against a map of one place, twice half a minute apart. -/
def flooding : List Call :=
  [⟨sourceA, 0⟩, ⟨sourceB, 0⟩, ⟨sourceC, Duration.fromSecs 30⟩, ⟨sourceB, Duration.fromSecs 30⟩,
    ⟨sourceA, Duration.fromSecs 60⟩]

/-- The flood makes the limiter warn twice, and sweep twice. -/
theorem memory_bounded_flooding :
    (oneASecond 1).Bounded (Duration.fromSecs 60) ((oneASecond 1).run (initialState 0) flooding) ∧
    ((oneASecond 1).run (initialState 0) (flooding.take 4)).buckets.size = 1 ∧
    (oneASecond 1).answer ((oneASecond 1).run (initialState 0) (flooding.take 3))
      ⟨sourceB, Duration.fromSecs 30⟩ = false ∧
    Duration.fromSecs 30 + minSweepGap ≤ Duration.fromSecs 60 ∧
    ∃ earlier call later, [⟨sourceC, Duration.fromSecs 30⟩] = earlier ++ call :: later ∧
      (oneASecond 1).Takes
        ((oneASecond 1).run (initialState 0) ([⟨sourceA, 0⟩] ++ ⟨sourceB, 0⟩ :: earlier)) call := by
  have hsorted : flooding.Pairwise (·.now ≤ ·.now) := by decide +kernel
  have hrate : 0 < (oneASecond 1).refillPerSec := by decide
  obtain ⟨hattempts, hsweeps, hwarnings⟩ :=
    @memory_bounded (oneASecond 1) hrate (by decide) 0 flooding hsorted
  refine ⟨?_, by decide +kernel, ?_, ?_, ?_⟩
  · exact (hattempts (flooding.take 4) ⟨sourceA, Duration.fromSecs 60⟩ [] rfl).1
  · refine ((hattempts (flooding.take 3) ⟨sourceB, Duration.fromSecs 30⟩
      [⟨sourceA, Duration.fromSecs 60⟩] rfl).2.2 ?_).1
    decide +kernel
  · refine hsweeps (flooding.take 2) ⟨sourceC, Duration.fromSecs 30⟩ [⟨sourceB, Duration.fromSecs 30⟩]
      ⟨sourceA, Duration.fromSecs 60⟩ [] rfl ?_ ?_
    · exact ⟨hrate.ne', by decide +kernel, by decide +kernel⟩
    · exact ⟨hrate.ne', by decide +kernel, by decide +kernel⟩
  · refine hwarnings [⟨sourceA, 0⟩] ⟨sourceB, 0⟩ [⟨sourceC, Duration.fromSecs 30⟩]
      ⟨sourceB, Duration.fromSecs 30⟩ [⟨sourceA, Duration.fromSecs 60⟩] rfl ?_ ?_
    · exact ⟨hrate.ne', by decide +kernel, by decide +kernel⟩
    · exact ⟨hrate.ne', by decide +kernel, by decide +kernel⟩

end RateLimiter

end Muxtop.Server
