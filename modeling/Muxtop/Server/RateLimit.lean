import Mathlib.Data.Rat.Defs
import Mathlib.Data.NNRat.Defs
import Mathlib.Algebra.Order.Ring.Rat
import Muxtop.Foundation.Retain
import Muxtop.Foundation.Runs

/-!
# The rate limiter of the accept loop

`muxtop-server/src/rate_limit.rs`: a token bucket for every source address, refilled lazily, with
the sweeps and the ceiling that bound the map. Tokens are exact rationals; instants and durations
are whole nanoseconds. The clock reading of a call is its argument, and the mutex, which the
source falls through when it is poisoned, is left out: calls come one after another.
-/

namespace Muxtop.Server

/-- Nanoseconds since some start, the unit of `Instant` and of `Duration`. -/
abbrev Instant := ℕ
abbrev Duration := ℕ

def Duration.fromSecs (secs : ℕ) : Duration := secs * 10 ^ 9

def Duration.asSecs (d : Duration) : ℚ := d / 10 ^ 9

/-- Zero for an earlier instant that is later. -/
def Instant.durationSince (now earlier : Instant) : Duration := now - earlier

inductive IpAddr where
  | v4 (bits : BitVec 32)
  | v6 (bits : BitVec 128)
  deriving DecidableEq

def sweepSizeTrigger : ℕ := 1024
def sweepInterval : Duration := .fromSecs 30
def minSweepGap : Duration := .fromSecs 1
def maxTrackedIps : ℕ := 65536

/-- Per-IP bucket state. -/
structure Bucket where
  lastRefill : Instant
  tokens : ℚ
  deriving DecidableEq

/-- Token count this bucket would hold at `now`, capped at `burst`. -/
def Bucket.refilledAt (self : Bucket) (now : Instant) (refillPerSec burst : ℚ) : ℚ :=
  let elapsed := (Instant.durationSince now self.lastRefill).asSecs
  min (self.tokens + elapsed * refillPerSec) burst

/-- The tracked buckets and the bookkeeping that keeps the map bounded. -/
structure LimiterState where
  buckets : AList fun _ : IpAddr => Bucket
  lastSweep : Instant
  ceilingLogged : Bool

/-- Drop every bucket that has refilled back to `burst`. -/
def LimiterState.sweep (self : LimiterState) (now : Instant) (refillPerSec burst : ℚ) :
    LimiterState :=
  { self with
    buckets := self.buckets.retain fun b => b.refilledAt now refillPerSec burst < burst
    lastSweep := now }

structure RateLimiter where
  refillPerSec : ℚ
  burst : ℚ
  maxTracked : ℕ

namespace RateLimiter

/-- The state behind the mutex of a limiter made at `now`. -/
def initialState (now : Instant) : LimiterState where
  buckets := ∅
  lastSweep := now
  ceilingLogged := false

/-- A limiter made at `now`, and the state behind its mutex. -/
def withMaxTracked (refillPerSec burst : ℚ) (maxTracked : ℕ) (now : Instant) :
    RateLimiter × LimiterState :=
  (⟨refillPerSec, burst, maxTracked⟩, initialState now)

def new (refillPerSec burst : ℚ) (now : Instant) : RateLimiter × LimiterState :=
  withMaxTracked refillPerSec burst maxTrackedIps now

/-- The sweep is due: the gap has elapsed, and the map is large or the interval is over. -/
def sweepDue (state : LimiterState) (now : Instant) : Prop :=
  let sinceSweep := Instant.durationSince now state.lastSweep
  minSweepGap ≤ sinceSweep ∧
    (sweepSizeTrigger ≤ state.buckets.size ∨ sweepInterval ≤ sinceSweep)

instance (state : LimiterState) (now : Instant) : Decidable (sweepDue state now) :=
  inferInstanceAs (Decidable (_ ∧ _))

/-- The work that bounds the map, which an unknown address brings about. -/
def sweepIfDue (self : RateLimiter) (state : LimiterState) (now : Instant) : LimiterState :=
  if sweepDue state now then state.sweep now self.refillPerSec self.burst else state

/-- Refill the bucket of `ip`, a new one if there is none, and debit a token if it holds one. -/
def debit (self : RateLimiter) (state : LimiterState) (ip : IpAddr) (now : Instant) :
    Bool × LimiterState :=
  let bucket := (state.buckets.lookup ip).getD ⟨now, self.burst⟩
  let tokens := bucket.refilledAt now self.refillPerSec self.burst
  if 1 ≤ tokens then
    (true, { state with buckets := state.buckets.insert ip ⟨now, tokens - 1⟩ })
  else
    (false, { state with buckets := state.buckets.insert ip ⟨now, tokens⟩ })

/-- Whether a connection from `ip` is admitted, and the state it leaves. -/
def tryAdmit (self : RateLimiter) (state : LimiterState) (ip : IpAddr) (now : Instant) :
    Bool × LimiterState :=
  if self.refillPerSec = 0 then
    (true, state)
  else if ip ∈ state.buckets then
    self.debit state ip now
  else
    let swept := self.sweepIfDue state now
    if self.maxTracked ≤ swept.buckets.size then
      (false, { swept with ceilingLogged := true })
    else
      self.debit { swept with ceilingLogged := false } ip now

end RateLimiter

/-- A connection attempt: the address it comes from and when. -/
structure Call where
  ip : IpAddr
  now : Instant
  deriving DecidableEq

namespace RateLimiter

/-- The answer to an attempt. -/
def answer (self : RateLimiter) (state : LimiterState) (call : Call) : Bool :=
  (self.tryAdmit state call.ip call.now).1

/-- The state an attempt leaves. -/
def step (self : RateLimiter) (state : LimiterState) (call : Call) : LimiterState :=
  (self.tryAdmit state call.ip call.now).2

/-- The state after a list of attempts. -/
def run (self : RateLimiter) (state : LimiterState) (calls : List Call) : LimiterState :=
  Runs.run self.step state calls

theorem run_cons (self : RateLimiter) (state : LimiterState) (call : Call) (calls : List Call) :
    self.run state (call :: calls) = self.run (self.step state call) calls := rfl

theorem run_append (self : RateLimiter) (state : LimiterState) (before after : List Call) :
    self.run state (before ++ after) = self.run (self.run state before) after :=
  Runs.run_append _ _ _ _

/-- How many attempts of `ip` in a list of attempts are admitted. -/
def admissions (self : RateLimiter) (ip : IpAddr) : LimiterState → List Call → ℕ
  | _, [] => 0
  | state, call :: calls =>
    (if call.ip = ip ∧ self.answer state call then 1 else 0) +
      self.admissions ip (self.step state call) calls

end RateLimiter

end Muxtop.Server
