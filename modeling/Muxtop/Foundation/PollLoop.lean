import Mathlib.Data.List.Basic

/-!
# Loops that poll into a slot

A loop that waits for its timer or for a cancellation, makes a call, and writes what it publishes of the
answer into a slot that others read. A call is not given up: a loop that is cancelled meanwhile writes
once more before it ends.
-/

namespace PollLoop

/-- Where a loop stands. -/
inductive Phase
  | waiting | calling | ended
deriving DecidableEq, Repr

/-- What a loop does next: take a tick, take up the answer, or take the cancellation. -/
inductive Event (ρ : Type*)
  | tick
  | answer (r : ρ)
  | stop
deriving DecidableEq, Repr

end PollLoop

/-- A loop and its slot. -/
structure PollLoop (α : Type*) where
  phase : PollLoop.Phase
  slot : Option α

namespace PollLoop

variable {α ρ : Type*}

/-- A loop about to start. -/
def spawned (seed : Option α) : PollLoop α := ⟨.waiting, seed⟩

/-- The slot of a loop that is not there. -/
def absent (seed : Option α) : PollLoop α := ⟨.ended, seed⟩

/-- What an event publishes. -/
def published (publish : ρ → α) (p : PollLoop α) : Event ρ → Option α
  | .answer r => if p.phase = .calling then some (publish r) else none
  | _ => none

/-- An event that the loop is not ready for does not happen. -/
def step (publish : ρ → α) (cancelled : Bool) (p : PollLoop α) : Event ρ → PollLoop α
  | .tick => if p.phase = .waiting then { p with phase := .calling } else p
  | .answer r => if p.phase = .calling then ⟨.waiting, some (publish r)⟩ else p
  | .stop => if p.phase = .waiting ∧ cancelled then { p with phase := .ended } else p

variable {publish : ρ → α} {cancelled : Bool} {p : PollLoop α}

/-- The slot holds what was published last. -/
theorem slot_step (e : Event ρ) :
    (p.step publish cancelled e).slot = (p.published publish e).or p.slot := by
  cases e with
  | tick =>
    unfold step published
    dsimp only
    split_ifs <;> rfl
  | answer r =>
    unfold step published
    dsimp only
    split_ifs <;> rfl
  | stop =>
    unfold step published
    dsimp only
    split_ifs <;> rfl

/-- A loop that has ended publishes nothing more. -/
theorem step_of_ended (h : p.phase = .ended) (e : Event ρ) : p.step publish cancelled e = p := by
  unfold step
  cases e <;> simp [h]

/-- Only a cancellation ends a loop. -/
theorem cancelled_of_ended (hp : p.phase ≠ .ended) {e : Event ρ}
    (h : (p.step publish cancelled e).phase = .ended) : cancelled = true := by
  cases e with
  | tick =>
    unfold step at h
    dsimp only at h
    split_ifs at h
    exact absurd h hp
  | answer r =>
    unfold step at h
    dsimp only at h
    split_ifs at h
    exact absurd h hp
  | stop =>
    unfold step at h
    dsimp only at h
    split_ifs at h with hstop
    · exact hstop.2
    · exact absurd h hp

/-- The events that end a cancelled loop: the answer to the call under way, if any, and then the
cancellation. -/
def ending (p : PollLoop α) (r : ρ) : List (Event ρ) :=
  match p.phase with
  | .waiting => [.stop]
  | .calling => [.answer r, .stop]
  | .ended => []

theorem foldl_ending (p : PollLoop α) (r : ρ) :
    ((p.ending r).foldl (step publish true) p).phase = .ended := by
  rcases p with ⟨phase, slot⟩
  cases phase with
  | waiting => rfl
  | calling => rfl
  | ended => rfl

/-- A loop is at most two events from its end. -/
theorem length_ending (p : PollLoop α) (r : ρ) : (p.ending r).length ≤ 2 := by
  unfold ending
  split
  · exact Nat.le_succ 1
  · exact Nat.le_refl 2
  · exact Nat.zero_le 2

end PollLoop
