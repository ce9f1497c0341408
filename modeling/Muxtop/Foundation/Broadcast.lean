import Mathlib.Data.List.Basic
import Mathlib.Data.List.TakeDrop

/-!
# Broadcast channels

A channel keeps the last `capacity` values sent. A receiver has a position among all values ever sent;
one that has fallen behind the values kept is told so and moves up to the oldest of them. So a receiver
never goes back, and what it passes on its way is a window of what was sent.
-/

/-- A channel, with all values ever sent, oldest first. -/
structure Broadcast (α : Type*) where
  capacity : ℕ
  sent : List α

namespace Broadcast

variable {α : Type*}

/-- What a receiver is told. -/
inductive Delivery (α : Type*)
  | value (a : α)
  | lagged (skipped : ℕ)

def send (channel : Broadcast α) (a : α) : Broadcast α :=
  { channel with sent := channel.sent ++ [a] }

/-- What a receiver at this position is told, if there is anything for it, and where it is then. -/
def recv (channel : Broadcast α) (position : ℕ) : Option (Delivery α × ℕ) :=
  if position + channel.capacity < channel.sent.length then
    let oldest := channel.sent.length - channel.capacity
    some (.lagged (oldest - position), oldest)
  else
    match channel.sent[position]? with
    | some a => some (.value a, position + 1)
    | none => none

@[simp] theorem sent_send (channel : Broadcast α) (a : α) :
    (channel.send a).sent = channel.sent ++ [a] := rfl

@[simp] theorem capacity_send (channel : Broadcast α) (a : α) :
    (channel.send a).capacity = channel.capacity := rfl

/-- A delivery is the value at the receiver's position, or moves it up within what was sent. -/
theorem recv_cases {channel : Broadcast α} {position next : ℕ} {delivery : Delivery α}
    (h : channel.recv position = some (delivery, next)) :
    (∃ a, delivery = .value a ∧ channel.sent[position]? = some a ∧ next = position + 1) ∨
      ∃ skipped, delivery = .lagged skipped ∧ 0 < skipped ∧ next = position + skipped ∧
        next ≤ channel.sent.length := by
  unfold recv at h
  split at h
  case isTrue hbehind =>
    obtain ⟨rfl, rfl⟩ := by simpa using h
    exact Or.inr ⟨_, rfl, by omega, by omega, Nat.sub_le _ _⟩
  case isFalse =>
    split at h
    case h_1 a hvalue =>
      obtain ⟨rfl, rfl⟩ := by simpa using h
      exact Or.inl ⟨a, rfl, hvalue, rfl⟩
    case h_2 => cases h

/-- A receiver goes forward, and not past what was sent. -/
theorem recv_le {channel : Broadcast α} {position next : ℕ} {delivery : Delivery α}
    (h : channel.recv position = some (delivery, next)) :
    position < next ∧ next ≤ channel.sent.length := by
  rcases recv_cases h with ⟨a, -, hvalue, rfl⟩ | ⟨skipped, -, hpos, rfl, hle⟩
  · exact ⟨Nat.lt_succ_self _, (List.getElem?_eq_some_iff.1 hvalue).1⟩
  · exact ⟨by omega, hle⟩

/-! ## What was sent between two positions -/

/-- The values sent from the position `start` on and before `stop`. -/
def window (channel : Broadcast α) (start stop : ℕ) : List α := (channel.sent.take stop).drop start

/-- Sending changes nothing before the end. -/
theorem window_send {channel : Broadcast α} {start stop : ℕ} (h : stop ≤ channel.sent.length)
    (a : α) : (channel.send a).window start stop = channel.window start stop := by
  rw [window, sent_send, List.take_append_of_le_length h]
  rfl

/-- One step further there is one element more. -/
theorem window_succ {channel : Broadcast α} {start stop : ℕ} {a : α} (hle : start ≤ stop)
    (h : channel.sent[stop]? = some a) :
    channel.window start (stop + 1) = channel.window start stop ++ [a] := by
  obtain ⟨hlt, rfl⟩ := List.getElem?_eq_some_iff.1 h
  rw [window, window, List.take_succ_eq_append_getElem hlt, List.drop_append_of_le_length]
  rw [List.length_take]
  omega

/-- Up to a later position there is no less. -/
theorem window_sublist_window (channel : Broadcast α) (start : ℕ) {stop stop' : ℕ}
    (h : stop ≤ stop') : (channel.window start stop).Sublist (channel.window start stop') :=
  (List.take_sublist_take_left h).drop start

/-- What was sent between two positions was sent after the first. -/
theorem window_sublist_drop (channel : Broadcast α) (start stop : ℕ) :
    (channel.window start stop).Sublist (channel.sent.drop start) :=
  (List.take_sublist _ _).drop start

end Broadcast
