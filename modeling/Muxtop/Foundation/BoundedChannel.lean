import Mathlib.Data.List.Basic

/-!
# Bounded channels

A queue between one sender that does not wait and one receiver. A value that finds the queue full is
dropped, and so is every value once the receiver is gone, with whatever was still queued. What arrives is
therefore what was accepted, in order, without the values at the end that are still on their way.
-/

structure BoundedChannel (α : Type*) where
  capacity : ℕ
  queue : List α
  closed : Bool

namespace BoundedChannel

variable {α : Type*}

/-- What becomes of a value that is offered. -/
inductive TrySend
  | sent | full | closed
deriving DecidableEq, Repr

/-- A channel made for this many values. -/
def new (capacity : ℕ) : BoundedChannel α := ⟨capacity, [], false⟩

/-- What offering a value comes to. -/
def offer (channel : BoundedChannel α) : TrySend :=
  if channel.closed then .closed
  else if channel.capacity ≤ channel.queue.length then .full
  else .sent

def trySend (channel : BoundedChannel α) (a : α) : BoundedChannel α :=
  if channel.offer = .sent then { channel with queue := channel.queue ++ [a] } else channel

def tryRecv (channel : BoundedChannel α) : Option α × BoundedChannel α :=
  match channel.queue with
  | [] => (none, channel)
  | a :: queue => (some a, { channel with queue := queue })

/-- The receiver goes away. -/
def close (channel : BoundedChannel α) : BoundedChannel α :=
  { channel with queue := [], closed := true }

variable {channel : BoundedChannel α} {a : α}

/-- An offer is taken while there is room and a receiver. -/
theorem offer_eq_sent :
    channel.offer = .sent ↔ channel.closed = false ∧ channel.queue.length < channel.capacity := by
  unfold offer
  cases channel.closed
  · simp
  · simp

/-- What is taken is queued behind the rest. -/
theorem trySend_of_sent (h : channel.offer = .sent) :
    channel.trySend a = { channel with queue := channel.queue ++ [a] } := if_pos h

/-- What is not taken is lost. -/
theorem trySend_of_not_sent (h : channel.offer ≠ .sent) : channel.trySend a = channel := if_neg h

/-- The capacity is for good. -/
@[simp] theorem capacity_trySend : (channel.trySend a).capacity = channel.capacity := by
  unfold trySend
  split_ifs <;> rfl

@[simp] theorem capacity_tryRecv : channel.tryRecv.2.capacity = channel.capacity := by
  unfold tryRecv
  split <;> rfl

/-- Sending closes nothing. -/
@[simp] theorem closed_trySend : (channel.trySend a).closed = channel.closed := by
  unfold trySend
  split_ifs <;> rfl

/-- Nor does receiving. -/
@[simp] theorem closed_tryRecv : channel.tryRecv.2.closed = channel.closed := by
  unfold tryRecv
  split <;> rfl

/-- What is received is what was queued first. -/
theorem tryRecv_fst : channel.tryRecv.1 = channel.queue.head? := by
  unfold tryRecv
  split
  case h_1 h => rw [h, List.head?_nil]
  case h_2 h => rw [h, List.head?_cons]

/-- The rest stays queued. -/
theorem queue_tryRecv : channel.queue = channel.tryRecv.1.toList ++ channel.tryRecv.2.queue := by
  unfold tryRecv
  split
  case h_1 h => simp [h]
  case h_2 h => simp [h]

/-- What has been accepted and what has been received, in order; while the receiver is there, what lies
between them is queued. -/
structure Ledger (channel : BoundedChannel α) (accepted received : List α) : Prop where
  within : channel.queue.length ≤ channel.capacity
  «open» : channel.closed = false → accepted = received ++ channel.queue
  closed : channel.closed = true → channel.queue = [] ∧ received <+: accepted

variable {accepted received : List α}

/-- A new channel has accepted nothing. -/
theorem ledger_new (capacity : ℕ) : (new capacity : BoundedChannel α).Ledger [] [] :=
  ⟨Nat.zero_le _, fun _ => rfl, nofun⟩

/-- What was received was accepted before anything that was not. -/
theorem Ledger.received_prefix (h : channel.Ledger accepted received) : received <+: accepted := by
  cases hclosed : channel.closed with
  | false => exact ⟨_, (h.open hclosed).symm⟩
  | true => exact (h.closed hclosed).2

/-- An offer adds the value to what was accepted exactly when it is sent. -/
theorem Ledger.trySend (h : channel.Ledger accepted received) (a : α) :
    (channel.trySend a).Ledger (accepted ++ if channel.offer = .sent then [a] else []) received := by
  by_cases hsent : channel.offer = .sent
  · obtain ⟨hopen, hroom⟩ := offer_eq_sent.1 hsent
    rw [trySend_of_sent hsent, if_pos hsent]
    refine ⟨?_, fun _ => ?_, fun hclosed => absurd (hopen.symm.trans hclosed) Bool.false_ne_true⟩
    · show (channel.queue ++ [a]).length ≤ channel.capacity
      rw [List.length_append]
      exact hroom
    · show _ = received ++ (channel.queue ++ [a])
      rw [h.open hopen, List.append_assoc]
  · rw [trySend_of_not_sent hsent, if_neg hsent, List.append_nil]
    exact h

/-- What is received next was accepted next. -/
theorem Ledger.tryRecv (h : channel.Ledger accepted received) :
    channel.tryRecv.2.Ledger accepted (received ++ channel.tryRecv.1.toList) := by
  have hqueue := @queue_tryRecv _ channel
  have hshorter := congrArg List.length hqueue
  rw [List.length_append] at hshorter
  have hwithin := h.within
  refine ⟨?_, fun hopen => ?_, fun hclosed => ?_⟩
  · rw [capacity_tryRecv]
    omega
  · rw [closed_tryRecv] at hopen
    rw [List.append_assoc, ← hqueue]
    exact h.open hopen
  · rw [closed_tryRecv] at hclosed
    obtain ⟨hempty, hpre⟩ := h.closed hclosed
    rw [hempty, eq_comm, List.append_eq_nil_iff] at hqueue
    rw [hqueue.1, List.append_nil]
    exact ⟨hqueue.2, hpre⟩

/-- What is queued at a close is lost. -/
theorem Ledger.close (h : channel.Ledger accepted received) : channel.close.Ledger accepted received :=
  ⟨Nat.zero_le _, nofun, fun _ => ⟨rfl, h.received_prefix⟩⟩

end BoundedChannel
