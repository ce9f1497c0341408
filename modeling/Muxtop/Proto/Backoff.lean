import Mathlib.Tactic.IntervalCases
import Muxtop.Proto.Remote

/-!
# The delays between attempts

`run` keeps one backoff variable, sleeps before it updates it, and resets it after a `ConnectionClosed`
only. So the delay after an attempt counts the attempts before it that ended otherwise
(`slept_eq_keptDelay`). `countsFailures_iff` says when that is what it should count: the attempts in a
row, this one included, that had received no Welcome.
-/

namespace Muxtop.Proto

/-! ## Counting at the end of a list -/

/-- How many elements in a row, at the end of the list, pass the test. -/
def trailing {α : Type*} (p : α → Bool) (l : List α) : ℕ := (l.reverse.takeWhile p).length

@[simp] theorem trailing_nil {α : Type*} (p : α → Bool) : trailing p [] = 0 := rfl

/-- One element more goes on the count, or ends it. -/
theorem trailing_concat {α : Type*} (p : α → Bool) (l : List α) (a : α) :
    trailing p (l ++ [a]) = if p a then trailing p l + 1 else 0 := by
  rw [trailing, List.reverse_concat, List.takeWhile_cons]
  split <;> rfl

/-! ## Doubling under a cap -/

/-- The initial backoff doubled `n` times, under the cap. -/
def doubled (n : ℕ) : ℕ := min (initialBackoff * 2 ^ n) maxBackoff

@[simp] theorem doubled_zero : doubled 0 = initialBackoff := by decide

/-- One doubling more, under the cap. -/
theorem doubled_succ (n : ℕ) : doubled (n + 1) = min (doubled n * 2) maxBackoff := by
  simp only [doubled, pow_succ, initialBackoff, maxBackoff]
  omega

/-- The first five delays double. -/
theorem doubled_of_lt {n : ℕ} (h : n < 5) : doubled n = initialBackoff * 2 ^ n := by
  interval_cases n <;> decide

/-- Five doublings reach the cap. -/
theorem doubled_of_le {n : ℕ} (h : 5 ≤ n) : doubled n = maxBackoff := by
  have hpow : 2 ^ 5 ≤ 2 ^ n := Nat.pow_le_pow_right (by omega) h
  simp only [doubled, initialBackoff, maxBackoff]
  omega

/-- They are below the cap. -/
theorem doubled_lt {n : ℕ} (h : n < 5) : doubled n < maxBackoff := by
  interval_cases n <;> decide

/-- No delay recurs before the cap. -/
theorem doubled_eq_iff {m n : ℕ} : doubled m = doubled n ↔ m = n ∨ 5 ≤ m ∧ 5 ≤ n := by
  constructor
  · intro h
    rcases Nat.lt_or_ge m 5 with hm | hm
    · have hn : n < 5 := by
        by_contra hn
        rw [doubled_of_le (n := n) (Nat.not_lt.1 hn)] at h
        exact absurd h (doubled_lt hm).ne
      rw [doubled_of_lt hm, doubled_of_lt hn] at h
      exact Or.inl (Nat.pow_right_injective le_rfl (Nat.eq_of_mul_eq_mul_left (by decide) h))
    · refine Or.inr ⟨hm, ?_⟩
      by_contra hn
      rw [doubled_of_le hm] at h
      exact absurd h.symm (doubled_lt (Nat.not_le.1 hn)).ne
  · rintro (rfl | ⟨hm, hn⟩)
    · rfl
    · rw [doubled_of_le hm, doubled_of_le hn]

/-! ## What the delay should be, and what it is -/

/-- The delay after an attempt: the initial one when a Welcome was received, and otherwise one that
has doubled with every further attempt in a row without a Welcome. -/
def expectedDelay (before : List Ended) (attempt : Ended) : ℕ :=
  if attempt.welcomed then initialBackoff
  else min (initialBackoff * 2 ^ (trailing (!·.welcomed) (before ++ [attempt]) - 1)) maxBackoff

/-- The delay as the loop computes it. -/
def keptDelay (before : List Ended) : ℕ :=
  doubled (trailing (fun attempt => attempt.error ≠ .connectionClosed) before)

/-- The delay that is kept starts over at a closed connection. -/
theorem keptDelay_concat (before : List Ended) (attempt : Ended) :
    keptDelay (before ++ [attempt]) =
      if attempt.error = .connectionClosed then initialBackoff
      else min (keptDelay before * 2) maxBackoff := by
  rw [keptDelay, trailing_concat]
  by_cases hclosed : attempt.error = .connectionClosed
  · simp [hclosed]
  · rw [if_pos (by simpa using hclosed), if_neg hclosed, doubled_succ, keptDelay]

/-- What holds of the loop between attempts. -/
structure DelaysInv (s : Collector) : Prop where
  backoff_eq : s.stopped = false → s.backoff = keptDelay s.ended
  length_slept : s.slept.length = s.ended.length
  slept_eq : ∀ before attempt after, s.ended = before ++ attempt :: after →
    s.slept[before.length]? = some (keptDelay before)

/-- At the start nothing was slept. -/
theorem DelaysInv.start (channel : SnapshotChannel) : DelaysInv (Collector.start channel) where
  backoff_eq := fun _ => rfl
  length_slept := rfl
  slept_eq := fun before attempt after h => absurd h (by simp [Collector.start])

/-- The delays of a loop that has just slept: those of before, and the backoff it had. -/
theorem DelaysInv.slept_concat {s : Collector} (h : DelaysInv s) (hgoing : s.stopped = false)
    (ended : Ended) (before : List Ended) (attempt : Ended) (after : List Ended)
    (heq : s.ended ++ [ended] = before ++ attempt :: after) :
    (s.slept ++ [s.backoff])[before.length]? = some (keptDelay before) := by
  rcases List.eq_nil_or_concat' after with rfl | ⟨after', last, rfl⟩
  · obtain ⟨rfl, -⟩ := List.append_inj' heq rfl
    rw [← h.length_slept, List.getElem?_concat_length, h.backoff_eq hgoing]
  · rw [← List.cons_append, ← List.append_assoc] at heq
    obtain ⟨hended, -⟩ := List.append_inj' heq rfl
    have hlt : before.length < s.slept.length := by
      rw [h.length_slept, hended, List.length_append, List.length_cons]
      omega
    rw [List.getElem?_append_left hlt, h.slept_eq before attempt after' hended]

/-- A sleep takes the delay that is kept. -/
theorem DelaysInv.sleep {s : Collector} (h : DelaysInv s) (hgoing : s.stopped = false) (e : RemoteError)
    (welcomed cancelledAsleep : Bool) : DelaysInv (s.sleep e welcomed cancelledAsleep) := by
  have hslept := h.slept_concat hgoing ⟨e, welcomed⟩
  have hlength : (s.slept ++ [s.backoff]).length = (s.ended ++ [Ended.mk e welcomed]).length := by
    rw [List.length_append, List.length_append, h.length_slept]
    rfl
  have hkept := keptDelay_concat s.ended ⟨e, welcomed⟩
  unfold Collector.sleep
  split
  case isTrue => exact ⟨nofun, hlength, hslept⟩
  case isFalse =>
    split
    case isTrue hclosed =>
      rw [if_pos hclosed] at hkept
      exact ⟨fun _ => hkept.symm, hlength, hslept⟩
    case isFalse hclosed =>
      rw [if_neg hclosed, ← h.backoff_eq hgoing] at hkept
      exact ⟨fun _ => hkept.symm, hlength, hslept⟩

variable (layout : Layout) (config : RemoteConfig)

/-- Any attempt. -/
theorem DelaysInv.step {s : Collector} (h : DelaysInv s) (attempt : Attempt) :
    DelaysInv (s.step layout config attempt) := by
  have hstop : ∀ channel announced,
      DelaysInv { s with channel := channel, announced := announced, stopped := true } :=
    fun _ _ => ⟨nofun, h.length_slept, h.slept_eq⟩
  unfold Collector.step
  split
  case isTrue => exact h
  case isFalse hgoing =>
    split
    case isTrue => exact hstop s.channel s.announced
    case isFalse =>
      simp only
      split
      case h_1 e hphase =>
        have hs : DelaysInv { s with
            channel := (connectAndStream layout config s.channel attempt.events).channel
            announced :=
              s.announced ++ (connectAndStream layout config s.channel attempt.events).announced } :=
          ⟨h.backoff_eq, h.length_slept, h.slept_eq⟩
        exact hs.sleep (Bool.not_eq_true _ ▸ hgoing) e _ _
      case h_2 => exact hstop _ _

/-- **The delay after each attempt** doubles with every attempt in a row before it that did not end
in a `ConnectionClosed`. -/
theorem slept_eq_keptDelay (channel : SnapshotChannel) (attempts : List Attempt)
    {before : List Ended} {attempt : Ended} {after : List Ended}
    (h : (runCollector layout config channel attempts).ended = before ++ attempt :: after) :
    (runCollector layout config channel attempts).slept[before.length]? =
      some (keptDelay before) := by
  have hinv : DelaysInv (runCollector layout config channel attempts) :=
    Runs.run_invariant (I := DelaysInv) (fun _ attempt hs => hs.step layout config attempt) attempts
      (DelaysInv.start channel)
  exact hinv.slept_eq before attempt after h

/-! ## When the two agree -/

/-- The delay slept after every attempt is the one it should be. -/
def CountsFailures (s : Collector) : Prop :=
  ∀ before attempt after, s.ended = before ++ attempt :: after →
    s.slept[before.length]? = some (expectedDelay before attempt)

/-- What `run` goes by when it sleeps after this attempt agrees with what it should go by. An attempt
that had received a Welcome is the first or follows a `ConnectionClosed`. Before any other attempt, as
many in a row did not end in a `ConnectionClosed` as had received no Welcome, up to the five that
reach the cap. -/
def InStep (before : List Ended) (attempt : Ended) : Prop :=
  if attempt.welcomed then ∀ last ∈ before.getLast?, last.error = .connectionClosed
  else
    let unclosed := trailing (fun attempt => attempt.error ≠ .connectionClosed) before
    let unwelcomed := trailing (!·.welcomed) before
    unclosed = unwelcomed ∨ 5 ≤ unclosed ∧ 5 ≤ unwelcomed

/-- Nothing is counted when the last element does not count. -/
theorem trailing_eq_zero_iff {α : Type*} (p : α → Bool) (l : List α) :
    trailing p l = 0 ↔ ∀ last ∈ l.getLast?, p last = false := by
  rcases List.eq_nil_or_concat' l with rfl | ⟨front, last, rfl⟩
  · simp
  · rw [trailing_concat, List.getLast?_concat]
    by_cases hp : p last = true
    · simp [hp]
    · simp [hp]

/-- The two delays agree when they are in step. -/
theorem keptDelay_eq_expectedDelay_iff (before : List Ended) (attempt : Ended) :
    keptDelay before = expectedDelay before attempt ↔ InStep before attempt := by
  unfold keptDelay expectedDelay InStep
  cases hwelcomed : attempt.welcomed with
  | true =>
      simp only [if_true]
      rw [← doubled_zero, doubled_eq_iff, or_iff_left (by omega), trailing_eq_zero_iff]
      simp
  | false =>
      have hcount : trailing (!·.welcomed) (before ++ [attempt]) - 1 =
          trailing (fun attempt : Ended => !attempt.welcomed) before := by
        rw [trailing_concat, hwelcomed]
        rfl
      rw [hcount]
      exact doubled_eq_iff

/-- **The backoff counts consecutive failures exactly when no step of the history confuses them with
what `run` counts.** -/
theorem countsFailures_iff (channel : SnapshotChannel) (attempts : List Attempt) :
    CountsFailures (runCollector layout config channel attempts) ↔
      ∀ before attempt after,
        (runCollector layout config channel attempts).ended = before ++ attempt :: after →
          InStep before attempt := by
  constructor
  · intro h before attempt after hended
    have hexpected := h before attempt after hended
    rw [slept_eq_keptDelay layout config channel attempts hended, Option.some.injEq] at hexpected
    exact (keptDelay_eq_expectedDelay_iff before attempt).1 hexpected
  · intro h before attempt after hended
    rw [slept_eq_keptDelay layout config channel attempts hended,
      (keptDelay_eq_expectedDelay_iff before attempt).2 (h before attempt after hended)]

/-- The server takes the hello and closes the connection without a Welcome. -/
def closedBeforeWelcome : Attempt where
  cancelledBefore := false
  events := [.tcpConnect (.ok ()), .tlsConnect .established, .helloWritten none, .ended .eof, .polled]
  cancelledAsleep := false

/-- Two such attempts in a row: the second delay has not grown. -/
theorem not_countsFailures_closedBeforeWelcome :
    (runCollector .x86_64 ⟨"0.4.0", none⟩ ⟨4, [], false⟩
        [closedBeforeWelcome, closedBeforeWelcome]).slept = [1000, 1000] ∧
      ¬ CountsFailures (runCollector .x86_64 ⟨"0.4.0", none⟩ ⟨4, [], false⟩
        [closedBeforeWelcome, closedBeforeWelcome]) := by
  have hslept : (runCollector .x86_64 ⟨"0.4.0", none⟩ ⟨4, [], false⟩
      [closedBeforeWelcome, closedBeforeWelcome]).slept = [1000, 1000] := by decide +kernel
  have hended : (runCollector .x86_64 ⟨"0.4.0", none⟩ ⟨4, [], false⟩
      [closedBeforeWelcome, closedBeforeWelcome]).ended =
        [⟨.connectionClosed, false⟩] ++ ⟨.connectionClosed, false⟩ :: [] := by decide +kernel
  refine ⟨hslept, fun h => ?_⟩
  have hsecond := h _ _ _ hended
  rw [hslept] at hsecond
  revert hsecond
  decide

end Muxtop.Proto
