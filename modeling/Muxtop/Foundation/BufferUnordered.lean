import Mathlib.Data.List.Perm.Basic
import Muxtop.Foundation.Runs

/-!
# Work in parallel, up to a bound

A stream of jobs, at most `cap` of which are under way at any time. They are begun in order, and may end in
any.
-/

/-- The jobs that wait, those under way, and those that have ended, with how they ended. -/
structure BufferUnordered (ι ω : Type*) where
  pending : List ι
  inFlight : List ι
  ended : List (ι × ω)

namespace BufferUnordered

variable {ι ω : Type*}

/-- What happens: the next job is begun, or one of those under way ends. -/
inductive Event (ω : Type*)
  | begin
  | finish (i : ℕ) (answer : ω)

def start (jobs : List ι) : BufferUnordered ι ω := ⟨jobs, [], []⟩

/-- One event. No job is begun where there is none, or no room; an end that no job comes to does not
happen. -/
def step (cap : ℕ) (s : BufferUnordered ι ω) : Event ω → BufferUnordered ι ω
  | .begin =>
    match s.pending with
    | job :: rest =>
      if s.inFlight.length < cap then { s with pending := rest, inFlight := s.inFlight ++ [job] } else s
    | [] => s
  | .finish i answer =>
    match s.inFlight[i]? with
    | some job => { s with inFlight := s.inFlight.eraseIdx i, ended := s.ended ++ [(job, answer)] }
    | none => s

def run (cap : ℕ) (jobs : List ι) (events : List (Event ω)) : BufferUnordered ι ω :=
  Runs.run (step cap) (start jobs) events

/-- Nothing waits, and nothing is under way. -/
def finished (s : BufferUnordered ι ω) : Bool := s.pending.isEmpty && s.inFlight.isEmpty

/-- The whole is finished when nothing is pending or in flight. -/
theorem finished_iff {s : BufferUnordered ι ω} : s.finished = true ↔ s.pending = [] ∧ s.inFlight = [] := by
  rw [finished, Bool.and_eq_true, List.isEmpty_iff, List.isEmpty_iff]

variable {cap : ℕ} {jobs : List ι} {s : BufferUnordered ι ω}

/-- What is true at any time: no more jobs than `cap` are under way, and every job is in one place, those
that have been begun being the first ones. -/
structure Sound (cap : ℕ) (jobs : List ι) (s : BufferUnordered ι ω) : Prop where
  bounded : s.inFlight.length ≤ cap
  begun : ∃ begun, begun ++ s.pending = jobs ∧ (s.inFlight ++ s.ended.map Prod.fst).Perm begun

/-- At the start everything is pending. -/
theorem sound_start : Sound cap jobs (start jobs : BufferUnordered ι ω) where
  bounded := Nat.zero_le _
  begun := ⟨[], rfl, .refl _⟩

/-- A job is begun when there is room. -/
theorem sound_begin (h : Sound cap jobs s) : Sound cap jobs (s.step cap .begin) := by
  obtain ⟨begun, hjobs, hperm⟩ := h.begun
  rcases hpending : s.pending with _ | ⟨job, rest⟩
  · simpa only [step, hpending] using h
  · by_cases hroom : s.inFlight.length < cap
    · simp only [step, hpending, if_pos hroom]
      refine ⟨?_, begun ++ [job], ?_, ?_⟩
      · rw [List.length_append, List.length_singleton]
        omega
      · rw [← hjobs, hpending, List.append_assoc]
        rfl
      · -- the new job stands between those under way and those that have ended
        have hmoved : (s.inFlight ++ [job] ++ s.ended.map Prod.fst).Perm
            (s.inFlight ++ s.ended.map Prod.fst ++ [job]) := by
          rw [List.append_assoc, List.append_assoc]
          exact List.perm_append_comm.append_left _
        exact hmoved.trans (hperm.append_right _)
    · simpa only [step, hpending, if_neg hroom] using h

/-- An answer ends one job in flight. -/
theorem sound_finish (h : Sound cap jobs s) (i : ℕ) (answer : ω) :
    Sound cap jobs (s.step cap (.finish i answer)) := by
  obtain ⟨begun, hjobs, hperm⟩ := h.begun
  rcases hjob : s.inFlight[i]? with _ | job
  · simpa only [step, hjob] using h
  · obtain ⟨hi, hget⟩ := List.getElem?_eq_some_iff.1 hjob
    simp only [step, hjob]
    refine ⟨?_, begun, hjobs, ?_⟩
    · have hbounded := h.bounded
      have hshorter := List.length_eraseIdx_of_lt hi
      show (s.inFlight.eraseIdx i).length ≤ cap
      omega
    · have hout : (job :: s.inFlight.eraseIdx i).Perm s.inFlight := hget ▸ List.getElem_cons_eraseIdx_perm hi
      have hmoved : (s.inFlight.eraseIdx i ++ (s.ended ++ [(job, answer)]).map Prod.fst).Perm
          (job :: s.inFlight.eraseIdx i ++ s.ended.map Prod.fst) := by
        rw [List.map_append, ← List.append_assoc]
        exact List.perm_append_comm
      exact hmoved.trans ((hout.append_right _).trans hperm)

/-- Any event. -/
theorem sound_step (e : Event ω) (h : Sound cap jobs s) : Sound cap jobs (s.step cap e) := by
  rcases e with _ | ⟨i, answer⟩
  · exact sound_begin h
  · exact sound_finish h i answer

/-- So every job is in one place, and no more are in flight than may be. -/
theorem sound_run (cap : ℕ) (jobs : List ι) (events : List (Event ω)) : Sound cap jobs (run cap jobs events) :=
  Runs.run_invariant (I := Sound cap jobs) (fun _ e h => sound_step e h) events sound_start

/-- Once it is over, every job has ended once. -/
theorem Sound.perm_of_finished (h : Sound cap jobs s) (hfinished : s.finished = true) :
    (s.ended.map Prod.fst).Perm jobs := by
  obtain ⟨begun, hjobs, hperm⟩ := h.begun
  obtain ⟨hpending, hinFlight⟩ := finished_iff.1 hfinished
  rw [hpending, List.append_nil] at hjobs
  rw [hinFlight, List.nil_append] at hperm
  exact hjobs ▸ hperm

/-! ## Coming to the end -/

/-- The steps that are left at least. -/
def left (s : BufferUnordered ι ω) : ℕ := 2 * s.pending.length + s.inFlight.length

/-- What has ended since, ended as `answer` says. -/
def EndedBy (answer : ι → ω) (s s' : BufferUnordered ι ω) : Prop :=
  ∀ p ∈ s'.ended, p ∈ s.ended ∨ p.2 = answer p.1

/-- Until it is over something can happen: the first job under way can end, however it does, or, where none
is under way, the next one is begun. -/
theorem exists_progress (hcap : 0 < cap) (answer : ι → ω) (h : s.finished = false) :
    ∃ e, (s.step cap e).left < s.left ∧ EndedBy answer s (s.step cap e) := by
  rcases s with ⟨pending, _ | ⟨job, rest⟩, ended⟩
  · rcases pending with _ | ⟨job, rest⟩
    · cases h
    · have hstep : step cap (⟨job :: rest, [], ended⟩ : BufferUnordered ι ω) .begin = ⟨rest, [job], ended⟩ :=
        if_pos hcap
      refine ⟨.begin, ?_, fun p hp => ?_⟩
      · rw [hstep]
        simp only [left, List.length_cons, List.length_nil]
        omega
      · rw [hstep] at hp
        exact .inl hp
  · refine ⟨.finish 0 (answer job), ?_, fun p hp => ?_⟩
    · show 2 * pending.length + rest.length < 2 * pending.length + (rest.length + 1)
      omega
    · rcases List.mem_append.1 hp with hold | hnew
      · exact .inl hold
      · obtain rfl := List.mem_singleton.1 hnew
        exact .inr rfl

/-- However the jobs end that have not ended yet, the work can come to its end. -/
theorem exists_finished (hcap : 0 < cap) (answer : ι → ω) (s : BufferUnordered ι ω) :
    ∃ events, (Runs.run (step cap) s events).finished = true ∧ events.length ≤ s.left ∧
      EndedBy answer s (Runs.run (step cap) s events) := by
  induction hleft : s.left using Nat.strongRecOn generalizing s with
  | ind n ih =>
    by_cases hfinished : s.finished = true
    · exact ⟨[], hfinished, Nat.zero_le _, fun p hp => .inl hp⟩
    · obtain ⟨e, hless, hfirst⟩ := exists_progress hcap answer (Bool.eq_false_iff.2 hfinished)
      obtain ⟨events, hend, hlength, hrest⟩ := ih _ (hleft ▸ hless) _ rfl
      refine ⟨e :: events, hend, ?_, fun p hp => ?_⟩
      · rw [List.length_cons]
        omega
      · rcases hrest p hp with hmem | hanswer
        · exact hfirst p hmem
        · exact .inr hanswer

end BufferUnordered
