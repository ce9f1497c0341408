import Mathlib.Data.List.Basic

/-!
# Runs of a step function

A system that takes one event at a time, and what its steps say about its runs.
-/

namespace Runs

variable {σ ε : Type*} (step : σ → ε → σ)

/-- The state after a list of events. -/
def run (s : σ) (events : List ε) : σ := events.foldl step s

@[simp] theorem run_nil (s : σ) : run step s [] = s := rfl

@[simp] theorem run_cons (s : σ) (e : ε) (events : List ε) :
    run step s (e :: events) = run step (step s e) events := rfl

/-- A run in two parts. -/
theorem run_append (s : σ) (before after : List ε) :
    run step s (before ++ after) = run step (run step s before) after := List.foldl_append

/-- Every step of the run, taken in the state it starts from, meets `P`. -/
def Along (P : σ → ε → Prop) : σ → List ε → Prop
  | _, [] => True
  | s, e :: events => P s e ∧ Along P (step s e) events

instance decidableAlong {P : σ → ε → Prop} [∀ s e, Decidable (P s e)] :
    (s : σ) → (events : List ε) → Decidable (Along step P s events)
  | _, [] => isTrue trivial
  | s, e :: events =>
    have : Decidable (Along step P (step s e) events) := decidableAlong (step s e) events
    inferInstanceAs (Decidable (P s e ∧ Along step P (step s e) events))

/-- What holds along a run holds along its parts. -/
theorem along_append {P : σ → ε → Prop} :
    (before : List ε) → {s : σ} → {after : List ε} →
      (Along step P s (before ++ after) ↔
        Along step P s before ∧ Along step P (run step s before) after)
  | [], _, _ => by simp [Along]
  | _ :: before, _, _ => by simp [Along, along_append before, and_assoc]

/-- What all events meet, every step does. -/
theorem along_of_forall {P : ε → Prop} :
    {events : List ε} → {s : σ} → (∀ e ∈ events, P e) → Along step (fun _ e => P e) s events
  | [], _, _ => trivial
  | e :: _, _, h =>
    ⟨h e List.mem_cons_self, along_of_forall fun e' he' => h e' (List.mem_cons_of_mem e he')⟩

/-- How many steps of the run, each taken in the state it starts from, meet `P`. -/
def count (P : σ → ε → Prop) [∀ s e, Decidable (P s e)] : σ → List ε → ℕ
  | _, [] => 0
  | s, e :: events => (if P s e then 1 else 0) + count P (step s e) events

/-- No step meets `P` when each meets its negation. -/
theorem count_eq_zero_iff {P : σ → ε → Prop} [∀ s e, Decidable (P s e)] :
    (events : List ε) → {s : σ} →
      (count step P s events = 0 ↔ Along step (fun s e => ¬ P s e) s events)
  | [], _ => by simp [count, Along]
  | e :: events, s => by
    by_cases h : P s e <;> simp [count, Along, h, count_eq_zero_iff events]

/-- What is counted in a run is counted in its parts. -/
theorem count_append {P : σ → ε → Prop} [∀ s e, Decidable (P s e)] :
    (before : List ε) → {s : σ} → {after : List ε} →
      count step P s (before ++ after) =
        count step P s before + count step P (run step s before) after
  | [], _, _ => by simp [count]
  | _ :: before, _, _ => by simp [count, count_append before, Nat.add_assoc]

variable {step}

/-- What every step preserves holds after every run. -/
theorem run_invariant {I : σ → Prop} (hstep : ∀ s e, I s → I (step s e)) :
    (events : List ε) → {s : σ} → I s → I (run step s events)
  | [], _, h => h
  | e :: events, s, h => run_invariant hstep events (hstep s e h)

/-- What every step that meets `P` preserves holds after every run of such steps. -/
theorem along_invariant {P : σ → ε → Prop} {I : σ → Prop} (hstep : ∀ s e, P s e → I s → I (step s e)) :
    (events : List ε) → {s : σ} → Along step P s events → I s → I (run step s events)
  | [], _, _, h => h
  | e :: events, s, hall, h => along_invariant hstep events hall.2 (hstep s e hall.1 h)

/-- Two demands on the steps of a run come to the same where they agree on every state of an invariant,
and steps that meet the first keep the invariant. -/
theorem along_iff {P Q : σ → ε → Prop} {I : σ → Prop} (hstep : ∀ s e, P s e → I s → I (step s e))
    (hiff : ∀ s e, I s → (P s e ↔ Q s e)) :
    (events : List ε) → {s : σ} → I s → (Along step P s events ↔ Along step Q s events)
  | [], _, _ => Iff.rfl
  | e :: events, s, h => by
    constructor
    · rintro ⟨hp, hall⟩
      exact ⟨(hiff s e h).1 hp, (along_iff hstep hiff events (hstep s e hp h)).1 hall⟩
    · rintro ⟨hq, hall⟩
      have hp := (hiff s e h).2 hq
      exact ⟨hp, (along_iff hstep hiff events (hstep s e hp h)).2 hall⟩

/-- A property holds in every state of a run when it does at the start and after each step. -/
theorem forall_prefix_iff {I : σ → Prop} :
    (events : List ε) → {s : σ} →
      ((∀ before, before <+: events → I (run step s before)) ↔
        I s ∧ Along step (fun s e => I (step s e)) s events)
  | [], s => by simp [Along]
  | e :: events, s => by
    have ih := forall_prefix_iff (I := I) events (s := step s e)
    constructor
    · intro h
      have hrest := ih.1 fun before hpre =>
        h (e :: before) (List.cons_prefix_cons.2 ⟨rfl, hpre⟩)
      exact ⟨h [] (List.nil_prefix ..), hrest⟩
    · rintro ⟨hs, hrest⟩ before hpre
      obtain rfl | ⟨before', rfl, hpre'⟩ := List.prefix_cons_iff.1 hpre
      · exact hs
      · exact ih.2 hrest before' hpre'

/-- What an event brings about and every step preserves holds after every run with the event. -/
theorem run_of_mem {Q : σ → Prop} {e : ε} (hstep : ∀ s e', Q s → Q (step s e'))
    (he : ∀ s, Q (step s e)) {events : List ε} (hmem : e ∈ events) (s : σ) :
    Q (run step s events) := by
  obtain ⟨before, after, rfl⟩ := List.append_of_mem hmem
  rw [run_append, run_cons]
  exact run_invariant hstep after (he _)

/-- Where a run loses a property, one of its steps does. -/
theorem exists_losing_step {I : σ → Prop} :
    (events : List ε) → {s : σ} → I s → ¬ I (run step s events) →
      ∃ before e after, events = before ++ e :: after ∧ I (run step s before) ∧
        ¬ I (step (run step s before) e)
  | [], _, h, hlost => absurd h hlost
  | e :: events, s, h, hlost => by
    by_cases hnext : I (step s e)
    · obtain ⟨before, e', after, rfl, hkept, hloses⟩ := exists_losing_step events hnext hlost
      exact ⟨e :: before, e', after, rfl, hkept, hloses⟩
    · exact ⟨[], e, events, rfl, h, hnext⟩

/-- Where a run gains a property it did not start with, a last step brings it about. -/
theorem exists_gaining_step {I : σ → Prop} :
    (events : List ε) → {s : σ} → ¬ I s → I (run step s events) →
      ∃ before e after, events = before ++ e :: after ∧ ¬ I (run step s before) ∧
        ∀ mid, mid <+: after → I (run step s (before ++ e :: mid))
  | [], _, h, hgained => absurd hgained h
  | e :: events, s, h, hgained => by
    by_cases hlater : ∀ mid, mid <+: events → I (run step (step s e) mid)
    · exact ⟨[], e, events, rfl, h, hlater⟩
    · obtain ⟨mid, ⟨rest, rfl⟩, hlost⟩ : ∃ mid, mid <+: events ∧ ¬ I (run step (step s e) mid) := by
        simpa using hlater
      rw [run_cons, run_append] at hgained
      have hshorter : rest.length ≤ (mid ++ rest).length := by simp
      obtain ⟨before, e', after, rfl, hbefore, hkept⟩ := exists_gaining_step rest hlost hgained
      refine ⟨e :: (mid ++ before), e', after, by simp, ?_, fun more hmore => ?_⟩
      · rwa [run_cons, run_append]
      · have hmid := hkept more hmore
        rwa [← run_append, ← run_cons, ← List.append_assoc, ← List.cons_append] at hmid
  termination_by events => events.length

/-! ## The last step of a kind -/

variable (step) in
/-- The last step of the run that is of a kind was of the event `e`, and of the events before it `past`
holds. -/
def Latest (kind : σ → ε → Prop) (past : List ε → Prop) (e : ε) (s : σ) (events : List ε) : Prop :=
  ∃ before rest, events = before ++ e :: rest ∧ past before ∧ kind (run step s before) e ∧
    Along step (fun s e => ¬ kind s e) (run step s (before ++ [e])) rest

section

variable {kind : σ → ε → Prop} {past : List ε → Prop} {e : ε} {s : σ} {events : List ε}

/-- A step of the kind is the last of them when it is taken. -/
theorem latest_now (hpast : past events) (hkind : kind (run step s events) e) :
    Latest step kind past e s (events ++ [e]) :=
  ⟨events, [], rfl, hpast, hkind, trivial⟩

/-- It stays the last of them through every step that is of another kind. -/
theorem Latest.later (h : Latest step kind past e s events) {e' : ε}
    (hother : ¬ kind (run step s events) e') : Latest step kind past e s (events ++ [e']) := by
  obtain ⟨before, rest, rfl, hpast, hkind, hquiet⟩ := h
  refine ⟨before, rest ++ [e'], by simp, hpast, hkind, (along_append step rest).2 ⟨hquiet, ?_, trivial⟩⟩
  rwa [← run_append, List.append_assoc, List.singleton_append]

end

/-! ## What a run gives out -/

variable (step) {α β : Type*} (emit : σ → ε → List α)

/-- What the steps of a run give out, each in the state it starts from. -/
def trace : σ → List ε → List α
  | _, [] => []
  | s, e :: events => emit s e ++ trace (step s e) events

@[simp] theorem trace_nil (s : σ) : trace step emit s [] = [] := rfl

@[simp] theorem trace_cons (s : σ) (e : ε) (events : List ε) :
    trace step emit s (e :: events) = emit s e ++ trace step emit (step s e) events := rfl

/-- What a run gives out, in two parts. -/
theorem trace_append (before after : List ε) (s : σ) :
    trace step emit s (before ++ after) =
      trace step emit s before ++ trace step emit (run step s before) after := by
  induction before generalizing s with
  | nil => rfl
  | cons e before ih => rw [List.cons_append, trace_cons, trace_cons, ih, run_cons, List.append_assoc]

/-- What a run gives out, one of its steps does. -/
theorem mem_trace {a : α} {events : List ε} {s : σ} :
    a ∈ trace step emit s events ↔
      ∃ before e after, events = before ++ e :: after ∧ a ∈ emit (run step s before) e := by
  induction events generalizing s with
  | nil => simp
  | cons e events ih =>
    rw [trace_cons, List.mem_append, ih]
    constructor
    · rintro (h | ⟨before, e', after, rfl, h⟩)
      · exact ⟨[], e, events, rfl, h⟩
      · exact ⟨e :: before, e', after, rfl, h⟩
    · rintro ⟨_ | ⟨e₁, before⟩, e', after, heq, h⟩
      · obtain ⟨rfl, rfl⟩ := List.cons_eq_cons.1 heq
        exact .inl h
      · obtain ⟨rfl, rfl⟩ := List.cons_eq_cons.1 heq
        exact .inr ⟨before, e', after, rfl, h⟩

variable {step emit}

/-- A log that every step extends by what it gives out holds what the run gave out. -/
theorem log_run (log : σ → List α) (hstep : ∀ s e, log (step s e) = log s ++ emit s e) :
    (events : List ε) → (s : σ) → log (run step s events) = log s ++ trace step emit s events
  | [], s => (List.append_nil _).symm
  | e :: events, s => by
    rw [run_cons, log_run log hstep events, hstep, trace_cons, List.append_assoc]

/-- A slot that every step fills anew or leaves alone holds what the run put there last. -/
theorem slot_run (slot : σ → Option α) (put : σ → ε → Option α)
    (hstep : ∀ s e, slot (step s e) = (put s e).or (slot s)) :
    (events : List ε) → (s : σ) →
      slot (run step s events) =
        (trace step (fun s e => (put s e).toList) s events).getLast?.or (slot s)
  | [], s => rfl
  | e :: events, s => by
    rw [run_cons, slot_run slot put hstep events, hstep, trace_cons, List.getLast?_append, Option.or_assoc]
    cases put s e <;> rfl

end Runs
