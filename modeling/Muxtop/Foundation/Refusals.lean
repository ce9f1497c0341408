import Mathlib.Data.List.Basic

/-!
# A device that may refuse

Commands are issued to a device, which may refuse any of them. A command that is refused may have taken
effect for all that.
-/

namespace Refusals

inductive Answer
  | accepted
  | refused (done : Bool)
deriving DecidableEq

/-- The device, what it will answer (once the list is at its end it accepts everything), and what it was
asked and has answered. -/
structure World (σ κ : Type*) where
  state : σ
  answers : List Answer
  issued : List (κ × Answer)

variable {σ κ : Type*} (effect : κ → σ → σ)

/-- Issue one command, and whether it was accepted. -/
def issue (c : κ) (w : World σ κ) : Bool × World σ κ :=
  match w.answers with
  | [] => (true, ⟨effect c w.state, [], w.issued ++ [(c, .accepted)]⟩)
  | .accepted :: rest => (true, ⟨effect c w.state, rest, w.issued ++ [(c, .accepted)]⟩)
  | .refused done :: rest =>
    (false, ⟨if done then effect c w.state else w.state, rest, w.issued ++ [(c, .refused done)]⟩)

/-- Issue commands until one is refused, and whether none was. -/
def issueAll : List κ → World σ κ → Bool × World σ κ
  | [], w => (true, w)
  | c :: cs, w =>
    match issue effect c w with
    | (true, w') => issueAll cs w'
    | (false, w') => (false, w')

variable {effect} {w : World σ κ} {c : κ} {cs : List κ}

/-- What was issued since, and what the device is then, if it was as told. -/
structure Since (effect : κ → σ → σ) (w : World σ κ) (new : List (κ × Answer)) (w' : World σ κ) : Prop where
  issued : w'.issued = w.issued ++ new
  state : w'.state = new.foldl (fun s p => if p.2 = .refused false then s else effect p.1 s) w.state

theorem Since.refl (effect : κ → σ → σ) (w : World σ κ) : Since effect w [] w :=
  ⟨(List.append_nil _).symm, rfl⟩

theorem Since.trans {w' w'' : World σ κ} {new new' : List (κ × Answer)} (h : Since effect w new w')
    (h' : Since effect w' new' w'') : Since effect w (new ++ new') w'' where
  issued := by rw [h'.issued, h.issued, List.append_assoc]
  state := by rw [h'.state, h.state, List.foldl_append]

/-- What `issue` does. -/
theorem since_issue (effect : κ → σ → σ) (c : κ) (w : World σ κ) :
    ∃ answer, Since effect w [(c, answer)] (issue effect c w).2 ∧
      ((issue effect c w).1 = true ↔ answer = .accepted) := by
  rcases w with ⟨state, _ | ⟨_ | done, rest⟩, issued⟩
  · exact ⟨.accepted, ⟨rfl, rfl⟩, iff_of_true rfl rfl⟩
  · exact ⟨.accepted, ⟨rfl, rfl⟩, iff_of_true rfl rfl⟩
  · refine ⟨.refused done, ⟨rfl, ?_⟩, iff_of_false (fun h => by cases h) fun h => by cases h⟩
    cases done
    · rfl
    · rfl

/-- What `issueAll` does: either all commands are accepted, or the last one that is issued is refused. -/
theorem since_issueAll (effect : κ → σ → σ) (cs : List κ) (w : World σ κ) :
    ∃ new, Since effect w new (issueAll effect cs w).2 ∧ (∀ p ∈ new, p.1 ∈ cs) ∧
      ((issueAll effect cs w).1 = true → new = cs.map fun c => (c, .accepted)) ∧
      ((issueAll effect cs w).1 = false → ∃ p ∈ new, p.2 ≠ .accepted) := by
  induction cs generalizing w with
  | nil =>
    refine ⟨[], Since.refl effect w, fun p hp => ?_, fun _ => rfl, fun h => ?_⟩
    · cases hp
    · cases h
  | cons c cs ih =>
    obtain ⟨answer, hfirst, haccepted⟩ := since_issue effect c w
    rcases hissue : issue effect c w with ⟨_ | _, w'⟩
    · -- refused
      have hall : issueAll effect (c :: cs) w = (false, w') := by simp only [issueAll, hissue]
      rw [hissue] at hfirst haccepted
      rw [hall]
      refine ⟨_, hfirst, fun p hp => ?_, fun h => ?_, fun _ => ⟨_, List.mem_singleton_self _, ?_⟩⟩
      · exact List.mem_singleton.1 hp ▸ List.mem_cons_self
      · cases h
      · intro h
        cases haccepted.2 h
    · have hall : issueAll effect (c :: cs) w = issueAll effect cs w' := by simp only [issueAll, hissue]
      rw [hissue] at hfirst haccepted
      obtain rfl := haccepted.1 rfl
      obtain ⟨new, hrest, hmem, hdone, hstopped⟩ := ih w'
      rw [hall]
      refine ⟨_, hfirst.trans hrest, fun p hp => ?_, fun h => ?_, fun h => ?_⟩
      · rcases List.mem_cons.1 hp with rfl | hp
        · exact List.mem_cons_self
        · exact List.mem_cons_of_mem _ (hmem p hp)
      · rw [hdone h]
        rfl
      · obtain ⟨p, hp, hrefused⟩ := hstopped h
        exact ⟨p, List.mem_cons_of_mem _ hp, hrefused⟩

/-- What every effect of the commands issued preserves is preserved. -/
theorem Since.invariant {P : σ → Prop} {w' : World σ κ} {new : List (κ × Answer)} (h : Since effect w new w')
    (hstep : ∀ p ∈ new, ∀ s, P s → P (effect p.1 s)) (hstart : P w.state) : P w'.state := by
  rw [h.state]
  clear h
  generalize w.state = s at hstart ⊢
  induction new generalizing s with
  | nil => exact hstart
  | cons p new ih =>
    refine ih (fun q hq => hstep q (List.mem_cons_of_mem _ hq)) _ ?_
    show P (if p.2 = .refused false then s else effect p.1 s)
    split_ifs
    · exact hstart
    · exact hstep p List.mem_cons_self _ hstart

end Refusals
