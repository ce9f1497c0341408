import Mathlib.Algebra.Group.Nat.Even
import Mathlib.Data.List.Induction
import Mathlib.Logic.Function.Iterate
import Muxtop.Core.KubeConnect

/-!
# Toggles of the scope

A call of `toggle_scope` reads the scope under one lock and writes it under another, so a second call
can read between the two. Both then write the same scope, and the later one changes nothing.

The scope after some calls is the first one toggled as often as a call has written it, and once more
for each write that changes nothing: such a write leaves the scope one toggle behind.
-/

namespace Muxtop.Core

deriving instance DecidableEq for ScopeCall

/-- The event is no direct call of `set_scope`, which the program makes from `toggle_scope` only. -/
def EngineEvent.toggles : EngineEvent → Bool
  | .callSetScope _ => false
  | _ => true

/-- The event is a call of `toggle_scope`. -/
def EngineEvent.callsToggle : EngineEvent → Bool
  | .callToggleScope => true
  | _ => false

/-- What a call that has read the scope has still to write. -/
def ScopeCall.pending : ScopeCall → Option KubeScope
  | .awaitsScope next => some next
  | _ => none

/-- What a call has written. -/
def ScopeCall.written : ScopeCall → Option KubeScope
  | .awaitsClear next | .returned next => some next
  | _ => none

def ScopeCall.hasReturned : ScopeCall → Bool
  | .returned _ => true
  | _ => false

namespace EngineState

/-- The step writes the scope that is in force. -/
def Repeats (s : EngineState) : EngineEvent → Prop
  | .stepScopeCall i => s.scopeCalls[i]? = some (.awaitsScope s.scope)
  | _ => False

/-- The step reads the scope while a call has still to write what it made of it. -/
def ReadsStale (s : EngineState) : EngineEvent → Prop
  | .stepScopeCall i => s.scopeCalls[i]? = some .awaitsToggle ∧ s.scopeCalls.any (·.pending.isSome)
  | _ => False

instance (s : EngineState) : DecidablePred s.Repeats
  | .stepScopeCall _ => inferInstanceAs (Decidable (_ = _))
  | .tick | .answered _ | .writeResources _ | .cancel | .writeMetrics _ | .callToggleScope
  | .callSetScope _ | .callSnapshot | .stepSnapshotCall _ _ => inferInstanceAs (Decidable False)

instance (s : EngineState) : DecidablePred s.ReadsStale
  | .stepScopeCall _ => inferInstanceAs (Decidable (_ ∧ _))
  | .tick | .answered _ | .writeResources _ | .cancel | .writeMetrics _ | .callToggleScope
  | .callSetScope _ | .callSnapshot | .stepSnapshotCall _ _ => inferInstanceAs (Decidable False)

/-- How many calls have written the scope. -/
def writes (s : EngineState) : ℕ := s.scopeCalls.countP (·.written.isSome)

end EngineState

/-! ## What a step does to the scope -/

/-- How a step of a program that calls `toggle_scope` only acts on the scope and the calls. -/
inductive ScopeMove (engine : KubeEngine) (s : EngineState) :
    EngineEvent → KubeScope → List ScopeCall → Prop
  | stays {e : EngineEvent} (hcalls : e.callsToggle = false)
      (hwrites : ∀ i next, e = .stepScopeCall i → s.scopeCalls[i]? ≠ some (.awaitsScope next)) :
      ScopeMove engine s e s.scope s.scopeCalls
  | calls : ScopeMove engine s .callToggleScope s.scope (s.scopeCalls ++ [.awaitsToggle])
  | reads {i : ℕ} (h : s.scopeCalls[i]? = some .awaitsToggle) :
      ScopeMove engine s (.stepScopeCall i) s.scope
        (s.scopeCalls.set i (.awaitsScope (engine.toggled s.scope)))
  | writes {i : ℕ} {next : KubeScope} (h : s.scopeCalls[i]? = some (.awaitsScope next)) :
      ScopeMove engine s (.stepScopeCall i) next (s.scopeCalls.set i (.awaitsClear next))
  | clears {i : ℕ} {next : KubeScope} (h : s.scopeCalls[i]? = some (.awaitsClear next)) :
      ScopeMove engine s (.stepScopeCall i) s.scope (s.scopeCalls.set i (.returned next))

variable {engine : KubeEngine} {s : EngineState} {e : EngineEvent}

/-- A step of a toggle is one of these. -/
theorem scopeMove_step (htoggles : e.toggles = true) :
    ScopeMove engine s e (engine.step s e).scope (engine.step s e).scopeCalls := by
  cases e with
  | callToggleScope => exact .calls
  | callSetScope next => cases htoggles
  | stepScopeCall i =>
    simp only [KubeEngine.step, KubeEngine.stepScopeCall]
    split
    next h => exact .reads h
    next next h => exact .writes h
    next next h =>
      split_ifs
      · exact .clears h
      · refine .stays rfl fun j next' hj => ?_
        obtain rfl := EngineEvent.stepScopeCall.inj hj
        rw [h]
        nofun
    next _ hwrites _ =>
      refine .stays rfl fun j next hj => ?_
      obtain rfl := EngineEvent.stepScopeCall.inj hj
      exact hwrites next
  | tick | answered lists | writeResources nowMs | cancel | writeMetrics metrics | callSnapshot
  | stepSnapshotCall i nowMs =>
    simp only [KubeEngine.step, KubeEngine.stepSnapshotCall]
    repeat' split
    all_goals exact .stays rfl nofun

/-- A call found where one has moved on is that one, or was there before. -/
theorem call_of_set {calls : List ScopeCall} {i j : ℕ} {call call' : ScopeCall}
    (h : (calls.set j call')[i]? = some call) : j = i ∧ call = call' ∨ j ≠ i ∧ calls[i]? = some call := by
  rw [List.getElem?_set] at h
  split_ifs at h with hji hlt
  · exact .inl ⟨hji, (Option.some.inj h).symm⟩
  · exact .inr ⟨hji, h⟩

/-- A call found where one has been made is that one, or was there before. -/
theorem call_of_append {calls : List ScopeCall} {i : ℕ} {call call' : ScopeCall}
    (h : (calls ++ [call'])[i]? = some call) : call = call' ∨ calls[i]? = some call := by
  rw [List.getElem?_append] at h
  split_ifs at h
  · exact .inr h
  · exact .inl (List.mem_singleton.1 (List.mem_of_getElem? h))

/-! ## The two scopes -/

namespace KubeEngine

/-- One of the two scopes that the engine toggles between. -/
def TogglesTo (engine : KubeEngine) (scope : KubeScope) : Prop :=
  scope = .allNamespaces ∨ scope = .ofNamespace engine.scopedNamespace

/-- A toggle leads to one of the two scopes. -/
theorem togglesTo_toggled (scope : KubeScope) : engine.TogglesTo (engine.toggled scope) := by
  cases scope
  · exact .inr rfl
  · exact .inl rfl

variable {scope next : KubeScope}

/-- It leads to another one than before. -/
theorem toggled_ne (scope : KubeScope) : engine.toggled scope ≠ scope := by
  cases scope <;> nofun

/-- Two toggles lead back. -/
theorem toggled_toggled (h : engine.TogglesTo scope) :
    engine.toggled (engine.toggled scope) = scope := by
  obtain rfl | rfl := h <;> rfl

/-- Of the two, the one that is not in force is what a toggle sets. -/
theorem eq_toggled (hscope : engine.TogglesTo scope) (hnext : engine.TogglesTo next)
    (hne : next ≠ scope) : next = engine.toggled scope := by
  obtain rfl | rfl := hscope
  · exact hnext.resolve_left hne
  · exact hnext.resolve_right hne

/-- So the scope depends on whether their number is even. -/
theorem iterate_toggled (h : engine.TogglesTo scope) (count : ℕ) :
    engine.toggled^[count] scope = if Even count then scope else engine.toggled scope := by
  induction count with
  | zero => rfl
  | succ count ih =>
    rw [Function.iterate_succ_apply', ih]
    simp only [Nat.even_add_one]
    split_ifs with heven
    · rfl
    · exact toggled_toggled h

end KubeEngine

/-- The scope is one of the two, and so is what each call has read. -/
structure EngineState.Toggling (engine : KubeEngine) (s : EngineState) : Prop where
  scope : engine.TogglesTo s.scope
  pending : ∀ call ∈ s.scopeCalls, ∀ next ∈ call.pending, engine.TogglesTo next

/-- A step of a toggle keeps to the two scopes. -/
theorem EngineState.Toggling.step (h : s.Toggling engine) (htoggles : e.toggles = true) :
    (engine.step s e).Toggling engine := by
  have hset {i : ℕ} {call : ScopeCall} (hcall : ∀ next ∈ call.pending, engine.TogglesTo next) :
      ∀ call' ∈ s.scopeCalls.set i call, ∀ next ∈ call'.pending, engine.TogglesTo next := by
    intro call' hmem
    obtain hold | rfl := List.mem_or_eq_of_mem_set hmem
    · exact h.pending call' hold
    · exact hcall
  have hmove := @scopeMove_step engine s e htoggles
  generalize (engine.step s e) = s' at hmove
  suffices hboth : engine.TogglesTo s'.scope ∧
      ∀ call ∈ s'.scopeCalls, ∀ next ∈ call.pending, engine.TogglesTo next from ⟨hboth.1, hboth.2⟩
  generalize s'.scope = scope, s'.scopeCalls = calls at hmove ⊢
  cases hmove
  case stays => exact ⟨h.scope, h.pending⟩
  case calls =>
    refine ⟨h.scope, fun call hmem => ?_⟩
    obtain hold | hnew := List.mem_append.1 hmem
    · exact h.pending call hold
    · obtain rfl := List.mem_singleton.1 hnew
      nofun
  case reads i hi =>
    refine ⟨h.scope, hset fun next hnext => ?_⟩
    obtain rfl := Option.some.inj hnext
    exact KubeEngine.togglesTo_toggled s.scope
  case writes i hi => exact ⟨h.pending _ (List.mem_of_getElem? hi) scope rfl, hset nofun⟩
  case clears i next hi => exact ⟨h.scope, hset nofun⟩

/-! ## Counting the writes -/

/-- Moving a call on counts as one write where the call writes. -/
theorem countP_set {i : ℕ} {call call' : ScopeCall} {old new : Bool} (h : s.scopeCalls[i]? = some call)
    (hold : call.written.isSome = old) (hnew : call'.written.isSome = new) :
    (s.scopeCalls.set i call').countP (·.written.isSome) + old.toNat = s.writes + new.toNat := by
  obtain ⟨hlt, rfl⟩ := List.getElem?_eq_some_iff.1 h
  have hpos : s.scopeCalls[i].written.isSome = true → 0 < s.scopeCalls.countP (·.written.isSome) :=
    fun hwritten => List.countP_pos_iff.2 ⟨_, List.getElem_mem hlt, hwritten⟩
  rw [List.countP_set hlt, EngineState.writes, hold, hnew]
  cases old <;> cases new <;> simp_all

/-- A write toggles the scope unless it repeats it, and nothing else changes it. -/
theorem scope_step (h : s.Toggling engine) (htoggles : e.toggles = true) {first : KubeScope}
    {repeated : ℕ}
    (hscope : s.scope = engine.toggled^[s.writes + repeated] first) :
    (engine.step s e).scope =
      engine.toggled^[(engine.step s e).writes + (repeated + if s.Repeats e then 1 else 0)] first := by
  have hmove := @scopeMove_step engine s e htoggles
  unfold EngineState.writes
  generalize (engine.step s e).scope = scope, (engine.step s e).scopeCalls = calls at hmove ⊢
  cases hmove
  case stays hcalls hwrites =>
    have hrepeats : ¬ s.Repeats e := by
      cases e
      case stepScopeCall i => exact hwrites i _ rfl
      all_goals exact id
    rw [if_neg hrepeats]
    exact hscope
  case calls =>
    rw [List.countP_append, if_neg (show ¬ s.Repeats .callToggleScope from id)]
    exact hscope
  case reads i hi =>
    have hcount := @countP_set s i _ (.awaitsScope (engine.toggled s.scope)) _ _ hi rfl rfl
    have hrepeats : ¬ s.Repeats (.stepScopeCall i) := by
      simp [EngineState.Repeats, hi]
    rw [if_neg hrepeats, Nat.add_right_cancel hcount]
    exact hscope
  case writes i hi =>
    have hcount := @countP_set s i _ (.awaitsClear scope) _ _ hi rfl rfl
    rw [show List.countP _ _ = s.writes + 1 from hcount]
    have hnext := h.pending _ (List.mem_of_getElem? hi) scope rfl
    have hrepeats : s.Repeats (.stepScopeCall i) ↔ scope = s.scope := by
      simp [EngineState.Repeats, hi]
    by_cases hsame : scope = s.scope
    · -- two toggles come to nothing
      rw [if_pos (hrepeats.2 hsame), hsame, hscope,
        show s.writes + 1 + (repeated + 1) = s.writes + repeated + 1 + 1 by omega,
        Function.iterate_succ_apply', Function.iterate_succ_apply']
      rw [KubeEngine.toggled_toggled (hscope ▸ h.scope)]
    · rw [if_neg (mt hrepeats.1 hsame), KubeEngine.eq_toggled h.scope hnext hsame, hscope,
        show s.writes + 1 + (repeated + 0) = s.writes + repeated + 1 by omega,
        Function.iterate_succ_apply']
  case clears i next hi =>
    have hcount := @countP_set s i _ (.returned next) _ _ hi rfl rfl
    have hrepeats : ¬ s.Repeats (.stepScopeCall i) := by
      simp [EngineState.Repeats, hi]
    rw [if_neg hrepeats, Nat.add_right_cancel hcount]
    exact hscope

/-! ## Runs of toggles -/

/-- A step of the run has call `i` write a scope, and the scope is in force after it. -/
def Installs (engine : KubeEngine) (s : EngineState) (events : List EngineEvent) (i : ℕ)
    (next : KubeScope) : Prop :=
  ∃ before, before ++ [.stepScopeCall i] <+: events ∧
    (engine.run s before).scopeCalls[i]? = some (.awaitsScope next) ∧
    (engine.run s (before ++ [.stepScopeCall i])).scope = next

/-- The run ends in the scope that as many toggles make of the first, and each call returns the scope
that it put in force. -/
structure KeepsToggles (engine : KubeEngine) (s : EngineState) (events : List EngineEvent) : Prop where
  scope : (engine.run s events).scope =
    if Even (events.countP (·.callsToggle)) then s.scope else engine.toggled s.scope
  returned : ∀ i next, (engine.run s events).scopeCalls[i]? = some (.returned next) →
    Installs engine s events i next

/-- Each call of `toggle_scope` is among the calls. -/
theorem length_step (htoggles : e.toggles = true) :
    (engine.step s e).scopeCalls.length = s.scopeCalls.length + if e.callsToggle then 1 else 0 := by
  have hmove := @scopeMove_step engine s e htoggles
  generalize (engine.step s e).scope = scope, (engine.step s e).scopeCalls = calls at hmove ⊢
  cases hmove
  case stays hcalls hwrites => simp [hcalls]
  case calls => simp [EngineEvent.callsToggle]
  all_goals simp [EngineEvent.callsToggle]

/-- Every press that the run has is a call. -/
theorem length_run (events : List EngineEvent) (htoggles : ∀ e ∈ events, e.toggles = true) :
    (engine.run s events).scopeCalls.length =
      s.scopeCalls.length + events.countP (·.callsToggle) := by
  induction events generalizing s with
  | nil => rfl
  | cons e events ih =>
    have hlater := ih (s := engine.step s e) fun e' he' => htoggles e' (List.mem_cons_of_mem e he')
    have hstep := @length_step engine s e (htoggles e List.mem_cons_self)
    show (engine.run (engine.step s e) events).scopeCalls.length = _
    rw [hlater, hstep, List.countP_cons]
    omega

/-- Over a run, the scope is the first one toggled once for each write and once for each that repeats
the scope. -/
theorem scope_run (first : KubeScope) (repeated : ℕ) (events : List EngineEvent)
    (htoggles : ∀ e ∈ events, e.toggles = true) (h : s.Toggling engine)
    (hscope : s.scope = engine.toggled^[s.writes + repeated] first) :
    (engine.run s events).scope =
      engine.toggled^[(engine.run s events).writes +
        (repeated + Runs.count engine.step EngineState.Repeats s events)] first := by
  induction events generalizing s repeated with
  | nil => exact hscope
  | cons e events ih =>
    have he := htoggles e List.mem_cons_self
    have hlater := ih _ (fun e' he' => htoggles e' (List.mem_cons_of_mem e he')) (h.step he)
      (scope_step h he hscope)
    rw [Nat.add_assoc] at hlater
    exact hlater

/-- A call has written what it wrote before, or writes it now. -/
theorem written_step (htoggles : e.toggles = true) {i : ℕ} {call : ScopeCall} {next : KubeScope}
    (hi : (engine.step s e).scopeCalls[i]? = some call) (hnext : call.written = some next) :
    (∃ call', s.scopeCalls[i]? = some call' ∧ call'.written = some next) ∨
      e = .stepScopeCall i ∧ s.scopeCalls[i]? = some (.awaitsScope next) ∧
        (engine.step s e).scope = next := by
  have hmove := @scopeMove_step engine s e htoggles
  generalize (engine.step s e).scope = scope, (engine.step s e).scopeCalls = calls at hmove hi ⊢
  cases hmove
  case stays => exact .inl ⟨call, hi, hnext⟩
  case calls =>
    obtain rfl | hold := call_of_append hi
    · cases hnext
    · exact .inl ⟨call, hold, hnext⟩
  case reads j hj =>
    obtain ⟨-, rfl⟩ | ⟨-, hold⟩ := call_of_set hi
    · cases hnext
    · exact .inl ⟨call, hold, hnext⟩
  case writes j hj =>
    obtain ⟨rfl, rfl⟩ | ⟨-, hold⟩ := call_of_set hi
    · obtain rfl := Option.some.inj hnext
      exact .inr ⟨rfl, hj, rfl⟩
    · exact .inl ⟨call, hold, hnext⟩
  case clears j written hj =>
    obtain ⟨rfl, rfl⟩ | ⟨-, hold⟩ := call_of_set hi
    · exact .inl ⟨_, hj, hnext⟩
    · exact .inl ⟨call, hold, hnext⟩

/-- Each call has put in force what it has written. -/
theorem installs_of_written (hs : s.scopeCalls = []) {i : ℕ} {next : KubeScope}
    (events : List EngineEvent) (htoggles : ∀ e ∈ events, e.toggles = true) {call : ScopeCall}
    (hi : (engine.run s events).scopeCalls[i]? = some call) (hnext : call.written = some next) :
    Installs engine s events i next := by
  induction events using List.reverseRecOn generalizing call with
  | nil =>
    have hnone : s.scopeCalls[i]? = some call := hi
    simp [hs] at hnone
  | append_singleton events e ih =>
    have hlast : engine.run s (events ++ [e]) = engine.step (engine.run s events) e :=
      Runs.run_append engine.step s events [e]
    have hearlier := @ih fun e' he' => htoggles e' (List.mem_append_left _ he')
    rw [hlast] at hi
    obtain ⟨call', hi', hnext'⟩ | ⟨rfl, hi', hscope⟩ :=
      written_step (htoggles e (by simp)) hi hnext
    · obtain ⟨before, hbefore, hpending, hscope⟩ := hearlier hi' hnext'
      exact ⟨before, hbefore.trans (List.prefix_append _ _), hpending, hscope⟩
    · exact ⟨events, List.prefix_refl _, hi', by rw [hlast]; exact hscope⟩

/-- The engine starts in one of the two, if it was not given another namespace. -/
theorem toggling_connected {ns : Option String} (h : ∀ name ∈ ns, engine.scopedNamespace = name) :
    (KubeEngine.connected ns).Toggling engine where
  scope := by
    cases ns with
    | none => exact .inl rfl
    | some name => exact .inr (congrArg KubeScope.ofNamespace (h name rfl).symm)
  pending := nofun

/-- What `connect` makes: the engine scopes to the flag's namespace, else to the kubeconfig's. -/
theorem connect_eq_ok {quoted : String → String} {probe : Option (ClusterKind × String)}
    {floatMillis : String → Option UInt32} {kubeconfig : Except ClusterError String}
    {ns : Option String} (h : connect quoted probe floatMillis kubeconfig ns = .ok (engine, s)) :
    s = KubeEngine.connected ns ∧ (∀ name ∈ ns, isValidNamespace name = true) ∧
      ∃ default_namespace, kubeconfig = .ok default_namespace ∧
        engine.scopedNamespace = ns.getD default_namespace := by
  cases kubeconfig with
  | error err =>
    cases ns with
    | none => cases h
    | some name =>
      cases hvalid : isValidNamespace name
      · simp [connect, hvalid] at h
        cases h
      · simp only [connect, hvalid] at h
        cases h
  | ok default_namespace =>
    cases ns with
    | none =>
      obtain ⟨rfl, rfl⟩ := Prod.mk.inj (Except.ok.inj h)
      exact ⟨rfl, nofun, default_namespace, rfl, rfl⟩
    | some name =>
      cases hvalid : isValidNamespace name
      · simp [connect, hvalid] at h
        cases h
      · simp only [connect, hvalid] at h
        obtain ⟨rfl, rfl⟩ := Prod.mk.inj (Except.ok.inj h)
        exact ⟨rfl, fun name' hname' => Option.some.inj hname' ▸ hvalid, default_namespace, rfl, rfl⟩

/-- **Toggles.** When all calls of a run have returned, the scope is the one that as many toggles make,
and each call has returned the scope it put in force, exactly when an even number of the writes repeat
the scope in force. -/
theorem keepsToggles_iff_even {quoted : String → String} {probe : Option (ClusterKind × String)}
    {floatMillis : String → Option UInt32} {kubeconfig : Except ClusterError String}
    {ns : Option String} (hconnect : connect quoted probe floatMillis kubeconfig ns = .ok (engine, s))
    {events : List EngineEvent} (htoggles : ∀ e ∈ events, e.toggles = true)
    (hreturned : ∀ call ∈ (engine.run s events).scopeCalls, call.hasReturned = true) :
    KeepsToggles engine s events ↔ Even (Runs.count engine.step EngineState.Repeats s events) := by
  obtain ⟨rfl, -, default_namespace, -, hscoped⟩ := connect_eq_ok hconnect
  have htoggling : (KubeEngine.connected ns).Toggling engine :=
    toggling_connected fun name hname => by rw [hscoped, Option.mem_def.1 hname]; rfl
  have hwrites : (engine.run (KubeEngine.connected ns) events).writes =
      events.countP (·.callsToggle) := by
    have hlength := @length_run engine (KubeEngine.connected ns) events htoggles
    rw [EngineState.writes, List.countP_eq_length.2, hlength]
    · exact Nat.zero_add _
    · intro call hcall
      have hlast := hreturned call hcall
      cases call <;> first | rfl | cases hlast
  have hscope := scope_run (KubeEngine.connected ns).scope 0 events htoggles htoggling rfl
  rw [hwrites, Nat.zero_add, KubeEngine.iterate_toggled htoggling.scope] at hscope
  simp only [Nat.even_add] at hscope
  have hne := @KubeEngine.toggled_ne engine (KubeEngine.connected ns).scope
  constructor
  · rintro ⟨hkept, -⟩
    by_contra hodd
    rw [hscope] at hkept
    simp only [hodd, iff_false] at hkept
    by_cases hcalls : Even (events.countP (·.callsToggle))
    · rw [if_neg (not_not_intro hcalls), if_pos hcalls] at hkept
      exact hne hkept
    · rw [if_pos hcalls, if_neg hcalls] at hkept
      exact hne hkept.symm
  · intro heven
    refine ⟨?_, fun i next hi => installs_of_written rfl events htoggles hi rfl⟩
    rw [hscope]
    simp only [heven, iff_true]

/-- Two presses, the second after the first has been carried out. -/
def pressedTwice : List EngineEvent :=
  [.callToggleScope, .stepScopeCall 0, .stepScopeCall 0, .stepScopeCall 0,
    .callToggleScope, .stepScopeCall 1, .stepScopeCall 1, .stepScopeCall 1]

/-- Two presses, both of which read the scope before either writes it. -/
def pressedAtOnce : List EngineEvent :=
  [.callToggleScope, .callToggleScope, .stepScopeCall 0, .stepScopeCall 1,
    .stepScopeCall 0, .stepScopeCall 1, .stepScopeCall 0, .stepScopeCall 1]

/-- An engine without a flag, whose kubeconfig declares a namespace. -/
def unscopedEngine : KubeEngine where
  clusterKind := .generic
  serverVersion := none
  scopedNamespace := "default"
  floatMillis _ := none

/-- Two presses that overlap count as one. -/
theorem keepsToggles_iff_even_pressedTwice :
    KeepsToggles unscopedEngine (KubeEngine.connected none) pressedTwice :=
  (@keepsToggles_iff_even unscopedEngine _ id none (fun _ => none) (.ok "default") none rfl pressedTwice
    (by decide) (by decide)).2 (by decide)

/-- The second of two presses at once is lost. -/
theorem not_keepsToggles_pressedAtOnce :
    ¬ ∀ events : List EngineEvent, (∀ e ∈ events, e.toggles = true) →
      (∀ call ∈ (unscopedEngine.run (KubeEngine.connected none) events).scopeCalls,
        call.hasReturned = true) →
      KeepsToggles unscopedEngine (KubeEngine.connected none) events := by
  intro h
  exact absurd (h pressedAtOnce (by decide) (by decide)).scope (by decide)

/-! ## Calls one at a time -/

/-- At most one call has still to write, and what it writes is not in force. -/
def EngineState.Serial (s : EngineState) : Prop :=
  ∀ (i : ℕ) (call : ScopeCall) (next : KubeScope), s.scopeCalls[i]? = some call →
    call.pending = some next →
      next ≠ s.scope ∧ ∀ (j : ℕ) (call' : ScopeCall), s.scopeCalls[j]? = some call' →
        call'.pending.isSome = true → j = i

/-- Calls of which each pending one was there before are as serial as they were. -/
theorem EngineState.Serial.of_pending (h : s.Serial) {calls : List ScopeCall}
    (hold : ∀ (i : ℕ) (call : ScopeCall), calls[i]? = some call → call.pending.isSome = true →
      s.scopeCalls[i]? = some call)
    (i : ℕ) (call : ScopeCall) (next : KubeScope) (hi : calls[i]? = some call)
    (hnext : call.pending = some next) :
    next ≠ s.scope ∧ ∀ (j : ℕ) (call' : ScopeCall), calls[j]? = some call' →
      call'.pending.isSome = true → j = i := by
  obtain ⟨hne, honly⟩ := h i call next (hold i call hi (by rw [hnext]; rfl)) hnext
  exact ⟨hne, fun j call' hj hpending => honly j call' (hold j call' hj hpending) hpending⟩

/-- Calls one at a time read what the one before has written. -/
theorem EngineState.Serial.step (h : s.Serial) (htoggles : e.toggles = true) (hstale : ¬ s.ReadsStale e) :
    (engine.step s e).Serial := by
  have hmove := @scopeMove_step engine s e htoggles
  unfold EngineState.Serial
  generalize (engine.step s e).scope = scope, (engine.step s e).scopeCalls = calls at hmove ⊢
  cases hmove
  case stays => exact h
  case calls =>
    refine EngineState.Serial.of_pending h fun i call hi hpending => ?_
    obtain rfl | hold := call_of_append hi
    · cases hpending
    · exact hold
  case reads k hk =>
    -- no other call is pending, or the read would be stale
    have hnone (call : ScopeCall) (hcall : call ∈ s.scopeCalls) : call.pending.isSome = false := by
      by_contra hpending
      exact hstale ⟨hk, List.any_eq_true.2 ⟨call, hcall, eq_true_of_ne_false hpending⟩⟩
    have honly {i : ℕ} {call : ScopeCall}
        (hi : (s.scopeCalls.set k (.awaitsScope (engine.toggled s.scope)))[i]? = some call)
        (hpending : call.pending.isSome = true) :
        i = k ∧ call = .awaitsScope (engine.toggled s.scope) := by
      obtain ⟨rfl, hcall⟩ | ⟨-, hold⟩ := call_of_set hi
      · exact ⟨rfl, hcall⟩
      · rw [hnone call (List.mem_of_getElem? hold)] at hpending
        cases hpending
    intro i call next hi hnext
    obtain ⟨rfl, rfl⟩ := honly hi (by rw [hnext]; rfl)
    obtain rfl := Option.some.inj hnext
    exact ⟨KubeEngine.toggled_ne s.scope, fun j call' hj hpending => (honly hj hpending).1⟩
  case writes k hk =>
    -- the only pending call writes
    intro i call next hi hnext
    obtain ⟨-, rfl⟩ | ⟨hne, hold⟩ := call_of_set hi
    · cases hnext
    · exact absurd ((h k _ scope hk rfl).2 i call hold (by rw [hnext]; rfl)).symm hne
  case clears k written hk =>
    refine EngineState.Serial.of_pending h fun i call hi hpending => ?_
    obtain ⟨-, rfl⟩ | ⟨-, hold⟩ := call_of_set hi
    · cases hpending
    · exact hold

/-- While no call reads the scope that another is about to write, no write repeats the scope. -/
theorem count_repeats_of_serial (events : List EngineEvent) (htoggles : ∀ e ∈ events, e.toggles = true)
    (h : s.Serial) (hserial : Runs.Along engine.step (fun s e => ¬ s.ReadsStale e) s events) :
    Runs.count engine.step EngineState.Repeats s events = 0 := by
  induction events generalizing s with
  | nil => rfl
  | cons e events ih =>
    obtain ⟨hstale, hlater⟩ := hserial
    have hrepeats : ¬ s.Repeats e := by
      cases e
      case stepScopeCall i => exact fun hi => (h i _ _ hi rfl).1 rfl
      all_goals exact id
    have hrest := ih (fun e' he' => htoggles e' (List.mem_cons_of_mem e he'))
      (h.step (htoggles e List.mem_cons_self) hstale) hlater
    rw [Runs.count, if_neg hrepeats, hrest]

end Muxtop.Core
