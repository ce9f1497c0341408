import Muxtop.Core.ScopeToggles

/-!
# Which namespaces reach a path

`connect` checks the namespace of the flag. Without a flag, the engine scopes to the namespace that the
kubeconfig declares, which nothing checks, as soon as a call of `toggle_scope` writes the scope.
-/

namespace Muxtop.Core

variable {engine : KubeEngine} {s : EngineState} {e : EngineEvent}

/-- The namespace of a scope is a DNS-1123 label and passes the check, and the path of the pod metrics
holds it as one segment between the fixed ones. -/
structure PathSafe (ns : String) : Prop where
  valid : isValidNamespace ns = true
  label : DnsLabel ns
  segments : segments (podMetricsPath (.ofNamespace ns)) =
    ["", "apis", "metrics.k8s.io", "v1beta1", "namespaces", ns, "pods"]
  query : '?' ∉ (podMetricsPath (.ofNamespace ns)).toList
  fragment : '#' ∉ (podMetricsPath (.ofNamespace ns)).toList

theorem pathSafe_iff {ns : String} : PathSafe ns ↔ isValidNamespace ns = true := by
  constructor
  · exact PathSafe.valid
  · intro hvalid
    have hlabel := isValidNamespace_iff.1 hvalid
    obtain ⟨hsegments, hquery, hfragment⟩ := podMetricsPath_segments hlabel
    exact ⟨hvalid, hlabel, hsegments, hquery, hfragment⟩

namespace EngineState

/-- Whatever namespace the engine is scoped to is safe in a path. -/
def ScopeSafe (s : EngineState) : Prop := ∀ ns ∈ s.scope.namespace, PathSafe ns

/-- The step has a call write a namespace into the scope. -/
def ScopesDown (s : EngineState) : EngineEvent → Prop
  | .stepScopeCall i => ((s.scopeCalls[i]?).bind (·.pending)).any (·.namespace.isSome)
  | _ => False

instance (s : EngineState) : DecidablePred s.ScopesDown
  | .stepScopeCall _ => inferInstanceAs (Decidable (_ = true))
  | .tick | .answered _ | .writeResources _ | .cancel | .writeMetrics _ | .callToggleScope
  | .callSetScope _ | .callSnapshot | .stepSnapshotCall _ _ => inferInstanceAs (Decidable False)

/-- A scope that is one of the engine's two is safe if the engine's namespace is valid. -/
theorem scopeSafe_of_valid (h : s.Toggling engine)
    (hvalid : isValidNamespace engine.scopedNamespace = true) : s.ScopeSafe := by
  intro ns hns
  rw [pathSafe_iff]
  obtain hall | hscoped := h.scope
  · rw [hall] at hns
    cases hns
  · rw [hscoped] at hns
    obtain rfl := Option.some.inj hns
    exact hvalid

/-- If it is not, only the cluster-wide scope is safe. -/
theorem scopeSafe_iff (h : s.Toggling engine)
    (hinvalid : isValidNamespace engine.scopedNamespace = false) :
    s.ScopeSafe ↔ s.scope = .allNamespaces := by
  constructor
  · intro hsafe
    obtain hall | hscoped := h.scope
    · exact hall
    · have hpath := hsafe engine.scopedNamespace (by rw [hscoped]; rfl)
      rw [pathSafe_iff, hinvalid] at hpath
      cases hpath
  · intro hall ns hns
    rw [hall] at hns
    cases hns

/-- A cluster-wide engine stays so unless a call writes a namespace. -/
theorem scope_step_iff (hall : s.scope = .allNamespaces) (htoggles : e.toggles = true) :
    (engine.step s e).scope = .allNamespaces ↔ ¬ s.ScopesDown e := by
  have hmove := @scopeMove_step engine s e htoggles
  generalize (engine.step s e).scope = scope, (engine.step s e).scopeCalls = calls at hmove ⊢
  cases hmove
  case stays hcalls hwrites =>
    refine iff_of_true hall fun hdown => ?_
    cases e
    case stepScopeCall i =>
      cases hi : s.scopeCalls[i]? with
      | none => simp [ScopesDown, hi] at hdown
      | some call =>
        cases call
        case awaitsScope next => exact hwrites i next rfl hi
        all_goals simp [ScopesDown, hi, ScopeCall.pending] at hdown
    all_goals exact hdown
  case calls => exact iff_of_true hall id
  case reads i hi => exact iff_of_true hall (by simp [ScopesDown, hi, ScopeCall.pending])
  case writes i hi =>
    cases scope <;> simp [ScopesDown, hi, ScopeCall.pending, KubeScope.namespace]
  case clears i next hi => exact iff_of_true hall (by simp [ScopesDown, hi, ScopeCall.pending])

end EngineState

/-- With a kubeconfig namespace that is not valid, a run from a cluster-wide state is safe throughout
when no call in it writes a namespace. -/
theorem forall_scopeSafe_iff (hinvalid : isValidNamespace engine.scopedNamespace = false)
    (events : List EngineEvent) (htoggles : ∀ e ∈ events, e.toggles = true)
    (h : s.Toggling engine) (hall : s.scope = .allNamespaces) :
    (∀ before, before <+: events → (engine.run s before).ScopeSafe) ↔
      Runs.Along engine.step (fun s e => ¬ s.ScopesDown e) s events := by
  unfold KubeEngine.run
  rw [Runs.forall_prefix_iff, and_iff_right ((EngineState.scopeSafe_iff h hinvalid).2 hall)]
  induction events generalizing s with
  | nil => exact Iff.rfl
  | cons e events ih =>
    have he := htoggles e List.mem_cons_self
    have hstep : (engine.step s e).ScopeSafe ↔ ¬ s.ScopesDown e := by
      rw [EngineState.scopeSafe_iff (h.step he) hinvalid, EngineState.scope_step_iff hall he]
    simp only [Runs.Along, hstep]
    refine and_congr_right fun hdown => ?_
    exact ih (fun e' he' => htoggles e' (List.mem_cons_of_mem e he')) (h.step he)
      ((EngineState.scope_step_iff hall he).2 hdown)

theorem along_toggles (events : List EngineEvent) (htoggles : ∀ e ∈ events, e.toggles = true) :
    Runs.Along engine.step (fun _ e => e.toggles = true) s events := by
  induction events generalizing s with
  | nil => trivial
  | cons e events ih =>
    exact ⟨htoggles e List.mem_cons_self, ih fun e' he' => htoggles e' (List.mem_cons_of_mem e he')⟩

/-- **Namespaces in paths.** In every run of toggles and polls after `connect`, every scope is safe in a
path exactly when the flag gave a namespace, or the kubeconfig's is valid, or no call of the run writes
a namespace into the scope. -/
theorem scopeSafe_run_iff {quoted : String → String} {probe : Option (ClusterKind × String)}
    {floatMillis : String → Option UInt32} {default_namespace : String} {ns : Option String}
    (hconnect : connect quoted probe floatMillis (.ok default_namespace) ns = .ok (engine, s))
    {events : List EngineEvent} (htoggles : ∀ e ∈ events, e.toggles = true) :
    (∀ before, before <+: events → (engine.run s before).ScopeSafe) ↔
      ns.isSome = true ∨ isValidNamespace default_namespace = true ∨
        Runs.Along engine.step (fun s e => ¬ s.ScopesDown e) s events := by
  obtain ⟨rfl, hflag, default_namespace', hdefault, hscoped⟩ := connect_eq_ok hconnect
  obtain rfl := Except.ok.inj hdefault
  have htoggling : (KubeEngine.connected ns).Toggling engine :=
    toggling_connected fun name hname => by rw [hscoped, Option.mem_def.1 hname]; rfl
  cases hvalid : isValidNamespace engine.scopedNamespace with
  | true =>
    have hsource : ns.isSome = true ∨ isValidNamespace default_namespace = true := by
      cases ns with
      | some name => exact .inl rfl
      | none =>
        have hname : engine.scopedNamespace = default_namespace := hscoped
        exact .inr (hname ▸ hvalid)
    refine iff_of_true (fun before hbefore => ?_) (or_assoc.1 (.inl hsource))
    have hkept : (engine.run (KubeEngine.connected ns) before).Toggling engine := by
      have hall : Runs.Along engine.step (fun _ e => e.toggles = true) (KubeEngine.connected ns) before :=
        along_toggles before fun e he => htoggles e (hbefore.subset he)
      exact Runs.along_invariant (fun _ _ he h => h.step he) before hall htoggling
    exact EngineState.scopeSafe_of_valid hkept hvalid
  | false =>
    cases ns with
    | some name =>
      have hname : engine.scopedNamespace = name := hscoped
      rw [hname, hflag name rfl] at hvalid
      cases hvalid
    | none =>
      have hname : engine.scopedNamespace = default_namespace := hscoped
      rw [forall_scopeSafe_iff hvalid events htoggles htoggling rfl, ← hname, hvalid]
      simp

/-- An engine whose kubeconfig declares a namespace that is not one. -/
def injectedEngine : KubeEngine where
  clusterKind := .generic
  serverVersion := none
  scopedNamespace := "a/secrets?x="
  floatMillis _ := none

theorem scopeSafe_run_iff_validDefault :
    isValidNamespace "default" = true ∧
      ∀ before, before <+: pressedTwice →
        (unscopedEngine.run (KubeEngine.connected none) before).ScopeSafe := by
  have hvalid : isValidNamespace "default" = true := by decide
  refine ⟨hvalid, ?_⟩
  exact (@scopeSafe_run_iff unscopedEngine _ id none (fun _ => none) "default" none rfl pressedTwice
    (by decide)).2 (.inr (.inl hvalid))

/-- One toggle puts the kubeconfig's namespace into the path. -/
theorem not_scopeSafe_injected :
    ¬ ∀ events : List EngineEvent, (∀ e ∈ events, e.toggles = true) →
      ∀ before, before <+: events →
        (injectedEngine.run (KubeEngine.connected none) before).ScopeSafe := by
  intro h
  have hsafe := h [.callToggleScope, .stepScopeCall 0, .stepScopeCall 0] (by decide) _
    (List.prefix_refl _) "a/secrets?x=" rfl
  exact absurd hsafe.query (by decide)

end Muxtop.Core
