import Muxtop.Core.KubeEngine

/-!
# Which scope a snapshot shows

A snapshot names the scope it shows, and its rows should be of that scope. The name and the rows
are read under two locks, and so are the scope and the cache written, so a change of scope that
lands in the wrong place shows: between the lists of a tick and the write of the cache, between
the rows of a snapshot and its name, and between the two writes of the change itself, when a
snapshot starts there.

These are the only places. `Races` says when a step takes one of them with rows of another
namespace at hand: a run without such a step publishes no snapshot out of scope, and each such
step can be followed by one.
-/

namespace Muxtop.Core

/-- Nothing but the named namespace, unless the name is empty. -/
def OnlyOf (label : String) (namespaces : List String) : Prop :=
  label ≠ "" → ∀ ns ∈ namespaces, ns = label

instance (label : String) (namespaces : List String) : Decidable (OnlyOf label namespaces) :=
  inferInstanceAs (Decidable (_ → _))

/-- The namespaces of pods and deployments, as a snapshot gives them. -/
def objectNamespaces (pods : List Api.Pod) (deployments : List Api.Deployment) : List String :=
  pods.map (·.metadata.namespace.getD "") ++ deployments.map (·.metadata.namespace.getD "")

def ResourceCache.namespaces (cache : ResourceCache) : List String :=
  objectNamespaces cache.pods cache.deployments

def Lists.namespaces (lists : Lists) : List String :=
  objectNamespaces (lists.pods.getD []) (lists.deployments.getD [])

def Rows.namespaces (rows : Rows) : List String :=
  rows.pods.map (·.namespace) ++ rows.deployments.map (·.namespace)

/-- The pods and deployments of the snapshot are of the namespace it names. -/
def KubeSnapshot.InScope (snapshot : KubeSnapshot) : Prop :=
  OnlyOf snapshot.currentNamespace
    (snapshot.pods.map (·.namespace) ++ snapshot.deployments.map (·.namespace))

instance (snapshot : KubeSnapshot) : Decidable snapshot.InScope :=
  inferInstanceAs (Decidable (OnlyOf _ _))

namespace EngineState

/-- A change of scope has written the scope and has still to clear the cache. -/
def clearDue (s : EngineState) : Prop := ∃ next, .awaitsClear next ∈ s.scopeCalls

instance (s : EngineState) : Decidable s.clearDue :=
  decidable_of_iff (s.scopeCalls.any (fun | .awaitsClear _ => true | _ => false) = true) (by
    rw [List.any_eq_true]
    constructor
    · rintro ⟨call, hmem, hawaits⟩
      cases call <;> first | exact ⟨_, hmem⟩ | contradiction
    · exact fun ⟨next, hmem⟩ => ⟨_, hmem, rfl⟩)

/-- The step is taken, overlaps with a change of scope, and has rows of another namespace at hand:
the poll loop writes what it listed under a scope that is no longer in force; a change of scope
lands while a snapshot is under way; or a snapshot starts before the change has cleared. -/
def Races (s : EngineState) : EngineEvent → Prop
  | .writeResources _ =>
    ∃ scope lists, s.loop = .awaitsCache scope lists ∧ s.resourcesFree ∧ scope ≠ s.scope ∧
      ¬ s.clearDue ∧ ¬ OnlyOf s.scope.label lists.namespaces
  | .stepScopeCall i =>
    ∃ next, s.scopeCalls[i]? = some (.awaitsScope next) ∧ ¬ s.resourcesFree ∧
      ¬ OnlyOf next.label s.resources.namespaces
  | .callSnapshot => s.clearDue ∧ ¬ OnlyOf s.scope.label s.resources.namespaces
  | _ => False

end EngineState

variable {engine : KubeEngine} {s : EngineState}

/-! ## Rows and where they come from -/

/-- Nothing is of any other namespace. -/
theorem onlyOf_nil (label : String) : OnlyOf label [] := fun _ _ h => absurd h List.not_mem_nil

/-- What is left of some rows is of the namespace that they were of. -/
theorem OnlyOf.mono {label : String} {inner outer : List String} (h : OnlyOf label outer)
    (hsub : inner ⊆ outer) : OnlyOf label inner :=
  fun hlabel ns hns => h hlabel ns (hsub hns)

/-- Rows of both kinds are of one namespace. -/
theorem onlyOf_append {label : String} {xs ys : List String} :
    OnlyOf label (xs ++ ys) ↔ OnlyOf label xs ∧ OnlyOf label ys := by
  simp only [OnlyOf, List.forall_mem_append, ← imp_and]

/-- The rows of a snapshot have the namespaces that their objects had in the cache. -/
@[simp] theorem namespaces_rows (resources : ResourceCache) (metrics : MetricsCache)
    (nowMs : UInt64) : (engine.rows resources metrics nowMs).namespaces = resources.namespaces := by
  simp [KubeEngine.rows, Rows.namespaces, ResourceCache.namespaces, objectNamespaces,
    Function.comp_def]

/-- A snapshot is in scope when its rows are of the namespace that it names. -/
theorem inScope_snapshotOf (rows : Rows) (scope : KubeScope) :
    (engine.snapshotOf rows scope).InScope ↔ OnlyOf scope.label rows.namespaces := Iff.rfl

/-- What the API server answers is of the scope it was asked about. -/
theorem onlyOf_answer {lists : Lists} {scope : KubeScope} (h : lists.answer scope) :
    OnlyOf scope.label lists.namespaces := by
  intro hlabel ns hns
  obtain ⟨name, hname⟩ : ∃ name, scope.namespace = some name :=
    Option.ne_none_iff_exists'.mp fun hnone => hlabel (by rw [KubeScope.label, hnone]; rfl)
  have hlabel : scope.label = name := by rw [KubeScope.label, hname]; rfl
  obtain ⟨hpods, hdeployments⟩ := h name hname
  rw [Lists.namespaces, objectNamespaces, List.mem_append, List.mem_map, List.mem_map] at hns
  obtain ⟨pod, hmem, rfl⟩ | ⟨d, hmem, rfl⟩ := hns
  · rw [hpods pod hmem, hlabel]; rfl
  · rw [hdeployments d hmem, hlabel]; rfl

/-- A write leaves rows of the lists and of the lists that failed. -/
theorem onlyOf_write {cache : ResourceCache} {lists : Lists} {label : String} (nowMs : UInt64)
    (hcache : OnlyOf label cache.namespaces) (hlists : OnlyOf label lists.namespaces) :
    OnlyOf label (cache.write lists nowMs).namespaces := by
  obtain ⟨hpods, hdeployments⟩ := onlyOf_append.mp hcache
  obtain ⟨hpods', hdeployments'⟩ := onlyOf_append.mp hlists
  refine onlyOf_append.mpr ⟨?_, ?_⟩
  · cases hlist : lists.pods <;> simp_all [ResourceCache.write]
  · cases hlist : lists.deployments <;> simp_all [ResourceCache.write]

/-- A write leaves all the rows of the lists. -/
theorem namespaces_subset_write (cache : ResourceCache) (lists : Lists) (nowMs : UInt64) :
    lists.namespaces ⊆ (cache.write lists nowMs).namespaces := by
  refine List.append_subset.mpr ⟨?_, ?_⟩
  · refine List.Subset.trans ?_ (List.subset_append_left _ _)
    cases hlist : lists.pods <;> simp [ResourceCache.write, hlist]
  · refine List.Subset.trans ?_ (List.subset_append_right _ _)
    cases hlist : lists.deployments <;> simp [ResourceCache.write, hlist]

/-! ## What the locks keep in every run -/

/-- A change at one place leaves what stands at the others. -/
theorem mem_set_of_mem_of_ne {α : Type*} {l : List α} {i : ℕ} {a b : α} (h : a ∈ l)
    (hne : l[i]? ≠ some a) : a ∈ l.set i b := by
  obtain ⟨j, hj⟩ := List.mem_iff_getElem?.mp h
  have hij : i ≠ j := fun heq => hne (heq ▸ hj)
  exact List.mem_iff_getElem?.mpr ⟨j, by rw [List.getElem?_set_ne hij, hj]⟩

/-- What has been published is what some call has returned. -/
theorem mem_published {snapshot : KubeSnapshot} :
    snapshot ∈ s.published ↔ .returned snapshot ∈ s.snapshotCalls := by
  rw [EngineState.published, List.mem_filterMap]
  constructor
  · rintro ⟨call, hcall, hreturned⟩
    cases call <;> simp_all
  · exact fun h => ⟨_, h, rfl⟩

/-- A call that has taken the metrics cache holds the resource cache too. -/
theorem notMem_awaitsScope_of_free (hfree : s.resourcesFree = true) (rows : Rows) :
    .awaitsScope rows ∉ s.snapshotCalls := fun hmem => by
  simpa [SnapshotCall.hasReturned] using List.all_eq_true.mp hfree _ hmem

/-- A call that is under way holds the resource cache. -/
theorem held_of_getElem? {i : ℕ} {call : SnapshotCall} (h : s.snapshotCalls[i]? = some call)
    (hreturned : call.hasReturned = false) : s.resourcesFree = false :=
  List.all_eq_false.mpr ⟨call, List.mem_of_getElem? h, by simp [hreturned]⟩

/-- What is held under a lock is what the lock protects, and the lists are what was asked for. -/
structure EngineState.Locked (s : EngineState) : Prop where
  rows : ∀ rows, .awaitsScope rows ∈ s.snapshotCalls → rows.namespaces = s.resources.namespaces
  answered : ∀ scope lists, s.loop = .awaitsCache scope lists →
    OnlyOf scope.label lists.namespaces

/-- At the start no lock is held. -/
theorem locked_connected (ns : Option String) : (KubeEngine.connected ns).Locked where
  rows _ h := absurd h List.not_mem_nil
  answered _ _ h := by cases h

/-- A write to the resource cache takes the lock, so no call holds rows of it. -/
theorem EngineState.Locked.of_free {s' : EngineState} (h : s.Locked) (hfree : s.resourcesFree = true)
    (hsnapshots : s'.snapshotCalls = s.snapshotCalls)
    (hloop : ∀ scope lists, s'.loop = .awaitsCache scope lists → s.loop = .awaitsCache scope lists) :
    s'.Locked where
  rows rows hmem := by
    rw [hsnapshots] at hmem
    exact absurd hmem (notMem_awaitsScope_of_free hfree rows)
  answered scope lists hawaits := h.answered scope lists (hloop scope lists hawaits)

/-- The lists that are answered are of the scope they were asked under. -/
theorem locked_answered (h : s.Locked) (lists : Lists) : (engine.step s (.answered lists)).Locked := by
  simp only [KubeEngine.step]
  split
  case h_2 => exact h
  case h_1 =>
    split
    case isFalse => exact h
    case isTrue hanswer =>
      refine ⟨h.rows, fun scope lists hloop => ?_⟩
      obtain ⟨rfl, rfl⟩ := ResourceLoop.awaitsCache.inj hloop
      exact onlyOf_answer hanswer

/-- The loop writes the cache only while no snapshot holds it. -/
theorem locked_writeResources (h : s.Locked) (nowMs : UInt64) :
    (engine.step s (.writeResources nowMs)).Locked := by
  simp only [KubeEngine.step]
  split
  case h_2 => exact h
  case h_1 =>
    split
    case isFalse => exact h
    case isTrue hfree => exact h.of_free hfree rfl fun _ _ hloop => by cases hloop

/-- So does a change of scope. -/
theorem locked_stepScopeCall (h : s.Locked) (i : ℕ) : (engine.step s (.stepScopeCall i)).Locked := by
  simp only [KubeEngine.step, KubeEngine.stepScopeCall]
  split
  case h_1 => exact ⟨h.rows, h.answered⟩
  case h_2 => exact ⟨h.rows, h.answered⟩
  case h_3 =>
    split
    case isFalse => exact h
    case isTrue hfree => exact h.of_free hfree rfl fun _ _ hloop => hloop
  case h_4 => exact h

/-- A call that holds the rows has just read the cache. -/
theorem locked_stepSnapshotCall (h : s.Locked) (i : ℕ) (nowMs : UInt64) :
    (engine.step s (.stepSnapshotCall i nowMs)).Locked := by
  simp only [KubeEngine.step, KubeEngine.stepSnapshotCall]
  split
  case h_1 =>
    refine ⟨fun rows hmem => ?_, h.answered⟩
    obtain hold | hnew := List.mem_or_eq_of_mem_set hmem
    · exact h.rows rows hold
    · rw [SnapshotCall.awaitsScope.inj hnew, namespaces_rows]
  case h_2 =>
    refine ⟨fun rows hmem => ?_, h.answered⟩
    obtain hold | hnew := List.mem_or_eq_of_mem_set hmem
    · exact h.rows rows hold
    · cases hnew
  case h_3 => exact h

/-- A call that has begun holds nothing yet. -/
theorem locked_callSnapshot (h : s.Locked) : (engine.step s .callSnapshot).Locked := by
  refine ⟨fun rows hmem => ?_, h.answered⟩
  obtain hold | hnew := List.mem_append.mp hmem
  · exact h.rows rows hold
  · cases List.mem_singleton.mp hnew

/-- Any step, by the one who takes it. -/
theorem locked_step (h : s.Locked) (e : EngineEvent) : (engine.step s e).Locked := by
  cases e with
  | tick =>
    simp only [KubeEngine.step]
    split
    case h_1 => exact ⟨h.rows, fun _ _ hloop => by cases hloop⟩
    case h_2 => exact h
  | answered lists => exact locked_answered h lists
  | writeResources nowMs => exact locked_writeResources h nowMs
  | cancel => exact ⟨h.rows, fun _ _ hloop => by cases hloop⟩
  | writeMetrics metrics =>
    simp only [KubeEngine.step]
    split
    case isTrue => exact ⟨h.rows, h.answered⟩
    case isFalse => exact h
  | callToggleScope => exact ⟨h.rows, h.answered⟩
  | callSetScope next => exact ⟨h.rows, h.answered⟩
  | stepScopeCall i => exact locked_stepScopeCall h i
  | callSnapshot => exact locked_callSnapshot h
  | stepSnapshotCall i nowMs => exact locked_stepSnapshotCall h i nowMs

/-- The locks hold in every run. -/
theorem locked_run (ns : Option String) (events : List EngineEvent) :
    (engine.run (KubeEngine.connected ns) events).Locked :=
  Runs.run_invariant (I := EngineState.Locked) (fun _ e h => locked_step h e) events
    (locked_connected ns)

/-! ## Runs without races -/

/-- The cache is of the scope in force, or is to be cleared before anything reads it. -/
structure EngineState.Scoped (s : EngineState) : Prop where
  fresh : OnlyOf s.scope.label s.resources.namespaces ∨ s.clearDue
  inView : s.resourcesFree = false → OnlyOf s.scope.label s.resources.namespaces
  published : ∀ snapshot ∈ s.published, snapshot.InScope

/-- At the start the cache is empty, which is of any scope. -/
theorem scoped_connected (ns : Option String) : (KubeEngine.connected ns).Scoped where
  fresh := Or.inl (onlyOf_nil _)
  inView _ := onlyOf_nil _
  published _ h := absurd h List.not_mem_nil

/-- A state with the same scope, cache and calls of `snapshot`, and all that is to be cleared. -/
theorem EngineState.Scoped.of_eq {s' : EngineState} (h : s.Scoped) (hscope : s'.scope = s.scope)
    (hresources : s'.resources = s.resources) (hsnapshots : s'.snapshotCalls = s.snapshotCalls)
    (hdue : s.clearDue → s'.clearDue) : s'.Scoped where
  fresh := by
    rw [hscope, hresources]
    exact h.fresh.imp_right hdue
  inView hheld := by
    rw [EngineState.resourcesFree, hsnapshots] at hheld
    rw [hscope, hresources]
    exact h.inView hheld
  published snapshot hmem := h.published snapshot (by
    rwa [mem_published, hsnapshots, ← mem_published] at hmem)

/-- Without a race the loop writes rows of the scope in force, or ones to be cleared. -/
theorem scoped_writeResources (hlocked : s.Locked) (h : s.Scoped) {nowMs : UInt64}
    (hrace : ¬ s.Races (.writeResources nowMs)) :
    (engine.step s (.writeResources nowMs)).Scoped := by
  simp only [KubeEngine.step]
  split
  case h_2 => exact h
  case h_1 scope lists hloop =>
    split
    case isFalse => exact h
    case isTrue hfree =>
      refine ⟨?_, fun hheld => absurd (hfree.symm.trans hheld) (by decide), h.published⟩
      obtain hfresh | hdue := h.fresh
      · by_cases hdue : s.clearDue
        · exact Or.inr hdue
        -- what was listed under the scope in force is of it, and anything else would race
        refine Or.inl (onlyOf_write nowMs hfresh ?_)
        by_cases hscope : scope = s.scope
        · exact hscope ▸ hlocked.answered scope lists hloop
        · by_contra hlists
          exact hrace ⟨scope, lists, hloop, hfree, hscope, hdue, hlists⟩
      · exact Or.inr hdue

/-- Without a race the scope changes under no snapshot that holds rows of another namespace. -/
theorem scoped_stepScopeCall (h : s.Scoped) {i : ℕ} (hrace : ¬ s.Races (.stepScopeCall i)) :
    (engine.step s (.stepScopeCall i)).Scoped := by
  simp only [KubeEngine.step, KubeEngine.stepScopeCall]
  split
  case h_1 htoggle =>
    refine h.of_eq rfl rfl rfl fun ⟨next, hmem⟩ => ⟨next, mem_set_of_mem_of_ne hmem ?_⟩
    simp [htoggle]
  case h_2 next hset =>
    -- what the cache holds may be out of the new scope, but this call will clear it
    refine ⟨Or.inr ⟨next, List.mem_set ?_ _⟩, fun hheld => ?_, h.published⟩
    · exact (List.getElem?_eq_some_iff.mp hset).1
    · by_contra hout
      have hheld : s.resourcesFree = false := hheld
      exact hrace ⟨next, hset, by simp [hheld], hout⟩
  case h_3 next hclear =>
    split
    case isFalse => exact h
    case isTrue hfree =>
      exact ⟨Or.inl (onlyOf_nil _), fun _ => onlyOf_nil _, h.published⟩
  case h_4 => exact h

/-- Without a race a call begins on rows of the scope in force. -/
theorem scoped_callSnapshot (h : s.Scoped) (hrace : ¬ s.Races .callSnapshot) :
    (engine.step s .callSnapshot).Scoped := by
  refine ⟨h.fresh, fun _ => ?_, fun snapshot hmem => h.published snapshot ?_⟩
  · by_contra hout
    exact hrace ⟨h.fresh.resolve_left hout, hout⟩
  · rw [mem_published] at hmem ⊢
    exact (List.mem_append.mp hmem).resolve_right (by simp)

/-- A call returns its rows under the scope that it reads last, which is theirs. -/
theorem scoped_stepSnapshotCall (hlocked : s.Locked) (h : s.Scoped) (i : ℕ) (nowMs : UInt64) :
    (engine.step s (.stepSnapshotCall i nowMs)).Scoped := by
  simp only [KubeEngine.step, KubeEngine.stepSnapshotCall]
  split
  case h_1 hawaits =>
    refine ⟨h.fresh, fun _ => h.inView (held_of_getElem? hawaits rfl), fun snapshot hmem => ?_⟩
    obtain hold | hnew := List.mem_or_eq_of_mem_set (mem_published.mp hmem)
    · exact h.published snapshot (mem_published.mpr hold)
    · cases hnew
  case h_2 rows hawaits =>
    -- the cache has been locked since the rows were computed, so they are its rows still
    have hview := h.inView (held_of_getElem? hawaits rfl)
    refine ⟨h.fresh, fun _ => hview, fun snapshot hmem => ?_⟩
    obtain hold | hnew := List.mem_or_eq_of_mem_set (mem_published.mp hmem)
    · exact h.published snapshot (mem_published.mpr hold)
    · rw [SnapshotCall.returned.inj hnew, inScope_snapshotOf,
        hlocked.rows rows (List.mem_of_getElem? hawaits)]
      exact hview
  case h_3 => exact h

/-- Any step that does not race. -/
theorem scoped_step (hlocked : s.Locked) (h : s.Scoped) {e : EngineEvent} (hrace : ¬ s.Races e) :
    (engine.step s e).Scoped := by
  cases e with
  | tick =>
    -- what is no race is an event that changes neither the scope nor the cache
    simp only [KubeEngine.step]
    split
    · exact h.of_eq rfl rfl rfl id
    · exact h
  | answered lists =>
    simp only [KubeEngine.step]
    split
    · split
      · exact h.of_eq rfl rfl rfl id
      · exact h
    · exact h
  | writeResources nowMs => exact scoped_writeResources hlocked h hrace
  | cancel => exact h.of_eq rfl rfl rfl id
  | writeMetrics metrics =>
    simp only [KubeEngine.step]
    split
    · exact h.of_eq rfl rfl rfl id
    · exact h
  | callToggleScope =>
    exact h.of_eq rfl rfl rfl fun ⟨next, hmem⟩ => ⟨next, List.mem_append_left _ hmem⟩
  | callSetScope next =>
    exact h.of_eq rfl rfl rfl fun ⟨next, hmem⟩ => ⟨next, List.mem_append_left _ hmem⟩
  | stepScopeCall i => exact scoped_stepScopeCall h hrace
  | callSnapshot => exact scoped_callSnapshot h hrace
  | stepSnapshotCall i nowMs => exact scoped_stepSnapshotCall hlocked h i nowMs

/-- A run without a race keeps every snapshot in scope. -/
theorem scoped_run {ns : Option String} {events : List EngineEvent}
    (h : Runs.Along engine.step (fun s e => ¬ s.Races e) (KubeEngine.connected ns) events) :
    (engine.run (KubeEngine.connected ns) events).Scoped :=
  (Runs.along_invariant (I := fun s : EngineState => s.Locked ∧ s.Scoped)
    (fun _ e hrace hinv => ⟨locked_step hinv.1 e, scoped_step hinv.1 hinv.2 hrace⟩) events h
    ⟨locked_connected ns, scoped_connected ns⟩).2

/-! ## What does not race -/

/-- A poll that lists under the scope in force when it writes does not race. -/
theorem not_races_writeResources {nowMs : UInt64} {lists : Lists}
    (h : s.loop = .awaitsCache s.scope lists) : ¬ s.Races (.writeResources nowMs) := by
  rintro ⟨scope, lists', hloop, -, hne, -⟩
  exact hne (ResourceLoop.awaitsCache.inj (hloop.symm.trans h)).1

/-- A change of scope does not race while no snapshot is under way. -/
theorem not_races_stepScopeCall {i : ℕ} (h : s.resourcesFree) : ¬ s.Races (.stepScopeCall i) :=
  fun ⟨_, _, hheld, _⟩ => hheld h

/-- A snapshot that starts while no change of scope is under way does not race. -/
theorem not_races_callSnapshot (h : ¬ s.clearDue) : ¬ s.Races .callSnapshot :=
  fun hrace => h hrace.1

/-! ## What a race leads to -/

/-- A call of `snapshot` that has the rows at hand publishes them under the scope in force. -/
theorem published_of_awaitsScope {i : ℕ} {rows : Rows} (nowMs : UInt64)
    (h : s.snapshotCalls[i]? = some (.awaitsScope rows)) :
    engine.snapshotOf rows s.scope ∈ (engine.step s (.stepSnapshotCall i nowMs)).published := by
  rw [mem_published]
  simp only [KubeEngine.step, KubeEngine.stepSnapshotCall, h]
  exact List.mem_set (List.getElem?_eq_some_iff.mp h).1 _

/-- A call of `snapshot` that has just taken a cache with rows out of scope publishes them. -/
theorem exists_outOfScope_of_awaitsMetrics {i : ℕ}
    (h : s.snapshotCalls[i]? = some .awaitsMetrics)
    (hout : ¬ OnlyOf s.scope.label s.resources.namespaces) :
    ∃ after, ∃ snapshot ∈ (engine.run s after).published, ¬ snapshot.InScope := by
  have hnext : (engine.step s (.stepSnapshotCall i 0)).snapshotCalls[i]? =
      some (.awaitsScope (engine.rows s.resources s.metrics 0)) := by
    simp only [KubeEngine.step, KubeEngine.stepSnapshotCall, h]
    exact List.getElem?_set_self (List.getElem?_eq_some_iff.mp h).1
  have hscope : (engine.step s (.stepSnapshotCall i 0)).scope = s.scope := by
    simp only [KubeEngine.step, KubeEngine.stepSnapshotCall, h]
  refine ⟨[.stepSnapshotCall i 0, .stepSnapshotCall i 0], _, published_of_awaitsScope 0 hnext, ?_⟩
  rwa [inScope_snapshotOf, hscope, namespaces_rows]

/-- A call of `snapshot` that is under way while the cache holds rows out of scope publishes
them. -/
theorem exists_outOfScope_of_held (hlocked : s.Locked) (hheld : ¬ s.resourcesFree)
    (hout : ¬ OnlyOf s.scope.label s.resources.namespaces) :
    ∃ after, ∃ snapshot ∈ (engine.run s after).published, ¬ snapshot.InScope := by
  obtain ⟨call, hmem, hreturned⟩ : ∃ call ∈ s.snapshotCalls, ¬ call.hasReturned := by
    simpa [EngineState.resourcesFree] using hheld
  obtain ⟨i, hi⟩ := List.mem_iff_getElem?.mp hmem
  cases call with
  | awaitsMetrics => exact exists_outOfScope_of_awaitsMetrics hi hout
  | awaitsScope rows =>
    refine ⟨[.stepSnapshotCall i 0], _, published_of_awaitsScope 0 hi, ?_⟩
    rwa [inScope_snapshotOf, hlocked.rows rows hmem]
  | returned snapshot => exact absurd rfl hreturned

/-- A call of `snapshot` that starts while the cache holds rows out of scope publishes them. -/
theorem exists_outOfScope_of_call (engine : KubeEngine)
    (hout : ¬ OnlyOf s.scope.label s.resources.namespaces) :
    ∃ after, ∃ snapshot ∈ (engine.run (engine.step s .callSnapshot) after).published,
      ¬ snapshot.InScope :=
  exists_outOfScope_of_awaitsMetrics (i := s.snapshotCalls.length)
    (by simp [KubeEngine.step]) hout

/-- A race can be followed by a snapshot out of scope. -/
theorem exists_outOfScope_of_races (hlocked : s.Locked) {e : EngineEvent} (hrace : s.Races e) :
    ∃ after, ∃ snapshot ∈ (engine.run (engine.step s e) after).published, ¬ snapshot.InScope := by
  cases e with
  | writeResources nowMs =>
    -- the rows written are of another namespace, and a call may come next
    obtain ⟨scope, lists, hloop, hfree, -, -, hout⟩ := hrace
    have hwritten : ¬ OnlyOf (engine.step s (.writeResources nowMs)).scope.label
        (engine.step s (.writeResources nowMs)).resources.namespaces := by
      simp only [KubeEngine.step, hloop, hfree, if_true]
      exact fun honly => hout (honly.mono (namespaces_subset_write _ _ nowMs))
    obtain ⟨after, hafter⟩ := exists_outOfScope_of_call engine hwritten
    exact ⟨.callSnapshot :: after, hafter⟩
  | stepScopeCall i =>
    -- the call that holds the rows reads the scope afterwards
    obtain ⟨next, hset, hheld, hout⟩ := hrace
    have hstep : engine.step s (.stepScopeCall i) =
        { s with scope := next, scopeCalls := s.scopeCalls.set i (.awaitsClear next) } := by
      simp only [KubeEngine.step, KubeEngine.stepScopeCall, hset]
    refine exists_outOfScope_of_held (locked_step hlocked _) ?_ ?_
    · rwa [hstep]
    · rwa [hstep]
  | callSnapshot => exact exists_outOfScope_of_call engine hrace.2
  | tick => exact hrace.elim
  | answered lists => exact hrace.elim
  | cancel => exact hrace.elim
  | writeMetrics metrics => exact hrace.elim
  | callToggleScope => exact hrace.elim
  | callSetScope next => exact hrace.elim
  | stepSnapshotCall i nowMs => exact hrace.elim

/-- **Published snapshots are in scope but for races.** In every run whose steps do not race, every
snapshot that is published has the rows of the scope it names; and every step that races can be
followed by a snapshot that has not. -/
theorem inScope_of_not_races (engine : KubeEngine) (ns : Option String) :
    (∀ events, Runs.Along engine.step (fun s e => ¬ s.Races e) (KubeEngine.connected ns) events →
      ∀ snapshot ∈ (engine.run (KubeEngine.connected ns) events).published, snapshot.InScope) ∧
    (∀ events e, (engine.run (KubeEngine.connected ns) events).Races e → ∃ after,
      ∃ snapshot ∈ (engine.run (KubeEngine.connected ns) (events ++ e :: after)).published,
        ¬ snapshot.InScope) := by
  refine ⟨fun events h => (scoped_run h).published, fun events e hrace => ?_⟩
  obtain ⟨after, hafter⟩ := exists_outOfScope_of_races (locked_run ns events) hrace
  refine ⟨after, ?_⟩
  rwa [KubeEngine.run, Runs.run_append, Runs.run_cons]

/-! ## A change of scope while a poll is under way -/

/-- An engine on a `kind` cluster; no quantity of the run is fractional. -/
def kindEngine : KubeEngine where
  clusterKind := .kind
  serverVersion := none
  scopedNamespace := "mine"
  floatMillis _ := none

/-- What a cluster with one pod, in namespace `other`, answers. -/
def otherPod : Lists where
  pods := some [{ (default : Api.Pod) with
    metadata := { (default : Api.ObjectMeta) with
      «namespace» := some "other", name := some "a" } }]
  nodes := some []
  deployments := some []

/-- A cluster-wide poll is answered, and the scope is set to `mine` before it writes the cache. -/
def rescopedPoll : List EngineEvent :=
  [.tick, .answered otherPod, .callSetScope (.ofNamespace "mine"), .stepScopeCall 0,
    .stepScopeCall 0, .writeResources 1]

/-- The same without the change of scope in between: it comes after the write. -/
def rescopedLater : List EngineEvent :=
  [.tick, .answered otherPod, .writeResources 1, .callSetScope (.ofNamespace "mine"),
    .stepScopeCall 0, .stepScopeCall 0]

def takeSnapshot : List EngineEvent :=
  [.callSnapshot, .stepSnapshotCall 0 1, .stepSnapshotCall 0 1]

/-- With the change of scope after the write, the snapshot is in scope; before it, it is not. -/
theorem inScope_of_not_races_rescoped :
    (∀ snapshot ∈ (kindEngine.run (KubeEngine.connected none)
        (rescopedLater ++ takeSnapshot)).published, snapshot.InScope) ∧
      ∃ after, ∃ snapshot ∈ (kindEngine.run (KubeEngine.connected none)
        (rescopedPoll.take 5 ++ .writeResources 1 :: after)).published, ¬ snapshot.InScope := by
  refine ⟨(inScope_of_not_races kindEngine none).1 _ ?_,
    (inScope_of_not_races kindEngine none).2 _ _ ?_⟩
  · exact ⟨id, id, not_races_writeResources rfl, id, not_races_stepScopeCall rfl,
      not_races_stepScopeCall rfl, not_races_callSnapshot (by decide), id, id, trivial⟩
  · exact ⟨.allNamespaces, otherPod, rfl, rfl, by decide, by decide, by decide⟩

/-- A poll that was asked cluster-wide fills the cache of a scope that came later. -/
theorem not_inScope_rescopedPoll :
    ¬ ∀ (engine : KubeEngine) (ns : Option String) (events : List EngineEvent),
      ∀ snapshot ∈ (engine.run (KubeEngine.connected ns) events).published, snapshot.InScope := by
  intro h
  have hscope := h kindEngine none (rescopedPoll ++ takeSnapshot)
  exact absurd hscope (by decide +kernel)

end Muxtop.Core
