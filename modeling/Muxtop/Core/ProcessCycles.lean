import Muxtop.Core.ProcessTree

/-!
# Which parent links survive in the process forest

With distinct pids the parent links form a functional graph. When no simple path is longer than the
depth cap, the walk from an index visits everything below it, so whether a process is re-rooted is
decided by the order of the list: it is exactly when none of its ancestors is a root and none comes
before it. A process hanging off a parent cycle is therefore torn from its parent when it precedes
all of its ancestors.
-/

namespace Muxtop.Core

open Relation FunctionalGraph

variable {procs : List ProcessInfo}

/-- Pairwise distinct pids. -/
def DistinctPids (procs : List ProcessInfo) : Prop := (pidSet procs).Nodup

/-- Every simple path along parent links has at most `MAX_DEPTH` edges. -/
def Shallow (procs : List ProcessInfo) : Prop :=
  ∀ path : List (Fin procs.length), SimplePath (ParentLink procs) path → path.length ≤ maxDepth + 1

/-- A list no longer than the cap is shallow. -/
theorem shallow_of_length_le (h : procs.length ≤ maxDepth + 1) : Shallow procs := fun _ hpath =>
  (hpath.length_le.trans (Fintype.card_fin _).le).trans h

/-- Under distinct PIDs, a PID has one place. -/
theorem DistinctPids.index_inj (h : DistinctPids procs) {i j : Fin procs.length}
    (hij : (procs.get i).pid = (procs.get j).pid) : i = j := by
  have hget : (pidSet procs).get ⟨i, by simp [pidSet]⟩ = (pidSet procs).get ⟨j, by simp [pidSet]⟩ := by
    simpa [pidSet] using hij
  exact Fin.ext (Fin.mk.inj (List.nodup_iff_injective_get.mp h hget))

/-- So a process has one parent. -/
theorem DistinctPids.rightUnique (h : DistinctPids procs) :
    Relator.RightUnique (ParentLink procs) := by
  rintro i j k ⟨hj, -⟩ ⟨hk, -⟩
  exact h.index_inj (Option.some.inj (hj.symm.trans hk))

/-! ## The visited set between two builds -/

/-- Whatever is placed, everything directly below it is placed. -/
def Visited.Closed (v : Visited procs) : Prop :=
  ∀ i, v i = true → ∀ c, ParentLink procs c i → v c = true

/-- From `v` to `v'` marks are only added, and everything directly below an added one is marked. -/
structure Grows (v v' : Visited procs) : Prop where
  mono : ∀ i, v i = true → v' i = true
  below : ∀ i, v' i = true → v i = false → ∀ c, ParentLink procs c i → v' c = true

/-- Nothing is visited. -/
theorem Grows.refl (v : Visited procs) : Grows v v :=
  ⟨fun _ => id, fun i hi hi' => absurd hi (by simp [hi'])⟩

/-- One build after another. -/
theorem Grows.trans (v₁ v₂ v₃ : Visited procs) (h₁₂ : Grows v₁ v₂) (h₂₃ : Grows v₂ v₃) :
    Grows v₁ v₃ where
  mono := fun i hi => h₂₃.mono i (h₁₂.mono i hi)
  below := by
    intro i hi₃ hi₁ c hc
    by_cases hi₂ : v₂ i = true
    · exact h₂₃.mono c (h₁₂.below i hi₂ hi₁ c hc)
    · exact h₂₃.below i hi₃ (by simpa using hi₂) c hc

/-- Builds leave the visited set closed downwards. -/
theorem Visited.Closed.grows {v v' : Visited procs} (hv : v.Closed) (h : Grows v v') :
    v'.Closed := by
  intro i hi c hc
  by_cases hvi : v i = true
  · exact h.mono c (hv i hvi c hc)
  · exact h.below i hi (by simpa using hvi) c hc

/-- In a closed set, being placed spreads to all descendants. -/
theorem Visited.Closed.descends {v : Visited procs} (hv : v.Closed) {i j : Fin procs.length}
    (hij : ReflTransGen (ParentLink procs) i j) (hj : v j = true) : v i = true := by
  induction hij using ReflTransGen.head_induction_on with
  | refl => exact hj
  | head hab _ ih => exact hv _ ih _ hab

/-- A pass over `l` visits all of `l`. -/
theorem placeUnvisited_covers (left depth : ℕ) (l : List (Fin procs.length)) (v : Visited procs)
    {i : Fin procs.length} (hi : i ∈ l) :
    (placeUnvisited (buildSubtree procs left depth) l v).2 i = true := by
  obtain ⟨ixs, hcover, hplaced⟩ := placeUnvisited_placed (buildSubtree_places left depth) l v
  exact (hplaced.marks i).mpr (hcover i hi)

/-- Building from `i` visits everything directly below what it visits. The simple path from `i` up
to the root of its tree, all of it visited, is what keeps the depth cap out of the way. -/
theorem buildSubtree_grows (hshallow : Shallow procs) :
    (left depth : ℕ) → left + depth = maxDepth → (i : Fin procs.length) → (v : Visited procs) →
    (path : List (Fin procs.length)) → SimplePath (ParentLink procs) (i :: path) →
    (∀ j ∈ path, v j = true) → path.length = depth →
    Grows v (buildSubtree procs left depth i v).2
  | 0, depth, hd, i, v, path, hpath, hvisited, hlen => by
      refine ⟨fun j hj => mark_eq_true.mpr (Or.inr hj), fun j hj hjv c hc => ?_⟩
      obtain rfl : j = i := (mark_eq_true.mp hj).resolve_right (by simp [hjv])
      -- an unvisited child here would extend the path beyond the cap
      by_contra hcv
      obtain ⟨hcj, hcv⟩ := not_or.mp (mt mark_eq_true.mpr hcv)
      have hnew : c ∉ j :: path := fun hmem =>
        (List.mem_cons.mp hmem).elim hcj fun h => hcv (hvisited c h)
      have hlong := hshallow _ (hpath.cons hc hnew)
      simp only [List.length_cons, hlen] at hlong
      omega
  | left + 1, depth, hd, i, v, path, hpath, hvisited, hlen => by
      have hmark : ∀ j ∈ i :: path, v.mark i j = true := fun j hj =>
        mark_eq_true.mpr ((List.mem_cons.mp hj).imp_right (hvisited j))
      have hpass : Grows (v.mark i) (buildSubtree procs (left + 1) depth i v).2 := by
        refine placeUnvisited_rel _ Grows.refl Grows.trans fun c hc w hw hcw => ?_
        have hwpath : ∀ j ∈ i :: path, w j = true := fun j hj => hw.mono j (hmark j hj)
        have hnew : c ∉ i :: path := fun hmem => by simp [hwpath c hmem] at hcw
        exact buildSubtree_grows hshallow left (depth + 1) (by omega) c w (i :: path)
          (hpath.cons (mem_childrenMap_pid.mp hc) hnew) hwpath (by simp [hlen])
      refine ⟨fun j hj => hpass.mono j (mark_eq_true.mpr (Or.inr hj)), fun j hj hjv c hc => ?_⟩
      by_cases hji : j = i
      · subst hji
        exact placeUnvisited_covers left (depth + 1) _ _ (mem_childrenMap_pid.mpr hc)
      · refine hpass.below j hj ?_ c hc
        by_contra hjm
        rcases mark_eq_true.mp (by simpa using hjm) with h | h
        · exact hji h
        · simp [hjv] at h

/-- The visited set once the builder has gone through `l`. -/
def visitedAfter (l : List (Fin procs.length)) : Visited procs :=
  (placeUnvisited (buildRoot procs) l fun _ => false).2

/-- So it is closed after any number of them. -/
theorem visitedAfter_closed (hshallow : Shallow procs) (l : List (Fin procs.length)) :
    (visitedAfter l).Closed := by
  have hgrows : Grows (fun _ => false) (visitedAfter l) :=
    placeUnvisited_rel _ Grows.refl Grows.trans fun i _ w _ _ =>
      buildSubtree_grows hshallow maxDepth 0 rfl i w [] ⟨List.isChain_singleton i, List.nodup_singleton i⟩
        (by simp) rfl
  exact Visited.Closed.grows (by simp [Visited.Closed]) hgrows

/-- After `l`, exactly the processes at or below an index of `l` are visited. -/
theorem visitedAfter_iff (hshallow : Shallow procs) (l : List (Fin procs.length))
    (i : Fin procs.length) :
    visitedAfter l i = true ↔ ∃ k ∈ l, ReflTransGen (ParentLink procs) i k := by
  constructor
  · have hpass := placeUnvisited_rel (buildRoot procs) (l := l) (v := fun _ => false)
      (R := fun v v' => ∀ i, v' i = true →
        v i = true ∨ ∃ k ∈ l, ReflTransGen (ParentLink procs) i k)
      (fun _ _ => Or.inl)
      (fun _ _ _ h₁₂ h₂₃ i hi => (h₂₃ i hi).elim (h₁₂ i) Or.inr)
      (fun k hk w _ _ i hi => (buildSubtree_marks maxDepth 0 k w i hi).imp_right fun hik =>
        ⟨k, hk, hik⟩)
    exact fun hi => (hpass i hi).resolve_left (by simp)
  · rintro ⟨k, hk, hik⟩
    exact (visitedAfter_closed hshallow l).descends hik (placeUnvisited_covers maxDepth 0 l _ hk)

/-! ## Which processes start a tree -/

/-- `i` is still unvisited when its turn in the build order comes. -/
def Started (i : Fin procs.length) : Prop :=
  ∃ pre post, buildOrder procs = pre ++ i :: post ∧ visitedAfter pre i = false

/-- The trees of the forest are the ones built from the started indices. -/
theorem mem_buildProcessTree_iff {t : TreeNode} :
    t ∈ buildProcessTree procs ↔
      ∃ pre i post, buildOrder procs = pre ++ i :: post ∧ visitedAfter pre i = false ∧
        t = (buildRoot procs i (visitedAfter pre)).1 := by
  rw [buildProcessTree_eq]
  exact mem_placeUnvisited

/-- Each tree is that of a process whose turn came before it was visited. -/
theorem started_of_mem {t : TreeNode} (ht : t ∈ buildProcessTree procs) :
    ∃ i : Fin procs.length, Started i ∧ t.process = procs.get i := by
  obtain ⟨pre, i, post, horder, hi, rfl⟩ := mem_buildProcessTree_iff.mp ht
  exact ⟨i, ⟨pre, post, horder, hi⟩, buildSubtree_process _ _ _ _⟩

/-- Such a process has a tree. -/
theorem Started.exists_tree {i : Fin procs.length} (h : Started i) :
    ∃ t ∈ buildProcessTree procs, t.process = procs.get i := by
  obtain ⟨pre, post, horder, hi⟩ := h
  exact ⟨_, mem_buildProcessTree_iff.mpr ⟨pre, i, post, horder, hi, rfl⟩,
    buildSubtree_process _ _ _ _⟩

/-- Before the turn of a process with a listed parent come the roots and the indices before it. -/
theorem mem_before_iff {pre post : List (Fin procs.length)} {i : Fin procs.length}
    (horder : buildOrder procs = pre ++ i :: post) (hi : isRoot procs i = false)
    (hpre : i ∉ pre) (k : Fin procs.length) :
    k ∈ pre ↔ isRoot procs k = true ∨ k < i := by
  have hroots : ∀ k, k ∈ roots procs ↔ isRoot procs k = true := by simp [roots]
  -- the turn comes in the second pass, a root's in the first
  obtain ⟨rest, rfl, hall⟩ : ∃ rest, pre = roots procs ++ rest ∧
      List.finRange procs.length = rest ++ i :: post := by
    rw [buildOrder] at horder
    rcases List.append_eq_append_iff.mp horder with h | ⟨rest, hroot, hall⟩
    · exact h
    · rcases rest with _ | ⟨r, rest⟩
      · exact ⟨[], by simpa using hroot.symm, hall.symm⟩
      · obtain ⟨rfl, -⟩ := List.cons.inj hall
        have : i ∈ roots procs := by rw [hroot]; simp
        simp [(hroots i).mp this] at hi
  have hsorted : (rest ++ i :: post).Pairwise (· < ·) := hall ▸ List.pairwise_lt_finRange _
  obtain ⟨-, htail, hcross⟩ := List.pairwise_append.mp hsorted
  rw [List.mem_append, hroots]
  refine or_congr_right ⟨fun hk => hcross k hk i List.mem_cons_self, fun hk => ?_⟩
  have hkall : k ∈ rest ++ i :: post := hall ▸ List.mem_finRange k
  rcases List.mem_append.mp hkall with hk' | hk'
  · exact hk'
  · rcases List.mem_cons.mp hk' with rfl | hk'
    · exact absurd hk (lt_irrefl k)
    · exact absurd hk (lt_asymm (List.rel_of_pairwise_cons htail hk'))

/-- Each process has its first turn. -/
theorem exists_turn (i : Fin procs.length) :
    ∃ pre post, buildOrder procs = pre ++ i :: post ∧ i ∉ pre :=
  List.eq_append_cons_of_mem (List.mem_append_right _ (List.mem_finRange i))

/-- **Re-rooting.** A process with a listed parent starts a tree exactly when no root and no index
before its own is an ancestor of it. -/
theorem started_iff (hshallow : Shallow procs) {i : Fin procs.length}
    (hi : isRoot procs i = false) :
    Started i ↔ ∀ k, ReflTransGen (ParentLink procs) i k → isRoot procs k = false ∧ ¬ k < i := by
  have hturn : ∀ pre post, buildOrder procs = pre ++ i :: post → i ∉ pre →
      (visitedAfter pre i = false ↔
        ∀ k, ReflTransGen (ParentLink procs) i k → isRoot procs k = false ∧ ¬ k < i) := by
    intro pre post horder hpre
    rw [← Bool.not_eq_true, visitedAfter_iff hshallow]
    simp only [mem_before_iff horder hi hpre, not_exists, not_and, ← Bool.not_eq_true]
    exact forall_congr' fun k => ⟨fun h hik => not_or.mp fun hk => h hk hik,
      fun h hk hik => not_or.mpr (h hik) hk⟩
  constructor
  · rintro ⟨pre, post, horder, hunvisited⟩
    refine (hturn pre post horder fun hmem => ?_).mp hunvisited
    simp [visitedAfter, buildRoot, placeUnvisited_covers maxDepth 0 pre _ hmem] at hunvisited
  · intro h
    obtain ⟨pre, post, horder, hpre⟩ := exists_turn i
    exact ⟨pre, post, horder, (hturn pre post horder hpre).mpr h⟩

/-! ## Where a process ends up -/

mutual

/-- A node is the root or hangs off a node. -/
theorem TreeNode.mem_nodes_cases :
    (t : TreeNode) → {n : TreeNode} → n ∈ t.nodes → n = t ∨ ∃ m ∈ t.nodes, n ∈ m.children
  | ⟨process, children, depth⟩, n, hn => by
      rw [TreeNode.nodes, List.mem_cons] at hn
      refine hn.imp_right fun hn => ?_
      rcases mem_nodesAll_cases children hn with hn | ⟨m, hm, hnm⟩
      · exact ⟨_, mem_nodes_self _, hn⟩
      · exact ⟨m, by rw [TreeNode.nodes]; exact List.mem_cons_of_mem _ hm, hnm⟩

/-- A node of a forest is the root of a tree or the child of a node. -/
theorem mem_nodesAll_cases :
    (forest : List TreeNode) → {n : TreeNode} → n ∈ nodesAll forest →
    n ∈ forest ∨ ∃ m ∈ nodesAll forest, n ∈ m.children
  | [], _, hn => by simp [nodesAll] at hn
  | t :: rest, n, hn => by
      rw [nodesAll, List.mem_append] at hn
      rcases hn with hn | hn
      · rcases t.mem_nodes_cases hn with rfl | ⟨m, hm, hnm⟩
        · exact Or.inl List.mem_cons_self
        · exact Or.inr ⟨m, by rw [nodesAll]; exact List.mem_append_left _ hm, hnm⟩
      · rcases mem_nodesAll_cases rest hn with hn | ⟨m, hm, hnm⟩
        · exact Or.inl (List.mem_cons_of_mem t hn)
        · exact Or.inr ⟨m, by rw [nodesAll]; exact List.mem_append_right _ hm, hnm⟩

end

mutual

/-- What hangs off a node is a node. -/
theorem TreeNode.child_mem_nodes :
    (t : TreeNode) → {m c : TreeNode} → m ∈ t.nodes → c ∈ m.children → c ∈ t.nodes
  | ⟨process, children, depth⟩, m, c, hm, hc => by
      rw [TreeNode.nodes, List.mem_cons] at hm ⊢
      refine Or.inr ?_
      rcases hm with rfl | hm
      · exact mem_nodesAll.mpr ⟨c, hc, mem_nodes_self c⟩
      · exact child_mem_nodesAll children hm hc

/-- A child of a node of a forest is a node of it. -/
theorem child_mem_nodesAll :
    (forest : List TreeNode) → {m c : TreeNode} → m ∈ nodesAll forest → c ∈ m.children →
    c ∈ nodesAll forest
  | [], _, _, hm, _ => by simp [nodesAll] at hm
  | t :: rest, m, c, hm, hc => by
      rw [nodesAll, List.mem_append] at hm ⊢
      rcases hm with hm | hm
      · exact Or.inl (t.child_mem_nodes hm hc)
      · exact Or.inr (child_mem_nodesAll rest hm hc)

end

/-- Under distinct PIDs a process is listed once. -/
theorem DistinctPids.process_inj (h : DistinctPids procs) {i j : Fin procs.length}
    (hij : procs.get i = procs.get j) : i = j :=
  h.index_inj (congrArg ProcessInfo.pid hij)

/-- With distinct pids a node of the forest is known by its process. -/
theorem DistinctPids.node_inj (h : DistinctPids procs) {n m : TreeNode}
    (hn : n ∈ nodesAll (buildProcessTree procs)) (hm : m ∈ nodesAll (buildProcessTree procs))
    (hnm : n.process = m.process) : n = m := by
  obtain ⟨v', order, -, hplaced⟩ := buildProcessTree_placed procs
  have hnodup : ((nodesAll (buildProcessTree procs)).map (·.process)).Nodup := by
    rw [hplaced.processes]
    exact hplaced.nodup.map fun i j hij => h.process_inj hij
  exact List.inj_on_of_nodup_map hnodup hn hm hnm

/-- Every process has a node. -/
theorem exists_node (i : Fin procs.length) :
    ∃ n ∈ nodesAll (buildProcessTree procs), n.process = procs.get i := by
  obtain ⟨v', order, hall, hplaced⟩ := buildProcessTree_placed procs
  have hmem : procs.get i ∈ (nodesAll (buildProcessTree procs)).map (·.process) := by
    rw [hplaced.processes]
    exact List.mem_map_of_mem (hall i)
  exact List.mem_map.mp hmem

/-- A process is placed under its parent unless it starts a tree. -/
theorem placedUnderParent_iff (h : DistinctPids procs) (i : Fin procs.length) :
    PlacedUnderParent procs i ↔ ¬ Started i := by
  constructor
  · rintro ⟨node, hnode, child, hchild, hprocess, -⟩ hstarted
    obtain ⟨t, ht, htprocess⟩ := hstarted.exists_tree
    have htnode : t ∈ nodesAll (buildProcessTree procs) :=
      mem_nodesAll.mpr ⟨t, ht, mem_nodes_self t⟩
    obtain rfl : t = child :=
      h.node_inj htnode (child_mem_nodesAll _ hnode hchild) (htprocess.trans hprocess.symm)
    -- a tree starts at depth 0, a child lies deeper
    obtain ⟨k, v, rfl⟩ := mem_buildProcessTree ht
    have hdepth := ((buildProcessTree_nodes hnode).2 _ hchild).1
    rw [buildRoot, buildSubtree_depth] at hdepth
    omega
  · intro hstarted
    obtain ⟨n, hn, hprocess⟩ := exists_node i
    rcases mem_nodesAll_cases _ hn with hroot | ⟨node, hnode, hchild⟩
    · obtain ⟨k, hk, hkprocess⟩ := started_of_mem hroot
      obtain rfl : k = i := h.process_inj (hkprocess.symm.trans hprocess)
      exact absurd hk hstarted
    · exact ⟨node, hnode, n, hchild, hprocess,
        (congrArg ProcessInfo.parentPid hprocess).symm.trans
          ((buildProcessTree_nodes hnode).2 n hchild).2⟩

/-! ## Subtrees hanging off a parent cycle -/

/-- Every process outside all parent cycles whose ancestors lead into one comes, in the list, after
one of its ancestors. -/
def StragglersFollow (procs : List ProcessInfo) : Prop :=
  ∀ i, ¬ OnCycle (ParentLink procs) i →
    (∃ c, OnCycle (ParentLink procs) c ∧ TransGen (ParentLink procs) i c) →
    ∃ k, TransGen (ParentLink procs) i k ∧ k < i

/-- A process whose parent is listed is no root. -/
theorem isRoot_eq_false {i j : Fin procs.length} (hij : ParentLink procs i j) :
    isRoot procs i = false := by
  rw [← Bool.not_eq_true]
  exact fun h => isRoot_iff.mp h j hij

/-- A process that starts a tree although its parent is listed is on a cycle, or hangs off one and
precedes all its ancestors. -/
theorem Started.onCycle_or_straggler (hshallow : Shallow procs) {i j : Fin procs.length}
    (hij : ParentLink procs i j) (h : Started i) (hcycle : ¬ OnCycle (ParentLink procs) i) :
    (∃ c, OnCycle (ParentLink procs) c ∧ TransGen (ParentLink procs) i c) ∧
      ∀ k, TransGen (ParentLink procs) i k → ¬ k < i := by
  have hancestors := (started_iff hshallow (isRoot_eq_false hij)).mp h
  refine ⟨?_, fun k hik => (hancestors k hik.to_reflTransGen).2⟩
  rcases exists_terminal_or_cycle (r := ParentLink procs) i with ⟨t, hit, ht⟩ | ⟨c, hic, hc⟩
  · exact absurd (isRoot_iff.mpr ht) (by simp [(hancestors t hit).1])
  · rcases reflTransGen_iff_eq_or_transGen.mp hic with rfl | hic
    · exact absurd hc hcycle
    · exact ⟨c, hc, hic⟩

/-- A straggler that precedes all its ancestors starts a tree. -/
theorem started_of_straggler (hpids : DistinctPids procs) (hshallow : Shallow procs)
    {i c : Fin procs.length} (hc : OnCycle (ParentLink procs) c)
    (hic : TransGen (ParentLink procs) i c)
    (hfirst : ∀ k, TransGen (ParentLink procs) i k → ¬ k < i) : Started i := by
  obtain ⟨j, hij, -⟩ := TransGen.head'_iff.mp hic
  refine (started_iff hshallow (isRoot_eq_false hij)).mpr fun k hik => ⟨?_, ?_⟩
  · rw [← Bool.not_eq_true, isRoot_iff]
    exact not_terminal_of_reaches_cycle hpids.rightUnique hic.to_reflTransGen hc hik
  · rcases reflTransGen_iff_eq_or_transGen.mp hik with rfl | hik
    · exact lt_irrefl k
    · exact hfirst k hik

/-- **When subtrees stay attached.** Over lists with distinct pids and no simple path beyond the
depth cap, the forest keeps every process outside the parent cycles under its listed parent exactly
when each process hanging off a cycle comes after one of its ancestors. -/
theorem staysAttached_iff_stragglersFollow (procs : List ProcessInfo) (hpids : DistinctPids procs)
    (hshallow : Shallow procs) : StaysAttached procs ↔ StragglersFollow procs := by
  constructor
  · rintro ⟨hplaced, -⟩ i hi ⟨c, hc, hic⟩
    by_contra hnone
    have hfirst : ∀ k, TransGen (ParentLink procs) i k → ¬ k < i := fun k hik hki =>
      hnone ⟨k, hik, hki⟩
    -- a straggler before all its ancestors would start a tree of its own
    obtain ⟨j, hij, -⟩ := TransGen.head'_iff.mp hic
    exact (placedUnderParent_iff hpids i).mp (hplaced i hi ⟨j, hij⟩)
      (started_of_straggler hpids hshallow hc hic hfirst)
  · intro hfollow
    have hstarted : ∀ i j, ParentLink procs i j → Started i → OnCycle (ParentLink procs) i := by
      intro i j hij hi
      by_contra hcycle
      obtain ⟨hhangs, hfirst⟩ := hi.onCycle_or_straggler hshallow hij hcycle
      obtain ⟨k, hik, hki⟩ := hfollow i hcycle hhangs
      exact hfirst k hik hki
    refine ⟨fun i hi ⟨j, hij⟩ => ?_, fun root hroot => ?_⟩
    · exact (placedUnderParent_iff hpids i).mpr fun h => hi (hstarted i j hij h)
    · obtain ⟨i, hi, hprocess⟩ := started_of_mem hroot
      refine ⟨i, hprocess.symm, ?_⟩
      by_cases hlisted : ∃ j, ParentLink procs i j
      · obtain ⟨j, hij⟩ := hlisted
        exact Or.inr (hstarted i j hij hi)
      · exact Or.inl (not_exists.mp hlisted)

/-- A process with the given pids and otherwise empty fields. -/
def bareProcess (pid : UInt32) (parentPid : Option UInt32) : ProcessInfo :=
  { pid, parentPid, name := "", command := "", user := "", cpuPercent := ⟨0⟩, memoryBytes := 0,
    memoryPercent := ⟨0⟩, status := "" }

/-- Processes 10 and 11 name each other as parents; 100 is a child of 10 and comes last. -/
def stragglerLast : List ProcessInfo :=
  [bareProcess 10 (some 11), bareProcess 11 (some 10), bareProcess 100 (some 10)]

/-- The same processes with 100 first. -/
def stragglerFirst : List ProcessInfo :=
  [bareProcess 100 (some 10), bareProcess 10 (some 11), bareProcess 11 (some 10)]

instance (procs : List ProcessInfo) (i j : Fin procs.length) : Decidable (ParentLink procs i j) :=
  inferInstanceAs (Decidable (_ ∧ _))

/-- A subtree off a cycle that is listed behind it stays attached. -/
theorem staysAttached_iff_stragglersFollow_last :
    StaysAttached stragglerLast ↔ StragglersFollow stragglerLast :=
  staysAttached_iff_stragglersFollow stragglerLast (by unfold DistinctPids; decide)
    (shallow_of_length_le (by decide))

/-- Listed before the cycle it hangs off, process 100 is re-rooted although it is on no cycle and
its parent is listed. -/
theorem not_staysAttached_stragglerFirst :
    DistinctPids stragglerFirst ∧ Shallow stragglerFirst ∧ ¬ StaysAttached stragglerFirst := by
  refine ⟨by unfold DistinctPids; decide, shallow_of_length_le (by decide), fun ⟨hplaced, _⟩ => ?_⟩
  have hcycle : ¬ OnCycle (ParentLink stragglerFirst) (⟨0, by decide⟩ : Fin stragglerFirst.length) := by
    intro h
    obtain ⟨k, -, hk⟩ := TransGen.tail'_iff.mp h
    revert k
    decide
  have hunder := hplaced ⟨0, by decide⟩ hcycle ⟨⟨1, by decide⟩, by decide⟩
  revert hunder
  unfold PlacedUnderParent
  decide

end Muxtop.Core
