import Mathlib.Data.List.FinRange
import Mathlib.Data.List.Nodup
import Mathlib.Data.List.Perm.Basic
import Mathlib.Logic.Relation
import Muxtop.Core.Process
import Muxtop.Foundation.FunctionalGraph

/-!
# The process tree

Reference: `build_process_tree` and `flatten_tree` of `muxtop-core/src/process.rs`.

`buildProcessTree` indexes the list by parent pid, walks down from the roots and then re-roots, in
input order, whatever the walk did not reach. Indices into the list are `Fin procs.length`, so a
lookup cannot leave the list.

The forest holds every process exactly once. `Placed` says what a stretch of the walk does: which
indices it places, that they were unvisited before, and that exactly they are marked after. It composes
along the walk, so the two passes of `buildProcessTree` together place every index once, whatever the
parent links look like.
-/

namespace Muxtop.Core

open Relation FunctionalGraph

/-- A node in the process tree. -/
structure TreeNode where
  process : ProcessInfo
  children : List TreeNode
  depth : ℕ

/-- `MAX_DEPTH` -/
def maxDepth : ℕ := 256

section Build

variable (procs : List ProcessInfo)

/-- The pids in the list. -/
def pidSet : List UInt32 := procs.map (·.pid)

/-- Enter process `i` under its parent's pid. A root or orphan is entered nowhere. -/
def enterChild (map : UInt32 → List (Fin procs.length)) (i : Fin procs.length) :
    UInt32 → List (Fin procs.length) :=
  match procs[i].parentPid with
  | some ppid =>
      if 0 < ppid ∧ ppid ∈ pidSet procs then Function.update map ppid (map ppid ++ [i]) else map
  | none => map

/-- The parent index: for each listed pid, the indices of the processes that name it as their
parent, in input order. Pid 0 is never a parent. -/
def childrenMap : UInt32 → List (Fin procs.length) :=
  (List.finRange procs.length).foldl (enterChild procs) fun _ => []

/-- Whether a process is a root: no parent, parent 0, or a parent that is not listed. -/
def isRoot (i : Fin procs.length) : Bool :=
  match procs[i].parentPid with
  | none => true
  | some ppid => ppid == 0 || !(pidSet procs).contains ppid

/-- The roots, in input order. -/
def roots : List (Fin procs.length) := (List.finRange procs.length).filter (isRoot procs)

/-- Which processes have been placed in the forest. -/
abbrev Visited : Type := Fin procs.length → Bool

variable {procs}

/-- `visited[idx] = true` -/
def Visited.mark (visited : Visited procs) (idx : Fin procs.length) : Visited procs :=
  Function.update visited idx true

/-- Build every index of the list that is still unvisited when its turn comes. -/
def placeUnvisited (build : Fin procs.length → Visited procs → TreeNode × Visited procs) :
    List (Fin procs.length) → Visited procs → List TreeNode × Visited procs
  | [], visited => ([], visited)
  | ci :: rest, visited =>
      if visited ci then placeUnvisited build rest visited
      else
        let placed := build ci visited
        let others := placeUnvisited build rest placed.2
        (placed.1 :: others.1, others.2)

/-- Build every index of the list, visited or not. -/
def placeAll (build : Fin procs.length → Visited procs → TreeNode × Visited procs) :
    List (Fin procs.length) → Visited procs → List TreeNode × Visited procs
  | [], visited => ([], visited)
  | ri :: rest, visited =>
      let placed := build ri visited
      let others := placeAll build rest placed.2
      (placed.1 :: others.1, others.2)

variable (procs)

/-- `build_subtree` at `depth`, with `left` levels remaining: `left` is `MAX_DEPTH - depth`, and the
source's `depth < MAX_DEPTH` is `left ≠ 0`. -/
def buildSubtree : (left depth : ℕ) → Fin procs.length → Visited procs →
    TreeNode × Visited procs
  | 0, depth, idx, visited =>
      -- truncated at the maximal depth
      (⟨procs[idx], [], depth⟩, visited.mark idx)
  | left + 1, depth, idx, visited =>
      let placed := placeUnvisited (buildSubtree left (depth + 1))
        (childrenMap procs procs[idx].pid) (visited.mark idx)
      (⟨procs[idx], placed.1, depth⟩, placed.2)

/-- The subtree of a process placed at depth 0. -/
def buildRoot : Fin procs.length → Visited procs → TreeNode × Visited procs :=
  buildSubtree procs maxDepth 0

/-- Build a process tree from a flat list. -/
def buildProcessTree : List TreeNode :=
  if procs.isEmpty then []
  else
    let forest := placeAll (buildRoot procs) (roots procs) fun _ => false
    let rerooted := placeUnvisited (buildRoot procs) (List.finRange procs.length) forest.2
    forest.1 ++ rerooted.1

end Build

mutual

/-- The depth-first listing of a node's subtree. -/
def TreeNode.walk : TreeNode → List (ProcessInfo × ℕ)
  | ⟨process, children, depth⟩ => (process, depth) :: walkAll children

/-- The depth-first listings of a list of nodes, one after the other. -/
def walkAll : List TreeNode → List (ProcessInfo × ℕ)
  | [] => []
  | node :: rest => node.walk ++ walkAll rest

end

/-- Flatten a forest into a depth-first list of processes with their depths. -/
def flattenTree (roots : List TreeNode) : List (ProcessInfo × ℕ) := walkAll roots

/-! ## The nodes of a forest -/

mutual

/-- A node and everything below it, in the order of `TreeNode.walk`. -/
def TreeNode.nodes : TreeNode → List TreeNode
  | ⟨process, children, depth⟩ => ⟨process, children, depth⟩ :: nodesAll children

/-- The nodes of a list of trees. -/
def nodesAll : List TreeNode → List TreeNode
  | [] => []
  | node :: rest => node.nodes ++ nodesAll rest

end

/-- The nodes of a forest are those of its trees. -/
theorem mem_nodesAll {forest : List TreeNode} {n : TreeNode} :
    n ∈ nodesAll forest ↔ ∃ t ∈ forest, n ∈ t.nodes := by
  induction forest with
  | nil => simp [nodesAll]
  | cons t rest ih => simp [nodesAll, ih]

/-- They come tree by tree. -/
theorem nodesAll_append (f₁ f₂ : List TreeNode) :
    nodesAll (f₁ ++ f₂) = nodesAll f₁ ++ nodesAll f₂ := by
  induction f₁ with
  | nil => rfl
  | cons t rest ih => simp [nodesAll, ih]

/-- A tree is one of its own nodes. -/
theorem mem_nodes_self (t : TreeNode) : t ∈ t.nodes := by
  cases t; simp [TreeNode.nodes]

mutual

/-- The listing of a subtree reads its nodes off in order. -/
theorem TreeNode.walk_eq : (t : TreeNode) → t.walk = t.nodes.map fun n => (n.process, n.depth)
  | ⟨process, children, depth⟩ => by
      rw [TreeNode.walk, TreeNode.nodes, List.map_cons, walkAll_eq children]

/-- The walk meets the nodes in order. -/
theorem walkAll_eq :
    (forest : List TreeNode) → walkAll forest = (nodesAll forest).map fun n => (n.process, n.depth)
  | [] => rfl
  | t :: rest => by
      rw [walkAll, nodesAll, List.map_append, t.walk_eq, walkAll_eq rest]

end

/-- So the rows are the nodes, in that order. -/
theorem flattenTree_eq (forest : List TreeNode) :
    flattenTree forest = (nodesAll forest).map fun n => (n.process, n.depth) :=
  walkAll_eq forest

/-! ## Relations down a forest -/

section Order

variable {R : TreeNode → TreeNode → Prop}

/-- Whatever is in one tree is related to whatever is in the other. -/
def Beside (R : TreeNode → TreeNode → Prop) (t u : TreeNode) : Prop := ∀ a ∈ t.nodes, ∀ b ∈ u.nodes, R a b

/-- A node is related to all that is below it, and the trees below it are to the later ones. -/
structure TreeNode.Heads (R : TreeNode → TreeNode → Prop) (n : TreeNode) : Prop where
  below : ∀ m ∈ nodesAll n.children, R n m
  children : n.children.Pairwise (Beside R)

/-- So at every node of a forest, and for its roots. -/
structure DownForest (R : TreeNode → TreeNode → Prop) (forest : List TreeNode) : Prop where
  roots : forest.Pairwise (Beside R)
  nodes : ∀ n ∈ nodesAll forest, n.Heads R

/-- Two trees stand in a relation when their nodes do. -/
theorem forall_beside_iff {t : TreeNode} {rest : List TreeNode} :
    (∀ u ∈ rest, Beside R t u) ↔ ∀ a ∈ t.nodes, ∀ b ∈ nodesAll rest, R a b := by
  constructor
  · intro h a ha b hb
    obtain ⟨u, hu, hbu⟩ := mem_nodesAll.mp hb
    exact h u hu a ha b hbu
  · intro h u hu a ha b hb
    exact h a ha b (mem_nodesAll.mpr ⟨u, hu, hb⟩)

mutual

/-- The nodes of a tree are in a relation when each node heads what is below it, and its subtrees stand
beside each other. -/
theorem TreeNode.pairwise_nodes_iff :
    (t : TreeNode) → (t.nodes.Pairwise R ↔ ∀ n ∈ t.nodes, n.Heads R)
  | ⟨process, children, depth⟩ => by
      rw [TreeNode.nodes, List.pairwise_cons, pairwise_nodesAll_iff children, List.forall_mem_cons]
      constructor
      · rintro ⟨hbelow, hroots, hnodes⟩
        exact ⟨⟨hbelow, hroots⟩, hnodes⟩
      · rintro ⟨⟨hbelow, hroots⟩, hnodes⟩
        exact ⟨hbelow, hroots, hnodes⟩

/-- Listed depth first, the nodes of a forest are related pairwise exactly when they are down the forest. -/
theorem pairwise_nodesAll_iff :
    (forest : List TreeNode) → ((nodesAll forest).Pairwise R ↔ DownForest R forest)
  | [] => iff_of_true List.Pairwise.nil ⟨List.Pairwise.nil, nofun⟩
  | t :: rest => by
      rw [nodesAll, List.pairwise_append, t.pairwise_nodes_iff, pairwise_nodesAll_iff rest,
        ← forall_beside_iff]
      constructor
      · rintro ⟨hfirst, ⟨hroots, hnodes⟩, hbeside⟩
        exact ⟨List.pairwise_cons.mpr ⟨hbeside, hroots⟩, List.forall_mem_append.mpr ⟨hfirst, hnodes⟩⟩
      · rintro ⟨hroots, hnodes⟩
        obtain ⟨hbeside, hroots⟩ := List.pairwise_cons.mp hroots
        obtain ⟨hfirst, hnodes⟩ := List.forall_mem_append.mp hnodes
        exact ⟨hfirst, ⟨hroots, hnodes⟩, hbeside⟩

end

end Order

/-! ## What the walk places -/

section Walk

variable {procs : List ProcessInfo}

/-- What is marked is visited, and nothing else. -/
theorem mark_eq_true {v : Visited procs} {idx i : Fin procs.length} :
    v.mark idx i = true ↔ i = idx ∨ v i = true := by
  by_cases h : i = idx <;> simp [Visited.mark, Function.update, h]

/-- Going from `v` to `v'`, the walk placed the indices `ixs`, in this order, as the nodes of
`forest`. -/
structure Placed (v : Visited procs) (forest : List TreeNode) (v' : Visited procs)
    (ixs : List (Fin procs.length)) : Prop where
  processes : (nodesAll forest).map (·.process) = ixs.map fun i => procs[i]
  nodup : ixs.Nodup
  fresh : ∀ i ∈ ixs, v i = false
  marks : ∀ i, v' i = true ↔ v i = true ∨ i ∈ ixs

/-- Nothing is placed. -/
theorem Placed.nil (v : Visited procs) : Placed v [] v [] :=
  ⟨rfl, List.nodup_nil, by simp, by simp⟩

/-- Two stretches of the walk, one after the other. -/
theorem Placed.append {v v₁ v₂ : Visited procs} {f₁ f₂ : List TreeNode}
    {ixs₁ ixs₂ : List (Fin procs.length)} (h₁ : Placed v f₁ v₁ ixs₁) (h₂ : Placed v₁ f₂ v₂ ixs₂) :
    Placed v (f₁ ++ f₂) v₂ (ixs₁ ++ ixs₂) where
  processes := by rw [nodesAll_append, List.map_append, List.map_append, h₁.processes, h₂.processes]
  nodup := by
    refine List.nodup_append.mpr ⟨h₁.nodup, h₂.nodup, ?_⟩
    rintro i hi₁ _ hi₂ rfl
    have hv₁ : v₁ i = true := (h₁.marks i).mpr (Or.inr hi₁)
    rw [h₂.fresh i hi₂] at hv₁
    exact Bool.false_ne_true hv₁
  fresh := by
    intro i hi
    rcases List.mem_append.mp hi with hi | hi
    · exact h₁.fresh i hi
    · by_contra hv
      have hv₁ : v₁ i = true := (h₁.marks i).mpr (Or.inl (by simpa using hv))
      rw [h₂.fresh i hi] at hv₁
      exact Bool.false_ne_true hv₁
  marks := by
    intro i
    rw [h₂.marks, h₁.marks, List.mem_append, or_assoc]

/-- A node over the children placed after its own index was marked. -/
theorem Placed.node {v v' : Visited procs} {children : List TreeNode}
    {ixs : List (Fin procs.length)} {idx : Fin procs.length} (depth : ℕ) (hidx : v idx = false)
    (h : Placed (v.mark idx) children v' ixs) :
    Placed v [⟨procs[idx], children, depth⟩] v' (idx :: ixs) where
  processes := by simpa [nodesAll, TreeNode.nodes] using h.processes
  nodup := by
    refine List.nodup_cons.mpr ⟨fun hmem => ?_, h.nodup⟩
    have hmark : v.mark idx idx = true := mark_eq_true.mpr (Or.inl rfl)
    rw [h.fresh idx hmem] at hmark
    exact Bool.false_ne_true hmark
  fresh := by
    intro i hi
    rcases List.mem_cons.mp hi with rfl | hi
    · exact hidx
    · by_contra hv
      have hmark : v.mark idx i = true := mark_eq_true.mpr (Or.inr (by simpa using hv))
      rw [h.fresh i hi] at hmark
      exact Bool.false_ne_true hmark
  marks := by
    intro i
    rw [h.marks, mark_eq_true, List.mem_cons]
    tauto

/-- `build` places its index and whatever it reaches from there. -/
def Places (build : Fin procs.length → Visited procs → TreeNode × Visited procs) : Prop :=
  ∀ i v, v i = false → ∃ ixs, i ∈ ixs ∧ Placed v [(build i v).1] (build i v).2 ixs

/-- Of some processes all are placed that have not been, with what they bring along. -/
theorem placeUnvisited_placed
    {build : Fin procs.length → Visited procs → TreeNode × Visited procs} (hb : Places build) :
    (l : List (Fin procs.length)) → (v : Visited procs) →
    ∃ ixs, (∀ i ∈ l, v i = true ∨ i ∈ ixs) ∧
      Placed v (placeUnvisited build l v).1 (placeUnvisited build l v).2 ixs
  | [], v => ⟨[], by simp, Placed.nil v⟩
  | ci :: rest, v => by
      by_cases hci : v ci = true
      · obtain ⟨ixs, hcover, hplaced⟩ := placeUnvisited_placed hb rest v
        refine ⟨ixs, ?_, by simpa [placeUnvisited, hci] using hplaced⟩
        exact List.forall_mem_cons.mpr ⟨Or.inl hci, hcover⟩
      · obtain ⟨ixs₁, hmem, h₁⟩ := hb ci v (by simpa using hci)
        obtain ⟨ixs₂, hcover, h₂⟩ := placeUnvisited_placed hb rest (build ci v).2
        refine ⟨ixs₁ ++ ixs₂, ?_, by simpa [placeUnvisited, hci] using h₁.append h₂⟩
        refine List.forall_mem_cons.mpr ⟨Or.inr (List.mem_append_left _ hmem), fun i hi => ?_⟩
        rcases hcover i hi with hv | hi₂
        · rcases (h₁.marks i).mp hv with hv | hi₁
          · exact Or.inl hv
          · exact Or.inr (List.mem_append_left _ hi₁)
        · exact Or.inr (List.mem_append_right _ hi₂)

/-- A subtree places its process and some of those below, each once. -/
theorem buildSubtree_places :
    (left depth : ℕ) → Places (buildSubtree procs left depth)
  | 0, depth => fun i v hi =>
      ⟨[i], by simp, by simpa [buildSubtree] using (Placed.nil (v.mark i)).node depth hi⟩
  | left + 1, depth => fun i v hi => by
      obtain ⟨ixs, -, hplaced⟩ := placeUnvisited_placed (buildSubtree_places left (depth + 1))
        (childrenMap procs procs[i].pid) (v.mark i)
      exact ⟨i :: ixs, by simp, by simpa [buildSubtree] using hplaced.node depth hi⟩

/-- Processes are placed in order. -/
theorem placeUnvisited_append
    {build : Fin procs.length → Visited procs → TreeNode × Visited procs} :
    (l₁ l₂ : List (Fin procs.length)) → (v : Visited procs) →
    placeUnvisited build (l₁ ++ l₂) v =
      ((placeUnvisited build l₁ v).1 ++
          (placeUnvisited build l₂ (placeUnvisited build l₁ v).2).1,
        (placeUnvisited build l₂ (placeUnvisited build l₁ v).2).2)
  | [], l₂, v => rfl
  | ci :: rest, l₂, v => by
      by_cases hci : v ci = true
      · simp [placeUnvisited, hci, placeUnvisited_append rest l₂]
      · simp [placeUnvisited, hci, placeUnvisited_append rest l₂]

/-- A preorder on visited sets that each build follows is followed by a whole pass. A build may use
that the pass followed it so far. -/
theorem placeUnvisited_rel
    (build : Fin procs.length → Visited procs → TreeNode × Visited procs)
    {R : Visited procs → Visited procs → Prop} (hrefl : ∀ v, R v v)
    (htrans : ∀ v₁ v₂ v₃, R v₁ v₂ → R v₂ v₃ → R v₁ v₃) {l : List (Fin procs.length)}
    {v : Visited procs}
    (hb : ∀ i ∈ l, ∀ w, R v w → w i = false → R w (build i w).2) :
    R v (placeUnvisited build l v).2 := by
  suffices h : ∀ (l' : List (Fin procs.length)), (∀ i ∈ l', i ∈ l) → ∀ w, R v w →
      R v (placeUnvisited build l' w).2 from h l (fun _ => id) v (hrefl v)
  intro l'
  induction l' with
  | nil => exact fun _ w hw => hw
  | cons ci rest ih =>
    intro hsub w hw
    have hrest := ih fun i hi => hsub i (List.mem_cons_of_mem ci hi)
    by_cases hci : w ci = true
    · simpa [placeUnvisited, hci] using hrest w hw
    · have hbuild := hb ci (hsub ci List.mem_cons_self) w hw (by simpa using hci)
      simpa [placeUnvisited, hci] using hrest (build ci w).2 (htrans _ _ _ hw hbuild)

/-- The trees of a pass: each was built from an index of the list that was unvisited at its turn. -/
theorem mem_placeUnvisited
    {build : Fin procs.length → Visited procs → TreeNode × Visited procs}
    {l : List (Fin procs.length)} {v : Visited procs} {t : TreeNode} :
    t ∈ (placeUnvisited build l v).1 ↔
      ∃ pre i post, l = pre ++ i :: post ∧ (placeUnvisited build pre v).2 i = false ∧
        t = (build i (placeUnvisited build pre v).2).1 := by
  constructor
  · intro ht
    induction l generalizing v with
    | nil => simp [placeUnvisited] at ht
    | cons ci rest ih =>
      by_cases hci : v ci = true
      · obtain ⟨pre, i, post, rfl, hi, rfl⟩ := ih (by simpa [placeUnvisited, hci] using ht)
        exact ⟨ci :: pre, i, post, rfl, by simpa [placeUnvisited, hci] using hi,
          by simp [placeUnvisited, hci]⟩
      · have hcases : t = (build ci v).1 ∨ t ∈ (placeUnvisited build rest (build ci v).2).1 := by
          simpa [placeUnvisited, hci] using ht
        rcases hcases with rfl | hrest
        · exact ⟨[], ci, rest, rfl, by simpa [placeUnvisited] using hci, rfl⟩
        · obtain ⟨pre, i, post, rfl, hi, rfl⟩ := ih hrest
          exact ⟨ci :: pre, i, post, rfl, by simpa [placeUnvisited, hci] using hi,
            by simp [placeUnvisited, hci]⟩
  · rintro ⟨pre, i, post, rfl, hi, rfl⟩
    rw [placeUnvisited_append]
    refine List.mem_append_right _ ?_
    simp [placeUnvisited, hi]

end Walk

/-! ## Parent links -/

section Links

variable (procs : List ProcessInfo)

/-- Process `i` names process `j` as its parent; pid 0 is nobody's parent. -/
def ParentLink (i j : Fin procs.length) : Prop :=
  procs[i].parentPid = some procs[j].pid ∧ procs[j].pid ≠ 0

variable {procs}

/-- A process is entered under its parent, if it names one that is there. -/
theorem mem_enterChild {map : UInt32 → List (Fin procs.length)} {k i : Fin procs.length}
    {ppid : UInt32} :
    i ∈ enterChild procs map k ppid ↔
      i ∈ map ppid ∨
        i = k ∧ procs[k].parentPid = some ppid ∧ 0 < ppid ∧ ppid ∈ pidSet procs := by
  unfold enterChild
  rcases hk : procs[k].parentPid with _ | q
  · simp
  · by_cases hq : 0 < q ∧ q ∈ pidSet procs
    · by_cases hqp : ppid = q
      · subst hqp
        simp [hq]
      · simp [hq, Function.update_of_ne hqp, Ne.symm hqp]
    · simp only [if_neg hq, Option.some.injEq, iff_self_or]
      rintro ⟨-, rfl, h⟩
      exact absurd h hq

/-- The map has, under each PID, the processes that name it. -/
theorem mem_childrenMap {ppid : UInt32} {i : Fin procs.length} :
    i ∈ childrenMap procs ppid ↔
      procs[i].parentPid = some ppid ∧ 0 < ppid ∧ ppid ∈ pidSet procs := by
  suffices h : ∀ (l : List (Fin procs.length)) (map : UInt32 → List (Fin procs.length)),
      i ∈ l.foldl (enterChild procs) map ppid ↔
        i ∈ map ppid ∨
          i ∈ l ∧ procs[i].parentPid = some ppid ∧ 0 < ppid ∧ ppid ∈ pidSet procs by
    rw [childrenMap, h]
    simp
  intro l
  induction l with
  | nil => simp
  | cons k rest ih =>
    intro map
    rw [List.foldl_cons, ih, mem_enterChild, List.mem_cons]
    constructor
    · rintro ((h | ⟨rfl, h⟩) | ⟨hrest, h⟩)
      · exact Or.inl h
      · exact Or.inr ⟨Or.inl rfl, h⟩
      · exact Or.inr ⟨Or.inr hrest, h⟩
    · rintro (h | ⟨rfl | hrest, h⟩)
      · exact Or.inl (Or.inl h)
      · exact Or.inl (Or.inr ⟨rfl, h⟩)
      · exact Or.inr ⟨hrest, h⟩

/-- The children looked up under a process's pid are the processes linked to it. -/
theorem mem_childrenMap_pid {i j : Fin procs.length} :
    i ∈ childrenMap procs procs[j].pid ↔ ParentLink procs i j := by
  rw [mem_childrenMap, ParentLink]
  have hlisted : procs[j].pid ∈ pidSet procs := List.mem_map_of_mem (List.getElem_mem j.isLt)
  have hpos : 0 < procs[j].pid ↔ procs[j].pid ≠ 0 := UInt32.pos_iff_ne_zero
  tauto

/-- A root names no process of the list as its parent. -/
theorem isRoot_iff {i : Fin procs.length} :
    isRoot procs i = true ↔ ∀ j, ¬ ParentLink procs i j := by
  unfold isRoot ParentLink
  rcases hp : procs[i].parentPid with _ | ppid
  · simp
  · constructor
    · rintro h j ⟨hj, hne⟩
      obtain rfl : ppid = procs[j].pid := by simpa using hj
      have hlisted : procs[j].pid ∈ pidSet procs := List.mem_map_of_mem (List.getElem_mem j.isLt)
      rw [Bool.or_eq_true, beq_iff_eq, Bool.not_eq_true', List.contains_eq_mem,
        decide_eq_false_iff_not] at h
      exact h.elim hne fun hnot => hnot hlisted
    · intro h
      by_contra hroot
      obtain ⟨hne, hlisted⟩ : ppid ≠ 0 ∧ ppid ∈ pidSet procs := by simpa using hroot
      obtain ⟨p, hmem, rfl⟩ := List.mem_map.mp hlisted
      obtain ⟨k, hk, rfl⟩ := List.getElem_of_mem hmem
      exact h ⟨k, hk⟩ ⟨rfl, hne⟩

/-- Building from `i` marks nothing but `i` and processes below it. -/
theorem buildSubtree_marks :
    (left depth : ℕ) → (i : Fin procs.length) → (v : Visited procs) → (j : Fin procs.length) →
    (buildSubtree procs left depth i v).2 j = true →
    v j = true ∨ ReflTransGen (ParentLink procs) j i
  | 0, depth, i, v, j, h => by
      rcases mark_eq_true.mp (by simpa [buildSubtree] using h) with rfl | hv
      · exact Or.inr .refl
      · exact Or.inl hv
  | left + 1, depth, i, v, j, h => by
      have hpass := placeUnvisited_rel (buildSubtree procs left (depth + 1))
        (l := childrenMap procs procs[i].pid)
        (R := fun v v' => ∀ j, v' j = true → v j = true ∨ ReflTransGen (ParentLink procs) j i)
        (fun _ _ => Or.inl)
        (fun _ _ _ h₁₂ h₂₃ j hj => (h₂₃ j hj).elim (h₁₂ j) Or.inr)
        (fun ci hci w _ _ j hj => (buildSubtree_marks left (depth + 1) ci w j hj).imp_right
          fun hjci => hjci.tail (mem_childrenMap_pid.mp hci))
        j (by simpa [buildSubtree] using h)
      rcases hpass with hmark | hdesc
      · rcases mark_eq_true.mp hmark with rfl | hv
        · exact Or.inr .refl
        · exact Or.inl hv
      · exact Or.inr hdesc

/-- Building from one index never marks another root. -/
theorem buildRoot_not_marks_root {i j : Fin procs.length} {v : Visited procs}
    (hj : isRoot procs j = true) (hji : j ≠ i) (hv : v j = false) :
    (buildRoot procs i v).2 j = false := by
  by_contra hmark
  rcases buildSubtree_marks _ _ i v j (by simpa [buildRoot] using hmark) with h | h
  · simp [hv] at h
  · rcases ReflTransGen.cases_head h with rfl | ⟨k, hjk, _⟩
    · exact hji rfl
    · exact isRoot_iff.mp hj k hjk

/-- No root is visited before its turn, so the first pass may as well check. -/
theorem placeAll_eq_placeUnvisited :
    (l : List (Fin procs.length)) → (v : Visited procs) → l.Nodup →
    (∀ i ∈ l, isRoot procs i = true) → (∀ i ∈ l, v i = false) →
    placeAll (buildRoot procs) l v = placeUnvisited (buildRoot procs) l v
  | [], _, _, _, _ => rfl
  | ri :: rest, v, hnodup, hroot, hv => by
      obtain ⟨hri, hnodup⟩ := List.nodup_cons.mp hnodup
      have hunmarked : ∀ i ∈ rest, (buildRoot procs ri v).2 i = false := fun i hi =>
        buildRoot_not_marks_root (hroot i (List.mem_cons_of_mem ri hi))
          (fun h => hri (h ▸ hi)) (hv i (List.mem_cons_of_mem ri hi))
      rw [placeAll, placeUnvisited, if_neg (by simp [hv ri List.mem_cons_self]),
        placeAll_eq_placeUnvisited rest _ hnodup
          (fun i hi => hroot i (List.mem_cons_of_mem ri hi)) hunmarked]

/-- The order in which the builder tries to place the indices: the roots, then everything. -/
def buildOrder (procs : List ProcessInfo) : List (Fin procs.length) :=
  roots procs ++ List.finRange procs.length

/-- The two passes are one pass over `buildOrder`. -/
theorem buildProcessTree_eq (procs : List ProcessInfo) :
    buildProcessTree procs =
      (placeUnvisited (buildRoot procs) (buildOrder procs) fun _ => false).1 := by
  -- the first pass does not look at the visited set, but no root is in it
  have hroots : placeAll (buildRoot procs) (roots procs) (fun _ => false) =
      placeUnvisited (buildRoot procs) (roots procs) fun _ => false :=
    placeAll_eq_placeUnvisited _ _ ((List.nodup_finRange _).filter _)
      (fun i hi => (List.mem_filter.mp hi).2) (by simp)
  rw [buildOrder, placeUnvisited_append, buildProcessTree, hroots]
  split
  · rename_i hempty
    obtain rfl := List.isEmpty_iff.mp hempty
    rfl
  · rfl

/-- The forest is built from every index once. -/
theorem buildProcessTree_placed (procs : List ProcessInfo) :
    ∃ (v' : Visited procs) (ixs : List (Fin procs.length)), (∀ i, i ∈ ixs) ∧
      Placed (fun _ => false) (buildProcessTree procs) v' ixs := by
  have hplaces : Places (buildRoot procs) := buildSubtree_places maxDepth 0
  obtain ⟨ixs, hcover, hplaced⟩ :=
    placeUnvisited_placed hplaces (buildOrder procs) fun _ => false
  refine ⟨_, ixs, fun i => ?_, (buildProcessTree_eq procs).symm ▸ hplaced⟩
  have hi : i ∈ buildOrder procs := List.mem_append_right _ (List.mem_finRange i)
  exact (hcover i hi).resolve_left (by simp)

/-! ## Depths and parents -/

/-- A node's children are one level deeper and name its process as their parent. -/
def TreeNode.Linked (n : TreeNode) : Prop :=
  ∀ c ∈ n.children, c.depth = n.depth + 1 ∧ c.process.parentPid = some n.process.pid

/-- The subtree of a process is headed by it. -/
theorem buildSubtree_process (left depth : ℕ) (i : Fin procs.length) (v : Visited procs) :
    (buildSubtree procs left depth i v).1.process = procs[i] := by
  cases left <;> rfl

/-- It stands at the depth it was built for. -/
theorem buildSubtree_depth (left depth : ℕ) (i : Fin procs.length) (v : Visited procs) :
    (buildSubtree procs left depth i v).1.depth = depth := by
  cases left <;> rfl

/-- No node is below the cut, and each stands under its parent. -/
theorem buildSubtree_linked :
    (left depth : ℕ) → left + depth = maxDepth → (i : Fin procs.length) → (v : Visited procs) →
    ∀ n ∈ (buildSubtree procs left depth i v).1.nodes, n.depth ≤ maxDepth ∧ n.Linked
  | 0, depth, hd, i, v => by
      have hdepth : depth ≤ maxDepth := by omega
      simpa [buildSubtree, TreeNode.nodes, nodesAll, TreeNode.Linked] using hdepth
  | left + 1, depth, hd, i, v => by
      intro n hn
      rw [buildSubtree, TreeNode.nodes, List.mem_cons] at hn
      rcases hn with rfl | hn
      · refine ⟨by show depth ≤ maxDepth; omega, fun c hc => ?_⟩
        obtain ⟨pre, ci, post, hl, -, rfl⟩ := mem_placeUnvisited.mp hc
        have hci : ci ∈ childrenMap procs procs[i].pid := by rw [hl]; simp
        rw [buildSubtree_depth, buildSubtree_process]
        exact ⟨rfl, (mem_childrenMap_pid.mp hci).1⟩
      · obtain ⟨c, hc, hnc⟩ := mem_nodesAll.mp hn
        obtain ⟨pre, ci, post, -, -, rfl⟩ := mem_placeUnvisited.mp hc
        exact buildSubtree_linked left (depth + 1) (by omega) ci _ n hnc

/-- Every tree of the forest was built from some index at depth 0. -/
theorem mem_buildProcessTree {t : TreeNode} (ht : t ∈ buildProcessTree procs) :
    ∃ i v, t = (buildRoot procs i v).1 := by
  rw [buildProcessTree_eq] at ht
  obtain ⟨pre, i, post, -, -, rfl⟩ := mem_placeUnvisited.mp ht
  exact ⟨i, _, rfl⟩

/-- So it is in the whole forest. -/
theorem buildProcessTree_nodes {n : TreeNode} (hn : n ∈ nodesAll (buildProcessTree procs)) :
    n.depth ≤ maxDepth ∧ n.Linked := by
  obtain ⟨t, ht, hnt⟩ := mem_nodesAll.mp hn
  obtain ⟨i, v, rfl⟩ := mem_buildProcessTree ht
  exact buildSubtree_linked maxDepth 0 rfl i v n hnt

end Links

/-- What the tree lists was listed. -/
theorem mem_of_mem_flattenTree {procs : List ProcessInfo} {entry : ProcessInfo × ℕ}
    (h : entry ∈ flattenTree (buildProcessTree procs)) : entry.1 ∈ procs := by
  obtain ⟨v', ixs, -, hplaced⟩ := buildProcessTree_placed procs
  rw [flattenTree_eq] at h
  obtain ⟨n, hn, rfl⟩ := List.mem_map.mp h
  have hmem : n.process ∈ ixs.map fun i => procs[i] :=
    hplaced.processes ▸ List.mem_map_of_mem hn
  obtain ⟨i, -, hi⟩ := List.mem_map.mp hmem
  exact hi ▸ List.getElem_mem i.isLt

/-- **The forest is a rearrangement of the list.** Flattening it lists every input position once,
no depth exceeds the cap, roots are at depth 0, and each child is one level below, and names as its
parent, the node it hangs under. -/
theorem flattenTree_buildProcessTree (procs : List ProcessInfo) :
    (∃ order : List (Fin procs.length), order.Perm (List.finRange procs.length) ∧
      (flattenTree (buildProcessTree procs)).map Prod.fst = order.map fun i => procs[i]) ∧
    (∀ entry ∈ flattenTree (buildProcessTree procs), entry.2 ≤ maxDepth) ∧
    (∀ root ∈ buildProcessTree procs, root.depth = 0) ∧
    ∀ node ∈ nodesAll (buildProcessTree procs), ∀ child ∈ node.children,
      child.depth = node.depth + 1 ∧ child.process.parentPid = some node.process.pid := by
  refine ⟨?_, ?_, ?_, fun node hnode => (buildProcessTree_nodes hnode).2⟩
  · obtain ⟨v', order, hall, hplaced⟩ := buildProcessTree_placed procs
    refine ⟨order, (List.perm_ext_iff_of_nodup hplaced.nodup (List.nodup_finRange _)).mpr ?_, ?_⟩
    · simp [hall]
    · rw [flattenTree_eq, List.map_map, ← hplaced.processes]
      rfl
  · intro entry hentry
    rw [flattenTree_eq] at hentry
    obtain ⟨node, hnode, rfl⟩ := List.mem_map.mp hentry
    exact (buildProcessTree_nodes hnode).1
  · intro root hroot
    obtain ⟨i, v, rfl⟩ := mem_buildProcessTree hroot
    exact buildSubtree_depth maxDepth 0 i v

/-! ## What the forest should keep of the parent links -/

/-- Process `i` sits in the forest as a child of the process it names as its parent. -/
def PlacedUnderParent (procs : List ProcessInfo) (i : Fin procs.length) : Prop :=
  ∃ node ∈ nodesAll (buildProcessTree procs), ∃ child ∈ node.children,
    child.process = procs[i] ∧ procs[i].parentPid = some node.process.pid

/-- Processes outside every parent cycle stay under a listed parent, and only processes without a
listed parent and members of a cycle are at depth 0. -/
def StaysAttached (procs : List ProcessInfo) : Prop :=
  (∀ i, ¬ OnCycle (ParentLink procs) i → (∃ j, ParentLink procs i j) →
    PlacedUnderParent procs i) ∧
  ∀ root ∈ buildProcessTree procs, ∃ i : Fin procs.length, procs[i] = root.process ∧
    ((∀ j, ¬ ParentLink procs i j) ∨ OnCycle (ParentLink procs) i)

end Muxtop.Core
