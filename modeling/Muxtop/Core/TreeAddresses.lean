import Muxtop.Core.ProcessTree

/-!
# Addresses in a forest

The place of a node is its address: the number of its tree, then on each level the number of a child. The
addresses of a forest come in the order of its listing.
-/

namespace Muxtop.Core

mutual

/-- The addresses of a node and of all below it, in the order of `TreeNode.walk`. -/
def TreeNode.addresses : TreeNode → List (List ℕ)
  | ⟨_, children, _⟩ => [] :: addressesAll children

/-- The addresses of the nodes of a forest. -/
def addressesAll : List TreeNode → List (List ℕ)
  | [] => []
  | t :: rest => t.addresses.map (0 :: ·) ++ (addressesAll rest).map (List.modifyHead (· + 1))

end

/-- The children of the node at an address; the trees themselves at the empty one. -/
def childrenAt : List TreeNode → List ℕ → List TreeNode
  | forest, [] => forest
  | forest, k :: address => (forest[k]?).elim [] fun t => childrenAt t.children address

/-- The node at an address. -/
def nodeAt (forest : List TreeNode) (address : List ℕ) : Option TreeNode :=
  address.getLast?.bind fun k => (childrenAt forest address.dropLast)[k]?

/-- Whether the node on this level of the way to an address has a later sibling. -/
def hasLaterSibling (forest : List TreeNode) (address : List ℕ) (level : ℕ) : Bool :=
  (address[level]?).elim false fun k => decide (k + 1 < (childrenAt forest (address.take level)).length)

/-- A node's children are one level deeper. -/
def TreeNode.DepthLinked (n : TreeNode) : Prop := ∀ c ∈ n.children, c.depth = n.depth + 1

section

variable {t : TreeNode} {rest forest : List TreeNode} {address : List ℕ} {k level : ℕ}

/-! ## The first tree and the later ones -/

theorem childrenAt_zero : childrenAt (t :: rest) (0 :: address) = childrenAt t.children address := rfl

theorem childrenAt_succ :
    childrenAt (t :: rest) ((k + 1) :: address) = childrenAt rest (k :: address) := rfl

/-- A first tree has later siblings when there are other trees. -/
theorem hasLaterSibling_zero_zero :
    hasLaterSibling (t :: rest) (0 :: address) 0 = !rest.isEmpty := by
  cases rest <;> simp [hasLaterSibling, childrenAt]

theorem hasLaterSibling_zero_succ :
    hasLaterSibling (t :: rest) (0 :: address) (level + 1) = hasLaterSibling t.children address level :=
  rfl

/-- Further on, one looks among the other trees. -/
theorem hasLaterSibling_modifyHead :
    hasLaterSibling (t :: rest) (address.modifyHead (· + 1)) level =
      hasLaterSibling rest address level := by
  cases address with
  | nil => rfl
  | cons k address =>
    cases level with
    | zero => simp [hasLaterSibling, childrenAt]
    | succ level => rfl

/-- An address that begins in the first tree goes on below it. -/
theorem nodeAt_zero_cons :
    nodeAt (t :: rest) (0 :: k :: address) = nodeAt t.children (k :: address) := by
  simp [nodeAt, childrenAt_zero]

/-- Any address goes on below the tree it begins in. -/
theorem nodeAt_cons_cons {k' : ℕ} :
    nodeAt forest (k :: k' :: address) = (forest[k]?).bind fun t => nodeAt t.children (k' :: address) := by
  unfold nodeAt
  rw [List.getLast?_cons_cons, List.dropLast_cons_cons, childrenAt]
  cases forest[k]? <;> simp

/-- One that begins further on is an address among the other trees. -/
theorem nodeAt_modifyHead (h : address ≠ []) :
    nodeAt (t :: rest) (address.modifyHead (· + 1)) = nodeAt rest address := by
  match address with
  | [] => exact absurd rfl h
  | [k] => rfl
  | k :: k' :: address => simp [nodeAt, childrenAt_succ]

/-! ## Addresses and nodes -/

/-- No node is nowhere. -/
theorem ne_nil_of_mem_addressesAll (forest : List TreeNode) : ∀ a ∈ addressesAll forest, a ≠ [] := by
  induction forest with
  | nil => simp [addressesAll]
  | cons t rest ih =>
    intro a ha
    rw [addressesAll, List.mem_append] at ha
    obtain ha | ha := ha
    · obtain ⟨b, -, rfl⟩ := List.mem_map.1 ha
      simp
    · obtain ⟨b, hb, rfl⟩ := List.mem_map.1 ha
      have hne := ih b hb
      cases b with
      | nil => exact absurd rfl hne
      | cons k b => simp

mutual

/-- The nodes at the addresses of a subtree are those of its listing. -/
theorem TreeNode.addresses_nodes :
    (t : TreeNode) → t.addresses.map (fun a => nodeAt [t] (0 :: a)) = t.nodes.map some
  | ⟨process, children, depth⟩ => by
      rw [TreeNode.addresses, TreeNode.nodes, List.map_cons, List.map_cons, ← addressesAll_nodes children]
      refine congrArg₂ _ rfl (List.map_congr_left fun a ha => ?_)
      have hne := ne_nil_of_mem_addressesAll children a ha
      cases a with
      | nil => exact absurd rfl hne
      | cons k a => exact nodeAt_zero_cons

/-- The nodes at the addresses of a forest are those of its listing. -/
theorem addressesAll_nodes :
    (forest : List TreeNode) → (addressesAll forest).map (nodeAt forest) = (nodesAll forest).map some
  | [] => rfl
  | t :: rest => by
      rw [addressesAll, nodesAll, List.map_append, List.map_append, List.map_map, List.map_map,
        ← t.addresses_nodes, ← addressesAll_nodes rest]
      refine congrArg₂ _ (List.map_congr_left fun a _ => ?_) (List.map_congr_left fun a ha => ?_)
      · cases a with
        | nil => rfl
        | cons k a => exact nodeAt_zero_cons.trans nodeAt_zero_cons.symm
      · exact nodeAt_modifyHead (ne_nil_of_mem_addressesAll rest a ha)

end

/-- There is an address for each row. -/
theorem TreeNode.length_addresses (t : TreeNode) : t.addresses.length = t.walk.length := by
  have hlen := congrArg List.length t.addresses_nodes
  rw [List.length_map, List.length_map] at hlen
  rw [hlen, t.walk_eq, List.length_map]

/-! ## Depths -/

mutual

/-- Nothing in a tree stands above it. -/
theorem TreeNode.depth_le_of_mem : (t : TreeNode) → (∀ n ∈ t.nodes, n.DepthLinked) →
    ∀ n ∈ t.nodes, t.depth ≤ n.depth
  | ⟨process, children, depth⟩, hlinked, n, hn => by
      rw [TreeNode.nodes] at hlinked hn
      obtain rfl | hn := List.mem_cons.1 hn
      · exact le_rfl
      · have hself : TreeNode.DepthLinked ⟨process, children, depth⟩ := hlinked _ List.mem_cons_self
        have hbelow := depth_le_of_mem_nodesAll children (depth + 1) hself
          (fun m hm => hlinked m (List.mem_cons_of_mem _ hm)) n hn
        exact le_trans (Nat.le_succ depth) hbelow

/-- No node of a forest is above its roots. -/
theorem depth_le_of_mem_nodesAll : (forest : List TreeNode) → (b : ℕ) → (∀ t ∈ forest, t.depth = b) →
    (∀ n ∈ nodesAll forest, n.DepthLinked) → ∀ n ∈ nodesAll forest, b ≤ n.depth
  | [], b, _, _, n, hn => by cases hn
  | t :: rest, b, hroots, hlinked, n, hn => by
      rw [nodesAll] at hlinked hn
      obtain hn | hn := List.mem_append.1 hn
      · rw [← hroots t List.mem_cons_self]
        exact t.depth_le_of_mem (fun m hm => hlinked m (List.mem_append_left _ hm)) n hn
      · exact depth_le_of_mem_nodesAll rest b (fun u hu => hroots u (List.mem_cons_of_mem _ hu))
          (fun m hm => hlinked m (List.mem_append_right _ hm)) n hn

end

/-- What is below a tree of the forest is in the forest. -/
theorem nodesAll_children_subset {n : TreeNode} (ht : t ∈ forest) (hn : n ∈ nodesAll t.children) :
    n ∈ nodesAll forest := by
  refine mem_nodesAll.2 ⟨t, ht, ?_⟩
  obtain ⟨process, children, depth⟩ := t
  exact List.mem_cons_of_mem _ hn

/-- The depth of a node is the length of its way. -/
theorem depth_of_nodeAt {n : TreeNode} {b : ℕ} (hroots : ∀ t ∈ forest, t.depth = b)
    (hlinked : ∀ m ∈ nodesAll forest, m.DepthLinked) (hn : nodeAt forest address = some n) :
    n.depth + 1 = b + address.length := by
  induction address generalizing forest b with
  | nil => cases hn
  | cons k address ih =>
    cases address with
    | nil => rw [hroots n (List.mem_of_getElem? hn), List.length_singleton]
    | cons k' address =>
      rw [nodeAt_cons_cons, Option.bind_eq_some_iff] at hn
      obtain ⟨t, ht, hn⟩ := hn
      have hmem : t ∈ forest := List.mem_of_getElem? ht
      have hself : t.DepthLinked := hlinked t (mem_nodesAll.2 ⟨t, hmem, mem_nodes_self t⟩)
      have hchildren : ∀ c ∈ t.children, c.depth = b + 1 := fun c hc => by
        rw [hself c hc, hroots t hmem]
      have hbelow := ih hchildren (fun m hm => hlinked m (nodesAll_children_subset hmem hm)) hn
      rw [hbelow, List.length_cons (a := k)]
      omega

/-- A forest has a row for each address. -/
theorem exists_address {i : ℕ} {e : ProcessInfo × ℕ} (hi : (flattenTree forest)[i]? = some e) :
    ∃ a n, (addressesAll forest)[i]? = some a ∧ nodeAt forest a = some n ∧ (n.process, n.depth) = e := by
  rw [flattenTree_eq, List.getElem?_map, Option.map_eq_some_iff] at hi
  obtain ⟨n, hn, rfl⟩ := hi
  have hnode : ((addressesAll forest).map (nodeAt forest))[i]? = some (some n) := by
    rw [addressesAll_nodes, List.getElem?_map, hn, Option.map_some]
  rw [List.getElem?_map, Option.map_eq_some_iff] at hnode
  obtain ⟨a, ha, hat⟩ := hnode
  exact ⟨a, n, ha, hat, rfl⟩

end

/-- The roots of the built forest stand at depth 0. -/
theorem depth_of_mem_buildProcessTree {procs : List ProcessInfo} {t : TreeNode}
    (ht : t ∈ buildProcessTree procs) : t.depth = 0 := by
  obtain ⟨i, v, rfl⟩ := mem_buildProcessTree ht
  exact buildSubtree_depth maxDepth 0 i v

/-- Depths go up by one from a process to those it started. -/
theorem depthLinked_of_mem_nodesAll {procs : List ProcessInfo} {n : TreeNode}
    (hn : n ∈ nodesAll (buildProcessTree procs)) : n.DepthLinked :=
  fun c hc => ((buildProcessTree_nodes hn).2 c hc).1

end Muxtop.Core
