import Muxtop.Core.TreeAddresses
import Muxtop.Tui.Rows

/-!
# The connectors of the process tree

The tree view draws the lines of a row from the depths of the rows below it alone. In the listing of a
forest, the next row that is no deeper than a level tells whether the node of that level on the way to the
row has a later sibling: the rows between belong to its subtree.
-/

namespace Muxtop.Tui.Processes

open Muxtop.Core

/-! ## What the rows below tell -/

/-- Deeper rows are passed over. -/
theorem ancestorHasMoreSiblings_append (level : ℕ) {front : List (ProcessInfo × ℕ)}
    (h : ∀ e ∈ front, level < e.2) (back : List (ProcessInfo × ℕ)) :
    ancestorHasMoreSiblings level (front ++ back) = ancestorHasMoreSiblings level back := by
  induction front with
  | nil => rfl
  | cons e front ih =>
    have he : level < e.2 := h e List.mem_cons_self
    rw [List.cons_append, ancestorHasMoreSiblings, if_neg (by omega), if_neg (by omega),
      ih fun e' he' => h e' (List.mem_cons_of_mem _ he')]

/-- A row above the level ends the subtree. -/
theorem ancestorHasMoreSiblings_of_head {level : ℕ} {below : List (ProcessInfo × ℕ)}
    (h : ∀ e ∈ below.head?, e.2 < level) : ancestorHasMoreSiblings level below = false := by
  cases below with
  | nil => rfl
  | cons e below => rw [ancestorHasMoreSiblings, if_pos (h e rfl)]

/-- An entry is the last of its siblings when none follows. -/
theorem isLastAtDepth_eq (depth : ℕ) (below : List (ProcessInfo × ℕ)) :
    isLastAtDepth depth below = !ancestorHasMoreSiblings depth below := by
  induction below with
  | nil => rfl
  | cons e below ih =>
    rw [isLastAtDepth, ancestorHasMoreSiblings, ih]
    split_ifs <;> rfl

theorem lt_of_mem_walkAll {children : List TreeNode} {b : ℕ} (hroots : ∀ t ∈ children, t.depth = b + 1)
    (hlinked : ∀ n ∈ nodesAll children, n.DepthLinked) : ∀ e ∈ walkAll children, b < e.2 := by
  intro e he
  rw [walkAll_eq] at he
  obtain ⟨n, hn, rfl⟩ := List.mem_map.1 he
  exact depth_le_of_mem_nodesAll children (b + 1) hroots hlinked n hn

/-- What follows a tree in its forest tells whether there is a later one. -/
theorem scan_root {t : TreeNode} {rest : List TreeNode} {b : ℕ} (hdepth : t.depth = b)
    (hlinked : ∀ n ∈ t.nodes, n.DepthLinked) (hrest : ∀ u ∈ rest, u.depth = b)
    {after : List (ProcessInfo × ℕ)} (hafter : ∀ e ∈ after.head?, e.2 < b) (i : ℕ) :
    ancestorHasMoreSiblings b (t.walk.drop (i + 1) ++ (walkAll rest ++ after)) = !rest.isEmpty := by
  obtain ⟨process, children, depth⟩ := t
  rw [TreeNode.nodes] at hlinked
  have hself : TreeNode.DepthLinked ⟨process, children, depth⟩ := hlinked _ List.mem_cons_self
  have hroots : ∀ c ∈ children, c.depth = b + 1 := fun c hc => by rw [hself c hc, ← hdepth]
  have hdeep : ∀ e ∈ (walkAll children).drop i, b < e.2 := fun e he =>
    lt_of_mem_walkAll hroots (fun n hn => hlinked n (List.mem_cons_of_mem _ hn)) e
      (List.mem_of_mem_drop he)
  rw [TreeNode.walk, List.drop_succ_cons, ancestorHasMoreSiblings_append b hdeep]
  cases rest with
  | nil => exact ancestorHasMoreSiblings_of_head hafter
  | cons u rest =>
    obtain ⟨process', children', depth'⟩ := u
    have hsame : depth' = b := hrest _ List.mem_cons_self
    rw [walkAll, TreeNode.walk, List.cons_append, List.cons_append, ancestorHasMoreSiblings,
      if_neg (by omega), if_pos hsame]
    rfl

/-- The next root is no deeper than the ones before it, so it ends the scan of a subtree. -/
theorem head_walkAll_lt {rest : List TreeNode} {b : ℕ} {after : List (ProcessInfo × ℕ)}
    (hrest : ∀ u ∈ rest, u.depth = b) (hafter : ∀ e ∈ after.head?, e.2 < b) :
    ∀ e ∈ (walkAll rest ++ after).head?, e.2 < b + 1 := by
  intro e he
  cases rest with
  | nil => exact Nat.lt_succ_of_lt (hafter e he)
  | cons u rest =>
    obtain ⟨process, children, depth⟩ := u
    have hsame : depth = b := hrest _ List.mem_cons_self
    obtain rfl := Option.some.inj he
    exact Nat.lt_succ_of_le (le_of_eq hsame)

mutual

/-- The rows below a node of a tree tell, level by level below its root, which nodes on the way have a
later sibling; what follows the tree may not begin below its root. -/
theorem scan_tree : (t : TreeNode) → (b : ℕ) → t.depth = b → (∀ n ∈ t.nodes, n.DepthLinked) →
    (after : List (ProcessInfo × ℕ)) → (∀ e ∈ after.head?, e.2 < b + 1) →
    ∀ (i : ℕ) (a : List ℕ), t.addresses[i]? = some a → ∀ level < a.length,
      ancestorHasMoreSiblings (b + 1 + level) (t.walk.drop (i + 1) ++ after) =
        hasLaterSibling t.children a level
  | ⟨process, children, depth⟩, b, hdepth, hlinked, after, hafter, i, a, hi, level, hlevel => by
      rw [TreeNode.nodes] at hlinked
      have hself : TreeNode.DepthLinked ⟨process, children, depth⟩ := hlinked _ List.mem_cons_self
      have hroots : ∀ c ∈ children, c.depth = b + 1 := fun c hc => by rw [hself c hc, ← hdepth]
      rw [TreeNode.addresses] at hi
      rw [TreeNode.walk]
      cases i with
      | zero =>
        obtain rfl := Option.some.inj hi
        exact absurd hlevel (Nat.not_lt_zero level)
      | succ i =>
        exact scan_forest children (b + 1) hroots
          (fun n hn => hlinked n (List.mem_cons_of_mem _ hn)) after hafter i a hi level hlevel

/-- The same for a forest. -/
theorem scan_forest : (forest : List TreeNode) → (b : ℕ) → (∀ t ∈ forest, t.depth = b) →
    (∀ n ∈ nodesAll forest, n.DepthLinked) →
    (after : List (ProcessInfo × ℕ)) → (∀ e ∈ after.head?, e.2 < b) →
    ∀ (i : ℕ) (a : List ℕ), (addressesAll forest)[i]? = some a → ∀ level < a.length,
      ancestorHasMoreSiblings (b + level) ((walkAll forest).drop (i + 1) ++ after) =
        hasLaterSibling forest a level
  | [], _, _, _, _, _, _, _, hi, _, _ => by cases hi
  | t :: rest, b, hroots, hlinked, after, hafter, i, a, hi, level, hlevel => by
      rw [nodesAll] at hlinked
      have hdepth : t.depth = b := hroots t List.mem_cons_self
      have hin : ∀ n ∈ t.nodes, n.DepthLinked := fun n hn => hlinked n (List.mem_append_left _ hn)
      have hrest : ∀ u ∈ rest, u.depth = b := fun u hu => hroots u (List.mem_cons_of_mem _ hu)
      have hlen := t.length_addresses
      rw [addressesAll, List.getElem?_append, List.length_map] at hi
      rw [walkAll, List.drop_append]
      split at hi
      case isTrue hfirst =>
        -- the row is of the first tree
        rw [List.getElem?_map, Option.map_eq_some_iff] at hi
        obtain ⟨a', hi', rfl⟩ := hi
        rw [show i + 1 - t.walk.length = 0 by omega, List.drop_zero, List.append_assoc]
        cases level with
        | zero => rw [hasLaterSibling_zero_zero, Nat.add_zero, scan_root hdepth hin hrest hafter i]
        | succ level =>
          have hfollows := head_walkAll_lt hrest hafter
          have htree := scan_tree t b hdepth hin _ hfollows i a' hi' level (by simpa using hlevel)
          rw [hasLaterSibling_zero_succ, ← htree]
          congr 1
          omega
      case isFalse hlater =>
        -- the row is of a later tree
        rw [List.getElem?_map, Option.map_eq_some_iff] at hi
        obtain ⟨a', hi', rfl⟩ := hi
        rw [List.drop_eq_nil_of_le (by omega), List.nil_append, hasLaterSibling_modifyHead,
          show i + 1 - t.walk.length = i - t.addresses.length + 1 by omega]
        exact scan_forest rest b hrest (fun n hn => hlinked n (List.mem_append_right _ hn)) after hafter
          (i - t.addresses.length) a' hi' level (by simpa using hlevel)

end

/-! ## The rows of the tree view -/

/-- The connectors that the place of a row asks for: a line or a gap for each level between the roots and
the row, then its own corner. -/
def connectors (g : Glyphs) (forest : List TreeNode) (address : List ℕ) : List String :=
  match address.length - 1 with
  | 0 => []
  | above + 1 =>
    (List.range' 1 above).map (fun level =>
        if hasLaterSibling forest address level then g.treePipe else g.treeGap) ++
      [if hasLaterSibling forest address (above + 1) then g.treeBranch else g.treeLast]

/-- What is drawn for a row is what its place in the forest asks for. -/
structure FollowsTree (g : Glyphs) (forest : List TreeNode) (entries : List (ProcessInfo × ℕ))
    (i : Fin entries.length) (address : List ℕ) : Prop where
  place : (addressesAll forest)[i.val]? = some address
  length : address.length = (entries.get i).2 + 1
  node : ∃ n, nodeAt forest address = some n ∧ (n.process, n.depth) = entries.get i
  isLast : 1 ≤ (entries.get i).2 →
    (isLastAtDepth (entries.get i).2 (entries.drop (i + 1)) = true ↔
      ∃ k, address[(entries.get i).2]? = some k ∧
        k + 1 = (childrenAt forest (address.take (entries.get i).2)).length)
  ancestors : ∀ level, 1 ≤ level → level < (entries.get i).2 →
    (ancestorHasMoreSiblings level (entries.drop (i + 1)) = true ↔
      ∃ k, address[level]? = some k ∧ k + 1 < (childrenAt forest (address.take level)).length)
  count : (connectors g forest address).length = (entries.get i).2
  drawn : treePrefix g entries i = "".intercalate (connectors g forest address)

theorem intercalate_concat (texts : List String) (text : String) :
    "".intercalate (texts ++ [text]) = "".intercalate texts ++ text := by
  induction texts with
  | nil => simp
  | cons first rest ih =>
    cases rest with
    | nil => simp
    | cons second rest =>
      rw [List.cons_append, List.cons_append, String.intercalate_cons_cons,
        String.intercalate_cons_cons, ← List.cons_append, ih]
      simp [String.append_assoc]

theorem hasLaterSibling_iff {forest : List TreeNode} {address : List ℕ} {level : ℕ} :
    hasLaterSibling forest address level = true ↔
      ∃ k, address[level]? = some k ∧ k + 1 < (childrenAt forest (address.take level)).length := by
  unfold hasLaterSibling
  cases address[level]? <;> simp

/-- A node is the last of its siblings when none is later. -/
theorem not_hasLaterSibling_iff {forest : List TreeNode} {address : List ℕ} {n : TreeNode} {depth : ℕ}
    (hnode : nodeAt forest address = some n) (hlength : address.length = depth + 1) :
    ¬hasLaterSibling forest address depth = true ↔
      ∃ k, address[depth]? = some k ∧ k + 1 = (childrenAt forest (address.take depth)).length := by
  have hlast : address.getLast? = address[depth]? := by
    rw [List.getLast?_eq_getElem?, hlength, Nat.add_sub_cancel]
  have hfront : address.dropLast = address.take depth := by
    rw [List.dropLast_eq_take, hlength, Nat.add_sub_cancel]
  rw [nodeAt, hlast, hfront, Option.bind_eq_some_iff] at hnode
  obtain ⟨k, hk, hchild⟩ := hnode
  have hlt := (List.getElem?_eq_some_iff.1 hchild).1
  rw [hasLaterSibling_iff, hk]
  simp only [Option.some_inj, exists_eq_left']
  omega

theorem length_connectors (g : Glyphs) (forest : List TreeNode) {address : List ℕ} {depth : ℕ}
    (hlength : address.length = depth + 1) : (connectors g forest address).length = depth := by
  rw [connectors, hlength, Nat.add_sub_cancel]
  cases depth with
  | zero => rfl
  | succ above => simp

/-- A row whose rows below tell the later siblings is drawn as its place asks for. -/
theorem treePrefix_eq (g : Glyphs) {forest : List TreeNode} {address : List ℕ}
    {entries : List (ProcessInfo × ℕ)} {i : Fin entries.length}
    (hlength : address.length = (entries.get i).2 + 1)
    (hscan : ∀ level < address.length,
      ancestorHasMoreSiblings level (entries.drop (i + 1)) = hasLaterSibling forest address level) :
    treePrefix g entries i = "".intercalate (connectors g forest address) := by
  change address.length = (entries[i]).2 + 1 at hlength
  unfold treePrefix connectors
  dsimp only
  generalize (entries[i]).2 = depth at hlength ⊢
  rw [hlength, Nat.add_sub_cancel]
  cases depth with
  | zero => rfl
  | succ above =>
    rw [if_neg (Nat.succ_ne_zero above), Nat.add_sub_cancel, isLastAtDepth_eq,
      hscan (above + 1) (by omega), intercalate_concat]
    congr 1
    · refine congrArg _ (List.map_congr_left fun level hlevel => ?_)
      rw [List.mem_range'_1] at hlevel
      rw [hscan level (by omega)]
    · cases hasLaterSibling forest address (above + 1) <;> rfl

/-- The rows below a row of the tree view tell the later siblings on the way to it. -/
theorem scan_flattenTree {procs : List ProcessInfo} {i : ℕ} {address : List ℕ}
    (hplace : (addressesAll (buildProcessTree procs))[i]? = some address) :
    ∀ level < address.length,
      ancestorHasMoreSiblings level ((flattenTree (buildProcessTree procs)).drop (i + 1)) =
        hasLaterSibling (buildProcessTree procs) address level := by
  intro level hlevel
  have hforest := scan_forest (buildProcessTree procs) 0 (fun t => depth_of_mem_buildProcessTree)
    (fun n => depthLinked_of_mem_nodesAll) [] (by simp) i address hplace level hlevel
  rwa [List.append_nil, Nat.zero_add] at hforest

/-- **Tree connectors.** Each row of the tree view is drawn as the place of its node in the forest asks
for. -/
theorem treePrefix_followsTree (g : Glyphs) (procs : List ProcessInfo)
    (i : Fin (flattenTree (buildProcessTree procs)).length) :
    ∃ address, FollowsTree g (buildProcessTree procs) (flattenTree (buildProcessTree procs)) i address := by
  obtain ⟨address, n, hplace, hnode, hentry⟩ := exists_address (List.getElem?_eq_getElem i.isLt)
  have hdepth : n.depth = ((flattenTree (buildProcessTree procs)).get i).2 := congrArg Prod.snd hentry
  have hlength : address.length = ((flattenTree (buildProcessTree procs)).get i).2 + 1 := by
    have hlong := depth_of_nodeAt (fun t => depth_of_mem_buildProcessTree)
      (fun n => depthLinked_of_mem_nodesAll) hnode
    omega
  have hscan := scan_flattenTree hplace
  refine ⟨address, {
    place := hplace
    length := hlength
    node := ⟨n, hnode, hentry⟩
    isLast := fun _ => ?_
    ancestors := fun level _ hlevel => ?_
    count := length_connectors g _ hlength
    drawn := treePrefix_eq g hlength hscan }⟩
  · rw [isLastAtDepth_eq, hscan _ (by omega), Bool.not_eq_true', ← Bool.not_eq_true]
    exact not_hasLaterSibling_iff hnode hlength
  · rw [hscan level (by omega)]
    exact hasLaterSibling_iff

end Muxtop.Tui.Processes
