import Mathlib.Data.List.Pairwise
import Muxtop.Foundation.StableSort

/-!
# Comparisons that are total preorders on a list

What the sorts of a slice ask of a comparison: that on the elements of the slice it is a total order up to
ties. On one that is not they may panic, or leave the elements in any order.
-/

namespace StableSort

variable {α β : Type*} {cmp : α → α → Ordering} {l : List α}

/-- On the elements of a list, the comparison is a total order up to ties. -/
structure TotalPreorderOn (cmp : α → α → Ordering) (l : List α) : Prop where
  swap : ∀ a ∈ l, ∀ b ∈ l, cmp a b = (cmp b a).swap
  isLE_trans : ∀ a ∈ l, ∀ b ∈ l, ∀ c ∈ l,
    (cmp a b).isLE = true → (cmp b c).isLE = true → (cmp a c).isLE = true
  eq_trans : ∀ a ∈ l, ∀ b ∈ l, ∀ c ∈ l, cmp a b = .eq → cmp b c = .eq → cmp a c = .eq

/-- No element stands below a greater one. -/
def Ordered (cmp : α → α → Ordering) (l : List α) : Prop := l.Pairwise fun a b => (cmp a b).isLE = true

instance : Decidable (Ordered cmp l) := inferInstanceAs (Decidable (l.Pairwise _))

/-- The sort puts every list in order on which the comparison is a total preorder. -/
def UnstableSort.Sorts (unstable : UnstableSort α) : Prop :=
  ∀ cmp l, TotalPreorderOn cmp l → Ordered cmp (unstable.sortBy cmp l)

namespace TotalPreorderOn

/-- A comparison that is a total preorder everywhere. -/
theorem of_transCmp [Std.TransCmp cmp] (l : List α) : TotalPreorderOn cmp l where
  swap _ _ _ _ := Std.OrientedCmp.eq_swap
  isLE_trans _ _ _ _ _ _ := Std.TransCmp.isLE_trans
  eq_trans _ _ _ _ _ _ := Std.TransCmp.eq_trans

/-- Comparing by a key of a linear order. -/
theorem of_key {κ : Type*} [Ord κ] [Std.TransOrd κ] (key : α → κ) (l : List α) :
    TotalPreorderOn (fun a b => compare (key a) (key b)) l :=
  have : Std.TransCmp fun a b => compare (key a) (key b) := transCmp_on compare key
  .of_transCmp l

/-- An order of some elements orders fewer of them. -/
theorem subset {l' : List α} (h : TotalPreorderOn cmp l) (hsub : l' ⊆ l) : TotalPreorderOn cmp l' where
  swap a ha b hb := h.swap a (hsub ha) b (hsub hb)
  isLE_trans a ha b hb c hc := h.isLE_trans a (hsub ha) b (hsub hb) c (hsub hc)
  eq_trans a ha b hb c hc := h.eq_trans a (hsub ha) b (hsub hb) c (hsub hc)

/-- A comparison that agrees on the elements of the list. -/
theorem congr {cmp' : α → α → Ordering} (h : TotalPreorderOn cmp' l)
    (heq : ∀ a ∈ l, ∀ b ∈ l, cmp a b = cmp' a b) : TotalPreorderOn cmp l where
  swap a ha b hb := by
    rw [heq a ha b hb, heq b hb a ha]
    exact h.swap a ha b hb
  isLE_trans a ha b hb c hc := by
    rw [heq a ha b hb, heq b hb c hc, heq a ha c hc]
    exact h.isLE_trans a ha b hb c hc
  eq_trans a ha b hb c hc := by
    rw [heq a ha b hb, heq b hb c hc, heq a ha c hc]
    exact h.eq_trans a ha b hb c hc

/-- Elements that all compare equal are ordered. -/
theorem of_all_eq (h : ∀ a ∈ l, ∀ b ∈ l, cmp a b = .eq) : TotalPreorderOn cmp l :=
  congr ⟨fun _ _ _ _ => rfl, fun _ _ _ _ _ _ _ _ => rfl, fun _ _ _ _ _ _ _ _ => rfl⟩ h

/-- The converse comparison. -/
theorem converse (h : TotalPreorderOn cmp l) : TotalPreorderOn (fun a b => cmp b a) l where
  swap a ha b hb := h.swap b hb a ha
  isLE_trans a ha b hb c hc hab hbc := h.isLE_trans c hc b hb a ha hbc hab
  eq_trans a ha b hb c hc hab hbc := h.eq_trans c hc b hb a ha hbc hab

/-- The converse of an order is one. -/
theorem converse_iff : TotalPreorderOn (fun a b => cmp b a) l ↔ TotalPreorderOn cmp l :=
  ⟨converse, converse⟩

/-- Comparing by a key, on the elements or on their keys. -/
theorem on_iff {l : List β} (key : β → α) :
    TotalPreorderOn (fun a b => cmp (key a) (key b)) l ↔ TotalPreorderOn cmp (l.map key) := by
  constructor
  · intro h
    refine ⟨?_, ?_, ?_⟩
    · simp only [List.forall_mem_map]
      exact h.swap
    · simp only [List.forall_mem_map]
      exact h.isLE_trans
    · simp only [List.forall_mem_map]
      exact h.eq_trans
  · intro h
    refine ⟨fun a ha b hb => ?_, fun a ha b hb c hc => ?_, fun a ha b hb c hc => ?_⟩
    · exact h.swap _ (List.mem_map_of_mem ha) _ (List.mem_map_of_mem hb)
    · exact h.isLE_trans _ (List.mem_map_of_mem ha) _ (List.mem_map_of_mem hb) _ (List.mem_map_of_mem hc)
    · exact h.eq_trans _ (List.mem_map_of_mem ha) _ (List.mem_map_of_mem hb) _ (List.mem_map_of_mem hc)

/-- An element compares equal to itself. -/
theorem cmp_self {a : α} (h : TotalPreorderOn cmp l) (ha : a ∈ l) : cmp a a = .eq := by
  have hswap := h.swap a ha a ha
  cases hcmp : cmp a a with
  | eq => rfl
  | _ => rw [hcmp] at hswap; cases hswap

/-- What is not at most an element is at least it. -/
theorem isLE_of_not_isLE {a b : α} (h : TotalPreorderOn cmp l) (ha : a ∈ l) (hb : b ∈ l)
    (hab : ¬ (cmp a b).isLE = true) : (cmp b a).isLE = true := by
  have hswap := h.swap a ha b hb
  cases hba : cmp b a with
  | lt => rfl
  | eq => rfl
  | gt =>
    rw [hba] at hswap
    exact absurd (by rw [hswap]; rfl) hab

/-- Inserting an element in an ordered list. -/
theorem ordered_orderedInsert {a : α} :
    (l : List α) → TotalPreorderOn cmp (a :: l) → Ordered cmp l →
      Ordered cmp (l.orderedInsert (fun a b => (cmp a b).isLE = true) a)
  | [], _, _ => List.pairwise_singleton _ _
  | b :: l, h, hordered => by
    obtain ⟨hb, hl⟩ := List.pairwise_cons.1 hordered
    rw [List.orderedInsert_cons]
    split_ifs with hab
    · refine List.pairwise_cons.2 ⟨fun c hc => ?_, hordered⟩
      obtain rfl | hc' := List.mem_cons.1 hc
      · exact hab
      · exact h.isLE_trans a (by simp) b (by simp) c (by simp [hc']) hab (hb c hc')
    · have hrest : TotalPreorderOn cmp (a :: l) :=
        h.subset (List.cons_subset_cons a (List.subset_cons_self b l))
      refine List.pairwise_cons.2 ⟨fun c hc => ?_, ordered_orderedInsert l hrest hl⟩
      obtain rfl | hc' := (List.mem_orderedInsert _).1 hc
      · exact h.isLE_of_not_isLE (by simp) (by simp) hab
      · exact hb c hc'

end TotalPreorderOn

/-- The stable sort orders a list where the comparison is a total preorder on it. -/
theorem ordered_sortBy : (l : List α) → TotalPreorderOn cmp l → Ordered cmp (sortBy cmp l)
  | [], _ => List.Pairwise.nil
  | a :: l, h => by
    have hsorted := ordered_sortBy l (h.subset (List.subset_cons_self a l))
    exact TotalPreorderOn.ordered_orderedInsert _ (h.subset ((sortBy_perm cmp l).cons a).subset) hsorted

/-- The stable sort sorts. -/
theorem sorts_stable (α : Type*) : (UnstableSort.stable α).Sorts := fun _ l h => ordered_sortBy l h

/-! ## Directions -/

section Directions

variable {flip natural shown : Bool}

/-- A comparison, or its converse where a list is reversed. -/
def turned (flip : Bool) (cmp : α → α → Ordering) (a b : α) : Ordering :=
  if flip then cmp b a else cmp a b

/-- Turned round twice is turned round or not. -/
theorem turned_turned (flip natural : Bool) (cmp : α → α → Ordering) :
    turned flip (turned natural cmp) = turned (flip ^^ natural) cmp := by
  cases flip <;> cases natural <;> rfl

/-- An order is an order either way round. -/
theorem TotalPreorderOn.turned (h : TotalPreorderOn cmp l) (flip : Bool) :
    TotalPreorderOn (turned flip cmp) l := by
  cases flip with
  | false => exact h
  | true => exact h.converse

/-- And was one if it is one turned round. -/
theorem TotalPreorderOn.of_turned (h : TotalPreorderOn (StableSort.turned flip cmp) l) :
    TotalPreorderOn cmp l := by
  cases flip with
  | false => exact h
  | true => exact converse_iff.1 h

/-- A list turned round is ordered by the converse. -/
theorem Ordered.reverseIf (h : Ordered cmp l) (flip : Bool) :
    Ordered (StableSort.turned flip cmp) (reverseIf flip l) := by
  cases flip with
  | false => exact h
  | true => exact List.pairwise_reverse.2 h

/-- All elements compare equal. -/
def Tied (cmp : α → α → Ordering) (l : List α) : Prop := ∀ a ∈ l, ∀ b ∈ l, cmp a b = .eq

/-- Ties do not depend on the order. -/
theorem Tied.perm {l' : List α} (hperm : l'.Perm l) : Tied cmp l' ↔ Tied cmp l := by
  unfold Tied
  simp only [hperm.mem_iff]

/-- Tied elements are in order however they stand. -/
theorem Tied.ordered (h : Tied cmp l) : Ordered cmp l :=
  List.pairwise_of_forall_mem_list fun a ha b hb => by rw [h a ha b hb]; rfl

/-- They are tied either way round. -/
theorem Tied.turned (h : Tied cmp l) (flip : Bool) : Tied (turned flip cmp) l := by
  cases flip with
  | false => exact h
  | true => exact fun a ha b hb => h b hb a ha

/-- Only a list whose elements all tie is in order in both directions. -/
theorem tied_of_ordered (hpre : TotalPreorderOn cmp l) (h : Ordered cmp l)
    (hconverse : Ordered (fun a b => cmp b a) l) : Tied cmp l := by
  have heq : l.Pairwise fun a b => cmp a b = .eq ∧ cmp b a = .eq := by
    refine (h.imp₂ (fun a b hab hba => And.intro hab hba) hconverse).imp_of_mem ?_
    rintro a b ha hb ⟨hab, hba : (cmp b a).isLE = true⟩
    rw [hpre.swap a ha b hb] at hab ⊢
    cases hcmp : cmp b a <;> rw [hcmp] at hab hba
    case eq => exact ⟨rfl, rfl⟩
    case lt => cases hab
    case gt => cases hba
  have hself (a : α) (ha : a ∈ l) : cmp a a = .eq := hpre.cmp_self ha
  intro a ha b hb
  exact List.Pairwise.forall_of_forall_of_flip hself (heq.imp And.left) (heq.imp And.right) ha hb

/-- A list put in one direction is in the direction shown when the two are one, or nothing tells them
apart. -/
theorem ordered_turned_iff (hpre : TotalPreorderOn cmp l) {applied : Bool}
    (h : Ordered (turned applied cmp) l) :
    Ordered (turned shown cmp) l ↔ shown = applied ∨ Tied cmp l := by
  constructor
  · intro hshown
    by_cases hsame : shown = applied
    · exact .inl hsame
    · have hboth : Ordered cmp l ∧ Ordered (fun a b => cmp b a) l := by
        cases applied <;> cases shown
        case false.true => exact ⟨h, hshown⟩
        case true.false => exact ⟨hshown, h⟩
        all_goals exact absurd rfl hsame
      exact .inr (tied_of_ordered hpre hboth.1 hboth.2)
  · rintro (rfl | htied)
    · exact h
    · exact (htied.turned shown).ordered

/-- A sort by a comparison with its natural direction, turned round or not. -/
theorem ordered_reverseIf_sortBy (hpre : TotalPreorderOn cmp l) (flip natural : Bool) :
    Ordered (turned (flip ^^ natural) cmp) (reverseIf flip (sortBy (turned natural cmp) l)) := by
  rw [← turned_turned]
  exact (ordered_sortBy l (hpre.turned natural)).reverseIf flip

end Directions

/-! ## Ties -/

section Favouring

variable [DecidableEq α]

/-- Move an element to the front. -/
def promote (a : α) (l : List α) : List α := if a ∈ l then a :: l.erase a else l

/-- Promoting an element rearranges. -/
theorem promote_perm (a : α) (l : List α) : (promote a l).Perm l := by
  unfold promote
  split_ifs with h
  · exact (List.perm_cons_erase h).symm
  · exact .refl l

/-- The unstable sort that settles ties in favour of one element: where the list is not turned round
afterwards the element comes first among its equals, where it is turned round it comes last. -/
def UnstableSort.favouring (a : α) (flip : Bool) : UnstableSort α where
  sortBy cmp l := reverseIf flip (StableSort.sortBy (StableSort.turned flip cmp) (promote a l))
  perm _ l := (reverseIf_perm _ _).trans ((sortBy_perm _ _).trans (promote_perm a l))

/-- A sort that favours an element sorts. -/
theorem sorts_favouring (a : α) (flip : Bool) : (UnstableSort.favouring a flip).Sorts := by
  intro cmp l hpre
  have hordered := ordered_reverseIf_sortBy (hpre.subset (promote_perm a l).subset) flip flip
  rw [Bool.xor_self] at hordered
  exact hordered

/-- Turned round or not, only what must stand above the favoured element does. -/
theorem reverseIf_favouring {a : α} (ha : a ∈ l) (flip : Bool) :
    ∃ above below, reverseIf flip ((UnstableSort.favouring a flip).sortBy cmp l) = above ++ a :: below ∧
      ∀ b ∈ above, (StableSort.turned flip cmp a b).isLE = false := by
  have hlist : reverseIf flip ((UnstableSort.favouring a flip).sortBy cmp l) =
      sortBy (StableSort.turned flip cmp) (a :: l.erase a) := by
    have hpromoted : promote a l = a :: l.erase a := if_pos ha
    rw [← hpromoted]
    cases flip with
    | false => rfl
    | true => exact List.reverse_reverse _
  refine ⟨_, _, hlist.trans (List.insertionSort_cons_eq_take_drop _ _ _), fun b hb => ?_⟩
  have hnot := List.all_eq_true.1 List.all_takeWhile b hb
  simpa using hnot

end Favouring

end StableSort
