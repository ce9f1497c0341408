import Mathlib.Logic.Relation
import Mathlib.Order.WellFounded
import Mathlib.Data.Fintype.Card
import Mathlib.Data.List.Chain
import Mathlib.Data.Fintype.EquivFin

/-!
# Functional graphs

A relation in which every node has at most one successor, read as a link from a node to its
parent. Following the links from a node of a finite graph ends at a node without a parent or
enters a cycle, and never both (`exists_terminal_or_cycle`, `not_terminal_of_cycle`).
-/

namespace FunctionalGraph

open Relation

variable {α : Type*} {r : α → α → Prop}

/-- `a` lies on a cycle of `r`. -/
def OnCycle (r : α → α → Prop) (a : α) : Prop := TransGen r a a

/-- `a` has no successor. -/
def Terminal (r : α → α → Prop) (a : α) : Prop := ∀ b, ¬ r a b

/-- A node reached from a cycle lies on a cycle: the only way forward is around. -/
theorem OnCycle.of_reflTransGen (hr : Relator.RightUnique r) {a b : α} (ha : OnCycle r a)
    (hab : ReflTransGen r a b) : OnCycle r b := by
  induction hab with
  | refl => exact ha
  | @tail b c _ hbc ih =>
    obtain ⟨b', hbb', hb'⟩ := TransGen.head'_iff.mp ih
    obtain rfl : b' = c := hr hbb' hbc
    exact TransGen.tail' hb' hbc

/-- No terminal node is reached from a cycle. -/
theorem not_terminal_of_cycle (hr : Relator.RightUnique r) {a b : α} (ha : OnCycle r a)
    (hab : ReflTransGen r a b) : ¬ Terminal r b := by
  intro hb
  obtain ⟨c, hbc, _⟩ := TransGen.head'_iff.mp (ha.of_reflTransGen hr hab)
  exact hb c hbc

/-- A node that reaches a cycle reaches no terminal node. -/
theorem not_terminal_of_reaches_cycle (hr : Relator.RightUnique r) {a c t : α}
    (hac : ReflTransGen r a c) (hc : OnCycle r c) (hat : ReflTransGen r a t) :
    ¬ Terminal r t := by
  rcases ReflTransGen.total_of_right_unique hr hac hat with hct | htc
  · exact not_terminal_of_cycle hr hc hct
  · intro ht
    rcases ReflTransGen.cases_head htc with rfl | ⟨b, hb, _⟩
    · exact not_terminal_of_cycle hr hc .refl ht
    · exact ht b hb

/-- In a finite graph the links from a node end at a terminal node or enter a cycle. -/
theorem exists_terminal_or_cycle [Finite α] (a : α) :
    (∃ t, ReflTransGen r a t ∧ Terminal r t) ∨ ∃ c, ReflTransGen r a c ∧ OnCycle r c := by
  by_contra h
  push Not at h
  obtain ⟨hterm, hcyc⟩ := h
  -- without a cycle above `a` the successor relation there is well founded
  let S := {b : α // ReflTransGen r a b}
  let above : S → S → Prop := fun x y => TransGen r y.1 x.1
  have : IsTrans S above := ⟨fun _ _ _ hxy hyz => TransGen.trans hyz hxy⟩
  have : Std.Irrefl above := ⟨fun x hx => hcyc x.1 x.2 hx⟩
  have hwf : WellFounded above := Finite.wellFounded_of_trans_of_irrefl above
  obtain ⟨m, -, hm⟩ := hwf.has_min Set.univ ⟨⟨a, .refl⟩, trivial⟩
  have hnt := hterm m.1 m.2
  unfold Terminal at hnt
  push Not at hnt
  obtain ⟨b, hb⟩ := hnt
  exact hm ⟨b, m.2.tail hb⟩ trivial (TransGen.single hb)

/-- A simple path: distinct nodes, each linked to the next. -/
structure SimplePath (r : α → α → Prop) (path : List α) : Prop where
  chain : path.IsChain r
  nodup : path.Nodup

/-- Extend a simple path at its start by a node that is not on it. -/
theorem SimplePath.cons {a b : α} {path : List α} (h : SimplePath r (b :: path)) (hab : r a b)
    (ha : a ∉ b :: path) : SimplePath r (a :: b :: path) :=
  ⟨List.isChain_cons_cons.mpr ⟨hab, h.chain⟩, List.nodup_cons.mpr ⟨ha, h.nodup⟩⟩

/-- A simple path of a finite graph visits at most every node. -/
theorem SimplePath.length_le [Fintype α] {path : List α} (h : SimplePath r path) :
    path.length ≤ Fintype.card α :=
  h.nodup.length_le_card

end FunctionalGraph
