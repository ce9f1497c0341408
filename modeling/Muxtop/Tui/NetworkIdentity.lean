import Muxtop.Tui.NetworkView
import Muxtop.Tui.Selection

/-!
# The interface under the cursor

The table sorts the interfaces that pass the filter. The copy and the inspector count down the same list
before it is sorted.
-/

namespace Muxtop.Tui

open Muxtop.Core StableSort

namespace Views

variable {lib : Lib} {history : NetworkHistory} {v : Views}

/-- The interface highlighted, the one copied and the one inspected are one interface of the snapshot. -/
def SameInterface (lib : Lib) (history : NetworkHistory) (v : Views) : Prop :=
  ∃ i ∈ (v.sortedInterfaces lib history)[v.netSelected]?,
    v.copiedInterface lib = some i ∧ v.selectedIdentifier lib = some i.1.name ∧
      v.inspectedInterface lib = some i

/-- Some interface that passes the filter has as many of these above it in the snapshot as in the table,
and the cursor is that far down. -/
def InterfaceInPlace (lib : Lib) (history : NetworkHistory) (v : Views) : Prop :=
  let rows := v.visibleRows lib
  ∃ i ∈ rows, (rows.countP fun a => Earlier a i) = v.netSelected ∧
    (rows.countP fun a => InterfaceAbove history v.netSortField v.netSortOrder a i) = v.netSelected

instance : Decidable (v.SameInterface lib history) := inferInstanceAs (Decidable (∃ i ∈ _, _))
instance : Decidable (v.InterfaceInPlace lib history) := inferInstanceAs (Decidable (∃ i ∈ _, _))

/-- What is copied names the interface counted to. -/
theorem selectedIdentifier_network (htab : v.tab = .network) :
    v.selectedIdentifier lib = (v.copiedInterface lib).map (·.1.name) := by
  unfold selectedIdentifier copiedInterface
  rw [htab, ← map_fst_visibleRows, List.getElem?_map, Option.map_map]
  rfl

/-- **The selected interface.** On the Network tab, with any snapshot, history, filter, sort and cursor, the
interface highlighted, the one copied and the one inspected are the same exactly when some interface that
passes the filter stands at the cursor both in the snapshot's order and in the table. -/
theorem sameInterface_iff (lib : Lib) (history : NetworkHistory) (v : Views) (htab : v.tab = .network) :
    v.SameInterface lib history ↔ v.InterfaceInPlace lib history := by
  have hinspected : v.inspectedInterface lib = v.copiedInterface lib := rfl
  unfold SameInterface
  rw [selectedIdentifier_network htab, hinspected, exists_same_iff]
  exact exists_common_iff not_interfaceAbove_of_interfaceAbove not_earlier_of_earlier
    (sortInterfaces_perm ..) (pairwise_sortInterfaces pairwise_visibleRows ..) pairwise_visibleRows
    (List.Subset.refl _)

end Views

/-- A sample with some interfaces, given by name and bytes received. -/
def received (interfaces : List (String × UInt64)) : NetworkSnapshot :=
  let interface (i : String × UInt64) : NetworkInterfaceSnapshot :=
    { (default : NetworkInterfaceSnapshot) with name := i.1, bytesRx := i.2 }
  { (default : NetworkSnapshot) with interfaces := interfaces.map interface }

/-- The Network tab and its history after two samples, one second apart. -/
def networkTab (first second : List (String × UInt64)) : Views × NetworkHistory :=
  ({ tab := .network
     lastSnapshot := some { (default : SystemSnapshot) with networks := received second } },
    ((NetworkHistory.new 60).push (received first) 0).push (received second) (10 ^ 9))

namespace Views

/-- Where the snapshot lists the busier interface first, all three are that one. -/
theorem sameInterface_iff_busiestFirst :
    (networkTab [("eth0", 0), ("lo", 0)] [("eth0", 900), ("lo", 10)]).1.SameInterface .ascii
      (networkTab [("eth0", 0), ("lo", 0)] [("eth0", 900), ("lo", 10)]).2 :=
  (sameInterface_iff .ascii _ _ rfl).2 (by decide +kernel)

/-- Where it lists the busier interface last, the table highlights that one, and the other is copied and
inspected. -/
theorem not_sameInterface_busiestLast :
    ¬ ∀ (v : Views) (history : NetworkHistory), v.tab = .network →
      v.cursor .network < v.drawnRows .ascii .network → v.SameInterface .ascii history := by
  intro h
  have hsame := h (networkTab [("lo", 0), ("eth0", 0)] [("lo", 10), ("eth0", 900)]).1
    (networkTab [("lo", 0), ("eth0", 0)] [("lo", 10), ("eth0", 900)]).2 rfl (by decide)
  exact absurd hsame (by decide +kernel)

end Views

end Muxtop.Tui
