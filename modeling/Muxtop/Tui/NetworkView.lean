import Muxtop.Core.NetworkHistory
import Muxtop.Tui.Draw

/-!
# The table of the Network tab

Reference: `muxtop-tui/src/ui/network.rs`; `visible_interfaces` of `app.rs`.

A row keeps its position in the snapshot, so that two interfaces of one name stay apart. The sum of the
error counters wraps, as it does in a release build.
-/

namespace Muxtop.Tui

open Muxtop.Core StableSort
open Text (Lowercase)

/-- A row of the table, with its position in the snapshot. -/
abbrev InterfaceRow := NetworkInterfaceSnapshot × ℕ

variable {history : NetworkHistory} {field : NetworkSortField} {order : SortOrder}

/-- The table's sort, by name ascending and by the others descending unless reversed. -/
def sortInterfaces (history : NetworkHistory) (rows : List InterfaceRow) (field : NetworkSortField)
    (order : SortOrder) : List InterfaceRow :=
  let sorted := match field with
    | .name => sortBy (fun a b => compare a.1.name b.1.name) rows
    | .rxRate =>
      sortBy (fun a b => (history.bandwidthRx b.1.name).cmp (history.bandwidthRx a.1.name)) rows
    | .txRate =>
      sortBy (fun a b => (history.bandwidthTx b.1.name).cmp (history.bandwidthTx a.1.name)) rows
    | .totalRx => sortByKeyRev (fun i => i.1.bytesRx) rows
    | .totalTx => sortByKeyRev (fun i => i.1.bytesTx) rows
    | .errors => sortByKeyRev (fun i => i.1.errorsRx + i.1.errorsTx) rows
  reverseIf (decide (order = .asc) != decide (field = .name)) sorted

/-- What the sort compares by. -/
def interfaceCmp (history : NetworkHistory) (field : NetworkSortField) (a b : InterfaceRow) : Ordering :=
  match field with
  | .name => compare a.1.name b.1.name
  | .rxRate => (history.bandwidthRx b.1.name).cmp (history.bandwidthRx a.1.name)
  | .txRate => (history.bandwidthTx b.1.name).cmp (history.bandwidthTx a.1.name)
  | .totalRx => compare b.1.bytesRx a.1.bytesRx
  | .totalTx => compare b.1.bytesTx a.1.bytesTx
  | .errors => compare (b.1.errorsRx + b.1.errorsTx) (a.1.errorsRx + a.1.errorsTx)

/-- Interfaces are sorted by the column, and turned round or not. -/
theorem sortInterfaces_eq (history : NetworkHistory) (rows : List InterfaceRow)
    (field : NetworkSortField) (order : SortOrder) :
    sortInterfaces history rows field order =
      reverseIf (decide (order = .asc) != decide (field = .name))
        (sortBy (interfaceCmp history field) rows) := by
  cases field <;> rfl

/-- Bandwidths are compared as numbers, since none is NaN. -/
theorem transCmp_bandwidth (history : NetworkHistory) (extract : NetworkInterfaceSnapshot → UInt64) :
    Std.TransCmp fun a b : InterfaceRow =>
      (history.bandwidth b.1.name extract).cmp (history.bandwidth a.1.name extract) := by
  have hcmp : (fun a b : InterfaceRow =>
      (history.bandwidth b.1.name extract).cmp (history.bandwidth a.1.name extract)) =
      fun a b => compare (FloatOrder.value (history.bandwidth b.1.name extract).signMagnitude)
        (FloatOrder.value (history.bandwidth a.1.name extract).signMagnitude) := by
    funext a b
    exact F64.cmp_eq (history.bandwidth_signMagnitude_le b.1.name extract)
      (history.bandwidth_signMagnitude_le a.1.name extract)
  rw [hcmp]
  exact transCmp_keyRev fun i : InterfaceRow =>
    FloatOrder.value (history.bandwidth i.1.name extract).signMagnitude

instance (history : NetworkHistory) (field : NetworkSortField) :
    Std.TransCmp (interfaceCmp history field) := by
  cases field
  case name => exact transCmp_on compare fun i : InterfaceRow => i.1.name
  case rxRate => exact transCmp_bandwidth history (·.bytesRx)
  case txRate => exact transCmp_bandwidth history (·.bytesTx)
  case totalRx => exact transCmp_keyRev fun i : InterfaceRow => i.1.bytesRx
  case totalTx => exact transCmp_keyRev fun i : InterfaceRow => i.1.bytesTx
  case errors => exact transCmp_keyRev fun i : InterfaceRow => i.1.errorsRx + i.1.errorsTx

/-- Whether the table draws a row above another. -/
def InterfaceAbove (history : NetworkHistory) (field : NetworkSortField) (order : SortOrder) :
    InterfaceRow → InterfaceRow → Prop :=
  Flipped (decide (order = .asc) != decide (field = .name))
    (Before (interfaceCmp history field) Earlier)

instance : DecidableRel (InterfaceAbove history field order) :=
  inferInstanceAs (DecidableRel (Flipped _ _))

/-- No two interfaces stand above each other. -/
theorem not_interfaceAbove_of_interfaceAbove (a b : InterfaceRow)
    (h : InterfaceAbove history field order a b) : ¬ InterfaceAbove history field order b a :=
  not_flipped_of_flipped (fun _ _ => not_before_of_before not_earlier_of_earlier) a b h

/-- A sort shows each interface once. -/
theorem sortInterfaces_perm (history : NetworkHistory) (rows : List InterfaceRow)
    (field : NetworkSortField) (order : SortOrder) :
    (sortInterfaces history rows field order).Perm rows := by
  rw [sortInterfaces_eq]
  exact (reverseIf_perm _ _).trans (sortBy_perm _ _)

/-- The interfaces stand in the order that the sort has. -/
theorem pairwise_sortInterfaces {rows : List InterfaceRow} (h : rows.Pairwise Earlier)
    (history : NetworkHistory) (field : NetworkSortField) (order : SortOrder) :
    (sortInterfaces history rows field order).Pairwise (InterfaceAbove history field order) := by
  rw [sortInterfaces_eq]
  exact pairwise_reverseIf _ (pairwise_sortBy rows h)

namespace Views

variable (lib : Lib) (history : NetworkHistory) (v : Views)

/-- The interfaces that pass the filter, in snapshot order. -/
def visibleRows : List InterfaceRow :=
  match v.lastSnapshot with
  | none => []
  | some snapshot =>
    let filter := lib.lower.toLowercase v.netFilterInput
    snapshot.networks.interfaces.zipIdx.filter fun i =>
      filter.isEmpty || Text.contains (lib.lower.toLowercase i.1.name) filter

/-- Filter + sort the interfaces exactly as the table shows them. -/
def sortedInterfaces : List InterfaceRow :=
  sortInterfaces history (v.visibleRows lib) v.netSortField v.netSortOrder

/-- The interface whose name `selected_identifier` returns on the Network tab. -/
def copiedInterface : Option InterfaceRow := (v.visibleRows lib)[v.netSelected]?

/-- The interface that `network_details` shows. -/
def inspectedInterface : Option InterfaceRow := (v.visibleRows lib)[v.netSelected]?

variable {lib history v}

/-- The rows are those of the interfaces that the filter lets through. -/
theorem map_fst_visibleRows : (v.visibleRows lib).map Prod.fst = v.visibleInterfaces lib := by
  unfold visibleRows visibleInterfaces
  cases v.lastSnapshot with
  | none => rfl
  | some snapshot =>
    let filter := lib.lower.toLowercase v.netFilterInput
    exact map_fst_filter_zipIdx (fun i : NetworkInterfaceSnapshot =>
      filter.isEmpty || Text.contains (lib.lower.toLowercase i.name) filter) _

/-- They come in the order of the snapshot. -/
theorem pairwise_visibleRows : (v.visibleRows lib).Pairwise Earlier := by
  unfold visibleRows
  cases v.lastSnapshot with
  | none => exact List.Pairwise.nil
  | some snapshot => exact (pairwise_zipIdx snapshot.networks.interfaces).filter _

/-- The table has as many rows as the frame draws. -/
theorem length_sortedInterfaces : (v.sortedInterfaces lib history).length = v.drawnRows lib .network := by
  unfold sortedInterfaces drawnRows
  rw [(sortInterfaces_perm ..).length_eq, ← map_fst_visibleRows, List.length_map]

end Views

end Muxtop.Tui
