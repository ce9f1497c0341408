import Mathlib.Algebra.Order.BigOperators.Group.List
import Mathlib.Algebra.Order.Group.Nat
import Mathlib.Algebra.Ring.Nat
import Muxtop.Foundation.GreedyDrop
import Muxtop.Foundation.StableSort

/-!
# Columns of a table

`ColumnLayout::resolve` and `ColumnLayout::resolve_scrolled` of
`muxtop-tui/src/ui/widgets/columns.rs`. A column stands here with its index, so that what the code looks
up under an index is at hand. The labels and the alignments of the columns play no part.
-/

namespace Muxtop.Tui.Columns

open GreedyDrop StableSort

/-! ## The code -/

/-- How a column claims horizontal space. -/
inductive Width
  | fixed (cells : UInt16)
  | flex (min : UInt16)
deriving DecidableEq

/-- `PRIO_ESSENTIAL` -/
def prioEssential : UInt8 := 0

structure Column where
  width : Width
  /-- Higher values are dropped first. -/
  priority : UInt8
deriving DecidableEq

namespace Column

def minWidth (c : Column) : ℕ :=
  match c.width with
  | .fixed cells => cells.toNat
  | .flex min => min.toNat

def isFlex (c : Column) : Bool :=
  match c.width with
  | .fixed _ => false
  | .flex _ => true

def isEssential (c : Column) : Bool := c.priority == prioEssential

end Column

/-- A column and its index. -/
abbrev Indexed := Column × ℕ

/-- An index and a width in cells. -/
abbrev Layout := List (ℕ × UInt16)

/-- The sum of the minima, at 32 bits: it wraps around, as it does in a release build. -/
def sumWidths (columns : List Indexed) : ℕ := (columns.map (·.1.minWidth)).sum % 2 ^ 32

/-- The drop order: lowest priority first, then right-most first. -/
def cmpDrop (a b : Indexed) : Ordering :=
  (compare b.1.priority a.1.priority).then (compare b.2 a.2)

def droppable (columns : List Indexed) : List Indexed :=
  sortBy cmpDrop (columns.filter fun c => !c.1.isEssential)

/-- The columns that are dropped. -/
def resolveDropped (columns : List Indexed) (width : UInt16) : List Indexed :=
  dropUntil (fun dropped => sumWidths (columns.filter (· ∉ dropped)) ≤ width.toNat) []
    (droppable columns)

/-- The first flex column takes the slack; any further ones stay at their minimum. -/
def flexIdx (kept : List Indexed) : Option ℕ := (kept.find? (·.1.isFlex)).map (·.2)

def resolvedWidth (flexIdx : Option ℕ) (slack : ℕ) (c : Indexed) : ℕ :=
  match c.1.width with
  | .fixed cells => cells.toNat
  | .flex min => if some c.2 = flexIdx then min.toNat + slack else min.toNat

def resolve (columns : List Column) (width : UInt16) : Layout :=
  let dropped := resolveDropped columns.zipIdx width
  let kept := columns.zipIdx.filter (· ∉ dropped)
  let slack := width.toNat - sumWidths kept
  kept.map fun c => (c.2, .ofNat (min (resolvedWidth (flexIdx kept) slack c) 65535))

/-- The columns but the first `skip` of those that are not essential. -/
def keptColumns (columns : List Column) (skip : ℕ) : List Column :=
  skipFirst (!·.isEssential) skip columns

/-- Their indices. -/
def original (columns : List Column) (skip : ℕ) : List ℕ :=
  (skipFirst (fun c : Indexed => !c.1.isEssential) skip columns.zipIdx).map (·.2)

/-- The layout of what is left after scrolling; an index out of bounds would be a panic. -/
def resolveScrolled (columns : List Column) (width : UInt16) (skip : ℕ) : Option Layout :=
  if skip = 0 then some (resolve columns width)
  else
    (resolve (keptColumns columns skip) width).mapM fun shown =>
      ((original columns skip)[shown.1]?).map fun index => (index, shown.2)

/-! ## What a layout is to be -/

/-- The indices of the columns shown. -/
def shown (layout : Layout) : List ℕ := layout.map Prod.fst

def totalWidth (layout : Layout) : ℕ := (layout.map fun c => c.2.toNat).sum

/-- The cells that the columns need. -/
def minima (columns : List Indexed) : ℕ := (columns.map (·.1.minWidth)).sum

/-- A column is dropped after another: it is more important, or as important and further to the left. -/
def Outlasts (a b : Indexed) : Prop :=
  a.1.priority < b.1.priority ∨ a.1.priority = b.1.priority ∧ a.2 < b.2

/-- A layout fits some columns into a width. -/
structure Fits (columns : List Indexed) (width : UInt16) (layout : Layout) : Prop where
  increasing : (shown layout).Pairwise (· < ·)
  known : ∀ index ∈ shown layout, ∃ c ∈ columns, c.2 = index
  essential : ∀ c ∈ columns, c.1.isEssential = true → c.2 ∈ shown layout
  ordered : ∀ a ∈ columns, ∀ b ∈ columns, b.2 ∈ shown layout → b.1.isEssential = false →
    Outlasts a b → a.2 ∈ shown layout
  bounded : minima columns < 2 ^ 32 → minima (columns.filter (·.1.isEssential)) ≤ width.toNat →
    totalWidth layout ≤ width.toNat
  filled : minima columns < 2 ^ 32 → minima (columns.filter (·.1.isEssential)) ≤ width.toNat →
    (∃ c ∈ columns, c.2 ∈ shown layout ∧ c.1.isFlex = true) → totalWidth layout = width.toNat

/-- The first `skip` columns that are not essential. -/
def skipped (columns : List Column) (skip : ℕ) : List Indexed :=
  (columns.zipIdx.filter fun c => !c.1.isEssential).take skip

/-- The columns that are not skipped. -/
def remaining (columns : List Column) (skip : ℕ) : List Indexed :=
  columns.zipIdx.filter (· ∉ skipped columns skip)

/-- A layout is that of the columns that are not skipped, under their own indices. -/
structure FitsScrolled (columns : List Column) (width : UInt16) (skip : ℕ) (layout : Layout) : Prop
    extends Fits (remaining columns skip) width layout where
  everyEssential : ∀ c ∈ columns.zipIdx, c.1.isEssential = true → c.2 ∈ shown layout
  refitted : layout.map (fun c => (some c.1, c.2)) =
    (resolve ((remaining columns skip).map (·.1)) width).map fun c =>
      (((remaining columns skip).map (·.2))[c.1]?, c.2)

/-! ## The columns that are dropped -/

instance : Std.TransCmp cmpDrop := by
  have hpriority := transCmp_keyRev fun c : Indexed => c.1.priority
  have hindex := transCmp_keyRev fun c : Indexed => c.2
  exact inferInstanceAs (Std.TransCmp (compareLex (fun a b => compare b.1.priority a.1.priority)
    fun a b : Indexed => compare b.2 a.2))

/-- The order in which columns are dropped has the one that outlasts the other behind it. -/
theorem cmpDrop_of_outlasts {a b : Indexed} (h : Outlasts a b) : cmpDrop a b = .gt := by
  rw [cmpDrop]
  obtain hpriority | ⟨hpriority, hindex⟩ := h
  · rw [Std.compare_eq_gt.2 hpriority]
    rfl
  · rw [hpriority, Std.ReflOrd.compare_self, Nat.compare_eq_gt.2 hindex]
    rfl

/-- Essential columns are not up for dropping. -/
theorem mem_droppable_iff {columns : List Indexed} {c : Indexed} :
    c ∈ droppable columns ↔ c ∈ columns ∧ c.1.isEssential = false := by
  rw [droppable, (sortBy_perm _ _).mem_iff, List.mem_filter, Bool.not_eq_true']

/-- As many columns are dropped as it takes, in drop order, or all that may be. -/
theorem exists_resolveDropped_eq (columns : List Indexed) (width : UInt16) :
    ∃ k, resolveDropped columns width = (droppable columns).take k ∧
      (sumWidths (columns.filter (· ∉ resolveDropped columns width)) ≤ width.toNat ∨
        resolveDropped columns width = droppable columns) := by
  obtain ⟨k, hdropped, hend⟩ := exists_dropUntil_eq
    (fun dropped => decide (sumWidths (columns.filter (· ∉ dropped)) ≤ width.toNat)) []
    (droppable columns)
  rw [List.nil_append, ← resolveDropped] at hdropped
  rw [List.nil_append, ← hdropped, decide_eq_true_iff] at hend
  exact ⟨k, hdropped, hend⟩

/-- No essential column is dropped. -/
theorem not_essential_of_dropped {columns : List Indexed} {width : UInt16} {c : Indexed}
    (h : c ∈ resolveDropped columns width) : c.1.isEssential = false := by
  obtain ⟨k, hdropped, -⟩ := exists_resolveDropped_eq columns width
  rw [hdropped] at h
  exact (mem_droppable_iff.1 (List.mem_of_mem_take h)).2

/-- A column is not dropped before one that it outlasts. -/
theorem not_dropped_of_outlasts {columns : List Indexed} (hindexed : columns.Pairwise Earlier)
    {width : UInt16} {a b : Indexed} (hb : b ∈ columns) (hdroppable : b.1.isEssential = false)
    (hkept : b ∉ resolveDropped columns width) (h : Outlasts a b) :
    a ∉ resolveDropped columns width := by
  obtain ⟨k, hdropped, -⟩ := exists_resolveDropped_eq columns width
  rw [hdropped] at hkept ⊢
  intro ha
  have hsorted : (droppable columns).Pairwise (Before cmpDrop Earlier) :=
    pairwise_sortBy _ (hindexed.filter _)
  have hbefore := rel_of_dropped_of_kept hsorted ha (mem_droppable_iff.2 ⟨hb, hdroppable⟩) hkept
  have hle := isLE_of_before hbefore
  rw [cmpDrop_of_outlasts h] at hle
  cases hle

/-- What is kept fits, or it is the essential columns alone. -/
theorem sumWidths_kept (columns : List Indexed) (width : UInt16) :
    sumWidths (columns.filter (· ∉ resolveDropped columns width)) ≤ width.toNat ∨
      columns.filter (· ∉ resolveDropped columns width) = columns.filter (·.1.isEssential) := by
  obtain ⟨k, -, hfits | hall⟩ := exists_resolveDropped_eq columns width
  · exact .inl hfits
  · refine .inr (List.filter_congr fun c hc => ?_)
    simp [hall, mem_droppable_iff, hc]

/-! ## The widths -/

/-- Column by column, the minima add up. -/
theorem minima_cons (c : Indexed) (columns : List Indexed) :
    minima (c :: columns) = c.1.minWidth + minima columns := by
  rw [minima, List.map_cons, List.sum_cons]
  rfl

/-- Fewer columns need no more cells. -/
theorem minima_filter_le (p : Indexed → Bool) (columns : List Indexed) :
    minima (columns.filter p) ≤ minima columns :=
  (List.filter_sublist.map _).sum_le_sum fun _ _ => Nat.zero_le _

/-- A sum that fits 32 bits is the sum. -/
theorem sumWidths_eq {columns : List Indexed} (h : minima columns < 2 ^ 32) :
    sumWidths columns = minima columns :=
  Nat.mod_eq_of_lt h

/-- Any column but the flex column that takes the slack gets its minimum. -/
theorem resolvedWidth_of_ne {flexIdx : Option ℕ} {slack : ℕ} {c : Indexed} (h : flexIdx ≠ some c.2) :
    resolvedWidth flexIdx slack c = c.1.minWidth := by
  rw [resolvedWidth, Column.minWidth]
  split
  · rfl
  · rw [if_neg h.symm]

/-- The slack is handed out once, if there is a flex column. -/
theorem sum_resolvedWidth (slack : ℕ) {kept : List Indexed} (hindexed : kept.Pairwise Earlier) :
    (kept.map (resolvedWidth (flexIdx kept) slack)).sum =
      minima kept + if kept.any (·.1.isFlex) then slack else 0 := by
  induction kept with
  | nil => rfl
  | cons c rest ih =>
    obtain ⟨hfirst, hrest⟩ := List.pairwise_cons.1 hindexed
    rw [List.map_cons, List.sum_cons, minima_cons, List.any_cons, flexIdx, List.find?_cons]
    cases hflex : c.1.isFlex
    case true =>
      -- the indices differ, so no later column is taken for the first flex one
      have hothers : rest.map (resolvedWidth (some c.2) slack) = rest.map (·.1.minWidth) :=
        List.map_congr_left fun d hd => resolvedWidth_of_ne fun heq =>
          Nat.ne_of_lt (hfirst d hd) (Option.some.inj heq)
      have hhead : resolvedWidth (some c.2) slack c = c.1.minWidth + slack := by
        rw [Column.isFlex] at hflex
        rw [resolvedWidth, Column.minWidth]
        split at hflex
        · cases hflex
        · exact if_pos rfl
      rw [Option.map_some, hothers, hhead, Bool.true_or, if_pos rfl, minima]
      omega
    case false =>
      have hhead : resolvedWidth (flexIdx rest) slack c = c.1.minWidth := by
        rw [Column.isFlex] at hflex
        rw [resolvedWidth, Column.minWidth]
        split at hflex
        · rfl
        · cases hflex
      rw [← flexIdx, hhead, ih hrest, Bool.false_or, Nat.add_assoc]

/-- What is shown are the columns that are not dropped. -/
theorem shown_resolve (columns : List Column) (width : UInt16) :
    shown (resolve columns width) =
      (columns.zipIdx.filter (· ∉ resolveDropped columns.zipIdx width)).map Prod.snd := by
  rw [shown, resolve, List.map_map]
  rfl

/-- Where the essential columns fit and the sums do not wrap around, what is kept fits. -/
theorem minima_kept_le {columns : List Indexed} {width : UInt16} (hsum : minima columns < 2 ^ 32)
    (hessential : minima (columns.filter (·.1.isEssential)) ≤ width.toNat) :
    minima (columns.filter (· ∉ resolveDropped columns width)) ≤ width.toNat := by
  obtain hfits | hall := sumWidths_kept columns width
  · rwa [sumWidths_eq (Nat.lt_of_le_of_lt (minima_filter_le _ _) hsum)] at hfits
  · rwa [hall]

/-- A layout fills the width if it has a flex column, and needs the minima otherwise. -/
theorem totalWidth_resolve {columns : List Column} {width : UInt16}
    (hsum : minima columns.zipIdx < 2 ^ 32)
    (hessential : minima (columns.zipIdx.filter (·.1.isEssential)) ≤ width.toNat) :
    totalWidth (resolve columns width) =
      if (columns.zipIdx.filter (· ∉ resolveDropped columns.zipIdx width)).any (·.1.isFlex) then
        width.toNat
      else minima (columns.zipIdx.filter (· ∉ resolveDropped columns.zipIdx width)) := by
  have hkept := minima_kept_le hsum hessential
  have hsumKept : sumWidths (columns.zipIdx.filter (· ∉ resolveDropped columns.zipIdx width)) =
      minima (columns.zipIdx.filter (· ∉ resolveDropped columns.zipIdx width)) :=
    sumWidths_eq (Nat.lt_of_le_of_lt hkept (Nat.lt_trans width.toNat_lt (by decide)))
  have hindexed := (pairwise_zipIdx columns).filter
    fun c => decide (c ∉ resolveDropped columns.zipIdx width)
  rw [totalWidth, resolve, List.map_map, hsumKept]
  generalize columns.zipIdx.filter (· ∉ resolveDropped columns.zipIdx width) = kept at *
  have htotal := sum_resolvedWidth (width.toNat - minima kept) hindexed
  -- a single width is at most the total, so none is cut off at 16 bits
  have hmost : ∀ c ∈ kept, resolvedWidth (flexIdx kept) (width.toNat - minima kept) c ≤ 65535 := by
    intro c hc
    have hle := List.le_sum_of_mem (List.mem_map_of_mem
      (f := resolvedWidth (flexIdx kept) (width.toNat - minima kept)) hc)
    have hwidth := width.toNat_lt
    split at htotal <;> omega
  have hcells : kept.map ((fun c => c.2.toNat) ∘ fun c => (c.2, UInt16.ofNat
      (min (resolvedWidth (flexIdx kept) (width.toNat - minima kept) c) 65535))) =
      kept.map (resolvedWidth (flexIdx kept) (width.toNat - minima kept)) := by
    refine List.map_congr_left fun c hc => ?_
    rw [Function.comp_apply, min_eq_left (hmost c hc)]
    exact UInt16.toNat_ofNat_of_lt' (Nat.lt_succ_of_le (hmost c hc))
  rw [hcells, htotal]
  split
  · omega
  · rfl

/-- A column is shown unless it is dropped. -/
theorem mem_shown_resolve {columns : List Column} {width : UInt16} {c : Indexed}
    (hc : c ∈ columns.zipIdx) :
    c.2 ∈ shown (resolve columns width) ↔ c ∉ resolveDropped columns.zipIdx width := by
  rw [shown_resolve, List.mem_map]
  constructor
  · rintro ⟨d, hd, hindex⟩
    obtain ⟨hmem, hkept⟩ := List.mem_filter.1 hd
    have hsame : d.1 = c.1 := by
      have hd := List.mem_zipIdx_iff_getElem?.1 hmem
      rw [hindex, List.mem_zipIdx_iff_getElem?.1 hc] at hd
      exact (Option.some.inj hd).symm
    rw [← Prod.ext hsame hindex]
    exact of_decide_eq_true hkept
  · intro hkept
    exact ⟨c, List.mem_filter.2 ⟨hc, decide_eq_true hkept⟩, rfl⟩

/-- Without scrolling, the layout fits the columns into the width. -/
theorem resolve_fits (columns : List Column) (width : UInt16) :
    Fits columns.zipIdx width (resolve columns width) where
  increasing := by
    rw [shown_resolve, List.pairwise_map]
    exact (pairwise_zipIdx columns).filter _
  known := by
    intro index hindex
    rw [shown_resolve] at hindex
    obtain ⟨c, hc, rfl⟩ := List.mem_map.1 hindex
    exact ⟨c, List.mem_of_mem_filter hc, rfl⟩
  essential := by
    intro c hc hessential
    rw [mem_shown_resolve hc]
    intro hdropped
    rw [not_essential_of_dropped hdropped] at hessential
    cases hessential
  ordered := by
    intro a ha b hb hshown hdroppable houtlasts
    rw [mem_shown_resolve hb] at hshown
    rw [mem_shown_resolve ha]
    exact not_dropped_of_outlasts (pairwise_zipIdx columns) hb hdroppable hshown houtlasts
  bounded := by
    intro hsum hessential
    rw [totalWidth_resolve hsum hessential]
    split
    · exact Nat.le_refl _
    · exact minima_kept_le hsum hessential
  -- A flexible column that is shown takes up what the minima leave.
  filled := by
    rintro hsum hessential ⟨c, hc, hshown, hflex⟩
    rw [totalWidth_resolve hsum hessential, if_pos]
    rw [mem_shown_resolve hc] at hshown
    exact List.any_eq_true.2 ⟨c, List.mem_filter.2 ⟨hc, decide_eq_true hshown⟩, hflex⟩

/-! ## Other indices -/

/-- The columns under other indices. -/
def relabel (label : ℕ → ℕ) (columns : List Indexed) : List Indexed :=
  columns.map fun c => (c.1, label c.2)

/-- The cells needed do not depend on the indices. -/
theorem minima_relabel (label : ℕ → ℕ) (columns : List Indexed) :
    minima (relabel label columns) = minima columns := by
  rw [minima, relabel, List.map_map]
  rfl

/-- Nor does which columns are of some kind. -/
theorem filter_relabel (label : ℕ → ℕ) (p : Column → Bool) (columns : List Indexed) :
    (relabel label columns).filter (fun c => p c.1) =
      relabel label (columns.filter fun c => p c.1) :=
  List.filter_map

section Relabel

variable {columns : List Indexed} {width : UInt16} {layout : Layout} {label : ℕ → ℕ}

/-- The indices shown are the new ones. -/
theorem shown_relabel : shown (layout.map fun c => (label c.1, c.2)) = (shown layout).map label := by
  rw [shown, shown, List.map_map, List.map_map]
  rfl

/-- The width of a layout does not depend on the indices. -/
theorem totalWidth_relabel : totalWidth (layout.map fun c => (label c.1, c.2)) = totalWidth layout := by
  rw [totalWidth, totalWidth, List.map_map]
  rfl

variable (hmono : StrictMonoOn label {index | ∃ c ∈ columns, c.2 = index})

include hmono

/-- A column is shown under its new index if it was under the old one. -/
theorem mem_shown_relabel (hknown : ∀ index ∈ shown layout, ∃ c ∈ columns, c.2 = index) {c : Indexed}
    (hc : c ∈ columns) : label c.2 ∈ (shown layout).map label ↔ c.2 ∈ shown layout := by
  refine ⟨fun hlabel => ?_, List.mem_map_of_mem⟩
  obtain ⟨index, hindex, heq⟩ := List.mem_map.1 hlabel
  have hsame := (hmono.eq_iff_eq (hknown index hindex) ⟨c, hc, rfl⟩).1 heq
  rwa [← hsame]

/-- Indices in the same order put the columns into the same drop order. -/
theorem Outlasts.of_relabel {a b : Indexed} (ha : a ∈ columns) (hb : b ∈ columns)
    (h : Outlasts (a.1, label a.2) (b.1, label b.2)) : Outlasts a b :=
  h.imp_right fun hleft => ⟨hleft.1, (hmono.lt_iff_lt ⟨a, ha, rfl⟩ ⟨b, hb, rfl⟩).1 hleft.2⟩

/-- Indices in the same order make no difference to a layout. -/
theorem fits_relabel (h : Fits columns width layout) :
    Fits (relabel label columns) width (layout.map fun c => (label c.1, c.2)) where
  increasing := by
    rw [shown_relabel, List.pairwise_map]
    exact h.increasing.imp_of_mem fun ha hb hlt => hmono (h.known _ ha) (h.known _ hb) hlt
  known := by
    rw [shown_relabel]
    intro index hindex
    obtain ⟨inner, hinner, rfl⟩ := List.mem_map.1 hindex
    obtain ⟨c, hc, rfl⟩ := h.known inner hinner
    exact ⟨_, List.mem_map_of_mem hc, rfl⟩
  essential := by
    rw [shown_relabel, relabel, List.forall_mem_map]
    exact fun c hc hessential => (mem_shown_relabel hmono h.known hc).2 (h.essential c hc hessential)
  ordered := by
    rw [shown_relabel, relabel, List.forall_mem_map]
    intro a ha
    rw [List.forall_mem_map]
    intro b hb hshown hdroppable houtlasts
    rw [mem_shown_relabel hmono h.known hb] at hshown
    rw [mem_shown_relabel hmono h.known ha]
    exact h.ordered a ha b hb hshown hdroppable (houtlasts.of_relabel hmono ha hb)
  bounded := by
    rw [minima_relabel, filter_relabel, minima_relabel, totalWidth_relabel]
    exact h.bounded
  filled := by
    rw [minima_relabel, filter_relabel, minima_relabel, totalWidth_relabel, shown_relabel]
    rintro hsum hessential ⟨_, hc, hshown, hflex⟩
    obtain ⟨c, hmem, rfl⟩ := List.mem_map.1 hc
    exact h.filled hsum hessential ⟨c, hmem, (mem_shown_relabel hmono h.known hmem).1 hshown, hflex⟩

end Relabel

/-! ## Scrolling -/

/-- The index of the column at each position. -/
def labelAt (columns : List Indexed) (position : ℕ) : ℕ := ((columns.map Prod.snd)[position]?).getD 0

/-- The columns that are left have their indices in order. -/
theorem labelAt_lt {columns : List Indexed} (h : columns.Pairwise Earlier) {p q : ℕ} (hlt : p < q)
    (hq : q < columns.length) : labelAt columns p < labelAt columns q := by
  have hp := Nat.lt_trans hlt hq
  have hearlier := List.pairwise_iff_getElem.1 h p q hp hq hlt
  simpa [labelAt, hp, hq, Earlier] using hearlier

/-- So the indices of the columns grow with their positions. -/
theorem strictMonoOn_labelAt {columns : List Indexed} (h : columns.Pairwise Earlier) :
    StrictMonoOn (labelAt columns) {index | ∃ c ∈ (columns.map Prod.fst).zipIdx, c.2 = index} := by
  rintro _ - _ ⟨b, hb, rfl⟩ hlt
  have hbound := (List.mem_zipIdx' hb).1
  rw [List.length_map] at hbound
  exact labelAt_lt h hlt hbound

/-- With nothing skipped a column's index is its position. -/
theorem labelAt_zipIdx {columns : List Column} {p : ℕ} (hp : p < columns.length) :
    labelAt columns.zipIdx p = p := by
  simp [labelAt, hp]

/-- Columns that are numbered afresh get their indices back. -/
theorem relabel_labelAt (columns : List Indexed) :
    relabel (labelAt columns) (columns.map Prod.fst).zipIdx = columns := by
  refine List.ext_getElem? fun position => ?_
  rw [relabel, List.getElem?_map, List.getElem?_zipIdx, List.getElem?_map]
  cases hc : columns[position]? with
  | none => rfl
  | some c => simp [labelAt, hc]

/-- Skipping the first columns leaves those that remain. -/
theorem remaining_eq (columns : List Column) (skip : ℕ) :
    skipFirst (fun c : Indexed => !c.1.isEssential) skip columns.zipIdx = remaining columns skip :=
  skipFirst_eq (fun c : Indexed => !c.1.isEssential) skip ((pairwise_zipIdx columns).imp fun hlt heq =>
    Nat.ne_of_lt hlt (congrArg Prod.snd heq))

/-- The indices that the source keeps are those of the columns that remain. -/
theorem original_eq (columns : List Column) (skip : ℕ) :
    original columns skip = (remaining columns skip).map Prod.snd := by
  rw [original, remaining_eq]

/-- The columns that the source keeps are those that remain. -/
theorem keptColumns_eq (columns : List Column) (skip : ℕ) :
    keptColumns columns skip = (remaining columns skip).map Prod.fst := by
  have hmap := skipFirst_map Prod.fst (fun c : Column => !c.isEssential) skip columns.zipIdx
  rw [List.zipIdx_map_fst] at hmap
  rw [keptColumns, hmap, remaining_eq]

/-- Nothing is skipped by a scroll of none. -/
theorem remaining_zero (columns : List Column) : remaining columns 0 = columns.zipIdx := by
  rw [remaining, List.filter_eq_self]
  intro c _
  simp [skipped]

/-- A column shown has its place among the columns that were laid out. -/
theorem lt_length_of_shown {columns : List Column} {width : UInt16} {c : ℕ × UInt16}
    (hc : c ∈ resolve columns width) : c.1 < columns.length := by
  obtain ⟨d, hd, hindex⟩ := (resolve_fits columns width).known c.1 (List.mem_map_of_mem hc)
  rw [← hindex]
  exact (List.mem_zipIdx' hd).1

/-- What the layout of the columns that remain shows, it shows at a position that has an index. -/
theorem getElem?_snd_of_shown {columns : List Indexed} {width : UInt16} {c : ℕ × UInt16}
    (hc : c ∈ resolve (columns.map Prod.fst) width) :
    (columns.map Prod.snd)[c.1]? = some (labelAt columns c.1) := by
  have hbound := lt_length_of_shown hc
  rw [List.length_map] at hbound
  rw [labelAt, List.getElem?_eq_getElem (by rwa [List.length_map]), Option.getD_some]

/-- A function that is defined on all of a list can be mapped over it. -/
theorem mapM_eq_some_map {α β : Type} {f : α → Option β} {g : α → β} {l : List α}
    (h : ∀ a ∈ l, f a = some (g a)) : l.mapM f = some (l.map g) := by
  induction l with
  | nil => rfl
  | cons a l ih =>
    obtain ⟨ha, hl⟩ := List.forall_mem_cons.1 h
    rw [List.mapM_cons, ha, ih hl]
    rfl

/-- Each column shown after scrolling is one of those left, under its own index. -/
theorem resolveScrolled_eq (columns : List Column) (width : UInt16) (skip : ℕ) :
    resolveScrolled columns width skip =
      some ((resolve ((remaining columns skip).map Prod.fst) width).map fun c =>
        (labelAt (remaining columns skip) c.1, c.2)) := by
  rw [resolveScrolled, keptColumns_eq, original_eq]
  split
  case isTrue hzero =>
    rw [hzero, remaining_zero, List.zipIdx_map_fst, Option.some_inj, List.map_congr_left (g := id),
      List.map_id]
    intro c hc
    rw [labelAt_zipIdx (lt_length_of_shown hc)]
    rfl
  case isFalse =>
    refine mapM_eq_some_map fun c hc => ?_
    rw [getElem?_snd_of_shown hc, Option.map_some]

/-! ## Sums that wrap around -/

/-- No column gets less than its minimum. -/
theorem minWidth_le_resolvedWidth (flexIdx : Option ℕ) (slack : ℕ) (c : Indexed) :
    c.1.minWidth ≤ resolvedWidth flexIdx slack c := by
  rw [resolvedWidth, Column.minWidth]
  split
  · exact Nat.le_refl _
  · split
    · exact Nat.le_add_right _ _
    · exact Nat.le_refl _

/-- A minimum fits 16 bits. -/
theorem minWidth_lt (c : Column) : c.minWidth < 2 ^ 16 := by
  rw [Column.minWidth]
  split
  · exact UInt16.toNat_lt _
  · exact UInt16.toNat_lt _

/-- No column that is shown gets less than its minimum. -/
theorem minima_le_totalWidth (columns : List Column) (width : UInt16) :
    minima (columns.zipIdx.filter (· ∉ resolveDropped columns.zipIdx width)) ≤
      totalWidth (resolve columns width) := by
  rw [minima, totalWidth, resolve, List.map_map]
  refine List.sum_le_sum fun c _ => ?_
  have hmin := minWidth_lt c.1
  rw [Function.comp_apply, UInt16.toNat_ofNat_of_lt' (by rw [UInt16.size]; omega)]
  exact le_min (minWidth_le_resolvedWidth _ _ c) (Nat.le_of_lt_succ hmin)

/-- Columns that fit are all kept. -/
theorem resolveDropped_of_fits {columns : List Indexed} {width : UInt16}
    (h : sumWidths columns ≤ width.toNat) : resolveDropped columns width = [] := by
  refine dropUntil_of_fits (decide_eq_true ?_) _
  rwa [List.filter_eq_self.2 fun c _ => decide_eq_true List.not_mem_nil]

/-- The minima of a table, with the columns at their positions. -/
theorem minima_zipIdx (columns : List Column) :
    minima columns.zipIdx = (columns.map Column.minWidth).sum := by
  have hmap := congrArg (List.map Column.minWidth) (List.zipIdx_map_fst 0 columns)
  rw [List.map_map] at hmap
  exact congrArg List.sum hmap

/-- All columns are kept where their sum, which may have wrapped around, fits. -/
theorem minima_le_totalWidth_of_sumWidths {columns : List Column} {width : UInt16}
    (h : sumWidths columns.zipIdx ≤ width.toNat) :
    minima columns.zipIdx ≤ totalWidth (resolve columns width) := by
  have hkept := minima_le_totalWidth columns width
  rwa [resolveDropped_of_fits h, List.filter_eq_self.2 fun c _ => decide_eq_true List.not_mem_nil] at hkept

/-- What is resolved of the columns that are not skipped fits them into the width. -/
theorem fits_remaining (columns : List Column) (width : UInt16) (skip : ℕ) :
    Fits (remaining columns skip) width
      ((resolve ((remaining columns skip).map Prod.fst) width).map fun c =>
        (labelAt (remaining columns skip) c.1, c.2)) := by
  have hremaining : (remaining columns skip).Pairwise Earlier := (pairwise_zipIdx columns).filter _
  have hfits := fits_relabel (strictMonoOn_labelAt hremaining)
    (resolve_fits ((remaining columns skip).map Prod.fst) width)
  rwa [relabel_labelAt] at hfits

/-- However far it is scrolled, a table has a layout, and it fits. -/
theorem exists_fits (columns : List Column) (width : UInt16) (skip : ℕ) :
    ∃ layout, resolveScrolled columns width skip = some layout ∧
      Fits (remaining columns skip) width layout :=
  ⟨_, resolveScrolled_eq columns width skip, fits_remaining columns width skip⟩

/-! ## The width of a table -/

/-- A layout fits the columns that are not skipped into the width, as long as their minima do not exceed
32 bits; its indices, and what it drops, are right in any case. -/
theorem resolveScrolled_fits (columns : List Column) (width : UInt16) (skip : ℕ) :
    ∃ layout, resolveScrolled columns width skip = some layout ∧
      FitsScrolled columns width skip layout := by
  have hfits := fits_remaining columns width skip
  refine ⟨_, resolveScrolled_eq columns width skip, hfits, ?_, ?_⟩
  · intro c hc hessential
    refine hfits.essential c (List.mem_filter.2 ⟨hc, decide_eq_true fun hskipped => ?_⟩) hessential
    have hdroppable := (List.mem_filter.1 (List.mem_of_mem_take hskipped)).2
    rw [hessential] at hdroppable
    cases hdroppable
  · rw [List.map_map]
    refine List.map_congr_left fun c hc => ?_
    rw [getElem?_snd_of_shown hc]
    rfl

/-- The minima of 65538 columns of 65535 cells wrap around to 65534, so that all of them are kept. -/
theorem not_resolveScrolled_fits_wrapping :
    ∃ layout, resolveScrolled (List.replicate 65538 ⟨.fixed 65535, 1⟩) 65535 0 = some layout ∧
      minima ((List.replicate 65538 ⟨.fixed 65535, 1⟩ : List Column).zipIdx.filter
        (·.1.isEssential)) ≤ (65535 : UInt16).toNat ∧
      (65535 : UInt16).toNat < totalWidth layout := by
  have hminima : minima (List.replicate 65538 ⟨.fixed 65535, 1⟩ : List Column).zipIdx = 65538 * 65535 := by
    rw [minima_zipIdx, List.map_replicate, List.sum_replicate]
    rfl
  have hnone : (List.replicate 65538 ⟨.fixed 65535, 1⟩ : List Column).zipIdx.filter
      (·.1.isEssential) = [] := by
    refine List.filter_eq_nil_iff.2 fun c hc => ?_
    rw [List.eq_of_mem_replicate (List.mem_of_getElem? (List.mem_zipIdx_iff_getElem?.1 hc))]
    decide
  refine ⟨_, if_pos rfl, ?_, ?_⟩
  · rw [hnone]
    exact Nat.zero_le _
  · refine Nat.lt_of_lt_of_le ?_ (minima_le_totalWidth_of_sumWidths ?_)
    · rw [hminima]
      decide
    · rw [sumWidths, ← minima, hminima]
      decide

end Muxtop.Tui.Columns
