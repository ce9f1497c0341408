import Muxtop.Tui.Columns
import Muxtop.Tui.Draw

/-!
# The lines of a table

`table::draw`, `columns::cell`, `columns::header_line` and `Glyphs::truncate` of `muxtop-tui/src/ui`, up to
the lines that are handed to the terminal library. A line is made of spans, one for the selection marker and
one for each column shown; one character takes one cell.
-/

namespace Muxtop.Tui.TableGrid

open Columns (Layout resolveScrolled totalWidth)

/-! ## The code -/

inductive Align
  | left | right
deriving DecidableEq

structure Column extends Columns.Column where
  label : String
  align : Align

/-- The glyphs that a table draws, each of one character. -/
structure Glyphs where
  ellipsis : Char
  sortDesc : Char
  sortAsc : Char
  selEdge : Char

def Glyphs.unicode : Glyphs := ⟨'…', '▼', '▲', '▎'⟩
def Glyphs.ascii : Glyphs := ⟨'~', 'v', '^', '>'⟩

/-- The styles and colours that a table uses, of a terminal library. -/
structure Theme (Style Color : Type) where
  tableHeader : Style
  selectedRow : Style
  row : Bool → Style
  selectionEdge : Color
  accentPrimary : Color
  fg : Style → Color → Style
  /-- bold and underlined -/
  emphasis : Style → Style

structure Span (Style : Type) where
  text : List Char
  style : Style

abbrev Line (Style : Type) := List (Span Style)

def Line.text {Style : Type} (line : Line Style) : List Char := line.flatMap (·.text)

structure Cell (Color : Type) where
  text : String
  color : Option Color

abbrev Row (Color : Type) := List (Cell Color)

structure EmptyState where
  title : String
  reason : Option String
  remedy : Option String
  level : Level

structure Spec where
  columns : List Column
  /-- index of the active sort column -/
  sortCol : Option ℕ
  descending : Bool
  total : ℕ
  selected : ℕ
  scroll : ℕ
  colScroll : ℕ
  empty : EmptyState

/-- What is under the header. -/
inductive Body (Style : Type)
  | nothing
  | empty (state : EmptyState)
  | rows (lines : List (Line Style))

/-- What is drawn, whether a scrollbar is, and the scroll offset that was used. -/
structure Drawn (Style : Type) where
  header : Option (Line Style)
  body : Body Style
  scrollbar : Bool
  scroll : ℕ

def truncate (g : Glyphs) (s : List Char) (width : ℕ) : List Char :=
  if width = 0 then []
  else if s.length ≤ width then s
  else if width = 1 then [g.ellipsis]
  else s.take (width - 1) ++ [g.ellipsis]

/-- What a cell has for its text: a right-aligned one keeps a blank behind it. -/
def room (align : Align) (width : ℕ) : ℕ :=
  match align with
  | .left => width
  | .right => max (width - 1) 1

def cell (g : Glyphs) (text : List Char) (width : UInt16) (align : Align) : List Char :=
  let width := width.toNat
  if width = 0 then []
  else
    let inner := room align width
    let t := truncate g text inner
    match align with
    | .left => t ++ List.replicate (width - t.length) ' '
    | .right =>
      List.replicate (inner - t.length) ' ' ++ t ++ (if inner < width then [' '] else [])

section

variable {Style Color : Type} (theme : Theme Style Color) (g : Glyphs)

/-- The label of a column's header, with the arrow if the table is sorted by it. -/
def headerLabel (spec : Spec) (idx : ℕ) (column : Column) : List Char :=
  if spec.sortCol = some idx then
    column.label.toList ++ [if spec.descending then g.sortDesc else g.sortAsc]
  else column.label.toList

def headerStyle (spec : Spec) (idx : ℕ) : Style :=
  if spec.sortCol = some idx then theme.emphasis (theme.fg theme.tableHeader theme.accentPrimary)
  else theme.tableHeader

/-- An index out of bounds would be a panic. -/
def headerLine (spec : Spec) (layout : Layout) : Option (Line Style) :=
  layout.mapM fun c => (spec.columns[c.1]?).map fun column =>
    ⟨cell g (headerLabel g spec c.1 column) c.2 column.align, headerStyle theme spec c.1⟩

def cellText (row : Row Color) (idx : ℕ) : List Char := ((row[idx]?).map (·.text.toList)).getD []

/-- The style of a row: that of the selection, or one of two that take turns. -/
def rowStyle (spec : Spec) (idx : ℕ) : Style :=
  if idx = spec.selected then theme.selectedRow else theme.row (idx % 2 == 1)

def edgeSpan (spec : Spec) (idx : ℕ) : Span Style :=
  if idx = spec.selected then ⟨[g.selEdge], theme.fg theme.selectedRow theme.selectionEdge⟩
  else ⟨[' '], rowStyle theme spec idx⟩

/-- The colour of a cell survives the selection. -/
def cellStyle (base : Style) (c : Option (Cell Color)) : Style :=
  match c.bind (·.color) with
  | some color => theme.fg base color
  | none => base

def rowLine (spec : Spec) (layout : Layout) (rowAt : ℕ → Row Color) (idx : ℕ) : Option (Line Style) := do
  let row := rowAt idx
  let spans ← layout.mapM fun c => (spec.columns[c.1]?).map fun column =>
    (⟨cell g (cellText row c.1) c.2 column.align, cellStyle theme (rowStyle theme spec idx) row[c.1]?⟩ :
      Span Style)
  return edgeSpan theme g spec idx :: spans

/-- The cells of the table itself: the scrollbar takes one where there is something to scroll, and the
selection marker another. -/
def needsScrollbar (spec : Spec) (width height : UInt16) : Bool :=
  4 < width.toNat && height.toNat - 1 < spec.total

def contentWidth (spec : Spec) (width height : UInt16) : UInt16 :=
  .ofNat ((if needsScrollbar spec width height then width.toNat - 1 else width.toNat) - 1)

/-- `draw`, into an area of some cells; `none` is a panic. -/
def draw (spec : Spec) (rowAt : ℕ → Row Color) (width height : UInt16) : Option (Drawn Style) :=
  if height = 0 || width = 0 then some ⟨none, .nothing, false, spec.scroll⟩
  else do
    let layout ← resolveScrolled (spec.columns.map (·.toColumn)) (contentWidth spec width height) spec.colScroll
    let header ← headerLine theme g spec layout
    let header := ⟨[' '], theme.tableHeader⟩ :: header
    let bodyHeight := height.toNat - 1
    if bodyHeight = 0 then return ⟨some header, .nothing, false, spec.scroll⟩
    else if spec.total = 0 then return ⟨some header, .empty spec.empty, false, 0⟩
    else
      let lines ← (drawnRange spec.total spec.selected spec.scroll bodyHeight).mapM
        (rowLine theme g spec layout rowAt)
      return ⟨some header, .rows lines, needsScrollbar spec width height,
        viewportOffset spec.selected spec.scroll bodyHeight⟩

end

/-! ## What a cell shows -/

variable {g : Glyphs}

/-- A text is cut to the width, and not filled up. -/
theorem length_truncate (s : List Char) (width : ℕ) : (truncate g s width).length = min s.length width := by
  unfold truncate
  split_ifs with hzero hfits hone
  · rw [hzero, List.length_nil, Nat.min_zero]
  · exact (Nat.min_eq_left hfits).symm
  · rw [List.length_singleton]
    omega
  · rw [List.length_append, List.length_take, List.length_singleton]
    omega

/-- What a text is shown as in some room: itself, or, where it is too long, its beginning and the ellipsis. -/
def Legible (g : Glyphs) (text : List Char) (room : ℕ) (t : List Char) : Prop :=
  t = text ∧ text.length ≤ room ∨ room < text.length ∧ t = text.take (room - 1) ++ [g.ellipsis]

/-- What is cut off is told by the ellipsis. -/
theorem legible_truncate (s : List Char) {width : ℕ} (hwidth : width ≠ 0) :
    Legible g s width (truncate g s width) := by
  unfold truncate
  rw [if_neg hwidth]
  split_ifs with hfits hone
  · exact .inl ⟨rfl, hfits⟩
  · refine .inr ⟨by omega, ?_⟩
    rw [hone]
    rfl
  · exact .inr ⟨by omega, rfl⟩

/-- A cell shows a text: in exactly its width, aligned, and what is cut off is told by the ellipsis. -/
structure Fills (g : Glyphs) (text : List Char) (width : UInt16) (align : Align) (shown : List Char) :
    Prop where
  length : shown.length = width.toNat
  text : width ≠ 0 → ∃ before t after, shown = List.replicate before ' ' ++ t ++ List.replicate after ' ' ∧
    Legible g text (room align width.toNat) t ∧ (align = .left → before = 0) ∧
    (align = .right → after = width.toNat - room .right width.toNat)

/-- A width that is not 0 has cells. -/
theorem toNat_ne_zero {width : UInt16} (h : width ≠ 0) : width.toNat ≠ 0 := by
  intro hzero
  apply h
  rw [← UInt16.toNat_inj, hzero]
  rfl

/-- A left-aligned cell has its blanks behind the text. -/
theorem cell_left (text : List Char) {width : UInt16} (h : width ≠ 0) :
    cell g text width .left = truncate g text width.toNat ++
      List.replicate (width.toNat - (truncate g text width.toNat).length) ' ' :=
  if_neg (toNat_ne_zero h)

/-- A right-aligned one has them in front, and one behind where there is room. -/
theorem cell_right (text : List Char) {width : UInt16} (h : width ≠ 0) :
    cell g text width .right =
      List.replicate (room .right width.toNat - (truncate g text (room .right width.toNat)).length) ' ' ++
        truncate g text (room .right width.toNat) ++
        List.replicate (width.toNat - room .right width.toNat) ' ' := by
  have hblanks : (if room .right width.toNat < width.toNat then [' '] else []) =
      List.replicate (width.toNat - room .right width.toNat) ' ' := by
    -- one blank, or none in a cell of width one
    have hroom : room .right width.toNat = max (width.toNat - 1) 1 := rfl
    split_ifs with hblank
    · have hone : width.toNat - room .right width.toNat = 1 := by omega
      rw [hone]
      rfl
    · have hnone : width.toNat - room .right width.toNat = 0 := by omega
      rw [hnone]
      rfl
  rw [← hblanks]
  exact if_neg (toNat_ne_zero h)

/-- A cell that is there has room for a character. -/
theorem room_ne_zero (align : Align) {width : ℕ} (h : width ≠ 0) : room align width ≠ 0 := by
  rcases align with _ | _
  · exact h
  · show max (width - 1) 1 ≠ 0
    omega

/-- The text of a cell does not stick out. -/
theorem room_le (align : Align) {width : ℕ} (h : width ≠ 0) : room align width ≤ width := by
  rcases align with _ | _
  · exact Nat.le_refl _
  · show max (width - 1) 1 ≤ width
    omega

/-- A cell shows its text as it should, whatever the text. -/
theorem fills_cell (text : List Char) (width : UInt16) (align : Align) :
    Fills g text width align (cell g text width align) := by
  by_cases hwidth : width = 0
  · subst hwidth
    exact ⟨rfl, fun h => absurd rfl h⟩
  have hnonzero := toNat_ne_zero hwidth
  rcases align with _ | _
  · refine ⟨?_, fun _ => ⟨0, _, _, cell_left text hwidth, legible_truncate text hnonzero, fun _ => rfl,
      fun h => ?_⟩⟩
    · rw [cell_left text hwidth, List.length_append, List.length_replicate, length_truncate]
      omega
    · cases h
  · refine ⟨?_, fun _ => ⟨_, _, _, cell_right text hwidth,
      legible_truncate text (room_ne_zero .right hnonzero), fun h => ?_, fun _ => rfl⟩⟩
    · have hroom := room_le .right hnonzero
      rw [cell_right text hwidth, List.length_append, List.length_append, List.length_replicate,
        List.length_replicate, length_truncate]
      omega
    · cases h

/-- Nothing is drawn in a cell but its text, blanks and the ellipsis. -/
theorem mem_cell {p : Char → Prop} (hblank : p ' ') (hellipsis : p g.ellipsis) {text : List Char}
    (htext : ∀ c ∈ text, p c) (width : UInt16) (align : Align) : ∀ c ∈ cell g text width align, p c := by
  by_cases hwidth : width = 0
  · subst hwidth
    intro c hc
    cases hc
  obtain ⟨before, t, after, hshown, hlegible, -, -⟩ := (fills_cell (g := g) text width align).text hwidth
  have ht : ∀ c ∈ t, p c := by
    rcases hlegible with ⟨rfl, -⟩ | ⟨-, rfl⟩
    · exact htext
    · intro c hc
      rcases List.mem_append.1 hc with htaken | hlast
      · exact htext c (List.mem_of_mem_take htaken)
      · exact List.mem_singleton.1 hlast ▸ hellipsis
  rw [hshown]
  intro c hc
  rcases List.mem_append.1 hc with hfront | hback
  · rcases List.mem_append.1 hfront with hpad | hmiddle
    · exact List.eq_of_mem_replicate hpad ▸ hblank
    · exact ht c hmiddle
  · exact List.eq_of_mem_replicate hback ▸ hblank

/-! ## Lines -/

/-- Where the pieces of a concatenation are found. -/
theorem take_drop_flatMap {α β : Type} (f : α → List β) {l : List α} {k : ℕ} {a : α} (h : l[k]? = some a) :
    ((l.flatMap f).drop ((l.take k).flatMap f).length).take (f a).length = f a := by
  obtain ⟨hk, rfl⟩ := List.getElem?_eq_some_iff.1 h
  have hsplit : l.flatMap f = (l.take k).flatMap f ++ (f l[k] ++ (l.drop (k + 1)).flatMap f) := by
    rw [← List.flatMap_cons, ← List.flatMap_append, List.cons_getElem_drop_succ, List.take_append_drop]
  rw [hsplit, List.drop_left, List.take_left]

/-- A line shows the texts of the columns, each in its own cells, behind the marker. -/
structure Aligned (g : Glyphs) (columns : List Column) (layout : Layout) (texts : ℕ → Column → List Char)
    (line : List Char) : Prop where
  length : line.length = 1 + totalWidth layout
  cells : ∀ k c column, layout[k]? = some c → columns[c.1]? = some column →
    Fills g (texts c.1 column) c.2 column.align
      ((line.drop (1 + totalWidth (layout.take k))).take c.2.toNat)

/-- The columns that are shown are columns of the table. -/
def Known (columns : List Column) (layout : Layout) : Prop :=
  ∀ c ∈ layout, ∃ column, columns[c.1]? = some column

section

variable {Style Color : Type} {theme : Theme Style Color} {spec : Spec} {layout : Layout}

/-- The spans of a line behind the marker. -/
def spansOf (g : Glyphs) (columns : List Column) (layout : Layout) (texts : ℕ → Column → List Char)
    (styles : ℕ → Style) : Line Style :=
  layout.filterMap fun c => (columns[c.1]?).map fun column =>
    ⟨cell g (texts c.1 column) c.2 column.align, styles c.1⟩

/-- With every index known, a line is drawn without a panic. -/
theorem mapM_spans {columns : List Column} (h : Known columns layout) (texts : ℕ → Column → List Char)
    (styles : ℕ → Style) :
    (layout.mapM fun c => (columns[c.1]?).map fun column =>
      (⟨cell g (texts c.1 column) c.2 column.align, styles c.1⟩ : Span Style)) =
        some (spansOf g columns layout texts styles) := by
  induction layout with
  | nil => rfl
  | cons c layout ih =>
    obtain ⟨⟨column, hcolumn⟩, hrest⟩ := List.forall_mem_cons.1 h
    rw [List.mapM_cons, hcolumn, ih hrest]
    simp [spansOf, hcolumn]

/-- The text of a line is that of its cells, one after the other. -/
theorem text_spansOf {columns : List Column} (h : Known columns layout) (texts : ℕ → Column → List Char)
    (styles : ℕ → Style) :
    (spansOf g columns layout texts styles).text = layout.flatMap fun c =>
      ((columns[c.1]?).map fun column => cell g (texts c.1 column) c.2 column.align).getD [] := by
  induction layout with
  | nil => rfl
  | cons c layout ih =>
    obtain ⟨⟨column, hcolumn⟩, hrest⟩ := List.forall_mem_cons.1 h
    have htail := ih hrest
    simp only [Line.text, spansOf] at htail
    simp [Line.text, spansOf, hcolumn, htail]

/-- The cells of a line take up the width of the layout. -/
theorem length_spansOf {columns : List Column} (h : Known columns layout) (texts : ℕ → Column → List Char)
    (styles : ℕ → Style) : (spansOf g columns layout texts styles).text.length = totalWidth layout := by
  rw [text_spansOf h]
  induction layout with
  | nil => rfl
  | cons c layout ih =>
    obtain ⟨⟨column, hcolumn⟩, hrest⟩ := List.forall_mem_cons.1 h
    have hwidth := (fills_cell (g := g) (texts c.1 column) c.2 column.align).length
    rw [List.flatMap_cons, List.length_append, ih hrest, hcolumn]
    show (cell g (texts c.1 column) c.2 column.align).length + _ = _
    rw [hwidth, totalWidth, totalWidth, List.map_cons, List.sum_cons]

/-- Behind a marker of one character the cells stand where the layout has them. -/
theorem aligned_spansOf {columns : List Column} (h : Known columns layout) (texts : ℕ → Column → List Char)
    (styles : ℕ → Style) (marker : Span Style) (hmarker : marker.text.length = 1) :
    Aligned g columns layout texts (Line.text (marker :: spansOf g columns layout texts styles)) := by
  have htext : Line.text (marker :: spansOf g columns layout texts styles) =
      marker.text ++ (spansOf g columns layout texts styles).text := rfl
  refine ⟨?_, fun k c column hc hcolumn => ?_⟩
  · rw [htext, List.length_append, hmarker, length_spansOf h]
  · have hbefore : Known columns (layout.take k) := fun c hc => h c (List.mem_of_mem_take hc)
    have hstart := length_spansOf (g := g) hbefore texts styles
    have hslice := take_drop_flatMap (fun c => ((columns[c.1]?).map fun column =>
      cell g (texts c.1 column) c.2 column.align).getD []) hc
    rw [← text_spansOf hbefore texts styles, hstart, ← text_spansOf h texts styles] at hslice
    have hcell : ((columns[c.1]?).map fun column => cell g (texts c.1 column) c.2 column.align).getD [] =
        cell g (texts c.1 column) c.2 column.align := by
      rw [hcolumn]
      rfl
    have hfills := fills_cell (g := g) (texts c.1 column) c.2 column.align
    rw [hcell, hfills.length] at hslice
    rw [htext, ← hmarker, List.drop_length_add_append, hslice]
    exact hfills

/-- A line has the characters of its texts, blanks and the ellipsis, and no others. -/
theorem mem_spansOf {p : Char → Prop} (hblank : p ' ') (hellipsis : p g.ellipsis) {columns : List Column}
    {texts : ℕ → Column → List Char}
    (htexts : ∀ idx column, columns[idx]? = some column → ∀ c ∈ texts idx column, p c) (styles : ℕ → Style) :
    ∀ c ∈ (spansOf g columns layout texts styles).text, p c := by
  intro c hc
  obtain ⟨span, hspan, hc⟩ := List.mem_flatMap.1 hc
  obtain ⟨shown, -, hshown⟩ := List.mem_filterMap.1 hspan
  obtain ⟨column, hcolumn, rfl⟩ := Option.map_eq_some_iff.1 hshown
  exact mem_cell hblank hellipsis (htexts _ _ hcolumn) _ _ c hc

/-- The header is such a line. -/
theorem headerLine_eq (h : Known spec.columns layout) :
    headerLine theme g spec layout =
      some (spansOf g spec.columns layout (headerLabel g spec) (headerStyle theme spec)) :=
  mapM_spans h _ _

/-- So is a row. -/
theorem rowLine_eq (h : Known spec.columns layout) (rowAt : ℕ → Row Color) (idx : ℕ) :
    rowLine theme g spec layout rowAt idx =
      some (edgeSpan theme g spec idx :: spansOf g spec.columns layout (fun i _ => cellText (rowAt idx) i)
        fun i => cellStyle theme (rowStyle theme spec idx) (rowAt idx)[i]?) := by
  have hspans := mapM_spans (g := g) h (fun i _ => cellText (rowAt idx) i)
    fun i => cellStyle theme (rowStyle theme spec idx) (rowAt idx)[i]?
  unfold rowLine
  simp only [hspans]
  rfl

/-- The marker is one character, and only the selected row has the edge. -/
theorem text_edgeSpan (idx : ℕ) :
    (edgeSpan theme g spec idx).text = [if idx = spec.selected then g.selEdge else ' '] := by
  unfold edgeSpan
  split_ifs
  · rfl
  · rfl

end

/-- The layout of a table shows columns of the table. -/
theorem known_resolveScrolled {columns : List Column} {width : UInt16} {skip : ℕ} {layout : Layout}
    (h : resolveScrolled (columns.map (·.toColumn)) width skip = some layout) : Known columns layout := by
  obtain ⟨layout', hlayout, hfits⟩ := Columns.exists_fits (columns.map (·.toColumn)) width skip
  obtain rfl := Option.some.inj (hlayout.symm.trans h)
  intro c hc
  obtain ⟨d, hd, hindex⟩ := hfits.known c.1 (List.mem_map_of_mem hc)
  have hbound := (List.mem_zipIdx' (List.mem_filter.1 hd).1).1
  rw [List.length_map, hindex] at hbound
  exact ⟨_, List.getElem?_eq_getElem hbound⟩

/-! ## Frames -/

section

variable {Style Color : Type} (theme : Theme Style Color) (g : Glyphs) (spec : Spec) (layout : Layout)
  (rowAt : ℕ → Row Color) (width height : UInt16)

def headerOf : Line Style :=
  ⟨[' '], theme.tableHeader⟩ :: spansOf g spec.columns layout (headerLabel g spec) (headerStyle theme spec)

def lineOf (idx : ℕ) : Line Style :=
  edgeSpan theme g spec idx :: spansOf g spec.columns layout (fun i _ => cellText (rowAt idx) i)
    fun i => cellStyle theme (rowStyle theme spec idx) (rowAt idx)[i]?

/-- What is drawn into an area that is not empty. -/
def drawnOf : Drawn Style :=
  if height.toNat - 1 = 0 then ⟨some (headerOf theme g spec layout), .nothing, false, spec.scroll⟩
  else if spec.total = 0 then ⟨some (headerOf theme g spec layout), .empty spec.empty, false, 0⟩
  else
    ⟨some (headerOf theme g spec layout),
      .rows ((drawnRange spec.total spec.selected spec.scroll (height.toNat - 1)).map
        (lineOf theme g spec layout rowAt)),
      needsScrollbar spec width height, viewportOffset spec.selected spec.scroll (height.toNat - 1)⟩

variable {theme g spec layout rowAt width height}

/-- An area without cells gets nothing. -/
theorem draw_of_nothing (h : height = 0 ∨ width = 0) :
    draw theme g spec rowAt width height = some ⟨none, .nothing, false, spec.scroll⟩ :=
  if_pos (by simpa using h)

/-- An area with cells gets the frame that the layout gives. -/
theorem draw_eq (hheight : height ≠ 0) (hwidth : width ≠ 0)
    (hlayout : resolveScrolled (spec.columns.map (·.toColumn)) (contentWidth spec width height) spec.colScroll =
      some layout) :
    draw theme g spec rowAt width height = some (drawnOf theme g spec layout rowAt width height) := by
  have hknown := known_resolveScrolled hlayout
  have hlines : (drawnRange spec.total spec.selected spec.scroll (height.toNat - 1)).mapM
      (rowLine theme g spec layout rowAt) =
        some ((drawnRange spec.total spec.selected spec.scroll (height.toNat - 1)).map
          (lineOf theme g spec layout rowAt)) :=
    Columns.mapM_eq_some_map fun idx _ => rowLine_eq hknown rowAt idx
  have hshown : ¬ (height = 0 || width = 0) = true := by simp [hheight, hwidth]
  unfold draw drawnOf
  rw [if_neg hshown, hlayout]
  simp only [Option.bind_eq_bind, Option.bind_some, headerLine_eq hknown, hlines]
  split_ifs
  · rfl
  · rfl
  · rfl

/-- The offset that was used is used again. -/
theorem viewportOffset_idem (selected offset height : ℕ) :
    viewportOffset selected (viewportOffset selected offset height) height =
      viewportOffset selected offset height := by
  unfold viewportOffset
  split_ifs <;> omega

/-- Drawn once more with the offset that was used, the frame is the same. -/
theorem drawnOf_again :
    drawnOf theme g { spec with scroll := (drawnOf theme g spec layout rowAt width height).scroll } layout rowAt
      width height = drawnOf theme g spec layout rowAt width height := by
  by_cases hbody : height.toNat - 1 = 0
  · have hscroll : (drawnOf theme g spec layout rowAt width height).scroll = spec.scroll := by
      rw [drawnOf, if_pos hbody]
    rw [hscroll]
  · by_cases htotal : spec.total = 0
    · simp only [drawnOf, if_neg hbody, if_pos htotal]
      rfl
    · have hscroll : (drawnOf theme g spec layout rowAt width height).scroll =
          viewportOffset spec.selected spec.scroll (height.toNat - 1) := by
        rw [drawnOf, if_neg hbody, if_neg htotal]
      rw [hscroll]
      simp only [drawnOf, if_neg hbody, if_neg htotal, drawnRange, viewportOffset_idem]
      rfl

/-- The rows that are drawn, by their place on the screen. -/
theorem getElem?_drawnRange {total selected offset height i idx : ℕ} (hheight : height ≠ 0) (htotal : total ≠ 0)
    (h : (drawnRange total selected offset height)[i]? = some idx) :
    idx = viewportOffset selected offset height + i := by
  rw [drawnRange, if_neg hheight, if_neg htotal] at h
  obtain ⟨hi, hget⟩ := List.getElem?_eq_some_iff.1 h
  rw [List.getElem_range'] at hget
  omega

/-- There are as many rows as the body has lines, or as many as are left. -/
theorem length_drawnRange {total selected offset height : ℕ} (hheight : height ≠ 0) (htotal : total ≠ 0) :
    (drawnRange total selected offset height).length =
      min height (total - viewportOffset selected offset height) := by
  rw [drawnRange, if_neg hheight, if_neg htotal, List.length_range']
  omega

variable (g spec layout rowAt width height)

/-- What a frame of a table is: its lines have one length, a column has the same cells in all of them, the
header's included; the rows are drawn from the offset on, in order, as many as there is room for, and one of
them is marked. -/
structure Grid (drawn : Drawn Style) : Prop where
  header : ∃ line, drawn.header = some line ∧ Aligned g spec.columns layout (headerLabel g spec) line.text
  rows : ∀ lines, drawn.body = .rows lines →
    lines.length = min (height.toNat - 1) (spec.total - drawn.scroll) ∧
      ∀ i line, lines[i]? = some line →
        Aligned g spec.columns layout (fun idx _ => cellText (rowAt (drawn.scroll + i)) idx) line.text ∧
          line.text.head? = some (if drawn.scroll + i = spec.selected then g.selEdge else ' ')
  selection : 2 ≤ height.toNat → spec.selected < spec.total → ∃ lines, drawn.body = .rows lines ∧
    drawn.scroll ≤ spec.selected ∧ spec.selected < drawn.scroll + lines.length
  within : Columns.minima (spec.columns.map (·.toColumn)).zipIdx < 2 ^ 32 →
    Columns.minima ((spec.columns.map (·.toColumn)).zipIdx.filter (·.1.isEssential)) ≤
        (contentWidth spec width height).toNat →
      1 + totalWidth layout + (if drawn.scrollbar then 1 else 0) ≤ width.toNat
  nothingElse : ∀ p : Char → Prop, p ' ' → p g.ellipsis → p g.sortDesc → p g.sortAsc → p g.selEdge →
    (∀ column ∈ spec.columns, ∀ c ∈ column.label.toList, p c) →
    (∀ idx, ∀ cell ∈ rowAt idx, ∀ c ∈ cell.text.toList, p c) →
    (∀ line, drawn.header = some line → ∀ c ∈ line.text, p c) ∧
      ∀ lines, drawn.body = .rows lines → ∀ line ∈ lines, ∀ c ∈ line.text, p c

variable {g spec layout rowAt width height}

/-- Every frame has a header. -/
theorem header_drawnOf :
    (drawnOf theme g spec layout rowAt width height).header = some (headerOf theme g spec layout) := by
  unfold drawnOf
  split_ifs
  · rfl
  · rfl
  · rfl

/-- Where rows are drawn, there is room for them, and there are some. -/
theorem body_drawnOf {lines : List (Line Style)}
    (h : (drawnOf theme g spec layout rowAt width height).body = .rows lines) :
    height.toNat - 1 ≠ 0 ∧ spec.total ≠ 0 ∧
      (drawnOf theme g spec layout rowAt width height).scroll =
        viewportOffset spec.selected spec.scroll (height.toNat - 1) ∧
      lines = (drawnRange spec.total spec.selected spec.scroll (height.toNat - 1)).map
        (lineOf theme g spec layout rowAt) := by
  by_cases hbody : height.toNat - 1 = 0
  · rw [drawnOf, if_pos hbody] at h
    cases h
  · by_cases htotal : spec.total = 0
    · rw [drawnOf, if_neg hbody, if_pos htotal] at h
      cases h
    · rw [drawnOf, if_neg hbody, if_neg htotal] at h ⊢
      exact ⟨hbody, htotal, rfl, (Body.rows.inj h).symm⟩

/-- A row's text is the marker and its cells. -/
theorem text_lineOf (idx : ℕ) : (lineOf theme g spec layout rowAt idx).text =
    (if idx = spec.selected then g.selEdge else ' ') ::
      (spansOf g spec.columns layout (fun i _ => cellText (rowAt idx) i)
        fun i => cellStyle theme (rowStyle theme spec idx) (rowAt idx)[i]?).text := by
  show (edgeSpan theme g spec idx).text ++ _ = _
  rw [text_edgeSpan]
  rfl

/-- A row shows its cells in the columns, behind the marker. -/
theorem aligned_lineOf (h : Known spec.columns layout) (idx : ℕ) :
    Aligned g spec.columns layout (fun i _ => cellText (rowAt idx) i)
        (lineOf theme g spec layout rowAt idx).text ∧
      (lineOf theme g spec layout rowAt idx).text.head? =
        some (if idx = spec.selected then g.selEdge else ' ') := by
  refine ⟨aligned_spansOf h _ _ _ (by rw [text_edgeSpan, List.length_singleton]), ?_⟩
  rw [text_lineOf]
  rfl

/-- The body shows the rows from the offset on. -/
theorem rows_drawnOf {lines : List (Line Style)}
    (hlines : (drawnOf theme g spec layout rowAt width height).body = .rows lines) :
    lines.length = min (height.toNat - 1)
        (spec.total - (drawnOf theme g spec layout rowAt width height).scroll) ∧
      ∀ i line, lines[i]? = some line →
        line =
          lineOf theme g spec layout rowAt ((drawnOf theme g spec layout rowAt width height).scroll + i) := by
  obtain ⟨hbody, htotal, hscroll, rfl⟩ := body_drawnOf hlines
  rw [hscroll]
  refine ⟨by rw [List.length_map, length_drawnRange hbody htotal], fun i line hline => ?_⟩
  obtain ⟨idx, hidx, rfl⟩ := Option.map_eq_some_iff.1 (List.getElem?_map .. ▸ hline)
  rw [getElem?_drawnRange hbody htotal hidx]

/-- The selected row is one of those shown. -/
theorem selection_drawnOf (hheight : 2 ≤ height.toNat) (hselected : spec.selected < spec.total) :
    ∃ lines, (drawnOf theme g spec layout rowAt width height).body = .rows lines ∧
      (drawnOf theme g spec layout rowAt width height).scroll ≤ spec.selected ∧
      spec.selected < (drawnOf theme g spec layout rowAt width height).scroll + lines.length := by
  have hbody : height.toNat - 1 ≠ 0 := by omega
  have htotal : spec.total ≠ 0 := by omega
  have hmem := mem_drawnRange spec.scroll hbody hselected
  obtain ⟨i, hi⟩ := List.mem_iff_getElem?.1 hmem
  have hplace := getElem?_drawnRange hbody htotal hi
  have hbound := (List.getElem?_eq_some_iff.1 hi).1
  rw [drawnOf, if_neg hbody, if_neg htotal]
  refine ⟨_, rfl, ?_, ?_⟩
  · show viewportOffset spec.selected spec.scroll (height.toNat - 1) ≤ spec.selected
    omega
  · rw [List.length_map]
    show spec.selected < viewportOffset spec.selected spec.scroll (height.toNat - 1) + _
    omega

/-- The cells that the table, its marker and its scrollbar take. -/
theorem within_drawnOf (hwidth : width ≠ 0)
    (hlayout : resolveScrolled (spec.columns.map (·.toColumn)) (contentWidth spec width height) spec.colScroll =
      some layout)
    (hsum : Columns.minima (spec.columns.map (·.toColumn)).zipIdx < 2 ^ 32)
    (hessential : Columns.minima ((spec.columns.map (·.toColumn)).zipIdx.filter (·.1.isEssential)) ≤
      (contentWidth spec width height).toNat) :
    1 + totalWidth layout + (if (drawnOf theme g spec layout rowAt width height).scrollbar then 1 else 0) ≤
      width.toNat := by
  obtain ⟨layout', hlayout', hfits⟩ :=
    Columns.exists_fits (spec.columns.map (·.toColumn)) (contentWidth spec width height) spec.colScroll
  obtain rfl := Option.some.inj (hlayout'.symm.trans hlayout)
  -- what scrolls away only makes room
  have hremaining : Columns.minima (Columns.remaining (spec.columns.map (·.toColumn)) spec.colScroll) < 2 ^ 32 :=
    Nat.lt_of_le_of_lt (Columns.minima_filter_le _ _) hsum
  have hkept : Columns.minima ((Columns.remaining (spec.columns.map (·.toColumn)) spec.colScroll).filter
      (·.1.isEssential)) ≤ (contentWidth spec width height).toNat := by
    rw [Columns.remaining, List.filter_comm]
    exact Nat.le_trans (Columns.minima_filter_le _ _) hessential
  have htotal := hfits.bounded hremaining hkept
  have hcells : (contentWidth spec width height).toNat =
      (if needsScrollbar spec width height then width.toNat - 1 else width.toNat) - 1 := by
    refine UInt16.toNat_ofNat_of_lt' ?_
    have hlt := width.toNat_lt_size
    split_ifs <;> omega
  have hbar : (drawnOf theme g spec layout' rowAt width height).scrollbar = true →
      needsScrollbar spec width height = true := by
    unfold drawnOf
    split_ifs
    · exact fun h => by cases h
    · exact fun h => by cases h
    · exact id
  have hnonzero := toNat_ne_zero hwidth
  by_cases hneeds : needsScrollbar spec width height = true
  · have hwide : 4 < width.toNat := by
      rw [needsScrollbar, Bool.and_eq_true, decide_eq_true_eq] at hneeds
      exact hneeds.1
    rw [if_pos hneeds] at hcells
    split_ifs <;> omega
  · rw [if_neg hneeds] at hcells
    rw [if_neg fun h => hneeds (hbar h)]
    omega

/-- A header is made of labels, blanks, arrows and the ellipsis. -/
theorem over_headerOf {p : Char → Prop} (hblank : p ' ') (hellipsis : p g.ellipsis) (hdesc : p g.sortDesc)
    (hasc : p g.sortAsc) (hlabels : ∀ column ∈ spec.columns, ∀ c ∈ column.label.toList, p c) :
    ∀ c ∈ (headerOf theme g spec layout).text, p c := by
  intro c hc
  rcases List.mem_cons.1 hc with rfl | hc
  · exact hblank
  · refine mem_spansOf hblank hellipsis (fun idx column hcolumn c hc => ?_) _ c hc
    have hlabel := hlabels column (List.mem_of_getElem? hcolumn)
    unfold headerLabel at hc
    split_ifs at hc with hsorted hdown
    · rcases List.mem_append.1 hc with hin | harrow
      · exact hlabel c hin
      · exact List.mem_singleton.1 harrow ▸ hdesc
    · rcases List.mem_append.1 hc with hin | harrow
      · exact hlabel c hin
      · exact List.mem_singleton.1 harrow ▸ hasc
    · exact hlabel c hc

/-- A row is made of the texts of its cells, blanks, the edge and the ellipsis. -/
theorem over_lineOf {p : Char → Prop} (hblank : p ' ') (hellipsis : p g.ellipsis) (hedge : p g.selEdge)
    (hcells : ∀ idx, ∀ cell ∈ rowAt idx, ∀ c ∈ cell.text.toList, p c) (idx : ℕ) :
    ∀ c ∈ (lineOf theme g spec layout rowAt idx).text, p c := by
  intro c hc
  rw [text_lineOf] at hc
  rcases List.mem_cons.1 hc with rfl | hc
  · split_ifs
    · exact hedge
    · exact hblank
  · refine mem_spansOf hblank hellipsis (fun i column _ c hc => ?_) _ c hc
    rcases hcell : (rowAt idx)[i]? with _ | cell
    · simp [cellText, hcell] at hc
    · rw [cellText, hcell] at hc
      exact hcells idx cell (List.mem_of_getElem? hcell) c hc

/-- The frame is a grid, from what its header, its rows and its cells are. -/
theorem grid_drawnOf (hwidth : width ≠ 0)
    (hlayout : resolveScrolled (spec.columns.map (·.toColumn)) (contentWidth spec width height) spec.colScroll =
      some layout) :
    Grid g spec layout rowAt width height (drawnOf theme g spec layout rowAt width height) := by
  have hknown := known_resolveScrolled hlayout
  exact
    { header := ⟨_, header_drawnOf, aligned_spansOf hknown _ _ _ rfl⟩
      rows := fun lines hlines => by
        obtain ⟨hlength, hline⟩ := rows_drawnOf hlines
        refine ⟨hlength, fun i line hget => ?_⟩
        rw [hline i line hget]
        exact aligned_lineOf hknown _
      selection := selection_drawnOf
      within := within_drawnOf hwidth hlayout
      nothingElse := fun p hblank hellipsis hdesc hasc hedge hlabels hcells => by
        refine ⟨fun line hline => ?_, fun lines hlines line hmem => ?_⟩
        · rw [header_drawnOf] at hline
          obtain rfl := Option.some.inj hline
          exact over_headerOf hblank hellipsis hdesc hasc hlabels
        · obtain ⟨-, -, -, rfl⟩ := body_drawnOf hlines
          obtain ⟨idx, -, rfl⟩ := List.mem_map.1 hmem
          exact over_lineOf hblank hellipsis hedge hcells idx }

variable (theme g spec rowAt width height)

/-- **A frame of a table.** Whatever its columns, rows, cursor and offset are and whatever area it is given,
a table is drawn without a panic, and as a grid: every line has one length, which is within the area if the
columns that may not be dropped are; a column has the same cells in the header and in all rows, and shows
there its label, with the arrow if the table is sorted by it, or its cell of the row, in full, or up to the
ellipsis; the rows follow each other from the offset on; the selected one is among them, and it alone is
marked; and nothing else is drawn but blanks. Drawn again with the offset that was used, it is the same. -/
theorem draw_grid :
    ∃ drawn, draw theme g spec rowAt width height = some drawn ∧
      (height = 0 ∨ width = 0 → drawn = ⟨none, .nothing, false, spec.scroll⟩) ∧
      (height ≠ 0 → width ≠ 0 → ∃ layout,
        resolveScrolled (spec.columns.map (·.toColumn)) (contentWidth spec width height) spec.colScroll =
            some layout ∧
          Grid g spec layout rowAt width height drawn) ∧
      draw theme g { spec with scroll := drawn.scroll } rowAt width height = some drawn := by
  by_cases hnothing : height = 0 ∨ width = 0
  · exact ⟨_, draw_of_nothing hnothing, fun _ => rfl,
      fun hheight hwidth => (hnothing.elim hheight hwidth).elim, draw_of_nothing hnothing⟩
  · obtain ⟨hheight, hwidth⟩ := not_or.1 hnothing
    obtain ⟨layout, hlayout, -⟩ := Columns.exists_fits (spec.columns.map (·.toColumn))
      (contentWidth spec width height) spec.colScroll
    have hdrawn : draw theme g spec rowAt width height = some (drawnOf theme g spec layout rowAt width height) :=
      draw_eq hheight hwidth hlayout
    have hagain (scroll : ℕ) : draw theme g { spec with scroll := scroll } rowAt width height =
        some (drawnOf theme g { spec with scroll := scroll } layout rowAt width height) :=
      draw_eq hheight hwidth hlayout
    exact ⟨_, hdrawn, fun h => absurd h hnothing,
      fun _ _ => ⟨layout, hlayout, grid_drawnOf hwidth hlayout⟩,
      (hagain _).trans (congrArg some drawnOf_again)⟩

end

end Muxtop.Tui.TableGrid
