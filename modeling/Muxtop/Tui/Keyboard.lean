import Muxtop.Tui.Draw

/-!
# Who has the keyboard

A key goes to the confirm dialog, to the overlay, to the filter input or to the keymap, in this order. A
filter input is opened where none of the others is, and nothing opens over it: the keys that would are
text to it.
-/

namespace Muxtop.Tui

open Muxtop.Core

namespace Views

variable {lib : Lib} {v v' : Views} {now : ℕ} {w : World} {t : Table}

/-! ## What a new projection leaves alone -/

/-- The tables with their cursors and their rows forgotten. -/
def choices (v : Views) : Views :=
  { v.withoutCursors with
    visibleProcesses := [], visibleTree := [], sortedFilteredContainersCache := [], kubeViewCache := []
    lastFilterChange := none, shownFilter := "" }

/-- Moving cursors is no choice. -/
theorem choices_of_cursors (h : v'.withoutCursors = v.withoutCursors) : v'.choices = v.choices := by
  have hchoices := congrArg choices h
  exact hchoices

/-- Nor is building the process rows anew. -/
theorem choices_recomputeVisible : (v.recomputeVisible lib).choices = v.choices :=
  (choices_of_cursors recomputeVisible_withoutCursors).trans rfl

/-- Nor is doing so only after a while. -/
theorem choices_recomputeVisibleDebounced : (v.recomputeVisibleDebounced lib now).choices = v.choices := by
  unfold recomputeVisibleDebounced
  dsimp only
  split_ifs
  · exact choices_recomputeVisible
  · rfl

/-- Nor is what follows a change of the filter. -/
theorem choices_afterFilterChange (immediate : Bool) :
    (v.afterFilterChange lib now immediate).choices = v.choices := by
  unfold afterFilterChange
  rw [choices_of_cursors (mapSelected_withoutCursors _)]
  split
  case h_5 =>
    split_ifs
    · exact choices_recomputeVisible
    · exact choices_recomputeVisibleDebounced
  all_goals rfl

/-- A filter text is set on the tab in front. -/
@[simp] theorem setFilterText_tab (text : String) : (v.setFilterText text).tab = v.tab := by
  unfold setFilterText
  split <;> rfl

/-- The tab stays in front. -/
@[simp] theorem afterFilterChange_tab (immediate : Bool) :
    (v.afterFilterChange lib now immediate).tab = v.tab := by
  have htab := congrArg Views.tab (@choices_afterFilterChange lib v now immediate)
  exact htab

/-- A key of the filter input stays on the tab. -/
@[simp] theorem handleFilterKey_tab (key : KeyEvent) :
    (AppState.handleFilterKey lib w v key).tab = v.tab := by
  unfold AppState.handleFilterKey
  split
  case h_4 => split_ifs <;> simp
  all_goals simp

/-! ## The filter inputs -/

/-- Whether the filter input of a table is open. -/
def filterOpen (v : Views) : Table → Bool
  | .processes => v.filterActive
  | .network => v.netFilterActive
  | .containers => v.containersFilterActive
  | .kube => v.kubeFilterActive
  | .gpu => v.gpuFilterActive

/-- The filter text is a choice. -/
theorem filterText_of_choices (h : v'.choices = v.choices) : v'.filterText = v.filterText := by
  have htext := congrArg filterText h
  exact htext

/-- Whether a filter input is open is a choice. -/
theorem filterOpen_of_choices (h : v'.choices = v.choices) (t : Table) :
    v'.filterOpen t = v.filterOpen t := by
  have hopen := congrArg (fun u => u.filterOpen t) h
  cases t <;> exact hopen

/-- The filter input being edited is that of the tab in front. -/
theorem filterEditing_eq (v : Views) : v.filterEditing = v.filterOpen v.tab.table := by
  unfold filterEditing
  cases v.tab <;> rfl

/-- The text that was set is the text. -/
theorem filterText_setFilterText (text : String) : (v.setFilterText text).filterText = text := by
  unfold setFilterText
  cases v.tab <;> rfl

/-- So it is when the rows are built anew. -/
theorem filterText_setFilter (text : String) : (v.setFilter lib now text).filterText = text :=
  (filterText_of_choices (choices_afterFilterChange true)).trans (filterText_setFilterText text)

/-- Only the input of the tab in front is opened or closed. -/
theorem filterOpen_setFilterEditing (on : Bool) :
    (v.setFilterEditing on).filterOpen t = if t = v.tab.table then on else v.filterOpen t := by
  unfold setFilterEditing
  cases v.tab <;> cases t <;> rfl

/-- It is then open, or closed, as was asked. -/
theorem filterEditing_setFilterEditing (on : Bool) : (v.setFilterEditing on).filterEditing = on := by
  rw [filterEditing_eq, setFilterEditing_tab, filterOpen_setFilterEditing, if_pos rfl]

/-- Going to a tab opens no input. -/
theorem filterOpen_goToTab {tab : Tab} (h : (v.goToTab tab).filterOpen t = true) : v.filterOpen t = true := by
  unfold goToTab at h
  split_ifs at h
  · exact h
  · cases t
    case gpu => exact h
    all_goals cases h

/-- A text opens and closes no input. -/
theorem filterOpen_setFilterText (text : String) : (v.setFilterText text).filterOpen t = v.filterOpen t := by
  unfold setFilterText
  cases v.tab <;> cases t <;> rfl

/-- A new filter text opens and closes nothing. -/
theorem filterOpen_typed (text : String) (immediate : Bool) :
    ((v.setFilterText text).afterFilterChange lib now immediate).filterOpen t = v.filterOpen t :=
  (filterOpen_of_choices (choices_afterFilterChange immediate) t).trans (filterOpen_setFilterText text)

/-- So the input stays open while one types. -/
theorem filterEditing_setFilter (text : String) :
    (v.setFilter lib now text).filterEditing = v.filterEditing := by
  have htab : (v.setFilter lib now text).tab = v.tab := by simp [setFilter]
  rw [filterEditing_eq, htab, setFilter, filterOpen_typed, filterEditing_eq]

/-- Moving a cursor opens and closes no input. -/
theorem filterOpen_of_cursors (h : v'.withoutCursors = v.withoutCursors) (t : Table) :
    v'.filterOpen t = v.filterOpen t :=
  filterOpen_of_choices (choices_of_cursors h) t

/-- Nor does building rows anew. -/
theorem filterOpen_recomputeVisible : (v.recomputeVisible lib).filterOpen t = v.filterOpen t :=
  filterOpen_of_choices choices_recomputeVisible t

/-- Nor does another sort field. -/
theorem filterOpen_cycleSort : (v.cycleSort lib).filterOpen t = v.filterOpen t := by
  unfold cycleSort
  split
  case h_5 =>
    rw [filterOpen_recomputeVisible]
    cases t <;> rfl
  all_goals cases t <;> rfl

/-- Nor does the other direction. -/
theorem filterOpen_reverseSort : (v.reverseSort lib).filterOpen t = v.filterOpen t := by
  unfold reverseSort
  split
  case h_5 =>
    rw [filterOpen_recomputeVisible]
    cases t <;> rfl
  all_goals cases t <;> rfl

/-- Another sub-view opens no input. -/
theorem filterOpen_cycleSubview (delta : ℤ) (h : (v.cycleSubview lib delta).filterOpen t = true) :
    v.filterOpen t = true := by
  unfold cycleSubview at h
  split at h <;> cases t <;> first | exact h | cases h

/-- An operation opens the filter input of the tab in front, if any. -/
theorem filterOpen_apply (op : ViewOp) (h : (op.apply lib v).filterOpen t = true) :
    v.filterOpen t = true ∨ (op.apply lib v).tab.table = t := by
  cases op
  case goToTab tab => exact .inl (filterOpen_goToTab h)
  case setFilterEditing on =>
    show _ ∨ (v.setFilterEditing on).tab.table = t
    rw [setFilterEditing_tab]
    by_cases hfront : v.tab.table = t
    · exact .inr hfront
    · left
      change (v.setFilterEditing on).filterOpen t = true at h
      rwa [filterOpen_setFilterEditing, if_neg (Ne.symm hfront)] at h
  case clearFilter now => exact .inl ((filterOpen_typed "" true).symm.trans h)
  case moveSelection delta =>
    exact .inl ((filterOpen_of_cursors (moveSelection_withoutCursors delta) t).symm.trans h)
  case selectIndex index =>
    exact .inl ((filterOpen_of_cursors (selectIndex_withoutCursors index) t).symm.trans h)
  case scrollRows delta =>
    exact .inl ((filterOpen_of_cursors (scrollRows_withoutCursors delta) t).symm.trans h)
  case cycleSubview delta => exact .inl (filterOpen_cycleSubview delta h)
  case cycleSort => exact .inl (filterOpen_cycleSort.symm.trans h)
  case reverseSort => exact .inl (filterOpen_reverseSort.symm.trans h)
  case setProcessSort field =>
    left
    have hkept := filterOpen_recomputeVisible.symm.trans h
    cases t <;> exact hkept
  case toggleTree =>
    left
    have hkept := filterOpen_recomputeVisible.symm.trans h
    cases t <;> exact hkept
  -- the rest set what a table shows, or leave the inputs of the tabs closed
  all_goals
    left
    cases t <;> first | exact h | cases h

/-- What is asked of a flag that says whether the filter input of some tabs is open: an operation opens it
only on one of these tabs, and on them it is what has the keyboard. -/
structure FilterFlag (lib : Lib) (opened : Views → Bool) (here : Tab → Prop) : Prop where
  cursors : ∀ {v v'}, v'.withoutCursors = v.withoutCursors → opened v' = opened v
  change : ∀ {v v'}, ViewChange lib v v' → opened v' = true → opened v = true ∨ here v'.tab
  setFilter : ∀ v now text, opened (v.setFilter lib now text) = opened v
  edit : ∀ v w key, opened (AppState.handleFilterKey lib w v key) = true → opened v = true
  snapshot : ∀ v snapshot, opened (v.takeSnapshot lib snapshot) = opened v
  editing : ∀ v, opened v = true → here v.tab → v.filterEditing = true

/-- The flags of the filter inputs. -/
theorem tableFlag (lib : Lib) (t : Table) : FilterFlag lib (·.filterOpen t) (·.table = t) where
  cursors h := filterOpen_of_choices (choices_of_cursors h) t
  change h hopen := by
    cases h
    case same => exact .inl hopen
    case op op _ => exact filterOpen_apply op hopen
    case there tab op _ =>
      obtain hopen | hfront := filterOpen_apply op hopen
      · exact .inl (filterOpen_goToTab hopen)
      · exact .inr hfront
  setFilter _ _ text := filterOpen_typed text true
  -- A filter key either leaves the flag or closes the editor, and never opens one.
  edit v w key h := by
    obtain ⟨u, hu, hkey⟩ := @handleFilterKey_cases lib v w key
    have hopen : u.filterOpen t = true := by
      obtain hkey | ⟨immediate, hkey⟩ := hkey
      · rw [← hkey]
        exact h
      · rwa [hkey, filterOpen_typed] at h
    obtain rfl | rfl := hu
    · exact hopen
    · rw [filterOpen_setFilterEditing] at hopen
      split_ifs at hopen
      exact hopen
  snapshot v snapshot := by
    have hrecomputed (u : Views) :
        ((u.recomputeContainersView lib).recomputeKubeView lib).filterOpen t = u.filterOpen t := by
      cases t <;> rfl
    unfold takeSnapshot
    rw [hrecomputed, filterOpen_of_choices choices_recomputeVisible]
    cases t <;> rfl
  editing v h hfront := by
    rw [filterEditing_eq, hfront]
    exact h

end Views

namespace AppState

variable {lib : Lib} {w : World} {s s' : AppState} {opened : Views → Bool} {here : Tab → Prop}

/-- While the filter input is open, nothing else has the keyboard and its tab is in front. -/
def Modal (opened : Views → Bool) (here : Tab → Prop) (s : AppState) : Prop :=
  opened s.toViews = true → s.overlay = .none ∧ s.confirm = none ∧ here s.tab

/-- While the input is closed nothing is asked. -/
theorem modal_of_closed (h : opened s.toViews = false) : Modal opened here s := by
  intro hopened
  cases h.symm.trans hopened

/-- The tables of a state with the filter input closed. -/
theorem modal_of_same (hclosed : opened s.toViews = false) (h : s'.toViews = s.toViews) :
    Modal opened here s' :=
  modal_of_closed ((congrArg opened h).trans hclosed)

/-! ## While the input is open -/

/-- While a filter input is edited, every key but Ctrl+C goes to it. -/
theorem handle_key_editing (hoverlay : s.overlay = .none) (hconfirm : s.confirm = none)
    (hediting : s.filterEditing = true) {key : KeyEvent}
    (hkey : ¬ (key.code = .char 'c' ∧ key.modifiers.control = true)) :
    s.handle lib w (.key key) = (s.expireToasts w).mapViews (handleFilterKey lib w · key) := by
  have hfree : (s.expireToasts w).confirm.isSome = false := by simp [expireToasts, hconfirm]
  have hnone : (s.expireToasts w).overlay = .none := hoverlay
  have hkeyboard : (s.expireToasts w).filterEditing = true := hediting
  simp [handle, handleKeyEvent, hkey, routeKey, hfree, hnone, hkeyboard]

/-- While a filter input is edited, an event leaves everything but the cursors alone, or is a filter
key, or brings a snapshot; none takes the keyboard away. -/
theorem handle_editing (hoverlay : s.overlay = .none) (hconfirm : s.confirm = none)
    (hediting : s.filterEditing = true) (e : Event) :
    ((s.handle lib w e).overlay = .none ∧ (s.handle lib w e).confirm = none) ∧
      ((s.handle lib w e).toViews.withoutCursors = s.toViews.withoutCursors ∨
        (∃ key, e = .key key ∧
          (s.handle lib w e).toViews = handleFilterKey lib w s.toViews key) ∨
        ∃ snapshot, (s.handle lib w e).toViews = s.toViews.takeSnapshot lib snapshot) := by
  cases e
  case tick => exact ⟨⟨hoverlay, hconfirm⟩, .inl rfl⟩
  case resize => exact ⟨⟨hoverlay, hconfirm⟩, .inl rfl⟩
  case outcome => exact ⟨⟨hoverlay, hconfirm⟩, .inl rfl⟩
  case key key =>
    -- With no overlay and no dialog up the filter editor gets every key but Ctrl-C.
    by_cases hquit : key.code = .char 'c' ∧ key.modifiers.control = true
    · simp only [handle, handleKeyEvent, hquit, and_self, if_true]
      exact ⟨⟨hoverlay, hconfirm⟩, .inl rfl⟩
    · rw [handle_key_editing hoverlay hconfirm hediting hquit]
      exact ⟨⟨hoverlay, hconfirm⟩, .inr (.inl ⟨key, rfl, rfl⟩)⟩
  case mouse kind =>
    simp only [handle, handleMouseEvent, hoverlay, ne_eq, not_true_eq_false, if_false]
    cases kind
    case scrollDown =>
      exact ⟨⟨hoverlay, hconfirm⟩, .inl (Views.scrollRows_withoutCursors _)⟩
    case scrollUp =>
      exact ⟨⟨hoverlay, hconfirm⟩, .inl (Views.scrollRows_withoutCursors _)⟩
    case other => exact ⟨⟨hoverlay, hconfirm⟩, .inl rfl⟩
  case snapshot snapshot =>
    simp only [handle, applySnapshot]
    split_ifs
    · exact ⟨⟨hoverlay, hconfirm⟩, .inl rfl⟩
    · exact ⟨⟨hoverlay, hconfirm⟩, .inr (.inr ⟨snapshot, rfl⟩)⟩

/-- An open filter input stays on top, and its tab in front. -/
theorem modal_handle_open (flag : Views.FilterFlag lib opened here) (h : Modal opened here s)
    (hopened : opened s.toViews = true) (e : Event) : Modal opened here (s.handle lib w e) := by
  obtain ⟨hoverlay, hconfirm, hhere⟩ := h hopened
  obtain ⟨⟨hoverlay', hconfirm'⟩, hviews⟩ := @handle_editing lib w s hoverlay hconfirm
    (flag.editing s.toViews hopened hhere) e
  have hstays : (s.handle lib w e).tab = s.tab := by
    obtain hsame | ⟨key, -, hkey⟩ | ⟨snapshot, hsnap⟩ := hviews
    · have htabs := congrArg Views.tab hsame
      exact htabs
    · exact (congrArg Views.tab hkey).trans (Views.handleFilterKey_tab key)
    · have htabs := congrArg Views.tab hsnap
      exact htabs
  exact fun _ => ⟨hoverlay', hconfirm', hstays ▸ hhere⟩

/-! ## While it is closed -/

section Closed

variable (flag : Views.FilterFlag lib opened here) (hclosed : opened s.toViews = false)

include flag hclosed

/-- An action or a command that runs with nothing open leaves nothing open over the filter input. -/
theorem modal_of_handled (h : Handled lib s s') (hoverlay : s.overlay = .none) (hconfirm : s.confirm = none) :
    Modal opened here s' := by
  obtain ⟨hsame, hsame'⟩ | hviews := h.focus
  · intro hopened
    obtain hopen | hhere := flag.change h.views hopened
    · cases hclosed.symm.trans hopen
    · exact ⟨hsame.trans hoverlay, hsame'.trans hconfirm, hhere⟩
  · exact modal_of_same hclosed hviews

/-- A command of the palette may open the input, and then leaves nothing in front of it. -/
theorem modal_handlePaletteKey (hconfirm : s.confirm = none) (key : KeyEvent) :
    Modal opened here (s.handlePaletteKey lib w key) := by
  obtain hsame | ⟨cmd, score, -, -, heq⟩ := @handlePaletteKey_cases lib w s key
  · exact modal_of_same hclosed hsame
  · rw [heq]
    have hleft : opened (s.leavePalette cmd).toViews = false := hclosed
    obtain hrun | ⟨text, -, -, hrun⟩ :=
      @executeInvocation_cases lib w (s.leavePalette cmd) cmd s.palette.arg
    · exact modal_of_handled flag hleft hrun rfl hconfirm
    · rw [hrun]
      exact modal_of_closed ((flag.setFilter _ w.now text).trans hclosed)

/-- So may an action of the menu. -/
theorem modal_handleActionsKey (hconfirm : s.confirm = none) (key : KeyEvent) :
    Modal opened here (s.handleActionsKey lib w key) := by
  obtain hsame | ⟨action, hrow, heq⟩ := @handleActionsKey_cases lib w s key
  · exact modal_of_same hclosed hsame
  · rw [heq]
    have hleft : opened s.closeOverlay.toViews = false := hclosed
    exact modal_of_handled flag hleft (handled_dispatch hrow) rfl hconfirm

/-- So may a bound key. -/
theorem modal_handleBoundKey (hoverlay : s.overlay = .none) (hconfirm : s.confirm = none) (key : KeyEvent) :
    Modal opened here (s.handleBoundKey lib w key) := by
  unfold handleBoundKey
  split
  case h_1 action _ =>
    cases hrow : action.movesRow
    case false => exact modal_of_handled flag hclosed (handled_dispatch hrow) hoverlay hconfirm
    case true =>
      obtain ⟨op, hop, heq⟩ := @dispatch_movesRow lib w s _ hrow
      rw [heq]
      have hcursors : (op.apply lib s.toViews).withoutCursors = s.toViews.withoutCursors := by
        cases op <;> cases hop
        case moveSelection delta => exact Views.moveSelection_withoutCursors delta
        case selectIndex index => exact Views.selectIndex_withoutCursors index
        case scrollRows delta => exact Views.scrollRows_withoutCursors delta
      exact modal_of_closed ((flag.cursors hcursors).trans hclosed)
  case h_2 => exact modal_of_closed hclosed

/-- With the filter input closed, whoever has the keyboard opens it with nothing over it. -/
theorem modal_routeKey (key : KeyEvent) : Modal opened here (s.routeKey lib w key) := by
  unfold routeKey
  split
  · exact modal_of_same hclosed (handleConfirmKey_toViews key)
  next hnone =>
    have hconfirm : s.confirm = none := by simpa using hnone
    have hscroll : Modal opened here (s.handleScrollableOverlayKey lib w key) :=
      modal_of_same hclosed (handleScrollableOverlayKey_toViews key)
    split
    case h_1 => exact modal_handlePaletteKey flag hclosed hconfirm key
    case h_2 => exact modal_handlePaletteKey flag hclosed hconfirm key
    case h_3 => exact hscroll
    case h_4 => exact hscroll
    case h_5 => exact hscroll
    case h_6 => exact modal_handleActionsKey flag hclosed hconfirm key
    case h_7 hoverlay =>
      split
      · intro hopened
        cases hclosed.symm.trans (flag.edit s.toViews w key hopened)
      · exact modal_handleBoundKey flag hclosed hoverlay hconfirm key

/-- With the filter input closed, an event opens it only where nothing else has the keyboard. -/
theorem modal_handle_closed (e : Event) : Modal opened here (s.handle lib w e) := by
  cases e
  case key key =>
    simp only [handle, handleKeyEvent]
    split_ifs
    · exact modal_of_closed hclosed
    · exact @modal_routeKey lib w (s.expireToasts w) opened here flag hclosed key
  case mouse kind =>
    apply modal_of_closed
    have hscroll (delta : ℤ) : opened (s.toViews.scrollRows lib delta) = false :=
      (flag.cursors (Views.scrollRows_withoutCursors delta)).trans hclosed
    simp only [handle, handleMouseEvent]
    split_ifs <;> cases kind <;> first | exact hclosed | exact hscroll _
  case snapshot snapshot =>
    apply modal_of_closed
    simp only [handle, applySnapshot]
    split_ifs
    · exact hclosed
    · exact (flag.snapshot s.toViews snapshot).trans hclosed
  all_goals exact modal_of_closed hclosed

end Closed

/-! ## Runs -/

/-- No event takes the keyboard from an open filter input, or its tab from the front. -/
theorem modal_handle (flag : Views.FilterFlag lib opened here) (h : Modal opened here s) (e : Event) :
    Modal opened here (s.handle lib w e) := by
  cases hopened : opened s.toViews
  case true => exact modal_handle_open flag h hopened e
  case false => exact modal_handle_closed flag hopened e

/-- Whatever the input, an open filter keeps the keyboard to itself. -/
theorem modal_step (flag : Views.FilterFlag lib opened here) (h : Modal opened here s) (input : Input) :
    Modal opened here (s.step lib input) := by
  unfold AppState.step
  split_ifs
  · exact modal_handle flag h input.event
  · exact h

end AppState

end Muxtop.Tui
