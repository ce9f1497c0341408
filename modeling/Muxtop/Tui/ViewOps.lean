import Muxtop.Tui.App

/-!
# What an event can do to the tables

Whatever the user asks for, by a key, the palette, the actions menu or a typed verb, comes down to a
few operations on the tables.
-/

namespace Muxtop.Tui

open Muxtop.Core

/-- One operation on the tables. -/
inductive ViewOp
  | goToTab (tab : Tab)
  | showGpu
  | scrollColumns (offset : ℕ)
  | setFilterEditing (on : Bool)
  | clearFilter (now : ℕ)
  | moveSelection (delta : ℤ)
  | selectIndex (index : ℕ)
  | scrollRows (delta : ℤ)
  | cycleSubview (delta : ℤ)
  | cycleSort
  | reverseSort
  | setProcessSort (field : SortField)
  | setNetSort (field : NetworkSortField)
  | setContainerSort (field : ContainerSortField)
  | toggleTree
  | switchKubeSubview (sv : KubeSubview)
  | switchGpuSubview (sv : GpuSubview)
  | topKube
deriving DecidableEq, Repr

namespace ViewOp

/-- Carry out an operation. -/
def apply (lib : Lib) (v : Views) : ViewOp → Views
  | .goToTab tab => v.goToTab tab
  | .showGpu => { v with tab := .gpu }
  | .scrollColumns offset => { v with colScroll := offset }
  | .setFilterEditing on => v.setFilterEditing on
  | .clearFilter now => v.setFilter lib now ""
  | .moveSelection delta => v.moveSelection lib delta
  | .selectIndex index => v.selectIndex lib index
  | .scrollRows delta => v.scrollRows lib delta
  | .cycleSubview delta => v.cycleSubview lib delta
  | .cycleSort => v.cycleSort lib
  | .reverseSort => v.reverseSort lib
  | .setProcessSort field => v.setProcessSort lib field
  | .setNetSort field => { v with netSortField := field }
  | .setContainerSort field => v.setContainerSort lib field
  | .toggleTree => v.toggleTree lib
  | .switchKubeSubview sv => v.switchKubeSubview lib sv
  | .switchGpuSubview sv => v.switchGpuSubview sv
  | .topKube => { v with kubeSelected := 0, kubeScrollOffset := 0 }

/-- Whether an operation moves the cursor of the tab in front. -/
def movesCursor : ViewOp → Bool
  | .moveSelection _ | .selectIndex _ | .scrollRows _ => true
  | _ => false

/-- The operations that a command may follow a tab switch with. -/
def IsReset : ViewOp → Prop
  | .toggleTree | .switchKubeSubview _ | .topKube => True
  | _ => False

end ViewOp

/-- What one action or command does to the tables, the cursor keys apart: nothing, one operation, or a
tab switch and an operation on the tab. -/
inductive ViewChange (lib : Lib) (v : Views) : Views → Prop
  | same : ViewChange lib v v
  | op (op : ViewOp) (h : op.movesCursor = false) : ViewChange lib v (op.apply lib v)
  | there (tab : Tab) (op : ViewOp) (h : op.IsReset) : ViewChange lib v (op.apply lib (v.goToTab tab))

/-- What one action or command does, the palette and the messages apart: it keeps the connection, and
it changes the tables or what owns the keyboard, not both. -/
structure Handled (lib : Lib) (s s' : AppState) : Prop where
  views : ViewChange lib s.toViews s'.toViews
  mode : s'.connectionMode = s.connectionMode
  focus : s'.overlay = s.overlay ∧ s'.confirm = s.confirm ∨ s'.toViews = s.toViews

/-- Whether an action moves the cursor. -/
def Action.movesRow : Action → Bool
  | .rowDown | .rowUp | .rowPageDown | .rowPageUp | .rowHalfDown | .rowHalfUp | .rowFirst | .rowLast =>
    true
  | _ => false

variable {lib : Lib} {w : World} {s s' : AppState}

/-- A message posted afterwards. -/
theorem Handled.notify (h : Handled lib s s') (level : Level) (msg : String) :
    Handled lib s (s'.notify w level msg) :=
  ⟨h.views, h.mode, h.focus⟩

namespace AppState

/-! ## Ways to be handled -/

/-- An operation on the tables alone. -/
theorem handled_op (op : ViewOp) (hop : op.movesCursor = false)
    (h : s' = { s with toViews := op.apply lib s.toViews }) : Handled lib s s' := by
  subst h
  exact ⟨.op op hop, rfl, .inl ⟨rfl, rfl⟩⟩

/-- Whatever leaves the tables and the connection alone. -/
theorem handled_same (hviews : s'.toViews = s.toViews)
    (hmode : s'.connectionMode = s.connectionMode) : Handled lib s s' :=
  ⟨hviews ▸ .same, hmode, .inr hviews⟩

/-- A message changes no table. -/
theorem handled_notify (level : Level) (msg : String) : Handled lib s (s.notify w level msg) :=
  handled_same rfl rfl

/-- Copying changes no table. -/
theorem handled_copySelection : Handled lib s (s.copySelection lib w) := by
  unfold copySelection
  split
  · exact handled_notify _ _
  · split
    · exact handled_notify _ _
    · exact handled_notify _ _

/-- A request changes no table: it puts up a dialog, or a message. -/
theorem handled_requestKill (signal : Signal) : Handled lib s (s.requestKill w signal) := by
  unfold requestKill
  split
  · exact handled_same rfl rfl
  · exact handled_notify _ _

/-- The same of a new priority. -/
theorem handled_requestRenice (delta : ℤ) : Handled lib s (s.requestRenice w delta) := by
  unfold requestRenice
  split
  · exact handled_same rfl rfl
  · exact handled_notify _ _

/-- The same of a container. -/
theorem handled_requestContainerAction (build : String → String → ConfirmAction) :
    Handled lib s (s.requestContainerAction w build) := by
  unfold requestContainerAction
  split_ifs
  · exact handled_notify _ _
  · split
    · exact handled_same rfl rfl
    · exact handled_same rfl rfl

/-- The toggle puts the cluster's cursor at the top. -/
theorem handled_toggleKubeScope : Handled lib s (s.toggleKubeScope w) := by
  unfold toggleKubeScope
  split_ifs
  · exact ⟨.op .topKube rfl, rfl, .inl ⟨rfl, rfl⟩⟩
  · exact handled_notify _ _

/-- A step back leaves the filter input, or clears the filter, or is not about the tables. -/
theorem handled_goBack : Handled lib s (s.goBack lib w) := by
  unfold goBack
  split_ifs
  · exact handled_same rfl rfl
  · exact handled_same rfl rfl
  · exact handled_op (.setFilterEditing false) rfl rfl
  · exact handled_op (.clearFilter w.now) rfl rfl
  · exact handled_same rfl rfl

/-- A refresh resumes the view; the tables wait for the next snapshot. -/
theorem handled_refresh : Handled lib s (s.refresh w) := by
  unfold refresh
  split_ifs
  · exact handled_same rfl rfl
  · exact handled_notify _ _

/-- The inspector stands in front of the tables. -/
theorem handled_openInspector : Handled lib s (s.openInspector lib w) := by
  unfold openInspector
  split_ifs
  · exact handled_notify _ _
  · exact handled_same rfl rfl

/-- So does the menu. -/
theorem handled_openActionsMenu : Handled lib s (s.openActionsMenu w) := by
  unfold openActionsMenu
  split_ifs
  · exact handled_notify _ _
  · exact handled_same rfl rfl

/-! ## Actions -/

/-- What an action that moves no cursor does. -/
theorem handled_runAction {action : Action} (hrow : action.movesRow = false) :
    Handled lib s (s.runAction lib w action) := by
  cases action
  case quit => exact handled_same rfl rfl
  case help => exact handled_same rfl rfl
  case palette => exact handled_same rfl rfl
  case commandMode => exact handled_same rfl rfl
  case toggleLog => exact handled_same rfl rfl
  case togglePause => exact handled_same rfl rfl
  case refresh => exact handled_refresh
  case nextTab => exact handled_op (.goToTab s.tab.next) rfl rfl
  case prevTab => exact handled_op (.goToTab s.tab.prev) rfl rfl
  case goTab tab => exact handled_op (.goToTab tab) rfl rfl
  case nextSubview => exact handled_op (.cycleSubview 1) rfl rfl
  case prevSubview => exact handled_op (.cycleSubview (-1)) rfl rfl
  case rowDown => cases hrow
  case rowUp => cases hrow
  case rowPageDown => cases hrow
  case rowPageUp => cases hrow
  case rowHalfDown => cases hrow
  case rowHalfUp => cases hrow
  case rowFirst => cases hrow
  case rowLast => cases hrow
  case colLeft => exact handled_op (.scrollColumns (s.colScroll - 1)) rfl rfl
  case colRight => exact handled_op (.scrollColumns (min (s.colScroll + 1) Views.maxColScroll)) rfl rfl
  case openInspector => exact handled_openInspector
  case actionsMenu => exact handled_openActionsMenu
  case copySelection => exact handled_copySelection
  case openFilter => exact handled_op (.setFilterEditing true) rfl rfl
  case back => exact handled_goBack
  case cycleSort => exact handled_op .cycleSort rfl rfl
  case reverseSort => exact handled_op .reverseSort rfl rfl
  case toggleTree => exact handled_op .toggleTree rfl rfl
  case renice delta => exact handled_requestRenice delta
  case kill signal => exact handled_requestKill signal
  case containerStop => exact handled_requestContainerAction _
  case containerKill => exact handled_requestContainerAction _
  case containerRestart => exact handled_requestContainerAction _
  case kubeSubview sv => exact handled_op (.switchKubeSubview sv) rfl rfl
  case toggleKubeScope => exact handled_toggleKubeScope
  case gpuSubview sv => exact handled_op (.switchGpuSubview sv) rfl rfl

/-- Any action but those of the cursor keys. -/
theorem handled_dispatch {action : Action} (hrow : action.movesRow = false) :
    Handled lib s (s.dispatch lib w action) := by
  unfold dispatch
  split_ifs
  · exact handled_notify _ _
  · exact handled_runAction hrow

/-- What an action that moves the cursor does. -/
theorem dispatch_movesRow {action : Action} (hrow : action.movesRow = true) :
    ∃ op : ViewOp, op.movesCursor = true ∧
      s.dispatch lib w action = { s with toViews := op.apply lib s.toViews } := by
  cases action <;> try cases hrow
  case rowDown => exact ⟨.moveSelection 1, rfl, rfl⟩
  case rowUp => exact ⟨.moveSelection (-1), rfl, rfl⟩
  case rowPageDown => exact ⟨.moveSelection Views.page, rfl, rfl⟩
  case rowPageUp => exact ⟨.moveSelection (-Views.page), rfl, rfl⟩
  case rowHalfDown => exact ⟨.moveSelection (Views.page / 2 : ℕ), rfl, rfl⟩
  case rowHalfUp => exact ⟨.moveSelection (-(Views.page / 2 : ℕ)), rfl, rfl⟩
  case rowFirst => exact ⟨.selectIndex 0, rfl, rfl⟩
  case rowLast => exact ⟨.selectIndex (s.itemCount lib - 1), rfl, rfl⟩

/-! ## Commands -/

/-- `kill` asks about a process. -/
theorem handled_killNamed (needle : String) : Handled lib s (s.killNamed lib w needle) := by
  unfold killNamed
  dsimp only
  split
  · exact handled_notify _ _
  · refine handled_same ?_ ?_ <;> (dsimp only; split_ifs <;> rfl)

/-- `stop` and `restart` ask about a container. -/
theorem handled_containerNamed (needle : String) (build : String → String → ConfirmAction) :
    Handled lib s (s.containerNamed lib w needle build) := by
  unfold containerNamed
  split_ifs
  · exact handled_notify _ _
  · dsimp only
    split
    · exact handled_same rfl rfl
    · exact handled_notify _ _

/-- `sort` sorts the tab in front. -/
theorem handled_sortByName (field : String) : Handled lib s (s.sortByName lib w field) := by
  unfold sortByName
  dsimp only
  split
  case h_2 => exact handled_notify _ _
  case h_1 v hv =>
    refine Handled.notify ?_ _ _
    unfold sortViewsByName at hv
    split at hv
    · obtain ⟨field, -, rfl⟩ := Option.map_eq_some_iff.1 hv
      exact handled_op (.setNetSort field) rfl rfl
    · obtain ⟨field, -, rfl⟩ := Option.map_eq_some_iff.1 hv
      exact handled_op (.setContainerSort field) rfl rfl
    · cases hv
    · obtain ⟨field, -, rfl⟩ := Option.map_eq_some_iff.1 hv
      exact handled_op (.setProcessSort field) rfl rfl

/-- `theme` changes no table. -/
theorem handled_setTheme (name : String) : Handled lib s (s.setTheme lib w name) := by
  unfold setTheme
  split
  · exact handled_same rfl rfl
  · exact handled_notify _ _

/-- `tab` goes to a tab. -/
theorem handled_goToTabNamed (name : String) : Handled lib s (s.goToTabNamed lib w name) := by
  unfold goToTabNamed
  dsimp only
  split
  case h_1 tab _ => exact handled_op (.goToTab tab) rfl rfl
  case h_2 => exact handled_notify _ _

/-- Any command without an argument. -/
theorem handled_runCommand (cmd : Command) : Handled lib s (s.runCommand lib w cmd) := by
  cases cmd
  case quit => exact handled_dispatch rfl
  case toggleTreeView =>
    refine ⟨.there .processes .toggleTree trivial, rfl, .inl ⟨rfl, rfl⟩⟩
  case sortByCpu => exact handled_op (.setProcessSort .cpu) rfl rfl
  case sortByMem => exact handled_op (.setProcessSort .mem) rfl rfl
  case sortByPid => exact handled_op (.setProcessSort .pid) rfl rfl
  case sortByName => exact handled_op (.setProcessSort .name) rfl rfl
  case sortByUser => exact handled_op (.setProcessSort .user) rfl rfl
  case toggleSortOrder => exact handled_op .reverseSort rfl rfl
  case cycleSort => exact handled_op .cycleSort rfl rfl
  case switchToGeneral => exact handled_op (.goToTab .general) rfl rfl
  case switchToProcesses => exact handled_op (.goToTab .processes) rfl rfl
  case switchToNetwork => exact handled_op (.goToTab .network) rfl rfl
  case switchToContainers => exact handled_op (.goToTab .containers) rfl rfl
  case switchToKube => exact handled_op (.goToTab .kube) rfl rfl
  case switchToGpu => exact handled_op .showGpu rfl rfl
  case openFilter => exact handled_op (.setFilterEditing true) rfl rfl
  case clearFilter => exact handled_op (.clearFilter w.now) rfl rfl
  case nextTab => exact handled_op (.goToTab s.tab.next) rfl rfl
  case prevTab => exact handled_op (.goToTab s.tab.prev) rfl rfl
  case killProcess => exact handled_requestKill _
  case forceKillProcess => exact handled_requestKill _
  case niceDown => exact handled_requestRenice _
  case niceUp => exact handled_requestRenice _
  case sortNetByRx => exact handled_op (.setNetSort .rxRate) rfl rfl
  case sortNetByTx => exact handled_op (.setNetSort .txRate) rfl rfl
  case sortNetByName => exact handled_op (.setNetSort .name) rfl rfl
  case sortNetByErrors => exact handled_op (.setNetSort .errors) rfl rfl
  case sortContainersByCpu => exact handled_op (.setContainerSort .cpu) rfl rfl
  case sortContainersByMem => exact handled_op (.setContainerSort .mem) rfl rfl
  case sortContainersByName => exact handled_op (.setContainerSort .name) rfl rfl
  case sortContainersByNetRx => exact handled_op (.setContainerSort .netRx) rfl rfl
  case stopContainer => exact handled_requestContainerAction _
  case killContainer => exact handled_requestContainerAction _
  case restartContainer => exact handled_requestContainerAction _
  case showHelp => exact handled_same rfl rfl
  case togglePause => exact handled_dispatch rfl
  case refreshNow => exact handled_dispatch rfl
  case showLog => exact handled_same rfl rfl
  case inspectRow => exact handled_dispatch rfl
  case copyRowId => exact handled_copySelection
  case kubePods => exact ⟨.there .kube (.switchKubeSubview .pods) trivial, rfl, .inl ⟨rfl, rfl⟩⟩
  case kubeNodes => exact ⟨.there .kube (.switchKubeSubview .nodes) trivial, rfl, .inl ⟨rfl, rfl⟩⟩
  case kubeDeployments =>
    exact ⟨.there .kube (.switchKubeSubview .deployments) trivial, rfl, .inl ⟨rfl, rfl⟩⟩
  case kubeToggleScope =>
    change Handled lib s ((s.mapViews (·.goToTab .kube)).toggleKubeScope w)
    unfold toggleKubeScope
    split_ifs
    · exact ⟨.there .kube .topKube trivial, rfl, .inl ⟨rfl, rfl⟩⟩
    · exact (handled_op (.goToTab .kube) rfl rfl).notify _ _
  case killNamed => exact handled_notify _ _
  case stopNamed => exact handled_notify _ _
  case restartNamed => exact handled_notify _ _
  case sortBy => exact handled_notify _ _
  case filterBy => exact handled_notify _ _
  case setTheme => exact handled_notify _ _
  case goToTab => exact handled_notify _ _

/-- Refused in remote mode, a command changes no table. -/
theorem handled_executeCommand (cmd : Command) : Handled lib s (s.executeCommand lib w cmd) := by
  unfold executeCommand
  split_ifs
  · exact handled_notify _ _
  · exact handled_runCommand cmd

/-- With any argument, a command does what it is handled as; `filter <text>` alone replaces a filter. -/
theorem executeInvocation_cases (cmd : Command) (arg : Option String) :
    Handled lib s (s.executeInvocation lib w cmd arg) ∨
      ∃ text, cmd = .filterBy ∧ arg = some text ∧
        s.executeInvocation lib w cmd arg = s.mapViews (·.setFilter lib w.now text) := by
  unfold executeInvocation
  split
  case h_1 => exact .inl (handled_killNamed _)
  case h_2 => exact .inl (handled_containerNamed _ _)
  case h_3 => exact .inl (handled_containerNamed _ _)
  case h_4 => exact .inl (handled_sortByName _)
  case h_5 text => exact .inr ⟨text, rfl, rfl, rfl⟩
  case h_6 => exact .inl (handled_setTheme _)
  case h_7 => exact .inl (handled_goToTabNamed _)
  case h_8 =>
    left
    split_ifs
    · exact handled_notify _ _
    · exact handled_executeCommand _

/-! ## Keys and other events -/

/-- The confirm dialog does not touch the tables. -/
theorem handleConfirmKey_toViews (key : KeyEvent) : (s.handleConfirmKey w key).toViews = s.toViews := by
  have hcontainer (t : AppState) (effect : Effect) :
      (t.executeContainerAction w effect).toViews = t.toViews := by
    unfold executeContainerAction
    split_ifs <;> rfl
  have hexecute (t : AppState) (action : ConfirmAction) :
      (t.executeConfirm w action).toViews = t.toViews := by
    cases action
    case kill =>
      unfold executeConfirm
      dsimp only
      split <;> rfl
    case renice =>
      unfold executeConfirm
      dsimp only
      split <;> rfl
    case stopContainer => exact hcontainer t _
    case killContainer => exact hcontainer t _
    case restartContainer => exact hcontainer t _
  unfold handleConfirmKey
  cases hconfirm : s.confirm with
  | none => split <;> rfl
  | some action => split <;> first | exact hexecute _ action | rfl

/-- The palette's own list is no table. -/
theorem refilterPalette_toViews (s : AppState) : (s.refilterPalette lib).toViews = s.toViews := rfl

/-- The palette touches the tables only through the command it runs. -/
theorem handlePaletteKey_cases (key : KeyEvent) :
    (s.handlePaletteKey lib w key).toViews = s.toViews ∨
      ∃ cmd score, key.code = .enter ∧ s.palette.filtered[s.palette.selected]? = some (cmd, score) ∧
        s.handlePaletteKey lib w key =
          (s.leavePalette cmd).executeInvocation lib w cmd s.palette.arg := by
  unfold handlePaletteKey
  split
  case h_2 hcode =>
    split
    case h_1 cmd score hcmd => exact .inr ⟨cmd, score, hcode, hcmd, rfl⟩
    case h_2 => exact .inl rfl
  case h_5 => exact .inl (refilterPalette_toViews _)
  case h_6 =>
    left
    split_ifs <;> rfl
  all_goals exact .inl rfl

/-- The read-only overlays do not touch the tables. -/
theorem handleScrollableOverlayKey_toViews (key : KeyEvent) :
    (s.handleScrollableOverlayKey lib w key).toViews = s.toViews := by
  have hcopy : (s.copySelection lib w).toViews = s.toViews := by
    unfold copySelection
    split
    · rfl
    · split <;> rfl
  unfold handleScrollableOverlayKey
  dsimp only
  split
  all_goals first
    | rfl
    | split_ifs
      · first | exact hcopy | rfl
      · rfl

/-- The actions menu offers no cursor key. -/
theorem movesRow_of_mem_tabActions {action : Action} (h : action ∈ s.tabActions) :
    action.movesRow = false := by
  have hbindings : ∀ b ∈ bindings, b.group = .actions → b.action.movesRow = false := by decide
  obtain ⟨b, hb, rfl⟩ := List.mem_map.1 h
  obtain ⟨hfor, hkept⟩ := List.mem_filter.1 hb
  simp only [Bool.and_eq_true, decide_eq_true_eq] at hkept
  exact hbindings b (List.mem_filter.1 hfor).1 hkept.1.2.1

/-- The actions menu touches the tables only through the action it dispatches. -/
theorem handleActionsKey_cases (key : KeyEvent) :
    (s.handleActionsKey lib w key).toViews = s.toViews ∨
      ∃ action, action.movesRow = false ∧
        s.handleActionsKey lib w key = s.closeOverlay.dispatch lib w action := by
  unfold handleActionsKey
  split
  case h_7 =>
    split
    case h_1 action haction =>
      exact .inr ⟨action, movesRow_of_mem_tabActions (List.mem_of_getElem? haction), rfl⟩
    case h_2 => exact .inl rfl
  all_goals exact .inl rfl

/-! ## Events -/

/-- Whether an event moves the cursor of the tab in front: a row key where nothing else has the keyboard,
or the mouse wheel. -/
def movesCursor (s : AppState) : Event → Bool
  | .key key =>
    s.confirm.isNone && decide (s.overlay = .none) && !s.filterEditing &&
      (resolve key.code key.modifiers s.tab).any Action.movesRow
  | .mouse kind => decide (s.overlay = .none) && decide (kind ≠ .other)
  | _ => false

/-- What a key makes of the filter text that it edits. -/
def typedText (text : String) (key : KeyEvent) : String :=
  match key.code with
  | .backspace => Text.pop text
  | .char c =>
    if key.modifiers.control then text
    else if text.utf8ByteSize < maxFilterLen then text.push c
    else text
  | _ => text

/-- The filter text that an event asks for: by a key in the filter input, or by `filter <text>`. -/
def askedFilter (s : AppState) : Event → Option String
  | .key key =>
    if s.confirm.isSome then none
    else match s.overlay with
      | .palette | .command =>
        match key.code, s.palette.filtered[s.palette.selected]? with
        | .enter, some (.filterBy, _) => s.palette.arg
        | _, _ => none
      | .none => if s.filterEditing then some (typedText s.filterText key) else none
      | _ => none
  | _ => none

end AppState

/-- What one event does to the tables: what an action or a command does, a move of the cursor, a new
filter text for the active tab, typed or as a command, or a new snapshot. -/
inductive Turned (lib : Lib) (w : World) (s : AppState) : Event → Views → Prop
  | change {e : Event} {v : Views} (h : ViewChange lib s.toViews v) : Turned lib w s e v
  | moved {e : Event} (op : ViewOp) (hop : op.movesCursor = true) (hmoves : s.movesCursor e = true) :
      Turned lib w s e (op.apply lib s.toViews)
  | filterBy {e : Event} (text : String) (hasked : s.askedFilter e = some text) :
      Turned lib w s e (s.toViews.setFilter lib w.now text)
  | edit (key : KeyEvent) (hoverlay : s.overlay = .none) (hconfirm : s.confirm = none)
      (hediting : s.filterEditing = true) :
      Turned lib w s (.key key) (AppState.handleFilterKey lib w s.toViews key)
  | snapshot (snapshot : SystemSnapshot) (hpaused : s.paused = false) :
      Turned lib w s (.snapshot snapshot) (s.toViews.takeSnapshot lib snapshot)

namespace AppState

/-- An event that is not about the tables. -/
theorem turned_same {e : Event} (h : s'.toViews = s.toViews) : Turned lib w s e s'.toViews :=
  .change (h ▸ .same)

/-- A key of the palette does what its command does, or sets a filter text. -/
theorem turned_handlePaletteKey (hconfirm : s.confirm = none)
    (hoverlay : s.overlay = .palette ∨ s.overlay = .command) (key : KeyEvent) :
    Turned lib w s (.key key) (s.handlePaletteKey lib w key).toViews := by
  obtain hsame | ⟨cmd, score, hcode, hcmd, heq⟩ := @handlePaletteKey_cases lib w s key
  · exact turned_same hsame
  · rw [heq]
    obtain hrun | ⟨text, rfl, harg, hrun⟩ :=
      @executeInvocation_cases lib w (s.leavePalette cmd) cmd s.palette.arg
    · exact .change hrun.views
    · have hasked : s.askedFilter (.key key) = some text := by
        obtain hoverlay | hoverlay := hoverlay <;>
          simp [askedFilter, hconfirm, hoverlay, hcode, hcmd, harg]
      rw [hrun]
      exact .filterBy text hasked

/-- A bound key does what its action does, or moves the cursor. -/
theorem turned_handleBoundKey (hconfirm : s.confirm = none) (hoverlay : s.overlay = .none)
    (hediting : s.filterEditing = false) (key : KeyEvent) :
    Turned lib w s (.key key) (s.handleBoundKey lib w key).toViews := by
  unfold handleBoundKey
  split
  case h_1 action haction =>
    cases hrow : action.movesRow
    case false => exact .change (handled_dispatch hrow).views
    case true =>
      obtain ⟨op, hop, heq⟩ := @dispatch_movesRow lib w s _ hrow
      have hmoves : s.movesCursor (.key key) = true := by
        simp [movesCursor, hconfirm, hoverlay, hediting, haction, hrow]
      rw [heq]
      exact .moved op hop hmoves
  case h_2 => exact .change .same

/-- A key goes to one of these. -/
theorem turned_routeKey (key : KeyEvent) :
    Turned lib w s (.key key) (s.routeKey lib w key).toViews := by
  have hscroll : Turned lib w s (.key key) (s.handleScrollableOverlayKey lib w key).toViews :=
    turned_same (handleScrollableOverlayKey_toViews key)
  unfold routeKey
  split
  · exact turned_same (handleConfirmKey_toViews key)
  next hnone =>
    have hconfirm : s.confirm = none := by simpa using hnone
    split
    case h_1 hoverlay => exact turned_handlePaletteKey hconfirm (.inl hoverlay) key
    case h_2 hoverlay => exact turned_handlePaletteKey hconfirm (.inr hoverlay) key
    case h_3 => exact hscroll
    case h_4 => exact hscroll
    case h_5 => exact hscroll
    case h_6 =>
      obtain hsame | ⟨action, hrow, heq⟩ := @handleActionsKey_cases lib w s key
      · exact turned_same hsame
      · rw [heq]
        have hrun : Handled lib s.closeOverlay (s.closeOverlay.dispatch lib w action) :=
          handled_dispatch hrow
        exact .change hrun.views
    case h_7 hoverlay =>
      split
      next hediting => exact .edit key hoverlay hconfirm hediting
      next hediting => exact turned_handleBoundKey hconfirm hoverlay (by simpa using hediting) key

/-- What an event does to the tables. -/
theorem turned_handle (e : Event) : Turned lib w s e (s.handle lib w e).toViews := by
  cases e
  case tick => exact .change .same
  case key key =>
    change Turned lib w s (.key key) (s.handleKeyEvent lib w key).toViews
    unfold handleKeyEvent
    dsimp only
    split
    · exact .change .same
    · have hexpired : Turned lib w (s.expireToasts w) (.key key)
          ((s.expireToasts w).routeKey lib w key).toViews := turned_routeKey key
      generalize ((s.expireToasts w).routeKey lib w key).toViews = v at hexpired
      cases hexpired
      case change h => exact .change h
      case moved op hop hmoves => exact .moved op hop hmoves
      case filterBy text hasked => exact .filterBy text hasked
      case edit hoverlay hconfirm hediting => exact .edit key hoverlay hconfirm hediting
  case mouse kind =>
    change Turned lib w s (.mouse kind) (s.handleMouseEvent lib kind).toViews
    unfold handleMouseEvent
    split
    · cases kind <;> exact .change .same
    -- The wheel moves rows only where no overlay is up.
    next hoverlay =>
      have hnone : s.overlay = .none := by simpa using hoverlay
      cases kind
      case scrollDown => exact .moved (.scrollRows Views.wheelRows) rfl (by simp [movesCursor, hnone])
      case scrollUp => exact .moved (.scrollRows (-Views.wheelRows)) rfl (by simp [movesCursor, hnone])
      case other => exact .change .same
  case resize => exact .change .same
  case snapshot snapshot =>
    change Turned lib w s (.snapshot snapshot) (s.applySnapshot lib snapshot).toViews
    unfold applySnapshot
    split
    · exact .change .same
    next hpaused => exact .snapshot snapshot (by simpa using hpaused)
  case outcome => exact .change .same

end AppState

end Muxtop.Tui
