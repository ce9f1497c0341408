import Muxtop.Foundation.Runs
import Muxtop.Tui.App

/-!
# Remote mode is read-only

Against a remote host, four guards stand between the keyboard and the host: the one of `dispatch`, the
one of `execute_command`, the one of the container requests, and the palette, which does not offer
`kill <name>`. `kill_named` has none of its own, so what the palette offers is part of the invariant.
-/

namespace Muxtop.Tui

open Muxtop.Core

/-- What leaves the connection, the confirm dialog and the host alone, and offers no excluded command in
the palette that was not offered before. -/
structure Quiet (s s' : AppState) : Prop where
  mode : s'.connectionMode = s.connectionMode
  confirm : s'.confirm = s.confirm
  performed : s'.performed = s.performed
  offers : ∀ c score, (c, score) ∈ s'.palette.filtered →
    (c, score) ∈ s.palette.filtered ∨ c ∉ s.excludedCommands

/-- What holds of the interface to a remote host: nothing waits for a confirmation, nothing was done, and
the palette does not offer to kill by name. -/
structure ReadOnly (s : AppState) : Prop where
  remote : s.isRemote = true
  confirm : s.confirm = none
  performed : s.performed = []
  offers : ∀ c score, (c, score) ∈ s.palette.filtered → c ≠ .killNamed

variable {lib : Lib} {w : World} {s s' s'' : AppState}

/-- Remote mode is a matter of the connection. -/
theorem AppState.isRemote_congr (h : s'.connectionMode = s.connectionMode) :
    s'.isRemote = s.isRemote := by
  unfold isRemote
  rw [h]

/-- So are the commands to leave out. -/
theorem AppState.excludedCommands_congr (h : s'.connectionMode = s.connectionMode) :
    s'.excludedCommands = s.excludedCommands := by
  unfold excludedCommands
  rw [isRemote_congr h]

/-- One quiet step after another. -/
theorem Quiet.trans (h : Quiet s s') (h' : Quiet s' s'') : Quiet s s'' where
  mode := h'.mode.trans h.mode
  confirm := h'.confirm.trans h.confirm
  performed := h'.performed.trans h.performed
  offers c score hmem := by
    obtain hold | hfree := h'.offers c score hmem
    · exact h.offers c score hold
    · exact .inr (AppState.excludedCommands_congr h.mode ▸ hfree)

/-- What is quiet keeps a read-only interface read-only. -/
theorem ReadOnly.of_quiet (h : ReadOnly s) (hquiet : Quiet s s') : ReadOnly s' where
  remote := (AppState.isRemote_congr hquiet.mode).trans h.remote
  confirm := hquiet.confirm.trans h.confirm
  performed := hquiet.performed.trans h.performed
  offers c score hmem := by
    obtain hold | hfree := hquiet.offers c score hmem
    · exact h.offers c score hold
    · rintro rfl
      apply hfree
      rw [AppState.excludedCommands, if_pos h.remote]
      decide

namespace AppState

/-- What touches none of them. -/
theorem quiet_same (hmode : s'.connectionMode = s.connectionMode) (hconfirm : s'.confirm = s.confirm)
    (hperformed : s'.performed = s.performed)
    (hfiltered : s'.palette.filtered = s.palette.filtered) : Quiet s s' :=
  ⟨hmode, hconfirm, hperformed, fun _ _ h => .inl (hfiltered ▸ h)⟩

/-- A message is quiet. -/
theorem quiet_notify (level : Level) (msg : String) : Quiet s (s.notify w level msg) :=
  quiet_same rfl rfl rfl rfl

/-- So is a change to the tables. -/
theorem quiet_mapViews (f : Views → Views) : Quiet s (s.mapViews f) := quiet_same rfl rfl rfl rfl

/-- The palette leaves the excluded commands out whenever it filters. -/
theorem quiet_refilterPalette : Quiet s (s.refilterPalette lib) :=
  ⟨rfl, rfl, rfl, fun _ _ h => .inr (PaletteState.refilterCtx_offers h)⟩

/-! ## Actions -/

/-- So is copying. -/
theorem quiet_copySelection : Quiet s (s.copySelection lib w) := by
  unfold copySelection
  split
  · apply quiet_notify
  · split <;> apply quiet_notify

/-- So is a step back. -/
theorem quiet_goBack : Quiet s (s.goBack lib w) := by
  unfold goBack
  split_ifs
  · exact quiet_same rfl rfl rfl rfl
  · exact quiet_same rfl rfl rfl rfl
  · apply quiet_mapViews
  · apply quiet_mapViews
  · exact quiet_same rfl rfl rfl rfl

/-- So is a refresh. -/
theorem quiet_refresh : Quiet s (s.refresh w) := by
  unfold refresh
  split_ifs
  · exact quiet_same rfl rfl rfl rfl
  · apply quiet_notify

/-- So is the inspector. -/
theorem quiet_openInspector : Quiet s (s.openInspector lib w) := by
  unfold openInspector
  split_ifs
  · apply quiet_notify
  · exact quiet_same rfl rfl rfl rfl

/-- So is the menu. -/
theorem quiet_openActionsMenu : Quiet s (s.openActionsMenu w) := by
  unfold openActionsMenu
  split_ifs
  · apply quiet_notify
  · exact quiet_same rfl rfl rfl rfl

/-- The palette opens on a list without the excluded commands. -/
theorem quiet_openPalette : Quiet s (s.openPalette lib) := by
  have hopened : Quiet s
      { s with overlay := .palette, palette := { s.palette with input := "", selected := 0 } } :=
    quiet_same rfl rfl rfl rfl
  exact hopened.trans quiet_refilterPalette

/-- So does the command line. -/
theorem quiet_openCommandLine : Quiet s (s.openCommandLine lib) := by
  have hopened : Quiet s
      { s with overlay := .command, palette := { s.palette with input := "", selected := 0 } } :=
    quiet_same rfl rfl rfl rfl
  exact hopened.trans quiet_refilterPalette

/-- An action that is not local-only is quiet. -/
theorem quiet_runAction {action : Action} (h : action.isLocalOnly = false) :
    Quiet s (s.runAction lib w action) := by
  cases action
  case palette => exact quiet_openPalette
  case commandMode => exact quiet_openCommandLine
  case refresh => exact quiet_refresh
  case openInspector => exact quiet_openInspector
  case actionsMenu => exact quiet_openActionsMenu
  case copySelection => exact quiet_copySelection
  case back => exact quiet_goBack
  case renice => cases h
  case kill => cases h
  case containerStop => cases h
  case containerKill => cases h
  case containerRestart => cases h
  case toggleKubeScope => cases h
  -- the rest open an overlay or change what the tables show
  all_goals exact quiet_same rfl rfl rfl rfl

/-- Whatever is dispatched against a remote host is quiet. -/
theorem quiet_dispatch (hremote : s.isRemote = true) (action : Action) :
    Quiet s (s.dispatch lib w action) := by
  unfold dispatch
  split_ifs with hlocal
  · apply quiet_notify
  · exact quiet_runAction (by simpa [hremote] using hlocal)

/-! ## Commands -/

/-- In remote mode `stop` and `restart` are refused. -/
theorem quiet_containerNamed (hremote : s.isRemote = true) (needle : String)
    (build : String → String → ConfirmAction) : Quiet s (s.containerNamed lib w needle build) := by
  unfold containerNamed
  rw [if_pos hremote]
  apply quiet_notify

/-- `sort` changes the tables. -/
theorem quiet_sortByName (field : String) : Quiet s (s.sortByName lib w field) := by
  unfold sortByName
  dsimp only
  split
  · exact quiet_same rfl rfl rfl rfl
  · apply quiet_notify

/-- `theme` changes the looks. -/
theorem quiet_setTheme (name : String) : Quiet s (s.setTheme lib w name) := by
  unfold setTheme
  split
  · exact quiet_same rfl rfl rfl rfl
  · apply quiet_notify

/-- `tab` changes the tables. -/
theorem quiet_goToTabNamed (name : String) : Quiet s (s.goToTabNamed lib w name) := by
  unfold goToTabNamed
  dsimp only
  split
  · apply quiet_mapViews
  · apply quiet_notify

/-- A command that remote mode does not block is quiet. -/
theorem quiet_runCommand (hremote : s.isRemote = true) {cmd : Command}
    (h : cmd ∉ remoteBlockedCommands) : Quiet s (s.runCommand lib w cmd) := by
  cases cmd
  case quit => exact quiet_dispatch hremote _
  case togglePause => exact quiet_dispatch hremote _
  case refreshNow => exact quiet_dispatch hremote _
  case inspectRow => exact quiet_dispatch hremote _
  case toggleTreeView =>
    have hthere : (s.mapViews (·.goToTab .processes)).isRemote = true := hremote
    exact (quiet_mapViews _).trans (quiet_dispatch hthere .toggleTree)
  case copyRowId => exact quiet_copySelection
  case killProcess => exact absurd (by decide) h
  case forceKillProcess => exact absurd (by decide) h
  case niceDown => exact absurd (by decide) h
  case niceUp => exact absurd (by decide) h
  case stopContainer => exact absurd (by decide) h
  case killContainer => exact absurd (by decide) h
  case restartContainer => exact absurd (by decide) h
  case kubeToggleScope => exact absurd (by decide) h
  -- the rest open an overlay, change what the tables show or print how they are used
  all_goals exact quiet_same rfl rfl rfl rfl

/-- In remote mode a command that asks or acts is refused. -/
theorem quiet_executeCommand (hremote : s.isRemote = true) (cmd : Command) :
    Quiet s (s.executeCommand lib w cmd) := by
  unfold executeCommand
  split_ifs with hblocked
  · apply quiet_notify
  · exact quiet_runCommand hremote (by simpa [hremote] using hblocked)

/-- With any argument, every command but `kill` is quiet against a remote host. -/
theorem quiet_executeInvocation (hremote : s.isRemote = true) {cmd : Command} (hcmd : cmd ≠ .killNamed)
    (arg : Option String) : Quiet s (s.executeInvocation lib w cmd arg) := by
  unfold executeInvocation
  split
  · exact absurd rfl hcmd
  · exact quiet_containerNamed hremote _ _
  · exact quiet_containerNamed hremote _ _
  · apply quiet_sortByName
  · apply quiet_mapViews
  · apply quiet_setTheme
  · apply quiet_goToTabNamed
  · split_ifs
    · apply quiet_notify
    · exact quiet_executeCommand hremote _

/-! ## Events -/

/-- A palette that does not offer to kill by name runs no such command. -/
theorem quiet_handlePaletteKey (h : ReadOnly s) (key : KeyEvent) :
    Quiet s (s.handlePaletteKey lib w key) := by
  have hedited (input : String) :
      Quiet s ({ s with palette := { s.palette with input := input } }.refilterPalette lib) :=
    have hinput : Quiet s { s with palette := { s.palette with input := input } } :=
      quiet_same rfl rfl rfl rfl
    hinput.trans quiet_refilterPalette
  unfold handlePaletteKey
  split
  case h_2 =>
    split
    case h_1 cmd score hcmd =>
      -- The one command a remote session must not reach is not in the list it picks from.
      have hoffered : cmd ≠ .killNamed := h.offers cmd score (List.mem_of_getElem? hcmd)
      have hleft : Quiet s (s.leavePalette cmd) := quiet_same rfl rfl rfl rfl
      have hremote : (s.leavePalette cmd).isRemote = true := h.remote
      exact hleft.trans (quiet_executeInvocation hremote hoffered _)
    case h_2 => exact quiet_same rfl rfl rfl rfl
  case h_5 => exact hedited _
  case h_6 =>
    split_ifs
    · exact quiet_same rfl rfl rfl rfl
    · exact quiet_same rfl rfl rfl rfl
    · exact hedited _
    · exact quiet_same rfl rfl rfl rfl
  all_goals exact quiet_same rfl rfl rfl rfl

/-- An overlay that scrolls is quiet. -/
theorem quiet_handleScrollableOverlayKey (key : KeyEvent) :
    Quiet s (s.handleScrollableOverlayKey lib w key) := by
  unfold handleScrollableOverlayKey
  dsimp only
  split
  all_goals first
    | exact quiet_same rfl rfl rfl rfl
    | split_ifs
      · first | exact quiet_copySelection | exact quiet_same rfl rfl rfl rfl
      · exact quiet_same rfl rfl rfl rfl

/-- In remote mode so is the menu. -/
theorem quiet_handleActionsKey (hremote : s.isRemote = true) (key : KeyEvent) :
    Quiet s (s.handleActionsKey lib w key) := by
  have hclosed : Quiet s s.closeOverlay := quiet_same rfl rfl rfl rfl
  unfold handleActionsKey
  split
  case h_7 =>
    split
    · have hstill : s.closeOverlay.isRemote = true := hremote
      exact hclosed.trans (quiet_dispatch hstill _)
    · exact quiet_same rfl rfl rfl rfl
  all_goals exact quiet_same rfl rfl rfl rfl

/-- Whoever owns the keyboard, a key is quiet; the confirm dialog never does. -/
theorem quiet_routeKey (h : ReadOnly s) (key : KeyEvent) : Quiet s (s.routeKey lib w key) := by
  unfold routeKey
  rw [h.confirm]
  simp only [Option.isSome_none, Bool.false_eq_true, if_false]
  split
  · exact quiet_handlePaletteKey h key
  · exact quiet_handlePaletteKey h key
  · exact quiet_handleScrollableOverlayKey key
  · exact quiet_handleScrollableOverlayKey key
  · exact quiet_handleScrollableOverlayKey key
  · exact quiet_handleActionsKey h.remote key
  · split_ifs
    · apply quiet_mapViews
    · unfold handleBoundKey
      split
      · exact quiet_dispatch h.remote _
      · exact quiet_same rfl rfl rfl rfl

/-- So is the mouse. -/
theorem quiet_handleMouseEvent (kind : MouseEventKind) : Quiet s (s.handleMouseEvent lib kind) := by
  unfold handleMouseEvent
  split_ifs <;> cases kind <;> exact quiet_same rfl rfl rfl rfl

/-- In remote mode every event is quiet. -/
theorem quiet_handle (h : ReadOnly s) (e : Event) : Quiet s (s.handle lib w e) := by
  have hexpired : Quiet s (s.expireToasts w) := quiet_same rfl rfl rfl rfl
  cases e
  case tick => exact hexpired
  case key key =>
    change Quiet s (s.handleKeyEvent lib w key)
    unfold handleKeyEvent
    dsimp only
    split_ifs
    · exact quiet_same rfl rfl rfl rfl
    · have hstill : ReadOnly (s.expireToasts w) := ⟨h.remote, h.confirm, h.performed, h.offers⟩
      exact hexpired.trans (quiet_routeKey hstill key)
  case mouse kind => exact quiet_handleMouseEvent kind
  case resize => exact quiet_same rfl rfl rfl rfl
  case snapshot snapshot =>
    change Quiet s (s.applySnapshot lib snapshot)
    unfold applySnapshot
    split_ifs
    · exact quiet_same rfl rfl rfl rfl
    · apply quiet_mapViews
  case outcome => apply quiet_notify

/-! ## Runs -/

/-- Remote mode stays read-only, whatever the input. -/
theorem readOnly_step (h : ReadOnly s) (input : Input) : ReadOnly (s.step lib input) := by
  unfold step
  split_ifs
  · exact h.of_quiet (quiet_handle h input.event)
  · exact h

/-- It is read-only from the start. -/
theorem readOnly_withConfig (config : CliConfig) (hostname addr : String)
    (containerEngine clusterEngine : Bool) :
    ReadOnly (withConfig { config with connectionMode := .remote hostname addr }
      containerEngine clusterEngine) where
  remote := rfl
  confirm := rfl
  performed := rfl
  offers c score hmem := by
    rintro rfl
    cases PaletteState.new_offers hmem

/-- Whatever the keys, the mouse, the palette and the snapshots, and even with engines attached, the
interface to a remote host never asks for a confirmation and never does anything to the host. -/
theorem remote_performs_nothing (config : CliConfig) (hostname addr : String)
    (containerEngine clusterEngine : Bool) (inputs : List Input) :
    let start := withConfig { config with connectionMode := .remote hostname addr }
      containerEngine clusterEngine
    let s := Runs.run (step lib) start inputs
    s.confirm = none ∧ s.performed = [] := by
  have hend : ReadOnly (Runs.run (step lib) _ inputs) :=
    Runs.run_invariant (I := ReadOnly) (fun _ input h => readOnly_step h input) inputs
      (readOnly_withConfig config hostname addr containerEngine clusterEngine)
  exact ⟨hend.confirm, hend.performed⟩

end AppState

end Muxtop.Tui
