import Muxtop.Foundation.Runs
import Muxtop.Tui.App
import Muxtop.Tui.PaletteLists
import Muxtop.Tui.ReadOnly

/-!
# Runs of the palette

What happens to the palette between two commands: it is opened, it gets keys, it is closed. Each refilter
has a list of excluded commands and a tab of its own. A run of the interface is such a run: each input
causes the events that `paletteEvents` names (`shows_step`), and executes what they execute.
-/

namespace Muxtop.Tui

open PaletteState

/-- What reaches the palette. A refilter that follows leaves out the excluded commands. -/
inductive PaletteEvent
  | opened (excluded : List Command) (tab : Option Tab)
  | key (key : KeyEvent) (excluded : List Command) (tab : Option Tab)
  | closed

/-- A palette over time. -/
structure PaletteSession where
  palette : PaletteState := .new
  /-- What the last refilter left out, while the palette is open. -/
  excluded : Option (List Command) := none
  /-- The commands executed so far, the last one first. No code reads it. -/
  executed : List Command := []

namespace PaletteSession

variable (lib : Lib)

def refiltered (s : PaletteSession) (palette : PaletteState) (excluded : List Command)
    (tab : Option Tab) : PaletteSession :=
  { s with palette := palette.refilterCtx lib excluded tab, excluded := some excluded }

/-- What closing an overlay leaves of the palette. -/
def close (s : PaletteSession) : PaletteSession :=
  { s with palette := { s.palette with input := "", selected := 0, arg := none }, excluded := none }

/-- What a key does to the palette while it is open. -/
def press (s : PaletteSession) (key : KeyEvent) (excluded : List Command) (tab : Option Tab) :
    PaletteSession :=
  match key.code with
  | .esc => s.close
  | .enter =>
    match s.palette.filtered[s.palette.selected]? with
    | some (cmd, _) =>
      { s with palette := s.palette.remember cmd, executed := cmd :: s.executed }.close
    | none => s
  | .down =>
    { s with palette := { s.palette with
        selected := clampSelection (s.palette.selected + 1) s.palette.filtered.length } }
  | .up => { s with palette := { s.palette with selected := s.palette.selected - 1 } }
  | .backspace => s.refiltered lib { s.palette with input := Text.pop s.palette.input } excluded tab
  | .char c =>
    if key.modifiers.control then if c = 'p' ∨ c = 'k' then s.close else s
    else if s.palette.input.utf8ByteSize < AppState.maxFilterLen then
      s.refiltered lib { s.palette with input := s.palette.input.push c } excluded tab
    else s
  | _ => s

/-- Keys go elsewhere while the palette is closed. -/
def step (s : PaletteSession) : PaletteEvent → PaletteSession
  | .opened excluded tab =>
    s.refiltered lib { s.palette with input := "", selected := 0 } excluded tab
  | .key key excluded tab => if s.excluded.isSome then s.press lib key excluded tab else s
  | .closed => s.close

/-- The list goes with the query, and the history with what was executed. -/
structure InOrder (s : PaletteSession) : Prop where
  few : s.palette.history.length ≤ 5
  distinct : s.palette.history.Nodup
  recentFirst : s.palette.history = s.executed.eraseDups.take 5
  consistent : ∀ excluded, s.excluded = some excluded → Consistent lib excluded s.palette

variable {lib} {s : PaletteSession} {excluded : List Command} {tab : Option Tab}

/-- The bounds on the history follow from what it is: the last five distinct commands. -/
theorem inOrder_of_history (hrecent : s.palette.history = s.executed.eraseDups.take 5)
    (hconsistent : ∀ excluded, s.excluded = some excluded → Consistent lib excluded s.palette) :
    InOrder lib s where
  few := by
    rw [hrecent]
    exact List.length_take_le 5 _
  distinct := by
    rw [hrecent]
    exact (RecentlyUsed.nodup_eraseDups _).sublist (List.take_sublist 5 _)
  recentFirst := hrecent
  consistent := hconsistent

/-- A new query changes the list, not the history. -/
theorem refilterCtx_history (p : PaletteState) :
    (p.refilterCtx lib excluded tab).history = p.history := by
  rw [refilterCtx]
  split <;> rfl

/-! ## Steps -/

/-- A refilter over any change but one of the history. -/
theorem InOrder.refiltered (h : InOrder lib s) {p : PaletteState} (hp : p.history = s.palette.history)
    (excluded : List Command) (tab : Option Tab) : InOrder lib (s.refiltered lib p excluded tab) := by
  refine inOrder_of_history ?_ ?_
  · exact (refilterCtx_history p).trans (hp.trans h.recentFirst)
  · intro excluded' heq
    cases heq
    exact consistent_refilterCtx (hp ▸ h.distinct) (hp ▸ h.few) excluded tab

/-- A closed palette has no list to keep. -/
theorem InOrder.close (h : InOrder lib s) : InOrder lib s.close :=
  inOrder_of_history h.recentFirst fun _ hnone => by cases hnone

/-- The highlight moves within the list. -/
theorem InOrder.select (h : InOrder lib s) {selected : ℕ}
    (hselected : selected < s.palette.filtered.length ∨ s.palette.filtered = [] ∧ selected = 0) :
    InOrder lib { s with palette := { s.palette with selected } } :=
  inOrder_of_history h.recentFirst fun excluded heq => (h.consistent excluded heq).select hselected

/-- A command that is executed comes first in the history. -/
theorem InOrder.execute (h : InOrder lib s) (cmd : Command) :
    InOrder lib { s with palette := s.palette.remember cmd, executed := cmd :: s.executed }.close := by
  refine inOrder_of_history ?_ fun _ hnone => by cases hnone
  change RecentlyUsed.touch 5 cmd s.palette.history = _
  rw [h.recentFirst]
  exact RecentlyUsed.touch_eraseDups 5 cmd s.executed

/-- A key of an open palette. -/
theorem inOrder_press (h : InOrder lib s) (hopen : s.excluded.isSome = true) (key : KeyEvent)
    (excluded : List Command) (tab : Option Tab) : InOrder lib (s.press lib key excluded tab) := by
  obtain ⟨current, hcurrent⟩ := Option.isSome_iff_exists.1 hopen
  have hselected := (h.consistent current hcurrent).selected
  rw [press]
  split
  case h_1 => exact h.close
  case h_2 =>
    split
    · exact h.execute _
    · exact h
  case h_3 => exact h.select (selected_clamped _ _)
  case h_4 =>
    refine h.select (hselected.imp (fun hlt => ?_) fun hnone => ⟨hnone.1, ?_⟩)
    · exact Nat.lt_of_le_of_lt (Nat.sub_le _ _) hlt
    · rw [hnone.2]
  case h_5 =>
    refine h.refiltered ?_ excluded tab
    rfl
  case h_6 =>
    split_ifs
    · exact h.close
    · exact h
    · refine h.refiltered ?_ excluded tab
      rfl
    · exact h
  case h_7 => exact h

/-- An event, at whichever palette. -/
theorem inOrder_step (h : InOrder lib s) (event : PaletteEvent) : InOrder lib (s.step lib event) := by
  cases event
  case opened excluded tab =>
    refine h.refiltered ?_ excluded tab
    rfl
  case closed => exact h.close
  case key key excluded tab =>
    rw [step]
    split
    case isTrue hopen => exact inOrder_press h hopen key excluded tab
    case isFalse => exact h

/-- Before anything is executed the history is empty. -/
theorem inOrder_new : InOrder lib {} :=
  inOrder_of_history rfl fun _ hnone => by cases hnone

/-! ## Runs -/

/-- However the palette is opened, typed into, moved in, executed from and closed, its list goes with the
query after every event, and its history holds the last five commands. -/
theorem run_inOrder (lib : Lib) (events : List PaletteEvent) :
    InOrder lib (Runs.run (step lib) {} events) :=
  Runs.run_invariant (I := InOrder lib) (fun _ event h => inOrder_step h event) events inOrder_new

/-- What Enter executes was not left out, and a verb comes with its argument. -/
theorem InOrder.executes (h : InOrder lib s) (hopen : s.excluded = some excluded) {cmd : Command}
    {score : Option UInt16} (hrow : s.palette.filtered[s.palette.selected]? = some (cmd, score)) :
    cmd ∉ excluded ∧ (cmd.isVerbOnly = true →
      ∃ arg, s.palette.arg = some arg ∧ TypedForm lib s.palette.input cmd arg) := by
  have hconsistent := h.consistent excluded hopen
  have hmem : cmd ∈ s.palette.offered := List.mem_map_of_mem (List.mem_of_getElem? hrow)
  have hallowed := hconsistent.allowed cmd hmem
  refine ⟨hallowed, fun hverb => ?_⟩
  obtain ⟨-, arg, htyped⟩ := hconsistent.verbOnly cmd hmem hverb
  exact ⟨arg, (hconsistent.arg arg).2 ⟨cmd, hallowed, htyped⟩, htyped⟩

end PaletteSession

/-! ## The interface -/

/-- Whether keys go to the palette, or to the command line, which is the same. -/
def AppState.paletteOpen (s : AppState) : Bool := s.overlay = .palette ∨ s.overlay = .command

/-- A closed palette keeps its list and its history, and nothing that was typed. -/
structure PaletteState.Blank (p : PaletteState) : Prop where
  input : p.input = ""
  selected : p.selected = 0
  arg : p.arg = none

/-- The interface has this palette. -/
structure Shows (session : PaletteSession) (s : AppState) : Prop where
  palette : s.palette = session.palette
  excluded : session.excluded = if s.paletteOpen then some s.excludedCommands else none
  blank : s.paletteOpen = false → s.palette.Blank

/-- Neither the palette nor the list to leave out changes, nor whether it is open. -/
structure LeavesPalette (s s' : AppState) : Prop where
  palette : s'.palette = s.palette
  isOpen : s'.paletteOpen = s.paletteOpen
  mode : s'.connectionMode = s.connectionMode

/-- A closed palette is opened over the whole list. -/
structure OpensPalette (lib : Lib) (s s' : AppState) : Prop where
  closed : s.paletteOpen = false
  palette : s'.palette =
    PaletteState.refilterCtx lib { s.palette with input := "", selected := 0 } s.excludedCommands (some s.tab)
  isOpen : s'.paletteOpen = true
  mode : s'.connectionMode = s.connectionMode

/-- Nothing changes. -/
theorem leavesPalette_refl (s : AppState) : LeavesPalette s s := ⟨rfl, rfl, rfl⟩

variable {lib : Lib} {w : World} {s s' s'' : AppState}

/-- One step after another. -/
theorem LeavesPalette.trans (h : LeavesPalette s s') (h' : LeavesPalette s' s'') : LeavesPalette s s'' :=
  ⟨h'.palette.trans h.palette, h'.isOpen.trans h.isOpen, h'.mode.trans h.mode⟩

/-- A palette is shown as before where nothing touches it. -/
theorem Shows.leaves {session : PaletteSession} (h : Shows session s) (hleaves : LeavesPalette s s') :
    Shows session s' where
  palette := hleaves.palette.trans h.palette
  excluded := by
    rw [hleaves.isOpen, AppState.excludedCommands_congr hleaves.mode]
    exact h.excluded
  blank hclosed := by
    rw [hleaves.palette]
    exact h.blank (hleaves.isOpen.symm.trans hclosed)

/-- To open it is the event of its opening. -/
theorem Shows.opens {session : PaletteSession} (h : Shows session s) (hopens : OpensPalette lib s s') :
    Shows (session.step lib (.opened s.excludedCommands (some s.tab))) s' where
  palette := by
    rw [hopens.palette, h.palette]
    rfl
  excluded := by
    rw [hopens.isOpen, AppState.excludedCommands_congr hopens.mode, if_pos rfl]
    rfl
  blank hclosed := by
    rw [hopens.isOpen] at hclosed
    cases hclosed

/-- What becomes of an open palette does not close it. -/
theorem shows_open {session : PaletteSession} (hpalette : s'.palette = session.palette)
    (hopen : s'.paletteOpen = true) (hexcluded : session.excluded = some s'.excludedCommands) :
    Shows session s' where
  palette := hpalette
  excluded := by rw [hexcluded, hopen, if_pos rfl]
  blank hclosed := by
    rw [hopen] at hclosed
    cases hclosed

namespace AppState

/-- The key that an input gives to the palette. -/
def paletteKey (s : AppState) (input : Input) : Option KeyEvent :=
  match input.event with
  | .key key =>
    if s.running ∧ ¬ (key.code = .char 'c' ∧ key.modifiers.control) ∧ s.confirm.isSome = false ∧
        s.paletteOpen then
      some key
    else none
  | _ => none

/-- What an input does to the palette: it gives it a key, or it opens it. -/
def paletteEvents (lib : Lib) (s : AppState) (input : Input) : List PaletteEvent :=
  match s.paletteKey input with
  | some key => [.key key s.excludedCommands (some s.tab)]
  | none =>
    if s.paletteOpen = false ∧ (s.step lib input).paletteOpen then
      [.opened s.excludedCommands (some s.tab)]
    else []

/-- The command that an input executes from the palette: the selected one, when the key is Enter. -/
def executedBy (s : AppState) (input : Input) : Option Command :=
  match s.paletteKey input with
  | some key =>
    if key.code = .enter then (s.palette.filtered[s.palette.selected]?).map (·.1) else none
  | none => none

/-! ### What leaves the palette alone -/

/-- A message stands beside the palette. -/
theorem leavesPalette_notify (level : Level) (msg : String) : LeavesPalette s (s.notify w level msg) :=
  ⟨rfl, rfl, rfl⟩

/-- So do the tables. -/
theorem leavesPalette_mapViews (f : Views → Views) : LeavesPalette s (s.mapViews f) := ⟨rfl, rfl, rfl⟩

/-- What is copied goes to the clipboard and into a message. -/
theorem leavesPalette_copySelection : LeavesPalette s (s.copySelection lib w) := by
  unfold copySelection
  split
  · apply leavesPalette_notify
  · split <;> apply leavesPalette_notify

/-- A request puts up a dialog, or a message. -/
theorem leavesPalette_requestKill (signal : Signal) : LeavesPalette s (s.requestKill w signal) := by
  unfold requestKill
  split <;> exact ⟨rfl, rfl, rfl⟩

/-- The same of a new priority. -/
theorem leavesPalette_requestRenice (delta : ℤ) : LeavesPalette s (s.requestRenice w delta) := by
  unfold requestRenice
  split <;> exact ⟨rfl, rfl, rfl⟩

/-- The same of a container. -/
theorem leavesPalette_requestContainerAction (build : String → String → ConfirmAction) :
    LeavesPalette s (s.requestContainerAction w build) := by
  unfold requestContainerAction
  split_ifs
  · apply leavesPalette_notify
  · split <;> exact ⟨rfl, rfl, rfl⟩

/-- The toggle is a call and a move of the highlight on the tab. -/
theorem leavesPalette_toggleKubeScope : LeavesPalette s (s.toggleKubeScope w) := by
  unfold toggleKubeScope
  split_ifs <;> exact ⟨rfl, rfl, rfl⟩

/-- A refresh resumes the view, or says when the next tick is. -/
theorem leavesPalette_refresh : LeavesPalette s (s.refresh w) := by
  unfold refresh
  split_ifs <;> exact ⟨rfl, rfl, rfl⟩

/-- A process is named in the dialog. -/
theorem leavesPalette_killNamed (needle : String) : LeavesPalette s (s.killNamed lib w needle) := by
  unfold killNamed
  dsimp only
  split
  · apply leavesPalette_notify
  · split_ifs <;> exact ⟨rfl, rfl, rfl⟩

/-- A container is named in the dialog. -/
theorem leavesPalette_containerNamed (needle : String) (build : String → String → ConfirmAction) :
    LeavesPalette s (s.containerNamed lib w needle build) := by
  unfold containerNamed
  split_ifs
  · apply leavesPalette_notify
  · dsimp only
    split <;> exact ⟨rfl, rfl, rfl⟩

/-- A column is sorted by. -/
theorem leavesPalette_sortByName (field : String) : LeavesPalette s (s.sortByName lib w field) := by
  unfold sortByName
  dsimp only
  split <;> exact ⟨rfl, rfl, rfl⟩

/-- A theme is set. -/
theorem leavesPalette_setTheme (name : String) : LeavesPalette s (s.setTheme lib w name) := by
  unfold setTheme
  split <;> exact ⟨rfl, rfl, rfl⟩

/-- A tab is gone to. -/
theorem leavesPalette_goToTabNamed (name : String) : LeavesPalette s (s.goToTabNamed lib w name) := by
  unfold goToTabNamed
  dsimp only
  split <;> exact ⟨rfl, rfl, rfl⟩

/-- What is confirmed is a call and a message. -/
theorem leavesPalette_executeConfirm (action : ConfirmAction) :
    LeavesPalette s (s.executeConfirm w action) := by
  cases action
  case kill pid name signal =>
    unfold executeConfirm
    dsimp only
    split <;> exact ⟨rfl, rfl, rfl⟩
  case renice pid name delta =>
    unfold executeConfirm
    dsimp only
    split <;> exact ⟨rfl, rfl, rfl⟩
  all_goals
    unfold executeConfirm executeContainerAction
    split_ifs <;> exact ⟨rfl, rfl, rfl⟩

/-- The confirm dialog has the keyboard before the palette has, and leaves it as it is. -/
theorem leavesPalette_handleConfirmKey (key : KeyEvent) : LeavesPalette s (s.handleConfirmKey w key) := by
  have hanswered : LeavesPalette s { s with confirm := none } := ⟨rfl, rfl, rfl⟩
  unfold handleConfirmKey
  split
  all_goals first
    | exact ⟨rfl, rfl, rfl⟩
    | split
      · exact hanswered.trans (leavesPalette_executeConfirm _)
      · exact ⟨rfl, rfl, rfl⟩

/-! ### While the palette is closed -/

section Closed

variable (hclosed : s.paletteOpen = false)

include hclosed

/-- To close another overlay is nothing to a palette that is blank. -/
theorem leavesPalette_closeOverlay (hblank : s.palette.Blank) : LeavesPalette s s.closeOverlay where
  palette := by
    show { s.palette with input := "", selected := 0, arg := none } = s.palette
    rw [← hblank.input, ← hblank.selected, ← hblank.arg]
  isOpen := hclosed.symm
  mode := rfl

/-- Closing an overlay clears the palette, which is clear already while it is closed. -/
theorem leavesPalette_goBack (hblank : s.palette.Blank) : LeavesPalette s (s.goBack lib w) := by
  unfold goBack
  split_ifs
  · exact leavesPalette_closeOverlay hclosed hblank
  · exact ⟨rfl, rfl, rfl⟩
  · apply leavesPalette_mapViews
  · apply leavesPalette_mapViews
  · exact leavesPalette_refl s

/-- The inspector is another overlay. -/
theorem leavesPalette_openInspector : LeavesPalette s (s.openInspector lib w) := by
  unfold openInspector
  split_ifs
  · apply leavesPalette_notify
  · exact ⟨rfl, hclosed.symm, rfl⟩

/-- So is the menu of actions. -/
theorem leavesPalette_openActionsMenu : LeavesPalette s (s.openActionsMenu w) := by
  unfold openActionsMenu
  split_ifs
  · apply leavesPalette_notify
  · exact ⟨rfl, hclosed.symm, rfl⟩

/-- An action leaves a closed palette alone, unless it is one of the two that open it. -/
theorem leavesPalette_dispatch (hblank : s.palette.Blank) {action : Action} (hpalette : action ≠ .palette)
    (hcommand : action ≠ .commandMode) : LeavesPalette s (s.dispatch lib w action) := by
  unfold dispatch
  split_ifs
  · apply leavesPalette_notify
  · cases action
    case palette => exact absurd rfl hpalette
    case commandMode => exact absurd rfl hcommand
    case help => exact ⟨rfl, hclosed.symm, rfl⟩
    case toggleLog => exact ⟨rfl, hclosed.symm, rfl⟩
    case openInspector => exact leavesPalette_openInspector hclosed
    case actionsMenu => exact leavesPalette_openActionsMenu hclosed
    case back => exact leavesPalette_goBack hclosed hblank
    case refresh => exact leavesPalette_refresh
    case copySelection => exact leavesPalette_copySelection
    case renice => exact leavesPalette_requestRenice _
    case kill => exact leavesPalette_requestKill _
    case containerStop => exact leavesPalette_requestContainerAction _
    case containerKill => exact leavesPalette_requestContainerAction _
    case containerRestart => exact leavesPalette_requestContainerAction _
    case toggleKubeScope => exact leavesPalette_toggleKubeScope
    -- the rest change what the tables show
    all_goals exact ⟨rfl, rfl, rfl⟩

/-- The two actions that open it do so over the whole list. -/
theorem opensPalette_dispatch {action : Action} (h : action = .palette ∨ action = .commandMode) :
    OpensPalette lib s (s.dispatch lib w action) := by
  rcases h with rfl | rfl <;> exact ⟨hclosed, rfl, rfl, rfl⟩

/-- Two actions open the palette, and no other touches it. -/
theorem palette_dispatch (hblank : s.palette.Blank) (action : Action) :
    LeavesPalette s (s.dispatch lib w action) ∨ OpensPalette lib s (s.dispatch lib w action) := by
  by_cases h : action = .palette ∨ action = .commandMode
  · exact .inr (opensPalette_dispatch hclosed h)
  · exact .inl (leavesPalette_dispatch hclosed hblank (fun hp => h (.inl hp)) fun hc => h (.inr hc))

/-- No command opens the palette. -/
theorem leavesPalette_executeCommand (hblank : s.palette.Blank) (cmd : Command) :
    LeavesPalette s (s.executeCommand lib w cmd) := by
  unfold executeCommand
  split_ifs
  · apply leavesPalette_notify
  · cases cmd
    case quit => exact leavesPalette_dispatch hclosed hblank nofun nofun
    case togglePause => exact leavesPalette_dispatch hclosed hblank nofun nofun
    case refreshNow => exact leavesPalette_dispatch hclosed hblank nofun nofun
    case inspectRow => exact leavesPalette_dispatch hclosed hblank nofun nofun
    case toggleTreeView =>
      have hthere : (s.mapViews (·.goToTab .processes)).paletteOpen = false := hclosed
      exact (leavesPalette_mapViews _).trans (leavesPalette_dispatch hthere hblank nofun nofun)
    case copyRowId => exact leavesPalette_copySelection
    case killProcess => exact leavesPalette_requestKill _
    case forceKillProcess => exact leavesPalette_requestKill _
    case niceDown => exact leavesPalette_requestRenice _
    case niceUp => exact leavesPalette_requestRenice _
    case stopContainer => exact leavesPalette_requestContainerAction _
    case killContainer => exact leavesPalette_requestContainerAction _
    case restartContainer => exact leavesPalette_requestContainerAction _
    case kubeToggleScope => exact (leavesPalette_mapViews _).trans leavesPalette_toggleKubeScope
    case showHelp => exact ⟨rfl, hclosed.symm, rfl⟩
    case showLog => exact ⟨rfl, hclosed.symm, rfl⟩
    -- the rest change what the tables show, or print how they are used
    all_goals exact ⟨rfl, rfl, rfl⟩

/-- No command opens the palette. -/
theorem leavesPalette_executeInvocation (hblank : s.palette.Blank) (cmd : Command) (arg : Option String) :
    LeavesPalette s (s.executeInvocation lib w cmd arg) := by
  unfold executeInvocation
  split
  case h_1 => apply leavesPalette_killNamed
  case h_2 => apply leavesPalette_containerNamed
  case h_3 => apply leavesPalette_containerNamed
  case h_4 => apply leavesPalette_sortByName
  case h_5 => apply leavesPalette_mapViews
  case h_6 => apply leavesPalette_setTheme
  case h_7 => apply leavesPalette_goToTabNamed
  case h_8 =>
    split_ifs
    · apply leavesPalette_notify
    · exact leavesPalette_executeCommand hclosed hblank _

/-- The other overlays at most close themselves. -/
theorem leavesPalette_handleScrollableOverlayKey (hblank : s.palette.Blank) (key : KeyEvent) :
    LeavesPalette s (s.handleScrollableOverlayKey lib w key) := by
  have hleaves := leavesPalette_closeOverlay hclosed hblank
  unfold handleScrollableOverlayKey
  dsimp only
  split
  all_goals first
    | exact hleaves
    | exact ⟨rfl, rfl, rfl⟩
    | split_ifs
      · first | exact hleaves | exact leavesPalette_copySelection
      · exact ⟨rfl, rfl, rfl⟩

/-- From the menu the palette is opened as it is by its key. -/
theorem palette_handleActionsKey (hblank : s.palette.Blank) (key : KeyEvent) :
    LeavesPalette s (s.handleActionsKey lib w key) ∨ OpensPalette lib s (s.handleActionsKey lib w key) := by
  have hleaves := leavesPalette_closeOverlay hclosed hblank
  unfold handleActionsKey
  split
  case h_1 => exact .inl hleaves
  case h_2 => exact .inl hleaves
  case h_7 =>
    split
    case h_2 => exact .inl (leavesPalette_refl s)
    case h_1 action _ =>
      have hshut : s.closeOverlay.palette.Blank := ⟨rfl, rfl, rfl⟩
      rcases @palette_dispatch lib w s.closeOverlay rfl hshut action with hnone | hopens
      · exact .inl (hleaves.trans hnone)
      · exact .inr ⟨hclosed, hopens.palette, hopens.isOpen, hopens.mode⟩
  all_goals exact .inl ⟨rfl, rfl, rfl⟩

/-- A key that something else has leaves the palette closed or opens it. -/
theorem palette_routeKey (hblank : s.palette.Blank) (key : KeyEvent) :
    LeavesPalette s (s.routeKey lib w key) ∨ OpensPalette lib s (s.routeKey lib w key) := by
  unfold routeKey
  split
  · exact .inl (leavesPalette_handleConfirmKey key)
  · split
    case h_1 hoverlay => simp [paletteOpen, hoverlay] at hclosed
    case h_2 hoverlay => simp [paletteOpen, hoverlay] at hclosed
    case h_3 => exact .inl (leavesPalette_handleScrollableOverlayKey hclosed hblank key)
    case h_4 => exact .inl (leavesPalette_handleScrollableOverlayKey hclosed hblank key)
    case h_5 => exact .inl (leavesPalette_handleScrollableOverlayKey hclosed hblank key)
    case h_6 => exact palette_handleActionsKey hclosed hblank key
    case h_7 =>
      split_ifs
      · exact .inl (leavesPalette_mapViews _)
      · unfold handleBoundKey
        split
        · exact palette_dispatch hclosed hblank _
        · exact .inl (leavesPalette_refl s)

end Closed

/-! ### Inputs -/

/-- An input that is no key leaves the palette alone. -/
theorem leavesPalette_handle {e : Event} (h : ∀ key, e ≠ .key key) : LeavesPalette s (s.handle lib w e) := by
  cases e
  case key key => exact absurd rfl (h key)
  case tick => exact ⟨rfl, rfl, rfl⟩
  case mouse kind =>
    change LeavesPalette s (s.handleMouseEvent lib kind)
    unfold handleMouseEvent
    split_ifs <;> cases kind <;> exact ⟨rfl, rfl, rfl⟩
  case resize => exact leavesPalette_refl s
  case snapshot snapshot =>
    change LeavesPalette s (s.applySnapshot lib snapshot)
    unfold applySnapshot
    split_ifs
    · exact leavesPalette_refl s
    · apply leavesPalette_mapViews
  case outcome => apply leavesPalette_notify

/-- An input that gives the palette no key leaves it alone or opens it. -/
theorem palette_step {input : Input} (hkey : s.paletteKey input = none)
    (hblank : s.paletteOpen = false → s.palette.Blank) :
    LeavesPalette s (s.step lib input) ∨ OpensPalette lib s (s.step lib input) := by
  obtain ⟨w, e⟩ := input
  unfold step
  split
  case isFalse => exact .inl (leavesPalette_refl s)
  case isTrue hrunning =>
    cases e
    case key key =>
      change LeavesPalette s (s.handleKeyEvent lib w key) ∨ OpensPalette lib s (s.handleKeyEvent lib w key)
      unfold handleKeyEvent
      dsimp only
      split_ifs with hquit
      · exact .inl ⟨rfl, rfl, rfl⟩
      · cases hopen : s.paletteOpen
        case false =>
          -- the toasts are no part of the palette
          rcases @palette_routeKey lib w (s.expireToasts w) hopen (hblank hopen) key with
            hleaves | hopens
          · exact .inl ⟨hleaves.palette, hleaves.isOpen, hleaves.mode⟩
          · exact .inr ⟨hopen, hopens.palette, hopens.isOpen, hopens.mode⟩
        case true =>
          -- the dialog has the key, or the palette would
          have hconfirm : (s.expireToasts w).confirm.isSome = true := by
            have hnot := hkey
            unfold paletteKey at hnot
            dsimp only at hnot
            split_ifs at hnot with hall
            show s.confirm.isSome = true
            by_contra hnone
            exact hall ⟨hrunning, hquit, Bool.eq_false_of_not_eq_true hnone, hopen⟩
          have hroute : (s.expireToasts w).routeKey lib w key = (s.expireToasts w).handleConfirmKey w key :=
            if_pos hconfirm
          have hleaves : LeavesPalette (s.expireToasts w) ((s.expireToasts w).handleConfirmKey w key) :=
            leavesPalette_handleConfirmKey key
          rw [hroute]
          exact .inl ⟨hleaves.palette, hleaves.isOpen, hleaves.mode⟩
    all_goals exact .inl (leavesPalette_handle nofun)

/-! ### The palette of the interface -/

/-- Each key does to the palette of the interface what it does to a palette; a command that Enter executes
leaves it closed. -/
theorem shows_press {session : PaletteSession} (h : Shows session s) (hopen : s.paletteOpen = true)
    (key : KeyEvent) :
    Shows (session.press lib key s.excludedCommands (some s.tab)) (s.handlePaletteKey lib w key) := by
  have hexcluded : session.excluded = some s.excludedCommands := by rw [h.excluded, hopen, if_pos rfl]
  have hshut : Shows session.close s.closeOverlay := by
    refine ⟨?_, rfl, fun _ => ⟨rfl, rfl, rfl⟩⟩
    show { s.palette with input := "", selected := 0, arg := none } = _
    rw [h.palette]
    rfl
  obtain ⟨palette, excluded, executed⟩ := session
  obtain rfl : s.palette = palette := h.palette
  obtain ⟨code, modifiers⟩ := key
  cases code
  case esc => exact hshut
  case enter =>
    unfold handlePaletteKey PaletteSession.press
    dsimp only
    cases s.palette.filtered[s.palette.selected]? with
    | none => exact h
    | some row =>
      have hleft : Shows (PaletteSession.close
          { palette := s.palette.remember row.1, excluded := excluded, executed := row.1 :: executed })
          (s.leavePalette row.1) := ⟨rfl, rfl, fun _ => ⟨rfl, rfl, rfl⟩⟩
      exact hleft.leaves (leavesPalette_executeInvocation rfl ⟨rfl, rfl, rfl⟩ row.1 _)
  case down => exact shows_open rfl hopen hexcluded
  case up => exact shows_open rfl hopen hexcluded
  case backspace => exact shows_open rfl hopen rfl
  case char c =>
    unfold handlePaletteKey PaletteSession.press
    dsimp only
    split_ifs
    · exact hshut
    · exact h
    · exact shows_open rfl hopen rfl
    · exact h
  -- the other keys do nothing
  all_goals exact h

/-- What a key executes is the command selected, if the key is Enter. -/
theorem executed_press (session : PaletteSession) (key : KeyEvent) (excluded : List Command)
    (tab : Option Tab) :
    (session.press lib key excluded tab).executed =
      (if key.code = .enter then (session.palette.filtered[session.palette.selected]?).map (·.1)
        else none).toList ++ session.executed := by
  obtain ⟨code, modifiers⟩ := key
  cases code
  case enter =>
    unfold PaletteSession.press
    dsimp only
    rw [if_pos rfl]
    cases session.palette.filtered[session.palette.selected]? <;> rfl
  case char c =>
    have hchar : ¬ KeyCode.char c = .enter := nofun
    unfold PaletteSession.press
    dsimp only
    rw [if_neg hchar]
    split_ifs <;> rfl
  all_goals
    rw [if_neg nofun]
    rfl

/-- The palette has the key when it is open and no dialog is up. -/
theorem routeKey_of_open (hconfirm : s.confirm.isSome = false) (hopen : s.paletteOpen = true)
    (key : KeyEvent) : s.routeKey lib w key = s.handlePaletteKey lib w key := by
  unfold routeKey
  rw [if_neg (by rw [hconfirm]; exact Bool.false_ne_true)]
  cases hoverlay : s.overlay
  case palette | command => rfl
  all_goals
    unfold paletteOpen at hopen
    rw [hoverlay] at hopen
    cases hopen

/-- An input does to the palette of the interface what its events do to a palette, and executes what they
execute. -/
theorem shows_step {session : PaletteSession} (h : Shows session s) (input : Input) :
    Shows (Runs.run (PaletteSession.step lib) session (s.paletteEvents lib input)) (s.step lib input) ∧
      (Runs.run (PaletteSession.step lib) session (s.paletteEvents lib input)).executed =
        (s.executedBy input).toList ++ session.executed := by
  unfold paletteEvents executedBy
  -- A key that reaches the open palette is the session's `press`; any other input only opens or leaves it.
  cases hkey : s.paletteKey input with
  | some key =>
    obtain ⟨w, e⟩ := input
    unfold paletteKey at hkey
    split at hkey
    case h_2 => cases hkey
    case h_1 pressed hevent =>
      split_ifs at hkey with hgoes
      obtain ⟨hrunning, hquit, hconfirm, hopen⟩ := hgoes
      obtain rfl := Option.some.inj hkey
      subst hevent
      have hstep : s.step lib ⟨w, .key pressed⟩ = (s.expireToasts w).handlePaletteKey lib w pressed :=
        (if_pos hrunning).trans ((if_neg hquit).trans
          (routeKey_of_open (s := s.expireToasts w) hconfirm hopen pressed))
      have hpress : session.step lib (.key pressed s.excludedCommands (some s.tab)) =
          session.press lib pressed s.excludedCommands (some s.tab) := by
        refine if_pos ?_
        rw [h.excluded, hopen, if_pos rfl]
        rfl
      dsimp only
      rw [Runs.run_cons, Runs.run_nil, hstep, hpress, executed_press, h.palette]
      exact ⟨shows_press (s := s.expireToasts w) (h.leaves ⟨rfl, rfl, rfl⟩) hopen pressed, rfl⟩
  | none =>
    dsimp only
    rcases @palette_step lib s input hkey h.blank with hleaves | hopens
    · have hnone : ¬ (s.paletteOpen = false ∧ (s.step lib input).paletteOpen = true) := by
        rintro ⟨hclosed, hopened⟩
        rw [hleaves.isOpen, hclosed] at hopened
        cases hopened
      rw [if_neg hnone]
      exact ⟨h.leaves hleaves, rfl⟩
    · rw [if_pos ⟨hopens.closed, hopens.isOpen⟩]
      exact ⟨h.opens hopens, rfl⟩

/-! ### Runs -/

/-- The palette events of a run, in order. -/
def paletteTrace (lib : Lib) (s : AppState) (inputs : List Input) : List PaletteEvent :=
  Runs.trace (step lib) (paletteEvents lib) s inputs

/-- The commands that a run executes from the palette, in order. -/
def executedIn (lib : Lib) (s : AppState) (inputs : List Input) : List Command :=
  Runs.trace (step lib) (fun s input => (s.executedBy input).toList) s inputs

/-- Every run of the interface is the run of its palette through the events it causes. -/
theorem shows_run (lib : Lib) :
    (inputs : List Input) → {s : AppState} → {session : PaletteSession} → Shows session s →
      Shows (Runs.run (PaletteSession.step lib) session (s.paletteTrace lib inputs))
          (Runs.run (step lib) s inputs) ∧
        (Runs.run (PaletteSession.step lib) session (s.paletteTrace lib inputs)).executed =
          (s.executedIn lib inputs).reverse ++ session.executed
  | [], _, _, h => ⟨h, rfl⟩
  | input :: inputs, s, session, h => by
    obtain ⟨hshows, hexecuted⟩ := @shows_step lib s session h input
    obtain ⟨hrest, hlater⟩ := shows_run lib inputs hshows
    have htrace : s.paletteTrace lib (input :: inputs) =
        s.paletteEvents lib input ++ (s.step lib input).paletteTrace lib inputs := rfl
    have hlist : s.executedIn lib (input :: inputs) =
        (s.executedBy input).toList ++ (s.step lib input).executedIn lib inputs := rfl
    rw [htrace, Runs.run_append, hlater, hexecuted, hlist, List.reverse_append, List.append_assoc]
    refine ⟨hrest, ?_⟩
    cases s.executedBy input <;> rfl

/-- In every state of the interface the history holds the last five of the commands executed, the latest
first, and while its palette is open the list goes with the query. -/
theorem palette_of_run (lib : Lib) (config : CliConfig) (containerEngine clusterEngine : Bool)
    (inputs : List Input) :
    let start := withConfig config containerEngine clusterEngine
    let s := Runs.run (step lib) start inputs
    s.palette.history = (start.executedIn lib inputs).reverse.eraseDups.take 5 ∧
      s.palette.history.length ≤ 5 ∧ s.palette.history.Nodup ∧
      (s.paletteOpen = true → Consistent lib s.excludedCommands s.palette) := by
  intro start s
  have hstart : Shows {} start := ⟨rfl, rfl, fun _ => ⟨rfl, rfl, rfl⟩⟩
  obtain ⟨hshows, hexecuted⟩ := shows_run lib inputs hstart
  have hend : PaletteSession.InOrder lib
      (Runs.run (PaletteSession.step lib) {} (start.paletteTrace lib inputs)) :=
    Runs.run_invariant (I := PaletteSession.InOrder lib)
      (fun _ event h => PaletteSession.inOrder_step h event) _ PaletteSession.inOrder_new
  -- The session starts with an empty history, so nothing stands behind what was executed.
  have hrecent := hend.recentFirst
  rw [hexecuted, ← hshows.palette, List.append_nil] at hrecent
  refine ⟨hrecent, ?_, ?_, fun hopen => ?_⟩
  · rw [hshows.palette]
    exact hend.few
  · rw [hshows.palette]
    exact hend.distinct
  · rw [hshows.palette]
    refine hend.consistent _ ?_
    rw [hshows.excluded]
    exact if_pos hopen

end AppState

end Muxtop.Tui
