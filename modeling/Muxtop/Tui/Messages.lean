import Muxtop.Foundation.Runs
import Muxtop.Tui.App
import Muxtop.Tui.NotifierRuns

/-!
# The messages of a run

Reference: `notify`, `status_message_just_expired` and `go_back` of `muxtop-tui/src/app.rs`, and
`muxtop-tui/src/notify.rs`.

Whatever the interface does with its messages in one turn, it does by dropping first what has expired, if
it does so at all, and then by posting and dismissing. So the log has in it what is on screen, for as long
as the clock does not go back.
-/

namespace Muxtop.Tui

open Muxtop.Core

/-- A handler posts and dismisses, at the time it is called. -/
def Noted (w : World) (s s' : AppState) : Prop :=
  ∃ ops : List Notifier.Op, s'.notifier = ops.foldl (Notifier.apply w.now) s.notifier

variable {lib : Lib} {w : World} {s s' s'' : AppState}

/-- What is done to a state with the same messages. -/
theorem Noted.of_same (hsame : s'.notifier = s.notifier) (h : Noted w s' s'') : Noted w s s'' := by
  obtain ⟨ops, hops⟩ := h
  exact ⟨ops, by rw [hops, hsame]⟩

namespace AppState

/-- A handler that leaves the messages alone does nothing to them. -/
theorem noted_same (h : s'.notifier = s.notifier) : Noted w s s' := ⟨[], h⟩

/-- A notification is posted. -/
theorem noted_notify (level : Level) (msg : String) : Noted w s (s.notify w level msg) :=
  ⟨[.post level msg], rfl⟩

/-- A message posted after other changes. -/
theorem noted_then_notify (hsame : s'.notifier = s.notifier) (level : Level) (msg : String) :
    Noted w s (s'.notify w level msg) :=
  .of_same hsame (noted_notify level msg)

/-! ## Actions -/

/-- Copying posts what was copied, or why nothing was. -/
theorem noted_copySelection : Noted w s (s.copySelection lib w) := by
  unfold copySelection
  split
  · apply noted_notify
  · split <;> apply noted_notify

/-- A step back dismisses the messages on screen, if no overlay stands in front of them. -/
theorem noted_goBack : Noted w s (s.goBack lib w) := by
  unfold goBack
  split_ifs
  · exact noted_same rfl
  · exact ⟨[.dismiss], rfl⟩
  · exact noted_same rfl
  · exact noted_same rfl
  · exact noted_same rfl

/-- A refresh posts that the view is running again, or that it takes until the next tick. -/
theorem noted_refresh : Noted w s (s.refresh w) := by
  unfold refresh
  split_ifs
  · exact noted_then_notify rfl _ _
  · apply noted_notify

/-- The inspector posts only that there is nothing to inspect. -/
theorem noted_openInspector : Noted w s (s.openInspector lib w) := by
  unfold openInspector
  split_ifs
  · apply noted_notify
  · exact noted_same rfl

/-- The menu posts only that the tab has no actions. -/
theorem noted_openActionsMenu : Noted w s (s.openActionsMenu w) := by
  unfold openActionsMenu
  split_ifs
  · apply noted_notify
  · exact noted_same rfl

/-- A dialog comes up without a message; one is posted when no process is selected. -/
theorem noted_requestKill (signal : Signal) : Noted w s (s.requestKill w signal) := by
  unfold requestKill
  split
  · exact noted_same rfl
  · apply noted_notify

/-- The same of a new priority. -/
theorem noted_requestRenice (delta : ℤ) : Noted w s (s.requestRenice w delta) := by
  unfold requestRenice
  split
  · exact noted_same rfl
  · apply noted_notify

/-- The same of a container, where the message says that the view is remote. -/
theorem noted_requestContainerAction (build : String → String → ConfirmAction) :
    Noted w s (s.requestContainerAction w build) := by
  unfold requestContainerAction
  split_ifs
  · apply noted_notify
  · split <;> exact noted_same rfl

/-- The toggle posts only that it is not to be had here. -/
theorem noted_toggleKubeScope : Noted w s (s.toggleKubeScope w) := by
  unfold toggleKubeScope
  split_ifs
  · exact noted_same rfl
  · apply noted_notify

/-- Any action: the messages are those of the handlers above. -/
theorem noted_runAction (action : Action) : Noted w s (s.runAction lib w action) := by
  cases action
  case togglePause => exact noted_then_notify rfl _ _
  case refresh => exact noted_refresh
  case openInspector => exact noted_openInspector
  case actionsMenu => exact noted_openActionsMenu
  case copySelection => exact noted_copySelection
  case back => exact noted_goBack
  case renice delta => exact noted_requestRenice delta
  case kill signal => exact noted_requestKill signal
  case containerStop => apply noted_requestContainerAction
  case containerKill => apply noted_requestContainerAction
  case containerRestart => apply noted_requestContainerAction
  case toggleKubeScope => exact noted_toggleKubeScope
  -- the rest open an overlay or change what the tables show
  all_goals exact noted_same rfl

/-- An action that remote mode refuses posts that it is refused. -/
theorem noted_dispatch (action : Action) : Noted w s (s.dispatch lib w action) := by
  unfold dispatch
  split_ifs
  · apply noted_notify
  · exact noted_runAction action

/-! ## Commands -/

/-- `kill` posts that no process matches, or that the busiest of several is meant. -/
theorem noted_killNamed (needle : String) : Noted w s (s.killNamed lib w needle) := by
  unfold killNamed
  dsimp only
  split
  · apply noted_notify
  · split_ifs
    · exact ⟨[.post _ _], rfl⟩
    · exact noted_same rfl

/-- `stop` and `restart` post that no container matches, or that the view is remote. -/
theorem noted_containerNamed (needle : String) (build : String → String → ConfirmAction) :
    Noted w s (s.containerNamed lib w needle build) := by
  unfold containerNamed
  split_ifs
  · apply noted_notify
  · dsimp only
    split
    · exact noted_same rfl
    · apply noted_notify

/-- `sort` posts the column, or that there is no such column. -/
theorem noted_sortByName (field : String) : Noted w s (s.sortByName lib w field) := by
  unfold sortByName
  dsimp only
  split
  · exact noted_then_notify rfl _ _
  · apply noted_notify

/-- `theme` posts the theme, or that there is no such theme. -/
theorem noted_setTheme (name : String) : Noted w s (s.setTheme lib w name) := by
  unfold setTheme
  split
  · exact noted_then_notify rfl _ _
  · apply noted_notify

/-- `tab` posts only that there is no such tab. -/
theorem noted_goToTabNamed (name : String) : Noted w s (s.goToTabNamed lib w name) := by
  unfold goToTabNamed
  dsimp only
  split
  · exact noted_same rfl
  · apply noted_notify

/-- Any command without an argument: a verb that lacks one posts its usage. -/
theorem noted_runCommand (cmd : Command) : Noted w s (s.runCommand lib w cmd) := by
  cases cmd
  case quit => exact noted_dispatch _
  case togglePause => exact noted_dispatch _
  case refreshNow => exact noted_dispatch _
  case inspectRow => exact noted_dispatch _
  case toggleTreeView => exact .of_same rfl (noted_dispatch _)
  case copyRowId => exact noted_copySelection
  case killProcess => exact noted_requestKill _
  case forceKillProcess => exact noted_requestKill _
  case niceDown => exact noted_requestRenice _
  case niceUp => exact noted_requestRenice _
  case stopContainer => apply noted_requestContainerAction
  case killContainer => apply noted_requestContainerAction
  case restartContainer => apply noted_requestContainerAction
  case kubeToggleScope => exact .of_same rfl noted_toggleKubeScope
  case killNamed => apply noted_notify
  case stopNamed => apply noted_notify
  case restartNamed => apply noted_notify
  case sortBy => apply noted_notify
  case filterBy => apply noted_notify
  case setTheme => apply noted_notify
  case goToTab => apply noted_notify
  -- the rest open an overlay or change what the tables show
  all_goals exact noted_same rfl

/-- A command that remote mode refuses posts that it is refused. -/
theorem noted_executeCommand (cmd : Command) : Noted w s (s.executeCommand lib w cmd) := by
  unfold executeCommand
  split_ifs
  · apply noted_notify
  · exact noted_runCommand cmd

/-- Any command, with its argument or without. -/
theorem noted_executeInvocation (cmd : Command) (arg : Option String) :
    Noted w s (s.executeInvocation lib w cmd arg) := by
  unfold executeInvocation
  split
  · apply noted_killNamed
  · apply noted_containerNamed
  · apply noted_containerNamed
  · apply noted_sortByName
  · exact noted_same rfl
  · apply noted_setTheme
  · apply noted_goToTabNamed
  · split_ifs
    · apply noted_notify
    · apply noted_executeCommand

/-! ## Keys -/

/-- What is confirmed posts how it went, or that no engine is there to ask. -/
theorem noted_executeConfirm (action : ConfirmAction) : Noted w s (s.executeConfirm w action) := by
  have hcontainer (effect : Effect) : Noted w s (s.executeContainerAction w effect) := by
    unfold executeContainerAction
    split_ifs
    · exact noted_same rfl
    · apply noted_notify
  unfold executeConfirm
  cases action
  case kill =>
    dsimp only
    split <;> exact noted_then_notify rfl _ _
  case renice =>
    dsimp only
    split <;> exact noted_then_notify rfl _ _
  all_goals exact hcontainer _

/-- The keys of a dialog post what the action does that they confirm. -/
theorem noted_handleConfirmKey (key : KeyEvent) : Noted w s (s.handleConfirmKey w key) := by
  have hperformed (action : ConfirmAction) :
      Noted w s ({ s with confirm := none }.executeConfirm w action) :=
    .of_same rfl (noted_executeConfirm _)
  unfold handleConfirmKey
  split
  case h_4 => exact noted_same rfl
  case h_5 => exact noted_same rfl
  case h_6 => exact noted_same rfl
  case h_7 => exact noted_same rfl
  -- the three keys that say yes
  all_goals
    split
    · exact hperformed _
    · exact noted_same rfl

/-- The keys of the palette post what the command does that they run. -/
theorem noted_handlePaletteKey (key : KeyEvent) : Noted w s (s.handlePaletteKey lib w key) := by
  unfold handlePaletteKey
  split
  case h_2 =>
    split
    · exact .of_same rfl (noted_executeInvocation _ _)
    · exact noted_same rfl
  case h_6 => split_ifs <;> exact noted_same rfl
  all_goals exact noted_same rfl

/-- The keys of an overlay that scrolls post only what was copied. -/
theorem noted_handleScrollableOverlayKey (key : KeyEvent) :
    Noted w s (s.handleScrollableOverlayKey lib w key) := by
  unfold handleScrollableOverlayKey
  dsimp only
  split
  case h_14 =>
    split_ifs
    · exact noted_copySelection
    · exact noted_same rfl
  all_goals
    try split_ifs
    all_goals exact noted_same rfl

/-- The keys of the menu post what the action does that they choose. -/
theorem noted_handleActionsKey (key : KeyEvent) : Noted w s (s.handleActionsKey lib w key) := by
  unfold handleActionsKey
  split
  case h_7 =>
    split
    · exact .of_same rfl (noted_dispatch _)
    · exact noted_same rfl
  all_goals exact noted_same rfl

/-- A key posts what the handler does that it is routed to. -/
theorem noted_routeKey (key : KeyEvent) : Noted w s (s.routeKey lib w key) := by
  unfold routeKey
  split
  · exact noted_handleConfirmKey key
  · split
    · exact noted_handlePaletteKey key
    · exact noted_handlePaletteKey key
    · exact noted_handleScrollableOverlayKey key
    · exact noted_handleScrollableOverlayKey key
    · exact noted_handleScrollableOverlayKey key
    · exact noted_handleActionsKey key
    · split_ifs
      · exact noted_same rfl
      · unfold handleBoundKey
        split
        · exact noted_dispatch _
        · exact noted_same rfl

/-! ## Runs -/

/-- A turn drops what has expired before it does anything else, or drops nothing. -/
theorem noted_step (lib : Lib) (s : AppState) (input : Input) :
    Noted input.world s (s.step lib input) ∨
      Noted input.world (s.expireToasts input.world) (s.step lib input) := by
  rcases input with ⟨w, e⟩
  unfold step
  split_ifs
  · cases e
    -- A tick and a key sweep the toasts first, every other event leaves them.
    case tick => exact .inr (noted_same rfl)
    case key key =>
      right
      show Noted w (s.expireToasts w) (s.handleKeyEvent lib w key)
      unfold handleKeyEvent
      dsimp only
      split_ifs
      · exact noted_same rfl
      · exact noted_routeKey key
    case mouse kind =>
      left
      show Noted w s (s.handleMouseEvent lib kind)
      unfold handleMouseEvent
      split_ifs
      · cases kind <;> exact noted_same rfl
      · cases kind <;> exact noted_same rfl
    case resize => exact .inl (noted_same rfl)
    case snapshot snapshot =>
      left
      show Noted w s (s.applySnapshot lib snapshot)
      unfold applySnapshot
      split_ifs <;> exact noted_same rfl
    case outcome level msg => exact .inl (noted_notify level msg)
  · exact .inl (noted_same rfl)

/-- The clock of a run does not go back: what a turn reads for its toasts comes before what it reads after
that, and after what the turns before it read. -/
structure Clocked (inputs : List Input) : Prop where
  within : ∀ input ∈ inputs, ∀ i, input.world.toastClock i ≤ input.world.now
  between : inputs.Pairwise fun a b => ∀ i, a.world.now ≤ b.world.toastClock i

/-- No time passes within a turn. -/
def Steady (inputs : List Input) : Prop :=
  ∀ input ∈ inputs, ∀ i, input.world.toastClock i = input.world.now

/-- What a turn does keeps what is known of the messages. -/
theorem sound_step {steady : Prop} {now : ℕ} {input : Input}
    (hclock : ∀ i, now ≤ input.world.toastClock i ∧ input.world.toastClock i ≤ input.world.now)
    (hsteady : steady → ∀ i, input.world.toastClock i = input.world.now) (h : s.notifier.Sound steady now) :
    (s.step lib input).notifier.Sound steady input.world.now := by
  rcases noted_step lib s input with ⟨ops, hops⟩ | ⟨ops, hops⟩
  · rw [hops]
    exact (h.later ((hclock 0).1.trans (hclock 0).2)).applied ops
  · rw [hops]
    exact (h.expire hclock hsteady).applied ops

/-- The log has what is on screen along every run whose clock does not go back. -/
theorem sound_run {inputs : List Input} {s : AppState} {now : ℕ} (hclock : Clocked inputs)
    (hlater : ∀ input ∈ inputs, ∀ i, now ≤ input.world.toastClock i) {steady : Prop}
    (hsteady : steady → Steady inputs) (h : s.notifier.Sound steady now) :
    ∃ now', (Runs.run (step lib) s inputs).notifier.Sound steady now' := by
  induction inputs generalizing s now with
  | nil => exact ⟨now, h⟩
  | cons input inputs ih =>
    obtain ⟨hfirst, hrest⟩ := List.pairwise_cons.1 hclock.between
    have hturn : (s.step lib input).notifier.Sound steady input.world.now := sound_step
      (fun i => ⟨hlater input List.mem_cons_self i, hclock.within input List.mem_cons_self i⟩)
      (fun hall => hsteady hall input List.mem_cons_self) h
    refine ih ⟨fun input' hmem => ?_, hrest⟩ hfirst (fun hall input' hmem => ?_) hturn
    · exact hclock.within input' (List.mem_cons_of_mem _ hmem)
    · exact hsteady hall input' (List.mem_cons_of_mem _ hmem)

/-- **What is on screen is in the log.** In every run whose clock does not go back, at most three messages
are on screen, and all of them are among the last nine of the log, or the last seven if no time passes
within a turn; and the log keeps fifty: none that is on screen, however many were posted after it, is
missing from the log. -/
theorem shown_in_log (lib : Lib) (config : CliConfig) (containerEngine clusterEngine : Bool)
    (inputs : List Input) (hclock : Clocked inputs) :
    let n := (Runs.run (step lib) (withConfig config containerEngine clusterEngine) inputs).notifier
    n.active.Sublist (n.log.drop (n.log.length - 9)) ∧
      (Steady inputs → n.active.Sublist (n.log.drop (n.log.length - 7))) ∧
      n.active.length ≤ 3 ∧ n.log.length ≤ Notifier.logCapacity := by
  obtain ⟨now, hsound⟩ := @sound_run lib inputs (withConfig config containerEngine clusterEngine) 0 hclock
    (fun _ _ _ => Nat.zero_le _) (Steady inputs) id (Notifier.sound_new _ 0)
  exact hsound.active_sublist

/-- A kill and a renice are asked for with no process selected. -/
def askedForNothing : List Input := [.press 1 .tab, .press 2 (.f 9), .press 4 (.f 8)]

theorem shown_in_log_nothing :
    let n := (Runs.run (step .ascii) (withConfig {} false false) askedForNothing).notifier
    n.active.length = 2 ∧ n.active.Sublist (n.log.drop (n.log.length - 7)) ∧
      n.log.length ≤ Notifier.logCapacity := by
  have hclock : Clocked askedForNothing :=
    ⟨by simp [askedForNothing, Input.press, World.obliging],
      by simp [askedForNothing, Input.press, World.obliging]⟩
  have hsteady : Steady askedForNothing := by simp [Steady, askedForNothing, Input.press, World.obliging]
  obtain ⟨-, hrecent, -, hlog⟩ := shown_in_log .ascii {} false false askedForNothing hclock
  exact ⟨by decide, hrecent hsteady, hlog⟩

end AppState

end Muxtop.Tui
