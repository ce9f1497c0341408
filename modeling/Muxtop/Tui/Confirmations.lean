import Muxtop.Tui.Keyboard
import Muxtop.Tui.ReadOnly

/-!
# Nothing is done without a yes

Reference: `handle_confirm_key`, `execute_confirm` and the requests of `muxtop-tui/src/app.rs`.

A request puts an action up in the confirm dialog, which then owns the keyboard. What is done to the host
is what the dialog showed when it was answered, and what it shows is a row of a snapshot that had arrived
when it was put up. The namespace toggle alone is done at once.
-/

namespace Muxtop.Tui

open Muxtop.Core

/-- Whether a call needs a confirmation. -/
def Effect.confirmed : Effect → Bool
  | .toggleScope => false
  | _ => true

/-- Whether a key says yes to the confirm dialog. -/
def KeyCode.isYes : KeyCode → Bool
  | .char 'y' | .char 'Y' | .enter => true
  | _ => false

/-- The calls that an action comes to once it is confirmed. -/
def ConfirmAction.effects (containerEngine : Bool) (w : World) : ConfirmAction → List Effect
  | .kill pid _ signal => [.killProcess pid signal]
  | .renice pid _ delta =>
    let current := match w.getProcessPriority pid with
      | .ok nice => nice
      | .error _ => 0
    [.reniceProcess pid (current + delta)]
  | .stopContainer id _ => if containerEngine then [.stopContainer id] else []
  | .killContainer id _ => if containerEngine then [.killContainer id] else []
  | .restartContainer id _ => if containerEngine then [.restartContainer id] else []

/-- The action that an input says yes to. -/
def AppState.answered (s : AppState) (input : Input) : Option ConfirmAction :=
  match input.event with
  | .key key => if s.running && key.code.isYes then s.confirm else none
  | _ => none

/-- The calls that an input confirms. -/
def AppState.confirmedCalls (s : AppState) (input : Input) : List Effect :=
  match s.answered input with
  | some action => action.effects s.containerEngine input.world
  | none => []

/-- The requests that the tables allow: for the highlighted process, the first match of `kill <name>`,
and a row of the container table. -/
inductive Asked (v : Views) : ConfirmAction → Prop
  | kill {p : ProcessInfo} (signal : Signal) (h : v.selectedProcess = some p) :
      Asked v (.kill p.pid p.name signal)
  | renice {p : ProcessInfo} (delta : ℤ) (h : v.selectedProcess = some p) :
      Asked v (.renice p.pid p.name delta)
  | killNamed {p : ProcessInfo} (h : p ∈ v.visibleProcesses) : Asked v (.kill p.pid p.name .term)
  | stopContainer {c : ContainerSnapshot} (h : c ∈ v.sortedFilteredContainersCache) :
      Asked v (.stopContainer c.idFull c.name)
  | killContainer {c : ContainerSnapshot} (h : c ∈ v.sortedFilteredContainersCache) :
      Asked v (.killContainer c.idFull c.name)
  | restartContainer {c : ContainerSnapshot} (h : c ∈ v.sortedFilteredContainersCache) :
      Asked v (.restartContainer c.idFull c.name)

/-- What everything but an answer does: at most it puts up a request, or toggles the namespaces. -/
structure Asks (s s' : AppState) : Prop where
  confirm : s'.confirm = s.confirm ∨ ∃ action, s'.confirm = some action ∧ Asked s.toViews action
  performed : s'.performed = s.performed ∨ s'.performed = s.performed ++ [.toggleScope]

variable {lib : Lib} {w : World} {s s' s'' : AppState}

/-- What leaves the dialog and the host alone asks nothing. -/
theorem Asks.of_quiet (h : Quiet s s') : Asks s s' := ⟨.inl h.confirm, .inl h.performed⟩

/-- What happens after a quiet step that leaves the tables alone. -/
theorem Asks.after (hquiet : Quiet s s') (hviews : s'.toViews = s.toViews) (h : Asks s' s'') :
    Asks s s'' where
  confirm := by rw [← hquiet.confirm, ← hviews]; exact h.confirm
  performed := by rw [← hquiet.performed]; exact h.performed

namespace AppState

/-! ## Requests -/

/-- A request for a row that the tables have. -/
theorem asks_request {action : ConfirmAction} (hconfirm : s'.confirm = some action)
    (hasked : Asked s.toViews action) (hperformed : s'.performed = s.performed) : Asks s s' :=
  ⟨.inr ⟨action, hconfirm, hasked⟩, .inl hperformed⟩

/-- A message is no request. -/
theorem asks_notify (level : Level) (msg : String) : Asks s (s.notify w level msg) :=
  .of_quiet (quiet_notify level msg)

/-- The highlighted process is the one that is asked about. -/
theorem asks_requestKill (signal : Signal) : Asks s (s.requestKill w signal) := by
  unfold requestKill
  split
  case h_1 p hp => exact asks_request rfl (.kill signal hp) rfl
  case h_2 => apply asks_notify

/-- So it is for a new priority. -/
theorem asks_requestRenice (delta : ℤ) : Asks s (s.requestRenice w delta) := by
  unfold requestRenice
  split
  case h_1 p hp => exact asks_request rfl (.renice delta hp) rfl
  case h_2 => apply asks_notify

/-- The highlighted container is a row of the table. -/
theorem mem_cache_of_selectedContainer {v : Views} {c : ContainerSnapshot}
    (h : v.selectedContainer = some c) : c ∈ v.sortedFilteredContainersCache := by
  unfold Views.selectedContainer at h
  split at h
  · cases h
  · split_ifs at h
    exact List.mem_of_getElem? h

/-- A container request, whichever of the three it is. -/
theorem asks_requestContainerAction {build : String → String → ConfirmAction}
    (hbuild : ∀ c ∈ s.sortedFilteredContainersCache, Asked s.toViews (build c.idFull c.name)) :
    Asks s (s.requestContainerAction w build) := by
  unfold requestContainerAction
  split_ifs
  · apply asks_notify
  · split
    case h_1 c hc =>
      exact asks_request rfl (hbuild c (mem_cache_of_selectedContainer hc)) rfl
    case h_2 => exact ⟨.inl rfl, .inl rfl⟩

/-- `stop` and `restart` look for their container among the rows of the table. -/
theorem asks_containerNamed (needle : String) {build : String → String → ConfirmAction}
    (hbuild : ∀ c ∈ s.sortedFilteredContainersCache, Asked s.toViews (build c.idFull c.name)) :
    Asks s (s.containerNamed lib w needle build) := by
  unfold containerNamed
  split_ifs
  · apply asks_notify
  · dsimp only
    split
    case h_1 c hc => exact asks_request rfl (hbuild c (List.mem_of_find?_eq_some hc)) rfl
    case h_2 => apply asks_notify

/-- `kill` looks for its process in the list. -/
theorem asks_killNamed (needle : String) : Asks s (s.killNamed lib w needle) := by
  unfold killNamed
  dsimp only
  split
  case h_1 => apply asks_notify
  case h_2 target rest hfound =>
    have hvisible : target ∈ s.visibleProcesses :=
      List.mem_of_mem_filter (hfound ▸ List.mem_cons_self)
    split_ifs
    · exact asks_request rfl (.killNamed hvisible) rfl
    · exact asks_request rfl (.killNamed hvisible) rfl

/-- The namespace toggle needs no confirmation. -/
theorem asks_toggleKubeScope : Asks s (s.toggleKubeScope w) := by
  unfold toggleKubeScope
  split_ifs
  · exact ⟨.inl rfl, .inr rfl⟩
  · apply asks_notify

/-- The toggle asks nothing. -/
theorem toggleKubeScope_confirm : (s.toggleKubeScope w).confirm = s.confirm := by
  unfold toggleKubeScope
  split_ifs <;> rfl

/-- Any action: some put up a request, one toggles the namespaces. -/
theorem asks_runAction (action : Action) : Asks s (s.runAction lib w action) := by
  cases hlocal : action.isLocalOnly
  case false => exact .of_quiet (quiet_runAction hlocal)
  case true =>
    cases action
    case renice delta => exact asks_requestRenice delta
    case kill signal => exact asks_requestKill signal
    case containerStop => exact asks_requestContainerAction fun _ hc => .stopContainer hc
    case containerKill => exact asks_requestContainerAction fun _ hc => .killContainer hc
    case containerRestart => exact asks_requestContainerAction fun _ hc => .restartContainer hc
    case toggleKubeScope => exact asks_toggleKubeScope
    all_goals cases hlocal

/-- Refused in remote mode, an action asks nothing. -/
theorem asks_dispatch (action : Action) : Asks s (s.dispatch lib w action) := by
  unfold dispatch
  split_ifs
  · apply asks_notify
  · exact asks_runAction action

/-- The remote guard does not see an action that is not local-only. -/
theorem quiet_dispatch_of_free {action : Action} (h : action.isLocalOnly = false) :
    Quiet s (s.dispatch lib w action) := by
  unfold dispatch
  rw [h, Bool.false_and, if_neg Bool.false_ne_true]
  exact quiet_runAction h

/-! ## Commands -/

/-- Any command without an argument. -/
theorem asks_runCommand (cmd : Command) : Asks s (s.runCommand lib w cmd) := by
  cases cmd
  case quit => exact asks_dispatch _
  case togglePause => exact asks_dispatch _
  case refreshNow => exact asks_dispatch _
  case inspectRow => exact asks_dispatch _
  case toggleTreeView =>
    exact .of_quiet ((quiet_mapViews _).trans (quiet_dispatch_of_free rfl))
  case copyRowId => exact .of_quiet quiet_copySelection
  case killProcess => exact asks_requestKill _
  case forceKillProcess => exact asks_requestKill _
  case niceDown => exact asks_requestRenice _
  case niceUp => exact asks_requestRenice _
  case stopContainer => exact asks_requestContainerAction fun _ hc => .stopContainer hc
  case killContainer => exact asks_requestContainerAction fun _ hc => .killContainer hc
  case restartContainer => exact asks_requestContainerAction fun _ hc => .restartContainer hc
  case kubeToggleScope =>
    have hthere : Asks (s.mapViews (·.goToTab .kube)) ((s.mapViews (·.goToTab .kube)).toggleKubeScope w) :=
      asks_toggleKubeScope
    exact ⟨.inl toggleKubeScope_confirm, hthere.performed⟩
  -- the rest open an overlay, change what the tables show or print how they are used
  all_goals exact .of_quiet (quiet_same rfl rfl rfl rfl)

/-- Refused in remote mode, a command asks nothing. -/
theorem asks_executeCommand (cmd : Command) : Asks s (s.executeCommand lib w cmd) := by
  unfold executeCommand
  split_ifs
  · apply asks_notify
  · exact asks_runCommand cmd

/-- Any command, with its argument or without. -/
theorem asks_executeInvocation (cmd : Command) (arg : Option String) :
    Asks s (s.executeInvocation lib w cmd arg) := by
  unfold executeInvocation
  split
  · apply asks_killNamed
  · exact asks_containerNamed _ fun _ hc => .stopContainer hc
  · exact asks_containerNamed _ fun _ hc => .restartContainer hc
  · exact .of_quiet (quiet_sortByName _)
  · exact .of_quiet (quiet_mapViews _)
  · exact .of_quiet (quiet_setTheme _)
  · exact .of_quiet (quiet_goToTabNamed _)
  · split_ifs
    · apply asks_notify
    · apply asks_executeCommand

/-! ## Keys -/

/-- A key of the palette asks what the command asks that it runs. -/
theorem asks_handlePaletteKey (key : KeyEvent) : Asks s (s.handlePaletteKey lib w key) := by
  have hedited (input : String) :
      Asks s ({ s with palette := { s.palette with input := input } }.refilterPalette lib) :=
    ⟨.inl rfl, .inl rfl⟩
  unfold handlePaletteKey
  split
  case h_2 =>
    split
    case h_1 cmd score hcmd =>
      have hleft : Quiet s (s.leavePalette cmd) := quiet_same rfl rfl rfl rfl
      exact .after hleft rfl (asks_executeInvocation cmd _)
    case h_2 => exact ⟨.inl rfl, .inl rfl⟩
  case h_5 => exact hedited _
  case h_6 =>
    split_ifs
    · exact ⟨.inl rfl, .inl rfl⟩
    · exact ⟨.inl rfl, .inl rfl⟩
    · exact hedited _
    · exact ⟨.inl rfl, .inl rfl⟩
  all_goals exact ⟨.inl rfl, .inl rfl⟩

/-- A key of the menu asks what the action asks that it chooses. -/
theorem asks_handleActionsKey (key : KeyEvent) : Asks s (s.handleActionsKey lib w key) := by
  have hclosed : Quiet s s.closeOverlay := quiet_same rfl rfl rfl rfl
  unfold handleActionsKey
  split
  case h_7 =>
    split
    · exact .after hclosed rfl (asks_dispatch _)
    · exact ⟨.inl rfl, .inl rfl⟩
  all_goals exact ⟨.inl rfl, .inl rfl⟩

/-- While the dialog is down, a key asks at most. -/
theorem asks_routeKey (hconfirm : s.confirm = none) (key : KeyEvent) :
    Asks s (s.routeKey lib w key) := by
  unfold routeKey
  rw [hconfirm]
  simp only [Option.isSome_none, Bool.false_eq_true, if_false]
  split
  · exact asks_handlePaletteKey key
  · exact asks_handlePaletteKey key
  · exact .of_quiet (quiet_handleScrollableOverlayKey key)
  · exact .of_quiet (quiet_handleScrollableOverlayKey key)
  · exact .of_quiet (quiet_handleScrollableOverlayKey key)
  · exact asks_handleActionsKey key
  · split_ifs
    · exact .of_quiet (quiet_mapViews _)
    · unfold handleBoundKey
      split
      · exact asks_dispatch _
      · exact ⟨.inl rfl, .inl rfl⟩

/-! ## Answers -/

/-- A confirmed action makes its calls and leaves the dialog alone. -/
theorem executeConfirm_spec (action : ConfirmAction) :
    (s.executeConfirm w action).confirm = s.confirm ∧
      (s.executeConfirm w action).performed =
        s.performed ++ action.effects s.containerEngine w := by
  have hcontainer (effect : Effect) :
      (s.executeContainerAction w effect).confirm = s.confirm ∧
        (s.executeContainerAction w effect).performed =
          s.performed ++ if s.containerEngine then [effect] else [] := by
    unfold executeContainerAction
    split_ifs
    · exact ⟨rfl, rfl⟩
    · exact ⟨rfl, (List.append_nil _).symm⟩
  cases action
  case kill =>
    unfold executeConfirm
    dsimp only
    split <;> exact ⟨rfl, rfl⟩
  case renice =>
    unfold executeConfirm
    dsimp only
    split <;> exact ⟨rfl, rfl⟩
  case stopContainer id name => exact hcontainer _
  case killContainer id name => exact hcontainer _
  case restartContainer id name => exact hcontainer _

/-- A confirmed action makes only calls that need a confirmation. -/
theorem confirmed_of_mem_effects {action : ConfirmAction} {containerEngine : Bool} {effect : Effect}
    (h : effect ∈ action.effects containerEngine w) : effect.confirmed = true := by
  cases action <;> simp only [ConfirmAction.effects] at h
  case kill => rw [List.mem_singleton.1 h]; rfl
  case renice => rw [List.mem_singleton.1 h]; rfl
  all_goals
    split_ifs at h
    · rw [List.mem_singleton.1 h]; rfl
    · cases h

/-- A yes takes the dialog down and executes what it asked about. -/
theorem handleConfirmKey_yes {action : ConfirmAction} (hconfirm : s.confirm = some action)
    {key : KeyEvent} (hyes : key.code.isYes = true) :
    s.handleConfirmKey w key = { s with confirm := none }.executeConfirm w action := by
  have hcode : key.code = .char 'y' ∨ key.code = .char 'Y' ∨ key.code = .enter := by
    unfold KeyCode.isYes at hyes
    split at hyes
    · exact .inl ‹_›
    · exact .inr (.inl ‹_›)
    · exact .inr (.inr ‹_›)
    · cases hyes
  unfold handleConfirmKey
  rcases hcode with hcode | hcode | hcode
  · simp only [hcode, hconfirm]
  · simp only [hcode, hconfirm]
  · simp only [hcode, hconfirm]

/-- Any other key leaves the dialog, or takes it down. -/
theorem handleConfirmKey_other {key : KeyEvent} (hno : key.code.isYes = false) :
    s.handleConfirmKey w key = s ∨ s.handleConfirmKey w key = { s with confirm := none } := by
  unfold handleConfirmKey
  split
  case h_1 hcode => rw [hcode] at hno; cases hno
  case h_2 hcode => rw [hcode] at hno; cases hno
  case h_3 hcode => rw [hcode] at hno; cases hno
  case h_7 => exact .inl rfl
  all_goals exact .inr rfl

/-- While the dialog is up, a key answers it or does nothing: a yes takes it down and makes the calls. -/
theorem handleConfirmKey_spec {action : ConfirmAction} (hconfirm : s.confirm = some action)
    (key : KeyEvent) :
    ((s.handleConfirmKey w key).confirm = s.confirm ∨ (s.handleConfirmKey w key).confirm = none) ∧
      (s.handleConfirmKey w key).performed =
        s.performed ++ if key.code.isYes then action.effects s.containerEngine w else [] := by
  cases hyes : key.code.isYes
  case true =>
    rw [handleConfirmKey_yes hconfirm hyes, if_pos rfl]
    have hspec := executeConfirm_spec (w := w) (s := { s with confirm := none }) action
    exact ⟨.inr hspec.1, hspec.2⟩
  case false =>
    rw [if_neg Bool.false_ne_true, List.append_nil]
    rcases handleConfirmKey_other (s := s) (w := w) hyes with h | h
    · rw [h]
      exact ⟨.inl rfl, rfl⟩
    · rw [h]
      exact ⟨.inr rfl, rfl⟩

/-! ## Steps -/

/-- What a step does to the dialog and to the host: calls come from a yes, requests from a key. -/
structure Confirms (lib : Lib) (s : AppState) (input : Input) : Prop where
  confirm : (s.step lib input).confirm = s.confirm ∨ (s.step lib input).confirm = none ∨
    s.confirm = none ∧ (∃ key, input.event = .key key) ∧
      ∃ action, (s.step lib input).confirm = some action ∧ Asked s.toViews action
  performed : (s.step lib input).performed = s.performed ++ s.confirmedCalls input ∨
    s.confirmedCalls input = [] ∧ (s.step lib input).performed = s.performed ++ [.toggleScope]

/-- The confirmed calls are of the kind that needs a confirmation. -/
theorem filter_confirmedCalls (s : AppState) (input : Input) :
    (s.confirmedCalls input).filter Effect.confirmed = s.confirmedCalls input := by
  refine List.filter_eq_self.2 fun effect heffect => ?_
  unfold confirmedCalls at heffect
  split at heffect
  · exact confirmed_of_mem_effects heffect
  · cases heffect

/-- Of the calls that need a confirmation, a step makes those that its input confirms. -/
theorem Confirms.filter_performed {input : Input} (h : Confirms lib s input) :
    (s.step lib input).performed.filter Effect.confirmed =
      s.performed.filter Effect.confirmed ++ s.confirmedCalls input := by
  rcases h.performed with hcalls | ⟨hnone, htoggle⟩
  · rw [hcalls, List.filter_append, filter_confirmedCalls]
  · rw [hnone, htoggle, List.filter_append]
    rfl

/-- Without a yes no call is confirmed. -/
theorem confirmedCalls_of_not_answered {input : Input} (h : s.answered input = none) :
    s.confirmedCalls input = [] := by
  simp only [confirmedCalls, h]

/-- An input that changes neither the dialog nor what was done, and is no answer. -/
theorem confirms_of_same {input : Input} (hanswer : s.answered input = none)
    (hconfirm : (s.step lib input).confirm = s.confirm)
    (hperformed : (s.step lib input).performed = s.performed) : Confirms lib s input :=
  ⟨.inl hconfirm, .inl (by rw [hperformed, confirmedCalls_of_not_answered hanswer, List.append_nil])⟩

/-- A key goes to the dialog while it is up, and to the layers below otherwise. -/
theorem confirms_key (hrunning : s.running = true) (key : KeyEvent) :
    Confirms lib s ⟨w, .key key⟩ := by
  have hstep : s.step lib ⟨w, .key key⟩ = s.handleKeyEvent lib w key := if_pos hrunning
  -- Ctrl-C quits before the dialog is looked at, so it answers nothing.
  by_cases hquit : key.code = .char 'c' ∧ key.modifiers.control
  · have hquits : s.handleKeyEvent lib w key = (s.expireToasts w).quit := if_pos hquit
    have hno : s.answered ⟨w, .key key⟩ = none := by
      simp [answered, hquit.1, KeyCode.isYes]
    refine confirms_of_same hno ?_ ?_ <;> rw [hstep, hquits] <;> rfl
  · have hroutes : s.handleKeyEvent lib w key = (s.expireToasts w).routeKey lib w key := if_neg hquit
    cases hconfirm : s.confirm with
    | none =>
      have hnone : (s.expireToasts w).confirm = none := hconfirm
      have hasks : Asks (s.expireToasts w) ((s.expireToasts w).routeKey lib w key) :=
        asks_routeKey hnone key
      have hno : s.answered ⟨w, .key key⟩ = none := by simp [answered, hconfirm]
      refine ⟨?_, ?_⟩
      · rw [hstep, hroutes]
        rcases hasks.confirm with h | ⟨action, h, hasked⟩
        · exact .inl h
        · exact .inr (.inr ⟨hconfirm, ⟨key, rfl⟩, action, h, hasked⟩)
      · rw [hstep, hroutes, confirmedCalls_of_not_answered hno, List.append_nil]
        exact hasks.performed.imp_right fun h => ⟨rfl, h⟩
    | some action =>
      have hroute : (s.expireToasts w).routeKey lib w key = (s.expireToasts w).handleConfirmKey w key :=
        if_pos (by simp [expireToasts, hconfirm])
      have hcalls : s.confirmedCalls ⟨w, .key key⟩ =
          if key.code.isYes then action.effects s.containerEngine w else [] := by
        cases hyes : key.code.isYes <;> simp [confirmedCalls, answered, hrunning, hyes, hconfirm]
      obtain ⟨hdialog, hdone⟩ := handleConfirmKey_spec (s := s.expireToasts w) (w := w) hconfirm key
      refine ⟨?_, ?_⟩
      · rw [hstep, hroutes, hroute]
        rcases hdialog with h | h
        · exact .inl h
        · exact .inr (.inl h)
      · left
        rw [hstep, hroutes, hroute, hdone, hcalls]
        rfl

/-- Every input confirms at most what the dialog shows. -/
theorem confirms_step (lib : Lib) (s : AppState) (input : Input) : Confirms lib s input := by
  cases hrunning : s.running
  case false =>
    have hstep : s.step lib input = s := if_neg (by simp [hrunning])
    have hno : s.answered input = none := by
      unfold answered
      split
      · simp [hrunning]
      · rfl
    exact confirms_of_same hno (by rw [hstep]) (by rw [hstep])
  case true =>
    rcases input with ⟨w, e⟩
    -- Of a running interface's events only a key reaches the dialog.
    have hstep : s.step lib ⟨w, e⟩ = s.handle lib w e := if_pos hrunning
    cases e
    case key key => exact confirms_key hrunning key
    case mouse kind =>
      have hquiet : Quiet s (s.handleMouseEvent lib kind) := quiet_handleMouseEvent kind
      exact confirms_of_same rfl (hstep ▸ hquiet.confirm) (hstep ▸ hquiet.performed)
    case snapshot snapshot =>
      have hquiet : Quiet s (s.applySnapshot lib snapshot) := by
        unfold applySnapshot
        split_ifs
        · exact quiet_same rfl rfl rfl rfl
        · apply quiet_mapViews
      exact confirms_of_same rfl (hstep ▸ hquiet.confirm) (hstep ▸ hquiet.performed)
    all_goals exact confirms_of_same rfl (by rw [hstep]; rfl) (by rw [hstep]; rfl)

end AppState

/-! ## Rows -/

/-- An action names a row of a snapshot: a process by its PID and name, or a container by its full id and
name. -/
def ConfirmAction.NamesRowOf (snapshot : SystemSnapshot) : ConfirmAction → Prop
  | .kill pid name _ | .renice pid name _ =>
    ∃ p ∈ snapshot.processes, p.pid = pid ∧ p.name = name
  | .stopContainer id name | .killContainer id name | .restartContainer id name =>
    ∃ cs ∈ snapshot.containers, ∃ c ∈ cs.containers, c.idFull = id ∧ c.name = name

namespace Views

variable {v : Views}

/-- A filtered list holds processes of the snapshot. -/
theorem mem_filterProcesses {lower : Text.Lowercase} {procs : List ProcessInfo} {pattern : String}
    {p : ProcessInfo} (h : p ∈ filterProcesses lower procs pattern) : p ∈ procs := by
  unfold filterProcesses at h
  split_ifs at h
  · exact h
  · exact List.mem_of_mem_filter h

/-- Both process lists show processes of the last snapshot. -/
theorem exists_snapshot_of_mem_visible (h : v.Coherent lib) {p : ProcessInfo}
    (hp : p ∈ v.visibleProcesses ∨ p ∈ v.visibleTree.map Prod.fst) :
    ∃ snapshot, v.lastSnapshot = some snapshot ∧ p ∈ snapshot.processes := by
  have hview := h.processes
  unfold ProcessesCoherent processView at hview
  split at hview
  case h_1 =>
    obtain ⟨hlist, htree⟩ := Prod.mk.inj hview
    rw [hlist, htree] at hp
    rcases hp with hp | hp <;> cases hp
  case h_2 snapshot hsnapshot =>
    obtain ⟨hlist, htree⟩ := Prod.mk.inj hview
    refine ⟨snapshot, hsnapshot, ?_⟩
    rw [hlist, htree] at hp
    rcases hp with hp | hp
    · exact mem_filterProcesses ((sortProcesses_perm ..).mem_iff.1 hp)
    · split_ifs at hp
      · obtain ⟨entry, hentry, rfl⟩ := List.mem_map.1 hp
        exact mem_filterProcesses (mem_of_mem_flattenTree hentry)
      · cases hp

/-- The highlighted process is a row of the list or of the tree. -/
theorem mem_visible_of_selectedProcess {p : ProcessInfo} (h : v.selectedProcess = some p) :
    p ∈ v.visibleProcesses ∨ p ∈ v.visibleTree.map Prod.fst := by
  unfold selectedProcess at h
  split_ifs at h
  · obtain ⟨entry, hentry, rfl⟩ := Option.map_eq_some_iff.1 h
    exact .inr (List.mem_map_of_mem (List.mem_of_getElem? hentry))
  · exact .inl (List.mem_of_getElem? h)

/-- A row of the container table is of the last snapshot. -/
theorem exists_snapshot_of_mem_cache (h : v.Coherent lib) {c : ContainerSnapshot}
    (hc : c ∈ v.sortedFilteredContainersCache) :
    ∃ snapshot, v.lastSnapshot = some snapshot ∧ ∃ cs ∈ snapshot.containers, c ∈ cs.containers := by
  rw [h.containers] at hc
  cases hlast : v.lastSnapshot.bind (·.containers) with
  | none =>
    rw [containersView_eq_nil (by simp [hlast])] at hc
    cases hc
  | some cs =>
    obtain ⟨snapshot, hsnapshot, hcs⟩ := Option.bind_eq_some_iff.1 hlast
    refine ⟨snapshot, hsnapshot, cs, hcs, ?_⟩
    cases hup : cs.daemonUp
    case true => exact List.mem_of_mem_filter ((containersView_perm hlast hup _ _ _).mem_iff.1 hc)
    case false =>
      rw [containersView_eq_nil (by simp [hlast, hup])] at hc
      cases hc

/-- Whatever is asked for is a row of the last snapshot. -/
theorem exists_snapshot_of_asked (h : v.Coherent lib) {action : ConfirmAction} (hasked : Asked v action) :
    ∃ snapshot, v.lastSnapshot = some snapshot ∧ action.NamesRowOf snapshot := by
  have hselected {p : ProcessInfo} (hp : v.selectedProcess = some p) :=
    exists_snapshot_of_mem_visible h (mem_visible_of_selectedProcess hp)
  cases hasked
  case kill p signal hp =>
    obtain ⟨snapshot, hsnapshot, hmem⟩ := hselected hp
    exact ⟨snapshot, hsnapshot, p, hmem, rfl, rfl⟩
  case renice p delta hp =>
    obtain ⟨snapshot, hsnapshot, hmem⟩ := hselected hp
    exact ⟨snapshot, hsnapshot, p, hmem, rfl, rfl⟩
  case killNamed p hp =>
    obtain ⟨snapshot, hsnapshot, hmem⟩ := exists_snapshot_of_mem_visible h (.inl hp)
    exact ⟨snapshot, hsnapshot, p, hmem, rfl, rfl⟩
  all_goals
    rename_i c hc
    obtain ⟨snapshot, hsnapshot, cs, hcs, hmem⟩ := exists_snapshot_of_mem_cache h hc
    exact ⟨snapshot, hsnapshot, cs, hcs, c, hmem, rfl, rfl⟩

/-! ## Where the snapshot comes from -/

/-- The last snapshot is among what only an arrival and a recomputation change. -/
theorem lastSnapshot_of_choices {v' : Views} (h : v'.choices = v.choices) :
    v'.lastSnapshot = v.lastSnapshot := by
  have hsnapshot := congrArg Views.lastSnapshot h
  exact hsnapshot

/-- Moving a highlight leaves the last snapshot. -/
theorem lastSnapshot_of_cursors {v' : Views} (h : v'.withoutCursors = v.withoutCursors) :
    v'.lastSnapshot = v.lastSnapshot := lastSnapshot_of_choices (choices_of_cursors h)

/-- So does taking up or leaving the filter. -/
@[simp] theorem lastSnapshot_setFilterEditing (on : Bool) :
    (v.setFilterEditing on).lastSnapshot = v.lastSnapshot := by
  unfold setFilterEditing
  split <;> rfl

/-- So does going to a tab. -/
@[simp] theorem lastSnapshot_goToTab (tab : Tab) : (v.goToTab tab).lastSnapshot = v.lastSnapshot := by
  unfold goToTab
  split_ifs <;> rfl

/-- So does typing, applied at once or later. -/
theorem lastSnapshot_typed {now : ℕ} (text : String) (immediate : Bool) :
    ((v.setFilterText text).afterFilterChange lib now immediate).lastSnapshot = v.lastSnapshot := by
  rw [lastSnapshot_of_choices (choices_afterFilterChange immediate)]
  unfold setFilterText
  split <;> rfl

/-- No operation on the tables touches the snapshot. -/
theorem lastSnapshot_apply (op : ViewOp) : (op.apply lib v).lastSnapshot = v.lastSnapshot := by
  cases op
  case goToTab tab => exact lastSnapshot_goToTab tab
  case setFilterEditing on => exact lastSnapshot_setFilterEditing on
  case clearFilter now => exact lastSnapshot_typed "" true
  case moveSelection delta => exact lastSnapshot_of_cursors (moveSelection_withoutCursors delta)
  case selectIndex index => exact lastSnapshot_of_cursors (selectIndex_withoutCursors index)
  case scrollRows delta => exact lastSnapshot_of_cursors (scrollRows_withoutCursors delta)
  case cycleSubview delta =>
    show (v.cycleSubview lib delta).lastSnapshot = _
    unfold cycleSubview
    split <;> rfl
  case cycleSort =>
    show (v.cycleSort lib).lastSnapshot = _
    unfold cycleSort
    split
    case h_5 => exact recomputeVisible_lastSnapshot
    all_goals rfl
  case reverseSort =>
    show (v.reverseSort lib).lastSnapshot = _
    unfold reverseSort
    split
    case h_5 => exact recomputeVisible_lastSnapshot
    all_goals rfl
  case setProcessSort field => exact recomputeVisible_lastSnapshot
  case toggleTree => exact recomputeVisible_lastSnapshot
  all_goals rfl

/-- An event leaves the snapshot alone or brings the next one. -/
theorem lastSnapshot_turned {w : World} {s : AppState} {e : Event} (h : Turned lib w s e v) :
    v.lastSnapshot = s.lastSnapshot ∨
      ∃ snapshot, e = .snapshot snapshot ∧ v.lastSnapshot = some snapshot := by
  cases h
  case change hchange =>
    left
    cases hchange
    case same => rfl
    case op op _ => exact lastSnapshot_apply op
    case there tab op _ => exact (lastSnapshot_apply op).trans (lastSnapshot_goToTab tab)
  case moved op _ _ => exact .inl (lastSnapshot_apply op)
  case filterBy text _ => exact .inl (lastSnapshot_typed text true)
  -- The two outcomes of a filter key, closed or typed, both leave the snapshot.
  case edit key _ _ _ =>
    left
    obtain ⟨u, hu, hkey⟩ := @handleFilterKey_cases lib s.toViews w key
    have hsame : u.lastSnapshot = s.lastSnapshot := by
      rcases hu with rfl | rfl
      · rfl
      · exact lastSnapshot_setFilterEditing false
    rcases hkey with hkey | ⟨immediate, hkey⟩
    · rw [hkey, hsame]
    · rw [hkey, lastSnapshot_typed, hsame]
  case snapshot snapshot _ =>
    refine .inr ⟨snapshot, rfl, ?_⟩
    show ({ s.toViews with lastSnapshot := some snapshot }.recomputeVisible lib).lastSnapshot = _
    exact recomputeVisible_lastSnapshot

end Views

namespace AppState

/-- The last snapshot changes only with one that arrives. -/
theorem lastSnapshot_step (s : AppState) (input : Input) :
    (s.step lib input).lastSnapshot = s.lastSnapshot ∨
      ∃ snapshot, input.event = .snapshot snapshot ∧
        (s.step lib input).lastSnapshot = some snapshot := by
  unfold step
  split_ifs
  · exact Views.lastSnapshot_turned (turned_handle input.event)
  · exact .inl rfl

/-- What is shown has arrived. -/
theorem exists_arrival {inputs : List Input} {start : AppState} (hstart : start.lastSnapshot = none)
    {snapshot : SystemSnapshot} (h : (Runs.run (step lib) start inputs).lastSnapshot = some snapshot) :
    ∃ input ∈ inputs, input.event = .snapshot snapshot := by
  have hnone : ¬ start.lastSnapshot = some snapshot := by rw [hstart]; exact nofun
  obtain ⟨before, input, after, rfl, hbefore, hkept⟩ :=
    Runs.exists_gaining_step (I := fun s : AppState => s.lastSnapshot = some snapshot) inputs hnone h
  refine ⟨input, by simp, ?_⟩
  have hgained := hkept [] (List.nil_prefix ..)
  rw [Runs.run_append] at hgained
  rcases @lastSnapshot_step lib (Runs.run (step lib) start before) input with
    hsame | ⟨s', he, hs'⟩
  · exact absurd (hsame ▸ hgained) hbefore
  · obtain rfl := Option.some.inj (hs'.symm.trans hgained)
    exact he

/-! ## Runs -/

/-- **Nothing is done without a yes.** Whatever the keys, the mouse, the palette, the snapshots and the
host's answers, the calls that need a confirmation are, in order and once each, those of the actions that
the dialog showed when it was answered with `y`, `Y` or Enter. -/
theorem performed_eq_confirmed (config : CliConfig) (containerEngine clusterEngine : Bool)
    (inputs : List Input) :
    let start := withConfig config containerEngine clusterEngine
    (Runs.run (step lib) start inputs).performed.filter Effect.confirmed =
      Runs.trace (step lib) confirmedCalls start inputs := by
  intro start
  exact Runs.log_run (fun s : AppState => s.performed.filter Effect.confirmed)
    (fun s input => (confirms_step lib s input).filter_performed) inputs start

/-- The action was put into the dialog by a key pressed while the dialog was down, names the process or
container that the tables had then, which is a row of the last snapshot shown by then, and has stood there
since. -/
def WasAsked (lib : Lib) (start : AppState) (inputs : List Input) (action : ConfirmAction) : Prop :=
  ∃ before input after key, inputs = before ++ input :: after ∧ input.event = .key key ∧
    (Runs.run (step lib) start before).confirm = none ∧
    Asked (Runs.run (step lib) start before).toViews action ∧
    (∃ snapshot, (Runs.run (step lib) start before).lastSnapshot = some snapshot ∧
      action.NamesRowOf snapshot ∧ ∃ arrival ∈ before, arrival.event = .snapshot snapshot) ∧
    ∀ mid, mid <+: after →
      (Runs.run (step lib) start (before ++ input :: mid)).confirm = some action

/-- The dialog that is up was put up by the last request, and has stood since. -/
theorem wasAsked_of_confirm {config : CliConfig} {containerEngine clusterEngine : Bool}
    {inputs : List Input} {action : ConfirmAction}
    (hshown : (Runs.run (step lib) (withConfig config containerEngine clusterEngine) inputs).confirm =
      some action) :
    WasAsked lib (withConfig config containerEngine clusterEngine) inputs action := by
  set start := withConfig config containerEngine clusterEngine
  have hdown : ¬ start.confirm = some action := nofun
  obtain ⟨before, input, after, rfl, hbefore, hkept⟩ :=
    Runs.exists_gaining_step (I := fun s : AppState => s.confirm = some action) inputs hdown hshown
  have hgained := hkept [] (List.nil_prefix ..)
  rw [Runs.run_append] at hgained
  rcases (confirms_step lib (Runs.run (step lib) start before) input).confirm with hsame | hnone | hasks
  · exact absurd (hsame ▸ hgained) hbefore
  · exact absurd (hnone.symm.trans hgained) nofun
  · obtain ⟨hwas, ⟨key, hkey⟩, action', haction, hasked⟩ := hasks
    obtain rfl := Option.some.inj (haction.symm.trans hgained)
    have hcoherent := @coherent_run lib config containerEngine clusterEngine before
    obtain ⟨snapshot, hsnapshot, hrow⟩ := Views.exists_snapshot_of_asked hcoherent hasked
    exact ⟨before, input, after, key, rfl, hkey, hwas, hasked,
      ⟨snapshot, hsnapshot, hrow, exists_arrival rfl hsnapshot⟩, hkept⟩

/-- **What the dialog shows was asked for, about a row that was there.** In every state that can be
reached, an action in the dialog was put there by a key, about a row of the tables, and stays there until
it is answered. -/
theorem dialog_was_asked (lib : Lib) (config : CliConfig) (containerEngine clusterEngine : Bool)
    (inputs : List Input) (action : ConfirmAction) :
    let start := withConfig config containerEngine clusterEngine
    (Runs.run (step lib) start inputs).confirm = some action → WasAsked lib start inputs action :=
  wasAsked_of_confirm

/-- A process arrives and is asked to be killed, then a later snapshot comes. -/
def askedToKill : List Input :=
  [.arrive 0 { (default : SystemSnapshot) with processes := [{ (default : ProcessInfo) with pid := 7 }] },
    .press 1 .tab, .press 2 (.f 9), .arrive 3 default]

theorem dialog_was_asked_f9 :
    WasAsked .ascii (withConfig {} false false) askedToKill (.kill 7 "" .term) :=
  dialog_was_asked .ascii {} false false askedToKill (.kill 7 "" .term) (by decide)

end AppState

end Muxtop.Tui
