import Muxtop.Tui.Confirmations

/-!
# The interface's thread

Reference: `EventHandler::poll_event` of `muxtop-tui/src/event.rs` and `run` of `muxtop-tui/src/lib.rs`.

The thread drains the channel of snapshots before it asks the terminal for an event, and takes up the last
snapshot that it found there. It leaves when the user has quit or the terminal fails, and drops its end of
the channel. Where the snapshots come from is left open: a turn is told what the channel has first.
-/

namespace Muxtop.Tui

open Muxtop.Core

/-- Where the thread stands: draining the channel, with the snapshot it found last, asking the terminal
for an event, or gone, for want of a terminal or not. -/
inductive PollPhase
  | draining (latest : Option SystemSnapshot)
  | terminal
  | gone (failed : Bool)

structure Interface where
  poll : PollPhase
  app : AppState

/-- What a turn asks of the channel: nothing, what it has first, or leave to go. -/
inductive Demand
  | nothing
  | recv
  | leave
deriving DecidableEq

namespace Interface

inductive Event
  /-- a `try_recv`, and with it the turn of the loop that takes up a snapshot -/
  | drain (w : World)
  /-- what the terminal answers, if it has an event -/
  | terminal (input : Input)
  /-- reading from the terminal or drawing on it fails -/
  | failed

def isSnapshot : Tui.Event → Bool
  | .snapshot _ => true
  | _ => false

def start (config : CliConfig) (containerEngine clusterEngine : Bool) : Interface where
  poll := .draining none
  app := .withConfig config containerEngine clusterEngine

def demand (i : Interface) : Event → Demand
  | .drain _ =>
    match i.poll with
    | .draining _ => if i.app.running then .recv else .leave
    | _ => .nothing
  | .terminal _ => .nothing
  | .failed =>
    match i.poll with
    | .draining none | .terminal => .leave
    | _ => .nothing

/-- One event of the thread, `next` being what the channel has first. An event that the thread is not ready
for does not happen. -/
def step (lib : Lib) (next : Option SystemSnapshot) (i : Interface) : Event → Interface
  | .drain w =>
    match i.poll with
    | .draining latest =>
      if i.app.running then
        match next, latest with
        | some snapshot, _ => { i with poll := .draining (some snapshot) }
        | none, some snapshot => ⟨.draining none, i.app.step lib ⟨w, .snapshot snapshot⟩⟩
        | none, none => { i with poll := .terminal }
      else { i with poll := .gone false }
    | _ => i
  | .terminal input =>
    match i.poll with
    | .terminal => if isSnapshot input.event then i else ⟨.draining none, i.app.step lib input⟩
    | _ => i
  | .failed =>
    match i.poll with
    | .draining none | .terminal => { i with poll := .gone true }
    | _ => i

variable {lib : Lib} {next : Option SystemSnapshot} {i : Interface}

/-- What a turn can do: what it asks of the channel, and how the thread stands then. -/
inductive Turn (lib : Lib) (next : Option SystemSnapshot) (i : Interface) :
    Event → Demand → Interface → Prop
  | idle {e : Event} : Turn lib next i e .nothing i
  | found {w : World} {latest : Option SystemSnapshot} {snapshot : SystemSnapshot}
      (hpoll : i.poll = .draining latest) (hrunning : i.app.running = true)
      (hnext : next = some snapshot) :
      Turn lib next i (.drain w) .recv { i with poll := .draining (some snapshot) }
  | takeUp {w : World} {snapshot : SystemSnapshot} (hpoll : i.poll = .draining (some snapshot))
      (hrunning : i.app.running = true) (hnext : next = none) :
      Turn lib next i (.drain w) .recv ⟨.draining none, i.app.step lib ⟨w, .snapshot snapshot⟩⟩
  | ask {w : World} (hpoll : i.poll = .draining none) (hrunning : i.app.running = true)
      (hnext : next = none) : Turn lib next i (.drain w) .recv { i with poll := .terminal }
  | leave {w : World} {latest : Option SystemSnapshot} (hpoll : i.poll = .draining latest)
      (hrunning : i.app.running = false) :
      Turn lib next i (.drain w) .leave { i with poll := .gone false }
  | answer {input : Input} (hpoll : i.poll = .terminal) (hevent : isSnapshot input.event = false) :
      Turn lib next i (.terminal input) .nothing ⟨.draining none, i.app.step lib input⟩
  | failed (hpoll : i.poll = .draining none ∨ i.poll = .terminal) :
      Turn lib next i .failed .leave { i with poll := .gone true }

/-- A drain is decided by whether the user has quit, and by what was found before and now. -/
theorem turn_drain (w : World) :
    Turn lib next i (.drain w) (i.demand (.drain w)) (i.step lib next (.drain w)) := by
  cases hpoll : i.poll
  case draining latest =>
    cases hrunning : i.app.running
    case false =>
      simp only [demand, step, hpoll, hrunning]
      exact .leave hpoll hrunning
    case true =>
      rcases hnext : next with _ | snapshot
      · rcases latest with _ | snapshot
        · simp only [demand, step, hpoll, hrunning]
          exact .ask hpoll hrunning rfl
        · simp only [demand, step, hpoll, hrunning]
          exact .takeUp hpoll hrunning rfl
      · simp only [demand, step, hpoll, hrunning]
        exact .found hpoll hrunning rfl
  all_goals
    simp only [demand, step, hpoll]
    exact .idle

/-- An answer of the terminal counts only while the thread asks for one. -/
theorem turn_terminal (input : Input) :
    Turn lib next i (.terminal input) (i.demand (.terminal input)) (i.step lib next (.terminal input)) := by
  cases hpoll : i.poll
  case terminal =>
    cases hevent : isSnapshot input.event
    case true =>
      simp only [demand, step, hpoll, hevent]
      exact .idle
    case false =>
      simp only [demand, step, hpoll, hevent]
      exact .answer hpoll hevent
  all_goals
    simp only [demand, step, hpoll]
    exact .idle

/-- The terminal may fail where it is asked or drawn on, not between two snapshots. -/
theorem turn_failed : Turn lib next i .failed (i.demand .failed) (i.step lib next .failed) := by
  rcases hpoll : i.poll with (_ | snapshot) | _ | failed
  · simp only [demand, step, hpoll]
    exact .failed (.inl hpoll)
  · simp only [demand, step, hpoll]
    exact .idle
  · simp only [demand, step, hpoll]
    exact .failed (.inr hpoll)
  · simp only [demand, step, hpoll]
    exact .idle

/-- Every step is one of these. -/
theorem turn (lib : Lib) (next : Option SystemSnapshot) (i : Interface) (e : Event) :
    Turn lib next i e (i.demand e) (i.step lib next e) := by
  rcases e with w | input | _
  · exact turn_drain w
  · exact turn_terminal input
  · exact turn_failed

/-! ## What is shown -/

/-- The thread is there. -/
def there (i : Interface) : Prop := ∀ failed, i.poll ≠ .gone failed

/-- A thread that has gone is not there. -/
theorem not_there {failed : Bool} (h : i.poll = .gone failed) : ¬ i.there := fun hthere => hthere failed h

/-- While it drains the channel, the thread is there. -/
theorem there_of_draining {latest : Option SystemSnapshot} (h : i.poll = .draining latest) : i.there := by
  intro failed hgone
  rw [h] at hgone
  cases hgone

/-- While it asks the terminal, the thread is there. -/
theorem there_of_terminal (h : i.poll = .terminal) : i.there := by
  intro failed hgone
  rw [h] at hgone
  cases hgone

/-- The thread takes up the snapshot that it found last, the channel being empty, and shows it. -/
structure Delivers (i : Interface) (next : Option SystemSnapshot) (snapshot : SystemSnapshot) : Prop where
  poll : i.poll = .draining (some snapshot)
  running : i.app.running = true
  empty : next = none
  paused : i.app.paused = false

/-- What is delivered goes into the views. -/
theorem app_of_delivers {snapshot : SystemSnapshot} (h : i.Delivers next snapshot) (w : World) :
    (i.step lib next (.drain w)).app = i.app.mapViews (·.takeSnapshot lib snapshot) := by
  have hstep : i.step lib next (.drain w) = ⟨.draining none, i.app.step lib ⟨w, .snapshot snapshot⟩⟩ := by
    simp only [step, h.poll, h.running, h.empty, if_true]
  rw [hstep]
  show i.app.step lib ⟨w, .snapshot snapshot⟩ = _
  unfold AppState.step
  rw [if_pos h.running]
  exact if_neg (by simp [h.paused])

/-- What is delivered is shown from then on. -/
theorem lastSnapshot_of_delivers {snapshot : SystemSnapshot} (h : i.Delivers next snapshot) (w : World) :
    (i.step lib next (.drain w)).app.lastSnapshot = some snapshot := by
  rw [app_of_delivers h]
  show ({ i.app.toViews with lastSnapshot := some snapshot }.recomputeVisible lib).lastSnapshot = _
  exact Views.recomputeVisible_lastSnapshot

/-- Nothing else changes what is shown. -/
theorem lastSnapshot_step (e : Event) :
    (i.step lib next e).app.lastSnapshot = i.app.lastSnapshot ∨
      ∃ w snapshot, e = .drain w ∧ i.Delivers next snapshot := by
  have hturn := turn lib next i e
  generalize i.demand e = demand, i.step lib next e = i' at hturn
  rcases hturn with _ | ⟨hpoll, hrunning, hnext⟩ | ⟨hpoll, hrunning, hnext⟩ | ⟨hpoll, hrunning, hnext⟩ |
    ⟨hpoll, hrunning⟩ | ⟨hpoll, hevent⟩ | hpoll
  case takeUp w snapshot =>
    -- A paused interface drops what it takes up.
    cases hpaused : i.app.paused
    case false => exact .inr ⟨w, snapshot, rfl, hpoll, hrunning, hnext, hpaused⟩
    case true =>
      left
      have hkept : i.app.step lib ⟨w, .snapshot snapshot⟩ = i.app := by
        unfold AppState.step
        rw [if_pos hrunning]
        exact if_pos hpaused
      exact congrArg (fun app : AppState => app.lastSnapshot) hkept
  case answer input =>
    left
    rcases @AppState.lastSnapshot_step lib i.app input with hsame | ⟨snapshot, hsnapshot, -⟩
    · exact hsame
    · rw [hsnapshot] at hevent
      cases hevent
  all_goals exact .inl rfl

/-! ## What a turn does to the channel -/

/-- What a turn takes out of the channel. -/
def takes (i : Interface) (next : Option SystemSnapshot) (e : Event) : List SystemSnapshot :=
  if i.demand e = .recv then next.toList else []

/-- What was found last was taken last. -/
def Holds (i : Interface) (taken : List SystemSnapshot) : Prop :=
  ∀ snapshot, i.poll = .draining (some snapshot) → taken.getLast? = some snapshot

variable {taken : List SystemSnapshot}

/-- With nothing in hand there is nothing to account for. -/
theorem holds_of_none (h : ∀ snapshot, i.poll ≠ .draining (some snapshot)) : i.Holds taken :=
  fun snapshot hfound => absurd hfound (h snapshot)

/-- A drain that has found nothing yet has nothing in hand. -/
theorem draining_none_ne (snapshot : SystemSnapshot) : PollPhase.draining none ≠ .draining (some snapshot) :=
  nofun

/-- While it asks the terminal, the thread has nothing in hand. -/
theorem terminal_ne (snapshot : SystemSnapshot) : PollPhase.terminal ≠ .draining (some snapshot) :=
  nofun

/-- A thread that has gone has nothing in hand. -/
theorem gone_ne (failed : Bool) (snapshot : SystemSnapshot) :
    PollPhase.gone failed ≠ .draining (some snapshot) :=
  nofun

/-- The thread starts with nothing in hand. -/
theorem holds_start (config : CliConfig) (containerEngine clusterEngine : Bool) :
    (start config containerEngine clusterEngine).Holds [] :=
  holds_of_none draining_none_ne

/-- A turn keeps in hand what it took last, or nothing. -/
theorem holds_step (h : i.Holds taken) (e : Event) :
    (i.step lib next e).Holds (taken ++ i.takes next e) := by
  have hturn := turn lib next i e
  unfold takes
  generalize i.demand e = demand, i.step lib next e = i' at hturn
  rcases hturn with _ | ⟨hpoll, hrunning, hnext⟩ | ⟨hpoll, hrunning, hnext⟩ | ⟨hpoll, hrunning, hnext⟩ |
    ⟨hpoll, hrunning⟩ | ⟨hpoll, hevent⟩ | hpoll
  case idle =>
    rw [if_neg (by decide), List.append_nil]
    exact h
  case found snapshot =>
    rintro found hfound
    obtain rfl := Option.some.inj (PollPhase.draining.inj hfound)
    rw [if_pos rfl, hnext]
    exact List.getLast?_concat
  case takeUp => exact holds_of_none draining_none_ne
  case ask => exact holds_of_none terminal_ne
  case leave => exact holds_of_none (gone_ne false)
  case answer => exact holds_of_none draining_none_ne
  case failed => exact holds_of_none (gone_ne true)

/-- The thread is gone exactly when it has asked to leave, which it does once the user has quit or the
terminal has failed. -/
structure Quits (i : Interface) (left : Bool) : Prop where
  left : left = true ↔ ¬ i.there
  stopped : i.app.running = false → i.poll = .draining none ∨ ∃ failed, i.poll = .gone failed
  quit : i.poll = .gone false → i.app.running = false

/-- At the start no one has left. -/
theorem quits_start (config : CliConfig) (containerEngine clusterEngine : Bool) :
    (start config containerEngine clusterEngine).Quits false where
  left := ⟨nofun, fun hgone => absurd (there_of_draining rfl) hgone⟩
  stopped hstopped := absurd hstopped nofun
  quit hgone := absurd hgone nofun

/-- A turn after which the thread is still there. -/
theorem quits_of_there {i' : Interface} {left : Bool} (h : i.Quits left) (hthere : i.there)
    (hthere' : i'.there) (hstopped : i'.app.running = false → i'.poll = .draining none) : i'.Quits left := by
  have hleft : left = false := by
    by_contra hleft
    exact h.left.1 (by simpa using hleft) hthere
  exact ⟨⟨fun hl => absurd (hleft.symm.trans hl) nofun, fun hgone => absurd hthere' hgone⟩,
    fun hno => .inl (hstopped hno), fun hgone => absurd hgone (hthere' false)⟩

/-- A turn that asks to leave ends the thread, and no other does. -/
theorem quits_step {left : Bool} (h : i.Quits left) (e : Event) :
    (i.step lib next e).Quits (left || decide (i.demand e = .leave)) := by
  have hturn := turn lib next i e
  generalize i.demand e = demand, i.step lib next e = i' at hturn
  rcases hturn with _ | ⟨hpoll, hrunning, hnext⟩ | ⟨hpoll, hrunning, hnext⟩ | ⟨hpoll, hrunning, hnext⟩ |
    ⟨hpoll, hrunning⟩ | ⟨hpoll, hevent⟩ | hpoll
  -- Only the two ways out set the flag; all other turns keep the invariant's parts.
  case idle => exact (Bool.or_false left).symm ▸ h
  case found =>
    rw [show (left || decide (Demand.recv = .leave)) = left from Bool.or_false left]
    exact quits_of_there h (there_of_draining hpoll) (there_of_draining rfl) fun hno =>
      absurd (hrunning.symm.trans hno) nofun
  case takeUp =>
    rw [show (left || decide (Demand.recv = .leave)) = left from Bool.or_false left]
    exact quits_of_there h (there_of_draining hpoll) (there_of_draining rfl) fun _ => rfl
  case ask =>
    rw [show (left || decide (Demand.recv = .leave)) = left from Bool.or_false left]
    exact quits_of_there h (there_of_draining hpoll) (there_of_terminal rfl) fun hno =>
      absurd (hrunning.symm.trans hno) nofun
  case leave =>
    rw [show (left || decide (Demand.leave = .leave)) = true from Bool.or_true left]
    exact ⟨⟨fun _ => not_there rfl, fun _ => rfl⟩, fun _ => .inr ⟨false, rfl⟩, fun _ => hrunning⟩
  case answer =>
    rw [show (left || decide (Demand.nothing = .leave)) = left from Bool.or_false left]
    exact quits_of_there h (there_of_terminal hpoll) (there_of_draining rfl) fun _ => rfl
  case failed =>
    rw [show (left || decide (Demand.leave = .leave)) = true from Bool.or_true left]
    exact ⟨⟨fun _ => not_there rfl, fun _ => rfl⟩, fun _ => .inr ⟨true, rfl⟩,
      fun hgone => absurd (PollPhase.gone.inj hgone) nofun⟩

end Interface

end Muxtop.Tui
