import Muxtop.Foundation.Refusals

/-!
# The terminal

Reference: `init_terminal`, `restore_terminal`, `TerminalGuard` and `install_panic_hook` of
`muxtop-tui/src/terminal.rs`, and `run` of `muxtop-tui/src/lib.rs`.

The interface takes the terminal over, and has to give it back however it ends. Any command may be refused.
-/

namespace Muxtop.Tui.Terminal

open Refusals (World Answer issue issueAll Since)

/-- What of the terminal the program changes. -/
structure Modes where
  raw : Bool
  alternateScreen : Bool
  mouseCapture : Bool
  cursorHidden : Bool
deriving DecidableEq

def asFound : Modes := ⟨false, false, false, false⟩

inductive Command
  | enableRawMode | disableRawMode
  | enterAlternateScreen | leaveAlternateScreen
  | enableMouseCapture | disableMouseCapture
  /-- asked for by `Terminal::new` -/
  | size
  /-- `event::poll` and `event::read` -/
  | read
  /-- a frame, which hides the cursor -/
  | draw
  | showCursor
deriving DecidableEq

def effect : Command → Modes → Modes
  | .enableRawMode, m => { m with raw := true }
  | .disableRawMode, m => { m with raw := false }
  | .enterAlternateScreen, m => { m with alternateScreen := true }
  | .leaveAlternateScreen, m => { m with alternateScreen := false }
  | .enableMouseCapture, m => { m with mouseCapture := true }
  | .disableMouseCapture, m => { m with mouseCapture := false }
  | .size, m => m
  | .read, m => m
  | .draw, m => { m with cursorHidden := true }
  | .showCursor, m => { m with cursorHidden := false }

abbrev Tty := World Modes Command

/-- `restore_terminal`, and whether it succeeds. -/
def restoreTerminal (mouseEnabled : Bool) (w : Tty) : Bool × Tty :=
  issueAll effect
    (.disableRawMode :: (if mouseEnabled then [.disableMouseCapture] else []) ++
      [.leaveAlternateScreen, .showCursor]) w

/-- `restore_stdout`, whose result is ignored where it is called. -/
def restoreStdout (mouseEnabled : Bool) (w : Tty) : Tty :=
  let w := if mouseEnabled then (issue effect .disableMouseCapture w).2 else w
  (issue effect .leaveAlternateScreen w).2

/-- `enable_raw_mode` and what follows: whether mouse capture is on, and where the terminal stands before
anything is taken back and after; `none` if the terminal cannot be had. -/
def initTerminal (mouse : Bool) (w : Tty) : Option Bool × Tty × Tty :=
  match issue effect .enableRawMode w with
  | (false, w) => (none, w, w)
  | (true, w) =>
    match issue effect .enterAlternateScreen w with
    | (false, w) => (none, w, (issue effect .disableRawMode w).2)
    | (true, w) =>
      -- best effort
      let (mouseEnabled, w) := if mouse then issue effect .enableMouseCapture w else (false, w)
      match issue effect .size w with
      | (true, w) => (some mouseEnabled, w, w)
      | (false, w) => (none, w, (issue effect .disableRawMode (restoreStdout mouseEnabled w)).2)

/-- The panic hook: what it does is ignored if it fails. -/
def panicHook (w : Tty) : Tty :=
  (issueAll effect [.disableMouseCapture, .leaveAlternateScreen, .showCursor]
    (issue effect .disableRawMode w).2).2

/-- What the loop does: it asks for an event, draws a frame, or panics. -/
inductive Turn
  | read | draw | panic
deriving DecidableEq

inductive Ending
  | quit | failed | panicked
deriving DecidableEq

def loop : List Turn → Tty → Ending × Tty
  | [], w => (.quit, w)
  | .read :: turns, w =>
    match issue effect .read w with
    | (true, w) => loop turns w
    | (false, w) => (.failed, w)
  | .draw :: turns, w =>
    match issue effect .draw w with
    | (true, w) => loop turns w
    | (false, w) => (.failed, w)
  | .panic :: _, w => (.panicked, w)

/-- How the interface ended, the terminal when it was left, and when the program was through with it. -/
structure Exit where
  ending : Ending
  left : Tty
  final : Tty

/-- `run`. The guard is dropped on the way out; after a panic it is if the panic unwinds, which it does not in
a release build. -/
def run (mouse unwinds : Bool) (turns : List Turn) (w : Tty) : Exit :=
  match initTerminal mouse w with
  | (none, left, final) => ⟨.failed, left, final⟩
  | (some mouseEnabled, w, _) =>
    match loop turns w with
    | (.quit, left) =>
      let (restored, w) := restoreTerminal mouseEnabled left
      ⟨if restored then .quit else .failed, left, (restoreTerminal mouseEnabled w).2⟩
    | (.failed, left) => ⟨.failed, left, (restoreTerminal mouseEnabled left).2⟩
    | (.panicked, left) =>
      let w := panicHook left
      ⟨.panicked, left, if unwinds then (restoreTerminal mouseEnabled w).2 else w⟩

/-- A terminal as it was found, and what it will answer. -/
def found (answers : List Answer) : Tty := ⟨asFound, answers, []⟩

/-- The modes that a terminal is in after some commands. -/
def told (issued : List (Command × Answer)) : Modes :=
  issued.foldl (fun s p => if p.2 = .refused false then s else effect p.1 s) asFound

/-- The terminal is as it was found, but for modes that it refused to enter and entered all the same. -/
structure GivenBack (w : Tty) : Prop where
  raw : w.state.raw = true → (.enableRawMode, .refused true) ∈ w.issued
  alternateScreen : w.state.alternateScreen = true → (.enterAlternateScreen, .refused true) ∈ w.issued
  mouseCapture : w.state.mouseCapture = true → (.enableMouseCapture, .refused true) ∈ w.issued
  cursorHidden : w.state.cursorHidden = false

/-! ## Taking back -/

variable {mouse mouseEnabled : Bool} {answers : List Answer} {w w' : Tty} {new : List (Command × Answer)}

/-- The commands that take something back. -/
def TakesBack (c : Command) : Prop :=
  c = .disableRawMode ∨ c = .disableMouseCapture ∨ c = .leaveAlternateScreen ∨ c = .showCursor

/-- All that a restore asks for takes something back. -/
theorem takesBack_of_restore {c : Command}
    (h : c ∈ Command.disableRawMode :: (if mouseEnabled then [.disableMouseCapture] else []) ++
      [.leaveAlternateScreen, .showCursor]) : TakesBack c := by
  cases mouseEnabled
  · simp only [Bool.false_eq_true, if_false, List.cons_append, List.nil_append, List.mem_cons,
      List.not_mem_nil, or_false] at h
    rcases h with rfl | rfl | rfl
    · exact .inl rfl
    · exact .inr (.inr (.inl rfl))
    · exact .inr (.inr (.inr rfl))
  · simp only [if_true, List.cons_append, List.nil_append, List.mem_cons, List.not_mem_nil, or_false] at h
    rcases h with rfl | rfl | rfl | rfl
    · exact .inl rfl
    · exact .inr (.inl rfl)
    · exact .inr (.inr (.inl rfl))
    · exact .inr (.inr (.inr rfl))

/-- What is given back stays so, whatever more is taken back. -/
theorem GivenBack.since (h : GivenBack w) (hsince : Since effect w new w') (hback : ∀ p ∈ new, TakesBack p.1) :
    GivenBack w' := by
  have hkept : (w'.state.raw = true → w.state.raw = true) ∧
      (w'.state.alternateScreen = true → w.state.alternateScreen = true) ∧
      (w'.state.mouseCapture = true → w.state.mouseCapture = true) ∧ w'.state.cursorHidden = false := by
    refine hsince.invariant (P := fun m => (m.raw = true → w.state.raw = true) ∧
      (m.alternateScreen = true → w.state.alternateScreen = true) ∧
      (m.mouseCapture = true → w.state.mouseCapture = true) ∧ m.cursorHidden = false) ?_
      ⟨id, id, id, h.cursorHidden⟩
    rintro ⟨c, answer⟩ hp m ⟨hraw, hscreen, hmouse, hcursor⟩
    rcases hback _ hp with hc | hc | hc | hc
    · obtain rfl : c = .disableRawMode := hc
      exact ⟨fun h => absurd h Bool.false_ne_true, hscreen, hmouse, hcursor⟩
    · obtain rfl : c = .disableMouseCapture := hc
      exact ⟨hraw, hscreen, fun h => absurd h Bool.false_ne_true, hcursor⟩
    · obtain rfl : c = .leaveAlternateScreen := hc
      exact ⟨hraw, fun h => absurd h Bool.false_ne_true, hmouse, hcursor⟩
    · obtain rfl : c = .showCursor := hc
      exact ⟨hraw, hscreen, hmouse, rfl⟩
  have hissued : ∀ p ∈ w.issued, p ∈ w'.issued := fun p hp => hsince.issued ▸ List.mem_append_left _ hp
  exact ⟨fun hon => hissued _ (h.raw (hkept.1 hon)), fun hon => hissued _ (h.alternateScreen (hkept.2.1 hon)),
    fun hon => hissued _ (h.mouseCapture (hkept.2.2.1 hon)), hkept.2.2.2⟩

/-- A restore asks for everything, and succeeds if all of it does. -/
theorem since_restoreTerminal (mouseEnabled : Bool) (w : Tty) :
    ∃ new, Since effect w new (restoreTerminal mouseEnabled w).2 ∧ (∀ p ∈ new, TakesBack p.1) ∧
      ((restoreTerminal mouseEnabled w).1 = true ↔ ∀ p ∈ new, p.2 = .accepted) := by
  obtain ⟨new, hsince, hmem, hall, hrefused⟩ := Refusals.since_issueAll effect _ w
  refine ⟨new, hsince, fun p hp => takesBack_of_restore (hmem p hp), fun h p hp => ?_, fun h => ?_⟩
  · rw [hall h] at hp
    obtain ⟨c, -, rfl⟩ := List.mem_map.1 hp
    rfl
  · by_contra hnot
    obtain ⟨p, hp, hnot⟩ := hrefused (Bool.eq_false_iff.2 hnot)
    exact hnot (h p hp)

/-- A terminal that accepts being restored is given back, if its mouse is only captured where the program
knows it. -/
theorem givenBack_restoreTerminal
    (hmouse : w.state.mouseCapture = true →
      mouseEnabled = true ∨ (.enableMouseCapture, .refused true) ∈ w.issued)
    (haccepted : (restoreTerminal mouseEnabled w).1 = true) : GivenBack (restoreTerminal mouseEnabled w).2 := by
  obtain ⟨new, hsince, -, hall, -⟩ := Refusals.since_issueAll effect
    (.disableRawMode :: (if mouseEnabled then [.disableMouseCapture] else []) ++
      [.leaveAlternateScreen, .showCursor]) w
  have hstate := hsince.state
  rw [hall haccepted] at hstate
  have hissued : ∀ p ∈ w.issued, p ∈ (restoreTerminal mouseEnabled w).2.issued :=
    fun p hp => hsince.issued ▸ List.mem_append_left _ hp
  -- Without the mouse the capture is as it was found, on only where its refusal was told.
  cases mouseEnabled
  · have hmodes : (restoreTerminal false w).2.state = ⟨false, false, w.state.mouseCapture, false⟩ := hstate
    refine ⟨?_, ?_, fun hon => ?_, ?_⟩
    · rw [hmodes]
      exact fun h => by cases h
    · rw [hmodes]
      exact fun h => by cases h
    · rw [hmodes] at hon
      rcases hmouse hon with h | h
      · cases h
      · exact hissued _ h
    · rw [hmodes]
  · have hmodes : (restoreTerminal true w).2.state = asFound := hstate
    refine ⟨?_, ?_, ?_, ?_⟩ <;> rw [hmodes]
    · exact fun h => by cases h
    · exact fun h => by cases h
    · exact fun h => by cases h
    · rfl

/-! ## Taking over -/

/-- The modes of a terminal are those that it was told. -/
def Told (w : Tty) : Prop := w.state = told w.issued

/-- At the start nothing was asked for. -/
theorem told_found (answers : List Answer) : Told (found answers) := rfl

/-- The modes are what the terminal was told, however much more it is told. -/
theorem Told.since (h : Told w) (hsince : Since effect w new w') : Told w' := by
  rw [Told, hsince.state, hsince.issued, told, List.foldl_append, h]
  rfl

/-- Every frame is drawn in raw mode on the alternate screen, and the mouse is captured only where that was
asked for. -/
def Framed (mouse : Bool) (issued : List (Command × Answer)) : Prop :=
  ∀ before answer after, issued = before ++ (.draw, answer) :: after →
    (told before).raw = true ∧ (told before).alternateScreen = true ∧
      ((told before).mouseCapture = true → mouse = true)

/-- What draws nothing needs no frame. -/
theorem Framed.append {issued : List (Command × Answer)} (h : Framed mouse issued)
    (hnew : ∀ p ∈ new, p.1 ≠ .draw) : Framed mouse (issued ++ new) := by
  intro before answer after hsplit
  rcases List.append_eq_append_iff.1 hsplit with ⟨middle, rfl, hmiddle⟩ | ⟨middle, hissued, hmiddle⟩
  · exact absurd rfl (hnew (.draw, answer) (hmiddle ▸ List.mem_append_right _ List.mem_cons_self))
  · rcases middle with _ | ⟨p, middle⟩
    · rw [List.nil_append] at hmiddle
      exact absurd rfl (hnew (.draw, answer) (hmiddle ▸ List.mem_cons_self))
    · obtain ⟨rfl, -⟩ := List.cons.inj hmiddle
      exact h before answer middle hissued

/-- At the start nothing was drawn. -/
theorem framed_nil : Framed mouse [] := by
  intro before answer after hsplit
  cases before <;> cases hsplit

/-- Taking back draws nothing. -/
theorem TakesBack.ne_draw {c : Command} (h : TakesBack c) : c ≠ .draw := by
  rcases h with rfl | rfl | rfl | rfl <;> decide

/-- What is true while the interface has the terminal. -/
structure Up (mouse mouseEnabled : Bool) (w : Tty) : Prop where
  asTold : Told w
  raw : w.state.raw = true
  alternateScreen : w.state.alternateScreen = true
  wanted : w.state.mouseCapture = true → mouse = true
  known : w.state.mouseCapture = true →
    mouseEnabled = true ∨ (.enableMouseCapture, .refused true) ∈ w.issued
  framed : Framed mouse w.issued

/-- Asking for an event and drawing a frame leave all of it as it is. -/
theorem Up.after (h : Up mouse mouseEnabled w) {c : Command} (hc : c = .read ∨ c = .draw) :
    Up mouse mouseEnabled (issue effect c w).2 := by
  obtain ⟨answer, hsince, -⟩ := Refusals.since_issue effect c w
  have hmodes : (issue effect c w).2.state.raw = w.state.raw ∧
      (issue effect c w).2.state.alternateScreen = w.state.alternateScreen ∧
      (issue effect c w).2.state.mouseCapture = w.state.mouseCapture := by
    refine hsince.invariant (P := fun m => m.raw = w.state.raw ∧
      m.alternateScreen = w.state.alternateScreen ∧ m.mouseCapture = w.state.mouseCapture) ?_ ⟨rfl, rfl, rfl⟩
    intro p hp m hm
    obtain rfl := List.mem_singleton.1 hp
    rcases hc with rfl | rfl
    · exact hm
    · exact hm
  have hissued : ∀ p ∈ w.issued, p ∈ (issue effect c w).2.issued :=
    fun p hp => hsince.issued ▸ List.mem_append_left _ hp
  refine ⟨h.asTold.since hsince, hmodes.1.trans h.raw, hmodes.2.1.trans h.alternateScreen,
    fun hon => h.wanted (hmodes.2.2 ▸ hon), fun hon => (h.known (hmodes.2.2 ▸ hon)).imp_right (hissued _), ?_⟩
  rw [hsince.issued]
  intro before drawn after hsplit
  rcases List.eq_nil_or_concat after with rfl | ⟨after, last, rfl⟩
  · -- the frame that is drawn now
    obtain ⟨rfl, -⟩ := List.append_inj' hsplit rfl
    rw [← show w.state = told w.issued from h.asTold]
    exact ⟨h.raw, h.alternateScreen, h.wanted⟩
  · rw [List.concat_eq_append, ← List.cons_append, ← List.append_assoc] at hsplit
    obtain ⟨hbefore, -⟩ := List.append_inj' hsplit rfl
    exact h.framed before drawn after hbefore

/-- The loop draws on a terminal that was taken over, and leaves it so. -/
theorem up_loop (turns : List Turn) (h : Up mouse mouseEnabled w) : Up mouse mouseEnabled (loop turns w).2 := by
  induction turns generalizing w with
  | nil => exact h
  | cons turn turns ih =>
    rcases turn with _ | _ | _
    · have hnext := h.after (.inl rfl : Command.read = .read ∨ _)
      rcases hissue : Refusals.issue effect .read w with ⟨_ | _, w'⟩
      · simpa only [loop, hissue] using hnext
      · rw [hissue] at hnext
        simpa only [loop, hissue] using ih hnext
    · have hnext := h.after (.inr rfl : Command.draw = .read ∨ _)
      rcases hissue : Refusals.issue effect .draw w with ⟨_ | _, w'⟩
      · simpa only [loop, hissue] using hnext
      · rw [hissue] at hnext
        simpa only [loop, hissue] using ih hnext
    · exact h

/-- What a list of commands comes to, if it is all that the terminal was told. -/
def Back (issued : List (Command × Answer)) : Prop :=
  ((told issued).raw = true → (.enableRawMode, .refused true) ∈ issued) ∧
    ((told issued).alternateScreen = true → (.enterAlternateScreen, .refused true) ∈ issued) ∧
    ((told issued).mouseCapture = true → (.enableMouseCapture, .refused true) ∈ issued) ∧
    (told issued).cursorHidden = false

instance (issued : List (Command × Answer)) : Decidable (Back issued) := by
  unfold Back
  infer_instance

/-- A terminal from which everything was taken back is as it was found. -/
theorem Back.givenBack (h : Told w) (hback : Back w.issued) : GivenBack w := by
  rw [Told] at h
  obtain ⟨hraw, hscreen, hmouse, hcursor⟩ := hback
  rw [← h] at hraw hscreen hmouse hcursor
  exact ⟨hraw, hscreen, hmouse, hcursor⟩

/-- What comes of an attempt to take the terminal over. -/
inductive Taken (mouse : Bool) : Option Bool × Tty × Tty → Prop
  | up {mouseEnabled : Bool} {w : Tty} (h : Up mouse mouseEnabled w) : Taken mouse (some mouseEnabled, w, w)
  | given {left final : Tty} {new : List (Command × Answer)} (hsince : Since effect left new final)
      (hframed : Framed mouse final.issued) (hback : (∀ p ∈ new, p.2 = .accepted) → GivenBack final) :
      Taken mouse (none, left, final)

/-- Without a draw there is nothing to frame. -/
theorem framed_of_no_draw {issued : List (Command × Answer)} (h : ∀ p ∈ issued, p.1 ≠ .draw) :
    Framed mouse issued := framed_nil.append h

/-- What the mouse is asked for. -/
inductive MouseAsked : Bool → Bool → List (Command × Answer) → Prop
  | spared : MouseAsked false false []
  | accepted : MouseAsked true true [(.enableMouseCapture, .accepted)]
  | refused (done : Bool) : MouseAsked true false [(.enableMouseCapture, .refused done)]

/-- Mouse capture is asked for where it is configured, and may be refused. -/
theorem mouseAsked (mouse : Bool) (w : Tty) :
    ∃ tail, Since effect w tail (if mouse then issue effect .enableMouseCapture w else (false, w)).2 ∧
      MouseAsked mouse (if mouse then issue effect .enableMouseCapture w else (false, w)).1 tail := by
  cases mouse
  · exact ⟨[], Since.refl effect w, .spared⟩
  · obtain ⟨answer, hsince, haccepted⟩ := Refusals.since_issue effect .enableMouseCapture w
    refine ⟨_, hsince, ?_⟩
    rcases answer with _ | done
    · have henabled := haccepted.2 rfl
      simp only [if_true, henabled]
      exact .accepted
    · have henabled : (issue effect .enableMouseCapture w).1 = false :=
        Bool.eq_false_iff.2 fun h => by cases haccepted.1 h
      simp only [if_true, henabled]
      exact .refused done

/-- The way back from a half-done start asks for what it had got. -/
theorem since_restoreStdout (mouseEnabled : Bool) (w : Tty) :
    ∃ first second, Since effect w
      ((if mouseEnabled then [(.disableMouseCapture, first)] else []) ++ [(.leaveAlternateScreen, second)])
      (restoreStdout mouseEnabled w) := by
  cases mouseEnabled
  · obtain ⟨second, hsecond, -⟩ := Refusals.since_issue effect .leaveAlternateScreen w
    exact ⟨.accepted, second, hsecond⟩
  · obtain ⟨first, hfirst, -⟩ := Refusals.since_issue effect .disableMouseCapture w
    obtain ⟨second, hsecond, -⟩ := Refusals.since_issue effect .leaveAlternateScreen
      (issue effect .disableMouseCapture w).2
    exact ⟨first, second, hfirst.trans hsecond⟩

section

variable {tail : List (Command × Answer)} (hasked : MouseAsked mouse mouseEnabled tail)

include hasked

/-- What the terminal was told where its size could not be had, if it accepts what is taken back. -/
theorem back_of_size (answer : Answer) :
    Back ([(.enableRawMode, .accepted), (.enterAlternateScreen, .accepted)] ++ tail ++ [(.size, answer)] ++
      ((if mouseEnabled then [(.disableMouseCapture, .accepted)] else []) ++
        [(.leaveAlternateScreen, .accepted)] ++ [(.disableRawMode, .accepted)])) := by
  rcases answer with _ | ⟨_ | _⟩ <;> rcases hasked with _ | _ | ⟨_ | _⟩ <;> decide

/-- A start that fails at the size has drawn nothing. -/
theorem ne_draw_of_size {answer first second third : Answer} :
    ∀ p ∈ [(.enableRawMode, .accepted), (.enterAlternateScreen, .accepted)] ++ tail ++ [(.size, answer)] ++
      ((if mouseEnabled then [(.disableMouseCapture, first)] else []) ++
        [(.leaveAlternateScreen, second)] ++ [(.disableRawMode, third)]), p.1 ≠ Command.draw := by
  rcases hasked with _ | _ | done <;> simp

/-- What the terminal was told where it could be taken over. -/
theorem up_of_size {w : Tty}
    (hsince : Since effect (found answers) ([(.enableRawMode, .accepted), (.enterAlternateScreen, .accepted)] ++
      tail ++ [(.size, .accepted)]) w) : Up mouse mouseEnabled w := by
  have htold : Told w := (told_found answers).since hsince
  have hissued : w.issued = [(.enableRawMode, .accepted), (.enterAlternateScreen, .accepted)] ++ tail ++
      [(.size, .accepted)] := hsince.issued
  have hstate : w.state = told w.issued := htold
  refine ⟨htold, ?_, ?_, ?_, ?_, ?_⟩
  · rw [hstate, hissued]
    rcases hasked with _ | _ | ⟨_ | _⟩ <;> rfl
  · rw [hstate, hissued]
    rcases hasked with _ | _ | ⟨_ | _⟩ <;> rfl
  · rw [hstate, hissued]
    rcases hasked with _ | _ | ⟨_ | _⟩ <;> decide
  · rw [hstate, hissued]
    rcases hasked with _ | _ | ⟨_ | _⟩ <;> decide
  · rw [hissued]
    exact framed_of_no_draw (by rcases hasked with _ | _ | done <;> simp)

/-- The last step: the size of the terminal is asked for. -/
theorem taken_size {w : Tty}
    (hsince : Since effect (found answers)
      ([(.enableRawMode, .accepted), (.enterAlternateScreen, .accepted)] ++ tail) w) :
    Taken mouse (match issue effect .size w with
      | (true, w) => (some mouseEnabled, w, w)
      | (false, w) => (none, w, (issue effect .disableRawMode (restoreStdout mouseEnabled w)).2)) := by
  obtain ⟨answer, hsize, haccepted⟩ := Refusals.since_issue effect .size w
  rcases hissue : issue effect .size w with ⟨_ | _, w'⟩
  -- The terminal has no size, so the session ends here and gives back what it took.
  · rw [hissue] at hsize
    obtain ⟨first, second, hstdout⟩ := since_restoreStdout mouseEnabled w'
    obtain ⟨third, hraw, -⟩ := Refusals.since_issue effect .disableRawMode (restoreStdout mouseEnabled w')
    have hleft := hstdout.trans hraw
    have hall := (hsince.trans hsize).trans hleft
    have hissued := hall.issued
    rw [show (found answers).issued = [] from rfl, List.nil_append] at hissued
    refine .given hleft (hissued ▸ framed_of_no_draw (ne_draw_of_size hasked)) fun hnew => ?_
    refine Back.givenBack ((told_found answers).since hall) (hissued ▸ ?_)
    obtain rfl : second = .accepted := hnew (.leaveAlternateScreen, second) (by simp)
    obtain rfl : third = .accepted := hnew (.disableRawMode, third) (by simp)
    cases mouseEnabled
    · exact back_of_size hasked answer
    · obtain rfl : first = .accepted := hnew (.disableMouseCapture, first) (by simp)
      exact back_of_size hasked answer
  · rw [hissue] at hsize haccepted
    obtain rfl := haccepted.1 rfl
    exact .up (up_of_size hasked (hsince.trans hsize))

end

/-- However a start goes, it has taken over what it then accounts for. -/
theorem taken_initTerminal (mouse : Bool) (answers : List Answer) :
    Taken mouse (initTerminal mouse (found answers)) := by
  obtain ⟨first, hfirst, hraw⟩ := Refusals.since_issue effect .enableRawMode (found answers)
  rcases hissue : issue effect .enableRawMode (found answers) with ⟨_ | _, w₁⟩
  · -- raw mode is refused
    rw [hissue] at hfirst hraw
    have htaken : initTerminal mouse (found answers) = (none, w₁, w₁) := by simp only [initTerminal, hissue]
    have hissued : w₁.issued = [(.enableRawMode, first)] := hfirst.issued
    rw [htaken]
    refine .given (Since.refl effect w₁) ?_ fun _ => Back.givenBack ((told_found answers).since hfirst) ?_
    · rw [hissued]
      exact framed_of_no_draw (by simp)
    · rw [hissued]
      rcases first with _ | done
      · cases hraw.2 rfl
      · cases done <;> decide
  · rw [hissue] at hfirst hraw
    obtain rfl := hraw.1 rfl
    obtain ⟨second, hsecond, hscreen⟩ := Refusals.since_issue effect .enterAlternateScreen w₁
    rcases hissue₂ : issue effect .enterAlternateScreen w₁ with ⟨_ | _, w₂⟩
    · -- the alternate screen is refused
      rw [hissue₂] at hsecond hscreen
      have htaken : initTerminal mouse (found answers) = (none, w₂, (issue effect .disableRawMode w₂).2) := by
        simp only [initTerminal, hissue, hissue₂]
      obtain ⟨third, hthird, -⟩ := Refusals.since_issue effect .disableRawMode w₂
      have hall := (hfirst.trans hsecond).trans hthird
      have hissued : (issue effect .disableRawMode w₂).2.issued =
          [(.enableRawMode, .accepted), (.enterAlternateScreen, second), (.disableRawMode, third)] := hall.issued
      rw [htaken]
      refine .given hthird ?_ fun hnew => Back.givenBack ((told_found answers).since hall) ?_
      · rw [hissued]
        exact framed_of_no_draw (by simp)
      · obtain rfl : third = .accepted := hnew _ (List.mem_singleton_self _)
        rw [hissued]
        rcases second with _ | done
        · cases hscreen.2 rfl
        · cases done <;> decide
    · rw [hissue₂] at hsecond hscreen
      obtain rfl := hscreen.1 rfl
      obtain ⟨tail, htail, hasked⟩ := mouseAsked mouse w₂
      have htaken := taken_size hasked ((hfirst.trans hsecond).trans htail)
      simp only [initTerminal, hissue, hissue₂]
      exact htaken

/-! ## Leaving -/

/-- The hook asks for everything, whatever becomes of it. -/
theorem since_panicHook (w : Tty) :
    ∃ new, Since effect w new (panicHook w) ∧ (∀ p ∈ new, TakesBack p.1) ∧
      ((∀ p ∈ new, p.2 = .accepted) → (panicHook w).state = asFound) := by
  obtain ⟨first, hfirst, -⟩ := Refusals.since_issue effect .disableRawMode w
  obtain ⟨new, hrest, hmem, hall, hrefused⟩ := Refusals.since_issueAll effect
    [.disableMouseCapture, .leaveAlternateScreen, .showCursor] (issue effect .disableRawMode w).2
  have hsince := hfirst.trans hrest
  refine ⟨_, hsince, fun p hp => ?_, fun haccepted => ?_⟩
  · rcases List.mem_append.1 hp with hp | hp
    · exact .inl (List.mem_singleton.1 hp ▸ rfl)
    · have hc := hmem p hp
      simp only [List.mem_cons, List.not_mem_nil, or_false] at hc
      exact .inr hc
  · obtain rfl : first = .accepted := haccepted (.disableRawMode, first) (by simp)
    have hdone : (issueAll effect [.disableMouseCapture, .leaveAlternateScreen, .showCursor]
        (issue effect .disableRawMode w).2).1 = true := by
      by_contra hnot
      obtain ⟨p, hp, hnot⟩ := hrefused (Bool.eq_false_iff.2 hnot)
      exact hnot (haccepted p (List.mem_append_right _ hp))
    rw [hall hdone] at hsince
    exact hsince.state

/-- A terminal as it was found stays so under more of taking back. -/
theorem asFound_since (h : w.state = asFound) (hsince : Since effect w new w')
    (hback : ∀ p ∈ new, TakesBack p.1) : w'.state = asFound := by
  refine hsince.invariant (P := fun m => m = asFound) ?_ h
  rintro ⟨c, answer⟩ hp m rfl
  rcases hback _ hp with hc | hc | hc | hc <;> (change c = _ at hc; subst hc; rfl)

/-- What is promised of the way out. -/
structure Parting (mouse : Bool) (e : Exit) : Prop where
  framed : Framed mouse e.final.issued
  quit : e.ending = .quit → GivenBack e.final
  accepted : ∃ new, e.final.issued = e.left.issued ++ new ∧ ((∀ p ∈ new, p.2 = .accepted) →
    GivenBack e.final ∧ (e.ending = .panicked → e.final.state = asFound))

/-- The user quits: the loop's restore, and the guard's after it. -/
theorem parting_quit (h : Up mouse mouseEnabled w) :
    Parting mouse ⟨if (restoreTerminal mouseEnabled w).1 then .quit else .failed, w,
      (restoreTerminal mouseEnabled (restoreTerminal mouseEnabled w).2).2⟩ := by
  obtain ⟨new, hfirst, hback, haccepted⟩ := since_restoreTerminal mouseEnabled w
  obtain ⟨again, hsecond, hback', -⟩ := since_restoreTerminal mouseEnabled (restoreTerminal mouseEnabled w).2
  have hboth := hfirst.trans hsecond
  have hgiven (hdone : (restoreTerminal mouseEnabled w).1 = true) :
      GivenBack (restoreTerminal mouseEnabled (restoreTerminal mouseEnabled w).2).2 :=
    (givenBack_restoreTerminal h.known hdone).since hsecond hback'
  refine ⟨?_, fun hquit => ?_, _, hboth.issued, fun hall => ⟨?_, fun hpanicked => ?_⟩⟩
  · rw [hboth.issued]
    refine h.framed.append fun p hp => ?_
    exact ((List.mem_append.1 hp).elim (hback p) (hback' p)).ne_draw
  · refine hgiven ?_
    by_contra hnot
    change (if (restoreTerminal mouseEnabled w).1 = true then Ending.quit else .failed) = .quit at hquit
    rw [if_neg hnot] at hquit
    cases hquit
  · exact hgiven (haccepted.2 fun p hp => hall p (List.mem_append_left _ hp))
  · change (if (restoreTerminal mouseEnabled w).1 = true then Ending.quit else .failed) = .panicked at hpanicked
    split_ifs at hpanicked

/-- The terminal fails: the guard's restore. -/
theorem parting_failed (h : Up mouse mouseEnabled w) :
    Parting mouse ⟨.failed, w, (restoreTerminal mouseEnabled w).2⟩ := by
  obtain ⟨new, hsince, hback, haccepted⟩ := since_restoreTerminal mouseEnabled w
  refine ⟨?_, fun hquit => ?_, _, hsince.issued, fun hall => ⟨?_, fun hpanicked => ?_⟩⟩
  · rw [hsince.issued]
    exact h.framed.append fun p hp => (hback p hp).ne_draw
  · cases hquit
  · exact givenBack_restoreTerminal h.known (haccepted.2 hall)
  · cases hpanicked

/-- A terminal as it was found has been given back. -/
theorem givenBack_of_asFound (h : w.state = asFound) : GivenBack w := by
  refine ⟨?_, ?_, ?_, ?_⟩ <;> rw [h]
  · exact fun hon => absurd hon Bool.false_ne_true
  · exact fun hon => absurd hon Bool.false_ne_true
  · exact fun hon => absurd hon Bool.false_ne_true
  · rfl

/-- A panic: the hook, and the guard's restore if the stack unwinds. -/
theorem parting_panicked (unwinds : Bool) (h : Up mouse mouseEnabled w) :
    Parting mouse ⟨.panicked, w,
      if unwinds then (restoreTerminal mouseEnabled (panicHook w)).2 else panicHook w⟩ := by
  obtain ⟨new, hhook, hback, hfound⟩ := since_panicHook w
  cases unwinds
  · refine ⟨?_, fun hquit => ?_, _, hhook.issued, fun hall => ⟨?_, fun _ => hfound hall⟩⟩
    · exact hhook.issued ▸ h.framed.append fun p hp => (hback p hp).ne_draw
    · cases hquit
    · exact givenBack_of_asFound (hfound hall)
  · obtain ⟨again, hsecond, hback', -⟩ := since_restoreTerminal mouseEnabled (panicHook w)
    have hboth := hhook.trans hsecond
    have hfinal (hall : ∀ p ∈ new ++ again, p.2 = .accepted) :
        (restoreTerminal mouseEnabled (panicHook w)).2.state = asFound :=
      asFound_since (hfound fun p hp => hall p (List.mem_append_left _ hp)) hsecond hback'
    refine ⟨?_, fun hquit => ?_, _, hboth.issued, fun hall => ⟨?_, fun _ => hfinal hall⟩⟩
    · refine hboth.issued ▸ h.framed.append fun p hp => ?_
      exact ((List.mem_append.1 hp).elim (hback p) (hback' p)).ne_draw
    · cases hquit
    · exact givenBack_of_asFound (hfinal hall)

/-- **The terminal is given back.** Whatever the terminal refuses and however the interface ends, every frame
is drawn in raw mode on the alternate screen, the mouse being captured only if that was asked for; where
`run` reports success, the terminal is as it was found, whatever the guard does then; and where it reports an
error or panics, it is too, if the terminal refuses nothing once the loop is left. Modes that it refused to
enter and entered all the same are excepted, but not after a panic. -/
theorem given_back (mouse unwinds : Bool) (turns : List Turn) (answers : List Answer) :
    Parting mouse (run mouse unwinds turns (found answers)) := by
  have htaken := taken_initTerminal mouse answers
  unfold run
  rcases hinit : initTerminal mouse (found answers) with ⟨enabled, w, final⟩
  rw [hinit] at htaken
  cases htaken with
  | given hsince hframed hback =>
    refine ⟨hframed, fun hquit => ?_, _, hsince.issued, fun hall => ⟨hback hall, fun hpanicked => ?_⟩⟩
    · cases hquit
    · cases hpanicked
  | up hup =>
    rename_i mouseEnabled
    have hleft := up_loop turns hup
    rcases hloop : loop turns w with ⟨_ | _ | _, left⟩
    · rw [hloop] at hleft
      simpa only [hloop] using parting_quit hleft
    · rw [hloop] at hleft
      simpa only [hloop] using parting_failed hleft
    · rw [hloop] at hleft
      simpa only [hloop] using parting_panicked unwinds hleft

end Muxtop.Tui.Terminal
