import Muxtop.Tui.Selection

/-!
# The wheel

Reference: `muxtop-tui/src/app.rs`, `muxtop-tui/src/ui/widgets/mod.rs`, `table.rs`.

A notch moves the stored offset and pulls the selection down to it, never up. The next frame keeps the
offset only if the selection stands in the window that begins there.
-/

namespace Muxtop.Tui

open Muxtop.Core

/-- A frame keeps an offset when the selection is in the window that begins there. -/
theorem viewportOffset_eq_self_iff {selected offset height : ℕ} (hheight : 0 < height) :
    viewportOffset selected offset height = offset ↔ offset ≤ selected ∧ selected < offset + height := by
  unfold viewportOffset
  split_ifs <;> omega

namespace Views

variable {lib : Lib} {v : Views} {delta : ℤ} {height : ℕ}

/-- The stored offset of the table in front is the one that a frame of some height draws from. -/
def KeepsOffset (v : Views) (height : ℕ) : Prop :=
  viewportOffset (v.cursor v.tab.table) (v.offset v.tab.table) height = v.offset v.tab.table

/-- The selection stands above the end of the window that begins `delta` rows from the stored offset. A
list without rows is not scrolled: there the selection is in the window already. -/
def ScrollsWithin (lib : Lib) (v : Views) (delta : ℤ) (height : ℕ) : Prop :=
  let selected := v.cursor v.tab.table
  let offset := v.offset v.tab.table
  if v.itemCount lib = 0 then offset ≤ selected ∧ selected < offset + height
  else min selected (v.itemCount lib - 1) < (offset + delta).toNat + height

instance : Decidable (v.KeepsOffset height) := inferInstanceAs (Decidable (_ = _))
instance : Decidable (v.ScrollsWithin lib delta height) := inferInstanceAs (Decidable (ite _ _ _))

theorem mapSelected_tab (f : ℕ → ℕ → ℕ × ℕ) : (v.mapSelected f).tab = v.tab :=
  (congrArg Views.tab (mapSelected_withoutCursors f) :)

/-- The cursor and the offset of the table in front are what `mapSelected` changes. -/
theorem mapSelected_front (f : ℕ → ℕ → ℕ × ℕ) :
    ((v.mapSelected f).cursor v.tab.table, (v.mapSelected f).offset v.tab.table) =
      f (v.cursor v.tab.table) (v.offset v.tab.table) := by
  rcases v with ⟨tab⟩
  cases tab <;> rfl

/-- Scrolling ends on an offset that the next frame keeps exactly when it scrolls within the window. -/
theorem keepsOffset_scrollRows_iff (hheight : 0 < height) :
    (v.scrollRows lib delta).KeepsOffset height ↔ v.ScrollsWithin lib delta height := by
  unfold scrollRows ScrollsWithin
  dsimp only
  split_ifs with hcount
  · exact viewportOffset_eq_self_iff hheight
  · rw [KeepsOffset, viewportOffset_eq_self_iff hheight, mapSelected_tab]
    generalize hf : (fun sel off : ℕ => _) = f
    obtain ⟨hcursor, hoffset⟩ := Prod.mk.inj (mapSelected_front (v := v) f)
    rw [hcursor, hoffset, ← hf]
    dsimp only
    omega

/-- A selection in the window stays there when the wheel scrolls down. -/
theorem scrollsWithin_down (hdelta : 0 ≤ delta) (hshown : v.KeepsOffset height) (hheight : 0 < height) :
    v.ScrollsWithin lib delta height := by
  have hwindow := (viewportOffset_eq_self_iff hheight).1 hshown
  unfold ScrollsWithin
  dsimp only
  split_ifs with hcount
  · exact hwindow
  · omega

end Views

/-! ## Runs -/

/-- An event, and the body height of the frame drawn after it. -/
structure Redraw where
  input : Input
  height : ℕ
  hheight : 0 < height

namespace AppState

variable {lib : Lib} {s : AppState}

/-- How far a wheel event scrolls the table in front. -/
def wheelDelta : Event → Option ℤ
  | .mouse .scrollDown => some Views.wheelRows
  | .mouse .scrollUp => some (-Views.wheelRows)
  | _ => none

/-- The event is a notch of the wheel that scrolls the table in front by `delta`: no overlay has it. -/
def Scrolls (s : AppState) (input : Input) (delta : ℤ) : Prop :=
  s.running = true ∧ s.overlay = .none ∧ wheelDelta input.event = some delta

theorem step_of_scrolls {input : Input} {delta : ℤ} (h : Scrolls s input delta) :
    s.step lib input = s.mapViews (·.scrollRows lib delta) := by
  obtain ⟨hrunning, hoverlay, hwheel⟩ := h
  rw [step, if_pos hrunning]
  cases hevent : input.event with
  | mouse kind =>
    rw [hevent] at hwheel
    cases kind with
    | scrollDown =>
      obtain rfl := Option.some.inj hwheel
      exact if_neg (not_not.2 hoverlay)
    | scrollUp =>
      obtain rfl := Option.some.inj hwheel
      exact if_neg (not_not.2 hoverlay)
    | other => cases hwheel
  | _ =>
    rw [hevent] at hwheel
    cases hwheel

/-- If the event scrolls, the next frame shows the offset that it asked for. -/
def ScrollStays (lib : Lib) (s : AppState) (turn : Redraw) : Prop :=
  ∀ delta, Scrolls s turn.input delta → (s.step lib turn.input).KeepsOffset turn.height

/-- If the event scrolls, it does so within the window. -/
def WheelsWithin (lib : Lib) (s : AppState) (turn : Redraw) : Prop :=
  ∀ delta, Scrolls s turn.input delta → s.ScrollsWithin lib delta turn.height

theorem scrollStays_iff {turn : Redraw} : ScrollStays lib s turn ↔ WheelsWithin lib s turn := by
  refine forall₂_congr fun delta hscrolls => ?_
  rw [step_of_scrolls hscrolls]
  exact Views.keepsOffset_scrollRows_iff turn.hheight

/-- One turn of the loop, the frame apart. -/
def redraw (lib : Lib) (s : AppState) (turn : Redraw) : AppState := s.step lib turn.input

/-- **The wheel.** In a run, every scroll is drawn where it asked for exactly when every scroll leaves the
selection above the end of the window it asks for. -/
theorem scrollsStay_iff (config : CliConfig) (containerEngine clusterEngine : Bool)
    (turns : List Redraw) :
    let start := withConfig config containerEngine clusterEngine
    Runs.Along (redraw lib) (ScrollStays lib) start turns ↔
      Runs.Along (redraw lib) (WheelsWithin lib) start turns :=
  Runs.along_iff (I := fun _ => True) (fun _ _ _ _ => trivial) (fun _ _ _ => scrollStays_iff) turns trivial

/-- Ten processes on the Processes tab, with the last one selected, and a notch up; each frame has a body
of five rows. -/
def lastOfTen : List Redraw :=
  [.arrive 0 { (default : SystemSnapshot) with processes := List.replicate 10 default }, .press 1 .tab,
    .press 2 (.char 'G'), ⟨.obliging 3, .mouse .scrollUp⟩].map fun input => ⟨input, 5, by decide⟩

/-- The notch up asks for row 0, and the next frame draws from row 5 as the one before. -/
theorem not_scrollsStay_lastOfTen :
    ¬ ∀ turns, Runs.Along (redraw .ascii) (ScrollStays .ascii) (withConfig {} false false) turns := by
  intro h
  obtain ⟨-, -, -, hwheel, -⟩ := h lastOfTen
  exact absurd (hwheel (-Views.wheelRows) ⟨by decide, by decide, rfl⟩) (by decide)

end AppState

end Muxtop.Tui
