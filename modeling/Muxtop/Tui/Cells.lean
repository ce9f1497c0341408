import Mathlib.Data.UInt
import Muxtop.Core.System
import Muxtop.Foundation.FloatText
import Muxtop.Tui.Notify

/-!
# What cells are spelled with

Reference: `muxtop-tui/src/ui/glyphs.rs`, `widgets/badge.rs`, `widgets/meter.rs`; `format_age` of
`ui/inspector.rs` and `watts` of `ui/gpu.rs`.

Of the glyphs, those that a table cell or the inspector takes are kept.
-/

namespace Muxtop.Tui

open Muxtop.Core
open FloatText (fixed32 fixed64)

/-! ## Glyphs -/

/-- Resolved glyph set for the running terminal. -/
structure Glyphs where
  treeBranch : String
  treeLast : String
  treePipe : String
  treeGap : String
  stRunning : String
  stIdle : String
  stPaused : String
  stWarn : String
  stDead : String
  arrowUp : String
  arrowDown : String
  none : String
  dash : String

/-- The Unicode glyph set. -/
def Glyphs.unicode : Glyphs where
  treeBranch := "├── "
  treeLast := "└── "
  treePipe := "│   "
  treeGap := "    "
  stRunning := "●"
  stIdle := "○"
  stPaused := "◐"
  stWarn := "▲"
  stDead := "✕"
  arrowUp := "↑"
  arrowDown := "↓"
  none := "—"
  dash := "—"

/-- The ASCII fallback. -/
def Glyphs.ascii : Glyphs where
  treeBranch := "|-- "
  treeLast := "\\-- "
  treePipe := "|   "
  treeGap := "    "
  stRunning := "R"
  stIdle := "S"
  stPaused := "T"
  stWarn := "!"
  stDead := "X"
  arrowUp := "^"
  arrowDown := "v"
  none := "-"
  dash := "-"

def Glyphs.new (unicode : Bool) : Glyphs := if unicode then .unicode else .ascii

/-- The state marker alone. -/
def marker (level : Level) (g : Glyphs) : String :=
  match level with
  | .success => g.stRunning
  | .neutral => g.stIdle
  | .info => g.stPaused
  | .warning => g.stWarn
  | .error => g.stDead

/-- `Process — nginx`, with a dash the terminal can actually render. -/
def titled (g : Glyphs) (kind name : String) : String := kind ++ " " ++ g.dash ++ " " ++ name

/-! ## Figures -/

/-- Bytes in the largest binary unit that they fill. -/
def humanBytes (bytes : UInt64) : String :=
  let units : List (UInt64 × String) :=
    [(2 ^ 50, "P"), (2 ^ 40, "T"), (2 ^ 30, "G"), (2 ^ 20, "M"), (2 ^ 10, "K"), (1, "B")]
  match units.find? fun unit => unit.1 ≤ bytes with
  | none => "0B"
  | some (scale, suffix) =>
    let value := bytes.toFloat / scale.toFloat
    if 100 ≤ value ∨ scale = 1 then fixed64 0 value ++ suffix else fixed64 1 value ++ suffix

/-- Format a byte-per-second rate (`1.2M/s`). -/
def humanRate (bytesPerSec : UInt64) : String := humanBytes bytesPerSec ++ "/s"

/-- Kubernetes-style compact age: `3d`, `4h`, `12m`, `45s`. -/
def formatAge (secs : UInt64) : String :=
  if 86400 ≤ secs then toString (secs / 86400) ++ "d"
  else if 3600 ≤ secs then toString (secs / 3600) ++ "h"
  else if 60 ≤ secs then toString (secs / 60) ++ "m"
  else toString secs ++ "s"

/-- A power figure, with a decimal place below ten watts. -/
def watts (w : F32) : String :=
  if (Float32.ofBits w.bits).abs < 10 then fixed32 1 w else fixed32 0 w

example : humanBytes 1536 = "1.5K" := by decide +kernel
example : formatAge 7200 = "2h" := by decide +kernel

/-! ## Derived `Debug` -/

def debugPhase : PodPhase → String
  | .pending => "Pending"
  | .running => "Running"
  | .succeeded => "Succeeded"
  | .failed => "Failed"
  | .crashLoop => "CrashLoop"
  | .terminating => "Terminating"
  | .unknown => "Unknown"

def debugQos : QosClass → String
  | .guaranteed => "Guaranteed"
  | .burstable => "Burstable"
  | .bestEffort => "BestEffort"

def debugStatus : NodeStatus → String
  | .ready => "Ready"
  | .notReady => "NotReady"
  | .schedulingDisabled => "SchedulingDisabled"
  | .unknown => "Unknown"

def debugStrategy : DeploymentStrategy → String
  | .rollingUpdate => "RollingUpdate"
  | .recreate => "Recreate"

def debugKind : GpuProcessKind → String
  | .compute => "Compute"
  | .graphics => "Graphics"
  | .both => "Both"
  | .unknown => "Unknown"

/-! ## Control characters -/

/-- `char::is_ascii_control` -/
def isAsciiControl (c : Char) : Bool := c.toNat < 0x20 || c.toNat == 0x7F

/-- No ASCII control character but the tab. -/
abbrev Clean (s : String) : Prop := Text.Over (fun c => !isAsciiControl c || c == '\t') s

/-- What a scrubbed text holds is no control character, or the tab. -/
@[simp] theorem clean_scrubCtrl (s : String) : Clean (scrubCtrl s) := by
  refine Text.over_ofList.2 fun c hc => ?_
  obtain ⟨ch, -, rfl⟩ := List.mem_map.1 hc
  split_ifs with hoffending
  · decide
  · have htab : ch = '\t' ∨ ch ≠ '\t' := em _
    simp only [isAsciiControl, Bool.or_eq_true, Bool.not_eq_true', Bool.or_eq_false_iff,
      decide_eq_false_iff_not, beq_eq_false_iff_ne, beq_iff_eq]
    tauto

/-- Every glyph is clean. -/
structure Glyphs.IsClean (g : Glyphs) : Prop where
  treeBranch : Clean g.treeBranch
  treeLast : Clean g.treeLast
  treePipe : Clean g.treePipe
  treeGap : Clean g.treeGap
  stRunning : Clean g.stRunning
  stIdle : Clean g.stIdle
  stPaused : Clean g.stPaused
  stWarn : Clean g.stWarn
  stDead : Clean g.stDead
  arrowUp : Clean g.arrowUp
  arrowDown : Clean g.arrowDown
  none : Clean g.none
  dash : Clean g.dash

/-- Both glyph sets are clean. -/
theorem Glyphs.isClean_new (unicode : Bool) : (Glyphs.new unicode).IsClean := by
  cases unicode
  case false => constructor <;> decide
  case true => constructor <;> decide

/-- Digits are no control characters. -/
theorem digit_passes (c : Char) (h : c.isDigit = true) : (!isAsciiControl c || c == '\t') = true := by
  have hrange : 48 ≤ c.toNat ∧ c.toNat ≤ 57 := by
    simp only [Char.isDigit, Bool.and_eq_true, decide_eq_true_eq, ge_iff_le, UInt32.le_iff_toNat_le] at h
    exact h
  simp only [isAsciiControl, Bool.or_eq_true, Bool.not_eq_true', Bool.or_eq_false_iff,
    decide_eq_false_iff_not, beq_eq_false_iff_ne]
  omega

/-- A number is made of digits, and so are those of fixed width. -/
@[simp] theorem clean_nat (n : ℕ) : Clean (toString n) := Text.over_toString digit_passes n
@[simp] theorem clean_u8 (n : UInt8) : Clean (toString n) := clean_nat n.toNat
@[simp] theorem clean_u32 (n : UInt32) : Clean (toString n) := clean_nat n.toNat
@[simp] theorem clean_u64 (n : UInt64) : Clean (toString n) := clean_nat n.toNat

/-- A figure with decimal places is made of digits and the texts that `Display` adds to them. -/
@[simp] theorem clean_fixed32 (places : ℕ) (x : F32) : Clean (fixed32 places x) :=
  FloatText.over_fixed digit_passes (by decide) places _

@[simp] theorem clean_fixed64 (places : ℕ) (x : Float) : Clean (fixed64 places x) :=
  FloatText.over_fixed digit_passes (by decide) places _

/-- A size is a figure and the letter of its unit. -/
@[simp] theorem clean_humanBytes (bytes : UInt64) : Clean (humanBytes bytes) := by
  unfold humanBytes
  dsimp only
  split
  case h_1 => decide
  case h_2 scale suffix hunit =>
    have hsuffix : Clean suffix := by
      have hmem := List.mem_of_find?_eq_some hunit
      simp only [List.mem_cons, Prod.mk.injEq, List.not_mem_nil, or_false] at hmem
      obtain ⟨-, rfl⟩ | ⟨-, rfl⟩ | ⟨-, rfl⟩ | ⟨-, rfl⟩ | ⟨-, rfl⟩ | ⟨-, rfl⟩ := hmem <;> decide
    split <;> simp [hsuffix]

/-- A rate is a size and a suffix. -/
@[simp] theorem clean_humanRate (bytesPerSec : UInt64) : Clean (humanRate bytesPerSec) := by
  simp +decide [humanRate]

/-- An age is a count and the letter of its unit. -/
@[simp] theorem clean_formatAge (secs : UInt64) : Clean (formatAge secs) := by
  unfold formatAge
  split_ifs <;> simp +decide

/-- A power is a figure, with a decimal place or without. -/
@[simp] theorem clean_watts (w : F32) : Clean (watts w) := by
  unfold watts
  split_ifs <;> simp

/-- The derived text of an enumeration is the name of the variant; so it is for the other four. -/
@[simp] theorem clean_debugPhase (phase : PodPhase) : Clean (debugPhase phase) := by cases phase <;> decide
@[simp] theorem clean_debugQos (qos : QosClass) : Clean (debugQos qos) := by cases qos <;> decide
@[simp] theorem clean_debugStatus (status : NodeStatus) : Clean (debugStatus status) := by
  cases status <;> decide
@[simp] theorem clean_debugStrategy (strategy : DeploymentStrategy) : Clean (debugStrategy strategy) := by
  cases strategy <;> decide
@[simp] theorem clean_debugKind (kind : GpuProcessKind) : Clean (debugKind kind) := by cases kind <;> decide

/-- A marker is a glyph. -/
theorem clean_marker {g : Glyphs} (hg : g.IsClean) (level : Level) : Clean (marker level g) := by
  cases level
  case info => exact hg.stPaused
  case success => exact hg.stRunning
  case warning => exact hg.stWarn
  case error => exact hg.stDead
  case neutral => exact hg.stIdle

/-- A title is made of two clean texts and a glyph. -/
theorem clean_titled {g : Glyphs} (hg : g.IsClean) {kind name : String} (hkind : Clean kind)
    (hname : Clean name) : Clean (titled g kind name) := by
  have hspace : Clean " " := by decide
  simp [titled, hg.dash, hkind, hname, hspace]

/-- A cell that chooses between two texts. -/
@[simp] theorem clean_ite {c : Prop} [Decidable c] {s t : String} (hs : Clean s) (ht : Clean t) :
    Clean (if c then s else t) := by
  split_ifs
  · exact hs
  · exact ht

/-- A value that may be missing. -/
@[simp] theorem clean_elim {α : Type} {o : Option α} {missing : String} {spell : α → String}
    (hmissing : Clean missing) (hspell : ∀ x, Clean (spell x)) : Clean (o.elim missing spell) := by
  cases o with
  | none => exact hmissing
  | some x => exact hspell x

end Muxtop.Tui
