import Mathlib.Data.Nat.Notation
import Muxtop.Foundation.Text

/-!
# Notifications

Reference: `muxtop-tui/src/notify.rs`, `ui/sanitize.rs`, `ui/theme.rs`.

Times are in nanoseconds.
-/

namespace Muxtop.Tui

/-- How a message reads. -/
inductive Level
  | info | success | warning | error | neutral
deriving DecidableEq, Repr

/-- Replace every ASCII control byte but the tab by a question mark. -/
def scrubCtrl (s : String) : String :=
  String.ofList <| s.toList.map fun c =>
    if (c.toNat < 0x20 ∧ c ≠ '\t') ∨ c.toNat = 0x7f then '?' else c

structure Toast where
  level : Level
  text : String
  postedAt : ℕ
deriving DecidableEq, Repr

/-- How long a toast stays on screen. -/
def Toast.ttl (t : Toast) : ℕ :=
  match t.level with
  | .error => 12000000000
  | .warning => 8000000000
  | _ => 4000000000

def Toast.isExpired (now : ℕ) (t : Toast) : Bool := t.ttl ≤ now - t.postedAt

/-- The toast stack plus the message log behind it. -/
structure Notifier where
  active : List Toast := []
  log : List Toast := []
deriving DecidableEq, Repr

namespace Notifier

/-- `MAX_ACTIVE` -/
def maxActive : ℕ := 3

/-- `LOG_CAPACITY` -/
def logCapacity : ℕ := 50

/-- Post a message, retiring the oldest toasts and log entries beyond the limits. -/
def push (n : Notifier) (now : ℕ) (level : Level) (text : String) : Notifier :=
  let toast : Toast := ⟨level, scrubCtrl text, now⟩
  let log := n.log ++ [toast]
  let active := n.active ++ [toast]
  { active := active.drop (active.length - maxActive), log := log.drop (log.length - logCapacity) }

/-- Drop expired toasts. The clock is read for each of them in turn. -/
def expire (n : Notifier) (clock : ℕ → ℕ) : Notifier :=
  { n with
    active := (n.active.zipIdx.filter fun entry => !entry.1.isExpired (clock entry.2)).map Prod.fst }

/-- Dismiss every visible toast. -/
def dismissAll (n : Notifier) : Notifier := { n with active := [] }

def isEmpty (n : Notifier) : Bool := n.active.isEmpty

/-- However many messages are posted, at most three show and fifty are kept. -/
theorem push_bounded (n : Notifier) (now : ℕ) (level : Level) (text : String) :
    (n.push now level text).active.length ≤ maxActive ∧
      (n.push now level text).log.length ≤ logCapacity := by
  simp only [push, List.length_drop, maxActive, logCapacity]
  omega

end Notifier

/-! ## Themes -/

inductive ThemeKind
  | tokyoNight | tokyoNightLight | mono
deriving DecidableEq, Repr

namespace ThemeKind

def name : ThemeKind → String
  | .tokyoNight => "tokyo-night"
  | .tokyoNightLight => "tokyo-night-light"
  | .mono => "mono"

/-- The names accepted, for the error message. -/
def names : String :=
  String.intercalate ", " ([.tokyoNight, .tokyoNightLight, .mono].map name)

/-- `ThemeKind::from_str` -/
def parse (lower : Text.Lowercase) (s : String) : Except String ThemeKind :=
  let lowered := lower.toLowercase (Text.trim s)
  let normalised := String.ofList (lowered.toList.map fun c => if c = '_' then '-' else c)
  if normalised ∈ ["tokyo-night", "tokyonight", "dark", "default"] then .ok .tokyoNight
  else if normalised ∈ ["tokyo-night-light", "tokyonight-light", "light", "day"] then
    .ok .tokyoNightLight
  else if normalised ∈ ["mono", "monochrome", "none"] then .ok .mono
  else .error s!"unknown theme \x60{normalised}\x60 (available: {names})"

end ThemeKind

end Muxtop.Tui
