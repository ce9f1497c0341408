import Muxtop.Tui.Confirmations

/-!
# Signals and priorities

Reference: `muxtop-core/src/actions.rs` and `execute_confirm` of `muxtop-tui/src/app.rs`, on Linux and
macOS.

A PID is a `u32` and the calls take a signed number, of which 0 and the negative ones stand for groups of
processes. So every PID is checked before a call is made with it.
-/

namespace Muxtop.Tui

open Muxtop.Core

/-! ## The code -/

/-- A call to the C library, with the number of a process or, below 1, of a group. -/
inductive Syscall
  | kill (pid : ℤ) (sig : ℤ)
  | setpriority (pid : ℤ) (nice : ℤ)
  | getpriority (pid : ℤ)
deriving DecidableEq, Repr

/-- What a call returns, and what `errno` reads after it. -/
structure Return where
  ret : ℤ
  errno : ℤ
deriving DecidableEq, Repr

/-- The C library. `errno` is cleared before the calls that concern priorities, and is read after `kill`
only when that has failed and so has set it. -/
structure Libc where
  call : Syscall → Return
  strerror : ℤ → String

def eperm : ℤ := 1
def esrch : ℤ := 3

/-- `Signal::as_libc` -/
def Signal.asLibc : Signal → ℤ
  | .term => 15
  | .kill => 9

def Signal.debug : Signal → String
  | .term => "Term"
  | .kill => "Kill"

/-- The errors of `CoreError` that the actions can give. -/
inductive CoreError
  | processNotFound (pid : UInt32)
  | permission (msg : String)
  | io (code : ℤ)
deriving DecidableEq, Repr

def CoreError.text (libc : Libc) : CoreError → String
  | .processNotFound pid => s!"process {pid} not found"
  | .permission msg => s!"permission denied: {msg}"
  | .io code => s!"I/O error: {libc.strerror code} (os error {code})"

/-- Reject PIDs that cannot be narrowed to a positive `pid_t`. -/
def validatePid (pid : UInt32) : Except CoreError ℤ :=
  if pid.toNat < 2 ^ 31 then
    let pidI32 : ℤ := pid.toNat
    if pidI32 ≤ 0 then .error (.processNotFound pid) else .ok pidI32
  else .error (.processNotFound pid)

/-- What an error number comes to, with the message for a missing permission. -/
def errnoError (pid : UInt32) (denied : String) (code : ℤ) : CoreError :=
  if code = esrch then .processNotFound pid
  else if code = eperm then .permission denied
  else .io code

variable (libc : Libc)

/-- The outcome, and the calls made on the way. -/
def killProcess (pid : UInt32) (signal : Signal) : Except CoreError Unit × List Syscall :=
  match validatePid pid with
  | .error e => (.error e, [])
  | .ok pidI32 =>
    let call := Syscall.kill pidI32 signal.asLibc
    let out := libc.call call
    if out.ret = 0 then (.ok (), [call])
    else
      (.error (errnoError pid s!"permission denied sending signal {signal.debug} to pid {pid}" out.errno),
        [call])

/-- A call that returns -1 and has not set `errno` has succeeded. -/
def reniceProcess (pid : UInt32) (nice : ℤ) : Except CoreError Unit × List Syscall :=
  match validatePid pid with
  | .error e => (.error e, [])
  | .ok pidI32 =>
    let call := Syscall.setpriority pidI32 nice
    let out := libc.call call
    if out.ret = 0 then (.ok (), [call])
    else if out.errno = 0 then (.ok (), [call])
    else
      (.error (errnoError pid s!"permission denied changing priority of pid {pid} to {nice}" out.errno),
        [call])

def getProcessPriority (pid : UInt32) : Except CoreError ℤ × List Syscall :=
  match validatePid pid with
  | .error e => (.error e, [])
  | .ok pidI32 =>
    let call := Syscall.getpriority pidI32
    let out := libc.call call
    if out.errno = 0 then (.ok out.ret, [call])
    else (.error (errnoError pid s!"permission denied reading priority of pid {pid}" out.errno), [call])

/-- What the interface sees of a host with this library. -/
def Libc.world (now : ℕ) (toastClock : ℕ → ℕ) (terminalWrite : Bool) : World where
  now := now
  toastClock := toastClock
  killProcess pid signal := (killProcess libc pid signal).1.mapError (·.text libc)
  getProcessPriority pid := (getProcessPriority libc pid).1.mapError (·.text libc)
  reniceProcess pid nice := (reniceProcess libc pid nice).1.mapError (·.text libc)
  terminalWrite := terminalWrite

/-- The calls that `execute_confirm` makes. -/
def ConfirmAction.syscalls : ConfirmAction → List Syscall
  | .kill pid _ signal => (killProcess libc pid signal).2
  | .renice pid _ delta =>
    let priority := getProcessPriority libc pid
    let current := match priority.1 with
      | .ok nice => nice
      | .error _ => 0
    priority.2 ++ (reniceProcess libc pid (current + delta)).2
  | _ => []

/-! ## One call -/

/-- The process that a call is about. -/
def Syscall.pid : Syscall → ℤ
  | .kill pid _ | .setpriority pid _ | .getpriority pid => pid

/-- A call names one process, not a group, and sends one of the two signals if any. -/
def Syscall.Sound (pid : UInt32) (call : Syscall) : Prop :=
  call.pid = pid.toNat ∧ 1 ≤ call.pid ∧ call.pid ≤ 2147483647 ∧
    ∀ sig, call = .kill call.pid sig → sig = 15 ∨ sig = 9

variable {libc}

/-- A valid PID is a positive number of 31 bits. -/
theorem validatePid_eq_ok {pid : UInt32} {n : ℤ} (h : validatePid pid = .ok n) :
    n = pid.toNat ∧ 1 ≤ n ∧ n ≤ 2147483647 := by
  unfold validatePid at h
  dsimp only at h
  split_ifs at h
  obtain rfl := Except.ok.inj h
  omega

/-- A PID is good for a call exactly when it is a positive `i32`. -/
theorem validatePid_isOk_iff {pid : UInt32} :
    (∃ n, validatePid pid = .ok n) ↔ 1 ≤ pid.toNat ∧ pid.toNat < 2 ^ 31 := by
  constructor
  · rintro ⟨n, h⟩
    have := validatePid_eq_ok h
    omega
  · rintro ⟨hpos, hsmall⟩
    refine ⟨pid.toNat, ?_⟩
    rw [validatePid, if_pos hsmall]
    exact if_neg (by omega)

/-- Any other is reported as not found. -/
theorem validatePid_eq_error {pid : UInt32} {e : CoreError} (h : validatePid pid = .error e) :
    e = .processNotFound pid := by
  unfold validatePid at h
  dsimp only at h
  split_ifs at h
  · exact (Except.error.inj h).symm
  · exact (Except.error.inj h).symm

/-- A kill calls the host at most with the PID it was asked for. -/
theorem killProcess_calls (pid : UInt32) (signal : Signal) :
    ∀ call ∈ (killProcess libc pid signal).2,
      ∃ n, validatePid pid = .ok n ∧ call = .kill n signal.asLibc := by
  unfold killProcess
  split
  case h_1 => exact nofun
  case h_2 n hn =>
    dsimp only
    split_ifs <;> exact fun call hcall => ⟨n, hn, List.mem_singleton.1 hcall⟩

/-- So does a renice, -/
theorem reniceProcess_calls (pid : UInt32) (nice : ℤ) :
    ∀ call ∈ (reniceProcess libc pid nice).2,
      ∃ n, validatePid pid = .ok n ∧ call = .setpriority n nice := by
  unfold reniceProcess
  split
  case h_1 => exact nofun
  case h_2 n hn =>
    dsimp only
    split_ifs <;> exact fun call hcall => ⟨n, hn, List.mem_singleton.1 hcall⟩

/-- and so does the question for the priority. -/
theorem getProcessPriority_calls (pid : UInt32) :
    ∀ call ∈ (getProcessPriority libc pid).2,
      ∃ n, validatePid pid = .ok n ∧ call = .getpriority n := by
  unfold getProcessPriority
  split
  case h_1 => exact nofun
  case h_2 n hn =>
    dsimp only
    split_ifs <;> exact fun call hcall => ⟨n, hn, List.mem_singleton.1 hcall⟩

/-! ## Confirmed actions -/

/-- The process that an action is about, if it is about one. -/
def ConfirmAction.pid : ConfirmAction → Option UInt32
  | .kill pid _ _ | .renice pid _ _ => some pid
  | _ => none

/-- A call with a valid PID and one of the two signals is sound. -/
theorem sound_of_validatePid {pid : UInt32} {n : ℤ} (h : validatePid pid = .ok n) {call : Syscall}
    (hpid : call.pid = n) (hsig : ∀ sig, call = .kill call.pid sig → sig = 15 ∨ sig = 9) :
    call.Sound pid := by
  obtain ⟨heq, hpos, hmax⟩ := validatePid_eq_ok h
  exact ⟨hpid.trans heq, hpid ▸ hpos, hpid ▸ hmax, hsig⟩

/-- A confirmed action calls for its own process only, and soundly. -/
theorem sound_of_mem_syscalls {action : ConfirmAction} {call : Syscall}
    (h : call ∈ action.syscalls libc) : ∃ pid ∈ action.pid, call.Sound pid := by
  cases action
  case kill pid name signal =>
    obtain ⟨n, hn, rfl⟩ := killProcess_calls pid signal call h
    refine ⟨pid, rfl, sound_of_validatePid hn rfl fun sig hsig => ?_⟩
    obtain rfl := (Syscall.kill.inj hsig).2
    cases signal
    case term => exact .inl rfl
    case kill => exact .inr rfl
  case renice pid name delta =>
    rcases List.mem_append.1 h with h | h
    · obtain ⟨n, hn, rfl⟩ := getProcessPriority_calls pid call h
      exact ⟨pid, rfl, sound_of_validatePid hn rfl nofun⟩
    · obtain ⟨n, hn, rfl⟩ := reniceProcess_calls pid _ call h
      exact ⟨pid, rfl, sound_of_validatePid hn rfl nofun⟩
  all_goals cases h

/-- For a PID that is no positive `i32` nothing is called. -/
theorem syscalls_eq_nil_of_invalid {action : ConfirmAction} {pid : UInt32} (hpid : action.pid = some pid)
    (hinvalid : ¬ (1 ≤ pid.toNat ∧ pid.toNat < 2 ^ 31)) : action.syscalls libc = [] := by
  rw [List.eq_nil_iff_forall_not_mem]
  intro call hcall
  obtain ⟨pid', hpid', heq, hpos, hmax, -⟩ := sound_of_mem_syscalls hcall
  obtain rfl := Option.some.inj (hpid.symm.trans hpid')
  omega

/-! ## Runs -/

/-- An event, with the library it is handled with. -/
structure HostInput where
  now : ℕ
  toastClock : ℕ → ℕ
  libc : Libc
  terminalWrite : Bool
  event : Event

def HostInput.toInput (h : HostInput) : Input :=
  ⟨h.libc.world h.now h.toastClock h.terminalWrite, h.event⟩

namespace AppState

variable {lib : Lib}

def hostStep (lib : Lib) (s : AppState) (h : HostInput) : AppState := s.step lib h.toInput

/-- The calls that an input brings about. -/
def syscalls (s : AppState) (h : HostInput) : List Syscall :=
  match s.answered h.toInput with
  | some action => action.syscalls h.libc
  | none => []

/-- The host's answers make an input of what happens. -/
theorem run_hostStep (start : AppState) (inputs : List HostInput) :
    Runs.run (hostStep lib) start inputs =
      Runs.run (step lib) start (inputs.map HostInput.toInput) := by
  unfold Runs.run
  rw [List.foldl_map]
  rfl

/-- What is answered stood in the dialog. -/
theorem confirm_of_answered {s : AppState} {input : Input} {action : ConfirmAction}
    (h : s.answered input = some action) : s.confirm = some action := by
  unfold answered at h
  split at h
  · split_ifs at h
    exact h
  · cases h

/-- **No signal to a group, none to a stranger.** In every run, each call that sends a signal or reads or
sets a priority names one process, by a positive `pid_t` that is the PID of a process in a snapshot that
had arrived, and the only signals are SIGTERM and SIGKILL. An action about a PID that is no positive
`pid_t`, confirmed or not, calls for nothing. -/
theorem syscalls_sound (lib : Lib) (config : CliConfig) (containerEngine clusterEngine : Bool)
    (inputs : List HostInput) :
    let start := withConfig config containerEngine clusterEngine
    (∀ call ∈ Runs.trace (hostStep lib) syscalls start inputs,
      ∃ arrival ∈ inputs, ∃ snapshot, arrival.event = .snapshot snapshot ∧
        ∃ p ∈ snapshot.processes, call.Sound p.pid) ∧
    ∀ before h after action pid, inputs = before ++ h :: after →
      (Runs.run (hostStep lib) start before).answered h.toInput = some action → action.pid = some pid →
        ¬ (1 ≤ pid.toNat ∧ pid.toNat < 2 ^ 31) →
          (Runs.run (hostStep lib) start before).syscalls h = [] := by
  intro start
  constructor
  · intro call hcall
    obtain ⟨before, h, after, rfl, hmade⟩ := (Runs.mem_trace ..).1 hcall
    rw [run_hostStep] at hmade
    unfold syscalls at hmade
    split at hmade
    case h_2 => cases hmade
    case h_1 action hanswer =>
      obtain ⟨pid, hpid, hsound⟩ := sound_of_mem_syscalls hmade
      -- The dialog was put up for a row of a snapshot that arrived, and that row has the PID.
      obtain ⟨earlier, input, later, key, hsplit, -, -, -, ⟨snapshot, -, hrow, hit, hmem, hevent⟩, -⟩ :=
        wasAsked_of_confirm (confirm_of_answered hanswer)
      have hbefore : hit ∈ before.map HostInput.toInput := by
        rw [hsplit]
        exact List.mem_append_left _ hmem
      obtain ⟨arrival, harrival, rfl⟩ := List.mem_map.1 hbefore
      refine ⟨arrival, by simp [harrival], snapshot, hevent, ?_⟩
      cases action
      case kill =>
        obtain ⟨p, hp, rfl, -⟩ := hrow
        obtain rfl := Option.some.inj hpid
        exact ⟨p, hp, hsound⟩
      case renice =>
        obtain ⟨p, hp, rfl, -⟩ := hrow
        obtain rfl := Option.some.inj hpid
        exact ⟨p, hp, hsound⟩
      all_goals cases hpid
  · rintro before h after action pid rfl hanswer hpid hinvalid
    unfold syscalls
    rw [hanswer]
    exact syscalls_eq_nil_of_invalid hpid hinvalid

end AppState

end Muxtop.Tui
