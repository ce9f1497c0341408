import Mathlib.Data.List.Basic
import Muxtop.Tui.Notify

/-!
# What is on screen is in the log

Reference: `muxtop-tui/src/notify.rs`.

A toast may outlive others that were posted after it, so the toasts on screen need not be the last ones
posted. But at most three show at a time, an information stays for four seconds and an error for twelve, so
while an error is on screen there is only so much that can come and go. The clock is read for each toast
anew, so two that are due at the same time may part at one expiry.
-/

namespace Muxtop.Tui

namespace Notifier

inductive Op
  | post (level : Level) (text : String)
  | dismiss

def apply (now : ℕ) (n : Notifier) : Op → Notifier
  | .post level text => n.push now level text
  | .dismiss => n.dismissAll

/-! ## What was posted, and whether it is still on screen -/

/-- What has been posted, oldest first, with whether it is on screen. -/
abbrev Track := List (Toast × Bool)

namespace Track

def posted (track : Track) : List Toast := track.map Prod.fst

def shown (track : Track) : List Toast := (track.filter Prod.snd).map Prod.fst

/-- The oldest toast on screen leaves. -/
def retireOldest : Track → Track
  | [] => []
  | (t, true) :: rest => (t, false) :: rest
  | (t, false) :: rest => (t, false) :: retireOldest rest

def post (track : Track) (t : Toast) : Track :=
  if 3 < (shown (track ++ [(t, true)])).length then retireOldest (track ++ [(t, true)])
  else track ++ [(t, true)]

/-- Toasts on screen leave that have expired, each at a reading of its own. -/
def expireFrom (clock : ℕ → ℕ) : ℕ → Track → Track
  | _, [] => []
  | i, (t, true) :: rest => (t, !t.isExpired (clock i)) :: expireFrom clock (i + 1) rest
  | i, (t, false) :: rest => (t, false) :: expireFrom clock i rest

def clear (track : Track) : Track := track.map fun e => (e.1, false)

/-- What was posted, in two parts. -/
@[simp] theorem posted_append (track more : Track) : (track ++ more).posted = track.posted ++ more.posted :=
  List.map_append

/-- What was posted first stands first, on screen or not. -/
@[simp] theorem posted_cons (t : Toast) (b : Bool) (track : Track) :
    posted ((t, b) :: track) = t :: track.posted :=
  rfl

/-- What is on screen, in two parts. -/
@[simp] theorem shown_append (track more : Track) : (track ++ more).shown = track.shown ++ more.shown := by
  rw [shown, List.filter_append, List.map_append]
  rfl

/-- A toast on screen stands before what is on screen after it. -/
@[simp] theorem shown_cons_true (t : Toast) (track : Track) : shown ((t, true) :: track) = t :: track.shown := rfl

@[simp] theorem shown_cons_false (t : Toast) (track : Track) : shown ((t, false) :: track) = track.shown := rfl

@[simp] theorem shown_nil : shown [] = [] := rfl

/-- What is on screen was posted, in that order. -/
theorem shown_sublist (track : Track) : track.shown.Sublist track.posted := List.filter_sublist.map _

/-- A toast that leaves was posted all the same. -/
theorem posted_retireOldest (track : Track) : track.retireOldest.posted = track.posted := by
  induction track with
  | nil => rfl
  | cons e track ih =>
    rcases e with ⟨t, _ | _⟩
    · exact congrArg (t :: ·) ih
    · rfl

/-- It is the oldest on screen that leaves. -/
theorem shown_retireOldest (track : Track) : track.retireOldest.shown = track.shown.tail := by
  induction track with
  | nil => rfl
  | cons e track ih =>
    rcases e with ⟨t, _ | _⟩
    · exact ih
    · rfl

/-- What follows a toast that stays on screen is not touched. -/
theorem of_retireOldest {track pre suf : Track} {t : Toast} (h : track.retireOldest = pre ++ (t, true) :: suf) :
    ∃ pre', track = pre' ++ (t, true) :: suf := by
  induction track generalizing pre with
  | nil => cases pre <;> cases h
  | cons e track ih =>
    rcases e with ⟨u, _ | _⟩
    · rcases pre with _ | ⟨first, pre⟩
      · cases h
      · obtain ⟨-, hrest⟩ := List.cons_eq_cons.1 h
        obtain ⟨pre', rfl⟩ := ih hrest
        exact ⟨(u, false) :: pre', rfl⟩
    · rcases pre with _ | ⟨first, pre⟩
      · cases h
      · obtain ⟨-, rfl⟩ := List.cons_eq_cons.1 h
        exact ⟨(u, true) :: pre, rfl⟩

/-- A toast is posted behind the others. -/
theorem posted_post (track : Track) (t : Toast) : (track.post t).posted = track.posted ++ [t] := by
  unfold post
  split_ifs
  · rw [posted_retireOldest, posted_append]
    rfl
  · rw [posted_append]
    rfl

/-- No more than three are on screen, the last ones. -/
theorem shown_post {track : Track} (h : track.shown.length ≤ 3) (t : Toast) :
    (track.post t).shown = (track.shown ++ [t]).drop ((track.shown ++ [t]).length - 3) := by
  have happend : shown (track ++ [(t, true)]) = track.shown ++ [t] := shown_append _ _
  unfold post
  split_ifs with hmore
  · rw [happend, List.length_append, List.length_singleton] at hmore
    rw [shown_retireOldest, happend, List.length_append, List.length_singleton,
      show track.shown.length + 1 - 3 = 1 by omega, List.drop_one]
  · rw [happend] at hmore ⊢
    rw [Nat.sub_eq_zero_of_le (Nat.le_of_not_lt hmore), List.drop_zero]

/-- What stands on screen after a post stood there before it, or is the new toast. -/
theorem of_post {track pre suf : Track} {new t : Toast} (h : track.post new = pre ++ (t, true) :: suf) :
    ∃ pre', track ++ [(new, true)] = pre' ++ (t, true) :: suf := by
  unfold post at h
  split_ifs at h
  · exact of_retireOldest h
  · exact ⟨pre, h⟩

/-- A toast that expires was posted all the same. -/
theorem posted_expireFrom {clock : ℕ → ℕ} {i : ℕ} {track : Track} :
    (expireFrom clock i track).posted = track.posted := by
  induction track generalizing i with
  | nil => rfl
  | cons e track ih => rcases e with ⟨t, _ | _⟩ <;> exact congrArg (t :: ·) ih

/-- Each toast on screen is held against the reading made for it. -/
theorem shown_expireFrom {clock : ℕ → ℕ} {i : ℕ} {track : Track} :
    (expireFrom clock i track).shown =
      ((track.shown.zipIdx i).filter fun entry => !entry.1.isExpired (clock entry.2)).map Prod.fst := by
  induction track generalizing i with
  | nil => rfl
  | cons e track ih =>
    rcases e with ⟨t, _ | _⟩
    · exact ih
    · have hhead : expireFrom clock i ((t, true) :: track) =
          (t, !t.isExpired (clock i)) :: expireFrom clock (i + 1) track := rfl
      rw [hhead, shown_cons_true, List.zipIdx_cons, List.filter_cons]
      cases t.isExpired (clock i)
      · exact congrArg (t :: ·) ih
      · exact ih

/-- A toast that stays had not expired at its reading, and the later ones are read after it. -/
theorem of_expireFrom {clock : ℕ → ℕ} {i : ℕ} {track pre suf : Track} {t : Toast}
    (h : expireFrom clock i track = pre ++ (t, true) :: suf) :
    ∃ (pre' suf' : Track) (j : ℕ), track = pre' ++ (t, true) :: suf' ∧ suf = expireFrom clock (j + 1) suf' ∧
      t.isExpired (clock j) = false := by
  induction track generalizing i pre with
  | nil => cases pre <;> cases h
  | cons e track ih =>
    rcases e with ⟨u, _ | _⟩
    · rcases pre with _ | ⟨first, pre⟩
      · cases h
      · obtain ⟨pre', suf', j, rfl, hsuf, hfresh⟩ := ih (List.cons_eq_cons.1 h).2
        exact ⟨(u, false) :: pre', suf', j, rfl, hsuf, hfresh⟩
    · rcases pre with _ | ⟨first, pre⟩
      · obtain ⟨hhead, rfl⟩ := List.cons_eq_cons.1 h
        obtain ⟨rfl, hfresh⟩ := Prod.mk.inj hhead
        exact ⟨[], track, i, rfl, rfl, by simpa using hfresh⟩
      · obtain ⟨pre', suf', j, rfl, hsuf, hfresh⟩ := ih (List.cons_eq_cons.1 h).2
        exact ⟨(u, true) :: pre', suf', j, rfl, hsuf, hfresh⟩

/-- Each toast stays in its place, and one that is gone was gone before or has expired at some reading. -/
theorem getElem?_expireFrom {clock : ℕ → ℕ} {i k : ℕ} {track : Track} {e : Toast × Bool}
    (h : (expireFrom clock i track)[k]? = some e) :
    ∃ e', track[k]? = some e' ∧ e'.1 = e.1 ∧
      (e.2 = false → e'.2 = false ∨ ∃ j, e.1.isExpired (clock j) = true) := by
  induction track generalizing i k with
  | nil => cases h
  | cons first track ih =>
    rcases first with ⟨u, _ | _⟩
    · cases k with
      | zero =>
        obtain rfl := Option.some.inj h
        exact ⟨_, rfl, rfl, .inl⟩
      | succ k => exact ih h
    · cases k with
      | zero =>
        obtain rfl := Option.some.inj h
        exact ⟨_, rfl, rfl, fun hgone => .inr ⟨i, by simpa using hgone⟩⟩
      | succ k => exact ih h

/-- Expiry takes nothing off the track. -/
theorem length_expireFrom {clock : ℕ → ℕ} {i : ℕ} {track : Track} :
    (expireFrom clock i track).length = track.length := by
  have hposted := congrArg List.length (@posted_expireFrom clock i track)
  simpa [posted] using hposted

/-- What is dismissed was posted all the same. -/
theorem posted_clear (track : Track) : track.clear.posted = track.posted := by
  rw [posted, clear, List.map_map]
  rfl

/-- A dismissal leaves nothing on screen. -/
theorem shown_clear (track : Track) : track.clear.shown = [] := by
  induction track with
  | nil => rfl
  | cons e track ih => exact ih

/-- Among the last of a track, more than are on screen, there is one that is not. -/
theorem exists_gone {track : Track} {m : ℕ} (hm : m ≤ track.length) (hshown : track.shown.length < m) :
    ∃ k e, track.length - m ≤ k ∧ track[k]? = some e ∧ e.2 = false := by
  have hsplit : track.shown.length =
      (shown (track.take (track.length - m))).length + (shown (track.drop (track.length - m))).length := by
    rw [← List.length_append, ← shown_append, List.take_append_drop]
  have hgone : ¬ ∀ e ∈ track.drop (track.length - m), e.2 = true := by
    intro hall
    have hlength : (shown (track.drop (track.length - m))).length = m := by
      rw [shown, List.filter_eq_self.2 hall, List.length_map, List.length_drop]
      omega
    omega
  push Not at hgone
  obtain ⟨e, he, hfalse⟩ := hgone
  obtain ⟨k, hk⟩ := List.mem_iff_getElem?.1 he
  rw [List.getElem?_drop] at hk
  exact ⟨_, e, Nat.le_add_right _ _, hk, by simpa using hfalse⟩

/-- The oldest toast on screen. -/
theorem exists_oldest {track : Track} (h : track.shown ≠ []) :
    ∃ (pre : Track) (t : Toast) (suf : Track), track = pre ++ (t, true) :: suf ∧ pre.shown = [] := by
  induction track with
  | nil => exact absurd rfl h
  | cons e track ih =>
    rcases e with ⟨t, _ | _⟩
    · obtain ⟨pre, t', suf, rfl, hpre⟩ := ih h
      exact ⟨(t, false) :: pre, t', suf, rfl, hpre⟩
    · exact ⟨[], t, track, rfl, rfl⟩

/-! ## The time that a toast on screen leaves to the others -/

/-- The least that a toast stays, and the most. -/
def leastTtl : ℕ := 4000000000
def mostTtl : ℕ := 12000000000

/-- No toast stays for less than four seconds. -/
theorem leastTtl_le (t : Toast) : leastTtl ≤ t.ttl := by
  unfold Toast.ttl leastTtl
  split <;> decide

/-- No toast stays for more than twelve. -/
theorem ttl_le_mostTtl (t : Toast) : t.ttl ≤ mostTtl := by
  unfold Toast.ttl mostTtl
  split <;> decide

/-- A later toast that is gone has expired, later ones came two at a time at most, and from the seventh on
they are on screen; `sweep` is a time by which toasts had been dropped last, at which the toast itself had
not expired if the readings of a turn are the same. -/
structure Standing (steady : Prop) (sweep : ℕ) (t : Toast) (later : Track) : Prop where
  fresh : steady → sweep < t.postedAt + mostTtl
  gone : ∀ e ∈ later, e.2 = false → e.1.postedAt + leastTtl ≤ sweep
  spaced : ∀ k e, later[k]? = some e → t.postedAt + leastTtl * (k / 2) ≤ e.1.postedAt
  late : ∀ e ∈ later.drop 6, e.2 = true

structure Paced (steady : Prop) (sweep now : ℕ) (track : Track) : Prop where
  few : track.shown.length ≤ 3
  swept : sweep ≤ now
  past : ∀ e ∈ track, e.1.postedAt ≤ now
  standing : ∀ (pre : Track) t suf, track = pre ++ (t, true) :: suf → Standing steady sweep t suf

variable {steady : Prop} {sweep now now' : ℕ} {track : Track}

/-- At the start nothing was posted. -/
theorem paced_nil (steady : Prop) (now : ℕ) : Paced steady now now [] where
  few := Nat.zero_le _
  swept := le_rfl
  past _ h := absurd h List.not_mem_nil
  standing pre t suf h := by cases pre <;> cases h

/-- Time may pass. -/
theorem Paced.later (h : Paced steady sweep now track) (hnow : now ≤ now') : Paced steady sweep now' track where
  few := h.few
  swept := h.swept.trans hnow
  past e he := (h.past e he).trans hnow
  standing := h.standing

/-- While a toast has not expired, no more than six are posted after it: of the last three one had to go. -/
theorem Standing.length_le {t : Toast} {later : Track} (h : Standing steady sweep t later)
    (hfresh : sweep < t.postedAt + mostTtl) (hshown : later.shown.length < 3) : later.length ≤ 6 := by
  by_contra hmany
  obtain ⟨k, e, hk, hlater, hfalse⟩ := exists_gone (m := 3) (by omega) hshown
  have hspaced := h.spaced k e hlater
  have hgone := h.gone e (List.mem_of_getElem? hlater) hfalse
  unfold leastTtl mostTtl at *
  omega

/-- A toast that is posted while an older one stays on screen: of the two before it one has expired. -/
theorem Standing.post {t : Toast} {later : Track} (h : Standing steady sweep t later) (ht : t.postedAt ≤ now)
    (hlast : sweep ≤ now) (hfew : later.shown.length ≤ 1) (level : Level) (text : String) :
    Standing steady sweep t (later ++ [(⟨level, text, now⟩, true)]) where
  fresh := h.fresh
  gone e he hgone := by
    rcases List.mem_append.1 he with he | he
    · exact h.gone e he hgone
    · rw [List.mem_singleton.1 he] at hgone
      cases hgone
  spaced k e he := by
    rw [List.getElem?_append] at he
    split_ifs at he with hk
    · exact h.spaced k e he
    -- Place `k` is the new toast's: with two or more in front of it, an earlier one has gone.
    · obtain ⟨hzero, rfl⟩ : k - later.length = 0 ∧ (⟨level, text, now⟩, true) = e := by
        rcases hsub : k - later.length with _ | n
        · rw [hsub] at he
          exact ⟨rfl, Option.some.inj he⟩
        · rw [hsub] at he
          cases he
      obtain rfl : k = later.length := by omega
      by_cases hshort : later.length < 2
      · rw [Nat.div_eq_of_lt hshort, Nat.mul_zero]
        exact ht
      · obtain ⟨j, e, hj, hlater, hfalse⟩ :=
          exists_gone (m := 2) (Nat.le_of_not_lt hshort) (by omega)
        have hspaced := h.spaced j e hlater
        have hgone := h.gone e (List.mem_of_getElem? hlater) hfalse
        show t.postedAt + leastTtl * (later.length / 2) ≤ now
        unfold leastTtl at *
        omega
  late e he := by
    rw [List.drop_append] at he
    rcases List.mem_append.1 he with he | he
    · exact h.late e he
    · rw [List.mem_singleton.1 (List.mem_of_mem_drop he)]

/-- A toast is posted: at most three stay on screen. -/
theorem Paced.post (h : Paced steady sweep now track) (level : Level) (text : String) :
    Paced steady sweep now (track.post ⟨level, text, now⟩) := by
  have hfew : (track.post ⟨level, text, now⟩).shown.length ≤ 3 := by
    rw [shown_post h.few, List.length_drop]
    omega
  refine ⟨hfew, h.swept, fun e he => ?_, fun pre t suf hpost => ?_⟩
  · have hposted : e.1 ∈ track.posted ++ [⟨level, text, now⟩] := by
      rw [← posted_post]
      exact List.mem_map_of_mem he
    rcases List.mem_append.1 hposted with hold | hnew
    · obtain ⟨e', he', hsame⟩ := List.mem_map.1 hold
      rw [← hsame]
      exact h.past e' he'
    · rw [List.mem_singleton.1 hnew]
  · have hshown : (shown suf).length ≤ 2 := by
      rw [hpost, shown_append, shown_cons_true, List.length_append, List.length_cons] at hfew
      omega
    obtain ⟨pre', htrack⟩ := of_post hpost
    rcases List.eq_nil_or_concat suf with rfl | ⟨suf, x, rfl⟩
    · -- it is the new one
      obtain ⟨-, hnew⟩ := List.append_inj' htrack rfl
      obtain ⟨rfl, -⟩ := Prod.mk.inj (List.cons_eq_cons.1 hnew).1
      refine ⟨fun _ => Nat.lt_of_le_of_lt h.swept (Nat.lt_add_of_pos_right (by decide)), nofun, nofun, nofun⟩
    · rw [List.concat_eq_append, ← List.cons_append, ← List.append_assoc] at htrack
      obtain ⟨hbefore, hx⟩ := List.append_inj' htrack rfl
      obtain rfl := (List.cons_eq_cons.1 hx).1
      rw [List.concat_eq_append] at hshown ⊢
      rw [shown_append, List.length_append] at hshown
      refine Standing.post (h.standing pre' t suf hbefore) ?_ h.swept (Nat.le_of_succ_le_succ hshown) _ _
      exact h.past (t, true) (hbefore ▸ List.mem_append_right _ List.mem_cons_self)

/-- Dropping what has expired, at readings between the time before and the time after. Whatever stays had
not expired when all that went before had gone: no more than six had been posted after it by then. -/
theorem Paced.expire (h : Paced steady sweep now track) {clock : ℕ → ℕ}
    (hclock : ∀ i, now ≤ clock i ∧ clock i ≤ now') (hsteady : steady → ∀ i, clock i = now') :
    Paced steady now' now' (expireFrom clock 0 track) where
  few := by
    rw [shown_expireFrom, List.length_map]
    refine (List.length_filter_le _ _).trans ?_
    rw [List.length_zipIdx]
    exact h.few
  swept := le_rfl
  past e he := by
    obtain ⟨k, hk⟩ := List.mem_iff_getElem?.1 he
    obtain ⟨e', he', hsame, -⟩ := getElem?_expireFrom hk
    rw [← hsame]
    exact (h.past e' (List.mem_of_getElem? he')).trans ((hclock 0).1.trans (hclock 0).2)
  -- Split where the toast stood before the sweep; the clock read for it is the `j`-th reading.
  standing pre t suf hexpire := by
    obtain ⟨pre', suf', j, htrack, rfl, hfresh⟩ := of_expireFrom hexpire
    have hstanding := h.standing pre' t suf' htrack
    have hmost := ttl_le_mostTtl t
    have hreading := hclock j
    have hswept := h.swept
    have hearly : clock j < t.postedAt + mostTtl := by
      simp only [Toast.isExpired, decide_eq_false_iff_not] at hfresh
      omega
    have hshown : suf'.shown.length < 3 := by
      have hfew := h.few
      rw [htrack, shown_append, shown_cons_true, List.length_append, List.length_cons] at hfew
      omega
    refine ⟨fun hall => ?_, fun e he hgone => ?_, fun k e he => ?_, fun e he => ?_⟩
    · rw [← hsteady hall j]
      exact hearly
    · obtain ⟨k, hk⟩ := List.mem_iff_getElem?.1 he
      obtain ⟨e', he', hsame, hwhy⟩ := getElem?_expireFrom hk
      have hmem := List.mem_of_getElem? he'
      have hpast := h.past e' (htrack ▸ List.mem_append_right _ (List.mem_cons_of_mem _ hmem))
      rcases hwhy hgone with hbefore | ⟨i, hexpired⟩
      · have hold := hstanding.gone e' hmem hbefore
        rw [← hsame]
        omega
      · have hleast := leastTtl_le e.1
        have hread := hclock i
        rw [hsame] at hpast
        simp only [Toast.isExpired, decide_eq_true_eq] at hexpired
        unfold leastTtl at *
        omega
    · obtain ⟨e', he', hsame, -⟩ := getElem?_expireFrom he
      rw [← hsame]
      exact hstanding.spaced k e' he'
    · have hnone : (expireFrom clock (j + 1) suf').drop 6 = [] := by
        rw [List.drop_eq_nil_iff, length_expireFrom]
        exact hstanding.length_le (by omega) hshown
      rw [hnone] at he
      cases he

/-- A dismissal leaves nothing on screen to account for. -/
theorem Paced.dismiss (h : Paced steady sweep now track) : Paced steady sweep now track.clear where
  few := by
    rw [shown_clear]
    exact Nat.zero_le _
  swept := h.swept
  past e he := by
    obtain ⟨e', he', rfl⟩ := List.mem_map.1 he
    exact h.past e' he'
  standing pre t suf hclear := by
    have hmem : (t, true) ∈ track.clear := hclear ▸ List.mem_append_right _ List.mem_cons_self
    obtain ⟨e, -, he⟩ := List.mem_map.1 hmem
    cases he

/-- While a toast is on screen no more than eight are posted after it, and no more than six if the readings
of a turn are the same. -/
theorem Paced.length_later (h : Paced steady sweep now track) {pre suf : Track} {t : Toast}
    (htrack : track = pre ++ (t, true) :: suf) : suf.length ≤ 8 ∧ (steady → suf.length ≤ 6) := by
  have hstanding := h.standing pre t suf htrack
  have hshown : suf.shown.length < 3 := by
    have hfew := h.few
    rw [htrack, shown_append, shown_cons_true, List.length_append, List.length_cons] at hfew
    omega
  refine ⟨?_, fun hall => hstanding.length_le (hstanding.fresh hall) hshown⟩
  -- from the seventh on they are all on screen
  have hlate : (shown (suf.drop 6)).length = suf.length - 6 := by
    rw [shown, List.filter_eq_self.2 hstanding.late, List.length_map, List.length_drop]
  have hsplit : suf.shown.length = (shown (suf.take 6)).length + (shown (suf.drop 6)).length := by
    rw [← List.length_append, ← shown_append, List.take_append_drop]
  omega

/-- What is on screen is among the last posted, where so many at most are posted after a toast on screen. -/
theorem shown_sublist_recent {m : ℕ}
    (h : ∀ (pre : Track) t suf, track = pre ++ (t, true) :: suf → suf.length ≤ m) :
    track.shown.Sublist (track.posted.drop (track.posted.length - (m + 1))) := by
  by_cases hnone : track.shown = []
  · rw [hnone]
    exact List.nil_sublist _
  · obtain ⟨pre, t, suf, htrack, hpre⟩ := exists_oldest hnone
    have hlater := h pre t suf htrack
    have hposted : track.posted.drop pre.length = posted ((t, true) :: suf) := by
      rw [htrack, posted_append]
      exact List.drop_left' (List.length_map _)
    have hshown : track.shown = shown ((t, true) :: suf) := by
      rw [htrack, shown_append, hpre, List.nil_append]
    have hlength : track.posted.length = pre.length + (suf.length + 1) := by
      rw [posted, htrack, List.length_map, List.length_append, List.length_cons]
    rw [hshown]
    refine (shown_sublist _).trans ?_
    rw [← hposted]
    exact List.drop_sublist_drop_left _ (by omega)

def apply (now : ℕ) (track : Track) : Op → Track
  | .post level text => track.post ⟨level, scrubCtrl text, now⟩
  | .dismiss => track.clear

/-- Posted or dismissed. -/
theorem Paced.apply (h : Paced steady sweep now track) (op : Op) :
    Paced steady sweep now (track.apply now op) := by
  cases op with
  | post level text => exact h.post level _
  | dismiss => exact h.dismiss

end Track

/-! ## The messages -/

/-- The messages are what a track says: what is on screen, and the last fifty posted. -/
structure Follows (n : Notifier) (track : Track) : Prop where
  active : n.active = track.shown
  log : n.log = track.posted.drop (track.posted.length - logCapacity)

/-- The last `k` of a list and one more. -/
theorem drop_concat {α : Type} (l : List α) (a : α) (k : ℕ) :
    (l.drop (l.length - k) ++ [a]).drop ((l.drop (l.length - k) ++ [a]).length - k) =
      (l ++ [a]).drop ((l ++ [a]).length - k) := by
  have hsame : l.drop (l.length - k) ++ [a] = (l ++ [a]).drop (l.length - k) := by
    rw [List.drop_append_of_le_length (Nat.sub_le _ _)]
  rw [hsame, List.drop_drop, List.length_drop, List.length_append, List.length_singleton]
  congr 1
  omega

/-- What the messages do, their track does. -/
theorem Follows.apply {n : Notifier} {track : Track} {steady : Prop} {sweep now : ℕ} (h : Follows n track)
    (hpaced : track.Paced steady sweep now) (op : Op) : Follows (n.apply now op) (track.apply now op) := by
  cases op with
  | post level text =>
    have hposted : (track.apply now (.post level text)).posted =
        track.posted ++ [⟨level, scrubCtrl text, now⟩] := Track.posted_post _ _
    refine ⟨?_, ?_⟩
    · show (n.active ++ [_]).drop _ = (track.post _).shown
      rw [Track.shown_post hpaced.few, h.active]
      rfl
    · show (n.log ++ [_]).drop _ = _
      rw [hposted, h.log]
      exact drop_concat _ _ _
  | dismiss =>
    have hposted : (track.apply now .dismiss).posted = track.posted := Track.posted_clear track
    refine ⟨?_, hposted ▸ h.log⟩
    show [] = track.clear.shown
    rw [Track.shown_clear]

/-- What expires on screen expires in the track. -/
theorem Follows.expire {n : Notifier} {track : Track} (h : Follows n track) (clock : ℕ → ℕ) :
    Follows (n.expire clock) (track.expireFrom clock 0) where
  active := by
    rw [Track.shown_expireFrom, ← h.active]
    rfl
  log := by
    rw [Track.posted_expireFrom]
    exact h.log

/-- The messages are what some track says, at a time. -/
def Sound (steady : Prop) (now : ℕ) (n : Notifier) : Prop :=
  ∃ (track : Track) (sweep : ℕ), Follows n track ∧ track.Paced steady sweep now

variable {steady : Prop} {n : Notifier} {now now' : ℕ}

/-- At the start there are no messages. -/
theorem sound_new (steady : Prop) (now : ℕ) : Sound steady now {} :=
  ⟨[], now, ⟨rfl, rfl⟩, Track.paced_nil steady now⟩

/-- One message, or a dismissal. -/
theorem Sound.apply (h : Sound steady now n) (op : Op) : Sound steady now (n.apply now op) := by
  obtain ⟨track, sweep, hfollows, hpaced⟩ := h
  exact ⟨_, sweep, hfollows.apply hpaced op, hpaced.apply op⟩

/-- Several of them in one turn. -/
theorem Sound.applied (h : Sound steady now n) (ops : List Op) :
    Sound steady now (ops.foldl (Notifier.apply now) n) := by
  induction ops generalizing n with
  | nil => exact h
  | cons op ops ih => exact ih (h.apply op)

/-- A turn drops what has expired. -/
theorem Sound.expire (h : Sound steady now n) {clock : ℕ → ℕ}
    (hclock : ∀ i, now ≤ clock i ∧ clock i ≤ now') (hsteady : steady → ∀ i, clock i = now') :
    Sound steady now' (n.expire clock) := by
  obtain ⟨track, sweep, hfollows, hpaced⟩ := h
  exact ⟨_, now', hfollows.expire clock, hpaced.expire hclock hsteady⟩

/-- Time may pass. -/
theorem Sound.later (h : Sound steady now n) (hnow : now ≤ now') : Sound steady now' n := by
  obtain ⟨track, sweep, hfollows, hpaced⟩ := h
  exact ⟨track, sweep, hfollows, hpaced.later hnow⟩

/-- The last so many of the log are the last posted. -/
theorem Follows.drop_log {track : Track} (h : Follows n track) {m : ℕ} (hm : m ≤ logCapacity) :
    n.log.drop (n.log.length - m) = track.posted.drop (track.posted.length - m) := by
  rw [h.log, List.drop_drop, List.length_drop]
  congr 1
  omega

/-- What is on screen is among the last nine of the log, and among the last seven where the readings of a
turn are the same. -/
theorem Sound.active_sublist (h : Sound steady now n) :
    n.active.Sublist (n.log.drop (n.log.length - 9)) ∧
      (steady → n.active.Sublist (n.log.drop (n.log.length - 7))) ∧
      n.active.length ≤ 3 ∧ n.log.length ≤ logCapacity := by
  obtain ⟨track, sweep, hfollows, hpaced⟩ := h
  rw [hfollows.drop_log (m := 9) (by decide), hfollows.drop_log (m := 7) (by decide), hfollows.active]
  refine ⟨?_, fun hall => ?_, hpaced.few, ?_⟩
  · exact Track.shown_sublist_recent fun pre t suf htrack => (hpaced.length_later htrack).1
  · exact Track.shown_sublist_recent fun pre t suf htrack => (hpaced.length_later htrack).2 hall
  · rw [hfollows.log, List.length_drop]
    omega

end Notifier

end Muxtop.Tui
