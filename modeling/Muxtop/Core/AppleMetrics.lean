import Muxtop.Foundation.Numerals
import Muxtop.Foundation.WeightedMean

/-!
# The clock of an Apple GPU

`parse_dvfs_table`, `state_index` and `residency_weighted_clock_mhz` of `muxtop-core/src/apple/metrics.rs`.
The table is decoded from a property without documentation; its entry 0 is that of the parked state and
is taken to be 0 MHz, which the parser does not check. The average leaves out the states of 0 MHz.
-/

namespace Muxtop.Core.Apple

open Text WeightedMean

/-! ## The code -/

/-- One clock in MHz for each performance state. -/
abbrev DvfsTable := List UInt32

/-- The clocks of the whole pairs of a blob, unless one is not plausible. -/
def decodePairs : List UInt8 → Option DvfsTable
  | b₀ :: b₁ :: b₂ :: b₃ :: _ :: _ :: _ :: _ :: rest =>
    -- the other half of a pair is the voltage
    let hz := b₀.toNat + 256 * b₁.toNat + 65536 * b₂.toNat + 16777216 * b₃.toNat
    let mhz := (hz + 500000) / 1000000
    if 4000 < mhz then none else (decodePairs rest).map (.ofNat mhz :: ·)
  | _ => some []

def parseDvfsTable (blob : List UInt8) : Option DvfsTable :=
  if blob = [] ∨ blob.length % 8 ≠ 0 then none else decodePairs blob

def stateIndex (name : String) : Option ℕ :=
  if eqIgnoreAsciiCase name.toList "off" then some 0
  else
    ((stripPrefix name "P").or (stripPrefix name "p")).bind fun digits =>
      if digits = "" ∨ ¬digits.toList.all Char.isDigit then none
      else parseUnsigned (2 ^ 64) digits

/-- A state of the channel with its ticks. -/
abbrev Residency := String × UInt64

/-- The clock of the state, if the table names it. -/
def clockOf (table : DvfsTable) (name : String) : Option UInt32 :=
  (stateIndex name).bind fun index => table[index]?

/-- The sums of the loop, 128 bits each. -/
structure Sums where
  weighted : ℕ := 0
  activeTicks : ℕ := 0
  knownTicks : ℕ := 0

/-- One turn of the loop. The sums wrap around, as they do in a release build. -/
def addResidency (table : DvfsTable) (s : Sums) (r : Residency) : Option Sums :=
  match clockOf table r.1 with
  | some clock =>
    let knownTicks := (s.knownTicks + r.2.toNat) % 2 ^ 128
    if 0 < clock then
      some
        { weighted := (s.weighted + r.2.toNat * clock.toNat) % 2 ^ 128
          activeTicks := (s.activeTicks + r.2.toNat) % 2 ^ 128
          knownTicks }
    else some { s with knownTicks }
  -- the channel pads its list with states that never run; a state that ran is of another chip
  | none => if r.2 = 0 then some s else none

def residencyWeightedClockMhz (residencies : List Residency) (table : DvfsTable) : Option UInt32 :=
  match residencies.foldlM (addResidency table) {} with
  | none => none
  | some s =>
    if s.knownTicks = 0 then none
    else if s.activeTicks = 0 then some 0
    else if s.weighted / s.activeTicks < 2 ^ 32 then some (.ofNat (s.weighted / s.activeTicks))
    else none

/-! ## What the clock is to be -/

/-- The parked state has index 0. -/
def parked (r : Residency) : Bool := stateIndex r.1 == some 0

def named (table : DvfsTable) (r : Residency) : Bool := (clockOf table r.1).isSome

/-- The state has ticks and no clock. -/
def mismatched (table : DvfsTable) (r : Residency) : Bool := r.2 != 0 && !named table r

/-- The ticks and the clock of a state; a state without a clock counts as nothing. -/
def weighed (table : DvfsTable) (r : Residency) : ℕ × ℕ :=
  match clockOf table r.1 with
  | some clock => (r.2.toNat, clock.toNat)
  | none => (0, 0)

/-- The states that are not parked, with their ticks and clocks. -/
def active (table : DvfsTable) (residencies : List Residency) : List (ℕ × ℕ) :=
  (residencies.filter (!parked ·)).map (weighed table)

/-- The entries that the loop comes to. -/
def reached (table : DvfsTable) (residencies : List Residency) : List Residency :=
  residencies.takeWhile (!mismatched table ·)

/-- No sum of the loop exceeds 128 bits. -/
def NoOverflow (table : DvfsTable) (residencies : List Residency) : Prop :=
  weight ((reached table residencies).map (weighed table)) < 2 ^ 128 ∧
    weightedSum ((reached table residencies).map (weighed table)) < 2 ^ 128

/-- The clock that some residencies give is what the counters tell. -/
structure TellsClock (table : DvfsTable) (residencies : List Residency) : Prop where
  fits : NoOverflow table residencies
  unknown : residencyWeightedClockMhz residencies table = none ↔
    (∀ r ∈ residencies, r.2 = 0) ∨ ∃ r ∈ residencies, mismatched table r = true
  idle : residencyWeightedClockMhz residencies table = some 0 ↔
    (∃ r ∈ residencies, r.2 ≠ 0) ∧ ∀ r ∈ residencies, r.2 ≠ 0 → parked r = true
  mean : (∀ r ∈ residencies, mismatched table r = false) →
    (∃ r ∈ residencies, r.2 ≠ 0 ∧ parked r = false) →
      ∃ clock, residencyWeightedClockMhz residencies table = some clock ∧
        clock.toNat = WeightedMean.mean (active table residencies) ∧
        (∃ x ∈ active table residencies, 0 < x.1 ∧ x.2 ≤ clock.toNat) ∧
        ∃ x ∈ active table residencies, 0 < x.1 ∧ clock.toNat ≤ x.2
  off : ∀ others, NoOverflow table others →
    others.filter (!parked ·) = residencies.filter (!parked ·) →
      ∀ clock, clock ≠ 0 → residencyWeightedClockMhz residencies table = some clock →
        residencyWeightedClockMhz others table = some clock
  order : ∀ others, others.Perm residencies →
    residencyWeightedClockMhz others table = residencyWeightedClockMhz residencies table
  padding : ∀ pads : List Residency, (∀ r ∈ pads, r.2 = 0) →
    residencyWeightedClockMhz (residencies ++ pads) table = residencyWeightedClockMhz residencies table

/-! ## When the loop tells it

The loop takes the states of 0 MHz for the parked one. That is right where entry 0 is 0 MHz and no active
state that ran is; elsewhere only rounding down to whole MHz can hide the difference.
-/

/-- The entry of the parked state, which the parser does not check. -/
def parkedClock (table : DvfsTable) : ℕ := (table[0]?.getD 0).toNat

/-- The most ticks of the parked state that the sums have room for beside the active states. -/
def parkedRoom (table : DvfsTable) (residencies : List Residency) : ℕ :=
  min (2 ^ 128 - 1 - weight (active table residencies))
    ((2 ^ 128 - 1 - weightedSum (active table residencies)) / parkedClock table)

/-- Of the active states, some ran at a clock; those that ran at 0 MHz, which the loop leaves out, do not
lower the mean to another whole number, and neither do as many parked ticks as there is room for move it,
if the loop takes them in. -/
structure RoundsAlike (table : DvfsTable) (residencies : List Residency) : Prop where
  clocked : weight (nonzero (active table residencies)) ≠ 0
  stalled : mean (nonzero (active table residencies)) = mean (active table residencies)
  parked : parkedClock table = 0 ∨
    mean ((parkedRoom table residencies, parkedClock table) :: nonzero (active table residencies)) =
      mean (active table residencies)

/-- The sums fit; where the parked state alone ran, its entry is 0 MHz; and where the table names all
states that ran and an active one did, their clocks round alike. -/
structure TellsParked (table : DvfsTable) (residencies : List Residency) : Prop where
  fits : NoOverflow table residencies
  idle : (∃ r ∈ residencies, r.2 ≠ 0) → (∀ r ∈ residencies, r.2 ≠ 0 → parked r = true) →
    parkedClock table = 0
  running : (∀ r ∈ residencies, mismatched table r = false) →
    (∃ r ∈ residencies, r.2 ≠ 0 ∧ parked r = false) → RoundsAlike table residencies

/-- The parked state alone has no clock; an index is of 64 bits. -/
def ZeroIsParked (table : DvfsTable) : Prop :=
  ∀ index < 2 ^ 64, ∀ clock ∈ table[index]?, (clock = 0 ↔ index = 0)

/-! ## The table -/

/-- The parser takes no clock of more than 4000 MHz. -/
theorem le_of_decodePairs {blob : List UInt8} {table : DvfsTable} (h : decodePairs blob = some table) :
    ∀ clock ∈ table, clock.toNat ≤ 4000 := by
  fun_induction decodePairs blob generalizing table with
  | case1 => cases h
  | case2 _ _ _ _ _ _ _ _ _ hz mhz =>
    rename_i hplausible ih
    obtain ⟨clocks, hclocks, rfl⟩ := Option.map_eq_some_iff.1 h
    intro clock hmem
    obtain rfl | hrest := List.mem_cons.1 hmem
    · rw [UInt32.toNat_ofNat_of_lt' (by rw [UInt32.size]; omega)]
      exact Nat.le_of_not_lt hplausible
    · exact ih hclocks clock hrest
  | case3 =>
    cases h
    simp

/-- A whole pair makes an entry. -/
theorem ne_nil_of_decodePairs {blob : List UInt8} {table : DvfsTable} (hlength : 8 ≤ blob.length)
    (h : decodePairs blob = some table) : table ≠ [] := by
  match blob, hlength with
  | b₀ :: b₁ :: b₂ :: b₃ :: b₄ :: b₅ :: b₆ :: b₇ :: rest, _ => 
    rw [decodePairs] at h
    split at h
    · cases h
    · obtain ⟨clocks, -, rfl⟩ := Option.map_eq_some_iff.1 h
      simp

/-! ## The loop -/

/-- A state is no mismatch if it did not run, or has a clock. -/
theorem mismatched_eq_false_iff {table : DvfsTable} {r : Residency} :
    mismatched table r = false ↔ r.2 = 0 ∨ ∃ clock, clockOf table r.1 = some clock := by
  rw [mismatched, Bool.and_eq_false_iff, bne_eq_false_iff_eq, Bool.not_eq_false', named,
    Option.isSome_iff_exists]

/-- A state with a clock weighs as many ticks as it has. -/
theorem weighed_of_clock {table : DvfsTable} {r : Residency} {clock : UInt32}
    (h : clockOf table r.1 = some clock) : weighed table r = (r.2.toNat, clock.toNat) := by
  rw [weighed, h]

/-- Where the table names each state that ran, a state counts by its ticks. -/
theorem weighed_fst {table : DvfsTable} {r : Residency} (h : mismatched table r = false) :
    (weighed table r).1 = r.2.toNat := by
  rw [weighed]
  split
  case h_1 => rfl
  case h_2 hnone =>
    obtain hzero | ⟨clock, hclock⟩ := mismatched_eq_false_iff.1 h
    · rw [hzero]
      rfl
    · rw [hclock] at hnone
      cases hnone

/-- The sums over some states, without bound. -/
def sumsOf (xs : List (ℕ × ℕ)) : Sums where
  weighted := weightedSum xs
  activeTicks := weight (nonzero xs)
  knownTicks := weight xs

/-- The sums over some states are those of 128 bits. -/
def Fits (xs : List (ℕ × ℕ)) : Prop := weight xs < 2 ^ 128 ∧ weightedSum xs < 2 ^ 128

/-- The sums over fewer states are no greater. -/
theorem Fits.init {xs ys : List (ℕ × ℕ)} (h : Fits (xs ++ ys)) : Fits xs := by
  rw [Fits, weight_append, weightedSum_append] at h
  exact ⟨Nat.lt_of_le_of_lt (Nat.le_add_right _ _) h.1, Nat.lt_of_le_of_lt (Nat.le_add_right _ _) h.2⟩

/-- The same sums fit or do not. -/
theorem fits_congr {xs ys : List (ℕ × ℕ)} (h : sumsOf xs = sumsOf ys) : Fits xs ↔ Fits ys := by
  rw [sumsOf, sumsOf, Sums.mk.injEq] at h
  rw [Fits, Fits, h.1, h.2.2]

/-- One turn of the loop adds the state, while the sums fit. -/
theorem addResidency_sumsOf {table : DvfsTable} {xs : List (ℕ × ℕ)} {r : Residency}
    (hnamed : mismatched table r = false) (hfits : Fits (xs ++ [weighed table r])) :
    addResidency table (sumsOf xs) r = some (sumsOf (xs ++ [weighed table r])) := by
  have hactive := Nat.lt_of_le_of_lt (weight_nonzero_le _) hfits.1
  rw [Fits, weight_append, weightedSum_append] at hfits
  rw [nonzero_append, weight_append] at hactive
  rw [addResidency, sumsOf, sumsOf, nonzero_append, weight_append, weight_append, weightedSum_append]
  split
  case h_1 clock hclock =>
    rw [weighed_of_clock hclock] at hfits hactive ⊢
    split
    case isTrue hpos =>
      have hrunning : nonzero [(r.2.toNat, clock.toNat)] = [(r.2.toNat, clock.toNat)] := by
        simpa [nonzero] using UInt32.lt_iff_toNat_lt.1 hpos
      rw [hrunning] at hactive ⊢
      simp only [weight_singleton, weightedSum_singleton] at hfits hactive ⊢
      simp only [Nat.mod_eq_of_lt hfits.1, Nat.mod_eq_of_lt hfits.2, Nat.mod_eq_of_lt hactive]
    case isFalse hzero =>
      have hparked : clock = 0 := by simpa using hzero
      subst hparked
      simp only [weight_singleton, weightedSum_singleton] at hfits ⊢
      simp only [Nat.mod_eq_of_lt hfits.1]
      rfl
  case h_2 hnone =>
    -- A state without a clock has not run.
    obtain hidle | ⟨clock, hclock⟩ := mismatched_eq_false_iff.1 hnamed
    · rw [if_pos hidle, weighed, hnone]
      rfl
    · rw [hnone] at hclock
      cases hclock

/-- Where nothing wraps around, the loop has the sums. -/
theorem foldlM_addResidency {table : DvfsTable} {residencies : List Residency}
    (hnamed : ∀ r ∈ residencies, mismatched table r = false)
    (hfits : Fits (residencies.map (weighed table))) :
    residencies.foldlM (addResidency table) {} = some (sumsOf (residencies.map (weighed table))) := by
  induction residencies using List.reverseRecOn with
  | nil => rfl
  | append_singleton residencies r ih =>
    rw [List.map_append, List.map_singleton] at hfits ⊢
    have hbefore := ih (fun r hr => hnamed r (List.mem_append_left _ hr)) hfits.init
    rw [List.foldlM_append, hbefore, Option.bind_eq_bind, Option.bind_some, List.foldlM_cons,
      addResidency_sumsOf (hnamed r (List.mem_append_right _ List.mem_cons_self)) hfits]
    rfl

/-- The loop gives up at a state that ran and that the table does not name. -/
theorem foldlM_mismatched {table : DvfsTable} {residencies : List Residency} (s : Sums)
    (h : ∃ r ∈ residencies, mismatched table r = true) :
    residencies.foldlM (addResidency table) s = none := by
  induction residencies generalizing s with
  | nil =>
    obtain ⟨r, hr, -⟩ := h
    exact absurd hr List.not_mem_nil
  | cons first rest ih =>
    rw [List.foldlM_cons, Option.bind_eq_bind, Option.bind_eq_none_iff]
    intro s' hs'
    obtain ⟨r, hr, hmismatched⟩ := h
    obtain rfl | hrest := List.mem_cons.1 hr
    · rw [mismatched, named, Bool.and_eq_true, bne_iff_ne, Bool.not_eq_true',
        Option.isSome_eq_false_iff, Option.isNone_iff_eq_none] at hmismatched
      rw [addResidency, hmismatched.2] at hs'
      exact absurd (hs'.symm.trans (if_neg hmismatched.1)) (by simp)
    · exact ih s' ⟨r, hrest, hmismatched⟩

/-! ## The clock -/

/-- No state has a clock of more than 4000 MHz. -/
theorem clockOf_le {blob : List UInt8} {table : DvfsTable} (h : parseDvfsTable blob = some table)
    {name : String} {clock : UInt32} (hclock : clockOf table name = some clock) :
    clock.toNat ≤ 4000 := by
  rw [clockOf, Option.bind_eq_some_iff] at hclock
  obtain ⟨index, -, hentry⟩ := hclock
  rw [parseDvfsTable] at h
  split at h
  · cases h
  · exact le_of_decodePairs h clock (List.mem_of_getElem? hentry)

/-- Nor is any counted with more. -/
theorem weighed_snd_le {blob : List UInt8} {table : DvfsTable} (h : parseDvfsTable blob = some table)
    (r : Residency) : (weighed table r).2 ≤ 4000 := by
  rw [weighed]
  split
  case h_1 clock hclock => exact clockOf_le h hclock
  case h_2 => exact Nat.zero_le _

/-- The weighted sum is at most 4000 times the ticks. -/
theorem weightedSum_weighed_le {blob : List UInt8} {table : DvfsTable}
    (h : parseDvfsTable blob = some table) (residencies : List Residency) :
    weightedSum (residencies.map (weighed table)) ≤ 4000 * weight (residencies.map (weighed table)) := by
  refine weightedSum_le fun x hx _ => ?_
  obtain ⟨r, -, rfl⟩ := List.mem_map.1 hx
  exact weighed_snd_le h r

/-- An accepted table has an entry for the parked state. -/
theorem ne_nil_of_parse {blob : List UInt8} {table : DvfsTable} (h : parseDvfsTable blob = some table) :
    table ≠ [] := by
  rw [parseDvfsTable] at h
  split at h
  case isTrue => cases h
  case isFalse hwhole =>
    have hpositive : 0 < blob.length := List.length_pos_of_ne_nil fun hnil => hwhole (.inl hnil)
    have hmod : blob.length % 8 = 0 := Decidable.not_not.1 fun hne => hwhole (.inr hne)
    exact ne_nil_of_decodePairs (by omega) h

/-- The clock that the sums over some states give. -/
def clockFrom (xs : List (ℕ × ℕ)) : Option UInt32 :=
  if weight xs = 0 then none
  else if weight (nonzero xs) = 0 then some 0
  else some (.ofNat (mean (nonzero xs)))

/-- The same sums give the same clock. -/
theorem clockFrom_congr {xs ys : List (ℕ × ℕ)} (h : sumsOf xs = sumsOf ys) : clockFrom xs = clockFrom ys := by
  rw [sumsOf, sumsOf, Sums.mk.injEq] at h
  obtain ⟨hweighted, hactive, hknown⟩ := h
  have hmean : mean (nonzero xs) = mean (nonzero ys) :=
    mean_congr hactive (by rw [weightedSum_nonzero, weightedSum_nonzero, hweighted])
  rw [clockFrom, clockFrom, hknown, hactive, hmean]

/-- There is no clock where there are no ticks. -/
theorem clockFrom_eq_none_iff {xs : List (ℕ × ℕ)} : clockFrom xs = none ↔ weight xs = 0 := by
  unfold clockFrom
  split_ifs with hweight
  · exact iff_of_true rfl hweight
  · exact iff_of_false nofun hweight
  · exact iff_of_false nofun hweight

/-- Where no clock exceeds the plausible one, the mean is a number of 32 bits and is not 0. -/
theorem mean_nonzero_spec {xs : List (ℕ × ℕ)} (hbound : ∀ x ∈ xs, x.2 ≤ 4000)
    (hran : weight (nonzero xs) ≠ 0) :
    0 < mean (nonzero xs) ∧ (UInt32.ofNat (mean (nonzero xs))).toNat = mean (nonzero xs) := by
  have hpos := Nat.pos_of_ne_zero hran
  constructor
  · obtain ⟨x, hx, -, hle⟩ := exists_le_mean hpos
    exact Nat.lt_of_lt_of_le (of_decide_eq_true (List.mem_filter.1 hx).2) hle
  · obtain ⟨x, hx, -, hle⟩ := exists_mean_le hpos
    have hsmall := hle.trans (hbound x (List.mem_of_mem_filter hx))
    exact UInt32.toNat_ofNat_of_lt' (Nat.lt_of_le_of_lt hsmall (by decide))

/-- A clock other than 0 is the mean of those that ran. -/
theorem clockFrom_eq_some_iff {xs : List (ℕ × ℕ)} (hbound : ∀ x ∈ xs, x.2 ≤ 4000) {clock : UInt32}
    (hclock : clock ≠ 0) :
    clockFrom xs = some clock ↔ weight (nonzero xs) ≠ 0 ∧ clock.toNat = mean (nonzero xs) := by
  unfold clockFrom
  split_ifs with hweight hrunning
  · refine iff_of_false nofun fun h => h.1 ?_
    exact Nat.le_zero.1 ((weight_nonzero_le xs).trans_eq hweight)
  · exact iff_of_false (fun h => hclock (Option.some.inj h).symm) fun h => h.1 hrunning
  · have hsame := (mean_nonzero_spec hbound hrunning).2
    rw [Option.some_inj, ← UInt32.toNat_inj, hsame]
    exact ⟨fun h => ⟨hrunning, h.symm⟩, fun h => h.2.symm⟩

/-- The clock is 0 where all ticks are at 0 MHz. -/
theorem clockFrom_eq_zero_iff {xs : List (ℕ × ℕ)} (hbound : ∀ x ∈ xs, x.2 ≤ 4000) :
    clockFrom xs = some 0 ↔ weight xs ≠ 0 ∧ weight (nonzero xs) = 0 := by
  unfold clockFrom
  split_ifs with hweight hrunning
  · exact iff_of_false nofun fun h => h.1 hweight
  · exact iff_of_true rfl ⟨hweight, hrunning⟩
  · refine iff_of_false (fun h => ?_) fun h => hrunning h.2
    obtain ⟨hpos, hsame⟩ := mean_nonzero_spec hbound hrunning
    rw [Option.some.inj h] at hsame
    exact Nat.ne_of_lt hpos hsame

/-- The clock, where the table names each state that ran and the sums fit. -/
theorem residencyWeightedClockMhz_eq {blob : List UInt8} {table : DvfsTable}
    (h : parseDvfsTable blob = some table) {residencies : List Residency}
    (hnamed : ∀ r ∈ residencies, mismatched table r = false)
    (hfits : Fits (residencies.map (weighed table))) :
    residencyWeightedClockMhz residencies table = clockFrom (residencies.map (weighed table)) := by
  have hbound : ∀ x ∈ residencies.map (weighed table), x.2 ≤ 4000 :=
    List.forall_mem_map.2 fun r _ => weighed_snd_le h r
  rw [residencyWeightedClockMhz, foldlM_addResidency hnamed hfits, clockFrom]
  dsimp only [sumsOf]
  rw [← weightedSum_nonzero, ← mean]
  split_ifs with hweight hrunning hsmall
  · rfl
  · rfl
  · rfl
  · refine absurd ?_ hsmall
    rw [← (mean_nonzero_spec hbound hrunning).2]
    exact UInt32.toNat_lt _

/-- A state that ran and has no clock leaves the whole without one. -/
theorem residencyWeightedClockMhz_mismatched {table : DvfsTable} {residencies : List Residency}
    (h : ∃ r ∈ residencies, mismatched table r = true) :
    residencyWeightedClockMhz residencies table = none := by
  rw [residencyWeightedClockMhz, foldlM_mismatched {} h]

/-- Without a mismatch the loop comes to every entry. -/
theorem reached_eq {table : DvfsTable} {residencies : List Residency}
    (h : ∀ r ∈ residencies, mismatched table r = false) : reached table residencies = residencies := by
  rw [reached, List.takeWhile_eq_self_iff]
  exact fun r hr => by rw [h r hr]; rfl

/-- Then no sum over all of them overflows. -/
theorem NoOverflow.fits {table : DvfsTable} {residencies : List Residency}
    (h : NoOverflow table residencies) (hnamed : ∀ r ∈ residencies, mismatched table r = false) :
    Fits (residencies.map (weighed table)) := by
  rw [NoOverflow, reached_eq hnamed] at h
  exact h

/-- Either the table names each state that ran, or it does not. -/
theorem all_named_or_mismatched (table : DvfsTable) (residencies : List Residency) :
    (∀ r ∈ residencies, mismatched table r = false) ∨ ∃ r ∈ residencies, mismatched table r = true := by
  by_cases h : ∃ r ∈ residencies, mismatched table r = true
  · exact .inr h
  · refine .inl fun r hr => ?_
    rw [← Bool.not_eq_true]
    exact fun hmismatched => h ⟨r, hr, hmismatched⟩

/-! ## The parked state and the active ones -/

/-- The table names the parked state. -/
theorem not_parked_of_mismatched {table : DvfsTable} (htable : table ≠ []) {r : Residency}
    (h : mismatched table r = true) : parked r = false := by
  rw [← Bool.not_eq_true, parked, beq_iff_eq]
  intro hindex
  rw [mismatched, named, clockOf, hindex, Option.bind_some, Bool.and_eq_true, Bool.not_eq_true',
    Option.isSome_eq_false_iff, Option.isNone_iff_eq_none, List.getElem?_eq_none_iff] at h
  exact htable (List.length_eq_zero_iff.1 (Nat.le_zero.1 h.2))

/-- The parked state has the first entry of the table for its clock. -/
theorem weighed_of_parked {table : DvfsTable} (htable : table ≠ []) {r : Residency}
    (h : parked r = true) : weighed table r = (r.2.toNat, parkedClock table) := by
  obtain ⟨clock, rest, rfl⟩ := List.exists_cons_of_ne_nil htable
  rw [parked, beq_iff_eq] at h
  have hclock : clockOf (clock :: rest) r.1 = some clock := by rw [clockOf, h]; rfl
  rw [weighed_of_clock hclock]
  rfl

/-- The ticks of the parked state. -/
def parkedTicks (residencies : List Residency) : ℕ :=
  ((residencies.filter parked).map fun r => r.2.toNat).sum

/-- The parked state as one, and the active states. -/
def gathered (table : DvfsTable) (residencies : List Residency) : List (ℕ × ℕ) :=
  (parkedTicks residencies, parkedClock table) :: active table residencies

/-- The loop may as well take the parked state first. -/
theorem sumsOf_gathered {table : DvfsTable} (htable : table ≠ []) (residencies : List Residency) :
    sumsOf (residencies.map (weighed table)) = sumsOf (gathered table residencies) := by
  -- one state more adds to the parked ticks, or is one more active state
  induction residencies with
  | nil =>
    rw [gathered, sumsOf, sumsOf, weightedSum_cons, weight_cons, weight_nonzero_cons]
    show _ = Sums.mk (0 * _ + 0) ((if _ then 0 else 0) + 0) (0 + 0)
    rw [ite_self, Nat.zero_mul]
    rfl
  | cons r rest ih =>
    rw [sumsOf, sumsOf, Sums.mk.injEq, gathered] at ih ⊢
    rw [weightedSum_cons, weight_cons, weight_nonzero_cons] at ih
    rw [List.map_cons, weightedSum_cons, weight_cons, weight_nonzero_cons, weightedSum_cons, weight_cons,
      weight_nonzero_cons, ih.1, ih.2.1, ih.2.2]
    cases hparked : parked r with
    | true =>
      have hactive : active table (r :: rest) = active table rest := by
        rw [active, List.filter_cons_of_neg (by simp [hparked])]
        rfl
      have hticks : parkedTicks (r :: rest) = r.2.toNat + parkedTicks rest := by
        rw [parkedTicks, List.filter_cons_of_pos hparked, List.map_cons, List.sum_cons]
        rfl
      rw [weighed_of_parked htable hparked, hactive, hticks]
      dsimp only
      rw [Nat.add_mul]
      refine ⟨by omega, ?_, by omega⟩
      split_ifs <;> omega
    | false =>
      have hactive : active table (r :: rest) = weighed table r :: active table rest := by
        rw [active, List.filter_cons_of_pos (by simp [hparked])]
        rfl
      have hticks : parkedTicks (r :: rest) = parkedTicks rest := by
        rw [parkedTicks, List.filter_cons_of_neg (by simp [hparked])]
        rfl
      rw [hactive, hticks, weightedSum_cons, weight_cons, weight_nonzero_cons]
      omega

/-- The states that ran are the ones with ticks. -/
theorem weight_weighed_eq_zero_iff {table : DvfsTable} {residencies : List Residency}
    (hnamed : ∀ r ∈ residencies, mismatched table r = false) :
    weight (residencies.map (weighed table)) = 0 ↔ ∀ r ∈ residencies, r.2 = 0 := by
  rw [weight_eq_zero_iff, List.forall_mem_map]
  refine forall₂_congr fun r hr => ?_
  rw [weighed_fst (hnamed r hr), ← UInt64.toNat_inj]
  rfl

/-- The active states have no ticks when only parked ones ran. -/
theorem weight_active_eq_zero_iff {table : DvfsTable} {residencies : List Residency}
    (hnamed : ∀ r ∈ residencies, mismatched table r = false) :
    weight (active table residencies) = 0 ↔ ∀ r ∈ residencies, r.2 ≠ 0 → parked r = true := by
  rw [weight_eq_zero_iff, active, List.forall_mem_map]
  constructor
  · intro h r hr hran
    by_contra hactive
    have hticks := h r (List.mem_filter.2 ⟨hr, by simpa using hactive⟩)
    rw [weighed_fst (hnamed r hr)] at hticks
    exact hran (UInt64.toNat_inj.1 hticks)
  · intro h r hr
    obtain ⟨hmem, hactive⟩ := List.mem_filter.1 hr
    rw [weighed_fst (hnamed r hmem)]
    by_contra hran
    have hparked := h r hmem fun hzero => hran (congrArg UInt64.toNat hzero)
    rw [hparked] at hactive
    cases hactive


section

variable {blob : List UInt8} {table : DvfsTable} {residencies : List Residency}

/-- The sums do not change when the parked states are counted as one. -/
theorem fits_gathered_iff (htable : table ≠ []) :
    Fits (residencies.map (weighed table)) ↔ Fits (gathered table residencies) :=
  fits_congr (sumsOf_gathered htable residencies)

/-- The clock is that of the parked state and the active ones together. -/
theorem clock_eq (h : parseDvfsTable blob = some table)
    (hnamed : ∀ r ∈ residencies, mismatched table r = false) (hno : NoOverflow table residencies) :
    residencyWeightedClockMhz residencies table = clockFrom (gathered table residencies) := by
  rw [residencyWeightedClockMhz_eq h hnamed (hno.fits hnamed),
    clockFrom_congr (sumsOf_gathered (ne_nil_of_parse h) residencies)]

/-- However long the GPU was parked, no clock is above 4000 MHz. -/
theorem gathered_snd_le (h : parseDvfsTable blob = some table) (ticks : ℕ) :
    ∀ x ∈ (ticks, parkedClock table) :: active table residencies, x.2 ≤ 4000 := by
  refine List.forall_mem_cons.2 ⟨?_, List.forall_mem_map.2 fun r _ => weighed_snd_le h r⟩
  have hnamed : clockOf table "off" = table[0]? := rfl
  show (table[0]?.getD 0).toNat ≤ 4000
  cases hentry : table[0]? with
  | none => exact Nat.zero_le _
  | some clock => exact clockOf_le h (hnamed.trans hentry)

/-- Where an active state ran. -/
theorem exists_active_iff (hnamed : ∀ r ∈ residencies, mismatched table r = false) :
    (∃ r ∈ residencies, r.2 ≠ 0 ∧ parked r = false) ↔ weight (active table residencies) ≠ 0 := by
  rw [Ne, weight_active_eq_zero_iff hnamed]
  simp

/-! ## What the counters tell -/

/-- Whether the clock is known does not take the parked state. -/
theorem eq_none_iff (h : parseDvfsTable blob = some table) (hno : NoOverflow table residencies) :
    residencyWeightedClockMhz residencies table = none ↔
      (∀ r ∈ residencies, r.2 = 0) ∨ ∃ r ∈ residencies, mismatched table r = true := by
  obtain hnamed | hmismatched := all_named_or_mismatched table residencies
  · rw [residencyWeightedClockMhz_eq h hnamed (hno.fits hnamed), clockFrom_eq_none_iff,
      weight_weighed_eq_zero_iff hnamed]
    refine ⟨.inl, fun hor => hor.elim id fun hmismatched => ?_⟩
    obtain ⟨r, hr, hmismatched⟩ := hmismatched
    rw [hnamed r hr] at hmismatched
    cases hmismatched
  · exact iff_of_true (residencyWeightedClockMhz_mismatched hmismatched) (.inr hmismatched)

end

/-! ### Whatever the table -/

/-- The same sums give the same clock. -/
theorem residencyWeightedClockMhz_congr {blob : List UInt8} {table : DvfsTable}
    (h : parseDvfsTable blob = some table) {residencies others : List Residency}
    (hnamed : ∀ r ∈ residencies, mismatched table r = false)
    (hnamed' : ∀ r ∈ others, mismatched table r = false)
    (hfits : Fits (residencies.map (weighed table)))
    (hsums : sumsOf (others.map (weighed table)) = sumsOf (residencies.map (weighed table))) :
    residencyWeightedClockMhz others table = residencyWeightedClockMhz residencies table := by
  have hfits' : Fits (others.map (weighed table)) := (fits_congr hsums).2 hfits
  rw [residencyWeightedClockMhz_eq h hnamed hfits, residencyWeightedClockMhz_eq h hnamed' hfits',
    clockFrom_congr hsums]

/-- The order of the states does not matter. -/
theorem residencyWeightedClockMhz_perm {blob : List UInt8} {table : DvfsTable}
    (h : parseDvfsTable blob = some table) {residencies others : List Residency}
    (hno : NoOverflow table residencies) (hperm : others.Perm residencies) :
    residencyWeightedClockMhz others table = residencyWeightedClockMhz residencies table := by
  obtain hnamed | ⟨r, hr, hmismatched⟩ := all_named_or_mismatched table residencies
  · refine residencyWeightedClockMhz_congr h hnamed (fun r hr => hnamed r (hperm.subset hr))
      (hno.fits hnamed) ?_
    have hweighed := hperm.map (weighed table)
    rw [sumsOf, sumsOf, weightedSum_perm hweighed, weight_perm hweighed, nonzero, nonzero,
      weight_perm (hweighed.filter _)]
  · rw [residencyWeightedClockMhz_mismatched ⟨r, hr, hmismatched⟩,
      residencyWeightedClockMhz_mismatched ⟨r, hperm.symm.subset hr, hmismatched⟩]

/-- States without ticks change nothing. -/
theorem residencyWeightedClockMhz_padded {blob : List UInt8} {table : DvfsTable}
    (h : parseDvfsTable blob = some table) {residencies pads : List Residency}
    (hno : NoOverflow table residencies) (hpads : ∀ r ∈ pads, r.2 = 0) :
    residencyWeightedClockMhz (residencies ++ pads) table =
      residencyWeightedClockMhz residencies table := by
  have hidle : ∀ r ∈ pads, mismatched table r = false := fun r hr =>
    mismatched_eq_false_iff.2 (.inl (hpads r hr))
  have hweight := (weight_weighed_eq_zero_iff hidle).2 hpads
  have hsum : weightedSum (pads.map (weighed table)) = 0 := by
    have hle := weightedSum_weighed_le h pads
    rw [hweight] at hle
    exact Nat.le_zero.1 hle
  obtain hnamed | ⟨r, hr, hmismatched⟩ := all_named_or_mismatched table residencies
  · refine residencyWeightedClockMhz_congr h hnamed ?_ (hno.fits hnamed) ?_
    · exact fun r hr => (List.mem_append.1 hr).elim (hnamed r) (hidle r)
    · have hrunning := weight_nonzero_le (pads.map (weighed table))
      rw [hweight, Nat.le_zero] at hrunning
      rw [List.map_append, sumsOf, sumsOf, weight_append, weightedSum_append, nonzero_append,
        weight_append, hweight, hsum, hrunning]
      rfl
  · rw [residencyWeightedClockMhz_mismatched ⟨r, hr, hmismatched⟩,
      residencyWeightedClockMhz_mismatched ⟨r, List.mem_append_left _ hr, hmismatched⟩]

/-! ### Where rounding hides the difference -/

section

variable {blob : List UInt8} {table : DvfsTable} {residencies others : List Residency}

/-- As many parked ticks as there is room for leave the mean of the active states alone. -/
theorem RoundsAlike.mean_eq (halike : RoundsAlike table residencies) {ticks : ℕ}
    (hfits : Fits ((ticks, parkedClock table) :: active table residencies)) :
    weight (nonzero ((ticks, parkedClock table) :: active table residencies)) ≠ 0 ∧
      mean (nonzero ((ticks, parkedClock table) :: active table residencies)) =
        mean (active table residencies) := by
  obtain hzero | hpos := Nat.eq_zero_or_pos (parkedClock table)
  · rw [hzero, nonzero_cons_zero]
    exact ⟨halike.clocked, halike.stalled⟩
  · have hclocked := Nat.pos_of_ne_zero halike.clocked
    rw [Fits, weight_cons, weightedSum_cons] at hfits
    dsimp only at hfits
    have hroom : ticks ≤ parkedRoom table residencies :=
      Nat.le_min.2 ⟨by omega, (Nat.le_div_iff_mul_le hpos).2 (by omega)⟩
    have hmost := (halike.parked.resolve_left (Nat.ne_of_gt hpos)).trans halike.stalled.symm
    rw [nonzero_cons_of_pos hpos, weight_cons]
    exact ⟨by omega, (mean_cons_of_le hclocked hroom hmost).trans halike.stalled⟩

/-- A list with the same active states has names for all that ran, where the one given has. -/
theorem named_of_same_active (htable : table ≠ [])
    (hsame : others.filter (!parked ·) = residencies.filter (!parked ·))
    (hnamed : ∀ r ∈ residencies, mismatched table r = false) :
    ∀ r ∈ others, mismatched table r = false := by
  intro r hr
  by_contra hmismatched
  have hactive := not_parked_of_mismatched htable (Bool.not_eq_false _ ▸ hmismatched)
  have hmem : r ∈ residencies.filter (!parked ·) := by
    rw [← hsame]
    exact List.mem_filter.2 ⟨hr, by rw [hactive]; rfl⟩
  exact hmismatched (hnamed r (List.mem_of_mem_filter hmem))

/-- With the same active states only the parked ticks tell the clocks apart. -/
theorem clock_of_same_active (h : parseDvfsTable blob = some table)
    (hsame : others.filter (!parked ·) = residencies.filter (!parked ·))
    (hnamed : ∀ r ∈ residencies, mismatched table r = false) (hno : NoOverflow table others) :
    Fits ((parkedTicks others, parkedClock table) :: active table residencies) ∧
      residencyWeightedClockMhz others table =
        clockFrom ((parkedTicks others, parkedClock table) :: active table residencies) := by
  have htable := ne_nil_of_parse h
  have hnamed' := named_of_same_active htable hsame hnamed
  have hgathered : gathered table others =
      (parkedTicks others, parkedClock table) :: active table residencies := by
    rw [gathered, active, hsame]
    rfl
  rw [← hgathered]
  exact ⟨(fits_gathered_iff htable).1 (hno.fits hnamed'), clock_eq h hnamed' hno⟩

/-- The parked state and the active ones together have no ticks when nothing ran. -/
theorem weight_gathered_eq_zero_iff (htable : table ≠ [])
    (hnamed : ∀ r ∈ residencies, mismatched table r = false) :
    weight (gathered table residencies) = 0 ↔ ∀ r ∈ residencies, r.2 = 0 := by
  have hsums := congrArg Sums.knownTicks (sumsOf_gathered htable residencies)
  rw [← weight_weighed_eq_zero_iff hnamed]
  exact Eq.congr_left hsums.symm

/-- Under the condition the clock is 0 exactly when the GPU was parked the whole interval. -/
theorem TellsParked.eq_zero_iff (ht : TellsParked table residencies)
    (h : parseDvfsTable blob = some table) :
    residencyWeightedClockMhz residencies table = some 0 ↔
      (∃ r ∈ residencies, r.2 ≠ 0) ∧ ∀ r ∈ residencies, r.2 ≠ 0 → parked r = true := by
  have htable := ne_nil_of_parse h
  obtain hnamed | ⟨r, hr, hmismatched⟩ := all_named_or_mismatched table residencies
  · have hticks : weight (gathered table residencies) ≠ 0 ↔ ∃ r ∈ residencies, r.2 ≠ 0 := by
      rw [Ne, weight_gathered_eq_zero_iff htable hnamed]
      simp
    rw [clock_eq h hnamed ht.fits, gathered, clockFrom_eq_zero_iff (gathered_snd_le h _), ← gathered,
      hticks, ← weight_active_eq_zero_iff hnamed]
    refine and_congr_right fun hran => ⟨fun hclocked => ?_, fun hactive => ?_⟩
    · by_contra hactive
      have halike := ht.running hnamed ((exists_active_iff hnamed).2 hactive)
      have hfits := (fits_gathered_iff htable).1 (ht.fits.fits hnamed)
      exact (halike.mean_eq hfits).1 hclocked
    · have hzero := ht.idle hran ((weight_active_eq_zero_iff hnamed).1 hactive)
      rw [gathered, hzero, nonzero_cons_zero]
      exact Nat.le_zero.1 ((weight_nonzero_le _).trans_eq hactive)
  · -- A state that ran and has no name is not parked.
    rw [residencyWeightedClockMhz_mismatched ⟨r, hr, hmismatched⟩]
    refine iff_of_false nofun fun hidle => ?_
    have hactive := not_parked_of_mismatched htable hmismatched
    rw [mismatched, Bool.and_eq_true, bne_iff_ne] at hmismatched
    rw [hidle.2 r hr hmismatched.1] at hactive
    cases hactive

/-- Under the condition a GPU that was active has the mean of its active states. -/
theorem TellsParked.exists_mean (ht : TellsParked table residencies)
    (h : parseDvfsTable blob = some table) (hnamed : ∀ r ∈ residencies, mismatched table r = false)
    (hran : ∃ r ∈ residencies, r.2 ≠ 0 ∧ parked r = false) :
    ∃ clock, residencyWeightedClockMhz residencies table = some clock ∧
      clock.toNat = WeightedMean.mean (active table residencies) ∧
      (∃ x ∈ active table residencies, 0 < x.1 ∧ x.2 ≤ clock.toNat) ∧
      ∃ x ∈ active table residencies, 0 < x.1 ∧ clock.toNat ≤ x.2 := by
  have hactive := Nat.pos_of_ne_zero ((exists_active_iff hnamed).1 hran)
  have hfits := (fits_gathered_iff (ne_nil_of_parse h)).1 (ht.fits.fits hnamed)
  obtain ⟨hclocked, hmean⟩ := (ht.running hnamed hran).mean_eq hfits
  obtain ⟨hpos, hsame⟩ := mean_nonzero_spec (gathered_snd_le h _) hclocked
  rw [hmean] at hpos hsame
  have hne : UInt32.ofNat (WeightedMean.mean (active table residencies)) ≠ 0 := fun hzero => by
    rw [hzero] at hsame
    exact Nat.ne_of_lt hpos hsame
  refine ⟨_, ?_, hsame, ?_⟩
  · rw [clock_eq h hnamed ht.fits, gathered, clockFrom_eq_some_iff (gathered_snd_le h _) hne, hmean]
    exact ⟨hclocked, hsame⟩
  · rw [hsame]
    exact ⟨exists_le_mean hactive, exists_mean_le hactive⟩

/-- Under the condition the ticks of the parked state make no difference. -/
theorem TellsParked.off (ht : TellsParked table residencies) (h : parseDvfsTable blob = some table)
    (hno : NoOverflow table others)
    (hsame : others.filter (!parked ·) = residencies.filter (!parked ·)) {clock : UInt32}
    (hclock : clock ≠ 0) (hres : residencyWeightedClockMhz residencies table = some clock) :
    residencyWeightedClockMhz others table = some clock := by
  obtain hnamed | hmismatched := all_named_or_mismatched table residencies
  case inr =>
    rw [residencyWeightedClockMhz_mismatched hmismatched] at hres
    cases hres
  -- the clock is not 0, so an active state ran
  have hran : ∃ r ∈ residencies, r.2 ≠ 0 ∧ parked r = false := by
    rw [exists_active_iff hnamed]
    intro hactive
    have hall := (weight_active_eq_zero_iff hnamed).1 hactive
    have hticks : ∃ r ∈ residencies, r.2 ≠ 0 := by
      by_contra hnone
      have hunknown := (eq_none_iff h ht.fits).2 (.inl fun r hr => by_contra fun hne => hnone ⟨r, hr, hne⟩)
      rw [hres] at hunknown
      cases hunknown
    rw [(ht.eq_zero_iff h).2 ⟨hticks, hall⟩] at hres
    exact hclock (Option.some.inj hres).symm
  -- with the same active states the two clocks differ in the parked ticks alone, which do not tell
  obtain ⟨hfits, hothers⟩ := clock_of_same_active h hsame hnamed hno
  obtain ⟨hclocked, hmean⟩ := (ht.running hnamed hran).mean_eq hfits
  obtain ⟨clock', hres', htold, -⟩ := ht.exists_mean h hnamed hran
  obtain rfl : clock' = clock := Option.some.inj (hres'.symm.trans hres)
  rw [hothers, clockFrom_eq_some_iff (gathered_snd_le h _) hclock, hmean]
  exact ⟨hclocked, htold⟩

/-- Where the loop tells the parked state, the clock is what the counters tell. -/
theorem TellsParked.tellsClock (ht : TellsParked table residencies)
    (h : parseDvfsTable blob = some table) : TellsClock table residencies where
  fits := ht.fits
  unknown := eq_none_iff h ht.fits
  idle := ht.eq_zero_iff h
  mean := ht.exists_mean h
  off := fun _ hno hsame _ hclock hres => ht.off h hno hsame hclock hres
  order := fun _ hperm => residencyWeightedClockMhz_perm h ht.fits hperm
  padding := fun _ hpads => residencyWeightedClockMhz_padded h ht.fits hpads

/-! ### Only there -/

/-- Any number of parked ticks stands beside the active states in some list. -/
theorem exists_parkedTicks_eq (ticks : ℕ) (residencies : List Residency) :
    ∃ others : List Residency,
      others.filter (!parked ·) = residencies.filter (!parked ·) ∧ parkedTicks others = ticks := by
  refine ⟨List.replicate ticks ("OFF", 1) ++ residencies.filter (!parked ·), ?_, ?_⟩
  · have hnone : (List.replicate ticks (("OFF", 1) : Residency)).filter (!parked ·) = [] :=
      List.filter_eq_nil_iff.2 fun r hr => by
        rw [(List.mem_replicate.1 hr).2]
        decide
    rw [List.filter_append, hnone, List.nil_append, List.filter_filter]
    simp
  · have hall : (List.replicate ticks (("OFF", 1) : Residency)).filter parked =
        List.replicate ticks ("OFF", 1) :=
      List.filter_eq_self.2 fun r hr => by
        rw [(List.mem_replicate.1 hr).2]
        decide
    have hnone : (residencies.filter (!parked ·)).filter parked = [] := by
      rw [List.filter_filter, List.filter_eq_nil_iff]
      simp
    rw [parkedTicks, List.filter_append, hall, hnone, List.append_nil, List.map_replicate,
      List.sum_replicate]
    exact Nat.mul_one ticks

/-- Parked ticks that fit do not change a clock that is what the counters tell. -/
theorem TellsClock.mean_of_ticks (ht : TellsClock table residencies)
    (h : parseDvfsTable blob = some table) (hnamed : ∀ r ∈ residencies, mismatched table r = false)
    (hran : ∃ r ∈ residencies, r.2 ≠ 0 ∧ parked r = false) (ticks : ℕ)
    (hfits : Fits ((ticks, parkedClock table) :: active table residencies)) :
    weight (nonzero ((ticks, parkedClock table) :: active table residencies)) ≠ 0 ∧
      WeightedMean.mean (nonzero ((ticks, parkedClock table) :: active table residencies)) =
        WeightedMean.mean (active table residencies) := by
  have htable := ne_nil_of_parse h
  obtain ⟨clock, hres, htold, -⟩ := ht.mean hnamed hran
  have hclock : clock ≠ 0 := by
    rintro rfl
    obtain ⟨r, hr, hticks, hactive⟩ := hran
    rw [(ht.idle.1 hres).2 r hr hticks] at hactive
    cases hactive
  obtain ⟨others, hsame, rfl⟩ := exists_parkedTicks_eq ticks residencies
  have hnamed' := named_of_same_active htable hsame hnamed
  have hgathered : gathered table others =
      (parkedTicks others, parkedClock table) :: active table residencies := by
    rw [gathered, active, hsame]
    rfl
  have hno : NoOverflow table others := by
    rw [NoOverflow, reached_eq hnamed']
    rw [← hgathered] at hfits
    exact (fits_gathered_iff htable).2 hfits
  have hothers := ht.off others hno hsame clock hclock hres
  rw [(clock_of_same_active h hsame hnamed hno).2,
    clockFrom_eq_some_iff (gathered_snd_le h _) hclock] at hothers
  exact ⟨hothers.1, hothers.2.symm.trans htold⟩

/-- Where the loop tells the clock of an active GPU, the clocks round alike. -/
theorem TellsClock.roundsAlike (ht : TellsClock table residencies)
    (h : parseDvfsTable blob = some table) (hnamed : ∀ r ∈ residencies, mismatched table r = false)
    (hran : ∃ r ∈ residencies, r.2 ≠ 0 ∧ parked r = false) : RoundsAlike table residencies := by
  have hfits := (fits_gathered_iff (ne_nil_of_parse h)).1 (ht.fits.fits hnamed)
  rw [Fits, gathered, weight_cons, weightedSum_cons] at hfits
  -- no parked ticks
  have hnone := ht.mean_of_ticks h hnamed hran 0 (by
    rw [Fits, weight_cons, weightedSum_cons]
    omega)
  have hsum : weightedSum (nonzero ((0, parkedClock table) :: active table residencies)) =
      weightedSum (nonzero (active table residencies)) := by
    rw [weightedSum_nonzero, weightedSum_nonzero, weightedSum_cons, Nat.zero_mul, Nat.zero_add]
  have hweight : weight (nonzero ((0, parkedClock table) :: active table residencies)) =
      weight (nonzero (active table residencies)) := by
    rw [weight_nonzero_cons, ite_self, Nat.zero_add]
  refine ⟨hweight ▸ hnone.1, (mean_congr hweight hsum).symm.trans hnone.2, ?_⟩
  obtain hzero | hpos := Nat.eq_zero_or_pos (parkedClock table)
  · exact .inl hzero
  · -- as many as there is room for
    have hclocks : parkedRoom table residencies * parkedClock table ≤
        2 ^ 128 - 1 - weightedSum (active table residencies) :=
      (Nat.mul_le_mul_right _ (Nat.min_le_right _ _)).trans (Nat.div_mul_le_self _ _)
    have hticks : parkedRoom table residencies ≤ 2 ^ 128 - 1 - weight (active table residencies) :=
      Nat.min_le_left _ _
    have hmost := ht.mean_of_ticks h hnamed hran (parkedRoom table residencies) (by
      rw [Fits, weight_cons, weightedSum_cons]
      dsimp only
      omega)
    rw [nonzero_cons_of_pos hpos] at hmost
    exact .inr hmost.2

/-- Where the clock is what the counters tell, the loop tells the parked state. -/
theorem TellsClock.tellsParked (ht : TellsClock table residencies)
    (h : parseDvfsTable blob = some table) : TellsParked table residencies where
  fits := ht.fits
  idle := by
    intro hticks hall
    have htable := ne_nil_of_parse h
    obtain hnamed | ⟨r, hr, hmismatched⟩ := all_named_or_mismatched table residencies
    · have hzero := ht.idle.2 ⟨hticks, hall⟩
      rw [clock_eq h hnamed ht.fits, gathered, clockFrom_eq_zero_iff (gathered_snd_le h _)] at hzero
      obtain ⟨hran, hclocked⟩ := hzero
      rw [weight_cons, (weight_active_eq_zero_iff hnamed).2 hall] at hran
      rw [weight_nonzero_cons] at hclocked
      by_contra hclock
      rw [if_pos (Nat.pos_of_ne_zero hclock)] at hclocked
      omega
    · have hactive := not_parked_of_mismatched htable hmismatched
      rw [mismatched, Bool.and_eq_true, bne_iff_ne] at hmismatched
      rw [hall r hr hmismatched.1] at hactive
      cases hactive
  running := ht.roundsAlike h

end

/-! ## The parked entry -/

/-- So many states have at most so many ticks, of 64 bits each. -/
theorem weight_weighed_le {table : DvfsTable} {residencies : List Residency} {states : ℕ}
    (hlength : residencies.length ≤ states) :
    weight (residencies.map (weighed table)) ≤ states * (2 ^ 64 - 1) := by
  refine (List.sum_le_card_nsmul _ (2 ^ 64 - 1) ?_).trans ?_
  · rw [List.map_map, List.forall_mem_map]
    intro r _
    rw [Function.comp_apply, weighed]
    split
    · exact Nat.le_pred_of_lt r.2.toNat_lt
    · exact Nat.zero_le _
  · rw [List.length_map, List.length_map, Nat.nsmul_eq_mul]
    exact Nat.mul_le_mul_right _ hlength

/-- The sums of the ticks of at most 2^52 states fit. -/
theorem noOverflow_of_length {blob : List UInt8} {table : DvfsTable}
    (h : parseDvfsTable blob = some table) {residencies : List Residency}
    (hlength : residencies.length ≤ 2 ^ 52) : NoOverflow table residencies := by
  have hreached : (reached table residencies).length ≤ 2 ^ 52 :=
    (List.takeWhile_sublist _).length_le.trans hlength
  have hticks : weight ((reached table residencies).map (weighed table)) ≤ 2 ^ 52 * (2 ^ 64 - 1) :=
    weight_weighed_le hreached
  have hclocks := weightedSum_weighed_le h (reached table residencies)
  constructor <;> omega

/-- With at most 2^50 states the parked entry goes unnoticed if it is 0, the mean of the active states, or
the number above it. -/
theorem roundsAlike_iff {blob : List UInt8} {table : DvfsTable} (h : parseDvfsTable blob = some table)
    {residencies : List Residency} (hlength : residencies.length ≤ 2 ^ 50) :
    RoundsAlike table residencies ↔
      weight (nonzero (active table residencies)) ≠ 0 ∧
        mean (nonzero (active table residencies)) = mean (active table residencies) ∧
        (parkedClock table = 0 ∨ parkedClock table = mean (active table residencies) ∨
          parkedClock table = mean (active table residencies) + 1) := by
  have hclock : parkedClock table ≤ 4000 :=
    gathered_snd_le h 0 (0, parkedClock table) (List.mem_cons_self (l := active table []))
  have hticks : weight (active table residencies) ≤ 2 ^ 50 * (2 ^ 64 - 1) :=
    weight_weighed_le ((List.length_filter_le _ _).trans hlength)
  have hclocks : weightedSum (active table residencies) ≤ 4000 * weight (active table residencies) :=
    weightedSum_weighed_le h _
  have hroom (hpos : 0 < parkedClock table) :
      weight (nonzero (active table residencies)) ≤ parkedRoom table residencies := by
    refine (weight_nonzero_le _).trans (Nat.le_min.2 ⟨by omega, (Nat.le_div_iff_mul_le hpos).2 ?_⟩)
    have hmost := Nat.mul_le_mul hticks hclock
    omega
  constructor
  · rintro ⟨hclocked, hstalled, hparked⟩
    refine ⟨hclocked, hstalled, ?_⟩
    obtain hzero | hpos := Nat.eq_zero_or_pos (parkedClock table)
    · exact .inl hzero
    · have hmost := (hparked.resolve_left (Nat.ne_of_gt hpos)).trans hstalled.symm
      rw [mean_cons_eq_mean_iff (Nat.pos_of_ne_zero hclocked) (hroom hpos), hstalled] at hmost
      exact .inr hmost
  · rintro ⟨hclocked, hstalled, hparked⟩
    refine ⟨hclocked, hstalled, ?_⟩
    obtain hzero | hpos := Nat.eq_zero_or_pos (parkedClock table)
    · exact .inl hzero
    · have hnear := hparked.resolve_left (Nat.ne_of_gt hpos)
      rw [← hstalled] at hnear ⊢
      exact .inr ((mean_cons_eq_mean_iff (Nat.pos_of_ne_zero hclocked) (hroom hpos)).2 hnear)

/-! ### Tables that are right for every list -/

/-- An index is a number of 64 bits. -/
theorem stateIndex_lt {name : String} {index : ℕ} (h : stateIndex name = some index) :
    index < 2 ^ 64 := by
  rw [stateIndex] at h
  split at h
  · cases h
    decide
  · obtain ⟨digits, -, hdigits⟩ := Option.bind_eq_some_iff.1 h
    split at hdigits
    · cases hdigits
    · rw [← String.ofList_toList (s := digits), parseUnsigned_ofList] at hdigits
      split at hdigits
      case isTrue hvalid =>
        cases hdigits
        exact hvalid.2
      case isFalse => cases hdigits

/-- In such a table a clock of 0 is the parked state's. -/
theorem ZeroIsParked.clock_eq_zero_iff {table : DvfsTable} (hzero : ZeroIsParked table) {r : Residency}
    {clock : UInt32} (hclock : clockOf table r.1 = some clock) : clock = 0 ↔ parked r = true := by
  rw [clockOf, Option.bind_eq_some_iff] at hclock
  obtain ⟨index, hindex, hentry⟩ := hclock
  rw [hzero index (stateIndex_lt hindex) clock hentry, parked, hindex, beq_iff_eq, Option.some_inj]

/-- Every state that ran and was not parked has a clock other than 0. -/
theorem ZeroIsParked.pos_of_mem_active {table : DvfsTable} (hzero : ZeroIsParked table)
    {residencies : List Residency} {x : ℕ × ℕ} (hx : x ∈ active table residencies) (hran : 0 < x.1) :
    0 < x.2 := by
  obtain ⟨r, hr, rfl⟩ := List.mem_map.1 hx
  rw [weighed] at hran ⊢
  split at hran
  case h_1 clock hclock =>
    refine Nat.pos_of_ne_zero fun hnil => ?_
    have hparked := (hzero.clock_eq_zero_iff hclock).1 (UInt32.toNat_inj.1 hnil)
    have hactive := (List.mem_filter.1 hr).2
    rw [hparked] at hactive
    cases hactive
  case h_2 => exact absurd hran (Nat.lt_irrefl 0)

/-- With such a table no list of states is told wrong. -/
theorem ZeroIsParked.tellsParked {table : DvfsTable} (hzero : ZeroIsParked table) (htable : table ≠ [])
    {residencies : List Residency} (hno : NoOverflow table residencies) : TellsParked table residencies := by
  have hclock : parkedClock table = 0 := by
    obtain ⟨clock, rest, rfl⟩ := List.exists_cons_of_ne_nil htable
    have hentry := (hzero 0 (by decide) clock rfl).2 rfl
    rw [hentry]
    rfl
  refine ⟨hno, fun _ _ => hclock, fun hnamed hran => ?_⟩
  have hall : weight (nonzero (active table residencies)) = weight (active table residencies) :=
    weight_nonzero_of_pos fun _ hx => hzero.pos_of_mem_active hx
  refine ⟨?_, mean_congr hall (weightedSum_nonzero _), .inl hclock⟩
  rw [hall]
  exact (exists_active_iff hnamed).1 hran

/-- The name of each performance state is read. -/
theorem stateIndex_performance {index : ℕ} (h : index < 2 ^ 64) :
    stateIndex ("P" ++ toString index) = some index := by
  have hoff : eqIgnoreAsciiCase ("P" ++ toString index).toList "off" = false := by
    rw [eqIgnoreAsciiCase, String.toList_append, List.map_append]
    rfl
  have hdigits : stripPrefix ("P" ++ toString index) "P" = some (toString index) := by
    rw [stripPrefix, List.isPrefixOf?_eq_some_iff_append_eq.2 String.toList_append.symm,
      Option.map_some, String.ofList_toList]
  have hnumeral := isNumeral_toString index
  have hparse := @parseUnsigned_numeral (2 ^ 64) _ hnumeral
  rw [String.ofList_toList, ofDigits_toString, if_pos h] at hparse
  have hvalid : ¬(toString index = "" ∨ ¬(toString index).toList.all Char.isDigit = true) := by
    rintro (hempty | hother)
    · exact hnumeral.1 (by rw [hempty]; rfl)
    · exact hother hnumeral.2
  rw [stateIndex, hoff, if_neg (by decide), hdigits, Option.some_or, Option.bind_some, if_neg hvalid,
    hparse]

/-- A table that is right for every list has no other. -/
theorem zeroIsParked_of_tellsParked {blob : List UInt8} {table : DvfsTable}
    (h : parseDvfsTable blob = some table)
    (htells : ∀ residencies, NoOverflow table residencies → TellsParked table residencies) :
    ZeroIsParked table := by
  intro index hindex clock hentry
  have htell (name : String) := htells [(name, 1)] (noOverflow_of_length h Nat.one_le_two_pow)
  obtain rfl | hother := eq_or_ne index 0
  · -- A tick of the parked state alone.
    have hidle := (htell "OFF").idle ⟨_, List.mem_singleton_self _, by decide⟩ fun r hr _ => by
      rw [List.mem_singleton.1 hr]
      decide
    rw [parkedClock, hentry] at hidle
    exact iff_of_true (UInt32.toNat_inj.1 hidle) rfl
  · -- A tick of the state with the index alone.
    refine iff_of_false (fun hnil => ?_) hother
    obtain ⟨name, hread⟩ : ∃ name, stateIndex name = some index := ⟨_, stateIndex_performance hindex⟩
    have hclock : clockOf table name = some clock := by
      rw [clockOf, hread]
      exact hentry
    have hactive : parked (name, 1) = false := by
      rw [parked, hread, beq_eq_false_iff_ne, Ne, Option.some_inj]
      exact hother
    have hnamed : ∀ r ∈ [((name, 1) : Residency)], mismatched table r = false := by
      intro r hr
      rw [List.mem_singleton.1 hr, mismatched_eq_false_iff]
      exact .inr ⟨clock, hclock⟩
    have hticks : (1 : UInt64) ≠ 0 := by decide
    have hran : ∃ r ∈ [((name, 1) : Residency)], r.2 ≠ 0 ∧ parked r = false :=
      ⟨(name, 1), List.mem_singleton_self _, hticks, hactive⟩
    have hstalled : active table [(name, 1)] = [(1, 0)] := by
      rw [active, List.filter_cons_of_pos (by rw [hactive]; rfl), List.filter_nil, List.map_singleton,
        weighed_of_clock (r := (name, 1)) hclock, hnil]
      rfl
    refine ((htell name).running hnamed hran).clocked ?_
    rw [hstalled]
    rfl

/-- A table is right for every list exactly when the parked state's entry alone is 0 MHz. -/
theorem zeroIsParked_iff {blob : List UInt8} {table : DvfsTable} (h : parseDvfsTable blob = some table) :
    ZeroIsParked table ↔
      ∀ residencies, NoOverflow table residencies → TellsClock table residencies :=
  ⟨fun hzero _ hno => (hzero.tellsParked (ne_nil_of_parse h) hno).tellsClock h,
    fun htells => zeroIsParked_of_tellsParked h fun residencies hno => (htells residencies hno).tellsParked h⟩

/-- **The clock of an Apple GPU.** For each table that is accepted and each list of states, the clock is
what the counters tell if and only if the sums fit and the clocks tell the parked state from the active
ones, as far as whole numbers show. -/
theorem tellsClock_iff (blob : List UInt8) (table : DvfsTable) (h : parseDvfsTable blob = some table)
    (residencies : List Residency) : TellsClock table residencies ↔ TellsParked table residencies :=
  ⟨fun htells => htells.tellsParked h, fun htells => htells.tellsClock h⟩

/-- Entry 0 is 0 MHz here, the state at 500 MHz ran for 3 ticks, and the parked one for 900. -/
theorem tellsClock_iff_twoPairs :
    TellsClock [0, 500] [("OFF", 900), ("P1", 3)] ↔ TellsParked [0, 500] [("OFF", 900), ("P1", 3)] :=
  tellsClock_iff [0, 0, 0, 0, 125, 0, 0, 0, 0x00, 0x65, 0xCD, 0x1D, 113, 2, 0, 0] [0, 500] (by decide) _

/-- The parked state has 338 MHz here, which an idle GPU is then said to run at. -/
theorem not_tellsClock_parkedEntry :
    parseDvfsTable [0x80, 0x78, 0x25, 0x14, 0, 0, 0, 0] = some [338] ∧
      NoOverflow [338] [("OFF", 10)] ∧
      residencyWeightedClockMhz [("OFF", 10)] [338] = some 338 ∧ ¬TellsClock [338] [("OFF", 10)] := by
  refine ⟨by decide, by constructor <;> decide, by decide, fun htells => ?_⟩
  have hidle := htells.idle.2 ⟨⟨_, List.mem_singleton_self _, by decide⟩, fun r hr _ => by
    rw [List.mem_singleton.1 hr]
    decide⟩
  exact absurd hidle (by decide)

end Muxtop.Core.Apple
