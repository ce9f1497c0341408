import Muxtop.Core.KubeObjects
import Muxtop.Foundation.Numerals

/-!
# CPU quantities

Reference: `parse_metrics_cpu_to_millis` and `parse_quantity_to_millis` in
`muxtop-core/src/kube_engine.rs`.

A usage comes in nanocores, microcores, millicores or cores, each with a branch of its own. A numeral of
cores is multiplied by a saturating product; the other three are divided as a `u64` and truncated, or
parsed as a `u32`.
-/

namespace Muxtop.Core

open Text (Spells IsNumeral IsUnit ofDigits)

/-- Millicores of a CPU usage. -/
def parseMetricsCpuToMillis (floatMillis : String → Option UInt32) (raw : String) : UInt32 :=
  let s := Text.trim raw
  match Text.stripSuffix s "n" with
  | some stripped => ((Text.parseU64 stripped).map fun n => (n / 1000000).toUInt32).getD 0
  | none =>
    match Text.stripSuffix s "u" with
    | some stripped => ((Text.parseU64 stripped).map fun n => (n / 1000).toUInt32).getD 0
    | none => parseQuantityToMillis floatMillis s

/-- The units of a CPU usage. -/
inductive CpuUnit
  | nanocores | microcores | millicores | cores
deriving DecidableEq, Repr

namespace CpuUnit

def suffix : CpuUnit → String
  | .nanocores => "n"
  | .microcores => "u"
  | .millicores => "m"
  | .cores => ""

/-- The whole millicores in a number of the unit. -/
def millis : CpuUnit → ℕ → ℕ
  | .nanocores, n => n / 1000000
  | .microcores, n => n / 1000
  | .millicores, n => n
  | .cores, n => n * 1000

/-- `n` of the unit are `c` millicores exactly, and a `u64` where the branch of the unit asks for one. -/
def Measures : CpuUnit → ℕ → ℕ → Prop
  | .nanocores, c, n => n = c * 1000000 ∧ n < UInt64.size
  | .microcores, c, n => n = c * 1000 ∧ n < UInt64.size
  | .millicores, c, n => n = c
  | .cores, c, n => n * 1000 = c

variable {unit : CpuUnit} {c n n' : ℕ}

/-- A text that measures so many millicores is converted to as many. -/
theorem Measures.millis_eq (h : unit.Measures c n) : unit.millis n = c := by
  cases unit with
  | nanocores =>
    obtain ⟨rfl, -⟩ := h
    exact Nat.mul_div_cancel _ (by decide)
  | microcores =>
    obtain ⟨rfl, -⟩ := h
    exact Nat.mul_div_cancel _ (by decide)
  | millicores => exact h
  | cores => exact h

/-- More of a unit is no fewer millicores. -/
theorem millis_mono (unit : CpuUnit) (h : n ≤ n') : unit.millis n ≤ unit.millis n' := by
  cases unit with
  | nanocores => exact Nat.div_le_div_right h
  | microcores => exact Nat.div_le_div_right h
  | millicores => exact h
  | cores => exact Nat.mul_le_mul_right _ h

end CpuUnit

variable {floatMillis : String → Option UInt32} {raw : String} {n : ℕ}

/-- Multiplication stops at the greatest value. -/
theorem toNat_saturatingMul32 (a b : UInt32) :
    (saturatingMul32 a b).toNat = min (a.toNat * b.toNat) (UInt32.size - 1) := by
  rw [saturatingMul32, UInt32.toNat_ofNat_of_lt']
  have hsize : UInt32.size = 4294967296 := rfl
  omega

/-- A number with a unit is not taken for one with another. -/
theorem stripSuffix_eq_none_of_spells {s suffix : String} (h : Spells s.toList n suffix)
    {other : String} (hunit : IsUnit other) (hother : ¬ other.toList <:+ suffix.toList) :
    Text.stripSuffix s other = none :=
  Text.stripSuffix_eq_none_iff.2 (h.not_suffix hunit hother)

/-- A branch that parses a numeral of the text before a unit. -/
theorem parse_of_spells (size : ℕ) {s suffix : String} (h : Spells s.toList n suffix) :
    ∃ stripped, Text.stripSuffix s suffix = some stripped ∧
      Text.parseUnsigned size stripped = if n < size then some n else none := by
  obtain ⟨digits, hdigits, rfl, htext⟩ := h
  refine ⟨String.ofList digits, ?_, Text.parseUnsigned_numeral hdigits⟩
  rw [Text.stripSuffix_eq_some_iff, String.toList_ofList, htext]

/-- A number of a smaller unit is divided, and the quotient cut down to 32 bits. -/
theorem toNat_quotient (hlt : n < UInt64.size) (divisor : UInt64) :
    (UInt64.ofNat n / divisor).toUInt32.toNat = n / divisor.toNat % UInt32.size := by
  rw [UInt64.toNat_toUInt32, UInt64.toNat_div, UInt64.toNat_ofNat_of_lt' hlt]

/-- Nanocores are divided, and cut to 32 bits. -/
theorem toNat_parse_nanocores (h : Spells (Text.trim raw).toList n "n") :
    (parseMetricsCpuToMillis floatMillis raw).toNat =
      if n < UInt64.size then n / 1000000 % UInt32.size else 0 := by
  obtain ⟨stripped, hstrip, hparse⟩ := parse_of_spells UInt64.size h
  simp only [parseMetricsCpuToMillis, hstrip, Text.parseU64, hparse]
  split_ifs with hlt
  · exact toNat_quotient hlt _
  · rfl

/-- So are microcores. -/
theorem toNat_parse_microcores (h : Spells (Text.trim raw).toList n "u") :
    (parseMetricsCpuToMillis floatMillis raw).toNat =
      if n < UInt64.size then n / 1000 % UInt32.size else 0 := by
  obtain ⟨stripped, hstrip, hparse⟩ := parse_of_spells UInt64.size h
  have hn : Text.stripSuffix (Text.trim raw) "n" = none :=
    stripSuffix_eq_none_of_spells h (by decide) (by decide)
  simp only [parseMetricsCpuToMillis, hn, hstrip, Text.parseU64, hparse]
  split_ifs with hlt
  · exact toNat_quotient hlt _
  · rfl

/-- Millicores and cores are left to the parser of quantities. -/
theorem parseMetricsCpuToMillis_eq (unit : CpuUnit) (hunit : unit = .millicores ∨ unit = .cores)
    (h : Spells (Text.trim raw).toList n unit.suffix) :
    parseMetricsCpuToMillis floatMillis raw = parseQuantityToMillis floatMillis (Text.trim raw) := by
  have hn : Text.stripSuffix (Text.trim raw) "n" = none :=
    stripSuffix_eq_none_of_spells h (by decide) (by obtain rfl | rfl := hunit <;> decide)
  have hu : Text.stripSuffix (Text.trim raw) "u" = none :=
    stripSuffix_eq_none_of_spells h (by decide) (by obtain rfl | rfl := hunit <;> decide)
  simp only [parseMetricsCpuToMillis, hn, hu]

/-- Millicores that do not fit count as 0. -/
theorem toNat_parse_millicores (h : Spells (Text.trim raw).toList n "m") :
    (parseMetricsCpuToMillis floatMillis raw).toNat = if n < UInt32.size then n else 0 := by
  have htrim : Text.trim (Text.trim raw) = Text.trim raw := h.trim (by decide)
  rw [parseMetricsCpuToMillis_eq .millicores (.inl rfl) h]
  obtain ⟨stripped, hstrip, hparse⟩ := parse_of_spells UInt32.size h
  simp only [parseQuantityToMillis, htrim, hstrip, Text.parseU32, hparse]
  split_ifs with hlt
  · exact UInt32.toNat_ofNat_of_lt' hlt
  · rfl

/-- A numeral of cores that is a `u32` is multiplied by a product that saturates. -/
theorem toNat_parse_cores (h : Spells (Text.trim raw).toList n "") (hlt : n < UInt32.size) :
    (parseMetricsCpuToMillis floatMillis raw).toNat = min (n * 1000) (UInt32.size - 1) := by
  have htrim : Text.trim (Text.trim raw) = Text.trim raw := h.trim (by decide)
  have hm : Text.stripSuffix (Text.trim raw) "m" = none :=
    stripSuffix_eq_none_of_spells h (by decide) (by decide)
  rw [parseMetricsCpuToMillis_eq .cores (.inr rfl) h]
  obtain ⟨digits, hdigits, rfl, htext⟩ := h
  have hwhole : Text.trim raw = String.ofList digits := by
    rw [← String.ofList_toList (s := Text.trim raw), htext]
    exact congrArg _ (List.append_nil digits)
  have hparse : Text.parseU32 (Text.trim raw) = some (.ofNat (ofDigits digits)) := by
    rw [hwhole, Text.parseU32, Text.parseUnsigned_numeral hdigits, if_pos hlt]
    rfl
  simp only [parseQuantityToMillis, htrim, hm, hparse]
  rw [toNat_saturatingMul32, UInt32.toNat_ofNat_of_lt' hlt]
  rfl

/-- A number of a unit that has no more than `u32::MAX` millicores is read as those. -/
theorem toNat_parseMetricsCpuToMillis {unit : CpuUnit}
    (h : Spells (Text.trim raw).toList n unit.suffix) (hfits : unit.millis n < UInt32.size) :
    (parseMetricsCpuToMillis floatMillis raw).toNat = unit.millis n := by
  have hsize : UInt32.size = 4294967296 := rfl
  have hsize64 : UInt64.size = 18446744073709551616 := rfl
  cases unit with
  | nanocores =>
    change n / 1000000 < UInt32.size at hfits
    rw [toNat_parse_nanocores h, if_pos (by omega)]
    exact Nat.mod_eq_of_lt hfits
  | microcores =>
    change n / 1000 < UInt32.size at hfits
    rw [toNat_parse_microcores h, if_pos (by omega)]
    exact Nat.mod_eq_of_lt hfits
  | millicores =>
    rw [toNat_parse_millicores h]
    exact if_pos hfits
  | cores =>
    change n * 1000 < UInt32.size at hfits
    rw [toNat_parse_cores h (by omega)]
    exact Nat.min_eq_left (by omega)

/-! ## Consistency -/

/-- At `c` millicores the units agree on the saturated number, and up to there each unit is read in order
of the number. -/
structure ConsistentAt (floatMillis : String → Option UInt32) (c : ℕ) : Prop where
  agrees : ∀ (unit : CpuUnit) raw n, unit.Measures c n → Spells (Text.trim raw).toList n unit.suffix →
    (parseMetricsCpuToMillis floatMillis raw).toNat = min c (UInt32.size - 1)
  monotone : ∀ (unit : CpuUnit) raw raw' n n', Spells (Text.trim raw).toList n unit.suffix →
    Spells (Text.trim raw').toList n' unit.suffix → n ≤ n' → unit.millis n' ≤ c →
    parseMetricsCpuToMillis floatMillis raw ≤ parseMetricsCpuToMillis floatMillis raw'

/-- An amount that fits 32 bits is read alike in every spelling. -/
theorem consistentAt_of_lt {c : ℕ} (hc : c < UInt32.size) : ConsistentAt floatMillis c where
  agrees unit raw n hmeasures h := by
    have hmillis := hmeasures.millis_eq
    rw [toNat_parseMetricsCpuToMillis h (hmillis ▸ hc), hmillis]
    exact (Nat.min_eq_left (Nat.le_pred_of_lt hc)).symm
  monotone unit raw raw' n n' h h' hle hbound := by
    have hmono := unit.millis_mono hle
    rw [UInt32.le_iff_toNat_le, toNat_parseMetricsCpuToMillis h (hmono.trans_lt (hbound.trans_lt hc)),
      toNat_parseMetricsCpuToMillis h' (hbound.trans_lt hc)]
    exact hmono

/-- From 2^32 millicores on, the number of millicores is no `u32`, and read as 0. -/
theorem not_consistentAt {c : ℕ} (hc : UInt32.size ≤ c) : ¬ ConsistentAt floatMillis c := by
  intro h
  have hspells := Text.spells_toString c "m"
  have htrim := hspells.trim (by decide)
  have hread := h.agrees .millicores (toString c ++ "m") c rfl (by rw [htrim]; exact hspells)
  rw [toNat_parse_millicores (by rw [htrim]; exact hspells), if_neg (Nat.not_lt.2 hc)] at hread
  have hsize : UInt32.size = 4294967296 := rfl
  omega

/-- **CPU quantities.** The units agree at exactly the numbers of millicores that a `u32` holds. -/
theorem consistentAt_iff (floatMillis : String → Option UInt32) (c : ℕ) :
    ConsistentAt floatMillis c ↔ c < UInt32.size :=
  ⟨fun h => Nat.lt_of_not_le fun hc => not_consistentAt hc h, consistentAt_of_lt⟩

/-- 4294967296 millicores are read as 0. -/
theorem not_consistentAt_overflow :
    ¬ ∀ (floatMillis : String → Option UInt32) (c : ℕ), ConsistentAt floatMillis c := by
  intro h
  exact not_consistentAt (le_refl UInt32.size) (h (fun _ => none) _)

end Muxtop.Core
