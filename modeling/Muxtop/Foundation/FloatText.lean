import Muxtop.Foundation.FloatBits
import Muxtop.Foundation.Text

/-!
# Floating-point numbers as decimals

`format!` with a precision: the exact value, rounded to so many decimal places, ties to even.
-/

namespace FloatText

open Float.Model

/-- `n` over `d`, rounded to the nearest integer, ties to even. -/
def roundRatio (n d : Nat) : Nat :=
  match compare (2 * (n % d)) d with
  | .lt => n / d
  | .eq => n / d + n / d % 2
  | .gt => n / d + 1

/-- A magnitude in units of the last decimal place. -/
def scaled (places mantissa : Nat) (exponent : Int) : Nat :=
  if 0 ≤ exponent then mantissa * 10 ^ places * 2 ^ exponent.toNat
  else roundRatio (mantissa * 10 ^ places) (2 ^ (-exponent).toNat)

/-- The digits of a number of such units. -/
def decimal (places units : Nat) : String :=
  if places = 0 then toString units
  else
    let fraction := toString (units % 10 ^ places)
    toString (units / 10 ^ places) ++ "." ++
      String.ofList (List.replicate (places - fraction.length) '0') ++ fraction

def sign : UnpackedFloat.Sign → String
  | .positive => ""
  | .negative => "-"

/-- The number with so many decimal places. -/
def fixed (places : Nat) : UnpackedFloat → String
  | .notANumber => "NaN"
  | .infinity s => sign s ++ "inf"
  | .zero s => sign s ++ decimal places 0
  | .finite s mantissa exponent _ => sign s ++ decimal places (scaled places mantissa exponent)

/-- `{:.places}` of an `f32` -/
def fixed32 (places : Nat) (x : F32) : String := fixed places (Float32.ofBits x.bits).toModel.unpack

/-- `{:.places}` of an `f64` -/
def fixed64 (places : Nat) (x : Float) : String := fixed places x.toModel.unpack

example : fixed64 1 0.25 = "0.2" := by decide +kernel
example : fixed64 0 (-1.5) = "-2" := by decide +kernel
example : fixed32 1 ⟨0x7FC00000⟩ = "NaN" := by decide +kernel

/-! ## The alphabet -/

variable {p : Char → Bool}

/-- Decimals take no characters but digits, the point, the minus sign, and the letters of what is not a
number. -/
theorem over_fixed (hdigits : ∀ c : Char, c.isDigit = true → p c = true) (hwords : Text.Over p ".-NaNinf")
    (places : Nat) (x : UnpackedFloat) : Text.Over p (fixed places x) := by
  have hword (word : String) (hword : word.toList ⊆ ".-NaNinf".toList) : Text.Over p word :=
    fun c hc => hwords c (hword hc)
  have hnumber (n : Nat) : Text.Over p (toString n) := Text.over_toString hdigits n
  -- Every text the printer puts together is digits and the words of its own alphabet.
  have hsign (s : UnpackedFloat.Sign) : Text.Over p (sign s) := by
    cases s
    case positive => exact hword "" (by decide)
    case negative => exact hword "-" (by decide)
  have hdecimal (units : Nat) : Text.Over p (decimal places units) := by
    unfold decimal
    split
    · exact hnumber units
    · have hzeros (count : Nat) : Text.Over p (String.ofList (List.replicate count '0')) := by
        rw [Text.over_ofList]
        intro c hc
        obtain rfl := List.eq_of_mem_replicate hc
        exact hdigits '0' (by decide)
      simp only [Text.over_append]
      exact ⟨⟨⟨hnumber _, hword "." (by decide)⟩, hzeros _⟩, hnumber _⟩
  cases x with
  | notANumber => exact hword "NaN" (by decide)
  | infinity s => exact Text.over_append.2 ⟨hsign s, hword "inf" (by decide)⟩
  | zero s => exact Text.over_append.2 ⟨hsign s, hdecimal 0⟩
  | finite s mantissa exponent => exact Text.over_append.2 ⟨hsign s, hdecimal _⟩

end FloatText
