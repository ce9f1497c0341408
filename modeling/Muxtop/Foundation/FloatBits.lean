import Mathlib.Algebra.Group.Nat.Defs
import Mathlib.Tactic.TypeStar

/-!
# Floating-point values as bit patterns

An IEEE value is kept as its bits. Two floats are equal here exactly when their bits are, so NaN
payloads and signed zeros are told apart.
-/

/-- A 32-bit float. -/
structure F32 where
  bits : UInt32
deriving DecidableEq, Repr, Inhabited

/-- A 64-bit float. -/
structure F64 where
  bits : UInt64
deriving DecidableEq, Repr, Inhabited

/-! ## Order -/

/-- The order of the floats of one width, given as a sign and the bits below it: NaN, whose bits lie
above those of infinity, compares with nothing, and the two zeros are equal. -/
def FloatOrder.partialCmp (infinity : Nat) (a b : Bool × Nat) : Option Ordering :=
  let value (x : Bool × Nat) : Int := if x.1 then -x.2 else x.2
  if infinity < a.2 ∨ infinity < b.2 then none else some (compare (value a) (value b))

def F32.signMagnitude (x : F32) : Bool × Nat := (2 ^ 31 ≤ x.bits.toNat, x.bits.toNat % 2 ^ 31)
def F64.signMagnitude (x : F64) : Bool × Nat := (2 ^ 63 ≤ x.bits.toNat, x.bits.toNat % 2 ^ 63)

/-- `f32::partial_cmp` -/
def F32.partialCmp (a b : F32) : Option Ordering :=
  FloatOrder.partialCmp 0x7F800000 a.signMagnitude b.signMagnitude

/-- `f64::partial_cmp` -/
def F64.partialCmp (a b : F64) : Option Ordering :=
  FloatOrder.partialCmp 0x7FF0000000000000 a.signMagnitude b.signMagnitude

/-- `partial_cmp(..).unwrap_or(Ordering::Equal)` -/
def F32.cmp (a b : F32) : Ordering := (a.partialCmp b).getD .eq

/-- `partial_cmp(..).unwrap_or(Ordering::Equal)` -/
def F64.cmp (a b : F64) : Ordering := (a.partialCmp b).getD .eq

/-- A number that orders the floats other than NaN. -/
def FloatOrder.value (x : Bool × Nat) : Int := if x.1 then -x.2 else x.2

/-- Floats other than NaN are compared as numbers. -/
theorem F64.cmp_eq {a b : F64} (ha : a.signMagnitude.2 ≤ 0x7FF0000000000000)
    (hb : b.signMagnitude.2 ≤ 0x7FF0000000000000) :
    a.cmp b = compare (FloatOrder.value a.signMagnitude) (FloatOrder.value b.signMagnitude) := by
  unfold F64.cmp F64.partialCmp FloatOrder.partialCmp
  dsimp only
  rw [if_neg (by omega)]
  rfl

example : F32.partialCmp ⟨0xBF800000⟩ ⟨0x80000000⟩ = some .lt := by decide
example : F32.partialCmp ⟨0x80000000⟩ ⟨0⟩ = some .eq := by decide
example : F32.partialCmp ⟨0x7FC00000⟩ ⟨0⟩ = none := by decide
