import Mathlib.Logic.Basic
import Muxtop.Foundation.FloatBits

/-!
# Floating-point arithmetic on bit patterns

Arithmetic is that of `Float` and `Float32`, which are given by their bits; a conversion between the
two and `f64::clamp` are added here. The last section shows that a quotient of two 32-bit integers is
not NaN unless the divisor is 0.
-/

namespace FloatArith

open Float.Model

/-- `as f32`, which rounds to the nearest value, ties to even. -/
def narrow (x : Float) : Float32 :=
  .ofModel <| Float32.Model.pack <|
    match x.toModel.unpack with
    | .finite sign mantissa exponent _ => UnpackedFloat.round .binary32 sign mantissa exponent
    | other => other

/-- `f64::clamp` -/
def clamp (x min max : Float) : Float :=
  let x := if x < min then min else x
  if max < x then max else x

/-- A value of type `f64`, narrowed. -/
def toF32 (x : Float) : F32 := ⟨(narrow x).toBits⟩

example : toF32 (1.0 / 3.0) = ⟨0x3EAAAAAB⟩ := by decide +kernel
example : toF32 (Float.ofNat (10 ^ 39)) = ⟨0x7F800000⟩ := by decide +kernel

/-! ## Values other than NaN -/

open UnpackedFloat

/-- The bits below the sign are the exponent and the mantissa. -/
theorem toNat_packComponents_mod (sign : Sign) (exponent : BitVec 11) (mantissa : BitVec 52) :
    (packComponents .binary64 sign exponent mantissa).toNat % 2 ^ 63 =
      exponent.toNat * 2 ^ 52 + mantissa.toNat := by
  have hexponent := exponent.isLt
  have hmantissa := mantissa.isLt
  unfold packComponents
  rw [BitVec.toNat_append, BitVec.toNat_append, ← Nat.shiftLeft_add_eq_or_of_lt hexponent,
    ← Nat.shiftLeft_add_eq_or_of_lt hmantissa, Nat.shiftLeft_eq, Nat.shiftLeft_eq]
  omega

/-- A value other than NaN is packed into bits up to those of infinity. -/
theorem toNat_pack_mod_le {f : UnpackedFloat} (h : f ≠ .notANumber) :
    (UnpackedFloat.pack .binary64 f).toNat % 2 ^ 63 ≤ 0x7FF0000000000000 := by
  fun_cases UnpackedFloat.pack .binary64 f
  case case1 => exact absurd rfl h
  case case2 s => exact Nat.le_of_eq (toNat_packComponents_mod s _ _)
  case case3 s => exact Nat.le_trans (Nat.le_of_eq (toNat_packComponents_mod s _ _)) (by decide)
  case case4 s _ _ _ _ _ => exact Nat.le_of_eq (toNat_packComponents_mod s _ _)
  case case5 s m _ _ _ biased hbiased _ =>
    have hbits := toNat_packComponents_mod s (.ofNat 11 biased) (.ofNat 52 m)
    have hmantissa := (BitVec.ofNat 52 m).isLt
    have hexponent : (BitVec.ofNat 11 biased).toNat < 2 ^ 11 - 1 := by
      rw [BitVec.toNat_ofNat]
      dsimp only at hbiased
      omega
    dsimp only at *
    omega
  case case6 s m _ _ _ _ _ _ =>
    have hbits := toNat_packComponents_mod s 0#11 (.ofNat 52 m)
    have hmantissa := (BitVec.ofNat 52 m).isLt
    have hzero : (0#11).toNat = 0 := rfl
    dsimp only at *
    omega

/-- A shift adds to the logarithm. -/
theorem log2_shiftLeft {n : Nat} (hn : n ≠ 0) (k : Nat) : (n <<< k).log2 = n.log2 + k := by
  induction k with
  | zero => rfl
  | succ k ih =>
    have hne : n <<< k ≠ 0 := by simpa using hn
    rw [Nat.shiftLeft_succ, Nat.log2_two_mul hne, ih, Nat.add_assoc]

section

variable {mantissa n : Nat} {exponent : Int}

/-- The exponent that fills the mantissa, away from the smallest values. -/
theorem targetExponent_eq (h : -1022 ≤ (mantissa.log2 : Int) + exponent) :
    Format.binary64.targetExponent (totalExponent mantissa exponent) =
      mantissa.log2 + exponent - 52 := by
  have hmin : Format.binary64.minExponent = -1074 := by decide
  have hbits : (Format.binary64.mantissaBits : Int) = 53 := by decide
  unfold Format.targetExponent totalExponent
  omega

/-- A mantissa of 53 bits needs no shift. -/
theorem shiftToTargetExponent_exact (hlog : mantissa.log2 = 52) (hexponent : -1074 ≤ exponent) :
    shiftToTargetExponent .binary64 mantissa exponent .exact =
      (⟨mantissa, false, false⟩, exponent) := by
  have htarget := @targetExponent_eq mantissa exponent (by omega)
  have hshift :
      (Format.binary64.targetExponent (totalExponent mantissa exponent) - exponent).toNat = 0 := by
    omega
  unfold shiftToTargetExponent shiftToExponent
  simp only [hshift]
  rw [Int.natCast_zero, Int.add_zero]
  rfl

/-- A mantissa of 53 bits is rounded to itself. -/
theorem roundWithAccuracy_exact (sign : Sign) (hpos : 0 < mantissa) (hlog : mantissa.log2 = 52)
    (hexponent : -1074 ≤ exponent) :
    roundWithAccuracy .binary64 sign mantissa exponent .exact =
      .finite sign mantissa exponent hpos := by
  have hshift := shiftToTargetExponent_exact hlog hexponent
  have hrounded : (⟨mantissa, false, false⟩ : ExtendedMantissa).roundedMantissa = mantissa := rfl
  unfold roundWithAccuracy
  rw [hshift]
  dsimp only
  rw [hrounded, hshift]
  exact dif_neg (Nat.ne_of_gt hpos)

/-- A finite value other than 0. -/
def nonzero : UnpackedFloat → Bool
  | .finite .. => true
  | _ => false

/-- A mantissa of 53 bits is packed with its own exponent, neither that of infinity nor that of 0. -/
theorem nonzero_unpack_pack (sign : Sign) (hpos : 0 < mantissa) (hlog : mantissa.log2 = 52)
    (hlow : -1074 ≤ exponent) (hhigh : exponent ≤ 971) :
    nonzero (pack (.finite sign mantissa exponent hpos)).unpack = true := by
  -- The stored exponent is neither of the two reserved ones, so unpacking takes the general branch.
  let biased := (exponent + Format.binary64.exponentBias + 52).toNat
  have hbiased : 1 ≤ biased ∧ biased ≤ 2046 := by
    have hbias : (Format.binary64.exponentBias : Int) = 1023 := by decide
    dsimp only [biased]
    omega
  have htoNat : (BitVec.ofNat 11 biased).toNat = biased := by
    rw [BitVec.toNat_ofNat]
    omega
  have hpack : UnpackedFloat.pack .binary64 (.finite sign mantissa exponent hpos) =
      packComponents .binary64 sign (.ofNat 11 biased) (.ofNat 52 mantissa) := by
    have hbits : mantissa.log2 + 1 = Format.binary64.mantissaBits := by rw [hlog]; decide
    have hrange : ¬ 2 ^ 11 ≤ biased + 1 := by omega
    exact (if_neg hrange).trans (if_pos hbits)
  have hinfinite : BitVec.ofNat 11 biased ≠ -1#11 := by
    intro h
    have htop : biased = 2047 := htoNat.symm.trans (congrArg BitVec.toNat h)
    omega
  have hzero : BitVec.ofNat 11 biased ≠ 0#11 := by
    intro h
    have hbottom : biased = 0 := htoNat.symm.trans (congrArg BitVec.toNat h)
    omega
  change nonzero (UnpackedFloat.unpack .binary64 (UnpackedFloat.pack .binary64 _)) = true
  rw [hpack]
  unfold UnpackedFloat.unpack
  rw [unpackExponent_packComponents]
  dsimp only
  rw [if_neg hinfinite, if_neg hzero]
  rfl

/-- A positive integer is rounded as it is. -/
theorem ofNat_eq_round (hpos : 0 < n) :
    UnpackedFloat.ofNat .binary64 n = UnpackedFloat.round .binary64 .positive n 0 := by
  have hgt : compare (n : Int) 0 = .gt := Int.compare_eq_gt.2 (by omega)
  unfold UnpackedFloat.ofNat UnpackedFloat.ofInt UnpackedFloat.normalize
  rw [hgt]
  rfl

/-- A positive integer of up to 53 bits is not turned into 0. -/
theorem nonzero_ofNat (hpos : 0 < n) (hlog : n.log2 ≤ 52) :
    nonzero (Float.Model.ofNat n).unpack = true := by
  have hne : n ≠ 0 := Nat.ne_of_gt hpos
  -- Shifted left to full width, the mantissa is exact and nothing is rounded away.
  have hmantissa : 0 < n <<< (52 - n.log2) := Nat.pos_of_ne_zero (by simpa using hne)
  have hwidth : (n <<< (52 - n.log2)).log2 = 52 := by
    rw [log2_shiftLeft hne]
    omega
  have hofNat : UnpackedFloat.ofNat .binary64 n =
      .finite .positive (n <<< (52 - n.log2)) (n.log2 - 52) hmantissa := by
    have htarget := @targetExponent_eq n 0 (by omega)
    have hdecrease : decreaseExponent n 0 (n.log2 + 0 - 52) =
        (n <<< (52 - n.log2), (n.log2 - 52 : Int)) := by
      have hshift : (0 - ((n.log2 : Int) + 0 - 52)).toNat = 52 - n.log2 := by omega
      have hexponent : (0 : Int) - ↑(52 - n.log2) = n.log2 - 52 := by omega
      unfold decreaseExponent
      rw [hshift]
      exact congrArg _ hexponent
    rw [ofNat_eq_round hpos]
    unfold UnpackedFloat.round
    rw [htarget]
    dsimp only
    rw [hdecrease]
    exact roundWithAccuracy_exact .positive hmantissa hwidth (by omega)
  unfold Float.Model.ofNat
  rw [hofNat]
  exact nonzero_unpack_pack .positive hmantissa hwidth (by omega) (by omega)

/-- Rounding never gives NaN. -/
theorem roundWithAccuracy_ne (format : Format) (sign : Sign) (mantissa : Nat) (exponent : Int)
    (accuracy : Accuracy) :
    roundWithAccuracy format sign mantissa exponent accuracy ≠ .notANumber := by
  intro hnan
  dsimp only [roundWithAccuracy] at hnan
  obtain ⟨_, hzero⟩ | ⟨_, hfinite⟩ := dite_eq_iff.1 hnan
  · cases hzero
  · cases hfinite

/-- A quotient by a finite value other than 0 is NaN only if the dividend is. -/
theorem div_ne {format : Format} :
    {x y : UnpackedFloat} → x ≠ .notANumber → nonzero y = true → UnpackedFloat.div format x y ≠ .notANumber
  | .notANumber, _, hx, _ => absurd rfl hx
  | .infinity _, .finite .., _, _ => nofun
  | .zero _, .finite .., _, _ => nofun
  | .finite .., .finite .., _, _ => roundWithAccuracy_ne _ _ _ _ _

/-- A quotient of integers of up to 53 bits is NaN only if the divisor is 0. -/
theorem div_ofNat_ne {m : Nat} (hm : m.log2 ≤ 52) (hn : n.log2 ≤ 52) (hpos : 0 < n) :
    UnpackedFloat.div .binary64 (Float.Model.ofNat m).unpack (Float.Model.ofNat n).unpack ≠
      .notANumber := by
  refine div_ne ?_ (nonzero_ofNat hpos hn)
  obtain rfl | hm' := Nat.eq_zero_or_pos m
  · exact nofun
  · intro hnan
    have hnum := nonzero_ofNat hm' hm
    rw [hnan] at hnum
    cases hnum

/-- A number of 32 bits fits the mantissa of 53. -/
theorem log2_toUInt64_le (a : UInt32) : a.toUInt64.toNat.log2 ≤ 52 := by
  have hlt := a.toNat_lt
  rw [UInt32.toNat_toUInt64]
  obtain hzero | hne := Nat.eq_zero_or_pos a.toNat
  · rw [hzero]
    decide
  · exact Nat.le_of_lt ((Nat.log2_lt (Nat.ne_of_gt hne)).2 (by omega))

/-- A quotient of `u32`s as `f64` is not NaN unless the divisor is 0. -/
theorem toNat_div_mod_le {a b : UInt32} (hb : b ≠ 0) :
    (a.toUInt64.toFloat / b.toUInt64.toFloat).toBits.toNat % 2 ^ 63 ≤ 0x7FF0000000000000 := by
  refine toNat_pack_mod_le (div_ofNat_ne (log2_toUInt64_le a) (log2_toUInt64_le b) ?_)
  rw [UInt32.toNat_toUInt64]
  exact Nat.pos_of_ne_zero fun h => hb (UInt32.toNat_inj.1 h)

/-! ## Finite values -/

/-- An exponent below that of infinity is packed as a finite value. -/
theorem isFinite_unpack_pack (sign : Sign) (hpos : 0 < mantissa) (h : exponent ≤ 971) :
    (pack (.finite sign mantissa exponent hpos)).unpack.isFinite = true := by
  -- A short mantissa is packed with exponent 0, a full one with a stored exponent below the top.
  let biased := (exponent + Format.binary64.exponentBias + 52).toNat
  have hbiased : biased ≤ 2046 := by
    have hbias : (Format.binary64.exponentBias : Int) = 1023 := by decide
    dsimp only [biased]
    omega
  have htoNat : (BitVec.ofNat 11 biased).toNat = biased := by
    rw [BitVec.toNat_ofNat]
    omega
  have hpack : ∃ packed fraction, packed ≠ -1#11 ∧
      UnpackedFloat.pack .binary64 (.finite sign mantissa exponent hpos) =
        packComponents .binary64 sign packed fraction := by
    have hrange : ¬ 2 ^ 11 ≤ biased + 1 := by omega
    by_cases hbits : mantissa.log2 + 1 = Format.binary64.mantissaBits
    · refine ⟨.ofNat 11 biased, .ofNat 52 mantissa, fun hinfinite => ?_, ?_⟩
      · have htop : biased = 2047 := htoNat.symm.trans (congrArg BitVec.toNat hinfinite)
        omega
      · exact (if_neg hrange).trans (if_pos hbits)
    · refine ⟨0#11, .ofNat 52 mantissa, by decide, ?_⟩
      exact (if_neg hrange).trans (if_neg hbits)
  obtain ⟨packed, fraction, hinfinite, hpack⟩ := hpack
  change (UnpackedFloat.unpack .binary64 (UnpackedFloat.pack .binary64 _)).isFinite = true
  rw [hpack]
  unfold UnpackedFloat.unpack
  rw [unpackExponent_packComponents]
  dsimp only
  rw [if_neg hinfinite]
  by_cases hzero : packed = 0#11
  · rw [if_pos hzero]
    by_cases hfraction : unpackMantissa (packComponents .binary64 sign packed fraction) = 0#52
    · rw [dif_pos hfraction]
      rfl
    · rw [dif_neg hfraction]
      rfl
  · rw [if_neg hzero]
    rfl

/-- A zero is finite. -/
theorem isFinite_unpack_pack_zero (sign : Sign) : (pack (.zero sign)).unpack.isFinite = true := by
  cases sign <;> rfl

/-- Shifting to the right makes a mantissa no larger. -/
theorem shiftRight_mantissa_le (em : ExtendedMantissa) (k : Nat) : (em >>> k).mantissa ≤ em.mantissa := by
  induction k with
  | zero => exact Nat.le_refl _
  | succ k ih =>
    show (em >>> k).mantissa / 2 ≤ em.mantissa
    omega

/-- Rounding adds one at most. -/
theorem roundedMantissa_le (em : ExtendedMantissa) : em.roundedMantissa ≤ em.mantissa + 1 := by
  unfold ExtendedMantissa.roundedMantissa
  cases em.accuracy with
  | exact => exact Nat.le_succ _
  | inexact half =>
    cases half <;> dsimp only [Accuracy.roundToNearestEven] <;> omega

/-- The exponent after a shift. -/
theorem shiftToTargetExponent_snd (accuracy : Accuracy) :
    (shiftToTargetExponent .binary64 mantissa exponent accuracy).2 =
      max exponent (max (mantissa.log2 + exponent - 52) (-1074)) := by
  have hmin : Format.binary64.minExponent = -1074 := by decide
  have hbits : (Format.binary64.mantissaBits : Int) = 53 := by decide
  simp only [shiftToTargetExponent, shiftToExponent, Format.targetExponent, totalExponent]
  omega

/-- The logarithm of what is within a power of two. -/
theorem log2_le_of_le {k : Nat} (h : n ≤ 2 ^ k) : n.log2 ≤ k := by
  obtain rfl | hpos := Nat.eq_zero_or_pos n
  · exact Nat.zero_le k
  · have hlt : n < 2 ^ (k + 1) := Nat.lt_of_le_of_lt h (Nat.pow_lt_pow_succ (by decide))
    exact Nat.le_of_lt_succ ((Nat.log2_lt (Nat.ne_of_gt hpos)).2 hlt)

/-- A mantissa of 64 bits, with nothing above its unit digit cut off, rounds to a finite value: rounding
up adds one digit at most. -/
theorem isFinite_roundWithAccuracy (sign : Sign) (hmantissa : mantissa < 2 ^ 64) (hexponent : exponent ≤ 0) :
    (pack (roundWithAccuracy .binary64 sign mantissa exponent .exact)).unpack.isFinite = true := by
  have hfirst := @shiftToTargetExponent_snd mantissa exponent .exact
  have hwidth := @log2_le_of_le mantissa 64 (Nat.le_of_lt hmantissa)
  have hrounded : (shiftToTargetExponent .binary64 mantissa exponent .exact).1.roundedMantissa.log2 ≤ 64 := by
    refine log2_le_of_le (Nat.le_trans (roundedMantissa_le _) ?_)
    exact Nat.le_trans (Nat.succ_le_succ (shiftRight_mantissa_le _ _)) hmantissa
  unfold roundWithAccuracy
  generalize shiftToTargetExponent .binary64 mantissa exponent .exact = shifted at hfirst hrounded ⊢
  obtain ⟨em, exponent'⟩ := shifted
  have hsecond := @shiftToTargetExponent_snd em.roundedMantissa exponent' .exact
  dsimp only at hfirst hrounded ⊢
  by_cases hzero :
      (shiftToTargetExponent .binary64 em.roundedMantissa exponent' .exact).1.mantissa = 0
  · rw [dif_pos hzero]
    exact isFinite_unpack_pack_zero sign
  · rw [dif_neg hzero]
    exact isFinite_unpack_pack sign _ (by omega)

/-- A `u64` is finite as a `f64`. -/
theorem isFinite_ofNat (h : n < 2 ^ 64) : (Float.Model.ofNat n).unpack.isFinite = true := by
  obtain rfl | hpos := Nat.eq_zero_or_pos n
  · exact isFinite_unpack_pack_zero .positive
  let shift := (0 - Format.binary64.targetExponent (totalExponent n 0)).toNat
  have hshifted : n <<< shift < 2 ^ 64 := by
    have hne : n ≠ 0 := Nat.ne_of_gt hpos
    have hlog : n.log2 < 64 := (Nat.log2_lt hne).2 h
    have htarget := @targetExponent_eq n 0 (by omega)
    have hwidth := log2_shiftLeft hne shift
    refine (Nat.log2_lt (by simpa using hne)).1 ?_
    dsimp only [shift] at hwidth ⊢
    omega
  unfold Float.Model.ofNat
  rw [ofNat_eq_round hpos]
  exact isFinite_roundWithAccuracy .positive hshifted (by omega)

/-- A quotient of a finite value is not NaN unless the divisor is 0 or NaN. -/
theorem div_ne_of_isFinite {format : Format} :
    {x y : UnpackedFloat} → x.isFinite = true → (∀ sign, y ≠ .zero sign) → y ≠ .notANumber →
      UnpackedFloat.div format x y ≠ .notANumber
  | _, .notANumber, _, _, hnan => absurd rfl hnan
  | _, .zero sign, _, hzero, _ => absurd rfl (hzero sign)
  | .zero _, .infinity _, _, _, _ => nofun
  | .zero _, .finite .., _, _, _ => nofun
  | .finite .., .infinity _, _, _, _ => nofun
  | .finite .., .finite .., _, _, _ => roundWithAccuracy_ne _ _ _ _ _

/-- What compares greater than 0 is neither NaN nor 0. -/
theorem unpack_of_pos {x : Float} (h : 0 < x) :
    (∀ sign, x.toModel.unpack ≠ .zero sign) ∧ x.toModel.unpack ≠ .notANumber := by
  have hlt : UnpackedFloat.lt (0 : Float).toModel.unpack x.toModel.unpack = true := of_decide_eq_true h
  rw [show (0 : Float).toModel.unpack = .zero .positive from rfl] at hlt
  constructor
  · intro sign hzero
    rw [hzero] at hlt
    cases hlt
  · intro hnan
    rw [hnan] at hlt
    cases hlt

/-- A `u64` over a positive number is not NaN. -/
theorem toNat_rate_mod_le {delta : UInt64} {elapsed : Float} (h : 0 < elapsed) :
    (delta.toFloat / elapsed).toBits.toNat % 2 ^ 63 ≤ 0x7FF0000000000000 := by
  obtain ⟨hzero, hnan⟩ := unpack_of_pos h
  exact toNat_pack_mod_le (div_ne_of_isFinite (isFinite_ofNat delta.toNat_lt) hzero hnan)

end

end FloatArith
