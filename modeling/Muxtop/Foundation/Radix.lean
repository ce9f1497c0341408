import Mathlib.Data.Nat.Basic
import Mathlib.Tactic.Ring

/-!
# The digits of a number

A number written with a fixed number of digits of any base, most significant first, and its round trips.
-/

namespace Radix

variable {b : ℕ}

/-- The last `w` digits of `n`, most significant first. -/
def digits (b : ℕ) [NeZero b] : (w n : ℕ) → List (Fin b)
  | 0, _ => []
  | w + 1, n => Fin.ofNat b (n / b ^ w) :: digits b w n

/-- The number that some digits spell. -/
def ofDigits : List (Fin b) → ℕ
  | [] => 0
  | d :: ds => d.val * b ^ ds.length + ofDigits ds

theorem ofDigits_lt (ds : List (Fin b)) : ofDigits ds < b ^ ds.length := by
  induction ds with
  | nil => exact Nat.one_pos
  | cons d ds ih =>
    have hd : (d.val + 1) * b ^ ds.length ≤ b * b ^ ds.length := Nat.mul_le_mul_right _ d.isLt
    rw [Nat.succ_mul] at hd
    rw [ofDigits, List.length_cons, pow_succ']
    omega

theorem ofDigits_append (ds es : List (Fin b)) :
    ofDigits (ds ++ es) = ofDigits ds * b ^ es.length + ofDigits es := by
  induction ds with
  | nil => simp [ofDigits]
  | cons d ds ih =>
    rw [List.cons_append, ofDigits, ofDigits, ih, List.length_append, pow_add]
    ring

variable [NeZero b]

@[simp] theorem length_digits (w n : ℕ) : (digits b w n).length = w := by
  induction w with
  | zero => rfl
  | succ w ih => rw [digits, List.length_cons, ih]

/-- The digits tell all of the number that they have room for. -/
theorem ofDigits_digits (w n : ℕ) : ofDigits (digits b w n) = n % b ^ w := by
  induction w with
  | zero => rw [pow_zero, Nat.mod_one, digits, ofDigits]
  | succ w ih =>
    rw [digits, ofDigits, ih, length_digits, Nat.mod_pow_succ, Fin.val_ofNat, Nat.mul_comm, Nat.add_comm]

/-- As many digits spell the same number only if they are the same. -/
theorem ofDigits_inj {ds es : List (Fin b)} (hlength : ds.length = es.length)
    (h : ofDigits ds = ofDigits es) : ds = es := by
  induction ds generalizing es with
  | nil => exact (List.length_eq_zero_iff.1 hlength.symm).symm
  | cons d ds ih =>
    cases es with
    | nil => cases hlength
    | cons e es =>
      have hrest : ds.length = es.length := Nat.succ.inj hlength
      have hpos : 0 < b ^ es.length := Nat.pow_pos (Nat.pos_of_neZero b)
      have hds := ofDigits_lt ds
      have hes := ofDigits_lt es
      rw [ofDigits, ofDigits, hrest, Nat.mul_comm, Nat.mul_comm e.val] at h
      rw [hrest] at hds
      have hhead := congrArg (· / b ^ es.length) h
      have htail := congrArg (· % b ^ es.length) h
      simp only [Nat.mul_add_div hpos, Nat.div_eq_of_lt hds, Nat.div_eq_of_lt hes, Nat.add_zero] at hhead
      simp only [Nat.mul_add_mod, Nat.mod_eq_of_lt hds, Nat.mod_eq_of_lt hes] at htail
      rw [Fin.ext hhead, ih hrest htail]

theorem digits_ofDigits (ds : List (Fin b)) : digits b ds.length (ofDigits ds) = ds :=
  ofDigits_inj (length_digits _ _) (by rw [ofDigits_digits, Nat.mod_eq_of_lt (ofDigits_lt ds)])

/-- The digits of a number in two parts are those of the parts. -/
theorem digits_append (v x : ℕ) {w y : ℕ} (hy : y < b ^ w) :
    digits b (v + w) (x * b ^ w + y) = digits b v x ++ digits b w y := by
  refine ofDigits_inj (by simp) ?_
  have hpos : 0 < b ^ w := Nat.pow_pos (Nat.pos_of_neZero b)
  rw [ofDigits_append, ofDigits_digits, ofDigits_digits, ofDigits_digits, length_digits, Nat.add_comm v,
    pow_add, Nat.mod_mul, Nat.mul_comm x, Nat.mul_add_mod, Nat.mul_add_div hpos, Nat.div_eq_of_lt hy,
    Nat.add_zero]
  ring

end Radix
