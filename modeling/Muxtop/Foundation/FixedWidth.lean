import Mathlib.Data.Nat.Basic
import Mathlib.Tactic.Ring

/-!
# Numbers as fixed-width byte strings

Little- and big-endian byte strings of a given width, and their round trips.
-/

namespace FixedWidth

/-- The low `w` bytes of `n`, least significant first. -/
def leBytes : (w n : ℕ) → List UInt8
  | 0, _ => []
  | w + 1, n => UInt8.ofNat n :: leBytes w (n / 256)

/-- The number a byte string spells, least significant byte first. -/
def ofLeBytes : List UInt8 → ℕ
  | [] => 0
  | b :: bs => b.toNat + 256 * ofLeBytes bs

/-- The low `w` bytes of `n`, most significant first. -/
def beBytes (w n : ℕ) : List UInt8 := (leBytes w n).reverse

/-- The number a byte string spells, most significant byte first. -/
def ofBeBytes (bs : List UInt8) : ℕ := ofLeBytes bs.reverse

/-- A number is written in so many bytes. -/
@[simp] theorem length_leBytes : (w n : ℕ) → (leBytes w n).length = w
  | 0, _ => rfl
  | w + 1, n => by simp [leBytes, length_leBytes w]

@[simp] theorem length_beBytes (w n : ℕ) : (beBytes w n).length = w := by simp [beBytes]

/-- So many bytes are a number of their width. -/
theorem ofLeBytes_lt : (bs : List UInt8) → ofLeBytes bs < 256 ^ bs.length
  | [] => by simp [ofLeBytes]
  | b :: bs => by
      have hb := b.toNat_lt
      have ih := ofLeBytes_lt bs
      simp only [ofLeBytes, List.length_cons, pow_succ]
      omega

/-- A number that fits in `w` bytes is read back from them. -/
theorem ofLeBytes_leBytes : (w n : ℕ) → n < 256 ^ w → ofLeBytes (leBytes w n) = n
  | 0, n, h => by simp only [pow_zero] at h; simp only [leBytes, ofLeBytes]; omega
  | w + 1, n, h => by
      have hn : n / 256 < 256 ^ w := Nat.div_lt_of_lt_mul (by rwa [pow_succ'] at h)
      rw [leBytes, ofLeBytes, ofLeBytes_leBytes w _ hn, UInt8.toNat_ofNat']
      omega

/-- A byte string is the one of the number it spells. -/
theorem leBytes_ofLeBytes : (bs : List UInt8) → leBytes bs.length (ofLeBytes bs) = bs
  | [] => rfl
  | b :: bs => by
      have hb := b.toNat_lt
      have hdiv : (b.toNat + 256 * ofLeBytes bs) / 256 = ofLeBytes bs := by omega
      have hhead : UInt8.ofNat (b.toNat + 256 * ofLeBytes bs) = b := by
        apply UInt8.toNat_inj.mp
        rw [UInt8.toNat_ofNat']
        omega
      rw [List.length_cons, ofLeBytes, leBytes, hdiv, hhead, leBytes_ofLeBytes bs]

/-- So they are the other way round. -/
theorem ofBeBytes_lt (bs : List UInt8) : ofBeBytes bs < 256 ^ bs.length := by
  simpa [ofBeBytes] using ofLeBytes_lt bs.reverse

/-- A number within the width is read back. -/
theorem ofBeBytes_beBytes (w n : ℕ) (h : n < 256 ^ w) : ofBeBytes (beBytes w n) = n := by
  rw [ofBeBytes, beBytes, List.reverse_reverse, ofLeBytes_leBytes w n h]

/-- Bytes that were read are what would be written. -/
theorem beBytes_ofBeBytes (bs : List UInt8) : beBytes bs.length (ofBeBytes bs) = bs := by
  have h := leBytes_ofLeBytes bs.reverse
  rw [List.length_reverse] at h
  rw [beBytes, ofBeBytes, h, List.reverse_reverse]

/-- More bytes are higher digits. -/
theorem ofLeBytes_append (xs ys : List UInt8) :
    ofLeBytes (xs ++ ys) = ofLeBytes xs + 256 ^ xs.length * ofLeBytes ys := by
  induction xs with
  | nil => simp [ofLeBytes]
  | cons x xs ih =>
    rw [List.cons_append, ofLeBytes, ofLeBytes, ih, List.length_cons]
    ring

/-- The first of two byte strings are the high bytes. -/
theorem ofBeBytes_append (xs ys : List UInt8) :
    ofBeBytes (xs ++ ys) = ofBeBytes xs * 256 ^ ys.length + ofBeBytes ys := by
  rw [ofBeBytes, List.reverse_append, ofLeBytes_append, List.length_reverse, Nat.add_comm, Nat.mul_comm]
  rfl

end FixedWidth
