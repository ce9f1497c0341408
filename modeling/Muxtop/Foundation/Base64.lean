import Mathlib.Logic.Function.Basic
import Muxtop.Foundation.FixedWidth
import Muxtop.Foundation.Radix

/-!
# Base64

The encoding of RFC 4648: the bits of the bytes, one byte after the other, are cut into sextets, with zero
bits behind the last one, and each sextet is a digit of the alphabet; padding makes the number of
characters a multiple of four. The decoder accepts nothing but encodings.
-/

namespace Base64

open FixedWidth

/-- 64 digits, and a character for the padding that is none of them. -/
structure Alphabet where
  digit : Fin 64 → Char
  pad : Char
  injective : Function.Injective digit
  ne_pad : ∀ v, digit v ≠ pad

/-- The digit that a character is. -/
def Alphabet.value (A : Alphabet) (c : Char) : Option (Fin 64) :=
  (List.finRange 64).find? fun v => A.digit v == c

/-- How many characters of padding follow `k` digits. -/
def padding (k : ℕ) : ℕ := (4 - k % 4) % 4

/-- How many sextets `n` bytes take. -/
def sextets (n : ℕ) : ℕ := (8 * n + 5) / 6

/-- How many bits of `k` sextets belong to no byte. -/
def spare (k : ℕ) : ℕ := 6 * k % 8

/-! ### The standard alphabet -/

def standardTable : List Char :=
  "ABCDEFGHIJKLMNOPQRSTUVWXYZabcdefghijklmnopqrstuvwxyz0123456789+/".toList

def standardDigit (v : Fin 64) : Char := standardTable.getD v '='

/-- A digit of the standard alphabet stands at its value, -/
theorem idxOf_standardDigit : ∀ v : Fin 64, standardTable.idxOf (standardDigit v) = v := by decide +kernel

/-- is not the padding, -/
theorem standardDigit_ne_pad : ∀ v, standardDigit v ≠ '=' := by decide +kernel

/-- and is in the table. -/
theorem standardDigit_mem (v : Fin 64) : standardDigit v ∈ standardTable := by
  have hlt : standardTable.idxOf (standardDigit v) < standardTable.length := by
    rw [idxOf_standardDigit]
    exact v.isLt
  exact List.idxOf_lt_length_iff.1 hlt

/-- No two values have one digit. -/
theorem standardDigit_injective : Function.Injective standardDigit := by
  intro v w h
  have hindex := congrArg standardTable.idxOf h
  rw [idxOf_standardDigit, idxOf_standardDigit] at hindex
  exact Fin.ext hindex

/-- The alphabet of RFC 4648. -/
def standard : Alphabet := ⟨standardDigit, '=', standardDigit_injective, standardDigit_ne_pad⟩

/-! ### The encoding -/

variable (A : Alphabet)

def encode (bytes : List UInt8) : List Char :=
  let k := sextets bytes.length
  (Radix.digits 64 k (ofBeBytes bytes * 2 ^ spare k)).map A.digit ++ List.replicate (padding k) A.pad

/-- The bytes that a text encodes. The padding is all there, and the bits of no byte are zero. -/
def decode (text : List Char) : Option (List UInt8) :=
  let body := text.takeWhile (· != A.pad)
  let k := body.length
  match body.mapM A.value with
  | none => none
  | some values =>
    let n := Radix.ofDigits values
    if text.drop k = List.replicate (padding k) A.pad ∧ k % 4 ≠ 1 ∧ n % 2 ^ spare k = 0 then
      some (beBytes (6 * k / 8) (n / 2 ^ spare k))
    else none

variable {A}

/-! ## The alphabet -/

/-- The value of a character is what it is the digit of. -/
theorem Alphabet.value_eq_some_iff {c : Char} {v : Fin 64} : A.value c = some v ↔ A.digit v = c := by
  constructor
  · intro h
    simpa using List.find?_some h
  · rintro rfl
    have hsome : (A.value (A.digit v)).isSome :=
      List.find?_isSome.2 ⟨v, List.mem_finRange v, beq_self_eq_true _⟩
    obtain ⟨w, hw⟩ := Option.isSome_iff_exists.1 hsome
    have hdigit : A.digit w = A.digit v := by simpa using List.find?_some hw
    rw [hw, A.injective hdigit]

/-- A text has values when it is made of their digits. -/
theorem mapM_value_eq_some_iff {body : List Char} {values : List (Fin 64)} :
    body.mapM A.value = some values ↔ body = values.map A.digit := by
  induction body generalizing values with
  | nil => cases values <;> simp
  | cons c body ih =>
    rw [List.mapM_cons]
    change ((A.value c).bind fun v => (body.mapM A.value).bind fun vs => some (v :: vs)) = some values ↔ _
    rw [Option.bind_eq_some_iff]
    constructor
    · rintro ⟨v, hv, h⟩
      obtain ⟨vs, hvs, h⟩ := Option.bind_eq_some_iff.1 h
      rw [← Option.some.inj h, List.map_cons, Alphabet.value_eq_some_iff.1 hv, ← ih.1 hvs]
    · intro h
      cases values with
      | nil => cases h
      | cons v vs =>
        obtain ⟨hc, hbody⟩ := List.cons_eq_cons.1 h
        exact ⟨v, Alphabet.value_eq_some_iff.2 hc.symm, by rw [ih.2 hbody, Option.bind_some]⟩

/-- Digits are no padding. -/
theorem ne_pad_of_mem {values : List (Fin 64)} : ∀ c ∈ values.map A.digit, c ≠ A.pad := by
  intro c hc
  obtain ⟨v, -, rfl⟩ := List.mem_map.1 hc
  exact A.ne_pad v

/-! ## Bits -/

/-- No number of bytes leaves one digit over. -/
theorem sextets_mod (n : ℕ) : sextets n % 4 ≠ 1 := by
  unfold sextets
  omega

/-- The digits have room for so many bits more than the bytes. -/
theorem spare_sextets (n : ℕ) : spare (sextets n) = 6 * sextets n - 8 * n := by
  unfold spare sextets
  omega

/-- The number of digits tells the number of bytes. -/
theorem sextets_bytes {k : ℕ} (h : k % 4 ≠ 1) : sextets (6 * k / 8) = k := by
  have hlast : k = 4 * (k / 4) ∨ k = 4 * (k / 4) + 2 ∨ k = 4 * (k / 4) + 3 := by omega
  unfold sextets
  generalize k / 4 = q at hlast
  rcases hlast with rfl | rfl | rfl <;> omega

/-- The bytes and the spare bits are as many bits as the sextets. -/
theorem two_pow_spare_mul (n : ℕ) : 256 ^ n * 2 ^ spare (sextets n) = 64 ^ sextets n := by
  have hbits : 8 * n + spare (sextets n) = 6 * sextets n := by
    rw [spare_sextets, sextets]
    omega
  rw [show (256 : ℕ) = 2 ^ 8 from rfl, show (64 : ℕ) = 2 ^ 6 from rfl, ← pow_mul, ← pow_mul, ← pow_add, hbits]

/-- The bytes, shifted into place, fit the digits. -/
theorem ofBeBytes_mul_lt (bytes : List UInt8) :
    ofBeBytes bytes * 2 ^ spare (sextets bytes.length) < 64 ^ sextets bytes.length := by
  rw [← two_pow_spare_mul]
  exact Nat.mul_lt_mul_of_pos_right (ofBeBytes_lt bytes) (Nat.two_pow_pos _)

/-! ## The round trip -/

/-- Each three bytes begun make four characters. -/
theorem length_encode (bytes : List UInt8) : (encode A bytes).length = 4 * ((bytes.length + 2) / 3) := by
  rw [encode, List.length_append, List.length_map, Radix.length_digits, List.length_replicate, padding,
    sextets]
  omega

/-- The padding is at the end, and at most two characters. -/
theorem exists_encode_eq (bytes : List UInt8) :
    ∃ (values : List (Fin 64)) (k : ℕ), k ≤ 2 ∧
      encode A bytes = values.map A.digit ++ List.replicate k A.pad := by
  refine ⟨_, _, ?_, rfl⟩
  have hmod := sextets_mod bytes.length
  rw [padding]
  omega

/-- The digits are what stands before the padding. -/
theorem takeWhile_encode (values : List (Fin 64)) (k : ℕ) :
    (values.map A.digit ++ List.replicate k A.pad).takeWhile (· != A.pad) = values.map A.digit := by
  have hdigits : ∀ c ∈ values.map A.digit, (c != A.pad) = true := fun c hc =>
    bne_iff_ne.2 (ne_pad_of_mem c hc)
  rw [List.takeWhile_append_of_pos hdigits]
  cases k with
  | zero => simp
  | succ k => rw [List.replicate_succ, List.takeWhile_cons_of_neg (by simp), List.append_nil]

/-- What is encoded is decoded to itself. -/
theorem decode_encode (bytes : List UInt8) : decode A (encode A bytes) = some bytes := by
  have hlt := ofBeBytes_mul_lt bytes
  unfold decode encode
  dsimp only
  rw [takeWhile_encode, mapM_value_eq_some_iff.2 rfl]
  dsimp only
  rw [List.length_map, Radix.length_digits, Radix.ofDigits_digits, Nat.mod_eq_of_lt hlt, if_pos]
  · rw [Nat.mul_div_cancel _ (Nat.two_pow_pos _), show 6 * sextets bytes.length / 8 = bytes.length by
      rw [sextets]; omega, beBytes_ofBeBytes]
  · refine ⟨?_, sextets_mod _, Nat.mul_mod_left _ _⟩
    rw [List.drop_left' (by rw [List.length_map, Radix.length_digits])]

/-- Digits whose spare bits are zero are the ones of some bytes. -/
theorem encode_beBytes {values : List (Fin 64)} (hmod : values.length % 4 ≠ 1)
    (hspare : Radix.ofDigits values % 2 ^ spare values.length = 0) :
    encode A (beBytes (6 * values.length / 8) (Radix.ofDigits values / 2 ^ spare values.length)) =
      values.map A.digit ++ List.replicate (padding values.length) A.pad := by
  have hpow := two_pow_spare_mul (6 * values.length / 8)
  rw [sextets_bytes hmod] at hpow
  have hlt : Radix.ofDigits values / 2 ^ spare values.length < 256 ^ (6 * values.length / 8) := by
    rw [Nat.div_lt_iff_lt_mul (Nat.two_pow_pos _), hpow]
    exact Radix.ofDigits_lt values
  unfold encode
  dsimp only
  rw [length_beBytes, sextets_bytes hmod, ofBeBytes_beBytes _ _ hlt,
    Nat.div_mul_cancel (Nat.dvd_of_mod_eq_zero hspare), Radix.digits_ofDigits]

/-- A text that is decoded is the encoding of the bytes. -/
theorem eq_encode_of_decode {text : List Char} {bytes : List UInt8} (h : decode A text = some bytes) :
    text = encode A bytes := by
  unfold decode at h
  dsimp only at h
  have htext := List.prefix_iff_eq_append.1 (List.takeWhile_prefix (· != A.pad) (l := text))
  generalize text.takeWhile (· != A.pad) = body at h htext
  split at h
  case h_1 => cases h
  case h_2 values hvalues =>
    obtain rfl := mapM_value_eq_some_iff.1 hvalues
    rw [List.length_map] at h htext
    split at h
    case isFalse => cases h
    case isTrue hvalid =>
      obtain ⟨hpadding, hmod, hspare⟩ := hvalid
      rw [← Option.some.inj h, encode_beBytes hmod hspare, ← hpadding]
      exact htext.symm

/-- The texts that are decoded are the encodings. -/
theorem decode_eq_some_iff {text : List Char} {bytes : List UInt8} :
    decode A text = some bytes ↔ text = encode A bytes :=
  ⟨eq_encode_of_decode, fun h => by rw [h, decode_encode]⟩

/-! ## Groups of three bytes -/

/-- The bytes in front fill their sextets, so what follows is encoded as if it stood alone. -/
theorem encode_append {front : List UInt8} (h : 3 ∣ front.length) (rest : List UInt8) :
    encode A (front ++ rest) = encode A front ++ encode A rest := by
  obtain ⟨q, hq⟩ := h
  have hfront : sextets front.length = 4 * q := by
    rw [sextets]
    omega
  have hall : sextets (front ++ rest).length = 4 * q + sextets rest.length := by
    rw [List.length_append, sextets, sextets]
    omega
  have hspare : spare (4 * q + sextets rest.length) = spare (sextets rest.length) := by
    rw [spare, spare]
    omega
  have hnone : spare (4 * q) = 0 := by
    rw [spare]
    omega
  have hpadding : padding (4 * q + sextets rest.length) = padding (sextets rest.length) := by
    rw [padding, padding]
    omega
  have hfilled : padding (4 * q) = 0 := by
    rw [padding]
    omega
  have hnumber : ofBeBytes (front ++ rest) * 2 ^ spare (sextets rest.length) =
      ofBeBytes front * 64 ^ sextets rest.length +
        ofBeBytes rest * 2 ^ spare (sextets rest.length) := by
    rw [ofBeBytes_append, ← two_pow_spare_mul]
    ring
  rw [encode, encode, encode, hall, hspare, hnumber, hpadding,
    Radix.digits_append _ _ (ofBeBytes_mul_lt rest), hfront, hnone, hfilled]
  simp

end Base64
