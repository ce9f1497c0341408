import Muxtop.Foundation.Base64
import Muxtop.Tui.App

/-!
# The clipboard

`copy` and `base64` of `muxtop-tui/src/clipboard.rs`. An identifier is copied by the escape sequence OSC 52,
which carries it in Base64. The encoder takes three bytes at a time and cuts them with shifts and masks; it
comes to the same as the encoding of all the bytes at once.
-/

namespace Muxtop.Tui.Clipboard

open Muxtop.Core FixedWidth

/-! ## The code -/

/-- `MAX_PAYLOAD` -/
def maxPayload : ℕ := 4096

/-- `ALPHABET` -/
def alphabet : List Char :=
  "ABCDEFGHIJKLMNOPQRSTUVWXYZabcdefghijklmnopqrstuvwxyz0123456789+/".toList

/-- `input.chunks(3)` -/
def chunks : List UInt8 → List (List UInt8)
  | [] => []
  | [b₀] => [[b₀]]
  | [b₀, b₁] => [[b₀, b₁]]
  | b₀ :: b₁ :: b₂ :: rest => [b₀, b₁, b₂] :: chunks rest

/-- The three bytes of a chunk as one number, with zeros for those that it does not have. -/
def chunkNumber (chunk : List UInt8) : UInt32 :=
  ((chunk.getD 0 0).toUInt32 <<< 16) ||| ((chunk.getD 1 0).toUInt32 <<< 8) ||| (chunk.getD 2 0).toUInt32

/-- One turn of the loop. -/
def encodeChunk (chunk : List UInt8) : List Char :=
  let n := chunkNumber chunk
  -- no index is out of bounds, as each is six bits
  let char (idx : UInt32) : Char := alphabet.getD idx.toNat '='
  [char ((n >>> 18) &&& 0x3f),
    char ((n >>> 12) &&& 0x3f),
    if 1 < chunk.length then char ((n >>> 6) &&& 0x3f) else '=',
    if 2 < chunk.length then char (n &&& 0x3f) else '=']

def base64 (input : List UInt8) : String := String.ofList ((chunks input).flatMap encodeChunk)

example : base64 [] = "" := by decide
example : base64 (Text.bytes "foob") = "Zm9vYg==" := by decide

/-- The escape sequence for a text, unless there is none. -/
def copySequence (text : String) : Except String String :=
  if text.isEmpty then .error "nothing to copy"
  else if maxPayload < text.utf8ByteSize then .error "selection is too large to copy"
  else .ok ("\x1b]52;c;" ++ base64 (Text.bytes text) ++ "\x07")

/-! ## One chunk -/

theorem toNat_number (b₀ b₁ b₂ : UInt8) :
    ((b₀.toUInt32 <<< 16) ||| (b₁.toUInt32 <<< 8) ||| b₂.toUInt32).toNat =
      65536 * b₀.toNat + 256 * b₁.toNat + b₂.toNat := by
  have h₀ := b₀.toNat_lt
  have h₁ := b₁.toNat_lt
  have h₂ := b₂.toNat_lt
  have hhigh : (b₀.toUInt32 <<< 16).toNat = 2 ^ 16 * b₀.toNat := by
    rw [UInt32.toNat_shiftLeft, UInt8.toNat_toUInt32, Nat.shiftLeft_eq]
    simp
    omega
  have hmiddle : (b₁.toUInt32 <<< 8).toNat = 2 ^ 8 * b₁.toNat := by
    rw [UInt32.toNat_shiftLeft, UInt8.toNat_toUInt32, Nat.shiftLeft_eq]
    simp
    omega
  rw [UInt32.toNat_or, UInt32.toNat_or, hhigh, hmiddle, UInt8.toNat_toUInt32, Nat.or_assoc,
    ← Nat.two_pow_add_eq_or_of_lt h₂, ← Nat.two_pow_add_eq_or_of_lt (by omega)]
  omega

/-- A mask takes the last six bits of what a shift leaves. -/
theorem toNat_sextet (n shift : UInt32) :
    ((n >>> shift) &&& 0x3f).toNat = n.toNat / 2 ^ (shift.toNat % 32) % 64 := by
  rw [UInt32.toNat_and, UInt32.toNat_shiftRight, Nat.shiftRight_eq_div_pow]
  exact Nat.and_two_pow_sub_one_eq_mod _ 6

theorem encodeChunk_eq (chunk : List UInt8) : encodeChunk chunk =
    [alphabet.getD ((chunkNumber chunk).toNat / 64 ^ 3 % 64) '=',
      alphabet.getD ((chunkNumber chunk).toNat / 64 ^ 2 % 64) '=',
      if 1 < chunk.length then alphabet.getD ((chunkNumber chunk).toNat / 64 ^ 1 % 64) '=' else '=',
      if 2 < chunk.length then alphabet.getD ((chunkNumber chunk).toNat / 64 ^ 0 % 64) '=' else '='] := by
  have hlast (n : UInt32) : (n &&& 0x3f).toNat = n.toNat / 64 ^ 0 % 64 := by
    rw [UInt32.toNat_and, pow_zero, Nat.div_one]
    exact Nat.and_two_pow_sub_one_eq_mod _ 6
  unfold encodeChunk
  dsimp only
  rw [toNat_sextet, toNat_sextet, toNat_sextet, hlast]
  rfl

theorem map_digits (w n : ℕ) : (Radix.digits 64 (w + 1) n).map Base64.standard.digit =
    alphabet.getD (n / 64 ^ w % 64) '=' :: (Radix.digits 64 w n).map Base64.standard.digit := rfl

/-- The encoding of bytes for which the numbers of sextets, of spare bits and of characters of padding are
known. -/
theorem encode_of_sextets {bytes : List UInt8} {n w k p : ℕ} (hlen : bytes.length = n)
    (hsextets : Base64.sextets n = w) (hspare : Base64.spare w = k) (hpadding : Base64.padding w = p) :
    Base64.encode Base64.standard bytes =
      (Radix.digits 64 w (ofBeBytes bytes * 2 ^ k)).map Base64.standard.digit ++ List.replicate p '=' := by
  subst hlen hsextets hspare hpadding
  rfl

theorem encodeChunk_three (b₀ b₁ b₂ : UInt8) :
    encodeChunk [b₀, b₁, b₂] = Base64.encode Base64.standard [b₀, b₁, b₂] := by
  have hbytes : ofBeBytes [b₀, b₁, b₂] * 2 ^ 0 = (chunkNumber [b₀, b₁, b₂]).toNat := by
    have hnumber : (chunkNumber [b₀, b₁, b₂]).toNat = _ := toNat_number b₀ b₁ b₂
    simp only [hnumber, ofBeBytes, List.reverse_cons, List.reverse_nil, List.nil_append, List.cons_append,
      ofLeBytes]
    omega
  have hlen : [b₀, b₁, b₂].length = 3 := rfl
  have hencode := @encode_of_sextets [b₀, b₁, b₂] 3 4 0 0 hlen (by decide) (by decide) (by decide)
  rw [encodeChunk_eq, hencode, hbytes, map_digits, map_digits, map_digits, map_digits]
  rfl

/-- Without the third byte the number is the one of three sextets, moved by one. -/
theorem encodeChunk_two (b₀ b₁ : UInt8) :
    encodeChunk [b₀, b₁] = Base64.encode Base64.standard [b₀, b₁] := by
  have hbytes : ofBeBytes [b₀, b₁] * 2 ^ 2 = (chunkNumber [b₀, b₁]).toNat / 64 := by
    have hnumber : (chunkNumber [b₀, b₁]).toNat = _ := toNat_number b₀ b₁ 0
    simp only [hnumber, ofBeBytes, List.reverse_cons, List.reverse_nil, List.nil_append, List.cons_append,
      ofLeBytes, UInt8.toNat_zero]
    omega
  have hlen : [b₀, b₁].length = 2 := rfl
  have hencode := @encode_of_sextets [b₀, b₁] 2 3 2 1 hlen (by decide) (by decide) (by decide)
  rw [encodeChunk_eq, hencode, hbytes, map_digits, map_digits, map_digits, Nat.div_div_eq_div_mul,
    Nat.div_div_eq_div_mul, Nat.div_div_eq_div_mul, ← pow_succ', ← pow_succ', ← pow_succ']
  rfl

/-- Without the second and the third, moved by two. -/
theorem encodeChunk_one (b₀ : UInt8) : encodeChunk [b₀] = Base64.encode Base64.standard [b₀] := by
  have hbytes : ofBeBytes [b₀] * 2 ^ 4 = (chunkNumber [b₀]).toNat / 64 ^ 2 := by
    have hnumber : (chunkNumber [b₀]).toNat = _ := toNat_number b₀ 0 0
    simp only [hnumber, ofBeBytes, List.reverse_singleton, ofLeBytes, UInt8.toNat_zero]
    omega
  have hlen : [b₀].length = 1 := rfl
  have hencode := @encode_of_sextets [b₀] 1 2 4 2 hlen (by decide) (by decide) (by decide)
  rw [encodeChunk_eq, hencode, hbytes, map_digits, map_digits, Nat.div_div_eq_div_mul,
    Nat.div_div_eq_div_mul, ← pow_add, ← pow_add]
  rfl

/-! ## All chunks -/

/-- The chunks are encoded as the bytes are as a whole. -/
theorem base64_eq (input : List UInt8) :
    (base64 input).toList = Base64.encode Base64.standard input := by
  rw [base64, String.toList_ofList]
  induction input using chunks.induct with
  | case1 => rfl
  | case2 b₀ => exact (List.flatMap_singleton ..).trans (encodeChunk_one b₀)
  | case3 b₀ b₁ => exact (List.flatMap_singleton ..).trans (encodeChunk_two b₀ b₁)
  | case4 b₀ b₁ b₂ rest ih =>
    rw [chunks, List.flatMap_cons, ih, encodeChunk_three]
    have happend := @Base64.encode_append Base64.standard [b₀, b₁, b₂] (Nat.dvd_refl 3) rest
    exact happend.symm

theorem bytes_injective : Function.Injective Text.bytes := by
  intro s t h
  exact String.toByteArray_inj.1 (ByteArray.ext (Array.ext' h))

/-- A text is what some bytes are encoded as. -/
structure IsBase64 (bytes : List UInt8) (text : String) : Prop where
  length : text.length = 4 * ((bytes.length + 2) / 3)
  shape : ∃ (digits : List Char) (k : ℕ), k ≤ 2 ∧ text.toList = digits ++ List.replicate k '=' ∧
    ∀ c ∈ digits, c ∈ Base64.standardTable
  decoded : ∀ cs, Base64.decode Base64.standard cs = some bytes ↔ cs = text.toList

theorem isBase64_base64 (bytes : List UInt8) : IsBase64 bytes (base64 bytes) where
  length := by rw [← String.length_toList, base64_eq, Base64.length_encode]
  shape := by
    obtain ⟨values, k, hk, hencode⟩ := Base64.exists_encode_eq (A := Base64.standard) bytes
    refine ⟨values.map Base64.standard.digit, k, hk, by rw [base64_eq, hencode]; rfl, ?_⟩
    rw [List.forall_mem_map]
    exact fun v _ => Base64.standardDigit_mem v
  decoded := by
    intro cs
    rw [base64_eq]
    exact Base64.decode_eq_some_iff

/-! ## What the terminal receives -/

/-- Different identifiers have different payloads. -/
theorem payload_injective {text text' : String}
    (h : base64 (Text.bytes text) = base64 (Text.bytes text')) : text = text' := by
  have hdecoded := ((isBase64_base64 (Text.bytes text)).decoded _).2 rfl
  rw [h, ((isBase64_base64 (Text.bytes text')).decoded _).2 rfl] at hdecoded
  exact (bytes_injective (Option.some.inj hdecoded)).symm

theorem copySequence_eq_ok_iff {text sequence : String} : copySequence text = .ok sequence ↔
    text ≠ "" ∧ text.utf8ByteSize ≤ maxPayload ∧
      sequence = "\x1b]52;c;" ++ base64 (Text.bytes text) ++ "\x07" := by
  unfold copySequence
  split
  case isTrue hempty => simp [String.isEmpty_iff.1 hempty]
  case isFalse hempty =>
    rw [String.isEmpty_iff] at hempty
    split
    case isTrue hlong => simp [hempty, Nat.not_le.2 hlong]
    case isFalse hlong => simp [hempty, Nat.not_lt.1 hlong, eq_comm]

theorem copySequence_inj {text text' sequence : String} (h : copySequence text = .ok sequence)
    (h' : copySequence text' = .ok sequence) : text = text' := by
  obtain ⟨-, -, hsequence⟩ := copySequence_eq_ok_iff.1 h
  obtain ⟨-, -, hsequence'⟩ := copySequence_eq_ok_iff.1 h'
  refine payload_injective (String.toList_inj.1 ?_)
  have hlists := congrArg String.toList (hsequence.symm.trans hsequence')
  simp only [String.toList_append] at hlists
  exact List.append_cancel_left (List.append_cancel_right hlists)

/-- The application copies what there is a sequence for, if the terminal takes it. -/
theorem clipboardCopy_eq (w : World) (text : String) : clipboardCopy w text = (copySequence text).bind
    fun _ => if w.terminalWrite then .ok () else .error "terminal write failed" := by
  unfold clipboardCopy copySequence maxPayload
  split
  case isTrue => rfl
  case isFalse =>
    split
    case isTrue => rfl
    case isFalse => rfl

/-- No identifier ends the sequence early: its payload has none of the characters that do. -/
theorem notMem_payload (bytes : List UInt8) :
    '\x07' ∉ (base64 bytes).toList ∧ '\x1b' ∉ (base64 bytes).toList := by
  obtain ⟨digits, k, -, htext, hdigits⟩ := (isBase64_base64 bytes).shape
  have hclean (c : Char) (hc : c ∉ Base64.standardTable) (hpad : c ≠ '=') : c ∉ (base64 bytes).toList := by
    rw [htext, List.mem_append, List.mem_replicate]
    rintro (hmem | ⟨-, hmem⟩)
    · exact hc (hdigits c hmem)
    · exact hpad hmem
  exact ⟨hclean _ (by decide) (by decide), hclean _ (by decide) (by decide)⟩

/-- **The clipboard.** The encoder's text is the one that decodes to the bytes, for all bytes; so no two
identifiers are sent to the terminal as the same payload or in the same sequence. -/
theorem base64_rfc4648 :
    (∀ bytes : List UInt8, IsBase64 bytes (base64 bytes)) ∧
      (∀ text text' : String, base64 (Text.bytes text) = base64 (Text.bytes text') → text = text') ∧
      ∀ text text' sequence : String, copySequence text = .ok sequence →
        copySequence text' = .ok sequence → text = text' :=
  ⟨isBase64_base64, fun _ _ => payload_injective, fun _ _ _ => copySequence_inj⟩

end Muxtop.Tui.Clipboard
