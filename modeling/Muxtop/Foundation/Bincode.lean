import Mathlib.Data.List.Basic
import Mathlib.Order.Lattice
import Muxtop.Foundation.FixedWidth
import Muxtop.Foundation.FloatBits

/-!
# The bincode format, decoded under a limit

Integers are little-endian and of variable width; a sequence is its length and then its elements.
A decoder with a limit counts the in-memory bytes it has been asked for, not the encoded ones: a
primitive claims its size, a sequence claims `len * size` as soon as its length is known and gives
`size` back before it decodes each element.

A `Codec` bundles the encoder and the decoder of a type with the relation `Spells` between byte
strings and values, the bytes a value leaves claimed (`net`) and the most that are claimed while it
is decoded (`peak`). Its laws say that a decoder accepts exactly the spelled strings whose peak is
within the limit, whatever follows them.
-/

namespace Bincode

open FixedWidth

inductive DecodeError
  | unexpectedEnd (additional : ℕ)
  | limitExceeded
  | invalidIntegerType (width : ℕ) (found : UInt8)
  | invalidBooleanValue (found : UInt8)
  | unexpectedVariant (found max : ℕ)
  | utf8
deriving DecidableEq, Repr

/-- No type encoded here has a failing encoder. -/
inductive EncodeError
  | other
deriving DecidableEq, Repr

/-! ## The decoder -/

/-- A decoder in front of its remaining input, and the bytes claimed so far. -/
structure Decoder where
  input : List UInt8
  claimed : ℕ
deriving DecidableEq, Repr

/-- `claim_bytes_read` -/
def Decoder.claim (limit n : ℕ) (d : Decoder) : Except DecodeError Decoder :=
  if d.claimed + n ≤ limit then .ok { d with claimed := d.claimed + n } else .error .limitExceeded

/-- `unclaim_bytes_read` -/
def Decoder.unclaim (n : ℕ) (d : Decoder) : Decoder := { d with claimed := d.claimed - n }

/-- Read `n` bytes. -/
def Decoder.read (n : ℕ) (d : Decoder) : Except DecodeError (List UInt8 × Decoder) :=
  if n ≤ d.input.length then .ok (d.input.take n, { d with input := d.input.drop n })
  else .error (.unexpectedEnd (n - d.input.length))

/-- A computation in two steps succeeds when both do. -/
theorem bind_eq_ok {ε α β : Type} {x : Except ε α} {f : α → Except ε β} {b : β} :
    (x >>= f) = .ok b ↔ ∃ a, x = .ok a ∧ f a = .ok b := by
  cases x with
  | error e =>
      constructor
      · intro h
        cases h
      · rintro ⟨a, h, -⟩
        cases h
  | ok a =>
      constructor
      · exact fun h => ⟨a, rfl, h⟩
      · rintro ⟨a, h, hb⟩
        cases h
        exact hb

@[simp] theorem ok_bind {ε α β : Type} (a : α) (f : α → Except ε β) :
    (Except.ok a >>= f) = f a := rfl

@[simp] theorem error_bind {ε α β : Type} (e : ε) (f : α → Except ε β) :
    (Except.error e >>= f) = Except.error e := rfl

/-- A claim that is granted is within the limit. -/
theorem Decoder.claim_eq_ok {limit n : ℕ} {d d' : Decoder} (h : d.claim limit n = .ok d') :
    d.claimed + n ≤ limit ∧ d' = { d with claimed := d.claimed + n } := by
  unfold Decoder.claim at h
  split at h
  · next hle => exact ⟨hle, (Except.ok.inj h).symm⟩
  · cases h

/-- A claim within the limit is granted, -/
theorem Decoder.claim_of_le {limit n b : ℕ} (h : b + n ≤ limit) (input : List UInt8) :
    Decoder.claim limit n ⟨input, b⟩ = .ok ⟨input, b + n⟩ := if_pos h

/-- and one beyond it is not. -/
theorem Decoder.claim_of_lt {limit n b : ℕ} (h : limit < b + n) (input : List UInt8) :
    Decoder.claim limit n ⟨input, b⟩ = .error .limitExceeded := if_neg (Nat.not_le.mpr h)

/-- A read takes the bytes in front. -/
@[simp] theorem Decoder.read_append (bytes rest : List UInt8) (b : ℕ) :
    Decoder.read bytes.length ⟨bytes ++ rest, b⟩ = .ok (bytes, ⟨rest, b⟩) := by
  simp [Decoder.read]

/-- What was read stood in front. -/
theorem Decoder.read_eq_ok {n : ℕ} {d d' : Decoder} {bytes : List UInt8}
    (h : d.read n = .ok (bytes, d')) :
    bytes.length = n ∧ d.input = bytes ++ d'.input ∧ d'.claimed = d.claimed := by
  unfold Decoder.read at h
  split at h
  · next hle =>
    cases h
    exact ⟨List.length_take_of_le hle, (List.take_append_drop n d.input).symm, rfl⟩
  · cases h

/-! ## Variable-width integers -/

/-- `SINGLE_BYTE_MAX` -/
def singleByteMax : ℕ := 250

/-- The bytes that follow a tag, for an integer of `width` bytes. -/
def payloadWidth (width : ℕ) (tag : UInt8) : Option ℕ :=
  if tag = 251 then some 2
  else if tag = 252 ∧ 4 ≤ width then some 4
  else if tag = 253 ∧ 8 ≤ width then some 8
  else none

/-- Write a number in as few bytes as its tag allows. -/
def writeVarint (n : ℕ) : List UInt8 :=
  if n ≤ singleByteMax then [UInt8.ofNat n]
  else if n < 256 ^ 2 then 251 :: leBytes 2 n
  else if n < 256 ^ 4 then 252 :: leBytes 4 n
  else 253 :: leBytes 8 n

/-- The number behind a tag, the tag itself when it is small. -/
def readTagged (width : ℕ) (tag : UInt8) (d : Decoder) : Except DecodeError (ℕ × Decoder) :=
  if tag.toNat ≤ singleByteMax then .ok (tag.toNat, d)
  else
    match payloadWidth width tag with
    | some w => do
        let (bytes, d) ← d.read w
        .ok (ofLeBytes bytes, d)
    | none => .error (.invalidIntegerType width tag)

/-- Read an integer of `width` bytes, in any of its spellings. -/
def readVarint (width : ℕ) (d : Decoder) : Except DecodeError (ℕ × Decoder) := do
  let (tag, d) ← d.read 1
  readTagged width (tag.headD 0) d

/-- The spellings of a number as an integer of `width` bytes: one byte, or a tag and as many bytes as
it says. The writer uses the shortest. -/
def SpellsVarint (width : ℕ) (bytes : List UInt8) (n : ℕ) : Prop :=
  (n ≤ singleByteMax ∧ bytes = [UInt8.ofNat n]) ∨
    ∃ tag w, payloadWidth width tag = some w ∧ n < 256 ^ w ∧ bytes = tag :: leBytes w n

/-- A tag that announces bytes announces no more than the width. -/
theorem payloadWidth_eq_some {width w : ℕ} {tag : UInt8} (hwidth : 2 ≤ width)
    (h : payloadWidth width tag = some w) : singleByteMax < tag.toNat ∧ w ≤ width := by
  unfold payloadWidth at h
  split at h
  · next htag => cases h; exact ⟨by rw [htag]; decide, hwidth⟩
  split at h
  · next htag => cases h; exact ⟨by rw [htag.1]; decide, htag.2⟩
  split at h
  · next htag => cases h; exact ⟨by rw [htag.1]; decide, htag.2⟩
  · cases h

/-- A number takes at least one byte. -/
theorem writeVarint_ne_nil (n : ℕ) : writeVarint n ≠ [] := by
  unfold writeVarint
  split_ifs <;> exact List.cons_ne_nil _ _

/-- What the writer produces spells the number. -/
theorem spellsVarint_writeVarint {width n : ℕ} (hwidth : width = 2 ∨ width = 4 ∨ width = 8)
    (hn : n < 256 ^ width) : SpellsVarint width (writeVarint n) n := by
  unfold writeVarint
  split
  · next h => exact Or.inl ⟨h, rfl⟩
  split
  · next h2 => exact Or.inr ⟨251, 2, rfl, h2, rfl⟩
  have h4 : 4 ≤ width := by
    rcases hwidth with rfl | rfl | rfl <;> omega
  split
  · next hlt => exact Or.inr ⟨252, 4, by simp [payloadWidth, h4], hlt, rfl⟩
  have h8 : width = 8 := by
    rcases hwidth with rfl | rfl | rfl <;> omega
  subst h8
  exact Or.inr ⟨253, 8, rfl, hn, rfl⟩

/-- A number is read from any of its spellings. -/
theorem readVarint_spelled {width n : ℕ} {bytes : List UInt8} (hwidth : 2 ≤ width)
    (h : SpellsVarint width bytes n) (rest : List UInt8) (b : ℕ) :
    readVarint width ⟨bytes ++ rest, b⟩ = .ok (n, ⟨rest, b⟩) := by
  rcases h with ⟨hn, rfl⟩ | ⟨tag, w, htag, hn, rfl⟩
  · have htoNat : (UInt8.ofNat n).toNat = n := by
      rw [UInt8.toNat_ofNat', Nat.mod_eq_of_lt (by unfold singleByteMax at hn; omega)]
    have hread := Decoder.read_append [UInt8.ofNat n] rest b
    rw [List.length_singleton] at hread
    simp only [readVarint, hread, ok_bind, List.headD_cons, readTagged, htoNat, hn, if_true]
  · obtain ⟨hbig, -⟩ := payloadWidth_eq_some hwidth htag
    have hread := Decoder.read_append [tag] (leBytes w n ++ rest) b
    have hpayload := Decoder.read_append (leBytes w n) rest b
    rw [List.length_singleton, List.singleton_append, ← List.cons_append] at hread
    rw [length_leBytes] at hpayload
    simp only [readVarint, hread, ok_bind, List.headD_cons, readTagged, Nat.not_le.mpr hbig, if_false,
      htag, hpayload, ofLeBytes_leBytes w n hn]

/-- What was read as a number was a spelling of it. -/
theorem spellsVarint_of_readVarint {width n : ℕ} {d d' : Decoder}
    (h : readVarint width d = .ok (n, d')) :
    ∃ bytes, SpellsVarint width bytes n ∧ d.input = bytes ++ d'.input ∧ d'.claimed = d.claimed := by
  obtain ⟨⟨head, d₁⟩, hread, h⟩ := bind_eq_ok.mp h
  obtain ⟨hlen, hinput, hclaimed⟩ := Decoder.read_eq_ok hread
  obtain ⟨tag, rfl⟩ := List.length_eq_one_iff.mp hlen
  simp only [List.headD_cons] at h
  rw [readTagged] at h
  by_cases hsmall : tag.toNat ≤ singleByteMax
  · rw [if_pos hsmall] at h
    cases h
    refine ⟨[tag], Or.inl ⟨hsmall, ?_⟩, hinput, hclaimed⟩
    rw [UInt8.ofNat_toNat]
  rw [if_neg hsmall] at h
  cases htag : payloadWidth width tag with
  | none => simp only [htag, reduceCtorEq] at h
  | some w =>
    simp only [htag] at h
    obtain ⟨⟨bytes, d₂⟩, hread₂, h⟩ := bind_eq_ok.mp h
    cases h
    obtain ⟨hlen₂, hinput₂, hclaimed₂⟩ := Decoder.read_eq_ok hread₂
    refine ⟨tag :: bytes, Or.inr ⟨tag, w, htag, ?_, ?_⟩, ?_, hclaimed₂.trans hclaimed⟩
    · exact hlen₂ ▸ ofLeBytes_lt bytes
    · rw [← hlen₂, leBytes_ofLeBytes]
    · rw [hinput, hinput₂]
      simp

/-! ## Codecs -/

/-- An encoder and a limited decoder of one type. -/
structure Codec (α : Type) where
  encode : α → List UInt8
  decode : (limit : ℕ) → Decoder → Except DecodeError (α × Decoder)
  /-- the byte strings that stand for a value -/
  Spells : List UInt8 → α → Prop
  /-- the bytes a decoded value leaves claimed -/
  net : α → ℕ
  /-- the most bytes claimed at once while the value is decoded -/
  peak : α → ℕ
  net_le_peak : ∀ a, net a ≤ peak a
  encode_ne_nil : ∀ a, encode a ≠ []
  spells_encode : ∀ a, (encode a).length < 256 ^ 8 → Spells (encode a) a
  decode_spelled : ∀ {bytes a}, Spells bytes a → ∀ limit rest b, b ≤ limit →
    decode limit ⟨bytes ++ rest, b⟩ =
      if b + peak a ≤ limit then .ok (a, ⟨rest, b + net a⟩) else .error .limitExceeded
  spells_of_decode : ∀ {limit d a d'}, decode limit d = .ok (a, d') → d.claimed ≤ limit →
    ∃ bytes, Spells bytes a ∧ d.input = bytes ++ d'.input

variable {α β : Type}

namespace Codec

/-- **A decoder accepts exactly the spelled strings whose peak is within the limit.** -/
theorem decode_eq_ok_iff (c : Codec α) {limit b : ℕ} (hb : b ≤ limit) {input : List UInt8} {a : α}
    {d' : Decoder} :
    c.decode limit ⟨input, b⟩ = .ok (a, d') ↔
      ∃ bytes, c.Spells bytes a ∧ input = bytes ++ d'.input ∧ b + c.peak a ≤ limit ∧
        d'.claimed = b + c.net a := by
  constructor
  · intro h
    obtain ⟨bytes, hspells, hinput⟩ := c.spells_of_decode h hb
    simp only at hinput
    rw [hinput, c.decode_spelled hspells limit d'.input b hb] at h
    split at h
    · next hle =>
      have hd : (⟨d'.input, b + c.net a⟩ : Decoder) = d' := (Prod.mk.inj (Except.ok.inj h)).2
      exact ⟨bytes, hspells, hinput, hle, by rw [← hd]⟩
    · cases h
  · rintro ⟨bytes, hspells, rfl, hle, hd⟩
    rw [c.decode_spelled hspells limit d'.input b hb, if_pos hle, ← hd]

/-- A string has at most one spelled prefix, and it spells one value. -/
theorem Spells.unique (c : Codec α) {bytes bytes' rest rest' : List UInt8} {a a' : α}
    (h : c.Spells bytes a) (h' : c.Spells bytes' a') (heq : bytes ++ rest = bytes' ++ rest') :
    bytes = bytes' ∧ a = a' := by
  have hdecode := c.decode_spelled h (c.peak a + c.peak a') rest 0 (Nat.zero_le _)
  rw [heq, c.decode_spelled h' _ rest' 0 (Nat.zero_le _), if_pos (by omega), if_pos (by omega)]
    at hdecode
  have hpair := Prod.mk.inj (Except.ok.inj hdecode)
  have hrest : rest' = rest := (Decoder.mk.inj hpair.2).1
  rw [hrest] at heq
  exact ⟨List.append_cancel_right heq, hpair.1.symm⟩

/-! ### Primitives -/

end Codec

/-- A type of the numbers of `width` bytes. -/
structure Word (α : Type) where
  width : ℕ
  toNat : α → ℕ
  ofNat : ℕ → α
  toNat_lt : ∀ a, toNat a < 256 ^ width
  ofNat_toNat : ∀ a, ofNat (toNat a) = a
  toNat_ofNat : ∀ n, n < 256 ^ width → toNat (ofNat n) = n

def Word.u8 : Word UInt8 := ⟨1, UInt8.toNat, UInt8.ofNat, UInt8.toNat_lt, fun _ => UInt8.ofNat_toNat,
  fun _ h => UInt8.toNat_ofNat_of_lt' h⟩

def Word.u16 : Word UInt16 := ⟨2, UInt16.toNat, UInt16.ofNat, UInt16.toNat_lt,
  fun _ => UInt16.ofNat_toNat, fun _ h => UInt16.toNat_ofNat_of_lt' h⟩

def Word.u32 : Word UInt32 := ⟨4, UInt32.toNat, UInt32.ofNat, UInt32.toNat_lt,
  fun _ => UInt32.ofNat_toNat, fun _ h => UInt32.toNat_ofNat_of_lt' h⟩

def Word.u64 : Word UInt64 := ⟨8, UInt64.toNat, UInt64.ofNat, UInt64.toNat_lt,
  fun _ => UInt64.ofNat_toNat, fun _ h => UInt64.toNat_ofNat_of_lt' h⟩

def Word.f32 : Word F32 := ⟨4, fun x => x.bits.toNat, fun n => ⟨UInt32.ofNat n⟩,
  fun x => x.bits.toNat_lt, fun x => by cases x; simp, fun _ h => UInt32.toNat_ofNat_of_lt' h⟩

def Word.f64 : Word F64 := ⟨8, fun x => x.bits.toNat, fun n => ⟨UInt64.ofNat n⟩,
  fun x => x.bits.toNat_lt, fun x => by cases x; simp, fun _ h => UInt64.toNat_ofNat_of_lt' h⟩

namespace Codec

/-- A number in all its bytes. -/
def fixed (W : Word α) (hwidth : 0 < W.width) : Codec α where
  encode a := leBytes W.width (W.toNat a)
  decode limit d := do
    let d ← d.claim limit W.width
    let (bytes, d) ← d.read W.width
    .ok (W.ofNat (ofLeBytes bytes), d)
  Spells bytes a := bytes = leBytes W.width (W.toNat a)
  net _ := W.width
  peak _ := W.width
  net_le_peak _ := le_rfl
  encode_ne_nil a := List.ne_nil_of_length_pos (by rwa [length_leBytes])
  spells_encode _ _ := rfl
  decode_spelled := by
    rintro bytes a rfl limit rest b -
    split
    · next hle =>
      have hread := Decoder.read_append (leBytes W.width (W.toNat a)) rest (b + W.width)
      rw [length_leBytes] at hread
      simp only [Decoder.claim_of_le hle, ok_bind, hread, ofLeBytes_leBytes _ _ (W.toNat_lt a),
        W.ofNat_toNat]
    · next hlt => rw [Decoder.claim_of_lt (Nat.not_le.mp hlt), error_bind]
  spells_of_decode := by
    intro limit d a d' h _
    obtain ⟨d₁, hclaim, h⟩ := bind_eq_ok.mp h
    obtain ⟨-, rfl⟩ := Decoder.claim_eq_ok hclaim
    obtain ⟨⟨bytes, d₂⟩, hread, h⟩ := bind_eq_ok.mp h
    cases h
    obtain ⟨hlen, hinput, -⟩ := Decoder.read_eq_ok hread
    refine ⟨bytes, ?_, hinput⟩
    rw [W.toNat_ofNat _ (hlen ▸ ofLeBytes_lt bytes), ← hlen, leBytes_ofLeBytes]

/-- A number in variable width. -/
def varint (W : Word α) (hwidth : W.width = 2 ∨ W.width = 4 ∨ W.width = 8) : Codec α where
  encode a := writeVarint (W.toNat a)
  decode limit d := do
    let d ← d.claim limit W.width
    let (n, d) ← readVarint W.width d
    .ok (W.ofNat n, d)
  Spells bytes a := SpellsVarint W.width bytes (W.toNat a)
  net _ := W.width
  peak _ := W.width
  net_le_peak _ := le_rfl
  encode_ne_nil a := writeVarint_ne_nil _
  spells_encode a _ := spellsVarint_writeVarint hwidth (W.toNat_lt a)
  decode_spelled := by
    intro bytes a h limit rest b _
    split
    · next hle =>
      simp only [Decoder.claim_of_le hle, ok_bind, readVarint_spelled (show 2 ≤ W.width by omega) h,
        W.ofNat_toNat]
    · next hlt => rw [Decoder.claim_of_lt (Nat.not_le.mp hlt), error_bind]
  spells_of_decode := by
    intro limit d a d' h _
    obtain ⟨d₁, hclaim, h⟩ := bind_eq_ok.mp h
    obtain ⟨-, rfl⟩ := Decoder.claim_eq_ok hclaim
    obtain ⟨⟨n, d₂⟩, hread, h⟩ := bind_eq_ok.mp h
    cases h
    obtain ⟨bytes, hspells, hinput, -⟩ := spellsVarint_of_readVarint hread
    refine ⟨bytes, ?_, hinput⟩
    have hn : n < 256 ^ W.width := by
      rcases hspells with ⟨hsmall, -⟩ | ⟨tag, w, htag, hlt, -⟩
      · have hpow : 256 ^ 1 ≤ 256 ^ W.width := Nat.pow_le_pow_right (by decide) (by omega)
        unfold singleByteMax at hsmall
        omega
      · exact hlt.trans_le (Nat.pow_le_pow_right (by decide)
          (payloadWidth_eq_some (by omega) htag).2)
    rwa [W.toNat_ofNat n hn]

def u8 : Codec UInt8 := fixed .u8 (by decide)
def u16 : Codec UInt16 := varint .u16 (by decide)
def u32 : Codec UInt32 := varint .u32 (by decide)
def u64 : Codec UInt64 := varint .u64 (by decide)
def f32 : Codec F32 := fixed .f32 (by decide)
def f64 : Codec F64 := fixed .f64 (by decide)

end Codec

end Bincode
