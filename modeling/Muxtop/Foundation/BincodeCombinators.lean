import Muxtop.Foundation.Bincode

/-!
# Composite bincode codecs

Structures are tuples of their fields, enumerations without data are the index of the variant, and a
string is the sequence of its UTF-8 bytes. Each combinator says how `net` and `peak` compose; only
sequences claim more than they keep.
-/

namespace Bincode

variable {α β : Type}

namespace Codec

/-! ## Conversions -/

/-- Decode an `α` and convert it, which fails except on the images of `inv`. -/
def refine (c : Codec α) (convert : α → Except DecodeError β) (inv : β → α)
    (hconvert : ∀ a b, convert a = .ok b ↔ a = inv b) : Codec β where
  encode b := c.encode (inv b)
  decode limit d := do
    let (a, d) ← c.decode limit d
    let b ← convert a
    .ok (b, d)
  Spells bytes b := c.Spells bytes (inv b)
  net b := c.net (inv b)
  peak b := c.peak (inv b)
  net_le_peak b := c.net_le_peak (inv b)
  encode_ne_nil b := c.encode_ne_nil (inv b)
  spells_encode b := c.spells_encode (inv b)
  decode_spelled := by
    intro bytes b h limit rest n hn
    have hb : convert (inv b) = .ok b := (hconvert _ _).mpr rfl
    rw [c.decode_spelled h limit rest n hn]
    split
    · simp only [ok_bind, hb]
    · rfl
  spells_of_decode := by
    intro limit d b d' h hd
    obtain ⟨⟨a, d₁⟩, hdecode, h⟩ := bind_eq_ok.mp h
    obtain ⟨b', hb, h⟩ := bind_eq_ok.mp h
    cases h
    obtain rfl : a = inv b := (hconvert _ _).mp hb
    exact c.spells_of_decode hdecode hd

/-- Decode the fields of a structure and build it. -/
def struct (c : Codec α) (mk : α → β) (fields : β → α) (hfields : ∀ a, fields (mk a) = a)
    (hmk : ∀ b, mk (fields b) = b) : Codec β :=
  c.refine (fun a => .ok (mk a)) fields fun a b => by
    rw [Except.ok.injEq]
    exact ⟨fun h => by rw [← h, hfields], fun h => by rw [h, hmk]⟩

/-- A boolean is the byte 0 or 1. -/
def bool : Codec Bool :=
  u8.refine (fun b => if b = 0 then .ok false else if b = 1 then .ok true
      else .error (.invalidBooleanValue b))
    (fun b => if b then 1 else 0) fun a b => by
      by_cases h0 : a = 0
      · cases b <;> simp [h0]
      by_cases h1 : a = 1
      · cases b <;> simp [h1]
      · cases b <;> simp [h0, h1]

/-- An enumeration without data is the index of its variant. -/
def variants [DecidableEq α] (all : List α) (hmem : ∀ a, a ∈ all) (hnodup : all.Nodup)
    (hlength : all.length < 256 ^ 4) : Codec α :=
  u32.refine
    (fun i => match all[i.toNat]? with
      | some a => .ok a
      | none => .error (.unexpectedVariant i.toNat (all.length - 1)))
    (fun a => UInt32.ofNat (all.idxOf a)) fun i a => by
      have hidx : all.idxOf a < all.length := List.idxOf_lt_length_of_mem (hmem a)
      have hsome : all[i.toNat]? = some a ↔ i = UInt32.ofNat (all.idxOf a) := by
        rw [← UInt32.toNat_inj, UInt32.toNat_ofNat_of_lt' (by exact hidx.trans hlength)]
        constructor
        · intro h
          obtain ⟨hi, rfl⟩ := List.getElem?_eq_some_iff.mp h
          exact (hnodup.idxOf_getElem _ hi).symm
        · intro h
          rw [h]
          exact List.getElem?_idxOf (hmem a)
      rw [← hsome]
      cases all[i.toNat]? with
      | none => simp
      | some b => simp

/-! ## Products and options -/

/-- Decoding a spelled value and going on: what the continuation claims comes on top of what the
value keeps. -/
theorem bind_spelled (c : Codec α) {bytes : List UInt8} {a : α} (h : c.Spells bytes a)
    {limit n : ℕ} (hn : n ≤ limit) {rest rest' : List UInt8} {x : β} {p q : ℕ}
    {next : α × Decoder → Except DecodeError (β × Decoder)}
    (hnext : n + c.net a ≤ limit → next (a, ⟨rest, n + c.net a⟩) =
      if n + c.net a + p ≤ limit then .ok (x, ⟨rest', n + c.net a + q⟩)
      else .error .limitExceeded) :
    (c.decode limit ⟨bytes ++ rest, n⟩ >>= next) =
      if n + max (c.peak a) (c.net a + p) ≤ limit then .ok (x, ⟨rest', n + (c.net a + q)⟩)
      else .error .limitExceeded := by
  have hnet := c.net_le_peak a
  rw [c.decode_spelled h limit rest n hn]
  by_cases hle : n + c.peak a ≤ limit
  · rw [if_pos hle, ok_bind, hnext (by omega), Nat.add_assoc n _ q]
    by_cases hle' : n + c.net a + p ≤ limit
    · rw [if_pos hle', if_pos (by omega)]
    · rw [if_neg hle', if_neg (by omega)]
  · rw [if_neg hle, if_neg (by omega), error_bind]

/-- Two fields, one after the other. -/
def pair (c₁ : Codec α) (c₂ : Codec β) : Codec (α × β) where
  encode x := c₁.encode x.1 ++ c₂.encode x.2
  decode limit d := do
    let (a, d) ← c₁.decode limit d
    let (b, d) ← c₂.decode limit d
    .ok ((a, b), d)
  Spells bytes x := ∃ bytes₁ bytes₂, bytes = bytes₁ ++ bytes₂ ∧ c₁.Spells bytes₁ x.1 ∧
    c₂.Spells bytes₂ x.2
  net x := c₁.net x.1 + c₂.net x.2
  peak x := max (c₁.peak x.1) (c₁.net x.1 + c₂.peak x.2)
  net_le_peak x := le_max_of_le_right (Nat.add_le_add_left (c₂.net_le_peak x.2) _)
  encode_ne_nil x h := c₁.encode_ne_nil x.1 (List.append_eq_nil_iff.mp h).1
  spells_encode x h := by
    rw [List.length_append] at h
    exact ⟨_, _, rfl, c₁.spells_encode x.1 (by omega), c₂.spells_encode x.2 (by omega)⟩
  decode_spelled := by
    rintro bytes ⟨a, b⟩ ⟨bytes₁, bytes₂, rfl, h₁, h₂⟩ limit rest n hn
    rw [List.append_assoc]
    refine c₁.bind_spelled h₁ hn fun hle => ?_
    simp only [c₂.decode_spelled h₂ limit rest _ hle]
    split
    · rfl
    · rfl
  spells_of_decode := by
    intro limit d x d' h hd
    obtain ⟨⟨a, d₁⟩, hdecode₁, h⟩ := bind_eq_ok.mp h
    obtain ⟨⟨b, d₂⟩, hdecode₂, h⟩ := bind_eq_ok.mp h
    cases h
    obtain ⟨bytes₁, h₁, hinput₁, hle₁, hclaimed₁⟩ := (c₁.decode_eq_ok_iff hd).mp hdecode₁
    have hnet := c₁.net_le_peak a
    obtain ⟨bytes₂, h₂, hinput₂⟩ := c₂.spells_of_decode hdecode₂ (by omega)
    exact ⟨bytes₁ ++ bytes₂, ⟨_, _, rfl, h₁, h₂⟩, by rw [hinput₁, hinput₂, List.append_assoc]⟩

/-- The tag byte of an optional value, and the value. -/
def option (c : Codec α) : Codec (Option α) where
  encode
    | none => u8.encode 0
    | some a => u8.encode 1 ++ c.encode a
  decode limit d := do
    let (tag, d) ← u8.decode limit d
    if tag = 0 then .ok (none, d)
    else if tag = 1 then do
      let (a, d) ← c.decode limit d
      .ok (some a, d)
    else .error (.unexpectedVariant tag.toNat 1)
  Spells
    | bytes, none => u8.Spells bytes 0
    | bytes, some a => (u8.pair c).Spells bytes (1, a)
  net
    | none => u8.net 0
    | some a => (u8.pair c).net (1, a)
  peak
    | none => u8.peak 0
    | some a => (u8.pair c).peak (1, a)
  net_le_peak
    | none => u8.net_le_peak 0
    | some a => (u8.pair c).net_le_peak (1, a)
  encode_ne_nil
    | none => u8.encode_ne_nil 0
    | some a => (u8.pair c).encode_ne_nil (1, a)
  spells_encode
    | none => u8.spells_encode 0
    | some a => (u8.pair c).spells_encode (1, a)
  decode_spelled := by
    rintro bytes (_ | a) h limit rest n hn
    · rw [u8.decode_spelled h limit rest n hn]
      split
      · rfl
      · rfl
    · obtain ⟨bytes₁, bytes₂, rfl, h₁, h₂⟩ := h
      rw [List.append_assoc]
      refine u8.bind_spelled h₁ hn fun hle => ?_
      have h10 : ¬(1 : UInt8) = 0 := by decide
      simp only [h10, if_false, if_true, c.decode_spelled h₂ limit rest _ hle]
      split
      · rfl
      · rfl
  spells_of_decode := by
    intro limit d x d' h hd
    obtain ⟨⟨tag, d₁⟩, htag, h⟩ := bind_eq_ok.mp h
    obtain ⟨bytes₁, h₁, hinput₁, hle₁, hclaimed₁⟩ := (u8.decode_eq_ok_iff hd).mp htag
    have hnet := u8.net_le_peak tag
    dsimp only at h
    split at h
    · next h0 =>
      cases h
      exact ⟨bytes₁, h0 ▸ h₁, hinput₁⟩
    split at h
    · next h1 =>
      obtain ⟨⟨a, d₂⟩, hdecode, h⟩ := bind_eq_ok.mp h
      cases h
      obtain ⟨bytes₂, h₂, hinput₂⟩ := c.spells_of_decode hdecode (by omega)
      exact ⟨bytes₁ ++ bytes₂, ⟨_, _, rfl, h1 ▸ h₁, h₂⟩,
        by rw [hinput₁, hinput₂, List.append_assoc]⟩
    · cases h

/-! ## Byte strings and text -/

/-- A byte vector: its length, claimed at once, and its bytes. -/
def bytes : Codec (List UInt8) where
  encode l := writeVarint l.length ++ l
  decode limit d := do
    let (len, d) ← u64.decode limit d
    let d ← d.claim limit len.toNat
    d.read len.toNat
  Spells bs l := ∃ (len : UInt64) (head : List UInt8), len.toNat = l.length ∧ u64.Spells head len ∧
    bs = head ++ l
  net l := 8 + l.length
  peak l := 8 + l.length
  net_le_peak _ := le_rfl
  encode_ne_nil l h := writeVarint_ne_nil _ (List.append_eq_nil_iff.mp h).1
  spells_encode l h := by
    have hlen : l.length < 256 ^ 8 := by
      rw [List.length_append] at h
      omega
    refine ⟨UInt64.ofNat l.length, _, UInt64.toNat_ofNat_of_lt' hlen, ?_, rfl⟩
    show SpellsVarint 8 _ (UInt64.ofNat l.length).toNat
    rw [UInt64.toNat_ofNat_of_lt' hlen]
    exact spellsVarint_writeVarint (by decide) hlen
  decode_spelled := by
    rintro bs l ⟨len, head, hlen, h, rfl⟩ limit rest n hn
    have hmax : n + (8 + l.length) ≤ limit ↔
        n + max (u64.peak len) (u64.net len + l.length) ≤ limit := by
      show _ ↔ n + max 8 (8 + l.length) ≤ limit
      omega
    rw [List.append_assoc, if_congr hmax rfl rfl]
    refine u64.bind_spelled h hn fun hle => ?_
    simp only [hlen]
    split
    · next hclaim => simp only [Decoder.claim_of_le hclaim, ok_bind, Decoder.read_append]
    · next hclaim => simp only [Decoder.claim_of_lt (Nat.not_le.mp hclaim), error_bind]
  spells_of_decode := by
    intro limit d l d' h hd
    obtain ⟨⟨len, d₁⟩, hdecode, h⟩ := bind_eq_ok.mp h
    obtain ⟨d₂, hclaim, h⟩ := bind_eq_ok.mp h
    obtain ⟨-, rfl⟩ := Decoder.claim_eq_ok hclaim
    obtain ⟨hlen, hinput, -⟩ := Decoder.read_eq_ok h
    obtain ⟨head, hspells, hinput₁⟩ := u64.spells_of_decode hdecode hd
    refine ⟨head ++ l, ⟨len, head, hlen.symm, hspells, rfl⟩, ?_⟩
    rw [hinput₁, List.append_assoc]
    exact congrArg _ hinput

/-- The UTF-8 bytes of a string. -/
def utf8 (s : String) : List UInt8 := s.toByteArray.data.toList

/-- `String::from_utf8` -/
def fromUtf8 (l : List UInt8) : Except DecodeError String :=
  if h : l.toByteArray.IsValidUTF8 then .ok ⟨l.toByteArray, h⟩ else .error .utf8

/-- Bytes are a text when they are the text's bytes. -/
theorem fromUtf8_eq_ok {l : List UInt8} {s : String} : fromUtf8 l = .ok s ↔ l = utf8 s := by
  have hround : (utf8 s).toByteArray = s.toByteArray := ByteArray.ext (by simp [utf8])
  unfold fromUtf8
  constructor
  · intro h
    split at h
    · cases h
      simp [utf8]
    · cases h
  · rintro rfl
    rw [dif_pos (hround ▸ s.isValidUTF8)]
    exact congrArg _ (String.toByteArray_inj.mp hround)

/-- A string is the vector of its UTF-8 bytes. -/
def string : Codec String := bytes.refine fromUtf8 utf8 fun _ _ => fromUtf8_eq_ok

/-! ## Sequences -/

section Vec

variable (c : Codec α) (size : ℕ)

/-- Decode `count` elements, giving back the size of each before it is decoded. -/
def decodeElems (limit : ℕ) : (count : ℕ) → Decoder → Except DecodeError (List α × Decoder)
  | 0, d => .ok ([], d)
  | count + 1, d => do
      let (a, d) ← c.decode limit (d.unclaim size)
      let (as, d) ← decodeElems limit count d
      .ok (a :: as, d)

/-- The elements one after the other. -/
def SpellsElems : List UInt8 → List α → Prop
  | bs, [] => bs = []
  | bs, a :: as => ∃ bs₁ bs₂, bs = bs₁ ++ bs₂ ∧ c.Spells bs₁ a ∧ SpellsElems bs₂ as

/-- What the elements leave claimed. -/
def netElems (as : List α) : ℕ := (as.map c.net).sum

/-- The most that is claimed while the elements are decoded: an element is decoded on top of what
its predecessors keep and of the sizes still claimed for its successors. -/
def peakElems : List α → ℕ
  | [] => 0
  | a :: as => max (as.length * size + c.peak a) (c.net a + peakElems as)

/-- Elements hold on to no more than they claim. -/
theorem netElems_le_peakElems : (as : List α) → c.netElems as ≤ c.peakElems size as
  | [] => le_rfl
  | a :: as => by
      have ih := netElems_le_peakElems as
      simp only [netElems, List.map_cons, List.sum_cons, peakElems] at ih ⊢
      omega

/-- Elements are spelled one after the other. -/
theorem spellsElems_flatMap : (as : List α) → (as.flatMap c.encode).length < 256 ^ 8 →
    c.SpellsElems (as.flatMap c.encode) as
  | [], _ => rfl
  | a :: as, h => by
      rw [List.flatMap_cons, List.length_append] at h
      exact ⟨_, _, rfl, c.spells_encode a (by omega), spellsElems_flatMap as (by omega)⟩

/-- No element is encoded as nothing. -/
theorem length_le_flatMap : (as : List α) → as.length ≤ (as.flatMap c.encode).length
  | [] => le_rfl
  | a :: as => by
      have ih := length_le_flatMap as
      have ha := List.length_pos_of_ne_nil (c.encode_ne_nil a)
      rw [List.flatMap_cons, List.length_append, List.length_cons]
      omega

/-- Decoding spelled elements on top of `n` claimed bytes and the sizes of all of them. -/
theorem decodeElems_spelled (limit : ℕ) (rest : List UInt8) : (as : List α) → (bs : List UInt8) →
    c.SpellsElems bs as → (n : ℕ) → n + as.length * size ≤ limit →
    c.decodeElems size limit as.length ⟨bs ++ rest, n + as.length * size⟩ =
      if n + c.peakElems size as ≤ limit then .ok (as, ⟨rest, n + c.netElems as⟩)
      else .error .limitExceeded
  | [], bs, h, n, hn => by
      obtain rfl : bs = [] := h
      simp only [List.length_nil, Nat.zero_mul, Nat.add_zero] at hn
      simp [decodeElems, peakElems, netElems, hn]
  | a :: as, bs, ⟨bs₁, bs₂, hbs, h₁, h₂⟩, n, hn => by
      have hnet := c.net_le_peak a
      have hlen : (a :: as).length * size = as.length * size + size := by
        rw [List.length_cons, Nat.succ_mul]
      have hunclaim : Decoder.unclaim size ⟨bs ++ rest, n + (a :: as).length * size⟩ =
          ⟨bs₁ ++ (bs₂ ++ rest), n + as.length * size⟩ := by
        have hsub : n + (as.length * size + size) - size = n + as.length * size := by omega
        simp only [Decoder.unclaim, hlen, hbs, List.append_assoc, hsub]
      rw [List.length_cons, decodeElems, ← List.length_cons (a := a), hunclaim,
        c.decode_spelled h₁ limit _ _ (by omega), peakElems]
      by_cases hle : n + as.length * size + c.peak a ≤ limit
      · have hswap : n + as.length * size + c.net a = n + c.net a + as.length * size := by omega
        rw [if_pos hle, ok_bind]
        simp only [hswap, decodeElems_spelled limit rest as bs₂ h₂ (n + c.net a) (by omega)]
        by_cases hle' : n + c.net a + c.peakElems size as ≤ limit
        · rw [if_pos hle', if_pos (by omega), ok_bind]
          simp only [netElems, List.map_cons, List.sum_cons, Nat.add_assoc]
        · rw [if_neg hle', if_neg (by omega), error_bind]
      · rw [if_neg hle, if_neg (by omega), error_bind]

/-- What was read as elements was spelled so. -/
theorem spellsElems_of_decodeElems (limit : ℕ) : (count : ℕ) → (d : Decoder) → (as : List α) →
    (d' : Decoder) → c.decodeElems size limit count d = .ok (as, d') → d.claimed ≤ limit →
    as.length = count ∧ ∃ bs, c.SpellsElems bs as ∧ d.input = bs ++ d'.input
  | 0, d, as, d', h, hd => by
      cases h
      exact ⟨rfl, [], rfl, rfl⟩
  | count + 1, d, as, d', h, hd => by
      obtain ⟨⟨a, d₁⟩, hdecode, h⟩ := bind_eq_ok.mp h
      obtain ⟨⟨as', d₂⟩, hrest, h⟩ := bind_eq_ok.mp h
      cases h
      have hunclaim : (d.unclaim size).claimed ≤ limit := (Nat.sub_le _ _).trans hd
      obtain ⟨bs₁, h₁, hinput₁, hle₁, hclaimed₁⟩ := (c.decode_eq_ok_iff hunclaim).mp hdecode
      have hnet := c.net_le_peak a
      obtain ⟨hlen, bs₂, h₂, hinput₂⟩ :=
        spellsElems_of_decodeElems limit count d₁ as' d' hrest (by omega)
      refine ⟨by rw [List.length_cons, hlen], bs₁ ++ bs₂, ⟨bs₁, bs₂, rfl, h₁, h₂⟩, ?_⟩
      rw [List.append_assoc, ← hinput₂, ← hinput₁]

/-- A vector of elements of `size` bytes in memory: its length, `len * size` claimed at once, and the
elements. -/
def vec : Codec (List α) where
  encode as := writeVarint as.length ++ as.flatMap c.encode
  decode limit d := do
    let (len, d) ← u64.decode limit d
    let d ← d.claim limit (len.toNat * size)
    c.decodeElems size limit len.toNat d
  Spells bs as := ∃ (len : UInt64) (head body : List UInt8), len.toNat = as.length ∧
    u64.Spells head len ∧ c.SpellsElems body as ∧ bs = head ++ body
  net as := 8 + c.netElems as
  peak as := 8 + max (as.length * size) (c.peakElems size as)
  net_le_peak as := by
    have h := c.netElems_le_peakElems size as
    omega
  encode_ne_nil as h := writeVarint_ne_nil _ (List.append_eq_nil_iff.mp h).1
  spells_encode as h := by
    have hcount := c.length_le_flatMap as
    rw [List.length_append] at h
    have hlen : as.length < 256 ^ 8 := by omega
    refine ⟨UInt64.ofNat as.length, _, _, UInt64.toNat_ofNat_of_lt' hlen, ?_,
      c.spellsElems_flatMap as (by omega), rfl⟩
    show SpellsVarint 8 _ (UInt64.ofNat as.length).toNat
    rw [UInt64.toNat_ofNat_of_lt' hlen]
    exact spellsVarint_writeVarint (by decide) hlen
  decode_spelled := by
    rintro bs as ⟨len, head, body, hlen, h, hbody, rfl⟩ limit rest n hn
    have hmax : n + (8 + max (as.length * size) (c.peakElems size as)) ≤ limit ↔
        n + max (u64.peak len) (u64.net len + max (as.length * size) (c.peakElems size as)) ≤
          limit := by
      show _ ↔ n + max 8 (8 + max (as.length * size) (c.peakElems size as)) ≤ limit
      omega
    rw [List.append_assoc, if_congr hmax rfl rfl]
    refine u64.bind_spelled h hn fun hle => ?_
    simp only [hlen]
    by_cases hclaim : n + u64.net len + as.length * size ≤ limit
    · simp only [Decoder.claim_of_le hclaim, ok_bind,
        c.decodeElems_spelled size limit rest as body hbody _ hclaim]
      by_cases hle' : n + u64.net len + c.peakElems size as ≤ limit
      · rw [if_pos hle', if_pos (by omega)]
      · rw [if_neg hle', if_neg (by omega)]
    · simp only [Decoder.claim_of_lt (Nat.not_le.mp hclaim), error_bind]
      rw [if_neg (by omega)]
  spells_of_decode := by
    intro limit d as d' h hd
    obtain ⟨⟨len, d₁⟩, hdecode, h⟩ := bind_eq_ok.mp h
    obtain ⟨d₂, hclaim, h⟩ := bind_eq_ok.mp h
    obtain ⟨hle, rfl⟩ := Decoder.claim_eq_ok hclaim
    obtain ⟨head, hspells, hinput₁⟩ := u64.spells_of_decode hdecode hd
    obtain ⟨hlen, body, hbody, hinput₂⟩ :=
      c.spellsElems_of_decodeElems size limit _ _ as d' h hle
    refine ⟨head ++ body, ⟨len, head, body, hlen.symm, hspells, hbody, rfl⟩, ?_⟩
    rw [hinput₁, List.append_assoc]
    exact congrArg _ hinput₂

end Vec

/-! ## Whole buffers -/

/-- `encode_to_vec` -/
def encodeToVec (c : Codec α) (a : α) : Except EncodeError (List UInt8) := .ok (c.encode a)

/-- `decode_from_slice`: the value at the front of the slice, and how many bytes it took. -/
def decodeFromSlice (c : Codec α) (limit : ℕ) (slice : List UInt8) : Except DecodeError (α × ℕ) := do
  let (a, d) ← c.decode limit ⟨slice, 0⟩
  .ok (a, slice.length - d.input.length)

/-- A spelling is decoded, whatever follows it, as long as its claims are within the limit. -/
theorem decodeFromSlice_spelled (c : Codec α) {bs : List UInt8} {a : α} (h : c.Spells bs a)
    (limit : ℕ) (rest : List UInt8) :
    c.decodeFromSlice limit (bs ++ rest) =
      if c.peak a ≤ limit then .ok (a, bs.length) else .error .limitExceeded := by
  simp only [decodeFromSlice, c.decode_spelled h limit rest 0 (Nat.zero_le _), Nat.zero_add]
  split
  · simp only [ok_bind, List.length_append, Nat.add_sub_cancel]
  · rfl

/-- And nothing else is. -/
theorem decodeFromSlice_eq_ok_iff (c : Codec α) {limit n : ℕ} {slice : List UInt8} {a : α} :
    c.decodeFromSlice limit slice = .ok (a, n) ↔
      ∃ bs rest, c.Spells bs a ∧ slice = bs ++ rest ∧ bs.length = n ∧ c.peak a ≤ limit := by
  constructor
  · intro h
    obtain ⟨⟨a', d⟩, hdecode, -⟩ := bind_eq_ok.mp h
    obtain ⟨bs, hspells, hslice, hle, -⟩ := (c.decode_eq_ok_iff (Nat.zero_le _)).mp hdecode
    rw [Nat.zero_add] at hle
    rw [hslice, c.decodeFromSlice_spelled hspells, if_pos hle] at h
    cases h
    exact ⟨bs, d.input, hspells, hslice, rfl, hle⟩
  · rintro ⟨bs, rest, hspells, rfl, rfl, hle⟩
    rw [c.decodeFromSlice_spelled hspells, if_pos hle]

end Codec

end Bincode
