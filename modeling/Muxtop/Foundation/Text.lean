import Mathlib.Data.List.Infix

/-!
# Text functions of the Rust standard library

Trimming, affixes, searching, joining, lower case and the parsing of unsigned integers, on strings; and
texts over an alphabet.
-/

namespace Text

/-- The Unicode property `White_Space`, which `str::trim` goes by. -/
def isWhitespace (c : Char) : Bool :=
  (9 ≤ c.toNat && c.toNat ≤ 13) || c.toNat == 0x20 || c.toNat == 0x85 || c.toNat == 0xA0 ||
    c.toNat == 0x1680 || (0x2000 ≤ c.toNat && c.toNat ≤ 0x200A) || c.toNat == 0x2028 ||
    c.toNat == 0x2029 || c.toNat == 0x202F || c.toNat == 0x205F || c.toNat == 0x3000

/-- `str::trim`. -/
def trim (s : String) : String :=
  String.ofList ((s.toList.dropWhile isWhitespace).reverse.dropWhile isWhitespace).reverse

/-- `str::strip_prefix`. -/
def stripPrefix (s affix : String) : Option String :=
  (affix.toList.isPrefixOf? s.toList).map String.ofList

/-- `str::strip_suffix`. -/
def stripSuffix (s affix : String) : Option String :=
  (affix.toList.isSuffixOf? s.toList).map String.ofList

/-- The number that ASCII digits spell. -/
def ofDigits (digits : List Char) : Nat :=
  digits.foldl (fun n c => 10 * n + (c.toNat - '0'.toNat)) 0

/-- `str::parse` at an unsigned type of `size` values: digits, after a plus sign or not. -/
def parseUnsigned (size : Nat) (s : String) : Option Nat :=
  let digits := match s.toList with
    | '+' :: rest => rest
    | cs => cs
  if digits ≠ [] ∧ digits.all Char.isDigit ∧ ofDigits digits < size then some (ofDigits digits)
  else none

def parseU32 (s : String) : Option UInt32 := (parseUnsigned UInt32.size s).map UInt32.ofNat
def parseU64 (s : String) : Option UInt64 := (parseUnsigned UInt64.size s).map UInt64.ofNat

example : parseU32 "+042" = some 42 := by decide
example : parseU32 "4294967296" = none := by decide

/-! ## Searching -/

/-- `str::contains` -/
def contains (s pattern : String) : Bool := decide (pattern.toList <:+: s.toList)

/-- `str::starts_with` -/
def startsWith (s pattern : String) : Bool := pattern.toList.isPrefixOf s.toList

/-- `str::is_ascii` -/
def isAscii (s : String) : Bool := s.toList.all fun c => c.toNat < 128

/-- `str::split_once` at the first white space. -/
def splitOnceWhitespace (s : String) : Option (String × String) :=
  match s.toList.span fun c => !isWhitespace c with
  | (head, _ :: rest) => some (String.ofList head, String.ofList rest)
  | (_, []) => none

/-- `String::pop` -/
def pop (s : String) : String := String.ofList s.toList.dropLast

/-- `str::trim_end_matches` at a character. -/
def trimEndMatches (s : String) (c : Char) : String :=
  String.ofList (s.toList.reverse.dropWhile (· == c)).reverse

/-- `slice::windows` -/
def windows {α : Type} (size : Nat) (l : List α) : List (List α) :=
  (List.range (l.length + 1 - size)).map fun i => (l.drop i).take size

/-! ## Bytes -/

/-- `str::as_bytes` -/
def bytes (s : String) : List UInt8 := s.toByteArray.data.toList

/-- The bytes of a text are those of its characters. -/
theorem bytes_eq (s : String) : bytes s = s.toList.flatMap String.utf8EncodeChar := by
  rw [bytes, ← String.utf8Encode_toList, List.utf8Encode, List.toList_data_toByteArray]

/-- A character beyond ASCII has a byte beyond ASCII. -/
theorem exists_byte_of_not_ascii {c : Char} (h : 128 ≤ c.toNat) :
    ∃ b ∈ String.utf8EncodeChar c, 128 ≤ b.toNat := by
  have hlead (b lead : UInt8) (hb : 128 ≤ lead.toNat) : 128 ≤ (b ||| lead).toNat := by
    rw [UInt8.toNat_or]
    exact Nat.le_trans hb Nat.right_le_or
  obtain hone | htwo | hthree | hfour := Char.utf8Size_eq c
  · have hle : c.toNat ≤ 127 := UInt32.le_iff_toNat_le.1 (Char.utf8Size_eq_one_iff.1 hone)
    omega
  · rw [String.utf8EncodeChar_eq_cons_cons htwo]
    exact ⟨_, List.mem_cons_self, hlead _ _ (by decide)⟩
  · rw [String.utf8EncodeChar_eq_cons_cons_cons hthree]
    exact ⟨_, List.mem_cons_self, hlead _ _ (by decide)⟩
  · rw [String.utf8EncodeChar_eq_cons_cons_cons_cons hfour]
    exact ⟨_, List.mem_cons_self, hlead _ _ (by decide)⟩

/-- An ASCII character has one. -/
theorem utf8EncodeChar_of_ascii {c : Char} (h : c.toNat < 128) :
    String.utf8EncodeChar c = [c.val.toUInt8] := by
  apply String.utf8EncodeChar_eq_singleton
  rw [Char.utf8Size_eq_one_iff, UInt32.le_iff_toNat_le]
  exact Nat.le_of_lt_succ h

/-- ASCII text has one byte for each character. -/
theorem bytes_of_ascii {s : String} (h : ∀ c ∈ s.toList, c.toNat < 128) :
    bytes s = s.toList.map (·.val.toUInt8) := by
  rw [bytes_eq, List.map_eq_flatMap, List.flatMap_def, List.flatMap_def]
  exact congrArg _ (List.map_congr_left fun c hc => utf8EncodeChar_of_ascii (h c hc))

/-- Text all of whose bytes are ASCII is ASCII text. -/
theorem ascii_of_bytes {s : String} (h : ∀ b ∈ bytes s, b.toNat < 128) :
    ∀ c ∈ s.toList, c.toNat < 128 := by
  intro c hc
  refine Nat.lt_of_not_le fun hbeyond => ?_
  obtain ⟨b, hb, hle⟩ := exists_byte_of_not_ascii hbeyond
  have hlt := h b (by rw [bytes_eq]; exact List.mem_flatMap.2 ⟨c, hc, hb⟩)
  omega

/-! ## Joining -/

/-- A text that is longer behind contains no less. -/
theorem contains_append_right {s pattern : String} (rest : String) (h : contains s pattern = true) :
    contains (s ++ rest) pattern = true := by
  rw [contains, decide_eq_true_iff] at h ⊢
  rw [String.toList_append]
  exact h.trans (List.prefix_append _ _).isInfix

/-- Nor does one that is longer in front. -/
theorem contains_append_left {s pattern : String} (first : String) (h : contains s pattern = true) :
    contains (first ++ s) pattern = true := by
  rw [contains, decide_eq_true_iff] at h ⊢
  rw [String.toList_append]
  exact h.trans (List.suffix_append _ _).isInfix

theorem contains_self (s : String) : contains s s = true := by simp [contains]

/-- Each text that `slice::join` joins is found in the result. -/
theorem contains_intercalate (separator : String) {text : String} {texts : List String}
    (h : text ∈ texts) : contains (separator.intercalate texts) text = true := by
  induction texts with
  | nil => exact absurd h List.not_mem_nil
  | cons first rest ih =>
    cases rest with
    | nil =>
      obtain rfl : text = first := by simpa using h
      rw [String.intercalate_singleton]
      exact contains_self text
    | cons second rest =>
      rw [String.intercalate_cons_cons]
      obtain rfl | hrest := List.mem_cons.1 h
      · exact contains_append_right _ (contains_append_right _ (contains_self text))
      · exact contains_append_left _ (ih hrest)

/-! ## Alphabets -/

section Alphabet

variable {p : Char → Bool}

/-- All characters of the text are of the alphabet. -/
def Over (p : Char → Bool) (s : String) : Prop := ∀ c ∈ s.toList, p c = true

-- named, since another library decides a statement about characters by trying all of them
instance (p : Char → Bool) (s : String) : Decidable (Over p s) :=
  (List.decidableBAll _ _ : Decidable (∀ c ∈ s.toList, p c = true))

/-- A text over an alphabet is made of its characters. -/
theorem over_ofList {cs : List Char} : Over p (String.ofList cs) ↔ ∀ c ∈ cs, p c = true := by
  rw [Over, String.toList_ofList]

/-- Two texts make one over the alphabet of both. -/
@[simp] theorem over_append {s t : String} : Over p (s ++ t) ↔ Over p s ∧ Over p t := by
  unfold Over
  rw [String.toList_append]
  exact List.forall_mem_append

@[simp] theorem over_empty : Over p "" := by
  intro c hc
  cases hc

/-- What `slice::join` makes of some texts, with a separator of the alphabet. -/
theorem over_intercalate {separator : String} (h : Over p separator) (texts : List String) :
    Over p (separator.intercalate texts) ↔ ∀ text ∈ texts, Over p text := by
  induction texts with
  | nil => simp
  | cons first rest ih =>
    cases rest with
    | nil => simp
    | cons second rest =>
      simp only [String.intercalate_cons_cons, over_append, ih, h, and_true, List.forall_mem_cons]

/-- A number is spelled in digits. -/
theorem over_toString (hdigits : ∀ c : Char, c.isDigit = true → p c = true) (n : Nat) :
    Over p (toString n) := by
  intro c hc
  rw [show toString n = n.repr from rfl, Nat.toList_repr] at hc
  exact hdigits c (Nat.isDigit_of_mem_toDigits (by decide) (by decide) hc)

end Alphabet

/-! ## Lower case -/

/-- `str::eq_ignore_ascii_case` -/
def eqIgnoreAsciiCase (a : List Char) (b : String) : Bool :=
  a.map Char.toLower == b.toList.map Char.toLower

/-- `str::to_ascii_lowercase` -/
def asciiLowercase (s : String) : String := String.ofList (s.toList.map Char.toLower)

/-- `str::to_lowercase`, whose table of the letters beyond ASCII is left open: on ASCII text it is the
ASCII conversion, and it leaves no ASCII capital behind. -/
structure Lowercase where
  toLowercase : String → String
  ascii : ∀ s, isAscii s → toLowercase s = asciiLowercase s
  lowered : ∀ s, ∀ c ∈ (toLowercase s).toList, c.toLower = c

@[simp] theorem Lowercase.toLowercase_empty (lower : Lowercase) : lower.toLowercase "" = "" :=
  lower.ascii "" (by decide)

@[simp] theorem contains_empty (s : String) : contains s "" = true := by simp [contains]

/-- The empty text is found everywhere, so asking for it first changes nothing. -/
@[simp] theorem isEmpty_or_contains (s pattern : String) :
    (pattern.isEmpty || contains s pattern) = contains s pattern := by
  cases hempty : pattern.isEmpty
  · rfl
  · obtain rfl : pattern = "" := by simpa using hempty
    simp

/-- Only the empty text is found in the empty text. -/
theorem empty_contains (pattern : String) : contains "" pattern = pattern.isEmpty := by
  rw [Bool.eq_iff_iff]
  simp [contains]

/-- Lower case has no lower case but itself. -/
theorem toLower_toLower (c : Char) : c.toLower.toLower = c.toLower := by
  unfold Char.toLower
  split <;> grind

/-- The conversion of the ASCII letters alone. -/
def Lowercase.asciiOnly : Lowercase where
  toLowercase := asciiLowercase
  ascii _ _ := rfl
  lowered s c hc := by
    obtain ⟨c', -, rfl⟩ := List.mem_map.1 (by simpa [asciiLowercase] using hc)
    exact toLower_toLower c'

end Text
