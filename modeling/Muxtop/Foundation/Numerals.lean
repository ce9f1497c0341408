import Mathlib.Data.List.TakeWhile
import Muxtop.Foundation.Text

/-!
# Numerals with a unit

A text that begins with decimal digits, cut where they end, and how the parsing of unsigned integers and
the stripping of a suffix read it.
-/

namespace Text

/-- The text behind a plus sign. -/
def stripPlus : List Char → List Char
  | '+' :: rest => rest
  | cs => cs

/-- A text of digits alone. -/
def IsNumeral (cs : List Char) : Prop := cs ≠ [] ∧ cs.all Char.isDigit = true

instance (cs : List Char) : Decidable (IsNumeral cs) := inferInstanceAs (Decidable (_ ∧ _))

/-- The text is a numeral of value `n` and a suffix. -/
def Spells (cs : List Char) (n : ℕ) (suffix : String) : Prop :=
  ∃ digits, IsNumeral digits ∧ ofDigits digits = n ∧ cs = digits ++ suffix.toList

/-- A suffix that no digit belongs to. -/
def IsUnit (suffix : String) : Prop := suffix.toList.all (!·.isDigit) = true

instance (suffix : String) : Decidable (IsUnit suffix) := inferInstanceAs (Decidable (_ = _))

/-! ## The decimal spelling of a number -/

/-- The spelling of a number has its value. -/
theorem ofDigits_toString (n : ℕ) : ofDigits (toString n).toList = n := by
  rw [show toString n = n.repr from rfl, Nat.toList_repr]
  exact Nat.ofDigitChars_ten_toDigits

/-- It is a numeral. -/
theorem isNumeral_toString (n : ℕ) : IsNumeral (toString n).toList := by
  have hlist : (toString n).toList = Nat.toDigits 10 n := Nat.toList_repr
  refine ⟨?_, ?_⟩
  · rw [hlist]
    exact Nat.toDigits_ne_nil
  · rw [hlist, List.all_eq_true]
    exact fun c hc => Nat.isDigit_of_mem_toDigits (by decide) (by decide) hc

/-- It spells the number before any suffix. -/
theorem spells_toString (n : ℕ) (suffix : String) : Spells (toString n ++ suffix).toList n suffix :=
  ⟨(toString n).toList, isNumeral_toString n, ofDigits_toString n, String.toList_append⟩

/-! ## Signs -/

/-- A plus sign stands in front. -/
theorem stripPlus_append {cs : List Char} (h : cs ≠ []) (rest : List Char) :
    stripPlus (cs ++ rest) = stripPlus cs ++ rest := by
  cases cs with
  | nil => exact absurd rfl h
  | cons c cs =>
    by_cases hc : c = '+'
    · rw [hc]
      rfl
    · have hplain (tail : List Char) : stripPlus (c :: tail) = c :: tail := by
        rw [stripPlus]
        intro _ heq
        exact hc (List.cons.inj heq).1
      rw [List.cons_append, hplain, hplain, List.cons_append]

/-- A numeral has no sign. -/
theorem IsNumeral.stripPlus {cs : List Char} (h : IsNumeral cs) : stripPlus cs = cs := by
  unfold Text.stripPlus
  split
  · exact absurd h.2 (by simp)
  · rfl

/-- A spelling has no sign. -/
theorem Spells.stripPlus {cs : List Char} {n : ℕ} {suffix : String} (h : Spells cs n suffix) :
    stripPlus cs = cs := by
  obtain ⟨digits, hdigits, -, rfl⟩ := h
  rw [stripPlus_append hdigits.1, hdigits.stripPlus]

/-- What a text spells is settled by where its digits end. -/
theorem Spells.unique {cs : List Char} {n m : ℕ} {suffix suffix' : String} (hunit : IsUnit suffix)
    (hunit' : IsUnit suffix') (h : Spells cs n suffix) (h' : Spells cs m suffix') :
    n = m ∧ suffix = suffix' := by
  obtain ⟨digits, hdigits, rfl, rfl⟩ := h
  obtain ⟨digits', hdigits', rfl, heq⟩ := h'
  have htake (ds : List Char) (hds : IsNumeral ds) (u : String) (hu : IsUnit u) :
      (ds ++ u.toList).takeWhile Char.isDigit = ds := by
    rw [List.takeWhile_append_of_pos (List.all_eq_true.1 hds.2), List.append_right_eq_self]
    cases hlist : u.toList with
    | nil => rfl
    | cons c rest =>
      rw [IsUnit, hlist, List.all_cons, Bool.and_eq_true, Bool.not_eq_true'] at hu
      exact List.takeWhile_cons_of_neg (by rw [hu.1]; decide)
  have hsame : digits = digits' := by
    rw [← htake digits hdigits suffix hunit, heq, htake digits' hdigits' suffix' hunit']
  subst hsame
  exact ⟨rfl, String.toList_injective (List.append_cancel_left heq)⟩

/-! ## Parsing -/

/-- The parser takes numerals within the size, signed or not. -/
theorem parseUnsigned_ofList (size : ℕ) (cs : List Char) :
    parseUnsigned size (String.ofList cs) =
      if IsNumeral (stripPlus cs) ∧ ofDigits (stripPlus cs) < size then some (ofDigits (stripPlus cs))
      else none := by
  rw [parseUnsigned, String.toList_ofList]
  change (if stripPlus cs ≠ [] ∧ (stripPlus cs).all Char.isDigit = true ∧
    ofDigits (stripPlus cs) < size then some (ofDigits (stripPlus cs)) else none) = _
  simp only [IsNumeral, and_assoc]

/-- A numeral is parsed unless it is too large. -/
theorem parseUnsigned_numeral {size : ℕ} {cs : List Char} (h : IsNumeral cs) :
    parseUnsigned size (String.ofList cs) = if ofDigits cs < size then some (ofDigits cs) else none := by
  rw [parseUnsigned_ofList, h.stripPlus]
  simp only [h, true_and]

/-! ## Suffixes -/

/-- What is left of a text stands before its suffix. -/
theorem stripSuffix_eq_some_iff {s affix t : String} :
    stripSuffix s affix = some t ↔ t.toList ++ affix.toList = s.toList := by
  rw [stripSuffix, Option.map_eq_some_iff]
  constructor
  · rintro ⟨cs, hcs, rfl⟩
    rw [String.toList_ofList]
    exact List.isSuffixOf?_eq_some_iff_append_eq.1 hcs
  · intro h
    exact ⟨t.toList, List.isSuffixOf?_eq_some_iff_append_eq.2 h, String.ofList_toList⟩

/-- Nothing is stripped off a text without the suffix. -/
theorem stripSuffix_eq_none_iff {s affix : String} :
    stripSuffix s affix = none ↔ ¬ affix.toList <:+ s.toList := by
  rw [Option.eq_none_iff_forall_not_mem, ← not_exists, not_iff_not]
  constructor
  · rintro ⟨t, ht⟩
    exact ⟨t.toList, stripSuffix_eq_some_iff.1 ht⟩
  · rintro ⟨cs, hcs⟩
    exact ⟨String.ofList cs, stripSuffix_eq_some_iff.2 (by rw [String.toList_ofList, hcs])⟩

/-- A text ends in no unit but those that its own unit ends in. -/
theorem Spells.not_suffix {cs : List Char} {n : ℕ} {suffix other : String} (h : Spells cs n suffix)
    (hunit : IsUnit other) (hother : ¬ other.toList <:+ suffix.toList) : ¬ other.toList <:+ cs := by
  obtain ⟨digits, hdigits, -, rfl⟩ := h
  intro hends
  obtain hle | ⟨front, hfront⟩ := List.suffix_or_suffix_of_suffix hends (List.suffix_append _ _)
  · exact hother hle
  · obtain ⟨before, hbefore⟩ := hends
    rw [← hfront, ← List.append_assoc] at hbefore
    have hsub : front <:+ digits := ⟨before, List.append_cancel_right hbefore⟩
    cases front with
    | nil => exact hother (by rw [← hfront]; exact List.suffix_rfl)
    | cons c rest =>
      have hdigit := List.all_eq_true.1 hdigits.2 c (hsub.subset List.mem_cons_self)
      rw [IsUnit, ← hfront, List.cons_append, List.all_cons, hdigit] at hunit
      exact absurd hunit (by simp)

/-! ## Trimming -/

/-- A text without white space is not trimmed. -/
theorem trim_eq_self {s : String} (h : ∀ c ∈ s.toList, isWhitespace c = false) : trim s = s := by
  have hkeep (cs : List Char) (hcs : ∀ c ∈ cs, isWhitespace c = false) :
      cs.dropWhile isWhitespace = cs := by
    cases cs with
    | nil => rfl
    | cons c rest => exact List.dropWhile_cons_of_neg (by rw [hcs c List.mem_cons_self]; decide)
  rw [trim, hkeep _ h, hkeep _ fun c hc => h c (List.mem_reverse.1 hc), List.reverse_reverse,
    String.ofList_toList]

/-- White space around a text that neither begins nor ends with any is trimmed, and nothing else. -/
theorem trim_padded {before cs after : List Char} (hbefore : ∀ c ∈ before, isWhitespace c = true)
    (hafter : ∀ c ∈ after, isWhitespace c = true) (hhead : ∀ c ∈ cs.head?, isWhitespace c = false)
    (hlast : ∀ c ∈ cs.getLast?, isWhitespace c = false) :
    trim (String.ofList (before ++ (cs ++ after))) = String.ofList cs := by
  have hdrop (pad text : List Char) (hpad : ∀ c ∈ pad, isWhitespace c = true)
      (htext : ∀ c ∈ text.head?, isWhitespace c = false) :
      (pad ++ text).dropWhile isWhitespace = text := by
    rw [List.dropWhile_append_of_pos hpad]
    rcases text with _ | ⟨c, text⟩
    · rfl
    · exact List.dropWhile_cons_of_neg (by rw [htext c rfl]; decide)
  rw [trim, String.toList_ofList]
  -- The text in the middle is empty, or its last character stops the trimming from behind.
  rcases List.eq_nil_or_concat cs with rfl | ⟨cs', c, rfl⟩
  · rw [List.nil_append, ← List.append_nil (before ++ after),
      hdrop (before ++ after) [] (fun c hc => (List.mem_append.1 hc).elim (hbefore c) (hafter c)) nofun]
    rfl
  · rw [List.concat_eq_append] at hhead hlast ⊢
    have hfront : ∀ d ∈ (cs' ++ [c] ++ after).head?, isWhitespace d = false := by
      rcases cs' with _ | ⟨d, cs'⟩ <;> exact hhead
    have hback : ∀ d ∈ (cs' ++ [c]).reverse.head?, isWhitespace d = false := by
      rw [List.head?_reverse]
      exact hlast
    rw [hdrop _ _ hbefore hfront, List.reverse_append,
      hdrop _ _ (fun d hd => hafter d (List.mem_reverse.1 hd)) hback, List.reverse_reverse]

/-- A digit is not trimmed. -/
theorem isWhitespace_of_isDigit {c : Char} (h : c.isDigit = true) : isWhitespace c = false := by
  rw [Char.isDigit, Bool.and_eq_true, decide_eq_true_iff, decide_eq_true_iff] at h
  have hlow : 48 ≤ c.toNat := UInt32.le_iff_toNat_le.1 h.1
  have hhigh : c.toNat ≤ 57 := UInt32.le_iff_toNat_le.1 h.2
  simp only [isWhitespace, Bool.or_eq_false_iff, Bool.and_eq_false_iff, beq_eq_false_iff_ne,
    decide_eq_false_iff_not]
  omega

/-- Nothing is trimmed from a numeral with a unit. -/
theorem Spells.trim {s : String} {n : ℕ} {suffix : String} (h : Spells s.toList n suffix)
    (hsuffix : suffix.toList.any isWhitespace = false) : Text.trim s = s := by
  obtain ⟨digits, hdigits, -, htext⟩ := h
  refine trim_eq_self fun c hc => ?_
  rw [htext] at hc
  obtain hc | hc := List.mem_append.1 hc
  · exact isWhitespace_of_isDigit (List.all_eq_true.1 hdigits.2 c hc)
  · exact Bool.eq_false_iff.2 (List.any_eq_false.1 hsuffix c hc)

end Text
