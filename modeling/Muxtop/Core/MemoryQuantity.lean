import Muxtop.Core.KubeObjects
import Muxtop.Foundation.Numerals

/-!
# Memory quantities

Reference: `parse_quantity_to_bytes` in `muxtop-core/src/kube_engine.rs`.

A `Quantity` on whole bytes is an unsigned integer and one of nine suffixes. The parser looks for eight
suffixes, of which one is not among the nine, and parses what stands before the suffix as a `u64`.
-/

namespace Muxtop.Core

open Text (Spells IsNumeral IsUnit ofDigits stripPlus)

/-- The suffixes of a `Quantity` on whole bytes, with what they multiply by. -/
def quantitySuffixes : List (String × ℕ) :=
  [("", 1), ("k", 10 ^ 3), ("M", 10 ^ 6), ("G", 10 ^ 9), ("T", 10 ^ 12),
    ("Ki", 2 ^ 10), ("Mi", 2 ^ 20), ("Gi", 2 ^ 30), ("Ti", 2 ^ 40)]

/-- The suffixes that the parser knows. -/
def parsedSuffixes : List (String × UInt64) := ("", 1) :: multipliers

/-! ## What the parser reads -/

/-- A suffix that the parser knows has no digit, and is the end of no other one. -/
theorem isUnit_of_mem_parsedSuffixes : ∀ p ∈ parsedSuffixes, IsUnit p.1 := by decide

/-- The suffixes of the grammar are units. -/
theorem isUnit_of_mem_quantitySuffixes : ∀ p ∈ quantitySuffixes, IsUnit p.1 := by decide

/-- No suffix that the parser knows ends in another. -/
theorem eq_of_suffix_of_mem_multipliers :
    ∀ p ∈ multipliers, ∀ q ∈ multipliers, p.1.toList <:+ q.1.toList → p = q := by decide

/-- Multiplication stops at the greatest value. -/
theorem toNat_saturatingMul64 (a b : UInt64) :
    (saturatingMul64 a b).toNat = min (a.toNat * b.toNat) (UInt64.size - 1) := by
  rw [saturatingMul64, UInt64.toNat_ofNat_of_lt']
  have hsize : UInt64.size = 18446744073709551616 := rfl
  omega

/-- A suffix of the table that the text ends in is the one that is stripped. -/
theorem parseQuantityToBytes_of_suffix {raw : String} {body : List Char} {p : String × UInt64}
    (hp : p ∈ multipliers) (hraw : (Text.trim raw).toList = body ++ p.1.toList) :
    parseQuantityToBytes raw =
      ((Text.parseU64 (String.ofList body)).map (saturatingMul64 · p.2)).getD 0 := by
  have hstrip : Text.stripSuffix (Text.trim raw) p.1 = some (String.ofList body) := by
    rw [Text.stripSuffix_eq_some_iff, String.toList_ofList, hraw]
  unfold parseQuantityToBytes
  dsimp only
  cases hfind : multipliers.findSome? _ with
  | none =>
    have hnone := List.findSome?_eq_none_iff.1 hfind p hp
    simp [hstrip] at hnone
  | some bytes =>
    obtain ⟨q, hq, hbytes⟩ := List.exists_of_findSome?_eq_some hfind
    obtain ⟨stripped, hstripped, rfl⟩ := Option.map_eq_some_iff.1 hbytes
    have hends : q.1.toList <:+ (Text.trim raw).toList :=
      ⟨_, Text.stripSuffix_eq_some_iff.1 hstripped⟩
    have hboth := List.suffix_or_suffix_of_suffix hends ⟨body, hraw.symm⟩
    obtain rfl : q = p := hboth.elim (eq_of_suffix_of_mem_multipliers q hq p hp)
      fun h => (eq_of_suffix_of_mem_multipliers p hp q hq h).symm
    obtain rfl := Option.some.inj (hstripped.symm.trans hstrip)
    rw [Option.getD_some]

/-- A text that ends in no suffix of the table is parsed as it stands. -/
theorem parseQuantityToBytes_of_no_suffix (raw : String)
    (h : ∀ p ∈ multipliers, ¬ p.1.toList <:+ (Text.trim raw).toList) :
    parseQuantityToBytes raw = (Text.parseU64 (Text.trim raw)).getD 0 := by
  unfold parseQuantityToBytes
  dsimp only
  rw [List.findSome?_eq_none_iff.2, Option.getD_none]
  rintro p hp
  rw [Text.stripSuffix_eq_none_iff.2 (h p hp), Option.map_none]

/-- What is parsed as a `u64` and multiplied. -/
theorem toNat_parseU64_mul (body : List Char) (mult : UInt64) :
    (((Text.parseU64 (String.ofList body)).map (saturatingMul64 · mult)).getD 0).toNat =
      if IsNumeral (stripPlus body) ∧ ofDigits (stripPlus body) < UInt64.size then
        min (ofDigits (stripPlus body) * mult.toNat) (UInt64.size - 1)
      else 0 := by
  rw [Text.parseU64, Text.parseUnsigned_ofList]
  split_ifs with h
  · simp only [Option.map_some, Option.getD_some, toNat_saturatingMul64]
    rw [UInt64.toNat_ofNat_of_lt' h.2]
  · rfl

/-- Digits do not end in a suffix of the table, nor a suffix of the table in digits. -/
theorem not_suffix_of_digits {cs digits : List Char} (hdigits : IsNumeral digits) (hends : digits <:+ cs) :
    ∀ p ∈ multipliers, ¬ p.1.toList <:+ cs := by
  intro p hp hsuffix
  have hunit := isUnit_of_mem_parsedSuffixes p (List.mem_cons_of_mem _ hp)
  have hne : p.1.toList ≠ [] := by
    have hall : ∀ p ∈ multipliers, p.1.toList ≠ [] := by decide
    exact hall p hp
  have hclash (c : Char) (hc : c ∈ digits) (hc' : c ∈ p.1.toList) : False := by
    have hdigit := List.all_eq_true.1 hdigits.2 c hc
    have hother := List.all_eq_true.1 hunit c hc'
    rw [hdigit] at hother
    exact absurd hother (by decide)
  obtain h | h := List.suffix_or_suffix_of_suffix hsuffix hends
  · obtain ⟨c, hc⟩ := List.exists_mem_of_ne_nil _ hne
    exact hclash c (h.subset hc) hc
  · obtain ⟨c, hc⟩ := List.exists_mem_of_ne_nil _ hdigits.1
    exact hclash c hc (h.subset hc)

/-- A numeral with a suffix that the parser knows, after a plus sign or not, is multiplied out where it is
a `u64`, and is 0 otherwise. -/
theorem toNat_parseQuantityToBytes_of_spells {raw : String} {n : ℕ} {p : String × UInt64}
    (hp : p ∈ parsedSuffixes) (h : Spells (stripPlus (Text.trim raw).toList) n p.1) :
    (parseQuantityToBytes raw).toNat =
      if n < UInt64.size then min (n * p.2.toNat) (UInt64.size - 1) else 0 := by
  obtain ⟨digits, hdigits, rfl, htext⟩ := h
  -- the sign, if there is one, is read by the integer parser
  obtain ⟨body, hplus, hends, hbody⟩ : ∃ body, stripPlus body = digits ∧ digits <:+ body ∧
      (Text.trim raw).toList = body ++ p.1.toList := by
    unfold stripPlus at htext
    split at htext
    case h_1 rest hrest =>
      exact ⟨'+' :: digits, rfl, List.suffix_cons _ _, by rw [hrest, htext]; rfl⟩
    case h_2 => exact ⟨digits, hdigits.stripPlus, List.suffix_rfl, htext⟩
  have hvalue := toNat_parseU64_mul body p.2
  rw [hplus] at hvalue
  simp only [hdigits, true_and] at hvalue
  rw [← hvalue]
  -- without a unit no suffix is stripped; with one it is the one that the text ends in
  obtain rfl | hp := List.mem_cons.1 hp
  · have hwhole : Text.trim raw = String.ofList body := by
      rw [← String.ofList_toList (s := Text.trim raw), hbody]
      exact congrArg _ (List.append_nil body)
    have hnone := parseQuantityToBytes_of_no_suffix raw
      (not_suffix_of_digits hdigits (by rw [hwhole, String.toList_ofList]; exact hends))
    rw [hnone, hwhole]
    cases hparse : Text.parseU64 (String.ofList body) with
    | none => rfl
    | some n =>
      have hone : n.toNat * (("", 1) : String × UInt64).2.toNat = n.toNat := Nat.mul_one _
      have hlt : n.toNat ≤ UInt64.size - 1 := Nat.le_pred_of_lt n.toNat_lt
      rw [Option.map_some, Option.getD_some, Option.getD_some, toNat_saturatingMul64, hone,
        Nat.min_eq_left hlt]
  · rw [parseQuantityToBytes_of_suffix hp hbody]

/-- Anything else is 0. -/
theorem parseQuantityToBytes_eq_zero {raw : String}
    (h : ∀ n, ∀ p ∈ parsedSuffixes, ¬ Spells (stripPlus (Text.trim raw).toList) n p.1) :
    parseQuantityToBytes raw = 0 := by
  apply UInt64.toNat_inj.1
  by_cases hsuffix : ∃ p ∈ multipliers, p.1.toList <:+ (Text.trim raw).toList
  · obtain ⟨p, hp, body, hbody⟩ := hsuffix
    rw [parseQuantityToBytes_of_suffix hp hbody.symm, toNat_parseU64_mul, if_neg]
    · rfl
    rintro ⟨hnumeral, -⟩
    refine h _ p (List.mem_cons_of_mem _ hp) ⟨_, hnumeral, rfl, ?_⟩
    rw [← hbody, Text.stripPlus_append]
    rintro rfl
    exact hnumeral.1 rfl
  · have hnone := parseQuantityToBytes_of_no_suffix raw fun p hp hends => hsuffix ⟨p, hp, hends⟩
    have hparse : Text.parseU64 (Text.trim raw) = none := by
      rw [← String.ofList_toList (s := Text.trim raw), Text.parseU64, Text.parseUnsigned_ofList, if_neg]
      · rfl
      rintro ⟨hnumeral, -⟩
      exact h _ ("", 1) List.mem_cons_self ⟨_, hnumeral, rfl, (List.append_nil _).symm⟩
    rw [hnone, hparse]
    rfl

/-! ## The grammar -/

/-- The text is read as the grammar has it: a numeral with a suffix of the grammar as their product,
saturated, and anything else as 0. -/
structure FollowsGrammar (raw : String) : Prop where
  quantity : ∀ n, ∀ p ∈ quantitySuffixes, Spells (Text.trim raw).toList n p.1 →
    (parseQuantityToBytes raw).toNat = min (n * p.2) (UInt64.size - 1)
  other : (∀ n, ∀ p ∈ quantitySuffixes, ¬ Spells (Text.trim raw).toList n p.1) →
    parseQuantityToBytes raw = 0

/-- The texts that the tables and the types of the parser do not tell from the grammar: no `k` but after
0, no numeral from 2^64 on, and no nonzero `u64` before a `K` or behind a plus sign. -/
structure KeepsClear (raw : String) : Prop where
  kilo : ∀ n, Spells (Text.trim raw).toList n "k" → n = 0
  fits : ∀ n, ∀ p ∈ quantitySuffixes, p.1 ≠ "k" → Spells (Text.trim raw).toList n p.1 → n < UInt64.size
  capital : ∀ n, Spells (Text.trim raw).toList n "K" → n = 0 ∨ UInt64.size ≤ n
  unsigned : ∀ rest, (Text.trim raw).toList = '+' :: rest →
    ∀ n, ∀ p ∈ parsedSuffixes, Spells rest n p.1 → n = 0 ∨ UInt64.size ≤ n

/-- The parser has the suffixes of the grammar but `k`. -/
theorem mem_parsedSuffixes_of_mem_quantitySuffixes :
    ∀ p ∈ quantitySuffixes, p.1 ≠ "k" → ∃ q ∈ parsedSuffixes, q.1 = p.1 ∧ q.2.toNat = p.2 := by
  decide

/-- The grammar has the suffixes of the parser but `K`. -/
theorem mem_quantitySuffixes_of_mem_parsedSuffixes :
    ∀ q ∈ parsedSuffixes, q.1 ≠ "K" → ∃ p ∈ quantitySuffixes, p.1 = q.1 := by
  decide

/-- Every unit is worth something, -/
theorem pos_of_mem_quantitySuffixes : ∀ p ∈ quantitySuffixes, 0 < p.2 := by decide
/-- in the parser as well. -/
theorem pos_of_mem_parsedSuffixes : ∀ q ∈ parsedSuffixes, 0 < q.2.toNat := by decide

/-- A saturated product is 0 only with a factor. -/
theorem eq_zero_of_min_mul {n mult : ℕ} (hmult : 0 < mult) (h : min (n * mult) (UInt64.size - 1) = 0) :
    n = 0 := by
  have hsize : UInt64.size = 18446744073709551616 := rfl
  have hzero : n * mult = 0 := by omega
  exact (Nat.mul_eq_zero.1 hzero).resolve_right hmult.ne'

/-- A text that spells a number with a suffix unknown to the parser is read as 0. -/
theorem parseQuantityToBytes_of_unknown {raw : String} {n : ℕ} {suffix : String} (hunit : IsUnit suffix)
    (hunknown : ∀ q ∈ parsedSuffixes, q.1 ≠ suffix) (h : Spells (Text.trim raw).toList n suffix) :
    parseQuantityToBytes raw = 0 := by
  refine parseQuantityToBytes_eq_zero fun m q hq hspells => hunknown q hq ?_
  rw [h.stripPlus] at hspells
  exact (Spells.unique (isUnit_of_mem_parsedSuffixes q hq) hunit hspells h).2

/-- What the parser knows and reads as 0 is 0, or no `u64`. -/
theorem eq_zero_or_le_of_parsed {raw : String} {n : ℕ} {q : String × UInt64} (hq : q ∈ parsedSuffixes)
    (h : Spells (stripPlus (Text.trim raw).toList) n q.1) (hzero : parseQuantityToBytes raw = 0) :
    n = 0 ∨ UInt64.size ≤ n := by
  have hread := toNat_parseQuantityToBytes_of_spells hq h
  rw [hzero] at hread
  split_ifs at hread with hlt
  · exact .inl (eq_zero_of_min_mul (pos_of_mem_parsedSuffixes q hq) hread.symm)
  · exact .inr (Nat.le_of_not_lt hlt)

/-- A text that is read by the grammar keeps clear of what goes wrong. -/
theorem KeepsClear.of_followsGrammar {raw : String} (h : FollowsGrammar raw) : KeepsClear raw where
  kilo n hspells := by
    have hread := h.quantity n ("k", 10 ^ 3) (by decide) hspells
    rw [parseQuantityToBytes_of_unknown (by decide) (by decide) hspells] at hread
    exact eq_zero_of_min_mul (by decide) hread.symm
  fits n p hp hk hspells := by
    -- a unit of the grammar that is known has the value that the grammar gives it
    obtain ⟨q, hq, hsuffix, hmult⟩ := mem_parsedSuffixes_of_mem_quantitySuffixes p hp hk
    have hexpected := h.quantity n p hp hspells
    have hread := toNat_parseQuantityToBytes_of_spells hq
      (by rw [hspells.stripPlus, hsuffix]; exact hspells)
    rw [hexpected] at hread
    split_ifs at hread with hlt
    · exact hlt
    · obtain rfl := eq_zero_of_min_mul (pos_of_mem_quantitySuffixes p hp) hread
      decide
  capital n hspells := by
    -- what is no quantity is to be read as 0
    have hzero : parseQuantityToBytes raw = 0 := by
      refine h.other fun m p hp hother => ?_
      have hsame := (Spells.unique (isUnit_of_mem_quantitySuffixes p hp) (by decide) hother hspells).2
      have hno : ∀ p ∈ quantitySuffixes, p.1 ≠ "K" := by decide
      exact hno p hp hsame
    exact eq_zero_or_le_of_parsed (q := ("K", 1000)) (by decide)
      (by rw [hspells.stripPlus]; exact hspells) hzero
  unsigned rest htext n q hq hspells := by
    have hzero : parseQuantityToBytes raw = 0 := by
      refine h.other fun m p hp hother => ?_
      have hplus := hother.stripPlus
      rw [htext] at hplus
      have hlen := congrArg List.length (show rest = '+' :: rest from hplus)
      rw [List.length_cons] at hlen
      omega
    exact eq_zero_or_le_of_parsed hq (by rw [htext]; exact hspells) hzero

/-- Where the grammar has no quantity, what the parser knows is 0 or no `u64`. -/
theorem KeepsClear.eq_zero_or_le {raw : String} {n : ℕ} {q : String × UInt64} (h : KeepsClear raw)
    (hnone : ∀ n, ∀ p ∈ quantitySuffixes, ¬ Spells (Text.trim raw).toList n p.1) (hq : q ∈ parsedSuffixes)
    (hspells : Spells (stripPlus (Text.trim raw).toList) n q.1) : n = 0 ∨ UInt64.size ≤ n := by
  cases htext : (Text.trim raw).toList with
  | nil =>
    rw [htext] at hspells
    obtain ⟨digits, hdigits, -, happend⟩ := hspells
    exact absurd (List.append_eq_nil_iff.1 happend.symm).1 hdigits.1
  | cons c rest =>
    by_cases hc : c = '+'
    · subst hc
      rw [htext] at hspells
      exact h.unsigned rest htext n q hq hspells
    · have hplain : stripPlus (Text.trim raw).toList = (Text.trim raw).toList := by
        rw [htext, stripPlus]
        intro _ heq
        exact hc (List.cons.inj heq).1
      rw [hplain] at hspells
      by_cases hK : q.1 = "K"
      · exact h.capital n (hK ▸ hspells)
      · obtain ⟨p, hp, hsuffix⟩ := mem_quantitySuffixes_of_mem_parsedSuffixes q hq hK
        exact absurd (hsuffix ▸ hspells) (hnone n p hp)

/-- And a text that keeps clear is read by the grammar. -/
theorem KeepsClear.followsGrammar {raw : String} (h : KeepsClear raw) : FollowsGrammar raw where
  quantity n p hp hspells := by
    by_cases hk : p.1 = "k"
    · rw [hk] at hspells
      obtain rfl := h.kilo n hspells
      rw [parseQuantityToBytes_of_unknown (by decide) (by decide) hspells, Nat.zero_mul, Nat.zero_min]
      rfl
    · obtain ⟨q, hq, hsuffix, hmult⟩ := mem_parsedSuffixes_of_mem_quantitySuffixes p hp hk
      have hread := toNat_parseQuantityToBytes_of_spells hq
        (by rw [hspells.stripPlus, hsuffix]; exact hspells)
      rw [hread, if_pos (h.fits n p hp hk hspells), hmult]
  other hnone := by
    by_cases hparsed : ∃ n, ∃ q ∈ parsedSuffixes, Spells (stripPlus (Text.trim raw).toList) n q.1
    · obtain ⟨n, q, hq, hspells⟩ := hparsed
      apply UInt64.toNat_inj.1
      rw [toNat_parseQuantityToBytes_of_spells hq hspells]
      split_ifs with hlt
      · obtain rfl : n = 0 := (h.eq_zero_or_le hnone hq hspells).resolve_right (Nat.not_le.2 hlt)
        rw [Nat.zero_mul, Nat.zero_min]
        rfl
      · rfl
    · exact parseQuantityToBytes_eq_zero fun n q hq hspells => hparsed ⟨n, q, hq, hspells⟩

/-- **Memory quantities.** The parser follows the grammar on exactly the texts that keep clear of where
its suffixes and its integers differ from the grammar's. -/
theorem followsGrammar_iff (raw : String) : FollowsGrammar raw ↔ KeepsClear raw :=
  ⟨KeepsClear.of_followsGrammar, KeepsClear.followsGrammar⟩

/-- Five kilobytes, written as the API writes them, are read as 0. -/
theorem not_followsGrammar_fiveK : ¬ ∀ raw, FollowsGrammar raw := by
  intro h
  have hread := (h "5k").quantity 5 ("k", 10 ^ 3) (by decide) ⟨['5'], by decide, by decide, by decide⟩
  exact absurd hread (by decide)

end Muxtop.Core
