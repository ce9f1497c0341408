import Mathlib.Data.List.TakeWhile
import Muxtop.Foundation.Text

/-!
# IP address literals

`IpAddr::from_str` of the Rust standard library, on the list of the characters of a text, and what the
accepted texts are written in.

A parser takes characters off the front; one that fails gives back what it took.
-/

namespace IpAddr

abbrev Parser := StateT (List Char) Option

/-- `char::to_digit` -/
def toDigit (radix : ℕ) (c : Char) : Option ℕ :=
  let value :=
    if c.isDigit then c.toNat - '0'.toNat
    else if c.isLower then c.toNat - 'a'.toNat + 10
    else if c.isUpper then c.toNat - 'A'.toNat + 10
    else radix
  if value < radix then some value else none

/-- A number below `bound` off the front, up to the first character that is no digit. -/
def readNumber (radix maxDigits bound : ℕ) (allowZeroPrefix : Bool) : Parser ℕ := fun cs =>
  let digits := cs.takeWhile fun c => (toDigit radix c).isSome
  let value := digits.foldl (fun n c => radix * n + (toDigit radix c).getD 0) 0
  if digits = [] ∨ maxDigits < digits.length then none
  else if !allowZeroPrefix ∧ cs.head? = some '0' ∧ 1 < digits.length then none
  else if bound ≤ value then none
  else some (value, cs.dropWhile fun c => (toDigit radix c).isSome)

def readGivenChar (target : Char) : Parser Unit
  | c :: rest => if c = target then some ((), rest) else none
  | [] => none

/-- The separator first, except before the element of index 0. -/
def readSeparator {α : Type} (sep : Char) (index : ℕ) (inner : Parser α) : Parser α :=
  if index = 0 then inner
  else do
    readGivenChar sep
    inner

/-- Four decimal numbers; a zero may not lead another digit. -/
def readIpv4Addr : Parser (Vector UInt8 4) := do
  let a ← readSeparator '.' 0 (readNumber 10 3 256 false)
  let b ← readSeparator '.' 1 (readNumber 10 3 256 false)
  let c ← readSeparator '.' 2 (readNumber 10 3 256 false)
  let d ← readSeparator '.' 3 (readNumber 10 3 256 false)
  return #v[.ofNat a, .ofNat b, .ofNat c, .ofNat d]

/-- `u16::from_be_bytes` -/
def fromBeBytes (high low : UInt8) : UInt16 := .ofNat (256 * high.toNat + low.toNat)

/-- The groups from index `i` on of which `left` are wanted, and whether the last two were written as an
IPv4 address. -/
def readGroups (i : ℕ) : (left : ℕ) → List Char → (List UInt16 × Bool) × List Char
  | 0, cs => (([], false), cs)
  | left + 1, cs =>
    match if 0 < left then readSeparator ':' i readIpv4Addr cs else none with
    | some (v4, rest) =>
      (([fromBeBytes v4[0] v4[1], fromBeBytes v4[2] v4[3]], true), rest)
    | none =>
      match readSeparator ':' i (readNumber 16 4 65536 true) cs with
      | some (group, rest) =>
        let ((groups, ipv4), rest) := readGroups (i + 1) left rest
        ((.ofNat group :: groups, ipv4), rest)
      | none => (([], false), cs)

/-- The eight groups, with zeros for those that `::` stands for. -/
def joinGroups (head tail : List UInt16) : Vector UInt16 8 :=
  .ofFn fun i =>
    if i < head.length then head.getD i 0
    else if 8 - tail.length ≤ i then tail.getD (i - (8 - tail.length)) 0
    else 0

def readIpv6Addr : Parser (Vector UInt16 8) := fun cs =>
  let ((head, headIpv4), rest) := readGroups 0 8 cs
  if head.length = 8 then some (joinGroups head [], rest)
  else if headIpv4 then none
  else
    match (do readGivenChar ':'; readGivenChar ':' : Parser Unit) rest with
    | some ((), rest) =>
      let ((tail, _), rest) := readGroups 0 (8 - (head.length + 1)) rest
      some (joinGroups head tail, rest)
    | none => none

end IpAddr

/-- An address of either version. -/
inductive IpAddr
  | v4 (octets : Vector UInt8 4)
  | v6 (groups : Vector UInt16 8)
deriving DecidableEq

namespace IpAddr

def readIpAddr : Parser IpAddr := fun cs =>
  match readIpv4Addr cs with
  | some (octets, rest) => some (.v4 octets, rest)
  | none => (readIpv6Addr cs).map fun (groups, rest) => (.v6 groups, rest)

/-- `IpAddr::from_str`; the whole text is the address. -/
def parse (cs : List Char) : Option IpAddr :=
  match readIpAddr cs with
  | some (ip, []) => some ip
  | _ => none

/-- `Ipv6Addr::LOCALHOST` -/
def localhostV6 : Vector UInt16 8 := #v[0, 0, 0, 0, 0, 0, 0, 1]

def firstOctet (octets : Vector UInt8 4) : UInt8 := octets.get 0

/-- `127.0.0.0/8`, and `::1`. -/
def isLoopback : IpAddr → Bool
  | .v4 octets => firstOctet octets == 127
  | .v6 groups => groups == localhostV6

example : (parse "127.0.0.1".toList).map isLoopback = some true := by decide
example : (parse "::1".toList).map isLoopback = some true := by decide
example : (parse "::ffff:127.0.0.1".toList).map isLoopback = some false := by decide
example : parse "127.0.0.01".toList = none := by decide

/-! ## What a parser takes -/

/-- What the parser takes is of the alphabet. -/
def Takes {α : Type} (p : Char → Bool) (m : Parser α) : Prop :=
  ∀ cs a rest, m cs = some (a, rest) → ∃ taken, cs = taken ++ rest ∧ ∀ c ∈ taken, p c = true

section Takes

variable {α β : Type} {p q : Char → Bool} {m : Parser α}

/-- Over a larger alphabet. -/
theorem Takes.mono (h : Takes p m) (hle : ∀ c, p c = true → q c = true) : Takes q m := by
  intro cs a rest hm
  obtain ⟨taken, hcs, htaken⟩ := h cs a rest hm
  exact ⟨taken, hcs, fun c hc => hle c (htaken c hc)⟩

/-- What reads nothing takes nothing. -/
theorem Takes.pure (a : α) : Takes p (pure a : Parser α) := by
  intro cs b rest h
  obtain ⟨-, rfl⟩ := Prod.mk.inj (Option.some.inj h)
  exact ⟨[], rfl, by simp⟩

/-- One parser after another takes characters of both. -/
theorem Takes.bind {f : α → Parser β} (h : Takes p m) (hf : ∀ a, Takes p (f a)) :
    Takes p (m >>= f) := by
  intro cs b rest hm
  obtain ⟨⟨a, mid⟩, hfirst, hthen⟩ := Option.bind_eq_some_iff.1 hm
  obtain ⟨first, rfl, hof⟩ := h cs a mid hfirst
  obtain ⟨second, rfl, hsecond⟩ := hf a mid b rest hthen
  refine ⟨first ++ second, by simp, ?_⟩
  intro c hc
  obtain hc | hc := List.mem_append.1 hc
  · exact hof c hc
  · exact hsecond c hc

/-- A number is made of digits. -/
theorem takes_readNumber (radix maxDigits bound : ℕ) (allowZeroPrefix : Bool) :
    Takes (fun c => (toDigit radix c).isSome) (readNumber radix maxDigits bound allowZeroPrefix) := by
  intro cs n rest h
  unfold readNumber at h
  dsimp only at h
  split_ifs at h
  obtain ⟨-, rfl⟩ := Prod.mk.inj (Option.some.inj h)
  refine ⟨cs.takeWhile fun c => (toDigit radix c).isSome, List.takeWhile_append_dropWhile.symm, ?_⟩
  exact fun c hc => List.mem_takeWhile_imp (p := fun c => (toDigit radix c).isSome) hc

/-- A given character is that character. -/
theorem takes_readGivenChar {target : Char} (h : p target = true) :
    Takes p (readGivenChar target) := by
  intro cs a rest hread
  cases cs with
  | nil => cases hread
  | cons c cs =>
    simp only [readGivenChar] at hread
    split_ifs at hread with hc
    obtain ⟨-, rfl⟩ := Prod.mk.inj (Option.some.inj hread)
    refine ⟨[c], rfl, ?_⟩
    intro c' hc'
    rw [List.mem_singleton.1 hc', hc]
    exact h

/-- A separator and what follows it. -/
theorem takes_readSeparator {sep : Char} (index : ℕ) (hsep : p sep = true) (h : Takes p m) :
    Takes p (readSeparator sep index m) := by
  unfold readSeparator
  split
  · exact h
  · exact (takes_readGivenChar hsep).bind fun _ => h

end Takes

/-! ## The alphabets -/

/-- What an IPv4 address is written in. -/
def isV4Char (c : Char) : Bool := (toDigit 10 c).isSome || c == '.'

/-- What an IPv6 address is written in. -/
def isV6Char (c : Char) : Bool := (toDigit 16 c).isSome || c == ':' || c == '.'

/-- The alphabet of version 6 has that of version 4 in it. -/
theorem isV6Char_of_isV4Char {c : Char} (h : isV4Char c = true) : isV6Char c = true := by
  unfold isV4Char at h
  unfold isV6Char
  have hmono : (toDigit 10 c).isSome = true → (toDigit 16 c).isSome = true := by
    unfold toDigit
    dsimp only
    split_ifs <;> simp <;> omega
  rw [Bool.or_eq_true] at h
  obtain h | h := h
  · simp [hmono h]
  · simp [h]

/-- Addresses of version 4 have no letters. -/
theorem isV4Char_of_isAlpha {c : Char} (h : c.isAlpha = true) : isV4Char c = false := by
  have hdigit : c.isDigit = false := by
    rw [Bool.eq_false_iff]
    intro hdigit
    change (decide (65 ≤ c.val ∧ c.val ≤ 90) || (decide (97 ≤ c.val) && decide (c.val ≤ 122))) = true at h
    change (decide (48 ≤ c.val) && decide (c.val ≤ 57)) = true at hdigit
    simp only [Bool.and_eq_true, Bool.or_eq_true, decide_eq_true_iff, UInt32.le_iff_toNat_le] at h hdigit
    have hhigh : (57 : UInt32).toNat = 57 := rfl
    have hupper : (65 : UInt32).toNat = 65 := rfl
    have hlower : (97 : UInt32).toNat = 97 := rfl
    omega
  have hdot : (c == '.') = false := by
    rw [beq_eq_false_iff_ne]
    rintro rfl
    exact absurd h (by decide)
  have hletter : (toDigit 10 c).isSome = false := by
    unfold toDigit
    dsimp only
    simp only [hdigit, Bool.false_eq_true, if_false]
    split_ifs <;> first | rfl | omega
  rw [isV4Char, hletter, hdot, Bool.or_self]

/-- An address of version 4 is made of its alphabet. -/
theorem takes_readIpv4Addr : Takes isV4Char readIpv4Addr := by
  have hnumber : Takes isV4Char (readNumber 10 3 256 false) :=
    (takes_readNumber 10 3 256 false).mono fun c hc => by simp [isV4Char, hc]
  have hpart (i : ℕ) : Takes isV4Char (readSeparator '.' i (readNumber 10 3 256 false)) :=
    takes_readSeparator i (by decide) hnumber
  unfold readIpv4Addr
  exact (hpart 0).bind fun _ => (hpart 1).bind fun _ => (hpart 2).bind fun _ => (hpart 3).bind
    fun _ => Takes.pure _

/-- So is a group, -/
theorem takes_group (i : ℕ) : Takes isV6Char (readSeparator ':' i (readNumber 16 4 65536 true)) :=
  takes_readSeparator i (by decide)
    ((takes_readNumber 16 4 65536 true).mono fun c hc => by simp [isV6Char, hc])

/-- and so is an address of version 4 within one of version 6. -/
theorem takes_embedded (i : ℕ) : Takes isV6Char (readSeparator ':' i readIpv4Addr) :=
  takes_readSeparator i (by decide) (takes_readIpv4Addr.mono fun _ hc => isV6Char_of_isV4Char hc)

/-- Groups are read as long as there are any, and what stops them is left. -/
theorem readGroups_takes (left : ℕ) : ∀ (i : ℕ) (cs : List Char),
    ∃ taken, cs = taken ++ (readGroups i left cs).2 ∧ ∀ c ∈ taken, isV6Char c = true := by
  induction left with
  | zero => exact fun i cs => ⟨[], rfl, by simp⟩
  | succ left ih =>
    intro i cs
    unfold readGroups
    split
    case h_1 v4 rest hembedded =>
      split_ifs at hembedded
      exact takes_embedded i cs v4 rest hembedded
    case h_2 =>
      split
      case h_1 group rest hgroup =>
        obtain ⟨first, rfl, hfirst⟩ := takes_group i cs group rest hgroup
        -- One group and what the remaining ones take, by the induction hypothesis on the rest.
        obtain ⟨second, hrest, hsecond⟩ := ih (i + 1) rest
        refine ⟨first ++ second, ?_, ?_⟩
        · rw [List.append_assoc]
          exact congrArg (first ++ ·) hrest
        · intro c hc
          obtain hc | hc := List.mem_append.1 hc
          · exact hfirst c hc
          · exact hsecond c hc
      case h_2 => exact ⟨[], rfl, by simp⟩

/-- So an address of version 6 is made of its alphabet. -/
theorem takes_readIpv6Addr : Takes isV6Char readIpv6Addr := by
  intro cs groups rest h
  obtain ⟨first, hcs, hfirst⟩ := readGroups_takes 8 0 cs
  unfold readIpv6Addr at h
  dsimp only at h
  split_ifs at h
  case pos =>
    obtain ⟨-, rfl⟩ := Prod.mk.inj (Option.some.inj h)
    exact ⟨first, hcs, hfirst⟩
  case neg =>
    split at h
    case h_1 mid hcolons =>
      obtain ⟨-, rfl⟩ := Prod.mk.inj (Option.some.inj h)
      -- Groups, the two colons and groups again, each part made of the address's characters.
      have hpair : Takes isV6Char (do readGivenChar ':'; readGivenChar ':' : Parser Unit) :=
        (takes_readGivenChar (by decide)).bind fun _ => takes_readGivenChar (by decide)
      obtain ⟨second, hmid, hsecond⟩ := hpair _ _ _ hcolons
      obtain ⟨third, hrest, hthird⟩ := readGroups_takes (8 - ((readGroups 0 8 cs).1.1.length + 1)) 0 mid
      refine ⟨first ++ (second ++ third), ?_, ?_⟩
      · rw [List.append_assoc, List.append_assoc, ← hrest, ← hmid]
        exact hcs
      · intro c hc
        simp only [List.mem_append] at hc
        obtain hc | hc | hc := hc
        · exact hfirst c hc
        · exact hsecond c hc
        · exact hthird c hc
    case h_2 => cases h

/-! ## Accepted texts -/

/-- A text is an address when nothing is left of it. -/
theorem parse_eq_some_iff {cs : List Char} {ip : IpAddr} :
    parse cs = some ip ↔ readIpAddr cs = some (ip, []) := by
  unfold parse
  split
  case h_1 ip' hread => rw [hread, Option.some_inj, Option.some_inj, Prod.mk.injEq, and_iff_left rfl]
  case h_2 hread =>
    simp only [reduceCtorEq, false_iff]
    exact hread ip

/-- Version 4 is tried first. -/
theorem readIpAddr_v4 {cs rest : List Char} {octets : Vector UInt8 4} :
    readIpAddr cs = some (.v4 octets, rest) ↔ readIpv4Addr cs = some (octets, rest) := by
  unfold readIpAddr
  split <;> simp_all

/-- Version 6 is what is left to try. -/
theorem readIpAddr_v6 {cs rest : List Char} {groups : Vector UInt16 8}
    (h : readIpAddr cs = some (.v6 groups, rest)) : readIpv6Addr cs = some (groups, rest) := by
  unfold readIpAddr at h
  split at h <;> simp_all

/-- An IPv4 address is written in digits and dots. -/
theorem isV4Char_of_parse {cs : List Char} {octets : Vector UInt8 4}
    (h : parse cs = some (.v4 octets)) : ∀ c ∈ cs, isV4Char c = true := by
  have hread := readIpAddr_v4.1 (parse_eq_some_iff.1 h)
  obtain ⟨taken, hcs, htaken⟩ := takes_readIpv4Addr cs octets [] hread
  rw [hcs, List.append_nil]
  exact htaken

/-- An IPv6 address is written in hexadecimal digits, colons and dots. -/
theorem isV6Char_of_parse {cs : List Char} {groups : Vector UInt16 8}
    (h : parse cs = some (.v6 groups)) : ∀ c ∈ cs, isV6Char c = true := by
  have hread := readIpAddr_v6 (parse_eq_some_iff.1 h)
  obtain ⟨taken, hcs, htaken⟩ := takes_readIpv6Addr cs groups [] hread
  rw [hcs, List.append_nil]
  exact htaken

section Colons

variable {cs : List Char} (hcs : ':' ∉ cs)
include hcs

/-- Where there is no colon, none is read. -/
theorem readGivenChar_colon : readGivenChar ':' cs = none := by
  cases cs with
  | nil => rfl
  | cons c rest =>
    rw [readGivenChar, if_neg]
    intro hc
    exact hcs (by rw [hc]; exact List.mem_cons_self)

/-- Nor is what a colon would come before, -/
theorem readSeparator_colon {α : Type} (i : ℕ) (m : Parser α) :
    readSeparator ':' (i + 1) m cs = none := by
  rw [readSeparator, if_neg (Nat.succ_ne_zero i)]
  change (readGivenChar ':' cs).bind _ = none
  rw [readGivenChar_colon hcs]
  rfl

/-- Without a colon no second group is read. -/
theorem readGroups_colon (i left : ℕ) : readGroups (i + 1) left cs = (([], false), cs) := by
  cases left with
  | zero => rfl
  | succ left =>
    unfold readGroups
    rw [readSeparator_colon hcs, readSeparator_colon hcs, ite_self]

/-- and so no address of version 6. -/
theorem readIpv6Addr_colon : readIpv6Addr cs = none := by
  obtain ⟨taken, hrest, -⟩ := readGroups_takes 8 0 cs
  have hsuffix : ':' ∉ (readGroups 0 8 cs).2 := fun hmem =>
    hcs (by rw [hrest]; exact List.mem_append_right _ hmem)
  -- Without a colon at most one group is read.
  have hfew : (readGroups 0 8 cs).1.1.length ≠ 8 := by
    unfold readGroups
    split
    · simp
    · split
      case h_1 group rest hgroup =>
        obtain ⟨first, rfl, -⟩ := takes_group 0 cs group rest hgroup
        have hclean : ':' ∉ rest := fun hmem => hcs (List.mem_append_right _ hmem)
        rw [readGroups_colon hclean]
        simp
      case h_2 => simp
  unfold readIpv6Addr
  dsimp only
  rw [if_neg hfew]
  split_ifs
  · rfl
  · have hnone : (do readGivenChar ':'; readGivenChar ':' : Parser Unit) (readGroups 0 8 cs).2 = none := by
      change (readGivenChar ':' (readGroups 0 8 cs).2).bind _ = none
      rw [readGivenChar_colon hsuffix]
      rfl
    rw [hnone]

end Colons

/-- An IPv6 address has a colon. -/
theorem colon_mem_of_parse {cs : List Char} {groups : Vector UInt16 8}
    (h : parse cs = some (.v6 groups)) : ':' ∈ cs := by
  by_contra hcs
  have hread := readIpAddr_v6 (parse_eq_some_iff.1 h)
  rw [readIpv6Addr_colon hcs] at hread
  cases hread

end IpAddr
