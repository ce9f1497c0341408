import Mathlib.Data.List.TakeWhile
import Muxtop.Foundation.Text

/-!
# Splitting a text

The part of a text before the first of some characters, the part behind the last of one, and the two
parts at the first white space.
-/

namespace Text

/-- The text up to the first of the characters; all of it if there is none. -/
def upTo (stops cs : List Char) : List Char := cs.takeWhile fun c => !stops.contains c

/-- The text behind the last such character; all of it if there is none. -/
def afterLast (c : Char) (cs : List Char) : List Char := (cs.reverse.takeWhile (· != c)).reverse

/-- The text is empty or begins with one of the characters. -/
def StopsAt (stops cs : List Char) : Prop := ∀ c ∈ cs.head?, c ∈ stops

section

variable {stops stops' cs first rest : List Char} {c : Char}

@[simp] theorem stopsAt_nil : StopsAt stops [] := by
  intro c hc
  cases hc

@[simp] theorem stopsAt_cons : StopsAt stops (c :: cs) ↔ c ∈ stops := by simp [StopsAt]

/-- The text up to a stop is what comes before the first one. -/
theorem upTo_eq_iff : upTo stops cs = first ↔
    (∀ c ∈ first, c ∉ stops) ∧ ∃ rest, cs = first ++ rest ∧ StopsAt stops rest := by
  constructor
  · rintro rfl
    refine ⟨fun c hc => ?_, cs.dropWhile fun c => !stops.contains c,
      List.takeWhile_append_dropWhile.symm, fun c hc => ?_⟩
    · have hkept := List.mem_takeWhile_imp (p := fun c => !stops.contains c) hc
      simpa using hkept
    · have hstop := List.head?_dropWhile_not (fun c => !stops.contains c) cs
      rw [hc] at hstop
      simpa using hstop
  · rintro ⟨hfirst, rest, rfl, hrest⟩
    have hkeep : ∀ c ∈ first, (!stops.contains c) = true := fun c hc => by simpa using hfirst c hc
    rw [upTo, List.takeWhile_append_of_pos hkeep, List.append_right_eq_self]
    cases rest with
    | nil => rfl
    | cons c rest => exact List.takeWhile_cons_of_neg (by simpa using stopsAt_cons.1 hrest)

/-- Cutting a text at one of the first characters and then at one of the second. -/
theorem upTo_upTo : upTo stops (upTo stops' cs) = upTo (stops ++ stops') cs := by
  rw [upTo, upTo, upTo, List.takeWhile_takeWhile]
  congr 1
  funext c
  simp

/-- A character that is no stop belongs to it. -/
theorem upTo_cons_of_notMem (h : c ∉ stops) : upTo stops (c :: cs) = c :: upTo stops cs :=
  List.takeWhile_cons_of_pos (by simpa using h)

/-- A stop does not. -/
theorem notMem_upTo (h : c ∈ stops) : c ∉ upTo stops cs := fun hc =>
  (upTo_eq_iff.1 rfl).1 c hc h

/-- What stops a text is found at the end of one of the pieces that have no stop. -/
theorem append_eq_of_stopsAt {front back : List Char} (h : front ++ back = first ++ rest)
    (hback : StopsAt stops back) (hfirst : ∀ c ∈ first, c ∉ stops) :
    ∃ mid, front = first ++ mid ∧ rest = mid ++ back := by
  obtain ⟨excess, hexcess, hback'⟩ | hmid := List.append_eq_append_iff.1 h
  · cases excess with
    | nil => exact ⟨[], by simpa using hexcess.symm, by simpa using hback'.symm⟩
    | cons c excess =>
      rw [hback'] at hback
      refine absurd (stopsAt_cons.1 hback) (hfirst c ?_)
      rw [hexcess]
      exact List.mem_append_right _ List.mem_cons_self
  · exact hmid

/-! ## Behind the last -/

/-- Without the character all of a text is behind it. -/
theorem afterLast_eq_self (h : c ∉ cs) : afterLast c cs = cs := by
  rw [afterLast, List.takeWhile_eq_self_iff.2, List.reverse_reverse]
  intro c' hc'
  rw [bne_iff_ne]
  rintro rfl
  exact h (List.mem_reverse.1 hc')

/-- More text without the character comes behind it too. -/
theorem afterLast_append_of_notMem (h : c ∉ rest) :
    afterLast c (first ++ rest) = afterLast c first ++ rest := by
  have hkeep : ∀ c' ∈ rest.reverse, (c' != c) = true := by
    intro c' hc'
    rw [bne_iff_ne]
    rintro rfl
    exact h (List.mem_reverse.1 hc')
  rw [afterLast, List.reverse_append, List.takeWhile_append_of_pos hkeep, List.reverse_append,
    List.reverse_reverse, afterLast]

/-- Behind the last one is what has no more of them. -/
theorem afterLast_append_cons {back : List Char} (h : c ∉ back) :
    afterLast c (first ++ c :: back) = back := by
  have hnone : afterLast c (first ++ [c]) = [] := by simp [afterLast]
  rw [← List.singleton_append, ← List.append_assoc, afterLast_append_of_notMem h, hnone,
    List.nil_append]

/-- Where it occurs later, what came earlier makes no difference. -/
theorem afterLast_append_of_mem (h : c ∈ rest) : afterLast c (first ++ rest) = afterLast c rest := by
  obtain ⟨back, front, hrest, hback⟩ := List.eq_append_cons_of_mem (List.mem_reverse.2 h)
  have hcut : rest = front.reverse ++ c :: back.reverse := by
    rw [← List.reverse_reverse rest, hrest]
    simp
  have hlast : c ∉ back.reverse := fun hc => hback (List.mem_reverse.1 hc)
  rw [hcut, ← List.append_assoc, afterLast_append_cons hlast, afterLast_append_cons hlast]

/-! ## At white space -/

/-- A span ends at the first character that does not pass. -/
theorem span_eq_iff {p : Char → Bool} {head : List Char} :
    cs.span p = (head, c :: rest) ↔
      cs = head ++ c :: rest ∧ (∀ x ∈ head, p x = true) ∧ p c = false := by
  rw [List.span_eq_takeWhile_dropWhile, Prod.mk.injEq]
  constructor
  · rintro ⟨rfl, hrest⟩
    refine ⟨?_, fun x hx => List.mem_takeWhile_imp hx, ?_⟩
    · rw [← hrest, List.takeWhile_append_dropWhile]
    · have hstop := List.head?_dropWhile_not p cs
      rw [hrest] at hstop
      simpa using hstop
  · rintro ⟨rfl, hhead, hc⟩
    rw [List.takeWhile_append_of_pos hhead, List.dropWhile_append_of_pos hhead,
      List.takeWhile_cons_of_neg (by simp [hc]), List.dropWhile_cons_of_neg (by simp [hc]), List.append_nil]
    exact ⟨rfl, rfl⟩

/-- What is split off at the first white space. -/
theorem splitOnceWhitespace_eq_some_iff {s head rest : String} :
    splitOnceWhitespace s = some (head, rest) ↔
      ∃ space, s.toList = head.toList ++ space :: rest.toList ∧
        (∀ x ∈ head.toList, isWhitespace x = false) ∧ isWhitespace space = true := by
  rw [splitOnceWhitespace]
  constructor
  · intro h
    split at h
    case h_1 first space back hspan =>
      obtain ⟨hs, hfirst, hspace⟩ := span_eq_iff.1 hspan
      cases h
      simp only [String.toList_ofList]
      exact ⟨space, hs, fun x hx => by simpa using hfirst x hx, by simpa using hspace⟩
    case h_2 => cases h
  · rintro ⟨space, hs, hhead, hspace⟩
    have hspan : s.toList.span (fun c => !isWhitespace c) = (head.toList, space :: rest.toList) :=
      span_eq_iff.2 ⟨hs, fun x hx => by simp [hhead x hx], by simp [hspace]⟩
    rw [hspan]
    simp only [String.ofList_toList]

end

end Text
