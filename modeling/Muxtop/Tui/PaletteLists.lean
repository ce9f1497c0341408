import Muxtop.Foundation.RecentlyUsed
import Muxtop.Foundation.Splitting
import Muxtop.Tui.Palette

/-!
# What the palette lists

A query is a typed form such as `kill firefox`, or empty, or fuzzy. What the list holds in each of these
cases, whatever it held before.
-/

namespace Muxtop.Tui

open StableSort

/-- The query is a typed form that names the command. -/
def TypedForm (lib : Lib) (input : String) (c : Command) (arg : String) : Prop :=
  ∃ head space rest, input.toList = head ++ space :: rest ∧
    (∀ x ∈ head, Text.isWhitespace x = false) ∧ Text.isWhitespace space = true ∧
    c.verb = some (lib.lower.toLowercase (String.ofList head)) ∧ arg = Text.trim (String.ofList rest)

namespace PaletteState

/-- The commands in the list. -/
def offered (p : PaletteState) : List Command := p.filtered.map Prod.fst

/-- The list goes with the query. -/
structure Consistent (lib : Lib) (excluded : List Command) (p : PaletteState) : Prop where
  selected : p.selected < p.filtered.length ∨ p.filtered = [] ∧ p.selected = 0
  allowed : ∀ c ∈ p.offered, c ∉ excluded
  verbOnly : ∀ c ∈ p.offered, c.isVerbOnly = true →
    p.offered = [c] ∧ ∃ arg, TypedForm lib p.input c arg
  typed : ∀ c ∉ excluded, ∀ arg, TypedForm lib p.input c arg → p.offered = [c]
  arg : ∀ arg, p.arg = some arg ↔ ∃ c ∉ excluded, TypedForm lib p.input c arg
  listed : p.input = "" → ∀ c, c ∈ p.offered ↔ c.isVerbOnly = false ∧ c ∉ excluded
  recent : p.input = "" → ∃ rest, p.offered = p.history.filter (· ∈ p.offered) ++ rest ∧
    ∀ c ∈ rest, c ∉ p.history
  distinct : p.offered.Nodup

end PaletteState

/-! ## Typed forms -/

namespace Command

/-- Every command is in the list of all, -/
theorem mem_all (c : Command) : c ∈ all := by cases c <;> decide

/-- and there once. -/
theorem nodup_all : all.Nodup := by decide

/-- No two commands have one verb. -/
theorem verb_injective {c d : Command} {verb : String} (hc : c.verb = some verb) (hd : d.verb = some verb) :
    c = d := by
  have hverbs : ∀ c ∈ all.filter isVerbOnly, ∀ d ∈ all.filter isVerbOnly, c.verb = d.verb → c = d := by
    decide
  have hmem {c : Command} (hc : c.verb = some verb) : c ∈ all.filter isVerbOnly := by
    rw [List.mem_filter, isVerbOnly, hc]
    exact ⟨mem_all c, rfl⟩
  exact hverbs c (hmem hc) d (hmem hd) (hc.trans hd.symm)

end Command

namespace PaletteState

variable {lib : Lib} {p : PaletteState} {excluded : List Command} {tab : Option Tab} {c : Command}
  {arg : String}

/-- A verb has one command. -/
theorem find_verb_eq_some_iff {verb : String} :
    (Command.all.find? fun c => c.verb = some verb) = some c ↔ c.verb = some verb := by
  constructor
  · intro h
    simpa using List.find?_some h
  · intro h
    have hfound : (Command.all.find? fun c => c.verb = some verb).isSome = true :=
      List.find?_isSome.2 ⟨c, Command.mem_all c, decide_eq_true h⟩
    obtain ⟨d, hd⟩ := Option.isSome_iff_exists.1 hfound
    have hverb : d.verb = some verb := by simpa using List.find?_some hd
    rw [hd, Command.verb_injective hverb h]

/-- The parser takes the typed forms. -/
theorem parseVerb_eq_some_iff {input : String} :
    parseVerb lib input = some (c, arg) ↔ TypedForm lib input c arg := by
  rw [parseVerb, Option.bind_eq_bind, Option.bind_eq_some_iff]
  constructor
  · rintro ⟨⟨head, rest⟩, hsplit, hverb⟩
    obtain ⟨d, hd, heq⟩ := Option.bind_eq_some_iff.1 hverb
    obtain ⟨rfl, rfl⟩ := Prod.mk.inj (Option.some.inj heq)
    obtain ⟨space, hinput, hhead, hspace⟩ := Text.splitOnceWhitespace_eq_some_iff.1 hsplit
    refine ⟨head.toList, space, rest.toList, hinput, hhead, hspace, ?_, ?_⟩
    · rw [String.ofList_toList]
      exact find_verb_eq_some_iff.1 hd
    · rw [String.ofList_toList]
  · rintro ⟨head, space, rest, hinput, hhead, hspace, hverb, rfl⟩
    refine ⟨(String.ofList head, String.ofList rest), ?_, ?_⟩
    · rw [Text.splitOnceWhitespace_eq_some_iff, String.toList_ofList, String.toList_ofList]
      exact ⟨space, hinput, hhead, hspace⟩
    · exact Option.bind_eq_some_iff.2 ⟨c, find_verb_eq_some_iff.2 hverb, rfl⟩

/-- A query has one typed form at most. -/
theorem typedForm_unique {d : Command} {arg' : String} (h : TypedForm lib p.input c arg)
    (h' : TypedForm lib p.input d arg') : c = d ∧ arg = arg' := by
  have hparse := parseVerb_eq_some_iff.2 h
  rw [parseVerb_eq_some_iff.2 h'] at hparse
  obtain ⟨rfl, rfl⟩ := Prod.mk.inj (Option.some.inj hparse)
  exact ⟨rfl, rfl⟩

/-- Nothing typed is no typed form. -/
theorem not_typedForm_empty : ¬ TypedForm lib "" c arg := by
  rintro ⟨head, space, rest, hinput, -⟩
  cases head <;> cases hinput

/-! ## The list without a typed form -/

/-- The commands that a query without an argument can list. -/
def available (excluded : List Command) : List Command :=
  Command.all.filter fun c => !c.isVerbOnly && !excluded.contains c

/-- Available are the commands that are no verbs and not excluded. -/
theorem mem_available_iff : c ∈ available excluded ↔ c.isVerbOnly = false ∧ c ∉ excluded := by
  simp [available, Command.mem_all]

/-- Each is available once. -/
theorem nodup_available (excluded : List Command) : (available excluded).Nodup :=
  Command.nodup_all.filter _

/-- A list of an empty query: every available command, the recent ones first. -/
structure ListsAll (history excluded commands : List Command) : Prop where
  perm : commands.Perm (available excluded)
  sorted : commands.Pairwise fun a b => RecentlyUsed.recency historyLen history a ≤
    RecentlyUsed.recency historyLen history b

/-- Sorted by rank they are all listed. -/
theorem listsAll_sortBy (history excluded : List Command) (tab : Option Tab) :
    ListsAll history excluded (sortBy
      (fun a b => (compare (rank history tab a).1 (rank history tab b).1).then
        (compare (rank history tab a).2 (rank history tab b).2)) (available excluded)) where
  perm := sortBy_perm _ _
  sorted := by
    have htrans : Std.TransCmp fun a b => (compare (rank history tab a).1 (rank history tab b).1).then
        (compare (rank history tab a).2 (rank history tab b).2) :=
      inferInstanceAs (Std.TransCmp (compareLex (compareOn fun c => (rank history tab c).1)
        (compareOn fun c => (rank history tab c).2)))
    have hsorted := @pairwise_sortBy _ _ (fun _ _ => True) htrans (available excluded)
      (List.pairwise_of_forall fun _ _ => trivial)
    refine hsorted.imp fun {a b} hbefore => ?_
    have hle := isLE_of_before hbefore
    rw [Ordering.isLE_then_iff_or] at hle
    obtain hlt | ⟨heq, -⟩ := hle
    · exact Nat.le_of_lt (Nat.compare_eq_lt.1 hlt)
    · exact Nat.le_of_eq (Nat.compare_eq_eq.1 heq)

/-- The commands that a fuzzy query finds are available ones, each once. -/
theorem fuzzyMatches_subperm (input : String) (excluded : List Command) (tab : Option Tab) :
    ((fuzzyMatches lib input (available excluded) tab).map Prod.fst).Subperm (available excluded) := by
  have hscored (commands : List Command) :
      ((commands.filterMap fun c => (lib.score input c.searchText).map fun score =>
        (c, saturatingAdd16 score (bonus tab c))).map Prod.fst).Sublist commands := by
    induction commands with
    | nil => exact List.Sublist.refl _
    | cons c commands ih =>
      cases hscore : lib.score input c.searchText with
      | none => 
        rw [List.filterMap_cons_none (by rw [hscore]; rfl)]
        exact ih.cons _
      | some score =>
        rw [List.filterMap_cons_some (by rw [hscore]; rfl), List.map_cons]
        exact ih.cons_cons _
  exact (((sortByKeyRev_perm _ _).map _).subperm).trans (hscored _).subperm

/-- The list after a refilter: a typed form of an available command, or not. -/
theorem refilterCtx_cases (lib : Lib) (p : PaletteState) (excluded : List Command) (tab : Option Tab) :
    (∃ c ∉ excluded, ∃ arg, TypedForm lib p.input c arg ∧ p.refilterCtx lib excluded tab =
      { p with arg := some arg, filtered := [(c, some 65535)], selected := 0 }) ∨
    ((∀ c ∉ excluded, ∀ arg, ¬TypedForm lib p.input c arg) ∧ ∃ filtered,
      p.refilterCtx lib excluded tab =
        { p with arg := none, filtered, selected := clampSelection p.selected filtered.length } ∧
      (p.input = "" → ListsAll p.history excluded (filtered.map Prod.fst)) ∧
      (filtered.map Prod.fst).Subperm (available excluded)) := by
  rw [refilterCtx]
  split
  case h_1 c arg hverb =>
    obtain ⟨hparse, hfree⟩ := Option.filter_eq_some_iff.1 hverb
    exact .inl ⟨c, by simpa using hfree, arg, parseVerb_eq_some_iff.1 hparse, rfl⟩
  case h_2 hverb =>
    have hplain (commands : List Command) :
        (commands.map fun c => (c, (none : Option UInt16))).map Prod.fst = commands := by
      rw [List.map_map]
      exact List.map_id commands
    refine .inr ⟨fun c hc arg htyped => ?_, _, rfl, ?_, ?_⟩
    -- A form that is typed and not excluded would have been found by the first branch.
    · have hfound : (parseVerb lib p.input).filter (fun found => !excluded.contains found.1) =
          some (c, arg) :=
        Option.filter_eq_some_iff.2 ⟨parseVerb_eq_some_iff.2 htyped, by simpa using hc⟩
      rw [hverb] at hfound
      cases hfound
    · intro hempty
      rw [hempty, if_pos (by decide)]
      dsimp only
      rw [hplain]
      exact listsAll_sortBy p.history excluded tab
    · split
      · dsimp only
        rw [hplain]
        exact (sortBy_perm _ _).subperm
      · rw [List.map_map]
        exact fuzzyMatches_subperm p.input excluded tab

/-! ## Consistency -/

/-- A clamped highlight is in the list. -/
theorem selected_clamped (selected : ℕ) (filtered : List (Command × Option UInt16)) :
    clampSelection selected filtered.length < filtered.length ∨
      filtered = [] ∧ clampSelection selected filtered.length = 0 := by
  rw [clampSelection]
  cases filtered with
  | nil => exact .inr ⟨rfl, rfl⟩
  | cons first rest =>
    left
    rw [if_neg (by simp), List.length_cons]
    omega

/-- Moving the selection within the list changes nothing else. -/
theorem Consistent.select (h : Consistent lib excluded p) {selected : ℕ}
    (hselected : selected < p.filtered.length ∨ p.filtered = [] ∧ selected = 0) :
    Consistent lib excluded { p with selected } :=
  ⟨hselected, h.allowed, h.verbOnly, h.typed, h.arg, h.listed, h.recent, h.distinct⟩

/-- A typed form lists its command alone. -/
theorem consistent_of_typedForm {c : Command} {arg : String} (hfree : c ∉ excluded)
    (htyped : TypedForm lib p.input c arg) : Consistent lib excluded
      { p with arg := some arg, filtered := [(c, some 65535)], selected := 0 } := by
  refine ⟨.inl Nat.one_pos, ?_, ?_, ?_, ?_, ?_, ?_, List.nodup_singleton c⟩
  · intro d hd
    rwa [List.mem_singleton.1 hd]
  · intro d hd _
    rw [List.mem_singleton.1 hd]
    exact ⟨rfl, arg, htyped⟩
  · intro d _ arg' htyped'
    rw [(typedForm_unique htyped htyped').1]
    rfl
  · intro arg'
    rw [Option.some_inj]
    constructor
    · rintro rfl
      exact ⟨c, hfree, htyped⟩
    · rintro ⟨d, -, htyped'⟩
      exact (typedForm_unique htyped htyped').2
  · intro hinput
    exact absurd (hinput ▸ htyped) not_typedForm_empty
  · intro hinput
    exact absurd (hinput ▸ htyped) not_typedForm_empty

/-- Other queries list available commands. -/
theorem consistent_of_not_typedForm {filtered : List (Command × Option UInt16)}
    (hhistory : p.history.Nodup) (hlength : p.history.length ≤ historyLen)
    (hplain : ∀ c ∉ excluded, ∀ arg, ¬TypedForm lib p.input c arg)
    (hempty : p.input = "" → ListsAll p.history excluded (filtered.map Prod.fst))
    (hsub : (filtered.map Prod.fst).Subperm (available excluded)) : Consistent lib excluded
      { p with arg := none, filtered, selected := clampSelection p.selected filtered.length } := by
  have hnodup : (filtered.map Prod.fst).Nodup := by
    obtain ⟨found, hperm, hsublist⟩ := hsub
    exact hperm.nodup_iff.1 ((nodup_available excluded).sublist hsublist)
  have hmem {c : Command} (hc : c ∈ filtered.map Prod.fst) : c.isVerbOnly = false ∧ c ∉ excluded :=
    mem_available_iff.1 (hsub.subset hc)
  refine ⟨selected_clamped p.selected filtered, ?_, ?_, ?_, ?_, ?_, ?_, hnodup⟩
  · exact fun c hc => (hmem hc).2
  · intro c hc hverb
    rw [(hmem hc).1] at hverb
    cases hverb
  · exact fun c hfree arg htyped => absurd htyped (hplain c hfree arg)
  · intro arg
    refine ⟨fun hnone => ?_, fun ⟨c, hfree, htyped⟩ => absurd htyped (hplain c hfree arg)⟩
    cases hnone
  · intro hinput c
    rw [← mem_available_iff]
    exact (hempty hinput).perm.mem_iff
  · intro hinput
    exact ⟨_, RecentlyUsed.recent_append_rest hhistory hlength hnodup (hempty hinput).sorted,
      fun c hc => of_decide_eq_true (List.mem_filter.1 hc).2⟩

/-- Whatever the palette held, what it lists after a refilter goes with the query. -/
theorem consistent_refilterCtx (hhistory : p.history.Nodup) (hlength : p.history.length ≤ historyLen)
    (excluded : List Command) (tab : Option Tab) :
    Consistent lib excluded (p.refilterCtx lib excluded tab) := by
  obtain ⟨c, hfree, arg, htyped, heq⟩ | ⟨hplain, filtered, heq, hempty, hsub⟩ :=
    refilterCtx_cases lib p excluded tab
  · rw [heq]
    exact consistent_of_typedForm hfree htyped
  · rw [heq]
    exact consistent_of_not_typedForm hhistory hlength hplain hempty hsub

end PaletteState

end Muxtop.Tui
