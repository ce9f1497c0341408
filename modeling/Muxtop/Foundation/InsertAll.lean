import Muxtop.Foundation.Retain

/-!
# Entering a list of values into a finite map

A later value replaces an earlier one under the same key.
-/

namespace AList

variable {α β : Type*} [DecidableEq α]

/-- Enter the pairs one after the other. -/
def insertAll (m : AList fun _ : α => β) (pairs : List (α × β)) : AList fun _ : α => β :=
  pairs.foldl (fun m pair => m.insert pair.1 pair.2) m

/-- The value last entered under a key is the one found there. -/
theorem lookup_insertAll : (pairs : List (α × β)) → (m : AList fun _ : α => β) → (a : α) →
    (m.insertAll pairs).lookup a =
      ((pairs.filter (·.1 = a)).getLast?.map (·.2)).or (m.lookup a)
  | [], m, a => by simp [insertAll]
  | pair :: pairs, m, a => by
      have ih := lookup_insertAll pairs (m.insert pair.1 pair.2) a
      have hunfold : m.insertAll (pair :: pairs) = (m.insert pair.1 pair.2).insertAll pairs := rfl
      rw [hunfold, ih, lookup_insert_eq]
      by_cases hkey : pair.1 = a
      case pos =>
        rw [if_pos hkey.symm, List.filter_cons_of_pos (by simpa using hkey), List.getLast?_cons]
        cases (pairs.filter (·.1 = a)).getLast? <;> rfl
      case neg =>
        rw [if_neg (Ne.symm hkey), List.filter_cons_of_neg (by simpa using hkey)]

/-- Entering, each under its key, the items whose key will do: a key that will do finds the last item
under it, and no other key finds any. -/
theorem lookup_insertAll_map {ι : Type*} (key : ι → α) (value : ι → β) (ok : α → Bool) (items : List ι)
    (a : α) :
    (insertAll ∅ ((items.filter fun i => ok (key i)).map fun i => (key i, value i))).lookup a =
      (if ok a then (items.filter fun i => key i = a).getLast? else none).map value := by
  have hfilter : ((items.filter fun i => ok (key i)).map fun i => (key i, value i)).filter (·.1 = a) =
      (if ok a then items.filter fun i => key i = a else []).map fun i => (key i, value i) := by
    rw [List.filter_map, List.filter_filter]
    refine congrArg _ ?_
    cases hok : ok a
    case true =>
      refine List.filter_congr fun i _ => ?_
      by_cases hkey : key i = a
      · simp [hkey, hok]
      · simp [hkey]
    case false =>
      refine List.filter_eq_nil_iff.2 fun i _ hi => ?_
      simp only [Function.comp_apply, Bool.and_eq_true, decide_eq_true_eq] at hi
      obtain ⟨rfl, hi⟩ := hi
      rw [hok] at hi
      cases hi
  rw [lookup_insertAll, hfilter, List.getLast?_map, lookup_empty, Option.or_none, Option.map_map]
  cases ok a <;> rfl

end AList
