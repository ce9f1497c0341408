import Mathlib.Data.List.AList

/-!
# Keeping part of a finite map

The entries of a finite map that pass a test, and what is looked up afterwards; how many entries a map
holds.
-/

namespace AList

variable {α β : Type*}

/-- The entries whose value passes the test. -/
def retain (m : AList fun _ : α => β) (keep : β → Bool) : AList fun _ : α => β where
  entries := m.entries.filter fun entry => keep entry.2
  nodupKeys := m.nodupKeys.sublist List.filter_sublist

/-- How many keys the map holds. -/
def size (m : AList fun _ : α => β) : ℕ := m.entries.length

theorem size_retain_le (m : AList fun _ : α => β) (keep : β → Bool) :
    (m.retain keep).size ≤ m.size :=
  List.length_filter_le _ _

variable [DecidableEq α]

theorem lookup_retain (m : AList fun _ : α => β) (keep : β → Bool) (a : α) :
    (m.retain keep).lookup a = (m.lookup a).filter keep := by
  ext b
  rw [Option.filter_eq_some_iff, ← Option.mem_def, ← Option.mem_def, mem_lookup_iff, mem_lookup_iff]
  simp [retain]

/-- The entries under the given keys. -/
def retainKeys (m : AList fun _ : α => β) (keys : List α) : AList fun _ : α => β where
  entries := m.entries.filter fun entry => decide (entry.1 ∈ keys)
  nodupKeys := m.nodupKeys.sublist List.filter_sublist

theorem lookup_retainKeys (m : AList fun _ : α => β) (keys : List α) (a : α) :
    (m.retainKeys keys).lookup a = if a ∈ keys then m.lookup a else none := by
  ext b
  rw [← Option.mem_def, mem_lookup_iff]
  split
  case isTrue h =>
    rw [← Option.mem_def, mem_lookup_iff]
    simp [retainKeys, h]
  case isFalse h => simp [retainKeys, h]

theorem lookup_insert_eq (m : AList fun _ : α => β) (a a' : α) (b : β) :
    (m.insert a b).lookup a' = if a' = a then some b else m.lookup a' := by
  split
  case isTrue h => rw [h, lookup_insert]
  case isFalse h => exact lookup_insert_ne h

/-- A value under a known key replaces another. -/
theorem size_insert_of_mem {m : AList fun _ : α => β} {a : α} (h : a ∈ m) (b : β) :
    (m.insert a b).size = m.size := by
  have hkeys : (m.insert a b).keys.length = m.keys.length := by
    have hpos : 0 < m.keys.length := List.length_pos_of_mem h
    rw [keys_insert, List.length_cons, List.length_erase_of_mem h]
    omega
  simpa [keys, List.keys, size] using hkeys

/-- A value under a new key is one more. -/
theorem size_insert_of_notMem {m : AList fun _ : α => β} {a : α} (h : a ∉ m) (b : β) :
    (m.insert a b).size = m.size + 1 := by
  rw [insert_of_notMem h]
  rfl

end AList
