import Mathlib.Data.List.AList
import Mathlib.Data.Set.Card
import Mathlib.Data.Set.Finite.Lemmas

/-!
# Finite tables

A `Table K V` is a finite map with at most one value per key, built on Mathlib's association lists.
On top of `lookup`, `insert` and `erase` it adds the two operations a hash map offers beyond them:
the number of entries and `retain`, which drops every entry that fails a test.
-/

/-- A finite map from `K` to `V`: an association list without duplicate keys. -/
abbrev Table (K V : Type) := AList (fun _ : K => V)

namespace AList

variable {K V : Type}

/-- The number of entries. -/
def size (m : Table K V) : ℕ := m.entries.length

/-- Keeps the entries that pass the test `p`. -/
def retain (p : K → V → Bool) (m : Table K V) : Table K V :=
  ⟨m.entries.filter (fun e => p e.1 e.2), m.nodupKeys.sublist List.filter_sublist⟩

@[simp] theorem size_empty : size (∅ : Table K V) = 0 := rfl

theorem size_retain_le (p : K → V → Bool) (m : Table K V) : (m.retain p).size ≤ m.size :=
  List.length_filter_le _ _

theorem mem_entries_retain {p : K → V → Bool} {m : Table K V} {k : K} {v : V} :
    ⟨k, v⟩ ∈ (m.retain p).entries ↔ ⟨k, v⟩ ∈ m.entries ∧ p k v = true := by
  simp [retain]

/-- Two `retain` passes keep what passes both tests. -/
theorem retain_retain (p q : K → V → Bool) (m : Table K V) :
    (m.retain p).retain q = m.retain (fun k v => p k v && q k v) := by
  apply AList.ext
  simp [retain, List.filter_filter, Bool.and_comm]

/-- The entries that pass a test and those that fail it. -/
theorem size_retain_add_size_retain_not (p : K → V → Bool) (m : Table K V) :
    (m.retain p).size + (m.retain fun k v => !p k v).size = m.size :=
  (List.length_eq_length_filter_add fun e : (_ : K) × V => p e.1 e.2).symm

/-- A test that drops no entry changes nothing. -/
theorem retain_eq_self_of_size_le {p : K → V → Bool} {m : Table K V} (h : m.size ≤ (m.retain p).size) :
    m.retain p = m :=
  AList.ext (List.filter_sublist.eq_of_length_le h)

variable [DecidableEq K]

theorem mem_entries_iff {m : Table K V} {k : K} {v : V} :
    ⟨k, v⟩ ∈ m.entries ↔ m.lookup k = some v :=
  (AList.mem_lookup_iff (s := m)).symm

/-- Looking a key up after `retain`: its value survives exactly if it passes the test. -/
@[simp] theorem lookup_retain (p : K → V → Bool) (m : Table K V) (k : K) :
    (m.retain p).lookup k = (m.lookup k).filter (p k) := by
  ext v
  rw [← mem_entries_iff, mem_entries_retain, mem_entries_iff, Option.filter_eq_some_iff]

/-- Looking keys up after an insertion. -/
theorem lookup_insert_fun (m : Table K V) (k : K) (v : V) :
    (fun k' => (m.insert k v).lookup k') = Function.update (fun k' => m.lookup k') k (some v) := by
  funext k'
  by_cases hk : k' = k
  · rw [hk, lookup_insert, Function.update_self]
  · rw [lookup_insert_ne hk, Function.update_of_ne hk]

/-- Looking keys up after a removal. -/
theorem lookup_erase_fun (m : Table K V) (k : K) :
    (fun k' => (m.erase k).lookup k') = Function.update (fun k' => m.lookup k') k none := by
  funext k'
  by_cases hk : k' = k
  · rw [hk, lookup_erase, Function.update_self]
  · rw [lookup_erase_ne hk, Function.update_of_ne hk]

/-- What is found after an insertion is the new value, or was there before. -/
theorem lookup_of_lookup_insert {m : Table K V} {k k' : K} {v v' : V}
    (h : (m.insert k v).lookup k' = some v') : k' = k ∧ v' = v ∨ m.lookup k' = some v' := by
  by_cases hk : k' = k
  · rw [hk, lookup_insert, Option.some.injEq] at h
    exact Or.inl ⟨hk, h.symm⟩
  · rw [lookup_insert_ne hk] at h
    exact Or.inr h

/-- What is found after a removal was there before. -/
theorem lookup_of_lookup_erase {m : Table K V} {k k' : K} {v : V} (h : (m.erase k).lookup k' = some v) :
    m.lookup k' = some v := by
  by_cases hk : k' = k
  · rw [hk, lookup_erase] at h
    cases h
  · rwa [lookup_erase_ne hk] at h

theorem size_erase_of_mem {m : Table K V} {k : K} (h : k ∈ m) :
    (AList.erase k m).size + 1 = m.size := by
  have hk : k ∈ m.keys := h
  have hlen : ∀ t : Table K V, t.size = t.keys.length := fun t => by simp [size, AList.keys, List.keys]
  rw [hlen, hlen, AList.keys_erase, List.length_erase_of_mem hk]
  have : 0 < m.keys.length := List.length_pos_of_mem hk
  omega

theorem size_erase_le (m : Table K V) (k : K) : (AList.erase k m).size ≤ m.size :=
  (List.kerase_sublist k m.entries).length_le

/-- Replacing a stored value keeps the number of entries. -/
theorem size_insert_of_mem {m : Table K V} {k : K} (v : V) (h : k ∈ m) :
    (AList.insert k v m).size = m.size := by
  have he := size_erase_of_mem h
  simp only [size, AList.entries_insert, List.length_cons]
  exact he

theorem size_insert_of_notMem {m : Table K V} {k : K} (v : V) (h : k ∉ m) :
    (AList.insert k v m).size = m.size + 1 := by
  have hk : k ∉ m.entries.keys := h
  simp [size, List.kerase_of_notMem_keys hk]

theorem size_insert_le (m : Table K V) (k : K) (v : V) : (AList.insert k v m).size ≤ m.size + 1 := by
  by_cases h : k ∈ m
  · rw [size_insert_of_mem v h]
    omega
  · rw [size_insert_of_notMem v h]

/-- The number of entries that pass a test, as the cardinality of the set of their keys. -/
theorem size_retain_eq_encard (p : K → V → Bool) (m : Table K V) :
    ((m.retain p).size : ℕ∞) = {k | ∃ v, m.lookup k = some v ∧ p k v = true}.encard := by
  have hset : {k | ∃ v, m.lookup k = some v ∧ p k v = true} = ((m.retain p).keys.toFinset : Set K) := by
    ext k
    simp only [Set.mem_ofPred_eq, List.coe_toFinset, ← AList.mem_keys, ← AList.lookup_isSome,
      lookup_retain, Option.isSome_iff_exists, Option.filter_eq_some_iff]
  rw [hset, Set.encard_coe_eq_coe_finsetCard,
    List.toFinset_card_of_nodup (AList.keys_nodup _)]
  simp [size, AList.keys, List.keys]

theorem size_pos_of_lookup {m : Table K V} {k : K} {v : V} (h : m.lookup k = some v) : 0 < m.size :=
  List.length_pos_of_mem (mem_entries_iff.2 h)

/-- An entry that fails the test is dropped. -/
theorem size_retain_lt {p : K → V → Bool} {m : Table K V} {k : K} {v : V} (h : m.lookup k = some v)
    (hp : p k v = false) : (m.retain p).size < m.size := by
  have hdropped : (m.retain fun k v => !p k v).lookup k = some v := by simp [h, hp]
  have hpos := size_pos_of_lookup hdropped
  have hadd := size_retain_add_size_retain_not p m
  omega

theorem retain_eq_self {p : K → V → Bool} {m : Table K V}
    (h : ∀ k v, m.lookup k = some v → p k v = true) : m.retain p = m := by
  apply AList.ext
  refine List.filter_eq_self.2 fun e he => ?_
  exact h e.1 e.2 (mem_entries_iff.1 he)

/-- A test that at most one key passes leaves at most one entry. -/
theorem size_retain_le_one {p : K → V → Bool} {m : Table K V}
    (h : ∀ k v k' v', m.lookup k = some v → p k v = true → m.lookup k' = some v' → p k' v' = true →
      k = k') : (m.retain p).size ≤ 1 := by
  have hcard := size_retain_eq_encard p m
  have hle : {k | ∃ v, m.lookup k = some v ∧ p k v = true}.encard ≤ 1 := by
    rw [Set.encard_le_one_iff]
    rintro k k' ⟨v, hv, hp⟩ ⟨v', hv', hp'⟩
    exact h k v k' v' hv hp hv' hp'
  rw [← hcard] at hle
  exact_mod_cast hle

/-- A table with entries has one that is least by a measure. -/
theorem exists_min (f : V → ℕ) {m : Table K V} (h : 0 < m.size) :
    ∃ k v, m.lookup k = some v ∧ ∀ k' v', m.lookup k' = some v' → f v ≤ f v' := by
  obtain ⟨first, hfirst⟩ := List.exists_mem_of_length_pos h
  obtain ⟨⟨k, v⟩, hmem, hmin⟩ :=
    Set.exists_min_image {e | e ∈ m.entries} (fun e => f e.2) (List.finite_toSet m.entries) ⟨first, hfirst⟩
  exact ⟨k, v, mem_entries_iff.1 hmem, fun k' v' h' => hmin ⟨k', v'⟩ (mem_entries_iff.2 h')⟩

end AList
