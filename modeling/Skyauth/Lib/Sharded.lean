import Skyauth.Lib.Expiring
import Mathlib.Algebra.BigOperators.Group.Finset.Basic

/-!
# Maps split over several tables

A map may be kept in a family of tables, each key in the table that its index selects. Looking a key
up in its own table makes the family one partial map, `find`; the lemmas say what replacing one of the
tables does to it.
-/

namespace Sharded

variable {K V T ι : Type} [DecidableEq K]

/-- The value of a key in the table of its index. -/
def find (index : K → ι) (tables : ι → Table K V) (k : K) : Option V := (tables (index k)).lookup k

variable [DecidableEq ι] {index : K → ι} {tables : ι → Table K V} {i : ι} {table : Table K V} {k : K}

theorem find_update : find index (Function.update tables i table) k =
    if index k = i then table.lookup k else find index tables k := by
  unfold find
  by_cases h : index k = i
  · rw [if_pos h, h, Function.update_self]
  · rw [if_neg h, Function.update_of_ne h]

/-- Replacing a table by one with no more entries brings nothing new. -/
theorem find_of_find_update {v : V} (hsub : ∀ k v, table.lookup k = some v → (tables i).lookup k = some v)
    (h : find index (Function.update tables i table) k = some v) : find index tables k = some v := by
  rw [find_update] at h
  split at h
  · rename_i hi
    rw [find, hi]
    exact hsub k v h
  · exact h

/-- Inserting into the table of a key sets its value. -/
theorem find_update_insert {v : V} :
    find index (Function.update tables (index k) (table.insert k v)) =
      Function.update (find index (Function.update tables (index k) table)) k (some v) := by
  funext k'
  by_cases hk : k' = k
  · subst hk
    simp [find_update]
  · rw [Function.update_of_ne hk, find_update, find_update, AList.lookup_insert_ne hk]

/-- Erasing from the table of a key removes its value. -/
theorem find_update_erase :
    find index (Function.update tables (index k) ((tables (index k)).erase k)) =
      Function.update (find index tables) k none := by
  funext k'
  rw [find_update]
  by_cases hk : k' = k
  · subst hk
    simp
  · rw [Function.update_of_ne hk, AList.lookup_erase_ne hk]
    split
    · rename_i hi
      rw [find, hi]
    · rfl

/-- Replacing a table by one that shows the same cannot be seen. -/
theorem agreeAt_update {expired : V → T → Bool} {t : T}
    (h : Expiring.AgreeAt expired t (fun k => table.lookup k) (fun k => (tables i).lookup k)) :
    Expiring.AgreeAt expired t (find index (Function.update tables i table)) (find index tables) := by
  intro k
  rw [find_update]
  by_cases hk : index k = i
  · rw [if_pos hk]
    subst hk
    exact h k
  · rw [if_neg hk]

/-- With each key in its own table only, the entries that pass a test are as many as their keys. -/
theorem sum_size_retain [Fintype ι]
    (hindex : ∀ i k v, (tables i).lookup k = some v → index k = i) (p : K → V → Bool) {keys : Finset K}
    (hkeys : ∀ k, k ∈ keys ↔ ∃ v, find index tables k = some v ∧ p k v = true) :
    ∑ i, ((tables i).retain p).size = keys.card := by
  rw [Finset.card_eq_sum_card_fiberwise (t := Finset.univ) (f := index) fun _ _ => Finset.mem_univ _]
  refine Finset.sum_congr rfl fun i _ => ?_
  have hset : {k | ∃ v, (tables i).lookup k = some v ∧ p k v = true} =
      ({k ∈ keys | index k = i} : Finset K) := by
    ext k
    simp only [Set.mem_ofPred_eq, Finset.coe_filter, hkeys, find]
    constructor
    · rintro ⟨v, hv, hp⟩
      obtain rfl := hindex i k v hv
      exact ⟨⟨v, hv, hp⟩, rfl⟩
    · rintro ⟨⟨v, hv, hp⟩, rfl⟩
      exact ⟨v, hv, hp⟩
  have hsize := AList.size_retain_eq_encard p (tables i)
  rw [hset, Set.encard_coe_eq_coe_finsetCard] at hsize
  exact_mod_cast hsize

end Sharded
