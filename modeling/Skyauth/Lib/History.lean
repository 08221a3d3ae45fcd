import Mathlib.Data.List.Induction
import Mathlib.Logic.Function.Basic

/-!
# Histories of one cell

A cell is written by the events of a history: an event stores a value, empties the cell, or leaves
it alone. `latest` is the content of the cell after a history, which is the value of the last event
that stored one, unless a later event emptied the cell.

A list is justified by a relation if every entry is related to the part of the list before it. Something
holds since something else if it holds of all entries after some entry of the other kind.
-/

namespace History

variable {ε V : Type} {write : ε → Option (Option V)} {tr : List ε} {e : ε}

/-- The content of a cell after a history: `write e` is what the event `e` puts into it, if it
    writes it at all. -/
def latest (write : ε → Option (Option V)) (tr : List ε) : Option V :=
  tr.foldl (fun content e => (write e).getD content) none

@[simp] theorem latest_nil : latest write [] = none := rfl

@[simp] theorem latest_snoc : latest write (tr ++ [e]) = (write e).getD (latest write tr) := by
  simp [latest]

theorem latest_snoc_of_silent (h : write e = none) : latest write (tr ++ [e]) = latest write tr := by
  rw [latest_snoc, h, Option.getD_none]

/-- The content comes from an event that stored it, after which the cell was not written. -/
theorem exists_write_of_latest {v : V} (h : latest write tr = some v) :
    ∃ pre e post, tr = pre ++ e :: post ∧ write e = some (some v) ∧ ∀ x ∈ post, write x = none := by
  induction tr using List.reverseRecOn with
  | nil => cases h
  | append_singleton tr e ih =>
    cases hw : write e with
    | none =>
      rw [latest_snoc_of_silent hw] at h
      obtain ⟨pre, e', post, rfl, he', hpost⟩ := ih h
      refine ⟨pre, e', post ++ [e], by simp, he', ?_⟩
      intro x hx
      rcases List.mem_append.1 hx with hx | hx
      · exact hpost x hx
      · rw [List.mem_singleton.1 hx]
        exact hw
    | some content =>
      rw [latest_snoc, hw, Option.getD_some] at h
      exact ⟨tr, e, [], rfl, by rw [hw, h], by simp⟩

/-- One event for a family of cells that writes the cell of its own key only. -/
theorem getD_ite_eq_update {K : Type} [DecidableEq K] (f : K → Option V) (k : K) (content : Option V) :
    (fun k' => (if k = k' then some content else none).getD (f k')) = Function.update f k content := by
  funext k'
  by_cases hk : k = k'
  · subst hk
    simp
  · rw [Function.update_of_ne (Ne.symm hk), if_neg hk, Option.getD_none]

/-! ## Justified lists -/

/-- Every entry of the list is justified by what stands before it. -/
def Justified (P : List ε → ε → Prop) (l : List ε) : Prop :=
  ∀ pre x post, l = pre ++ x :: post → P pre x

theorem justified_nil (P : List ε → ε → Prop) : Justified P [] := by
  intro pre x post h
  simp at h

/-- A justified list goes on with entries that it justifies. -/
theorem Justified.append {P : List ε → ε → Prop} {l l' : List ε}
    (hmono : ∀ pre more x, P pre x → P (pre ++ more) x) (h : Justified P l) (h' : ∀ x ∈ l', P l x) :
    Justified P (l ++ l') := by
  intro pre x post hsplit
  rcases List.append_eq_append_iff.1 hsplit with ⟨more, rfl, hmore⟩ | ⟨more, hl, hmore⟩
  · exact hmono _ _ _ (h' x (by simp [hmore]))
  · cases more with
    | nil =>
      rw [List.append_nil] at hl
      rw [List.nil_append] at hmore
      rw [← hl]
      exact h' x (hmore ▸ List.mem_cons_self)
    | cons y more =>
      obtain ⟨rfl, -⟩ := List.cons.inj hmore
      exact h pre x more hl

theorem Justified.snoc {P : List ε → ε → Prop} {l : List ε} (h : Justified P l) {x : ε} (hx : P l x) :
    Justified P (l ++ [x]) := by
  intro pre y post hsplit
  rcases List.eq_nil_or_concat post with rfl | ⟨post, z, rfl⟩
  · obtain ⟨rfl, heq⟩ := List.append_inj' hsplit rfl
    obtain rfl := List.singleton_inj.1 heq
    exact hx
  · have hinit : l ++ [x] = (pre ++ y :: post) ++ [z] := by simpa using hsplit
    exact h pre y post (List.append_inj' hinit rfl).1

/-- What justifies less justifies more. -/
theorem Justified.imp {P Q : List ε → ε → Prop} {l : List ε} (himp : ∀ pre x, P pre x → Q pre x)
    (h : Justified P l) : Justified Q l :=
  fun pre x post hsplit => himp pre x (h pre x post hsplit)

/-! ## Since -/

/-- An entry satisfies `P`, and `Q` holds of every entry after it. -/
def Since (P Q : ε → Prop) (l : List ε) : Prop :=
  ∃ pre x post, l = pre ++ x :: post ∧ P x ∧ ∀ y ∈ post, Q y

theorem not_since_nil (P Q : ε → Prop) : ¬Since P Q [] := by
  rintro ⟨pre, x, post, h, -⟩
  simp at h

theorem since_snoc {P Q : ε → Prop} {l : List ε} {x : ε} :
    Since P Q (l ++ [x]) ↔ P x ∨ Since P Q l ∧ Q x := by
  constructor
  · rintro ⟨pre, y, post, hsplit, hy, hpost⟩
    rcases List.eq_nil_or_concat post with rfl | ⟨post, z, rfl⟩
    · obtain ⟨-, heq⟩ := List.append_inj' hsplit rfl
      obtain rfl := List.singleton_inj.1 heq
      exact Or.inl hy
    · have hinit : l ++ [x] = (pre ++ y :: post) ++ [z] := by simpa using hsplit
      obtain ⟨rfl, heq⟩ := List.append_inj' hinit rfl
      obtain rfl := List.singleton_inj.1 heq
      exact Or.inr ⟨⟨pre, y, post, rfl, hy, fun w hw => hpost w (by simp [hw])⟩, hpost x (by simp)⟩
  · rintro (hx | ⟨⟨pre, y, post, rfl, hy, hpost⟩, hx⟩)
    · exact ⟨l, x, [], rfl, hx, by simp⟩
    · refine ⟨pre, y, post ++ [x], by simp, hy, fun w hw => ?_⟩
      rcases List.mem_append.1 hw with hw | hw
      · exact hpost w hw
      · rw [List.mem_singleton.1 hw]
        exact hx

end History
