import Skyauth.Lib.Text

/-!
# Labels and dotted names

A label is a bounded text of letters, digits and hyphens with no hyphen at its ends; a dotted name is
labels with dots between them. Both are ASCII, so that lengths in bytes and in characters agree, and a
name in which two dots meet has an empty label.
-/

namespace Label

/-- The characters of a label. -/
def isLabelChar (c : Char) : Bool := c.isAlphanum || c == '-'

/-- A label of at most `max` characters. -/
structure IsLabel (max : Nat) (label : String) : Prop where
  length_pos : 1 ≤ label.toList.length
  length_le : label.toList.length ≤ max
  chars : ∀ c ∈ label.toList, isLabelChar c = true
  head : label.toList.head? ≠ some '-'
  last : label.toList.getLast? ≠ some '-'

theorem isAlphanum_toNat {c : Char} (h : c.isAlphanum = true) :
    48 ≤ c.toNat ∧ c.toNat ≤ 57 ∨ 65 ≤ c.toNat ∧ c.toNat ≤ 90 ∨ 97 ≤ c.toNat ∧ c.toNat ≤ 122 := by
  rw [Text.isAlphanum_iff, Text.isUpper_iff, Text.isLower_iff, Text.isDigit_iff] at h
  omega

theorem isLabelChar_visible {c : Char} (h : isLabelChar c = true) : 33 ≤ c.toNat ∧ c.toNat ≤ 126 := by
  rw [isLabelChar, Bool.or_eq_true, beq_iff_eq] at h
  rcases h with h | rfl
  · have := isAlphanum_toNat h
    omega
  · decide

theorem isLabelChar_ascii {c : Char} (h : isLabelChar c = true) : c.toNat < 128 := by
  have := isLabelChar_visible h
  omega

/-- A label is what passes the checks: on the bytes, on both ends and on each character. -/
theorem isLabel_iff {max : Nat} {label : String} :
    IsLabel max label ↔ label ≠ "" ∧ label.utf8ByteSize ≤ max ∧ Text.startsWith label "-" = false ∧
      Text.endsWith label "-" = false ∧ label.toList.all isLabelChar = true := by
  have hyphen : "-" = String.singleton '-' := rfl
  have hhead : Text.startsWith label "-" = false ↔ label.toList.head? ≠ some '-' := by
    rw [hyphen, ← Bool.not_eq_true, Text.startsWith_char]
  have hlast : Text.endsWith label "-" = false ↔ label.toList.getLast? ≠ some '-' := by
    rw [hyphen, ← Bool.not_eq_true, Text.endsWith_char]
  have hempty : label ≠ "" ↔ 1 ≤ label.toList.length := by
    rw [Nat.succ_le_iff, List.length_pos_iff, ne_eq, ne_eq, not_iff_not, String.toList_eq_nil_iff]
  rw [hhead, hlast, hempty, List.all_eq_true]
  constructor
  · rintro ⟨hpos, hle, hchars, hfirst, hend⟩
    refine ⟨hpos, ?_, hfirst, hend, hchars⟩
    rw [Text.utf8ByteSize_of_ascii fun c hc => isLabelChar_ascii (hchars c hc)]
    exact hle
  · rintro ⟨hpos, hle, hfirst, hend, hchars⟩
    rw [Text.utf8ByteSize_of_ascii fun c hc => isLabelChar_ascii (hchars c hc)] at hle
    exact ⟨hpos, hle, hchars, hfirst, hend⟩

/-- A label begins with a letter or a digit. -/
theorem IsLabel.exists_head {max : Nat} {label : String} (h : IsLabel max label) :
    ∃ c rest, label.toList = c :: rest ∧ c.isAlphanum = true := by
  obtain ⟨c, rest, hlabel⟩ := List.exists_cons_of_length_pos h.length_pos
  have hc := h.chars c (by rw [hlabel]; exact List.mem_cons_self ..)
  rw [isLabelChar, Bool.or_eq_true, beq_iff_eq] at hc
  refine ⟨c, rest, hlabel, hc.resolve_right ?_⟩
  rintro rfl
  exact h.head (by rw [hlabel]; rfl)

/-- The characters of a dotted name. -/
theorem char_of_labels {max : Nat} {name : String} (h : ∀ label ∈ Text.split '.' name, IsLabel max label)
    {c : Char} (hc : c ∈ name.toList) : c = '.' ∨ isLabelChar c = true := by
  rcases @Text.mem_split '.' _ _ hc with rfl | ⟨label, hlabel, hmem⟩
  · exact Or.inl rfl
  · exact Or.inr ((h label hlabel).chars c hmem)

/-- Between two dots that meet there is an empty label. -/
theorem empty_mem_split {name : String} (h : Text.contains name ".." = true) :
    "" ∈ Text.split '.' name := by
  obtain ⟨a, b, rfl⟩ := Text.contains_iff.1 h
  have hcut : a ++ ".." ++ b = a ++ String.singleton '.' ++ ("" ++ String.singleton '.' ++ b) := by
    rw [← String.toList_inj]
    simp
  rw [hcut, Text.split_append, Text.split_append]
  exact List.mem_append_right _ (List.mem_append_left _ (by decide))

theorem not_contains_dots {max : Nat} {name : String}
    (h : ∀ label ∈ Text.split '.' name, IsLabel max label) : Text.contains name ".." = false := by
  rw [← Bool.not_eq_true]
  intro hdots
  exact absurd (h _ (empty_mem_split hdots)).length_pos (by decide)

end Label
