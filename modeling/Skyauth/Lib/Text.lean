import Mathlib.Data.List.DropRight
import Mathlib.Data.List.Infix

/-!
# Text operations

The string operations of the Rust standard library that the modelled code uses, defined on the
characters of a string. Whitespace is Unicode `White_Space`; the case operations are the ASCII ones.
-/

namespace Text

/-- `char::is_whitespace`: the characters with the Unicode property `White_Space`. -/
def isWhitespace (c : Char) : Bool :=
  let n := c.toNat
  (0x09 ≤ n && n ≤ 0x0d) || n == 0x20 || n == 0x85 || n == 0xa0 || n == 0x1680 ||
    (0x2000 ≤ n && n ≤ 0x200a) || n == 0x2028 || n == 0x2029 || n == 0x202f || n == 0x205f || n == 0x3000

/-- `str::trim_start_matches` with a character test. -/
def trimStartMatches (p : Char → Bool) (s : String) : String := String.ofList (s.toList.dropWhile p)

/-- `str::trim_end_matches` with a character test. -/
def trimEndMatches (p : Char → Bool) (s : String) : String := String.ofList (s.toList.rdropWhile p)

/-- `str::trim_matches` with a character test. -/
def trimMatches (p : Char → Bool) (s : String) : String :=
  String.ofList ((s.toList.dropWhile p).rdropWhile p)

def trim (s : String) : String := trimMatches isWhitespace s

def trimStart (s : String) : String := trimStartMatches isWhitespace s

/-- `str::split` on one character: one more piece than there are separators. -/
def split (sep : Char) (s : String) : List String := (s.toList.splitOn sep).map String.ofList

/-- `str::split_once` on one character: the text before and after its first occurrence. -/
def splitOnce (sep : Char) (s : String) : Option (String × String) :=
  match s.toList.dropWhile (· ≠ sep) with
  | [] => none
  | _ :: rest => some (String.ofList (s.toList.takeWhile (· ≠ sep)), String.ofList rest)

/-- `str::split_once` with a character test: the text before and after the first character that passes. -/
def splitOnceP (p : Char → Bool) (s : String) : Option (String × String) :=
  match s.toList.dropWhile (!p ·) with
  | [] => none
  | _ :: rest => some (String.ofList (s.toList.takeWhile (!p ·)), String.ofList rest)

/-- `str::split_whitespace`: the maximal runs of non-whitespace characters. -/
def splitWhitespace (s : String) : List String :=
  ((s.toList.splitOnP isWhitespace).filter (· ≠ [])).map String.ofList

/-- `str::starts_with`. -/
def startsWith (s start : String) : Bool := start.toList.isPrefixOf s.toList

/-- `str::ends_with`. -/
def endsWith (s ending : String) : Bool := ending.toList.isSuffixOf s.toList

/-- `str::contains` with a text. -/
def contains (s pattern : String) : Bool := s.toList.tails.any (pattern.toList.isPrefixOf ·)

/-- `str::strip_prefix`. -/
def stripPrefix (s start : String) : Option String :=
  if startsWith s start then some (String.ofList (s.toList.drop start.toList.length)) else none

/-- The scan of `str::replace` for a pattern, once the next `skip` characters have been passed over. -/
def replaceFrom (pattern new : List Char) : Nat → List Char → List Char
  | _, [] => []
  | skip + 1, _ :: rest => replaceFrom pattern new skip rest
  | 0, c :: rest =>
    if pattern.isPrefixOf (c :: rest) then new ++ replaceFrom pattern new (pattern.length - 1) rest
    else c :: replaceFrom pattern new 0 rest

/-- `str::replace` of a pattern that is not empty. -/
def replace (s pattern new : String) : String :=
  String.ofList (replaceFrom pattern.toList new.toList 0 s.toList)

def toAsciiLowercase (s : String) : String := String.ofList (s.toList.map Char.toLower)

def eqIgnoreAsciiCase (a b : String) : Bool := a.toList.map Char.toLower == b.toList.map Char.toLower

/-- The bytes of a string (`str::as_bytes`). -/
def asBytes (s : String) : List UInt8 := s.toUTF8.data.toList

/-- `str::from_utf8`. -/
def fromUtf8 (bytes : List UInt8) : Option String := String.fromUTF8? ⟨bytes.toArray⟩

/-! ## Splitting -/

/-- What holds of every character of a text, by evaluation on fixed text. -/
theorem forall_mem_of_all {s : String} {P : Char → Prop} [DecidablePred P]
    (h : s.toList.all (fun c => decide (P c)) = true) : ∀ c ∈ s.toList, P c := by
  simpa using h

/-- Text without the separator is one piece. -/
theorem split_eq_singleton {sep : Char} {s : String} (h : sep ∉ s.toList) : split sep s = [s] := by
  have hp : ∀ c ∈ s.toList, (c == sep) = false := by
    intro c hc
    rw [beq_eq_false_iff_ne]
    rintro rfl
    exact h hc
  rw [split, List.splitOn, List.splitOnP_eq_singleton hp]
  simp

/-- A separator separates. -/
theorem split_append (sep : Char) (a b : String) :
    split sep (a ++ String.singleton sep ++ b) = split sep a ++ split sep b := by
  simp only [split, List.splitOn, String.toList_append, String.toList_singleton, List.append_assoc,
    List.singleton_append]
  rw [List.splitOnP_append_cons (p := fun c => c == sep) _ _ (beq_self_eq_true sep), List.map_append]

/-- A text is one piece, or it has a first separator. -/
theorem split_cases (sep : Char) (s : String) :
    sep ∉ s.toList ∧ split sep s = [s] ∨
      ∃ a b, sep ∉ a.toList ∧ s = a ++ String.singleton sep ++ b ∧ split sep s = a :: split sep b := by
  by_cases h : sep ∈ s.toList
  · obtain ⟨as, bs, hs, hfirst⟩ := List.eq_append_cons_of_mem h
    have ha : sep ∉ (String.ofList as).toList := by simpa using hfirst
    have hcut : s = String.ofList as ++ String.singleton sep ++ String.ofList bs := by
      rw [← String.toList_inj, hs]
      simp
    refine Or.inr ⟨_, _, ha, hcut, ?_⟩
    nth_rewrite 1 [hcut]
    rw [split_append, split_eq_singleton ha, List.singleton_append]
  · exact Or.inl ⟨h, split_eq_singleton h⟩

/-- Every character but the separators is in one of the pieces. -/
theorem mem_split {sep c : Char} {s : String} (h : c ∈ s.toList) :
    c = sep ∨ ∃ piece ∈ split sep s, c ∈ piece.toList := by
  have hlist : ∀ l : List Char, c ∈ l → c = sep ∨ ∃ piece ∈ l.splitOn sep, c ∈ piece := by
    intro l
    induction l with
    | nil => simp
    | cons a l ih =>
      intro hc
      rw [List.splitOn, List.splitOnP_cons_eq_if_modifyHead]
      obtain ⟨first, rest, hl⟩ := List.exists_cons_of_ne_nil (List.splitOnP_ne_nil (· == sep) l)
      rw [List.splitOn, hl] at ih
      rw [hl]
      rcases List.mem_cons.1 hc with rfl | hc
      · by_cases ha : c = sep
        · exact Or.inl ha
        · simp [ha]
      · rcases ih hc with hsep | ⟨piece, hpiece, hmem⟩
        · exact Or.inl hsep
        · refine Or.inr ?_
          split
          · exact ⟨piece, List.mem_cons_of_mem _ hpiece, hmem⟩
          · rcases List.mem_cons.1 hpiece with rfl | hpiece
            · exact ⟨_, List.mem_cons_self .., List.mem_cons_of_mem _ hmem⟩
            · exact ⟨piece, List.mem_cons_of_mem _ hpiece, hmem⟩
  rcases hlist _ h with hsep | ⟨piece, hpiece, hmem⟩
  · exact Or.inl hsep
  · exact Or.inr ⟨String.ofList piece, List.mem_map_of_mem hpiece, by simpa using hmem⟩

/-- Every character of a piece is one of the text. -/
theorem mem_of_mem_split {sep c : Char} {s piece : String} (hpiece : piece ∈ split sep s)
    (hc : c ∈ piece.toList) : c ∈ s.toList := by
  -- by induction on the length: behind the first separator is a shorter text
  induction hn : s.toList.length using Nat.strong_induction_on generalizing s with
  | _ n ih =>
    rcases split_cases sep s with ⟨-, hsplit⟩ | ⟨a, b, -, rfl, hsplit⟩
    · rw [hsplit, List.mem_singleton] at hpiece
      rwa [← hpiece]
    · rw [hsplit] at hpiece
      rw [String.toList_append, String.toList_append]
      rcases List.mem_cons.1 hpiece with rfl | hpiece
      · exact List.mem_append_left _ (List.mem_append_left _ hc)
      · refine List.mem_append_right _ (ih b.toList.length ?_ hpiece rfl)
        simp only [String.toList_append, String.toList_singleton, List.length_append, List.length_cons,
          List.length_nil] at hn
        omega

/-- The first separator splits. -/
theorem splitOnce_append {sep : Char} {a : String} (h : sep ∉ a.toList) (b : String) :
    splitOnce sep (a ++ String.singleton sep ++ b) = some (a, b) := by
  have hp : ∀ c ∈ a.toList, decide (c ≠ sep) = true := by
    intro c hc
    rw [decide_eq_true_eq]
    rintro rfl
    exact h hc
  have hdrop : (a.toList ++ (sep :: b.toList)).dropWhile (· ≠ sep) = sep :: b.toList := by
    rw [List.dropWhile_append_of_pos hp]
    simp
  have htake : (a.toList ++ (sep :: b.toList)).takeWhile (· ≠ sep) = a.toList := by
    rw [List.takeWhile_append_of_pos hp]
    simp
  simp only [splitOnce, String.toList_append, String.toList_singleton, List.append_assoc,
    List.singleton_append, hdrop, htake, String.ofList_toList]

/-- The parts of a text that splits. -/
theorem splitOnce_eq_some {sep : Char} {s a b : String} (h : splitOnce sep s = some (a, b)) :
    s = a ++ String.singleton sep ++ b ∧ sep ∉ a.toList := by
  unfold splitOnce at h
  split at h
  · cases h
  · rename_i c rest hdrop
    simp only [Option.some.injEq, Prod.mk.injEq] at h
    obtain ⟨rfl, rfl⟩ := h
    obtain rfl : c = sep := by
      have := List.head?_dropWhile_not (· ≠ sep) s.toList
      rw [hdrop] at this
      simpa using this
    constructor
    · rw [← String.toList_inj]
      simp only [String.toList_append, String.toList_ofList, String.toList_singleton, List.append_assoc,
        List.singleton_append]
      rw [← hdrop, List.takeWhile_append_dropWhile]
    · intro hmem
      rw [String.toList_ofList] at hmem
      have := List.mem_takeWhile_imp hmem
      simp at this

/-- The first occurrence of a separator cuts a text in one way. -/
theorem append_cons_inj {α : Type} {sep : α} {a b x y : List α} (ha : sep ∉ a) (hb : sep ∉ b)
    (h : a ++ sep :: x = b ++ sep :: y) : a = b ∧ x = y := by
  induction a generalizing b with
  | nil =>
    cases b with
    | nil => exact ⟨rfl, List.tail_eq_of_cons_eq h⟩
    | cons d b => exact absurd (List.head_eq_of_cons_eq h ▸ List.mem_cons_self ..) hb
  | cons c a ih =>
    cases b with
    | nil => exact absurd (List.head_eq_of_cons_eq h ▸ List.mem_cons_self ..) ha
    | cons d b =>
      obtain ⟨hab, hxy⟩ := ih (fun hmem => ha (List.mem_cons_of_mem _ hmem))
        (fun hmem => hb (List.mem_cons_of_mem _ hmem)) (List.tail_eq_of_cons_eq h)
      exact ⟨by rw [List.head_eq_of_cons_eq h, hab], hxy⟩

theorem startsWith_iff {s start : String} : startsWith s start = true ↔ ∃ rest, s = start ++ rest := by
  rw [startsWith, List.isPrefixOf_iff_prefix]
  constructor
  · rintro ⟨rest, h⟩
    exact ⟨String.ofList rest, by rw [← String.toList_inj, ← h]; simp⟩
  · rintro ⟨rest, rfl⟩
    exact ⟨rest.toList, by simp⟩

/-! ## Trimming -/

theorem contains_iff {s pattern : String} :
    contains s pattern = true ↔ ∃ a b, s = a ++ pattern ++ b := by
  simp only [contains, List.any_eq_true, List.mem_tails, List.isPrefixOf_iff_prefix]
  constructor
  · rintro ⟨tail, ⟨before, hbefore⟩, ⟨rest, hrest⟩⟩
    refine ⟨String.ofList before, String.ofList rest, ?_⟩
    rw [← String.toList_inj, ← hbefore, ← hrest]
    simp
  · rintro ⟨a, b, rfl⟩
    exact ⟨(pattern ++ b).toList, ⟨a.toList, by simp⟩, ⟨b.toList, by simp⟩⟩

theorem startsWith_char {s : String} {c : Char} :
    startsWith s (String.singleton c) = true ↔ s.toList.head? = some c := by
  rw [startsWith, String.toList_singleton]
  cases s.toList with
  | nil => simp
  | cons d rest =>
    simp only [List.isPrefixOf, Bool.and_true, beq_iff_eq, List.head?_cons, Option.some.injEq]
    exact eq_comm

theorem endsWith_char {s : String} {c : Char} :
    endsWith s (String.singleton c) = true ↔ s.toList.getLast? = some c := by
  rw [endsWith, String.toList_singleton, List.isSuffixOf_iff_suffix, List.getLast?_eq_some_iff]
  constructor
  · rintro ⟨rest, h⟩
    exact ⟨rest, h.symm⟩
  · rintro ⟨rest, h⟩
    exact ⟨rest, h.symm⟩

theorem getLast_of_endsWith {s ending : String} (h : endsWith s ending = true) (hne : ending ≠ "") :
    s.toList.getLast? = ending.toList.getLast? := by
  rw [endsWith, List.isSuffixOf_iff_suffix] at h
  obtain ⟨before, hs⟩ := h
  rw [← hs, List.getLast?_append_of_ne_nil _ (fun hnil => hne (String.toList_eq_nil_iff.1 hnil))]

theorem stripPrefix_append (start rest : String) : stripPrefix (start ++ rest) start = some rest := by
  rw [stripPrefix, if_pos (startsWith_iff.2 ⟨rest, rfl⟩), String.toList_append, List.drop_left,
    String.ofList_toList]

theorem stripPrefix_eq_some {s start rest : String} : stripPrefix s start = some rest ↔ s = start ++ rest := by
  constructor
  · intro h
    have hstart : startsWith s start = true := by
      by_contra hne
      rw [stripPrefix, if_neg hne] at h
      cases h
    obtain ⟨rest', rfl⟩ := startsWith_iff.1 hstart
    rw [stripPrefix_append] at h
    cases h
    rfl
  · rintro rfl
    exact stripPrefix_append start rest

theorem dropWhile_eq_self_of_all_not {α : Type} {p : α → Bool} {l : List α}
    (h : ∀ a ∈ l, p a = false) : l.dropWhile p = l := by
  cases l with
  | nil => rfl
  | cons a l => simp [h a (List.mem_cons_self ..)]

theorem rdropWhile_eq_self_of_all_not {α : Type} {p : α → Bool} {l : List α}
    (h : ∀ a ∈ l, p a = false) : l.rdropWhile p = l := by
  rw [List.rdropWhile, dropWhile_eq_self_of_all_not (fun a ha => h a (List.mem_reverse.1 ha)),
    List.reverse_reverse]

/-- A string without the trimmed characters is left alone. -/
theorem trimMatches_eq_self {p : Char → Bool} {s : String} (h : ∀ c ∈ s.toList, p c = false) :
    trimMatches p s = s := by
  rw [trimMatches, dropWhile_eq_self_of_all_not h, rdropWhile_eq_self_of_all_not h,
    String.ofList_toList]

theorem trim_eq_self {s : String} (h : ∀ c ∈ s.toList, isWhitespace c = false) : trim s = s :=
  trimMatches_eq_self h

/-- Trimming leaves nothing exactly of what is whitespace throughout. -/
theorem trim_eq_empty_iff {s : String} : trim s = "" ↔ ∀ c ∈ s.toList, isWhitespace c = true := by
  have hempty : trim s = "" ↔ (s.toList.dropWhile isWhitespace).rdropWhile isWhitespace = [] := by
    rw [← String.toList_inj, trim, trimMatches, String.toList_ofList]
    rfl
  rw [hempty, List.rdropWhile_eq_nil_iff]
  constructor
  · intro h c hc
    rw [← @List.takeWhile_append_dropWhile _ isWhitespace s.toList, List.mem_append] at hc
    rcases hc with hc | hc
    · exact List.mem_takeWhile_imp hc
    · exact h c hc
  · intro h c hc
    exact h c ((List.dropWhile_sublist _).mem hc)

theorem splitOnceP_eq_none {p : Char → Bool} {s : String} (h : ∀ c ∈ s.toList, p c = false) :
    splitOnceP p s = none := by
  have hdrop : s.toList.dropWhile (!p ·) = [] := by
    rw [List.dropWhile_eq_nil_iff]
    intro c hc
    rw [h c hc]
    rfl
  rw [splitOnceP, hdrop]

theorem trimStartMatches_eq_self {p : Char → Bool} {s : String} (h : ∀ c ∈ s.toList, p c = false) :
    trimStartMatches p s = s := by
  rw [trimStartMatches, dropWhile_eq_self_of_all_not h, String.ofList_toList]

/-- A text that begins with another character is left alone. -/
theorem trimStartMatches_of_head {c : Char} {s : String} (h : s.toList.head? ≠ some c) :
    trimStartMatches (· == c) s = s := by
  have hdrop : s.toList.dropWhile (· == c) = s.toList := by
    cases hs : s.toList with
    | nil => rfl
    | cons d rest =>
      rw [hs, List.head?_cons] at h
      exact List.dropWhile_cons_of_neg fun heq => h (congrArg some (beq_iff_eq.1 heq))
  rw [trimStartMatches, hdrop, String.ofList_toList]

/-- A text between two texts without the trimmed characters is left alone. -/
theorem trimMatches_between {p : Char → Bool} {a b : String} (ha : ∀ c ∈ a.toList, p c = false)
    (ha' : a ≠ "") (hb : ∀ c ∈ b.toList, p c = false) (hb' : b ≠ "") (m : String) :
    trimMatches p (a ++ m ++ b) = a ++ m ++ b := by
  have hane : a.toList ≠ [] := fun h => ha' (String.toList_inj.1 h)
  have hbne : b.toList ≠ [] := fun h => hb' (String.toList_inj.1 h)
  rw [← String.toList_inj, trimMatches, String.toList_ofList]
  simp only [String.toList_append]
  obtain ⟨x, as, hx⟩ := List.exists_cons_of_ne_nil hane
  have hpx : p x = false := ha x (by rw [hx]; exact List.mem_cons_self ..)
  have hdrop : (a.toList ++ m.toList ++ b.toList).dropWhile p =
      a.toList ++ m.toList ++ b.toList := by
    rw [hx]
    exact List.dropWhile_cons_of_neg (by simp [hpx])
  rw [hdrop, List.rdropWhile_eq_self_iff]
  intro hne
  rw [List.getLast_append_of_ne_nil _ hbne]
  simpa using hb _ (List.getLast_mem hbne)

theorem rtakeWhile_eq_replicate {α : Type} {p : α → Bool} {c : α} (hp : ∀ a, p a = true → a = c)
    (l : List α) : l.rtakeWhile p = List.replicate (l.rtakeWhile p).length c := by
  refine List.eq_replicate_of_mem fun a ha => hp a ?_
  exact List.mem_rtakeWhile_imp ha

theorem rdropWhile_append_of_pos {α : Type} {p : α → Bool} {l b : List α} (hb : ∀ a ∈ b, p a = true) :
    (l ++ b).rdropWhile p = l.rdropWhile p := by
  rw [List.rdropWhile, List.reverse_append,
    List.dropWhile_append_of_pos fun a ha => hb a (List.mem_reverse.1 ha), ← List.rdropWhile]

/-- Trimming does not see what it trims around a text. -/
theorem trimMatches_append {p : Char → Bool} {a m b : String} (ha : ∀ c ∈ a.toList, p c = true)
    (hb : ∀ c ∈ b.toList, p c = true) : trimMatches p (a ++ m ++ b) = trimMatches p m := by
  simp only [trimMatches, String.toList_append, List.append_assoc]
  rw [List.dropWhile_append_of_pos ha, List.dropWhile_append]
  split
  · rename_i hm
    rw [List.isEmpty_iff] at hm
    rw [hm, List.dropWhile_eq_nil_iff.2 hb]
  · rw [rdropWhile_append_of_pos hb]

theorem trimMatches_append_left {p : Char → Bool} {a m : String} (ha : ∀ c ∈ a.toList, p c = true) :
    trimMatches p (a ++ m) = trimMatches p m := by
  simpa using @trimMatches_append p a m "" ha (by simp)

theorem trimMatches_append_right {p : Char → Bool} {m b : String} (hb : ∀ c ∈ b.toList, p c = true) :
    trimMatches p (m ++ b) = trimMatches p m := by
  simpa using @trimMatches_append p "" m b (by simp) hb

/-- What is left ends in a character that is not trimmed. -/
theorem trimMatches_last {p : Char → Bool} {s : String} (h : trimMatches p s ≠ "") :
    ∃ m c, trimMatches p s = m ++ String.singleton c ∧ p c = false := by
  have hne : (s.toList.dropWhile p).rdropWhile p ≠ [] := by
    intro hnil
    exact h (by rw [trimMatches, hnil])
  refine ⟨String.ofList ((s.toList.dropWhile p).rdropWhile p).dropLast,
    ((s.toList.dropWhile p).rdropWhile p).getLast hne, ?_, ?_⟩
  · rw [← String.toList_inj]
    simp only [trimMatches, String.toList_ofList, String.toList_append, String.toList_singleton,
      List.dropLast_append_getLast]
  · simpa using List.rdropWhile_last_not p _ hne

/-- What is trimmed lies around what is left. -/
theorem trimMatches_decomp (p : Char → Bool) (s : String) :
    ∃ a b, s = a ++ trimMatches p s ++ b ∧ (∀ c ∈ a.toList, p c = true) ∧
      ∀ c ∈ b.toList, p c = true := by
  refine ⟨String.ofList (s.toList.takeWhile p),
    String.ofList ((s.toList.dropWhile p).rtakeWhile p), ?_, ?_, ?_⟩
  · rw [← String.toList_inj]
    simp only [trimMatches, String.toList_append, String.toList_ofList, List.append_assoc,
      List.rdropWhile_append_rtakeWhile, List.takeWhile_append_dropWhile]
  · intro c hc
    rw [String.toList_ofList] at hc
    exact List.mem_takeWhile_imp hc
  · intro c hc
    rw [String.toList_ofList] at hc
    exact List.mem_rtakeWhile_imp hc

theorem trimStartMatches_decomp (p : Char → Bool) (s : String) :
    ∃ a, s = a ++ trimStartMatches p s ∧ ∀ c ∈ a.toList, p c = true := by
  refine ⟨String.ofList (s.toList.takeWhile p), ?_, ?_⟩
  · rw [← String.toList_inj]
    simp only [trimStartMatches, String.toList_append, String.toList_ofList,
      List.takeWhile_append_dropWhile]
  · intro c hc
    rw [String.toList_ofList] at hc
    exact List.mem_takeWhile_imp hc

/-! ## Bytes -/

theorem asBytes_eq_flatMap (s : String) : asBytes s = s.toList.flatMap String.utf8EncodeChar := by
  have h : s.toList.utf8Encode = s.toUTF8 := String.utf8Encode_toList
  rw [asBytes, ← h, List.utf8Encode, List.data_toByteArray]

theorem asBytes_inj {a b : String} : asBytes a = asBytes b ↔ a = b := by
  constructor
  · intro h
    exact String.toByteArray_inj.1 (ByteArray.ext (Array.toList_inj.1 h))
  · rintro rfl
    rfl

theorem asBytes_append (a b : String) : asBytes (a ++ b) = asBytes a ++ asBytes b := by
  simp only [asBytes_eq_flatMap, String.toList_append, List.flatMap_append]

theorem utf8EncodeChar_of_ascii {c : Char} (h : c.toNat < 128) :
    String.utf8EncodeChar c = [UInt8.ofNat c.toNat] := by
  have hsize : c.utf8Size = 1 := by
    rw [Char.utf8Size_eq_one_iff]
    exact UInt32.le_iff_toNat_le.2 (Nat.le_of_lt_succ h)
  rw [String.utf8EncodeChar_eq_singleton hsize]
  congr 1

/-- A character of ASCII text is one byte. -/
theorem asBytes_of_ascii {s : String} (h : ∀ c ∈ s.toList, c.toNat < 128) :
    asBytes s = s.toList.map fun c => UInt8.ofNat c.toNat := by
  rw [asBytes_eq_flatMap, ← List.flatMap_pure_eq_map]
  exact List.flatMap_congr fun c hc => utf8EncodeChar_of_ascii (h c hc)

theorem utf8ByteSize_eq (s : String) : s.utf8ByteSize = (asBytes s).length := by
  rw [asBytes, Array.length_toList]
  rfl

theorem utf8ByteSize_of_ascii {s : String} (h : ∀ c ∈ s.toList, c.toNat < 128) :
    s.utf8ByteSize = s.toList.length := by
  rw [utf8ByteSize_eq, asBytes_of_ascii h, List.length_map]

/-- Every byte of a character outside ASCII is one of the upper half; this is said of the last. -/
theorem last_utf8EncodeChar {c : Char} (h : 128 ≤ c.toNat) :
    UInt8.ofNat (c.toNat % 64 + 128) ∈ String.utf8EncodeChar c := by
  have hv : c.val.toNat = c.toNat := rfl
  simp only [String.utf8EncodeChar, hv]
  rw [if_neg (by omega)]
  split_ifs <;> simp

/-- Only ASCII text is made of ASCII bytes. -/
theorem ascii_of_asBytes {s : String} (h : ∀ b ∈ asBytes s, b.toNat < 128) :
    ∀ c ∈ s.toList, c.toNat < 128 := by
  intro c hc
  by_contra hlarge
  have hmem : UInt8.ofNat (c.toNat % 64 + 128) ∈ asBytes s := by
    rw [asBytes_eq_flatMap]
    exact List.mem_flatMap.2 ⟨c, hc, last_utf8EncodeChar (Nat.le_of_not_lt hlarge)⟩
  have hbyte := h _ hmem
  rw [UInt8.toNat_ofNat'] at hbyte
  omega

theorem fromUtf8_asBytes (s : String) : fromUtf8 (asBytes s) = some s := by
  have hbytes : (⟨(asBytes s).toArray⟩ : ByteArray) = s.toUTF8 := by simp [asBytes]
  rw [fromUtf8, hbytes]
  unfold String.fromUTF8?
  split
  · rfl
  · rename_i h
    exact absurd s.isValidUTF8 (by simpa using h)

theorem asBytes_of_fromUtf8 {bytes : List UInt8} {s : String} (h : fromUtf8 bytes = some s) :
    asBytes s = bytes := by
  unfold fromUtf8 String.fromUTF8? at h
  split at h
  · cases h
    rfl
  · cases h

/-! ## ASCII case -/

theorem eqIgnoreAsciiCase_refl (s : String) : eqIgnoreAsciiCase s s = true := by
  simp [eqIgnoreAsciiCase]

theorem eqIgnoreAsciiCase_iff {a b : String} :
    eqIgnoreAsciiCase a b = true ↔ toAsciiLowercase a = toAsciiLowercase b := by
  rw [eqIgnoreAsciiCase, beq_iff_eq, toAsciiLowercase, toAsciiLowercase, String.ofList_inj]

theorem toAsciiLowercase_append (a b : String) :
    toAsciiLowercase (a ++ b) = toAsciiLowercase a ++ toAsciiLowercase b := by
  rw [toAsciiLowercase, String.toList_append, List.map_append, String.ofList_append]
  rfl

/-! ## Character classes -/

theorem isUpper_iff {c : Char} : c.isUpper = true ↔ 65 ≤ c.toNat ∧ c.toNat ≤ 90 := by
  show decide (c.val ≥ 65 ∧ c.val ≤ 90) = true ↔ _
  rw [decide_eq_true_eq]
  exact and_congr UInt32.le_iff_toNat_le UInt32.le_iff_toNat_le

theorem isLower_iff {c : Char} : c.isLower = true ↔ 97 ≤ c.toNat ∧ c.toNat ≤ 122 := by
  show (decide (c.val ≥ 97) && decide (c.val ≤ 122)) = true ↔ _
  rw [Bool.and_eq_true, decide_eq_true_eq, decide_eq_true_eq]
  exact and_congr UInt32.le_iff_toNat_le UInt32.le_iff_toNat_le

theorem isDigit_iff {c : Char} : c.isDigit = true ↔ 48 ≤ c.toNat ∧ c.toNat ≤ 57 := by
  show (decide (c.val ≥ 48) && decide (c.val ≤ 57)) = true ↔ _
  rw [Bool.and_eq_true, decide_eq_true_eq, decide_eq_true_eq]
  exact and_congr UInt32.le_iff_toNat_le UInt32.le_iff_toNat_le

theorem isAlphanum_iff {c : Char} :
    c.isAlphanum = true ↔ (c.isUpper = true ∨ c.isLower = true) ∨ c.isDigit = true := by
  show ((c.isUpper || c.isLower) || c.isDigit) = true ↔ _
  rw [Bool.or_eq_true, Bool.or_eq_true]

/-! ## Case -/

theorem toNat_toLower (c : Char) :
    c.toLower.toNat = if 65 ≤ c.toNat ∧ c.toNat ≤ 90 then c.toNat + 32 else c.toNat := by
  unfold Char.toLower
  split
  · rename_i h
    have h1 : 65 ≤ c.toNat := UInt32.le_iff_toNat_le.1 h.1
    have h2 : c.toNat ≤ 90 := UInt32.le_iff_toNat_le.1 h.2
    rw [if_pos ⟨h1, h2⟩]
    show (c.val + 32).toNat = c.toNat + 32
    rw [UInt32.toNat_add]
    exact Nat.mod_eq_of_lt (by show c.toNat + 32 < 2 ^ 32; omega)
  · rename_i h
    rw [if_neg]
    exact fun hle => h ⟨UInt32.le_iff_toNat_le.2 hle.1, UInt32.le_iff_toNat_le.2 hle.2⟩

theorem toNat_toUpper (c : Char) :
    c.toUpper.toNat = if 97 ≤ c.toNat ∧ c.toNat ≤ 122 then c.toNat - 32 else c.toNat := by
  unfold Char.toUpper
  split
  · rename_i h
    have h1 : 97 ≤ c.toNat := UInt32.le_iff_toNat_le.1 h.1
    have h2 : c.toNat ≤ 122 := UInt32.le_iff_toNat_le.1 h.2
    rw [if_pos ⟨h1, h2⟩]
    show (c.val + ('A'.val - 'a'.val)).toNat = c.toNat - 32
    rw [UInt32.toNat_add]
    show (c.toNat + 4294967264) % 2 ^ 32 = c.toNat - 32
    omega
  · rename_i h
    rw [if_neg]
    exact fun hle => h ⟨UInt32.le_iff_toNat_le.2 hle.1, UInt32.le_iff_toNat_le.2 hle.2⟩

theorem toLower_toUpper (c : Char) : c.toUpper.toLower = c.toLower := by
  rw [← Char.toNat_inj, toNat_toLower, toNat_toLower, toNat_toUpper]
  split_ifs <;> omega

/-- A character that is no letter is the lower case of itself only. -/
theorem toLower_eq_iff {c d : Char} (hupper : ¬(65 ≤ d.toNat ∧ d.toNat ≤ 90))
    (hlower : ¬(97 ≤ d.toNat ∧ d.toNat ≤ 122)) : c.toLower = d ↔ c = d := by
  rw [← Char.toNat_inj, ← Char.toNat_inj, toNat_toLower]
  split <;> omega

theorem toAsciiLowercase_toAsciiLowercase (s : String) :
    toAsciiLowercase (toAsciiLowercase s) = toAsciiLowercase s := by
  simp only [toAsciiLowercase, String.toList_ofList, List.map_map]
  congr 2
  funext c
  show c.toLower.toLower = c.toLower
  have hc := toNat_toLower c
  rw [← Char.toNat_inj, toNat_toLower c.toLower]
  split at hc <;> split <;> omega

/-- Trimming at the end a character that has no case, before or after the case is changed. -/
theorem trimEndMatches_toAsciiLowercase {p : Char → Bool} (hp : ∀ c, p c.toLower = p c) (s : String) :
    trimEndMatches p (toAsciiLowercase s) = toAsciiLowercase (trimEndMatches p s) := by
  have hcomp : p ∘ Char.toLower = p := funext hp
  simp only [trimEndMatches, toAsciiLowercase, String.toList_ofList, List.rdropWhile,
    ← List.map_reverse, List.dropWhile_map, hcomp]

theorem trimEndMatches_trimEndMatches (p : Char → Bool) (s : String) :
    trimEndMatches p (trimEndMatches p s) = trimEndMatches p s := by
  simp only [trimEndMatches, String.toList_ofList, List.rdropWhile_idempotent]

end Text
