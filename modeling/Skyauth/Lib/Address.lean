import Skyauth.Lib.Hex
import Mathlib.Tactic.IntervalCases

/-!
# Addresses in text

How Rust's standard library reads IPv4 and IPv6 addresses (`core::net::parser`). An IPv4 address is
four decimal numbers; an IPv6 address is eight groups, of which one run of zeros may be left out and the
last two may be written as an IPv4 address. Brackets are no part of an address.
-/

namespace Address

/-- What is read from the front of a text, and what is left of it. -/
abbrev Reader (α : Type) := List Char → Option (α × List Char)

def isDigitOf (radix : Nat) (c : Char) : Bool := (Hex.toDigit radix c).isSome

/-- The number that digits stand for. -/
def valueOf (radix : Nat) (digits : List Char) : Nat :=
  digits.foldl (fun n c => radix * n + (Hex.toDigit radix c).getD 0) 0

/-- `read_number`, for numbers below a bound. -/
def readNumber (radix maxDigits : Nat) (allowZeroPrefix : Bool) (bound : Nat) : Reader Nat := fun s =>
  let digits := s.takeWhile (isDigitOf radix)
  if digits = [] ∨ maxDigits < digits.length then none
  else if allowZeroPrefix = false ∧ s.head? = some '0' ∧ 1 < digits.length then none
  else if valueOf radix digits < bound then some (valueOf radix digits, s.dropWhile (isDigitOf radix))
  else none

/-- `read_separator`: a separator stands before every item but the first. -/
def readSeparator {α : Type} (sep : Char) (index : Nat) (inner : Reader α) : Reader α := fun s =>
  if index = 0 then inner s
  else
    match s with
    | [] => none
    | c :: rest => if c = sep then inner rest else none

def readOctet (index : Nat) : Reader UInt8 := fun s => do
  let (n, s) ← readSeparator '.' index (readNumber 10 3 false 256) s
  return (UInt8.ofNat n, s)

def readIpv4Addr : Reader (UInt8 × UInt8 × UInt8 × UInt8) := fun s => do
  let (o0, s) ← readOctet 0 s
  let (o1, s) ← readOctet 1 s
  let (o2, s) ← readOctet 2 s
  let (o3, s) ← readOctet 3 s
  return ((o0, o1, o2, o3), s)

/-- Two octets in network order (`u16::from_be_bytes`). -/
def fromBeBytes (high low : UInt8) : UInt16 := UInt16.ofNat (256 * high.toNat + low.toNat)

/-- `read_groups`: the groups that are read, whether the last two came as an IPv4 address, and the rest
    of the text. The first argument is how many groups there is still room for. -/
def readGroups : Nat → Nat → List Char → List UInt16 × Bool × List Char
  | 0, _, s => ([], false, s)
  | room + 1, index, s =>
    match if 0 < room then readSeparator ':' index readIpv4Addr s else none with
    | some ((o0, o1, o2, o3), rest) => ([fromBeBytes o0 o1, fromBeBytes o2 o3], true, rest)
    | none =>
      match readSeparator ':' index (readNumber 16 4 true 65536) s with
      | none => ([], false, s)
      | some (group, rest) =>
        let (groups, ipv4, rest) := readGroups room (index + 1) rest
        (UInt16.ofNat group :: groups, ipv4, rest)

def readIpv6Addr : Reader (Fin 8 → UInt16) := fun s =>
  let (head, headIpv4, s) := readGroups 8 0 s
  if head.length = 8 then some (fun i => head.getD i 0, s)
  else if headIpv4 then none
  else
    match s with
    | ':' :: ':' :: s =>
      let (tail, _, s) := readGroups (8 - (head.length + 1)) 0 s
      let zeros := List.replicate (8 - (head.length + tail.length)) (0 : UInt16)
      some (fun i => (head ++ zeros ++ tail).getD i 0, s)
    | _ => none

/-- Four octets in dotted decimal. -/
def dotted (o0 o1 o2 o3 : UInt8) : String :=
  toString o0.toNat ++ "." ++ toString o1.toNat ++ "." ++ toString o2.toNat ++ "." ++ toString o3.toNat

/-! ## Decimal numerals -/

theorem toDigit_of_isDigit {c : Char} (h : c.isDigit = true) : Hex.toDigit 10 c = some (c.toNat - 48) := by
  rw [Text.isDigit_iff] at h
  simp only [Hex.toDigit]
  rw [if_pos h, if_pos (by omega)]

theorem isDigit_of_isDigitOf {c : Char} (h : isDigitOf 10 c = true) : c.isDigit = true := by
  obtain ⟨d, hd⟩ := Option.isSome_iff_exists.1 h
  simp only [Hex.toDigit, Option.ite_none_right_eq_some] at hd
  rw [Text.isDigit_iff]
  have hlt := hd.1
  split_ifs at hlt <;> omega

theorem valueOf_eq {digits : List Char} (h : ∀ c ∈ digits, c.isDigit = true) :
    valueOf 10 digits = Nat.ofDigitChars 10 digits 0 := by
  refine List.foldl_ext _ _ _ fun n c hc => ?_
  rw [toDigit_of_isDigit (h c hc)]
  rfl

/-- Only zero has a numeral that begins with a zero. -/
theorem head_toDigits {n : Nat} (h : 0 < n) : (Nat.toDigits 10 n).head? ≠ some '0' := by
  induction n using Nat.strongRecOn with
  | ind n ih =>
    by_cases hlt : n < 10
    · rw [Nat.toDigits_of_lt_base hlt]
      interval_cases n <;> decide
    · have hdiv : 0 < n / 10 := by omega
      have hne := @Nat.toDigits_ne_nil (n / 10) 10
      rw [Nat.toDigits_of_base_le (by decide) (by omega), List.head?_append_of_ne_nil _ hne]
      exact ih (n / 10) (by omega) hdiv

/-- What follows a number in a text. -/
def Ends (rest : List Char) : Prop := ∀ c ∈ rest.head?, isDigitOf 10 c = false

theorem takeWhile_ends {rest : List Char} (h : Ends rest) : rest.takeWhile (isDigitOf 10) = [] := by
  cases rest with
  | nil => rfl
  | cons c rest => rw [List.takeWhile_cons_of_neg (by rw [h c rfl]; decide)]

theorem dropWhile_ends {rest : List Char} (h : Ends rest) : rest.dropWhile (isDigitOf 10) = rest := by
  cases rest with
  | nil => rfl
  | cons c rest => rw [List.dropWhile_cons_of_neg (by rw [h c rfl]; decide)]

/-- A numeral is read back. -/
theorem readNumber_toDigits {n maxDigits bound : Nat} {rest : List Char} (hpos : 0 < maxDigits)
    (hmax : n < 10 ^ maxDigits) (hbound : n < bound) (hrest : Ends rest) :
    readNumber 10 maxDigits false bound (Nat.toDigits 10 n ++ rest) = some (n, rest) := by
  have hdigits : ∀ c ∈ Nat.toDigits 10 n, c.isDigit = true := fun c hc =>
    Nat.isDigit_of_mem_toDigits (by decide) (by decide) hc
  have hdigitsOf : ∀ c ∈ Nat.toDigits 10 n, isDigitOf 10 c = true := fun c hc => by
    rw [isDigitOf, toDigit_of_isDigit (hdigits c hc)]
    rfl
  have htake : (Nat.toDigits 10 n ++ rest).takeWhile (isDigitOf 10) = Nat.toDigits 10 n := by
    rw [List.takeWhile_append_of_pos hdigitsOf, takeWhile_ends hrest, List.append_nil]
  have hdrop : (Nat.toDigits 10 n ++ rest).dropWhile (isDigitOf 10) = rest := by
    rw [List.dropWhile_append_of_pos hdigitsOf, dropWhile_ends hrest]
  have hvalue : valueOf 10 (Nat.toDigits 10 n) = n := by
    rw [valueOf_eq hdigits, Nat.ofDigitChars_ten_toDigits]
  have hlength := (Nat.length_toDigits_le_iff (b := 10) (n := n) (by decide) hpos).2 hmax
  have hzero : ¬((Nat.toDigits 10 n ++ rest).head? = some '0' ∧ 1 < (Nat.toDigits 10 n).length) := by
    rw [List.head?_append_of_ne_nil _ Nat.toDigits_ne_nil]
    rintro ⟨hhead, hlong⟩
    have hzero : n = 0 := Nat.eq_zero_of_not_pos fun h => head_toDigits h hhead
    subst hzero
    exact absurd hlong (by decide)
  simp only [readNumber, htake, hdrop, hvalue]
  rw [if_neg (not_or.2 ⟨Nat.toDigits_ne_nil, Nat.not_lt.2 hlength⟩), if_neg (fun h => hzero h.2),
    if_pos hbound]

/-! ## Addresses -/

theorem readSeparator_zero {α : Type} (sep : Char) (inner : Reader α) (s : List Char) :
    readSeparator sep 0 inner s = inner s := rfl

theorem readSeparator_next {α : Type} {sep : Char} {index : Nat} (hindex : index ≠ 0) (inner : Reader α)
    (rest : List Char) : readSeparator sep index inner (sep :: rest) = inner rest := by
  simp [readSeparator, hindex]

theorem readOctet_first (o : UInt8) {rest : List Char} (hrest : Ends rest) :
    readOctet 0 ((toString o.toNat).toList ++ rest) = some (o, rest) := by
  have ho := o.toNat_lt
  rw [readOctet, readSeparator_zero, Nat.toString_eq_repr, Nat.toList_repr,
    readNumber_toDigits (by decide) (by omega) (by omega) hrest]
  simp

theorem readOctet_next (o : UInt8) {index : Nat} {rest : List Char} (hindex : index ≠ 0)
    (hrest : Ends rest) :
    readOctet index ('.' :: ((toString o.toNat).toList ++ rest)) = some (o, rest) := by
  rw [← readOctet_first o hrest, readOctet, readOctet, readSeparator_next hindex, readSeparator_zero]

/-- Dotted decimal is read back. -/
theorem readIpv4Addr_dotted (o0 o1 o2 o3 : UInt8) :
    readIpv4Addr (dotted o0 o1 o2 o3).toList = some ((o0, o1, o2, o3), []) := by
  have hdot : ∀ rest, Ends ('.' :: rest) := fun rest c hc => by
    cases hc
    rfl
  have hnil : Ends [] := fun c hc => by cases hc
  have htext : (dotted o0 o1 o2 o3).toList = (toString o0.toNat).toList ++ '.' ::
      ((toString o1.toNat).toList ++ '.' :: ((toString o2.toNat).toList ++ '.' ::
        ((toString o3.toNat).toList ++ []))) := by
    simp [dotted]
  rw [readIpv4Addr, htext, readOctet_first o0 (hdot _)]
  simp only [Option.bind_eq_bind, Option.bind_some]
  rw [readOctet_next o1 (by decide) (hdot _)]
  simp only [Option.bind_some]
  rw [readOctet_next o2 (by decide) (hdot _)]
  simp only [Option.bind_some]
  rw [readOctet_next o3 (by decide) hnil]
  rfl

theorem readNumber_eq_none {radix maxDigits bound : Nat} {allowZeroPrefix : Bool} {c : Char}
    {rest : List Char} (h : isDigitOf radix c = false) :
    readNumber radix maxDigits allowZeroPrefix bound (c :: rest) = none := by
  rw [readNumber, List.takeWhile_cons_of_neg (by rw [h]; decide)]
  exact if_pos (Or.inl rfl)

theorem readIpv4Addr_eq_none {c : Char} {rest : List Char} (h : isDigitOf 10 c = false) :
    readIpv4Addr (c :: rest) = none := by
  rw [readIpv4Addr, readOctet, readSeparator_zero, readNumber_eq_none h]
  rfl

/-- An address does not begin with a bracket. -/
theorem readIpv6Addr_eq_none {c : Char} {rest : List Char} (hdecimal : isDigitOf 10 c = false)
    (hhex : isDigitOf 16 c = false) (hcolon : c ≠ ':') : readIpv6Addr (c :: rest) = none := by
  have hgroups : readGroups 8 0 (c :: rest) = ([], false, c :: rest) := by
    rw [readGroups, readSeparator_zero, readSeparator_zero, readIpv4Addr_eq_none hdecimal,
      readNumber_eq_none hhex]
    rfl
  simp only [readIpv6Addr, hgroups]
  simp [hcolon]

/-! ## What an address is made of -/

/-- What is read is a part of the text, made of these characters. -/
def Consumes {α : Type} (P : Char → Prop) (reader : Reader α) : Prop :=
  ∀ s a rest, reader s = some (a, rest) → ∃ used, s = used ++ rest ∧ ∀ c ∈ used, P c

theorem consumes_readNumber {P : Char → Prop} {radix maxDigits bound : Nat} {allowZeroPrefix : Bool}
    (hdigit : ∀ c, isDigitOf radix c = true → P c) :
    Consumes P (readNumber radix maxDigits allowZeroPrefix bound) := by
  intro s n rest h
  simp only [readNumber] at h
  split_ifs at h
  obtain ⟨-, rfl⟩ := Prod.mk.inj (Option.some.inj h)
  exact ⟨_, List.takeWhile_append_dropWhile.symm, fun c hc => hdigit c (List.mem_takeWhile_imp hc)⟩

theorem Consumes.readSeparator {α : Type} {P : Char → Prop} {sep : Char} {index : Nat} {inner : Reader α}
    (h : Consumes P inner) (hsep : P sep) : Consumes P (readSeparator sep index inner) := by
  intro s a rest hread
  by_cases hindex : index = 0
  · rw [hindex, readSeparator_zero] at hread
    exact h s a rest hread
  · cases s with
    | nil =>
      rw [Address.readSeparator, if_neg hindex] at hread
      cases hread
    | cons c s =>
      simp only [Address.readSeparator, if_neg hindex] at hread
      split_ifs at hread with hc
      obtain ⟨used, rfl, hused⟩ := h s a rest hread
      exact ⟨c :: used, rfl, List.forall_mem_cons.2 ⟨hc ▸ hsep, hused⟩⟩

theorem consumes_pure {α : Type} (P : Char → Prop) (a : α) : Consumes P (fun s => some (a, s)) := by
  intro s b rest h
  cases h
  exact ⟨[], rfl, fun c hc => absurd hc List.not_mem_nil⟩

theorem Consumes.bind {α β : Type} {P : Char → Prop} {first : Reader α} {next : α → Reader β}
    (h : Consumes P first) (hnext : ∀ a, Consumes P (next a)) :
    Consumes P (fun s => (first s).bind fun read => next read.1 read.2) := by
  intro s b rest hread
  obtain ⟨⟨a, s'⟩, hfirst, hsecond⟩ := Option.bind_eq_some_iff.1 hread
  obtain ⟨used, rfl, hused⟩ := h s a s' hfirst
  obtain ⟨used', rfl, hused'⟩ := hnext a s' b rest hsecond
  exact ⟨used ++ used', (List.append_assoc ..).symm, List.forall_mem_append.2 ⟨hused, hused'⟩⟩

theorem consumes_readIpv4Addr {P : Char → Prop} (hdigit : ∀ c, isDigitOf 10 c = true → P c) (hdot : P '.') :
    Consumes P readIpv4Addr := by
  have hoctet : ∀ index, Consumes P (readOctet index) := fun index =>
    ((consumes_readNumber hdigit).readSeparator hdot).bind fun _ => consumes_pure P _
  exact (hoctet 0).bind fun o0 => (hoctet 1).bind fun o1 => (hoctet 2).bind fun o2 =>
    (hoctet 3).bind fun o3 => consumes_pure P (o0, o1, o2, o3)

theorem Consumes.suffix {α : Type} {P : Char → Prop} {reader : Reader α} {s rest : List Char} {a : α}
    (h : Consumes P reader) (hread : reader s = some (a, rest)) : rest <:+ s := by
  obtain ⟨used, rfl, -⟩ := h s a rest hread
  exact List.suffix_append used rest

theorem suffix_of_readGroups (room index : Nat) (s : List Char) : (readGroups room index s).2.2 <:+ s := by
  have hipv4 : Consumes (fun _ => True) readIpv4Addr := consumes_readIpv4Addr (fun _ _ => trivial) trivial
  induction room generalizing index s with
  | zero => exact List.suffix_rfl
  | succ room ih =>
    rw [readGroups]
    split
    · rename_i hread
      split_ifs at hread
      exact (hipv4.readSeparator trivial).suffix hread
    · split
      · exact List.suffix_rfl
      · rename_i rest hread
        have hrest := ((consumes_readNumber fun _ _ => trivial).readSeparator trivial).suffix hread
        exact (ih (index + 1) rest).trans hrest

/-- A group that is not the first has a colon before it. -/
theorem head_of_readGroups {room index : Nat} {s : List Char} (hindex : index ≠ 0)
    (h : (readGroups room index s).1 ≠ []) : s.head? = some ':' := by
  have hsep {α : Type} {reader : Reader α} {read : α × List Char}
      (hread : readSeparator ':' index reader s = some read) : s.head? = some ':' := by
    cases s with
    | nil =>
      rw [readSeparator, if_neg hindex] at hread
      cases hread
    | cons c s =>
      simp only [readSeparator, if_neg hindex] at hread
      split_ifs at hread with hc
      rw [hc, List.head?_cons]
  cases room with
  | zero => exact absurd rfl h
  | succ room =>
    rw [readGroups] at h
    split at h
    · rename_i hread
      split_ifs at hread
      exact hsep hread
    · split at h
      · exact absurd rfl h
      · rename_i hread
        exact hsep hread

/-- An IPv4 address stands for two groups, so three have a colon among them. -/
theorem colon_of_readGroups {room : Nat} {s : List Char} (h : 3 ≤ (readGroups room 0 s).1.length) :
    ':' ∈ s := by
  cases room with
  | zero => exact absurd h (by simp [readGroups])
  | succ room =>
    rw [readGroups] at h
    split at h
    · exact absurd h (by simp)
    · split at h
      · exact absurd h (by simp)
      · rename_i rest hread
        have hrest := ((consumes_readNumber fun _ _ => trivial).readSeparator trivial).suffix hread
        have hne : (readGroups room 1 rest).1 ≠ [] := by
          intro hnil
          simp [hnil] at h
        exact hrest.subset (List.mem_of_head? (head_of_readGroups (by decide) hne))

/-- There is a colon in an IPv6 address: between its groups, or where zeros are left out. -/
theorem colon_of_readIpv6Addr {s rest : List Char} {address : Fin 8 → UInt16}
    (h : readIpv6Addr s = some (address, rest)) : ':' ∈ s := by
  have hsuffix := suffix_of_readGroups 8 0 s
  simp only [readIpv6Addr] at h
  split at h
  · rename_i hlength
    have hthree : 3 ≤ (readGroups 8 0 s).1.length := by omega
    exact colon_of_readGroups hthree
  · split at h
    · cases h
    · split at h
      · rename_i hleft
        rw [hleft] at hsuffix
        exact hsuffix.subset (List.mem_cons_self ..)
      · cases h

end Address
