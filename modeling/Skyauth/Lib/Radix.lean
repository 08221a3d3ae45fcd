import Mathlib.Data.Nat.Digits.Lemmas

/-!
# Numbers as digits, and changing their base

A number is kept as the list of its digits in base `b`, lowest first, as `Nat.digits` gives them. To
read a number that is written in base `m`, highest digit first, one multiplies by `m` and adds the next
digit, with the carry going through the list and off its end.

`Radix.mulAdd b m` is that pass: on the digits of `n` with the carry `c` it gives the digits of
`n * m + c`. The carry never reaches `m`, so a fixed number of digits is enough for what is left of it
at the end of the list.
-/

namespace Radix

/-- The digits of a carry; `fuel` bounds how many there are. -/
def carry (b : ℕ) : ℕ → ℕ → List ℕ
  | 0, _ => []
  | fuel + 1, c => if c = 0 then [] else c % b :: carry b fuel (c / b)

/-- Multiplies by `m` and adds `c`. -/
def mulAdd (b m fuel : ℕ) : List ℕ → ℕ → List ℕ
  | [], c => carry b fuel c
  | d :: rest, c => (d * m + c) % b :: mulAdd b m fuel rest ((d * m + c) / b)

/-- Reads the digits of a number in base `m`, highest first. -/
def convert (b m fuel : ℕ) (ds : List ℕ) : List ℕ := ds.foldl (mulAdd b m fuel) []

variable {b m fuel : ℕ}

theorem carry_eq_digits (hb : 1 < b) {c : ℕ} (hc : c < b ^ fuel) : carry b fuel c = Nat.digits b c := by
  induction fuel generalizing c with
  | zero =>
    obtain rfl : c = 0 := by simpa using hc
    rw [carry, Nat.digits_zero]
  | succ fuel ih =>
    by_cases h0 : c = 0
    · rw [carry, if_pos h0, h0, Nat.digits_zero]
    · have hdiv : c / b < b ^ fuel := by
        rw [Nat.div_lt_iff_lt_mul (by omega), ← pow_succ]
        exact hc
      rw [carry, if_neg h0, ih hdiv, Nat.digits_def' hb (Nat.pos_of_ne_zero h0)]

/-- A carry below `m` gives a carry below `m`. -/
theorem carry_lt {d c : ℕ} (hd : d < b) (hc : c < m) : (d * m + c) / b < m := by
  have hb : 0 < b := by omega
  rw [Nat.div_lt_iff_lt_mul hb]
  calc d * m + c < d * m + m := by omega
    _ = (d + 1) * m := by ring
    _ ≤ b * m := Nat.mul_le_mul_right m hd
    _ = m * b := Nat.mul_comm b m

theorem lt_of_mem_carry (hb : 0 < b) {c : ℕ} : ∀ d ∈ carry b fuel c, d < b := by
  induction fuel generalizing c with
  | zero => simp [carry]
  | succ fuel ih =>
    rw [carry]
    split
    · simp
    · exact List.forall_mem_cons.2 ⟨Nat.mod_lt c hb, ih⟩

/-- Whatever the list was, a pass leaves digits. -/
theorem lt_of_mem_mulAdd (hb : 0 < b) {ds : List ℕ} {c : ℕ} : ∀ d ∈ mulAdd b m fuel ds c, d < b := by
  induction ds generalizing c with
  | nil => exact lt_of_mem_carry hb
  | cons d ds ih => exact List.forall_mem_cons.2 ⟨Nat.mod_lt _ hb, ih⟩

theorem mulAdd_digits (hb : 1 < b) (hm : m ≤ b ^ fuel) (n : ℕ) {c : ℕ} (hc : c < m) :
    mulAdd b m fuel (Nat.digits b n) c = Nat.digits b (n * m + c) := by
  induction n using Nat.strong_induction_on generalizing c with
  | _ n ih =>
    by_cases h0 : n = 0
    · rw [h0, Nat.digits_zero, mulAdd, carry_eq_digits hb (lt_of_lt_of_le hc hm), Nat.zero_mul,
        Nat.zero_add]
    · have hpos : 0 < n := Nat.pos_of_ne_zero h0
      have hdigit : n % b < b := Nat.mod_lt n (by omega)
      have hsplit : n * m + c = b * (n / b * m) + (n % b * m + c) := by
        nth_rewrite 1 [← Nat.div_add_mod n b]
        ring
      have hprod : 0 < n * m + c := Nat.add_pos_left (Nat.mul_pos hpos (by omega)) c
      rw [Nat.digits_def' hb hpos, mulAdd, ih (n / b) (Nat.div_lt_self hpos hb) (carry_lt hdigit hc),
        Nat.digits_def' hb hprod, hsplit, Nat.mul_add_mod, Nat.mul_add_div (by omega)]

/-- What has been read so far, as a number. -/
theorem foldl_mulAdd (hb : 1 < b) (hm : m ≤ b ^ fuel) {ds : List ℕ} (hds : ∀ d ∈ ds, d < m) (n : ℕ) :
    ds.foldl (mulAdd b m fuel) (Nat.digits b n) = Nat.digits b (ds.foldl (fun n d => n * m + d) n) := by
  induction ds generalizing n with
  | nil => rfl
  | cons d ds ih =>
    rw [List.foldl_cons, List.foldl_cons, mulAdd_digits hb hm n (hds d (List.mem_cons_self ..)),
      ih fun d' hd' => hds d' (List.mem_cons_of_mem d hd')]

/-- Reading digits from the highest on gives the number they write. -/
theorem foldl_eq_ofDigits (ds : List ℕ) :
    ds.foldl (fun n d => n * m + d) 0 = Nat.ofDigits m ds.reverse := by
  induction ds using List.reverseRecOn with
  | nil => rfl
  | append_singleton ds d ih =>
    rw [List.foldl_append, List.foldl_cons, List.foldl_nil, ih, List.reverse_append]
    simp only [List.reverse_cons, List.reverse_nil, List.nil_append, List.singleton_append,
      Nat.ofDigits_cons]
    ring

theorem convert_eq (hb : 1 < b) (hm : m ≤ b ^ fuel) {ds : List ℕ} (hds : ∀ d ∈ ds, d < m) :
    convert b m fuel ds = Nat.digits b (Nat.ofDigits m ds.reverse) := by
  rw [convert, ← Nat.digits_zero b, foldl_mulAdd hb hm hds, foldl_eq_ofDigits]

/-- The digits of a number have no leading zero. -/
theorem head?_reverse_digits_ne_zero (b n : ℕ) : (Nat.digits b n).reverse.head? ≠ some 0 := by
  intro h
  rw [List.head?_reverse] at h
  have hn : n ≠ 0 := by
    rintro rfl
    simp at h
  refine Nat.getLast_digit_ne_zero b hn ?_
  rw [List.getLast?_eq_some_getLast (Nat.digits_ne_nil_iff_ne_zero.2 hn)] at h
  exact Option.some.inj h

/-- Digits that are read in another base and written back: with no leading zero they are the same. -/
theorem convert_convert {fuel' : ℕ} (hb : 1 < b) (hm : 1 < m) (hmb : m ≤ b ^ fuel) (hbm : b ≤ m ^ fuel')
    {ds : List ℕ} (hds : ∀ d ∈ ds, d < b) (hlead : ∀ d, ds.head? = some d → d ≠ 0) :
    (convert b m fuel (convert m b fuel' ds).reverse).reverse = ds := by
  have hdigits : ∀ d ∈ (convert m b fuel' ds).reverse, d < m := by
    intro d hd
    rw [List.mem_reverse, convert_eq hm hbm hds] at hd
    exact Nat.digits_lt_base hm hd
  rw [convert_eq hb hmb hdigits, List.reverse_reverse, convert_eq hm hbm hds, Nat.ofDigits_digits,
    Nat.digits_ofDigits b hb ds.reverse (fun d hd => hds d (List.mem_reverse.1 hd)), List.reverse_reverse]
  intro hne
  rw [List.getLast_reverse]
  exact hlead _ (List.head?_eq_some_head _)

end Radix
