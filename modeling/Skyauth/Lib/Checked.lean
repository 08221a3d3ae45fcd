import Mathlib.Algebra.Group.Nat.Defs

/-!
# Arithmetic of a fixed width

A sum or a product of machine numbers can be too large for their type. What happens then is a matter of
the build: with overflow checks the program panics, without them the result wraps around. Both are here,
with `none` for the panic, so that a function that gives the same result in both has not overflowed.
-/

namespace Checked

/-- What the build does with a result that does not fit. -/
inductive Overflow where
  | panics
  | wraps
  deriving DecidableEq, Repr

/-- The result `n` of an operation on numbers of `w` bits. -/
def fit (w : ℕ) (mode : Overflow) (n : ℕ) : Option ℕ :=
  if n < 2 ^ w then some n
  else match mode with
    | .panics => none
    | .wraps => some (n % 2 ^ w)

def add (w : ℕ) (mode : Overflow) (a b : ℕ) : Option ℕ := fit w mode (a + b)

def mul (w : ℕ) (mode : Overflow) (a b : ℕ) : Option ℕ := fit w mode (a * b)

variable {w n : ℕ} {mode : Overflow}

theorem fit_of_lt (h : n < 2 ^ w) : fit w mode n = some n := if_pos h

theorem fit_panics_of_le (h : 2 ^ w ≤ n) : fit w .panics n = none := if_neg (Nat.not_lt.2 h)

end Checked
