import Mathlib.Data.List.DropRight

/-!
# Scanning a text for its parts

What follows the first occurrence of a pattern, what follows the last occurrence of a symbol, and
decimal numbers in fixed-width types.
-/

namespace Scan

section Parts

variable {α : Type} [DecidableEq α]

/-- What follows the first occurrence of a pattern. -/
def after (pattern : List α) : List α → Option (List α)
  | [] => if pattern = [] then some [] else none
  | a :: l =>
    if pattern.isPrefixOf (a :: l) then some ((a :: l).drop pattern.length) else after pattern l

/-- What follows the last occurrence of a symbol, or everything. -/
def afterLast (sep : α) (l : List α) : List α := l.rtakeWhile (· ≠ sep)

end Parts

/-! ## Decimal numbers -/

/-- The number that digits denote. -/
def decimalValue (digits : List Char) : Nat := digits.foldl (fun n c => 10 * n + (c.toNat - 48)) 0

/-- The number below a bound that a text denotes: digits, with an optional sign before them. -/
def parseDecimal (bound : Nat) (l : List Char) : Option Nat :=
  let digits := if l.head? = some '+' then l.tail else l
  if digits = [] ∨ digits.all Char.isDigit = false then none
  else if decimalValue digits < bound then some (decimalValue digits) else none

end Scan
