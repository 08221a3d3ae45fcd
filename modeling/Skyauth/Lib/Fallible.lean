import Mathlib.Tactic.Basic

/-!
# Fallible computations

Checks, and what it takes for a computation in `Except` to succeed, stage by stage.
-/

namespace Fallible

variable {ε ε' α β : Type}

/-- A sequence succeeds when its stages do. -/
theorem bind_eq_ok {x : Except ε α} {f : α → Except ε β} {b : β} :
    (x >>= f) = .ok b ↔ ∃ a, x = .ok a ∧ f a = .ok b := by
  cases x <;> simp [bind, Except.bind]

/-- A check and what comes after it. -/
theorem check_bind_eq_ok {x : Except ε Unit} {f : Unit → Except ε β} {b : β} :
    (x >>= f) = .ok b ↔ x = .ok () ∧ f () = .ok b := by
  rw [bind_eq_ok]
  exact ⟨fun ⟨_, hx, hf⟩ => ⟨hx, hf⟩, fun ⟨hx, hf⟩ => ⟨(), hx, hf⟩⟩

theorem ok_bind {a : α} {f : α → Except ε β} : (.ok a >>= f) = f a := rfl

theorem error_bind {e : ε} {f : α → Except ε β} : (.error e >>= f) = .error e := rfl

theorem mapError_ok {f : ε → ε'} {a : α} : (.ok a : Except ε α).mapError f = .ok a := rfl

theorem mapError_error {f : ε → ε'} {e : ε} : (.error e : Except ε α).mapError f = .error (f e) := rfl

/-- Renaming an error does not change when a computation succeeds. -/
theorem mapError_eq_ok {x : Except ε α} {f : ε → ε'} {a : α} :
    x.mapError f = .ok a ↔ x = .ok a := by
  cases x <;> simp [mapError_ok, mapError_error]

theorem pure_eq_ok {a b : α} : (pure a : Except ε α) = .ok b ↔ a = b := by
  simp [pure, Except.pure]

/-- A value that may be missing, with the error for its absence. -/
theorem elim_eq_ok {o : Option α} {e : ε} {a : α} :
    o.elim (.error e) .ok = (.ok a : Except ε α) ↔ o = some a := by
  cases o <;> simp

/-- The check that fails with this error when the condition holds. -/
def rejectIf (c : Prop) [Decidable c] (e : ε) : Except ε Unit := if c then .error e else .ok ()

theorem rejectIf_eq_ok {c : Prop} [Decidable c] {e : ε} {u : Unit} : rejectIf c e = .ok u ↔ ¬c := by
  unfold rejectIf
  split <;> simp [*]

/-- A check of every element. -/
theorem forM_eq_ok {f : α → Except ε Unit} {l : List α} :
    l.forM f = .ok () ↔ ∀ a ∈ l, f a = .ok () := by
  induction l with
  | nil => simp [pure_eq_ok]
  | cons a l ih =>
    rw [List.forM, bind_eq_ok, List.forall_mem_cons, ← ih]
    constructor
    · rintro ⟨_, ha, hl⟩
      exact ⟨ha, hl⟩
    · rintro ⟨ha, hl⟩
      exact ⟨(), ha, hl⟩

theorem eq_error_of_ne_ok {x : Except ε α} (h : ∀ a, x ≠ .ok a) : ∃ e, x = .error e := by
  cases x with
  | error e => exact ⟨e, rfl⟩
  | ok a => exact absurd rfl (h a)

end Fallible
