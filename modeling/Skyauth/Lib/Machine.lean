import Mathlib.Data.List.Forall2

/-!
# Deterministic machines and simulation

A machine answers every input with an output and a next state. Two machines that are fed the same
inputs are compared by a simulation: a relation between their states that makes every pair of
answers correspond and survives the step. The relation may depend on the inputs still to come, which
is how assumptions about the whole input sequence enter.
-/

namespace Machine

variable {σ τ α ε δ : Type}

/-- The outputs of a machine over a list of inputs, and the state it ends in. -/
def outputs (step : σ → α → ε × σ) (s : σ) : List α → List ε × σ
  | [] => ([], s)
  | a :: as => ((step s a).1 :: (outputs step (step s a).2 as).1, (outputs step (step s a).2 as).2)

/-- A relation kept by every step of two machines whose answers correspond: all answers correspond,
    and the relation holds between the final states. -/
theorem forall₂_outputs {f : σ → α → ε × σ} {g : τ → α → δ × τ} {Q : ε → δ → Prop}
    {R : List α → σ → τ → Prop}
    (hstep : ∀ a as s t, R (a :: as) s t → Q (f s a).1 (g t a).1 ∧ R as (f s a).2 (g t a).2) :
    ∀ (as : List α) (s : σ) (t : τ), R as s t →
      List.Forall₂ Q (outputs f s as).1 (outputs g t as).1 ∧
        R [] (outputs f s as).2 (outputs g t as).2 := by
  intro as
  induction as with
  | nil => intro s t h; exact ⟨.nil, h⟩
  | cons a as ih =>
    intro s t h
    obtain ⟨hq, hr⟩ := hstep a as s t h
    obtain ⟨hqs, hr'⟩ := ih _ _ hr
    exact ⟨.cons hq hqs, hr'⟩

/-- The case of equal answers. -/
theorem outputs_eq {f : σ → α → ε × σ} {g : τ → α → ε × τ} {R : List α → σ → τ → Prop}
    (hstep : ∀ a as s t, R (a :: as) s t → (f s a).1 = (g t a).1 ∧ R as (f s a).2 (g t a).2)
    (as : List α) (s : σ) (t : τ) (h : R as s t) :
    (outputs f s as).1 = (outputs g t as).1 ∧ R [] (outputs f s as).2 (outputs g t as).2 := by
  obtain ⟨h1, h2⟩ := forall₂_outputs (Q := Eq) hstep as s t h
  exact ⟨List.forall₂_eq_eq_eq ▸ h1, h2⟩

end Machine
