import Mathlib.Data.List.Basic

/-!
# Runs of a system

A system is given by an initial state and a partial step function: in state `s` an action `a` either
is refused or leads to a next state and an output. A run is recorded as the list of the actions
taken, each with its output. Since a scheduler picks the actions, quantifying over runs quantifies
over all interleavings.

`Exec ok step s₀ tr s` says that the run `tr` leads from `s₀` to `s` and that every step of it
satisfied the condition `ok`; with `ok = anyStep` it is an unrestricted run.
-/

namespace Exec

/-- The condition that every step satisfies. -/
def anyStep {σ α : Type} (_ : σ) (_ : α) : Prop := True

end Exec

/-- Runs of the step function `step` from `s₀` whose steps all satisfy `ok`. -/
inductive Exec {σ α ε : Type} (ok : σ → α → Prop) (step : σ → α → Option (σ × ε)) (s₀ : σ) :
    List (α × ε) → σ → Prop where
  /-- The empty run. -/
  | nil : Exec ok step s₀ [] s₀
  /-- One more step. -/
  | snoc {tr : List (α × ε)} {s s' : σ} {a : α} {e : ε} (hr : Exec ok step s₀ tr s) (hok : ok s a)
      (hs : step s a = some (s', e)) : Exec ok step s₀ (tr ++ [(a, e)]) s'

namespace Exec

variable {σ α ε : Type} {ok ok' : σ → α → Prop} {step : σ → α → Option (σ × ε)} {s₀ s : σ}
  {tr : List (α × ε)}

/-- A property of the run so far and the state reached that holds initially and is kept by every
    step holds along every run. -/
theorem invariant (I : List (α × ε) → σ → Prop) (h0 : I [] s₀)
    (hstep : ∀ tr s a s' e, I tr s → ok s a → step s a = some (s', e) → I (tr ++ [(a, e)]) s')
    (hr : Exec ok step s₀ tr s) : I tr s := by
  induction hr with
  | nil => exact h0
  | snoc _ hok hs ih => exact hstep _ _ _ _ _ ih hok hs

/-- Weakening the condition on the steps. -/
theorem mono (himp : ∀ s a, ok s a → ok' s a) (hr : Exec ok step s₀ tr s) :
    Exec ok' step s₀ tr s := by
  induction hr with
  | nil => exact nil
  | snoc _ hok hs ih => exact ih.snoc (himp _ _ hok) hs

/-- Forgetting the condition on the steps. -/
theorem toAny (hr : Exec ok step s₀ tr s) : Exec anyStep step s₀ tr s :=
  hr.mono fun _ _ _ => trivial

/-- Every prefix of a run is a run. -/
theorem of_prefix {pre : List (α × ε)} (hr : Exec ok step s₀ tr s) (hp : pre <+: tr) :
    ∃ s', Exec ok step s₀ pre s' := by
  induction hr with
  | nil => exact ⟨s₀, by rw [List.prefix_nil.1 hp]; exact nil⟩
  | snoc hr hok hs ih =>
    rcases List.prefix_concat_iff.1 (by simpa using hp) with h | h
    · exact ⟨_, by rw [h]; simpa using hr.snoc hok hs⟩
    · exact ih h

/-- Where an entry of a run stands, the run up to it and the step that made it. -/
theorem split_at {pre post : List (α × ε)} {a : α} {e : ε}
    (hr : Exec ok step s₀ tr s) (htr : tr = pre ++ (a, e) :: post) :
    ∃ s₁ s₂, Exec ok step s₀ pre s₁ ∧ ok s₁ a ∧ step s₁ a = some (s₂, e) := by
  have hp : pre ++ [(a, e)] <+: tr := ⟨post, by rw [htr]; simp⟩
  obtain ⟨s', hs'⟩ := hr.of_prefix hp
  generalize hq : pre ++ [(a, e)] = q at hs'
  cases hs' with
  | nil => simp at hq
  | snoc hr' hok hs =>
    obtain ⟨h1, h2⟩ := List.append_inj' hq rfl
    simp only [List.cons.injEq, Prod.mk.injEq, and_true] at h2
    obtain ⟨rfl, rfl⟩ := h2
    exact ⟨_, _, h1 ▸ hr', hok, hs⟩

/-- Executes a list of actions, if none is refused. -/
def run (step : σ → α → Option (σ × ε)) (s : σ) : List α → Option (List (α × ε) × σ)
  | [] => some ([], s)
  | a :: as => do
    let (s', e) ← step s a
    let (tr, s'') ← run step s' as
    return ((a, e) :: tr, s'')

/-- Executing actions from a state that a run reaches extends that run. -/
theorem of_run {as : List α} {pre : List (α × ε)} {s s' : σ} {tr : List (α × ε)}
    (hr : Exec anyStep step s₀ pre s) (h : run step s as = some (tr, s')) :
    Exec anyStep step s₀ (pre ++ tr) s' := by
  induction as generalizing pre s tr with
  | nil =>
    simp only [run, Option.some.injEq, Prod.mk.injEq] at h
    obtain ⟨rfl, rfl⟩ := h
    simpa using hr
  | cons a as ih =>
    simp only [run, Option.bind_eq_bind, Option.pure_def, Option.bind_eq_some_iff, Option.some.injEq,
      Prod.mk.injEq] at h
    obtain ⟨⟨s1, e⟩, hs, ⟨tr', s2⟩, hrest, rfl, rfl⟩ := h
    have := ih (hr.snoc trivial hs) hrest
    simpa using this

/-- The step function that refuses what does not satisfy the condition. -/
def checked (ok : σ → α → Prop) [∀ s a, Decidable (ok s a)] (step : σ → α → Option (σ × ε)) (s : σ)
    (a : α) : Option (σ × ε) :=
  if ok s a then step s a else none

/-- The runs of the checked step function satisfy the condition. -/
theorem of_checked [∀ s a, Decidable (ok s a)] (hr : Exec anyStep (checked ok step) s₀ tr s) :
    Exec ok step s₀ tr s := by
  induction hr with
  | nil => exact nil
  | snoc _ _ hs ih =>
    unfold checked at hs
    split at hs
    · rename_i hok
      exact ih.snoc hok hs
    · cases hs

end Exec
