import Skyauth.Lib.Table
import Mathlib.Order.Defs.PartialOrder
import Mathlib.Logic.Function.Basic

/-!
# Maps whose values expire

A value `v` of an expiring map stops being visible at some moment and never becomes visible again:
`expired v t` says that it is gone at time `t`. A pruned map and the map that was never pruned then
agree at every later moment, as long as every pruning pass used a time that is not ahead of the
clock. `AgreeAt` states this agreement between two partial maps, and its lemmas say how it is
carried through the passing of time, pruning, insertion and removal.
-/

namespace Expiring

variable {K V T : Type}

/-- The part of an optional value that is still visible at time `t`. -/
def live (expired : V → T → Bool) (t : T) (o : Option V) : Option V :=
  o.filter (fun v => !expired v t)

/-- Two partial maps show the same values at time `t`. -/
def AgreeAt (expired : V → T → Bool) (t : T) (f g : K → Option V) : Prop :=
  ∀ k, live expired t (f k) = live expired t (g k)

/-- Drops the values that are gone at time `t`. -/
def prune (expired : V → T → Bool) (t : T) (m : Table K V) : Table K V :=
  m.retain (fun _ v => !expired v t)

/-- Once a value is gone it stays gone. -/
def Persistent [LE T] (expired : V → T → Bool) : Prop :=
  ∀ v t t', t ≤ t' → expired v t = true → expired v t' = true

variable {expired : V → T → Bool} {t t' : T} {f g h : K → Option V}

@[simp] theorem live_none : live expired t (none : Option V) = none := rfl

theorem live_eq_some {o : Option V} {v : V} :
    live expired t o = some v ↔ o = some v ∧ expired v t = false := by
  simp [live, Option.filter_eq_some_iff]

theorem live_some_of_not_expired {v : V} (hv : expired v t = false) :
    live expired t (some v) = some v :=
  live_eq_some.2 ⟨rfl, hv⟩

theorem live_some_of_expired {v : V} (hv : expired v t = true) : live expired t (some v) = none := by
  simp [live, hv]

theorem AgreeAt.refl (f : K → Option V) : AgreeAt expired t f f := fun _ => rfl

theorem AgreeAt.trans (hfg : AgreeAt expired t f g) (hgh : AgreeAt expired t g h) :
    AgreeAt expired t f h := fun k => (hfg k).trans (hgh k)

theorem size_prune_le (m : Table K V) : (prune expired t m).size ≤ m.size :=
  AList.size_retain_le _ _

/-- What is visible at `t` in one map is visible in the other. -/
theorem AgreeAt.eq_some (hfg : AgreeAt expired t f g) {k : K} {v : V} (hk : g k = some v)
    (hv : expired v t = false) : f k = some v := by
  have h1 : live expired t (g k) = some v := live_eq_some.2 ⟨hk, hv⟩
  rw [← hfg k] at h1
  exact (live_eq_some.1 h1).1

/-- Overwriting some entries of both maps keeps agreement. -/
theorem AgreeAt.overwrite (hfg : AgreeAt expired t f g) (w : K → Option (Option V)) :
    AgreeAt expired t (fun k => (w k).getD (f k)) (fun k => (w k).getD (g k)) := by
  intro k
  cases hw : w k with
  | none => simpa only [hw, Option.getD_none] using hfg k
  | some o => simp only [hw, Option.getD_some]

section Time

variable [Preorder T] (hp : Persistent expired)

include hp

/-- What is visible later was visible before. -/
theorem live_live (htt : t ≤ t') (o : Option V) :
    live expired t' (live expired t o) = live expired t' o := by
  cases o with
  | none => rfl
  | some v =>
    cases hv : expired v t with
    | false => rw [live_some_of_not_expired hv]
    | true => rw [live_some_of_expired hv, live_some_of_expired (hp v t t' htt hv), live_none]

/-- Agreement lasts. -/
theorem AgreeAt.mono (hfg : AgreeAt expired t f g) (htt : t ≤ t') : AgreeAt expired t' f g := by
  intro k
  rw [← live_live hp htt (f k), hfg k, live_live hp htt]

end Time

variable [DecidableEq K]

@[simp] theorem lookup_prune (m : Table K V) (k : K) :
    (prune expired t m).lookup k = live expired t (m.lookup k) := by
  simp [prune, live]

/-- The number of entries a pruning pass leaves, in terms of what is visible. -/
theorem size_prune_eq_encard (m : Table K V) :
    ((prune expired t m).size : ℕ∞) = {k | (live expired t (m.lookup k)).isSome}.encard := by
  rw [prune, AList.size_retain_eq_encard]
  congr 1
  ext k
  simp only [Set.mem_ofPred_eq, Option.isSome_iff_exists, live_eq_some, Bool.not_eq_eq_eq_not,
    Bool.not_true]

/-- Pruning at a time that is not ahead of the clock cannot be seen. -/
theorem agreeAt_prune [Preorder T] (hp : Persistent expired) (htt : t ≤ t') (m : Table K V) :
    AgreeAt expired t' (fun k => (prune expired t m).lookup k) (fun k => m.lookup k) := by
  intro k
  show live expired t' ((prune expired t m).lookup k) = live expired t' (m.lookup k)
  rw [lookup_prune, live_live hp htt]

/-- Writing the same entry keeps agreement. -/
theorem AgreeAt.update (hfg : AgreeAt expired t f g) (k : K) (o : Option V) :
    AgreeAt expired t (Function.update f k o) (Function.update g k o) := by
  intro k'
  by_cases hk : k' = k
  · subst hk; simp
  · rw [Function.update_of_ne hk, Function.update_of_ne hk]
    exact hfg k'

end Expiring
