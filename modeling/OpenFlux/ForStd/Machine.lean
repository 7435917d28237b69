import Mathlib.Data.List.Basic

/-!
# Runs of labelled machines

A `Machine` takes one step for a label, where it is enabled, and emits observations.  All
nondeterminism (which thread runs, what the environment answers) is in the labels, so the
step is a function and a concrete run can be evaluated.

`Reach ok` are the runs all of whose steps meet `ok`, with what they emitted.  A safety
result is proved once per step and lifted to runs by `Reach.inv`; a concrete run enters
through `exists_reach`.
-/

universe u v w

/-- An initial state and what a label does in a state, where it is enabled. -/
structure Machine (σ : Type u) (ε : Type v) (ω : Type w) where
  init : σ
  step : σ → ε → Option (σ × List ω)

namespace Machine

variable {σ : Type u} {ε : Type v} {ω : Type w} (M : Machine σ ε ω)

/-- The runs from `init` whose steps all meet `ok`: the state reached and the
    observations, oldest first. -/
inductive Reach (ok : σ → ε → Prop) : σ → List ω → Prop
  | init : Reach ok M.init []
  | step {s s' : σ} {tr o : List ω} {e : ε} : Reach ok s tr → ok s e →
      M.step s e = some (s', o) → Reach ok s' (tr ++ o)

/-- Runs without a condition on their steps. -/
abbrev Reachable : σ → List ω → Prop := M.Reach fun _ _ => True

variable {M} {ok : σ → ε → Prop}

/-- A property of state and observations that holds initially and is kept by every step
    that meets `ok` holds along every run. -/
theorem Reach.inv {P : σ → List ω → Prop} (hinit : P M.init [])
    (hstep : ∀ {s tr e s' o}, P s tr → ok s e → M.step s e = some (s', o) → P s' (tr ++ o))
    {s : σ} {tr : List ω} (h : M.Reach ok s tr) : P s tr := by
  induction h with
  | init => exact hinit
  | step _ hok hs ih => exact hstep ih hok hs

variable (M) in
/-- Take the steps for `es` from `s`, each of which has to meet `ok`. -/
def execIf (ok : σ → ε → Prop) [∀ s e, Decidable (ok s e)] (s : σ) :
    List ε → Option (σ × List ω)
  | [] => some (s, [])
  | e :: es =>
    if ok s e then
      match M.step s e with
      | none => none
      | some (s₁, o₁) => (execIf ok s₁ es).map fun r => (r.1, o₁ ++ r.2)
    else none

/-- A run that was computed is a run. -/
private theorem reach_of_execIf [∀ s e, Decidable (ok s e)] {s s' : σ} {tr o : List ω}
    {es : List ε} (hr : M.Reach ok s tr) (h : M.execIf ok s es = some (s', o)) :
    M.Reach ok s' (tr ++ o) := by
  induction es generalizing s tr o with
  | nil =>
    obtain ⟨rfl, rfl⟩ := Prod.mk.inj (Option.some.inj h)
    simpa using hr
  -- the first event is a step of the machine, and the rest goes on from there
  | cons e es ih =>
    simp only [execIf] at h
    split at h
    · rename_i hok
      split at h
      · contradiction
      · rename_i s₁ o₁ hs
        simp only [Option.map_eq_some_iff] at h
        obtain ⟨⟨s₂, o₂⟩, hrest, heq⟩ := h
        obtain ⟨rfl, rfl⟩ := Prod.mk.inj heq
        rw [← List.append_assoc]
        exact ih (hr.step hok hs) hrest
    · contradiction

/-- An evaluated run is a run. -/
theorem execIf_reach [∀ s e, Decidable (ok s e)] {s : σ} {tr : List ω} {es : List ε}
    (h : M.execIf ok M.init es = some (s, tr)) : M.Reach ok s tr := by
  simpa using reach_of_execIf Reach.init h

variable (M ok) in
/-- A run that evaluates to a state and observations with the decidable property `P`. -/
theorem exists_reach [∀ s e, Decidable (ok s e)] (P : σ → List ω → Bool) (es : List ε)
    (h : (M.execIf ok M.init es).any fun r => P r.1 r.2) :
    ∃ s tr, M.Reach ok s tr ∧ P s tr := by
  obtain ⟨⟨s, tr⟩, hrun, hP⟩ := (Option.any_eq_true _ _).mp h
  exact ⟨s, tr, execIf_reach hrun, hP⟩

end Machine
