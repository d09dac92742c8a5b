import Mathlib.Logic.Relation

/-!
# Runs of a system

A system with states `α` performs actions of type `ι`; what the environment chooses is part of
the action. A run is a finite sequence of actions, and a run can be restricted to actions that
meet a condition in the state in which they are performed.
-/

namespace Runs

variable {α ι : Type}

/-- One action of a system, under a condition. -/
def StepWhen (cond : ι → α → Prop) (perform : ι → α → α) (s s' : α) : Prop :=
  ∃ i, cond i s ∧ s' = perform i s

/-- Runs all of whose actions meet the condition. -/
def RunWhen (cond : ι → α → Prop) (perform : ι → α → α) : α → α → Prop :=
  Relation.ReflTransGen (StepWhen cond perform)

/-- All runs. -/
def Run (perform : ι → α → α) : α → α → Prop := RunWhen (fun _ _ => True) perform

/-- The states that runs from an initial state lead to. -/
def Reachable (init : α → Prop) (perform : ι → α → α) (s : α) : Prop :=
  ∃ s₀, init s₀ ∧ Run perform s₀ s

section

variable {cond : ι → α → Prop} {perform : ι → α → α} {s s' s'' : α}

lemma RunWhen.refl (s : α) : RunWhen cond perform s s :=
  Relation.ReflTransGen.refl

lemma RunWhen.trans (h : RunWhen cond perform s s') (h' : RunWhen cond perform s' s'') :
    RunWhen cond perform s s'' :=
  Relation.ReflTransGen.trans h h'

lemma RunWhen.single {i : ι} (h : cond i s) : RunWhen cond perform s (perform i s) :=
  Relation.ReflTransGen.single ⟨i, h, rfl⟩

lemma Run.single (i : ι) (s : α) : Run perform s (perform i s) := RunWhen.single trivial

lemma RunWhen.mono {cond' : ι → α → Prop} (h : RunWhen cond perform s s')
    (hcond : ∀ i s, cond i s → cond' i s) : RunWhen cond' perform s s' := by
  induction h with
  | refl => exact RunWhen.refl _
  | tail _ hlast ih =>
    obtain ⟨i, hi, rfl⟩ := hlast
    exact ih.trans (RunWhen.single (hcond i _ hi))

/-- The actions of a list meet the condition, one after the other. -/
def Meets (cond : ι → α → Prop) (perform : ι → α → α) : List ι → α → Prop
  | [], _ => True
  | i :: rest, s => cond i s ∧ Meets cond perform rest (perform i s)

lemma RunWhen.foldl {actions : List ι} (h : Meets cond perform actions s) :
    RunWhen cond perform s (actions.foldl (fun s i => perform i s) s) := by
  induction actions generalizing s with
  | nil => exact RunWhen.refl s
  | cons i rest ih => exact (RunWhen.single h.1).trans (ih h.2)

lemma Meets.of_append {actions actions' : List ι}
    (h : Meets cond perform (actions ++ actions') s) :
    Meets cond perform actions' (actions.foldl (fun s i => perform i s) s) := by
  induction actions generalizing s with
  | nil => exact h
  | cons i rest ih => exact ih h.2

/-- A list of actions, one after the other. -/
lemma Run.foldl (actions : List ι) (s : α) :
    Run perform s (actions.foldl (fun s i => perform i s) s) := by
  induction actions generalizing s with
  | nil => exact RunWhen.refl s
  | cons i rest ih => exact RunWhen.trans (Run.single i s) (ih (perform i s))

/-- When the condition is exactly what an action needs to preserve `P`, the runs in which `P` holds
after every action are those that meet the condition. -/
theorem meets_iff_of_invariant {P : α → Prop}
    (hstep : ∀ i s, P s → (P (perform i s) ↔ cond i s)) {actions : List ι} {s : α} (hs : P s) :
    Meets (fun i s => P (perform i s)) perform actions s ↔ Meets cond perform actions s := by
  induction actions generalizing s with
  | nil => exact Iff.rfl
  | cons i rest ih =>
    refine Iff.trans (and_congr_right fun hi => ih hi) ?_
    exact and_congr_left fun _ => hstep i s hs

/-- Conditions that agree on the states of the runs that meet one of them. -/
theorem meets_congr {cond' : ι → α → Prop} {inv : α → Prop}
    (hcond : ∀ i s, inv s → (cond i s ↔ cond' i s))
    (hstep : ∀ i s, inv s → cond i s → inv (perform i s)) {actions : List ι} {s : α}
    (hs : inv s) : Meets cond perform actions s ↔ Meets cond' perform actions s := by
  induction actions generalizing s with
  | nil => exact Iff.rfl
  | cons i rest ih =>
    refine Iff.trans (and_congr_right fun hi => ih (hstep i s hs hi)) ?_
    exact and_congr_left fun _ => hcond i s hs

lemma Run.trans (h : Run perform s s') (h' : Run perform s' s'') : Run perform s s'' :=
  RunWhen.trans h h'

/-- What every action that meets the condition preserves holds along the run. -/
theorem RunWhen.invariant {P : α → Prop} (h : RunWhen cond perform s s')
    (hstep : ∀ i s, cond i s → P s → P (perform i s)) (hs : P s) : P s' := by
  induction h with
  | refl => exact hs
  | tail _ hlast ih =>
    obtain ⟨i, hi, rfl⟩ := hlast
    exact hstep i _ hi ih

theorem Run.invariant {P : α → Prop} (h : Run perform s s')
    (hstep : ∀ i s, P s → P (perform i s)) (hs : P s) : P s' :=
  RunWhen.invariant h (fun i s _ => hstep i s) hs

/-- What holds initially and is preserved by every action holds of all reachable states. -/
theorem Reachable.invariant {init P : α → Prop} (h : Reachable init perform s)
    (hinit : ∀ s, init s → P s) (hstep : ∀ i s, P s → P (perform i s)) : P s := by
  obtain ⟨s₀, hs₀, hrun⟩ := h
  exact hrun.invariant hstep (hinit s₀ hs₀)

end

end Runs
