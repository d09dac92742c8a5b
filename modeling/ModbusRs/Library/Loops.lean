import Mathlib.Data.Nat.Basic

/-!
# Loops

A loop repeats its body until the body finds nothing to do. Every round decreases a measure, so
that the loop ends, and it ends in the same state however many rounds it is allowed.
-/

/-- A loop over states of type `σ`. -/
structure Loop (σ : Type) where
  body : σ → Option σ
  measure : σ → Nat
  decreases : ∀ {s s'}, body s = some s' → measure s' < measure s

namespace Loop

variable {σ : Type} (loop : Loop σ)

/-- The loop with a bound on its rounds; `none` if there are not enough of them. -/
def iterate : Nat → σ → Option σ
  | 0, _ => none
  | rounds + 1, s =>
    match loop.body s with
    | none => some s
    | some s' => iterate rounds s'

lemma exists_iterate {rounds : Nat} {s : σ} (h : loop.measure s < rounds) :
    ∃ r, loop.iterate rounds s = some r := by
  induction rounds generalizing s with
  | zero => exact absurd h (Nat.not_lt_zero _)
  | succ rounds ih =>
    rw [iterate]
    cases hbody : loop.body s with
    | none => exact ⟨s, rfl⟩
    | some s' => exact ih (Nat.lt_of_lt_of_le (loop.decreases hbody) (Nat.le_of_lt_succ h))

lemma isSome_iterate (s : σ) : (loop.iterate (loop.measure s + 1) s).isSome = true := by
  obtain ⟨r, hr⟩ := loop.exists_iterate (Nat.lt_succ_self (loop.measure s))
  rw [hr]
  rfl

/-- The state in which the loop ends. -/
def finish (s : σ) : σ := (loop.iterate (loop.measure s + 1) s).get (loop.isSome_iterate s)

lemma iterate_mono {rounds rounds' : Nat} (hle : rounds ≤ rounds') {s r : σ}
    (h : loop.iterate rounds s = some r) : loop.iterate rounds' s = some r := by
  induction rounds generalizing rounds' s with
  | zero => cases h
  | succ rounds ih =>
    obtain ⟨rounds', rfl⟩ := Nat.exists_eq_add_of_lt (Nat.lt_of_succ_le hle)
    rw [iterate] at h ⊢
    cases hbody : loop.body s with
    | none => rwa [hbody] at h
    | some s' =>
      rw [hbody] at h
      exact ih (Nat.le_add_right _ _) h

/-- The loop ends. -/
theorem iterate_eq_finish {rounds : Nat} {s : σ} (h : loop.measure s < rounds) :
    loop.iterate rounds s = some (loop.finish s) :=
  loop.iterate_mono h (Option.some_get (loop.isSome_iterate s)).symm

variable {loop}

/-- What every round preserves holds at the end, when there is nothing left to do. -/
theorem finish_invariant {P : σ → Prop} {s : σ}
    (hround : ∀ s s', loop.body s = some s' → P s → P s') (hs : P s) :
    P (loop.finish s) ∧ loop.body (loop.finish s) = none := by
  have hall (rounds : Nat) {s r : σ} (hs : P s) (h : loop.iterate rounds s = some r) :
      P r ∧ loop.body r = none := by
    induction rounds generalizing s with
    | zero => cases h
    | succ rounds ih =>
      rw [iterate] at h
      cases hbody : loop.body s with
      | none =>
        rw [hbody] at h
        cases h
        exact ⟨hs, hbody⟩
      | some s' =>
        rw [hbody] at h
        exact ih (hround s s' hbody hs) h
  exact hall _ hs (loop.iterate_eq_finish (Nat.lt_succ_self _))

end Loop
