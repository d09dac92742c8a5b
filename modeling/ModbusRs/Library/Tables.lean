import Mathlib.Data.List.Basic
import Mathlib.Tactic.Common

/-!
# Tables

A table gives values to addresses. It is written from an address on, value after value, and a
trace of events leaves the places as they are that none of its events touches.
-/

namespace Tables

section

variable {α : Type}

/-- A value for each address that has one. -/
abbrev Table (α : Type) : Type := Nat → Option α

/-- The table with values written from an address on. -/
def overwrite (t : Table α) (first : Nat) (values : List α) : Table α := fun address =>
  if first ≤ address then (values[address - first]?).or (t address) else t address

/-- The table has these values from an address on. -/
def Holds (t : Table α) (first : Nat) (values : List α) : Prop :=
  ∀ i < values.length, t (first + i) = values[i]?

variable {t : Table α} {first : Nat} {values : List α}

@[simp] lemma overwrite_nil : overwrite t first [] = t := by
  funext address
  simp [overwrite]

lemma overwrite_add {i : Nat} (hi : i < values.length) :
    overwrite t first values (first + i) = values[i]? := by
  simp [overwrite, List.getElem?_eq_getElem hi]

lemma overwrite_outside {address : Nat}
    (h : address < first ∨ first + values.length ≤ address) :
    overwrite t first values address = t address := by
  by_cases hle : first ≤ address
  · have hnone : values[address - first]? = none := List.getElem?_eq_none (by omega)
    simp [overwrite, hnone]
  · simp [overwrite, hle]

/-- A table is what was written to it when it has the values where they were written, and its old
values elsewhere. -/
lemma eq_overwrite {t' : Table α} (hwritten : Holds t' first values)
    (hkept : ∀ address, address < first ∨ first + values.length ≤ address →
      t' address = t address) : t' = overwrite t first values := by
  funext address
  by_cases h : address < first ∨ first + values.length ≤ address
  · rw [hkept address h, overwrite_outside h]
  · obtain ⟨i, rfl⟩ := Nat.exists_eq_add_of_le (show first ≤ address by omega)
    rw [hwritten i (by omega), overwrite_add (by omega)]

lemma holds_overwrite : Holds (overwrite t first values) first values :=
  fun _ hi => overwrite_add hi

lemma Holds.take (h : Holds t first values) (n : Nat) : Holds t first (values.take n) := by
  intro i hi
  rw [List.length_take] at hi
  rw [h i (by omega), List.getElem?_take_of_lt (by omega)]

/-- Two lists of values from one address on are the same. -/
lemma Holds.unique {values' : List α} (h : Holds t first values) (h' : Holds t first values')
    (hlength : values.length = values'.length) : values = values' := by
  apply List.ext_getElem?
  intro i
  by_cases hi : i < values.length
  · rw [← h i hi, ← h' i (by omega)]
  · rw [List.getElem?_eq_none (by omega), List.getElem?_eq_none (by omega)]

end

/-! ### Traces -/

section

variable {σ ε : Type} (step : σ → ε → σ → Prop)

/-- The events of a list, one after the other. -/
inductive Trace : σ → List ε → σ → Prop where
  | nil (s : σ) : Trace s [] s
  | cons {s s' s'' : σ} {e : ε} {events : List ε} (hfirst : step s e s')
      (hrest : Trace s' events s'') : Trace s (e :: events) s''

variable {step} {s s' : σ} {events events' : List ε}

lemma Trace.append_iff :
    Trace step s (events ++ events') s' ↔
      ∃ middle, Trace step s events middle ∧ Trace step middle events' s' := by
  induction events generalizing s with
  | nil =>
    constructor
    · exact fun h => ⟨s, .nil s, h⟩
    · rintro ⟨_, ⟨⟩, h⟩
      exact h
  | cons e events ih =>
    constructor
    · rintro (_ | ⟨hfirst, hrest⟩)
      obtain ⟨middle, hfront, hback⟩ := ih.mp hrest
      exact ⟨middle, .cons hfirst hfront, hback⟩
    · rintro ⟨middle, hfront, hback⟩
      cases hfront with
      | cons hfirst hrest => exact .cons hfirst (ih.mpr ⟨middle, hrest, hback⟩)

lemma Trace.singleton_iff {e : ε} : Trace step s [e] s' ↔ step s e s' := by
  constructor
  · rintro (_ | ⟨hfirst, ⟨⟩⟩)
    exact hfirst
  · exact fun h => .cons h (.nil s')

/-- What no event of a trace touches, the trace leaves as it is. -/
theorem Trace.keeps {ω : Type} (view : σ → ω) (touches : ε → Prop)
    (hstep : ∀ s e s', step s e s' → ¬touches e → view s' = view s)
    (h : Trace step s events s') (hnone : ∀ e ∈ events, ¬touches e) : view s' = view s := by
  induction h with
  | nil => rfl
  | cons hfirst _ ih =>
    rw [ih fun e he => hnone e (List.mem_cons_of_mem _ he)]
    exact hstep _ _ _ hfirst (hnone _ List.mem_cons_self)

/-- A simulation of the steps is one of the traces. -/
theorem Trace.map {σ' : Type} {step' : σ' → ε → σ' → Prop} (abs : σ → σ')
    (hstep : ∀ s e s', step s e s' → step' (abs s) e (abs s'))
    (h : Trace step s events s') : Trace step' (abs s) events (abs s') := by
  induction h with
  | nil => exact .nil _
  | cons hfirst _ ih => exact .cons (hstep _ _ _ hfirst) ih

end

end Tables
