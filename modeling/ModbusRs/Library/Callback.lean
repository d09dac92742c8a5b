import ModbusRs.Library.Effect

/-!
# Computations that call back into a client

A computation of type `CallbackM ε κ σ α` runs against a client with state `σ`. It can fail,
panic, and call the client; every call is recorded under a label of type `κ`.
-/

/-- A client's state together with the calls made so far, oldest first. -/
structure Client (κ σ : Type) where
  state : σ
  calls : List κ

/-- Computations with callbacks. -/
abbrev CallbackM (ε κ σ : Type) : Type → Type := EffM ε (Client κ σ)

namespace CallbackM

variable {ε κ σ α β γ ρ : Type}

/-- One recorded call; `f` is what the client does with it. -/
def call (label : κ) (f : σ → α × σ) : CallbackM ε κ σ α :=
  fun c => (.ok (f c.state).1, ⟨(f c.state).2, c.calls ++ [label]⟩)

@[simp] lemma run_call (label : κ) (f : σ → α × σ) (c : Client κ σ) :
    (call label f : CallbackM ε κ σ α).run c =
      (.ok (f c.state).1, ⟨(f c.state).2, c.calls ++ [label]⟩) := rfl

@[simp] lemma run_call_bind (label : κ) (f : σ → α × σ) (g : α → CallbackM ε κ σ β)
    (c : Client κ σ) :
    (call label f >>= g).run c =
      (g (f c.state).1).run ⟨(f c.state).2, c.calls ++ [label]⟩ := rfl

/-- Check the request, make one call with what the check found, finish from its result. -/
def checkCallFinish (check : Outcome ε ρ) (label : ρ → κ) (f : ρ → σ → α × σ)
    (finish : ρ → α → Outcome ε β) : CallbackM ε κ σ β := do
  let r ← EffM.lift check
  let a ← call (label r) (f r)
  EffM.lift (finish r a)

section CheckCallFinish

variable {check : Outcome ε ρ} {label : ρ → κ} {f : ρ → σ → α × σ}
  {finish : ρ → α → Outcome ε β} {c : Client κ σ}

lemma checkCallFinish_ok {r : ρ} (h : check = .ok r) :
    (checkCallFinish check label f finish).run c =
      (finish r (f r c.state).1, ⟨(f r c.state).2, c.calls ++ [label r]⟩) := by
  simp [checkCallFinish, h]

lemma checkCallFinish_err {e : ε} (h : check = .err e) :
    (checkCallFinish check label f finish).run c = (.err e, c) := by
  simp [checkCallFinish, h]

lemma checkCallFinish_panic (h : check = .panic) :
    (checkCallFinish check label f finish).run c = (.panic, c) := by
  simp [checkCallFinish, h]

/-- The client is called exactly when the check succeeds. -/
lemma checkCallFinish_calls :
    ((checkCallFinish check label f finish).run c).2.calls = c.calls ↔ ∀ r, check ≠ .ok r := by
  cases check with
  | ok r =>
    rw [checkCallFinish_ok rfl]
    simp
  | err e =>
    rw [checkCallFinish_err rfl]
    simp
  | panic =>
    rw [checkCallFinish_panic rfl]
    simp

/-- A result comes from a check that succeeded and a finishing step that did. -/
lemma checkCallFinish_eq_ok {b : β}
    (h : ((checkCallFinish check label f finish).run c).1 = .ok b) :
    ∃ r, check = .ok r ∧ finish r (f r c.state).1 = .ok b := by
  cases hc : check with
  | ok r => exact ⟨r, rfl, by simpa [checkCallFinish_ok hc] using h⟩
  | err e => simp [checkCallFinish_err hc] at h
  | panic => simp [checkCallFinish_panic hc] at h

/-- What rules out the finishing step rules out the result. -/
lemma checkCallFinish_not {P : ρ → α → Prop} {b : β}
    (h : ((checkCallFinish check label f finish).run c).1 = .ok b)
    (hP : ∀ r a, finish r a = .ok b → ¬P r a) :
    ¬∃ r, check = .ok r ∧ P r (f r c.state).1 := by
  obtain ⟨r, hr, hfinish⟩ := checkCallFinish_eq_ok h
  rintro ⟨r', hr', hp⟩
  obtain rfl := Outcome.ok.inj (hr.symm.trans hr')
  exact hP r _ hfinish hp

lemma checkCallFinish_ne_panic (hcheck : check ≠ .panic)
    (hfinish : ∀ r, check = .ok r → ∀ a, finish r a ≠ .panic) :
    ((checkCallFinish check label f finish).run c).1 ≠ .panic := by
  cases check with
  | ok r =>
    rw [checkCallFinish_ok rfl]
    exact hfinish r rfl _
  | err e =>
    rw [checkCallFinish_err rfl]
    simp
  | panic => exact absurd rfl hcheck

end CheckCallFinish

/-! ### Records only grow -/

/-- The record of `c'` continues that of `c`. -/
def Extends (c c' : Client κ σ) : Prop := ∃ made, c'.calls = c.calls ++ made

lemma Extends.refl (c : Client κ σ) : Extends c c := ⟨[], (List.append_nil _).symm⟩

lemma Extends.trans (a b c : Client κ σ) (hab : Extends a b) (hbc : Extends b c) :
    Extends a c := by
  obtain ⟨made, hmade⟩ := hab
  obtain ⟨more, hmore⟩ := hbc
  exact ⟨made ++ more, by rw [hmore, hmade, List.append_assoc]⟩

lemma within_call (label : κ) (f : σ → α × σ) :
    (call label f : CallbackM ε κ σ α).Within Extends := fun _ => ⟨[label], rfl⟩

/-- The record of `c'` continues that of `c` with calls that satisfy `P`. -/
def ExtendsWith (P : κ → Prop) (c c' : Client κ σ) : Prop :=
  ∃ made, c'.calls = c.calls ++ made ∧ ∀ label ∈ made, P label

section ExtendsWith

variable {P : κ → Prop}

lemma ExtendsWith.of_calls_eq {c c' : Client κ σ} (h : c'.calls = c.calls) :
    ExtendsWith P c c' := ⟨[], by rw [h, List.append_nil], nofun⟩

lemma ExtendsWith.refl (c : Client κ σ) : ExtendsWith P c c := .of_calls_eq rfl

lemma ExtendsWith.trans (a b c : Client κ σ) (hab : ExtendsWith P a b)
    (hbc : ExtendsWith P b c) : ExtendsWith P a c := by
  obtain ⟨made, hmade, hP⟩ := hab
  obtain ⟨more, hmore, hP'⟩ := hbc
  refine ⟨made ++ more, by rw [hmore, hmade, List.append_assoc], fun label hlabel => ?_⟩
  rcases List.mem_append.mp hlabel with h | h
  · exact hP label h
  · exact hP' label h

lemma withinWith_call {label : κ} (h : P label) (f : σ → α × σ) :
    (call label f : CallbackM ε κ σ α).Within (ExtendsWith P) :=
  fun _ => ⟨[label], rfl, fun _ hmem => List.mem_singleton.mp hmem ▸ h⟩

lemma withinWith_checkCallFinish {check : Outcome ε ρ} {label : ρ → κ} (f : ρ → σ → α × σ)
    (finish : ρ → α → Outcome ε β) (h : ∀ r, check = .ok r → P (label r)) :
    (checkCallFinish check label f finish).Within (ExtendsWith P) := by
  intro c
  cases hcheck : check with
  | ok r =>
    rw [checkCallFinish_ok rfl]
    exact ⟨[label r], rfl, fun _ hmem => List.mem_singleton.mp hmem ▸ h r hcheck⟩
  | err e =>
    rw [checkCallFinish_err rfl]
    exact ExtendsWith.refl c
  | panic =>
    rw [checkCallFinish_panic rfl]
    exact ExtendsWith.refl c

end ExtendsWith

end CallbackM
