import Mathlib.Algebra.GroupWithZero.Nat
import Mathlib.Tactic.Common

/-!
# Outcomes of fallible code

Running a fallible routine ends in a value, in an error that the caller sees, or in a
panic: an index or slice out of range or a checked arithmetic operation that overflows.
`Outcome ε α` keeps the three apart. The slice operations below are the ones of a language
with bounds checks: they never clip, they panic.
-/

namespace Except

variable {ε α β : Type}

@[simp] lemma ok_bind (a : α) (f : α → Except ε β) : ((.ok a : Except ε α) >>= f) = f a := rfl

@[simp] lemma error_bind (e : ε) (f : α → Except ε β) :
    ((.error e : Except ε α) >>= f) = .error e := rfl

lemma bind_eq_ok_iff {x : Except ε α} {f : α → Except ε β} {b : β} :
    (x >>= f) = .ok b ↔ ∃ a, x = .ok a ∧ f a = .ok b := by
  cases x <;> simp

/-- `if cond { return Err(e) }`. -/
def guardErr (bad : Bool) (e : ε) : Except ε Unit :=
  if bad then .error e else .ok ()

@[simp] lemma guardErr_true (e : ε) : (guardErr true e) = .error e := rfl

@[simp] lemma guardErr_false (e : ε) : (guardErr false e) = .ok () := rfl

lemma guardErr_eq_ok {bad : Bool} {e : ε} {u : Unit} : guardErr bad e = .ok u ↔ bad = false := by
  cases bad <;> simp

end Except

/-- The end of a fallible routine: a value, an error or a panic. -/
inductive Outcome (ε α : Type) where
  | ok (value : α)
  | err (error : ε)
  | panic
  deriving DecidableEq, Repr

namespace Outcome

variable {ε α β γ : Type}

/-- Sequencing: errors and panics end the whole computation. -/
protected def bind (x : Outcome ε α) (f : α → Outcome ε β) : Outcome ε β :=
  match x with
  | ok a => f a
  | err e => err e
  | panic => panic

instance : Monad (Outcome ε) where
  pure := ok
  bind := Outcome.bind

@[simp] lemma pure_def (a : α) : (pure a : Outcome ε α) = ok a := rfl

@[simp] lemma ok_bind (a : α) (f : α → Outcome ε β) : (ok a >>= f) = f a := rfl

@[simp] lemma err_bind (e : ε) (f : α → Outcome ε β) : (err e >>= f) = err e := rfl

@[simp] lemma panic_bind (f : α → Outcome ε β) : ((panic : Outcome ε α) >>= f) = panic := rfl

lemma bind_eq_ok {x : Outcome ε α} {f : α → Outcome ε β} {b : β} :
    (x >>= f) = ok b ↔ ∃ a, x = ok a ∧ f a = ok b := by
  cases x <;> simp

lemma bind_eq_panic {x : Outcome ε α} {f : α → Outcome ε β} :
    (x >>= f) = panic ↔ x = panic ∨ ∃ a, x = ok a ∧ f a = panic := by
  cases x <;> simp

lemma bind_ne_panic {x : Outcome ε α} {f : α → Outcome ε β} (hx : x ≠ panic)
    (hf : ∀ a, x = ok a → f a ≠ panic) : (x >>= f) ≠ panic := by
  rw [Ne, bind_eq_panic, not_or]
  exact ⟨hx, fun ⟨a, ha, hp⟩ => hf a ha hp⟩

instance : LawfulMonad (Outcome ε) :=
  LawfulMonad.mk' _ (fun x => by cases x <;> rfl) (fun _ _ => rfl)
    (fun x _ _ => by cases x <;> rfl)

/-- `result.is_ok()`. -/
def isOk : Outcome ε α → Bool
  | ok _ => true
  | _ => false

@[simp] lemma isOk_ok (a : α) : (ok a : Outcome ε α).isOk = true := rfl

@[simp] lemma isOk_err (e : ε) : (err e : Outcome ε α).isOk = false := rfl

@[simp] lemma isOk_panic : (panic : Outcome ε α).isOk = false := rfl

lemma isOk_iff_exists {x : Outcome ε α} : x.isOk = true ↔ ∃ a, x = ok a := by
  cases x with simp

lemma isOk_eq_false {x : Outcome ε α} : x.isOk = false ↔ ∀ a, x ≠ ok a := by
  cases x <;> simp

lemma eq_err_of_ne {x : Outcome ε α} (hpanic : x ≠ panic) (hok : ∀ a, x ≠ ok a) :
    ∃ e, x = err e := by
  cases x with
  | ok a => exact absurd rfl (hok a)
  | err e => exact ⟨e, rfl⟩
  | panic => exact absurd rfl hpanic

/-- `Result::map_err`. -/
def mapErr {δ : Type} (f : ε → δ) : Outcome ε α → Outcome δ α
  | ok a => ok a
  | err e => err (f e)
  | panic => panic

@[simp] lemma mapErr_ok {δ : Type} (f : ε → δ) (a : α) : mapErr f (ok a) = ok a := rfl

@[simp] lemma mapErr_err {δ : Type} (f : ε → δ) (e : ε) :
    mapErr f (err e : Outcome ε α) = err (f e) := rfl

/-- A value or an error, without panics. -/
def lift : Except ε α → Outcome ε α
  | .ok a => ok a
  | .error e => err e

@[simp] lemma lift_ok (a : α) : lift (.ok a : Except ε α) = ok a := rfl

@[simp] lemma lift_error (e : ε) : lift (.error e : Except ε α) = err e := rfl

@[simp] lemma lift_ne_panic (x : Except ε α) : lift x ≠ panic := by
  cases x <;> simp

/-- `if cond { return Err(e) }`. -/
def guardErr (bad : Bool) (e : ε) : Outcome ε Unit :=
  if bad then err e else ok ()

@[simp] lemma guardErr_true (e : ε) : (guardErr true e) = err e := rfl

@[simp] lemma guardErr_false (e : ε) : (guardErr false e) = ok () := rfl

lemma guardErr_eq_ok {bad : Bool} {e : ε} {u : Unit} : guardErr bad e = ok u ↔ bad = false := by
  cases bad <;> simp

@[simp] lemma guardErr_ne_panic (bad : Bool) (e : ε) : guardErr bad e ≠ panic := by
  cases bad <;> simp

lemma lift_bind (x : Except ε α) (f : α → Except ε β) :
    lift (x >>= f) = lift x >>= fun a => lift (f a) := by
  cases x <;> rfl

lemma lift_eq_ok {x : Except ε α} {a : α} : lift x = ok a ↔ x = .ok a := by
  cases x <;> simp

lemma guardErr_bind_ne_panic {bad : Bool} {e : ε} {f : Unit → Outcome ε β} :
    (guardErr bad e >>= f) ≠ panic ↔ (bad = false → f () ≠ panic) := by
  cases bad <;> simp

lemma guard_decide_bind_ne_panic {c : Prop} [Decidable c] {e : ε} {f : Unit → Outcome ε β} :
    (guardErr (decide c) e >>= f) ≠ panic ↔ (¬c → f () ≠ panic) := by
  rw [guardErr_bind_ne_panic, decide_eq_false_iff_not]

lemma guard_bne_bind_ne_panic [DecidableEq α] {a b : α} {e : ε} {f : Unit → Outcome ε β} :
    (guardErr (a != b) e >>= f) ≠ panic ↔ (a = b → f () ≠ panic) := by
  rw [guardErr_bind_ne_panic, bne_eq_false_iff_eq]

lemma lift_bind_ne_panic {x : Except ε α} {f : α → Outcome ε β} :
    (lift x >>= f) ≠ panic ↔ ∀ a, x = .ok a → f a ≠ panic := by
  cases x <;> simp

/-- `x.unwrap()`. -/
def unwrap : Option α → Outcome ε α
  | some a => ok a
  | none => panic

@[simp] lemma unwrap_some (a : α) : (unwrap (some a) : Outcome ε α) = ok a := rfl

/-! ### Bounds-checked access -/

/-- `xs[i]`. -/
def index (xs : List α) (i : Nat) : Outcome ε α :=
  match xs[i]? with
  | some a => ok a
  | none => panic

/-- `&xs[lo..hi]`. -/
def slice (xs : List α) (lo hi : Nat) : Outcome ε (List α) :=
  if lo ≤ hi ∧ hi ≤ xs.length then ok ((xs.take hi).drop lo) else panic

lemma index_of_lt {xs : List α} {i : Nat} (h : i < xs.length) :
    (index xs i : Outcome ε α) = ok xs[i] := by
  simp [index, h]

lemma index_eq_panic {xs : List α} {i : Nat} :
    (index xs i : Outcome ε α) = panic ↔ xs.length ≤ i := by
  unfold index
  cases h : xs[i]? with
  | none => simpa using h
  | some a => simpa using (List.getElem?_eq_some_iff.mp h).1

@[simp] lemma index_cons_zero (a : α) (xs : List α) :
    (index (a :: xs) 0 : Outcome ε α) = ok a := rfl

@[simp] lemma index_cons_succ (a : α) (xs : List α) (i : Nat) :
    (index (a :: xs) (i + 1) : Outcome ε α) = index xs i := rfl

/-- Reading behind the first of two parts. -/
lemma index_append_add (xs ys : List α) (i : Nat) :
    (index (xs ++ ys) (xs.length + i) : Outcome ε α) = index ys i := by
  rw [index, List.getElem?_append_right (Nat.le_add_right _ _), Nat.add_sub_cancel_left]
  rfl

lemma slice_of_le {xs : List α} {lo hi : Nat} (h : lo ≤ hi) (h' : hi ≤ xs.length) :
    (slice xs lo hi : Outcome ε (List α)) = ok ((xs.take hi).drop lo) := by
  rw [slice, if_pos ⟨h, h'⟩]

/-- The first of two parts. -/
lemma slice_append_left (xs ys : List α) :
    (slice (xs ++ ys) 0 xs.length : Outcome ε (List α)) = ok xs := by
  rw [slice_of_le (Nat.zero_le _) (by simp), List.take_left' rfl]
  rfl

lemma slice_eq_panic {xs : List α} {lo hi : Nat} :
    (slice xs lo hi : Outcome ε (List α)) = panic ↔ hi < lo ∨ xs.length < hi := by
  unfold slice
  split
  · simp only [reduceCtorEq, false_iff]
    omega
  · simp only [true_iff]
    omega

lemma slice_eq_ok {xs ys : List α} {lo hi : Nat} :
    (slice xs lo hi : Outcome ε (List α)) = ok ys ↔
      (lo ≤ hi ∧ hi ≤ xs.length) ∧ ys = (xs.take hi).drop lo := by
  unfold slice
  split
  next h => simp [h, eq_comm]
  next h => simp [h]

end Outcome
