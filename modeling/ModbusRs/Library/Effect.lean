import ModbusRs.Library.Outcome

/-!
# Routines over a state

`EffM ε s α` is a routine that works on a state of type `s` and ends in an `Outcome`. The
state survives errors and panics: what has been done is not undone by them. `Within R` says
that whatever the routine does to the state is allowed by the relation `R`; for a preorder
`R` it composes along the program text.
-/

/-- Routines over states of type `s`. -/
def EffM (ε s α : Type) : Type := s → Outcome ε α × s

namespace EffM

variable {ε s t α β : Type}

/-- Run a routine from a state. -/
def run (m : EffM ε s α) (c : s) : Outcome ε α × s := m c

/-- Sequencing: the state is threaded through, an error or panic ends the routine. -/
protected def bind (m : EffM ε s α) (f : α → EffM ε s β) : EffM ε s β :=
  fun c => match m.run c with
    | (.ok a, c') => (f a).run c'
    | (.err e, c') => (.err e, c')
    | (.panic, c') => (.panic, c')

instance : Monad (EffM ε s) where
  pure a := fun c => (.ok a, c)
  bind := EffM.bind

/-- A step that does not involve the state. -/
def lift (x : Outcome ε α) : EffM ε s α := fun c => (x, c)

/-- A step that updates the state. -/
def modify (f : s → s) : EffM ε s Unit := fun c => (.ok (), f c)

/-- A step that reads the state. -/
def gets (f : s → α) : EffM ε s α := fun c => (.ok (f c), c)

/-- `match self.routine() { Ok(a) => .., Err(e) => .. }`. -/
def handle (m : EffM ε s α) (onOk : α → EffM ε s β) (onErr : ε → EffM ε s β) : EffM ε s β :=
  fun c => match m.run c with
    | (.ok a, c') => (onOk a).run c'
    | (.err e, c') => (onErr e).run c'
    | (.panic, c') => (.panic, c')

@[simp] lemma run_pure (a : α) (c : s) : (pure a : EffM ε s α).run c = (.ok a, c) := rfl

@[simp] lemma run_lift (x : Outcome ε α) (c : s) : (lift x : EffM ε s α).run c = (x, c) := rfl

@[simp] lemma run_modify (f : s → s) (c : s) :
    (modify f : EffM ε s Unit).run c = (.ok (), f c) := rfl

@[simp] lemma run_gets (f : s → α) (c : s) : (gets f : EffM ε s α).run c = (.ok (f c), c) := rfl

lemma run_bind (m : EffM ε s α) (f : α → EffM ε s β) (c : s) :
    (m >>= f).run c = match m.run c with
      | (.ok a, c') => (f a).run c'
      | (.err e, c') => (.err e, c')
      | (.panic, c') => (.panic, c') := rfl

lemma run_handle (m : EffM ε s α) (onOk : α → EffM ε s β) (onErr : ε → EffM ε s β) (c : s) :
    (handle m onOk onErr).run c = match m.run c with
      | (.ok a, c') => (onOk a).run c'
      | (.err e, c') => (onErr e).run c'
      | (.panic, c') => (.panic, c') := rfl

@[simp] lemma run_lift_bind (x : Outcome ε α) (f : α → EffM ε s β) (c : s) :
    (lift x >>= f).run c = match x with
      | .ok a => (f a).run c
      | .err e => (.err e, c)
      | .panic => (.panic, c) := by
  rw [run_bind, run_lift]
  cases x <;> rfl

@[simp] lemma run_modify_bind (f : s → s) (g : Unit → EffM ε s β) (c : s) :
    (modify f >>= g).run c = (g ()).run (f c) := rfl

@[simp] lemma run_gets_bind (f : s → α) (g : α → EffM ε s β) (c : s) :
    (gets f >>= g).run c = (g (f c)).run c := rfl

/-- Ignoring the result of a routine does not change what it leaves behind. -/
lemma run_bind_pure_snd (m : EffM ε s α) (b : β) (c : s) :
    ((m >>= fun _ => pure b).run c).2 = (m.run c).2 := by
  rw [run_bind]
  rcases m.run c with ⟨o, c'⟩
  cases o <;> rfl

/-! ### What a routine may do to its state -/

/-- Every state the routine can end in is related to the one it started in. -/
def Within (R : s → s → Prop) (m : EffM ε s α) : Prop := ∀ c, R c (m.run c).2

section Within

variable {R : s → s → Prop}

lemma within_pure (hrefl : ∀ c, R c c) (a : α) : (pure a : EffM ε s α).Within R :=
  fun c => hrefl c

lemma within_lift (hrefl : ∀ c, R c c) (x : Outcome ε α) : (lift x : EffM ε s α).Within R :=
  fun c => hrefl c

lemma within_gets (hrefl : ∀ c, R c c) (f : s → α) : (gets f : EffM ε s α).Within R :=
  fun c => hrefl c

lemma within_modify {f : s → s} (h : ∀ c, R c (f c)) : (modify f : EffM ε s Unit).Within R := h

lemma Within.bind (htrans : ∀ a b c, R a b → R b c → R a c) {m : EffM ε s α}
    {f : α → EffM ε s β} (hm : m.Within R) (hf : ∀ a, (f a).Within R) : (m >>= f).Within R := by
  intro c
  have hmc := hm c
  rw [run_bind]
  rcases hr : m.run c with ⟨o, c'⟩
  rw [hr] at hmc
  cases o with
  | ok a => exact htrans _ _ _ hmc (hf a c')
  | err e => exact hmc
  | panic => exact hmc

lemma Within.handle (htrans : ∀ a b c, R a b → R b c → R a c) {m : EffM ε s α}
    {onOk : α → EffM ε s β} {onErr : ε → EffM ε s β} (hm : m.Within R)
    (hok : ∀ a, (onOk a).Within R) (herr : ∀ e, (onErr e).Within R) :
    (handle m onOk onErr).Within R := by
  intro c
  have hmc := hm c
  rw [run_handle]
  rcases hr : m.run c with ⟨o, c'⟩
  rw [hr] at hmc
  cases o with
  | ok a => exact htrans _ _ _ hmc (hok a c')
  | err e => exact htrans _ _ _ hmc (herr e c')
  | panic => exact hmc

end Within

/-- Every state the routine can end in, unless it panics, is related to the one it started in. -/
def WithinOk (R : s → s → Prop) (m : EffM ε s α) : Prop :=
  ∀ c, (m.run c).1 ≠ .panic → R c (m.run c).2

section WithinOk

variable {R : s → s → Prop}

lemma withinOk_pure (hrefl : ∀ c, R c c) (a : α) : (pure a : EffM ε s α).WithinOk R :=
  fun c _ => hrefl c

lemma withinOk_gets (hrefl : ∀ c, R c c) (f : s → α) : (gets f : EffM ε s α).WithinOk R :=
  fun c _ => hrefl c

lemma withinOk_modify {f : s → s} (h : ∀ c, R c (f c)) :
    (modify f : EffM ε s Unit).WithinOk R := fun c _ => h c

/-- A panic of a part is a panic of the whole. -/
lemma WithinOk.bind (htrans : ∀ a b c, R a b → R b c → R a c) {m : EffM ε s α}
    {f : α → EffM ε s β} (hm : m.WithinOk R) (hf : ∀ a, (f a).WithinOk R) :
    (m >>= f).WithinOk R := by
  intro c
  have hmc := hm c
  rw [run_bind]
  rcases hr : m.run c with ⟨o, c'⟩
  rw [hr] at hmc
  cases o with
  | ok a => exact fun hok => htrans _ _ _ (hmc nofun) (hf a c' hok)
  | err e => exact fun _ => hmc nofun
  | panic => exact fun hok => absurd rfl hok

end WithinOk

end EffM
