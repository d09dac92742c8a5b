import ModbusRs.Library.Effect

/-!
# Loops over a receive buffer

A receiver takes frames off the front of its buffer until the buffer is empty or its first frame
is incomplete; an error that is not about completeness skips an element. If the routine that looks
for a frame leaves the buffer alone and never finds a frame of no length or one longer than the
buffer, every round shortens the buffer, and the loop ends.
-/

/-- The parts of such a loop, over states of type `σ` with a buffer of elements of type `β`. -/
structure FrameLoop (ε σ β : Type) where
  buffer : σ → List β
  ingest : EffM ε σ Nat
  isIncomplete : ε → Bool
  drain : Nat → σ → σ
  skip : σ → σ

namespace FrameLoop

variable {ε σ β : Type} (loop : FrameLoop ε σ β)

/-- The loop with a bound on its rounds. -/
def run : Nat → EffM ε σ Unit
  | 0 => pure ()
  | rounds + 1 => do
    let buffer ← EffM.gets loop.buffer
    if buffer.isEmpty then
      pure ()
    else
      loop.ingest.handle
        (fun consumed => do
          EffM.modify (loop.drain consumed)
          run rounds)
        (fun error =>
          if loop.isIncomplete error then pure ()
          else do
            EffM.modify loop.skip
            run rounds)

variable {loop} in
lemma run_of_nil {c : σ} (h : loop.buffer c = []) (rounds : Nat) :
    (loop.run rounds).run c = (.ok (), c) := by
  cases rounds with
  | zero => rfl
  | succ rounds =>
    have hrun : (loop.run (rounds + 1)).run c = (if (loop.buffer c).isEmpty then pure ()
      else loop.ingest.handle
        (fun consumed => do
          EffM.modify (loop.drain consumed)
          loop.run rounds)
        (fun error =>
          if loop.isIncomplete error then pure ()
          else do
            EffM.modify loop.skip
            loop.run rounds) : EffM ε σ Unit).run c := rfl
    rw [hrun, h]
    rfl

variable {loop} in
/-- The first round over a buffer that is not empty. -/
lemma run_of_ne_nil {c : σ} (h : loop.buffer c ≠ []) (rounds : Nat) :
    (loop.run (rounds + 1)).run c = match loop.ingest.run c with
      | (.ok consumed, c') => (loop.run rounds).run (loop.drain consumed c')
      | (.err e, c') =>
        if loop.isIncomplete e then (.ok (), c') else (loop.run rounds).run (loop.skip c')
      | (.panic, c') => (.panic, c') := by
  rw [FrameLoop.run, EffM.run_gets_bind, if_neg (by rwa [List.isEmpty_iff]), EffM.run_handle]
  rcases loop.ingest.run c with ⟨o, c'⟩
  cases o with
  | ok consumed => rfl
  | panic => rfl
  | err e =>
    dsimp only
    split <;> rfl

/-- A round after which the loop goes on. -/
inductive Round : σ → σ → Prop
  | frame {c c' : σ} {consumed : Nat} (hne : loop.buffer c ≠ [])
    (h : loop.ingest.run c = (.ok consumed, c')) : Round c (loop.drain consumed c')
  | error {c c' : σ} {e : ε} (hne : loop.buffer c ≠ []) (h : loop.ingest.run c = (.err e, c'))
    (he : loop.isIncomplete e = false) : Round c (loop.skip c')

/-- Looking for a frame leaves the buffer alone, and finds a part of it. -/
structure Lawful : Prop where
  buffer_ingest : ∀ c, loop.buffer (loop.ingest.run c).2 = loop.buffer c
  consumed : ∀ c k, (loop.ingest.run c).1 = .ok k → 0 < k ∧ k ≤ (loop.buffer c).length
  buffer_drain : ∀ k c, loop.buffer (loop.drain k c) = (loop.buffer c).drop k
  buffer_skip : ∀ c, loop.buffer (loop.skip c) = (loop.buffer c).drop 1

variable {loop}

namespace Lawful

/-- A round takes at least one element off the front, and no more than there are. -/
lemma round (h : loop.Lawful) {c c' : σ} (hround : loop.Round c c') :
    ∃ k, 0 < k ∧ k ≤ (loop.buffer c).length ∧ loop.buffer c' = (loop.buffer c).drop k := by
  cases hround with
  | frame hne hrun =>
    have hbuffer := h.buffer_ingest c
    obtain ⟨hpos, hle⟩ := h.consumed c _ (congrArg Prod.fst hrun)
    rw [hrun] at hbuffer
    exact ⟨_, hpos, hle, by rw [h.buffer_drain, hbuffer]⟩
  | error hne hrun he =>
    have hbuffer := h.buffer_ingest c
    rw [hrun] at hbuffer
    exact ⟨1, Nat.one_pos, List.length_pos_iff.mpr hne, by rw [h.buffer_skip, hbuffer]⟩

lemma round_shortens (h : loop.Lawful) {c c' : σ} (hround : loop.Round c c') :
    (loop.buffer c').length < (loop.buffer c).length := by
  obtain ⟨k, hpos, hle, hbuffer⟩ := h.round hround
  rw [hbuffer, List.length_drop]
  omega

/-- There is no endless sequence of rounds. -/
theorem wellFounded (h : loop.Lawful) : WellFounded fun c' c => loop.Round c c' :=
  Subrelation.wf (fun hround => h.round_shortens hround)
    (InvImage.wf (fun c => (loop.buffer c).length) Nat.lt_wfRel.wf)

/-- As many rounds as the buffer has elements are enough. -/
theorem run_of_le (h : loop.Lawful) {rounds rounds' : Nat} {c : σ}
    (hle : (loop.buffer c).length ≤ rounds) (hle' : (loop.buffer c).length ≤ rounds') :
    (loop.run rounds).run c = (loop.run rounds').run c := by
  induction rounds generalizing rounds' c with
  | zero =>
    have hnil := List.length_eq_zero_iff.mp (Nat.le_zero.mp hle)
    rw [run_of_nil hnil, run_of_nil hnil]
  | succ rounds ih =>
    by_cases hnil : loop.buffer c = []
    · rw [run_of_nil hnil, run_of_nil hnil]
    · cases rounds' with
      | zero => exact absurd (List.length_eq_zero_iff.mp (Nat.le_zero.mp hle')) hnil
      | succ rounds' =>
        have hnext {c' : σ} (hround : loop.Round c c') :
            (loop.run rounds).run c' = (loop.run rounds').run c' := by
          have hlt := h.round_shortens hround
          exact ih (by omega) (by omega)
        rw [run_of_ne_nil hnil, run_of_ne_nil hnil]
        rcases hr : loop.ingest.run c with ⟨o, c'⟩
        cases o with
        | ok consumed => exact hnext (.frame hnil hr)
        | panic => rfl
        | err e =>
          dsimp only
          split
          · rfl
          · rename_i he
            exact hnext (.error hnil hr (Bool.eq_false_iff.mpr he))

end Lawful

variable (loop) in
/-- No frame is empty or longer than the buffer, every round takes elements off the front, there is
no endless sequence of rounds, and a bound on the rounds that is not below the length of the buffer
does not matter. -/
structure Terminates : Prop where
  consumed : ∀ c c' k, loop.ingest.run c = (.ok k, c') → 0 < k ∧ k ≤ (loop.buffer c).length
  round : ∀ c c', loop.Round c c' →
    ∃ k, 0 < k ∧ k ≤ (loop.buffer c).length ∧ loop.buffer c' = (loop.buffer c).drop k
  wellFounded : WellFounded fun c' c => loop.Round c c'
  bounded : ∀ c rounds, (loop.buffer c).length ≤ rounds →
    (loop.run (loop.buffer c).length).run c = (loop.run rounds).run c

lemma Lawful.terminates (h : loop.Lawful) : loop.Terminates where
  consumed c _ k hrun := h.consumed c k (congrArg Prod.fst hrun)
  round _ _ := h.round
  wellFounded := h.wellFounded
  bounded _ _ := h.run_of_le (Nat.le_refl _)

end FrameLoop
