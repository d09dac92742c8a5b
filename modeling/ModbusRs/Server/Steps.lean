import ModbusRs.Library.Runs
import ModbusRs.Server.Poll

/-!
# The server as a system of steps

`poll` is a sequence of smaller actions: drain the retry queue, receive, ingest one frame at a
time, expire waiting requests, dispatch one waiting request at a time. Between them the
environment may change the transport and the application's own state. A property that every
action preserves holds along every sequence of polls.
-/

namespace ModbusRs

open Outcome

/-- What can happen to a server. -/
inductive ServerAction (σ τ : Type) where
  | environment (app : σ) (transport : τ)
  | connect
  | disconnect
  | drain
  | receive
  | ingest
  | expire
  | dispatchNext

namespace ServerM

open ServerServices

variable [Features] {depth : Nat} {σ τ : Type} (setup : ServerSetup σ τ)

/-- Step 1 of `poll`. -/
def drain : ServerM depth σ τ Unit :=
  EffM.modify fun s => if depth > 0 then s.drainResponseQueue setup else s

/-- Steps 2 and 3 of `poll`. -/
def receive : ServerM depth σ τ Unit := do
  match ← recv setup with
  | .error recvError => EffM.modify fun s => s.handleRecvError setup recvError
  | .ok frame => EffM.modify fun s =>
    { s.tick with lastRecvUs := s.nowUs setup }.appendToRxedFrame frame.toList

/-- One round of `process_rxed_frame`. -/
def ingestRound : ServerM depth σ τ Unit :=
  (ingestFrame setup).handle
    (fun consumed => EffM.modify fun s => s.drainRxedFrame consumed)
    (fun error => match error with
      | .bufferTooSmall => pure ()
      | _ => EffM.modify handleParseError)

/-- One round of the loop over the waiting requests. -/
def dispatchNext : ServerM depth σ τ Unit := do
  let queue ← EffM.gets requestQueue
  match RequestQueue.popHighestPriority queue with
  | none => pure ()
  | some (pending, rest) => do
    EffM.modify fun s => { s with requestQueue := rest }
    dispatchPendingRequest setup pending

/-- The routine behind an action. -/
def routine : ServerAction σ τ → ServerM depth σ τ Unit
  | .environment app transport => EffM.modify fun s =>
    { s with app := { s.app with state := app }, link := { s.link with state := transport } }
  | .connect => connect setup
  | .disconnect => disconnect setup
  | .drain => drain setup
  | .receive => receive setup
  | .ingest => ingestRound setup
  | .expire => expireStaleQueuedRequests setup
  | .dispatchNext => dispatchNext setup

/-- What an action leaves behind, however it ends. -/
def perform (action : ServerAction σ τ) (s : ServerServices depth σ τ) :
    ServerServices depth σ τ :=
  ((routine setup action).run s).2

/-! ### Polling is a run -/

/-- Every state the routine can end in is reached by a run. -/
abbrev Steps {α : Type} (m : ServerM depth σ τ α) : Prop :=
  m.Within (Runs.Run (perform setup))

variable {setup}

lemma steps_routine (action : ServerAction σ τ) :
    Steps setup (routine setup action : ServerM depth σ τ Unit) :=
  fun s => Runs.Run.single action s

lemma steps_bind {α β : Type} {m : ServerM depth σ τ α} {f : α → ServerM depth σ τ β}
    (hm : Steps setup m) (hf : ∀ a, Steps setup (f a)) : Steps setup (m >>= f) :=
  EffM.Within.bind (fun _ _ _ => Runs.RunWhen.trans) hm hf

lemma steps_pure {α : Type} (a : α) : Steps setup (pure a : ServerM depth σ τ α) :=
  EffM.within_pure Runs.RunWhen.refl a

lemma steps_gets {α : Type} (f : ServerServices depth σ τ → α) :
    Steps setup (EffM.gets f : ServerM depth σ τ α) := fun s => Runs.RunWhen.refl s

lemma run_receive_error {s : ServerServices depth σ τ} {recvError : MbusError}
    (h : (s.link.recv setup.transport).1 = .error recvError) :
    ((receive setup).run s).2 =
      handleRecvError setup { s with link := (s.link.recv setup.transport).2 } recvError := by
  have hrecv : (recv setup).run s =
      (.ok (.error recvError), { s with link := (s.link.recv setup.transport).2 }) := by
    rw [← h]
    rfl
  rw [receive, EffM.run_bind, hrecv]
  rfl

lemma run_receive_ok {s : ServerServices depth σ τ} {frame : HVec UInt8 maxAduFrameLen}
    (h : (s.link.recv setup.transport).1 = .ok frame) :
    ((receive setup).run s).2 =
      ({ s.tick with link := (s.link.recv setup.transport).2, lastRecvUs := s.nowUs setup } :
        ServerServices depth σ τ).appendToRxedFrame frame.toList := by
  have hrecv : (recv setup).run s =
      (.ok (.ok frame), { s with link := (s.link.recv setup.transport).2 }) := by
    rw [← h]
    rfl
  rw [receive, EffM.run_bind, hrecv]
  rfl

/-- The loop runs round after round. -/
lemma processFrames_succ (rounds : Nat) (s : ServerServices depth σ τ)
    (hs : s.rxedFrame.toList.isEmpty = false) :
    ((processFrames setup (rounds + 1)).run s).2 = ((ingestRound setup).run s).2 ∨
      ((processFrames setup (rounds + 1)).run s).2 =
        ((processFrames setup rounds).run ((ingestRound setup).run s).2).2 := by
  rw [processFrames, EffM.run_gets_bind, hs, if_neg (by decide), ingestRound, EffM.run_handle,
    EffM.run_handle]
  rcases (ingestFrame setup).run s with ⟨o, s'⟩
  cases o with
  | ok consumed => exact Or.inr rfl
  | panic => exact Or.inl rfl
  | err error =>
    cases error with
    | bufferTooSmall => exact Or.inl rfl
    | _ => exact Or.inr rfl

lemma steps_processFrames (rounds : Nat) :
    Steps setup (processFrames setup rounds : ServerM depth σ τ Unit) := by
  induction rounds with
  | zero => exact steps_pure ()
  | succ rounds ih =>
    intro s
    cases hs : s.rxedFrame.toList.isEmpty with
    | true =>
      rw [processFrames, EffM.run_gets_bind, hs]
      exact Runs.RunWhen.refl s
    | false =>
      have hfirst := (steps_routine .ingest : Steps setup (ingestRound setup : ServerM depth σ τ Unit)) s
      rcases processFrames_succ rounds s hs with h | h <;> rw [h]
      · exact hfirst
      · exact hfirst.trans (ih _)

lemma steps_dispatchQueued (count : Nat) :
    Steps setup (dispatchQueued setup count : ServerM depth σ τ Unit) := by
  induction count with
  | zero => exact steps_pure ()
  | succ count ih =>
    intro s
    have hfirst := (steps_routine .dispatchNext : Steps setup
      (routine setup .dispatchNext : ServerM depth σ τ Unit)) s
    rw [dispatchQueued, EffM.run_gets_bind]
    have hnext : (routine setup .dispatchNext).run s =
        (match RequestQueue.popHighestPriority s.requestQueue with
        | none => pure ()
        | some (pending, rest) => do
          EffM.modify fun s => { s with requestQueue := rest }
          dispatchPendingRequest setup pending : ServerM depth σ τ Unit).run s := rfl
    rw [hnext] at hfirst
    cases hpop : RequestQueue.popHighestPriority s.requestQueue with
    | none => exact Runs.RunWhen.refl s
    | some popped =>
      obtain ⟨pending, rest⟩ := popped
      rw [hpop] at hfirst
      dsimp only at hfirst ⊢
      rw [EffM.run_modify_bind] at hfirst ⊢
      rw [EffM.run_bind]
      rcases hd : (dispatchPendingRequest setup pending).run { s with requestQueue := rest } with
        ⟨o, s'⟩
      rw [hd] at hfirst
      cases o with
      | ok _ => exact hfirst.trans (ih s')
      | err e => exact hfirst
      | panic => exact hfirst

/-- A poll is a run of the smaller actions. -/
theorem steps_poll : Steps setup (poll setup : ServerM depth σ τ Unit) := by
  intro s
  set s₁ := ((drain setup).run s).2 with hs₁
  have hdrain : Runs.Run (perform setup) s s₁ := steps_routine .drain s
  have hreceive : Runs.Run (perform setup) s₁ ((receive setup).run s₁).2 :=
    steps_routine .receive s₁
  have hrest : Steps setup (do
      processRxedFrame setup
      if depth > 0 && setup.resilience.enablePriorityQueue then
        expireStaleQueuedRequests setup
        let queue ← EffM.gets requestQueue
        dispatchQueued setup queue.length
      else pure () : ServerM depth σ τ Unit) := by
    refine steps_bind (steps_bind (steps_gets _) (fun _ => steps_processFrames _)) (fun _ => ?_)
    split
    · refine steps_bind (steps_routine .expire) (fun _ => ?_)
      exact steps_bind (steps_gets _) (fun _ => steps_dispatchQueued _)
    · exact steps_pure ()
  refine hdrain.trans ?_
  have hpoll : (poll setup).run s = (match (s₁.link.recv setup.transport).1 with
      | .error recvError => EffM.modify fun s => s.handleRecvError setup recvError
      | .ok frame => processReceived setup frame : ServerM depth σ τ Unit).run
        { s₁ with link := (s₁.link.recv setup.transport).2 } := rfl
  have hafter : (receive setup).run s₁ = (match (s₁.link.recv setup.transport).1 with
      | .error recvError => EffM.modify fun s => s.handleRecvError setup recvError
      | .ok frame => EffM.modify fun s =>
        { s.tick with lastRecvUs := s.nowUs setup }.appendToRxedFrame frame.toList :
          ServerM depth σ τ Unit).run
        { s₁ with link := (s₁.link.recv setup.transport).2 } := rfl
  rw [hpoll]
  rw [hafter] at hreceive
  cases hr : (s₁.link.recv setup.transport).1 with
  | error recvError =>
    rw [hr] at hreceive
    exact hreceive
  | ok frame =>
    rw [hr] at hreceive
    exact hreceive.trans (hrest _)

end ServerM

end ModbusRs
