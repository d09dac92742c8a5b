import ModbusRs.Client.Moves
import ModbusRs.Library.FrameLoop
import ModbusRs.Server.RequestQueue

/-!
# The receive loops of the client and of the server

Both loops take frames off the front of their receive buffer. No frame they find is empty, and
looking for one leaves the buffer alone, whatever the bytes in it are.
-/

namespace ModbusRs

open Outcome

/-- The error that stops a receive loop: more bytes are needed. -/
def isIncomplete : MbusError → Bool
  | .bufferTooSmall => true
  | _ => false

section Server

open ServerServices ServerM

variable [Features] {depth : Nat} {σ τ : Type} (setup : ServerSetup σ τ)

/-- The loop of the server's `process_rxed_frame`. -/
def ServerM.frameLoop : FrameLoop MbusError (ServerServices depth σ τ) UInt8 where
  buffer s := s.rxedFrame.toList
  ingest := ingestFrame setup
  isIncomplete := isIncomplete
  drain consumed s := s.drainRxedFrame consumed
  skip := handleParseError

lemma ServerM.frameLoop_ingest : (frameLoop setup).ingest =
    (ingestFrame setup : ServerM depth σ τ Nat) := rfl

lemma ServerM.processFrames_eq (rounds : Nat) :
    (processFrames setup rounds : ServerM depth σ τ Unit) = (frameLoop setup).run rounds := by
  induction rounds with
  | zero => rfl
  | succ rounds ih =>
    funext s
    change (processFrames setup (rounds + 1)).run s = ((frameLoop setup).run (rounds + 1)).run s
    by_cases hnil : s.rxedFrame.toList = []
    · have hempty : s.rxedFrame.toList.isEmpty = true := List.isEmpty_iff.mpr hnil
      rw [processFrames, EffM.run_gets_bind, if_pos hempty]
      exact (FrameLoop.run_of_nil hnil _).symm
    · have hempty : ¬s.rxedFrame.toList.isEmpty = true := fun h => hnil (List.isEmpty_iff.mp h)
      rw [processFrames, ih, EffM.run_gets_bind, if_neg hempty, EffM.run_handle,
        FrameLoop.run_of_ne_nil hnil, frameLoop_ingest]
      rcases (ingestFrame setup).run s with ⟨o, s'⟩
      cases o with
      | ok consumed => rfl
      | panic => rfl
      | err e => cases e <;> rfl

lemma ServerM.consumed_ingestFrame {s s' : ServerServices depth σ τ} {k : Nat}
    (h : (ingestFrame setup).run s = (.ok k, s')) :
    expectedFrameLength setup s.rxedFrame.toList = .ok k := by
  have hpure (m : ServerM depth σ τ Unit) (n : Nat) (c : ServerServices depth σ τ)
      (h : (m >>= fun _ => pure n).run c = (.ok k, s')) : n = k := by
    rw [EffM.run_bind] at h
    rcases hr : m.run c with ⟨o, c'⟩
    rw [hr] at h
    cases o <;> cases h
    rfl
  rw [run_ingestFrame] at h
  cases hn : expectedFrameLength setup s.rxedFrame.toList with
  | error e =>
    rw [hn] at h
    cases h
  | ok n =>
    rw [hn] at h
    dsimp only at h
    cases hm : decompileAduFrame (s.rxedFrame.toList.take n) setup.transport.transportType with
    | panic =>
      rw [hm] at h
      cases h
    | ok message =>
      rw [hm] at h
      rw [hpure _ _ _ h]
    | err e =>
      rw [hm] at h
      rw [hpure _ _ _ h]

lemma ServerM.frameLoop_lawful :
    (frameLoop setup : FrameLoop _ (ServerServices depth σ τ) _).Lawful where
  buffer_ingest s := congrArg HVec.toList (takesIn_ingestFrame s).1
  consumed s k h := by
    have hn := consumed_ingestFrame setup (Prod.ext h rfl)
    exact ⟨deriveLength_pos (deriveLength_of_expected hn), expectedFrameLength_le hn⟩
  buffer_drain _ _ := rfl
  buffer_skip _ := rfl

end Server

section Client

open ClientServices ClientM

variable [Features] {n : Nat} {τ : Type} (setup : ClientSetup τ)

/-- The loop of the client's `process_rxed_frame`. -/
def ClientM.frameLoop : FrameLoop MbusError (ClientServices n τ) UInt8 where
  buffer s := s.rxedFrame.toList
  ingest := ingestFrame setup
  isIncomplete := isIncomplete
  drain consumed s := s.drainRxedFrame consumed
  skip := handleParseError

lemma ClientM.frameLoop_ingest : (frameLoop setup).ingest =
    (ingestFrame setup : ClientM n τ Nat) := rfl

lemma ClientM.rxedFrame_ingestFrame :
    (ingestFrame setup : ClientM n τ Nat).Within fun s s' => s'.rxedFrame = s.rxedFrame := by
  have hrefl (s : ClientServices n τ) : s.rxedFrame = s.rxedFrame := rfl
  have htrans (a b c : ClientServices n τ) (h : b.rxedFrame = a.rxedFrame)
      (h' : c.rxedFrame = b.rxedFrame) : c.rxedFrame = a.rxedFrame := h'.trans h
  have hexpected (expected : ExpectedResponse) (message : ModbusMessage) :
      (dispatchExpected expected message : ClientM n τ Unit).Within
        fun s s' => s'.rxedFrame = s.rxedFrame := by
    intro s
    unfold dispatchExpected
    split
    · rfl
    · cases expected.handler.run expected.operationMeta message.pdu with
      | ok callback => cases callback <;> rfl
      | err e => exact nomatch e
      | panic => rfl
  have hdispatch (message : ModbusMessage) :
      (dispatchResponse setup message : ClientM n τ Unit).Within
        fun s s' => s'.rxedFrame = s.rxedFrame := by
    refine (EffM.within_gets hrefl _).bind htrans fun found => ?_
    cases found with
    | none => exact EffM.within_pure hrefl ()
    | some i =>
      refine (EffM.within_gets hrefl _).bind htrans fun responses => ?_
      cases responses.swapRemove i with
      | none => exact EffM.within_lift hrefl _
      | some removed =>
        have hrest : (EffM.modify fun s => { s with expectedResponses := removed.2 } :
            ClientM n τ Unit).Within fun s s' => s'.rxedFrame = s.rxedFrame :=
          EffM.within_modify fun _ => rfl
        exact hrest.bind htrans fun _ => hexpected _ _
  have hreframe (message : ModbusMessage) : (reframe setup message : ClientM n τ Unit).Within
      fun s s' => s'.rxedFrame = s.rxedFrame := by
    unfold reframe
    split
    · exact hdispatch _
    · exact (EffM.within_lift hrefl _).bind htrans fun _ => hdispatch _
    · exact EffM.within_pure hrefl ()
  refine (EffM.within_gets hrefl _).bind htrans fun rxedFrame => ?_
  refine (EffM.within_lift hrefl _).bind htrans fun expectedLength => ?_
  refine (EffM.within_lift hrefl _).bind htrans fun frame => ?_
  refine (EffM.within_lift hrefl _).bind htrans fun message => ?_
  exact (hreframe message).bind htrans fun _ => EffM.within_pure hrefl _

lemma ClientM.consumed_ingestFrame {s s' : ClientServices n τ} {k : Nat}
    (h : (ingestFrame setup).run s = (.ok k, s')) :
    expectedFrameLength setup s.rxedFrame.toList = .ok k := by
  rw [ingestFrame, EffM.run_gets_bind, EffM.run_lift_bind] at h
  cases hn : expectedFrameLength setup s.rxedFrame.toList with
  | error e =>
    rw [hn] at h
    cases h
  | ok len =>
    rw [hn] at h
    simp only [lift_ok, EffM.run_lift_bind] at h
    cases hslice : (slice s.rxedFrame.toList 0 len : Fallible (List UInt8)) with
    | panic =>
      rw [hslice] at h
      cases h
    | err e =>
      rw [hslice] at h
      cases h
    | ok frame =>
      rw [hslice] at h
      dsimp only at h
      cases hm : decompileAduFrame frame setup.transport.transportType with
      | panic =>
        rw [hm] at h
        cases h
      | err e =>
        rw [hm] at h
        cases h
      | ok message =>
        rw [hm] at h
        dsimp only at h
        rw [EffM.run_bind] at h
        rcases hr : (reframe setup message).run s with ⟨o, c'⟩
        rw [hr] at h
        cases o <;> cases h
        rfl

lemma ClientM.expectedFrameLength_eq_ok {rxedFrame : List UInt8} {k : Nat}
    (h : expectedFrameLength setup rxedFrame = .ok k) : 0 < k ∧ k ≤ rxedFrame.length := by
  unfold expectedFrameLength at h
  cases hderive : deriveLengthFromBytes rxedFrame setup.transport.transportType with
  | none =>
    rw [hderive] at h
    cases h
  | some len =>
    rw [hderive] at h
    dsimp only at h
    split at h
    · cases h
    · split at h
      · cases h
      · cases h
        exact ⟨deriveLength_pos hderive, by omega⟩

lemma ClientM.processFrames_eq (rounds : Nat) :
    (processFrames setup rounds : ClientM n τ Unit) = (frameLoop setup).run rounds := by
  induction rounds with
  | zero => rfl
  | succ rounds ih =>
    funext s
    change (processFrames setup (rounds + 1)).run s = ((frameLoop setup).run (rounds + 1)).run s
    by_cases hnil : s.rxedFrame.toList = []
    · have hempty : s.rxedFrame.toList.isEmpty = true := List.isEmpty_iff.mpr hnil
      rw [processFrames, EffM.run_gets_bind, if_pos hempty]
      exact (FrameLoop.run_of_nil hnil _).symm
    · have hempty : ¬s.rxedFrame.toList.isEmpty = true := fun h => hnil (List.isEmpty_iff.mp h)
      rw [processFrames, ih, EffM.run_gets_bind, if_neg hempty, EffM.run_handle,
        FrameLoop.run_of_ne_nil hnil, frameLoop_ingest]
      rcases (ingestFrame setup).run s with ⟨o, s'⟩
      cases o with
      | ok consumed => rfl
      | panic => rfl
      | err e => cases e <;> rfl

lemma ClientM.frameLoop_lawful :
    (frameLoop setup : FrameLoop _ (ClientServices n τ) _).Lawful where
  buffer_ingest s := congrArg HVec.toList (rxedFrame_ingestFrame setup s)
  consumed _ _ h :=
    expectedFrameLength_eq_ok setup (consumed_ingestFrame setup (Prod.ext h rfl))
  buffer_drain _ _ := rfl
  buffer_skip _ := rfl

end Client

/-- **Receive loops end.** The loops of the server and of the client find no empty frame and none
that is longer than the buffer, every round takes bytes off the front, and what the loop does is
what it does with any bound on its rounds that is not below the length of the buffer. -/
theorem receiveLoops_terminate [Features] :
    (∀ (depth : Nat) (σ τ : Type) (setup : ServerSetup σ τ),
      let loop : FrameLoop MbusError (ServerServices depth σ τ) UInt8 := ServerM.frameLoop setup
      loop.Terminates ∧ (∀ rounds, ServerM.processFrames setup rounds = loop.run rounds) ∧
      ∀ (s : ServerServices depth σ τ) (rounds : Nat), s.rxedFrame.length ≤ rounds →
        (ServerM.processRxedFrame setup).run s = (ServerM.processFrames setup rounds).run s) ∧
    ∀ (n : Nat) (τ : Type) (setup : ClientSetup τ),
      let loop : FrameLoop MbusError (ClientServices n τ) UInt8 := ClientM.frameLoop setup
      loop.Terminates ∧ (∀ rounds, ClientM.processFrames setup rounds = loop.run rounds) ∧
      ∀ (s : ClientServices n τ) (rounds : Nat), s.rxedFrame.length ≤ rounds →
        (ClientM.processRxedFrame setup).run s = (ClientM.processFrames setup rounds).run s := by
  refine ⟨fun depth σ τ setup => ?_, fun n τ setup => ?_⟩
  · intro loop
    have hloop : loop.Terminates := (ServerM.frameLoop_lawful setup).terminates
    refine ⟨hloop, ServerM.processFrames_eq setup, fun s rounds hle => ?_⟩
    rw [ServerM.processRxedFrame, EffM.run_gets_bind, ServerM.processFrames_eq,
      ServerM.processFrames_eq]
    exact hloop.bounded s rounds hle
  · intro loop
    have hloop : loop.Terminates := (ClientM.frameLoop_lawful setup).terminates
    refine ⟨hloop, ClientM.processFrames_eq setup, fun s rounds hle => ?_⟩
    rw [ClientM.processRxedFrame, EffM.run_gets_bind, ClientM.processFrames_eq,
      ClientM.processFrames_eq]
    exact hloop.bounded s rounds hle

end ModbusRs
