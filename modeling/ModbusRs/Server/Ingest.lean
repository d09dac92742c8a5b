import ModbusRs.Core.Wire
import ModbusRs.Server.Poll

/-!
# One round of the receive loop

`ingest_frame` taken apart: the buffer holds no complete frame, or its first frame does not
decode, or the decoded message is accepted in the form it has.
-/

namespace ModbusRs

open Outcome

lemma reframeMessage_of_fits {tt : TransportType} {message : ModbusMessage}
    (h : message.Fits tt) : reframeMessage tt message = some message := by
  obtain ⟨address, pdu⟩ := message
  cases address with
  | mbapHeader header =>
    have htcp : tt.isTcpType = true := h
    simp only [reframeMessage, htcp]
  | slaveAddress address =>
    obtain ⟨hserial, hle⟩ := h
    have htcp : tt.isTcpType = false := by
      rw [tt.isSerialType_eq] at hserial
      simpa using hserial
    simp only [reframeMessage, htcp, SlaveAddress.new, if_pos hle]

namespace ServerM

open ServerServices

variable [Features] {depth : Nat} {σ τ : Type} {setup : ServerSetup σ τ}

lemma expectedFrameLength_le {rxedFrame : List UInt8} {n : Nat}
    (h : expectedFrameLength setup rxedFrame = .ok n) : n ≤ rxedFrame.length := by
  unfold expectedFrameLength at h
  split at h
  · cases h
  · split at h
    · cases h
    · split at h
      · cases h
      · cases h
        omega

/-- Re-framing leaves a decoded message as it is. -/
lemma reframeInbound_of_fits {message : ModbusMessage}
    (h : message.Fits setup.transport.transportType) (expectedLength : Nat) :
    (reframeInbound setup message expectedLength : ServerM depth σ τ Unit) =
      acceptInbound setup message expectedLength := by
  obtain ⟨address, pdu⟩ := message
  cases address with
  | mbapHeader header =>
    have htcp : setup.transport.transportType.isTcpType = true := h
    simp only [reframeInbound, htcp]
  | slaveAddress address =>
    obtain ⟨hserial, hle⟩ := h
    have htcp : setup.transport.transportType.isTcpType = false := by
      rw [TransportType.isSerialType_eq] at hserial
      simpa using hserial
    simp only [reframeInbound, htcp, SlaveAddress.new, if_pos hle]
    rfl

/-- What `ingest_frame` does, by what the buffer starts with. -/
lemma run_ingestFrame (s : ServerServices depth σ τ) :
    (ingestFrame setup).run s =
      match expectedFrameLength setup s.rxedFrame.toList with
      | .error e => (.err e, s)
      | .ok n =>
        match decompileAduFrame (s.rxedFrame.toList.take n) setup.transport.transportType with
        | .ok message =>
          (acceptInbound setup message n >>= fun _ => pure n).run s.incrementMessageCount
        | .err e => (rejectInbound setup n e >>= fun _ => pure n).run s
        | .panic => (.panic, s) := by
  rw [ingestFrame, EffM.run_gets_bind, EffM.run_lift_bind]
  cases hn : expectedFrameLength setup s.rxedFrame.toList with
  | error e => rfl
  | ok n =>
    have hslice : (slice s.rxedFrame.toList 0 n : Fallible _) = .ok (s.rxedFrame.toList.take n) := by
      rw [slice_of_le (Nat.zero_le _) (expectedFrameLength_le hn), List.drop_zero]
    simp only [lift_ok]
    rw [EffM.run_bind, EffM.run_handle, parseInboundFrameBody, EffM.run_gets_bind,
      EffM.run_lift_bind, hslice]
    simp only [EffM.run_lift_bind]
    cases hm : decompileAduFrame (s.rxedFrame.toList.take n) setup.transport.transportType with
    | err e =>
      dsimp only
      rw [EffM.run_bind]
    | panic => rfl
    | ok message =>
      obtain ⟨hfits, _⟩ := decompileAduFrame_eq_ok hm
      simp only [EffM.run_modify_bind, EffM.run_pure]
      rw [reframeInbound_of_fits hfits]
      rfl

/-- The reply to an unrecognised function code on TCP. -/
def illegalFunctionFrame (rxedFrame : List UInt8) (fcByte : UInt8) : List UInt8 :=
  [rxedFrame.getD 0 0, rxedFrame.getD 1 0, 0x00, 0x00, 0x00, 0x03, rxedFrame.getD 6 0,
    fcByte ||| 0x80, 0x01]

/-- The errors `ingest_frame` answers: an unrecognised function code on TCP. -/
def repliesIllegalFunction (setup : ServerSetup σ τ) (expectedLength : Nat) (e : MbusError) :
    Bool :=
  match e with
  | .unsupportedFunction _ =>
    expectedLength ≥ 8 && setup.transport.transportType.isTcpType
  | _ => false

lemma run_rejectInbound_of_not {n : Nat} {e : MbusError}
    (h : repliesIllegalFunction setup n e = false) (s : ServerServices depth σ τ) :
    (rejectInbound setup n e).run s = (.err e, s) := by
  unfold rejectInbound
  cases e with
  | unsupportedFunction fcByte =>
    have h : (decide (n ≥ 8) && setup.transport.transportType.isTcpType) = false := h
    dsimp only
    rw [h]
    rfl
  | _ => rfl

lemma run_rejectInbound_of_replies {n : Nat} {e : MbusError}
    (h : repliesIllegalFunction setup n e = true) {s : ServerServices depth σ τ}
    (hn : n ≤ s.rxedFrame.toList.length) :
    ∃ fcByte, e = .unsupportedFunction fcByte ∧
      (rejectInbound setup n e).run s = (.ok (), { s with link := (s.link.send setup.transport
        (illegalFunctionFrame s.rxedFrame.toList fcByte)).2 }) := by
  cases e with
  | unsupportedFunction fcByte =>
    refine ⟨fcByte, rfl, ?_⟩
    have h : (decide (n ≥ 8) && setup.transport.transportType.isTcpType) = true := h
    have h8 : 8 ≤ n := of_decide_eq_true (Bool.and_eq_true_iff.mp h).1
    have hget : ∀ i (hi : i < s.rxedFrame.toList.length),
        s.rxedFrame.toList.getD i 0 = s.rxedFrame.toList[i] := by
      intro i hi
      rw [List.getD_eq_getElem?_getD, List.getElem?_eq_getElem hi]
      rfl
    simp only [rejectInbound, h, if_true, sendIllegalFunction, illegalFunctionFrame]
    rw [EffM.run_gets_bind, EffM.run_lift_bind, index_of_lt (by omega)]
    simp only [EffM.run_lift_bind]
    rw [index_of_lt (by omega)]
    dsimp only
    rw [index_of_lt (by omega), hget 0 (by omega), hget 1 (by omega), hget 6 (by omega)]
    rfl
  | _ => cases h

/-! ### The way of an accepted request -/

/-- What `enqueue_or_dispatch_inbound` does with a request. -/
inductive InboundRoute where
  | reject
  | enqueue
  | dispatch
  deriving DecidableEq

/-- The way a request takes depends on the configuration and the two queues. -/
def inboundRoute (setup : ServerSetup σ τ) (s : ServerServices depth σ τ) : InboundRoute :=
  if depth > 0 && setup.resilience.enablePriorityQueue then
    if s.shouldApplyBackPressure setup then .reject
    else if s.requestQueue.length < depth then .enqueue
    else .dispatch
  else .dispatch

/-- The form in which a request waits. -/
def pendingOf (setup : ServerSetup σ τ) (message : ModbusMessage) (frame : List UInt8)
    (s : ServerServices depth σ τ) : PendingRequest :=
  ⟨.ofSlice frame, .fromFunctionCode message.functionCode, s.nowUs setup⟩

/-- The state in which a request that does not wait is dispatched. -/
def untilDispatch (setup : ServerSetup σ τ) (s : ServerServices depth σ τ) :
    ServerServices depth σ τ :=
  if depth > 0 && setup.resilience.enablePriorityQueue then s.tick else s

/-- The state in which a request is rejected for back-pressure. -/
def untilReject (s : ServerServices depth σ τ) : ServerServices depth σ τ :=
  { s with rejectedRequestCount := satSucc32 s.rejectedRequestCount }

variable (setup) in
lemma run_enqueueOrDispatchInbound (message : ModbusMessage) {n : Nat}
    {s : ServerServices depth σ τ} (hn : n ≤ s.rxedFrame.toList.length) :
    match inboundRoute setup s with
    | .reject => (enqueueOrDispatchInbound setup message n).run s =
        (.ok (), (untilReject s).sendExceptionResponse setup message.transactionId
          message.unitIdOrSlaveAddr message.functionCode .tooManyRequests)
    | .enqueue => ∃ queue, s.requestQueue.push
          (pendingOf setup message (s.rxedFrame.toList.take n) s) = some queue ∧
        (enqueueOrDispatchInbound setup message n).run s =
          (.ok (), { s.tick with requestQueue := queue })
    | .dispatch => (enqueueOrDispatchInbound setup message n).run s =
        (dispatchRequest setup message).run (untilDispatch setup s) := by
  have hslice : (slice s.rxedFrame.toList 0 n : Fallible _) = .ok (s.rxedFrame.toList.take n) := by
    rw [slice_of_le (Nat.zero_le _) hn, List.drop_zero]
  unfold inboundRoute enqueueOrDispatchInbound untilDispatch
  by_cases hqueue : depth > 0 && setup.resilience.enablePriorityQueue
  · simp only [if_pos hqueue]
    by_cases hpressure : s.shouldApplyBackPressure setup
    · simp only [if_pos hpressure]
      rw [tryEnqueueRequest, EffM.run_gets_bind, EffM.run_gets_bind, if_pos hpressure,
        EffM.run_modify_bind, EffM.run_lift_bind, hslice]
      rfl
    · simp only [if_neg hpressure]
      have hrun : (tryEnqueueRequest setup message n).run s =
          ((s.requestQueue.push (pendingOf setup message (s.rxedFrame.toList.take n) s)).elim
            (dispatchRequest setup message)
            fun queue => EffM.modify fun s => { s with requestQueue := queue }).run s.tick := by
        rw [tryEnqueueRequest, EffM.run_gets_bind, EffM.run_gets_bind, if_neg hpressure,
          EffM.run_lift_bind, hslice]
        dsimp only
        rw [EffM.run_gets_bind, EffM.run_modify_bind, EffM.run_gets_bind]
        split
        · rename_i queue hpush
          rw [show s.requestQueue.push (pendingOf setup message (s.rxedFrame.toList.take n) s) =
            some queue from hpush]
          rfl
        · rename_i hpush
          rw [show s.requestQueue.push (pendingOf setup message (s.rxedFrame.toList.take n) s) =
            none from hpush]
          rfl
      rw [hrun]
      by_cases hfull : s.requestQueue.length < depth
      · simp only [if_pos hfull]
        have hroom : s.requestQueue.toList.length + 1 ≤ depth := hfull
        refine ⟨_, HVec.extendFromSlice_of_le hroom, ?_⟩
        rw [HVec.push, HVec.extendFromSlice_of_le hroom]
        rfl
      · simp only [if_neg hfull]
        have hnone : s.requestQueue.push
            (pendingOf setup message (s.rxedFrame.toList.take n) s) = none := by
          refine HVec.extendFromSlice_eq_none.mpr ?_
          have : depth ≤ s.requestQueue.toList.length := Nat.le_of_not_lt hfull
          simp only [List.length_singleton]
          omega
        rw [hnone, Option.elim_none]
  · simp only [if_neg hqueue]

end ServerM

end ModbusRs
