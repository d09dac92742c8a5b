import ModbusRs.Server.Callbacks

/-!
# Broadcast writes

A broadcast handler makes the same checks as the handler of the addressed request and passes the
same arguments to the application. What the application returns is dropped, and nothing is sent.
-/

namespace ModbusRs

open Outcome

section Requests

variable {σ : Type} (txnId : UInt16) (unit : UnitIdOrSlaveAddr)

/-- The request that a check lets through, if it does. -/
def passedRequests {ρ : Type} (check : Fallible ρ) (request : ρ → AppRequest) : List AppRequest :=
  match check with
  | .ok r => [request r]
  | _ => []

lemma calls_passedRequests {ρ α β : Type} (check : Fallible ρ) (request : ρ → AppRequest)
    (f : ρ → σ → α × σ) (finish : ρ → α → Fallible β) (c : Client AppCall σ) :
    ((CallbackM.checkCallFinish check (fun r => ⟨txnId, unit, request r⟩) f finish).run c).2.calls =
      c.calls ++ (passedRequests check request).map (⟨txnId, unit, ·⟩) := by
  cases check with
  | ok r =>
    rw [CallbackM.checkCallFinish_ok rfl]
    rfl
  | err e =>
    rw [CallbackM.checkCallFinish_err rfl]
    exact (List.append_nil _).symm
  | panic =>
    rw [CallbackM.checkCallFinish_panic rfl]
    exact (List.append_nil _).symm

end Requests

namespace ServerM

open ServerServices

variable [Features] {depth : Nat} {σ τ : Type} {setup : ServerSetup σ τ} {txnId : UInt16}
  {unit : UnitIdOrSlaveAddr}

/-- Between the two states the application has been called, and nothing has been sent, queued or
handed over for sending. -/
structure OnlyCalls (calls : List AppCall) (s s' : ServerServices depth σ τ) : Prop where
  calls : s'.app.calls = s.app.calls ++ calls
  link : s'.link = s.link
  responseQueue : s'.responseQueue = s.responseQueue
  handed : s'.handed = s.handed

lemma calls_answer_eq (fc : FunctionCode) (m : AppM σ Adu) (s : ServerServices depth σ τ) :
    ((answer setup txnId unit fc m).run s).2.app.calls = (m.run s.app).2.calls := by
  have hrun : (onApp m : ServerM depth σ τ Adu).run s =
      ((m.run s.app).1, { s with app := (m.run s.app).2 }) := rfl
  rw [answer, EffM.run_handle, hrun]
  cases (m.run s.app).1 with
  | ok adu => exact finishRequest_calls _ _ _ _ _ _
  | err e => exact finishRequest_calls _ _ _ _ _ _
  | panic => rfl

/-- The unicast handlers of this shape pass on what the check lets through. -/
lemma calls_answer_checkCallFinish {ρ α : Type} (fc : FunctionCode) (check : Fallible ρ)
    (request : ρ → AppRequest) (f : ρ → σ → α × σ) (finish : ρ → α → Fallible Adu)
    (s : ServerServices depth σ τ) :
    ((answer setup txnId unit fc (CallbackM.checkCallFinish check
        (fun r => ⟨txnId, unit, request r⟩) f finish)).run s).2.app.calls =
      s.app.calls ++ (passedRequests check request).map (⟨txnId, unit, ·⟩) := by
  rw [calls_answer_eq]
  exact calls_passedRequests txnId unit check request f finish s.app

/-- The broadcast handlers pass on the same, and that is all they do. -/
lemma run_ignoreErrors_checkCallFinish {ρ : Type} {check : Fallible ρ} (hcheck : check ≠ .panic)
    (request : ρ → AppRequest) (f : ρ → σ → Except MbusError Unit × σ)
    (s : ServerServices depth σ τ) :
    let m : AppM σ Unit := CallbackM.checkCallFinish check
      (fun r => ⟨txnId, unit, request r⟩) f (fun _ => lift)
    ((ignoreErrors m).run s).1 = .ok () ∧
      OnlyCalls ((passedRequests check request).map (⟨txnId, unit, ·⟩)) s
        ((ignoreErrors m).run s).2 := by
  intro m
  have hrun : (onApp m : ServerM depth σ τ Unit).run s =
      ((m.run s.app).1, { s with app := (m.run s.app).2 }) := rfl
  have hpanic : (m.run s.app).1 ≠ .panic :=
    CallbackM.checkCallFinish_ne_panic hcheck fun _ _ _ => lift_ne_panic _
  have hcalls := calls_passedRequests txnId unit check request f
    (fun _ => lift) s.app
  rw [ignoreErrors, EffM.run_handle, hrun]
  cases h : (m.run s.app).1 with
  | ok _ => exact ⟨rfl, hcalls, rfl, rfl, rfl⟩
  | err e => exact ⟨rfl, hcalls, rfl, rfl, rfl⟩
  | panic => exact absurd h hpanic

lemma OnlyCalls.of_count {calls : List AppCall} {s s' : ServerServices depth σ τ}
    (h : OnlyCalls calls s.incrementNoResponseCount s') : OnlyCalls calls s s' := by
  unfold incrementNoResponseCount count at h
  split at h
  · exact ⟨h.calls, h.link, h.responseQueue, h.handed⟩
  · exact h

/-- What each of the four broadcast writes asks of the application. -/
def writeRequests (fc : FunctionCode) (pdu : Pdu) : List AppRequest :=
  match fc with
  | .writeSingleCoil => passedRequests (checkWriteSingleCoil pdu) fun fields =>
    .writeSingleCoil fields.1.address fields.2
  | .writeSingleRegister => passedRequests pdu.writeSingleU16Fields fun fields =>
    .writeSingleRegister fields.address fields.value
  | .writeMultipleCoils => passedRequests (checkWriteMultipleCoils pdu) fun fields =>
    .writeMultipleCoils fields.address fields.quantity fields.values
  | .writeMultipleRegisters => passedRequests (checkWriteMultipleRegisters pdu) fun fields =>
    .writeMultipleRegisters fields.1.address fields.2
  | _ => []

lemma calls_addressedWrite {fc : FunctionCode} (pdu : Pdu)
    (hfc : isSupportedBroadcastWriteFunction fc) (s : ServerServices depth σ τ) :
    ((dispatchFunction setup txnId unit fc pdu).run s).2.app.calls =
      s.app.calls ++ (writeRequests fc pdu).map (⟨txnId, unit, ·⟩) := by
  cases fc with
  | writeSingleCoil => exact calls_answer_checkCallFinish _ _ _ _ _ s
  | writeSingleRegister => exact calls_answer_checkCallFinish _ _ _ _ _ s
  | writeMultipleCoils => exact calls_answer_checkCallFinish _ _ _ _ _ s
  | writeMultipleRegisters => exact calls_answer_checkCallFinish _ _ _ _ _ s
  | _ => exact absurd hfc (by decide)

lemma run_broadcastWrite {message : ModbusMessage}
    (hfc : isSupportedBroadcastWriteFunction message.functionCode)
    (s : ServerServices depth σ τ) :
    ((dispatchBroadcastWriteNoResponse setup message).run s).1 = .ok () ∧
      OnlyCalls ((writeRequests message.functionCode message.pdu).map
          (⟨message.transactionId, message.unitIdOrSlaveAddr, ·⟩)) s
        ((dispatchBroadcastWriteNoResponse setup message).run s).2 := by
  rw [dispatchBroadcastWriteNoResponse, EffM.run_modify_bind]
  refine And.imp_right OnlyCalls.of_count ?_
  cases h : message.functionCode with
  | writeSingleCoil =>
    exact run_ignoreErrors_checkCallFinish (checkWriteSingleCoil_ne_panic _) _ _ _
  | writeSingleRegister =>
    exact run_ignoreErrors_checkCallFinish Pdu.writeSingleU16Fields_ne_panic _ _ _
  | writeMultipleCoils =>
    exact run_ignoreErrors_checkCallFinish (checkWriteMultiple_ne_panic _ _ _) _ _ _
  | writeMultipleRegisters =>
    exact run_ignoreErrors_checkCallFinish (checkWriteMultipleRegisters_ne_panic _) _ _ _
  | _ =>
    rw [h] at hfc
    exact absurd hfc (by decide)

/-- For each of the broadcast writes and every PDU there are requests, at most one, that the
addressed handler makes of the application and the broadcast handler too. The latter ends well
whatever the application returns, and leaves everything that is sent or waits alone. -/
theorem broadcast_agrees_with_addressed (pdu : Pdu)
    (hfc : isSupportedBroadcastWriteFunction pdu.functionCode) :
    ∃ requests : List AppRequest,
      (∀ (setup : ServerSetup σ τ) (txnId : UInt16) (unit : UnitIdOrSlaveAddr)
          (s : ServerServices depth σ τ),
        ((dispatchFunction setup txnId unit pdu.functionCode pdu).run s).2.app.calls =
          s.app.calls ++ requests.map (⟨txnId, unit, ·⟩)) ∧
      ∀ (setup : ServerSetup σ τ) (message : ModbusMessage) (s : ServerServices depth σ τ),
        message.pdu = pdu →
        let r := (dispatchBroadcastWriteNoResponse setup message).run s
        r.1 = .ok () ∧
          OnlyCalls (requests.map (⟨message.transactionId, message.unitIdOrSlaveAddr, ·⟩)) s
            r.2 := by
  refine ⟨writeRequests pdu.functionCode pdu, fun _ _ _ s => calls_addressedWrite pdu hfc s, ?_⟩
  rintro setup message s rfl
  exact run_broadcastWrite hfc s

/-- A request to switch coil 0 on. -/
def switchOnCoilPdu : Pdu := .new .writeSingleCoil (.ofSlice [0x00, 0x00, 0xFF, 0x00])

omit [Features] in
theorem broadcast_agrees_switchOnCoil :
    letI := Features.minimal
    ∃ requests : List AppRequest,
      (∀ (setup : ServerSetup Unit Unit) (txnId : UInt16) (unit : UnitIdOrSlaveAddr)
          (s : ServerServices 8 Unit Unit),
        ((dispatchFunction setup txnId unit .writeSingleCoil switchOnCoilPdu).run s).2.app.calls =
          s.app.calls ++ requests.map (⟨txnId, unit, ·⟩)) ∧
      ∀ (setup : ServerSetup Unit Unit) (message : ModbusMessage) (s : ServerServices 8 Unit Unit),
        message.pdu = switchOnCoilPdu →
        let r := (dispatchBroadcastWriteNoResponse setup message).run s
        r.1 = .ok () ∧
          OnlyCalls (requests.map (⟨message.transactionId, message.unitIdOrSlaveAddr, ·⟩)) s
            r.2 :=
  let _ := Features.minimal
  broadcast_agrees_with_addressed switchOnCoilPdu rfl

end ServerM

end ModbusRs
