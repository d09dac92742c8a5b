import ModbusRs.Server.Dispatch
import ModbusRs.Server.Ingest

/-!
# When a frame reaches the application

For each function code the request reaches the application exactly when its checks succeed, and
the checks look at the data alone. Nothing on the way looks at the exception bit of the received
function code: the decoder clears it, so a frame with the bit set takes the same way as the
request it would be without it.
-/

namespace ModbusRs

open Outcome

section Reach

variable [Features]

/-- FC14 calls the application once its first sub-request is in range. -/
def readFileRecordReachesApp (pdu : Pdu) : Bool :=
  match pdu.fileRecordReadSubRequests with
  | .ok subs =>
    match subs.toList with
    | sub :: _ => !recordOverflow sub.recordNumber sub.recordLength
    | [] => false
  | _ => false

/-- FC15 likewise. -/
def writeFileRecordReachesApp (pdu : Pdu) : Bool :=
  match pdu.fileRecordWriteSubRequests with
  | .ok subs =>
    match subs.toList with
    | sub :: _ => (writeFileRecordWords sub (List.replicate 126 0)).isOk
    | [] => false
  | _ => false

/-- The sub-functions of FC08 that the server does not answer itself. -/
def forwardsSubFunction : DiagnosticSubFunction → Bool
  | .returnQueryData | .restartCommunicationsOption | .forceListenOnlyMode => false
  | subFunction =>
    !(Features.diagnosticsStats && (ServerM.statsSubFunction .new 0 subFunction).isSome)

/-- FC08 calls the application with the sub-functions it forwards. -/
def diagnosticsReachesApp (tt : TransportType) (pdu : Pdu) : Bool :=
  match ServerM.checkDiagnostics tt pdu with
  | .ok (subFunction, _) => forwardsSubFunction subFunction
  | _ => false

/-- Whether a PDU with code `fc` passes the checks made before the first callback. -/
def requestReachesApp (tt : TransportType) (fc : FunctionCode) (pdu : Pdu) : Bool :=
  match fc with
  | .readCoils | .readDiscreteInputs => (checkReadWindow 1 2000 pdu).isOk
  | .readHoldingRegisters | .readInputRegisters => (checkReadWindow 1 125 pdu).isOk
  | .writeSingleCoil => (checkWriteSingleCoil pdu).isOk
  | .writeSingleRegister => pdu.writeSingleU16Fields.isOk
  | .writeMultipleCoils => (checkWriteMultipleCoils pdu).isOk
  | .writeMultipleRegisters => (checkWriteMultipleRegisters pdu).isOk
  | .maskWriteRegister => pdu.maskWriteRegisterFields.isOk
  | .readWriteMultipleRegisters => (checkReadWriteMultipleRegisters pdu).isOk
  | .readFifoQueue => pdu.fifoPointer.isOk
  | .readFileRecord => readFileRecordReachesApp pdu
  | .writeFileRecord => writeFileRecordReachesApp pdu
  | .diagnostics => diagnosticsReachesApp tt pdu
  | .readExceptionStatus | .getCommEventCounter | .getCommEventLog | .reportServerId =>
    (checkSerialEmpty tt pdu).isOk
  | .encapsulatedInterfaceTransport => (checkReadDeviceIdentification pdu).isOk
  | _ => false

end Reach

/-! ### Handlers -/

section Handlers

variable {σ : Type} {app : ModbusAppHandler σ} {tt : TransportType} {txnId : UInt16}
  {unit : UnitIdOrSlaveAddr} {pdu : Pdu}

/-- The computation makes at least one call exactly when `reaches`. -/
def CallsIff {α : Type} (reaches : Bool) (m : AppM σ α) : Prop :=
  ∀ c, (m.run c).2.calls = c.calls ↔ reaches = false

lemma callsIff_checkCallFinish {ρ α β : Type} (check : Fallible ρ) (label : ρ → AppCall)
    (f : ρ → σ → α × σ) (finish : ρ → α → Fallible β) :
    CallsIff check.isOk (CallbackM.checkCallFinish check label f finish) := by
  intro c
  rw [CallbackM.checkCallFinish_calls, isOk_eq_false]

lemma calls_ne_of_extends {c c' : Client AppCall σ} {state : σ} {label : AppCall}
    (h : CallbackM.Extends ⟨state, c.calls ++ [label]⟩ c') : c'.calls ≠ c.calls := by
  obtain ⟨made, hmade⟩ := h
  intro heq
  have hlen := congrArg List.length (hmade.symm.trans heq)
  simp only [List.length_append, List.length_singleton] at hlen
  omega

lemma within_readFileRecordLoop {R : Client AppCall σ → Client AppCall σ → Prop}
    (hrefl : ∀ c, R c c) (htrans : ∀ a b c, R a b → R b c → R a c)
    (hcall : ∀ fileNumber recordNumber recordLength
      (f : σ → (Except MbusError UInt8 × Buffer 252) × σ), (CallbackM.call
        ⟨txnId, unit, .readFileRecord fileNumber recordNumber recordLength⟩ f :
          AppM σ _).Within R)
    (subs : List FileRecordReadSubRequest) (payload : HVec UInt8 maxPduDataLen)
    (appOut : Buffer 252) :
    (readFileRecordLoop app txnId unit subs payload appOut).Within R := by
  induction subs generalizing payload appOut with
  | nil => exact EffM.within_pure hrefl payload
  | cons sub rest ih =>
    refine EffM.Within.bind htrans (EffM.within_lift hrefl _) fun _ => ?_
    refine EffM.Within.bind htrans (hcall _ _ _ _) fun answer => ?_
    exact EffM.Within.bind htrans (EffM.within_lift hrefl _) fun payload' => ih payload' answer.2

lemma within_writeFileRecordLoop {R : Client AppCall σ → Client AppCall σ → Prop}
    (hrefl : ∀ c, R c c) (htrans : ∀ a b c, R a b → R b c → R a c)
    (hcall : ∀ fileNumber recordNumber recordLength recordData
      (f : σ → Except MbusError Unit × σ), (CallbackM.call
        ⟨txnId, unit, .writeFileRecord fileNumber recordNumber recordLength recordData⟩ f :
          AppM σ _).Within R)
    (subs : List FileRecordWriteSubRequest) (registers : List UInt16) :
    (writeFileRecordLoop app txnId unit subs registers).Within R := by
  induction subs generalizing registers with
  | nil => exact EffM.within_pure hrefl ()
  | cons sub rest ih =>
    refine EffM.Within.bind htrans (EffM.within_lift hrefl _) fun result => ?_
    refine EffM.Within.bind htrans (hcall _ _ _ _ _) fun answer => ?_
    exact EffM.Within.bind htrans (EffM.within_lift hrefl _) fun _ => ih result.1

/-- The first callback decides; the rest of the loop forgets nothing. -/
lemma calls_readFileRecordLoop (subs : List FileRecordReadSubRequest)
    (payload : HVec UInt8 maxPduDataLen) (appOut : Buffer 252) (c : Client AppCall σ) :
    ((readFileRecordLoop app txnId unit subs payload appOut).run c).2.calls = c.calls ↔
      (match subs with
        | sub :: _ => !recordOverflow sub.recordNumber sub.recordLength
        | [] => false) = false := by
  cases subs with
  | nil => simp [readFileRecordLoop]
  | cons sub rest =>
    rw [readFileRecordLoop, EffM.run_lift_bind]
    cases ho : recordOverflow sub.recordNumber sub.recordLength with
    | true => simp [ho]
    | false =>
      simp only [guardErr_false, CallbackM.run_call_bind, ho, Bool.not_false, Bool.true_eq_false,
        iff_false]
      refine calls_ne_of_extends (EffM.Within.bind CallbackM.Extends.trans
        (EffM.within_lift CallbackM.Extends.refl _) (fun payload' => ?_) _)
      exact within_readFileRecordLoop CallbackM.Extends.refl CallbackM.Extends.trans
        (fun _ _ _ => CallbackM.within_call _) rest payload' _

lemma calls_writeFileRecordLoop (subs : List FileRecordWriteSubRequest)
    (registers : List UInt16) (c : Client AppCall σ) :
    ((writeFileRecordLoop app txnId unit subs registers).run c).2.calls = c.calls ↔
      (match subs with
        | sub :: _ => (writeFileRecordWords sub registers).isOk
        | [] => false) = false := by
  cases subs with
  | nil => simp [writeFileRecordLoop]
  | cons sub rest =>
    rw [writeFileRecordLoop, EffM.run_lift_bind]
    cases hw : writeFileRecordWords sub registers with
    | err e => simp [hw]
    | panic => simp [hw]
    | ok result =>
      obtain ⟨registers', words⟩ := result
      simp only [CallbackM.run_call_bind, hw, isOk_ok, Bool.true_eq_false, iff_false]
      refine calls_ne_of_extends (EffM.Within.bind CallbackM.Extends.trans
        (EffM.within_lift CallbackM.Extends.refl _) (fun _ => ?_) _)
      exact within_writeFileRecordLoop CallbackM.Extends.refl CallbackM.Extends.trans
        (fun _ _ _ _ => CallbackM.within_call _) rest registers'

/-- Whatever follows without callbacks does not change the record. -/
lemma calls_bind_lift {α β : Type} (m : AppM σ α) (f : α → Fallible β) (c : Client AppCall σ) :
    ((m >>= fun a => EffM.lift (f a)).run c).2.calls = (m.run c).2.calls := by
  rw [EffM.run_bind]
  rcases m.run c with ⟨o, c'⟩
  cases o <;> rfl

variable [Features]

lemma callsIff_readFileRecord :
    CallsIff (readFileRecordReachesApp pdu) (handleReadFileRecordRequest app tt txnId unit pdu) := by
  intro c
  rw [handleReadFileRecordRequest, EffM.run_lift_bind, readFileRecordReachesApp]
  cases pdu.fileRecordReadSubRequests with
  | err e => simp
  | panic => simp
  | ok subs =>
    dsimp only
    rw [calls_bind_lift (readFileRecordLoop app txnId unit subs.toList .empty (zeroBuffer _))
      (fun payload => lift (buildFileRecordReadResponse tt txnId unit payload.toList))]
    exact calls_readFileRecordLoop subs.toList .empty (zeroBuffer _) c

lemma callsIff_writeFileRecord :
    CallsIff (writeFileRecordReachesApp pdu)
      (handleWriteFileRecordRequest app tt txnId unit pdu) := by
  intro c
  rw [handleWriteFileRecordRequest, EffM.run_lift_bind, writeFileRecordReachesApp]
  cases pdu.fileRecordWriteSubRequests with
  | err e => simp
  | panic => simp
  | ok subs =>
    dsimp only
    rw [calls_bind_lift (writeFileRecordLoop app txnId unit subs.toList (List.replicate 126 0))
      (fun _ => lift (buildFileRecordWriteEchoResponse tt txnId unit pdu.data.toList))]
    exact calls_writeFileRecordLoop subs.toList (List.replicate 126 0) c

end Handlers

/-! ### The send pipeline makes no callback -/

namespace ServerServices

variable [Features] {depth : Nat} {σ τ : Type} (setup : ServerSetup σ τ)
  (s : ServerServices depth σ τ)

@[simp] lemma count_app (step : ServerStatistics → ServerStatistics) :
    (s.count step).app = s.app := by
  unfold count
  split <;> rfl

@[simp] lemma incrementMessageCount_app : s.incrementMessageCount.app = s.app := s.count_app _

@[simp] lemma incrementServerMessageCount_app :
    s.incrementServerMessageCount.app = s.app := s.count_app _

@[simp] lemma incrementExceptionErrorCount_app :
    s.incrementExceptionErrorCount.app = s.app := s.count_app _

@[simp] lemma incrementNoResponseCount_app :
    s.incrementNoResponseCount.app = s.app := s.count_app _

@[simp] lemma handleSendFailure_app (frame : Adu) (txnId : UInt16)
    (unit : UnitIdOrSlaveAddr) : (s.handleSendFailure setup frame txnId unit).app = s.app := by
  unfold handleSendFailure
  split
  · unfold updatePeakResponseQueueSize queueResponseForRetry
    dsimp only
    split <;> rfl
  · rfl

@[simp] lemma trySendOrQueue_app (frame : Adu) (txnId : UInt16) (unit : UnitIdOrSlaveAddr) :
    (s.trySendOrQueue setup frame txnId unit).app = s.app := by
  unfold trySendOrQueue
  dsimp only
  split
  · unfold delayForTurnaround
    split <;> rfl
  · unfold sendOrRetry
    split
    · rw [incrementServerMessageCount_app]
      rfl
    · rw [handleSendFailure_app]
      rfl

@[simp] lemma requeueResponse_app (pending : PendingResponse) :
    (s.requeueResponse pending).app = s.app := by
  unfold requeueResponse
  split <;> rfl

/-- Nor does the draining of the retry queue. -/
lemma drainResponses_app (count : Nat) : (drainResponses setup count s).app = s.app := by
  induction count generalizing s with
  | zero => rfl
  | succ count ih =>
    rw [drainResponses]
    cases s.responseQueue.popFront with
    | none => rfl
    | some popped =>
      obtain ⟨pending, queue⟩ := popped
      dsimp only
      split
      · exact ih _
      · split
        · exact requeueResponse_app _ _
        · split
          · rw [ih, incrementServerMessageCount_app]
            rfl
          · exact requeueResponse_app _ _

@[simp] lemma sendExceptionResponse_calls (txnId : UInt16) (unit : UnitIdOrSlaveAddr)
    (fc : FunctionCode) (error : MbusError) :
    (s.sendExceptionResponse setup txnId unit fc error).app.calls = s.app.calls := by
  unfold sendExceptionResponse
  dsimp only
  split
  · rw [trySendOrQueue_app, incrementExceptionErrorCount_app]
    rfl
  · rw [incrementExceptionErrorCount_app]
    rfl

@[simp] lemma finishRequest_calls (txnId : UInt16) (unit : UnitIdOrSlaveAddr)
    (fc : FunctionCode) (result : Except MbusError Adu) :
    (s.finishRequest setup txnId unit fc result).app.calls = s.app.calls := by
  cases result with
  | ok adu => exact congrArg Client.calls (s.trySendOrQueue_app setup adu txnId unit)
  | error e => exact s.sendExceptionResponse_calls setup txnId unit fc e

end ServerServices

namespace ServerM

open ServerServices

variable [Features] {depth : Nat} {σ τ : Type} {setup : ServerSetup σ τ} {txnId : UInt16}
  {unit : UnitIdOrSlaveAddr}

lemma calls_answer {fc : FunctionCode} {m : AppM σ Adu} {reaches : Bool}
    (hm : CallsIff reaches m) (s : ServerServices depth σ τ) :
    ((answer setup txnId unit fc m).run s).2.app.calls = s.app.calls ↔ reaches = false := by
  have hrun : (onApp m : ServerM depth σ τ Adu).run s =
      ((m.run s.app).1, { s with app := (m.run s.app).2 }) := rfl
  rw [← hm s.app, answer, EffM.run_handle, hrun]
  cases (m.run s.app).1 with
  | ok adu => simp
  | err e => simp
  | panic => rfl

lemma calls_ignoreErrors {m : AppM σ Unit} {reaches : Bool} (hm : CallsIff reaches m)
    (s : ServerServices depth σ τ) :
    ((ignoreErrors m).run s).2.app.calls = s.app.calls ↔ reaches = false := by
  have hrun : (onApp m : ServerM depth σ τ Unit).run s =
      ((m.run s.app).1, { s with app := (m.run s.app).2 }) := rfl
  rw [← hm s.app, ignoreErrors, EffM.run_handle, hrun]
  cases (m.run s.app).1 <;> rfl

omit [Features] in
lemma statsSubFunction_isSome (stats stats' : ServerStatistics) (data data' : UInt16)
    (subFunction : DiagnosticSubFunction) :
    (statsSubFunction stats data subFunction).isSome =
      (statsSubFunction stats' data' subFunction).isSome := by
  cases subFunction <;> rfl

lemma calls_sendDiagnosticsValueResponse (subFunctionRaw value : UInt16)
    (s : ServerServices depth σ τ) :
    ((sendDiagnosticsValueResponse setup txnId unit subFunctionRaw value).run s).2.app.calls =
      s.app.calls :=
  s.finishRequest_calls setup txnId unit .diagnostics _

lemma calls_forwardDiagnosticsToApp (subFunction : DiagnosticSubFunction)
    (subFunctionRaw data : UInt16) (s : ServerServices depth σ τ) :
    ((forwardDiagnosticsToApp setup txnId unit subFunction subFunctionRaw data).run
      s).2.app.calls ≠ s.app.calls := by
  rw [Ne, forwardDiagnosticsToApp, calls_answer (callsIff_checkCallFinish _ _ _ _) s]
  simp

lemma calls_dispatchOtherSubFunction (subFunction : DiagnosticSubFunction)
    (subFunctionRaw data : UInt16) (s : ServerServices depth σ τ) :
    ((dispatchOtherSubFunction setup txnId unit subFunction subFunctionRaw data).run
        s).2.app.calls = s.app.calls ↔
      (Features.diagnosticsStats &&
        (statsSubFunction .new 0 subFunction).isSome) = true := by
  rw [dispatchOtherSubFunction, EffM.run_gets_bind,
    statsSubFunction_isSome .new s.stats 0 data subFunction]
  cases hstats : (Features.diagnosticsStats : Bool) with
  | false =>
    simp only [Bool.false_and, Bool.false_eq_true, iff_false]
    exact calls_forwardDiagnosticsToApp subFunction subFunctionRaw data s
  | true =>
    cases statsSubFunction s.stats data subFunction with
    | none =>
      simp only [Option.isSome_none, Bool.and_false, Bool.false_eq_true, iff_false]
      exact calls_forwardDiagnosticsToApp subFunction subFunctionRaw data s
    | some result =>
      obtain ⟨value, stats⟩ := result
      simp only [Option.isSome_some, Bool.and_self, iff_true]
      exact calls_sendDiagnosticsValueResponse subFunctionRaw value { s with stats := stats }

lemma calls_handleDiagnosticsRequest (pdu : Pdu) (s : ServerServices depth σ τ) :
    ((handleDiagnosticsRequest setup txnId unit pdu).run s).2.app.calls = s.app.calls ↔
      diagnosticsReachesApp setup.transport.transportType pdu = false := by
  rw [handleDiagnosticsRequest, EffM.run_handle, EffM.run_lift, diagnosticsReachesApp]
  cases checkDiagnostics setup.transport.transportType pdu with
  | panic => simp
  | err e => simp
  | ok fields =>
    obtain ⟨subFunction, subFunctionRaw, data⟩ := fields
    cases subFunction with
    | returnQueryData =>
      exact iff_of_true (calls_sendDiagnosticsValueResponse subFunctionRaw data s) rfl
    | restartCommunicationsOption =>
      exact iff_of_true (calls_sendDiagnosticsValueResponse subFunctionRaw data
        { s with listenOnlyMode := false }) rfl
    | forceListenOnlyMode =>
      exact iff_of_true (congrArg Client.calls (incrementNoResponseCount_app _)) rfl
    | _ =>
      refine (calls_dispatchOtherSubFunction _ subFunctionRaw data s).trans ?_
      simp only [forwardsSubFunction, Bool.not_eq_false']

/-- The dispatcher's table calls the application exactly for the requests that pass their
checks. -/
lemma calls_dispatchFunction (fc : FunctionCode) (pdu : Pdu) (s : ServerServices depth σ τ) :
    ((dispatchFunction setup txnId unit fc pdu).run s).2.app.calls = s.app.calls ↔
      requestReachesApp setup.transport.transportType fc pdu = false := by
  cases fc with
  | diagnostics => exact calls_handleDiagnosticsRequest pdu s
  | readFileRecord => exact calls_answer callsIff_readFileRecord s
  | writeFileRecord => exact calls_answer callsIff_writeFileRecord s
  | getCommEventCounter => exact calls_answer (callsIff_checkCallFinish _ _ _ _) s
  | getCommEventLog => exact calls_answer (callsIff_checkCallFinish _ _ _ _) s
  | readCoils => exact calls_answer (callsIff_checkCallFinish _ _ _ _) s
  | readDiscreteInputs => exact calls_answer (callsIff_checkCallFinish _ _ _ _) s
  | readHoldingRegisters => exact calls_answer (callsIff_checkCallFinish _ _ _ _) s
  | readInputRegisters => exact calls_answer (callsIff_checkCallFinish _ _ _ _) s
  | writeSingleCoil => exact calls_answer (callsIff_checkCallFinish _ _ _ _) s
  | writeSingleRegister => exact calls_answer (callsIff_checkCallFinish _ _ _ _) s
  | writeMultipleCoils => exact calls_answer (callsIff_checkCallFinish _ _ _ _) s
  | writeMultipleRegisters => exact calls_answer (callsIff_checkCallFinish _ _ _ _) s
  | maskWriteRegister => exact calls_answer (callsIff_checkCallFinish _ _ _ _) s
  | readWriteMultipleRegisters => exact calls_answer (callsIff_checkCallFinish _ _ _ _) s
  | readFifoQueue => exact calls_answer (callsIff_checkCallFinish _ _ _ _) s
  | readExceptionStatus => exact calls_answer (callsIff_checkCallFinish _ _ _ _) s
  | reportServerId => exact calls_answer (callsIff_checkCallFinish _ _ _ _) s
  | encapsulatedInterfaceTransport => exact calls_answer (callsIff_checkCallFinish _ _ _ _) s
  | _ => exact iff_of_true (s.sendExceptionResponse_calls setup txnId unit _ _) rfl

lemma calls_dispatchBroadcastWriteNoResponse {message : ModbusMessage}
    (hfc : isSupportedBroadcastWriteFunction message.functionCode)
    (s : ServerServices depth σ τ) :
    ((dispatchBroadcastWriteNoResponse setup message).run s).2.app.calls = s.app.calls ↔
      requestReachesApp setup.transport.transportType message.functionCode message.pdu =
        false := by
  have hcount : s.incrementNoResponseCount.app.calls = s.app.calls :=
    congrArg Client.calls s.incrementNoResponseCount_app
  rw [dispatchBroadcastWriteNoResponse, EffM.run_modify_bind, ← hcount]
  cases h : message.functionCode with
  | writeSingleCoil => exact calls_ignoreErrors (callsIff_checkCallFinish _ _ _ _) _
  | writeSingleRegister => exact calls_ignoreErrors (callsIff_checkCallFinish _ _ _ _) _
  | writeMultipleCoils => exact calls_ignoreErrors (callsIff_checkCallFinish _ _ _ _) _
  | writeMultipleRegisters => exact calls_ignoreErrors (callsIff_checkCallFinish _ _ _ _) _
  | _ =>
    rw [h] at hfc
    exact absurd hfc (by decide)

/-- Whether the dispatcher lets a message through to its table. -/
def dispatchReachesApp (setup : ServerSetup σ τ) (message : ModbusMessage) (listenOnly : Bool) :
    Bool :=
  requestReachesApp setup.transport.transportType message.functionCode message.pdu &&
    (setup.shouldHandleBroadcastWrite message ||
      !(listenOnly && message.functionCode != .diagnostics) &&
        !setup.shouldDropForAddress message)

lemma calls_dispatchRequest (message : ModbusMessage) (s : ServerServices depth σ τ) :
    ((dispatchRequest setup message).run s).2.app.calls = s.app.calls ↔
      dispatchReachesApp setup message s.listenOnlyMode = false := by
  unfold dispatchRequest dispatchReachesApp
  by_cases hb : setup.shouldHandleBroadcastWrite message
  · have hfc : isSupportedBroadcastWriteFunction message.functionCode := by
      simp only [ServerSetup.shouldHandleBroadcastWrite, Bool.and_eq_true] at hb
      exact hb.2
    rw [if_pos hb, calls_dispatchBroadcastWriteNoResponse hfc, hb]
    simp
  · rw [if_neg hb, EffM.run_gets_bind, (Bool.not_eq_true _).mp hb]
    by_cases hl : s.listenOnlyMode && message.functionCode != .diagnostics
    · rw [if_pos hl, hl]
      simp
    · rw [if_neg hl, (Bool.not_eq_true _).mp hl]
      by_cases hd : setup.shouldDropForAddress message
      · rw [if_pos hd, hd]
        simp
      · rw [if_neg hd, (Bool.not_eq_true _).mp hd, calls_dispatchFunction]
        simp

/-! ### Frames -/

lemma inboundRoute_incrementMessageCount (s : ServerServices depth σ τ) :
    inboundRoute setup s.incrementMessageCount = inboundRoute setup s := by
  unfold incrementMessageCount count
  split <;> rfl

@[simp] lemma incrementMessageCount_listenOnlyMode (s : ServerServices depth σ τ) :
    s.incrementMessageCount.listenOnlyMode = s.listenOnlyMode := by
  unfold incrementMessageCount count
  split <;> rfl

@[simp] lemma incrementMessageCount_rxedFrame (s : ServerServices depth σ τ) :
    s.incrementMessageCount.rxedFrame = s.rxedFrame := by
  unfold incrementMessageCount count
  split <;> rfl

/-- Whether ingesting a decoded message calls the application at once. -/
def ingestReachesApp (setup : ServerSetup σ τ) (message : ModbusMessage)
    (s : ServerServices depth σ τ) : Bool :=
  dispatchReachesApp setup message s.listenOnlyMode &&
    (setup.shouldHandleBroadcastWrite message || inboundRoute setup s = .dispatch)

lemma calls_enqueueOrDispatchInbound (message : ModbusMessage) {n : Nat}
    {s : ServerServices depth σ τ} (hn : n ≤ s.rxedFrame.toList.length) :
    ((enqueueOrDispatchInbound setup message n).run s).2.app.calls = s.app.calls ↔
      (dispatchReachesApp setup message s.listenOnlyMode &&
        (inboundRoute setup s = .dispatch : Bool)) = false := by
  have hroute := run_enqueueOrDispatchInbound setup message hn
  cases h : inboundRoute setup s with
  | reject =>
    rw [h] at hroute
    rw [hroute]
    refine iff_of_true (sendExceptionResponse_calls ..) ?_
    simp
  | enqueue =>
    rw [h] at hroute
    obtain ⟨queue, _, hrun⟩ := hroute
    rw [hrun]
    exact iff_of_true rfl (by simp)
  | dispatch =>
    rw [h] at hroute
    rw [hroute]
    have happ : (untilDispatch setup s).app = s.app := by
      unfold untilDispatch
      split <;> rfl
    have hlisten : (untilDispatch setup s).listenOnlyMode = s.listenOnlyMode := by
      unfold untilDispatch
      split <;> rfl
    rw [← happ, calls_dispatchRequest, hlisten]
    simp

variable (setup) in
lemma calls_acceptInbound (message : ModbusMessage) {n : Nat} {s : ServerServices depth σ τ}
    (hn : n ≤ s.rxedFrame.toList.length) :
    ((acceptInbound setup message n).run s).2.app.calls = s.app.calls ↔
      ingestReachesApp setup message s = false := by
  unfold acceptInbound ingestReachesApp
  by_cases hb : setup.shouldHandleBroadcastWrite message
  · have hfc : isSupportedBroadcastWriteFunction message.functionCode := by
      simp only [ServerSetup.shouldHandleBroadcastWrite, Bool.and_eq_true] at hb
      exact hb.2
    rw [if_pos hb, calls_dispatchBroadcastWriteNoResponse hfc, dispatchReachesApp, hb]
    simp
  · rw [if_neg hb, (Bool.not_eq_true _).mp hb]
    by_cases hd : setup.shouldDropForAddress message
    · rw [if_pos hd, dispatchReachesApp, hd, (Bool.not_eq_true _).mp hb]
      simp
    · rw [if_neg hd, EffM.run_modify_bind, Bool.false_or]
      exact calls_enqueueOrDispatchInbound message (s := s.recordCommEvent 0x04) hn

/-- Ingesting a frame calls the application exactly when the frame decodes to a message that
reaches it. -/
lemma calls_ingestFrame (s : ServerServices depth σ τ) :
    ((ingestFrame setup).run s).2.app.calls = s.app.calls ↔
      ∀ n message, expectedFrameLength setup s.rxedFrame.toList = .ok n →
        decompileAduFrame (s.rxedFrame.toList.take n) setup.transport.transportType =
          .ok message → ingestReachesApp setup message s = false := by
  rw [run_ingestFrame]
  cases hn : expectedFrameLength setup s.rxedFrame.toList with
  | error e => simp
  | ok n =>
    have hle := expectedFrameLength_le hn
    dsimp only
    cases hm : decompileAduFrame (s.rxedFrame.toList.take n) setup.transport.transportType with
    | panic =>
      refine iff_of_true rfl ?_
      intro n' message hn' hm'
      cases hn'
      rw [hm] at hm'
      cases hm'
    | err e =>
      have hcalls : ((rejectInbound setup n e >>= fun _ => pure n : ServerM depth σ τ Nat).run
          s).2.app.calls = s.app.calls := by
        rw [EffM.run_bind]
        cases hr : repliesIllegalFunction setup n e with
        | false => rw [run_rejectInbound_of_not hr]
        | true =>
          obtain ⟨_, _, hrun⟩ := run_rejectInbound_of_replies hr hle
          rw [hrun]
          rfl
      refine iff_of_true hcalls ?_
      intro n' message hn' hm'
      cases hn'
      rw [hm] at hm'
      cases hm'
    | ok message =>
      have hcount : s.incrementMessageCount.app = s.app := s.incrementMessageCount_app
      have hcalls := calls_acceptInbound setup message (n := n)
        (s := s.incrementMessageCount) (by rwa [incrementMessageCount_rxedFrame])
      rw [ingestReachesApp, incrementMessageCount_listenOnlyMode,
        inboundRoute_incrementMessageCount, hcount] at hcalls
      have hbind : ((acceptInbound setup message n >>= fun _ => pure n : ServerM depth σ τ Nat).run
          s.incrementMessageCount).2 =
          ((acceptInbound setup message n).run s.incrementMessageCount).2 := by
        rw [EffM.run_bind]
        rcases (acceptInbound setup message n).run s.incrementMessageCount with ⟨o, s'⟩
        cases o <;> rfl
      dsimp only
      rw [hbind]
      refine hcalls.trans ⟨?_, fun h => h n message rfl hm⟩
      rintro h n' message' hn' hm'
      cases hn'
      rw [hm] at hm'
      cases hm'
      exact h

lemma calls_dispatchPendingRequest (pending : PendingRequest) (s : ServerServices depth σ τ) :
    ((dispatchPendingRequest setup pending).run s).2.app.calls = s.app.calls ↔
      ∀ message, decodePending setup pending = .ok (some message) →
        dispatchReachesApp setup message s.listenOnlyMode = false := by
  rw [dispatchPendingRequest, EffM.run_lift_bind]
  cases hp : decodePending setup pending with
  | err e => simp
  | panic => simp
  | ok found =>
    cases found with
    | none => simp
    | some message =>
      dsimp only
      rw [calls_dispatchRequest]
      refine ⟨?_, fun h => h message rfl⟩
      rintro h message' heq
      cases heq
      exact h

end ServerM

end ModbusRs
