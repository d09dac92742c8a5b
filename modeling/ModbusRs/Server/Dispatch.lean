import ModbusRs.Core.Wire
import ModbusRs.Server.Poll

/-!
# One response for each request

Dispatching a request hands one response to the send-or-queue step: the frame of the request's
function code or of its exception. The only way out is the panic of FC2B on an answer that
claims more bytes than its buffer has.
-/

namespace ModbusRs

open Outcome

/-- A response to a request with code `fc`: that code and some data, or the code with its
exception bit and one exception code. -/
def IsResponseFrame (tt : TransportType) (txnId : UInt16) (unitId : UInt8) (fc : FunctionCode)
    (frame : List UInt8) : Prop :=
  (∃ data, frame = frameBytes tt txnId unitId (fc.toByte :: data)) ∨
    ∃ code, frame = frameBytes tt txnId unitId [fc.toByte ||| 0x80, code]

section Frames

variable [Features] {tt : TransportType} {txnId : UInt16} {unit : UnitIdOrSlaveAddr}
  {fc : FunctionCode}

lemma IsReply.isResponseFrame {adu : Adu} (h : IsReply tt txnId unit fc adu) :
    IsResponseFrame tt txnId unit.get fc adu.toList := by
  obtain ⟨pdu, ⟨hfc, _⟩, hadu⟩ := h
  refine Or.inl ⟨pdu.data.toList, ?_⟩
  rw [(compileAduFrame_eq_ok hadu).2, Pdu.rawBytes, hfc]

/-- The exception response for a plain code always fits its frame. -/
lemma buildExceptionAdu_ok (tt : TransportType) (txnId : UInt16) (unit : UnitIdOrSlaveAddr)
    (hfc : fc.IsPlain) (code : ExceptionCode) :
    ∃ adu, buildExceptionAdu tt txnId unit fc code = .ok adu ∧
      IsResponseFrame tt txnId unit.get fc adu.toList := by
  obtain ⟨exc, hexc⟩ := Option.ne_none_iff_exists'.mp hfc
  obtain ⟨pdu, adu, hbuild, hadu, hlist⟩ :=
    compileAduFrame_exception tt txnId unit.get hexc code.toByte
  refine ⟨adu, ?_, Or.inr ⟨code.toByte, hlist⟩⟩
  simp only [buildExceptionAdu, hexc, hbuild, Except.ok_bind]
  exact hadu

end Frames

namespace ServerServices

variable [Features] {depth : Nat} {σ τ : Type} (setup : ServerSetup σ τ)
  (s : ServerServices depth σ τ)

/-! ### The send-or-queue step records what it is handed -/

@[simp] lemma count_handed (step : ServerStatistics → ServerStatistics) :
    (s.count step).handed = s.handed := by
  unfold count
  split <;> rfl

@[simp] lemma incrementServerMessageCount_handed :
    s.incrementServerMessageCount.handed = s.handed := s.count_handed _

@[simp] lemma incrementExceptionErrorCount_handed :
    s.incrementExceptionErrorCount.handed = s.handed := s.count_handed _

@[simp] lemma incrementNoResponseCount_handed :
    s.incrementNoResponseCount.handed = s.handed := s.count_handed _

@[simp] lemma handleSendFailure_handed (frame : Adu) (txnId : UInt16)
    (unit : UnitIdOrSlaveAddr) :
    (s.handleSendFailure setup frame txnId unit).handed = s.handed := by
  unfold handleSendFailure
  split
  · unfold updatePeakResponseQueueSize queueResponseForRetry
    dsimp only
    split <;> rfl
  · rfl

@[simp] lemma trySendOrQueue_handed (frame : Adu) (txnId : UInt16) (unit : UnitIdOrSlaveAddr) :
    (s.trySendOrQueue setup frame txnId unit).handed = s.handed ++ [⟨frame, txnId, unit⟩] := by
  unfold trySendOrQueue
  dsimp only
  split
  · unfold delayForTurnaround
    split <;> rfl
  · unfold sendOrRetry
    split
    · rw [incrementServerMessageCount_handed]
    · rw [handleSendFailure_handed]

/-- One response with code `fc` goes from `s` to `s'`. -/
def AnswersOnce (tt : TransportType) (txnId : UInt16) (unit : UnitIdOrSlaveAddr)
    (fc : FunctionCode) (s s' : ServerServices depth σ τ) : Prop :=
  ∃ adu : Adu, s'.handed = s.handed ++ [⟨adu, txnId, unit⟩] ∧
    IsResponseFrame tt txnId unit.get fc adu.toList

variable {setup s} {txnId : UInt16} {unit : UnitIdOrSlaveAddr} {fc : FunctionCode}

variable (setup s txnId unit) in
lemma answersOnce_exception (hfc : fc.IsPlain) (error : MbusError) :
    AnswersOnce setup.transport.transportType txnId unit fc s
      (s.sendExceptionResponse setup txnId unit fc error) := by
  obtain ⟨adu, hadu, hframe⟩ := buildExceptionAdu_ok setup.transport.transportType txnId unit hfc
    (fc.exceptionCodeForError error)
  refine ⟨adu, ?_, hframe⟩
  simp only [sendExceptionResponse, hadu, trySendOrQueue_handed,
    incrementExceptionErrorCount_handed]
  rfl

lemma answersOnce_finishRequest (hfc : fc.IsPlain) {result : Except MbusError Adu}
    (hresult : ∀ adu, result = .ok adu → IsReply setup.transport.transportType txnId unit fc adu) :
    AnswersOnce setup.transport.transportType txnId unit fc s
      (s.finishRequest setup txnId unit fc result) := by
  cases result with
  | ok adu => exact ⟨adu, s.trySendOrQueue_handed setup adu txnId unit,
      (hresult adu rfl).isResponseFrame⟩
  | error e => exact answersOnce_exception setup s txnId unit hfc e

end ServerServices

namespace ServerM

open ServerServices

variable [Features] {depth : Nat} {σ τ : Type} {setup : ServerSetup σ τ} {txnId : UInt16}
  {unit : UnitIdOrSlaveAddr} {fc : FunctionCode}

/-- The method returns and has handed over one response. -/
def ReturnsOnce (setup : ServerSetup σ τ) (txnId : UInt16) (unit : UnitIdOrSlaveAddr)
    (fc : FunctionCode) (m : ServerM depth σ τ Unit) (s : ServerServices depth σ τ) : Prop :=
  (m.run s).1 = .ok () ∧
    AnswersOnce setup.transport.transportType txnId unit fc s (m.run s).2

lemma returnsOnce_exception (hfc : fc.IsPlain) (error : MbusError)
    (s : ServerServices depth σ τ) :
    ReturnsOnce setup txnId unit fc
      (EffM.modify fun s => s.sendExceptionResponse setup txnId unit fc error) s :=
  ⟨rfl, answersOnce_exception setup s txnId unit hfc error⟩

/-- A handler is answered once unless it panics. -/
lemma returnsOnce_answer_iff (hfc : fc.IsPlain) {m : AppM σ Adu} (s : ServerServices depth σ τ)
    (hreply : ∀ adu, (m.run s.app).1 = .ok adu →
      IsReply setup.transport.transportType txnId unit fc adu) :
    ReturnsOnce setup txnId unit fc (answer setup txnId unit fc m) s ↔
      (m.run s.app).1 ≠ .panic := by
  have hrun : (onApp m : ServerM depth σ τ Adu).run s =
      ((m.run s.app).1, { s with app := (m.run s.app).2 }) := rfl
  rw [ReturnsOnce, answer, EffM.run_handle, hrun]
  cases hm : (m.run s.app).1 with
  | ok adu =>
    refine iff_of_true ⟨rfl, ?_⟩ (by simp)
    exact answersOnce_finishRequest hfc (fun adu' h => by
      cases h
      exact hreply adu hm)
  | err e =>
    refine iff_of_true ⟨rfl, ?_⟩ (by simp)
    exact answersOnce_finishRequest hfc (fun adu h => by cases h)
  | panic => simp

lemma returnsOnce_answer (hfc : fc.IsPlain) {m : AppM σ Adu} (s : ServerServices depth σ τ)
    (hm : Answers setup.transport.transportType txnId unit fc m) :
    ReturnsOnce setup txnId unit fc (answer setup txnId unit fc m) s :=
  (returnsOnce_answer_iff hfc s (hm s.app).2).mpr (hm s.app).1

/-! ### FC08 -/

variable (setup txnId unit) in
lemma returnsOnce_sendDiagnosticsValueResponse (subFunctionRaw value : UInt16)
    (s : ServerServices depth σ τ) :
    ReturnsOnce setup txnId unit .diagnostics
      (sendDiagnosticsValueResponse setup txnId unit subFunctionRaw value) s :=
  ⟨rfl, answersOnce_finishRequest (by decide) (fun _ => isReply_diagnostics)⟩

lemma returnsOnce_forwardDiagnosticsToApp (subFunction : DiagnosticSubFunction)
    (subFunctionRaw data : UInt16) (s : ServerServices depth σ τ) :
    ReturnsOnce setup txnId unit .diagnostics
      (forwardDiagnosticsToApp setup txnId unit subFunction subFunctionRaw data) s := by
  refine returnsOnce_answer (by decide) s (answers_checkCallFinish (by simp) ?_ ?_)
  · intro _ answer
    rw [lift_bind_ne_panic]
    intro _ _
    exact lift_ne_panic _
  · intro _ answer adu h
    obtain ⟨_, _, h⟩ := bind_eq_ok.mp h
    exact isReply_diagnostics (lift_eq_ok.mp h)

lemma returnsOnce_dispatchOtherSubFunction (subFunction : DiagnosticSubFunction)
    (subFunctionRaw data : UInt16) (s : ServerServices depth σ τ) :
    ReturnsOnce setup txnId unit .diagnostics
      (dispatchOtherSubFunction setup txnId unit subFunction subFunctionRaw data) s := by
  rw [ReturnsOnce, dispatchOtherSubFunction, EffM.run_gets_bind]
  split
  · rw [EffM.run_modify_bind]
    exact returnsOnce_sendDiagnosticsValueResponse setup txnId unit subFunctionRaw _ _
  · exact returnsOnce_forwardDiagnosticsToApp subFunction subFunctionRaw data s

omit [Features] in
lemma checkDiagnostics_ne_panic (tt : TransportType) (pdu : Pdu) :
    checkDiagnostics tt pdu ≠ .panic := by
  rw [checkDiagnostics, guardErr_bind_ne_panic]
  intro _
  refine bind_ne_panic Pdu.diagnosticsFields_ne_panic (fun fields _ => ?_)
  rw [lift_bind_ne_panic]
  intro subFunction _
  simp

/-- FC08 with sub-function Force Listen Only Mode, as the server takes it. -/
def forcesListenOnly (tt : TransportType) (fc : FunctionCode) (pdu : Pdu) : Bool :=
  match fc, checkDiagnostics tt pdu with
  | .diagnostics, .ok (.forceListenOnlyMode, _) => true
  | _, _ => false

/-- What the dispatcher owes a request: one response, or none to Force Listen Only Mode. -/
def Responds (setup : ServerSetup σ τ) (txnId : UInt16) (unit : UnitIdOrSlaveAddr)
    (fc : FunctionCode) (pdu : Pdu) (m : ServerM depth σ τ Unit) (s : ServerServices depth σ τ) :
    Prop :=
  if forcesListenOnly setup.transport.transportType fc pdu then
    (m.run s).1 = .ok () ∧ (m.run s).2.handed = s.handed
  else ReturnsOnce setup txnId unit fc m s

lemma responds_of_ne_diagnostics {pdu : Pdu} {m : ServerM depth σ τ Unit}
    {s : ServerServices depth σ τ} (hfc : fc ≠ .diagnostics) :
    Responds setup txnId unit fc pdu m s ↔ ReturnsOnce setup txnId unit fc m s := by
  have hforce : forcesListenOnly setup.transport.transportType fc pdu = false := by
    unfold forcesListenOnly
    split
    · exact absurd rfl hfc
    · rfl
  rw [Responds, hforce]
  simp

lemma responds_handleDiagnosticsRequest (pdu : Pdu) (s : ServerServices depth σ τ) :
    Responds setup txnId unit .diagnostics pdu
      (handleDiagnosticsRequest setup txnId unit pdu) s := by
  cases hcheck : checkDiagnostics setup.transport.transportType pdu with
  | panic => exact absurd hcheck (checkDiagnostics_ne_panic _ _)
  | err e =>
    simp only [Responds, forcesListenOnly, hcheck, Bool.false_eq_true, if_false]
    rw [ReturnsOnce, handleDiagnosticsRequest, EffM.run_handle, EffM.run_lift, hcheck]
    exact returnsOnce_exception (by decide) e s
  | ok fields =>
    obtain ⟨subFunction, subFunctionRaw, data⟩ := fields
    have hrun : (handleDiagnosticsRequest setup txnId unit pdu).run s =
        (dispatchDiagnosticsSubFunction setup txnId unit subFunction subFunctionRaw data).run s := by
      rw [handleDiagnosticsRequest, EffM.run_handle, EffM.run_lift, hcheck]
    simp only [Responds, ReturnsOnce, forcesListenOnly, hcheck, hrun]
    cases subFunction with
    | forceListenOnlyMode =>
      exact ⟨rfl, incrementNoResponseCount_handed _⟩
    | returnQueryData => exact returnsOnce_sendDiagnosticsValueResponse _ _ _ subFunctionRaw data s
    | restartCommunicationsOption =>
      exact returnsOnce_sendDiagnosticsValueResponse setup txnId unit subFunctionRaw data
        { s with listenOnlyMode := false }
    | _ => exact returnsOnce_dispatchOtherSubFunction _ subFunctionRaw data s

/-! ### The dispatcher -/

/-- The application answers a well-formed FC2B request with more bytes than it was lent. -/
def DeviceIdOverrun (setup : ServerSetup σ τ) (message : ModbusMessage)
    (s : ServerServices depth σ τ) : Prop :=
  message.functionCode = .encapsulatedInterfaceTransport ∧
    ∃ ids, checkReadDeviceIdentification message.pdu = .ok ids ∧
      ∃ v, (setup.app.readDeviceIdentificationRequest message.transactionId
        message.unitIdOrSlaveAddr ids.1 ids.2 (zeroBuffer _) s.app.state).1.1 = .ok v ∧
        246 < v.1.toNat

lemma run_readDeviceIdentification_eq_panic_iff (app : ModbusAppHandler σ) (tt : TransportType)
    (pdu : Pdu) (c : Client AppCall σ) :
    ((handleEncapsulatedInterfaceTransportRequest app tt txnId unit pdu).run c).1 = .panic ↔
      ∃ ids, checkReadDeviceIdentification pdu = .ok ids ∧
        ∃ v, (app.readDeviceIdentificationRequest txnId unit ids.1 ids.2 (zeroBuffer _)
          c.state).1.1 = .ok v ∧ 246 < v.1.toNat := by
  unfold handleEncapsulatedInterfaceTransportRequest
  cases hcheck : checkReadDeviceIdentification pdu with
  | ok ids =>
    rw [CallbackM.checkCallFinish_ok rfl]
    simp only [ok.injEq, exists_eq_left']
    exact finishReadDeviceIdentification_eq_panic_iff ids.1 _
  | err e =>
    rw [CallbackM.checkCallFinish_err rfl]
    simp
  | panic => exact absurd hcheck (checkReadDeviceIdentification_ne_panic pdu)

/-- The dispatcher's table, for every plain function code. -/
lemma responds_dispatchFunction_iff (message : ModbusMessage) (s : ServerServices depth σ τ)
    (hplain : message.functionCode.IsPlain) :
    Responds setup message.transactionId message.unitIdOrSlaveAddr message.functionCode
        message.pdu (dispatchFunction setup message.transactionId message.unitIdOrSlaveAddr
          message.functionCode message.pdu) s ↔
      ¬DeviceIdOverrun setup message s := by
  have hno (h : message.functionCode ≠ .encapsulatedInterfaceTransport) :
      ¬DeviceIdOverrun setup message s := fun ho => h ho.1
  rcases hfc : message.functionCode with _ | _ <;> rw [hfc] at hplain <;>
    first | exact absurd rfl hplain | skip
  case encapsulatedInterfaceTransport =>
    rw [responds_of_ne_diagnostics (by decide)]
    refine (returnsOnce_answer_iff hplain s ?_).trans ?_
    · intro adu h
      obtain ⟨ids, _, hadu⟩ := CallbackM.checkCallFinish_eq_ok h
      exact isReply_finishReadDeviceIdentification hadu
    · rw [Ne, run_readDeviceIdentification_eq_panic_iff, DeviceIdOverrun]
      simp only [hfc, true_and]
  case diagnostics =>
    exact iff_of_true (responds_handleDiagnosticsRequest _ s) (hno (by simp [hfc]))
  all_goals
    refine iff_of_true ((responds_of_ne_diagnostics (by decide)).mpr ?_) (hno (by simp [hfc]))
  case readCoils => exact returnsOnce_answer hplain s answers_readCoils
  case readDiscreteInputs => exact returnsOnce_answer hplain s answers_readDiscreteInputs
  case readHoldingRegisters => exact returnsOnce_answer hplain s answers_readHoldingRegisters
  case readInputRegisters => exact returnsOnce_answer hplain s answers_readInputRegisters
  case writeSingleCoil => exact returnsOnce_answer hplain s answers_writeSingleCoil
  case writeSingleRegister => exact returnsOnce_answer hplain s answers_writeSingleRegister
  case writeMultipleCoils => exact returnsOnce_answer hplain s answers_writeMultipleCoils
  case writeMultipleRegisters =>
    exact returnsOnce_answer hplain s answers_writeMultipleRegisters
  case maskWriteRegister => exact returnsOnce_answer hplain s answers_maskWriteRegister
  case readWriteMultipleRegisters =>
    exact returnsOnce_answer hplain s answers_readWriteMultipleRegisters
  case readFifoQueue => exact returnsOnce_answer hplain s answers_readFifoQueue
  case readFileRecord => exact returnsOnce_answer hplain s answers_readFileRecord
  case writeFileRecord => exact returnsOnce_answer hplain s answers_writeFileRecord
  case readExceptionStatus => exact returnsOnce_answer hplain s answers_readExceptionStatus
  case getCommEventCounter =>
    exact returnsOnce_answer hplain s (answers_getCommEventCounter s.commEventCounter)
  case getCommEventLog =>
    exact returnsOnce_answer hplain s (answers_getCommEventLog s.commEventCounter
      s.commMessageCount s.commEventLog.toList)
  case reportServerId => exact returnsOnce_answer hplain s answers_reportServerId

/-- A decoded request addressed to this unit reaches the dispatcher's table. -/
lemma run_dispatchRequest {message : ModbusMessage} {s : ServerServices depth σ τ}
    (haddressed : message.unitByte = setup.slaveAddress.get) (hunicast : message.unitByte ≠ 0)
    (hlisten : s.listenOnlyMode = false) :
    (dispatchRequest setup message).run s =
      (dispatchFunction setup message.transactionId message.unitIdOrSlaveAddr
        message.functionCode message.pdu).run s := by
  have hunit : message.unitIdOrSlaveAddr.get = setup.slaveAddress.get := by
    rw [message.unitIdOrSlaveAddr_get, haddressed]
    rcases setup.slaveAddress.valid with h | h
    · rw [if_pos h]
    · rw [h]
      decide
  have hbroadcast : setup.shouldHandleBroadcastWrite message = false := by
    have hzero : message.unitIdOrSlaveAddr.isBroadcast = false := by
      rw [UnitIdOrSlaveAddr.isBroadcast, hunit, ← haddressed]
      simpa using hunicast
    simp [ServerSetup.shouldHandleBroadcastWrite, hzero]
  have hdrop : setup.shouldDropForAddress message = false := by
    simp [ServerSetup.shouldDropForAddress, hunit]
  simp only [dispatchRequest, hbroadcast, Bool.false_eq_true, if_false, EffM.run_gets_bind,
    hlisten, Bool.false_and, hdrop]

/-- A frame addressed to this unit outside listen-only mode gets its one response, whatever
the application does, unless FC2B overruns its buffer. -/
theorem dispatchRequest_responds_iff (frame : List UInt8) (message : ModbusMessage)
    (s : ServerServices depth σ τ)
    (hdecode : decompileAduFrame frame setup.transport.transportType = .ok message)
    (haddressed : message.unitByte = setup.slaveAddress.get) (hunicast : message.unitByte ≠ 0)
    (hlisten : s.listenOnlyMode = false) :
    Responds setup message.transactionId message.unitIdOrSlaveAddr message.functionCode
        message.pdu (dispatchRequest setup message) s ↔
      ¬DeviceIdOverrun setup message s := by
  have hrun := run_dispatchRequest haddressed hunicast hlisten
  obtain ⟨_, _, _, hpdu⟩ := decompileAduFrame_eq_ok hdecode
  obtain ⟨_, _, hplain, _, _⟩ := Pdu.fromBytes_eq_ok hpdu
  rw [← responds_dispatchFunction_iff message s hplain]
  simp only [Responds, ReturnsOnce, hrun]

/-- A Read Holding Registers request of one register. -/
def readOneRegister : ModbusMessage :=
  ⟨.mbapHeader ⟨1, 0, 6, 1⟩, ⟨.readHoldingRegisters, none, ⟨[0x00, 0x00, 0x00, 0x01], by decide⟩⟩⟩

/-- A Read Device Identification request for the basic stream. -/
def readBasicIdentification : ModbusMessage :=
  ⟨.mbapHeader ⟨1, 0, 5, 1⟩, ⟨.encapsulatedInterfaceTransport, none, ⟨[0x0E, 0x01, 0x00], by
    decide⟩⟩⟩

/-- A device that refuses everything but its identification, of the given length. -/
def identifyingApp (bytesWritten : UInt8) : ModbusAppHandler Unit :=
  { refusingApp with
    readDeviceIdentificationRequest := fun _ _ _ _ out s =>
      ((.ok (bytesWritten, 0x01, false, 0x00), out), s) }

omit [Features] in
theorem dispatchRequest_responds_readOneRegister :
    letI := Features.minimal
    Responds (ServerSetup.plain refusingApp .stdTcp ⟨1, by decide⟩) 1 ⟨1, by decide⟩
      .readHoldingRegisters readOneRegister.pdu
      (dispatchRequest (ServerSetup.plain refusingApp .stdTcp ⟨1, by decide⟩) readOneRegister)
      (ServerServices.withQueueDepth 8 () ()) :=
  let _ := Features.minimal
  (dispatchRequest_responds_iff [0x00, 0x01, 0x00, 0x00, 0x00, 0x06, 0x01, 0x03, 0x00, 0x00, 0x00,
    0x01] readOneRegister (ServerServices.withQueueDepth 8 () ()) rfl rfl (by decide) rfl).mpr
    (fun h => by cases h.1)

omit [Features] in
/-- A callback that claims 247 bytes makes the dispatcher panic. -/
theorem dispatchRequest_overrun_panics :
    ¬∀ [Features] (setup : ServerSetup Unit Unit) (frame : List UInt8) (message : ModbusMessage)
      (s : ServerServices 8 Unit Unit),
      decompileAduFrame frame setup.transport.transportType = .ok message →
      message.pdu.errorCode = none → message.unitByte = setup.slaveAddress.get →
      message.unitByte ≠ 0 → s.listenOnlyMode = false →
      Responds setup message.transactionId message.unitIdOrSlaveAddr message.functionCode
        message.pdu (dispatchRequest setup message) s := by
  intro h
  let _ := Features.minimal
  have hresponds := h (ServerSetup.plain (identifyingApp 247) .stdTcp ⟨1, by decide⟩)
    [0x00, 0x01, 0x00, 0x00, 0x00, 0x05, 0x01, 0x2B, 0x0E, 0x01, 0x00] readBasicIdentification
    (ServerServices.withQueueDepth 8 () ()) rfl rfl rfl (by decide) rfl
  have hrun : (dispatchRequest (ServerSetup.plain (identifyingApp 247) .stdTcp ⟨1, by decide⟩)
      readBasicIdentification).run (ServerServices.withQueueDepth 8 () ()) = _ :=
    run_dispatchRequest rfl (by decide) rfl
  simp only [Responds, ReturnsOnce, hrun] at hresponds
  refine (responds_dispatchFunction_iff readBasicIdentification _ ?_).mp hresponds ?_
  · decide
  · exact ⟨rfl, _, rfl, _, rfl, by decide⟩

end ServerM

end ModbusRs
