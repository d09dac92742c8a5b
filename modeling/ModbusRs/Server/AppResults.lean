import ModbusRs.Server.BroadcastWrites

/-!
# What the application may return

The handlers compare the lengths that the application returns with what the request asks for, or
cut them to the buffer they lent. Only FC2B does neither: there a length above 246 makes the
dispatcher panic.
-/

namespace ModbusRs

open Outcome

section Answers

variable [Features] {σ : Type} {app : ModbusAppHandler σ} {tt : TransportType} {txnId : UInt16}
  {unit : UnitIdOrSlaveAddr} {fc : FunctionCode} {pdu : Pdu} {adu : Adu}

/-- The returned length is above a limit. -/
def LongerThan {n : Nat} (limit : Nat) (answer : Except MbusError UInt8 × Buffer n) : Prop :=
  ∃ length, answer.1 = .ok length ∧ limit < length.toNat

/-- The FIFO queue has more than 31 registers, by its length or by its own count. -/
def FifoTooLong (answer : Except MbusError UInt8 × Buffer 252) : Prop :=
  LongerThan (2 + 31 * 2) answer ∨
    ∃ length count, answer.1 = .ok length ∧ u16At answer.2.toList 0 = (.ok count : Fallible _) ∧
      31 < count

/-- A record is longer than its sub-request asks for, or no longer fits the response of which
`used` bytes are taken. -/
def RecordsTooLong (app : ModbusAppHandler σ) (txnId : UInt16) (unit : UnitIdOrSlaveAddr) :
    List FileRecordReadSubRequest → Nat → Buffer 252 → σ → Prop
  | [], _, _, _ => False
  | sub :: rest, used, appOut, state =>
    let answer := app.readFileRecordRequest txnId unit sub.fileNumber sub.recordNumber
      sub.recordLength appOut state
    LongerThan (sub.recordLength.toNat * 2) answer.1 ∨
      (∃ written, answer.1.1 = .ok written ∧ 251 < used + (2 + written.toNat)) ∨
      RecordsTooLong app txnId unit rest (used + (2 + sub.recordLength.toNat * 2)) answer.1.2
        answer.2

lemma finishBitRead_not_longer {window : ReadWindow}
    {answer : Except MbusError UInt8 × Buffer 252}
    (h : finishBitRead tt txnId unit fc window answer = .ok adu) :
    ¬LongerThan (packedBitLen window.quantity) answer := by
  rintro ⟨length, hlength, hlong⟩
  obtain ⟨length', hlength', h⟩ := bind_eq_ok.mp h
  obtain ⟨_, hguard, _⟩ := bind_eq_ok.mp h
  rw [hlength] at hlength'
  obtain rfl := Outcome.ok.inj hlength'
  have hguard := guardErr_eq_ok.mp hguard
  rw [Bool.or_eq_false_iff, bne_eq_false_iff_eq] at hguard
  rw [hguard.2, UInt8.toNat_ofNat'] at hlong
  exact Nat.not_lt.mpr (Nat.mod_le _ _) hlong

lemma finishWordRead_not_longer {quantity : UInt16}
    {answer : Except MbusError UInt8 × Buffer 252}
    (h : finishWordRead tt txnId unit fc quantity answer = .ok adu) :
    ¬LongerThan (quantity.toNat * 2) answer := by
  rintro ⟨length, hlength, hlong⟩
  obtain ⟨length', hlength', h⟩ := bind_eq_ok.mp h
  obtain ⟨_, hguard, _⟩ := bind_eq_ok.mp h
  rw [hlength] at hlength'
  obtain rfl := Outcome.ok.inj hlength'
  have hguard := guardErr_eq_ok.mp hguard
  rw [Bool.or_eq_false_iff, bne_eq_false_iff_eq] at hguard
  omega

lemma finishFifo_not_longer {answer : Except MbusError UInt8 × Buffer 252}
    (h : finishFifo tt txnId unit answer = .ok adu) : ¬FifoTooLong answer := by
  obtain ⟨length, hlength, h⟩ := bind_eq_ok.mp h
  obtain ⟨_, _, h⟩ := bind_eq_ok.mp h
  obtain ⟨count, hcount, h⟩ := bind_eq_ok.mp h
  obtain ⟨_, hmax, h⟩ := bind_eq_ok.mp h
  obtain ⟨_, hagrees, h⟩ := bind_eq_ok.mp h
  have hmax : count.toNat ≤ 31 := by
    have hle := guardErr_eq_ok.mp hmax
    rw [decide_eq_false_iff_not, UInt16.not_lt] at hle
    exact UInt16.le_iff_toNat_le.mp hle
  have hagrees := guardErr_eq_ok.mp hagrees
  rw [bne_eq_false_iff_eq] at hagrees
  have hlength := lift_eq_ok.mp hlength
  rintro (⟨length', hlength', hlong⟩ | ⟨_, count', _, hcount', hlong⟩)
  · obtain rfl := Except.ok.inj (hlength.symm.trans hlength')
    omega
  · obtain rfl := Outcome.ok.inj (hcount.symm.trans hcount')
    exact Nat.not_lt.mpr hmax (UInt16.lt_iff_toNat_lt.mp hlong)

omit [Features] in
lemma appendFileRecord_eq_ok {sub : FileRecordReadSubRequest}
    {answer : Except MbusError UInt8 × Buffer 252} {payload payload' : HVec UInt8 maxPduDataLen}
    (h : appendFileRecord sub answer payload = .ok payload') :
    ∃ written, answer.1 = .ok written ∧ written.toNat = sub.recordLength.toNat * 2 ∧
      payload.length + (2 + written.toNat) ≤ 251 ∧
      payload'.length = payload.length + (2 + written.toNat) := by
  obtain ⟨written, hwritten, h⟩ := bind_eq_ok.mp h
  obtain ⟨_, hexpected, h⟩ := bind_eq_ok.mp h
  obtain ⟨_, _, h⟩ := bind_eq_ok.mp h
  obtain ⟨_, hfits, h⟩ := bind_eq_ok.mp h
  obtain ⟨withLen, hwithLen, h⟩ := bind_eq_ok.mp h
  obtain ⟨withType, hwithType, h⟩ := bind_eq_ok.mp h
  obtain ⟨record, hrecord, h⟩ := bind_eq_ok.mp h
  have hexpected := guardErr_eq_ok.mp hexpected
  rw [Bool.or_eq_false_iff, bne_eq_false_iff_eq] at hexpected
  have hfits := guardErr_eq_ok.mp hfits
  rw [decide_eq_false_iff_not] at hfits
  have hlen : record.length = written.toNat := by
    obtain ⟨hle, rfl⟩ := slice_eq_ok.mp hrecord
    rw [List.length_drop, List.length_take]
    omega
  refine ⟨written, lift_eq_ok.mp hwritten, hexpected.1, ?_, ?_⟩
  · have hmax : maxPduDataLen - 1 = 251 := rfl
    omega
  · change payload'.toList.length = payload.toList.length + _
    rw [HVec.extendOr_eq_ok.mp (lift_eq_ok.mp h), HVec.pushOr_eq_ok.mp (lift_eq_ok.mp hwithType),
      HVec.pushOr_eq_ok.mp (lift_eq_ok.mp hwithLen)]
    simp only [List.length_append, List.length_singleton, hlen]
    omega

omit [Features] in
/-- Up to the first failure every record is as long as it should be, and fits. -/
lemma readFileRecordLoop_not_longer {subs : List FileRecordReadSubRequest}
    {payload payload' : HVec UInt8 maxPduDataLen} {appOut : Buffer 252} {c : Client AppCall σ}
    (h : ((readFileRecordLoop app txnId unit subs payload appOut).run c).1 = .ok payload') :
    ¬RecordsTooLong app txnId unit subs payload.length appOut c.state := by
  induction subs generalizing payload appOut c with
  | nil => exact id
  | cons sub rest ih =>
    rw [readFileRecordLoop, EffM.run_lift_bind] at h
    cases hover : recordOverflow sub.recordNumber sub.recordLength with
    | true =>
      rw [hover] at h
      cases h
    | false =>
      rw [hover, guardErr_false] at h
      dsimp only at h
      rw [CallbackM.run_call_bind, EffM.run_lift_bind] at h
      split at h
      next payload'' happend =>
        obtain ⟨written, hwritten, hexpected, hfits, hlen⟩ := appendFileRecord_eq_ok happend
        have hrest := ih h
        rw [hlen, hexpected] at hrest
        rintro (⟨length, hlength, hlong⟩ | ⟨length, hlength, hlong⟩ | hlater)
        · obtain rfl := Except.ok.inj (hwritten.symm.trans hlength)
          omega
        · obtain rfl := Except.ok.inj (hwritten.symm.trans hlength)
          omega
        · exact hrest hlater
      next => cases h
      next => cases h

lemma handleReadFileRecordRequest_not_longer {c : Client AppCall σ}
    (h : ((handleReadFileRecordRequest app tt txnId unit pdu).run c).1 = .ok adu) :
    ∀ subs, pdu.fileRecordReadSubRequests = .ok subs →
      ¬RecordsTooLong app txnId unit subs.toList 0 (zeroBuffer _) c.state := by
  intro subs hsubs
  rw [handleReadFileRecordRequest, EffM.run_lift_bind, hsubs] at h
  dsimp only at h
  rw [EffM.run_bind] at h
  rcases hrun : (readFileRecordLoop app txnId unit subs.toList .empty (zeroBuffer _)).run c
    with ⟨o, c'⟩
  rw [hrun] at h
  cases o with
  | ok payload =>
    have hloop : ((readFileRecordLoop app txnId unit subs.toList .empty (zeroBuffer _)).run c).1 =
        .ok payload := congrArg Prod.fst hrun
    exact readFileRecordLoop_not_longer hloop
  | err e => cases h
  | panic => cases h

/-- The application returns more for the request than the response can carry. -/
def AnswerTooLong (app : ModbusAppHandler σ) (txnId : UInt16) (unit : UnitIdOrSlaveAddr)
    (fc : FunctionCode) (pdu : Pdu) (state : σ) : Prop :=
  match fc with
  | .readCoils => ∃ window, checkReadWindow 1 2000 pdu = .ok window ∧
    LongerThan (packedBitLen window.quantity) (app.readCoilsRequest txnId unit window.address
      window.quantity (zeroBuffer _) state).1
  | .readDiscreteInputs => ∃ window, checkReadWindow 1 2000 pdu = .ok window ∧
    LongerThan (packedBitLen window.quantity) (app.readDiscreteInputsRequest txnId unit
      window.address window.quantity (zeroBuffer _) state).1
  | .readHoldingRegisters => ∃ window, checkReadWindow 1 125 pdu = .ok window ∧
    LongerThan (window.quantity.toNat * 2) (app.readMultipleHoldingRegistersRequest txnId unit
      window.address window.quantity (zeroBuffer _) state).1
  | .readInputRegisters => ∃ window, checkReadWindow 1 125 pdu = .ok window ∧
    LongerThan (window.quantity.toNat * 2) (app.readMultipleInputRegistersRequest txnId unit
      window.address window.quantity (zeroBuffer _) state).1
  | .readWriteMultipleRegisters => ∃ fields, checkReadWriteMultipleRegisters pdu = .ok fields ∧
    LongerThan (fields.1.readQuantity.toNat * 2) (app.readWriteMultipleRegistersRequest txnId unit
      fields.1.readAddress fields.1.readQuantity fields.1.writeAddress fields.2 (zeroBuffer _)
      state).1
  | .readFifoQueue => ∃ pointerAddress, pdu.fifoPointer = .ok pointerAddress ∧
    FifoTooLong (app.readFifoQueueRequest txnId unit pointerAddress (zeroBuffer _) state).1
  | .readFileRecord => ∃ subs, pdu.fileRecordReadSubRequests = .ok subs ∧
    RecordsTooLong app txnId unit subs.toList 0 (zeroBuffer _) state
  | _ => False

/-- A handler that ends well has been given what fits. -/
lemma dataAccessHandler_not_longer {m : AppM σ Adu} {c : Client AppCall σ}
    (hm : dataAccessHandler app tt txnId unit pdu fc = some m) (h : (m.run c).1 = .ok adu) :
    ¬AnswerTooLong app txnId unit fc pdu c.state := by
  cases fc with
  | readCoils =>
    cases hm
    exact CallbackM.checkCallFinish_not h fun _ _ => finishBitRead_not_longer
  | readDiscreteInputs =>
    cases hm
    exact CallbackM.checkCallFinish_not h fun _ _ => finishBitRead_not_longer
  | readHoldingRegisters =>
    cases hm
    exact CallbackM.checkCallFinish_not h fun _ _ => finishWordRead_not_longer
  | readInputRegisters =>
    cases hm
    exact CallbackM.checkCallFinish_not h fun _ _ => finishWordRead_not_longer
  | readWriteMultipleRegisters =>
    cases hm
    exact CallbackM.checkCallFinish_not h fun _ _ => finishWordRead_not_longer
  | readFifoQueue =>
    cases hm
    exact CallbackM.checkCallFinish_not h fun _ _ => finishFifo_not_longer
  | readFileRecord =>
    cases hm
    rintro ⟨subs, hsubs, hlong⟩
    exact handleReadFileRecordRequest_not_longer h subs hsubs hlong
  | _ => exact id

end Answers

namespace ServerM

open ServerServices

variable [Features] {depth : Nat} {σ τ : Type} {setup : ServerSetup σ τ}

/-- The message gets an exception response. -/
def GetsException (setup : ServerSetup σ τ) (message : ModbusMessage)
    (s s' : ServerServices depth σ τ) : Prop :=
  ∃ error adu, buildExceptionAdu setup.transport.transportType message.transactionId
      message.unitIdOrSlaveAddr message.functionCode
      (message.functionCode.exceptionCodeForError error) = .ok adu ∧
    s'.handed = s.handed ++ [⟨adu, message.transactionId, message.unitIdOrSlaveAddr⟩]

lemma getsException_sendExceptionResponse {message : ModbusMessage}
    (hplain : message.functionCode.IsPlain) (error : MbusError) (s : ServerServices depth σ τ) :
    GetsException setup message s (s.sendExceptionResponse setup message.transactionId
      message.unitIdOrSlaveAddr message.functionCode error) := by
  obtain ⟨adu, hadu, -⟩ := buildExceptionAdu_ok setup.transport.transportType
    message.transactionId message.unitIdOrSlaveAddr hplain
    (message.functionCode.exceptionCodeForError error)
  refine ⟨error, adu, hadu, ?_⟩
  simp only [sendExceptionResponse, hadu, trySendOrQueue_handed,
    incrementExceptionErrorCount_handed]
  rfl

/-- A message that the dispatcher has no entry for is refused. -/
lemma run_dispatchFunction_ok {message : ModbusMessage} {s : ServerServices depth σ τ}
    (hno : ¬DeviceIdOverrun setup message s) :
    ((dispatchFunction setup message.transactionId message.unitIdOrSlaveAddr message.functionCode
      message.pdu).run s).1 = .ok () := by
  by_cases hplain : message.functionCode.IsPlain
  · have hresponds := (responds_dispatchFunction_iff message s hplain).mpr hno
    unfold Responds at hresponds
    split at hresponds
    · exact hresponds.1
    · exact hresponds.1
  · cases hfc : message.functionCode with
    | _ =>
      rw [hfc] at hplain
      first | exact absurd (by decide) hplain | rfl

lemma answers_dataAccessHandler {message : ModbusMessage} {m : AppM σ Adu}
    (hm : dataAccessHandler setup.app setup.transport.transportType message.transactionId
      message.unitIdOrSlaveAddr message.pdu message.functionCode = some m) (c : Client AppCall σ) :
    (m.run c).1 ≠ .panic := by
  cases hfc : message.functionCode <;> rw [hfc] at hm <;> cases hm
  case readCoils => exact (answers_readCoils c).1
  case readDiscreteInputs => exact (answers_readDiscreteInputs c).1
  case readHoldingRegisters => exact (answers_readHoldingRegisters c).1
  case readInputRegisters => exact (answers_readInputRegisters c).1
  case writeSingleCoil => exact (answers_writeSingleCoil c).1
  case writeSingleRegister => exact (answers_writeSingleRegister c).1
  case writeMultipleCoils => exact (answers_writeMultipleCoils c).1
  case writeMultipleRegisters => exact (answers_writeMultipleRegisters c).1
  case maskWriteRegister => exact (answers_maskWriteRegister c).1
  case readWriteMultipleRegisters => exact (answers_readWriteMultipleRegisters c).1
  case readFifoQueue => exact (answers_readFifoQueue c).1
  case readFileRecord => exact (answers_readFileRecord c).1
  case writeFileRecord => exact (answers_writeFileRecord c).1

/-- Too long an answer becomes an exception response. -/
lemma getsException_of_tooLong {message : ModbusMessage} {s : ServerServices depth σ τ}
    (h : AnswerTooLong setup.app message.transactionId message.unitIdOrSlaveAddr
      message.functionCode message.pdu s.app.state) :
    GetsException setup message s ((dispatchFunction setup message.transactionId
      message.unitIdOrSlaveAddr message.functionCode message.pdu).run s).2 := by
  obtain ⟨m, hm⟩ : ∃ m, dataAccessHandler setup.app setup.transport.transportType
      message.transactionId message.unitIdOrSlaveAddr message.pdu message.functionCode =
        some m := by
    revert h
    cases message.functionCode <;> first | exact fun h => h.elim | exact fun _ => ⟨_, rfl⟩
  have hplain : message.functionCode.IsPlain := by
    revert h
    cases message.functionCode <;> first | exact fun h => h.elim | exact fun _ => by decide
  have hrun : (onApp m : ServerM depth σ τ Adu).run s =
      ((m.run s.app).1, { s with app := (m.run s.app).2 }) := rfl
  rw [dispatchFunction_dataAccess setup hm, answer, EffM.run_handle, hrun]
  cases houtcome : (m.run s.app).1 with
  | ok adu => exact absurd h (dataAccessHandler_not_longer hm houtcome)
  | panic => exact absurd houtcome (answers_dataAccessHandler hm s.app)
  | err e => exact getsException_sendExceptionResponse hplain e { s with app := (m.run s.app).2 }

lemma run_dispatchRequest_ok {message : ModbusMessage} {s : ServerServices depth σ τ}
    (hno : ¬DeviceIdOverrun setup message s) : ((dispatchRequest setup message).run s).1 = .ok () := by
  unfold dispatchRequest
  split
  next hbroadcast =>
    have hfc : isSupportedBroadcastWriteFunction message.functionCode = true := by
      simp only [ServerSetup.shouldHandleBroadcastWrite, Bool.and_eq_true] at hbroadcast
      exact hbroadcast.2
    exact (run_broadcastWrite hfc s).1
  next =>
    rw [EffM.run_gets_bind]
    split
    · rfl
    · split
      · rfl
      · exact run_dispatchFunction_ok hno

/-- A device that returns a length above the buffer it was lent for its identifier. -/
def boastingApp : ModbusAppHandler Unit :=
  { refusingApp with reportServerIdRequest := fun _ _ out s => ((.ok (255, 0xFF), out), s) }

/-- A Report Server ID request on a serial line. -/
def reportServerId : ModbusMessage :=
  ⟨.slaveAddress ⟨1, by decide⟩, ⟨.reportServerId, none, .empty⟩⟩

end ServerM

end ModbusRs
