import ModbusRs.Server.Handlers

/-!
# What the handlers return

Every handler ends in an error or in the frame of a PDU with the request's function code,
whatever the application answers. No handler panics, except that of FC2B, whose output
buffer is sliced by a length the application is free to choose.
-/

namespace ModbusRs

open Outcome
open CallbackM (call checkCallFinish)

lemma checkReadWindow_ne_panic (minQuantity maxQuantity : UInt16) (pdu : Pdu) :
    checkReadWindow minQuantity maxQuantity pdu ≠ .panic := by
  refine bind_ne_panic Pdu.readWindow_ne_panic (fun window _ => ?_)
  rw [guardErr_bind_ne_panic]
  intro _
  rw [guardErr_bind_ne_panic]
  intro _
  simp

lemma checkWriteSingleCoil_ne_panic (pdu : Pdu) : checkWriteSingleCoil pdu ≠ .panic := by
  refine bind_ne_panic Pdu.writeSingleU16Fields_ne_panic (fun fields _ => ?_)
  split
  · simp
  · split <;> simp

lemma checkWriteMultiple_ne_panic (maxQuantity : UInt16) (expectedByteCount : UInt16 → Nat)
    (pdu : Pdu) : checkWriteMultiple maxQuantity expectedByteCount pdu ≠ .panic := by
  refine bind_ne_panic Pdu.writeMultipleFields_ne_panic (fun fields _ => ?_)
  rw [guardErr_bind_ne_panic]
  intro _
  rw [guardErr_bind_ne_panic]
  intro _
  rw [guardErr_bind_ne_panic]
  intro _
  simp

lemma checkWriteMultiple_eq_ok {maxQuantity : UInt16} {expectedByteCount : UInt16 → Nat}
    {pdu : Pdu} {fields : WriteMultipleFields}
    (h : checkWriteMultiple maxQuantity expectedByteCount pdu = .ok fields) :
    pdu.writeMultipleFields = .ok fields ∧ 1 ≤ fields.quantity ∧ fields.quantity ≤ maxQuantity ∧
      addressOverflow fields.address fields.quantity = false ∧
      fields.byteCount.toNat = expectedByteCount fields.quantity ∧
      fields.values.length = expectedByteCount fields.quantity := by
  obtain ⟨fields', hfields, h⟩ := bind_eq_ok.mp h
  obtain ⟨_, hq, h⟩ := bind_eq_ok.mp h
  obtain ⟨_, ha, h⟩ := bind_eq_ok.mp h
  obtain ⟨_, hb, h⟩ := bind_eq_ok.mp h
  cases h
  have hq := guardErr_eq_ok.mp hq
  have hb := guardErr_eq_ok.mp hb
  simp only [Bool.not_eq_false', Bool.and_eq_true, decide_eq_true_eq] at hq
  simp only [Bool.or_eq_false_iff, bne_eq_false_iff_eq] at hb
  exact ⟨hfields, hq.1, hq.2, guardErr_eq_ok.mp ha, hb.1, hb.2⟩

/-- Reading `count` words into an array of at least as many and slicing them off again. -/
lemma overwriteWords_slice_ne_panic (registers : List UInt16) (values : List UInt8) (count : Nat)
    (hvalues : values.length = count * 2) (hcount : count ≤ registers.length) :
    ∀ registers', overwriteWords registers values = .ok registers' →
      (slice registers' 0 count : Fallible _) ≠ .panic := by
  intro registers' h
  have hwords : (beWords values).length = count := by
    rw [beWords_length, hvalues]
    omega
  rw [overwriteWords, hwords, if_pos hcount] at h
  cases h
  rw [slice_of_le (Nat.zero_le _) (by simp [hwords])]
  simp

lemma overwriteWords_ne_panic (registers : List UInt16) (values : List UInt8) (count : Nat)
    (hvalues : values.length = count * 2) (hcount : count ≤ registers.length) :
    overwriteWords registers values ≠ .panic := by
  have hwords : (beWords values).length = count := by
    rw [beWords_length, hvalues]
    omega
  rw [overwriteWords, hwords, if_pos hcount]
  simp

lemma checkWriteMultipleRegisters_ne_panic (pdu : Pdu) :
    checkWriteMultipleRegisters pdu ≠ .panic := by
  refine bind_ne_panic (checkWriteMultiple_ne_panic _ _ _) (fun fields hfields => ?_)
  obtain ⟨_, _, hmax, _, _, hvalues⟩ := checkWriteMultiple_eq_ok hfields
  have hcount : fields.quantity.toNat ≤ (List.replicate 123 (0 : UInt16)).length := by
    simpa using UInt16.le_iff_toNat_le.mp hmax
  refine bind_ne_panic (overwriteWords_ne_panic _ _ _ hvalues hcount) (fun registers hr => ?_)
  refine bind_ne_panic (overwriteWords_slice_ne_panic _ _ _ hvalues hcount registers hr) ?_
  intro values _
  simp

lemma checkReadWriteMultipleRegisters_ne_panic (pdu : Pdu) :
    checkReadWriteMultipleRegisters pdu ≠ .panic := by
  refine bind_ne_panic Pdu.readWriteMultipleFields_ne_panic (fun fields _ => ?_)
  rw [guardErr_bind_ne_panic]
  intro _
  rw [guardErr_bind_ne_panic]
  intro hq
  rw [guardErr_bind_ne_panic]
  intro _
  rw [guardErr_bind_ne_panic]
  intro _
  rw [guardErr_bind_ne_panic]
  intro hb
  simp only [Bool.not_eq_false', Bool.and_eq_true, decide_eq_true_eq] at hq
  simp only [Bool.or_eq_false_iff, bne_eq_false_iff_eq] at hb
  have hcount : fields.writeQuantity.toNat ≤ (List.replicate 121 (0 : UInt16)).length := by
    simpa using UInt16.le_iff_toNat_le.mp hq.2
  refine bind_ne_panic (overwriteWords_ne_panic _ _ _ hb.2 hcount) (fun registers hr => ?_)
  refine bind_ne_panic (overwriteWords_slice_ne_panic _ _ _ hb.2 hcount registers hr) ?_
  intro values _
  simp

lemma checkSerialEmpty_ne_panic (tt : TransportType) (pdu : Pdu) :
    checkSerialEmpty tt pdu ≠ .panic := by
  rw [checkSerialEmpty, guardErr_bind_ne_panic]
  intro _
  exact guardErr_ne_panic _ _

lemma checkReadDeviceIdentification_ne_panic (pdu : Pdu) :
    checkReadDeviceIdentification pdu ≠ .panic := by
  refine bind_ne_panic Pdu.meiTypePayload_ne_panic (fun mei _ => ?_)
  split
  · rw [guard_decide_bind_ne_panic]
    intro h
    rw [index_of_lt (by omega), ok_bind, index_of_lt (by omega), ok_bind, guardErr_bind_ne_panic]
    intro _
    simp
  · simp

section Replies

variable [Features] {σ : Type} (app : ModbusAppHandler σ) (tt : TransportType) (txnId : UInt16)
  (unit : UnitIdOrSlaveAddr) (pdu : Pdu)

/-- The handler never panics and what it returns is a reply with code `fc`. -/
def Answers (fc : FunctionCode) (handler : AppM σ Adu) : Prop :=
  ∀ c, (handler.run c).1 ≠ .panic ∧
    ∀ adu, (handler.run c).1 = .ok adu → IsReply tt txnId unit fc adu

variable {app tt txnId unit pdu}

lemma answers_checkCallFinish {ρ α : Type} {fc : FunctionCode} {check : Fallible ρ}
    {label : ρ → AppCall} {f : ρ → σ → α × σ} {finish : ρ → α → Fallible Adu}
    (hcheck : check ≠ .panic) (hpanic : ∀ r a, finish r a ≠ .panic)
    (hreply : ∀ r a adu, finish r a = .ok adu → IsReply tt txnId unit fc adu) :
    Answers tt txnId unit fc (checkCallFinish check label f finish) := by
  intro c
  refine ⟨CallbackM.checkCallFinish_ne_panic hcheck (fun r _ a => hpanic r a), ?_⟩
  intro adu h
  obtain ⟨r, _, hr⟩ := CallbackM.checkCallFinish_eq_ok h
  exact hreply r _ adu hr

lemma finishBitRead_ne_panic (fc : FunctionCode) (window : ReadWindow)
    (answer : Except MbusError UInt8 × Buffer 252) :
    finishBitRead tt txnId unit fc window answer ≠ .panic := by
  rw [finishBitRead, lift_bind_ne_panic]
  intro length _
  rw [guardErr_bind_ne_panic]
  intro h
  have hle : length.toNat ≤ 252 := by
    simp only [Bool.or_eq_false_iff, decide_eq_false_iff_not] at h
    omega
  rw [slice_of_le (Nat.zero_le _) (by simpa using hle), ok_bind]
  exact lift_ne_panic _

lemma isReply_finishBitRead {fc : FunctionCode} {window : ReadWindow}
    {answer : Except MbusError UInt8 × Buffer 252} {adu : Adu}
    (h : finishBitRead tt txnId unit fc window answer = .ok adu) :
    IsReply tt txnId unit fc adu := by
  obtain ⟨_, _, h⟩ := bind_eq_ok.mp h
  obtain ⟨_, _, h⟩ := bind_eq_ok.mp h
  obtain ⟨_, _, h⟩ := bind_eq_ok.mp h
  exact isReply_byteCountPrefixed (lift_eq_ok.mp h)

lemma finishWordRead_ne_panic (fc : FunctionCode) (quantity : UInt16)
    (answer : Except MbusError UInt8 × Buffer 252) :
    finishWordRead tt txnId unit fc quantity answer ≠ .panic := by
  rw [finishWordRead, lift_bind_ne_panic]
  intro length _
  rw [guardErr_bind_ne_panic]
  intro h
  have hle : length.toNat ≤ 252 := by
    simp only [Bool.or_eq_false_iff, decide_eq_false_iff_not] at h
    omega
  rw [slice_of_le (Nat.zero_le _) (by simpa using hle), ok_bind]
  exact lift_ne_panic _

lemma isReply_finishWordRead {fc : FunctionCode} {quantity : UInt16}
    {answer : Except MbusError UInt8 × Buffer 252} {adu : Adu}
    (h : finishWordRead tt txnId unit fc quantity answer = .ok adu) :
    IsReply tt txnId unit fc adu := by
  obtain ⟨_, _, h⟩ := bind_eq_ok.mp h
  obtain ⟨_, _, h⟩ := bind_eq_ok.mp h
  obtain ⟨_, _, h⟩ := bind_eq_ok.mp h
  exact isReply_byteCountPrefixed (lift_eq_ok.mp h)

lemma finishEcho_ne_panic (fc : FunctionCode) (first second : UInt16)
    (answer : Except MbusError Unit) : finishEcho tt txnId unit fc first second answer ≠ .panic := by
  rw [finishEcho, lift_bind_ne_panic]
  intro _ _
  exact lift_ne_panic _

lemma isReply_finishEcho {fc : FunctionCode} {first second : UInt16}
    {answer : Except MbusError Unit} {adu : Adu}
    (h : finishEcho tt txnId unit fc first second answer = .ok adu) :
    IsReply tt txnId unit fc adu := by
  obtain ⟨_, _, h⟩ := bind_eq_ok.mp h
  exact isReply_echoU16 (lift_eq_ok.mp h)

lemma finishFifo_ne_panic (answer : Except MbusError UInt8 × Buffer 252) :
    finishFifo tt txnId unit answer ≠ .panic := by
  rw [finishFifo, lift_bind_ne_panic]
  intro returnedLen _
  rw [guardErr_bind_ne_panic]
  intro _
  rw [u16At_of_lt (by simp), ok_bind, guard_decide_bind_ne_panic]
  intro hcount
  rw [guard_bne_bind_ne_panic]
  intro hlen
  have hle : returnedLen.toNat ≤ 252 := by
    have h31 : (fromBeBytes answer.2.toList[0] answer.2.toList[0 + 1]).toNat ≤ 31 :=
      UInt16.le_iff_toNat_le.mp (UInt16.not_lt.mp hcount)
    omega
  rw [slice_of_le (Nat.zero_le _) (by simpa using hle), ok_bind]
  exact lift_ne_panic _

lemma isReply_finishFifo {answer : Except MbusError UInt8 × Buffer 252} {adu : Adu}
    (h : finishFifo tt txnId unit answer = .ok adu) : IsReply tt txnId unit .readFifoQueue adu := by
  obtain ⟨_, _, h⟩ := bind_eq_ok.mp h
  obtain ⟨_, _, h⟩ := bind_eq_ok.mp h
  obtain ⟨_, _, h⟩ := bind_eq_ok.mp h
  obtain ⟨_, _, h⟩ := bind_eq_ok.mp h
  obtain ⟨_, _, h⟩ := bind_eq_ok.mp h
  obtain ⟨_, _, h⟩ := bind_eq_ok.mp h
  exact isReply_fifo (lift_eq_ok.mp h)

lemma finishCommEventCounter_ne_panic (eventCount : UInt16)
    (answer : Except MbusError (UInt16 × UInt16)) :
    finishCommEventCounter tt txnId unit eventCount answer ≠ .panic := by
  refine bind_ne_panic ?_ (fun values _ => lift_ne_panic _)
  unfold commEventCounterValues
  split <;> simp

lemma isReply_finishCommEventCounter {eventCount : UInt16}
    {answer : Except MbusError (UInt16 × UInt16)} {adu : Adu}
    (h : finishCommEventCounter tt txnId unit eventCount answer = .ok adu) :
    IsReply tt txnId unit .getCommEventCounter adu := by
  obtain ⟨_, _, h⟩ := bind_eq_ok.mp h
  exact isReply_twoU16 (lift_eq_ok.mp h)

lemma finishCommEventLog_ne_panic (eventCount messageCount : UInt16) (eventLog : List UInt8)
    (answer : Except MbusError (UInt16 × UInt16 × UInt16 × UInt8) × Buffer 64) :
    finishCommEventLog tt txnId unit eventCount messageCount eventLog answer ≠ .panic := by
  refine bind_ne_panic ?_ (fun values _ => ?_)
  · unfold commEventLogValues
    split
    · rename_i eventLen buf
      have hle : min eventLen.toNat 64 ≤ buf.toList.length := by
        rw [Vector.length_toList]
        exact Nat.min_le_right _ _
      rw [slice_of_le (Nat.zero_le _) hle]
      simp
    · simp
    · simp
  · dsimp only
    rw [lift_bind_ne_panic]
    intro _ _
    rw [lift_bind_ne_panic]
    intro _ _
    rw [lift_bind_ne_panic]
    intro _ _
    rw [lift_bind_ne_panic]
    intro _ _
    exact lift_ne_panic _

lemma isReply_finishCommEventLog {eventCount messageCount : UInt16} {eventLog : List UInt8}
    {answer : Except MbusError (UInt16 × UInt16 × UInt16 × UInt8) × Buffer 64} {adu : Adu}
    (h : finishCommEventLog tt txnId unit eventCount messageCount eventLog answer = .ok adu) :
    IsReply tt txnId unit .getCommEventLog adu := by
  obtain ⟨_, _, h⟩ := bind_eq_ok.mp h
  obtain ⟨_, _, h⟩ := bind_eq_ok.mp h
  obtain ⟨_, _, h⟩ := bind_eq_ok.mp h
  obtain ⟨_, _, h⟩ := bind_eq_ok.mp h
  obtain ⟨_, _, h⟩ := bind_eq_ok.mp h
  exact isReply_byteCountPrefixed (lift_eq_ok.mp h)

lemma finishReportServerId_ne_panic (answer : Except MbusError (UInt8 × UInt8) × Buffer 250) :
    finishReportServerId tt txnId unit answer ≠ .panic := by
  rw [finishReportServerId, lift_bind_ne_panic]
  rintro ⟨serverIdLen, runIndicatorStatus⟩ _
  dsimp only
  have hle : min serverIdLen.toNat 250 ≤ answer.2.toList.length := by
    rw [Vector.length_toList]
    exact Nat.min_le_right _ _
  rw [slice_of_le (Nat.zero_le _) hle, ok_bind, lift_bind_ne_panic]
  intro _ _
  rw [lift_bind_ne_panic]
  intro _ _
  exact lift_ne_panic _

lemma isReply_finishReportServerId {answer : Except MbusError (UInt8 × UInt8) × Buffer 250}
    {adu : Adu} (h : finishReportServerId tt txnId unit answer = .ok adu) :
    IsReply tt txnId unit .reportServerId adu := by
  obtain ⟨_, _, h⟩ := bind_eq_ok.mp h
  obtain ⟨_, _, h⟩ := bind_eq_ok.mp h
  obtain ⟨_, _, h⟩ := bind_eq_ok.mp h
  obtain ⟨_, _, h⟩ := bind_eq_ok.mp h
  exact isReply_byteCountPrefixed (lift_eq_ok.mp h)

/-- FC2B panics on an answer that claims more bytes than the buffer has. -/
lemma finishReadDeviceIdentification_eq_panic_iff (readDeviceIdCode : UInt8)
    (answer : Except MbusError (UInt8 × UInt8 × Bool × UInt8) × Buffer 246) :
    finishReadDeviceIdentification tt txnId unit readDeviceIdCode answer = .panic ↔
      ∃ v, answer.1 = .ok v ∧ 246 < v.1.toNat := by
  unfold finishReadDeviceIdentification
  cases answer.1 with
  | error e => simp
  | ok v =>
    obtain ⟨bytesWritten, conformityLevel, moreFollows, nextObjectId⟩ := v
    simp only [lift_ok, ok_bind, Except.ok.injEq, exists_eq_left']
    by_cases h : bytesWritten.toNat ≤ 246
    · rw [slice_of_le (Nat.zero_le _) (by simpa using h), ok_bind]
      exact iff_of_false (buildFc2bReadDeviceIdResponse_ne_panic _ _ _ _ _) (by omega)
    · rw [slice_eq_panic.mpr (Or.inr (by simp; omega))]
      simp only [panic_bind, true_iff]
      omega

lemma isReply_finishReadDeviceIdentification {readDeviceIdCode : UInt8}
    {answer : Except MbusError (UInt8 × UInt8 × Bool × UInt8) × Buffer 246} {adu : Adu}
    (h : finishReadDeviceIdentification tt txnId unit readDeviceIdCode answer = .ok adu) :
    IsReply tt txnId unit .encapsulatedInterfaceTransport adu := by
  obtain ⟨_, _, h⟩ := bind_eq_ok.mp h
  obtain ⟨_, _, h⟩ := bind_eq_ok.mp h
  exact isReply_fc2b h

/-! ### Handlers with one callback -/

lemma answers_readCoils : Answers tt txnId unit .readCoils
    (handleReadCoilsRequest app tt txnId unit pdu) :=
  answers_checkCallFinish (checkReadWindow_ne_panic _ _ _)
    (fun _ _ => finishBitRead_ne_panic _ _ _) (fun _ _ _ => isReply_finishBitRead)

lemma answers_readDiscreteInputs : Answers tt txnId unit .readDiscreteInputs
    (handleReadDiscreteInputsRequest app tt txnId unit pdu) :=
  answers_checkCallFinish (checkReadWindow_ne_panic _ _ _)
    (fun _ _ => finishBitRead_ne_panic _ _ _) (fun _ _ _ => isReply_finishBitRead)

lemma answers_readHoldingRegisters : Answers tt txnId unit .readHoldingRegisters
    (handleReadHoldingRegistersRequest app tt txnId unit pdu) :=
  answers_checkCallFinish (checkReadWindow_ne_panic _ _ _)
    (fun _ _ => finishWordRead_ne_panic _ _ _) (fun _ _ _ => isReply_finishWordRead)

lemma answers_readInputRegisters : Answers tt txnId unit .readInputRegisters
    (handleReadInputRegistersRequest app tt txnId unit pdu) :=
  answers_checkCallFinish (checkReadWindow_ne_panic _ _ _)
    (fun _ _ => finishWordRead_ne_panic _ _ _) (fun _ _ _ => isReply_finishWordRead)

lemma answers_writeSingleCoil : Answers tt txnId unit .writeSingleCoil
    (handleWriteSingleCoilRequest app tt txnId unit pdu) :=
  answers_checkCallFinish (checkWriteSingleCoil_ne_panic _)
    (fun _ _ => finishEcho_ne_panic _ _ _ _) (fun _ _ _ => isReply_finishEcho)

lemma answers_writeSingleRegister : Answers tt txnId unit .writeSingleRegister
    (handleWriteSingleRegisterRequest app tt txnId unit pdu) :=
  answers_checkCallFinish Pdu.writeSingleU16Fields_ne_panic
    (fun _ _ => finishEcho_ne_panic _ _ _ _) (fun _ _ _ => isReply_finishEcho)

lemma answers_writeMultipleCoils : Answers tt txnId unit .writeMultipleCoils
    (handleWriteMultipleCoilsRequest app tt txnId unit pdu) :=
  answers_checkCallFinish (checkWriteMultiple_ne_panic _ _ _)
    (fun _ _ => finishEcho_ne_panic _ _ _ _) (fun _ _ _ => isReply_finishEcho)

lemma answers_writeMultipleRegisters : Answers tt txnId unit .writeMultipleRegisters
    (handleWriteMultipleRegistersRequest app tt txnId unit pdu) :=
  answers_checkCallFinish (checkWriteMultipleRegisters_ne_panic _)
    (fun _ _ => finishEcho_ne_panic _ _ _ _) (fun _ _ _ => isReply_finishEcho)

lemma answers_maskWriteRegister : Answers tt txnId unit .maskWriteRegister
    (handleMaskWriteRegisterRequest app tt txnId unit pdu) := by
  refine answers_checkCallFinish Pdu.maskWriteRegisterFields_ne_panic (fun fields answer => ?_)
    (fun fields answer adu h => ?_)
  · rw [lift_bind_ne_panic]
    intro _ _
    exact lift_ne_panic _
  · obtain ⟨_, _, h⟩ := bind_eq_ok.mp h
    exact isReply_maskWriteEcho (lift_eq_ok.mp h)

lemma answers_readWriteMultipleRegisters : Answers tt txnId unit .readWriteMultipleRegisters
    (handleReadWriteMultipleRegistersRequest app tt txnId unit pdu) :=
  answers_checkCallFinish (checkReadWriteMultipleRegisters_ne_panic _)
    (fun _ _ => finishWordRead_ne_panic _ _ _) (fun _ _ _ => isReply_finishWordRead)

lemma answers_readFifoQueue : Answers tt txnId unit .readFifoQueue
    (handleReadFifoQueueRequest app tt txnId unit pdu) :=
  answers_checkCallFinish Pdu.fifoPointer_ne_panic (fun _ _ => finishFifo_ne_panic _)
    (fun _ _ _ => isReply_finishFifo)

lemma answers_readExceptionStatus : Answers tt txnId unit .readExceptionStatus
    (handleReadExceptionStatusRequest app tt txnId unit pdu) := by
  refine answers_checkCallFinish (checkSerialEmpty_ne_panic _ _) (fun _ answer => ?_)
    (fun _ answer adu h => ?_)
  · rw [lift_bind_ne_panic]
    intro _ _
    exact lift_ne_panic _
  · obtain ⟨_, _, h⟩ := bind_eq_ok.mp h
    exact isReply_singleByte (lift_eq_ok.mp h)

lemma answers_getCommEventCounter (eventCount : UInt16) :
    Answers tt txnId unit .getCommEventCounter
      (handleGetCommEventCounterRequest app tt txnId unit pdu eventCount) :=
  answers_checkCallFinish (checkSerialEmpty_ne_panic _ _)
    (fun _ _ => finishCommEventCounter_ne_panic _ _) (fun _ _ _ => isReply_finishCommEventCounter)

lemma answers_getCommEventLog (eventCount messageCount : UInt16) (eventLog : List UInt8) :
    Answers tt txnId unit .getCommEventLog
      (handleGetCommEventLogRequest app tt txnId unit pdu eventCount messageCount eventLog) :=
  answers_checkCallFinish (checkSerialEmpty_ne_panic _ _)
    (fun _ _ => finishCommEventLog_ne_panic _ _ _ _) (fun _ _ _ => isReply_finishCommEventLog)

lemma answers_reportServerId : Answers tt txnId unit .reportServerId
    (handleReportServerIdRequest app tt txnId unit pdu) :=
  answers_checkCallFinish (checkSerialEmpty_ne_panic _ _)
    (fun _ _ => finishReportServerId_ne_panic _) (fun _ _ _ => isReply_finishReportServerId)

/-! ### Handlers with one callback for each sub-request -/

omit [Features] in
lemma appendFileRecord_ne_panic (sub : FileRecordReadSubRequest)
    (answer : Except MbusError UInt8 × Buffer 252) (payload : HVec UInt8 maxPduDataLen) :
    appendFileRecord sub answer payload ≠ .panic := by
  rw [appendFileRecord, lift_bind_ne_panic]
  intro written _
  dsimp only
  rw [guardErr_bind_ne_panic]
  intro h
  simp only [Bool.or_eq_false_iff, bne_eq_false_iff_eq, decide_eq_false_iff_not] at h
  rw [guardErr_bind_ne_panic]
  intro _
  rw [guardErr_bind_ne_panic]
  intro _
  rw [lift_bind_ne_panic]
  intro _ _
  rw [lift_bind_ne_panic]
  intro _ _
  rw [slice_of_le (Nat.zero_le _) (by simp; omega), ok_bind]
  exact lift_ne_panic _

variable (app txnId unit) in
omit [Features] in
lemma readFileRecordLoop_ne_panic (subs : List FileRecordReadSubRequest)
    (payload : HVec UInt8 maxPduDataLen) (appOut : Buffer 252) (c : Client AppCall σ) :
    ((readFileRecordLoop app txnId unit subs payload appOut).run c).1 ≠ .panic := by
  induction subs generalizing payload appOut c with
  | nil => simp [readFileRecordLoop]
  | cons sub rest ih =>
    rw [readFileRecordLoop, EffM.run_lift_bind]
    cases recordOverflow sub.recordNumber sub.recordLength with
    | true => simp
    | false =>
      simp only [guardErr_false, CallbackM.run_call_bind, EffM.run_lift_bind]
      split
      · exact ih _ _ _
      · simp
      · rename_i hp
        exact absurd hp (appendFileRecord_ne_panic _ _ _)

lemma answers_readFileRecord : Answers tt txnId unit .readFileRecord
    (handleReadFileRecordRequest app tt txnId unit pdu) := by
  intro c
  rw [handleReadFileRecordRequest, EffM.run_lift_bind]
  cases hsubs : pdu.fileRecordReadSubRequests with
  | err e => simp
  | panic => exact absurd hsubs Pdu.fileRecordReadSubRequests_ne_panic
  | ok subs =>
    have hloop := readFileRecordLoop_ne_panic app txnId unit subs.toList .empty (zeroBuffer _) c
    dsimp only
    rw [EffM.run_bind]
    rcases hrun : (readFileRecordLoop app txnId unit subs.toList .empty (zeroBuffer _)).run c
      with ⟨o, c'⟩
    rw [hrun] at hloop
    cases o with
    | err e => simp
    | panic => exact absurd rfl hloop
    | ok payload =>
      refine ⟨lift_ne_panic _, fun adu h => ?_⟩
      exact isReply_fileRecordRead (lift_eq_ok.mp h)

omit [Features] in
lemma writeFileRecordWords_eq_ok {sub : FileRecordWriteSubRequest}
    {registers registers' words : List UInt16}
    (h : writeFileRecordWords sub registers = .ok (registers', words)) :
    registers'.length = registers.length := by
  obtain ⟨_, _, h⟩ := bind_eq_ok.mp h
  obtain ⟨_, _, h⟩ := bind_eq_ok.mp h
  obtain ⟨r, hr, h⟩ := bind_eq_ok.mp h
  obtain ⟨_, _, h⟩ := bind_eq_ok.mp h
  cases h
  unfold overwriteWords at hr
  split at hr
  · cases hr
    simp only [List.length_append, List.length_drop]
    omega
  · cases hr

omit [Features] in
/-- A sub-request that fits a PDU fits the registers. -/
lemma writeFileRecordWords_ne_panic {sub : FileRecordWriteSubRequest} {registers : List UInt16}
    (hsub : sub.recordDataBytes.length ≤ registers.length * 2) :
    writeFileRecordWords sub registers ≠ .panic := by
  rw [writeFileRecordWords, guardErr_bind_ne_panic]
  intro _
  rw [guard_bne_bind_ne_panic]
  intro hlen
  have hcount : sub.recordLength.toNat ≤ registers.length := by omega
  refine bind_ne_panic (overwriteWords_ne_panic _ _ _ hlen hcount) (fun r hr => ?_)
  refine bind_ne_panic (overwriteWords_slice_ne_panic _ _ _ hlen hcount r hr) ?_
  intro words _
  simp

variable (app txnId unit) in
omit [Features] in
lemma writeFileRecordLoop_ne_panic (subs : List FileRecordWriteSubRequest)
    (registers : List UInt16) (c : Client AppCall σ)
    (hsubs : ∀ sub ∈ subs, sub.recordDataBytes.length ≤ registers.length * 2) :
    ((writeFileRecordLoop app txnId unit subs registers).run c).1 ≠ .panic := by
  induction subs generalizing registers c with
  | nil => simp [writeFileRecordLoop]
  | cons sub rest ih =>
    rw [writeFileRecordLoop, EffM.run_lift_bind]
    cases hwords : writeFileRecordWords sub registers with
    | err e => simp
    | panic =>
      exact absurd hwords (writeFileRecordWords_ne_panic (hsubs sub List.mem_cons_self))
    | ok result =>
      obtain ⟨registers', words⟩ := result
      have hlen := writeFileRecordWords_eq_ok hwords
      simp only [CallbackM.run_call_bind, EffM.run_lift_bind]
      split
      · apply ih
        intro sub' hsub'
        rw [hlen]
        exact hsubs sub' (List.mem_cons_of_mem _ hsub')
      · simp
      · rename_i hp
        exact absurd hp (lift_ne_panic _)

lemma answers_writeFileRecord : Answers tt txnId unit .writeFileRecord
    (handleWriteFileRecordRequest app tt txnId unit pdu) := by
  intro c
  rw [handleWriteFileRecordRequest, EffM.run_lift_bind]
  cases hsubs : pdu.fileRecordWriteSubRequests with
  | err e => simp
  | panic => exact absurd hsubs Pdu.fileRecordWriteSubRequests_ne_panic
  | ok subs =>
    have hdata : ∀ sub ∈ subs.toList, sub.recordDataBytes.length ≤ maxPduDataLen :=
      fun sub hsub => ((Pdu.fileRecordWriteSubRequests_dataBytes hsubs).2 sub hsub).2
    have hloop := writeFileRecordLoop_ne_panic app txnId unit subs.toList (List.replicate 126 0) c
      (by simpa using hdata)
    dsimp only
    rw [EffM.run_bind]
    rcases hrun : (writeFileRecordLoop app txnId unit subs.toList (List.replicate 126 0)).run c
      with ⟨o, c'⟩
    rw [hrun] at hloop
    cases o with
    | err e => simp
    | panic => exact absurd rfl hloop
    | ok done =>
      refine ⟨lift_ne_panic _, fun adu h => ?_⟩
      exact isReply_fileRecordWriteEcho (lift_eq_ok.mp h)

end Replies

end ModbusRs
