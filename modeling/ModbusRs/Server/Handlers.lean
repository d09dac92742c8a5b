import ModbusRs.Server.Framing

/-!
# Request handlers

The handlers of FC01 to FC18 and FC2B up to the point where their result is handed to the
send pipeline: a frame, or the error from which the exception response is made. All but the
two file record handlers have the same shape: check the request, call the application once,
build the response from its answer. FC08 changes the server's own state and is part of the
dispatcher.
-/

namespace ModbusRs

open Outcome
open CallbackM (call checkCallFinish)

/-- `packed_bit_len`. -/
def packedBitLen (quantity : UInt16) : Nat := (quantity.toNat + 7) / 8

/-- `address.checked_add(quantity - 1).is_none()` for a positive quantity. -/
def addressOverflow (address quantity : UInt16) : Bool :=
  address.toNat + (quantity.toNat - 1) > 65535

/-- The loop `registers[index] = u16::from_be_bytes([chunk[0], chunk[1]])`. -/
def overwriteWords (registers : List UInt16) (values : List UInt8) : Fallible (List UInt16) :=
  if (beWords values).length ≤ registers.length then
    .ok (beWords values ++ registers.drop (beWords values).length)
  else .panic

/-! ### Request checks -/

/-- `parse_read_window` with the quantity and address checks that follow it. -/
def checkReadWindow (minQuantity maxQuantity : UInt16) (pdu : Pdu) : Fallible ReadWindow := do
  let window ← pdu.readWindow
  guardErr (!(minQuantity ≤ window.quantity && window.quantity ≤ maxQuantity)) .invalidQuantity
  guardErr (addressOverflow window.address window.quantity) .invalidAddress
  pure window

/-- FC05: the fields of the request and the coil value they encode. -/
def checkWriteSingleCoil (pdu : Pdu) : Fallible (WriteSingleU16Fields × Bool) := do
  let fields ← pdu.writeSingleU16Fields
  if fields.value = 0xFF00 then pure (fields, true)
  else if fields.value = 0x0000 then pure (fields, false)
  else .err .invalidValue

/-- The checks FC0F and FC10 share. -/
def checkWriteMultiple (maxQuantity : UInt16) (expectedByteCount : UInt16 → Nat) (pdu : Pdu) :
    Fallible WriteMultipleFields := do
  let fields ← pdu.writeMultipleFields
  guardErr (!(1 ≤ fields.quantity && fields.quantity ≤ maxQuantity)) .invalidQuantity
  guardErr (addressOverflow fields.address fields.quantity) .invalidAddress
  guardErr (fields.byteCount.toNat != expectedByteCount fields.quantity ||
    fields.values.length != expectedByteCount fields.quantity) .invalidByteCount
  pure fields

/-- FC0F. -/
def checkWriteMultipleCoils (pdu : Pdu) : Fallible WriteMultipleFields :=
  checkWriteMultiple 1968 packedBitLen pdu

/-- FC10, with the register values in a `[0u16; 123]`. -/
def checkWriteMultipleRegisters (pdu : Pdu) : Fallible (WriteMultipleFields × List UInt16) := do
  let fields ← checkWriteMultiple 123 (fun quantity => quantity.toNat * 2) pdu
  let registers ← overwriteWords (List.replicate 123 0) fields.values
  let values ← slice registers 0 fields.quantity.toNat
  pure (fields, values)

/-- FC17, with the write values in a `[0u16; 121]`. -/
def checkReadWriteMultipleRegisters (pdu : Pdu) :
    Fallible (ReadWriteMultipleFields × List UInt16) := do
  let fields ← pdu.readWriteMultipleFields
  guardErr (!(1 ≤ fields.readQuantity && fields.readQuantity ≤ 125)) .invalidQuantity
  guardErr (!(1 ≤ fields.writeQuantity && fields.writeQuantity ≤ 121)) .invalidQuantity
  guardErr (addressOverflow fields.readAddress fields.readQuantity) .invalidAddress
  guardErr (addressOverflow fields.writeAddress fields.writeQuantity) .invalidAddress
  guardErr (fields.writeByteCount.toNat != fields.writeQuantity.toNat * 2 ||
    fields.writeValues.length != fields.writeQuantity.toNat * 2) .invalidByteCount
  let registers ← overwriteWords (List.replicate 121 0) fields.writeValues
  let values ← slice registers 0 fields.writeQuantity.toNat
  pure (fields, values)

/-- FC07, FC0B, FC0C and FC11: serial lines only, no data. -/
def checkSerialEmpty (tt : TransportType) (pdu : Pdu) : Fallible Unit := do
  guardErr (!tt.isSerialType) .invalidFunctionCode
  guardErr (pdu.dataLen != 0) .invalidPduLength

/-- FC2B: the MEI type and the Read Device Identification arguments. -/
def checkReadDeviceIdentification (pdu : Pdu) : Fallible (UInt8 × UInt8) := do
  let mei ← pdu.meiTypePayload
  match EncapsulatedInterfaceType.tryFrom mei.meiTypeByte with
  | .ok .readDeviceIdentification => do
    guardErr (mei.payload.length < 2) .invalidPduLength
    let readDeviceIdCode ← index mei.payload 0
    let startObjectId ← index mei.payload 1
    guardErr (!(1 ≤ readDeviceIdCode && readDeviceIdCode ≤ 4)) .invalidDeviceIdCode
    pure (readDeviceIdCode, startObjectId)
  | _ => .err .invalidFunctionCode

/-- The check FC14 and FC15 make before each sub-request:
`record_number.checked_add(record_length.saturating_sub(1))`. -/
def recordOverflow (recordNumber recordLength : UInt16) : Bool :=
  recordNumber.toNat + (recordLength.toNat - 1) > 65535

section Handlers

variable [Features] {σ : Type} (app : ModbusAppHandler σ) (tt : TransportType) (txnId : UInt16)
  (unit : UnitIdOrSlaveAddr) (pdu : Pdu)

/-! ### Response construction -/

/-- End of FC01 and FC02: the byte count must be the packed length of the quantity. -/
def finishBitRead (fc : FunctionCode) (window : ReadWindow)
    (answer : Except MbusError UInt8 × Buffer 252) : Fallible Adu := do
  let length ← lift answer.1
  guardErr (length.toNat > 252 || length != UInt8.ofNat (packedBitLen window.quantity))
    .invalidByteCount
  let payload ← slice answer.2.toList 0 length.toNat
  lift (buildByteCountPrefixedResponse tt txnId unit fc payload)

/-- End of FC03, FC04 and FC17: the byte count must be twice the quantity. -/
def finishWordRead (fc : FunctionCode) (quantity : UInt16)
    (answer : Except MbusError UInt8 × Buffer 252) : Fallible Adu := do
  let length ← lift answer.1
  guardErr (length.toNat > 252 || length.toNat != quantity.toNat * 2) .invalidByteCount
  let payload ← slice answer.2.toList 0 length.toNat
  lift (buildByteCountPrefixedResponse tt txnId unit fc payload)

/-- End of the write handlers: echo two words. -/
def finishEcho (fc : FunctionCode) (first second : UInt16) (answer : Except MbusError Unit) :
    Fallible Adu := do
  lift answer
  lift (buildEchoU16Response tt txnId unit fc first second)

/-- End of FC18: the count in the buffer must agree with the returned length. -/
def finishFifo (answer : Except MbusError UInt8 × Buffer 252) : Fallible Adu := do
  let returnedLen ← lift answer.1
  guardErr (returnedLen.toNat < 2) .invalidByteCount
  let fifoCount ← u16At answer.2.toList 0
  guardErr (fifoCount > 31) .invalidQuantity
  guardErr (returnedLen.toNat != 2 + fifoCount.toNat * 2) .invalidByteCount
  let payload ← slice answer.2.toList 0 returnedLen.toNat
  lift (buildFifoResponse tt txnId unit payload)

/-- FC0B: the server's own counter stands in for a callback that is not implemented. -/
def commEventCounterValues (eventCount : UInt16) :
    Except MbusError (UInt16 × UInt16) → Fallible (UInt16 × UInt16)
  | .ok values => .ok values
  | .error .invalidFunctionCode => .ok (0x8000, eventCount)
  | .error e => .err e

/-- End of FC0B. -/
def finishCommEventCounter (eventCount : UInt16) (answer : Except MbusError (UInt16 × UInt16)) :
    Fallible Adu := do
  let values ← commEventCounterValues eventCount answer
  lift (buildTwoU16Response tt txnId unit .getCommEventCounter values.1 values.2)

/-- FC0C: the server's own event log stands in likewise. -/
def commEventLogValues (eventCount messageCount : UInt16) (eventLog : List UInt8) :
    Except MbusError (UInt16 × UInt16 × UInt16 × UInt8) × Buffer 64 →
      Fallible (UInt16 × UInt16 × UInt16 × List UInt8)
  | (.ok (status, events, messages, eventLen), buf) => do
    let log ← slice buf.toList 0 (min eventLen.toNat 64)
    pure (status, events, messages, log)
  | (.error .invalidFunctionCode, _) => .ok (0x8000, eventCount, messageCount, eventLog)
  | (.error e, _) => .err e

/-- End of FC0C. -/
def finishCommEventLog (eventCount messageCount : UInt16) (eventLog : List UInt8)
    (answer : Except MbusError (UInt16 × UInt16 × UInt16 × UInt8) × Buffer 64) :
    Fallible Adu := do
  let values ← commEventLogValues eventCount messageCount eventLog answer
  let payload : HVec UInt8 maxPduDataLen := .empty
  let payload ← lift (payload.extendOr (toBeBytes values.1) .bufferTooSmall)
  let payload ← lift (payload.extendOr (toBeBytes values.2.1) .bufferTooSmall)
  let payload ← lift (payload.extendOr (toBeBytes values.2.2.1) .bufferTooSmall)
  let payload ← lift (payload.extendOr values.2.2.2 .bufferTooSmall)
  lift (buildByteCountPrefixedResponse tt txnId unit .getCommEventLog payload.toList)

/-- End of FC11. -/
def finishReportServerId (answer : Except MbusError (UInt8 × UInt8) × Buffer 250) :
    Fallible Adu := do
  let (serverIdLen, runIndicatorStatus) ← lift answer.1
  let serverId ← slice answer.2.toList 0 (min serverIdLen.toNat 250)
  let payload ← lift ((HVec.empty : HVec UInt8 maxPduDataLen).extendOr serverId .bufferTooSmall)
  let payload ← lift (payload.pushOr runIndicatorStatus .bufferTooSmall)
  lift (buildByteCountPrefixedResponse tt txnId unit .reportServerId payload.toList)

/-- End of FC2B: the output buffer has 246 bytes, `bytes_written` is not compared with it. -/
def finishReadDeviceIdentification (readDeviceIdCode : UInt8)
    (answer : Except MbusError (UInt8 × UInt8 × Bool × UInt8) × Buffer 246) : Fallible Adu := do
  let (bytesWritten, conformityLevel, moreFollows, nextObjectId) ← lift answer.1
  let objects ← slice answer.2.toList 0 bytesWritten.toNat
  buildFc2bReadDeviceIdResponse tt txnId unit readDeviceIdCode conformityLevel moreFollows
    nextObjectId objects

/-! ### The handlers -/

/-- `handle_read_coils_request`. -/
def handleReadCoilsRequest : AppM σ Adu :=
  checkCallFinish (checkReadWindow 1 2000 pdu)
    (fun window => ⟨txnId, unit, .readCoils window.address window.quantity⟩)
    (fun window => app.readCoilsRequest txnId unit window.address window.quantity (zeroBuffer _))
    (finishBitRead tt txnId unit .readCoils)

/-- `handle_read_discrete_inputs_request`. -/
def handleReadDiscreteInputsRequest : AppM σ Adu :=
  checkCallFinish (checkReadWindow 1 2000 pdu)
    (fun window => ⟨txnId, unit, .readDiscreteInputs window.address window.quantity⟩)
    (fun window =>
      app.readDiscreteInputsRequest txnId unit window.address window.quantity (zeroBuffer _))
    (finishBitRead tt txnId unit .readDiscreteInputs)

/-- `handle_read_holding_registers_request`. -/
def handleReadHoldingRegistersRequest : AppM σ Adu :=
  checkCallFinish (checkReadWindow 1 125 pdu)
    (fun window => ⟨txnId, unit, .readMultipleHoldingRegisters window.address window.quantity⟩)
    (fun window => app.readMultipleHoldingRegistersRequest txnId unit window.address
      window.quantity (zeroBuffer _))
    (fun window => finishWordRead tt txnId unit .readHoldingRegisters window.quantity)

/-- `handle_read_input_registers_request`. -/
def handleReadInputRegistersRequest : AppM σ Adu :=
  checkCallFinish (checkReadWindow 1 125 pdu)
    (fun window => ⟨txnId, unit, .readMultipleInputRegisters window.address window.quantity⟩)
    (fun window => app.readMultipleInputRegistersRequest txnId unit window.address
      window.quantity (zeroBuffer _))
    (fun window => finishWordRead tt txnId unit .readInputRegisters window.quantity)

/-- `handle_write_single_coil_request`; the echo repeats the raw value. -/
def handleWriteSingleCoilRequest : AppM σ Adu :=
  checkCallFinish (checkWriteSingleCoil pdu)
    (fun fields => ⟨txnId, unit, .writeSingleCoil fields.1.address fields.2⟩)
    (fun fields => app.writeSingleCoilRequest txnId unit fields.1.address fields.2)
    (fun fields => finishEcho tt txnId unit .writeSingleCoil fields.1.address fields.1.value)

/-- `handle_write_single_register_request`. -/
def handleWriteSingleRegisterRequest : AppM σ Adu :=
  checkCallFinish pdu.writeSingleU16Fields
    (fun fields => ⟨txnId, unit, .writeSingleRegister fields.address fields.value⟩)
    (fun fields => app.writeSingleRegisterRequest txnId unit fields.address fields.value)
    (fun fields => finishEcho tt txnId unit .writeSingleRegister fields.address fields.value)

/-- `handle_write_multiple_coils_request`. -/
def handleWriteMultipleCoilsRequest : AppM σ Adu :=
  checkCallFinish (checkWriteMultipleCoils pdu)
    (fun fields =>
      ⟨txnId, unit, .writeMultipleCoils fields.address fields.quantity fields.values⟩)
    (fun fields =>
      app.writeMultipleCoilsRequest txnId unit fields.address fields.quantity fields.values)
    (fun fields => finishEcho tt txnId unit .writeMultipleCoils fields.address fields.quantity)

/-- `handle_write_multiple_registers_request`. -/
def handleWriteMultipleRegistersRequest : AppM σ Adu :=
  checkCallFinish (checkWriteMultipleRegisters pdu)
    (fun fields => ⟨txnId, unit, .writeMultipleRegisters fields.1.address fields.2⟩)
    (fun fields => app.writeMultipleRegistersRequest txnId unit fields.1.address fields.2)
    (fun fields =>
      finishEcho tt txnId unit .writeMultipleRegisters fields.1.address fields.1.quantity)

/-- `handle_mask_write_register_request`. -/
def handleMaskWriteRegisterRequest : AppM σ Adu :=
  checkCallFinish pdu.maskWriteRegisterFields
    (fun fields => ⟨txnId, unit, .maskWriteRegister fields.address fields.andMask fields.orMask⟩)
    (fun fields =>
      app.maskWriteRegisterRequest txnId unit fields.address fields.andMask fields.orMask)
    (fun fields answer => do
      lift answer
      lift (buildMaskWriteEchoResponse tt txnId unit fields.address fields.andMask fields.orMask))

/-- `handle_read_write_multiple_registers_request`. -/
def handleReadWriteMultipleRegistersRequest : AppM σ Adu :=
  checkCallFinish (checkReadWriteMultipleRegisters pdu)
    (fun fields => ⟨txnId, unit, .readWriteMultipleRegisters fields.1.readAddress
      fields.1.readQuantity fields.1.writeAddress fields.2⟩)
    (fun fields => app.readWriteMultipleRegistersRequest txnId unit fields.1.readAddress
      fields.1.readQuantity fields.1.writeAddress fields.2 (zeroBuffer _))
    (fun fields =>
      finishWordRead tt txnId unit .readWriteMultipleRegisters fields.1.readQuantity)

/-- `handle_read_fifo_queue_request`. -/
def handleReadFifoQueueRequest : AppM σ Adu :=
  checkCallFinish pdu.fifoPointer
    (fun pointerAddress => ⟨txnId, unit, .readFifoQueue pointerAddress⟩)
    (fun pointerAddress => app.readFifoQueueRequest txnId unit pointerAddress (zeroBuffer _))
    (fun _ => finishFifo tt txnId unit)

/-- `handle_read_exception_status_request`. -/
def handleReadExceptionStatusRequest : AppM σ Adu :=
  checkCallFinish (checkSerialEmpty tt pdu)
    (fun _ => ⟨txnId, unit, .readExceptionStatus⟩)
    (fun _ => app.readExceptionStatusRequest txnId unit)
    (fun _ answer => do
      let status ← lift answer
      lift (buildSingleByteResponse tt txnId unit .readExceptionStatus status))

/-- `handle_get_comm_event_counter_request`. -/
def handleGetCommEventCounterRequest (eventCount : UInt16) : AppM σ Adu :=
  checkCallFinish (checkSerialEmpty tt pdu)
    (fun _ => ⟨txnId, unit, .getCommEventCounter⟩)
    (fun _ => app.getCommEventCounterRequest txnId unit)
    (fun _ => finishCommEventCounter tt txnId unit eventCount)

/-- `handle_get_comm_event_log_request`. -/
def handleGetCommEventLogRequest (eventCount messageCount : UInt16) (eventLog : List UInt8) :
    AppM σ Adu :=
  checkCallFinish (checkSerialEmpty tt pdu)
    (fun _ => ⟨txnId, unit, .getCommEventLog⟩)
    (fun _ => app.getCommEventLogRequest txnId unit (zeroBuffer _))
    (fun _ => finishCommEventLog tt txnId unit eventCount messageCount eventLog)

/-- `handle_report_server_id_request`. -/
def handleReportServerIdRequest : AppM σ Adu :=
  checkCallFinish (checkSerialEmpty tt pdu)
    (fun _ => ⟨txnId, unit, .reportServerId⟩)
    (fun _ => app.reportServerIdRequest txnId unit (zeroBuffer _))
    (fun _ => finishReportServerId tt txnId unit)

/-- `handle_encapsulated_interface_transport_request`. -/
def handleEncapsulatedInterfaceTransportRequest : AppM σ Adu :=
  checkCallFinish (checkReadDeviceIdentification pdu)
    (fun ids => ⟨txnId, unit, .readDeviceIdentification ids.1 ids.2⟩)
    (fun ids => app.readDeviceIdentificationRequest txnId unit ids.1 ids.2 (zeroBuffer _))
    (fun ids => finishReadDeviceIdentification tt txnId unit ids.1)

/-- The checks and pushes FC14 makes with one sub-request's answer. -/
def appendFileRecord (sub : FileRecordReadSubRequest)
    (answer : Except MbusError UInt8 × Buffer 252) (payload : HVec UInt8 maxPduDataLen) :
    Fallible (HVec UInt8 maxPduDataLen) := do
  let written ← lift answer.1
  let expectedDataLen := sub.recordLength.toNat * 2
  guardErr (written.toNat != expectedDataLen || expectedDataLen > 252) .invalidByteCount
  guardErr (1 + expectedDataLen > 255) .invalidByteCount
  guardErr (payload.length + (1 + (1 + expectedDataLen)) > maxPduDataLen - 1)
    .fileReadPduOverflow
  let payload ← lift (payload.pushOr (UInt8.ofNat (1 + expectedDataLen)) .bufferTooSmall)
  let payload ← lift (payload.pushOr fileRecordRefType .bufferTooSmall)
  let record ← slice answer.2.toList 0 written.toNat
  lift (payload.extendOr record .bufferTooSmall)

/-- The loop of FC14. The output buffer is cleared once, before the first sub-request. -/
def readFileRecordLoop : List FileRecordReadSubRequest → HVec UInt8 maxPduDataLen → Buffer 252 →
    AppM σ (HVec UInt8 maxPduDataLen)
  | [], payload, _ => pure payload
  | sub :: rest, payload, appOut => do
    EffM.lift (guardErr (recordOverflow sub.recordNumber sub.recordLength) .invalidAddress)
    let answer ← call
      ⟨txnId, unit, .readFileRecord sub.fileNumber sub.recordNumber sub.recordLength⟩
      (app.readFileRecordRequest txnId unit sub.fileNumber sub.recordNumber sub.recordLength
        appOut)
    let payload ← EffM.lift (appendFileRecord sub answer payload)
    readFileRecordLoop rest payload answer.2

/-- `handle_read_file_record_request`. -/
def handleReadFileRecordRequest : AppM σ Adu := do
  let subRequests ← EffM.lift pdu.fileRecordReadSubRequests
  let payload ← readFileRecordLoop app txnId unit subRequests.toList .empty (zeroBuffer _)
  EffM.lift (lift (buildFileRecordReadResponse tt txnId unit payload.toList))

/-- The words of one FC15 sub-request, in the registers left by the one before. -/
def writeFileRecordWords (sub : FileRecordWriteSubRequest) (registers : List UInt16) :
    Fallible (List UInt16 × List UInt16) := do
  guardErr (recordOverflow sub.recordNumber sub.recordLength) .invalidAddress
  guardErr (sub.recordDataBytes.length != sub.recordLength.toNat * 2) .invalidByteCount
  let registers ← overwriteWords registers sub.recordDataBytes
  let words ← slice registers 0 sub.recordLength.toNat
  pure (registers, words)

/-- The loop of FC15. -/
def writeFileRecordLoop : List FileRecordWriteSubRequest → List UInt16 → AppM σ Unit
  | [], _ => pure ()
  | sub :: rest, registers => do
    let (registers, words) ← EffM.lift (writeFileRecordWords sub registers)
    let answer ← call
      ⟨txnId, unit, .writeFileRecord sub.fileNumber sub.recordNumber sub.recordLength words⟩
      (app.writeFileRecordRequest txnId unit sub.fileNumber sub.recordNumber sub.recordLength
        words)
    EffM.lift (lift answer)
    writeFileRecordLoop rest registers

/-- `handle_write_file_record_request`; the registers are a `[0u16; 126]`. -/
def handleWriteFileRecordRequest : AppM σ Adu := do
  let subRequests ← EffM.lift pdu.fileRecordWriteSubRequests
  writeFileRecordLoop app txnId unit subRequests.toList (List.replicate 126 0)
  EffM.lift (lift (buildFileRecordWriteEchoResponse tt txnId unit pdu.data.toList))

/-- The handlers of the function codes that access data: FC01 to FC06, FC0F, FC10, FC14 to FC18. -/
def dataAccessHandler (fc : FunctionCode) : Option (AppM σ Adu) :=
  match fc with
  | .readCoils => some (handleReadCoilsRequest app tt txnId unit pdu)
  | .readDiscreteInputs => some (handleReadDiscreteInputsRequest app tt txnId unit pdu)
  | .readHoldingRegisters => some (handleReadHoldingRegistersRequest app tt txnId unit pdu)
  | .readInputRegisters => some (handleReadInputRegistersRequest app tt txnId unit pdu)
  | .writeSingleCoil => some (handleWriteSingleCoilRequest app tt txnId unit pdu)
  | .writeSingleRegister => some (handleWriteSingleRegisterRequest app tt txnId unit pdu)
  | .writeMultipleCoils => some (handleWriteMultipleCoilsRequest app tt txnId unit pdu)
  | .writeMultipleRegisters => some (handleWriteMultipleRegistersRequest app tt txnId unit pdu)
  | .maskWriteRegister => some (handleMaskWriteRegisterRequest app tt txnId unit pdu)
  | .readWriteMultipleRegisters =>
    some (handleReadWriteMultipleRegistersRequest app tt txnId unit pdu)
  | .readFifoQueue => some (handleReadFifoQueueRequest app tt txnId unit pdu)
  | .readFileRecord => some (handleReadFileRecordRequest app tt txnId unit pdu)
  | .writeFileRecord => some (handleWriteFileRecordRequest app tt txnId unit pdu)
  | _ => none

end Handlers

end ModbusRs
