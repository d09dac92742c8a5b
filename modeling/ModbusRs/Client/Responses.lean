import ModbusRs.Async.ClientRequests

/-!
# Response handlers of the sync client

Every request is queued with the metadata and the handler of its response. A handler parses the
response and tells the application what it found, or that the request has failed. `none` stands
for a handler that returns without a callback.
-/

namespace ModbusRs

open Outcome

/-- `OperationMeta`. -/
inductive OperationMeta where
  | other
  | single (address value : UInt16)
  | multiple (address quantity : UInt16)
  | masking (address andMask orMask : UInt16)
  | diag (deviceIdCode : ReadDeviceIdCode) (encapType : Option EncapsulatedInterfaceType)
  deriving DecidableEq

namespace OperationMeta

/-- `address`. -/
def address : OperationMeta → UInt16
  | .single address _ => address
  | .multiple address _ => address
  | .masking address _ _ => address
  | _ => 0

/-- `value` and `single_value`. -/
def value : OperationMeta → UInt16
  | .single _ value => value
  | _ => 0

/-- `quantity`. -/
def quantity : OperationMeta → UInt16
  | .single _ _ => 1
  | .multiple _ quantity => quantity
  | _ => 0

/-- `and_mask`. -/
def andMask : OperationMeta → UInt16
  | .masking _ andMask _ => andMask
  | _ => 0

/-- `or_mask`. -/
def orMask : OperationMeta → UInt16
  | .masking _ _ orMask => orMask
  | _ => 0

/-- `is_single`. -/
def isSingle : OperationMeta → Bool
  | .single _ _ => true
  | _ => false

/-- `device_id_code`. -/
def deviceIdCode : OperationMeta → ReadDeviceIdCode
  | .diag deviceIdCode _ => deviceIdCode
  | _ => .err

/-- `encap_type`. -/
def encapType : OperationMeta → Option EncapsulatedInterfaceType
  | .diag _ encapType => encapType
  | _ => none

end OperationMeta

/-- The callbacks of the application's response traits, and `request_failed`. -/
inductive ResponseCallback where
  | readCoils (coils : Coils)
  | readSingleCoil (address : UInt16) (value : Bool)
  | writeSingleCoil (address : UInt16) (value : Bool)
  | writeMultipleCoils (address quantity : UInt16)
  | readMultipleDiscreteInputs (inputs : DiscreteInputs)
  | readSingleDiscreteInput (address : UInt16) (value : Bool)
  | readMultipleHoldingRegisters (registers : HoldingRegisters)
  | readSingleHoldingRegister (address value : UInt16)
  | readMultipleInputRegisters (registers : InputRegisters)
  | readSingleInputRegister (address value : UInt16)
  | writeSingleRegister (address value : UInt16)
  | writeMultipleRegisters (address quantity : UInt16)
  | readWriteMultipleRegisters (registers : HoldingRegisters)
  | maskWriteRegister
  | readFifoQueue (fifoQueue : FifoQueue)
  | readFileRecord (data : HVec SubRequestParams maxSubRequestsPerPdu)
  | writeFileRecord
  | readDeviceIdentification (response : DeviceIdentificationResponse)
  | encapsulatedInterfaceTransport (meiType : EncapsulatedInterfaceType) (data : List UInt8)
  | readExceptionStatus (status : UInt8)
  | diagnostics (subFunction : DiagnosticSubFunction) (data : List UInt16)
  | getCommEventCounter (status eventCount : UInt16)
  | getCommEventLog (status eventCount messageCount : UInt16) (events : List UInt8)
  | reportServerId (data : List UInt8)
  | requestFailed (error : MbusError)
  deriving DecidableEq

/-! ### Parsers -/

namespace ResponseParser

variable (pdu : Pdu)

/-- The function code of a response, with the error of a mismatch. -/
def checkFunctionCode (fc : FunctionCode) (error : MbusError) : Fallible Unit :=
  guardErr (pdu.functionCode != fc) error

/-- `parse_read_coils_response`. -/
def parseReadCoilsResponse (expectedQuantity : UInt16) : Fallible (HVec UInt8 maxCoilBytes) := do
  checkFunctionCode pdu .readCoils .invalidFunctionCode
  let bcp ← pdu.byteCountPayload
  guardErr (bcp.byteCount.toNat != (expectedQuantity.toNat + 7) / 8) .invalidQuantity
  lift (HVec.empty.extendOr bcp.payload .bufferLenMissmatch)

/-- `handle_coil_response`. -/
def handleCoilResponse (expectedQuantity fromAddress : UInt16) : Fallible Coils := do
  let coilResponse ← parseReadCoilsResponse pdu expectedQuantity
  let coils ← lift (BitBlock.new fromAddress expectedQuantity)
  coils.withValues coilResponse.toList expectedQuantity

/-- `parse_write_single_coil_response`. -/
def parseWriteSingleCoilResponse (expectedAddress : UInt16) (expectedValue : Bool) :
    Fallible Unit := do
  checkFunctionCode pdu .writeSingleCoil .invalidFunctionCode
  let fields ← pdu.writeSingleU16Fields
  guardErr (fields.address != expectedAddress) .invalidAddress
  guardErr (fields.value != if expectedValue then 0xFF00 else 0x0000) .invalidValue

/-- The parsers of FC0F and FC10. -/
def parseWriteMultipleResponse (fc : FunctionCode) (expectedAddress expectedQuantity : UInt16) :
    Fallible Unit := do
  checkFunctionCode pdu fc .parseError
  let fields ← pdu.readWindow
  guardErr (fields.address != expectedAddress) .invalidAddress
  guardErr (fields.quantity != expectedQuantity) .invalidQuantity

/-- `parse_write_multiple_coils_response`. -/
def parseWriteMultipleCoilsResponse (expectedAddress expectedQuantity : UInt16) : Fallible Unit :=
  parseWriteMultipleResponse pdu .writeMultipleCoils expectedAddress expectedQuantity

/-- `parse_write_multiple_registers_response`. -/
def parseWriteMultipleRegistersResponse (expectedAddress expectedQuantity : UInt16) :
    Fallible Unit :=
  parseWriteMultipleResponse pdu .writeMultipleRegisters expectedAddress expectedQuantity

/-- `parse_read_discrete_inputs_response`. -/
def parseReadDiscreteInputsResponse (fromAddress expectedQuantity : UInt16) :
    Fallible DiscreteInputs := do
  checkFunctionCode pdu .readDiscreteInputs .invalidFunctionCode
  let bcp ← pdu.byteCountPayload
  guardErr (bcp.byteCount.toNat != (expectedQuantity.toNat + 7) / 8) .invalidQuantity
  let inputs ← copyFront (.replicate maxCoilBytes 0) bcp.payload
  let discreteInputs ← lift (BitBlock.new fromAddress expectedQuantity)
  discreteInputs.withValues inputs.toList expectedQuantity

/-- `parse_write_single_register_response`. -/
def parseWriteSingleRegisterResponse (expectedAddress expectedValue : UInt16) :
    Fallible Unit := do
  checkFunctionCode pdu .writeSingleRegister .parseError
  let fields ← pdu.writeSingleU16Fields
  guardErr (fields.address != expectedAddress) .invalidAddress
  guardErr (fields.value != expectedValue) .invalidValue

/-- `parse_mask_write_register_response`. -/
def parseMaskWriteRegisterResponse (expectedAddress expectedAndMask expectedOrMask : UInt16) :
    Fallible Unit := do
  checkFunctionCode pdu .maskWriteRegister .invalidFunctionCode
  let fields ← pdu.maskWriteRegisterFields
  guardErr (fields.address != expectedAddress) .invalidAddress
  guardErr (fields.andMask != expectedAndMask) .invalidAndMask
  guardErr (fields.orMask != expectedOrMask) .invalidOrMask

/-- `parse_read_registers_response`. -/
def parseReadRegistersResponse [Features] (expectedFc : FunctionCode) (expectedQuantity : UInt16) :
    Fallible (HVec UInt16 maxRegistersPerPdu) := do
  checkFunctionCode pdu expectedFc .invalidFunctionCode
  let bcp ← pdu.byteCountPayload
  -- `expected_quantity * 2`, on 16 bits
  let expectedByteCount ← addU16 expectedQuantity expectedQuantity
  guardErr (bcp.byteCount.toNat != expectedByteCount.toNat) .invalidQuantity
  lift (HVec.empty.extendOr (beWords bcp.payload) .bufferLenMissmatch)

/-- `parse_read_fifo_queue_response`. -/
def parseReadFifoQueueResponse : Fallible (Vector UInt16 maxFifoQueueCountPerPdu × Nat) := do
  checkFunctionCode pdu .readFifoQueue .invalidFunctionCode
  let fp ← pdu.fifoPayload
  guardErr (fp.values.length + 2 != fp.fifoByteCount.toNat) .invalidAduLength
  guardErr (fp.fifoByteCount.toNat != 2 + fp.fifoCount.toNat * 2) .parseError
  guardErr (fp.fifoCount.toNat > maxFifoQueueCountPerPdu) .bufferLenMissmatch
  guardErr ((beWords fp.values).length > maxFifoQueueCountPerPdu) .bufferLenMissmatch
  let values ← copyFront (.replicate maxFifoQueueCountPerPdu 0) (beWords fp.values)
  guardErr ((beWords fp.values).length != fp.fifoCount.toNat) .parseError
  pure (values, fp.fifoCount.toNat)

/-- `parse_read_file_record_response`; its loop is that of the async client. -/
def parseReadFileRecordResponse : Fallible (HVec SubRequestParams maxSubRequestsPerPdu) := do
  checkFunctionCode pdu .readFileRecord .parseError
  let bcp ← pdu.byteCountPayload
  fileRecordLoop bcp.payload 0 .empty

/-- The `while i < bcp.payload.len()` loop of `parse_write_file_record_response`. -/
def writeFileRecordEchoLoop (payload : List UInt8) (i : Nat) : Fallible Unit :=
  if i < payload.length then do
    guardErr (i + subReqParamByteLen > payload.length) .invalidPduLength
    let refType ← index payload i
    guardErr (refType != fileRecordRefType) .parseError
    let recordLen ← u16At payload (i + 5)
    let subReqLen := subReqParamByteLen + recordLen.toNat * 2
    guardErr (i + subReqLen > payload.length) .parseError
    writeFileRecordEchoLoop payload (i + (7 + recordLen.toNat * 2))
  else pure ()
termination_by payload.length - i

/-- `parse_write_file_record_response`. -/
def parseWriteFileRecordResponse : Fallible Unit := do
  checkFunctionCode pdu .writeFileRecord .parseError
  let bcp ← pdu.byteCountPayload
  writeFileRecordEchoLoop bcp.payload 0

/-- `parse_read_device_identification_response`. -/
def parseReadDeviceIdentificationResponse (deviceIdCode : ReadDeviceIdCode) :
    Fallible DeviceIdentificationResponse := do
  checkFunctionCode pdu .encapsulatedInterfaceTransport .invalidFunctionCode
  let fields ← pdu.readDeviceIdFields
  guardErr (fields.meiTypeByte != 0x0E) .invalidMeiType
  let readDeviceIdCode ← lift (ReadDeviceIdCode.tryFrom fields.readDeviceIdCodeByte)
  let conformityLevel ← lift (ConformityLevel.tryFrom fields.conformityLevelByte)
  guardErr (readDeviceIdCode != deviceIdCode) .invalidDeviceIdentification
  pure ⟨readDeviceIdCode, conformityLevel, fields.moreFollows, .ofByte fields.nextObjectIdByte,
    fields.objectsData, fields.numberOfObjects⟩

/-- `parse_encapsulated_interface_transport_response`. -/
def parseEncapsulatedInterfaceTransportResponse :
    Fallible (EncapsulatedInterfaceType × HVec UInt8 maxPduDataLen) := do
  checkFunctionCode pdu .encapsulatedInterfaceTransport .invalidFunctionCode
  let mtp ← pdu.meiTypePayload
  let meiType ← lift (EncapsulatedInterfaceType.tryFrom mtp.meiTypeByte)
  let responseData ← lift (HVec.empty.extendOr mtp.payload .bufferTooSmall)
  pure (meiType, responseData)

/-- `parse_read_exception_status_response`. -/
def parseReadExceptionStatusResponse : Fallible UInt8 := do
  checkFunctionCode pdu .readExceptionStatus .invalidFunctionCode
  pdu.singleBytePayload

/-- `parse_diagnostics_response`. -/
def parseDiagnosticsResponse : Fallible (UInt16 × HVec UInt16 125) := do
  checkFunctionCode pdu .diagnostics .invalidFunctionCode
  let sfp ← pdu.subFunctionPayload
  let values ← lift (HVec.empty.extendOr (beWords sfp.payload) .bufferLenMissmatch)
  pure (sfp.subFunction, values)

/-- `parse_get_comm_event_counter_response`. -/
def parseGetCommEventCounterResponse : Fallible U16PairFields := do
  checkFunctionCode pdu .getCommEventCounter .invalidFunctionCode
  pdu.u16PairFields

/-- `parse_get_comm_event_log_response`. -/
def parseGetCommEventLogResponse :
    Fallible (UInt16 × UInt16 × UInt16 × HVec UInt8 maxPduDataLen) := do
  checkFunctionCode pdu .getCommEventLog .invalidFunctionCode
  let bcp ← pdu.byteCountPayload
  guardErr (bcp.byteCount < 6) .invalidByteCount
  let status ← u16At bcp.payload 0
  let eventCount ← u16At bcp.payload 2
  let messageCount ← u16At bcp.payload 4
  let events ← lift (HVec.empty.extendOr (bcp.payload.drop 6) .bufferTooSmall)
  pure (status, eventCount, messageCount, events)

/-- `parse_report_server_id_response`. -/
def parseReportServerIdResponse : Fallible (HVec UInt8 maxPduDataLen) := do
  checkFunctionCode pdu .reportServerId .invalidFunctionCode
  let bcp ← pdu.byteCountPayload
  lift (HVec.empty.extendOr bcp.payload .bufferTooSmall)

end ResponseParser

/-!
### Service functions

They check the function code once more, in front of the parsers.
-/

namespace ServiceDecompiler

open ResponseParser

variable (pdu : Pdu)

/-- `handle_write_single_coil_rsp`. -/
def handleWriteSingleCoilRsp (address : UInt16) (value : Bool) : Fallible Unit := do
  checkFunctionCode pdu .writeSingleCoil .invalidFunctionCode
  (parseWriteSingleCoilResponse pdu address value).mapErr fun _ => .parseError

/-- `handle_write_multiple_coils_rsp`. -/
def handleWriteMultipleCoilsRsp (address quantity : UInt16) : Fallible Unit := do
  checkFunctionCode pdu .writeMultipleCoils .invalidFunctionCode
  (parseWriteMultipleCoilsResponse pdu address quantity).mapErr fun _ => .parseError

/-- `handle_write_single_register_rsp`. -/
def handleWriteSingleRegisterRsp (address value : UInt16) : Fallible Unit := do
  checkFunctionCode pdu .writeSingleRegister .invalidFunctionCode
  parseWriteSingleRegisterResponse pdu address value

/-- `handle_write_multiple_registers_rsp`. -/
def handleWriteMultipleRegistersRsp (expectedAddress expectedQuantity : UInt16) :
    Fallible Unit := do
  checkFunctionCode pdu .writeMultipleRegisters .invalidFunctionCode
  parseWriteMultipleRegistersResponse pdu expectedAddress expectedQuantity

/-- `handle_mask_write_register_rsp`. -/
def handleMaskWriteRegisterRsp (address andMask orMask : UInt16) : Fallible Unit := do
  checkFunctionCode pdu .maskWriteRegister .invalidFunctionCode
  parseMaskWriteRegisterResponse pdu address andMask orMask

/-- `handle_read_fifo_queue_rsp`. -/
def handleReadFifoQueueRsp : Fallible FifoQueue := do
  checkFunctionCode pdu .readFifoQueue .invalidFunctionCode
  let (values, length) ← parseReadFifoQueueResponse pdu
  pure ((FifoQueue.new 0).withValues values length)

/-- `handle_read_file_record_rsp`. -/
def handleReadFileRecordRsp : Fallible (HVec SubRequestParams maxSubRequestsPerPdu) := do
  checkFunctionCode pdu .readFileRecord .invalidFunctionCode
  parseReadFileRecordResponse pdu

/-- `handle_write_file_record_rsp`. -/
def handleWriteFileRecordRsp : Fallible Unit := do
  checkFunctionCode pdu .writeFileRecord .invalidFunctionCode
  parseWriteFileRecordResponse pdu

/-- `handle_read_coil_rsp`. -/
def handleReadCoilRsp (expectedQuantity fromAddress : UInt16) : Fallible Coils := do
  checkFunctionCode pdu .readCoils .invalidFunctionCode
  handleCoilResponse pdu expectedQuantity fromAddress

/-- `handle_read_discrete_inputs_response`. -/
def handleReadDiscreteInputsResponse (fromAddress expectedQuantity : UInt16) :
    Fallible DiscreteInputs := do
  checkFunctionCode pdu .readDiscreteInputs .invalidFunctionCode
  parseReadDiscreteInputsResponse pdu fromAddress expectedQuantity

/-- The three functions that read registers. -/
def handleReadRegistersRsp [Features] (fc : FunctionCode) (expectedQuantity fromAddress : UInt16) :
    Fallible HoldingRegisters := do
  checkFunctionCode pdu fc .invalidFunctionCode
  let values ← parseReadRegistersResponse pdu fc expectedQuantity
  let registers ← lift (Registers.new fromAddress expectedQuantity)
  registers.withValues values.toList (UInt16.ofNat values.length)

/-- `handle_read_holding_register_rsp`. -/
def handleReadHoldingRegisterRsp [Features] (expectedQuantity fromAddress : UInt16) :
    Fallible HoldingRegisters :=
  handleReadRegistersRsp pdu .readHoldingRegisters expectedQuantity fromAddress

/-- `handle_read_input_register_rsp`. -/
def handleReadInputRegisterRsp [Features] (expectedQuantity fromAddress : UInt16) :
    Fallible InputRegisters :=
  handleReadRegistersRsp pdu .readInputRegisters expectedQuantity fromAddress

/-- `handle_read_write_multiple_registers_rsp`. -/
def handleReadWriteMultipleRegistersRsp [Features] (expectedQuantity fromAddress : UInt16) :
    Fallible HoldingRegisters :=
  handleReadRegistersRsp pdu .readWriteMultipleRegisters expectedQuantity fromAddress

end ServiceDecompiler

/-! ### Handlers -/

section Handlers

open ResponseParser ServiceDecompiler

variable [Features] (operationMeta : OperationMeta) (pdu : Pdu)

/-- `handle_read_coils_response`. -/
def handleReadCoilsResponse : Fallible (Option ResponseCallback) := do
  let coilRsp ← handleReadCoilRsp pdu operationMeta.quantity operationMeta.address
  if operationMeta.isSingle then
    match coilRsp.value operationMeta.address with
    | .ok coilValue => pure (some (.readSingleCoil operationMeta.address coilValue))
    | .err _ => pure none
    | .panic => .panic
  else pure (some (.readCoils coilRsp))

/-- `handle_write_single_coil_response`. -/
def handleWriteSingleCoilResponse : Fallible (Option ResponseCallback) := do
  let address := operationMeta.address
  let value := operationMeta.value != 0
  (handleWriteSingleCoilRsp pdu address value).mapErr fun _ => .parseError
  pure (some (.writeSingleCoil address value))

/-- `handle_write_multiple_coils_response`. -/
def handleWriteMultipleCoilsResponse : Fallible (Option ResponseCallback) := do
  let address := operationMeta.address
  let quantity := operationMeta.quantity
  (handleWriteMultipleCoilsRsp pdu address quantity).mapErr fun _ => .parseError
  pure (some (.writeMultipleCoils address quantity))

/-- `handle_read_discrete_inputs_response`. -/
def handleReadDiscreteInputs : Fallible (Option ResponseCallback) := do
  let discreteInputs ←
    handleReadDiscreteInputsResponse pdu operationMeta.address operationMeta.quantity
  if operationMeta.isSingle then do
    let value ← (discreteInputs.value operationMeta.address).mapErr fun _ => .unexpected
    pure (some (.readSingleDiscreteInput operationMeta.address value))
  else pure (some (.readMultipleDiscreteInputs discreteInputs))

/-- `handle_read_holding_registers_response`. -/
def handleReadHoldingRegistersResponse : Fallible (Option ResponseCallback) := do
  let registerRsp ← handleReadHoldingRegisterRsp pdu operationMeta.quantity operationMeta.address
  if operationMeta.isSingle then
    let value := registerRsp.values.toList.head?.getD 0
    pure (some (.readSingleHoldingRegister operationMeta.address value))
  else pure (some (.readMultipleHoldingRegisters registerRsp))

/-- `handle_read_input_registers_response`. -/
def handleReadInputRegistersResponse : Fallible (Option ResponseCallback) := do
  let registerRsp ← handleReadInputRegisterRsp pdu operationMeta.quantity operationMeta.address
  if operationMeta.isSingle then do
    let value ← registerRsp.value operationMeta.address
    pure (some (.readSingleInputRegister operationMeta.address value))
  else pure (some (.readMultipleInputRegisters registerRsp))

/-- `handle_write_single_register_response`. -/
def handleWriteSingleRegisterResponse : Fallible (Option ResponseCallback) := do
  let address := operationMeta.address
  let value := operationMeta.value
  (handleWriteSingleRegisterRsp pdu address value).mapErr fun _ => .parseError
  pure (some (.writeSingleRegister address value))

/-- `handle_write_multiple_registers_response`. -/
def handleWriteMultipleRegistersResponse : Fallible (Option ResponseCallback) := do
  let fromAddress := operationMeta.address
  let quantity := operationMeta.quantity
  (handleWriteMultipleRegistersRsp pdu fromAddress quantity).mapErr fun _ => .parseError
  pure (some (.writeMultipleRegisters fromAddress quantity))

/-- `handle_read_write_multiple_registers_response`. -/
def handleReadWriteMultipleRegistersResponse : Fallible (Option ResponseCallback) := do
  let registerRsp ←
    handleReadWriteMultipleRegistersRsp pdu operationMeta.quantity operationMeta.address
  pure (some (.readWriteMultipleRegisters registerRsp))

/-- `handle_mask_write_register_response`. -/
def handleMaskWriteRegisterResponse : Fallible (Option ResponseCallback) := do
  (handleMaskWriteRegisterRsp pdu operationMeta.address operationMeta.andMask
    operationMeta.orMask).mapErr fun _ => .parseError
  pure (some .maskWriteRegister)

/-- `handle_read_fifo_queue_response`. -/
def handleReadFifoQueueResponse : Fallible (Option ResponseCallback) := do
  let registerRsp ← handleReadFifoQueueRsp pdu
  pure (some (.readFifoQueue registerRsp))

/-- `handle_read_file_record_response`. -/
def handleReadFileRecordResponse : Fallible (Option ResponseCallback) := do
  let data ← handleReadFileRecordRsp pdu
  pure (some (.readFileRecord data))

/-- `handle_write_file_record_response`. -/
def handleWriteFileRecordResponse : Fallible (Option ResponseCallback) := do
  (handleWriteFileRecordRsp pdu).mapErr fun _ => .parseError
  pure (some .writeFileRecord)

/-- `handle_read_device_identification_rsp`. -/
def handleReadDeviceIdentificationRsp : Fallible (Option ResponseCallback) := do
  let response ← parseReadDeviceIdentificationResponse pdu operationMeta.deviceIdCode
  pure (some (.readDeviceIdentification response))

/-- `handle_encapsulated_interface_transport_rsp`. -/
def handleEncapsulatedInterfaceTransportRsp : Fallible (Option ResponseCallback) := do
  let (meiType, response) ← parseEncapsulatedInterfaceTransportResponse pdu
  guardErr (some meiType != operationMeta.encapType) .invalidMeiType
  pure (some (.encapsulatedInterfaceTransport meiType response.toList))

/-- `handle_read_exception_status_rsp`. -/
def handleReadExceptionStatusRsp : Fallible (Option ResponseCallback) := do
  let response ← parseReadExceptionStatusResponse pdu
  pure (some (.readExceptionStatus response))

/-- `handle_diagnostics_rsp`. -/
def handleDiagnosticsRsp : Fallible (Option ResponseCallback) := do
  let response ← parseDiagnosticsResponse pdu
  let subFunction ← lift (DiagnosticSubFunction.tryFrom response.1)
  pure (some (.diagnostics subFunction response.2.toList))

/-- `handle_get_comm_event_counter_rsp`. -/
def handleGetCommEventCounterRsp : Fallible (Option ResponseCallback) := do
  let response ← parseGetCommEventCounterResponse pdu
  pure (some (.getCommEventCounter response.first response.second))

/-- `handle_get_comm_event_log_rsp`. -/
def handleGetCommEventLogRsp : Fallible (Option ResponseCallback) := do
  let (status, eventCount, messageCount, events) ← parseGetCommEventLogResponse pdu
  pure (some (.getCommEventLog status eventCount messageCount events.toList))

/-- `handle_report_server_id_rsp`. -/
def handleReportServerIdRsp : Fallible (Option ResponseCallback) := do
  let response ← parseReportServerIdResponse pdu
  pure (some (.reportServerId response.toList))

end Handlers

/-- The handler pointers of queued requests. -/
inductive ResponseHandler where
  | readCoils
  | writeSingleCoil
  | writeMultipleCoils
  | readDiscreteInputs
  | readHoldingRegisters
  | readInputRegisters
  | writeSingleRegister
  | writeMultipleRegisters
  | readWriteMultipleRegisters
  | maskWriteRegister
  | readFifoQueue
  | readFileRecord
  | writeFileRecord
  | readDeviceIdentification
  | encapsulatedInterfaceTransport
  | readExceptionStatus
  | diagnostics
  | getCommEventCounter
  | getCommEventLog
  | reportServerId
  deriving DecidableEq, Repr

namespace ResponseHandler

variable [Features]

/-- The handler behind the pointer. -/
def parse (handler : ResponseHandler) (operationMeta : OperationMeta) (pdu : Pdu) :
    Fallible (Option ResponseCallback) :=
  match handler with
  | .readCoils => handleReadCoilsResponse operationMeta pdu
  | .writeSingleCoil => handleWriteSingleCoilResponse operationMeta pdu
  | .writeMultipleCoils => handleWriteMultipleCoilsResponse operationMeta pdu
  | .readDiscreteInputs => handleReadDiscreteInputs operationMeta pdu
  | .readHoldingRegisters => handleReadHoldingRegistersResponse operationMeta pdu
  | .readInputRegisters => handleReadInputRegistersResponse operationMeta pdu
  | .writeSingleRegister => handleWriteSingleRegisterResponse operationMeta pdu
  | .writeMultipleRegisters => handleWriteMultipleRegistersResponse operationMeta pdu
  | .readWriteMultipleRegisters => handleReadWriteMultipleRegistersResponse operationMeta pdu
  | .maskWriteRegister => handleMaskWriteRegisterResponse operationMeta pdu
  | .readFifoQueue => handleReadFifoQueueResponse pdu
  | .readFileRecord => handleReadFileRecordResponse pdu
  | .writeFileRecord => handleWriteFileRecordResponse pdu
  | .readDeviceIdentification => handleReadDeviceIdentificationRsp operationMeta pdu
  | .encapsulatedInterfaceTransport => handleEncapsulatedInterfaceTransportRsp operationMeta pdu
  | .readExceptionStatus => handleReadExceptionStatusRsp pdu
  | .diagnostics => handleDiagnosticsRsp pdu
  | .getCommEventCounter => handleGetCommEventCounterRsp pdu
  | .getCommEventLog => handleGetCommEventLogRsp pdu
  | .reportServerId => handleReportServerIdRsp pdu

/-- The callback the handler makes: an error is reported as `request_failed`. -/
def run (handler : ResponseHandler) (operationMeta : OperationMeta) (pdu : Pdu) :
    Outcome Empty (Option ResponseCallback) :=
  match handler.parse operationMeta pdu with
  | .ok callback => .ok callback
  | .err e => .ok (some (.requestFailed e))
  | .panic => .panic

end ResponseHandler

end ModbusRs
