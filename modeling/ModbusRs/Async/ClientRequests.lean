import ModbusRs.Core.Models
import ModbusRs.Server.App

/-!
# Requests and responses of the async client

`ClientRequest` with its encoder and `ClientResponse` with its decoder, over all function-code
features. Every request of the source carries the unit, which stands beside the body here.
Channels are told apart by numbers.
-/

namespace ModbusRs

open Outcome

/-- `mei_type as u8`; `none` stands for the `Err` placeholder. -/
def meiTypeToByte : Option EncapsulatedInterfaceType → UInt8
  | some .canopenGeneralReference => 0x0D
  | some .readDeviceIdentification => 0x0E
  | none => 0x00

/-- `sub_function as u16`. -/
def DiagnosticSubFunction.toU16 : DiagnosticSubFunction → UInt16
  | returnQueryData => 0x0000
  | restartCommunicationsOption => 0x0001
  | returnDiagnosticRegister => 0x0002
  | changeAsciiInputDelimiter => 0x0003
  | forceListenOnlyMode => 0x0004
  | clearCountersAndDiagnosticRegister => 0x000A
  | returnBusMessageCount => 0x000B
  | returnBusCommunicationErrorCount => 0x000C
  | returnBusExceptionErrorCount => 0x000D
  | returnServerMessageCount => 0x000E
  | returnServerNoResponseCount => 0x000F
  | returnServerNakCount => 0x0010
  | returnServerBusyCount => 0x0011
  | returnBusCharacterOverrunCount => 0x0012
  | clearOverrunCounterAndFlag => 0x0014

/-- The variants of `ClientRequest`. -/
inductive ClientRequestBody where
  | readMultipleCoils (address quantity : UInt16)
  | writeSingleCoil (address : UInt16) (value : Bool)
  | writeMultipleCoils (address : UInt16) (coils : Coils)
  | readHoldingRegisters (address quantity : UInt16)
  | readInputRegisters (address quantity : UInt16)
  | writeSingleRegister (address value : UInt16)
  | writeMultipleRegisters (address : UInt16) (values : HVec UInt16 maxPduDataLen)
  | readWriteMultipleRegisters (readAddress readQuantity writeAddress : UInt16)
      (writeValues : HVec UInt16 maxPduDataLen)
  | maskWriteRegister (address andMask orMask : UInt16)
  | readDiscreteInputs (address quantity : UInt16)
  | readFifoQueue (address : UInt16)
  | readFileRecord (subRequest : SubRequest)
  | writeFileRecord (subRequest : SubRequest)
  | readDeviceIdentification (readDeviceIdCode : ReadDeviceIdCode) (objectId : ObjectId)
  | encapsulatedInterfaceTransport (meiType : Option EncapsulatedInterfaceType)
      (data : HVec UInt8 maxPduDataLen)
  | readExceptionStatus
  | diagnostics (subFunction : DiagnosticSubFunction) (data : HVec UInt16 maxPduDataLen)
  | getCommEventCounter
  | getCommEventLog
  | reportServerId
  deriving DecidableEq

/-- `ClientRequest`. -/
structure ClientRequest where
  unit : UnitIdOrSlaveAddr
  body : ClientRequestBody
  deriving DecidableEq

/-- `ClientResponse`. -/
inductive ClientResponse where
  | coils (coils : Coils)
  | holdingRegisters (registers : HoldingRegisters)
  | inputRegisters (registers : InputRegisters)
  | singleRegisterWrite (address value : UInt16)
  | maskWriteRegister
  | discreteInputs (inputs : DiscreteInputs)
  | fifoQueue (queue : FifoQueue)
  | fileRecordRead (records : HVec SubRequestParams maxSubRequestsPerPdu)
  | fileRecordWrite
  | deviceIdentification (response : DeviceIdentificationResponse)
  | encapsulatedInterfaceTransport (meiType : EncapsulatedInterfaceType)
      (data : HVec UInt8 maxPduDataLen)
  | exceptionStatus (status : UInt8)
  | diagnosticsData (subFunction : DiagnosticSubFunction) (data : HVec UInt16 maxPduDataLen)
  | commEventCounter (status eventCount : UInt16)
  | commEventLog (status eventCount messageCount : UInt16) (events : HVec UInt8 maxPduDataLen)
  | reportServerId (data : HVec UInt8 maxPduDataLen)
  deriving DecidableEq

/-! ### Encoding -/

section Encode

variable [Features]

/-- `values.iter().flat_map(|v| v.to_be_bytes()).collect()` into a vector of frame size. -/
def collectBePairs (values : List UInt16) : Fallible (HVec UInt8 maxAduFrameLen) :=
  unwrap (HVec.empty.extendFromSlice (values.flatMap toBeBytes))

lemma collectBePairs_eq_ok {values : List UInt16} (h : 2 * values.length ≤ maxAduFrameLen) :
    ∃ pairs, collectBePairs values = .ok pairs ∧ pairs.toList = values.flatMap toBeBytes := by
  have hlen : (values.flatMap toBeBytes).length = 2 * values.length := flatMap_toBeBytes_length values
  have hfits : (HVec.empty : HVec UInt8 maxAduFrameLen).toList.length +
      (values.flatMap toBeBytes).length ≤ maxAduFrameLen := by
    rw [HVec.empty_toList, List.length_nil, Nat.zero_add, hlen]
    exact h
  rw [collectBePairs, HVec.extendFromSlice_of_le hfits, unwrap_some]
  exact ⟨_, rfl, rfl⟩

lemma collectBePairs_eq_panic {values : List UInt16} (h : maxAduFrameLen < 2 * values.length) :
    collectBePairs values = .panic := by
  have hlen : (values.flatMap toBeBytes).length = 2 * values.length := flatMap_toBeBytes_length values
  rw [collectBePairs, HVec.extendFromSlice_eq_none.mpr]
  · rfl
  · rw [HVec.empty_toList, List.length_nil, Nat.zero_add, hlen]
    exact h

/-- `(lo..=hi).contains(&quantity)` fails. -/
def outside (lo hi quantity : UInt16) : Bool := !(lo ≤ quantity && quantity ≤ hi)

omit [Features] in
lemma outside_eq_false {lo hi quantity : UInt16} :
    outside lo hi quantity = false ↔
      lo.toNat ≤ quantity.toNat ∧ quantity.toNat ≤ hi.toNat := by
  rw [outside, Bool.not_eq_false', Bool.and_eq_true, decide_eq_true_iff, decide_eq_true_iff,
    UInt16.le_iff_toNat_le, UInt16.le_iff_toNat_le]

/-- The PDU of a request, and whether it is sent with the transaction id: the functions for
serial lines pass 0 instead. -/
def ClientRequestBody.toPdu : ClientRequestBody → Fallible Pdu
  | .readMultipleCoils address quantity => do
    guardErr (outside 1 2000 quantity) .invalidQuantity
    lift (Pdu.buildReadWindow .readCoils address quantity)
  | .writeSingleCoil address value =>
    lift (Pdu.buildWriteSingleU16 .writeSingleCoil address (if value then 0xFF00 else 0x0000))
  | .writeMultipleCoils address coils => do
    guardErr (outside 1 1968 coils.quantity) .invalidPduLength
    let values ← slice coils.values.toList 0 ((coils.quantity.toNat + 7) / 8)
    lift (Pdu.buildWriteMultiple .writeMultipleCoils address coils.quantity values)
  | .readHoldingRegisters address quantity => do
    guardErr (outside 1 125 quantity) .invalidQuantity
    lift (Pdu.buildReadWindow .readHoldingRegisters address quantity)
  | .readInputRegisters address quantity => do
    guardErr (outside 1 125 quantity) .invalidQuantity
    lift (Pdu.buildReadWindow .readInputRegisters address quantity)
  | .writeSingleRegister address value =>
    lift (Pdu.buildWriteSingleU16 .writeSingleRegister address value)
  | .writeMultipleRegisters address values => do
    let quantity := UInt16.ofNat values.length
    guardErr (outside 1 123 quantity) .invalidQuantity
    let bytePairs ← collectBePairs values.toList
    lift (Pdu.buildWriteMultiple .writeMultipleRegisters address quantity bytePairs.toList)
  | .readWriteMultipleRegisters readAddress readQuantity writeAddress writeValues => do
    let writeQuantity := UInt16.ofNat writeValues.length
    let bytePairs ← collectBePairs writeValues.toList
    lift (Pdu.buildReadWriteMultiple readAddress readQuantity writeAddress writeQuantity
      bytePairs.toList)
  | .maskWriteRegister address andMask orMask =>
    lift (Pdu.buildMaskWriteRegister address andMask orMask)
  | .readDiscreteInputs address quantity => do
    guardErr (outside 1 2000 quantity) .invalidQuantity
    lift (Pdu.buildReadWindow .readDiscreteInputs address quantity)
  | .readFifoQueue address => lift (Pdu.buildU16Payload .readFifoQueue address)
  | .readFileRecord subRequest => do
    let payload ← lift subRequest.toSubReqPduBytes
    pure (Pdu.new .readFileRecord payload)
  | .writeFileRecord subRequest => do
    let payload ← lift subRequest.toSubReqPduBytes
    pure (Pdu.new .writeFileRecord payload)
  | .readDeviceIdentification readDeviceIdCode objectId =>
    lift (Pdu.buildMeiType .encapsulatedInterfaceTransport
      (meiTypeToByte (some .readDeviceIdentification))
      [readDeviceIdCode.toByte, objectId.toByte])
  | .encapsulatedInterfaceTransport meiType data =>
    lift (Pdu.buildMeiType .encapsulatedInterfaceTransport (meiTypeToByte meiType) data.toList)
  | .readExceptionStatus => pure (Pdu.buildEmpty .readExceptionStatus)
  | .diagnostics subFunction data =>
    lift (Pdu.buildSubFunction .diagnostics subFunction.toU16 data.toList)
  | .getCommEventCounter => pure (Pdu.buildEmpty .getCommEventCounter)
  | .getCommEventLog => pure (Pdu.buildEmpty .getCommEventLog)
  | .reportServerId => pure (Pdu.buildEmpty .reportServerId)

end Encode

/-- The functions for serial lines, whose encoders pass 0 for the transaction id. -/
def ClientRequestBody.serialOnly : ClientRequestBody → Bool
  | .readExceptionStatus => true
  | .diagnostics _ _ => true
  | .getCommEventCounter => true
  | .getCommEventLog => true
  | .reportServerId => true
  | _ => false

/-- The transaction id that a request is encoded with. -/
def ClientRequest.sentTxnId (request : ClientRequest) (txnId : UInt16) : UInt16 :=
  if request.body.serialOnly then 0 else txnId

/-- `encode_request`. -/
def encodeRequest [Features] (txnId : UInt16) (request : ClientRequest)
    (transportType : TransportType) : Fallible (HVec UInt8 maxAduFrameLen) := do
  let pdu ← request.body.toPdu
  lift (compileAduFrame (request.sentTxnId txnId) request.unit.get pdu transportType)

/-! ### Decoding -/

section Decode

variable [Features] (pdu : Pdu)

/-- `decode_read_coils`. -/
def decodeReadCoils : Fallible ClientResponse := do
  let bcp ← pdu.byteCountPayload
  let bitCount := UInt16.ofNat (bcp.byteCount.toNat * 8)
  let coils ← lift (BitBlock.new 0 bitCount)
  let coils ← coils.withValues bcp.payload bitCount
  pure (.coils coils)

/-- `decode_write_single_coil`. -/
def decodeWriteSingleCoil : Fallible ClientResponse := do
  let fields ← pdu.writeSingleU16Fields
  let coils ← lift (BitBlock.new fields.address 1)
  let coils ← coils.setValue fields.address (fields.value == 0xFF00)
  pure (.coils coils)

/-- `decode_write_multiple_coils`. -/
def decodeWriteMultipleCoils : Fallible ClientResponse := do
  let fields ← pdu.readWindow
  let coils ← lift (BitBlock.new fields.address fields.quantity)
  pure (.coils coils)

/-- `decode_read_discrete_inputs`. -/
def decodeReadDiscreteInputs : Fallible ClientResponse := do
  let bcp ← pdu.byteCountPayload
  let bitCount := UInt16.ofNat (bcp.byteCount.toNat * 8)
  let inputs ← lift (BitBlock.new 0 bitCount)
  let inputs ← inputs.withValues bcp.payload bitCount
  pure (.discreteInputs inputs)

/-- The `set_value` loop of `decode_read_holding_registers`. -/
def setRegisters : List UInt16 → UInt16 → HoldingRegisters → Fallible HoldingRegisters
  | [], _, registers => pure registers
  | value :: values, i, registers => do
    let registers ← registers.setValue i value
    setRegisters values (i + 1) registers

/-- `decode_read_holding_registers`. -/
def decodeReadHoldingRegisters : Fallible ClientResponse := do
  let bcp ← pdu.byteCountPayload
  guardErr (bcp.byteCount % 2 != 0) .invalidByteCount
  let registers ← lift (Registers.new 0 (bcp.byteCount.toUInt16 / 2))
  let registers ← setRegisters (beWords bcp.payload) 0 registers
  pure (.holdingRegisters registers)

/-- `decode_read_input_registers`. -/
def decodeReadInputRegisters : Fallible ClientResponse := do
  let bcp ← pdu.byteCountPayload
  guardErr (bcp.byteCount % 2 != 0) .invalidByteCount
  let quantity := bcp.byteCount.toUInt16 / 2
  let values ← copyFront (.replicate maxRegistersPerPdu 0)
    ((beWords bcp.payload).take maxRegistersPerPdu)
  let registers ← lift (Registers.new 0 quantity)
  let front ← slice values.toList 0 quantity.toNat
  let registers ← registers.withValues front quantity
  pure (.inputRegisters registers)

/-- `decode_write_single_register`. -/
def decodeWriteSingleRegister : Fallible ClientResponse := do
  let fields ← pdu.writeSingleU16Fields
  pure (.singleRegisterWrite fields.address fields.value)

/-- `decode_write_multiple_registers`. -/
def decodeWriteMultipleRegisters : Fallible ClientResponse := do
  let fields ← pdu.readWindow
  let registers ← lift (Registers.new fields.address fields.quantity)
  pure (.holdingRegisters registers)

/-- `decode_read_fifo_queue`. -/
def decodeReadFifoQueue : Fallible ClientResponse := do
  let fp ← pdu.fifoPayload
  guardErr (fp.values.length + 2 != fp.fifoByteCount.toNat) .invalidAduLength
  guardErr (fp.fifoByteCount.toNat != 2 + fp.fifoCount.toNat * 2) .parseError
  guardErr ((beWords fp.values).length > maxFifoQueueCountPerPdu) .bufferLenMissmatch
  let values ← copyFront (.replicate maxFifoQueueCountPerPdu 0) (beWords fp.values)
  pure (.fifoQueue ((FifoQueue.new 0).withValues values fp.fifoCount.toNat))

/-- The `while i < bcp.payload.len()` loop of `decode_read_file_record`. -/
def fileRecordLoop (payload : List UInt8) (i : Nat)
    (out : HVec SubRequestParams maxSubRequestsPerPdu) :
    Fallible (HVec SubRequestParams maxSubRequestsPerPdu) :=
  if i < payload.length then do
    guardErr (i + 2 > payload.length) .parseError
    let fileRespLen ← index payload i
    let refType ← index payload (i + 1)
    guardErr (refType != fileRecordRefType) .parseError
    guardErr (fileRespLen < 1) .parseError
    guardErr (i + 1 + fileRespLen.toNat > payload.length) .parseError
    let rawData ← slice payload (i + 2) (i + 2 + (fileRespLen.toNat - 1))
    guardErr (rawData.length % 2 != 0) .parseError
    let recordData ← lift (HVec.empty.extendOr (beWords rawData) .bufferTooSmall)
    let out ← lift (out.pushOr
      ⟨0, 0, UInt16.ofNat recordData.length, some recordData⟩ .bufferTooSmall)
    fileRecordLoop payload (i + (1 + fileRespLen.toNat)) out
  else pure out
termination_by payload.length - i

/-- `decode_read_file_record`. -/
def decodeReadFileRecord : Fallible ClientResponse := do
  let bcp ← pdu.byteCountPayload
  let records ← fileRecordLoop bcp.payload 0 .empty
  pure (.fileRecordRead records)

/-- `decode_encapsulated_interface_transport`. -/
def decodeEncapsulatedInterfaceTransport : Fallible ClientResponse := do
  let mtp ← pdu.meiTypePayload
  if mtp.meiTypeByte = 0x0E then do
    let fields ← pdu.readDeviceIdFields
    let readDeviceIdCode ← lift (ReadDeviceIdCode.tryFrom fields.readDeviceIdCodeByte)
    let conformityLevel ← lift (ConformityLevel.tryFrom fields.conformityLevelByte)
    pure (.deviceIdentification ⟨readDeviceIdCode, conformityLevel, fields.moreFollows,
      .ofByte fields.nextObjectIdByte, fields.objectsData, fields.numberOfObjects⟩)
  else do
    let meiType ← lift (EncapsulatedInterfaceType.tryFrom mtp.meiTypeByte)
    let data ← lift (HVec.empty.extendOr mtp.payload .bufferTooSmall)
    pure (.encapsulatedInterfaceTransport meiType data)

/-- `decode_read_exception_status`. -/
def decodeReadExceptionStatus : Fallible ClientResponse := do
  let status ← pdu.singleBytePayload
  pure (.exceptionStatus status)

/-- `decode_diagnostics`. -/
def decodeDiagnostics : Fallible ClientResponse := do
  let sfp ← pdu.subFunctionPayload
  let subFunction ← lift (DiagnosticSubFunction.tryFrom sfp.subFunction)
  let data ← lift (HVec.empty.extendOr (beWords sfp.payload) .bufferLenMissmatch)
  pure (.diagnosticsData subFunction data)

/-- `decode_get_comm_event_counter`. -/
def decodeGetCommEventCounter : Fallible ClientResponse := do
  let pair ← pdu.u16PairFields
  pure (.commEventCounter pair.first pair.second)

/-- `decode_get_comm_event_log`. -/
def decodeGetCommEventLog : Fallible ClientResponse := do
  let bcp ← pdu.byteCountPayload
  guardErr (bcp.byteCount < 6) .invalidByteCount
  let status ← u16At bcp.payload 0
  let eventCount ← u16At bcp.payload 2
  let messageCount ← u16At bcp.payload 4
  let events ← lift (HVec.empty.extendOr (bcp.payload.drop 6) .bufferTooSmall)
  pure (.commEventLog status eventCount messageCount events)

/-- `decode_report_server_id`. -/
def decodeReportServerId : Fallible ClientResponse := do
  let bcp ← pdu.byteCountPayload
  let data ← lift (HVec.empty.extendOr bcp.payload .bufferTooSmall)
  pure (.reportServerId data)

/-- `decode_pdu`. -/
def decodePdu : Fallible ClientResponse :=
  match pdu.functionCode with
  | .readCoils => decodeReadCoils pdu
  | .writeSingleCoil => decodeWriteSingleCoil pdu
  | .writeMultipleCoils => decodeWriteMultipleCoils pdu
  | .readDiscreteInputs => decodeReadDiscreteInputs pdu
  | .readHoldingRegisters => decodeReadHoldingRegisters pdu
  | .readInputRegisters => decodeReadInputRegisters pdu
  | .writeSingleRegister => decodeWriteSingleRegister pdu
  | .writeMultipleRegisters => decodeWriteMultipleRegisters pdu
  | .readWriteMultipleRegisters => decodeReadHoldingRegisters pdu
  | .maskWriteRegister => pure .maskWriteRegister
  | .readFifoQueue => decodeReadFifoQueue pdu
  | .readFileRecord => decodeReadFileRecord pdu
  | .writeFileRecord => pure .fileRecordWrite
  | .encapsulatedInterfaceTransport => decodeEncapsulatedInterfaceTransport pdu
  | .readExceptionStatus => decodeReadExceptionStatus pdu
  | .diagnostics => decodeDiagnostics pdu
  | .getCommEventCounter => decodeGetCommEventCounter pdu
  | .getCommEventLog => decodeGetCommEventLog pdu
  | .reportServerId => decodeReportServerId pdu
  | _ => .err .invalidFunctionCode

/-- `decode_response`. -/
def decodeResponse (frame : List UInt8) (transportType : TransportType) :
    Fallible (UInt16 × UnitIdOrSlaveAddr × Except MbusError ClientResponse) := do
  let message ← decompileAduFrame frame transportType
  match message.pdu.errorCode with
  | some exceptionCode =>
    pure (message.transactionId, message.unitIdOrSlaveAddr, .error (.modbusException exceptionCode))
  | none => do
    let response ← decodePdu message.pdu
    pure (message.transactionId, message.unitIdOrSlaveAddr, .ok response)

/-- `result.unwrap_or_else(|_| raw)`. -/
def orElseRaw (result : Fallible ClientResponse) (raw : ClientResponse) : Fallible ClientResponse :=
  match result with
  | .ok response => .ok response
  | .err _ => .ok raw
  | .panic => .panic

/-- `fix_up_response`. -/
def fixUpResponse (response : ClientResponse) (original : ClientRequestBody) :
    Fallible ClientResponse :=
  match response, original with
  | .coils raw, .readMultipleCoils address quantity =>
    orElseRaw (do
      let coils ← lift (BitBlock.new address quantity)
      let coils ← coils.withValues raw.values.toList quantity
      pure (.coils coils)) (.coils raw)
  | .discreteInputs raw, .readDiscreteInputs address quantity =>
    orElseRaw (do
      let inputs ← lift (BitBlock.new address quantity)
      let values ← slice raw.values.toList 0 ((raw.quantity.toNat + 7) / 8)
      let inputs ← inputs.withValues values quantity
      pure (.discreteInputs inputs)) (.discreteInputs raw)
  | .holdingRegisters raw, .readHoldingRegisters address quantity =>
    orElseRaw (fixUpRegisters raw address quantity .holdingRegisters) (.holdingRegisters raw)
  | .inputRegisters raw, .readInputRegisters address quantity =>
    orElseRaw (fixUpRegisters raw address quantity .inputRegisters) (.inputRegisters raw)
  | .holdingRegisters raw, .readWriteMultipleRegisters readAddress readQuantity _ _ =>
    orElseRaw (fixUpRegisters raw readAddress readQuantity .holdingRegisters)
      (.holdingRegisters raw)
  | .fifoQueue raw, .readFifoQueue address => do
    let queue ← slice raw.queue.toList 0 raw.length
    let values ← copyFront (.replicate maxFifoQueueCountPerPdu 0) queue
    pure (.fifoQueue ((FifoQueue.new address).withValues values raw.length))
  | response, _ => pure response
where
  /-- The registers of the response under the address and quantity of the request. -/
  fixUpRegisters (raw : HoldingRegisters) (address quantity : UInt16)
      (wrap : HoldingRegisters → ClientResponse) : Fallible ClientResponse := do
    let registers ← lift (Registers.new address quantity)
    let front ← slice raw.values.toList 0 quantity.toNat
    let registers ← registers.withValues front quantity
    pure (wrap registers)

end Decode

end ModbusRs
