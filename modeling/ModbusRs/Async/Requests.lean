import ModbusRs.Server.Framing

/-!
# Requests and responses of the async server

`ModbusRequest` with its parser and `ModbusResponse` with its encoder. All function-code
features are on, so every function code has its variant; every variant of the source carries
the transaction id and the unit, which stand beside the body here.
-/

namespace ModbusRs

open Outcome

/-- `AsyncServerError`, without the error of binding a socket. -/
inductive AsyncServerError where
  | transport (error : MbusError)
  | connectionClosed
  | framingError (error : MbusError)
  deriving DecidableEq, Repr

/-- `From<MbusError> for AsyncServerError`. -/
def AsyncServerError.ofMbusError : MbusError → AsyncServerError
  | .connectionClosed => .connectionClosed
  | other => .transport other

section Requests

variable [Features]

/-- `AsyncFileRecordWriteSubRequest`. -/
structure AsyncFileRecordWriteSubRequest where
  fileNumber : UInt16
  recordNumber : UInt16
  recordLength : UInt16
  recordData : Adu

/-- The variants of `ModbusRequest`. -/
inductive RequestBody where
  | readCoils (address count : UInt16)
  | writeSingleCoil (address : UInt16) (value : Bool)
  | writeMultipleCoils (address count : UInt16) (data : Adu)
  | readDiscreteInputs (address count : UInt16)
  | readHoldingRegisters (address count : UInt16)
  | writeSingleRegister (address value : UInt16)
  | writeMultipleRegisters (address count : UInt16) (data : Adu)
  | readInputRegisters (address count : UInt16)
  | maskWriteRegister (address andMask orMask : UInt16)
  | readWriteMultipleRegisters (readAddress readCount writeAddress writeCount : UInt16)
      (data : Adu)
  | readExceptionStatus
  | diagnostics (subFunction data : UInt16)
  | getCommEventCounter
  | getCommEventLog
  | reportServerId
  | encapsulatedInterfaceTransport (meiType : UInt8) (data : Adu)
  | readFifoQueue (pointerAddress : UInt16)
  | readFileRecord (subRequests : HVec FileRecordReadSubRequest maxSubRequestsPerPdu)
  | writeFileRecord (subRequests : HVec AsyncFileRecordWriteSubRequest maxSubRequestsPerPdu)
      (rawPduData : HVec UInt8 maxPduDataLen)
  | unknown (functionCode : UInt8)

/-- `ModbusRequest`. -/
structure ModbusRequest where
  txnId : UInt16
  unit : UnitIdOrSlaveAddr
  body : RequestBody

/-- `function_code_byte`. -/
def RequestBody.functionCodeByte : RequestBody → UInt8
  | .readCoils .. => FunctionCode.readCoils.toByte
  | .writeSingleCoil .. => FunctionCode.writeSingleCoil.toByte
  | .writeMultipleCoils .. => FunctionCode.writeMultipleCoils.toByte
  | .readDiscreteInputs .. => FunctionCode.readDiscreteInputs.toByte
  | .readHoldingRegisters .. => FunctionCode.readHoldingRegisters.toByte
  | .writeSingleRegister .. => FunctionCode.writeSingleRegister.toByte
  | .writeMultipleRegisters .. => FunctionCode.writeMultipleRegisters.toByte
  | .readInputRegisters .. => FunctionCode.readInputRegisters.toByte
  | .maskWriteRegister .. => FunctionCode.maskWriteRegister.toByte
  | .readWriteMultipleRegisters .. => FunctionCode.readWriteMultipleRegisters.toByte
  | .readExceptionStatus => FunctionCode.readExceptionStatus.toByte
  | .diagnostics .. => FunctionCode.diagnostics.toByte
  | .getCommEventCounter => FunctionCode.getCommEventCounter.toByte
  | .getCommEventLog => FunctionCode.getCommEventLog.toByte
  | .reportServerId => FunctionCode.reportServerId.toByte
  | .encapsulatedInterfaceTransport .. => FunctionCode.encapsulatedInterfaceTransport.toByte
  | .readFifoQueue .. => FunctionCode.readFifoQueue.toByte
  | .readFileRecord .. => FunctionCode.readFileRecord.toByte
  | .writeFileRecord .. => FunctionCode.writeFileRecord.toByte
  | .unknown functionCode => functionCode

/-- `is_broadcast_write_fc`. -/
def RequestBody.isBroadcastWriteFc (body : RequestBody) : Bool :=
  body.functionCodeByte ∈ [0x05, 0x06, 0x0F, 0x10]

/-! ### Parsing -/

/-- A copy of request bytes, as the parsers make it. -/
def copyBytes (bytes : List UInt8) : Fallible Adu :=
  lift (HVec.empty.extendOr bytes .bufferTooSmall)

/-- The loop of `parse_file_record_request` over the sub-requests of FC15. -/
def copySubRequests : List FileRecordWriteSubRequest →
    HVec AsyncFileRecordWriteSubRequest maxSubRequestsPerPdu →
    Fallible (HVec AsyncFileRecordWriteSubRequest maxSubRequestsPerPdu)
  | [], out => pure out
  | sub :: rest, out => do
    let recordData ← copyBytes sub.recordDataBytes
    copySubRequests rest
      ((out.push ⟨sub.fileNumber, sub.recordNumber, sub.recordLength, recordData⟩).getD out)

/-- The `match fc` of `parse_adu` with the parsers it calls. -/
def parseBody (fc : FunctionCode) (pdu : Pdu) : Fallible RequestBody :=
  match fc with
  | .readCoils => do
    let w ← pdu.readWindow
    pure (.readCoils w.address w.quantity)
  | .writeSingleCoil => do
    let f ← pdu.writeSingleU16Fields
    pure (.writeSingleCoil f.address (f.value == 0xFF00))
  | .writeMultipleCoils => do
    let f ← pdu.writeMultipleFields
    let data ← copyBytes f.values
    pure (.writeMultipleCoils f.address f.quantity data)
  | .readDiscreteInputs => do
    let w ← pdu.readWindow
    pure (.readDiscreteInputs w.address w.quantity)
  | .readHoldingRegisters => do
    let w ← pdu.readWindow
    pure (.readHoldingRegisters w.address w.quantity)
  | .writeSingleRegister => do
    let f ← pdu.writeSingleU16Fields
    pure (.writeSingleRegister f.address f.value)
  | .writeMultipleRegisters => do
    let f ← pdu.writeMultipleFields
    let data ← copyBytes f.values
    pure (.writeMultipleRegisters f.address f.quantity data)
  | .maskWriteRegister => do
    let f ← pdu.maskWriteRegisterFields
    pure (.maskWriteRegister f.address f.andMask f.orMask)
  | .readWriteMultipleRegisters => do
    let f ← pdu.readWriteMultipleFields
    let data ← copyBytes f.writeValues
    pure (.readWriteMultipleRegisters f.readAddress f.readQuantity f.writeAddress f.writeQuantity
      data)
  | .readInputRegisters => do
    let w ← pdu.readWindow
    pure (.readInputRegisters w.address w.quantity)
  | .readExceptionStatus => pure .readExceptionStatus
  | .diagnostics => do
    let (subFunction, data) ← pdu.diagnosticsFields
    pure (.diagnostics subFunction data)
  | .getCommEventCounter => pure .getCommEventCounter
  | .getCommEventLog => pure .getCommEventLog
  | .reportServerId => pure .reportServerId
  | .encapsulatedInterfaceTransport => do
    let mei ← pdu.meiTypePayload
    let data ← copyBytes mei.payload
    pure (.encapsulatedInterfaceTransport mei.meiTypeByte data)
  | .readFifoQueue => do
    let pointerAddress ← pdu.fifoPointer
    pure (.readFifoQueue pointerAddress)
  | .readFileRecord => do
    let subRequests ← pdu.fileRecordReadSubRequests
    pure (.readFileRecord subRequests)
  | .writeFileRecord => do
    let borrowed ← pdu.fileRecordWriteSubRequests
    let subRequests ← copySubRequests borrowed.toList .empty
    pure (.writeFileRecord subRequests pdu.data)
  | other => pure (.unknown other.toByte)

end Requests

/-! ### Responses -/

/-- `ModbusResponse`. -/
inductive ModbusResponse [Features] where
  | byteCountPayload (fc : FunctionCode) (data : Adu)
  | echoCoil (address rawValue : UInt16)
  | echoRegister (address value : UInt16)
  | echoMaskWrite (address andMask orMask : UInt16)
  | echoMultiWrite (fc : FunctionCode) (address count : UInt16)
  | singleByte (fc : FunctionCode) (value : UInt8)
  | diagnosticsEcho (subFunction result : UInt16)
  | twoU16 (fc : FunctionCode) (first second : UInt16)
  | fifoData (data : Adu)
  | readDeviceId (readDeviceIdCode conformityLevel : UInt8) (moreFollows : Bool)
      (nextObjectId : UInt8) (objects : Adu)
  | fileRecordWriteEcho (pduData : HVec UInt8 maxPduDataLen)
  | exception (requestFc : FunctionCode) (code : ExceptionCode)
  | exceptionRaw (fcByte : UInt8) (code : ExceptionCode)
  | noResponse

namespace ModbusResponse

variable [Features]

/-- `ModbusResponse::registers`. -/
def registers (fc : FunctionCode) (values : List UInt16) : ModbusResponse :=
  .byteCountPayload fc (values.foldl
    (fun data v => (data.extendFromSlice (toBeBytes v)).getD data) .empty)

/-- `ModbusResponse::packed_bits`. -/
def packedBits (fc : FunctionCode) (bytes : List UInt8) : ModbusResponse :=
  .byteCountPayload fc (.ofSlice bytes)

/-- `echo_coil`. -/
def ofCoil (address : UInt16) (on : Bool) : ModbusResponse :=
  .echoCoil address (if on then 0xFF00 else 0x0000)

/-- `read_exception_status`. -/
def readExceptionStatus (status : UInt8) : ModbusResponse :=
  .singleByte .readExceptionStatus status

/-- `comm_event_counter`. -/
def commEventCounter (statusWord eventCount : UInt16) : ModbusResponse :=
  .twoU16 .getCommEventCounter statusWord eventCount

/-- `comm_event_log`. -/
def commEventLog (payload : List UInt8) : ModbusResponse :=
  .byteCountPayload .getCommEventLog (.ofSlice payload)

/-- `report_server_id`. -/
def reportServerId (payload : List UInt8) : ModbusResponse :=
  .byteCountPayload .reportServerId (.ofSlice payload)

/-- `fifo_response`. -/
def fifoResponse (data : List UInt8) : ModbusResponse := .fifoData (.ofSlice data)

/-- `read_file_record_response`. -/
def readFileRecordResponse (payload : List UInt8) : ModbusResponse :=
  .byteCountPayload .readFileRecord (.ofSlice payload)

/-! ### Encoding -/

variable (txnId : UInt16) (unit : UnitIdOrSlaveAddr) (tt : TransportType)

/-- `encode_read_device_id`. The object count is that of the sync server, loop for loop. -/
def encodeReadDeviceId (readDeviceIdCode conformityLevel : UInt8) (moreFollows : Bool)
    (nextObjectId : UInt8) (objects : List UInt8) : Fallible Adu := do
  let nObjects ← (countFc2bObjects objects).mapErr fun _ => MbusError.invalidPduLength
  let moreByte : UInt8 := if moreFollows then 0xFF else 0x00
  let header := [readDeviceIdCode, conformityLevel, moreByte, nextObjectId, nObjects]
  guardErr (header.length + objects.length > maxAduFrameLen - 1) .bufferTooSmall
  let meiData ← lift ((HVec.empty : Adu).extendOr header .bufferTooSmall)
  let meiData ← lift (meiData.extendOr objects .bufferTooSmall)
  let pdu ← lift (Pdu.buildMeiType .encapsulatedInterfaceTransport 0x0E meiData.toList)
  lift (compileAduFrame txnId unit.get pdu tt)

/-- `encode_exception`. -/
def encodeException (requestFc : FunctionCode) (code : ExceptionCode) : Except MbusError Adu := do
  let exceptionFc ← match requestFc.exceptionResponse with
    | some exc => .ok exc
    | none => .error .invalidFunctionCode
  let pdu ← Pdu.buildBytePayload exceptionFc code.toByte
  compileAduFrame txnId unit.get pdu tt

/-- `raw_nibble_to_hex`. -/
def rawNibbleToHex (nibble : UInt8) : UInt8 :=
  if nibble < 10 then 0x30 + nibble else 0x41 + nibble - 10

/-- `encode_exception_raw`. -/
def encodeExceptionRaw (fcByte : UInt8) (code : ExceptionCode) : Except MbusError Adu :=
  let payload := [unit.get, fcByte ||| 0x80, code.toByte]
  match tt with
  | .stdTcp | .customTcp => do
    let frame ← (HVec.empty : Adu).extendOr (toBeBytes txnId) .unexpected
    let frame ← frame.extendOr (toBeBytes 0) .unexpected
    let frame ← frame.extendOr (toBeBytes 3) .unexpected
    payload.foldlM (fun (frame : Adu) (byte : UInt8) => frame.pushOr byte .unexpected) frame
  | .stdSerial .rtu | .customSerial .rtu => do
    let frame ← HVec.empty.extendOr payload .unexpected
    frame.extendOr (toLeBytes (crc16 payload)) .unexpected
  | .stdSerial .ascii | .customSerial .ascii => do
    let frame ← (HVec.empty : Adu).pushOr 0x3A .unexpected
    let frame ← (payload ++ [lrc payload]).foldlM (fun (frame : Adu) (byte : UInt8) => do
      let frame ← frame.pushOr (rawNibbleToHex (byte >>> 4)) .unexpected
      frame.pushOr (rawNibbleToHex (byte &&& 0x0F)) .unexpected) frame
    let frame ← frame.pushOr 0x0D .unexpected
    frame.pushOr 0x0A .unexpected

/-- `encode`. -/
def encode : ModbusResponse → Fallible Adu
  | .byteCountPayload fc data => lift do
    let pdu ← Pdu.buildByteCountPayload fc data.toList
    compileAduFrame txnId unit.get pdu tt
  | .echoCoil address rawValue => lift do
    let pdu ← Pdu.buildWriteSingleU16 .writeSingleCoil address rawValue
    compileAduFrame txnId unit.get pdu tt
  | .echoRegister address value => lift do
    let pdu ← Pdu.buildWriteSingleU16 .writeSingleRegister address value
    compileAduFrame txnId unit.get pdu tt
  | .echoMaskWrite address andMask orMask => lift do
    let pdu ← Pdu.buildMaskWriteRegister address andMask orMask
    compileAduFrame txnId unit.get pdu tt
  | .echoMultiWrite fc address count => lift do
    let pdu ← Pdu.buildWriteSingleU16 fc address count
    compileAduFrame txnId unit.get pdu tt
  | .singleByte fc value => lift do
    let pdu ← Pdu.buildBytePayload fc value
    compileAduFrame txnId unit.get pdu tt
  | .diagnosticsEcho subFunction result => lift do
    let pdu ← Pdu.buildDiagnostics subFunction result
    compileAduFrame txnId unit.get pdu tt
  | .twoU16 fc first second => lift do
    let pdu ← Pdu.buildWriteSingleU16 fc first second
    compileAduFrame txnId unit.get pdu tt
  | .fifoData data => lift do
    let pdu ← Pdu.buildFifoPayload data.toList
    compileAduFrame txnId unit.get pdu tt
  | .readDeviceId readDeviceIdCode conformityLevel moreFollows nextObjectId objects =>
    encodeReadDeviceId txnId unit tt readDeviceIdCode conformityLevel moreFollows nextObjectId
      objects.toList
  | .fileRecordWriteEcho pduData =>
    lift (compileAduFrame txnId unit.get (Pdu.new .writeFileRecord pduData) tt)
  | .exception requestFc code => lift (encodeException txnId unit tt requestFc code)
  | .exceptionRaw fcByte code => lift (encodeExceptionRaw txnId unit tt fcByte code)
  | .noResponse => .err .unexpected

end ModbusResponse

end ModbusRs
