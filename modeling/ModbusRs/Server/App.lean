import ModbusRs.Core.Adu
import ModbusRs.Library.Callback

/-!
# The application behind a server

`ModbusAppHandler` with the request callbacks of its traits. A callback that fills an output
buffer receives the buffer and returns what it has made of it. `AppCall` is the label under
which a callback is recorded; the `on_exception` notification is no request and leaves no record.
-/

namespace ModbusRs

/-- The encoded frame type `Vec<u8, MAX_ADU_FRAME_LEN>`. -/
abbrev Adu [Features] := HVec UInt8 maxAduFrameLen

/-- A `&mut [u8]` of fixed length. -/
abbrev Buffer (n : Nat) := Vector UInt8 n

/-- `[0u8; n]`. -/
def zeroBuffer (n : Nat) : Buffer n := Vector.replicate n 0

/-- The request a callback is made for, with its arguments. -/
inductive AppRequest where
  | readCoils (address quantity : UInt16)
  | readDiscreteInputs (address quantity : UInt16)
  | readMultipleHoldingRegisters (address quantity : UInt16)
  | readMultipleInputRegisters (address quantity : UInt16)
  | writeSingleCoil (address : UInt16) (value : Bool)
  | writeMultipleCoils (startingAddress quantity : UInt16) (values : List UInt8)
  | writeSingleRegister (address value : UInt16)
  | writeMultipleRegisters (startingAddress : UInt16) (values : List UInt16)
  | maskWriteRegister (address andMask orMask : UInt16)
  | readWriteMultipleRegisters (readAddress readQuantity writeAddress : UInt16)
      (writeValues : List UInt16)
  | readFifoQueue (pointerAddress : UInt16)
  | readFileRecord (fileNumber recordNumber recordLength : UInt16)
  | writeFileRecord (fileNumber recordNumber recordLength : UInt16) (recordData : List UInt16)
  | readExceptionStatus
  | diagnostics (subFunction : DiagnosticSubFunction) (data : UInt16)
  | getCommEventCounter
  | getCommEventLog
  | reportServerId
  | readDeviceIdentification (readDeviceIdCode startObjectId : UInt8)
  deriving DecidableEq, Repr

/-- One recorded callback. -/
structure AppCall where
  txnId : UInt16
  unit : UnitIdOrSlaveAddr
  request : AppRequest
  deriving DecidableEq, Repr

/-- `ModbusAppHandler` over an application state `σ`. -/
structure ModbusAppHandler (σ : Type) where
  onException : UInt16 → UnitIdOrSlaveAddr → FunctionCode → ExceptionCode → MbusError → σ → σ
  readCoilsRequest : UInt16 → UnitIdOrSlaveAddr → (address quantity : UInt16) → Buffer 252 →
    σ → (Except MbusError UInt8 × Buffer 252) × σ
  writeSingleCoilRequest : UInt16 → UnitIdOrSlaveAddr → (address : UInt16) → (value : Bool) →
    σ → Except MbusError Unit × σ
  writeMultipleCoilsRequest : UInt16 → UnitIdOrSlaveAddr → (startingAddress quantity : UInt16) →
    (values : List UInt8) → σ → Except MbusError Unit × σ
  readDiscreteInputsRequest : UInt16 → UnitIdOrSlaveAddr → (address quantity : UInt16) →
    Buffer 252 → σ → (Except MbusError UInt8 × Buffer 252) × σ
  readMultipleHoldingRegistersRequest : UInt16 → UnitIdOrSlaveAddr →
    (address quantity : UInt16) → Buffer 252 → σ → (Except MbusError UInt8 × Buffer 252) × σ
  writeSingleRegisterRequest : UInt16 → UnitIdOrSlaveAddr → (address value : UInt16) →
    σ → Except MbusError Unit × σ
  writeMultipleRegistersRequest : UInt16 → UnitIdOrSlaveAddr → (startingAddress : UInt16) →
    (values : List UInt16) → σ → Except MbusError Unit × σ
  maskWriteRegisterRequest : UInt16 → UnitIdOrSlaveAddr → (address andMask orMask : UInt16) →
    σ → Except MbusError Unit × σ
  readWriteMultipleRegistersRequest : UInt16 → UnitIdOrSlaveAddr →
    (readAddress readQuantity writeAddress : UInt16) → (writeValues : List UInt16) →
    Buffer 252 → σ → (Except MbusError UInt8 × Buffer 252) × σ
  readMultipleInputRegistersRequest : UInt16 → UnitIdOrSlaveAddr →
    (address quantity : UInt16) → Buffer 252 → σ → (Except MbusError UInt8 × Buffer 252) × σ
  readFifoQueueRequest : UInt16 → UnitIdOrSlaveAddr → (pointerAddress : UInt16) → Buffer 252 →
    σ → (Except MbusError UInt8 × Buffer 252) × σ
  readFileRecordRequest : UInt16 → UnitIdOrSlaveAddr →
    (fileNumber recordNumber recordLength : UInt16) → Buffer 252 →
    σ → (Except MbusError UInt8 × Buffer 252) × σ
  writeFileRecordRequest : UInt16 → UnitIdOrSlaveAddr →
    (fileNumber recordNumber recordLength : UInt16) → (recordData : List UInt16) →
    σ → Except MbusError Unit × σ
  readExceptionStatusRequest : UInt16 → UnitIdOrSlaveAddr → σ → Except MbusError UInt8 × σ
  diagnosticsRequest : UInt16 → UnitIdOrSlaveAddr → DiagnosticSubFunction → (data : UInt16) →
    σ → Except MbusError UInt16 × σ
  getCommEventCounterRequest : UInt16 → UnitIdOrSlaveAddr →
    σ → Except MbusError (UInt16 × UInt16) × σ
  getCommEventLogRequest : UInt16 → UnitIdOrSlaveAddr → Buffer 64 →
    σ → (Except MbusError (UInt16 × UInt16 × UInt16 × UInt8) × Buffer 64) × σ
  reportServerIdRequest : UInt16 → UnitIdOrSlaveAddr → Buffer 250 →
    σ → (Except MbusError (UInt8 × UInt8) × Buffer 250) × σ
  readDeviceIdentificationRequest : UInt16 → UnitIdOrSlaveAddr →
    (readDeviceIdCode startObjectId : UInt8) → Buffer 246 →
    σ → (Except MbusError (UInt8 × UInt8 × Bool × UInt8) × Buffer 246) × σ

/-- A computation of the server that may call its application. -/
abbrev AppM (σ : Type) := CallbackM MbusError AppCall σ

/-- The application of the trait's default methods: every request is refused. -/
def refusingApp : ModbusAppHandler Unit where
  onException _ _ _ _ _ s := s
  readCoilsRequest _ _ _ _ out s := ((.error .invalidFunctionCode, out), s)
  writeSingleCoilRequest _ _ _ _ s := (.error .invalidFunctionCode, s)
  writeMultipleCoilsRequest _ _ _ _ _ s := (.error .invalidFunctionCode, s)
  readDiscreteInputsRequest _ _ _ _ out s := ((.error .invalidFunctionCode, out), s)
  readMultipleHoldingRegistersRequest _ _ _ _ out s := ((.error .invalidFunctionCode, out), s)
  writeSingleRegisterRequest _ _ _ _ s := (.error .invalidFunctionCode, s)
  writeMultipleRegistersRequest _ _ _ _ s := (.error .invalidFunctionCode, s)
  maskWriteRegisterRequest _ _ _ _ _ s := (.error .invalidFunctionCode, s)
  readWriteMultipleRegistersRequest _ _ _ _ _ _ out s := ((.error .invalidFunctionCode, out), s)
  readMultipleInputRegistersRequest _ _ _ _ out s := ((.error .invalidFunctionCode, out), s)
  readFifoQueueRequest _ _ _ out s := ((.error .invalidFunctionCode, out), s)
  readFileRecordRequest _ _ _ _ _ out s := ((.error .invalidFunctionCode, out), s)
  writeFileRecordRequest _ _ _ _ _ _ s := (.error .invalidFunctionCode, s)
  readExceptionStatusRequest _ _ s := (.error .invalidFunctionCode, s)
  diagnosticsRequest _ _ _ _ s := (.error .invalidFunctionCode, s)
  getCommEventCounterRequest _ _ s := (.error .invalidFunctionCode, s)
  getCommEventLogRequest _ _ out s := ((.error .invalidFunctionCode, out), s)
  reportServerIdRequest _ _ out s := ((.error .invalidFunctionCode, out), s)
  readDeviceIdentificationRequest _ _ _ _ out s := ((.error .invalidFunctionCode, out), s)

end ModbusRs
