import ModbusRs.Library.Outcome

/-!
# Basic types of the protocol core

Errors, exception codes, function codes, transport types and unit addresses of `mbus-core`.
`Features` collects the build switches that change what the modelled code computes.
-/

namespace ModbusRs

/-- Cargo features and profile switches the modelled code depends on. -/
class Features where
  /-- `serial-ascii`: internal buffers hold 513 instead of 260 bytes. -/
  serialAscii : Bool
  /-- `diagnostics-stats`: the server keeps its own communication counters. -/
  diagnosticsStats : Bool
  /-- `overflow-checks`: `+`, `-` and `*` panic on overflow instead of wrapping. -/
  overflowChecks : Bool

/-- A release build without optional features. -/
abbrev Features.minimal : Features := ⟨false, false, false⟩

/-- `ExceptionCode`. -/
inductive ExceptionCode where
  | illegalFunction
  | illegalDataAddress
  | illegalDataValue
  | serverDeviceFailure
  | gatewayPathUnavailable
  | gatewayTargetDeviceFailedToRespond
  deriving DecidableEq, Repr

/-- `code as u8`. -/
def ExceptionCode.toByte : ExceptionCode → UInt8
  | illegalFunction => 0x01
  | illegalDataAddress => 0x02
  | illegalDataValue => 0x03
  | serverDeviceFailure => 0x04
  | gatewayPathUnavailable => 0x0A
  | gatewayTargetDeviceFailedToRespond => 0x0B

/-- `MbusError`. -/
inductive MbusError where
  | parseError
  | basicParseError
  | timeout
  | modbusException (code : UInt8)
  | ioError
  | unexpected
  | connectionLost
  | unsupportedFunction (code : UInt8)
  | reservedSubFunction (code : UInt16)
  | invalidPduLength
  | invalidAduLength
  | connectionFailed
  | connectionClosed
  | bufferTooSmall
  | bufferLenMissmatch
  | sendFailed
  | invalidAddress
  | invalidOffset
  | tooManyRequests
  | invalidFunctionCode
  | noRetriesLeft
  | tooManyFileReadSubRequests
  | fileReadPduOverflow
  | unexpectedResponse
  | invalidTransport
  | invalidSlaveAddress
  | checksumError
  | invalidConfiguration
  | invalidNumOfExpectedRsps
  | invalidDataLen
  | invalidQuantity
  | invalidValue
  | invalidAndMask
  | invalidOrMask
  | invalidByteCount
  | invalidDeviceIdentification
  | invalidDeviceIdCode
  | invalidMeiType
  | invalidBroadcastAddress
  | broadcastNotAllowed
  | framingError
  deriving DecidableEq, Repr

/-- A routine that returns `Result<T, MbusError>` or panics. -/
abbrev Fallible (α : Type) := Outcome MbusError α

/-- `FunctionCode`. The `default` variant is the placeholder for an unset code. -/
inductive FunctionCode where
  | default
  | readCoils
  | readDiscreteInputs
  | writeSingleCoil
  | writeMultipleCoils
  | readHoldingRegisters
  | readInputRegisters
  | writeSingleRegister
  | writeMultipleRegisters
  | maskWriteRegister
  | readWriteMultipleRegisters
  | readFifoQueue
  | readFileRecord
  | writeFileRecord
  | readExceptionStatus
  | diagnostics
  | getCommEventCounter
  | getCommEventLog
  | reportServerId
  | encapsulatedInterfaceTransport
  | readCoilsException
  | readDiscreteInputsException
  | readHoldingRegistersException
  | readInputRegistersException
  | writeSingleCoilException
  | writeSingleRegisterException
  | readExceptionStatusException
  | diagnosticsException
  | getCommEventCounterException
  | getCommEventLogException
  | writeMultipleCoilsException
  | writeMultipleRegistersException
  | reportServerIdException
  | readFileRecordException
  | writeFileRecordException
  | maskWriteRegisterException
  | readWriteMultipleRegistersException
  | readFifoQueueException
  | encapsulatedInterfaceTransportException
  deriving DecidableEq, Repr

namespace FunctionCode

/-- `function_code as u8`. -/
def toByte : FunctionCode → UInt8
  | .default => 0x00
  | readCoils => 0x01
  | readDiscreteInputs => 0x02
  | readHoldingRegisters => 0x03
  | readInputRegisters => 0x04
  | writeSingleCoil => 0x05
  | writeSingleRegister => 0x06
  | readExceptionStatus => 0x07
  | diagnostics => 0x08
  | getCommEventCounter => 0x0B
  | getCommEventLog => 0x0C
  | writeMultipleCoils => 0x0F
  | writeMultipleRegisters => 0x10
  | reportServerId => 0x11
  | readFileRecord => 0x14
  | writeFileRecord => 0x15
  | maskWriteRegister => 0x16
  | readWriteMultipleRegisters => 0x17
  | readFifoQueue => 0x18
  | encapsulatedInterfaceTransport => 0x2B
  | readCoilsException => 0x81
  | readDiscreteInputsException => 0x82
  | readHoldingRegistersException => 0x83
  | readInputRegistersException => 0x84
  | writeSingleCoilException => 0x85
  | writeSingleRegisterException => 0x86
  | readExceptionStatusException => 0x87
  | diagnosticsException => 0x88
  | getCommEventCounterException => 0x8B
  | getCommEventLogException => 0x8C
  | writeMultipleCoilsException => 0x8F
  | writeMultipleRegistersException => 0x90
  | reportServerIdException => 0x91
  | readFileRecordException => 0x94
  | writeFileRecordException => 0x95
  | maskWriteRegisterException => 0x96
  | readWriteMultipleRegistersException => 0x97
  | readFifoQueueException => 0x98
  | encapsulatedInterfaceTransportException => 0xAB

/-- `FunctionCode::try_from`. -/
def tryFrom (value : UInt8) : Except MbusError FunctionCode :=
  match value.toNat with
  | 0x01 => .ok readCoils
  | 0x02 => .ok readDiscreteInputs
  | 0x03 => .ok readHoldingRegisters
  | 0x04 => .ok readInputRegisters
  | 0x05 => .ok writeSingleCoil
  | 0x06 => .ok writeSingleRegister
  | 0x07 => .ok readExceptionStatus
  | 0x08 => .ok diagnostics
  | 0x0B => .ok getCommEventCounter
  | 0x0C => .ok getCommEventLog
  | 0x0F => .ok writeMultipleCoils
  | 0x10 => .ok writeMultipleRegisters
  | 0x11 => .ok reportServerId
  | 0x14 => .ok readFileRecord
  | 0x15 => .ok writeFileRecord
  | 0x16 => .ok maskWriteRegister
  | 0x17 => .ok readWriteMultipleRegisters
  | 0x18 => .ok readFifoQueue
  | 0x2B => .ok encapsulatedInterfaceTransport
  | 0x81 => .ok readCoilsException
  | 0x82 => .ok readDiscreteInputsException
  | 0x83 => .ok readHoldingRegistersException
  | 0x84 => .ok readInputRegistersException
  | 0x85 => .ok writeSingleCoilException
  | 0x86 => .ok writeSingleRegisterException
  | 0x87 => .ok readExceptionStatusException
  | 0x88 => .ok diagnosticsException
  | 0x8B => .ok getCommEventCounterException
  | 0x8C => .ok getCommEventLogException
  | 0x8F => .ok writeMultipleCoilsException
  | 0x90 => .ok writeMultipleRegistersException
  | 0x91 => .ok reportServerIdException
  | 0x94 => .ok readFileRecordException
  | 0x95 => .ok writeFileRecordException
  | 0x96 => .ok maskWriteRegisterException
  | 0x97 => .ok readWriteMultipleRegistersException
  | 0x98 => .ok readFifoQueueException
  | 0xAB => .ok encapsulatedInterfaceTransportException
  | _ => .error (.unsupportedFunction value)

/-- `exception_code_for_error`. -/
def exceptionCodeForError (_ : FunctionCode) (error : MbusError) : ExceptionCode :=
  match error with
  | .invalidAddress | .invalidOffset => .illegalDataAddress
  | .invalidDataLen | .parseError | .basicParseError | .invalidPduLength => .illegalDataAddress
  | .invalidQuantity | .invalidValue | .invalidByteCount | .invalidAndMask | .invalidOrMask
  | .invalidDeviceIdCode => .illegalDataValue
  | .invalidFunctionCode | .unsupportedFunction _ | .reservedSubFunction _ | .invalidMeiType
  | .broadcastNotAllowed | .invalidBroadcastAddress => .illegalFunction
  | _ => .serverDeviceFailure

/-- `exception_response`. -/
def exceptionResponse : FunctionCode → Option FunctionCode
  | readCoils => some readCoilsException
  | readDiscreteInputs => some readDiscreteInputsException
  | readHoldingRegisters => some readHoldingRegistersException
  | readInputRegisters => some readInputRegistersException
  | writeSingleCoil => some writeSingleCoilException
  | writeSingleRegister => some writeSingleRegisterException
  | readExceptionStatus => some readExceptionStatusException
  | diagnostics => some diagnosticsException
  | getCommEventCounter => some getCommEventCounterException
  | getCommEventLog => some getCommEventLogException
  | writeMultipleCoils => some writeMultipleCoilsException
  | writeMultipleRegisters => some writeMultipleRegistersException
  | reportServerId => some reportServerIdException
  | readFileRecord => some readFileRecordException
  | writeFileRecord => some writeFileRecordException
  | maskWriteRegister => some maskWriteRegisterException
  | readWriteMultipleRegisters => some readWriteMultipleRegistersException
  | readFifoQueue => some readFifoQueueException
  | encapsulatedInterfaceTransport => some encapsulatedInterfaceTransportException
  | _ => none

/-- The codes of requests and normal responses: those with an exception counterpart. -/
def IsPlain (fc : FunctionCode) : Prop := fc.exceptionResponse ≠ none

instance (fc : FunctionCode) : Decidable fc.IsPlain := inferInstanceAs (Decidable (_ ≠ _))

/-- A property of all bytes can be checked byte by byte. -/
lemma forall_byte {P : UInt8 → Prop} (h : ∀ n < 256, P (UInt8.ofNat n)) (b : UInt8) : P b := by
  have hb := h b.toNat b.toNat_lt
  rwa [UInt8.ofNat_toNat] at hb

lemma tryFrom_toByte (fc : FunctionCode) (h : fc ≠ .default) : tryFrom fc.toByte = .ok fc := by
  cases fc <;> first | rfl | exact absurd rfl h

lemma toByte_of_tryFrom {b : UInt8} {fc : FunctionCode} (h : tryFrom b = .ok fc) :
    fc.toByte = b := by
  have hall : ∀ n < 256, ∀ fc, tryFrom (UInt8.ofNat n) = .ok fc → fc.toByte = UInt8.ofNat n := by
    intro n hn fc
    have hn' : (UInt8.ofNat n).toNat = n := UInt8.toNat_ofNat_of_lt hn
    unfold tryFrom
    rw [hn']
    split <;> intro h <;> first | (cases h; rfl) | cases h
  exact forall_byte (P := fun b => ∀ fc, tryFrom b = .ok fc → fc.toByte = b) hall b fc h

lemma exceptionResponse_toByte {fc exc : FunctionCode} (h : fc.exceptionResponse = some exc) :
    exc.toByte = fc.toByte ||| 0x80 := by
  cases fc <;> cases h <;> rfl

lemma toByte_lt_of_isPlain {fc : FunctionCode} (h : fc.IsPlain) : fc.toByte < 0x80 := by
  cases fc <;> first | decide | exact absurd rfl h

lemma isPlain_of_tryFrom {b : UInt8} {fc : FunctionCode} (h : tryFrom b = .ok fc)
    (hb : b < 0x80) : fc.IsPlain := by
  have hbyte := toByte_of_tryFrom h
  subst hbyte
  cases fc <;> first | decide | (revert hb; decide) | cases h

end FunctionCode

/-- `DiagnosticSubFunction`. -/
inductive DiagnosticSubFunction where
  | returnQueryData
  | restartCommunicationsOption
  | returnDiagnosticRegister
  | changeAsciiInputDelimiter
  | forceListenOnlyMode
  | clearCountersAndDiagnosticRegister
  | returnBusMessageCount
  | returnBusCommunicationErrorCount
  | returnBusExceptionErrorCount
  | returnServerMessageCount
  | returnServerNoResponseCount
  | returnServerNakCount
  | returnServerBusyCount
  | returnBusCharacterOverrunCount
  | clearOverrunCounterAndFlag
  deriving DecidableEq, Repr

/-- `DiagnosticSubFunction::try_from`. -/
def DiagnosticSubFunction.tryFrom (value : UInt16) : Except MbusError DiagnosticSubFunction :=
  match value.toNat with
  | 0x0000 => .ok returnQueryData
  | 0x0001 => .ok restartCommunicationsOption
  | 0x0002 => .ok returnDiagnosticRegister
  | 0x0003 => .ok changeAsciiInputDelimiter
  | 0x0004 => .ok forceListenOnlyMode
  | 0x000A => .ok clearCountersAndDiagnosticRegister
  | 0x000B => .ok returnBusMessageCount
  | 0x000C => .ok returnBusCommunicationErrorCount
  | 0x000D => .ok returnBusExceptionErrorCount
  | 0x000E => .ok returnServerMessageCount
  | 0x000F => .ok returnServerNoResponseCount
  | 0x0010 => .ok returnServerNakCount
  | 0x0011 => .ok returnServerBusyCount
  | 0x0012 => .ok returnBusCharacterOverrunCount
  | 0x0014 => .ok clearOverrunCounterAndFlag
  | _ => .error (.reservedSubFunction value)

/-- `EncapsulatedInterfaceType`, without the `Err` placeholder that `try_from` never gives. -/
inductive EncapsulatedInterfaceType where
  | canopenGeneralReference
  | readDeviceIdentification
  deriving DecidableEq, Repr

/-- `EncapsulatedInterfaceType::try_from`. -/
def EncapsulatedInterfaceType.tryFrom (value : UInt8) :
    Except MbusError EncapsulatedInterfaceType :=
  match value.toNat with
  | 0x0D => .ok canopenGeneralReference
  | 0x0E => .ok readDeviceIdentification
  | _ => .error (.reservedSubFunction value.toUInt16)

/-- `SerialMode`. -/
inductive SerialMode where
  | rtu
  | ascii
  deriving DecidableEq, Repr

/-- `TransportType`. -/
inductive TransportType where
  | stdTcp
  | stdSerial (mode : SerialMode)
  | customTcp
  | customSerial (mode : SerialMode)
  deriving DecidableEq, Repr

namespace TransportType

/-- `is_tcp_type`. -/
def isTcpType : TransportType → Bool
  | stdTcp | customTcp => true
  | _ => false

/-- `is_serial_type`. -/
def isSerialType : TransportType → Bool
  | stdSerial _ | customSerial _ => true
  | _ => false

lemma isSerialType_eq (t : TransportType) : t.isSerialType = !t.isTcpType := by
  cases t <;> rfl

end TransportType

/-- `UnitIdOrSlaveAddr(u8)`: what its constructors let through. -/
structure UnitIdOrSlaveAddr where
  get : UInt8
  valid : get ≤ 247 ∨ get = 255
  deriving DecidableEq, Repr

namespace UnitIdOrSlaveAddr

/-- `UnitIdOrSlaveAddr::new`. -/
def new (address : UInt8) : Except MbusError UnitIdOrSlaveAddr :=
  if h : 1 ≤ address ∧ address ≤ 247 then .ok ⟨address, Or.inl h.2⟩
  else if address = 0 then .error .invalidBroadcastAddress
  else .error .invalidSlaveAddress

lemma valid_one : (1 : UInt8) ≤ 247 ∨ (1 : UInt8) = 255 := by decide

/-- `new_broadcast_address`. -/
def newBroadcastAddress : UnitIdOrSlaveAddr := ⟨0, by decide⟩

/-- `is_broadcast`. -/
def isBroadcast (u : UnitIdOrSlaveAddr) : Bool := u.get = 0

/-- `Default::default`: an address no `new` returns. -/
def default : UnitIdOrSlaveAddr := ⟨255, by decide⟩

/-- `try_from(value).unwrap_or(default())`, and `from_u8`. -/
def fromU8 (value : UInt8) : UnitIdOrSlaveAddr :=
  match new value with
  | .ok u => u
  | .error _ => default

@[ext] lemma ext {u v : UnitIdOrSlaveAddr} (h : u.get = v.get) : u = v := by
  cases u
  cases v
  cases h
  rfl

lemma fromU8_get (value : UInt8) :
    (fromU8 value).get = if 1 ≤ value ∧ value ≤ 247 then value else 255 := by
  unfold fromU8 new
  by_cases h : 1 ≤ value ∧ value ≤ 247
  · rw [dif_pos h, if_pos h]
  · rw [dif_neg h, if_neg h]
    split <;> rename_i heq <;> split at heq <;> first | rfl | cases heq

end UnitIdOrSlaveAddr

/-- `TransportError`. -/
inductive TransportError where
  | connectionFailed
  | connectionClosed
  | ioError
  | timeout
  | bufferTooSmall
  | unexpected
  | invalidConfiguration
  | framingError
  deriving DecidableEq, Repr

/-- `From<TransportError> for MbusError`. -/
def TransportError.toMbusError : TransportError → MbusError
  | connectionFailed => .connectionFailed
  | connectionClosed => .connectionClosed
  | ioError => .ioError
  | timeout => .timeout
  | bufferTooSmall => .bufferTooSmall
  | unexpected => .unexpected
  | invalidConfiguration => .invalidConfiguration
  | framingError => .framingError

end ModbusRs
