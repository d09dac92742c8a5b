import ModbusRs.Client.Requests
import ModbusRs.Client.Responses

/-!
# Request calls of the sync client

Each method of the client builds a PDU and queues the metadata and the handler with which its
response is read.
-/

namespace ModbusRs

open Outcome

/-- The request methods of `ClientServices` with their arguments. -/
inductive ClientCall where
  | readMultipleCoils (address quantity : UInt16)
  | readSingleCoil (address : UInt16)
  | writeSingleCoil (address : UInt16) (value : Bool)
  | writeMultipleCoils (address : UInt16) (values : Coils)
  | readDiscreteInputs (address quantity : UInt16)
  | readSingleDiscreteInput (address : UInt16)
  | readHoldingRegisters (fromAddress quantity : UInt16)
  | readSingleHoldingRegister (address : UInt16)
  | readInputRegisters (address quantity : UInt16)
  | readSingleInputRegister (address : UInt16)
  | writeSingleRegister (address value : UInt16)
  | writeMultipleRegisters (address quantity : UInt16) (values : List UInt16)
  | readWriteMultipleRegisters (readAddress readQuantity writeAddress : UInt16)
      (writeValues : List UInt16)
  | maskWriteRegister (address andMask orMask : UInt16)
  | readFifoQueue (address : UInt16)
  | readFileRecord (subRequest : SubRequest)
  | writeFileRecord (subRequest : SubRequest)
  | readDeviceIdentification (readDeviceIdCode : ReadDeviceIdCode) (objectId : ObjectId)
  | encapsulatedInterfaceTransport (meiType : Option EncapsulatedInterfaceType)
      (data : List UInt8)
  | readExceptionStatus
  | diagnostics (subFunction : DiagnosticSubFunction) (data : List UInt16)
  | getCommEventCounter
  | getCommEventLog
  | reportServerId

namespace ClientCall

open ReqPduCompiler in
/-- The PDU that the method compiles into a frame. -/
def pdu : ClientCall → Fallible Pdu
  | .readMultipleCoils address quantity => readCoilsRequest address quantity
  | .readSingleCoil address => readCoilsRequest address 1
  | .writeSingleCoil address value => writeSingleCoilRequest address value
  | .writeMultipleCoils address values => writeMultipleCoilsRequest address values.quantity values
  | .readDiscreteInputs address quantity => readDiscreteInputsRequest address quantity
  | .readSingleDiscreteInput address => readDiscreteInputsRequest address 1
  | .readHoldingRegisters fromAddress quantity => readHoldingRegistersRequest fromAddress quantity
  | .readSingleHoldingRegister address => readHoldingRegistersRequest address 1
  | .readInputRegisters address quantity => readInputRegistersRequest address quantity
  | .readSingleInputRegister address => readInputRegistersRequest address 1
  | .writeSingleRegister address value => writeSingleRegisterRequest address value
  | .writeMultipleRegisters address quantity values =>
    writeMultipleRegistersRequest address quantity values
  | .readWriteMultipleRegisters readAddress readQuantity writeAddress writeValues =>
    readWriteMultipleRegistersRequest readAddress readQuantity writeAddress writeValues
  | .maskWriteRegister address andMask orMask => maskWriteRegisterRequest address andMask orMask
  | .readFifoQueue address => readFifoQueueRequest address
  | .readFileRecord subRequest => readFileRecordRequest subRequest
  | .writeFileRecord subRequest => writeFileRecordRequest subRequest
  | .readDeviceIdentification readDeviceIdCode objectId =>
    readDeviceIdentificationRequest readDeviceIdCode objectId
  | .encapsulatedInterfaceTransport meiType data =>
    encapsulatedInterfaceTransportRequest meiType data
  | .readExceptionStatus => readExceptionStatusRequest
  | .diagnostics subFunction data => diagnosticsRequest subFunction data
  | .getCommEventCounter => getCommEventCounterRequest
  | .getCommEventLog => getCommEventLogRequest
  | .reportServerId => reportServerIdRequest

/-- The metadata that is queued with the request. -/
def operationMeta : ClientCall → OperationMeta
  | .readMultipleCoils address quantity => .multiple address quantity
  | .readSingleCoil address => .single address 0
  | .writeSingleCoil address value => .single address (if value then 1 else 0)
  | .writeMultipleCoils address values => .multiple address values.quantity
  | .readDiscreteInputs address quantity => .multiple address quantity
  | .readSingleDiscreteInput address => .single address 0
  | .readHoldingRegisters fromAddress quantity => .multiple fromAddress quantity
  | .readSingleHoldingRegister address => .single address 0
  | .readInputRegisters address quantity => .multiple address quantity
  | .readSingleInputRegister address => .single address 0
  | .writeSingleRegister address value => .single address value
  | .writeMultipleRegisters address quantity _ => .multiple address quantity
  | .readWriteMultipleRegisters readAddress readQuantity _ _ => .multiple readAddress readQuantity
  | .maskWriteRegister address andMask orMask => .masking address andMask orMask
  | .readDeviceIdentification readDeviceIdCode _ => .diag readDeviceIdCode none
  | .encapsulatedInterfaceTransport meiType _ => .diag .err meiType
  | _ => .other

/-- The handler that is queued with the request. -/
def handler : ClientCall → ResponseHandler
  | .readMultipleCoils _ _ | .readSingleCoil _ => .readCoils
  | .writeSingleCoil _ _ => .writeSingleCoil
  | .writeMultipleCoils _ _ => .writeMultipleCoils
  | .readDiscreteInputs _ _ | .readSingleDiscreteInput _ => .readDiscreteInputs
  | .readHoldingRegisters _ _ | .readSingleHoldingRegister _ => .readHoldingRegisters
  | .readInputRegisters _ _ | .readSingleInputRegister _ => .readInputRegisters
  | .writeSingleRegister _ _ => .writeSingleRegister
  | .writeMultipleRegisters _ _ _ => .writeMultipleRegisters
  | .readWriteMultipleRegisters _ _ _ _ => .readWriteMultipleRegisters
  | .maskWriteRegister _ _ _ => .maskWriteRegister
  | .readFifoQueue _ => .readFifoQueue
  | .readFileRecord _ => .readFileRecord
  | .writeFileRecord _ => .writeFileRecord
  | .readDeviceIdentification _ _ => .readDeviceIdentification
  | .encapsulatedInterfaceTransport _ _ => .encapsulatedInterfaceTransport
  | .readExceptionStatus => .readExceptionStatus
  | .diagnostics _ _ => .diagnostics
  | .getCommEventCounter => .getCommEventCounter
  | .getCommEventLog => .getCommEventLog
  | .reportServerId => .reportServerId

/-- What the client tells the application about a response without an exception code. -/
def deliver [Features] (call : ClientCall) (response : Pdu) :
    Outcome Empty (Option ResponseCallback) :=
  call.handler.run call.operationMeta response

end ClientCall

end ModbusRs
