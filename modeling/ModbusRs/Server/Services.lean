import ModbusRs.Core.Transport
import ModbusRs.Server.Replies

/-!
# The server

`ServerServices`: the send pipeline with its retry queue, the dispatcher, the priority queue
and the receive path. What is fixed at construction is a `ServerSetup`, what changes is a
`ServerServices`. All function-code features are on; the `traffic` and `logging` hooks are
left out, and with them the clock readings that are only logged.
-/

namespace ModbusRs

open Outcome

/-! ### Configuration and state -/

/-- `OverflowPolicy`. -/
inductive OverflowPolicy where
  | dropResponse
  | rejectRequest
  deriving DecidableEq, Repr

/-- `TimeoutConfig`, without the two thresholds that are only logged. -/
structure TimeoutConfig where
  responseRetryIntervalMs : UInt32
  requestDeadlineMs : UInt32
  strictMode : Bool
  overflowPolicy : OverflowPolicy

/-- `ResilienceConfig`. The clock is given by the value of its `k`-th reading. -/
structure ResilienceConfig where
  timeouts : TimeoutConfig
  clockFn : Option (Nat → UInt64)
  maxSendRetries : UInt8
  enablePriorityQueue : Bool
  enableBroadcastWrites : Bool
  turnaroundDelayUs : UInt64

/-- `ResilienceConfig::default`. -/
def ResilienceConfig.default : ResilienceConfig where
  timeouts := ⟨0, 0, false, .dropResponse⟩
  clockFn := none
  maxSendRetries := 3
  enablePriorityQueue := false
  enableBroadcastWrites := false
  turnaroundDelayUs := 0

/-- `RequestPriority`. -/
inductive RequestPriority where
  | other
  | read
  | write
  | maintenance
  deriving DecidableEq, Repr

namespace RequestPriority

/-- `priority as u8`. -/
def rank : RequestPriority → Nat
  | other => 0
  | read => 1
  | write => 2
  | maintenance => 3

/-- `RequestPriority::from_function_code`. -/
def fromFunctionCode : FunctionCode → RequestPriority
  | .readCoils | .readDiscreteInputs | .readHoldingRegisters | .readInputRegisters
  | .readFifoQueue | .readFileRecord => read
  | .writeSingleCoil | .writeSingleRegister | .writeMultipleCoils | .writeMultipleRegisters
  | .maskWriteRegister | .readWriteMultipleRegisters | .writeFileRecord => write
  | .diagnostics | .getCommEventCounter | .getCommEventLog | .reportServerId
  | .encapsulatedInterfaceTransport => maintenance
  | _ => other

end RequestPriority

/-- `PendingRequest`. -/
structure PendingRequest [Features] where
  frame : Adu
  priority : RequestPriority
  receivedAtUs : UInt64

/-- `PendingResponse`. -/
structure PendingResponse [Features] where
  frame : Adu
  txnId : UInt16
  unit : UnitIdOrSlaveAddr
  retryCount : UInt8
  queuedAtUs : UInt64
  isTurnaroundDelay : Bool

/-- `ServerStatistics`. -/
structure ServerStatistics where
  messageCount : UInt16
  commErrorCount : UInt16
  exceptionErrorCount : UInt16
  serverMessageCount : UInt16
  noResponseCount : UInt16
  nakCount : UInt16
  busyCount : UInt16
  characterOverrunCount : UInt16
  characterOverrunFlag : Bool
  deriving DecidableEq, Repr

/-- `ServerStatistics::new`. -/
def ServerStatistics.new : ServerStatistics := ⟨0, 0, 0, 0, 0, 0, 0, 0, false⟩

/-- `count.saturating_add(1)`. -/
def satSucc16 (count : UInt16) : UInt16 := if count = 0xFFFF then count else count + 1

/-- `count.saturating_add(1)`. -/
def satSucc32 (count : UInt32) : UInt32 := if count = 0xFFFFFFFF then count else count + 1

/-- A response on its way to the send-or-queue step. -/
structure Handed [Features] where
  frame : Adu
  txnId : UInt16
  unit : UnitIdOrSlaveAddr

/-- The part of `ServerServices` that is fixed at construction. -/
structure ServerSetup [Features] (σ τ : Type) where
  app : ModbusAppHandler σ
  transport : Transport τ
  slaveAddress : UnitIdOrSlaveAddr
  resilience : ResilienceConfig

/-- A server with the default configuration on a transport that never fails. -/
def ServerSetup.plain [Features] {σ : Type} (app : ModbusAppHandler σ) (tt : TransportType)
    (slaveAddress : UnitIdOrSlaveAddr) : ServerSetup σ Unit where
  app := app
  transport := .silent tt
  slaveAddress := slaveAddress
  resilience := .default

/-- The part of `ServerServices` that changes. `handed` records every response that
`try_send_or_queue` was given, `clockReads` the number of clock readings. -/
structure ServerServices [Features] (depth : Nat) (σ τ : Type) where
  app : Client AppCall σ
  link : Link τ
  rxedFrame : HVec UInt8 maxAduFrameLen
  lastRecvUs : UInt64
  requestQueue : HVec PendingRequest depth
  responseQueue : HVec PendingResponse depth
  droppedResponseCount : UInt32
  rejectedRequestCount : UInt32
  peakResponseQueueSize : Nat
  listenOnlyMode : Bool
  commEventCounter : UInt16
  commMessageCount : UInt16
  commEventLog : HVec UInt8 64
  stats : ServerStatistics
  clockReads : Nat
  handed : List Handed

/-- A method of the server. -/
abbrev ServerM [Features] (depth : Nat) (σ τ : Type) := EffM MbusError (ServerServices depth σ τ)

namespace ServerServices

variable [Features] {depth : Nat} {σ τ : Type}

/-- `with_queue_depth`. -/
def withQueueDepth (depth : Nat) (app : σ) (transport : τ) : ServerServices depth σ τ where
  app := ⟨app, []⟩
  link := ⟨transport, []⟩
  rxedFrame := .empty
  lastRecvUs := 0
  requestQueue := .empty
  responseQueue := .empty
  droppedResponseCount := 0
  rejectedRequestCount := 0
  peakResponseQueueSize := 0
  listenOnlyMode := false
  commEventCounter := 0
  commMessageCount := 0
  commEventLog := .empty
  stats := .new
  clockReads := 0
  handed := []

variable (setup : ServerSetup σ τ) (s : ServerServices depth σ τ)

/-- `now_us`. -/
def nowUs : UInt64 :=
  match setup.resilience.clockFn with
  | some f => f s.clockReads
  | none => 0

/-- The state after a clock reading. -/
def tick : ServerServices depth σ τ := { s with clockReads := s.clockReads + 1 }

/-- A step of the statistics, which exist with the `diagnostics-stats` feature only. -/
def count (step : ServerStatistics → ServerStatistics) : ServerServices depth σ τ :=
  if Features.diagnosticsStats then { s with stats := step s.stats } else s

/-- `stats.increment_message_count`. -/
def incrementMessageCount : ServerServices depth σ τ :=
  s.count fun stats => { stats with messageCount := satSucc16 stats.messageCount }

/-- `stats.increment_comm_error_count`. -/
def incrementCommErrorCount : ServerServices depth σ τ :=
  s.count fun stats => { stats with commErrorCount := satSucc16 stats.commErrorCount }

/-- `stats.increment_exception_error_count`. -/
def incrementExceptionErrorCount : ServerServices depth σ τ :=
  s.count fun stats => { stats with exceptionErrorCount := satSucc16 stats.exceptionErrorCount }

/-- `stats.increment_server_message_count`. -/
def incrementServerMessageCount : ServerServices depth σ τ :=
  s.count fun stats => { stats with serverMessageCount := satSucc16 stats.serverMessageCount }

/-- `stats.increment_no_response_count`. -/
def incrementNoResponseCount : ServerServices depth σ τ :=
  s.count fun stats => { stats with noResponseCount := satSucc16 stats.noResponseCount }

/-! ### Send pipeline -/

/-- A response is dropped because the retry queue is full. -/
def dropResponse : ServerServices depth σ τ :=
  { s with droppedResponseCount := satSucc32 s.droppedResponseCount }

/-- `update_peak_response_queue_size`. -/
def updatePeakResponseQueueSize : ServerServices depth σ τ :=
  { s with peakResponseQueueSize := max s.peakResponseQueueSize s.responseQueue.length }

/-- The turnaround branch of `try_send_or_queue`. -/
def delayForTurnaround (frame : Adu) (txnId : UInt16) (unit : UnitIdOrSlaveAddr) :
    ServerServices depth σ τ :=
  match s.responseQueue.push ⟨frame, txnId, unit, 0, s.lastRecvUs, true⟩ with
  | some queue => { s with responseQueue := queue }.updatePeakResponseQueueSize
  | none => s.dropResponse

/-- `queue_response_for_retry`. -/
def queueResponseForRetry (frame : Adu) (txnId : UInt16) (unit : UnitIdOrSlaveAddr) :
    ServerServices depth σ τ :=
  match s.responseQueue.push ⟨frame, txnId, unit, 0, s.nowUs setup, false⟩ with
  | some queue => { s.tick with responseQueue := queue }
  | none => s.tick.dropResponse

/-- `handle_send_failure`. -/
def handleSendFailure (frame : Adu) (txnId : UInt16) (unit : UnitIdOrSlaveAddr) :
    ServerServices depth σ τ :=
  if depth > 0 then
    (s.queueResponseForRetry setup frame txnId unit).updatePeakResponseQueueSize
  else s

/-- Whether the bus has been quiet for less than the turnaround delay. -/
def withinTurnaround : Bool :=
  setup.resilience.turnaroundDelayUs.toNat > 0 &&
    (s.nowUs setup).toNat - s.lastRecvUs.toNat < setup.resilience.turnaroundDelayUs.toNat

/-- The send step of `try_send_or_queue`, with `handle_send_success`. -/
def sendOrRetry (frame : Adu) (txnId : UInt16) (unit : UnitIdOrSlaveAddr) :
    ServerServices depth σ τ :=
  match s.link.send setup.transport frame.toList with
  | (.ok _, link) => { s with link := link }.incrementServerMessageCount
  | (.error _, link) => { s with link := link }.handleSendFailure setup frame txnId unit

/-- `try_send_or_queue`. -/
def trySendOrQueue (frame : Adu) (txnId : UInt16) (unit : UnitIdOrSlaveAddr) :
    ServerServices depth σ τ :=
  let handed : ServerServices depth σ τ :=
    { s.tick with handed := s.handed ++ [⟨frame, txnId, unit⟩] }
  if s.withinTurnaround setup then handed.delayForTurnaround frame txnId unit
  else handed.sendOrRetry setup frame txnId unit

/-- `app.on_exception(..)`. -/
def onException (txnId : UInt16) (unit : UnitIdOrSlaveAddr) (fc : FunctionCode)
    (exceptionCode : ExceptionCode) (error : MbusError) : ServerServices depth σ τ :=
  { s with app := { s.app with
      state := setup.app.onException txnId unit fc exceptionCode error s.app.state } }

/-- `send_exception_response` and `send_exception_response_for_frame`. -/
def sendExceptionResponse (txnId : UInt16) (unit : UnitIdOrSlaveAddr) (fc : FunctionCode)
    (error : MbusError) : ServerServices depth σ τ :=
  let exceptionCode := fc.exceptionCodeForError error
  let notified := (s.onException setup txnId unit fc exceptionCode error)
    |>.incrementExceptionErrorCount
  match buildExceptionAdu setup.transport.transportType txnId unit fc exceptionCode with
  | .ok response => notified.trySendOrQueue setup response txnId unit
  | .error _ => notified

/-- How every handler ends: the frame is sent, or the exception for the error. -/
def finishRequest (txnId : UInt16) (unit : UnitIdOrSlaveAddr) (fc : FunctionCode)
    (result : Except MbusError Adu) : ServerServices depth σ τ :=
  match result with
  | .ok response => s.trySendOrQueue setup response txnId unit
  | .error e => s.sendExceptionResponse setup txnId unit fc e

end ServerServices

namespace ServerM

open ServerServices

variable [Features] {depth : Nat} {σ τ : Type} (setup : ServerSetup σ τ)

/-- A computation of the application within a method of the server. -/
def onApp {α : Type} (m : AppM σ α) : ServerM depth σ τ α :=
  fun s => ((m.run s.app).1, { s with app := (m.run s.app).2 })

/-- A handler of the dispatcher: run it and send what it ends with. -/
def answer (txnId : UInt16) (unit : UnitIdOrSlaveAddr) (fc : FunctionCode) (m : AppM σ Adu) :
    ServerM depth σ τ Unit :=
  (onApp m).handle
    (fun response => EffM.modify fun s => s.finishRequest setup txnId unit fc (.ok response))
    (fun e => EffM.modify fun s => s.finishRequest setup txnId unit fc (.error e))

/-! ### FC08 -/

/-- `send_diagnostics_value_response`. -/
def sendDiagnosticsValueResponse (txnId : UInt16) (unit : UnitIdOrSlaveAddr)
    (subFunctionRaw value : UInt16) : ServerM depth σ τ Unit :=
  EffM.modify fun s => s.finishRequest setup txnId unit .diagnostics
    (buildDiagnosticsResponse setup.transport.transportType txnId unit subFunctionRaw value)

/-- `enable_listen_only_mode`. -/
def enableListenOnlyMode : ServerM depth σ τ Unit :=
  EffM.modify fun s => { s with listenOnlyMode := true }.incrementNoResponseCount

/-- `forward_diagnostics_to_app`. -/
def forwardDiagnosticsToApp (txnId : UInt16) (unit : UnitIdOrSlaveAddr)
    (subFunction : DiagnosticSubFunction) (subFunctionRaw data : UInt16) :
    ServerM depth σ τ Unit :=
  answer setup txnId unit .diagnostics
    (CallbackM.checkCallFinish (pure ())
      (fun _ => ⟨txnId, unit, .diagnostics subFunction data⟩)
      (fun _ => setup.app.diagnosticsRequest txnId unit subFunction data)
      (fun _ answer => do
        let result ← lift answer
        lift (buildDiagnosticsResponse setup.transport.transportType txnId unit subFunctionRaw
          result)))

/-- What `try_handle_stats_sub_function` answers, and what it leaves of the statistics; `none`
for the sub-functions it does not handle. -/
def statsSubFunction (stats : ServerStatistics) (data : UInt16) :
    DiagnosticSubFunction → Option (UInt16 × ServerStatistics)
  | .clearCountersAndDiagnosticRegister => some (data, .new)
  | .clearOverrunCounterAndFlag => some (data, { stats with characterOverrunFlag := false })
  | .returnBusMessageCount => some (stats.messageCount, stats)
  | .returnBusCommunicationErrorCount => some (stats.commErrorCount, stats)
  | .returnBusExceptionErrorCount => some (stats.exceptionErrorCount, stats)
  | .returnServerMessageCount => some (stats.serverMessageCount, stats)
  | .returnServerNoResponseCount => some (stats.noResponseCount, stats)
  | .returnServerNakCount => some (stats.nakCount, stats)
  | .returnServerBusyCount => some (stats.busyCount, stats)
  | .returnBusCharacterOverrunCount => some (stats.characterOverrunCount, stats)
  | _ => none

/-- The last arm of `dispatch_diagnostics_sub_function`. -/
def dispatchOtherSubFunction (txnId : UInt16) (unit : UnitIdOrSlaveAddr)
    (subFunction : DiagnosticSubFunction) (subFunctionRaw data : UInt16) :
    ServerM depth σ τ Unit := do
  let stats ← EffM.gets ServerServices.stats
  match Features.diagnosticsStats, statsSubFunction stats data subFunction with
  | true, some (value, stats) => do
    EffM.modify fun s => { s with stats := stats }
    sendDiagnosticsValueResponse setup txnId unit subFunctionRaw value
  | _, _ => forwardDiagnosticsToApp setup txnId unit subFunction subFunctionRaw data

/-- `dispatch_diagnostics_sub_function`. -/
def dispatchDiagnosticsSubFunction (txnId : UInt16) (unit : UnitIdOrSlaveAddr)
    (subFunction : DiagnosticSubFunction) (subFunctionRaw data : UInt16) :
    ServerM depth σ τ Unit :=
  match subFunction with
  | .returnQueryData => sendDiagnosticsValueResponse setup txnId unit subFunctionRaw data
  | .restartCommunicationsOption => do
    EffM.modify fun s => { s with listenOnlyMode := false }
    sendDiagnosticsValueResponse setup txnId unit subFunctionRaw data
  | .forceListenOnlyMode => enableListenOnlyMode
  | _ => dispatchOtherSubFunction setup txnId unit subFunction subFunctionRaw data

/-- The checks of `handle_diagnostics_request`. -/
def checkDiagnostics (tt : TransportType) (pdu : Pdu) :
    Fallible (DiagnosticSubFunction × UInt16 × UInt16) := do
  guardErr (!tt.isSerialType) .invalidFunctionCode
  let (subFunctionRaw, data) ← pdu.diagnosticsFields
  let subFunction ← lift (DiagnosticSubFunction.tryFrom subFunctionRaw)
  pure (subFunction, subFunctionRaw, data)

/-- `handle_diagnostics_request`. -/
def handleDiagnosticsRequest (txnId : UInt16) (unit : UnitIdOrSlaveAddr) (pdu : Pdu) :
    ServerM depth σ τ Unit :=
  (EffM.lift (checkDiagnostics setup.transport.transportType pdu)).handle
    (fun (subFunction, subFunctionRaw, data) =>
      dispatchDiagnosticsSubFunction setup txnId unit subFunction subFunctionRaw data)
    (fun e => EffM.modify fun s => s.sendExceptionResponse setup txnId unit .diagnostics e)

/-! ### Broadcast writes -/

/-- A broadcast handler: the errors of the check and of the callback are ignored. -/
def ignoreErrors (m : AppM σ Unit) : ServerM depth σ τ Unit :=
  (onApp m).handle (fun _ => pure ()) (fun _ => pure ())

/-- `handle_broadcast_write_single_coil_request`. -/
def handleBroadcastWriteSingleCoilRequest (txnId : UInt16) (unit : UnitIdOrSlaveAddr)
    (pdu : Pdu) : ServerM depth σ τ Unit :=
  ignoreErrors (CallbackM.checkCallFinish (checkWriteSingleCoil pdu)
    (fun fields => ⟨txnId, unit, .writeSingleCoil fields.1.address fields.2⟩)
    (fun fields => setup.app.writeSingleCoilRequest txnId unit fields.1.address fields.2)
    (fun _ => lift))

/-- `handle_broadcast_write_single_register_request`. -/
def handleBroadcastWriteSingleRegisterRequest (txnId : UInt16) (unit : UnitIdOrSlaveAddr)
    (pdu : Pdu) : ServerM depth σ τ Unit :=
  ignoreErrors (CallbackM.checkCallFinish pdu.writeSingleU16Fields
    (fun fields => ⟨txnId, unit, .writeSingleRegister fields.address fields.value⟩)
    (fun fields => setup.app.writeSingleRegisterRequest txnId unit fields.address fields.value)
    (fun _ => lift))

/-- `handle_broadcast_write_multiple_coils_request`. -/
def handleBroadcastWriteMultipleCoilsRequest (txnId : UInt16) (unit : UnitIdOrSlaveAddr)
    (pdu : Pdu) : ServerM depth σ τ Unit :=
  ignoreErrors (CallbackM.checkCallFinish (checkWriteMultipleCoils pdu)
    (fun fields =>
      ⟨txnId, unit, .writeMultipleCoils fields.address fields.quantity fields.values⟩)
    (fun fields => setup.app.writeMultipleCoilsRequest txnId unit fields.address fields.quantity
      fields.values)
    (fun _ => lift))

/-- `handle_broadcast_write_multiple_registers_request`. -/
def handleBroadcastWriteMultipleRegistersRequest (txnId : UInt16) (unit : UnitIdOrSlaveAddr)
    (pdu : Pdu) : ServerM depth σ τ Unit :=
  ignoreErrors (CallbackM.checkCallFinish (checkWriteMultipleRegisters pdu)
    (fun fields => ⟨txnId, unit, .writeMultipleRegisters fields.1.address fields.2⟩)
    (fun fields => setup.app.writeMultipleRegistersRequest txnId unit fields.1.address fields.2)
    (fun _ => lift))

end ServerM

/-- `is_supported_broadcast_write_function`. -/
def isSupportedBroadcastWriteFunction : FunctionCode → Bool
  | .writeSingleCoil | .writeMultipleCoils | .writeSingleRegister | .writeMultipleRegisters =>
    true
  | _ => false

namespace ServerSetup

variable [Features] {σ τ : Type} (setup : ServerSetup σ τ)

/-- Whether the server takes broadcasts at all. -/
def broadcastEnabled : Bool :=
  setup.resilience.enableBroadcastWrites && setup.transport.supportsBroadcastWrites &&
    setup.transport.transportType.isSerialType

/-- `should_handle_broadcast_write`. -/
def shouldHandleBroadcastWrite (message : ModbusMessage) : Bool :=
  message.unitIdOrSlaveAddr.isBroadcast && setup.broadcastEnabled &&
    isSupportedBroadcastWriteFunction message.functionCode

/-- `should_drop_for_address`. -/
def shouldDropForAddress (message : ModbusMessage) : Bool :=
  message.unitIdOrSlaveAddr.get != setup.slaveAddress.get

end ServerSetup

namespace ServerM

open ServerServices

variable [Features] {depth : Nat} {σ τ : Type} (setup : ServerSetup σ τ)

/-- `dispatch_broadcast_write_no_response`. -/
def dispatchBroadcastWriteNoResponse (message : ModbusMessage) : ServerM depth σ τ Unit := do
  let txnId := message.transactionId
  let unit := message.unitIdOrSlaveAddr
  EffM.modify incrementNoResponseCount
  match message.functionCode with
  | .writeSingleCoil => handleBroadcastWriteSingleCoilRequest setup txnId unit message.pdu
  | .writeSingleRegister =>
    handleBroadcastWriteSingleRegisterRequest setup txnId unit message.pdu
  | .writeMultipleCoils => handleBroadcastWriteMultipleCoilsRequest setup txnId unit message.pdu
  | .writeMultipleRegisters =>
    handleBroadcastWriteMultipleRegistersRequest setup txnId unit message.pdu
  | _ => pure ()

/-- The `match function_code` of `dispatch_request_for_frame`. -/
def dispatchFunction (txnId : UInt16) (unit : UnitIdOrSlaveAddr) (fc : FunctionCode)
    (pdu : Pdu) : ServerM depth σ τ Unit :=
  let app := setup.app
  let tt := setup.transport.transportType
  match fc with
  | .readCoils => answer setup txnId unit fc (handleReadCoilsRequest app tt txnId unit pdu)
  | .readDiscreteInputs =>
    answer setup txnId unit fc (handleReadDiscreteInputsRequest app tt txnId unit pdu)
  | .readHoldingRegisters =>
    answer setup txnId unit fc (handleReadHoldingRegistersRequest app tt txnId unit pdu)
  | .readInputRegisters =>
    answer setup txnId unit fc (handleReadInputRegistersRequest app tt txnId unit pdu)
  | .writeSingleCoil =>
    answer setup txnId unit fc (handleWriteSingleCoilRequest app tt txnId unit pdu)
  | .writeSingleRegister =>
    answer setup txnId unit fc (handleWriteSingleRegisterRequest app tt txnId unit pdu)
  | .writeMultipleCoils =>
    answer setup txnId unit fc (handleWriteMultipleCoilsRequest app tt txnId unit pdu)
  | .writeMultipleRegisters =>
    answer setup txnId unit fc (handleWriteMultipleRegistersRequest app tt txnId unit pdu)
  | .maskWriteRegister =>
    answer setup txnId unit fc (handleMaskWriteRegisterRequest app tt txnId unit pdu)
  | .readWriteMultipleRegisters =>
    answer setup txnId unit fc (handleReadWriteMultipleRegistersRequest app tt txnId unit pdu)
  | .readFifoQueue => answer setup txnId unit fc (handleReadFifoQueueRequest app tt txnId unit pdu)
  | .readFileRecord =>
    answer setup txnId unit fc (handleReadFileRecordRequest app tt txnId unit pdu)
  | .writeFileRecord =>
    answer setup txnId unit fc (handleWriteFileRecordRequest app tt txnId unit pdu)
  | .readExceptionStatus =>
    answer setup txnId unit fc (handleReadExceptionStatusRequest app tt txnId unit pdu)
  | .diagnostics => handleDiagnosticsRequest setup txnId unit pdu
  | .getCommEventCounter => do
    let eventCount ← EffM.gets commEventCounter
    answer setup txnId unit fc
      (handleGetCommEventCounterRequest app tt txnId unit pdu eventCount)
  | .getCommEventLog => do
    let eventCount ← EffM.gets commEventCounter
    let messageCount ← EffM.gets commMessageCount
    let eventLog ← EffM.gets commEventLog
    answer setup txnId unit fc (handleGetCommEventLogRequest app tt txnId unit pdu eventCount
      messageCount eventLog.toList)
  | .reportServerId =>
    answer setup txnId unit fc (handleReportServerIdRequest app tt txnId unit pdu)
  | .encapsulatedInterfaceTransport => answer setup txnId unit fc
    (handleEncapsulatedInterfaceTransportRequest app tt txnId unit pdu)
  | _ => EffM.modify fun s => s.sendExceptionResponse setup txnId unit fc .invalidFunctionCode

lemma dispatchFunction_dataAccess {txnId : UInt16} {unit : UnitIdOrSlaveAddr} {fc : FunctionCode}
    {pdu : Pdu} {m : AppM σ Adu}
    (h : dataAccessHandler setup.app setup.transport.transportType txnId unit pdu fc = some m) :
    (dispatchFunction setup txnId unit fc pdu : ServerM depth σ τ Unit) =
      answer setup txnId unit fc m := by
  cases fc <;> cases h <;> rfl

/-- `dispatch_request` and `dispatch_request_for_frame`. -/
def dispatchRequest (message : ModbusMessage) : ServerM depth σ τ Unit := do
  if setup.shouldHandleBroadcastWrite message then
    dispatchBroadcastWriteNoResponse setup message
  else
    let listenOnly ← EffM.gets listenOnlyMode
    if listenOnly && message.functionCode != .diagnostics then
      EffM.modify incrementNoResponseCount
    else if setup.shouldDropForAddress message then
      pure ()
    else
      dispatchFunction setup message.transactionId message.unitIdOrSlaveAddr message.functionCode
        message.pdu

end ServerM

end ModbusRs
