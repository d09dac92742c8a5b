import ModbusRs.Async.Requests
import ModbusRs.Core.Transport
import ModbusRs.Server.Services

/-!
# The async server session

`AsyncServerSession::run`, one round of its loop at a time. `handle` of the application may
panic. The statistics exist with the `diagnostics-stats` feature only.
-/

namespace ModbusRs

open Outcome

/-- `AsyncAppHandler`; `none` for a panic of `handle`. -/
structure AsyncAppHandler [Features] (σ : Type) where
  handle : ModbusRequest → σ → Option ModbusResponse × σ
  onException : UInt16 → UnitIdOrSlaveAddr → FunctionCode → ExceptionCode → σ → σ

/-- `AsyncServerStatistics`. -/
structure AsyncServerStatistics where
  messageCount : UInt16
  commErrorCount : UInt16
  exceptionErrorCount : UInt16
  serverMessageCount : UInt16
  noResponseCount : UInt16
  nakCount : UInt16
  busyCount : UInt16
  characterOverrunCount : UInt16
  deriving DecidableEq, Repr

/-- `AsyncServerStatistics::new`. -/
def AsyncServerStatistics.new : AsyncServerStatistics := ⟨0, 0, 0, 0, 0, 0, 0, 0⟩

/-- The part of `AsyncServerSession` that a round does not change. -/
structure AsyncServerSetup [Features] (σ τ : Type) where
  app : AsyncAppHandler σ
  transport : Transport τ
  unit : UnitIdOrSlaveAddr

/-- The part of `AsyncServerSession` that changes. -/
structure AsyncServerSession [Features] (σ τ : Type) where
  app : Client ModbusRequest σ
  link : Link τ
  listenOnlyMode : Bool
  enableBroadcastWrites : Bool
  stats : AsyncServerStatistics

/-- A method of the session. -/
abbrev SessionM [Features] (σ τ : Type) := EffM AsyncServerError (AsyncServerSession σ τ)

namespace AsyncServerSession

variable [Features] {σ τ : Type}

/-- `AsyncServerSession::new`. -/
def new (app : σ) (transport : τ) : AsyncServerSession σ τ where
  app := ⟨app, []⟩
  link := ⟨transport, []⟩
  listenOnlyMode := false
  enableBroadcastWrites := false
  stats := .new

variable (s : AsyncServerSession σ τ)

/-- A step of the statistics. -/
def count (step : AsyncServerStatistics → AsyncServerStatistics) : AsyncServerSession σ τ :=
  if Features.diagnosticsStats then { s with stats := step s.stats } else s

/-- `stats.increment_message_count`. -/
def incrementMessageCount : AsyncServerSession σ τ :=
  s.count fun stats => { stats with messageCount := satSucc16 stats.messageCount }

/-- `stats.increment_comm_error_count`. -/
def incrementCommErrorCount : AsyncServerSession σ τ :=
  s.count fun stats => { stats with commErrorCount := satSucc16 stats.commErrorCount }

/-- `stats.increment_exception_error_count`. -/
def incrementExceptionErrorCount : AsyncServerSession σ τ :=
  s.count fun stats => { stats with exceptionErrorCount := satSucc16 stats.exceptionErrorCount }

/-- `stats.increment_server_message_count`. -/
def incrementServerMessageCount : AsyncServerSession σ τ :=
  s.count fun stats => { stats with serverMessageCount := satSucc16 stats.serverMessageCount }

/-- `stats.increment_no_response_count`. -/
def incrementNoResponseCount : AsyncServerSession σ τ :=
  s.count fun stats => { stats with noResponseCount := satSucc16 stats.noResponseCount }

/-- `app.on_exception(..)`. -/
def onException (app : AsyncAppHandler σ) (txnId : UInt16) (unit : UnitIdOrSlaveAddr)
    (fc : FunctionCode) (code : ExceptionCode) : AsyncServerSession σ τ :=
  { s with app := { s.app with state := app.onException txnId unit fc code s.app.state } }

end AsyncServerSession

namespace SessionM

open AsyncServerSession

variable [Features] {σ τ : Type} (setup : AsyncServerSetup σ τ)

/-- `transport.send(..)`. -/
def send (frame : Adu) : SessionM σ τ Unit := fun s =>
  (match (s.link.send setup.transport frame.toList).1 with
    | .ok _ => .ok ()
    | .error e => .err (.ofMbusError e),
    { s with link := (s.link.send setup.transport frame.toList).2 })

/-- `respond`, and `send_response` without its traffic hooks. -/
def respond (txnId : UInt16) (unit : UnitIdOrSlaveAddr) (response : ModbusResponse) :
    SessionM σ τ Unit :=
  match response with
  | .noResponse => pure ()
  | _ => do
    let frame ← EffM.lift ((response.encode txnId unit setup.transport.transportType).mapErr
      AsyncServerError.transport)
    send setup frame

/-- `app.handle(req)`, a recorded call. -/
def appHandle (request : ModbusRequest) : SessionM σ τ ModbusResponse := fun s =>
  (match (setup.app.handle request s.app.state).1 with
    | some response => .ok response
    | none => .panic,
    { s with app := ⟨(setup.app.handle request s.app.state).2, s.app.calls ++ [request]⟩ })

/-- `is_addressed_to_us`. -/
def isAddressedToUs (unit : UnitIdOrSlaveAddr) : Bool :=
  unit == setup.unit || unit.isBroadcast

/-- `parse_adu`. -/
def parseAdu (adu : List UInt8) : Outcome AsyncServerError (Option ModbusRequest) := do
  let message ← (decompileAduFrame adu setup.transport.transportType).mapErr
    AsyncServerError.framingError
  if isAddressedToUs setup message.unitIdOrSlaveAddr then do
    let body ← (parseBody message.functionCode message.pdu).mapErr AsyncServerError.framingError
    pure (some ⟨message.transactionId, message.unitIdOrSlaveAddr, body⟩)
  else pure none

/-- `recv_request`, on the frame that was received. -/
def acceptAdu (adu : List UInt8) : SessionM σ τ (Option ModbusRequest) := do
  EffM.modify incrementMessageCount
  (EffM.lift (parseAdu setup adu)).handle pure fun error =>
    match error with
    | .framingError _ => do
      EffM.modify incrementCommErrorCount
      pure none
    | _ => EffM.lift (.err error)

/-- `should_discard_in_listen_only_mode`. -/
def shouldDiscardInListenOnlyMode (body : RequestBody) : SessionM σ τ Bool := do
  let listenOnly ← EffM.gets listenOnlyMode
  match listenOnly, body with
  | true, .diagnostics .. => pure false
  | true, _ => do
    EffM.modify incrementNoResponseCount
    pure true
  | false, _ => pure false

/-- `resolve_stats_counter`. -/
def resolveStatsCounter (stats : AsyncServerStatistics) (subFunction : UInt16) :
    Option UInt16 :=
  match DiagnosticSubFunction.tryFrom subFunction with
  | .ok .returnBusMessageCount => some stats.messageCount
  | .ok .returnBusCommunicationErrorCount => some stats.commErrorCount
  | .ok .returnBusExceptionErrorCount => some stats.exceptionErrorCount
  | .ok .returnServerMessageCount => some stats.serverMessageCount
  | .ok .returnServerNoResponseCount => some stats.noResponseCount
  | .ok .returnServerNakCount => some stats.nakCount
  | .ok .returnServerBusyCount => some stats.busyCount
  | .ok .returnBusCharacterOverrunCount => some stats.characterOverrunCount
  | _ => none

/-- `let _ = self.respond(..)` with an echo. -/
def echoIgnoringErrors (txnId : UInt16) (unit : UnitIdOrSlaveAddr)
    (subFunction result : UInt16) : SessionM σ τ Bool :=
  (respond setup txnId unit (.diagnosticsEcho subFunction result)).handle
    (fun _ => pure true) (fun _ => pure true)

/-- `handle_stats_sub_fn`. -/
def handleStatsSubFn (txnId : UInt16) (unit : UnitIdOrSlaveAddr) (subFunction : UInt16) :
    SessionM σ τ Bool := do
  match DiagnosticSubFunction.tryFrom subFunction with
  | .ok .clearCountersAndDiagnosticRegister => do
    EffM.modify fun s => { s with stats := .new }
    echoIgnoringErrors setup txnId unit subFunction 0
  | .ok .clearOverrunCounterAndFlag => do
    EffM.modify fun s => { s with stats := { s.stats with characterOverrunCount := 0 } }
    echoIgnoringErrors setup txnId unit subFunction 0
  | _ => do
    let stats ← EffM.gets stats
    match resolveStatsCounter stats subFunction with
    | some counter => echoIgnoringErrors setup txnId unit subFunction counter
    | none => pure false

/-- `handle_fc08_auto`. -/
def handleFc08Auto (txnId : UInt16) (unit : UnitIdOrSlaveAddr) (subFunction data : UInt16) :
    SessionM σ τ Bool :=
  if subFunction = 0x0000 then do
    respond setup txnId unit (.diagnosticsEcho subFunction data)
    pure true
  else if subFunction = 0x0001 then do
    EffM.modify fun s => { s with listenOnlyMode := false }
    respond setup txnId unit (.diagnosticsEcho subFunction data)
    pure true
  else if subFunction = 0x0004 then do
    EffM.modify fun s => { s with listenOnlyMode := true }.incrementNoResponseCount
    pure true
  else if Features.diagnosticsStats then handleStatsSubFn setup txnId unit subFunction
  else pure false

/-- `try_dispatch_fc08_auto`. -/
def tryDispatchFc08Auto (request : ModbusRequest) : SessionM σ τ Bool :=
  match request.body with
  | .diagnostics subFunction data =>
    handleFc08Auto setup request.txnId request.unit subFunction data
  | _ => pure false

/-- `handle_serial_broadcast`. -/
def handleSerialBroadcast (request : ModbusRequest) : SessionM σ τ Unit := do
  let enabled ← EffM.gets enableBroadcastWrites
  if enabled && request.body.isBroadcastWriteFc then
    EffM.modify incrementServerMessageCount
    let _ ← appHandle setup request
    EffM.modify incrementNoResponseCount
  else
    EffM.modify incrementNoResponseCount

/-- `try_reply_unknown_fc`. -/
def tryReplyUnknownFc (request : ModbusRequest) : SessionM σ τ Bool :=
  match request.body with
  | .unknown fcByte => do
    EffM.modify incrementExceptionErrorCount
    match FunctionCode.tryFrom fcByte with
    | .ok fc => do
      EffM.modify fun s =>
        s.onException setup.app request.txnId request.unit fc .illegalFunction
      respond setup request.txnId request.unit (.exception fc .illegalFunction)
      pure true
    | .error _ => pure true
  | _ => pure false

/-- `update_response_stats` and `notify_exception`. -/
def noteResponse (txnId : UInt16) (unit : UnitIdOrSlaveAddr) (response : ModbusResponse)
    (s : AsyncServerSession σ τ) : AsyncServerSession σ τ :=
  match response with
  | .exception requestFc code =>
    s.incrementExceptionErrorCount.onException setup.app txnId unit requestFc code
  | .noResponse => s.incrementNoResponseCount
  | _ => s

/-- `dispatch_and_send`. -/
def dispatchAndSend (request : ModbusRequest) : SessionM σ τ Unit := do
  EffM.modify incrementServerMessageCount
  let response ← appHandle setup request
  EffM.modify (noteResponse setup request.txnId request.unit response)
  respond setup request.txnId request.unit response

/-- What the loop of `run` does with a parsed request. -/
def processRequest (request : ModbusRequest) : SessionM σ τ Unit := do
  if ← shouldDiscardInListenOnlyMode request.body then pure ()
  else if ← tryDispatchFc08Auto setup request then pure ()
  else if request.unit.isBroadcast && setup.transport.transportType.isSerialType then
    handleSerialBroadcast setup request
  else if ← tryReplyUnknownFc setup request then pure ()
  else dispatchAndSend setup request

/-- What the loop of `run` does with a received frame. -/
def processAdu (adu : List UInt8) : SessionM σ τ Unit := do
  match ← acceptAdu setup adu with
  | none => pure ()
  | some request => processRequest setup request

/-- `transport.recv()`. -/
def recv : SessionM σ τ Adu := fun s =>
  (match (s.link.recv setup.transport).1 with
    | .ok adu => .ok adu
    | .error e => .err (.ofMbusError e),
    { s with link := (s.link.recv setup.transport).2 })

/-- One round of the loop of `run`, which goes on until a round ends in an error. -/
def runOnce : SessionM σ τ Unit := do
  let adu ← recv setup
  processAdu setup adu.toList

end SessionM

end ModbusRs
