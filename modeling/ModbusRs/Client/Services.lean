import ModbusRs.Client.Calls
import ModbusRs.Core.Retry
import ModbusRs.Core.Transport
import ModbusRs.Library.Effect

/-!
# The sync client

`ClientServices` keeps the requests that await a response. Every call of the application reads the
clock at most once, so the reading is an argument of the call. What the client hands to its
transport and reports to its application is recorded as events, which carry the number of the
request they are about.
-/

namespace ModbusRs

open Outcome

/-- `ExpectedResponse`, with the number of the request. -/
structure ExpectedResponse [Features] where
  txnId : UInt16
  unitIdOrSlaveAddr : UInt8
  originalAdu : HVec UInt8 maxAduFrameLen
  sentTimestamp : UInt64
  retriesLeft : UInt8
  retryAttemptIndex : UInt8
  nextRetryTimestamp : Option UInt64
  handler : ResponseHandler
  operationMeta : OperationMeta
  serial : Nat
  deriving DecidableEq

/-- What the client does outside of its own state, or decides to do. -/
inductive ClientEvent where
  | sent (serial : Nat) (adu : List UInt8) (now : UInt64)
  | scheduled (serial : Nat) (delayMs : UInt32) (now : UInt64)
  | reported (serial : Nat) (txnId : UInt16) (unit : UnitIdOrSlaveAddr)
      (callback : ResponseCallback)
  deriving DecidableEq

/-- The number of the request. -/
def ClientEvent.serial : ClientEvent → Nat
  | .sent serial _ _ => serial
  | .scheduled serial _ _ => serial
  | .reported serial _ _ _ => serial

/-- The parts of `ModbusConfig` that time requests. -/
structure ClientConfig where
  responseTimeoutMs : UInt32
  retryAttempts : UInt8
  retryBackoffStrategy : BackoffStrategy
  retryJitterStrategy : JitterStrategy
  retryRandomFn : Option RetryRandomFn

/-- What a client is built from. -/
structure ClientSetup [Features] (τ : Type) where
  transport : Transport τ
  config : ClientConfig

/-- `response_timeout_ms`. -/
def ClientSetup.responseTimeoutMs [Features] {τ : Type} (setup : ClientSetup τ) : UInt64 :=
  setup.config.responseTimeoutMs.toUInt64

/-- `ClientServices`, with the numbers of requests made and of random values drawn, and the events
so far. -/
structure ClientServices [Features] (n : Nat) (τ : Type) where
  link : Link τ
  rxedFrame : HVec UInt8 maxAduFrameLen
  expectedResponses : HVec ExpectedResponse n
  nextTimeoutCheck : Option UInt64
  requested : Nat
  drawn : Nat
  events : List ClientEvent

namespace ClientCall

/-- The requests that exist on serial lines only. -/
def serialOnly : ClientCall → Bool
  | .readExceptionStatus | .diagnostics _ _ | .getCommEventCounter | .getCommEventLog
  | .reportServerId => true
  | _ => false

/-- The requests that may be broadcast: writes, and the sub-functions of diagnostics in
`ALLOWED_BROADCAST_SUB_FUNCTIONS`. -/
def allowsBroadcast : ClientCall → Bool
  | .writeSingleCoil _ _ | .writeMultipleCoils _ _ | .writeSingleRegister _ _
  | .writeMultipleRegisters _ _ _ | .maskWriteRegister _ _ _
  | .encapsulatedInterfaceTransport _ _ => true
  | .diagnostics subFunction _ =>
    subFunction ∈ [.restartCommunicationsOption, .forceListenOnlyMode,
      .clearCountersAndDiagnosticRegister, .clearOverrunCounterAndFlag]
  | _ => false

/-- The frame that the `ServiceBuilder` of the call compiles. -/
def buildFrame [Features] (call : ClientCall) (txnId : UInt16) (unitId : UInt8)
    (tt : TransportType) : Fallible (HVec UInt8 maxAduFrameLen) :=
  if call.serialOnly then do
    -- `check_serial`
    guardErr (!tt.isSerialType) .invalidTransport
    let pdu ← call.pdu
    lift (compileAduFrame 0 unitId pdu tt)
  else do
    let pdu ← call.pdu
    lift (compileAduFrame txnId unitId pdu tt)

end ClientCall

namespace ClientServices

variable [Features] {n : Nat} {τ : Type} (setup : ClientSetup τ) (s : ClientServices n τ)

/-- `new`. -/
def new (link : Link τ) : Except MbusError (ClientServices n τ) :=
  if setup.transport.transportType.isSerialType && n ≠ 1 then .error .invalidNumOfExpectedRsps
  else .ok
    { link, rxedFrame := .empty, expectedResponses := .empty, nextTimeoutCheck := none,
      requested := 0, drawn := 0, events := [] }

/-- A callback of the application. -/
def report (serial : Nat) (txnId : UInt16) (unit : UnitIdOrSlaveAddr)
    (callback : ResponseCallback) : ClientServices n τ :=
  { s with events := s.events ++ [.reported serial txnId unit callback] }

/-- `request_failed` for a request that is no longer expected. -/
def requestFailed (response : ExpectedResponse) (error : MbusError) : ClientServices n τ :=
  s.report response.serial response.txnId (.fromU8 response.unitIdOrSlaveAddr)
    (.requestFailed error)

/-- `transport.send(adu)`. -/
def send (serial : Nat) (adu : HVec UInt8 maxAduFrameLen) (now : UInt64) :
    Except MbusError Unit × ClientServices n τ :=
  ((s.link.send setup.transport adu.toList).1,
    { s with
      link := (s.link.send setup.transport adu.toList).2
      events := s.events ++ [.sent serial adu.toList now] })

/-! ### Losing the connection -/

/-- The `while let Some(response) = expected_responses.pop()` loop. -/
def failAll (error : MbusError) (responses : List ExpectedResponse) : ClientServices n τ :=
  responses.foldr (fun response s => s.requestFailed response error) s

/-- `fail_all_pending_requests`. -/
def failAllPendingRequests (error : MbusError) : ClientServices n τ :=
  { s.failAll error s.expectedResponses.toList with
    expectedResponses := .empty
    nextTimeoutCheck := none }

/-- `is_connection_loss`. -/
def isConnectionLoss (recvError : MbusError) : Bool :=
  match recvError with
  | .connectionClosed | .connectionFailed | .connectionLost | .ioError => true
  | _ => !setup.transport.isConnected s.link.state

/-- `handle_recv_error`. -/
def handleRecvError (recvError : MbusError) : ClientServices n τ :=
  if s.isConnectionLoss setup recvError then
    let s := s.failAllPendingRequests .connectionLost
    { s with link := s.link.disconnect setup.transport, rxedFrame := .empty }
  else s

/-- `disconnect`. -/
def disconnect : ClientServices n τ :=
  let s := s.failAllPendingRequests .connectionLost
  { s with rxedFrame := .empty, link := s.link.disconnect setup.transport }

/-! ### The receive buffer -/

/-- `handle_parse_error`. -/
def handleParseError : ClientServices n τ := { s with rxedFrame := s.rxedFrame.dropFirst 1 }

/-- `drain_rxed_frame`. -/
def drainRxedFrame (consumed : Nat) : ClientServices n τ :=
  { s with rxedFrame := s.rxedFrame.dropFirst consumed }

/-- `append_to_rxed_frame`. -/
def appendToRxedFrame (frame : List UInt8) : ClientServices n τ :=
  match s.rxedFrame.extendFromSlice frame with
  | some rxedFrame => { s with rxedFrame := rxedFrame }
  | none => { s with rxedFrame := .empty }

/-! ### Responses -/

/-- The request that a response is for. -/
def matchIndex (message : ModbusMessage) : Option Nat :=
  if setup.transport.transportType.isTcpType then
    s.expectedResponses.toList.findIdx? fun r =>
      r.txnId == message.transactionId && r.unitIdOrSlaveAddr == message.unitIdOrSlaveAddr.get
  else
    s.expectedResponses.toList.findIdx? fun r =>
      r.unitIdOrSlaveAddr == message.unitIdOrSlaveAddr.get

end ClientServices

/-- Routines of the client. -/
abbrev ClientM [Features] (n : Nat) (τ α : Type) : Type :=
  EffM MbusError (ClientServices n τ) α

namespace ClientM

open ClientServices

variable [Features] {n : Nat} {τ : Type} (setup : ClientSetup τ)

/-- The end of `dispatch_response`, for the request that is expected. -/
def dispatchExpected (expected : ExpectedResponse) (message : ModbusMessage) :
    ClientM n τ Unit :=
  match message.pdu.errorCode with
  | some exceptionCode => EffM.modify fun s =>
    s.report expected.serial expected.txnId message.unitIdOrSlaveAddr
      (.requestFailed (.modbusException exceptionCode))
  | none =>
    match expected.handler.run expected.operationMeta message.pdu with
    | .ok (some callback) => EffM.modify fun s =>
      s.report expected.serial expected.txnId message.unitIdOrSlaveAddr callback
    | .ok none => pure ()
    | .err e => nomatch e
    | .panic => EffM.lift .panic

/-- `dispatch_response`. -/
def dispatchResponse (message : ModbusMessage) : ClientM n τ Unit := do
  match ← EffM.gets (matchIndex setup · message) with
  | none => pure ()
  | some i => do
    let responses ← EffM.gets expectedResponses
    match responses.swapRemove i with
    | none => EffM.lift .panic
    | some (expected, rest) => do
      EffM.modify fun s => { s with expectedResponses := rest }
      dispatchExpected expected message

/-- The length checks at the head of `ingest_frame`. -/
def expectedFrameLength (rxedFrame : List UInt8) : Except MbusError Nat :=
  match deriveLengthFromBytes rxedFrame setup.transport.transportType with
  | none => .error .bufferTooSmall
  | some expectedLength =>
    if expectedLength > maxAduFrameLen then .error .basicParseError
    else if rxedFrame.length < expectedLength then .error .bufferTooSmall
    else .ok expectedLength

/-- The re-framing of `ingest_frame`, which for a foreign address kind consumes the frame. -/
def reframe (message : ModbusMessage) : ClientM n τ Unit :=
  match setup.transport.transportType.isTcpType, message.additionalAddress with
  | true, .mbapHeader header => dispatchResponse setup ⟨.mbapHeader header, message.pdu⟩
  | false, .slaveAddress address => do
    let address ← EffM.lift (lift (SlaveAddress.new address.address))
    dispatchResponse setup ⟨.slaveAddress address, message.pdu⟩
  | _, _ => pure ()

/-- `ingest_frame`. -/
def ingestFrame : ClientM n τ Nat := do
  let rxedFrame ← EffM.gets rxedFrame
  let expectedLength ← EffM.lift (lift (expectedFrameLength setup rxedFrame.toList))
  let frame ← EffM.lift (slice rxedFrame.toList 0 expectedLength)
  let message ← EffM.lift (decompileAduFrame frame setup.transport.transportType)
  reframe setup message
  pure expectedLength

/-- The loop of `process_rxed_frame`. Every round shortens the buffer, so its length is a bound
on the rounds. -/
def processFrames : Nat → ClientM n τ Unit
  | 0 => pure ()
  | rounds + 1 => do
    let rxedFrame ← EffM.gets rxedFrame
    if rxedFrame.toList.isEmpty then
      pure ()
    else
      (ingestFrame setup).handle
        (fun consumed => do
          EffM.modify fun s => s.drainRxedFrame consumed
          processFrames rounds)
        (fun error => match error with
          | .bufferTooSmall => pure ()
          | _ => do
            EffM.modify handleParseError
            processFrames rounds)

/-- `process_rxed_frame`. -/
def processRxedFrame : ClientM n τ Unit := do
  let rxedFrame ← EffM.gets rxedFrame
  processFrames setup rxedFrame.length

/-- The first step of `poll`. -/
def receive : ClientM n τ Unit := do
  let link ← EffM.gets link
  EffM.modify fun s => { s with link := (link.recv setup.transport).2 }
  match (link.recv setup.transport).1 with
  | .ok frame => do
    EffM.modify fun s => s.appendToRxedFrame frame.toList
    processRxedFrame setup
  | .error recvError => EffM.modify fun s => s.handleRecvError setup recvError

/-! ### Requests -/

/-- The expectation of a request. -/
def expectation (serial : Nat) (call : ClientCall) (txnId : UInt16) (unit : UnitIdOrSlaveAddr)
    (frame : HVec UInt8 maxAduFrameLen) (now : UInt64) : ExpectedResponse :=
  { txnId, unitIdOrSlaveAddr := unit.get, originalAdu := frame, sentTimestamp := now,
    retriesLeft := setup.config.retryAttempts, retryAttemptIndex := 0,
    nextRetryTimestamp := none, handler := call.handler, operationMeta := call.operationMeta,
    serial }

/-- `add_an_expectation`. -/
def addAnExpectation (serial : Nat) (call : ClientCall) (txnId : UInt16)
    (unit : UnitIdOrSlaveAddr) (frame : HVec UInt8 maxAduFrameLen) (now : UInt64) :
    ClientM n τ Unit := do
  let responses ← EffM.gets expectedResponses
  match responses.push (expectation setup serial call txnId unit frame now) with
  | some responses => EffM.modify fun s => { s with expectedResponses := responses }
  | none => EffM.lift (.err .tooManyRequests)

/-- `dispatch_request_frame`. -/
def dispatchRequestFrame (serial : Nat) (frame : HVec UInt8 maxAduFrameLen) (now : UInt64) :
    ClientM n τ Unit := do
  let sent ← EffM.gets fun s => s.send setup serial frame now
  EffM.modify fun _ => sent.2
  match sent.1 with
  | .ok _ => pure ()
  | .error _ => EffM.lift (.err .sendFailed)

/-- The method of the call. Those that cannot be broadcast refuse a broadcast before they build
the frame, the others after. -/
def submit (call : ClientCall) (txnId : UInt16) (unit : UnitIdOrSlaveAddr) (now : UInt64) :
    ClientM n τ Unit := do
  let serial ← EffM.gets requested
  EffM.modify fun s => { s with requested := s.requested + 1 }
  EffM.lift (guardErr (unit.isBroadcast && !call.allowsBroadcast) .broadcastNotAllowed)
  let frame ← EffM.lift (call.buildFrame txnId unit.get setup.transport.transportType)
  if unit.isBroadcast then
    EffM.lift (guardErr setup.transport.transportType.isTcpType .broadcastNotAllowed)
  else addAnExpectation setup serial call txnId unit frame now
  dispatchRequestFrame setup serial frame now

/-- `connect`. -/
def connect : ClientM n τ Unit := do
  let link ← EffM.gets link
  EffM.modify fun s => { s with link := (link.connect setup.transport).2 }
  EffM.lift (lift (link.connect setup.transport).1)

/-- `reconnect`. -/
def reconnect : ClientM n τ Unit := do
  EffM.modify fun s => s.disconnect setup
  connect setup

/-! ### What a request does -/

/-- The end of a request that was handed to the transport. -/
def sendOutcome (sent : Except MbusError Unit) : Fallible Unit :=
  match sent with
  | .ok _ => .ok ()
  | .error _ => .err .sendFailed

/-- The ways in which a request can go: it is refused, or handed to the transport as a broadcast,
or first added to the expectations. -/
inductive Submission (setup : ClientSetup τ) (call : ClientCall) (txnId : UInt16)
    (unit : UnitIdOrSlaveAddr) (now : UInt64) (s : ClientServices n τ) :
    Fallible Unit → ClientServices n τ → Prop
  | refused {result : Fallible Unit} (hresult : result ≠ .ok ())
      (hrefused : unit.isBroadcast = true ∨ n ≤ s.expectedResponses.toList.length ∨
        ∀ frame, call.buildFrame txnId unit.get setup.transport.transportType ≠ .ok frame) :
      Submission setup call txnId unit now s result { s with requested := s.requested + 1 }
  | broadcast {frame : HVec UInt8 maxAduFrameLen} (hunit : unit.isBroadcast = true) :
      Submission setup call txnId unit now s
        (sendOutcome (setup.transport.send frame.toList s.link.state).1)
        { s with
          requested := s.requested + 1
          link := (s.link.send setup.transport frame.toList).2
          events := s.events ++ [.sent s.requested frame.toList now] }
  | queued {frame : HVec UInt8 maxAduFrameLen} {responses : HVec ExpectedResponse n}
      (hunit : unit.isBroadcast = false)
      (hframe : call.buildFrame txnId unit.get setup.transport.transportType = .ok frame)
      (hresponses : responses.toList = s.expectedResponses.toList ++
        [expectation setup s.requested call txnId unit frame now]) :
      Submission setup call txnId unit now s
        (sendOutcome (setup.transport.send frame.toList s.link.state).1)
        { s with
          expectedResponses := responses
          requested := s.requested + 1
          link := (s.link.send setup.transport frame.toList).2
          events := s.events ++ [.sent s.requested frame.toList now] }

lemma dispatchRequestFrame_run (serial : Nat) (frame : HVec UInt8 maxAduFrameLen) (now : UInt64)
    (s : ClientServices n τ) :
    (dispatchRequestFrame setup serial frame now).run s =
      (sendOutcome (setup.transport.send frame.toList s.link.state).1,
        (s.send setup serial frame now).2) := by
  rw [dispatchRequestFrame, EffM.run_gets_bind, EffM.run_modify_bind]
  change (match (setup.transport.send frame.toList s.link.state).1 with
    | .ok _ => pure ()
    | .error _ => EffM.lift (.err .sendFailed) : ClientM n τ Unit).run _ = _
  cases (setup.transport.send frame.toList s.link.state).1 <;> rfl

lemma addAnExpectation_run (serial : Nat) (call : ClientCall) (txnId : UInt16)
    (unit : UnitIdOrSlaveAddr) (frame : HVec UInt8 maxAduFrameLen) (now : UInt64)
    (s : ClientServices n τ) :
    (addAnExpectation setup serial call txnId unit frame now).run s =
      match s.expectedResponses.push (expectation setup serial call txnId unit frame now) with
      | some responses => (.ok (), { s with expectedResponses := responses })
      | none => (.err .tooManyRequests, s) := by
  rw [addAnExpectation, EffM.run_gets_bind]
  cases s.expectedResponses.push (expectation setup serial call txnId unit frame now) <;> rfl

lemma submission_submit (call : ClientCall) (txnId : UInt16) (unit : UnitIdOrSlaveAddr)
    (now : UInt64) (s : ClientServices n τ) :
    Submission setup call txnId unit now s ((submit setup call txnId unit now).run s).1
      ((submit setup call txnId unit now).run s).2 := by
  rw [submit, EffM.run_gets_bind, EffM.run_modify_bind, EffM.run_lift_bind]
  cases hunit : unit.isBroadcast with
  | true =>
    cases guardErr (true && !call.allowsBroadcast) MbusError.broadcastNotAllowed with
    | err | panic => exact .refused nofun (.inl hunit)
    | ok _ =>
      dsimp only
      rw [EffM.run_lift_bind]
      cases call.buildFrame txnId unit.get setup.transport.transportType with
      | err | panic => exact .refused nofun (.inl hunit)
      | ok frame =>
        dsimp only
        rw [if_pos rfl, EffM.run_lift_bind]
        cases guardErr setup.transport.transportType.isTcpType MbusError.broadcastNotAllowed with
        | err | panic => exact .refused nofun (.inl hunit)
        | ok _ =>
          dsimp only
          rw [dispatchRequestFrame_run]
          exact .broadcast hunit
  | false =>
    rw [Bool.false_and, guardErr_false]
    dsimp only
    rw [EffM.run_lift_bind]
    cases hframe : call.buildFrame txnId unit.get setup.transport.transportType with
    | err | panic =>
      exact .refused nofun (.inr (.inr fun frame hok => nomatch hframe.symm.trans hok))
    | ok frame =>
      dsimp only
      rw [if_neg nofun, EffM.run_bind, addAnExpectation_run]
      dsimp only
      cases hpush : s.expectedResponses.push
          (expectation setup s.requested call txnId unit frame now) with
      | none =>
        have hfull := HVec.extendFromSlice_eq_none.mp hpush
        exact .refused nofun (.inr (.inl (Nat.le_of_lt_succ hfull)))
      | some responses =>
        dsimp only
        rw [dispatchRequestFrame_run]
        exact .queued hunit hframe (HVec.extendFromSlice_eq_some.mp hpush)

end ClientM

end ModbusRs
