import ModbusRs.Server.Services

/-!
# The receive path of the server

Cutting frames out of the receive buffer, the priority queue and its expiry, the retry queue,
and `poll`, which drives them.
-/

namespace ModbusRs

open Outcome

/-! ### Request queue -/

namespace RequestQueue

variable [Features] {depth : Nat}

/-- The `max_idx` loop of `pop_highest_priority`. -/
def highestIndex (items : List PendingRequest) : Nat :=
  let ranks := items.map fun item => item.priority.rank
  ranks.zipIdx.foldl (fun maxIdx (rank, i) => if ranks.getD maxIdx 0 < rank then i else maxIdx) 0

/-- `pop_highest_priority`. -/
def popHighestPriority (queue : HVec PendingRequest depth) :
    Option (PendingRequest × HVec PendingRequest depth) :=
  queue.swapRemove (highestIndex queue.toList)

/-- The loop of `take_expired` and `expire_stale`: the requests kept and those removed. -/
def takeExpiredFrom (nowUs : UInt64) (limit : Nat) (queue : HVec PendingRequest depth) (i : Nat)
    (expired : List PendingRequest) : HVec PendingRequest depth × List PendingRequest :=
  match hi : queue.toList[i]? with
  | none => (queue, expired)
  | some item =>
    have hlt : i < queue.toList.length := (List.getElem?_eq_some_iff.mp hi).1
    if nowUs.toNat - item.receivedAtUs.toNat > limit then
      match h : queue.swapRemove i with
      | some (removed, rest) =>
        have := HVec.swapRemove_length h
        takeExpiredFrom nowUs limit rest i (expired ++ [removed])
      | none => (queue, expired)
    else takeExpiredFrom nowUs limit queue (i + 1) expired
termination_by queue.toList.length - i

/-- `take_expired`, and `expire_stale` for the first component. -/
def takeExpired (nowUs : UInt64) (deadlineMs : UInt32) (queue : HVec PendingRequest depth) :
    HVec PendingRequest depth × List PendingRequest :=
  if deadlineMs = 0 then (queue, [])
  else takeExpiredFrom nowUs (deadlineMs.toNat * 1000) queue 0 []

end RequestQueue

/-- `reframe_message`. -/
def reframeMessage (tt : TransportType) (message : ModbusMessage) : Option ModbusMessage :=
  match tt.isTcpType, message.additionalAddress with
  | true, .mbapHeader header => some ⟨.mbapHeader header, message.pdu⟩
  | false, .slaveAddress address =>
    match SlaveAddress.new address.address with
    | .ok address => some ⟨.slaveAddress address, message.pdu⟩
    | .error _ => none
  | _, _ => none

namespace ServerServices

variable [Features] {depth : Nat} {σ τ : Type} (setup : ServerSetup σ τ)
  (s : ServerServices depth σ τ)

/-- `record_comm_event`. -/
def recordCommEvent (eventCode : UInt8) : ServerServices depth σ τ :=
  { s with
    commEventCounter := satSucc16 s.commEventCounter
    commMessageCount := satSucc16 s.commMessageCount
    commEventLog := match s.commEventLog.push eventCode with
      | some log => log
      | none => ((s.commEventLog.dropFirst 1).push eventCode).getD (s.commEventLog.dropFirst 1) }

/-- `should_apply_back_pressure`. -/
def shouldApplyBackPressure : Bool :=
  if depth = 0 then false
  else if setup.resilience.timeouts.overflowPolicy ≠ .rejectRequest then false
  else s.responseQueue.length * 100 / depth ≥ 80

/-- `handle_parse_error`. -/
def handleParseError : ServerServices depth σ τ :=
  { s.incrementCommErrorCount with rxedFrame := s.rxedFrame.dropFirst 1 }

/-- `drain_rxed_frame`. -/
def drainRxedFrame (consumed : Nat) : ServerServices depth σ τ :=
  { s with rxedFrame := s.rxedFrame.dropFirst consumed }

/-- `append_to_rxed_frame`. -/
def appendToRxedFrame (frame : List UInt8) : ServerServices depth σ τ :=
  match s.rxedFrame.extendFromSlice frame with
  | some rxedFrame => { s with rxedFrame := rxedFrame }
  | none => { s with rxedFrame := .empty }

/-- `handle_recv_error`. -/
def handleRecvError (recvError : MbusError) : ServerServices depth σ τ :=
  match recvError with
  | .framingError => { s with rxedFrame := .empty }
  | .connectionClosed | .connectionFailed | .connectionLost | .ioError =>
    { s with link := s.link.disconnect setup.transport, rxedFrame := .empty }
  | _ =>
    if setup.transport.isConnected s.link.state then s
    else { s with link := s.link.disconnect setup.transport, rxedFrame := .empty }

/-! ### Retry queue -/

/-- `should_delay_response_retry`. -/
def shouldDelayResponseRetry (pending : PendingResponse) : Bool :=
  match setup.resilience.clockFn with
  | none => false
  | some _ =>
    let now := s.nowUs setup
    if pending.isTurnaroundDelay && s.withinTurnaround setup then true
    else
      let retryIntervalMs := setup.resilience.timeouts.responseRetryIntervalMs.toNat
      !pending.isTurnaroundDelay && retryIntervalMs > 0 &&
        now.toNat - pending.queuedAtUs.toNat < retryIntervalMs * 1000

/-- `let _ = response_queue.push_back(pending)`. -/
def requeueResponse (pending : PendingResponse) : ServerServices depth σ τ :=
  match s.responseQueue.push pending with
  | some queue => { s with responseQueue := queue }
  | none => s

/-- `on_queued_response_retry_failure`. The count stays below `max_send_retries`. -/
def onQueuedResponseRetryFailure (pending : PendingResponse) : ServerServices depth σ τ :=
  s.tick.requeueResponse { pending with
    isTurnaroundDelay := false
    retryCount := pending.retryCount + 1
    queuedAtUs := s.nowUs setup }

/-- The loop of `drain_response_queue`. -/
def drainResponses : Nat → ServerServices depth σ τ → ServerServices depth σ τ
  | 0, s => s
  | count + 1, s =>
    match s.responseQueue.popFront with
    | none => s
    | some (pending, queue) =>
      let popped := { s with responseQueue := queue }
      if pending.retryCount ≥ setup.resilience.maxSendRetries then drainResponses count popped
      else if popped.shouldDelayResponseRetry setup pending then
        popped.tick.requeueResponse pending
      else
        match popped.tick.link.send setup.transport pending.frame.toList with
        | (.ok _, link) =>
          drainResponses count { popped.tick with link := link }.incrementServerMessageCount
        | (.error _, link) =>
          { popped.tick with link := link }.onQueuedResponseRetryFailure setup pending

/-- `drain_response_queue`. -/
def drainResponseQueue : ServerServices depth σ τ :=
  drainResponses setup s.responseQueue.length s

end ServerServices

namespace ServerM

open ServerServices

variable [Features] {depth : Nat} {σ τ : Type} (setup : ServerSetup σ τ)

/-! ### Ingest -/

/-- `parse_inbound_frame_body`. -/
def parseInboundFrameBody (expectedLength : Nat) : ServerM depth σ τ ModbusMessage := do
  let rxedFrame ← EffM.gets rxedFrame
  let frame ← EffM.lift (slice rxedFrame.toList 0 expectedLength)
  let message ← EffM.lift (decompileAduFrame frame setup.transport.transportType)
  EffM.modify incrementMessageCount
  pure message

/-- The reply to an unrecognised function code on TCP, sent past the send pipeline. -/
def sendIllegalFunction (fcByte : UInt8) : ServerM depth σ τ Unit := do
  let rxedFrame ← EffM.gets rxedFrame
  let txnHi ← EffM.lift (index rxedFrame.toList 0)
  let txnLo ← EffM.lift (index rxedFrame.toList 1)
  let unitId ← EffM.lift (index rxedFrame.toList 6)
  EffM.modify fun s => { s with link := (s.link.send setup.transport
    [txnHi, txnLo, 0x00, 0x00, 0x00, 0x03, unitId, fcByte ||| 0x80, 0x01]).2 }

/-- `try_enqueue_request`. -/
def tryEnqueueRequest (message : ModbusMessage) (expectedLength : Nat) :
    ServerM depth σ τ Unit := do
  let rxedFrame ← EffM.gets rxedFrame
  if ← EffM.gets (shouldApplyBackPressure setup) then
    EffM.modify fun s => { s with rejectedRequestCount := satSucc32 s.rejectedRequestCount }
    let _ ← EffM.lift (slice rxedFrame.toList 0 expectedLength)
    EffM.modify fun s => s.sendExceptionResponse setup message.transactionId
      message.unitIdOrSlaveAddr message.functionCode .tooManyRequests
  else
    let rawFrame ← EffM.lift (slice rxedFrame.toList 0 expectedLength)
    let receivedAt ← EffM.gets (nowUs setup)
    EffM.modify tick
    let queue ← EffM.gets requestQueue
    match queue.push
      ⟨.ofSlice rawFrame, .fromFunctionCode message.functionCode, receivedAt⟩ with
    | some queue => EffM.modify fun s => { s with requestQueue := queue }
    | none => dispatchRequest setup message

/-- `enqueue_or_dispatch_inbound`. -/
def enqueueOrDispatchInbound (message : ModbusMessage) (expectedLength : Nat) :
    ServerM depth σ τ Unit :=
  if depth > 0 && setup.resilience.enablePriorityQueue then
    tryEnqueueRequest setup message expectedLength
  else dispatchRequest setup message

/-- The end of `ingest_frame`, for a message in the form of the transport. -/
def acceptInbound (message : ModbusMessage) (expectedLength : Nat) : ServerM depth σ τ Unit :=
  if setup.shouldHandleBroadcastWrite message then
    dispatchBroadcastWriteNoResponse setup message
  else if setup.shouldDropForAddress message then pure ()
  else do
    EffM.modify fun s => s.recordCommEvent 0x04
    enqueueOrDispatchInbound setup message expectedLength

/-- The re-framing of `ingest_frame`, which for a foreign address kind consumes the frame. -/
def reframeInbound (message : ModbusMessage) (expectedLength : Nat) : ServerM depth σ τ Unit :=
  match setup.transport.transportType.isTcpType, message.additionalAddress with
  | true, .mbapHeader header =>
    acceptInbound setup ⟨.mbapHeader header, message.pdu⟩ expectedLength
  | false, .slaveAddress address => do
    let address ← EffM.lift (lift (SlaveAddress.new address.address))
    acceptInbound setup ⟨.slaveAddress address, message.pdu⟩ expectedLength
  | _, _ => pure ()

/-- The length checks at the head of `ingest_frame`. -/
def expectedFrameLength (rxedFrame : List UInt8) : Except MbusError Nat :=
  match deriveLengthFromBytes rxedFrame setup.transport.transportType with
  | none => .error .bufferTooSmall
  | some expectedLength =>
    if expectedLength > maxAduFrameLen then .error .basicParseError
    else if rxedFrame.length < expectedLength then .error .bufferTooSmall
    else .ok expectedLength

/-- The error arm of `ingest_frame` after decoding. -/
def rejectInbound (expectedLength : Nat) (error : MbusError) : ServerM depth σ τ Unit :=
  match error with
  | .unsupportedFunction fcByte =>
    if expectedLength ≥ 8 && setup.transport.transportType.isTcpType then
      sendIllegalFunction setup fcByte
    else EffM.lift (.err error)
  | _ => EffM.lift (.err error)

/-- `ingest_frame`. -/
def ingestFrame : ServerM depth σ τ Nat := do
  let rxedFrame ← EffM.gets rxedFrame
  let expectedLength ← EffM.lift (lift (expectedFrameLength setup rxedFrame.toList))
  (parseInboundFrameBody setup expectedLength).handle
    (fun message => reframeInbound setup message expectedLength)
    (fun error => rejectInbound setup expectedLength error)
  pure expectedLength

/-- The loop of `process_rxed_frame`. Every round shortens the buffer, so its length is a bound
on the rounds. -/
def processFrames : Nat → ServerM depth σ τ Unit
  | 0 => pure ()
  | rounds + 1 => do
    let rxedFrame ← EffM.gets rxedFrame
    if rxedFrame.toList.isEmpty then
      pure ()
    else
      (ingestFrame setup).handle
        (fun consumed => do
          EffM.modify fun s => s.drainRxedFrame consumed
          processFrames rounds)
        (fun error => match error with
          | .bufferTooSmall => pure ()
          | _ => do
            EffM.modify handleParseError
            processFrames rounds)

/-- `process_rxed_frame`. -/
def processRxedFrame : ServerM depth σ τ Unit := do
  let rxedFrame ← EffM.gets rxedFrame
  processFrames setup rxedFrame.length

/-! ### Queued requests -/

/-- The decoding `dispatch_pending_request` and `handle_expired_request_strict` share. -/
def decodePending (pending : PendingRequest) : Fallible (Option ModbusMessage) :=
  match deriveLengthFromBytes pending.frame.toList setup.transport.transportType with
  | none => pure none
  | some expectedLength => do
    let frame ← slice pending.frame.toList 0 expectedLength
    match decompileAduFrame frame setup.transport.transportType with
    | .ok message => pure (reframeMessage setup.transport.transportType message)
    | .err _ => pure none
    | .panic => .panic

/-- `dispatch_pending_request`. -/
def dispatchPendingRequest (pending : PendingRequest) : ServerM depth σ τ Unit := do
  match ← EffM.lift (decodePending setup pending) with
  | some message => dispatchRequest setup message
  | none => pure ()

/-- `handle_expired_request_strict`. -/
def handleExpiredRequestStrict (pending : PendingRequest) : ServerM depth σ τ Unit := do
  match ← EffM.lift (decodePending setup pending) with
  | some message =>
    EffM.modify fun s => s.sendExceptionResponse setup message.transactionId
      message.unitIdOrSlaveAddr message.functionCode .timeout
  | none => pure ()

/-- `for pending in expired`. -/
def expireAll : List PendingRequest → ServerM depth σ τ Unit
  | [] => pure ()
  | pending :: rest => do
    handleExpiredRequestStrict setup pending
    expireAll rest

/-- `expire_stale_queued_requests`. -/
def expireStaleQueuedRequests : ServerM depth σ τ Unit := do
  let deadline := setup.resilience.timeouts.requestDeadlineMs
  if deadline = 0 then
    pure ()
  else
    let now ← EffM.gets (nowUs setup)
    EffM.modify tick
    let queue ← EffM.gets requestQueue
    let (kept, expired) := RequestQueue.takeExpired now deadline queue
    EffM.modify fun s => { s with requestQueue := kept }
    if setup.resilience.timeouts.strictMode then expireAll setup expired else pure ()

/-- `while let Some(pending) = request_queue.pop_highest_priority()`. -/
def dispatchQueued : Nat → ServerM depth σ τ Unit
  | 0 => pure ()
  | count + 1 => do
    let queue ← EffM.gets requestQueue
    match RequestQueue.popHighestPriority queue with
    | none => pure ()
    | some (pending, rest) => do
      EffM.modify fun s => { s with requestQueue := rest }
      dispatchPendingRequest setup pending
      dispatchQueued count

/-- `transport.recv()`. -/
def recv : ServerM depth σ τ (Except MbusError (HVec UInt8 maxAduFrameLen)) :=
  fun s => (.ok (s.link.recv setup.transport).1,
    { s with link := (s.link.recv setup.transport).2 })

/-- Steps 3 to 5 of `poll`. -/
def processReceived (frame : HVec UInt8 maxAduFrameLen) : ServerM depth σ τ Unit := do
  EffM.modify fun s => { s.tick with lastRecvUs := s.nowUs setup }.appendToRxedFrame frame.toList
  processRxedFrame setup
  if depth > 0 && setup.resilience.enablePriorityQueue then
    expireStaleQueuedRequests setup
    let queue ← EffM.gets requestQueue
    dispatchQueued setup queue.length
  else pure ()

/-- `poll`. -/
def poll : ServerM depth σ τ Unit := do
  EffM.modify fun s => if depth > 0 then s.drainResponseQueue setup else s
  match ← recv setup with
  | .error recvError => EffM.modify fun s => s.handleRecvError setup recvError
  | .ok frame => processReceived setup frame

/-- `disconnect`, and the first half of `reconnect`. -/
def disconnect : ServerM depth σ τ Unit :=
  EffM.modify fun s => { s with rxedFrame := .empty, link := s.link.disconnect setup.transport }

/-- `connect`. -/
def connect : ServerM depth σ τ Unit :=
  fun s => (lift (s.link.connect setup.transport).1,
    { s with link := (s.link.connect setup.transport).2 })

/-- `reconnect`. -/
def reconnect : ServerM depth σ τ Unit := do
  disconnect setup
  connect setup

end ServerM

end ModbusRs
