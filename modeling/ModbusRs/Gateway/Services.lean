import ModbusRs.Core.Transport
import ModbusRs.Core.Wire
import ModbusRs.Gateway.TxnMap
import ModbusRs.Library.Effect

/-!
# The gateway services

`GatewayServices` forwards requests of several upstream clients to downstream channels, one
request at a time per channel, and carries the responses back. The event handler is left out:
it is told what happens and changes nothing.
-/

namespace ModbusRs.Gateway

open Outcome

/-- `GatewayRoutingPolicy`. -/
structure Router where
  route : UnitIdOrSlaveAddr → Option Nat
  rewrite : UnitIdOrSlaveAddr → UnitIdOrSlaveAddr

/-- What stays fixed while the gateway runs. `origin` is no part of the gateway: it says which
request the downstream device means to answer with the bytes that arrive next. -/
structure GatewaySetup [Features] (υ δ : Type) where
  upstream : Transport υ
  transportTypeRt : υ → TransportType
  downstream : Transport δ
  responseTimeoutMs : UInt64
  origin : δ → Option Nat

/-- An upstream frame that decoded. The source copies the fields it needs from the message. -/
structure DecodedRequest where
  upstreamType : TransportType
  frame : List UInt8
  message : ModbusMessage
  decoded : decompileAduFrame frame upstreamType = .ok message

namespace DecodedRequest

variable (request : DecodedRequest)

/-- `upstream_txn`. -/
def upstreamTxn : UInt16 := request.message.transactionId

/-- `unit`. -/
def unit : UnitIdOrSlaveAddr := request.message.unitIdOrSlaveAddr

/-- `fc`. -/
def fc : FunctionCode := request.message.pdu.functionCode

/-- `pdu`. -/
def pdu : Pdu := request.message.pdu

end DecodedRequest

/-- A request as the gateway took it in: its session, the number of requests before it, and the
upstream that made it. -/
structure UpstreamRequest extends DecodedRequest where
  id : Nat
  sessionIdx : UInt8
  connection : Nat

/-- `PendingRequest`. -/
structure PendingRequest extends UpstreamRequest where
  downstreamUnit : UnitIdOrSlaveAddr

/-- `ChannelState`. The source copies the fields it needs from the request. -/
inductive ChannelState where
  | idle
  | awaitingResponse (internalTxn : UInt16) (deadlineMs : UInt64) (request : PendingRequest)

/-- `is_idle`. -/
def ChannelState.isIdle : ChannelState → Bool
  | idle => true
  | awaitingResponse .. => false

/-- `UpstreamChannel`, with the number of upstreams added before it. -/
structure UpstreamChannel [Features] (υ : Type) where
  link : Link υ
  rxbuf : HVec UInt8 maxAduFrameLen
  sessionId : UInt8
  connection : Nat

/-- `DownstreamChannel`, with the origin of each byte in its buffer. -/
structure DownstreamChannel [Features] (δ : Type) where
  link : Link δ
  rxbuf : HVec UInt8 maxAduFrameLen
  state : ChannelState
  origins : List (Option Nat)

/-- A downstream frame that is carried back: how the request went out, the transaction id found
for it, the bytes of the frame and where they come from. -/
structure Delivery where
  internalTxn : UInt16
  downstreamUnit : UnitIdOrSlaveAddr
  upstreamTxn : UInt16
  frame : List UInt8
  origins : List (Option Nat)

/-- A frame handed to an upstream transport on behalf of a request. -/
structure Reply where
  request : UpstreamRequest
  sessionId : UInt8
  connection : Nat
  adu : List UInt8
  delivery : Option Delivery

/-- `N_UPSTREAM`, `N_DOWNSTREAM`, `TXN_SIZE` and `N_PENDING`. -/
structure Capacity where
  upstream : Nat
  downstream : Nat
  txn : Nat
  pending : Nat

/-- `GatewayServices`, with the number of upstreams that were ever added, and the history of what
was accepted and replied. -/
structure GatewayServices [Features] (cap : Capacity) (υ δ : Type) where
  upstreams : HVec (UpstreamChannel υ) cap.upstream
  downstreams : HVec (DownstreamChannel δ) cap.downstream
  router : Router
  txnMap : TxnMap cap.txn
  pending : HVec PendingRequest cap.pending
  connections : Nat
  accepted : List UpstreamRequest
  replies : List Reply

/-- `PollOutcome`. -/
inductive PollOutcome where
  | idle
  | active
  | allUpstreamsDisconnected
  deriving DecidableEq, Repr

/-- The length of the frame at the start of a buffer, once all of it is there. -/
def completeLength [Features] (tt : TransportType) (rxbuf : HVec UInt8 maxAduFrameLen) :
    Option Nat :=
  match deriveLengthFromBytes rxbuf.toList tt with
  | some expectedLen => if expectedLen ≤ rxbuf.length then some expectedLen else none
  | none => none

lemma completeLength_eq_some [Features] {tt : TransportType} {rxbuf : HVec UInt8 maxAduFrameLen}
    {n : Nat} (h : completeLength tt rxbuf = some n) :
    deriveLengthFromBytes rxbuf.toList tt = some n ∧ n ≤ rxbuf.toList.length := by
  unfold completeLength at h
  split at h
  next len hlen =>
    split at h
    next hle =>
      cases h
      exact ⟨hlen, hle⟩
    next => cases h
  next => cases h

/-- The length field of zero, on which the decoder panics, makes a frame of six bytes. -/
lemma decompileAduFrame_ne_panic_of_completeLength [Features] {tt : TransportType}
    {rxbuf : HVec UInt8 maxAduFrameLen} {n : Nat} (h : completeLength tt rxbuf = some n) :
    decompileAduFrame (rxbuf.toList.take n) tt ≠ .panic := by
  obtain ⟨hlen, _⟩ := completeLength_eq_some h
  have tcp (hlen : deriveLengthFromBytes rxbuf.toList .stdTcp = some n) :
      decompileAduFrame (rxbuf.toList.take n) .stdTcp ≠ .panic := by
    change ModbusMessage.fromBytes _ ≠ _
    rw [Ne, fromBytes_eq_panic_iff]
    rintro ⟨_, h8, hp₁, hp₂, hl₁, hl₂⟩
    have hn : 8 ≤ n := by
      rw [List.length_take] at h8
      omega
    have hget : ∀ i, i < 8 → (rxbuf.toList.take n).getD i 0 = rxbuf.toList.getD i 0 := by
      intro i hi
      rw [List.getD_eq_getElem?_getD, List.getD_eq_getElem?_getD, List.getElem?_take_of_lt (by omega)]
    rw [hget 2 (by omega)] at hp₁
    rw [hget 3 (by omega)] at hp₂
    rw [hget 4 (by omega)] at hl₁
    rw [hget 5 (by omega)] at hl₂
    simp only [deriveLengthFromBytes, hp₁, hp₂, hl₁, hl₂] at hlen
    split at hlen
    · cases hlen
    · cases hlen
      exact absurd hn (by decide)
  cases tt with
  | stdTcp => exact tcp hlen
  | customTcp => exact tcp hlen
  | stdSerial mode =>
    cases mode with
    | rtu => exact ModbusMessage.fromRtuBytes_ne_panic _
    | ascii => exact ModbusMessage.fromAsciiBytes_ne_panic _
  | customSerial mode =>
    cases mode with
    | rtu => exact ModbusMessage.fromRtuBytes_ne_panic _
    | ascii => exact ModbusMessage.fromAsciiBytes_ne_panic _

/-- An accepted frame. -/
def decodeRequest (id : Nat) (sessionIdx : UInt8) (connection : Nat)
    (upstreamType : TransportType) (frame : List UInt8) : Option UpstreamRequest :=
  match h : decompileAduFrame frame upstreamType with
  | .ok message => some ⟨⟨upstreamType, frame, message, h⟩, id, sessionIdx, connection⟩
  | _ => none

namespace GatewayServices

variable [Features] {cap : Capacity} {υ δ : Type}

/-- `GatewayServices::new`. -/
def new (router : Router) : GatewayServices cap υ δ where
  upstreams := .empty
  downstreams := .empty
  router := router
  txnMap := .new
  pending := .empty
  connections := 0
  accepted := []
  replies := []

/-- `add_upstream`. -/
def addUpstream (s : GatewayServices cap υ δ) (transport : υ) :
    Except MbusError Unit × GatewayServices cap υ δ :=
  match s.upstreams.push
      ⟨⟨transport, []⟩, .empty, UInt8.ofNat s.upstreams.length, s.connections⟩ with
  | some upstreams => (.ok (), { s with upstreams, connections := s.connections + 1 })
  | none => (.error .tooManyRequests, s)

/-- `add_downstream`, for a new channel. -/
def addDownstream (s : GatewayServices cap υ δ) (transport : δ) :
    Except MbusError Unit × GatewayServices cap υ δ :=
  match s.downstreams.push ⟨⟨transport, []⟩, .empty, .idle, []⟩ with
  | some downstreams => (.ok (), { s with downstreams })
  | none => (.error .tooManyRequests, s)

section Replies

variable (setup : GatewaySetup υ δ)

/-- `self.upstreams.iter_mut().find(|up| up.session_id as usize == session_idx)`. -/
def findUpstream (s : GatewayServices cap υ δ) (sessionIdx : UInt8) : Option Nat :=
  s.upstreams.toList.findIdx? (·.sessionId == sessionIdx)

/-- `up_channel.transport.send(&adu)`, with whether it went well. -/
def sendReply (s : GatewayServices cap υ δ) (up : Nat) (request : UpstreamRequest)
    (adu : List UInt8) (delivery : Option Delivery) :
    Bool × GatewayServices cap υ δ :=
  match s.upstreams.toList[up]? with
  | none => (false, s)
  | some channel =>
    ((channel.link.send setup.upstream adu).1.isOk,
      { s with
        upstreams := s.upstreams.modify up fun channel =>
          { channel with link := (channel.link.send setup.upstream adu).2 }
        replies := s.replies ++ [⟨request, channel.sessionId, channel.connection, adu, delivery⟩] })

/-- `send_exception_upstream`, whose result no caller looks at. -/
def sendExceptionUpstream (s : GatewayServices cap υ δ) (upstream : Option Nat)
    (request : UpstreamRequest) (exceptionCode : ExceptionCode) : GatewayServices cap υ δ :=
  match upstream, request.fc.exceptionResponse with
  | some up, some exceptionFc =>
    match (do
      let pdu ← Pdu.buildBytePayload exceptionFc exceptionCode.toByte
      compileAduFrame request.upstreamTxn request.unit.get pdu request.upstreamType) with
    | .ok adu => (s.sendReply setup up request adu.toList none).2
    | .error _ => s
  | _, _ => s

/-- An exception to the session a request came from. -/
def refuse (s : GatewayServices cap υ δ) (request : UpstreamRequest)
    (exceptionCode : ExceptionCode) : GatewayServices cap υ δ :=
  s.sendExceptionUpstream setup (s.findUpstream request.sessionIdx) request exceptionCode

/-- `let _ = self.txn_map.remove(internal_txn)`. -/
def removeTxn (s : GatewayServices cap υ δ) (internalTxn : UInt16) : GatewayServices cap υ δ :=
  { s with txnMap := (s.txnMap.remove internalTxn).2 }

/-- Update one downstream channel. -/
def modifyDownstream (s : GatewayServices cap υ δ) (i : Nat)
    (f : DownstreamChannel δ → DownstreamChannel δ) : GatewayServices cap υ δ :=
  { s with downstreams := s.downstreams.modify i f }

/-- `self.downstreams[i].state = state`. -/
def setState (s : GatewayServices cap υ δ) (i : Nat) (state : ChannelState) :
    GatewayServices cap υ δ :=
  s.modifyDownstream i fun channel => { channel with state }

end Replies

/-! ### Dispatching -/

section Dispatch

variable (setup : GatewaySetup υ δ)

/-- `self.txn_map.allocate(req.upstream_txn, req.session_idx as u8)`. -/
def allocate (s : GatewayServices cap υ δ) (request : PendingRequest) :
    Option UInt16 × GatewayServices cap υ δ :=
  ((s.txnMap.allocate request.upstreamTxn request.sessionIdx).1,
    { s with txnMap := (s.txnMap.allocate request.upstreamTxn request.sessionIdx).2 })

/-- `self.downstreams[i].transport.send(&downstream_adu)`; an index out of range is ruled out
by the callers. -/
def sendDownstream (s : GatewayServices cap υ δ) (i : Nat) (adu : List UInt8) :
    Except MbusError Unit × GatewayServices cap υ δ :=
  match s.downstreams.toList[i]? with
  | none => (.error .unexpected, s)
  | some channel =>
    ((channel.link.send setup.downstream adu).1, s.modifyDownstream i fun channel =>
      { channel with link := (channel.link.send setup.downstream adu).2 })

/-- `now_ms + self.response_timeout_ms`. -/
def deadline (nowMs : UInt64) : Outcome Empty UInt64 :=
  if Features.overflowChecks ∧ 2 ^ 64 ≤ nowMs.toNat + setup.responseTimeoutMs.toNat then .panic
  else .ok (nowMs + setup.responseTimeoutMs)

end Dispatch

/-- `self.downstreams[i].state.is_idle()`. -/
def channelIdle (s : GatewayServices cap υ δ) (i : Nat) : Bool :=
  match s.downstreams.toList[i]? with
  | some channel => channel.state.isIdle
  | none => false

/-- The channel a unit is routed to, when there is one. -/
def routedChannel (s : GatewayServices cap υ δ) (unit : UnitIdOrSlaveAddr) : Option Nat :=
  match s.router.route unit with
  | some channelIdx => if channelIdx < s.downstreams.length then some channelIdx else none
  | none => none

/-- `let _ = self.pending.push(req)`. -/
def requeue (s : GatewayServices cap υ δ) (request : PendingRequest) : GatewayServices cap υ δ :=
  { s with pending := (s.pending.push request).getD s.pending }

/-! ### Receiving -/

section Receive

variable (setup : GatewaySetup υ δ)

/-- The `recv` of phase 1, with whether the connection is still good. -/
def receiveDownstream (channel : DownstreamChannel δ) : Bool × DownstreamChannel δ :=
  let link := (channel.link.recv setup.downstream).2
  match (channel.link.recv setup.downstream).1 with
  | .ok bytes =>
    match channel.rxbuf.extendFromSlice bytes.toList with
    | some rxbuf => (true, { channel with
        link
        rxbuf
        origins := channel.origins ++
          List.replicate bytes.length (setup.origin channel.link.state) })
    | none => (true, { channel with link, rxbuf := .empty, origins := [] })
  | .error .timeout => (true, { channel with link })
  | .error _ => (false, { channel with link })

/-- The bytes of a complete response leave the buffer, and its request leaves the map. -/
def takeResponse (s : GatewayServices cap υ δ) (i expectedLen : Nat) (internalTxn : UInt16) :
    GatewayServices cap υ δ :=
  (s.removeTxn internalTxn).modifyDownstream i fun channel => { channel with
    rxbuf := channel.rxbuf.dropFirst expectedLen
    origins := channel.origins.drop expectedLen }

/-- A complete response goes to the session of its request. A frame of the derived length does
not make the decoder panic, so what does not decode is an error here. -/
def completeResponse (s : GatewayServices cap υ δ) (i expectedLen : Nat)
    (channel : DownstreamChannel δ) (internalTxn : UInt16) (request : PendingRequest) :
    Bool × GatewayServices cap υ δ :=
  let frame := channel.rxbuf.toList.take expectedLen
  let taken := s.takeResponse i expectedLen internalTxn
  match decompileAduFrame frame setup.downstream.transportType,
      (s.txnMap.remove internalTxn).1 with
  | .ok response, some entry =>
    match compileAduFrame entry.upstreamTxn request.unit.get response.pdu request.upstreamType,
        taken.findUpstream request.sessionIdx with
    | .ok adu, some up =>
      taken.sendReply setup up request.toUpstreamRequest adu.toList (some
        ⟨internalTxn, request.downstreamUnit, entry.upstreamTxn, frame,
          channel.origins.take expectedLen⟩)
    | _, _ => (false, taken)
  | _, _ => (false, taken)

/-- The end of a request whose deadline has passed or whose connection is lost. -/
def abandonRequest (s : GatewayServices cap υ δ) (i : Nat) (internalTxn : UInt16)
    (request : PendingRequest) : GatewayServices cap υ δ :=
  ((s.removeTxn internalTxn).refuse setup request.toUpstreamRequest
    .gatewayPathUnavailable).modifyDownstream i fun channel =>
      { channel with rxbuf := .empty, origins := [], state := .idle }

/-- Phase 1 for one channel, without serving the queue afterwards: `none` when the channel
stays as it is, otherwise whether there was activity. -/
def pollDownstream (s : GatewayServices cap υ δ) (i : Nat) (nowMs : UInt64) :
    Option Bool × GatewayServices cap υ δ :=
  match s.downstreams.toList[i]? with
  | none => (none, s)
  | some channel =>
    match channel.state with
    | .idle => (none, s)
    | .awaitingResponse internalTxn deadlineMs request =>
      if deadlineMs ≤ nowMs then (some true, s.abandonRequest setup i internalTxn request)
      else
        let received := (receiveDownstream setup channel).2
        let s := s.modifyDownstream i fun _ => received
        if (receiveDownstream setup channel).1 then
          match completeLength setup.downstream.transportType received.rxbuf with
          | none => (none, s)
          | some expectedLen =>
            let completed := s.completeResponse setup i expectedLen received internalTxn request
            (some completed.1, completed.2.setState i .idle)
        else (some true, s.abandonRequest setup i internalTxn request)

/-- The `recv` of phase 2, with the session when it has disconnected. -/
def receiveUpstream (s : GatewayServices cap υ δ) (up : Nat) :
    Option UInt8 × GatewayServices cap υ δ :=
  match s.upstreams.toList[up]? with
  | none => (none, s)
  | some channel =>
    let link := (channel.link.recv setup.upstream).2
    let s := { s with upstreams := s.upstreams.modify up fun channel => { channel with link } }
    match (channel.link.recv setup.upstream).1 with
    | .ok bytes => (none, { s with upstreams := s.upstreams.modify up fun channel =>
        { channel with rxbuf := (channel.rxbuf.extendFromSlice bytes.toList).getD .empty } })
    | .error .connectionClosed | .error .connectionLost | .error .ioError =>
      (some channel.sessionId, s)
    | .error _ => (none, s)

/-- Number of buffered bytes of an upstream. -/
def upstreamBuffered (s : GatewayServices cap υ δ) (up : Nat) : Nat :=
  match s.upstreams.toList[up]? with
  | none => 0
  | some channel => channel.rxbuf.length

/-- The next complete frame of an upstream, taken out of the buffer; and accepted, if it
decodes. -/
def takeUpstreamFrame (s : GatewayServices cap υ δ) (up : Nat) :
    Option (Option UpstreamRequest) × GatewayServices cap υ δ :=
  match s.upstreams.toList[up]? with
  | none => (none, s)
  | some channel =>
    let upstreamType := setup.transportTypeRt channel.link.state
    match completeLength upstreamType channel.rxbuf with
    | none => (none, s)
    | some expectedLen =>
      let s := { s with upstreams := s.upstreams.modify up fun channel =>
        { channel with rxbuf := channel.rxbuf.dropFirst expectedLen } }
      match decodeRequest s.accepted.length channel.sessionId channel.connection upstreamType
          (channel.rxbuf.toList.take expectedLen) with
      | none => (some none, s)
      | some request =>
        (some (some request), { s with accepted := s.accepted ++ [request] })

end Receive

/-- Phase 3 for one session. -/
def removeSession (s : GatewayServices cap υ δ) (sessionIdx : UInt8) : GatewayServices cap υ δ :=
  { s with
    upstreams := match s.findUpstream sessionIdx with
      | some pos => match s.upstreams.swapRemove pos with
        | some (_, upstreams) => upstreams
        | none => s.upstreams
      | none => s.upstreams
    txnMap := (s.txnMap.removeBySession sessionIdx).2 }

end GatewayServices

/-- Routines of the gateway. -/
abbrev GatewayM [Features] (cap : Capacity) (υ δ α : Type) : Type :=
  EffM Empty (GatewayServices cap υ δ) α

namespace GatewayM

open GatewayServices

variable [Features] {cap : Capacity} {υ δ : Type} (setup : GatewaySetup υ δ)

/-- A routine that cannot panic. -/
def update {α : Type} (f : GatewayServices cap υ δ → α × GatewayServices cap υ δ) :
    GatewayM cap υ δ α :=
  fun s => (.ok (f s).1, (f s).2)

@[simp] lemma run_update_bind {α β : Type}
    (f : GatewayServices cap υ δ → α × GatewayServices cap υ δ) (g : α → GatewayM cap υ δ β)
    (s : GatewayServices cap υ δ) : (update f >>= g).run s = (g (f s).1).run (f s).2 := rfl

/-- The part of `dispatch_to_downstream` behind the allocation. -/
def forward (i : Nat) (request : PendingRequest) (internalTxn : UInt16) (nowMs : UInt64) :
    GatewayM cap υ δ Unit :=
  match compileAduFrame internalTxn request.downstreamUnit.get request.pdu
      setup.downstream.transportType with
  | .error _ => EffM.modify fun s => s.removeTxn internalTxn
  | .ok downstreamAdu => do
    match ← update (sendDownstream setup · i downstreamAdu.toList) with
    | .error _ => EffM.modify fun s =>
      (s.removeTxn internalTxn).refuse setup request.toUpstreamRequest .gatewayPathUnavailable
    | .ok () => do
      let deadlineMs ← EffM.lift (deadline setup nowMs)
      EffM.modify fun s => s.setState i (.awaitingResponse internalTxn deadlineMs request)

/-- `dispatch_to_downstream`. -/
def dispatchToDownstream (i : Nat) (request : PendingRequest) (nowMs : UInt64) :
    GatewayM cap υ δ Unit := do
  match ← update (GatewayServices.allocate · request) with
  | none => EffM.modify fun s =>
    s.refuse setup request.toUpstreamRequest .gatewayTargetDeviceFailedToRespond
  | some internalTxn => forward setup i request internalTxn nowMs

/-- `self.pending.push(req)`, with an exception when the queue is full. -/
def enqueue (request : PendingRequest) : GatewayM cap υ δ Unit :=
  EffM.modify fun s =>
    match s.pending.push request with
    | some pending => { s with pending }
    | none => s.refuse setup request.toUpstreamRequest .gatewayTargetDeviceFailedToRespond

/-- `route_or_queue_request`. -/
def routeOrQueueRequest (request : PendingRequest) (nowMs : UInt64) : GatewayM cap υ δ Unit := do
  let s ← EffM.gets id
  if !s.pending.toList.isEmpty then enqueue setup request
  else do
    let channelIdx ← EffM.lift (unwrap (s.router.route request.unit))
    if s.channelIdle channelIdx then dispatchToDownstream setup channelIdx request nowMs
    else enqueue setup request

/-- One round of the loop in `try_service_pending`. -/
def serviceNext (nowMs : UInt64) : GatewayM cap υ δ Unit := do
  let s ← EffM.gets id
  match s.pending.popFront with
  | none => pure ()
  | some (request, pending) => do
    EffM.modify fun s => { s with pending }
    match s.routedChannel request.unit with
    | none => EffM.modify fun s =>
      s.refuse setup request.toUpstreamRequest .gatewayPathUnavailable
    | some channelIdx =>
      if s.channelIdle channelIdx then dispatchToDownstream setup channelIdx request nowMs
      else EffM.modify fun s => s.requeue request

/-- The loop in `try_service_pending`. -/
def servicePending (nowMs : UInt64) : Nat → GatewayM cap υ δ Unit
  | 0 => pure ()
  | limit + 1 => do
    let s ← EffM.gets id
    if s.pending.toList.isEmpty then pure ()
    else do
      serviceNext setup nowMs
      servicePending nowMs limit

/-- `try_service_pending`. -/
def tryServicePending (nowMs : UInt64) : GatewayM cap υ δ Unit :=
  servicePending setup nowMs cap.pending

/-! ### Polling -/

/-- Phase 1 for one channel. -/
def drainDownstream (i : Nat) (nowMs : UInt64) : GatewayM cap υ δ Bool := do
  match ← update (pollDownstream setup · i nowMs) with
  | none => pure false
  | some active => do
    tryServicePending setup nowMs
    pure active

/-- An upstream request on its way to a channel. -/
def handleRequest (up : Nat) (request : UpstreamRequest) (nowMs : UInt64) :
    GatewayM cap υ δ Unit := do
  let s ← EffM.gets id
  match s.routedChannel request.unit with
  | none => EffM.modify fun s =>
    s.sendExceptionUpstream setup (some up) request .gatewayPathUnavailable
  | some _ =>
    routeOrQueueRequest setup ⟨request, s.router.rewrite request.unit⟩ nowMs

/-- One round of the framing loop of phase 2: `none` when no complete frame is left, otherwise
whether the frame was a request. -/
def upstreamRound (up : Nat) (nowMs : UInt64) : GatewayM cap υ δ (Option Bool) := do
  match ← update (takeUpstreamFrame setup · up) with
  | none => pure none
  | some none => pure (some false)
  | some (some request) => do
    handleRequest setup up request nowMs
    pure (some true)

/-- The framing loop of phase 2. Every round takes at least one byte. -/
def upstreamFrames (up : Nat) (nowMs : UInt64) : Nat → GatewayM cap υ δ Bool
  | 0 => pure false
  | rounds + 1 => do
    match ← upstreamRound setup up nowMs with
    | none => pure false
    | some active => do
      let rest ← upstreamFrames up nowMs rounds
      pure (active || rest)

/-- Phase 2 for one channel: the session that has disconnected, and whether a request came. -/
def drainUpstream (up : Nat) (nowMs : UInt64) : GatewayM cap υ δ (Option UInt8 × Bool) := do
  let gone ← update (receiveUpstream setup · up)
  let s ← EffM.gets id
  let active ← upstreamFrames setup up nowMs (s.upstreamBuffered up)
  pure (gone, active)

/-- Phase 2. -/
def drainUpstreams (nowMs : UInt64) : List Nat → GatewayM cap υ δ (List UInt8 × Bool)
  | [] => pure ([], false)
  | up :: rest => do
    let (gone, active) ← drainUpstream setup up nowMs
    let (gone', active') ← drainUpstreams nowMs rest
    pure (gone.toList ++ gone', active || active')

/-- Phase 1. -/
def drainDownstreams (nowMs : UInt64) : List Nat → GatewayM cap υ δ Bool
  | [] => pure false
  | i :: rest => do
    let active ← drainDownstream setup i nowMs
    let active' ← drainDownstreams nowMs rest
    pure (active || active')

/-- `GatewayServices::poll`. -/
def poll (nowMs : UInt64) : GatewayM cap υ δ PollOutcome := do
  let s ← EffM.gets id
  let active ← drainDownstreams setup nowMs (List.range s.downstreams.length)
  let s ← EffM.gets id
  let (gone, active') ← drainUpstreams setup nowMs (List.range s.upstreams.length)
  EffM.modify fun s => gone.foldl removeSession s
  let s ← EffM.gets id
  pure (if s.upstreams.toList.isEmpty && !gone.isEmpty then .allUpstreamsDisconnected
    else if active || active' || !gone.isEmpty then .active
    else .idle)

end GatewayM

end ModbusRs.Gateway
