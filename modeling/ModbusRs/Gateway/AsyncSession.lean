import ModbusRs.Gateway.Effects

/-!
# The asynchronous gateway

Each upstream client has a session of its own, which carries one request at a time down and
its response back. Sessions share the downstream channels; a channel is locked from the send
of a request until its response is there or the timeout has passed, so a round of a session
touches it once and rounds of different sessions can be put one after the other.
-/

namespace ModbusRs.Gateway

open Outcome

/-- What stays fixed while the gateway runs. `recvTimeout` is the `recv` of a downstream under
`tokio::time::timeout`, with `none` when the time is up. -/
structure AsyncGatewaySetup [Features] (υ δ : Type) where
  upstream : Transport υ
  downstreamType : TransportType
  send : List UInt8 → δ → Except MbusError Unit × δ
  recvTimeout : δ → Option (Except MbusError (HVec UInt8 maxAduFrameLen)) × δ

/-- The state of `run_async_session`: its transport, `next_txn`, and whether it still runs. -/
structure AsyncSession (υ : Type) where
  link : Link υ
  nextTxn : UInt16
  running : Bool

/-- A frame handed to the transport of a session on behalf of a request, with the downstream
frame when it carries one back. -/
structure AsyncReply where
  session : Nat
  request : DecodedRequest
  adu : List UInt8
  delivery : Option (List UInt8)

/-- The sessions and the channels they share, with the history of the replies. -/
structure AsyncGateway (υ δ : Type) where
  sessions : List (AsyncSession υ)
  downstreams : List δ
  router : Router
  replies : List AsyncReply

/-- How the exchange with a downstream ends. -/
inductive Exchange [Features] where
  | sendFailed
  | recvFailed
  | timedOut
  | received (bytes : HVec UInt8 maxAduFrameLen)

namespace AsyncGateway

variable [Features] {υ δ : Type}

/-- Update one session. -/
def modifySession (s : AsyncGateway υ δ) (i : Nat) (f : AsyncSession υ → AsyncSession υ) :
    AsyncGateway υ δ :=
  { s with sessions := s.sessions.modify i f }

/-- The end of a session. -/
def endSession (s : AsyncGateway υ δ) (i : Nat) : AsyncGateway υ δ :=
  s.modifySession i fun session => { session with running := false }

variable (setup : AsyncGatewaySetup υ δ)

/-- `upstream.send(..)`, with whether it went well. -/
def sendReply (s : AsyncGateway υ δ) (i : Nat) (request : DecodedRequest) (adu : List UInt8)
    (delivery : Option (List UInt8)) : Bool × AsyncGateway υ δ :=
  match s.sessions[i]? with
  | none => (false, s)
  | some session =>
    ((session.link.send setup.upstream adu).1.isOk,
      { s.modifySession i fun session =>
          { session with link := (session.link.send setup.upstream adu).2 } with
        replies := s.replies ++ [⟨i, request, adu, delivery⟩] })

/-- `send_async_exception`, whose result no caller looks at. -/
def sendAsyncException (s : AsyncGateway υ δ) (i : Nat) (request : DecodedRequest)
    (exceptionCode : ExceptionCode) : AsyncGateway υ δ :=
  match request.fc.exceptionResponse with
  | none => s
  | some exceptionFc =>
    match (do
      let pdu ← Pdu.buildBytePayload exceptionFc exceptionCode.toByte
      compileAduFrame request.upstreamTxn request.unit.get pdu request.upstreamType) with
    | .ok adu => (s.sendReply setup i request adu.toList none).2
    | .error _ => s

/-- The part of a round under the lock of the channel. -/
def exchange (s : AsyncGateway υ δ) (channelIdx : Nat) (adu : List UInt8) :
    Exchange × AsyncGateway υ δ :=
  match s.downstreams[channelIdx]? with
  | none => (.sendFailed, s)
  | some downstream =>
    match setup.send adu downstream with
    | (.error _, downstream) =>
      (.sendFailed, { s with downstreams := s.downstreams.set channelIdx downstream })
    | (.ok (), downstream) =>
      let (received, downstream) := setup.recvTimeout downstream
      let s := { s with downstreams := s.downstreams.set channelIdx downstream }
      match received with
      | some (.ok bytes) => (.received bytes, s)
      | some (.error _) => (.recvFailed, s)
      | none => (.timedOut, s)

/-- The end of a round: the response is parsed and encoded again for the upstream. -/
def returnResponse (s : AsyncGateway υ δ) (i : Nat) (request : DecodedRequest)
    (responseBytes : List UInt8) : AsyncGateway υ δ :=
  match decompileAduFrame responseBytes setup.downstreamType with
  | .panic => s.endSession i
  | .err _ => s
  | .ok response =>
    match compileAduFrame request.upstreamTxn request.unit.get response.pdu
        request.upstreamType with
    | .error _ => s
    | .ok adu =>
      let (sent, s) := s.sendReply setup i request adu.toList (some responseBytes)
      if sent then s else s.endSession i

/-- A request on its way to a channel and back. -/
def forwardRequest (s : AsyncGateway υ δ) (i channelIdx : Nat) (session : AsyncSession υ)
    (request : DecodedRequest) : AsyncGateway υ δ :=
  let internalTxn := session.nextTxn
  let s := s.modifySession i fun session => { session with nextTxn := internalTxn + 1 }
  match compileAduFrame internalTxn (s.router.rewrite request.unit).get request.pdu
      setup.downstreamType with
  | .error _ => s
  | .ok dsAdu =>
    match s.exchange setup channelIdx dsAdu.toList with
    | (.sendFailed, s) => s
    | (.recvFailed, s) => s
    | (.timedOut, s) => s.sendAsyncException setup i request .gatewayTargetDeviceFailedToRespond
    | (.received responseBytes, s) => s.returnResponse setup i request responseBytes.toList

/-- A parsed request. -/
def serveRequest (s : AsyncGateway υ δ) (i : Nat) (session : AsyncSession υ)
    (request : DecodedRequest) : AsyncGateway υ δ :=
  match s.router.route request.unit with
  | none => s.sendAsyncException setup i request .serverDeviceFailure
  | some channelIdx =>
    if s.downstreams.length ≤ channelIdx then
      s.sendAsyncException setup i request .serverDeviceFailure
    else s.forwardRequest setup i channelIdx session request

/-- One round of the loop in `run_async_session`. A panic of the decoder ends the session. -/
def sessionRound (s : AsyncGateway υ δ) (i : Nat) : AsyncGateway υ δ :=
  match s.sessions[i]? with
  | none => s
  | some session =>
    if !session.running then s
    else
      let received := (session.link.recv setup.upstream).1
      let s := s.modifySession i fun session =>
        { session with link := (session.link.recv setup.upstream).2 }
      match received with
      | .error _ => s.endSession i
      | .ok frame =>
        match h : decompileAduFrame frame.toList setup.upstream.transportType with
        | .panic => s.endSession i
        | .err _ => s
        | .ok message => s.serveRequest setup i session ⟨_, _, message, h⟩

end AsyncGateway

/-- What can happen to an asynchronous gateway. -/
inductive AsyncGatewayAction (υ δ : Type) where
  | environment (upstream : Nat → υ → υ) (downstream : Nat → δ → δ) (router : Router)
  | connect (transport : υ)
  | sessionRound (i : Nat)

namespace AsyncGateway

variable [Features] {υ δ : Type} (setup : AsyncGatewaySetup υ δ)

/-- What an action leaves behind. -/
def perform (action : AsyncGatewayAction υ δ) (s : AsyncGateway υ δ) : AsyncGateway υ δ :=
  match action with
  | .environment upstream downstream router =>
    { s with
      sessions := s.sessions.mapIdx fun i session =>
        { session with link := { session.link with state := upstream i session.link.state } }
      downstreams := s.downstreams.mapIdx downstream
      router := router }
  | .connect transport => { s with sessions := s.sessions ++ [⟨⟨transport, []⟩, 0, true⟩] }
  | .sessionRound i => s.sessionRound setup i

/-- The states an asynchronous gateway can get into. -/
def Reachable (s : AsyncGateway υ δ) : Prop :=
  Runs.Reachable (fun s => ∃ downstreams router, s = ⟨[], downstreams, router, []⟩)
    (perform setup) s

end AsyncGateway

end ModbusRs.Gateway
