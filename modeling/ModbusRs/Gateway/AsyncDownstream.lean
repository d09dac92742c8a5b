import ModbusRs.Core.RoundTrip
import ModbusRs.Gateway.AsyncNoLoss
import ModbusRs.Gateway.Steps

/-!
# Downstream transports of the asynchronous gateway

`GatewayTransport` speaks TCP, RTU or ASCII on the wire and TCP to the sessions. What it
receives on a serial line and cannot decode is a receive error to the session.
-/

namespace ModbusRs.Gateway

open Outcome

/-- `GatewayTransport`, without the transports in it. -/
inductive GatewayTransport where
  | tcp
  | rtu
  | ascii
  deriving DecidableEq, Repr

/-- The transport in a `GatewayTransport`, with its `recv` under the response timeout. -/
structure DownstreamWire [Features] (δ : Type) where
  send : List UInt8 → δ → Except MbusError Unit × δ
  recvTimeout : δ → Option (Except MbusError (HVec UInt8 maxAduFrameLen)) × δ

namespace GatewayTransport

/-- `transport_type`. -/
def transportType : GatewayTransport → TransportType
  | tcp => .stdTcp
  | rtu => .stdSerial .rtu
  | ascii => .stdSerial .ascii

variable [Features] {δ : Type} (kind : GatewayTransport) (wire : DownstreamWire δ)

/-- A frame of one kind as a frame of another kind. Only a TCP frame with a length field of zero
makes the decoder panic; what comes to `send` was compiled, and what is received on TCP is not
translated. -/
def translate (frame : List UInt8) (source target : TransportType) :
    Except MbusError (HVec UInt8 maxAduFrameLen) :=
  match decompileAduFrame frame source with
  | .ok msg => compileAduFrame 0 msg.unitIdOrSlaveAddr.get msg.pdu target
  | .err e => .error e
  | .panic => .error .unexpected

/-- `GatewayTransport::send`. -/
def send (adu : List UInt8) (device : δ) : Except MbusError Unit × δ :=
  match kind with
  | tcp => wire.send adu device
  | rtu | ascii =>
    match translate adu .stdTcp kind.transportType with
    | .ok frame => wire.send frame.toList device
    | .error e => (.error e, device)

/-- `GatewayTransport::recv`, under the response timeout. -/
def recvTimeout (device : δ) : Option (Except MbusError (HVec UInt8 maxAduFrameLen)) × δ :=
  match kind with
  | tcp => wire.recvTimeout device
  | rtu | ascii =>
    (match (wire.recvTimeout device).1 with
      | some (.ok frame) => some (translate frame.toList kind.transportType .stdTcp)
      | some (.error e) => some (.error e)
      | none => none, (wire.recvTimeout device).2)

/-- A gateway over such channels. -/
def setup {υ : Type} (upstream : Transport υ) : AsyncGatewaySetup υ δ where
  upstream := upstream
  downstreamType := .stdTcp
  send := kind.send wire
  recvTimeout := kind.recvTimeout wire

variable {kind wire}

/-- What a serial line hands to a session decodes. -/
theorem decompile_of_recvTimeout (hkind : kind ≠ tcp) {device : δ}
    {adu : HVec UInt8 maxAduFrameLen}
    (h : (kind.recvTimeout wire device).1 = some (.ok adu)) :
    ∃ response, decompileAduFrame adu.toList .stdTcp = .ok response := by
  have htranslate : ∃ frame : List UInt8, translate frame kind.transportType .stdTcp = .ok adu := by
    have serial (h : (match (wire.recvTimeout device).1 with
        | some (.ok frame) => some (translate frame.toList kind.transportType .stdTcp)
        | some (.error e) => some (.error e)
        | none => none) = some (.ok adu)) :
        ∃ frame : List UInt8, translate frame kind.transportType .stdTcp = .ok adu := by
      split at h
      next frame _ => exact ⟨frame.toList, Option.some.inj h⟩
      next => cases h
      next => cases h
    cases kind with
    | tcp => exact absurd rfl hkind
    | rtu => exact serial h
    | ascii => exact serial h
  obtain ⟨frame, hframe⟩ := htranslate
  unfold translate at hframe
  split at hframe
  next msg hmsg =>
    obtain ⟨_, hbytes⟩ := compileAduFrame_eq_ok hframe
    obtain ⟨_, _, _, hpdu⟩ := decompileAduFrame_eq_ok hmsg
    obtain ⟨_, _, hplain, _⟩ := Pdu.fromBytes_eq_ok hpdu
    have hdecode := Pdu.fromBytes_rawBytes_new hplain msg.pdu.data
    rw [hbytes]
    exact ModbusMessage.fromBytes_frameBytes 0 msg.unitIdOrSlaveAddr.get hdecode
      (rawBytes_length_le msg.pdu)
  next => cases hframe
  next => cases hframe

end GatewayTransport

/-- A wire on which frames are sent into the void and one response may have arrived. -/
def arrivingWire [Features] : DownstreamWire (List UInt8) where
  send _ arrived := (.ok (), arrived)
  recvTimeout arrived := (if arrived.isEmpty then none else some (.ok (.ofSlice arrived)), [])

/-- A client reads a register over an RTU line on which these bytes arrive. -/
def readOverRtu [Features] (arrived : List UInt8) : AsyncGateway (List UInt8) (List UInt8) :=
  AsyncGateway.perform (GatewayTransport.rtu.setup arrivingWire (.arriving .stdTcp))
    (.connect (readFrame 1)) ⟨[], [arrived], .passthrough, []⟩

namespace AsyncGateway

/-- The request of the client. -/
def readRequest : DecodedRequest where
  upstreamType := .stdTcp
  frame := readFrame 1
  message := ⟨.mbapHeader ⟨1, 0, 6, 1⟩, .new .readHoldingRegisters (.ofSlice [0, 0, 0, 1])⟩
  decoded := by decide +kernel

lemma reads_readOverRtu [Features] (arrived : List UInt8) :
    Reads (GatewayTransport.rtu.setup arrivingWire (.arriving .stdTcp)) (readOverRtu arrived) 0
      ⟨⟨readFrame 1, []⟩, 0, true⟩ readRequest := by
  have hframe : (HVec.ofSlice (readFrame 1) : HVec UInt8 maxAduFrameLen).toList = readFrame 1 :=
    HVec.ofSlice_toList (Nat.le_trans (by decide) le_maxAduFrameLen)
  exact ⟨rfl, rfl, rfl, _, rfl, hframe.symm⟩

/-- The device answers with a value, and the value comes back. -/
theorem repliedOnce_value :
    letI := Features.minimal
    RepliedOnce (GatewayTransport.rtu.setup arrivingWire (.arriving .stdTcp)) 0 readRequest
      (readOverRtu [0x01, 0x03, 0x02, 0x12, 0x34, 0xB5, 0x33])
      ((readOverRtu [0x01, 0x03, 0x02, 0x12, 0x34, 0xB5, 0x33]).sessionRound
        (GatewayTransport.rtu.setup arrivingWire (.arriving .stdTcp)) 0) := by
  let _ := Features.minimal
  have hreads := reads_readOverRtu [0x01, 0x03, 0x02, 0x12, 0x34, 0xB5, 0x33]
  refine (repliedOnce_sessionRound_iff hreads).mpr ⟨Or.inl (by decide +kernel), ?_⟩
  intro channelIdx downstream hrouted
  refine ⟨trivial, ?_⟩
  have hidx := hrouted.route_eq
  cases hidx
  have hdownstream := hrouted.downstream_eq
  cases hdownstream
  decide +kernel

/-- A response is garbled on the line, and the client is left without a reply. -/
theorem garbled_not_repliedOnce :
    ¬∀ [Features] (setup : AsyncGatewaySetup (List UInt8) (List UInt8))
      (s : AsyncGateway (List UInt8) (List UInt8)) (i : Nat)
      (session : AsyncSession (List UInt8)) (request : DecodedRequest), Reachable setup s →
      Reads setup s i session request → RepliedOnce setup i request s (s.sessionRound setup i) := by
  intro h
  let _ := Features.minimal
  let s := readOverRtu [0x01, 0x03, 0x02, 0x12, 0x34, 0x00, 0x00]
  let setup := GatewayTransport.rtu.setup arrivingWire (.arriving .stdTcp)
  have hreads := reads_readOverRtu [0x01, 0x03, 0x02, 0x12, 0x34, 0x00, 0x00]
  have hreachable : Reachable setup s := ⟨_, ⟨_, .passthrough, rfl⟩, Runs.Run.single _ _⟩
  have hnone : (s.sessionRound setup 0).replies.length = s.replies.length := by decide +kernel
  obtain ⟨reply, hreply, _⟩ := h setup s 0 _ _ hreachable hreads
  rw [hreply, List.length_append] at hnone
  exact absurd hnone (by simp)

end AsyncGateway

end ModbusRs.Gateway
