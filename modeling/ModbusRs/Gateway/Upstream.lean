import ModbusRs.Core.RoundTrip
import ModbusRs.Core.Transport

/-!
# Mixed upstreams

`GatewayUpstream` puts TCP, RTU and ASCII transports into one slot of the gateway. The gateway
frames what it reads and writes by `transport_type_rt`, which names the format on the wire, while
`recv` and `send` of a serial variant speak TCP to it. Only the TCP variant agrees with itself.
-/

namespace ModbusRs.Gateway

open Outcome

/-- The transports behind the variants of `GatewayUpstream`. -/
structure UpstreamTransports [Features] (α β γ : Type) where
  tcp : Transport α
  rtu : Transport β
  ascii : Transport γ

/-- `GatewayUpstream`. -/
inductive GatewayUpstream (α β γ : Type) where
  | tcp (t : Link α)
  | rtu (t : Link β)
  | ascii (t : Link γ)

/-- The two steps that `send` and `recv` of the serial variants share: a frame of one format is
taken apart and put into another one, under the transaction id 0. -/
def translate [Features] (source target : TransportType) (adu : List UInt8) :
    Fallible (HVec UInt8 maxAduFrameLen) := do
  let msg ← decompileAduFrame adu source
  let unit := msg.unitIdOrSlaveAddr.get
  lift (compileAduFrame 0 unit msg.pdu target)

namespace GatewayUpstream

variable {α β γ : Type}

/-- `transport_type_rt`: the `TRANSPORT_TYPE` of the transport inside. -/
def transportTypeRt : GatewayUpstream α β γ → TransportType
  | tcp _ => .stdTcp
  | rtu _ => .stdSerial .rtu
  | ascii _ => .stdSerial .ascii

/-- The upstream is a TCP transport. -/
def IsTcp (up : GatewayUpstream α β γ) : Prop := up.transportTypeRt = .stdTcp

instance (up : GatewayUpstream α β γ) : Decidable up.IsTcp := inferInstanceAs (Decidable (_ = _))

/-- The frames handed to the transport inside. -/
def sent : GatewayUpstream α β γ → List (List UInt8)
  | tcp t => t.sent
  | rtu t => t.sent
  | ascii t => t.sent

variable [Features] (transports : UpstreamTransports α β γ) (up : GatewayUpstream α β γ)

/-- `send`. A frame that cannot be translated does not reach the transport inside. -/
def send (adu : List UInt8) : Fallible Unit × GatewayUpstream α β γ :=
  match up with
  | tcp t => (lift (t.send transports.tcp adu).1, tcp (t.send transports.tcp adu).2)
  | rtu t =>
    match translate .stdTcp (.stdSerial .rtu) adu with
    | .ok wire =>
      (lift (t.send transports.rtu wire.toList).1, rtu (t.send transports.rtu wire.toList).2)
    | .err e => (.err e, rtu t)
    | .panic => (.panic, rtu t)
  | ascii t =>
    match translate .stdTcp (.stdSerial .ascii) adu with
    | .ok wire =>
      (lift (t.send transports.ascii wire.toList).1, ascii (t.send transports.ascii wire.toList).2)
    | .err e => (.err e, ascii t)
    | .panic => (.panic, ascii t)

/-- `t.recv()` of the transport inside. -/
def recvWire : Except MbusError (HVec UInt8 maxAduFrameLen) × GatewayUpstream α β γ :=
  match up with
  | tcp t => ((t.recv transports.tcp).1, tcp (t.recv transports.tcp).2)
  | rtu t => ((t.recv transports.rtu).1, rtu (t.recv transports.rtu).2)
  | ascii t => ((t.recv transports.ascii).1, ascii (t.recv transports.ascii).2)

/-- `recv`. -/
def recv : Fallible (HVec UInt8 maxAduFrameLen) × GatewayUpstream α β γ :=
  let (wire, up') := up.recvWire transports
  match up with
  | tcp _ => (lift wire, up')
  | rtu _ => (lift wire >>= fun wire => translate (.stdSerial .rtu) .stdTcp wire.toList, up')
  | ascii _ => (lift wire >>= fun wire => translate (.stdSerial .ascii) .stdTcp wire.toList, up')

/-- A wrapped transport stays of its kind. -/
lemma send_transportTypeRt (adu : List UInt8) :
    (up.send transports adu).2.transportTypeRt = up.transportTypeRt := by
  cases up with
  | tcp t => rfl
  | rtu t =>
    rw [send]
    split <;> rfl
  | ascii t =>
    rw [send]
    split <;> rfl

lemma recv_transportTypeRt : (up.recv transports).2.transportTypeRt = up.transportTypeRt := by
  cases up <;> rfl

end GatewayUpstream

/-- The bytes are one complete frame of the format, and carry the unit and the PDU. -/
structure CarriesFrame (tt : TransportType) (bytes : List UInt8) (unit : UInt8) (pdu : Pdu) :
    Prop where
  complete : deriveLengthFromBytes bytes tt = some bytes.length
  carries : ∃ message, decompileAduFrame bytes tt = .ok message ∧ message.unitByte = unit ∧
    message.pdu = pdu

namespace GatewayUpstream

variable [Features] {α β γ : Type} (transports : UpstreamTransports α β γ)
  (up : GatewayUpstream α β γ)

/-- `recv` returns the request as a frame of the format that `transport_type_rt` names. -/
def RecvAgrees (unit : UInt8) (request : Pdu) : Prop :=
  ∃ bytes, (up.recv transports).1 = .ok bytes ∧
    CarriesFrame up.transportTypeRt bytes.toList unit request

/-- A response in the format that `transport_type_rt` names goes out as this very frame. -/
def SendAgrees (txnId : UInt16) (unit : UInt8) (response : Pdu) : Prop :=
  ∃ adu, compileAduFrame txnId unit response up.transportTypeRt = .ok adu ∧
    (up.send transports adu.toList).2.sent = up.sent ++ [adu.toList]

end GatewayUpstream

/-! ### TCP frames read as serial ones -/

/-- No PDU starts with a zero. -/
lemma Pdu.fromBytes_zero_cons (rest : List UInt8) (p : Pdu) : Pdu.fromBytes (0 :: rest) ≠ .ok p := by
  intro h
  obtain ⟨b, hb, hplain, hbyte, _⟩ := Pdu.fromBytes_eq_ok h
  obtain rfl : (0 : UInt8) = b := (List.cons.inj hb).1
  revert hplain hbyte
  cases p.functionCode <;> decide

/-- A frame that starts with two zeros is no serial frame: an RTU frame has its function code
there, and an ASCII frame starts with a colon. -/
lemma decompile_zeros_serial (mode : SerialMode) (rest : List UInt8) (message : ModbusMessage) :
    decompileAduFrame (0 :: 0 :: rest) (.stdSerial mode) ≠ .ok message := by
  intro h
  cases mode with
  | rtu =>
    have hlen : 4 ≤ (0 :: 0 :: rest).length := by
      obtain ⟨_, hlen, _⟩ := bind_eq_ok.mp h
      exact Nat.not_lt.mp (decide_eq_false_iff_not.mp (guardErr_eq_ok.mp hlen))
    obtain ⟨_, _, _, hpdu⟩ := decompileAduFrame_eq_ok h
    obtain ⟨n, hn⟩ : ∃ n, (0 :: 0 :: rest).length - 2 = n + 2 :=
      ⟨rest.length - 2, by simp only [List.length_cons] at hlen ⊢; omega⟩
    have hwire : wirePdu (.stdSerial .rtu) (0 :: 0 :: rest) = 0 :: rest.take n := by
      rw [wirePdu, hn]
      rfl
    rw [hwire] at hpdu
    exact Pdu.fromBytes_zero_cons _ _ hpdu
  | ascii =>
    obtain ⟨_, _, h⟩ := bind_eq_ok.mp h
    rw [index_cons_zero, ok_bind] at h
    cases h

section Translate

variable [Features] {source target : TransportType} {adu : List UInt8}
  {wire : HVec UInt8 maxAduFrameLen}

/-- What is translated has decoded, and is compiled again. -/
lemma translate_eq_ok (h : translate source target adu = .ok wire) :
    ∃ message, decompileAduFrame adu source = .ok message ∧
      wire.toList = frameBytes target 0 message.unitIdOrSlaveAddr.get message.pdu.rawBytes := by
  obtain ⟨message, hmessage, h⟩ := bind_eq_ok.mp h
  exact ⟨message, hmessage, (compileAduFrame_eq_ok (lift_eq_ok.mp h)).2⟩

/-- A frame translated to TCP does not decode as a serial one. -/
lemma translate_tcp_not_serial (h : translate source .stdTcp adu = .ok wire) (mode : SerialMode)
    (message : ModbusMessage) :
    decompileAduFrame wire.toList (.stdSerial mode) ≠ .ok message := by
  obtain ⟨_, _, hwire⟩ := translate_eq_ok h
  rw [hwire]
  exact decompile_zeros_serial mode _ message

/-! ### Serial frames read as TCP ones -/

omit [Features] in
/-- A TCP frame has seven bytes in front of its PDU. -/
lemma rawBytes_length_of_tcp {message : ModbusMessage}
    (h : decompileAduFrame adu .stdTcp = .ok message) :
    message.pdu.rawBytes.length + 7 ≤ adu.length := by
  obtain ⟨_, _, _, hpdu⟩ := decompileAduFrame_eq_ok h
  obtain ⟨b, hb, _⟩ := Pdu.fromBytes_eq_ok hpdu
  have hlen : message.pdu.rawBytes.length = (wirePdu .stdTcp adu).length := by
    rw [hb]
    rfl
  have hpos : 0 < message.pdu.rawBytes.length := Nat.succ_pos _
  rw [hlen, wirePdu, List.length_drop, List.length_take] at hpos ⊢
  omega

/-- The RTU frame is shorter than the TCP frame it is made from. -/
lemma translate_rtu_shorter (h : translate .stdTcp (.stdSerial .rtu) adu = .ok wire) :
    wire.toList.length < adu.length := by
  obtain ⟨message, hmessage, hwire⟩ := translate_eq_ok h
  have hlen := rawBytes_length_of_tcp hmessage
  rw [hwire, frameBytes, List.length_append, toLeBytes_length, List.length_cons]
  omega

omit [Features] in
/-- A TCP frame has the protocol id 0. -/
lemma protocolId_of_tcp {message : ModbusMessage} (h : decompileAduFrame adu .stdTcp = .ok message) :
    adu.getD 2 0 = 0 := by
  obtain ⟨_, hlen, h⟩ := bind_eq_ok.mp h
  have hlen : ¬adu.length < 7 + 1 := decide_eq_false_iff_not.mp (guardErr_eq_ok.mp hlen)
  rw [u16At_of_lt (by omega), ok_bind, u16At_of_lt (by omega), ok_bind, u16At_of_lt (by omega),
    ok_bind, index_of_lt (by omega), ok_bind] at h
  obtain ⟨_, hproto, _⟩ := bind_eq_ok.mp h
  have hzero := bne_eq_false_iff_eq.mp (guardErr_eq_ok.mp hproto)
  rw [List.getD_eq_getElem?_getD, List.getElem?_eq_getElem (by omega)]
  exact (fromBeBytes_eq_zero.mp hzero).1

omit [Features] in
lemma nibbleToHex_ne_zero (b : UInt8) : ModbusMessage.nibbleToHex (b &&& 0x0F) ≠ 0 :=
  FunctionCode.forall_byte (P := fun b => ModbusMessage.nibbleToHex (b &&& 0x0F) ≠ 0)
    (by decide +kernel) b

/-- An ASCII frame has hex digits where a TCP frame has its protocol id. -/
lemma translate_ascii_frame (txnId : UInt16) (unit : UInt8) (pdu : Pdu) :
    translate .stdTcp target (frameBytes (.stdSerial .ascii) txnId unit pdu.rawBytes) ≠
      .ok wire := by
  intro h
  obtain ⟨message, hmessage, _⟩ := translate_eq_ok h
  exact nibbleToHex_ne_zero unit (protocolId_of_tcp hmessage)

end Translate

namespace GatewayUpstream

variable [Features] {α β γ : Type} (transports : UpstreamTransports α β γ)
  (up : GatewayUpstream α β γ)

/-- Nothing that a serial variant returns decodes in the format it names. -/
theorem recv_serial_not_decodes (hserial : ¬up.IsTcp) {bytes : HVec UInt8 maxAduFrameLen}
    (h : (up.recv transports).1 = .ok bytes) (message : ModbusMessage) :
    decompileAduFrame bytes.toList up.transportTypeRt ≠ .ok message := by
  cases up with
  | tcp t => exact absurd rfl hserial
  | rtu t =>
    obtain ⟨wire, _, h⟩ := bind_eq_ok.mp h
    exact translate_tcp_not_serial h .rtu message
  | ascii t =>
    obtain ⟨wire, _, h⟩ := bind_eq_ok.mp h
    exact translate_tcp_not_serial h .ascii message

lemma recvAgrees_iff {wire : HVec UInt8 maxAduFrameLen} {txnId : UInt16} {unit : UInt8}
    {request : Pdu} (hrequest : Pdu.fromBytes request.rawBytes = .ok request)
    (hwire : (up.recvWire transports).1 = .ok wire)
    (hframe : wire.toList = frameBytes up.transportTypeRt txnId unit request.rawBytes) :
    up.RecvAgrees transports unit request ↔ up.IsTcp := by
  constructor
  · rintro ⟨bytes, hbytes, _, message, hmessage, _⟩
    by_contra hserial
    exact up.recv_serial_not_decodes transports hserial hbytes message hmessage
  · intro htcp
    cases up with
    | rtu t => cases htcp
    | ascii t => cases htcp
    | tcp t =>
      have hlen := rawBytes_length_le request
      have hrecv : ((GatewayUpstream.tcp t : GatewayUpstream α β γ).recv transports).1 =
          .ok wire := by
        change lift (t.recv transports.tcp).1 = _
        rw [show (t.recv transports.tcp).1 = .ok wire from hwire, lift_ok]
      have hcomplete := deriveLength_tcp txnId unit [] hlen
      rw [List.append_nil] at hcomplete
      obtain ⟨message, hmessage⟩ := ModbusMessage.fromBytes_frameBytes txnId unit hrequest hlen
      obtain ⟨_, hunit, _, hpdu⟩ := ModbusMessage.fromBytes_eq_ok hmessage
      rw [wireUnit_frameBytes .stdTcp txnId unit hlen] at hunit
      rw [wirePdu_frameBytes .stdTcp txnId unit hlen, hrequest] at hpdu
      refine ⟨wire, hrecv, ?_, message, ?_, hunit, (Outcome.ok.inj hpdu).symm⟩
      · rw [hframe]
        exact hcomplete
      · rw [hframe]
        exact hmessage

lemma sendAgrees_iff (txnId : UInt16) (unit : UInt8) (response : Pdu) :
    up.SendAgrees transports txnId unit response ↔ up.IsTcp := by
  constructor
  · rintro ⟨adu, hadu, hsent⟩
    obtain ⟨_, hlist⟩ := compileAduFrame_eq_ok hadu
    cases up with
    | tcp t => rfl
    | rtu t =>
      rw [send] at hsent
      split at hsent
      next wire hwire =>
        have hsame : wire.toList = adu.toList := List.singleton_inj.mp (List.append_cancel_left hsent)
        have hshort := translate_rtu_shorter hwire
        rw [hsame] at hshort
        exact absurd hshort (Nat.lt_irrefl _)
      next => cases List.self_eq_append_right.mp hsent
      next => cases List.self_eq_append_right.mp hsent
    | ascii t =>
      rw [hlist, send] at hsent
      split at hsent
      next wire hwire => exact absurd hwire (translate_ascii_frame txnId unit response)
      next => cases List.self_eq_append_right.mp hsent
      next => cases List.self_eq_append_right.mp hsent
  · intro htcp
    cases up with
    | rtu t => cases htcp
    | ascii t => cases htcp
    | tcp t =>
      obtain ⟨adu, hadu, _⟩ := compileAduFrame_ok .stdTcp txnId unit response trivial
      exact ⟨adu, hadu, rfl⟩

/-- Both directions agree with `transport_type_rt` on a TCP upstream, whatever is received and
sent, and never on a serial one. -/
theorem framingAgrees_iff {wire : HVec UInt8 maxAduFrameLen} {txnId responseTxn : UInt16}
    {unit responseUnit : UInt8} {request : Pdu} (response : Pdu)
    (hrequest : Pdu.fromBytes request.rawBytes = .ok request)
    (hwire : (up.recvWire transports).1 = .ok wire)
    (hframe : wire.toList = frameBytes up.transportTypeRt txnId unit request.rawBytes) :
    (up.RecvAgrees transports unit request ↔ up.IsTcp) ∧
      (up.SendAgrees transports responseTxn responseUnit response ↔ up.IsTcp) :=
  ⟨up.recvAgrees_iff transports hrequest hwire hframe,
    up.sendAgrees_iff transports responseTxn responseUnit response⟩

end GatewayUpstream

/-- Upstreams with what has arrived in their states. -/
def UpstreamTransports.arriving [Features] :
    UpstreamTransports (List UInt8) (List UInt8) (List UInt8) where
  tcp := .arriving .stdTcp
  rtu := .arriving (.stdSerial .rtu)
  ascii := .arriving (.stdSerial .ascii)

namespace GatewayUpstream

/-- A read of three registers, received and answered on TCP. -/
theorem framingAgrees_tcp :
    letI : Features := Features.minimal
    let request := Pdu.new .readHoldingRegisters (.ofSlice [0x00, 0x6B, 0x00, 0x03])
    let up : GatewayUpstream (List UInt8) (List UInt8) (List UInt8) :=
      .tcp ⟨frameBytes .stdTcp 7 17 request.rawBytes, []⟩
    (up.RecvAgrees .arriving 17 request ↔ up.IsTcp) ∧
      (up.SendAgrees .arriving 7 17 (Pdu.new .readHoldingRegisters (.ofSlice [2, 0, 1])) ↔
        up.IsTcp) := by
  let _ := Features.minimal
  let request := Pdu.new .readHoldingRegisters (.ofSlice [0x00, 0x6B, 0x00, 0x03])
  have hframe : (HVec.ofSlice (frameBytes .stdTcp 7 17 request.rawBytes) :
      HVec UInt8 maxAduFrameLen).toList = frameBytes .stdTcp 7 17 request.rawBytes := by
    decide +kernel
  exact framingAgrees_iff .arriving (.tcp ⟨_, []⟩) _ (by decide +kernel) rfl hframe

/-- The same read on RTU: `recv` returns the MBAP frame, of which no RTU frame can be made. -/
theorem framingAgrees_rtu_fails :
    ¬∀ [Features] (transports : UpstreamTransports (List UInt8) (List UInt8) (List UInt8))
      (up : GatewayUpstream (List UInt8) (List UInt8) (List UInt8))
      (wire : HVec UInt8 maxAduFrameLen) (txnId : UInt16) (unit : UInt8) (request response : Pdu),
      Pdu.fromBytes request.rawBytes = .ok request → (up.recvWire transports).1 = .ok wire →
      wire.toList = frameBytes up.transportTypeRt txnId unit request.rawBytes →
      up.RecvAgrees transports unit request ∧ up.SendAgrees transports txnId unit response := by
  intro h
  let _ := Features.minimal
  let request := Pdu.new .readHoldingRegisters (.ofSlice [0x00, 0x6B, 0x00, 0x03])
  let up : GatewayUpstream (List UInt8) (List UInt8) (List UInt8) :=
    .rtu ⟨frameBytes (.stdSerial .rtu) 0 17 request.rawBytes, []⟩
  have hrecv : (up.recv .arriving).1 =
      .ok (.ofSlice [0, 0, 0, 0, 0, 6, 0x11, 0x03, 0x00, 0x6B, 0x00, 0x03]) := by decide +kernel
  obtain ⟨⟨bytes, hbytes, _, message, hmessage, _⟩, _⟩ :=
    h .arriving up _ 0 17 request request (by decide +kernel) rfl (by decide +kernel)
  rw [hrecv] at hbytes
  cases hbytes
  have herr : decompileAduFrame [0, 0, 0, 0, 0, 6, 0x11, 0x03, 0x00, 0x6B, 0x00, 0x03]
      (.stdSerial .rtu) = .err .checksumError := by decide +kernel
  have hlist : (HVec.ofSlice [0, 0, 0, 0, 0, 6, 0x11, 0x03, 0x00, 0x6B, 0x00, 0x03] :
      HVec UInt8 maxAduFrameLen).toList =
      [0, 0, 0, 0, 0, 6, 0x11, 0x03, 0x00, 0x6B, 0x00, 0x03] := by decide +kernel
  rw [hlist] at hmessage
  cases herr.symm.trans hmessage

end GatewayUpstream

end ModbusRs.Gateway
