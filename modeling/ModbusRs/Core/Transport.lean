import ModbusRs.Core.Adu

/-!
# Transports

The `Transport` trait over a state `τ` of the device behind it. Errors are given as the
`MbusError` they convert to. A `Link` adds the record of every frame handed to `send`.
-/

namespace ModbusRs

/-- `Transport`. -/
structure Transport [Features] (τ : Type) where
  transportType : TransportType
  supportsBroadcastWrites : Bool
  connect : τ → Except MbusError Unit × τ
  disconnect : τ → Except MbusError Unit × τ
  send : List UInt8 → τ → Except MbusError Unit × τ
  recv : τ → Except MbusError (HVec UInt8 maxAduFrameLen) × τ
  isConnected : τ → Bool

/-- A transport that accepts every frame and never receives one. -/
def Transport.silent [Features] (tt : TransportType) : Transport Unit where
  transportType := tt
  supportsBroadcastWrites := tt.isSerialType
  connect _ := (.ok (), ())
  disconnect _ := (.ok (), ())
  send _ _ := (.ok (), ())
  recv _ := (.error .timeout, ())
  isConnected _ := true

/-- A transport that accepts no frame and never receives one. -/
def Transport.refusing [Features] (tt : TransportType) : Transport Unit :=
  { Transport.silent tt with send := fun _ _ => (.error .sendFailed, ()) }

/-- A transport whose state is the bytes that have arrived. -/
def Transport.arriving [Features] (tt : TransportType) : Transport (List UInt8) where
  transportType := tt
  supportsBroadcastWrites := tt.isSerialType
  connect arrived := (.ok (), arrived)
  disconnect arrived := (.ok (), arrived)
  send _ arrived := (.ok (), arrived)
  recv arrived := (.ok (.ofSlice arrived), [])
  isConnected _ := true

/-- A transport's state and the frames it was asked to send, oldest first. -/
structure Link (τ : Type) where
  state : τ
  sent : List (List UInt8)

namespace Link

variable [Features] {τ : Type} (transport : Transport τ) (l : Link τ)

/-- `transport.send(frame)`. -/
def send (frame : List UInt8) : Except MbusError Unit × Link τ :=
  ((transport.send frame l.state).1, ⟨(transport.send frame l.state).2, l.sent ++ [frame]⟩)

/-- `transport.recv()`. -/
def recv : Except MbusError (HVec UInt8 maxAduFrameLen) × Link τ :=
  ((transport.recv l.state).1, { l with state := (transport.recv l.state).2 })

/-- `transport.connect(..)`. -/
def connect : Except MbusError Unit × Link τ :=
  ((transport.connect l.state).1, { l with state := (transport.connect l.state).2 })

/-- `let _ = transport.disconnect()`. -/
def disconnect : Link τ := { l with state := (transport.disconnect l.state).2 }

@[simp] lemma send_sent (frame : List UInt8) :
    (l.send transport frame).2.sent = l.sent ++ [frame] := rfl

@[simp] lemma recv_sent : (l.recv transport).2.sent = l.sent := rfl

@[simp] lemma connect_sent : (l.connect transport).2.sent = l.sent := rfl

@[simp] lemma disconnect_sent : (l.disconnect transport).sent = l.sent := rfl

end Link

end ModbusRs
