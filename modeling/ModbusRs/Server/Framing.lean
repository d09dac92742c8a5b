import ModbusRs.Server.App

/-!
# Response frames

The builders of `framing.rs` and `exception.rs`. Whatever a builder returns is the compiled
frame of a PDU with a known function code, which is what `IsReply` records.
-/

namespace ModbusRs

open Outcome

/-! ### Function codes of built PDUs -/

namespace Pdu

/-- A PDU that carries `fc` and no exception. -/
def Carries (p : Pdu) (fc : FunctionCode) : Prop := p.functionCode = fc ∧ p.errorCode = none

lemma carries_new (fc : FunctionCode) (data : HVec UInt8 maxPduDataLen) :
    (new fc data).Carries fc := ⟨rfl, rfl⟩

lemma carries_of_map {fc : FunctionCode} {x : Except MbusError (HVec UInt8 maxPduDataLen)}
    {p : Pdu} (h : (x >>= fun data => pure (new fc data)) = .ok p) : p.Carries fc := by
  obtain ⟨data, _, hp⟩ := Except.bind_eq_ok_iff.mp h
  cases hp
  exact carries_new fc data

lemma carries_buildWriteSingleU16 {fc : FunctionCode} {address value : UInt16} {p : Pdu}
    (h : buildWriteSingleU16 fc address value = .ok p) : p.Carries fc := by
  obtain ⟨_, _, h⟩ := Except.bind_eq_ok_iff.mp h
  exact carries_of_map h

lemma carries_buildMaskWriteRegister {address andMask orMask : UInt16} {p : Pdu}
    (h : buildMaskWriteRegister address andMask orMask = .ok p) :
    p.Carries .maskWriteRegister := by
  obtain ⟨_, _, h⟩ := Except.bind_eq_ok_iff.mp h
  obtain ⟨_, _, h⟩ := Except.bind_eq_ok_iff.mp h
  exact carries_of_map h

lemma carries_buildMeiType {fc : FunctionCode} {meiType : UInt8} {payload : List UInt8} {p : Pdu}
    (h : buildMeiType fc meiType payload = .ok p) : p.Carries fc := by
  obtain ⟨_, _, h⟩ := Except.bind_eq_ok_iff.mp h
  obtain ⟨_, _, h⟩ := Except.bind_eq_ok_iff.mp h
  exact carries_of_map h

lemma carries_buildBytePayload {fc : FunctionCode} {byte : UInt8} {p : Pdu}
    (h : buildBytePayload fc byte = .ok p) : p.Carries fc := carries_of_map h

lemma carries_buildByteCountPayload {fc : FunctionCode} {payload : List UInt8} {p : Pdu}
    (h : buildByteCountPayload fc payload = .ok p) : p.Carries fc := by
  obtain ⟨_, _, h⟩ := Except.bind_eq_ok_iff.mp h
  obtain ⟨_, _, h⟩ := Except.bind_eq_ok_iff.mp h
  obtain ⟨_, _, h⟩ := Except.bind_eq_ok_iff.mp h
  exact carries_of_map h

lemma carries_buildDiagnostics {subFunction result : UInt16} {p : Pdu}
    (h : buildDiagnostics subFunction result = .ok p) : p.Carries .diagnostics := by
  obtain ⟨_, _, h⟩ := Except.bind_eq_ok_iff.mp h
  exact carries_of_map h

lemma carries_buildFifoPayload {appPayload : List UInt8} {p : Pdu}
    (h : buildFifoPayload appPayload = .ok p) : p.Carries .readFifoQueue := by
  obtain ⟨_, _, h⟩ := Except.bind_eq_ok_iff.mp h
  obtain ⟨_, _, h⟩ := Except.bind_eq_ok_iff.mp h
  obtain ⟨_, _, h⟩ := Except.bind_eq_ok_iff.mp h
  exact carries_of_map h

end Pdu

section Builders

variable [Features] (tt : TransportType) (txnId : UInt16) (unit : UnitIdOrSlaveAddr)

/-- `adu` is the frame of a PDU with code `fc` under the given transaction and unit. -/
def IsReply (fc : FunctionCode) (adu : Adu) : Prop :=
  ∃ pdu : Pdu, pdu.Carries fc ∧ compileAduFrame txnId unit.get pdu tt = .ok adu

/-- `build_byte_count_prefixed_response`. -/
def buildByteCountPrefixedResponse (fc : FunctionCode) (payload : List UInt8) :
    Except MbusError Adu := do
  let pdu ← Pdu.buildByteCountPayload fc payload
  compileAduFrame txnId unit.get pdu tt

/-- `build_single_byte_response`. -/
def buildSingleByteResponse (fc : FunctionCode) (value : UInt8) : Except MbusError Adu := do
  let pdu ← Pdu.buildBytePayload fc value
  compileAduFrame txnId unit.get pdu tt

/-- `build_two_u16_response`. -/
def buildTwoU16Response (fc : FunctionCode) (first second : UInt16) : Except MbusError Adu := do
  let pdu ← Pdu.buildWriteSingleU16 fc first second
  compileAduFrame txnId unit.get pdu tt

/-- `build_echo_u16_response`. -/
def buildEchoU16Response (fc : FunctionCode) (first second : UInt16) : Except MbusError Adu := do
  let pdu ← Pdu.buildWriteSingleU16 fc first second
  compileAduFrame txnId unit.get pdu tt

/-- `build_mask_write_echo_response`. -/
def buildMaskWriteEchoResponse (address andMask orMask : UInt16) : Except MbusError Adu := do
  let pdu ← Pdu.buildMaskWriteRegister address andMask orMask
  compileAduFrame txnId unit.get pdu tt

/-- `build_file_record_read_response`. -/
def buildFileRecordReadResponse (payload : List UInt8) : Except MbusError Adu := do
  Except.guardErr (payload.length > maxPduDataLen - 1) .fileReadPduOverflow
  let pdu ← Pdu.buildByteCountPayload .readFileRecord payload
  compileAduFrame txnId unit.get pdu tt

/-- `build_file_record_write_echo_response`. -/
def buildFileRecordWriteEchoResponse (requestPduData : List UInt8) : Except MbusError Adu := do
  Except.guardErr (requestPduData.length > maxPduDataLen) .bufferTooSmall
  let data ← HVec.empty.extendOr requestPduData .bufferLenMissmatch
  compileAduFrame txnId unit.get (Pdu.new .writeFileRecord data) tt

/-- `build_fifo_response`. -/
def buildFifoResponse (appPayload : List UInt8) : Except MbusError Adu := do
  let pdu ← Pdu.buildFifoPayload appPayload
  compileAduFrame txnId unit.get pdu tt

/-- `build_diagnostics_response`. -/
def buildDiagnosticsResponse (subFunction result : UInt16) : Except MbusError Adu := do
  let pdu ← Pdu.buildDiagnostics subFunction result
  compileAduFrame txnId unit.get pdu tt

/-- `count_fc2b_objects`, on the objects from `offset` on. -/
def countFc2bObjectsFrom (payload : List UInt8) (offset count : Nat) : Fallible UInt8 :=
  if offset < payload.length then do
    guardErr (offset + 2 > payload.length) .invalidPduLength
    let valLen ← index payload (offset + 1)
    guardErr (offset + (2 + valLen.toNat) > payload.length) .invalidPduLength
    guardErr (count + 1 > 255) .invalidPduLength
    countFc2bObjectsFrom payload (offset + (2 + valLen.toNat)) (count + 1)
  else pure (UInt8.ofNat count)
termination_by payload.length - offset

/-- `count_fc2b_objects`. -/
def countFc2bObjects (payload : List UInt8) : Fallible UInt8 := countFc2bObjectsFrom payload 0 0

/-- `build_fc2b_read_device_id_response`. -/
def buildFc2bReadDeviceIdResponse (readDeviceIdCode conformityLevel : UInt8) (moreFollows : Bool)
    (nextObjectId : UInt8) (objectsPayload : List UInt8) : Fallible Adu := do
  let nObjects ← countFc2bObjects objectsPayload
  let moreByte : UInt8 := if moreFollows then 0xFF else 0x00
  let header := [readDeviceIdCode, conformityLevel, moreByte, nextObjectId, nObjects]
  guardErr (header.length + objectsPayload.length > maxPduDataLen - 1) .bufferTooSmall
  let meiData ← lift ((HVec.empty : HVec UInt8 maxPduDataLen).extendOr header .bufferTooSmall)
  let meiData ← lift (meiData.extendOr objectsPayload .bufferTooSmall)
  let pdu ← lift (Pdu.buildMeiType .encapsulatedInterfaceTransport 0x0E meiData.toList)
  lift (compileAduFrame txnId unit.get pdu tt)

/-- `build_exception_adu`. -/
def buildExceptionAdu (fc : FunctionCode) (exceptionCode : ExceptionCode) :
    Except MbusError Adu := do
  let exceptionFc ← match fc.exceptionResponse with
    | some exc => .ok exc
    | none => .error .invalidFunctionCode
  let pdu ← match Pdu.buildBytePayload exceptionFc exceptionCode.toByte with
    | .ok pdu => .ok pdu
    | .error _ => .error .unexpected
  compileAduFrame txnId unit.get pdu tt

variable {tt txnId unit} {fc : FunctionCode} {adu : Adu}

lemma isReply_of_bind {x : Except MbusError Pdu} (hx : ∀ p, x = .ok p → p.Carries fc)
    (h : (x >>= fun pdu => compileAduFrame txnId unit.get pdu tt) = .ok adu) :
    IsReply tt txnId unit fc adu := by
  obtain ⟨pdu, hpdu, hadu⟩ := Except.bind_eq_ok_iff.mp h
  exact ⟨pdu, hx pdu hpdu, hadu⟩

lemma isReply_byteCountPrefixed {payload : List UInt8}
    (h : buildByteCountPrefixedResponse tt txnId unit fc payload = .ok adu) :
    IsReply tt txnId unit fc adu :=
  isReply_of_bind (fun _ => Pdu.carries_buildByteCountPayload) h

lemma isReply_singleByte {value : UInt8}
    (h : buildSingleByteResponse tt txnId unit fc value = .ok adu) :
    IsReply tt txnId unit fc adu :=
  isReply_of_bind (fun _ => Pdu.carries_buildBytePayload) h

lemma isReply_twoU16 {first second : UInt16}
    (h : buildTwoU16Response tt txnId unit fc first second = .ok adu) :
    IsReply tt txnId unit fc adu :=
  isReply_of_bind (fun _ => Pdu.carries_buildWriteSingleU16) h

lemma isReply_echoU16 {first second : UInt16}
    (h : buildEchoU16Response tt txnId unit fc first second = .ok adu) :
    IsReply tt txnId unit fc adu :=
  isReply_of_bind (fun _ => Pdu.carries_buildWriteSingleU16) h

lemma isReply_maskWriteEcho {address andMask orMask : UInt16}
    (h : buildMaskWriteEchoResponse tt txnId unit address andMask orMask = .ok adu) :
    IsReply tt txnId unit .maskWriteRegister adu :=
  isReply_of_bind (fun _ => Pdu.carries_buildMaskWriteRegister) h

lemma isReply_fileRecordRead {payload : List UInt8}
    (h : buildFileRecordReadResponse tt txnId unit payload = .ok adu) :
    IsReply tt txnId unit .readFileRecord adu := by
  obtain ⟨_, _, h⟩ := Except.bind_eq_ok_iff.mp h
  exact isReply_of_bind (fun _ => Pdu.carries_buildByteCountPayload) h

lemma isReply_fileRecordWriteEcho {requestPduData : List UInt8}
    (h : buildFileRecordWriteEchoResponse tt txnId unit requestPduData = .ok adu) :
    IsReply tt txnId unit .writeFileRecord adu := by
  obtain ⟨_, _, h⟩ := Except.bind_eq_ok_iff.mp h
  obtain ⟨data, _, h⟩ := Except.bind_eq_ok_iff.mp h
  exact ⟨_, Pdu.carries_new _ data, h⟩

lemma isReply_fifo {appPayload : List UInt8}
    (h : buildFifoResponse tt txnId unit appPayload = .ok adu) :
    IsReply tt txnId unit .readFifoQueue adu :=
  isReply_of_bind (fun _ => Pdu.carries_buildFifoPayload) h

lemma isReply_diagnostics {subFunction result : UInt16}
    (h : buildDiagnosticsResponse tt txnId unit subFunction result = .ok adu) :
    IsReply tt txnId unit .diagnostics adu :=
  isReply_of_bind (fun _ => Pdu.carries_buildDiagnostics) h

lemma isReply_fc2b {readDeviceIdCode conformityLevel nextObjectId : UInt8} {moreFollows : Bool}
    {objectsPayload : List UInt8}
    (h : buildFc2bReadDeviceIdResponse tt txnId unit readDeviceIdCode conformityLevel moreFollows
      nextObjectId objectsPayload = .ok adu) :
    IsReply tt txnId unit .encapsulatedInterfaceTransport adu := by
  obtain ⟨nObjects, _, h⟩ := bind_eq_ok.mp h
  obtain ⟨_, _, h⟩ := bind_eq_ok.mp h
  obtain ⟨_, _, h⟩ := bind_eq_ok.mp h
  obtain ⟨meiData, _, h⟩ := bind_eq_ok.mp h
  obtain ⟨pdu, hpdu, h⟩ := bind_eq_ok.mp h
  exact ⟨pdu, Pdu.carries_buildMeiType (lift_eq_ok.mp hpdu), lift_eq_ok.mp h⟩

omit [Features] in
lemma countFc2bObjectsFrom_ne_panic (payload : List UInt8) (offset count : Nat) :
    countFc2bObjectsFrom payload offset count ≠ .panic := by
  induction offset, count using countFc2bObjectsFrom.induct payload with
  | case1 offset count hlt ih =>
    rw [countFc2bObjectsFrom, if_pos hlt, guardErr_bind_ne_panic]
    intro h2
    have hbound : offset + 1 < payload.length := by
      simp only [decide_eq_false_iff_not] at h2
      omega
    rw [index_of_lt hbound, ok_bind, guardErr_bind_ne_panic]
    intro _
    rw [guardErr_bind_ne_panic]
    intro _
    exact ih _
  | case2 offset count hge =>
    rw [countFc2bObjectsFrom, if_neg hge]
    simp

lemma buildFc2bReadDeviceIdResponse_ne_panic (readDeviceIdCode conformityLevel : UInt8)
    (moreFollows : Bool) (nextObjectId : UInt8) (objectsPayload : List UInt8) :
    buildFc2bReadDeviceIdResponse tt txnId unit readDeviceIdCode conformityLevel moreFollows
      nextObjectId objectsPayload ≠ .panic := by
  refine bind_ne_panic (countFc2bObjectsFrom_ne_panic _ _ _) (fun nObjects _ => ?_)
  rw [guardErr_bind_ne_panic]
  intro _
  rw [lift_bind_ne_panic]
  intro meiData _
  rw [lift_bind_ne_panic]
  intro meiData _
  rw [lift_bind_ne_panic]
  intro pdu _
  exact lift_ne_panic _

end Builders

end ModbusRs
