import ModbusRs.Core.Types
import ModbusRs.Library.Bytes

/-!
# Protocol data units

`Pdu` with its byte form, the builders for request and response layouts and the parsers of
the data field. Every constructor of the source stores `data.len()` in `data_len`, so the
length is read off the data here.
-/

namespace ModbusRs

open Outcome

/-- `MAX_PDU_DATA_LEN`. -/
abbrev maxPduDataLen : Nat := 252

/-- `ERROR_BIT_MASK` is set. -/
def isExceptionCode (functionCodeByte : UInt8) : Bool := functionCodeByte &&& 0x80 != 0

/-- Masks the byte with `FUNCTION_CODE_MASK`. -/
def clearExceptionBit (functionCodeByte : UInt8) : UInt8 := functionCodeByte &&& 0x7F

/-- `Pdu`. -/
structure Pdu where
  functionCode : FunctionCode
  errorCode : Option UInt8
  data : HVec UInt8 maxPduDataLen
  deriving DecidableEq, Repr

namespace Pdu

/-- `Pdu::new`. -/
def new (functionCode : FunctionCode) (data : HVec UInt8 maxPduDataLen) : Pdu :=
  { functionCode, errorCode := none, data }

/-- `data_len`. -/
def dataLen (p : Pdu) : Nat := p.data.toList.length

lemma dataLen_le (p : Pdu) : p.dataLen ≤ 252 := p.data.length_le

/-- `Pdu::to_bytes`. -/
def toBytes (p : Pdu) : Except MbusError (HVec UInt8 253) := do
  let bytes ← HVec.empty.pushOr p.functionCode.toByte .unexpected
  bytes.extendOr p.data.toList .bufferLenMissmatch

lemma toBytes_eq (p : Pdu) :
    p.toBytes = .ok ⟨p.functionCode.toByte :: p.data.toList, Nat.succ_le_succ p.dataLen_le⟩ := by
  have hlen : p.data.toList.length ≤ 252 := p.data.length_le
  have h : 1 + p.data.toList.length ≤ 253 := by omega
  rw [toBytes, HVec.pushOr, HVec.extendOr_of_le _ (by simp)]
  exact HVec.extendOr_of_le _ (by simpa using h)

/-- `Pdu::from_bytes`. -/
def fromBytes (bytes : List UInt8) : Fallible Pdu := do
  guardErr bytes.isEmpty .invalidPduLength
  let first ← index bytes 0
  let errorCode ← if isExceptionCode first then do
      guardErr (bytes.length < 2) .invalidPduLength
      let code ← index bytes 1
      pure (some code)
    else pure none
  let functionCode ← lift (FunctionCode.tryFrom (clearExceptionBit first))
  let dataSlice ← slice bytes 1 bytes.length
  guardErr (dataSlice.length > maxPduDataLen) .invalidPduLength
  let data ← lift (HVec.empty.extendOr dataSlice .bufferLenMissmatch)
  pure { functionCode, errorCode, data }

lemma fromBytes_nil : fromBytes [] = .err .invalidPduLength := rfl

/-- What `from_bytes` computes on a non-empty slice. -/
lemma fromBytes_cons (b : UInt8) (rest : List UInt8) :
    fromBytes (b :: rest) =
      if isExceptionCode b ∧ rest = [] then .err .invalidPduLength
      else match FunctionCode.tryFrom (clearExceptionBit b) with
        | .error e => .err e
        | .ok fc =>
          if h : rest.length ≤ maxPduDataLen then
            .ok ⟨fc, if isExceptionCode b then rest.head? else none, ⟨rest, h⟩⟩
          else .err .invalidPduLength := by
  have hslice : (slice (b :: rest) 1 (b :: rest).length : Fallible _) = .ok rest := by
    rw [slice_of_le (by simp) (Nat.le_refl _)]
    simp
  have htail : ∀ (fc : FunctionCode) (e : Option UInt8), ((do
      guardErr (rest.length > maxPduDataLen) .invalidPduLength
      let data ← lift (HVec.empty.extendOr rest .bufferLenMissmatch)
      pure { functionCode := fc, errorCode := e, data }) : Fallible Pdu) =
      if h : rest.length ≤ maxPduDataLen then .ok ⟨fc, e, ⟨rest, h⟩⟩
      else .err .invalidPduLength := by
    intro fc e
    by_cases h : rest.length ≤ maxPduDataLen
    · rw [dif_pos h, HVec.extendOr_of_le _ (by simpa using h)]
      simp [Nat.not_lt.mpr h]
    · rw [dif_neg h]
      simp [Nat.lt_of_not_le h]
  unfold fromBytes
  simp only [List.isEmpty_cons, guardErr_false, ok_bind, index_cons_zero, hslice]
  cases hb : isExceptionCode b with
  | false =>
    simp only [Bool.false_eq_true, if_false, pure_def, ok_bind, false_and]
    cases FunctionCode.tryFrom (clearExceptionBit b) with
    | error e => rfl
    | ok fc => exact htail fc none
  | true =>
    cases rest with
    | nil => simp
    | cons c rest =>
      have hlen : ¬(b :: c :: rest).length < 2 := by simp
      simp only [if_true, hlen, decide_false, guardErr_false, index_cons_succ, index_cons_zero,
        ok_bind, pure_def]
      cases FunctionCode.tryFrom (clearExceptionBit b) with
      | error e => simp
      | ok fc => simpa using htail fc (some c)

lemma fromBytes_ne_panic (bytes : List UInt8) : fromBytes bytes ≠ .panic := by
  cases bytes with
  | nil => simp [fromBytes_nil]
  | cons b rest =>
    rw [fromBytes_cons]
    split
    · simp
    · split
      · simp
      · split <;> simp

/-! ### Builders -/

/-- `build_read_window`. -/
def buildReadWindow (fc : FunctionCode) (address quantity : UInt16) : Except MbusError Pdu := do
  let data ← HVec.empty.extendOr (toBeBytes address) .bufferLenMissmatch
  let data ← data.extendOr (toBeBytes quantity) .bufferLenMissmatch
  pure (new fc data)

/-- `build_write_single_u16`. -/
def buildWriteSingleU16 (fc : FunctionCode) (address value : UInt16) : Except MbusError Pdu := do
  let data ← HVec.empty.extendOr (toBeBytes address) .bufferLenMissmatch
  let data ← data.extendOr (toBeBytes value) .bufferLenMissmatch
  pure (new fc data)

/-- `build_write_multiple`. -/
def buildWriteMultiple (fc : FunctionCode) (address quantity : UInt16) (values : List UInt8) :
    Except MbusError Pdu := do
  Except.guardErr (values.length > 255) .invalidByteCount
  Except.guardErr (5 + values.length > maxPduDataLen) .bufferTooSmall
  let data ← HVec.empty.extendOr (toBeBytes address) .bufferLenMissmatch
  let data ← data.extendOr (toBeBytes quantity) .bufferLenMissmatch
  let data ← data.pushOr (UInt8.ofNat values.length) .bufferLenMissmatch
  let data ← data.extendOr values .bufferLenMissmatch
  pure (new fc data)

/-- `build_mask_write_register`. -/
def buildMaskWriteRegister (address andMask orMask : UInt16) : Except MbusError Pdu := do
  let data ← HVec.empty.extendOr (toBeBytes address) .bufferLenMissmatch
  let data ← data.extendOr (toBeBytes andMask) .bufferLenMissmatch
  let data ← data.extendOr (toBeBytes orMask) .bufferLenMissmatch
  pure (new .maskWriteRegister data)

/-- `build_read_write_multiple`. -/
def buildReadWriteMultiple (readAddress readQuantity writeAddress writeQuantity : UInt16)
    (writeValues : List UInt8) : Except MbusError Pdu := do
  Except.guardErr (writeValues.length > 255) .invalidByteCount
  Except.guardErr (9 + writeValues.length > maxPduDataLen) .bufferTooSmall
  let data ← HVec.empty.extendOr (toBeBytes readAddress) .bufferLenMissmatch
  let data ← data.extendOr (toBeBytes readQuantity) .bufferLenMissmatch
  let data ← data.extendOr (toBeBytes writeAddress) .bufferLenMissmatch
  let data ← data.extendOr (toBeBytes writeQuantity) .bufferLenMissmatch
  let data ← data.pushOr (UInt8.ofNat writeValues.length) .bufferLenMissmatch
  let data ← data.extendOr writeValues .bufferLenMissmatch
  pure (new .readWriteMultipleRegisters data)

/-- `build_sub_function`. -/
def buildSubFunction (fc : FunctionCode) (subFunction : UInt16) (words : List UInt16) :
    Except MbusError Pdu := do
  Except.guardErr (2 + words.length * 2 > maxPduDataLen) .bufferTooSmall
  let data ← HVec.empty.extendOr (toBeBytes subFunction) .bufferLenMissmatch
  let data ← words.foldlM (fun data word => data.extendOr (toBeBytes word) .bufferLenMissmatch) data
  pure (new fc data)

/-- `build_mei_type`. -/
def buildMeiType (fc : FunctionCode) (meiType : UInt8) (payload : List UInt8) :
    Except MbusError Pdu := do
  Except.guardErr (1 + payload.length > maxPduDataLen) .bufferTooSmall
  let data ← HVec.empty.pushOr meiType .bufferLenMissmatch
  let data ← data.extendOr payload .bufferLenMissmatch
  pure (new fc data)

/-- `build_u16_payload`. -/
def buildU16Payload (fc : FunctionCode) (value : UInt16) : Except MbusError Pdu := do
  let data ← HVec.empty.extendOr (toBeBytes value) .bufferLenMissmatch
  pure (new fc data)

/-- `build_byte_payload`. -/
def buildBytePayload (fc : FunctionCode) (byte : UInt8) : Except MbusError Pdu := do
  let data ← HVec.empty.pushOr byte .bufferLenMissmatch
  pure (new fc data)

/-- `build_empty`. -/
def buildEmpty (fc : FunctionCode) : Pdu := new fc .empty

/-- `build_byte_count_payload`. -/
def buildByteCountPayload (fc : FunctionCode) (payload : List UInt8) : Except MbusError Pdu := do
  Except.guardErr (payload.length > 255) .invalidByteCount
  Except.guardErr (1 + payload.length > maxPduDataLen) .bufferTooSmall
  let data ← HVec.empty.pushOr (UInt8.ofNat payload.length) .bufferLenMissmatch
  let data ← data.extendOr payload .bufferLenMissmatch
  pure (new fc data)

/-- `build_diagnostics`. -/
def buildDiagnostics (subFunction result : UInt16) : Except MbusError Pdu := do
  let data ← HVec.empty.extendOr (toBeBytes subFunction) .bufferLenMissmatch
  let data ← data.extendOr (toBeBytes result) .bufferLenMissmatch
  pure (new .diagnostics data)

/-- `build_fifo_payload`. -/
def buildFifoPayload (appPayload : List UInt8) : Except MbusError Pdu := do
  Except.guardErr (appPayload.length > 65535) .invalidByteCount
  Except.guardErr (2 + appPayload.length > maxPduDataLen) .bufferTooSmall
  let data ← HVec.empty.extendOr (toBeBytes (UInt16.ofNat appPayload.length)) .bufferLenMissmatch
  let data ← data.extendOr appPayload .bufferLenMissmatch
  pure (new .readFifoQueue data)

end Pdu

end ModbusRs
