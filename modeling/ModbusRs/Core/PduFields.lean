import ModbusRs.Core.Pdu
import Mathlib.Data.List.Basic

/-!
# Parsers of the PDU data field

One parser for each request or response layout. All index and slice operations are the
checked ones; the `_ne_panic` lemmas say that the length checks in front of them suffice.
-/

namespace ModbusRs

open Outcome

/-- `u16::from_be_bytes([data[offset], data[offset + 1]])`. -/
def u16At (data : List UInt8) (offset : Nat) : Fallible UInt16 := do
  let hi ← index data offset
  let lo ← index data (offset + 1)
  pure (fromBeBytes hi lo)

lemma u16At_of_lt {data : List UInt8} {offset : Nat} (h : offset + 1 < data.length) :
    u16At data offset = .ok (fromBeBytes data[offset] data[offset + 1]) := by
  rw [u16At, index_of_lt (Nat.lt_of_succ_lt h), ok_bind, index_of_lt h]
  rfl

/-- `ReadWindow`. -/
structure ReadWindow where
  address : UInt16
  quantity : UInt16
  deriving DecidableEq, Repr

/-- `WriteSingleU16Fields`. -/
structure WriteSingleU16Fields where
  address : UInt16
  value : UInt16
  deriving DecidableEq, Repr

/-- `WriteMultipleFields`. -/
structure WriteMultipleFields where
  address : UInt16
  quantity : UInt16
  byteCount : UInt8
  values : List UInt8
  deriving DecidableEq, Repr

/-- `MaskWriteRegisterFields`. -/
structure MaskWriteRegisterFields where
  address : UInt16
  andMask : UInt16
  orMask : UInt16
  deriving DecidableEq, Repr

/-- `ByteCountPayload`. -/
structure ByteCountPayload where
  byteCount : UInt8
  payload : List UInt8
  deriving DecidableEq, Repr

/-- `ReadWriteMultipleFields`. -/
structure ReadWriteMultipleFields where
  readAddress : UInt16
  readQuantity : UInt16
  writeAddress : UInt16
  writeQuantity : UInt16
  writeByteCount : UInt8
  writeValues : List UInt8
  deriving DecidableEq, Repr

/-- `SubFunctionPayload`. -/
structure SubFunctionPayload where
  subFunction : UInt16
  payload : List UInt8
  deriving DecidableEq, Repr

/-- `U16PairFields`. -/
structure U16PairFields where
  first : UInt16
  second : UInt16
  deriving DecidableEq, Repr

/-- `MeiTypePayload`. -/
structure MeiTypePayload where
  meiTypeByte : UInt8
  payload : List UInt8
  deriving DecidableEq, Repr

/-- `FifoPayload`. -/
structure FifoPayload where
  fifoByteCount : UInt16
  fifoCount : UInt16
  values : List UInt8
  deriving DecidableEq, Repr

/-- `FileRecordReadSubRequest`. -/
structure FileRecordReadSubRequest where
  fileNumber : UInt16
  recordNumber : UInt16
  recordLength : UInt16
  deriving DecidableEq, Repr

/-- `FileRecordWriteSubRequest`. -/
structure FileRecordWriteSubRequest where
  fileNumber : UInt16
  recordNumber : UInt16
  recordLength : UInt16
  recordDataBytes : List UInt8
  deriving DecidableEq, Repr

/-- `FILE_RECORD_REF_TYPE`. -/
def fileRecordRefType : UInt8 := 0x06

/-- `MAX_SUB_REQUESTS_PER_PDU`. -/
abbrev maxSubRequestsPerPdu : Nat := 35

/-- `FILE_RECORD_MAX_REQUEST_BYTE_COUNT`. -/
def fileRecordMaxRequestByteCount : Nat := 245

namespace Pdu

variable (p : Pdu)

/-- `read_address_quantity_pair`. -/
def readAddressQuantityPair : Fallible (UInt16 × UInt16) := do
  let address ← u16At p.data.toList 0
  let quantity ← u16At p.data.toList 2
  pure (address, quantity)

/-- `read_window`. -/
def readWindow : Fallible ReadWindow := do
  guardErr (p.dataLen != 4) .invalidPduLength
  let (address, quantity) ← p.readAddressQuantityPair
  pure ⟨address, quantity⟩

/-- `write_single_u16_fields`. -/
def writeSingleU16Fields : Fallible WriteSingleU16Fields := do
  guardErr (p.dataLen != 4) .invalidPduLength
  let address ← u16At p.data.toList 0
  let value ← u16At p.data.toList 2
  pure ⟨address, value⟩

/-- `write_multiple_fields`. -/
def writeMultipleFields : Fallible WriteMultipleFields := do
  guardErr (p.dataLen < 5) .invalidPduLength
  let (address, quantity) ← p.readAddressQuantityPair
  let byteCount ← index p.data.toList 4
  let expectedLen := 5 + byteCount.toNat
  guardErr (p.dataLen != expectedLen) .invalidByteCount
  let values ← slice p.data.toList 5 expectedLen
  pure ⟨address, quantity, byteCount, values⟩

/-- `mask_write_register_fields`. -/
def maskWriteRegisterFields : Fallible MaskWriteRegisterFields := do
  guardErr (p.dataLen != 6) .invalidPduLength
  let address ← u16At p.data.toList 0
  let andMask ← u16At p.data.toList 2
  let orMask ← u16At p.data.toList 4
  pure ⟨address, andMask, orMask⟩

/-- `byte_count_payload`. -/
def byteCountPayload : Fallible ByteCountPayload := do
  guardErr (p.dataLen < 1) .invalidPduLength
  let byteCount ← index p.data.toList 0
  let expectedLen := 1 + byteCount.toNat
  guardErr (p.dataLen != expectedLen) .invalidByteCount
  let payload ← slice p.data.toList 1 expectedLen
  pure ⟨byteCount, payload⟩

/-- `read_write_multiple_fields`. -/
def readWriteMultipleFields : Fallible ReadWriteMultipleFields := do
  guardErr (p.dataLen < 9) .invalidPduLength
  let (readAddress, readQuantity) ← p.readAddressQuantityPair
  let writeAddress ← u16At p.data.toList 4
  let writeQuantity ← u16At p.data.toList 6
  let writeByteCount ← index p.data.toList 8
  let expectedLen := 9 + writeByteCount.toNat
  guardErr (p.dataLen != expectedLen) .invalidByteCount
  let writeValues ← slice p.data.toList 9 expectedLen
  pure ⟨readAddress, readQuantity, writeAddress, writeQuantity, writeByteCount, writeValues⟩

/-- `single_byte_payload`. -/
def singleBytePayload : Fallible UInt8 := do
  guardErr (p.dataLen != 1) .invalidPduLength
  index p.data.toList 0

/-- `sub_function_payload`. -/
def subFunctionPayload : Fallible SubFunctionPayload := do
  guardErr (p.dataLen < 2) .invalidPduLength
  guardErr (p.dataLen % 2 != 0) .invalidPduLength
  let subFunction ← u16At p.data.toList 0
  let payload ← slice p.data.toList 2 p.dataLen
  pure ⟨subFunction, payload⟩

/-- `u16_pair_fields`. -/
def u16PairFields : Fallible U16PairFields := do
  guardErr (p.dataLen != 4) .invalidPduLength
  let first ← u16At p.data.toList 0
  let second ← u16At p.data.toList 2
  pure ⟨first, second⟩

/-- `mei_type_payload`. -/
def meiTypePayload : Fallible MeiTypePayload := do
  guardErr (p.dataLen < 1) .invalidPduLength
  let meiTypeByte ← index p.data.toList 0
  let payload ← slice p.data.toList 1 p.dataLen
  pure ⟨meiTypeByte, payload⟩

/-- `fifo_payload`. -/
def fifoPayload : Fallible FifoPayload := do
  guardErr (p.dataLen < 4) .invalidPduLength
  let fifoByteCount ← u16At p.data.toList 0
  let fifoCount ← u16At p.data.toList 2
  let values ← slice p.data.toList 4 p.dataLen
  pure ⟨fifoByteCount, fifoCount, values⟩

/-- `fifo_pointer`. -/
def fifoPointer : Fallible UInt16 := do
  guardErr (p.dataLen != 2) .invalidPduLength
  u16At p.data.toList 0

/-- `diagnostics_fields`. -/
def diagnosticsFields : Fallible (UInt16 × UInt16) := do
  guardErr (p.dataLen < 4) .invalidPduLength
  let subFunction ← u16At p.data.toList 0
  let dataWord ← u16At p.data.toList 2
  pure (subFunction, dataWord)

/-- The `while index < data_len` loop of `file_record_read_sub_requests`. -/
def readSubRequestLoop (data : List UInt8) (position : Nat)
    (out : HVec FileRecordReadSubRequest maxSubRequestsPerPdu) :
    Fallible (HVec FileRecordReadSubRequest maxSubRequestsPerPdu) :=
  if position < data.length then do
    let refType ← index data position
    guardErr (refType != fileRecordRefType) .invalidValue
    let fileNumber ← u16At data (position + 1)
    let recordNumber ← u16At data (position + 3)
    let recordLength ← u16At data (position + 5)
    guardErr (recordLength == 0) .invalidQuantity
    let out ← lift (out.pushOr ⟨fileNumber, recordNumber, recordLength⟩ .tooManyFileReadSubRequests)
    readSubRequestLoop data (position + 7) out
  else pure out
termination_by data.length - position

/-- `file_record_read_sub_requests`. -/
def fileRecordReadSubRequests :
    Fallible (HVec FileRecordReadSubRequest maxSubRequestsPerPdu) := do
  guardErr (p.dataLen < 1 + 7) .invalidPduLength
  let byteCount ← index p.data.toList 0
  guardErr (byteCount.toNat != p.dataLen - 1) .invalidByteCount
  guardErr (byteCount.toNat > fileRecordMaxRequestByteCount) .invalidByteCount
  guardErr (byteCount.toNat % 7 != 0) .invalidByteCount
  readSubRequestLoop p.data.toList 1 .empty

/-- The `while index < data_len` loop of `file_record_write_sub_requests`. -/
def writeSubRequestLoop (data : List UInt8) (position : Nat)
    (out : HVec FileRecordWriteSubRequest maxSubRequestsPerPdu) :
    Fallible (HVec FileRecordWriteSubRequest maxSubRequestsPerPdu) :=
  if position < data.length then do
    guardErr (position + 7 > data.length) .invalidPduLength
    let refType ← index data position
    guardErr (refType != fileRecordRefType) .invalidValue
    let fileNumber ← u16At data (position + 1)
    let recordNumber ← u16At data (position + 3)
    let recordLength ← u16At data (position + 5)
    guardErr (recordLength == 0) .invalidQuantity
    let endIndex := position + (7 + recordLength.toNat * 2)
    guardErr (endIndex > data.length) .invalidByteCount
    let recordDataBytes ← slice data (position + 7) endIndex
    let out ← lift (out.pushOr ⟨fileNumber, recordNumber, recordLength, recordDataBytes⟩
      .tooManyFileReadSubRequests)
    writeSubRequestLoop data endIndex out
  else pure out
termination_by data.length - position

/-- `file_record_write_sub_requests`. -/
def fileRecordWriteSubRequests :
    Fallible (HVec FileRecordWriteSubRequest maxSubRequestsPerPdu) := do
  guardErr (p.dataLen < 1 + 7 + 2) .invalidPduLength
  let byteCount ← index p.data.toList 0
  guardErr (byteCount.toNat != p.dataLen - 1) .invalidByteCount
  guardErr (byteCount.toNat > fileRecordMaxRequestByteCount) .invalidByteCount
  let out ← writeSubRequestLoop p.data.toList 1 .empty
  guardErr out.toList.isEmpty .invalidPduLength
  pure out

/-! ### The length checks suffice -/

variable {p}

lemma readAddressQuantityPair_of_le (h : 4 ≤ p.dataLen) :
    ∃ address quantity, p.readAddressQuantityPair = .ok (address, quantity) := by
  unfold dataLen at h
  rw [readAddressQuantityPair, u16At_of_lt (by omega), ok_bind, u16At_of_lt (by omega)]
  exact ⟨_, _, rfl⟩

lemma readWindow_ne_panic : p.readWindow ≠ .panic := by
  rw [readWindow, guard_bne_bind_ne_panic]
  intro h
  obtain ⟨address, quantity, hpair⟩ := readAddressQuantityPair_of_le (p := p) (by omega)
  simp [hpair]

lemma writeSingleU16Fields_ne_panic : p.writeSingleU16Fields ≠ .panic := by
  rw [writeSingleU16Fields, guard_bne_bind_ne_panic, dataLen]
  intro h
  rw [u16At_of_lt (by omega), ok_bind, u16At_of_lt (by omega)]
  simp

lemma writeMultipleFields_ne_panic : p.writeMultipleFields ≠ .panic := by
  rw [writeMultipleFields, guard_decide_bind_ne_panic]
  intro h
  obtain ⟨address, quantity, hpair⟩ := readAddressQuantityPair_of_le (p := p) (by omega)
  unfold dataLen at h
  rw [hpair, ok_bind]
  dsimp only
  rw [index_of_lt (by omega), ok_bind]
  rw [guard_bne_bind_ne_panic, dataLen]
  intro h'
  rw [slice_of_le (by omega) (by omega)]
  simp

lemma byteCountPayload_ne_panic : p.byteCountPayload ≠ .panic := by
  rw [byteCountPayload, guard_decide_bind_ne_panic, dataLen]
  intro h
  rw [index_of_lt (by omega), ok_bind]
  rw [guard_bne_bind_ne_panic]
  intro h'
  rw [slice_of_le (by omega) (by omega)]
  simp

lemma maskWriteRegisterFields_ne_panic : p.maskWriteRegisterFields ≠ .panic := by
  rw [maskWriteRegisterFields, guard_bne_bind_ne_panic, dataLen]
  intro h
  rw [u16At_of_lt (by omega), ok_bind, u16At_of_lt (by omega), ok_bind, u16At_of_lt (by omega)]
  simp

lemma readWriteMultipleFields_ne_panic : p.readWriteMultipleFields ≠ .panic := by
  rw [readWriteMultipleFields, guard_decide_bind_ne_panic]
  intro h
  obtain ⟨address, quantity, hpair⟩ := readAddressQuantityPair_of_le (p := p) (by omega)
  unfold dataLen at h
  rw [hpair, ok_bind]
  dsimp only
  rw [u16At_of_lt (by omega), ok_bind, u16At_of_lt (by omega), ok_bind, index_of_lt (by omega),
    ok_bind]
  rw [guard_bne_bind_ne_panic, dataLen]
  intro h'
  rw [slice_of_le (by omega) (by omega)]
  simp

lemma singleBytePayload_ne_panic : p.singleBytePayload ≠ .panic := by
  rw [singleBytePayload, guard_bne_bind_ne_panic, dataLen]
  intro h
  rw [index_of_lt (by omega)]
  simp

lemma subFunctionPayload_ne_panic : p.subFunctionPayload ≠ .panic := by
  rw [subFunctionPayload, guard_decide_bind_ne_panic, dataLen]
  intro h
  rw [guardErr_bind_ne_panic]
  intro _
  rw [u16At_of_lt (by omega), ok_bind, slice_of_le (by omega) (Nat.le_refl _)]
  simp

lemma u16PairFields_ne_panic : p.u16PairFields ≠ .panic := by
  rw [u16PairFields, guard_bne_bind_ne_panic, dataLen]
  intro h
  rw [u16At_of_lt (by omega), ok_bind, u16At_of_lt (by omega)]
  simp

lemma fifoPayload_ne_panic : p.fifoPayload ≠ .panic := by
  rw [fifoPayload, guard_decide_bind_ne_panic, dataLen]
  intro h
  rw [u16At_of_lt (by omega), ok_bind, u16At_of_lt (by omega), ok_bind,
    slice_of_le (by omega) (Nat.le_refl _)]
  simp

lemma meiTypePayload_ne_panic : p.meiTypePayload ≠ .panic := by
  rw [meiTypePayload, guard_decide_bind_ne_panic, dataLen]
  intro h
  rw [index_of_lt (by omega), ok_bind, slice_of_le (by omega) (Nat.le_refl _)]
  simp

lemma fifoPointer_ne_panic : p.fifoPointer ≠ .panic := by
  rw [fifoPointer, guard_bne_bind_ne_panic, dataLen]
  intro h
  rw [u16At_of_lt (by omega)]
  simp

lemma diagnosticsFields_ne_panic : p.diagnosticsFields ≠ .panic := by
  rw [diagnosticsFields, guard_decide_bind_ne_panic, dataLen]
  intro h
  rw [u16At_of_lt (by omega), ok_bind, u16At_of_lt (by omega)]
  simp

/-- The position stays a whole number of sub-requests before the end of the data. -/
lemma readSubRequestLoop_ne_panic (data : List UInt8) (position : Nat)
    (out : HVec FileRecordReadSubRequest maxSubRequestsPerPdu)
    (hmod : (data.length - position) % 7 = 0) :
    readSubRequestLoop data position out ≠ .panic := by
  induction position, out using readSubRequestLoop.induct data with
  | case1 position out hlt ih =>
    rw [readSubRequestLoop, if_pos hlt, index_of_lt hlt, ok_bind, guardErr_bind_ne_panic]
    intro _
    rw [u16At_of_lt (by omega), ok_bind, u16At_of_lt (by omega), ok_bind,
      u16At_of_lt (by omega), ok_bind, guardErr_bind_ne_panic]
    intro _
    rw [lift_bind_ne_panic]
    intro out' _
    exact ih out' (by omega)
  | case2 position out hge =>
    rw [readSubRequestLoop, if_neg hge]
    simp

lemma fileRecordReadSubRequests_ne_panic : p.fileRecordReadSubRequests ≠ .panic := by
  rw [fileRecordReadSubRequests, guard_decide_bind_ne_panic, dataLen]
  intro h
  rw [index_of_lt (by omega), ok_bind, guard_bne_bind_ne_panic]
  intro hcount
  rw [guard_decide_bind_ne_panic]
  intro _
  rw [guard_bne_bind_ne_panic]
  intro hmod
  exact readSubRequestLoop_ne_panic _ _ _ (hcount ▸ hmod)

lemma writeSubRequestLoop_ne_panic (data : List UInt8) (position : Nat)
    (out : HVec FileRecordWriteSubRequest maxSubRequestsPerPdu) :
    writeSubRequestLoop data position out ≠ .panic := by
  induction position, out using writeSubRequestLoop.induct data with
  | case1 position out hlt ih =>
    rw [writeSubRequestLoop, if_pos hlt, guard_decide_bind_ne_panic]
    intro h7
    rw [index_of_lt hlt, ok_bind, guardErr_bind_ne_panic]
    intro _
    rw [u16At_of_lt (by omega), ok_bind, u16At_of_lt (by omega), ok_bind,
      u16At_of_lt (by omega), ok_bind, guardErr_bind_ne_panic]
    intro _
    dsimp only
    rw [guard_decide_bind_ne_panic]
    intro hend
    rw [slice_of_le (by omega) (by omega), ok_bind, lift_bind_ne_panic]
    intro out' _
    exact ih _ out'
  | case2 position out hge =>
    rw [writeSubRequestLoop, if_neg hge]
    simp

/-- Record data is the slice of the PDU data that the record length asks for. -/
lemma writeSubRequestLoop_dataBytes (data : List UInt8) (position : Nat)
    (out : HVec FileRecordWriteSubRequest maxSubRequestsPerPdu)
    (hout : ∀ sub ∈ out.toList, sub.recordDataBytes.length = sub.recordLength.toNat * 2 ∧
      sub.recordDataBytes.length ≤ data.length) :
    ∀ out', writeSubRequestLoop data position out = .ok out' →
      ∀ sub ∈ out'.toList, sub.recordDataBytes.length = sub.recordLength.toNat * 2 ∧
        sub.recordDataBytes.length ≤ data.length := by
  induction position, out using writeSubRequestLoop.induct data with
  | case1 position out hlt ih =>
    intro out' h
    rw [writeSubRequestLoop, if_pos hlt] at h
    obtain ⟨_, _, h⟩ := bind_eq_ok.mp h
    obtain ⟨_, _, h⟩ := bind_eq_ok.mp h
    obtain ⟨_, _, h⟩ := bind_eq_ok.mp h
    obtain ⟨_, _, h⟩ := bind_eq_ok.mp h
    obtain ⟨_, _, h⟩ := bind_eq_ok.mp h
    obtain ⟨recordLength, _, h⟩ := bind_eq_ok.mp h
    obtain ⟨_, _, h⟩ := bind_eq_ok.mp h
    obtain ⟨_, hend, h⟩ := bind_eq_ok.mp h
    obtain ⟨bytes, hbytes, h⟩ := bind_eq_ok.mp h
    obtain ⟨out'', hout'', h⟩ := bind_eq_ok.mp h
    have hend := guardErr_eq_ok.mp hend
    rw [decide_eq_false_iff_not] at hend
    have hlen : bytes.length = recordLength.toNat * 2 ∧ bytes.length ≤ data.length := by
      obtain ⟨_, hslice⟩ := slice_eq_ok.mp hbytes
      rw [hslice, List.length_drop, List.length_take]
      omega
    refine ih _ out'' ?_ out' h
    rw [HVec.pushOr_eq_ok.mp (lift_eq_ok.mp hout'')]
    intro sub hsub
    rcases List.mem_append.mp hsub with hsub | hsub
    · exact hout sub hsub
    · rw [List.mem_singleton.mp hsub]
      exact hlen
  | case2 position out hge =>
    intro out' h
    rw [writeSubRequestLoop, if_neg hge] at h
    cases h
    exact hout

lemma fileRecordWriteSubRequests_dataBytes
    {subs : HVec FileRecordWriteSubRequest maxSubRequestsPerPdu}
    (h : p.fileRecordWriteSubRequests = .ok subs) :
    subs.toList ≠ [] ∧ ∀ sub ∈ subs.toList,
      sub.recordDataBytes.length = sub.recordLength.toNat * 2 ∧
        sub.recordDataBytes.length ≤ maxPduDataLen := by
  obtain ⟨_, _, h⟩ := bind_eq_ok.mp h
  obtain ⟨_, _, h⟩ := bind_eq_ok.mp h
  obtain ⟨_, _, h⟩ := bind_eq_ok.mp h
  obtain ⟨_, _, h⟩ := bind_eq_ok.mp h
  obtain ⟨out, hout, h⟩ := bind_eq_ok.mp h
  obtain ⟨_, hempty, h⟩ := bind_eq_ok.mp h
  cases h
  have hempty := guardErr_eq_ok.mp hempty
  refine ⟨fun hnil => by simp [hnil] at hempty, fun sub hsub => ?_⟩
  obtain ⟨hlen, hle⟩ := writeSubRequestLoop_dataBytes _ _ _ (by simp) _ hout sub hsub
  exact ⟨hlen, Nat.le_trans hle p.data.length_le⟩

lemma fileRecordWriteSubRequests_ne_panic : p.fileRecordWriteSubRequests ≠ .panic := by
  rw [fileRecordWriteSubRequests, guard_decide_bind_ne_panic, dataLen]
  intro h
  rw [index_of_lt (by omega), ok_bind, guardErr_bind_ne_panic]
  intro _
  rw [guardErr_bind_ne_panic]
  intro _
  refine bind_ne_panic (writeSubRequestLoop_ne_panic _ _ _) (fun out _ => ?_)
  rw [guardErr_bind_ne_panic]
  intro _
  simp

end Pdu

end ModbusRs
