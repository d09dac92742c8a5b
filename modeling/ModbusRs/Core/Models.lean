import ModbusRs.Core.PduFields
import Mathlib.Data.Vector.Basic

/-!
# Data models

The blocks of bits and registers, the FIFO queue, the file record sub-requests and the device
identification that clients exchange with their applications.
-/

namespace ModbusRs

open Outcome

/-- `a + b` on 16 bits. -/
def addU16 [Features] (a b : UInt16) : Fallible UInt16 :=
  if Features.overflowChecks ∧ 2 ^ 16 ≤ a.toNat + b.toNat then .panic else .ok (a + b)

/-- A sum that fits. -/
lemma addU16_of_lt [Features] {a b : UInt16} (h : a.toNat + b.toNat < 65536) :
    addU16 a b = .ok (a + b) ∧ (a + b).toNat = a.toNat + b.toNat := by
  refine ⟨if_neg fun hover => ?_, ?_⟩
  · omega
  · rw [UInt16.toNat_add, Nat.mod_eq_of_lt h]

/-- `dest[..src.len()].copy_from_slice(src)`. -/
def copyFront {α : Type} {n : Nat} (dest : Vector α n) (src : List α) :
    Fallible (Vector α n) :=
  if src.length ≤ n then .ok (.ofFn fun i => src.getD i dest[i]) else .panic

/-! ### Bits -/

/-- `MAX_COILS_PER_PDU` and `MAX_DISCRETE_INPUTS_PER_PDU`. -/
abbrev maxCoilsPerPdu : Nat := 2000

/-- `MAX_COIL_BYTES` and `MAX_DISCRETE_INPUT_BYTES`. -/
abbrev maxCoilBytes : Nat := 250

/-- The common layout of `Coils` and `DiscreteInputs`. -/
structure BitBlock where
  fromAddress : UInt16
  quantity : UInt16
  values : Vector UInt8 maxCoilBytes
  quantity_le : quantity.toNat ≤ maxCoilsPerPdu
  deriving DecidableEq

/-- `Coils`. -/
abbrev Coils := BitBlock

/-- `DiscreteInputs`. -/
abbrev DiscreteInputs := BitBlock

namespace BitBlock

/-- `new`. -/
def new (fromAddress quantity : UInt16) : Except MbusError BitBlock :=
  if h : quantity.toNat ≤ maxCoilsPerPdu then
    .ok ⟨fromAddress, quantity, .replicate _ 0, h⟩
  else .error .invalidQuantity

/-- `with_values`. -/
def withValues (block : BitBlock) (values : List UInt8) (bitsLength : UInt16) :
    Fallible BitBlock := do
  guardErr (bitsLength != block.quantity) .invalidQuantity
  let front ← slice values 0 ((bitsLength.toNat + 7) / 8)
  let copied ← copyFront block.values front
  pure { block with values := copied }

variable [Features]

/-- The check of an address against a block. -/
def checkAddress (fromAddress quantity address : UInt16) : Fallible Unit := do
  guardErr (address < fromAddress) .invalidAddress
  let bound ← addU16 fromAddress quantity
  guardErr (address ≥ bound) .invalidAddress

/-- `value`. -/
def value (block : BitBlock) (address : UInt16) : Fallible Bool := do
  checkAddress block.fromAddress block.quantity address
  let bitIndex := (address - block.fromAddress).toNat
  let byte ← index block.values.toList (bitIndex / 8)
  pure (byte &&& ((1 : UInt8) <<< UInt8.ofNat (bitIndex % 8)) != 0)

/-- `set_value`. -/
def setValue (block : BitBlock) (address : UInt16) (value : Bool) : Fallible BitBlock := do
  checkAddress block.fromAddress block.quantity address
  let bitIndex := (address - block.fromAddress).toNat
  let byte ← index block.values.toList (bitIndex / 8)
  let mask := (1 : UInt8) <<< UInt8.ofNat (bitIndex % 8)
  pure { block with values :=
    block.values.setIfInBounds (bitIndex / 8) (if value then byte ||| mask else byte &&& ~~~mask) }

end BitBlock

/-! ### Registers -/

/-- `MAX_REGISTERS_PER_PDU`. -/
abbrev maxRegistersPerPdu : Nat := 125

/-- `Registers<N>`. -/
structure Registers (n : Nat) where
  fromAddress : UInt16
  quantity : UInt16
  values : Vector UInt16 n
  quantity_le : quantity.toNat ≤ n
  deriving DecidableEq

/-- `HoldingRegisters`. -/
abbrev HoldingRegisters := Registers maxRegistersPerPdu

/-- `InputRegisters`. -/
abbrev InputRegisters := Registers maxRegistersPerPdu

namespace Registers

variable {n : Nat}

/-- `new`. -/
def new (fromAddress quantity : UInt16) : Except MbusError (Registers n) :=
  if h : quantity.toNat ≤ n then
    .ok ⟨fromAddress, quantity, .replicate _ 0, h⟩
  else .error .invalidQuantity

/-- `with_values`. -/
def withValues (registers : Registers n) (values : List UInt16) (length : UInt16) :
    Fallible (Registers n) := do
  guardErr (length > UInt16.ofNat n) .invalidQuantity
  guardErr (length > registers.quantity) .invalidQuantity
  if values.length = length.toNat then do
    let copied ← copyFront registers.values values
    pure { registers with values := copied }
  else .panic

variable [Features]

/-- `value`. -/
def value (registers : Registers n) (address : UInt16) : Fallible UInt16 := do
  BitBlock.checkAddress registers.fromAddress registers.quantity address
  match registers.values[(address - registers.fromAddress).toNat]? with
  | some value => pure value
  | none => .err .invalidAddress

/-- `set_value`, which holding registers have. -/
def setValue (registers : Registers n) (address value : UInt16) :
    Fallible (Registers n) := do
  BitBlock.checkAddress registers.fromAddress registers.quantity address
  let i := (address - registers.fromAddress).toNat
  if i < n then
    pure { registers with values := registers.values.setIfInBounds i value }
  else .panic

end Registers

/-! ### Values by address -/

/-- The bit `index` of packed bits, as `Coils::value` reads it. -/
def bitAt (bytes : List UInt8) (index : Nat) : Bool :=
  bytes.getD (index / 8) 0 &&& ((1 : UInt8) <<< UInt8.ofNat (index % 8)) != 0

/-- An address behind the first of a range that does not reach the end of the address space. -/
lemma toNat_add_ofNat {address quantity : UInt16} {i : Nat}
    (hrange : address.toNat + quantity.toNat ≤ 65535) (hi : i < quantity.toNat) :
    (address + UInt16.ofNat i).toNat = address.toNat + i := by
  rw [UInt16.toNat_add, UInt16.toNat_ofNat']
  omega

section Blocks

variable [Features] {address quantity : UInt16} {i : Nat}

lemma BitBlock.checkAddress_add (hrange : address.toNat + quantity.toNat ≤ 65535)
    (hi : i < quantity.toNat) :
    checkAddress address quantity (address + UInt16.ofNat i) = .ok () := by
  have haddress := toNat_add_ofNat hrange hi
  have hsum : (address + quantity).toNat = address.toNat + quantity.toNat := by
    rw [UInt16.toNat_add]
    omega
  rw [checkAddress, addU16, if_neg (by omega), decide_eq_false (by
    rw [UInt16.lt_iff_toNat_lt]
    omega), guardErr_false, ok_bind, ok_bind, decide_eq_false (by
    rw [ge_iff_le, UInt16.le_iff_toNat_le]
    omega)]
  rfl

omit [Features] in
lemma add_ofNat_sub (hrange : address.toNat + quantity.toNat ≤ 65535) (hi : i < quantity.toNat) :
    (address + UInt16.ofNat i - address).toNat = i := by
  have hle : address ≤ address + UInt16.ofNat i := by
    rw [UInt16.le_iff_toNat_le, toNat_add_ofNat hrange hi]
    omega
  rw [UInt16.toNat_sub_of_le _ _ hle, toNat_add_ofNat hrange hi, Nat.add_sub_cancel_left]

/-- The value of a coil is its bit. -/
lemma BitBlock.value_add (block : BitBlock)
    (hrange : block.fromAddress.toNat + block.quantity.toNat ≤ 65535)
    (hi : i < block.quantity.toNat) :
    block.value (block.fromAddress + UInt16.ofNat i) = .ok (bitAt block.values.toList i) := by
  have hle : block.quantity.toNat ≤ 2000 := block.quantity_le
  have hlen : i / 8 < block.values.toList.length := by
    rw [Vector.length_toList]
    change _ < 250
    omega
  rw [value, checkAddress_add hrange hi, ok_bind, add_ofNat_sub hrange hi]
  dsimp only
  rw [index_of_lt hlen, bitAt, List.getD_eq_getElem?_getD, List.getElem?_eq_getElem hlen]
  rfl

/-- The value of a register is its word. -/
lemma Registers.value_add {n : Nat} (registers : Registers n)
    (hrange : registers.fromAddress.toNat + registers.quantity.toNat ≤ 65535)
    (hi : i < registers.quantity.toNat) :
    registers.value (registers.fromAddress + UInt16.ofNat i) =
      .ok (registers.values.toList.getD i 0) := by
  have hlen : i < n := Nat.lt_of_lt_of_le hi registers.quantity_le
  have hlen' : i < registers.values.toList.length := by
    rwa [Vector.length_toList]
  rw [value, BitBlock.checkAddress_add hrange hi, ok_bind, add_ofNat_sub hrange hi,
    Vector.getElem?_eq_getElem hlen, List.getD_eq_getElem?_getD, List.getElem?_eq_getElem hlen']
  rfl

end Blocks

lemma copyFront_of_le {α : Type} {n : Nat} (dest : Vector α n) {src : List α} (h : src.length ≤ n) :
    copyFront dest src = .ok (.ofFn fun i => src.getD i dest[i]) := if_pos h

/-- The copied values stand first. -/
lemma copyFront_take {α : Type} {n : Nat} {dest copied : Vector α n} {src : List α}
    (h : copyFront dest src = .ok copied) : copied.toList.take src.length = src := by
  have hle : src.length ≤ n := by
    by_contra hgt
    rw [copyFront, if_neg hgt] at h
    cases h
  rw [copyFront_of_le dest hle] at h
  cases h
  refine List.ext_getElem ?_ fun i hi hi' => ?_
  · rw [List.length_take, Vector.length_toList, Nat.min_eq_left hle]
  · simp [List.getElem?_eq_getElem hi']

/-- A list that starts with these elements. -/
lemma getD_of_take {α : Type} {l front : List α} (h : l.take front.length = front) {i : Nat}
    (hi : i < front.length) (d : α) : l.getD i d = front.getD i d := by
  rw [List.getD_eq_getElem?_getD, List.getD_eq_getElem?_getD, ← List.getElem?_take_of_lt hi, h]

lemma BitBlock.new_of_le {quantity : UInt16} (address : UInt16)
    (h : quantity.toNat ≤ maxCoilsPerPdu) :
    BitBlock.new address quantity = .ok ⟨address, quantity, .replicate _ 0, h⟩ := dif_pos h

lemma BitBlock.new_of_gt {quantity : UInt16} (address : UInt16)
    (h : maxCoilsPerPdu < quantity.toNat) :
    BitBlock.new address quantity = .error .invalidQuantity := dif_neg (Nat.not_le.mpr h)

lemma Registers.new_of_le {n : Nat} {quantity : UInt16} (address : UInt16)
    (h : quantity.toNat ≤ n) :
    Registers.new address quantity = .ok ⟨address, quantity, .replicate _ 0, h⟩ := dif_pos h

lemma Registers.new_of_gt {n : Nat} {quantity : UInt16} (address : UInt16)
    (h : n < quantity.toNat) :
    (Registers.new address quantity : Except MbusError (Registers n)) = .error .invalidQuantity := dif_neg (Nat.not_le.mpr h)

/-- Only the front of the values is loaded. -/
lemma BitBlock.withValues_congr (block : BitBlock) {quantity : UInt16} {values values' : List UInt8}
    (hlen : (quantity.toNat + 7) / 8 ≤ values.length)
    (htake : values'.take ((quantity.toNat + 7) / 8) =
      values.take ((quantity.toNat + 7) / 8)) :
    block.withValues values' quantity = block.withValues values quantity := by
  have hlen' : (quantity.toNat + 7) / 8 ≤ values'.length := by
    have h := congrArg List.length htake
    rw [List.length_take, List.length_take] at h
    omega
  rw [withValues, withValues, slice_of_le (Nat.zero_le _) hlen', slice_of_le (Nat.zero_le _) hlen,
    htake]

/-- The bits that `with_values` loads. -/
lemma BitBlock.withValues_ok (block : BitBlock) {values : List UInt8}
    (hlen : (block.quantity.toNat + 7) / 8 ≤ values.length) :
    ∃ loaded, block.withValues values block.quantity = .ok loaded ∧
      loaded.fromAddress = block.fromAddress ∧ loaded.quantity = block.quantity ∧
      ∀ i < block.quantity.toNat, bitAt loaded.values.toList i = bitAt values i := by
  have hle : block.quantity.toNat ≤ 2000 := block.quantity_le
  have hfront : (values.take ((block.quantity.toNat + 7) / 8)).length =
      (block.quantity.toNat + 7) / 8 := by
    rw [List.length_take, Nat.min_eq_left hlen]
  have hcopy := copyFront_of_le block.values
    (show (values.take ((block.quantity.toNat + 7) / 8)).length ≤ 250 by omega)
  rw [withValues, bne_self_eq_false, guardErr_false, ok_bind, slice_of_le (Nat.zero_le _) hlen,
    ok_bind, List.drop_zero, hcopy, ok_bind]
  refine ⟨_, rfl, rfl, rfl, fun i hi => ?_⟩
  have hbyte : i / 8 < (block.quantity.toNat + 7) / 8 := by omega
  rw [bitAt, bitAt, getD_of_take (copyFront_take hcopy) (by omega), List.getD_eq_getElem?_getD,
    List.getElem?_take_of_lt hbyte, ← List.getD_eq_getElem?_getD]

lemma BitBlock.withValues_eq_panic (block : BitBlock) (values : List UInt8) :
    block.withValues values block.quantity = .panic ↔
      values.length < (block.quantity.toNat + 7) / 8 := by
  have hle := block.quantity_le
  rw [withValues, bne_self_eq_false, guardErr_false, ok_bind]
  by_cases h : (block.quantity.toNat + 7) / 8 ≤ values.length
  · rw [slice_of_le (Nat.zero_le _) h, ok_bind, List.drop_zero]
    have hfits : (values.take ((block.quantity.toNat + 7) / 8)).length ≤ maxCoilBytes := by
      rw [List.length_take]
      simp only [maxCoilsPerPdu, maxCoilBytes] at hle ⊢
      omega
    rw [copyFront_of_le block.values hfits, ok_bind, pure_def]
    simp only [reduceCtorEq, false_iff]
    omega
  · rw [slice_eq_panic.mpr (Or.inr (Nat.lt_of_not_le h)), panic_bind]
    exact iff_of_true rfl (Nat.lt_of_not_le h)

lemma Registers.new_eq_ok {n : Nat} {address quantity : UInt16} {registers : Registers n}
    (h : Registers.new address quantity = .ok registers) :
    quantity.toNat ≤ n ∧ registers.quantity = quantity := by
  unfold Registers.new at h
  split at h
  · rename_i hle
    cases h
    exact ⟨hle, rfl⟩
  · cases h

lemma Registers.withValues_ne_panic (registers : HoldingRegisters) {values : List UInt16}
    {length : UInt16} (h : values.length = length.toNat) :
    registers.withValues values length ≠ .panic := by
  rw [Registers.withValues, guardErr_bind_ne_panic]
  intro hmax
  rw [guardErr_bind_ne_panic]
  intro _
  rw [if_pos h]
  rw [decide_eq_false_iff_not, gt_iff_lt, UInt16.lt_iff_toNat_lt, Nat.not_lt] at hmax
  rw [copyFront_of_le registers.values (h.symm ▸ hmax), ok_bind]
  simp

/-- The words that `with_values` loads. -/
lemma Registers.withValues_ok (registers : HoldingRegisters) {values : List UInt16}
    (hlen : values.length = registers.quantity.toNat) :
    ∃ loaded, registers.withValues values registers.quantity = .ok loaded ∧
      loaded.fromAddress = registers.fromAddress ∧ loaded.quantity = registers.quantity ∧
      loaded.values.toList.take values.length = values := by
  have hle : registers.quantity.toNat ≤ 125 := registers.quantity_le
  have hcopy := copyFront_of_le registers.values (show values.length ≤ 125 by omega)
  have hself : ¬registers.quantity > registers.quantity := by
    rw [gt_iff_lt, UInt16.lt_iff_toNat_lt]
    exact Nat.lt_irrefl _
  have hmax : ¬registers.quantity > UInt16.ofNat maxRegistersPerPdu := by
    rw [gt_iff_lt, UInt16.lt_iff_toNat_lt]
    exact Nat.not_lt.mpr hle
  rw [withValues, decide_eq_false hmax, guardErr_false, ok_bind,
    decide_eq_false hself, guardErr_false, ok_bind, if_pos hlen, hcopy, ok_bind]
  exact ⟨_, rfl, rfl, rfl, copyFront_take hcopy⟩

/-! ### FIFO queues -/

/-- `MAX_FIFO_QUEUE_COUNT_PER_PDU`. -/
abbrev maxFifoQueueCountPerPdu : Nat := 31

/-- `FifoQueue`. -/
structure FifoQueue where
  ptrAddress : UInt16
  queue : Vector UInt16 maxFifoQueueCountPerPdu
  length : Nat
  length_le : length ≤ maxFifoQueueCountPerPdu
  deriving DecidableEq

namespace FifoQueue

/-- `new`. -/
def new (ptrAddress : UInt16) : FifoQueue := ⟨ptrAddress, .replicate _ 0, 0, Nat.zero_le _⟩

/-- `with_values`. -/
def withValues (fifo : FifoQueue) (values : Vector UInt16 maxFifoQueueCountPerPdu)
    (length : Nat) : FifoQueue :=
  { fifo with
    queue := values
    length := min length maxFifoQueueCountPerPdu
    length_le := Nat.min_le_right _ _ }

end FifoQueue

/-! ### File records -/

/-- `SUB_REQ_PARAM_BYTE_LEN`. -/
def subReqParamByteLen : Nat := 6 + 1

/-- `SubRequestParams`. -/
structure SubRequestParams where
  fileNumber : UInt16
  recordNumber : UInt16
  recordLength : UInt16
  recordData : Option (HVec UInt16 maxPduDataLen)
  deriving DecidableEq

/-- `SubRequest`. -/
structure SubRequest where
  params : HVec SubRequestParams maxSubRequestsPerPdu
  totalReadBytesLength : UInt16
  deriving DecidableEq

namespace SubRequest

/-- `new`. -/
def new : SubRequest := ⟨.empty, 0⟩

/-- `byte_count`. -/
def byteCount (request : SubRequest) : Nat :=
  (request.params.toList.map fun p => 7 + (p.recordData.map fun d => d.length * 2).getD 0).sum

/-- One round of the loop in `to_sub_req_pdu_bytes`. -/
def appendParams (bytes : HVec UInt8 maxPduDataLen) (param : SubRequestParams) :
    Except MbusError (HVec UInt8 maxPduDataLen) := do
  let bytes ← bytes.pushOr fileRecordRefType .bufferTooSmall
  let bytes ← bytes.extendOr (toBeBytes param.fileNumber) .bufferLenMissmatch
  let bytes ← bytes.extendOr (toBeBytes param.recordNumber) .bufferLenMissmatch
  let bytes ← bytes.extendOr (toBeBytes param.recordLength) .bufferLenMissmatch
  match param.recordData with
  | some data =>
    data.toList.foldlM (fun bytes value => bytes.extendOr (toBeBytes value)
      MbusError.bufferLenMissmatch) bytes
  | none => pure bytes

/-- `to_sub_req_pdu_bytes`. -/
def toSubReqPduBytes (request : SubRequest) : Except MbusError (HVec UInt8 maxPduDataLen) := do
  let bytes ← HVec.empty.pushOr (UInt8.ofNat request.byteCount) .bufferTooSmall
  request.params.toList.foldlM appendParams bytes

end SubRequest

/-! ### Device identification -/

/-- `BasicObjectId`. -/
inductive BasicObjectId where
  | vendorName
  | productCode
  | majorMinorRevision
  deriving DecidableEq, Repr

/-- `RegularObjectId`. -/
inductive RegularObjectId where
  | vendorUrl
  | productName
  | modelName
  | userApplicationName
  deriving DecidableEq, Repr

/-- `ObjectId`. -/
inductive ObjectId where
  | err
  | basic (id : BasicObjectId)
  | regular (id : RegularObjectId)
  | extended (id : UInt8)
  | reserved (id : UInt8)
  deriving DecidableEq, Repr

/-- `ObjectId::from`. -/
def ObjectId.ofByte (id : UInt8) : ObjectId :=
  match id.toNat with
  | 0x00 => .basic .vendorName
  | 0x01 => .basic .productCode
  | 0x02 => .basic .majorMinorRevision
  | 0x03 => .regular .vendorUrl
  | 0x04 => .regular .productName
  | 0x05 => .regular .modelName
  | 0x06 => .regular .userApplicationName
  | n => if 0x80 ≤ n then .extended id else .reserved id

/-- `From<ObjectId> for u8`. -/
def ObjectId.toByte : ObjectId → UInt8
  | .basic .vendorName => 0x00
  | .basic .productCode => 0x01
  | .basic .majorMinorRevision => 0x02
  | .regular .vendorUrl => 0x03
  | .regular .productName => 0x04
  | .regular .modelName => 0x05
  | .regular .userApplicationName => 0x06
  | .extended id => id
  | .reserved id => id
  | .err => 0

/-- `ReadDeviceIdCode`. -/
inductive ReadDeviceIdCode where
  | err
  | basic
  | regular
  | extended
  | specific
  deriving DecidableEq, Repr

/-- `ReadDeviceIdCode::try_from`. -/
def ReadDeviceIdCode.tryFrom (value : UInt8) : Except MbusError ReadDeviceIdCode :=
  match value.toNat with
  | 0x01 => .ok .basic
  | 0x02 => .ok .regular
  | 0x03 => .ok .extended
  | 0x04 => .ok .specific
  | _ => .error .invalidDeviceIdCode

/-- `code as u8`. -/
def ReadDeviceIdCode.toByte : ReadDeviceIdCode → UInt8
  | .err => 0x00
  | .basic => 0x01
  | .regular => 0x02
  | .extended => 0x03
  | .specific => 0x04

/-- `ConformityLevel`. -/
inductive ConformityLevel where
  | basicStreamOnly
  | regularStreamOnly
  | extendedStreamOnly
  | basicStreamAndIndividual
  | regularStreamAndIndividual
  | extendedStreamAndIndividual
  deriving DecidableEq, Repr

/-- `ConformityLevel::try_from`. -/
def ConformityLevel.tryFrom (value : UInt8) : Except MbusError ConformityLevel :=
  match value.toNat with
  | 0x01 => .ok .basicStreamOnly
  | 0x02 => .ok .regularStreamOnly
  | 0x03 => .ok .extendedStreamOnly
  | 0x81 => .ok .basicStreamAndIndividual
  | 0x82 => .ok .regularStreamAndIndividual
  | 0x83 => .ok .extendedStreamAndIndividual
  | _ => .error .parseError

/-- `DeviceIdentificationResponse`. -/
structure DeviceIdentificationResponse where
  readDeviceIdCode : ReadDeviceIdCode
  conformityLevel : ConformityLevel
  moreFollows : Bool
  nextObjectId : ObjectId
  objectsData : Vector UInt8 maxPduDataLen
  numberOfObjects : UInt8
  deriving DecidableEq

/-- `ReadDeviceIdPduFields`. -/
structure ReadDeviceIdPduFields where
  meiTypeByte : UInt8
  readDeviceIdCodeByte : UInt8
  conformityLevelByte : UInt8
  moreFollows : Bool
  nextObjectIdByte : UInt8
  numberOfObjects : UInt8
  objectsData : Vector UInt8 maxPduDataLen
  payloadLen : Nat

/-- The walk over the declared objects in `read_device_id_fields`. -/
def walkObjects (data : List UInt8) : Nat → Nat → Fallible Unit
  | 0, _ => pure ()
  | count + 1, offset => do
    guardErr (offset + 2 > data.length) .invalidPduLength
    let objLen ← index data (offset + 1)
    guardErr (offset + 2 + objLen.toNat > data.length) .invalidPduLength
    walkObjects data count (offset + 2 + objLen.toNat)

/-- `read_device_id_fields`. -/
def Pdu.readDeviceIdFields (p : Pdu) : Fallible ReadDeviceIdPduFields := do
  guardErr (p.dataLen < 6) .invalidPduLength
  let data := p.data.toList
  let numberOfObjects ← index data 5
  walkObjects data numberOfObjects.toNat 6
  let payloadLen := p.dataLen - 6
  guardErr (payloadLen > maxPduDataLen) .bufferTooSmall
  let objects ← slice data 6 data.length
  let objectsData ← copyFront (.replicate _ 0) objects
  let meiTypeByte ← index data 0
  let readDeviceIdCodeByte ← index data 1
  let conformityLevelByte ← index data 2
  let moreFollows ← index data 3
  let nextObjectIdByte ← index data 4
  pure ⟨meiTypeByte, readDeviceIdCodeByte, conformityLevelByte, moreFollows == 0xFF,
    nextObjectIdByte, numberOfObjects, objectsData, payloadLen⟩

end ModbusRs
