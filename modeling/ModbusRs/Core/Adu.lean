import ModbusRs.Core.PduFields

/-!
# Application data units

Checksums, the three frame formats and the length derivation that stream transports use to
cut frames out of their receive buffers.
-/

namespace ModbusRs

open Outcome

/-- `MAX_ADU_FRAME_LEN`. -/
def maxAduFrameLen [Features] : Nat := if Features.serialAscii then 513 else 260

/-! ### Checksums -/

/-- `CRC16_TABLE`. -/
def crc16Table : List UInt16 :=
  [0x0000, 0xC0C1, 0xC181, 0x0140, 0xC301, 0x03C0, 0x0280, 0xC241, 0xC601, 0x06C0, 0x0780, 0xC741,
    0x0500, 0xC5C1, 0xC481, 0x0440, 0xCC01, 0x0CC0, 0x0D80, 0xCD41, 0x0F00, 0xCFC1, 0xCE81, 0x0E40,
    0x0A00, 0xCAC1, 0xCB81, 0x0B40, 0xC901, 0x09C0, 0x0880, 0xC841, 0xD801, 0x18C0, 0x1980, 0xD941,
    0x1B00, 0xDBC1, 0xDA81, 0x1A40, 0x1E00, 0xDEC1, 0xDF81, 0x1F40, 0xDD01, 0x1DC0, 0x1C80, 0xDC41,
    0x1400, 0xD4C1, 0xD581, 0x1540, 0xD701, 0x17C0, 0x1680, 0xD641, 0xD201, 0x12C0, 0x1380, 0xD341,
    0x1100, 0xD1C1, 0xD081, 0x1040, 0xF001, 0x30C0, 0x3180, 0xF141, 0x3300, 0xF3C1, 0xF281, 0x3240,
    0x3600, 0xF6C1, 0xF781, 0x3740, 0xF501, 0x35C0, 0x3480, 0xF441, 0x3C00, 0xFCC1, 0xFD81, 0x3D40,
    0xFF01, 0x3FC0, 0x3E80, 0xFE41, 0xFA01, 0x3AC0, 0x3B80, 0xFB41, 0x3900, 0xF9C1, 0xF881, 0x3840,
    0x2800, 0xE8C1, 0xE981, 0x2940, 0xEB01, 0x2BC0, 0x2A80, 0xEA41, 0xEE01, 0x2EC0, 0x2F80, 0xEF41,
    0x2D00, 0xEDC1, 0xEC81, 0x2C40, 0xE401, 0x24C0, 0x2580, 0xE541, 0x2700, 0xE7C1, 0xE681, 0x2640,
    0x2200, 0xE2C1, 0xE381, 0x2340, 0xE101, 0x21C0, 0x2080, 0xE041, 0xA001, 0x60C0, 0x6180, 0xA141,
    0x6300, 0xA3C1, 0xA281, 0x6240, 0x6600, 0xA6C1, 0xA781, 0x6740, 0xA501, 0x65C0, 0x6480, 0xA441,
    0x6C00, 0xACC1, 0xAD81, 0x6D40, 0xAF01, 0x6FC0, 0x6E80, 0xAE41, 0xAA01, 0x6AC0, 0x6B80, 0xAB41,
    0x6900, 0xA9C1, 0xA881, 0x6840, 0x7800, 0xB8C1, 0xB981, 0x7940, 0xBB01, 0x7BC0, 0x7A80, 0xBA41,
    0xBE01, 0x7EC0, 0x7F80, 0xBF41, 0x7D00, 0xBDC1, 0xBC81, 0x7C40, 0xB401, 0x74C0, 0x7580, 0xB541,
    0x7700, 0xB7C1, 0xB681, 0x7640, 0x7200, 0xB2C1, 0xB381, 0x7340, 0xB101, 0x71C0, 0x7080, 0xB041,
    0x5000, 0x90C1, 0x9181, 0x5140, 0x9301, 0x53C0, 0x5280, 0x9241, 0x9601, 0x56C0, 0x5780, 0x9741,
    0x5500, 0x95C1, 0x9481, 0x5440, 0x9C01, 0x5CC0, 0x5D80, 0x9D41, 0x5F00, 0x9FC1, 0x9E81, 0x5E40,
    0x5A00, 0x9AC1, 0x9B81, 0x5B40, 0x9901, 0x59C0, 0x5880, 0x9841, 0x8801, 0x48C0, 0x4980, 0x8941,
    0x4B00, 0x8BC1, 0x8A81, 0x4A40, 0x4E00, 0x8EC1, 0x8F81, 0x4F40, 0x8D01, 0x4DC0, 0x4C80, 0x8C41,
    0x4400, 0x84C1, 0x8581, 0x4540, 0x8701, 0x47C0, 0x4680, 0x8641, 0x8201, 0x42C0, 0x4380, 0x8341,
    0x4100, 0x81C1, 0x8081, 0x4040]

/-- One round of the loop in `crc16`. -/
def crc16Step (crc : UInt16) (byte : UInt8) : UInt16 :=
  (crc >>> 8) ^^^ crc16Table.getD ((crc ^^^ byte.toUInt16) &&& 0xFF).toNat 0

/-- `crc16`. -/
def crc16 (data : List UInt8) : UInt16 := data.foldl crc16Step 0xFFFF

/-- `lrc`. -/
def lrc (data : List UInt8) : UInt8 := -(data.foldl (· + ·) 0)

/-! ### Messages -/

/-- `MbapHeader`. -/
structure MbapHeader where
  transactionId : UInt16
  protocolId : UInt16
  length : UInt16
  unitId : UInt8
  deriving DecidableEq, Repr

/-- `SlaveAddress(u8)`. -/
structure SlaveAddress where
  address : UInt8
  deriving DecidableEq, Repr

/-- `SlaveAddress::new`. -/
def SlaveAddress.new (address : UInt8) : Except MbusError SlaveAddress :=
  if address ≤ 247 then .ok ⟨address⟩ else .error .invalidSlaveAddress

/-- `AdditionalAddress`. -/
inductive AdditionalAddress where
  | mbapHeader (header : MbapHeader)
  | slaveAddress (address : SlaveAddress)
  deriving DecidableEq, Repr

/-- `ModbusMessage`. -/
structure ModbusMessage where
  additionalAddress : AdditionalAddress
  pdu : Pdu
  deriving DecidableEq, Repr

namespace ModbusMessage

/-- The unit byte as it stands on the wire. -/
def unitByte (m : ModbusMessage) : UInt8 :=
  match m.additionalAddress with
  | .mbapHeader header => header.unitId
  | .slaveAddress address => address.address

/-- `unit_id_or_slave_addr`. -/
def unitIdOrSlaveAddr (m : ModbusMessage) : UnitIdOrSlaveAddr :=
  match m.additionalAddress with
  | .mbapHeader header =>
    if header.unitId = 0 then .newBroadcastAddress else .fromU8 header.unitId
  | .slaveAddress address =>
    if address.address = 0 then .newBroadcastAddress else .fromU8 address.address

/-- `transaction_id`. -/
def transactionId (m : ModbusMessage) : UInt16 :=
  match m.additionalAddress with
  | .mbapHeader header => header.transactionId
  | .slaveAddress _ => 0

/-- `function_code`. -/
def functionCode (m : ModbusMessage) : FunctionCode := m.pdu.functionCode

/-- The address stands for itself up to 247 and for 255 above. -/
lemma unitIdOrSlaveAddr_get (m : ModbusMessage) :
    m.unitIdOrSlaveAddr.get = if m.unitByte ≤ 247 then m.unitByte else 255 := by
  have key : ∀ u : UInt8, (if u = 0 then UnitIdOrSlaveAddr.newBroadcastAddress
      else UnitIdOrSlaveAddr.fromU8 u).get = if u ≤ 247 then u else 255 := by
    intro u
    by_cases h0 : u = 0
    · subst h0
      rfl
    · have h1 : 1 ≤ u := by
        rw [UInt8.le_iff_toNat_le]
        exact Nat.one_le_iff_ne_zero.mpr (fun h => h0 (UInt8.toNat_inj.mp h))
      rw [if_neg h0, UnitIdOrSlaveAddr.fromU8_get]
      simp only [h1, true_and]
  unfold unitIdOrSlaveAddr unitByte
  cases m.additionalAddress with
  | mbapHeader header => exact key header.unitId
  | slaveAddress address => exact key address.address

section Encode

variable [Features]

/-- `ModbusMessage::to_bytes`. -/
def toBytes (m : ModbusMessage) : Except MbusError (HVec UInt8 maxAduFrameLen) := do
  let aduBytes ← match m.additionalAddress with
    | .mbapHeader header => do
      let bytes ← HVec.empty.extendOr (toBeBytes header.transactionId) MbusError.unexpected
      let bytes ← bytes.extendOr (toBeBytes header.protocolId) MbusError.unexpected
      let bytes ← bytes.extendOr (toBeBytes header.length) MbusError.unexpected
      bytes.pushOr header.unitId MbusError.unexpected
    | .slaveAddress address => HVec.empty.pushOr address.address MbusError.unexpected
  let pduBytes ← m.pdu.toBytes
  aduBytes.extendOr pduBytes.toList .unexpected

/-- `nibble_to_hex`. -/
def nibbleToHex (nibble : UInt8) : UInt8 :=
  if nibble ≤ 9 then 0x30 + nibble
  else if nibble ≤ 15 then 0x41 + (nibble - 10)
  else 0x3F

/-- The body of the loop in `to_ascii_bytes`. -/
def pushHex {n : Nat} (acc : HVec UInt8 n) (byte : UInt8) : Except MbusError (HVec UInt8 n) := do
  let acc ← acc.pushOr (nibbleToHex ((byte >>> 4) &&& 0x0F)) .bufferTooSmall
  acc.pushOr (nibbleToHex (byte &&& 0x0F)) .bufferTooSmall

/-- `to_ascii_bytes`. -/
def toAsciiBytes (m : ModbusMessage) : Except MbusError (HVec UInt8 maxAduFrameLen) := do
  let binaryData ← m.toBytes
  let binaryData ← binaryData.pushOr (lrc binaryData.toList) .bufferTooSmall
  let asciiData ← (HVec.empty : HVec UInt8 maxAduFrameLen).pushOr 0x3A .bufferTooSmall
  let asciiData ← binaryData.toList.foldlM pushHex asciiData
  let asciiData ← asciiData.pushOr 0x0D .bufferTooSmall
  asciiData.pushOr 0x0A .bufferTooSmall

end Encode

/-- `ModbusMessage::from_bytes`. -/
def fromBytes (bytes : List UInt8) : Fallible ModbusMessage := do
  guardErr (bytes.length < 7 + 1) .invalidAduLength
  let transactionId ← u16At bytes 0
  let protocolId ← u16At bytes 2
  let length ← u16At bytes 4
  let unitId ← index bytes 6
  guardErr (protocolId != 0) .basicParseError
  let expectedTotalLen := length.toNat + 6
  guardErr (bytes.length < expectedTotalLen) .invalidPduLength
  let frameBytes ← slice bytes 0 expectedTotalLen
  let pduBytes ← slice frameBytes 7 frameBytes.length
  let pdu ← Pdu.fromBytes pduBytes
  pure ⟨.mbapHeader ⟨transactionId, protocolId, length, unitId⟩, pdu⟩

/-- `from_rtu_bytes`. -/
def fromRtuBytes (frame : List UInt8) : Fallible ModbusMessage := do
  guardErr (frame.length < 4) .invalidAduLength
  let dataLen := frame.length - 2
  let dataToCheck ← slice frame 0 dataLen
  let lo ← index frame dataLen
  let hi ← index frame (dataLen + 1)
  guardErr (crc16 dataToCheck != fromLeBytes lo hi) .checksumError
  let first ← index frame 0
  let slaveAddress ← lift (SlaveAddress.new first)
  let pduBytes ← slice dataToCheck 1 dataToCheck.length
  let pdu ← Pdu.fromBytes pduBytes
  pure ⟨.slaveAddress slaveAddress, pdu⟩

/-- `hex_char_to_nibble`. -/
def hexCharToNibble (c : UInt8) : Except MbusError UInt8 :=
  if 0x30 ≤ c ∧ c ≤ 0x39 then .ok (c - 0x30)
  else if 0x41 ≤ c ∧ c ≤ 0x46 then .ok (c - 0x41 + 10)
  else if 0x61 ≤ c ∧ c ≤ 0x66 then .ok (c - 0x61 + 10)
  else .error .basicParseError

/-- `hex_pair_to_byte`. -/
def hexPairToByte (high low : UInt8) : Except MbusError UInt8 := do
  let h ← hexCharToNibble high
  let l ← hexCharToNibble low
  pure ((h <<< 4) ||| l)

/-- The loop over `hex_content.chunks(2)`; a last odd byte would index out of range. -/
def decodeHex : List UInt8 → HVec UInt8 260 → Fallible (HVec UInt8 260)
  | [], out => pure out
  | [_], _ => .panic
  | high :: low :: rest, out => do
    let byte ← lift (hexPairToByte high low)
    let out ← lift (out.pushOr byte .bufferTooSmall)
    decodeHex rest out

/-- `from_ascii_bytes`. -/
def fromAsciiBytes (frame : List UInt8) : Fallible ModbusMessage := do
  guardErr (frame.length < 9) .invalidAduLength
  let first ← index frame 0
  guardErr (first != 0x3A) .basicParseError
  let cr ← index frame (frame.length - 2)
  let lf ← index frame (frame.length - 1)
  guardErr (cr != 0x0D || lf != 0x0A) .basicParseError
  let hexContent ← slice frame 1 (frame.length - 2)
  guardErr (hexContent.length % 2 != 0) .basicParseError
  let binaryData ← decodeHex hexContent .empty
  guardErr (binaryData.toList.length < 2) .invalidAduLength
  let dataLen := binaryData.toList.length - 1
  let dataToCheck ← slice binaryData.toList 0 dataLen
  let receivedLrc ← index binaryData.toList dataLen
  guardErr (lrc dataToCheck != receivedLrc) .checksumError
  let address ← index binaryData.toList 0
  let slaveAddress ← lift (SlaveAddress.new address)
  let pduBytes ← slice binaryData.toList 1 dataLen
  let pdu ← Pdu.fromBytes pduBytes
  pure ⟨.slaveAddress slaveAddress, pdu⟩

end ModbusMessage

/-- `compile_adu_frame`. The `u16` sum of the length field is at most 254. -/
def compileAduFrame [Features] (txnId : UInt16) (unitId : UInt8) (pdu : Pdu)
    (transportType : TransportType) : Except MbusError (HVec UInt8 maxAduFrameLen) :=
  match transportType with
  | .stdTcp | .customTcp => do
    let pduBytes ← pdu.toBytes
    let header : MbapHeader := ⟨txnId, 0, UInt16.ofNat pduBytes.toList.length + 1, unitId⟩
    ModbusMessage.toBytes ⟨.mbapHeader header, pdu⟩
  | .stdSerial .rtu | .customSerial .rtu => do
    let aduBytes ← ModbusMessage.toBytes ⟨.slaveAddress ⟨unitId⟩, pdu⟩
    aduBytes.extendOr (toLeBytes (crc16 aduBytes.toList)) .unexpected
  | .stdSerial .ascii | .customSerial .ascii =>
    ModbusMessage.toAsciiBytes ⟨.slaveAddress ⟨unitId⟩, pdu⟩

/-- `decompile_adu_frame`. -/
def decompileAduFrame (frame : List UInt8) (transportType : TransportType) :
    Fallible ModbusMessage :=
  match transportType with
  | .stdTcp | .customTcp => ModbusMessage.fromBytes frame
  | .stdSerial .rtu | .customSerial .rtu => ModbusMessage.fromRtuBytes frame
  | .stdSerial .ascii | .customSerial .ascii => ModbusMessage.fromAsciiBytes frame

/-! ### Frame lengths -/

/-- `usize::MAX` on a 64-bit target. -/
def usizeMax : Nat := 2 ^ 64 - 1

/-- The `check_crc` closure of `derive_length_from_bytes`. -/
def checkCrc (frame : List UInt8) (len : Nat) : Bool :=
  len ≤ frame.length && 4 ≤ len &&
    crc16 (frame.take (len - 2)) == fromLeBytes (frame.getD (len - 2) 0) (frame.getD (len - 1) 0)

/-- The `for len in MIN_RTU_ADU_LEN..=frame.len()` scan. -/
def scanCrc (frame : List UInt8) : Option Nat :=
  (List.range' 4 (frame.length + 1 - 4)).find? (checkCrc frame)

/-- Length candidates of a frame and, where a length byte is still missing, the number of
bytes needed to read it (`min_needed`, `none` for `usize::MAX`). -/
structure LengthCandidates where
  candidates : List Nat
  minNeeded : Option Nat

/-- `add_dyn`. -/
def LengthCandidates.addDyn (c : LengthCandidates) (frame : List UInt8) (offset base : Nat) :
    LengthCandidates :=
  match frame[offset]? with
  | some b => { c with candidates := c.candidates ++ [base + b.toNat] }
  | none =>
    { c with minNeeded := some (match c.minNeeded with
        | some m => min m (offset + 1)
        | none => offset + 1) }

/-- The candidate table of `get_byte_count_from_frame`; `none` for the codes whose frames
are found by scanning. -/
def lengthCandidates (frame : List UInt8) (fc : UInt8) : Option LengthCandidates :=
  match fc.toNat with
  | 1 | 2 | 3 | 4 => some ((LengthCandidates.mk [8] none).addDyn frame 2 5)
  | 5 | 6 | 8 => some ⟨[8], none⟩
  | 7 => some ⟨[4, 5], none⟩
  | 11 => some ⟨[4, 8], none⟩
  | 12 | 17 => some ((LengthCandidates.mk [4] none).addDyn frame 2 5)
  | 15 | 16 => some ((LengthCandidates.mk [8] none).addDyn frame 6 9)
  | 20 | 21 => some ((LengthCandidates.mk [] none).addDyn frame 2 5)
  | 22 => some ⟨[10], none⟩
  | 23 => some (((LengthCandidates.mk [] none).addDyn frame 2 5).addDyn frame 10 13)
  | 24 =>
    if 4 ≤ frame.length then
      some ⟨[6, 6 + (fromBeBytes (frame.getD 2 0) (frame.getD 3 0)).toNat], none⟩
    else some ⟨[6], some 4⟩
  | _ => none

/-- `get_byte_count_from_frame`. -/
def getByteCountFromFrame (frame : List UInt8) (fc : UInt8) : Option Nat :=
  match lengthCandidates frame fc with
  | none => if fc = 43 ∧ checkCrc frame 7 then some 7 else scanCrc frame
  | some c =>
    match c.candidates.find? (checkCrc frame) with
    | some len => some len
    | none =>
      let maxCandidate := c.candidates.foldl max 0
      let target := match c.minNeeded with
        | some m => max m maxCandidate
        | none => maxCandidate
      if target > 0 then some target else none

/-- `derive_length_from_bytes`. -/
def deriveLengthFromBytes (frame : List UInt8) (transportType : TransportType) : Option Nat :=
  match transportType with
  | .stdTcp | .customTcp =>
    if frame.length < 6 then none
    else if fromBeBytes (frame.getD 2 0) (frame.getD 3 0) ≠ 0 then some usizeMax
    else some (6 + (fromBeBytes (frame.getD 4 0) (frame.getD 5 0)).toNat)
  | .stdSerial .rtu | .customSerial .rtu =>
    if frame.length < 2 then none
    else if isExceptionCode (frame.getD 1 0) then some 5
    else getByteCountFromFrame frame (frame.getD 1 0)
  | .stdSerial .ascii | .customSerial .ascii =>
    if frame.length < 9 then none
    else (frame.findIdx? (· == 0x0A)).map (· + 1)

end ModbusRs
