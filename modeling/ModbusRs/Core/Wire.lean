import ModbusRs.Core.Encode

/-!
# Frames on the wire

The parts of a frame, read off its bytes without any check, and what decoding adds to them:
a frame that decodes carries exactly these parts.
-/

namespace ModbusRs

open Outcome

/-- The bytes between the colon and the line end of an ASCII frame. -/
def asciiBinary (frame : List UInt8) : List UInt8 :=
  match ModbusMessage.decodeHex ((frame.take (frame.length - 2)).drop 1) .empty with
  | .ok binary => binary.toList
  | _ => []

/-- The unit id or slave address byte. -/
def wireUnit (tt : TransportType) (frame : List UInt8) : UInt8 :=
  match tt with
  | .stdTcp | .customTcp => frame.getD 6 0
  | .stdSerial .rtu | .customSerial .rtu => frame.getD 0 0
  | .stdSerial .ascii | .customSerial .ascii => (asciiBinary frame).getD 0 0

/-- The transaction id, which serial frames do not have. -/
def wireTxnId (tt : TransportType) (frame : List UInt8) : UInt16 :=
  if tt.isTcpType then fromBeBytes (frame.getD 0 0) (frame.getD 1 0) else 0

/-- The function-code byte and the data. -/
def wirePdu (tt : TransportType) (frame : List UInt8) : List UInt8 :=
  match tt with
  | .stdTcp | .customTcp =>
    (frame.take (6 + (fromBeBytes (frame.getD 4 0) (frame.getD 5 0)).toNat)).drop 7
  | .stdSerial .rtu | .customSerial .rtu => (frame.take (frame.length - 2)).drop 1
  | .stdSerial .ascii | .customSerial .ascii =>
    ((asciiBinary frame).take ((asciiBinary frame).length - 1)).drop 1

/-- The message's address is of the transport's kind, and a slave address is in range. -/
def ModbusMessage.Fits (message : ModbusMessage) (tt : TransportType) : Prop :=
  match message.additionalAddress with
  | .mbapHeader _ => tt.isTcpType
  | .slaveAddress address => tt.isSerialType ∧ address.address ≤ 247

namespace Pdu

/-- A decoded PDU carries a plain code: the one of the first byte without its exception bit. -/
lemma fromBytes_eq_ok {bytes : List UInt8} {p : Pdu} (h : fromBytes bytes = .ok p) :
    ∃ b, bytes = b :: p.data.toList ∧ p.functionCode.IsPlain ∧
      p.functionCode.toByte = clearExceptionBit b ∧
      p.errorCode = if isExceptionCode b then p.data.toList.head? else none := by
  cases bytes with
  | nil =>
    rw [fromBytes_nil] at h
    cases h
  | cons b rest =>
    rw [fromBytes_cons] at h
    split at h
    · cases h
    · cases hfc : FunctionCode.tryFrom (clearExceptionBit b) with
      | error e =>
        rw [hfc] at h
        cases h
      | ok fc =>
        rw [hfc] at h
        dsimp only at h
        split at h
        · cases h
          refine ⟨b, rfl, FunctionCode.isPlain_of_tryFrom hfc ?_, FunctionCode.toByte_of_tryFrom hfc,
            rfl⟩
          exact FunctionCode.forall_byte (P := fun b => clearExceptionBit b < 0x80)
            (by decide +kernel) b
        · cases h

lemma isExceptionCode_of_plain {b : UInt8} (h : isExceptionCode b = false) :
    clearExceptionBit b = b := by
  revert h
  exact FunctionCode.forall_byte
    (P := fun b => isExceptionCode b = false → clearExceptionBit b = b) (by decide +kernel) b

/-- Without an exception bit the PDU is its bytes. -/
lemma fromBytes_rawBytes {bytes : List UInt8} {p : Pdu} (h : fromBytes bytes = .ok p)
    (hb : isExceptionCode (bytes.headD 0) = false) : p.rawBytes = bytes := by
  obtain ⟨b, rfl, _, hfc, _⟩ := fromBytes_eq_ok h
  rw [rawBytes, hfc, isExceptionCode_of_plain (by simpa using hb)]

end Pdu

namespace ModbusMessage

lemma fromBytes_eq_ok {frame : List UInt8} {message : ModbusMessage}
    (h : fromBytes frame = .ok message) :
    message.Fits .stdTcp ∧ message.unitByte = wireUnit .stdTcp frame ∧
      message.transactionId = wireTxnId .stdTcp frame ∧
      Pdu.fromBytes (wirePdu .stdTcp frame) = .ok message.pdu := by
  obtain ⟨_, hlen, h⟩ := bind_eq_ok.mp h
  have hlen : ¬frame.length < 7 + 1 := decide_eq_false_iff_not.mp (guardErr_eq_ok.mp hlen)
  rw [u16At_of_lt (by omega), ok_bind, u16At_of_lt (by omega), ok_bind, u16At_of_lt (by omega),
    ok_bind, index_of_lt (by omega), ok_bind] at h
  obtain ⟨_, hproto, h⟩ := bind_eq_ok.mp h
  obtain ⟨_, htotal, h⟩ := bind_eq_ok.mp h
  obtain ⟨frameBytes, hframe, h⟩ := bind_eq_ok.mp h
  obtain ⟨pduBytes, hpduBytes, h⟩ := bind_eq_ok.mp h
  obtain ⟨pdu, hpdu, h⟩ := bind_eq_ok.mp h
  cases h
  obtain ⟨_, hframe⟩ := slice_eq_ok.mp hframe
  obtain ⟨_, hpduBytes⟩ := slice_eq_ok.mp hpduBytes
  have hget : ∀ i (hi : i < frame.length), frame.getD i 0 = frame[i] := by
    intro i hi
    rw [List.getD_eq_getElem?_getD, List.getElem?_eq_getElem hi]
    rfl
  refine ⟨rfl, (hget 6 (by omega)).symm, ?_, ?_⟩
  · simp only [wireTxnId, TransportType.isTcpType, if_true, transactionId]
    rw [hget 0 (by omega), hget 1 (by omega)]
  · simp only [wirePdu]
    rw [hget 4 (by omega), hget 5 (by omega), ← hpdu, hpduBytes, hframe, List.take_length,
      List.drop_zero, Nat.add_comm]

lemma fromRtuBytes_eq_ok {frame : List UInt8} {message : ModbusMessage}
    (h : fromRtuBytes frame = .ok message) :
    message.Fits (.stdSerial .rtu) ∧ message.unitByte = wireUnit (.stdSerial .rtu) frame ∧
      message.transactionId = wireTxnId (.stdSerial .rtu) frame ∧
      Pdu.fromBytes (wirePdu (.stdSerial .rtu) frame) = .ok message.pdu := by
  obtain ⟨_, hlen, h⟩ := bind_eq_ok.mp h
  have hlen : ¬frame.length < 4 := decide_eq_false_iff_not.mp (guardErr_eq_ok.mp hlen)
  obtain ⟨checked, hchecked, h⟩ := bind_eq_ok.mp h
  obtain ⟨_, _, h⟩ := bind_eq_ok.mp h
  obtain ⟨_, _, h⟩ := bind_eq_ok.mp h
  obtain ⟨_, _, h⟩ := bind_eq_ok.mp h
  rw [index_of_lt (by omega), ok_bind] at h
  obtain ⟨address, haddress, h⟩ := bind_eq_ok.mp h
  obtain ⟨pduBytes, hpduBytes, h⟩ := bind_eq_ok.mp h
  obtain ⟨pdu, hpdu, h⟩ := bind_eq_ok.mp h
  cases h
  obtain ⟨_, hchecked⟩ := slice_eq_ok.mp hchecked
  obtain ⟨_, hpduBytes⟩ := slice_eq_ok.mp hpduBytes
  have haddress := lift_eq_ok.mp haddress
  unfold SlaveAddress.new at haddress
  split at haddress
  next hle =>
    cases haddress
    refine ⟨⟨rfl, hle⟩, ?_, rfl, ?_⟩
    · simp only [wireUnit, unitByte]
      rw [List.getD_eq_getElem?_getD, List.getElem?_eq_getElem (by omega)]
      rfl
    · simp only [wirePdu]
      rw [← hpdu, hpduBytes, hchecked, List.take_length, List.drop_zero]
  next => cases haddress

lemma fromAsciiBytes_eq_ok {frame : List UInt8} {message : ModbusMessage}
    (h : fromAsciiBytes frame = .ok message) :
    message.Fits (.stdSerial .ascii) ∧ message.unitByte = wireUnit (.stdSerial .ascii) frame ∧
      message.transactionId = wireTxnId (.stdSerial .ascii) frame ∧
      Pdu.fromBytes (wirePdu (.stdSerial .ascii) frame) = .ok message.pdu := by
  obtain ⟨_, _, h⟩ := bind_eq_ok.mp h
  obtain ⟨_, _, h⟩ := bind_eq_ok.mp h
  obtain ⟨_, _, h⟩ := bind_eq_ok.mp h
  obtain ⟨_, _, h⟩ := bind_eq_ok.mp h
  obtain ⟨_, _, h⟩ := bind_eq_ok.mp h
  obtain ⟨_, _, h⟩ := bind_eq_ok.mp h
  obtain ⟨hex, hhex, h⟩ := bind_eq_ok.mp h
  obtain ⟨_, _, h⟩ := bind_eq_ok.mp h
  obtain ⟨binary, hbinary, h⟩ := bind_eq_ok.mp h
  obtain ⟨_, hlen, h⟩ := bind_eq_ok.mp h
  obtain ⟨_, _, h⟩ := bind_eq_ok.mp h
  obtain ⟨_, _, h⟩ := bind_eq_ok.mp h
  obtain ⟨_, _, h⟩ := bind_eq_ok.mp h
  have hlen : ¬binary.toList.length < 2 := decide_eq_false_iff_not.mp (guardErr_eq_ok.mp hlen)
  rw [index_of_lt (by omega), ok_bind] at h
  obtain ⟨address, haddress, h⟩ := bind_eq_ok.mp h
  obtain ⟨pduBytes, hpduBytes, h⟩ := bind_eq_ok.mp h
  obtain ⟨pdu, hpdu, h⟩ := bind_eq_ok.mp h
  cases h
  obtain ⟨_, hhex⟩ := slice_eq_ok.mp hhex
  obtain ⟨_, hpduBytes⟩ := slice_eq_ok.mp hpduBytes
  have hascii : asciiBinary frame = binary.toList := by
    unfold asciiBinary
    rw [← hhex, hbinary]
  have haddress := lift_eq_ok.mp haddress
  unfold SlaveAddress.new at haddress
  split at haddress
  next hle =>
    cases haddress
    refine ⟨⟨rfl, hle⟩, ?_, rfl, ?_⟩
    · simp only [wireUnit, unitByte, hascii]
      rw [List.getD_eq_getElem?_getD, List.getElem?_eq_getElem (by omega)]
      rfl
    · simp only [wirePdu, hascii]
      rw [← hpdu, hpduBytes]
  next => cases haddress

end ModbusMessage

/-- A frame that decodes carries its wire parts. -/
theorem decompileAduFrame_eq_ok {tt : TransportType} {frame : List UInt8}
    {message : ModbusMessage} (h : decompileAduFrame frame tt = .ok message) :
    message.Fits tt ∧ message.unitByte = wireUnit tt frame ∧
      message.transactionId = wireTxnId tt frame ∧
      Pdu.fromBytes (wirePdu tt frame) = .ok message.pdu := by
  cases tt with
  | stdTcp => exact ModbusMessage.fromBytes_eq_ok h
  | customTcp => exact ModbusMessage.fromBytes_eq_ok h
  | stdSerial mode =>
    cases mode with
    | rtu => exact ModbusMessage.fromRtuBytes_eq_ok h
    | ascii => exact ModbusMessage.fromAsciiBytes_eq_ok h
  | customSerial mode =>
    cases mode with
    | rtu => exact ModbusMessage.fromRtuBytes_eq_ok h
    | ascii => exact ModbusMessage.fromAsciiBytes_eq_ok h

/-! ### The parts of a compiled frame -/

lemma hexPairToByte_hexPair (b : UInt8) :
    ModbusMessage.hexPairToByte (ModbusMessage.nibbleToHex ((b >>> 4) &&& 0x0F))
      (ModbusMessage.nibbleToHex (b &&& 0x0F)) = .ok b :=
  FunctionCode.forall_byte (P := fun b =>
    ModbusMessage.hexPairToByte (ModbusMessage.nibbleToHex ((b >>> 4) &&& 0x0F))
      (ModbusMessage.nibbleToHex (b &&& 0x0F)) = .ok b) (by decide +kernel) b

/-- The hex digits of some bytes decode to the bytes, behind what has been decoded before. -/
lemma decodeHex_flatMap_hexPair (bytes : List UInt8) (out : HVec UInt8 260)
    (h : out.toList.length + bytes.length ≤ 260) :
    ModbusMessage.decodeHex (bytes.flatMap hexPair) out =
      .ok ⟨out.toList ++ bytes, by simpa using h⟩ := by
  induction bytes generalizing out with
  | nil => simp [ModbusMessage.decodeHex]
  | cons b bytes ih =>
    rw [List.length_cons] at h
    simp only [List.flatMap_cons, hexPair, List.cons_append, List.nil_append,
      ModbusMessage.decodeHex]
    rw [hexPairToByte_hexPair, lift_ok, ok_bind, HVec.pushOr,
      HVec.extendOr_of_le _ (by simp only [List.length_singleton]; omega), lift_ok, ok_bind,
      ih _ (by simp only [List.length_append, List.length_singleton]; omega)]
    congr 1
    exact HVec.ext (by simp)

/-- What stands between the colon and the line end. -/
lemma asciiBinary_frameBytes (txnId : UInt16) (unitId : UInt8) (pduBytes : List UInt8)
    (h : pduBytes.length ≤ 253) :
    asciiBinary (frameBytes (.stdSerial .ascii) txnId unitId pduBytes) =
      unitId :: pduBytes ++ [lrc (unitId :: pduBytes)] := by
  set binary := unitId :: pduBytes ++ [lrc (unitId :: pduBytes)] with hbinary
  have hlen : binary.length ≤ 260 := by
    simp only [hbinary, List.length_append, List.length_cons, List.length_nil]
    omega
  have hcut : ((frameBytes (.stdSerial .ascii) txnId unitId pduBytes).take
      ((frameBytes (.stdSerial .ascii) txnId unitId pduBytes).length - 2)).drop 1 =
      binary.flatMap hexPair := by
    simp only [frameBytes, ← hbinary]
    rw [List.length_append, List.length_cons, List.length_cons, List.length_cons, List.length_nil,
      Nat.add_sub_cancel, List.take_left' (by simp), List.drop_succ_cons, List.drop_zero]
  unfold asciiBinary
  rw [hcut, decodeHex_flatMap_hexPair _ _ (by simpa using hlen)]
  rfl

lemma toNat_ofNat_length_add_one {pduBytes : List UInt8} (h : pduBytes.length ≤ 253) :
    (UInt16.ofNat pduBytes.length + 1).toNat = pduBytes.length + 1 := by
  rw [UInt16.toNat_add, UInt16.toNat_ofNat_of_lt' (by simp only [UInt16.size]; omega)]
  have h1 : (1 : UInt16).toNat = 1 := rfl
  omega

section FrameBytes

variable (tt : TransportType) (txnId : UInt16) (unitId : UInt8) {pduBytes : List UInt8}

theorem wireUnit_frameBytes (h : pduBytes.length ≤ 253) :
    wireUnit tt (frameBytes tt txnId unitId pduBytes) = unitId := by
  have hascii := asciiBinary_frameBytes txnId unitId pduBytes h
  cases tt with
  | stdTcp => rfl
  | customTcp => rfl
  | stdSerial mode =>
    cases mode with
    | rtu => rfl
    | ascii =>
      rw [wireUnit, hascii]
      rfl
  | customSerial mode =>
    cases mode with
    | rtu => rfl
    | ascii =>
      change (asciiBinary (frameBytes (.stdSerial .ascii) txnId unitId pduBytes)).getD 0 0 = _
      rw [hascii]
      rfl

theorem wireTxnId_frameBytes (pduBytes : List UInt8) :
    wireTxnId tt (frameBytes tt txnId unitId pduBytes) = if tt.isTcpType then txnId else 0 := by
  cases tt with
  | stdTcp => exact fromBeBytes_toBeBytes txnId
  | customTcp => exact fromBeBytes_toBeBytes txnId
  | stdSerial mode => rfl
  | customSerial mode => rfl

theorem wirePdu_frameBytes (h : pduBytes.length ≤ 253) :
    wirePdu tt (frameBytes tt txnId unitId pduBytes) = pduBytes := by
  have tcp : wirePdu .stdTcp (frameBytes .stdTcp txnId unitId pduBytes) = pduBytes := by
    have hlen : fromBeBytes ((frameBytes .stdTcp txnId unitId pduBytes).getD 4 0)
        ((frameBytes .stdTcp txnId unitId pduBytes).getD 5 0) =
        UInt16.ofNat pduBytes.length + 1 := fromBeBytes_toBeBytes _
    simp only [wirePdu]
    rw [hlen, toNat_ofNat_length_add_one h]
    simp only [frameBytes]
    rw [List.take_of_length_le (by simp; omega)]
    rfl
  have rtu : wirePdu (.stdSerial .rtu) (frameBytes (.stdSerial .rtu) txnId unitId pduBytes) =
      pduBytes := by
    simp only [wirePdu, frameBytes]
    rw [List.length_append, toLeBytes_length, Nat.add_sub_cancel, List.take_left' rfl]
    rfl
  have ascii : wirePdu (.stdSerial .ascii)
      (frameBytes (.stdSerial .ascii) txnId unitId pduBytes) = pduBytes := by
    simp only [wirePdu]
    rw [asciiBinary_frameBytes txnId unitId pduBytes h, List.length_append, List.length_singleton,
      Nat.add_sub_cancel, List.take_left' rfl]
    rfl
  cases tt with
  | stdTcp => exact tcp
  | customTcp => exact tcp
  | stdSerial mode =>
    cases mode with
    | rtu => exact rtu
    | ascii => exact ascii
  | customSerial mode =>
    cases mode with
    | rtu => exact rtu
    | ascii => exact ascii

end FrameBytes

end ModbusRs
