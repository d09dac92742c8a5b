import ModbusRs.Core.Wire

/-!
# Frames that are sent and received

A PDU that is compiled into a frame comes out of the frame again, with its address and, on TCP,
its transaction id. On TCP and ASCII the length of the frame is read off its bytes, whatever
follows them.
-/

namespace ModbusRs

open Outcome

/-- The transport sends RTU frames. -/
def TransportType.IsRtu (tt : TransportType) : Prop :=
  tt = .stdSerial .rtu ∨ tt = .customSerial .rtu

/-- The transport sends ASCII frames. -/
def TransportType.IsAscii (tt : TransportType) : Prop :=
  tt = .stdSerial .ascii ∨ tt = .customSerial .ascii

/-- The bytes of a PDU with a plain code decode to the PDU. -/
lemma Pdu.fromBytes_rawBytes_new {fc : FunctionCode} (hfc : fc.IsPlain)
    (data : HVec UInt8 maxPduDataLen) :
    Pdu.fromBytes (Pdu.new fc data).rawBytes = .ok (Pdu.new fc data) := by
  have hbit : isExceptionCode fc.toByte = false := by
    revert hfc
    cases fc <;> decide
  have hne : fc ≠ .default := by
    rintro rfl
    exact hfc rfl
  have hraw : (Pdu.new fc data).rawBytes = fc.toByte :: data.toList := rfl
  rw [hraw, Pdu.fromBytes_cons, hbit, Pdu.isExceptionCode_of_plain hbit,
    FunctionCode.tryFrom_toByte fc hne]
  simp only [Bool.false_eq_true, false_and, if_false]
  rw [dif_pos data.length_le]
  rfl

namespace ModbusMessage

variable (txnId : UInt16) (unitId : UInt8) {pduBytes : List UInt8} {pdu : Pdu}

lemma fromBytes_frameBytes (h : Pdu.fromBytes pduBytes = .ok pdu) (hlen : pduBytes.length ≤ 253) :
    ∃ message, fromBytes (frameBytes .stdTcp txnId unitId pduBytes) = .ok message := by
  have hne : pduBytes ≠ [] := by
    rintro rfl
    cases h
  have hlength := toNat_ofNat_length_add_one hlen
  simp only [frameBytes, toBeBytes, List.cons_append, List.nil_append]
  rw [fromBytes_cons _ _ _ _ _ _ _ _ hne, fromBeBytes_toBeBytes, fromBeBytes_toBeBytes,
    fromBeBytes_toBeBytes, hlength, if_neg (fun h => h rfl), if_neg (by omega), if_neg (by
      intro h0
      rw [h0] at hlength
      cases hlength), Nat.add_sub_cancel, List.take_length, h]
  exact ⟨_, rfl⟩

lemma new_slaveAddress {unitId : UInt8} (h : unitId ≤ 247) :
    (lift (SlaveAddress.new unitId) : Fallible SlaveAddress) = .ok ⟨unitId⟩ := by
  rw [SlaveAddress.new, if_pos h]
  rfl

lemma fromRtuBytes_frameBytes (h : Pdu.fromBytes pduBytes = .ok pdu) (hunit : unitId ≤ 247) :
    ∃ message, fromRtuBytes (frameBytes (.stdSerial .rtu) txnId unitId pduBytes) = .ok message := by
  have hne : 0 < pduBytes.length := by
    cases pduBytes with
    | nil => cases h
    | cons b rest => exact Nat.succ_pos _
  set checked := unitId :: pduBytes with hchecked
  have hframe : frameBytes (.stdSerial .rtu) txnId unitId pduBytes =
      checked ++ toLeBytes (crc16 checked) := rfl
  have hlen : (checked ++ toLeBytes (crc16 checked)).length = checked.length + 2 := by
    rw [List.length_append, toLeBytes_length]
  have hpos : 2 ≤ checked.length := by
    rw [hchecked, List.length_cons]
    omega
  have hlo : (index (checked ++ toLeBytes (crc16 checked)) checked.length : Fallible UInt8) =
      .ok (UInt8.ofNat ((crc16 checked).toNat % 256)) := index_append_add checked _ 0
  have hhi : (index (checked ++ toLeBytes (crc16 checked)) (checked.length + 1) : Fallible UInt8) =
      .ok (UInt8.ofNat ((crc16 checked).toNat / 256)) := index_append_add checked _ 1
  have hfirst : (index (checked ++ toLeBytes (crc16 checked)) 0 : Fallible UInt8) = .ok unitId := rfl
  have hpdu : (slice checked 1 checked.length : Fallible _) = .ok pduBytes := by
    rw [slice_of_le (by omega) (Nat.le_refl _), List.take_length]
    rfl
  rw [hframe, fromRtuBytes, hlen, decide_eq_false (by omega), guardErr_false, ok_bind,
    Nat.add_sub_cancel]
  dsimp only
  rw [slice_append_left, ok_bind, hlo, ok_bind, hhi, ok_bind, fromLeBytes, fromBeBytes_toBeBytes,
    bne_self_eq_false, guardErr_false, ok_bind, hfirst, ok_bind, new_slaveAddress hunit, ok_bind,
    hpdu, ok_bind, h, ok_bind]
  exact ⟨_, rfl⟩

lemma fromAsciiBytes_frameBytes (h : Pdu.fromBytes pduBytes = .ok pdu)
    (hlen : pduBytes.length ≤ 253) (hunit : unitId ≤ 247) :
    ∃ message,
      fromAsciiBytes (frameBytes (.stdSerial .ascii) txnId unitId pduBytes) = .ok message := by
  have hne : 0 < pduBytes.length := by
    cases pduBytes with
    | nil => cases h
    | cons b rest => exact Nat.succ_pos _
  set checked := unitId :: pduBytes with hchecked
  set binary := checked ++ [lrc checked] with hbinary
  set hex := binary.flatMap hexPair with hhex
  have hchecked_len : checked.length = pduBytes.length + 1 := by rw [hchecked, List.length_cons]
  have hbinary_len : binary.length = checked.length + 1 := by
    rw [hbinary, List.length_append, List.length_singleton]
  have hhex_len : hex.length = 2 * binary.length := flatMap_hexPair_length binary
  have hframe : frameBytes (.stdSerial .ascii) txnId unitId pduBytes =
      (0x3A :: hex) ++ [0x0D, 0x0A] := rfl
  have hframe_len : ((0x3A :: hex) ++ [0x0D, 0x0A]).length = (0x3A :: hex).length + 2 := by
    rw [List.length_append]
    rfl
  have hcolon : (index ((0x3A :: hex) ++ [0x0D, 0x0A]) 0 : Fallible UInt8) = .ok 0x3A := rfl
  have hcr : (index ((0x3A :: hex) ++ [0x0D, 0x0A]) (0x3A :: hex).length : Fallible UInt8) =
      .ok 0x0D := index_append_add (0x3A :: hex) _ 0
  have hlf : (index ((0x3A :: hex) ++ [0x0D, 0x0A]) ((0x3A :: hex).length + 2 - 1) :
      Fallible UInt8) = .ok 0x0A := index_append_add (0x3A :: hex) _ 1
  have hcontent : (slice ((0x3A :: hex) ++ [0x0D, 0x0A]) 1 (0x3A :: hex).length : Fallible _) =
      .ok hex := by
    rw [slice_of_le (by rw [List.length_cons]; omega) (by rw [hframe_len]; omega),
      List.take_left' rfl]
    rfl
  have hdecode : ModbusMessage.decodeHex hex .empty =
      .ok ⟨binary, by rw [hbinary_len, hchecked_len]; omega⟩ := by
    rw [hhex, decodeHex_flatMap_hexPair _ _ (by rw [HVec.empty_toList, List.length_nil]; omega)]
    rfl
  have hlrc : (index binary checked.length : Fallible UInt8) = .ok (lrc checked) :=
    index_append_add checked _ 0
  have hfirst : (index binary 0 : Fallible UInt8) = .ok unitId := rfl
  have hpdu : (slice binary 1 checked.length : Fallible _) = .ok pduBytes := by
    rw [slice_of_le (by omega) (by omega), hbinary, List.take_left' rfl]
    rfl
  rw [hframe, fromAsciiBytes, hframe_len, decide_eq_false (by rw [List.length_cons]; omega),
    guardErr_false, ok_bind, hcolon, ok_bind, bne_self_eq_false, guardErr_false, ok_bind,
    Nat.add_sub_cancel, hcr, ok_bind, hlf, ok_bind, bne_self_eq_false, bne_self_eq_false,
    Bool.or_false, guardErr_false, ok_bind, hcontent, ok_bind, hhex_len, Nat.mul_mod_right,
    bne_self_eq_false, guardErr_false, ok_bind, hdecode, ok_bind]
  dsimp only
  rw [decide_eq_false (by omega), guardErr_false, ok_bind, hbinary_len, Nat.add_sub_cancel,
    hbinary, slice_append_left, ← hbinary, ok_bind, hlrc, ok_bind, bne_self_eq_false,
    guardErr_false, ok_bind, hfirst, ok_bind, new_slaveAddress hunit, ok_bind, hpdu, ok_bind, h,
    ok_bind]
  exact ⟨_, rfl⟩

end ModbusMessage

section Length

variable (txnId : UInt16) (unitId : UInt8) {pduBytes : List UInt8} (tail : List UInt8)

lemma deriveLength_tcp (hlen : pduBytes.length ≤ 253) :
    deriveLengthFromBytes (frameBytes .stdTcp txnId unitId pduBytes ++ tail) .stdTcp =
      some (frameBytes .stdTcp txnId unitId pduBytes).length := by
  have hlength := toNat_ofNat_length_add_one hlen
  simp only [frameBytes, toBeBytes, List.cons_append, List.nil_append, deriveLengthFromBytes,
    List.getD_cons_succ, List.getD_cons_zero]
  rw [fromBeBytes_toBeBytes, fromBeBytes_toBeBytes, hlength, if_neg (by
    simp only [List.length_cons]
    omega), if_neg (fun h => h rfl)]
  congr 1
  simp only [List.length_cons]
  omega

/-- Hex digits are no line ends. -/
lemma hexPair_ne_lf (b : UInt8) : ∀ c ∈ hexPair b, (c == 0x0A) = false := by
  have hall : (hexPair b).all (fun c => !(c == 0x0A)) = true :=
    FunctionCode.forall_byte (P := fun b => (hexPair b).all (fun c => !(c == 0x0A)) = true)
      (by decide +kernel) b
  intro c hc
  exact Bool.not_eq_true' _ ▸ List.all_eq_true.mp hall c hc

lemma deriveLength_ascii :
    deriveLengthFromBytes (frameBytes (.stdSerial .ascii) txnId unitId pduBytes ++ tail)
        (.stdSerial .ascii) =
      if (frameBytes (.stdSerial .ascii) txnId unitId pduBytes ++ tail).length < 9 then none
      else some (frameBytes (.stdSerial .ascii) txnId unitId pduBytes).length := by
  set binary := unitId :: pduBytes ++ [lrc (unitId :: pduBytes)] with hbinary
  have hframe : frameBytes (.stdSerial .ascii) txnId unitId pduBytes =
      (0x3A :: binary.flatMap hexPair ++ [0x0D]) ++ [0x0A] := by
    rw [frameBytes, ← hbinary, List.append_assoc]
    rfl
  have hlen : (frameBytes (.stdSerial .ascii) txnId unitId pduBytes).length =
      (0x3A :: binary.flatMap hexPair ++ [0x0D]).length + 1 := by
    rw [hframe, List.length_append]
    rfl
  have hfree : ∀ c ∈ 0x3A :: binary.flatMap hexPair ++ [0x0D], (c == 0x0A) = false := by
    intro c hc
    simp only [List.cons_append, List.mem_cons, List.mem_append, List.mem_flatMap,
      List.not_mem_nil, or_false] at hc
    rcases hc with rfl | ⟨b, _, hb⟩ | rfl
    · decide
    · exact hexPair_ne_lf b c hb
    · decide
  have hlf : (frameBytes (.stdSerial .ascii) txnId unitId pduBytes ++ tail).findIdx?
      (· == 0x0A) = some (0x3A :: binary.flatMap hexPair ++ [0x0D]).length := by
    rw [hframe, List.append_assoc, List.findIdx?_append, List.findIdx?_eq_none_iff.mpr hfree]
    simp [List.findIdx?_cons]
  rw [deriveLengthFromBytes, hlf, hlen]
  rfl

end Length

/-- The PDU is compiled into a frame that carries the address, the transaction id and the PDU
back. On TCP and ASCII its length is found whatever follows it. -/
def RoundTrips [Features] (tt : TransportType) (txnId : UInt16) (unitId : UInt8) (pdu : Pdu) :
    Prop :=
  ∃ adu, compileAduFrame txnId unitId pdu tt = .ok adu ∧
    (∃ message, decompileAduFrame adu.toList tt = .ok message ∧ message.unitByte = unitId ∧
      message.transactionId = (if tt.isTcpType then txnId else 0) ∧
      message.functionCode = pdu.functionCode ∧ message.pdu.data = pdu.data) ∧
    (¬tt.IsRtu → ∀ tail, deriveLengthFromBytes (adu.toList ++ tail) tt = some adu.length)

section RoundTrip

variable [Features] {tt : TransportType} {fc : FunctionCode}

omit [Features] in
lemma FunctionCode.isPlain_of_not_exception (hfc : isExceptionCode fc.toByte = false)
    (hset : fc ≠ .default) : fc.IsPlain := by
  revert hfc hset
  cases fc <;> decide

/-- With the capacity of the ASCII feature every PDU fits an ASCII frame. -/
lemma fitsFrame_rawBytes (p : Pdu) (h : tt.IsAscii → Features.serialAscii = true) :
    FitsFrame tt p.rawBytes := by
  have hlen := rawBytes_length_le p
  have ascii (h : Features.serialAscii = true) : 2 * p.rawBytes.length + 7 ≤ maxAduFrameLen := by
    rw [maxAduFrameLen, if_pos h]
    omega
  cases tt with
  | stdTcp => trivial
  | customTcp => trivial
  | stdSerial mode =>
    cases mode with
    | rtu => trivial
    | ascii => exact ascii (h (Or.inl rfl))
  | customSerial mode =>
    cases mode with
    | rtu => trivial
    | ascii => exact ascii (h (Or.inr rfl))

omit [Features] in
lemma decompileAduFrame_frameBytes (txnId : UInt16) {unitId : UInt8} {p : Pdu}
    (hp : Pdu.fromBytes p.rawBytes = .ok p) (hunit : tt.isSerialType = true → unitId ≤ 247) :
    ∃ message, decompileAduFrame (frameBytes tt txnId unitId p.rawBytes) tt = .ok message := by
  have hlen := rawBytes_length_le p
  cases tt with
  | stdTcp => exact ModbusMessage.fromBytes_frameBytes txnId unitId hp hlen
  | customTcp => exact ModbusMessage.fromBytes_frameBytes txnId unitId hp hlen
  | stdSerial mode =>
    cases mode with
    | rtu => exact ModbusMessage.fromRtuBytes_frameBytes txnId unitId hp (hunit rfl)
    | ascii => exact ModbusMessage.fromAsciiBytes_frameBytes txnId unitId hp hlen (hunit rfl)
  | customSerial mode =>
    cases mode with
    | rtu => exact ModbusMessage.fromRtuBytes_frameBytes txnId unitId hp (hunit rfl)
    | ascii => exact ModbusMessage.fromAsciiBytes_frameBytes txnId unitId hp hlen (hunit rfl)

omit [Features] in
lemma deriveLength_frameBytes (txnId : UInt16) (unitId : UInt8) (p : Pdu) (htt : ¬tt.IsRtu)
    (tail : List UInt8) :
    deriveLengthFromBytes (frameBytes tt txnId unitId p.rawBytes ++ tail) tt =
      some (frameBytes tt txnId unitId p.rawBytes).length := by
  have hlen := rawBytes_length_le p
  have ascii : deriveLengthFromBytes
      (frameBytes (.stdSerial .ascii) txnId unitId p.rawBytes ++ tail) (.stdSerial .ascii) =
      some (frameBytes (.stdSerial .ascii) txnId unitId p.rawBytes).length := by
    rw [deriveLength_ascii, if_neg]
    simp only [frameBytes, List.length_append, List.length_cons, flatMap_hexPair_length,
      Pdu.rawBytes]
    omega
  cases tt with
  | stdTcp => exact deriveLength_tcp txnId unitId tail hlen
  | customTcp => exact deriveLength_tcp txnId unitId tail hlen
  | stdSerial mode =>
    cases mode with
    | rtu => exact absurd (Or.inl rfl) htt
    | ascii => exact ascii
  | customSerial mode =>
    cases mode with
    | rtu => exact absurd (Or.inr rfl) htt
    | ascii => exact ascii

/-- A compiled frame carries its address, transaction id and PDU. -/
lemma decompileAduFrame_compiled {txnId : UInt16} {unitId : UInt8} {p : Pdu}
    {adu : HVec UInt8 maxAduFrameLen} (h : compileAduFrame txnId unitId p tt = .ok adu)
    (hp : Pdu.fromBytes p.rawBytes = .ok p) (hunit : tt.isSerialType = true → unitId ≤ 247) :
    ∃ message, decompileAduFrame adu.toList tt = .ok message ∧ message.unitByte = unitId ∧
      message.transactionId = (if tt.isTcpType then txnId else 0) ∧ message.pdu = p := by
  have hlen := rawBytes_length_le p
  obtain ⟨message, hmessage⟩ := decompileAduFrame_frameBytes txnId hp hunit
  obtain ⟨_, hunitByte, htxn, hpdu⟩ := decompileAduFrame_eq_ok hmessage
  rw [wirePdu_frameBytes tt txnId unitId hlen, hp] at hpdu
  refine ⟨message, by rw [(compileAduFrame_eq_ok h).2, hmessage], ?_, ?_, (Outcome.ok.inj hpdu).symm⟩
  · rw [hunitByte, wireUnit_frameBytes tt txnId unitId hlen]
  · rw [htxn, wireTxnId_frameBytes]

/-- What is sent under a valid code is what is received. -/
theorem roundTrips (tt : TransportType) (txnId : UInt16) (unitId : UInt8) (fc : FunctionCode)
    (data : HVec UInt8 maxPduDataLen) (hfc : isExceptionCode fc.toByte = false)
    (hset : fc ≠ .default) (hunit : tt.isSerialType = true → unitId ≤ 247)
    (hascii : tt.IsAscii → Features.serialAscii = true) :
    RoundTrips tt txnId unitId (Pdu.new fc data) := by
  have hdecode := Pdu.fromBytes_rawBytes_new (FunctionCode.isPlain_of_not_exception hfc hset) data
  obtain ⟨adu, hadu, hlist⟩ := compileAduFrame_ok tt txnId unitId (Pdu.new fc data)
    (fitsFrame_rawBytes _ hascii)
  obtain ⟨message, hmessage, hunitByte, htxn, hpdu⟩ :=
    decompileAduFrame_compiled hadu hdecode hunit
  refine ⟨adu, hadu, ⟨message, hmessage, hunitByte, htxn, ?_, ?_⟩, fun htt tail => ?_⟩
  · rw [ModbusMessage.functionCode, hpdu]
  · rw [hpdu]
  · rw [hlist, deriveLength_frameBytes txnId unitId _ htt, ← hlist]
    rfl

end RoundTrip

/-- A read of one register, in ASCII. -/
theorem roundTrips_readRegister :
    letI : Features := { Features.minimal with serialAscii := true }
    RoundTrips (.stdSerial .ascii) 7 17
      (Pdu.new .readHoldingRegisters (.ofSlice [0x00, 0x6B, 0x00, 0x01])) := by
  let _ : Features := { Features.minimal with serialAscii := true }
  exact roundTrips _ _ _ _ _ rfl (by decide) (fun _ => by decide) (fun _ => rfl)

/-- The placeholder for an unset code is sent, but not received. -/
theorem roundTrips_default_fails :
    ¬∀ [Features] (tt : TransportType) (txnId : UInt16) (unitId : UInt8) (fc : FunctionCode)
      (data : HVec UInt8 maxPduDataLen), isExceptionCode fc.toByte = false →
      (tt.isSerialType = true → unitId ≤ 247) →
      (tt.IsAscii → Features.serialAscii = true) → RoundTrips tt txnId unitId (Pdu.new fc data) := by
  intro h
  let _ := Features.minimal
  obtain ⟨adu, hadu, ⟨message, hmessage, _⟩, _⟩ := h .stdTcp 1 17 .default .empty rfl
    (fun h => by cases h) (fun h => by rcases h with h | h <;> cases h)
  obtain ⟨_, hlist⟩ := compileAduFrame_eq_ok hadu
  have herr : decompileAduFrame (frameBytes .stdTcp 1 17 (Pdu.new .default .empty).rawBytes)
      .stdTcp = .err (.unsupportedFunction 0) := by decide +kernel
  rw [hlist, herr] at hmessage
  cases hmessage

end ModbusRs
