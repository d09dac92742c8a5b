import ModbusRs.Core.Decode

/-!
# Compiled frames

What `compile_adu_frame` writes, byte for byte. On TCP and RTU every PDU fits the frame buffer;
an ASCII frame takes two characters for each byte and can outgrow it.
-/

namespace ModbusRs

open Outcome

/-- The two characters of one byte. -/
def hexPair (byte : UInt8) : List UInt8 :=
  [ModbusMessage.nibbleToHex ((byte >>> 4) &&& 0x0F), ModbusMessage.nibbleToHex (byte &&& 0x0F)]

/-- The function-code byte and the data of a PDU. -/
def Pdu.rawBytes (p : Pdu) : List UInt8 := p.functionCode.toByte :: p.data.toList

/-- A frame around the bytes of a PDU. -/
def frameBytes (tt : TransportType) (txnId : UInt16) (unitId : UInt8) (pduBytes : List UInt8) :
    List UInt8 :=
  match tt with
  | .stdTcp | .customTcp =>
    toBeBytes txnId ++ toBeBytes 0 ++ toBeBytes (UInt16.ofNat pduBytes.length + 1) ++
      unitId :: pduBytes
  | .stdSerial .rtu | .customSerial .rtu =>
    unitId :: pduBytes ++ toLeBytes (crc16 (unitId :: pduBytes))
  | .stdSerial .ascii | .customSerial .ascii =>
    0x3A :: (unitId :: pduBytes ++ [lrc (unitId :: pduBytes)]).flatMap hexPair ++ [0x0D, 0x0A]

/-- The PDU leaves room for the framing. -/
def FitsFrame [Features] (tt : TransportType) (pduBytes : List UInt8) : Prop :=
  match tt with
  | .stdSerial .ascii | .customSerial .ascii => 2 * pduBytes.length + 7 ≤ maxAduFrameLen
  | _ => True

instance [Features] (tt : TransportType) (pduBytes : List UInt8) :
    Decidable (FitsFrame tt pduBytes) := by
  unfold FitsFrame
  split <;> infer_instance

lemma flatMap_hexPair_length (bytes : List UInt8) : (bytes.flatMap hexPair).length =
    2 * bytes.length := by
  induction bytes with
  | nil => rfl
  | cons b bytes ih =>
    rw [List.flatMap_cons, List.length_append, ih, List.length_cons]
    simp only [hexPair, List.length_cons, List.length_nil]
    omega

lemma pushHex_of_le {n : Nat} {acc : HVec UInt8 n} (byte : UInt8)
    (h : acc.toList.length + 2 ≤ n) :
    ModbusMessage.pushHex acc byte =
      .ok ⟨acc.toList ++ hexPair byte, by simpa [hexPair] using h⟩ := by
  rw [ModbusMessage.pushHex, HVec.pushOr, HVec.extendOr_of_le _ (by simp; omega)]
  simp only [Except.ok_bind, HVec.pushOr]
  rw [HVec.extendOr_of_le _ (by simp; omega)]
  congr 1
  exact HVec.ext (by simp [hexPair])

lemma pushHex_of_gt {n : Nat} {acc : HVec UInt8 n} (byte : UInt8)
    (h : n < acc.toList.length + 2) :
    ModbusMessage.pushHex acc byte = .error .bufferTooSmall := by
  rw [ModbusMessage.pushHex, HVec.pushOr]
  by_cases hone : acc.toList.length + 1 ≤ n
  · rw [HVec.extendOr_of_le _ (by simpa using hone)]
    simp only [Except.ok_bind, HVec.pushOr]
    exact HVec.extendOr_of_gt _ (by simp; omega)
  · rw [HVec.extendOr_of_gt _ (by simp; omega)]
    rfl

lemma foldlM_pushHex_of_le {n : Nat} (bytes : List UInt8) (acc : HVec UInt8 n)
    (h : acc.toList.length + 2 * bytes.length ≤ n) :
    bytes.foldlM ModbusMessage.pushHex acc =
      (.ok ⟨acc.toList ++ bytes.flatMap hexPair, by
        rw [List.length_append, flatMap_hexPair_length]
        exact h⟩ : Except MbusError (HVec UInt8 n)) := by
  induction bytes generalizing acc with
  | nil => simp [pure, Except.pure]
  | cons b bytes ih =>
    rw [List.length_cons] at h
    rw [List.foldlM_cons, pushHex_of_le b (by omega), Except.ok_bind, ih _ (by
      simp only [List.length_append, hexPair, List.length_cons, List.length_nil]
      omega)]
    congr 1
    exact HVec.ext (by simp)

lemma foldlM_pushHex_of_gt {n : Nat} (bytes : List UInt8) (acc : HVec UInt8 n)
    (h : n < acc.toList.length + 2 * bytes.length) :
    bytes.foldlM ModbusMessage.pushHex acc = .error .bufferTooSmall := by
  induction bytes generalizing acc with
  | nil =>
    have := acc.length_le
    simp only [List.length_nil] at h
    omega
  | cons b bytes ih =>
    rw [List.length_cons] at h
    rw [List.foldlM_cons]
    by_cases hb : acc.toList.length + 2 ≤ n
    · rw [pushHex_of_le b hb, Except.ok_bind]
      apply ih
      simp only [List.length_append, hexPair, List.length_cons, List.length_nil]
      omega
    · rw [pushHex_of_gt b (by omega)]
      rfl

section Compile

variable [Features]

lemma le_maxAduFrameLen : 260 ≤ maxAduFrameLen := by
  unfold maxAduFrameLen
  split <;> omega

omit [Features] in
lemma rawBytes_length_le (p : Pdu) : p.rawBytes.length ≤ 253 := Nat.succ_le_succ p.dataLen_le

/-- The unit byte and the PDU always fit. -/
lemma toBytes_slaveAddress (unitId : UInt8) (p : Pdu) :
    ∃ adu, ModbusMessage.toBytes ⟨.slaveAddress ⟨unitId⟩, p⟩ = .ok adu ∧
      adu.toList = unitId :: p.rawBytes := by
  have hmax := le_maxAduFrameLen
  have hlen := rawBytes_length_le p
  have hfit : [unitId].length + p.rawBytes.length ≤ maxAduFrameLen := by
    rw [List.length_singleton]
    omega
  refine ⟨⟨unitId :: p.rawBytes, by simpa [Nat.add_comm] using hfit⟩, ?_, rfl⟩
  simp only [ModbusMessage.toBytes, HVec.pushOr]
  rw [HVec.extendOr_of_le _ (by simp; omega)]
  simp only [Except.ok_bind, Pdu.toBytes_eq]
  exact HVec.extendOr_of_le _ (by simpa [Pdu.rawBytes] using hfit)

lemma toBytes_mbapHeader (header : MbapHeader) (p : Pdu) :
    ∃ adu, ModbusMessage.toBytes ⟨.mbapHeader header, p⟩ = .ok adu ∧
      adu.toList = toBeBytes header.transactionId ++ toBeBytes header.protocolId ++
        toBeBytes header.length ++ header.unitId :: p.rawBytes := by
  have hmax := le_maxAduFrameLen
  have hlen := rawBytes_length_le p
  have hfit : (toBeBytes header.transactionId ++ toBeBytes header.protocolId ++
      toBeBytes header.length ++ header.unitId :: p.rawBytes).length ≤ maxAduFrameLen := by
    simp only [List.length_append, toBeBytes_length, List.length_cons]
    omega
  refine ⟨⟨_, hfit⟩, ?_, rfl⟩
  simp only [ModbusMessage.toBytes, HVec.pushOr]
  rw [HVec.extendOr_of_le _ (by simp; omega)]
  simp only [Except.ok_bind]
  rw [HVec.extendOr_of_le _ (by simp; omega)]
  simp only [Except.ok_bind]
  rw [HVec.extendOr_of_le _ (by simp; omega)]
  simp only [Except.ok_bind]
  rw [HVec.extendOr_of_le _ (by simp; omega)]
  simp only [Except.ok_bind, Pdu.toBytes_eq]
  rw [HVec.extendOr_of_le _ (by
    simp only [HVec.empty_toList, List.length_append, toBeBytes_length, List.length_nil,
      List.length_singleton]
    change _ + p.rawBytes.length ≤ _
    omega)]
  simp [Pdu.rawBytes]

/-- The two stages of an ASCII frame. -/
lemma toAsciiBytes_eq (unitId : UInt8) (p : Pdu) :
    ModbusMessage.toAsciiBytes ⟨.slaveAddress ⟨unitId⟩, p⟩ = (do
      let acc ← (unitId :: p.rawBytes ++ [lrc (unitId :: p.rawBytes)]).foldlM
        ModbusMessage.pushHex
        (⟨[0x3A], Nat.le_trans (by decide) le_maxAduFrameLen⟩ : HVec UInt8 maxAduFrameLen)
      let acc ← acc.pushOr 0x0D .bufferTooSmall
      acc.pushOr 0x0A .bufferTooSmall) := by
  have hmax := le_maxAduFrameLen
  have hlen := rawBytes_length_le p
  obtain ⟨adu, hadu, hlist⟩ := toBytes_slaveAddress unitId p
  simp only [ModbusMessage.toAsciiBytes, hadu, Except.ok_bind, HVec.pushOr]
  rw [HVec.extendOr_of_le _ (by rw [hlist]; simp; omega), Except.ok_bind,
    HVec.extendOr_of_le _ (by simp; omega), Except.ok_bind]
  simp only [hlist, HVec.empty_toList, List.nil_append]

/-- What `compile_adu_frame` writes. -/
theorem compileAduFrame_ok (tt : TransportType) (txnId : UInt16) (unitId : UInt8) (p : Pdu)
    (h : FitsFrame tt p.rawBytes) :
    ∃ adu, compileAduFrame txnId unitId p tt = .ok adu ∧
      adu.toList = frameBytes tt txnId unitId p.rawBytes := by
  have hmax := le_maxAduFrameLen
  have hlen := rawBytes_length_le p
  have tcp : ∃ adu, compileAduFrame txnId unitId p .stdTcp = .ok adu ∧
      adu.toList = frameBytes .stdTcp txnId unitId p.rawBytes := by
    simp only [compileAduFrame, Pdu.toBytes_eq, Except.ok_bind]
    exact toBytes_mbapHeader _ p
  have rtu : ∃ adu, compileAduFrame txnId unitId p (.stdSerial .rtu) = .ok adu ∧
      adu.toList = frameBytes (.stdSerial .rtu) txnId unitId p.rawBytes := by
    obtain ⟨adu, hadu, hlist⟩ := toBytes_slaveAddress unitId p
    simp only [compileAduFrame, hadu, Except.ok_bind]
    rw [HVec.extendOr_of_le _ (by rw [hlist]; simp; omega)]
    exact ⟨_, rfl, by simp only [hlist, frameBytes]⟩
  have ascii (h : 2 * p.rawBytes.length + 7 ≤ maxAduFrameLen) :
      ∃ adu, compileAduFrame txnId unitId p (.stdSerial .ascii) = .ok adu ∧
        adu.toList = frameBytes (.stdSerial .ascii) txnId unitId p.rawBytes := by
    simp only [compileAduFrame, toAsciiBytes_eq]
    rw [foldlM_pushHex_of_le _ _ (by simp; omega), Except.ok_bind, HVec.pushOr,
      HVec.extendOr_of_le _ (by
        simp only [List.length_append, flatMap_hexPair_length, List.length_cons, List.length_nil]
        omega), Except.ok_bind, HVec.pushOr, HVec.extendOr_of_le _ (by
        simp only [List.length_append, flatMap_hexPair_length, List.length_cons, List.length_nil]
        omega)]
    exact ⟨_, rfl, by simp [frameBytes]⟩
  cases tt with
  | stdTcp => exact tcp
  | customTcp => exact tcp
  | stdSerial mode =>
    cases mode with
    | rtu => exact rtu
    | ascii => exact ascii h
  | customSerial mode =>
    cases mode with
    | rtu => exact rtu
    | ascii => exact ascii h

/-- A PDU that does not fit is refused. -/
theorem compileAduFrame_error (tt : TransportType) (txnId : UInt16) (unitId : UInt8) (p : Pdu)
    (h : ¬FitsFrame tt p.rawBytes) :
    compileAduFrame txnId unitId p tt = .error .bufferTooSmall := by
  have ascii (h : ¬2 * p.rawBytes.length + 7 ≤ maxAduFrameLen) :
      compileAduFrame txnId unitId p (.stdSerial .ascii) = .error .bufferTooSmall := by
    simp only [compileAduFrame, toAsciiBytes_eq]
    set bytes := unitId :: p.rawBytes ++ [lrc (unitId :: p.rawBytes)] with hbytes
    have hlen : bytes.length = p.rawBytes.length + 2 := by simp [hbytes]
    by_cases hhex : 1 + 2 * bytes.length ≤ maxAduFrameLen
    · rw [foldlM_pushHex_of_le _ _ (by simpa using hhex), Except.ok_bind, HVec.pushOr]
      by_cases hcr : 1 + 2 * bytes.length + 1 ≤ maxAduFrameLen
      · rw [HVec.extendOr_of_le _ (by
          simp only [List.length_append, flatMap_hexPair_length, List.length_cons, List.length_nil]
          omega), Except.ok_bind, HVec.pushOr]
        exact HVec.extendOr_of_gt _ (by
          simp only [List.length_append, flatMap_hexPair_length, List.length_cons, List.length_nil]
          omega)
      · rw [HVec.extendOr_of_gt _ (by
          simp only [List.length_append, flatMap_hexPair_length, List.length_cons, List.length_nil]
          omega)]
        rfl
    · rw [foldlM_pushHex_of_gt _ _ (by simp; omega)]
      rfl
  cases tt with
  | stdTcp => exact absurd trivial h
  | customTcp => exact absurd trivial h
  | stdSerial mode =>
    cases mode with
    | rtu => exact absurd trivial h
    | ascii => exact ascii h
  | customSerial mode =>
    cases mode with
    | rtu => exact absurd trivial h
    | ascii => exact ascii h

lemma compileAduFrame_eq_ok {tt : TransportType} {txnId : UInt16} {unitId : UInt8} {p : Pdu}
    {adu : HVec UInt8 maxAduFrameLen} (h : compileAduFrame txnId unitId p tt = .ok adu) :
    FitsFrame tt p.rawBytes ∧ adu.toList = frameBytes tt txnId unitId p.rawBytes := by
  by_cases hfit : FitsFrame tt p.rawBytes
  · obtain ⟨adu', hadu', hlist⟩ := compileAduFrame_ok tt txnId unitId p hfit
    rw [hadu'] at h
    cases h
    exact ⟨hfit, hlist⟩
  · rw [compileAduFrame_error tt txnId unitId p hfit] at h
    cases h

/-- An exception PDU fits every frame. -/
lemma compileAduFrame_exception (tt : TransportType) (txnId : UInt16) (unitId : UInt8)
    {fc exceptionFc : FunctionCode} (hexc : fc.exceptionResponse = some exceptionFc)
    (code : UInt8) :
    ∃ pdu adu, Pdu.buildBytePayload exceptionFc code = .ok pdu ∧
      compileAduFrame txnId unitId pdu tt = .ok adu ∧
      adu.toList = frameBytes tt txnId unitId [fc.toByte ||| 0x80, code] := by
  have hone : [code].length ≤ maxPduDataLen := by
    rw [List.length_singleton]
    decide
  have hbuild : Pdu.buildBytePayload exceptionFc code = .ok (Pdu.new exceptionFc ⟨_, hone⟩) := rfl
  have hfits : FitsFrame tt (Pdu.new exceptionFc ⟨_, hone⟩).rawBytes := by
    have hmax := le_maxAduFrameLen
    unfold FitsFrame
    split <;> first | trivial | (simp [Pdu.rawBytes, Pdu.new]; omega)
  obtain ⟨adu, hadu, hlist⟩ := compileAduFrame_ok tt txnId unitId _ hfits
  refine ⟨_, adu, hbuild, hadu, ?_⟩
  rw [hlist, Pdu.rawBytes, ← FunctionCode.exceptionResponse_toByte hexc]
  rfl

end Compile

end ModbusRs
