import ModbusRs.Client.Responses
import ModbusRs.Core.Layouts

/-!
# What the response handlers accept

A handler accepts the layouts of its response with the addresses and quantities of the request,
and reports an error for every other response.
-/

namespace ModbusRs

open Outcome

/-- The echo of a file write: sub-requests with as many words as they declare. -/
inductive FileRecordEcho : List UInt8 → Prop
  | done : FileRecordEcho []
  | record (fileNumber recordNumber recordLength : UInt16) {words rest : List UInt8}
      (hwords : words.length = recordLength.toNat * 2) (hrest : FileRecordEcho rest) :
      FileRecordEcho (fileRecordRefType :: (toBeBytes fileNumber ++ (toBeBytes recordNumber ++
        (toBeBytes recordLength ++ (words ++ rest)))))

section Handlers

open ResponseParser ServiceDecompiler

variable {pdu : Pdu} {bytes : List UInt8} {address quantity value : UInt16} {fc : FunctionCode}

lemma ResponseParser.checkFunctionCode_of_eq (h : pdu.functionCode = fc) (e : MbusError) :
    checkFunctionCode pdu fc e = .ok () := by
  rw [checkFunctionCode, h, bne_self_eq_false]
  rfl

lemma ResponseParser.checkFunctionCode_of_ne (h : pdu.functionCode ≠ fc) (e : MbusError) :
    checkFunctionCode pdu fc e = .err e := by
  rw [checkFunctionCode, bne_iff_ne.mpr h]
  rfl

variable [Features]

omit [Features] in
lemma handleReadCoilRsp_eq_ok (address : UInt16) (hfc : pdu.functionCode = .readCoils)
    (hbytes : pdu.CountsBytes bytes) (hlen : bytes.length = (quantity.toNat + 7) / 8)
    (hle : quantity.toNat ≤ maxCoilsPerPdu) :
    ∃ block, BitBlock.withValues ⟨address, quantity, .replicate _ 0, hle⟩ bytes quantity =
        .ok block ∧
      handleReadCoilRsp pdu quantity address = .ok block := by
  have hle' : quantity.toNat ≤ 2000 := hle
  obtain ⟨block, hblock, _⟩ :=
    BitBlock.withValues_ok ⟨address, quantity, .replicate _ 0, hle⟩ (Nat.le_of_eq hlen.symm)
  refine ⟨block, hblock, ?_⟩
  rw [handleReadCoilRsp, checkFunctionCode_of_eq hfc, ok_bind, handleCoilResponse,
    parseReadCoilsResponse, checkFunctionCode_of_eq hfc, ok_bind, hbytes.byteCountPayload_eq,
    ok_bind]
  dsimp only
  rw [hbytes.count_toNat, hlen, bne_self_eq_false, guardErr_false, ok_bind,
    HVec.extendOr_of_le _ (by
      rw [HVec.empty_toList, List.length_nil, Nat.zero_add]
      change _ ≤ 250
      omega), lift_ok, ok_bind, BitBlock.new_of_le address hle, lift_ok, ok_bind]
  simp only [HVec.empty_toList, List.nil_append]
  exact hblock

omit [Features] in
lemma handleReadCoilRsp_eq_err (address : UInt16) (h : ¬(pdu.functionCode = .readCoils ∧
      ∃ bytes, pdu.CountsBytes bytes ∧ bytes.length = (quantity.toNat + 7) / 8)) :
    ∃ e, handleReadCoilRsp pdu quantity address = .err e := by
  rw [handleReadCoilRsp]
  by_cases hfc : pdu.functionCode = .readCoils
  · rw [checkFunctionCode_of_eq hfc, ok_bind, handleCoilResponse, parseReadCoilsResponse,
      checkFunctionCode_of_eq hfc, ok_bind]
    by_cases hbytes : ∃ bytes, pdu.CountsBytes bytes
    · obtain ⟨bytes, hbytes⟩ := hbytes
      have hne : bytes.length ≠ (quantity.toNat + 7) / 8 := fun hlen => h ⟨hfc, bytes, hbytes, hlen⟩
      rw [hbytes.byteCountPayload_eq, ok_bind]
      dsimp only
      rw [hbytes.count_toNat, bne_iff_ne.mpr hne]
      exact ⟨_, rfl⟩
    · obtain ⟨e, he⟩ := Pdu.byteCountPayload_eq_err (not_exists.mp hbytes)
      rw [he]
      exact ⟨e, rfl⟩
  · rw [checkFunctionCode_of_ne hfc]
    exact ⟨_, rfl⟩

omit [Features] in
lemma handleReadDiscreteInputsResponse_eq_ok (address : UInt16)
    (hfc : pdu.functionCode = .readDiscreteInputs) (hbytes : pdu.CountsBytes bytes)
    (hlen : bytes.length = (quantity.toNat + 7) / 8)
    (hle : quantity.toNat ≤ maxCoilsPerPdu) :
    ∃ block, BitBlock.withValues ⟨address, quantity, .replicate _ 0, hle⟩ bytes quantity =
        .ok block ∧
      handleReadDiscreteInputsResponse pdu address quantity = .ok block := by
  have hle' : quantity.toNat ≤ 2000 := hle
  have hcopy := copyFront_of_le (.replicate maxCoilBytes (0 : UInt8))
    (show bytes.length ≤ maxCoilBytes by
      change _ ≤ 250
      omega)
  obtain ⟨block, hblock, _⟩ :=
    BitBlock.withValues_ok ⟨address, quantity, .replicate _ 0, hle⟩ (Nat.le_of_eq hlen.symm)
  refine ⟨block, hblock, ?_⟩
  rw [handleReadDiscreteInputsResponse, checkFunctionCode_of_eq hfc, ok_bind,
    parseReadDiscreteInputsResponse, checkFunctionCode_of_eq hfc, ok_bind,
    hbytes.byteCountPayload_eq, ok_bind]
  dsimp only
  rw [hbytes.count_toNat, hlen, bne_self_eq_false, guardErr_false, ok_bind, hcopy, ok_bind,
    BitBlock.new_of_le address hle, lift_ok, ok_bind, BitBlock.withValues_congr
      _ (Nat.le_of_eq hlen.symm) (by rw [← hlen, copyFront_take hcopy, List.take_length])]
  exact hblock

omit [Features] in
lemma handleReadDiscreteInputsResponse_eq_err (address : UInt16)
    (h : ¬(pdu.functionCode = .readDiscreteInputs ∧
      ∃ bytes, pdu.CountsBytes bytes ∧ bytes.length = (quantity.toNat + 7) / 8)) :
    ∃ e, handleReadDiscreteInputsResponse pdu address quantity = .err e := by
  rw [handleReadDiscreteInputsResponse]
  by_cases hfc : pdu.functionCode = .readDiscreteInputs
  · rw [checkFunctionCode_of_eq hfc, ok_bind, parseReadDiscreteInputsResponse,
      checkFunctionCode_of_eq hfc, ok_bind]
    by_cases hbytes : ∃ bytes, pdu.CountsBytes bytes
    · obtain ⟨bytes, hbytes⟩ := hbytes
      have hne : bytes.length ≠ (quantity.toNat + 7) / 8 := fun hlen => h ⟨hfc, bytes, hbytes, hlen⟩
      rw [hbytes.byteCountPayload_eq, ok_bind]
      dsimp only
      rw [hbytes.count_toNat, bne_iff_ne.mpr hne]
      exact ⟨_, rfl⟩
    · obtain ⟨e, he⟩ := Pdu.byteCountPayload_eq_err (not_exists.mp hbytes)
      rw [he]
      exact ⟨e, rfl⟩
  · rw [checkFunctionCode_of_ne hfc]
    exact ⟨_, rfl⟩

lemma handleReadRegistersRsp_eq_ok (address : UInt16) (hfc : pdu.functionCode = fc)
    (hbytes : pdu.CountsBytes bytes) (hlen : bytes.length = quantity.toNat * 2) (hle : quantity.toNat ≤ maxRegistersPerPdu) :
    ∃ registers, Registers.withValues ⟨address, quantity, .replicate _ 0, hle⟩ (beWords bytes)
        quantity = .ok registers ∧
      handleReadRegistersRsp pdu fc quantity address = .ok registers := by
  have hle' : quantity.toNat ≤ 125 := hle
  have hwords : (beWords bytes).length = quantity.toNat := by
    rw [beWords_length, hlen, Nat.mul_div_cancel _ (by decide)]
  have hsum : addU16 quantity quantity = .ok (quantity + quantity) := if_neg (by omega)
  have hcount : (UInt8.ofNat bytes.length).toNat = (quantity + quantity).toNat := by
    rw [hbytes.count_toNat, hlen, UInt16.toNat_add]
    omega
  obtain ⟨registers, hregisters, _⟩ :=
    Registers.withValues_ok ⟨address, quantity, .replicate _ 0, hle⟩ hwords
  refine ⟨registers, hregisters, ?_⟩
  rw [handleReadRegistersRsp, checkFunctionCode_of_eq hfc, ok_bind, parseReadRegistersResponse,
    checkFunctionCode_of_eq hfc, ok_bind, hbytes.byteCountPayload_eq, ok_bind, hsum, ok_bind]
  dsimp only
  rw [hcount, bne_self_eq_false, guardErr_false, ok_bind, HVec.extendOr_of_le _ (by
      rw [HVec.empty_toList, List.length_nil, Nat.zero_add, hwords]
      exact hle), lift_ok, ok_bind, Registers.new_of_le address hle, lift_ok, ok_bind]
  simp only [HVec.length, HVec.empty_toList, List.nil_append, hwords, UInt16.ofNat_toNat]
  exact hregisters

lemma handleReadRegistersRsp_eq_err (address : UInt16) (hle : quantity.toNat ≤ maxRegistersPerPdu)
    (h : ¬(pdu.functionCode = fc ∧
      ∃ bytes, pdu.CountsBytes bytes ∧ bytes.length = quantity.toNat * 2)) :
    ∃ e, handleReadRegistersRsp pdu fc quantity address = .err e := by
  have hle' : quantity.toNat ≤ 125 := hle
  have hsum : addU16 quantity quantity = .ok (quantity + quantity) := if_neg (by omega)
  rw [handleReadRegistersRsp]
  by_cases hfc : pdu.functionCode = fc
  · rw [checkFunctionCode_of_eq hfc, ok_bind, parseReadRegistersResponse,
      checkFunctionCode_of_eq hfc, ok_bind]
    by_cases hbytes : ∃ bytes, pdu.CountsBytes bytes
    · obtain ⟨bytes, hbytes⟩ := hbytes
      have hne : (UInt8.ofNat bytes.length).toNat ≠ (quantity + quantity).toNat := by
        rw [hbytes.count_toNat, UInt16.toNat_add]
        exact fun hlen => h ⟨hfc, bytes, hbytes, by omega⟩
      rw [hbytes.byteCountPayload_eq, ok_bind, hsum, ok_bind]
      dsimp only
      rw [bne_iff_ne.mpr hne]
      exact ⟨_, rfl⟩
    · obtain ⟨e, he⟩ := Pdu.byteCountPayload_eq_err (not_exists.mp hbytes)
      rw [he]
      exact ⟨e, rfl⟩
  · rw [checkFunctionCode_of_ne hfc]
    exact ⟨_, rfl⟩

omit [Features] in
/-- The checks of an echo fail on other fields. -/
lemma guardEcho_eq_err {first second : UInt16} (e e' : MbusError)
    (h : ¬(first = address ∧ second = value)) :
    ∃ e'', (do
      guardErr (first != address) e
      guardErr (second != value) e' : Fallible Unit) = .err e'' := by
  by_cases hfirst : first = address
  · have hsecond : second ≠ value := fun hsecond => h ⟨hfirst, hsecond⟩
    rw [hfirst, bne_self_eq_false, guardErr_false, ok_bind, bne_iff_ne.mpr hsecond]
    exact ⟨e', rfl⟩
  · rw [bne_iff_ne.mpr hfirst]
    exact ⟨e, rfl⟩

omit [Features] in
lemma handleWriteSingleCoilResponse_eq_ok (bit : Bool) (hfc : pdu.functionCode = .writeSingleCoil)
    (hpair : pdu.HoldsPair address (if bit then 0xFF00 else 0x0000)) :
    handleWriteSingleCoilResponse (.single address (if bit then 1 else 0)) pdu =
      .ok (some (.writeSingleCoil address bit)) := by
  have hvalue : ((if bit then (1 : UInt16) else 0) != 0) = bit := by cases bit <;> rfl
  rw [handleWriteSingleCoilResponse]
  dsimp only [OperationMeta.address, OperationMeta.value]
  rw [hvalue, handleWriteSingleCoilRsp, checkFunctionCode_of_eq hfc, ok_bind,
    parseWriteSingleCoilResponse, checkFunctionCode_of_eq hfc, ok_bind,
    hpair.writeSingleU16Fields_eq, ok_bind]
  dsimp only
  rw [bne_self_eq_false, guardErr_false, ok_bind, bne_self_eq_false]
  rfl

omit [Features] in
lemma handleWriteSingleCoilResponse_eq_err (bit : Bool) (h : ¬(pdu.functionCode = .writeSingleCoil ∧
      pdu.HoldsPair address (if bit then 0xFF00 else 0x0000))) :
    ∃ e, handleWriteSingleCoilResponse (.single address (if bit then 1 else 0)) pdu = .err e := by
  have hvalue : ((if bit then (1 : UInt16) else 0) != 0) = bit := by cases bit <;> rfl
  rw [handleWriteSingleCoilResponse]
  dsimp only [OperationMeta.address, OperationMeta.value]
  rw [hvalue, handleWriteSingleCoilRsp]
  by_cases hfc : pdu.functionCode = .writeSingleCoil
  · rw [checkFunctionCode_of_eq hfc, ok_bind, parseWriteSingleCoilResponse,
      checkFunctionCode_of_eq hfc, ok_bind]
    by_cases hpair : ∃ address value, pdu.HoldsPair address value
    · obtain ⟨address', value', hpair⟩ := hpair
      rw [hpair.writeSingleU16Fields_eq, ok_bind]
      dsimp only
      obtain ⟨e, he⟩ := guardEcho_eq_err .invalidAddress .invalidValue
        fun hecho : address' = address ∧ value' = (if bit then 0xFF00 else 0x0000) =>
          h ⟨hfc, hecho.1 ▸ hecho.2 ▸ hpair⟩
      rw [he]
      exact ⟨_, rfl⟩
    · obtain ⟨e, he⟩ := Pdu.writeSingleU16Fields_eq_err fun address value h =>
        hpair ⟨address, value, h⟩
      rw [he]
      exact ⟨_, rfl⟩
  · rw [checkFunctionCode_of_ne hfc]
    exact ⟨_, rfl⟩

omit [Features] in
lemma handleWriteSingleRegisterResponse_eq_ok (hfc : pdu.functionCode = .writeSingleRegister)
    (hpair : pdu.HoldsPair address value) :
    handleWriteSingleRegisterResponse (.single address value) pdu =
      .ok (some (.writeSingleRegister address value)) := by
  rw [handleWriteSingleRegisterResponse]
  dsimp only [OperationMeta.address, OperationMeta.value]
  rw [handleWriteSingleRegisterRsp, checkFunctionCode_of_eq hfc, ok_bind,
    parseWriteSingleRegisterResponse, checkFunctionCode_of_eq hfc, ok_bind,
    hpair.writeSingleU16Fields_eq, ok_bind]
  dsimp only
  rw [bne_self_eq_false, guardErr_false, ok_bind, bne_self_eq_false]
  rfl

omit [Features] in
lemma handleWriteSingleRegisterResponse_eq_err
    (h : ¬(pdu.functionCode = .writeSingleRegister ∧ pdu.HoldsPair address value)) :
    ∃ e, handleWriteSingleRegisterResponse (.single address value) pdu = .err e := by
  rw [handleWriteSingleRegisterResponse]
  dsimp only [OperationMeta.address, OperationMeta.value]
  rw [handleWriteSingleRegisterRsp]
  by_cases hfc : pdu.functionCode = .writeSingleRegister
  · rw [checkFunctionCode_of_eq hfc, ok_bind, parseWriteSingleRegisterResponse,
      checkFunctionCode_of_eq hfc, ok_bind]
    by_cases hpair : ∃ address value, pdu.HoldsPair address value
    · obtain ⟨address', value', hpair⟩ := hpair
      rw [hpair.writeSingleU16Fields_eq, ok_bind]
      dsimp only
      obtain ⟨e, he⟩ := guardEcho_eq_err .invalidAddress .invalidValue
        fun hecho : address' = address ∧ value' = value => h ⟨hfc, hecho.1 ▸ hecho.2 ▸ hpair⟩
      rw [he]
      exact ⟨_, rfl⟩
    · obtain ⟨e, he⟩ := Pdu.writeSingleU16Fields_eq_err fun address value h =>
        hpair ⟨address, value, h⟩
      rw [he]
      exact ⟨_, rfl⟩
  · rw [checkFunctionCode_of_ne hfc]
    exact ⟨_, rfl⟩

omit [Features] in
lemma ResponseParser.parseWriteMultipleResponse_eq_ok (hfc : pdu.functionCode = fc)
    (hpair : pdu.HoldsPair address quantity) :
    parseWriteMultipleResponse pdu fc address quantity = .ok () := by
  rw [parseWriteMultipleResponse, checkFunctionCode_of_eq hfc, ok_bind, hpair.readWindow_eq,
    ok_bind]
  dsimp only
  rw [bne_self_eq_false, guardErr_false, ok_bind, bne_self_eq_false]
  rfl

omit [Features] in
lemma ResponseParser.parseWriteMultipleResponse_eq_err
    (h : ¬(pdu.functionCode = fc ∧ pdu.HoldsPair address quantity)) :
    ∃ e, parseWriteMultipleResponse pdu fc address quantity = .err e := by
  rw [parseWriteMultipleResponse]
  by_cases hfc : pdu.functionCode = fc
  · rw [checkFunctionCode_of_eq hfc, ok_bind]
    by_cases hpair : ∃ address quantity, pdu.HoldsPair address quantity
    · obtain ⟨address', quantity', hpair⟩ := hpair
      rw [hpair.readWindow_eq, ok_bind]
      dsimp only
      exact guardEcho_eq_err .invalidAddress .invalidQuantity
        fun hecho => h ⟨hfc, hecho.1 ▸ hecho.2 ▸ hpair⟩
    · obtain ⟨e, he⟩ := Pdu.readWindow_eq_err fun address quantity h =>
        hpair ⟨address, quantity, h⟩
      rw [he]
      exact ⟨_, rfl⟩
  · rw [checkFunctionCode_of_ne hfc]
    exact ⟨_, rfl⟩

omit [Features] in
lemma handleWriteMultipleCoilsResponse_eq_ok (hfc : pdu.functionCode = .writeMultipleCoils)
    (hpair : pdu.HoldsPair address quantity) :
    handleWriteMultipleCoilsResponse (.multiple address quantity) pdu =
      .ok (some (.writeMultipleCoils address quantity)) := by
  rw [handleWriteMultipleCoilsResponse]
  dsimp only [OperationMeta.address, OperationMeta.quantity]
  rw [handleWriteMultipleCoilsRsp, checkFunctionCode_of_eq hfc, ok_bind,
    parseWriteMultipleCoilsResponse, parseWriteMultipleResponse_eq_ok hfc hpair]
  rfl

omit [Features] in
lemma handleWriteMultipleCoilsResponse_eq_err
    (h : ¬(pdu.functionCode = .writeMultipleCoils ∧ pdu.HoldsPair address quantity)) :
    ∃ e, handleWriteMultipleCoilsResponse (.multiple address quantity) pdu = .err e := by
  rw [handleWriteMultipleCoilsResponse]
  dsimp only [OperationMeta.address, OperationMeta.quantity]
  rw [handleWriteMultipleCoilsRsp]
  by_cases hfc : pdu.functionCode = .writeMultipleCoils
  · obtain ⟨e, he⟩ := parseWriteMultipleResponse_eq_err h
    rw [checkFunctionCode_of_eq hfc, ok_bind, parseWriteMultipleCoilsResponse, he]
    exact ⟨_, rfl⟩
  · rw [checkFunctionCode_of_ne hfc]
    exact ⟨_, rfl⟩

omit [Features] in
lemma handleWriteMultipleRegistersResponse_eq_ok (hfc : pdu.functionCode = .writeMultipleRegisters)
    (hpair : pdu.HoldsPair address quantity) :
    handleWriteMultipleRegistersResponse (.multiple address quantity) pdu =
      .ok (some (.writeMultipleRegisters address quantity)) := by
  rw [handleWriteMultipleRegistersResponse]
  dsimp only [OperationMeta.address, OperationMeta.quantity]
  rw [handleWriteMultipleRegistersRsp, checkFunctionCode_of_eq hfc, ok_bind,
    parseWriteMultipleRegistersResponse, parseWriteMultipleResponse_eq_ok hfc hpair]
  rfl

omit [Features] in
lemma handleWriteMultipleRegistersResponse_eq_err
    (h : ¬(pdu.functionCode = .writeMultipleRegisters ∧ pdu.HoldsPair address quantity)) :
    ∃ e, handleWriteMultipleRegistersResponse (.multiple address quantity) pdu = .err e := by
  rw [handleWriteMultipleRegistersResponse]
  dsimp only [OperationMeta.address, OperationMeta.quantity]
  rw [handleWriteMultipleRegistersRsp]
  by_cases hfc : pdu.functionCode = .writeMultipleRegisters
  · obtain ⟨e, he⟩ := parseWriteMultipleResponse_eq_err h
    rw [checkFunctionCode_of_eq hfc, ok_bind, parseWriteMultipleRegistersResponse, he]
    exact ⟨_, rfl⟩
  · rw [checkFunctionCode_of_ne hfc]
    exact ⟨_, rfl⟩

omit [Features] in
lemma handleMaskWriteRegisterResponse_eq_ok {andMask orMask : UInt16}
    (hfc : pdu.functionCode = .maskWriteRegister)
    (hdata : pdu.data.toList = toBeBytes address ++ toBeBytes andMask ++ toBeBytes orMask) :
    handleMaskWriteRegisterResponse (.masking address andMask orMask) pdu =
      .ok (some .maskWriteRegister) := by
  have hfields : pdu.maskWriteRegisterFields = .ok ⟨address, andMask, orMask⟩ :=
    Pdu.maskWriteRegisterFields_eq_ok.mpr hdata
  rw [handleMaskWriteRegisterResponse]
  dsimp only [OperationMeta.address, OperationMeta.andMask, OperationMeta.orMask]
  rw [handleMaskWriteRegisterRsp, checkFunctionCode_of_eq hfc, ok_bind,
    parseMaskWriteRegisterResponse, checkFunctionCode_of_eq hfc, ok_bind, hfields, ok_bind]
  dsimp only
  rw [bne_self_eq_false, guardErr_false, ok_bind, bne_self_eq_false, guardErr_false, ok_bind,
    bne_self_eq_false]
  rfl

omit [Features] in
lemma handleMaskWriteRegisterResponse_eq_err {andMask orMask : UInt16}
    (h : ¬(pdu.functionCode = .maskWriteRegister ∧
      pdu.data.toList = toBeBytes address ++ toBeBytes andMask ++ toBeBytes orMask)) :
    ∃ e, handleMaskWriteRegisterResponse (.masking address andMask orMask) pdu = .err e := by
  rw [handleMaskWriteRegisterResponse]
  dsimp only [OperationMeta.address, OperationMeta.andMask, OperationMeta.orMask]
  rw [handleMaskWriteRegisterRsp]
  by_cases hfc : pdu.functionCode = .maskWriteRegister
  · rw [checkFunctionCode_of_eq hfc, ok_bind, parseMaskWriteRegisterResponse,
      checkFunctionCode_of_eq hfc, ok_bind]
    cases hfields : pdu.maskWriteRegisterFields with
    | panic => exact absurd hfields Pdu.maskWriteRegisterFields_ne_panic
    | err e => exact ⟨_, rfl⟩
    | ok fields =>
      rw [ok_bind]
      by_cases haddress : fields.address = address
      · rw [haddress, bne_self_eq_false, guardErr_false, ok_bind]
        obtain ⟨e, he⟩ := guardEcho_eq_err .invalidAndMask .invalidOrMask
          fun hecho : fields.andMask = andMask ∧ fields.orMask = orMask => by
            have hdata := Pdu.maskWriteRegisterFields_eq_ok.mp hfields
            rw [haddress, hecho.1, hecho.2] at hdata
            exact h ⟨hfc, hdata⟩
        rw [he]
        exact ⟨_, rfl⟩
      · rw [bne_iff_ne.mpr haddress]
        exact ⟨_, rfl⟩
  · rw [checkFunctionCode_of_ne hfc]
    exact ⟨_, rfl⟩

omit [Features] in
lemma handleReadFifoQueueResponse_eq_ok {words : List UInt16}
    (hfc : pdu.functionCode = .readFifoQueue) (hwords : pdu.HoldsFifo words) :
    ∃ copied, copyFront (.replicate maxFifoQueueCountPerPdu 0) words = .ok copied ∧
      handleReadFifoQueueResponse pdu =
        .ok (some (.readFifoQueue ((FifoQueue.new 0).withValues copied words.length))) := by
  have hle : words.length ≤ 31 := hwords.1
  have hbytes : (UInt16.ofNat (2 + 2 * words.length)).toNat = 2 + words.length * 2 := by
    rw [UInt16.toNat_ofNat']
    omega
  have hcount : (UInt16.ofNat words.length).toNat = words.length := by
    rw [UInt16.toNat_ofNat']
    omega
  have hcopy := copyFront_of_le (.replicate maxFifoQueueCountPerPdu (0 : UInt16)) hwords.1
  refine ⟨_, hcopy, ?_⟩
  rw [handleReadFifoQueueResponse, handleReadFifoQueueRsp, checkFunctionCode_of_eq hfc, ok_bind,
    parseReadFifoQueueResponse, checkFunctionCode_of_eq hfc, ok_bind, hwords.fifoPayload_eq,
    ok_bind]
  dsimp only
  rw [hbytes, hcount, flatMap_toBeBytes_length, beWords_flatMap_toBeBytes, Nat.mul_comm 2,
    Nat.add_comm 2, bne_self_eq_false, guardErr_false, ok_bind, guardErr_false, ok_bind,
    decide_eq_false (Nat.not_lt.mpr hwords.1), guardErr_false, ok_bind, ok_bind, hcopy, ok_bind,
    bne_self_eq_false, guardErr_false, ok_bind]
  rfl

omit [Features] in
lemma handleReadFifoQueueResponse_eq_err
    (h : ¬(pdu.functionCode = .readFifoQueue ∧ ∃ words, pdu.HoldsFifo words)) :
    ∃ e, handleReadFifoQueueResponse pdu = .err e := by
  rw [handleReadFifoQueueResponse, handleReadFifoQueueRsp]
  by_cases hfc : pdu.functionCode = .readFifoQueue
  · rw [checkFunctionCode_of_eq hfc, ok_bind]
    refine eq_err_of_ne ?_ fun callback hok => ?_
    · refine bind_ne_panic (bind_ne_panic ?_ fun _ _ => by simp) fun _ _ => by simp
      rw [parseReadFifoQueueResponse, checkFunctionCode_of_eq hfc, ok_bind]
      refine bind_ne_panic Pdu.fifoPayload_ne_panic fun fp _ => ?_
      rw [guardErr_bind_ne_panic]
      intro _
      rw [guardErr_bind_ne_panic]
      intro _
      rw [guardErr_bind_ne_panic]
      intro _
      rw [guard_decide_bind_ne_panic]
      intro hle
      rw [copyFront_of_le _ (Nat.not_lt.mp hle), ok_bind, guardErr_bind_ne_panic]
      simp
    · obtain ⟨_, hok, _⟩ := bind_eq_ok.mp hok
      obtain ⟨_, hok, _⟩ := bind_eq_ok.mp hok
      obtain ⟨_, _, hok⟩ := bind_eq_ok.mp hok
      obtain ⟨fp, hfp, hok⟩ := bind_eq_ok.mp hok
      obtain ⟨_, hlen, hok⟩ := bind_eq_ok.mp hok
      obtain ⟨_, hbytes, hok⟩ := bind_eq_ok.mp hok
      obtain ⟨_, _, hok⟩ := bind_eq_ok.mp hok
      obtain ⟨_, hle, _⟩ := bind_eq_ok.mp hok
      rw [guardErr_eq_ok, bne_eq_false_iff_eq] at hlen hbytes
      rw [guardErr_eq_ok, decide_eq_false_iff_not, Nat.not_lt] at hle
      exact h ⟨hfc, _, Pdu.holdsFifo_of_counts hfp hlen hbytes hle⟩
  · rw [checkFunctionCode_of_ne hfc]
    exact ⟨_, rfl⟩

omit [Features] in
lemma writeFileRecordEchoLoop_ne_panic (payload : List UInt8) (i : Nat) :
    writeFileRecordEchoLoop payload i ≠ .panic := by
  induction i using writeFileRecordEchoLoop.induct payload with
  | case1 i hlt ih =>
    rw [writeFileRecordEchoLoop, if_pos hlt, guard_decide_bind_ne_panic]
    intro h7
    change ¬i + 7 > payload.length at h7
    rw [index_of_lt hlt, ok_bind, guardErr_bind_ne_panic]
    intro _
    rw [u16At_of_lt (by omega), ok_bind]
    dsimp only
    rw [guardErr_bind_ne_panic]
    intro _
    exact ih _
  | case2 i hge =>
    rw [writeFileRecordEchoLoop, if_neg hge]
    simp

omit [Features] in
/-- One round of the loop. -/
lemma writeFileRecordEchoLoop_record (front : List UInt8)
    (fileNumber recordNumber recordLength : UInt16) (tail : List UInt8) :
    writeFileRecordEchoLoop (front ++ fileRecordRefType :: (toBeBytes fileNumber ++
        (toBeBytes recordNumber ++ (toBeBytes recordLength ++ tail)))) front.length =
      if recordLength.toNat * 2 ≤ tail.length then
        writeFileRecordEchoLoop (front ++ fileRecordRefType :: (toBeBytes fileNumber ++
          (toBeBytes recordNumber ++ (toBeBytes recordLength ++ tail))))
          (front.length + (7 + recordLength.toNat * 2))
      else .err .parseError := by
  set payload := front ++ fileRecordRefType :: (toBeBytes fileNumber ++
    (toBeBytes recordNumber ++ (toBeBytes recordLength ++ tail))) with hpayload
  have hlen : payload.length = front.length + (7 + tail.length) := by
    rw [hpayload]
    simp only [List.length_append, List.length_cons, toBeBytes_length]
    omega
  have href : (index payload front.length : Fallible UInt8) = .ok fileRecordRefType := by
    rw [hpayload, ← Nat.add_zero front.length, index_append_add]
    rfl
  have hword : u16At payload (front.length + 5) = .ok recordLength := by
    have h := u16At_append (front ++ fileRecordRefType :: (toBeBytes fileNumber ++
      toBeBytes recordNumber)) tail recordLength
    simp only [List.append_assoc, List.cons_append, List.length_append, List.length_cons,
      toBeBytes_length] at h
    exact h
  rw [writeFileRecordEchoLoop, if_pos (by omega), decide_eq_false (by
    change ¬front.length + 7 > _
    omega), guardErr_false, ok_bind, href, ok_bind, bne_self_eq_false, guardErr_false, ok_bind,
    hword, ok_bind]
  dsimp only
  by_cases hfits : recordLength.toNat * 2 ≤ tail.length
  · rw [if_pos hfits, decide_eq_false (by
      change ¬front.length + (7 + _) > _
      omega)]
    rfl
  · rw [if_neg hfits, decide_eq_true (by
      change front.length + (7 + _) > _
      omega)]
    rfl

omit [Features] in
/-- A sub-request in front. -/
lemma fileRecordEcho_record_iff (fileNumber recordNumber recordLength : UInt16)
    (tail : List UInt8) :
    FileRecordEcho (fileRecordRefType :: (toBeBytes fileNumber ++ (toBeBytes recordNumber ++
        (toBeBytes recordLength ++ tail)))) ↔
      recordLength.toNat * 2 ≤ tail.length ∧
        FileRecordEcho (tail.drop (recordLength.toNat * 2)) := by
  constructor
  · intro h
    generalize hdata : fileRecordRefType :: (toBeBytes fileNumber ++ (toBeBytes recordNumber ++
      (toBeBytes recordLength ++ tail))) = data at h
    cases h with
    | done => cases hdata
    | record fileNumber' recordNumber' recordLength' hwords hrest =>
      obtain ⟨_, hdata⟩ := List.append_inj (List.cons_eq_cons.mp hdata).2 rfl
      obtain ⟨_, hdata⟩ := List.append_inj hdata rfl
      obtain ⟨hlength, rfl⟩ := List.append_inj hdata rfl
      cases toBeBytes_inj.mp hlength
      rw [← hwords, List.drop_left, List.length_append]
      exact ⟨Nat.le_add_right _ _, hrest⟩
  · rintro ⟨hle, hrest⟩
    rw [← List.take_append_drop (recordLength.toNat * 2) tail]
    exact .record _ _ _ (List.length_take_of_le hle) hrest

omit [Features] in
lemma fileRecordEcho_length {data : List UInt8} (h : FileRecordEcho data) (hne : data ≠ []) :
    7 ≤ data.length ∧ data.head? = some fileRecordRefType := by
  cases h with
  | done => exact absurd rfl hne
  | record =>
    refine ⟨?_, rfl⟩
    simp only [List.length_append, List.length_cons, toBeBytes_length]
    omega

omit [Features] in
/-- The loop accepts echoes and nothing else. -/
lemma writeFileRecordEchoLoop_eq_ok (front rest : List UInt8) :
    writeFileRecordEchoLoop (front ++ rest) front.length = .ok () ↔ FileRecordEcho rest := by
  induction hn : rest.length using Nat.strong_induction_on generalizing front rest with
  | _ n ih =>
    by_cases hnil : rest = []
    · rw [hnil, List.append_nil, writeFileRecordEchoLoop, if_neg (Nat.lt_irrefl _)]
      exact iff_of_true rfl .done
    have hlt : front.length < (front ++ rest).length := by
      rw [List.length_append]
      exact Nat.lt_add_of_pos_right (List.length_pos_iff.mpr hnil)
    by_cases hlen : 7 ≤ rest.length
    · obtain ⟨ref, f₁, f₂, r₁, r₂, l₁, l₂, tail, rfl⟩ : ∃ ref f₁ f₂ r₁ r₂ l₁ l₂ tail,
          rest = ref :: f₁ :: f₂ :: r₁ :: r₂ :: l₁ :: l₂ :: tail := by
        match rest, hlen with
        | ref :: f₁ :: f₂ :: r₁ :: r₂ :: l₁ :: l₂ :: tail, _ =>
          exact ⟨ref, f₁, f₂, r₁, r₂, l₁, l₂, tail, rfl⟩
      by_cases href : ref = fileRecordRefType
      · have hrest : f₁ :: f₂ :: r₁ :: r₂ :: l₁ :: l₂ :: tail =
            toBeBytes (fromBeBytes f₁ f₂) ++ (toBeBytes (fromBeBytes r₁ r₂) ++
              (toBeBytes (fromBeBytes l₁ l₂) ++ tail)) := by
          simp only [toBeBytes_fromBeBytes]
          rfl
        rw [href, hrest, writeFileRecordEchoLoop_record, fileRecordEcho_record_iff]
        split
        case isTrue hfits =>
          have hnext := ih (tail.drop ((fromBeBytes l₁ l₂).toNat * 2)).length (by
            rw [← hn, List.length_drop]
            simp only [List.length_cons]
            omega) (front ++ fileRecordRefType :: (toBeBytes (fromBeBytes f₁ f₂) ++
              (toBeBytes (fromBeBytes r₁ r₂) ++ (toBeBytes (fromBeBytes l₁ l₂) ++
                tail.take ((fromBeBytes l₁ l₂).toNat * 2))))) _ rfl
          rw [and_iff_right hfits, ← hnext]
          simp only [List.append_assoc, List.cons_append, List.take_append_drop,
            List.length_append, List.length_cons, toBeBytes_length, List.length_take_of_le hfits]
          rw [show front.length + (7 + (fromBeBytes l₁ l₂).toNat * 2) =
            front.length + (2 + (2 + (2 + (fromBeBytes l₁ l₂).toNat * 2)) + 1) by omega]
        case isFalse hfits => exact iff_of_false nofun fun h => hfits h.1
      · have hindex : (index (front ++ ref :: f₁ :: f₂ :: r₁ :: r₂ :: l₁ :: l₂ :: tail)
            front.length : Fallible UInt8) = .ok ref := by
          rw [← Nat.add_zero front.length, index_append_add]
          rfl
        rw [writeFileRecordEchoLoop, if_pos hlt, decide_eq_false (by
          change ¬front.length + 7 > _
          rw [List.length_append]
          omega), guardErr_false, ok_bind, hindex, ok_bind, bne_iff_ne.mpr href]
        exact iff_of_false nofun fun h =>
          href (Option.some.inj (fileRecordEcho_length h hnil).2)
    · rw [writeFileRecordEchoLoop, if_pos hlt, decide_eq_true (by
        change front.length + 7 > _
        rw [List.length_append]
        omega)]
      exact iff_of_false nofun fun h => hlen (fileRecordEcho_length h hnil).1

omit [Features] in
lemma handleWriteFileRecordResponse_eq_ok (hfc : pdu.functionCode = .writeFileRecord)
    (hbytes : pdu.CountsBytes bytes) (hecho : FileRecordEcho bytes) :
    handleWriteFileRecordResponse pdu = .ok (some .writeFileRecord) := by
  have hloop : writeFileRecordEchoLoop bytes 0 = .ok () :=
    (writeFileRecordEchoLoop_eq_ok [] bytes).mpr hecho
  rw [handleWriteFileRecordResponse, handleWriteFileRecordRsp, checkFunctionCode_of_eq hfc, ok_bind,
    parseWriteFileRecordResponse, checkFunctionCode_of_eq hfc, ok_bind, hbytes.byteCountPayload_eq,
    ok_bind, hloop]
  rfl

omit [Features] in
lemma handleWriteFileRecordResponse_eq_err (h : ¬(pdu.functionCode = .writeFileRecord ∧
      ∃ bytes, pdu.CountsBytes bytes ∧ FileRecordEcho bytes)) :
    ∃ e, handleWriteFileRecordResponse pdu = .err e := by
  rw [handleWriteFileRecordResponse, handleWriteFileRecordRsp]
  by_cases hfc : pdu.functionCode = .writeFileRecord
  · rw [checkFunctionCode_of_eq hfc, ok_bind, parseWriteFileRecordResponse,
      checkFunctionCode_of_eq hfc, ok_bind]
    by_cases hbytes : ∃ bytes, pdu.CountsBytes bytes
    · obtain ⟨bytes, hbytes⟩ := hbytes
      rw [hbytes.byteCountPayload_eq, ok_bind]
      cases hloop : writeFileRecordEchoLoop bytes 0 with
      | panic => exact absurd hloop (writeFileRecordEchoLoop_ne_panic _ _)
      | err e => exact ⟨_, rfl⟩
      | ok _ => exact absurd ⟨hfc, bytes, hbytes,
          (writeFileRecordEchoLoop_eq_ok [] bytes).mp hloop⟩ h
    · obtain ⟨e, he⟩ := Pdu.byteCountPayload_eq_err (not_exists.mp hbytes)
      rw [he]
      exact ⟨_, rfl⟩
  · rw [checkFunctionCode_of_ne hfc]
    exact ⟨_, rfl⟩

end Handlers

end ModbusRs
