import ModbusRs.Async.ClientRequests
import ModbusRs.Core.Layouts

/-!
# What the async client decodes

The decoders look at the function code and the data of a response, without the request. Each kind
of `ClientResponse` comes from a few layouts; which ones is stated here, with the values.
-/

namespace ModbusRs

open Outcome

namespace Pdu

variable (p : Pdu)

/-- The responses that decode to coils. -/
def HoldsCoils : Prop :=
  match p.functionCode with
  | .readCoils => ∃ bytes, p.CountsBytes bytes ∧ bytes.length ≤ maxCoilBytes
  | .writeSingleCoil => ∃ address value, p.HoldsPair address value ∧ address ≠ 65535
  | .writeMultipleCoils =>
    ∃ address quantity, p.HoldsPair address quantity ∧ quantity.toNat ≤ maxCoilsPerPdu
  | _ => False

/-- The responses that decode to discrete inputs. -/
def HoldsInputs : Prop :=
  p.functionCode = .readDiscreteInputs ∧
    ∃ bytes, p.CountsBytes bytes ∧ bytes.length ≤ maxCoilBytes

/-- The responses that decode to holding registers. -/
def HoldsRegisters : Prop :=
  match p.functionCode with
  | .readHoldingRegisters | .readWriteMultipleRegisters =>
    ∃ bytes, p.CountsBytes bytes ∧ bytes.length % 2 = 0
  | .writeMultipleRegisters =>
    ∃ address quantity, p.HoldsPair address quantity ∧ quantity.toNat ≤ maxRegistersPerPdu
  | _ => False

/-- The responses that decode to input registers. -/
def HoldsInputRegisters : Prop :=
  p.functionCode = .readInputRegisters ∧ ∃ bytes, p.CountsBytes bytes ∧ bytes.length % 2 = 0

/-- The response of Write Single Coil at the last address. -/
def EchoesLastCoil : Prop :=
  p.functionCode = .writeSingleCoil ∧ ∃ value, p.HoldsPair 65535 value

end Pdu

section Decode

variable [Features] {pdu : Pdu} {bytes : List UInt8} {address quantity value : UInt16}

/-! ### Coils and discrete inputs -/

omit [Features] in
/-- The bits of a response, as many as fill its bytes. -/
lemma bitCount_toNat (h : pdu.CountsBytes bytes) :
    (UInt16.ofNat ((UInt8.ofNat bytes.length).toNat * 8)).toNat = bytes.length * 8 := by
  have hle := h.length_le
  rw [h.count_toNat, UInt16.toNat_ofNat']
  omega

omit [Features] in
/-- A block that loads whole bytes. -/
lemma BitBlock.withValues_bytes (block : BitBlock)
    (hquantity : block.quantity.toNat = bytes.length * 8) :
    ∃ raw, block.withValues bytes block.quantity = .ok raw ∧ raw.quantity = block.quantity ∧
      raw.values.toList.take bytes.length = bytes := by
  have hle : block.quantity.toNat ≤ 2000 := block.quantity_le
  have hbytes : (block.quantity.toNat + 7) / 8 = bytes.length := by omega
  have hcopy := copyFront_of_le block.values (show bytes.length ≤ 250 by omega)
  rw [withValues, bne_self_eq_false, guardErr_false, ok_bind, hbytes,
    slice_of_le (Nat.zero_le _) (Nat.le_refl _), ok_bind, List.drop_zero, List.take_length, hcopy,
    ok_bind]
  exact ⟨_, rfl, rfl, copyFront_take hcopy⟩

/-- The decoder of both bit reads. -/
def decodeBits (wrap : BitBlock → ClientResponse) (pdu : Pdu) : Fallible ClientResponse := do
  let bcp ← pdu.byteCountPayload
  let bitCount := UInt16.ofNat (bcp.byteCount.toNat * 8)
  let block ← lift (BitBlock.new 0 bitCount)
  let block ← block.withValues bcp.payload bitCount
  pure (wrap block)

omit [Features] in
lemma decodeBits_eq_ok (wrap : BitBlock → ClientResponse) (h : pdu.CountsBytes bytes)
    (hle : bytes.length ≤ maxCoilBytes) :
    ∃ raw, decodeBits wrap pdu = .ok (wrap raw) ∧ (raw.quantity.toNat + 7) / 8 = bytes.length ∧
      raw.values.toList.take bytes.length = bytes := by
  have hcount := bitCount_toNat h
  have hquantity : (UInt16.ofNat ((UInt8.ofNat bytes.length).toNat * 8)).toNat ≤
      maxCoilsPerPdu := by
    change bytes.length ≤ 250 at hle
    change _ ≤ 2000
    omega
  obtain ⟨raw, hraw, hbits, htake⟩ :=
    BitBlock.withValues_bytes ⟨0, _, .replicate _ 0, hquantity⟩ hcount
  rw [decodeBits, h.byteCountPayload_eq, ok_bind]
  dsimp only at hraw hbits ⊢
  rw [BitBlock.new_of_le 0 hquantity, lift_ok, ok_bind, hraw]
  refine ⟨raw, rfl, ?_, htake⟩
  rw [hbits, hcount]
  omega

omit [Features] in
lemma decodeBits_eq_err (wrap : BitBlock → ClientResponse)
    (h : ∀ bytes, pdu.CountsBytes bytes → maxCoilBytes < bytes.length) :
    ∃ e, decodeBits wrap pdu = .err e := by
  by_cases hbytes : ∃ bytes, pdu.CountsBytes bytes
  · obtain ⟨bytes, hbytes⟩ := hbytes
    have hgt : 250 < bytes.length := h bytes hbytes
    have hcount := bitCount_toNat hbytes
    rw [decodeBits, hbytes.byteCountPayload_eq, ok_bind]
    dsimp only
    rw [BitBlock.new_of_gt 0 (by
      change 2000 < _
      omega)]
    exact ⟨_, rfl⟩
  · obtain ⟨e, he⟩ := Pdu.byteCountPayload_eq_err (not_exists.mp hbytes)
    rw [decodeBits, he]
    exact ⟨e, rfl⟩

/-! ### The echo of a coil -/

lemma checkAddress_first (hlast : address ≠ 65535) :
    BitBlock.checkAddress address 1 address = .ok () := by
  have hne : address.toNat ≠ 65535 := fun h => hlast (UInt16.toNat_inj.mp h)
  have hlt := address.toNat_lt
  have hcheck : BitBlock.checkAddress address 1 (address + UInt16.ofNat 0) = .ok () :=
    BitBlock.checkAddress_add (show address.toNat + 1 ≤ 65535 by omega) (by decide)
  rwa [show address + UInt16.ofNat 0 = address from UInt16.add_zero _] at hcheck

lemma checkAddress_last :
    BitBlock.checkAddress 65535 1 65535 =
      if Features.overflowChecks then .panic else .err .invalidAddress := by
  rw [BitBlock.checkAddress, decide_eq_false (by decide), guardErr_false, ok_bind, addU16]
  by_cases h : Features.overflowChecks = true
  · rw [if_pos ⟨h, by decide⟩, if_pos h]
    rfl
  · rw [if_neg (fun h' => h h'.1), if_neg h]
    rfl

/-- The block of a single coil, before it is set. -/
def clearCoil (address : UInt16) : Coils := ⟨address, 1, .replicate _ 0, by decide⟩

lemma clearCoil_setValue (hlast : address ≠ 65535) (bit : Bool) :
    ∃ coils, (clearCoil address).setValue address bit = .ok coils ∧
      coils.fromAddress = address ∧ coils.value coils.fromAddress = .ok bit := by
  have hcheck := checkAddress_first hlast
  have hindex : (address - address).toNat = 0 := by
    rw [UInt16.sub_self]
    rfl
  rw [BitBlock.setValue, clearCoil, hcheck, ok_bind]
  dsimp only
  rw [hindex, index_of_lt (by
    rw [Vector.length_toList]
    decide), ok_bind]
  refine ⟨_, rfl, rfl, ?_⟩
  rw [BitBlock.value]
  dsimp only
  rw [hcheck, ok_bind, hindex, index_of_lt (by
    rw [Vector.length_toList]
    decide), ok_bind, Vector.getElem_toList, Vector.getElem_toList, Vector.getElem_replicate,
    Vector.getElem_setIfInBounds_self]
  cases bit <;> rfl

lemma decodeWriteSingleCoil_eq_ok (h : pdu.HoldsPair address value) (hlast : address ≠ 65535) :
    ∃ coils : Coils, decodeWriteSingleCoil pdu = .ok (.coils coils) ∧
      coils.fromAddress = address ∧ coils.value coils.fromAddress = .ok (value == 0xFF00) := by
  obtain ⟨coils, hset, hfrom, hvalue⟩ := clearCoil_setValue hlast (value == 0xFF00)
  refine ⟨coils, ?_, hfrom, hvalue⟩
  rw [decodeWriteSingleCoil, h.writeSingleU16Fields_eq, ok_bind]
  dsimp only
  rw [BitBlock.new_of_le address (by decide), lift_ok, ok_bind]
  change (clearCoil address).setValue address (value == 0xFF00) >>= _ = _
  rw [hset]
  rfl

lemma decodeWriteSingleCoil_last (h : pdu.HoldsPair 65535 value) :
    decodeWriteSingleCoil pdu =
      if Features.overflowChecks then .panic else .err .invalidAddress := by
  rw [decodeWriteSingleCoil, h.writeSingleU16Fields_eq, ok_bind]
  dsimp only
  rw [BitBlock.new_of_le 65535 (by decide), lift_ok, ok_bind, BitBlock.setValue,
    checkAddress_last]
  by_cases h : Features.overflowChecks = true
  · rw [if_pos h, if_pos h]
    rfl
  · rw [if_neg h, if_neg h]
    rfl

omit [Features] in
lemma decodeWriteMultipleCoils_eq_ok (h : pdu.HoldsPair address quantity)
    (hle : quantity.toNat ≤ maxCoilsPerPdu) :
    decodeWriteMultipleCoils pdu = .ok (.coils ⟨address, quantity, .replicate _ 0, hle⟩) := by
  rw [decodeWriteMultipleCoils, h.readWindow_eq, ok_bind]
  dsimp only
  rw [BitBlock.new_of_le address hle]
  rfl

omit [Features] in
lemma decodeWriteMultipleCoils_eq_err
    (h : ∀ address quantity, pdu.HoldsPair address quantity → maxCoilsPerPdu < quantity.toNat) :
    ∃ e, decodeWriteMultipleCoils pdu = .err e := by
  by_cases hpair : ∃ address quantity, pdu.HoldsPair address quantity
  · obtain ⟨address, quantity, hpair⟩ := hpair
    rw [decodeWriteMultipleCoils, hpair.readWindow_eq, ok_bind]
    dsimp only
    rw [BitBlock.new_of_gt address (h address quantity hpair)]
    exact ⟨_, rfl⟩
  · obtain ⟨e, he⟩ := Pdu.readWindow_eq_err fun address quantity h => hpair ⟨address, quantity, h⟩
    rw [decodeWriteMultipleCoils, he]
    exact ⟨e, rfl⟩

/-! ### Registers -/

/-- The loop sets the registers from `i` on. -/
lemma setRegisters_eq_ok (values : List UInt16) (i : UInt16) (registers : HoldingRegisters)
    (hfrom : registers.fromAddress = 0) (hle : i.toNat + values.length ≤ registers.quantity.toNat) :
    ∃ filled, setRegisters values i registers = .ok filled ∧
      filled.values.toList.take (i.toNat + values.length) =
        registers.values.toList.take i.toNat ++ values := by
  induction values generalizing i registers with
  | nil => exact ⟨registers, rfl, by simp⟩
  | cons value values ih =>
    obtain ⟨start, quantity, current, hquantity⟩ := registers
    change start = 0 at hfrom
    subst hfrom
    change quantity.toNat ≤ 125 at hquantity
    rw [List.length_cons] at hle
    dsimp only at hle
    have hlt : i.toNat < quantity.toNat := by omega
    have hnext : (i + 1).toNat = i.toNat + 1 := by
      have hone : (1 : UInt16).toNat = 1 := rfl
      rw [UInt16.toNat_add, hone]
      omega
    have hrange : (0 : UInt16).toNat + quantity.toNat ≤ 65535 := by
      rw [UInt16.toNat_zero]
      omega
    have hcheck := BitBlock.checkAddress_add hrange hlt
    have hindex := add_ofNat_sub hrange hlt
    rw [UInt16.zero_add, UInt16.ofNat_toNat] at hcheck hindex
    rw [setRegisters, Registers.setValue]
    dsimp only
    rw [hcheck, ok_bind, hindex, if_pos (show i.toNat < 125 by omega), pure_def, ok_bind]
    obtain ⟨filled, hfilled, htake⟩ := ih (i + 1)
      ⟨0, quantity, current.setIfInBounds i.toNat value, hquantity⟩ rfl (by
        rw [hnext]
        dsimp only
        omega)
    refine ⟨filled, hfilled, ?_⟩
    rw [hnext] at htake
    rw [List.length_cons, Nat.add_comm values.length, ← Nat.add_assoc, htake]
    have hlen : i.toNat < current.toList.length := by
      rw [Vector.length_toList]
      exact Nat.lt_of_lt_of_le hlt hquantity
    rw [Vector.toList_setIfInBounds, List.take_add_one, List.getElem?_set_self hlen,
      List.take_set_of_le (Nat.le_refl _), List.append_assoc]
    rfl

omit [Features] in
/-- The registers of a response with a whole number of words. -/
lemma wordCount_toNat (h : pdu.CountsBytes bytes) :
    ((UInt8.ofNat bytes.length).toUInt16 / 2).toNat = bytes.length / 2 := by
  have htwo : (2 : UInt16).toNat = 2 := rfl
  rw [UInt16.toNat_div, UInt8.toNat_toUInt16, h.count_toNat, htwo]

omit [Features] in
lemma oddCount_eq (h : pdu.CountsBytes bytes) :
    (UInt8.ofNat bytes.length % 2 != 0) = decide (bytes.length % 2 ≠ 0) := by
  have htwo : (2 : UInt8).toNat = 2 := rfl
  have hzero : (0 : UInt8).toNat = 0 := rfl
  rw [Bool.eq_iff_iff, bne_iff_ne, decide_eq_true_iff, Ne, ← UInt8.toNat_inj, UInt8.toNat_mod,
    h.count_toNat, htwo, hzero]

lemma decodeReadHoldingRegisters_eq_ok (h : pdu.CountsBytes bytes)
    (heven : bytes.length % 2 = 0) :
    ∃ raw : HoldingRegisters, decodeReadHoldingRegisters pdu = .ok (.holdingRegisters raw) ∧
      raw.values.toList.take (beWords bytes).length = beWords bytes := by
  have hcount := wordCount_toNat h
  have hle := h.length_le
  have hquantity : ((UInt8.ofNat bytes.length).toUInt16 / 2).toNat ≤ maxRegistersPerPdu := by
    change _ ≤ 125
    omega
  obtain ⟨raw, hraw, htake⟩ := setRegisters_eq_ok (beWords bytes) 0
    ⟨0, (UInt8.ofNat bytes.length).toUInt16 / 2, .replicate _ 0, hquantity⟩ rfl (by
      have hzero : (0 : UInt16).toNat = 0 := rfl
      rw [hzero, Nat.zero_add, beWords_length, hcount])
  rw [UInt16.toNat_zero, Nat.zero_add, List.take_zero, List.nil_append] at htake
  refine ⟨raw, ?_, htake⟩
  rw [decodeReadHoldingRegisters, h.byteCountPayload_eq, ok_bind]
  dsimp only
  rw [oddCount_eq h, decide_eq_false (not_not_intro heven), guardErr_false, ok_bind,
    Registers.new_of_le 0 hquantity, lift_ok, ok_bind, hraw]
  rfl

lemma decodeReadHoldingRegisters_eq_err
    (h : ∀ bytes, pdu.CountsBytes bytes → bytes.length % 2 ≠ 0) :
    ∃ e, decodeReadHoldingRegisters pdu = .err e := by
  by_cases hbytes : ∃ bytes, pdu.CountsBytes bytes
  · obtain ⟨bytes, hbytes⟩ := hbytes
    rw [decodeReadHoldingRegisters, hbytes.byteCountPayload_eq, ok_bind]
    dsimp only
    rw [oddCount_eq hbytes, decide_eq_true (h bytes hbytes)]
    exact ⟨_, rfl⟩
  · obtain ⟨e, he⟩ := Pdu.byteCountPayload_eq_err (not_exists.mp hbytes)
    rw [decodeReadHoldingRegisters, he]
    exact ⟨e, rfl⟩

omit [Features] in
lemma decodeReadInputRegisters_eq_ok (h : pdu.CountsBytes bytes) (heven : bytes.length % 2 = 0) :
    ∃ raw : InputRegisters, decodeReadInputRegisters pdu = .ok (.inputRegisters raw) ∧
      raw.values.toList.take (beWords bytes).length = beWords bytes := by
  have hcount := wordCount_toNat h
  have hle := h.length_le
  have hwords : (beWords bytes).length = bytes.length / 2 := beWords_length bytes
  have hquantity : ((UInt8.ofNat bytes.length).toUInt16 / 2).toNat ≤ maxRegistersPerPdu := by
    change _ ≤ 125
    omega
  have hcopy := copyFront_of_le (.replicate maxRegistersPerPdu (0 : UInt16))
    (show (beWords bytes).length ≤ maxRegistersPerPdu by
      change _ ≤ 125
      omega)
  obtain ⟨raw, hraw, _, _, htake⟩ := Registers.withValues_ok
    ⟨0, (UInt8.ofNat bytes.length).toUInt16 / 2, .replicate _ 0, hquantity⟩
    (hwords.trans hcount.symm)
  refine ⟨raw, ?_, htake⟩
  rw [decodeReadInputRegisters, h.byteCountPayload_eq, ok_bind]
  dsimp only at hraw ⊢
  rw [oddCount_eq h, decide_eq_false (not_not_intro heven), guardErr_false, ok_bind,
    List.take_of_length_le (by
      change _ ≤ 125
      omega), hcopy, ok_bind, Registers.new_of_le 0 hquantity, lift_ok, ok_bind,
    slice_of_le (Nat.zero_le _) (by
      rw [Vector.length_toList]
      exact hquantity), ok_bind, List.drop_zero, hcount, ← hwords, copyFront_take hcopy, hraw]
  rfl

omit [Features] in
lemma decodeReadInputRegisters_eq_err
    (h : ∀ bytes, pdu.CountsBytes bytes → bytes.length % 2 ≠ 0) :
    ∃ e, decodeReadInputRegisters pdu = .err e := by
  by_cases hbytes : ∃ bytes, pdu.CountsBytes bytes
  · obtain ⟨bytes, hbytes⟩ := hbytes
    rw [decodeReadInputRegisters, hbytes.byteCountPayload_eq, ok_bind]
    dsimp only
    rw [oddCount_eq hbytes, decide_eq_true (h bytes hbytes)]
    exact ⟨_, rfl⟩
  · obtain ⟨e, he⟩ := Pdu.byteCountPayload_eq_err (not_exists.mp hbytes)
    rw [decodeReadInputRegisters, he]
    exact ⟨e, rfl⟩

omit [Features] in
lemma decodeWriteMultipleRegisters_eq_ok (h : pdu.HoldsPair address quantity)
    (hle : quantity.toNat ≤ maxRegistersPerPdu) :
    decodeWriteMultipleRegisters pdu =
      .ok (.holdingRegisters ⟨address, quantity, .replicate _ 0, hle⟩) := by
  rw [decodeWriteMultipleRegisters, h.readWindow_eq, ok_bind]
  dsimp only
  rw [Registers.new_of_le address hle]
  rfl

omit [Features] in
lemma decodeWriteMultipleRegisters_eq_err
    (h : ∀ address quantity, pdu.HoldsPair address quantity →
      maxRegistersPerPdu < quantity.toNat) :
    ∃ e, decodeWriteMultipleRegisters pdu = .err e := by
  by_cases hpair : ∃ address quantity, pdu.HoldsPair address quantity
  · obtain ⟨address, quantity, hpair⟩ := hpair
    rw [decodeWriteMultipleRegisters, hpair.readWindow_eq, ok_bind]
    dsimp only
    rw [Registers.new_of_gt address (h address quantity hpair)]
    exact ⟨_, rfl⟩
  · obtain ⟨e, he⟩ := Pdu.readWindow_eq_err fun address quantity h => hpair ⟨address, quantity, h⟩
    rw [decodeWriteMultipleRegisters, he]
    exact ⟨e, rfl⟩

/-! ### Where a decoded response comes from -/

/-- The function codes of a kind of response. -/
def ClientResponse.comesFrom : ClientResponse → FunctionCode → Bool
  | .coils _, fc => fc = .readCoils ∨ fc = .writeSingleCoil ∨ fc = .writeMultipleCoils
  | .discreteInputs _, fc => fc = .readDiscreteInputs
  | .holdingRegisters _, fc =>
    fc = .readHoldingRegisters ∨ fc = .readWriteMultipleRegisters ∨ fc = .writeMultipleRegisters
  | .inputRegisters _, fc => fc = .readInputRegisters
  | .singleRegisterWrite _ _, fc => fc = .writeSingleRegister
  | .maskWriteRegister, fc => fc = .maskWriteRegister
  | .fifoQueue _, fc => fc = .readFifoQueue
  | .fileRecordRead _, fc => fc = .readFileRecord
  | .fileRecordWrite, fc => fc = .writeFileRecord
  | .deviceIdentification _, fc => fc = .encapsulatedInterfaceTransport
  | .encapsulatedInterfaceTransport _ _, fc => fc = .encapsulatedInterfaceTransport
  | .exceptionStatus _, fc => fc = .readExceptionStatus
  | .diagnosticsData _ _, fc => fc = .diagnostics
  | .commEventCounter _ _, fc => fc = .getCommEventCounter
  | .commEventLog _ _ _ _, fc => fc = .getCommEventLog
  | .reportServerId _, fc => fc = .reportServerId

lemma decodePdu_comesFrom {response : ClientResponse} (h : decodePdu pdu = .ok response) :
    response.comesFrom pdu.functionCode = true := by
  unfold decodePdu at h
  split at h
  case h_10 hfc | h_13 hfc =>
    cases h
    simp [ClientResponse.comesFrom, hfc]
  case h_7 hfc | h_15 hfc | h_17 hfc =>
    obtain ⟨_, _, h⟩ := bind_eq_ok.mp h
    cases h
    simp [ClientResponse.comesFrom, hfc]
  case h_3 hfc | h_8 hfc | h_12 hfc | h_19 hfc =>
    obtain ⟨_, _, h⟩ := bind_eq_ok.mp h
    obtain ⟨_, _, h⟩ := bind_eq_ok.mp h
    cases h
    simp [ClientResponse.comesFrom, hfc]
  case h_1 hfc | h_2 hfc | h_4 hfc | h_16 hfc =>
    obtain ⟨_, _, h⟩ := bind_eq_ok.mp h
    obtain ⟨_, _, h⟩ := bind_eq_ok.mp h
    obtain ⟨_, _, h⟩ := bind_eq_ok.mp h
    cases h
    simp [ClientResponse.comesFrom, hfc]
  case h_5 hfc | h_9 hfc =>
    obtain ⟨_, _, h⟩ := bind_eq_ok.mp h
    obtain ⟨_, _, h⟩ := bind_eq_ok.mp h
    obtain ⟨_, _, h⟩ := bind_eq_ok.mp h
    obtain ⟨_, _, h⟩ := bind_eq_ok.mp h
    cases h
    simp [ClientResponse.comesFrom, hfc]
  case h_11 hfc =>
    obtain ⟨_, _, h⟩ := bind_eq_ok.mp h
    obtain ⟨_, _, h⟩ := bind_eq_ok.mp h
    obtain ⟨_, _, h⟩ := bind_eq_ok.mp h
    obtain ⟨_, _, h⟩ := bind_eq_ok.mp h
    obtain ⟨_, _, h⟩ := bind_eq_ok.mp h
    cases h
    simp [ClientResponse.comesFrom, hfc]
  case h_6 hfc | h_18 hfc =>
    obtain ⟨_, _, h⟩ := bind_eq_ok.mp h
    obtain ⟨_, _, h⟩ := bind_eq_ok.mp h
    obtain ⟨_, _, h⟩ := bind_eq_ok.mp h
    obtain ⟨_, _, h⟩ := bind_eq_ok.mp h
    obtain ⟨_, _, h⟩ := bind_eq_ok.mp h
    obtain ⟨_, _, h⟩ := bind_eq_ok.mp h
    cases h
    simp [ClientResponse.comesFrom, hfc]
  case h_14 hfc =>
    obtain ⟨mtp, _, h⟩ := bind_eq_ok.mp h
    split at h
    · obtain ⟨_, _, h⟩ := bind_eq_ok.mp h
      obtain ⟨_, _, h⟩ := bind_eq_ok.mp h
      obtain ⟨_, _, h⟩ := bind_eq_ok.mp h
      cases h
      simp [ClientResponse.comesFrom, hfc]
    · obtain ⟨_, _, h⟩ := bind_eq_ok.mp h
      obtain ⟨_, _, h⟩ := bind_eq_ok.mp h
      cases h
      simp [ClientResponse.comesFrom, hfc]
  case h_20 => cases h

/-! ### Panics -/

omit [Features] in
lemma decodeReadFifoQueue_eq_ok {words : List UInt16} (h : pdu.HoldsFifo words) :
    ∃ copied, copyFront (.replicate maxFifoQueueCountPerPdu 0) words = .ok copied ∧
      decodeReadFifoQueue pdu =
        .ok (.fifoQueue ((FifoQueue.new 0).withValues copied words.length)) := by
  have hle : words.length ≤ 31 := h.1
  have hbytes : (UInt16.ofNat (2 + 2 * words.length)).toNat = 2 + words.length * 2 := by
    rw [UInt16.toNat_ofNat']
    omega
  have hcount : (UInt16.ofNat words.length).toNat = words.length := by
    rw [UInt16.toNat_ofNat']
    omega
  have hcopy := copyFront_of_le (.replicate maxFifoQueueCountPerPdu (0 : UInt16)) h.1
  refine ⟨_, hcopy, ?_⟩
  rw [decodeReadFifoQueue, h.fifoPayload_eq, ok_bind]
  dsimp only
  rw [hbytes, hcount, flatMap_toBeBytes_length, beWords_flatMap_toBeBytes, Nat.mul_comm 2,
    Nat.add_comm 2, bne_self_eq_false, guardErr_false, ok_bind, guardErr_false, ok_bind,
    decide_eq_false (Nat.not_lt.mpr h.1), guardErr_false, ok_bind, hcopy, ok_bind]
  rfl

omit [Features] in
lemma decodeReadFifoQueue_eq_ok_iff :
    (∃ response, decodeReadFifoQueue pdu = .ok response) ↔ ∃ words, pdu.HoldsFifo words := by
  constructor
  · rintro ⟨response, h⟩
    obtain ⟨fp, hfp, h⟩ := bind_eq_ok.mp h
    obtain ⟨_, hlen, h⟩ := bind_eq_ok.mp h
    obtain ⟨_, hbytes, h⟩ := bind_eq_ok.mp h
    obtain ⟨_, hwords, _⟩ := bind_eq_ok.mp h
    rw [guardErr_eq_ok, bne_eq_false_iff_eq] at hlen hbytes
    rw [guardErr_eq_ok, decide_eq_false_iff_not, Nat.not_lt] at hwords
    exact ⟨_, Pdu.holdsFifo_of_counts hfp hlen hbytes hwords⟩
  · rintro ⟨words, hwords⟩
    obtain ⟨copied, _, hfifo⟩ := decodeReadFifoQueue_eq_ok hwords
    exact ⟨_, hfifo⟩

omit [Features] in
lemma decodeReadFifoQueue_ne_panic : decodeReadFifoQueue pdu ≠ .panic := by
  refine bind_ne_panic Pdu.fifoPayload_ne_panic fun fp _ => ?_
  rw [guardErr_bind_ne_panic]
  intro _
  rw [guardErr_bind_ne_panic]
  intro _
  rw [guard_decide_bind_ne_panic]
  intro hle
  rw [copyFront_of_le _ (Nat.not_lt.mp hle), ok_bind]
  simp

omit [Features] in
lemma fileRecordLoop_ne_panic (payload : List UInt8) (i : Nat)
    (out : HVec SubRequestParams maxSubRequestsPerPdu) :
    fileRecordLoop payload i out ≠ .panic := by
  induction i, out using fileRecordLoop.induct payload with
  | case1 i out hlt ih =>
    rw [fileRecordLoop, if_pos hlt, guard_decide_bind_ne_panic]
    intro h2
    rw [index_of_lt hlt, ok_bind, index_of_lt (by omega), ok_bind, guardErr_bind_ne_panic]
    intro _
    rw [guard_decide_bind_ne_panic]
    intro hpos
    rw [guard_decide_bind_ne_panic]
    intro hend
    have hpos' : 1 ≤ payload[i].toNat := by
      rw [UInt8.lt_iff_toNat_lt] at hpos
      exact Nat.not_lt.mp hpos
    rw [slice_of_le (by omega) (by omega), ok_bind, guardErr_bind_ne_panic]
    intro _
    rw [lift_bind_ne_panic]
    intro recordData _
    rw [lift_bind_ne_panic]
    intro out' _
    exact ih _ out'
  | case2 i out hge =>
    rw [fileRecordLoop, if_neg hge]
    simp

omit [Features] in
lemma walkObjects_ne_panic (data : List UInt8) (count offset : Nat) :
    walkObjects data count offset ≠ .panic := by
  induction count generalizing offset with
  | zero => simp [walkObjects]
  | succ count ih =>
    rw [walkObjects, guard_decide_bind_ne_panic]
    intro h
    rw [index_of_lt (by omega), ok_bind, guardErr_bind_ne_panic]
    intro _
    exact ih _

omit [Features] in
lemma readDeviceIdFields_ne_panic : pdu.readDeviceIdFields ≠ .panic := by
  have hmax : pdu.data.toList.length ≤ maxPduDataLen := pdu.data.length_le
  rw [Pdu.readDeviceIdFields, guard_decide_bind_ne_panic, Pdu.dataLen]
  intro h
  dsimp only
  rw [index_of_lt (by omega), ok_bind]
  refine bind_ne_panic (walkObjects_ne_panic _ _ _) fun _ _ => ?_
  rw [guardErr_bind_ne_panic]
  intro _
  rw [slice_of_le (by omega) (Nat.le_refl _), ok_bind, copyFront_of_le _ (by
    rw [List.take_length, List.length_drop]
    omega), ok_bind, index_of_lt (by omega), ok_bind, index_of_lt (by omega), ok_bind,
    index_of_lt (by omega), ok_bind, index_of_lt (by omega), ok_bind, index_of_lt (by omega)]
  simp

omit [Features] in
lemma decodeBits_ne_panic (wrap : BitBlock → ClientResponse) : decodeBits wrap pdu ≠ .panic := by
  by_cases h : ∃ bytes, pdu.CountsBytes bytes ∧ bytes.length ≤ maxCoilBytes
  · obtain ⟨bytes, hbytes, hle⟩ := h
    obtain ⟨raw, hraw, _⟩ := decodeBits_eq_ok wrap hbytes hle
    simp [hraw]
  · obtain ⟨e, he⟩ := decodeBits_eq_err wrap fun bytes hbytes =>
      Nat.lt_of_not_le fun hle => h ⟨bytes, hbytes, hle⟩
    simp [he]

lemma decodeReadHoldingRegisters_ne_panic : decodeReadHoldingRegisters pdu ≠ .panic := by
  by_cases h : ∃ bytes, pdu.CountsBytes bytes ∧ bytes.length % 2 = 0
  · obtain ⟨bytes, hbytes, heven⟩ := h
    obtain ⟨raw, hraw, _⟩ := decodeReadHoldingRegisters_eq_ok hbytes heven
    simp [hraw]
  · obtain ⟨e, he⟩ := decodeReadHoldingRegisters_eq_err fun bytes hbytes heven =>
      h ⟨bytes, hbytes, heven⟩
    simp [he]

omit [Features] in
lemma decodeReadInputRegisters_ne_panic : decodeReadInputRegisters pdu ≠ .panic := by
  by_cases h : ∃ bytes, pdu.CountsBytes bytes ∧ bytes.length % 2 = 0
  · obtain ⟨bytes, hbytes, heven⟩ := h
    obtain ⟨raw, hraw, _⟩ := decodeReadInputRegisters_eq_ok hbytes heven
    simp [hraw]
  · obtain ⟨e, he⟩ := decodeReadInputRegisters_eq_err fun bytes hbytes heven =>
      h ⟨bytes, hbytes, heven⟩
    simp [he]

lemma decodeWriteSingleCoil_eq_panic :
    decodeWriteSingleCoil pdu = .panic ↔
      Features.overflowChecks = true ∧ ∃ value, pdu.HoldsPair 65535 value := by
  by_cases hpair : ∃ address value, pdu.HoldsPair address value
  · obtain ⟨address, value, hpair⟩ := hpair
    by_cases hlast : address = 65535
    · subst hlast
      rw [decodeWriteSingleCoil_last hpair]
      by_cases hchecks : Features.overflowChecks = true
      · rw [if_pos hchecks]
        exact iff_of_true rfl ⟨hchecks, value, hpair⟩
      · rw [if_neg hchecks]
        exact iff_of_false (fun h => nomatch h) fun h => hchecks h.1
    · obtain ⟨coils, hcoils, _⟩ := decodeWriteSingleCoil_eq_ok hpair hlast
      rw [hcoils]
      exact iff_of_false (fun h => nomatch h) fun ⟨_, value', hvalue⟩ =>
        hlast (hvalue.unique hpair).1
  · obtain ⟨e, he⟩ := Pdu.writeSingleU16Fields_eq_err fun address value h =>
      hpair ⟨address, value, h⟩
    rw [decodeWriteSingleCoil, he]
    exact iff_of_false (fun h => nomatch h) fun ⟨_, value, h⟩ => hpair ⟨65535, value, h⟩

/-- The decoders panic on the echo of the last coil, when additions are checked. -/
lemma decodePdu_eq_panic :
    decodePdu pdu = .panic ↔ Features.overflowChecks = true ∧ pdu.EchoesLastCoil := by
  by_cases hcoil : pdu.functionCode = .writeSingleCoil
  · rw [decodePdu, hcoil]
    dsimp only
    rw [decodeWriteSingleCoil_eq_panic, Pdu.EchoesLastCoil, hcoil, eq_self, true_and]
  · refine iff_of_false ?_ fun h => hcoil h.2.1
    unfold decodePdu
    split
    case h_1 => exact decodeBits_ne_panic .coils
    case h_2 hfc => exact absurd hfc hcoil
    case h_3 =>
      refine bind_ne_panic Pdu.readWindow_ne_panic fun _ _ => ?_
      rw [lift_bind_ne_panic]
      simp
    case h_4 => exact decodeBits_ne_panic .discreteInputs
    case h_5 | h_9 => exact decodeReadHoldingRegisters_ne_panic
    case h_6 => exact decodeReadInputRegisters_ne_panic
    case h_7 => exact bind_ne_panic Pdu.writeSingleU16Fields_ne_panic fun _ _ => by simp
    case h_8 =>
      refine bind_ne_panic Pdu.readWindow_ne_panic fun _ _ => ?_
      rw [lift_bind_ne_panic]
      simp
    case h_10 | h_13 | h_20 => simp
    case h_11 => exact decodeReadFifoQueue_ne_panic
    case h_12 =>
      refine bind_ne_panic Pdu.byteCountPayload_ne_panic fun _ _ => ?_
      exact bind_ne_panic (fileRecordLoop_ne_panic _ _ _) fun _ _ => by simp
    case h_14 =>
      refine bind_ne_panic Pdu.meiTypePayload_ne_panic fun mtp _ => ?_
      split
      · refine bind_ne_panic readDeviceIdFields_ne_panic fun _ _ => ?_
        rw [lift_bind_ne_panic]
        intro _ _
        rw [lift_bind_ne_panic]
        simp
      · rw [lift_bind_ne_panic]
        intro _ _
        rw [lift_bind_ne_panic]
        simp
    case h_15 => exact bind_ne_panic Pdu.singleBytePayload_ne_panic fun _ _ => by simp
    case h_16 =>
      refine bind_ne_panic Pdu.subFunctionPayload_ne_panic fun _ _ => ?_
      rw [lift_bind_ne_panic]
      intro _ _
      rw [lift_bind_ne_panic]
      simp
    case h_17 => exact bind_ne_panic Pdu.u16PairFields_ne_panic fun _ _ => by simp
    case h_18 =>
      refine bind_ne_panic Pdu.byteCountPayload_ne_panic fun bcp hbcp => ?_
      rw [guard_decide_bind_ne_panic]
      intro hcount
      have hlen : 6 ≤ bcp.payload.length := by
        rw [(Pdu.byteCountPayload_eq_ok.mp hbcp).2]
        rw [UInt8.lt_iff_toNat_lt] at hcount
        exact Nat.not_lt.mp hcount
      rw [u16At_of_lt (by omega), ok_bind, u16At_of_lt (by omega), ok_bind,
        u16At_of_lt (by omega), ok_bind, lift_bind_ne_panic]
      simp
    case h_19 =>
      refine bind_ne_panic Pdu.byteCountPayload_ne_panic fun _ _ => ?_
      rw [lift_bind_ne_panic]
      simp

/-! ### Which responses decode to what -/

lemma decodePdu_coils_iff :
    (∃ coils, decodePdu pdu = .ok (.coils coils)) ↔ pdu.HoldsCoils := by
  constructor
  · rintro ⟨coils, h⟩
    have hfrom := decodePdu_comesFrom h
    rw [ClientResponse.comesFrom, decide_eq_true_iff] at hfrom
    rcases hfrom with hfc | hfc | hfc <;> rw [Pdu.HoldsCoils, hfc] <;>
      rw [decodePdu, hfc] at h <;> dsimp only at h ⊢
    · by_contra hnone
      obtain ⟨e, he⟩ := decodeBits_eq_err ClientResponse.coils fun bytes hbytes =>
        Nat.lt_of_not_le fun hle => hnone ⟨bytes, hbytes, hle⟩
      exact nomatch h.symm.trans he
    · obtain ⟨fields, hfields, _⟩ := bind_eq_ok.mp h
      have hpair : pdu.HoldsPair fields.address fields.value :=
        Pdu.writeSingleU16Fields_eq_ok.mp hfields
      refine ⟨_, _, hpair, fun hlast => ?_⟩
      rw [hlast] at hpair
      rw [decodeWriteSingleCoil_last hpair] at h
      split at h <;> cases h
    · by_contra hnone
      obtain ⟨e, he⟩ := decodeWriteMultipleCoils_eq_err fun address quantity hpair =>
        Nat.lt_of_not_le fun hle => hnone ⟨address, quantity, hpair, hle⟩
      exact nomatch h.symm.trans he
  · intro h
    unfold Pdu.HoldsCoils at h
    unfold decodePdu
    split at h
    case h_1 hfc =>
      obtain ⟨bytes, hbytes, hle⟩ := h
      obtain ⟨raw, hraw, _⟩ := decodeBits_eq_ok ClientResponse.coils hbytes hle
      rw [hfc]
      exact ⟨raw, hraw⟩
    case h_2 hfc =>
      obtain ⟨address, value, hpair, hlast⟩ := h
      obtain ⟨coils, hcoils, _⟩ := decodeWriteSingleCoil_eq_ok hpair hlast
      rw [hfc]
      exact ⟨coils, hcoils⟩
    case h_3 hfc =>
      obtain ⟨address, quantity, hpair, hle⟩ := h
      rw [hfc]
      exact ⟨_, decodeWriteMultipleCoils_eq_ok hpair hle⟩
    case h_4 => exact h.elim

lemma decodePdu_inputs_iff :
    (∃ inputs, decodePdu pdu = .ok (.discreteInputs inputs)) ↔ pdu.HoldsInputs := by
  constructor
  · rintro ⟨inputs, h⟩
    have hfc : pdu.functionCode = .readDiscreteInputs := of_decide_eq_true (decodePdu_comesFrom h)
    rw [decodePdu, hfc] at h
    refine ⟨hfc, by_contra fun hnone => ?_⟩
    obtain ⟨e, he⟩ := decodeBits_eq_err ClientResponse.discreteInputs fun bytes hbytes =>
      Nat.lt_of_not_le fun hle => hnone ⟨bytes, hbytes, hle⟩
    exact nomatch h.symm.trans he
  · rintro ⟨hfc, bytes, hbytes, hle⟩
    obtain ⟨raw, hraw, _⟩ := decodeBits_eq_ok ClientResponse.discreteInputs hbytes hle
    rw [decodePdu, hfc]
    exact ⟨raw, hraw⟩

lemma decodePdu_registers_iff :
    (∃ registers, decodePdu pdu = .ok (.holdingRegisters registers)) ↔ pdu.HoldsRegisters := by
  constructor
  · rintro ⟨registers, h⟩
    have hfrom := decodePdu_comesFrom h
    rw [ClientResponse.comesFrom, decide_eq_true_iff] at hfrom
    rcases hfrom with hfc | hfc | hfc <;> rw [Pdu.HoldsRegisters, hfc] <;>
      rw [decodePdu, hfc] at h <;> dsimp only at h ⊢ <;> by_contra hnone
    · obtain ⟨e, he⟩ := decodeReadHoldingRegisters_eq_err fun bytes hbytes heven =>
        hnone ⟨bytes, hbytes, heven⟩
      exact nomatch h.symm.trans he
    · obtain ⟨e, he⟩ := decodeReadHoldingRegisters_eq_err fun bytes hbytes heven =>
        hnone ⟨bytes, hbytes, heven⟩
      exact nomatch h.symm.trans he
    · obtain ⟨e, he⟩ := decodeWriteMultipleRegisters_eq_err fun address quantity hpair =>
        Nat.lt_of_not_le fun hle => hnone ⟨address, quantity, hpair, hle⟩
      exact nomatch h.symm.trans he
  · intro h
    unfold Pdu.HoldsRegisters at h
    unfold decodePdu
    split at h
    case h_1 hfc | h_2 hfc =>
      obtain ⟨bytes, hbytes, heven⟩ := h
      obtain ⟨raw, hraw, _⟩ := decodeReadHoldingRegisters_eq_ok hbytes heven
      rw [hfc]
      exact ⟨raw, hraw⟩
    case h_3 hfc =>
      obtain ⟨address, quantity, hpair, hle⟩ := h
      rw [hfc]
      exact ⟨_, decodeWriteMultipleRegisters_eq_ok hpair hle⟩
    case h_4 => exact h.elim

lemma decodePdu_inputRegisters_iff :
    (∃ registers, decodePdu pdu = .ok (.inputRegisters registers)) ↔
      pdu.HoldsInputRegisters := by
  constructor
  · rintro ⟨registers, h⟩
    have hfc : pdu.functionCode = .readInputRegisters := of_decide_eq_true (decodePdu_comesFrom h)
    rw [decodePdu, hfc] at h
    refine ⟨hfc, by_contra fun hnone => ?_⟩
    obtain ⟨e, he⟩ := decodeReadInputRegisters_eq_err fun bytes hbytes heven =>
      hnone ⟨bytes, hbytes, heven⟩
    exact nomatch h.symm.trans he
  · rintro ⟨hfc, bytes, hbytes, heven⟩
    obtain ⟨raw, hraw, _⟩ := decodeReadInputRegisters_eq_ok hbytes heven
    rw [decodePdu, hfc]
    exact ⟨raw, hraw⟩

/-! ### Fix-up -/

omit [Features] in
lemma orElseRaw_ne_err (result : Fallible ClientResponse) (raw : ClientResponse) (e : MbusError) :
    orElseRaw result raw ≠ .err e := by
  cases result <;> simp [orElseRaw]

omit [Features] in
lemma fixUpResponse_fifo (raw : FifoQueue) (address : UInt16) :
    ∃ values, copyFront (.replicate maxFifoQueueCountPerPdu 0)
        (raw.queue.toList.take raw.length) = .ok values ∧
      fixUpResponse (.fifoQueue raw) (.readFifoQueue address) =
        .ok (.fifoQueue ((FifoQueue.new address).withValues values raw.length)) := by
  have hcopy := copyFront_of_le (.replicate maxFifoQueueCountPerPdu (0 : UInt16))
    (show (raw.queue.toList.take raw.length).length ≤ maxFifoQueueCountPerPdu from
      Nat.le_trans (List.length_take_le _ _) raw.length_le)
  refine ⟨_, hcopy, ?_⟩
  rw [fixUpResponse, slice_of_le (Nat.zero_le _) (by
    rw [Vector.length_toList]
    exact raw.length_le), ok_bind, List.drop_zero, hcopy]
  rfl

omit [Features] in
lemma fixUpResponse_ne_err (response : ClientResponse) (original : ClientRequestBody)
    (e : MbusError) : fixUpResponse response original ≠ .err e := by
  unfold fixUpResponse
  split
  case h_1 | h_2 | h_3 | h_4 | h_5 => exact orElseRaw_ne_err _ _ e
  case h_6 raw address =>
    obtain ⟨values, _, hfix⟩ := fixUpResponse_fifo raw address
    rw [fixUpResponse] at hfix
    rw [hfix]
    exact nofun
  case h_7 => exact nofun

omit [Features] in
/-- The coils of the response under the address and quantity of the request. -/
lemma fixUpResponse_coils (raw : Coils) {block : Coils} (hle : quantity.toNat ≤ maxCoilsPerPdu)
    (hlen : bytes.length = (quantity.toNat + 7) / 8)
    (htake : raw.values.toList.take bytes.length = bytes)
    (hblock : BitBlock.withValues ⟨address, quantity, .replicate _ 0, hle⟩ bytes quantity =
      .ok block) :
    fixUpResponse (.coils raw) (.readMultipleCoils address quantity) = .ok (.coils block) := by
  rw [fixUpResponse, BitBlock.new_of_le address hle, lift_ok, ok_bind,
    BitBlock.withValues_congr _ (Nat.le_of_eq hlen.symm) (by
      rw [← hlen, htake, List.take_length]), hblock]
  rfl

omit [Features] in
/-- The inputs of the response under the address and quantity of the request. -/
lemma fixUpResponse_inputs (raw : DiscreteInputs) {block : DiscreteInputs}
    (hle : quantity.toNat ≤ maxCoilsPerPdu) (hbits : (raw.quantity.toNat + 7) / 8 = bytes.length)
    (htake : raw.values.toList.take bytes.length = bytes)
    (hblock : BitBlock.withValues ⟨address, quantity, .replicate _ 0, hle⟩ bytes quantity =
      .ok block) :
    fixUpResponse (.discreteInputs raw) (.readDiscreteInputs address quantity) =
      .ok (.discreteInputs block) := by
  have hraw : bytes.length ≤ raw.values.toList.length := by
    rw [← htake, List.length_take]
    exact Nat.le_trans (Nat.min_le_right _ _) (Nat.le_refl _)
  rw [fixUpResponse, BitBlock.new_of_le address hle, lift_ok, ok_bind, hbits,
    slice_of_le (Nat.zero_le _) hraw, ok_bind, List.drop_zero, htake, hblock]
  rfl

omit [Features] in
/-- The registers of the response under the address and quantity of the request. -/
lemma fixUpRegisters_eq_ok (raw : HoldingRegisters) {words : List UInt16}
    {registers : HoldingRegisters} (wrap : HoldingRegisters → ClientResponse)
    (hle : quantity.toNat ≤ maxRegistersPerPdu)
    (hlen : words.length = quantity.toNat) (htake : raw.values.toList.take words.length = words)
    (hregisters : Registers.withValues ⟨address, quantity, .replicate _ 0, hle⟩ words quantity =
      .ok registers) :
    orElseRaw (fixUpResponse.fixUpRegisters raw address quantity wrap) (wrap raw) =
      .ok (wrap registers) := by
  rw [fixUpResponse.fixUpRegisters, Registers.new_of_le address hle, lift_ok, ok_bind,
    slice_of_le (Nat.zero_le _) (by
      rw [Vector.length_toList]
      exact hle), ok_bind, List.drop_zero, ← hlen, htake, hregisters]
  rfl

end Decode

end ModbusRs
