import ModbusRs.Client.Requests
import ModbusRs.Core.Layouts
import ModbusRs.Core.RoundTrip
import ModbusRs.Server.Handlers

/-!
# Requests that the server reads back

What the request builders of the sync client accept comes out of the parsers and checks of the
server with the same address, quantity and values. Nothing but the address range can make the
server refuse it.
-/

namespace ModbusRs

open Outcome

/-- The calls of the request builders of FC01 to FC06, FC0F, FC10, FC16, FC17 and FC18. -/
inductive BuilderCall where
  | readCoils (address quantity : UInt16)
  | readDiscreteInputs (address quantity : UInt16)
  | readHoldingRegisters (address quantity : UInt16)
  | readInputRegisters (address quantity : UInt16)
  | writeSingleCoil (address : UInt16) (value : Bool)
  | writeSingleRegister (address value : UInt16)
  | writeMultipleCoils (address quantity : UInt16) (values : Coils)
  | writeMultipleRegisters (address quantity : UInt16) (values : List UInt16)
  | maskWriteRegister (address andMask orMask : UInt16)
  | readWriteMultipleRegisters (readAddress readQuantity writeAddress : UInt16)
      (writeValues : List UInt16)
  | readFifoQueue (address : UInt16)

namespace BuilderCall

open ReqPduCompiler in
/-- The PDU the builder returns. -/
def pdu : BuilderCall → Fallible Pdu
  | .readCoils address quantity => readCoilsRequest address quantity
  | .readDiscreteInputs address quantity => readDiscreteInputsRequest address quantity
  | .readHoldingRegisters address quantity => readHoldingRegistersRequest address quantity
  | .readInputRegisters address quantity => readInputRegistersRequest address quantity
  | .writeSingleCoil address value => writeSingleCoilRequest address value
  | .writeSingleRegister address value => writeSingleRegisterRequest address value
  | .writeMultipleCoils address quantity values =>
    writeMultipleCoilsRequest address quantity values
  | .writeMultipleRegisters address quantity values =>
    writeMultipleRegistersRequest address quantity values
  | .maskWriteRegister address andMask orMask => maskWriteRegisterRequest address andMask orMask
  | .readWriteMultipleRegisters readAddress readQuantity writeAddress writeValues =>
    readWriteMultipleRegistersRequest readAddress readQuantity writeAddress writeValues
  | .readFifoQueue address => readFifoQueueRequest address

/-- A check that can only fail for the range of addresses. -/
def unlessOverflow {α : Type} (address quantity : UInt16) (checked : Fallible α) : Fallible α := do
  guardErr (addressOverflow address quantity) .invalidAddress
  checked

/-- A read window with the server's check of it. -/
def WindowRead (fc : FunctionCode) (maxQuantity address quantity : UInt16) (pdu : Pdu) : Prop :=
  pdu.functionCode = fc ∧ pdu.readWindow = .ok ⟨address, quantity⟩ ∧
    checkReadWindow 1 maxQuantity pdu = unlessOverflow address quantity (.ok ⟨address, quantity⟩)

/-- The server reads the call off the PDU, and its checks let it through unless the addresses
overflow. -/
def ReadBack : BuilderCall → Pdu → Prop
  | .readCoils address quantity, pdu => WindowRead .readCoils 2000 address quantity pdu
  | .readDiscreteInputs address quantity, pdu =>
    WindowRead .readDiscreteInputs 2000 address quantity pdu
  | .readHoldingRegisters address quantity, pdu =>
    WindowRead .readHoldingRegisters 125 address quantity pdu
  | .readInputRegisters address quantity, pdu =>
    WindowRead .readInputRegisters 125 address quantity pdu
  | .writeSingleCoil address value, pdu =>
    pdu.functionCode = .writeSingleCoil ∧
      checkWriteSingleCoil pdu = .ok (⟨address, if value then 0xFF00 else 0x0000⟩, value) ∧
      pdu.writeSingleU16Fields = .ok ⟨address, if value then 0xFF00 else 0x0000⟩
  | .writeSingleRegister address value, pdu =>
    pdu.functionCode = .writeSingleRegister ∧ pdu.writeSingleU16Fields = .ok ⟨address, value⟩
  | .writeMultipleCoils address quantity values, pdu =>
    pdu.functionCode = .writeMultipleCoils ∧
      ∃ fields, pdu.writeMultipleFields = .ok fields ∧ fields.address = address ∧
        fields.quantity = quantity ∧
        fields.values = values.values.toList.take (packedBitLen quantity) ∧
        (∀ i < quantity.toNat, bitAt fields.values i = bitAt values.values.toList i) ∧
        checkWriteMultipleCoils pdu = unlessOverflow address quantity (.ok fields)
  | .writeMultipleRegisters address quantity values, pdu =>
    pdu.functionCode = .writeMultipleRegisters ∧
      ∃ fields, pdu.writeMultipleFields = .ok fields ∧ fields.address = address ∧
        fields.quantity = quantity ∧ beWords fields.values = values ∧
        checkWriteMultipleRegisters pdu = unlessOverflow address quantity (.ok (fields, values))
  | .maskWriteRegister address andMask orMask, pdu =>
    pdu.functionCode = .maskWriteRegister ∧
      pdu.maskWriteRegisterFields = .ok ⟨address, andMask, orMask⟩
  | .readWriteMultipleRegisters readAddress readQuantity writeAddress writeValues, pdu =>
    pdu.functionCode = .readWriteMultipleRegisters ∧
      ∃ fields, pdu.readWriteMultipleFields = .ok fields ∧ fields.readAddress = readAddress ∧
        fields.readQuantity = readQuantity ∧ fields.writeAddress = writeAddress ∧
        fields.writeQuantity = UInt16.ofNat writeValues.length ∧
        beWords fields.writeValues = writeValues ∧
        checkReadWriteMultipleRegisters pdu = unlessOverflow readAddress readQuantity
          (unlessOverflow writeAddress (UInt16.ofNat writeValues.length)
            (.ok (fields, writeValues)))
  | .readFifoQueue address, pdu =>
    pdu.functionCode = .readFifoQueue ∧ pdu.fifoPointer = .ok address

/-! ### The server's checks -/

section Checks

variable {address quantity maxQuantity : UInt16} {pdu : Pdu}

lemma windowRead {fc : FunctionCode} (hquantity : outside 1 maxQuantity quantity = false)
    (h : Pdu.buildReadWindow fc address quantity = .ok pdu) :
    WindowRead fc maxQuantity address quantity pdu := by
  obtain ⟨hnew, hdata⟩ := Pdu.buildReadWindow_eq_ok h
  have hread : pdu.readWindow = .ok ⟨address, quantity⟩ := Pdu.readWindow_eq_ok.mpr hdata
  refine ⟨congrArg Pdu.functionCode hnew, hread, ?_⟩
  rw [checkReadWindow, hread, ok_bind, ← outside, hquantity]
  rfl

lemma checkWriteMultiple_fields {expectedByteCount : UInt16 → Nat} {fields : WriteMultipleFields}
    (hfields : pdu.writeMultipleFields = .ok fields)
    (hquantity : outside 1 maxQuantity fields.quantity = false)
    (hcount : fields.byteCount.toNat = expectedByteCount fields.quantity)
    (hlen : fields.values.length = fields.byteCount.toNat) :
    checkWriteMultiple maxQuantity expectedByteCount pdu =
      unlessOverflow fields.address fields.quantity (.ok fields) := by
  rw [checkWriteMultiple, hfields, ok_bind, ← outside, hquantity, guardErr_false, ok_bind, hlen,
    hcount, bne_self_eq_false]
  rfl

/-- The words behind the write handlers of registers. -/
lemma overwriteWords_words (values : List UInt16) {n : Nat} (h : values.length ≤ n) :
    (do
      let registers ← overwriteWords (List.replicate n 0) (values.flatMap toBeBytes)
      slice registers 0 values.length : Fallible (List UInt16)) = .ok values := by
  rw [overwriteWords, beWords_flatMap_toBeBytes, List.length_replicate, if_pos h, ok_bind,
    slice_append_left]

end Checks

/-! ### The builders -/

section Builders

open ReqPduCompiler

variable {address quantity : UInt16} {pdu : Pdu}

lemma packWords_eq_ok {values : List UInt16} {packed : HVec UInt8 maxPduDataLen}
    (h : packWords values = .ok packed) : packed.toList = values.flatMap toBeBytes := by
  by_cases hlen : 2 * values.length ≤ maxPduDataLen
  · obtain ⟨_, hpacked, hlist⟩ := packWords_of_le values hlen
    rw [hpacked] at h
    cases h
    exact hlist
  · rw [packWords, HVec.foldlM_extendOr_of_gt (by
      rw [HVec.empty_toList, List.length_nil, Nat.zero_add, flatMap_toBeBytes_length]
      omega)] at h
    cases h

lemma readBack_writeSingleCoil {value : Bool}
    (h : writeSingleCoilRequest address value = .ok pdu) :
    (writeSingleCoil address value).ReadBack pdu := by
  obtain ⟨hnew, hdata⟩ := Pdu.buildWriteSingleU16_eq_ok (lift_eq_ok.mp h)
  have hread : pdu.writeSingleU16Fields = .ok ⟨address, if value then 0xFF00 else 0x0000⟩ :=
    Pdu.writeSingleU16Fields_eq_ok.mpr hdata
  refine ⟨congrArg Pdu.functionCode hnew, ?_, hread⟩
  rw [checkWriteSingleCoil, hread]
  cases value <;> rfl

lemma readBack_writeMultipleCoils {values : Coils}
    (h : writeMultipleCoilsRequest address quantity values = .ok pdu) :
    (writeMultipleCoils address quantity values).ReadBack pdu := by
  obtain ⟨_, hquantity, h⟩ := bind_eq_ok.mp h
  obtain ⟨packed, hpacked, h⟩ := bind_eq_ok.mp h
  obtain ⟨hlen, hnew, hdata⟩ := Pdu.buildWriteMultiple_eq_ok (lift_eq_ok.mp h)
  obtain ⟨⟨_, hfits⟩, hslice⟩ := slice_eq_ok.mp hpacked
  rw [List.drop_zero] at hslice
  have hpackedLen : packed.length = packedBitLen quantity := by
    rw [hslice, List.length_take, Nat.min_eq_left hfits, packedBitLen]
  have hcount : (UInt8.ofNat packed.length).toNat = packed.length :=
    UInt8.toNat_ofNat_of_lt' (Nat.lt_succ_of_le hlen)
  have hfields : pdu.writeMultipleFields =
      .ok ⟨address, quantity, UInt8.ofNat packed.length, packed⟩ :=
    Pdu.writeMultipleFields_eq_ok.mpr ⟨hdata, hcount.symm⟩
  refine ⟨congrArg Pdu.functionCode hnew, _, hfields, rfl, rfl, hslice, fun i hi => ?_,
    checkWriteMultiple_fields hfields (guardErr_eq_ok.mp hquantity) (hcount.trans hpackedLen)
      hcount.symm⟩
  have hbyte : i / 8 < (quantity.toNat + 7) / 8 := by omega
  rw [bitAt, bitAt, hslice, List.getD_eq_getElem?_getD, List.getElem?_take_of_lt hbyte,
    ← List.getD_eq_getElem?_getD]

lemma readBack_writeMultipleRegisters {values : List UInt16}
    (h : writeMultipleRegistersRequest address quantity values = .ok pdu) :
    (writeMultipleRegisters address quantity values).ReadBack pdu := by
  obtain ⟨_, hquantity, h⟩ := bind_eq_ok.mp h
  obtain ⟨_, hcast, h⟩ := bind_eq_ok.mp h
  obtain ⟨packed, hpacked, h⟩ := bind_eq_ok.mp h
  obtain ⟨hlen, hnew, hdata⟩ := Pdu.buildWriteMultiple_eq_ok (lift_eq_ok.mp h)
  have hlist := packWords_eq_ok (lift_eq_ok.mp hpacked)
  have hquantity := guardErr_eq_ok.mp hquantity
  have hle : quantity.toNat ≤ 123 := (outside_eq_false.mp hquantity).2
  have hbytes : packed.toList.length = 2 * values.length := by
    rw [hlist, flatMap_toBeBytes_length]
  have hvalues : values.length = quantity.toNat := by
    rw [guardErr_eq_ok, bne_eq_false_iff_eq] at hcast
    rw [← hcast, UInt16.toNat_ofNat']
    omega
  have hcount : (UInt8.ofNat packed.toList.length).toNat = packed.toList.length :=
    UInt8.toNat_ofNat_of_lt' (Nat.lt_succ_of_le hlen)
  have hfields : pdu.writeMultipleFields =
      .ok ⟨address, quantity, UInt8.ofNat packed.toList.length, packed.toList⟩ :=
    Pdu.writeMultipleFields_eq_ok.mpr ⟨hdata, hcount.symm⟩
  refine ⟨congrArg Pdu.functionCode hnew, _, hfields, rfl, rfl, ?_, ?_⟩
  · dsimp only
    rw [hlist, beWords_flatMap_toBeBytes]
  · obtain ⟨registers, hregisters, hslice⟩ :=
      bind_eq_ok.mp (overwriteWords_words values (show values.length ≤ 123 by omega))
    rw [checkWriteMultipleRegisters, checkWriteMultiple_fields hfields hquantity (by
      dsimp only
      omega) hcount.symm]
    rw [unlessOverflow, unlessOverflow]
    cases addressOverflow address quantity with
    | true => rfl
    | false =>
      simp only [guardErr_false, ok_bind]
      rw [hlist, hregisters, ok_bind, ← hvalues, hslice]
      rfl

lemma readBack_readWriteMultipleRegisters {readAddress readQuantity writeAddress : UInt16}
    {writeValues : List UInt16}
    (h : readWriteMultipleRegistersRequest readAddress readQuantity writeAddress writeValues =
      .ok pdu) :
    (readWriteMultipleRegisters readAddress readQuantity writeAddress writeValues).ReadBack
      pdu := by
  obtain ⟨_, hread, h⟩ := bind_eq_ok.mp h
  obtain ⟨_, hwrite, h⟩ := bind_eq_ok.mp h
  obtain ⟨packed, hpacked, h⟩ := bind_eq_ok.mp h
  obtain ⟨hlen, hnew, hdata⟩ := Pdu.buildReadWriteMultiple_eq_ok (lift_eq_ok.mp h)
  have hlist := packWords_eq_ok (lift_eq_ok.mp hpacked)
  have hread := guardErr_eq_ok.mp hread
  have hwrite := guardErr_eq_ok.mp hwrite
  have hbytes : packed.toList.length = 2 * writeValues.length := by
    rw [hlist, flatMap_toBeBytes_length]
  have hcast : (UInt16.ofNat writeValues.length).toNat = writeValues.length := by
    rw [UInt16.toNat_ofNat']
    omega
  have hle : writeValues.length ≤ 121 := hcast ▸ (outside_eq_false.mp hwrite).2
  have hcount : (UInt8.ofNat packed.toList.length).toNat = packed.toList.length :=
    UInt8.toNat_ofNat_of_lt' (Nat.lt_succ_of_le hlen)
  have hfields : pdu.readWriteMultipleFields = .ok ⟨readAddress, readQuantity, writeAddress,
      UInt16.ofNat writeValues.length, UInt8.ofNat packed.toList.length, packed.toList⟩ :=
    Pdu.readWriteMultipleFields_eq_ok.mpr ⟨hdata, hcount.symm⟩
  refine ⟨congrArg Pdu.functionCode hnew, _, hfields, rfl, rfl, rfl, rfl, ?_, ?_⟩
  · dsimp only
    rw [hlist, beWords_flatMap_toBeBytes]
  · obtain ⟨registers, hregisters, hslice⟩ :=
      bind_eq_ok.mp (overwriteWords_words writeValues (show writeValues.length ≤ 121 from hle))
    rw [checkReadWriteMultipleRegisters, hfields, ok_bind, ← outside, ← outside, hread, hwrite,
      guardErr_false, ok_bind, ok_bind, unlessOverflow, unlessOverflow]
    cases addressOverflow readAddress readQuantity with
    | true => rfl
    | false =>
      cases addressOverflow writeAddress (UInt16.ofNat writeValues.length) with
      | true => rfl
      | false =>
        have hcounted : ((UInt8.ofNat packed.toList.length).toNat != writeValues.length * 2 ||
            packed.toList.length != writeValues.length * 2) = false := by
          rw [hcount, hbytes, Nat.mul_comm, bne_self_eq_false]
          rfl
        simp only [guardErr_false, ok_bind, hcast]
        rw [hcounted, guardErr_false, ok_bind, hlist, hregisters, ok_bind, hslice]
        rfl

/-- What a builder accepts, the server reads back. -/
lemma readBack (call : BuilderCall) (h : call.pdu = .ok pdu) : call.ReadBack pdu := by
  cases call with
  | readCoils | readDiscreteInputs | readHoldingRegisters | readInputRegisters =>
    obtain ⟨_, hquantity, h⟩ := bind_eq_ok.mp h
    exact windowRead (guardErr_eq_ok.mp hquantity) (lift_eq_ok.mp h)
  | writeSingleCoil address value => exact readBack_writeSingleCoil h
  | writeSingleRegister address value =>
    obtain ⟨hnew, hdata⟩ := Pdu.buildWriteSingleU16_eq_ok (lift_eq_ok.mp h)
    exact ⟨congrArg Pdu.functionCode hnew, Pdu.writeSingleU16Fields_eq_ok.mpr hdata⟩
  | writeMultipleCoils address quantity values => exact readBack_writeMultipleCoils h
  | writeMultipleRegisters address quantity values => exact readBack_writeMultipleRegisters h
  | maskWriteRegister address andMask orMask =>
    obtain ⟨hnew, hdata⟩ := Pdu.buildMaskWriteRegister_eq_ok (lift_eq_ok.mp h)
    exact ⟨congrArg Pdu.functionCode hnew, Pdu.maskWriteRegisterFields_eq_ok.mpr hdata⟩
  | readWriteMultipleRegisters readAddress readQuantity writeAddress writeValues =>
    exact readBack_readWriteMultipleRegisters h
  | readFifoQueue address =>
    obtain ⟨hnew, hdata⟩ := Pdu.buildU16Payload_eq_ok (lift_eq_ok.mp h)
    exact ⟨congrArg Pdu.functionCode hnew, Pdu.fifoPointer_eq_ok.mpr hdata⟩

/-- The PDU of a builder decodes to itself. -/
lemma fromBytes_rawBytes (call : BuilderCall) (h : call.pdu = .ok pdu) :
    Pdu.fromBytes pdu.rawBytes = .ok pdu := by
  have plain {fc : FunctionCode} (hfc : fc.IsPlain) (hnew : pdu = Pdu.new fc pdu.data) :
      Pdu.fromBytes pdu.rawBytes = .ok pdu := by
    rw [hnew]
    exact Pdu.fromBytes_rawBytes_new hfc pdu.data
  cases call with
  | readCoils | readDiscreteInputs | readHoldingRegisters | readInputRegisters =>
    obtain ⟨_, _, h⟩ := bind_eq_ok.mp h
    exact plain (by decide) (Pdu.buildReadWindow_eq_ok (lift_eq_ok.mp h)).1
  | writeSingleCoil | writeSingleRegister =>
    exact plain (by decide) (Pdu.buildWriteSingleU16_eq_ok (lift_eq_ok.mp h)).1
  | writeMultipleCoils =>
    obtain ⟨_, _, h⟩ := bind_eq_ok.mp h
    obtain ⟨_, _, h⟩ := bind_eq_ok.mp h
    exact plain (by decide) (Pdu.buildWriteMultiple_eq_ok (lift_eq_ok.mp h)).2.1
  | writeMultipleRegisters =>
    obtain ⟨_, _, h⟩ := bind_eq_ok.mp h
    obtain ⟨_, _, h⟩ := bind_eq_ok.mp h
    obtain ⟨_, _, h⟩ := bind_eq_ok.mp h
    exact plain (by decide) (Pdu.buildWriteMultiple_eq_ok (lift_eq_ok.mp h)).2.1
  | maskWriteRegister =>
    exact plain (by decide) (Pdu.buildMaskWriteRegister_eq_ok (lift_eq_ok.mp h)).1
  | readWriteMultipleRegisters =>
    obtain ⟨_, _, h⟩ := bind_eq_ok.mp h
    obtain ⟨_, _, h⟩ := bind_eq_ok.mp h
    obtain ⟨_, _, h⟩ := bind_eq_ok.mp h
    exact plain (by decide) (Pdu.buildReadWriteMultiple_eq_ok (lift_eq_ok.mp h)).2.1
  | readFifoQueue =>
    exact plain (by decide) (Pdu.buildU16Payload_eq_ok (lift_eq_ok.mp h)).1

end Builders

/-- The frame exists, unless ASCII frames are kept short, and what it decodes to is the call under
its address. -/
theorem carried [Features] (call : BuilderCall) {pdu : Pdu} (hbuild : call.pdu = .ok pdu)
    (tt : TransportType) (txnId : UInt16) (unitId : UInt8)
    (hunit : tt.isSerialType = true → unitId ≤ 247) :
    ((tt.IsAscii → Features.serialAscii = true) →
      ∃ adu, compileAduFrame txnId unitId pdu tt = .ok adu) ∧
    ∀ adu, compileAduFrame txnId unitId pdu tt = .ok adu →
      ∃ message, decompileAduFrame adu.toList tt = .ok message ∧ message.unitByte = unitId ∧
        message.transactionId = (if tt.isTcpType then txnId else 0) ∧
        call.ReadBack message.pdu := by
  refine ⟨fun hascii => ?_, fun adu hadu => ?_⟩
  · obtain ⟨adu, hadu, _⟩ := compileAduFrame_ok tt txnId unitId pdu (fitsFrame_rawBytes _ hascii)
    exact ⟨adu, hadu⟩
  · obtain ⟨message, hmessage, hunitByte, htxn, hpdu⟩ :=
      decompileAduFrame_compiled hadu (call.fromBytes_rawBytes hbuild) hunit
    exact ⟨message, hmessage, hunitByte, htxn, hpdu ▸ call.readBack hbuild⟩

/-- Three registers written and six read, on an RTU line. -/
theorem carried_readWrite :
    letI : Features := Features.minimal
    ∃ adu, (∃ pdu, (readWriteMultipleRegisters 3 6 14 [255, 254, 253]).pdu = .ok pdu ∧
        compileAduFrame 0 17 pdu (.stdSerial .rtu) = .ok adu) ∧
      ∃ message, decompileAduFrame adu.toList (.stdSerial .rtu) = .ok message ∧
        (readWriteMultipleRegisters 3 6 14 [255, 254, 253]).ReadBack message.pdu := by
  let _ : Features := Features.minimal
  obtain ⟨pdu, hpdu⟩ : ∃ pdu, (readWriteMultipleRegisters 3 6 14 [255, 254, 253]).pdu = .ok pdu :=
    ⟨_, rfl⟩
  obtain ⟨hcompile, hdecode⟩ := carried _ hpdu (.stdSerial .rtu) 0 17 (fun _ => by decide)
  obtain ⟨adu, hadu⟩ := hcompile (fun h => by rcases h with h | h <;> cases h)
  obtain ⟨message, hmessage, _, _, hread⟩ := hdecode adu hadu
  exact ⟨adu, ⟨pdu, hpdu, hadu⟩, message, hmessage, hread⟩

end BuilderCall

end ModbusRs
