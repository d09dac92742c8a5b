import ModbusRs.Client.Accepted
import ModbusRs.Client.Calls
import ModbusRs.Client.Handlers
import ModbusRs.Server.Services

/-!
# Responses that the client delivers

A request of the sync client is answered by the handlers of the sync server with the data that the
application supplies. The response goes back to the response handler of the request, which tells
the client's application the addresses and the data.
-/

namespace ModbusRs

open Outcome

/-! ### The server's answer -/

/-- The application fills the buffer with these bytes and returns their number. -/
def Fills (answer : Except MbusError UInt8 × Buffer 252) (data : List UInt8) : Prop :=
  answer.1 = .ok (UInt8.ofNat data.length) ∧ answer.2.toList.take data.length = data

namespace BuilderCall

/-- The addresses of the call end before the last address. -/
def InRange : BuilderCall → Prop
  | .readCoils address quantity | .readDiscreteInputs address quantity
  | .readHoldingRegisters address quantity | .readInputRegisters address quantity
  | .writeMultipleCoils address quantity _ | .writeMultipleRegisters address quantity _ =>
    address.toNat + quantity.toNat ≤ 65535
  | .writeSingleCoil address _ | .writeSingleRegister address _
  | .maskWriteRegister address _ _ => address.toNat + 1 ≤ 65535
  | .readWriteMultipleRegisters readAddress readQuantity writeAddress writeValues =>
    readAddress.toNat + readQuantity.toNat ≤ 65535 ∧
      writeAddress.toNat + writeValues.length ≤ 65535
  | .readFifoQueue _ => True

/-- The application serves the call with data of the size the quantity requires. -/
def Supplies {σ : Type} (app : ModbusAppHandler σ) (txnId : UInt16) (unit : UnitIdOrSlaveAddr)
    (s : σ) (data : List UInt8) : BuilderCall → Prop
  | .readCoils address quantity => data.length = packedBitLen quantity ∧
    Fills (app.readCoilsRequest txnId unit address quantity (zeroBuffer _) s).1 data
  | .readDiscreteInputs address quantity => data.length = packedBitLen quantity ∧
    Fills (app.readDiscreteInputsRequest txnId unit address quantity (zeroBuffer _) s).1 data
  | .readHoldingRegisters address quantity => data.length = quantity.toNat * 2 ∧
    Fills (app.readMultipleHoldingRegistersRequest txnId unit address quantity
      (zeroBuffer _) s).1 data
  | .readInputRegisters address quantity => data.length = quantity.toNat * 2 ∧
    Fills (app.readMultipleInputRegistersRequest txnId unit address quantity
      (zeroBuffer _) s).1 data
  | .writeSingleCoil address value => data = [] ∧
    (app.writeSingleCoilRequest txnId unit address value s).1 = .ok ()
  | .writeSingleRegister address value => data = [] ∧
    (app.writeSingleRegisterRequest txnId unit address value s).1 = .ok ()
  | .writeMultipleCoils address quantity values => data = [] ∧
    (app.writeMultipleCoilsRequest txnId unit address quantity
      (values.values.toList.take (packedBitLen quantity)) s).1 = .ok ()
  | .writeMultipleRegisters address _ values => data = [] ∧
    (app.writeMultipleRegistersRequest txnId unit address values s).1 = .ok ()
  | .maskWriteRegister address andMask orMask => data = [] ∧
    (app.maskWriteRegisterRequest txnId unit address andMask orMask s).1 = .ok ()
  | .readWriteMultipleRegisters readAddress readQuantity writeAddress writeValues =>
    data.length = readQuantity.toNat * 2 ∧
      Fills (app.readWriteMultipleRegistersRequest txnId unit readAddress readQuantity
        writeAddress writeValues (zeroBuffer _) s).1 data
  | .readFifoQueue address =>
    (∃ words : List UInt16, words.length ≤ maxFifoQueueCountPerPdu ∧
      data = toBeBytes (UInt16.ofNat words.length) ++ words.flatMap toBeBytes) ∧
    Fills (app.readFifoQueueRequest txnId unit address (zeroBuffer _) s).1 data

/-- The PDU that answers the call with this data. -/
def answerPdu (data : List UInt8) : BuilderCall → Except MbusError Pdu
  | .readCoils _ _ => Pdu.buildByteCountPayload .readCoils data
  | .readDiscreteInputs _ _ => Pdu.buildByteCountPayload .readDiscreteInputs data
  | .readHoldingRegisters _ _ => Pdu.buildByteCountPayload .readHoldingRegisters data
  | .readInputRegisters _ _ => Pdu.buildByteCountPayload .readInputRegisters data
  | .writeSingleCoil address value =>
    Pdu.buildWriteSingleU16 .writeSingleCoil address (if value then 0xFF00 else 0x0000)
  | .writeSingleRegister address value =>
    Pdu.buildWriteSingleU16 .writeSingleRegister address value
  | .writeMultipleCoils address quantity _ =>
    Pdu.buildWriteSingleU16 .writeMultipleCoils address quantity
  | .writeMultipleRegisters address quantity _ =>
    Pdu.buildWriteSingleU16 .writeMultipleRegisters address quantity
  | .maskWriteRegister address andMask orMask => Pdu.buildMaskWriteRegister address andMask orMask
  | .readWriteMultipleRegisters _ _ _ _ =>
    Pdu.buildByteCountPayload .readWriteMultipleRegisters data
  | .readFifoQueue _ => Pdu.buildFifoPayload data

section Serve

variable [Features] {σ : Type} {app : ModbusAppHandler σ} {tt : TransportType} {txnId : UInt16}
  {unit : UnitIdOrSlaveAddr} {c : Client AppCall σ} {data : List UInt8} {pdu : Pdu}

omit [Features] in
lemma unlessOverflow_of_le {α : Type} {address quantity : UInt16} (checked : Fallible α)
    (h : address.toNat + quantity.toNat ≤ 65535) :
    unlessOverflow address quantity checked = checked := by
  have hfits : addressOverflow address quantity = false := by
    rw [addressOverflow, decide_eq_false_iff_not]
    omega
  rw [unlessOverflow, hfits]
  rfl

lemma finishBitRead_fills {fc : FunctionCode} {window : ReadWindow}
    {answer : Except MbusError UInt8 × Buffer 252} (h : Fills answer data)
    (hquantity : window.quantity.toNat ≤ 2000) (hlen : data.length = packedBitLen window.quantity) :
    finishBitRead tt txnId unit fc window answer =
      lift (buildByteCountPrefixedResponse tt txnId unit fc data) := by
  have hle : data.length ≤ 250 := by
    rw [hlen, packedBitLen]
    omega
  have hcount : (UInt8.ofNat data.length).toNat = data.length :=
    UInt8.toNat_ofNat_of_lt' (show data.length < 256 by omega)
  rw [finishBitRead, h.1, lift_ok, ok_bind, hcount, hlen, bne_self_eq_false, Bool.or_false,
    decide_eq_false (by omega), guardErr_false, ok_bind, ← hlen, slice_of_le (Nat.zero_le _) (by
      rw [Vector.length_toList]
      omega), ok_bind, List.drop_zero, h.2]

lemma finishWordRead_fills {fc : FunctionCode} {quantity : UInt16}
    {answer : Except MbusError UInt8 × Buffer 252} (h : Fills answer data)
    (hquantity : quantity.toNat ≤ 125) (hlen : data.length = quantity.toNat * 2) :
    finishWordRead tt txnId unit fc quantity answer =
      lift (buildByteCountPrefixedResponse tt txnId unit fc data) := by
  have hcount : (UInt8.ofNat data.length).toNat = data.length :=
    UInt8.toNat_ofNat_of_lt' (show data.length < 256 by omega)
  rw [finishWordRead, h.1, lift_ok, ok_bind, hcount, hlen, bne_self_eq_false, Bool.or_false,
    decide_eq_false (by omega), guardErr_false, ok_bind, ← hlen, slice_of_le (Nat.zero_le _) (by
      rw [Vector.length_toList]
      omega), ok_bind, List.drop_zero, h.2]

lemma finishFifo_fills {answer : Except MbusError UInt8 × Buffer 252} {words : List UInt16}
    (hwords : words.length ≤ maxFifoQueueCountPerPdu)
    (h : Fills answer (toBeBytes (UInt16.ofNat words.length) ++ words.flatMap toBeBytes)) :
    finishFifo tt txnId unit answer = lift (buildFifoResponse tt txnId unit
      (toBeBytes (UInt16.ofNat words.length) ++ words.flatMap toBeBytes)) := by
  change words.length ≤ 31 at hwords
  set data := toBeBytes (UInt16.ofNat words.length) ++ words.flatMap toBeBytes with hdata
  have hlen : data.length = 2 + 2 * words.length := by
    rw [hdata, List.length_append, toBeBytes_length, flatMap_toBeBytes_length]
  have hcount : (UInt8.ofNat data.length).toNat = data.length :=
    UInt8.toNat_ofNat_of_lt' (show data.length < 256 by omega)
  have hfifoCount : (UInt16.ofNat words.length).toNat = words.length := by
    rw [UInt16.toNat_ofNat']
    omega
  have hbuffer : answer.2.toList = data ++ answer.2.toList.drop data.length := by
    rw [← h.2, List.length_take, Vector.length_toList, Nat.min_eq_left (by omega),
      List.take_append_drop]
  have hread : u16At answer.2.toList 0 = .ok (UInt16.ofNat words.length) := by
    rw [hbuffer, hdata, List.append_assoc]
    exact u16At_append [] _ _
  have hslice : (slice answer.2.toList 0 data.length : Fallible (List UInt8)) = .ok data := by
    rw [slice_of_le (Nat.zero_le _) (by
      rw [Vector.length_toList]
      omega), List.drop_zero, h.2]
  have hlimit : ¬UInt16.ofNat words.length > 31 := by
    rw [gt_iff_lt, UInt16.lt_iff_toNat_lt, hfifoCount]
    exact Nat.not_lt.mpr hwords
  rw [finishFifo, h.1, lift_ok, ok_bind, hcount, decide_eq_false (by omega), guardErr_false,
    ok_bind, hread, ok_bind, decide_eq_false hlimit, guardErr_false, ok_bind, hfifoCount, hlen,
    Nat.mul_comm 2, bne_self_eq_false, guardErr_false, ok_bind, Nat.mul_comm _ 2, ← hlen, hslice]
  rfl

lemma finishEcho_ok {fc : FunctionCode} {first second : UInt16} {answer : Except MbusError Unit}
    (h : answer = .ok ()) : finishEcho tt txnId unit fc first second answer =
      lift (buildEchoU16Response tt txnId unit fc first second) := by
  rw [h]
  rfl

variable (app)

/-- The server answers a call in range with the data of its application. -/
lemma serves (call : BuilderCall) (hread : call.ReadBack pdu) (hlimits : call.pdu = .ok pdu)
    (hrange : call.InRange) (hdata : call.Supplies app txnId unit c.state data) :
    ∃ m, dataAccessHandler app tt txnId unit pdu pdu.functionCode = some m ∧
      (m.run c).1 = lift (do
        let response ← call.answerPdu data
        compileAduFrame txnId unit.get response tt) := by
  cases call with
  | readCoils address quantity =>
    obtain ⟨hfc, _, hcheck⟩ := hread
    obtain ⟨_, hquantity, _⟩ := bind_eq_ok.mp hlimits
    rw [unlessOverflow_of_le _ hrange] at hcheck
    refine ⟨_, by rw [hfc]; rfl, ?_⟩
    rw [handleReadCoilsRequest, CallbackM.checkCallFinish_ok hcheck]
    exact finishBitRead_fills hdata.2 (outside_eq_false.mp (guardErr_eq_ok.mp hquantity)).2 hdata.1
  | readDiscreteInputs address quantity =>
    obtain ⟨hfc, _, hcheck⟩ := hread
    obtain ⟨_, hquantity, _⟩ := bind_eq_ok.mp hlimits
    rw [unlessOverflow_of_le _ hrange] at hcheck
    refine ⟨_, by rw [hfc]; rfl, ?_⟩
    rw [handleReadDiscreteInputsRequest, CallbackM.checkCallFinish_ok hcheck]
    exact finishBitRead_fills hdata.2 (outside_eq_false.mp (guardErr_eq_ok.mp hquantity)).2 hdata.1
  | readHoldingRegisters address quantity =>
    obtain ⟨hfc, _, hcheck⟩ := hread
    obtain ⟨_, hquantity, _⟩ := bind_eq_ok.mp hlimits
    rw [unlessOverflow_of_le _ hrange] at hcheck
    refine ⟨_, by rw [hfc]; rfl, ?_⟩
    rw [handleReadHoldingRegistersRequest, CallbackM.checkCallFinish_ok hcheck]
    exact finishWordRead_fills hdata.2 (outside_eq_false.mp (guardErr_eq_ok.mp hquantity)).2 hdata.1
  | readInputRegisters address quantity =>
    obtain ⟨hfc, _, hcheck⟩ := hread
    obtain ⟨_, hquantity, _⟩ := bind_eq_ok.mp hlimits
    rw [unlessOverflow_of_le _ hrange] at hcheck
    refine ⟨_, by rw [hfc]; rfl, ?_⟩
    rw [handleReadInputRegistersRequest, CallbackM.checkCallFinish_ok hcheck]
    exact finishWordRead_fills hdata.2 (outside_eq_false.mp (guardErr_eq_ok.mp hquantity)).2 hdata.1
  | writeSingleCoil address value =>
    obtain ⟨hfc, hcheck, _⟩ := hread
    refine ⟨_, by rw [hfc]; rfl, ?_⟩
    rw [handleWriteSingleCoilRequest, CallbackM.checkCallFinish_ok hcheck]
    exact finishEcho_ok hdata.2
  | writeSingleRegister address value =>
    obtain ⟨hfc, hcheck⟩ := hread
    refine ⟨_, by rw [hfc]; rfl, ?_⟩
    rw [handleWriteSingleRegisterRequest, CallbackM.checkCallFinish_ok hcheck]
    exact finishEcho_ok hdata.2
  | writeMultipleCoils address quantity values =>
    obtain ⟨hfc, ⟨_, _, _, packed⟩, _, rfl, rfl, hpacked, _, hcheck⟩ := hread
    rw [unlessOverflow_of_le _ hrange] at hcheck
    refine ⟨_, by rw [hfc]; rfl, ?_⟩
    rw [handleWriteMultipleCoilsRequest, CallbackM.checkCallFinish_ok hcheck]
    refine finishEcho_ok ?_
    dsimp only at hpacked ⊢
    rw [hpacked]
    exact hdata.2
  | writeMultipleRegisters address quantity values =>
    obtain ⟨hfc, ⟨_, _, _, _⟩, _, rfl, rfl, _, hcheck⟩ := hread
    rw [unlessOverflow_of_le _ hrange] at hcheck
    refine ⟨_, by rw [hfc]; rfl, ?_⟩
    rw [handleWriteMultipleRegistersRequest, CallbackM.checkCallFinish_ok hcheck]
    exact finishEcho_ok hdata.2
  | maskWriteRegister address andMask orMask =>
    obtain ⟨hfc, hcheck⟩ := hread
    refine ⟨_, by rw [hfc]; rfl, ?_⟩
    rw [handleMaskWriteRegisterRequest, CallbackM.checkCallFinish_ok hcheck]
    dsimp only
    rw [hdata.2]
    rfl
  | readWriteMultipleRegisters readAddress readQuantity writeAddress writeValues =>
    obtain ⟨hfc, ⟨_, _, _, _, _, _⟩, _, rfl, rfl, rfl, rfl, _, hcheck⟩ := hread
    obtain ⟨_, hquantity, h⟩ := bind_eq_ok.mp hlimits
    have hcast : (UInt16.ofNat writeValues.length).toNat = writeValues.length := by
      rw [UInt16.toNat_ofNat']
      have := hrange.2
      omega
    rw [unlessOverflow_of_le _ hrange.1, unlessOverflow_of_le _ (by
      rw [hcast]
      exact hrange.2)] at hcheck
    refine ⟨_, by rw [hfc]; rfl, ?_⟩
    rw [handleReadWriteMultipleRegistersRequest, CallbackM.checkCallFinish_ok hcheck]
    exact finishWordRead_fills hdata.2 (outside_eq_false.mp (guardErr_eq_ok.mp hquantity)).2
      hdata.1
  | readFifoQueue address =>
    obtain ⟨hfc, hcheck⟩ := hread
    obtain ⟨⟨words, hwords, rfl⟩, hfills⟩ := hdata
    refine ⟨_, by rw [hfc]; rfl, ?_⟩
    rw [handleReadFifoQueueRequest, CallbackM.checkCallFinish_ok hcheck]
    exact finishFifo_fills hwords hfills

end Serve

end BuilderCall

/-! ### The client's reading of it -/

namespace ClientCall

/-- The call of the request builder, for the function codes that access coils, inputs, registers
and FIFO queues. -/
def builder : ClientCall → Option BuilderCall
  | .readMultipleCoils address quantity => some (.readCoils address quantity)
  | .readSingleCoil address => some (.readCoils address 1)
  | .writeSingleCoil address value => some (.writeSingleCoil address value)
  | .writeMultipleCoils address values =>
    some (.writeMultipleCoils address values.quantity values)
  | .readDiscreteInputs address quantity => some (.readDiscreteInputs address quantity)
  | .readSingleDiscreteInput address => some (.readDiscreteInputs address 1)
  | .readHoldingRegisters fromAddress quantity => some (.readHoldingRegisters fromAddress quantity)
  | .readSingleHoldingRegister address => some (.readHoldingRegisters address 1)
  | .readInputRegisters address quantity => some (.readInputRegisters address quantity)
  | .readSingleInputRegister address => some (.readInputRegisters address 1)
  | .writeSingleRegister address value => some (.writeSingleRegister address value)
  | .writeMultipleRegisters address quantity values =>
    some (.writeMultipleRegisters address quantity values)
  | .readWriteMultipleRegisters readAddress readQuantity writeAddress writeValues =>
    some (.readWriteMultipleRegisters readAddress readQuantity writeAddress writeValues)
  | .maskWriteRegister address andMask orMask => some (.maskWriteRegister address andMask orMask)
  | .readFifoQueue address => some (.readFifoQueue address)
  | _ => none

lemma pdu_builder {call : ClientCall} {b : BuilderCall} (h : call.builder = some b) :
    call.pdu = b.pdu := by
  cases call <;> cases h <;> rfl

section Deliver

variable [Features]

/-- The block has the addresses of the request and the bits of the data. -/
def HoldsBits (block : BitBlock) (address quantity : UInt16) (data : List UInt8) : Prop :=
  block.fromAddress = address ∧ block.quantity = quantity ∧
    ∀ i < quantity.toNat, block.value (address + UInt16.ofNat i) = .ok (bitAt data i)

/-- The registers have the addresses of the request and these words. -/
def HoldsWords (registers : HoldingRegisters) (address quantity : UInt16) (words : List UInt16) :
    Prop :=
  registers.fromAddress = address ∧ registers.quantity = quantity ∧
    ∀ i < quantity.toNat, registers.value (address + UInt16.ofNat i) = .ok (words.getD i 0)

/-- The callback tells the application the addresses of the request and the data. -/
def Delivers (data : List UInt8) : ClientCall → ResponseCallback → Prop
  | .readMultipleCoils address quantity, .readCoils coils => HoldsBits coils address quantity data
  | .readSingleCoil address, .readSingleCoil at' value => at' = address ∧ value = bitAt data 0
  | .writeSingleCoil address value, .writeSingleCoil at' written =>
    at' = address ∧ written = value
  | .writeMultipleCoils address values, .writeMultipleCoils at' quantity =>
    at' = address ∧ quantity = values.quantity
  | .readDiscreteInputs address quantity, .readMultipleDiscreteInputs inputs =>
    HoldsBits inputs address quantity data
  | .readSingleDiscreteInput address, .readSingleDiscreteInput at' value =>
    at' = address ∧ value = bitAt data 0
  | .readHoldingRegisters address quantity, .readMultipleHoldingRegisters registers =>
    HoldsWords registers address quantity (beWords data)
  | .readSingleHoldingRegister address, .readSingleHoldingRegister at' value =>
    at' = address ∧ [value] = beWords data
  | .readInputRegisters address quantity, .readMultipleInputRegisters registers =>
    HoldsWords registers address quantity (beWords data)
  | .readSingleInputRegister address, .readSingleInputRegister at' value =>
    at' = address ∧ [value] = beWords data
  | .writeSingleRegister address value, .writeSingleRegister at' written =>
    at' = address ∧ written = value
  | .writeMultipleRegisters address quantity _, .writeMultipleRegisters at' count =>
    at' = address ∧ count = quantity
  | .readWriteMultipleRegisters readAddress readQuantity _ _,
      .readWriteMultipleRegisters registers =>
    HoldsWords registers readAddress readQuantity (beWords data)
  | .maskWriteRegister _ _ _, .maskWriteRegister => True
  | .readFifoQueue address, .readFifoQueue fifoQueue =>
    fifoQueue.ptrAddress = address ∧
      fifoQueue.queue.toList.take fifoQueue.length = beWords (data.drop 2)
  | _, _ => False

variable {pdu : Pdu} {address quantity : UInt16} {data : List UInt8}

omit [Features] in
lemma beWords_length_of_even (hlen : data.length = quantity.toNat * 2) :
    (beWords data).length = quantity.toNat := by
  rw [beWords_length, hlen, Nat.mul_div_cancel _ (by decide)]

lemma holdsBits_of_withValues (hquantity : quantity.toNat ≤ maxCoilsPerPdu)
    (hrange : address.toNat + quantity.toNat ≤ 65535)
    (hlen : data.length = (quantity.toNat + 7) / 8) {block : BitBlock}
    (h : BitBlock.withValues ⟨address, quantity, .replicate _ 0, hquantity⟩ data quantity =
      .ok block) : HoldsBits block address quantity data := by
  obtain ⟨loaded, hloaded, hfrom, hcount, hbits⟩ :=
    BitBlock.withValues_ok ⟨address, quantity, .replicate _ 0, hquantity⟩ (Nat.le_of_eq hlen.symm)
  cases h.symm.trans hloaded
  refine ⟨hfrom, hcount, fun i hi => ?_⟩
  have hvalue := block.value_add (i := i) (by rwa [hfrom, hcount]) (by rwa [hcount])
  rw [hfrom] at hvalue
  rw [hvalue, hbits i hi]

lemma holdsWords_of_withValues (hquantity : quantity.toNat ≤ maxRegistersPerPdu)
    (hrange : address.toNat + quantity.toNat ≤ 65535) (hlen : data.length = quantity.toNat * 2)
    {registers : HoldingRegisters}
    (h : Registers.withValues ⟨address, quantity, .replicate _ 0, hquantity⟩ (beWords data)
      quantity = .ok registers) :
    HoldsWords registers address quantity (beWords data) ∧
      ∀ i < quantity.toNat, registers.values.toList.getD i 0 = (beWords data).getD i 0 := by
  have hwords := beWords_length_of_even hlen
  obtain ⟨loaded, hloaded, hfrom, hcount, htake⟩ :=
    Registers.withValues_ok ⟨address, quantity, .replicate _ 0, hquantity⟩ hwords
  cases h.symm.trans hloaded
  have hvalues : ∀ i < quantity.toNat,
      registers.values.toList.getD i 0 = (beWords data).getD i 0 :=
    fun i hi => getD_of_take htake (by rwa [hwords]) 0
  refine ⟨⟨hfrom, hcount, fun i hi => ?_⟩, hvalues⟩
  have hvalue := registers.value_add (i := i) (by rwa [hfrom, hcount]) (by rwa [hcount])
  rw [hfrom] at hvalue
  rw [hvalue, hvalues i hi]

/-! ### Both together -/

omit [Features] in
lemma countsBytes_answer {fc : FunctionCode} {p : Pdu}
    (h : Pdu.buildByteCountPayload fc data = .ok p) : p.functionCode = fc ∧ p.CountsBytes data := by
  obtain ⟨_, hnew, hdata⟩ := Pdu.buildByteCountPayload_eq_ok h
  exact ⟨congrArg Pdu.functionCode hnew, hdata⟩

omit [Features] in
lemma holdsPair_answer {fc : FunctionCode} {first second : UInt16} {p : Pdu}
    (h : Pdu.buildWriteSingleU16 fc first second = .ok p) :
    p.functionCode = fc ∧ p.HoldsPair first second := by
  obtain ⟨hnew, hdata⟩ := Pdu.buildWriteSingleU16_eq_ok h
  exact ⟨congrArg Pdu.functionCode hnew, hdata⟩

omit [Features] in
lemma holdsFifo_answer {words : List UInt16} {p : Pdu}
    (hwords : words.length ≤ maxFifoQueueCountPerPdu)
    (h : Pdu.buildFifoPayload (toBeBytes (UInt16.ofNat words.length) ++
      words.flatMap toBeBytes) = .ok p) :
    p.functionCode = .readFifoQueue ∧ p.HoldsFifo words := by
  obtain ⟨_, hnew, hdata⟩ := Pdu.buildFifoPayload_eq_ok h
  rw [List.length_append, toBeBytes_length, flatMap_toBeBytes_length] at hdata
  refine ⟨congrArg Pdu.functionCode hnew, hwords, ?_⟩
  rw [hdata, List.append_assoc]

lemma deliver_of_parse {call : ClientCall} {p : Pdu} {callback : ResponseCallback}
    (h : call.handler.parse call.operationMeta p = .ok (some callback)) :
    call.deliver p = .ok (some callback) := by
  rw [deliver, ResponseHandler.run, h]

lemma holdsBits_first {block : BitBlock} (h : HoldsBits block address 1 data) :
    block.value address = .ok (bitAt data 0) := by
  have hvalue : block.value (address + 0) = _ := h.2.2 0 (by decide)
  rwa [UInt16.add_zero] at hvalue

omit [Features] in
lemma beWords_single (hlen : data.length = (1 : UInt16).toNat * 2) :
    [(beWords data).getD 0 0] = beWords data := by
  obtain ⟨word, hword⟩ := List.length_eq_one_iff.mp (beWords_length_of_even hlen)
  rw [hword]
  rfl

/-- The FIFO queue that is delivered has the pointer address 0, whatever was asked for. -/
def KeepsPointer : ClientCall → Prop
  | .readFifoQueue address => address = 0
  | _ => True

variable {σ : Type} {app : ModbusAppHandler σ} {txnId : UInt16} {unit : UnitIdOrSlaveAddr} {s : σ}

lemma delivers_iff (call : ClientCall) {b : BuilderCall} (hb : call.builder = some b)
    (hlimits : b.pdu = .ok pdu) (hrange : b.InRange) (hdata : b.Supplies app txnId unit s data)
    {p : Pdu} (hanswer : b.answerPdu data = .ok p) :
    ∃ callback, call.deliver p = .ok (some callback) ∧
      (call.Delivers data callback ↔ call.KeepsPointer) := by
  cases call with
  | readMultipleCoils address quantity =>
    cases hb
    obtain ⟨_, hquantity, _⟩ := bind_eq_ok.mp hlimits
    have hle := (outside_eq_false.mp (guardErr_eq_ok.mp hquantity)).2
    obtain ⟨hfc, hbytes⟩ := countsBytes_answer hanswer
    obtain ⟨block, hblock, hhandle⟩ := handleReadCoilRsp_eq_ok _ hfc hbytes hdata.1 hle
    refine ⟨.readCoils block, deliver_of_parse ?_,
      iff_of_true (holdsBits_of_withValues hle hrange hdata.1 hblock) trivial⟩
    change handleReadCoilsResponse (.multiple address quantity) p = _
    rw [handleReadCoilsResponse, OperationMeta.quantity, OperationMeta.address, hhandle]
    rfl
  | readSingleCoil address =>
    cases hb
    obtain ⟨hfc, hbytes⟩ := countsBytes_answer hanswer
    obtain ⟨block, hblock, hhandle⟩ := handleReadCoilRsp_eq_ok _ hfc hbytes hdata.1 (by decide)
    have hvalue := holdsBits_first (holdsBits_of_withValues (by decide) hrange hdata.1 hblock)
    refine ⟨.readSingleCoil address (bitAt data 0), deliver_of_parse ?_,
      iff_of_true ⟨rfl, rfl⟩ trivial⟩
    change handleReadCoilsResponse (.single address 0) p = _
    rw [handleReadCoilsResponse, OperationMeta.quantity, OperationMeta.address, hhandle, ok_bind,
      OperationMeta.isSingle, if_pos rfl, hvalue]
    rfl
  | writeSingleCoil address value =>
    cases hb
    obtain ⟨hfc, hpair⟩ := holdsPair_answer hanswer
    exact ⟨.writeSingleCoil address value,
      deliver_of_parse (handleWriteSingleCoilResponse_eq_ok value hfc hpair),
      iff_of_true ⟨rfl, rfl⟩ trivial⟩
  | writeMultipleCoils address values =>
    cases hb
    obtain ⟨hfc, hpair⟩ := holdsPair_answer hanswer
    exact ⟨.writeMultipleCoils address values.quantity,
      deliver_of_parse (handleWriteMultipleCoilsResponse_eq_ok hfc hpair),
      iff_of_true ⟨rfl, rfl⟩ trivial⟩
  | readDiscreteInputs address quantity =>
    cases hb
    obtain ⟨_, hquantity, _⟩ := bind_eq_ok.mp hlimits
    have hle := (outside_eq_false.mp (guardErr_eq_ok.mp hquantity)).2
    obtain ⟨hfc, hbytes⟩ := countsBytes_answer hanswer
    obtain ⟨block, hblock, hhandle⟩ :=
      handleReadDiscreteInputsResponse_eq_ok _ hfc hbytes hdata.1 hle
    refine ⟨.readMultipleDiscreteInputs block, deliver_of_parse ?_,
      iff_of_true (holdsBits_of_withValues hle hrange hdata.1 hblock) trivial⟩
    change handleReadDiscreteInputs (.multiple address quantity) p = _
    rw [handleReadDiscreteInputs, OperationMeta.address, OperationMeta.quantity, hhandle]
    rfl
  | readSingleDiscreteInput address =>
    cases hb
    obtain ⟨hfc, hbytes⟩ := countsBytes_answer hanswer
    obtain ⟨block, hblock, hhandle⟩ :=
      handleReadDiscreteInputsResponse_eq_ok _ hfc hbytes hdata.1 (by decide)
    have hvalue := holdsBits_first (holdsBits_of_withValues (by decide) hrange hdata.1 hblock)
    refine ⟨.readSingleDiscreteInput address (bitAt data 0), deliver_of_parse ?_,
      iff_of_true ⟨rfl, rfl⟩ trivial⟩
    change handleReadDiscreteInputs (.single address 0) p = _
    rw [handleReadDiscreteInputs, OperationMeta.address, OperationMeta.quantity, hhandle, ok_bind,
      OperationMeta.isSingle, if_pos rfl, hvalue]
    rfl
  | readHoldingRegisters address quantity =>
    cases hb
    obtain ⟨_, hquantity, _⟩ := bind_eq_ok.mp hlimits
    have hle := (outside_eq_false.mp (guardErr_eq_ok.mp hquantity)).2
    obtain ⟨hfc, hbytes⟩ := countsBytes_answer hanswer
    obtain ⟨registers, hregisters, hhandle⟩ := handleReadRegistersRsp_eq_ok _ hfc hbytes hdata.1 hle
    refine ⟨.readMultipleHoldingRegisters registers, deliver_of_parse ?_,
      iff_of_true (holdsWords_of_withValues hle hrange hdata.1 hregisters).1 trivial⟩
    change handleReadHoldingRegistersResponse (.multiple address quantity) p = _
    rw [handleReadHoldingRegistersResponse, ServiceDecompiler.handleReadHoldingRegisterRsp,
      OperationMeta.quantity, OperationMeta.address, hhandle]
    rfl
  | readSingleHoldingRegister address =>
    cases hb
    obtain ⟨hfc, hbytes⟩ := countsBytes_answer hanswer
    obtain ⟨registers, hregisters, hhandle⟩ :=
      handleReadRegistersRsp_eq_ok _ hfc hbytes hdata.1 (by decide)
    have hvalues := (holdsWords_of_withValues (by decide) hrange hdata.1 hregisters).2
    refine ⟨.readSingleHoldingRegister address ((beWords data).getD 0 0), deliver_of_parse ?_,
      iff_of_true ⟨rfl, beWords_single hdata.1⟩ trivial⟩
    change handleReadHoldingRegistersResponse (.single address 0) p = _
    rw [handleReadHoldingRegistersResponse, ServiceDecompiler.handleReadHoldingRegisterRsp,
      OperationMeta.quantity, OperationMeta.address, hhandle, ok_bind, OperationMeta.isSingle,
      if_pos rfl, List.head?_eq_getElem?, ← List.getD_eq_getElem?_getD, hvalues 0 (by decide)]
    rfl
  | readInputRegisters address quantity =>
    cases hb
    obtain ⟨_, hquantity, _⟩ := bind_eq_ok.mp hlimits
    have hle := (outside_eq_false.mp (guardErr_eq_ok.mp hquantity)).2
    obtain ⟨hfc, hbytes⟩ := countsBytes_answer hanswer
    obtain ⟨registers, hregisters, hhandle⟩ := handleReadRegistersRsp_eq_ok _ hfc hbytes hdata.1 hle
    refine ⟨.readMultipleInputRegisters registers, deliver_of_parse ?_,
      iff_of_true (holdsWords_of_withValues hle hrange hdata.1 hregisters).1 trivial⟩
    change handleReadInputRegistersResponse (.multiple address quantity) p = _
    rw [handleReadInputRegistersResponse, ServiceDecompiler.handleReadInputRegisterRsp,
      OperationMeta.quantity, OperationMeta.address, hhandle]
    rfl
  | readSingleInputRegister address =>
    cases hb
    obtain ⟨hfc, hbytes⟩ := countsBytes_answer hanswer
    obtain ⟨registers, hregisters, hhandle⟩ :=
      handleReadRegistersRsp_eq_ok _ hfc hbytes hdata.1 (by decide)
    have hvalue : registers.value (address + 0) = _ :=
      (holdsWords_of_withValues (by decide) hrange hdata.1 hregisters).1.2.2 0 (by decide)
    rw [UInt16.add_zero] at hvalue
    refine ⟨.readSingleInputRegister address ((beWords data).getD 0 0), deliver_of_parse ?_,
      iff_of_true ⟨rfl, beWords_single hdata.1⟩ trivial⟩
    change handleReadInputRegistersResponse (.single address 0) p = _
    rw [handleReadInputRegistersResponse, ServiceDecompiler.handleReadInputRegisterRsp,
      OperationMeta.quantity, OperationMeta.address, hhandle, ok_bind, OperationMeta.isSingle,
      if_pos rfl, hvalue]
    rfl
  | writeSingleRegister address value =>
    cases hb
    obtain ⟨hfc, hpair⟩ := holdsPair_answer hanswer
    exact ⟨.writeSingleRegister address value,
      deliver_of_parse (handleWriteSingleRegisterResponse_eq_ok hfc hpair),
      iff_of_true ⟨rfl, rfl⟩ trivial⟩
  | writeMultipleRegisters address quantity values =>
    cases hb
    obtain ⟨hfc, hpair⟩ := holdsPair_answer hanswer
    exact ⟨.writeMultipleRegisters address quantity,
      deliver_of_parse (handleWriteMultipleRegistersResponse_eq_ok hfc hpair),
      iff_of_true ⟨rfl, rfl⟩ trivial⟩
  | readWriteMultipleRegisters readAddress readQuantity writeAddress writeValues =>
    cases hb
    obtain ⟨_, hquantity, _⟩ := bind_eq_ok.mp hlimits
    have hle := (outside_eq_false.mp (guardErr_eq_ok.mp hquantity)).2
    obtain ⟨hfc, hbytes⟩ := countsBytes_answer hanswer
    obtain ⟨registers, hregisters, hhandle⟩ := handleReadRegistersRsp_eq_ok _ hfc hbytes hdata.1 hle
    refine ⟨.readWriteMultipleRegisters registers, deliver_of_parse ?_,
      iff_of_true (holdsWords_of_withValues hle hrange.1 hdata.1 hregisters).1 trivial⟩
    change handleReadWriteMultipleRegistersResponse (.multiple readAddress readQuantity) p = _
    rw [handleReadWriteMultipleRegistersResponse,
      ServiceDecompiler.handleReadWriteMultipleRegistersRsp, OperationMeta.quantity,
      OperationMeta.address, hhandle]
    rfl
  | maskWriteRegister address andMask orMask =>
    cases hb
    obtain ⟨hnew, hlayout⟩ := Pdu.buildMaskWriteRegister_eq_ok hanswer
    exact ⟨.maskWriteRegister, deliver_of_parse (handleMaskWriteRegisterResponse_eq_ok
      (congrArg Pdu.functionCode hnew) hlayout), iff_of_true trivial trivial⟩
  | readFifoQueue address =>
    cases hb
    obtain ⟨⟨words, hwords, rfl⟩, _⟩ := hdata
    obtain ⟨hfc, hfifo⟩ := holdsFifo_answer hwords hanswer
    obtain ⟨copied, hcopy, hhandle⟩ := handleReadFifoQueueResponse_eq_ok hfc hfifo
    refine ⟨_, deliver_of_parse hhandle, ?_⟩
    have hlength : ((FifoQueue.new 0).withValues copied words.length).length = words.length :=
      Nat.min_eq_left hwords
    have hqueue : ((FifoQueue.new 0).withValues copied words.length).queue.toList.take
        words.length = words := copyFront_take hcopy
    have hrest : beWords ((toBeBytes (UInt16.ofNat words.length) ++
        words.flatMap toBeBytes).drop 2) = words := beWords_flatMap_toBeBytes words
    rw [Delivers, hlength, hqueue, hrest, KeepsPointer, eq_comm]
    exact and_iff_left rfl
  | _ => cases hb

omit [Features] in
/-- The data fits a response. -/
lemma answerPdu_ok {b : BuilderCall} (hlimits : b.pdu = .ok pdu)
    (hdata : b.Supplies app txnId unit s data) :
    ∃ p fc, b.answerPdu data = .ok p ∧ fc.IsPlain ∧ p = Pdu.new fc p.data := by
  have counted {fc : FunctionCode} (hfc : fc.IsPlain) (hlen : data.length ≤ 251) :
      ∃ p fc', Pdu.buildByteCountPayload fc data = .ok p ∧ fc'.IsPlain ∧
        p = Pdu.new fc' p.data := by
    obtain ⟨p, hp⟩ := Pdu.buildByteCountPayload_of_le fc hlen
    exact ⟨p, fc, hp, hfc, (Pdu.buildByteCountPayload_eq_ok hp).2.1⟩
  cases b with
  | readCoils address quantity | readDiscreteInputs address quantity =>
    obtain ⟨_, hquantity, _⟩ := bind_eq_ok.mp hlimits
    have hle : quantity.toNat ≤ 2000 := (outside_eq_false.mp (guardErr_eq_ok.mp hquantity)).2
    refine counted (by decide) ?_
    rw [hdata.1, packedBitLen]
    omega
  | readHoldingRegisters address quantity | readInputRegisters address quantity =>
    obtain ⟨_, hquantity, _⟩ := bind_eq_ok.mp hlimits
    have hle : quantity.toNat ≤ 125 := (outside_eq_false.mp (guardErr_eq_ok.mp hquantity)).2
    refine counted (by decide) ?_
    rw [hdata.1]
    omega
  | readWriteMultipleRegisters readAddress readQuantity writeAddress writeValues =>
    obtain ⟨_, hquantity, _⟩ := bind_eq_ok.mp hlimits
    have hle : readQuantity.toNat ≤ 125 := (outside_eq_false.mp (guardErr_eq_ok.mp hquantity)).2
    refine counted (by decide) ?_
    rw [hdata.1]
    omega
  | writeSingleCoil | writeSingleRegister | writeMultipleCoils | writeMultipleRegisters =>
    exact ⟨_, _, rfl, by decide, rfl⟩
  | maskWriteRegister => exact ⟨_, .maskWriteRegister, rfl, by decide, rfl⟩
  | readFifoQueue address =>
    obtain ⟨⟨words, hwords, rfl⟩, _⟩ := hdata
    have hle : words.length ≤ 31 := hwords
    obtain ⟨p, hp⟩ := Pdu.buildFifoPayload_of_le (show
        (toBeBytes (UInt16.ofNat words.length) ++ words.flatMap toBeBytes).length ≤ 250 by
      rw [List.length_append, toBeBytes_length, flatMap_toBeBytes_length]
      omega)
    exact ⟨p, .readFifoQueue, hp, by decide, (Pdu.buildFifoPayload_eq_ok hp).2.1⟩

/-- The frame decodes to a normal response, and the handler of the request passes the data on. -/
def Receives (call : ClientCall) (tt : TransportType) (adu : Adu) (data : List UInt8) : Prop :=
  ∃ message callback, decompileAduFrame adu.toList tt = .ok message ∧
    message.pdu.errorCode = none ∧ call.deliver message.pdu = .ok (some callback) ∧
    call.Delivers data callback

/-- What the client's application receives in a compiled response. -/
lemma receives_compiled {call : ClientCall} {b : BuilderCall} (hb : call.builder = some b)
    (hlimits : b.pdu = .ok pdu) (hrange : b.InRange) {tt : TransportType}
    (hunit : tt.isSerialType = true → unit.get ≤ 247)
    (hdata : b.Supplies app txnId unit s data) {p : Pdu} {fc : FunctionCode} (hfc : fc.IsPlain)
    (hanswer : b.answerPdu data = .ok p) (hnew : p = Pdu.new fc p.data) {adu : Adu}
    (hadu : compileAduFrame txnId unit.get p tt = .ok adu) :
    call.Receives tt adu data ↔ call.KeepsPointer := by
  have hdecode : Pdu.fromBytes p.rawBytes = .ok p := by
    rw [hnew]
    exact Pdu.fromBytes_rawBytes_new hfc p.data
  obtain ⟨message, hmessage, _, _, rfl⟩ := decompileAduFrame_compiled hadu hdecode hunit
  obtain ⟨callback, hdeliver, hiff⟩ := delivers_iff call hb hlimits hrange hdata hanswer
  constructor
  · rintro ⟨message', callback', hmessage', _, hdeliver', hdelivers⟩
    cases hmessage.symm.trans hmessage'
    cases hdeliver.symm.trans hdeliver'
    exact hiff.mp hdelivers
  · intro hpointer
    exact ⟨message, callback, hmessage, congrArg Pdu.errorCode hnew, hdeliver,
      hiff.mpr hpointer⟩

variable (app) in
/-- The server answers every request in range with the data of its application. The client's
application receives the data under the addresses of its request, unless it has asked for a FIFO
queue at a pointer address other than 0. -/
theorem receives_iff (call : ClientCall) {b : BuilderCall} (hb : call.builder = some b)
    (hbuild : call.pdu = .ok pdu) (hrange : b.InRange) (tt : TransportType)
    (hunit : tt.isSerialType = true → unit.get ≤ 247) (c : Client AppCall σ)
    (hdata : b.Supplies app txnId unit c.state data) :
    ∃ m, dataAccessHandler app tt txnId unit pdu pdu.functionCode = some m ∧
      ((tt.IsAscii → Features.serialAscii = true) → ∃ adu, (m.run c).1 = .ok adu) ∧
      ∀ adu, (m.run c).1 = .ok adu → (call.Receives tt adu data ↔ call.KeepsPointer) := by
  rw [pdu_builder hb] at hbuild
  obtain ⟨m, hm, hrun⟩ := b.serves app (b.readBack hbuild) hbuild hrange hdata
  obtain ⟨p, fc, hanswer, hfc, hnew⟩ := answerPdu_ok hbuild hdata
  rw [hanswer, Except.ok_bind] at hrun
  refine ⟨m, hm, fun hascii => ?_, fun adu hadu => ?_⟩
  · obtain ⟨adu, hadu, _⟩ := compileAduFrame_ok tt txnId unit.get p (fitsFrame_rawBytes _ hascii)
    exact ⟨adu, by rw [hrun, hadu, lift_ok]⟩
  · rw [hrun, lift_eq_ok] at hadu
    exact receives_compiled hb hbuild hrange hunit hdata hfc hanswer hnew hadu

end Deliver

end ClientCall

/-! ### Two answers -/

/-- An application with one holding register and a FIFO queue of one word. -/
def oneWordApp : ModbusAppHandler Unit :=
  { refusingApp with
    readMultipleHoldingRegistersRequest := fun _ _ _ _ out s =>
      ((.ok 2, (out.setIfInBounds 0 0x12).setIfInBounds 1 0x34), s)
    readFifoQueueRequest := fun _ _ _ out s =>
      ((.ok 4, ((out.setIfInBounds 1 0x01).setIfInBounds 2 0x12).setIfInBounds 3 0x34), s) }

namespace ClientCall

/-- The holding register at address 107, on an RTU line. -/
theorem receives_readRegister :
    letI : Features := Features.minimal
    ∃ adu pdu m, (readHoldingRegisters 107 1).pdu = .ok pdu ∧
      dataAccessHandler oneWordApp (.stdSerial .rtu) 0 ⟨17, Or.inl (by decide)⟩ pdu
        pdu.functionCode = some m ∧ (m.run ⟨(), []⟩).1 = .ok adu ∧
      (readHoldingRegisters 107 1).Receives (.stdSerial .rtu) adu [0x12, 0x34] := by
  let _ : Features := Features.minimal
  obtain ⟨pdu, hpdu⟩ : ∃ pdu, (readHoldingRegisters 107 1).pdu = .ok pdu := ⟨_, rfl⟩
  obtain ⟨m, hm, hbuilt, hreceives⟩ := receives_iff oneWordApp (readHoldingRegisters 107 1) rfl
    hpdu (show (107 : UInt16).toNat + (1 : UInt16).toNat ≤ 65535 by decide) (.stdSerial .rtu)
    (fun _ => show (17 : UInt8) ≤ 247 by decide) ⟨(), []⟩
    (show (BuilderCall.readHoldingRegisters 107 1).Supplies oneWordApp 0
      ⟨17, Or.inl (by decide)⟩ () [0x12, 0x34] from ⟨rfl, rfl, by decide +kernel⟩)
  obtain ⟨adu, hadu⟩ := hbuilt (fun h => by rcases h with h | h <;> cases h)
  exact ⟨adu, pdu, m, hpdu, hm, hadu, (hreceives adu hadu).mpr trivial⟩

/-- The FIFO queue at pointer address 0x04DE is delivered under the pointer address 0. -/
theorem loses_pointer :
    ¬∀ [Features] {σ : Type} {pdu : Pdu} {unit : UnitIdOrSlaveAddr} {txnId : UInt16}
      {data : List UInt8} (app : ModbusAppHandler σ) (call : ClientCall) {b : BuilderCall},
      call.builder = some b → call.pdu = .ok pdu → b.InRange → ∀ tt : TransportType,
      (tt.isSerialType = true → unit.get ≤ 247) → ∀ c : Client AppCall σ,
      b.Supplies app txnId unit c.state data →
      ∃ m, dataAccessHandler app tt txnId unit pdu pdu.functionCode = some m ∧
        ∀ adu, (m.run c).1 = .ok adu → call.Receives tt adu data := by
  intro h
  let _ : Features := Features.minimal
  obtain ⟨pdu, hpdu⟩ : ∃ pdu, (BuilderCall.readFifoQueue 0x04DE).pdu = .ok pdu := ⟨_, rfl⟩
  have hdata : (BuilderCall.readFifoQueue 0x04DE).Supplies oneWordApp 0 ⟨17, Or.inl (by decide)⟩ ()
      [0x00, 0x01, 0x12, 0x34] :=
    ⟨⟨[0x1234], by decide, rfl⟩, rfl, by decide +kernel⟩
  have hserial {P : Prop} : TransportType.stdTcp.isSerialType = true → P := nofun
  obtain ⟨m, hm, hreceives⟩ :=
    h oneWordApp (readFifoQueue 0x04DE) rfl hpdu trivial .stdTcp hserial ⟨(), []⟩ hdata
  obtain ⟨_, hm', hrun⟩ := (BuilderCall.readFifoQueue 0x04DE).serves oneWordApp
    (BuilderCall.readBack _ hpdu) hpdu trivial hdata
  cases hm.symm.trans hm'
  obtain ⟨p, fc, hanswer, hfc, hnew⟩ := answerPdu_ok hpdu hdata
  obtain ⟨adu, hadu, _⟩ := compileAduFrame_ok .stdTcp 0 17 p
    (fitsFrame_rawBytes _ (by rintro (htype | htype) <;> cases htype))
  rw [hanswer, Except.ok_bind, hadu, lift_ok] at hrun
  have hpointer : (0x04DE : UInt16) = 0 :=
    (receives_compiled rfl hpdu trivial hserial hdata hfc hanswer hnew hadu).mp
      (hreceives adu hrun)
  exact absurd hpointer (by decide)

end ClientCall

end ModbusRs
