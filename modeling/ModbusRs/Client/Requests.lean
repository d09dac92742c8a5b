import ModbusRs.Async.ClientRequests

/-!
# Request builders of the sync client

The `ReqPduCompiler` of every service, over all function-code features, and their use by both
clients: the sync client calls them with slices of any length, and so does the async client call
its encoders.
-/

namespace ModbusRs

open Outcome

/-! ### The builders -/

namespace ReqPduCompiler

/-- `read_coils_request`. -/
def readCoilsRequest (address quantity : UInt16) : Fallible Pdu := do
  guardErr (outside 1 2000 quantity) .invalidQuantity
  lift (Pdu.buildReadWindow .readCoils address quantity)

/-- `write_single_coil_request`. -/
def writeSingleCoilRequest (address : UInt16) (value : Bool) : Fallible Pdu :=
  lift (Pdu.buildWriteSingleU16 .writeSingleCoil address (if value then 0xFF00 else 0x0000))

/-- `write_multiple_coils_request`. -/
def writeMultipleCoilsRequest (address quantity : UInt16) (values : Coils) : Fallible Pdu := do
  guardErr (outside 1 1968 quantity) .invalidPduLength
  let packed ← slice values.values.toList 0 ((quantity.toNat + 7) / 8)
  lift (Pdu.buildWriteMultiple .writeMultipleCoils address quantity packed)

/-- `read_discrete_inputs_request`. -/
def readDiscreteInputsRequest (address quantity : UInt16) : Fallible Pdu := do
  guardErr (outside 1 2000 quantity) .invalidPduLength
  lift (Pdu.buildReadWindow .readDiscreteInputs address quantity)

/-- `read_holding_registers_request`. -/
def readHoldingRegistersRequest (address quantity : UInt16) : Fallible Pdu := do
  guardErr (outside 1 125 quantity) .invalidPduLength
  lift (Pdu.buildReadWindow .readHoldingRegisters address quantity)

/-- `read_input_registers_request`. -/
def readInputRegistersRequest (address quantity : UInt16) : Fallible Pdu := do
  guardErr (outside 1 125 quantity) .invalidPduLength
  lift (Pdu.buildReadWindow .readInputRegisters address quantity)

/-- `write_single_register_request`. -/
def writeSingleRegisterRequest (address value : UInt16) : Fallible Pdu :=
  lift (Pdu.buildWriteSingleU16 .writeSingleRegister address value)

/-- The loop that packs register words into bytes. -/
def packWords (values : List UInt16) : Except MbusError (HVec UInt8 maxPduDataLen) :=
  values.foldlM (fun (packed : HVec UInt8 maxPduDataLen) v =>
    packed.extendOr (toBeBytes v) .bufferLenMissmatch) .empty

/-- `write_multiple_registers_request`. -/
def writeMultipleRegistersRequest (address quantity : UInt16) (values : List UInt16) :
    Fallible Pdu := do
  guardErr (outside 1 123 quantity) .invalidPduLength
  guardErr (UInt16.ofNat values.length != quantity) .invalidPduLength
  let packed ← lift (packWords values)
  lift (Pdu.buildWriteMultiple .writeMultipleRegisters address quantity packed.toList)

/-- `read_write_multiple_registers_request`. -/
def readWriteMultipleRegistersRequest (readAddress readQuantity writeAddress : UInt16)
    (writeValues : List UInt16) : Fallible Pdu := do
  guardErr (outside 1 125 readQuantity) .invalidPduLength
  let writeQuantity := UInt16.ofNat writeValues.length
  guardErr (outside 1 121 writeQuantity) .invalidPduLength
  let packed ← lift (packWords writeValues)
  lift (Pdu.buildReadWriteMultiple readAddress readQuantity writeAddress writeQuantity
    packed.toList)

/-- `mask_write_register_request`. -/
def maskWriteRegisterRequest (address andMask orMask : UInt16) : Fallible Pdu :=
  lift (Pdu.buildMaskWriteRegister address andMask orMask)

/-- `read_fifo_queue_request`. -/
def readFifoQueueRequest (address : UInt16) : Fallible Pdu :=
  lift (Pdu.buildU16Payload .readFifoQueue address)

/-- `read_file_record_request`. -/
def readFileRecordRequest (subRequest : SubRequest) : Fallible Pdu := do
  let dataBytes ← lift subRequest.toSubReqPduBytes
  pure (Pdu.new .readFileRecord dataBytes)

/-- `write_file_record_request`. -/
def writeFileRecordRequest (subRequest : SubRequest) : Fallible Pdu := do
  let dataBytes ← lift subRequest.toSubReqPduBytes
  pure (Pdu.new .writeFileRecord dataBytes)

/-- `read_exception_status_request`. -/
def readExceptionStatusRequest : Fallible Pdu := pure (Pdu.buildEmpty .readExceptionStatus)

/-- `diagnostics_request`. -/
def diagnosticsRequest (subFunction : DiagnosticSubFunction) (data : List UInt16) :
    Fallible Pdu := do
  guardErr (data.length > 125) .invalidPduLength
  lift (Pdu.buildSubFunction .diagnostics subFunction.toU16 data)

/-- `get_comm_event_counter_request`. -/
def getCommEventCounterRequest : Fallible Pdu := pure (Pdu.buildEmpty .getCommEventCounter)

/-- `get_comm_event_log_request`. -/
def getCommEventLogRequest : Fallible Pdu := pure (Pdu.buildEmpty .getCommEventLog)

/-- `report_server_id_request`. -/
def reportServerIdRequest : Fallible Pdu := pure (Pdu.buildEmpty .reportServerId)

/-- `encapsulated_interface_transport_request`. -/
def encapsulatedInterfaceTransportRequest (meiType : Option EncapsulatedInterfaceType)
    (data : List UInt8) : Fallible Pdu :=
  lift (Pdu.buildMeiType .encapsulatedInterfaceTransport (meiTypeToByte meiType) data)

/-- `read_device_identification_request`. -/
def readDeviceIdentificationRequest (readDeviceIdCode : ReadDeviceIdCode) (objectId : ObjectId) :
    Fallible Pdu :=
  lift (Pdu.buildMeiType .encapsulatedInterfaceTransport
    (meiTypeToByte (some .readDeviceIdentification)) [readDeviceIdCode.toByte, objectId.toByte])

end ReqPduCompiler

/-! ### Requests with slices of any length -/

/-- The arguments of a request, which both clients know. -/
inductive RequestArguments where
  | readCoils (address quantity : UInt16)
  | writeSingleCoil (address : UInt16) (value : Bool)
  | writeMultipleCoils (address : UInt16) (coils : Coils)
  | readDiscreteInputs (address quantity : UInt16)
  | readHoldingRegisters (address quantity : UInt16)
  | readInputRegisters (address quantity : UInt16)
  | writeSingleRegister (address value : UInt16)
  | writeMultipleRegisters (address : UInt16) (values : List UInt16)
  | readWriteMultipleRegisters (readAddress readQuantity writeAddress : UInt16)
      (writeValues : List UInt16)
  | maskWriteRegister (address andMask orMask : UInt16)
  | readFifoQueue (address : UInt16)
  | readFileRecord (subRequest : SubRequest)
  | writeFileRecord (subRequest : SubRequest)
  | readDeviceIdentification (readDeviceIdCode : ReadDeviceIdCode) (objectId : ObjectId)
  | encapsulatedInterfaceTransport (meiType : Option EncapsulatedInterfaceType) (data : List UInt8)
  | readExceptionStatus
  | diagnostics (subFunction : DiagnosticSubFunction) (data : List UInt16)
  | getCommEventCounter
  | getCommEventLog
  | reportServerId

namespace RequestArguments

open ReqPduCompiler in
/-- The PDU of the sync client. It passes the length of the values as the quantity. -/
def requestPdu : RequestArguments → Fallible Pdu
  | .readCoils address quantity => readCoilsRequest address quantity
  | .writeSingleCoil address value => writeSingleCoilRequest address value
  | .writeMultipleCoils address coils => writeMultipleCoilsRequest address coils.quantity coils
  | .readDiscreteInputs address quantity => readDiscreteInputsRequest address quantity
  | .readHoldingRegisters address quantity => readHoldingRegistersRequest address quantity
  | .readInputRegisters address quantity => readInputRegistersRequest address quantity
  | .writeSingleRegister address value => writeSingleRegisterRequest address value
  | .writeMultipleRegisters address values =>
    writeMultipleRegistersRequest address (UInt16.ofNat values.length) values
  | .readWriteMultipleRegisters readAddress readQuantity writeAddress writeValues =>
    readWriteMultipleRegistersRequest readAddress readQuantity writeAddress writeValues
  | .maskWriteRegister address andMask orMask => maskWriteRegisterRequest address andMask orMask
  | .readFifoQueue address => readFifoQueueRequest address
  | .readFileRecord subRequest => readFileRecordRequest subRequest
  | .writeFileRecord subRequest => writeFileRecordRequest subRequest
  | .readDeviceIdentification readDeviceIdCode objectId =>
    readDeviceIdentificationRequest readDeviceIdCode objectId
  | .encapsulatedInterfaceTransport meiType data =>
    encapsulatedInterfaceTransportRequest meiType data
  | .readExceptionStatus => readExceptionStatusRequest
  | .diagnostics subFunction data => diagnosticsRequest subFunction data
  | .getCommEventCounter => getCommEventCounterRequest
  | .getCommEventLog => getCommEventLogRequest
  | .reportServerId => reportServerIdRequest

variable [Features]

/-- The PDU in the frame of the async client's encoder for these arguments. -/
def encodedPdu : RequestArguments → Fallible Pdu
  | .readCoils address quantity => (ClientRequestBody.readMultipleCoils address quantity).toPdu
  | .writeSingleCoil address value => (ClientRequestBody.writeSingleCoil address value).toPdu
  | .writeMultipleCoils address coils => (ClientRequestBody.writeMultipleCoils address coils).toPdu
  | .readDiscreteInputs address quantity =>
    (ClientRequestBody.readDiscreteInputs address quantity).toPdu
  | .readHoldingRegisters address quantity =>
    (ClientRequestBody.readHoldingRegisters address quantity).toPdu
  | .readInputRegisters address quantity =>
    (ClientRequestBody.readInputRegisters address quantity).toPdu
  | .writeSingleRegister address value =>
    (ClientRequestBody.writeSingleRegister address value).toPdu
  | .writeMultipleRegisters address values => do
    let quantity := UInt16.ofNat values.length
    guardErr (outside 1 123 quantity) .invalidQuantity
    let bytePairs ← collectBePairs values
    lift (Pdu.buildWriteMultiple .writeMultipleRegisters address quantity bytePairs.toList)
  | .readWriteMultipleRegisters readAddress readQuantity writeAddress writeValues => do
    let writeQuantity := UInt16.ofNat writeValues.length
    let bytePairs ← collectBePairs writeValues
    lift (Pdu.buildReadWriteMultiple readAddress readQuantity writeAddress writeQuantity
      bytePairs.toList)
  | .maskWriteRegister address andMask orMask =>
    (ClientRequestBody.maskWriteRegister address andMask orMask).toPdu
  | .readFifoQueue address => (ClientRequestBody.readFifoQueue address).toPdu
  | .readFileRecord subRequest => (ClientRequestBody.readFileRecord subRequest).toPdu
  | .writeFileRecord subRequest => (ClientRequestBody.writeFileRecord subRequest).toPdu
  | .readDeviceIdentification readDeviceIdCode objectId =>
    (ClientRequestBody.readDeviceIdentification readDeviceIdCode objectId).toPdu
  | .encapsulatedInterfaceTransport meiType data =>
    lift (Pdu.buildMeiType .encapsulatedInterfaceTransport (meiTypeToByte meiType) data)
  | .readExceptionStatus => ClientRequestBody.readExceptionStatus.toPdu
  | .diagnostics subFunction data =>
    lift (Pdu.buildSubFunction .diagnostics subFunction.toU16 data)
  | .getCommEventCounter => ClientRequestBody.getCommEventCounter.toPdu
  | .getCommEventLog => ClientRequestBody.getCommEventLog.toPdu
  | .reportServerId => ClientRequestBody.reportServerId.toPdu

end RequestArguments

/-- The arguments that `encode_request` takes out of a request. -/
def ClientRequestBody.arguments : ClientRequestBody → RequestArguments
  | .readMultipleCoils address quantity => .readCoils address quantity
  | .writeSingleCoil address value => .writeSingleCoil address value
  | .writeMultipleCoils address coils => .writeMultipleCoils address coils
  | .readDiscreteInputs address quantity => .readDiscreteInputs address quantity
  | .readHoldingRegisters address quantity => .readHoldingRegisters address quantity
  | .readInputRegisters address quantity => .readInputRegisters address quantity
  | .writeSingleRegister address value => .writeSingleRegister address value
  | .writeMultipleRegisters address values => .writeMultipleRegisters address values.toList
  | .readWriteMultipleRegisters readAddress readQuantity writeAddress writeValues =>
    .readWriteMultipleRegisters readAddress readQuantity writeAddress writeValues.toList
  | .maskWriteRegister address andMask orMask => .maskWriteRegister address andMask orMask
  | .readFifoQueue address => .readFifoQueue address
  | .readFileRecord subRequest => .readFileRecord subRequest
  | .writeFileRecord subRequest => .writeFileRecord subRequest
  | .readDeviceIdentification readDeviceIdCode objectId =>
    .readDeviceIdentification readDeviceIdCode objectId
  | .encapsulatedInterfaceTransport meiType data =>
    .encapsulatedInterfaceTransport meiType data.toList
  | .readExceptionStatus => .readExceptionStatus
  | .diagnostics subFunction data => .diagnostics subFunction data.toList
  | .getCommEventCounter => .getCommEventCounter
  | .getCommEventLog => .getCommEventLog
  | .reportServerId => .reportServerId

lemma ClientRequestBody.encodedPdu_arguments [Features] (body : ClientRequestBody) :
    body.arguments.encodedPdu = body.toPdu := by
  cases body <;> rfl

/-! ### What both produce -/

/-- Two encoders fail together and otherwise produce the same PDU, and the second one never
panics. -/
structure Alike (sync async : Fallible Pdu) : Prop where
  returns : async ≠ .panic
  err_iff : (∃ e, async = .err e) ↔ ∃ e, sync = .err e
  same : ∀ pdu, sync = .ok pdu → async = .ok pdu

namespace Alike

lemma refl {x : Fallible Pdu} (h : x ≠ .panic) : Alike x x := ⟨h, Iff.rfl, fun _ h => h⟩

lemma of_lift (x : Except MbusError Pdu) : Alike (lift x) (lift x) := refl (lift_ne_panic x)

lemma of_err (e e' : MbusError) : Alike (.err e) (.err e') :=
  ⟨nofun, iff_of_true ⟨e', rfl⟩ ⟨e, rfl⟩, nofun⟩

/-- Both check the same, and may report it differently. -/
lemma guard {bad : Bool} (e e' : MbusError) {x y : Unit → Fallible Pdu}
    (h : bad = false → Alike (x ()) (y ())) :
    Alike (guardErr bad e >>= x) (guardErr bad e' >>= y) := by
  cases bad with
  | false => exact h rfl
  | true => exact .of_err e e'

end Alike

namespace RequestArguments

/-- Where the async encoder knows no limit, or counts values modulo 2^16, it depends on the
arguments: a register write that counts as one of up to 123 values has to have this many, and a
read and write has to keep its limits unless it has too many values for a PDU anyway. -/
def WithinLimits [Features] : RequestArguments → Prop
  | .writeMultipleRegisters _ values =>
    outside 1 123 (UInt16.ofNat values.length) = false → values.length ≤ 123
  | .readWriteMultipleRegisters _ readQuantity _ writeValues =>
    2 * writeValues.length ≤ maxAduFrameLen ∧
      (writeValues.length ≤ 121 →
        1 ≤ writeValues.length ∧ outside 1 125 readQuantity = false)
  | _ => True

end RequestArguments

namespace ReqPduCompiler

lemma packWords_of_le (values : List UInt16) (h : 2 * values.length ≤ maxPduDataLen) :
    ∃ packed, packWords values = .ok packed ∧ packed.toList = values.flatMap toBeBytes := by
  rw [packWords, HVec.foldlM_extendOr_of_le (by
    rw [HVec.empty_toList, List.length_nil, Nat.zero_add, flatMap_toBeBytes_length]
    exact h)]
  exact ⟨_, rfl, rfl⟩

end ReqPduCompiler

namespace Pdu

variable (readAddress readQuantity writeAddress writeQuantity : UInt16) {writeValues : List UInt8}

lemma buildReadWriteMultiple_of_le (h : writeValues.length ≤ 243) :
    ∃ pdu, buildReadWriteMultiple readAddress readQuantity writeAddress writeQuantity writeValues =
      .ok pdu := by
  rw [buildReadWriteMultiple, decide_eq_false (by omega), Except.guardErr_false, Except.ok_bind,
    decide_eq_false (by
      change ¬_ > 252
      omega), Except.guardErr_false, Except.ok_bind]
  simp only [HVec.pushOr]
  rw [HVec.extendOr_of_le _ (by simp [maxPduDataLen]), Except.ok_bind,
    HVec.extendOr_of_le _ (by simp [maxPduDataLen]), Except.ok_bind,
    HVec.extendOr_of_le _ (by simp [maxPduDataLen]), Except.ok_bind,
    HVec.extendOr_of_le _ (by simp [maxPduDataLen]), Except.ok_bind,
    HVec.extendOr_of_le _ (by simp [maxPduDataLen]), Except.ok_bind,
    HVec.extendOr_of_le _ (by
      simp only [HVec.empty_toList, List.length_append, toBeBytes_length, List.length_nil,
        List.length_singleton]
      change _ ≤ 252
      omega)]
  exact ⟨_, rfl⟩

lemma buildReadWriteMultiple_of_gt (h : 243 < writeValues.length) :
    ∃ e, buildReadWriteMultiple readAddress readQuantity writeAddress writeQuantity writeValues =
      .error e := by
  rw [buildReadWriteMultiple]
  by_cases hlen : writeValues.length > 255
  · rw [decide_eq_true hlen]
    exact ⟨_, rfl⟩
  · rw [decide_eq_false hlen, Except.guardErr_false, Except.ok_bind, decide_eq_true (by
      change _ > 252
      omega)]
    exact ⟨_, rfl⟩

end Pdu

section Alike

variable [Features]

open ReqPduCompiler

lemma alike_writeMultipleCoils (address : UInt16) (coils : Coils) :
    Alike (writeMultipleCoilsRequest address coils.quantity coils)
      (ClientRequestBody.writeMultipleCoils address coils).toPdu := by
  refine Alike.guard _ _ fun hquantity => ?_
  have hle : coils.quantity.toNat ≤ 1968 := (outside_eq_false.mp hquantity).2
  have hfits : (coils.quantity.toNat + 7) / 8 ≤ coils.values.toList.length := by
    rw [Vector.length_toList]
    change _ ≤ 250
    omega
  rw [slice_of_le (Nat.zero_le _) hfits, ok_bind]
  exact .of_lift _

omit [Features] in
lemma alike_diagnostics (subFunction : DiagnosticSubFunction) (data : List UInt16) :
    Alike (diagnosticsRequest subFunction data)
      (lift (Pdu.buildSubFunction .diagnostics subFunction.toU16 data)) := by
  rw [diagnosticsRequest]
  by_cases hlen : data.length > 125
  · have hbuild : Pdu.buildSubFunction .diagnostics subFunction.toU16 data =
        .error .bufferTooSmall := by
      have hlong : 2 + data.length * 2 > maxPduDataLen := by
        change _ > 252
        omega
      rw [Pdu.buildSubFunction, decide_eq_true hlong]
      rfl
    rw [decide_eq_true hlen, hbuild]
    exact .of_err _ _
  · rw [decide_eq_false hlen, guardErr_false, ok_bind]
    exact .of_lift _

lemma alike_writeMultipleRegisters_iff (address : UInt16) (values : List UInt16) :
    Alike (RequestArguments.writeMultipleRegisters address values).requestPdu
      (RequestArguments.writeMultipleRegisters address values).encodedPdu ↔
    (RequestArguments.writeMultipleRegisters address values).WithinLimits := by
  have hmax : 260 ≤ maxAduFrameLen ∧ maxAduFrameLen ≤ 513 := by
    unfold maxAduFrameLen
    split <;> omega
  simp only [RequestArguments.requestPdu, RequestArguments.encodedPdu,
    RequestArguments.WithinLimits, writeMultipleRegistersRequest, bne_self_eq_false,
    guardErr_false, ok_bind]
  cases hquantity : outside 1 123 (UInt16.ofNat values.length) with
  | true => exact iff_of_true (.of_err _ _) nofun
  | false =>
    simp only [guardErr_false, ok_bind, forall_const]
    constructor
    · intro h
      by_contra hlen
      have hle : (UInt16.ofNat values.length).toNat ≤ 123 := (outside_eq_false.mp hquantity).2
      rw [UInt16.toNat_ofNat'] at hle
      refine h.returns ?_
      rw [collectBePairs_eq_panic (by omega), panic_bind]
    · intro hlen
      obtain ⟨pairs, hpairs, hpairsList⟩ := collectBePairs_eq_ok
        (show 2 * values.length ≤ maxAduFrameLen by omega)
      obtain ⟨packed, hpacked, hpackedList⟩ := packWords_of_le values (by
        change _ ≤ 252
        omega)
      rw [hpairs, hpacked, lift_ok, ok_bind, ok_bind, hpairsList, hpackedList]
      exact .of_lift _

lemma alike_readWriteMultipleRegisters_iff (readAddress readQuantity writeAddress : UInt16)
    (writeValues : List UInt16) :
    Alike (RequestArguments.readWriteMultipleRegisters readAddress readQuantity writeAddress
        writeValues).requestPdu
      (RequestArguments.readWriteMultipleRegisters readAddress readQuantity writeAddress
        writeValues).encodedPdu ↔
    (RequestArguments.readWriteMultipleRegisters readAddress readQuantity writeAddress
      writeValues).WithinLimits := by
  have hmax : 260 ≤ maxAduFrameLen ∧ maxAduFrameLen ≤ 513 := by
    unfold maxAduFrameLen
    split <;> omega
  simp only [RequestArguments.requestPdu, RequestArguments.encodedPdu,
    RequestArguments.WithinLimits, readWriteMultipleRegistersRequest]
  by_cases hfits : 2 * writeValues.length ≤ maxAduFrameLen
  · obtain ⟨pairs, hpairs, hpairsList⟩ := collectBePairs_eq_ok hfits
    have hcount : (UInt16.ofNat writeValues.length).toNat = writeValues.length := by
      rw [UInt16.toNat_ofNat']
      omega
    rw [hpairs, ok_bind, hpairsList, and_iff_right hfits]
    by_cases hlen : writeValues.length ≤ 121
    · rw [imp_iff_right hlen]
      have hbytes : (writeValues.flatMap toBeBytes).length ≤ 243 := by
        rw [flatMap_toBeBytes_length]
        omega
      obtain ⟨packed, hpacked, hpackedList⟩ := packWords_of_le writeValues (by
        change _ ≤ 252
        omega)
      obtain ⟨pdu, hpdu⟩ := Pdu.buildReadWriteMultiple_of_le readAddress readQuantity writeAddress
        (UInt16.ofNat writeValues.length) hbytes
      have hwrite : outside 1 121 (UInt16.ofNat writeValues.length) = false ↔
          1 ≤ writeValues.length := by
        rw [outside_eq_false, hcount]
        exact and_iff_left hlen
      rw [hpdu, lift_ok, ← hwrite]
      cases hread : outside 1 125 readQuantity with
      | true =>
        -- the async encoder accepts any quantity
        refine iff_of_false (fun h => ?_) fun h => nomatch h.2
        obtain ⟨_, he⟩ := h.err_iff.mpr ⟨.invalidPduLength, rfl⟩
        cases he
      | false =>
        rw [guardErr_false, ok_bind]
        cases hnone : outside 1 121 (UInt16.ofNat writeValues.length) with
        | true =>
          refine iff_of_false (fun h => ?_) fun h => nomatch h.1
          obtain ⟨_, he⟩ := h.err_iff.mpr ⟨.invalidPduLength, rfl⟩
          cases he
        | false =>
          rw [guardErr_false, ok_bind, hpacked, lift_ok, ok_bind, hpackedList, hpdu]
          exact iff_of_true (.of_lift _) ⟨rfl, rfl⟩
    · -- too many values for a PDU
      have hbytes : 243 < (writeValues.flatMap toBeBytes).length := by
        rw [flatMap_toBeBytes_length]
        omega
      obtain ⟨e, he⟩ := Pdu.buildReadWriteMultiple_of_gt readAddress readQuantity writeAddress
        (UInt16.ofNat writeValues.length) hbytes
      have hwrite : outside 1 121 (UInt16.ofNat writeValues.length) = true := by
        rw [← Bool.not_eq_false, outside_eq_false, hcount]
        exact fun h => hlen h.2
      rw [he, hwrite, guardErr_true]
      refine iff_of_true ?_ fun h => absurd h hlen
      cases outside 1 125 readQuantity <;> exact .of_err _ _
  · refine iff_of_false (fun h => h.returns ?_) fun h => hfits h.1
    rw [collectBePairs_eq_panic (by omega), panic_bind]

/-- The two clients encode alike exactly within these limits. -/
theorem encodesAlike_iff (arguments : RequestArguments) :
    Alike arguments.requestPdu arguments.encodedPdu ↔ arguments.WithinLimits := by
  cases arguments with
  | writeMultipleRegisters address values => exact alike_writeMultipleRegisters_iff address values
  | readWriteMultipleRegisters readAddress readQuantity writeAddress writeValues =>
    exact alike_readWriteMultipleRegisters_iff readAddress readQuantity writeAddress writeValues
  | readCoils | readDiscreteInputs | readHoldingRegisters | readInputRegisters =>
    exact iff_of_true (Alike.guard _ _ fun _ => .of_lift _) trivial
  | writeMultipleCoils address coils =>
    exact iff_of_true (alike_writeMultipleCoils address coils) trivial
  | diagnostics subFunction data => exact iff_of_true (alike_diagnostics subFunction data) trivial
  | readFileRecord | writeFileRecord =>
    exact iff_of_true (Alike.refl (lift_bind_ne_panic.mpr fun _ _ => nofun)) trivial
  | readExceptionStatus | getCommEventCounter | getCommEventLog | reportServerId =>
    exact iff_of_true (Alike.refl nofun) trivial
  | writeSingleCoil | writeSingleRegister | maskWriteRegister | readFifoQueue |
    readDeviceIdentification | encapsulatedInterfaceTransport =>
    exact iff_of_true (Alike.refl (by
      simp [RequestArguments.requestPdu, writeSingleCoilRequest, writeSingleRegisterRequest,
        maskWriteRegisterRequest, readFifoQueueRequest, readDeviceIdentificationRequest,
        encapsulatedInterfaceTransportRequest])) trivial

end Alike

/-- Read and write with a read quantity of 0: the sync client refuses, the async client sends. -/
theorem readNothing_not_alike :
    ¬∀ [Features] (arguments : RequestArguments),
      Alike arguments.requestPdu arguments.encodedPdu := by
  intro h
  let _ := Features.minimal
  have hsync : (RequestArguments.readWriteMultipleRegisters 0 0 0 [1]).requestPdu =
      .err .invalidPduLength := by decide
  have hasync : (RequestArguments.readWriteMultipleRegisters 0 0 0 [1]).encodedPdu.isOk = true := by
    decide +kernel
  obtain ⟨e, he⟩ := (h (.readWriteMultipleRegisters 0 0 0 [1])).err_iff.mpr ⟨_, hsync⟩
  rw [he] at hasync
  cases hasync

end ModbusRs
