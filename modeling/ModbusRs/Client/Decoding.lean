import ModbusRs.Async.ClientIsolation
import ModbusRs.Async.Decoding
import ModbusRs.Client.Calls
import ModbusRs.Client.Handlers

/-!
# Two decoders of one response

The sync client reads a response with the handler of its request, which knows the addresses and
quantities to expect. The async client decodes it alone, patches the result with the request and
takes it if it is of the right kind. Here the two meet, request by request.
-/

namespace ModbusRs

open Outcome

/-! ### The async result -/

namespace ClientRequestBody

/-- The kind of response that the method of the request takes. -/
def expects : ClientRequestBody → ClientResponse → Bool
  | .readMultipleCoils _ _, .coils _ => true
  | .writeSingleCoil _ _, .coils _ => true
  | .writeMultipleCoils _ _, .coils _ => true
  | .readHoldingRegisters _ _, .holdingRegisters _ => true
  | .readInputRegisters _ _, .inputRegisters _ => true
  | .writeSingleRegister _ _, .singleRegisterWrite _ _ => true
  | .writeMultipleRegisters _ _, .holdingRegisters _ => true
  | .readWriteMultipleRegisters _ _ _ _, .holdingRegisters _ => true
  | .maskWriteRegister _ _ _, .maskWriteRegister => true
  | .readDiscreteInputs _ _, .discreteInputs _ => true
  | .readFifoQueue _, .fifoQueue _ => true
  | .readFileRecord _, .fileRecordRead _ => true
  | .writeFileRecord _, .fileRecordWrite => true
  | .readDeviceIdentification _ _, .deviceIdentification _ => true
  | .encapsulatedInterfaceTransport _ _, .encapsulatedInterfaceTransport _ _ => true
  | .readExceptionStatus, .exceptionStatus _ => true
  | .diagnostics _ _, .diagnosticsData _ _ => true
  | .getCommEventCounter, .commEventCounter _ _ => true
  | .getCommEventLog, .commEventLog _ _ _ _ => true
  | .reportServerId, .reportServerId _ => true
  | _, _ => false

variable [Features]

/-- What the method of the request returns, as the callback that tells the same. The error stands
for `AsyncError::UnexpectedResponseType`. -/
def accept : ClientRequestBody → ClientResponse → Fallible ResponseCallback
  | .readMultipleCoils _ _, .coils coils => pure (.readCoils coils)
  | .writeSingleCoil _ _, .coils coils =>
    match coils.value coils.fromAddress with
    | .ok value => pure (.writeSingleCoil coils.fromAddress value)
    | .err _ => pure (.writeSingleCoil coils.fromAddress false)
    | .panic => .panic
  | .writeMultipleCoils _ _, .coils coils =>
    pure (.writeMultipleCoils coils.fromAddress coils.quantity)
  | .readHoldingRegisters _ _, .holdingRegisters registers =>
    pure (.readMultipleHoldingRegisters registers)
  | .readInputRegisters _ _, .inputRegisters registers =>
    pure (.readMultipleInputRegisters registers)
  | .writeSingleRegister _ _, .singleRegisterWrite address value =>
    pure (.writeSingleRegister address value)
  | .writeMultipleRegisters _ _, .holdingRegisters registers =>
    pure (.writeMultipleRegisters registers.fromAddress registers.quantity)
  | .readWriteMultipleRegisters _ _ _ _, .holdingRegisters registers =>
    pure (.readWriteMultipleRegisters registers)
  | .maskWriteRegister _ _ _, .maskWriteRegister => pure .maskWriteRegister
  | .readDiscreteInputs _ _, .discreteInputs inputs => pure (.readMultipleDiscreteInputs inputs)
  | .readFifoQueue _, .fifoQueue queue => pure (.readFifoQueue queue)
  | .readFileRecord _, .fileRecordRead records => pure (.readFileRecord records)
  | .writeFileRecord _, .fileRecordWrite => pure .writeFileRecord
  | .readDeviceIdentification _ _, .deviceIdentification response =>
    pure (.readDeviceIdentification response)
  | .encapsulatedInterfaceTransport _ _, .encapsulatedInterfaceTransport meiType data =>
    pure (.encapsulatedInterfaceTransport meiType data.toList)
  | .readExceptionStatus, .exceptionStatus status => pure (.readExceptionStatus status)
  | .diagnostics _ _, .diagnosticsData subFunction data =>
    pure (.diagnostics subFunction data.toList)
  | .getCommEventCounter, .commEventCounter status eventCount =>
    pure (.getCommEventCounter status eventCount)
  | .getCommEventLog, .commEventLog status eventCount messageCount events =>
    pure (.getCommEventLog status eventCount messageCount events.toList)
  | .reportServerId, .reportServerId data => pure (.reportServerId data.toList)
  | _, _ => .err .unexpected

/-- The result of the request for a response without an exception code. -/
def read (body : ClientRequestBody) (pdu : Pdu) : Fallible ResponseCallback := do
  let response ← decodePdu pdu
  let response ← fixUpResponse response body
  body.accept response

/-- The result of the request for a frame that arrives in its transaction. -/
def receive (body : ClientRequestBody) (frame : List UInt8) (tt : TransportType) :
    Fallible ResponseCallback := do
  let (_, _, result) ← decodeResponse frame tt
  let response ← lift result
  let response ← fixUpResponse response body
  body.accept response

variable {body : ClientRequestBody} {response response' : ClientResponse} {pdu : Pdu}

lemma accept_ne_err (h : body.expects response = true) (e : MbusError) :
    body.accept response ≠ .err e := by
  unfold expects at h
  split at h
  case h_2 coils =>
    rw [accept]
    split <;> simp
  case h_21 => cases h
  all_goals exact nofun

lemma accept_unexpected (h : body.expects response = false) :
    body.accept response = .err .unexpected := by
  unfold accept
  split
  case h_21 => rfl
  all_goals cases h

omit [Features] in
/-- The fix-up keeps the kind of a response. -/
lemma fixUp_expects (h : fixUpResponse response body = .ok response') :
    body.expects response' = body.expects response := by
  have ofWrap {result : Fallible ClientResponse} {raw : ClientResponse}
      (hwrap : ∀ r, result = .ok r → body.expects r = body.expects raw)
      (h : orElseRaw result raw = .ok response') :
      body.expects response' = body.expects raw := by
    cases result with
    | ok r =>
      cases h
      exact hwrap _ rfl
    | err e =>
      cases h
      rfl
    | panic => cases h
  unfold fixUpResponse at h
  split at h
  case h_1 =>
    refine ofWrap (fun r hr => ?_) h
    obtain ⟨_, _, hr⟩ := bind_eq_ok.mp hr
    obtain ⟨_, _, hr⟩ := bind_eq_ok.mp hr
    cases hr
    rfl
  case h_2 =>
    refine ofWrap (fun r hr => ?_) h
    obtain ⟨_, _, hr⟩ := bind_eq_ok.mp hr
    obtain ⟨_, _, hr⟩ := bind_eq_ok.mp hr
    obtain ⟨_, _, hr⟩ := bind_eq_ok.mp hr
    cases hr
    rfl
  case h_3 | h_4 | h_5 =>
    refine ofWrap (fun r hr => ?_) h
    obtain ⟨_, _, hr⟩ := bind_eq_ok.mp hr
    obtain ⟨_, _, hr⟩ := bind_eq_ok.mp hr
    obtain ⟨_, _, hr⟩ := bind_eq_ok.mp hr
    cases hr
    rfl
  case h_6 =>
    obtain ⟨_, _, h⟩ := bind_eq_ok.mp h
    obtain ⟨_, _, h⟩ := bind_eq_ok.mp h
    cases h
    rfl
  case h_7 =>
    cases h
    rfl

/-- The request ends with an error unless its response decodes to the kind it takes. -/
lemma read_err_iff :
    (∃ e, body.read pdu = .err e) ↔
      ¬(Features.overflowChecks = true ∧ pdu.EchoesLastCoil) ∧
        ¬∃ response, decodePdu pdu = .ok response ∧ body.expects response = true := by
  rw [← decodePdu_eq_panic, read]
  cases hdecode : decodePdu pdu with
  | panic => simp
  | err e => simp
  | ok response =>
    rw [ok_bind]
    simp only [reduceCtorEq, not_false_eq_true, true_and, ok.injEq, exists_eq_left']
    cases hfix : fixUpResponse response body with
    | err e => exact absurd hfix (fixUpResponse_ne_err _ _ e)
    | panic =>
      -- only discrete inputs that the method takes
      have hexpects : body.expects response = true := by
        by_contra hno
        refine absurd hfix ((fixUpResponse_ne_panic_iff response body).mpr ?_)
        intro raw address quantity hraw hbody _
        cases hraw
        subst hbody
        exact absurd rfl hno
      simp [hexpects]
    | ok response' =>
      rw [ok_bind, ← fixUp_expects hfix]
      cases hexpects : body.expects response' with
      | true => simp [accept_ne_err hexpects]
      | false => simp [accept_unexpected hexpects]

end ClientRequestBody

/-! ### The sync result -/

namespace ClientRequestBody

/-- The call of the sync client that asks for the same. -/
def call : ClientRequestBody → ClientCall
  | .readMultipleCoils address quantity => .readMultipleCoils address quantity
  | .writeSingleCoil address value => .writeSingleCoil address value
  | .writeMultipleCoils address coils => .writeMultipleCoils address coils
  | .readHoldingRegisters address quantity => .readHoldingRegisters address quantity
  | .readInputRegisters address quantity => .readInputRegisters address quantity
  | .writeSingleRegister address value => .writeSingleRegister address value
  | .writeMultipleRegisters address values =>
    .writeMultipleRegisters address (UInt16.ofNat values.length) values.toList
  | .readWriteMultipleRegisters readAddress readQuantity writeAddress writeValues =>
    .readWriteMultipleRegisters readAddress readQuantity writeAddress writeValues.toList
  | .maskWriteRegister address andMask orMask => .maskWriteRegister address andMask orMask
  | .readDiscreteInputs address quantity => .readDiscreteInputs address quantity
  | .readFifoQueue address => .readFifoQueue address
  | .readFileRecord subRequest => .readFileRecord subRequest
  | .writeFileRecord subRequest => .writeFileRecord subRequest
  | .readDeviceIdentification readDeviceIdCode objectId =>
    .readDeviceIdentification readDeviceIdCode objectId
  | .encapsulatedInterfaceTransport meiType data =>
    .encapsulatedInterfaceTransport meiType data.toList
  | .readExceptionStatus => .readExceptionStatus
  | .diagnostics subFunction data => .diagnostics subFunction data.toList
  | .getCommEventCounter => .getCommEventCounter
  | .getCommEventLog => .getCommEventLog
  | .reportServerId => .reportServerId

/-- The requests that access coils, inputs, registers, FIFO queues and files. -/
def accessesData : ClientRequestBody → Bool
  | .readDeviceIdentification _ _ => false
  | .encapsulatedInterfaceTransport _ _ => false
  | .readExceptionStatus => false
  | .diagnostics _ _ => false
  | .getCommEventCounter => false
  | .getCommEventLog => false
  | .reportServerId => false
  | _ => true

end ClientRequestBody

/-- `dispatch_response` on the message of a request. -/
def ClientCall.dispatch [Features] (call : ClientCall) (message : ModbusMessage) :
    Outcome Empty (Option ResponseCallback) :=
  match message.pdu.errorCode with
  | some exceptionCode => .ok (some (.requestFailed (.modbusException exceptionCode)))
  | none => call.deliver message.pdu

/-- Both clients report the same values, or both report a failure. -/
def DecodesAlike (sync : Outcome Empty (Option ResponseCallback))
    (async : Fallible ResponseCallback) : Prop :=
  ∃ callback, sync = .ok (some callback) ∧
    match callback with
    | .requestFailed _ => ∃ e, async = .err e
    | callback => async = .ok callback

namespace DecodesAlike

variable [Features] {handler : ResponseHandler} {operationMeta : OperationMeta} {pdu : Pdu}
  {async : Fallible ResponseCallback}

lemma iff_of_err (h : ∃ e, handler.parse operationMeta pdu = .err e) :
    DecodesAlike (handler.run operationMeta pdu) async ↔ ∃ e, async = .err e := by
  obtain ⟨e, he⟩ := h
  rw [DecodesAlike, ResponseHandler.run, he]
  simp

lemma iff_of_ok {callback : ResponseCallback}
    (h : handler.parse operationMeta pdu = .ok (some callback))
    (hcallback : ∀ e, callback ≠ .requestFailed e) :
    DecodesAlike (handler.run operationMeta pdu) async ↔ async = .ok callback := by
  rw [DecodesAlike, ResponseHandler.run, h]
  constructor
  · rintro ⟨_, ⟨⟩, h⟩
    split at h
    · exact absurd rfl (hcallback _)
    · exact h
  · intro h
    refine ⟨callback, rfl, ?_⟩
    split
    · exact absurd rfl (hcallback _)
    · exact h

end DecodesAlike

/-! ### Where they agree -/

namespace ClientRequestBody

/-- The response is a normal response to the request. -/
def Answers (body : ClientRequestBody) (pdu : Pdu) : Prop :=
  match body with
  | .readMultipleCoils _ quantity => pdu.functionCode = .readCoils ∧
    ∃ bytes, pdu.CountsBytes bytes ∧ bytes.length = (quantity.toNat + 7) / 8
  | .readDiscreteInputs _ quantity => pdu.functionCode = .readDiscreteInputs ∧
    ∃ bytes, pdu.CountsBytes bytes ∧ bytes.length = (quantity.toNat + 7) / 8
  | .readHoldingRegisters _ quantity => pdu.functionCode = .readHoldingRegisters ∧
    ∃ bytes, pdu.CountsBytes bytes ∧ bytes.length = quantity.toNat * 2
  | .readInputRegisters _ quantity => pdu.functionCode = .readInputRegisters ∧
    ∃ bytes, pdu.CountsBytes bytes ∧ bytes.length = quantity.toNat * 2
  | .readWriteMultipleRegisters _ readQuantity _ _ =>
    pdu.functionCode = .readWriteMultipleRegisters ∧
      ∃ bytes, pdu.CountsBytes bytes ∧ bytes.length = readQuantity.toNat * 2
  | .writeSingleCoil address value => pdu.functionCode = .writeSingleCoil ∧
    pdu.HoldsPair address (if value then 0xFF00 else 0x0000)
  | .writeSingleRegister address value =>
    pdu.functionCode = .writeSingleRegister ∧ pdu.HoldsPair address value
  | .writeMultipleCoils address coils =>
    pdu.functionCode = .writeMultipleCoils ∧ pdu.HoldsPair address coils.quantity
  | .writeMultipleRegisters address values => pdu.functionCode = .writeMultipleRegisters ∧
    pdu.HoldsPair address (UInt16.ofNat values.length)
  | .maskWriteRegister address andMask orMask => pdu.functionCode = .maskWriteRegister ∧
    pdu.data.toList = toBeBytes address ++ toBeBytes andMask ++ toBeBytes orMask
  | .readFifoQueue _ => pdu.functionCode = .readFifoQueue ∧ ∃ words, pdu.HoldsFifo words
  | .writeFileRecord _ => pdu.functionCode = .writeFileRecord ∧
    ∃ bytes, pdu.CountsBytes bytes ∧ FileRecordEcho bytes
  | _ => False

/-- The response decodes to the kind that the method of the request takes. -/
def Takes (body : ClientRequestBody) (pdu : Pdu) : Prop :=
  match body with
  | .readMultipleCoils _ _ | .writeSingleCoil _ _ | .writeMultipleCoils _ _ => pdu.HoldsCoils
  | .readDiscreteInputs _ _ => pdu.HoldsInputs
  | .readHoldingRegisters _ _ | .readWriteMultipleRegisters _ _ _ _
  | .writeMultipleRegisters _ _ => pdu.HoldsRegisters
  | .readInputRegisters _ _ => pdu.HoldsInputRegisters
  | .writeSingleRegister _ _ => pdu.functionCode = .writeSingleRegister ∧
    ∃ address value, pdu.HoldsPair address value
  | .maskWriteRegister _ _ _ => pdu.functionCode = .maskWriteRegister
  | .readFifoQueue _ => pdu.functionCode = .readFifoQueue ∧ ∃ words, pdu.HoldsFifo words
  | .writeFileRecord _ => pdu.functionCode = .writeFileRecord
  | _ => False

/-- The async client cannot hold the coil at the last address, the sync client forgets the pointer
address of a FIFO queue. -/
def KeepsAddress : ClientRequestBody → Prop
  | .writeSingleCoil address _ => address ≠ 65535
  | .readFifoQueue address => address = 0
  | _ => True

variable [Features]

/-- A normal response whose address both clients keep, or a response that the async client takes
for no answer at all and does not panic on. -/
def AgreesOn (body : ClientRequestBody) (pdu : Pdu) : Prop :=
  match body with
  | .readFileRecord _ => ¬(Features.overflowChecks = true ∧ pdu.EchoesLastCoil)
  | body => body.Answers pdu ∧ body.KeepsAddress ∨
    ¬body.Answers pdu ∧ ¬(Features.overflowChecks = true ∧ pdu.EchoesLastCoil) ∧ ¬body.Takes pdu

section Agree

variable {body : ClientRequestBody} {handler : ResponseHandler} {operationMeta : OperationMeta}
  {pdu : Pdu}

lemma decodesAlike_iff_of {answers keeps takes : Prop}
    (herr : ¬answers → ∃ e, handler.parse operationMeta pdu = .err e)
    (hok : answers → ∃ callback, handler.parse operationMeta pdu = .ok (some callback) ∧
      (∀ e, callback ≠ .requestFailed e) ∧ (body.read pdu = .ok callback ↔ keeps))
    (htakes : (∃ response, decodePdu pdu = .ok response ∧ body.expects response = true) ↔ takes) :
    DecodesAlike (handler.run operationMeta pdu) (body.read pdu) ↔
      answers ∧ keeps ∨
        ¬answers ∧ ¬(Features.overflowChecks = true ∧ pdu.EchoesLastCoil) ∧ ¬takes := by
  by_cases h : answers
  · obtain ⟨callback, hparse, hcallback, hkeeps⟩ := hok h
    rw [DecodesAlike.iff_of_ok hparse hcallback, hkeeps]
    simp [h]
  · rw [DecodesAlike.iff_of_err (herr h), read_err_iff, htakes]
    simp [h]

lemma takes_iff {α : Type} {kind : α → ClientResponse} {takes : Prop}
    (hexpects : ∀ a, body.expects (kind a) = true)
    (honly : ∀ response, body.expects response = true → ∃ a, response = kind a)
    (hkind : (∃ a, decodePdu pdu = .ok (kind a)) ↔ takes) :
    (∃ response, decodePdu pdu = .ok response ∧ body.expects response = true) ↔ takes := by
  rw [← hkind]
  constructor
  · rintro ⟨response, hdecode, h⟩
    obtain ⟨a, rfl⟩ := honly response h
    exact ⟨a, hdecode⟩
  · rintro ⟨a, hdecode⟩
    exact ⟨_, hdecode, hexpects a⟩

lemma readMultipleCoils_alike (address : UInt16) {quantity : UInt16}
    (hle : quantity.toNat ≤ maxCoilsPerPdu) :
    DecodesAlike ((readMultipleCoils address quantity).call.deliver pdu)
      ((readMultipleCoils address quantity).read pdu) ↔
      (readMultipleCoils address quantity).AgreesOn pdu := by
  refine decodesAlike_iff_of (fun h => ?_) ?_ (takes_iff (fun _ => rfl) (fun response h => ?_) decodePdu_coils_iff)
  · obtain ⟨e, he⟩ := handleReadCoilRsp_eq_err address h
    refine ⟨e, ?_⟩
    change handleReadCoilsResponse (.multiple address quantity) pdu = _
    rw [handleReadCoilsResponse, OperationMeta.quantity, OperationMeta.address, he]
    rfl
  · rintro ⟨hfc, bytes, hbytes, hlen⟩
    have hle' : quantity.toNat ≤ 2000 := hle
    obtain ⟨block, hblock, hhandle⟩ := handleReadCoilRsp_eq_ok address hfc hbytes hlen hle
    obtain ⟨raw, hraw, _, htake⟩ := decodeBits_eq_ok ClientResponse.coils hbytes (by
      change _ ≤ 250
      omega)
    refine ⟨.readCoils block, ?_, nofun, iff_of_true ?_ trivial⟩
    · change handleReadCoilsResponse (.multiple address quantity) pdu = _
      rw [handleReadCoilsResponse, OperationMeta.quantity, OperationMeta.address, hhandle]
      rfl
    · rw [read, decodePdu, hfc]
      change decodeBits .coils pdu >>= _ = _
      rw [hraw, ok_bind, fixUpResponse_coils raw hle hlen htake hblock]
      rfl
  · cases response <;> first | exact ⟨_, rfl⟩ | cases h

lemma readDiscreteInputs_alike (address : UInt16) {quantity : UInt16}
    (hle : quantity.toNat ≤ maxCoilsPerPdu) :
    DecodesAlike ((readDiscreteInputs address quantity).call.deliver pdu)
      ((readDiscreteInputs address quantity).read pdu) ↔
      (readDiscreteInputs address quantity).AgreesOn pdu := by
  refine decodesAlike_iff_of (fun h => ?_) ?_
    (takes_iff (fun _ => rfl) (fun response h => ?_) decodePdu_inputs_iff)
  · obtain ⟨e, he⟩ := handleReadDiscreteInputsResponse_eq_err address h
    refine ⟨e, ?_⟩
    change handleReadDiscreteInputs (.multiple address quantity) pdu = _
    rw [handleReadDiscreteInputs, OperationMeta.address, OperationMeta.quantity, he]
    rfl
  · rintro ⟨hfc, bytes, hbytes, hlen⟩
    have hle' : quantity.toNat ≤ 2000 := hle
    obtain ⟨block, hblock, hhandle⟩ :=
      handleReadDiscreteInputsResponse_eq_ok address hfc hbytes hlen hle
    obtain ⟨raw, hraw, hbits, htake⟩ := decodeBits_eq_ok ClientResponse.discreteInputs hbytes (by
      change _ ≤ 250
      omega)
    refine ⟨.readMultipleDiscreteInputs block, ?_, nofun, iff_of_true ?_ trivial⟩
    · change handleReadDiscreteInputs (.multiple address quantity) pdu = _
      rw [handleReadDiscreteInputs, OperationMeta.address, OperationMeta.quantity, hhandle]
      rfl
    · rw [read, decodePdu, hfc]
      change decodeBits .discreteInputs pdu >>= _ = _
      rw [hraw, ok_bind, fixUpResponse_inputs raw hle hbits htake hblock]
      rfl
  · cases response <;> first | exact ⟨_, rfl⟩ | cases h

omit [Features] in
/-- The words of a read are whole. -/
lemma words_of_length {bytes : List UInt8} {quantity : UInt16}
    (hlen : bytes.length = quantity.toNat * 2) :
    bytes.length % 2 = 0 ∧ (beWords bytes).length = quantity.toNat := by
  rw [beWords_length]
  omega

lemma readHoldingRegisters_alike (address : UInt16) {quantity : UInt16}
    (hle : quantity.toNat ≤ maxRegistersPerPdu) :
    DecodesAlike ((readHoldingRegisters address quantity).call.deliver pdu)
      ((readHoldingRegisters address quantity).read pdu) ↔
      (readHoldingRegisters address quantity).AgreesOn pdu := by
  refine decodesAlike_iff_of (fun h => ?_) ?_
    (takes_iff (fun _ => rfl) (fun response h => ?_) decodePdu_registers_iff)
  · obtain ⟨e, he⟩ := handleReadRegistersRsp_eq_err address hle h
    refine ⟨e, ?_⟩
    change handleReadHoldingRegistersResponse (.multiple address quantity) pdu = _
    rw [handleReadHoldingRegistersResponse, ServiceDecompiler.handleReadHoldingRegisterRsp,
      OperationMeta.address, OperationMeta.quantity, he]
    rfl
  · rintro ⟨hfc, bytes, hbytes, hlen⟩
    obtain ⟨heven, hwords⟩ := words_of_length hlen
    obtain ⟨registers, hregisters, hhandle⟩ :=
      handleReadRegistersRsp_eq_ok address hfc hbytes hlen hle
    obtain ⟨raw, hraw, htake⟩ := decodeReadHoldingRegisters_eq_ok hbytes heven
    refine ⟨.readMultipleHoldingRegisters registers, ?_, nofun, iff_of_true ?_ trivial⟩
    · change handleReadHoldingRegistersResponse (.multiple address quantity) pdu = _
      rw [handleReadHoldingRegistersResponse, ServiceDecompiler.handleReadHoldingRegisterRsp,
        OperationMeta.address, OperationMeta.quantity, hhandle]
      rfl
    · rw [read, decodePdu, hfc]
      dsimp only
      rw [hraw, ok_bind, fixUpResponse,
        fixUpRegisters_eq_ok raw .holdingRegisters hle hwords htake hregisters]
      rfl
  · cases response <;> first | exact ⟨_, rfl⟩ | cases h

lemma readInputRegisters_alike (address : UInt16) {quantity : UInt16}
    (hle : quantity.toNat ≤ maxRegistersPerPdu) :
    DecodesAlike ((readInputRegisters address quantity).call.deliver pdu)
      ((readInputRegisters address quantity).read pdu) ↔
      (readInputRegisters address quantity).AgreesOn pdu := by
  refine decodesAlike_iff_of (fun h => ?_) ?_
    (takes_iff (fun _ => rfl) (fun response h => ?_) decodePdu_inputRegisters_iff)
  · obtain ⟨e, he⟩ := handleReadRegistersRsp_eq_err address hle h
    refine ⟨e, ?_⟩
    change handleReadInputRegistersResponse (.multiple address quantity) pdu = _
    rw [handleReadInputRegistersResponse, ServiceDecompiler.handleReadInputRegisterRsp,
      OperationMeta.address, OperationMeta.quantity, he]
    rfl
  · rintro ⟨hfc, bytes, hbytes, hlen⟩
    obtain ⟨heven, hwords⟩ := words_of_length hlen
    obtain ⟨registers, hregisters, hhandle⟩ :=
      handleReadRegistersRsp_eq_ok address hfc hbytes hlen hle
    obtain ⟨raw, hraw, htake⟩ := decodeReadInputRegisters_eq_ok hbytes heven
    refine ⟨.readMultipleInputRegisters registers, ?_, nofun, iff_of_true ?_ trivial⟩
    · change handleReadInputRegistersResponse (.multiple address quantity) pdu = _
      rw [handleReadInputRegistersResponse, ServiceDecompiler.handleReadInputRegisterRsp,
        OperationMeta.address, OperationMeta.quantity, hhandle]
      rfl
    · rw [read, decodePdu, hfc]
      dsimp only
      rw [hraw, ok_bind, fixUpResponse,
        fixUpRegisters_eq_ok raw .inputRegisters hle hwords htake hregisters]
      rfl
  · cases response <;> first | exact ⟨_, rfl⟩ | cases h

lemma readWriteMultipleRegisters_alike (readAddress : UInt16) {readQuantity : UInt16}
    (writeAddress : UInt16) (writeValues : HVec UInt16 maxPduDataLen)
    (hle : readQuantity.toNat ≤ maxRegistersPerPdu) :
    DecodesAlike
      ((readWriteMultipleRegisters readAddress readQuantity writeAddress writeValues).call.deliver
        pdu)
      ((readWriteMultipleRegisters readAddress readQuantity writeAddress writeValues).read pdu) ↔
      (readWriteMultipleRegisters readAddress readQuantity writeAddress writeValues).AgreesOn
        pdu := by
  refine decodesAlike_iff_of (fun h => ?_) ?_
    (takes_iff (fun _ => rfl) (fun response h => ?_) decodePdu_registers_iff)
  · obtain ⟨e, he⟩ := handleReadRegistersRsp_eq_err readAddress hle h
    refine ⟨e, ?_⟩
    change handleReadWriteMultipleRegistersResponse (.multiple readAddress readQuantity) pdu = _
    rw [handleReadWriteMultipleRegistersResponse,
      ServiceDecompiler.handleReadWriteMultipleRegistersRsp, OperationMeta.address,
      OperationMeta.quantity, he]
    rfl
  · rintro ⟨hfc, bytes, hbytes, hlen⟩
    obtain ⟨heven, hwords⟩ := words_of_length hlen
    obtain ⟨registers, hregisters, hhandle⟩ :=
      handleReadRegistersRsp_eq_ok readAddress hfc hbytes hlen hle
    obtain ⟨raw, hraw, htake⟩ := decodeReadHoldingRegisters_eq_ok hbytes heven
    refine ⟨.readWriteMultipleRegisters registers, ?_, nofun, iff_of_true ?_ trivial⟩
    · change handleReadWriteMultipleRegistersResponse (.multiple readAddress readQuantity) pdu = _
      rw [handleReadWriteMultipleRegistersResponse,
        ServiceDecompiler.handleReadWriteMultipleRegistersRsp, OperationMeta.address,
        OperationMeta.quantity, hhandle]
      rfl
    · rw [read, decodePdu, hfc]
      dsimp only
      rw [hraw, ok_bind, fixUpResponse,
        fixUpRegisters_eq_ok raw .holdingRegisters hle hwords htake hregisters]
      rfl
  · cases response <;> first | exact ⟨_, rfl⟩ | cases h

lemma writeSingleCoil_alike (address : UInt16) (value : Bool) :
    DecodesAlike ((writeSingleCoil address value).call.deliver pdu)
      ((writeSingleCoil address value).read pdu) ↔
      (writeSingleCoil address value).AgreesOn pdu := by
  refine decodesAlike_iff_of (fun h => handleWriteSingleCoilResponse_eq_err value h) ?_
    (takes_iff (fun _ => rfl) (fun response h => ?_) decodePdu_coils_iff)
  · rintro ⟨hfc, hpair⟩
    refine ⟨_, handleWriteSingleCoilResponse_eq_ok value hfc hpair, nofun, ?_⟩
    rw [read, decodePdu, hfc]
    dsimp only
    by_cases hlast : address = 65535
    · subst hlast
      refine iff_of_false (fun h => ?_) (not_not_intro rfl)
      rw [decodeWriteSingleCoil_last hpair] at h
      split at h <;> cases h
    · obtain ⟨coils, hcoils, hfrom, hvalue⟩ := decodeWriteSingleCoil_eq_ok hpair hlast
      refine iff_of_true ?_ hlast
      have hbit : ((if value then (0xFF00 : UInt16) else 0x0000) == 0xFF00) = value := by
        cases value <;> rfl
      rw [hcoils, ok_bind]
      change accept (writeSingleCoil address value) (.coils coils) = _
      rw [accept, hvalue, hbit, hfrom]
      rfl
  · cases response <;> first | exact ⟨_, rfl⟩ | cases h

lemma writeMultipleCoils_alike (address : UInt16) (coils : Coils) :
    DecodesAlike ((writeMultipleCoils address coils).call.deliver pdu)
      ((writeMultipleCoils address coils).read pdu) ↔
      (writeMultipleCoils address coils).AgreesOn pdu := by
  refine decodesAlike_iff_of (fun h => handleWriteMultipleCoilsResponse_eq_err h) ?_
    (takes_iff (fun _ => rfl) (fun response h => ?_) decodePdu_coils_iff)
  · rintro ⟨hfc, hpair⟩
    refine ⟨_, handleWriteMultipleCoilsResponse_eq_ok hfc hpair, nofun, iff_of_true ?_ trivial⟩
    rw [read, decodePdu, hfc]
    dsimp only
    rw [decodeWriteMultipleCoils_eq_ok hpair coils.quantity_le]
    rfl
  · cases response <;> first | exact ⟨_, rfl⟩ | cases h

lemma writeMultipleRegisters_alike (address : UInt16) (values : HVec UInt16 maxPduDataLen)
    (hle : (UInt16.ofNat values.length).toNat ≤ maxRegistersPerPdu) :
    DecodesAlike ((writeMultipleRegisters address values).call.deliver pdu)
      ((writeMultipleRegisters address values).read pdu) ↔
      (writeMultipleRegisters address values).AgreesOn pdu := by
  refine decodesAlike_iff_of (fun h => handleWriteMultipleRegistersResponse_eq_err h) ?_
    (takes_iff (fun _ => rfl) (fun response h => ?_) decodePdu_registers_iff)
  · rintro ⟨hfc, hpair⟩
    refine ⟨_, handleWriteMultipleRegistersResponse_eq_ok hfc hpair, nofun,
      iff_of_true ?_ trivial⟩
    rw [read, decodePdu, hfc]
    dsimp only
    rw [decodeWriteMultipleRegisters_eq_ok hpair hle]
    rfl
  · cases response <;> first | exact ⟨_, rfl⟩ | cases h

lemma writeSingleRegister_alike (address value : UInt16) :
    DecodesAlike ((writeSingleRegister address value).call.deliver pdu)
      ((writeSingleRegister address value).read pdu) ↔
      (writeSingleRegister address value).AgreesOn pdu := by
  refine decodesAlike_iff_of (fun h => handleWriteSingleRegisterResponse_eq_err h) ?_ ?_
  · rintro ⟨hfc, hpair⟩
    refine ⟨_, handleWriteSingleRegisterResponse_eq_ok hfc hpair, nofun, iff_of_true ?_ trivial⟩
    rw [read, decodePdu, hfc]
    dsimp only
    rw [decodeWriteSingleRegister, hpair.writeSingleU16Fields_eq]
    rfl
  · constructor
    · rintro ⟨response, hdecode, hexpects⟩
      have hfrom := decodePdu_comesFrom hdecode
      cases response <;> cases hexpects
      have hfc : pdu.functionCode = .writeSingleRegister := of_decide_eq_true hfrom
      rw [decodePdu, hfc] at hdecode
      obtain ⟨fields, hfields, _⟩ := bind_eq_ok.mp hdecode
      exact ⟨hfc, _, _, Pdu.writeSingleU16Fields_eq_ok.mp hfields⟩
    · rintro ⟨hfc, address', value', hpair⟩
      refine ⟨.singleRegisterWrite address' value', ?_, rfl⟩
      rw [decodePdu, hfc]
      dsimp only
      rw [decodeWriteSingleRegister, hpair.writeSingleU16Fields_eq]
      rfl

lemma maskWriteRegister_alike (address andMask orMask : UInt16) :
    DecodesAlike ((maskWriteRegister address andMask orMask).call.deliver pdu)
      ((maskWriteRegister address andMask orMask).read pdu) ↔
      (maskWriteRegister address andMask orMask).AgreesOn pdu := by
  refine decodesAlike_iff_of (fun h => handleMaskWriteRegisterResponse_eq_err h) ?_ ?_
  · rintro ⟨hfc, hdata⟩
    refine ⟨_, handleMaskWriteRegisterResponse_eq_ok hfc hdata, nofun, iff_of_true ?_ trivial⟩
    rw [read, decodePdu, hfc]
    rfl
  · constructor
    · rintro ⟨response, hdecode, hexpects⟩
      have hfrom := decodePdu_comesFrom hdecode
      cases response <;> cases hexpects
      exact show pdu.functionCode = .maskWriteRegister from of_decide_eq_true hfrom
    · intro hfc
      refine ⟨.maskWriteRegister, ?_, rfl⟩
      rw [decodePdu, hfc]
      rfl

lemma readFifoQueue_alike (address : UInt16) :
    DecodesAlike ((readFifoQueue address).call.deliver pdu) ((readFifoQueue address).read pdu) ↔
      (readFifoQueue address).AgreesOn pdu := by
  refine decodesAlike_iff_of (fun h => handleReadFifoQueueResponse_eq_err h) ?_ ?_
  · rintro ⟨hfc, words, hwords⟩
    obtain ⟨copied, hcopy, hhandle⟩ := handleReadFifoQueueResponse_eq_ok hfc hwords
    obtain ⟨copied', hcopy', hdecode⟩ := decodeReadFifoQueue_eq_ok hwords
    cases hcopy.symm.trans hcopy'
    refine ⟨_, hhandle, nofun, ?_⟩
    obtain ⟨values, hvalues, hfix⟩ :=
      fixUpResponse_fifo ((FifoQueue.new 0).withValues copied words.length) address
    have hlength : ((FifoQueue.new 0).withValues copied words.length).length = words.length :=
      Nat.min_eq_left hwords.1
    have hqueue : ((FifoQueue.new 0).withValues copied words.length).queue.toList.take
        words.length = words := copyFront_take hcopy
    rw [hlength, hqueue] at hvalues
    cases hcopy.symm.trans hvalues
    rw [hlength] at hfix
    rw [read, decodePdu, hfc]
    dsimp only
    rw [hdecode, ok_bind, hfix, ok_bind]
    change Outcome.ok (ResponseCallback.readFifoQueue
      ((FifoQueue.new address).withValues copied words.length)) = _ ↔ address = 0
    constructor
    · intro h
      exact congrArg FifoQueue.ptrAddress (ResponseCallback.readFifoQueue.inj (Outcome.ok.inj h))
    · rintro rfl
      rfl
  · constructor
    · rintro ⟨response, hdecode, hexpects⟩
      have hfrom := decodePdu_comesFrom hdecode
      cases response <;> cases hexpects
      have hfc : pdu.functionCode = .readFifoQueue := of_decide_eq_true hfrom
      rw [decodePdu, hfc] at hdecode
      exact ⟨hfc, decodeReadFifoQueue_eq_ok_iff.mp ⟨_, hdecode⟩⟩
    · rintro ⟨hfc, words, hwords⟩
      obtain ⟨copied, _, hdecode⟩ := decodeReadFifoQueue_eq_ok hwords
      refine ⟨.fifoQueue ((FifoQueue.new 0).withValues copied words.length), ?_, rfl⟩
      rw [decodePdu, hfc]
      exact hdecode

lemma writeFileRecord_alike (subRequest : SubRequest) :
    DecodesAlike ((writeFileRecord subRequest).call.deliver pdu)
      ((writeFileRecord subRequest).read pdu) ↔ (writeFileRecord subRequest).AgreesOn pdu := by
  refine decodesAlike_iff_of (fun h => handleWriteFileRecordResponse_eq_err h) ?_ ?_
  · rintro ⟨hfc, bytes, hbytes, hecho⟩
    refine ⟨_, handleWriteFileRecordResponse_eq_ok hfc hbytes hecho, nofun,
      iff_of_true ?_ trivial⟩
    rw [read, decodePdu, hfc]
    rfl
  · constructor
    · rintro ⟨response, hdecode, hexpects⟩
      have hfrom := decodePdu_comesFrom hdecode
      cases response <;> cases hexpects
      exact show pdu.functionCode = .writeFileRecord from of_decide_eq_true hfrom
    · intro hfc
      refine ⟨.fileRecordWrite, ?_, rfl⟩
      rw [decodePdu, hfc]
      rfl

lemma readFileRecord_alike (subRequest : SubRequest) :
    DecodesAlike ((readFileRecord subRequest).call.deliver pdu)
      ((readFileRecord subRequest).read pdu) ↔ (readFileRecord subRequest).AgreesOn pdu := by
  by_cases hfc : pdu.functionCode = .readFileRecord
  · -- both run the same loop
    refine iff_of_true ?_ fun h => absurd (hfc.symm.trans h.2.1) (by decide)
    have hparse : handleReadFileRecordResponse pdu = (do
        let bcp ← pdu.byteCountPayload
        let records ← fileRecordLoop bcp.payload 0 .empty
        pure (some (.readFileRecord records))) := by
      rw [handleReadFileRecordResponse, ServiceDecompiler.handleReadFileRecordRsp,
        ResponseParser.checkFunctionCode_of_eq hfc, ok_bind,
        ResponseParser.parseReadFileRecordResponse, ResponseParser.checkFunctionCode_of_eq hfc,
        ok_bind, bind_assoc]
    have hread : (readFileRecord subRequest).read pdu = (do
        let bcp ← pdu.byteCountPayload
        let records ← fileRecordLoop bcp.payload 0 .empty
        pure (.readFileRecord records)) := by
      rw [read, decodePdu, hfc]
      simp only [decodeReadFileRecord, bind_assoc]
      rfl
    change DecodesAlike (ResponseHandler.readFileRecord.run .other pdu) _
    cases hbcp : pdu.byteCountPayload with
    | panic => exact absurd hbcp Pdu.byteCountPayload_ne_panic
    | err e =>
      have herr : ResponseHandler.readFileRecord.parse .other pdu = .err e := by
        rw [ResponseHandler.parse, hparse, hbcp]
        rfl
      rw [DecodesAlike.iff_of_err ⟨e, herr⟩, hread, hbcp]
      exact ⟨e, rfl⟩
    | ok bcp =>
      cases hloop : fileRecordLoop bcp.payload 0 .empty with
      | panic => exact absurd hloop (fileRecordLoop_ne_panic _ _ _)
      | err e =>
        have herr : ResponseHandler.readFileRecord.parse .other pdu = .err e := by
          rw [ResponseHandler.parse, hparse, hbcp, ok_bind, hloop]
          rfl
        rw [DecodesAlike.iff_of_err ⟨e, herr⟩, hread, hbcp, ok_bind, hloop]
        exact ⟨e, rfl⟩
      | ok records =>
        have hok : ResponseHandler.readFileRecord.parse .other pdu =
            .ok (some (.readFileRecord records)) := by
          rw [ResponseHandler.parse, hparse, hbcp, ok_bind, hloop]
          rfl
        rw [DecodesAlike.iff_of_ok hok (by rintro _ ⟨⟩), hread, hbcp, ok_bind, hloop]
        rfl
  · have hparse : ∃ e, ResponseHandler.readFileRecord.parse .other pdu = .err e := by
      rw [ResponseHandler.parse, handleReadFileRecordResponse,
        ServiceDecompiler.handleReadFileRecordRsp, ResponseParser.checkFunctionCode_of_ne hfc]
      exact ⟨_, rfl⟩
    change DecodesAlike (ResponseHandler.readFileRecord.run .other pdu) _ ↔ _
    rw [DecodesAlike.iff_of_err hparse, read_err_iff]
    refine and_iff_left ?_
    rintro ⟨response, hdecode, hexpects⟩
    have hfrom := decodePdu_comesFrom hdecode
    cases response <;> cases hexpects
    exact hfc (of_decide_eq_true hfrom)

end Agree

/-- A frame without an exception code is read. -/
lemma receive_eq_read {body : ClientRequestBody} {frame : List UInt8} {tt : TransportType}
    {message : ModbusMessage} (hframe : decompileAduFrame frame tt = .ok message)
    (hcode : message.pdu.errorCode = none) :
    body.receive frame tt = body.read message.pdu := by
  rw [receive, decodeResponse, hframe, ok_bind, hcode]
  simp only [bind_assoc, pure_bind, lift_ok, ok_bind]
  rfl

lemma dispatch_eq_deliver {call : ClientCall} {message : ModbusMessage}
    (hcode : message.pdu.errorCode = none) : call.dispatch message = call.deliver message.pdu := by
  rw [ClientCall.dispatch, hcode]

/-- Both clients report the same about every response in the transaction of a data access that the
sync client sends exactly when they agree on the response, or it is an exception. -/
theorem decodesAlike_iff (body : ClientRequestBody) (haccess : body.accessesData = true)
    {request : Pdu} (hbuild : body.call.pdu = .ok request) {frame : List UInt8}
    {tt : TransportType} {message : ModbusMessage}
    (hframe : decompileAduFrame frame tt = .ok message) :
    DecodesAlike (body.call.dispatch message) (body.receive frame tt) ↔
      (message.pdu.errorCode = none → body.AgreesOn message.pdu) := by
  cases hcode : message.pdu.errorCode with
  | some exceptionCode =>
    rw [ClientCall.dispatch, receive, decodeResponse, hframe, ok_bind, hcode]
    exact iff_of_true ⟨_, rfl, .modbusException exceptionCode, rfl⟩ nofun
  | none =>
    rw [receive_eq_read hframe hcode, dispatch_eq_deliver hcode]
    refine Iff.trans ?_ ⟨fun h _ => h, fun h => h rfl⟩
    cases body with
    | readMultipleCoils address quantity =>
      obtain ⟨_, hquantity, _⟩ := bind_eq_ok.mp hbuild
      exact readMultipleCoils_alike address (outside_eq_false.mp (guardErr_eq_ok.mp hquantity)).2
    | writeSingleCoil address value => exact writeSingleCoil_alike address value
    | writeMultipleCoils address coils => exact writeMultipleCoils_alike address coils
    | readHoldingRegisters address quantity =>
      obtain ⟨_, hquantity, _⟩ := bind_eq_ok.mp hbuild
      exact readHoldingRegisters_alike address
        (outside_eq_false.mp (guardErr_eq_ok.mp hquantity)).2
    | readInputRegisters address quantity =>
      obtain ⟨_, hquantity, _⟩ := bind_eq_ok.mp hbuild
      exact readInputRegisters_alike address
        (outside_eq_false.mp (guardErr_eq_ok.mp hquantity)).2
    | writeSingleRegister address value => exact writeSingleRegister_alike address value
    | writeMultipleRegisters address values =>
      obtain ⟨_, hquantity, _⟩ := bind_eq_ok.mp hbuild
      exact writeMultipleRegisters_alike address values
        (Nat.le_trans (outside_eq_false.mp (guardErr_eq_ok.mp hquantity)).2 (by decide))
    | readWriteMultipleRegisters readAddress readQuantity writeAddress writeValues =>
      obtain ⟨_, hquantity, _⟩ := bind_eq_ok.mp hbuild
      exact readWriteMultipleRegisters_alike readAddress writeAddress writeValues
        (outside_eq_false.mp (guardErr_eq_ok.mp hquantity)).2
    | maskWriteRegister address andMask orMask =>
      exact maskWriteRegister_alike address andMask orMask
    | readDiscreteInputs address quantity =>
      obtain ⟨_, hquantity, _⟩ := bind_eq_ok.mp hbuild
      exact readDiscreteInputs_alike address
        (outside_eq_false.mp (guardErr_eq_ok.mp hquantity)).2
    | readFifoQueue address => exact readFifoQueue_alike address
    | readFileRecord subRequest => exact readFileRecord_alike subRequest
    | writeFileRecord subRequest => exact writeFileRecord_alike subRequest
    | _ => cases haccess

omit [Features] in
/-- A response with the one register that was asked for. -/
theorem decodesAlike_register :
    letI : Features := Features.minimal
    ∃ message, decompileAduFrame [0, 1, 0, 0, 0, 5, 17, 3, 2, 0x12, 0x34] .stdTcp = .ok message ∧
      DecodesAlike ((readHoldingRegisters 107 1).call.dispatch message)
        ((readHoldingRegisters 107 1).receive [0, 1, 0, 0, 0, 5, 17, 3, 2, 0x12, 0x34]
          .stdTcp) := by
  let _ : Features := Features.minimal
  obtain ⟨message, hmessage, hfc, hdata⟩ : ∃ message,
      decompileAduFrame [0, 1, 0, 0, 0, 5, 17, 3, 2, 0x12, 0x34] .stdTcp = .ok message ∧
        message.pdu.functionCode = .readHoldingRegisters ∧
        message.pdu.CountsBytes [0x12, 0x34] :=
    ⟨_, rfl, rfl, rfl⟩
  refine ⟨message, hmessage, (decodesAlike_iff (readHoldingRegisters 107 1) rfl rfl hmessage).mpr
    fun _ => Or.inl ⟨⟨hfc, _, hdata, rfl⟩, trivial⟩⟩

omit [Features] in
/-- Two registers are asked for and one comes back: the sync client reports a failure, the async
client two registers. -/
theorem shortResponse_not_alike :
    ¬∀ [Features] (body : ClientRequestBody), body.accessesData = true → ∀ {request : Pdu},
      body.call.pdu = .ok request → ∀ {frame : List UInt8} {tt : TransportType}
      {message : ModbusMessage}, decompileAduFrame frame tt = .ok message →
      DecodesAlike (body.call.dispatch message) (body.receive frame tt) := by
  intro h
  let _ : Features := Features.minimal
  obtain ⟨message, hmessage, hcode⟩ : ∃ message,
      decompileAduFrame [0, 1, 0, 0, 0, 5, 17, 3, 2, 0x12, 0x34] .stdTcp = .ok message ∧
        message.pdu.errorCode = none ∧ message.pdu.functionCode = .readHoldingRegisters ∧
        message.pdu.CountsBytes [0x12, 0x34] :=
    ⟨_, rfl, rfl, rfl, rfl⟩
  obtain ⟨hnone, hfc, hdata⟩ := hcode
  have halike := h (readHoldingRegisters 107 2) rfl rfl hmessage
  rw [receive_eq_read hmessage hnone, dispatch_eq_deliver hnone,
    readHoldingRegisters_alike 107 (by decide)] at halike
  rcases halike with ⟨⟨_, bytes, hbytes, hlen⟩, _⟩ | ⟨_, _, hrefuses⟩
  · rw [hdata.unique hbytes] at hlen
    cases hlen
  · refine hrefuses ?_
    rw [Takes, Pdu.HoldsRegisters, hfc]
    exact ⟨_, hdata, rfl⟩

end ClientRequestBody

end ModbusRs
