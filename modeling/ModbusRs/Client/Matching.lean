import ModbusRs.Client.Decoding

/-!
# Responses that match their request

A response matches its request if it has the function code, echoes the fields that the protocol
echoes and has the length that the request asks for. Three handlers look at the layout of the
response alone: a diagnostics response may name another sub-function, the records of a file read
may have any length and the echo of a file write may be of any sub-requests.
-/

namespace ModbusRs

open Outcome

/-- The records of a file read with these numbers of words, each behind its length and the
reference type. -/
inductive FileRecordBlocks : List Nat → List UInt8 → Prop
  | done : FileRecordBlocks [] []
  | record {count : Nat} {counts : List Nat} {words rest : List UInt8} (hcount : count ≤ 127)
      (hwords : words.length = count * 2) (hrest : FileRecordBlocks counts rest) :
      FileRecordBlocks (count :: counts)
        (UInt8.ofNat (1 + count * 2) :: fileRecordRefType :: (words ++ rest))

namespace ClientCall

/-- The response answers the request in every field that the protocol echoes, and in its length. -/
def Matches (call : ClientCall) (request response : Pdu) : Prop :=
  response.functionCode = request.functionCode ∧
    match call with
    | .readMultipleCoils _ quantity | .readDiscreteInputs _ quantity =>
      ∃ bytes, response.CountsBytes bytes ∧ bytes.length = (quantity.toNat + 7) / 8
    | .readSingleCoil _ | .readSingleDiscreteInput _ =>
      ∃ bytes, response.CountsBytes bytes ∧ bytes.length = 1
    | .readHoldingRegisters _ quantity | .readInputRegisters _ quantity
    | .readWriteMultipleRegisters _ quantity _ _ =>
      ∃ bytes, response.CountsBytes bytes ∧ bytes.length = quantity.toNat * 2
    | .readSingleHoldingRegister _ | .readSingleInputRegister _ =>
      ∃ bytes, response.CountsBytes bytes ∧ bytes.length = 2
    | .writeSingleCoil address value =>
      response.HoldsPair address (if value then 0xFF00 else 0x0000)
    | .writeMultipleCoils address values => response.HoldsPair address values.quantity
    | .writeSingleRegister address value => response.HoldsPair address value
    | .writeMultipleRegisters address quantity _ => response.HoldsPair address quantity
    | .maskWriteRegister address andMask orMask =>
      response.data.toList = toBeBytes address ++ toBeBytes andMask ++ toBeBytes orMask
    | .readFifoQueue _ => ∃ words, response.HoldsFifo words
    | .readFileRecord subRequest => ∃ bytes, response.CountsBytes bytes ∧
      FileRecordBlocks (subRequest.params.toList.map fun param => param.recordLength.toNat) bytes
    | .writeFileRecord _ => response.data.toList = request.data.toList
    | .readDeviceIdentification readDeviceIdCode _ =>
      ∃ rest, response.data.toList = 0x0E :: readDeviceIdCode.toByte :: rest
    | .encapsulatedInterfaceTransport meiType _ =>
      ∃ rest, response.data.toList = meiTypeToByte meiType :: rest
    | .readExceptionStatus => response.data.toList.length = 1
    | .diagnostics subFunction _ =>
      ∃ payload, response.data.toList = toBeBytes subFunction.toU16 ++ payload
    | .getCommEventCounter => response.data.toList.length = 4
    | .getCommEventLog => ∃ bytes, response.CountsBytes bytes ∧ 6 ≤ bytes.length
    | .reportServerId => ∃ bytes, response.CountsBytes bytes

/-- The response has the layout of a response to the request, and answers another one. -/
def AnswersAnother (call : ClientCall) (request response : Pdu) : Prop :=
  match call with
  | .diagnostics subFunction _ => response.functionCode = .diagnostics ∧
    ∃ other payload, other ≠ subFunction ∧ payload.length % 2 = 0 ∧
      response.data.toList = toBeBytes (DiagnosticSubFunction.toU16 other) ++ payload
  | .readFileRecord subRequest => response.functionCode = .readFileRecord ∧
    ∃ counts bytes, counts ≠ subRequest.params.toList.map (fun param => param.recordLength.toNat) ∧
      counts.length ≤ maxSubRequestsPerPdu ∧ response.CountsBytes bytes ∧
      FileRecordBlocks counts bytes
  | .writeFileRecord _ => response.functionCode = .writeFileRecord ∧
    ∃ bytes, response.data.toList ≠ request.data.toList ∧ response.CountsBytes bytes ∧
      FileRecordEcho bytes
  | _ => False

end ClientCall

/-! ### The records of a file read -/

namespace FileRecordBlocks

variable {counts counts' : List Nat} {bytes words : List UInt8} {count : Nat}

/-- The bytes tell the numbers of words. -/
lemma unique (h : FileRecordBlocks counts bytes) (h' : FileRecordBlocks counts' bytes) :
    counts' = counts := by
  induction h generalizing counts' with
  | done => cases h' with
    | done => rfl
  | @record count counts words rest hcount hwords hrest ih =>
    generalize hbytes : UInt8.ofNat (1 + count * 2) :: fileRecordRefType :: (words ++ rest) =
      bytes at h'
    cases h' with
    | done => cases hbytes
    | @record count' counts' words' rest' hcount' hwords' hrest' =>
      obtain ⟨hlength, htail⟩ := List.cons_eq_cons.mp hbytes
      have hsame : count' = count := by
        have h := congrArg UInt8.toNat hlength
        rw [UInt8.toNat_ofNat', UInt8.toNat_ofNat'] at h
        omega
      subst hsame
      obtain ⟨_, rfl⟩ := List.append_inj (List.cons_eq_cons.mp htail).2
        (hwords.trans hwords'.symm)
      rw [ih hrest']

/-- One round of the loop reads one record. -/
lemma fileRecordLoop_record (front rest : List UInt8) (hcount : count ≤ 127)
    (hwords : words.length = count * 2) (out : HVec SubRequestParams maxSubRequestsPerPdu) :
    ∃ param, fileRecordLoop
      (front ++ UInt8.ofNat (1 + count * 2) :: fileRecordRefType :: (words ++ rest)) front.length
        out = (do
      let out ← lift (out.pushOr param .bufferTooSmall)
      fileRecordLoop
        (front ++ UInt8.ofNat (1 + count * 2) :: fileRecordRefType :: (words ++ rest))
        (front.length + (1 + (1 + count * 2))) out) := by
  set payload := front ++ UInt8.ofNat (1 + count * 2) :: fileRecordRefType :: (words ++ rest)
    with hpayload
  have hlen : payload.length = front.length + (2 + (count * 2 + rest.length)) := by
    rw [hpayload]
    simp only [List.length_append, List.length_cons, hwords]
    omega
  have hnat : (UInt8.ofNat (1 + count * 2)).toNat = 1 + count * 2 :=
    UInt8.toNat_ofNat_of_lt' (show 1 + count * 2 < 256 by omega)
  have hlength : (index payload front.length : Fallible UInt8) =
      .ok (UInt8.ofNat (1 + count * 2)) := by
    rw [hpayload, ← Nat.add_zero front.length, index_append_add]
    rfl
  have href : (index payload (front.length + 1) : Fallible UInt8) = .ok fileRecordRefType := by
    rw [hpayload, index_append_add]
    rfl
  have hraw : (slice payload (front.length + 2) (front.length + 2 + (1 + count * 2 - 1)) :
      Fallible (List UInt8)) = .ok words := by
    rw [slice_of_le (by omega) (by omega), Nat.add_sub_cancel_left, List.drop_take,
      Nat.add_sub_cancel_left, hpayload, List.drop_length_add_append, ← hwords]
    exact congrArg ok List.take_left
  have hpos : ¬UInt8.ofNat (1 + count * 2) < 1 := by
    rw [UInt8.lt_iff_toNat_lt, hnat]
    exact Nat.not_lt.mpr (Nat.le_add_right 1 _)
  rw [fileRecordLoop, if_pos (by omega), decide_eq_false (by omega), guardErr_false, ok_bind,
    hlength, ok_bind, href, ok_bind, bne_self_eq_false, guardErr_false, ok_bind,
    decide_eq_false hpos, guardErr_false, ok_bind, hnat, decide_eq_false (by omega),
    guardErr_false, ok_bind, hraw, ok_bind, hwords, Nat.mul_mod_left, bne_self_eq_false,
    guardErr_false, ok_bind, HVec.extendOr_of_le _ (by
      rw [HVec.empty_toList, List.length_nil, Nat.zero_add, beWords_length, hwords]
      change _ ≤ 252
      omega), lift_ok, ok_bind]
  exact ⟨_, rfl⟩

/-- The loop accepts as many records as the result can hold. -/
lemma fileRecordLoop_of_le (h : FileRecordBlocks counts bytes) (front : List UInt8)
    (out : HVec SubRequestParams maxSubRequestsPerPdu)
    (hle : out.toList.length + counts.length ≤ maxSubRequestsPerPdu) :
    ∃ records, fileRecordLoop (front ++ bytes) front.length out = .ok records := by
  induction h generalizing front out with
  | done =>
    rw [List.append_nil, fileRecordLoop, if_neg (Nat.lt_irrefl _)]
    exact ⟨_, rfl⟩
  | @record count counts words rest hcount hwords hrest ih =>
    rw [List.length_cons] at hle
    obtain ⟨param, hround⟩ := fileRecordLoop_record front rest hcount hwords out
    have hpush : out.toList.length + [param].length ≤ maxSubRequestsPerPdu := by
      rw [List.length_singleton]
      omega
    rw [hround, HVec.pushOr, HVec.extendOr_of_le _ hpush, lift_ok, ok_bind]
    have hnext := ih (front ++ UInt8.ofNat (1 + count * 2) :: fileRecordRefType :: words)
      ⟨out.toList ++ [param], by rwa [List.length_append]⟩ (by
        rw [List.length_append, List.length_singleton]
        omega)
    simp only [List.append_assoc, List.cons_append, List.length_append, List.length_cons,
      hwords] at hnext
    rwa [show front.length + (1 + (1 + count * 2)) = front.length + (count * 2 + 1 + 1) by omega]

/-- The loop accepts nothing else. -/
lemma of_fileRecordLoop (front : List UInt8) (out : HVec SubRequestParams maxSubRequestsPerPdu)
    {records : HVec SubRequestParams maxSubRequestsPerPdu}
    (h : fileRecordLoop (front ++ bytes) front.length out = .ok records) :
    ∃ counts, out.toList.length + counts.length ≤ maxSubRequestsPerPdu ∧
      FileRecordBlocks counts bytes := by
  induction hn : bytes.length using Nat.strong_induction_on generalizing front bytes out with
  | _ n ih =>
    match bytes, hn with
    | [], _ =>
      refine ⟨[], ?_, .done⟩
      exact out.length_le
    | [length], _ =>
      rw [fileRecordLoop, if_pos (by simp), decide_eq_true (by simp)] at h
      cases h
    | length :: ref :: tail, hn =>
      have hlength : (index (front ++ length :: ref :: tail) front.length : Fallible UInt8) =
          .ok length := by
        rw [← Nat.add_zero front.length, index_append_add]
        rfl
      have href : (index (front ++ length :: ref :: tail) (front.length + 1) : Fallible UInt8) =
          .ok ref := by
        rw [index_append_add]
        rfl
      have hlen : (front ++ length :: ref :: tail).length = front.length + (tail.length + 2) := by
        rw [List.length_append, List.length_cons, List.length_cons]
      rw [fileRecordLoop, if_pos (by omega), decide_eq_false (by omega), guardErr_false, ok_bind,
        hlength, ok_bind, href, ok_bind] at h
      obtain ⟨_, htype, h⟩ := bind_eq_ok.mp h
      obtain ⟨_, hpos, h⟩ := bind_eq_ok.mp h
      obtain ⟨_, hend, h⟩ := bind_eq_ok.mp h
      obtain ⟨raw, hraw, h⟩ := bind_eq_ok.mp h
      obtain ⟨_, heven, h⟩ := bind_eq_ok.mp h
      obtain ⟨recordData, _, h⟩ := bind_eq_ok.mp h
      obtain ⟨out', hpush, h⟩ := bind_eq_ok.mp h
      rw [guardErr_eq_ok, bne_eq_false_iff_eq] at htype heven
      rw [guardErr_eq_ok, decide_eq_false_iff_not, UInt8.lt_iff_toNat_lt] at hpos
      rw [guardErr_eq_ok, decide_eq_false_iff_not, hlen] at hend
      have hpos : 1 ≤ length.toNat := Nat.not_lt.mp hpos
      have hbyte : length.toNat < 256 := length.toNat_lt
      have hraw : raw = tail.take (length.toNat - 1) := by
        rw [(slice_eq_ok.mp hraw).2, List.drop_take, Nat.add_sub_cancel_left,
          List.drop_length_add_append]
        rfl
      obtain ⟨count, hcount⟩ : ∃ count, length.toNat = 1 + count * 2 := by
        rw [hraw, List.length_take_of_le (by omega)] at heven
        exact ⟨(length.toNat - 1) / 2, by omega⟩
      have hwords : (tail.take (count * 2)).length = count * 2 :=
        List.length_take_of_le (by omega)
      obtain ⟨counts, hle, hrest⟩ := ih (tail.drop (count * 2)).length (by
        rw [← hn, List.length_drop, List.length_cons, List.length_cons]
        omega) (front ++ length :: ref :: tail.take (count * 2)) out' (by
        simp only [List.append_assoc, List.cons_append, List.take_append_drop,
          List.length_append, List.length_cons, hwords]
        rw [hcount] at h
        rwa [show front.length + (count * 2 + 1 + 1) =
          front.length + (1 + (1 + count * 2)) by omega]) rfl
      refine ⟨count :: counts, ?_, ?_⟩
      · rw [HVec.pushOr_eq_ok.mp (lift_eq_ok.mp hpush), List.length_append,
          List.length_singleton] at hle
        rw [List.length_cons]
        omega
      · have hblock : FileRecordBlocks (count :: counts) _ := .record (by omega) hwords hrest
        rwa [← hcount, UInt8.ofNat_toNat, List.take_append_drop, ← htype] at hblock

end FileRecordBlocks

/-! ### Layouts of the other functions -/

namespace Pdu

variable {p : Pdu}

lemma countsBytes_of_byteCountPayload {bcp : ByteCountPayload}
    (h : p.byteCountPayload = .ok bcp) : p.CountsBytes bcp.payload := by
  obtain ⟨hdata, hlen⟩ := byteCountPayload_eq_ok.mp h
  rw [CountsBytes, hdata, hlen, UInt8.ofNat_toNat]

lemma length_of_singleBytePayload {value : UInt8} (h : p.singleBytePayload = .ok value) :
    p.data.toList.length = 1 := by
  obtain ⟨_, hlen, _⟩ := bind_eq_ok.mp h
  rwa [guardErr_eq_ok, bne_eq_false_iff_eq] at hlen

lemma length_of_u16PairFields {fields : U16PairFields} (h : p.u16PairFields = .ok fields) :
    p.data.toList.length = 4 := by
  obtain ⟨_, hlen, _⟩ := bind_eq_ok.mp h
  rwa [guardErr_eq_ok, bne_eq_false_iff_eq] at hlen

lemma meiTypePayload_eq_ok {mtp : MeiTypePayload} (h : p.meiTypePayload = .ok mtp) :
    p.data.toList = mtp.meiTypeByte :: mtp.payload := by
  obtain ⟨_, hlen, h⟩ := bind_eq_ok.mp h
  rw [guardErr_eq_ok, decide_eq_false_iff_not, Nat.not_lt, dataLen] at hlen
  obtain ⟨first, rest, hdata⟩ := List.exists_cons_of_length_pos hlen
  have hslice : (slice p.data.toList 1 p.dataLen : Fallible (List UInt8)) =
      .ok (p.data.toList.drop 1) := slice_drop hlen rfl
  rw [hslice, hdata] at h
  cases h
  exact hdata

lemma subFunctionPayload_eq_ok {sfp : SubFunctionPayload} :
    p.subFunctionPayload = .ok sfp ↔
      p.data.toList = toBeBytes sfp.subFunction ++ sfp.payload ∧ sfp.payload.length % 2 = 0 := by
  constructor
  · intro h
    obtain ⟨_, hlen, h⟩ := bind_eq_ok.mp h
    obtain ⟨_, heven, h⟩ := bind_eq_ok.mp h
    rw [guardErr_eq_ok, decide_eq_false_iff_not, Nat.not_lt, dataLen] at hlen
    rw [guardErr_eq_ok, bne_eq_false_iff_eq, dataLen] at heven
    obtain ⟨b₀, b₁, payload, hdata⟩ := exists_two hlen
    have hslice : (slice p.data.toList 2 p.dataLen : Fallible (List UInt8)) =
        .ok (p.data.toList.drop 2) := slice_drop hlen rfl
    rw [hslice, hdata] at h
    cases h
    rw [hdata, List.length_cons, List.length_cons] at heven
    rw [hdata, toBeBytes_fromBeBytes]
    exact ⟨rfl, show payload.length % 2 = 0 by omega⟩
  · rintro ⟨hdata, heven⟩
    have hlen : p.dataLen = 2 + sfp.payload.length := by
      rw [dataLen, hdata, List.length_append, toBeBytes_length]
    have hslice : (slice p.data.toList 2 p.dataLen : Fallible (List UInt8)) =
        .ok (p.data.toList.drop 2) := slice_drop (by omega) rfl
    rw [subFunctionPayload, hslice, decide_eq_false (by omega), guardErr_false, ok_bind, hlen,
      Nat.add_mod_left, heven, bne_self_eq_false, guardErr_false, ok_bind, hdata]
    simp [u16At, toBeBytes, fromBeBytes_toBeBytes]

lemma readDeviceIdFields_eq_ok {fields : ReadDeviceIdPduFields}
    (h : p.readDeviceIdFields = .ok fields) :
    ∃ rest, p.data.toList = fields.meiTypeByte :: fields.readDeviceIdCodeByte :: rest := by
  obtain ⟨_, hlen, h⟩ := bind_eq_ok.mp h
  obtain ⟨_, _, h⟩ := bind_eq_ok.mp h
  obtain ⟨_, _, h⟩ := bind_eq_ok.mp h
  obtain ⟨_, _, h⟩ := bind_eq_ok.mp h
  obtain ⟨_, _, h⟩ := bind_eq_ok.mp h
  obtain ⟨_, _, h⟩ := bind_eq_ok.mp h
  rw [guardErr_eq_ok, decide_eq_false_iff_not, Nat.not_lt, dataLen] at hlen
  obtain ⟨b₀, b₁, rest, hdata⟩ := exists_two (by omega : 2 ≤ p.data.toList.length)
  rw [hdata] at h
  obtain ⟨_, hfirst, h⟩ := bind_eq_ok.mp h
  obtain ⟨_, hsecond, h⟩ := bind_eq_ok.mp h
  obtain ⟨_, _, h⟩ := bind_eq_ok.mp h
  obtain ⟨_, _, h⟩ := bind_eq_ok.mp h
  obtain ⟨_, _, h⟩ := bind_eq_ok.mp h
  cases h
  cases hfirst
  cases hsecond
  exact ⟨rest, hdata⟩

variable {fc : FunctionCode}

lemma functionCode_of_buildMeiType {meiType : UInt8} {payload : List UInt8}
    (h : buildMeiType fc meiType payload = .ok p) : p.functionCode = fc := by
  obtain ⟨_, _, h⟩ := Except.bind_eq_ok_iff.mp h
  obtain ⟨_, _, h⟩ := Except.bind_eq_ok_iff.mp h
  obtain ⟨_, _, h⟩ := Except.bind_eq_ok_iff.mp h
  cases h
  rfl

lemma functionCode_of_buildSubFunction {subFunction : UInt16} {words : List UInt16}
    (h : buildSubFunction fc subFunction words = .ok p) : p.functionCode = fc := by
  obtain ⟨_, _, h⟩ := Except.bind_eq_ok_iff.mp h
  obtain ⟨_, _, h⟩ := Except.bind_eq_ok_iff.mp h
  obtain ⟨_, _, h⟩ := Except.bind_eq_ok_iff.mp h
  cases h
  rfl

end Pdu

lemma ReadDeviceIdCode.toByte_of_tryFrom {value : UInt8} {code : ReadDeviceIdCode}
    (h : tryFrom value = .ok code) : code.toByte = value := by
  unfold tryFrom at h
  split at h
  all_goals first
    | cases h; exact UInt8.toNat_inj.mp (Eq.symm ‹_›)
    | cases h

lemma EncapsulatedInterfaceType.toByte_of_tryFrom {value : UInt8}
    {meiType : EncapsulatedInterfaceType} (h : tryFrom value = .ok meiType) :
    meiTypeToByte (some meiType) = value := by
  unfold tryFrom at h
  split at h
  all_goals first
    | cases h; exact UInt8.toNat_inj.mp (Eq.symm ‹_›)
    | cases h

lemma DiagnosticSubFunction.tryFrom_toU16 (subFunction : DiagnosticSubFunction) :
    tryFrom subFunction.toU16 = .ok subFunction := by
  cases subFunction <;> rfl

lemma DiagnosticSubFunction.toU16_of_tryFrom {value : UInt16} {subFunction : DiagnosticSubFunction}
    (h : tryFrom value = .ok subFunction) : subFunction.toU16 = value := by
  unfold tryFrom at h
  split at h
  all_goals first
    | cases h; exact UInt16.toNat_inj.mp (Eq.symm ‹_›)
    | cases h

/-! ### The handlers of the other functions -/

section Handlers

open ResponseParser ServiceDecompiler

variable {response : Pdu} {fc : FunctionCode}

/-- A handler that checks the function code and never panics fails on every response without the
layout that it accepts. -/
lemma eq_err_of_layout {α : Type} {parse : Fallible α} {layout : Prop}
    (hpanic : response.functionCode = fc → parse ≠ .panic)
    (hcode : response.functionCode ≠ fc → ∃ e, parse = .err e)
    (hlayout : ∀ a, parse = .ok a → response.functionCode = fc → layout)
    (h : ¬(response.functionCode = fc ∧ layout)) : ∃ e, parse = .err e := by
  by_cases hfc : response.functionCode = fc
  · exact eq_err_of_ne (hpanic hfc) fun a ha => h ⟨hfc, hlayout a ha hfc⟩
  · exact hcode hfc

lemma checkFunctionCode_bind_err {α : Type} (hfc : response.functionCode ≠ fc) (error : MbusError)
    (f : Unit → Fallible α) : ∃ e, (checkFunctionCode response fc error >>= f) = .err e := by
  rw [checkFunctionCode_of_ne hfc]
  exact ⟨_, rfl⟩

lemma handleReadExceptionStatusRsp_eq_err
    (h : ¬(response.functionCode = .readExceptionStatus ∧ response.data.toList.length = 1)) :
    ∃ e, handleReadExceptionStatusRsp response = .err e := by
  rw [handleReadExceptionStatusRsp, parseReadExceptionStatusResponse, bind_assoc]
  refine eq_err_of_layout (fun hfc => ?_) (fun hfc => checkFunctionCode_bind_err hfc _ _)
    (fun _ hok hfc => ?_) h
  · rw [checkFunctionCode_of_eq hfc, ok_bind]
    exact bind_ne_panic Pdu.singleBytePayload_ne_panic fun _ _ => nofun
  · obtain ⟨_, _, hok⟩ := bind_eq_ok.mp hok
    obtain ⟨_, hvalue, _⟩ := bind_eq_ok.mp hok
    exact Pdu.length_of_singleBytePayload hvalue

lemma handleGetCommEventCounterRsp_eq_err
    (h : ¬(response.functionCode = .getCommEventCounter ∧ response.data.toList.length = 4)) :
    ∃ e, handleGetCommEventCounterRsp response = .err e := by
  rw [handleGetCommEventCounterRsp, parseGetCommEventCounterResponse, bind_assoc]
  refine eq_err_of_layout (fun hfc => ?_) (fun hfc => checkFunctionCode_bind_err hfc _ _)
    (fun _ hok hfc => ?_) h
  · rw [checkFunctionCode_of_eq hfc, ok_bind]
    exact bind_ne_panic Pdu.u16PairFields_ne_panic fun _ _ => nofun
  · obtain ⟨_, _, hok⟩ := bind_eq_ok.mp hok
    obtain ⟨_, hfields, _⟩ := bind_eq_ok.mp hok
    exact Pdu.length_of_u16PairFields hfields

lemma handleReportServerIdRsp_eq_err
    (h : ¬(response.functionCode = .reportServerId ∧ ∃ bytes, response.CountsBytes bytes)) :
    ∃ e, handleReportServerIdRsp response = .err e := by
  rw [handleReportServerIdRsp, parseReportServerIdResponse, bind_assoc]
  refine eq_err_of_layout (fun hfc => ?_) (fun hfc => checkFunctionCode_bind_err hfc _ _)
    (fun _ hok hfc => ?_) h
  · rw [checkFunctionCode_of_eq hfc, ok_bind, bind_assoc]
    refine bind_ne_panic Pdu.byteCountPayload_ne_panic fun _ _ => ?_
    rw [lift_bind_ne_panic]
    exact fun _ _ => nofun
  · obtain ⟨_, _, hok⟩ := bind_eq_ok.mp hok
    obtain ⟨_, hok, _⟩ := bind_eq_ok.mp hok
    obtain ⟨bcp, hbcp, _⟩ := bind_eq_ok.mp hok
    exact ⟨bcp.payload, Pdu.countsBytes_of_byteCountPayload hbcp⟩

lemma handleGetCommEventLogRsp_eq_err
    (h : ¬(response.functionCode = .getCommEventLog ∧
      ∃ bytes, response.CountsBytes bytes ∧ 6 ≤ bytes.length)) :
    ∃ e, handleGetCommEventLogRsp response = .err e := by
  rw [handleGetCommEventLogRsp, parseGetCommEventLogResponse, bind_assoc]
  refine eq_err_of_layout (fun hfc => ?_) (fun hfc => checkFunctionCode_bind_err hfc _ _)
    (fun _ hok hfc => ?_) h
  · rw [checkFunctionCode_of_eq hfc, ok_bind, bind_assoc]
    refine bind_ne_panic Pdu.byteCountPayload_ne_panic fun bcp hbcp => ?_
    rw [bind_assoc, guardErr_bind_ne_panic]
    intro hcount
    have hlen : 6 ≤ bcp.payload.length := by
      rw [decide_eq_false_iff_not, UInt8.lt_iff_toNat_lt] at hcount
      rw [(Pdu.byteCountPayload_eq_ok.mp hbcp).2]
      exact Nat.not_lt.mp hcount
    rw [u16At_of_lt (by omega), ok_bind, u16At_of_lt (by omega), ok_bind, u16At_of_lt (by omega),
      ok_bind, bind_assoc, lift_bind_ne_panic]
    exact fun _ _ => nofun
  · obtain ⟨_, _, hok⟩ := bind_eq_ok.mp hok
    obtain ⟨_, hok, _⟩ := bind_eq_ok.mp hok
    obtain ⟨bcp, hbcp, hok⟩ := bind_eq_ok.mp hok
    obtain ⟨_, hcount, _⟩ := bind_eq_ok.mp hok
    rw [guardErr_eq_ok, decide_eq_false_iff_not, UInt8.lt_iff_toNat_lt] at hcount
    refine ⟨bcp.payload, Pdu.countsBytes_of_byteCountPayload hbcp, ?_⟩
    rw [(Pdu.byteCountPayload_eq_ok.mp hbcp).2]
    exact Nat.not_lt.mp hcount

lemma handleReadDeviceIdentificationRsp_eq_err (code : ReadDeviceIdCode)
    (encapType : Option EncapsulatedInterfaceType)
    (h : ¬(response.functionCode = .encapsulatedInterfaceTransport ∧
      ∃ rest, response.data.toList = 0x0E :: code.toByte :: rest)) :
    ∃ e, handleReadDeviceIdentificationRsp (.diag code encapType) response = .err e := by
  rw [handleReadDeviceIdentificationRsp, parseReadDeviceIdentificationResponse, bind_assoc]
  refine eq_err_of_layout (fun hfc => ?_) (fun hfc => checkFunctionCode_bind_err hfc _ _)
    (fun _ hok hfc => ?_) h
  · rw [checkFunctionCode_of_eq hfc, ok_bind, bind_assoc]
    refine bind_ne_panic readDeviceIdFields_ne_panic fun fields _ => ?_
    rw [bind_assoc, guardErr_bind_ne_panic]
    intro _
    rw [bind_assoc, lift_bind_ne_panic]
    intro _ _
    rw [bind_assoc, lift_bind_ne_panic]
    intro _ _
    rw [bind_assoc, guardErr_bind_ne_panic]
    exact fun _ => nofun
  · obtain ⟨_, _, hok⟩ := bind_eq_ok.mp hok
    obtain ⟨_, hok, _⟩ := bind_eq_ok.mp hok
    obtain ⟨fields, hfields, hok⟩ := bind_eq_ok.mp hok
    obtain ⟨_, hmei, hok⟩ := bind_eq_ok.mp hok
    obtain ⟨readCode, hreadCode, hok⟩ := bind_eq_ok.mp hok
    obtain ⟨_, _, hok⟩ := bind_eq_ok.mp hok
    obtain ⟨_, hcode, _⟩ := bind_eq_ok.mp hok
    rw [guardErr_eq_ok, bne_eq_false_iff_eq] at hmei hcode
    obtain ⟨rest, hdata⟩ := Pdu.readDeviceIdFields_eq_ok hfields
    refine ⟨rest, ?_⟩
    rw [hdata, hmei, ← ReadDeviceIdCode.toByte_of_tryFrom (lift_eq_ok.mp hreadCode), hcode]
    rfl

lemma handleEncapsulatedInterfaceTransportRsp_eq_err (code : ReadDeviceIdCode)
    (meiType : Option EncapsulatedInterfaceType)
    (h : ¬(response.functionCode = .encapsulatedInterfaceTransport ∧
      ∃ rest, response.data.toList = meiTypeToByte meiType :: rest)) :
    ∃ e, handleEncapsulatedInterfaceTransportRsp (.diag code meiType) response = .err e := by
  rw [handleEncapsulatedInterfaceTransportRsp, parseEncapsulatedInterfaceTransportResponse,
    bind_assoc]
  refine eq_err_of_layout (fun hfc => ?_) (fun hfc => checkFunctionCode_bind_err hfc _ _)
    (fun _ hok hfc => ?_) h
  · rw [checkFunctionCode_of_eq hfc, ok_bind, bind_assoc]
    refine bind_ne_panic Pdu.meiTypePayload_ne_panic fun _ _ => ?_
    rw [bind_assoc, lift_bind_ne_panic]
    intro _ _
    rw [bind_assoc, lift_bind_ne_panic]
    intro _ _
    rw [pure_bind, guardErr_bind_ne_panic]
    exact fun _ => nofun
  · obtain ⟨_, _, hok⟩ := bind_eq_ok.mp hok
    obtain ⟨_, hparse, hok⟩ := bind_eq_ok.mp hok
    obtain ⟨mtp, hmtp, hparse⟩ := bind_eq_ok.mp hparse
    obtain ⟨answered, hanswered, hparse⟩ := bind_eq_ok.mp hparse
    obtain ⟨_, _, hparse⟩ := bind_eq_ok.mp hparse
    cases hparse
    obtain ⟨_, hsame, _⟩ := bind_eq_ok.mp hok
    rw [guardErr_eq_ok, bne_eq_false_iff_eq] at hsame
    have hsame : some answered = meiType := hsame
    refine ⟨mtp.payload, ?_⟩
    rw [Pdu.meiTypePayload_eq_ok hmtp, ← hsame,
      EncapsulatedInterfaceType.toByte_of_tryFrom (lift_eq_ok.mp hanswered)]

/-- A diagnostics response is accepted with any sub-function. -/
lemma handleDiagnosticsRsp_eq_ok {subFunction : DiagnosticSubFunction} {payload : List UInt8}
    (hfc : response.functionCode = .diagnostics) (heven : payload.length % 2 = 0)
    (hdata : response.data.toList = toBeBytes subFunction.toU16 ++ payload) :
    handleDiagnosticsRsp response = .ok (some (.diagnostics subFunction (beWords payload))) := by
  have hfields : response.subFunctionPayload = .ok ⟨subFunction.toU16, payload⟩ :=
    Pdu.subFunctionPayload_eq_ok.mpr ⟨hdata, heven⟩
  have hle : response.data.toList.length ≤ 252 := response.data.length_le
  rw [hdata, List.length_append, toBeBytes_length] at hle
  rw [handleDiagnosticsRsp, parseDiagnosticsResponse, checkFunctionCode_of_eq hfc, ok_bind, hfields,
    ok_bind, HVec.extendOr_of_le _ (by
      rw [HVec.empty_toList, List.length_nil, Nat.zero_add, beWords_length]
      change payload.length / 2 ≤ 125
      omega), lift_ok, ok_bind, pure_bind, DiagnosticSubFunction.tryFrom_toU16, lift_ok, ok_bind]
  rfl

lemma handleDiagnosticsRsp_eq_err
    (h : ¬(response.functionCode = .diagnostics ∧ ∃ subFunction payload,
      payload.length % 2 = 0 ∧
        response.data.toList = toBeBytes (DiagnosticSubFunction.toU16 subFunction) ++ payload)) :
    ∃ e, handleDiagnosticsRsp response = .err e := by
  rw [handleDiagnosticsRsp, parseDiagnosticsResponse, bind_assoc]
  refine eq_err_of_layout (fun hfc => ?_) (fun hfc => checkFunctionCode_bind_err hfc _ _)
    (fun _ hok hfc => ?_) h
  · rw [checkFunctionCode_of_eq hfc, ok_bind, bind_assoc]
    refine bind_ne_panic Pdu.subFunctionPayload_ne_panic fun _ _ => ?_
    rw [bind_assoc, lift_bind_ne_panic]
    intro _ _
    rw [pure_bind, lift_bind_ne_panic]
    exact fun _ _ => nofun
  · obtain ⟨_, _, hok⟩ := bind_eq_ok.mp hok
    obtain ⟨_, hparse, hok⟩ := bind_eq_ok.mp hok
    obtain ⟨sfp, hsfp, hparse⟩ := bind_eq_ok.mp hparse
    obtain ⟨_, _, hparse⟩ := bind_eq_ok.mp hparse
    cases hparse
    obtain ⟨subFunction, hsub, _⟩ := bind_eq_ok.mp hok
    obtain ⟨hdata, heven⟩ := Pdu.subFunctionPayload_eq_ok.mp hsfp
    refine ⟨subFunction, sfp.payload, heven, ?_⟩
    rw [hdata, DiagnosticSubFunction.toU16_of_tryFrom (lift_eq_ok.mp hsub)]

/-- The response to a file read is accepted with records of any length. -/
lemma handleReadFileRecordResponse_eq_ok {counts : List Nat} {bytes : List UInt8}
    (hfc : response.functionCode = .readFileRecord) (hbytes : response.CountsBytes bytes)
    (hblocks : FileRecordBlocks counts bytes) (hle : counts.length ≤ maxSubRequestsPerPdu) :
    ∃ records, handleReadFileRecordResponse response = .ok (some (.readFileRecord records)) := by
  obtain ⟨records, hloop⟩ := hblocks.fileRecordLoop_of_le [] .empty (by
    rw [HVec.empty_toList, List.length_nil, Nat.zero_add]
    exact hle)
  refine ⟨records, ?_⟩
  rw [List.nil_append, List.length_nil] at hloop
  rw [handleReadFileRecordResponse, handleReadFileRecordRsp, checkFunctionCode_of_eq hfc, ok_bind,
    parseReadFileRecordResponse, checkFunctionCode_of_eq hfc, ok_bind, hbytes.byteCountPayload_eq,
    ok_bind, hloop]
  rfl

lemma handleReadFileRecordResponse_eq_err
    (h : ¬(response.functionCode = .readFileRecord ∧ ∃ counts bytes,
      counts.length ≤ maxSubRequestsPerPdu ∧ response.CountsBytes bytes ∧
        FileRecordBlocks counts bytes)) :
    ∃ e, handleReadFileRecordResponse response = .err e := by
  rw [handleReadFileRecordResponse, handleReadFileRecordRsp, bind_assoc]
  refine eq_err_of_layout (fun hfc => ?_) (fun hfc => checkFunctionCode_bind_err hfc _ _)
    (fun _ hok hfc => ?_) h
  · rw [checkFunctionCode_of_eq hfc, ok_bind, parseReadFileRecordResponse,
      checkFunctionCode_of_eq hfc, ok_bind, bind_assoc]
    refine bind_ne_panic Pdu.byteCountPayload_ne_panic fun _ _ => ?_
    exact bind_ne_panic (fileRecordLoop_ne_panic _ _ _) fun _ _ => (by rintro ⟨⟩)
  · obtain ⟨_, _, hok⟩ := bind_eq_ok.mp hok
    obtain ⟨records, hparse, _⟩ := bind_eq_ok.mp hok
    obtain ⟨_, _, hparse⟩ := bind_eq_ok.mp hparse
    obtain ⟨bcp, hbcp, hloop⟩ := bind_eq_ok.mp hparse
    obtain ⟨counts, hle, hblocks⟩ := FileRecordBlocks.of_fileRecordLoop [] .empty hloop
    rw [HVec.empty_toList, List.length_nil, Nat.zero_add] at hle
    exact ⟨counts, bcp.payload, hle, Pdu.countsBytes_of_byteCountPayload hbcp, hblocks⟩

end Handlers

/-! ### Every request -/

namespace ClientCall

variable [Features] {call : ClientCall} {request response : Pdu}

/-- The function code of the call's requests. -/
def functionCode : ClientCall → FunctionCode
  | .readMultipleCoils _ _ | .readSingleCoil _ => .readCoils
  | .writeSingleCoil _ _ => .writeSingleCoil
  | .writeMultipleCoils _ _ => .writeMultipleCoils
  | .readDiscreteInputs _ _ | .readSingleDiscreteInput _ => .readDiscreteInputs
  | .readHoldingRegisters _ _ | .readSingleHoldingRegister _ => .readHoldingRegisters
  | .readInputRegisters _ _ | .readSingleInputRegister _ => .readInputRegisters
  | .writeSingleRegister _ _ => .writeSingleRegister
  | .writeMultipleRegisters _ _ _ => .writeMultipleRegisters
  | .readWriteMultipleRegisters _ _ _ _ => .readWriteMultipleRegisters
  | .maskWriteRegister _ _ _ => .maskWriteRegister
  | .readFifoQueue _ => .readFifoQueue
  | .readFileRecord _ => .readFileRecord
  | .writeFileRecord _ => .writeFileRecord
  | .readDeviceIdentification _ _ | .encapsulatedInterfaceTransport _ _ =>
    .encapsulatedInterfaceTransport
  | .readExceptionStatus => .readExceptionStatus
  | .diagnostics _ _ => .diagnostics
  | .getCommEventCounter => .getCommEventCounter
  | .getCommEventLog => .getCommEventLog
  | .reportServerId => .reportServerId

omit [Features] in
lemma pdu_functionCode (h : call.pdu = .ok request) :
    request.functionCode = call.functionCode := by
  cases call with
  | readMultipleCoils | readSingleCoil | readDiscreteInputs | readSingleDiscreteInput
  | readHoldingRegisters | readSingleHoldingRegister | readInputRegisters
  | readSingleInputRegister =>
    obtain ⟨_, _, h⟩ := bind_eq_ok.mp h
    cases h
    rfl
  | writeSingleCoil | writeSingleRegister | maskWriteRegister | readFifoQueue
  | readExceptionStatus | getCommEventCounter | getCommEventLog | reportServerId =>
    cases h
    rfl
  | writeMultipleCoils =>
    obtain ⟨_, _, h⟩ := bind_eq_ok.mp h
    obtain ⟨_, _, h⟩ := bind_eq_ok.mp h
    obtain ⟨_, hnew, _⟩ := Pdu.buildWriteMultiple_eq_ok (lift_eq_ok.mp h)
    rw [hnew]
    rfl
  | writeMultipleRegisters =>
    obtain ⟨_, _, h⟩ := bind_eq_ok.mp h
    obtain ⟨_, _, h⟩ := bind_eq_ok.mp h
    obtain ⟨_, _, h⟩ := bind_eq_ok.mp h
    obtain ⟨_, hnew, _⟩ := Pdu.buildWriteMultiple_eq_ok (lift_eq_ok.mp h)
    rw [hnew]
    rfl
  | readWriteMultipleRegisters =>
    obtain ⟨_, _, h⟩ := bind_eq_ok.mp h
    obtain ⟨_, _, h⟩ := bind_eq_ok.mp h
    obtain ⟨_, _, h⟩ := bind_eq_ok.mp h
    obtain ⟨_, hnew, _⟩ := Pdu.buildReadWriteMultiple_eq_ok (lift_eq_ok.mp h)
    rw [hnew]
    rfl
  | readFileRecord | writeFileRecord =>
    obtain ⟨_, _, h⟩ := bind_eq_ok.mp h
    cases h
    rfl
  | readDeviceIdentification code objectId =>
    change ReqPduCompiler.readDeviceIdentificationRequest code objectId = _ at h
    exact Pdu.functionCode_of_buildMeiType (lift_eq_ok.mp h)
  | encapsulatedInterfaceTransport =>
    exact Pdu.functionCode_of_buildMeiType (lift_eq_ok.mp h)
  | diagnostics =>
    obtain ⟨_, _, h⟩ := bind_eq_ok.mp h
    exact Pdu.functionCode_of_buildSubFunction (lift_eq_ok.mp h)

/-- The handler refuses a response that answers neither the request nor another one. -/
lemma parse_eq_err (hsent : call.pdu = .ok request) (hmatch : ¬call.Matches request response)
    (hanother : ¬call.AnswersAnother request response) :
    ∃ e, call.handler.parse call.operationMeta response = .err e := by
  unfold Matches at hmatch
  rw [pdu_functionCode hsent] at hmatch
  cases call with
  | readMultipleCoils address quantity =>
    obtain ⟨e, he⟩ := handleReadCoilRsp_eq_err address hmatch
    refine ⟨e, ?_⟩
    change handleReadCoilsResponse (.multiple address quantity) response = _
    rw [handleReadCoilsResponse, OperationMeta.quantity, OperationMeta.address, he]
    rfl
  | readSingleCoil address =>
    obtain ⟨e, he⟩ : ∃ e, ServiceDecompiler.handleReadCoilRsp response 1 address = .err e :=
      handleReadCoilRsp_eq_err address hmatch
    refine ⟨e, ?_⟩
    change handleReadCoilsResponse (.single address 0) response = _
    rw [handleReadCoilsResponse, OperationMeta.quantity, OperationMeta.address, he]
    rfl
  | readDiscreteInputs address quantity =>
    obtain ⟨e, he⟩ := handleReadDiscreteInputsResponse_eq_err address hmatch
    refine ⟨e, ?_⟩
    change handleReadDiscreteInputs (.multiple address quantity) response = _
    rw [handleReadDiscreteInputs, OperationMeta.quantity, OperationMeta.address, he]
    rfl
  | readSingleDiscreteInput address =>
    obtain ⟨e, he⟩ :
        ∃ e, ServiceDecompiler.handleReadDiscreteInputsResponse response address 1 = .err e :=
      handleReadDiscreteInputsResponse_eq_err address hmatch
    refine ⟨e, ?_⟩
    change handleReadDiscreteInputs (.single address 0) response = _
    rw [handleReadDiscreteInputs, OperationMeta.quantity, OperationMeta.address, he]
    rfl
  | readHoldingRegisters address quantity =>
    obtain ⟨_, hquantity, _⟩ := bind_eq_ok.mp hsent
    obtain ⟨e, he⟩ : ∃ e, ServiceDecompiler.handleReadRegistersRsp response .readHoldingRegisters
        quantity address = .err e :=
      handleReadRegistersRsp_eq_err address (outside_eq_false.mp (guardErr_eq_ok.mp hquantity)).2
        hmatch
    refine ⟨e, ?_⟩
    change handleReadHoldingRegistersResponse (.multiple address quantity) response = _
    rw [handleReadHoldingRegistersResponse, ServiceDecompiler.handleReadHoldingRegisterRsp,
      OperationMeta.quantity, OperationMeta.address, he]
    rfl
  | readSingleHoldingRegister address =>
    obtain ⟨e, he⟩ : ∃ e, ServiceDecompiler.handleReadRegistersRsp response .readHoldingRegisters 1
        address = .err e :=
      handleReadRegistersRsp_eq_err address (by decide) hmatch
    refine ⟨e, ?_⟩
    change handleReadHoldingRegistersResponse (.single address 0) response = _
    rw [handleReadHoldingRegistersResponse, ServiceDecompiler.handleReadHoldingRegisterRsp,
      OperationMeta.quantity, OperationMeta.address, he]
    rfl
  | readInputRegisters address quantity =>
    obtain ⟨_, hquantity, _⟩ := bind_eq_ok.mp hsent
    obtain ⟨e, he⟩ : ∃ e, ServiceDecompiler.handleReadRegistersRsp response .readInputRegisters
        quantity address = .err e :=
      handleReadRegistersRsp_eq_err address (outside_eq_false.mp (guardErr_eq_ok.mp hquantity)).2
        hmatch
    refine ⟨e, ?_⟩
    change handleReadInputRegistersResponse (.multiple address quantity) response = _
    rw [handleReadInputRegistersResponse, ServiceDecompiler.handleReadInputRegisterRsp,
      OperationMeta.quantity, OperationMeta.address, he]
    rfl
  | readSingleInputRegister address =>
    obtain ⟨e, he⟩ : ∃ e, ServiceDecompiler.handleReadRegistersRsp response .readInputRegisters 1
        address = .err e :=
      handleReadRegistersRsp_eq_err address (by decide) hmatch
    refine ⟨e, ?_⟩
    change handleReadInputRegistersResponse (.single address 0) response = _
    rw [handleReadInputRegistersResponse, ServiceDecompiler.handleReadInputRegisterRsp,
      OperationMeta.quantity, OperationMeta.address, he]
    rfl
  | readWriteMultipleRegisters readAddress readQuantity _ _ =>
    obtain ⟨_, hquantity, _⟩ := bind_eq_ok.mp hsent
    obtain ⟨e, he⟩ : ∃ e, ServiceDecompiler.handleReadRegistersRsp response .readWriteMultipleRegisters
        readQuantity readAddress = .err e :=
      handleReadRegistersRsp_eq_err readAddress (outside_eq_false.mp (guardErr_eq_ok.mp hquantity)).2
        hmatch
    refine ⟨e, ?_⟩
    change handleReadWriteMultipleRegistersResponse (.multiple readAddress readQuantity)
      response = _
    rw [handleReadWriteMultipleRegistersResponse,
      ServiceDecompiler.handleReadWriteMultipleRegistersRsp, OperationMeta.quantity,
      OperationMeta.address, he]
    rfl
  | writeSingleCoil address value => exact handleWriteSingleCoilResponse_eq_err value hmatch
  | writeMultipleCoils address values => exact handleWriteMultipleCoilsResponse_eq_err hmatch
  | writeSingleRegister address value => exact handleWriteSingleRegisterResponse_eq_err hmatch
  | writeMultipleRegisters address quantity values =>
    exact handleWriteMultipleRegistersResponse_eq_err hmatch
  | maskWriteRegister address andMask orMask => exact handleMaskWriteRegisterResponse_eq_err hmatch
  | readFifoQueue address => exact handleReadFifoQueueResponse_eq_err hmatch
  | readFileRecord subRequest =>
    refine handleReadFileRecordResponse_eq_err ?_
    rintro ⟨hfc, counts, bytes, hle, hbytes, hblocks⟩
    refine hanother ⟨hfc, counts, bytes, fun hcounts => ?_, hle, hbytes, hblocks⟩
    exact hmatch ⟨hfc, bytes, hbytes, hcounts ▸ hblocks⟩
  | writeFileRecord subRequest =>
    refine handleWriteFileRecordResponse_eq_err ?_
    rintro ⟨hfc, bytes, hbytes, hecho⟩
    exact hanother ⟨hfc, bytes, fun hdata => hmatch ⟨hfc, hdata⟩, hbytes, hecho⟩
  | readDeviceIdentification code _ => exact handleReadDeviceIdentificationRsp_eq_err code _ hmatch
  | encapsulatedInterfaceTransport meiType _ =>
    exact handleEncapsulatedInterfaceTransportRsp_eq_err _ meiType hmatch
  | readExceptionStatus => exact handleReadExceptionStatusRsp_eq_err hmatch
  | diagnostics subFunction _ =>
    refine handleDiagnosticsRsp_eq_err ?_
    rintro ⟨hfc, other, payload, heven, hdata⟩
    refine hanother ⟨hfc, other, payload, fun hother => ?_, heven, hdata⟩
    exact hmatch ⟨hfc, payload, hother ▸ hdata⟩
  | getCommEventCounter => exact handleGetCommEventCounterRsp_eq_err hmatch
  | getCommEventLog => exact handleGetCommEventLogRsp_eq_err hmatch
  | reportServerId => exact handleReportServerIdRsp_eq_err hmatch

/-- A response that answers another request does not match, and is taken for a success. -/
lemma parse_eq_ok (hanother : call.AnswersAnother request response) :
    ¬call.Matches request response ∧
      ∃ callback, call.handler.parse call.operationMeta response = .ok (some callback) ∧
        ∀ e, callback ≠ .requestFailed e := by
  cases call with
  | diagnostics subFunction data =>
    obtain ⟨hfc, other, payload, hother, heven, hdata⟩ := hanother
    refine ⟨?_, _, handleDiagnosticsRsp_eq_ok hfc heven hdata, nofun⟩
    rintro ⟨_, payload', hsame⟩
    have hcode := toBeBytes_inj.mp (List.append_inj (hdata.symm.trans hsame) rfl).1
    have hsub := DiagnosticSubFunction.tryFrom_toU16 subFunction
    rw [← hcode, DiagnosticSubFunction.tryFrom_toU16] at hsub
    exact hother (Except.ok.inj hsub)
  | readFileRecord subRequest =>
    obtain ⟨hfc, counts, bytes, hcounts, hle, hbytes, hblocks⟩ := hanother
    obtain ⟨records, hrecords⟩ := handleReadFileRecordResponse_eq_ok hfc hbytes hblocks hle
    refine ⟨?_, _, hrecords, nofun⟩
    rintro ⟨_, bytes', hbytes', hblocks'⟩
    cases hbytes.unique hbytes'
    exact hcounts (hblocks'.unique hblocks)
  | writeFileRecord subRequest =>
    obtain ⟨hfc, bytes, hdata, hbytes, hecho⟩ := hanother
    exact ⟨fun h => hdata h.2, _, handleWriteFileRecordResponse_eq_ok hfc hbytes hecho, nofun⟩
  | _ => exact hanother.elim

/-- The success callback tells of a matching response, and any other response is reported as a
failure. -/
def ReportsMatch (call : ClientCall) (request : Pdu) (message : ModbusMessage) : Prop :=
  (∀ callback, call.dispatch message = .ok (some callback) →
    (∀ e, callback ≠ .requestFailed e) → call.Matches request message.pdu) ∧
  (¬call.Matches request message.pdu →
    ∃ e, call.dispatch message = .ok (some (.requestFailed e)))

/-- Success means a matching response, unless the response has the layout of an answer to another
request. -/
theorem reportsMatch_iff (call : ClientCall) (hsent : call.pdu = .ok request)
    (message : ModbusMessage) :
    call.ReportsMatch request message ↔
      (message.pdu.errorCode = none → ¬call.AnswersAnother request message.pdu) := by
  unfold ReportsMatch dispatch
  cases hcode : message.pdu.errorCode with
  | some exceptionCode =>
    refine iff_of_true ⟨?_, fun _ => ⟨_, rfl⟩⟩ nofun
    rintro _ ⟨⟩ hsuccess
    exact absurd rfl (hsuccess _)
  | none =>
    rw [forall_prop_of_true rfl]
    dsimp only
    rw [deliver, ResponseHandler.run]
    constructor
    · intro h hanother
      obtain ⟨hmatch, callback, hparse, hsuccess⟩ := parse_eq_ok hanother
      rw [hparse] at h
      exact hmatch (h.1 callback rfl hsuccess)
    · intro hanother
      have hfailed (hmatch : ¬call.Matches request message.pdu) :=
        parse_eq_err hsent hmatch hanother
      refine ⟨fun callback hdispatch hsuccess => ?_, fun hmatch => ?_⟩
      · by_contra hmatch
        obtain ⟨e, he⟩ := hfailed hmatch
        rw [he] at hdispatch
        cases hdispatch
        exact hsuccess e rfl
      · obtain ⟨e, he⟩ := hfailed hmatch
        rw [he]
        exact ⟨e, rfl⟩

omit [Features] in
/-- A loopback request and its echo. -/
theorem reportsMatch_loopback :
    letI : Features := Features.minimal
    ReportsMatch (.diagnostics .returnQueryData [0xA537])
      (.new .diagnostics ⟨[0, 0, 0xA5, 0x37], by decide⟩)
      ⟨.slaveAddress ⟨1⟩, .new .diagnostics ⟨[0, 0, 0xA5, 0x37], by decide⟩⟩ := by
  let _ := Features.minimal
  refine (reportsMatch_iff _ (by decide) _).mpr ?_
  rintro - ⟨-, other, payload, hother, -, hdata⟩
  exact hother (by cases other <;> first | rfl | cases hdata)

omit [Features] in
/-- The answer to another sub-function passes as the answer to a loopback request. -/
theorem reportsMatch_unchecked :
    ¬∀ [Features] (call : ClientCall) (request : Pdu) (message : ModbusMessage),
      call.pdu = .ok request → call.ReportsMatch request message := by
  intro h
  let _ := Features.minimal
  obtain ⟨_, payload, hdata⟩ := (h (.diagnostics .returnQueryData [0xA537])
    (.new .diagnostics ⟨[0, 0, 0xA5, 0x37], by decide⟩)
    ⟨.slaveAddress ⟨1⟩, .new .diagnostics ⟨[0, 2, 0, 0], by decide⟩⟩ (by decide)).1
    (.diagnostics .returnDiagnosticRegister [0]) (by decide) nofun
  cases hdata

end ClientCall

end ModbusRs
