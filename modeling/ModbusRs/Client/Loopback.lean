import ModbusRs.Async.Broadcasts
import ModbusRs.Client.Matching

/-!
# Return Query Data

The client builds a request with any number of data words and accepts any number of them in the
response. Both servers read one word of the request and return that one.
-/

namespace ModbusRs

open Outcome FunctionCode ReqPduCompiler

section Frames

variable [Features] {tt : TransportType} {txnId : UInt16} {unitId : UInt8} {p q : Pdu}

/-- The bytes of the PDU can be read off the frame. -/
lemma rawBytes_of_compileAduFrame {adu : Adu} (hp : compileAduFrame txnId unitId p tt = .ok adu)
    (hq : compileAduFrame txnId unitId q tt = .ok adu) : p.rawBytes = q.rawBytes := by
  rw [← wirePdu_frameBytes tt txnId unitId (rawBytes_length_le p), ← (compileAduFrame_eq_ok hp).2,
    (compileAduFrame_eq_ok hq).2, wirePdu_frameBytes tt txnId unitId (rawBytes_length_le q)]

lemma compileAduFrame_congr {adu : Adu} (heq : p.rawBytes = q.rawBytes)
    (hp : compileAduFrame txnId unitId p tt = .ok adu) :
    compileAduFrame txnId unitId q tt = .ok adu := by
  obtain ⟨hfits, hlist⟩ := compileAduFrame_eq_ok hp
  rw [heq] at hfits hlist
  obtain ⟨adu', hadu', hlist'⟩ := compileAduFrame_ok tt txnId unitId q hfits
  rw [hadu', HVec.ext (hlist'.trans hlist.symm)]

end Frames

/-! ### The request -/

section Request

variable {words : List UInt16} {request : Pdu}

lemma diagnosticsRequest_eq_ok {subFunction : DiagnosticSubFunction}
    (h : diagnosticsRequest subFunction words = .ok request) :
    request.functionCode = .diagnostics ∧
      request.data.toList = toBeBytes subFunction.toU16 ++ words.flatMap toBeBytes := by
  obtain ⟨_, _, h⟩ := bind_eq_ok.mp h
  obtain ⟨_, _, h⟩ := Except.bind_eq_ok_iff.mp (lift_eq_ok.mp h)
  obtain ⟨front, hfront, h⟩ := Except.bind_eq_ok_iff.mp h
  obtain ⟨data, hdata, h⟩ := Except.bind_eq_ok_iff.mp h
  cases h
  refine ⟨rfl, ?_⟩
  change data.toList = _
  rw [HVec.foldlM_extendOr_eq_ok.mp hdata, HVec.extendOr_eq_ok.mp hfront]
  rfl

lemma rawBytes_length_diagnosticsRequest {subFunction : DiagnosticSubFunction}
    (h : diagnosticsRequest subFunction words = .ok request) :
    request.rawBytes.length = 3 + 2 * words.length := by
  rw [Pdu.rawBytes, List.length_cons, (diagnosticsRequest_eq_ok h).2, List.length_append,
    toBeBytes_length, flatMap_toBeBytes_length]
  omega

/-- Of the words, the servers read the first. -/
lemma diagnosticsFields_diagnosticsRequest {subFunction : DiagnosticSubFunction} {word : UInt16}
    (h : diagnosticsRequest subFunction (word :: words) = .ok request) :
    request.diagnosticsFields = .ok (subFunction.toU16, word) := by
  have hdata := (diagnosticsRequest_eq_ok h).2
  have hlen : request.dataLen = 4 + 2 * words.length := by
    rw [Pdu.dataLen, hdata, List.length_append, toBeBytes_length, flatMap_toBeBytes_length,
      List.length_cons]
    omega
  have hfirst := u16At_append [] (word :: words |>.flatMap toBeBytes) subFunction.toU16
  have hsecond := u16At_append (toBeBytes subFunction.toU16) (words.flatMap toBeBytes) word
  rw [toBeBytes_length] at hsecond
  rw [Pdu.diagnosticsFields, hlen, decide_eq_false (by omega), guardErr_false, ok_bind, hdata]
  rw [List.nil_append, List.length_nil] at hfirst
  rw [hfirst, ok_bind, List.flatMap_cons, hsecond]
  rfl

lemma diagnosticsFields_diagnosticsRequest_nil {subFunction : DiagnosticSubFunction}
    (h : diagnosticsRequest subFunction [] = .ok request) :
    request.diagnosticsFields = .err .invalidPduLength := by
  have hlen : request.dataLen = 2 := by
    rw [Pdu.dataLen, (diagnosticsRequest_eq_ok h).2]
    rfl
  rw [Pdu.diagnosticsFields, hlen]
  rfl

end Request

/-- What the servers send back for a word. -/
lemma compileAduFrame_diagnosticsEcho [Features] (tt : TransportType) (txnId : UInt16)
    (unitId : UInt8) (subFunction word : UInt16) :
    ∃ pdu adu, Pdu.buildDiagnostics subFunction word = .ok pdu ∧
      compileAduFrame txnId unitId pdu tt = .ok adu ∧
      pdu.functionCode = .diagnostics ∧
      pdu.data.toList = toBeBytes subFunction ++ toBeBytes word := by
  have hdata : (toBeBytes subFunction ++ toBeBytes word).length ≤ maxPduDataLen := by
    rw [List.length_append, toBeBytes_length, toBeBytes_length]
    decide
  have hfits : FitsFrame tt
      (Pdu.new .diagnostics ⟨toBeBytes subFunction ++ toBeBytes word, hdata⟩).rawBytes := by
    have hmax := le_maxAduFrameLen
    unfold FitsFrame
    split
    · simp only [Pdu.rawBytes, Pdu.new, List.length_cons, List.length_append, toBeBytes_length]
      omega
    · simp only [Pdu.rawBytes, Pdu.new, List.length_cons, List.length_append, toBeBytes_length]
      omega
    · trivial
  obtain ⟨adu, hadu, _⟩ := compileAduFrame_ok tt txnId unitId _ hfits
  exact ⟨_, adu, rfl, hadu, rfl, rfl⟩

/-! ### The servers -/

section SyncServer

open ServerServices ServerM

variable [Features] {depth : Nat} {σ τ : Type} (setup : ServerSetup σ τ) (txnId : UInt16)
  (unit : UnitIdOrSlaveAddr) (request reply : Pdu) (s : ServerServices depth σ τ)

/-- The sync server answers the request with the PDU. -/
def ServerM.AnswersWith : Prop :=
  ∃ frame, compileAduFrame txnId unit.get reply setup.transport.transportType = .ok frame ∧
    ((handleDiagnosticsRequest setup txnId unit request).run s).2.handed =
      s.handed ++ [⟨frame, txnId, unit⟩]

variable {setup txnId unit request reply s}

lemma ServerM.AnswersWith.rawBytes {reply' : Pdu} (h : AnswersWith setup txnId unit request reply s)
    (h' : AnswersWith setup txnId unit request reply' s) : reply.rawBytes = reply'.rawBytes := by
  obtain ⟨frame, hframe, hhanded⟩ := h
  obtain ⟨frame', hframe', hhanded'⟩ := h'
  rw [hhanded, List.append_cancel_left_eq, List.cons.injEq, Handed.mk.injEq] at hhanded'
  obtain ⟨⟨rfl, -, -⟩, -⟩ := hhanded'
  exact rawBytes_of_compileAduFrame hframe hframe'

lemma ServerM.AnswersWith.congr {reply' : Pdu} (h : AnswersWith setup txnId unit request reply s)
    (heq : reply.rawBytes = reply'.rawBytes) : AnswersWith setup txnId unit request reply' s := by
  obtain ⟨frame, hframe, hhanded⟩ := h
  exact ⟨frame, compileAduFrame_congr heq hframe, hhanded⟩

variable (s) in
/-- The sync server answers with the first word, or with an exception. -/
lemma ServerM.answersWith_diagnosticsRequest (hserial : setup.transport.transportType.isSerialType)
    {words : List UInt16} (h : diagnosticsRequest .returnQueryData words = .ok request) :
    ∃ reply, AnswersWith setup txnId unit request reply s ∧
      match words with
      | [] => reply.rawBytes.length = 2
      | word :: _ => reply.rawBytes = 0x08 :: (toBeBytes 0 ++ toBeBytes word) := by
  cases words with
  | nil =>
    have hcheck : checkDiagnostics setup.transport.transportType request =
        .err .invalidPduLength := by
      rw [checkDiagnostics, hserial, Bool.not_true, guardErr_false, ok_bind,
        diagnosticsFields_diagnosticsRequest_nil h]
      rfl
    obtain ⟨pdu, adu, hbuild, hadu, hlist⟩ := compileAduFrame_exception
      setup.transport.transportType txnId unit.get
      (rfl : FunctionCode.diagnostics.exceptionResponse = some _)
      (FunctionCode.diagnostics.exceptionCodeForError .invalidPduLength).toByte
    have hexception : buildExceptionAdu setup.transport.transportType txnId unit .diagnostics
        (FunctionCode.diagnostics.exceptionCodeForError .invalidPduLength) = .ok adu := by
      simp only [buildExceptionAdu, FunctionCode.exceptionResponse, hbuild, Except.ok_bind]
      exact hadu
    refine ⟨pdu, ⟨adu, hadu, ?_⟩, ?_⟩
    · rw [handleDiagnosticsRequest, EffM.run_handle, EffM.run_lift, hcheck]
      change (s.sendExceptionResponse setup txnId unit .diagnostics .invalidPduLength).handed = _
      simp only [sendExceptionResponse, hexception, trySendOrQueue_handed,
        incrementExceptionErrorCount_handed]
      rfl
    · cases hbuild
      rfl
  | cons word words =>
    obtain ⟨pdu, adu, hbuild, hadu, hfc, hdata⟩ := compileAduFrame_diagnosticsEcho
      setup.transport.transportType txnId unit.get 0 word
    have hcheck : checkDiagnostics setup.transport.transportType request =
        .ok (.returnQueryData, 0, word) := by
      rw [checkDiagnostics, hserial, Bool.not_true, guardErr_false, ok_bind,
        diagnosticsFields_diagnosticsRequest h]
      rfl
    have hresponse : buildDiagnosticsResponse setup.transport.transportType txnId unit 0 word =
        .ok adu := by
      rw [buildDiagnosticsResponse, hbuild, Except.ok_bind, hadu]
    refine ⟨pdu, ⟨adu, hadu, ?_⟩, ?_⟩
    · rw [handleDiagnosticsRequest, EffM.run_handle, EffM.run_lift, hcheck]
      change (s.finishRequest setup txnId unit .diagnostics
        (buildDiagnosticsResponse setup.transport.transportType txnId unit 0 word)).handed = _
      rw [hresponse]
      exact s.trySendOrQueue_handed setup adu txnId unit
    · rw [Pdu.rawBytes, hfc, hdata]
      rfl

end SyncServer

section AsyncSession

open AsyncServerSession SessionM

variable [Features] {σ τ : Type} (setup : AsyncServerSetup σ τ) (txnId : UInt16)
  (unit : UnitIdOrSlaveAddr) (request reply : Pdu) (s : AsyncServerSession σ τ)

/-- The async session answers the request with the PDU. -/
def SessionM.AnswersWith : Prop :=
  ∃ body frame, parseBody request.functionCode request = .ok body ∧
    compileAduFrame txnId unit.get reply setup.transport.transportType = .ok frame ∧
    ((processRequest setup ⟨txnId, unit, body⟩).run s).2.link.sent =
      s.link.sent ++ [frame.toList]

variable {setup txnId unit request reply s}

lemma SessionM.AnswersWith.rawBytes {reply' : Pdu}
    (h : AnswersWith setup txnId unit request reply s)
    (h' : AnswersWith setup txnId unit request reply' s) : reply.rawBytes = reply'.rawBytes := by
  obtain ⟨body, frame, hbody, hframe, hsent⟩ := h
  obtain ⟨body', frame', hbody', hframe', hsent'⟩ := h'
  cases hbody.symm.trans hbody'
  rw [hsent, List.append_cancel_left_eq, List.cons.injEq] at hsent'
  cases HVec.ext hsent'.1
  exact rawBytes_of_compileAduFrame hframe hframe'

lemma SessionM.AnswersWith.congr {reply' : Pdu} (h : AnswersWith setup txnId unit request reply s)
    (heq : reply.rawBytes = reply'.rawBytes) : AnswersWith setup txnId unit request reply' s := by
  obtain ⟨body, frame, hbody, hframe, hsent⟩ := h
  exact ⟨body, frame, hbody, compileAduFrame_congr heq hframe, hsent⟩

/-- The session does not parse a request without words. -/
lemma SessionM.not_answersWith_nil
    (h : diagnosticsRequest .returnQueryData [] = .ok request) :
    ¬AnswersWith setup txnId unit request reply s := by
  rintro ⟨body, frame, hbody, -⟩
  rw [(diagnosticsRequest_eq_ok h).1, parseBody, diagnosticsFields_diagnosticsRequest_nil h] at hbody
  cases hbody

variable (s) in
/-- The session answers with the first word. -/
lemma SessionM.answersWith_diagnosticsRequest {word : UInt16} {words : List UInt16}
    (h : diagnosticsRequest .returnQueryData (word :: words) = .ok request) :
    ∃ reply, AnswersWith setup txnId unit request reply s ∧
      reply.rawBytes = 0x08 :: (toBeBytes 0 ++ toBeBytes word) := by
  obtain ⟨pdu, adu, hbuild, hadu, hfc, hdata⟩ := compileAduFrame_diagnosticsEcho
    setup.transport.transportType txnId unit.get 0 word
  have hencode : (ModbusResponse.diagnosticsEcho 0 word).encode txnId unit
      setup.transport.transportType = .ok adu := by
    rw [ModbusResponse.encode, hbuild, Except.ok_bind, hadu, lift_ok]
  have hdiscard : (shouldDiscardInListenOnlyMode (.diagnostics 0 word)).run s = (.ok false, s) := by
    rw [shouldDiscardInListenOnlyMode, EffM.run_gets_bind]
    cases s.listenOnlyMode <;> rfl
  refine ⟨pdu, ⟨.diagnostics 0 word, adu, ?_, hadu, ?_⟩, ?_⟩
  · rw [(diagnosticsRequest_eq_ok h).1, parseBody, diagnosticsFields_diagnosticsRequest h]
    rfl
  · have hauto : (tryDispatchFc08Auto setup ⟨txnId, unit, .diagnostics 0 word⟩).run s =
        ((send setup adu >>= fun _ => pure true : SessionM σ τ Bool)).run s := by
      change ((respond setup txnId unit (.diagnosticsEcho 0 word) >>= fun _ => pure true :
        SessionM σ τ Bool)).run s = _
      rw [respond, hencode]
      · rfl
      · rintro ⟨⟩
    have hrun : ((processRequest setup ⟨txnId, unit, .diagnostics 0 word⟩).run s).2 =
        ((send setup adu).run s).2 := by
      rw [processRequest, EffM.run_bind, hdiscard]
      dsimp only
      rw [if_neg Bool.false_ne_true, EffM.run_bind, hauto, EffM.run_bind]
      rcases (send setup adu).run s with ⟨o, s'⟩
      cases o <;> rfl
    rw [hrun]
    rfl
  · rw [Pdu.rawBytes, hfc, hdata]
    rfl

end AsyncSession

/-! ### The loop -/

variable [Features]

/-- Both clients accept the response as the answer with these words. -/
def AcceptsWords (words : List UInt16) (reply : Pdu) : Prop :=
  (ClientCall.diagnostics .returnQueryData words).handler.run
      (ClientCall.diagnostics .returnQueryData words).operationMeta reply =
        .ok (some (.diagnostics .returnQueryData words)) ∧
    ∃ data, decodeDiagnostics reply = .ok (.diagnosticsData .returnQueryData data) ∧
      data.toList = words

lemma acceptsWords_request {words : List UInt16} {request : Pdu}
    (h : diagnosticsRequest .returnQueryData words = .ok request) :
    AcceptsWords words request := by
  obtain ⟨hfc, hdata⟩ := diagnosticsRequest_eq_ok h
  have heven : (words.flatMap toBeBytes).length % 2 = 0 := by
    rw [flatMap_toBeBytes_length, Nat.mul_mod_right]
  have hfields : request.subFunctionPayload =
      .ok ⟨DiagnosticSubFunction.returnQueryData.toU16, words.flatMap toBeBytes⟩ :=
    Pdu.subFunctionPayload_eq_ok.mpr ⟨hdata, heven⟩
  have hle : words.length ≤ 252 := by
    have hlen : request.data.toList.length ≤ 252 := request.data.length_le
    rw [hdata, List.length_append, flatMap_toBeBytes_length] at hlen
    omega
  refine ⟨?_, ⟨words, hle⟩, ?_, rfl⟩
  · have hparse : (ClientCall.diagnostics .returnQueryData words).handler.parse
        (ClientCall.diagnostics .returnQueryData words).operationMeta request =
        handleDiagnosticsRsp request := rfl
    rw [ResponseHandler.run, hparse, handleDiagnosticsRsp_eq_ok hfc heven hdata,
      beWords_flatMap_toBeBytes]
  · rw [decodeDiagnostics, hfields, ok_bind, beWords_flatMap_toBeBytes,
      HVec.extendOr_of_le _ (by
        rw [HVec.empty_toList, List.length_nil, Nat.zero_add]
        exact hle), DiagnosticSubFunction.tryFrom_toU16, lift_ok, ok_bind, lift_ok, ok_bind]
    rfl

variable {depth : Nat} {σ τ σ' τ' : Type}

/-- The request comes back unchanged from either server, and the clients accept it. -/
def LoopsBack (setup : ServerSetup σ τ) (asyncSetup : AsyncServerSetup σ' τ') (txnId : UInt16)
    (unit : UnitIdOrSlaveAddr) (words : List UInt16) (request : Pdu)
    (s : ServerServices depth σ τ) (session : AsyncServerSession σ' τ') : Prop :=
  ServerM.AnswersWith setup txnId unit request request s ∧
    SessionM.AnswersWith asyncSetup txnId unit request request session ∧
    AcceptsWords words request

omit [Features] in
lemma rawBytes_one_word {word : UInt16} {request : Pdu}
    (h : diagnosticsRequest .returnQueryData [word] = .ok request) :
    request.rawBytes = 0x08 :: (toBeBytes 0 ++ toBeBytes word) := by
  obtain ⟨hfc, hdata⟩ := diagnosticsRequest_eq_ok h
  rw [Pdu.rawBytes, hfc, hdata]
  rfl

section Words

variable {txnId : UInt16} {unit : UnitIdOrSlaveAddr} {words : List UInt16} {request : Pdu}

lemma ServerM.answersWith_self_iff {setup : ServerSetup σ τ} (s : ServerServices depth σ τ)
    (hserial : setup.transport.transportType.isSerialType)
    (h : diagnosticsRequest .returnQueryData words = .ok request) :
    AnswersWith setup txnId unit request request s ↔ words.length = 1 := by
  have hlen := rawBytes_length_diagnosticsRequest h
  obtain ⟨reply, hreply, hbytes⟩ :=
    (answersWith_diagnosticsRequest s hserial h : ∃ reply, AnswersWith setup txnId unit _ reply s ∧ _)
  match words with
  | [] =>
    refine iff_of_false (fun hself => ?_) nofun
    rw [hself.rawBytes hreply] at hlen
    exact absurd (hlen.symm.trans hbytes) (by decide)
  | [word] => exact iff_of_true (hreply.congr (hbytes.trans (rawBytes_one_word h).symm)) rfl
  | word :: second :: words =>
    refine iff_of_false (fun hself => ?_) nofun
    have hfive : reply.rawBytes.length = 5 := congrArg List.length hbytes
    rw [hself.rawBytes hreply, hfive, List.length_cons, List.length_cons] at hlen
    omega

lemma SessionM.answersWith_self_iff {setup : AsyncServerSetup σ τ} (s : AsyncServerSession σ τ)
    (h : diagnosticsRequest .returnQueryData words = .ok request) :
    AnswersWith setup txnId unit request request s ↔ words.length = 1 := by
  have hlen := rawBytes_length_diagnosticsRequest h
  match words with
  | [] => exact iff_of_false (not_answersWith_nil h) nofun
  | [word] =>
    obtain ⟨reply, hreply, hbytes⟩ := answersWith_diagnosticsRequest s h
    exact iff_of_true (hreply.congr (hbytes.trans (rawBytes_one_word h).symm)) rfl
  | word :: second :: words =>
    refine iff_of_false (fun hself => ?_) nofun
    obtain ⟨reply, hreply, hbytes⟩ := answersWith_diagnosticsRequest s h
    have hfive : reply.rawBytes.length = 5 := congrArg List.length hbytes
    rw [hself.rawBytes hreply, hfive, List.length_cons, List.length_cons] at hlen
    omega

end Words

/-- **Loopback.** A Return Query Data request comes back unchanged, and is accepted with its words,
exactly when it carries one word. -/
theorem returnQueryData_loopsBack_iff (setup : ServerSetup σ τ)
    (asyncSetup : AsyncServerSetup σ' τ') (txnId : UInt16) (unit : UnitIdOrSlaveAddr)
    (words : List UInt16) (request : Pdu) (s : ServerServices depth σ τ)
    (session : AsyncServerSession σ' τ') (hserial : setup.transport.transportType.isSerialType)
    (h : diagnosticsRequest .returnQueryData words = .ok request) :
    LoopsBack setup asyncSetup txnId unit words request s session ↔ words.length = 1 := by
  rw [LoopsBack, ServerM.answersWith_self_iff s hserial h, SessionM.answersWith_self_iff session h,
    and_iff_left (acceptsWords_request h), and_self]

/-- A request with two words. -/
def twoWordsRequest : Pdu := .new .diagnostics ⟨[0, 0, 0x12, 0x34, 0x56, 0x78], by decide⟩

omit [Features] in
theorem returnQueryData_loopsBack_not :
    ¬∀ [Features] (setup : ServerSetup Unit Unit) (asyncSetup : AsyncServerSetup Unit Unit)
      (txnId : UInt16) (unit : UnitIdOrSlaveAddr) (words : List UInt16) (request : Pdu)
      (s : ServerServices 8 Unit Unit) (session : AsyncServerSession Unit Unit),
      setup.transport.transportType.isSerialType →
      diagnosticsRequest .returnQueryData words = .ok request →
      LoopsBack setup asyncSetup txnId unit words request s session := by
  intro h
  let _ := Features.minimal
  have hbuild : diagnosticsRequest .returnQueryData [0x1234, 0x5678] = .ok twoWordsRequest := by
    decide
  obtain ⟨hsync, -⟩ := h (ServerSetup.plain refusingApp (.stdSerial .rtu) ⟨1, by decide⟩)
    asyncTcpSetup 0 ⟨1, by decide⟩ [0x1234, 0x5678] twoWordsRequest (.withQueueDepth 8 () ())
    (.new () ()) rfl hbuild
  exact nomatch (ServerM.answersWith_self_iff _ rfl hbuild).mp hsync

omit [Features] in
theorem returnQueryData_loopsBack_word :
    letI := Features.minimal
    LoopsBack (ServerSetup.plain refusingApp (.stdSerial .rtu) ⟨1, by decide⟩) asyncTcpSetup 0
      ⟨1, by decide⟩ [0xA537] (.new .diagnostics ⟨[0, 0, 0xA5, 0x37], by decide⟩)
      (.withQueueDepth 8 () () : ServerServices 8 Unit Unit) (.new () ()) :=
  let _ := Features.minimal
  (returnQueryData_loopsBack_iff (ServerSetup.plain refusingApp (.stdSerial .rtu) ⟨1, by decide⟩)
    asyncTcpSetup 0 ⟨1, by decide⟩ [0xA537] (.new .diagnostics ⟨[0, 0, 0xA5, 0x37], by decide⟩)
    (.withQueueDepth 8 () ()) (.new () ()) rfl (by decide)).mpr rfl

end ModbusRs
