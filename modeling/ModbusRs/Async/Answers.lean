import ModbusRs.Async.Callbacks
import ModbusRs.Core.Layouts

/-!
# Answers of the application

The async session encodes what `handle` returns and sends it. An answer that cannot be encoded ends
the session like a failure of the transport, without a reply. Which answers can be encoded depends
on their size, on the objects of a device identification and on the code of an exception.
-/

namespace ModbusRs

open Outcome

section Sizes

variable [Features] {tt : TransportType} {txnId : UInt16} {unit : UnitIdOrSlaveAddr}

/-- A frame of the transport holds a PDU of this size. -/
def FrameHolds (tt : TransportType) (size : Nat) : Prop :=
  match tt with
  | .stdSerial .ascii | .customSerial .ascii => 2 * size + 7 ≤ maxAduFrameLen
  | _ => True

lemma fitsFrame_iff (bytes : List UInt8) : FitsFrame tt bytes ↔ FrameHolds tt bytes.length := by
  cases tt with
  | stdTcp => rfl
  | customTcp => rfl
  | stdSerial mode => cases mode <;> rfl
  | customSerial mode => cases mode <;> rfl

/-- Every frame holds the small PDUs. -/
lemma frameHolds_of_le {size : Nat} (h : size ≤ 126) : FrameHolds tt size := by
  have hmax := le_maxAduFrameLen
  unfold FrameHolds
  split
  · omega
  · omega
  · trivial

variable (txnId unit)

lemma exists_compiled_iff (pdu : Pdu) :
    (∃ frame, (lift (compileAduFrame txnId unit.get pdu tt) : Fallible Adu) = .ok frame) ↔
      FrameHolds tt pdu.rawBytes.length := by
  constructor
  · rintro ⟨frame, h⟩
    exact (fitsFrame_iff _).mp (compileAduFrame_eq_ok (lift_eq_ok.mp h)).1
  · intro hholds
    obtain ⟨frame, hframe, -⟩ :=
      compileAduFrame_ok tt txnId unit.get pdu ((fitsFrame_iff _).mpr hholds)
    exact ⟨frame, lift_eq_ok.mpr hframe⟩

/-- A PDU is built and put into a frame. -/
lemma exists_built_iff (build : Except MbusError Pdu) :
    (∃ frame, (lift (build >>= fun pdu => compileAduFrame txnId unit.get pdu tt) : Fallible Adu) =
      .ok frame) ↔ ∃ pdu, build = .ok pdu ∧ FrameHolds tt pdu.rawBytes.length := by
  cases build with
  | error e => exact iff_of_false (fun ⟨_, h⟩ => nomatch h) fun ⟨_, h, _⟩ => nomatch h
  | ok pdu =>
    refine (exists_compiled_iff txnId unit pdu).trans ⟨fun h => ⟨pdu, rfl, h⟩, ?_⟩
    rintro ⟨_, hpdu, h⟩
    cases hpdu
    exact h

end Sizes

namespace Pdu

lemma exists_buildByteCountPayload_iff (fc : FunctionCode) (payload : List UInt8) (P : Nat → Prop) :
    (∃ p, buildByteCountPayload fc payload = .ok p ∧ P p.rawBytes.length) ↔
      payload.length ≤ 251 ∧ P (2 + payload.length) := by
  have hlen {p : Pdu} (h : buildByteCountPayload fc payload = .ok p) :
      p.rawBytes.length = 2 + payload.length := by
    rw [rawBytes, List.length_cons, (buildByteCountPayload_eq_ok h).2.2, List.length_cons]
    omega
  constructor
  · rintro ⟨p, hp, hP⟩
    have hle := rawBytes_length_le p
    rw [hlen hp] at hP hle
    exact ⟨by omega, hP⟩
  · rintro ⟨hle, hP⟩
    obtain ⟨p, hp⟩ := buildByteCountPayload_of_le fc hle
    exact ⟨p, hp, (hlen hp).symm ▸ hP⟩

lemma exists_buildFifoPayload_iff (payload : List UInt8) (P : Nat → Prop) :
    (∃ p, buildFifoPayload payload = .ok p ∧ P p.rawBytes.length) ↔
      payload.length ≤ 250 ∧ P (3 + payload.length) := by
  have hlen {p : Pdu} (h : buildFifoPayload payload = .ok p) :
      p.rawBytes.length = 3 + payload.length := by
    rw [rawBytes, List.length_cons, (buildFifoPayload_eq_ok h).2.2, List.length_append,
      toBeBytes_length]
    omega
  constructor
  · rintro ⟨p, hp, hP⟩
    have hle := rawBytes_length_le p
    rw [hlen hp] at hP hle
    exact ⟨by omega, hP⟩
  · rintro ⟨hle, hP⟩
    obtain ⟨p, hp⟩ := buildFifoPayload_of_le hle
    exact ⟨p, hp, (hlen hp).symm ▸ hP⟩

lemma exists_buildMeiType_iff (fc : FunctionCode) (meiType : UInt8) (payload : List UInt8)
    (P : Nat → Prop) : (∃ p, buildMeiType fc meiType payload = .ok p ∧ P p.rawBytes.length) ↔
      payload.length ≤ 251 ∧ P (2 + payload.length) := by
  constructor
  · rintro ⟨p, hp, hP⟩
    obtain ⟨_, _, hp⟩ := Except.bind_eq_ok_iff.mp hp
    obtain ⟨front, hfront, hp⟩ := Except.bind_eq_ok_iff.mp hp
    obtain ⟨data, hdata, hp⟩ := Except.bind_eq_ok_iff.mp hp
    cases hp
    have hle := rawBytes_length_le (new fc data)
    have hlist : (new fc data).rawBytes = fc.toByte :: meiType :: payload := by
      rw [HVec.pushOr_eq_ok] at hfront
      rw [HVec.extendOr_eq_ok, hfront] at hdata
      exact congrArg (List.cons fc.toByte) hdata
    rw [hlist, List.length_cons, List.length_cons] at hle hP
    refine ⟨by omega, ?_⟩
    rwa [Nat.add_comm 2]
  · rintro ⟨hle, hP⟩
    rw [buildMeiType, decide_eq_false (by
      change ¬_ > 252
      omega), Except.guardErr_false, Except.ok_bind, HVec.pushOr,
      HVec.extendOr_of_le _ (by simp [maxPduDataLen]), Except.ok_bind, HVec.extendOr_of_le _ (by
        simp only [HVec.empty_toList, List.nil_append, List.length_singleton]
        change _ ≤ 252
        omega)]
    refine ⟨_, rfl, ?_⟩
    rw [Nat.add_comm 2] at hP
    exact hP

end Pdu

/-! ### Encoding -/

namespace ModbusResponse

variable [Features] (tt : TransportType) (txnId : UInt16) (unit : UnitIdOrSlaveAddr)

/-- The response fits a PDU and a frame of the transport. -/
def Encodable : ModbusResponse → Prop
  | .byteCountPayload _ data => data.length ≤ 251 ∧ FrameHolds tt (2 + data.length)
  | .fifoData data => data.length ≤ 250 ∧ FrameHolds tt (3 + data.length)
  | .readDeviceId _ _ _ _ objects => (∃ count, countFc2bObjects objects.toList = .ok count) ∧
      objects.length ≤ 246 ∧ FrameHolds tt (7 + objects.length)
  | .fileRecordWriteEcho pduData => FrameHolds tt (1 + pduData.length)
  | .exception requestFc _ => requestFc.IsPlain
  | _ => True

lemma exists_encodeReadDeviceId_iff (readDeviceIdCode conformityLevel : UInt8)
    (moreFollows : Bool) (nextObjectId : UInt8) (objects : Adu) :
    (∃ frame, encodeReadDeviceId txnId unit tt readDeviceIdCode conformityLevel moreFollows
      nextObjectId objects.toList = .ok frame) ↔
      (∃ count, countFc2bObjects objects.toList = .ok count) ∧
        objects.length ≤ 246 ∧ FrameHolds tt (7 + objects.length) := by
  have hmax := le_maxAduFrameLen
  have hle : objects.toList.length ≤ maxAduFrameLen := objects.length_le
  rw [encodeReadDeviceId]
  cases hcount : countFc2bObjects objects.toList with
  | panic => exact iff_of_false (fun ⟨_, h⟩ => nomatch h) fun ⟨⟨_, h⟩, _⟩ => nomatch h
  | err e => exact iff_of_false (fun ⟨_, h⟩ => nomatch h) fun ⟨⟨_, h⟩, _⟩ => nomatch h
  | ok count =>
    rw [mapErr_ok, ok_bind, and_iff_right ⟨count, rfl⟩]
    dsimp only
    set header := [readDeviceIdCode, conformityLevel, if moreFollows then 0xFF else 0x00,
      nextObjectId, count] with hheader
    have hfive : header.length = 5 := rfl
    by_cases hroom : header.length + objects.toList.length > maxAduFrameLen - 1
    · rw [decide_eq_true hroom]
      refine iff_of_false (fun ⟨_, h⟩ => nomatch h) fun ⟨hobjects, _⟩ => ?_
      have hobjects : objects.toList.length ≤ 246 := hobjects
      omega
    · have hfit : (HVec.empty : Adu).toList.length + header.length ≤ maxAduFrameLen := by
        rw [HVec.empty_toList, List.length_nil]
        omega
      obtain ⟨front, hfront, -⟩ := HVec.exists_extendOr HVec.empty header MbusError.bufferTooSmall
        hfit
      have hlist : front.toList = header := HVec.extendOr_eq_ok.mp hfront
      obtain ⟨meiData, hmei, hlen⟩ := HVec.exists_extendOr front objects.toList
        MbusError.bufferTooSmall (by
          rw [hlist]
          omega)
      rw [hlist, hfive] at hlen
      rw [decide_eq_false hroom, guardErr_false, ok_bind, hfront, lift_ok, ok_bind, hmei, lift_ok,
        ok_bind]
      have hbuild := (exists_built_iff txnId unit (Pdu.buildMeiType .encapsulatedInterfaceTransport
        0x0E meiData.toList)).trans (Pdu.exists_buildMeiType_iff .encapsulatedInterfaceTransport
          0x0E meiData.toList (FrameHolds tt))
      have hlimit : 5 + objects.toList.length ≤ 251 ↔ objects.length ≤ 246 := by
        change _ ↔ objects.toList.length ≤ 246
        omega
      rwa [lift_bind, hlen, ← Nat.add_assoc, hlimit] at hbuild

lemma exists_encodeException_iff (requestFc : FunctionCode) (code : ExceptionCode) :
    (∃ frame, (lift (encodeException txnId unit tt requestFc code) : Fallible Adu) = .ok frame) ↔
      requestFc.IsPlain := by
  unfold encodeException FunctionCode.IsPlain
  cases hexc : requestFc.exceptionResponse with
  | none => exact iff_of_false (fun ⟨_, h⟩ => nomatch h) fun h => h rfl
  | some exc =>
    refine iff_of_true ?_ nofun
    exact (exists_compiled_iff txnId unit (.new exc ⟨[code.toByte], Nat.le_of_ble_eq_true rfl⟩)).mpr
      (frameHolds_of_le (Nat.le_of_ble_eq_true rfl))

lemma exists_encodeExceptionRaw (fcByte : UInt8) (code : ExceptionCode) :
    ∃ frame, (lift (encodeExceptionRaw txnId unit tt fcByte code) : Fallible Adu) = .ok frame := by
  have hmax := le_maxAduFrameLen
  set payload := [unit.get, fcByte ||| 0x80, code.toByte] with hpayload
  have hpush (v : Adu) (b : UInt8) (h : v.toList.length + 1 ≤ maxAduFrameLen) :
      ∃ w, v.pushOr b MbusError.unexpected = .ok w ∧ w.toList.length = v.toList.length + 1 :=
    HVec.exists_extendOr v [b] MbusError.unexpected h
  have hempty : (HVec.empty : Adu).toList.length = 0 := rfl
  have htcp : ∃ frame, encodeExceptionRaw txnId unit .stdTcp fcByte code = .ok frame := by
    obtain ⟨v₁, h₁, hl₁⟩ := HVec.exists_extendOr (HVec.empty : Adu) (toBeBytes txnId)
      MbusError.unexpected (by rw [hempty, toBeBytes_length]; omega)
    rw [hempty, toBeBytes_length] at hl₁
    obtain ⟨v₂, h₂, hl₂⟩ := HVec.exists_extendOr v₁ (toBeBytes 0) MbusError.unexpected
      (by rw [hl₁, toBeBytes_length]; omega)
    rw [hl₁, toBeBytes_length] at hl₂
    obtain ⟨v₃, h₃, hl₃⟩ := HVec.exists_extendOr v₂ (toBeBytes 3) MbusError.unexpected
      (by rw [hl₂, toBeBytes_length]; omega)
    rw [hl₂, toBeBytes_length] at hl₃
    obtain ⟨v₄, h₄, -⟩ := HVec.exists_foldlM hpush payload v₃ (by rw [hl₃, hpayload]; simp; omega)
    exact ⟨v₄, by rw [encodeExceptionRaw, h₁, Except.ok_bind, h₂, Except.ok_bind, h₃,
      Except.ok_bind, h₄]⟩
  have hrtu : ∃ frame, encodeExceptionRaw txnId unit (.stdSerial .rtu) fcByte code = .ok frame := by
    have hthree : payload.length = 3 := rfl
    obtain ⟨v₁, h₁, hl₁⟩ := HVec.exists_extendOr (HVec.empty : Adu) payload MbusError.unexpected
      (by rw [hempty, hthree]; omega)
    rw [hempty, hthree] at hl₁
    obtain ⟨v₂, h₂, -⟩ := HVec.exists_extendOr v₁ (toLeBytes (crc16 payload)) MbusError.unexpected
      (by rw [hl₁, toLeBytes_length]; omega)
    exact ⟨v₂, by rw [encodeExceptionRaw, h₁, Except.ok_bind, h₂]⟩
  have hascii : ∃ frame,
      encodeExceptionRaw txnId unit (.stdSerial .ascii) fcByte code = .ok frame := by
    have hfour : (payload ++ [lrc payload]).length = 4 := rfl
    have hpair (v : Adu) (b : UInt8) (h : v.toList.length + 2 ≤ maxAduFrameLen) :
        ∃ w, (do
          let v ← v.pushOr (rawNibbleToHex (b >>> 4)) MbusError.unexpected
          v.pushOr (rawNibbleToHex (b &&& 0x0F)) MbusError.unexpected) = .ok w ∧
            w.toList.length = v.toList.length + 2 := by
      obtain ⟨w, hw, hlen⟩ := hpush v (rawNibbleToHex (b >>> 4)) (by omega)
      obtain ⟨w', hw', hlen'⟩ := hpush w (rawNibbleToHex (b &&& 0x0F)) (by omega)
      exact ⟨w', by rw [hw, Except.ok_bind, hw'], by omega⟩
    obtain ⟨v₁, h₁, hl₁⟩ := hpush HVec.empty 0x3A (by omega)
    obtain ⟨v₂, h₂, hl₂⟩ := HVec.exists_foldlM hpair (payload ++ [lrc payload]) v₁ (by omega)
    obtain ⟨v₃, h₃, hl₃⟩ := hpush v₂ 0x0D (by omega)
    obtain ⟨v₄, h₄, -⟩ := hpush v₃ 0x0A (by omega)
    exact ⟨v₄, by rw [encodeExceptionRaw, h₁, Except.ok_bind, h₂, Except.ok_bind, h₃,
      Except.ok_bind, h₄]⟩
  refine (?_ : ∃ frame, encodeExceptionRaw txnId unit tt fcByte code = .ok frame).imp
    fun _ => lift_eq_ok.mpr
  cases tt with
  | stdTcp => exact htcp
  | customTcp => exact htcp
  | stdSerial mode =>
    cases mode with
    | rtu => exact hrtu
    | ascii => exact hascii
  | customSerial mode =>
    cases mode with
    | rtu => exact hrtu
    | ascii => exact hascii

/-- Which responses can be encoded. -/
theorem exists_encode_iff {response : ModbusResponse} (h : response ≠ .noResponse) :
    (∃ frame, response.encode txnId unit tt = .ok frame) ↔ response.Encodable tt := by
  have hsmall (pdu : Pdu) (hle : pdu.rawBytes.length ≤ 126) :
      (∃ frame, (lift (compileAduFrame txnId unit.get pdu tt) : Fallible Adu) = .ok frame) ↔
        True := iff_true_intro ((exists_compiled_iff txnId unit pdu).mpr (frameHolds_of_le hle))
  cases response with
  | byteCountPayload fc data =>
    exact (exists_built_iff txnId unit _).trans (Pdu.exists_buildByteCountPayload_iff fc _ _)
  | fifoData data =>
    exact (exists_built_iff txnId unit _).trans (Pdu.exists_buildFifoPayload_iff _ _)
  | readDeviceId readDeviceIdCode conformityLevel moreFollows nextObjectId objects =>
    exact exists_encodeReadDeviceId_iff tt txnId unit _ _ _ _ objects
  | fileRecordWriteEcho pduData =>
    have hlen : (Pdu.new .writeFileRecord pduData).rawBytes.length = 1 + pduData.length :=
      Nat.add_comm _ 1
    rw [Encodable, ← hlen]
    exact exists_compiled_iff txnId unit (.new .writeFileRecord pduData)
  | exception requestFc code => exact exists_encodeException_iff tt txnId unit requestFc code
  | exceptionRaw fcByte code =>
    exact iff_of_true (exists_encodeExceptionRaw tt txnId unit fcByte code) trivial
  | noResponse => exact absurd rfl h
  | echoCoil address rawValue => exact hsmall _ (Nat.le_of_ble_eq_true rfl)
  | echoRegister address value => exact hsmall _ (Nat.le_of_ble_eq_true rfl)
  | echoMaskWrite address andMask orMask => exact hsmall _ (Nat.le_of_ble_eq_true rfl)
  | echoMultiWrite fc address count => exact hsmall _ (Nat.le_of_ble_eq_true rfl)
  | singleByte fc value => exact hsmall _ (Nat.le_of_ble_eq_true rfl)
  | diagnosticsEcho subFunction result => exact hsmall _ (Nat.le_of_ble_eq_true rfl)
  | twoU16 fc first second => exact hsmall _ (Nat.le_of_ble_eq_true rfl)

end ModbusResponse

/-! ### Sending -/

namespace SessionM

open AsyncServerSession

variable [Features] {σ τ : Type} (setup : AsyncServerSetup σ τ) (request : ModbusRequest)
  (response : ModbusResponse) (s : AsyncServerSession σ τ)

/-- The request goes to `handle`, whose answer is sent. -/
def awaitsAnswer : Bool :=
  requestReachesHandle setup request s &&
    !(request.unit.isBroadcast && setup.transport.transportType.isSerialType)

/-- The frame is the response, or an exception. -/
def IsAnswer (frame : Adu) : Prop :=
  response.encode request.txnId request.unit setup.transport.transportType = .ok frame ∨
    ∃ fc code, (ModbusResponse.exception fc code).encode request.txnId request.unit
      setup.transport.transportType = .ok frame

/-- The session sends one frame in answer, or none if it shall not respond, and goes on unless the
transport fails. -/
def Served : Prop :=
  match response with
  | .noResponse =>
    ((processRequest setup request).run s).2.link.sent = s.link.sent ∧
      ((processRequest setup request).run s).1 = .ok ()
  | _ => ∃ frame, IsAnswer setup request response frame ∧
    ((processRequest setup request).run s).2.link.sent = s.link.sent ++ [frame.toList] ∧
      ((processRequest setup request).run s).1 =
        match (setup.transport.send frame.toList s.link.state).1 with
        | .ok _ => .ok ()
        | .error e => .err (.ofMbusError e)

variable {setup request response s}

lemma run_processRequest_of_awaits (h : awaitsAnswer setup request s = true) :
    (processRequest setup request).run s = (dispatchAndSend setup request).run s := by
  rw [awaitsAnswer, Bool.and_eq_true, Bool.not_eq_true'] at h
  obtain ⟨hreach, hunicast⟩ := h
  rw [requestReachesHandle, hunicast, if_neg Bool.false_ne_true, Bool.and_eq_true, Bool.and_eq_true,
    Bool.not_eq_true', Bool.not_eq_true', Bool.not_eq_true'] at hreach
  obtain ⟨hdiscards, hanswers, hunknown⟩ := hreach
  have hlisten := answersIf_shouldDiscard request.body s
  have hauto : AnswersIf (sessionAnswers request.body) (tryDispatchFc08Auto setup request) s :=
    answersIf_tryDispatchFc08Auto request s
  have hreply := answersIf_tryReplyUnknownFc setup request s
  rw [AnswersIf, hdiscards, if_neg Bool.false_ne_true] at hlisten
  rw [AnswersIf, hanswers, if_neg Bool.false_ne_true] at hauto
  rw [AnswersIf, hunknown, if_neg Bool.false_ne_true] at hreply
  rw [processRequest, EffM.run_bind, hlisten]
  dsimp only
  rw [if_neg Bool.false_ne_true, EffM.run_bind, hauto]
  dsimp only
  rw [if_neg Bool.false_ne_true, hunicast, if_neg Bool.false_ne_true, EffM.run_bind, hreply]
  rfl

/-- What the application has answered is sent, over the transport as it was. -/
lemma run_dispatchAndSend (h : (setup.app.handle request s.app.state).1 = some response) :
    ∃ s' : AsyncServerSession σ τ, s'.link = s.link ∧ (dispatchAndSend setup request).run s =
      (respond setup request.txnId request.unit response).run s' := by
  have hcount : s.incrementServerMessageCount.app = s.app ∧
      s.incrementServerMessageCount.link = s.link := by
    unfold incrementServerMessageCount count
    split <;> exact ⟨rfl, rfl⟩
  have hhandle : (appHandle setup request).run s.incrementServerMessageCount =
      (.ok response, ((appHandle setup request).run s.incrementServerMessageCount).2) := by
    refine Prod.ext ?_ rfl
    simp only [appHandle, EffM.run, hcount.1, h]
  refine ⟨noteResponse setup request.txnId request.unit response
    ((appHandle setup request).run s.incrementServerMessageCount).2, ?_, ?_⟩
  · have hnote (s : AsyncServerSession σ τ) :
        (noteResponse setup request.txnId request.unit response s).link = s.link := by
      have hcount (step : AsyncServerStatistics → AsyncServerStatistics) :
          (s.count step).link = s.link := by
        unfold count
        split <;> rfl
      unfold noteResponse
      split
      · exact hcount _
      · exact hcount _
      · rfl
    rw [hnote]
    exact hcount.2
  · rw [dispatchAndSend, EffM.run_modify_bind, EffM.run_bind, hhandle]
    rfl

lemma run_respond (hne : response ≠ .noResponse) (s : AsyncServerSession σ τ) :
    (respond setup request.txnId request.unit response).run s =
      match response.encode request.txnId request.unit setup.transport.transportType with
      | .ok frame => (send setup frame).run s
      | .err e => (.err (.transport e), s)
      | .panic => (.panic, s) := by
  have hrespond : (respond setup request.txnId request.unit response : SessionM σ τ Unit) =
      (EffM.lift ((response.encode request.txnId request.unit setup.transport.transportType).mapErr
        AsyncServerError.transport) >>= fun frame => send setup frame) := by
    cases response with
    | noResponse => exact absurd rfl hne
    | _ => rfl
  rw [hrespond, EffM.run_lift_bind]
  cases response.encode request.txnId request.unit setup.transport.transportType <;> rfl

lemma served_iff_exists (hawaits : awaitsAnswer setup request s = true)
    (h : (setup.app.handle request s.app.state).1 = some response) (hne : response ≠ .noResponse) :
    Served setup request response s ↔ ∃ frame,
      response.encode request.txnId request.unit setup.transport.transportType = .ok frame := by
  obtain ⟨s', hlink, hrun⟩ := run_dispatchAndSend h
  have hserved : Served setup request response s ↔ ∃ frame,
      IsAnswer setup request response frame ∧
        ((processRequest setup request).run s).2.link.sent = s.link.sent ++ [frame.toList] ∧
        ((processRequest setup request).run s).1 =
          match (setup.transport.send frame.toList s.link.state).1 with
          | .ok _ => .ok ()
          | .error e => .err (.ofMbusError e) := by
    cases response with
    | noResponse => exact absurd rfl hne
    | _ => rfl
  rw [hserved, run_processRequest_of_awaits hawaits, hrun, run_respond hne]
  constructor
  · rintro ⟨frame, -, hsent, -⟩
    cases hencode : response.encode request.txnId request.unit setup.transport.transportType with
    | ok frame => exact ⟨frame, rfl⟩
    | err e =>
      rw [hencode, hlink] at hsent
      exact absurd (List.append_right_eq_self.mp hsent.symm) (List.cons_ne_nil _ _)
    | panic =>
      rw [hencode, hlink] at hsent
      exact absurd (List.append_right_eq_self.mp hsent.symm) (List.cons_ne_nil _ _)
  · rintro ⟨frame, hencode⟩
    refine ⟨frame, .inl hencode, ?_⟩
    rw [hencode, ← hlink]
    exact ⟨rfl, rfl⟩

/-- **Answers of the application.** The answer is sent, and the session goes on, exactly when the
answer can be encoded. -/
theorem served_iff_encodable (setup : AsyncServerSetup σ τ) (request : ModbusRequest)
    (response : ModbusResponse) (s : AsyncServerSession σ τ)
    (hawaits : awaitsAnswer setup request s = true)
    (h : (setup.app.handle request s.app.state).1 = some response) :
    Served setup request response s ↔ response.Encodable setup.transport.transportType := by
  by_cases hne : response = .noResponse
  · cases hne
    obtain ⟨s', hlink, hrun⟩ := run_dispatchAndSend h
    refine iff_of_true ?_ trivial
    rw [Served, run_processRequest_of_awaits hawaits, hrun]
    exact ⟨congrArg Link.sent hlink, rfl⟩
  · rw [served_iff_exists hawaits h hne, ModbusResponse.exists_encode_iff _ _ _ hne]

/-- An application that always answers in the same way. -/
def answeringApp (response : ModbusResponse) : AsyncAppHandler Unit where
  handle _ s := (some response, s)
  onException _ _ _ _ s := s

/-- A read of 126 registers, one more than the protocol allows. -/
def readTooMany : ModbusRequest :=
  ⟨1, ⟨1, UnitIdOrSlaveAddr.valid_one⟩, .readHoldingRegisters 0 126⟩

/-- Its registers. -/
def tooManyRegisters : ModbusResponse :=
  .byteCountPayload .readHoldingRegisters (.ofSlice (List.replicate 252 0))

omit [Features] in
/-- The registers do not fit a PDU, and nothing is sent. -/
theorem served_tooManyRegisters_not :
    ¬∀ [Features] (setup : AsyncServerSetup Unit Unit) (request : ModbusRequest)
      (response : ModbusResponse) (s : AsyncServerSession Unit Unit),
      awaitsAnswer setup request s = true →
      (setup.app.handle request s.app.state).1 = some response →
      Served setup request response s := by
  intro h
  let _ := Features.minimal
  let setup : AsyncServerSetup Unit Unit :=
    ⟨answeringApp tooManyRegisters, .silent .stdTcp, ⟨1, by decide⟩⟩
  have hne : tooManyRegisters ≠ .noResponse := by
    unfold tooManyRegisters
    exact nofun
  have hserved := h setup readTooMany tooManyRegisters (.new () ()) rfl rfl
  have hencodable := (ModbusResponse.exists_encode_iff _ _ _ hne).mp
    ((served_iff_exists rfl rfl hne).mp hserved)
  exact absurd hencodable.1 (by decide +kernel)

omit [Features] in
theorem served_readRegister :
    letI := Features.minimal
    Served ⟨answeringApp (.registers .readHoldingRegisters [7]), .silent .stdTcp, ⟨1, by decide⟩⟩
      ⟨1, ⟨1, by decide⟩, .readHoldingRegisters 0 1⟩ (.registers .readHoldingRegisters [7])
      (.new () () : AsyncServerSession Unit Unit) :=
  let _ := Features.minimal
  (served_iff_encodable
    ⟨answeringApp (.registers .readHoldingRegisters [7]), .silent .stdTcp, ⟨1, by decide⟩⟩
    ⟨1, ⟨1, by decide⟩, .readHoldingRegisters 0 1⟩ (.registers .readHoldingRegisters [7])
    (.new () ()) rfl rfl).mpr ⟨by decide, trivial⟩

end SessionM

end ModbusRs
