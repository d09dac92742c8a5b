import ModbusRs.Async.Callbacks

/-!
# Broadcasts to the async server

A serial request to unit 0 is for everybody, and nobody answers it. The session tests for
broadcasts after it has answered diagnostics itself: those it answers are answered on broadcasts
as well, and nothing else is.
-/

namespace ModbusRs

open Outcome

namespace SessionM

open AsyncServerSession

variable [Features] {σ τ : Type} {setup : AsyncServerSetup σ τ}

/-- The FC08 sub-functions to which the session itself sends a response. -/
def sessionEchoes (subFunction : UInt16) : Bool :=
  subFunction = 0x0000 || subFunction = 0x0001 ||
    (Features.diagnosticsStats && statsHandles subFunction)

/-- The frame is an FC08 request that the session answers itself. -/
def SessionAnswers (tt : TransportType) (adu : List UInt8) : Prop :=
  ∃ message subFunction data, decompileAduFrame adu tt = .ok message ∧
    message.functionCode = .diagnostics ∧
    message.pdu.diagnosticsFields = .ok (subFunction, data) ∧ sessionEchoes subFunction = true

/-- No frame was sent between the two states. -/
def SameSent (s s' : AsyncServerSession σ τ) : Prop := s'.link.sent = s.link.sent

/-- Some frame was sent between the two states. -/
def Sends (s s' : AsyncServerSession σ τ) : Prop := ∃ adu, s'.link.sent = s.link.sent ++ [adu]

lemma Sends.not_sameSent {s s' : AsyncServerSession σ τ} (h : Sends s s') : ¬SameSent s s' := by
  obtain ⟨adu, hadu⟩ := h
  intro hsame
  exact absurd (List.self_eq_append_right.mp (hsame.symm.trans hadu)) (List.cons_ne_nil _ _)

lemma sameSent_count (step : AsyncServerStatistics → AsyncServerStatistics)
    (s : AsyncServerSession σ τ) : SameSent s (s.count step) := by
  unfold count
  split <;> rfl

lemma Sends.of_sameSent {s s' t : AsyncServerSession σ τ} (h : SameSent s s') (h' : Sends s' t) :
    Sends s t := by
  obtain ⟨adu, hadu⟩ := h'
  exact ⟨adu, hadu.trans (by rw [h])⟩

/-! ### Echoes -/

/-- An echo fits every frame. -/
lemma encode_diagnosticsEcho (txnId : UInt16) (unit : UnitIdOrSlaveAddr) (tt : TransportType)
    (subFunction result : UInt16) :
    ∃ adu, (ModbusResponse.diagnosticsEcho subFunction result).encode txnId unit tt = .ok adu := by
  have hdata : (toBeBytes subFunction ++ toBeBytes result).length ≤ maxPduDataLen := by
    rw [List.length_append, toBeBytes_length, toBeBytes_length]
    decide
  have hbuild : Pdu.buildDiagnostics subFunction result =
      .ok (Pdu.new .diagnostics ⟨toBeBytes subFunction ++ toBeBytes result, hdata⟩) := rfl
  have hfits : FitsFrame tt
      (Pdu.new .diagnostics ⟨toBeBytes subFunction ++ toBeBytes result, hdata⟩).rawBytes := by
    have hmax := le_maxAduFrameLen
    unfold FitsFrame
    split
    · simp only [Pdu.rawBytes, Pdu.new, List.length_cons, List.length_append, toBeBytes_length]
      omega
    · simp only [Pdu.rawBytes, Pdu.new, List.length_cons, List.length_append, toBeBytes_length]
      omega
    · trivial
  obtain ⟨adu, hadu, _⟩ := compileAduFrame_ok tt txnId unit.get _ hfits
  refine ⟨adu, ?_⟩
  rw [ModbusResponse.encode, hbuild, Except.ok_bind, hadu, lift_ok]

variable (setup) in
lemma sends_respond (txnId : UInt16) (unit : UnitIdOrSlaveAddr) (subFunction result : UInt16)
    (s : AsyncServerSession σ τ) :
    Sends s ((respond setup txnId unit (.diagnosticsEcho subFunction result)).run s).2 := by
  obtain ⟨adu, hadu⟩ := encode_diagnosticsEcho txnId unit setup.transport.transportType subFunction
    result
  rw [respond, hadu, mapErr, EffM.run_lift_bind]
  · exact ⟨adu.toList, rfl⟩
  · exact nofun

/-- Either the routine leaves the transport alone, or it sends a frame and does not say no. -/
def SendsIf (echoes : Bool) (m : SessionM σ τ Bool) (s : AsyncServerSession σ τ) : Prop :=
  if echoes then Sends s (m.run s).2 ∧ (m.run s).1 ≠ .ok false else SameSent s (m.run s).2

variable (setup) in
lemma sendsIf_respond (txnId : UInt16) (unit : UnitIdOrSlaveAddr) (subFunction result : UInt16)
    (s : AsyncServerSession σ τ) :
    SendsIf true (do
      respond setup txnId unit (.diagnosticsEcho subFunction result)
      pure true) s := by
  refine ⟨?_, (answersIf_respond setup txnId unit _ s).2⟩
  rw [EffM.run_bind_pure_snd]
  exact sends_respond setup txnId unit subFunction result s

lemma sendsIf_echo (txnId : UInt16) (unit : UnitIdOrSlaveAddr) (subFunction result : UInt16)
    {s s' : AsyncServerSession σ τ} (h : SameSent s s') :
    Sends s ((echoIgnoringErrors setup txnId unit subFunction result).run s').2 ∧
      ((echoIgnoringErrors setup txnId unit subFunction result).run s').1 ≠ .ok false := by
  refine ⟨Sends.of_sameSent h ?_, echoIgnoringErrors_ne_false txnId unit subFunction result s'⟩
  have hsends := sends_respond setup txnId unit subFunction result s'
  rw [echoIgnoringErrors, EffM.run_handle]
  rcases hr : (respond setup txnId unit (.diagnosticsEcho subFunction result)).run s' with ⟨o, t⟩
  rw [hr] at hsends
  cases o <;> exact hsends

variable (setup) in
lemma sendsIf_counter (txnId : UInt16) (unit : UnitIdOrSlaveAddr) (subFunction : UInt16)
    (s : AsyncServerSession σ τ) :
    SendsIf (resolveStatsCounter .new subFunction).isSome (do
      let stats ← EffM.gets stats
      match resolveStatsCounter stats subFunction with
      | some counter => echoIgnoringErrors setup txnId unit subFunction counter
      | none => pure false) s := by
  rw [SendsIf, EffM.run_gets_bind, resolveStatsCounter_isSome .new s.stats]
  cases resolveStatsCounter s.stats subFunction with
  | none => rfl
  | some counter => exact sendsIf_echo txnId unit subFunction counter rfl

lemma sendsIf_handleStatsSubFn (txnId : UInt16) (unit : UnitIdOrSlaveAddr) (subFunction : UInt16)
    (s : AsyncServerSession σ τ) :
    SendsIf (statsHandles subFunction) (handleStatsSubFn setup txnId unit subFunction) s := by
  unfold handleStatsSubFn statsHandles
  have hcounter := sendsIf_counter setup txnId unit subFunction s
  cases DiagnosticSubFunction.tryFrom subFunction with
  | error e => exact hcounter
  | ok named =>
    cases named with
    | clearCountersAndDiagnosticRegister => exact sendsIf_echo txnId unit subFunction 0 rfl
    | clearOverrunCounterAndFlag => exact sendsIf_echo txnId unit subFunction 0 rfl
    | _ => exact hcounter

lemma sendsIf_handleFc08Auto (txnId : UInt16) (unit : UnitIdOrSlaveAddr)
    (subFunction data : UInt16) (s : AsyncServerSession σ τ) :
    SendsIf (sessionEchoes subFunction) (handleFc08Auto setup txnId unit subFunction data) s := by
  unfold sessionEchoes handleFc08Auto
  by_cases h0 : subFunction = 0x0000
  · simp only [h0, if_true, decide_true, Bool.true_or]
    exact sendsIf_respond setup txnId unit 0x0000 data s
  · by_cases h1 : subFunction = 0x0001
    · simp only [h1, if_true, decide_true, Bool.true_or, Bool.or_true]
      exact sendsIf_respond setup txnId unit 0x0001 data { s with listenOnlyMode := false }
    · by_cases h4 : subFunction = 0x0004
      · have hstats : statsHandles 0x0004 = false := by decide
        simp only [h4, hstats, Bool.and_false, Bool.or_false]
        exact sameSent_count _ _
      · simp only [h0, h1, h4, if_false, decide_false, Bool.false_or]
        cases hstats : (Features.diagnosticsStats : Bool) with
        | true => exact sendsIf_handleStatsSubFn txnId unit subFunction s
        | false => rfl

/-! ### Broadcast requests -/

/-- The request is one that the session answers. -/
def bodyEchoes : RequestBody → Bool
  | .diagnostics subFunction _ => sessionEchoes subFunction
  | _ => false

variable (setup) in
lemma sendsIf_tryDispatchFc08Auto (request : ModbusRequest) (s : AsyncServerSession σ τ) :
    SendsIf (bodyEchoes request.body) (tryDispatchFc08Auto setup request) s := by
  obtain ⟨txnId, unit, body⟩ := request
  cases body with
  | diagnostics subFunction data => exact sendsIf_handleFc08Auto txnId unit subFunction data s
  | _ => rfl

variable (setup) in
lemma sameSent_handleSerialBroadcast (request : ModbusRequest) (s : AsyncServerSession σ τ) :
    SameSent s ((handleSerialBroadcast setup request).run s).2 := by
  rw [handleSerialBroadcast, EffM.run_gets_bind]
  cases s.enableBroadcastWrites && request.body.isBroadcastWriteFc with
  | false => exact sameSent_count _ s
  | true =>
    rw [if_pos rfl, EffM.run_modify_bind, EffM.run_bind]
    have hcount : SameSent s s.incrementServerMessageCount := sameSent_count _ s
    have hcall : SameSent s.incrementServerMessageCount
        ((appHandle setup request).run s.incrementServerMessageCount).2 := rfl
    have hsame := Eq.trans hcall hcount
    rcases hr : (appHandle setup request).run s.incrementServerMessageCount with ⟨o, s'⟩
    rw [hr] at hsame
    cases o with
    | ok response => exact Eq.trans (sameSent_count _ s') hsame
    | err e => exact hsame
    | panic => exact hsame

lemma sameSent_shouldDiscard (body : RequestBody) (s : AsyncServerSession σ τ) :
    SameSent s ((shouldDiscardInListenOnlyMode body).run s).2 := by
  rw [shouldDiscardInListenOnlyMode, EffM.run_gets_bind]
  cases s.listenOnlyMode with
  | false => rfl
  | true =>
    cases body with
    | diagnostics subFunction data => rfl
    | _ => exact sameSent_count _ s

/-- A step that may answer is followed by one that sends nothing. -/
lemma sameSent_ite_iff {echoes : Bool} {m : SessionM σ τ Bool} {next : SessionM σ τ Unit}
    {s : AsyncServerSession σ τ} (hm : SendsIf echoes m s)
    (hnext : ∀ s', SameSent s' (next.run s').2) :
    SameSent s ((do if ← m then pure () else next : SessionM σ τ Unit).run s).2 ↔
      echoes = false := by
  rw [EffM.run_bind]
  cases echoes with
  | true =>
    obtain ⟨hsends, hne⟩ : Sends s (m.run s).2 ∧ (m.run s).1 ≠ .ok false := hm
    refine iff_of_false ?_ nofun
    rcases hr : m.run s with ⟨o, s'⟩
    rw [hr] at hsends hne
    cases o with
    | err e => exact hsends.not_sameSent
    | panic => exact hsends.not_sameSent
    | ok b =>
      cases b with
      | true => exact hsends.not_sameSent
      | false => exact absurd rfl hne
  | false =>
    have hsame : SameSent s (m.run s).2 := hm
    refine iff_of_true ?_ rfl
    rcases hr : m.run s with ⟨o, s'⟩
    rw [hr] at hsame
    cases o with
    | err e => exact hsame
    | panic => exact hsame
    | ok b =>
      cases b with
      | true => exact hsame
      | false => exact Eq.trans (hnext s') hsame

variable (setup) in
lemma sameSent_processRequest_iff (hserial : setup.transport.transportType.isSerialType = true)
    (request : ModbusRequest) (hunit : request.unit.isBroadcast = true)
    (s : AsyncServerSession σ τ) :
    SameSent s ((processRequest setup request).run s).2 ↔ bodyEchoes request.body = false := by
  have hauto := sameSent_ite_iff (sendsIf_tryDispatchFc08Auto setup request s)
    (sameSent_handleSerialBroadcast setup request)
  have hdiscard := answersIf_shouldDiscard request.body s
  rw [processRequest, EffM.run_bind]
  simp only [hunit, hserial, Bool.and_self, if_true]
  cases hdiscards : discards s.listenOnlyMode request.body with
  | false =>
    rw [hdiscards] at hdiscard
    have hrun : (shouldDiscardInListenOnlyMode request.body).run s = (.ok false, s) := hdiscard
    rw [hrun]
    exact hauto
  | true =>
    rw [hdiscards] at hdiscard
    obtain ⟨_, hne⟩ := hdiscard
    have hsame := sameSent_shouldDiscard request.body s
    have hechoes : bodyEchoes request.body = false := by
      cases hbody : request.body with
      | diagnostics subFunction data =>
        rw [hbody] at hdiscards
        cases hdiscards
      | _ => rfl
    refine iff_of_true ?_ hechoes
    rcases hr : (shouldDiscardInListenOnlyMode request.body).run s with ⟨o, s'⟩
    rw [hr] at hsame hne
    cases o with
    | err e => exact hsame
    | panic => exact hsame
    | ok b =>
      cases b with
      | true => exact hsame
      | false => exact absurd rfl hne

/-! ### Broadcast frames -/

omit [Features] in
lemma isBroadcast_of_unitByte {message : ModbusMessage} (h : message.unitByte = 0) :
    message.unitIdOrSlaveAddr.isBroadcast = true := by
  unfold ModbusMessage.unitByte at h
  unfold ModbusMessage.unitIdOrSlaveAddr
  cases haddress : message.additionalAddress with
  | mbapHeader header =>
    rw [haddress] at h
    exact congrArg UnitIdOrSlaveAddr.isBroadcast (if_pos h)
  | slaveAddress address =>
    rw [haddress] at h
    exact congrArg UnitIdOrSlaveAddr.isBroadcast (if_pos h)

/-- Only diagnostics parse as diagnostics. -/
lemma parseBody_eq_diagnostics {fc : FunctionCode} {pdu : Pdu} {subFunction data : UInt16} :
    parseBody fc pdu = .ok (.diagnostics subFunction data) ↔
      fc = .diagnostics ∧ pdu.diagnosticsFields = .ok (subFunction, data) := by
  cases fc <;> simp [parseBody, bind_eq_ok]

lemma parseAdu_eq_some_iff {adu : List UInt8} {request : ModbusRequest} :
    parseAdu setup adu = .ok (some request) ↔ ∃ message,
      decompileAduFrame adu setup.transport.transportType = .ok message ∧
      isAddressedToUs setup message.unitIdOrSlaveAddr = true ∧
      parseBody message.functionCode message.pdu = .ok request.body ∧
      request.txnId = message.transactionId ∧ request.unit = message.unitIdOrSlaveAddr := by
  unfold parseAdu
  cases hmessage : decompileAduFrame adu setup.transport.transportType with
  | err e => simp [mapErr]
  | panic => simp [mapErr]
  | ok message =>
    rw [mapErr, ok_bind]
    cases haddressed : isAddressedToUs setup message.unitIdOrSlaveAddr with
    | false => simp [haddressed]
    | true =>
      rw [if_pos rfl]
      cases hbody : parseBody message.functionCode message.pdu with
      | err e => simp [mapErr, hbody]
      | panic => simp [mapErr, hbody]
      | ok body =>
        obtain ⟨txnId, unit, body'⟩ := request
        simp [mapErr, hbody, haddressed]
        tauto

/-- A broadcast request that the session answers. -/
lemma sessionAnswers_iff {adu : List UInt8}
    (hunit : wireUnit setup.transport.transportType adu = 0) :
    SessionAnswers setup.transport.transportType adu ↔
      ∃ request, parseAdu setup adu = .ok (some request) ∧ bodyEchoes request.body = true := by
  constructor
  · rintro ⟨message, subFunction, data, hmessage, hfc, hfields, hechoes⟩
    obtain ⟨_, hbyte, _⟩ := decompileAduFrame_eq_ok hmessage
    have hbroadcast := isBroadcast_of_unitByte (hbyte.trans hunit)
    refine ⟨⟨message.transactionId, message.unitIdOrSlaveAddr, .diagnostics subFunction data⟩,
      parseAdu_eq_some_iff.mpr ⟨message, hmessage, ?_, ?_, rfl, rfl⟩, hechoes⟩
    · rw [isAddressedToUs, hbroadcast, Bool.or_true]
    · exact parseBody_eq_diagnostics.mpr ⟨hfc, hfields⟩
  · rintro ⟨⟨txnId, unit, body⟩, hparse, hechoes⟩
    obtain ⟨message, hmessage, _, hbody, _⟩ := parseAdu_eq_some_iff.mp hparse
    cases body with
    | diagnostics subFunction data =>
      obtain ⟨hfc, hfields⟩ := parseBody_eq_diagnostics.mp hbody
      exact ⟨message, subFunction, data, hmessage, hfc, hfields, hechoes⟩
    | _ => cases hechoes

variable (setup) in
/-- A serial broadcast is answered if and only if it is a diagnostic request that the session
answers itself. -/
theorem broadcast_unanswered_iff (hserial : setup.transport.transportType.isSerialType = true)
    {adu : List UInt8} (hunit : wireUnit setup.transport.transportType adu = 0)
    (s : AsyncServerSession σ τ) :
    ((processAdu setup adu).run s).2.link.sent = s.link.sent ↔
      ¬SessionAnswers setup.transport.transportType adu := by
  have hcount : SameSent s s.incrementMessageCount := sameSent_count _ s
  rw [sessionAnswers_iff hunit, processAdu, EffM.run_bind, acceptAdu, EffM.run_modify_bind,
    EffM.run_handle, EffM.run_lift]
  cases hparse : parseAdu setup adu with
  | panic => exact iff_of_true hcount (by rintro ⟨_, ⟨⟩, _⟩)
  | err e =>
    refine iff_of_true ?_ (by rintro ⟨_, ⟨⟩, _⟩)
    cases e with
    | framingError error => exact Eq.trans (sameSent_count _ _) hcount
    | _ => exact hcount
  | ok found =>
    cases found with
    | none => exact iff_of_true hcount (by rintro ⟨_, ⟨⟩, _⟩)
    | some request =>
      obtain ⟨message, hmessage, _, _, _, hrequest⟩ := parseAdu_eq_some_iff.mp hparse
      obtain ⟨_, hbyte, _⟩ := decompileAduFrame_eq_ok hmessage
      have hbroadcast : request.unit.isBroadcast = true :=
        hrequest ▸ isBroadcast_of_unitByte (hbyte.trans hunit)
      have hiff := sameSent_processRequest_iff setup hserial request hbroadcast
        s.incrementMessageCount
      unfold SameSent at hiff hcount
      rw [hcount] at hiff
      refine hiff.trans ⟨?_, fun h => ?_⟩
      · rintro hfalse ⟨request', heq, htrue⟩
        cases heq
        rw [hfalse] at htrue
        cases htrue
      · exact Bool.eq_false_iff.mpr fun htrue => h ⟨request, rfl, htrue⟩

end SessionM

/-- An async session of unit 17 on RTU. -/
def asyncRtuSetup [Features] : AsyncServerSetup Unit Unit :=
  ⟨acceptingAsyncApp, .silent (.stdSerial .rtu), ⟨17, by decide⟩⟩

open SessionM in
/-- Write Single Register for unit 0. -/
theorem broadcast_unanswered_write :
    letI : Features := Features.minimal
    let adu : List UInt8 := [0x00, 0x06, 0x00, 0x01, 0x00, 0x03, 0x99, 0xDA]
    let s : AsyncServerSession Unit Unit := .new () ()
    ((processAdu asyncRtuSetup adu).run s).2.link.sent = s.link.sent ↔
      ¬SessionAnswers (.stdSerial .rtu) adu := by
  let _ := Features.minimal
  exact broadcast_unanswered_iff asyncRtuSetup (by decide) (by decide) (.new () ())

open SessionM in
/-- Return Query Data for unit 0 is echoed. -/
theorem broadcast_echo_answered :
    ¬∀ [Features] (setup : AsyncServerSetup Unit Unit) (adu : List UInt8)
      (s : AsyncServerSession Unit Unit), setup.transport.transportType.isSerialType = true →
      wireUnit setup.transport.transportType adu = 0 →
      ((processAdu setup adu).run s).2.link.sent = s.link.sent := by
  intro h
  let _ := Features.minimal
  let echo : List UInt8 := [0x00, 0x08, 0x00, 0x00, 0xA5, 0x37, 0xDB, 0x5C]
  have hsent : ((processAdu asyncRtuSetup echo).run (.new () ())).2.link.sent = [echo] := by
    decide
  have hnone := h asyncRtuSetup echo (.new () ()) (by decide) (by decide)
  rw [hsent] at hnone
  cases hnone

end ModbusRs
