import ModbusRs.Async.Session
import ModbusRs.Server.Addressing

/-!
# When a frame reaches the application, in both servers

The async session parses a received frame and hands the request to `handle` unless it is
discarded in listen-only mode, answered by the session itself, a broadcast it does not take or
of an unknown function code. As in the sync server nothing on the way looks at the exception
bit of the received function code.
-/

namespace ModbusRs

open Outcome

namespace SessionM

open AsyncServerSession

variable [Features] {σ τ : Type} {setup : AsyncServerSetup σ τ}

/-- No call was made between the two states. -/
def SameCalls (s s' : AsyncServerSession σ τ) : Prop := s'.app.calls = s.app.calls

lemma SameCalls.refl (s : AsyncServerSession σ τ) : SameCalls s s := rfl

lemma SameCalls.trans (a b c : AsyncServerSession σ τ) (hab : SameCalls a b)
    (hbc : SameCalls b c) : SameCalls a c := Eq.trans hbc hab

lemma sameCalls_count (step : AsyncServerStatistics → AsyncServerStatistics)
    (s : AsyncServerSession σ τ) : SameCalls s (s.count step) := by
  unfold count
  split <;> rfl

variable (setup) in
lemma within_respond (txnId : UInt16) (unit : UnitIdOrSlaveAddr) (response : ModbusResponse) :
    (respond setup txnId unit response : SessionM σ τ Unit).Within SameCalls := by
  have hsend : ∀ frame, (send setup frame : SessionM σ τ Unit).Within SameCalls :=
    fun _ s => SameCalls.refl s
  unfold respond
  split
  · exact EffM.within_pure SameCalls.refl ()
  · exact EffM.Within.bind SameCalls.trans (EffM.within_lift SameCalls.refl _) hsend

lemma within_echoIgnoringErrors (txnId : UInt16) (unit : UnitIdOrSlaveAddr)
    (subFunction result : UInt16) :
    (echoIgnoringErrors setup txnId unit subFunction result :
      SessionM σ τ Bool).Within SameCalls :=
  EffM.Within.handle SameCalls.trans (within_respond setup txnId unit _)
    (fun _ => EffM.within_pure SameCalls.refl true)
    (fun _ => EffM.within_pure SameCalls.refl true)

lemma echoIgnoringErrors_ne_false (txnId : UInt16) (unit : UnitIdOrSlaveAddr)
    (subFunction result : UInt16) (s : AsyncServerSession σ τ) :
    ((echoIgnoringErrors setup txnId unit subFunction result).run s).1 ≠ .ok false := by
  rw [echoIgnoringErrors, EffM.run_handle]
  rcases (respond setup txnId unit _).run s with ⟨o, s'⟩
  cases o <;> simp

/-! ### FC08 -/

omit [Features] in
lemma resolveStatsCounter_isSome (stats stats' : AsyncServerStatistics) (subFunction : UInt16) :
    (resolveStatsCounter stats subFunction).isSome =
      (resolveStatsCounter stats' subFunction).isSome := by
  unfold resolveStatsCounter
  split <;> rfl

/-- The sub-functions that `handle_stats_sub_fn` answers. -/
def statsHandles (subFunction : UInt16) : Bool :=
  match DiagnosticSubFunction.tryFrom subFunction with
  | .ok .clearCountersAndDiagnosticRegister | .ok .clearOverrunCounterAndFlag => true
  | _ => (resolveStatsCounter .new subFunction).isSome

/-- The FC08 requests the session answers itself. -/
def sessionAnswers : RequestBody → Bool
  | .diagnostics subFunction _ =>
    subFunction = 0x0000 || subFunction = 0x0001 || subFunction = 0x0004 ||
      (Features.diagnosticsStats && statsHandles subFunction)
  | _ => false

/-- Either the routine does nothing and says no, or it makes no call and does not say no. -/
def AnswersIf (handled : Bool) (m : SessionM σ τ Bool) (s : AsyncServerSession σ τ) : Prop :=
  if handled then SameCalls s (m.run s).2 ∧ (m.run s).1 ≠ .ok false
  else m.run s = (.ok false, s)

lemma answersIf_echo (txnId : UInt16) (unit : UnitIdOrSlaveAddr) (subFunction result : UInt16)
    (f : AsyncServerStatistics → AsyncServerStatistics) (s : AsyncServerSession σ τ) :
    AnswersIf true (do
      EffM.modify fun s => { s with stats := f s.stats }
      echoIgnoringErrors setup txnId unit subFunction result) s :=
  ⟨within_echoIgnoringErrors txnId unit subFunction result { s with stats := f s.stats },
    echoIgnoringErrors_ne_false txnId unit subFunction result { s with stats := f s.stats }⟩

variable (setup) in
lemma answersIf_counter (txnId : UInt16) (unit : UnitIdOrSlaveAddr) (subFunction : UInt16)
    (s : AsyncServerSession σ τ) :
    AnswersIf (resolveStatsCounter .new subFunction).isSome (do
      let stats ← EffM.gets stats
      match resolveStatsCounter stats subFunction with
      | some counter => echoIgnoringErrors setup txnId unit subFunction counter
      | none => pure false) s := by
  rw [AnswersIf, EffM.run_gets_bind, resolveStatsCounter_isSome .new s.stats]
  cases resolveStatsCounter s.stats subFunction with
  | none => rfl
  | some counter => exact ⟨within_echoIgnoringErrors txnId unit subFunction counter s,
      echoIgnoringErrors_ne_false txnId unit subFunction counter s⟩

lemma answersIf_handleStatsSubFn (txnId : UInt16) (unit : UnitIdOrSlaveAddr)
    (subFunction : UInt16) (s : AsyncServerSession σ τ) :
    AnswersIf (statsHandles subFunction) (handleStatsSubFn setup txnId unit subFunction) s := by
  unfold handleStatsSubFn statsHandles
  have hcounter := answersIf_counter setup txnId unit subFunction s
  cases DiagnosticSubFunction.tryFrom subFunction with
  | error e => exact hcounter
  | ok named =>
    cases named with
    | clearCountersAndDiagnosticRegister =>
      exact answersIf_echo txnId unit subFunction 0 (fun _ => .new) s
    | clearOverrunCounterAndFlag =>
      exact answersIf_echo txnId unit subFunction 0
        (fun stats => { stats with characterOverrunCount := 0 }) s
    | _ => exact hcounter

variable (setup) in
lemma answersIf_respond (txnId : UInt16) (unit : UnitIdOrSlaveAddr) (response : ModbusResponse)
    (s : AsyncServerSession σ τ) :
    AnswersIf true (do
      respond setup txnId unit response
      pure true) s := by
  refine ⟨EffM.Within.bind SameCalls.trans (within_respond setup txnId unit response)
    (fun _ => EffM.within_pure SameCalls.refl true) s, ?_⟩
  rw [EffM.run_bind]
  rcases (respond setup txnId unit response).run s with ⟨o, s'⟩
  cases o <;> simp

lemma answersIf_tryDispatchFc08Auto (request : ModbusRequest) (s : AsyncServerSession σ τ) :
    AnswersIf (sessionAnswers request.body) (tryDispatchFc08Auto setup request) s := by
  obtain ⟨txnId, unit, body⟩ := request
  cases body with
  | diagnostics subFunction data =>
    unfold sessionAnswers tryDispatchFc08Auto handleFc08Auto
    by_cases h0 : subFunction = 0x0000
    · simp only [h0, if_true, decide_true, Bool.true_or]
      exact answersIf_respond setup txnId unit _ s
    · by_cases h1 : subFunction = 0x0001
      · simp only [h1, if_true, decide_true, Bool.true_or, Bool.or_true]
        exact answersIf_respond setup txnId unit _ { s with listenOnlyMode := false }
      · by_cases h4 : subFunction = 0x0004
        · simp only [h4, if_true, decide_true, Bool.true_or, Bool.or_true]
          refine ⟨sameCalls_count _ _, ?_⟩
          simp
        · simp only [h0, h1, h4, if_false, decide_false, Bool.false_or]
          cases hstats : (Features.diagnosticsStats : Bool) with
          | true => exact answersIf_handleStatsSubFn txnId unit subFunction s
          | false => rfl
  | _ => rfl

/-! ### Requests -/

/-- The request has no parser. -/
def isUnknown : RequestBody → Bool
  | .unknown _ => true
  | _ => false

variable (setup) in
lemma answersIf_tryReplyUnknownFc (request : ModbusRequest) (s : AsyncServerSession σ τ) :
    AnswersIf (isUnknown request.body) (tryReplyUnknownFc setup request) s := by
  obtain ⟨txnId, unit, body⟩ := request
  cases body with
  | unknown fcByte =>
    have hcount : SameCalls s s.incrementExceptionErrorCount := sameCalls_count _ s
    unfold tryReplyUnknownFc
    dsimp only [isUnknown]
    cases hfc : FunctionCode.tryFrom fcByte with
    | error e => exact ⟨hcount, by simp⟩
    | ok fc =>
      obtain ⟨hcalls, hne⟩ := answersIf_respond setup txnId unit
        (.exception fc .illegalFunction)
        (s.incrementExceptionErrorCount.onException setup.app txnId unit fc .illegalFunction)
      exact ⟨SameCalls.trans _ _ _ hcount hcalls, hne⟩
  | _ => rfl

/-- A step that may settle the request is followed by what happens when it does not. -/
lemma sameCalls_ite_iff {handled reaches : Bool} {m : SessionM σ τ Bool}
    {next : SessionM σ τ Unit} {s : AsyncServerSession σ τ} (hm : AnswersIf handled m s)
    (hnext : SameCalls s (next.run s).2 ↔ reaches = false) :
    SameCalls s ((do if ← m then pure () else next : SessionM σ τ Unit).run s).2 ↔
      (!handled && reaches) = false := by
  rw [EffM.run_bind]
  cases handled with
  | false =>
    have hrun : m.run s = (.ok false, s) := hm
    rw [hrun]
    exact hnext
  | true =>
    obtain ⟨hcalls, hne⟩ : SameCalls s (m.run s).2 ∧ (m.run s).1 ≠ .ok false := hm
    refine iff_of_true ?_ rfl
    rcases hr : m.run s with ⟨o, s'⟩
    rw [hr] at hcalls hne
    cases o with
    | err e => exact hcalls
    | panic => exact hcalls
    | ok b =>
      cases b with
      | true => exact hcalls
      | false => exact absurd rfl hne

/-- `handle` is called. -/
lemma appHandle_calls (request : ModbusRequest) (s : AsyncServerSession σ τ) :
    ((appHandle setup request).run s).2.app.calls = s.app.calls ++ [request] := rfl

lemma not_sameCalls_of_append {s s' : AsyncServerSession σ τ} {request : ModbusRequest}
    (h : s'.app.calls = s.app.calls ++ [request]) : ¬SameCalls s s' := by
  intro hsame
  have hlen := congrArg List.length (h.symm.trans hsame)
  simp at hlen

lemma not_sameCalls_dispatchAndSend (request : ModbusRequest) (s : AsyncServerSession σ τ) :
    ¬SameCalls s ((dispatchAndSend setup request).run s).2 := by
  have hcount : SameCalls s s.incrementServerMessageCount := sameCalls_count _ s
  have hcall : ((appHandle setup request).run s.incrementServerMessageCount).2.app.calls =
      s.app.calls ++ [request] := by
    rw [appHandle_calls, hcount]
  rw [dispatchAndSend, EffM.run_modify_bind, EffM.run_bind]
  rcases hr : (appHandle setup request).run s.incrementServerMessageCount with ⟨o, s'⟩
  rw [hr] at hcall
  cases o with
  | err e => exact not_sameCalls_of_append hcall
  | panic => exact not_sameCalls_of_append hcall
  | ok response =>
    dsimp only
    rw [EffM.run_modify_bind]
    have hnote : SameCalls s' (noteResponse setup request.txnId request.unit response s') := by
      unfold noteResponse
      split
      · exact sameCalls_count _ s'
      · exact sameCalls_count _ s'
      · rfl
    have hrespond := within_respond setup request.txnId request.unit response
      (noteResponse setup request.txnId request.unit response s')
    have hafter := SameCalls.trans _ _ _ hnote hrespond
    exact not_sameCalls_of_append (Eq.trans hafter hcall)

lemma sameCalls_handleSerialBroadcast_iff (request : ModbusRequest)
    (s : AsyncServerSession σ τ) :
    SameCalls s ((handleSerialBroadcast setup request).run s).2 ↔
      (s.enableBroadcastWrites && request.body.isBroadcastWriteFc) = false := by
  rw [handleSerialBroadcast, EffM.run_gets_bind]
  cases hb : s.enableBroadcastWrites && request.body.isBroadcastWriteFc with
  | false => exact iff_of_true (sameCalls_count _ s) rfl
  | true =>
    refine iff_of_false ?_ (by decide)
    rw [if_pos rfl, EffM.run_modify_bind, EffM.run_bind]
    have hcount : SameCalls s s.incrementServerMessageCount := sameCalls_count _ s
    have hcall : ((appHandle setup request).run s.incrementServerMessageCount).2.app.calls =
        s.app.calls ++ [request] := by
      rw [appHandle_calls, hcount]
    rcases hr : (appHandle setup request).run s.incrementServerMessageCount with ⟨o, s'⟩
    rw [hr] at hcall
    cases o with
    | err e => exact not_sameCalls_of_append hcall
    | panic => exact not_sameCalls_of_append hcall
    | ok response =>
      have hafter : SameCalls s' s'.incrementNoResponseCount := sameCalls_count _ s'
      exact not_sameCalls_of_append (Eq.trans hafter hcall)

/-- The session discards the request in listen-only mode. -/
def discards (listenOnly : Bool) : RequestBody → Bool
  | .diagnostics .. => false
  | _ => listenOnly

lemma answersIf_shouldDiscard (body : RequestBody) (s : AsyncServerSession σ τ) :
    AnswersIf (discards s.listenOnlyMode body) (shouldDiscardInListenOnlyMode body) s := by
  unfold shouldDiscardInListenOnlyMode AnswersIf
  rw [EffM.run_gets_bind]
  cases hl : s.listenOnlyMode with
  | false => cases body <;> rfl
  | true =>
    have hcount : SameCalls s s.incrementNoResponseCount := sameCalls_count _ s
    cases body with
    | diagnostics subFunction data => rfl
    | _ => exact ⟨hcount, by simp⟩

/-- Whether a parsed request is passed to `handle`. -/
def requestReachesHandle (setup : AsyncServerSetup σ τ) (request : ModbusRequest)
    (s : AsyncServerSession σ τ) : Bool :=
  !discards s.listenOnlyMode request.body && (!sessionAnswers request.body &&
    if request.unit.isBroadcast && setup.transport.transportType.isSerialType then
      s.enableBroadcastWrites && request.body.isBroadcastWriteFc
    else !isUnknown request.body)

variable (setup) in
lemma sameCalls_processRequest_iff (request : ModbusRequest) (s : AsyncServerSession σ τ) :
    SameCalls s ((processRequest setup request).run s).2 ↔
      requestReachesHandle setup request s = false := by
  unfold processRequest requestReachesHandle
  refine sameCalls_ite_iff (answersIf_shouldDiscard request.body s) ?_
  refine sameCalls_ite_iff (answersIf_tryDispatchFc08Auto request s) ?_
  split
  · exact sameCalls_handleSerialBroadcast_iff request s
  · have hdispatch : SameCalls s ((dispatchAndSend setup request).run s).2 ↔ true = false :=
      iff_of_false (not_sameCalls_dispatchAndSend request s) (by decide)
    have hreply := sameCalls_ite_iff (answersIf_tryReplyUnknownFc setup request s) hdispatch
    rwa [Bool.and_true] at hreply

lemma sameCalls_processAdu_iff (adu : List UInt8) (s : AsyncServerSession σ τ) :
    SameCalls s ((processAdu setup adu).run s).2 ↔
      ∀ request, parseAdu setup adu = .ok (some request) →
        requestReachesHandle setup request s = false := by
  have hcount : SameCalls s s.incrementMessageCount := sameCalls_count _ s
  have hsame : ∀ request, requestReachesHandle setup request s.incrementMessageCount =
      requestReachesHandle setup request s := by
    intro request
    unfold requestReachesHandle incrementMessageCount count
    split <;> rfl
  rw [processAdu, EffM.run_bind, acceptAdu, EffM.run_modify_bind, EffM.run_handle, EffM.run_lift]
  cases hparse : parseAdu setup adu with
  | panic => exact iff_of_true hcount (by simp)
  | err e =>
    refine iff_of_true ?_ (by simp)
    cases e with
    | framingError error => exact SameCalls.trans _ _ _ hcount (sameCalls_count _ _)
    | _ => exact hcount
  | ok found =>
    cases found with
    | none => exact iff_of_true hcount (by simp)
    | some request =>
      have hiff := sameCalls_processRequest_iff setup request s.incrementMessageCount
      rw [hsame] at hiff
      unfold SameCalls at hiff hcount ⊢
      rw [hcount] at hiff
      refine hiff.trans ⟨?_, fun h => h request rfl⟩
      rintro h request' heq
      cases heq
      exact h

end SessionM

/-! ### Frames with the exception bit -/

/-- The function-code byte of the frame has its exception bit set. -/
def hasExceptionBit (tt : TransportType) (frame : List UInt8) : Bool :=
  isExceptionCode ((wirePdu tt frame).headD 0)

/-- The frame that a waiting request stands for. -/
def pendingFrame [Features] {σ τ : Type} (setup : ServerSetup σ τ) (pending : PendingRequest) :
    List UInt8 :=
  pending.frame.toList.take
    ((deriveLengthFromBytes pending.frame.toList setup.transport.transportType).getD 0)

open ServerM SessionM in
/-- A frame with the exception bit reaches the application, on arrival and from the request
queue of the sync server and in the async session, exactly when the request that is left
without the bit passes the address, mode and request checks. -/
theorem exceptionBit_calls_iff [Features] {depth : Nat} {σ τ : Type} :
    (∀ (setup : ServerSetup σ τ) (s : ServerServices depth σ τ) (n : Nat),
      expectedFrameLength setup s.rxedFrame.toList = .ok n →
      hasExceptionBit setup.transport.transportType (s.rxedFrame.toList.take n) →
      (((ingestFrame setup).run s).2.app.calls = s.app.calls ↔
        ∀ message, decompileAduFrame (s.rxedFrame.toList.take n) setup.transport.transportType =
          .ok message → ingestReachesApp setup message s = false)) ∧
    (∀ (setup : ServerSetup σ τ) (s : ServerServices depth σ τ) (pending : PendingRequest),
      hasExceptionBit setup.transport.transportType (pendingFrame setup pending) →
      (((dispatchPendingRequest setup pending).run s).2.app.calls = s.app.calls ↔
        ∀ message, decodePending setup pending = .ok (some message) →
          dispatchReachesApp setup message s.listenOnlyMode = false)) ∧
    ∀ (setup : AsyncServerSetup σ τ) (s : AsyncServerSession σ τ) (adu : List UInt8),
      hasExceptionBit setup.transport.transportType adu →
      (((processAdu setup adu).run s).2.app.calls = s.app.calls ↔
        ∀ request, parseAdu setup adu = .ok (some request) →
          requestReachesHandle setup request s = false) := by
  refine ⟨fun setup s n hn _ => ?_, fun setup s pending _ => ?_, fun setup s adu _ => ?_⟩
  · rw [calls_ingestFrame]
    constructor
    · exact fun h message hm => h n message hn hm
    · rintro h n' message hn' hm
      cases hn.symm.trans hn'
      exact h message hm
  · exact calls_dispatchPendingRequest pending s
  · exact sameCalls_processAdu_iff adu s

/-- Write Single Register for unit 1, with the exception bit set. -/
def writeSingleRegisterException : List UInt8 :=
  [0x00, 0x01, 0x00, 0x00, 0x00, 0x06, 0x01, 0x86, 0x00, 0x00, 0x00, 0x01]

/-- An async application that accepts every request without a response. -/
def acceptingAsyncApp [Features] : AsyncAppHandler Unit where
  handle _ s := (some .noResponse, s)
  onException _ _ _ _ s := s

/-- An async session of unit 1 on TCP. -/
def asyncTcpSetup [Features] : AsyncServerSetup Unit Unit :=
  ⟨acceptingAsyncApp, .silent .stdTcp, ⟨1, by decide⟩⟩

open ServerM SessionM in
theorem exceptionBit_calls_writeSingleRegister :
    letI := Features.minimal
    let setup := ServerSetup.plain refusingApp .stdTcp ⟨1, by decide⟩
    let s := tcpServerHolding writeSingleRegisterException
    let pending : PendingRequest := ⟨.ofSlice writeSingleRegisterException, .write, 0⟩
    let session : AsyncServerSession Unit Unit := .new () ()
    (((ingestFrame setup).run s).2.app.calls = s.app.calls ↔
      ∀ message, decompileAduFrame (s.rxedFrame.toList.take 12) .stdTcp = .ok message →
        ingestReachesApp setup message s = false) ∧
    (((dispatchPendingRequest setup pending).run s).2.app.calls = s.app.calls ↔
      ∀ message, decodePending setup pending = .ok (some message) →
        dispatchReachesApp setup message s.listenOnlyMode = false) ∧
    (((processAdu asyncTcpSetup writeSingleRegisterException).run session).2.app.calls =
        session.app.calls ↔
      ∀ request, parseAdu asyncTcpSetup writeSingleRegisterException = .ok (some request) →
        requestReachesHandle asyncTcpSetup request session = false) :=
  let _ := Features.minimal
  let all := @exceptionBit_calls_iff _ 8 Unit Unit
  ⟨all.1 (ServerSetup.plain refusingApp .stdTcp ⟨1, by decide⟩)
      (tcpServerHolding writeSingleRegisterException) 12 (by decide) (by decide),
    all.2.1 (ServerSetup.plain refusingApp .stdTcp ⟨1, by decide⟩)
      (tcpServerHolding writeSingleRegisterException)
      ⟨.ofSlice writeSingleRegisterException, .write, 0⟩ (by decide),
    all.2.2 asyncTcpSetup (.new () ()) writeSingleRegisterException (by decide)⟩

open ServerM SessionM in
/-- Both servers execute Write Single Register for the byte 0x86. -/
theorem exceptionBit_writes_register :
    letI := Features.minimal
    hasExceptionBit .stdTcp writeSingleRegisterException = true ∧
      ((ingestFrame (ServerSetup.plain refusingApp .stdTcp ⟨1, by decide⟩)).run
        (tcpServerHolding writeSingleRegisterException)).2.app.calls =
          [⟨1, ⟨1, by decide⟩, .writeSingleRegister 0 1⟩] ∧
      ((processAdu asyncTcpSetup writeSingleRegisterException).run
        (.new () ())).2.app.calls.map (fun request => request.body.functionCodeByte) =
          [FunctionCode.writeSingleRegister.toByte] := by
  decide

end ModbusRs
