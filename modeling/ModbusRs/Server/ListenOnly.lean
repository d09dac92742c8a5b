import ModbusRs.Server.Addressing
import ModbusRs.Server.Steps

/-!
# Listen-only mode

The mode is a flag the dispatcher tests for most requests. Broadcast writes, the FC08
sub-functions, the exception for back-pressure, the expiry of waiting requests and the reply
to unrecognised function codes do not look at it. Runs that avoid these five keep the server
silent and in the mode.
-/

namespace ModbusRs

open Outcome

namespace ServerServices

variable [Features] {depth : Nat} {σ τ : Type}

/-- Nothing is answered and the listen-only flag stays as it is. -/
structure Quiet (s s' : ServerServices depth σ τ) : Prop extends Unanswered s s' where
  listenOnlyMode : s'.listenOnlyMode = s.listenOnlyMode

lemma Quiet.refl (s : ServerServices depth σ τ) : Quiet s s := ⟨.refl s, rfl⟩

lemma Quiet.trans {s s' s'' : ServerServices depth σ τ} (h : Quiet s s') (h' : Quiet s' s'') :
    Quiet s s'' :=
  ⟨h.toUnanswered.iff_of_step.mpr h'.toUnanswered, h'.listenOnlyMode.trans h.listenOnlyMode⟩

lemma quiet_count (step : ServerStatistics → ServerStatistics) (s : ServerServices depth σ τ) :
    Quiet s (s.count step) := by
  refine ⟨unanswered_count step s, ?_⟩
  unfold count
  split <;> rfl

lemma quiet_incrementNoResponseCount (s : ServerServices depth σ τ) :
    Quiet s s.incrementNoResponseCount := quiet_count _ s

lemma quiet_untilDispatch (setup : ServerSetup σ τ) (s : ServerServices depth σ τ) :
    Quiet s (ServerM.untilDispatch setup s) := by
  unfold ServerM.untilDispatch
  split <;> exact ⟨⟨rfl, rfl, rfl, rfl⟩, rfl⟩

/-- Nothing has been answered since `start`, in listen-only mode, but for the responses that
were waiting then. -/
structure SilentSince (start s : ServerServices depth σ τ) : Prop where
  listenOnlyMode : s.listenOnlyMode = true
  calls : s.app.calls = start.app.calls
  handed : s.handed = start.handed
  waiting : ∀ r ∈ s.responseQueue.toList, ∃ r₀ ∈ start.responseQueue.toList, r.frame = r₀.frame
  sent : ∃ frames, s.link.sent = start.link.sent ++ frames ∧
    ∀ f ∈ frames, ∃ r₀ ∈ start.responseQueue.toList, f = r₀.frame.toList

lemma SilentSince.refl {s : ServerServices depth σ τ} (h : s.listenOnlyMode = true) :
    SilentSince s s where
  listenOnlyMode := h
  calls := rfl
  handed := rfl
  waiting := fun r hr => ⟨r, hr, rfl⟩
  sent := ⟨[], (List.append_nil _).symm, by simp⟩

lemma SilentSince.of_quiet {start s s' : ServerServices depth σ τ} (h : SilentSince start s)
    (hq : Quiet s s') : SilentSince start s' where
  listenOnlyMode := hq.listenOnlyMode.trans h.listenOnlyMode
  calls := hq.calls.trans h.calls
  handed := hq.handed.trans h.handed
  waiting := by
    rw [hq.responseQueue]
    exact h.waiting
  sent := by
    rw [hq.sent]
    exact h.sent

end ServerServices

namespace ServerM

open ServerServices

variable [Features] {depth : Nat} {σ τ : Type} {setup : ServerSetup σ τ}

/-! ### What the dispatcher leaves alone -/

/-- Whether dispatching a message in listen-only mode is silent. -/
def staysSilent (setup : ServerSetup σ τ) (message : ModbusMessage) : Bool :=
  let tt := setup.transport.transportType
  if setup.shouldHandleBroadcastWrite message then
    !requestReachesApp tt message.functionCode message.pdu
  else message.functionCode != .diagnostics || setup.shouldDropForAddress message ||
    forcesListenOnly tt message.functionCode message.pdu

lemma quiet_ignoreErrors {m : AppM σ Unit} {s : ServerServices depth σ τ}
    (hcalls : ((ignoreErrors m).run s).2.app.calls = s.app.calls) :
    Quiet s ((ignoreErrors m).run s).2 := by
  have hrun : ((ignoreErrors m).run s).2 = { s with app := (m.run s.app).2 } := by
    have happ : (onApp m : ServerM depth σ τ Unit).run s =
        ((m.run s.app).1, { s with app := (m.run s.app).2 }) := rfl
    rw [ignoreErrors, EffM.run_handle, happ]
    cases (m.run s.app).1 <;> rfl
  rw [hrun] at hcalls ⊢
  exact ⟨⟨rfl, rfl, rfl, hcalls⟩, rfl⟩

/-- A broadcast write that fails its checks only counts. -/
lemma quiet_dispatchBroadcastWrite {message : ModbusMessage} {s : ServerServices depth σ τ}
    (hcalls : ((dispatchBroadcastWriteNoResponse setup message).run s).2.app.calls =
      s.app.calls) :
    Quiet s ((dispatchBroadcastWriteNoResponse setup message).run s).2 := by
  refine (quiet_incrementNoResponseCount s).trans ?_
  rw [← s.incrementNoResponseCount_app] at hcalls
  rw [dispatchBroadcastWriteNoResponse, EffM.run_modify_bind] at hcalls ⊢
  cases h : message.functionCode with
  | writeSingleCoil =>
    rw [h] at hcalls
    exact quiet_ignoreErrors hcalls
  | writeSingleRegister =>
    rw [h] at hcalls
    exact quiet_ignoreErrors hcalls
  | writeMultipleCoils =>
    rw [h] at hcalls
    exact quiet_ignoreErrors hcalls
  | writeMultipleRegisters =>
    rw [h] at hcalls
    exact quiet_ignoreErrors hcalls
  | _ => exact .refl _

lemma isSupported_of_shouldHandle {message : ModbusMessage}
    (h : setup.shouldHandleBroadcastWrite message = true) :
    isSupportedBroadcastWriteFunction message.functionCode = true := by
  simp only [ServerSetup.shouldHandleBroadcastWrite, Bool.and_eq_true] at h
  exact h.2

lemma quiet_forceListenOnly {message : ModbusMessage} {s : ServerServices depth σ τ}
    (hlisten : s.listenOnlyMode = true)
    (hforce : forcesListenOnly setup.transport.transportType message.functionCode message.pdu) :
    Quiet s ((dispatchFunction setup message.transactionId message.unitIdOrSlaveAddr
      message.functionCode message.pdu).run s).2 := by
  unfold forcesListenOnly at hforce
  split at hforce
  next fields hfc hcheck =>
    have hrun : ((dispatchFunction setup message.transactionId message.unitIdOrSlaveAddr
        message.functionCode message.pdu).run s).2 =
        ({ s with listenOnlyMode := true } : ServerServices depth σ τ).incrementNoResponseCount := by
      rw [hfc]
      change ((handleDiagnosticsRequest setup message.transactionId message.unitIdOrSlaveAddr
        message.pdu).run s).2 = _
      rw [handleDiagnosticsRequest, EffM.run_handle, EffM.run_lift, hcheck]
      rfl
    rw [hrun]
    have hset : Quiet s { s with listenOnlyMode := true } :=
      ⟨⟨rfl, rfl, rfl, rfl⟩, hlisten.symm⟩
    exact hset.trans (quiet_count _ _)
  next => cases hforce

lemma quiet_dispatchRequest {message : ModbusMessage} {s : ServerServices depth σ τ}
    (hlisten : s.listenOnlyMode = true) (h : staysSilent setup message = true) :
    Quiet s ((dispatchRequest setup message).run s).2 := by
  unfold staysSilent at h
  unfold dispatchRequest
  by_cases hb : setup.shouldHandleBroadcastWrite message
  · rw [if_pos hb] at h ⊢
    refine quiet_dispatchBroadcastWrite ?_
    rw [calls_dispatchBroadcastWriteNoResponse (isSupported_of_shouldHandle hb)]
    exact (Bool.not_eq_true' _).mp h
  · rw [if_neg hb] at h ⊢
    rw [EffM.run_gets_bind, hlisten, Bool.true_and]
    by_cases hfc : message.functionCode != .diagnostics
    · rw [if_pos hfc]
      exact quiet_incrementNoResponseCount s
    · rw [if_neg hfc]
      rw [(Bool.not_eq_true _).mp hfc, Bool.false_or] at h
      by_cases hd : setup.shouldDropForAddress message
      · rw [if_pos hd]
        exact .refl s
      · rw [if_neg hd]
        rw [(Bool.not_eq_true _).mp hd, Bool.false_or] at h
        exact quiet_forceListenOnly hlisten h

/-! ### Arrivals -/

/-- Whether taking in a decoded message in listen-only mode is silent: the dispatcher is
silent, or the request waits, or it is for another unit. -/
def arrivesSilently (setup : ServerSetup σ τ) (message : ModbusMessage)
    (s : ServerServices depth σ τ) : Bool :=
  if setup.shouldHandleBroadcastWrite message || setup.shouldDropForAddress message then
    staysSilent setup message
  else match inboundRoute setup s with
    | .reject => false
    | .enqueue => true
    | .dispatch => staysSilent setup message

lemma quiet_acceptInbound {message : ModbusMessage} {n : Nat} {s : ServerServices depth σ τ}
    (hn : n ≤ s.rxedFrame.toList.length) (hlisten : s.listenOnlyMode = true)
    (h : arrivesSilently setup message s = true) :
    Quiet s ((acceptInbound setup message n).run s).2 := by
  unfold arrivesSilently at h
  unfold acceptInbound
  by_cases hb : setup.shouldHandleBroadcastWrite message
  · rw [if_pos hb]
    rw [hb, Bool.true_or, if_pos rfl, staysSilent, if_pos hb] at h
    refine quiet_dispatchBroadcastWrite ?_
    rw [calls_dispatchBroadcastWriteNoResponse (isSupported_of_shouldHandle hb)]
    exact (Bool.not_eq_true' _).mp h
  · rw [if_neg hb]
    rw [(Bool.not_eq_true _).mp hb, Bool.false_or] at h
    by_cases hd : setup.shouldDropForAddress message
    · rw [if_pos hd]
      exact .refl s
    · rw [if_neg hd] at h ⊢
      rw [EffM.run_modify_bind]
      have hevent : Quiet s (s.recordCommEvent 0x04) := ⟨⟨rfl, rfl, rfl, rfl⟩, rfl⟩
      refine hevent.trans ?_
      have hroute := run_enqueueOrDispatchInbound setup message (n := n)
        (s := s.recordCommEvent 0x04) hn
      have heq : inboundRoute setup (s.recordCommEvent 0x04) = inboundRoute setup s := rfl
      rw [heq] at hroute
      cases hr : inboundRoute setup s with
      | reject =>
        rw [hr] at h
        cases h
      | enqueue =>
        rw [hr] at hroute
        obtain ⟨queue, _, hrun⟩ := hroute
        rw [hrun]
        exact ⟨⟨rfl, rfl, rfl, rfl⟩, rfl⟩
      | dispatch =>
        rw [hr] at h hroute
        rw [hroute]
        have huntil := quiet_untilDispatch setup (s.recordCommEvent 0x04)
        exact huntil.trans
          (quiet_dispatchRequest (huntil.listenOnlyMode.trans hlisten) h)

/-- Whether the frame at the head of the buffer is taken in silently. -/
def headArrivesSilently (setup : ServerSetup σ τ) (s : ServerServices depth σ τ) : Bool :=
  match expectedFrameLength setup s.rxedFrame.toList with
  | .error _ => true
  | .ok n =>
    match decompileAduFrame (s.rxedFrame.toList.take n) setup.transport.transportType with
    | .ok message => arrivesSilently setup message s
    | .err e => !repliesIllegalFunction setup n e
    | .panic => true

lemma quiet_ingestFrame {s : ServerServices depth σ τ} (hlisten : s.listenOnlyMode = true)
    (h : headArrivesSilently setup s = true) : Quiet s ((ingestFrame setup).run s).2 := by
  unfold headArrivesSilently at h
  rw [run_ingestFrame]
  cases hn : expectedFrameLength setup s.rxedFrame.toList with
  | error e => exact .refl s
  | ok n =>
    rw [hn] at h
    dsimp only at h ⊢
    cases hm : decompileAduFrame (s.rxedFrame.toList.take n) setup.transport.transportType with
    | panic => exact .refl s
    | err e =>
      rw [hm] at h
      dsimp only
      rw [EffM.run_bind_pure_snd, run_rejectInbound_of_not ((Bool.not_eq_true' _).mp h)]
      exact .refl s
    | ok message =>
      rw [hm] at h
      have hcount : Quiet s s.incrementMessageCount := quiet_count _ s
      have hle : n ≤ s.incrementMessageCount.rxedFrame.toList.length := by
        rw [incrementMessageCount_rxedFrame]
        exact expectedFrameLength_le hn
      have harrives : arrivesSilently setup message s.incrementMessageCount = true := by
        rw [arrivesSilently, inboundRoute_incrementMessageCount]
        exact h
      dsimp only
      rw [EffM.run_bind_pure_snd]
      exact hcount.trans
        (quiet_acceptInbound hle (hcount.listenOnlyMode.trans hlisten) harrives)

lemma quiet_ingestRound {s : ServerServices depth σ τ} (hlisten : s.listenOnlyMode = true)
    (h : headArrivesSilently setup s = true) : Quiet s ((ingestRound setup).run s).2 := by
  have hq := quiet_ingestFrame hlisten h
  rw [ingestRound, EffM.run_handle]
  rcases hr : (ingestFrame setup).run s with ⟨o, s'⟩
  rw [hr] at hq
  cases o with
  | panic => exact hq
  | ok consumed => exact hq.trans ⟨⟨rfl, rfl, rfl, rfl⟩, rfl⟩
  | err error =>
    have hparse : Quiet s' s'.handleParseError :=
      (quiet_count _ s').trans ⟨⟨rfl, rfl, rfl, rfl⟩, rfl⟩
    cases error with
    | bufferTooSmall => exact hq
    | _ => exact hq.trans hparse

/-! ### Waiting requests -/

/-- `expire_stale` removes requests that have waited too long, and only those. -/
lemma mem_takeExpiredFrom {nowUs : UInt64} {limit : Nat} {p : PendingRequest}
    (queue : HVec PendingRequest depth) (i : Nat) (expired : List PendingRequest)
    (h : p ∈ (RequestQueue.takeExpiredFrom nowUs limit queue i expired).2) :
    p ∈ expired ∨ p ∈ queue.toList ∧ limit < nowUs.toNat - p.receivedAtUs.toNat := by
  fun_induction RequestQueue.takeExpiredFrom nowUs limit queue i expired with
  | case1 => exact Or.inl h
  | case2 queue i expired item hi _ hstale removed rest hswap _ ih =>
    rcases ih h with hmem | ⟨hmem, hlate⟩
    · rcases List.mem_append.mp hmem with hmem | hmem
      · exact Or.inl hmem
      · have hremoved : removed = item :=
          Option.some.inj ((HVec.getElem?_of_swapRemove hswap).symm.trans hi)
        have hp : p = item := (List.mem_singleton.mp hmem).trans hremoved
        rw [hp]
        exact Or.inr ⟨List.mem_of_getElem? hi, hstale⟩
    · exact Or.inr ⟨HVec.mem_of_mem_swapRemove hswap (Or.inr hmem), hlate⟩
  | case3 => exact Or.inl h
  | case4 _ _ _ _ _ _ _ ih => exact ih h

/-- Whether a waiting request is past its deadline. -/
def isStale (setup : ServerSetup σ τ) (s : ServerServices depth σ τ) (pending : PendingRequest) :
    Bool :=
  setup.resilience.timeouts.requestDeadlineMs.toNat * 1000 <
    (s.nowUs setup).toNat - pending.receivedAtUs.toNat

lemma quiet_handleExpiredRequestStrict {pending : PendingRequest}
    (h : pendingDecodes setup pending = false) (s : ServerServices depth σ τ) :
    Quiet s ((handleExpiredRequestStrict setup pending).run s).2 := by
  rw [handleExpiredRequestStrict, EffM.run_lift_bind]
  unfold pendingDecodes at h
  split at h
  next => cases h
  next hnone =>
    cases hp : decodePending setup pending with
    | err e => exact .refl s
    | panic => exact .refl s
    | ok found =>
      cases found with
      | none => exact .refl s
      | some message => exact absurd hp (hnone message)

lemma quiet_expireAll (expired : List PendingRequest)
    (h : ∀ p ∈ expired, pendingDecodes setup p = false) (s : ServerServices depth σ τ) :
    Quiet s ((expireAll setup expired).run s).2 := by
  induction expired generalizing s with
  | nil => exact .refl s
  | cons pending rest ih =>
    obtain ⟨hpending, hrest⟩ := List.forall_mem_cons.mp h
    have hfirst := quiet_handleExpiredRequestStrict hpending s
    rw [expireAll, EffM.run_bind]
    rcases hr : (handleExpiredRequestStrict setup pending).run s with ⟨o, s'⟩
    rw [hr] at hfirst
    cases o with
    | ok _ => exact hfirst.trans (ih hrest s')
    | err e => exact hfirst
    | panic => exact hfirst

lemma quiet_expireStale {s : ServerServices depth σ τ}
    (h : setup.resilience.timeouts.strictMode = true →
      ∀ p ∈ s.requestQueue.toList, isStale setup s p = true → pendingDecodes setup p = false) :
    Quiet s ((expireStaleQueuedRequests setup).run s).2 := by
  unfold expireStaleQueuedRequests
  by_cases hdeadline : setup.resilience.timeouts.requestDeadlineMs = 0
  · simp only [if_pos hdeadline]
    exact .refl s
  · simp only [if_neg hdeadline]
    rw [EffM.run_gets_bind, EffM.run_modify_bind, EffM.run_gets_bind, EffM.run_modify_bind]
    have hkept : Quiet s { s.tick with requestQueue := (RequestQueue.takeExpired (s.nowUs setup)
        setup.resilience.timeouts.requestDeadlineMs s.requestQueue).1 } :=
      ⟨⟨rfl, rfl, rfl, rfl⟩, rfl⟩
    refine hkept.trans ?_
    by_cases hstrict : setup.resilience.timeouts.strictMode = true
    · rw [if_pos hstrict]
      refine quiet_expireAll _ (fun p hp => ?_) _
      have hp : p ∈ (RequestQueue.takeExpired (s.nowUs setup)
          setup.resilience.timeouts.requestDeadlineMs s.requestQueue).2 := hp
      rw [RequestQueue.takeExpired, if_neg hdeadline] at hp
      rcases mem_takeExpiredFrom _ _ _ hp with hmem | ⟨hmem, hlate⟩
      · cases hmem
      · exact h hstrict p hmem (decide_eq_true hlate)
    · rw [if_neg hstrict]
      exact .refl _

lemma quiet_dispatchNext {s : ServerServices depth σ τ} (hlisten : s.listenOnlyMode = true)
    (h : ∀ pending rest message,
      RequestQueue.popHighestPriority s.requestQueue = some (pending, rest) →
      decodePending setup pending = .ok (some message) → staysSilent setup message = true) :
    Quiet s ((dispatchNext setup).run s).2 := by
  rw [dispatchNext, EffM.run_gets_bind]
  cases hpop : RequestQueue.popHighestPriority s.requestQueue with
  | none => exact .refl s
  | some popped =>
    obtain ⟨pending, rest⟩ := popped
    dsimp only
    rw [EffM.run_modify_bind, dispatchPendingRequest, EffM.run_lift_bind]
    have hrest : Quiet s { s with requestQueue := rest } := ⟨⟨rfl, rfl, rfl, rfl⟩, rfl⟩
    refine hrest.trans ?_
    cases hp : decodePending setup pending with
    | err e => exact .refl _
    | panic => exact .refl _
    | ok found =>
      cases found with
      | none => exact .refl _
      | some message => exact quiet_dispatchRequest hlisten (h pending rest message hpop hp)

/-! ### The retry queue -/

end ServerM

namespace ServerServices

variable [Features] {depth : Nat} {σ τ : Type} {setup : ServerSetup σ τ}
  {start s : ServerServices depth σ τ} {pending : PendingResponse}

lemma SilentSince.popFront {queue : HVec PendingResponse depth} (h : SilentSince start s)
    (hpop : s.responseQueue.popFront = some (pending, queue)) :
    SilentSince start { s with responseQueue := queue } ∧
      ∃ r₀ ∈ start.responseQueue.toList, pending.frame = r₀.frame := by
  have hlist := HVec.popFront_eq_some.mp hpop
  refine ⟨⟨h.listenOnlyMode, h.calls, h.handed, fun r hr => ?_, h.sent⟩, ?_⟩
  · refine h.waiting r ?_
    rw [hlist]
    exact List.mem_cons_of_mem _ hr
  · refine h.waiting pending ?_
    rw [hlist]
    exact List.mem_cons_self

lemma SilentSince.requeueResponse (h : SilentSince start s)
    (hpending : ∃ r₀ ∈ start.responseQueue.toList, pending.frame = r₀.frame) :
    SilentSince start (s.requeueResponse pending) := by
  unfold ServerServices.requeueResponse
  cases hpush : s.responseQueue.push pending with
  | none => exact h
  | some queue =>
    refine ⟨h.listenOnlyMode, h.calls, h.handed, ?_, h.sent⟩
    have hlist := HVec.extendFromSlice_eq_some.mp hpush
    intro r hr
    have hr : r ∈ s.responseQueue.toList ++ [pending] := hlist ▸ hr
    rcases List.mem_append.mp hr with hr | hr
    · exact h.waiting r hr
    · rw [List.mem_singleton.mp hr]
      exact hpending

variable (setup) in
/-- A waiting response is put on the wire. -/
lemma SilentSince.send (h : SilentSince start s)
    (hpending : ∃ r₀ ∈ start.responseQueue.toList, pending.frame = r₀.frame) :
    SilentSince start
      { s with link := (s.link.send setup.transport pending.frame.toList).2 } := by
  refine ⟨h.listenOnlyMode, h.calls, h.handed, h.waiting, ?_⟩
  obtain ⟨frames, hsent, hframes⟩ := h.sent
  refine ⟨frames ++ [pending.frame.toList], ?_, ?_⟩
  · rw [Link.send_sent, hsent, List.append_assoc]
  · intro f hf
    rcases List.mem_append.mp hf with hf | hf
    · exact hframes f hf
    · obtain ⟨r₀, hr₀, hframe⟩ := hpending
      exact ⟨r₀, hr₀, by rw [List.mem_singleton.mp hf, hframe]⟩

lemma SilentSince.retryFailed (h : SilentSince start s)
    (hpending : ∃ r₀ ∈ start.responseQueue.toList, pending.frame = r₀.frame) :
    SilentSince start (s.onQueuedResponseRetryFailure setup pending) := by
  have htick : SilentSince start s.tick := h.of_quiet ⟨⟨rfl, rfl, rfl, rfl⟩, rfl⟩
  exact htick.requeueResponse hpending

lemma silentSince_drainResponses (count : Nat) (s : ServerServices depth σ τ)
    (h : SilentSince start s) : SilentSince start (drainResponses setup count s) := by
  induction count generalizing s with
  | zero => exact h
  | succ count ih =>
    rw [drainResponses]
    cases hpop : s.responseQueue.popFront with
    | none => exact h
    | some popped =>
      obtain ⟨pending, queue⟩ := popped
      obtain ⟨hpopped, hpending⟩ := h.popFront hpop
      have htick : SilentSince start { s with responseQueue := queue }.tick :=
        hpopped.of_quiet ⟨⟨rfl, rfl, rfl, rfl⟩, rfl⟩
      dsimp only
      split
      · exact ih _ hpopped
      · split
        · exact htick.requeueResponse hpending
        · have hsend := htick.send setup hpending
          split
          next link hlink =>
            rw [hlink] at hsend
            exact ih _ (hsend.of_quiet (quiet_count _ _))
          next link hlink =>
            rw [hlink] at hsend
            exact hsend.retryFailed hpending

end ServerServices

namespace ServerM

open ServerServices

variable [Features] {depth : Nat} {σ τ : Type} {setup : ServerSetup σ τ}

lemma quiet_handleRecvError (recvError : MbusError) (s : ServerServices depth σ τ) :
    Quiet s (s.handleRecvError setup recvError) := by
  unfold handleRecvError
  cases recvError with
  | framingError => exact ⟨⟨rfl, rfl, rfl, rfl⟩, rfl⟩
  | connectionClosed => exact ⟨⟨rfl, rfl, rfl, rfl⟩, rfl⟩
  | connectionFailed => exact ⟨⟨rfl, rfl, rfl, rfl⟩, rfl⟩
  | connectionLost => exact ⟨⟨rfl, rfl, rfl, rfl⟩, rfl⟩
  | ioError => exact ⟨⟨rfl, rfl, rfl, rfl⟩, rfl⟩
  | _ =>
    dsimp only
    split <;> exact ⟨⟨rfl, rfl, rfl, rfl⟩, rfl⟩

lemma quiet_receive (s : ServerServices depth σ τ) : Quiet s ((receive setup).run s).2 := by
  have hrecv : Quiet s { s with link := (s.link.recv setup.transport).2 } :=
    ⟨⟨rfl, rfl, rfl, rfl⟩, rfl⟩
  cases h : (s.link.recv setup.transport).1 with
  | error recvError =>
    rw [run_receive_error h]
    exact hrecv.trans (quiet_handleRecvError recvError _)
  | ok frame =>
    rw [run_receive_ok h, appendToRxedFrame]
    split <;> exact ⟨⟨rfl, rfl, rfl, rfl⟩, rfl⟩

/-! ### Runs in listen-only mode -/

/-- What keeps an action silent in listen-only mode: no broadcast write that passes its checks,
no FC08 but Force Listen Only Mode, no back-pressure, no expiry in strict mode of a request that
decodes, no unrecognised function code on TCP. -/
def KeepsSilent (setup : ServerSetup σ τ) :
    ServerAction σ τ → ServerServices depth σ τ → Prop
  | .ingest, s => headArrivesSilently setup s = true
  | .expire, s => setup.resilience.timeouts.strictMode = true →
    ∀ p ∈ s.requestQueue.toList, isStale setup s p = true → pendingDecodes setup p = false
  | .dispatchNext, s => ∀ pending rest message,
    RequestQueue.popHighestPriority s.requestQueue = some (pending, rest) →
    decodePending setup pending = .ok (some message) → staysSilent setup message = true
  | _, _ => True

lemma silentSince_perform {start : ServerServices depth σ τ} (action : ServerAction σ τ)
    (s : ServerServices depth σ τ) (hcond : KeepsSilent setup action s)
    (h : SilentSince start s) : SilentSince start (perform setup action s) := by
  cases action with
  | environment app transport => exact h.of_quiet ⟨⟨rfl, rfl, rfl, rfl⟩, rfl⟩
  | connect => exact h.of_quiet ⟨⟨rfl, rfl, rfl, rfl⟩, rfl⟩
  | disconnect => exact h.of_quiet ⟨⟨rfl, rfl, rfl, rfl⟩, rfl⟩
  | drain =>
    change SilentSince start (if depth > 0 then s.drainResponseQueue setup else s)
    split
    · exact silentSince_drainResponses _ s h
    · exact h
  | receive => exact h.of_quiet (quiet_receive s)
  | ingest => exact h.of_quiet (quiet_ingestRound h.listenOnlyMode hcond)
  | expire => exact h.of_quiet (quiet_expireStale hcond)
  | dispatchNext => exact h.of_quiet (quiet_dispatchNext h.listenOnlyMode hcond)

/-- Along every run of such actions the server stays in listen-only mode, calls no callback and
sends nothing but the responses that were waiting when the run began. -/
theorem listenOnly_silent (start s : ServerServices depth σ τ)
    (hlisten : start.listenOnlyMode = true)
    (hrun : Runs.RunWhen (KeepsSilent setup) (perform setup) start s) : SilentSince start s :=
  hrun.invariant silentSince_perform (.refl hlisten)

/-- A server with default configuration on a serial line of unit 1 that is in listen-only mode
and has received the given bytes. -/
def listeningHolding (rxedFrame : List UInt8) : ServerServices 8 Unit Unit :=
  { ServerServices.withQueueDepth 8 () () with
    rxedFrame := .ofSlice rxedFrame
    listenOnlyMode := true }

/-- A request to unit 1 to read one holding register. -/
def readOneRegisterOnBus : List UInt8 := [0x01, 0x03, 0x00, 0x00, 0x00, 0x01, 0x84, 0x0A]

omit [Features] in
theorem listenOnly_silent_readOneRegister :
    letI := Features.minimal
    SilentSince (listeningHolding readOneRegisterOnBus)
      (perform (ServerSetup.plain refusingApp (.stdSerial .rtu) ⟨1, by decide⟩) .ingest
        (listeningHolding readOneRegisterOnBus)) :=
  let _ := Features.minimal
  listenOnly_silent _ _ rfl (.single (by
    change headArrivesSilently _ _ = true
    decide))

/-! ### What the mode lets through -/

/-- FC08 Restart Communications Option, as the server takes it. -/
def restartsCommunications (tt : TransportType) (fc : FunctionCode) (pdu : Pdu) : Bool :=
  match fc, checkDiagnostics tt pdu with
  | .diagnostics, .ok (.restartCommunicationsOption, _) => true
  | _, _ => false

/-- Whether the frame at the head of the buffer is such a request. -/
def headRestarts (setup : ServerSetup σ τ) (s : ServerServices depth σ τ) : Bool :=
  match expectedFrameLength setup s.rxedFrame.toList with
  | .error _ => false
  | .ok n =>
    match decompileAduFrame (s.rxedFrame.toList.take n) setup.transport.transportType with
    | .ok message => restartsCommunications setup.transport.transportType message.functionCode
      message.pdu
    | _ => false

/-- Whether the next waiting request is such a request. -/
def nextRestarts (setup : ServerSetup σ τ) (s : ServerServices depth σ τ) : Bool :=
  match RequestQueue.popHighestPriority s.requestQueue with
  | none => false
  | some (pending, _) =>
    match decodePending setup pending with
    | .ok (some message) => restartsCommunications setup.transport.transportType
      message.functionCode message.pdu
    | _ => false

/-- Actions that do not take up a Restart Communications Option request. -/
def AvoidsRestart (setup : ServerSetup σ τ) :
    ServerAction σ τ → ServerServices depth σ τ → Prop
  | .ingest, s => headRestarts setup s = false
  | .dispatchNext, s => nextRestarts setup s = false
  | _, _ => True

/-- Force Listen Only Mode for unit 1. -/
def forceListenOnlyFrame : List UInt8 := [0x01, 0x08, 0x00, 0x04, 0x00, 0x00, 0xA1, 0xCA]

/-- Return Query Data for unit 1. -/
def returnQueryDataFrame : List UInt8 := [0x01, 0x08, 0x00, 0x00, 0xA5, 0x37, 0xDA, 0x8D]

/-- The server of unit 1 on a serial line that hears what has arrived. -/
def arrivingSetup : ServerSetup Unit (List UInt8) where
  app := refusingApp
  transport := .arriving (.stdSerial .rtu)
  slaveAddress := ⟨1, UnitIdOrSlaveAddr.valid_one⟩
  resilience := .default

/-- It has just been told to listen only. -/
def toldToListen : ServerServices 8 Unit (List UInt8) :=
  perform arrivingSetup .ingest (perform arrivingSetup .receive
    (ServerServices.withQueueDepth 8 () forceListenOnlyFrame))

/-- And then a diagnostic echo arrives. -/
def askedToEcho : ServerServices 8 Unit (List UInt8) :=
  perform arrivingSetup .receive
    (perform arrivingSetup (.environment () returnQueryDataFrame) toldToListen)

lemma reachable_toldToListen : Runs.Reachable
    (fun s => ∃ transport, s = ServerServices.withQueueDepth 8 () transport)
    (perform arrivingSetup) toldToListen := by
  have hreceive : Runs.Run (perform arrivingSetup)
      (ServerServices.withQueueDepth 8 () forceListenOnlyFrame)
      (perform arrivingSetup .receive (ServerServices.withQueueDepth 8 () forceListenOnlyFrame)) :=
    Runs.Run.single ServerAction.receive _
  exact ⟨_, ⟨forceListenOnlyFrame, rfl⟩, hreceive.trans (Runs.Run.single ServerAction.ingest _)⟩

lemma run_askedToEcho :
    Runs.RunWhen (AvoidsRestart arrivingSetup) (perform arrivingSetup) toldToListen
      askedToEcho := by
  have harrive : Runs.RunWhen (AvoidsRestart arrivingSetup) (perform arrivingSetup) toldToListen
      (perform arrivingSetup (.environment () returnQueryDataFrame) toldToListen) :=
    Runs.RunWhen.single trivial
  exact harrive.trans (Runs.RunWhen.single (i := ServerAction.receive) trivial)

omit [Features] in
/-- In listen-only mode the server answers Return Query Data. -/
theorem listenOnly_echo_answered :
    ¬∀ [Features] (setup : ServerSetup Unit (List UInt8))
      (start s : ServerServices 8 Unit (List UInt8)),
      Runs.Reachable (fun s => ∃ transport, s = ServerServices.withQueueDepth 8 () transport)
        (perform setup) start →
      start.listenOnlyMode = true →
      Runs.RunWhen (AvoidsRestart setup) (perform setup) start s → SilentSince start s := by
  intro h
  let _ := Features.minimal
  have hhead : headRestarts arrivingSetup askedToEcho = false := by decide
  have hlisten : (toldToListen : ServerServices 8 Unit (List UInt8)).listenOnlyMode = true := by
    decide
  have hsilent := h arrivingSetup toldToListen (perform arrivingSetup .ingest askedToEcho)
    reachable_toldToListen hlisten (run_askedToEcho.trans (Runs.RunWhen.single hhead))
  have hlen : (perform arrivingSetup .ingest askedToEcho).handed.length =
      (toldToListen : ServerServices 8 Unit (List UInt8)).handed.length := by
    rw [hsilent.handed]
  revert hlen
  decide

end ServerM

end ModbusRs
