import ModbusRs.Gateway.Sessions

/-!
# The requests in the gateway's hands

Every request the gateway has accepted is answered, waits, or has been lost. A step takes at
most one new request in; what it had in hand before and the new request are afterwards answered,
waiting, or lost for one of the reasons of `Loses`.
-/

namespace ModbusRs.Gateway.GatewayServices

open Outcome

variable [Features] {cap : Capacity} {υ δ : Type} {setup : GatewaySetup υ δ}

/-- The requests that were replied to, one entry for each reply. -/
def answered (s : GatewayServices cap υ δ) : List UpstreamRequest :=
  s.replies.map (·.request)

/-- The requests in `hand` and those that waited are answered, wait, or are lost. -/
def Handled (loses : UpstreamRequest → Prop) (hand : List UpstreamRequest)
    (s s' : GatewayServices cap υ δ) : Prop :=
  ∃ lost done, (lost ++ (done ++ s'.waiting)).Perm (hand ++ s.waiting) ∧
    s'.answered = s.answered ++ done ∧ ∀ request ∈ lost, loses request

section Handled

variable {loses : UpstreamRequest → Prop} {hand : List UpstreamRequest}
  {s s' : GatewayServices cap υ δ} {request : UpstreamRequest}

lemma Handled.waits (hwaiting : s'.waiting.Perm (hand ++ s.waiting))
    (hanswered : s'.answered = s.answered) : Handled loses hand s s' :=
  ⟨[], [], hwaiting, by rw [hanswered, List.append_nil], by simp⟩

lemma Handled.same (hpending : s'.pending = s.pending) (hdownstreams : s'.downstreams = s.downstreams)
    (hreplies : s'.replies = s.replies) : Handled loses [] s s' := by
  refine .waits (List.Perm.of_eq ?_) ?_
  · rw [waiting, hpending, awaiting_congr hdownstreams]
    rfl
  · rw [answered, hreplies]
    rfl

lemma Handled.answers (hwaiting : (request :: s'.waiting).Perm (hand ++ s.waiting))
    (hanswered : s'.answered = s.answered ++ [request]) : Handled loses hand s s' :=
  ⟨[], [request], hwaiting, hanswered, by simp⟩

lemma Handled.lost (hloses : loses request)
    (hwaiting : (request :: s'.waiting).Perm (hand ++ s.waiting))
    (hanswered : s'.answered = s.answered) : Handled loses hand s s' :=
  ⟨[request], [], hwaiting, by rw [hanswered, List.append_nil], by simpa using hloses⟩

/-- A request that an exception answers, if its session is still there. -/
lemma Handled.refused {gone : Prop} (hwaiting : (request :: s'.waiting).Perm (hand ++ s.waiting))
    (hanswered : s'.answered = s.answered ++ [request] ∨ (gone ∧ s'.answered = s.answered))
    (hgone : gone → loses request) : Handled loses hand s s' := by
  rcases hanswered with hanswered | ⟨hg, hanswered⟩
  · exact .answers hwaiting hanswered
  · exact .lost (hgone hg) hwaiting hanswered

lemma Handled.congr {hand₁ : List UpstreamRequest} {s₁ : GatewayServices cap υ δ}
    (h : Handled loses hand₁ s₁ s')
    (hwaiting : (hand₁ ++ s₁.waiting).Perm (hand ++ s.waiting))
    (hreplies : s₁.replies = s.replies) : Handled loses hand s s' := by
  obtain ⟨lost, done, hperm, hanswered, hlost⟩ := h
  refine ⟨lost, done, hperm.trans hwaiting, ?_, hlost⟩
  rw [hanswered, answered, hreplies]
  rfl

end Handled

lemma waiting_congr {s s' : GatewayServices cap υ δ} (hpending : s'.pending = s.pending)
    (hdownstreams : s'.downstreams = s.downstreams) : s'.waiting = s.waiting := by
  rw [waiting, hpending, awaiting_congr hdownstreams]
  rfl

/-- The first upstream with an id depends only on the ids. -/
lemma findUpstream_eq (s : GatewayServices cap υ δ) (sessionIdx : UInt8) :
    s.findUpstream sessionIdx = s.sessions.findIdx? (·.1 == sessionIdx) := by
  rw [sessions, List.findIdx?_map]
  rfl

lemma findUpstream_congr {s s' : GatewayServices cap υ δ} (h : s'.sessions = s.sessions)
    (sessionIdx : UInt8) : s'.findUpstream sessionIdx = s.findUpstream sessionIdx := by
  rw [findUpstream_eq, findUpstream_eq, h]

section Replying

variable {loses : UpstreamRequest → Prop} (s : GatewayServices cap υ δ)
  {request : UpstreamRequest}

lemma waiting_sendReply (up : Nat) (adu : List UInt8) (delivery : Option Delivery) :
    (s.sendReply setup up request adu delivery).2.waiting = s.waiting :=
  waiting_congr (sendReply_pending s up request adu delivery)
    (sendReply_downstreams s up request adu delivery)

lemma waiting_sendExceptionUpstream (upstream : Option Nat) (code : ExceptionCode) :
    (s.sendExceptionUpstream setup upstream request code).waiting = s.waiting :=
  waiting_congr (sendExceptionUpstream_pending s request upstream code)
    (sendExceptionUpstream_downstreams s request upstream code)

lemma answered_sendReply {up : Nat} {channel : UpstreamChannel υ}
    (hup : s.upstreams.toList[up]? = some channel) (adu : List UInt8)
    (delivery : Option Delivery) :
    (s.sendReply setup up request adu delivery).2.answered = s.answered ++ [request] := by
  rw [answered, sendReply, hup]
  exact List.map_append

/-- An exception answers the request, unless its session is gone. -/
lemma answered_sendExceptionUpstream {upstream : Option Nat} (code : ExceptionCode)
    (haddresses : s.Addresses upstream request.sessionIdx) :
    (s.sendExceptionUpstream setup upstream request code).answered = s.answered ++ [request] ∨
      (s.findUpstream request.sessionIdx = none ∧
        (s.sendExceptionUpstream setup upstream request code).answered = s.answered) := by
  cases upstream with
  | none =>
    refine Or.inr ⟨?_, rfl⟩
    rcases haddresses with hfind | ⟨_, _, hsome, _⟩
    · exact hfind.symm
    · cases hsome
  | some up =>
    rw [sendExceptionUpstream_some]
    have hchannel : ∃ channel, s.upstreams.toList[up]? = some channel := by
      rcases haddresses with hfind | ⟨_, channel, hsome, hup, _⟩
      · obtain ⟨channel, hup, _⟩ := findUpstream_eq_some hfind.symm
        exact ⟨channel, hup⟩
      · cases hsome
        exact ⟨channel, hup⟩
    obtain ⟨channel, hup⟩ := hchannel
    exact Or.inl (answered_sendReply s hup _ none)

lemma answered_refuse (code : ExceptionCode) :
    (s.refuse setup request code).answered = s.answered ++ [request] ∨
      (s.findUpstream request.sessionIdx = none ∧
        (s.refuse setup request code).answered = s.answered) :=
  answered_sendExceptionUpstream s code (Or.inl rfl)

lemma handled_refuse (code : ExceptionCode)
    (hgone : s.findUpstream request.sessionIdx = none → loses request) :
    Handled loses [request] s (s.refuse setup request code) := by
  refine .refused ?_ (answered_refuse s code) hgone
  rw [refuse, waiting_sendExceptionUpstream]
  exact List.Perm.refl _

end Replying

/-! ### The ways a request can be lost -/

/-- The time at which a step sends requests down. -/
def dispatchClock : GatewayAction υ δ → Option UInt64
  | .serviceNext nowMs | .upstreamRound _ nowMs => some nowMs
  | _ => none

variable (setup) in
/-- The ways a step loses a request: its session is gone, it does not fit a downstream frame,
the computation of its deadline panics, or the response is not carried back. -/
inductive Loses (action : GatewayAction υ δ) (s : GatewayServices cap υ δ) : UpstreamRequest → Prop
  | gone (request : UpstreamRequest) (hgone : s.findUpstream request.sessionIdx = none) :
    Loses action s request
  | unencodable (request : PendingRequest) (hnumbers : Numbers setup action s request)
    (hfits : ¬FitsFrame setup.downstream.transportType request.pdu.rawBytes) :
    Loses action s request.toUpstreamRequest
  | overflowed (request : PendingRequest) (nowMs : UInt64)
    (hnumbers : Numbers setup action s request) (hclock : dispatchClock action = some nowMs)
    (hdeadline : deadline setup nowMs = .panic) : Loses action s request.toUpstreamRequest
  | unreturned (i : Nat) (nowMs : UInt64) (channel received : DownstreamChannel δ)
    (internalTxn : UInt16) (deadlineMs : UInt64) (request : PendingRequest) (expectedLen : Nat)
    (haction : action = .pollDownstream i nowMs)
    (hwaits : Waits setup s i channel received internalTxn deadlineMs request)
    (hnow : ¬deadlineMs ≤ nowMs) (hgood : (receiveDownstream setup channel).1 = true)
    (hlen : completeLength setup.downstream.transportType received.rxbuf = some expectedLen)
    (hcarries : ∀ response entry up, ¬CarriesBack setup s (received.rxbuf.toList.take expectedLen)
      internalTxn request response entry up) :
    Loses action s request.toUpstreamRequest

section Steps

variable {loses : UpstreamRequest → Prop} {s s' : GatewayServices cap υ δ}
  {request : PendingRequest} {nowMs : UInt64}

lemma waiting_setState_perm {i : Nat} (hidle : s.channelIdle i = true) (internalTxn : UInt16)
    (deadlineMs : UInt64) :
    (s.setState i (.awaitingResponse internalTxn deadlineMs request)).waiting.Perm
      (request.toUpstreamRequest :: s.waiting) := by
  have hawaiting := (awaiting_setState_perm hidle internalTxn deadlineMs request).map
    (·.2.toUpstreamRequest)
  exact (hawaiting.append_left _).trans List.perm_middle

lemma sendDownstream_waiting (s : GatewayServices cap υ δ) (i : Nat) (adu : List UInt8) :
    (s.sendDownstream setup i adu).2.waiting = s.waiting := by
  have hpending : (s.sendDownstream setup i adu).2.pending = s.pending := by
    unfold sendDownstream
    split <;> rfl
  rw [waiting, hpending, sendDownstream_awaiting]
  rfl

lemma Dispatched.handled {i : Nat} (h : Dispatched setup s i request nowMs s')
    (hidle : s.channelIdle i = true)
    (hgone : s.findUpstream request.sessionIdx = none → loses request.toUpstreamRequest)
    (hunencodable : s.txnMap.entries.length < cap.txn →
      ¬FitsFrame setup.downstream.transportType request.pdu.rawBytes →
        loses request.toUpstreamRequest)
    (hoverflowed : s.txnMap.entries.length < cap.txn → deadline setup nowMs = .panic →
      loses request.toUpstreamRequest) :
    Handled loses [request.toUpstreamRequest] s s' := by
  cases h with
  | refused _ => exact handled_refuse s _ hgone
  | unencodable txnMap internalTxn halloc hfits =>
    refine .lost (hunencodable (TxnMap.length_lt_of_allocate halloc) hfits) ?_ rfl
    exact List.Perm.refl _
  | unsent txnMap internalTxn adu halloc =>
    have hsessions : ((({ s with txnMap } : GatewayServices cap υ δ).sendDownstream setup i
        adu).2.removeTxn internalTxn).sessions = s.sessions :=
      sessions_congr (sendDownstream_upstreams setup { s with txnMap } i adu)
    refine (handled_refuse _ _ fun hnone => hgone ?_).congr ?_ ?_
    · rw [← findUpstream_congr hsessions]
      exact hnone
    · refine List.Perm.of_eq (congrArg _ ?_)
      exact sendDownstream_waiting { s with txnMap } i adu
    · exact sendDownstream_replies setup { s with txnMap } i adu
  | overflowed txnMap internalTxn adu halloc hdeadline =>
    refine .lost (hoverflowed (TxnMap.length_lt_of_allocate halloc) hdeadline) ?_ ?_
    · rw [sendDownstream_waiting]
      exact List.Perm.refl _
    · rw [answered, sendDownstream_replies]
      rfl
  | sent txnMap internalTxn adu deadlineMs halloc =>
    have hidle' : (({ s with txnMap } : GatewayServices cap υ δ).sendDownstream setup i
        adu).2.channelIdle i = true := by
      rw [sendDownstream_channelIdle]
      exact hidle
    refine .waits ?_ ?_
    · refine (waiting_setState_perm hidle' internalTxn deadlineMs).trans ?_
      rw [sendDownstream_waiting]
      exact List.Perm.refl _
    · exact congrArg (List.map _) (sendDownstream_replies setup { s with txnMap } i adu)

lemma HandedOn.handled {dispatches : Nat → PendingRequest → Prop}
    (h : HandedOn setup dispatches s request nowMs s')
    (hgone : s.findUpstream request.sessionIdx = none → loses request.toUpstreamRequest)
    (hunencodable : ∀ i, dispatches i request → s.txnMap.entries.length < cap.txn →
      ¬FitsFrame setup.downstream.transportType request.pdu.rawBytes →
        loses request.toUpstreamRequest)
    (hoverflowed : ∀ i, dispatches i request → s.txnMap.entries.length < cap.txn →
      deadline setup nowMs = .panic → loses request.toUpstreamRequest) :
    Handled loses [request.toUpstreamRequest] s s' := by
  cases h with
  | refused upstream code _ haddresses =>
    refine .refused ?_ (answered_sendExceptionUpstream s code haddresses) hgone
    rw [waiting_sendExceptionUpstream]
    exact List.Perm.refl _
  | queued pending hpush =>
    refine .waits ?_ rfl
    have hpending : pending.toList = s.pending.toList ++ [request] :=
      HVec.extendFromSlice_eq_some.mp hpush
    unfold waiting
    dsimp only
    rw [hpending, List.map_append, List.append_assoc]
    exact List.perm_middle
  | dispatched i _ hdispatches hidle h =>
    exact h.handled hidle hgone (hunencodable i hdispatches) (hoverflowed i hdispatches)

/-- A request that is no longer in flight waits no more. -/
lemma waiting_perm_of_awaiting {internalTxn : UInt16} (hpending : s'.pending = s.pending)
    (h : ((internalTxn, request) :: s'.awaiting).Perm s.awaiting) :
    (request.toUpstreamRequest :: s'.waiting).Perm s.waiting := by
  have hawaiting := h.map (·.2.toUpstreamRequest)
  unfold waiting
  rw [hpending]
  exact List.perm_middle.symm.trans (hawaiting.append_left _)

lemma Waits.waiting_received {i : Nat} {channel received : DownstreamChannel δ}
    {internalTxn : UInt16} {deadlineMs : UInt64}
    (h : Waits setup s i channel received internalTxn deadlineMs request) :
    (s.modifyDownstream i fun _ => received).waiting.Perm s.waiting :=
  (h.awaiting_received.map (·.2.toUpstreamRequest)).append_left _

lemma handled_abandonRequest {i : Nat} {channel : DownstreamChannel δ} {internalTxn : UInt16}
    {deadlineMs : UInt64} (hi : s.downstreams.toList[i]? = some channel)
    (hstate : channel.state = .awaitingResponse internalTxn deadlineMs request)
    (hgone : s.findUpstream request.sessionIdx = none → loses request.toUpstreamRequest) :
    Handled loses [] s (s.abandonRequest setup i internalTxn request) := by
  have hpending : (s.abandonRequest setup i internalTxn request).pending = s.pending :=
    sendExceptionUpstream_pending (s.removeTxn internalTxn) request.toUpstreamRequest _ _
  have hawaiting := awaiting_perm_of_waiting hi hstate (fun _ => rfl)
    (abandonRequest_downstreams setup s i internalTxn request)
  refine .refused (waiting_perm_of_awaiting hpending hawaiting) ?_ hgone
  exact answered_refuse (s.removeTxn internalTxn) .gatewayPathUnavailable

lemma findUpstream_isSome_of_carriesBack {frame : List UInt8} {internalTxn : UInt16}
    {response : ModbusMessage} {entry : TxnEntry} {up : Nat}
    (h : CarriesBack setup s frame internalTxn request response entry up) :
    ∃ channel, s.upstreams.toList[up]? = some channel := by
  obtain ⟨channel, hup, _⟩ := findUpstream_eq_some h.2.2.2
  exact ⟨channel, hup⟩

variable (setup) in
lemma completeResponse_pending (s : GatewayServices cap υ δ) (i expectedLen : Nat)
    (channel : DownstreamChannel δ) (internalTxn : UInt16) (request : PendingRequest) :
    (s.completeResponse setup i expectedLen channel internalTxn request).2.pending =
      s.pending := by
  rcases completeResponse_cases setup s i expectedLen channel internalTxn request with
    ⟨h, _⟩ | ⟨response, entry, up, _, h⟩
  · rw [h]
    rfl
  · rw [h, sendReply_pending]
    rfl

lemma Polled.handled {i : Nat} (h : Polled setup s i nowMs s') :
    Handled (Loses setup (.pollDownstream i nowMs) s) [] s s' := by
  cases h with
  | untouched _ => exact .same rfl rfl rfl
  | expired channel received internalTxn deadlineMs request h =>
    exact handled_abandonRequest h.channel_eq h.state_eq fun hgone => .gone _ hgone
  | broken channel received internalTxn deadlineMs request h =>
    refine (handled_abandonRequest h.getElem?_received h.received_state fun hgone =>
      .gone _ hgone).congr ?_ rfl
    exact h.waiting_received
  | incomplete channel received internalTxn deadlineMs request h =>
    exact .waits h.waiting_received rfl
  | completed channel received internalTxn deadlineMs request expectedLen h hnow hgood hlen =>
    have hpending : (((s.modifyDownstream i fun _ => received).completeResponse setup i expectedLen
        received internalTxn request).2.setState i .idle).pending = s.pending :=
      completeResponse_pending setup _ i expectedLen received internalTxn request
    have hwaiting := waiting_perm_of_awaiting hpending (h.awaiting_completed expectedLen)
    rcases completeResponse_cases setup (s.modifyDownstream i fun _ => received) i expectedLen
        received internalTxn request with ⟨hdropped, hno⟩ | ⟨response, entry, up, hcarries, hsent⟩
    · refine .lost (.unreturned i nowMs channel received internalTxn deadlineMs request expectedLen
        rfl h hnow hgood hlen hno) hwaiting ?_
      rw [setState, modifyDownstream, hdropped]
      rfl
    · refine .answers hwaiting ?_
      rw [setState, modifyDownstream, hsent]
      obtain ⟨target, htarget⟩ := findUpstream_isSome_of_carriesBack hcarries
      exact answered_sendReply ((s.modifyDownstream i fun _ => received).takeResponse i expectedLen
        internalTxn) htarget _ _

end Steps

variable (setup) in
/-- The requests a step takes in. -/
def taken (action : GatewayAction υ δ) (s : GatewayServices cap υ δ) : List UpstreamRequest :=
  match action with
  | .upstreamRound up _ =>
    match (s.takeUpstreamFrame setup up).1 with
    | some (some request) => [request]
    | _ => []
  | _ => []

variable (setup) in
/-- After a step, what was in hand is answered, waits, or is lost. -/
theorem handled_perform (action : GatewayAction υ δ) (s : GatewayServices cap υ δ) :
    Handled (Loses setup action s) (taken setup action s) s (GatewayM.perform setup action s) := by
  cases action with
  | environment upstream downstream router =>
    refine .waits (List.Perm.of_eq ?_) rfl
    rw [GatewayM.perform, waiting, awaiting_environment]
    rfl
  | addUpstream transport =>
    rw [GatewayM.perform, addUpstream]
    split <;> exact .same rfl rfl rfl
  | addDownstream transport =>
    have hpending : (s.addDownstream transport).2.pending = s.pending := by
      unfold addDownstream
      split <;> rfl
    refine .waits (List.Perm.of_eq ?_) ?_
    · rw [GatewayM.perform, waiting, awaiting_addDownstream, hpending]
      rfl
    · rw [GatewayM.perform, addDownstream]
      split <;> rfl
  | pollDownstream i nowMs => exact (pollDownstream_cases s i nowMs).handled
  | serviceNext nowMs =>
    rcases serviceNext_cases setup s nowMs with ⟨_, hsame⟩ | ⟨request, pending, hpop, hon⟩
    · rw [hsame]
      exact .same rfl rfl rfl
    · have hwaiting : s.waiting =
          request.toUpstreamRequest :: ({ s with pending } : GatewayServices cap υ δ).waiting := by
        rw [waiting, HVec.popFront_eq_some.mp hpop]
        rfl
      have hhandled : Handled (Loses setup (.serviceNext nowMs) s) [request.toUpstreamRequest]
          { s with pending } (GatewayM.perform setup (.serviceNext nowMs) s) := by
        refine hon.handled (fun hgone => .gone _ hgone) (fun i hdispatches hlen hfits => ?_)
          fun i hdispatches hlen hdeadline => ?_
        · exact .unencodable request ⟨hlen, i, hdispatches⟩ hfits
        · exact .overflowed request nowMs ⟨hlen, i, hdispatches⟩ rfl hdeadline
      refine hhandled.congr ?_ rfl
      rw [hwaiting]
      exact List.Perm.refl _
  | receiveUpstream up =>
    rw [GatewayM.perform, receiveUpstream]
    split
    · exact .same rfl rfl rfl
    · dsimp only
      split <;> exact .same rfl rfl rfl
  | upstreamRound up nowMs =>
    have hrounded := upstreamRound_cases setup s up nowMs
    generalize GatewayM.perform setup (.upstreamRound up nowMs) s = s' at hrounded ⊢
    cases hrounded with
    | nothing htake =>
      rw [taken, htake]
      exact .same rfl rfl rfl
    | undecodable _ htake =>
      rw [taken, htake]
      exact .same rfl rfl rfl
    | accepted _ channel expectedLen request hup hfrom htake hon =>
      rw [taken, htake]
      have hgone : ((s.dropFrame up expectedLen).accept request).findUpstream request.sessionIdx =
          none → Loses setup (.upstreamRound up nowMs) s request := by
        intro hgone
        refine .gone request ?_
        rw [← findUpstream_congr (sessions_dropFrame s up expectedLen)]
        exact hgone
      refine (hon.handled hgone (fun i hdispatches hlen hfits => ?_)
        fun i hdispatches hlen hdeadline => ?_).congr (List.Perm.refl _) rfl
      · exact .unencodable ⟨request, s.router.rewrite request.unit⟩ ⟨hlen, i, hdispatches⟩ hfits
      · exact .overflowed ⟨request, s.router.rewrite request.unit⟩ nowMs
          ⟨hlen, i, hdispatches⟩ rfl hdeadline
  | removeSession sessionIdx => exact .same rfl rfl rfl

/-! ### The requests taken in -/

section Accepted

variable {s s' : GatewayServices cap υ δ} {request : PendingRequest} {nowMs : UInt64}

lemma sendDownstream_accepted (s : GatewayServices cap υ δ) (i : Nat) (adu : List UInt8) :
    (s.sendDownstream setup i adu).2.accepted = s.accepted := by
  unfold sendDownstream
  split <;> rfl

lemma Dispatched.accepted_eq {i : Nat} (h : Dispatched setup s i request nowMs s') :
    s'.accepted = s.accepted := by
  cases h with
  | refused _ => exact sendExceptionUpstream_accepted s request.toUpstreamRequest _ _
  | unencodable => rfl
  | unsent txnMap internalTxn adu _ =>
    rw [refuse, sendExceptionUpstream_accepted, removeTxn, sendDownstream_accepted]
  | overflowed txnMap internalTxn adu _ _ => rw [sendDownstream_accepted]
  | sent txnMap internalTxn adu deadlineMs _ =>
    rw [setState, modifyDownstream, sendDownstream_accepted]

lemma HandedOn.accepted_eq {dispatches : Nat → PendingRequest → Prop}
    (h : HandedOn setup dispatches s request nowMs s') : s'.accepted = s.accepted := by
  cases h with
  | refused upstream code _ _ =>
    exact sendExceptionUpstream_accepted s request.toUpstreamRequest upstream code
  | queued => rfl
  | dispatched _ _ _ _ h => exact h.accepted_eq

lemma Polled.accepted_eq {i : Nat} (h : Polled setup s i nowMs s') : s'.accepted = s.accepted := by
  cases h with
  | untouched _ => rfl
  | expired _ _ internalTxn _ request _ =>
    exact sendExceptionUpstream_accepted (s.removeTxn internalTxn) request.toUpstreamRequest _ _
  | broken _ received internalTxn _ request _ =>
    exact sendExceptionUpstream_accepted ((s.modifyDownstream i fun _ => received).removeTxn
      internalTxn) request.toUpstreamRequest _ _
  | incomplete => rfl
  | completed channel received internalTxn deadlineMs request expectedLen =>
    rcases completeResponse_cases setup (s.modifyDownstream i fun _ => received) i expectedLen
        received internalTxn request with ⟨h, _⟩ | ⟨response, entry, up, _, h⟩
    · rw [setState, modifyDownstream, h]
      rfl
    · rw [setState, modifyDownstream, h, sendReply_accepted]
      rfl

end Accepted

theorem accepted_perform (action : GatewayAction υ δ) (s : GatewayServices cap υ δ) :
    (GatewayM.perform setup action s).accepted = s.accepted ++ taken setup action s := by
  cases action with
  | environment => exact (List.append_nil _).symm
  | addUpstream transport =>
    rw [GatewayM.perform, addUpstream]
    split <;> exact (List.append_nil _).symm
  | addDownstream transport =>
    rw [GatewayM.perform, addDownstream]
    split <;> exact (List.append_nil _).symm
  | pollDownstream i nowMs =>
    exact (pollDownstream_cases s i nowMs).accepted_eq.trans (List.append_nil _).symm
  | serviceNext nowMs =>
    rcases serviceNext_cases setup s nowMs with ⟨_, hsame⟩ | ⟨request, pending, _, hon⟩
    · rw [hsame]
      exact (List.append_nil _).symm
    · exact hon.accepted_eq.trans (List.append_nil _).symm
  | receiveUpstream up =>
    rw [GatewayM.perform, receiveUpstream]
    split
    · exact (List.append_nil _).symm
    · dsimp only
      split <;> exact (List.append_nil _).symm
  | upstreamRound up nowMs =>
    have hrounded := upstreamRound_cases setup s up nowMs
    generalize GatewayM.perform setup (.upstreamRound up nowMs) s = s' at hrounded ⊢
    cases hrounded with
    | nothing htake =>
      rw [taken, htake]
      exact (List.append_nil _).symm
    | undecodable _ htake =>
      rw [taken, htake]
      exact (List.append_nil _).symm
    | accepted _ _ _ _ _ _ htake hon =>
      rw [taken, htake]
      exact hon.accepted_eq
  | removeSession sessionIdx => exact (List.append_nil _).symm

/-- What is taken in carries the next number and the identity of a connected upstream. -/
lemma mem_taken {action : GatewayAction υ δ} {s : GatewayServices cap υ δ}
    {request : UpstreamRequest} (h : request ∈ taken setup action s) :
    taken setup action s = [request] ∧ request.id = s.accepted.length ∧
      (request.sessionIdx, request.connection) ∈ s.sessions := by
  unfold taken at h ⊢
  cases action with
  | upstreamRound up nowMs =>
    dsimp only at h ⊢
    rcases takeUpstreamFrame_cases setup s up with htake |
      ⟨channel, expectedLen, hup, htake | ⟨request', hfrom, htake⟩⟩
    · rw [htake] at h
      cases h
    · rw [htake] at h
      cases h
    · rw [htake] at h ⊢
      cases List.mem_singleton.mp h
      refine ⟨rfl, hfrom.id_eq, ?_⟩
      rw [hfrom.sessionIdx_eq, hfrom.connection_eq]
      exact mem_sessions hup
  | _ => cases h

lemma InHand.mem {action : GatewayAction υ δ} {s : GatewayServices cap υ δ}
    {request : UpstreamRequest} (h : InHand setup action s request) :
    request ∈ taken setup action s ∨ request ∈ s.waiting := by
  rcases h with h | ⟨up, nowMs, rfl, htake⟩
  · exact Or.inr h
  · refine Or.inl ?_
    rw [taken, htake]
    exact List.mem_singleton_self request

/-- A step makes nothing wait but what it had in hand. -/
lemma Handled.mem_waiting {loses : UpstreamRequest → Prop} {hand : List UpstreamRequest}
    {s s' : GatewayServices cap υ δ} (h : Handled loses hand s s') {request : UpstreamRequest}
    (hmem : request ∈ s'.waiting) : request ∈ hand ∨ request ∈ s.waiting := by
  obtain ⟨lost, done, hperm, _, _⟩ := h
  rw [← List.mem_append]
  exact hperm.subset (List.mem_append_right _ (List.mem_append_right _ hmem))

end ModbusRs.Gateway.GatewayServices
