import ModbusRs.Gateway.Bookkeeping

/-!
# Responses and the requests they are delivered to

The gateway delivers whatever complete frame it finds on a waiting channel. It looks neither at
the transaction id nor at the address, it leaves bytes behind a frame in the buffer for the next
request, and it does not read while a channel is idle, so that a late response is read by the
next request. The responses go where they belong as long as the device answers in time, with one
frame for each request and nothing else.
-/

namespace ModbusRs.Gateway

open Outcome

/-- The frame answers a request that went out under an internal id and to a unit. -/
def Answers (downstreamType : TransportType) (frame : List UInt8) (internalTxn : UInt16)
    (downstreamUnit : UnitIdOrSlaveAddr) : Prop :=
  if downstreamType.isTcpType then wireTxnId downstreamType frame = internalTxn
  else wireUnit downstreamType frame = downstreamUnit.get

instance (downstreamType : TransportType) (frame : List UInt8) (internalTxn : UInt16)
    (downstreamUnit : UnitIdOrSlaveAddr) :
    Decidable (Answers downstreamType frame internalTxn downstreamUnit) :=
  inferInstanceAs (Decidable (ite _ _ _))

/-- A response that belongs to the request it is delivered to: the frame answers the request as
it was sent, all its bytes are meant for the request, and it goes back under the request's
transaction id. -/
structure OwnResponse (downstreamType : TransportType) (request : UpstreamRequest)
    (delivery : Delivery) : Prop where
  answers : Answers downstreamType delivery.frame delivery.internalTxn delivery.downstreamUnit
  origins_length : delivery.origins.length = delivery.frame.length
  origin : ∀ origin ∈ delivery.origins, origin = some request.id
  upstreamTxn : delivery.upstreamTxn = request.upstreamTxn

namespace GatewayServices

variable [Features] {cap : Capacity} {υ δ : Type} (setup : GatewaySetup υ δ)

/-- What a waiting channel receives is meant for its request, and a frame that completes is all
there is in the buffer and answers the request, if it decodes. -/
def ReceivesAnswer (channel : DownstreamChannel δ) (internalTxn : UInt16)
    (request : PendingRequest) : Prop :=
  (match (channel.link.recv setup.downstream).1 with
    | .ok bytes => bytes.toList = [] ∨ setup.origin channel.link.state = some request.id
    | .error _ => True) ∧
  let received := (receiveDownstream setup channel).2
  match completeLength setup.downstream.transportType received.rxbuf with
  | none => True
  | some expectedLen => expectedLen = received.rxbuf.length ∧
    match decompileAduFrame (received.rxbuf.toList.take expectedLen)
        setup.downstream.transportType with
    | .ok _ => Answers setup.downstream.transportType
        (received.rxbuf.toList.take expectedLen) internalTxn request.downstreamUnit
    | _ => True

instance (channel : DownstreamChannel δ) (internalTxn : UInt16) (request : PendingRequest) :
    Decidable (ReceivesAnswer setup channel internalTxn request) := by
  unfold ReceivesAnswer
  refine @instDecidableAnd _ _ ?_ ?_
  · split <;> infer_instance
  · dsimp only
    split
    · infer_instance
    · refine @instDecidableAnd _ _ inferInstance ?_
      split <;> infer_instance

/-- If the channel waits and reads, it receives an answer to its request. -/
def HearsAnswer (s : GatewayServices cap υ δ) (i : Nat) (nowMs : UInt64) : Prop :=
  match s.downstreams.toList[i]? with
  | none => True
  | some channel =>
    match channel.state with
    | .idle => True
    | .awaitingResponse internalTxn deadlineMs request =>
      deadlineMs ≤ nowMs ∨ (receiveDownstream setup channel).1 = false ∨
        ReceivesAnswer setup channel internalTxn request

instance (s : GatewayServices cap υ δ) (i : Nat) (nowMs : UInt64) :
    Decidable (s.HearsAnswer setup i nowMs) := by
  unfold HearsAnswer
  split
  · infer_instance
  · split <;> infer_instance

/-- The device answers each request in time with one frame, and internal ids are given out only
when they are not in use. -/
def AnsweredInTime (action : GatewayAction υ δ) (s : GatewayServices cap υ δ) : Prop :=
  (∀ request, Numbers setup action s request → FreshId s.awaiting s.txnMap) ∧
    match action with
    | .pollDownstream i nowMs => s.HearsAnswer setup i nowMs
    | _ => True

variable {setup}

lemma AnsweredInTime.pollDownstream {s : GatewayServices cap υ δ} {i : Nat} {nowMs : UInt64}
    (hfresh : FreshId s.awaiting s.txnMap) (h : s.HearsAnswer setup i nowMs) :
    AnsweredInTime setup (.pollDownstream i nowMs) s :=
  ⟨fun _ _ => hfresh, h⟩

/-- A channel whose buffer holds nothing but what is meant for the request it waits for. -/
structure Clean (channel : DownstreamChannel δ) : Prop where
  length : channel.origins.length = channel.rxbuf.toList.length
  idle : channel.state = .idle → channel.rxbuf.toList = []
  own : ∀ internalTxn deadlineMs request,
    channel.state = .awaitingResponse internalTxn deadlineMs request →
      ∀ origin ∈ channel.origins, origin = some request.id

lemma ReceivesAnswer.of_hears {s : GatewayServices cap υ δ} {i : Nat} {nowMs : UInt64}
    {channel received : DownstreamChannel δ} {internalTxn : UInt16} {deadlineMs : UInt64}
    {request : PendingRequest} (h : s.HearsAnswer setup i nowMs)
    (hwaits : Waits setup s i channel received internalTxn deadlineMs request)
    (hnow : ¬deadlineMs ≤ nowMs) (hgood : (receiveDownstream setup channel).1 = true) :
    ReceivesAnswer setup channel internalTxn request := by
  unfold HearsAnswer at h
  rw [hwaits.channel_eq] at h
  dsimp only at h
  rw [hwaits.state_eq] at h
  rcases h with h | h | h
  · exact absurd h hnow
  · rw [hgood] at h
    cases h
  · exact h

/-- What arrives for the request keeps the channel clean. -/
lemma Clean.receive {channel : DownstreamChannel δ} {internalTxn : UInt16} {deadlineMs : UInt64}
    {request : PendingRequest} (h : Clean channel)
    (hstate : channel.state = .awaitingResponse internalTxn deadlineMs request)
    (hanswer : ReceivesAnswer setup channel internalTxn request) :
    Clean (receiveDownstream setup channel).2 := by
  obtain ⟨horigin, _⟩ := hanswer
  have hown := h.own internalTxn deadlineMs request hstate
  have hclean : ∀ (link : Link δ) (rxbuf : HVec UInt8 maxAduFrameLen) (origins : List (Option Nat)),
      origins.length = rxbuf.toList.length → (∀ origin ∈ origins, origin = some request.id) →
      Clean { channel with link, rxbuf, origins } := by
    intro link rxbuf origins hlen horigins
    refine ⟨hlen, fun hidle => ?_, fun internalTxn' deadlineMs' request' hstate' => ?_⟩
    · have hidle : channel.state = .idle := hidle
      rw [hstate] at hidle
      cases hidle
    · have hstate' : channel.state = .awaitingResponse internalTxn' deadlineMs' request' := hstate'
      rw [hstate] at hstate'
      cases hstate'
      exact horigins
  unfold receiveDownstream
  dsimp only
  split
  next bytes hbytes =>
    rw [hbytes] at horigin
    split
    next rxbuf hrxbuf =>
      refine hclean _ rxbuf _ ?_ fun origin hmem => ?_
      · rw [HVec.extendFromSlice_eq_some.mp hrxbuf, List.length_append, List.length_append,
          List.length_replicate, h.length]
        rfl
      · rcases List.mem_append.mp hmem with hmem | hmem
        · exact hown origin hmem
        · obtain ⟨hne, rfl⟩ := List.mem_replicate.mp hmem
          rcases horigin with hnil | horigin
          · exact absurd (congrArg List.length hnil) hne
          · exact horigin
    next => exact hclean _ .empty [] rfl (by simp)
  next => exact hclean _ channel.rxbuf channel.origins h.length hown
  next => exact hclean _ channel.rxbuf channel.origins h.length hown

/-- All channels are clean. -/
def AllClean (s : GatewayServices cap υ δ) : Prop :=
  ∀ channel ∈ s.downstreams.toList, Clean channel

lemma Clean.cleared (channel : DownstreamChannel δ) :
    Clean { channel with rxbuf := .empty, origins := [], state := .idle } :=
  ⟨rfl, fun _ => rfl, fun _ _ _ h => by cases h⟩

section Steps

variable {s s' : GatewayServices cap υ δ} {i : Nat} {request : PendingRequest} {nowMs : UInt64}

lemma AllClean.of_downstreams (h : s.AllClean) (hs' : s'.downstreams = s.downstreams) :
    s'.AllClean := by
  unfold AllClean
  rw [hs']
  exact h

lemma AllClean.modify (h : s.AllClean) {f : DownstreamChannel δ → DownstreamChannel δ}
    (hf : ∀ channel, s.downstreams.toList[i]? = some channel → Clean (f channel)) :
    (s.modifyDownstream i f).AllClean :=
  List.forall_mem_modify h hf

lemma AllClean.sendDownstream (h : s.AllClean) (adu : List UInt8) :
    (s.sendDownstream setup i adu).2.AllClean := by
  unfold GatewayServices.sendDownstream
  split
  next => exact h
  next channel _ =>
    refine h.modify fun channel' hi => ?_
    have hclean := h channel' (List.mem_of_getElem? hi)
    exact ⟨hclean.length, hclean.idle, hclean.own⟩

/-- A request is sent down on an idle channel, whose buffer is empty. -/
lemma AllClean.dispatched (h : s.AllClean) (hidle : s.channelIdle i = true)
    (hdispatched : Dispatched setup s i request nowMs s') : s'.AllClean := by
  cases hdispatched with
  | refused _ => exact h.of_downstreams (sendExceptionUpstream_downstreams _ _ _ _)
  | unencodable => exact h
  | unsent txnMap internalTxn adu _ =>
    have hsent : ({ s with txnMap } : GatewayServices cap υ δ).AllClean := h
    exact (hsent.sendDownstream adu).of_downstreams (sendExceptionUpstream_downstreams _ _ _ _)
  | overflowed txnMap internalTxn adu _ _ =>
    have hsent : ({ s with txnMap } : GatewayServices cap υ δ).AllClean := h
    exact hsent.sendDownstream adu
  | sent txnMap internalTxn adu deadlineMs _ =>
    have hsent : ({ s with txnMap } : GatewayServices cap υ δ).AllClean := h
    refine (hsent.sendDownstream adu).modify fun channel hi => ?_
    have hclean := hsent.sendDownstream adu channel (List.mem_of_getElem? hi)
    have hstate : channel.state = .idle := by
      obtain ⟨channel', hi', hstate'⟩ := channelIdle_iff.mp
        ((sendDownstream_channelIdle setup { s with txnMap } i i adu).trans hidle)
      rw [hi] at hi'
      cases hi'
      exact hstate'
    have hempty : channel.origins = [] := by
      apply List.eq_nil_of_length_eq_zero
      rw [hclean.length, hclean.idle hstate]
      rfl
    refine ⟨hclean.length, (fun h => by cases h), fun _ _ _ _ origin hmem => ?_⟩
    have hmem : origin ∈ channel.origins := hmem
    rw [hempty] at hmem
    cases hmem

lemma AllClean.handedOn {dispatches : Nat → PendingRequest → Prop} (h : s.AllClean)
    (hon : HandedOn setup dispatches s request nowMs s') : s'.AllClean := by
  cases hon with
  | refused _ _ _ => exact h.of_downstreams (sendExceptionUpstream_downstreams _ _ _ _)
  | queued => exact h
  | dispatched i _ _ hidle hdispatched => exact h.dispatched hidle hdispatched

lemma AllClean.abandonRequest (h : s.AllClean) (internalTxn : UInt16) (request : PendingRequest) :
    (s.abandonRequest setup i internalTxn request).AllClean := by
  refine AllClean.of_downstreams (AllClean.modify h (i := i) fun channel _ => ?_)
    (abandonRequest_downstreams setup s i internalTxn request)
  exact Clean.cleared channel

lemma modifyDownstream_modifyDownstream (s : GatewayServices cap υ δ) (i : Nat)
    (f g : DownstreamChannel δ → DownstreamChannel δ) :
    ((s.modifyDownstream i f).modifyDownstream i g).downstreams =
      (s.modifyDownstream i (g ∘ f)).downstreams :=
  HVec.ext (List.modify_modify_eq f g i _)

/-- A channel that hears an answer stays clean. -/
lemma AllClean.polled (h : s.AllClean) (hhears : s.HearsAnswer setup i nowMs)
    (hpolled : Polled setup s i nowMs s') : s'.AllClean := by
  cases hpolled with
  | untouched _ => exact h
  | expired _ _ internalTxn _ request _ => exact h.abandonRequest internalTxn request
  | broken channel received internalTxn _ request hwaits =>
    refine AllClean.of_downstreams (AllClean.modify h (i := i) fun _ _ => Clean.cleared received) ?_
    rw [abandonRequest_downstreams, modifyDownstream_modifyDownstream]
    rfl
  | incomplete channel received internalTxn deadlineMs request hwaits hnow hgood =>
    have hanswer := ReceivesAnswer.of_hears hhears hwaits hnow hgood
    refine h.modify fun _ _ => ?_
    rw [hwaits.received_eq]
    exact (h channel (List.mem_of_getElem? hwaits.channel_eq)).receive hwaits.state_eq hanswer
  | completed channel received internalTxn deadlineMs request expectedLen hwaits hnow hgood hlen =>
    have hanswer := ReceivesAnswer.of_hears hhears hwaits hnow hgood
    have hclean := (h channel (List.mem_of_getElem? hwaits.channel_eq)).receive hwaits.state_eq
      hanswer
    rw [← hwaits.received_eq] at hclean
    obtain ⟨_, hall⟩ := hanswer
    rw [← hwaits.received_eq] at hall
    dsimp only at hall
    rw [hlen] at hall
    obtain ⟨hlength, _⟩ := hall
    have hafter : Clean { received with
        rxbuf := received.rxbuf.dropFirst expectedLen
        origins := received.origins.drop expectedLen
        state := .idle } := by
      refine ⟨?_, fun _ => ?_, fun _ _ _ hstate => by cases hstate⟩
      · rw [List.length_drop, hclean.length, HVec.dropFirst_toList, List.length_drop]
      · rw [HVec.dropFirst_toList, hlength]
        exact List.drop_length
    refine AllClean.of_downstreams (AllClean.modify h (i := i) fun _ _ => hafter) ?_
    rw [setState, modifyDownstream, completeResponse_downstreams]
    refine HVec.ext ?_
    change ((s.downstreams.toList.modify i _).modify i _).modify i _ = s.downstreams.toList.modify i _
    rw [List.modify_modify_eq, List.modify_modify_eq]
    rfl

end Steps

/-- Channels stay clean as long as they hear answers. -/
lemma AllClean.perform {action : GatewayAction υ δ} {s : GatewayServices cap υ δ}
    (h : s.AllClean) (haction : AnsweredInTime setup action s) :
    (GatewayM.perform setup action s).AllClean := by
  cases action with
  | environment upstream downstream router =>
    intro channel hmem
    rw [GatewayM.perform, GatewayM.environment] at hmem
    obtain ⟨i, hi, rfl⟩ := List.mem_mapIdx.mp hmem
    have hclean := h _ (List.getElem_mem hi)
    exact ⟨hclean.length, hclean.idle, hclean.own⟩
  | addUpstream transport =>
    rw [GatewayM.perform, addUpstream]
    split <;> exact h
  | addDownstream transport =>
    rw [GatewayM.perform, addDownstream]
    split
    next downstreams hpush =>
      intro channel hmem
      have hmem : channel ∈ downstreams.toList := hmem
      rw [HVec.extendFromSlice_eq_some.mp hpush, List.mem_append, List.mem_singleton] at hmem
      rcases hmem with hmem | rfl
      · exact h channel hmem
      · exact ⟨rfl, fun _ => rfl, fun _ _ _ hstate => by cases hstate⟩
    next => exact h
  | pollDownstream i nowMs => exact h.polled haction.2 (pollDownstream_cases s i nowMs)
  | serviceNext nowMs =>
    rcases serviceNext_cases setup s nowMs with ⟨_, hsame⟩ | ⟨request, pending, _, hon⟩
    · rw [hsame]
      exact h
    · have hpopped : ({ s with pending } : GatewayServices cap υ δ).AllClean := h
      exact hpopped.handedOn hon
  | receiveUpstream up =>
    rw [GatewayM.perform, receiveUpstream]
    split
    · exact h
    · dsimp only
      split <;> exact h
  | upstreamRound up nowMs =>
    have hrounded := upstreamRound_cases setup s up nowMs
    generalize GatewayM.perform setup (.upstreamRound up nowMs) s = s' at hrounded ⊢
    cases hrounded with
    | nothing _ => exact h
    | undecodable _ _ => exact h
    | accepted _ _ expectedLen request _ _ _ hon =>
      have htaken : ((s.dropFrame up expectedLen).accept request).AllClean := h
      exact htaken.handedOn hon
  | removeSession sessionIdx => exact h

/-- What is delivered on a clean channel that hears an answer belongs to its request. -/
lemma Delivers.ownResponse {s : GatewayServices cap υ δ} {i : Nat} {nowMs : UInt64}
    {reply : Reply} (hdelivers : Delivers setup s i nowMs reply) (hclean : s.AllClean)
    (hnumbered : Numbered s.awaiting s.txnMap) (hhears : s.HearsAnswer setup i nowMs)
    {delivery : Delivery} (h : reply.delivery = some delivery) :
    OwnResponse setup.downstream.transportType reply.request delivery := by
  cases hdelivers with
  | intro channel received internalTxn deadlineMs request expectedLen response entry up sessionId
      hwaits hnow hgood hlen hcarries =>
    cases h
    have hanswer := ReceivesAnswer.of_hears hhears hwaits hnow hgood
    have hreceived := (hclean channel (List.mem_of_getElem? hwaits.channel_eq)).receive
      hwaits.state_eq hanswer
    rw [← hwaits.received_eq] at hreceived
    obtain ⟨hdecode, hentry, _⟩ := hcarries
    constructor
    · obtain ⟨_, hall⟩ := hanswer
      rw [← hwaits.received_eq] at hall
      dsimp only at hall
      rw [hlen] at hall
      have hall := hall.2
      rw [hdecode] at hall
      exact hall
    · dsimp only
      rw [List.length_take, List.length_take, hreceived.length]
    · intro origin hmem
      exact hreceived.own internalTxn deadlineMs request hwaits.received_state origin
        (List.mem_of_mem_take hmem)
    · obtain ⟨hmem, hid⟩ := TxnMap.remove_entry hentry
      exact (hnumbered.entry _ hwaits.mem_awaiting entry hmem hid).1

/-- In every run in which the device answers each request in time with one frame, every
response belongs to the request it is delivered to. -/
theorem ownResponse_of_answeredInTime {router : Router} {s : GatewayServices cap υ δ}
    (h : Runs.RunWhen (AnsweredInTime setup) (GatewayM.perform setup) (.new router) s) :
    ∀ reply ∈ s.replies, ∀ delivery, reply.delivery = some delivery →
      OwnResponse setup.downstream.transportType reply.request delivery := by
  have hinv : s.AllClean ∧ Numbered s.awaiting s.txnMap ∧
      ∀ reply ∈ s.replies, ∀ delivery, reply.delivery = some delivery →
        OwnResponse setup.downstream.transportType reply.request delivery := by
    refine h.invariant (P := fun s => s.AllClean ∧ Numbered s.awaiting s.txnMap ∧
      ∀ reply ∈ s.replies, ∀ delivery, reply.delivery = some delivery →
        OwnResponse setup.downstream.transportType reply.request delivery) ?_ ?_
    · rintro action s haction ⟨hclean, hnumbered, hown⟩
      refine ⟨hclean.perform haction,
        (booked_perform setup action s).numbered haction.1 hnumbered, fun reply hreply => ?_⟩
      rcases mem_replies_perform hreply with hold | ⟨_, _, hrefused⟩ | ⟨i, nowMs, rfl, hdelivers⟩
      · exact hown reply hold
      · intro delivery hdelivery
        rw [hrefused.delivery_eq] at hdelivery
        cases hdelivery
      · intro delivery hdelivery
        exact hdelivers.ownResponse hclean hnumbered haction.2 hdelivery
    · refine ⟨fun _ hmem => ?_, ⟨List.nodup_nil, fun _ hmem => ?_⟩, fun _ hmem => ?_⟩ <;> cases hmem
  exact hinv.2.2

omit [Features] in
/-- A device that answers once. -/
theorem ownResponse_afterRead :
    letI := Features.minimal
    (afterRead (valueFrame 0)).replies.length = 1 ∧
      ∀ reply ∈ (afterRead (valueFrame 0)).replies, ∀ delivery, reply.delivery = some delivery →
        OwnResponse .stdTcp reply.request delivery := by
  let _ := Features.minimal
  have hmeets : Runs.Meets (AnsweredInTime (arrivingSetup .stdTcp .stdTcp))
      (GatewayM.perform (arrivingSetup .stdTcp .stdTcp)) (answeredRead (valueFrame 0))
      (.new .passthrough : GatewayServices ⟨1, 1, 1, 0⟩ (List UInt8) (List UInt8)) := by
    refine ⟨⟨fun _ _ => ?_, trivial⟩, ⟨fun _ _ => ?_, trivial⟩, ⟨fun _ _ => ?_, trivial⟩,
      ⟨fun _ _ => ?_, trivial⟩, .pollDownstream ?_ ?_, trivial⟩
    all_goals decide +kernel
  exact ⟨by decide +kernel, ownResponse_of_answeredInTime (Runs.RunWhen.foldl hmeets)⟩

/-- The device answers the first request after the deadline, when the second one is out. -/
def answeredLate : GatewayServices ⟨1, 1, 1, 0⟩ (List UInt8) (List UInt8) :=
  let setup := arrivingSetup .stdTcp .stdTcp
  let s := GatewayM.perform setup (.addDownstream [])
    (GatewayM.perform setup (.addUpstream (readFrame 1)) (.new .passthrough))
  let s := ((GatewayM.poll setup 0).run s).2
  let s := GatewayM.perform setup (.environment (fun _ _ => readFrame 2) (fun _ x => x) .passthrough) s
  let s := ((GatewayM.poll setup 1000).run s).2
  let s := GatewayM.perform setup (.environment (fun _ x => x) (fun _ _ => valueFrame 0) .passthrough) s
  ((GatewayM.poll setup 1001).run s).2

lemma reachable_answeredLate :
    GatewayM.Reachable (arrivingSetup .stdTcp .stdTcp) answeredLate :=
  .poll (.perform (.poll (.perform (.poll (.perform (.perform (.new _) _) _) _) _) _) _) _

omit [Features] in
/-- The second request is given the answer to the first. -/
theorem answeredLate_not_ownResponse :
    ¬∀ [Features] (setup : GatewaySetup (List UInt8) (List UInt8))
      (s : GatewayServices ⟨1, 1, 1, 0⟩ (List UInt8) (List UInt8)),
      GatewayM.Reachable setup s →
      ∀ reply ∈ s.replies, ∀ delivery, reply.delivery = some delivery →
        OwnResponse setup.downstream.transportType reply.request delivery := by
  intro h
  let _ := Features.minimal
  have hforeign : answeredLate.replies.any (fun reply => match reply.delivery with
      | some delivery => !decide (Answers .stdTcp delivery.frame delivery.internalTxn
          delivery.downstreamUnit)
      | none => false) = true := by
    decide +kernel
  obtain ⟨reply, hreply, hforeign⟩ := List.any_eq_true.mp hforeign
  cases hdelivery : reply.delivery with
  | none =>
    rw [hdelivery] at hforeign
    cases hforeign
  | some delivery =>
    rw [hdelivery] at hforeign
    have hown := h (arrivingSetup .stdTcp .stdTcp) _ reachable_answeredLate reply hreply delivery
      hdelivery
    exact of_decide_eq_false ((Bool.not_eq_true' _).mp hforeign) hown.answers

end GatewayServices

end ModbusRs.Gateway
