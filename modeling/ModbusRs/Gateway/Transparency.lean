import ModbusRs.Gateway.AsyncSession

/-!
# Responses on their way back

A gateway is transparent when the client reads the PDU that the device wrote, under the
transaction id and the unit id of the request. Decoding takes the exception bit off the
function code and encoding does not put it back, and unit ids above 247 come back as 255.
-/

namespace ModbusRs.Gateway

open Outcome

/-- The client reads what the device wrote. -/
def Transparent (downstreamType upstreamType : TransportType)
    (requestFrame responseFrame adu : List UInt8) : Prop :=
  wirePdu upstreamType adu = wirePdu downstreamType responseFrame ∧
    wireTxnId upstreamType adu = wireTxnId upstreamType requestFrame ∧
    wireUnit upstreamType adu = wireUnit upstreamType requestFrame

/-- The response is no exception, and the address of the request is one the gateway keeps. -/
def PassesThrough (downstreamType upstreamType : TransportType)
    (requestFrame responseFrame : List UInt8) : Prop :=
  isExceptionCode ((wirePdu downstreamType responseFrame).headD 0) = false ∧
    (wireUnit upstreamType requestFrame ≤ 247 ∨ wireUnit upstreamType requestFrame = 255)

/-- The transaction id put on a frame is the one of the request, where frames carry one. -/
def KeepsTxnId (upstreamType : TransportType) (requestFrame : List UInt8) (txnId : UInt16) :
    Prop :=
  upstreamType.isTcpType = true → txnId = wireTxnId upstreamType requestFrame

lemma clearExceptionBit_ne {b : UInt8} (h : isExceptionCode b = true) :
    clearExceptionBit b ≠ b := by
  revert h
  exact FunctionCode.forall_byte
    (P := fun b => isExceptionCode b = true → clearExceptionBit b ≠ b) (by decide +kernel) b

/-- The bytes of a decoded PDU are the ones it was decoded from, unless it was an exception. -/
lemma rawBytes_eq_iff {bytes : List UInt8} {p : Pdu} (h : Pdu.fromBytes bytes = .ok p) :
    p.rawBytes = bytes ↔ isExceptionCode (bytes.headD 0) = false := by
  obtain ⟨b, rfl, _, hfc, _⟩ := Pdu.fromBytes_eq_ok h
  rw [Pdu.rawBytes, hfc, List.headD_cons, List.cons.injEq, and_iff_left rfl]
  constructor
  · intro heq
    cases hb : isExceptionCode b with
    | false => rfl
    | true => exact absurd heq (clearExceptionBit_ne hb)
  · exact Pdu.isExceptionCode_of_plain

/-- A response encoded for the upstream under some transaction id. -/
theorem transparent_iff (request : DecodedRequest) {downstreamType : TransportType}
    {responseFrame : List UInt8} {response : ModbusMessage}
    (h : decompileAduFrame responseFrame downstreamType = .ok response) (txnId : UInt16) :
    Transparent downstreamType request.upstreamType request.frame responseFrame
        (frameBytes request.upstreamType txnId request.unit.get response.pdu.rawBytes) ↔
      PassesThrough downstreamType request.upstreamType request.frame responseFrame ∧
        KeepsTxnId request.upstreamType request.frame txnId := by
  obtain ⟨_, _, _, hpdu⟩ := decompileAduFrame_eq_ok h
  have hlen := rawBytes_length_le response.pdu
  have htxn : (if request.upstreamType.isTcpType = true then txnId else 0) =
      wireTxnId request.upstreamType request.frame ↔
        KeepsTxnId request.upstreamType request.frame txnId := by
    unfold KeepsTxnId
    cases htcp : request.upstreamType.isTcpType with
    | true => simp
    | false => simp [wireTxnId, htcp]
  have hunit : request.unit.get = wireUnit request.upstreamType request.frame ↔
      wireUnit request.upstreamType request.frame ≤ 247 ∨
        wireUnit request.upstreamType request.frame = 255 := by
    rw [request.unit_get]
    by_cases hle : wireUnit request.upstreamType request.frame ≤ 247
    · simp [hle]
    · simp [hle, eq_comm]
  unfold Transparent PassesThrough
  rw [wirePdu_frameBytes _ _ _ hlen, wireTxnId_frameBytes, wireUnit_frameBytes _ _ _ hlen,
    rawBytes_eq_iff hpdu, htxn, hunit, and_comm (a := KeepsTxnId _ _ _), and_assoc]

namespace GatewayServices

variable [Features] {cap : Capacity} {υ δ : Type} {setup : GatewaySetup υ δ}

variable (setup) in
/-- What a reply carries back is what a downstream frame decoded to. -/
def Carries (reply : Reply) : Prop :=
  ∀ delivery, reply.delivery = some delivery →
    ∃ response, decompileAduFrame delivery.frame setup.downstream.transportType = .ok response ∧
      reply.adu = frameBytes reply.request.upstreamType delivery.upstreamTxn
        reply.request.unit.get response.pdu.rawBytes

lemma carries_of_reachable {s : GatewayServices cap υ δ} (h : GatewayM.Reachable setup s) :
    ∀ reply ∈ s.replies, Carries setup reply := by
  refine Runs.Reachable.invariant (P := fun s => ∀ reply ∈ s.replies, Carries setup reply)
    h ?_ ?_
  · rintro _ ⟨router, rfl⟩ reply hreply
    cases hreply
  · intro action s ih reply hreply delivery hdelivery
    rcases mem_replies_perform hreply with hold | ⟨_, _, hrefused⟩ | ⟨i, nowMs, rfl, hdelivers⟩
    · exact ih reply hold delivery hdelivery
    · rw [hrefused.delivery_eq] at hdelivery
      cases hdelivery
    · cases hdelivers with
      | intro _ _ _ _ _ _ response _ _ _ _ _ _ _ hcarries _ =>
        cases hdelivery
        exact ⟨response, hcarries.1, rfl⟩

end GatewayServices

namespace AsyncGateway

variable [Features] {υ δ : Type} {setup : AsyncGatewaySetup υ δ}

variable (setup) in
/-- What a reply carries back is what a downstream frame decoded to, under the transaction id
of the request. -/
def Carries (reply : AsyncReply) : Prop :=
  ∀ responseFrame, reply.delivery = some responseFrame →
    ∃ response, decompileAduFrame responseFrame setup.downstreamType = .ok response ∧
      reply.adu = frameBytes reply.request.upstreamType reply.request.upstreamTxn
        reply.request.unit.get response.pdu.rawBytes

variable (setup) in
/-- Whatever replies are added carry back what a downstream frame decoded to. -/
def Faithful (s s' : AsyncGateway υ δ) : Prop :=
  ∀ reply ∈ s'.replies, reply ∈ s.replies ∨ Carries setup reply

lemma Faithful.refl (s : AsyncGateway υ δ) : Faithful setup s s := fun _ h => Or.inl h

lemma Faithful.trans {s s' s'' : AsyncGateway υ δ} (h : Faithful setup s s')
    (h' : Faithful setup s' s'') : Faithful setup s s'' := by
  intro reply hreply
  rcases h' reply hreply with hreply | hreply
  · exact h reply hreply
  · exact Or.inr hreply

lemma faithful_sendReply {s : AsyncGateway υ δ} {i : Nat} {request : DecodedRequest}
    {adu : List UInt8} {delivery : Option (List UInt8)}
    (h : ∀ session, Carries setup ⟨session, request, adu, delivery⟩) :
    Faithful setup s (s.sendReply setup i request adu delivery).2 := by
  intro reply hreply
  unfold sendReply at hreply
  split at hreply
  next => exact Or.inl hreply
  next =>
    rw [List.mem_append, List.mem_singleton] at hreply
    refine hreply.imp_right ?_
    rintro rfl
    exact h i

lemma faithful_sendAsyncException (s : AsyncGateway υ δ) (i : Nat) (request : DecodedRequest)
    (code : ExceptionCode) : Faithful setup s (s.sendAsyncException setup i request code) := by
  unfold sendAsyncException
  split
  · exact .refl s
  · split
    · exact faithful_sendReply fun session responseFrame h => by cases h
    · exact .refl s

lemma faithful_returnResponse (s : AsyncGateway υ δ) (i : Nat) (request : DecodedRequest)
    (responseBytes : List UInt8) :
    Faithful setup s (s.returnResponse setup i request responseBytes) := by
  unfold returnResponse
  cases hdecode : decompileAduFrame responseBytes setup.downstreamType with
  | panic => exact .refl s
  | err e => exact .refl s
  | ok response =>
    dsimp only
    cases hadu : compileAduFrame request.upstreamTxn request.unit.get response.pdu
        request.upstreamType with
    | error e => exact .refl s
    | ok adu =>
      have hsend : Faithful setup s
          (s.sendReply setup i request adu.toList (some responseBytes)).2 := by
        refine faithful_sendReply fun session responseFrame h => ?_
        cases h
        exact ⟨response, hdecode, (compileAduFrame_eq_ok hadu).2⟩
      dsimp only
      split
      · exact hsend
      · exact hsend.trans (.refl _)

lemma exchange_replies (s : AsyncGateway υ δ) (channelIdx : Nat) (adu : List UInt8) :
    (s.exchange setup channelIdx adu).2.replies = s.replies := by
  unfold exchange
  split
  · rfl
  · split
    · rfl
    · dsimp only
      split <;> rfl

lemma faithful_forwardRequest (s : AsyncGateway υ δ) (i channelIdx : Nat)
    (session : AsyncSession υ) (request : DecodedRequest) :
    Faithful setup s (s.forwardRequest setup i channelIdx session request) := by
  unfold forwardRequest
  dsimp only
  split
  next => exact .refl s
  next dsAdu hdsAdu =>
    have hexchange : Faithful setup s ((s.modifySession i fun session' =>
        { session' with nextTxn := session.nextTxn + 1 }).exchange setup channelIdx
          dsAdu.toList).2 := by
      intro reply hreply
      rw [exchange_replies] at hreply
      exact Or.inl hreply
    split
    next s' hs' =>
      rw [hs'] at hexchange
      exact hexchange
    next s' hs' =>
      rw [hs'] at hexchange
      exact hexchange
    next s' hs' =>
      rw [hs'] at hexchange
      exact hexchange.trans (faithful_sendAsyncException _ _ _ _)
    next bytes s' hs' =>
      rw [hs'] at hexchange
      exact hexchange.trans (faithful_returnResponse _ _ _ _)

lemma faithful_sessionRound (s : AsyncGateway υ δ) (i : Nat) :
    Faithful setup s (s.sessionRound setup i) := by
  unfold sessionRound
  split
  next => exact .refl s
  next session _ =>
    split
    next => exact .refl s
    next =>
      dsimp only
      split
      next => exact .refl s
      next frame _ =>
        split
        next => exact .refl s
        next => exact .refl s
        next message h =>
          unfold serveRequest
          split
          next => exact (Faithful.refl s).trans (faithful_sendAsyncException _ _ _ _)
          next channelIdx _ =>
            split
            next => exact (Faithful.refl s).trans (faithful_sendAsyncException _ _ _ _)
            next => exact (Faithful.refl s).trans (faithful_forwardRequest _ _ _ _ _)

lemma carries_of_reachable {s : AsyncGateway υ δ} (h : Reachable setup s) :
    ∀ reply ∈ s.replies, Carries setup reply := by
  refine Runs.Reachable.invariant (P := fun s => ∀ reply ∈ s.replies, Carries setup reply)
    h ?_ ?_
  · rintro _ ⟨downstreams, router, rfl⟩ reply hreply
    cases hreply
  · intro action s ih reply hreply
    cases action with
    | environment => exact ih reply hreply
    | connect => exact ih reply hreply
    | sessionRound i => exact (faithful_sessionRound s i reply hreply).elim (ih reply) id

end AsyncGateway

/-- Where the gateways are transparent, in every state they can get into. -/
theorem gateway_transparent_iff [Features] {cap : Capacity} {υ δ υ' δ' : Type}
    (setup : GatewaySetup υ δ) (asyncSetup : AsyncGatewaySetup υ' δ') :
    (∀ s : GatewayServices cap υ δ, GatewayM.Reachable setup s →
      ∀ reply ∈ s.replies, ∀ delivery, reply.delivery = some delivery →
        (Transparent setup.downstream.transportType reply.request.upstreamType
            reply.request.frame delivery.frame reply.adu ↔
          PassesThrough setup.downstream.transportType reply.request.upstreamType
              reply.request.frame delivery.frame ∧
            KeepsTxnId reply.request.upstreamType reply.request.frame delivery.upstreamTxn)) ∧
    ∀ s : AsyncGateway υ' δ', AsyncGateway.Reachable asyncSetup s →
      ∀ reply ∈ s.replies, ∀ responseFrame, reply.delivery = some responseFrame →
        (Transparent asyncSetup.downstreamType reply.request.upstreamType
            reply.request.frame responseFrame reply.adu ↔
          PassesThrough asyncSetup.downstreamType reply.request.upstreamType
            reply.request.frame responseFrame) := by
  constructor
  · intro s hs reply hreply delivery hdelivery
    obtain ⟨response, hdecode, hadu⟩ :=
      GatewayServices.carries_of_reachable hs reply hreply delivery hdelivery
    rw [hadu]
    exact transparent_iff reply.request.toDecodedRequest hdecode delivery.upstreamTxn
  · intro s hs reply hreply responseFrame hdelivery
    obtain ⟨response, hdecode, hadu⟩ :=
      AsyncGateway.carries_of_reachable hs reply hreply responseFrame hdelivery
    rw [hadu, transparent_iff reply.request hdecode, and_iff_left]
    intro _
    exact reply.request.upstreamTxn_eq

/-- The exception Illegal Data Address. -/
def refusalFrame : List UInt8 := [0x00, 0x00, 0x00, 0x00, 0x00, 0x03, 0x01, 0x83, 0x02]

/-- A register value comes through. -/
theorem gateway_transparent_value :
    letI := Features.minimal
    ∀ reply ∈ (afterRead (valueFrame 0)).replies, ∀ delivery, reply.delivery = some delivery →
      Transparent .stdTcp reply.request.upstreamType reply.request.frame delivery.frame
        reply.adu := by
  let _ := Features.minimal
  intro reply hreply delivery hdelivery
  have hcond : (afterRead (valueFrame 0)).replies.all (fun reply => match reply.delivery with
      | some delivery => !isExceptionCode ((wirePdu .stdTcp delivery.frame).headD 0) &&
          wireUnit reply.request.upstreamType reply.request.frame ≤ 247 &&
          delivery.upstreamTxn == wireTxnId reply.request.upstreamType reply.request.frame
      | none => true) = true := by
    decide +kernel
  have hcond := List.all_eq_true.mp hcond reply hreply
  simp only [hdelivery, Bool.and_eq_true, Bool.not_eq_true', decide_eq_true_eq,
    beq_iff_eq] at hcond
  obtain ⟨⟨hplain, hunit⟩, htxn⟩ := hcond
  let asyncSetup : AsyncGatewaySetup Unit Unit :=
    ⟨.silent .stdTcp, .stdTcp, fun _ _ => (.ok (), ()), fun _ => (none, ())⟩
  have hiff := (gateway_transparent_iff (arrivingSetup .stdTcp .stdTcp) asyncSetup).1
    _ (reachable_afterRead (valueFrame 0)) reply hreply delivery hdelivery
  exact hiff.mpr ⟨⟨hplain, Or.inl hunit⟩, fun _ => htxn⟩

/-- The client reads a refusal as a value. -/
theorem gateway_refusal_not_transparent :
    ¬∀ [Features] (setup : GatewaySetup (List UInt8) (List UInt8))
      (s : GatewayServices ⟨1, 1, 1, 0⟩ (List UInt8) (List UInt8)),
      GatewayM.Reachable setup s →
      ∀ reply ∈ s.replies, ∀ delivery, reply.delivery = some delivery →
        Transparent setup.downstream.transportType reply.request.upstreamType
          reply.request.frame delivery.frame reply.adu := by
  intro h
  let _ := Features.minimal
  have hchanged : (afterRead refusalFrame).replies.any (fun reply => match reply.delivery with
      | some delivery => wirePdu reply.request.upstreamType reply.adu !=
          wirePdu .stdTcp delivery.frame
      | none => false) = true := by
    decide +kernel
  obtain ⟨reply, hreply, hchanged⟩ := List.any_eq_true.mp hchanged
  cases hdelivery : reply.delivery with
  | none =>
    rw [hdelivery] at hchanged
    cases hchanged
  | some delivery =>
    rw [hdelivery] at hchanged
    obtain ⟨hpdu, _⟩ := h (arrivingSetup .stdTcp .stdTcp) _ (reachable_afterRead refusalFrame)
      reply hreply delivery hdelivery
    exact bne_iff_ne.mp hchanged hpdu

end ModbusRs.Gateway
