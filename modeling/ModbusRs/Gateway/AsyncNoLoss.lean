import ModbusRs.Gateway.AsyncRounds
import ModbusRs.Gateway.NoLoss

/-!
# Replies of an asynchronous session

A round that reads a request sends one reply to it before the next frame is read, unless the
request does not fit a downstream frame, the channel cannot send or receive, or what it receives
cannot be carried back. The loop of the serial gateway makes the same rounds, with the
transaction id 0.
-/

namespace ModbusRs.Gateway

open Outcome

/-- The unit byte survives exactly if the address read from it stands for it. -/
lemma DecodedRequest.unitKept_iff (request : DecodedRequest) :
    request.UnitKept ↔ request.unit.get = wireUnit request.upstreamType request.frame := by
  refine ⟨UnitKept.unit_get, fun h => ?_⟩
  rw [request.unit_get] at h
  split at h
  next hle => exact Or.inl hle
  next => exact Or.inr h.symm

namespace AsyncGateway

variable [Features] {υ δ : Type} (setup : AsyncGatewaySetup υ δ)

/-- A reply to a request of a session: it carries the request's transaction id and unit, and it
is either an exception or the response that was forwarded. -/
structure ReplyTo (i : Nat) (request : DecodedRequest) (reply : AsyncReply) : Prop where
  session_eq : reply.session = i
  request_eq : reply.request = request
  txnId_eq : wireTxnId request.upstreamType reply.adu =
    wireTxnId request.upstreamType request.frame
  unit_eq : wireUnit request.upstreamType reply.adu = wireUnit request.upstreamType request.frame
  content : (∃ code, reply.adu = exceptionAdu request code) ∨
    ∃ responseBytes response, reply.delivery = some responseBytes ∧
      decompileAduFrame responseBytes setup.downstreamType = .ok response ∧
      wirePdu request.upstreamType reply.adu = response.pdu.rawBytes

/-- From `s` to `s'` one frame is sent, and it is a reply to the request. -/
def RepliedOnce (i : Nat) (request : DecodedRequest) (s s' : AsyncGateway υ δ) : Prop :=
  ∃ reply, s'.replies = s.replies ++ [reply] ∧ ReplyTo setup i request reply

/-- A response that decodes and fits a frame of the request's upstream. -/
def Usable (request : DecodedRequest) (responseBytes : List UInt8) : Prop :=
  match decompileAduFrame responseBytes setup.downstreamType with
  | .ok response => FitsFrame request.upstreamType response.pdu.rawBytes
  | _ => False

instance (request : DecodedRequest) (responseBytes : List UInt8) :
    Decidable (Usable setup request responseBytes) := by
  unfold Usable
  split <;> infer_instance

/-- The channel takes the frame, and then it says nothing in time or something usable. -/
def Answers (request : DecodedRequest) (adu : List UInt8) (downstream : δ) : Prop :=
  match setup.send adu downstream with
  | (.error _, _) => False
  | (.ok (), device) =>
    match (setup.recvTimeout device).1 with
    | none => True
    | some (.error _) => False
    | some (.ok bytes) => Usable setup request bytes.toList

instance (request : DecodedRequest) (adu : List UInt8) (downstream : δ) :
    Decidable (Answers setup request adu downstream) := by
  unfold Answers
  split
  · infer_instance
  · split <;> infer_instance

/-- If the request is routed to a channel, it fits a frame and the channel answers. -/
def Answerable (s : AsyncGateway υ δ) (session : AsyncSession υ) (request : DecodedRequest) :
    Prop :=
  ∀ channelIdx downstream, Routed s request channelIdx downstream →
    FitsFrame setup.downstreamType request.pdu.rawBytes ∧
      Answers setup request (downstreamAdu setup s session request) downstream

variable {setup} {s s' : AsyncGateway υ δ} {i : Nat} {session : AsyncSession υ}
  {request : DecodedRequest}

lemma not_repliedOnce (h : s'.replies = s.replies) : ¬RepliedOnce setup i request s s' := by
  rintro ⟨reply, hreply, _⟩
  rw [h] at hreply
  simpa using congrArg List.length hreply

/-- One frame under the request's transaction id and unit is a reply if the unit is kept. -/
lemma repliedOnce_iff_unitKept {pduBytes : List UInt8} {delivery : Option (List UInt8)}
    (h : s'.replies = s.replies ++ [⟨i, request, frameBytes request.upstreamType
      request.upstreamTxn request.unit.get pduBytes, delivery⟩]) (hlen : pduBytes.length ≤ 253)
    (hcontent : (∃ code, frameBytes request.upstreamType request.upstreamTxn request.unit.get
        pduBytes = exceptionAdu request code) ∨
      ∃ responseBytes response, delivery = some responseBytes ∧
        decompileAduFrame responseBytes setup.downstreamType = .ok response ∧
        wirePdu request.upstreamType (frameBytes request.upstreamType request.upstreamTxn
          request.unit.get pduBytes) = response.pdu.rawBytes) :
    RepliedOnce setup i request s s' ↔ request.UnitKept := by
  constructor
  · rintro ⟨reply, hreply, hto⟩
    rw [h] at hreply
    obtain rfl := List.singleton_inj.mp (List.append_cancel_left hreply)
    have hunit := hto.unit_eq
    rw [wireUnit_frameBytes _ _ _ hlen] at hunit
    exact request.unitKept_iff.mpr hunit
  · intro hkept
    obtain ⟨htxn, hunit⟩ := hkept.frameBytes hlen
    exact ⟨_, h, rfl, rfl, htxn, hunit, hcontent⟩

lemma repliedOnce_sendAsyncException (h : (s'.sessions[i]?).isSome = true)
    (hreplies : s'.replies = s.replies) (code : ExceptionCode) :
    RepliedOnce setup i request s (s'.sendAsyncException setup i request code) ↔
      request.UnitKept := by
  have hsent := replies_sendAsyncException setup request h code
  rw [hreplies] at hsent
  have hlen : [request.fc.toByte ||| 0x80, code.toByte].length ≤ 253 := Nat.le_add_right 2 251
  exact repliedOnce_iff_unitKept hsent hlen (Or.inl ⟨code, rfl⟩)

/-- What is heard is carried back if it is usable. -/
lemma repliedOnce_returnResponse (h : (s'.sessions[i]?).isSome = true)
    (hreplies : s'.replies = s.replies) (responseBytes : List UInt8) :
    RepliedOnce setup i request s (s'.returnResponse setup i request responseBytes) ↔
      request.UnitKept ∧ Usable setup request responseBytes := by
  rcases replies_returnResponse setup request h responseBytes with
    ⟨response, hdecode, hfits, hsent⟩ | ⟨hnot, hsame⟩
  · have husable : Usable setup request responseBytes := by
      rw [Usable, hdecode]
      exact hfits
    have hlen := rawBytes_length_le response.pdu
    rw [hreplies] at hsent
    rw [repliedOnce_iff_unitKept hsent hlen (Or.inr ⟨responseBytes, response, rfl, hdecode,
      wirePdu_frameBytes _ _ _ hlen⟩), and_iff_left husable]
  · refine iff_of_false (not_repliedOnce (hsame.trans hreplies)) ?_
    rintro ⟨_, husable⟩
    unfold Usable at husable
    split at husable
    next response hdecode => exact hnot response hdecode husable
    next => exact husable

/-- The channel a request is routed to is the only one. -/
lemma Routed.answerable_iff {channelIdx : Nat} {downstream : δ}
    (h : Routed s request channelIdx downstream) :
    Answerable setup s session request ↔
      FitsFrame setup.downstreamType request.pdu.rawBytes ∧
        Answers setup request (downstreamAdu setup s session request) downstream := by
  constructor
  · intro hall
    exact hall channelIdx downstream h
  · intro hone channelIdx' downstream' h'
    have hidx := h'.route_eq
    rw [h.route_eq] at hidx
    cases hidx
    have hdownstream := h'.downstream_eq
    rw [h.downstream_eq] at hdownstream
    cases hdownstream
    exact hone

/-- Receiving from the upstream leaves the channels alone. -/
lemma answerable_received :
    Answerable setup (s.received setup i) session request ↔ Answerable setup s session request :=
  ⟨fun h channelIdx downstream hrouted =>
      h channelIdx downstream ⟨hrouted.route_eq, hrouted.downstream_eq⟩,
    fun h channelIdx downstream hrouted =>
      h channelIdx downstream ⟨hrouted.route_eq, hrouted.downstream_eq⟩⟩

/-- A round that reads a request sends exactly one reply to it if the channel answers. -/
theorem repliedOnce_sessionRound_iff (h : Reads setup s i session request) :
    RepliedOnce setup i request s (s.sessionRound setup i) ↔
      request.UnitKept ∧ Answerable setup s session request := by
  have hsome : ((s.received setup i).sessions[i]?).isSome = true := by
    refine isSome_modifySession ?_
    rw [h.session_eq]
    rfl
  have hreplies : (s.received setup i).replies = s.replies := rfl
  have hused : ∀ channelIdx device, ((((s.received setup i).numbered i session).setDownstream
      channelIdx device).sessions[i]?).isSome = true := fun _ _ => isSome_modifySession hsome
  have hsame : ∀ channelIdx device, (((s.received setup i).numbered i session).setDownstream
      channelIdx device).replies = s.replies := fun _ _ => rfl
  rw [sessionRound_of_reads h, ← answerable_received (i := i)]
  have hcases : Served setup (s.received setup i) i session request _ :=
    serveRequest_cases _ i session request
  generalize (s.received setup i).serveRequest setup i session request = s' at hcases ⊢
  cases hcases with
  | unrouted hnone =>
    have hall : Answerable setup (s.received setup i) session request :=
      fun channelIdx downstream hrouted => absurd hrouted (hnone channelIdx downstream)
    rw [repliedOnce_sendAsyncException hsome hreplies, and_iff_left hall]
  | unencodable channelIdx downstream hrouted hfits =>
    rw [hrouted.answerable_iff]
    exact iff_of_false (not_repliedOnce hreplies) fun hno => hfits hno.2.1
  | unsent channelIdx downstream device e hrouted hfits hsend =>
    rw [hrouted.answerable_iff, Answers, hsend]
    exact iff_of_false (not_repliedOnce (hsame _ _)) fun hno => hno.2.2
  | unheard channelIdx downstream device device' e hrouted hfits hsend hrecv =>
    rw [hrouted.answerable_iff, Answers, hsend]
    dsimp only
    rw [hrecv]
    exact iff_of_false (not_repliedOnce (hsame _ _)) fun hno => hno.2.2
  | timedOut channelIdx downstream device device' hrouted hfits hsend hrecv =>
    rw [hrouted.answerable_iff, Answers, hsend]
    dsimp only
    rw [hrecv, repliedOnce_sendAsyncException (hused _ _) (hsame _ _), and_iff_left ⟨hfits, trivial⟩]
  | heard channelIdx downstream device device' bytes hrouted hfits hsend hrecv =>
    rw [hrouted.answerable_iff, Answers, hsend]
    dsimp only
    rw [hrecv, repliedOnce_returnResponse (hused _ _) (hsame _ _), and_iff_right hfits]

end AsyncGateway

end ModbusRs.Gateway
