import ModbusRs.Gateway.Custody
import Mathlib.Data.List.Nodup

/-!
# Every request is replied to once

A session that stays connected gets exactly one reply for each request that waits no more,
unless the gateway drops it: a request that does not fit a downstream frame and a response that
does not decode, or does not fit an upstream frame, end without a reply.
-/

namespace ModbusRs.Gateway

open Outcome

/-- A reply to a request: it carries the request's transaction id and unit, and it is either an
exception of the gateway or the response that was forwarded. -/
structure ReplyTo [Features] (downstreamType : TransportType) (request : UpstreamRequest)
    (reply : Reply) : Prop where
  request_eq : reply.request = request
  sessionId_eq : reply.sessionId = request.sessionIdx
  txnId_eq : wireTxnId request.upstreamType reply.adu =
    wireTxnId request.upstreamType request.frame
  unit_eq : wireUnit request.upstreamType reply.adu = wireUnit request.upstreamType request.frame
  content : (∃ code, OfGateway code ∧ reply.adu = exceptionAdu request.toDecodedRequest code) ∨
    ∃ delivery response, reply.delivery = some delivery ∧
      decompileAduFrame delivery.frame downstreamType = .ok response ∧
      wirePdu request.upstreamType reply.adu = response.pdu.rawBytes

/-- The unit byte of the request survives the decoder. -/
def DecodedRequest.UnitKept (request : DecodedRequest) : Prop :=
  wireUnit request.upstreamType request.frame ≤ 247 ∨
    wireUnit request.upstreamType request.frame = 255

instance (request : DecodedRequest) : Decidable request.UnitKept :=
  inferInstanceAs (Decidable (_ ∨ _))

lemma DecodedRequest.UnitKept.unit_get {request : DecodedRequest} (h : request.UnitKept) :
    request.unit.get = wireUnit request.upstreamType request.frame := by
  rw [request.unit_get]
  rcases h with hle | h255
  · rw [if_pos hle]
  · rw [h255]
    rfl

/-- A frame under the request's transaction id and unit. -/
lemma DecodedRequest.UnitKept.frameBytes {request : DecodedRequest} (h : request.UnitKept)
    {pduBytes : List UInt8} (hlen : pduBytes.length ≤ 253) :
    let adu := frameBytes request.upstreamType request.upstreamTxn request.unit.get pduBytes
    wireTxnId request.upstreamType adu = wireTxnId request.upstreamType request.frame ∧
      wireUnit request.upstreamType adu = wireUnit request.upstreamType request.frame := by
  dsimp only
  rw [wireTxnId_frameBytes, wireUnit_frameBytes _ _ _ hlen, h.unit_get, request.upstreamTxn_eq]
  refine ⟨?_, rfl⟩
  cases htcp : request.upstreamType.isTcpType with
  | true => rfl
  | false => simp [wireTxnId, htcp]

namespace GatewayServices

variable [Features] {cap : Capacity} {υ δ : Type} (setup : GatewaySetup υ δ)

/-- A response that decodes and fits a frame of the request's upstream. -/
def Usable (request : PendingRequest) (frame : List UInt8) : Prop :=
  match decompileAduFrame frame setup.downstream.transportType with
  | .ok response => FitsFrame request.upstreamType response.pdu.rawBytes
  | _ => False

instance (request : PendingRequest) (frame : List UInt8) : Decidable (Usable setup request frame) := by
  unfold Usable
  split <;> infer_instance

/-- If the channel waits for a request of the session and reads a complete response, the
response is usable. -/
def HearsUsable (sid : UInt8) (s : GatewayServices cap υ δ) (i : Nat) (nowMs : UInt64) : Prop :=
  match s.downstreams.toList[i]? with
  | none => True
  | some channel =>
    match channel.state with
    | .idle => True
    | .awaitingResponse _ deadlineMs request =>
      request.sessionIdx ≠ sid ∨ deadlineMs ≤ nowMs ∨ (receiveDownstream setup channel).1 = false ∨
        match completeLength setup.downstream.transportType
            (receiveDownstream setup channel).2.rxbuf with
        | none => True
        | some expectedLen =>
          Usable setup request ((receiveDownstream setup channel).2.rxbuf.toList.take expectedLen)

instance (sid : UInt8) (s : GatewayServices cap υ δ) (i : Nat) (nowMs : UInt64) :
    Decidable (s.HearsUsable setup sid i nowMs) := by
  unfold HearsUsable
  generalize s.downstreams.toList[i]? = found
  match found with
  | none => exact .isTrue trivial
  | some channel =>
    dsimp only
    generalize channel.state = state
    match state with
    | .idle => exact .isTrue trivial
    | .awaitingResponse internalTxn deadlineMs request =>
      refine @instDecidableOr _ _ inferInstance (@instDecidableOr _ _ inferInstance
        (@instDecidableOr _ _ inferInstance ?_))
      generalize completeLength _ _ = complete
      match complete with
      | none => exact .isTrue trivial
      | some expectedLen => exact inferInstanceAs (Decidable (Usable setup request _))

/-- The session stays connected, and none of its requests takes a way out without a reply. -/
structure KeepsRequests (sid : UInt8) (action : GatewayAction υ δ) (s : GatewayServices cap υ δ) :
    Prop where
  stays : ¬Drops action sid
  alone : ∀ session, Connects action s session → session.1 = sid →
    ∀ session' ∈ s.sessions, session'.1 ≠ sid
  fresh : ∀ request, Numbers setup action s request → FreshId s.awaiting s.txnMap
  unitKept : ∀ request ∈ taken setup action s, request.sessionIdx = sid → request.UnitKept
  fits : ∀ request, Numbers setup action s request → request.sessionIdx = sid →
    FitsFrame setup.downstream.transportType request.pdu.rawBytes
  inTime : ∀ request, Numbers setup action s request → request.sessionIdx = sid →
    ∀ nowMs, dispatchClock action = some nowMs → deadline setup nowMs ≠ .panic
  hears : ∀ i nowMs, action = .pollDownstream i nowMs → s.HearsUsable setup sid i nowMs

/-- The request waits and has no reply, or it waits no more and has exactly one. -/
def RepliedOnce (s : GatewayServices cap υ δ) (request : UpstreamRequest) : Prop :=
  (request ∈ s.waiting ∧ ∀ reply ∈ s.replies, reply.request.id ≠ request.id) ∨
    (request ∉ s.waiting ∧ ∃ reply, s.replies.filter (·.request.id == request.id) = [reply] ∧
      ReplyTo setup.downstream.transportType request reply)

variable {setup}

/-- What holds of a session that stays connected and loses nothing. -/
structure Kept (setup : GatewaySetup υ δ) (sid : UInt8) (s : GatewayServices cap υ δ) : Prop where
  numbered : Numbered s.awaiting s.txnMap
  registered : Registered sid s.awaiting s.txnMap
  recorded : Recorded sid s.tape s.sent
  present : ∀ request ∈ s.accepted, request.sessionIdx = sid → s.tape.lines sid ≠ []
  ids : s.accepted.map (·.id) = List.range s.accepted.length
  unitKept : ∀ request ∈ s.accepted, request.sessionIdx = sid → request.UnitKept
  custody : List.Keeps (·.sessionIdx == sid) s.accepted (s.answered ++ s.waiting)
  replies : ∀ reply ∈ s.replies, reply.request.sessionIdx = sid →
    ReplyTo setup.downstream.transportType reply.request reply

section Preserved

variable {sid : UInt8} {action : GatewayAction υ δ} {s : GatewayServices cap υ δ}

lemma lines_ne_nil {connection : Nat} (h : (sid, connection) ∈ s.sessions) :
    s.tape.lines sid ≠ [] := by
  obtain ⟨channel, hmem, heq⟩ := List.mem_map.mp h
  obtain ⟨rfl, _⟩ := Prod.mk.inj heq
  refine List.ne_nil_of_mem (List.mem_filter.mpr ⟨List.mem_map.mpr ⟨channel, hmem, rfl⟩, ?_⟩)
  exact beq_self_eq_true _

lemma exists_findUpstream (h : s.tape.lines sid ≠ []) : ∃ up, s.findUpstream sid = some up := by
  obtain ⟨line, hline⟩ := List.exists_mem_of_ne_nil _ h
  obtain ⟨hmem, hid⟩ := List.mem_filter.mp hline
  obtain ⟨channel, hchannel, rfl⟩ := List.mem_map.mp hmem
  refine Option.isSome_iff_exists.mp ?_
  rw [findUpstream, List.findIdx?_isSome, List.any_eq_true]
  exact ⟨channel, hchannel, hid⟩

/-- A waiting channel that reads a complete response for the session reads a usable one. -/
lemma HearsUsable.usable {i : Nat} {nowMs : UInt64} {channel received : DownstreamChannel δ}
    {internalTxn : UInt16} {deadlineMs : UInt64} {request : PendingRequest} {expectedLen : Nat}
    (h : s.HearsUsable setup sid i nowMs)
    (hwaits : Waits setup s i channel received internalTxn deadlineMs request)
    (hnow : ¬deadlineMs ≤ nowMs) (hgood : (receiveDownstream setup channel).1 = true)
    (hlen : completeLength setup.downstream.transportType received.rxbuf = some expectedLen)
    (hsession : request.sessionIdx = sid) :
    ∃ response, decompileAduFrame (received.rxbuf.toList.take expectedLen)
        setup.downstream.transportType = .ok response ∧
      FitsFrame request.upstreamType response.pdu.rawBytes := by
  unfold HearsUsable at h
  rw [hwaits.channel_eq] at h
  dsimp only at h
  rw [hwaits.state_eq] at h
  dsimp only at h
  rw [← hwaits.received_eq, hlen] at h
  dsimp only at h
  rcases h with h | h | h | h
  · exact absurd hsession h
  · exact absurd h hnow
  · rw [hgood] at h
    cases h
  · unfold Usable at h
    split at h
    next response hdecode => exact ⟨response, hdecode, h⟩
    next => exact h.elim

/-- The session is there as long as a request of it is in hand. -/
lemma Kept.present_of_hand (h : Kept setup sid s) {request : UpstreamRequest}
    (hhand : request ∈ taken setup action s ∨ request ∈ s.waiting)
    (hsession : request.sessionIdx = sid) : s.tape.lines sid ≠ [] := by
  rcases hhand with htaken | hwaiting
  · obtain ⟨_, _, hmem⟩ := mem_taken htaken
    rw [hsession] at hmem
    exact lines_ne_nil hmem
  · exact h.present request (h.custody.subset (List.mem_append_right _ hwaiting)) hsession

/-- The requests of the session are not lost. -/
lemma Kept.sessionIdx_ne_of_loses (h : Kept setup sid s) (haction : KeepsRequests setup sid action s)
    {request : UpstreamRequest} (hhand : request ∈ taken setup action s ∨ request ∈ s.waiting)
    (hloses : Loses setup action s request) : request.sessionIdx ≠ sid := by
  intro hsession
  obtain ⟨up, hfind⟩ := exists_findUpstream (h.present_of_hand hhand hsession)
  cases hloses with
  | gone _ hgone =>
    rw [hsession, hfind] at hgone
    cases hgone
  | unencodable request hnumbers hfits => exact hfits (haction.fits request hnumbers hsession)
  | overflowed request nowMs hnumbers hclock hdeadline =>
    exact haction.inTime request hnumbers hsession nowMs hclock hdeadline
  | unreturned i nowMs channel received internalTxn deadlineMs request expectedLen haction' hwaits
      hnow hgood hlen hcarries =>
    obtain ⟨response, hdecode, hfits⟩ := (haction.hears i nowMs haction').usable hwaits hnow hgood
      hlen hsession
    obtain ⟨entry, hentry, hid⟩ := h.registered _ hwaits.mem_awaiting hsession
    cases hremove : (s.txnMap.remove internalTxn).1 with
    | none =>
      obtain ⟨hnot, _⟩ := TxnMap.remove_eq_none (Prod.ext hremove rfl :
        s.txnMap.remove internalTxn = (none, (s.txnMap.remove internalTxn).2))
      exact hnot (List.mem_map.mpr ⟨entry, hentry, hid⟩)
    | some entry =>
      exact hcarries response entry up ⟨hdecode, hremove, hfits, by rw [hsession, hfind]⟩

/-- The accounts stay balanced. -/
lemma Kept.custody_perform (h : Kept setup sid s) (haction : KeepsRequests setup sid action s) :
    List.Keeps (·.sessionIdx == sid) (GatewayM.perform setup action s).accepted
      ((GatewayM.perform setup action s).answered ++ (GatewayM.perform setup action s).waiting) := by
  obtain ⟨lost, done, hperm, hanswered, hlost⟩ := handled_perform setup action s
  rw [accepted_perform, hanswered]
  refine (h.custody.append_right _).trans ?_
  have hall : (lost ++ ((s.answered ++ done) ++ (GatewayM.perform setup action s).waiting)).Perm
      ((s.answered ++ s.waiting) ++ taken setup action s) := by
    rw [List.append_assoc, List.append_assoc]
    calc
      (lost ++ (s.answered ++ (done ++ (GatewayM.perform setup action s).waiting))).Perm
          (s.answered ++ (lost ++ (done ++ (GatewayM.perform setup action s).waiting))) :=
        List.perm_append_comm_assoc _ _ _
      (s.answered ++ (lost ++ (done ++ (GatewayM.perform setup action s).waiting))).Perm
          (s.answered ++ (taken setup action s ++ s.waiting)) := hperm.append_left _
      (s.answered ++ (taken setup action s ++ s.waiting)).Perm
          (s.answered ++ (s.waiting ++ taken setup action s)) :=
        List.perm_append_comm.append_left _
  refine (List.Keeps.of_perm hall).trans (List.Keeps.lose (fun request hmem => ?_) _)
  have hhand : request ∈ taken setup action s ∨ request ∈ s.waiting :=
    List.mem_append.mp (hperm.subset (List.mem_append_left _ hmem))
  simpa using h.sessionIdx_ne_of_loses haction hhand (hlost request hmem)

/-- An exception of the gateway is a reply to its request. -/
lemma Refused.replyTo {request : UpstreamRequest} {reply : Reply} (h : Refused s request reply)
    (hunit : request.UnitKept) :
    ReplyTo setup.downstream.transportType request reply := by
  obtain ⟨code, hcode, hadu⟩ := h.adu_eq
  have hlen : [request.fc.toByte ||| 0x80, code.toByte].length ≤ 253 := by simp
  have hparts := hunit.frameBytes hlen
  refine ⟨h.request_eq, h.sessionId_eq, ?_, ?_, Or.inl ⟨code, hcode, hadu⟩⟩
  · rw [hadu]
    exact hparts.1
  · rw [hadu]
    exact hparts.2

/-- A response that is carried back under its own entry is a reply to its request. -/
lemma Delivers.replyTo {i : Nat} {nowMs : UInt64} {reply : Reply}
    (h : Delivers setup s i nowMs reply) (hnumbered : Numbered s.awaiting s.txnMap)
    (hunit : reply.request.UnitKept) :
    ReplyTo setup.downstream.transportType reply.request reply := by
  obtain ⟨request, _, hanswered⟩ := h.answered
  have hsession := hanswered.sessionId_eq
  rw [← hanswered.request_eq] at hsession
  cases h with
  | intro channel received internalTxn deadlineMs request expectedLen response entry up target
      hwaits hnow hgood hlen hcarries htarget =>
    obtain ⟨hmem, hid⟩ := TxnMap.remove_entry hcarries.2.1
    have htxn := (hnumbered.entry _ hwaits.mem_awaiting entry hmem hid).1
    have hparts := hunit.frameBytes (rawBytes_length_le response.pdu)
    refine ⟨rfl, hsession, ?_, ?_, Or.inr ⟨_, response, rfl, hcarries.1, ?_⟩⟩
    · dsimp only
      rw [htxn]
      exact hparts.1
    · dsimp only
      rw [htxn]
      exact hparts.2
    · exact wirePdu_frameBytes _ _ _ (rawBytes_length_le response.pdu)

lemma Kept.perform (h : Kept setup sid s) (haction : KeepsRequests setup sid action s) :
    Kept setup sid (GatewayM.perform setup action s) := by
  have hdrops : ∀ sessionId, Drops action sessionId → sessionId ≠ sid := by
    rintro sessionId hdrop rfl
    exact haction.stays hdrop
  have hbooked := booked_perform setup action s
  have htaped := tapedTo_perform setup action s
  have hunit : ∀ request ∈ s.accepted ++ taken setup action s, request.sessionIdx = sid →
      request.UnitKept := fun request hmem =>
    (List.mem_append.mp hmem).elim (h.unitKept request) (haction.unitKept request)
  constructor
  · exact hbooked.numbered haction.fresh h.numbered
  · exact hbooked.registered haction.fresh hdrops h.numbered h.registered
  · refine htaped.recorded (fun session hconnects hid => ?_) hdrops h.recorded
    by_contra hlines
    obtain ⟨line, hline⟩ := List.exists_mem_of_ne_nil _ hlines
    obtain ⟨hmem, hlineId⟩ := List.mem_filter.mp hline
    refine haction.alone session hconnects hid line.1 ?_ (eq_of_beq hlineId)
    rw [← tape_sessions]
    exact List.mem_map_of_mem hmem
  · intro request hmem hsession
    rw [accepted_perform, List.mem_append] at hmem
    refine htaped.lines_ne_nil hdrops ?_
    rcases hmem with hmem | htaken
    · exact h.present request hmem hsession
    · exact h.present_of_hand (Or.inl htaken) hsession
  · rw [accepted_perform, List.map_append, List.length_append, h.ids]
    cases htaken : taken setup action s with
    | nil => simp
    | cons request rest =>
      obtain ⟨hone, hid, _⟩ := mem_taken (htaken ▸ List.mem_cons_self :
        request ∈ taken setup action s)
      rw [htaken] at hone
      rw [hone, List.map_singleton, hid, List.length_singleton, List.range_succ]
  · rw [accepted_perform]
    exact hunit
  · exact h.custody_perform haction
  · intro reply hreply hsession
    have hhand : ∀ request, (request ∈ taken setup action s ∨ request ∈ s.waiting) →
        request.sessionIdx = sid → request.UnitKept := by
      rintro request (htaken | hwaiting)
      · exact haction.unitKept request htaken
      · exact h.unitKept request (h.custody.subset (List.mem_append_right _ hwaiting))
    rcases mem_replies_perform hreply with hold | ⟨request, hin, hrefused⟩ |
      ⟨i, nowMs, rfl, hdelivers⟩
    · exact h.replies reply hold hsession
    · obtain rfl := hrefused.request_eq
      exact hrefused.replyTo (hhand _ hin.mem hsession)
    · obtain ⟨request, hwaiting, hanswered⟩ := hdelivers.answered
      obtain rfl := hanswered.request_eq
      exact hdelivers.replyTo h.numbered (hhand _ (Or.inr hwaiting) hsession)

end Preserved

/-- In balanced accounts a request of the session either waits or has exactly one reply. -/
lemma Kept.repliedOnce {sid : UInt8} {s : GatewayServices cap υ δ} (h : Kept setup sid s)
    {request : UpstreamRequest} (hmem : request ∈ s.accepted) (hsession : request.sessionIdx = sid) :
    RepliedOnce setup s request := by
  have hids : (s.accepted.map (·.id)).Nodup := h.ids ▸ List.nodup_range
  have haccepted : ∀ reply ∈ s.replies, reply.request ∈ s.accepted := fun reply hreply =>
    h.custody.subset (List.mem_append_left _ (List.mem_map.mpr ⟨reply, hreply, rfl⟩))
  have hsame : ∀ reply ∈ s.replies, reply.request.id = request.id → reply.request = request :=
    fun reply hreply hid => List.inj_on_of_nodup_map hids (haccepted reply hreply) hmem hid
  have hnodup : ((s.answered ++ s.waiting).filter (·.sessionIdx == sid)).Nodup :=
    h.custody.perm.nodup_iff.mpr ((List.Nodup.of_map _ hids).filter _)
  rw [List.filter_append, List.nodup_append] at hnodup
  obtain ⟨hanswered, _, hdisjoint⟩ := hnodup
  have hof : ∀ {l : List UpstreamRequest}, request ∈ l →
      request ∈ l.filter (·.sessionIdx == sid) := fun hl =>
    List.mem_filter.mpr ⟨hl, by simpa using hsession⟩
  have hcustody : request ∈ s.answered ++ s.waiting :=
    List.mem_of_mem_filter (h.custody.perm.symm.subset (hof hmem))
  by_cases hwaiting : request ∈ s.waiting
  · refine Or.inl ⟨hwaiting, fun reply hreply hid => ?_⟩
    have hreplied : request ∈ s.answered :=
      List.mem_map.mpr ⟨reply, hreply, hsame reply hreply hid⟩
    exact hdisjoint request (hof hreplied) request (hof hwaiting) rfl
  · refine Or.inr ⟨hwaiting, ?_⟩
    have hreplied : request ∈ s.answered := (List.mem_append.mp hcustody).resolve_right hwaiting
    have hone : (s.replies.filter (·.request.id == request.id)).map (·.request) = [request] := by
      apply List.eq_singleton_of_nodup
      · have hfilter : s.replies.filter (·.request.id == request.id) =
            (s.replies.filter (·.request.sessionIdx == sid)).filter
              (·.request.id == request.id) := by
          rw [List.filter_filter]
          refine List.filter_congr fun reply hreply => ?_
          by_cases hid : reply.request.id = request.id
          · simp [hsame reply hreply hid, hsession]
          · simp [hid]
        rw [hfilter]
        rw [answered, List.filter_map] at hanswered
        exact hanswered.sublist (List.filter_sublist.map _)
      · obtain ⟨reply, hreply, rfl⟩ := List.mem_map.mp hreplied
        exact List.mem_map.mpr ⟨reply, List.mem_filter.mpr ⟨hreply, beq_self_eq_true _⟩, rfl⟩
      · intro other hother
        obtain ⟨reply, hreply, rfl⟩ := List.mem_map.mp hother
        obtain ⟨hreply, hid⟩ := List.mem_filter.mp hreply
        exact hsame reply hreply (eq_of_beq hid)
    obtain ⟨reply, hreply, heq⟩ := List.map_eq_singleton_iff.mp hone
    have hmemReply : reply ∈ s.replies := List.mem_of_mem_filter (hreply ▸ List.mem_singleton_self reply)
    refine ⟨reply, hreply, ?_⟩
    have hto := h.replies reply hmemReply (heq ▸ hsession)
    rwa [heq] at hto

/-- In every run in which a session stays connected and none of its requests takes a way out
without a reply, each of them waits or has exactly one reply, and the replies are what is sent
on the session. -/
theorem repliedOnce_of_keepsRequests {sid : UInt8} {router : Router} {s : GatewayServices cap υ δ}
    (h : Runs.RunWhen (KeepsRequests setup sid) (GatewayM.perform setup) (.new router) s) :
    (∀ request ∈ s.accepted, request.sessionIdx = sid → RepliedOnce setup s request) ∧
      Recorded sid s.tape s.sent := by
  have hkept : Kept setup sid s := by
    refine h.invariant (P := Kept setup sid) (fun action s haction hs => hs.perform haction) ?_
    refine ⟨⟨List.nodup_nil, fun _ hmem => ?_⟩, fun _ hmem => ?_, Or.inr ⟨rfl, rfl⟩,
      fun _ hmem => ?_, rfl, fun _ hmem => ?_, .of_perm (List.Perm.refl _), fun _ hmem => ?_⟩
    all_goals cases hmem
  exact ⟨fun request hmem hsession => hkept.repliedOnce hmem hsession, hkept.recorded⟩

omit [Features] in
/-- A device that answers. -/
theorem repliedOnce_afterRead :
    letI := Features.minimal
    let s := afterRead (valueFrame 0)
    (∀ request ∈ s.accepted, request.sessionIdx = 0 →
      RepliedOnce (arrivingSetup .stdTcp .stdTcp) s request) ∧ Recorded 0 s.tape s.sent := by
  let _ := Features.minimal
  have hmeets : Runs.Meets (KeepsRequests (arrivingSetup .stdTcp .stdTcp) 0)
      (GatewayM.perform (arrivingSetup .stdTcp .stdTcp)) (answeredRead (valueFrame 0))
      (.new .passthrough : GatewayServices ⟨1, 1, 1, 0⟩ (List UInt8) (List UInt8)) := by
    have hstep : ∀ (action : GatewayAction (List UInt8) (List UInt8))
        (s : GatewayServices ⟨1, 1, 1, 0⟩ (List UInt8) (List UInt8)),
        FreshId s.awaiting s.txnMap →
        (∀ request ∈ taken (arrivingSetup .stdTcp .stdTcp) action s, request.UnitKept) →
        (match action with
          | .removeSession _ => False
          | .addUpstream _ => s.sessions = []
          | .pollDownstream i nowMs => s.HearsUsable (arrivingSetup .stdTcp .stdTcp) 0 i nowMs
          | _ => True) →
        KeepsRequests (arrivingSetup .stdTcp .stdTcp) 0 action s := by
      intro action s hfresh hunit haction
      refine ⟨?_, ?_, fun _ _ => hfresh, fun request hmem _ => hunit request hmem,
        fun _ _ _ => trivial, fun _ _ _ nowMs _ => ?_, ?_⟩
      · rintro ⟨⟩
        exact haction
      · rintro session ⟨⟨transport, rfl⟩, _⟩ _ other hmem
        have hnone : s.sessions = [] := haction
        rw [hnone] at hmem
        cases hmem
      · simp [deadline]
      · rintro i nowMs rfl
        exact haction
    refine ⟨hstep (.addUpstream _) _ ?_ ?_ ?_, hstep (.addDownstream _) _ ?_ ?_ trivial,
      hstep (.receiveUpstream 0) _ ?_ ?_ trivial, hstep (.upstreamRound 0 0) _ ?_ ?_ trivial,
      hstep (.pollDownstream 0 0) _ ?_ ?_ ?_, trivial⟩
    on_goal 3 => change sessions _ = []
    on_goal 12 => change HearsUsable _ _ _ _ _
    all_goals decide +kernel
  exact repliedOnce_of_keepsRequests (Runs.RunWhen.foldl hmeets)

/-- A response with a function code that does not exist. -/
def unknownFrame : List UInt8 := [0x00, 0x00, 0x00, 0x00, 0x00, 0x03, 0x01, 0x7F, 0x00]

omit [Features] in
/-- The request is lost: the channel is idle again and no reply has been sent. -/
theorem unknownFrame_not_repliedOnce :
    ¬∀ [Features] (setup : GatewaySetup (List UInt8) (List UInt8))
      (actions : List (GatewayAction (List UInt8) (List UInt8))),
      (∀ action ∈ actions, ∀ sid, ¬Drops action sid) →
      let s : GatewayServices ⟨1, 1, 1, 0⟩ (List UInt8) (List UInt8) :=
        actions.foldl (fun s action => GatewayM.perform setup action s) (.new .passthrough)
      ∀ request ∈ s.accepted, RepliedOnce setup s request := by
  intro h
  let _ := Features.minimal
  have hstays : ∀ action ∈ answeredRead unknownFrame, ∀ sid, ¬Drops action sid := by
    rintro _ hmem _ ⟨⟩
    simp [answeredRead] at hmem
  have hlost := h (arrivingSetup .stdTcp .stdTcp) (answeredRead unknownFrame) hstays
  change ∀ request ∈ (afterRead unknownFrame).accepted,
    RepliedOnce (arrivingSetup .stdTcp .stdTcp) (afterRead unknownFrame) request at hlost
  have hwaiting : (afterRead unknownFrame).waiting.isEmpty = true := by
    decide +kernel
  have hreplies : (afterRead unknownFrame).replies.isEmpty = true := by
    decide +kernel
  have haccepted : (afterRead unknownFrame).accepted.isEmpty = false := by
    decide +kernel
  obtain ⟨request, hmem⟩ := List.isEmpty_eq_false_iff_exists_mem.mp haccepted
  rcases hlost request hmem with ⟨hwaits, _⟩ | ⟨_, reply, hreply, _⟩
  · rw [List.isEmpty_iff.mp hwaiting] at hwaits
    cases hwaits
  · rw [List.isEmpty_iff.mp hreplies] at hreply
    cases hreply

end GatewayServices

end ModbusRs.Gateway
