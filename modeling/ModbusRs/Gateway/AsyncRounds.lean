import ModbusRs.Gateway.AsyncSession

/-!
# The rounds of an asynchronous session

A round reads one frame. If it parses, the request is refused, or it is handed to a channel
and the session waits for what the channel has to say.
-/

namespace ModbusRs.Gateway.AsyncGateway

open Outcome

variable [Features] {υ δ : Type} (setup : AsyncGatewaySetup υ δ)

/-- A session that runs reads a frame that parses as a request. -/
structure Reads (s : AsyncGateway υ δ) (i : Nat) (session : AsyncSession υ)
    (request : DecodedRequest) : Prop where
  session_eq : s.sessions[i]? = some session
  running : session.running = true
  upstreamType_eq : request.upstreamType = setup.upstream.transportType
  frame_eq : ∃ frame, (session.link.recv setup.upstream).1 = .ok frame ∧
    request.frame = frame.toList

/-- The gateway after the session has received. -/
def received (s : AsyncGateway υ δ) (i : Nat) : AsyncGateway υ δ :=
  s.modifySession i fun session =>
    { session with link := (session.link.recv setup.upstream).2 }

/-- The gateway after the session has taken a transaction id. -/
def numbered (s : AsyncGateway υ δ) (i : Nat) (session : AsyncSession υ) : AsyncGateway υ δ :=
  s.modifySession i fun session' => { session' with nextTxn := session.nextTxn + 1 }

/-- The gateway after a channel has been used. -/
def setDownstream (s : AsyncGateway υ δ) (channelIdx : Nat) (downstream : δ) : AsyncGateway υ δ :=
  { s with downstreams := s.downstreams.set channelIdx downstream }

/-- The frame a request is handed on in. -/
def downstreamAdu (s : AsyncGateway υ δ) (session : AsyncSession υ) (request : DecodedRequest) :
    List UInt8 :=
  frameBytes setup.downstreamType session.nextTxn (s.router.rewrite request.unit).get
    request.pdu.rawBytes

/-- The channel a request is routed to. -/
structure Routed (s : AsyncGateway υ δ) (request : DecodedRequest) (channelIdx : Nat)
    (downstream : δ) : Prop where
  route_eq : s.router.route request.unit = some channelIdx
  downstream_eq : s.downstreams[channelIdx]? = some downstream

/-- The ways a request ends. -/
inductive Served (s : AsyncGateway υ δ) (i : Nat) (session : AsyncSession υ)
    (request : DecodedRequest) : AsyncGateway υ δ → Prop
  | unrouted (h : ∀ channelIdx downstream, ¬Routed s request channelIdx downstream) :
    Served s i session request (s.sendAsyncException setup i request .serverDeviceFailure)
  | unencodable (channelIdx : Nat) (downstream : δ) (h : Routed s request channelIdx downstream)
    (hfits : ¬FitsFrame setup.downstreamType request.pdu.rawBytes) :
    Served s i session request (s.numbered i session)
  | unsent (channelIdx : Nat) (downstream device : δ) (e : MbusError)
    (h : Routed s request channelIdx downstream)
    (hfits : FitsFrame setup.downstreamType request.pdu.rawBytes)
    (hsend : setup.send (downstreamAdu setup s session request) downstream = (.error e, device)) :
    Served s i session request ((s.numbered i session).setDownstream channelIdx device)
  | unheard (channelIdx : Nat) (downstream device device' : δ) (e : MbusError)
    (h : Routed s request channelIdx downstream)
    (hfits : FitsFrame setup.downstreamType request.pdu.rawBytes)
    (hsend : setup.send (downstreamAdu setup s session request) downstream = (.ok (), device))
    (hrecv : setup.recvTimeout device = (some (.error e), device')) :
    Served s i session request ((s.numbered i session).setDownstream channelIdx device')
  | timedOut (channelIdx : Nat) (downstream device device' : δ)
    (h : Routed s request channelIdx downstream)
    (hfits : FitsFrame setup.downstreamType request.pdu.rawBytes)
    (hsend : setup.send (downstreamAdu setup s session request) downstream = (.ok (), device))
    (hrecv : setup.recvTimeout device = (none, device')) :
    Served s i session request
      (((s.numbered i session).setDownstream channelIdx device').sendAsyncException setup i request
        .gatewayTargetDeviceFailedToRespond)
  | heard (channelIdx : Nat) (downstream device device' : δ) (bytes : HVec UInt8 maxAduFrameLen)
    (h : Routed s request channelIdx downstream)
    (hfits : FitsFrame setup.downstreamType request.pdu.rawBytes)
    (hsend : setup.send (downstreamAdu setup s session request) downstream = (.ok (), device))
    (hrecv : setup.recvTimeout device = (some (.ok bytes), device')) :
    Served s i session request
      (((s.numbered i session).setDownstream channelIdx device').returnResponse setup i request
        bytes.toList)

variable {setup}

/-! ### The exchange with a channel -/

section Exchange

variable {s : AsyncGateway υ δ} {channelIdx : Nat} {downstream device : δ} {adu : List UInt8}

lemma exchange_unsent (h : s.downstreams[channelIdx]? = some downstream) {e : MbusError}
    (hsend : setup.send adu downstream = (.error e, device)) :
    s.exchange setup channelIdx adu = (.sendFailed, s.setDownstream channelIdx device) := by
  rw [exchange, h]
  dsimp only
  rw [hsend]
  rfl

lemma exchange_sent (h : s.downstreams[channelIdx]? = some downstream)
    (hsend : setup.send adu downstream = (.ok (), device)) :
    s.exchange setup channelIdx adu =
      (match (setup.recvTimeout device).1 with
        | some (.ok bytes) => .received bytes
        | some (.error _) => .recvFailed
        | none => .timedOut, s.setDownstream channelIdx (setup.recvTimeout device).2) := by
  unfold exchange
  generalize setup.recvTimeout = recvTimeout
  simp only [h, hsend]
  rcases recvTimeout device with ⟨_ | _ | bytes, device'⟩ <;> rfl

end Exchange

lemma forwardRequest_eq (s : AsyncGateway υ δ) (i channelIdx : Nat) (session : AsyncSession υ)
    (request : DecodedRequest) :
    s.forwardRequest setup i channelIdx session request =
      match compileAduFrame session.nextTxn (s.router.rewrite request.unit).get request.pdu
          setup.downstreamType with
      | .error _ => s.numbered i session
      | .ok dsAdu =>
        match (s.numbered i session).exchange setup channelIdx dsAdu.toList with
        | (.sendFailed, s) => s
        | (.recvFailed, s) => s
        | (.timedOut, s) =>
          s.sendAsyncException setup i request .gatewayTargetDeviceFailedToRespond
        | (.received responseBytes, s) => s.returnResponse setup i request responseBytes.toList :=
  rfl

lemma serveRequest_cases (s : AsyncGateway υ δ) (i : Nat) (session : AsyncSession υ)
    (request : DecodedRequest) :
    Served setup s i session request (s.serveRequest setup i session request) := by
  unfold serveRequest
  cases hroute : s.router.route request.unit with
  | none =>
    refine .unrouted fun channelIdx downstream h => ?_
    have hsome := h.route_eq
    rw [hroute] at hsome
    cases hsome
  | some channelIdx =>
    dsimp only
    split
    next hlen =>
      refine .unrouted fun channelIdx' downstream h => ?_
      have hsome := h.route_eq
      rw [hroute] at hsome
      cases hsome
      have hlt := (List.getElem?_eq_some_iff.mp h.downstream_eq).1
      exact absurd hlt (Nat.not_lt.mpr hlen)
    next hlen =>
      have hlt : channelIdx < s.downstreams.length := Nat.lt_of_not_le hlen
      have hdownstream := List.getElem?_eq_getElem hlt
      have hrouted : Routed s request channelIdx s.downstreams[channelIdx] := ⟨hroute, hdownstream⟩
      rw [forwardRequest_eq]
      cases hadu : compileAduFrame session.nextTxn (s.router.rewrite request.unit).get request.pdu
          setup.downstreamType with
      | error e =>
        refine .unencodable channelIdx _ hrouted fun hfits => ?_
        obtain ⟨adu, hok, _⟩ := compileAduFrame_ok setup.downstreamType session.nextTxn
          (s.router.rewrite request.unit).get request.pdu hfits
        rw [hok] at hadu
        cases hadu
      | ok adu =>
        obtain ⟨hfits, hbytes⟩ := compileAduFrame_eq_ok hadu
        have hbytes : adu.toList = downstreamAdu setup s session request := hbytes
        have hdownstream' : (s.numbered i session).downstreams[channelIdx]? =
            some s.downstreams[channelIdx] := hdownstream
        dsimp only
        rw [hbytes]
        rcases hsend : setup.send (downstreamAdu setup s session request)
          s.downstreams[channelIdx] with ⟨_ | _, device⟩
        · rw [exchange_unsent hdownstream' hsend]
          exact .unsent channelIdx _ device _ hrouted hfits hsend
        · rw [exchange_sent hdownstream' hsend]
          rcases hrecv : setup.recvTimeout device with ⟨_ | _ | bytes, device'⟩
          · exact .timedOut channelIdx _ device device' hrouted hfits hsend hrecv
          · exact .unheard channelIdx _ device device' _ hrouted hfits hsend hrecv
          · exact .heard channelIdx _ device device' bytes hrouted hfits hsend hrecv

/-- A round that reads a request serves it. -/
lemma sessionRound_of_reads {s : AsyncGateway υ δ} {i : Nat} {session : AsyncSession υ}
    {request : DecodedRequest} (h : Reads setup s i session request) :
    s.sessionRound setup i = (s.received setup i).serveRequest setup i session request := by
  obtain ⟨upstreamType, frame, message, hdecoded⟩ := request
  obtain ⟨hsession, hrunning, rfl, bytes, hbytes, rfl⟩ := h
  unfold sessionRound
  rw [hsession]
  dsimp only
  rw [hrunning, hbytes]
  simp only [Bool.not_true, Bool.false_eq_true, if_false]
  split
  next hpanic =>
    rw [hdecoded] at hpanic
    cases hpanic
  next hpanic =>
    rw [hdecoded] at hpanic
    cases hpanic
  next message' hmessage =>
    rw [hdecoded] at hmessage
    cases hmessage
    rfl

variable (setup) in
/-- What a round leaves behind that reads no request. -/
def unread (s : AsyncGateway υ δ) (i : Nat) : AsyncGateway υ δ :=
  match s.sessions[i]? with
  | none => s
  | some session =>
    if !session.running then s
    else match (session.link.recv setup.upstream).1 with
      | .error _ => (s.received setup i).endSession i
      | .ok frame =>
        if decompileAduFrame frame.toList setup.upstream.transportType = .panic then
          (s.received setup i).endSession i
        else s.received setup i

lemma sessionRound_of_not_reads {s : AsyncGateway υ δ} {i : Nat}
    (h : ∀ session request, ¬Reads setup s i session request) :
    s.sessionRound setup i = s.unread setup i := by
  unfold sessionRound unread
  cases hsession : s.sessions[i]? with
  | none => rfl
  | some session =>
    dsimp only
    cases hrunning : session.running with
    | false => rfl
    | true =>
      simp only [Bool.not_true, Bool.false_eq_true, if_false]
      cases hframe : (session.link.recv setup.upstream).1 with
      | error e => rfl
      | ok frame =>
        dsimp only
        split
        next hpanic =>
          rw [if_pos hpanic]
          rfl
        next e herr =>
          rw [if_neg (by rw [herr]; rintro ⟨⟩)]
          rfl
        next message hmessage =>
          exact absurd ⟨hsession, hrunning, rfl, frame, hframe, rfl⟩
            (h session ⟨_, _, message, hmessage⟩)

variable (setup) in
/-- It leaves the channels and the replies alone. -/
lemma unread_frame (s : AsyncGateway υ δ) (i : Nat) :
    (s.unread setup i).downstreams = s.downstreams ∧ (s.unread setup i).replies = s.replies := by
  unfold unread
  split
  · exact ⟨rfl, rfl⟩
  · split
    · exact ⟨rfl, rfl⟩
    · split
      · exact ⟨rfl, rfl⟩
      · split <;> exact ⟨rfl, rfl⟩

/-! ### The replies of a round -/

section Replies

variable {s : AsyncGateway υ δ} {i : Nat} {session : AsyncSession υ} {request : DecodedRequest}

omit [Features] in
lemma isSome_modifySession {f : AsyncSession υ → AsyncSession υ} {j : Nat}
    (h : (s.sessions[i]?).isSome = true) :
    ((s.modifySession j f).sessions[i]?).isSome = true := by
  rw [modifySession, List.getElem?_modify]
  cases hsession : s.sessions[i]? with
  | none =>
    rw [hsession] at h
    cases h
  | some session => rfl

lemma replies_sendReply (h : (s.sessions[i]?).isSome = true) (adu : List UInt8)
    (delivery : Option (List UInt8)) :
    (s.sendReply setup i request adu delivery).2.replies =
      s.replies ++ [⟨i, request, adu, delivery⟩] := by
  obtain ⟨session, hsession⟩ := Option.isSome_iff_exists.mp h
  rw [sendReply, hsession]

variable (setup request)

/-- An exception always fits its frame. -/
lemma replies_sendAsyncException (h : (s.sessions[i]?).isSome = true) (code : ExceptionCode) :
    (s.sendAsyncException setup i request code).replies =
      s.replies ++ [⟨i, request, exceptionAdu request code, none⟩] := by
  obtain ⟨exceptionFc, hexc⟩ := Option.ne_none_iff_exists'.mp request.fc_isPlain
  obtain ⟨pdu, adu, hbuild, hadu, hlist⟩ := compileAduFrame_exception request.upstreamType
    request.upstreamTxn request.unit.get hexc code.toByte
  have hadu' : (do
      let pdu ← Pdu.buildBytePayload exceptionFc code.toByte
      compileAduFrame request.upstreamTxn request.unit.get pdu request.upstreamType) = .ok adu := by
    rw [hbuild, Except.ok_bind, hadu]
  unfold sendAsyncException
  rw [hexc]
  dsimp only
  rw [hadu']
  dsimp only
  rw [replies_sendReply h, hlist]
  rfl

lemma replies_returnResponse (h : (s.sessions[i]?).isSome = true) (responseBytes : List UInt8) :
    (∃ response, decompileAduFrame responseBytes setup.downstreamType = .ok response ∧
        FitsFrame request.upstreamType response.pdu.rawBytes ∧
        (s.returnResponse setup i request responseBytes).replies = s.replies ++
          [⟨i, request, frameBytes request.upstreamType request.upstreamTxn request.unit.get
            response.pdu.rawBytes, some responseBytes⟩]) ∨
      ((∀ response, decompileAduFrame responseBytes setup.downstreamType = .ok response →
          ¬FitsFrame request.upstreamType response.pdu.rawBytes) ∧
        (s.returnResponse setup i request responseBytes).replies = s.replies) := by
  unfold returnResponse
  cases hdecode : decompileAduFrame responseBytes setup.downstreamType with
  | panic => exact Or.inr ⟨fun _ h _ => (nomatch h), rfl⟩
  | err e => exact Or.inr ⟨fun _ h _ => (nomatch h), rfl⟩
  | ok response =>
    dsimp only
    cases hadu : compileAduFrame request.upstreamTxn request.unit.get response.pdu
        request.upstreamType with
    | error e =>
      refine Or.inr ⟨fun response' hok hfits => ?_, rfl⟩
      cases hok
      obtain ⟨adu, hok, _⟩ := compileAduFrame_ok request.upstreamType request.upstreamTxn
        request.unit.get response.pdu hfits
      rw [hok] at hadu
      cases hadu
    | ok adu =>
      obtain ⟨hfits, hbytes⟩ := compileAduFrame_eq_ok hadu
      refine Or.inl ⟨response, rfl, hfits, ?_⟩
      rw [← hbytes]
      dsimp only
      split
      · exact replies_sendReply h _ _
      · exact replies_sendReply h _ _

/-- Replying does not touch the channels. -/
lemma downstreams_sendReply (adu : List UInt8) (delivery : Option (List UInt8)) :
    (s.sendReply setup i request adu delivery).2.downstreams = s.downstreams := by
  unfold sendReply
  split <;> rfl

lemma downstreams_sendAsyncException (code : ExceptionCode) :
    (s.sendAsyncException setup i request code).downstreams = s.downstreams := by
  unfold sendAsyncException
  split
  · rfl
  · split
    · exact downstreams_sendReply setup request _ _
    · rfl

lemma downstreams_returnResponse (responseBytes : List UInt8) :
    (s.returnResponse setup i request responseBytes).downstreams = s.downstreams := by
  unfold returnResponse
  split
  · rfl
  · rfl
  · split
    · rfl
    · dsimp only
      split
      · exact downstreams_sendReply setup request _ _
      · exact downstreams_sendReply setup request _ _

end Replies

/-! ### What a round does -/

omit [Features] in
/-- The replies added, if any, carry no response. -/
def Silent (s s' : AsyncGateway υ δ) : Prop :=
  ∃ added, s'.replies = s.replies ++ added ∧ ∀ reply ∈ added, reply.delivery = none

variable (setup) in
/-- The channel cannot take the frame, or it has no response to it. -/
def GivesUp (adu : List UInt8) (downstream device : δ) : Prop :=
  (∃ e, setup.send adu downstream = (.error e, device)) ∨
    ∃ sent, setup.send adu downstream = (.ok (), sent) ∧
      ((∃ e, setup.recvTimeout sent = (some (.error e), device)) ∨
        setup.recvTimeout sent = (none, device))

variable (setup) in
/-- What a round does to the channels and to the replies. -/
inductive Rounded (s : AsyncGateway υ δ) (i : Nat) (s' : AsyncGateway υ δ) : Prop
  | idle (hdownstreams : s'.downstreams = s.downstreams) (hsilent : Silent s s')
  | unanswered (session : AsyncSession υ) (request : DecodedRequest) (channelIdx : Nat)
    (downstream device : δ) (hreads : Reads setup s i session request)
    (hrouted : Routed s request channelIdx downstream)
    (hfits : FitsFrame setup.downstreamType request.pdu.rawBytes)
    (hend : GivesUp setup (downstreamAdu setup s session request) downstream device)
    (hset : s'.downstreams = s.downstreams.set channelIdx device) (hsilent : Silent s s')
  | heard (session : AsyncSession υ) (request : DecodedRequest) (channelIdx : Nat)
    (downstream sent device : δ) (bytes : HVec UInt8 maxAduFrameLen)
    (hreads : Reads setup s i session request)
    (hrouted : Routed s request channelIdx downstream)
    (hfits : FitsFrame setup.downstreamType request.pdu.rawBytes)
    (hsend : setup.send (downstreamAdu setup s session request) downstream = (.ok (), sent))
    (hrecv : setup.recvTimeout sent = (some (.ok bytes), device))
    (hset : s'.downstreams = s.downstreams.set channelIdx device)
    (hreplies : s'.replies = s.replies ∨
      ∃ adu, s'.replies = s.replies ++ [⟨i, request, adu, some bytes.toList⟩])

section Rounded

variable {s s' : AsyncGateway υ δ} {i : Nat}

omit [Features] in
lemma Silent.of_eq (h : s'.replies = s.replies) : Silent s s' :=
  ⟨[], by rw [h, List.append_nil], by simp⟩

omit [Features] in
/-- A silent step forwards nothing. -/
lemma Silent.absurd (h : Silent s s') {added : List AsyncReply}
    (hadded : s'.replies = s.replies ++ added) {reply : AsyncReply} (hreply : reply ∈ added)
    {responseFrame : List UInt8} (hdelivery : reply.delivery = some responseFrame) : False := by
  obtain ⟨added', hadded', hnone⟩ := h
  rw [hadded'] at hadded
  have hnone := hnone reply (List.append_cancel_left hadded ▸ hreply)
  rw [hdelivery] at hnone
  cases hnone

lemma Silent.sendAsyncException (hsome : (s'.sessions[i]?).isSome = true)
    (h : s'.replies = s.replies) (request : DecodedRequest) (code : ExceptionCode) :
    Silent s (s'.sendAsyncException setup i request code) := by
  refine ⟨_, by rw [replies_sendAsyncException setup request hsome, h], fun reply hreply => ?_⟩
  rw [List.mem_singleton.mp hreply]

omit [Features] in
lemma Routed.congr {request : DecodedRequest} {channelIdx : Nat} {downstream : δ}
    (h : Routed s' request channelIdx downstream) (hrouter : s'.router = s.router)
    (hdownstreams : s'.downstreams = s.downstreams) : Routed s request channelIdx downstream := by
  obtain ⟨hroute, hdownstream⟩ := h
  rw [hrouter] at hroute
  rw [hdownstreams] at hdownstream
  exact ⟨hroute, hdownstream⟩

lemma sessionRound_cases (s : AsyncGateway υ δ) (i : Nat) :
    Rounded setup s i (s.sessionRound setup i) := by
  by_cases hread : ∃ session request, Reads setup s i session request
  · obtain ⟨session, request, hreads⟩ := hread
    have hsome : ((s.received setup i).sessions[i]?).isSome = true := by
      refine isSome_modifySession ?_
      rw [hreads.session_eq]
      rfl
    have hused : ∀ channelIdx device, ((((s.received setup i).numbered i session).setDownstream
        channelIdx device).sessions[i]?).isSome = true := fun _ _ => isSome_modifySession hsome
    have hsame : ∀ channelIdx device, (((s.received setup i).numbered i session).setDownstream
        channelIdx device).replies = s.replies := fun _ _ => rfl
    rw [sessionRound_of_reads hreads]
    have hcases : Served setup (s.received setup i) i session request _ :=
      serveRequest_cases _ i session request
    generalize (s.received setup i).serveRequest setup i session request = s' at hcases ⊢
    cases hcases with
    | unrouted hnone =>
      exact .idle (downstreams_sendAsyncException setup request _)
        (.sendAsyncException hsome rfl request _)
    | unencodable channelIdx downstream hrouted hfits => exact .idle rfl (.of_eq rfl)
    | unsent channelIdx downstream device e hrouted hfits hsend =>
      exact .unanswered session request channelIdx downstream device hreads (hrouted.congr rfl rfl)
        hfits (Or.inl ⟨e, hsend⟩) rfl (.of_eq rfl)
    | unheard channelIdx downstream sent device e hrouted hfits hsend hrecv =>
      exact .unanswered session request channelIdx downstream device hreads (hrouted.congr rfl rfl)
        hfits (Or.inr ⟨sent, hsend, Or.inl ⟨e, hrecv⟩⟩) rfl (.of_eq rfl)
    | timedOut channelIdx downstream sent device hrouted hfits hsend hrecv =>
      exact .unanswered session request channelIdx downstream device hreads (hrouted.congr rfl rfl)
        hfits (Or.inr ⟨sent, hsend, Or.inr hrecv⟩) (downstreams_sendAsyncException setup request _)
        (.sendAsyncException (hused _ _) (hsame _ _) request _)
    | heard channelIdx downstream sent device bytes hrouted hfits hsend hrecv =>
      refine .heard session request channelIdx downstream sent device bytes hreads
        (hrouted.congr rfl rfl) hfits hsend hrecv (downstreams_returnResponse setup request _) ?_
      rcases replies_returnResponse setup request (hused channelIdx device) bytes.toList with
        ⟨response, _, _, hsent⟩ | ⟨_, hnothing⟩
      · exact Or.inr ⟨_, hsent⟩
      · exact Or.inl hnothing
  · have hnone : ∀ session request, ¬Reads setup s i session request := by
      intro session request h
      exact hread ⟨session, request, h⟩
    obtain ⟨hdownstreams, hreplies⟩ := unread_frame setup s i
    rw [sessionRound_of_not_reads hnone]
    exact .idle hdownstreams (.of_eq hreplies)

lemma replies_sessionRound (s : AsyncGateway υ δ) (i : Nat) :
    ∃ added, (s.sessionRound setup i).replies = s.replies ++ added := by
  have hcases : Rounded setup s i _ := sessionRound_cases s i
  generalize s.sessionRound setup i = s' at hcases ⊢
  cases hcases with
  | idle _ hsilent =>
    obtain ⟨added, hadded, _⟩ := hsilent
    exact ⟨added, hadded⟩
  | unanswered _ _ _ _ _ _ _ _ _ _ hsilent =>
    obtain ⟨added, hadded, _⟩ := hsilent
    exact ⟨added, hadded⟩
  | heard _ _ _ _ _ _ _ _ _ _ _ _ _ hreplies =>
    rcases hreplies with hsame | ⟨adu, hsent⟩
    · exact ⟨[], by rw [hsame, List.append_nil]⟩
    · exact ⟨_, hsent⟩

end Rounded

end ModbusRs.Gateway.AsyncGateway
