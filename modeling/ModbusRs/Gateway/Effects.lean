import ModbusRs.Gateway.Steps
import ModbusRs.Library.Lists

/-!
# What the gateway's operations change

Each operation on the services with the parts it leaves alone, and the steps that hand a
request on taken apart into the ways they can end.
-/

namespace ModbusRs.Gateway

open Outcome

namespace DecodedRequest

/-- Its address is the byte on the wire up to 247, and 255 above. -/
lemma unit_get (request : DecodedRequest) :
    request.unit.get = if wireUnit request.upstreamType request.frame ≤ 247
      then wireUnit request.upstreamType request.frame else 255 := by
  obtain ⟨_, hunit, _⟩ := decompileAduFrame_eq_ok request.decoded
  rw [unit, ModbusMessage.unitIdOrSlaveAddr_get, hunit]

lemma upstreamTxn_eq (request : DecodedRequest) :
    request.upstreamTxn = wireTxnId request.upstreamType request.frame :=
  (decompileAduFrame_eq_ok request.decoded).2.2.1

lemma fc_isPlain (request : DecodedRequest) : request.fc.IsPlain := by
  obtain ⟨_, _, _, hpdu⟩ := decompileAduFrame_eq_ok request.decoded
  obtain ⟨_, _, hplain, _⟩ := Pdu.fromBytes_eq_ok hpdu
  exact hplain

end DecodedRequest

lemma decodeRequest_eq_some {id connection : Nat} {sessionIdx : UInt8} {tt : TransportType}
    {frame : List UInt8} {request : UpstreamRequest}
    (h : decodeRequest id sessionIdx connection tt frame = some request) :
    request.id = id ∧ request.sessionIdx = sessionIdx ∧ request.connection = connection ∧
      request.upstreamType = tt ∧ request.frame = frame := by
  unfold decodeRequest at h
  split at h
  · cases h
    exact ⟨rfl, rfl, rfl, rfl, rfl⟩
  · cases h

/-- The exceptions the gateway sends of its own accord. -/
def OfGateway (code : ExceptionCode) : Prop :=
  code = .gatewayPathUnavailable ∨ code = .gatewayTargetDeviceFailedToRespond

/-- The exception sent for a request. -/
def exceptionAdu (request : DecodedRequest) (code : ExceptionCode) : List UInt8 :=
  frameBytes request.upstreamType request.upstreamTxn request.unit.get
    [request.fc.toByte ||| 0x80, code.toByte]

/-- The request a channel waits for, with the internal id it went out under. -/
def ChannelState.outstanding : ChannelState → Option (UInt16 × PendingRequest)
  | .idle => none
  | .awaitingResponse internalTxn _ request => some (internalTxn, request)

namespace GatewayServices

variable [Features] {cap : Capacity} {υ δ : Type} {setup : GatewaySetup υ δ}

/-- The requests the channels wait for. -/
def awaiting (s : GatewayServices cap υ δ) : List (UInt16 × PendingRequest) :=
  s.downstreams.toList.filterMap (·.state.outstanding)

/-- The requests that have not been answered yet: in the queue or sent down. -/
def waiting (s : GatewayServices cap υ δ) : List UpstreamRequest :=
  s.pending.toList.map (·.toUpstreamRequest) ++ s.awaiting.map (·.2.toUpstreamRequest)

/-- The upstreams by their session ids. -/
def sessions (s : GatewayServices cap υ δ) : List (UInt8 × Nat) :=
  s.upstreams.toList.map fun channel => (channel.sessionId, channel.connection)

section Frame

variable (s : GatewayServices cap υ δ) (up i : Nat) (request : UpstreamRequest)

section SendReply

variable (adu : List UInt8) (delivery : Option Delivery)

@[simp] lemma sendReply_downstreams :
    (s.sendReply setup up request adu delivery).2.downstreams = s.downstreams := by
  unfold sendReply
  split <;> rfl

@[simp] lemma sendReply_router :
    (s.sendReply setup up request adu delivery).2.router = s.router := by
  unfold sendReply
  split <;> rfl

@[simp] lemma sendReply_txnMap :
    (s.sendReply setup up request adu delivery).2.txnMap = s.txnMap := by
  unfold sendReply
  split <;> rfl

@[simp] lemma sendReply_pending :
    (s.sendReply setup up request adu delivery).2.pending = s.pending := by
  unfold sendReply
  split <;> rfl

@[simp] lemma sendReply_accepted :
    (s.sendReply setup up request adu delivery).2.accepted = s.accepted := by
  unfold sendReply
  split <;> rfl

end SendReply

/-- An exception always fits its frame. -/
lemma sendExceptionUpstream_some (code : ExceptionCode) :
    s.sendExceptionUpstream setup (some up) request code =
      (s.sendReply setup up request (exceptionAdu request.toDecodedRequest code) none).2 := by
  obtain ⟨exceptionFc, hexc⟩ := Option.ne_none_iff_exists'.mp request.fc_isPlain
  obtain ⟨pdu, adu, hbuild, hadu, hlist⟩ := compileAduFrame_exception request.upstreamType
    request.upstreamTxn request.unit.get hexc code.toByte
  unfold sendExceptionUpstream
  simp only [hexc, hbuild, Except.ok_bind, hadu]
  rw [hlist]
  rfl

lemma sendExceptionUpstream_none (code : ExceptionCode) :
    s.sendExceptionUpstream setup none request code = s := rfl

variable (upstream : Option Nat) (code : ExceptionCode)

@[simp] lemma sendExceptionUpstream_downstreams :
    (s.sendExceptionUpstream setup upstream request code).downstreams = s.downstreams := by
  cases upstream with
  | none => rfl
  | some up => rw [sendExceptionUpstream_some, sendReply_downstreams]

@[simp] lemma sendExceptionUpstream_router :
    (s.sendExceptionUpstream setup upstream request code).router = s.router := by
  cases upstream with
  | none => rfl
  | some up => rw [sendExceptionUpstream_some, sendReply_router]

@[simp] lemma sendExceptionUpstream_txnMap :
    (s.sendExceptionUpstream setup upstream request code).txnMap = s.txnMap := by
  cases upstream with
  | none => rfl
  | some up => rw [sendExceptionUpstream_some, sendReply_txnMap]

@[simp] lemma sendExceptionUpstream_pending :
    (s.sendExceptionUpstream setup upstream request code).pending = s.pending := by
  cases upstream with
  | none => rfl
  | some up => rw [sendExceptionUpstream_some, sendReply_pending]

@[simp] lemma sendExceptionUpstream_accepted :
    (s.sendExceptionUpstream setup upstream request code).accepted = s.accepted := by
  cases upstream with
  | none => rfl
  | some up => rw [sendExceptionUpstream_some, sendReply_accepted]

/-- Where a reply to a session may go: to the first upstream with its id, or to a given one
that has it. -/
def Addresses (upstream : Option Nat) (sessionIdx : UInt8) : Prop :=
  upstream = s.findUpstream sessionIdx ∨
    ∃ up channel, upstream = some up ∧ s.upstreams.toList[up]? = some channel ∧
      channel.sessionId = sessionIdx

end Frame

lemma findUpstream_eq_some {s : GatewayServices cap υ δ} {sessionIdx : UInt8} {up : Nat}
    (h : s.findUpstream sessionIdx = some up) :
    ∃ channel, s.upstreams.toList[up]? = some channel ∧ channel.sessionId = sessionIdx := by
  obtain ⟨hlt, hid, _⟩ := List.findIdx?_eq_some_iff_getElem.mp h
  exact ⟨s.upstreams.toList[up], List.getElem?_eq_getElem hlt, eq_of_beq hid⟩

lemma Addresses.sessionId_eq {s : GatewayServices cap υ δ} {sessionIdx : UInt8} {up : Nat}
    {channel : UpstreamChannel υ} (h : s.Addresses (some up) sessionIdx)
    (hup : s.upstreams.toList[up]? = some channel) : channel.sessionId = sessionIdx := by
  rcases h with hfind | ⟨_, channel', heq, hup', hid⟩
  · obtain ⟨channel', hup', hid⟩ := findUpstream_eq_some hfind.symm
    rw [hup] at hup'
    cases hup'
    exact hid
  · cases heq
    rw [hup] at hup'
    cases hup'
    exact hid

lemma channelIdle_iff {s : GatewayServices cap υ δ} {i : Nat} :
    s.channelIdle i = true ↔
      ∃ channel, s.downstreams.toList[i]? = some channel ∧ channel.state = .idle := by
  unfold channelIdle
  split
  next channel hi =>
    constructor
    · intro h
      refine ⟨channel, hi, ?_⟩
      cases hstate : channel.state with
      | idle => rfl
      | awaitingResponse internalTxn deadlineMs request =>
        rw [hstate] at h
        cases h
    · rintro ⟨channel', hi', hstate⟩
      rw [hi] at hi'
      cases hi'
      rw [hstate]
      rfl
  next hi =>
    simp only [Bool.false_eq_true, false_iff]
    rintro ⟨channel, hi', _⟩
    rw [hi] at hi'
    cases hi'

/-! ### The ways a request is passed on -/

variable (setup) in
/-- The ways `dispatch_to_downstream` ends. -/
inductive Dispatched (s : GatewayServices cap υ δ) (i : Nat) (request : PendingRequest)
    (nowMs : UInt64) : GatewayServices cap υ δ → Prop
  | refused (hfull : s.txnMap.entries.length = cap.txn) :
    Dispatched s i request nowMs
      (s.refuse setup request.toUpstreamRequest .gatewayTargetDeviceFailedToRespond)
  | unencodable (txnMap : TxnMap cap.txn) (internalTxn : UInt16)
    (halloc : s.txnMap.allocate request.upstreamTxn request.sessionIdx =
      (some internalTxn, txnMap))
    (hfits : ¬FitsFrame setup.downstream.transportType request.pdu.rawBytes) :
    Dispatched s i request nowMs (({ s with txnMap } : GatewayServices cap υ δ).removeTxn internalTxn)
  | unsent (txnMap : TxnMap cap.txn) (internalTxn : UInt16) (adu : List UInt8)
    (halloc : s.txnMap.allocate request.upstreamTxn request.sessionIdx =
      (some internalTxn, txnMap)) :
    Dispatched s i request nowMs
      (((({ s with txnMap } : GatewayServices cap υ δ).sendDownstream setup i adu).2.removeTxn
        internalTxn).refuse setup request.toUpstreamRequest .gatewayPathUnavailable)
  | overflowed (txnMap : TxnMap cap.txn) (internalTxn : UInt16) (adu : List UInt8)
    (halloc : s.txnMap.allocate request.upstreamTxn request.sessionIdx =
      (some internalTxn, txnMap))
    (hdeadline : deadline setup nowMs = .panic) :
    Dispatched s i request nowMs
      (({ s with txnMap } : GatewayServices cap υ δ).sendDownstream setup i adu).2
  | sent (txnMap : TxnMap cap.txn) (internalTxn : UInt16) (adu : List UInt8)
    (deadlineMs : UInt64)
    (halloc : s.txnMap.allocate request.upstreamTxn request.sessionIdx =
      (some internalTxn, txnMap)) :
    Dispatched s i request nowMs
      ((({ s with txnMap } : GatewayServices cap υ δ).sendDownstream setup i adu).2.setState i
        (.awaitingResponse internalTxn deadlineMs request))

lemma dispatchToDownstream_cases (s : GatewayServices cap υ δ) (i : Nat)
    (request : PendingRequest) (nowMs : UInt64) :
    Dispatched setup s i request nowMs
      ((GatewayM.dispatchToDownstream setup i request nowMs).run s).2 := by
  rcases halloc : s.txnMap.allocate request.upstreamTxn request.sessionIdx with ⟨internalTxn, txnMap⟩
  have hallocated : s.allocate request = (internalTxn, { s with txnMap }) := by
    rw [allocate, halloc]
  rw [GatewayM.dispatchToDownstream, GatewayM.run_update_bind, hallocated]
  dsimp only
  cases internalTxn with
  | none =>
    obtain ⟨hfull, rfl⟩ := TxnMap.allocate_eq_none halloc
    exact .refused hfull
  | some internalTxn =>
    dsimp only
    unfold GatewayM.forward
    cases hadu : compileAduFrame internalTxn request.downstreamUnit.get request.pdu
        setup.downstream.transportType with
    | error e =>
      refine .unencodable txnMap internalTxn halloc fun hfits => ?_
      obtain ⟨adu, hok, _⟩ := compileAduFrame_ok setup.downstream.transportType internalTxn
        request.downstreamUnit.get request.pdu hfits
      rw [hok] at hadu
      cases hadu
    | ok adu =>
      dsimp only
      rw [GatewayM.run_update_bind]
      cases hsend : (({ s with txnMap } : GatewayServices cap υ δ).sendDownstream setup i
          adu.toList).1 with
      | error e => exact .unsent txnMap internalTxn adu.toList halloc
      | ok _ =>
        dsimp only
        rw [EffM.run_lift_bind]
        cases hdeadline : deadline setup nowMs with
        | ok deadlineMs => exact .sent txnMap internalTxn adu.toList deadlineMs halloc
        | err e => cases e
        | panic => exact .overflowed txnMap internalTxn adu.toList halloc hdeadline

variable (setup) in
/-- The request a step sends down, and the channel it goes to. -/
def Dispatches (action : GatewayAction υ δ) (s : GatewayServices cap υ δ) (i : Nat)
    (request : PendingRequest) : Prop :=
  match action with
  | .serviceNext _ => s.routedChannel request.unit = some i ∧ s.channelIdle i = true ∧
    ∃ pending, s.pending.popFront = some (request, pending)
  | .upstreamRound up _ => s.routedChannel request.unit = some i ∧ s.channelIdle i = true ∧
    s.pending.toList = [] ∧
    (s.takeUpstreamFrame setup up).1 = some (some request.toUpstreamRequest) ∧
    request.downstreamUnit = s.router.rewrite request.unit
  | _ => False

variable (setup) in
/-- The ways a request in hand is passed on, where `dispatches` tells which requests are sent
down to which channel. -/
inductive HandedOn (dispatches : Nat → PendingRequest → Prop) (s : GatewayServices cap υ δ)
    (request : PendingRequest) (nowMs : UInt64) : GatewayServices cap υ δ → Prop
  | refused (upstream : Option Nat) (code : ExceptionCode) (hcode : OfGateway code)
    (haddresses : s.Addresses upstream request.sessionIdx) :
    HandedOn dispatches s request nowMs
      (s.sendExceptionUpstream setup upstream request.toUpstreamRequest code)
  | queued (pending : HVec PendingRequest cap.pending)
    (hpush : s.pending.push request = some pending) :
    HandedOn dispatches s request nowMs { s with pending }
  | dispatched (i : Nat) (s' : GatewayServices cap υ δ) (hdispatches : dispatches i request)
    (hidle : s.channelIdle i = true) (h : Dispatched setup s i request nowMs s') :
    HandedOn dispatches s request nowMs s'

section HandedOn

variable {dispatches : Nat → PendingRequest → Prop} {request : PendingRequest} {nowMs : UInt64}

lemma HandedOn.refuse (s : GatewayServices cap υ δ) {code : ExceptionCode}
    (hcode : OfGateway code) :
    HandedOn setup dispatches s request nowMs
      (s.refuse setup request.toUpstreamRequest code) :=
  .refused _ code hcode (Or.inl rfl)

lemma enqueue_cases (s : GatewayServices cap υ δ) :
    HandedOn setup dispatches s request nowMs
      ((GatewayM.enqueue setup request).run s).2 := by
  unfold GatewayM.enqueue
  rw [EffM.run_modify]
  cases hpush : s.pending.push request with
  | some pending => exact .queued pending hpush
  | none => exact .refuse s (Or.inr rfl)

end HandedOn

variable (setup) in
lemma serviceNext_cases (s : GatewayServices cap υ δ) (nowMs : UInt64) :
    (s.pending.popFront = none ∧ GatewayM.perform setup (.serviceNext nowMs) s = s) ∨
      ∃ request pending, s.pending.popFront = some (request, pending) ∧
        HandedOn setup (Dispatches setup (.serviceNext nowMs) s) { s with pending } request nowMs
          (GatewayM.perform setup (.serviceNext nowMs) s) := by
  rw [GatewayM.perform, GatewayM.serviceNext, EffM.run_gets_bind, id_eq]
  cases hpop : s.pending.popFront with
  | none => exact Or.inl ⟨rfl, rfl⟩
  | some popped =>
    obtain ⟨request, pending⟩ := popped
    refine Or.inr ⟨request, pending, rfl, ?_⟩
    dsimp only
    rw [EffM.run_modify_bind]
    cases hrouted : s.routedChannel request.unit with
    | none => exact .refuse _ (Or.inl rfl)
    | some i =>
      dsimp only
      split
      next hidle =>
        exact .dispatched i _ ⟨hrouted, hidle, pending, hpop⟩ hidle
          (dispatchToDownstream_cases _ i request nowMs)
      next hbusy =>
        rw [EffM.run_modify, requeue]
        have hlen : pending.toList.length + 1 ≤ cap.pending := by
          have hle := s.pending.length_le
          rwa [HVec.popFront_eq_some.mp hpop, List.length_cons] at hle
        have hpush : pending.push request = some ⟨pending.toList ++ [request], by simpa using hlen⟩ :=
          HVec.extendFromSlice_of_le (by simpa using hlen)
        refine Eq.mp (congrArg (HandedOn setup _ _ _ _) ?_) (HandedOn.queued _ hpush)
        dsimp only
        rw [hpush]
        rfl

lemma route_of_routedChannel {s : GatewayServices cap υ δ} {unit : UnitIdOrSlaveAddr} {i : Nat}
    (h : s.routedChannel unit = some i) : s.router.route unit = some i := by
  unfold routedChannel at h
  split at h
  next channelIdx hroute =>
    split at h
    · cases h
      exact hroute
    · cases h
  next => cases h

lemma handleRequest_cases {dispatches : Nat → PendingRequest → Prop}
    {s : GatewayServices cap υ δ} {up : Nat} {request : UpstreamRequest} {nowMs : UInt64}
    (hchannel : ∃ channel, s.upstreams.toList[up]? = some channel ∧
      channel.sessionId = request.sessionIdx)
    (hdispatches : ∀ i, s.routedChannel request.unit = some i → s.channelIdle i = true →
      s.pending.toList = [] → dispatches i ⟨request, s.router.rewrite request.unit⟩) :
    HandedOn setup dispatches s ⟨request, s.router.rewrite request.unit⟩ nowMs
      ((GatewayM.handleRequest setup up request nowMs).run s).2 := by
  obtain ⟨channel, hup, hsession⟩ := hchannel
  rw [GatewayM.handleRequest, EffM.run_gets_bind, id_eq]
  cases hrouted : s.routedChannel request.unit with
  | none =>
    exact .refused _ .gatewayPathUnavailable (Or.inl rfl) (Or.inr ⟨up, channel, rfl, hup, hsession⟩)
  | some i =>
    dsimp only
    rw [GatewayM.routeOrQueueRequest, EffM.run_gets_bind, id_eq]
    split
    next => exact enqueue_cases s
    next hempty =>
      have hnil : s.pending.toList = [] := by
        simpa using hempty
      have hroute : s.router.route (PendingRequest.mk request
          (s.router.rewrite request.unit)).unit = some i := route_of_routedChannel hrouted
      rw [EffM.run_lift_bind, hroute]
      simp only [unwrap_some]
      split
      next hidle =>
        exact .dispatched i _ (hdispatches i hrouted hidle hnil) hidle
          (dispatchToDownstream_cases s i _ nowMs)
      next => exact enqueue_cases s

/-- A frame is taken out of the buffer of an upstream. -/
def dropFrame (s : GatewayServices cap υ δ) (up expectedLen : Nat) : GatewayServices cap υ δ :=
  { s with upstreams := s.upstreams.modify up fun channel =>
    { channel with rxbuf := channel.rxbuf.dropFirst expectedLen } }

/-- The request is accepted. -/
def accept (s : GatewayServices cap υ δ) (request : UpstreamRequest) : GatewayServices cap υ δ :=
  { s with accepted := s.accepted ++ [request] }

/-- The request is the next one, and it came from the channel. -/
structure ComesFrom (s : GatewayServices cap υ δ) (request : UpstreamRequest)
    (channel : UpstreamChannel υ) : Prop where
  id_eq : request.id = s.accepted.length
  sessionIdx_eq : request.sessionIdx = channel.sessionId
  connection_eq : request.connection = channel.connection

variable (setup) in
/-- The next complete frame of an upstream, if there is one. -/
lemma takeUpstreamFrame_cases (s : GatewayServices cap υ δ) (up : Nat) :
    s.takeUpstreamFrame setup up = (none, s) ∨
      ∃ channel expectedLen, s.upstreams.toList[up]? = some channel ∧
        (s.takeUpstreamFrame setup up = (some none, s.dropFrame up expectedLen) ∨
          ∃ request : UpstreamRequest, s.ComesFrom request channel ∧
            s.takeUpstreamFrame setup up =
              (some (some request), (s.dropFrame up expectedLen).accept request)) := by
  unfold takeUpstreamFrame
  cases hup : s.upstreams.toList[up]? with
  | none => exact Or.inl rfl
  | some channel =>
    dsimp only
    cases hlen : completeLength (setup.transportTypeRt channel.link.state) channel.rxbuf with
    | none => exact Or.inl rfl
    | some expectedLen =>
      refine Or.inr ⟨channel, expectedLen, rfl, ?_⟩
      dsimp only
      cases hdecode : decodeRequest s.accepted.length channel.sessionId channel.connection
          (setup.transportTypeRt channel.link.state)
          (channel.rxbuf.toList.take expectedLen) with
      | none => exact Or.inl rfl
      | some request =>
        obtain ⟨hid, hsession, hconnection, _⟩ := decodeRequest_eq_some hdecode
        exact Or.inr ⟨request, ⟨hid, hsession, hconnection⟩, rfl⟩

variable (setup) in
/-- The ways a round of the framing loop ends. -/
inductive Rounded (s : GatewayServices cap υ δ) (up : Nat) (nowMs : UInt64) :
    GatewayServices cap υ δ → Prop
  | nothing (htake : (s.takeUpstreamFrame setup up).1 = none) : Rounded s up nowMs s
  | undecodable (expectedLen : Nat) (htake : (s.takeUpstreamFrame setup up).1 = some none) :
    Rounded s up nowMs (s.dropFrame up expectedLen)
  | accepted (s' : GatewayServices cap υ δ) (channel : UpstreamChannel υ) (expectedLen : Nat)
    (request : UpstreamRequest) (hup : s.upstreams.toList[up]? = some channel)
    (hfrom : s.ComesFrom request channel)
    (htake : (s.takeUpstreamFrame setup up).1 = some (some request))
    (hon : HandedOn setup (Dispatches setup (.upstreamRound up nowMs) s)
      ((s.dropFrame up expectedLen).accept request) ⟨request, s.router.rewrite request.unit⟩
      nowMs s') : Rounded s up nowMs s'

variable (setup) in
lemma upstreamRound_cases (s : GatewayServices cap υ δ) (up : Nat) (nowMs : UInt64) :
    Rounded setup s up nowMs (GatewayM.perform setup (.upstreamRound up nowMs) s) := by
  rw [GatewayM.perform, GatewayM.upstreamRound, GatewayM.run_update_bind]
  rcases takeUpstreamFrame_cases setup s up with htake |
    ⟨channel, expectedLen, hup, htake | ⟨request, hfrom, htake⟩⟩
  · rw [htake]
    exact .nothing (by rw [htake])
  · rw [htake]
    exact .undecodable expectedLen (by rw [htake])
  · refine .accepted _ channel expectedLen request hup hfrom (by rw [htake]) ?_
    rw [htake]
    dsimp only
    rw [EffM.run_bind_pure_snd]
    refine handleRequest_cases ⟨{ channel with rxbuf := channel.rxbuf.dropFirst expectedLen }, ?_,
      hfrom.sessionIdx_eq.symm⟩ fun i hrouted hidle hempty => ?_
    · simp [accept, dropFrame, hup]
    · refine ⟨hrouted, hidle, hempty, ?_, rfl⟩
      rw [htake]

/-! ### The ways a downstream channel is looked at -/

variable (setup) in
/-- A complete response can be carried back. -/
def CarriesBack (s : GatewayServices cap υ δ) (frame : List UInt8) (internalTxn : UInt16)
    (request : PendingRequest) (response : ModbusMessage) (entry : TxnEntry) (up : Nat) : Prop :=
  decompileAduFrame frame setup.downstream.transportType = .ok response ∧
    (s.txnMap.remove internalTxn).1 = some entry ∧
    FitsFrame request.upstreamType response.pdu.rawBytes ∧
    s.findUpstream request.sessionIdx = some up

variable (setup) in
lemma completeResponse_cases (s : GatewayServices cap υ δ) (i expectedLen : Nat)
    (channel : DownstreamChannel δ) (internalTxn : UInt16) (request : PendingRequest) :
    ((s.completeResponse setup i expectedLen channel internalTxn request).2 =
        s.takeResponse i expectedLen internalTxn ∧
      ∀ response entry up, ¬CarriesBack setup s (channel.rxbuf.toList.take expectedLen)
        internalTxn request response entry up) ∨
    ∃ response entry up, CarriesBack setup s (channel.rxbuf.toList.take expectedLen)
        internalTxn request response entry up ∧
      (s.completeResponse setup i expectedLen channel internalTxn request).2 =
        ((s.takeResponse i expectedLen internalTxn).sendReply setup up
          request.toUpstreamRequest (frameBytes request.upstreamType entry.upstreamTxn
            request.unit.get response.pdu.rawBytes)
          (some ⟨internalTxn, request.downstreamUnit, entry.upstreamTxn,
            channel.rxbuf.toList.take expectedLen, channel.origins.take expectedLen⟩)).2 := by
  have hfind : (s.takeResponse i expectedLen internalTxn).findUpstream request.sessionIdx =
      s.findUpstream request.sessionIdx := rfl
  unfold completeResponse CarriesBack
  dsimp only
  rw [hfind]
  cases hdecode : decompileAduFrame (channel.rxbuf.toList.take expectedLen)
      setup.downstream.transportType with
  | err e => exact Or.inl ⟨rfl, fun _ _ _ h => by cases h.1⟩
  | panic => exact Or.inl ⟨rfl, fun _ _ _ h => by cases h.1⟩
  | ok response =>
    cases hentry : (s.txnMap.remove internalTxn).1 with
    | none => exact Or.inl ⟨rfl, fun _ _ _ h => by cases h.2.1⟩
    | some entry =>
      dsimp only
      cases hadu : compileAduFrame entry.upstreamTxn request.unit.get response.pdu
          request.upstreamType with
      | error e =>
        refine Or.inl ⟨rfl, fun response' entry' _ h => ?_⟩
        obtain ⟨hresponse, _, hfits, _⟩ := h
        cases hresponse
        obtain ⟨adu, hok, _⟩ := compileAduFrame_ok request.upstreamType entry.upstreamTxn
          request.unit.get response.pdu hfits
        rw [hok] at hadu
        cases hadu
      | ok adu =>
        obtain ⟨hfits, hbytes⟩ := compileAduFrame_eq_ok hadu
        cases hup : s.findUpstream request.sessionIdx with
        | none => exact Or.inl ⟨rfl, fun _ _ _ h => by cases h.2.2.2⟩
        | some up =>
          refine Or.inr ⟨response, entry, up, ⟨rfl, rfl, hfits, rfl⟩, ?_⟩
          rw [← hbytes]

variable (setup) in
/-- A channel that waits, with what it receives. -/
structure Waits (s : GatewayServices cap υ δ) (i : Nat) (channel received : DownstreamChannel δ)
    (internalTxn : UInt16) (deadlineMs : UInt64) (request : PendingRequest) : Prop where
  channel_eq : s.downstreams.toList[i]? = some channel
  state_eq : channel.state = .awaitingResponse internalTxn deadlineMs request
  received_eq : received = (receiveDownstream setup channel).2

variable (setup) in
/-- The ways phase 1 can find a channel. -/
inductive Polled (s : GatewayServices cap υ δ) (i : Nat) (nowMs : UInt64) :
    GatewayServices cap υ δ → Prop
  | untouched (h : ∀ channel, s.downstreams.toList[i]? = some channel → channel.state = .idle) :
    Polled s i nowMs s
  | expired (channel received : DownstreamChannel δ) (internalTxn : UInt16) (deadlineMs : UInt64)
    (request : PendingRequest) (h : Waits setup s i channel received internalTxn deadlineMs request) :
    Polled s i nowMs (s.abandonRequest setup i internalTxn request)
  | broken (channel received : DownstreamChannel δ) (internalTxn : UInt16) (deadlineMs : UInt64)
    (request : PendingRequest) (h : Waits setup s i channel received internalTxn deadlineMs request) :
    Polled s i nowMs
      ((s.modifyDownstream i fun _ => received).abandonRequest setup i internalTxn request)
  | incomplete (channel received : DownstreamChannel δ) (internalTxn : UInt16)
    (deadlineMs : UInt64) (request : PendingRequest)
    (h : Waits setup s i channel received internalTxn deadlineMs request)
    (hnow : ¬deadlineMs ≤ nowMs) (hgood : (receiveDownstream setup channel).1 = true) :
    Polled s i nowMs (s.modifyDownstream i fun _ => received)
  | completed (channel received : DownstreamChannel δ) (internalTxn : UInt16)
    (deadlineMs : UInt64) (request : PendingRequest) (expectedLen : Nat)
    (h : Waits setup s i channel received internalTxn deadlineMs request)
    (hnow : ¬deadlineMs ≤ nowMs) (hgood : (receiveDownstream setup channel).1 = true)
    (hlen : completeLength setup.downstream.transportType received.rxbuf = some expectedLen) :
    Polled s i nowMs
      (((s.modifyDownstream i fun _ => received).completeResponse setup i expectedLen received
        internalTxn request).2.setState i .idle)

lemma pollDownstream_cases (s : GatewayServices cap υ δ) (i : Nat) (nowMs : UInt64) :
    Polled setup s i nowMs (s.pollDownstream setup i nowMs).2 := by
  unfold pollDownstream
  cases hi : s.downstreams.toList[i]? with
  | none =>
    refine .untouched fun channel h => ?_
    rw [hi] at h
    cases h
  | some channel =>
    dsimp only
    cases hstate : channel.state with
    | idle =>
      refine .untouched fun channel' h => ?_
      rw [hi] at h
      cases h
      exact hstate
    | awaitingResponse internalTxn deadlineMs request =>
      have hwaits : Waits setup s i channel (receiveDownstream setup channel).2 internalTxn
          deadlineMs request := ⟨hi, hstate, rfl⟩
      dsimp only
      by_cases hnow : deadlineMs ≤ nowMs
      · rw [if_pos hnow]
        exact .expired channel _ internalTxn deadlineMs request hwaits
      · rw [if_neg hnow]
        by_cases hgood : (receiveDownstream setup channel).1 = true
        · rw [if_pos hgood]
          cases hlen : completeLength setup.downstream.transportType
              (receiveDownstream setup channel).2.rxbuf with
          | none => exact .incomplete channel _ internalTxn deadlineMs request hwaits hnow hgood
          | some expectedLen =>
            exact .completed channel _ internalTxn deadlineMs request expectedLen hwaits hnow hgood
              hlen
        · rw [if_neg hgood]
          exact .broken channel _ internalTxn deadlineMs request hwaits

/-- Receiving leaves the state of a channel as it is. -/
@[simp] lemma receiveDownstream_state (channel : DownstreamChannel δ) :
    (receiveDownstream setup channel).2.state = channel.state := by
  unfold receiveDownstream
  dsimp only
  split
  · split <;> rfl
  · rfl
  · rfl

/-! ### Where replies come from -/

/-- A frame sent for a request, to an upstream with the session id of the request. -/
structure Answered (s : GatewayServices cap υ δ) (request : UpstreamRequest) (reply : Reply) :
    Prop where
  request_eq : reply.request = request
  sessionId_eq : reply.sessionId = request.sessionIdx
  mem_sessions : (reply.sessionId, reply.connection) ∈ s.sessions

/-- An exception of the gateway sent for a request. -/
structure Refused (s : GatewayServices cap υ δ) (request : UpstreamRequest) (reply : Reply) : Prop
    extends Answered s request reply where
  delivery_eq : reply.delivery = none
  adu_eq : ∃ code, OfGateway code ∧ reply.adu = exceptionAdu request.toDecodedRequest code

lemma mem_sessions {s : GatewayServices cap υ δ} {up : Nat} {channel : UpstreamChannel υ}
    (h : s.upstreams.toList[up]? = some channel) :
    (channel.sessionId, channel.connection) ∈ s.sessions :=
  List.mem_map.mpr ⟨channel, List.mem_of_getElem? h, rfl⟩

lemma sessions_congr {s s' : GatewayServices cap υ δ} (h : s'.upstreams = s.upstreams) :
    s'.sessions = s.sessions := by
  unfold sessions
  rw [h]

lemma sessions_dropFrame (s : GatewayServices cap υ δ) (up expectedLen : Nat) :
    (s.dropFrame up expectedLen).sessions = s.sessions := by
  apply List.map_modify_eq
  exact fun _ _ => rfl

lemma Refused.of_sessions {s s' : GatewayServices cap υ δ} {request : UpstreamRequest}
    {reply : Reply} (h : Refused s' request reply) (hs : s'.sessions = s.sessions) :
    Refused s request reply :=
  ⟨⟨h.request_eq, h.sessionId_eq, hs ▸ h.mem_sessions⟩, h.delivery_eq, h.adu_eq⟩

lemma mem_sendReply {s : GatewayServices cap υ δ} {up : Nat} {request : UpstreamRequest}
    {adu : List UInt8} {delivery : Option Delivery} {reply : Reply}
    (h : reply ∈ (s.sendReply setup up request adu delivery).2.replies) :
    reply ∈ s.replies ∨
      ∃ channel, s.upstreams.toList[up]? = some channel ∧
        reply = ⟨request, channel.sessionId, channel.connection, adu, delivery⟩ := by
  unfold sendReply at h
  split at h
  next => exact Or.inl h
  next channel hup =>
    rw [List.mem_append, List.mem_singleton] at h
    exact h.imp_right fun h => ⟨channel, hup, h⟩

lemma mem_sendExceptionUpstream {s : GatewayServices cap υ δ} {upstream : Option Nat}
    {request : UpstreamRequest} {code : ExceptionCode} {reply : Reply} (hcode : OfGateway code)
    (haddresses : s.Addresses upstream request.sessionIdx)
    (h : reply ∈ (s.sendExceptionUpstream setup upstream request code).replies) :
    reply ∈ s.replies ∨ Refused s request reply := by
  cases upstream with
  | none => exact Or.inl h
  | some up =>
    rw [sendExceptionUpstream_some] at h
    rcases mem_sendReply h with h | ⟨channel, hup, rfl⟩
    · exact Or.inl h
    · exact Or.inr ⟨⟨rfl, haddresses.sessionId_eq hup, mem_sessions hup⟩, rfl, code, hcode, rfl⟩

lemma mem_refuse {s : GatewayServices cap υ δ} {request : UpstreamRequest} {code : ExceptionCode}
    {reply : Reply} (hcode : OfGateway code) (h : reply ∈ (s.refuse setup request code).replies) :
    reply ∈ s.replies ∨ Refused s request reply :=
  mem_sendExceptionUpstream hcode (Or.inl rfl) h

variable (setup) in
@[simp] lemma sendDownstream_replies (s : GatewayServices cap υ δ) (i : Nat) (adu : List UInt8) :
    (s.sendDownstream setup i adu).2.replies = s.replies := by
  unfold sendDownstream
  split <;> rfl

variable (setup) in
@[simp] lemma sendDownstream_upstreams (s : GatewayServices cap υ δ) (i : Nat) (adu : List UInt8) :
    (s.sendDownstream setup i adu).2.upstreams = s.upstreams := by
  unfold sendDownstream
  split <;> rfl

lemma Dispatched.mem_replies {s s' : GatewayServices cap υ δ} {i : Nat}
    {request : PendingRequest} {nowMs : UInt64} (h : Dispatched setup s i request nowMs s')
    {reply : Reply} (hreply : reply ∈ s'.replies) :
    reply ∈ s.replies ∨ Refused s request.toUpstreamRequest reply := by
  cases h with
  | refused _ => exact mem_refuse (Or.inr rfl) hreply
  | unencodable => exact Or.inl hreply
  | unsent txnMap internalTxn adu =>
    rcases mem_refuse (Or.inl rfl) hreply with h | h
    · rw [removeTxn, sendDownstream_replies] at h
      exact Or.inl h
    · refine Or.inr (h.of_sessions (sessions_congr ?_))
      rw [removeTxn, sendDownstream_upstreams]
  | overflowed =>
    rw [sendDownstream_replies] at hreply
    exact Or.inl hreply
  | sent =>
    rw [setState, modifyDownstream, sendDownstream_replies] at hreply
    exact Or.inl hreply

lemma HandedOn.mem_replies {dispatches : Nat → PendingRequest → Prop}
    {s s' : GatewayServices cap υ δ} {request : PendingRequest} {nowMs : UInt64}
    (h : HandedOn setup dispatches s request nowMs s') {reply : Reply}
    (hreply : reply ∈ s'.replies) :
    reply ∈ s.replies ∨ Refused s request.toUpstreamRequest reply := by
  cases h with
  | refused _ _ hcode haddresses => exact mem_sendExceptionUpstream hcode haddresses hreply
  | queued => exact Or.inl hreply
  | dispatched _ _ _ _ h => exact h.mem_replies hreply

variable (setup) in
/-- A response that phase 1 carries back. -/
inductive Delivers (s : GatewayServices cap υ δ) (i : Nat) (nowMs : UInt64) : Reply → Prop
  | intro (channel received : DownstreamChannel δ) (internalTxn : UInt16) (deadlineMs : UInt64)
    (request : PendingRequest) (expectedLen : Nat) (response : ModbusMessage) (entry : TxnEntry)
    (up : Nat) (target : UpstreamChannel υ)
    (h : Waits setup s i channel received internalTxn deadlineMs request)
    (hnow : ¬deadlineMs ≤ nowMs) (hgood : (receiveDownstream setup channel).1 = true)
    (hlen : completeLength setup.downstream.transportType received.rxbuf = some expectedLen)
    (hcarries : CarriesBack setup s (received.rxbuf.toList.take expectedLen) internalTxn request
      response entry up)
    (htarget : s.upstreams.toList[up]? = some target) :
    Delivers s i nowMs ⟨request.toUpstreamRequest, target.sessionId, target.connection,
      frameBytes request.upstreamType entry.upstreamTxn request.unit.get response.pdu.rawBytes,
      some ⟨internalTxn, request.downstreamUnit, entry.upstreamTxn,
        received.rxbuf.toList.take expectedLen, received.origins.take expectedLen⟩⟩

lemma Waits.mem_waiting {s : GatewayServices cap υ δ} {i : Nat}
    {channel received : DownstreamChannel δ} {internalTxn : UInt16} {deadlineMs : UInt64}
    {request : PendingRequest}
    (h : Waits setup s i channel received internalTxn deadlineMs request) :
    request.toUpstreamRequest ∈ s.waiting := by
  refine List.mem_append_right _ (List.mem_map.mpr ⟨(internalTxn, request), ?_, rfl⟩)
  refine List.mem_filterMap.mpr ⟨channel, List.mem_of_getElem? h.channel_eq, ?_⟩
  rw [h.state_eq]
  rfl

/-- What is carried back goes to the session of its request. -/
lemma Delivers.answered {s : GatewayServices cap υ δ} {i : Nat} {nowMs : UInt64} {reply : Reply}
    (h : Delivers setup s i nowMs reply) :
    ∃ request ∈ s.waiting, Answered s request reply := by
  cases h with
  | intro channel received internalTxn deadlineMs request expectedLen response entry up target
      hwaits _ _ _ hcarries htarget =>
    obtain ⟨target', htarget', hid⟩ := findUpstream_eq_some hcarries.2.2.2
    rw [htarget] at htarget'
    cases htarget'
    exact ⟨request.toUpstreamRequest, hwaits.mem_waiting, rfl, hid, mem_sessions htarget⟩

lemma Polled.mem_replies {s s' : GatewayServices cap υ δ} {i : Nat} {nowMs : UInt64}
    (h : Polled setup s i nowMs s') {reply : Reply} (hreply : reply ∈ s'.replies) :
    reply ∈ s.replies ∨ (∃ request ∈ s.waiting, Refused s request reply) ∨
      Delivers setup s i nowMs reply := by
  cases h with
  | untouched _ => exact Or.inl hreply
  | expired _ _ internalTxn _ request h =>
    have hrefuse := mem_refuse (s := s.removeTxn internalTxn) (Or.inl rfl) hreply
    exact hrefuse.imp_right fun hrefused =>
      Or.inl ⟨request.toUpstreamRequest, h.mem_waiting, hrefused.of_sessions rfl⟩
  | broken _ received internalTxn _ request h =>
    have hrefuse := mem_refuse (s := (s.modifyDownstream i fun _ => received).removeTxn internalTxn)
      (Or.inl rfl) hreply
    exact hrefuse.imp_right fun hrefused =>
      Or.inl ⟨request.toUpstreamRequest, h.mem_waiting, hrefused.of_sessions rfl⟩
  | incomplete => exact Or.inl hreply
  | completed channel received internalTxn deadlineMs request expectedLen h hnow hgood hlen =>
    rcases completeResponse_cases setup (s.modifyDownstream i fun _ => received) i
        expectedLen received internalTxn request with
      ⟨hdropped, _⟩ | ⟨response, entry, up, hcarries, hsent⟩
    · rw [setState, modifyDownstream, hdropped] at hreply
      exact Or.inl hreply
    · rw [setState, modifyDownstream, hsent] at hreply
      rcases mem_sendReply hreply with hreply | ⟨target, htarget, rfl⟩
      · exact Or.inl hreply
      · exact Or.inr (Or.inr (.intro channel received internalTxn deadlineMs request expectedLen
          response entry up target h hnow hgood hlen hcarries htarget))

variable (setup) in
/-- The requests a step can answer: the ones that wait, and the one it takes in. -/
def InHand (action : GatewayAction υ δ) (s : GatewayServices cap υ δ) (request : UpstreamRequest) :
    Prop :=
  request ∈ s.waiting ∨ ∃ up nowMs, action = .upstreamRound up nowMs ∧
    (s.takeUpstreamFrame setup up).1 = some (some request)

/-- A step refuses requests, and phase 1 carries responses back. -/
theorem mem_replies_perform {action : GatewayAction υ δ} {s : GatewayServices cap υ δ}
    {reply : Reply} (h : reply ∈ (GatewayM.perform setup action s).replies) :
    reply ∈ s.replies ∨ (∃ request, InHand setup action s request ∧ Refused s request reply) ∨
      ∃ i nowMs, action = .pollDownstream i nowMs ∧ Delivers setup s i nowMs reply := by
  cases action with
  | environment => exact Or.inl h
  | addUpstream transport =>
    rw [GatewayM.perform, addUpstream] at h
    split at h <;> exact Or.inl h
  | addDownstream transport =>
    rw [GatewayM.perform, addDownstream] at h
    split at h <;> exact Or.inl h
  | pollDownstream i nowMs =>
    rcases (pollDownstream_cases s i nowMs).mem_replies h with h | ⟨request, hmem, hrefused⟩ | h
    · exact Or.inl h
    · exact Or.inr (Or.inl ⟨request, Or.inl hmem, hrefused⟩)
    · exact Or.inr (Or.inr ⟨i, nowMs, rfl, h⟩)
  | serviceNext nowMs =>
    rcases serviceNext_cases setup s nowMs with ⟨_, hsame⟩ | ⟨request, pending, hpop, hon⟩
    · rw [hsame] at h
      exact Or.inl h
    · refine (hon.mem_replies h).imp_right fun hrefused =>
        Or.inl ⟨request.toUpstreamRequest, Or.inl ?_, ?_⟩
      · refine List.mem_append_left _ (List.mem_map.mpr ⟨request, ?_, rfl⟩)
        rw [HVec.popFront_eq_some.mp hpop]
        exact List.mem_cons_self
      · exact hrefused.of_sessions rfl
  | receiveUpstream up =>
    rw [GatewayM.perform, receiveUpstream] at h
    split at h
    · exact Or.inl h
    · dsimp only at h
      split at h <;> exact Or.inl h
  | upstreamRound up nowMs =>
    have hrounded := upstreamRound_cases setup s up nowMs
    generalize GatewayM.perform setup (.upstreamRound up nowMs) s = s' at h hrounded
    cases hrounded with
    | nothing _ => exact Or.inl h
    | undecodable _ _ => exact Or.inl h
    | accepted _ channel expectedLen request hup hfrom htake hon =>
      refine (hon.mem_replies h).imp_right fun hrefused =>
        Or.inl ⟨request, Or.inr ⟨up, nowMs, rfl, htake⟩, hrefused.of_sessions ?_⟩
      exact sessions_dropFrame s up expectedLen
  | removeSession sessionIdx => exact Or.inl h

end GatewayServices

end ModbusRs.Gateway
