import ModbusRs.Gateway.AsyncRounds
import ModbusRs.Gateway.Steps

/-!
# Late responses in the asynchronous gateway

A session forwards whatever its channel receives while it waits, and nothing compares it with
the request. The requests handed to a channel are counted here, and each channel remembers which
of them have been answered and for which the wait has ended. What a session forwards answers its
own request as long as a channel receives no answer to a request whose wait is over.
-/

namespace ModbusRs.Gateway

/-- A downstream with the number of requests handed to it, the ones it has answered and the ones
that were given up. -/
structure Tracked (δ : Type) where
  device : δ
  handed : Nat
  answered : List Nat
  givenUp : List Nat
  deriving DecidableEq

namespace Tracked

variable {δ : Type}

/-- A channel that has not been used. -/
def new (device : δ) : Tracked δ := ⟨device, 0, [], []⟩

/-- The wait for the last request has ended without a response. -/
def giveUp (channel : Tracked δ) (device : δ) : Tracked δ :=
  { channel with device, givenUp := (channel.handed - 1) :: channel.givenUp }

/-- A response to some request has come. -/
def hear (channel : Tracked δ) (device : δ) (origin : Option Nat) : Tracked δ :=
  { channel with device, answered := origin.toList ++ channel.answered }

/-- Another request is handed to the device. -/
def hand (channel : Tracked δ) (device : δ) : Tracked δ :=
  { channel with device, handed := channel.handed + 1 }

/-- No request is waited for. -/
def Settled (channel : Tracked δ) : Prop :=
  ∀ number < channel.handed, number ∈ channel.answered ∨ number ∈ channel.givenUp

/-- The number of a request that has been handed over, and whose wait is not over. -/
def Outstanding (channel : Tracked δ) (number : Nat) : Prop :=
  number < channel.handed ∧ number ∉ channel.answered ∧ number ∉ channel.givenUp

lemma settled_new (device : δ) : (new device).Settled := fun _ h => absurd h (Nat.not_lt_zero _)

variable {channel : Tracked δ}

/-- Only the last request is outstanding. -/
lemma Settled.outstanding_hand (h : channel.Settled) {device : δ} {number : Nat}
    (hnumber : (channel.hand device).Outstanding number) : number = channel.handed := by
  obtain ⟨hlt, hanswered, hgivenUp⟩ := hnumber
  rcases Nat.lt_succ_iff_lt_or_eq.mp hlt with hearlier | heq
  · exact ((h number hearlier).elim hanswered hgivenUp).elim
  · exact heq

lemma Settled.giveUp (h : channel.Settled) (device device' : δ) :
    ((channel.hand device).giveUp device').Settled := by
  intro number hnumber
  rcases Nat.lt_succ_iff_lt_or_eq.mp hnumber with hearlier | heq
  · exact (h number hearlier).imp_right (List.mem_cons_of_mem _)
  · refine Or.inr ?_
    rw [heq]
    exact List.mem_cons_self

lemma Settled.hear (h : channel.Settled) (device device' : δ) {origin : Option Nat}
    (horigin : origin = some channel.handed) :
    ((channel.hand device).hear device' origin).Settled := by
  subst horigin
  intro number hnumber
  rcases Nat.lt_succ_iff_lt_or_eq.mp hnumber with hearlier | heq
  · exact (h number hearlier).imp_left (List.mem_cons_of_mem _)
  · refine Or.inl ?_
    rw [heq]
    exact List.mem_cons_self

end Tracked

/-- The setup over tracked channels. `origin` tells which of the requests handed to a device it
means to answer with what it delivers next. -/
def AsyncGatewaySetup.tracked [Features] {υ δ : Type} (setup : AsyncGatewaySetup υ δ)
    (origin : δ → Option Nat) : AsyncGatewaySetup υ (Tracked δ) where
  upstream := setup.upstream
  downstreamType := setup.downstreamType
  send adu channel :=
    match setup.send adu channel.device with
    | (.ok (), device) => (.ok (), channel.hand device)
    | (.error e, device) => (.error e, (channel.hand device).giveUp device)
  recvTimeout channel :=
    match setup.recvTimeout channel.device with
    | (some (.ok bytes), device) =>
      (some (.ok bytes), channel.hear device (origin channel.device))
    | (some (.error e), device) => (some (.error e), channel.giveUp device)
    | (none, device) => (none, channel.giveUp device)

/-- What can happen to sessions that share channels: a serial gateway makes the same rounds. -/
inductive SharedAction (υ δ : Type) where
  | environment (upstream : Nat → υ → υ) (downstream : Nat → δ → δ) (router : Router)
  | connect (transport : υ)
  | sessionRound (i : Nat)
  | serialRound (i : Nat)

namespace AsyncGateway

variable {υ δ : Type}

/-- The serial gateway puts the transaction id 0 on every frame. -/
def zeroTxn (s : AsyncGateway υ δ) (i : Nat) : AsyncGateway υ δ :=
  s.modifySession i fun session => { session with nextTxn := 0 }

/-- The session that makes a round, and the state from which it does. -/
def roundOf (action : SharedAction υ δ) (s : AsyncGateway υ (Tracked δ)) :
    Option (Nat × AsyncGateway υ (Tracked δ)) :=
  match action with
  | .sessionRound i => some (i, s)
  | .serialRound i => some (i, s.zeroTxn i)
  | _ => none

variable [Features] (setup : AsyncGatewaySetup υ δ) (origin : δ → Option Nat)

/-- What an action leaves behind. -/
def performShared (action : SharedAction υ δ) (s : AsyncGateway υ (Tracked δ)) :
    AsyncGateway υ (Tracked δ) :=
  match action with
  | .environment upstream downstream router =>
    perform (setup.tracked origin) (.environment upstream
      (fun i channel => { channel with device := downstream i channel.device }) router) s
  | .connect transport => perform (setup.tracked origin) (.connect transport) s
  | .sessionRound i => s.sessionRound (setup.tracked origin) i
  | .serialRound i => (s.zeroTxn i).sessionRound (setup.tracked origin) i

/-- A round hands a request to a channel, which leaves the device in a state of its own. -/
def Hands (s : AsyncGateway υ (Tracked δ)) (i : Nat) (request : DecodedRequest)
    (channel : Tracked δ) (device : δ) : Prop :=
  ∃ session channelIdx, Reads (setup.tracked origin) s i session request ∧
    Routed s request channelIdx channel ∧
    FitsFrame setup.downstreamType request.pdu.rawBytes ∧
    setup.send (downstreamAdu (setup.tracked origin) s session request) channel.device =
      (.ok (), device)

/-- What is received in a round answers a request that is outstanding. -/
def RoundHears (s : AsyncGateway υ (Tracked δ)) (i : Nat) : Prop :=
  ∀ request channel device bytes, Hands setup origin s i request channel device →
    (setup.recvTimeout device).1 = some (.ok bytes) →
    ∃ number, origin device = some number ∧ (channel.hand device).Outstanding number

/-- What a round forwards as the response to its request is received from the device to which
the request was handed, and it is the answer to this request. -/
def RoundForwards (s : AsyncGateway υ (Tracked δ)) (i : Nat) : Prop :=
  ∀ added, (s.sessionRound (setup.tracked origin) i).replies = s.replies ++ added →
    ∀ reply ∈ added, ∀ responseFrame, reply.delivery = some responseFrame →
      ∃ channel device bytes, Hands setup origin s i reply.request channel device ∧
        (setup.recvTimeout device).1 = some (.ok bytes) ∧ bytes.toList = responseFrame ∧
        origin device = some channel.handed

/-- The condition on an action that makes a round. -/
def HearsOutstanding (action : SharedAction υ δ) (s : AsyncGateway υ (Tracked δ)) : Prop :=
  ∀ i s₀, roundOf action s = some (i, s₀) → RoundHears setup origin s₀ i

/-- The sessions that the action lets make a round forward answers to their own requests. -/
def ForwardsAnswers (action : SharedAction υ δ) (s : AsyncGateway υ (Tracked δ)) : Prop :=
  ∀ i s₀, roundOf action s = some (i, s₀) → RoundForwards setup origin s₀ i

/-- No session waits. -/
def Settled (s : AsyncGateway υ (Tracked δ)) : Prop := ∀ channel ∈ s.downstreams, channel.Settled

variable {setup origin}

/-! ### The tracked channels -/

section Tracked

variable {adu : List UInt8} {channel channel' : Tracked δ} {e : MbusError}
  {bytes : HVec UInt8 maxAduFrameLen}

lemma send_tracked_ok (h : (setup.tracked origin).send adu channel = (.ok (), channel')) :
    ∃ device, setup.send adu channel.device = (.ok (), device) ∧ channel' = channel.hand device := by
  unfold AsyncGatewaySetup.tracked at h
  dsimp only at h
  split at h
  next device hsend =>
    cases h
    exact ⟨device, hsend, rfl⟩
  next => cases h

lemma send_tracked_error (h : (setup.tracked origin).send adu channel = (.error e, channel')) :
    ∃ device, channel' = (channel.hand device).giveUp device := by
  unfold AsyncGatewaySetup.tracked at h
  dsimp only at h
  split at h
  next => cases h
  next device _ =>
    cases h
    exact ⟨device, rfl⟩

lemma recvTimeout_tracked_ok
    (h : (setup.tracked origin).recvTimeout channel = (some (.ok bytes), channel')) :
    (setup.recvTimeout channel.device).1 = some (.ok bytes) ∧
      ∃ device, channel' = channel.hear device (origin channel.device) := by
  unfold AsyncGatewaySetup.tracked at h
  dsimp only at h
  split at h
  next device hrecv =>
    cases h
    exact ⟨congrArg Prod.fst hrecv, device, rfl⟩
  next => cases h
  next => cases h

lemma recvTimeout_tracked_error
    (h : (setup.tracked origin).recvTimeout channel = (some (.error e), channel')) :
    ∃ device, channel' = channel.giveUp device := by
  unfold AsyncGatewaySetup.tracked at h
  dsimp only at h
  split at h
  next => cases h
  next device _ =>
    cases h
    exact ⟨device, rfl⟩
  next => cases h

lemma recvTimeout_tracked_none
    (h : (setup.tracked origin).recvTimeout channel = (none, channel')) :
    ∃ device, channel' = channel.giveUp device := by
  unfold AsyncGatewaySetup.tracked at h
  dsimp only at h
  split at h
  next => cases h
  next => cases h
  next device _ =>
    cases h
    exact ⟨device, rfl⟩

end Tracked

/-! ### Forgetting what is tracked -/

/-- The gateway itself. -/
def untrack (s : AsyncGateway υ (Tracked δ)) : AsyncGateway υ δ :=
  { s with downstreams := s.downstreams.map (·.device) }

section Untrack

variable (origin) (s : AsyncGateway υ (Tracked δ)) (i : Nat) (request : DecodedRequest)

lemma untrack_sendReply (adu : List UInt8) (delivery : Option (List UInt8)) :
    (s.untrack.sendReply setup i request adu delivery) =
      ((s.sendReply (setup.tracked origin) i request adu delivery).1,
        (s.sendReply (setup.tracked origin) i request adu delivery).2.untrack) := by
  have hsessions : s.untrack.sessions = s.sessions := rfl
  unfold sendReply
  rw [hsessions]
  cases s.sessions[i]? <;> rfl

lemma untrack_sendAsyncException (code : ExceptionCode) :
    s.untrack.sendAsyncException setup i request code =
      (s.sendAsyncException (setup.tracked origin) i request code).untrack := by
  unfold sendAsyncException
  split
  · rfl
  · split
    · rw [untrack_sendReply origin]
    · rfl

lemma untrack_exchange (channelIdx : Nat) (adu : List UInt8) :
    s.untrack.exchange setup channelIdx adu =
      ((s.exchange (setup.tracked origin) channelIdx adu).1,
        (s.exchange (setup.tracked origin) channelIdx adu).2.untrack) := by
  have hdownstream : s.untrack.downstreams[channelIdx]? =
      (s.downstreams[channelIdx]?).map (·.device) := List.getElem?_map
  have hset : ∀ channel : Tracked δ, (s.setDownstream channelIdx channel).untrack =
      s.untrack.setDownstream channelIdx channel.device := by
    intro channel
    simp [untrack, setDownstream, List.map_set]
  cases hchannel : s.downstreams[channelIdx]? with
  | none =>
    rw [hchannel] at hdownstream
    simp only [exchange, hchannel, hdownstream, Option.map_none]
  | some channel =>
    rw [hchannel] at hdownstream
    rcases hsend : setup.send adu channel.device with ⟨e | _, device⟩
    · have htracked : (setup.tracked origin).send adu channel =
          (.error e, (channel.hand device).giveUp device) := by
        simp only [AsyncGatewaySetup.tracked, hsend]
      rw [exchange_unsent hdownstream hsend, exchange_unsent hchannel htracked, hset]
      rfl
    · have htracked : (setup.tracked origin).send adu channel = (.ok (), channel.hand device) := by
        simp only [AsyncGatewaySetup.tracked, hsend]
      rw [exchange_sent hdownstream hsend, exchange_sent hchannel htracked, hset]
      simp only [AsyncGatewaySetup.tracked, Tracked.hand]
      rcases setup.recvTimeout device with ⟨_ | _ | bytes, device'⟩ <;> rfl

lemma untrack_returnResponse (responseBytes : List UInt8) :
    s.untrack.returnResponse setup i request responseBytes =
      (s.returnResponse (setup.tracked origin) i request responseBytes).untrack := by
  have htype : (setup.tracked origin).downstreamType = setup.downstreamType := rfl
  unfold returnResponse
  rw [htype]
  split
  · rfl
  · rfl
  · split
    · rfl
    · rw [untrack_sendReply origin]
      dsimp only
      split <;> rfl

lemma untrack_forwardRequest (channelIdx : Nat) (session : AsyncSession υ) :
    s.untrack.forwardRequest setup i channelIdx session request =
      (s.forwardRequest (setup.tracked origin) i channelIdx session request).untrack := by
  have htype : (setup.tracked origin).downstreamType = setup.downstreamType := rfl
  have hrouter : s.untrack.router = s.router := rfl
  have hnumbered : s.untrack.numbered i session = (s.numbered i session).untrack := rfl
  rw [forwardRequest_eq, forwardRequest_eq, htype, hrouter, hnumbered]
  split
  · rfl
  next dsAdu _ =>
    rw [untrack_exchange origin]
    rcases (s.numbered i session).exchange (setup.tracked origin) channelIdx dsAdu.toList with
      ⟨_ | _ | _ | bytes, s'⟩
    · rfl
    · rfl
    · exact untrack_sendAsyncException origin s' i request _
    · exact untrack_returnResponse origin s' i request bytes.toList

lemma untrack_serveRequest (session : AsyncSession υ) :
    s.untrack.serveRequest setup i session request =
      (s.serveRequest (setup.tracked origin) i session request).untrack := by
  have hrouter : s.untrack.router = s.router := rfl
  have hlen : s.untrack.downstreams.length = s.downstreams.length := List.length_map _
  unfold serveRequest
  rw [hrouter, hlen]
  split
  · exact untrack_sendAsyncException origin s i request _
  · split
    · exact untrack_sendAsyncException origin s i request _
    · exact untrack_forwardRequest origin s i request _ session

/-- A round of the gateway itself. -/
theorem untrack_sessionRound :
    s.untrack.sessionRound setup i = (s.sessionRound (setup.tracked origin) i).untrack := by
  by_cases hread : ∃ session request, Reads (setup.tracked origin) s i session request
  · obtain ⟨session, request, hreads⟩ := hread
    have hreads' : Reads setup s.untrack i session request :=
      ⟨hreads.session_eq, hreads.running, hreads.upstreamType_eq, hreads.frame_eq⟩
    rw [sessionRound_of_reads hreads, sessionRound_of_reads hreads']
    exact untrack_serveRequest origin (s.received (setup.tracked origin) i) i request session
  · have hnone : ∀ session request, ¬Reads (setup.tracked origin) s i session request :=
      fun session request h => hread ⟨session, request, h⟩
    have hnone' : ∀ session request, ¬Reads setup s.untrack i session request :=
      fun session request h => hnone session request
        ⟨h.session_eq, h.running, h.upstreamType_eq, h.frame_eq⟩
    have hsessions : s.untrack.sessions = s.sessions := rfl
    have hupstream : (setup.tracked origin).upstream = setup.upstream := rfl
    rw [sessionRound_of_not_reads hnone, sessionRound_of_not_reads hnone']
    unfold unread
    rw [hsessions, hupstream]
    split
    · rfl
    · split
      · rfl
      · split
        · rfl
        · split <;> rfl

end Untrack

/-! ### One round -/

section Round

variable {s s' : AsyncGateway υ (Tracked δ)} {i channelIdx : Nat} {session : AsyncSession υ}
  {request : DecodedRequest} {channel : Tracked δ}

omit [Features] in
lemma Settled.congr (h : Settled s) (hs' : s'.downstreams = s.downstreams) : Settled s' := by
  intro channel hmem
  rw [hs'] at hmem
  exact h channel hmem

omit [Features] in
lemma Settled.set (h : Settled s) (hchannel : channel.Settled)
    (hs' : s'.downstreams = s.downstreams.set channelIdx channel) : Settled s' := by
  intro channel' hmem
  rw [hs'] at hmem
  rcases List.mem_or_eq_of_mem_set hmem with hmem | rfl
  · exact h channel' hmem
  · exact hchannel

omit [Features] in
lemma Routed.settled (h : Routed s request channelIdx channel) (hs : Settled s) :
    channel.Settled := hs channel (List.mem_of_getElem? h.downstream_eq)

/-- What is heard in a round answers the request that was handed over in it. -/
lemma RoundHears.origin_eq (hhears : RoundHears setup origin s i) (hs : Settled s)
    (hrouted : Routed s request channelIdx channel) {device : δ}
    (hhands : Hands setup origin s i request channel device) {bytes : HVec UInt8 maxAduFrameLen}
    (hrecv : (setup.recvTimeout device).1 = some (.ok bytes)) :
    origin device = some channel.handed := by
  obtain ⟨number, horigin, houtstanding⟩ := hhears request channel device bytes hhands hrecv
  rw [horigin, (hrouted.settled hs).outstanding_hand houtstanding]

/-- A round leaves no channel waited for. -/
lemma Settled.round (hs : Settled s) (hhears : RoundHears setup origin s i) :
    Settled (s.sessionRound (setup.tracked origin) i) := by
  have hcases : Rounded (setup.tracked origin) s i _ := sessionRound_cases s i
  generalize s.sessionRound (setup.tracked origin) i = s' at hcases ⊢
  cases hcases with
  | idle hdownstreams _ => exact hs.congr hdownstreams
  | unanswered session request channelIdx channel device _ hrouted _ hend hset _ =>
    have hchannel := hrouted.settled hs
    rcases hend with ⟨e, hsend⟩ | ⟨sent, hsend, hrecv⟩
    · obtain ⟨_, rfl⟩ := send_tracked_error hsend
      exact hs.set (hchannel.giveUp _ _) hset
    · obtain ⟨_, _, rfl⟩ := send_tracked_ok hsend
      rcases hrecv with ⟨e, hrecv⟩ | hrecv
      · obtain ⟨_, rfl⟩ := recvTimeout_tracked_error hrecv
        exact hs.set (hchannel.giveUp _ _) hset
      · obtain ⟨_, rfl⟩ := recvTimeout_tracked_none hrecv
        exact hs.set (hchannel.giveUp _ _) hset
  | heard session request channelIdx channel sent channel' bytes hreads hrouted hfits hsend hrecv
      hset _ =>
    obtain ⟨device, hsend', rfl⟩ := send_tracked_ok hsend
    obtain ⟨hrecv', _, rfl⟩ := recvTimeout_tracked_ok hrecv
    have horigin := hhears.origin_eq hs hrouted
      ⟨session, channelIdx, hreads, hrouted, hfits, hsend'⟩ hrecv'
    exact hs.set ((hrouted.settled hs).hear _ _ horigin) hset

/-- A round forwards the answer to its own request. -/
lemma RoundHears.forwards (hhears : RoundHears setup origin s i) (hs : Settled s) :
    RoundForwards setup origin s i := by
  intro added hadded reply hreply responseFrame hdelivery
  have hcases : Rounded (setup.tracked origin) s i _ := sessionRound_cases s i
  generalize s.sessionRound (setup.tracked origin) i = s' at hcases hadded
  cases hcases with
  | idle _ hsilent => exact (hsilent.absurd hadded hreply hdelivery).elim
  | unanswered _ _ _ _ _ _ _ _ _ _ hsilent =>
    exact (hsilent.absurd hadded hreply hdelivery).elim
  | heard session request channelIdx channel sent channel' bytes hreads hrouted hfits hsend hrecv
      _ hreplies =>
    obtain ⟨device, hsend', rfl⟩ := send_tracked_ok hsend
    obtain ⟨hrecv', _, rfl⟩ := recvTimeout_tracked_ok hrecv
    have hhands : Hands setup origin s i request channel device :=
      ⟨session, channelIdx, hreads, hrouted, hfits, hsend'⟩
    rcases hreplies with hsame | ⟨adu, hsent⟩
    · rw [hsame] at hadded
      rw [List.self_eq_append_right.mp hadded] at hreply
      cases hreply
    · rw [hsent] at hadded
      rw [← List.append_cancel_left hadded, List.mem_singleton] at hreply
      subst hreply
      cases hdelivery
      exact ⟨channel, device, bytes, hhands, hrecv', rfl, hhears.origin_eq hs hrouted hhands hrecv'⟩

end Round

/-! ### Runs -/

omit [Features] in
lemma Settled.zeroTxn {s : AsyncGateway υ (Tracked δ)} (h : Settled s) (i : Nat) :
    Settled (s.zeroTxn i) := h

lemma Settled.perform {action : SharedAction υ δ} {s : AsyncGateway υ (Tracked δ)}
    (h : Settled s) (haction : HearsOutstanding setup origin action s) :
    Settled (performShared setup origin action s) := by
  cases action with
  | environment upstream downstream router =>
    intro channel hmem
    obtain ⟨j, hj, rfl⟩ := List.mem_mapIdx.mp hmem
    have hsettled := h _ (List.getElem_mem hj)
    exact hsettled
  | connect transport => exact h
  | sessionRound i => exact h.round (haction i s rfl)
  | serialRound i => exact (h.zeroTxn i).round (haction i _ rfl)

/-- In every run in which the channels receive no answers to requests whose wait is over, what a
session forwards is the answer to its own request. -/
theorem forwardsAnswers_of_hearsOutstanding {devices : List δ} {router : Router}
    {s : AsyncGateway υ (Tracked δ)}
    (h : Runs.RunWhen (HearsOutstanding setup origin) (performShared setup origin)
      ⟨[], devices.map Tracked.new, router, []⟩ s) {action : SharedAction υ δ}
    (haction : HearsOutstanding setup origin action s) :
    ForwardsAnswers setup origin action s := by
  have hsettled : Settled s := by
    refine h.invariant (P := Settled) (fun action s haction hs => hs.perform haction) ?_
    intro channel hmem
    obtain ⟨device, _, rfl⟩ := List.mem_map.mp hmem
    exact Tracked.settled_new device
  intro i s₀ hround
  have hsettled₀ : Settled s₀ := by
    cases action with
    | environment => cases hround
    | connect => cases hround
    | sessionRound i =>
      cases hround
      exact hsettled
    | serialRound i =>
      cases hround
      exact hsettled.zeroTxn i
  exact (haction i s₀ hround).forwards hsettled₀

end AsyncGateway

/-! ### A device that lags behind -/

/-- A device that answers its requests in order, each of them a number of waits late. -/
structure LaggingDevice where
  delay : Nat
  requests : List (List UInt8)
  waits : Nat
  deriving DecidableEq

namespace LaggingDevice

/-- The request that is answered next. -/
def origin (device : LaggingDevice) : Option Nat :=
  if device.waits < device.delay then none else some (device.waits - device.delay)

/-- The answer has the transaction id of the request, and a register that holds its number. -/
def answer (number : Nat) (request : List UInt8) : List UInt8 :=
  request.take 2 ++ [0x00, 0x00, 0x00, 0x05, 0x01, 0x03, 0x02, 0x00, UInt8.ofNat number]

variable [Features]

/-- A gateway over such devices. -/
def setup : AsyncGatewaySetup (List UInt8) LaggingDevice where
  upstream := .arriving .stdTcp
  downstreamType := .stdTcp
  send adu device := (.ok (), { device with requests := device.requests ++ [adu] })
  recvTimeout device :=
    (do
      let number ← device.origin
      let request ← device.requests[number]?
      some (.ok (.ofSlice (answer number request))), { device with waits := device.waits + 1 })

/-- Two clients each read a register of a device, and the round of the first client is over. -/
def twoClients (delay : Nat) : AsyncGateway (List UInt8) (Tracked LaggingDevice) :=
  [SharedAction.connect (readFrame 1), .connect (readFrame 2), .sessionRound 0].foldl
    (fun s action => AsyncGateway.performShared setup origin action s)
    ⟨[], [⟨delay, [], 0⟩].map Tracked.new, .passthrough, []⟩

end LaggingDevice

namespace AsyncGateway

open LaggingDevice

lemma Hands.lagging [Features] {s : AsyncGateway (List UInt8) (Tracked LaggingDevice)} {i : Nat}
    {request : DecodedRequest} {channel : Tracked LaggingDevice} {device : LaggingDevice}
    (h : Hands LaggingDevice.setup origin s i request channel device) :
    channel ∈ s.downstreams ∧ device.origin = channel.device.origin := by
  obtain ⟨session, channelIdx, _, hrouted, _, hsend⟩ := h
  cases hsend
  exact ⟨List.mem_of_getElem? hrouted.downstream_eq, rfl⟩

/-- A device that is not late answers the request that it was handed. -/
lemma roundHears_prompt [Features] {s : AsyncGateway (List UInt8) (Tracked LaggingDevice)} {i : Nat}
    (h : ∀ channel ∈ s.downstreams, channel.device.origin = some channel.handed ∧
      ∀ number ∈ channel.answered ++ channel.givenUp, number < channel.handed) :
    RoundHears LaggingDevice.setup origin s i := by
  intro request channel device bytes hhands _
  obtain ⟨hmem, horigin⟩ := hhands.lagging
  obtain ⟨hprompt, hearlier⟩ := h channel hmem
  refine ⟨channel.handed, by rw [horigin, hprompt], Nat.lt_succ_self _, fun hanswered => ?_,
    fun hgivenUp => ?_⟩
  · exact absurd (hearlier _ (List.mem_append_left _ hanswered)) (Nat.lt_irrefl _)
  · exact absurd (hearlier _ (List.mem_append_right _ hgivenUp)) (Nat.lt_irrefl _)

/-- The second client of a prompt device. -/
theorem forwardsAnswers_prompt :
    letI := Features.minimal
    ForwardsAnswers LaggingDevice.setup origin (.sessionRound 1) (twoClients 0) := by
  let _ := Features.minimal
  have hrun : Runs.RunWhen (HearsOutstanding LaggingDevice.setup origin)
      (performShared LaggingDevice.setup origin) ⟨[], [⟨0, [], 0⟩].map Tracked.new, .passthrough, []⟩
      (twoClients 0) := by
    refine Runs.RunWhen.foldl ⟨nofun, nofun, ?_, trivial⟩
    intro i s₀ hround
    cases hround
    exact roundHears_prompt (by decide +kernel)
  refine forwardsAnswers_of_hearsOutstanding hrun ?_
  intro i s₀ hround
  cases hround
  exact roundHears_prompt (by decide +kernel)

/-- The request of the first client times out, and its answer is forwarded to the second. -/
theorem late_not_forwardsAnswers :
    ¬∀ [Features] (s : AsyncGateway (List UInt8) (Tracked LaggingDevice)),
      Runs.Run (performShared LaggingDevice.setup origin)
        ⟨[], [⟨1, [], 0⟩].map Tracked.new, .passthrough, []⟩ s →
      ∀ action, ForwardsAnswers LaggingDevice.setup origin action s := by
  intro h
  let _ := Features.minimal
  let s := twoClients 1
  let s' := s.sessionRound (LaggingDevice.setup.tracked origin) 1
  have hrun := h s (Runs.Run.foldl _ _) (.sessionRound 1) 1 s rfl
  have hbefore : s.replies.map (·.delivery) = [none] := by decide +kernel
  have hafter : s'.replies.map (·.delivery) =
      [none, some [0x00, 0x00, 0x00, 0x00, 0x00, 0x05, 0x01, 0x03, 0x02, 0x00, 0x00]] := by
    decide +kernel
  have hlate : ∀ channel ∈ s.downstreams, channel.device.origin ≠ some channel.handed := by
    decide +kernel
  obtain ⟨added, hadded⟩ : ∃ added, s'.replies = s.replies ++ added :=
    replies_sessionRound _ _
  rw [hadded, List.map_append, hbefore, List.singleton_append] at hafter
  have hmem : some [0x00, 0x00, 0x00, 0x00, 0x00, 0x05, 0x01, 0x03, 0x02, 0x00, 0x00] ∈
      added.map (·.delivery) := by
    rw [(List.cons.inj hafter).2]
    exact List.mem_singleton_self _
  obtain ⟨reply, hreply, hdelivery⟩ := List.mem_map.mp hmem
  obtain ⟨channel, device, _, hhands, _, _, horigin⟩ := hrun added hadded reply hreply _ hdelivery
  obtain ⟨hchannel, hsame⟩ := hhands.lagging
  exact hlate channel hchannel (hsame ▸ horigin)

end AsyncGateway

end ModbusRs.Gateway
