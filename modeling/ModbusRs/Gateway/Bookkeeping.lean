import ModbusRs.Gateway.Effects

/-!
# The transaction map and the requests in flight

Seen from afar the gateway keeps two things: which requests its channels wait for, under which
internal ids, and what its map says about these ids. `Booked` lists what a step can do to the
two. As long as no internal id is given out while it is in use, the map says the right thing.
-/

namespace ModbusRs.Gateway

/-- A request in flight under its internal id. -/
abbrev InFlight : Type := UInt16 × PendingRequest

/-- What a step does to the requests in flight and to the map. `numbers` tells which requests
it gives a number to, and `drops` which sessions it drops. -/
inductive Booked {n : Nat} (numbers : PendingRequest → Prop) (drops : UInt8 → Prop)
    (flights : List InFlight) (m : TxnMap n) : List InFlight → TxnMap n → Prop
  | same (flights' : List InFlight) (h : flights'.Perm flights) :
    Booked numbers drops flights m flights' m
  | finished (flights' : List InFlight) (internalTxn : UInt16) (request : PendingRequest)
    (h : ((internalTxn, request) :: flights').Perm flights) :
    Booked numbers drops flights m flights' (m.remove internalTxn).2
  | refused (request : PendingRequest) (m' : TxnMap n) (internalTxn : UInt16)
    (hnumbers : numbers request)
    (halloc : m.allocate request.upstreamTxn request.sessionIdx = (some internalTxn, m')) :
    Booked numbers drops flights m flights (m'.remove internalTxn).2
  | leaked (request : PendingRequest) (m' : TxnMap n) (internalTxn : UInt16)
    (hnumbers : numbers request)
    (halloc : m.allocate request.upstreamTxn request.sessionIdx = (some internalTxn, m')) :
    Booked numbers drops flights m flights m'
  | sent (flights' : List InFlight) (request : PendingRequest) (m' : TxnMap n)
    (internalTxn : UInt16) (hnumbers : numbers request)
    (halloc : m.allocate request.upstreamTxn request.sessionIdx = (some internalTxn, m'))
    (h : flights'.Perm ((internalTxn, request) :: flights)) :
    Booked numbers drops flights m flights' m'
  | dropped (sessionId : UInt8) (hdrops : drops sessionId) :
    Booked numbers drops flights m flights (m.removeBySession sessionId).2

/-- The next internal id is neither in the map nor in flight. -/
def FreshId {n : Nat} (flights : List InFlight) (m : TxnMap n) : Prop :=
  m.nextInternal ∉ m.ids ∧ ∀ flight ∈ flights, flight.1 ≠ m.nextInternal

instance {n : Nat} (flights : List InFlight) (m : TxnMap n) : Decidable (FreshId flights m) :=
  inferInstanceAs (Decidable (_ ∧ _))

/-- Each id is in flight once, and what the map says about it is about the request in flight. -/
structure Numbered {n : Nat} (flights : List InFlight) (m : TxnMap n) : Prop where
  nodup : (flights.map Prod.fst).Nodup
  entry : ∀ flight ∈ flights, ∀ entry ∈ m.entries.toList, entry.internalTxn = flight.1 →
    entry.upstreamTxn = flight.2.upstreamTxn ∧ entry.sessionId = flight.2.sessionIdx

section Booked

variable {n : Nat} {numbers : PendingRequest → Prop} {drops : UInt8 → Prop}
  {flights flights' : List InFlight} {m m' : TxnMap n}

lemma TxnMap.mem_of_mem_remove {internalTxn : UInt16} {entry : TxnEntry}
    (h : entry ∈ (m.remove internalTxn).2.entries.toList) : entry ∈ m.entries.toList := by
  rcases hr : m.remove internalTxn with ⟨removed, m₁⟩
  rw [hr] at h
  cases removed with
  | none =>
    obtain ⟨_, rfl⟩ := TxnMap.remove_eq_none hr
    exact h
  | some removed =>
    obtain ⟨_, hperm⟩ := TxnMap.remove_eq_some hr
    exact hperm.subset (List.mem_cons_of_mem _ h)

lemma TxnMap.remove_entry {internalTxn : UInt16} {entry : TxnEntry}
    (h : (m.remove internalTxn).1 = some entry) :
    entry ∈ m.entries.toList ∧ entry.internalTxn = internalTxn := by
  rcases hr : m.remove internalTxn with ⟨removed, m₁⟩
  rw [hr] at h
  cases h
  obtain ⟨hid, hperm⟩ := TxnMap.remove_eq_some hr
  exact ⟨hperm.subset List.mem_cons_self, hid⟩

/-- Entries under other ids stay. -/
lemma TxnMap.mem_remove_of_ne {internalTxn : UInt16} {entry : TxnEntry}
    (h : entry ∈ m.entries.toList) (hne : entry.internalTxn ≠ internalTxn) :
    entry ∈ (m.remove internalTxn).2.entries.toList := by
  rcases hr : m.remove internalTxn with ⟨removed, m₁⟩
  cases removed with
  | none =>
    obtain ⟨_, rfl⟩ := TxnMap.remove_eq_none hr
    exact h
  | some removed =>
    obtain ⟨hid, hperm⟩ := TxnMap.remove_eq_some hr
    rcases List.mem_cons.mp (hperm.symm.subset h) with rfl | hmem
    · exact absurd hid hne
    · exact hmem

lemma Numbered.of_subset (h : Numbered flights m)
    (hentries : ∀ entry ∈ m'.entries.toList, entry ∈ m.entries.toList) : Numbered flights m' :=
  ⟨h.nodup, fun flight hflight entry hentry => h.entry flight hflight entry (hentries entry hentry)⟩

lemma Booked.of_eq (hflights : flights' = flights) (hm : m' = m) :
    Booked numbers drops flights m flights' m' := by
  rw [hflights, hm]
  exact .same flights (List.Perm.refl flights)

/-- The new entry is about none of the requests in flight. -/
lemma Numbered.allocate (h : Numbered flights m) (hfresh : FreshId flights m)
    {request : PendingRequest} {internalTxn : UInt16}
    (halloc : m.allocate request.upstreamTxn request.sessionIdx = (some internalTxn, m')) :
    Numbered flights m' := by
  obtain ⟨hid, hentries⟩ := TxnMap.allocate_eq_some halloc
  refine ⟨h.nodup, fun flight hflight entry hentry heq => ?_⟩
  rw [hentries, List.mem_append, List.mem_singleton] at hentry
  rcases hentry with hentry | rfl
  · exact h.entry flight hflight entry hentry heq
  · exact absurd (heq.symm.trans hid) (hfresh.2 flight hflight)

/-- A step that gives out only ids that are not in use keeps the map right. -/
theorem Booked.numbered (h : Booked numbers drops flights m flights' m')
    (hfresh : ∀ request, numbers request → FreshId flights m) (hn : Numbered flights m) :
    Numbered flights' m' := by
  cases h with
  | same _ hperm =>
    refine ⟨(hperm.map Prod.fst).nodup_iff.mpr hn.nodup, fun flight hflight => ?_⟩
    exact hn.entry flight (hperm.subset hflight)
  | finished _ internalTxn request hperm =>
    have hids := (hperm.map Prod.fst).nodup_iff.mpr hn.nodup
    rw [List.map_cons, List.nodup_cons] at hids
    refine ⟨hids.2, fun flight hflight entry hentry => ?_⟩
    exact hn.entry flight (hperm.subset (List.mem_cons_of_mem _ hflight)) entry
      (TxnMap.mem_of_mem_remove hentry)
  | refused request m₁ internalTxn hnumbers halloc =>
    exact (hn.allocate (hfresh request hnumbers) halloc).of_subset
      fun _ => TxnMap.mem_of_mem_remove
  | leaked request _ internalTxn hnumbers halloc =>
    exact hn.allocate (hfresh request hnumbers) halloc
  | sent _ request _ internalTxn hnumbers halloc hperm =>
    obtain ⟨hid, hentries⟩ := TxnMap.allocate_eq_some halloc
    obtain ⟨hmap, hflights⟩ := hfresh request hnumbers
    have hkept := hn.allocate (hfresh request hnumbers) halloc
    constructor
    · refine (hperm.map Prod.fst).nodup_iff.mpr ?_
      rw [List.map_cons, List.nodup_cons]
      refine ⟨fun hmem => ?_, hn.nodup⟩
      obtain ⟨flight, hflight, heq⟩ := List.mem_map.mp hmem
      exact hflights flight hflight (heq.trans hid)
    · intro flight hflight entry hentry heq
      rcases List.mem_cons.mp (hperm.subset hflight) with rfl | hflight
      · rw [hentries, List.mem_append, List.mem_singleton] at hentry
        rcases hentry with hentry | rfl
        · exact absurd (List.mem_map.mpr ⟨entry, hentry, heq.trans hid⟩) hmap
        · exact ⟨rfl, rfl⟩
      · exact hkept.entry flight hflight entry hentry heq
  | dropped sessionId _ =>
    refine hn.of_subset fun entry hentry => ?_
    exact List.mem_of_mem_filter ((m.removeBySession_perm sessionId).subset hentry)

/-- Every request of the session that is in flight has an entry. -/
def Registered (sid : UInt8) (flights : List InFlight) (m : TxnMap n) : Prop :=
  ∀ flight ∈ flights, flight.2.sessionIdx = sid →
    ∃ entry ∈ m.entries.toList, entry.internalTxn = flight.1

/-- The requests of a session stay registered until it is dropped. -/
theorem Booked.registered {sid : UInt8} (h : Booked numbers drops flights m flights' m')
    (hfresh : ∀ request, numbers request → FreshId flights m)
    (hkept : ∀ sessionId, drops sessionId → sessionId ≠ sid) (hn : Numbered flights m)
    (hr : Registered sid flights m) : Registered sid flights' m' := by
  cases h with
  | same _ hperm => exact fun flight hflight => hr flight (hperm.subset hflight)
  | finished _ internalTxn request hperm =>
    have hids := (hperm.map Prod.fst).nodup_iff.mpr hn.nodup
    rw [List.map_cons, List.nodup_cons] at hids
    intro flight hflight hsession
    obtain ⟨entry, hentry, heq⟩ :=
      hr flight (hperm.subset (List.mem_cons_of_mem _ hflight)) hsession
    refine ⟨entry, TxnMap.mem_remove_of_ne hentry fun hid => hids.1 ?_, heq⟩
    exact List.mem_map.mpr ⟨flight, hflight, heq.symm.trans hid⟩
  | refused request m₁ internalTxn hnumbers halloc =>
    obtain ⟨hid, hentries⟩ := TxnMap.allocate_eq_some halloc
    intro flight hflight hsession
    obtain ⟨entry, hentry, heq⟩ := hr flight hflight hsession
    have hentry' : entry ∈ m₁.entries.toList := hentries ▸ List.mem_append_left _ hentry
    refine ⟨entry, TxnMap.mem_remove_of_ne hentry' fun heq' => ?_, heq⟩
    exact (hfresh request hnumbers).2 flight hflight (heq.symm.trans (heq'.trans hid))
  | leaked request _ internalTxn _ halloc =>
    obtain ⟨_, hentries⟩ := TxnMap.allocate_eq_some halloc
    intro flight hflight hsession
    obtain ⟨entry, hentry, heq⟩ := hr flight hflight hsession
    exact ⟨entry, hentries ▸ List.mem_append_left _ hentry, heq⟩
  | sent _ request _ internalTxn _ halloc hperm =>
    obtain ⟨_, hentries⟩ := TxnMap.allocate_eq_some halloc
    intro flight hflight hsession
    rcases List.mem_cons.mp (hperm.subset hflight) with rfl | hflight
    · exact ⟨_, hentries ▸ List.mem_append_right _ (List.mem_singleton.mpr rfl), rfl⟩
    · obtain ⟨entry, hentry, heq⟩ := hr flight hflight hsession
      exact ⟨entry, hentries ▸ List.mem_append_left _ hentry, heq⟩
  | dropped sessionId hdrops =>
    intro flight hflight hsession
    obtain ⟨entry, hentry, heq⟩ := hr flight hflight hsession
    have hentrySession := (hn.entry flight hflight entry hentry heq).2
    refine ⟨entry, (m.removeBySession_perm sessionId).symm.subset ?_, heq⟩
    refine List.mem_filter.mpr ⟨hentry, ?_⟩
    have hne := hkept sessionId hdrops
    rw [hentrySession, hsession]
    simpa using hne.symm

end Booked

namespace GatewayServices

variable [Features] {cap : Capacity} {υ δ : Type} {setup : GatewaySetup υ δ}

lemma awaiting_congr {s s' : GatewayServices cap υ δ} (h : s'.downstreams = s.downstreams) :
    s'.awaiting = s.awaiting := by
  unfold awaiting
  rw [h]

/-- A channel that keeps its state. -/
lemma awaiting_modifyDownstream_eq (s : GatewayServices cap υ δ) (i : Nat)
    {f : DownstreamChannel δ → DownstreamChannel δ}
    (h : ∀ channel, (f channel).state = channel.state) :
    (s.modifyDownstream i f).awaiting = s.awaiting :=
  List.filterMap_modify_eq (fun channel => by rw [h]) _ i

/-- A channel that changes its state. -/
lemma awaiting_modifyDownstream_perm {s : GatewayServices cap υ δ} {i : Nat}
    {channel : DownstreamChannel δ} (hi : s.downstreams.toList[i]? = some channel)
    (f : DownstreamChannel δ → DownstreamChannel δ) :
    (channel.state.outstanding.toList ++ (s.modifyDownstream i f).awaiting).Perm
      ((f channel).state.outstanding.toList ++ s.awaiting) :=
  List.filterMap_modify_perm (g := fun channel : DownstreamChannel δ => channel.state.outstanding) hi

variable (setup) in
lemma sendDownstream_awaiting (s : GatewayServices cap υ δ) (i : Nat) (adu : List UInt8) :
    (s.sendDownstream setup i adu).2.awaiting = s.awaiting := by
  unfold sendDownstream
  split
  · rfl
  · exact awaiting_modifyDownstream_eq s i fun _ => rfl

variable (setup) in
lemma sendDownstream_txnMap (s : GatewayServices cap υ δ) (i : Nat) (adu : List UInt8) :
    (s.sendDownstream setup i adu).2.txnMap = s.txnMap := by
  unfold sendDownstream
  split <;> rfl

variable (setup) in
/-- The requests a step gives a number to. -/
def Numbers (action : GatewayAction υ δ) (s : GatewayServices cap υ δ) (request : PendingRequest) :
    Prop :=
  s.txnMap.entries.length < cap.txn ∧ ∃ i, Dispatches setup action s i request

/-- The sessions a step drops. -/
def Drops (action : GatewayAction υ δ) (sessionId : UInt8) : Prop :=
  action = .removeSession sessionId

section Cases

variable {numbers : PendingRequest → Prop} {drops : UInt8 → Prop}
  {dispatches : Nat → PendingRequest → Prop} {s s' : GatewayServices cap υ δ}
  {request : PendingRequest} {nowMs : UInt64}

/-- A new request in flight. -/
lemma awaiting_setState_perm {i : Nat} (hidle : s.channelIdle i = true) (internalTxn : UInt16)
    (deadlineMs : UInt64) (request : PendingRequest) :
    (s.setState i (.awaitingResponse internalTxn deadlineMs request)).awaiting.Perm
      ((internalTxn, request) :: s.awaiting) := by
  obtain ⟨channel, hi, hstate⟩ := channelIdle_iff.mp hidle
  have h := awaiting_modifyDownstream_perm hi fun channel =>
    { channel with state := .awaitingResponse internalTxn deadlineMs request }
  rw [hstate] at h
  exact h

variable (setup) in
lemma sendDownstream_channelIdle (s : GatewayServices cap υ δ) (i j : Nat) (adu : List UInt8) :
    (s.sendDownstream setup i adu).2.channelIdle j = s.channelIdle j := by
  unfold sendDownstream
  split
  next => rfl
  next channel hi =>
    unfold channelIdle
    simp only [modifyDownstream, HVec.modify_toList, List.getElem?_modify]
    by_cases hij : i = j
    · subst hij
      simp [hi]
    · cases s.downstreams.toList[j]? <;> simp [hij]

lemma Dispatched.booked {i : Nat} (h : Dispatched setup s i request nowMs s')
    (hidle : s.channelIdle i = true)
    (hnumbers : s.txnMap.entries.length < cap.txn → numbers request) :
    Booked numbers drops s.awaiting s.txnMap s'.awaiting s'.txnMap := by
  cases h with
  | refused _ =>
    refine Booked.of_eq (awaiting_congr ?_) ?_ <;> simp [refuse]
  | unencodable txnMap internalTxn halloc _ =>
    exact .refused request txnMap internalTxn
      (hnumbers (TxnMap.length_lt_of_allocate halloc)) halloc
  | unsent txnMap internalTxn adu halloc =>
    have hflights : ((((({ s with txnMap } : GatewayServices cap υ δ).sendDownstream setup i
        adu).2.removeTxn internalTxn).refuse setup request.toUpstreamRequest
          .gatewayPathUnavailable)).awaiting = s.awaiting := by
      rw [refuse, awaiting_congr (sendExceptionUpstream_downstreams _ _ _ _)]
      exact sendDownstream_awaiting setup _ i adu
    rw [hflights, refuse, sendExceptionUpstream_txnMap, removeTxn, sendDownstream_txnMap]
    exact .refused request txnMap internalTxn
      (hnumbers (TxnMap.length_lt_of_allocate halloc)) halloc
  | overflowed txnMap internalTxn adu halloc _ =>
    rw [sendDownstream_awaiting, sendDownstream_txnMap]
    exact .leaked request txnMap internalTxn
      (hnumbers (TxnMap.length_lt_of_allocate halloc)) halloc
  | sent txnMap internalTxn adu deadlineMs halloc =>
    have hidle' : (({ s with txnMap } : GatewayServices cap υ δ).sendDownstream setup i
        adu).2.channelIdle i = true := by
      rw [sendDownstream_channelIdle]
      exact hidle
    have hperm := awaiting_setState_perm hidle' internalTxn deadlineMs request
    rw [sendDownstream_awaiting] at hperm
    rw [setState, modifyDownstream, sendDownstream_txnMap]
    exact .sent _ request txnMap internalTxn
      (hnumbers (TxnMap.length_lt_of_allocate halloc)) halloc hperm

lemma HandedOn.booked (h : HandedOn setup dispatches s request nowMs s')
    (hnumbers : s.txnMap.entries.length < cap.txn → ∀ i, dispatches i request →
      numbers request) :
    Booked numbers drops s.awaiting s.txnMap s'.awaiting s'.txnMap := by
  cases h with
  | refused upstream code _ =>
    refine Booked.of_eq (awaiting_congr ?_) ?_ <;> simp
  | queued pending hpush => exact .same _ (List.Perm.refl _)
  | dispatched i _ hdispatches hidle h => exact h.booked hidle fun hlen => hnumbers hlen i hdispatches

/-- The channel that waited waits no more. -/
lemma awaiting_perm_of_waiting {i : Nat} {channel : DownstreamChannel δ} {internalTxn : UInt16}
    {deadlineMs : UInt64} (hi : s.downstreams.toList[i]? = some channel)
    (hstate : channel.state = .awaitingResponse internalTxn deadlineMs request)
    {f : DownstreamChannel δ → DownstreamChannel δ} (hf : ∀ channel, (f channel).state = .idle)
    (hs' : s'.downstreams = (s.modifyDownstream i f).downstreams) :
    ((internalTxn, request) :: s'.awaiting).Perm s.awaiting := by
  have hperm := awaiting_modifyDownstream_perm hi f
  rw [hstate, hf, ← awaiting_congr hs'] at hperm
  exact hperm

variable (setup) in
lemma abandonRequest_downstreams (s : GatewayServices cap υ δ) (i : Nat) (internalTxn : UInt16)
    (request : PendingRequest) :
    (s.abandonRequest setup i internalTxn request).downstreams =
      (s.modifyDownstream i fun channel =>
        { channel with rxbuf := .empty, origins := [], state := .idle }).downstreams := by
  simp [abandonRequest, refuse, modifyDownstream, removeTxn]

lemma abandonRequest_txnMap (s : GatewayServices cap υ δ) (i : Nat) (internalTxn : UInt16)
    (request : PendingRequest) :
    (s.abandonRequest setup i internalTxn request).txnMap =
      (s.txnMap.remove internalTxn).2 := by
  simp [abandonRequest, refuse, modifyDownstream, removeTxn]

variable (setup) in
lemma completeResponse_downstreams (s : GatewayServices cap υ δ) (i expectedLen : Nat)
    (channel : DownstreamChannel δ) (internalTxn : UInt16) (request : PendingRequest) :
    (s.completeResponse setup i expectedLen channel internalTxn request).2.downstreams =
      (s.takeResponse i expectedLen internalTxn).downstreams := by
  rcases completeResponse_cases setup s i expectedLen channel internalTxn request with
    ⟨h, _⟩ | ⟨response, entry, up, _, h⟩
  · rw [h]
  · rw [h, sendReply_downstreams]

lemma completeResponse_txnMap (s : GatewayServices cap υ δ) (i expectedLen : Nat)
    (channel : DownstreamChannel δ) (internalTxn : UInt16) (request : PendingRequest) :
    (s.completeResponse setup i expectedLen channel internalTxn request).2.txnMap =
      (s.txnMap.remove internalTxn).2 := by
  rcases completeResponse_cases setup s i expectedLen channel internalTxn request with
    ⟨h, _⟩ | ⟨response, entry, up, _, h⟩
  · rw [h]
    rfl
  · rw [h, sendReply_txnMap]
    rfl

/-- What is received does not end the wait. -/
lemma Waits.received_state {i : Nat} {channel received : DownstreamChannel δ}
    {internalTxn : UInt16} {deadlineMs : UInt64}
    (h : Waits setup s i channel received internalTxn deadlineMs request) :
    received.state = .awaitingResponse internalTxn deadlineMs request := by
  rw [h.received_eq, receiveDownstream_state, h.state_eq]

lemma Waits.getElem?_received {i : Nat} {channel received : DownstreamChannel δ}
    {internalTxn : UInt16} {deadlineMs : UInt64}
    (h : Waits setup s i channel received internalTxn deadlineMs request) :
    (s.modifyDownstream i fun _ => received).downstreams.toList[i]? = some received := by
  simp [modifyDownstream, h.channel_eq]

lemma Waits.awaiting_received {i : Nat} {channel received : DownstreamChannel δ}
    {internalTxn : UInt16} {deadlineMs : UInt64}
    (h : Waits setup s i channel received internalTxn deadlineMs request) :
    (s.modifyDownstream i fun _ => received).awaiting.Perm s.awaiting := by
  have hperm := awaiting_modifyDownstream_perm h.channel_eq fun _ => received
  rw [h.state_eq, h.received_state] at hperm
  exact hperm.cons_inv

lemma Waits.mem_awaiting {i : Nat} {channel received : DownstreamChannel δ}
    {internalTxn : UInt16} {deadlineMs : UInt64}
    (h : Waits setup s i channel received internalTxn deadlineMs request) :
    (internalTxn, request) ∈ s.awaiting := by
  refine List.mem_filterMap.mpr ⟨channel, List.mem_of_getElem? h.channel_eq, ?_⟩
  rw [h.state_eq]
  rfl

/-- The wait is over when a response is complete. -/
lemma Waits.awaiting_completed {i : Nat} {channel received : DownstreamChannel δ}
    {internalTxn : UInt16} {deadlineMs : UInt64}
    (h : Waits setup s i channel received internalTxn deadlineMs request) (expectedLen : Nat) :
    ((internalTxn, request) :: (((s.modifyDownstream i fun _ => received).completeResponse setup i
      expectedLen received internalTxn request).2.setState i .idle).awaiting).Perm s.awaiting := by
  have hdownstreams := completeResponse_downstreams setup
    (s.modifyDownstream i fun _ => received) i expectedLen received internalTxn request
  have hwaiting : ((s.modifyDownstream i fun _ => received).completeResponse setup i expectedLen
      received internalTxn request).2.downstreams.toList[i]? =
      some { received with
        rxbuf := received.rxbuf.dropFirst expectedLen
        origins := received.origins.drop expectedLen } := by
    rw [hdownstreams]
    simp [takeResponse, removeTxn, modifyDownstream, h.channel_eq]
  refine (awaiting_perm_of_waiting hwaiting h.received_state (fun _ => rfl) rfl).trans ?_
  rw [awaiting_congr hdownstreams]
  have hkept : ((s.modifyDownstream i fun _ => received).takeResponse i expectedLen
      internalTxn).awaiting = (s.modifyDownstream i fun _ => received).awaiting :=
    awaiting_modifyDownstream_eq ((s.modifyDownstream i fun _ => received).removeTxn internalTxn)
      i fun _ => rfl
  rw [hkept]
  exact h.awaiting_received

lemma Polled.booked {i : Nat} (h : Polled setup s i nowMs s') :
    Booked numbers drops s.awaiting s.txnMap s'.awaiting s'.txnMap := by
  cases h with
  | untouched _ => exact .same _ (List.Perm.refl _)
  | expired channel received internalTxn deadlineMs request h =>
    rw [abandonRequest_txnMap]
    exact .finished _ internalTxn request (awaiting_perm_of_waiting h.channel_eq h.state_eq
      (fun _ => rfl) (abandonRequest_downstreams setup s i internalTxn request))
  | broken channel received internalTxn deadlineMs request h =>
    rw [abandonRequest_txnMap]
    have hperm := awaiting_perm_of_waiting h.getElem?_received h.received_state (fun _ => rfl)
      (abandonRequest_downstreams setup _ i internalTxn request)
    exact .finished _ internalTxn request (hperm.trans h.awaiting_received)
  | incomplete channel received internalTxn deadlineMs request h =>
    exact .same _ h.awaiting_received
  | completed channel received internalTxn deadlineMs request expectedLen h =>
    rw [setState, modifyDownstream, completeResponse_txnMap]
    exact .finished _ internalTxn request (h.awaiting_completed expectedLen)

end Cases

lemma awaiting_environment (upstream : Nat → υ → υ) (downstream : Nat → δ → δ) (router : Router)
    (s : GatewayServices cap υ δ) :
    (GatewayM.environment upstream downstream router s).awaiting = s.awaiting := by
  unfold awaiting
  rw [GatewayM.environment, HVec.mapIdx_toList]
  apply List.filterMap_mapIdx_eq
  exact fun _ _ => rfl

/-- A new channel waits for nothing. -/
lemma awaiting_addDownstream (s : GatewayServices cap υ δ) (transport : δ) :
    (s.addDownstream transport).2.awaiting = s.awaiting := by
  unfold addDownstream
  split
  next downstreams hpush =>
    unfold awaiting
    dsimp only
    rw [HVec.extendFromSlice_eq_some.mp hpush, List.filterMap_append]
    exact List.append_nil _
  next => rfl

variable (setup) in
/-- Every step is a step of the bookkeeping. -/
theorem booked_perform (action : GatewayAction υ δ) (s : GatewayServices cap υ δ) :
    Booked (Numbers setup action s) (Drops action) s.awaiting s.txnMap
      (GatewayM.perform setup action s).awaiting (GatewayM.perform setup action s).txnMap := by
  cases action with
  | environment upstream downstream router =>
    exact Booked.of_eq (awaiting_environment upstream downstream router s) rfl
  | addUpstream transport =>
    rw [GatewayM.perform, addUpstream]
    split <;> exact Booked.of_eq rfl rfl
  | addDownstream transport =>
    refine Booked.of_eq (awaiting_addDownstream s transport) ?_
    rw [GatewayM.perform, addDownstream]
    split <;> rfl
  | pollDownstream i nowMs => exact (pollDownstream_cases s i nowMs).booked
  | serviceNext nowMs =>
    rcases serviceNext_cases setup s nowMs with ⟨_, hsame⟩ | ⟨request, pending, _, hon⟩
    · rw [hsame]
      exact Booked.of_eq rfl rfl
    · exact hon.booked fun hlen i hdispatches => ⟨hlen, i, hdispatches⟩
  | receiveUpstream up =>
    rw [GatewayM.perform, receiveUpstream]
    split
    · exact Booked.of_eq rfl rfl
    · dsimp only
      split <;> exact Booked.of_eq rfl rfl
  | upstreamRound up nowMs =>
    have hrounded := upstreamRound_cases setup s up nowMs
    generalize GatewayM.perform setup (.upstreamRound up nowMs) s = s' at hrounded ⊢
    cases hrounded with
    | nothing _ => exact Booked.of_eq rfl rfl
    | undecodable _ _ => exact Booked.of_eq rfl rfl
    | accepted _ _ _ _ _ _ _ hon => exact hon.booked fun hlen i hdispatches => ⟨hlen, i, hdispatches⟩
  | removeSession sessionIdx => exact .dropped sessionIdx rfl

end GatewayServices

end ModbusRs.Gateway
