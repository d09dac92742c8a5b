import ModbusRs.Gateway.Custody
import Mathlib.Data.List.Rotate

/-!
# The order in which queued requests are served

`try_service_pending` looks at the front of the queue `N_PENDING` times, and a request whose
channel is busy goes to the back. Once every request has been looked at, the ones that stay are
in their old order; each further look moves the oldest of them to the back. The order survives
if these looks go round the queue a whole number of times.
-/

namespace ModbusRs.Gateway

/-- The actions that are not a part of looking at a downstream channel. -/
def GatewayAction.IsWhole {υ δ : Type} : GatewayAction υ δ → Prop
  | .pollDownstream .. | .serviceNext _ => False
  | _ => True

/-- What a gateway does in one go: looking at a downstream channel includes serving the queue. -/
inductive SweepAction (υ δ : Type) where
  | drainDownstream (i : Nat) (nowMs : UInt64)
  | other (action : GatewayAction υ δ) (h : action.IsWhole)

namespace GatewayM

open GatewayServices

variable [Features] {cap : Capacity} {υ δ : Type} (setup : GatewaySetup υ δ)

/-- What a sweep leaves behind. -/
def sweep (action : SweepAction υ δ) (s : GatewayServices cap υ δ) : GatewayServices cap υ δ :=
  match action with
  | .drainDownstream i nowMs => ((drainDownstream setup i nowMs).run s).2
  | .other action _ => perform setup action s

/-- A poll is a run of sweeps. -/
theorem sweeps_poll (nowMs : UInt64) :
    (poll setup nowMs : GatewayM cap υ δ PollOutcome).Within (Runs.Run (sweep setup)) := by
  refine PartsWithin.poll
    { refl := Runs.RunWhen.refl
      trans := fun _ _ _ => Runs.RunWhen.trans
      drainDownstream := fun i s => Runs.Run.single (SweepAction.drainDownstream i nowMs) s
      receiveUpstream := fun up s => ?_
      upstreamRound := fun up s => ?_
      removeSession := fun sessionIdx s => ?_ }
  · exact Runs.Run.single (SweepAction.other (.receiveUpstream up) trivial) s
  · exact Runs.Run.single (SweepAction.other (.upstreamRound up nowMs) trivial) s
  · exact Runs.Run.single (SweepAction.other (.removeSession sessionIdx) trivial) s

/-- The states that sweeps lead to. -/
def SweepReachable (s : GatewayServices cap υ δ) : Prop :=
  Runs.Reachable (fun s => ∃ router, s = .new router) (sweep setup) s

variable {setup}

lemma SweepReachable.perform {s : GatewayServices cap υ δ} (h : SweepReachable setup s)
    (action : SweepAction υ δ) : SweepReachable setup (sweep setup action s) := by
  obtain ⟨s₀, hs₀, hrun⟩ := h
  exact ⟨s₀, hs₀, hrun.trans (Runs.Run.single action s)⟩

end GatewayM

namespace GatewayServices

open Outcome

variable [Features] {cap : Capacity} {υ δ : Type} (setup : GatewaySetup υ δ)

/-- The services after a number of looks at the queue. -/
def serviced (nowMs : UInt64) (looks : Nat) (s : GatewayServices cap υ δ) :
    GatewayServices cap υ δ :=
  (GatewayM.perform setup (.serviceNext nowMs))^[looks] s

/-- A request that is sent down is the oldest one queued for its channel. -/
def SendsOldest (action : GatewayAction υ δ) (s : GatewayServices cap υ δ) : Prop :=
  ∀ i request, Dispatches setup action s i request → ∀ other ∈ s.pending.toList,
    s.routedChannel other.unit = some i → request.id ≤ other.id

/-- The same, for everything a sweep sends down. -/
def ServesInOrder (action : SweepAction υ δ) (s : GatewayServices cap υ δ) : Prop :=
  match action with
  | .drainDownstream i nowMs => (s.pollDownstream setup i nowMs).1 ≠ none →
    ∀ looks < cap.pending, SendsOldest setup (.serviceNext nowMs)
      (serviced setup nowMs looks (s.pollDownstream setup i nowMs).2)
  | .other action _ => SendsOldest setup action s

/-- The looks that are left when every queued request has been looked at go round the queue a
whole number of times. -/
def GoesRound (nowMs : UInt64) (s : GatewayServices cap υ δ) : Prop :=
  (serviced setup nowMs s.pending.length s).pending.length = 0 ∨
    (serviced setup nowMs s.pending.length s).pending.length ∣ cap.pending - s.pending.length

/-- Whenever the queue is served, no deadline overflows, and the queue is gone round. -/
def KeepsOrder (action : SweepAction υ δ) (s : GatewayServices cap υ δ) : Prop :=
  match action with
  | .drainDownstream i nowMs => (s.pollDownstream setup i nowMs).1 ≠ none →
    deadline setup nowMs ≠ .panic ∧ GoesRound setup nowMs (s.pollDownstream setup i nowMs).2
  | .other _ _ => True

/-- The queue is in the order in which its requests were accepted. -/
structure Ordered (s : GatewayServices cap υ δ) : Prop where
  sorted : s.pending.toList.Pairwise (·.id < ·.id)
  accepted : ∀ request ∈ s.pending.toList, request.id < s.accepted.length

/-- A request that is routed to a channel that is not idle. -/
def Blocked (s : GatewayServices cap υ δ) (request : PendingRequest) : Prop :=
  ∃ i, s.routedChannel request.unit = some i ∧ s.channelIdle i = false

/-- The routes stay, and no channel becomes idle. -/
structure Onward (s s' : GatewayServices cap υ δ) : Prop where
  routedChannel : s'.routedChannel = s.routedChannel
  busy : ∀ i, s.channelIdle i = false → s'.channelIdle i = false

variable {setup} {s s' s'' : GatewayServices cap υ δ} {nowMs : UInt64}

section Onward

lemma routedChannel_congr (hrouter : s'.router = s.router)
    (hlen : s'.downstreams.length = s.downstreams.length) :
    s'.routedChannel = s.routedChannel := by
  funext unit
  unfold routedChannel
  rw [hrouter, hlen]

lemma Onward.of_eq (hrouter : s'.router = s.router) (hdownstreams : s'.downstreams = s.downstreams) :
    Onward s s' := by
  refine ⟨routedChannel_congr hrouter (congrArg _ hdownstreams), fun i hi => ?_⟩
  unfold channelIdle at hi ⊢
  rw [hdownstreams]
  exact hi

lemma Onward.trans (h : Onward s s') (h' : Onward s' s'') : Onward s s'' :=
  ⟨h'.routedChannel.trans h.routedChannel, fun i hi => h'.busy i (h.busy i hi)⟩

lemma Onward.congr {s₁ : GatewayServices cap υ δ} (h : Onward s₁ s')
    (hrouter : s₁.router = s.router) (hdownstreams : s₁.downstreams = s.downstreams) :
    Onward s s' := (Onward.of_eq hrouter hdownstreams).trans h

lemma Blocked.onward {request : PendingRequest} (h : Blocked s request) (hs : Onward s s') :
    Blocked s' request := by
  obtain ⟨i, hrouted, hbusy⟩ := h
  exact ⟨i, by rw [hs.routedChannel, hrouted], hs.busy i hbusy⟩

lemma onward_refuse (request : UpstreamRequest) (code : ExceptionCode) :
    Onward s (s.refuse setup request code) :=
  .of_eq (sendExceptionUpstream_router s request _ code)
    (sendExceptionUpstream_downstreams s request _ code)

lemma length_modifyDownstream (i : Nat) (f : DownstreamChannel δ → DownstreamChannel δ) :
    (s.modifyDownstream i f).downstreams.length = s.downstreams.length := by
  simp [modifyDownstream, HVec.length]

lemma onward_sendDownstream (i : Nat) (adu : List UInt8) :
    Onward s (s.sendDownstream setup i adu).2 := by
  refine ⟨?_, fun j hj => by rwa [sendDownstream_channelIdle]⟩
  unfold sendDownstream
  split
  · rfl
  · exact routedChannel_congr rfl (length_modifyDownstream i _)

/-- A channel that is given a request to wait for is not idle. -/
lemma onward_setState (i : Nat) (internalTxn : UInt16) (deadlineMs : UInt64)
    (request : PendingRequest) :
    Onward s (s.setState i (.awaitingResponse internalTxn deadlineMs request)) := by
  refine ⟨routedChannel_congr rfl (length_modifyDownstream i _), fun j hj => ?_⟩
  unfold channelIdle at hj ⊢
  simp only [setState, modifyDownstream, HVec.modify_toList, List.getElem?_modify]
  cases hchannel : s.downstreams.toList[j]? with
  | none => rfl
  | some channel =>
    rw [hchannel] at hj
    by_cases hij : i = j
    · simp [hij, ChannelState.isIdle]
    · simpa [hij] using hj

lemma Dispatched.onward {i : Nat} {request : PendingRequest}
    (h : Dispatched setup s i request nowMs s') : Onward s s' := by
  cases h with
  | refused _ => exact onward_refuse request.toUpstreamRequest _
  | unencodable => exact .of_eq rfl rfl
  | unsent txnMap internalTxn adu =>
    have hsent : Onward s (({ s with txnMap } : GatewayServices cap υ δ).sendDownstream setup i
        adu).2 := (onward_sendDownstream i adu).congr rfl rfl
    exact hsent.trans ((onward_refuse request.toUpstreamRequest _).congr rfl rfl)
  | overflowed txnMap internalTxn adu =>
    exact (onward_sendDownstream i adu).congr rfl rfl
  | sent txnMap internalTxn adu deadlineMs =>
    have hsent : Onward s (({ s with txnMap } : GatewayServices cap υ δ).sendDownstream setup i
        adu).2 := (onward_sendDownstream i adu).congr rfl rfl
    exact hsent.trans (onward_setState i internalTxn deadlineMs request)

variable (setup) in
lemma sendDownstream_pending (s : GatewayServices cap υ δ) (i : Nat) (adu : List UInt8) :
    (s.sendDownstream setup i adu).2.pending = s.pending := by
  unfold sendDownstream
  split <;> rfl

lemma Dispatched.pending_eq {i : Nat} {request : PendingRequest}
    (h : Dispatched setup s i request nowMs s') : s'.pending = s.pending := by
  cases h with
  | refused _ => exact sendExceptionUpstream_pending s request.toUpstreamRequest _ _
  | unencodable => rfl
  | unsent txnMap internalTxn adu =>
    rw [refuse, sendExceptionUpstream_pending, removeTxn, sendDownstream_pending]
  | overflowed txnMap internalTxn adu => rw [sendDownstream_pending]
  | sent txnMap internalTxn adu deadlineMs =>
    rw [setState, modifyDownstream, sendDownstream_pending]

end Onward

/-! ### Looking at the front of the queue -/

section Look

variable {request : PendingRequest} {rest : List PendingRequest}

/-- What one look does to the queue. -/
inductive Looked (s : GatewayServices cap υ δ) (request : PendingRequest)
    (rest : List PendingRequest) (s' : GatewayServices cap υ δ) : Prop
  | blocked (h : Blocked s request) (hpending : s'.pending.toList = rest ++ [request])
    (honward : Onward s s')
  | served (h : ¬Blocked s request) (hpending : s'.pending.toList = rest) (honward : Onward s s')

variable (setup) in
lemma looked_serviceNext (nowMs : UInt64) (h : s.pending.toList = request :: rest) :
    Looked s request rest (GatewayM.perform setup (.serviceNext nowMs) s) := by
  have hlen : rest.length + 1 ≤ cap.pending := by
    have hle := s.pending.length_le
    rwa [h] at hle
  have hpop : s.pending.popFront = some (request, ⟨rest, Nat.le_of_succ_le hlen⟩) :=
    HVec.popFront_eq_some.mpr h
  rw [GatewayM.perform, GatewayM.serviceNext, EffM.run_gets_bind, id_eq, hpop]
  dsimp only
  rw [EffM.run_modify_bind]
  cases hrouted : s.routedChannel request.unit with
  | none =>
    refine .served ?_ ?_ ?_
    · rintro ⟨i, hi, _⟩
      rw [hrouted] at hi
      cases hi
    · rw [EffM.run_modify, refuse, sendExceptionUpstream_pending]
    · exact (onward_refuse request.toUpstreamRequest _).congr rfl rfl
  | some i =>
    dsimp only
    split
    next hidle =>
      have hcases : Dispatched setup { s with pending := ⟨rest, Nat.le_of_succ_le hlen⟩ } i request
          nowMs _ := dispatchToDownstream_cases _ i request nowMs
      refine .served ?_ ?_ ?_
      · rintro ⟨j, hj, hbusy⟩
        rw [hrouted] at hj
        cases hj
        exact absurd hbusy (by rw [hidle]; decide)
      · rw [hcases.pending_eq]
      · exact hcases.onward.congr rfl rfl
    next hbusy =>
      refine .blocked ⟨i, hrouted, Bool.eq_false_iff.mpr hbusy⟩ ?_ (.of_eq rfl rfl)
      rw [EffM.run_modify, requeue]
      dsimp only
      rw [HVec.push, HVec.extendFromSlice_of_le (by simpa using hlen)]
      rfl

end Look

variable (setup nowMs) in
lemma serviced_succ (s : GatewayServices cap υ δ) (looks : Nat) :
    serviced setup nowMs (looks + 1) s =
      GatewayM.perform setup (.serviceNext nowMs) (serviced setup nowMs looks s) :=
  Function.iterate_succ_apply' _ looks s

variable (setup nowMs) in
lemma serviced_add (s : GatewayServices cap υ δ) (looks more : Nat) :
    serviced setup nowMs (more + looks) s =
      serviced setup nowMs more (serviced setup nowMs looks s) :=
  Function.iterate_add_apply _ more looks s

lemma perform_serviceNext_of_nil (h : s.pending.toList = []) :
    GatewayM.perform setup (.serviceNext nowMs) s = s := by
  rcases serviceNext_cases setup s nowMs with ⟨_, hsame⟩ | ⟨request, pending, hpop, _⟩
  · exact hsame
  · rw [HVec.popFront_eq_some.mp hpop] at h
    cases h

lemma serviced_of_nil (h : s.pending.toList = []) (looks : Nat) :
    serviced setup nowMs looks s = s :=
  Function.iterate_fixed (perform_serviceNext_of_nil h) looks

variable (setup nowMs) in
/-- As long as no request has been looked at twice, those that stay are in their old order. -/
lemma serviced_once (s : GatewayServices cap υ δ) {looks : Nat} (h : looks ≤ s.pending.length) :
    ∃ stay, (serviced setup nowMs looks s).pending.toList = s.pending.toList.drop looks ++ stay ∧
      stay.Sublist (s.pending.toList.take looks) ∧
      ∀ request ∈ stay, Blocked (serviced setup nowMs looks s) request := by
  induction looks with
  | zero => exact ⟨[], by simp [serviced], List.nil_sublist _, by simp⟩
  | succ looks ih =>
    obtain ⟨stay, hpending, hsub, hblocked⟩ := ih (Nat.le_of_succ_le h)
    have hlt : looks < s.pending.toList.length := h
    rw [List.drop_eq_getElem_cons hlt, List.cons_append] at hpending
    have htake : s.pending.toList.take (looks + 1) =
        s.pending.toList.take looks ++ [s.pending.toList[looks]] :=
      List.take_succ_eq_append_getElem hlt
    rw [serviced_succ, htake]
    cases looked_serviceNext setup nowMs hpending with
    | blocked hfront hnext honward =>
      refine ⟨stay ++ [s.pending.toList[looks]], by rw [hnext, List.append_assoc],
        hsub.append (List.Sublist.refl _), fun request hmem => ?_⟩
      rcases List.mem_append.mp hmem with hmem | hmem
      · exact (hblocked request hmem).onward honward
      · rw [List.mem_singleton.mp hmem]
        exact hfront.onward honward
    | served _ hnext honward =>
      exact ⟨stay, hnext, hsub.trans (List.sublist_append_left _ _),
        fun request hmem => (hblocked request hmem).onward honward⟩

/-- When every request is blocked, looking at them moves them round. -/
lemma serviced_blocked (h : ∀ request ∈ s.pending.toList, Blocked s request) (looks : Nat) :
    (serviced setup nowMs looks s).pending.toList = s.pending.toList.rotate looks ∧
      ∀ request ∈ s.pending.toList, Blocked (serviced setup nowMs looks s) request := by
  induction looks with
  | zero => exact ⟨(List.rotate_zero _).symm, h⟩
  | succ looks ih =>
    obtain ⟨hpending, hblocked⟩ := ih
    rw [serviced_succ, ← List.rotate_rotate, ← hpending]
    cases hqueue : (serviced setup nowMs looks s).pending.toList with
    | nil =>
      rw [perform_serviceNext_of_nil hqueue]
      exact ⟨hqueue, hblocked⟩
    | cons front rest =>
      have hmem : front ∈ s.pending.toList := by
        rw [← List.mem_rotate (n := looks), ← hpending, hqueue]
        exact List.mem_cons_self
      cases looked_serviceNext setup nowMs hqueue with
      | blocked _ hnext honward =>
        refine ⟨?_, fun request hr => (hblocked request hr).onward honward⟩
        rw [hnext, List.rotate_cons_succ, List.rotate_zero]
      | served hfree _ _ => exact absurd (hblocked front hmem) hfree

variable (setup nowMs) in
/-- The requests that stay queued when all have been looked at once. -/
lemma serviced_all (s : GatewayServices cap υ δ) :
    (serviced setup nowMs s.pending.length s).pending.toList.Sublist s.pending.toList ∧
      ∀ request ∈ (serviced setup nowMs s.pending.length s).pending.toList,
        Blocked (serviced setup nowMs s.pending.length s) request := by
  obtain ⟨stay, hpending, hsub, hblocked⟩ := serviced_once setup nowMs s le_rfl
  have hdrop : s.pending.toList.drop s.pending.length = [] := List.drop_length
  have htake : s.pending.toList.take s.pending.length = s.pending.toList := List.take_length
  rw [hdrop, List.nil_append] at hpending
  rw [htake] at hsub
  rw [hpending]
  exact ⟨hsub, hblocked⟩

lemma GoesRound.sublist (h : GoesRound setup nowMs s) :
    (serviced setup nowMs cap.pending s).pending.toList.Sublist s.pending.toList := by
  obtain ⟨hsub, hblocked⟩ := serviced_all setup nowMs s
  have hlooks : serviced setup nowMs cap.pending s =
      serviced setup nowMs (cap.pending - s.pending.length)
        (serviced setup nowMs s.pending.length s) := by
    have hle : s.pending.length ≤ cap.pending := s.pending.length_le
    rw [← serviced_add, Nat.sub_add_cancel hle]
  rw [hlooks, (serviced_blocked hblocked _).1]
  rcases h with hnone | hround
  · rw [List.length_eq_zero_iff.mp hnone, List.rotate_nil]
    exact List.nil_sublist _
  · rw [← List.rotate_mod]
    have hmod : (cap.pending - s.pending.length) %
        (serviced setup nowMs s.pending.length s).pending.toList.length = 0 :=
      Nat.mod_eq_zero_of_dvd hround
    rw [hmod, List.rotate_zero]
    exact hsub

/-- Serving a queue that is in order, in any number of looks, sends down the oldest first. -/
lemma Ordered.sendsOldest (h : Ordered s) (nowMs : UInt64) (looks : Nat) :
    SendsOldest setup (.serviceNext nowMs) (serviced setup nowMs looks s) := by
  rintro i request ⟨hrouted, hidle, pending, hpop⟩ other hother hrouted'
  have hfront := HVec.popFront_eq_some.mp hpop
  have hfree : ¬Blocked (serviced setup nowMs looks s) request := by
    rintro ⟨j, hj, hbusy⟩
    rw [hrouted] at hj
    cases hj
    rw [hidle] at hbusy
    cases hbusy
  rcases Nat.lt_or_ge looks s.pending.length with hlt | hge
  · obtain ⟨stay, hpending, _, hblocked⟩ := serviced_once setup nowMs s hlt.le
    have hsorted := h.sorted.sublist (List.drop_sublist looks _)
    have hlt' : looks < s.pending.toList.length := hlt
    rw [List.drop_eq_getElem_cons hlt'] at hpending hsorted
    rw [hpending, List.cons_append] at hfront hother
    obtain ⟨rfl, -⟩ := List.cons.inj hfront
    rcases List.mem_cons.mp hother with rfl | hother
    · exact le_rfl
    rcases List.mem_append.mp hother with hlater | hstay
    · exact (List.rel_of_pairwise_cons hsorted hlater).le
    · obtain ⟨j, hj, hbusy⟩ := hblocked other hstay
      rw [hrouted'] at hj
      cases hj
      rw [hidle] at hbusy
      cases hbusy
  · obtain ⟨_, hall⟩ := serviced_all setup nowMs s
    obtain ⟨more, rfl⟩ := Nat.exists_eq_add_of_le hge
    rw [Nat.add_comm, serviced_add] at hfront hfree
    obtain ⟨hpending, hblocked⟩ := serviced_blocked hall more
    refine absurd (hblocked request ?_) hfree
    rw [← List.mem_rotate (n := more), ← hpending, hfront]
    exact List.mem_cons_self

/-! ### The loop -/

lemma dispatchToDownstream_ok (hdeadline : deadline setup nowMs ≠ .panic) (i : Nat)
    (request : PendingRequest) (s : GatewayServices cap υ δ) :
    ((GatewayM.dispatchToDownstream setup i request nowMs).run s).1 = .ok () := by
  rw [GatewayM.dispatchToDownstream, GatewayM.run_update_bind]
  cases (s.allocate request).1 with
  | none => rfl
  | some internalTxn =>
    dsimp only
    unfold GatewayM.forward
    cases compileAduFrame internalTxn request.downstreamUnit.get request.pdu
        setup.downstream.transportType with
    | error e => rfl
    | ok adu =>
      dsimp only
      rw [GatewayM.run_update_bind]
      cases ((s.allocate request).2.sendDownstream setup i adu.toList).1 with
      | error e => rfl
      | ok _ =>
        dsimp only
        rw [EffM.run_lift_bind]
        cases hd : deadline setup nowMs with
        | ok deadlineMs => rfl
        | err e => cases e
        | panic => exact absurd hd hdeadline

lemma serviceNext_ok (hdeadline : deadline setup nowMs ≠ .panic) (s : GatewayServices cap υ δ) :
    ((GatewayM.serviceNext setup nowMs).run s).1 = .ok () := by
  rw [GatewayM.serviceNext, EffM.run_gets_bind, id_eq]
  cases s.pending.popFront with
  | none => rfl
  | some popped =>
    obtain ⟨request, pending⟩ := popped
    dsimp only
    rw [EffM.run_modify_bind]
    cases s.routedChannel request.unit with
    | none => rfl
    | some i =>
      dsimp only
      split
      · exact dispatchToDownstream_ok hdeadline i request _
      · rfl

/-- The loop ends early only when there is nothing left to look at. -/
lemma run_servicePending (hdeadline : deadline setup nowMs ≠ .panic) (limit : Nat)
    (s : GatewayServices cap υ δ) :
    (GatewayM.servicePending setup nowMs limit).run s = (.ok (), serviced setup nowMs limit s) := by
  induction limit generalizing s with
  | zero => rfl
  | succ limit ih =>
    rw [GatewayM.servicePending, EffM.run_gets_bind, id_eq]
    split
    next hempty => rw [serviced_of_nil (List.isEmpty_iff.mp hempty), EffM.run_pure]
    next =>
      have hok := serviceNext_ok hdeadline s
      rw [EffM.run_bind]
      rcases hrun : (GatewayM.serviceNext setup nowMs).run s with ⟨o, s'⟩
      rw [hrun] at hok
      cases hok
      have hs' : GatewayM.perform setup (.serviceNext nowMs) s = s' := by
        rw [GatewayM.perform, hrun]
      dsimp only
      rw [ih, ← hs']
      rfl

variable (setup nowMs) in
lemma serviced_accepted (s : GatewayServices cap υ δ) (looks : Nat) :
    (serviced setup nowMs looks s).accepted = s.accepted := by
  induction looks with
  | zero => rfl
  | succ looks ih =>
    rw [serviced_succ, accepted_perform]
    exact (List.append_nil _).trans ih

lemma Polled.pending_eq {i : Nat} (h : Polled setup s i nowMs s') : s'.pending = s.pending := by
  cases h with
  | untouched _ => rfl
  | expired _ _ internalTxn _ request _ =>
    exact sendExceptionUpstream_pending (s.removeTxn internalTxn) request.toUpstreamRequest _ _
  | broken _ received internalTxn _ request _ =>
    exact sendExceptionUpstream_pending ((s.modifyDownstream i fun _ => received).removeTxn
      internalTxn) request.toUpstreamRequest _ _
  | incomplete => rfl
  | completed channel received internalTxn deadlineMs request expectedLen =>
    exact completeResponse_pending setup _ i expectedLen received internalTxn request

lemma Ordered.of_sublist (h : Ordered s) (hsub : s'.pending.toList.Sublist s.pending.toList)
    (haccepted : s'.accepted = s.accepted) : Ordered s' := by
  refine ⟨h.sorted.sublist hsub, fun request hmem => ?_⟩
  rw [haccepted]
  exact h.accepted request (hsub.subset hmem)

lemma Ordered.polled (h : Ordered s) (i : Nat) (nowMs : UInt64) :
    Ordered (s.pollDownstream setup i nowMs).2 := by
  have hpolled : Polled setup s i nowMs _ := pollDownstream_cases s i nowMs
  exact h.of_sublist (by rw [hpolled.pending_eq]) hpolled.accepted_eq

variable (setup) in
/-- What the actions that do not serve the queue do to it. -/
lemma pending_perform {action : GatewayAction υ δ} (h : action.IsWhole)
    (s : GatewayServices cap υ δ) :
    (GatewayM.perform setup action s).pending = s.pending ∨
      ∃ request : PendingRequest, taken setup action s = [request.toUpstreamRequest] ∧
        (GatewayM.perform setup action s).pending.toList = s.pending.toList ++ [request] := by
  cases action with
  | environment => exact Or.inl rfl
  | addUpstream transport =>
    rw [GatewayM.perform, addUpstream]
    split <;> exact Or.inl rfl
  | addDownstream transport =>
    rw [GatewayM.perform, addDownstream]
    split <;> exact Or.inl rfl
  | pollDownstream => exact absurd h id
  | serviceNext => exact absurd h id
  | receiveUpstream up =>
    rw [GatewayM.perform, receiveUpstream]
    split
    · exact Or.inl rfl
    · dsimp only
      split <;> exact Or.inl rfl
  | upstreamRound up nowMs =>
    have hrounded := upstreamRound_cases setup s up nowMs
    generalize GatewayM.perform setup (.upstreamRound up nowMs) s = s' at hrounded ⊢
    cases hrounded with
    | nothing => exact Or.inl rfl
    | undecodable => exact Or.inl rfl
    | accepted _ _ _ request _ _ htake hon =>
      cases hon with
      | refused upstream code => exact Or.inl (sendExceptionUpstream_pending _ request upstream code)
      | queued pending hpush =>
        refine Or.inr ⟨⟨request, s.router.rewrite request.unit⟩, ?_, ?_⟩
        · rw [taken, htake]
        · exact HVec.extendFromSlice_eq_some.mp hpush
      | dispatched _ _ _ _ hdispatched => exact Or.inl hdispatched.pending_eq
  | removeSession => exact Or.inl rfl

lemma Ordered.whole {action : GatewayAction υ δ} (h : Ordered s) (hwhole : action.IsWhole) :
    Ordered (GatewayM.perform setup action s) := by
  have haccepted : (GatewayM.perform setup action s).accepted = _ := accepted_perform action s
  rcases pending_perform setup hwhole s with hsame | ⟨request, htaken, hadded⟩
  · refine ⟨hsame ▸ h.sorted, fun request hmem => ?_⟩
    rw [hsame] at hmem
    rw [haccepted, List.length_append]
    exact Nat.lt_add_right _ (h.accepted request hmem)
  · have hmem : request.toUpstreamRequest ∈ taken setup action s := by
      rw [htaken]
      exact List.mem_singleton_self _
    have hid : request.id = s.accepted.length := (mem_taken hmem).2.1
    rw [htaken] at haccepted
    constructor
    · rw [hadded, List.pairwise_append]
      refine ⟨h.sorted, List.pairwise_singleton _ _, fun earlier hearlier last hlast => ?_⟩
      rw [List.mem_singleton.mp hlast, hid]
      exact h.accepted earlier hearlier
    · intro other hmem
      rw [haccepted, List.length_append, List.length_singleton]
      rw [hadded, List.mem_append, List.mem_singleton] at hmem
      rcases hmem with hmem | rfl
      · exact Nat.lt_succ_of_lt (h.accepted other hmem)
      · exact hid ▸ Nat.lt_succ_self _

lemma Ordered.sweep {action : SweepAction υ δ} (h : Ordered s)
    (haction : KeepsOrder setup action s) : Ordered (GatewayM.sweep setup action s) := by
  cases action with
  | other action hwhole => exact h.whole hwhole
  | drainDownstream i nowMs =>
    have hpolled : Ordered (s.pollDownstream setup i nowMs).2 := h.polled i nowMs
    rw [GatewayM.sweep, GatewayM.drainDownstream, GatewayM.run_update_bind]
    cases hfreed : (s.pollDownstream setup i nowMs).1 with
    | none => exact hpolled
    | some active =>
      obtain ⟨hdeadline, hround⟩ := haction (by rw [hfreed]; exact Option.some_ne_none _)
      dsimp only
      rw [EffM.run_bind_pure_snd, GatewayM.tryServicePending, run_servicePending hdeadline]
      exact hpolled.of_sublist hround.sublist (serviced_accepted setup nowMs _ _)

/-- A queue in order is served in order. -/
lemma Ordered.servesInOrder (h : Ordered s) (action : SweepAction υ δ) :
    ServesInOrder setup action s := by
  cases action with
  | drainDownstream i nowMs => exact fun _ looks _ => (h.polled i nowMs).sendsOldest nowMs looks
  | other action hwhole =>
    rintro i request hdispatches other hother _
    cases action with
    | upstreamRound up nowMs =>
      rw [hdispatches.2.2.1] at hother
      cases hother
    | serviceNext => exact absurd hwhole id
    | _ => exact absurd hdispatches id

/-- In every run in which the queue is gone round whenever it is served, each channel is sent
its queued requests in the order in which they were accepted. -/
theorem servesInOrder_of_keepsOrder {router : Router} {s : GatewayServices cap υ δ}
    (h : Runs.RunWhen (KeepsOrder setup) (GatewayM.sweep setup) (.new router) s)
    (action : SweepAction υ δ) : ServesInOrder setup action s := by
  have hordered : Ordered s := by
    refine h.invariant (P := Ordered) (fun action s haction hs => hs.sweep haction) ?_
    refine ⟨List.Pairwise.nil, fun _ hmem => ?_⟩
    cases hmem
  exact hordered.servesInOrder action

end GatewayServices

/-- A client reads a register of a unit. -/
def readFrameOf (unit txnId : UInt8) : List UInt8 :=
  [0x00, txnId, 0x00, 0x00, 0x00, 0x06, unit, 0x03, 0x00, 0x00, 0x00, 0x01]

/-- Unit 2 is behind a channel of its own. -/
def twoRoutes : Router := ⟨fun unit => if unit.get = 2 then some 1 else some 0, id⟩

/-- Bytes arrive on one of the channels. -/
def arrives (i : Nat) (bytes : List UInt8) : SweepAction (List UInt8) (List UInt8) :=
  .other (.environment (fun _ x => x) (fun j arrived => if j = i then bytes else arrived) twoRoutes)
    trivial

/-- Units 1 and 2 are read, and unit 1 twice more. Both channels answer, the second one first. -/
def fourReads : List (SweepAction (List UInt8) (List UInt8)) :=
  [.other (.addUpstream (readFrameOf 1 1 ++ readFrameOf 2 2 ++ readFrameOf 1 3 ++ readFrameOf 1 4))
      trivial,
    .other (.addDownstream []) trivial, .other (.addDownstream []) trivial,
    .other (.receiveUpstream 0) trivial, .other (.upstreamRound 0 0) trivial,
    .other (.upstreamRound 0 0) trivial, .other (.upstreamRound 0 0) trivial,
    .other (.upstreamRound 0 0) trivial, arrives 1 (valueFrame 1), .drainDownstream 1 0,
    arrives 0 (valueFrame 0)]

/-- A gateway after these reads, with room in its queue for some requests. -/
def afterFourReads [Features] (pending : Nat) :
    GatewayServices ⟨1, 2, 4, pending⟩ (List UInt8) (List UInt8) :=
  fourReads.foldl (fun s action => GatewayM.sweep (arrivingSetup .stdTcp .stdTcp) action s)
    (.new twoRoutes)

namespace GatewayServices

/-- With room for four requests the queue of two is gone round once more, and stays in order. -/
theorem servesInOrder_afterFourReads :
    letI := Features.minimal
    ServesInOrder (arrivingSetup .stdTcp .stdTcp) (.drainDownstream 0 0) (afterFourReads 4) := by
  let _ := Features.minimal
  have hmeets : Runs.Meets (KeepsOrder (arrivingSetup .stdTcp .stdTcp))
      (GatewayM.sweep (arrivingSetup .stdTcp .stdTcp)) fourReads
      (.new twoRoutes : GatewayServices ⟨1, 2, 4, 4⟩ (List UInt8) (List UInt8)) := by
    refine ⟨trivial, trivial, trivial, trivial, trivial, trivial, trivial, trivial, trivial,
      fun _ => ⟨?_, Or.inr ?_⟩, trivial, trivial⟩
    · decide +kernel
    · decide +kernel
  exact servesInOrder_of_keepsOrder (Runs.RunWhen.foldl hmeets) _

/-- With room for three the last read overtakes the one before it. -/
theorem afterFourReads_not_servesInOrder :
    ¬∀ [Features] (setup : GatewaySetup (List UInt8) (List UInt8))
      (s : GatewayServices ⟨1, 2, 4, 3⟩ (List UInt8) (List UInt8)),
      GatewayM.SweepReachable setup s → ∀ action, ServesInOrder setup action s := by
  intro h
  let _ := Features.minimal
  have hreachable : GatewayM.SweepReachable (arrivingSetup .stdTcp .stdTcp) (afterFourReads 3) :=
    ⟨_, ⟨twoRoutes, rfl⟩, Runs.Run.foldl fourReads _⟩
  let polled := ((afterFourReads 3).pollDownstream (arrivingSetup .stdTcp .stdTcp) 0 0).2
  have hfreed : ((afterFourReads 3).pollDownstream (arrivingSetup .stdTcp .stdTcp) 0 0).1 ≠ none := by
    decide +kernel
  have hids : polled.pending.toList.map (·.id) = [3, 2] := by decide +kernel
  have hrouted : ∀ request ∈ polled.pending.toList, polled.routedChannel request.unit = some 0 := by
    decide +kernel
  have hidle : polled.channelIdle 0 = true := by decide +kernel
  have hserves : SendsOldest (arrivingSetup .stdTcp .stdTcp) (.serviceNext 0) polled :=
    h _ _ hreachable (.drainDownstream 0 0) hfreed 0 (by decide)
  clear_value polled
  obtain ⟨front, rest, hqueue, hfront, hrest⟩ := List.map_eq_cons_iff.mp hids
  obtain ⟨last, tail, rfl, hlast, _⟩ := List.map_eq_cons_iff.mp hrest
  have hlen : (last :: tail).length ≤ 3 := by
    have hle := polled.pending.length_le
    rw [hqueue] at hle
    exact Nat.le_of_succ_le hle
  have hle : front.id ≤ last.id := by
    refine hserves 0 front ⟨hrouted front (by rw [hqueue]; simp), hidle, ⟨last :: tail, hlen⟩,
      HVec.popFront_eq_some.mpr hqueue⟩ last ?_ (hrouted last (by rw [hqueue]; simp))
    exact hqueue ▸ List.mem_cons_of_mem _ List.mem_cons_self
  rw [hfront, hlast] at hle
  exact absurd hle (by decide)

end GatewayServices

end ModbusRs.Gateway
