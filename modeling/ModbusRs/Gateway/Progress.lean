import ModbusRs.Gateway.Fifo
import Mathlib.Data.Multiset.Count

/-!
# Progress of the gateway

A run that no panic has ended keeps two promises. No internal id stays in the map when no channel
waits for it, so that a request for an idle channel always gets a number. And a queue that is not
empty is attended to: some channel waits for a response, so that a later poll serves the queue,
and serving it looks at every request in it.
-/

namespace ModbusRs.Gateway

open Outcome

namespace GatewayM

open GatewayServices

variable [Features] {cap : Capacity} {υ δ : Type} (setup : GatewaySetup υ δ)

/-- The step does not panic. -/
def Survives (action : GatewayAction υ δ) (s : GatewayServices cap υ δ) : Prop :=
  match action with
  | .serviceNext nowMs => ((serviceNext setup nowMs).run s).1 ≠ .panic
  | .upstreamRound up nowMs => ((upstreamRound setup up nowMs).run s).1 ≠ .panic
  | _ => True

/-- The sweep does not panic. -/
def SweepSurvives (action : SweepAction υ δ) (s : GatewayServices cap υ δ) : Prop :=
  match action with
  | .drainDownstream i nowMs => ((drainDownstream setup i nowMs).run s).1 ≠ .panic
  | .other action _ => Survives setup action s

/-- The runs of steps that do not panic. -/
abbrev LiveRun : GatewayServices cap υ δ → GatewayServices cap υ δ → Prop :=
  Runs.RunWhen (Survives setup) (perform setup)

/-- The runs of sweeps that do not panic. -/
abbrev LiveSweeps : GatewayServices cap υ δ → GatewayServices cap υ δ → Prop :=
  Runs.RunWhen (SweepSurvives setup) (sweep setup)

end GatewayM

/-- What the parts of a poll do to the services, unless they panic, is within a preorder. -/
structure PartsWithinOk [Features] {cap : Capacity} {υ δ : Type} (setup : GatewaySetup υ δ)
    (R : GatewayServices cap υ δ → GatewayServices cap υ δ → Prop) (nowMs : UInt64) : Prop where
  refl : ∀ s, R s s
  trans : ∀ s₁ s₂ s₃, R s₁ s₂ → R s₂ s₃ → R s₁ s₃
  drainDownstream : ∀ i, (GatewayM.drainDownstream setup i nowMs).WithinOk R
  receiveUpstream : ∀ up s, R s (s.receiveUpstream setup up).2
  upstreamRound : ∀ up, (GatewayM.upstreamRound setup up nowMs).WithinOk R
  removeSession : ∀ sessionIdx s, R s (s.removeSession sessionIdx)

namespace PartsWithinOk

open GatewayM GatewayServices

variable [Features] {cap : Capacity} {υ δ : Type} {setup : GatewaySetup υ δ}
  {R : GatewayServices cap υ δ → GatewayServices cap υ δ → Prop} {nowMs : UInt64}

lemma drainDownstreams (h : PartsWithinOk setup R nowMs) (channels : List Nat) :
    (drainDownstreams setup nowMs channels).WithinOk R := by
  induction channels with
  | nil => exact EffM.withinOk_pure h.refl false
  | cons i rest ih =>
    refine EffM.WithinOk.bind h.trans (h.drainDownstream i) fun _ => ?_
    exact EffM.WithinOk.bind h.trans ih fun _ => EffM.withinOk_pure h.refl _

lemma upstreamFrames (h : PartsWithinOk setup R nowMs) (up rounds : Nat) :
    (upstreamFrames setup up nowMs rounds).WithinOk R := by
  induction rounds with
  | zero => exact EffM.withinOk_pure h.refl false
  | succ rounds ih =>
    refine EffM.WithinOk.bind h.trans (h.upstreamRound up) fun taken => ?_
    cases taken with
    | none => exact EffM.withinOk_pure h.refl false
    | some active => exact EffM.WithinOk.bind h.trans ih fun _ => EffM.withinOk_pure h.refl _

lemma drainUpstreams (h : PartsWithinOk setup R nowMs) (channels : List Nat) :
    (drainUpstreams setup nowMs channels).WithinOk R := by
  induction channels with
  | nil => exact EffM.withinOk_pure h.refl _
  | cons up rest ih =>
    refine EffM.WithinOk.bind h.trans ?_ fun _ => ?_
    · refine EffM.WithinOk.bind h.trans (fun s _ => h.receiveUpstream up s) fun _ => ?_
      refine EffM.WithinOk.bind h.trans (EffM.withinOk_gets h.refl _) fun _ => ?_
      exact EffM.WithinOk.bind h.trans (h.upstreamFrames up _) fun _ =>
        EffM.withinOk_pure h.refl _
    · exact EffM.WithinOk.bind h.trans ih fun _ => EffM.withinOk_pure h.refl _

lemma removeSessions (h : PartsWithinOk setup R nowMs) (gone : List UInt8)
    (s : GatewayServices cap υ δ) : R s (gone.foldl GatewayServices.removeSession s) := by
  induction gone generalizing s with
  | nil => exact h.refl s
  | cons sessionIdx gone ih => exact h.trans _ _ _ (h.removeSession sessionIdx s) (ih _)

theorem poll (h : PartsWithinOk setup R nowMs) : (poll setup nowMs).WithinOk R := by
  refine EffM.WithinOk.bind h.trans (EffM.withinOk_gets h.refl _) fun _ => ?_
  refine EffM.WithinOk.bind h.trans (h.drainDownstreams _) fun _ => ?_
  refine EffM.WithinOk.bind h.trans (EffM.withinOk_gets h.refl _) fun _ => ?_
  refine EffM.WithinOk.bind h.trans (h.drainUpstreams _) fun drained => ?_
  refine EffM.WithinOk.bind h.trans (EffM.withinOk_modify (h.removeSessions drained.1)) fun _ => ?_
  exact EffM.WithinOk.bind h.trans (EffM.withinOk_gets h.refl _) fun _ =>
    EffM.withinOk_pure h.refl _

end PartsWithinOk

namespace GatewayM

open GatewayServices

variable [Features] {cap : Capacity} {υ δ : Type} (setup : GatewaySetup υ δ)

lemma live_servicePending (nowMs : UInt64) (limit : Nat) :
    (servicePending setup nowMs limit : GatewayM cap υ δ Unit).WithinOk (LiveRun setup) := by
  have htrans : ∀ a b c : GatewayServices cap υ δ, LiveRun setup a b → LiveRun setup b c →
      LiveRun setup a c := fun _ _ _ => Runs.RunWhen.trans
  induction limit with
  | zero => exact EffM.withinOk_pure Runs.RunWhen.refl ()
  | succ limit ih =>
    refine EffM.WithinOk.bind htrans (EffM.withinOk_gets Runs.RunWhen.refl _) fun s => ?_
    split
    · exact EffM.withinOk_pure Runs.RunWhen.refl ()
    · refine EffM.WithinOk.bind htrans (fun s hok => ?_) fun _ => ih
      exact Runs.RunWhen.single (i := GatewayAction.serviceNext nowMs) hok

/-- A poll that does not panic is a run of steps that do not. -/
theorem live_poll (nowMs : UInt64) :
    (poll setup nowMs : GatewayM cap υ δ PollOutcome).WithinOk (LiveRun setup) := by
  have htrans : ∀ a b c : GatewayServices cap υ δ, LiveRun setup a b → LiveRun setup b c →
      LiveRun setup a c := fun _ _ _ => Runs.RunWhen.trans
  refine PartsWithinOk.poll
    { refl := Runs.RunWhen.refl
      trans := htrans
      drainDownstream := fun i => ?_
      receiveUpstream := fun up s =>
        Runs.RunWhen.single (i := GatewayAction.receiveUpstream up) trivial
      upstreamRound := fun up s hok =>
        Runs.RunWhen.single (i := GatewayAction.upstreamRound up nowMs) hok
      removeSession := fun sessionIdx s =>
        Runs.RunWhen.single (i := GatewayAction.removeSession sessionIdx) trivial }
  refine EffM.WithinOk.bind htrans (fun s _ => ?_) fun freed => ?_
  · exact Runs.RunWhen.single (i := GatewayAction.pollDownstream i nowMs) trivial
  · cases freed with
    | none => exact EffM.withinOk_pure Runs.RunWhen.refl false
    | some active =>
      exact EffM.WithinOk.bind htrans (live_servicePending setup nowMs cap.pending) fun _ =>
        EffM.withinOk_pure Runs.RunWhen.refl active

/-- And a run of sweeps. -/
theorem liveSweeps_poll (nowMs : UInt64) :
    (poll setup nowMs : GatewayM cap υ δ PollOutcome).WithinOk (LiveSweeps setup) := by
  refine PartsWithinOk.poll
    { refl := Runs.RunWhen.refl
      trans := fun _ _ _ => Runs.RunWhen.trans
      drainDownstream := fun i s hok =>
        Runs.RunWhen.single (i := SweepAction.drainDownstream i nowMs) hok
      receiveUpstream := fun up s =>
        Runs.RunWhen.single (i := SweepAction.other (.receiveUpstream up) trivial) trivial
      upstreamRound := fun up s hok =>
        Runs.RunWhen.single (i := SweepAction.other (.upstreamRound up nowMs) trivial) hok
      removeSession := fun sessionIdx s =>
        Runs.RunWhen.single (i := SweepAction.other (.removeSession sessionIdx) trivial) trivial }

end GatewayM

/-! ### The map and the channels -/

/-- The internal ids in the map are those of requests in flight, counted with multiplicity: after
the counter has wrapped an id may be in use twice. -/
def Contained {n : Nat} (flights : List InFlight) (m : TxnMap n) : Prop :=
  (m.ids : Multiset UInt16) ≤ (flights.map Prod.fst : List UInt16)

section Contained

variable {n : Nat} {flights flights' : List InFlight} {m m' : TxnMap n} {internalTxn : UInt16}
  {request : PendingRequest}

lemma contained_iff : Contained flights m ↔
    ∀ id, m.ids.count id ≤ (flights.map Prod.fst).count id :=
  Multiset.le_iff_count.trans (forall_congr' fun id => by rw [Multiset.coe_count, Multiset.coe_count])

lemma contained_iff_subperm : Contained flights m ↔ m.ids.Subperm (flights.map Prod.fst) :=
  Multiset.coe_le

lemma ids_remove (h : internalTxn ∈ m.ids) :
    (internalTxn :: (m.remove internalTxn).2.ids).Perm m.ids := by
  rcases hremove : m.remove internalTxn with ⟨_ | entry, m'⟩
  · exact absurd h (TxnMap.remove_eq_none hremove).1
  · obtain ⟨hid, hperm⟩ := TxnMap.remove_eq_some hremove
    have hids := hperm.map (·.internalTxn)
    rw [List.map_cons, hid] at hids
    exact hids

lemma ids_allocate {upstreamTxn : UInt16} {sessionId : UInt8}
    (h : m.allocate upstreamTxn sessionId = (some internalTxn, m')) :
    m'.ids = m.ids ++ [internalTxn] := by
  rw [TxnMap.ids, (TxnMap.allocate_eq_some h).2, List.map_append]
  rfl

/-- A request that has come to its end leaves both sides. -/
lemma Contained.finished (h : Contained flights m)
    (hflights : ((internalTxn, request) :: flights').Perm flights) :
    Contained flights' (m.remove internalTxn).2 := by
  rw [contained_iff] at h ⊢
  intro id
  have hbound := h id
  have hgone := (hflights.map Prod.fst).count_eq id
  rw [List.map_cons, List.count_cons] at hgone
  dsimp only at hgone
  by_cases hmem : internalTxn ∈ m.ids
  · have hids := (ids_remove hmem).count_eq id
    rw [List.count_cons] at hids
    omega
  · have hsame : (m.remove internalTxn).2 = m := by
      rcases hremove : m.remove internalTxn with ⟨_ | entry, m'⟩
      · exact (TxnMap.remove_eq_none hremove).2
      · obtain ⟨hid, hperm⟩ := TxnMap.remove_eq_some hremove
        refine absurd ?_ hmem
        exact List.mem_map.mpr ⟨entry, hperm.subset List.mem_cons_self, hid⟩
    rw [hsame]
    by_cases heq : internalTxn = id
    · rw [heq] at hmem
      rw [List.count_eq_zero.mpr hmem]
      exact Nat.zero_le _
    · rw [if_neg (by simpa using heq)] at hgone
      omega

/-- A number that is given out and taken back. -/
lemma Contained.refused {upstreamTxn : UInt16} {sessionId : UInt8} (h : Contained flights m)
    (halloc : m.allocate upstreamTxn sessionId = (some internalTxn, m')) :
    Contained flights (m'.remove internalTxn).2 := by
  have hids := ids_allocate halloc
  have hmem : internalTxn ∈ m'.ids := by
    rw [hids]
    exact List.mem_append_right _ List.mem_cons_self
  have hperm := ids_remove hmem
  rw [hids] at hperm
  have hsame := hperm.trans (List.perm_append_singleton _ _)
  rw [contained_iff_subperm] at h ⊢
  exact hsame.cons_inv.subperm.trans h

lemma Contained.sent {upstreamTxn : UInt16} {sessionId : UInt8} (h : Contained flights m)
    (halloc : m.allocate upstreamTxn sessionId = (some internalTxn, m'))
    (hflights : flights'.Perm ((internalTxn, request) :: flights)) : Contained flights' m' := by
  rw [contained_iff_subperm] at h ⊢
  have hcons := (List.subperm_cons internalTxn).mpr h
  rw [ids_allocate halloc]
  exact ((List.perm_append_singleton _ _).subperm.trans hcons).trans
    (hflights.map Prod.fst).symm.subperm

lemma Contained.dropped (h : Contained flights m) (sessionId : UInt8) :
    Contained flights (m.removeBySession sessionId).2 := by
  have hperm := (m.removeBySession_perm sessionId).map (·.internalTxn)
  rw [contained_iff_subperm] at h ⊢
  exact (hperm.subperm.trans (List.filter_sublist.map _).subperm).trans h

/-- A step that gives out no numbers keeps the ids in the map among those in flight. -/
lemma Booked.contained {numbers : PendingRequest → Prop} {drops : UInt8 → Prop}
    (h : Booked numbers drops flights m flights' m') (hnumbers : ∀ request, ¬numbers request)
    (hc : Contained flights m) : Contained flights' m' := by
  cases h with
  | same _ hperm => exact hc.trans_eq (Multiset.coe_eq_coe.mpr (hperm.symm.map Prod.fst))
  | finished _ internalTxn request hperm => exact hc.finished hperm
  | refused request _ _ hn _ => exact absurd hn (hnumbers request)
  | leaked request _ _ hn _ => exact absurd hn (hnumbers request)
  | sent _ request _ _ hn _ _ => exact absurd hn (hnumbers request)
  | dropped sessionId _ => exact hc.dropped sessionId

end Contained

namespace GatewayServices

variable [Features] {cap : Capacity} {υ δ : Type} {setup : GatewaySetup υ δ}
  {s s' : GatewayServices cap υ δ} {request : PendingRequest} {nowMs : UInt64}

/-- A dispatch that does not panic leaves no id behind. -/
lemma contained_dispatchToDownstream {i : Nat} (h : Contained s.awaiting s.txnMap)
    (hidle : s.channelIdle i = true)
    (hok : ((GatewayM.dispatchToDownstream setup i request nowMs).run s).1 ≠ .panic) :
    Contained ((GatewayM.dispatchToDownstream setup i request nowMs).run s).2.awaiting
      ((GatewayM.dispatchToDownstream setup i request nowMs).run s).2.txnMap := by
  rw [GatewayM.dispatchToDownstream, GatewayM.run_update_bind] at hok ⊢
  rcases halloc : s.txnMap.allocate request.upstreamTxn request.sessionIdx with
    ⟨internalTxn, txnMap⟩
  have hallocated : s.allocate request = (internalTxn, { s with txnMap }) := by
    rw [allocate, halloc]
  rw [hallocated] at hok ⊢
  cases internalTxn with
  | none =>
    obtain ⟨_, rfl⟩ := TxnMap.allocate_eq_none halloc
    dsimp only
    rw [EffM.run_modify, refuse, sendExceptionUpstream_txnMap,
      awaiting_congr (sendExceptionUpstream_downstreams _ _ _ _)]
    exact h
  | some internalTxn =>
    dsimp only at hok ⊢
    unfold GatewayM.forward at hok ⊢
    cases hadu : compileAduFrame internalTxn request.downstreamUnit.get request.pdu
        setup.downstream.transportType with
    | error e => exact h.refused halloc
    | ok adu =>
      rw [hadu] at hok
      dsimp only at hok ⊢
      rw [GatewayM.run_update_bind] at hok ⊢
      have hawaiting := sendDownstream_awaiting setup
        ({ s with txnMap } : GatewayServices cap υ δ) i adu.toList
      have hmap := sendDownstream_txnMap setup
        ({ s with txnMap } : GatewayServices cap υ δ) i adu.toList
      cases hsend : (({ s with txnMap } : GatewayServices cap υ δ).sendDownstream setup i
          adu.toList).1 with
      | error e =>
        dsimp only
        rw [EffM.run_modify, refuse, sendExceptionUpstream_txnMap,
          awaiting_congr (sendExceptionUpstream_downstreams _ _ _ _), removeTxn, hmap]
        exact hawaiting ▸ h.refused halloc
      | ok _ =>
        rw [hsend] at hok
        dsimp only at hok ⊢
        rw [EffM.run_lift_bind] at hok ⊢
        cases hdeadline : deadline setup nowMs with
        | ok deadlineMs =>
          have hidle' : (({ s with txnMap } : GatewayServices cap υ δ).sendDownstream setup i
              adu.toList).2.channelIdle i = true := by
            rw [sendDownstream_channelIdle]
            exact hidle
          have hperm := awaiting_setState_perm hidle' internalTxn deadlineMs request
          rw [hawaiting] at hperm
          dsimp only
          rw [EffM.run_modify]
          refine (h.sent halloc hperm).trans_eq' ?_
          rw [setState, modifyDownstream, hmap]
        | err e => cases e
        | panic =>
          rw [hdeadline] at hok
          exact absurd rfl hok

lemma contained_sendExceptionUpstream (h : Contained s.awaiting s.txnMap)
    (upstream : Option Nat) (request : UpstreamRequest) (code : ExceptionCode) :
    Contained (s.sendExceptionUpstream setup upstream request code).awaiting
      (s.sendExceptionUpstream setup upstream request code).txnMap := by
  rw [sendExceptionUpstream_txnMap, awaiting_congr (sendExceptionUpstream_downstreams _ _ _ _)]
  exact h

lemma contained_enqueue (h : Contained s.awaiting s.txnMap) :
    Contained ((GatewayM.enqueue setup request).run s).2.awaiting
      ((GatewayM.enqueue setup request).run s).2.txnMap := by
  unfold GatewayM.enqueue
  rw [EffM.run_modify]
  cases s.pending.push request with
  | some pending => exact h
  | none => exact contained_sendExceptionUpstream h _ _ _

lemma contained_serviceNext (h : Contained s.awaiting s.txnMap)
    (hok : ((GatewayM.serviceNext setup nowMs).run s).1 ≠ .panic) :
    Contained ((GatewayM.serviceNext setup nowMs).run s).2.awaiting
      ((GatewayM.serviceNext setup nowMs).run s).2.txnMap := by
  rw [GatewayM.serviceNext, EffM.run_gets_bind, id_eq] at hok ⊢
  cases hpop : s.pending.popFront with
  | none => exact h
  | some popped =>
    obtain ⟨request, pending⟩ := popped
    rw [hpop] at hok
    dsimp only at hok ⊢
    rw [EffM.run_modify_bind] at hok ⊢
    cases hrouted : s.routedChannel request.unit with
    | none =>
      exact contained_sendExceptionUpstream
        (s := ({ s with pending } : GatewayServices cap υ δ)) h _ _ _
    | some i =>
      rw [hrouted] at hok
      dsimp only at hok ⊢
      split
      next hidle =>
        rw [if_pos hidle] at hok
        exact contained_dispatchToDownstream
          (s := ({ s with pending } : GatewayServices cap υ δ)) h hidle hok
      next => exact h

lemma contained_handleRequest {up : Nat} {request : UpstreamRequest}
    (h : Contained s.awaiting s.txnMap)
    (hok : ((GatewayM.handleRequest setup up request nowMs).run s).1 ≠ .panic) :
    Contained ((GatewayM.handleRequest setup up request nowMs).run s).2.awaiting
      ((GatewayM.handleRequest setup up request nowMs).run s).2.txnMap := by
  rw [GatewayM.handleRequest, EffM.run_gets_bind, id_eq] at hok ⊢
  cases hrouted : s.routedChannel request.unit with
  | none => exact contained_sendExceptionUpstream h _ _ _
  | some i =>
    rw [hrouted] at hok
    dsimp only at hok ⊢
    rw [GatewayM.routeOrQueueRequest, EffM.run_gets_bind, id_eq] at hok ⊢
    split
    next => exact contained_enqueue h
    next hempty =>
      rw [if_neg hempty] at hok
      have hroute : s.router.route (PendingRequest.mk request
          (s.router.rewrite request.unit)).unit = some i := route_of_routedChannel hrouted
      rw [EffM.run_lift_bind, hroute] at hok ⊢
      simp only [unwrap_some] at hok ⊢
      split
      next hidle =>
        rw [if_pos hidle] at hok
        exact contained_dispatchToDownstream h hidle hok
      next => exact contained_enqueue h

lemma contained_upstreamRound {up : Nat} (h : Contained s.awaiting s.txnMap)
    (hok : ((GatewayM.upstreamRound setup up nowMs).run s).1 ≠ .panic) :
    Contained ((GatewayM.upstreamRound setup up nowMs).run s).2.awaiting
      ((GatewayM.upstreamRound setup up nowMs).run s).2.txnMap := by
  rw [GatewayM.upstreamRound, GatewayM.run_update_bind] at hok ⊢
  rcases takeUpstreamFrame_cases setup s up with htake |
    ⟨channel, expectedLen, _, htake | ⟨request, _, htake⟩⟩
  · rw [htake]
    exact h
  · rw [htake]
    exact h
  · rw [htake] at hok ⊢
    dsimp only at hok ⊢
    rw [EffM.run_bind_pure_snd]
    refine contained_handleRequest (s := (s.dropFrame up expectedLen).accept request) h fun hpanic => ?_
    refine hok ?_
    rw [EffM.run_bind]
    rcases hrun : (GatewayM.handleRequest setup up request nowMs).run
      ((s.dropFrame up expectedLen).accept request) with ⟨o, s'⟩
    rw [hrun] at hpanic
    cases hpanic
    rfl

/-- Every step that does not panic keeps the ids in the map among those in flight. -/
lemma contained_perform {action : GatewayAction υ δ} (h : Contained s.awaiting s.txnMap)
    (hok : GatewayM.Survives setup action s) :
    Contained (GatewayM.perform setup action s).awaiting
      (GatewayM.perform setup action s).txnMap := by
  have hbooked := booked_perform setup action s
  cases action with
  | serviceNext nowMs => exact contained_serviceNext h hok
  | upstreamRound up nowMs => exact contained_upstreamRound h hok
  | environment | addUpstream | addDownstream | pollDownstream | receiveUpstream | removeSession =>
    exact hbooked.contained (fun request hnumbers => hnumbers.2.elim fun _ => id) h

lemma Dispatches.channelIdle {action : GatewayAction υ δ} {i : Nat}
    (h : Dispatches setup action s i request) : s.channelIdle i = true := by
  cases action with
  | serviceNext nowMs => exact h.2.1
  | upstreamRound up nowMs => exact h.2.1
  | environment | addUpstream | addDownstream | pollDownstream | receiveUpstream | removeSession =>
    exact h.elim

/-- An idle channel waits for nothing. -/
lemma length_awaiting_lt {i : Nat} (hidle : s.channelIdle i = true) :
    s.awaiting.length < s.downstreams.length := by
  obtain ⟨channel, hi, hstate⟩ := channelIdle_iff.mp hidle
  refine List.length_filterMap_lt_length_iff_exists.mpr ⟨channel, List.mem_of_getElem? hi, ?_⟩
  rw [hstate]
  rfl

/-- The ids in the map belong to channels that wait for a response. As long as the map is not
smaller than the number of channels, every request that is dispatched gets an id. -/
theorem noLeak_of_liveRun (setup : GatewaySetup υ δ) {router : Router}
    (h : GatewayM.LiveRun setup (.new router) s) :
    (s.txnMap.ids : Multiset UInt16) ≤ (s.awaiting.map Prod.fst : List UInt16) ∧
      (s.downstreams.length ≤ cap.txn → ∀ action i request, Dispatches setup action s i request →
        (s.allocate request).1 ≠ none) := by
  have hc : Contained s.awaiting s.txnMap :=
    h.invariant (P := fun s => Contained s.awaiting s.txnMap)
      (fun _ _ hok hs => contained_perform hs hok) le_rfl
  refine ⟨hc, fun hsize action i request hdispatches hnone => ?_⟩
  have hlt := length_awaiting_lt hdispatches.channelIdle
  have hle := (contained_iff_subperm.mp hc).length_le
  rw [TxnMap.ids, List.length_map, List.length_map] at hle
  rcases halloc : s.txnMap.allocate request.upstreamTxn request.sessionIdx with ⟨_ | id, txnMap⟩
  · have hfull : s.txnMap.entries.toList.length = cap.txn := (TxnMap.allocate_eq_none halloc).1
    omega
  · rw [allocate, halloc] at hnone
    cases hnone

omit [Features] in
/-- While the request is in flight its id is in the map. -/
theorem noLeak_sent :
    letI := Features.minimal
    let s := ((answeredRead []).take 4).foldl
      (fun s action => GatewayM.perform (arrivingSetup .stdTcp .stdTcp) action s)
      (.new .passthrough : GatewayServices ⟨1, 1, 1, 0⟩ (List UInt8) (List UInt8))
    (s.txnMap.ids : Multiset UInt16) ≤ (s.awaiting.map Prod.fst : List UInt16) := by
  let _ := Features.minimal
  have hmeets : Runs.Meets (GatewayM.Survives (arrivingSetup .stdTcp .stdTcp))
      (GatewayM.perform (arrivingSetup .stdTcp .stdTcp)) ((answeredRead []).take 4)
      (.new .passthrough : GatewayServices ⟨1, 1, 1, 0⟩ (List UInt8) (List UInt8)) := by
    refine ⟨trivial, trivial, trivial, ?_, trivial⟩
    unfold GatewayM.Survives
    decide +kernel
  exact (noLeak_of_liveRun _ (Runs.RunWhen.foldl hmeets)).1

/-! ### The queue -/

/-- The channel waits for a response until the deadline. -/
def AwaitsUntil (s : GatewayServices cap υ δ) (i : Nat) (deadlineMs : UInt64) : Prop :=
  ∃ channel internalTxn request, s.downstreams.toList[i]? = some channel ∧
    channel.state = .awaitingResponse internalTxn deadlineMs request

/-- A queue that is not empty is attended to. -/
def Attended (s : GatewayServices cap υ δ) : Prop :=
  s.pending.toList ≠ [] → ∃ i deadlineMs, s.AwaitsUntil i deadlineMs

variable (setup) in
/-- Phase 1 of a poll runs `try_service_pending` for one of the channels. -/
def ServesQueue (nowMs : UInt64) : List Nat → GatewayServices cap υ δ → Prop
  | [], _ => False
  | i :: rest, s => (s.pollDownstream setup i nowMs).1 ≠ none ∨
    ServesQueue nowMs rest (s.pollDownstream setup i nowMs).2

lemma AwaitsUntil.of_downstreams {i : Nat} {deadlineMs : UInt64} (h : s.AwaitsUntil i deadlineMs)
    (hs : s'.downstreams = s.downstreams) : s'.AwaitsUntil i deadlineMs := by
  unfold AwaitsUntil
  rw [hs]
  exact h

lemma Attended.of_eq (h : s.Attended) (hpending : s'.pending = s.pending)
    (hdownstreams : s'.downstreams = s.downstreams) : s'.Attended := by
  intro hne
  rw [hpending] at hne
  obtain ⟨i, deadlineMs, hawaits⟩ := h hne
  exact ⟨i, deadlineMs, hawaits.of_downstreams hdownstreams⟩

/-- A request whose channel is busy has a channel that waits. -/
lemma awaitsUntil_of_routed {unit : UnitIdOrSlaveAddr} {i : Nat}
    (hrouted : s.routedChannel unit = some i) (hbusy : s.channelIdle i = false) :
    ∃ deadlineMs, s.AwaitsUntil i deadlineMs := by
  have hlt : i < s.downstreams.toList.length := by
    unfold routedChannel at hrouted
    split at hrouted
    · split at hrouted
      · rename_i hlt
        cases hrouted
        exact hlt
      · cases hrouted
    · cases hrouted
  have hi := List.getElem?_eq_getElem hlt
  cases hstate : s.downstreams.toList[i].state with
  | idle =>
    rw [channelIdle_iff.mpr ⟨_, hi, hstate⟩] at hbusy
    cases hbusy
  | awaitingResponse internalTxn deadlineMs request => exact ⟨deadlineMs, _, _, _, hi, hstate⟩

/-- A channel that phase 1 leaves alone goes on waiting, and so do the others. -/
lemma AwaitsUntil.pollDownstream {i j : Nat} {deadlineMs : UInt64} (h : s.AwaitsUntil i deadlineMs)
    (hnone : (s.pollDownstream setup j nowMs).1 = none) :
    (s.pollDownstream setup j nowMs).2.AwaitsUntil i deadlineMs := by
  obtain ⟨channel, internalTxn, request, hi, hstate⟩ := h
  unfold GatewayServices.pollDownstream at hnone ⊢
  split
  · exact ⟨channel, internalTxn, request, hi, hstate⟩
  · rename_i waiting hj
    rw [hj] at hnone
    dsimp only at hnone ⊢
    split
    · exact ⟨channel, internalTxn, request, hi, hstate⟩
    · rename_i internalTxn' deadlineMs' request' hwaiting
      rw [hwaiting] at hnone
      dsimp only at hnone ⊢
      split
      · rename_i hlate
        rw [if_pos hlate] at hnone
        cases hnone
      · rename_i hearly
        rw [if_neg hearly] at hnone
        split
        · rename_i hgood
          rw [if_pos hgood] at hnone
          split
          · by_cases hij : j = i
            · subst hij
              rw [hi] at hj
              cases hj
              have hreceived : (receiveDownstream setup channel).2.state = _ :=
                (receiveDownstream_state channel).trans hstate
              refine ⟨(receiveDownstream setup channel).2, internalTxn, request, ?_, hreceived⟩
              simp only [modifyDownstream, HVec.modify_toList, List.getElem?_modify_eq, hi]
              rfl
            · refine ⟨channel, internalTxn, request, ?_, hstate⟩
              simp only [modifyDownstream, HVec.modify_toList, List.getElem?_modify, if_neg hij, hi]
              rfl
          · rename_i hlen
            rw [hlen] at hnone
            cases hnone
        · rename_i hbad
          rw [if_neg hbad] at hnone
          cases hnone

/-- Once the deadline has passed, phase 1 serves the queue. -/
lemma AwaitsUntil.servesQueue {i : Nat} {deadlineMs : UInt64} (h : s.AwaitsUntil i deadlineMs)
    (hlate : deadlineMs ≤ nowMs) {channels : List Nat} (hmem : i ∈ channels) :
    ServesQueue setup nowMs channels s := by
  induction channels generalizing s with
  | nil => cases hmem
  | cons j rest ih =>
    by_cases hnone : (s.pollDownstream setup j nowMs).1 = none
    · refine Or.inr (ih (h.pollDownstream hnone) ?_)
      rcases List.mem_cons.mp hmem with rfl | hmem
      · obtain ⟨channel, internalTxn, request, hi, hstate⟩ := h
        simp only [GatewayServices.pollDownstream, hi, hstate, if_pos hlate] at hnone
        cases hnone
      · exact hmem
    · exact Or.inl hnone

variable (setup nowMs) in
/-- A service that does not panic is a number of looks. -/
lemma run_servicePending_of_ok (limit : Nat) (s : GatewayServices cap υ δ)
    (hok : ((GatewayM.servicePending setup nowMs limit).run s).1 ≠ .panic) :
    ((GatewayM.servicePending setup nowMs limit).run s).2 = serviced setup nowMs limit s := by
  induction limit generalizing s with
  | zero => rfl
  | succ limit ih =>
    rw [GatewayM.servicePending, EffM.run_gets_bind, id_eq] at hok ⊢
    split
    next hempty => rw [serviced_of_nil (List.isEmpty_iff.mp hempty), EffM.run_pure]
    next hne =>
      rw [if_neg hne, EffM.run_bind] at hok
      rw [EffM.run_bind]
      rcases hrun : (GatewayM.serviceNext setup nowMs).run s with ⟨o, s'⟩
      rw [hrun] at hok
      have hs' : GatewayM.perform setup (.serviceNext nowMs) s = s' := by
        rw [GatewayM.perform, hrun]
      cases o with
      | ok _ =>
        dsimp only at hok ⊢
        rw [ih s' hok, ← hs']
        rfl
      | err e => cases e
      | panic => exact absurd rfl hok

variable (setup nowMs) in
/-- What a service leaves in the queue is attended to. -/
lemma attended_serviced (s : GatewayServices cap υ δ) :
    (serviced setup nowMs cap.pending s).Attended := by
  intro hne
  have hle : s.pending.length ≤ cap.pending := s.pending.length_le
  obtain ⟨_, hall⟩ := serviced_all setup nowMs s
  obtain ⟨hpending, hblocked⟩ := serviced_blocked hall (cap.pending - s.pending.length)
  rw [← serviced_add, Nat.sub_add_cancel hle] at hpending hblocked
  obtain ⟨request, hmem⟩ := List.exists_mem_of_ne_nil _ hne
  rw [hpending, List.mem_rotate] at hmem
  obtain ⟨i, hrouted, hbusy⟩ := hblocked request hmem
  obtain ⟨deadlineMs, hawaits⟩ := awaitsUntil_of_routed hrouted hbusy
  exact ⟨i, deadlineMs, hawaits⟩

lemma attended_drainDownstream {i : Nat} (h : s.Attended)
    (hok : ((GatewayM.drainDownstream setup i nowMs).run s).1 ≠ .panic) :
    ((GatewayM.drainDownstream setup i nowMs).run s).2.Attended := by
  rw [GatewayM.drainDownstream, GatewayM.run_update_bind] at hok ⊢
  cases hpolled : (s.pollDownstream setup i nowMs).1 with
  | none =>
    intro hne
    have hpolled' : Polled setup s i nowMs _ := pollDownstream_cases s i nowMs
    have hpending := hpolled'.pending_eq
    rw [EffM.run_pure, hpending] at hne
    obtain ⟨j, deadlineMs, hawaits⟩ := h hne
    exact ⟨j, deadlineMs, hawaits.pollDownstream hpolled⟩
  | some active =>
    rw [hpolled] at hok
    dsimp only at hok ⊢
    rw [EffM.run_bind_pure_snd, GatewayM.tryServicePending]
    have hserved : ((GatewayM.servicePending setup nowMs cap.pending).run
        (s.pollDownstream setup i nowMs).2).1 ≠ .panic := by
      intro hpanic
      refine hok ?_
      rw [GatewayM.tryServicePending, EffM.run_bind]
      rcases hrun : (GatewayM.servicePending setup nowMs cap.pending).run
        (s.pollDownstream setup i nowMs).2 with ⟨o, s'⟩
      rw [hrun] at hpanic
      cases hpanic
      rfl
    rw [run_servicePending_of_ok setup nowMs cap.pending _ hserved]
    exact attended_serviced setup nowMs _

lemma attended_sendExceptionUpstream (h : s.Attended) (upstream : Option Nat)
    (request : UpstreamRequest) (code : ExceptionCode) :
    (s.sendExceptionUpstream setup upstream request code).Attended :=
  h.of_eq (sendExceptionUpstream_pending _ _ _ _) (sendExceptionUpstream_downstreams _ _ _ _)

/-- A request is queued when another is queued already or its channel is busy. -/
lemma attended_enqueue (h : ∃ i deadlineMs, s.AwaitsUntil i deadlineMs) :
    ((GatewayM.enqueue setup request).run s).2.Attended := by
  unfold GatewayM.enqueue
  rw [EffM.run_modify]
  cases s.pending.push request with
  | some pending => exact fun _ => h
  | none => exact attended_sendExceptionUpstream (fun _ => h) _ _ _

lemma attended_handleRequest (h : s.Attended) (up : Nat) (request : UpstreamRequest)
    (nowMs : UInt64) :
    ((GatewayM.handleRequest setup up request nowMs).run s).2.Attended := by
  rw [GatewayM.handleRequest, EffM.run_gets_bind, id_eq]
  cases hrouted : s.routedChannel request.unit with
  | none => exact attended_sendExceptionUpstream h _ _ _
  | some i =>
    dsimp only
    rw [GatewayM.routeOrQueueRequest, EffM.run_gets_bind, id_eq]
    split
    next hqueued => exact attended_enqueue (h (by simpa using hqueued))
    next hempty =>
      have hroute : s.router.route (PendingRequest.mk request
          (s.router.rewrite request.unit)).unit = some i := route_of_routedChannel hrouted
      rw [EffM.run_lift_bind, hroute]
      simp only [unwrap_some]
      split
      next =>
        -- nothing is queued before or after the dispatch
        intro hne
        have hdispatched : Dispatched setup s i ⟨request, s.router.rewrite request.unit⟩ nowMs _ :=
          dispatchToDownstream_cases s i _ nowMs
        rw [hdispatched.pending_eq] at hne
        exact absurd (by simpa using hempty) hne
      next hbusy =>
        obtain ⟨deadlineMs, hawaits⟩ :=
          awaitsUntil_of_routed hrouted (Bool.eq_false_iff.mpr hbusy)
        exact attended_enqueue ⟨i, deadlineMs, hawaits⟩

/-- The actions between two looks at downstream channels. -/
lemma attended_whole {action : GatewayAction υ δ} (h : s.Attended) (hwhole : action.IsWhole) :
    (GatewayM.perform setup action s).Attended := by
  cases action with
  | environment upstream downstream router =>
    intro hne
    obtain ⟨i, deadlineMs, channel, internalTxn, request, hi, hstate⟩ := h hne
    refine ⟨i, deadlineMs, { channel with
      link := { channel.link with state := downstream i channel.link.state } }, internalTxn, request,
      ?_, hstate⟩
    rw [GatewayM.perform, GatewayM.environment, HVec.mapIdx_toList, List.getElem?_mapIdx, hi]
    rfl
  | addUpstream transport =>
    rw [GatewayM.perform, addUpstream]
    split <;> exact h.of_eq rfl rfl
  | addDownstream transport =>
    rw [GatewayM.perform, addDownstream]
    split
    next downstreams hpush =>
      intro hne
      obtain ⟨i, deadlineMs, channel, internalTxn, request, hi, hstate⟩ := h hne
      refine ⟨i, deadlineMs, channel, internalTxn, request, ?_, hstate⟩
      change downstreams.toList[i]? = some channel
      rw [HVec.extendFromSlice_eq_some.mp hpush,
        List.getElem?_append_left (List.getElem?_eq_some_iff.mp hi).1, hi]
    next => exact h
  | pollDownstream => exact absurd hwhole id
  | serviceNext => exact absurd hwhole id
  | receiveUpstream up =>
    rw [GatewayM.perform, receiveUpstream]
    split
    · exact h
    · dsimp only
      split <;> exact h.of_eq rfl rfl
  | upstreamRound up nowMs =>
    rw [GatewayM.perform, GatewayM.upstreamRound, GatewayM.run_update_bind]
    rcases takeUpstreamFrame_cases setup s up with htake |
      ⟨channel, expectedLen, _, htake | ⟨request, _, htake⟩⟩
    · rw [htake]
      exact h
    · rw [htake]
      exact h.of_eq rfl rfl
    · rw [htake]
      dsimp only
      rw [EffM.run_bind_pure_snd]
      have htaken : ((s.dropFrame up expectedLen).accept request).Attended := h.of_eq rfl rfl
      exact attended_handleRequest htaken up request nowMs
  | removeSession sessionIdx => exact h.of_eq rfl rfl

/-- Two requests arrive at once. -/
def twoQueued : List (SweepAction (List UInt8) (List UInt8)) :=
  [.other (.addUpstream (readFrame 1 ++ readFrame 2)) trivial, .other (.addDownstream []) trivial,
    .other (.receiveUpstream 0) trivial, .other (.upstreamRound 0 0) trivial,
    .other (.upstreamRound 0 0) trivial]

/-- The gateway after both were taken. -/
def twoWaiting : GatewayServices ⟨1, 1, 1, 1⟩ (List UInt8) (List UInt8) :=
  twoQueued.foldl (fun s action => GatewayM.sweep (arrivingSetup .stdTcp .stdTcp) action s)
    (.new .passthrough)

/-- Between two sweeps a queue that is not empty has a channel that waits; once its deadline has
passed, a poll serves the queue. Serving the queue looks at every request that was in it. -/
theorem attended_of_liveSweeps (setup : GatewaySetup υ δ) {router : Router}
    (h : GatewayM.LiveSweeps setup (.new router) s) :
    (s.pending.toList ≠ [] → ∃ i deadlineMs, s.AwaitsUntil i deadlineMs ∧
      ∀ nowMs, deadlineMs ≤ nowMs →
        ServesQueue setup nowMs (List.range s.downstreams.length) s) ∧
    ∀ nowMs, ((GatewayM.tryServicePending setup nowMs).run s).1 ≠ .panic →
      ((GatewayM.tryServicePending setup nowMs).run s).2 = serviced setup nowMs cap.pending s ∧
      s.pending.length ≤ cap.pending ∧
      ∀ k request, s.pending.toList[k]? = some request →
        (serviced setup nowMs k s).pending.toList.head? = some request := by
  have hattended : s.Attended := by
    refine h.invariant (P := Attended) (fun action s hok hs => ?_) (fun hne => absurd rfl hne)
    cases action with
    | drainDownstream i nowMs => exact attended_drainDownstream hs hok
    | other action hwhole => exact attended_whole hs hwhole
  refine ⟨fun hne => ?_, fun nowMs hok => ⟨run_servicePending_of_ok setup nowMs cap.pending s hok,
    s.pending.length_le, fun k request hk => ?_⟩⟩
  · obtain ⟨i, deadlineMs, hawaits⟩ := hattended hne
    refine ⟨i, deadlineMs, hawaits, fun nowMs hlate => hawaits.servesQueue hlate ?_⟩
    obtain ⟨channel, _, _, hi, _⟩ := hawaits
    exact List.mem_range.mpr (List.getElem?_eq_some_iff.mp hi).1
  · obtain ⟨hlt, hget⟩ := List.getElem?_eq_some_iff.mp hk
    obtain ⟨stay, hpending, _, _⟩ := serviced_once setup nowMs s hlt.le
    rw [hpending, List.drop_eq_getElem_cons hlt, hget]
    rfl

omit [Features] in
/-- A second request waits in the queue behind the first. -/
theorem attended_twoWaiting :
    letI := Features.minimal
    twoWaiting.pending.toList.isEmpty = false ∧
      ∃ i deadlineMs, twoWaiting.AwaitsUntil i deadlineMs := by
  let _ := Features.minimal
  have hmeets : Runs.Meets (GatewayM.SweepSurvives (arrivingSetup .stdTcp .stdTcp))
      (GatewayM.sweep (arrivingSetup .stdTcp .stdTcp)) twoQueued
      (.new .passthrough : GatewayServices ⟨1, 1, 1, 1⟩ (List UInt8) (List UInt8)) := by
    refine ⟨trivial, trivial, trivial, ?_, ?_, trivial⟩
    all_goals
      change ((GatewayM.upstreamRound _ 0 0).run _).1 ≠ .panic
      decide +kernel
  have hlive : GatewayM.LiveSweeps (arrivingSetup .stdTcp .stdTcp) (.new .passthrough) twoWaiting :=
    Runs.RunWhen.foldl hmeets
  have hqueued : twoWaiting.pending.toList.isEmpty = false := by decide +kernel
  have hattended := (attended_of_liveSweeps (arrivingSetup .stdTcp .stdTcp) hlive).1
    (List.isEmpty_eq_false_iff.mp hqueued)
  exact ⟨by decide +kernel, hattended.imp fun _ h => h.imp fun _ h => h.1⟩

end GatewayServices

end ModbusRs.Gateway
