import ModbusRs.Core.Truncation
import ModbusRs.Server.Execution
import ModbusRs.Server.Ingest

/-!
# The request queue

Waiting requests are popped by priority and expire by age, both with swap removals. A dispatch pass
takes every request once, a frame that waits has the length that was derived for it, and nothing
but the receive path adds to the queue.
-/

namespace ModbusRs

open Outcome

/-! ### Popping -/

namespace RequestQueue

variable [Features] {depth : Nat}

omit [Features] in
/-- The index of the greatest rank so far, over the ranks from `k` on. -/
lemma foldl_highest (ranks rest : List Nat) (k maxIdx : Nat)
    (hrest : ∀ j, rest[j]? = ranks[k + j]?) :
    let highest := (rest.zipIdx k).foldl
      (fun maxIdx (x : Nat × Nat) => if ranks.getD maxIdx 0 < x.1 then x.2 else maxIdx) maxIdx
    (highest = maxIdx ∨ highest < k + rest.length) ∧
      ranks.getD maxIdx 0 ≤ ranks.getD highest 0 ∧ ∀ rank ∈ rest, rank ≤ ranks.getD highest 0 := by
  induction rest generalizing k maxIdx with
  | nil => exact ⟨.inl rfl, Nat.le_refl _, fun _ h => nomatch h⟩
  | cons rank rest ih =>
    have hrank : ranks.getD k 0 = rank := by
      rw [List.getD_eq_getElem?_getD, ← Nat.add_zero k, ← hrest 0]
      rfl
    have hrest' : ∀ j, rest[j]? = ranks[k + 1 + j]? := by
      intro j
      rw [Nat.add_assoc, Nat.add_comm 1 j, ← hrest (j + 1)]
      rfl
    rw [List.zipIdx_cons, List.foldl_cons, List.length_cons]
    dsimp only
    split
    next hlt =>
      obtain ⟨hidx, hle, hall⟩ := ih (k + 1) k hrest'
      refine ⟨.inr (by omega), by omega, ?_⟩
      exact List.forall_mem_cons.mpr ⟨hrank ▸ hle, hall⟩
    next hnot =>
      obtain ⟨hidx, hle, hall⟩ := ih (k + 1) maxIdx hrest'
      exact ⟨hidx.imp_right fun h => by omega, hle,
        List.forall_mem_cons.mpr ⟨by omega, hall⟩⟩

lemma highestIndex_spec {items : List PendingRequest} (h : items ≠ []) :
    ∃ item, items[highestIndex items]? = some item ∧
      ∀ other ∈ items, other.priority.rank ≤ item.priority.rank := by
  obtain ⟨hidx, -, hall⟩ := foldl_highest (items.map fun item => item.priority.rank)
    (items.map fun item => item.priority.rank) 0 0 (fun j => by rw [Nat.zero_add])
  have hpos := List.length_pos_iff.mpr h
  have hlt : highestIndex items < items.length := by
    rw [List.length_map, Nat.zero_add] at hidx
    rcases hidx with hidx | hidx
    · exact Nat.lt_of_le_of_lt (Nat.le_of_eq hidx) hpos
    · exact hidx
  refine ⟨_, List.getElem?_eq_getElem hlt, fun other hother => ?_⟩
  have hle := hall _ (List.mem_map_of_mem hother)
  rw [List.getD_eq_getElem?_getD, List.getElem?_map] at hle
  change _ ≤ (Option.map _ items[highestIndex items]?).getD 0 at hle
  rwa [List.getElem?_eq_getElem hlt] at hle

/-- The queue gives a request of the highest priority, and keeps the others. -/
lemma popHighestPriority_eq_some {queue rest : HVec PendingRequest depth}
    {pending : PendingRequest} (h : popHighestPriority queue = some (pending, rest)) :
    (pending :: rest.toList).Perm queue.toList ∧
      ∀ other ∈ rest.toList, other.priority.rank ≤ pending.priority.rank := by
  have hperm := HVec.swapRemove_perm h
  have hget := HVec.getElem?_of_swapRemove h
  have hne : queue.toList ≠ [] := by
    intro hnil
    rw [hnil] at hget
    cases hget
  obtain ⟨item, hitem, hall⟩ := highestIndex_spec hne
  cases hitem.symm.trans hget
  exact ⟨hperm, fun other hother =>
    hall other (hperm.subset (List.mem_cons_of_mem _ hother))⟩

lemma popHighestPriority_eq_none {queue : HVec PendingRequest depth}
    (h : popHighestPriority queue = none) : queue.toList = [] := by
  by_contra hne
  obtain ⟨item, hitem, -⟩ := highestIndex_spec hne
  obtain ⟨hlt, -⟩ := List.getElem?_eq_some_iff.mp hitem
  obtain ⟨rest, hrest⟩ := HVec.swapRemove_isSome hlt
  rw [popHighestPriority, hrest] at h
  cases h

/-! ### Expiry -/

/-- A request has waited for longer than the limit. -/
def isOlder (nowUs : UInt64) (limit : Nat) (pending : PendingRequest) : Bool :=
  decide (nowUs.toNat - pending.receivedAtUs.toNat > limit)

/-- `expire_stale`: the number of requests removed, and the queue. -/
def expireStale (nowUs : UInt64) (deadlineMs : UInt32) (queue : HVec PendingRequest depth) :
    Nat × HVec PendingRequest depth :=
  if deadlineMs = 0 then (0, queue)
  else
    let kept := (HVec.swapRemoveWhere (isOlder nowUs (deadlineMs.toNat * 1000)) queue.length 0
      queue).2
    (queue.length - kept.length, kept)

/-- The loop removes the requests that are too old, keeps the others, and is that of
`expire_stale`. -/
lemma takeExpiredFrom_spec (nowUs : UInt64) (limit : Nat) (queue : HVec PendingRequest depth)
    (i : Nat) (expired : List PendingRequest)
    (hkept : ∀ item ∈ queue.toList.take i, isOlder nowUs limit item = false) :
    ∃ removed, (takeExpiredFrom nowUs limit queue i expired).2 = expired ++ removed ∧
      ((takeExpiredFrom nowUs limit queue i expired).1.toList ++ removed).Perm queue.toList ∧
      (∀ item ∈ removed, isOlder nowUs limit item = true) ∧
      (∀ item ∈ (takeExpiredFrom nowUs limit queue i expired).1.toList,
        isOlder nowUs limit item = false) ∧
      ∀ rounds, queue.toList.length ≤ i + rounds →
        HVec.swapRemoveWhere (isOlder nowUs limit) rounds i queue =
          (removed.length, (takeExpiredFrom nowUs limit queue i expired).1) := by
  fun_induction takeExpiredFrom nowUs limit queue i expired with
  | case1 queue i expired hi =>
    have hlen := List.getElem?_eq_none_iff.mp hi
    rw [List.take_of_length_le hlen] at hkept
    refine ⟨[], (List.append_nil _).symm, by rw [List.append_nil], fun _ h => (nomatch h), hkept,
      fun rounds _ => ?_⟩
    cases rounds with
    | zero => rfl
    | succ rounds =>
      rw [HVec.swapRemoveWhere, hi]
      rfl
  | case2 queue i expired item hi hlt hstale removed rest hswap _ ih =>
    have hremoved : removed = item :=
      Option.some.inj ((HVec.getElem?_of_swapRemove hswap).symm.trans hi)
    have holder : isOlder nowUs limit item = true := decide_eq_true hstale
    rw [← HVec.take_swapRemove hswap] at hkept
    obtain ⟨more, hmore, hperm, hall, hrest, hloop⟩ := ih hkept
    refine ⟨removed :: more, by rw [hmore, List.append_assoc]; rfl, ?_, ?_, hrest, ?_⟩
    · exact List.perm_middle.trans ((hperm.cons removed).trans (HVec.swapRemove_perm hswap))
    · exact List.forall_mem_cons.mpr ⟨hremoved ▸ holder, hall⟩
    · intro rounds hle
      have hlen := HVec.swapRemove_length hswap
      cases rounds with
      | zero => omega
      | succ rounds =>
        rw [HVec.swapRemoveWhere, hi, hswap]
        dsimp only
        rw [if_pos holder, hloop rounds (by omega)]
        rfl
  | case3 queue i expired item hi hlt hstale hnone =>
    obtain ⟨rest, hrest⟩ := HVec.swapRemove_isSome hlt
    rw [hrest] at hnone
    cases hnone
  | case4 queue i expired item hi hlt hfresh ih =>
    have hyoung : isOlder nowUs limit item = false := decide_eq_false hfresh
    have hget : queue.toList[i] = item := (List.getElem?_eq_some_iff.mp hi).2
    have hkept' : ∀ item ∈ queue.toList.take (i + 1), isOlder nowUs limit item = false := by
      intro other hother
      rw [← List.take_append_getElem hlt, List.mem_append, List.mem_singleton] at hother
      rcases hother with hother | rfl
      · exact hkept other hother
      · rwa [hget]
    obtain ⟨more, hmore, hperm, hall, hrest, hloop⟩ := ih hkept'
    refine ⟨more, hmore, hperm, hall, hrest, fun rounds hle => ?_⟩
    cases rounds with
    | zero => omega
    | succ rounds =>
      obtain ⟨rest, hswap⟩ := HVec.swapRemove_isSome hlt
      rw [HVec.swapRemoveWhere, hi, hswap]
      dsimp only
      rw [if_neg (by rw [hyoung]; decide), hloop rounds (by omega)]

/-- What one deadline separates. -/
lemma perm_filter_of_append {kept removed items : List PendingRequest} {p : PendingRequest → Bool}
    (hperm : (kept ++ removed).Perm items) (hkept : ∀ item ∈ kept, p item = false)
    (hremoved : ∀ item ∈ removed, p item = true) :
    kept.Perm (items.filter fun item => !p item) ∧ removed.Perm (items.filter p) := by
  have hyoung := hperm.filter fun item => !p item
  have hold := hperm.filter p
  rw [List.filter_append, List.filter_eq_self.mpr fun item h => by rw [hkept item h]; rfl,
    List.filter_eq_nil_iff.mpr fun item h => by rw [hremoved item h]; decide,
    List.append_nil] at hyoung
  rw [List.filter_append, List.filter_eq_nil_iff.mpr fun item h => by rw [hkept item h]; decide,
    List.filter_eq_self.mpr hremoved, List.nil_append] at hold
  exact ⟨hyoung, hold⟩

/-- A waiting request is past a deadline; a deadline of zero is none. -/
def isExpired (nowUs : UInt64) (deadlineMs : UInt32) (pending : PendingRequest) : Bool :=
  deadlineMs != 0 && isOlder nowUs (deadlineMs.toNat * 1000) pending

/-- Both expiry functions remove exactly what is past the deadline. -/
lemma expiry_spec (nowUs : UInt64) (deadlineMs : UInt32) (queue : HVec PendingRequest depth) :
    (takeExpired nowUs deadlineMs queue).1.toList.Perm
        (queue.toList.filter fun pending => !isExpired nowUs deadlineMs pending) ∧
      (takeExpired nowUs deadlineMs queue).2.Perm
        (queue.toList.filter (isExpired nowUs deadlineMs)) ∧
      expireStale nowUs deadlineMs queue = ((takeExpired nowUs deadlineMs queue).2.length,
        (takeExpired nowUs deadlineMs queue).1) := by
  by_cases hzero : deadlineMs = 0
  · have hnever : isExpired nowUs deadlineMs = fun _ : PendingRequest => false := by
      funext pending
      rw [isExpired, hzero, bne_self_eq_false, Bool.false_and]
    rw [takeExpired, if_pos hzero, expireStale, if_pos hzero, hnever]
    exact ⟨.of_eq (List.filter_eq_self.mpr fun _ _ => rfl).symm,
      .of_eq (List.filter_eq_nil_iff.mpr fun _ _ => Bool.false_ne_true).symm, rfl⟩
  · have holder : isExpired nowUs deadlineMs =
        (isOlder nowUs (deadlineMs.toNat * 1000) : PendingRequest → Bool) := by
      funext pending
      rw [isExpired, bne_iff_ne.mpr hzero, Bool.true_and]
    obtain ⟨removed, hremoved, hperm, hall, hkept, hloop⟩ := takeExpiredFrom_spec nowUs
      (deadlineMs.toNat * 1000) queue 0 [] (fun _ h => (nomatch h))
    obtain ⟨hyoung, hold⟩ := perm_filter_of_append hperm hkept hall
    have hcount : queue.length -
        (takeExpiredFrom nowUs (deadlineMs.toNat * 1000) queue 0 []).1.length = removed.length := by
      have hlen := hperm.length_eq
      rw [List.length_append] at hlen
      exact Nat.sub_eq_of_eq_add' hlen.symm
    rw [takeExpired, if_neg hzero, expireStale, if_neg hzero, holder, hremoved,
      hloop queue.length (Nat.le_add_left _ _)]
    exact ⟨hyoung, hold, Prod.ext hcount rfl⟩

end RequestQueue

/-! ### A dispatch pass -/

namespace ServerServices

variable [Features] {depth : Nat} {σ τ : Type} {setup : ServerSetup σ τ}
  {s s' : ServerServices depth σ τ}

/-- What has come in is left alone: the receive buffer and the requests that wait. -/
structure SameInbound (s s' : ServerServices depth σ τ) : Prop where
  rxedFrame : s'.rxedFrame = s.rxedFrame
  requestQueue : s'.requestQueue = s.requestQueue

lemma SameInbound.trans {s'' : ServerServices depth σ τ} (h : SameInbound s s')
    (h' : SameInbound s' s'') : SameInbound s s'' :=
  ⟨h'.rxedFrame.trans h.rxedFrame, h'.requestQueue.trans h.requestQueue⟩

lemma SameQueues.inbound (h : SameQueues s s') : SameInbound s s' := ⟨h.rxedFrame, h.requestQueue⟩

lemma sameInbound_count (step : ServerStatistics → ServerStatistics) :
    SameInbound s (s.count step) := (sameQueues_count step).inbound

lemma sameInbound_trySendOrQueue (frame : Adu) (txnId : UInt16) (unit : UnitIdOrSlaveAddr) :
    SameInbound s (s.trySendOrQueue setup frame txnId unit) := by
  have hdelay (s : ServerServices depth σ τ) :
      SameInbound s (s.delayForTurnaround frame txnId unit) := by
    unfold delayForTurnaround
    split <;> exact ⟨rfl, rfl⟩
  have hqueue (s : ServerServices depth σ τ) :
      SameInbound s (s.queueResponseForRetry setup frame txnId unit) := by
    unfold queueResponseForRetry
    split <;> exact ⟨rfl, rfl⟩
  have hretry (s : ServerServices depth σ τ) :
      SameInbound s (s.handleSendFailure setup frame txnId unit) := by
    unfold handleSendFailure
    split
    · exact (hqueue s).trans ⟨rfl, rfl⟩
    · exact ⟨rfl, rfl⟩
  have hsend (s : ServerServices depth σ τ) :
      SameInbound s (s.sendOrRetry setup frame txnId unit) := by
    have hlink (link : Link τ) : SameInbound s { s with link := link } := ⟨rfl, rfl⟩
    unfold sendOrRetry
    split
    · exact (hlink _).trans (sameInbound_count _)
    · exact (hlink _).trans (hretry _)
  have hhanded : SameInbound s { s.tick with handed := s.handed ++ [⟨frame, txnId, unit⟩] } :=
    ⟨rfl, rfl⟩
  unfold trySendOrQueue
  dsimp only
  split
  · exact hhanded.trans (hdelay _)
  · exact hhanded.trans (hsend _)

/-- Executing a request leaves those that wait alone. -/
lemma Executed.inbound (h : Executed setup s s') : SameInbound s s' := by
  cases h with
  | silent h => exact h.inbound
  | responds h frame txnId unit =>
    exact h.inbound.trans (sameInbound_trySendOrQueue frame txnId unit)

end ServerServices

namespace ServerM

open ServerServices

variable [Features] {depth : Nat} {σ τ : Type} {setup : ServerSetup σ τ}

lemma decodePending_ne_err {pending : PendingRequest} {e : MbusError} :
    decodePending setup pending ≠ .err e := by
  unfold decodePending
  split
  · rintro ⟨⟩
  · rename_i n _
    by_cases hn : n ≤ pending.frame.toList.length
    · rw [slice_of_le (Nat.zero_le _) hn, ok_bind]
      split <;> rintro ⟨⟩
    · rw [slice_eq_panic.mpr (.inr (by omega))]
      rintro ⟨⟩

/-- Dispatching a waiting request executes it. -/
lemma executes_dispatchPendingRequest (pending : PendingRequest) :
    Executes setup (dispatchPendingRequest setup pending : ServerM depth σ τ Unit) := by
  intro s
  rw [dispatchPendingRequest, EffM.run_lift_bind]
  cases hp : decodePending setup pending with
  | err e => exact absurd hp decodePending_ne_err
  | panic => exact ⟨nofun, .silent (.refl s)⟩
  | ok found =>
    cases found with
    | none => exact ⟨nofun, .silent (.refl s)⟩
    | some message => exact executes_dispatchRequest message s

variable (setup) in
/-- The requests are dispatched one after the other, each off the queue with the later ones still
on it, up to the first whose handler panics. -/
inductive DispatchPass : List PendingRequest → ServerServices depth σ τ →
    Outcome MbusError Unit × ServerServices depth σ τ → Prop
  | done {s : ServerServices depth σ τ} (h : s.requestQueue.toList = []) :
    DispatchPass [] s (.ok (), s)
  | next {s s' : ServerServices depth σ τ} {pending : PendingRequest} {order : List PendingRequest}
    {rest : HVec PendingRequest depth} {r : Outcome MbusError Unit × ServerServices depth σ τ}
    (hrest : rest.toList.Perm order)
    (hrun : (dispatchPendingRequest setup pending).run { s with requestQueue := rest } =
      (.ok (), s'))
    (h : DispatchPass order s' r) : DispatchPass (pending :: order) s r
  | crash {s s' : ServerServices depth σ τ} {pending : PendingRequest}
    {order : List PendingRequest} {rest : HVec PendingRequest depth}
    (hrest : rest.toList.Perm order)
    (hrun : (dispatchPendingRequest setup pending).run { s with requestQueue := rest } =
      (.panic, s')) : DispatchPass (pending :: order) s (.panic, s')

/-- A pass over all the requests that wait. -/
lemma dispatchPass_dispatchQueued (count : Nat) (s : ServerServices depth σ τ)
    (hcount : s.requestQueue.toList.length ≤ count) :
    ∃ order, order.Perm s.requestQueue.toList ∧
      order.Pairwise (fun a b => b.priority.rank ≤ a.priority.rank) ∧
      DispatchPass setup order s ((dispatchQueued setup count).run s) := by
  induction count generalizing s with
  | zero =>
    have hnil := List.length_eq_zero_iff.mp (Nat.le_zero.mp hcount)
    rw [hnil]
    exact ⟨[], .refl _, .nil, .done hnil⟩
  | succ count ih =>
    rw [dispatchQueued, EffM.run_gets_bind]
    cases hpop : RequestQueue.popHighestPriority s.requestQueue with
    | none =>
      have hnil := RequestQueue.popHighestPriority_eq_none hpop
      rw [hnil]
      exact ⟨[], .refl _, .nil, .done hnil⟩
    | some popped =>
      obtain ⟨pending, rest⟩ := popped
      obtain ⟨hperm, hhighest⟩ := RequestQueue.popHighestPriority_eq_some hpop
      have hlen := hperm.length_eq
      rw [List.length_cons] at hlen
      dsimp only
      rw [EffM.run_modify_bind, EffM.run_bind]
      have hexecutes : Executes setup
          (dispatchPendingRequest setup pending : ServerM depth σ τ Unit) :=
        executes_dispatchPendingRequest pending
      have hexec := hexecutes { s with requestQueue := rest }
      rcases hrun : (dispatchPendingRequest setup pending).run { s with requestQueue := rest } with
        ⟨o, s'⟩
      rw [hrun] at hexec
      have hqueue : s'.requestQueue = rest := hexec.2.inbound.requestQueue
      obtain ⟨order, horder, hsorted, hpass⟩ := ih s' (by rw [hqueue]; omega)
      rw [hqueue] at horder
      refine ⟨pending :: order, (horder.cons pending).trans hperm, ?_, ?_⟩
      · refine List.pairwise_cons.mpr ⟨fun other hother => ?_, hsorted⟩
        exact hhighest other (horder.subset hother)
      · cases o with
        | ok _ => exact .next horder.symm hrun hpass
        | err e => exact absurd rfl (hexec.1 e)
        | panic => exact .crash horder.symm hrun

/-- A pass that no handler ends leaves the queue empty. -/
lemma DispatchPass.requestQueue_eq {order : List PendingRequest} {s : ServerServices depth σ τ}
    {r : Outcome MbusError Unit × ServerServices depth σ τ} (h : DispatchPass setup order s r) :
    r.1 = .panic ∨ r.1 = .ok () ∧ r.2.requestQueue.toList = [] := by
  induction h with
  | done h => exact .inr ⟨rfl, h⟩
  | next _ _ _ ih => exact ih
  | crash _ _ => exact .inl rfl

/-- **Priority dispatch.** One pass dispatches every waiting request once, by priority, and leaves
none unless a handler panics; and the two expiry functions remove exactly what is past the
deadline. -/
theorem priorityDispatch_losesNothing (setup : ServerSetup σ τ) :
    (∀ s : ServerServices depth σ τ, ∃ order, order.Perm s.requestQueue.toList ∧
      order.Pairwise (fun a b => b.priority.rank ≤ a.priority.rank) ∧
      DispatchPass setup order s ((dispatchQueued setup s.requestQueue.length).run s) ∧
      (((dispatchQueued setup s.requestQueue.length).run s).1 = .panic ∨
        ((dispatchQueued setup s.requestQueue.length).run s).1 = .ok () ∧
          ((dispatchQueued setup s.requestQueue.length).run s).2.requestQueue.toList = [])) ∧
    ∀ (nowUs : UInt64) (deadlineMs : UInt32) (queue : HVec PendingRequest depth),
      (RequestQueue.takeExpired nowUs deadlineMs queue).1.toList.Perm
          (queue.toList.filter fun pending => !RequestQueue.isExpired nowUs deadlineMs pending) ∧
        (RequestQueue.takeExpired nowUs deadlineMs queue).2.Perm
          (queue.toList.filter (RequestQueue.isExpired nowUs deadlineMs)) ∧
        RequestQueue.expireStale nowUs deadlineMs queue =
          ((RequestQueue.takeExpired nowUs deadlineMs queue).2.length,
            (RequestQueue.takeExpired nowUs deadlineMs queue).1) := by
  refine ⟨fun s => ?_, RequestQueue.expiry_spec⟩
  obtain ⟨order, hperm, hsorted, hpass⟩ :=
    dispatchPass_dispatchQueued s.requestQueue.length s (Nat.le_refl _)
  exact ⟨order, hperm, hsorted, hpass, hpass.requestQueue_eq⟩

/-! ### Frames that wait -/

variable (setup) in
/-- The frame is as long as the length derived from it. -/
def IsWhole (pending : PendingRequest) : Prop :=
  deriveLengthFromBytes pending.frame.toList setup.transport.transportType =
    some pending.frame.toList.length

variable (setup) in
/-- Only whole frames come to wait. -/
def AddsWhole (s s' : ServerServices depth σ τ) : Prop :=
  ∀ pending ∈ s'.requestQueue.toList, pending ∈ s.requestQueue.toList ∨ IsWhole setup pending

lemma addsWhole_of_eq {s s' : ServerServices depth σ τ} (h : s'.requestQueue = s.requestQueue) :
    AddsWhole setup s s' := fun _ hp => .inl (h ▸ hp)

lemma AddsWhole.trans {s s' s'' : ServerServices depth σ τ} (h : AddsWhole setup s s')
    (h' : AddsWhole setup s' s'') : AddsWhole setup s s'' := by
  intro pending hp
  rcases h' pending hp with hp | hwhole
  · exact h pending hp
  · exact .inr hwhole

variable (setup) in
/-- The receive buffer stays as it is, and only whole frames come to wait. -/
def TakesIn (s s' : ServerServices depth σ τ) : Prop :=
  s'.rxedFrame = s.rxedFrame ∧ AddsWhole setup s s'

lemma takesIn_of_inbound {s s' : ServerServices depth σ τ} (h : SameInbound s s') :
    TakesIn setup s s' := ⟨h.rxedFrame, addsWhole_of_eq h.requestQueue⟩

lemma TakesIn.trans {s s' s'' : ServerServices depth σ τ} (h : TakesIn setup s s')
    (h' : TakesIn setup s' s'') : TakesIn setup s s'' := ⟨h'.1.trans h.1, h.2.trans h'.2⟩

lemma Executes.takesIn {m : ServerM depth σ τ Unit} (h : Executes setup m)
    (s : ServerServices depth σ τ) : TakesIn setup s (m.run s).2 :=
  takesIn_of_inbound (h s).2.inbound

lemma requestQueue_drainResponses (count : Nat) (s : ServerServices depth σ τ) :
    (s.drainResponses setup count).requestQueue = s.requestQueue := by
  have hrequeue (s : ServerServices depth σ τ) (pending : PendingResponse) :
      (s.requeueResponse pending).requestQueue = s.requestQueue := by
    unfold requeueResponse
    split <;> rfl
  induction count generalizing s with
  | zero => rfl
  | succ count ih =>
    rw [drainResponses]
    split
    · rfl
    · dsimp only
      split
      · rw [ih]
      · split
        · rw [hrequeue]
          rfl
        · split
          · rw [ih]
            exact (sameInbound_count _).requestQueue
          · rw [onQueuedResponseRetryFailure, hrequeue]
            rfl

lemma takesIn_acceptInbound {message : ModbusMessage} {n : Nat} (s : ServerServices depth σ τ)
    (hderive : deriveLengthFromBytes s.rxedFrame.toList setup.transport.transportType = some n)
    (hn : n ≤ s.rxedFrame.toList.length)
    (hdecodes : decompileAduFrame (s.rxedFrame.toList.take n) setup.transport.transportType =
      .ok message) : TakesIn setup s ((acceptInbound setup message n).run s).2 := by
  unfold acceptInbound
  split
  · exact (executes_dispatchBroadcastWriteNoResponse message).takesIn s
  · split
    · exact takesIn_of_inbound ⟨rfl, rfl⟩
    · rw [EffM.run_modify_bind]
      have hroute := run_enqueueOrDispatchInbound setup message (s := s.recordCommEvent 0x04) hn
      cases hr : inboundRoute setup (s.recordCommEvent 0x04) with
      | reject =>
        rw [hr] at hroute
        rw [hroute]
        have hreject : SameInbound s (untilReject (s.recordCommEvent 0x04)) := ⟨rfl, rfl⟩
        exact takesIn_of_inbound
          (hreject.trans (executed_sendExceptionResponse _ _ _ _).inbound)
      | dispatch =>
        rw [hr] at hroute
        rw [hroute]
        refine (takesIn_of_inbound ?_).trans ((executes_dispatchRequest message).takesIn _)
        unfold untilDispatch
        split <;> exact ⟨rfl, rfl⟩
      | enqueue =>
        rw [hr] at hroute
        obtain ⟨queue, hqueue, hrun⟩ := hroute
        rw [hrun]
        refine ⟨rfl, fun pending hp => ?_⟩
        have hqueue' : queue.toList = s.requestQueue.toList ++
            [pendingOf setup message (s.rxedFrame.toList.take n) (s.recordCommEvent 0x04)] :=
          HVec.extendFromSlice_eq_some.mp hqueue
        have hp : pending ∈ queue.toList := hp
        rw [hqueue', List.mem_append, List.mem_singleton] at hp
        refine hp.imp_right fun hlast => ?_
        have hframe : pending.frame.toList = s.rxedFrame.toList.take n := by
          rw [hlast]
          refine HVec.ofSlice_toList (Nat.le_trans ?_ s.rxedFrame.length_le)
          exact List.length_take_le' n _
        rw [IsWhole, hframe, List.length_take, Nat.min_eq_left hn]
        exact deriveLength_take hderive hn hdecodes

lemma deriveLength_of_expected {rxedFrame : List UInt8} {n : Nat}
    (h : expectedFrameLength setup rxedFrame = .ok n) :
    deriveLengthFromBytes rxedFrame setup.transport.transportType = some n := by
  unfold expectedFrameLength at h
  cases hderive : deriveLengthFromBytes rxedFrame setup.transport.transportType with
  | none =>
    rw [hderive] at h
    cases h
  | some len =>
    rw [hderive] at h
    dsimp only at h
    split at h
    · cases h
    · split at h
      · cases h
      · cases h
        rfl

lemma takesIn_ingestFrame (s : ServerServices depth σ τ) :
    TakesIn setup s ((ingestFrame setup).run s).2 := by
  rw [run_ingestFrame]
  cases hn : expectedFrameLength setup s.rxedFrame.toList with
  | error e => exact takesIn_of_inbound ⟨rfl, rfl⟩
  | ok n =>
    have hle := expectedFrameLength_le hn
    dsimp only
    cases hm : decompileAduFrame (s.rxedFrame.toList.take n) setup.transport.transportType with
    | panic => exact takesIn_of_inbound ⟨rfl, rfl⟩
    | err e =>
      dsimp only
      rw [EffM.run_bind_pure_snd]
      by_cases hreplies : repliesIllegalFunction setup n e = true
      · obtain ⟨fcByte, -, hrun⟩ := run_rejectInbound_of_replies hreplies hle
        rw [hrun]
        exact takesIn_of_inbound ⟨rfl, rfl⟩
      · rw [run_rejectInbound_of_not (Bool.eq_false_iff.mpr hreplies)]
        exact takesIn_of_inbound ⟨rfl, rfl⟩
    | ok message =>
      have hbuffer : s.incrementMessageCount.rxedFrame = s.rxedFrame := by
        unfold incrementMessageCount count
        split <;> rfl
      have hcount : TakesIn setup s s.incrementMessageCount :=
        takesIn_of_inbound (sameInbound_count _)
      dsimp only
      rw [EffM.run_bind_pure_snd]
      refine hcount.trans (takesIn_acceptInbound _ ?_ ?_ ?_)
      · rw [hbuffer]
        exact deriveLength_of_expected hn
      · rwa [hbuffer]
      · rwa [hbuffer]

lemma addsWhole_expireStale (s : ServerServices depth σ τ) :
    AddsWhole setup s ((expireStaleQueuedRequests setup).run s).2 := by
  have hstrict (pending : PendingRequest) (s : ServerServices depth σ τ) :
      ((handleExpiredRequestStrict setup pending).run s).2.requestQueue = s.requestQueue := by
    rw [handleExpiredRequestStrict, EffM.run_lift_bind]
    cases decodePending setup pending with
    | err e => rfl
    | panic => rfl
    | ok found =>
      cases found with
      | none => rfl
      | some message => exact (executed_sendExceptionResponse _ _ _ _).inbound.requestQueue
  have hall (expired : List PendingRequest) (s : ServerServices depth σ τ) :
      ((expireAll setup expired).run s).2.requestQueue = s.requestQueue := by
    induction expired generalizing s with
    | nil => rfl
    | cons pending rest ih =>
      have hfirst := hstrict pending s
      rw [expireAll, EffM.run_bind]
      rcases hr : (handleExpiredRequestStrict setup pending).run s with ⟨o, s'⟩
      rw [hr] at hfirst
      cases o with
      | ok _ => exact (ih s').trans hfirst
      | err e => exact hfirst
      | panic => exact hfirst
  unfold expireStaleQueuedRequests
  dsimp only
  split
  · exact addsWhole_of_eq rfl
  · rw [EffM.run_gets_bind, EffM.run_modify_bind, EffM.run_gets_bind]
    have hkept : AddsWhole setup s { s.tick with requestQueue :=
        (RequestQueue.takeExpired (s.nowUs setup) setup.resilience.timeouts.requestDeadlineMs
          s.requestQueue).1 } := fun pending hp =>
      .inl (List.mem_of_mem_filter ((RequestQueue.expiry_spec _ _ _).1.subset hp))
    rw [EffM.run_modify_bind]
    split
    · exact hkept.trans (addsWhole_of_eq (hall _ _))
    · exact hkept

lemma addsWhole_perform (action : ServerAction σ τ) (s : ServerServices depth σ τ) :
    AddsWhole setup s (perform setup action s) := by
  cases action with
  | environment app transport => exact addsWhole_of_eq rfl
  | connect => exact addsWhole_of_eq rfl
  | disconnect => exact addsWhole_of_eq rfl
  | drain =>
    refine addsWhole_of_eq ?_
    change (if depth > 0 then s.drainResponseQueue setup else s).requestQueue = _
    split
    · exact requestQueue_drainResponses _ s
    · rfl
  | receive =>
    refine addsWhole_of_eq ?_
    change ((receive setup).run s).2.requestQueue = _
    cases h : (s.link.recv setup.transport).1 with
    | error recvError =>
      rw [run_receive_error h]
      unfold handleRecvError
      split
      · rfl
      · rfl
      · rfl
      · rfl
      · rfl
      · split <;> rfl
    | ok frame =>
      rw [run_receive_ok h]
      unfold appendToRxedFrame
      split <;> rfl
  | ingest =>
    have hingest : AddsWhole setup s ((ingestFrame setup).run s).2 := (takesIn_ingestFrame s).2
    change AddsWhole setup s ((ingestRound setup).run s).2
    rw [ingestRound, EffM.run_handle]
    rcases hr : (ingestFrame setup).run s with ⟨o, s'⟩
    rw [hr] at hingest
    cases o with
    | ok consumed => exact hingest.trans (addsWhole_of_eq rfl)
    | panic => exact hingest
    | err error =>
      have hparse : AddsWhole setup s' s'.handleParseError :=
        addsWhole_of_eq (sameInbound_count (s := s') _).requestQueue
      cases error with
      | bufferTooSmall => exact hingest
      | _ => exact hingest.trans hparse
  | expire => exact addsWhole_expireStale s
  | dispatchNext =>
    change AddsWhole setup s ((dispatchNext setup).run s).2
    rw [dispatchNext, EffM.run_gets_bind]
    cases hpop : RequestQueue.popHighestPriority s.requestQueue with
    | none => exact addsWhole_of_eq rfl
    | some popped =>
      obtain ⟨pending, rest⟩ := popped
      have hrest : AddsWhole setup s { s with requestQueue := rest } := fun other hother =>
        .inl ((RequestQueue.popHighestPriority_eq_some hpop).1.subset
          (List.mem_cons_of_mem _ hother))
      dsimp only
      rw [EffM.run_modify_bind]
      exact hrest.trans ((executes_dispatchPendingRequest pending).takesIn _).2

/-- **Boundaries of frames that were cut out.** The length of a frame that decodes, derived from the
frame alone, is the length at which it was cut out; so every frame that waits is sliced whole when
its turn comes. -/
theorem frameBoundary_stable (setup : ServerSetup σ τ) :
    (∀ tt buf n message, deriveLengthFromBytes buf tt = some n → n ≤ buf.length →
      decompileAduFrame (buf.take n) tt = .ok message →
      deriveLengthFromBytes (buf.take n) tt = some n) ∧
    ∀ app transport (s : ServerServices depth σ τ),
      Runs.Run (perform setup) (.withQueueDepth depth app transport) s →
      ∀ pending ∈ s.requestQueue.toList, ∃ expectedLength,
        deriveLengthFromBytes pending.frame.toList setup.transport.transportType =
          some expectedLength ∧
        slice pending.frame.toList 0 expectedLength =
          (.ok pending.frame.toList : Fallible (List UInt8)) := by
  refine ⟨fun tt buf n message => deriveLength_take, fun app transport s hrun pending hp => ?_⟩
  have hwhole : ∀ pending ∈ s.requestQueue.toList, IsWhole setup pending := by
    refine hrun.invariant (P := fun s : ServerServices depth σ τ =>
      ∀ pending ∈ s.requestQueue.toList, IsWhole setup pending) ?_ (fun _ h => nomatch h)
    intro action s hs pending hp
    exact (addsWhole_perform action s pending hp).elim (hs pending) id
  refine ⟨_, hwhole pending hp, ?_⟩
  rw [slice_of_le (Nat.zero_le _) (Nat.le_refl _), List.take_length]
  rfl

omit [Features] in
/-- A request of four bytes with a byte behind it. -/
theorem frameBoundary_stable_fourBytes :
    deriveLengthFromBytes ([0x01, 0x07, 0x41, 0xE2, 0xFF].take 4) (.stdSerial .rtu) = some 4 := by
  let _ := Features.minimal
  exact (@frameBoundary_stable _ 8 Unit Unit
    (ServerSetup.plain refusingApp (.stdSerial .rtu) ⟨1, by decide⟩)).1 _ _ 4
    ⟨.slaveAddress ⟨1⟩, ⟨.readExceptionStatus, none, .empty⟩⟩ (by decide +kernel) (by decide)
    (by decide +kernel)

end ServerM

end ModbusRs
