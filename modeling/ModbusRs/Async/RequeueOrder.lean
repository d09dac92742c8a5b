import ModbusRs.Async.Retries
import ModbusRs.Library.Lists
import Mathlib.Data.List.Infix

/-!
# The order of requests after a loss of the connection

The requests that were pending go to the front of the backlog by their transaction ids, and the
backlog is served from the front. Ids are given out in turn and begin again after 65535, so that
they order the requests as they were submitted as long as the requests were sent in this order
and no id between theirs was the first one again.
-/

namespace ModbusRs

open Outcome

namespace ClientTask

section

variable {σ τ : Type}

/-- The commands that a loss of the connection makes of the pending requests. -/
def requeued (s : ClientTask σ τ) : List TaskCommand :=
  (s.pending.sorted.filter (·.2.retryAttempts > 0)).map fun e => PendingEntry.again e.2

/-- A loss of the connection puts the pending requests that have retries left before the
backlog, in the order in which they were submitted. -/
structure RequeuesInOrder (s : ClientTask σ τ) : Prop where
  front : s.handleConnectionLoss.queued = s.requeued ++ s.queued
  all : (s.requeued.filterMap (·.channel)).Perm
    ((s.pending.entries.filter (·.2.retryAttempts > 0)).map (·.2.respTx))
  inOrder : (s.requeued.filterMap (·.channel)).Pairwise (· < ·)

/-- Of two pending requests with retries left, the one that was submitted first has the id that
comes first after 0. -/
def IssuedInOrder (s : ClientTask σ τ) : Prop :=
  ∀ a ∈ s.pending.entries, ∀ b ∈ s.pending.entries, a.2.retryAttempts > 0 →
    b.2.retryAttempts > 0 → a.2.respTx < b.2.respTx → a.2.serial % 65535 < b.2.serial % 65535

/-- The requests that are sorted by their ids are sorted by their submission when the two orders
agree, and only then. -/
lemma requeuesInOrder_iff {retries tries : Nat → Nat} {s : ClientTask σ τ}
    (h : Tracked retries tries [] s) : s.RequeuesInOrder ↔ s.IssuedInOrder := by
  have hperm : s.pending.sorted.Perm s.pending.entries := List.mergeSort_perm _ _
  have hchannels : s.requeued.filterMap (·.channel) =
      (s.pending.sorted.filter (·.2.retryAttempts > 0)).map (·.2.respTx) :=
    filterMap_channel_again _
  have hmem : ∀ e, e ∈ s.pending.sorted.filter (·.2.retryAttempts > 0) ↔
      e ∈ s.pending.entries ∧ e.2.retryAttempts > 0 := fun e => by
    rw [List.mem_filter, hperm.mem_iff, decide_eq_true_iff]
  -- the ids of the sorted entries increase
  have hsorted : s.pending.sorted.Pairwise fun a b => a.1 < b.1 := by
    have hle : s.pending.sorted.Pairwise fun a b => decide (a.1 ≤ b.1) = true :=
      List.pairwise_mergeSort
        (fun a b c hab hbc => by
          rw [decide_eq_true_iff] at hab hbc ⊢
          exact UInt16.le_trans hab hbc)
        (fun a b => by
          rw [Bool.or_eq_true, decide_eq_true_iff, decide_eq_true_iff]
          exact UInt16.le_total a.1 b.1) _
    have hne : (s.pending.sorted.map (·.1)).Nodup :=
      (hperm.map (·.1)).nodup_iff.mpr s.pending.nodup
    exact (hle.and (List.pairwise_map.mp hne)).imp fun hab =>
      UInt16.lt_of_le_of_ne (of_decide_eq_true hab.1) hab.2
  have hids := (hsorted.filter (·.2.retryAttempts > 0)).imp fun hab =>
    UInt16.lt_iff_toNat_lt.mp hab
  -- and every request has one entry
  have honce : ((s.pending.sorted.filter (·.2.retryAttempts > 0)).map (·.2.respTx)).Nodup := by
    refine List.nodup_iff_count_le_one.mpr fun n => ?_
    have hone := h.count_le_one n
    have hsub := ((List.filter_sublist (p := fun e : UInt16 × PendingEntry =>
      decide (e.2.retryAttempts > 0)) (l := s.pending.sorted)).map (·.2.respTx)).count_le n
    rw [count_held] at hone
    rw [(hperm.map (·.2.respTx)).count_eq n] at hsub
    omega
  have hiff := List.pairwise_map_lt_iff hids honce
  have hkey : ∀ a ∈ s.pending.entries, ∀ b ∈ s.pending.entries,
      a.1.toNat < b.1.toNat ↔ a.2.serial % 65535 < b.2.serial % 65535 := by
    intro a ha b hb
    rw [(h.keyed a ha).1, (h.keyed b hb).1, idOf_toNat, idOf_toNat, Nat.add_lt_add_iff_right]
  constructor
  · intro horder a ha b hb hapos hbpos hlt
    have hpairwise := horder.inOrder
    rw [hchannels] at hpairwise
    exact (hkey a ha b hb).mp (hiff.mp hpairwise a ((hmem a).mpr ⟨ha, hapos⟩) b
      ((hmem b).mpr ⟨hb, hbpos⟩) hlt)
  · intro horder
    refine ⟨rfl, ?_, ?_⟩
    · rw [hchannels]
      exact (hperm.filter _).map _
    · rw [hchannels]
      refine hiff.mpr fun a ha b hb hlt => ?_
      obtain ⟨ha, hapos⟩ := (hmem a).mp ha
      obtain ⟨hb, hbpos⟩ := (hmem b).mp hb
      exact (hkey a ha b hb).mpr (horder a ha b hb hapos hbpos hlt)

end

/-! ### The backlog is a queue -/

variable [Features] {σ τ : Type} (setup : ClientTaskSetup σ τ)

/-- The command that the action takes from the backlog. -/
def served (action : ClientAction) (s : ClientTask σ τ) : Option TaskCommand :=
  match action, s.phase with
  | .drainBacklog, .backlog =>
    if s.status = .running ∧ s.inFlight < setup.pipeline then s.queued.head? else none
  | _, _ => none

/-- The commands that a run takes from the backlog. -/
def taken : List ClientAction → ClientTask σ τ → List TaskCommand
  | [], _ => []
  | action :: actions, s =>
    (s.served setup action).toList ++ taken actions (s.perform setup action)

/-- The action leaves the backlog to be served: it neither disconnects nor ends the task. -/
def Serves (action : ClientAction) (s : ClientTask σ τ) : Prop :=
  (s.perform setup action).status = .running ∧ ∀ cmd rest,
    s.handled setup action = some (cmd, rest) → cmd ≠ .disconnect ∧ cmd ≠ .shutdown

variable {setup} {s : ClientTask σ τ}

lemma queued_sendRequest (setup : ClientTaskSetup σ τ) (s : ClientTask σ τ)
    (request : ClientRequest) (respTx : Nat) (retryAttempts : UInt8)
    (retryDelayMs : UInt64) :
    match s.sendRequest setup request respTx retryAttempts retryDelayMs with
    | .inl s' => s'.status = .running → s'.queued = s.queued
    | .inr (_, s') => ∃ front, s'.queued = front ++ s.queued := by
  unfold sendRequest
  cases encodeRequest s.nextTxnId request setup.transport.transportType with
  | panic => exact fun hrun => nomatch hrun
  | err e => exact fun _ => rfl
  | ok frame =>
    cases s.transport with
    | none => exact ⟨_, rfl⟩
    | some t =>
      dsimp only
      cases (t.link.send setup.transport frame.toList).1 with
      | ok _ => exact fun _ => rfl
      | error e => exact ⟨_, rfl⟩

/-- A dispatch puts commands before the backlog. -/
lemma queued_dispatchLoop (request : ClientRequest) (respTx : Nat) (retryDelayMs : UInt64)
    (retry : Nat)
    (hrun : (s.dispatchLoop setup request respTx retryDelayMs retry).status = .running) :
    ∃ front, (s.dispatchLoop setup request respTx retryDelayMs retry).queued =
      front ++ s.queued := by
  induction retry generalizing s with
  | zero =>
    rw [dispatchLoop] at hrun ⊢
    cases htransport : s.transport with
    | none => exact ⟨[], rfl⟩
    | some t =>
      have hsend := queued_sendRequest setup s request respTx 0 retryDelayMs
      rw [htransport] at hrun
      dsimp only at hrun ⊢
      cases hs' : s.sendRequest setup request respTx 0 retryDelayMs with
      | inl s' =>
        rw [hs'] at hsend hrun
        exact ⟨[], hsend hrun⟩
      | inr failed =>
        rw [hs'] at hsend
        exact hsend
  | succ retry ih =>
    rw [dispatchLoop] at hrun ⊢
    have hconnected : (if s.transport.isNone then s.doConnect setup else (.ok (), s)).2.queued =
        s.queued := by
      split
      · rw [doConnect]
        cases setup.connectFn s.outside with
        | mk result outside => cases result <;> rfl
      · rfl
    generalize (if s.transport.isNone then s.doConnect setup else (.ok (), s)) = c
      at hconnected hrun ⊢
    obtain ⟨result, s'⟩ := c
    rw [← hconnected]
    cases result with
    | error e =>
      dsimp only at hrun ⊢
      split
      · exact ⟨[], rfl⟩
      · rename_i hne
        rw [if_neg hne] at hrun
        exact ih hrun
    | ok _ =>
      have hsend := queued_sendRequest setup s' request respTx
        (UInt8.ofNat (retry + 1)) retryDelayMs
      dsimp only at hrun ⊢
      cases hs'' : s'.sendRequest setup request respTx (UInt8.ofNat (retry + 1)) retryDelayMs with
      | inl s'' =>
        rw [hs''] at hsend hrun
        exact ⟨[], hsend hrun⟩
      | inr failed =>
        obtain ⟨e, s''⟩ := failed
        rw [hs''] at hsend hrun
        obtain ⟨front, hfront⟩ := hsend
        obtain ⟨front', hfront'⟩ := ih hrun
        exact ⟨front' ++ front, by rw [hfront', hfront, List.append_assoc]⟩

lemma queued_dispatchRequest {cmd : TaskCommand}
    (hrun : (s.dispatchRequest setup cmd).status = .running) :
    ∃ front, (s.dispatchRequest setup cmd).queued = front ++ s.queued := by
  cases cmd with
  | request params respTx retryAttempts retryDelayMs => exact queued_dispatchLoop _ _ _ _ hrun
  | _ => exact ⟨[], rfl⟩

/-- An action that takes nothing from the backlog leaves it between others. -/
lemma queued_of_not_served {action : ClientAction} (h : Serves setup action s)
    (hdispatching : ∀ cmd s', s.dispatching setup action = some (cmd, s') → s'.queued = s.queued) :
    ∃ front back, (s.perform setup action).queued = front ++ s.queued ++ back := by
  obtain ⟨hrun, hconnected⟩ := h
  have hstep := stepped setup action s
  have hself : s.queued = [] ++ s.queued ++ [] := by rw [List.nil_append, List.append_nil]
  generalize s.perform setup action = s' at hrun hstep
  cases hstep with
  | same hsame => exact ⟨[], [], hsame.queued.trans hself⟩
  | accept _ _ _ _ _ hsame => exact ⟨[], [], hsame.queued.trans hself⟩
  | submit _ _ hsame => exact ⟨[], [], hsame.queued.trans hself⟩
  | dispatch cmd s' htaken =>
    obtain ⟨front, hfront⟩ := queued_dispatchRequest hrun
    rw [hdispatching cmd s' htaken] at hfront
    exact ⟨front, [], by rw [hfront, List.append_nil]⟩
  | enqueue params respTx retryAttempts retryDelayMs rest hcmd hsame =>
    exact ⟨[], _, hsame.queued.trans (by rw [List.nil_append])⟩
  | connect rest hcmd hsame => exact ⟨[], [], hsame.queued.trans hself⟩
  | drain cmd rest hhandled hcmd => exact absurd hcmd (not_or.mpr (hconnected cmd rest hhandled))
  | lose hsame hlost =>
    rename_i lost
    have hfront : lost.handleConnectionLoss.queued = lost.requeued ++ s.queued :=
      congrArg (lost.requeued ++ ·) hsame.queued
    exact ⟨lost.requeued, [], by rw [hlost.queued, hfront, List.append_nil]⟩
  | answer hsame => exact ⟨[], [], hsame.queued.trans hself⟩
  | stop _ _ _ _ status hended => exact absurd hrun hended

/-- One action takes at most the first command of the backlog, and puts others before and behind
the rest. -/
lemma queued_perform {action : ClientAction} (h : Serves setup action s) :
    ∃ front back, (s.perform setup action).queued =
      front ++ s.queued.drop (s.served setup action).toList.length ++ back ∧
      (s.served setup action).toList =
        s.queued.take (s.served setup action).toList.length := by
  by_cases hserved : ∃ cmd, s.served setup action = some cmd
  · obtain ⟨cmd, hcmd⟩ := hserved
    rw [hcmd, Option.toList_some, List.length_singleton]
    have hrun := h.1
    unfold served at hcmd
    split at hcmd
    · rename_i hphase
      split at hcmd
      · rename_i hready
        obtain ⟨queued, hqueued⟩ := List.head?_eq_some_iff.mp hcmd
        have hperform : s.perform setup .drainBacklog =
            dispatchRequest { s with queued := queued } setup cmd := by
          simp only [perform, hready.1, hphase, drainBacklog, hready.2, hqueued, ne_eq,
            not_true_eq_false, if_false, if_true]
        rw [hperform] at hrun ⊢
        obtain ⟨front, hfront⟩ := queued_dispatchRequest hrun
        rw [hqueued]
        exact ⟨front, [], by rw [hfront, List.append_nil]; rfl, rfl⟩
      · cases hcmd
    · cases hcmd
  · have hnone : s.served setup action = none :=
      Option.eq_none_iff_forall_ne_some.mpr fun cmd hcmd => hserved ⟨cmd, hcmd⟩
    rw [hnone, Option.toList_none, List.length_nil, List.drop_zero, List.take_zero]
    obtain ⟨front, back, hqueued⟩ := queued_of_not_served h fun cmd s' hd => by
      unfold dispatching at hd
      split at hd
      · rename_i hready
        split at hd
        · rename_i hphase hqueued
          simp only [served, hphase, if_pos hready, hqueued, List.head?_cons] at hnone
          cases hnone
        · cases hd
          rfl
        · split at hd
          · cases hd
            rfl
          · cases hd
        · cases hd
      · cases hd
    exact ⟨front, back, hqueued, rfl⟩

/-- Along a run, commands that stand together in the backlog are taken in their order. -/
lemma taken_inOrder {again : List TaskCommand} (actions : List ClientAction) {s : ClientTask σ τ}
    (front back : List TaskCommand) (hqueued : s.queued = front ++ again ++ back)
    (hserves : Runs.Meets (Serves setup) (fun action s => s.perform setup action) actions s) :
    ∃ k, (again.take k).Sublist (taken setup actions s) ∧
      again.drop k <:+: (actions.foldl (fun s action => s.perform setup action) s).queued := by
  induction actions generalizing s front again back with
  | nil => exact ⟨0, List.nil_sublist _, front, back, hqueued.symm⟩
  | cons action actions ih =>
    obtain ⟨hserve, hserves⟩ := hserves
    obtain ⟨front', back', hperform, htaken⟩ := queued_perform hserve
    rw [taken]
    cases hcmd : s.served setup action with
    | none =>
      rw [hcmd, Option.toList_none, List.length_nil, List.drop_zero, hqueued] at hperform
      refine ih (front' ++ front) (back ++ back') ?_ hserves
      rw [hperform]
      simp only [List.append_assoc]
    | some cmd =>
      rw [hcmd, Option.toList_some, List.length_singleton, hqueued] at hperform htaken
      cases front with
      | cons first front =>
        have hrest : (s.perform setup action).queued =
            (front' ++ front) ++ again ++ (back ++ back') := by
          rw [hperform]
          simp only [List.cons_append, List.drop_succ_cons, List.drop_zero, List.append_assoc]
        obtain ⟨k, htake, hdrop⟩ := ih _ _ hrest hserves
        exact ⟨k, htake.trans (List.sublist_append_right _ _), hdrop⟩
      | nil =>
        cases again with
        | nil => exact ⟨0, List.nil_sublist _, List.nil_infix⟩
        | cons first again =>
          have hrest : (s.perform setup action).queued = front' ++ again ++ (back ++ back') := by
            rw [hperform]
            simp only [List.nil_append, List.cons_append, List.drop_succ_cons, List.drop_zero,
              List.append_assoc]
          obtain ⟨k, htake, hdrop⟩ := ih _ _ hrest hserves
          refine ⟨k + 1, ?_, hdrop⟩
          rw [List.take_succ_cons]
          have hfirst : [cmd] = [first] := htaken
          rw [Option.toList_some, hfirst, List.singleton_append]
          exact htake.cons_cons first

/-- Every reachable task can be watched. -/
lemma tracked_of_reachable {outside : σ}
    (h : Runs.Reachable (· = .new outside) (fun action s => s.perform setup action) s) :
    ∃ retries tries, Tracked retries tries [] s := by
  have hwatched : ∃ w : WatchedTask σ τ, w.task = s ∧ w.Kept := by
    refine h.invariant (P := fun s => ∃ w : WatchedTask σ τ, w.task = s ∧ w.Kept) ?_ ?_
    · rintro s rfl
      exact ⟨_, rfl, WatchedTask.kept_new outside⟩
    · rintro action s ⟨w, rfl, hkept⟩
      exact ⟨w.perform setup action, rfl, hkept.perform action⟩
  obtain ⟨w, rfl, hkept⟩ := hwatched
  exact ⟨_, _, hkept⟩

/-- After a loss of the connection the pending requests stand before the backlog in the order in
which they were submitted if and only if their ids are in this order, and a run that serves the
backlog takes them as they stand there. -/
theorem requeued_inOrder_iff (setup : ClientTaskSetup σ τ) (outside : σ) (s : ClientTask σ τ)
    (h : Runs.Reachable (· = .new outside) (fun action s => s.perform setup action) s) :
    (s.RequeuesInOrder ↔ s.IssuedInOrder) ∧
    ∀ s' : ClientTask σ τ, s'.queued = s.handleConnectionLoss.queued → ∀ actions,
      Runs.Meets (Serves setup) (fun action s => s.perform setup action) actions s' →
      ∃ k, (s.requeued.take k).Sublist (taken setup actions s') ∧
        s.requeued.drop k <:+: (actions.foldl (fun s action => s.perform setup action) s').queued := by
  obtain ⟨retries, tries, htracked⟩ := tracked_of_reachable h
  exact ⟨requeuesInOrder_iff htracked, fun s' hqueued actions =>
    taken_inOrder actions [] s.queued hqueued⟩

end ClientTask

/-! ### Ids on both sides of the wrap -/

open ClientTask

/-- A client after `n` requests that could not be encoded. -/
def worn [Features] (n : Nat) : ClientTask Unit Unit where
  transport := some ⟨0, ⟨(), []⟩⟩
  outside := ()
  cmdRx := []
  handlesDropped := false
  pending := .new
  queued := []
  nextTxnId := idOf n
  inFlight := 0
  pendingCount := 0
  phase := .select
  status := .running
  completions := (List.range n).map fun respTx => ⟨respTx, .error .invalidQuantity, none⟩
  connectResults := [.ok ()]
  accepted := n
  issued := n
  connections := 1

/-- A request for no registers, taken from the channel and refused by the encoder. -/
def refusedRequest : List ClientAction :=
  [.request ⟨.fromU8 1, .readHoldingRegisters 0 0⟩ 0 0, .command, .nextCommand, .drainBacklog]

lemma refusedRequest_worn (n : Nat) :
    letI := Features.minimal
    refusedRequest.foldl (fun s action => s.perform promptSetup action) (worn n) = worn (n + 1) := by
  let _ := Features.minimal
  have hencode : ∀ txnId, encodeRequest txnId ⟨.fromU8 1, .readHoldingRegisters 0 0⟩ .stdTcp =
      .err .invalidQuantity := fun _ => rfl
  have htt : promptSetup.transport.transportType = .stdTcp := rfl
  have hpipeline : promptSetup.pipeline = 4 := rfl
  simp [refusedRequest, List.foldl, worn, perform, sendCommand, command, handleCommand,
    dispatchRequest, dispatchLoop, sendRequest, htt, hencode, hpipeline, nextCommand, drainBacklog,
    advanceTxnId, complete, idOf_succ, List.range_succ]

lemma reachable_worn (n : Nat) :
    letI := Features.minimal
    Runs.Reachable (· = .new ()) (fun action s => s.perform promptSetup action) (worn n) := by
  let _ := Features.minimal
  refine ⟨_, rfl, ?_⟩
  induction n with
  | zero =>
    exact Runs.Run.foldl [ClientAction.connect, .drainBacklog, .command, .nextCommand, .drainBacklog] _
  | succ n ih =>
    rw [← refusedRequest_worn]
    exact ih.trans (Runs.Run.foldl _ _)

/-- Two requests with a retry each, sent over the same connection. -/
def twoRetriable : List ClientAction :=
  [.request ⟨.fromU8 1, .readDiscreteInputs 0 8⟩ 1 0,
    .request ⟨.fromU8 1, .readDiscreteInputs 0 8⟩ 1 0, .command, .nextCommand]

lemma twoRetriable_entries (n : Nat) (hn : idOf n ≠ idOf (n + 1)) :
    letI := Features.minimal
    (twoRetriable.foldl (fun s action => s.perform promptSetup action) (worn n)).pending.entries =
      [(idOf n, ⟨n, ⟨.fromU8 1, .readDiscreteInputs 0 8⟩, 1, 0, 0, n⟩),
        (idOf (n + 1), ⟨n + 1, ⟨.fromU8 1, .readDiscreteInputs 0 8⟩, 1, 0, 0, n + 1⟩)] := by
  let _ := Features.minimal
  choose frame hencode using encodes_readDiscreteInputs
  have htt : promptSetup.transport.transportType = .stdTcp := rfl
  have hpipeline : promptSetup.pipeline = 4 := rfl
  have hsend : ∀ (l : Link Unit) frame, (l.send promptSetup.transport frame).1 = .ok () :=
    fun _ _ => rfl
  have horder : promptSetup.order = .insertion := rfl
  simp [twoRetriable, List.foldl, worn, perform, sendCommand, command, handleCommand,
    dispatchRequest, dispatchLoop, sendRequest, htt, hencode, hpipeline, nextCommand, hsend,
    updatePendingCount, PendingMap.insert, PendingMap.new, PendingMap.len, horder,
    HashOrder.insertion, advanceTxnId, idOf_succ, hn.symm]

/-- The second request is sent with id 1, and queued before the first. -/
theorem wrapped_not_requeuesInOrder :
    ¬∀ [Features] (setup : ClientTaskSetup Unit Unit) (s : ClientTask Unit Unit),
      Runs.Reachable (· = .new ()) (fun action s => s.perform setup action) s →
      s.RequeuesInOrder := by
  intro h
  let _ := Features.minimal
  obtain ⟨_, rfl, hrun⟩ := reachable_worn 65534
  have hreach : Runs.Reachable (· = .new ()) (fun action s => s.perform promptSetup action)
      (twoRetriable.foldl (fun s action => s.perform promptSetup action) (worn 65534)) :=
    ⟨_, rfl, hrun.trans (Runs.Run.foldl twoRetriable _)⟩
  obtain ⟨retries, tries, htracked⟩ := tracked_of_reachable hreach
  have hissued := (requeuesInOrder_iff htracked).mp (h promptSetup _ hreach)
  have hentries := twoRetriable_entries 65534 (by decide)
  have horder := hissued _ (hentries ▸ List.mem_cons_self) _
    (hentries ▸ List.mem_cons_of_mem _ List.mem_cons_self) (by decide) (by decide)
    (Nat.lt_succ_self _)
  revert horder
  decide

/-- The same requests under the ids 1 and 2 are queued in their order. -/
theorem requeued_inOrder_first :
    letI := Features.minimal
    (twoRetriable.foldl (fun s action => s.perform promptSetup action)
      (worn 0)).RequeuesInOrder := by
  let _ := Features.minimal
  obtain ⟨_, rfl, hrun⟩ := reachable_worn 0
  refine (requeued_inOrder_iff promptSetup () _
    ⟨_, rfl, hrun.trans (Runs.Run.foldl twoRetriable _)⟩).1.mpr fun a ha b hb _ _ hlt => ?_
  rw [twoRetriable_entries 0 (by decide)] at ha hb
  rcases List.mem_pair.mp ha with rfl | rfl <;> rcases List.mem_pair.mp hb with rfl | rfl
  · exact absurd hlt (Nat.lt_irrefl _)
  · decide
  · exact absurd hlt (by decide)
  · exact absurd hlt (Nat.lt_irrefl _)

end ModbusRs
