import ModbusRs.Server.ResponseQueue

/-!
# The order of the waiting responses

A flush takes the response at the head of the retry queue. One that is not due, or that the
transport refuses, goes back to the end. As long as no other response waits behind it, the
responses leave the queue in the order in which they came.
-/

namespace ModbusRs

open Outcome

namespace Ledger

/-- The responses tried from the retry queue, in the order of the attempts. -/
def queuedIds (l : Ledger) : List Nat :=
  l.attempts.filterMap fun a => if a.queued then a.id else none

/-- Those of them that the transport took. -/
def sentIds (l : Ledger) : List Nat :=
  (l.attempts.filter Attempt.ok).filterMap fun a => if a.queued then a.id else none

/-- The first occurrences are in order. -/
def FirstInOrder (ids : List Nat) : Prop :=
  ∀ i ∈ ids, ∀ j ∈ ids, i < j → ids.idxOf i < ids.idxOf j

instance (ids : List Nat) : Decidable (FirstInOrder ids) :=
  inferInstanceAs (Decidable (∀ i ∈ ids, ∀ j ∈ ids, i < j → ids.idxOf i < ids.idxOf j))

/-- The responses that waited are first tried, and first sent, in the order in which they were
put into the queue. They were put there when they were handed over, so it is that of their
numbers. -/
def QueueInOrder (l : Ledger) : Prop := FirstInOrder l.queuedIds ∧ FirstInOrder l.sentIds

lemma firstInOrder_of_sorted {ids : List Nat} (h : ids.Pairwise (· ≤ ·)) : FirstInOrder ids := by
  induction h with
  | nil => nofun
  | @cons a rest hle _ ih =>
    intro i hi j hj hij
    rcases List.mem_cons.mp hj with rfl | hj'
    -- what comes first is the least
    · rcases List.mem_cons.mp hi with rfl | hi'
      · exact absurd hij (Nat.lt_irrefl _)
      · exact absurd hij (Nat.not_lt.mpr (hle i hi'))
    · rcases List.mem_cons.mp hi with rfl | hi'
      · have hne : i ≠ j := Nat.ne_of_lt hij
        rw [List.idxOf_cons_self, List.idxOf_cons_ne _ hne]
        exact Nat.succ_pos _
      · by_cases hai : a = i
        · subst hai
          have hne : a ≠ j := Nat.ne_of_lt hij
          rw [List.idxOf_cons_self, List.idxOf_cons_ne _ hne]
          exact Nat.succ_pos _
        · have haj : a ≠ j := fun he => Nat.not_lt.mpr (hle i hi') (he ▸ hij)
          rw [List.idxOf_cons_ne _ hai, List.idxOf_cons_ne _ haj]
          exact Nat.succ_lt_succ (ih i hi' j hj' hij)

lemma sentIds_sublist (l : Ledger) : l.sentIds.Sublist l.queuedIds :=
  List.filter_sublist.filterMap _

section

variable {l : Ledger} {frame : List UInt8} {id : Nat} {ok : Bool}

@[simp] lemma queuedIds_attempt_direct :
    (l.attempt frame id false ok).queuedIds = l.queuedIds := by
  simp [queuedIds, attempt, List.filterMap_append]

@[simp] lemma queuedIds_attempt_queued :
    (l.attempt frame id true ok).queuedIds = l.queuedIds ++ [id] := by
  simp [queuedIds, attempt, List.filterMap_append]

@[simp] lemma queuedIds_past (frames : List (List UInt8)) :
    (l.past frames).queuedIds = l.queuedIds := by
  simp [queuedIds, past, List.filterMap_append, List.filterMap_map]

/-- Nothing has overtaken what waits. -/
def Sorted (l : Ledger) : Prop := (l.queuedIds ++ l.waiting).Pairwise (· ≤ ·)

lemma Sorted.queueInOrder (h : l.Sorted) : l.QueueInOrder := by
  have hqueued := (List.pairwise_append.mp h).1
  exact ⟨firstInOrder_of_sorted hqueued, firstInOrder_of_sorted (hqueued.sublist l.sentIds_sublist)⟩

end

end Ledger

namespace ServerM

open ServerServices

variable [Features] {depth : Nat} {σ τ : Type} (setup : ServerSetup σ τ)

/-- The flush meets a response that is not due, or that the transport refuses, only where no
other waits behind it. -/
def flushesInOrder : Nat → ServerServices depth σ τ → Bool
  | 0, _ => true
  | count + 1, s =>
    match s.responseQueue.popFront with
    | none => true
    | some (pending, queue) =>
      let popped := { s with responseQueue := queue }
      if pending.retryCount ≥ setup.resilience.maxSendRetries then flushesInOrder count popped
      else if popped.shouldDelayResponseRetry setup pending then queue.toList.isEmpty
      else
        match popped.tick.link.send setup.transport pending.frame.toList with
        | (.ok _, link) =>
          flushesInOrder count { popped.tick with link := link }.incrementServerMessageCount
        | (.error _, _) => queue.toList.isEmpty

variable {setup} {s : ServerServices depth σ τ} {l : Ledger}

/-- What is tried has been handed over. -/
lemma Accounts.queuedIds_lt (h : Accounts setup s l) : ∀ id ∈ l.queuedIds, id < s.handed.length := by
  intro id hid
  obtain ⟨a, ha, hsome⟩ := List.mem_filterMap.mp hid
  split at hsome
  · obtain ⟨_, hresponse, -⟩ := h.numbered a ha id hsome
    exact (List.getElem?_eq_some_iff.mp hresponse).1
  · cases hsome

lemma sorted_hand (haccounts : Accounts setup s l) (h : l.Sorted) (frame : Adu) (txnId : UInt16)
    (unit : UnitIdOrSlaveAddr) : (l.hand setup s frame txnId unit).Sorted := by
  have htried : ∀ waiting, ({ (if s.withinTurnaround setup then l
      else l.attempt frame.toList s.handed.length false
        (s.link.send setup.transport frame.toList).1.isOk) with waiting := waiting }).queuedIds =
      l.queuedIds := by
    intro waiting
    split
    · rfl
    · exact Ledger.queuedIds_attempt_direct
  unfold Ledger.hand
  dsimp only
  split
  · change (_ ++ (l.waiting ++ [s.handed.length])).Pairwise (· ≤ ·)
    rw [htried, ← List.append_assoc]
    refine List.pairwise_append.mpr ⟨h, List.pairwise_singleton _ _, fun i hi j hj => ?_⟩
    rw [List.mem_singleton.mp hj]
    rcases List.mem_append.mp hi with hq | hw
    · exact Nat.le_of_lt (haccounts.queuedIds_lt i hq)
    · exact Nat.le_of_lt (haccounts.waiting_lt i hw)
  · split
    · exact h
    · change (_ ++ l.waiting).Pairwise (· ≤ ·)
      rw [Ledger.queuedIds_attempt_direct]
      exact h

lemma sorted_drain {count : Nat} (hlen : l.waiting.length = s.responseQueue.toList.length)
    (h : l.Sorted) (hflush : flushesInOrder setup count s = true) :
    (Ledger.drain setup count s l).Sorted := by
  induction count generalizing s l with
  | zero => exact h
  | succ count ih =>
    rw [Ledger.drain]
    rw [flushesInOrder] at hflush
    cases hpop : s.responseQueue.popFront with
    | none => exact h
    | some popped =>
      obtain ⟨pending, queue⟩ := popped
      rw [HVec.popFront_eq_some.mp hpop, List.length_cons] at hlen
      obtain ⟨id, rest, hwaiting⟩ := List.exists_cons_of_length_eq_add_one hlen
      rw [hwaiting, List.length_cons, Nat.add_right_cancel_iff] at hlen
      rw [Ledger.Sorted, hwaiting] at h
      have halone : queue.toList.isEmpty = true → rest = [] := by
        intro hempty
        rw [List.isEmpty_iff.mp hempty] at hlen
        exact List.length_eq_zero_iff.mp hlen
      rw [hpop] at hflush
      rw [hwaiting]
      dsimp only at hflush ⊢
      split at hflush
      next hretries =>
        rw [if_pos hretries]
        refine ih hlen ?_ hflush
        exact h.sublist ((List.sublist_cons_self id rest).append_left l.queuedIds)
      next hretries =>
        rw [if_neg hretries]
        split at hflush
        -- alone in the queue, it stays where it was
        next hdelay =>
          rw [if_pos hdelay]
          obtain rfl := halone hflush
          exact h
        next hdelay =>
          rw [if_neg hdelay]
          have hsame : ({ s with responseQueue := queue } : ServerServices depth σ τ).tick.link =
            s.link := rfl
          rw [hsame] at hflush ⊢
          rcases hsend : s.link.send setup.transport pending.frame.toList with ⟨sent, link⟩
          rw [hsend] at hflush
          have hattempt : ∀ ok waiting, ({ l.attempt pending.frame.toList id true ok with
              waiting := waiting } : Ledger).queuedIds = l.queuedIds ++ [id] :=
            fun _ _ => Ledger.queuedIds_attempt_queued
          cases sent with
          | ok _ =>
            refine ih ?_ ?_ hflush
            · rw [incrementServerMessageCount, (bookkeeping_count _).responseQueue]
              exact hlen
            · rw [Ledger.Sorted, hattempt, List.append_assoc]
              exact h
          | error e =>
            obtain rfl := halone hflush
            rw [Ledger.Sorted, hattempt]
            refine List.pairwise_append.mpr ⟨h, List.pairwise_singleton _ _, fun i hi j hj => ?_⟩
            obtain rfl := List.mem_singleton.mp hj
            rcases List.mem_append.mp hi with hq | hid
            · exact (List.pairwise_append.mp h).2.2 i hq j hj
            · exact Nat.le_of_eq (List.mem_singleton.mp hid)

/-- A server that waits for the bus to turn around. Its clock stands still for four readings. -/
def turnaroundSetup : ServerSetup Unit (List UInt8) where
  app := refusingApp
  transport := .arriving (.stdSerial .rtu)
  slaveAddress := ⟨1, UnitIdOrSlaveAddr.valid_one⟩
  resilience :=
    { ResilienceConfig.default with
      turnaroundDelayUs := 10
      clockFn := some fun k => if k < 4 then 0 else 100 }

/-- A diagnostic echo on its own. -/
def oneWaits : ServerServices 8 Unit (List UInt8) :=
  perform turnaroundSetup .ingest (perform turnaroundSetup .receive
    (ServerServices.withQueueDepth 8 () returnQueryDataFrame))

/-! ### A rotation -/

/-- A second diagnostic echo. -/
def secondEchoFrame : List UInt8 := [0x01, 0x08, 0x00, 0x00, 0x12, 0x34, 0xED, 0x7C]

/-- Two echoes have arrived. -/
def bothArrived : ServerServices 8 Unit (List UInt8) :=
  perform turnaroundSetup .receive
    (ServerServices.withQueueDepth 8 () (returnQueryDataFrame ++ secondEchoFrame))

/-- The responses wait for the turnaround. -/
def bothWait : ServerServices 8 Unit (List UInt8) :=
  perform turnaroundSetup .ingest (perform turnaroundSetup .ingest bothArrived)

/-- One flush comes too early, the next does not. -/
def bothSent : ServerServices 8 Unit (List UInt8) :=
  perform turnaroundSetup .drain (perform turnaroundSetup .drain bothWait)

lemma run_bothSent : Runs.Run (perform turnaroundSetup)
    (ServerServices.withQueueDepth 8 () (returnQueryDataFrame ++ secondEchoFrame))
    (bothSent : ServerServices 8 Unit (List UInt8)) := by
  have harrived : Runs.Run (perform turnaroundSetup)
      (ServerServices.withQueueDepth 8 () (returnQueryDataFrame ++ secondEchoFrame)) bothArrived :=
    Runs.Run.single ServerAction.receive _
  have hwait : Runs.Run (perform turnaroundSetup) bothArrived bothWait :=
    (Runs.Run.single ServerAction.ingest _).trans (Runs.Run.single ServerAction.ingest _)
  have hsent : Runs.Run (perform turnaroundSetup) bothWait bothSent :=
    (Runs.Run.single ServerAction.drain _).trans (Runs.Run.single ServerAction.drain _)
  exact (harrived.trans hwait).trans hsent

/-- An action that hands over one response, between bookkeeping. -/
lemma ledgerSteps_of_hand {s' : ServerServices depth σ τ} (frame : Adu) (txnId : UInt16)
    (unit : UnitIdOrSlaveAddr)
    (h : Bookkeeping ({ s' with
      app := s.app
      link := s.link
      responseQueue := s.responseQueue
      handed := s.handed
      droppedResponseCount := s.droppedResponseCount }.trySendOrQueue setup frame txnId unit) s') :
    Relation.ReflTransGen (LedgerStep setup) (s, l)
      (s', l.hand setup { s' with
        app := s.app
        link := s.link
        responseQueue := s.responseQueue
        handed := s.handed
        droppedResponseCount := s.droppedResponseCount } frame txnId unit) := by
  have hbefore : Bookkeeping s { s' with
      app := s.app
      link := s.link
      responseQueue := s.responseQueue
      handed := s.handed
      droppedResponseCount := s.droppedResponseCount } := ⟨rfl, rfl, rfl, rfl, rfl⟩
  exact ((Relation.ReflTransGen.single (.bookkeeping hbefore)).tail (.hand frame txnId unit)).tail
    (.bookkeeping h)

/-- An action that only receives. -/
lemma ledgerSteps_of_receive {s' : ServerServices depth σ τ}
    (hsent : s'.link.sent = s.link.sent ++ []) (h : Bookkeeping { s with link := s'.link } s') :
    Relation.ReflTransGen (LedgerStep setup) (s, l) (s', l.past []) :=
  (Relation.ReflTransGen.single (.wire hsent)).tail (.bookkeeping h)

deriving instance DecidableEq for Client, Link, PendingResponse, Handed

/-- `Bookkeeping` by evaluation. -/
instance (s s' : ServerServices depth Unit (List UInt8)) : Decidable (Bookkeeping s s') :=
  decidable_of_iff (s'.app = s.app ∧ s'.link = s.link ∧ s'.responseQueue = s.responseQueue ∧
      s'.handed = s.handed ∧ s'.droppedResponseCount = s.droppedResponseCount)
    ⟨fun ⟨h₁, h₂, h₃, h₄, h₅⟩ => ⟨h₁, h₂, h₃, h₄, h₅⟩,
      fun h => ⟨h.app, h.link, h.responseQueue, h.handed, h.droppedResponseCount⟩⟩

omit [Features] in
/-- The second response is sent first. -/
lemma tracked_bothSent : letI := Features.minimal
    ∃ l, Tracked turnaroundSetup (fun _ => True) bothSent l ∧ ¬l.QueueInOrder := by
  let _ := Features.minimal
  have hstart : Tracked turnaroundSetup (fun _ => True)
      (ServerServices.withQueueDepth 8 () (returnQueryDataFrame ++ secondEchoFrame)) ⟨[], []⟩ :=
    .start () _
  have harrived := hstart.action .receive nofun
    (ledgerSteps_of_receive (by decide +kernel) (by decide +kernel))
  have hfirst := harrived.action .ingest nofun
    (ledgerSteps_of_hand (.ofSlice returnQueryDataFrame) 0 (.fromU8 1) (by decide +kernel))
  have hsecond := hfirst.action .ingest nofun
    (ledgerSteps_of_hand (.ofSlice secondEchoFrame) 0 (.fromU8 1) (by decide +kernel))
  exact ⟨_, (hsecond.drain trivial).drain trivial, fun h => absurd h.1 (by decide +kernel)⟩

end ServerM

end ModbusRs
