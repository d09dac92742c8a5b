import ModbusRs.Client.Services
import ModbusRs.Library.Loops
import ModbusRs.Library.Runs

/-!
# Timeouts and retries of the sync client

`handle_timeouts` scans the requests that await a response. A request whose response is overdue is
given up or scheduled for a retry, and a retry that is due is sent. The scan removes requests by
swap while it goes, and remembers the earliest time at which it has to run again.
-/

namespace ModbusRs

open Outcome

/-- The delay may be chosen for the attempt, with some value from the random callback. -/
def ClientConfig.Chooses (config : ClientConfig) (attempt : UInt8) (delayMs : UInt32) : Prop :=
  ∃ drawn, (config.retryJitterStrategy.apply (config.retryBackoffStrategy.delayMsForRetry attempt)
    config.retryRandomFn drawn).1 = delayMs

/-- `LoopAction`. -/
inductive LoopAction where
  | advance
  | repeatEntry
  | notHandled
  deriving DecidableEq, Repr

/-- A round of the scan: the client, the index and `new_next_check`. -/
structure TimeoutScan [Features] (n : Nat) (τ : Type) where
  client : ClientServices n τ
  i : Nat
  newNextCheck : UInt64

namespace TimeoutScan

variable [Features] {n : Nat} {τ : Type} (setup : ClientSetup τ) (now : UInt64)
  (scan : TimeoutScan n τ)

/-- `if time < *new_next_check { *new_next_check = time }`. -/
def watch (time : UInt64) : TimeoutScan n τ :=
  { scan with newNextCheck := if time < scan.newNextCheck then time else scan.newNextCheck }

/-- The entry at the index, replaced. -/
def update (entry : ExpectedResponse) : TimeoutScan n τ :=
  { scan with client := { scan.client with
      expectedResponses := scan.client.expectedResponses.set scan.i entry } }

/-- `expected_responses.swap_remove(i)` and `request_failed`. -/
def dropEntry (error : MbusError) : TimeoutScan n τ :=
  match scan.client.expectedResponses.swapRemove scan.i with
  | some (response, rest) =>
    { scan with client :=
        { scan.client with expectedResponses := rest }.requestFailed response error }
  | none => scan

/-- `update_retries`. -/
def updateRetries (entry : ExpectedResponse) : TimeoutScan n τ :=
  (scan.update { entry with
    retriesLeft := satPred8 entry.retriesLeft
    retryAttemptIndex := satSucc8 entry.retryAttemptIndex
    sentTimestamp := now
    nextRetryTimestamp := none }).watch (satAdd64 now setup.responseTimeoutMs)

/-- `send_due_retry`. -/
def sendDueRetry (entry : ExpectedResponse) : LoopAction × TimeoutScan n τ :=
  match scan.client.send setup entry.serial entry.originalAdu now with
  | (.error _, client) => (.repeatEntry, { scan with client }.dropEntry .sendFailed)
  | (.ok _, client) => (.advance, { scan with client }.updateRetries setup now entry)

/-- `try_process_scheduled_retry`. -/
def tryProcessScheduledRetry (entry : ExpectedResponse) : LoopAction × TimeoutScan n τ :=
  match entry.nextRetryTimestamp with
  | none => (.notHandled, scan)
  | some retryAt =>
    if now ≥ retryAt then scan.sendDueRetry setup now entry
    else (.advance, scan.watch retryAt)

/-- A retry after the delay, for which values were drawn. -/
def schedule (entry : ExpectedResponse) (retryDelayMs : UInt32) (drawn : Nat) :
    TimeoutScan n τ :=
  { scan with client := { scan.client with
      drawn
      events := scan.client.events ++ [ClientEvent.scheduled entry.serial retryDelayMs now]
      expectedResponses := scan.client.expectedResponses.set scan.i
        { entry with nextRetryTimestamp := some (satAdd64 now retryDelayMs.toUInt64) } } }

/-- `schedule_next_retry`. -/
def scheduleNextRetry (entry : ExpectedResponse) : LoopAction × TimeoutScan n τ :=
  let nextAttempt := satSucc8 entry.retryAttemptIndex
  let baseDelayMs := setup.config.retryBackoffStrategy.delayMsForRetry nextAttempt
  let (retryDelayMs, drawn) := setup.config.retryJitterStrategy.apply baseDelayMs
    setup.config.retryRandomFn scan.client.drawn
  let scheduled := scan.schedule now entry retryDelayMs drawn
  if retryDelayMs = 0 then (.repeatEntry, scheduled)
  else (.advance, scheduled.watch (satAdd64 now retryDelayMs.toUInt64))

/-- `try_handle_request_timeout`. -/
def tryHandleRequestTimeout (entry : ExpectedResponse) : LoopAction × TimeoutScan n τ :=
  let expiresAt := satAdd64 entry.sentTimestamp setup.responseTimeoutMs
  if now ≤ expiresAt then (.notHandled, scan.watch expiresAt)
  else if entry.retriesLeft = 0 then (.repeatEntry, scan.dropEntry .noRetriesLeft)
  else scan.scheduleNextRetry setup now entry

/-- The end of a round. -/
def continueWith : LoopAction × TimeoutScan n τ → TimeoutScan n τ
  | (.repeatEntry, scan) => scan
  | (_, scan) => { scan with i := scan.i + 1 }

/-- A round of the `while i < expected_responses.len()` loop. -/
def round : Option (TimeoutScan n τ) :=
  match scan.client.expectedResponses.toList[scan.i]? with
  | none => none
  | some entry =>
    match scan.tryProcessScheduledRetry setup now entry with
    | (.notHandled, scan) => some (continueWith (scan.tryHandleRequestTimeout setup now entry))
    | (action, scan) => some (continueWith (action, scan))

/-! ### What a round does -/

variable {setup now} {scan scan' : TimeoutScan n τ}

/-- The rounds of the scan. -/
inductive Round (setup : ClientSetup τ) (now : UInt64) :
    TimeoutScan n τ → TimeoutScan n τ → Prop
  | notDue {scan : TimeoutScan n τ} {entry : ExpectedResponse} {retryAt : UInt64}
      (hentry : scan.client.expectedResponses.toList[scan.i]? = some entry)
      (hretry : entry.nextRetryTimestamp = some retryAt) (hnow : now < retryAt) :
      Round setup now scan { scan.watch retryAt with i := scan.i + 1 }
  | resent {scan : TimeoutScan n τ} {entry : ExpectedResponse} {retryAt : UInt64}
      {client : ClientServices n τ}
      (hentry : scan.client.expectedResponses.toList[scan.i]? = some entry)
      (hretry : entry.nextRetryTimestamp = some retryAt) (hnow : retryAt ≤ now)
      (hsend : scan.client.send setup entry.serial entry.originalAdu now = (.ok (), client)) :
      Round setup now scan
        { { scan with client }.updateRetries setup now entry with i := scan.i + 1 }
  | unsent {scan : TimeoutScan n τ} {entry : ExpectedResponse} {retryAt : UInt64}
      {client : ClientServices n τ} {e : MbusError} {rest : HVec ExpectedResponse n}
      (hentry : scan.client.expectedResponses.toList[scan.i]? = some entry)
      (hretry : entry.nextRetryTimestamp = some retryAt) (hnow : retryAt ≤ now)
      (hsend : scan.client.send setup entry.serial entry.originalAdu now = (.error e, client))
      (hremove : scan.client.expectedResponses.swapRemove scan.i = some (entry, rest)) :
      Round setup now scan { scan with client :=
        { client with expectedResponses := rest }.requestFailed entry .sendFailed }
  | waiting {scan : TimeoutScan n τ} {entry : ExpectedResponse}
      (hentry : scan.client.expectedResponses.toList[scan.i]? = some entry)
      (hretry : entry.nextRetryTimestamp = none)
      (hnow : now ≤ satAdd64 entry.sentTimestamp setup.responseTimeoutMs) :
      Round setup now scan
        { scan.watch (satAdd64 entry.sentTimestamp setup.responseTimeoutMs) with i := scan.i + 1 }
  | exhausted {scan : TimeoutScan n τ} {entry : ExpectedResponse}
      {rest : HVec ExpectedResponse n}
      (hentry : scan.client.expectedResponses.toList[scan.i]? = some entry)
      (hretry : entry.nextRetryTimestamp = none)
      (hnow : satAdd64 entry.sentTimestamp setup.responseTimeoutMs < now)
      (hleft : entry.retriesLeft = 0)
      (hremove : scan.client.expectedResponses.swapRemove scan.i = some (entry, rest)) :
      Round setup now scan { scan with client :=
        { scan.client with expectedResponses := rest }.requestFailed entry .noRetriesLeft }
  | scheduled {scan : TimeoutScan n τ} {entry : ExpectedResponse} {retryDelayMs : UInt32}
      (drawn : Nat) (hentry : scan.client.expectedResponses.toList[scan.i]? = some entry)
      (hretry : entry.nextRetryTimestamp = none)
      (hnow : satAdd64 entry.sentTimestamp setup.responseTimeoutMs < now)
      (hleft : entry.retriesLeft ≠ 0)
      (hchosen : setup.config.Chooses (satSucc8 entry.retryAttemptIndex) retryDelayMs) :
      Round setup now scan { (scan.schedule now entry retryDelayMs drawn).watch
        (satAdd64 now retryDelayMs.toUInt64) with i := scan.i + 1 }
  | scheduledNow {scan : TimeoutScan n τ} {entry : ExpectedResponse} (drawn : Nat)
      (hentry : scan.client.expectedResponses.toList[scan.i]? = some entry)
      (hretry : entry.nextRetryTimestamp = none)
      (hnow : satAdd64 entry.sentTimestamp setup.responseTimeoutMs < now)
      (hleft : entry.retriesLeft ≠ 0)
      (hchosen : setup.config.Chooses (satSucc8 entry.retryAttemptIndex) 0) :
      Round setup now scan (scan.schedule now entry 0 drawn)

lemma swapRemove_of_getElem? {entry : ExpectedResponse} {responses : HVec ExpectedResponse n}
    {i : Nat} (h : responses.toList[i]? = some entry) :
    ∃ rest, responses.swapRemove i = some (entry, rest) := by
  obtain ⟨hlt, rfl⟩ := List.getElem?_eq_some_iff.mp h
  exact HVec.swapRemove_isSome hlt

lemma round_eq_some (h : scan.round setup now = some scan') : Round setup now scan scan' := by
  unfold round at h
  split at h
  · cases h
  next entry hentry =>
    obtain ⟨rest, hremove⟩ := swapRemove_of_getElem? hentry
    cases hretry : entry.nextRetryTimestamp with
    | none =>
      rw [tryProcessScheduledRetry, hretry] at h
      obtain rfl := Option.some.inj h
      rw [tryHandleRequestTimeout]
      split
      next hnow => exact .waiting hentry hretry hnow
      next hnow =>
        have hnow := UInt64.not_le.mp hnow
        split
        next hleft =>
          rw [dropEntry, hremove]
          exact .exhausted hentry hretry hnow hleft hremove
        next hleft =>
          rw [scheduleNextRetry]
          dsimp only
          split
          next hdelay =>
            rw [hdelay]
            exact .scheduledNow _ hentry hretry hnow hleft ⟨_, hdelay⟩
          next => exact .scheduled _ hentry hretry hnow hleft ⟨_, rfl⟩
    | some retryAt =>
      rw [tryProcessScheduledRetry, hretry] at h
      dsimp only at h
      by_cases hnow : now ≥ retryAt
      · rw [if_pos hnow, sendDueRetry] at h
        rcases hsend : scan.client.send setup entry.serial entry.originalAdu now with ⟨_ | _, client⟩
        · rw [hsend] at h
          have hclient : client.expectedResponses = scan.client.expectedResponses :=
            (congrArg (fun sent => sent.2.expectedResponses) hsend).symm
          dsimp only at h
          rw [dropEntry] at h
          dsimp only at h
          rw [hclient, hremove] at h
          obtain rfl := Option.some.inj h
          exact .unsent hentry hretry hnow hsend hremove
        · rw [hsend] at h
          obtain rfl := Option.some.inj h
          exact .resent hentry hretry hnow hsend
      · rw [if_neg hnow] at h
        obtain rfl := Option.some.inj h
        exact .notDue hentry hretry (UInt64.not_le.mp hnow)

/-- Two for every entry that is left, and one more while the first of them is not scheduled. -/
def measure (scan : TimeoutScan n τ) : Nat :=
  2 * (scan.client.expectedResponses.toList.length - scan.i) +
    match scan.client.expectedResponses.toList[scan.i]? with
    | some entry => if entry.nextRetryTimestamp = none then 1 else 0
    | none => 0

lemma measure_le (scan : TimeoutScan n τ) :
    scan.measure ≤ 2 * (scan.client.expectedResponses.toList.length - scan.i) + 1 := by
  unfold measure
  split
  · split <;> omega
  · omega

/-- A round goes on to the next entry, or removes one, or schedules the entry at hand. -/
lemma Round.progress (h : Round setup now scan scan') :
    scan'.i = scan.i + 1 ∧ scan'.client.expectedResponses.toList.length =
        scan.client.expectedResponses.toList.length ∨
      scan'.i = scan.i ∧ scan'.client.expectedResponses.toList.length + 1 =
        scan.client.expectedResponses.toList.length ∨
      ∃ entry retryAt, scan.client.expectedResponses.toList[scan.i]? = some entry ∧
        entry.nextRetryTimestamp = none ∧ scan'.i = scan.i ∧
        scan'.client.expectedResponses.toList = scan.client.expectedResponses.toList.set scan.i
          { entry with nextRetryTimestamp := some retryAt } := by
  cases h with
  | notDue | waiting => exact .inl ⟨rfl, rfl⟩
  | resent hentry hretry hnow hsend =>
    have hclient := congrArg (fun sent => sent.2.expectedResponses) hsend
    refine .inl ⟨rfl, ?_⟩
    change (List.set _ _ _).length = _
    rw [List.length_set, ← hclient]
    rfl
  | unsent hentry hretry hnow hsend hremove =>
    exact .inr (.inl ⟨rfl, HVec.swapRemove_length hremove⟩)
  | exhausted hentry hretry hnow hleft hremove =>
    exact .inr (.inl ⟨rfl, HVec.swapRemove_length hremove⟩)
  | scheduled drawn hentry hretry hnow hleft hchosen => exact .inl ⟨rfl, List.length_set⟩
  | scheduledNow drawn hentry hretry hnow hleft hchosen =>
    exact .inr (.inr ⟨_, _, hentry, hretry, rfl, rfl⟩)

lemma Round.decreases (h : Round setup now scan scan') : scan'.measure < scan.measure := by
  have hlt : scan.i < scan.client.expectedResponses.toList.length := by
    cases h <;> exact (List.getElem?_eq_some_iff.mp ‹_›).1
  have hscan : 2 * (scan.client.expectedResponses.toList.length - scan.i) ≤ scan.measure :=
    Nat.le_add_right _ _
  have hle := measure_le scan'
  rcases h.progress with ⟨hi, hlen⟩ | ⟨hi, hlen⟩ | ⟨entry, retryAt, hentry, hnone, hi, hset⟩
  · omega
  · omega
  · rw [measure, measure, hentry, hset, hi, List.length_set, List.getElem?_set_self hlt]
    dsimp only
    rw [if_pos hnone, if_neg nofun]
    exact Nat.lt_succ_self _

/-- The loop of `handle_timeouts`. -/
def loop (setup : ClientSetup τ) (now : UInt64) : Loop (TimeoutScan n τ) where
  body := round setup now
  measure := measure
  decreases h := (round_eq_some h).decreases

end TimeoutScan

namespace ClientServices

variable [Features] {n : Nat} {τ : Type} (setup : ClientSetup τ) (now : UInt64)
  (s : ClientServices n τ)

/-- `handle_timeouts` behind its early exits. -/
def scanTimeouts : ClientServices n τ :=
  let scan := (TimeoutScan.loop setup now).finish ⟨s, 0, u64Max⟩
  { scan.client with
    nextTimeoutCheck := if scan.newNextCheck ≠ u64Max then some scan.newNextCheck else none }

/-- `handle_timeouts`. -/
def handleTimeouts : ClientServices n τ :=
  if s.expectedResponses.toList.isEmpty then { s with nextTimeoutCheck := none }
  else
    match s.nextTimeoutCheck with
    | some checkAt => if now < checkAt then s else s.scanTimeouts setup now
    | none => s.scanTimeouts setup now

end ClientServices

/-! ### Runs -/

/-- What can happen to a client. -/
inductive SyncClientAction (τ : Type) where
  | environment (transport : τ)
  | submit (call : ClientCall) (txnId : UInt16) (unit : UnitIdOrSlaveAddr) (now : UInt64)
  | poll (now : UInt64)
  | connect
  | disconnect
  | reconnect

namespace ClientM

open ClientServices

variable [Features] {n : Nat} {τ : Type} (setup : ClientSetup τ)

/-- `poll`. -/
def poll (now : UInt64) : ClientM n τ Unit := do
  receive setup
  EffM.modify fun s => s.handleTimeouts setup now

/-- The routine behind an action. -/
def routine : SyncClientAction τ → ClientM n τ Unit
  | .environment transport =>
    EffM.modify fun s => { s with link := { s.link with state := transport } }
  | .submit call txnId unit now => submit setup call txnId unit now
  | .poll now => poll setup now
  | .connect => connect setup
  | .disconnect => EffM.modify fun s => s.disconnect setup
  | .reconnect => reconnect setup

/-- What an action leaves behind, however it ends. -/
def perform (action : SyncClientAction τ) (s : ClientServices n τ) : ClientServices n τ :=
  ((routine setup action).run s).2

/-- The states that runs of a new client lead to. -/
def Reachable (s : ClientServices n τ) : Prop :=
  Runs.Reachable (fun s => ∃ link : Link τ, ClientServices.new setup link = .ok s)
    (perform setup) s

end ClientM

end ModbusRs
