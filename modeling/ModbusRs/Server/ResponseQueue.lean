import ModbusRs.Library.Lists
import ModbusRs.Server.Effects
import ModbusRs.Server.ListenOnly

/-!
# The life of a response

The responses given to the send-or-queue step are numbered in that order. A ledger follows a run
of the server and keeps, for each number, whether the response waits in the retry queue and how
often the transport was asked to send it. No response is sent twice, and none is tried more often
than the number of retries allows.
-/

namespace ModbusRs

open Outcome

/-- A frame given to the transport: for which response, from the retry queue or directly, and
whether the transport took it. -/
structure Attempt where
  frame : List UInt8
  id : Option Nat
  queued : Bool
  ok : Bool

/-- The numbers of the responses that wait, and the frames given to the transport. -/
structure Ledger where
  waiting : List Nat
  attempts : List Attempt

namespace Ledger

/-- How often the transport was asked to send a response. -/
def tries (l : Ledger) (id : Nat) : Nat := l.attempts.countP fun a => a.id == some id

/-- How often it did. -/
def successes (l : Ledger) (id : Nat) : Nat :=
  l.attempts.countP fun a => a.id == some id && a.ok

/-- An attempt to send a response. -/
def attempt (l : Ledger) (frame : List UInt8) (id : Nat) (queued ok : Bool) : Ledger :=
  { l with attempts := l.attempts ++ [⟨frame, some id, queued, ok⟩] }

/-- Frames that are no responses of the send-or-queue step. -/
def past (l : Ledger) (frames : List (List UInt8)) : Ledger :=
  { l with attempts := l.attempts ++ frames.map (⟨·, none, false, true⟩) }

section

variable {l : Ledger} {frame : List UInt8} {id : Nat} {queued ok : Bool}

@[simp] lemma attempt_waiting : (l.attempt frame id queued ok).waiting = l.waiting := rfl

@[simp] lemma past_waiting (frames : List (List UInt8)) : (l.past frames).waiting = l.waiting := rfl

lemma tries_attempt (id' : Nat) :
    (l.attempt frame id queued ok).tries id' = l.tries id' + if id = id' then 1 else 0 := by
  simp [tries, attempt, List.countP_append, List.countP_cons]

lemma successes_attempt (id' : Nat) :
    (l.attempt frame id queued ok).successes id' =
      l.successes id' + if id = id' ∧ ok = true then 1 else 0 := by
  simp [successes, attempt, List.countP_append, List.countP_cons]

lemma tries_past (frames : List (List UInt8)) (id' : Nat) :
    (l.past frames).tries id' = l.tries id' := by
  simp [tries, past, List.countP_append, List.countP_map, Function.comp_def]

lemma successes_past (frames : List (List UInt8)) (id' : Nat) :
    (l.past frames).successes id' = l.successes id' := by
  simp [successes, past, List.countP_append, List.countP_map, Function.comp_def]

end

variable [Features] {depth : Nat} {σ τ : Type} (setup : ServerSetup σ τ)

/-- What the send-or-queue step adds. -/
def hand (s : ServerServices depth σ τ) (l : Ledger) (frame : Adu) (txnId : UInt16)
    (unit : UnitIdOrSlaveAddr) : Ledger :=
  let id := s.handed.length
  let tried := if s.withinTurnaround setup then l
    else l.attempt frame.toList id false (s.link.send setup.transport frame.toList).1.isOk
  if s.responseQueue.length < (s.trySendOrQueue setup frame txnId unit).responseQueue.length then
    { tried with waiting := l.waiting ++ [id] }
  else tried

/-- What the draining of the retry queue adds. -/
def drain : Nat → ServerServices depth σ τ → Ledger → Ledger
  | 0, _, l => l
  | count + 1, s, l =>
    match s.responseQueue.popFront, l.waiting with
    | some (pending, queue), id :: rest =>
      let popped := { s with responseQueue := queue }
      let frame := pending.frame.toList
      if pending.retryCount ≥ setup.resilience.maxSendRetries then
        drain count popped { l with waiting := rest }
      else if popped.shouldDelayResponseRetry setup pending then
        { l with waiting := rest ++ [id] }
      else
        match popped.tick.link.send setup.transport frame with
        | (.ok _, link) =>
          drain count { popped.tick with link := link }.incrementServerMessageCount
            { l.attempt frame id true true with waiting := rest }
        | (.error _, _) => { l.attempt frame id true false with waiting := rest ++ [id] }
    | _, _ => l

end Ledger

/-! ### Following a run -/

namespace ServerM

open ServerServices

variable [Features] {depth : Nat} {σ τ : Type} (setup : ServerSetup σ τ)

/-- An effect, and what it adds to the ledger. -/
inductive LedgerStep :
    ServerServices depth σ τ × Ledger → ServerServices depth σ τ × Ledger → Prop
  | bookkeeping {s s' l} (h : Bookkeeping s s') : LedgerStep (s, l) (s', l)
  | callbacks {s l app} : LedgerStep (s, l) ({ s with app := app }, l)
  | wire {s l link frames} (h : link.sent = s.link.sent ++ frames) :
      LedgerStep (s, l) ({ s with link := link }, l.past frames)
  | hand {s l} (frame : Adu) (txnId : UInt16) (unit : UnitIdOrSlaveAddr) :
      LedgerStep (s, l)
        (s.trySendOrQueue setup frame txnId unit, l.hand setup s frame txnId unit)

/-- A run of a new server together with its ledger. The retry queue is only drained in states
that meet the condition. -/
inductive Tracked (cond : ServerServices depth σ τ → Prop) :
    ServerServices depth σ τ → Ledger → Prop
  | start (app : σ) (transport : τ) :
      Tracked cond (ServerServices.withQueueDepth depth app transport) ⟨[], []⟩
  | action {s l l'} (action : ServerAction σ τ) (h : Tracked cond s l) (ha : action ≠ .drain)
      (hsteps : Relation.ReflTransGen (LedgerStep setup) (s, l) (perform setup action s, l')) :
      Tracked cond (perform setup action s) l'
  | drain {s l} (h : Tracked cond s l) (hs : cond s) :
      Tracked cond (perform setup .drain s) (Ledger.drain setup s.responseQueue.length s l)

variable {setup}

lemma exists_ledgerSteps {s s' : ServerServices depth σ τ} (h : Effects setup s s')
    (l : Ledger) : ∃ l', Relation.ReflTransGen (LedgerStep setup) (s, l) (s', l') := by
  induction h with
  | refl => exact ⟨l, .refl⟩
  | tail _ hlast ih =>
    obtain ⟨l₁, hl₁⟩ := ih
    cases hlast with
    | bookkeeping h => exact ⟨l₁, hl₁.tail (.bookkeeping h)⟩
    | callbacks _ => exact ⟨l₁, hl₁.tail .callbacks⟩
    | wire h =>
      obtain ⟨frames, hframes⟩ := h
      exact ⟨l₁.past frames, hl₁.tail (.wire hframes)⟩
    | hand frame txnId unit => exact ⟨_, hl₁.tail (.hand frame txnId unit)⟩

/-- Every run can be followed. -/
lemma exists_tracked {cond : ServerServices depth σ τ → Prop} {app : σ} {transport : τ}
    {s : ServerServices depth σ τ}
    (h : Runs.RunWhen (fun action s => action = .drain → cond s) (perform setup)
      (ServerServices.withQueueDepth depth app transport) s) :
    ∃ l, Tracked setup cond s l := by
  induction h with
  | refl => exact ⟨_, .start app transport⟩
  | tail _ hlast ih =>
    obtain ⟨l, hl⟩ := ih
    obtain ⟨action, hcond, rfl⟩ := hlast
    by_cases ha : action = .drain
    · subst ha
      exact ⟨_, hl.drain (hcond rfl)⟩
    · obtain ⟨l', hl'⟩ := exists_ledgerSteps (effects_perform ha _) l
      exact ⟨l', hl.action action ha hl'⟩

/-- What holds of a new server and is preserved by every effect and by draining holds of every
tracked run. -/
theorem Tracked.invariant {cond : ServerServices depth σ τ → Prop}
    {P : ServerServices depth σ τ → Ledger → Prop} {s : ServerServices depth σ τ} {l : Ledger}
    (h : Tracked setup cond s l)
    (hstart : ∀ app transport, P (ServerServices.withQueueDepth depth app transport) ⟨[], []⟩)
    (hstep : ∀ s l s' l', LedgerStep setup (s, l) (s', l') → P s l → P s' l')
    (hdrain : ∀ s l, cond s → P s l →
      P (s.drainResponseQueue setup) (Ledger.drain setup s.responseQueue.length s l)) :
    P s l := by
  induction h with
  | start app transport => exact hstart app transport
  | action _ _ _ hsteps ih =>
    suffices h : ∀ p q : ServerServices depth σ τ × Ledger,
        Relation.ReflTransGen (LedgerStep setup) p q → P p.1 p.2 → P q.1 q.2 from
      h _ _ hsteps ih
    intro p q hpq hp
    induction hpq with
    | refl => exact hp
    | tail _ hlast ih => exact hstep _ _ _ _ hlast ih
  | @drain s l _ hs ih =>
    have hdrained := hdrain s l hs ih
    change P (if depth > 0 then s.drainResponseQueue setup else s) _
    split
    · exact hdrained
    · have hempty : s.responseQueue.length = 0 := by
        have := s.responseQueue.length_le
        change s.responseQueue.toList.length = 0
        omega
      rw [hempty]
      exact ih

/-! ### The invariant -/

/-- A waiting response: it has not been sent, and it was tried at most once more than it counts. -/
structure Waits (setup : ServerSetup σ τ) (handed : List Handed) (l : Ledger) (id : Nat)
    (pending : PendingResponse) : Prop where
  response : handed[id]? = some ⟨pending.frame, pending.txnId, pending.unit⟩
  unsent : l.successes id = 0
  tries : l.tries id ≤ 1 + pending.retryCount.toNat
  retries : pending.retryCount ≤ setup.resilience.maxSendRetries

/-- The ledger accounts for the state. -/
structure Accounts (setup : ServerSetup σ τ) (s : ServerServices depth σ τ) (l : Ledger) :
    Prop where
  sent : l.attempts.map Attempt.frame = s.link.sent
  waits : List.Forall₂ (Waits setup s.handed l) l.waiting s.responseQueue.toList
  distinct : l.waiting.Nodup
  numbered : ∀ a ∈ l.attempts, ∀ id, a.id = some id →
    ∃ h, s.handed[id]? = some h ∧ a.frame = h.frame.toList
  successes : ∀ id, l.successes id ≤ 1
  tries : ∀ id, l.tries id ≤ 1 + setup.resilience.maxSendRetries.toNat

section Accounts

variable {handed : List Handed} {l l' : Ledger} {id : Nat} {pending : PendingResponse}

/-- What is recorded of other responses does not matter. -/
lemma Waits.of_eq (h : Waits setup handed l id pending) (extra : List Handed)
    (hsuccesses : l'.successes id = l.successes id) (htries : l'.tries id = l.tries id) :
    Waits setup (handed ++ extra) l' id pending where
  response := by
    rw [List.getElem?_append_left (List.getElem?_eq_some_iff.mp h.response).1]
    exact h.response
  unsent := hsuccesses.trans h.unsent
  tries := htries ▸ h.tries
  retries := h.retries

/-- Nor does the order of the waiting ones. -/
lemma Waits.withWaiting (h : Waits setup handed l id pending) (waiting : List Nat) :
    Waits setup handed { l with waiting := waiting } id pending :=
  ⟨h.response, h.unsent, h.tries, h.retries⟩

variable {s s' : ServerServices depth σ τ}

lemma accounts_start (app : σ) (transport : τ) :
    Accounts setup (ServerServices.withQueueDepth depth app transport) ⟨[], []⟩ where
  sent := rfl
  waits := .nil
  distinct := .nil
  numbered := nofun
  successes _ := Nat.zero_le _
  tries _ := Nat.zero_le _

/-- Only the transport, the retry queue and the responses matter. -/
lemma Accounts.of_eq (h : Accounts setup s l) (hlink : s'.link.sent = s.link.sent)
    (hqueue : s'.responseQueue = s.responseQueue) (hhanded : s'.handed = s.handed) :
    Accounts setup s' l where
  sent := h.sent.trans hlink.symm
  waits := by
    rw [hhanded, hqueue]
    exact h.waits
  distinct := h.distinct
  numbered := hhanded ▸ h.numbered
  successes := h.successes
  tries := h.tries

lemma Accounts.past (h : Accounts setup s l) {frames : List (List UInt8)} {link : Link τ}
    (hlink : link.sent = s.link.sent ++ frames) :
    Accounts setup { s with link := link } (l.past frames) where
  sent := by
    change _ = link.sent
    rw [hlink, ← h.sent, Ledger.past, List.map_append, List.map_map]
    exact congrArg _ (List.map_id' frames)
  waits := h.waits.imp fun id pending hw => by
    simpa using hw.of_eq [] (Ledger.successes_past frames id) (Ledger.tries_past frames id)
  distinct := h.distinct
  numbered a ha id hid := by
    rcases List.mem_append.mp ha with hold | hnew
    · exact h.numbered a hold id hid
    · obtain ⟨frame, -, rfl⟩ := List.mem_map.mp hnew
      cases hid
  successes id := by
    rw [Ledger.successes_past]
    exact h.successes id
  tries id := by
    rw [Ledger.tries_past]
    exact h.tries id

/-- The next response has not been tried. -/
lemma Accounts.unknown (h : Accounts setup s l) :
    l.successes s.handed.length = 0 ∧ l.tries s.handed.length = 0 := by
  have hne : ∀ a ∈ l.attempts, a.id ≠ some s.handed.length := by
    intro a ha hid
    obtain ⟨_, hsome, -⟩ := h.numbered a ha _ hid
    exact absurd (List.getElem?_eq_some_iff.mp hsome).1 (Nat.lt_irrefl _)
  constructor
  · refine List.countP_eq_zero.mpr fun a ha => ?_
    simp [hne a ha]
  · refine List.countP_eq_zero.mpr fun a ha => ?_
    simp [hne a ha]

/-- Waiting responses are among those handed over. -/
lemma Accounts.waiting_lt (h : Accounts setup s l) : ∀ id ∈ l.waiting, id < s.handed.length := by
  intro id hid
  obtain ⟨pending, -, hw⟩ := h.waits.exists_of_mem hid
  exact (List.getElem?_eq_some_iff.mp hw.response).1

/-- What the send-or-queue step does to the retry queue. -/
lemma trySendOrQueue_responseQueue (setup : ServerSetup σ τ) (s : ServerServices depth σ τ)
    (frame : Adu) (txnId : UInt16) (unit : UnitIdOrSlaveAddr) :
    (s.trySendOrQueue setup frame txnId unit).responseQueue = s.responseQueue ∨
      (s.withinTurnaround setup = false →
        (s.link.send setup.transport frame.toList).1.isOk = false) ∧
      ∃ queuedAtUs isTurnaroundDelay,
        (s.trySendOrQueue setup frame txnId unit).responseQueue.toList = s.responseQueue.toList ++
          [⟨frame, txnId, unit, 0, queuedAtUs, isTurnaroundDelay⟩] := by
  unfold trySendOrQueue
  dsimp only
  split
  next hwithin =>
    unfold delayForTurnaround
    split
    next queue hpush =>
      refine Or.inr ⟨fun hnot => ?_, _, _, HVec.extendFromSlice_eq_some.mp hpush⟩
      rw [hnot] at hwithin
      cases hwithin
    next => exact Or.inl rfl
  next =>
    unfold sendOrRetry
    split
    next hsend => exact Or.inl (bookkeeping_count _).responseQueue
    next e link hsend =>
      unfold handleSendFailure
      split
      · unfold queueResponseForRetry
        dsimp only
        split
        next queue hpush =>
          refine Or.inr ⟨fun _ => ?_, _, _, HVec.extendFromSlice_eq_some.mp hpush⟩
          change (s.link.send setup.transport frame.toList) = _ at hsend
          rw [hsend]
          rfl
        next => exact Or.inl rfl
      · exact Or.inl rfl

lemma trySendOrQueue_sent (setup : ServerSetup σ τ) (s : ServerServices depth σ τ) (frame : Adu)
    (txnId : UInt16) (unit : UnitIdOrSlaveAddr) :
    (s.trySendOrQueue setup frame txnId unit).link.sent =
      if s.withinTurnaround setup then s.link.sent else s.link.sent ++ [frame.toList] := by
  unfold trySendOrQueue
  dsimp only
  split
  · unfold delayForTurnaround
    split <;> rfl
  · unfold sendOrRetry
    split
    next link hsend =>
      rw [incrementServerMessageCount, (bookkeeping_count _).link]
      exact congrArg (fun r => r.2.sent) hsend.symm
    next e link hsend =>
      have hlink : ∀ s' : ServerServices depth σ τ, (s'.handleSendFailure setup frame txnId
          unit).link = s'.link := by
        intro s'
        unfold handleSendFailure
        split
        · unfold queueResponseForRetry
          dsimp only
          split <;> rfl
        · rfl
      rw [hlink]
      exact congrArg (fun r => r.2.sent) hsend.symm

lemma Accounts.handOver (h : Accounts setup s l) (extra : List Handed) :
    Accounts setup { s with handed := s.handed ++ extra } l where
  sent := h.sent
  waits := h.waits.imp fun _ _ hw => hw.of_eq extra rfl rfl
  distinct := h.distinct
  numbered a ha id hid := by
    obtain ⟨response, hsome, hframe⟩ := h.numbered a ha id hid
    refine ⟨response, ?_, hframe⟩
    rw [List.getElem?_append_left (List.getElem?_eq_some_iff.mp hsome).1]
    exact hsome
  successes := h.successes
  tries := h.tries

/-- A response that does not wait is tried. -/
lemma Accounts.attempt (h : Accounts setup s l) {response : Handed} {link : Link τ}
    {queued ok : Bool} (hresponse : s.handed[id]? = some response) (hid : id ∉ l.waiting)
    (hsuccesses : l.successes id = 0)
    (htries : l.tries id ≤ setup.resilience.maxSendRetries.toNat)
    (hlink : link.sent = s.link.sent ++ [response.frame.toList]) :
    Accounts setup { s with link := link } (l.attempt response.frame.toList id queued ok) where
  sent := by
    change _ = link.sent
    rw [hlink, ← h.sent, Ledger.attempt, List.map_append]
    rfl
  waits := h.waits.imp_of_mem fun id' hid' pending hw => by
    have hne : id ≠ id' := fun he => hid (he ▸ hid')
    simpa using hw.of_eq [] (by simp [Ledger.successes_attempt, hne])
      (by simp [Ledger.tries_attempt, hne])
  distinct := h.distinct
  numbered a ha id' hid' := by
    rcases List.mem_append.mp ha with hold | hnew
    · exact h.numbered a hold id' hid'
    · obtain rfl := List.mem_singleton.mp hnew
      cases hid'
      exact ⟨response, hresponse, rfl⟩
  successes id' := by
    have hold := h.successes id'
    rw [Ledger.successes_attempt]
    by_cases he : id = id'
    · subst he
      split <;> omega
    · simpa [he] using hold
  tries id' := by
    have hold := h.tries id'
    rw [Ledger.tries_attempt]
    split
    next he =>
      subst he
      omega
    next => exact hold

lemma Accounts.enqueue (h : Accounts setup s l) {queue : HVec PendingResponse depth}
    (hqueue : queue.toList = s.responseQueue.toList ++ [pending])
    (hw : Waits setup s.handed l id pending) (hid : id ∉ l.waiting) :
    Accounts setup { s with responseQueue := queue } { l with waiting := l.waiting ++ [id] } where
  sent := h.sent
  waits := by
    change List.Forall₂ _ (l.waiting ++ [id]) queue.toList
    rw [hqueue]
    exact List.rel_append (h.waits.imp fun _ _ hw => hw.withWaiting _)
      (.cons (hw.withWaiting _) .nil)
  distinct := List.nodup_append.mpr ⟨h.distinct, List.pairwise_singleton _ id, by
    intro a ha b hb
    rw [List.mem_singleton.mp hb]
    exact fun he => hid (he ▸ ha)⟩
  numbered := h.numbered
  successes := h.successes
  tries := h.tries

lemma Accounts.dequeue (h : Accounts setup s l) {queue : HVec PendingResponse depth}
    (hqueue : s.responseQueue.toList = pending :: queue.toList) :
    ∃ id rest, l.waiting = id :: rest ∧ id ∉ rest ∧
      Waits setup s.handed { l with waiting := rest } id pending ∧
      Accounts setup { s with responseQueue := queue } { l with waiting := rest } := by
  have hwaits := h.waits
  rw [hqueue] at hwaits
  obtain ⟨id, rest, hw, hrest, hwaiting⟩ := List.forall₂_cons_right_iff.mp hwaits
  have hdistinct := h.distinct
  rw [hwaiting, List.nodup_cons] at hdistinct
  refine ⟨id, rest, hwaiting, hdistinct.1, hw.withWaiting rest, h.sent, ?_, hdistinct.2,
    h.numbered, h.successes, h.tries⟩
  exact hrest.imp fun _ _ hw => hw.withWaiting rest

/-- A response is handed over: it is tried or not, and waits or not. -/
lemma Accounts.hand (h : Accounts setup s l) (frame : Adu) (txnId : UInt16)
    (unit : UnitIdOrSlaveAddr) :
    Accounts setup (s.trySendOrQueue setup frame txnId unit) (l.hand setup s frame txnId unit) := by
  set s' := s.trySendOrQueue setup frame txnId unit with hs'
  set id := s.handed.length with hid
  have hresponse : (s.handed ++ [⟨frame, txnId, unit⟩])[id]? = some ⟨frame, txnId, unit⟩ :=
    List.getElem?_concat_length
  have hnew : id ∉ l.waiting := fun hmem => Nat.lt_irrefl _ (h.waiting_lt id hmem)
  obtain ⟨hsuccesses, htries⟩ := h.unknown
  have hover := h.handOver [⟨frame, txnId, unit⟩]
  -- after the attempt, if one is made
  set tried := (if s.withinTurnaround setup then l else
    l.attempt frame.toList id false (s.link.send setup.transport frame.toList).1.isOk) with htried
  have hwaiting : tried.waiting = l.waiting := by
    rw [htried]
    split <;> rfl
  have haccounts : Accounts setup { s' with responseQueue := s.responseQueue } tried := by
    have hsent := trySendOrQueue_sent setup s frame txnId unit
    rw [htried]
    split
    next hwithin =>
      rw [if_pos hwithin] at hsent
      exact hover.of_eq hsent rfl (s.trySendOrQueue_handed setup frame txnId unit)
    next hwithin =>
      rw [if_neg hwithin] at hsent
      have hattempt : Accounts setup
          { s with handed := s.handed ++ [⟨frame, txnId, unit⟩], link := s'.link }
          (l.attempt frame.toList id false (s.link.send setup.transport frame.toList).1.isOk) :=
        hover.attempt hresponse hnew hsuccesses (by rw [htries]; exact Nat.zero_le _) hsent
      exact hattempt.of_eq rfl rfl (s.trySendOrQueue_handed setup frame txnId unit)
  rcases trySendOrQueue_responseQueue setup s frame txnId unit with
    hsame | ⟨hfails, queuedAtUs, isTurnaroundDelay, hgrown⟩
  · have hledger : l.hand setup s frame txnId unit = tried := by
      unfold Ledger.hand
      dsimp only
      rw [hsame, if_neg (Nat.lt_irrefl _)]
    rw [hledger]
    exact haccounts.of_eq rfl hsame rfl
  · have hledger : l.hand setup s frame txnId unit = { tried with waiting := tried.waiting ++ [id] } := by
      have hlt : s.responseQueue.length < s'.responseQueue.length := by
        change s.responseQueue.toList.length < s'.responseQueue.toList.length
        rw [hs', hgrown, List.length_append]
        exact Nat.lt_succ_self _
      unfold Ledger.hand
      dsimp only
      rw [← hs', if_pos hlt, hwaiting]
    have hunsent : tried.successes id = 0 ∧ tried.tries id ≤ 1 := by
      rw [htried]
      split
      next => exact ⟨hsuccesses, htries ▸ Nat.zero_le 1⟩
      next hwithin =>
        rw [Ledger.successes_attempt, Ledger.tries_attempt, hsuccesses, htries,
          hfails (Bool.eq_false_iff.mpr hwithin)]
        simp
    have hw : Waits setup s'.handed tried id
        ⟨frame, txnId, unit, 0, queuedAtUs, isTurnaroundDelay⟩ := by
      refine ⟨?_, hunsent.1, hunsent.2, Nat.zero_le _⟩
      rw [hs', trySendOrQueue_handed]
      exact hresponse
    rw [hledger]
    exact haccounts.enqueue hgrown hw (hwaiting ▸ hnew)

/-- The place that a response had is still free. -/
lemma exists_requeueResponse (s : ServerServices depth σ τ) (pending : PendingResponse)
    (h : s.responseQueue.toList.length < depth) :
    ∃ queue : HVec PendingResponse depth, queue.toList = s.responseQueue.toList ++ [pending] ∧
      s.requeueResponse pending = { s with responseQueue := queue } := by
  have hroom : (s.responseQueue.toList ++ [pending]).length ≤ depth := by
    rw [List.length_append]
    exact h
  have hpush : s.responseQueue.push pending = some ⟨s.responseQueue.toList ++ [pending], hroom⟩ :=
    HVec.extendFromSlice_of_le h
  refine ⟨⟨s.responseQueue.toList ++ [pending], hroom⟩, rfl, ?_⟩
  unfold requeueResponse
  rw [hpush]

/-- The retries of a response stay below their number, so counting them does not overflow. -/
lemma toNat_retryCount_succ (setup : ServerSetup σ τ) {retryCount : UInt8}
    (h : ¬retryCount ≥ setup.resilience.maxSendRetries) :
    (retryCount + 1).toNat = retryCount.toNat + 1 ∧
      retryCount.toNat + 1 ≤ setup.resilience.maxSendRetries.toNat := by
  have hlt : retryCount.toNat < setup.resilience.maxSendRetries.toNat :=
    Nat.not_le.mp fun hle => h (UInt8.le_iff_toNat_le.mpr hle)
  have hmax := setup.resilience.maxSendRetries.toNat_lt
  refine ⟨?_, hlt⟩
  rw [UInt8.toNat_add, UInt8.toNat_one]
  exact Nat.mod_eq_of_lt (by omega)

lemma Accounts.drain (count : Nat) (h : Accounts setup s l) :
    Accounts setup (drainResponses setup count s) (Ledger.drain setup count s l) := by
  induction count generalizing s l with
  | zero => exact h
  | succ count ih =>
    rw [drainResponses, Ledger.drain]
    cases hpop : s.responseQueue.popFront with
    | none => exact h
    | some popped =>
      obtain ⟨pending, queue⟩ := popped
      have hqueue := HVec.popFront_eq_some.mp hpop
      obtain ⟨id, rest, hwaiting, hrest, hw, hpopped⟩ := h.dequeue hqueue
      have hroom : queue.toList.length < depth := by
        have hle := s.responseQueue.length_le
        rw [hqueue, List.length_cons] at hle
        exact hle
      rw [hwaiting]
      dsimp only
      split
      -- the retries are used up
      · exact ih hpopped
      next hretries =>
        split
        -- it is not due
        · obtain ⟨queue', hqueue', hrequeue⟩ := exists_requeueResponse
            ({ s with responseQueue := queue }.tick) pending hroom
          rw [hrequeue]
          exact (hpopped.enqueue hqueue' hw hrest).of_eq rfl rfl rfl
        · obtain ⟨hsucc, hle⟩ := toNat_retryCount_succ setup hretries
          have hattempt : ∀ ok, Accounts setup
              { s with
                responseQueue := queue
                link := (s.link.send setup.transport pending.frame.toList).2 }
              ({ l with waiting := rest }.attempt pending.frame.toList id true ok) := by
            intro ok
            have htries := hw.tries
            exact hpopped.attempt hw.response hrest hw.unsent (by omega) rfl
          have hsame : ({ s with responseQueue := queue } : ServerServices depth σ τ).tick.link =
            s.link := rfl
          rw [hsame]
          rcases hsend : s.link.send setup.transport pending.frame.toList with ⟨sent, link⟩
          rw [hsend] at hattempt
          cases sent with
          | ok _ =>
            have hsent : Accounts setup
                ({ { s with responseQueue := queue }.tick with link := link } :
                  ServerServices depth σ τ).incrementServerMessageCount
                ({ l with waiting := rest }.attempt pending.frame.toList id true true) := by
              refine (hattempt true).of_eq ?_ (bookkeeping_count _).responseQueue
                (incrementServerMessageCount_handed _)
              rw [incrementServerMessageCount, (bookkeeping_count _).link]
            exact ih hsent
          | error e =>
            unfold onQueuedResponseRetryFailure
            obtain ⟨queue', hqueue', hrequeue⟩ := exists_requeueResponse
              ({ { s with responseQueue := queue }.tick with link := link }.tick)
              { pending with
                isTurnaroundDelay := false
                retryCount := pending.retryCount + 1
                queuedAtUs := ({ { s with responseQueue := queue }.tick with link := link } :
                  ServerServices depth σ τ).nowUs setup } hroom
            have hw' : Waits setup s.handed
                ({ l with waiting := rest }.attempt pending.frame.toList id true false) id
                { pending with
                  isTurnaroundDelay := false
                  retryCount := pending.retryCount + 1
                  queuedAtUs := ({ { s with responseQueue := queue }.tick with link := link } :
                    ServerServices depth σ τ).nowUs setup } := by
              refine ⟨hw.response, ?_, ?_, UInt8.le_iff_toNat_le.mpr (Nat.le_trans (Nat.le_of_eq hsucc) hle)⟩
              · rw [Ledger.successes_attempt, hw.unsent]
                simp
              · have htries := hw.tries
                rw [Ledger.tries_attempt, if_pos rfl, hsucc]
                omega
            dsimp only
            rw [hrequeue]
            exact ((hattempt false).enqueue hqueue' hw' hrest).of_eq rfl rfl rfl

lemma Accounts.step (h : Accounts setup s l) (hstep : LedgerStep setup (s, l) (s', l')) :
    Accounts setup s' l' := by
  cases hstep with
  | bookkeeping hb => exact h.of_eq (congrArg Link.sent hb.link) hb.responseQueue hb.handed
  | callbacks => exact h.of_eq rfl rfl rfl
  | wire hlink => exact h.past hlink
  | hand frame txnId unit => exact h.hand frame txnId unit

/-- The ledger of a run accounts for its last state. -/
lemma Tracked.accounts {cond : ServerServices depth σ τ → Prop} (h : Tracked setup cond s l) :
    Accounts setup s l :=
  h.invariant (P := Accounts setup) accounts_start (fun _ _ _ _ hstep h => h.step hstep)
    fun _ _ _ h => h.drain _

end Accounts

/-! ### Flushing the queue -/

/-- A flush uses the transport at most once for every response that waits. -/
lemma drainResponses_sent_le (count : Nat) (s : ServerServices depth σ τ) :
    (drainResponses setup count s).link.sent.length ≤ s.link.sent.length + count := by
  induction count generalizing s with
  | zero => exact Nat.le_refl _
  | succ count ih =>
    rw [drainResponses]
    cases s.responseQueue.popFront with
    | none => exact Nat.le_add_right _ _
    | some popped =>
      obtain ⟨pending, queue⟩ := popped
      have hrequeue : ∀ (s' : ServerServices depth σ τ) (pending' : PendingResponse),
          (s'.requeueResponse pending').link = s'.link := by
        intro s' pending'
        unfold requeueResponse
        split <;> rfl
      dsimp only
      split
      · exact Nat.le_succ_of_le (ih _)
      · split
        · rw [hrequeue]
          exact Nat.le_add_right _ _
        · split
          next link hsend =>
            refine Nat.le_trans (ih _) ?_
            rw [incrementServerMessageCount, (bookkeeping_count _).link]
            have hlink := congrArg (fun r => r.2.sent.length) hsend
            dsimp only at hlink ⊢
            rw [← hlink, Link.send_sent, List.length_append, List.length_singleton]
            change s.link.sent.length + 1 + count ≤ _
            omega
          next e link hsend =>
            unfold onQueuedResponseRetryFailure
            rw [hrequeue]
            have hlink := congrArg (fun r => r.2.sent.length) hsend
            dsimp only at hlink
            change link.sent.length ≤ _
            rw [← hlink, Link.send_sent, List.length_append, List.length_singleton]
            change s.link.sent.length + 1 ≤ _
            omega

/-- What a run makes of the responses: each frame given to the transport is recorded, each that
belongs to a response carries it, and no response is sent twice or tried more often than once and
`max_send_retries` times. -/
structure SentAtMostOnce (setup : ServerSetup σ τ) (s : ServerServices depth σ τ) (l : Ledger) :
    Prop where
  sent : l.attempts.map Attempt.frame = s.link.sent
  numbered : ∀ a ∈ l.attempts, ∀ id, a.id = some id →
    ∃ response, s.handed[id]? = some response ∧ a.frame = response.frame.toList
  successes : ∀ id, l.successes id ≤ 1
  tries : ∀ id, l.tries id ≤ 1 + setup.resilience.maxSendRetries.toNat

/-- In every run no response is sent twice or for ever: its ledger says so, the retries of the
responses that wait are counted without overflow, and a flush ends. -/
theorem responses_sentAtMostOnce (setup : ServerSetup σ τ) {app : σ} {transport : τ}
    {s : ServerServices depth σ τ}
    (h : Runs.Run (perform setup) (ServerServices.withQueueDepth depth app transport) s) :
    (∃ l, Tracked setup (fun _ => True) s l) ∧
    (∀ l, Tracked setup (fun _ => True) s l → SentAtMostOnce setup s l) ∧
    (∀ pending ∈ s.responseQueue.toList,
      pending.retryCount ≤ setup.resilience.maxSendRetries ∧
      (pending.retryCount < setup.resilience.maxSendRetries →
        (pending.retryCount + 1).toNat = pending.retryCount.toNat + 1)) ∧
    ∀ s' : ServerServices depth σ τ, (s'.drainResponseQueue setup).link.sent.length ≤
      s'.link.sent.length + s'.responseQueue.length := by
  have hrun : Runs.RunWhen (fun action _ => action = .drain → True) (perform setup)
      (ServerServices.withQueueDepth depth app transport) s :=
    Runs.RunWhen.mono h fun _ _ _ _ => trivial
  obtain ⟨l, hl⟩ := exists_tracked hrun
  refine ⟨⟨l, hl⟩, fun l hl => ?_, fun pending hpending => ?_, fun s' => ?_⟩
  · have haccounts := hl.accounts
    exact ⟨haccounts.sent, haccounts.numbered, haccounts.successes, haccounts.tries⟩
  · obtain ⟨id, -, hw⟩ := hl.accounts.waits.flip.exists_of_mem hpending
    refine ⟨hw.retries, fun hlt => (toNat_retryCount_succ setup ?_).1⟩
    exact UInt8.not_le.mpr hlt
  · exact drainResponses_sent_le _ s'

/-- A server that has answered a diagnostic echo. -/
def echoed : ServerServices 8 Unit (List UInt8) :=
  perform arrivingSetup .ingest (perform arrivingSetup .receive
    (ServerServices.withQueueDepth 8 () returnQueryDataFrame))

omit [Features] in
theorem responses_sentAtMostOnce_echoed :
    letI := Features.minimal
    (∃ l, Tracked arrivingSetup (fun _ => True) echoed l) ∧
    (∀ l, Tracked arrivingSetup (fun _ => True) echoed l → SentAtMostOnce arrivingSetup echoed l) ∧
    (∀ pending ∈ echoed.responseQueue.toList,
      pending.retryCount ≤ arrivingSetup.resilience.maxSendRetries ∧
      (pending.retryCount < arrivingSetup.resilience.maxSendRetries →
        (pending.retryCount + 1).toNat = pending.retryCount.toNat + 1)) ∧
    ∀ s' : ServerServices 8 Unit (List UInt8),
      (s'.drainResponseQueue arrivingSetup).link.sent.length ≤
        s'.link.sent.length + s'.responseQueue.length :=
  let _ := Features.minimal
  responses_sentAtMostOnce arrivingSetup
    (Runs.Run.trans (Runs.Run.single ServerAction.receive
      (ServerServices.withQueueDepth 8 () returnQueryDataFrame))
      (Runs.Run.single ServerAction.ingest _))

end ServerM

end ModbusRs
