import ModbusRs.Client.Timeouts

/-!
# What the sync client does to its requests

Whatever happens to a client is a sequence of moves on its book: the requests that await a
response, in any order, and the events so far. A property that every move preserves holds in every
run.
-/

namespace ModbusRs

open Outcome

/-- The requests that await a response, the events, and the number of requests made. -/
structure Book [Features] where
  pending : List ExpectedResponse
  events : List ClientEvent
  requested : Nat

/-- What `update_retries` makes of a request. -/
def ExpectedResponse.retried [Features] (response : ExpectedResponse) (now : UInt64) :
    ExpectedResponse :=
  { response with
    retriesLeft := satPred8 response.retriesLeft
    retryAttemptIndex := satSucc8 response.retryAttemptIndex
    sentTimestamp := now
    nextRetryTimestamp := none }

/-- The book of a client. -/
def ClientServices.book [Features] {n : Nat} {τ : Type} (s : ClientServices n τ) : Book :=
  ⟨s.expectedResponses.toList, s.events, s.requested⟩

namespace Book

variable [Features] {n : Nat} {τ : Type} {setup : ClientSetup τ}

/-- The report that a request may end with. -/
def reports (response : ExpectedResponse)
    (callback : Option (UnitIdOrSlaveAddr × ResponseCallback)) : List ClientEvent :=
  callback.toList.map fun (unit, callback) =>
    .reported response.serial response.txnId unit callback

/-- What can happen to a request. -/
inductive Move (setup : ClientSetup τ) : Book → Book → Prop
  | refused (b : Book) : Move setup b { b with requested := b.requested + 1 }
  | broadcast (b : Book) (adu : List UInt8) (now : UInt64) :
      Move setup b ⟨b.pending, b.events ++ [.sent b.requested adu now], b.requested + 1⟩
  | queued (b : Book) {response : ExpectedResponse} {pending : List ExpectedResponse}
      (hserial : response.serial = b.requested)
      (hretries : response.retriesLeft = setup.config.retryAttempts)
      (hindex : response.retryAttemptIndex = 0)
      (hnext : response.nextRetryTimestamp = none)
      (hpending : pending.Perm (response :: b.pending)) :
      Move setup b ⟨pending, b.events ++
        [.sent response.serial response.originalAdu.toList response.sentTimestamp],
        b.requested + 1⟩
  | removed (b : Book) {response : ExpectedResponse} {pending : List ExpectedResponse}
      (callback : Option (UnitIdOrSlaveAddr × ResponseCallback))
      (hpending : b.pending.Perm (response :: pending)) :
      Move setup b ⟨pending, b.events ++ reports response callback, b.requested⟩
  | scheduled (b : Book) {response : ExpectedResponse} {rest pending : List ExpectedResponse}
      {now : UInt64} (delayMs : UInt32) (hbefore : b.pending.Perm (response :: rest))
      (hnext : response.nextRetryTimestamp = none)
      (hnow : satAdd64 response.sentTimestamp setup.responseTimeoutMs < now)
      (hleft : response.retriesLeft ≠ 0)
      (hchosen : setup.config.Chooses (satSucc8 response.retryAttemptIndex) delayMs)
      (hafter : pending.Perm ({ response with
        nextRetryTimestamp := some (satAdd64 now delayMs.toUInt64) } :: rest)) :
      Move setup b
        ⟨pending, b.events ++ [.scheduled response.serial delayMs now], b.requested⟩
  | resent (b : Book) {response : ExpectedResponse} {rest pending : List ExpectedResponse}
      {now retryAt : UInt64} (hbefore : b.pending.Perm (response :: rest))
      (hnext : response.nextRetryTimestamp = some retryAt) (hnow : retryAt ≤ now)
      (hafter : pending.Perm (response.retried now :: rest)) :
      Move setup b ⟨pending, b.events ++
        [.sent response.serial response.originalAdu.toList now], b.requested⟩

/-- Sequences of moves. -/
abbrev Moves (setup : ClientSetup τ) : Book → Book → Prop :=
  Relation.ReflTransGen (Move setup)

lemma Moves.refl (b : Book) : Moves setup b b := Relation.ReflTransGen.refl

lemma Move.moves {b b' : Book} (h : Move setup b b') : Moves setup b b' :=
  Relation.ReflTransGen.single h

lemma Moves.invariant {P : Book → Prop} {b b' : Book} (h : Moves setup b b')
    (hmove : ∀ b b', Move setup b b' → P b → P b') (hb : P b) : P b' := by
  induction h with
  | refl => exact hb
  | tail _ hlast ih => exact hmove _ _ hlast ih

/-! ### Request numbers -/

/-- The numbers of the requests that await a response. -/
def serials (b : Book) : List Nat := b.pending.map ExpectedResponse.serial

variable {b b' : Book}

lemma serials_perm {response : ExpectedResponse} {rest : List ExpectedResponse}
    (h : b.pending.Perm (response :: rest)) :
    b.serials.Perm (response.serial :: rest.map ExpectedResponse.serial) :=
  h.map ExpectedResponse.serial

/-- The numbers after a move: those before it, but for a request that is new or has ended. -/
lemma Move.serials_cases (h : Move setup b b') :
    b'.serials.Perm b.serials ∧ b.requested ≤ b'.requested ∨
      b'.serials.Perm (b.requested :: b.serials) ∧ b'.requested = b.requested + 1 ∨
      b'.requested = b.requested ∧ ∃ serial, b.serials.Perm (serial :: b'.serials) := by
  cases h with
  | refused => exact .inl ⟨.refl _, Nat.le_succ _⟩
  | broadcast => exact .inl ⟨.refl _, Nat.le_succ _⟩
  | queued hserial hretries hindex hnext hpending =>
    have hperm := hpending.map ExpectedResponse.serial
    rw [List.map_cons, hserial] at hperm
    exact .inr (.inl ⟨hperm, rfl⟩)
  | removed callback hpending => exact .inr (.inr ⟨rfl, _, serials_perm hpending⟩)
  | scheduled delayMs hbefore hnext hnow hleft hchosen hafter =>
    exact .inl ⟨(hafter.map ExpectedResponse.serial).trans (serials_perm hbefore).symm, le_rfl⟩
  | resent hbefore hnext hnow hafter =>
    exact .inl ⟨(hafter.map ExpectedResponse.serial).trans (serials_perm hbefore).symm, le_rfl⟩

/-- A move adds events about requests that await a response, or about a new one. -/
lemma Move.exists_events (h : Move setup b b') :
    b.requested ≤ b'.requested ∧ ∃ later, b'.events = b.events ++ later ∧ ∀ event ∈ later,
      event.serial ∈ b.serials ∨ event.serial = b.requested ∧ b.requested < b'.requested := by
  cases h with
  | refused => exact ⟨Nat.le_succ _, [], (List.append_nil _).symm, fun _ hevent => nomatch hevent⟩
  | broadcast adu now =>
    refine ⟨Nat.le_succ _, _, rfl, fun event hevent => ?_⟩
    rw [List.mem_singleton] at hevent
    exact .inr ⟨congrArg ClientEvent.serial hevent, Nat.lt_succ_self _⟩
  | queued hserial hretries hindex hnext hpending =>
    refine ⟨Nat.le_succ _, _, rfl, fun event hevent => ?_⟩
    rw [List.mem_singleton] at hevent
    exact .inr ⟨(congrArg ClientEvent.serial hevent).trans hserial, Nat.lt_succ_self _⟩
  | removed callback hpending =>
    refine ⟨le_rfl, _, rfl, fun event hevent => .inl ?_⟩
    obtain ⟨report, -, rfl⟩ := List.mem_map.mp hevent
    exact (serials_perm hpending).mem_iff.mpr List.mem_cons_self
  | scheduled delayMs hbefore hnext hnow hleft hchosen hafter =>
    refine ⟨le_rfl, _, rfl, fun event hevent => .inl ?_⟩
    rw [List.mem_singleton] at hevent
    rw [hevent]
    exact (serials_perm hbefore).mem_iff.mpr List.mem_cons_self
  | resent hbefore hnext hnow hafter =>
    refine ⟨le_rfl, _, rfl, fun event hevent => .inl ?_⟩
    rw [List.mem_singleton] at hevent
    rw [hevent]
    exact (serials_perm hbefore).mem_iff.mpr List.mem_cons_self

/-- The numbers of the requests that await a response are distinct and have been given out. -/
structure Numbered (b : Book) : Prop where
  nodup : b.serials.Nodup
  lt_requested : ∀ serial ∈ b.serials, serial < b.requested

lemma Move.numbered (h : Move setup b b') (hb : b.Numbered) : b'.Numbered := by
  rcases h.serials_cases with ⟨hperm, hle⟩ | ⟨hperm, heq⟩ | ⟨heq, serial, hperm⟩
  · refine ⟨hperm.nodup_iff.mpr hb.nodup, fun serial hserial => ?_⟩
    exact Nat.lt_of_lt_of_le (hb.lt_requested serial (hperm.mem_iff.mp hserial)) hle
  · have hfresh : b.requested ∉ b.serials := fun hmem =>
      Nat.lt_irrefl _ (hb.lt_requested b.requested hmem)
    refine ⟨hperm.nodup_iff.mpr (List.nodup_cons.mpr ⟨hfresh, hb.nodup⟩), fun serial hserial => ?_⟩
    rw [heq]
    rcases List.mem_cons.mp (hperm.mem_iff.mp hserial) with rfl | hserial
    · exact Nat.lt_succ_self _
    · exact Nat.lt_succ_of_lt (hb.lt_requested serial hserial)
  · refine ⟨(List.nodup_cons.mp (hperm.nodup_iff.mp hb.nodup)).2, fun serial hserial => ?_⟩
    rw [heq]
    exact hb.lt_requested serial (hperm.mem_iff.mpr (List.mem_cons_of_mem _ hserial))

/-- Nothing will happen to the request any more. -/
def Over (serial : Nat) (b : Book) : Prop := serial ∉ b.serials ∧ serial < b.requested

lemma Move.over {serial : Nat} (h : Move setup b b') (hb : b.Over serial) :
    b'.Over serial ∧ ∃ later, b'.events = b.events ++ later ∧
      ∀ event ∈ later, event.serial ≠ serial := by
  obtain ⟨hmem, hlt⟩ := hb
  obtain ⟨hle, later, hlater, hconcerns⟩ := h.exists_events
  refine ⟨⟨fun hmem' => ?_, Nat.lt_of_lt_of_le hlt hle⟩, later, hlater, ?_⟩
  · rcases h.serials_cases with ⟨hperm, -⟩ | ⟨hperm, -⟩ | ⟨-, ended, hperm⟩
    · exact hmem (hperm.mem_iff.mp hmem')
    · rcases List.mem_cons.mp (hperm.mem_iff.mp hmem') with rfl | hmem'
      · exact Nat.lt_irrefl _ hlt
      · exact hmem hmem'
    · exact hmem (hperm.mem_iff.mpr (List.mem_cons_of_mem _ hmem'))
  · rintro event hevent rfl
    rcases hconcerns event hevent with hserial | ⟨hserial, -⟩
    · exact hmem hserial
    · exact Nat.ne_of_lt hlt hserial

end Book

open Book

/-! ### Ends of requests -/

section Client

variable [Features] {n : Nat} {τ : Type} {setup : ClientSetup τ} {s : ClientServices n τ}

namespace ClientServices

lemma moves_failAll (error : MbusError) (front responses : List ExpectedResponse) :
    Moves setup ⟨front ++ responses, s.events, s.requested⟩
      ⟨front, (s.failAll error responses).events, (s.failAll error responses).requested⟩ := by
  induction responses generalizing front with
  | nil =>
    rw [List.append_nil]
    exact .refl _
  | cons response rest ih =>
    have hrest := ih (front ++ [response])
    rw [List.append_assoc, List.singleton_append] at hrest
    refine hrest.trans (Move.moves ?_)
    have hlast : (front ++ [response]).Perm (response :: front) :=
      List.perm_append_singleton response front
    exact .removed _ (some (.fromU8 response.unitIdOrSlaveAddr, .requestFailed error)) hlast

lemma moves_failAllPendingRequests (error : MbusError) :
    Moves setup s.book (s.failAllPendingRequests error).book :=
  moves_failAll error [] s.expectedResponses.toList

end ClientServices

namespace TimeoutScan

variable {now : UInt64} {scan scan' : TimeoutScan n τ}

/-- The entry at an index and the others, which stay when the entry is replaced. -/
lemma exists_others {xs : List ExpectedResponse} {i : Nat} {x : ExpectedResponse}
    (h : xs[i]? = some x) :
    ∃ rest, xs.Perm (x :: rest) ∧ ∀ y, (xs.set i y).Perm (y :: rest) := by
  obtain ⟨hlt, hget⟩ := List.getElem?_eq_some_iff.mp h
  refine ⟨xs.eraseIdx i, ?_, fun y => List.set_perm_cons_eraseIdx hlt y⟩
  have hself := List.set_perm_cons_eraseIdx hlt xs[i]
  rwa [List.set_getElem_self, hget] at hself

lemma Round.moves (h : Round setup now scan scan') :
    Moves setup scan.client.book scan'.client.book := by
  cases h with
  | notDue | waiting => exact .refl _
  | resent hentry hretry hnow hsend =>
    obtain rfl := congrArg Prod.snd hsend
    obtain ⟨rest, hbefore, hafter⟩ := exists_others hentry
    exact Move.moves (.resent _ hbefore hretry hnow (hafter _))
  | unsent hentry hretry hnow hsend hremove =>
    obtain rfl := congrArg Prod.snd hsend
    rename_i entry retryAt e rest
    -- the transmission that failed counts, and the request ends with it
    have hsent : Move setup scan.client.book _ := .resent scan.client.book
      (HVec.swapRemove_perm hremove).symm hretry hnow (.refl (entry.retried now :: rest.toList))
    refine hsent.moves.trans (Move.moves (?_ : Move setup _ ⟨rest.toList, _ ++ reports
      (entry.retried now) (some (.fromU8 entry.unitIdOrSlaveAddr, .requestFailed .sendFailed)), _⟩))
    exact .removed _ _ (.refl _)
  | exhausted hentry hretry hnow hleft hremove =>
    exact Move.moves (.removed _ (some (.fromU8 _, .requestFailed .noRetriesLeft))
      (HVec.swapRemove_perm hremove).symm)
  | scheduled drawn hentry hretry hnow hleft hchosen =>
    obtain ⟨rest, hbefore, hafter⟩ := exists_others hentry
    exact Move.moves (.scheduled _ _ hbefore hretry hnow hleft hchosen (hafter _))
  | scheduledNow drawn hentry hretry hnow hleft hchosen =>
    obtain ⟨rest, hbefore, hafter⟩ := exists_others hentry
    exact Move.moves (.scheduled _ 0 hbefore hretry hnow hleft hchosen (hafter _))

end TimeoutScan

namespace ClientServices

lemma moves_scanTimeouts (now : UInt64) : Moves setup s.book (s.scanTimeouts setup now).book := by
  let start : TimeoutScan n τ := ⟨s, 0, u64Max⟩
  have hround (scan scan' : TimeoutScan n τ)
      (hbody : (TimeoutScan.loop setup now).body scan = some scan')
      (hscan : Moves setup s.book scan.client.book) : Moves setup s.book scan'.client.book :=
    hscan.trans (TimeoutScan.round_eq_some hbody).moves
  have hstart : Moves setup s.book start.client.book := .refl _
  exact (Loop.finish_invariant hround hstart).1

lemma moves_handleTimeouts (now : UInt64) :
    Moves setup s.book (s.handleTimeouts setup now).book := by
  unfold handleTimeouts
  split
  · exact .refl _
  · split
    · split
      · exact .refl _
      · exact moves_scanTimeouts now
    · exact moves_scanTimeouts now

end ClientServices

end Client

/-! ### Routines -/

namespace ClientM

open ClientServices

/-- The relation allows what the client does to its requests without sending: an answer takes one
off the list, a lost connection all of them. -/
structure Allows [Features] {n : Nat} {τ : Type}
    (R : ClientServices n τ → ClientServices n τ → Prop) : Prop where
  refl : ∀ s, R s s
  trans : ∀ a b c, R a b → R b c → R a c
  buffers : ∀ s link rxedFrame, link.sent = s.link.sent → R s { s with link, rxedFrame }
  answered : ∀ s i expected rest callback, s.expectedResponses.swapRemove i = some (expected, rest) →
    R s { s with expectedResponses := rest, events := s.events ++ reports expected callback }
  lost : ∀ s error, R s (s.failAllPendingRequests error)

variable [Features] {n : Nat} {τ : Type} {setup : ClientSetup τ}

section Allows

variable {R : ClientServices n τ → ClientServices n τ → Prop} (h : Allows R)
include h

lemma Allows.disconnect (s : ClientServices n τ) : R s (s.disconnect setup) :=
  h.trans _ _ _ (h.lost s _) (h.buffers _ _ _ rfl)

lemma Allows.handleRecvError (s : ClientServices n τ) (recvError : MbusError) :
    R s (s.handleRecvError setup recvError) := by
  unfold ClientServices.handleRecvError
  split
  · exact h.disconnect s
  · exact h.refl s

lemma Allows.appendToRxedFrame (s : ClientServices n τ) (frame : List UInt8) :
    R s (s.appendToRxedFrame frame) := by
  unfold ClientServices.appendToRxedFrame
  split <;> exact h.buffers s _ _ rfl

/-- A response takes its request off the list and reports it, unless its handler stays silent. -/
lemma Allows.dispatchResponse (message : ModbusMessage) :
    (dispatchResponse setup message : ClientM n τ Unit).Within R := by
  intro s
  rw [ClientM.dispatchResponse, EffM.run_gets_bind]
  cases matchIndex setup s message with
  | none => exact h.refl s
  | some i =>
    rw [EffM.run_gets_bind]
    cases hremove : s.expectedResponses.swapRemove i with
    | none => exact h.refl s
    | some removed =>
      obtain ⟨expected, rest⟩ := removed
      dsimp only
      rw [EffM.run_modify_bind, dispatchExpected]
      have hreport (callback : ResponseCallback) :=
        h.answered s i expected rest (some (message.unitIdOrSlaveAddr, callback)) hremove
      have hsilent := h.answered s i expected rest none hremove
      rw [reports, Option.toList_none, List.map_nil, List.append_nil] at hsilent
      cases message.pdu.errorCode with
      | some exceptionCode => exact hreport _
      | none =>
        cases expected.handler.run expected.operationMeta message.pdu with
        | ok callback =>
          cases callback with
          | none => exact hsilent
          | some callback => exact hreport callback
        | err e => exact nomatch e
        | panic => exact hsilent

lemma Allows.reframe (message : ModbusMessage) :
    (reframe setup message : ClientM n τ Unit).Within R := by
  unfold ClientM.reframe
  split
  · exact h.dispatchResponse _
  · exact (EffM.within_lift h.refl _).bind h.trans fun _ => h.dispatchResponse _
  · exact EffM.within_pure h.refl ()

lemma Allows.ingestFrame : (ingestFrame setup : ClientM n τ Nat).Within R := by
  refine (EffM.within_gets h.refl _).bind h.trans fun rxedFrame => ?_
  refine (EffM.within_lift h.refl _).bind h.trans fun expectedLength => ?_
  refine (EffM.within_lift h.refl _).bind h.trans fun frame => ?_
  refine (EffM.within_lift h.refl _).bind h.trans fun message => ?_
  exact (h.reframe message).bind h.trans fun _ => EffM.within_pure h.refl _

lemma Allows.processFrames (rounds : Nat) :
    (processFrames setup rounds : ClientM n τ Unit).Within R := by
  induction rounds with
  | zero => exact EffM.within_pure h.refl ()
  | succ rounds ih =>
    refine (EffM.within_gets h.refl _).bind h.trans fun rxedFrame => ?_
    split
    · exact EffM.within_pure h.refl ()
    · refine h.ingestFrame.handle h.trans (fun consumed => ?_) (fun error => ?_)
      · exact (EffM.within_modify fun s => h.buffers s _ _ rfl).bind h.trans fun _ => ih
      · split
        · exact EffM.within_pure h.refl ()
        · exact (EffM.within_modify fun s => h.buffers s _ _ rfl).bind h.trans fun _ => ih

lemma Allows.receive : (receive setup : ClientM n τ Unit).Within R := by
  intro s
  rw [ClientM.receive, EffM.run_gets_bind, EffM.run_modify_bind]
  refine h.trans _ _ _ (h.buffers s (s.link.recv setup.transport).2 s.rxedFrame rfl) ?_
  cases (s.link.recv setup.transport).1 with
  | ok frame =>
    refine (EffM.within_modify fun s => h.appendToRxedFrame s _).bind h.trans (fun _ => ?_) _
    exact (EffM.within_gets h.refl _).bind h.trans fun _ => h.processFrames _
  | error recvError => exact h.handleRecvError _ recvError

lemma Allows.connect : (connect setup : ClientM n τ Unit).Within R := by
  intro s
  rw [ClientM.connect, EffM.run_gets_bind, EffM.run_modify_bind]
  exact h.buffers s (s.link.connect setup.transport).2 s.rxedFrame rfl

/-- An action that neither makes a request nor looks at the clock. -/
lemma Allows.perform {action : SyncClientAction τ} (s : ClientServices n τ)
    (hsubmit : ∀ call txnId unit now, action ≠ .submit call txnId unit now)
    (hpoll : ∀ now, action ≠ .poll now) : R s (perform setup action s) := by
  cases action with
  | environment transport => exact h.buffers s _ _ rfl
  | submit call txnId unit now => exact absurd rfl (hsubmit call txnId unit now)
  | poll now => exact absurd rfl (hpoll now)
  | connect => exact h.connect s
  | disconnect => exact h.disconnect s
  | reconnect =>
    exact ((EffM.within_modify h.disconnect).bind h.trans fun _ => h.connect) s

/-- A poll receives, and goes on to the timeouts unless that panics. -/
lemma Allows.poll (now : UInt64) (hscan : ∀ s, R s (s.handleTimeouts setup now)) :
    (poll setup now : ClientM n τ Unit).Within R :=
  h.receive.bind h.trans fun _ => EffM.within_modify hscan

end Allows

/-- Moves are allowed. -/
lemma allows_moves : Allows (fun s s' : ClientServices n τ => Moves setup s.book s'.book) where
  refl s := .refl s.book
  trans _ _ _ := Relation.ReflTransGen.trans
  buffers s _ _ _ := .refl s.book
  answered s _ _ _ callback hremove :=
    (Move.removed s.book callback (HVec.swapRemove_perm hremove).symm).moves
  lost _ error := moves_failAllPendingRequests error

/-- What a request adds to the book. -/
lemma Submission.move {call : ClientCall} {txnId : UInt16} {unit : UnitIdOrSlaveAddr}
    {now : UInt64} {s s' : ClientServices n τ} {result : Fallible Unit}
    (h : Submission setup call txnId unit now s result s') : Move setup s.book s'.book := by
  cases h with
  | refused => exact .refused s.book
  | broadcast => exact .broadcast s.book _ now
  | @queued frame _ hunit hframe hresponses =>
    have hpending := List.perm_append_singleton
      (expectation setup s.requested call txnId unit frame now) s.expectedResponses.toList
    rw [← hresponses] at hpending
    exact .queued s.book rfl rfl rfl rfl hpending

/-- Whatever happens to a client is a sequence of moves. -/
theorem perform_moves (action : SyncClientAction τ) (s : ClientServices n τ) :
    Moves setup s.book (perform setup action s).book := by
  cases action with
  | submit call txnId unit now => exact (submission_submit setup call txnId unit now s).move.moves
  | poll now => exact allows_moves.poll now (fun s => moves_handleTimeouts now) s
  | _ => exact allows_moves.perform s (fun _ _ _ _ h => nomatch h) (fun _ h => nomatch h)

/-! ### Runs -/

/-- What every move preserves holds along every run. -/
theorem run_invariant {P : Book → Prop} {s s' : ClientServices n τ}
    (h : Runs.Run (perform setup) s s') (hmove : ∀ b b', Move setup b b' → P b → P b')
    (hs : P s.book) : P s'.book := by
  refine h.invariant (P := fun s => P s.book) (fun action s hs => ?_) hs
  exact Moves.invariant (perform_moves action s) hmove hs

lemma new_book {link : Link τ} {s : ClientServices n τ}
    (h : ClientServices.new setup link = .ok s) : s.book = ⟨[], [], 0⟩ := by
  unfold ClientServices.new at h
  split at h
  · cases h
  · cases h
    rfl

/-- What holds of the empty book and is preserved by every move holds in every reachable state. -/
theorem Reachable.invariant {P : Book → Prop} {s : ClientServices n τ} (hs : Reachable setup s)
    (hmove : ∀ b b', Move setup b b' → P b → P b') (hempty : P ⟨[], [], 0⟩) : P s.book := by
  obtain ⟨start, ⟨link, hnew⟩, hrun⟩ := hs
  refine run_invariant hrun hmove ?_
  rwa [new_book hnew]

lemma Reachable.numbered {s : ClientServices n τ} (hs : Reachable setup s) : s.book.Numbered :=
  hs.invariant (fun _ _ hmove => hmove.numbered) ⟨List.nodup_nil, nofun⟩

end ClientM

end ModbusRs
