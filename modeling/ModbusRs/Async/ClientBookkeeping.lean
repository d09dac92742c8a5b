import ModbusRs.Async.ClientIsolation
import Mathlib.Data.List.Count
import Mathlib.Data.Nat.ModEq

/-!
# Bookkeeping of the async client

The in-flight counter mirrors the map of pending requests, the id of a new request is free, every
pending request was sent on the open transport, and every accepted request is held in one place
until its channel is completed. A run keeps this as long as it stays clear of the steps that
break it: a reconnect over pending requests, an id that comes round again, a frame that is
resolved by the wrong request, and an end of the task that forgets requests.
-/

namespace ModbusRs

open Outcome

/-- The response channel of a command. -/
def TaskCommand.channel : TaskCommand → Option Nat
  | .request _ respTx _ _ => some respTx
  | _ => none

/-- The register values of a request fit into the buffer that their bytes are collected in. -/
def ClientRequestBody.Encodable [Features] : ClientRequestBody → Prop
  | .readWriteMultipleRegisters _ _ _ writeValues => 2 * writeValues.length ≤ maxAduFrameLen
  | _ => True

/-- The id that is given out after `n` others. -/
def idOf (n : Nat) : UInt16 := UInt16.ofNat (n % 65535 + 1)

namespace ClientTask

section Held

variable {σ τ : Type} (s : ClientTask σ τ)

/-- The channels of requests that the task holds: pending, in the backlog, or not yet received. -/
def held : List Nat :=
  s.pending.entries.map (·.2.respTx) ++ s.queued.filterMap (·.channel) ++
    s.cmdRx.filterMap (·.channel)

end Held

variable [Features] {σ τ : Type} (setup : ClientTaskSetup σ τ)

/-- The laws of the bookkeeping. A request is accepted by its number, so that the channels that
are completed and those that are still held are all numbers so far, each once. -/
structure BooksKept (s : ClientTask σ τ) : Prop where
  counted : s.inFlight = s.pending.len
  limited : s.pending.len ≤ setup.pipeline
  current : ∀ e ∈ s.pending.entries, ∃ t, s.transport = some t ∧ e.2.connection = t.connection
  settled : (s.completions.map (·.respTx) ++ s.held).Perm (List.range s.accepted)
  ended : s.status = .running ∨ s.held = []
  answered : ∀ c ∈ s.completions, ∀ id frame, c.answeredBy = some (id, frame) →
    setup.transport.transportType.isTcpType = true → frameTxnId frame = some id

omit [Features] in
/-- No pending request was given its id a multiple of 65535 ids ago. -/
def Unused (s : ClientTask σ τ) : Prop := ∀ e ∈ s.pending.entries, ¬65535 ∣ s.issued - e.2.serial

/-- The command that the action takes from the channel, and those behind it. -/
def handled (action : ClientAction) (s : ClientTask σ τ) :
    Option (TaskCommand × List TaskCommand) :=
  match action, s.phase, s.cmdRx with
  | .command, .select, cmd :: rest => some (cmd, rest)
  | .nextCommand, .ready count, cmd :: rest =>
    if s.inFlight < setup.pipeline ∧ count < 16 then some (cmd, rest) else none
  | _, _, _ => none

/-- The command that the action dispatches. -/
def dispatched (action : ClientAction) (s : ClientTask σ τ) : Option TaskCommand :=
  if s.inFlight < setup.pipeline then
    match action, s.phase, s.queued with
    | .drainBacklog, .backlog, cmd :: _ => some cmd
    | action, _, _ => (s.handled setup action).map (·.1)
  else none

/-- The frame that the action receives. -/
def received (action : ClientAction) (s : ClientTask σ τ) : Option (List UInt8) :=
  match action, s.phase, s.transport with
  | .receive, .select, some t =>
    match (t.link.recv setup.transport).1 with
    | .ok frame => if 0 < s.inFlight then some frame.toList else none
    | .error _ => none
  | _, _, _ => none

/-- A frame that finds its own request, or on a serial line one that the task survives. -/
def Harmless (frame : List UInt8) (s : ClientTask σ τ) : Prop :=
  match setup.transport.transportType.isTcpType with
  | true => FindsOwn setup s frame
  | false => s.transport = none ∨
    match decodeResponse frame setup.transport.transportType with
    | .panic => False
    | .err _ => True
    | .ok (txnId, _, inner) => ∀ key entry, s.resolveKey txnId = some key →
      s.pending.get key = some entry → LongEnough inner entry.request.body

/-- Steps that keep the books. -/
structure KeepsBooks (action : ClientAction) (s : ClientTask σ τ) : Prop where
  unused : ∀ params respTx retryAttempts retryDelayMs,
    s.dispatched setup action = some (.request params respTx retryAttempts retryDelayMs) →
      params.body.Encodable ∧ s.Unused
  connects : ∀ rest, s.handled setup action = some (.connect, rest) → s.pending.entries = []
  shutsDown : ∀ rest, s.handled setup action = some (.shutdown, rest) →
    rest.filterMap (·.channel) = []
  returns : action = .command → s.phase = .select → s.cmdRx = [] → s.handlesDropped = true →
    s.held = []
  receives : ∀ frame, s.received setup action = some frame → Harmless setup frame s

end ClientTask

/-! ### Ids -/

lemma idOf_toNat (n : Nat) : (idOf n).toNat = n % 65535 + 1 := by
  have hlt := Nat.mod_lt n (show 0 < 65535 by decide)
  rw [idOf, UInt16.toNat_ofNat', Nat.mod_eq_of_lt (show n % 65535 + 1 < 2 ^ 16 by omega)]

lemma idOf_succ (n : Nat) :
    (if idOf n + 1 = 0 then 1 else idOf n + 1) = idOf (n + 1) := by
  have hlt := Nat.mod_lt n (show 0 < 65535 by decide)
  have hsum : (idOf n + 1).toNat = (n % 65535 + 2) % 65536 := by
    rw [UInt16.toNat_add, idOf_toNat]
    rfl
  rw [← UInt16.toNat_inj, idOf_toNat]
  split
  · rename_i hzero
    rw [hzero] at hsum
    have hsum : 0 = (n % 65535 + 2) % 65536 := hsum
    change 1 = _
    omega
  · rename_i hne
    have hne : (idOf n + 1).toNat ≠ 0 := fun h => hne (UInt16.toNat_inj.mp h)
    rw [hsum] at hne ⊢
    omega

/-- An id comes round again after a multiple of 65535 others. -/
lemma idOf_eq_iff {m n : Nat} (h : m ≤ n) : idOf m = idOf n ↔ 65535 ∣ n - m := by
  rw [← UInt16.toNat_inj, idOf_toNat, idOf_toNat, Nat.add_right_cancel_iff,
    ← Nat.modEq_iff_dvd' h, Nat.ModEq]

/-! ### Encoding -/

section Encoding

variable [Features]

/-- Only register values that do not fit panic the encoder. -/
lemma ClientRequestBody.toPdu_ne_panic {body : ClientRequestBody} (h : body.Encodable) :
    body.toPdu ≠ .panic := by
  cases body with
  | readWriteMultipleRegisters readAddress readQuantity writeAddress writeValues =>
    obtain ⟨pairs, hpairs, _⟩ := collectBePairs_eq_ok h
    exact bind_ne_panic (by rw [hpairs]; nofun) fun _ _ => lift_ne_panic _
  | writeMultipleRegisters address values =>
    refine guardErr_bind_ne_panic.mpr fun hquantity => ?_
    have hlen : values.toList.length ≤ 252 := values.length_le
    have hmax := le_maxAduFrameLen
    have hle : (UInt16.ofNat values.toList.length).toNat ≤ 123 := (outside_eq_false.mp hquantity).2
    rw [UInt16.toNat_ofNat'] at hle
    obtain ⟨pairs, hpairs, _⟩ := collectBePairs_eq_ok (show 2 * values.toList.length ≤ _ by omega)
    exact bind_ne_panic (by rw [hpairs]; nofun) fun _ _ => lift_ne_panic _
  | writeMultipleCoils address coils =>
    refine guardErr_bind_ne_panic.mpr fun hquantity => ?_
    have hle : coils.quantity.toNat ≤ 1968 := (outside_eq_false.mp hquantity).2
    have hfits : (coils.quantity.toNat + 7) / 8 ≤ coils.values.toList.length := by
      rw [Vector.length_toList]
      change _ ≤ 250
      omega
    rw [slice_of_le (Nat.zero_le _) hfits, ok_bind]
    exact lift_ne_panic _
  | readMultipleCoils | readDiscreteInputs | readHoldingRegisters | readInputRegisters =>
    exact guardErr_bind_ne_panic.mpr fun _ => lift_ne_panic _
  | readFileRecord | writeFileRecord => exact lift_bind_ne_panic.mpr fun _ _ => by simp
  | _ => simp [toPdu]

lemma encodeRequest_ne_panic {request : ClientRequest} (h : request.body.Encodable)
    (txnId : UInt16) (transportType : TransportType) :
    encodeRequest txnId request transportType ≠ .panic := by
  rw [encodeRequest]
  exact bind_ne_panic (ClientRequestBody.toPdu_ne_panic h) fun _ _ => lift_ne_panic _

end Encoding

/-! ### The map of pending requests -/

namespace PendingMap

variable {m : PendingMap} {key : UInt16}

/-- A request under a free key is added to the others. -/
lemma insert_perm (order : HashOrder) (h : key ∉ m.entries.map (·.1)) (entry : PendingEntry) :
    (m.insert order key entry).entries.Perm ((key, entry) :: m.entries) := by
  rw [insert, dif_neg h]
  exact order.place_perm _ _

lemma perm_remove {entry : PendingEntry} (h : m.get key = some entry) :
    m.entries.Perm ((key, entry) :: (m.remove key).entries) := by
  have hnodup : m.entries.Nodup := List.Nodup.of_map _ m.nodup
  have hperm := List.perm_cons_erase (get_eq_some.mp h)
  rw [hnodup.erase_eq_filter] at hperm
  rw [remove_entries h]
  refine hperm.trans (List.Perm.of_eq (congrArg _ (List.filter_congr fun e _ => ?_)))
  rw [Bool.eq_iff_iff, bne_iff_ne, decide_eq_true_iff]

end PendingMap

/-! ### What is held -/

namespace ClientTask

section Held

variable {σ τ : Type} {s : ClientTask σ τ}

lemma count_held (s : ClientTask σ τ) (n : Nat) :
    s.held.count n = (s.pending.entries.map (·.2.respTx)).count n +
      (s.queued.filterMap (·.channel)).count n + (s.cmdRx.filterMap (·.channel)).count n := by
  rw [held, List.count_append, List.count_append]

/-- Sorting and splitting keep every channel. -/
lemma count_sorted (m : PendingMap) (n : Nat) :
    ((m.sorted.filter (·.2.retryAttempts > 0)).map (·.2.respTx)).count n +
      ((m.sorted.reverse.filter (·.2.retryAttempts == 0)).map (·.2.respTx)).count n =
      (m.entries.map (·.2.respTx)).count n := by
  have hsplit := List.filter_append_perm
    (fun e : UInt16 × PendingEntry => decide (e.2.retryAttempts > 0)) m.sorted
  have hzero : m.sorted.filter (fun e => !decide (e.2.retryAttempts > 0)) =
      m.sorted.filter (·.2.retryAttempts == 0) := by
    refine List.filter_congr fun e _ => ?_
    rw [Bool.eq_iff_iff]
    simp [UInt8.not_lt, UInt8.le_zero_iff]
  rw [hzero] at hsplit
  have hcount := ((hsplit.trans (List.mergeSort_perm _ _)).map (·.2.respTx)).count_eq n
  rw [List.map_append, List.count_append] at hcount
  rw [List.filter_reverse, List.map_reverse, List.count_reverse]
  exact hcount

lemma filterMap_channel_again (l : List (UInt16 × PendingEntry)) :
    (l.map fun e => PendingEntry.again e.2).filterMap (·.channel) = l.map (·.2.respTx) := by
  rw [List.filterMap_map]
  exact congrFun List.filterMap_eq_map' l

lemma map_closed (l : List (UInt16 × PendingEntry)) :
    (l.map fun e => closed e.2.respTx).map (·.respTx) = l.map (·.2.respTx) := by
  rw [List.map_map]
  rfl

lemma map_closed_channels (l : List TaskCommand) :
    (l.filterMap fun cmd => cmd.channel.map closed).map (·.respTx) =
      l.filterMap (·.channel) := by
  rw [List.map_filterMap]
  refine List.filterMap_congr fun cmd _ => ?_
  cases cmd <;> rfl

lemma drainAll_completions (s : ClientTask σ τ) :
    s.drainAll.completions = s.completions ++ (s.pending.entries.map (fun e => closed e.2.respTx) ++
      s.queued.filterMap fun cmd => cmd.channel.map closed) := by
  rw [← List.append_assoc]
  refine congrArg (_ ++ ·) (List.filterMap_congr fun cmd _ => ?_)
  cases cmd <;> rfl

end Held

variable [Features] {σ τ : Type} {setup : ClientTaskSetup σ τ} {s : ClientTask σ τ}

/-- What holds between two operations of the task, with the channels of `hand` taken out of the
queues and not completed yet. -/
structure Books (setup : ClientTaskSetup σ τ) (hand : List Nat) (s : ClientTask σ τ) : Prop where
  counted : s.inFlight = s.pending.len
  limited : s.inFlight ≤ setup.pipeline
  keyed : ∀ e ∈ s.pending.entries, e.1 = idOf e.2.serial ∧ e.2.serial < s.issued
  next : s.nextTxnId = idOf s.issued
  current : ∀ e ∈ s.pending.entries, ∃ t, s.transport = some t ∧ e.2.connection = t.connection
  settled : ∀ n, (s.completions.map (·.respTx)).count n + hand.count n + s.held.count n =
    (List.range s.accepted).count n
  answered : ∀ c ∈ s.completions, ∀ id frame, c.answeredBy = some (id, frame) →
    setup.transport.transportType.isTcpType = true → frameTxnId frame = some id

namespace Books

variable {hand : List Nat}

lemma kept (h : Books setup [] s) (hended : s.status = .running ∨ s.held = []) :
    BooksKept setup s where
  counted := h.counted
  limited := h.counted ▸ h.limited
  current := h.current
  settled := by
    refine List.perm_iff_count.mpr fun n => ?_
    rw [← h.settled n, List.count_append, List.count_nil, Nat.add_zero]
  ended := hended
  answered := h.answered

/-- Completions without a frame say nothing of ids. -/
lemma answered_append (h : Books setup hand s) {more : List Completion}
    (hmore : ∀ c ∈ more, c.answeredBy = none) :
    ∀ c ∈ s.completions ++ more, ∀ id frame, c.answeredBy = some (id, frame) →
      setup.transport.transportType.isTcpType = true → frameTxnId frame = some id := by
  intro c hc id frame hid
  rcases List.mem_append.mp hc with hold | hnew
  · exact h.answered c hold id frame hid
  · rw [hmore c hnew] at hid
    cases hid

/-- With no transport nothing is pending. -/
lemma entries_eq_nil (h : Books setup hand s) (hnone : s.transport = none) :
    s.pending.entries = [] := by
  refine List.eq_nil_iff_forall_not_mem.mpr fun e he => ?_
  obtain ⟨t, ht, _⟩ := h.current e he
  rw [hnone] at ht
  cases ht

lemma nextTxnId_unused (h : Books setup hand s) (hunused : s.Unused) :
    s.nextTxnId ∉ s.pending.entries.map (·.1) := by
  intro hmem
  obtain ⟨e, he, hkey⟩ := List.mem_map.mp hmem
  obtain ⟨hid, hlt⟩ := h.keyed e he
  rw [hid, h.next, idOf_eq_iff (Nat.le_of_lt hlt)] at hkey
  exact hunused e he hkey

lemma advance (h : Books setup hand s) : Books setup hand s.advanceTxnId where
  counted := h.counted
  limited := h.limited
  keyed e he := ⟨(h.keyed e he).1, Nat.lt_succ_of_lt (h.keyed e he).2⟩
  next := by
    change (if s.nextTxnId + 1 = 0 then 1 else s.nextTxnId + 1) = _
    rw [h.next, idOf_succ]
    rfl
  current := h.current
  settled := h.settled
  answered := h.answered

lemma complete {respTx : Nat} (h : Books setup (respTx :: hand) s)
    (result : Except MbusError ClientResponse) : Books setup hand (s.complete respTx result) where
  counted := h.counted
  limited := h.limited
  keyed := h.keyed
  next := h.next
  current := h.current
  settled n := by
    have hcount := h.settled n
    rw [List.count_cons] at hcount
    have hheld : (s.complete respTx result).held = s.held := rfl
    rw [hheld]
    simp only [ClientTask.complete, List.map_append, List.map_cons, List.map_nil,
      List.count_append, List.count_cons, List.count_nil]
    omega
  answered := h.answered_append (by simp)

/-- Pending requests go back to the queue or are given up. -/
lemma lose (h : Books setup hand s) :
    Books setup hand (handleConnectionLoss { s with transport := none }) where
  counted := rfl
  limited := Nat.zero_le _
  keyed _ he := nomatch he
  next := h.next
  current _ he := nomatch he
  settled n := by
    have hcount := h.settled n
    have hsorted := count_sorted s.pending n
    rw [count_held] at hcount ⊢
    simp only [handleConnectionLoss, List.map_append, List.filterMap_append, List.count_append,
      map_closed, filterMap_channel_again, PendingMap.new, List.map_nil, List.count_nil]
    omega
  answered := by
    refine h.answered_append fun c hc => ?_
    obtain ⟨e, _, rfl⟩ := List.mem_map.mp hc
    rfl

/-- Pending and queued requests are given up. -/
lemma drain (h : Books setup hand s) :
    Books setup hand { s.drainAll with transport := none } where
  counted := rfl
  limited := Nat.zero_le _
  keyed _ he := nomatch he
  next := h.next
  current _ he := nomatch he
  settled n := by
    have hcount := h.settled n
    rw [count_held] at hcount ⊢
    rw [drainAll_completions, List.map_append, List.map_append, map_closed, map_closed_channels,
      List.count_append, List.count_append]
    simp only [drainAll, PendingMap.new, List.map_nil, List.filterMap_nil, List.count_nil]
    omega
  answered := by
    rw [drainAll_completions]
    refine h.answered_append fun c hc => ?_
    rcases List.mem_append.mp hc with hpending | hqueued
    · obtain ⟨e, _, rfl⟩ := List.mem_map.mp hpending
      rfl
    · obtain ⟨cmd, _, hcmd⟩ := List.mem_filterMap.mp hqueued
      obtain ⟨respTx, _, rfl⟩ := Option.map_eq_some_iff.mp hcmd
      rfl

/-- A new connection, with nothing pending on the old one. -/
lemma connect (h : Books setup hand s) (hnone : s.pending.entries = []) :
    Books setup hand (s.doConnect setup).2 := by
  rw [doConnect]
  cases setup.connectFn s.outside with
  | mk result outside =>
    cases result
    all_goals
      refine ⟨h.counted, h.limited, h.keyed, h.next, ?_, h.settled, h.answered⟩
      intro e he
      rw [show s.pending.entries = [] from hnone] at he
      cases he

/-- One round of sending: the request is pending, completed, or still in hand after a loss of the
connection, with nothing pending any more. -/
lemma send {request : ClientRequest} {respTx : Nat} (h : Books setup (respTx :: hand) s)
    (hroom : s.inFlight < setup.pipeline) (hunused : s.Unused)
    (hencodes : request.body.Encodable) (retryAttempts : UInt8) (retryDelayMs : UInt64) :
    match s.sendRequest setup request respTx retryAttempts retryDelayMs with
    | .inl s' => Books setup hand s'
    | .inr (_, s') => Books setup (respTx :: hand) s' ∧ s'.inFlight < setup.pipeline ∧
        s'.pending.entries = [] := by
  unfold sendRequest
  cases hframe : encodeRequest s.nextTxnId request setup.transport.transportType with
  | panic => exact absurd hframe (encodeRequest_ne_panic hencodes _ _)
  | err e => exact h.advance.complete (.error e)
  | ok frame =>
    have hlost := h.advance.lose
    have hzero : 0 < setup.pipeline := Nat.lt_of_le_of_lt (Nat.zero_le _) hroom
    cases htransport : s.transport with
    | none => exact ⟨hlost, hzero, rfl⟩
    | some t =>
      dsimp only
      cases (t.link.send setup.transport frame.toList).1 with
      | error e => exact ⟨hlost, hzero, rfl⟩
      | ok _ =>
        have hperm := PendingMap.insert_perm setup.order (h.nextTxnId_unused hunused)
          ⟨respTx, request, retryAttempts, retryDelayMs, t.connection, s.issued⟩
        refine ⟨?_, hroom, ?_, h.advance.next, ?_, fun n => ?_, h.answered⟩
        · exact (congrArg (· + 1) h.counted).trans hperm.length_eq.symm
        · intro e he
          rcases List.mem_cons.mp (hperm.mem_iff.mp he) with rfl | hold
          · exact ⟨h.next, Nat.lt_succ_self _⟩
          · exact h.advance.keyed e hold
        · intro e he
          rcases List.mem_cons.mp (hperm.mem_iff.mp he) with rfl | hold
          · exact ⟨_, rfl, rfl⟩
          · obtain ⟨t', ht', hconnection⟩ := h.current e hold
            rw [htransport] at ht'
            cases ht'
            exact ⟨_, rfl, hconnection⟩
        · have hcount := h.settled n
          have hpending := (hperm.map (·.2.respTx)).count_eq n
          rw [List.map_cons, List.count_cons] at hpending
          rw [count_held, List.count_cons] at hcount
          dsimp only at hpending
          have hsum : (s.completions.map (·.respTx)).count n + hand.count n +
              (((s.pending.insert setup.order s.nextTxnId ⟨respTx, request, retryAttempts,
                retryDelayMs, t.connection, s.issued⟩).entries.map (·.2.respTx)).count n +
                (s.queued.filterMap (·.channel)).count n +
                (s.cmdRx.filterMap (·.channel)).count n) = (List.range s.accepted).count n := by
            rw [hpending]
            omega
          rw [count_held]
          exact hsum

/-- The loop of a dispatch ends with the request pending or completed. -/
lemma dispatchLoop {request : ClientRequest} {respTx : Nat} (retryDelayMs : UInt64)
    (hencodes : request.body.Encodable) (retries : Nat) (h : Books setup (respTx :: hand) s)
    (hroom : s.inFlight < setup.pipeline) (hunused : s.Unused) :
    Books setup hand (s.dispatchLoop setup request respTx retryDelayMs retries) := by
  induction retries generalizing s with
  | zero =>
    rw [ClientTask.dispatchLoop]
    cases htransport : s.transport with
    | none => exact h.complete _
    | some t =>
      have hsend := h.send hroom hunused hencodes 0 retryDelayMs
      dsimp only
      cases hs' : s.sendRequest setup request respTx 0 retryDelayMs with
      | inl s' =>
        rw [hs'] at hsend
        exact hsend
      | inr failed =>
        obtain ⟨e, s'⟩ := failed
        rw [hs'] at hsend
        exact hsend.1.complete _
  | succ retry ih =>
    rw [ClientTask.dispatchLoop]
    -- with no transport nothing is pending, so that a reconnect leaves nothing behind
    have hconnected : ∀ c, c = (if s.transport.isNone then s.doConnect setup else (.ok (), s)) →
        Books setup (respTx :: hand) c.2 ∧ c.2.inFlight < setup.pipeline ∧ c.2.Unused := by
      rintro c rfl
      split
      · rename_i hnone
        have hempty := h.entries_eq_nil (Option.isNone_iff_eq_none.mp hnone)
        have hpending : (s.doConnect setup).2.pending = s.pending := by
          rw [doConnect]
          cases setup.connectFn s.outside with
          | mk result outside => cases result <;> rfl
        have hcounted := (h.connect hempty).counted
        refine ⟨h.connect hempty, ?_, ?_⟩
        · rw [hcounted, hpending, ← h.counted]
          exact hroom
        · intro e he
          rw [hpending, hempty] at he
          cases he
      · exact ⟨h, hroom, hunused⟩
    generalize (if s.transport.isNone then s.doConnect setup else (.ok (), s)) = c at hconnected ⊢
    obtain ⟨hbooks, hroom, hunused⟩ := hconnected c rfl
    obtain ⟨result, s'⟩ := c
    cases result with
    | error e =>
      dsimp only
      split
      · exact hbooks.complete _
      · exact ih hbooks hroom hunused
    | ok _ =>
      have hsend := hbooks.send hroom hunused hencodes (UInt8.ofNat (retry + 1)) retryDelayMs
      dsimp only
      split at hsend
      · rename_i s'' hs''
        rw [hs'']
        exact hsend
      · rename_i e s'' hs''
        rw [hs'']
        refine ih hsend.1 hsend.2.1 fun e he => ?_
        rw [hsend.2.2] at he
        cases he

lemma dispatchRequest {cmd : TaskCommand} (h : Books setup (cmd.channel.toList ++ hand) s)
    (hroom : s.inFlight < setup.pipeline)
    (hunused : ∀ params respTx retryAttempts retryDelayMs,
      cmd = .request params respTx retryAttempts retryDelayMs →
        params.body.Encodable ∧ s.Unused) :
    Books setup hand (s.dispatchRequest setup cmd) := by
  cases cmd with
  | request params respTx retryAttempts retryDelayMs =>
    obtain ⟨hencodes, hunused⟩ := hunused params respTx retryAttempts retryDelayMs rfl
    exact h.dispatchLoop retryDelayMs hencodes retryAttempts.toNat hroom hunused
  | connect => exact ⟨h.counted, h.limited, h.keyed, h.next, h.current, h.settled, h.answered⟩
  | disconnect => exact h
  | shutdown => exact h

/-- A pending request leaves the map with its answer. -/
lemma answer {key : UInt16} {entry : PendingEntry} {frame : List UInt8} (h : Books setup hand s)
    (hentry : s.pending.get key = some entry)
    (hsent : setup.transport.transportType.isTcpType = true → SentWith frame (key, entry))
    (result : Except MbusError ClientResponse) :
    Books setup hand ((s.removeEntry key).answer setup key entry frame result) := by
  have hperm := PendingMap.perm_remove hentry
  have hsub : ∀ e ∈ (s.pending.remove key).entries, e ∈ s.pending.entries :=
    fun e he => hperm.mem_iff.mpr (List.mem_cons_of_mem _ he)
  refine ⟨?_, ?_, fun e he => h.keyed e (hsub e he), h.next, fun e he => h.current e (hsub e he),
    fun n => ?_, ?_⟩
  · change s.inFlight - 1 = (s.pending.remove key).entries.length
    have hlen := hperm.length_eq
    rw [List.length_cons] at hlen
    rw [h.counted, PendingMap.len, hlen, Nat.add_sub_cancel]
  · exact Nat.le_trans (Nat.sub_le _ _) h.limited
  · have hcount := h.settled n
    have hpending := (hperm.map (·.2.respTx)).count_eq n
    rw [List.map_cons, List.count_cons] at hpending
    rw [count_held] at hcount
    have hsum : (s.completions.map (·.respTx) ++ [entry.respTx]).count n + hand.count n +
        (((s.pending.remove key).entries.map (·.2.respTx)).count n +
          (s.queued.filterMap (·.channel)).count n + (s.cmdRx.filterMap (·.channel)).count n) =
        (List.range s.accepted).count n := by
      rw [List.count_append, List.count_singleton]
      dsimp only at hpending
      omega
    rw [count_held, ClientTask.answer, List.map_append]
    exact hsum
  · intro c hc id frame' hid htcp
    rcases List.mem_append.mp hc with hold | hnew
    · exact h.answered c hold id frame' hid htcp
    · rw [List.mem_singleton.mp hnew, htcp] at hid
      cases hid
      exact hsent htcp

end Books

/-- A frame changes nothing, answers a pending request, or panics the task. -/
lemma processFrame_cases (setup : ClientTaskSetup σ τ) (s : ClientTask σ τ) (frame : List UInt8) :
    s.processFrame setup frame = s ∨
      (∃ key entry result, s.pending.get key = some entry ∧
        s.processFrame setup frame = (s.removeEntry key).answer setup key entry frame result) ∨
      ∃ s' : ClientTask σ τ, (s' = s ∨ ∃ key, s' = s.removeEntry key) ∧
        s.processFrame setup frame = s'.stop .panicked := by
  unfold processFrame
  split
  · exact Or.inl rfl
  · split
    · exact Or.inr (Or.inr ⟨s, Or.inl rfl, rfl⟩)
    · unfold failEntry
      split
      · exact Or.inl rfl
      · rename_i key _
        split
        · exact Or.inl rfl
        · rename_i entry hentry
          exact Or.inr (Or.inl ⟨key, entry, _, hentry, rfl⟩)
    · split
      · exact Or.inl rfl
      · rename_i key _
        split
        · exact Or.inl rfl
        · rename_i entry hentry
          split
          · exact Or.inr (Or.inl ⟨key, entry, _, hentry, rfl⟩)
          · split
            · exact Or.inr (Or.inl ⟨key, entry, _, hentry, rfl⟩)
            · exact Or.inr (Or.inl ⟨key, entry, _, hentry, rfl⟩)
            · exact Or.inr (Or.inr ⟨s.removeEntry key, Or.inr ⟨key, rfl⟩, rfl⟩)

/-- On a serial line a frame panics the task in the decoder or in the fix-up. -/
lemma processFrame_serial {frame : List UInt8}
    (hserial : setup.transport.transportType.isTcpType = false) (h : Harmless setup frame s)
    (hrun : s.status = .running) : (s.processFrame setup frame).status ≠ .panicked := by
  rw [Harmless, hserial] at h
  have hrunning : s.status ≠ .panicked := by rw [hrun]; nofun
  rcases h with hnone | h
  · rw [processFrame, hnone]
    exact hrunning
  unfold processFrame
  split
  · exact hrunning
  · split
    · rename_i hdecode
      rw [hdecode] at h
      exact h.elim
    · unfold failEntry
      split
      · exact hrunning
      · split <;> exact hrunning
    · rename_i txnId unit inner hdecode
      rw [hdecode] at h
      split
      · exact hrunning
      · rename_i key hkey
        split
        · exact hrunning
        · rename_i entry hentry
          have hlong := h key entry hkey hentry
          split
          · exact hrunning
          · rename_i response
            have hfix := (fixUpResponse_ne_panic_iff response entry.request.body).mpr hlong
            split
            · exact hrunning
            · exact hrunning
            · rename_i hpanic
              exact absurd hpanic hfix

/-- Whether a frame is harmless depends on the pending requests alone. -/
lemma Harmless.of_open {s' : ClientTask σ τ} {frame : List UInt8} (h : Harmless setup frame s)
    (hopen : s.transport ≠ none) (hpending : s'.pending = s.pending) :
    Harmless setup frame s' := by
  unfold Harmless at h ⊢
  split
  · rename_i htcp
    rw [htcp] at h
    refine Or.inr ?_
    rw [hpending]
    exact h.resolve_left hopen
  · rename_i hserial
    rw [hserial] at h
    refine Or.inr ?_
    unfold resolveKey
    rw [hpending]
    exact h.resolve_left hopen

namespace Books

variable {hand : List Nat}

lemma processFrame {frame : List UInt8} (h : Books setup hand s) (hharmless : Harmless setup frame s)
    (hrun : s.status = .running) : Books setup hand (s.processFrame setup frame) := by
  have hsafe : (s.processFrame setup frame).status ≠ .panicked ∧
      (setup.transport.transportType.isTcpType = true → Isolates setup s frame) := by
    cases htcp : setup.transport.transportType.isTcpType with
    | true =>
      rw [Harmless, htcp] at hharmless
      have hisolates := (isolates_iff setup htcp s hrun frame).mpr hharmless
      exact ⟨by rw [hisolates.1]; nofun, fun _ => hisolates⟩
    | false => exact ⟨processFrame_serial htcp hharmless hrun, nofun⟩
  rcases processFrame_cases setup s frame with heq | ⟨key, entry, result, hentry, heq⟩ |
      ⟨s', _, heq⟩
  · rw [heq]
    exact h
  · rw [heq]
    exact h.answer hentry
      (fun htcp => (isolates_of_answer hentry hrun heq).mp (hsafe.2 htcp)) result
  · exact absurd (by rw [heq]; rfl) hsafe.1

/-- With nothing held the task may end. -/
lemma stop (h : Books setup [] s) (hheld : s.held = []) (status : TaskStatus) :
    Books setup [] (s.stop status) where
  counted := by
    have hpending : s.pending.entries = [] := by
      rw [held, List.append_eq_nil_iff, List.append_eq_nil_iff, List.map_eq_nil_iff] at hheld
      exact hheld.1.1
    change s.inFlight = 0
    rw [h.counted, PendingMap.len, hpending]
    rfl
  limited := h.limited
  keyed _ he := nomatch he
  next := h.next
  current _ he := nomatch he
  settled n := by
    have hcount := h.settled n
    rw [hheld] at hcount
    exact hcount
  answered := h.answered

/-- Closing the transport, with nothing pending. -/
lemma close (h : Books setup hand s) (hnone : s.pending.entries = []) :
    Books setup hand { s with transport := none } where
  counted := h.counted
  limited := h.limited
  keyed := h.keyed
  next := h.next
  current e he := by
    rw [show s.pending.entries = [] from hnone] at he
    cases he
  settled := h.settled
  answered := h.answered

/-- A command that is taken from the channel. -/
lemma handleCommand {cmd : TaskCommand} {rest : List TaskCommand} (h : Books setup [] s)
    (hcmd : s.cmdRx = cmd :: rest) (phase : LoopPhase)
    (hunused : ∀ params respTx retryAttempts retryDelayMs,
      cmd = .request params respTx retryAttempts retryDelayMs → s.inFlight < setup.pipeline →
        params.body.Encodable ∧ s.Unused)
    (hconnects : cmd = .connect → s.pending.entries = [])
    (hshutsDown : cmd = .shutdown → rest.filterMap (·.channel) = []) :
    Books setup []
      (ClientTask.handleCommand { s with cmdRx := rest, phase := phase } setup cmd) := by
  have htaken : Books setup cmd.channel.toList { s with cmdRx := rest, phase := phase } := by
    refine ⟨h.counted, h.limited, h.keyed, h.next, h.current, fun n => ?_, h.answered⟩
    have hcount := h.settled n
    rw [count_held, hcmd] at hcount
    rw [count_held]
    cases cmd <;>
      simp only [TaskCommand.channel, Option.toList, List.filterMap_cons, List.count_cons,
        List.count_nil] at hcount ⊢ <;>
      omega
  cases cmd with
  | connect =>
    have hopen := (htaken.close (hconnects rfl)).connect (hconnects rfl)
    exact ⟨hopen.counted, hopen.limited, hopen.keyed, hopen.next, hopen.current, hopen.settled,
      hopen.answered⟩
  | disconnect => exact htaken.drain
  | shutdown =>
    exact htaken.drain.stop (hshutsDown rfl) .returned
  | request params respTx retryAttempts retryDelayMs =>
    unfold ClientTask.handleCommand
    dsimp only
    split
    · rename_i hroom
      refine htaken.dispatchRequest hroom fun params respTx retryAttempts retryDelayMs heq => ?_
      exact hunused _ _ _ _ heq hroom
    · refine ⟨h.counted, h.limited, h.keyed, h.next, h.current, fun n => ?_, h.answered⟩
      have hcount := htaken.settled n
      rw [count_held] at hcount ⊢
      rw [List.filterMap_append, List.count_append, List.count_nil, Nat.add_zero]
      rw [← hcount]
      change _ + (_ + (_ + [respTx].count n) + _) = _ + [respTx].count n + _
      dsimp only
      omega

/-- A command without a response channel of its own. -/
lemma submit {cmd : TaskCommand} (h : Books setup [] s) (hcmd : cmd.channel = none) :
    Books setup [] (s.submit cmd) := by
  unfold ClientTask.submit
  split
  · refine ⟨h.counted, h.limited, h.keyed, h.next, h.current, fun n => ?_, h.answered⟩
    have hcount := h.settled n
    rw [count_held] at hcount ⊢
    rw [List.filterMap_append, List.filterMap_cons_none hcmd, List.filterMap_nil, List.append_nil]
    exact hcount
  · exact h

lemma drainBacklog (h : Books setup [] s)
    (hunused : s.inFlight < setup.pipeline → ∀ cmd queued, s.queued = cmd :: queued →
      ∀ params respTx retryAttempts retryDelayMs,
        cmd = .request params respTx retryAttempts retryDelayMs →
          params.body.Encodable ∧ s.Unused) :
    Books setup [] (s.drainBacklog setup) := by
  unfold ClientTask.drainBacklog
  split
  · rename_i hroom
    split
    · rename_i cmd queued hqueued
      have htaken : Books setup (cmd.channel.toList ++ []) { s with queued := queued } := by
        refine ⟨h.counted, h.limited, h.keyed, h.next, h.current, fun n => ?_, h.answered⟩
        have hcount := h.settled n
        rw [count_held, hqueued] at hcount
        rw [count_held]
        cases cmd <;>
          simp only [TaskCommand.channel, Option.toList, List.append_nil, List.filterMap_cons,
            List.count_cons, List.count_nil] at hcount ⊢ <;>
          omega
      exact htaken.dispatchRequest hroom (hunused hroom cmd queued hqueued)
    · exact ⟨h.counted, h.limited, h.keyed, h.next, h.current, h.settled, h.answered⟩
  · exact ⟨h.counted, h.limited, h.keyed, h.next, h.current, h.settled, h.answered⟩

lemma receive (h : Books setup [] s) (hrun : s.status = .running)
    (hharmless : ∀ t frame, s.transport = some t → 0 < s.inFlight →
      (t.link.recv setup.transport).1 = .ok frame → Harmless setup frame.toList s) :
    Books setup [] (s.receive setup) := by
  unfold ClientTask.receive
  cases htransport : s.transport with
  | none => exact h
  | some t =>
    dsimp only
    split
    · rename_i hbusy
      have hmoved : Books setup [] { s with
          transport := some { t with link := (t.link.recv setup.transport).2 }
          phase := .backlog } := by
        refine ⟨h.counted, h.limited, h.keyed, h.next, fun e he => ?_, h.settled, h.answered⟩
        obtain ⟨t', ht', hconnection⟩ := h.current e he
        rw [htransport] at ht'
        cases ht'
        exact ⟨_, rfl, hconnection⟩
      split
      · rename_i frame hframe
        have hfound := hharmless t frame htransport hbusy hframe
        refine hmoved.processFrame (hfound.of_open ?_ ?_) hrun
        · rw [htransport]
          rintro ⟨⟩
        · rfl
      · exact hmoved.lose
    · exact h

/-- One action keeps the books when it meets the condition. -/
theorem perform (h : Books setup [] s) (action : ClientAction)
    (hkeeps : KeepsBooks setup action s) : Books setup [] (s.perform setup action) := by
  unfold ClientTask.perform
  split
  · exact h
  rename_i hrun
  rw [ne_eq, not_not] at hrun
  split
  case h_1 params retryAttempts retryDelayMs _ =>
    unfold sendCommand
    split
    · refine ⟨h.counted, h.limited, h.keyed, h.next, h.current, fun n => ?_, h.answered⟩
      have hcount := h.settled n
      rw [count_held] at hcount ⊢
      rw [List.range_succ, List.count_append, List.filterMap_append, List.count_append]
      change _ + _ + (_ + _ + (_ + [s.accepted].count n)) = _
      dsimp only
      omega
    · exact h
  case h_2 => exact h.submit rfl
  case h_3 => exact h.submit rfl
  case h_4 => exact h.submit rfl
  case h_5 => exact ⟨h.counted, h.limited, h.keyed, h.next, h.current, h.settled, h.answered⟩
  case h_6 hphase =>
    refine h.drainBacklog fun hroom cmd queued hqueued params respTx retryAttempts retryDelayMs
      hcmd => hkeeps.unused params respTx retryAttempts retryDelayMs ?_
    simp only [dispatched, if_pos hroom, hphase, hqueued, hcmd]
  case h_7 hphase =>
    refine h.receive hrun fun t frame htransport hbusy hframe => hkeeps.receives frame.toList ?_
    simp only [received, hphase, htransport, hframe, if_pos hbusy]
  case h_8 hphase =>
    unfold command
    split
    · rename_i cmd rest hcmd
      have hhandled : s.handled setup .command = some (cmd, rest) := by
        simp only [handled, hphase, hcmd]
      refine h.handleCommand hcmd _ (fun params respTx retryAttempts retryDelayMs heq hroom => ?_)
        (fun heq => hkeeps.connects rest (by rw [hhandled, heq]))
        (fun heq => hkeeps.shutsDown rest (by rw [hhandled, heq]))
      refine hkeeps.unused params respTx retryAttempts retryDelayMs ?_
      simp only [dispatched, if_pos hroom, hhandled, heq, Option.map_some]
    · rename_i hcmd
      split
      · rename_i hdropped
        exact h.stop (hkeeps.returns rfl hphase hcmd hdropped) .returned
      · exact h
  case h_9 count hphase =>
    unfold nextCommand
    split
    · rename_i cmd rest hcmd
      split
      · rename_i hready
        have hhandled : s.handled setup .nextCommand = some (cmd, rest) := by
          simp only [handled, hphase, hcmd, if_pos hready]
        refine h.handleCommand hcmd _ (fun params respTx retryAttempts retryDelayMs heq hroom => ?_)
          (fun heq => hkeeps.connects rest (by rw [hhandled, heq]))
          (fun heq => hkeeps.shutsDown rest (by rw [hhandled, heq]))
        refine hkeeps.unused params respTx retryAttempts retryDelayMs ?_
        simp only [dispatched, if_pos hroom, hhandled, heq, Option.map_some]
      · exact ⟨h.counted, h.limited, h.keyed, h.next, h.current, h.settled, h.answered⟩
    · exact ⟨h.counted, h.limited, h.keyed, h.next, h.current, h.settled, h.answered⟩
  case h_10 => exact h

end Books

/-! ### Where the task ends -/

variable (setup) in
lemma ended_sendRequest (hrun : s.status = .running) (request : ClientRequest) (respTx : Nat)
    (retryAttempts : UInt8) (retryDelayMs : UInt64) :
    match s.sendRequest setup request respTx retryAttempts retryDelayMs with
    | .inl s' => s'.status = .running ∨ s'.held = []
    | .inr (_, s') => s'.status = .running := by
  unfold sendRequest
  cases encodeRequest s.nextTxnId request setup.transport.transportType with
  | panic => exact Or.inr rfl
  | err e => exact Or.inl hrun
  | ok frame =>
    cases s.transport with
    | none => exact hrun
    | some t =>
      dsimp only
      cases (t.link.send setup.transport frame.toList).1 with
      | ok _ => exact Or.inl hrun
      | error e => exact hrun

lemma ended_dispatchLoop (request : ClientRequest) (respTx : Nat) (retryDelayMs : UInt64)
    (retries : Nat) (hrun : s.status = .running) :
    (s.dispatchLoop setup request respTx retryDelayMs retries).status = .running ∨
      (s.dispatchLoop setup request respTx retryDelayMs retries).held = [] := by
  induction retries generalizing s with
  | zero =>
    rw [dispatchLoop]
    split
    · exact Or.inl hrun
    · have hsend := ended_sendRequest setup hrun request respTx 0 retryDelayMs
      cases hs' : s.sendRequest setup request respTx 0 retryDelayMs with
      | inl s' =>
        rw [hs'] at hsend
        exact hsend
      | inr failed =>
        obtain ⟨e, s'⟩ := failed
        rw [hs'] at hsend
        exact Or.inl hsend
  | succ retry ih =>
    rw [dispatchLoop]
    have hconnected : (if s.transport.isNone then s.doConnect setup else (.ok (), s)).2.status =
        .running := by
      split
      · rw [doConnect]
        cases setup.connectFn s.outside with
        | mk result outside => cases result <;> exact hrun
      · exact hrun
    generalize (if s.transport.isNone then s.doConnect setup else (.ok (), s)) = c at hconnected ⊢
    obtain ⟨result, s'⟩ := c
    cases result with
    | error e =>
      dsimp only
      split
      · exact Or.inl hconnected
      · exact ih hconnected
    | ok _ =>
      have hsend := ended_sendRequest setup hconnected request respTx
        (UInt8.ofNat (retry + 1)) retryDelayMs
      dsimp only
      split at hsend
      · rename_i s'' hs''
        rw [hs'']
        exact hsend
      · rename_i e s'' hs''
        rw [hs'']
        exact ih hsend

lemma ended_dispatchRequest (hrun : s.status = .running) (cmd : TaskCommand) :
    (s.dispatchRequest setup cmd).status = .running ∨
      (s.dispatchRequest setup cmd).held = [] := by
  cases cmd with
  | request params respTx retryAttempts retryDelayMs =>
    exact ended_dispatchLoop params respTx retryDelayMs retryAttempts.toNat hrun
  | _ => exact Or.inl hrun

lemma ended_handleCommand (hrun : s.status = .running) (cmd : TaskCommand) :
    (s.handleCommand setup cmd).status = .running ∨ (s.handleCommand setup cmd).held = [] := by
  cases cmd with
  | connect =>
    refine Or.inl ?_
    simp only [handleCommand, doConnect]
    cases setup.connectFn s.outside with
    | mk result outside => cases result <;> exact hrun
  | disconnect => exact Or.inl hrun
  | shutdown => exact Or.inr rfl
  | request params respTx retryAttempts retryDelayMs =>
    unfold handleCommand
    dsimp only
    split
    · exact ended_dispatchRequest hrun _
    · exact Or.inl hrun

/-- A task that has ended holds no request. -/
lemma ended_perform (action : ClientAction) (h : s.status = .running ∨ s.held = []) :
    (s.perform setup action).status = .running ∨ (s.perform setup action).held = [] := by
  unfold perform
  split
  · exact h
  rename_i hrun
  rw [ne_eq, not_not] at hrun
  split
  case h_1 => unfold sendCommand; split <;> exact Or.inl hrun
  case h_2 | h_3 | h_4 => unfold submit; split <;> exact Or.inl hrun
  case h_5 => exact Or.inl hrun
  case h_6 =>
    unfold drainBacklog
    split
    · split
      · refine ended_dispatchRequest ?_ _
        exact hrun
      · exact Or.inl hrun
    · exact Or.inl hrun
  case h_7 =>
    unfold receive
    split
    · exact Or.inl hrun
    · dsimp only
      split
      · split
        · rename_i frame _
          rcases processFrame_cases setup _ frame.toList with heq | ⟨_, _, _, _, heq⟩ |
            ⟨s', _, heq⟩
          · rw [heq]
            exact Or.inl hrun
          · rw [heq]
            exact Or.inl hrun
          · rw [heq]
            exact Or.inr rfl
        · exact Or.inl hrun
      · exact Or.inl hrun
  case h_8 =>
    unfold command
    split
    · refine ended_handleCommand ?_ _
      exact hrun
    · split
      · exact Or.inr rfl
      · exact Or.inl hrun
  case h_9 =>
    unfold nextCommand
    split
    · split
      · refine ended_handleCommand ?_ _
        exact hrun
      · exact Or.inl hrun
    · exact Or.inl hrun
  case h_10 => exact Or.inl hrun

lemma Books.new (setup : ClientTaskSetup σ τ) (outside : σ) :
    Books setup [] (.new outside) where
  counted := rfl
  limited := Nat.zero_le _
  keyed _ he := nomatch he
  next := rfl
  current _ he := nomatch he
  settled _ := rfl
  answered _ hc := nomatch hc

/-- A run whose steps all keep the books has kept them, and the id that the next request is
given is free. -/
theorem booksKept_of_keepsBooks (setup : ClientTaskSetup σ τ) (outside : σ)
    {s : ClientTask σ τ}
    (h : Runs.RunWhen (KeepsBooks setup) (fun action s => s.perform setup action)
      (.new outside) s) :
    BooksKept setup s ∧ ∀ action params respTx retryAttempts retryDelayMs,
      KeepsBooks setup action s →
      s.dispatched setup action = some (.request params respTx retryAttempts retryDelayMs) →
      s.pending.containsKey s.nextTxnId = false := by
  have hbooks : Books setup [] s :=
    h.invariant (fun action _ hkeeps hs => hs.perform action hkeeps) (.new setup outside)
  have hended : s.status = .running ∨ s.held = [] :=
    h.invariant (P := fun s => s.status = .running ∨ s.held = [])
      (fun action _ _ hs => ended_perform action hs) (Or.inl rfl)
  refine ⟨hbooks.kept hended, fun action params respTx retryAttempts retryDelayMs hkeeps hd => ?_⟩
  obtain ⟨_, hunused⟩ := hkeeps.unused params respTx retryAttempts retryDelayMs hd
  rw [Bool.eq_false_iff, Ne, PendingMap.containsKey_eq_true]
  rintro ⟨entry, hentry⟩
  exact hbooks.nextTxnId_unused hunused
    (List.mem_map_of_mem (f := (·.1)) (PendingMap.get_eq_some.mp hentry))

/-- A step that takes no command and receives no frame keeps the books. -/
lemma KeepsBooks.of_quiet {action : ClientAction} (hdispatched : s.dispatched setup action = none)
    (hhandled : s.handled setup action = none) (hreceived : s.received setup action = none)
    (hcommand : action ≠ .command) : KeepsBooks setup action s where
  unused _ _ _ _ h := by rw [hdispatched] at h; cases h
  connects _ h := by rw [hhandled] at h; cases h
  shutsDown _ h := by rw [hhandled] at h; cases h
  returns h := absurd h hcommand
  receives _ h := by rw [hreceived] at h; cases h

/-- So does a connect with nothing pending. -/
lemma KeepsBooks.of_connect {action : ClientAction}
    (hhandled : (s.handled setup action).map (·.1) = some .connect)
    (hdispatched : s.dispatched setup action = some .connect)
    (hreceived : s.received setup action = none) (hempty : s.pending.entries = [] ∧ s.cmdRx ≠ []) :
    KeepsBooks setup action s where
  unused _ _ _ _ h := by rw [hdispatched] at h; cases h
  connects _ _ := hempty.1
  shutsDown _ h := by rw [h] at hhandled; cases hhandled
  returns _ _ h := absurd h hempty.2
  receives _ h := by rw [hreceived] at h; cases h

omit [Features] in
lemma unused_of_all
    (h : s.pending.entries.all fun e => decide ((s.issued - e.2.serial) % 65535 ≠ 0)) :
    s.Unused := by
  intro e he hdvd
  have hne := of_decide_eq_true (List.all_eq_true.mp h e he)
  exact hne (Nat.mod_eq_zero_of_dvd hdvd)

/-- So does a step that dispatches a request under a free id. -/
lemma KeepsBooks.of_request {action : ClientAction} (params : ClientRequest) (respTx : Nat)
    (retryAttempts : UInt8) (retryDelayMs : UInt64) (rest : List TaskCommand)
    (hhandled : s.handled setup action =
      some (.request params respTx retryAttempts retryDelayMs, rest))
    (hdispatched : s.dispatched setup action =
      some (.request params respTx retryAttempts retryDelayMs))
    (hreceived : s.received setup action = none) (hcommand : s.cmdRx ≠ [])
    (hencodes : params.body.Encodable) (hunused : s.Unused) : KeepsBooks setup action s where
  unused _ _ _ _ h := by
    rw [hdispatched] at h
    cases h
    exact ⟨hencodes, hunused⟩
  connects _ h := by rw [hhandled] at h; cases h
  shutsDown _ h := by rw [hhandled] at h; cases h
  returns _ _ h := absurd h hcommand
  receives _ h := by rw [hreceived] at h; cases h

end ClientTask

/-- Two requests over one connection keep the books. -/
theorem booksKept_twoInFlight :
    letI := Features.minimal
    ClientTask.BooksKept promptSetup twoInFlight := by
  let _ := Features.minimal
  have hmeets : Runs.Meets (ClientTask.KeepsBooks promptSetup)
      (fun action s => s.perform promptSetup action) twoRequests (.new ()) := by
    refine ⟨.of_quiet ?_ ?_ ?_ nofun, .of_quiet ?_ ?_ ?_ nofun, .of_quiet ?_ ?_ ?_ nofun,
      .of_quiet ?_ ?_ ?_ nofun, .of_connect ?_ ?_ ?_ ?_,
      .of_request ⟨.fromU8 1, .readDiscreteInputs 0 8⟩ 0 0 0
        [.request ⟨.fromU8 1, .writeSingleCoil 0xFFFF true⟩ 1 0 0] ?_ ?_ ?_ ?_ trivial ?_,
      .of_request ⟨.fromU8 1, .writeSingleCoil 0xFFFF true⟩ 1 0 0 [] ?_ ?_ ?_ ?_ trivial ?_,
      trivial⟩
    all_goals
      first
      | decide +kernel
      | exact ClientTask.unused_of_all (by decide +kernel)
  exact (ClientTask.booksKept_of_keepsBooks promptSetup () (Runs.RunWhen.foldl hmeets)).1

/-- The client that connects again while a request is pending. -/
def reconnected [Features] : ClientTask Unit Unit :=
  (twoRequests ++ [ClientAction.connect, ClientAction.nextCommand]).foldl
    (fun s action => s.perform promptSetup action) (.new ())

/-- The pending requests stay behind on the old connection. -/
theorem reconnected_not_booksKept :
    ¬∀ [Features] (setup : ClientTaskSetup Unit Unit) (s : ClientTask Unit Unit),
      Runs.Reachable (· = .new ()) (fun action s => s.perform setup action) s →
      ClientTask.BooksKept setup s := by
  intro h
  let _ := Features.minimal
  have hreach : Runs.Reachable (· = .new ()) (fun action s => s.perform promptSetup action)
      reconnected := ⟨_, rfl, Runs.Run.foldl _ _⟩
  have hcurrent := (h promptSetup reconnected hreach).current
    (1, ⟨0, ⟨.fromU8 1, .readDiscreteInputs 0 8⟩, 0, 0, 0, 0⟩) (by decide +kernel)
  have htransport : reconnected.transport.map (·.connection) = some 1 := by decide +kernel
  obtain ⟨t, ht, hconnection⟩ := hcurrent
  rw [ht] at htransport
  have hzero : 0 = t.connection := hconnection
  rw [Option.map_some, ← hzero] at htransport
  cases htransport

end ModbusRs
