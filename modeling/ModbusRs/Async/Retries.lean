import ModbusRs.Async.ClientBookkeeping
import Mathlib.Logic.Function.Basic

/-!
# Retries of the async client

A request is tried when a reconnect for it fails and when its frame is handed to a transport. The
task does not count the tries but the retries that are left, in the command and in the entry of
the request. A run is watched together with the record of what each request was submitted with
and of how it was tried, over any order of steps.
-/

namespace ModbusRs

open Outcome

/-- One try of a request: a reconnect that failed, or a call of `send`. -/
inductive Try where
  | connect
  | send
  deriving DecidableEq

namespace ClientTask

section

variable [Features] {σ τ : Type} (setup : ClientTaskSetup σ τ) (s : ClientTask σ τ)

/-- The call of `send` in one round of `dispatch_request`. -/
def sendTries (request : ClientRequest) : List Try :=
  match encodeRequest s.nextTxnId request setup.transport.transportType, s.transport with
  | .ok _, some _ => [.send]
  | _, _ => []

/-- The tries of `dispatch_request`, by the retries that are left. -/
def loopTries (request : ClientRequest) (respTx : Nat) (retryDelayMs : UInt64) :
    Nat → ClientTask σ τ → List Try
  | 0, s =>
    match s.transport with
    | none => []
    | some _ => s.sendTries setup request
  | retry + 1, s =>
    match if s.transport.isNone then s.doConnect setup else (.ok (), s) with
    | (.error _, s) =>
      .connect :: if retry = 0 then [] else loopTries request respTx retryDelayMs retry s
    | (.ok (), s) =>
      s.sendTries setup request ++
        match s.sendRequest setup request respTx (UInt8.ofNat (retry + 1)) retryDelayMs with
        | .inl _ => []
        | .inr (_, s) => loopTries request respTx retryDelayMs retry s

/-- The command that the action dispatches, with the task that dispatches it. -/
def dispatching (action : ClientAction) (s : ClientTask σ τ) :
    Option (TaskCommand × ClientTask σ τ) :=
  if s.status = .running ∧ s.inFlight < setup.pipeline then
    match action, s.phase, s.queued, s.cmdRx with
    | .drainBacklog, .backlog, cmd :: queued, _ => some (cmd, { s with queued := queued })
    | .command, .select, _, cmd :: rest => some (cmd, { s with cmdRx := rest, phase := .ready 1 })
    | .nextCommand, .ready count, _, cmd :: rest =>
      if count < 16 then some (cmd, { s with cmdRx := rest, phase := .ready (count + 1) })
      else none
    | _, _, _, _ => none
  else none

/-- How the action tries a request. -/
def stepTries (action : ClientAction) (s : ClientTask σ τ) (respTx : Nat) : List Try :=
  match s.dispatching setup action with
  | some (.request params respTx' retryAttempts retryDelayMs, s') =>
    if respTx' = respTx then s'.loopTries setup params respTx' retryDelayMs retryAttempts.toNat
    else []
  | _ => []

end

end ClientTask

/-- A task, with the retries that its requests were submitted with and with their tries. -/
structure WatchedTask (σ τ : Type) where
  task : ClientTask σ τ
  retries : Nat → Nat
  tries : Nat → List Try

namespace WatchedTask

variable [Features] {σ τ : Type} (setup : ClientTaskSetup σ τ)

/-- A new task, which has no requests. -/
def new (outside : σ) : WatchedTask σ τ := ⟨.new outside, fun _ => 0, fun _ => []⟩

/-- One action. -/
def perform (action : ClientAction) (w : WatchedTask σ τ) : WatchedTask σ τ where
  task := w.task.perform setup action
  retries :=
    match action with
    | .request _ retryAttempts _ =>
      if w.task.status = .running ∧ ¬w.task.handlesDropped then
        Function.update w.retries w.task.accepted retryAttempts.toNat
      else w.retries
    | _ => w.retries
  tries respTx := w.tries respTx ++ w.task.stepTries setup action respTx

end WatchedTask

/-! ### What an action does to the requests -/

namespace ClientTask

section

variable {σ τ : Type}

/-- The two states hold and have completed the same requests. -/
structure SameBooks (s s' : ClientTask σ τ) : Prop where
  nextTxnId : s'.nextTxnId = s.nextTxnId
  issued : s'.issued = s.issued
  accepted : s'.accepted = s.accepted
  completions : s'.completions = s.completions
  pending : s'.pending = s.pending
  queued : s'.queued = s.queued
  cmdRx : s'.cmdRx = s.cmdRx

lemma SameBooks.refl (s : ClientTask σ τ) : SameBooks s s := ⟨rfl, rfl, rfl, rfl, rfl, rfl, rfl⟩

end

variable [Features] {σ τ : Type} {setup : ClientTaskSetup σ τ} {s : ClientTask σ τ}

/-- What an action does. -/
inductive Stepped (setup : ClientTaskSetup σ τ) (action : ClientAction) (s : ClientTask σ τ) :
    ClientTask σ τ → Prop
  | same {s'} (h : SameBooks s s') : Stepped setup action s s'
  | accept {s'} (params : ClientRequest) (retryAttempts : UInt8) (retryDelayMs : UInt64)
      (haction : action = .request params retryAttempts retryDelayMs)
      (hopen : s.status = .running ∧ ¬s.handlesDropped)
      (h : SameBooks { s with
        cmdRx := s.cmdRx ++ [.request params s.accepted retryAttempts retryDelayMs]
        accepted := s.accepted + 1 } s') : Stepped setup action s s'
  | submit {s'} (cmd : TaskCommand) (hcmd : cmd.channel = none)
      (h : SameBooks { s with cmdRx := s.cmdRx ++ [cmd] } s') : Stepped setup action s s'
  | dispatch (cmd : TaskCommand) (s' : ClientTask σ τ)
      (h : s.dispatching setup action = some (cmd, s')) :
      Stepped setup action s (s'.dispatchRequest setup cmd)
  | enqueue {s'} (params : ClientRequest) (respTx : Nat) (retryAttempts : UInt8)
      (retryDelayMs : UInt64) (rest : List TaskCommand)
      (hcmd : s.cmdRx = .request params respTx retryAttempts retryDelayMs :: rest)
      (h : SameBooks { s with
        cmdRx := rest
        queued := s.queued ++ [.request params respTx retryAttempts retryDelayMs] } s') :
      Stepped setup action s s'
  | connect {s'} (rest : List TaskCommand) (hcmd : s.cmdRx = .connect :: rest)
      (h : SameBooks { s with cmdRx := rest } s') : Stepped setup action s s'
  | drain {s' : ClientTask σ τ} (cmd : TaskCommand) (rest : List TaskCommand)
      (hhandled : s.handled setup action = some (cmd, rest))
      (hcmd : cmd = .disconnect ∨ cmd = .shutdown) (hrest : s'.cmdRx.Sublist s.cmdRx)
      (h : SameBooks { s.drainAll with cmdRx := s'.cmdRx } s') : Stepped setup action s s'
  | lose {s' s''} (h : SameBooks s s') (hlost : SameBooks s'.handleConnectionLoss s'') :
      Stepped setup action s s''
  | answer {s'} (h : SameBooks s s') (key : UInt16) (entry : PendingEntry) (frame : List UInt8)
      (result : Except MbusError ClientResponse) (hentry : s.pending.get key = some entry) :
      Stepped setup action s ((s'.removeEntry key).answer setup key entry frame result)
  | stop {s' : ClientTask σ τ} (hcompletions : s'.completions = s.completions) (hissued : s'.issued = s.issued)
      (haccepted : s'.accepted = s.accepted) (hnext : s'.nextTxnId = s.nextTxnId)
      (status : TaskStatus) (hended : status ≠ .running) : Stepped setup action s (s'.stop status)

lemma stepped_submit {action : ClientAction} {cmd : TaskCommand} (hcmd : cmd.channel = none) :
    Stepped setup action s (s.submit cmd) := by
  unfold submit
  split
  · exact .submit cmd hcmd (.refl _)
  · exact .same (.refl s)

/-- A frame or the loss of the connection. -/
lemma stepped_receive {action : ClientAction} : Stepped setup action s (s.receive setup) := by
  unfold receive
  split
  · exact .same (.refl s)
  · rename_i t _
    dsimp only
    split
    · have hmoved : SameBooks s { s with
          transport := some { t with link := (t.link.recv setup.transport).2 }
          phase := .backlog } := ⟨rfl, rfl, rfl, rfl, rfl, rfl, rfl⟩
      have hclosed : SameBooks s { s with transport := none, phase := .backlog } :=
        ⟨rfl, rfl, rfl, rfl, rfl, rfl, rfl⟩
      split
      · rename_i frame _
        rcases processFrame_cases setup _ frame.toList with heq | ⟨key, entry, result, hentry, heq⟩ |
          ⟨s', rfl | ⟨key, rfl⟩, heq⟩
        · rw [heq]
          exact .same hmoved
        · rw [heq]
          exact .answer hmoved key entry frame.toList result hentry
        · rw [heq]
          exact .stop (by rfl) (by rfl) (by rfl) (by rfl) _ (by rintro ⟨⟩)
        · rw [heq]
          exact .stop (by rfl) (by rfl) (by rfl) (by rfl) _ (by rintro ⟨⟩)
      · exact .lose hclosed (.refl _)
    · exact .same (.refl s)

/-- A command that is taken from the channel. -/
lemma stepped_handleCommand {action : ClientAction} {cmd : TaskCommand} {rest : List TaskCommand}
    (hcmd : s.cmdRx = cmd :: rest) (phase : LoopPhase)
    (hhandled : s.handled setup action = some (cmd, rest))
    (hdispatching : s.inFlight < setup.pipeline →
      s.dispatching setup action = some (cmd, { s with cmdRx := rest, phase := phase })) :
    Stepped setup action s
      (ClientTask.handleCommand { s with cmdRx := rest, phase := phase } setup cmd) := by
  have hrest : rest.Sublist s.cmdRx := by
    rw [hcmd]
    exact List.sublist_cons_self cmd rest
  cases cmd with
  | connect =>
    refine .connect rest hcmd ?_
    simp only [handleCommand, doConnect]
    cases setup.connectFn s.outside with
    | mk result outside => cases result <;> exact ⟨rfl, rfl, rfl, rfl, rfl, rfl, rfl⟩
  | disconnect =>
    exact .drain .disconnect rest hhandled (Or.inl rfl) hrest ⟨rfl, rfl, rfl, rfl, rfl, rfl, rfl⟩
  | shutdown =>
    exact .drain .shutdown rest hhandled (Or.inr rfl) (List.nil_sublist _)
      ⟨rfl, rfl, rfl, rfl, rfl, rfl, rfl⟩
  | request params respTx retryAttempts retryDelayMs =>
    unfold handleCommand
    dsimp only
    split
    · rename_i hroom
      exact .dispatch _ _ (hdispatching hroom)
    · exact .enqueue params respTx retryAttempts retryDelayMs rest hcmd
        ⟨rfl, rfl, rfl, rfl, rfl, rfl, rfl⟩

/-- What an action does is one of these. -/
lemma stepped (setup : ClientTaskSetup σ τ) (action : ClientAction) (s : ClientTask σ τ) :
    Stepped setup action s (s.perform setup action) := by
  unfold perform
  split
  · exact .same (.refl s)
  rename_i hrun
  rw [ne_eq, not_not] at hrun
  split
  case h_1 _ params retryAttempts retryDelayMs =>
    unfold sendCommand
    split
    · rename_i hopen
      exact .accept params retryAttempts retryDelayMs rfl hopen (.refl _)
    · exact .same (.refl s)
  case h_2 => exact stepped_submit rfl
  case h_3 => exact stepped_submit rfl
  case h_4 => exact stepped_submit rfl
  case h_5 => exact .same ⟨rfl, rfl, rfl, rfl, rfl, rfl, rfl⟩
  case h_6 hphase =>
    unfold drainBacklog
    split
    · rename_i hroom
      split
      · rename_i cmd queued hqueued
        refine .dispatch cmd { s with queued := queued } ?_
        simp only [dispatching, if_pos (And.intro hrun hroom), hphase, hqueued]
      · exact .same ⟨rfl, rfl, rfl, rfl, rfl, rfl, rfl⟩
    · exact .same ⟨rfl, rfl, rfl, rfl, rfl, rfl, rfl⟩
  case h_7 => exact stepped_receive
  case h_8 hphase =>
    unfold command
    split
    · rename_i cmd rest hcmd
      refine stepped_handleCommand hcmd _ ?_ fun hroom => ?_
      · simp only [handled, hphase, hcmd]
      · simp only [dispatching, if_pos (And.intro hrun hroom), hphase, hcmd]
    · split
      · exact .stop rfl rfl rfl rfl _ (by rintro ⟨⟩)
      · exact .same (.refl s)
  case h_9 count hphase =>
    unfold nextCommand
    split
    · rename_i cmd rest hcmd
      split
      · rename_i hready
        refine stepped_handleCommand hcmd _ ?_ fun hroom => ?_
        · simp only [handled, hphase, hcmd, if_pos hready]
        · simp only [dispatching, if_pos (And.intro hrun hroom), hphase, hcmd, if_pos hready.2]
      · exact .same ⟨rfl, rfl, rfl, rfl, rfl, rfl, rfl⟩
    · exact .same ⟨rfl, rfl, rfl, rfl, rfl, rfl, rfl⟩
  case h_10 => exact .same (.refl s)

end ClientTask

/-! ### Retries and tries -/

namespace PendingMap

variable {m : PendingMap} {key : UInt16} {entry : PendingEntry}

/-- A new entry may take the place of another. -/
lemma mem_insert (order : HashOrder) {e : UInt16 × PendingEntry}
    (h : e ∈ (m.insert order key entry).entries) : e = (key, entry) ∨ e ∈ m.entries := by
  by_cases hkey : key ∈ m.entries.map (·.1)
  · rw [insert, dif_pos hkey] at h
    obtain ⟨old, hold, rfl⟩ := List.mem_map.mp h
    split
    · exact Or.inl rfl
    · exact Or.inr hold
  · exact List.mem_cons.mp ((insert_perm order hkey entry).mem_iff.mp h)

lemma count_insert_le (order : HashOrder) (n : Nat) :
    ((m.insert order key entry).entries.map (·.2.respTx)).count n ≤
      [entry.respTx].count n + (m.entries.map (·.2.respTx)).count n := by
  by_cases hkey : key ∈ m.entries.map (·.1)
  · obtain ⟨old, hold, rfl⟩ := List.mem_map.mp hkey
    obtain ⟨before, after, hentries⟩ := List.append_of_mem hold
    have hnodup := m.nodup
    rw [hentries, List.map_append, List.map_cons, List.nodup_append, List.nodup_cons] at hnodup
    obtain ⟨_, ⟨hafter, _⟩, hbefore⟩ := hnodup
    have hkeep : ∀ l : List (UInt16 × PendingEntry), (∀ e ∈ l, e.1 ≠ old.1) →
        (l.map fun e => if e.1 = old.1 then (old.1, entry) else e) = l := by
      intro l hl
      conv_rhs => rw [← List.map_id l]
      exact List.map_congr_left fun e he => by rw [if_neg (hl e he), id]
    have hother : ∀ e ∈ before, e.1 ≠ old.1 := fun e he =>
      hbefore _ (List.mem_map_of_mem he) _ List.mem_cons_self
    have hother' : ∀ e ∈ after, e.1 ≠ old.1 := fun e he heq =>
      hafter (heq ▸ List.mem_map_of_mem he)
    rw [insert, dif_pos hkey]
    simp only [hentries, List.map_append, List.map_cons, if_true, hkeep before hother,
      hkeep after hother', List.count_append, List.count_cons, List.count_nil]
    omega
  · have hperm := ((insert_perm order hkey entry).map (·.2.respTx)).count_eq n
    rw [List.map_cons, List.count_cons] at hperm
    rw [hperm, List.count_singleton]
    exact Nat.le_of_eq (Nat.add_comm _ _)

end PendingMap

/-- The retries that a command has left, and those that the tries of its request have used. -/
def TaskCommand.Within (retries tries : Nat → Nat) : TaskCommand → Prop
  | .request _ respTx retryAttempts _ => tries respTx + retryAttempts.toNat = retries respTx
  | _ => True

namespace ClientTask

/-- What holds between two operations of the task, with the channels of `hand` taken out of the
queues. The try that a pending request is in the middle of is not paid for yet. -/
structure Tracked {σ τ : Type} (retries tries : Nat → Nat) (hand : List Nat)
    (s : ClientTask σ τ) : Prop where
  next : s.nextTxnId = idOf s.issued
  keyed : ∀ e ∈ s.pending.entries, e.1 = idOf e.2.serial ∧ e.2.serial < s.issued
  once : ∀ n, (s.completions.map (·.respTx)).count n + hand.count n + s.held.count n ≤
    (List.range s.accepted).count n
  waiting : ∀ cmd ∈ s.queued ++ s.cmdRx, cmd.Within retries tries
  inFlight : ∀ e ∈ s.pending.entries,
    tries e.2.respTx + e.2.retryAttempts.toNat = retries e.2.respTx + 1
  fresh : ∀ n, s.accepted ≤ n → tries n = 0
  limited : ∀ n, tries n ≤ retries n + 1

section

variable {σ τ : Type} {s : ClientTask σ τ}

lemma mem_held_of_pending {e : UInt16 × PendingEntry} (he : e ∈ s.pending.entries) :
    e.2.respTx ∈ s.held :=
  List.mem_append_left _ (List.mem_append_left _ (List.mem_map_of_mem (f := (·.2.respTx)) he))

lemma mem_held_of_waiting {respTx : Nat} {cmd : TaskCommand} (hcmd : cmd ∈ s.queued ++ s.cmdRx)
    (hchannel : cmd.channel = some respTx) : respTx ∈ s.held := by
  have hmem := List.mem_filterMap.mpr ⟨cmd, hcmd, hchannel⟩
  rw [List.filterMap_append] at hmem
  rw [held, List.append_assoc]
  exact List.mem_append_right _ hmem

end

namespace Tracked

section

variable {σ τ : Type} {s s' : ClientTask σ τ} {retries tries : Nat → Nat} {hand : List Nat}

lemma congr (h : Tracked retries tries hand s) (hsame : SameBooks s s') :
    Tracked retries tries hand s' where
  next := by rw [hsame.nextTxnId, hsame.issued, h.next]
  keyed e he := by
    rw [hsame.pending] at he
    rw [hsame.issued]
    exact h.keyed e he
  once n := by
    rw [held, hsame.completions, hsame.pending, hsame.queued, hsame.cmdRx, hsame.accepted]
    exact h.once n
  waiting cmd hcmd := h.waiting cmd (by rwa [hsame.queued, hsame.cmdRx] at hcmd)
  inFlight e he := h.inFlight e (hsame.pending ▸ he)
  fresh n hn := h.fresh n (hsame.accepted ▸ hn)
  limited := h.limited

/-- A request is in one place only. -/
lemma count_le_one (h : Tracked retries tries hand s) (n : Nat) :
    (s.completions.map (·.respTx)).count n + hand.count n + s.held.count n ≤ 1 :=
  Nat.le_trans (h.once n) (List.nodup_iff_count_le_one.mp List.nodup_range n)

/-- A request that is taken out is neither completed nor held. -/
lemma not_held {respTx : Nat} (h : Tracked retries tries (respTx :: hand) s) :
    (s.completions.map (·.respTx)).count respTx = 0 ∧ s.held.count respTx = 0 := by
  have hone := h.count_le_one respTx
  rw [List.count_cons_self] at hone
  omega

lemma not_completed {respTx : Nat}
    (h : Tracked retries tries (respTx :: hand) s) {c : Completion} (hc : c ∈ s.completions) :
    c.respTx ≠ respTx := by
  rintro rfl
  exact List.count_eq_zero.mp h.not_held.1 (List.mem_map_of_mem hc)

lemma ne_of_mem_pending {respTx : Nat} (h : Tracked retries tries (respTx :: hand) s)
    {e : UInt16 × PendingEntry} (he : e ∈ s.pending.entries) : e.2.respTx ≠ respTx := by
  rintro rfl
  exact List.count_eq_zero.mp h.not_held.2 (mem_held_of_pending he)

lemma ne_of_mem_waiting {respTx respTx' : Nat} (h : Tracked retries tries (respTx :: hand) s)
    {cmd : TaskCommand} (hcmd : cmd ∈ s.queued ++ s.cmdRx) (hchannel : cmd.channel = some respTx') :
    respTx' ≠ respTx := by
  rintro rfl
  exact List.count_eq_zero.mp h.not_held.2 (mem_held_of_waiting hcmd hchannel)

lemma lt_accepted {respTx : Nat} (h : Tracked retries tries (respTx :: hand) s) :
    respTx < s.accepted := by
  have hone := h.once respTx
  rw [List.count_cons_self] at hone
  exact List.mem_range.mp (List.count_pos_iff.mp (by omega))

/-- One more try of a request that is taken out. -/
lemma tick {respTx : Nat} (h : Tracked retries tries (respTx :: hand) s)
    (hretries : tries respTx ≤ retries respTx) :
    Tracked retries (Function.update tries respTx (tries respTx + 1)) (respTx :: hand) s where
  next := h.next
  keyed := h.keyed
  once := h.once
  waiting cmd hcmd := by
    have hwithin := h.waiting cmd hcmd
    cases cmd with
    | request params respTx' retryAttempts retryDelayMs =>
      rw [TaskCommand.Within, Function.update_of_ne (h.ne_of_mem_waiting hcmd rfl)]
      exact hwithin
    | _ => trivial
  inFlight e he := by
    rw [Function.update_of_ne (h.ne_of_mem_pending he)]
    exact h.inFlight e he
  fresh n hn := by
    have hlt := h.lt_accepted
    rw [Function.update_of_ne (by omega)]
    exact h.fresh n hn
  limited n := by
    by_cases heq : n = respTx
    · rw [heq, Function.update_self]
      exact Nat.succ_le_succ hretries
    · rw [Function.update_of_ne heq]
      exact h.limited n

lemma advance (h : Tracked retries tries hand s) : Tracked retries tries hand s.advanceTxnId where
  next := by
    change (if s.nextTxnId + 1 = 0 then 1 else s.nextTxnId + 1) = _
    rw [h.next, idOf_succ]
    rfl
  keyed e he := ⟨(h.keyed e he).1, Nat.lt_succ_of_lt (h.keyed e he).2⟩
  once := h.once
  waiting := h.waiting
  inFlight := h.inFlight
  fresh := h.fresh
  limited := h.limited

lemma complete {respTx : Nat} (h : Tracked retries tries (respTx :: hand) s)
    (result : Except MbusError ClientResponse) :
    Tracked retries tries hand (s.complete respTx result) where
  next := h.next
  keyed := h.keyed
  once n := by
    have hcount := h.once n
    rw [List.count_cons] at hcount
    have hheld : (s.complete respTx result).held = s.held := rfl
    rw [hheld]
    simp only [ClientTask.complete, List.map_append, List.map_cons, List.map_nil,
      List.count_append, List.count_cons, List.count_nil]
    omega
  waiting := h.waiting
  inFlight := h.inFlight
  fresh := h.fresh
  limited := h.limited

/-- A request that goes back to the queue pays for its last try. -/
lemma lose (h : Tracked retries tries hand s) :
    Tracked retries tries hand s.handleConnectionLoss where
  next := h.next
  keyed _ he := nomatch he
  once n := by
    have hcount := h.once n
    have hsorted := count_sorted s.pending n
    rw [count_held] at hcount ⊢
    simp only [handleConnectionLoss, List.map_append, List.filterMap_append, List.count_append,
      map_closed, filterMap_channel_again, PendingMap.new, List.map_nil, List.count_nil]
    omega
  waiting cmd hcmd := by
    rcases List.mem_append.mp hcmd with hqueued | hrest
    · rcases List.mem_append.mp hqueued with hagain | hold
      · obtain ⟨e, he, rfl⟩ := List.mem_map.mp hagain
        obtain ⟨hmem, hpos⟩ := List.mem_filter.mp he
        have hin := h.inFlight e ((List.mergeSort_perm _ _).mem_iff.mp hmem)
        have hpos : 0 < e.2.retryAttempts := of_decide_eq_true hpos
        have hone : (e.2.retryAttempts - 1).toNat = e.2.retryAttempts.toNat - 1 :=
          UInt8.toNat_sub_of_le _ _ (UInt8.le_iff_toNat_le.mpr (UInt8.lt_iff_toNat_lt.mp hpos))
        have hpos := UInt8.lt_iff_toNat_lt.mp hpos
        change tries e.2.respTx + (e.2.retryAttempts - 1).toNat = retries e.2.respTx
        rw [hone]
        have hzero : (0 : UInt8).toNat = 0 := rfl
        omega
      · exact h.waiting cmd (List.mem_append_left _ hold)
    · exact h.waiting cmd (List.mem_append_right _ hrest)
  inFlight _ he := nomatch he
  fresh := h.fresh
  limited := h.limited

lemma drain (h : Tracked retries tries hand s) (cmdRx : List TaskCommand)
    (hrest : cmdRx.Sublist s.cmdRx) :
    Tracked retries tries hand { s.drainAll with cmdRx := cmdRx } where
  next := h.next
  keyed _ he := nomatch he
  once n := by
    have hcount := h.once n
    have hsub := (hrest.filterMap (·.channel)).count_le n
    rw [count_held] at hcount ⊢
    dsimp only
    rw [drainAll_completions, List.map_append, List.map_append, map_closed, map_closed_channels,
      List.count_append, List.count_append]
    simp only [drainAll, PendingMap.new, List.map_nil, List.filterMap_nil, List.count_nil]
    omega
  waiting cmd hcmd := h.waiting cmd (List.mem_append_right _ (hrest.subset hcmd))
  inFlight _ he := nomatch he
  fresh := h.fresh
  limited := h.limited

lemma stop (h : Tracked retries tries hand s) (hcompletions : s'.completions = s.completions)
    (hissued : s'.issued = s.issued) (haccepted : s'.accepted = s.accepted)
    (hnext : s'.nextTxnId = s.nextTxnId) (status : TaskStatus) :
    Tracked retries tries hand (s'.stop status) where
  next := hnext.trans (h.next.trans (congrArg idOf hissued.symm))
  keyed _ he := nomatch he
  once n := by
    have hcount := h.once n
    rw [← hcompletions, ← haccepted] at hcount
    exact Nat.le_trans (Nat.add_le_add_left (Nat.zero_le _) _) hcount
  waiting _ hcmd := nomatch hcmd
  inFlight _ he := nomatch he
  fresh n hn := h.fresh n (haccepted ▸ hn)
  limited := h.limited

/-- A new request has all its retries. -/
lemma accept (h : Tracked retries tries [] s) (params : ClientRequest) (retryAttempts : UInt8)
    (retryDelayMs : UInt64) :
    Tracked (Function.update retries s.accepted retryAttempts.toNat) tries []
      { s with
        cmdRx := s.cmdRx ++ [.request params s.accepted retryAttempts retryDelayMs]
        accepted := s.accepted + 1 } := by
  have hnew : s.accepted ∉ s.held := by
    have hcount := h.once s.accepted
    rw [List.count_eq_zero.mpr List.not_mem_range_self] at hcount
    exact List.count_eq_zero.mp (by omega)
  refine ⟨h.next, h.keyed, fun n => ?_, fun cmd hcmd => ?_, fun e he => ?_, fun n hn => ?_,
    fun n => ?_⟩
  · have hcount := h.once n
    rw [count_held] at hcount ⊢
    rw [List.range_succ, List.count_append, List.filterMap_append, List.count_append]
    change _ + _ + (_ + _ + (_ + [s.accepted].count n)) ≤ _
    dsimp only
    omega
  · rw [← List.append_assoc] at hcmd
    rcases List.mem_append.mp hcmd with hold | hlast
    · have hwithin := h.waiting cmd hold
      cases cmd with
      | request params' respTx retryAttempts' retryDelayMs' =>
        have hne : respTx ≠ s.accepted := by
          rintro rfl
          exact hnew (mem_held_of_waiting hold rfl)
        rw [TaskCommand.Within, Function.update_of_ne hne]
        exact hwithin
      | _ => trivial
    · rw [List.mem_singleton.mp hlast, TaskCommand.Within, Function.update_self,
        h.fresh s.accepted (Nat.le_refl _), Nat.zero_add]
  · have hne : e.2.respTx ≠ s.accepted := fun heq => hnew (heq ▸ mem_held_of_pending he)
    rw [Function.update_of_ne hne]
    exact h.inFlight e he
  · exact h.fresh n (Nat.le_trans (Nat.le_succ _) hn)
  · by_cases heq : n = s.accepted
    · rw [heq, h.fresh s.accepted (Nat.le_refl _)]
      exact Nat.zero_le _
    · rw [Function.update_of_ne heq]
      exact h.limited n

end

variable [Features] {σ τ : Type} {setup : ClientTaskSetup σ τ} {s : ClientTask σ τ}
  {retries tries : Nat → Nat} {hand : List Nat}

/-- One round of sending: the request is pending or completed, or the round has cost a try. -/
lemma send (setup : ClientTaskSetup σ τ) (request : ClientRequest) {respTx : Nat}
    {t : OpenTransport τ} (h : Tracked retries tries (respTx :: hand) s) (htransport : s.transport = some t)
    (retryAttempts : UInt8) (retryDelayMs : UInt64)
    (hleft : tries respTx + retryAttempts.toNat = retries respTx) :
    match s.sendRequest setup request respTx retryAttempts retryDelayMs with
    | .inl s' =>
      Tracked retries (Function.update tries respTx
        (tries respTx + (s.sendTries setup request).length)) hand s' ∧
      ((∃ frame, encodeRequest s.nextTxnId request setup.transport.transportType = .ok frame) →
        s'.completions = s.completions)
    | .inr (_, s') =>
      s.sendTries setup request = [.send] ∧
      Tracked retries (Function.update tries respTx (tries respTx + 1)) (respTx :: hand) s' ∧
      s'.transport = none := by
  have htick := h.tick (by omega)
  unfold sendRequest sendTries
  cases hframe : encodeRequest s.nextTxnId request setup.transport.transportType with
  | panic =>
    refine ⟨?_, fun _ => rfl⟩
    rw [List.length_nil, Nat.add_zero, Function.update_eq_self]
    exact ⟨h.next, nofun, fun n => Nat.le_trans (Nat.add_le_add
      (Nat.add_le_add_left (List.count_le_count_cons) _) (Nat.zero_le _)) (h.once n), nofun, nofun,
      h.fresh, h.limited⟩
  | err e =>
    refine ⟨?_, fun ⟨_, hframe⟩ => by cases hframe⟩
    rw [List.length_nil, Nat.add_zero, Function.update_eq_self]
    exact h.advance.complete _
  | ok frame =>
    simp only [htransport]
    cases (t.link.send setup.transport frame.toList).1 with
    | error e =>
      have hclosed : SameBooks s.advanceTxnId { s.advanceTxnId with transport := none } :=
        ⟨rfl, rfl, rfl, rfl, rfl, rfl, rfl⟩
      exact ⟨trivial, (htick.advance.congr hclosed).lose, rfl⟩
    | ok _ =>
      refine ⟨⟨h.advance.next, ?_, fun n => ?_, htick.waiting, ?_, htick.fresh, htick.limited⟩,
        fun _ => rfl⟩
      · intro e he
        rcases PendingMap.mem_insert setup.order he with rfl | hold
        · exact ⟨h.next, Nat.lt_succ_self _⟩
        · exact h.advance.keyed e hold
      · have hcount := h.once n
        have hinsert := @PendingMap.count_insert_le s.pending s.nextTxnId
          ⟨respTx, request, retryAttempts, retryDelayMs, t.connection, s.issued⟩ setup.order n
        rw [count_held, List.count_cons] at hcount
        rw [List.count_singleton] at hinsert
        dsimp only at hinsert
        have hsum : (s.completions.map (·.respTx)).count n + hand.count n +
            (((s.pending.insert setup.order s.nextTxnId ⟨respTx, request, retryAttempts,
              retryDelayMs, t.connection, s.issued⟩).entries.map (·.2.respTx)).count n +
              (s.queued.filterMap (·.channel)).count n +
              (s.cmdRx.filterMap (·.channel)).count n) ≤ (List.range s.accepted).count n := by
          omega
        rw [count_held]
        exact hsum
      · intro e he
        rcases PendingMap.mem_insert setup.order he with rfl | hold
        · rw [Function.update_self]
          change tries respTx + 1 + retryAttempts.toNat = retries respTx + 1
          omega
        · exact htick.inFlight e hold

/-- A dispatch ends with the request pending or completed. A request that the encoder takes is
completed when its retries are used up, without another try unless the first one had none. -/
lemma dispatchLoop (setup : ClientTaskSetup σ τ) (request : ClientRequest) {respTx : Nat}
    (retryDelayMs : UInt64) (retry : Nat) (hbyte : retry ≤ 255)
    (h : Tracked retries tries (respTx :: hand) s)
    (hleft : tries respTx + retry = retries respTx) :
    Tracked retries (Function.update tries respTx (tries respTx +
      (loopTries setup request respTx retryDelayMs retry s).length)) hand
      (s.dispatchLoop setup request respTx retryDelayMs retry) ∧
    ((∀ txnId, ∃ frame,
        encodeRequest txnId request setup.transport.transportType = .ok frame) →
      (∃ c ∈ (s.dispatchLoop setup request respTx retryDelayMs retry).completions,
        c.respTx = respTx) →
      (loopTries setup request respTx retryDelayMs retry s).length =
        if retry = 0 ∧ s.transport.isSome then 1 else retry) := by
  induction retry generalizing s tries with
  | zero =>
    rw [ClientTask.dispatchLoop, loopTries]
    cases htransport : s.transport with
    | none =>
      refine ⟨?_, fun _ _ => rfl⟩
      dsimp only
      rw [List.length_nil, Nat.add_zero, Function.update_eq_self]
      exact h.complete _
    | some t =>
      have hsend := h.send setup request htransport 0 retryDelayMs hleft
      dsimp only
      cases hs' : s.sendRequest setup request respTx 0 retryDelayMs with
      | inl s' =>
        rw [hs'] at hsend
        refine ⟨hsend.1, fun hencodes hdone => ?_⟩
        obtain ⟨c, hc, hrespTx⟩ := hdone
        dsimp only at hc
        rw [hsend.2 (hencodes _)] at hc
        exact absurd hrespTx (h.not_completed hc)
      | inr failed =>
        obtain ⟨e, s'⟩ := failed
        rw [hs'] at hsend
        rw [hsend.1]
        exact ⟨hsend.2.1.complete _, fun _ _ => rfl⟩
  | succ retry ih =>
    rw [ClientTask.dispatchLoop, loopTries]
    have hconnected : ∀ c, c = (if s.transport.isNone then s.doConnect setup else (.ok (), s)) →
        SameBooks s c.2 ∧ ∀ u, c.1 = .ok u → ∃ t, c.2.transport = some t := by
      rintro c rfl
      split
      · rw [doConnect]
        cases setup.connectFn s.outside with
        | mk result outside =>
          cases result with
          | error e => exact ⟨⟨rfl, rfl, rfl, rfl, rfl, rfl, rfl⟩, by rintro _ ⟨⟩⟩
          | ok state => exact ⟨⟨rfl, rfl, rfl, rfl, rfl, rfl, rfl⟩, fun _ _ => ⟨_, rfl⟩⟩
      · rename_i hsome
        rw [Option.isNone_iff_eq_none] at hsome
        exact ⟨.refl s, fun _ _ => Option.ne_none_iff_exists'.mp hsome⟩
    generalize (if s.transport.isNone then s.doConnect setup else (.ok (), s)) = c at hconnected ⊢
    obtain ⟨hsame, hopen⟩ := hconnected c rfl
    obtain ⟨result, s'⟩ := c
    have hs := h.congr hsame
    -- one try later the request has one retry less
    have hpaid : Function.update tries respTx (tries respTx + 1) respTx + retry =
        retries respTx := by
      rw [Function.update_self]
      omega
    cases result with
    | error e =>
      have htick := hs.tick (by omega)
      dsimp only
      by_cases hzero : retry = 0
      · rw [if_pos hzero, if_pos hzero, hzero]
        exact ⟨htick.complete _, fun _ _ => rfl⟩
      · rw [if_neg hzero, if_neg hzero, List.length_cons]
        obtain ⟨htracked, hlength⟩ := ih (by omega) htick hpaid
        rw [Function.update_self, Function.update_idem] at htracked
        refine ⟨by rwa [Nat.add_right_comm] at htracked, fun hencodes hdone => ?_⟩
        rw [hlength hencodes hdone, if_neg (fun h => hzero h.1), if_neg (fun h => by cases h.1)]
    | ok u =>
      obtain ⟨t, htransport⟩ := hopen u rfl
      have hbyte' : (UInt8.ofNat (retry + 1)).toNat = retry + 1 := by
        rw [UInt8.toNat_ofNat', Nat.mod_eq_of_lt (by omega)]
      have hsend := hs.send setup request htransport (UInt8.ofNat (retry + 1)) retryDelayMs
        (hbyte'.symm ▸ hleft)
      dsimp only
      cases hs'' : s'.sendRequest setup request respTx (UInt8.ofNat (retry + 1)) retryDelayMs with
      | inl s'' =>
        rw [hs''] at hsend
        dsimp only
        rw [List.append_nil]
        refine ⟨hsend.1, fun hencodes hdone => ?_⟩
        obtain ⟨c, hc, hrespTx⟩ := hdone
        rw [hsend.2 (hencodes _)] at hc
        exact absurd hrespTx (hs.not_completed hc)
      | inr failed =>
        obtain ⟨e, s''⟩ := failed
        rw [hs''] at hsend
        obtain ⟨htries, htick, hclosed⟩ := hsend
        obtain ⟨htracked, hlength⟩ := ih (by omega) htick hpaid
        rw [Function.update_self, Function.update_idem] at htracked
        dsimp only
        rw [htries, List.singleton_append, List.length_cons]
        refine ⟨by rwa [Nat.add_right_comm] at htracked, fun hencodes hdone => ?_⟩
        rw [hlength hencodes hdone, hclosed, if_neg (fun h => by cases h.2),
          if_neg (fun h => by cases h.1)]

/-- The command that is dispatched is taken out of the backlog or of the channel. -/
lemma take {action : ClientAction} {cmd : TaskCommand} {s' : ClientTask σ τ}
    (h : Tracked retries tries [] s) (htaken : s.dispatching setup action = some (cmd, s')) :
    Tracked retries tries cmd.channel.toList s' ∧ cmd.Within retries tries := by
  have hcount : ∀ n l, (List.filterMap TaskCommand.channel (cmd :: l)).count n =
      cmd.channel.toList.count n + (l.filterMap (·.channel)).count n := by
    intro n l
    rw [List.filterMap_cons]
    cases cmd.channel with
    | none => rw [Option.toList_none, List.count_nil, Nat.zero_add]
    | some m => rw [Option.toList_some, List.count_cons, List.count_singleton, Nat.add_comm]
  -- the first of the backlog, and the first of the channel
  have hbacklog : ∀ queued, s.queued = cmd :: queued →
      Tracked retries tries cmd.channel.toList { s with queued := queued } ∧
        cmd.Within retries tries := by
    intro queued hqueued
    refine ⟨⟨h.next, h.keyed, fun n => ?_, fun c hc => h.waiting c ?_, h.inFlight, h.fresh,
      h.limited⟩, h.waiting cmd ?_⟩
    · have honce := h.once n
      rw [count_held, hqueued, hcount n queued] at honce
      rw [count_held]
      rw [List.count_nil] at honce
      dsimp only
      omega
    · rw [hqueued]
      exact List.mem_cons_of_mem _ hc
    · rw [hqueued]
      exact List.mem_cons_self
  have hchannel : ∀ rest phase, s.cmdRx = cmd :: rest →
      Tracked retries tries cmd.channel.toList { s with cmdRx := rest, phase := phase } ∧
        cmd.Within retries tries := by
    intro rest phase hcmd
    refine ⟨⟨h.next, h.keyed, fun n => ?_, fun c hc => h.waiting c ?_, h.inFlight, h.fresh,
      h.limited⟩, h.waiting cmd ?_⟩
    · have honce := h.once n
      rw [count_held, hcmd, hcount n rest] at honce
      rw [count_held]
      rw [List.count_nil] at honce
      dsimp only
      omega
    · rw [hcmd]
      exact (List.Sublist.append_left (List.sublist_cons_self _ _) _).subset hc
    · rw [hcmd]
      exact List.mem_append_right _ List.mem_cons_self
  unfold dispatching at htaken
  split at htaken
  · split at htaken
    · rename_i queued _ hqueued
      cases htaken
      exact hbacklog queued hqueued
    · rename_i rest _ hcmd
      cases htaken
      exact hchannel rest _ hcmd
    · rename_i rest _ hcmd
      split at htaken
      · cases htaken
        exact hchannel rest _ hcmd
      · cases htaken
    · cases htaken
  · cases htaken

end Tracked

section

variable [Features] {σ τ : Type} {setup : ClientTaskSetup σ τ} {s : ClientTask σ τ}

/-- Taking a request out and dispatching it is all that the action does. -/
lemma perform_of_dispatching {action : ClientAction} {params : ClientRequest} {respTx : Nat}
    {retryAttempts : UInt8} {retryDelayMs : UInt64} {s' : ClientTask σ τ}
    (h : s.dispatching setup action =
      some (.request params respTx retryAttempts retryDelayMs, s')) :
    s.perform setup action =
      s'.dispatchLoop setup params respTx retryDelayMs retryAttempts.toNat := by
  unfold dispatching at h
  split at h
  · rename_i hready
    split at h
    · rename_i queued hphase hqueued
      cases h
      simp only [perform, hready.1, hphase, drainBacklog, hready.2, hqueued, dispatchRequest,
        ne_eq, not_true_eq_false, if_false, if_true]
    · rename_i rest hphase hcmd
      cases h
      simp only [perform, hready.1, hphase, command, handleCommand, hready.2, hcmd,
        dispatchRequest, ne_eq, not_true_eq_false, if_false, if_true]
    · rename_i rest hphase hcmd
      split at h
      · rename_i hcount
        cases h
        simp only [perform, hready.1, hphase, nextCommand, handleCommand, hready.2, hcmd, hcount,
          dispatchRequest, ne_eq, not_true_eq_false, if_false, if_true, and_self]
      · cases h
    · cases h
  · cases h

/-- Taking a command changes neither what is pending nor the transport. -/
lemma dispatching_same {action : ClientAction} {cmd : TaskCommand} {s' : ClientTask σ τ}
    (h : s.dispatching setup action = some (cmd, s')) :
    s'.completions = s.completions ∧ s'.pending = s.pending ∧ s'.transport = s.transport := by
  unfold dispatching at h
  split at h
  · split at h
    · cases h
      exact ⟨rfl, rfl, rfl⟩
    · cases h
      exact ⟨rfl, rfl, rfl⟩
    · split at h
      · cases h
        exact ⟨rfl, rfl, rfl⟩
      · cases h
    · cases h
  · cases h

lemma stepTries_of_dispatching {action : ClientAction} {params : ClientRequest} {respTx : Nat}
    {retryAttempts : UInt8} {retryDelayMs : UInt64} {s' : ClientTask σ τ}
    (h : s.dispatching setup action =
      some (.request params respTx retryAttempts retryDelayMs, s')) (n : Nat) :
    s.stepTries setup action n = if respTx = n then
      s'.loopTries setup params respTx retryDelayMs retryAttempts.toNat else [] := by
  rw [stepTries, h]

lemma stepTries_eq_nil {action : ClientAction}
    (h : ∀ params respTx retryAttempts retryDelayMs s', s.dispatching setup action ≠
      some (.request params respTx retryAttempts retryDelayMs, s')) (n : Nat) :
    s.stepTries setup action n = [] := by
  unfold stepTries
  split
  · rename_i hdispatching
    exact absurd hdispatching (h _ _ _ _ _)
  · rfl

/-- An action that neither accepts nor dispatches a request tries none. -/
lemma Tracked.step {retries tries : Nat → Nat} {action : ClientAction} {s' : ClientTask σ τ}
    (h : Tracked retries tries [] s) (hstep : Stepped setup action s s')
    (hrequest : ∀ params retryAttempts retryDelayMs,
      action ≠ .request params retryAttempts retryDelayMs)
    (hdispatching : ∀ params respTx retryAttempts retryDelayMs s', s.dispatching setup action ≠
      some (.request params respTx retryAttempts retryDelayMs, s')) :
    Tracked retries tries [] s' := by
  cases hstep with
  | same hsame => exact h.congr hsame
  | accept params retryAttempts retryDelayMs haction => exact absurd haction (hrequest _ _ _)
  | submit cmd hcmd hsame =>
    refine Tracked.congr ?_ hsame
    refine ⟨h.next, h.keyed, fun n => ?_, fun c hc => ?_, h.inFlight, h.fresh, h.limited⟩
    · have honce := h.once n
      rw [count_held] at honce ⊢
      rw [List.filterMap_append, List.filterMap_cons_none hcmd, List.filterMap_nil,
        List.append_nil]
      exact honce
    · rw [← List.append_assoc] at hc
      rcases List.mem_append.mp hc with hold | hnew
      · exact h.waiting c hold
      · rw [List.mem_singleton.mp hnew]
        cases cmd with
        | request => cases hcmd
        | _ => trivial
  | dispatch cmd s' htaken =>
    obtain ⟨htracked, _⟩ := h.take htaken
    cases cmd with
    | request params respTx retryAttempts retryDelayMs => exact absurd htaken (hdispatching _ _ _ _ _)
    | connect => exact htracked.congr ⟨rfl, rfl, rfl, rfl, rfl, rfl, rfl⟩
    | disconnect => exact htracked
    | shutdown => exact htracked
  | enqueue params respTx retryAttempts retryDelayMs rest hcmd hsame =>
    refine Tracked.congr ?_ hsame
    refine ⟨h.next, h.keyed, fun n => ?_, fun c hc => h.waiting c ?_, h.inFlight, h.fresh,
      h.limited⟩
    · have honce := h.once n
      rw [count_held, hcmd] at honce
      change _ + _ + (_ + _ + (respTx :: rest.filterMap (·.channel)).count n) ≤ _ at honce
      rw [List.count_cons] at honce
      rw [count_held, List.filterMap_append, List.count_append]
      change _ + _ + (_ + (_ + [respTx].count n) + _) ≤ _
      rw [List.count_singleton]
      dsimp only
      omega
    · rw [hcmd]
      rwa [List.append_assoc, List.singleton_append] at hc
  | connect rest hcmd hsame =>
    refine Tracked.congr ?_ hsame
    refine ⟨h.next, h.keyed, fun n => ?_, fun c hc => h.waiting c ?_, h.inFlight, h.fresh,
      h.limited⟩
    · have honce := h.once n
      rw [count_held, hcmd, List.filterMap_cons_none rfl] at honce
      rw [count_held]
      exact honce
    · rw [hcmd]
      exact (List.Sublist.append_left (List.sublist_cons_self _ _) _).subset hc
  | drain cmd rest hhandled hcmd hrest hsame => exact (h.drain _ hrest).congr hsame
  | lose hsame hlost => exact (h.congr hsame).lose.congr hlost
  | answer hsame key entry frame result hentry =>
    have hs := h.congr hsame
    have hperm := PendingMap.perm_remove hentry
    rw [← hsame.pending] at hperm
    have hsub : ∀ e ∈ (_ : PendingMap).entries, e ∈ _ :=
      fun e he => hperm.mem_iff.mpr (List.mem_cons_of_mem _ he)
    refine ⟨hs.next, fun e he => hs.keyed e (hsub e he), fun n => ?_, hs.waiting,
      fun e he => hs.inFlight e (hsub e he), hs.fresh, hs.limited⟩
    have honce := hs.once n
    have hpending := (hperm.map (·.2.respTx)).count_eq n
    rw [List.map_cons, List.count_cons] at hpending
    rw [count_held] at honce ⊢
    rw [ClientTask.answer, List.map_append, List.count_append]
    change _ + [entry.respTx].count n + _ + _ ≤ _
    rw [List.count_singleton]
    dsimp only [removeEntry, updatePendingCount] at hpending ⊢
    omega
  | stop hcompletions hissued haccepted hnext status =>
    exact h.stop hcompletions hissued haccepted hnext status

end

/-! ### Where a request is given up -/

section

variable {σ τ : Type}

/-- The completion of a pending request that has no retries left when its connection is lost. -/
def Lost (s : ClientTask σ τ) (c : Completion) : Prop :=
  ∃ e ∈ s.pending.entries, e.2.retryAttempts = 0 ∧ c = closed e.2.respTx

lemma completed_of_loss {s : ClientTask σ τ} {c : Completion}
    (h : c ∈ s.handleConnectionLoss.completions) : c ∈ s.completions ∨ Lost s c := by
  rcases List.mem_append.mp h with hold | hnew
  · exact Or.inl hold
  · obtain ⟨e, he, rfl⟩ := List.mem_map.mp hnew
    obtain ⟨hmem, hzero⟩ := List.mem_filter.mp he
    have hmem := (List.mergeSort_perm _ _).mem_iff.mp (List.mem_reverse.mp hmem)
    exact Or.inr ⟨e, hmem, eq_of_beq hzero, rfl⟩

end

section

variable [Features] {σ τ : Type} {setup : ClientTaskSetup σ τ} {s : ClientTask σ τ}

lemma completed_of_send (setup : ClientTaskSetup σ τ) (s : ClientTask σ τ)
    (request : ClientRequest) (respTx : Nat) (retryAttempts : UInt8) (retryDelayMs : UInt64) :
    match s.sendRequest setup request respTx retryAttempts retryDelayMs with
    | .inl s' => ∀ c ∈ s'.completions, c ∈ s.completions ∨ c.respTx = respTx
    | .inr (_, s') => (∀ c ∈ s'.completions, c ∈ s.completions ∨ Lost s c) ∧
        s'.pending.entries = [] := by
  unfold sendRequest
  cases encodeRequest s.nextTxnId request setup.transport.transportType with
  | panic => exact fun c hc => Or.inl hc
  | err e =>
    intro c hc
    rcases List.mem_append.mp hc with hold | hnew
    · exact Or.inl hold
    · rw [List.mem_singleton.mp hnew]
      exact Or.inr rfl
  | ok frame =>
    cases s.transport with
    | none => exact ⟨fun c hc => completed_of_loss hc, rfl⟩
    | some t =>
      dsimp only
      cases (t.link.send setup.transport frame.toList).1 with
      | ok _ => exact fun c hc => Or.inl hc
      | error e => exact ⟨fun c hc => completed_of_loss hc, rfl⟩

/-- A dispatch completes its own request and those that are lost with the connection. -/
lemma completed_of_dispatch {request : ClientRequest} {respTx : Nat} {retryDelayMs : UInt64}
    {retry : Nat} {c : Completion}
    (h : c ∈ (s.dispatchLoop setup request respTx retryDelayMs retry).completions) :
    c ∈ s.completions ∨ c.respTx = respTx ∨ Lost s c := by
  have hcomplete : ∀ (s' : ClientTask σ τ) result, c ∈ (s'.complete respTx result).completions →
      c ∈ s'.completions ∨ c.respTx = respTx := by
    intro s' result hc
    rcases List.mem_append.mp hc with hold | hnew
    · exact Or.inl hold
    · rw [List.mem_singleton.mp hnew]
      exact Or.inr rfl
  induction retry generalizing s with
  | zero =>
    rw [ClientTask.dispatchLoop] at h
    cases htransport : s.transport with
    | none =>
      rw [htransport] at h
      exact (hcomplete _ _ h).imp id Or.inl
    | some t =>
      rw [htransport] at h
      have hsend := completed_of_send setup s request respTx 0 retryDelayMs
      dsimp only at h
      split at h
      · rename_i s' hs'
        rw [hs'] at hsend
        exact (hsend c h).imp id Or.inl
      · rename_i e s' hs'
        rw [hs'] at hsend
        rcases hcomplete _ _ h with hold | hown
        · exact (hsend.1 c hold).imp id Or.inr
        · exact Or.inr (Or.inl hown)
  | succ retry ih =>
    rw [ClientTask.dispatchLoop] at h
    have hconnected : SameBooks s
        (if s.transport.isNone then s.doConnect setup else (.ok (), s)).2 := by
      split
      · rw [doConnect]
        cases setup.connectFn s.outside with
        | mk result outside => cases result <;> exact ⟨rfl, rfl, rfl, rfl, rfl, rfl, rfl⟩
      · exact .refl s
    have hsame : ∀ s', SameBooks s s' →
        (c ∈ s'.completions ∨ c.respTx = respTx ∨ Lost s' c) →
        c ∈ s.completions ∨ c.respTx = respTx ∨ Lost s c := by
      intro s' hs' hc
      rw [hs'.completions] at hc
      unfold Lost at hc
      rwa [hs'.pending] at hc
    generalize (if s.transport.isNone then s.doConnect setup else (.ok (), s)) = connected
      at hconnected h
    obtain ⟨result, s'⟩ := connected
    refine hsame s' hconnected ?_
    cases result with
    | error e =>
      dsimp only at h
      split at h
      · exact (hcomplete _ _ h).imp id Or.inl
      · exact ih h
    | ok _ =>
      have hsend := completed_of_send setup s' request respTx (UInt8.ofNat (retry + 1))
        retryDelayMs
      dsimp only at h
      split at h
      · rename_i s'' hs''
        rw [hs''] at hsend
        exact (hsend c h).imp id Or.inl
      · rename_i e s'' hs''
        rw [hs''] at hsend
        rcases ih h with hold | hown | ⟨e, he, _⟩
        · exact (hsend.1 c hold).imp id Or.inr
        · exact Or.inr (Or.inl hown)
        · rw [hsend.2] at he
          cases he

/-- A step that dispatches no request completes those that are lost, answered, or given up with
a disconnect. -/
lemma completed_of_step {action : ClientAction} {s' : ClientTask σ τ} {c : Completion}
    (h : Stepped setup action s s')
    (hdispatching : ∀ params respTx retryAttempts retryDelayMs s', s.dispatching setup action ≠
      some (.request params respTx retryAttempts retryDelayMs, s'))
    (hconnected : ∀ cmd rest, s.handled setup action = some (cmd, rest) →
      cmd ≠ .disconnect ∧ cmd ≠ .shutdown)
    (hc : c ∈ s'.completions) (hunanswered : c.answeredBy = none) :
    c ∈ s.completions ∨ Lost s c := by
  cases h with
  | same hsame => exact Or.inl (hsame.completions ▸ hc)
  | accept params retryAttempts retryDelayMs haction hopen hsame =>
    exact Or.inl (hsame.completions ▸ hc)
  | submit cmd hcmd hsame => exact Or.inl (hsame.completions ▸ hc)
  | dispatch cmd s' htaken =>
    have hsame := dispatching_same htaken
    cases cmd with
    | request => exact absurd htaken (hdispatching _ _ _ _ _)
    | _ => exact Or.inl (hsame.1 ▸ hc)
  | enqueue _ _ _ _ _ _ hsame => exact Or.inl (hsame.completions ▸ hc)
  | connect rest hcmd hsame => exact Or.inl (hsame.completions ▸ hc)
  | drain cmd rest hhandled hcmd =>
    have hne := hconnected cmd rest hhandled
    exact absurd hcmd (not_or.mpr hne)
  | lose hsame hlost =>
    rw [hlost.completions] at hc
    have hloss := completed_of_loss hc
    rw [hsame.completions] at hloss
    unfold Lost at hloss ⊢
    rwa [hsame.pending] at hloss
  | answer hsame key entry frame result hentry =>
    rcases List.mem_append.mp hc with hold | hnew
    · exact Or.inl (hsame.completions ▸ hold)
    · rw [List.mem_singleton.mp hnew] at hunanswered
      cases hunanswered
  | stop hcompletions => exact Or.inl (hcompletions ▸ hc)

/-- The action gives the request up: it completes it with an error and without a frame, neither
for a disconnect nor because the request cannot be encoded. -/
structure GivesUp (setup : ClientTaskSetup σ τ) (action : ClientAction) (s : ClientTask σ τ)
    (respTx : Nat) : Prop where
  undecided : ∀ c ∈ s.completions, c.respTx ≠ respTx
  failed : ∃ e, ⟨respTx, .error e, none⟩ ∈ (s.perform setup action).completions
  connected : ∀ cmd rest, s.handled setup action = some (cmd, rest) →
    cmd ≠ .disconnect ∧ cmd ≠ .shutdown
  encodes : ∀ params retryAttempts retryDelayMs s', s.dispatching setup action =
    some (.request params respTx retryAttempts retryDelayMs, s') →
      ∀ txnId, ∃ frame, encodeRequest txnId params setup.transport.transportType = .ok frame

/-- The request has no retries left, and it is in flight or about to be sent on a transport that
is open. -/
def LastTry (setup : ClientTaskSetup σ τ) (action : ClientAction) (s : ClientTask σ τ)
    (respTx : Nat) : Prop :=
  (∃ e ∈ s.pending.entries, e.2.respTx = respTx ∧ e.2.retryAttempts = 0) ∨
  s.transport.isSome ∧ ∃ params retryDelayMs s',
    s.dispatching setup action = some (.request params respTx 0 retryDelayMs, s')

/-- A request that is given up has been tried once and for each of its retries when it is given up
at its last try, and otherwise once less. -/
lemma Tracked.givesUp_iff {retries tries : Nat → Nat} {action : ClientAction} {n : Nat}
    (h : Tracked retries tries [] s) (hgives : GivesUp setup action s n) :
    tries n + (s.stepTries setup action n).length = 1 + retries n ↔
      LastTry setup action s n := by
  obtain ⟨e, hfailed⟩ := hgives.failed
  -- a request that is lost had nothing left to pay
  have hlost : Lost s ⟨n, .error e, none⟩ → s.stepTries setup action n = [] →
      (tries n + (s.stepTries setup action n).length = 1 + retries n ↔
        LastTry setup action s n) := by
    rintro ⟨entry, hentry, hzero, hc⟩ htries
    have hn : n = entry.2.respTx := congrArg Completion.respTx hc
    have hpaid := h.inFlight entry hentry
    rw [hzero, ← hn] at hpaid
    have hpaid : tries n + 0 = retries n + 1 := hpaid
    rw [htries]
    exact iff_of_true (by rw [List.length_nil]; omega) (Or.inl ⟨entry, hentry, hn.symm, hzero⟩)
  by_cases hd : ∃ params respTx retryAttempts retryDelayMs s', s.dispatching setup action =
      some (.request params respTx retryAttempts retryDelayMs, s')
  · obtain ⟨params, respTx, retryAttempts, retryDelayMs, s', hd⟩ := hd
    obtain ⟨hcompletions, hpending, htransport⟩ := dispatching_same hd
    obtain ⟨htaken, hwithin⟩ := h.take hd
    rw [perform_of_dispatching hd] at hfailed
    rw [stepTries_of_dispatching hd] at hlost ⊢
    by_cases hn : respTx = n
    · subst hn
      have hbyte := retryAttempts.toNat_lt
      obtain ⟨_, hlength⟩ := htaken.dispatchLoop setup params retryDelayMs retryAttempts.toNat
        (by omega) hwithin
      have hpaid : tries respTx + retryAttempts.toNat = retries respTx := hwithin
      rw [if_pos rfl, hlength (hgives.encodes _ _ _ _ hd) ⟨_, hfailed, rfl⟩, htransport]
      constructor
      · intro heq
        split at heq
        · rename_i hlast
          have hzero : retryAttempts = 0 := UInt8.toNat_inj.mp hlast.1
          exact Or.inr ⟨hlast.2, params, retryDelayMs, s', hzero ▸ hd⟩
        · omega
      · rintro (⟨entry, hentry, hrespTx, _⟩ | ⟨hopen, params', retryDelayMs', s'', hd'⟩)
        · exact absurd hrespTx (htaken.ne_of_mem_pending (hpending.symm ▸ hentry))
        · rw [hd] at hd'
          cases hd'
          rw [if_pos ⟨rfl, hopen⟩]
          have hpaid : tries respTx + 0 = retries respTx := hpaid
          omega
    · rw [if_neg hn] at hlost ⊢
      rcases completed_of_dispatch hfailed with hold | hown | hloss
      · exact absurd rfl (hgives.undecided _ (hcompletions ▸ hold))
      · exact absurd hown.symm hn
      · unfold Lost at hloss hlost
        exact hlost (hpending ▸ hloss) rfl
  · have hquiet : ∀ params respTx retryAttempts retryDelayMs s', s.dispatching setup action ≠
        some (.request params respTx retryAttempts retryDelayMs, s') :=
      fun params respTx retryAttempts retryDelayMs s' heq => hd ⟨_, _, _, _, _, heq⟩
    rcases completed_of_step (stepped setup action s) hquiet hgives.connected hfailed rfl with
      hold | hloss
    · exact absurd rfl (hgives.undecided _ hold)
    · exact hlost hloss (stepTries_eq_nil hquiet n)

end

end ClientTask

/-! ### Runs -/

namespace WatchedTask

open ClientTask

section

variable {σ τ : Type}

/-- The retries that are left are those that the tries have not used. -/
def Kept (w : WatchedTask σ τ) : Prop :=
  Tracked w.retries (fun n => (w.tries n).length) [] w.task

end

variable [Features] {σ τ : Type} {setup : ClientTaskSetup σ τ} {w : WatchedTask σ τ}

omit [Features] in
lemma kept_new (outside : σ) : Kept (⟨.new outside, fun _ => 0, fun _ => []⟩ : WatchedTask σ τ) where
  next := rfl
  keyed _ he := nomatch he
  once _ := Nat.le_refl _
  waiting _ hcmd := nomatch hcmd
  inFlight _ he := nomatch he
  fresh _ _ := rfl
  limited _ := Nat.zero_le _

lemma retries_of_ne {action : ClientAction} (h : ∀ params retryAttempts retryDelayMs,
    action ≠ .request params retryAttempts retryDelayMs) :
    (w.perform setup action).retries = w.retries := by
  unfold perform
  cases action with
  | request params retryAttempts retryDelayMs => exact absurd rfl (h _ _ _)
  | _ => rfl

/-- One action, whatever it is. -/
lemma Kept.perform (h : w.Kept) (action : ClientAction) : (w.perform setup action).Kept := by
  have htries : ∀ n, ((w.perform setup action).tries n).length =
      (w.tries n).length + (w.task.stepTries setup action n).length := fun n =>
    List.length_append
  by_cases haction : ∃ params retryAttempts retryDelayMs,
      action = .request params retryAttempts retryDelayMs
  · obtain ⟨params, retryAttempts, retryDelayMs, rfl⟩ := haction
    have hquiet : ∀ n, w.task.stepTries setup (.request params retryAttempts retryDelayMs) n = [] :=
      fun n => stepTries_eq_nil (fun _ _ _ _ _ hd => by
        unfold dispatching at hd
        split at hd <;> cases hd) n
    have hsame : (fun n => ((w.perform setup (.request params retryAttempts retryDelayMs)).tries
        n).length) = fun n => (w.tries n).length := by
      funext n
      rw [htries, hquiet, List.length_nil, Nat.add_zero]
    rw [Kept, hsame]
    have hrun : w.task.perform setup (.request params retryAttempts retryDelayMs) =
        w.task.sendCommand params retryAttempts retryDelayMs := by
      unfold ClientTask.perform
      split
      · rename_i hended
        rw [sendCommand, if_neg fun hopen => hended hopen.1]
      · rfl
    change Tracked (if w.task.status = .running ∧ ¬w.task.handlesDropped then
        Function.update w.retries w.task.accepted retryAttempts.toNat else w.retries) _ []
      (w.task.perform setup (.request params retryAttempts retryDelayMs))
    rw [hrun, sendCommand]
    split
    · exact Tracked.accept h params retryAttempts retryDelayMs
    · exact h
  · have hrequest : ∀ params retryAttempts retryDelayMs,
        action ≠ .request params retryAttempts retryDelayMs :=
      fun params retryAttempts retryDelayMs heq => haction ⟨_, _, _, heq⟩
    rw [Kept, retries_of_ne hrequest]
    by_cases hd : ∃ params respTx retryAttempts retryDelayMs s',
        w.task.dispatching setup action =
          some (.request params respTx retryAttempts retryDelayMs, s')
    · obtain ⟨params, respTx, retryAttempts, retryDelayMs, s', hd⟩ := hd
      obtain ⟨htaken, hwithin⟩ := Tracked.take h hd
      have hbyte := retryAttempts.toNat_lt
      have hloop := (htaken.dispatchLoop setup params retryDelayMs retryAttempts.toNat (by omega)
        hwithin).1
      rw [← perform_of_dispatching hd] at hloop
      have hsame : (fun n => ((w.perform setup action).tries n).length) =
          Function.update (fun n => (w.tries n).length) respTx ((w.tries respTx).length +
            (loopTries setup params respTx retryDelayMs retryAttempts.toNat s').length) := by
        funext n
        rw [htries, stepTries_of_dispatching hd]
        by_cases hn : respTx = n
        · rw [if_pos hn, ← hn, Function.update_self]
        · rw [if_neg hn, Function.update_of_ne (Ne.symm hn), List.length_nil, Nat.add_zero]
      rw [hsame]
      exact hloop
    · have hquiet : ∀ params respTx retryAttempts retryDelayMs s',
          w.task.dispatching setup action ≠
            some (.request params respTx retryAttempts retryDelayMs, s') :=
        fun params respTx retryAttempts retryDelayMs s' heq => hd ⟨_, _, _, _, _, heq⟩
      have hsame : (fun n => ((w.perform setup action).tries n).length) =
          fun n => (w.tries n).length := by
        funext n
        rw [htries, stepTries_eq_nil hquiet, List.length_nil, Nat.add_zero]
      rw [hsame]
      exact Tracked.step h (stepped setup action w.task) hrequest hquiet

/-- A run, in any order of its steps. -/
lemma kept_of_reachable {outside : σ}
    (h : Runs.Reachable (· = .new outside) (fun action w => w.perform setup action) w) : w.Kept := by
  obtain ⟨_, rfl, hrun⟩ := h
  exact hrun.invariant (fun action _ hw => hw.perform action) (kept_new outside)

/-- A request is sent at most once more than it has retries. When it is given up, all its retries
have been tried if and only if it is given up at its last try: in flight, or when it is sent on a
transport that was open already. -/
theorem retryBudget_iff (setup : ClientTaskSetup σ τ) (outside : σ) (w : WatchedTask σ τ)
    (h : Runs.Reachable (· = .new outside) (fun action w => w.perform setup action) w) :
    (∀ n, (w.tries n).count .send ≤ 1 + w.retries n) ∧
    ∀ action n, GivesUp setup action w.task n →
      (((w.perform setup action).tries n).length = 1 + w.retries n ↔
        LastTry setup action w.task n) := by
  have hkept := kept_of_reachable h
  refine ⟨fun n => ?_, fun action n hgives => ?_⟩
  · rw [Nat.add_comm]
    exact Nat.le_trans List.count_le_length (hkept.limited n)
  · have hiff := Tracked.givesUp_iff hkept hgives
    rwa [← List.length_append] at hiff

end WatchedTask

/-! ### An unusable connection -/

/-- A client that connects once, to a transport that sends nothing. -/
def unusableSetup [Features] : ClientTaskSetup Bool Unit where
  transport := .refusing .stdTcp
  connectFn first := (if first then .ok () else .error .connectionFailed, false)
  pipeline := 4
  order := .insertion

/-- The client that is about to send its only request. -/
def unusable [Features] (retryAttempts : UInt8) : WatchedTask Bool Unit :=
  [ClientAction.connect, .request ⟨.fromU8 1, .readDiscreteInputs 0 8⟩ retryAttempts 0,
    .drainBacklog, .command].foldl (fun w action => w.perform unusableSetup action) (.new true)

lemma reachable_unusable [Features] (retryAttempts : UInt8) :
    Runs.Reachable (· = .new true) (fun action w => w.perform unusableSetup action)
      (unusable retryAttempts) :=
  ⟨_, rfl, Runs.Run.foldl _ _⟩

lemma encodes_readDiscreteInputs (txnId : UInt16) :
    letI := Features.minimal
    ∃ frame, encodeRequest txnId ⟨.fromU8 1, .readDiscreteInputs 0 8⟩ .stdTcp = .ok frame := by
  exact ⟨_, rfl⟩

lemma unusable_handled :
    letI := Features.minimal
    ∀ retryAttempts, retryAttempts = 0 ∨ retryAttempts = 1 →
      (unusable retryAttempts).task.completions = [] ∧
      ((unusable retryAttempts).task.handled unusableSetup .nextCommand).map (·.1) =
        some (.request ⟨.fromU8 1, .readDiscreteInputs 0 8⟩ 0 retryAttempts 0) ∧
      ((unusable retryAttempts).task.dispatching unusableSetup .nextCommand).map (·.1) =
        some (.request ⟨.fromU8 1, .readDiscreteInputs 0 8⟩ 0 retryAttempts 0) := by
  let _ := Features.minimal
  rintro retryAttempts (rfl | rfl) <;> decide +kernel

lemma mem_of_any_failed {completions : List Completion} {respTx : Nat} {e : MbusError}
    (h : completions.any fun c => c.respTx == respTx && c.answeredBy.isNone &&
      match c.result with
      | .error e' => e' == e
      | .ok _ => false) :
    ⟨respTx, .error e, none⟩ ∈ completions := by
  obtain ⟨⟨respTx', result, answeredBy⟩, hc, hfailed⟩ := List.any_eq_true.mp h
  rw [Bool.and_eq_true, Bool.and_eq_true, beq_iff_eq, Option.isNone_iff_eq_none] at hfailed
  obtain ⟨⟨rfl, rfl⟩, hresult⟩ := hfailed
  cases result with
  | ok response => cases hresult
  | error e' =>
    rw [← eq_of_beq hresult]
    exact hc

lemma unusable_givesUp :
    letI := Features.minimal
    ∀ retryAttempts, retryAttempts = 0 ∨ retryAttempts = 1 →
      ClientTask.GivesUp unusableSetup .nextCommand (unusable retryAttempts).task 0 := by
  let _ := Features.minimal
  intro retryAttempts hretry
  obtain ⟨hcompletions, hhandled, hdispatching⟩ := unusable_handled retryAttempts hretry
  refine ⟨fun c hc => ?_, ?_, fun cmd rest h => ?_, fun params retryAttempts' retryDelayMs s' h => ?_⟩
  · rw [hcompletions] at hc
    cases hc
  · rcases hretry with rfl | rfl
    · exact ⟨.sendFailed, mem_of_any_failed (by decide +kernel)⟩
    · exact ⟨.connectionClosed, mem_of_any_failed (by decide +kernel)⟩
  · rw [h] at hhandled
    cases hhandled
    exact ⟨nofun, nofun⟩
  · rw [h] at hdispatching
    cases hdispatching
    exact encodes_readDiscreteInputs

/-- Without retries the one send is all that is owed. -/
theorem retryBudget_noRetries :
    letI := Features.minimal
    (((unusable 0).perform unusableSetup .nextCommand).tries 0).length = 1 := by
  let _ := Features.minimal
  have hlast : ClientTask.LastTry unusableSetup .nextCommand (unusable 0).task 0 := by
    obtain ⟨_, _, hdispatching⟩ := unusable_handled 0 (Or.inl rfl)
    obtain ⟨⟨cmd, s'⟩, hd, hcmd⟩ := Option.map_eq_some_iff.mp hdispatching
    exact Or.inr ⟨by decide +kernel, _, 0, s', by rw [hd, ← hcmd]⟩
  have hretries : (unusable 0).retries 0 = 0 := by decide +kernel
  have hiff := (WatchedTask.retryBudget_iff unusableSetup true (unusable 0)
    (reachable_unusable 0)).2 .nextCommand 0 (unusable_givesUp 0 (Or.inl rfl))
  rw [hretries] at hiff
  exact hiff.mpr hlast

/-- With one retry the same send is the only try. -/
theorem retryBudget_oneRetry_not :
    ¬∀ [Features] (setup : ClientTaskSetup Bool Unit) (outside : Bool)
      (w : WatchedTask Bool Unit),
      Runs.Reachable (· = .new outside) (fun action w => w.perform setup action) w →
      ∀ action n, ClientTask.GivesUp setup action w.task n →
        ((w.perform setup action).tries n).length = 1 + w.retries n := by
  intro h
  let _ := Features.minimal
  have htries := h unusableSetup true (unusable 1) (reachable_unusable 1) .nextCommand 0
    (unusable_givesUp 1 (Or.inr rfl))
  revert htries
  decide +kernel

end ModbusRs
