import ModbusRs.Async.ClientRequests
import ModbusRs.Core.Transport

/-!
# The async client task

`ClientTask` with its loop, one turn of `select!` at a time. The command channel and the calls of
the public API that fill it are part of the state. Response channels are numbered in the order in
which their requests are accepted, and the record of completed channels is kept.
-/

namespace ModbusRs

open Outcome

/-- `PendingEntry`, with the connection it was sent on and the number of ids issued before. -/
structure PendingEntry where
  respTx : Nat
  request : ClientRequest
  retryAttempts : UInt8
  retryDelayMs : UInt64
  connection : Nat
  serial : Nat
  deriving DecidableEq

/-- `HashMap<u16, PendingEntry>`, in the order of its iterator. -/
structure PendingMap where
  entries : List (UInt16 × PendingEntry)
  nodup : (entries.map (·.1)).Nodup

/-- Where a hash map puts a new entry: anywhere, and the others may move. -/
structure HashOrder where
  place : List (UInt16 × PendingEntry) → UInt16 × PendingEntry → List (UInt16 × PendingEntry)
  place_perm : ∀ entries entry, (place entries entry).Perm (entry :: entries)

namespace PendingMap

/-- `HashMap::new`. -/
def new : PendingMap := ⟨[], List.nodup_nil⟩

variable (m : PendingMap)

/-- `len`. -/
def len : Nat := m.entries.length

/-- `get(&key)`. -/
def get (key : UInt16) : Option PendingEntry := (m.entries.find? (·.1 == key)).map (·.2)

/-- `contains_key(&key)`. -/
def containsKey (key : UInt16) : Bool := m.entries.any (·.1 == key)

/-- `keys().next()`. -/
def firstKey : Option UInt16 := m.entries.head?.map (·.1)

/-- `remove(&key)`. -/
def remove (key : UInt16) : PendingMap :=
  ⟨m.entries.filter (·.1 != key), m.nodup.sublist (List.filter_sublist.map _)⟩

/-- `insert(key, entry)`. An entry under the same key is replaced. -/
def insert (order : HashOrder) (key : UInt16) (entry : PendingEntry) : PendingMap :=
  if h : key ∈ m.entries.map (·.1) then
    ⟨m.entries.map fun e => if e.1 = key then (key, entry) else e, by
      have hkeys : (m.entries.map fun e => if e.1 = key then (key, entry) else e).map (·.1) =
          m.entries.map (·.1) := by
        rw [List.map_map]
        refine List.map_congr_left fun e _ => ?_
        simp only [Function.comp_apply]
        split
        · rename_i heq
          exact heq.symm
        · rfl
      rw [hkeys]
      exact m.nodup⟩
  else
    ⟨order.place m.entries (key, entry), by
      rw [((order.place_perm m.entries (key, entry)).map (·.1)).nodup_iff, List.map_cons,
        List.nodup_cons]
      exact ⟨h, m.nodup⟩⟩

/-- `drain().collect()` and `sort_by_key`. -/
def sorted : List (UInt16 × PendingEntry) := m.entries.mergeSort fun a b => a.1 ≤ b.1

variable {m} {key : UInt16} {entry : PendingEntry}

lemma eq_of_key_eq {a b : UInt16 × PendingEntry} (ha : a ∈ m.entries) (hb : b ∈ m.entries)
    (h : a.1 = b.1) : a = b :=
  List.inj_on_of_nodup_map m.nodup ha hb h

lemma get_eq_some : m.get key = some entry ↔ (key, entry) ∈ m.entries := by
  rw [get, Option.map_eq_some_iff]
  constructor
  · rintro ⟨e, hfind, rfl⟩
    have hkey := List.find?_some hfind
    rw [beq_iff_eq] at hkey
    rw [← hkey]
    exact List.mem_of_find?_eq_some hfind
  · intro hmem
    cases hfind : m.entries.find? (·.1 == key) with
    | none => exact absurd (beq_self_eq_true key) (List.find?_eq_none.mp hfind (key, entry) hmem)
    | some e =>
      have hkey := List.find?_some hfind
      rw [beq_iff_eq] at hkey
      exact ⟨e, rfl, by rw [eq_of_key_eq (List.mem_of_find?_eq_some hfind) hmem hkey]⟩

lemma containsKey_eq_true : m.containsKey key = true ↔ ∃ entry, m.get key = some entry := by
  simp only [containsKey, List.any_eq_true, beq_iff_eq, get_eq_some]
  constructor
  · rintro ⟨⟨k, entry⟩, hmem, rfl⟩
    exact ⟨entry, hmem⟩
  · rintro ⟨entry, hmem⟩
    exact ⟨(key, entry), hmem, rfl⟩

lemma get_firstKey (h : m.entries.head? = some (key, entry)) :
    m.firstKey = some key ∧ m.get key = some entry := by
  refine ⟨by rw [firstKey, h]; rfl, get_eq_some.mpr (List.mem_of_head? h)⟩

/-- Removing a key removes its entry and no other. -/
lemma remove_entries (h : m.get key = some entry) :
    (m.remove key).entries = m.entries.filter (· ≠ (key, entry)) := by
  refine List.filter_congr fun e he => ?_
  have hmem := get_eq_some.mp h
  rw [Bool.eq_iff_iff, bne_iff_ne, decide_eq_true_iff]
  exact not_congr ⟨fun hkey => eq_of_key_eq he hmem hkey, fun heq => by rw [heq]⟩

end PendingMap

/-- `TaskCommand`. The channel of a `Connect` is not numbered. -/
inductive TaskCommand where
  | connect
  | request (params : ClientRequest) (respTx : Nat) (retryAttempts : UInt8)
      (retryDelayMs : UInt64)
  | disconnect
  | shutdown
  deriving DecidableEq

/-- What a response channel was completed with. For a frame that was matched to the request,
also the frame and the transaction id that the request was sent with. -/
structure Completion where
  respTx : Nat
  result : Except MbusError ClientResponse
  answeredBy : Option (UInt16 × List UInt8)

/-- The transport of one connection. -/
structure OpenTransport (τ : Type) where
  connection : Nat
  link : Link τ

/-- Where `run` stands: before the backlog is drained, at `select!`, or in the loop over the
commands that are ready, with their `count`. -/
inductive LoopPhase where
  | backlog
  | select
  | ready (count : Nat)
  deriving DecidableEq

/-- The task runs, has returned, or has panicked. -/
inductive TaskStatus where
  | running
  | returned
  | panicked
  deriving DecidableEq

/-- The part of `ClientTask` that does not change: the transport, `connect_fn` over the state of
the outside world, and `N`. -/
structure ClientTaskSetup [Features] (σ τ : Type) where
  transport : Transport τ
  connectFn : σ → Except MbusError τ × σ
  pipeline : Nat
  order : HashOrder

/-- `ClientTask`, with the state of `run` and the numbers of accepted requests, issued ids and
opened connections. -/
structure ClientTask (σ τ : Type) where
  transport : Option (OpenTransport τ)
  outside : σ
  cmdRx : List TaskCommand
  handlesDropped : Bool
  pending : PendingMap
  queued : List TaskCommand
  nextTxnId : UInt16
  inFlight : Nat
  pendingCount : Nat
  phase : LoopPhase
  status : TaskStatus
  completions : List Completion
  connectResults : List (Except MbusError Unit)
  accepted : Nat
  issued : Nat
  connections : Nat

namespace ClientTask

variable {σ τ : Type}

/-- `new`. -/
def new (outside : σ) : ClientTask σ τ where
  transport := none
  outside := outside
  cmdRx := []
  handlesDropped := false
  pending := .new
  queued := []
  nextTxnId := 1
  inFlight := 0
  pendingCount := 0
  phase := .backlog
  status := .running
  completions := []
  connectResults := []
  accepted := 0
  issued := 0
  connections := 0

variable (s : ClientTask σ τ)

/-- `advance_txn_id`. -/
def advanceTxnId : ClientTask σ τ :=
  { s with
    nextTxnId := if s.nextTxnId + 1 = 0 then 1 else s.nextTxnId + 1
    issued := s.issued + 1 }

/-- `update_pending_count`. -/
def updatePendingCount : ClientTask σ τ := { s with pendingCount := s.pending.len }

/-- `resp_tx.send(result)`. -/
def complete (respTx : Nat) (result : Except MbusError ClientResponse) : ClientTask σ τ :=
  { s with completions := s.completions ++ [⟨respTx, result, none⟩] }

/-- The task ends: what it owns is dropped, channels included. -/
def stop (status : TaskStatus) : ClientTask σ τ :=
  { s with status := status, transport := none, pending := .new, queued := [], cmdRx := [] }

/-- The completion of a request that is given up with its connection. -/
def closed (respTx : Nat) : Completion := ⟨respTx, .error .connectionClosed, none⟩

/-- `drain_all`. -/
def drainAll : ClientTask σ τ :=
  { s with
    completions := s.completions ++ s.pending.entries.map (fun e => closed e.2.respTx) ++
      s.queued.filterMap fun
        | .request _ respTx _ _ => some (closed respTx)
        | _ => none
    pending := .new
    queued := []
    inFlight := 0
    pendingCount := 0 }

/-- The command that sends a pending request again. -/
def PendingEntry.again (entry : PendingEntry) : TaskCommand :=
  .request entry.request entry.respTx (entry.retryAttempts - 1) entry.retryDelayMs

/-- `handle_connection_loss`. -/
def handleConnectionLoss : ClientTask σ τ :=
  { s with
    completions := s.completions ++ (s.pending.sorted.reverse.filter
      (·.2.retryAttempts == 0)).map fun e => closed e.2.respTx
    queued := (s.pending.sorted.filter (·.2.retryAttempts > 0)).map
      (fun e => PendingEntry.again e.2) ++ s.queued
    pending := .new
    inFlight := 0
    pendingCount := 0 }

variable [Features] (setup : ClientTaskSetup σ τ)

/-- `do_connect`. -/
def doConnect : Except MbusError Unit × ClientTask σ τ :=
  match setup.connectFn s.outside with
  | (.ok state, outside) =>
    (.ok (), { s with
      transport := some ⟨s.connections, ⟨state, []⟩⟩
      outside := outside
      connections := s.connections + 1 })
  | (.error e, outside) => (.error e, { s with transport := none, outside := outside })

/-- One round of the loop in `dispatch_request` from the id on: it returns, or the connection is
lost and the round is repeated. -/
def sendRequest (request : ClientRequest) (respTx : Nat) (retryAttempts : UInt8)
    (retryDelayMs : UInt64) : ClientTask σ τ ⊕ MbusError × ClientTask σ τ :=
  match encodeRequest s.nextTxnId request setup.transport.transportType with
  | .panic => .inl (s.stop .panicked)
  | .err e => .inl (s.advanceTxnId.complete respTx (.error e))
  | .ok frame =>
    let sent := match s.transport with
      | some t => ((t.link.send setup.transport frame.toList).1,
          some { t with link := (t.link.send setup.transport frame.toList).2 })
      | none => (.error .connectionClosed, none)
    match sent.1 with
    | .ok () =>
      let entry : PendingEntry := ⟨respTx, request, retryAttempts, retryDelayMs,
        (sent.2.map (·.connection)).getD 0, s.issued⟩
      .inl (updatePendingCount { s.advanceTxnId with
        transport := sent.2
        pending := s.pending.insert setup.order s.nextTxnId entry
        inFlight := s.inFlight + 1 })
    | .error e => .inr (e, handleConnectionLoss { s.advanceTxnId with transport := none })

/-- The loop of `dispatch_request`, by the retries that are left. -/
def dispatchLoop (request : ClientRequest) (respTx : Nat) (retryDelayMs : UInt64) :
    Nat → ClientTask σ τ → ClientTask σ τ
  | 0, s =>
    match s.transport with
    | none => s.complete respTx (.error .connectionClosed)
    | some _ =>
      match s.sendRequest setup request respTx 0 retryDelayMs with
      | .inl s => s
      | .inr (e, s) => s.complete respTx (.error e)
  | retry + 1, s =>
    match if s.transport.isNone then s.doConnect setup else (.ok (), s) with
    | (.error e, s) =>
      if retry = 0 then s.complete respTx (.error e)
      else dispatchLoop request respTx retryDelayMs retry s
    | (.ok (), s) =>
      match s.sendRequest setup request respTx (UInt8.ofNat (retry + 1)) retryDelayMs with
      | .inl s => s
      | .inr (_, s) => dispatchLoop request respTx retryDelayMs retry s

/-- `dispatch_request`. -/
def dispatchRequest (cmd : TaskCommand) : ClientTask σ τ :=
  match cmd with
  | .request params respTx retryAttempts retryDelayMs =>
    s.dispatchLoop setup params respTx retryDelayMs retryAttempts.toNat
  | .connect => { s with connectResults := s.connectResults ++ [.error .unexpected] }
  | .disconnect => s
  | .shutdown => s

omit [Features] in
/-- `resolve_key`. -/
def resolveKey (decodedTxnId : UInt16) : Option UInt16 :=
  if decodedTxnId ≠ 0 then
    if s.pending.containsKey decodedTxnId then some decodedTxnId else none
  else s.pending.firstKey

omit [Features] in
/-- The removal of an entry in `process_frame` and `fail_entry`. -/
def removeEntry (key : UInt16) : ClientTask σ τ :=
  updatePendingCount { s with pending := s.pending.remove key, inFlight := s.inFlight - 1 }

/-- The completion of a request by a frame. -/
def answer (key : UInt16) (entry : PendingEntry) (frame : List UInt8)
    (result : Except MbusError ClientResponse) : ClientTask σ τ :=
  { s with completions := s.completions ++
      [⟨entry.respTx, result, some (match setup.transport.transportType.isTcpType with
        | true => entry.request.sentTxnId key
        | false => 0, frame)⟩] }

/-- `fail_entry`, for a frame. -/
def failEntry (frame : List UInt8) (rawTxnId : UInt16) (error : MbusError) : ClientTask σ τ :=
  match s.resolveKey rawTxnId with
  | none => s
  | some key =>
    match s.pending.get key with
    | none => s
    | some entry => (s.removeEntry key).answer setup key entry frame (.error error)

/-- `process_frame`. -/
def processFrame (frame : List UInt8) : ClientTask σ τ :=
  if s.transport.isNone then s
  else match decodeResponse frame setup.transport.transportType with
  | .panic => s.stop .panicked
  | .err e => s.failEntry setup frame 0 e
  | .ok (decodedTxnId, _, inner) =>
    match s.resolveKey decodedTxnId with
    | none => s
    | some key =>
      match s.pending.get key with
      | none => s
      | some entry =>
        match inner with
        | .error e => (s.removeEntry key).answer setup key entry frame (.error e)
        | .ok response =>
          match fixUpResponse response entry.request.body with
          | .ok response => (s.removeEntry key).answer setup key entry frame (.ok response)
          | .err e => (s.removeEntry key).answer setup key entry frame (.error e)
          | .panic => (s.removeEntry key).stop .panicked

/-- `handle_command`. -/
def handleCommand (cmd : TaskCommand) : ClientTask σ τ :=
  match cmd with
  | .connect =>
    let connected := doConnect { s with transport := none } setup
    { connected.2 with connectResults := connected.2.connectResults ++ [connected.1] }
  | .disconnect => { s.drainAll with transport := none }
  | .shutdown => stop { s.drainAll with transport := none } .returned
  | .request _ _ _ _ =>
    if s.inFlight < setup.pipeline then s.dispatchRequest setup cmd
    else { s with queued := s.queued ++ [cmd] }

end ClientTask

/-- What happens next: a call of the public API, or a step of the task. -/
inductive ClientAction where
  | request (params : ClientRequest) (retryAttempts : UInt8) (retryDelayMs : UInt64)
  | connect
  | disconnect
  | shutdown
  | dropHandles
  | drainBacklog
  | receive
  | command
  | nextCommand
  deriving DecidableEq

namespace ClientTask

variable [Features] {σ τ : Type} (setup : ClientTaskSetup σ τ) (s : ClientTask σ τ)

/-- `cmd_tx.send(..)`, which fails once the task has ended. -/
def submit (cmd : TaskCommand) : ClientTask σ τ :=
  if s.status = .running ∧ ¬s.handlesDropped then { s with cmdRx := s.cmdRx ++ [cmd] } else s

/-- `send_request`, up to the wait for the reply. -/
def sendCommand (params : ClientRequest) (retryAttempts : UInt8) (retryDelayMs : UInt64) :
    ClientTask σ τ :=
  if s.status = .running ∧ ¬s.handlesDropped then
    { s with
      cmdRx := s.cmdRx ++ [.request params s.accepted retryAttempts retryDelayMs]
      accepted := s.accepted + 1 }
  else s

/-- One round of the loop that fills the pipeline from the backlog. -/
def drainBacklog : ClientTask σ τ :=
  if s.inFlight < setup.pipeline then
    match s.queued with
    | cmd :: queued => dispatchRequest { s with queued := queued } setup cmd
    | [] => { s with phase := .select }
  else { s with phase := .select }

/-- The branch of `select!` that receives a frame. -/
def receive : ClientTask σ τ :=
  match s.transport with
  | none => s
  | some t =>
    if 0 < s.inFlight then
      let s := { s with
        transport := some { t with link := (t.link.recv setup.transport).2 }
        phase := .backlog }
      match (t.link.recv setup.transport).1 with
      | .ok frame => s.processFrame setup frame.toList
      | .error _ => handleConnectionLoss { s with transport := none }
    else s

/-- The branch of `select!` that receives a command. -/
def command : ClientTask σ τ :=
  match s.cmdRx with
  | cmd :: rest => handleCommand { s with cmdRx := rest, phase := .ready 1 } setup cmd
  | [] => if s.handlesDropped then s.stop .returned else s

/-- One round of the loop over the commands that are ready. -/
def nextCommand (count : Nat) : ClientTask σ τ :=
  match s.cmdRx with
  | cmd :: rest =>
    if s.inFlight < setup.pipeline ∧ count < 16 then
      handleCommand { s with cmdRx := rest, phase := .ready (count + 1) } setup cmd
    else { s with phase := .backlog }
  | [] => { s with phase := .backlog }

/-- One action; a step that the loop is not at does nothing. -/
def perform (action : ClientAction) (s : ClientTask σ τ) : ClientTask σ τ :=
  if s.status ≠ .running then s
  else match action, s.phase with
  | .request params retryAttempts retryDelayMs, _ => s.sendCommand params retryAttempts retryDelayMs
  | .connect, _ => s.submit .connect
  | .disconnect, _ => s.submit .disconnect
  | .shutdown, _ => s.submit .shutdown
  | .dropHandles, _ => { s with handlesDropped := true }
  | .drainBacklog, .backlog => s.drainBacklog setup
  | .receive, .select => s.receive setup
  | .command, .select => s.command setup
  | .nextCommand, .ready count => s.nextCommand setup count
  | _, _ => s

end ClientTask

end ModbusRs
