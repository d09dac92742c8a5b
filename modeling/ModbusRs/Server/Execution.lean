import ModbusRs.Server.Steps

/-!
# Executing a request

Whatever the handler of a request does, it touches neither the queues nor the transport before it
hands its one response to the send-or-queue step.
-/

namespace ModbusRs

open Outcome

namespace ServerServices

variable [Features] {depth : Nat} {σ τ : Type} {setup : ServerSetup σ τ}
  {s s' : ServerServices depth σ τ}

/-- The receive buffer, the queues, the clock, the transport and the responses are left alone. -/
structure SameQueues (s s' : ServerServices depth σ τ) : Prop where
  rxedFrame : s'.rxedFrame = s.rxedFrame
  requestQueue : s'.requestQueue = s.requestQueue
  responseQueue : s'.responseQueue = s.responseQueue
  lastRecvUs : s'.lastRecvUs = s.lastRecvUs
  clockReads : s'.clockReads = s.clockReads
  link : s'.link = s.link
  handed : s'.handed = s.handed
  droppedResponseCount : s'.droppedResponseCount = s.droppedResponseCount

lemma SameQueues.refl (s : ServerServices depth σ τ) : SameQueues s s :=
  ⟨rfl, rfl, rfl, rfl, rfl, rfl, rfl, rfl⟩

lemma SameQueues.trans {s'' : ServerServices depth σ τ} (h : SameQueues s s')
    (h' : SameQueues s' s'') : SameQueues s s'' :=
  ⟨h'.rxedFrame.trans h.rxedFrame, h'.requestQueue.trans h.requestQueue,
    h'.responseQueue.trans h.responseQueue, h'.lastRecvUs.trans h.lastRecvUs, h'.clockReads.trans h.clockReads, h'.link.trans h.link,
    h'.handed.trans h.handed, h'.droppedResponseCount.trans h.droppedResponseCount⟩

lemma sameQueues_count (step : ServerStatistics → ServerStatistics) :
    SameQueues s (s.count step) := by
  unfold count
  split
  · exact ⟨rfl, rfl, rfl, rfl, rfl, rfl, rfl, rfl⟩
  · exact .refl s

/-- What executing a request can do: nothing to the queues, or one response after that. -/
inductive Executed (setup : ServerSetup σ τ) (s : ServerServices depth σ τ) :
    ServerServices depth σ τ → Prop
  | silent {s₁ : ServerServices depth σ τ} (h : SameQueues s s₁) : Executed setup s s₁
  | responds {s₁ : ServerServices depth σ τ} (h : SameQueues s s₁) (frame : Adu) (txnId : UInt16)
      (unit : UnitIdOrSlaveAddr) : Executed setup s (s₁.trySendOrQueue setup frame txnId unit)

lemma Executed.after {s'' : ServerServices depth σ τ} (h : SameQueues s s')
    (h' : Executed setup s' s'') : Executed setup s s'' := by
  cases h' with
  | silent h' => exact .silent (h.trans h')
  | responds h' frame txnId unit => exact .responds (h.trans h') frame txnId unit

lemma executed_sendExceptionResponse (txnId : UInt16) (unit : UnitIdOrSlaveAddr)
    (fc : FunctionCode) (error : MbusError) :
    Executed setup s (s.sendExceptionResponse setup txnId unit fc error) := by
  have hcallback : SameQueues s
      (s.onException setup txnId unit fc (fc.exceptionCodeForError error) error) :=
    ⟨rfl, rfl, rfl, rfl, rfl, rfl, rfl, rfl⟩
  have hnotified : SameQueues s (s.onException setup txnId unit fc
      (fc.exceptionCodeForError error) error).incrementExceptionErrorCount :=
    hcallback.trans (sameQueues_count _)
  unfold sendExceptionResponse
  dsimp only
  split
  · exact .responds hnotified _ txnId unit
  · exact .silent hnotified

lemma executed_finishRequest (txnId : UInt16) (unit : UnitIdOrSlaveAddr) (fc : FunctionCode)
    (result : Except MbusError Adu) :
    Executed setup s (s.finishRequest setup txnId unit fc result) := by
  cases result with
  | ok response => exact .responds (.refl s) response txnId unit
  | error e => exact executed_sendExceptionResponse txnId unit fc e

end ServerServices

namespace ServerM

open ServerServices

variable [Features] {depth : Nat} {σ τ : Type} {setup : ServerSetup σ τ} {txnId : UInt16}
  {unit : UnitIdOrSlaveAddr} {fc : FunctionCode}

variable (setup) in
/-- The routine executes a request, and ends normally unless it panics. -/
def Executes (m : ServerM depth σ τ Unit) : Prop :=
  ∀ s, (∀ e, (m.run s).1 ≠ .err e) ∧ Executed setup s (m.run s).2

lemma executes_answer (m : AppM σ Adu) :
    Executes setup (answer setup txnId unit fc m : ServerM depth σ τ Unit) := by
  intro s
  have happ : SameQueues s { s with app := (m.run s.app).2 } := ⟨rfl, rfl, rfl, rfl, rfl, rfl, rfl, rfl⟩
  have hrun : (onApp m : ServerM depth σ τ Adu).run s =
      ((m.run s.app).1, { s with app := (m.run s.app).2 }) := rfl
  rw [answer, EffM.run_handle, hrun]
  cases (m.run s.app).1 with
  | ok response => exact ⟨nofun, .after happ (executed_finishRequest txnId unit fc (.ok response))⟩
  | err e => exact ⟨nofun, .after happ (executed_finishRequest txnId unit fc (.error e))⟩
  | panic => exact ⟨nofun, .silent happ⟩

lemma executes_handleDiagnosticsRequest (pdu : Pdu) :
    Executes setup (handleDiagnosticsRequest setup txnId unit pdu : ServerM depth σ τ Unit) := by
  intro s
  rw [handleDiagnosticsRequest, EffM.run_handle, EffM.run_lift]
  cases checkDiagnostics setup.transport.transportType pdu with
  | err e => exact ⟨nofun, executed_sendExceptionResponse txnId unit .diagnostics e⟩
  | panic => exact ⟨nofun, .silent (.refl s)⟩
  | ok fields =>
    obtain ⟨subFunction, subFunctionRaw, data⟩ := fields
    have hother (subFunction : DiagnosticSubFunction) : Executes setup (dispatchOtherSubFunction
        setup txnId unit subFunction subFunctionRaw data : ServerM depth σ τ Unit) := by
      intro s
      rw [dispatchOtherSubFunction, EffM.run_gets_bind]
      split
      next value stats _ _ =>
        have hstats : SameQueues s { s with stats := stats } :=
          ⟨rfl, rfl, rfl, rfl, rfl, rfl, rfl, rfl⟩
        rw [EffM.run_modify_bind]
        exact ⟨nofun, .after hstats (executed_finishRequest txnId unit .diagnostics _)⟩
      · exact executes_answer _ s
    cases subFunction with
    | returnQueryData => exact ⟨nofun, executed_finishRequest txnId unit .diagnostics _⟩
    | restartCommunicationsOption =>
      have hmode : SameQueues s { s with listenOnlyMode := false } :=
        ⟨rfl, rfl, rfl, rfl, rfl, rfl, rfl, rfl⟩
      exact ⟨nofun, .after hmode (executed_finishRequest txnId unit .diagnostics _)⟩
    | forceListenOnlyMode =>
      have hmode : SameQueues s { s with listenOnlyMode := true } :=
        ⟨rfl, rfl, rfl, rfl, rfl, rfl, rfl, rfl⟩
      have hsilent : SameQueues { s with listenOnlyMode := true }
          (incrementNoResponseCount { s with listenOnlyMode := true }) := sameQueues_count _
      exact ⟨nofun, .silent (hmode.trans hsilent)⟩
    | _ => exact hother _ s

lemma executes_dispatchFunction (pdu : Pdu) :
    Executes setup (dispatchFunction setup txnId unit fc pdu : ServerM depth σ τ Unit) := by
  have hexception (fc : FunctionCode) : Executes setup (EffM.modify fun s =>
      s.sendExceptionResponse setup txnId unit fc .invalidFunctionCode : ServerM depth σ τ Unit) :=
    fun s => ⟨nofun, executed_sendExceptionResponse txnId unit fc .invalidFunctionCode⟩
  intro s
  cases fc with
  | diagnostics => exact executes_handleDiagnosticsRequest pdu s
  | readCoils | readDiscreteInputs | readHoldingRegisters | readInputRegisters | writeSingleCoil
  | writeSingleRegister | writeMultipleCoils | writeMultipleRegisters | maskWriteRegister
  | readWriteMultipleRegisters | readFifoQueue | readFileRecord | writeFileRecord
  | readExceptionStatus | getCommEventCounter | getCommEventLog | reportServerId
  | encapsulatedInterfaceTransport => exact executes_answer _ s
  | _ => exact hexception _ s

lemma executes_ignoreErrors (m : AppM σ Unit) :
    Executes setup (ignoreErrors m : ServerM depth σ τ Unit) := by
  intro s
  have happ : SameQueues s { s with app := (m.run s.app).2 } := ⟨rfl, rfl, rfl, rfl, rfl, rfl, rfl, rfl⟩
  have hrun : (onApp m : ServerM depth σ τ Unit).run s =
      ((m.run s.app).1, { s with app := (m.run s.app).2 }) := rfl
  rw [ignoreErrors, EffM.run_handle, hrun]
  cases (m.run s.app).1 <;> exact ⟨nofun, .silent happ⟩

lemma executes_dispatchBroadcastWriteNoResponse (message : ModbusMessage) :
    Executes setup
      (dispatchBroadcastWriteNoResponse setup message : ServerM depth σ τ Unit) := by
  intro s
  have hcount : SameQueues s s.incrementNoResponseCount := sameQueues_count _
  have hwrite (m : AppM σ Unit) :
      (∀ e, ((ignoreErrors m : ServerM depth σ τ Unit).run s.incrementNoResponseCount).1 ≠ .err e) ∧
        Executed setup s ((ignoreErrors m).run s.incrementNoResponseCount).2 :=
    have hignore : Executes setup (ignoreErrors m : ServerM depth σ τ Unit) :=
      executes_ignoreErrors m
    ⟨(hignore _).1, .after hcount (hignore _).2⟩
  rw [dispatchBroadcastWriteNoResponse, EffM.run_modify_bind]
  split
  · exact hwrite _
  · exact hwrite _
  · exact hwrite _
  · exact hwrite _
  · exact ⟨nofun, .silent hcount⟩

/-- A request is executed: at most one response is handed over, and nothing else happens to the
queues. -/
theorem executes_dispatchRequest (message : ModbusMessage) :
    Executes setup (dispatchRequest setup message : ServerM depth σ τ Unit) := by
  intro s
  unfold dispatchRequest
  split
  · exact executes_dispatchBroadcastWriteNoResponse message s
  · rw [EffM.run_gets_bind]
    split
    · have hcount : SameQueues s s.incrementNoResponseCount := sameQueues_count _
      exact ⟨nofun, .silent hcount⟩
    · split
      · exact ⟨nofun, .silent (.refl s)⟩
      · exact executes_dispatchFunction message.pdu s

end ServerM

end ModbusRs
