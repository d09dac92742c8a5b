import ModbusRs.Server.Addressing
import ModbusRs.Server.Preconditions

/-!
# What a step of the server does to its surroundings

Apart from the retry queue, an action of the server is a chain of effects of four kinds:
bookkeeping in its own state, callbacks to the application, use of the transport, and responses
that are handed to the send-or-queue step.
-/

namespace ModbusRs

open Outcome

namespace ServerServices

variable [Features] {depth : Nat} {σ τ : Type}

/-- The application, the transport and the responses are left alone. -/
structure Bookkeeping (s s' : ServerServices depth σ τ) : Prop where
  app : s'.app = s.app
  link : s'.link = s.link
  responseQueue : s'.responseQueue = s.responseQueue
  handed : s'.handed = s.handed
  droppedResponseCount : s'.droppedResponseCount = s.droppedResponseCount

/-- One effect. -/
inductive Effect (setup : ServerSetup σ τ) (s : ServerServices depth σ τ) :
    ServerServices depth σ τ → Prop
  | bookkeeping {s'} (h : Bookkeeping s s') : Effect setup s s'
  | callbacks {app : Client AppCall σ}
      (h : CallbackM.ExtendsWith (fun call => call.request.InRange) s.app app) :
      Effect setup s { s with app := app }
  | wire {link : Link τ} (h : ∃ frames, link.sent = s.link.sent ++ frames) :
      Effect setup s { s with link := link }
  | hand (frame : Adu) (txnId : UInt16) (unit : UnitIdOrSlaveAddr) :
      Effect setup s (s.trySendOrQueue setup frame txnId unit)

/-- Effects, one after the other. -/
abbrev Effects (setup : ServerSetup σ τ) :
    ServerServices depth σ τ → ServerServices depth σ τ → Prop :=
  Relation.ReflTransGen (Effect setup)

variable {setup : ServerSetup σ τ} {s : ServerServices depth σ τ}

lemma effects_of_bookkeeping {s' : ServerServices depth σ τ} (h : Bookkeeping s s') :
    Effects setup s s' := .single (.bookkeeping h)

lemma bookkeeping_count (step : ServerStatistics → ServerStatistics) :
    Bookkeeping s (s.count step) := by
  unfold count
  split <;> exact ⟨rfl, rfl, rfl, rfl, rfl⟩

lemma effects_sendExceptionResponse (txnId : UInt16) (unit : UnitIdOrSlaveAddr)
    (fc : FunctionCode) (error : MbusError) :
    Effects setup s (s.sendExceptionResponse setup txnId unit fc error) := by
  set code := fc.exceptionCodeForError error with hcode
  have hcallback : Effect setup s (s.onException setup txnId unit fc code error) :=
    .callbacks (.of_calls_eq rfl)
  have hnotified : Effects setup s
      (s.onException setup txnId unit fc code error).incrementExceptionErrorCount :=
    .tail (.single hcallback) (.bookkeeping (bookkeeping_count _))
  unfold sendExceptionResponse
  dsimp only
  split
  · exact hnotified.tail (.hand _ txnId unit)
  · exact hnotified

lemma effects_finishRequest (txnId : UInt16) (unit : UnitIdOrSlaveAddr) (fc : FunctionCode)
    (result : Except MbusError Adu) :
    Effects setup s (s.finishRequest setup txnId unit fc result) := by
  cases result with
  | ok response => exact .single (.hand response txnId unit)
  | error e => exact effects_sendExceptionResponse txnId unit fc e

end ServerServices

namespace ServerM

open ServerServices

variable [Features] {depth : Nat} {σ τ : Type} {setup : ServerSetup σ τ} {txnId : UInt16}
  {unit : UnitIdOrSlaveAddr}

variable (setup) in
/-- Whatever the routine does is a chain of effects. -/
abbrev Causes {α : Type} (m : ServerM depth σ τ α) : Prop := m.Within (Effects setup)

lemma causes_pure {α : Type} (a : α) : Causes setup (pure a : ServerM depth σ τ α) :=
  EffM.within_pure (fun _ => .refl) a

lemma causes_gets {α : Type} (f : ServerServices depth σ τ → α) :
    Causes setup (EffM.gets f : ServerM depth σ τ α) := EffM.within_gets (fun _ => .refl) f

lemma causes_lift {α : Type} (x : Fallible α) :
    Causes setup (EffM.lift x : ServerM depth σ τ α) := EffM.within_lift (fun _ => .refl) x

lemma causes_bookkeeping {f : ServerServices depth σ τ → ServerServices depth σ τ}
    (h : ∀ s, Bookkeeping s (f s)) : Causes setup (EffM.modify f : ServerM depth σ τ Unit) :=
  EffM.within_modify fun s => effects_of_bookkeeping (h s)

lemma causes_bind {α β : Type} {m : ServerM depth σ τ α} {f : α → ServerM depth σ τ β}
    (hm : Causes setup m) (hf : ∀ a, Causes setup (f a)) : Causes setup (m >>= f) :=
  EffM.Within.bind (fun _ _ _ => Relation.ReflTransGen.trans) hm hf

lemma causes_handle {α β : Type} {m : ServerM depth σ τ α} {onOk : α → ServerM depth σ τ β}
    {onErr : MbusError → ServerM depth σ τ β} (hm : Causes setup m)
    (hok : ∀ a, Causes setup (onOk a)) (herr : ∀ e, Causes setup (onErr e)) :
    Causes setup (EffM.handle m onOk onErr) :=
  EffM.Within.handle (fun _ _ _ => Relation.ReflTransGen.trans) hm hok herr

/-! ### The dispatcher -/

lemma causes_onApp {α : Type} {m : AppM σ α} (hm : Prudent m) :
    Causes setup (onApp m : ServerM depth σ τ α) := fun s => .single (.callbacks (hm s.app))

lemma causes_answer {fc : FunctionCode} {m : AppM σ Adu} (hm : Prudent m) :
    Causes setup (answer setup txnId unit fc m : ServerM depth σ τ Unit) :=
  causes_handle (causes_onApp hm)
    (fun response _ => effects_finishRequest txnId unit fc (.ok response))
    fun e _ => effects_finishRequest txnId unit fc (.error e)

lemma causes_exception (txnId : UInt16) (unit : UnitIdOrSlaveAddr) (fc : FunctionCode)
    (e : MbusError) : Causes setup (EffM.modify fun s =>
      s.sendExceptionResponse setup txnId unit fc e : ServerM depth σ τ Unit) :=
  fun _ => effects_sendExceptionResponse txnId unit fc e

lemma causes_handleDiagnosticsRequest (pdu : Pdu) :
    Causes setup (handleDiagnosticsRequest setup txnId unit pdu : ServerM depth σ τ Unit) := by
  have hvalue : ∀ subFunctionRaw value, Causes setup (sendDiagnosticsValueResponse setup txnId unit
      subFunctionRaw value : ServerM depth σ τ Unit) :=
    fun _ _ _ => effects_finishRequest txnId unit .diagnostics _
  have hother : ∀ subFunction subFunctionRaw data, Causes setup (dispatchOtherSubFunction setup
      txnId unit subFunction subFunctionRaw data : ServerM depth σ τ Unit) := by
    intro subFunction subFunctionRaw data
    refine causes_bind (causes_gets _) fun stats => ?_
    split
    · exact causes_bind (causes_bookkeeping fun _ => ⟨rfl, rfl, rfl, rfl, rfl⟩) fun _ => hvalue _ _
    · exact causes_answer (prudent_checkCallFinish fun _ _ => trivial)
  refine causes_handle (causes_lift _) ?_ (causes_exception txnId unit .diagnostics)
  rintro ⟨subFunction, subFunctionRaw, data⟩
  cases subFunction with
  | returnQueryData => exact hvalue _ _
  | restartCommunicationsOption =>
    exact causes_bind (causes_bookkeeping fun _ => ⟨rfl, rfl, rfl, rfl, rfl⟩) fun _ => hvalue _ _
  | forceListenOnlyMode =>
    refine EffM.within_modify fun s => ?_
    have hmode : Bookkeeping s { s with listenOnlyMode := true } := ⟨rfl, rfl, rfl, rfl, rfl⟩
    exact (effects_of_bookkeeping hmode).tail (.bookkeeping (bookkeeping_count _))
  | _ => exact hother _ _ _

lemma causes_dispatchFunction (fc : FunctionCode) (pdu : Pdu) :
    Causes setup (dispatchFunction setup txnId unit fc pdu : ServerM depth σ τ Unit) := by
  cases fc with
  | readCoils =>
    exact causes_answer (prudent_checkCallFinish fun _ => checkReadWindow_eq_ok)
  | readDiscreteInputs =>
    exact causes_answer (prudent_checkCallFinish fun _ => checkReadWindow_eq_ok)
  | readHoldingRegisters =>
    exact causes_answer (prudent_checkCallFinish fun _ => checkReadWindow_eq_ok)
  | readInputRegisters =>
    exact causes_answer (prudent_checkCallFinish fun _ => checkReadWindow_eq_ok)
  | writeSingleCoil =>
    exact causes_answer (prudent_checkCallFinish fun _ _ => coversRange_one _)
  | writeSingleRegister =>
    exact causes_answer (prudent_checkCallFinish fun _ _ => coversRange_one _)
  | writeMultipleCoils =>
    exact causes_answer (prudent_checkCallFinish fun _ => checkWriteMultipleCoils_eq_ok)
  | writeMultipleRegisters =>
    exact causes_answer (prudent_checkCallFinish fun _ => checkWriteMultipleRegisters_eq_ok)
  | maskWriteRegister =>
    exact causes_answer (prudent_checkCallFinish fun _ _ => coversRange_one _)
  | readWriteMultipleRegisters =>
    exact causes_answer (prudent_checkCallFinish fun _ => checkReadWriteMultipleRegisters_eq_ok)
  | readFileRecord => exact causes_answer prudent_readFileRecord
  | writeFileRecord => exact causes_answer prudent_writeFileRecord
  | diagnostics => exact causes_handleDiagnosticsRequest pdu
  | getCommEventCounter =>
    exact causes_bind (causes_gets _) fun _ =>
      causes_answer (prudent_checkCallFinish fun _ _ => trivial)
  | getCommEventLog =>
    refine causes_bind (causes_gets _) fun _ => causes_bind (causes_gets _) fun _ => ?_
    exact causes_bind (causes_gets _) fun _ =>
      causes_answer (prudent_checkCallFinish fun _ _ => trivial)
  | readFifoQueue => exact causes_answer (prudent_checkCallFinish fun _ _ => trivial)
  | readExceptionStatus => exact causes_answer (prudent_checkCallFinish fun _ _ => trivial)
  | reportServerId => exact causes_answer (prudent_checkCallFinish fun _ _ => trivial)
  | encapsulatedInterfaceTransport =>
    exact causes_answer (prudent_checkCallFinish fun _ _ => trivial)
  | _ => exact causes_exception txnId unit _ .invalidFunctionCode

lemma causes_ignoreErrors {m : AppM σ Unit} (hm : Prudent m) :
    Causes setup (ignoreErrors m : ServerM depth σ τ Unit) :=
  causes_handle (causes_onApp hm) (fun _ => causes_pure ()) fun _ => causes_pure ()

lemma causes_dispatchBroadcastWrite (message : ModbusMessage) :
    Causes setup (dispatchBroadcastWriteNoResponse setup message : ServerM depth σ τ Unit) := by
  refine causes_bind (causes_bookkeeping fun _ => bookkeeping_count _) fun _ => ?_
  split
  · exact causes_ignoreErrors (prudent_checkCallFinish fun _ _ => coversRange_one _)
  · exact causes_ignoreErrors (prudent_checkCallFinish fun _ _ => coversRange_one _)
  · exact causes_ignoreErrors (prudent_checkCallFinish fun _ => checkWriteMultipleCoils_eq_ok)
  · exact causes_ignoreErrors (prudent_checkCallFinish fun _ => checkWriteMultipleRegisters_eq_ok)
  · exact causes_pure ()

variable (setup) in
lemma causes_dispatchRequest (message : ModbusMessage) :
    Causes setup (dispatchRequest setup message : ServerM depth σ τ Unit) := by
  unfold dispatchRequest
  split
  · exact causes_dispatchBroadcastWrite message
  · refine causes_bind (causes_gets _) fun _ => ?_
    split
    · exact causes_bookkeeping fun _ => bookkeeping_count _
    · split
      · exact causes_pure ()
      · exact causes_dispatchFunction _ _

/-! ### Frames -/

variable (setup) in
lemma causes_acceptInbound (message : ModbusMessage) (n : Nat) :
    Causes setup (acceptInbound setup message n : ServerM depth σ τ Unit) := by
  have henqueue : Causes setup (tryEnqueueRequest setup message n : ServerM depth σ τ Unit) := by
    refine causes_bind (causes_gets _) fun rxedFrame => causes_bind (causes_gets _) fun _ => ?_
    split
    · refine causes_bind (causes_bookkeeping fun _ => ⟨rfl, rfl, rfl, rfl, rfl⟩) fun _ => ?_
      exact causes_bind (causes_lift _) fun _ => causes_exception _ _ _ _
    · refine causes_bind (causes_lift _) fun rawFrame => causes_bind (causes_gets _) fun _ => ?_
      refine causes_bind (causes_bookkeeping fun _ => ⟨rfl, rfl, rfl, rfl, rfl⟩) fun _ => ?_
      refine causes_bind (causes_gets _) fun queue => ?_
      split
      · exact causes_bookkeeping fun _ => ⟨rfl, rfl, rfl, rfl, rfl⟩
      · exact causes_dispatchRequest setup message
  unfold acceptInbound
  split
  · exact causes_dispatchBroadcastWrite message
  · split
    · exact causes_pure ()
    · refine causes_bind (causes_bookkeeping fun _ => ⟨rfl, rfl, rfl, rfl, rfl⟩) fun _ => ?_
      unfold enqueueOrDispatchInbound
      split
      · exact henqueue
      · exact causes_dispatchRequest setup message

lemma causes_rejectInbound (n : Nat) (error : MbusError) :
    Causes setup (rejectInbound setup n error : ServerM depth σ τ Unit) := by
  unfold rejectInbound
  split
  · split
    · refine causes_bind (causes_gets _) fun rxedFrame => causes_bind (causes_lift _) fun _ => ?_
      refine causes_bind (causes_lift _) fun _ => causes_bind (causes_lift _) fun _ => ?_
      exact EffM.within_modify fun s => .single (.wire ⟨_, rfl⟩)
    · exact causes_lift _
  · exact causes_lift _

variable (setup) in
lemma causes_ingestFrame : Causes setup (ingestFrame setup : ServerM depth σ τ Nat) := by
  have hparse : ∀ n, Causes setup (parseInboundFrameBody setup n : ServerM depth σ τ _) := by
    intro n
    refine causes_bind (causes_gets _) fun _ => causes_bind (causes_lift _) fun _ => ?_
    refine causes_bind (causes_lift _) fun _ => ?_
    exact causes_bind (causes_bookkeeping fun _ => bookkeeping_count _) fun _ => causes_pure _
  have hreframe : ∀ message n,
      Causes setup (reframeInbound setup message n : ServerM depth σ τ Unit) := by
    intro message n
    unfold reframeInbound
    split
    · exact causes_acceptInbound setup _ n
    · exact causes_bind (causes_lift _) fun _ => causes_acceptInbound setup _ n
    · exact causes_pure ()
  refine causes_bind (causes_gets _) fun _ => causes_bind (causes_lift _) fun n => ?_
  refine causes_bind (causes_handle (hparse n) (fun message => hreframe message n)
    fun error => causes_rejectInbound n error) fun _ => causes_pure n

lemma causes_ingestRound : Causes setup (ingestRound setup : ServerM depth σ τ Unit) := by
  refine causes_handle (causes_ingestFrame setup)
    (fun _ => causes_bookkeeping fun _ => ⟨rfl, rfl, rfl, rfl, rfl⟩) fun error => ?_
  split
  · exact causes_pure ()
  · refine EffM.within_modify fun s => ?_
    have hcount : Bookkeeping s s.incrementCommErrorCount := bookkeeping_count _
    exact (effects_of_bookkeeping hcount).tail (.bookkeeping ⟨rfl, rfl, rfl, rfl, rfl⟩)

/-! ### Waiting requests -/

lemma causes_dispatchPendingRequest (pending : PendingRequest) :
    Causes setup (dispatchPendingRequest setup pending : ServerM depth σ τ Unit) := by
  refine causes_bind (causes_lift _) fun found => ?_
  split
  · exact causes_dispatchRequest setup _
  · exact causes_pure ()

lemma causes_expireAll (expired : List PendingRequest) :
    Causes setup (expireAll setup expired : ServerM depth σ τ Unit) := by
  induction expired with
  | nil => exact causes_pure ()
  | cons pending rest ih =>
    refine causes_bind (causes_bind (causes_lift _) fun found => ?_) fun _ => ih
    split
    · exact causes_exception _ _ _ _
    · exact causes_pure ()

lemma causes_expireStale :
    Causes setup (expireStaleQueuedRequests setup : ServerM depth σ τ Unit) := by
  unfold expireStaleQueuedRequests
  dsimp only
  split
  · exact causes_pure ()
  · refine causes_bind (causes_gets _) fun now => ?_
    refine causes_bind (causes_bookkeeping fun _ => ⟨rfl, rfl, rfl, rfl, rfl⟩) fun _ => ?_
    refine causes_bind (causes_gets _) fun queue => ?_
    refine causes_bind (causes_bookkeeping fun _ => ⟨rfl, rfl, rfl, rfl, rfl⟩) fun _ => ?_
    split
    · exact causes_expireAll _
    · exact causes_pure ()

lemma causes_dispatchNext : Causes setup (dispatchNext setup : ServerM depth σ τ Unit) := by
  refine causes_bind (causes_gets _) fun queue => ?_
  split
  · exact causes_pure ()
  · exact causes_bind (causes_bookkeeping fun _ => ⟨rfl, rfl, rfl, rfl, rfl⟩) fun _ =>
      causes_dispatchPendingRequest _

/-! ### The transport -/

lemma effects_disconnected (s : ServerServices depth σ τ) :
    Effects setup s
      { s with link := s.link.disconnect setup.transport, rxedFrame := .empty } := by
  have hwire : Effects setup s { s with link := s.link.disconnect setup.transport } :=
    .single (.wire ⟨[], (List.append_nil _).symm⟩)
  exact hwire.trans (effects_of_bookkeeping ⟨rfl, rfl, rfl, rfl, rfl⟩)

lemma causes_receive : Causes setup (receive setup : ServerM depth σ τ Unit) := by
  have hrecv : Causes setup (recv setup : ServerM depth σ τ _) :=
    fun s => .single (.wire ⟨[], (List.append_nil _).symm⟩)
  refine causes_bind hrecv fun received => ?_
  cases received with
  | error recvError =>
    refine EffM.within_modify fun s => ?_
    unfold handleRecvError
    split
    · exact effects_of_bookkeeping ⟨rfl, rfl, rfl, rfl, rfl⟩
    · exact effects_disconnected s
    · exact effects_disconnected s
    · exact effects_disconnected s
    · exact effects_disconnected s
    · split
      · exact .refl
      · exact effects_disconnected s
  | ok frame =>
    refine EffM.within_modify fun s => ?_
    unfold appendToRxedFrame
    split <;> exact effects_of_bookkeeping ⟨rfl, rfl, rfl, rfl, rfl⟩

/-- Every action but the draining of the retry queue is a chain of effects. -/
theorem effects_perform {action : ServerAction σ τ} (h : action ≠ .drain)
    (s : ServerServices depth σ τ) : Effects setup s (perform setup action s) := by
  cases action with
  | environment app transport =>
    have happ : Effects setup s { s with app := { s.app with state := app } } :=
      .single (.callbacks (.of_calls_eq rfl))
    exact happ.tail (.wire ⟨[], (List.append_nil _).symm⟩)
  | connect => exact .single (.wire ⟨[], (List.append_nil _).symm⟩)
  | disconnect => exact effects_disconnected s
  | drain => exact absurd rfl h
  | receive => exact causes_receive s
  | ingest => exact causes_ingestRound s
  | expire => exact causes_expireStale s
  | dispatchNext => exact causes_dispatchNext s

/-! ### The calls of a run -/

/-- The calls made between two states are in range. -/
abbrev CallsInRange (s s' : ServerServices depth σ τ) : Prop :=
  CallbackM.ExtendsWith (fun call => call.request.InRange) s.app s'.app

lemma callsInRange_effect {s s' : ServerServices depth σ τ} (h : Effect setup s s') :
    CallsInRange s s' := by
  cases h with
  | bookkeeping h => exact .of_calls_eq (congrArg Client.calls h.app)
  | callbacks h => exact h
  | wire _ => exact .refl _
  | hand frame txnId unit =>
    exact .of_calls_eq (congrArg Client.calls (s.trySendOrQueue_app setup frame txnId unit))

lemma callsInRange_effects {s s' : ServerServices depth σ τ} (h : Effects setup s s') :
    CallsInRange s s' := by
  induction h with
  | refl => exact .refl _
  | tail _ hlast ih => exact CallbackM.ExtendsWith.trans _ _ _ ih (callsInRange_effect hlast)

lemma callsInRange_perform (action : ServerAction σ τ) (s : ServerServices depth σ τ) :
    CallsInRange s (perform setup action s) := by
  by_cases hdrain : action = .drain
  · subst hdrain
    have happ : (perform setup .drain s).app = s.app := by
      unfold perform
      change (if depth > 0 then s.drainResponseQueue setup else s).app = s.app
      split
      · exact drainResponses_app setup s _
      · rfl
    exact .of_calls_eq (congrArg Client.calls happ)
  · exact callsInRange_effects (effects_perform hdrain s)

/-- Along every run, the coil and register callbacks are made with ranges that fit the address
space and the limit of their function code, and with exactly the values these need. -/
theorem callsInRange_run (setup : ServerSetup σ τ) {s s' : ServerServices depth σ τ}
    (h : Runs.Run (perform setup) s s') : CallsInRange s s' := by
  induction h with
  | refl => exact .refl _
  | tail _ hlast ih =>
    obtain ⟨action, -, rfl⟩ := hlast
    exact CallbackM.ExtendsWith.trans _ _ _ ih (callsInRange_perform action _)

/-- A request to write the last coil. -/
def writeLastCoil : List UInt8 :=
  [0x00, 0x01, 0x00, 0x00, 0x00, 0x06, 0x01, 0x05, 0xFF, 0xFF, 0xFF, 0x00]

omit [Features] in
theorem callsInRange_writeLastCoil :
    letI := Features.minimal
    let setup := ServerSetup.plain refusingApp .stdTcp ⟨1, by decide⟩
    CallsInRange (tcpServerHolding writeLastCoil)
      (perform setup .ingest (tcpServerHolding writeLastCoil)) :=
  let _ := Features.minimal
  callsInRange_run (ServerSetup.plain refusingApp .stdTcp ⟨1, by decide⟩)
    (Runs.Run.single ServerAction.ingest (tcpServerHolding writeLastCoil))

end ServerM

end ModbusRs
