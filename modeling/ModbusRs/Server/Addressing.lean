import ModbusRs.Server.Callbacks

/-!
# Frames for other units

A frame whose address is neither the configured unit nor a broadcast the server takes should
leave no trace but statistics. Two things break this on TCP: the reply to an unrecognised
function code goes out before any address is looked at, and the unit ids above 247 are read
as 255.
-/

namespace ModbusRs

open Outcome

section Filter

variable [Features] {σ τ : Type} {setup : ServerSetup σ τ}

/-- The address byte is neither the configured unit id nor an enabled broadcast. -/
def Misaddressed (setup : ServerSetup σ τ) (unitByte : UInt8) : Prop :=
  unitByte ≠ setup.slaveAddress.get ∧ ¬(unitByte = 0 ∧ setup.broadcastEnabled)

lemma Misaddressed.not_broadcast {message : ModbusMessage}
    (h : Misaddressed setup message.unitByte) :
    setup.shouldHandleBroadcastWrite message = false := by
  by_contra hb
  rw [Bool.not_eq_false, ServerSetup.shouldHandleBroadcastWrite, Bool.and_eq_true,
    Bool.and_eq_true] at hb
  obtain ⟨⟨hzero, henabled⟩, _⟩ := hb
  have hget : message.unitIdOrSlaveAddr.get = 0 := of_decide_eq_true hzero
  rw [message.unitIdOrSlaveAddr_get] at hget
  split at hget
  · exact h.2 ⟨hget, henabled⟩
  · exact absurd hget (by decide)

/-- The foreign addresses that pass the filter are the unit ids above 247, for the unit 255. -/
lemma Misaddressed.drop_eq_false_iff {message : ModbusMessage}
    (h : Misaddressed setup message.unitByte) :
    setup.shouldDropForAddress message = false ↔
      setup.slaveAddress.get = 255 ∧ 247 < message.unitByte := by
  rw [ServerSetup.shouldDropForAddress, bne_eq_false_iff_eq, message.unitIdOrSlaveAddr_get]
  by_cases hle : message.unitByte ≤ 247
  · rw [if_pos hle]
    refine iff_of_false h.1 ?_
    rintro ⟨_, hlt⟩
    exact absurd hle (UInt8.not_le.mpr hlt)
  · rw [if_neg hle]
    exact ⟨fun heq => ⟨heq.symm, UInt8.not_le.mp hle⟩, fun hand => hand.1.symm⟩

/-- Only on TCP does a foreign address pass the filter. -/
lemma Misaddressed.isTcp_of_not_drop {message : ModbusMessage}
    (h : Misaddressed setup message.unitByte)
    (hfits : message.Fits setup.transport.transportType)
    (hdrop : setup.shouldDropForAddress message = false) :
    setup.transport.transportType.isTcpType = true := by
  obtain ⟨address, pdu⟩ := message
  cases address with
  | mbapHeader header => exact hfits
  | slaveAddress address =>
    exact absurd hfits.2 (UInt8.not_le.mpr (h.drop_eq_false_iff.mp hdrop).2)

end Filter

namespace ServerServices

variable [Features] {depth : Nat} {σ τ : Type}

/-- Nothing was handed to the send-or-queue step, put on the wire or queued for it, and the
application was not called. -/
structure Unanswered (s s' : ServerServices depth σ τ) : Prop where
  handed : s'.handed = s.handed
  sent : s'.link.sent = s.link.sent
  responseQueue : s'.responseQueue = s.responseQueue
  calls : s'.app.calls = s.app.calls

lemma Unanswered.refl (s : ServerServices depth σ τ) : Unanswered s s := ⟨rfl, rfl, rfl, rfl⟩

/-- What has left no trace does not matter for the rest. -/
lemma Unanswered.iff_of_step {s s₁ s' : ServerServices depth σ τ} (h : Unanswered s s₁) :
    Unanswered s s' ↔ Unanswered s₁ s' := by
  constructor
  · rintro ⟨hhanded, hsent, hqueue, hcalls⟩
    exact ⟨hhanded.trans h.handed.symm, hsent.trans h.sent.symm,
      hqueue.trans h.responseQueue.symm, hcalls.trans h.calls.symm⟩
  · rintro ⟨hhanded, hsent, hqueue, hcalls⟩
    exact ⟨hhanded.trans h.handed, hsent.trans h.sent, hqueue.trans h.responseQueue,
      hcalls.trans h.calls⟩

lemma AnswersOnce.not_unanswered {tt : TransportType} {txnId : UInt16}
    {unit : UnitIdOrSlaveAddr} {fc : FunctionCode} {s s' : ServerServices depth σ τ}
    (h : AnswersOnce tt txnId unit fc s s') : ¬Unanswered s s' := by
  obtain ⟨adu, hhanded, _⟩ := h
  intro hu
  have hlen := congrArg List.length (hhanded.symm.trans hu.handed)
  simp at hlen

lemma unanswered_count (step : ServerStatistics → ServerStatistics)
    (s : ServerServices depth σ τ) : Unanswered s (s.count step) := by
  unfold count
  split <;> exact ⟨rfl, rfl, rfl, rfl⟩

lemma unanswered_incrementMessageCount (s : ServerServices depth σ τ) :
    Unanswered s s.incrementMessageCount := unanswered_count _ s

lemma unanswered_incrementNoResponseCount (s : ServerServices depth σ τ) :
    Unanswered s s.incrementNoResponseCount := unanswered_count _ s

end ServerServices

namespace ServerM

open ServerServices

variable [Features] {depth : Nat} {σ τ : Type} {setup : ServerSetup σ τ}

/-- On TCP the dispatcher's table answers or panics after a callback. -/
lemma dispatchFunction_not_unanswered {message : ModbusMessage} (s : ServerServices depth σ τ)
    (hplain : message.functionCode.IsPlain)
    (htcp : setup.transport.transportType.isTcpType = true) :
    ¬Unanswered s ((dispatchFunction setup message.transactionId message.unitIdOrSlaveAddr
      message.functionCode message.pdu).run s).2 := by
  have hserial : setup.transport.transportType.isSerialType = false := by
    rw [TransportType.isSerialType_eq, htcp]
    rfl
  by_cases ho : DeviceIdOverrun setup message s
  · intro hu
    obtain ⟨hfc, ids, hids, _⟩ := ho
    have hreach := (calls_dispatchFunction _ _ s).mp hu.calls
    rw [hfc] at hreach
    have hok : (checkReadDeviceIdentification message.pdu).isOk = false := hreach
    rw [hids] at hok
    cases hok
  · have hresponds := (responds_dispatchFunction_iff message s hplain).mpr ho
    have hforce : forcesListenOnly setup.transport.transportType message.functionCode
        message.pdu = false := by
      have hcheck : checkDiagnostics setup.transport.transportType message.pdu =
          .err .invalidFunctionCode := by
        rw [checkDiagnostics, hserial]
        rfl
      unfold forcesListenOnly
      rw [hcheck]
      cases message.functionCode <;> rfl
    rw [Responds, hforce] at hresponds
    exact hresponds.2.not_unanswered

/-- A message the address filter passes is answered when the listen-only check passes it. -/
def dispatchAnswers (setup : ServerSetup σ τ) (message : ModbusMessage) (listenOnly : Bool) :
    Bool :=
  !setup.shouldDropForAddress message && !(listenOnly && message.functionCode != .diagnostics)

lemma unanswered_dispatchRequest_iff {message : ModbusMessage} (s : ServerServices depth σ τ)
    (hmis : Misaddressed setup message.unitByte)
    (hfits : message.Fits setup.transport.transportType)
    (hplain : message.functionCode.IsPlain) :
    Unanswered s ((dispatchRequest setup message).run s).2 ↔
      dispatchAnswers setup message s.listenOnlyMode = false := by
  unfold dispatchRequest dispatchAnswers
  rw [if_neg (by rw [hmis.not_broadcast]; decide), EffM.run_gets_bind]
  by_cases hl : s.listenOnlyMode && message.functionCode != .diagnostics
  · rw [if_pos hl, hl]
    exact iff_of_true (unanswered_incrementNoResponseCount s) (by simp)
  · rw [if_neg hl, (Bool.not_eq_true _).mp hl]
    cases hd : setup.shouldDropForAddress message with
    | true => exact iff_of_true (.refl s) (by simp)
    | false =>
      refine iff_of_false ?_ (by simp)
      exact dispatchFunction_not_unanswered s hplain (hmis.isTcp_of_not_drop hfits hd)

/-- Whether ingesting a decoded message that is not for this server answers it. -/
def inboundAnswers (setup : ServerSetup σ τ) (message : ModbusMessage)
    (s : ServerServices depth σ τ) : Bool :=
  match inboundRoute setup s with
  | .reject => !setup.shouldDropForAddress message
  | .enqueue => false
  | .dispatch => dispatchAnswers setup message s.listenOnlyMode

lemma unanswered_acceptInbound_iff {message : ModbusMessage} {n : Nat}
    {s : ServerServices depth σ τ} (hmis : Misaddressed setup message.unitByte)
    (hfits : message.Fits setup.transport.transportType)
    (hplain : message.functionCode.IsPlain) (hn : n ≤ s.rxedFrame.toList.length) :
    Unanswered s ((acceptInbound setup message n).run s).2 ↔
      inboundAnswers setup message s = false := by
  unfold acceptInbound inboundAnswers
  rw [if_neg (by rw [hmis.not_broadcast]; decide)]
  cases hd : setup.shouldDropForAddress message with
  | true =>
    refine iff_of_true (.refl s) ?_
    rw [dispatchAnswers, hd]
    split <;> rfl
  | false =>
    rw [if_neg (by decide), EffM.run_modify_bind]
    have hroute := run_enqueueOrDispatchInbound setup message (n := n)
      (s := s.recordCommEvent 0x04) hn
    have heq : inboundRoute setup (s.recordCommEvent 0x04) = inboundRoute setup s := rfl
    rw [heq] at hroute
    cases h : inboundRoute setup s with
    | reject =>
      rw [h] at hroute
      rw [hroute]
      refine iff_of_false ?_ (by simp)
      intro hu
      obtain ⟨adu, hhanded, _⟩ := answersOnce_exception setup
        (untilReject (s.recordCommEvent 0x04)) message.transactionId message.unitIdOrSlaveAddr
        hplain .tooManyRequests
      have hlen := congrArg List.length (hhanded.symm.trans hu.handed)
      simp [untilReject, recordCommEvent] at hlen
    | enqueue =>
      rw [h] at hroute
      obtain ⟨queue, _, hrun⟩ := hroute
      rw [hrun]
      exact iff_of_true ⟨rfl, rfl, rfl, rfl⟩ rfl
    | dispatch =>
      rw [h] at hroute
      rw [hroute]
      have hstep : Unanswered s (untilDispatch setup (s.recordCommEvent 0x04)) := by
        unfold untilDispatch
        split <;> exact ⟨rfl, rfl, rfl, rfl⟩
      have hlisten : (untilDispatch setup (s.recordCommEvent 0x04)).listenOnlyMode =
          s.listenOnlyMode := by
        unfold untilDispatch
        split <;> rfl
      rw [hstep.iff_of_step, unanswered_dispatchRequest_iff _ hmis hfits hplain, hlisten]

/-- Whether ingesting the frame at the head of the buffer answers it. -/
def ingestAnswers (setup : ServerSetup σ τ) (frame : List UInt8) (s : ServerServices depth σ τ) :
    Bool :=
  match decompileAduFrame frame setup.transport.transportType with
  | .ok message => inboundAnswers setup message s
  | .err e => repliesIllegalFunction setup frame.length e
  | .panic => false

lemma unanswered_ingestFrame_iff {n : Nat} {s : ServerServices depth σ τ}
    (hn : expectedFrameLength setup s.rxedFrame.toList = .ok n)
    (hmis : Misaddressed setup
      (wireUnit setup.transport.transportType (s.rxedFrame.toList.take n))) :
    Unanswered s ((ingestFrame setup).run s).2 ↔
      ingestAnswers setup (s.rxedFrame.toList.take n) s = false := by
  have hle := expectedFrameLength_le hn
  rw [run_ingestFrame, hn, ingestAnswers]
  dsimp only
  cases hm : decompileAduFrame (s.rxedFrame.toList.take n) setup.transport.transportType with
  | panic => exact iff_of_true (.refl s) rfl
  | err e =>
    have hlen : (s.rxedFrame.toList.take n).length = n := by
      rw [List.length_take]
      omega
    dsimp only
    rw [EffM.run_bind_pure_snd, hlen]
    cases hr : repliesIllegalFunction setup n e with
    | false =>
      rw [run_rejectInbound_of_not hr]
      exact iff_of_true (.refl s) rfl
    | true =>
      obtain ⟨fcByte, _, hrun⟩ := run_rejectInbound_of_replies hr hle
      rw [hrun]
      refine iff_of_false ?_ (by decide)
      intro hu
      have hlength := congrArg List.length hu.sent
      simp at hlength
  | ok message =>
    obtain ⟨hfits, hunit, _, hpdu⟩ := decompileAduFrame_eq_ok hm
    obtain ⟨_, _, hplain, _, _⟩ := Pdu.fromBytes_eq_ok hpdu
    rw [← hunit] at hmis
    have hle' : n ≤ s.incrementMessageCount.rxedFrame.toList.length := by
      rwa [incrementMessageCount_rxedFrame]
    dsimp only
    rw [EffM.run_bind_pure_snd, (unanswered_incrementMessageCount s).iff_of_step,
      unanswered_acceptInbound_iff hmis hfits hplain hle', inboundAnswers, inboundAnswers,
      inboundRoute_incrementMessageCount, incrementMessageCount_listenOnlyMode]

/-! ### Queued requests -/

/-- The address byte of a waiting request. -/
def pendingUnit (setup : ServerSetup σ τ) (pending : PendingRequest) : UInt8 :=
  wireUnit setup.transport.transportType (pending.frame.toList.take
    ((deriveLengthFromBytes pending.frame.toList setup.transport.transportType).getD 0))

/-- A waiting request that decodes has the parts of its frame. -/
lemma decodePending_eq_some {pending : PendingRequest} {message : ModbusMessage}
    (h : decodePending setup pending = .ok (some message)) :
    message.Fits setup.transport.transportType ∧ message.unitByte = pendingUnit setup pending ∧
      message.functionCode.IsPlain := by
  unfold decodePending at h
  rw [pendingUnit]
  cases hn : deriveLengthFromBytes pending.frame.toList setup.transport.transportType with
  | none =>
    rw [hn] at h
    cases h
  | some n =>
    rw [hn] at h
    rw [Option.getD_some]
    obtain ⟨frame, hslice, h⟩ := bind_eq_ok.mp h
    obtain ⟨_, hframe⟩ := slice_eq_ok.mp hslice
    rw [List.drop_zero] at hframe
    subst hframe
    cases hm : decompileAduFrame (pending.frame.toList.take n)
        setup.transport.transportType with
    | panic =>
      rw [hm] at h
      cases h
    | err e =>
      rw [hm] at h
      cases h
    | ok decoded =>
      obtain ⟨hfits, hunit, _, hpdu⟩ := decompileAduFrame_eq_ok hm
      obtain ⟨_, _, hplain, _, _⟩ := Pdu.fromBytes_eq_ok hpdu
      rw [hm] at h
      have h : (ok (reframeMessage setup.transport.transportType decoded) :
        Fallible _) = .ok (some message) := h
      rw [reframeMessage_of_fits hfits] at h
      cases h
      exact ⟨hfits, hunit, hplain⟩

/-- Whether dispatching a waiting request answers it. -/
def pendingAnswers (setup : ServerSetup σ τ) (pending : PendingRequest) (listenOnly : Bool) :
    Bool :=
  match decodePending setup pending with
  | .ok (some message) => dispatchAnswers setup message listenOnly
  | _ => false

lemma unanswered_dispatchPendingRequest_iff {pending : PendingRequest}
    (s : ServerServices depth σ τ) (hmis : Misaddressed setup (pendingUnit setup pending)) :
    Unanswered s ((dispatchPendingRequest setup pending).run s).2 ↔
      pendingAnswers setup pending s.listenOnlyMode = false := by
  rw [dispatchPendingRequest, EffM.run_lift_bind, pendingAnswers]
  cases hp : decodePending setup pending with
  | err e => exact iff_of_true (.refl s) rfl
  | panic => exact iff_of_true (.refl s) rfl
  | ok found =>
    cases found with
    | none => exact iff_of_true (.refl s) rfl
    | some message =>
      obtain ⟨hfits, hunit, hplain⟩ := decodePending_eq_some hp
      exact unanswered_dispatchRequest_iff s (hunit ▸ hmis) hfits hplain

/-- Whether a waiting request decodes. -/
def pendingDecodes (setup : ServerSetup σ τ) (pending : PendingRequest) : Bool :=
  match decodePending setup pending with
  | .ok (some _) => true
  | _ => false

lemma unanswered_handleExpiredRequestStrict_iff {pending : PendingRequest}
    (s : ServerServices depth σ τ) :
    Unanswered s ((handleExpiredRequestStrict setup pending).run s).2 ↔
      pendingDecodes setup pending = false := by
  rw [handleExpiredRequestStrict, EffM.run_lift_bind, pendingDecodes]
  cases hp : decodePending setup pending with
  | err e => exact iff_of_true (.refl s) rfl
  | panic => exact iff_of_true (.refl s) rfl
  | ok found =>
    cases found with
    | none => exact iff_of_true (.refl s) rfl
    | some message =>
      obtain ⟨_, _, hplain⟩ := decodePending_eq_some hp
      refine iff_of_false ?_ (by simp)
      exact (answersOnce_exception setup _ _ _ hplain .timeout).not_unanswered

/-- A frame for another unit goes unanswered, on arrival and when it has been waiting, up to
the reply to unrecognised function codes, the unit ids above 247 and the expiry of requests
that should not be waiting. -/
theorem misaddressed_unanswered_iff (setup : ServerSetup σ τ) (s : ServerServices depth σ τ) :
    (∀ n, expectedFrameLength setup s.rxedFrame.toList = .ok n →
      Misaddressed setup (wireUnit setup.transport.transportType (s.rxedFrame.toList.take n)) →
      (Unanswered s ((ingestFrame setup).run s).2 ↔
        ingestAnswers setup (s.rxedFrame.toList.take n) s = false)) ∧
    ∀ pending, Misaddressed setup (pendingUnit setup pending) →
      (Unanswered s ((dispatchPendingRequest setup pending).run s).2 ↔
        pendingAnswers setup pending s.listenOnlyMode = false) ∧
      (Unanswered s ((handleExpiredRequestStrict setup pending).run s).2 ↔
        pendingDecodes setup pending = false) := by
  refine ⟨fun n hn hmis => unanswered_ingestFrame_iff hn hmis, fun pending hmis => ⟨?_, ?_⟩⟩
  · exact unanswered_dispatchPendingRequest_iff s hmis
  · exact unanswered_handleExpiredRequestStrict_iff s

/-- A server at unit 1 on TCP whose buffer holds the given bytes. -/
def tcpServerHolding (rxedFrame : List UInt8) : ServerServices 8 Unit Unit :=
  { ServerServices.withQueueDepth 8 () () with rxedFrame := .ofSlice rxedFrame }

/-- A request to unit 2 to read one holding register. -/
def readOneRegisterOfUnitTwo : List UInt8 :=
  [0x00, 0x01, 0x00, 0x00, 0x00, 0x06, 0x02, 0x03, 0x00, 0x00, 0x00, 0x01]

/-- A frame for unit 2 with a function code that no unit knows. -/
def unrecognisedForUnitTwo : List UInt8 := [0x00, 0x01, 0x00, 0x00, 0x00, 0x02, 0x02, 0x63]

omit [Features] in
theorem misaddressed_unanswered_readOneRegister :
    letI := Features.minimal
    let setup := ServerSetup.plain refusingApp .stdTcp ⟨1, by decide⟩
    let s := tcpServerHolding readOneRegisterOfUnitTwo
    let pending : PendingRequest := ⟨.ofSlice readOneRegisterOfUnitTwo, .read, 0⟩
    (Unanswered s ((ingestFrame setup).run s).2 ↔
      ingestAnswers setup (s.rxedFrame.toList.take 12) s = false) ∧
    (Unanswered s ((dispatchPendingRequest setup pending).run s).2 ↔
      pendingAnswers setup pending s.listenOnlyMode = false) ∧
    (Unanswered s ((handleExpiredRequestStrict setup pending).run s).2 ↔
      pendingDecodes setup pending = false) :=
  let _ := Features.minimal
  let both := misaddressed_unanswered_iff (ServerSetup.plain refusingApp .stdTcp ⟨1, by decide⟩)
    (tcpServerHolding readOneRegisterOfUnitTwo)
  ⟨both.1 12 (by decide) (by constructor <;> decide),
    both.2 ⟨.ofSlice readOneRegisterOfUnitTwo, .read, 0⟩ (by constructor <;> decide)⟩

omit [Features] in
/-- A server at unit 1 answers for unit 2. -/
theorem misaddressed_unrecognised_answered :
    ¬∀ [Features] (setup : ServerSetup Unit Unit) (s : ServerServices 8 Unit Unit) (n : Nat),
      expectedFrameLength setup s.rxedFrame.toList = .ok n →
      Misaddressed setup (wireUnit setup.transport.transportType (s.rxedFrame.toList.take n)) →
      Unanswered s ((ingestFrame setup).run s).2 := by
  intro h
  let _ := Features.minimal
  have hu := h (ServerSetup.plain refusingApp .stdTcp ⟨1, by decide⟩)
    (tcpServerHolding unrecognisedForUnitTwo) 8 (by decide)
    (by constructor <;> decide)
  have hsent := hu.sent
  revert hsent
  decide

end ServerM

end ModbusRs
