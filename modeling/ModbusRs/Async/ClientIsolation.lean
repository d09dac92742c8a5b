import ModbusRs.Async.ClientTask
import ModbusRs.Core.Wire
import ModbusRs.Library.Runs

/-!
# Isolation of the async client's requests

A received frame should resolve the request that was sent with its transaction id and leave all
others pending. `process_frame` loses the id of a frame whose PDU does not decode, takes id 0 for
a serial line, and panics on some frames; it isolates the requests exactly when none of this hits
the wrong one.
-/

namespace ModbusRs

open Outcome

/-- The transaction id of a TCP frame, once it has arrived. -/
def frameTxnId (frame : List UInt8) : Option UInt16 :=
  if 2 ≤ frame.length then some (wireTxnId .stdTcp frame) else none

namespace ClientTask

variable [Features] {σ τ : Type}

/-- The request was sent with the transaction id of the frame. -/
def SentWith (frame : List UInt8) (e : UInt16 × PendingEntry) : Prop :=
  frameTxnId frame = some (e.2.request.sentTxnId e.1)

/-- A frame resolves at most one request, which was sent with its transaction id. Every other
request stays pending with its own channel, and the task goes on. -/
def Isolates (setup : ClientTaskSetup σ τ) (s : ClientTask σ τ) (frame : List UInt8) : Prop :=
  (s.processFrame setup frame).status = .running ∧
    ∃ resolved : Option (UInt16 × PendingEntry),
      (∀ e ∈ resolved, e ∈ s.pending.entries ∧ SentWith frame e) ∧
      (s.processFrame setup frame).pending.entries =
        s.pending.entries.filter (some · ≠ resolved) ∧
      (s.processFrame setup frame).queued = s.queued ∧
      (s.processFrame setup frame).completions.map (·.respTx) =
        s.completions.map (·.respTx) ++ resolved.toList.map (·.2.respTx)

/-- Discrete inputs as many as were asked for, up to a whole byte. -/
def LongEnough (inner : Except MbusError ClientResponse) (request : ClientRequestBody) : Prop :=
  ∀ raw address quantity, inner = .ok (.discreteInputs raw) →
    request = .readDiscreteInputs address quantity → quantity.toNat ≤ maxCoilsPerPdu →
    (quantity.toNat + 7) / 8 ≤ (raw.quantity.toNat + 7) / 8

/-- The frame decodes, to an id other than 0 under which no request for serial lines is pending,
and to as many discrete inputs as the request asks for. A frame that does not decode, or decodes
to id 0, falls on the first entry of the map: here it happens to be one sent with its id. -/
def FindsOwn (setup : ClientTaskSetup σ τ) (s : ClientTask σ τ) (frame : List UInt8) : Prop :=
  s.transport = none ∨
    match decodeResponse frame setup.transport.transportType with
    | .panic => False
    | .err _ => ∀ e, s.pending.entries.head? = some e → SentWith frame e
    | .ok (txnId, _, inner) =>
      if txnId = 0 then
        ∀ e, s.pending.entries.head? = some e →
          SentWith frame e ∧ LongEnough inner e.2.request.body
      else ∀ entry, s.pending.get txnId = some entry →
        entry.request.body.serialOnly = false ∧ LongEnough inner entry.request.body

end ClientTask

/-! ### Panics of the fix-up -/

lemma orElseRaw_eq_panic {result : Fallible ClientResponse} {raw : ClientResponse} :
    orElseRaw result raw = .panic ↔ result = .panic := by
  cases result <;> simp [orElseRaw]

lemma fixUpRegisters_ne_panic (raw : HoldingRegisters) (address quantity : UInt16)
    (wrap : HoldingRegisters → ClientResponse) :
    fixUpResponse.fixUpRegisters raw address quantity wrap ≠ .panic := by
  unfold fixUpResponse.fixUpRegisters
  rw [lift_bind_ne_panic]
  intro registers hregisters
  obtain ⟨hle, _⟩ := Registers.new_eq_ok hregisters
  have hlen : raw.values.toList.length = maxRegistersPerPdu := by simp
  rw [slice_of_le (Nat.zero_le _) (by rw [hlen]; exact hle), ok_bind]
  refine bind_ne_panic (Registers.withValues_ne_panic registers ?_) (fun _ _ => by simp)
  rw [List.length_drop, List.length_take, hlen]
  omega

/-- The bits of a response under the address and quantity of the request. -/
lemma fixUpBits_eq_panic (address quantity : UInt16) (values : List UInt8)
    (wrap : BitBlock → ClientResponse) :
    (do
      let block ← lift (BitBlock.new address quantity)
      let block ← block.withValues values quantity
      pure (wrap block) : Fallible ClientResponse) = .panic ↔
      quantity.toNat ≤ maxCoilsPerPdu ∧ values.length < (quantity.toNat + 7) / 8 := by
  by_cases hle : quantity.toNat ≤ maxCoilsPerPdu
  · have hnew : BitBlock.new address quantity =
        .ok ⟨address, quantity, .replicate _ 0, hle⟩ := dif_pos hle
    rw [hnew, lift_ok, ok_bind, bind_eq_panic]
    have hpanic := BitBlock.withValues_eq_panic ⟨address, quantity, .replicate _ 0, hle⟩ values
    rw [hpanic]
    simp [hle]
  · have hnew : BitBlock.new address quantity = .error .invalidQuantity := dif_neg hle
    rw [hnew]
    simp [hle]

/-- The fix-up panics on too few discrete inputs and on nothing else. -/
lemma fixUpResponse_ne_panic_iff (response : ClientResponse) (original : ClientRequestBody) :
    fixUpResponse response original ≠ .panic ↔ ClientTask.LongEnough (.ok response) original := by
  unfold fixUpResponse ClientTask.LongEnough
  split
  case h_1 raw address quantity =>
    have hlen : raw.values.toList.length = maxCoilBytes := by simp
    rw [Ne, orElseRaw_eq_panic, fixUpBits_eq_panic, hlen]
    refine iff_of_true ?_ nofun
    simp only [maxCoilsPerPdu, maxCoilBytes]
    omega
  case h_2 raw address quantity =>
    have hle := raw.quantity_le
    have hlen : raw.values.toList.length = maxCoilBytes := by simp
    have hbytes : (raw.quantity.toNat + 7) / 8 ≤ raw.values.toList.length := by
      simp only [hlen, maxCoilsPerPdu, maxCoilBytes] at hle ⊢
      omega
    rw [Ne, orElseRaw_eq_panic]
    simp only [slice_of_le (Nat.zero_le _) hbytes, ok_bind]
    rw [fixUpBits_eq_panic, List.length_drop, List.length_take, Nat.min_eq_left hbytes]
    constructor
    · rintro h raw' address' quantity' ⟨⟩ ⟨⟩ hquantity
      exact Nat.le_of_not_lt fun hlt => h ⟨hquantity, hlt⟩
    · rintro h ⟨hquantity, hlt⟩
      exact Nat.not_lt.mpr (h raw address quantity rfl rfl hquantity) hlt
  case h_3 | h_4 | h_5 =>
    rw [Ne, orElseRaw_eq_panic]
    exact iff_of_true (fixUpRegisters_ne_panic _ _ _ _) nofun
  case h_6 raw address =>
    have hlen : raw.queue.toList.length = maxFifoQueueCountPerPdu := by simp
    refine iff_of_true ?_ nofun
    rw [slice_of_le (Nat.zero_le _) (by rw [hlen]; exact raw.length_le), ok_bind]
    have hfits : ((raw.queue.toList.take raw.length).drop 0).length ≤
        maxFifoQueueCountPerPdu := by
      rw [List.drop_zero, List.length_take, hlen]
      exact Nat.min_le_right _ _
    rw [copyFront_of_le (.replicate maxFifoQueueCountPerPdu (0 : UInt16)) hfits, ok_bind]
    simp
  case h_7 _ hinputs _ _ _ _ =>
    refine iff_of_true (by simp) fun raw address quantity hraw horiginal _ => ?_
    exact (hinputs raw address quantity (Except.ok.inj hraw) horiginal).elim

/-! ### Where frames go -/

namespace ClientTask

variable [Features] {σ τ : Type} {setup : ClientTaskSetup σ τ} {s : ClientTask σ τ}
  {frame : List UInt8}

lemma sentWith_of_decoded (htcp : setup.transport.transportType.isTcpType = true) {txnId : UInt16}
    {unit : UnitIdOrSlaveAddr} {inner : Except MbusError ClientResponse}
    (h : decodeResponse frame setup.transport.transportType = .ok (txnId, unit, inner)) :
    frameTxnId frame = some txnId := by
  obtain ⟨message, hmessage, h⟩ := bind_eq_ok.mp h
  obtain ⟨_, _, htxn, hpdu⟩ := decompileAduFrame_eq_ok hmessage
  have htxnId : message.transactionId = txnId := by
    cases herror : message.pdu.errorCode with
    | some code =>
      rw [herror] at h
      cases h
      rfl
    | none =>
      rw [herror] at h
      obtain ⟨response, _, h⟩ := bind_eq_ok.mp h
      cases h
      rfl
  have hlen : 2 ≤ frame.length := by
    by_contra hshort
    have herr : decompileAduFrame frame setup.transport.transportType = .err .invalidAduLength := by
      generalize setup.transport.transportType = tt at htcp
      cases tt with
      | stdTcp => exact ModbusMessage.fromBytes_short (by omega)
      | customTcp => exact ModbusMessage.fromBytes_short (by omega)
      | stdSerial mode => cases htcp
      | customSerial mode => cases htcp
    rw [herr] at hmessage
    cases hmessage
  rw [frameTxnId, if_pos hlen, ← htxnId, htxn, wireTxnId, wireTxnId, if_pos htcp]
  rfl

/-- The request is answered and taken out, or the task panics on the way. -/
lemma isolates_of_answer {key : UInt16} {entry : PendingEntry}
    (hentry : s.pending.get key = some entry) (hrun : s.status = .running)
    {result : Except MbusError ClientResponse}
    (hframe : s.processFrame setup frame = (s.removeEntry key).answer setup key entry frame result) :
    Isolates setup s frame ↔ SentWith frame (key, entry) := by
  have hentries := PendingMap.remove_entries hentry
  have hmem := PendingMap.get_eq_some.mp hentry
  rw [Isolates, hframe]
  constructor
  · rintro ⟨_, resolved, hresolved, hpending, _⟩
    have hgone : (key, entry) ∉ s.pending.entries.filter (some · ≠ resolved) := by
      rw [← hpending]
      change (key, entry) ∉ (s.pending.remove key).entries
      rw [hentries]
      simp
    have hout : some (key, entry) = resolved := by
      by_contra hne
      exact hgone (List.mem_filter.mpr ⟨hmem, decide_eq_true hne⟩)
    exact (hresolved (key, entry) hout.symm).2
  · intro hsent
    refine ⟨hrun, some (key, entry), ?_, ?_, rfl, ?_⟩
    · rintro e ⟨⟩
      exact ⟨hmem, hsent⟩
    · change (s.pending.remove key).entries = _
      rw [hentries]
      refine List.filter_congr fun e _ => ?_
      simp only [ne_eq, Option.some_inj]
    · simp [answer, removeEntry, updatePendingCount]

/-- A frame that leaves the task as it is isolates the requests. -/
lemma isolates_of_eq (hrun : s.status = .running) (hframe : s.processFrame setup frame = s) :
    Isolates setup s frame := by
  rw [Isolates, hframe]
  refine ⟨hrun, none, by simp, ?_, rfl, by simp⟩
  rw [List.filter_eq_self.mpr]
  simp

lemma not_isolates_of_panicked (hframe : (s.processFrame setup frame).status = .panicked) :
    ¬Isolates setup s frame := by
  rintro ⟨hrun, _⟩
  rw [hframe] at hrun
  cases hrun

/-- What becomes of a frame that falls on a pending request. -/
lemma isolates_of_found {txnId key : UInt16} {unit : UnitIdOrSlaveAddr} {entry : PendingEntry}
    {inner : Except MbusError ClientResponse} (hrun : s.status = .running)
    (hopen : s.transport.isNone = false)
    (hdecode : decodeResponse frame setup.transport.transportType = .ok (txnId, unit, inner))
    (hkey : s.resolveKey txnId = some key) (hentry : s.pending.get key = some entry) :
    Isolates setup s frame ↔ SentWith frame (key, entry) ∧ LongEnough inner entry.request.body := by
  have answered {result : Except MbusError ClientResponse}
      (hprocess : s.processFrame setup frame =
        (s.removeEntry key).answer setup key entry frame result)
      (hlong : LongEnough inner entry.request.body) :
      Isolates setup s frame ↔
        SentWith frame (key, entry) ∧ LongEnough inner entry.request.body := by
    rw [isolates_of_answer hentry hrun hprocess]
    exact (and_iff_left hlong).symm
  have hprocess := processFrame.eq_def s setup frame
  simp only [hopen, Bool.false_eq_true, if_false, hdecode, hkey, hentry] at hprocess
  cases inner with
  | error e => exact answered hprocess nofun
  | ok response =>
    have hlong := fixUpResponse_ne_panic_iff response entry.request.body
    cases hfix : fixUpResponse response entry.request.body with
    | ok fixed =>
      simp only [hfix] at hprocess
      rw [hfix] at hlong
      exact answered hprocess (hlong.mp (by simp))
    | err e =>
      simp only [hfix] at hprocess
      rw [hfix] at hlong
      exact answered hprocess (hlong.mp (by simp))
    | panic =>
      simp only [hfix] at hprocess
      rw [hfix] at hlong
      refine iff_of_false (not_isolates_of_panicked (by rw [hprocess]; rfl)) ?_
      rintro ⟨_, h⟩
      exact hlong.mpr h rfl

omit [Features] in
lemma sentWith_iff {txnId : UInt16} (hid : frameTxnId frame = some txnId) (hne : txnId ≠ 0)
    (entry : PendingEntry) :
    SentWith frame (txnId, entry) ↔ entry.request.body.serialOnly = false := by
  rw [SentWith, hid, ClientRequest.sentTxnId, Option.some_inj]
  cases entry.request.body.serialOnly
  · simp
  · simpa using hne

/-- A frame whose id is lost falls on the first entry. -/
lemma isolates_of_err {e : MbusError} (hrun : s.status = .running)
    (hopen : s.transport.isNone = false)
    (hdecode : decodeResponse frame setup.transport.transportType = .err e) :
    Isolates setup s frame ↔ ∀ first, s.pending.entries.head? = some first →
      SentWith frame first := by
  have hprocess : s.processFrame setup frame = s.failEntry setup frame 0 e := by
    simp only [processFrame, hopen, Bool.false_eq_true, if_false, hdecode]
  cases hfirst : s.pending.entries.head? with
  | none =>
    refine iff_of_true (isolates_of_eq hrun ?_) fun _ h => nomatch h
    rw [hprocess, failEntry, resolveKey, if_neg (not_not.mpr rfl), PendingMap.firstKey, hfirst]
    rfl
  | some first =>
    obtain ⟨hkey, hentry⟩ := PendingMap.get_firstKey (show _ = some (first.1, first.2) from hfirst)
    have hresolve : s.resolveKey 0 = some first.1 := hkey
    rw [failEntry, hresolve] at hprocess
    simp only [hentry] at hprocess
    rw [isolates_of_answer hentry hrun hprocess]
    simp

/-- A TCP frame isolates the pending requests exactly when it finds its own. -/
theorem isolates_iff (setup : ClientTaskSetup σ τ)
    (htcp : setup.transport.transportType.isTcpType = true) (s : ClientTask σ τ)
    (hrun : s.status = .running) (frame : List UInt8) :
    Isolates setup s frame ↔ FindsOwn setup s frame := by
  by_cases hnone : s.transport = none
  · refine iff_of_true (isolates_of_eq hrun ?_) (Or.inl hnone)
    rw [processFrame, hnone]
    rfl
  have hopen : s.transport.isNone = false := by
    cases htransport : s.transport with
    | none => exact absurd htransport hnone
    | some t => rfl
  rw [FindsOwn, or_iff_right hnone]
  cases hdecode : decodeResponse frame setup.transport.transportType with
  | panic =>
    refine iff_of_false (not_isolates_of_panicked ?_) id
    simp only [processFrame, hopen, Bool.false_eq_true, if_false, hdecode]
    rfl
  | err e => exact isolates_of_err hrun hopen hdecode
  | ok decoded =>
    obtain ⟨txnId, unit, inner⟩ := decoded
    have hid := sentWith_of_decoded htcp hdecode
    dsimp only
    by_cases hzero : txnId = 0
    · subst hzero
      rw [if_pos rfl]
      cases hfirst : s.pending.entries.head? with
      | none =>
        refine iff_of_true (isolates_of_eq hrun ?_) fun _ h => by cases h
        have hresolve : s.resolveKey 0 = none := by
          rw [resolveKey, if_neg (not_not.mpr rfl), PendingMap.firstKey, hfirst]
          rfl
        simp only [processFrame, hopen, Bool.false_eq_true, if_false, hdecode, hresolve]
      | some first =>
        obtain ⟨hkey, hentry⟩ := PendingMap.get_firstKey (show _ = some (first.1, first.2) from hfirst)
        have hresolve : s.resolveKey 0 = some first.1 := hkey
        rw [isolates_of_found hrun hopen hdecode hresolve hentry]
        simp
    · rw [if_neg hzero]
      cases hentry : s.pending.get txnId with
      | none =>
        refine iff_of_true (isolates_of_eq hrun ?_) fun _ h => by cases h
        have hcontains : s.pending.containsKey txnId = false := by
          rw [← Bool.not_eq_true, PendingMap.containsKey_eq_true]
          rintro ⟨entry, h⟩
          rw [hentry] at h
          cases h
        have hresolve : s.resolveKey txnId = none := by
          rw [resolveKey, if_pos hzero, hcontains, if_neg Bool.false_ne_true]
        simp only [processFrame, hopen, Bool.false_eq_true, if_false, hdecode, hresolve]
      | some entry =>
        have hcontains : s.pending.containsKey txnId = true :=
          PendingMap.containsKey_eq_true.mpr ⟨entry, hentry⟩
        have hresolve : s.resolveKey txnId = some txnId := by
          rw [resolveKey, if_pos hzero, if_pos hcontains]
        rw [isolates_of_found hrun hopen hdecode hresolve hentry, sentWith_iff hid hzero]
        simp

end ClientTask

/-! ### Two requests in flight -/

/-- A hash map that keeps its entries in the order of insertion. -/
def HashOrder.insertion : HashOrder :=
  ⟨fun entries e => entries ++ [e], fun _ _ => List.perm_append_singleton _ _⟩

/-- A client whose connections succeed at once, with four requests in flight at most. -/
def promptSetup [Features] : ClientTaskSetup Unit Unit where
  transport := .silent .stdTcp
  connectFn _ := (.ok (), ())
  pipeline := 4
  order := .insertion

/-- A request for discrete inputs and a write of the last coil, over a fresh connection. -/
def twoRequests : List ClientAction :=
  [.connect, .request ⟨.fromU8 1, .readDiscreteInputs 0 8⟩ 0 0,
    .request ⟨.fromU8 1, .writeSingleCoil 0xFFFF true⟩ 0 0, .drainBacklog, .command,
    .nextCommand, .nextCommand]

/-- The client with both requests in flight. -/
def twoInFlight [Features] : ClientTask Unit Unit :=
  twoRequests.foldl (fun s action => s.perform promptSetup action) (.new ())

lemma twoInFlight_entries :
    letI := Features.minimal
    twoInFlight.pending.entries =
      [(1, ⟨0, ⟨.fromU8 1, .readDiscreteInputs 0 8⟩, 0, 0, 0, 0⟩),
        (2, ⟨1, ⟨.fromU8 1, .writeSingleCoil 0xFFFF true⟩, 0, 0, 0, 1⟩)] := by
  decide +kernel

/-- The device refuses the coil write: its exception response resolves this request alone. -/
theorem isolates_refusal :
    letI := Features.minimal
    ClientTask.Isolates promptSetup twoInFlight
      [0x00, 0x02, 0x00, 0x00, 0x00, 0x03, 0x01, 0x85, 0x02] := by
  let _ := Features.minimal
  refine (ClientTask.isolates_iff promptSetup rfl twoInFlight (by decide +kernel) _).mpr
    (Or.inr ?_)
  have hdecode : decodeResponse [0x00, 0x02, 0x00, 0x00, 0x00, 0x03, 0x01, 0x85, 0x02] .stdTcp =
      .ok (2, .fromU8 1, .error (.modbusException 0x02)) := by decide +kernel
  have hget : twoInFlight.pending.get 2 =
      some ⟨1, ⟨.fromU8 1, .writeSingleCoil 0xFFFF true⟩, 0, 0, 0, 1⟩ := by
    rw [PendingMap.get, twoInFlight_entries]
    rfl
  have htcp : promptSetup.transport.transportType = .stdTcp := rfl
  rw [htcp, hdecode]
  dsimp only
  rw [if_neg (by decide)]
  intro entry hentry
  rw [hget, Option.some_inj] at hentry
  subst hentry
  exact ⟨rfl, by rintro _ _ _ ⟨⟩⟩

/-- The device's echo of the last coil does not decode, and answers the other request. -/
theorem lastCoilEcho_not_isolates :
    ¬∀ [Features] (setup : ClientTaskSetup Unit Unit) (s : ClientTask Unit Unit)
      (frame : List UInt8), setup.transport.transportType.isTcpType = true →
      Runs.Reachable (· = .new ()) (fun action s => s.perform setup action) s →
      s.status = .running → ClientTask.Isolates setup s frame := by
  intro h
  let _ := Features.minimal
  have hreach : Runs.Reachable (· = .new ()) (fun action s => s.perform promptSetup action)
      twoInFlight := ⟨_, rfl, Runs.Run.foldl twoRequests _⟩
  have hrun : twoInFlight.status = .running := by decide +kernel
  have hisolates := h promptSetup twoInFlight
    [0x00, 0x02, 0x00, 0x00, 0x00, 0x06, 0x01, 0x05, 0xFF, 0xFF, 0xFF, 0x00] rfl hreach hrun
  have hdecode : decodeResponse [0x00, 0x02, 0x00, 0x00, 0x00, 0x06, 0x01, 0x05, 0xFF, 0xFF, 0xFF,
      0x00] .stdTcp = .err .invalidAddress := by decide +kernel
  rw [ClientTask.isolates_of_err hrun (by decide +kernel) hdecode] at hisolates
  have hsent := hisolates _ (by rw [twoInFlight_entries]; rfl)
  revert hsent
  unfold ClientTask.SentWith
  decide +kernel

end ModbusRs
