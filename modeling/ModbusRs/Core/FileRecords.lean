import ModbusRs.Core.Layouts
import ModbusRs.Core.Models
import ModbusRs.Library.Effect
import ModbusRs.Library.Runs

/-!
# File record requests

A `SubRequest` collects the parts of a read or a write of file records. Its bytes are a byte count
and the bytes of each part; the server takes the parts off again one after the other.
-/

namespace ModbusRs

open Outcome

namespace SubRequest

variable [Features]

/-- `add_read_sub_request`. -/
def addReadSubRequest (fileNumber recordNumber recordLength : UInt16) :
    EffM MbusError SubRequest Unit := do
  let request ← EffM.gets id
  EffM.lift (guardErr (request.params.length ≥ maxSubRequestsPerPdu) .tooManyFileReadSubRequests)
  let count ← EffM.lift (addU16 (UInt16.ofNat request.params.length) 1)
  let registers ← EffM.lift (addU16 request.totalReadBytesLength recordLength)
  let total ← EffM.lift (addU16 count registers)
  EffM.lift (guardErr (total > 125) .fileReadPduOverflow)
  let params ← EffM.lift (lift (request.params.pushOr
    ⟨fileNumber, recordNumber, recordLength, none⟩ .tooManyFileReadSubRequests))
  EffM.modify fun request => { request with params }
  let registers ← EffM.lift (addU16 request.totalReadBytesLength recordLength)
  EffM.modify fun request => { request with totalReadBytesLength := registers }

/-- `add_write_sub_request`. -/
def addWriteSubRequest (fileNumber recordNumber recordLength : UInt16)
    (recordData : HVec UInt16 maxPduDataLen) : EffM MbusError SubRequest Unit := do
  let request ← EffM.gets id
  EffM.lift (guardErr (request.params.length ≥ maxSubRequestsPerPdu) .tooManyFileReadSubRequests)
  EffM.lift (guardErr (recordData.length != recordLength.toNat) .bufferLenMissmatch)
  let newSubReqSize := subReqParamByteLen + recordData.length * 2
  EffM.lift (guardErr (1 + request.byteCount + newSubReqSize > maxPduDataLen) .fileReadPduOverflow)
  let params ← EffM.lift (lift (request.params.pushOr
    ⟨fileNumber, recordNumber, recordLength, some recordData⟩ .tooManyFileReadSubRequests))
  EffM.modify fun request => { request with params }
  let registers ← EffM.lift (addU16 request.totalReadBytesLength recordLength)
  EffM.modify fun request => { request with totalReadBytesLength := registers }

end SubRequest

/-! ### Encoding -/

/-- The bytes of one part of a request. -/
def SubRequestParams.bytes (param : SubRequestParams) : List UInt8 :=
  fileRecordRefType :: (toBeBytes param.fileNumber ++ (toBeBytes param.recordNumber ++
    (toBeBytes param.recordLength ++
      (param.recordData.map fun data => data.toList.flatMap toBeBytes).getD [])))

lemma length_flatMap_toBeBytes (values : List UInt16) :
    (values.flatMap toBeBytes).length = values.length * 2 := by
  induction values with
  | nil => rfl
  | cons value values ih =>
    rw [List.flatMap_cons, List.length_append, ih, toBeBytes_length, List.length_cons]
    omega

lemma SubRequestParams.length_bytes (param : SubRequestParams) :
    param.bytes.length = 7 + (param.recordData.map fun data => data.length * 2).getD 0 := by
  have hdata : ((param.recordData.map fun data => data.toList.flatMap toBeBytes).getD []).length =
      (param.recordData.map fun data => data.length * 2).getD 0 := by
    cases param.recordData with
    | none => rfl
    | some data => exact length_flatMap_toBeBytes data.toList
  simp only [bytes, List.length_cons, List.length_append, toBeBytes_length, hdata]
  omega

namespace SubRequest

lemma byteCount_eq (request : SubRequest) :
    request.byteCount = (request.params.toList.flatMap SubRequestParams.bytes).length := by
  rw [byteCount, List.length_flatMap]
  exact congrArg List.sum (List.map_congr_left fun param _ => param.length_bytes.symm)

/-- A part is appended exactly when there is room for it. -/
lemma appendParams_eq_ok {bytes out : HVec UInt8 maxPduDataLen} {param : SubRequestParams} :
    appendParams bytes param = .ok out ↔ out.toList = bytes.toList ++ param.bytes := by
  constructor
  · intro h
    obtain ⟨first, hfirst, h⟩ := Except.bind_eq_ok_iff.mp h
    obtain ⟨second, hsecond, h⟩ := Except.bind_eq_ok_iff.mp h
    obtain ⟨third, hthird, h⟩ := Except.bind_eq_ok_iff.mp h
    obtain ⟨fourth, hfourth, h⟩ := Except.bind_eq_ok_iff.mp h
    rw [HVec.pushOr_eq_ok] at hfirst
    rw [HVec.extendOr_eq_ok] at hsecond hthird hfourth
    rw [SubRequestParams.bytes]
    cases hdata : param.recordData with
    | none =>
      rw [hdata] at h
      cases h
      simp [hfourth, hthird, hsecond, hfirst]
    | some data =>
      rw [hdata] at h
      rw [HVec.foldlM_extendOr_eq_ok.mp h, hfourth, hthird, hsecond, hfirst]
      simp
  · intro hout
    have hlen : bytes.toList.length + param.bytes.length ≤ maxPduDataLen := by
      rw [← List.length_append, ← hout]
      exact out.length_le
    have hheader : bytes.toList.length + 7 ≤ maxPduDataLen := by
      rw [param.length_bytes] at hlen
      omega
    have hfits (front : HVec UInt8 maxPduDataLen) (xs : List UInt8) (e : MbusError)
        (h : front.toList.length + xs.length ≤ maxPduDataLen) :
        ∃ next, front.extendOr xs e = .ok next ∧ next.toList = front.toList ++ xs :=
      ⟨_, HVec.extendOr_of_le e h, rfl⟩
    obtain ⟨first, hpush, hfirst⟩ := hfits bytes [fileRecordRefType] .bufferTooSmall (by
      rw [List.length_singleton]
      omega)
    obtain ⟨second, hfile, hsecond⟩ := hfits first (toBeBytes param.fileNumber)
      .bufferLenMissmatch (by
        rw [hfirst, List.length_append, List.length_singleton, toBeBytes_length]
        omega)
    obtain ⟨third, hrecord, hthird⟩ := hfits second (toBeBytes param.recordNumber)
      .bufferLenMissmatch (by
        simp only [hsecond, hfirst, List.length_append, List.length_singleton, toBeBytes_length]
        omega)
    obtain ⟨fourth, hlength, hfourth⟩ := hfits third (toBeBytes param.recordLength)
      .bufferLenMissmatch (by
        simp only [hthird, hsecond, hfirst, List.length_append, List.length_singleton,
          toBeBytes_length]
        omega)
    rw [appendParams, HVec.pushOr, hpush, Except.ok_bind, hfile, Except.ok_bind, hrecord,
      Except.ok_bind, hlength, Except.ok_bind]
    rw [SubRequestParams.bytes] at hout
    cases hdata : param.recordData with
    | none =>
      refine congrArg Except.ok (HVec.ext ?_)
      simp [hout, hdata, hfourth, hthird, hsecond, hfirst]
    | some data =>
      refine HVec.foldlM_extendOr_eq_ok.mpr ?_
      simp [hout, hdata, hfourth, hthird, hsecond, hfirst]

/-- The bytes of a request are its byte count and its parts, exactly when there is room. -/
lemma toSubReqPduBytes_eq_ok {request : SubRequest} {payload : HVec UInt8 maxPduDataLen} :
    request.toSubReqPduBytes = .ok payload ↔ payload.toList =
      UInt8.ofNat request.byteCount :: request.params.toList.flatMap SubRequestParams.bytes := by
  have hfold : ∀ (params : List SubRequestParams) (front out : HVec UInt8 maxPduDataLen),
      params.foldlM appendParams front = .ok out ↔
        out.toList = front.toList ++ params.flatMap SubRequestParams.bytes := by
    intro params
    induction params with
    | nil =>
      intro front out
      rw [List.foldlM_nil, List.flatMap_nil, List.append_nil, ← HVec.ext_iff]
      change Except.ok front = Except.ok out ↔ _
      rw [Except.ok.injEq, eq_comm]
    | cons param params ih =>
      intro front out
      rw [List.foldlM_cons, Except.bind_eq_ok_iff, List.flatMap_cons, ← List.append_assoc]
      constructor
      · rintro ⟨next, hnext, hout⟩
        rw [(ih next out).mp hout, appendParams_eq_ok.mp hnext]
      · intro hout
        have hlen : (front.toList ++ param.bytes).length ≤ maxPduDataLen := by
          have hle := out.length_le
          rw [hout, List.length_append] at hle
          omega
        exact ⟨⟨_, hlen⟩, appendParams_eq_ok.mpr rfl, (ih _ out).mpr hout⟩
  rw [toSubReqPduBytes, Except.bind_eq_ok_iff]
  constructor
  · rintro ⟨front, hfront, hpayload⟩
    rw [(hfold _ front payload).mp hpayload, HVec.pushOr_eq_ok.mp hfront]
    rfl
  · intro hpayload
    have hone : [UInt8.ofNat request.byteCount].length ≤ maxPduDataLen := by
      change 1 ≤ 252
      decide
    refine ⟨⟨_, hone⟩, HVec.pushOr_eq_ok.mpr rfl, ?_⟩
    exact (hfold _ _ payload).mpr hpayload

lemma toSubReqPduBytes_of_le {request : SubRequest} (h : 1 + request.byteCount ≤ maxPduDataLen) :
    ∃ payload, request.toSubReqPduBytes = .ok payload := by
  have hlen : (UInt8.ofNat request.byteCount ::
      request.params.toList.flatMap SubRequestParams.bytes).length ≤ maxPduDataLen := by
    rw [List.length_cons, ← byteCount_eq]
    omega
  exact ⟨⟨_, hlen⟩, toSubReqPduBytes_eq_ok.mpr rfl⟩

end SubRequest

/-! ### Read requests -/

/-- A call of `add_read_sub_request`. -/
structure ReadCall where
  fileNumber : UInt16
  recordNumber : UInt16
  recordLength : UInt16
  deriving DecidableEq, Repr

/-- What the call does to the request. -/
def ReadCall.add [Features] (call : ReadCall) : EffM MbusError SubRequest Unit :=
  SubRequest.addReadSubRequest call.fileNumber call.recordNumber call.recordLength

namespace SubRequest

/-- The registers that a read request asks for. -/
def registers (request : SubRequest) : Nat :=
  (request.params.toList.map fun param => param.recordLength.toNat).sum

/-- With the call, the request and its response fit into PDUs of 253 bytes, and no more than 35
parts are asked for. The request takes 7 bytes for each part, the response 2 and its registers. -/
def ReadFits (request : SubRequest) (call : ReadCall) : Prop :=
  2 + 7 * (request.params.length + 1) ≤ 253 ∧
    2 + (2 * (request.params.length + 1) +
      2 * (request.registers + call.recordLength.toNat)) ≤ 253 ∧
    request.params.length + 1 ≤ maxSubRequestsPerPdu

instance (request : SubRequest) (call : ReadCall) : Decidable (request.ReadFits call) :=
  inferInstanceAs (Decidable (_ ∧ _ ∧ _))

/-- In every build the call is taken, and its part comes last, when everything fits; otherwise it
is refused and changes nothing. A sum that overflows is a panic in the builds that check. -/
def AdmitsRead (call : ReadCall) (request : SubRequest) : Prop :=
  ∀ [Features], if request.ReadFits call then
      (call.add.run request).1 = .ok () ∧
        (call.add.run request).2.params.toList = request.params.toList ++
          [⟨call.fileNumber, call.recordNumber, call.recordLength, none⟩]
    else (∃ e, (call.add.run request).1 = .err e) ∧ (call.add.run request).2 = request

/-- Unless there are 35 parts already, the number of parts and registers, with those of the call,
has 16 bits. -/
def ReadCounts (call : ReadCall) (request : SubRequest) : Prop :=
  request.params.length < maxSubRequestsPerPdu →
    request.params.length + 1 + request.registers + call.recordLength.toNat < 65536

/-- The running total is the number of registers. -/
def Totals (request : SubRequest) : Prop := request.totalReadBytesLength.toNat = request.registers

variable {request : SubRequest} {call : ReadCall}

lemma readFits_iff : request.ReadFits call ↔ request.params.length < maxSubRequestsPerPdu ∧
    request.params.length + 1 + request.registers + call.recordLength.toNat ≤ 125 := by
  unfold ReadFits
  change _ ∧ _ ∧ _ ≤ 35 ↔ _ < 35 ∧ _
  omega

section Add

variable [Features]

/-- A call after 35 parts. -/
lemma add_of_full (hparts : ¬request.params.length < maxSubRequestsPerPdu) :
    call.add.run request = (.err .tooManyFileReadSubRequests, request) := by
  rw [ReadCall.add, addReadSubRequest, EffM.run_gets_bind]
  rw [id, decide_eq_true (Nat.not_lt.mp hparts)]
  rfl

/-- A call while its sums fit into 16 bits. -/
lemma add_of_counts (htotals : request.Totals)
    (hparts : request.params.length < maxSubRequestsPerPdu)
    (hcounts : request.params.length + 1 + request.registers + call.recordLength.toNat < 65536) :
    if request.params.length + 1 + request.registers + call.recordLength.toNat ≤ 125 then
      (call.add.run request).1 = .ok () ∧
        (call.add.run request).2.params.toList = request.params.toList ++
          [⟨call.fileNumber, call.recordNumber, call.recordLength, none⟩] ∧
        (call.add.run request).2.Totals
    else call.add.run request = (.err .fileReadPduOverflow, request) := by
  rw [Totals] at htotals
  have hlen : (UInt16.ofNat request.params.length).toNat = request.params.length := by
    rw [UInt16.toNat_ofNat_of_lt']
    simp only [UInt16.size]
    omega
  obtain ⟨hcount, hcount'⟩ := addU16_of_lt (a := UInt16.ofNat request.params.length) (b := 1) (by
    rw [hlen]
    change _ + 1 < _
    omega)
  rw [hlen] at hcount'
  change _ = _ + 1 at hcount'
  obtain ⟨hsum, hsum'⟩ := addU16_of_lt (a := request.totalReadBytesLength)
    (b := call.recordLength) (by omega)
  obtain ⟨htotal, htotal'⟩ := addU16_of_lt (a := UInt16.ofNat request.params.length + 1)
    (b := request.totalReadBytesLength + call.recordLength) (by omega)
  have hguard : (UInt16.ofNat request.params.length + 1 +
      (request.totalReadBytesLength + call.recordLength) > 125) ↔
      ¬request.params.length + 1 + request.registers + call.recordLength.toNat ≤ 125 := by
    rw [gt_iff_lt, UInt16.lt_iff_toNat_lt, htotal']
    change 125 < _ ↔ _
    omega
  rw [ReadCall.add, addReadSubRequest, EffM.run_gets_bind]
  simp only [id]
  rw [decide_eq_false (Nat.not_le.mpr hparts), guardErr_false, EffM.run_lift_bind]
  dsimp only
  rw [hcount, EffM.run_lift_bind]
  dsimp only
  rw [hsum, EffM.run_lift_bind]
  dsimp only
  rw [htotal, EffM.run_lift_bind]
  dsimp only
  split
  · rename_i hle
    have hroom : request.params.toList.length + 1 ≤ maxSubRequestsPerPdu := hparts
    rw [decide_eq_false (fun h => hguard.mp h hle), guardErr_false, HVec.pushOr,
      HVec.extendOr_of_le _ (by rwa [List.length_singleton])]
    refine ⟨rfl, rfl, ?_⟩
    rw [Totals, registers]
    change (_ + _ : UInt16).toNat = ((request.params.toList ++ [_]).map _).sum
    simp only [List.map_append, List.sum_append, List.map_cons, List.map_nil, List.sum_cons,
      List.sum_nil]
    rw [hsum', htotals]
    rfl
  · rename_i hgt
    rw [decide_eq_true (hguard.mpr hgt)]
    rfl

/-- A call whose sums do not fit into 16 bits, in a build that checks them. -/
lemma add_eq_panic (hchecks : Features.overflowChecks = true) (htotals : request.Totals)
    (hparts : request.params.length < maxSubRequestsPerPdu)
    (hcounts : 65536 ≤ request.params.length + 1 + request.registers + call.recordLength.toNat) :
    (call.add.run request).1 = .panic := by
  rw [Totals] at htotals
  have hlen : (UInt16.ofNat request.params.length).toNat = request.params.length := by
    rw [UInt16.toNat_ofNat_of_lt']
    change _ < 35 at hparts
    simp only [UInt16.size]
    omega
  obtain ⟨hcount, hcount'⟩ := addU16_of_lt (a := UInt16.ofNat request.params.length) (b := 1) (by
    rw [hlen]
    change _ < 35 at hparts
    change _ + 1 < _
    omega)
  rw [hlen] at hcount'
  change _ = _ + 1 at hcount'
  rw [ReadCall.add, addReadSubRequest, EffM.run_gets_bind]
  simp only [id]
  rw [decide_eq_false (Nat.not_le.mpr hparts), guardErr_false, EffM.run_lift_bind]
  dsimp only
  rw [hcount, EffM.run_lift_bind]
  dsimp only
  by_cases hsum : request.registers + call.recordLength.toNat < 65536
  · obtain ⟨hregisters, hregisters'⟩ := addU16_of_lt (a := request.totalReadBytesLength)
      (b := call.recordLength) (by rwa [htotals])
    rw [hregisters, EffM.run_lift_bind]
    dsimp only
    rw [addU16, if_pos ⟨hchecks, by omega⟩]
    rfl
  · rw [addU16, if_pos ⟨hchecks, by omega⟩]
    rfl

end Add

/-- The bound is exactly what a call needs. -/
lemma admitsRead_iff (htotals : request.Totals) :
    request.AdmitsRead call ↔ request.ReadCounts call := by
  constructor
  · intro h hparts
    by_contra hcounts
    have hfits : ¬request.ReadFits call := by
      rw [readFits_iff, not_and_or]
      exact .inr (by omega)
    let _ : Features := { Features.minimal with overflowChecks := true }
    have hpanic : (call.add.run request).1 = .panic :=
      add_eq_panic rfl htotals hparts (by omega)
    have herr := @h { Features.minimal with overflowChecks := true }
    rw [if_neg hfits] at herr
    obtain ⟨⟨e, he⟩, -⟩ := herr
    rw [hpanic] at he
    contradiction
  · intro h _
    by_cases hparts : request.params.length < maxSubRequestsPerPdu
    · have hadd := add_of_counts htotals hparts (h hparts)
      split at hadd
      · rename_i hle
        rw [if_pos (readFits_iff.mpr ⟨hparts, hle⟩)]
        exact ⟨hadd.1, hadd.2.1⟩
      · rename_i hgt
        rw [if_neg fun hfits => hgt (readFits_iff.mp hfits).2, hadd]
        exact ⟨⟨_, rfl⟩, rfl⟩
    · rw [if_neg fun hfits => hparts (readFits_iff.mp hfits).1, add_of_full hparts]
      exact ⟨⟨_, rfl⟩, rfl⟩

lemma totals_new : SubRequest.new.Totals := rfl

variable [Features]

/-- The request after a call. -/
def afterRead (call : ReadCall) (request : SubRequest) : SubRequest := (call.add.run request).2

lemma totals_afterRead (htotals : request.Totals) (hcounts : request.ReadCounts call) :
    (afterRead call request).Totals := by
  rw [afterRead]
  by_cases hparts : request.params.length < maxSubRequestsPerPdu
  · have hadd := add_of_counts htotals hparts (hcounts hparts)
    split at hadd
    · exact hadd.2.2
    · rwa [hadd]
  · rwa [add_of_full hparts]

/-- **Admission of the parts of a read request.** Along a sequence of calls, each is taken exactly
when the request and its response fit, and changes nothing when it is refused, if and only if the
sums of each call fit into 16 bits. -/
theorem fileReadAdmission_iff (calls : List ReadCall) :
    Runs.Meets (fun call request => request.AdmitsRead call) afterRead calls .new ↔
      Runs.Meets (fun call request => request.ReadCounts call) afterRead calls .new :=
  Runs.meets_congr (fun _ request (htotals : request.Totals) => admitsRead_iff htotals)
    (fun _ _ htotals h => totals_afterRead htotals ((admitsRead_iff htotals).mp h)) totals_new

omit [Features] in
/-- A first call for 65535 registers: with the part itself they are 65536. -/
theorem fileReadAdmission_wraps : ¬∀ [Features] (calls : List ReadCall),
    Runs.Meets (fun call request => request.AdmitsRead call) afterRead calls .new := by
  intro h
  obtain ⟨hfirst, -⟩ := @h Features.minimal [⟨4, 1, 65535⟩]
  have hcounts := (admitsRead_iff totals_new).mp hfirst (by decide)
  exact absurd hcounts (by decide)

end SubRequest

end ModbusRs
