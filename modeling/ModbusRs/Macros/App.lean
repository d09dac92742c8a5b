import ModbusRs.Core.Encode
import ModbusRs.Macros.Reads

/-!
# Generated applications

The four tables of a struct with `#[modbus_app]` or `#[async_modbus_app]` and its read handlers.
A read within the limits succeeds for exactly the mapped ranges, with the values in the order of
their addresses, unless the range ends with the address space.
-/

namespace ModbusRs

open Outcome

namespace Layout

variable {α : Type} (l : Layout α)

/-- The values of the fields in a range, in the order of their addresses. -/
def values (address quantity : UInt16) : List α :=
  (List.range quantity.toNat).filterMap fun i => l.get (address.toNat + i)

lemma hasAll_iff {address quantity : UInt16} :
    l.HasAll address quantity ↔
      collect l.get quantity.toNat address.toNat = some (l.values address quantity) := by
  rw [HasAll, ← collect_isSome_iff, Option.isSome_iff_exists]
  constructor
  · rintro ⟨values, hvalues⟩
    rw [hvalues, Layout.values, (collect_eq_some hvalues).2]
  · exact fun h => ⟨_, h⟩

end Layout

/-- The packed bits of a range, the first value in the lowest bit. -/
structure ShowsBits (l : Layout Bool) (address quantity : UInt16) (bytes : List UInt8) : Prop where
  length_eq : bytes.length = (quantity.toNat + 7) / 8
  bits : ∀ j < 8 * bytes.length, bitAt bytes j = (l.values address quantity).getD j false

/-- The words of a range, each with its high byte first. -/
def ShowsWords (l : Layout UInt16) (address quantity : UInt16) (bytes : List UInt8) : Prop :=
  bytes = (l.values address quantity).flatMap toBeBytes

section

variable {address quantity : UInt16} {out out' : List UInt8}

lemma bitAt_take {n j : Nat} (hj : j < 8 * n) (bytes : List UInt8) :
    bitAt (bytes.take n) j = bitAt bytes j := by
  rw [bitAt, bitAt, List.getD_eq_getElem?_getD, List.getD_eq_getElem?_getD,
    List.getElem?_take_of_lt (by omega)]

/-- What a loop over the mapped range gives. -/
lemma readLoop_spec {α : Type} {l : Layout α} (put : Nat → α → List UInt8 → List UInt8)
    {loop : Fallible (List UInt8)} {P : List UInt8 → Prop} {bound : Prop}
    (hloop : ∀ out', loop = .ok out' ↔ bound ∧
      ∃ values, collect l.get quantity.toNat address.toNat = some values ∧
        place put 0 values out = out')
    (hP : l.HasAll address quantity → P (place put 0 (l.values address quantity) out)) :
    (loop.isOk = true ↔ bound ∧ l.HasAll address quantity) ∧
      ∀ out', loop = .ok out' → P out' := by
  constructor
  · rw [Outcome.isOk_iff_exists]
    constructor
    · rintro ⟨out', h⟩
      obtain ⟨hbound, values, hvalues, _⟩ := (hloop out').mp h
      exact ⟨hbound, collect_isSome_iff.mp (Option.isSome_of_eq_some hvalues)⟩
    · rintro ⟨hbound, hall⟩
      exact ⟨_, (hloop _).mpr ⟨hbound, _, l.hasAll_iff.mp hall, rfl⟩⟩
  · intro out' h
    obtain ⟨_, values, hvalues, rfl⟩ := (hloop out').mp h
    have hall : l.HasAll address quantity :=
      collect_isSome_iff.mp (Option.isSome_of_eq_some hvalues)
    rw [l.hasAll_iff.mp hall] at hvalues
    cases hvalues
    exact hP hall

lemma Layout.length_values {α : Type} {l : Layout α} (h : l.HasAll address quantity) :
    (l.values address quantity).length = quantity.toNat :=
  (collect_eq_some (l.hasAll_iff.mp h)).1

/-- A read of bits into an output that was cleared. -/
lemma readBits_spec {l : Layout Bool} (hquantity : quantity.toNat ≤ 8 * maxPduDataLen)
    (hlen : (quantity.toNat + 7) / 8 ≤ out.length)
    (hclear : ∀ j < 8 * ((quantity.toNat + 7) / 8), bitAt out j = false) :
    ((readLoop readBits l.maps address quantity out).isOk = true ↔
      (quantity = 0 ∨ address.toNat + quantity.toNat < 65536) ∧ l.HasAll address quantity) ∧
    ∀ out', readLoop readBits l.maps address quantity out = .ok out' → out'.length = out.length ∧
      ShowsBits l address quantity (out'.take ((quantity.toNat + 7) / 8)) := by
  refine readLoop_spec putBit (fun out' => readLoop_eq_ok ?_ ?_ le_rfl) fun hall => ?_
  · intro m hm cursor take offset out' hout' hfirst hend htake hlimit
    exact readBits_eq htake hm hfirst hend (by omega) (by omega)
  · intro i _ v out' hout'
    rw [length_putBit, hout']
  · have hlength := length_place_putBit (l.values address quantity) 0 out
    have hvalues := Layout.length_values hall
    have htake : ((place putBit 0 (l.values address quantity) out).take
        ((quantity.toNat + 7) / 8)).length = (quantity.toNat + 7) / 8 := by
      rw [List.length_take]
      omega
    refine ⟨hlength, htake, fun j hj => ?_⟩
    rw [htake] at hj
    rw [bitAt_take hj, bitAt_place_putBit (by omega), if_pos (Nat.zero_le j), hclear j hj,
      Bool.false_or, Nat.sub_zero]

lemma readWords_spec {l : Layout UInt16} (hlen : quantity.toNat * 2 ≤ out.length) :
    ((readLoop readWords l.maps address quantity out).isOk = true ↔
      (quantity = 0 ∨ address.toNat + quantity.toNat < 65536) ∧ l.HasAll address quantity) ∧
    ∀ out', readLoop readWords l.maps address quantity out = .ok out' → out'.length = out.length ∧
      ShowsWords l address quantity (out'.take (quantity.toNat * 2)) := by
  refine readLoop_spec putWord (fun out' => readLoop_eq_ok ?_ ?_ le_rfl) fun hall => ?_
  · intro m hm cursor take offset out' hout' hfirst hend htake hlimit
    exact readWords_eq htake hm hfirst hend (by omega)
  · intro i hi v out' hout'
    rw [length_putWord (by omega), hout']
  · have hvalues := Layout.length_values hall
    have hwords : ((l.values address quantity).flatMap toBeBytes).length = quantity.toNat * 2 := by
      rw [flatMap_toBeBytes_length, hvalues, Nat.mul_comm]
    rw [place_putWord (by omega), Nat.mul_zero, List.take_zero, List.nil_append, Nat.zero_add,
      hvalues]
    refine ⟨?_, List.take_left' hwords⟩
    rw [List.length_append, hwords, List.length_drop]
    omega

/-- What a handler makes of its loop. -/
lemma request_spec {loop : Fallible (List UInt8)} {width length : Nat} (hwidth : width < 256)
    {good : Prop} {P : List UInt8 → Prop}
    (hloop : (loop.isOk = true ↔ good) ∧
      ∀ out', loop = .ok out' → out'.length = length ∧ P (out'.take width)) :
    ((loop >>= fun out' => pure (UInt8.ofNat width, out')).isOk = true ↔ good) ∧
      ∀ n out', (loop >>= fun out' => pure (UInt8.ofNat width, out')) = .ok (n, out') →
        n.toNat = width ∧ out'.length = length ∧ P (out'.take n.toNat) := by
  obtain ⟨hok, hout⟩ := hloop
  have hn : (UInt8.ofNat width).toNat = width := by
    rw [UInt8.toNat_ofNat']
    omega
  cases loop with
  | ok out' =>
    refine ⟨hok, fun n out'' h => ?_⟩
    cases h
    rw [hn]
    exact ⟨rfl, hout out' rfl⟩
  | err e => exact ⟨hok, nofun⟩
  | panic => exact ⟨hok, nofun⟩

/-- What an arm answers. -/
lemma readResponse_spec [Features] {fc : FunctionCode} {loop : Fallible (List UInt8)}
    {width length : Nat} (hwidth : width ≤ length) (hlength : length ≤ maxPduDataLen)
    {good : Prop} {P : List UInt8 → Prop}
    (hloop : (loop.isOk = true ↔ good) ∧
      ∀ out', loop = .ok out' → out'.length = length ∧ P (out'.take width)) :
    ((∃ data, readResponse fc width loop = .ok (.byteCountPayload fc data)) ↔ good) ∧
      ∀ data, readResponse fc width loop = .ok (.byteCountPayload fc data) → P data.toList := by
  obtain ⟨hok, hout⟩ := hloop
  cases loop with
  | ok out' =>
    obtain ⟨hlen, hP⟩ := hout out' rfl
    have hslice : slice (ε := MbusError) out' 0 width = .ok (out'.take width) :=
      slice_of_le (Nat.zero_le _) (by rwa [hlen])
    have hresponse : readResponse fc width (.ok out') =
        .ok (.byteCountPayload fc (.ofSlice (out'.take width))) := by
      rw [readResponse, hslice]
      rfl
    have hfit : (out'.take width).length ≤ maxAduFrameLen := by
      have hmax := le_maxAduFrameLen
      rw [List.length_take]
      change length ≤ 252 at hlength
      omega
    rw [hresponse]
    refine ⟨iff_of_true ⟨_, rfl⟩ (hok.mp rfl), fun data h => ?_⟩
    cases h
    rwa [HVec.ofSlice_toList hfit]
  | err e => exact ⟨iff_of_false nofun (hok.not.mp Bool.false_ne_true), nofun⟩
  | panic => exact ⟨iff_of_false nofun (hok.not.mp Bool.false_ne_true), nofun⟩

lemma bitAt_cleared {n j : Nat} (hj : j < 8 * n) (rest : List UInt8) :
    bitAt (List.replicate n 0 ++ rest) j = false := by
  rw [← bitAt_take hj, List.take_left' List.length_replicate, bitAt_replicate]

/-- A request of bits clears its part of the buffer first. -/
lemma readBitsRequest_spec {l : Layout Bool} (hzero : quantity ≠ 0)
    (hquantity : quantity.toNat ≤ maxCoilsPerPdu)
    (hlen : (quantity.toNat + 7) / 8 ≤ out.length) :
    ((readBitsRequest l address quantity out).isOk = true ↔
      (quantity = 0 ∨ address.toNat + quantity.toNat < 65536) ∧ l.HasAll address quantity) ∧
    ∀ n out', readBitsRequest l address quantity out = .ok (n, out') →
      n.toNat = (quantity.toNat + 7) / 8 ∧ out'.length = out.length ∧
        ShowsBits l address quantity (out'.take n.toNat) := by
  have hcleared : (List.replicate ((quantity.toNat + 7) / 8) 0 ++
      out.drop ((quantity.toNat + 7) / 8)).length = out.length := by
    rw [List.length_append, List.length_replicate, List.length_drop]
    omega
  have heq : readBitsRequest l address quantity out =
      readLoop readBits l.maps address quantity (List.replicate ((quantity.toNat + 7) / 8) 0 ++
        out.drop ((quantity.toNat + 7) / 8)) >>= fun out' =>
      pure (UInt8.ofNat ((quantity.toNat + 7) / 8), out') := by
    rw [readBitsRequest, beq_eq_false_iff_ne.mpr hzero]
    change (guardErr (decide (out.length < (quantity.toNat + 7) / 8)) _ >>= _) = _
    rw [decide_eq_false (Nat.not_lt.mpr hlen)]
    rfl
  change quantity.toNat ≤ 2000 at hquantity
  have hsmall : quantity.toNat ≤ 8 * maxPduDataLen := by
    change _ ≤ 8 * 252
    omega
  rw [heq, ← hcleared]
  exact request_spec (by omega) (readBits_spec hsmall (by rwa [hcleared]) fun j hj =>
    bitAt_cleared hj _)

lemma readWordsRequest_spec {l : Layout UInt16} (hzero : quantity ≠ 0)
    (hquantity : quantity.toNat ≤ maxRegistersPerPdu) (hlen : quantity.toNat * 2 ≤ out.length) :
    ((readWordsRequest l address quantity out).isOk = true ↔
      (quantity = 0 ∨ address.toNat + quantity.toNat < 65536) ∧ l.HasAll address quantity) ∧
    ∀ n out', readWordsRequest l address quantity out = .ok (n, out') →
      n.toNat = quantity.toNat * 2 ∧ out'.length = out.length ∧
        ShowsWords l address quantity (out'.take n.toNat) := by
  have heq : readWordsRequest l address quantity out =
      readLoop readWords l.maps address quantity out >>=
        fun out' => pure (UInt8.ofNat (quantity.toNat * 2), out') := by
    rw [readWordsRequest, beq_eq_false_iff_ne.mpr hzero]
    change (guardErr (decide (out.length < quantity.toNat * 2)) _ >>= _) = _
    rw [decide_eq_false (Nat.not_lt.mpr hlen)]
    rfl
  change quantity.toNat ≤ 125 at hquantity
  rw [heq]
  exact request_spec (by omega) (readWords_spec hlen)

/-- Without maps there is nothing to read. -/
lemma Layout.not_hasAll {α : Type} {l : Layout α} (h : l.maps.isEmpty = true)
    (hzero : quantity ≠ 0) : ¬l.HasAll address quantity := by
  intro hall
  have hpos : 0 < quantity.toNat := Nat.pos_of_ne_zero fun hz => hzero (UInt16.toNat_inj.mp hz)
  have hfirst := hall 0 hpos
  rw [get, fieldAt, List.isEmpty_iff.mp h, List.findSome?_nil, ite_self] at hfirst
  cases hfirst

section

variable [Features] {fc : FunctionCode}

lemma readBitsArm_spec {l : Layout Bool} (hzero : quantity ≠ 0)
    (hquantity : quantity.toNat ≤ maxCoilsPerPdu) :
    ((∃ data, readBitsArm fc l address quantity = .ok (.byteCountPayload fc data)) ↔
      (quantity = 0 ∨ address.toNat + quantity.toNat < 65536) ∧ l.HasAll address quantity) ∧
    ∀ data, readBitsArm fc l address quantity = .ok (.byteCountPayload fc data) →
      ShowsBits l address quantity data.toList := by
  change quantity.toNat ≤ 2000 at hquantity
  have hwidth : (quantity.toNat + 7) / 8 ≤ 252 := by omega
  rw [readBitsArm]
  cases hempty : l.maps.isEmpty with
  | true => exact ⟨iff_of_false nofun fun h => Layout.not_hasAll hempty hzero h.2, nofun⟩
  | false =>
    dsimp only
    rw [if_neg Bool.false_ne_true, slice_of_le (Nat.zero_le _) (by rwa [List.length_replicate])]
    refine readResponse_spec hwidth le_rfl ?_
    have hspec := @readBits_spec address quantity (List.replicate maxPduDataLen 0) l
      (by change _ ≤ 8 * 252; omega) (by rwa [List.length_replicate])
      fun j _ => bitAt_replicate _ j
    rwa [List.length_replicate] at hspec

lemma readWordsArm_spec {l : Layout UInt16} (hzero : quantity ≠ 0)
    (hquantity : quantity.toNat ≤ maxRegistersPerPdu) :
    ((∃ data, readWordsArm fc l address quantity = .ok (.byteCountPayload fc data)) ↔
      (quantity = 0 ∨ address.toNat + quantity.toNat < 65536) ∧ l.HasAll address quantity) ∧
    ∀ data, readWordsArm fc l address quantity = .ok (.byteCountPayload fc data) →
      ShowsWords l address quantity data.toList := by
  change quantity.toNat ≤ 125 at hquantity
  have hwidth : quantity.toNat * 2 ≤ 252 := by omega
  rw [readWordsArm]
  cases hempty : l.maps.isEmpty with
  | true => exact ⟨iff_of_false nofun fun h => Layout.not_hasAll hempty hzero h.2, nofun⟩
  | false =>
    rw [if_neg Bool.false_ne_true]
    refine readResponse_spec hwidth le_rfl ?_
    have hspec := @readWords_spec address quantity (List.replicate maxPduDataLen 0) l
      (by rwa [List.length_replicate])
    rwa [List.length_replicate] at hspec

end

end

/-- The maps of an application, by group. -/
structure ModbusApp where
  coils : Layout Bool
  discreteInputs : Layout Bool
  holdingRegisters : Layout UInt16
  inputRegisters : Layout UInt16

/-- What a read request reads. -/
inductive ReadTable where
  | coils
  | discreteInputs
  | holdingRegisters
  | inputRegisters
deriving DecidableEq, Repr

namespace ReadTable

def functionCode : ReadTable → FunctionCode
  | .coils => .readCoils
  | .discreteInputs => .readDiscreteInputs
  | .holdingRegisters => .readHoldingRegisters
  | .inputRegisters => .readInputRegisters

/-- The largest quantity of a request. -/
def maxQuantity : ReadTable → Nat
  | .coils | .discreteInputs => maxCoilsPerPdu
  | .holdingRegisters | .inputRegisters => maxRegistersPerPdu

/-- `byte_width`. -/
def byteWidth : ReadTable → UInt16 → Nat
  | .coils, quantity | .discreteInputs, quantity => (quantity.toNat + 7) / 8
  | .holdingRegisters, quantity | .inputRegisters, quantity => quantity.toNat * 2

end ReadTable

namespace ModbusApp

variable (app : ModbusApp)

def readCoilsRequest : UInt16 → UInt16 → List UInt8 → Fallible (UInt8 × List UInt8) :=
  readBitsRequest app.coils

def readDiscreteInputsRequest : UInt16 → UInt16 → List UInt8 → Fallible (UInt8 × List UInt8) :=
  readBitsRequest app.discreteInputs

def readMultipleHoldingRegistersRequest :
    UInt16 → UInt16 → List UInt8 → Fallible (UInt8 × List UInt8) :=
  readWordsRequest app.holdingRegisters

def readMultipleInputRegistersRequest :
    UInt16 → UInt16 → List UInt8 → Fallible (UInt8 × List UInt8) :=
  readWordsRequest app.inputRegisters

/-- The read handler of `#[modbus_app]` for a table. -/
def readRequest : ReadTable → UInt16 → UInt16 → List UInt8 → Fallible (UInt8 × List UInt8)
  | .coils => app.readCoilsRequest
  | .discreteInputs => app.readDiscreteInputsRequest
  | .holdingRegisters => app.readMultipleHoldingRegistersRequest
  | .inputRegisters => app.readMultipleInputRegistersRequest

/-- The read arm of `#[async_modbus_app]` for a table. -/
def handleRead [Features] : ReadTable → UInt16 → UInt16 → Fallible ModbusResponse
  | .coils => readBitsArm .readCoils app.coils
  | .discreteInputs => readBitsArm .readDiscreteInputs app.discreteInputs
  | .holdingRegisters => readWordsArm .readHoldingRegisters app.holdingRegisters
  | .inputRegisters => readWordsArm .readInputRegisters app.inputRegisters

/-- Every address of the range belongs to a field of some map of the table. -/
def HasAll : ReadTable → UInt16 → UInt16 → Prop
  | .coils => app.coils.HasAll
  | .discreteInputs => app.discreteInputs.HasAll
  | .holdingRegisters => app.holdingRegisters.HasAll
  | .inputRegisters => app.inputRegisters.HasAll

/-- The output of a read: the values of the range in the order of their addresses. -/
def Shows : ReadTable → UInt16 → UInt16 → List UInt8 → Prop
  | .coils => ShowsBits app.coils
  | .discreteInputs => ShowsBits app.discreteInputs
  | .holdingRegisters => ShowsWords app.holdingRegisters
  | .inputRegisters => ShowsWords app.inputRegisters

/-- A read into a buffer covers exactly the mapped addresses. -/
structure ReadsExactly (table : ReadTable) (address quantity : UInt16) (out : List UInt8) :
    Prop where
  succeeds : (app.readRequest table address quantity out).isOk = true ↔
    app.HasAll table address quantity
  output : ∀ n out', app.readRequest table address quantity out = .ok (n, out') →
    n.toNat = table.byteWidth quantity ∧ out'.length = out.length ∧
      app.Shows table address quantity (out'.take n.toNat)

/-- So does a read that is answered. -/
structure AnswersExactly [Features] (table : ReadTable) (address quantity : UInt16) : Prop where
  succeeds : (∃ data, app.handleRead table address quantity =
    .ok (.byteCountPayload table.functionCode data)) ↔ app.HasAll table address quantity
  output : ∀ data, app.handleRead table address quantity =
    .ok (.byteCountPayload table.functionCode data) →
      app.Shows table address quantity data.toList

variable {app}

lemma readRequest_spec {table : ReadTable} {address quantity : UInt16} {out : List UInt8}
    (hzero : quantity ≠ 0) (hquantity : quantity.toNat ≤ table.maxQuantity)
    (hlen : table.byteWidth quantity ≤ out.length) :
    ((app.readRequest table address quantity out).isOk = true ↔
      (quantity = 0 ∨ address.toNat + quantity.toNat < 65536) ∧
        app.HasAll table address quantity) ∧
    ∀ n out', app.readRequest table address quantity out = .ok (n, out') →
      n.toNat = table.byteWidth quantity ∧ out'.length = out.length ∧
        app.Shows table address quantity (out'.take n.toNat) := by
  cases table with
  | coils => exact readBitsRequest_spec hzero hquantity hlen
  | discreteInputs => exact readBitsRequest_spec hzero hquantity hlen
  | holdingRegisters => exact readWordsRequest_spec hzero hquantity hlen
  | inputRegisters => exact readWordsRequest_spec hzero hquantity hlen

lemma handleRead_spec [Features] {table : ReadTable} {address quantity : UInt16}
    (hzero : quantity ≠ 0) (hquantity : quantity.toNat ≤ table.maxQuantity) :
    ((∃ data, app.handleRead table address quantity =
        .ok (.byteCountPayload table.functionCode data)) ↔
      (quantity = 0 ∨ address.toNat + quantity.toNat < 65536) ∧
        app.HasAll table address quantity) ∧
    ∀ data, app.handleRead table address quantity =
      .ok (.byteCountPayload table.functionCode data) →
        app.Shows table address quantity data.toList := by
  cases table with
  | coils => exact readBitsArm_spec hzero hquantity
  | discreteInputs => exact readBitsArm_spec hzero hquantity
  | holdingRegisters => exact readWordsArm_spec hzero hquantity
  | inputRegisters => exact readWordsArm_spec hzero hquantity

/-- A field has an address, so a mapped range ends with the address space at the latest. -/
lemma le_of_hasAll {table : ReadTable} {address quantity : UInt16} (hzero : quantity ≠ 0)
    (hall : app.HasAll table address quantity) : address.toNat + quantity.toNat ≤ 65536 := by
  have hpos : 0 < quantity.toNat := Nat.pos_of_ne_zero fun hz => hzero (UInt16.toNat_inj.mp hz)
  have hlayout {α : Type} {l : Layout α} (h : l.HasAll address quantity) :
      address.toNat + quantity.toNat ≤ 65536 := by
    by_contra hgt
    have hlast := h (quantity.toNat - 1) (by omega)
    rw [Layout.get, fieldAt, if_neg (by omega)] at hlast
    cases hlast
  cases table with
  | coils => exact hlayout hall
  | discreteInputs => exact hlayout hall
  | holdingRegisters => exact hlayout hall
  | inputRegisters => exact hlayout hall

/-- A read within the limits covers exactly the mapped addresses, but for a mapped range that ends
with the address space: the cursor cannot move behind it, and the read fails. -/
theorem reads_exactly_iff [Features] {table : ReadTable} {address quantity : UInt16}
    {out : List UInt8} (hzero : 1 ≤ quantity.toNat)
    (hquantity : quantity.toNat ≤ table.maxQuantity)
    (hlen : table.byteWidth quantity ≤ out.length) :
    (app.ReadsExactly table address quantity out ∧ app.AnswersExactly table address quantity) ↔
      ¬(app.HasAll table address quantity ∧ address.toNat + quantity.toNat = 65536) := by
  have hne : quantity ≠ 0 := by
    rintro rfl
    exact absurd hzero (by decide)
  obtain ⟨hreads, hout⟩ := @readRequest_spec app table address quantity out hne hquantity hlen
  obtain ⟨hanswers, hdata⟩ := @handleRead_spec app _ table address quantity hne hquantity
  constructor
  · rintro ⟨hexactly, _⟩ ⟨hall, hend⟩
    rcases (hreads.mp (hexactly.succeeds.mpr hall)).1 with hz | hlt
    · exact hne hz
    · omega
  · intro hend
    have hbound (hall : app.HasAll table address quantity) :
        quantity = 0 ∨ address.toNat + quantity.toNat < 65536 := by
      have hle := le_of_hasAll hne hall
      exact Or.inr (Nat.lt_of_le_of_ne hle fun heq => hend ⟨hall, heq⟩)
    have hboth : (quantity = 0 ∨ address.toNat + quantity.toNat < 65536) ∧
        app.HasAll table address quantity ↔ app.HasAll table address quantity :=
      and_iff_right_of_imp hbound
    exact ⟨⟨hreads.trans hboth, hout⟩, ⟨hanswers.trans hboth, hdata⟩⟩

end ModbusApp

/-- Two maps of coils that meet between the addresses 11 and 12. -/
def adjacentCoils : ModbusApp where
  coils :=
    { maps := [⟨[(10, true), (11, false)], by decide⟩, ⟨[(12, true)], by decide⟩]
      disjoint := by decide
      ordered := by decide }
  discreteInputs := ⟨[], .nil, .nil⟩
  holdingRegisters := ⟨[], .nil, .nil⟩
  inputRegisters := ⟨[], .nil, .nil⟩

/-- One coil, with the last address. -/
def lastCoil : ModbusApp where
  coils :=
    { maps := [⟨[(0xFFFF, true)], by decide⟩]
      disjoint := by decide
      ordered := by decide }
  discreteInputs := ⟨[], .nil, .nil⟩
  holdingRegisters := ⟨[], .nil, .nil⟩
  inputRegisters := ⟨[], .nil, .nil⟩

theorem reads_exactly_adjacent :
    letI : Features := Features.minimal
    (adjacentCoils.ReadsExactly .coils 10 3 [0] ∧ adjacentCoils.AnswersExactly .coils 10 3) ↔
      ¬(adjacentCoils.HasAll .coils 10 3 ∧ (10 : UInt16).toNat + (3 : UInt16).toNat = 65536) := by
  let _ := Features.minimal
  exact ModbusApp.reads_exactly_iff (by decide) (by decide) (by decide)

theorem lastCoil_not_reads_exactly :
    ¬∀ [Features] (app : ModbusApp) (table : ReadTable) (address quantity : UInt16)
      (out : List UInt8), 1 ≤ quantity.toNat → quantity.toNat ≤ table.maxQuantity →
      table.byteWidth quantity ≤ out.length →
      app.ReadsExactly table address quantity out ∧
        app.AnswersExactly table address quantity := by
  intro h
  have hread := (@h Features.minimal lastCoil .coils 0xFFFF 1 [0] (by decide) (by decide)
    (by decide)).1.succeeds
  have hall : lastCoil.coils.HasAll 0xFFFF 1 := by decide
  have hrefused : (lastCoil.readRequest .coils 0xFFFF 1 [0]).isOk = false := by decide +kernel
  exact Bool.false_ne_true (hrefused.symm.trans (hread.mpr hall))

end ModbusRs
