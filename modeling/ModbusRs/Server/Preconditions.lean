import ModbusRs.Server.Callbacks
import ModbusRs.Server.Steps

/-!
# What the application can rely on

A coil or register callback is made with a range of addresses that fits the address space and
the limit of its function code, and with exactly the values that the range needs. The checks
are those of the handlers; the broadcast handlers make them too.
-/

namespace ModbusRs

open Outcome

/-- `quantity` addresses from `address` on, at least one and at most `limit` of them. -/
def CoversRange (limit : Nat) (address : UInt16) (quantity : Nat) : Prop :=
  1 ≤ quantity ∧ quantity ≤ limit ∧ address.toNat + quantity ≤ 65536

/-- What a coil or register callback is called with. -/
def AppRequest.InRange : AppRequest → Prop
  | .readCoils address quantity => CoversRange 2000 address quantity.toNat
  | .readDiscreteInputs address quantity => CoversRange 2000 address quantity.toNat
  | .readMultipleHoldingRegisters address quantity => CoversRange 125 address quantity.toNat
  | .readMultipleInputRegisters address quantity => CoversRange 125 address quantity.toNat
  | .writeSingleCoil address _ => CoversRange 1 address 1
  | .writeMultipleCoils startingAddress quantity values =>
    CoversRange 1968 startingAddress quantity.toNat ∧ values.length = packedBitLen quantity
  | .writeSingleRegister address _ => CoversRange 1 address 1
  | .writeMultipleRegisters startingAddress values =>
    CoversRange 123 startingAddress values.length
  | .maskWriteRegister address _ _ => CoversRange 1 address 1
  | .readWriteMultipleRegisters readAddress readQuantity writeAddress writeValues =>
    CoversRange 125 readAddress readQuantity.toNat ∧ CoversRange 121 writeAddress writeValues.length
  | _ => True

/-! ### What the checks establish -/

lemma coversRange_one (address : UInt16) : CoversRange 1 address 1 :=
  ⟨Nat.le_refl 1, Nat.le_refl 1, address.toNat_lt⟩

lemma coversRange_of_checks {limit quantity address : UInt16} (hpos : 1 ≤ quantity)
    (hle : quantity ≤ limit) (hover : addressOverflow address quantity = false) :
    CoversRange limit.toNat address quantity.toNat := by
  have h1 : 1 ≤ quantity.toNat := UInt16.le_iff_toNat_le.mp hpos
  simp only [addressOverflow, decide_eq_false_iff_not] at hover
  exact ⟨h1, UInt16.le_iff_toNat_le.mp hle, by omega⟩

lemma checkReadWindow_eq_ok {maxQuantity : UInt16} {pdu : Pdu} {window : ReadWindow}
    (h : checkReadWindow 1 maxQuantity pdu = .ok window) :
    CoversRange maxQuantity.toNat window.address window.quantity.toNat := by
  obtain ⟨window', _, h⟩ := bind_eq_ok.mp h
  obtain ⟨_, hq, h⟩ := bind_eq_ok.mp h
  obtain ⟨_, ha, h⟩ := bind_eq_ok.mp h
  cases h
  have hq := guardErr_eq_ok.mp hq
  simp only [Bool.not_eq_false', Bool.and_eq_true, decide_eq_true_eq] at hq
  exact coversRange_of_checks hq.1 hq.2 (guardErr_eq_ok.mp ha)

lemma checkWriteMultipleCoils_eq_ok {pdu : Pdu} {fields : WriteMultipleFields}
    (h : checkWriteMultipleCoils pdu = .ok fields) :
    CoversRange 1968 fields.address fields.quantity.toNat ∧
      fields.values.length = packedBitLen fields.quantity := by
  obtain ⟨_, hpos, hle, hover, _, hlen⟩ := checkWriteMultiple_eq_ok h
  exact ⟨coversRange_of_checks hpos hle hover, hlen⟩

lemma length_of_slice_front {registers words : List UInt16} {count : Nat}
    (h : slice registers 0 count = (.ok words : Fallible _)) : words.length = count := by
  obtain ⟨⟨_, hle⟩, rfl⟩ := slice_eq_ok.mp h
  rw [List.length_drop, List.length_take]
  omega

lemma checkWriteMultipleRegisters_eq_ok {pdu : Pdu} {fields : WriteMultipleFields × List UInt16}
    (h : checkWriteMultipleRegisters pdu = .ok fields) :
    CoversRange 123 fields.1.address fields.2.length := by
  obtain ⟨fields', hfields, h⟩ := bind_eq_ok.mp h
  obtain ⟨_, _, h⟩ := bind_eq_ok.mp h
  obtain ⟨values, hvalues, h⟩ := bind_eq_ok.mp h
  cases h
  obtain ⟨_, hpos, hle, hover, _, _⟩ := checkWriteMultiple_eq_ok hfields
  rw [length_of_slice_front hvalues]
  exact coversRange_of_checks hpos hle hover

lemma checkReadWriteMultipleRegisters_eq_ok {pdu : Pdu}
    {fields : ReadWriteMultipleFields × List UInt16}
    (h : checkReadWriteMultipleRegisters pdu = .ok fields) :
    CoversRange 125 fields.1.readAddress fields.1.readQuantity.toNat ∧
      CoversRange 121 fields.1.writeAddress fields.2.length := by
  obtain ⟨fields', _, h⟩ := bind_eq_ok.mp h
  obtain ⟨_, hread, h⟩ := bind_eq_ok.mp h
  obtain ⟨_, hwrite, h⟩ := bind_eq_ok.mp h
  obtain ⟨_, hreadOver, h⟩ := bind_eq_ok.mp h
  obtain ⟨_, hwriteOver, h⟩ := bind_eq_ok.mp h
  obtain ⟨_, _, h⟩ := bind_eq_ok.mp h
  obtain ⟨_, _, h⟩ := bind_eq_ok.mp h
  obtain ⟨values, hvalues, h⟩ := bind_eq_ok.mp h
  cases h
  have hread := guardErr_eq_ok.mp hread
  have hwrite := guardErr_eq_ok.mp hwrite
  simp only [Bool.not_eq_false', Bool.and_eq_true, decide_eq_true_eq] at hread hwrite
  rw [length_of_slice_front hvalues]
  exact ⟨coversRange_of_checks hread.1 hread.2 (guardErr_eq_ok.mp hreadOver),
    coversRange_of_checks hwrite.1 hwrite.2 (guardErr_eq_ok.mp hwriteOver)⟩

/-! ### Handlers -/

section Handlers

variable {σ : Type}

/-- The calls the computation makes are in range. -/
abbrev Prudent {α : Type} (m : AppM σ α) : Prop :=
  m.Within (CallbackM.ExtendsWith fun call : AppCall => call.request.InRange)

variable {app : ModbusAppHandler σ} {tt : TransportType} {txnId : UInt16}
  {unit : UnitIdOrSlaveAddr} {pdu : Pdu}

/-- A handler with one callback is prudent if its check is. -/
lemma prudent_checkCallFinish {ρ α β : Type} {check : Fallible ρ} {request : ρ → AppRequest}
    {f : ρ → σ → α × σ} {finish : ρ → α → Fallible β}
    (h : ∀ r, check = .ok r → (request r).InRange) :
    Prudent (CallbackM.checkCallFinish check (fun r => ⟨txnId, unit, request r⟩) f finish) :=
  CallbackM.withinWith_checkCallFinish f finish h

variable [Features]

lemma prudent_readFileRecord : Prudent (handleReadFileRecordRequest app tt txnId unit pdu) := by
  have htrans := CallbackM.ExtendsWith.trans (P := fun call : AppCall => call.request.InRange)
    (σ := σ)
  refine EffM.Within.bind htrans (EffM.within_lift .refl _) fun subs => ?_
  refine EffM.Within.bind htrans ?_ fun payload => EffM.within_lift .refl _
  exact within_readFileRecordLoop .refl htrans
    (fun _ _ _ f => CallbackM.withinWith_call trivial f) subs.toList .empty (zeroBuffer _)

lemma prudent_writeFileRecord : Prudent (handleWriteFileRecordRequest app tt txnId unit pdu) := by
  have htrans := CallbackM.ExtendsWith.trans (P := fun call : AppCall => call.request.InRange)
    (σ := σ)
  refine EffM.Within.bind htrans (EffM.within_lift .refl _) fun subs => ?_
  refine EffM.Within.bind htrans ?_ fun _ => EffM.within_lift .refl _
  exact within_writeFileRecordLoop .refl htrans
    (fun _ _ _ _ f => CallbackM.withinWith_call trivial f) subs.toList (List.replicate 126 0)

end Handlers

end ModbusRs
