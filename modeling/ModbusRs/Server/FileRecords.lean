import ModbusRs.Server.Callbacks

/-!
# Writing file records

The parser of FC15 goes through all the sub-requests before the first is written, but the range
of each is checked only when its turn comes. So a sub-request out of range stops what follows it,
and what stands before it has been written.
-/

namespace ModbusRs

open Outcome

/-- A sub-request fails a check: one of the parser's, which look at all of them, or one of those
made in the loop. -/
def SubRequestFails (pdu : Pdu) : Prop :=
  ∀ subs, pdu.fileRecordWriteSubRequests = .ok subs → ∃ sub ∈ subs.toList,
    recordOverflow sub.recordNumber sub.recordLength = true ∨
      sub.recordDataBytes.length ≠ sub.recordLength.toNat * 2

/-- If the PDU parses, the first sub-request is out of range or none is. -/
def FirstOrNoneOutOfRange (pdu : Pdu) : Prop :=
  ∀ subs, pdu.fileRecordWriteSubRequests = .ok subs →
    (∀ sub ∈ subs.toList.head?, recordOverflow sub.recordNumber sub.recordLength = true) ∨
      ∀ sub ∈ subs.toList, recordOverflow sub.recordNumber sub.recordLength = false

/-- After parsing the range is all that can be wrong. -/
lemma isOk_writeFileRecordWords {sub : FileRecordWriteSubRequest} (registers : List UInt16)
    (hlen : sub.recordDataBytes.length = sub.recordLength.toNat * 2)
    (hroom : sub.recordDataBytes.length ≤ registers.length * 2) :
    (writeFileRecordWords sub registers).isOk =
      !recordOverflow sub.recordNumber sub.recordLength := by
  have hwords : (beWords sub.recordDataBytes).length = sub.recordLength.toNat := by
    rw [beWords_length, hlen]
    omega
  unfold writeFileRecordWords
  cases recordOverflow sub.recordNumber sub.recordLength with
  | true => rfl
  | false =>
    have hfits : (beWords sub.recordDataBytes).length ≤ registers.length := by omega
    rw [guardErr_false, ok_bind, hlen, bne_self_eq_false, guardErr_false, ok_bind, overwriteWords,
      if_pos hfits, ok_bind, slice_of_le (Nat.zero_le _) (by simp [hwords]), ok_bind]
    rfl

/-- The first sub-request decides whether the application is called. -/
lemma writeFileRecordReachesApp_eq_false {pdu : Pdu} :
    writeFileRecordReachesApp pdu = false ↔
      ∀ subs, pdu.fileRecordWriteSubRequests = .ok subs →
        ∀ sub ∈ subs.toList.head?, recordOverflow sub.recordNumber sub.recordLength = true := by
  unfold writeFileRecordReachesApp
  cases hsubs : pdu.fileRecordWriteSubRequests with
  | err e => simp
  | panic => simp
  | ok subs =>
    obtain ⟨hne, hbytes⟩ := Pdu.fileRecordWriteSubRequests_dataBytes hsubs
    obtain ⟨sub, rest, hcons⟩ := List.exists_cons_of_ne_nil hne
    obtain ⟨hlen, hle⟩ := hbytes sub (hcons ▸ List.mem_cons_self)
    have hroom : sub.recordDataBytes.length ≤ (List.replicate 126 (0 : UInt16)).length * 2 := by
      rw [List.length_replicate]
      exact hle
    have hok := isOk_writeFileRecordWords (List.replicate 126 0) hlen hroom
    dsimp only
    rw [hcons]
    dsimp only
    rw [hok, Bool.not_eq_false']
    constructor
    · intro h subs' hsubs' sub' hsub'
      obtain rfl := Outcome.ok.inj hsubs'
      rw [hcons] at hsub'
      obtain rfl := Option.some.inj hsub'
      exact h
    · intro h
      exact h subs rfl sub (by rw [hcons]; rfl)

/-- A PDU with a sub-request that fails leaves the application alone exactly when it is the first
that is out of range, or none: when parsing found the failure. -/
theorem writeFileRecord_validates_first_iff [Features] {depth : Nat} {σ τ : Type}
    (setup : ServerSetup σ τ) (txnId : UInt16) (unit : UnitIdOrSlaveAddr) (pdu : Pdu)
    (s : ServerServices depth σ τ) :
    (SubRequestFails pdu →
      ((ServerM.dispatchFunction setup txnId unit .writeFileRecord pdu).run s).2.app.calls =
        s.app.calls) ↔ FirstOrNoneOutOfRange pdu := by
  rw [ServerM.calls_dispatchFunction]
  change (_ → writeFileRecordReachesApp pdu = false) ↔ _
  rw [writeFileRecordReachesApp_eq_false]
  constructor
  · intro h subs hsubs
    by_cases hfails : ∃ sub ∈ subs.toList,
        recordOverflow sub.recordNumber sub.recordLength = true
    · obtain ⟨sub, hsub, hover⟩ := hfails
      refine Or.inl (h (fun subs' hsubs' => ?_) subs hsubs)
      obtain rfl := Outcome.ok.inj (hsubs.symm.trans hsubs')
      exact ⟨sub, hsub, Or.inl hover⟩
    · refine Or.inr fun sub hsub => Bool.eq_false_iff.mpr fun hover => hfails ⟨sub, hsub, hover⟩
  · intro h hfails subs hsubs
    rcases h subs hsubs with hfirst | hnone
    · exact hfirst
    -- the byte counts agree once the PDU has been parsed
    · obtain ⟨sub, hsub, hover | hlen⟩ := hfails subs hsubs
      · exact absurd hover (Bool.eq_false_iff.mp (hnone sub hsub))
      · exact absurd ((Pdu.fileRecordWriteSubRequests_dataBytes hsubs).2 sub hsub).1 hlen

/-- The first record can be written, the second one ends past the last record number. -/
def secondOutOfRange : Pdu := .new .writeFileRecord (.ofSlice
  [20, 6, 0x00, 0x01, 0x00, 0x00, 0x00, 0x01, 0xAB, 0xCD,
    6, 0x00, 0x01, 0xFF, 0xFF, 0x00, 0x02, 0x01, 0x02, 0x03, 0x04])

/-- Some record of the request ends past the last record number. -/
def someOverflow (pdu : Pdu) : Bool :=
  match pdu.fileRecordWriteSubRequests with
  | .ok subs => subs.toList.any fun sub => recordOverflow sub.recordNumber sub.recordLength
  | _ => false

/-- The first record is written all the same. -/
theorem writeFileRecord_writes_before_checking :
    ¬∀ [Features] (setup : ServerSetup Unit Unit) (txnId : UInt16) (unit : UnitIdOrSlaveAddr)
      (pdu : Pdu) (s : ServerServices 8 Unit Unit), SubRequestFails pdu →
      ((ServerM.dispatchFunction setup txnId unit .writeFileRecord pdu).run s).2.app.calls =
        s.app.calls := by
  intro h
  let _ := Features.minimal
  have hfails : SubRequestFails secondOutOfRange := by
    intro subs hsubs
    have hany : someOverflow secondOutOfRange = true := by decide +kernel
    rw [someOverflow, hsubs, List.any_eq_true] at hany
    obtain ⟨sub, hsub, hover⟩ := hany
    exact ⟨sub, hsub, Or.inl hover⟩
  have hcalls := h (ServerSetup.plain refusingApp .stdTcp ⟨1, by decide⟩) 1 ⟨1, by decide⟩
    secondOutOfRange (ServerServices.withQueueDepth 8 () ()) hfails
  revert hcalls
  decide +kernel

end ModbusRs
