import ModbusRs.Core.Adu

/-!
# Decoding without panics

The serial decoders check every bound before they slice. The MBAP decoder does not: the
length field counts the unit id, but a length of zero is let through, and the PDU is then
sliced from behind the end of the frame.
-/

namespace ModbusRs

open Outcome

namespace ModbusMessage

/-- The MBAP decoder on a slice of at least eight bytes. -/
lemma fromBytes_cons (t₁ t₂ p₁ p₂ l₁ l₂ u : UInt8) (rest : List UInt8) (hrest : rest ≠ []) :
    fromBytes (t₁ :: t₂ :: p₁ :: p₂ :: l₁ :: l₂ :: u :: rest) =
      if fromBeBytes p₁ p₂ ≠ 0 then .err .basicParseError
      else if rest.length + 1 < (fromBeBytes l₁ l₂).toNat then .err .invalidPduLength
      else if fromBeBytes l₁ l₂ = 0 then .panic
      else Pdu.fromBytes (rest.take ((fromBeBytes l₁ l₂).toNat - 1)) >>= fun pdu =>
        .ok ⟨.mbapHeader ⟨fromBeBytes t₁ t₂, fromBeBytes p₁ p₂, fromBeBytes l₁ l₂, u⟩, pdu⟩ := by
  have hpos : 0 < rest.length := List.length_pos_iff.mpr hrest
  unfold fromBytes
  simp only [u16At, index_cons_zero, index_cons_succ, ok_bind, pure_def, List.length_cons]
  rw [show decide (rest.length + 1 + 1 + 1 + 1 + 1 + 1 + 1 < 7 + 1) = false by simp; omega,
    guardErr_false, ok_bind]
  by_cases hp : fromBeBytes p₁ p₂ = 0
  · simp only [hp, bne_self_eq_false, guardErr_false, ok_bind, ne_eq, not_true_eq_false, if_false]
    set n := (fromBeBytes l₁ l₂).toNat with hn
    by_cases hlen : rest.length + 1 < n
    · rw [if_pos hlen, show decide (rest.length + 1 + 1 + 1 + 1 + 1 + 1 + 1 < n + 6) = true by
        simp; omega]
      rfl
    · rw [if_neg hlen, show decide (rest.length + 1 + 1 + 1 + 1 + 1 + 1 + 1 < n + 6) = false by
        simp; omega, guardErr_false, ok_bind,
        slice_of_le (Nat.zero_le _) (by simp only [List.length_cons]; omega), ok_bind]
      by_cases hzero : fromBeBytes l₁ l₂ = 0
      · have hn0 : n = 0 := by rw [hn, hzero]; rfl
        rw [if_pos hzero, slice_eq_panic.mpr (Or.inl (by simp [hn0]))]
        rfl
      · obtain ⟨k, hk⟩ : ∃ k, n = k + 1 := Nat.exists_eq_succ_of_ne_zero
          (fun h0 => hzero (UInt16.toNat_inj.mp (by rw [← hn, h0]; rfl)))
        have hk' : min k rest.length = k := by omega
        rw [if_neg hzero, slice_of_le (by simp [hk]) (Nat.le_refl _)]
        simp [hk, hk', List.take_take]
  · have hb : (fromBeBytes p₁ p₂ != 0) = true := by simpa using hp
    simp [hp, hb]

lemma fromBytes_short {bytes : List UInt8} (h : bytes.length < 8) :
    fromBytes bytes = .err .invalidAduLength := by
  simp [fromBytes, h]

lemma fromRtuBytes_ne_panic (frame : List UInt8) : fromRtuBytes frame ≠ .panic := by
  unfold fromRtuBytes
  rw [guard_decide_bind_ne_panic]
  intro h4
  dsimp only
  rw [slice_of_le (Nat.zero_le _) (by omega), ok_bind, index_of_lt (by omega), ok_bind,
    index_of_lt (by omega), ok_bind, guardErr_bind_ne_panic]
  intro _
  rw [index_of_lt (by omega), ok_bind, lift_bind_ne_panic]
  intro address _
  rw [slice_of_le (by simp; omega) (Nat.le_refl _), ok_bind]
  exact bind_ne_panic (Pdu.fromBytes_ne_panic _) (fun pdu _ => by simp)

lemma decodeHex_ne_panic (hex : List UInt8) (out : HVec UInt8 260) (h : hex.length % 2 = 0) :
    decodeHex hex out ≠ .panic := by
  induction hex, out using decodeHex.induct with
  | case1 out => simp [decodeHex]
  | case2 c out => simp at h
  | case3 high low rest out ih =>
    rw [decodeHex, lift_bind_ne_panic]
    intro byte _
    rw [lift_bind_ne_panic]
    intro out' _
    have hrest : rest.length % 2 = 0 := by
      simp only [List.length_cons] at h
      omega
    exact ih out' hrest

lemma fromAsciiBytes_ne_panic (frame : List UInt8) : fromAsciiBytes frame ≠ .panic := by
  unfold fromAsciiBytes
  rw [guard_decide_bind_ne_panic]
  intro h9
  rw [index_of_lt (by omega), ok_bind, guardErr_bind_ne_panic]
  intro _
  rw [index_of_lt (by omega), ok_bind, index_of_lt (by omega), ok_bind, guardErr_bind_ne_panic]
  intro _
  rw [slice_of_le (by omega) (by omega), ok_bind, guardErr_bind_ne_panic]
  intro hodd
  refine bind_ne_panic (decodeHex_ne_panic _ _ (by simpa using hodd)) ?_
  intro binary _
  rw [guard_decide_bind_ne_panic]
  intro hlen
  dsimp only
  rw [slice_of_le (Nat.zero_le _) (by omega), ok_bind, index_of_lt (by omega), ok_bind,
    guardErr_bind_ne_panic]
  intro _
  rw [index_of_lt (by omega), ok_bind, lift_bind_ne_panic]
  intro address _
  rw [slice_of_le (by omega) (by omega), ok_bind]
  exact bind_ne_panic (Pdu.fromBytes_ne_panic _) (fun pdu _ => by simp)

end ModbusMessage

/-- A Modbus TCP frame of at least eight bytes whose MBAP length field is zero. -/
def ZeroMbapLength (frame : List UInt8) (transportType : TransportType) : Prop :=
  transportType.isTcpType ∧ 8 ≤ frame.length ∧ frame.getD 2 0 = 0 ∧ frame.getD 3 0 = 0 ∧
    frame.getD 4 0 = 0 ∧ frame.getD 5 0 = 0

instance (frame : List UInt8) (t : TransportType) : Decidable (ZeroMbapLength frame t) :=
  inferInstanceAs (Decidable (_ ∧ _))

lemma fromBytes_eq_panic_iff (frame : List UInt8) :
    ModbusMessage.fromBytes frame = .panic ↔ ZeroMbapLength frame .stdTcp := by
  by_cases hlen : frame.length < 8
  · have h8 : ¬8 ≤ frame.length := by omega
    simp [ModbusMessage.fromBytes_short hlen, ZeroMbapLength, h8]
  · match frame, hlen with
    | t₁ :: t₂ :: p₁ :: p₂ :: l₁ :: l₂ :: u :: b :: rest, _ =>
      rw [ModbusMessage.fromBytes_cons t₁ t₂ p₁ p₂ l₁ l₂ u (b :: rest) (by simp)]
      have hz : ZeroMbapLength (t₁ :: t₂ :: p₁ :: p₂ :: l₁ :: l₂ :: u :: b :: rest) .stdTcp ↔
          fromBeBytes p₁ p₂ = 0 ∧ fromBeBytes l₁ l₂ = 0 := by
        simp [ZeroMbapLength, TransportType.isTcpType, fromBeBytes_eq_zero, and_assoc]
      rw [hz]
      by_cases hp : fromBeBytes p₁ p₂ = 0
      · by_cases hl : fromBeBytes l₁ l₂ = 0
        · simp [hp, hl]
        · have hpdu := Pdu.fromBytes_ne_panic ((b :: rest).take ((fromBeBytes l₁ l₂).toNat - 1))
          simp only [hp, hl, and_false, iff_false, ne_eq, not_true_eq_false, if_false]
          split
          · simp
          · exact bind_ne_panic hpdu (fun pdu _ => by simp)
      · simp [hp]
    | [], h => simp at h
    | [_], h => simp at h
    | [_, _], h => simp at h
    | [_, _, _], h => simp at h
    | [_, _, _, _], h => simp at h
    | [_, _, _, _, _], h => simp at h
    | [_, _, _, _, _, _], h => simp at h
    | [_, _, _, _, _, _, _], h => simp at h

/-- Decoding panics on TCP frames with a zero length field and on nothing else. -/
theorem decompileAduFrame_returns_iff (frame : List UInt8) (transportType : TransportType) :
    decompileAduFrame frame transportType ≠ .panic ↔ ¬ZeroMbapLength frame transportType := by
  cases transportType with
  | stdTcp => exact not_congr (fromBytes_eq_panic_iff frame)
  | customTcp => exact not_congr (fromBytes_eq_panic_iff frame)
  | stdSerial mode =>
    have hz : ¬ZeroMbapLength frame (.stdSerial mode) := fun h => Bool.false_ne_true h.1
    cases mode with
    | rtu => exact iff_of_true (ModbusMessage.fromRtuBytes_ne_panic frame) hz
    | ascii => exact iff_of_true (ModbusMessage.fromAsciiBytes_ne_panic frame) hz
  | customSerial mode =>
    have hz : ¬ZeroMbapLength frame (.customSerial mode) := fun h => Bool.false_ne_true h.1
    cases mode with
    | rtu => exact iff_of_true (ModbusMessage.fromRtuBytes_ne_panic frame) hz
    | ascii => exact iff_of_true (ModbusMessage.fromAsciiBytes_ne_panic frame) hz

/-- A Read Holding Registers request in a frame whose length field is zero. -/
theorem decompileAduFrame_zero_length_panics :
    ¬∀ (frame : List UInt8) (transportType : TransportType),
      decompileAduFrame frame transportType ≠ .panic := by
  intro h
  exact h [0x00, 0x01, 0x00, 0x00, 0x00, 0x00, 0x11, 0x03] .stdTcp (by decide)

end ModbusRs
