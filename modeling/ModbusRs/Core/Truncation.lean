import ModbusRs.Core.Checksum
import ModbusRs.Core.Wire

/-!
# The boundary of a frame that was cut out

A frame is cut out of a longer buffer at the length derived from the whole buffer. Derived again
from the frame alone, the length is the same: what is missing in the frame has to do with longer
candidates only.
-/

namespace ModbusRs

open Outcome

/-! ### Searches -/

/-- Elements that come from the second function only and fail the test do not matter. -/
lemma find?_filterMap_congr {α β : Type} {f g : α → Option β} {p : β → Bool} {l : List α}
    (h : ∀ a ∈ l, f a = g a ∨ f a = none ∧ ∀ b ∈ g a, p b = false) :
    (l.filterMap f).find? p = (l.filterMap g).find? p := by
  induction l with
  | nil => rfl
  | cons a l ih =>
    obtain ⟨ha, hl⟩ := List.forall_mem_cons.mp h
    have hrest := ih hl
    rcases ha with heq | ⟨hnone, hfails⟩
    · rw [List.filterMap_cons, List.filterMap_cons, heq]
      cases g a with
      | none => exact hrest
      | some b => rw [List.find?_cons, List.find?_cons, hrest]
    · rw [List.filterMap_cons, List.filterMap_cons, hnone]
      cases hg : g a with
      | none => exact hrest
      | some b => rw [List.find?_cons, hfails b hg, hrest]

/-- The first element that passes a test also passes a narrower one first. -/
lemma find?_of_narrower {α : Type} {p q : α → Bool} {l : List α} {a : α} (h : l.find? p = some a)
    (hq : q a = true) (hnarrow : ∀ b, q b = true → p b = true) : l.find? q = some a := by
  obtain ⟨_, before, after, rfl, hbefore⟩ := List.find?_eq_some_iff_append.mp h
  refine List.find?_eq_some_iff_append.mpr ⟨hq, before, after, rfl, fun b hb => ?_⟩
  have hp := hbefore b hb
  rw [Bool.not_eq_true'] at hp ⊢
  exact Bool.eq_false_iff.mpr fun hqb => Bool.eq_false_iff.mp hp (hnarrow b hqb)

/-! ### No length -/

lemma getByteCountFromFrame_pos {frame : List UInt8} {fc : UInt8} {n : Nat}
    (h : getByteCountFromFrame frame fc = some n) : 0 < n := by
  have hchecked {len : Nat} (h : checkCrc frame len = true) : 0 < len := by
    rw [checkCrc, Bool.and_eq_true, Bool.and_eq_true, decide_eq_true_iff, decide_eq_true_iff] at h
    omega
  rw [getByteCountFromFrame] at h
  cases hc : lengthCandidates frame fc with
  | none =>
    rw [hc] at h
    dsimp only at h
    split at h
    · cases h
      decide
    · exact hchecked (List.find?_some h)
  | some c =>
    rw [hc] at h
    dsimp only at h
    cases hfind : c.candidates.find? (checkCrc frame) with
    | some len =>
      rw [hfind] at h
      cases h
      exact hchecked (List.find?_some hfind)
    | none =>
      rw [hfind] at h
      obtain ⟨hpos, htarget⟩ := Option.ite_none_right_eq_some.mp h
      cases htarget
      exact hpos

/-- No frame has length zero. -/
lemma deriveLength_pos {tt : TransportType} {frame : List UInt8} {n : Nat}
    (h : deriveLengthFromBytes frame tt = some n) : 0 < n := by
  have htcp (h : deriveLengthFromBytes frame .stdTcp = some n) : 0 < n := by
    rw [deriveLengthFromBytes] at h
    split at h
    · cases h
    · split at h
      · cases h
        decide
      · cases h
        omega
  have hrtu (h : deriveLengthFromBytes frame (.stdSerial .rtu) = some n) : 0 < n := by
    rw [deriveLengthFromBytes] at h
    split at h
    · cases h
    · split at h
      · cases h
        decide
      · exact getByteCountFromFrame_pos h
  have hascii (h : deriveLengthFromBytes frame (.stdSerial .ascii) = some n) : 0 < n := by
    rw [deriveLengthFromBytes] at h
    split at h
    · cases h
    · obtain ⟨i, -, rfl⟩ := Option.map_eq_some_iff.mp h
      exact Nat.succ_pos i
  cases tt with
  | stdTcp => exact htcp h
  | customTcp => exact htcp h
  | stdSerial mode =>
    cases mode with
    | rtu => exact hrtu h
    | ascii => exact hascii h
  | customSerial mode =>
    cases mode with
    | rtu => exact hrtu h
    | ascii => exact hascii h

/-! ### RTU -/

/-- A prefix has the checksum it has, whatever follows. -/
lemma checkCrc_take {frame : List UInt8} {n len : Nat} (hn : n ≤ frame.length) :
    checkCrc (frame.take n) len = (decide (len ≤ n) && checkCrc frame len) := by
  rw [Bool.eq_iff_iff, Bool.and_eq_true, decide_eq_true_iff, checkCrc_iff, checkCrc_iff,
    List.length_take, Nat.min_eq_left hn, List.take_take]
  constructor
  · rintro ⟨hle, hvalid⟩
    rw [Nat.min_eq_left hle] at hvalid
    exact ⟨hle, Nat.le_trans hle hn, hvalid⟩
  · rintro ⟨hle, _, hvalid⟩
    rw [Nat.min_eq_left hle]
    exact ⟨hle, hvalid⟩

lemma crcValid_of_fromRtuBytes {frame : List UInt8} {message : ModbusMessage}
    (h : ModbusMessage.fromRtuBytes frame = .ok message) : CrcValid frame := by
  have hlen : 4 ≤ frame.length := by
    obtain ⟨_, hlen, _⟩ := bind_eq_ok.mp h
    have hlen := decide_eq_false_iff_not.mp (guardErr_eq_ok.mp hlen)
    omega
  obtain ⟨body, lo, hi, rfl, hbody⟩ := exists_pair_of_length hlen
  by_cases hcrc : crc16 body = fromLeBytes lo hi
  · exact ⟨body, hbody, by rw [(toLeBytes_eq_iff _ lo hi).mpr hcrc]⟩
  · rw [fromRtuBytes_of_crc_ne hbody hcrc] at h
    cases h

section Rtu

variable {tt : TransportType} {u fc : UInt8} {data : List UInt8} {n : Nat}

lemma checkCrc_take_data (u fc : UInt8) (hn : n ≤ data.length) (len : Nat) :
    checkCrc (u :: fc :: data.take n) len =
      (decide (len ≤ n + 2) && checkCrc (u :: fc :: data) len) := by
  have hle : n + 2 ≤ (u :: fc :: data).length := Nat.add_le_add_right hn 2
  exact checkCrc_take hle

/-- A byte count that the frame has lost announces more than the frame. -/
lemma DataLayout.find?_take (layout : DataLayout) {p : Nat → Bool}
    (hlong : ∀ m, n < m → p m = false) :
    (layout.lengths (data.take n)).find? p = (layout.lengths data).find? p := by
  rw [DataLayout.lengths, DataLayout.lengths, List.find?_append, List.find?_append]
  congr 1
  refine find?_filterMap_congr fun field _ => ?_
  by_cases hstop : field.stop ≤ (data.take n).length
  · left
    conv_rhs => rw [← List.take_append_drop n data]
    rw [CountField.announced_append hstop]
  · refine .inr ⟨if_neg hstop, fun m hm => hlong m ?_⟩
    obtain ⟨hle, hm⟩ := CountField.stop_le_of_announced hm
    rw [List.length_take] at hstop
    omega

lemma deriveLength_open_eq (htt : tt.IsRtu) (hlayout : dataLayout fc = none) :
    deriveLengthFromBytes (u :: fc :: data) tt =
      if fc = 43 ∧ checkCrc (u :: fc :: data) 7 then some 7 else scanCrc (u :: fc :: data) := by
  have hfc : isExceptionCode fc = false := by
    cases hfc : isExceptionCode fc with
    | false => rfl
    | true =>
      rw [dataLayout, if_pos hfc] at hlayout
      cases hlayout
  have htable := lengthCandidates_table u fc data hfc
  rw [hlayout] at htable
  generalize hcands : lengthCandidates (u :: fc :: data) fc = cands at htable
  cases htable
  have hrtu : deriveLengthFromBytes (u :: fc :: data) tt =
      if isExceptionCode fc then some 5 else getByteCountFromFrame (u :: fc :: data) fc := by
    rcases htt with rfl | rfl <;> rfl
  rw [hrtu, hfc, if_neg Bool.false_ne_true, getByteCountFromFrame, hcands]

lemma deriveLength_take_open (htt : tt.IsRtu) (hlayout : dataLayout fc = none)
    (hderive : deriveLengthFromBytes (u :: fc :: data) tt = some (n + 2))
    (hn : n ≤ data.length) (hcheck : checkCrc (u :: fc :: data) (n + 2) = true) :
    deriveLengthFromBytes (u :: fc :: data.take n) tt = some (n + 2) := by
  have htake := checkCrc_take_data u fc hn
  have hself : checkCrc (u :: fc :: data.take n) (n + 2) = true := by
    rw [htake, hcheck, decide_eq_true (Nat.le_refl _), Bool.and_self]
  rw [deriveLength_open_eq htt hlayout] at hderive ⊢
  by_cases h43 : fc = 43 ∧ checkCrc (u :: fc :: data) 7 = true
  · rw [if_pos h43] at hderive
    have hseven : 7 = n + 2 := Option.some.inj hderive
    rw [hseven, if_pos ⟨h43.1, hself⟩]
  · rw [if_neg h43, scanCrc] at hderive
    obtain ⟨_, hmem, hbefore⟩ := List.find?_range'_eq_some.mp hderive
    rw [if_neg fun h => h43 ⟨h.1, (Bool.and_eq_true _ _ ▸ htake 7 ▸ h.2).2⟩, scanCrc]
    refine List.find?_range'_eq_some.mpr ⟨hself, ?_, fun j hj hlt => ?_⟩
    · obtain ⟨hle, _⟩ := List.mem_range'_1.mp hmem
      refine List.mem_range'_1.mpr ⟨hle, ?_⟩
      simp only [List.length_cons, List.length_take]
      omega
    · have hfails := hbefore j hj hlt
      rw [Bool.not_eq_true'] at hfails ⊢
      rw [htake, hfails, Bool.and_false]

lemma deriveLength_take_layout (htt : tt.IsRtu) {layout : DataLayout}
    (hlayout : dataLayout fc = some layout)
    (hderive : deriveLengthFromBytes (u :: fc :: data) tt = some (n + 2))
    (hn : n ≤ data.length) (hcheck : checkCrc (u :: fc :: data) (n + 2) = true) :
    deriveLengthFromBytes (u :: fc :: data.take n) tt = some (n + 2) := by
  have htake := checkCrc_take_data u fc hn
  obtain ⟨target, hwaits, heq⟩ := deriveLength_layout htt u fc data hlayout
  rw [heq, List.find?_map] at hderive
  -- with a valid checksum the length was found, not waited for
  obtain ⟨m, hfind, hm⟩ : ∃ m, (layout.lengths data).find?
      (checkCrc (u :: fc :: data) ∘ (· + 4)) = some m ∧ m + 4 = n + 2 := by
    cases hfind : (layout.lengths data).find? (checkCrc (u :: fc :: data) ∘ (· + 4)) with
    | some m =>
      rw [hfind] at hderive
      exact ⟨m, rfl, Option.some.inj hderive⟩
    | none =>
      rw [hfind] at hderive
      have htarget : target = n + 2 := Option.some.inj hderive
      by_cases hall : layout.Counted data
      · obtain ⟨m, hmem, hm, -⟩ := hwaits.counted hall
        rw [← htarget, hm] at hcheck
        exact absurd hcheck (List.find?_eq_none.mp hfind m hmem)
      · have hlt := hwaits.needed hall
        omega
  obtain ⟨target', -, heq'⟩ := deriveLength_layout htt u fc (data.take n) hlayout
  have hlong : ∀ m, n < m → (checkCrc (u :: fc :: data.take n) ∘ (· + 4)) m = false := by
    intro m hlt
    rw [Function.comp_apply, htake, decide_eq_false (by omega), Bool.false_and]
  have hself : (checkCrc (u :: fc :: data.take n) ∘ (· + 4)) m = true := by
    rw [Function.comp_apply, htake, hm, hcheck, decide_eq_true (Nat.le_refl _), Bool.and_self]
  have hnarrow : ∀ b, (checkCrc (u :: fc :: data.take n) ∘ (· + 4)) b = true →
      (checkCrc (u :: fc :: data) ∘ (· + 4)) b = true := by
    intro b hb
    rw [Function.comp_apply, htake, Bool.and_eq_true] at hb
    exact hb.2
  rw [heq', List.find?_map, layout.find?_take hlong, find?_of_narrower hfind hself hnarrow]
  exact congrArg some hm

/-- On RTU, for a length at which the checksum is valid. -/
lemma deriveLength_take_rtu (htt : tt.IsRtu) {buf : List UInt8}
    (hderive : deriveLengthFromBytes buf tt = some n) (hn : n ≤ buf.length)
    (hvalid : CrcValid (buf.take n)) : deriveLengthFromBytes (buf.take n) tt = some n := by
  have hfour : 4 ≤ n := by
    have hlen := ((crcValid_iff _).mp hvalid).1
    rw [List.length_take] at hlen
    omega
  have hcheck : checkCrc buf n = true := (checkCrc_iff buf n).mpr ⟨hn, hvalid⟩
  match buf, n, hfour, hn with
  | [], n + 2, _, hn => exact absurd hn (Nat.not_succ_le_zero _)
  | [_], n + 2, _, hn => exact absurd (Nat.le_of_succ_le_succ hn) (Nat.not_succ_le_zero _)
  | u :: fc :: data, n + 2, _, hn =>
    have hn : n ≤ data.length := Nat.le_of_succ_le_succ (Nat.le_of_succ_le_succ hn)
    cases hlayout : dataLayout fc with
    | none => exact deriveLength_take_open htt hlayout hderive hn hcheck
    | some layout => exact deriveLength_take_layout htt hlayout hderive hn hcheck

end Rtu

/-! ### TCP and ASCII -/

lemma getD_take {bytes : List UInt8} {n i : Nat} (h : i < n) :
    (bytes.take n).getD i 0 = bytes.getD i 0 := by
  rw [List.getD_eq_getElem?_getD, List.getD_eq_getElem?_getD, List.getElem?_take_of_lt h]

lemma deriveLength_take_tcp {buf : List UInt8} {n : Nat}
    (hderive : deriveLengthFromBytes buf .stdTcp = some n) (hn : n ≤ buf.length) :
    deriveLengthFromBytes (buf.take n) .stdTcp = some n := by
  rw [deriveLengthFromBytes] at hderive
  split at hderive
  · cases hderive
  · have hsix : 6 ≤ n := by
      split at hderive
      · cases hderive
        decide
      · cases hderive
        omega
    rw [deriveLengthFromBytes, List.length_take, Nat.min_eq_left hn, if_neg (by omega),
      getD_take (by omega), getD_take (by omega), getD_take (by omega), getD_take (by omega)]
    exact hderive

lemma length_of_fromAsciiBytes {frame : List UInt8} {message : ModbusMessage}
    (h : ModbusMessage.fromAsciiBytes frame = .ok message) : 9 ≤ frame.length := by
  obtain ⟨_, hlen, _⟩ := bind_eq_ok.mp h
  have hlen := decide_eq_false_iff_not.mp (guardErr_eq_ok.mp hlen)
  omega

lemma deriveLength_take_ascii {buf : List UInt8} {n : Nat}
    (hderive : deriveLengthFromBytes buf (.stdSerial .ascii) = some n)
    (hnine : 9 ≤ (buf.take n).length) :
    deriveLengthFromBytes (buf.take n) (.stdSerial .ascii) = some n := by
  rw [deriveLengthFromBytes] at hderive
  split at hderive
  · cases hderive
  · obtain ⟨i, hi, rfl⟩ := Option.map_eq_some_iff.mp hderive
    rw [deriveLengthFromBytes, if_neg (Nat.not_lt.mpr hnine), List.findIdx?_take, hi,
      Option.bind_some, Option.guard, if_pos (decide_eq_true (Nat.lt_succ_self i))]
    rfl

/-- The length of a frame that decodes, derived from the frame alone. -/
theorem deriveLength_take {tt : TransportType} {buf : List UInt8} {n : Nat}
    {message : ModbusMessage} (hderive : deriveLengthFromBytes buf tt = some n)
    (hn : n ≤ buf.length) (hdecodes : decompileAduFrame (buf.take n) tt = .ok message) :
    deriveLengthFromBytes (buf.take n) tt = some n := by
  cases tt with
  | stdTcp => exact deriveLength_take_tcp hderive hn
  | customTcp => exact deriveLength_take_tcp hderive hn
  | stdSerial mode =>
    cases mode with
    | rtu => exact deriveLength_take_rtu (.inl rfl) hderive hn (crcValid_of_fromRtuBytes hdecodes)
    | ascii => exact deriveLength_take_ascii hderive (length_of_fromAsciiBytes hdecodes)
  | customSerial mode =>
    cases mode with
    | rtu => exact deriveLength_take_rtu (.inr rfl) hderive hn (crcValid_of_fromRtuBytes hdecodes)
    | ascii => exact deriveLength_take_ascii hderive (length_of_fromAsciiBytes hdecodes)

end ModbusRs
