import ModbusRs.Core.FileRecords
import ModbusRs.Core.RoundTrip
import Mathlib.Data.Nat.Find

/-!
# Boundaries of RTU frames

RTU frames carry no length. `derive_length_from_bytes` tries the lengths that the layouts of the
function code allow and takes the first that carries a valid checksum. It finds the end of a frame
exactly when the length of the frame is one of these.
-/

namespace ModbusRs

open Outcome

/-- A byte count in the data of a PDU, which counts the data bytes after it. -/
structure CountField where
  offset : Nat
  width : Nat
  deriving DecidableEq

/-- The number of data bytes up to the end of the field. -/
def CountField.stop (field : CountField) : Nat := field.offset + field.width

/-- The big-endian number that bytes spell. -/
def natOfBytes (bytes : List UInt8) : Nat := bytes.foldl (fun n b => n * 256 + b.toNat) 0

/-- The number of data bytes that the field announces, once it is there. -/
def CountField.announced (field : CountField) (data : List UInt8) : Option Nat :=
  if field.stop ≤ data.length then
    some (field.stop + natOfBytes ((data.drop field.offset).take field.width))
  else none

/-- The lengths that the data of a PDU can have: fixed ones, and those of byte counts. -/
structure DataLayout where
  fixed : List Nat
  counts : List CountField
  deriving DecidableEq

namespace DataLayout

/-- The lengths that go with the data so far. -/
def lengths (layout : DataLayout) (data : List UInt8) : List Nat :=
  layout.fixed ++ layout.counts.filterMap (·.announced data)

/-- A frame of `n` bytes is no longer than the layout allows, or ends with a byte count. -/
def Reaches (layout : DataLayout) (data : List UInt8) (n : Nat) : Prop :=
  (∃ m ∈ layout.lengths data, n ≤ m + 4) ∨ ∃ field ∈ layout.counts, n ≤ field.stop + 2

/-- Every byte count has arrived. -/
def Counted (layout : DataLayout) (data : List UInt8) : Prop :=
  ∀ field ∈ layout.counts, field.stop ≤ data.length

end DataLayout

/-- The layouts of requests and responses by function code, `none` where the data can have any
length. -/
def dataLayout (fc : UInt8) : Option DataLayout :=
  if isExceptionCode fc then some ⟨[1], []⟩
  else match fc.toNat with
  | 1 | 2 | 3 | 4 => some ⟨[4], [⟨0, 1⟩]⟩
  | 5 | 6 | 8 => some ⟨[4], []⟩
  | 7 => some ⟨[0, 1], []⟩
  | 11 => some ⟨[0, 4], []⟩
  | 12 | 17 => some ⟨[0], [⟨0, 1⟩]⟩
  | 15 | 16 => some ⟨[4], [⟨4, 1⟩]⟩
  | 20 | 21 => some ⟨[], [⟨0, 1⟩]⟩
  | 22 => some ⟨[6], []⟩
  | 23 => some ⟨[], [⟨0, 1⟩, ⟨8, 1⟩]⟩
  | 24 => some ⟨[2], [⟨0, 2⟩]⟩
  | _ => none

/-- The bytes end with their checksum. -/
def CrcValid (bytes : List UInt8) : Prop :=
  ∃ body, 2 ≤ body.length ∧ bytes = body ++ toLeBytes (crc16 body)

/-- The end of the frame is found as soon as it has arrived, and not before: whatever follows,
unless another prefix carries a valid checksum. -/
def FindsBoundary (tt : TransportType) (adu : List UInt8) : Prop :=
  (∀ tail, (∀ k ≤ (adu ++ tail).length, CrcValid ((adu ++ tail).take k) → k = adu.length) →
    deriveLengthFromBytes (adu ++ tail) tt = some adu.length) ∧
  (∀ n < adu.length, (∀ k ≤ n, ¬CrcValid (adu.take k)) →
    ∀ len, deriveLengthFromBytes (adu.take n) tt = some len → n < len)

/-- The layouts of the function code allow the data of the PDU. Where a shorter prefix of the frame
happens to carry a valid checksum, they allow at least the first of these prefixes. -/
def LaidOut (adu : List UInt8) (pdu : Pdu) : Prop :=
  ∀ layout, dataLayout pdu.functionCode.toByte = some layout →
    ((∀ k < adu.length, ¬CrcValid (adu.take k)) →
      pdu.data.length ∈ layout.lengths pdu.data.toList) ∧
    (∀ k < adu.length, CrcValid (adu.take k) → (∀ j < k, ¬CrcValid (adu.take j)) →
      layout.Reaches pdu.data.toList k)

/-! ### Checksums of prefixes -/

lemma toLeBytes_eq_iff (value : UInt16) (lo hi : UInt8) :
    toLeBytes value = [lo, hi] ↔ value = fromLeBytes lo hi := by
  have hlo := lo.toNat_lt
  have hhi := hi.toNat_lt
  constructor
  · intro h
    simp only [toLeBytes, List.cons.injEq, and_true] at h
    rw [fromLeBytes, ← h.1, ← h.2, fromBeBytes_toBeBytes]
  · rintro rfl
    rw [toLeBytes, fromLeBytes, fromBeBytes_toNat]
    have hlow : (hi.toNat * 256 + lo.toNat) % 256 = lo.toNat := by omega
    have hhigh : (hi.toNat * 256 + lo.toNat) / 256 = hi.toNat := by omega
    rw [hlow, hhigh, UInt8.ofNat_toNat, UInt8.ofNat_toNat]

lemma crcValid_iff (bytes : List UInt8) :
    CrcValid bytes ↔ 4 ≤ bytes.length ∧
      bytes.drop (bytes.length - 2) = toLeBytes (crc16 (bytes.take (bytes.length - 2))) := by
  constructor
  · rintro ⟨body, hbody, rfl⟩
    have hlen : (body ++ toLeBytes (crc16 body)).length - 2 = body.length := by simp
    rw [hlen, List.drop_left, List.take_left, List.length_append, toLeBytes_length]
    exact ⟨by omega, rfl⟩
  · rintro ⟨hlen, hcrc⟩
    refine ⟨bytes.take (bytes.length - 2), ?_, ?_⟩
    · rw [List.length_take]
      omega
    · rw [← hcrc, List.take_append_drop]

lemma checkCrc_iff (frame : List UInt8) (len : Nat) :
    checkCrc frame len = true ↔ len ≤ frame.length ∧ CrcValid (frame.take len) := by
  rw [checkCrc, Bool.and_eq_true, Bool.and_eq_true, decide_eq_true_iff, decide_eq_true_iff,
    beq_iff_eq, crcValid_iff, and_assoc]
  refine and_congr_right fun hlen => ?_
  rw [List.length_take, Nat.min_eq_left hlen, List.take_take, Nat.min_eq_left (by omega)]
  refine and_congr_right fun hfour => ?_
  have hdrop : (frame.take len).drop (len - 2) =
      [frame.getD (len - 2) 0, frame.getD (len - 1) 0] := by
    rw [List.drop_take]
    have hsplit : len - (len - 2) = 2 := by omega
    have hfst : frame[len - 2]? = some (frame.get ⟨len - 2, by omega⟩) :=
      List.getElem?_eq_getElem _
    have hsnd : frame[len - 1]? = some (frame.get ⟨len - 1, by omega⟩) :=
      List.getElem?_eq_getElem _
    rw [hsplit, List.drop_eq_getElem_cons (by omega), List.drop_eq_getElem_cons (by omega)]
    simp only [List.getD_eq_getElem?_getD, hfst, hsnd, Option.getD_some, List.take_succ_cons,
      List.take_zero]
    congr 3
    omega
  rw [hdrop, eq_comm (b := toLeBytes _), toLeBytes_eq_iff]

/-! ### The table of candidates -/

lemma announced_one (offset : Nat) (data : List UInt8) :
    (CountField.mk offset 1).announced data = data[offset]?.map (offset + 1 + ·.toNat) := by
  unfold CountField.announced
  by_cases h : offset < data.length
  · rw [if_pos (show CountField.stop ⟨offset, 1⟩ ≤ data.length from h),
      List.getElem?_eq_getElem h, List.drop_eq_getElem_cons h, List.take_succ_cons, List.take_zero]
    simp [natOfBytes, CountField.stop]
  · rw [if_neg (show ¬CountField.stop ⟨offset, 1⟩ ≤ data.length from h),
      List.getElem?_eq_none (Nat.le_of_not_lt h)]
    rfl

lemma announced_two (data : List UInt8) :
    (CountField.mk 0 2).announced data =
      match data with
      | hi :: lo :: _ => some (2 + (fromBeBytes hi lo).toNat)
      | _ => none := by
  match data with
  | [] => rfl
  | [b] => rfl
  | hi :: lo :: rest => simp [CountField.announced, CountField.stop, natOfBytes]

/-- What the candidate table reads off the bytes after the function code. -/
structure TableOf (layout : DataLayout) (data : List UInt8) (c : LengthCandidates) : Prop where
  candidates_eq : c.candidates = (layout.lengths data).map (· + 4)
  counted : layout.Counted data → c.minNeeded = none
  needed : ¬layout.Counted data → ∃ m, c.minNeeded = some m ∧ data.length + 2 < m

lemma tableOf_fixed (fixed : List Nat) (data : List UInt8) :
    TableOf ⟨fixed, []⟩ data ⟨fixed.map (· + 4), none⟩ :=
  ⟨by simp [DataLayout.lengths], fun _ => rfl, fun h => absurd (fun _ h => nomatch h) h⟩

/-- `add_dyn` reads one more byte count. -/
lemma TableOf.addDyn {layout : DataLayout} {data : List UInt8} {c : LengthCandidates}
    (h : TableOf layout data c) (u fc : UInt8) (offset : Nat) :
    TableOf ⟨layout.fixed, layout.counts ++ [⟨offset, 1⟩]⟩ data
      (c.addDyn (u :: fc :: data) (offset + 2) (offset + 5)) := by
  have hone := announced_one offset data
  have hcounted : DataLayout.Counted ⟨layout.fixed, layout.counts ++ [⟨offset, 1⟩]⟩ data ↔
      layout.Counted data ∧ offset < data.length := by
    simp only [DataLayout.Counted, List.mem_append, List.mem_singleton, or_imp, forall_and,
      forall_eq, CountField.stop, Nat.succ_le_iff]
  unfold LengthCandidates.addDyn
  simp only [List.getElem?_cons_succ]
  cases hbyte : data[offset]? with
  | some b =>
    rw [hbyte, Option.map_some] at hone
    have hin : offset < data.length := (List.getElem?_eq_some_iff.mp hbyte).1
    refine ⟨?_, fun hall => h.counted (hcounted.mp hall).1,
      fun hnot => h.needed fun hall => hnot (hcounted.mpr ⟨hall, hin⟩)⟩
    have hsum : offset + 5 + b.toNat = offset + 1 + b.toNat + 4 := by omega
    simp only [h.candidates_eq, DataLayout.lengths, List.filterMap_append, List.filterMap_cons,
      hone, List.filterMap_nil, List.map_append, List.map_cons, List.map_nil, List.append_assoc,
      hsum]
  | none =>
    rw [hbyte, Option.map_none] at hone
    have hout : data.length ≤ offset := List.getElem?_eq_none_iff.mp hbyte
    refine ⟨?_, fun hall => absurd (hcounted.mp hall).2 (Nat.not_lt.mpr hout), fun _ => ?_⟩
    · simp only [h.candidates_eq, DataLayout.lengths, List.filterMap_append, List.filterMap_cons,
        hone, List.filterMap_nil, List.append_nil]
    · refine ⟨_, rfl, ?_⟩
      by_cases hall : layout.Counted data
      · rw [h.counted hall]
        simp only
        omega
      · obtain ⟨m, hm, hlt⟩ := h.needed hall
        rw [hm]
        simp only
        omega

/-- FC18 counts in two bytes. -/
lemma tableOf_fifo (u fc : UInt8) (data : List UInt8) :
    TableOf ⟨[2], [⟨0, 2⟩]⟩ data (if 4 ≤ (u :: fc :: data).length then
      ⟨[6, 6 + (fromBeBytes ((u :: fc :: data).getD 2 0) ((u :: fc :: data).getD 3 0)).toNat], none⟩
      else ⟨[6], some 4⟩) := by
  have htwo := announced_two data
  match data with
  | hi :: lo :: rest =>
    simp only at htwo
    refine ⟨?_, fun _ => by simp, fun hnot => absurd ?_ hnot⟩
    · simp [DataLayout.lengths, htwo]
      omega
    · simp [DataLayout.Counted, CountField.stop]
  | [b] => exact ⟨by simp [DataLayout.lengths, htwo], fun h => by
      simp [DataLayout.Counted, CountField.stop] at h, fun _ => ⟨4, by simp, by simp⟩⟩
  | [] => exact ⟨by simp [DataLayout.lengths, htwo], fun h => by
      simp [DataLayout.Counted, CountField.stop] at h, fun _ => ⟨4, by simp, by simp⟩⟩

/-- The candidate table follows the layouts. -/
lemma lengthCandidates_table (u fc : UInt8) (data : List UInt8)
    (hfc : isExceptionCode fc = false) :
    Option.Rel (fun layout c => TableOf layout data c) (dataLayout fc)
      (lengthCandidates (u :: fc :: data) fc) := by
  rw [dataLayout, hfc, if_neg Bool.false_ne_true]
  unfold lengthCandidates
  generalize fc.toNat = n
  split
  case h_1 | h_2 | h_3 | h_4 => exact .some ((tableOf_fixed [4] data).addDyn u fc 0)
  case h_5 | h_6 | h_7 => exact .some (tableOf_fixed [4] data)
  case h_8 => exact .some (tableOf_fixed [0, 1] data)
  case h_9 => exact .some (tableOf_fixed [0, 4] data)
  case h_10 | h_11 => exact .some ((tableOf_fixed [0] data).addDyn u fc 0)
  case h_12 | h_13 => exact .some ((tableOf_fixed [4] data).addDyn u fc 4)
  case h_14 | h_15 => exact .some ((tableOf_fixed [] data).addDyn u fc 0)
  case h_16 => exact .some (tableOf_fixed [6] data)
  case h_17 => exact .some (((tableOf_fixed [] data).addDyn u fc 0).addDyn u fc 8)
  case h_18 =>
    rw [← apply_ite some]
    exact .some (tableOf_fifo u fc data)
  case h_19 =>
    try simp only [*]
    exact .none

/-! ### Growing data -/

section Append

variable {layout : DataLayout} {data rest : List UInt8}

lemma CountField.announced_append {field : CountField} (h : field.stop ≤ data.length) :
    field.announced (data ++ rest) = field.announced data := by
  have hoffset : field.offset ≤ data.length := Nat.le_trans (Nat.le_add_right _ _) h
  have hwidth : field.width ≤ (data.drop field.offset).length := by
    rw [List.length_drop]
    exact Nat.le_sub_of_add_le' h
  rw [announced, announced, if_pos h, if_pos (by rw [List.length_append]; omega),
    List.drop_append_of_le_length hoffset, List.take_append_of_le_length hwidth]

lemma CountField.stop_le_of_announced {field : CountField} {m : Nat}
    (h : field.announced data = some m) : field.stop ≤ data.length ∧ field.stop ≤ m := by
  unfold announced at h
  split at h
  · rename_i hstop
    cases h
    exact ⟨hstop, Nat.le_add_right _ _⟩
  · cases h

namespace DataLayout

/-- What has been announced stays announced. -/
lemma mem_lengths_append {m : Nat} (h : m ∈ layout.lengths data) :
    m ∈ layout.lengths (data ++ rest) := by
  rcases List.mem_append.mp h with hfixed | hcount
  · exact List.mem_append_left _ hfixed
  · obtain ⟨field, hfield, hannounced⟩ := List.mem_filterMap.mp hcount
    refine List.mem_append_right _ (List.mem_filterMap.mpr ⟨field, hfield, ?_⟩)
    rw [CountField.announced_append (CountField.stop_le_of_announced hannounced).1, hannounced]

/-- A byte count that is not there yet announces more than what is. -/
lemma mem_lengths_of_append {m : Nat} (h : m ∈ layout.lengths (data ++ rest))
    (hle : m ≤ data.length) : m ∈ layout.lengths data := by
  rcases List.mem_append.mp h with hfixed | hcount
  · exact List.mem_append_left _ hfixed
  · obtain ⟨field, hfield, hannounced⟩ := List.mem_filterMap.mp hcount
    have hstop := (CountField.stop_le_of_announced hannounced).2
    rw [CountField.announced_append (Nat.le_trans hstop hle)] at hannounced
    exact List.mem_append_right _ (List.mem_filterMap.mpr ⟨field, hfield, hannounced⟩)

/-- With every byte count there, the lengths are settled. -/
lemma lengths_append (h : layout.Counted data) :
    layout.lengths (data ++ rest) = layout.lengths data := by
  have hcongr : layout.counts.filterMap (·.announced (data ++ rest)) =
      layout.counts.filterMap (·.announced data) :=
    List.filterMap_congr fun field hfield => CountField.announced_append (h field hfield)
  rw [lengths, lengths, hcongr]

lemma mem_lengths_of_take {m n : Nat} (h : m ∈ layout.lengths (data.take n)) :
    m ∈ layout.lengths data := by
  rw [← List.take_append_drop n data]
  exact mem_lengths_append h

lemma lengths_take {n : Nat} (h : layout.Counted (data.take n)) :
    layout.lengths (data.take n) = layout.lengths data := by
  have hgrown : layout.lengths (data.take n ++ data.drop n) = layout.lengths (data.take n) :=
    lengths_append h
  rw [← hgrown, List.take_append_drop]

end DataLayout

end Append

/-! ### Derived lengths -/

lemma DataLayout.lengths_ne_nil {layout : DataLayout} {fc : UInt8} {data : List UInt8}
    (hlayout : dataLayout fc = some layout) (hcounted : layout.Counted data) :
    layout.lengths data ≠ [] := by
  have hsome : layout.fixed ≠ [] ∨ layout.counts ≠ [] := by
    revert hlayout
    unfold dataLayout
    split
    · rintro ⟨⟩
      simp
    · split <;> rintro ⟨⟩ <;> simp
  rcases hsome with hfixed | hcounts
  · simp [lengths, hfixed]
  · obtain ⟨field, hfield⟩ := List.exists_mem_of_ne_nil _ hcounts
    exact List.ne_nil_of_mem (List.mem_append_right _
      (List.mem_filterMap.mpr ⟨field, hfield, if_pos (hcounted field hfield)⟩))

/-- The length the transport waits for when no candidate has a valid checksum: the greatest
candidate, or more than what has arrived. -/
structure WaitsFor (layout : DataLayout) (data : List UInt8) (target : Nat) : Prop where
  counted : layout.Counted data →
    ∃ m ∈ layout.lengths data, target = m + 4 ∧ ∀ m' ∈ layout.lengths data, m' ≤ m
  needed : ¬layout.Counted data → data.length + 2 < target

/-- What the table computes when no candidate carries a valid checksum. -/
lemma TableOf.waitsFor {layout : DataLayout} {data : List UInt8} {c : LengthCandidates}
    (h : TableOf layout data c) (hne : layout.Counted data → layout.lengths data ≠ []) :
    WaitsFor layout data (match c.minNeeded with
      | some m => max m (c.candidates.foldl max 0)
      | none => c.candidates.foldl max 0) where
  counted hall := by
    have hmap : (layout.lengths data).map (· + 4) ≠ [] := by simpa using hne hall
    have hmax : ((layout.lengths data).map (· + 4)).foldl max 0 =
        ((layout.lengths data).map (· + 4)).max hmap := by
      rw [List.foldl_max_eq_max hmap, Nat.zero_max]
    obtain ⟨m, hm, heq⟩ := List.mem_map.mp (List.max_mem hmap)
    refine ⟨m, hm, ?_, fun m' hm' => ?_⟩
    · rw [h.counted hall, h.candidates_eq]
      exact hmax.trans heq.symm
    · have hle := List.le_max_of_mem (List.mem_map_of_mem (f := (· + 4)) hm')
      omega
  needed hnot := by
    obtain ⟨m, hm, hlt⟩ := h.needed hnot
    rw [hm]
    exact Nat.lt_of_lt_of_le hlt (Nat.le_max_left _ _)

/-- The first candidate with a valid checksum, or else a length to wait for. -/
lemma deriveLength_layout {tt : TransportType} (htt : tt.IsRtu) (u fc : UInt8)
    (data : List UInt8) {layout : DataLayout} (hlayout : dataLayout fc = some layout) :
    ∃ target, WaitsFor layout data target ∧ deriveLengthFromBytes (u :: fc :: data) tt =
      some ((((layout.lengths data).map (· + 4)).find? (checkCrc (u :: fc :: data))).getD
        target) := by
  have hrtu : deriveLengthFromBytes (u :: fc :: data) tt =
      if isExceptionCode fc then some 5 else getByteCountFromFrame (u :: fc :: data) fc := by
    rcases htt with rfl | rfl <;> rfl
  cases hfc : isExceptionCode fc with
  | true =>
    rw [dataLayout, if_pos hfc] at hlayout
    cases hlayout
    refine ⟨5, ⟨fun _ => ⟨1, by simp [DataLayout.lengths], rfl, by simp [DataLayout.lengths]⟩,
      fun hnot => absurd (fun _ h => nomatch h) hnot⟩, ?_⟩
    rw [hrtu, if_pos hfc]
    cases hcrc : checkCrc (u :: fc :: data) 5 <;> simp [DataLayout.lengths, hcrc]
  | false =>
    have htable := lengthCandidates_table u fc data hfc
    rw [hlayout] at htable
    generalize hcands : lengthCandidates (u :: fc :: data) fc = cands at htable
    cases htable with | some htable =>
    rename_i c
    have hwaits := htable.waitsFor fun hall => DataLayout.lengths_ne_nil hlayout hall
    refine ⟨_, hwaits, ?_⟩
    have hpos : 0 < (match c.minNeeded with
        | some m => max m (c.candidates.foldl max 0)
        | none => c.candidates.foldl max 0) := by
      by_cases hall : layout.Counted data
      · obtain ⟨m, _, heq, _⟩ := hwaits.counted hall
        omega
      · exact Nat.lt_of_le_of_lt (Nat.zero_le _) (hwaits.needed hall)
    rw [hrtu, hfc, if_neg Bool.false_ne_true, getByteCountFromFrame, hcands]
    simp only [htable.candidates_eq] at hpos ⊢
    cases hfind : ((layout.lengths data).map (· + 4)).find? (checkCrc (u :: fc :: data)) with
    | some len => rfl
    | none =>
      simp only [Option.getD_none]
      exact if_pos hpos

/-- Where the data can have any length, the first prefix with a valid checksum is taken. -/
lemma deriveLength_open {tt : TransportType} (htt : tt.IsRtu) (u fc : UInt8) (data : List UInt8)
    (hlayout : dataLayout fc = none) :
    (∀ len, deriveLengthFromBytes (u :: fc :: data) tt = some len →
      checkCrc (u :: fc :: data) len = true) ∧
    (∀ len, checkCrc (u :: fc :: data) len = true →
      deriveLengthFromBytes (u :: fc :: data) tt ≠ none) := by
  have hfc : isExceptionCode fc = false := by
    cases hfc : isExceptionCode fc with
    | false => rfl
    | true =>
      rw [dataLayout, if_pos hfc] at hlayout
      cases hlayout
  have htable := lengthCandidates_table u fc data hfc
  rw [hlayout] at htable
  generalize hcands : lengthCandidates (u :: fc :: data) fc = cands at htable
  cases htable
  have hrtu : deriveLengthFromBytes (u :: fc :: data) tt =
      if isExceptionCode fc then some 5 else getByteCountFromFrame (u :: fc :: data) fc := by
    rcases htt with rfl | rfl <;> rfl
  rw [hrtu, hfc, if_neg Bool.false_ne_true, getByteCountFromFrame, hcands]
  dsimp only
  split
  case isTrue h =>
    refine ⟨fun len hlen => ?_, fun _ _ => nofun⟩
    cases hlen
    exact h.2
  case isFalse =>
    refine ⟨fun len hlen => List.find?_some hlen, fun len hlen hnone => ?_⟩
    have hbounds := hlen
    rw [checkCrc, Bool.and_eq_true, Bool.and_eq_true, decide_eq_true_iff,
      decide_eq_true_iff] at hbounds
    have hmem : len ∈ List.range' 4 ((u :: fc :: data).length + 1 - 4) :=
      List.mem_range'_1.mpr ⟨hbounds.1.2, by omega⟩
    exact List.find?_eq_none.mp hnone len hmem hlen

/-! ### Where frames end -/

section Frame

variable {tt : TransportType} {layout : DataLayout} {u fc : UInt8} {data crc : List UInt8}

lemma checkCrc_of_append {adu : List UInt8} (h : CrcValid adu) (tail : List UInt8) :
    checkCrc (adu ++ tail) adu.length = true := by
  rw [checkCrc_iff, List.take_left]
  exact ⟨by simp, h⟩

lemma find?_eq_some_of_unique {α : Type} {p : α → Bool} {l : List α} {a : α} (hmem : a ∈ l)
    (ha : p a = true) (hunique : ∀ b ∈ l, p b = true → b = a) : l.find? p = some a := by
  cases hfind : l.find? p with
  | some b => rw [hunique b (List.mem_of_find?_eq_some hfind) (List.find?_some hfind)]
  | none => exact absurd ha (List.find?_eq_none.mp hfind a hmem)

/-- A frame of an allowed length is found, whatever follows. -/
lemma deriveLength_of_mem (htt : tt.IsRtu) (hlayout : dataLayout fc = some layout)
    (hcrc : crc.length = 2) (hvalid : CrcValid (u :: fc :: (data ++ crc)))
    (hmem : data.length ∈ layout.lengths data) (tail : List UInt8)
    (hunique : ∀ k ≤ (u :: fc :: (data ++ crc) ++ tail).length,
      CrcValid ((u :: fc :: (data ++ crc) ++ tail).take k) →
        k = (u :: fc :: (data ++ crc)).length) :
    deriveLengthFromBytes (u :: fc :: (data ++ crc) ++ tail) tt =
      some (u :: fc :: (data ++ crc)).length := by
  have hlen : (u :: fc :: (data ++ crc)).length = data.length + 4 := by
    simp only [List.length_cons, List.length_append, hcrc]
  have hgrown : data.length ∈ layout.lengths (data ++ crc ++ tail) :=
    DataLayout.mem_lengths_append (DataLayout.mem_lengths_append hmem)
  obtain ⟨target, _, hderive⟩ := deriveLength_layout htt u fc (data ++ crc ++ tail) hlayout
  have hcand : (u :: fc :: (data ++ crc)).length ∈
      (layout.lengths (data ++ crc ++ tail)).map (· + 4) := by
    rw [hlen]
    exact List.mem_map_of_mem hgrown
  have hfind := find?_eq_some_of_unique hcand (checkCrc_of_append hvalid tail)
    fun b _ hb => hunique b ((checkCrc_iff _ _).mp hb).1 ((checkCrc_iff _ _).mp hb).2
  simp only [List.cons_append] at hfind ⊢
  rw [hderive, hfind, Option.getD_some]

/-- A frame of another length is not, even alone. -/
lemma mem_of_deriveLength (htt : tt.IsRtu) (hlayout : dataLayout fc = some layout)
    (hcrc : crc.length = 2)
    (hderive : deriveLengthFromBytes (u :: fc :: (data ++ crc)) tt = some (data.length + 4)) :
    data.length ∈ layout.lengths data := by
  obtain ⟨target, hwaits, heq⟩ := deriveLength_layout htt u fc (data ++ crc) hlayout
  have hlen : (data ++ crc).length = data.length + 2 := by rw [List.length_append, hcrc]
  rw [hderive, Option.some_inj] at heq
  have hcand : data.length ∈ layout.lengths (data ++ crc) := by
    cases hfind : ((layout.lengths (data ++ crc)).map (· + 4)).find?
        (checkCrc (u :: fc :: (data ++ crc))) with
    | some len =>
      rw [hfind, Option.getD_some] at heq
      obtain ⟨m, hm, hm'⟩ := List.mem_map.mp (List.mem_of_find?_eq_some hfind)
      have : data.length = m := by omega
      rwa [this]
    | none =>
      rw [hfind, Option.getD_none] at heq
      by_cases hall : layout.Counted (data ++ crc)
      · obtain ⟨m, hm, hm', _⟩ := hwaits.counted hall
        have : data.length = m := by omega
        rwa [this]
      · have := hwaits.needed hall
        omega
  exact DataLayout.mem_lengths_of_append hcand (Nat.le_refl _)

/-- A prefix without a valid checksum is waited on for as long as the layout allows. -/
lemma deriveLength_prefix (htt : tt.IsRtu) (hlayout : dataLayout fc = some layout)
    (body : List UInt8) {n : Nat}
    (hclean : ∀ k ≤ n, ¬CrcValid ((u :: fc :: body).take k)) (htwo : 2 ≤ n)
    (hn : n ≤ (u :: fc :: body).length) :
    ∃ target, deriveLengthFromBytes ((u :: fc :: body).take n) tt = some target ∧
      WaitsFor layout (body.take (n - 2)) target := by
  obtain ⟨n, rfl⟩ := Nat.exists_eq_add_of_le' htwo
  obtain ⟨target, hwaits, hderive⟩ := deriveLength_layout htt u fc (body.take n) hlayout
  have hnone : ((layout.lengths (body.take n)).map (· + 4)).find?
      (checkCrc (u :: fc :: body.take n)) = none := by
    rw [List.find?_eq_none]
    intro len _ hlen
    obtain ⟨hle, hcrc⟩ := (checkCrc_iff _ _).mp hlen
    have hlen' : len ≤ n + 2 := by
      simp only [List.length_cons, List.length_take] at hle
      omega
    have htake : (u :: fc :: body.take n).take len = (u :: fc :: body).take len := by
      change ((u :: fc :: body).take (n + 2)).take len = _
      rw [List.take_take, Nat.min_eq_left hlen']
    exact hclean len hlen' (htake ▸ hcrc)
  rw [hnone, Option.getD_none] at hderive
  exact ⟨target, hderive, hwaits⟩

/-- A frame whose code allows any length ends where its first valid checksum does. -/
lemma findsBoundary_open (htt : tt.IsRtu) (hlayout : dataLayout fc = none) {body : List UInt8}
    (hvalid : CrcValid (u :: fc :: body)) : FindsBoundary tt (u :: fc :: body) := by
  constructor
  · intro tail hunique
    obtain ⟨hfound, hsome⟩ := deriveLength_open htt u fc (body ++ tail) hlayout
    have hcheck := checkCrc_of_append hvalid tail
    simp only [List.cons_append] at hunique hcheck ⊢
    cases hderive : deriveLengthFromBytes (u :: fc :: (body ++ tail)) tt with
    | none => exact absurd hderive (hsome _ hcheck)
    | some len =>
      obtain ⟨hle, hcrc⟩ := (checkCrc_iff _ _).mp (hfound len hderive)
      rw [hunique len hle hcrc]
  · intro n hn hclean len hderive
    rcases Nat.lt_or_ge n 2 with hshort | htwo
    · have hnone : deriveLengthFromBytes ((u :: fc :: body).take n) tt = none := by
        have hlt : ((u :: fc :: body).take n).length < 2 := by
          rw [List.length_take]
          omega
        rcases htt with rfl | rfl <;> exact if_pos hlt
      rw [hnone] at hderive
      cases hderive
    · obtain ⟨n, rfl⟩ := Nat.exists_eq_add_of_le' htwo
      obtain ⟨hle, hcrc⟩ := (checkCrc_iff _ _).mp
        ((deriveLength_open htt u fc (body.take n) hlayout).1 len hderive)
      have hlen : len ≤ n + 2 := by
        simp only [List.length_cons, List.length_take] at hle
        omega
      have htake : (u :: fc :: body.take n).take len = (u :: fc :: body).take len := by
        change ((u :: fc :: body).take (n + 2)).take len = _
        rw [List.take_take, Nat.min_eq_left hlen]
      exact absurd (htake ▸ hcrc) (hclean len hlen)

/-- What the layout must allow for the frame to be found. -/
lemma findsBoundary_layout (htt : tt.IsRtu) (hlayout : dataLayout fc = some layout)
    (hcrc : crc.length = 2) (hvalid : CrcValid (u :: fc :: (data ++ crc))) :
    FindsBoundary tt (u :: fc :: (data ++ crc)) ↔
      ((∀ k < (u :: fc :: (data ++ crc)).length, ¬CrcValid ((u :: fc :: (data ++ crc)).take k)) →
        data.length ∈ layout.lengths data) ∧
      (∀ k < (u :: fc :: (data ++ crc)).length, CrcValid ((u :: fc :: (data ++ crc)).take k) →
        (∀ j < k, ¬CrcValid ((u :: fc :: (data ++ crc)).take j)) → layout.Reaches data k) := by
  set adu := u :: fc :: (data ++ crc) with hadu
  have hlen : adu.length = data.length + 4 := by
    simp only [hadu, List.length_cons, List.length_append, hcrc]
  have hbody : (data ++ crc).length = data.length + 2 := by rw [List.length_append, hcrc]
  constructor
  · rintro ⟨hfound, hearly⟩
    refine ⟨fun hclean => ?_, fun k hk hcrck hclean => ?_⟩
    · refine mem_of_deriveLength htt (u := u) hlayout hcrc ?_
      rw [← hlen, ← List.append_nil (u :: fc :: (data ++ crc))]
      refine hfound [] fun k hk hcrck => ?_
      rw [List.append_nil] at hk hcrck
      exact Nat.le_antisymm hk (Nat.le_of_not_lt fun hlt => hclean k hlt hcrck)
    · have hfour : 4 ≤ k := by
        have := ((crcValid_iff _).mp hcrck).1
        rw [List.length_take] at this
        omega
      obtain ⟨n, rfl⟩ : ∃ n, k = n + 3 := Nat.exists_eq_add_of_le' (by omega)
      obtain ⟨target, hderive, hwaits⟩ := deriveLength_prefix htt (n := n + 2) hlayout (data ++ crc)
        (fun j hj => hclean j (by omega)) (by omega) (show n + 2 ≤ adu.length by omega)
      have hlt := hearly (n + 2) (by omega) (fun j hj => hclean j (by omega)) target hderive
      have htake : (data ++ crc).take n = data.take n := by
        rw [List.take_append_of_le_length (by omega)]
      rw [Nat.add_sub_cancel, htake] at hwaits
      by_cases hall : layout.Counted (data.take n)
      · obtain ⟨m, hm, hm', _⟩ := hwaits.counted hall
        exact Or.inl ⟨m, DataLayout.mem_lengths_of_take hm, by omega⟩
      · unfold DataLayout.Counted at hall
        push Not at hall
        obtain ⟨field, hfield, hstop⟩ := hall
        rw [List.length_take] at hstop
        exact Or.inr ⟨field, hfield, by omega⟩
  · rintro ⟨hmem, hreaches⟩
    constructor
    · intro tail hunique
      refine deriveLength_of_mem htt hlayout hcrc hvalid (hmem fun k hk hcrck => ?_) tail hunique
      have htake : (adu ++ tail).take k = adu.take k :=
        List.take_append_of_le_length (Nat.le_of_lt hk)
      have := hunique k (by rw [List.length_append]; omega) (htake ▸ hcrck)
      omega
    · intro n hn hclean len hderive
      rcases Nat.lt_or_ge n 2 with hshort | htwo
      · have hnone : deriveLengthFromBytes (adu.take n) tt = none := by
          have hlt : (adu.take n).length < 2 := by
            rw [List.length_take]
            omega
          rcases htt with rfl | rfl <;> exact if_pos hlt
        rw [hnone] at hderive
        cases hderive
      · obtain ⟨target, htarget, hwaits⟩ := deriveLength_prefix htt hlayout (data ++ crc) hclean
          htwo (Nat.le_of_lt hn)
        rw [← hadu, hderive, Option.some_inj] at htarget
        subst htarget
        by_cases hall : layout.Counted ((data ++ crc).take (n - 2))
        · obtain ⟨m, _, hm, hmax⟩ := hwaits.counted hall
          rw [DataLayout.lengths_take hall] at hmax
          -- The layout is settled by now: it allows the whole frame, or the first valid prefix.
          by_cases hfirst : ∃ k, k < adu.length ∧ CrcValid (adu.take k)
          · classical
            obtain ⟨hk, hcrck⟩ := Nat.find_spec hfirst
            have hbefore : ∀ j < Nat.find hfirst, ¬CrcValid (adu.take j) := fun j hj hcrcj =>
              Nat.find_min hfirst hj ⟨Nat.lt_trans hj hk, hcrcj⟩
            have hnk : n < Nat.find hfirst :=
              Nat.lt_of_not_le fun hle => hclean _ hle hcrck
            rcases hreaches _ hk hcrck hbefore with ⟨m', hm', hle⟩ | ⟨field, hfield, hle⟩
            · have := hmax m' (DataLayout.mem_lengths_append hm')
              omega
            · have := hall field hfield
              rw [List.length_take] at this
              omega
          · have hwhole := hmem fun k hk hcrck => hfirst ⟨k, hk, hcrck⟩
            have := hmax data.length (DataLayout.mem_lengths_append hwhole)
            omega
        · have := hwaits.needed hall
          rw [List.length_take] at this
          omega

end Frame

lemma crcValid_append (body : List UInt8) (h : 2 ≤ body.length) :
    CrcValid (body ++ toLeBytes (crc16 body)) := ⟨body, h, rfl⟩

/-- The end of a compiled frame is found exactly when the layouts of its code allow its data. -/
theorem findsBoundary_iff [Features] {tt : TransportType} (htt : tt.IsRtu) (txnId : UInt16)
    (unitId : UInt8) (pdu : Pdu) (adu : HVec UInt8 maxAduFrameLen)
    (hadu : compileAduFrame txnId unitId pdu tt = .ok adu) :
    FindsBoundary tt adu.toList ↔ LaidOut adu.toList pdu := by
  obtain ⟨_, hlist⟩ := compileAduFrame_eq_ok hadu
  have hframe : adu.toList = unitId :: pdu.functionCode.toByte :: (pdu.data.toList ++
      toLeBytes (crc16 (unitId :: pdu.rawBytes))) := by
    rw [hlist]
    rcases htt with rfl | rfl <;> rfl
  have hvalid : CrcValid (unitId :: pdu.functionCode.toByte :: (pdu.data.toList ++
      toLeBytes (crc16 (unitId :: pdu.rawBytes)))) :=
    crcValid_append (unitId :: pdu.rawBytes) (Nat.succ_le_succ (Nat.succ_le_succ (Nat.zero_le _)))
  rw [hframe]
  cases hlayout : dataLayout pdu.functionCode.toByte with
  | none =>
    refine iff_of_true (findsBoundary_open htt hlayout hvalid) fun layout h => ?_
    rw [hlayout] at h
    cases h
  | some layout =>
    rw [findsBoundary_layout htt hlayout (toLeBytes_length _) hvalid]
    refine ⟨fun h layout' h' => ?_, fun h => h layout hlayout⟩
    rw [hlayout] at h'
    cases h'
    exact h

/-! ### The frames of the library -/

/-- The layouts of its code allow the data of the PDU. -/
def Pdu.FitsLayout (p : Pdu) : Prop :=
  ∀ layout, dataLayout p.functionCode.toByte = some layout →
    p.data.length ∈ layout.lengths p.data.toList

open FunctionCode in
/-- The requests that the clients build and the responses that the servers build. -/
inductive LibraryPdu : Pdu → Prop
  | readWindow {fc : FunctionCode} {address quantity : UInt16} {p : Pdu}
      (hfc : fc ∈ [readCoils, readDiscreteInputs, readHoldingRegisters, readInputRegisters])
      (h : Pdu.buildReadWindow fc address quantity = .ok p) : LibraryPdu p
  | writeSingle {fc : FunctionCode} {address value : UInt16} {p : Pdu}
      (hfc : fc ∈ [writeSingleCoil, writeSingleRegister, writeMultipleCoils,
        writeMultipleRegisters, getCommEventCounter])
      (h : Pdu.buildWriteSingleU16 fc address value = .ok p) : LibraryPdu p
  | writeMultiple {fc : FunctionCode} {address quantity : UInt16} {values : List UInt8} {p : Pdu}
      (hfc : fc ∈ [writeMultipleCoils, writeMultipleRegisters])
      (h : Pdu.buildWriteMultiple fc address quantity values = .ok p) : LibraryPdu p
  | maskWrite {address andMask orMask : UInt16} {p : Pdu}
      (h : Pdu.buildMaskWriteRegister address andMask orMask = .ok p) : LibraryPdu p
  | readWrite {readAddress readQuantity writeAddress writeQuantity : UInt16}
      {writeValues : List UInt8} {p : Pdu}
      (h : Pdu.buildReadWriteMultiple readAddress readQuantity writeAddress writeQuantity
        writeValues = .ok p) : LibraryPdu p
  | subFunction {subFunction : UInt16} {words : List UInt16} {p : Pdu}
      (h : Pdu.buildSubFunction diagnostics subFunction words = .ok p) : LibraryPdu p
  | meiType {meiType : UInt8} {payload : List UInt8} {p : Pdu}
      (h : Pdu.buildMeiType encapsulatedInterfaceTransport meiType payload = .ok p) : LibraryPdu p
  | fifoRequest {address : UInt16} {p : Pdu}
      (h : Pdu.buildU16Payload readFifoQueue address = .ok p) : LibraryPdu p
  | empty {fc : FunctionCode}
      (hfc : fc ∈ [readExceptionStatus, getCommEventCounter, getCommEventLog, reportServerId]) :
      LibraryPdu (Pdu.buildEmpty fc)
  | status {status : UInt8} {p : Pdu}
      (h : Pdu.buildBytePayload readExceptionStatus status = .ok p) : LibraryPdu p
  | exception {fc exceptionFc : FunctionCode} {code : UInt8} {p : Pdu}
      (hexc : fc.exceptionResponse = some exceptionFc)
      (h : Pdu.buildBytePayload exceptionFc code = .ok p) : LibraryPdu p
  | byteCount {fc : FunctionCode} {payload : List UInt8} {p : Pdu}
      (hfc : fc ∈ [readCoils, readDiscreteInputs, readHoldingRegisters, readInputRegisters,
        getCommEventLog, reportServerId, readFileRecord, readWriteMultipleRegisters])
      (h : Pdu.buildByteCountPayload fc payload = .ok p) : LibraryPdu p
  | diagnosticsEcho {subFunction result : UInt16} {p : Pdu}
      (h : Pdu.buildDiagnostics subFunction result = .ok p) : LibraryPdu p
  | fifoResponse {payload : List UInt8} {p : Pdu}
      (h : Pdu.buildFifoPayload payload = .ok p) : LibraryPdu p
  | fileRecord {fc : FunctionCode} {request : SubRequest} {payload : HVec UInt8 maxPduDataLen}
      (hfc : fc ∈ [readFileRecord, writeFileRecord])
      (h : request.toSubReqPduBytes = .ok payload) : LibraryPdu (Pdu.new fc payload)
  | fileRecordEcho {p : Pdu} {subs : HVec FileRecordWriteSubRequest maxSubRequestsPerPdu}
      (hfc : p.functionCode = writeFileRecord)
      (h : p.fileRecordWriteSubRequests = .ok subs) : LibraryPdu p

section Builders

variable {fc : FunctionCode} {p : Pdu} {layout : DataLayout}

lemma fitsLayout_iff (hlayout : dataLayout p.functionCode.toByte = some layout) :
    p.FitsLayout ↔ p.data.length ∈ layout.lengths p.data.toList := by
  refine ⟨fun h => h layout hlayout, fun h layout' h' => ?_⟩
  rw [hlayout] at h'
  cases h'
  exact h

/-- Data of a fixed length of the layout. -/
lemma fitsLayout_of_fixed (fc : FunctionCode) (layout : DataLayout) (n : Nat)
    (hlayout : dataLayout fc.toByte = some layout) (hn : n ∈ layout.fixed)
    (hfc : p.functionCode = fc) (hlen : p.data.length = n) : p.FitsLayout := by
  rw [← hfc] at hlayout
  rw [fitsLayout_iff hlayout, hlen]
  exact List.mem_append_left _ hn

/-- Data of the length that a byte count announces. -/
lemma fitsLayout_of_count {field : CountField}
    (hlayout : dataLayout p.functionCode.toByte = some layout) (hfield : field ∈ layout.counts)
    (h : field.announced p.data.toList = some p.data.length) : p.FitsLayout :=
  (fitsLayout_iff hlayout).mpr
    (List.mem_append_right _ (List.mem_filterMap.mpr ⟨field, hfield, h⟩))

lemma announced_of_byteCount {front payload : List UInt8} (hlen : payload.length ≤ 255) :
    (CountField.mk front.length 1).announced
      (front ++ UInt8.ofNat payload.length :: payload) =
      some (front ++ UInt8.ofNat payload.length :: payload).length := by
  have hcount : (UInt8.ofNat payload.length).toNat = payload.length :=
    UInt8.toNat_ofNat_of_lt' (Nat.lt_succ_of_le hlen)
  rw [announced_one, List.getElem?_append_right (Nat.le_refl _), Nat.sub_self,
    List.getElem?_cons_zero, Option.map_some, hcount]
  congr 1
  simp only [List.length_append, List.length_cons]
  omega

namespace Pdu

lemma buildSubFunction_eq_ok {subFunction : UInt16} {words : List UInt16}
    (h : buildSubFunction fc subFunction words = .ok p) :
    p.functionCode = fc ∧ p.data.length = 2 + 2 * words.length := by
  obtain ⟨_, _, h⟩ := Except.bind_eq_ok_iff.mp h
  obtain ⟨front, hfront, h⟩ := Except.bind_eq_ok_iff.mp h
  obtain ⟨data, hdata, h⟩ := Except.bind_eq_ok_iff.mp h
  cases h
  refine ⟨rfl, ?_⟩
  change data.toList.length = _
  rw [HVec.foldlM_extendOr_eq_ok.mp hdata, HVec.extendOr_eq_ok.mp hfront, List.length_append,
    length_flatMap_toBeBytes, Nat.mul_comm]
  rfl

end Pdu

open FunctionCode in
/-- Of all frames of the library, the layouts miss diagnostics requests without exactly one data
word. -/
theorem LibraryPdu.fitsLayout {p : Pdu} (h : LibraryPdu p) :
    p.FitsLayout ∨ ∃ subFunction words,
      Pdu.buildSubFunction diagnostics subFunction words = .ok p ∧ words.length ≠ 1 := by
  have counted {p : Pdu} (fc : FunctionCode) (layout : DataLayout) (front : List UInt8)
      {payload : List UInt8} (hlayout : dataLayout fc.toByte = some layout)
      (hfield : ⟨front.length, 1⟩ ∈ layout.counts) (hfc : p.functionCode = fc)
      (hdata : p.data.toList = front ++ UInt8.ofNat payload.length :: payload)
      (hlen : payload.length ≤ 255) : p.FitsLayout := by
    rw [← hfc] at hlayout
    refine fitsLayout_of_count hlayout hfield ?_
    rw [HVec.length, hdata]
    exact announced_of_byteCount hlen
  have fileRecord {p : Pdu} {payload : List UInt8}
      (hfc : p.functionCode ∈ [readFileRecord, writeFileRecord])
      (hdata : p.data.toList = UInt8.ofNat payload.length :: payload) : p.FitsLayout := by
    have hlen : p.data.toList.length ≤ 252 := p.data.length_le
    rw [hdata, List.length_cons] at hlen
    simp only [List.mem_cons, List.not_mem_nil, or_false] at hfc
    rcases hfc with hfc | hfc
    · exact counted readFileRecord ⟨[], [⟨0, 1⟩]⟩ [] (by decide) (by decide) hfc hdata (by omega)
    · exact counted writeFileRecord ⟨[], [⟨0, 1⟩]⟩ [] (by decide) (by decide) hfc hdata (by omega)
  cases h with
  | readWindow hfc h =>
    cases h
    left
    simp only [List.mem_cons, List.not_mem_nil, or_false] at hfc
    rcases hfc with rfl | rfl | rfl | rfl
    · exact fitsLayout_of_fixed readCoils _ 4 rfl (by decide) rfl rfl
    · exact fitsLayout_of_fixed readDiscreteInputs _ 4 rfl (by decide) rfl rfl
    · exact fitsLayout_of_fixed readHoldingRegisters _ 4 rfl (by decide) rfl rfl
    · exact fitsLayout_of_fixed readInputRegisters _ 4 rfl (by decide) rfl rfl
  | writeSingle hfc h =>
    cases h
    left
    simp only [List.mem_cons, List.not_mem_nil, or_false] at hfc
    rcases hfc with rfl | rfl | rfl | rfl | rfl
    · exact fitsLayout_of_fixed writeSingleCoil _ 4 rfl (by decide) rfl rfl
    · exact fitsLayout_of_fixed writeSingleRegister _ 4 rfl (by decide) rfl rfl
    · exact fitsLayout_of_fixed writeMultipleCoils _ 4 rfl (by decide) rfl rfl
    · exact fitsLayout_of_fixed writeMultipleRegisters _ 4 rfl (by decide) rfl rfl
    · exact fitsLayout_of_fixed getCommEventCounter _ 4 rfl (by decide) rfl rfl
  | writeMultiple hfc h =>
    obtain ⟨hlen, hnew, hdata⟩ := Pdu.buildWriteMultiple_eq_ok h
    have hfc' := congrArg Pdu.functionCode hnew
    left
    simp only [List.mem_cons, List.not_mem_nil, or_false] at hfc
    rcases hfc with rfl | rfl
    · exact counted writeMultipleCoils _ _ rfl (by simp) hfc' hdata hlen
    · exact counted writeMultipleRegisters _ _ rfl (by simp) hfc' hdata hlen
  | maskWrite h =>
    cases h
    exact Or.inl (fitsLayout_of_fixed maskWriteRegister _ 6 rfl (by decide) rfl rfl)
  | readWrite h =>
    obtain ⟨hlen, hnew, hdata⟩ := Pdu.buildReadWriteMultiple_eq_ok h
    have hfc := congrArg Pdu.functionCode hnew
    exact Or.inl (counted readWriteMultipleRegisters _ _ rfl (by simp) hfc hdata hlen)
  | @subFunction subFunction words _ h =>
    by_cases hone : words.length = 1
    · obtain ⟨hfc, hlen⟩ := Pdu.buildSubFunction_eq_ok h
      rw [hone] at hlen
      exact Or.inl (fitsLayout_of_fixed diagnostics _ 4 rfl (by decide) hfc hlen)
    · exact Or.inr ⟨subFunction, words, h, hone⟩
  | meiType h =>
    obtain ⟨_, _, h⟩ := Except.bind_eq_ok_iff.mp h
    obtain ⟨_, _, h⟩ := Except.bind_eq_ok_iff.mp h
    obtain ⟨_, _, h⟩ := Except.bind_eq_ok_iff.mp h
    cases h
    have hopen : dataLayout encapsulatedInterfaceTransport.toByte = none := rfl
    exact Or.inl fun layout hlayout => by cases hopen.symm.trans hlayout
  | fifoRequest h =>
    cases h
    exact Or.inl (fitsLayout_of_fixed readFifoQueue _ 2 rfl (by decide) rfl rfl)
  | empty hfc =>
    left
    simp only [List.mem_cons, List.not_mem_nil, or_false] at hfc
    rcases hfc with rfl | rfl | rfl | rfl
    · exact fitsLayout_of_fixed readExceptionStatus _ 0 rfl (by decide) rfl rfl
    · exact fitsLayout_of_fixed getCommEventCounter _ 0 rfl (by decide) rfl rfl
    · exact fitsLayout_of_fixed getCommEventLog _ 0 rfl (by decide) rfl rfl
    · exact fitsLayout_of_fixed reportServerId _ 0 rfl (by decide) rfl rfl
  | status h =>
    cases h
    exact Or.inl (fitsLayout_of_fixed readExceptionStatus _ 1 rfl (by decide) rfl rfl)
  | @exception fc exceptionFc _ _ hexc h =>
    cases h
    have hlayout : dataLayout exceptionFc.toByte = some ⟨[1], []⟩ := by
      cases fc <;> cases hexc <;> rfl
    exact Or.inl (fitsLayout_of_fixed exceptionFc _ 1 hlayout (by decide) rfl rfl)
  | byteCount hfc h =>
    obtain ⟨hlen, hnew, hdata⟩ := Pdu.buildByteCountPayload_eq_ok h
    have hfc' := congrArg Pdu.functionCode hnew
    left
    simp only [List.mem_cons, List.not_mem_nil, or_false] at hfc
    rcases hfc with rfl | rfl | rfl | rfl | rfl | rfl | rfl | rfl
    · exact counted readCoils _ [] rfl (by decide) hfc' hdata hlen
    · exact counted readDiscreteInputs _ [] rfl (by decide) hfc' hdata hlen
    · exact counted readHoldingRegisters _ [] rfl (by decide) hfc' hdata hlen
    · exact counted readInputRegisters _ [] rfl (by decide) hfc' hdata hlen
    · exact counted getCommEventLog _ [] rfl (by decide) hfc' hdata hlen
    · exact counted reportServerId _ [] rfl (by decide) hfc' hdata hlen
    · exact counted readFileRecord _ [] rfl (by decide) hfc' hdata hlen
    · exact counted readWriteMultipleRegisters _ [] rfl (by decide) hfc' hdata hlen
  | diagnosticsEcho h =>
    cases h
    exact Or.inl (fitsLayout_of_fixed diagnostics _ 4 rfl (by decide) rfl rfl)
  | fifoResponse h =>
    obtain ⟨hlen, hnew, hdata⟩ := Pdu.buildFifoPayload_eq_ok h
    have hfc : p.functionCode = readFifoQueue := congrArg Pdu.functionCode hnew
    have hlayout : dataLayout p.functionCode.toByte = some ⟨[2], [⟨0, 2⟩]⟩ := by
      rw [hfc]
      rfl
    refine Or.inl (fitsLayout_of_count hlayout (List.mem_singleton.mpr rfl) ?_)
    rw [HVec.length, hdata, announced_two]
    simp only [toBeBytes, List.cons_append, List.nil_append, fromBeBytes_toBeBytes]
    rw [UInt16.toNat_ofNat_of_lt' (Nat.lt_succ_of_le hlen)]
    simp only [List.length_cons]
    congr 1
    omega
  | fileRecord hfc h =>
    have hrest := SubRequest.toSubReqPduBytes_eq_ok.mp h
    rw [SubRequest.byteCount_eq] at hrest
    exact Or.inl (fileRecord hfc hrest)
  | fileRecordEcho hfc h =>
    obtain ⟨_, _, h⟩ := Outcome.bind_eq_ok.mp h
    obtain ⟨byteCount, hindex, h⟩ := Outcome.bind_eq_ok.mp h
    obtain ⟨_, hcount, _⟩ := Outcome.bind_eq_ok.mp h
    rw [Outcome.guardErr_eq_ok, bne_eq_false_iff_eq] at hcount
    refine Or.inl (@fileRecord _ p.data.toList.tail (by rw [hfc]; decide) ?_)
    cases hdata : p.data.toList with
    | nil =>
      rw [hdata] at hindex
      cases hindex
    | cons first rest =>
      rw [hdata, Outcome.index_cons_zero] at hindex
      cases hindex
      rw [Pdu.dataLen, hdata, List.length_cons, Nat.add_sub_cancel] at hcount
      rw [List.tail_cons, ← hcount, UInt8.ofNat_toNat]

/-- Without a single data word a diagnostics request does not fit. -/
lemma not_fitsLayout_subFunction {subFunction : UInt16} {words : List UInt16}
    (h : Pdu.buildSubFunction .diagnostics subFunction words = .ok p) (hone : words.length ≠ 1) :
    ¬p.FitsLayout := by
  obtain ⟨hfc, hlen⟩ := Pdu.buildSubFunction_eq_ok h
  have hlayout : dataLayout p.functionCode.toByte = some ⟨[4], []⟩ := by
    rw [hfc]
    rfl
  rw [fitsLayout_iff hlayout, hlen]
  simp only [DataLayout.lengths, List.filterMap_nil, List.append_nil, List.mem_singleton]
  omega

end Builders

/-- Data that fits allows every frame of the PDU. -/
lemma Pdu.FitsLayout.laidOut [Features] {tt : TransportType} (htt : tt.IsRtu) {txnId : UInt16}
    {unitId : UInt8} {p : Pdu} {adu : HVec UInt8 maxAduFrameLen}
    (hadu : compileAduFrame txnId unitId p tt = .ok adu) (h : p.FitsLayout) :
    LaidOut adu.toList p := by
  obtain ⟨_, hlist⟩ := compileAduFrame_eq_ok hadu
  have hlen : adu.toList.length = p.data.length + 4 := by
    rw [hlist]
    rcases htt with rfl | rfl <;>
      simp only [frameBytes, Pdu.rawBytes, HVec.length, List.length_append, List.length_cons,
        toLeBytes_length]
  intro layout hlayout
  refine ⟨fun _ => h layout hlayout, fun k hk _ _ => ?_⟩
  exact Or.inl ⟨p.data.length, h layout hlayout, by omega⟩

/-- A read of one register. -/
theorem findsBoundary_readRegister :
    letI := Features.minimal
    ∃ pdu adu, Pdu.buildReadWindow .readHoldingRegisters 107 3 = .ok pdu ∧
      compileAduFrame 0 17 pdu (.stdSerial .rtu) = .ok adu ∧
      FindsBoundary (.stdSerial .rtu) adu.toList := by
  let _ := Features.minimal
  have hbuild : Pdu.buildReadWindow .readHoldingRegisters 107 3 =
      .ok (Pdu.new .readHoldingRegisters (.ofSlice [0x00, 0x6B, 0x00, 0x03])) := rfl
  obtain ⟨adu, hadu, _⟩ := compileAduFrame_ok (.stdSerial .rtu) 0 17
    (Pdu.new .readHoldingRegisters (.ofSlice [0x00, 0x6B, 0x00, 0x03])) trivial
  refine ⟨_, adu, hbuild, hadu, (findsBoundary_iff (Or.inl rfl) 0 17 _ adu hadu).mpr ?_⟩
  exact Pdu.FitsLayout.laidOut (Or.inl rfl) hadu
    (fitsLayout_of_fixed .readHoldingRegisters _ 4 rfl (by decide) rfl rfl)

/-- A diagnostics request with two data words is cut after eight bytes. -/
theorem diagnostics_two_words_not_found :
    letI := Features.minimal
    ∃ pdu adu, Pdu.buildSubFunction .diagnostics 0 [0x1234, 0x5678] = .ok pdu ∧
      compileAduFrame 0 17 pdu (.stdSerial .rtu) = .ok adu ∧
      ¬FindsBoundary (.stdSerial .rtu) adu.toList := by
  let _ := Features.minimal
  have hbuild : Pdu.buildSubFunction .diagnostics 0 [0x1234, 0x5678] =
      .ok (Pdu.new .diagnostics (.ofSlice [0x00, 0x00, 0x12, 0x34, 0x56, 0x78])) := rfl
  obtain ⟨adu, hadu, hlist⟩ := compileAduFrame_ok (.stdSerial .rtu) 0 17
    (Pdu.new .diagnostics (.ofSlice [0x00, 0x00, 0x12, 0x34, 0x56, 0x78])) trivial
  refine ⟨_, adu, hbuild, hadu, fun hfound => ?_⟩
  have hframe : adu.toList = frameBytes (.stdSerial .rtu) 0 17
      [0x08, 0x00, 0x00, 0x12, 0x34, 0x56, 0x78] := hlist
  have hclean : ∀ k < 10, checkCrc (frameBytes (.stdSerial .rtu) 0 17
      [0x08, 0x00, 0x00, 0x12, 0x34, 0x56, 0x78]) k = false := by decide +kernel
  have hcut : deriveLengthFromBytes (frameBytes (.stdSerial .rtu) 0 17
      [0x08, 0x00, 0x00, 0x12, 0x34, 0x56, 0x78]) (.stdSerial .rtu) = some 8 := by decide +kernel
  have hten : adu.toList.length = 10 := by rw [hframe]; rfl
  have hwhole := hfound.1 [] fun k hk hcrc => by
    rw [List.append_nil] at hk hcrc
    refine Nat.le_antisymm hk (Nat.le_of_not_lt fun hlt => ?_)
    have hcheck := (checkCrc_iff _ _).mpr ⟨hk, hcrc⟩
    rw [hframe, hclean k (by omega)] at hcheck
    cases hcheck
  rw [List.append_nil, hten, hframe, hcut] at hwhole
  cases hwhole

end ModbusRs
