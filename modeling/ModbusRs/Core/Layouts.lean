import ModbusRs.Core.PduFields

/-!
# Layouts of the PDU data field

Each parser accepts exactly the data of its layout and returns the fields the bytes encode.
-/

namespace ModbusRs

open Outcome

lemma toBeBytes_fromBeBytes (hi lo : UInt8) : toBeBytes (fromBeBytes hi lo) = [hi, lo] := by
  have h := hi.toNat_lt
  have h' := lo.toNat_lt
  rw [toBeBytes, fromBeBytes_toNat]
  congr 1
  · rw [show (hi.toNat * 256 + lo.toNat) / 256 = hi.toNat by omega, UInt8.ofNat_toNat]
  · rw [show (hi.toNat * 256 + lo.toNat) % 256 = lo.toNat by omega, UInt8.ofNat_toNat]

lemma fromBeBytes_eq_iff {hi lo : UInt8} {value : UInt16} :
    fromBeBytes hi lo = value ↔ toBeBytes value = [hi, lo] := by
  constructor
  · rintro rfl
    exact toBeBytes_fromBeBytes hi lo
  · intro h
    obtain ⟨hhi, h⟩ := List.cons_eq_cons.mp h
    rw [← hhi, ← List.singleton_inj.mp h]
    exact fromBeBytes_toBeBytes value

lemma toBeBytes_inj {a b : UInt16} : toBeBytes a = toBeBytes b ↔ a = b :=
  ⟨fun h => (fromBeBytes_toBeBytes a).symm.trans (fromBeBytes_eq_iff.mpr h.symm), congrArg _⟩

/-- The words a sequence of register values is sent as. -/
lemma beWords_flatMap_toBeBytes (values : List UInt16) :
    beWords (values.flatMap toBeBytes) = values := by
  induction values with
  | nil => rfl
  | cons value values ih =>
    rw [List.flatMap_cons, toBeBytes, List.cons_append, List.cons_append, List.nil_append, beWords,
      ih, fromBeBytes_toBeBytes]

lemma flatMap_toBeBytes_beWords (values : List UInt8) (heven : values.length % 2 = 0) :
    (beWords values).flatMap toBeBytes = values := by
  induction values using beWords.induct with
  | case1 hi lo rest ih =>
    simp only [List.length_cons] at heven
    rw [beWords, List.flatMap_cons, toBeBytes_fromBeBytes, ih (by omega)]
    rfl
  | case2 values hshort =>
    rcases values with _ | ⟨hi, _ | ⟨lo, rest⟩⟩
    · rfl
    · cases heven
    · exact absurd rfl (hshort hi lo rest)

/-- The first two of the bytes. -/
lemma exists_two {values : List UInt8} (h : 2 ≤ values.length) :
    ∃ b₀ b₁ rest, values = b₀ :: b₁ :: rest := by
  obtain ⟨b₀, b₁, htwo⟩ := List.length_eq_two.mp (List.length_take_of_le h)
  exact ⟨b₀, b₁, values.drop 2, by rw [← List.take_append_drop 2 values, htwo]; rfl⟩

/-- The first four of the bytes. -/
lemma exists_four {values : List UInt8} (h : 4 ≤ values.length) :
    ∃ b₀ b₁ b₂ b₃ rest, values = b₀ :: b₁ :: b₂ :: b₃ :: rest := by
  obtain ⟨b₀, b₁, b₂, b₃, hfour⟩ := List.length_eq_four.mp (List.length_take_of_le h)
  exact ⟨b₀, b₁, b₂, b₃, values.drop 4, by rw [← List.take_append_drop 4 values, hfour]; rfl⟩

/-- A word behind any bytes. -/
lemma u16At_append (front rest : List UInt8) (value : UInt16) :
    u16At (front ++ (toBeBytes value ++ rest)) front.length = .ok value := by
  have hhi := index_append_add (ε := MbusError) front (toBeBytes value ++ rest) 0
  have hlo := index_append_add (ε := MbusError) front (toBeBytes value ++ rest) 1
  rw [Nat.add_zero] at hhi
  rw [u16At, hhi, hlo]
  simp [toBeBytes, fromBeBytes_toBeBytes]

namespace Pdu

variable {p : Pdu}

/-! ### Parsers -/

lemma readWindow_eq_ok {window : ReadWindow} :
    p.readWindow = .ok window ↔
      p.data.toList = toBeBytes window.address ++ toBeBytes window.quantity := by
  constructor
  · intro h
    obtain ⟨_, hlen, h⟩ := bind_eq_ok.mp h
    rw [guardErr_eq_ok, bne_eq_false_iff_eq, dataLen] at hlen
    obtain ⟨b₀, b₁, b₂, b₃, hdata⟩ := List.length_eq_four.mp hlen
    rw [readAddressQuantityPair, hdata] at h
    cases h
    rw [hdata, toBeBytes_fromBeBytes, toBeBytes_fromBeBytes]
    rfl
  · intro h
    have hlen : p.dataLen = 4 := by rw [dataLen, h]; rfl
    rw [readWindow, readAddressQuantityPair, hlen, h]
    simp [u16At, toBeBytes, fromBeBytes_toBeBytes]

lemma writeSingleU16Fields_eq_ok {fields : WriteSingleU16Fields} :
    p.writeSingleU16Fields = .ok fields ↔
      p.data.toList = toBeBytes fields.address ++ toBeBytes fields.value := by
  constructor
  · intro h
    obtain ⟨_, hlen, h⟩ := bind_eq_ok.mp h
    rw [guardErr_eq_ok, bne_eq_false_iff_eq, dataLen] at hlen
    obtain ⟨b₀, b₁, b₂, b₃, hdata⟩ := List.length_eq_four.mp hlen
    rw [hdata] at h
    cases h
    rw [hdata, toBeBytes_fromBeBytes, toBeBytes_fromBeBytes]
    rfl
  · intro h
    have hlen : p.dataLen = 4 := by rw [dataLen, h]; rfl
    rw [writeSingleU16Fields, hlen, h]
    simp [u16At, toBeBytes, fromBeBytes_toBeBytes]

lemma maskWriteRegisterFields_eq_ok {fields : MaskWriteRegisterFields} :
    p.maskWriteRegisterFields = .ok fields ↔
      p.data.toList = toBeBytes fields.address ++ toBeBytes fields.andMask ++
        toBeBytes fields.orMask := by
  constructor
  · intro h
    obtain ⟨_, hlen, h⟩ := bind_eq_ok.mp h
    rw [guardErr_eq_ok, bne_eq_false_iff_eq, dataLen] at hlen
    obtain ⟨b₀, b₁, b₂, b₃, rest, hdata⟩ := exists_four (by omega : 4 ≤ p.data.toList.length)
    obtain ⟨b₄, b₅, rfl⟩ : ∃ b₄ b₅, rest = [b₄, b₅] := by
      rw [hdata] at hlen
      exact List.length_eq_two.mp (by simpa using hlen)
    rw [hdata] at h
    cases h
    rw [hdata, toBeBytes_fromBeBytes, toBeBytes_fromBeBytes, toBeBytes_fromBeBytes]
    rfl
  · intro h
    have hlen : p.dataLen = 6 := by rw [dataLen, h]; rfl
    rw [maskWriteRegisterFields, hlen, h]
    simp [u16At, toBeBytes, fromBeBytes_toBeBytes]

lemma fifoPointer_eq_ok {pointer : UInt16} :
    p.fifoPointer = .ok pointer ↔ p.data.toList = toBeBytes pointer := by
  constructor
  · intro h
    obtain ⟨_, hlen, h⟩ := bind_eq_ok.mp h
    rw [guardErr_eq_ok, bne_eq_false_iff_eq, dataLen] at hlen
    obtain ⟨b₀, b₁, hdata⟩ := List.length_eq_two.mp hlen
    rw [hdata] at h
    cases h
    rw [hdata, toBeBytes_fromBeBytes]
  · intro h
    have hlen : p.dataLen = 2 := by rw [dataLen, h]; rfl
    rw [fifoPointer, hlen, h]
    simp [u16At, toBeBytes, fromBeBytes_toBeBytes]

/-- The bytes behind a fixed part, up to the end of the data. -/
lemma slice_drop {data : List UInt8} {lo hi : Nat} (hlo : lo ≤ hi) (hhi : data.length = hi) :
    (slice data lo hi : Fallible (List UInt8)) = .ok (data.drop lo) := by
  rw [slice_of_le hlo (Nat.le_of_eq hhi.symm), ← hhi, List.take_length]

lemma byteCountPayload_eq_ok {bcp : ByteCountPayload} :
    p.byteCountPayload = .ok bcp ↔
      p.data.toList = bcp.byteCount :: bcp.payload ∧ bcp.payload.length = bcp.byteCount.toNat := by
  constructor
  · intro h
    obtain ⟨_, hlen, h⟩ := bind_eq_ok.mp h
    rw [guardErr_eq_ok, decide_eq_false_iff_not, Nat.not_lt, dataLen] at hlen
    obtain ⟨count, payload, hdata⟩ := List.exists_cons_of_length_pos hlen
    rw [dataLen, hdata] at h
    obtain ⟨_, hcount, h⟩ := bind_eq_ok.mp h
    cases hcount
    obtain ⟨_, hlen', h⟩ := bind_eq_ok.mp h
    rw [guardErr_eq_ok, bne_eq_false_iff_eq] at hlen'
    rw [slice_drop (by omega) hlen'] at h
    cases h
    refine ⟨hdata, ?_⟩
    rw [List.length_cons] at hlen'
    simp only [List.drop_succ_cons, List.drop_zero]
    omega
  · rintro ⟨hdata, hlen⟩
    have hlen' : p.dataLen = 1 + bcp.byteCount.toNat := by
      rw [dataLen, hdata, List.length_cons, hlen, Nat.add_comm]
    rw [byteCountPayload, hlen', hdata, index_cons_zero]
    simp only [ok_bind, bne_self_eq_false, guardErr_false]
    rw [slice_drop (by omega) (by rw [← hlen', ← hdata]; rfl), decide_eq_false (by omega)]
    rfl

lemma writeMultipleFields_eq_ok {fields : WriteMultipleFields} :
    p.writeMultipleFields = .ok fields ↔
      p.data.toList = toBeBytes fields.address ++ toBeBytes fields.quantity ++
        fields.byteCount :: fields.values ∧ fields.values.length = fields.byteCount.toNat := by
  constructor
  · intro h
    obtain ⟨_, hlen, h⟩ := bind_eq_ok.mp h
    rw [guardErr_eq_ok, decide_eq_false_iff_not, Nat.not_lt, dataLen] at hlen
    obtain ⟨b₀, b₁, b₂, b₃, rest, hdata⟩ := exists_four (by omega : 4 ≤ p.data.toList.length)
    obtain ⟨count, values, rfl⟩ : ∃ count values, rest = count :: values := by
      simp only [hdata, List.length_cons] at hlen
      exact List.exists_cons_of_length_pos (by omega)
    rw [readAddressQuantityPair, dataLen, hdata] at h
    obtain ⟨_, hpair, h⟩ := bind_eq_ok.mp h
    cases hpair
    obtain ⟨_, hcount, h⟩ := bind_eq_ok.mp h
    cases hcount
    obtain ⟨_, hlen', h⟩ := bind_eq_ok.mp h
    rw [guardErr_eq_ok, bne_eq_false_iff_eq] at hlen'
    rw [slice_drop (by omega) hlen'] at h
    cases h
    rw [hdata, toBeBytes_fromBeBytes, toBeBytes_fromBeBytes]
    refine ⟨rfl, ?_⟩
    simp only [List.length_cons] at hlen'
    simp only [List.drop_succ_cons, List.drop_zero]
    omega
  · rintro ⟨hdata, hlen⟩
    have hlen' : p.dataLen = 5 + fields.byteCount.toNat := by
      rw [dataLen, hdata, ← hlen]
      simp only [List.length_append, toBeBytes_length, List.length_cons]
      omega
    have hslice : (slice p.data.toList 5 (5 + fields.byteCount.toNat) : Fallible (List UInt8)) =
        .ok fields.values := by
      rw [slice_drop (by omega) hlen', hdata]
      rfl
    have haddress : u16At p.data.toList 0 = .ok fields.address := by
      rw [hdata]
      exact u16At_append [] _ _
    have hquantity : u16At p.data.toList 2 = .ok fields.quantity := by
      rw [hdata, List.append_assoc]
      exact u16At_append (toBeBytes fields.address) _ _
    have hcount : (index p.data.toList 4 : Fallible UInt8) = .ok fields.byteCount := by
      rw [hdata]
      rfl
    rw [writeMultipleFields, readAddressQuantityPair, hlen', decide_eq_false (by omega),
      guardErr_false, ok_bind, haddress, ok_bind, hquantity]
    simp [hcount, hslice]

lemma readWriteMultipleFields_eq_ok {fields : ReadWriteMultipleFields} :
    p.readWriteMultipleFields = .ok fields ↔
      p.data.toList = toBeBytes fields.readAddress ++ toBeBytes fields.readQuantity ++
        toBeBytes fields.writeAddress ++ toBeBytes fields.writeQuantity ++
        fields.writeByteCount :: fields.writeValues ∧
      fields.writeValues.length = fields.writeByteCount.toNat := by
  constructor
  · intro h
    obtain ⟨_, hlen, h⟩ := bind_eq_ok.mp h
    rw [guardErr_eq_ok, decide_eq_false_iff_not, Nat.not_lt, dataLen] at hlen
    obtain ⟨b₀, b₁, b₂, b₃, rest, hdata⟩ := exists_four (by omega : 4 ≤ p.data.toList.length)
    have hlong : 5 ≤ rest.length := by
      rw [hdata] at hlen
      simpa using hlen
    obtain ⟨b₄, b₅, b₆, b₇, rest, rfl⟩ := exists_four (by omega : 4 ≤ rest.length)
    obtain ⟨count, values, rfl⟩ : ∃ count values, rest = count :: values :=
      List.exists_cons_of_length_pos (by simp only [List.length_cons] at hlong; omega)
    rw [readAddressQuantityPair, dataLen, hdata] at h
    obtain ⟨_, hpair, h⟩ := bind_eq_ok.mp h
    cases hpair
    obtain ⟨_, haddress, h⟩ := bind_eq_ok.mp h
    cases haddress
    obtain ⟨_, hquantity, h⟩ := bind_eq_ok.mp h
    cases hquantity
    obtain ⟨_, hcount, h⟩ := bind_eq_ok.mp h
    cases hcount
    obtain ⟨_, hlen', h⟩ := bind_eq_ok.mp h
    rw [guardErr_eq_ok, bne_eq_false_iff_eq] at hlen'
    rw [slice_drop (by omega) hlen'] at h
    cases h
    rw [hdata, toBeBytes_fromBeBytes, toBeBytes_fromBeBytes, toBeBytes_fromBeBytes,
      toBeBytes_fromBeBytes]
    refine ⟨rfl, ?_⟩
    simp only [List.length_cons] at hlen'
    simp only [List.drop_succ_cons, List.drop_zero]
    omega
  · rintro ⟨hdata, hlen⟩
    have hlen' : p.dataLen = 9 + fields.writeByteCount.toNat := by
      rw [dataLen, hdata, ← hlen]
      simp only [List.length_append, toBeBytes_length, List.length_cons]
      omega
    have hslice : (slice p.data.toList 9 (9 + fields.writeByteCount.toNat) :
        Fallible (List UInt8)) = .ok fields.writeValues := by
      rw [slice_drop (by omega) hlen', hdata]
      rfl
    have hreadAddress : u16At p.data.toList 0 = .ok fields.readAddress := by
      rw [hdata]
      exact u16At_append [] _ _
    have hreadQuantity : u16At p.data.toList 2 = .ok fields.readQuantity := by
      rw [hdata]
      exact u16At_append (toBeBytes fields.readAddress) _ _
    have hwriteAddress : u16At p.data.toList 4 = .ok fields.writeAddress := by
      rw [hdata]
      exact u16At_append (toBeBytes fields.readAddress ++ toBeBytes fields.readQuantity) _ _
    have hwriteQuantity : u16At p.data.toList 6 = .ok fields.writeQuantity := by
      rw [hdata]
      exact u16At_append (toBeBytes fields.readAddress ++ toBeBytes fields.readQuantity ++
        toBeBytes fields.writeAddress) _ _
    have hcount : (index p.data.toList 8 : Fallible UInt8) = .ok fields.writeByteCount := by
      rw [hdata]
      rfl
    rw [readWriteMultipleFields, readAddressQuantityPair, hlen', decide_eq_false (by omega),
      guardErr_false, ok_bind, hreadAddress, ok_bind, hreadQuantity]
    simp [hwriteAddress, hwriteQuantity, hcount, hslice]

lemma fifoPayload_eq_ok {fp : FifoPayload} :
    p.fifoPayload = .ok fp ↔
      p.data.toList = toBeBytes fp.fifoByteCount ++ toBeBytes fp.fifoCount ++ fp.values := by
  constructor
  · intro h
    obtain ⟨_, hlen, h⟩ := bind_eq_ok.mp h
    rw [guardErr_eq_ok, decide_eq_false_iff_not, Nat.not_lt, dataLen] at hlen
    obtain ⟨b₀, b₁, b₂, b₃, values, hdata⟩ := exists_four hlen
    have hslice : (slice p.data.toList 4 p.dataLen : Fallible (List UInt8)) =
        .ok (p.data.toList.drop 4) := slice_drop hlen rfl
    rw [hslice, hdata] at h
    cases h
    rw [hdata, toBeBytes_fromBeBytes, toBeBytes_fromBeBytes]
    rfl
  · intro hdata
    have hlen : 4 ≤ p.dataLen := by
      rw [dataLen, hdata]
      simp only [List.length_append, toBeBytes_length]
      omega
    have hslice : (slice p.data.toList 4 p.dataLen : Fallible (List UInt8)) =
        .ok (p.data.toList.drop 4) := slice_drop hlen rfl
    rw [fifoPayload, hslice, decide_eq_false (by omega), hdata]
    simp [u16At, toBeBytes, fromBeBytes_toBeBytes]

/-! ### Well-formed and malformed data -/

variable (p) in
/-- The data is a byte count and as many bytes. -/
def CountsBytes (bytes : List UInt8) : Prop :=
  p.data.toList = UInt8.ofNat bytes.length :: bytes

variable (p) in
/-- The data is a pair of words. -/
def HoldsPair (first second : UInt16) : Prop :=
  p.data.toList = toBeBytes first ++ toBeBytes second

namespace CountsBytes

variable {bytes bytes' : List UInt8}

lemma length_le (h : p.CountsBytes bytes) : bytes.length ≤ 251 := by
  have hle : p.data.toList.length ≤ 252 := p.data.length_le
  rw [h, List.length_cons] at hle
  omega

lemma count_toNat (h : p.CountsBytes bytes) :
    (UInt8.ofNat bytes.length).toNat = bytes.length :=
  UInt8.toNat_ofNat_of_lt' (show bytes.length < 256 from
    Nat.lt_of_le_of_lt h.length_le (by decide))

lemma unique (h : p.CountsBytes bytes) (h' : p.CountsBytes bytes') : bytes' = bytes :=
  (List.cons_eq_cons.mp (h'.symm.trans h)).2

lemma byteCountPayload_eq (h : p.CountsBytes bytes) :
    p.byteCountPayload = .ok ⟨UInt8.ofNat bytes.length, bytes⟩ :=
  byteCountPayload_eq_ok.mpr ⟨h, h.count_toNat.symm⟩

end CountsBytes

lemma byteCountPayload_eq_err (h : ∀ bytes, ¬p.CountsBytes bytes) :
    ∃ e, p.byteCountPayload = .err e := by
  refine eq_err_of_ne byteCountPayload_ne_panic fun bcp hbcp => h bcp.payload ?_
  obtain ⟨hdata, hlen⟩ := byteCountPayload_eq_ok.mp hbcp
  rw [CountsBytes, hdata, hlen, UInt8.ofNat_toNat]

namespace HoldsPair

variable {first second first' second' : UInt16}

lemma unique (h : p.HoldsPair first second) (h' : p.HoldsPair first' second') :
    first' = first ∧ second' = second := by
  obtain ⟨hfirst, hsecond⟩ := List.append_inj (h'.symm.trans h) rfl
  exact ⟨toBeBytes_inj.mp hfirst, toBeBytes_inj.mp hsecond⟩

lemma readWindow_eq (h : p.HoldsPair first second) : p.readWindow = .ok ⟨first, second⟩ :=
  readWindow_eq_ok.mpr h

lemma writeSingleU16Fields_eq (h : p.HoldsPair first second) :
    p.writeSingleU16Fields = .ok ⟨first, second⟩ :=
  writeSingleU16Fields_eq_ok.mpr h

end HoldsPair

lemma readWindow_eq_err (h : ∀ first second, ¬p.HoldsPair first second) :
    ∃ e, p.readWindow = .err e :=
  eq_err_of_ne readWindow_ne_panic fun window hwindow =>
    h window.address window.quantity (readWindow_eq_ok.mp hwindow)

lemma writeSingleU16Fields_eq_err (h : ∀ first second, ¬p.HoldsPair first second) :
    ∃ e, p.writeSingleU16Fields = .err e :=
  eq_err_of_ne writeSingleU16Fields_ne_panic fun fields hfields =>
    h fields.address fields.value (writeSingleU16Fields_eq_ok.mp hfields)

variable (p) in
/-- The data is a FIFO queue of these words, with both of its counts. -/
def HoldsFifo (words : List UInt16) : Prop :=
  words.length ≤ 31 ∧ p.data.toList = toBeBytes (UInt16.ofNat (2 + 2 * words.length)) ++
    toBeBytes (UInt16.ofNat words.length) ++ words.flatMap toBeBytes

lemma HoldsFifo.fifoPayload_eq {words : List UInt16} (h : p.HoldsFifo words) :
    p.fifoPayload = .ok ⟨UInt16.ofNat (2 + 2 * words.length), UInt16.ofNat words.length,
      words.flatMap toBeBytes⟩ :=
  fifoPayload_eq_ok.mpr h.2

/-- The checks of the counts of a FIFO queue. -/
lemma holdsFifo_of_counts {fp : FifoPayload} (h : p.fifoPayload = .ok fp)
    (hlen : fp.values.length + 2 = fp.fifoByteCount.toNat)
    (hbytes : fp.fifoByteCount.toNat = 2 + fp.fifoCount.toNat * 2)
    (hwords : (beWords fp.values).length ≤ 31) : p.HoldsFifo (beWords fp.values) := by
  have heven : fp.values.length = 2 * fp.fifoCount.toNat := by omega
  have hcount : (beWords fp.values).length = fp.fifoCount.toNat := by
    rw [beWords_length]
    omega
  refine ⟨hwords, ?_⟩
  rw [hcount, flatMap_toBeBytes_beWords _ (by omega), UInt16.ofNat_toNat, Nat.mul_comm 2, ← hbytes,
    UInt16.ofNat_toNat]
  exact fifoPayload_eq_ok.mp h

/-! ### Builders -/

variable {fc : FunctionCode}

lemma buildReadWindow_eq_ok {address quantity : UInt16}
    (h : buildReadWindow fc address quantity = .ok p) :
    p = new fc p.data ∧ p.data.toList = toBeBytes address ++ toBeBytes quantity := by
  cases h
  exact ⟨rfl, rfl⟩

lemma buildWriteSingleU16_eq_ok {address value : UInt16}
    (h : buildWriteSingleU16 fc address value = .ok p) :
    p = new fc p.data ∧ p.data.toList = toBeBytes address ++ toBeBytes value := by
  cases h
  exact ⟨rfl, rfl⟩

lemma buildMaskWriteRegister_eq_ok {address andMask orMask : UInt16}
    (h : buildMaskWriteRegister address andMask orMask = .ok p) :
    p = new .maskWriteRegister p.data ∧
      p.data.toList = toBeBytes address ++ toBeBytes andMask ++ toBeBytes orMask := by
  cases h
  exact ⟨rfl, rfl⟩

lemma buildU16Payload_eq_ok {value : UInt16} (h : buildU16Payload fc value = .ok p) :
    p = new fc p.data ∧ p.data.toList = toBeBytes value := by
  cases h
  exact ⟨rfl, rfl⟩

lemma buildByteCountPayload_eq_ok {payload : List UInt8}
    (h : buildByteCountPayload fc payload = .ok p) :
    payload.length ≤ 255 ∧ p = new fc p.data ∧
      p.data.toList = UInt8.ofNat payload.length :: payload := by
  obtain ⟨_, hlen, h⟩ := Except.bind_eq_ok_iff.mp h
  obtain ⟨_, _, h⟩ := Except.bind_eq_ok_iff.mp h
  obtain ⟨front, hfront, h⟩ := Except.bind_eq_ok_iff.mp h
  obtain ⟨data, hdata, h⟩ := Except.bind_eq_ok_iff.mp h
  cases h
  rw [HVec.pushOr_eq_ok] at hfront
  rw [HVec.extendOr_eq_ok, hfront] at hdata
  rw [Except.guardErr_eq_ok, decide_eq_false_iff_not, Nat.not_lt] at hlen
  exact ⟨hlen, rfl, hdata⟩

lemma buildByteCountPayload_of_le (fc : FunctionCode) {payload : List UInt8}
    (h : payload.length ≤ 251) : ∃ p, buildByteCountPayload fc payload = .ok p := by
  rw [buildByteCountPayload, decide_eq_false (by omega), Except.guardErr_false, Except.ok_bind,
    decide_eq_false (by
      change ¬_ > 252
      omega), Except.guardErr_false, Except.ok_bind, HVec.pushOr,
    HVec.extendOr_of_le _ (by simp [maxPduDataLen]), Except.ok_bind, HVec.extendOr_of_le _ (by
      simp only [HVec.empty_toList, List.nil_append, List.length_singleton]
      change _ ≤ 252
      omega)]
  exact ⟨_, rfl⟩

lemma buildFifoPayload_of_le {payload : List UInt8} (h : payload.length ≤ 250) :
    ∃ p, buildFifoPayload payload = .ok p := by
  rw [buildFifoPayload, decide_eq_false (by omega), Except.guardErr_false, Except.ok_bind,
    decide_eq_false (by
      change ¬_ > 252
      omega), Except.guardErr_false, Except.ok_bind,
    HVec.extendOr_of_le _ (by simp [maxPduDataLen]), Except.ok_bind, HVec.extendOr_of_le _ (by
      simp only [HVec.empty_toList, List.nil_append, toBeBytes_length]
      change _ ≤ 252
      omega)]
  exact ⟨_, rfl⟩

lemma buildWriteMultiple_eq_ok {address quantity : UInt16} {values : List UInt8}
    (h : buildWriteMultiple fc address quantity values = .ok p) :
    values.length ≤ 255 ∧ p = new fc p.data ∧ p.data.toList =
      (toBeBytes address ++ toBeBytes quantity) ++ UInt8.ofNat values.length :: values := by
  obtain ⟨_, hlen, h⟩ := Except.bind_eq_ok_iff.mp h
  obtain ⟨_, _, h⟩ := Except.bind_eq_ok_iff.mp h
  obtain ⟨first, hfirst, h⟩ := Except.bind_eq_ok_iff.mp h
  obtain ⟨second, hsecond, h⟩ := Except.bind_eq_ok_iff.mp h
  obtain ⟨front, hfront, h⟩ := Except.bind_eq_ok_iff.mp h
  obtain ⟨data, hdata, h⟩ := Except.bind_eq_ok_iff.mp h
  cases h
  rw [HVec.extendOr_eq_ok] at hfirst hsecond hdata
  rw [HVec.pushOr_eq_ok] at hfront
  rw [hfront, hsecond, hfirst] at hdata
  rw [Except.guardErr_eq_ok, decide_eq_false_iff_not, Nat.not_lt] at hlen
  exact ⟨hlen, rfl, by simpa only [HVec.empty_toList, List.nil_append, List.append_assoc,
    List.singleton_append, new] using hdata⟩

lemma buildReadWriteMultiple_eq_ok {readAddress readQuantity writeAddress writeQuantity : UInt16}
    {values : List UInt8} (h : buildReadWriteMultiple readAddress readQuantity writeAddress
      writeQuantity values = .ok p) :
    values.length ≤ 255 ∧ p = new .readWriteMultipleRegisters p.data ∧ p.data.toList =
      (toBeBytes readAddress ++ toBeBytes readQuantity ++ toBeBytes writeAddress ++
        toBeBytes writeQuantity) ++ UInt8.ofNat values.length :: values := by
  obtain ⟨_, hlen, h⟩ := Except.bind_eq_ok_iff.mp h
  obtain ⟨_, _, h⟩ := Except.bind_eq_ok_iff.mp h
  obtain ⟨first, hfirst, h⟩ := Except.bind_eq_ok_iff.mp h
  obtain ⟨second, hsecond, h⟩ := Except.bind_eq_ok_iff.mp h
  obtain ⟨third, hthird, h⟩ := Except.bind_eq_ok_iff.mp h
  obtain ⟨fourth, hfourth, h⟩ := Except.bind_eq_ok_iff.mp h
  obtain ⟨front, hfront, h⟩ := Except.bind_eq_ok_iff.mp h
  obtain ⟨data, hdata, h⟩ := Except.bind_eq_ok_iff.mp h
  cases h
  rw [HVec.extendOr_eq_ok] at hfirst hsecond hthird hfourth hdata
  rw [HVec.pushOr_eq_ok] at hfront
  rw [hfront, hfourth, hthird, hsecond, hfirst] at hdata
  rw [Except.guardErr_eq_ok, decide_eq_false_iff_not, Nat.not_lt] at hlen
  exact ⟨hlen, rfl, by simpa only [HVec.empty_toList, List.nil_append, List.append_assoc,
    List.singleton_append, new] using hdata⟩

lemma buildFifoPayload_eq_ok {payload : List UInt8} (h : buildFifoPayload payload = .ok p) :
    payload.length ≤ 65535 ∧ p = new .readFifoQueue p.data ∧
      p.data.toList = toBeBytes (UInt16.ofNat payload.length) ++ payload := by
  obtain ⟨_, hlen, h⟩ := Except.bind_eq_ok_iff.mp h
  obtain ⟨_, _, h⟩ := Except.bind_eq_ok_iff.mp h
  obtain ⟨front, hfront, h⟩ := Except.bind_eq_ok_iff.mp h
  obtain ⟨data, hdata, h⟩ := Except.bind_eq_ok_iff.mp h
  cases h
  rw [HVec.extendOr_eq_ok] at hfront hdata
  rw [hfront] at hdata
  rw [Except.guardErr_eq_ok, decide_eq_false_iff_not, Nat.not_lt] at hlen
  exact ⟨hlen, rfl, hdata⟩

end Pdu

end ModbusRs
