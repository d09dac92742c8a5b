import ModbusRs.Core.Boundaries
import ModbusRs.Library.Crc

/-!
# The checksum of RTU frames

The table of `crc16` holds eight shifts of each byte, so `crc16` is the CRC of the bits in the
order in which they are sent. Over a whole frame, the checksum included, the register ends at
zero, and no short burst of errors leaves it there.
-/

namespace ModbusRs

open Outcome

/-- The reflected polynomial. -/
def crcPolynomial : BitVec 16 := 0xA001#16

/-- One shift of the bit-by-bit algorithm. -/
def crcShift (crc : UInt16) : UInt16 :=
  if crc &&& 1 = 1 then (crc >>> 1) ^^^ 0xA001 else crc >>> 1

/-- The bit-by-bit CRC-16. -/
def bitwiseCrc16 (data : List UInt8) : UInt16 :=
  data.foldl (fun crc byte => crcShift^[8] (crc ^^^ byte.toUInt16)) 0xFFFF

/-- The bits of a byte in serial order, the lowest first. -/
def byteBits (byte : UInt8) : List Bool := (List.range 8).map byte.toBitVec.getLsbD

/-- The bits of a frame in serial order. -/
def serialBits (bytes : List UInt8) : List Bool := bytes.flatMap byteBits

lemma crcPolynomial_msb : crcPolynomial.msb = true := by decide

lemma toBitVec_crcShift (crc : UInt16) :
    (crcShift crc).toBitVec = Crc.step crcPolynomial crc.toBitVec := by
  have hlow : crc &&& 1 = 1 ↔ crc.toBitVec.getLsbD 0 = true := by
    rw [← UInt16.toBitVec_inj, UInt16.toBitVec_and]
    change crc.toBitVec &&& 1#16 = 1#16 ↔ _
    rw [BitVec.and_one_eq_setWidth_ofBool_getLsbD]
    cases crc.toBitVec.getLsbD 0 <;> decide
  unfold crcShift Crc.step
  by_cases h : crc.toBitVec.getLsbD 0 = true
  · rw [if_pos (hlow.mpr h), if_pos h]
    rfl
  · rw [if_neg (hlow.not.mpr h), if_neg h]
    rfl

lemma toBitVec_iterate_crcShift (crc : UInt16) (k : Nat) :
    (crcShift^[k] crc).toBitVec = (Crc.step crcPolynomial)^[k] crc.toBitVec := by
  induction k with
  | zero => rfl
  | succ k ih =>
    rw [Function.iterate_succ_apply', Function.iterate_succ_apply', toBitVec_crcShift, ih]

/-! ### The table -/

/-- The table holds eight shifts of each byte. -/
lemma crc16Table_eq {i : Nat} (hi : i < 256) : (crc16Table.getD i 0).toBitVec =
    (Crc.step crcPolynomial)^[8] (BitVec.ofNat 16 i) := by
  have hall : ∀ i < 256, (crc16Table.getD i 0).toBitVec =
      (Crc.step crcPolynomial)^[8] (BitVec.ofNat 16 i) := by decide +kernel
  exact hall i hi

lemma split_low (x : BitVec 16) : x = (x &&& 0xFF00#16) ^^^ (x &&& 0xFF#16) := by
  have hmask : ∀ i < 16, (0xFF00#16).getLsbD i = !(0xFF#16).getLsbD i := by decide
  apply BitVec.eq_of_getLsbD_eq
  intro i hi
  rw [BitVec.getLsbD_xor, BitVec.getLsbD_and, BitVec.getLsbD_and, hmask i hi]
  cases x.getLsbD i <;> cases (0xFF#16).getLsbD i <;> rfl

lemma and_high_shift (x : BitVec 16) : (x &&& 0xFF00#16) >>> 8 = x >>> 8 := by
  have hmask : 0xFF00#16 >>> 8 = 0xFF#16 := by decide
  have hlow : (x >>> 8) &&& 0xFF#16 = x >>> 8 := by
    apply BitVec.eq_of_toNat_eq
    rw [BitVec.toNat_and]
    change _ &&& (2 ^ 8 - 1) = _
    rw [Nat.and_two_pow_sub_one_eq_mod, BitVec.toNat_ushiftRight, Nat.shiftRight_eq_div_pow]
    have hlt := x.isLt
    omega
  rw [BitVec.ushiftRight_and_distrib, hmask, hlow]

/-- A round of the table is eight rounds of the bit-by-bit algorithm. -/
lemma crc16Step_eq (crc : UInt16) (byte : UInt8) :
    crc16Step crc byte = crcShift^[8] (crc ^^^ byte.toUInt16) := by
  rw [← UInt16.toBitVec_inj, toBitVec_iterate_crcShift]
  set x := (crc ^^^ byte.toUInt16).toBitVec with hx
  have hindex : ((crc ^^^ byte.toUInt16) &&& 0xFF).toNat = (x &&& 0xFF#16).toNat := rfl
  have hlt : (x &&& 0xFF#16).toNat < 256 := by
    rw [BitVec.toNat_and]
    exact Nat.and_lt_two_pow _ (by decide : 255 < 2 ^ 8)
  have hclear : ∀ i < 8, (x &&& 0xFF00#16).getLsbD i = false := by
    intro i hi
    have hmask : ∀ i < 8, (0xFF00#16).getLsbD i = false := by decide
    rw [BitVec.getLsbD_and, hmask i hi, Bool.and_false]
  have hbyte : byte.toUInt16.toBitVec >>> 8 = 0#16 := by
    apply BitVec.eq_of_toNat_eq
    have hlt := byte.toNat_lt
    rw [BitVec.toNat_ushiftRight, Nat.shiftRight_eq_div_pow]
    change byte.toUInt16.toNat / 256 = 0
    rw [UInt8.toNat_toUInt16]
    omega
  have hshift : x >>> 8 = crc.toBitVec >>> 8 := by
    rw [hx, UInt16.toBitVec_xor, BitVec.ushiftRight_xor_distrib, hbyte, BitVec.xor_zero]
  conv_rhs => rw [split_low x]
  have htable := crc16Table_eq hlt
  rw [BitVec.ofNat_toNat, BitVec.setWidth_eq] at htable
  rw [Crc.iterate_step_xor, Crc.iterate_step_of_clear _ _ hclear, and_high_shift, hshift,
    ← htable, ← hindex]
  rfl

/-- The table-driven CRC is the bit-by-bit one. -/
lemma crc16_eq_bitwise (data : List UInt8) : crc16 data = bitwiseCrc16 data := by
  have hfold : crc16Step = fun crc byte => crcShift^[8] (crc ^^^ byte.toUInt16) := by
    funext crc byte
    exact crc16Step_eq crc byte
  rw [crc16, bitwiseCrc16, hfold]

/-! ### Bits in serial order -/

@[simp] lemma byteBits_length (byte : UInt8) : (byteBits byte).length = 8 := by
  rw [byteBits, List.length_map, List.length_range]

lemma ofBits_byteBits (byte : UInt8) :
    (Crc.ofBits (byteBits byte) : BitVec 16) = byte.toUInt16.toBitVec := by
  apply BitVec.eq_of_getLsbD_eq
  intro i hi
  rw [Crc.getLsbD_ofBits _ hi, byteBits, List.getD_eq_getElem?_getD, List.getElem?_map]
  change _ = (byte.toBitVec.setWidth 16).getLsbD i
  rw [BitVec.getLsbD_setWidth, decide_eq_true hi, Bool.true_and]
  by_cases hbyte : i < 8
  · rw [List.getElem?_range hbyte]
    rfl
  · rw [List.getElem?_eq_none (by rw [List.length_range]; omega),
      BitVec.getLsbD_of_ge _ _ (by omega)]
    rfl

/-- The two bytes of a checksum, the lower one first. -/
lemma ofBits_serialBits_pair (lo hi : UInt8) :
    (Crc.ofBits (serialBits [lo, hi]) : BitVec 16) = (fromLeBytes lo hi).toBitVec := by
  apply BitVec.eq_of_getLsbD_eq
  intro i hlt
  have hvalue : (fromLeBytes lo hi).toBitVec.getLsbD i =
      (2 ^ 8 * hi.toNat + lo.toNat).testBit i := by
    change (fromLeBytes lo hi).toNat.testBit i = _
    rw [fromLeBytes, fromBeBytes_toNat, Nat.mul_comm]
    rfl
  have hbits : serialBits [lo, hi] = byteBits lo ++ byteBits hi := by
    rw [serialBits, List.flatMap_cons, List.flatMap_singleton]
  rw [hvalue, Nat.testBit_two_pow_mul_add _ lo.toNat_lt, Crc.getLsbD_ofBits _ hlt, hbits,
    List.getD_eq_getElem?_getD]
  by_cases hlow : i < 8
  · rw [if_pos hlow, List.getElem?_append_left (by rwa [byteBits_length]), byteBits,
      List.getElem?_map, List.getElem?_range hlow]
    rfl
  · rw [if_neg hlow, List.getElem?_append_right (by rw [byteBits_length]; omega), byteBits_length,
      byteBits, List.getElem?_map, List.getElem?_range (by omega)]
    rfl

/-- The register after some bytes is their CRC. -/
lemma toBitVec_crc16 (data : List UInt8) :
    (crc16 data).toBitVec = Crc.run crcPolynomial 0xFFFF#16 (serialBits data) := by
  have hrun : ∀ (data : List UInt8) (crc : UInt16), (data.foldl crc16Step crc).toBitVec =
      Crc.run crcPolynomial crc.toBitVec (serialBits data) := by
    intro data
    induction data with
    | nil => exact fun _ => rfl
    | cons byte data ih =>
      intro crc
      have hstep : (crc16Step crc byte).toBitVec =
          Crc.run crcPolynomial crc.toBitVec (byteBits byte) := by
        rw [crc16Step_eq, toBitVec_iterate_crcShift, Crc.run_eq_iterate _ _ (by simp),
          ofBits_byteBits, byteBits_length]
        rfl
      rw [List.foldl_cons, ih, hstep, ← Crc.run_append]
      rfl
  exact hrun data 0xFFFF

/-- The checksum of a frame clears the register. -/
lemma run_checksum_eq_zero (body : List UInt8) (lo hi : UInt8) :
    Crc.run crcPolynomial 0xFFFF#16 (serialBits (body ++ [lo, hi])) = 0#16 ↔
      crc16 body = fromLeBytes lo hi := by
  have hlen : (serialBits [lo, hi]).length ≤ 16 := by
    simp [serialBits]
  have hsplit : serialBits (body ++ [lo, hi]) = serialBits body ++ serialBits [lo, hi] :=
    List.flatMap_append
  rw [hsplit, Crc.run_append, ← toBitVec_crc16, Crc.run_eq_zero_iff crcPolynomial_msb hlen,
    ofBits_serialBits_pair, UInt16.toBitVec_inj]

lemma byteBits_xor (a b : UInt8) :
    byteBits (a ^^^ b) = (byteBits a).zipWith xor (byteBits b) := by
  rw [byteBits, byteBits, byteBits, List.zipWith_map, List.zipWith_self]
  refine List.map_congr_left fun i _ => ?_
  rw [UInt8.toBitVec_xor, BitVec.getLsbD_xor]

lemma serialBits_xor {xs ys : List UInt8} (h : xs.length = ys.length) :
    serialBits (xs.zipWith (· ^^^ ·) ys) = (serialBits xs).zipWith xor (serialBits ys) := by
  induction xs generalizing ys with
  | nil => rfl
  | cons x xs ih =>
    cases ys with
    | nil => cases h
    | cons y ys =>
      have hlen : (byteBits x).length = (byteBits y).length := by
        rw [byteBits_length, byteBits_length]
      rw [List.zipWith_cons_cons, serialBits, List.flatMap_cons, serialBits, List.flatMap_cons,
        serialBits, List.flatMap_cons, List.zipWith_append hlen, byteBits_xor]
      exact congrArg _ (ih (Nat.succ.inj h))

lemma serialBits_length (bytes : List UInt8) : (serialBits bytes).length = 8 * bytes.length := by
  induction bytes with
  | nil => rfl
  | cons byte bytes ih =>
    rw [serialBits, List.flatMap_cons, List.length_append, byteBits_length, List.length_cons]
    change 8 + (serialBits bytes).length = _
    omega

/-! ### Bursts of errors -/

lemma fromRtuBytes_of_crc_ne {body : List UInt8} {lo hi : UInt8} (hlen : 2 ≤ body.length)
    (hcrc : crc16 body ≠ fromLeBytes lo hi) :
    ModbusMessage.fromRtuBytes (body ++ [lo, hi]) = .err .checksumError := by
  have hlo : (index (body ++ [lo, hi]) body.length : Fallible UInt8) = .ok lo :=
    index_append_add body _ 0
  have hhi : (index (body ++ [lo, hi]) (body.length + 1) : Fallible UInt8) = .ok hi :=
    index_append_add body _ 1
  have htotal : (body ++ [lo, hi]).length = body.length + 2 := by
    rw [List.length_append]
    rfl
  rw [ModbusMessage.fromRtuBytes, htotal, decide_eq_false (by omega), guardErr_false, ok_bind,
    Nat.add_sub_cancel]
  dsimp only
  rw [slice_append_left, ok_bind, hlo, ok_bind, hhi, ok_bind, bne_iff_ne.mpr hcrc]
  rfl

lemma exists_pair_of_length {frame : List UInt8} (h : 4 ≤ frame.length) :
    ∃ body lo hi, frame = body ++ [lo, hi] ∧ 2 ≤ body.length := by
  have htwo : (frame.drop (frame.length - 2)).length = 2 := by
    rw [List.length_drop]
    omega
  obtain ⟨lo, hi, hpair⟩ := List.length_eq_two.mp htwo
  refine ⟨frame.take (frame.length - 2), lo, hi, ?_, ?_⟩
  · rw [← hpair, List.take_append_drop]
  · rw [List.length_take]
    omega

/-- **CRC-16.** The table-driven checksum is the bit-by-bit one, and a burst of at most 16 bits
is detected in every frame. -/
theorem crc16_detects_bursts :
    (∀ data, crc16 data = bitwiseCrc16 data) ∧
      ∀ frame error, CrcValid frame → error.length = frame.length →
        Crc.IsBurst 16 (serialBits error) →
        ModbusMessage.fromRtuBytes (frame.zipWith (· ^^^ ·) error) = .err .checksumError := by
  refine ⟨crc16_eq_bitwise, ?_⟩
  rintro frame error ⟨body, hbody, rfl⟩ hlen hburst
  set received := (body ++ toLeBytes (crc16 body)).zipWith (· ^^^ ·) error with hreceived
  have hlen' : received.length = body.length + 2 := by
    rw [hreceived, List.length_zipWith, hlen, Nat.min_self, List.length_append, toLeBytes_length]
  -- the error alone decides where the register of the received frame ends
  have hvalid : Crc.run crcPolynomial 0xFFFF#16 (serialBits (body ++ toLeBytes (crc16 body))) =
      0#16 := by
    rw [toLeBytes, run_checksum_eq_zero, ← toLeBytes_eq_iff]
    rfl
  have hsame : (serialBits (body ++ toLeBytes (crc16 body))).length = (serialBits error).length := by
    rw [serialBits_length, serialBits_length, hlen]
  have hrun : Crc.run crcPolynomial 0xFFFF#16 (serialBits received) =
      Crc.run crcPolynomial 0#16 (serialBits error) := by
    rw [hreceived, serialBits_xor hlen.symm, ← BitVec.xor_zero (x := 0xFFFF#16),
      Crc.run_xor _ _ _ hsame, hvalid, BitVec.zero_xor]
  have hfour : 4 ≤ received.length := by omega
  obtain ⟨front, lo, hi, hsplit, hfront⟩ := exists_pair_of_length hfour
  rw [hsplit] at hrun ⊢
  refine fromRtuBytes_of_crc_ne hfront fun hcrc => ?_
  rw [(run_checksum_eq_zero front lo hi).mpr hcrc] at hrun
  exact Crc.run_burst_ne_zero crcPolynomial_msb hburst hrun.symm

/-- One bit of the checksum flipped. -/
theorem crc16_detects_flip :
    CrcValid ([0x01, 0x07] ++ toLeBytes (crc16 [0x01, 0x07])) ∧
      ModbusMessage.fromRtuBytes
        (([0x01, 0x07] ++ toLeBytes (crc16 [0x01, 0x07])).zipWith (· ^^^ ·)
          [0x00, 0x00, 0x01, 0x00]) = .err .checksumError := by
  have hvalid : CrcValid ([0x01, 0x07] ++ toLeBytes (crc16 [0x01, 0x07])) :=
    ⟨[0x01, 0x07], Nat.le_refl 2, rfl⟩
  have hburst : Crc.IsBurst 16 (serialBits [0x00, 0x00, 0x01, 0x00]) :=
    ⟨16, [true], 15, by decide, by decide, List.mem_singleton_self true⟩
  exact ⟨hvalid, crc16_detects_bursts.2 _ _ hvalid rfl hburst⟩

end ModbusRs
