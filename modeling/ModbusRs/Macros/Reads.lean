import ModbusRs.Macros.Maps
import ModbusRs.Async.Requests

/-!
# Generated reads

`encode` of a derived map and the read handlers that `#[modbus_app]` and `#[async_modbus_app]`
generate. The handlers for coils and for discrete inputs are the same, and so are those for
holding registers and for input registers. A read succeeds for exactly the mapped ranges, with
the values in the order of their addresses, unless the range ends with the address space.
-/

namespace ModbusRs

open Outcome

namespace FieldMap

/-- The check of a range against the map. -/
def checkRange {α : Type} (m : FieldMap α) (address quantity : UInt16) : Fallible Unit :=
  guardErr (address.toNat < m.addrMin.toNat ||
    m.addrMax.toNat + 1 < address.toNat + quantity.toNat) .invalidAddress

/-- One round of `CoilMap::encode` and `DiscreteInputMap::encode`. -/
def encodeBit (m : FieldMap Bool) (address : UInt16) (out : List UInt8) (i : Nat) :
    Fallible (List UInt8) :=
  match m.get (UInt16.ofNat (address.toNat + i)) with
  | none => .err .invalidAddress
  | some true => do
    let byte ← index out (i / 8)
    pure (out.set (i / 8) (byte ||| bitMask (i % 8)))
  | some false => pure out

/-- `CoilMap::encode` and `DiscreteInputMap::encode`. -/
def encodeBits (m : FieldMap Bool) (address quantity : UInt16) (out : List UInt8) :
    Fallible (UInt8 × List UInt8) := do
  guardErr (quantity == 0) .invalidQuantity
  m.checkRange address quantity
  let byteLen := (quantity.toNat + 7) / 8
  guardErr (out.length < byteLen) .bufferTooSmall
  let out ← (List.range quantity.toNat).foldlM (m.encodeBit address)
    (List.replicate byteLen 0 ++ out.drop byteLen)
  pure (UInt8.ofNat byteLen, out)

/-- One round of `HoldingRegisterMap::encode` and `InputRegisterMap::encode`. -/
def encodeWord (m : FieldMap UInt16) (address : UInt16) (out : List UInt8) (i : Nat) :
    Fallible (List UInt8) :=
  match m.get (UInt16.ofNat (address.toNat + i)) with
  | none => .err .invalidAddress
  | some word => do
    let _ ← slice out (2 * i) (2 * i + 2)
    pure (out.take (2 * i) ++ toBeBytes word ++ out.drop (2 * i + 2))

/-- `HoldingRegisterMap::encode` and `InputRegisterMap::encode`. -/
def encodeWords (m : FieldMap UInt16) (address quantity : UInt16) (out : List UInt8) :
    Fallible (UInt8 × List UInt8) := do
  guardErr (quantity == 0) .invalidAddress
  m.checkRange address quantity
  let byteLen := quantity.toNat * 2
  guardErr (out.length < byteLen) .bufferTooSmall
  let out ← (List.range quantity.toNat).foldlM (m.encodeWord address) out
  pure (UInt8.ofNat byteLen, out)

end FieldMap

/-- One round of the copy of a segment to its place among the packed bits. -/
def copyBit (segment : List UInt8) (bitOffset : Nat) (out : List UInt8) (i : Nat) :
    Fallible (List UInt8) :=
  if bitAt segment i then do
    let byte ← index out ((bitOffset + i) / 8)
    pure (out.set ((bitOffset + i) / 8) (byte ||| bitMask ((bitOffset + i) % 8)))
  else pure out

/-- The segment of `build_segmented_coil_read_route` and of
`build_segmented_discrete_input_read_route`. -/
def readBits (m : FieldMap Bool) (cursor take : UInt16) (bitOffset : Nat) (out : List UInt8) :
    Fallible (List UInt8) := do
  let takeBytes := (take.toNat + 7) / 8
  let segment ← slice (List.replicate maxPduDataLen 0) 0 takeBytes
  let (encoded, segment) ← m.encodeBits cursor take segment
  guardErr (encoded.toNat != takeBytes) .invalidByteCount
  (List.range take.toNat).foldlM (copyBit segment bitOffset) out

/-- The segment of `build_segmented_read_route`, whose `write_offset` is twice the offset. -/
def readWords (m : FieldMap UInt16) (cursor take : UInt16) (offset : Nat) (out : List UInt8) :
    Fallible (List UInt8) := do
  let nextOffset := 2 * offset + take.toNat * 2
  let segment ← slice out (2 * offset) nextOffset
  let (_, segment) ← m.encodeWords cursor take segment
  pure (out.take (2 * offset) ++ segment ++ out.drop nextOffset)

/-- An error leaves the output to nobody. -/
def intoOutput {σ : Type} (out : σ) : Fallible σ → Fallible Unit × σ
  | .ok out' => (.ok (), out')
  | .err e => (.err e, out)
  | .panic => (.panic, out)

/-- The loops of the read handlers over a group of maps. -/
def readLoop {α : Type}
    (read : FieldMap α → UInt16 → UInt16 → Nat → List UInt8 → Fallible (List UInt8))
    (maps : List (FieldMap α)) (address quantity : UInt16) (out : List UInt8) :
    Fallible (List UInt8) := do
  let (result, out) := segmentLoop (mapSegments maps)
    (fun m cursor take offset out => intoOutput out (read m cursor take offset out))
    (quantity.toNat + 1) address quantity 0 out
  result
  pure out

/-- The body of `read_coils_request` and of `read_discrete_inputs_request`. -/
def readBitsRequest (l : Layout Bool) (address quantity : UInt16) (out : List UInt8) :
    Fallible (UInt8 × List UInt8) := do
  guardErr (quantity == 0) .invalidQuantity
  let totalBytes := (quantity.toNat + 7) / 8
  guardErr (out.length < totalBytes) .bufferTooSmall
  let out ← readLoop readBits l.maps address quantity
    (List.replicate totalBytes 0 ++ out.drop totalBytes)
  pure (UInt8.ofNat totalBytes, out)

/-- The body of `read_multiple_holding_registers_request` and of
`read_multiple_input_registers_request`. -/
def readWordsRequest (l : Layout UInt16) (address quantity : UInt16) (out : List UInt8) :
    Fallible (UInt8 × List UInt8) := do
  guardErr (quantity == 0) .invalidQuantity
  let totalBytes := quantity.toNat * 2
  guardErr (out.length < totalBytes) .bufferTooSmall
  let out ← readLoop readWords l.maps address quantity out
  pure (UInt8.ofNat totalBytes, out)

/-! ### The places of the values -/

/-- A bit joined to the packed bits. -/
def putBit (i : Nat) (value : Bool) (out : List UInt8) : List UInt8 :=
  if value then out.set (i / 8) (out.getD (i / 8) 0 ||| bitMask (i % 8)) else out

/-- A word at its place. -/
def putWord (i : Nat) (word : UInt16) (out : List UInt8) : List UInt8 :=
  out.take (2 * i) ++ toBeBytes word ++ out.drop (2 * i + 2)

lemma bitAt_replicate (n j : Nat) : bitAt (List.replicate n 0) j = false := by
  have hget : (List.replicate n (0 : UInt8)).getD (j / 8) 0 = 0 := by
    rw [List.getD_eq_getElem?_getD, List.getElem?_replicate]
    split <;> rfl
  rw [bitAt, hget, UInt8.zero_and]
  rfl

@[simp] lemma length_putBit (i : Nat) (value : Bool) (out : List UInt8) :
    (putBit i value out).length = out.length := by
  rw [putBit]
  split
  · exact List.length_set
  · rfl

lemma length_putWord {i : Nat} {out : List UInt8} (hi : 2 * i + 2 ≤ out.length) (word : UInt16) :
    (putWord i word out).length = out.length := by
  rw [putWord, List.length_append, List.length_append, List.length_take, List.length_drop,
    toBeBytes_length]
  omega

lemma bitAt_putBit {i : Nat} {out : List UInt8} (hi : i / 8 < out.length) (value : Bool)
    (j : Nat) : bitAt (putBit i value out) j =
      if j = i then bitAt out j || value else bitAt out j := by
  cases value with
  | false =>
    rw [Bool.or_false, ite_self]
    rfl
  | true =>
    rw [Bool.or_true]
    exact @bitAt_writeBit out _ i true hi rfl j

lemma length_place_putBit (values : List Bool) (offset : Nat) (out : List UInt8) :
    (place putBit offset values out).length = out.length := by
  induction values generalizing offset out with
  | nil => rfl
  | cons v values ih => rw [place, ih, length_putBit]

/-- The bits from the offset on are joined with the values. -/
lemma bitAt_place_putBit {values : List Bool} {offset : Nat} {out : List UInt8}
    (hout : offset + values.length ≤ 8 * out.length) (j : Nat) :
    bitAt (place putBit offset values out) j =
      if offset ≤ j then bitAt out j || values.getD (j - offset) false else bitAt out j := by
  induction values generalizing offset out with
  | nil =>
    rw [List.getD_nil, Bool.or_false, ite_self]
    rfl
  | cons v values ih =>
    rw [List.length_cons] at hout
    have hbyte : offset / 8 < out.length := by omega
    rw [place, ih (by rw [length_putBit]; omega), bitAt_putBit hbyte]
    by_cases hlt : j < offset
    · rw [if_neg (by omega), if_neg (by omega), if_neg (by omega)]
    by_cases heq : j = offset
    · subst heq
      rw [if_neg (by omega), if_pos rfl, if_pos le_rfl, Nat.sub_self, List.getD_cons_zero]
    · obtain ⟨n, hn⟩ : ∃ n, j - offset = n + 1 := ⟨j - offset - 1, by omega⟩
      have hrest : j - (offset + 1) = n := by omega
      rw [if_pos (by omega), if_neg heq, if_pos (by omega), hn, hrest, List.getD_cons_succ]

/-- The words stand one after the other. -/
lemma place_putWord {words : List UInt16} {offset : Nat} {out : List UInt8}
    (hout : 2 * (offset + words.length) ≤ out.length) :
    place putWord offset words out = out.take (2 * offset) ++ words.flatMap toBeBytes ++
      out.drop (2 * (offset + words.length)) := by
  induction words generalizing offset out with
  | nil => rw [place, List.flatMap_nil, List.append_nil, List.length_nil, Nat.add_zero,
      List.take_append_drop]
  | cons word words ih =>
    rw [List.length_cons] at hout
    have hword : 2 * offset + 2 ≤ out.length := by omega
    have hfront : (out.take (2 * offset) ++ toBeBytes word).length = 2 * (offset + 1) := by
      rw [List.length_append, List.length_take, toBeBytes_length]
      omega
    rw [place, ih (by rw [length_putWord hword]; omega), putWord, List.take_left' hfront,
      List.flatMap_cons, List.length_cons]
    have hback : (out.take (2 * offset) ++ toBeBytes word ++ out.drop (2 * offset + 2)).drop
        (2 * (offset + 1 + words.length)) = out.drop (2 * (offset + (words.length + 1))) := by
      rw [List.drop_append, hfront, List.drop_eq_nil_of_le (by omega), List.drop_drop,
        List.nil_append]
      congr 1
      omega
    rw [hback, List.append_assoc (out.take _)]

/-! ### What a segment reads -/

section

variable {cursor take : UInt16} (htake : 0 < take.toNat)

include htake

lemma FieldMap.checkRange_eq_ok {α : Type} {m : FieldMap α}
    (hfirst : m.addrMin.toNat ≤ cursor.toNat)
    (hend : cursor.toNat + take.toNat ≤ m.addrMax.toNat + 1) :
    (take == 0) = false ∧ m.checkRange cursor take = .ok () := by
  refine ⟨beq_eq_false_iff_ne.mpr fun hzero => ?_, ?_⟩
  · rw [hzero] at htake
    exact absurd htake (Nat.lt_irrefl 0)
  · rw [checkRange]
    refine Outcome.guardErr_eq_ok.mpr ?_
    rw [Bool.or_eq_false_iff, decide_eq_false_iff_not, decide_eq_false_iff_not]
    omega

lemma FieldMap.encodeWords_eq {m : FieldMap UInt16} {segment : List UInt8}
    (hfirst : m.addrMin.toNat ≤ cursor.toNat)
    (hend : cursor.toNat + take.toNat ≤ m.addrMax.toNat + 1)
    (hsegment : segment.length = 2 * take.toNat) :
    m.encodeWords cursor take segment =
      found ((collect (fun a => m.get (UInt16.ofNat a)) take.toNat cursor.toNat).map fun words =>
        (UInt8.ofNat (take.toNat * 2), words.flatMap toBeBytes)) := by
  obtain ⟨hne, hrange⟩ := checkRange_eq_ok htake hfirst hend
  have hround : ∀ i < take.toNat, ∀ out : List UInt8, out.length = segment.length →
      m.encodeWord cursor out i = found ((m.get (UInt16.ofNat (cursor.toNat + i))).map fun word =>
        putWord (0 + i) word out) := by
    intro i hi out hout
    rw [encodeWord, Nat.zero_add]
    cases m.get (UInt16.ofNat (cursor.toNat + i)) with
    | none => rfl
    | some word =>
      dsimp only
      rw [slice_of_le (by omega) (by omega)]
      rfl
  have hput : ∀ i < take.toNat, ∀ word (out : List UInt8), out.length = segment.length →
      (putWord (0 + i) word out).length = segment.length := by
    intro i hi word out hout
    rw [length_putWord (by omega), hout]
  rw [encodeWords, hne, hrange]
  change (guardErr (decide (segment.length < take.toNat * 2)) _ >>= _) = _
  rw [decide_eq_false (by omega)]
  change ((List.range take.toNat).foldlM (m.encodeWord cursor) segment >>= _) = _
  rw [foldlM_put (fun a => m.get (UInt16.ofNat a)) hround hput rfl]
  cases hcollect : collect (fun a => m.get (UInt16.ofNat a)) take.toNat cursor.toNat with
  | none => rfl
  | some words =>
    have hlength := (collect_eq_some hcollect).1
    rw [Option.map_some, place_putWord (by omega), Nat.mul_zero, List.take_zero, List.nil_append,
      List.drop_eq_nil_of_le (by omega), List.append_nil]
    rfl

lemma FieldMap.encodeBits_eq {m : FieldMap Bool} {segment : List UInt8}
    (hfirst : m.addrMin.toNat ≤ cursor.toNat)
    (hend : cursor.toNat + take.toNat ≤ m.addrMax.toNat + 1)
    (hsegment : segment.length = (take.toNat + 7) / 8) :
    m.encodeBits cursor take segment =
      found ((collect (fun a => m.get (UInt16.ofNat a)) take.toNat cursor.toNat).map fun bits =>
        (UInt8.ofNat ((take.toNat + 7) / 8),
          place putBit 0 bits (List.replicate ((take.toNat + 7) / 8) 0))) := by
  obtain ⟨hne, hrange⟩ := checkRange_eq_ok htake hfirst hend
  have hround : ∀ i < take.toNat, ∀ out : List UInt8, out.length = segment.length →
      m.encodeBit cursor out i = found ((m.get (UInt16.ofNat (cursor.toNat + i))).map fun bit =>
        putBit (0 + i) bit out) := by
    intro i hi out hout
    rw [encodeBit, Nat.zero_add]
    cases m.get (UInt16.ofNat (cursor.toNat + i)) with
    | none => rfl
    | some bit =>
      cases bit with
      | false => rfl
      | true =>
        have hbyte : i / 8 < out.length := by omega
        dsimp only
        rw [index_of_lt hbyte, Option.map_some, putBit, if_pos rfl, List.getD_eq_getElem?_getD,
          List.getElem?_eq_getElem hbyte]
        rfl
  have hput : ∀ i < take.toNat, ∀ bit (out : List UInt8), out.length = segment.length →
      (putBit (0 + i) bit out).length = segment.length := by
    intro i _ bit out hout
    rw [length_putBit, hout]
  rw [encodeBits, hne, hrange]
  change (guardErr (decide (segment.length < (take.toNat + 7) / 8)) _ >>= _) = _
  rw [decide_eq_false (by omega)]
  change ((List.range take.toNat).foldlM (m.encodeBit cursor)
    (List.replicate ((take.toNat + 7) / 8) 0 ++ segment.drop ((take.toNat + 7) / 8)) >>= _) = _
  rw [List.drop_eq_nil_of_le (by omega), List.append_nil,
    foldlM_put (fun a => m.get (UInt16.ofNat a)) hround hput
      (by rw [List.length_replicate, hsegment])]
  cases collect (fun a => m.get (UInt16.ofNat a)) take.toNat cursor.toNat <;> rfl

omit htake in
/-- In the addresses of a map the layout has the fields of the map. -/
lemma Layout.collect_eq {α : Type} {l : Layout α} {m : FieldMap α} (hm : m ∈ l.maps)
    (hfirst : m.addrMin.toNat ≤ cursor.toNat)
    (hend : cursor.toNat + take.toNat ≤ m.addrMax.toNat + 1) :
    collect (fun a => m.get (UInt16.ofNat a)) take.toNat cursor.toNat =
      collect l.get take.toNat cursor.toNat :=
  collect_congr fun i hi => (get_eq hm (by omega) (by omega)).symm

lemma readWords_eq {l : Layout UInt16} {m : FieldMap UInt16} (hm : m ∈ l.maps)
    (hfirst : m.addrMin.toNat ≤ cursor.toNat)
    (hend : cursor.toNat + take.toNat ≤ m.addrMax.toNat + 1) {offset : Nat} {out : List UInt8}
    (hout : 2 * (offset + take.toNat) ≤ out.length) :
    readWords m cursor take offset out =
      found ((collect l.get take.toNat cursor.toNat).map fun words =>
        place putWord offset words out) := by
  rw [readWords, slice_of_le (by omega) (by omega), Outcome.ok_bind,
    m.encodeWords_eq htake hfirst hend (by rw [List.length_drop, List.length_take]; omega),
    Layout.collect_eq hm hfirst hend]
  cases hcollect : collect l.get take.toNat cursor.toNat with
  | none => rfl
  | some words =>
    have hlength := (collect_eq_some hcollect).1
    rw [Option.map_some, Option.map_some, place_putWord (by omega), hlength, Nat.mul_add,
      Nat.mul_comm 2 take.toNat]
    rfl

/-- The bits of a segment come to the places from the offset on. -/
lemma readBits_eq {l : Layout Bool} {m : FieldMap Bool} (hm : m ∈ l.maps)
    (hfirst : m.addrMin.toNat ≤ cursor.toNat)
    (hend : cursor.toNat + take.toNat ≤ m.addrMax.toNat + 1) {offset : Nat} {out : List UInt8}
    (hout : offset + take.toNat ≤ 8 * out.length) (hsmall : take.toNat ≤ 8 * maxPduDataLen) :
    readBits m cursor take offset out =
      found ((collect l.get take.toNat cursor.toNat).map fun bits =>
        place putBit offset bits out) := by
  have hbytes : (take.toNat + 7) / 8 ≤ 252 := by
    change _ ≤ 8 * 252 at hsmall
    omega
  rw [readBits, slice_of_le (Nat.zero_le _) (by rw [List.length_replicate]; exact hbytes),
    Outcome.ok_bind, m.encodeBits_eq htake hfirst hend, Layout.collect_eq hm hfirst hend]
  · cases hcollect : collect l.get take.toNat cursor.toNat with
    | none => rfl
    | some bits =>
      obtain ⟨hlength, -⟩ := collect_eq_some hcollect
      have hcount : (UInt8.ofNat ((take.toNat + 7) / 8)).toNat = (take.toNat + 7) / 8 := by
        rw [UInt8.toNat_ofNat']
        omega
      rw [Option.map_some, Option.map_some, found, Outcome.ok_bind]
      change (guardErr ((UInt8.ofNat ((take.toNat + 7) / 8)).toNat != (take.toNat + 7) / 8) _ >>=
        _) = _
      rw [hcount, bne_self_eq_false]
      change (List.range take.toNat).foldlM (copyBit (place putBit 0 bits
        (List.replicate ((take.toNat + 7) / 8) 0)) offset) out = _
      have hbit : ∀ i < take.toNat, bitAt (place putBit 0 bits
          (List.replicate ((take.toNat + 7) / 8) 0)) i = bits.getD i false := by
        intro i hi
        rw [bitAt_place_putBit (by rw [List.length_replicate]; omega), if_pos (Nat.zero_le i),
          Nat.sub_zero, bitAt_replicate, Bool.false_or]
      have hround : ∀ i < take.toNat, ∀ out' : List UInt8, out'.length = out.length →
          copyBit (place putBit 0 bits (List.replicate ((take.toNat + 7) / 8) 0)) offset out' i =
            found (([] ++ bits)[0 + i]?.map fun bit => putBit (offset + i) bit out') := by
        intro i hi out' hout'
        have hbyte : (offset + i) / 8 < out'.length := by omega
        have hi' : i < bits.length := by omega
        rw [copyBit, hbit i hi, Nat.zero_add, List.nil_append, List.getD_eq_getElem?_getD,
          List.getElem?_eq_getElem hi', Option.getD_some, Option.map_some, found, putBit]
        cases bits[i] with
        | false => rfl
        | true =>
          rw [if_pos rfl, if_pos rfl, index_of_lt hbyte, List.getD_eq_getElem?_getD,
            List.getElem?_eq_getElem hbyte]
          rfl
      have hput : ∀ i < take.toNat, ∀ bit (out' : List UInt8), out'.length = out.length →
          (putBit (offset + i) bit out').length = out.length := by
        intro i _ bit out' hout'
        rw [length_putBit, hout']
      have hall := collect_getElem? [] bits
      rw [List.length_nil, hlength] at hall
      rw [foldlM_put (fun i => ([] ++ bits)[i]?) hround hput rfl, hall]
      rfl
  · rw [List.length_drop, List.length_take, List.length_replicate]
    change min _ 252 - 0 = _
    omega

end

/-- A loop whose segments put the values of their addresses to their places. -/
theorem readLoop_eq_ok {α : Type} {l : Layout α} {put : Nat → α → List UInt8 → List UInt8}
    {read : FieldMap α → UInt16 → UInt16 → Nat → List UInt8 → Fallible (List UInt8)}
    {limit : Nat} {out : List UInt8}
    (hread : ∀ m ∈ l.maps, ∀ (cursor take : UInt16) (offset : Nat) (out' : List UInt8),
      out'.length = out.length → m.addrMin.toNat ≤ cursor.toNat →
      cursor.toNat + take.toNat ≤ m.addrMax.toNat + 1 → 0 < take.toNat →
      offset + take.toNat ≤ limit → read m cursor take offset out' =
        found ((collect l.get take.toNat cursor.toNat).map fun values =>
          place put offset values out'))
    (hput : ∀ i < limit, ∀ v (out' : List UInt8), out'.length = out.length →
      (put i v out').length = out.length)
    {address quantity : UInt16} (hquantity : quantity.toNat ≤ limit) {out' : List UInt8} :
    readLoop read l.maps address quantity out = .ok out' ↔
      (quantity = 0 ∨ address.toNat + quantity.toNat < 65536) ∧
        ∃ values, collect l.get quantity.toNat address.toNat = some values ∧
          place put 0 values out = out' := by
  have hserve : ∀ seg ∈ mapSegments l.maps, ∀ (cursor remaining : UInt16) (offset : Nat)
      (s : List UInt8), s.length = out.length → True → seg.contains cursor = true →
      0 < remaining.toNat → offset + remaining.toNat ≤ limit →
      Follows False (intoOutput s (read seg.target cursor (seg.take cursor remaining) offset s))
        (walk (fun a i s => (l.get a).map fun v => put i v s) (seg.take cursor remaining).toNat
          cursor.toNat offset s) := by
    intro seg hseg cursor remaining offset s hs _ hcontains hpos hlimit
    have htake := Segment.toNat_take hcontains remaining
    rw [Segment.contains_iff] at hcontains
    obtain ⟨m, hm, rfl⟩ := List.mem_map.mp hseg
    generalize Segment.take _ cursor remaining = take at htake ⊢
    have hwalk := walk_put l.get put take.toNat cursor.toNat offset s
    dsimp only at htake hcontains
    rw [hread m hm cursor take offset s hs hcontains.1 (by omega) (by omega) (by omega)]
    cases hcollect : collect l.get take.toNat cursor.toNat with
    | none =>
      rw [hcollect] at hwalk
      exact ⟨iff_of_false nofun (Bool.not_eq_true _ ▸ hwalk),
        fun h => h.elim (fun h => absurd (hwalk.symm.trans h) Bool.false_ne_true) False.elim⟩
    | some values =>
      rw [hcollect] at hwalk
      dsimp only at hwalk
      rw [hwalk]
      exact ⟨iff_of_true rfl rfl, fun _ => rfl⟩
  have hgap : ∀ address offset (s : List UInt8),
      (∀ seg ∈ mapSegments l.maps, address < seg.first.toNat ∨ seg.last.toNat < address) →
      ((l.get address).map fun v => put offset v s) = none := by
    intro address offset s h
    rw [Layout.get_eq_none fun m hm => h _ (List.mem_map_of_mem hm)]
    rfl
  have hitem : ∀ address offset (s s' : List UInt8), offset < limit → s.length = out.length →
      ((l.get address).map fun v => put offset v s) = some s' → s'.length = out.length := by
    intro address offset s s' hoffset hs h
    obtain ⟨v, _, rfl⟩ := Option.map_eq_some_iff.mp h
    exact hput offset hoffset v s hs
  have hlimit : 0 + quantity.toNat ≤ limit := by omega
  obtain ⟨hok, hstate⟩ := segmentLoop_follows
    (fun m cursor take offset s => intoOutput s (read m cursor take offset s)) hserve
    (fun _ _ _ _ _ _ _ _ => trivial) hgap hitem address quantity rfl trivial
    (Nat.lt_succ_self _) hlimit
  have hwalk := walk_put l.get put quantity.toNat address.toNat 0 out
  rw [readLoop]
  generalize segmentLoop (mapSegments l.maps) _ _ address quantity 0 out = loop at hok hstate
  obtain ⟨result, out''⟩ := loop
  dsimp only at hok hstate ⊢
  rw [Outcome.bind_eq_ok]
  cases hcollect : collect l.get quantity.toNat address.toNat with
  | none =>
    rw [hcollect] at hwalk
    refine iff_of_false ?_ (fun ⟨_, _, h, _⟩ => nomatch h)
    rintro ⟨u, hresult, _⟩
    exact Bool.false_ne_true (hwalk.symm.trans (hok.mp hresult).2)
  | some values =>
    rw [hcollect] at hwalk
    dsimp only at hwalk
    rw [hwalk] at hok hstate
    have hout : out'' = place put 0 values out := hstate (Or.inl rfl)
    constructor
    · rintro ⟨u, hresult, hpure⟩
      cases hpure
      exact ⟨(hok.mp hresult).1, values, rfl, hout.symm⟩
    · rintro ⟨hend, values', hvalues, rfl⟩
      cases hvalues
      exact ⟨(), hok.mpr ⟨hend, rfl⟩, congrArg Outcome.ok hout⟩

/-! ### The async handler -/

/-- `mbus_err_to_exception`. -/
def mbusErrToException : MbusError → ExceptionCode
  | .invalidAddress | .invalidSlaveAddress => .illegalDataAddress
  | .invalidQuantity | .invalidByteCount | .invalidValue => .illegalDataValue
  | _ => .serverDeviceFailure

section

variable [Features]

/-- The response of a read arm. -/
def readResponse (fc : FunctionCode) (totalBytes : Nat) :
    Fallible (List UInt8) → Fallible ModbusResponse
  | .ok out => do
    let bytes ← slice out 0 totalBytes
    pure (.packedBits fc bytes)
  | .err e => pure (.exception fc (mbusErrToException e))
  | .panic => .panic

/-- The arms of `ReadCoils` and `ReadDiscreteInputs`, which a group without maps does not have. -/
def readBitsArm (fc : FunctionCode) (l : Layout Bool) (address count : UInt16) :
    Fallible ModbusResponse :=
  if l.maps.isEmpty then pure .noResponse
  else do
    let totalBytes := (count.toNat + 7) / 8
    let out := List.replicate maxPduDataLen 0
    let _ ← slice out 0 totalBytes
    readResponse fc totalBytes (readLoop readBits l.maps address count out)

/-- The arms of `ReadHoldingRegisters` and `ReadInputRegisters`. -/
def readWordsArm (fc : FunctionCode) (l : Layout UInt16) (address count : UInt16) :
    Fallible ModbusResponse :=
  if l.maps.isEmpty then pure .noResponse
  else readResponse fc (count.toNat * 2)
    (readLoop readWords l.maps address count (List.replicate maxPduDataLen 0))

end

end ModbusRs
