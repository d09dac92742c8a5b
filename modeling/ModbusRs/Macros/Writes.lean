import ModbusRs.Macros.App

/-!
# Generated batch writes

The batch writes of derived maps and the handlers for FC0F, for FC10 and for the write part of
FC17 that `#[modbus_app]` and `#[async_modbus_app]` generate, with their batch hooks.
-/

namespace ModbusRs

open Outcome

/-! ### Writes of one map -/

/-- A loop over indices that returns early, and keeps what was written. -/
def eachIndex {σ : Type} (write : σ → Nat → Fallible σ) : List Nat → σ → Fallible Unit × σ
  | [], s => (.ok (), s)
  | i :: rest, s =>
    match write s i with
    | .ok s' => eachIndex write rest s'
    | .err e => (.err e, s)
    | .panic => (.panic, s)

lemma eachIndex_map {σ : Type} (write : σ → Nat → Fallible σ) (f : Nat → Nat) (l : List Nat)
    (s : σ) : eachIndex write (l.map f) s = eachIndex (fun s i => write s (f i)) l s := by
  induction l generalizing s with
  | nil => rfl
  | cons i l ih =>
    rw [List.map_cons, eachIndex, eachIndex]
    cases write s (f i) with
    | ok s' => exact ih s'
    | err e => rfl
    | panic => rfl

/-- An element put back to its place. -/
lemma set_self {τ : Type} {l : List τ} {k : Nat} {a : τ} (h : l[k]? = some a) : l.set k a = l := by
  obtain ⟨hk, rfl⟩ := List.getElem?_eq_some_iff.mp h
  exact List.set_getElem_self hk

namespace FieldMap

variable {α : Type} (m : FieldMap α)

/-- The addresses of the fields. -/
def addresses : List UInt16 := m.fields.map (·.1)

/-- The field at an address gets a value. -/
def set (address : UInt16) (value : α) : FieldMap α where
  fields := m.fields.map fun f => if f.1 = address then (f.1, value) else f
  nodup := by
    have hsame : ((fun f : UInt16 × α => f.1) ∘
        fun f => if f.1 = address then (f.1, value) else f) = fun f => f.1 := by
      funext f
      dsimp only [Function.comp_apply]
      split <;> rfl
    rw [List.map_map, hsame]
    exact m.nodup

/-- `write_single`. -/
def writeSingle (address : UInt16) (value : α) : Fallible (FieldMap α) :=
  match m.get address with
  | none => .err .invalidAddress
  | some _ => .ok (m.set address value)

/-- One round of `CoilMap::write_many_from_packed`. -/
def writePackedBit (address : UInt16) (values : List UInt8) (packedBitOffset : Nat)
    (m : FieldMap Bool) (i : Nat) : Fallible (FieldMap Bool) := do
  let absoluteBit := packedBitOffset + i
  guardErr (values.length ≤ absoluteBit / 8) .invalidByteCount
  let byte ← index values (absoluteBit / 8)
  m.writeSingle (address + UInt16.ofNat i) (byte &&& bitMask (absoluteBit % 8) != 0)

/-- `CoilMap::write_many_from_packed`. -/
def writeManyFromPacked (m : FieldMap Bool) (address quantity : UInt16) (values : List UInt8)
    (packedBitOffset : Nat) : Fallible Unit × FieldMap Bool :=
  if quantity = 0 then (.err .invalidQuantity, m)
  else if 65536 ≤ address.toNat + (quantity.toNat - 1) then (.err .invalidAddress, m)
  else if address < m.addrMin || m.addrMax < address + (quantity - 1) then
    (.err .invalidAddress, m)
  else eachIndex (writePackedBit address values packedBitOffset) (List.range quantity.toNat) m

/-- One round of `HoldingRegisterMap::write_many`. -/
def writeWord (address : UInt16) (values : List UInt16) (m : FieldMap UInt16) (i : Nat) :
    Fallible (FieldMap UInt16) := do
  guardErr (65536 ≤ address.toNat + (UInt16.ofNat i).toNat) .invalidAddress
  let value ← index values i
  m.writeSingle (address + UInt16.ofNat i) value

/-- `HoldingRegisterMap::write_many`. -/
def writeMany (m : FieldMap UInt16) (address : UInt16) (values : List UInt16) :
    Fallible Unit × FieldMap UInt16 :=
  if values.isEmpty then (.err .invalidQuantity, m)
  else eachIndex (writeWord address values) (List.range values.length) m

section

variable {α : Type} {m m' : FieldMap α} {address : UInt16} {value : α}

@[simp] lemma addresses_set : (m.set address value).addresses = m.addresses := by
  rw [addresses, addresses, set, List.map_map]
  refine List.map_congr_left fun f _ => ?_
  dsimp only [Function.comp_apply]
  split <;> rfl

lemma isSome_get : (m.get address).isSome = true ↔ address ∈ m.addresses := by
  rw [get, addresses]
  induction m.fields with
  | nil => simp
  | cons f fields ih =>
    rw [List.lookup_cons, List.map_cons, List.mem_cons]
    cases h : address == f.1 with
    | true => exact iff_of_true rfl (Or.inl (beq_iff_eq.mp h))
    | false =>
      rw [ih]
      exact (or_iff_right (beq_eq_false_iff_ne.mp h)).symm

/-- A write shows at its address and nowhere else. -/
lemma get_set (other : UInt16) : (m.set address value).get other =
    if other = address then (m.get address).map fun _ => value else m.get other := by
  rw [get, get, get]
  change (m.fields.map fun f => if f.1 = address then (f.1, value) else f).lookup other = _
  induction m.fields with
  | nil => split <;> rfl
  | cons f fields ih =>
    rw [List.map_cons, List.lookup_cons, List.lookup_cons, List.lookup_cons]
    by_cases hf : f.1 = address
    · rw [if_pos hf, hf]
      by_cases hother : other = address
      · rw [if_pos hother, hother]
        simp
      · rw [if_neg hother] at ih ⊢
        rw [beq_eq_false_iff_ne.mpr hother]
        exact ih
    · rw [if_neg hf]
      by_cases hother : other = address
      · rw [if_pos hother] at ih ⊢
        have hne : (address == f.1) = false := beq_eq_false_iff_ne.mpr fun h => hf h.symm
        rw [hother, hne]
        rw [hother] at ih
        exact ih
      · rw [if_neg hother] at ih ⊢
        rw [ih]

/-- An address without a field is not written. -/
lemma set_of_not_mem (h : address ∉ m.addresses) : m.set address value = m := by
  have hfields : (m.set address value).fields = m.fields := by
    rw [set]
    refine (List.map_congr_left fun f hf => ?_).trans (List.map_id _)
    exact if_neg fun heq => h (List.mem_map.mpr ⟨f, hf, heq⟩)
  cases m
  exact FieldMap.mk.injEq .. ▸ hfields

/-- The bounds of a map come from its addresses. -/
lemma bounds_congr (h : m'.addresses = m.addresses) :
    m'.addrMin = m.addrMin ∧ m'.addrMax = m.addrMax := by
  have haddresses : m'.fields.map (·.1.toNat) = m.fields.map (·.1.toNat) := by
    have hmap := congrArg (List.map UInt16.toNat) h
    rwa [addresses, addresses, List.map_map, List.map_map] at hmap
  rw [addrMin, addrMin, addrMax, addrMax, haddresses]
  exact ⟨rfl, rfl⟩

end

end FieldMap

/-! ### Writes of a group -/

/-- The function of the application that is asked before a part of a batch is written. -/
abbrev BatchHook (β : Type) : Type := UInt16 → UInt16 → List β → Except MbusError Unit

/-- The hook prelude, which computes the argument only for a hook. -/
def askHook {β : Type} (hook : Option (BatchHook β)) (cursor take : UInt16)
    (values : Fallible (List β)) : Fallible Unit :=
  match hook with
  | none => .ok ()
  | some batchFn => do
    let values ← values
    lift (batchFn cursor take values)

/-- A part of a batch goes to one map of the group. -/
def onMap {α : Type} (k : Nat) (write : FieldMap α → Fallible Unit × FieldMap α)
    (maps : List (FieldMap α)) : Fallible Unit × List (FieldMap α) :=
  match maps[k]? with
  | none => (.panic, maps)
  | some m => ((write m).1, maps.set k (write m).2)

/-- A hook that approves lets the part be written. -/
def askThen {α : Type} (asked : Fallible Unit)
    (write : List (FieldMap α) → Fallible Unit × List (FieldMap α))
    (maps : List (FieldMap α)) : Fallible Unit × List (FieldMap α) :=
  match asked with
  | .ok () => write maps
  | .err e => (.err e, maps)
  | .panic => (.panic, maps)

/-- One bit of the argument of a hook for coils. -/
def packBit (values : List UInt8) (bitOffset : Nat) (packed : List UInt8) (i : Nat) :
    Fallible (List UInt8) := do
  let srcPos := bitOffset + i
  let srcByte ← index values (srcPos / 8)
  let srcBit := (srcByte >>> UInt8.ofNat (srcPos % 8)) &&& 1
  let byte ← index packed (i / 8)
  pure (packed.set (i / 8) (byte ||| srcBit <<< UInt8.ofNat (i % 8)))

/-- The argument of a hook for coils. -/
def packBits (values : List UInt8) (bitOffset : Nat) (take : UInt16) : Fallible (List UInt8) := do
  let packedLen := (take.toNat + 7) / 8
  let packed ← (List.range take.toNat).foldlM (packBit values bitOffset)
    (List.replicate maxPduDataLen 0)
  slice packed 0 packedLen

/-- The maps of a group as segments, with their positions. -/
def groupSegments {α : Type} (maps : List (FieldMap α)) : List (Segment Nat) :=
  maps.mapIdx fun k m => ⟨m.addrMin, m.addrMax, k⟩

/-- The loop over the parts of an FC0F write. -/
def writeCoils (hook : Option (BatchHook UInt8)) (l : Layout Bool) (address quantity : UInt16)
    (values : List UInt8) : Fallible Unit × List (FieldMap Bool) :=
  segmentLoop (groupSegments l.maps)
    (fun k cursor take bitOffset =>
      askThen (askHook hook cursor take (packBits values bitOffset take))
        (onMap k fun m => m.writeManyFromPacked cursor take values bitOffset))
    (quantity.toNat + 1) address quantity 0 l.maps

/-- The loop over the parts of an FC10 write, for values whose number is a count. -/
def writeRegisters (hook : Option (BatchHook UInt16)) (l : Layout UInt16) (address : UInt16)
    (values : List UInt16) : Fallible Unit × List (FieldMap UInt16) :=
  segmentLoop (groupSegments l.maps)
    (fun k cursor take offset maps =>
      match slice (ε := MbusError) (values.drop offset) 0 take.toNat with
      | .ok part => askThen (askHook hook cursor take (.ok part))
          (onMap k fun m => m.writeMany cursor part) maps
      | _ => (.panic, maps))
    (values.length + 1) address (UInt16.ofNat values.length) 0 l.maps

/-- `write_multiple_coils_request`. -/
def ModbusApp.writeMultipleCoilsRequest (hook : Option (BatchHook UInt8)) (l : Layout Bool)
    (startingAddress quantity : UInt16) (values : List UInt8) :
    Fallible Unit × List (FieldMap Bool) :=
  if quantity = 0 then (.err .invalidQuantity, l.maps)
  else writeCoils hook l startingAddress quantity values

/-- `write_multiple_registers_request`. -/
def ModbusApp.writeMultipleRegistersRequest (hook : Option (BatchHook UInt16)) (l : Layout UInt16)
    (startingAddress : UInt16) (values : List UInt16) :
    Fallible Unit × List (FieldMap UInt16) :=
  if values.isEmpty then (.err .invalidQuantity, l.maps)
  else writeRegisters hook l startingAddress values

/-- The words of request bytes, with a byte that is left over dropped. -/
def decodeWords : List UInt8 → List UInt16
  | hi :: lo :: rest => fromBeBytes hi lo :: decodeWords rest
  | _ => []

/-- The registers that an async arm decodes into a vector of the given capacity. -/
def decodeRegisters (capacity : Nat) (count : UInt16) (data : List UInt8) : List UInt16 :=
  (decodeWords (data.take (min (count.toNat * 2) data.length))).take capacity

section

variable [Features]

/-- The response to a batch write. -/
def multiWriteResponse (fc : FunctionCode) (address count : UInt16) :
    Fallible Unit → Fallible ModbusResponse
  | .ok () => pure (.echoMultiWrite fc address count)
  | .err e => pure (.exception fc (mbusErrToException e))
  | .panic => .panic

/-- The arm of `WriteMultipleCoils`. -/
def writeMultipleCoilsArm (hook : Option (BatchHook UInt8)) (l : Layout Bool)
    (address count : UInt16) (data : List UInt8) :
    Fallible ModbusResponse × List (FieldMap Bool) :=
  if l.maps.isEmpty then (pure .noResponse, l.maps)
  else
    let (result, maps) := writeCoils hook l address count data
    (multiWriteResponse .writeMultipleCoils address count result, maps)

/-- The arm of `WriteMultipleRegisters`. -/
def writeMultipleRegistersArm (hook : Option (BatchHook UInt16)) (l : Layout UInt16)
    (address count : UInt16) (data : List UInt8) :
    Fallible ModbusResponse × List (FieldMap UInt16) :=
  if l.maps.isEmpty then (pure .noResponse, l.maps)
  else
    let (result, maps) := writeRegisters hook l address (decodeRegisters 125 count data)
    (multiWriteResponse .writeMultipleRegisters address count result, maps)

/-- The check of both quantities and the write phase of the arm of `ReadWriteMultipleRegisters`,
with the response where it ends there. -/
def readWriteWritePart (hook : Option (BatchHook UInt16)) (l : Layout UInt16)
    (readCount writeAddress writeCount : UInt16) (data : List UInt8) :
    Fallible (Option ModbusResponse) × List (FieldMap UInt16) :=
  if l.maps.isEmpty then (pure (some .noResponse), l.maps)
  else if !(1 ≤ writeCount && writeCount ≤ 121) || !(1 ≤ readCount && readCount ≤ 125) then
    (pure (some (.exception .readWriteMultipleRegisters .illegalDataValue)), l.maps)
  else
    match writeRegisters hook l writeAddress (decodeRegisters 121 writeCount data) with
    | (.ok (), maps) => (pure none, maps)
    | (.err e, maps) =>
      (pure (some (.exception .readWriteMultipleRegisters (mbusErrToException e))), maps)
    | (.panic, maps) => (.panic, maps)

end

end ModbusRs
