import ModbusRs.Async.Session
import ModbusRs.Macros.BatchWalk

/-!
# The generated async handler

`AsyncAppHandler::handle` of a struct with `#[async_modbus_app]`, arm by arm, and the single
writes with their hooks. A request changes the values of the maps and never their addresses, so
the handler takes an application to an application.
-/

namespace ModbusRs

open Outcome

/-! ### Hooks -/

/-- The function of the application that is asked before a write of one value. -/
abbrev WriteHook (α : Type) : Type := UInt16 → α → α → Except MbusError Unit

/-- The hooks of a group: `on_batch_write`, the `on_write_N` by their addresses, and
`is_batch_notified` of the maps by their positions. -/
structure GroupHooks (β α : Type) where
  onBatchWrite : Option (BatchHook β)
  onWrite : List (UInt16 × WriteHook α)
  isBatchNotified : Nat → UInt16 → Bool

/-- The hooks of an application. -/
structure AppHooks where
  coils : GroupHooks UInt8 Bool
  holdingRegisters : GroupHooks UInt16 UInt16

/-- `__old_val` of a coil. An error of `encode` leaves the buffer clear. -/
def oldCoil (m : FieldMap Bool) (address : UInt16) : Fallible Bool :=
  match m.encodeBits address 1 [0] with
  | .ok (_, buf) => do
    let byte ← index buf 0
    pure (byte &&& 1 != 0)
  | .err _ => pure false
  | .panic => .panic

/-- `__old_val` of a register. -/
def oldRegister (m : FieldMap UInt16) (address : UInt16) : Fallible UInt16 :=
  match m.encodeWords address 1 [0, 0] with
  | .ok (_, buf) => do
    let hi ← index buf 0
    let lo ← index buf 1
    pure (fromBeBytes hi lo)
  | .err _ => pure 0
  | .panic => .panic

/-- The hook arms and the batch notification before a write of one value. -/
def GroupHooks.ask {β α : Type} (hooks : GroupHooks β α)
    (old : FieldMap α → UInt16 → Fallible α) (packed : α → β) (k : Nat) (m : FieldMap α)
    (address : UInt16) (value : α) : Fallible Unit :=
  match hooks.onWrite.lookup address with
  | some hook => do
    let oldValue ← old m address
    lift (hook address oldValue value)
  | none =>
    if hooks.isBatchNotified k address then
      askHook hooks.onBatchWrite address 1 (.ok [packed value])
    else .ok ()

/-! ### Writes of one value -/

/-- A write that goes to the first map whose range has the address. -/
def routeOne {α : Type} (l : Layout α) (address : UInt16)
    (write : Nat → FieldMap α → Fallible (FieldMap α)) : Fallible Unit × List (FieldMap α) :=
  match (groupSegments l.maps).find? (·.contains address) with
  | none => (.err .invalidAddress, l.maps)
  | some seg => onMap seg.target (fun m => intoOutput m (write seg.target m)) l.maps

/-- The body of a write of one value that asks the hooks. -/
def GroupHooks.writeOne {β α : Type} (hooks : GroupHooks β α)
    (old : FieldMap α → UInt16 → Fallible α) (packed : α → β) (address : UInt16) (value : α)
    (k : Nat) (m : FieldMap α) : Fallible (FieldMap α) := do
  hooks.ask old packed k m address value
  m.writeSingle address value

/-- `write_coil_request`, and the loop of the arm of `WriteSingleCoil`. -/
def writeOneCoil (hooks : GroupHooks UInt8 Bool) (l : Layout Bool) (address : UInt16)
    (value : Bool) : Fallible Unit × List (FieldMap Bool) :=
  routeOne l address (hooks.writeOne oldCoil (fun value => if value then 1 else 0) address value)

/-- `write_single_register_request`, and the loop of the arm of `WriteSingleRegister`. -/
def writeOneRegister (hooks : GroupHooks UInt16 UInt16) (l : Layout UInt16)
    (address value : UInt16) : Fallible Unit × List (FieldMap UInt16) :=
  routeOne l address (hooks.writeOne oldRegister id address value)

/-- The value that a mask leaves. -/
def maskedWord (old andMask orMask : UInt16) : UInt16 :=
  (old &&& andMask) ||| (orMask &&& ~~~andMask)

/-- `build_async_mask_write_register_route`, which asks no hook. -/
def maskRegister (l : Layout UInt16) (address andMask orMask : UInt16) :
    Fallible Unit × List (FieldMap UInt16) :=
  routeOne l address fun _ m => do
    let (_, buf) ← m.encodeWords address 1 [0, 0]
    let hi ← index buf 0
    let lo ← index buf 1
    m.writeSingle address (maskedWord (fromBeBytes hi lo) andMask orMask)

/-! ### The arms -/

section

variable [Features]

/-- The response to a write. -/
def writeResponse (fc : FunctionCode) (echo : ModbusResponse) :
    Fallible Unit → Fallible ModbusResponse
  | .ok () => pure echo
  | .err e => pure (.exception fc (mbusErrToException e))
  | .panic => .panic

/-- An arm that writes to a group, which a group without maps does not have. -/
def writeArm {α : Type} (fc : FunctionCode) (echo : ModbusResponse) (l : Layout α)
    (written : Fallible Unit × List (FieldMap α)) :
    Fallible ModbusResponse × List (FieldMap α) :=
  if l.maps.isEmpty then (pure .noResponse, l.maps)
  else (writeResponse fc echo written.1, written.2)

/-- The arm of `WriteSingleCoil`. -/
def writeSingleCoilArm (hooks : GroupHooks UInt8 Bool) (l : Layout Bool) (address : UInt16)
    (value : Bool) : Fallible ModbusResponse × List (FieldMap Bool) :=
  writeArm .writeSingleCoil (.ofCoil address value) l (writeOneCoil hooks l address value)

/-- The arm of `WriteSingleRegister`. -/
def writeSingleRegisterArm (hooks : GroupHooks UInt16 UInt16) (l : Layout UInt16)
    (address value : UInt16) : Fallible ModbusResponse × List (FieldMap UInt16) :=
  writeArm .writeSingleRegister (.echoRegister address value) l
    (writeOneRegister hooks l address value)

/-- The arm of `MaskWriteRegister`. -/
def maskWriteRegisterArm (l : Layout UInt16) (address andMask orMask : UInt16) :
    Fallible ModbusResponse × List (FieldMap UInt16) :=
  writeArm .maskWriteRegister (.echoMaskWrite address andMask orMask) l
    (maskRegister l address andMask orMask)

/-- The arm of `ReadWriteMultipleRegisters`, which reads what the write left. -/
def readWriteMultipleRegistersArm (hook : Option (BatchHook UInt16)) (l : Layout UInt16)
    (readAddress readCount writeAddress writeCount : UInt16) (data : List UInt8) :
    Fallible ModbusResponse × List (FieldMap UInt16) :=
  match readWriteWritePart hook l readCount writeAddress writeCount data with
  | (.ok none, maps) =>
    (readResponse .readWriteMultipleRegisters (readCount.toNat * 2)
      (readLoop readWords maps readAddress readCount (List.replicate maxPduDataLen 0)), maps)
  | (.ok (some response), maps) => (pure response, maps)
  | (.err e, maps) => (.err e, maps)
  | (.panic, maps) => (.panic, maps)

end

/-! ### What writes leave as it is -/

section

variable {α : Type} {l : Layout α} {maps : List (FieldMap α)}

/-- A loop over segments keeps what each of them keeps. -/
lemma segmentLoop_keeps {β σ : Type} {segments : List (Segment β)}
    {serve : β → UInt16 → UInt16 → Nat → σ → Fallible Unit × σ} {P : σ → Prop}
    (hserve : ∀ target cursor take offset s, P s → P (serve target cursor take offset s).2)
    {fuel : Nat} (cursor remaining : UInt16) (offset : Nat) {s : σ} (hs : P s) :
    P (segmentLoop segments serve fuel cursor remaining offset s).2 := by
  induction fuel generalizing cursor remaining offset s with
  | zero => exact hs
  | succ fuel ih =>
    rw [segmentLoop]
    split
    · exact hs
    cases segments.find? (·.contains cursor) with
    | none => exact hs
    | some seg =>
      dsimp only
      have hnext := hserve seg.target cursor (seg.take cursor remaining) offset s hs
      generalize serve seg.target cursor (seg.take cursor remaining) offset s = served at hnext
      obtain ⟨result, s'⟩ := served
      cases result with
      | ok u =>
        dsimp only
        split
        · apply ih
          exact hnext
        · exact hnext
      | err e => exact hnext
      | panic => exact hnext

lemma eachIndex_keeps {σ : Type} {write : σ → Nat → Fallible σ} {P : σ → Prop}
    (hwrite : ∀ s i s', P s → write s i = .ok s' → P s') (indices : List Nat) {s : σ} (hs : P s) :
    P (eachIndex write indices s).2 := by
  induction indices generalizing s with
  | nil => exact hs
  | cons i rest ih =>
    rw [eachIndex]
    cases h : write s i with
    | ok s' =>
      apply ih
      exact hwrite s i s' hs h
    | err e => exact hs
    | panic => exact hs

namespace FieldMap

variable {m m' : FieldMap α} {address : UInt16} {value : α}

lemma addresses_writeSingle (h : m.writeSingle address value = .ok m') :
    m'.addresses = m.addresses := by
  rw [writeSingle_of_mem (mem_of_writeSingle h)] at h
  cases h
  exact addresses_set

lemma map_bounds_congr {maps maps' : List (FieldMap α)}
    (h : maps.map (·.addresses) = maps'.map (·.addresses)) :
    (maps.map fun m => (m.addrMin, m.addrMax)) = maps'.map fun m => (m.addrMin, m.addrMax) := by
  refine List.ext_getElem? fun k => ?_
  have hk := congrArg (·[k]?) h
  simp only [List.getElem?_map] at hk ⊢
  cases hm : maps[k]? with
  | none =>
    rw [hm] at hk
    rw [Option.map_eq_none_iff.mp hk.symm]
  | some m =>
    rw [hm] at hk
    obtain ⟨m', hm', haddresses⟩ := Option.map_eq_some_iff.mp hk.symm
    obtain ⟨hmin, hmax⟩ := bounds_congr haddresses
    rw [hm', Option.map_some, Option.map_some, hmin, hmax]

lemma addresses_intoOutput {result : Fallible (FieldMap α)}
    (h : ∀ m', result = .ok m' → m'.addresses = m.addresses) :
    (intoOutput m result).2.addresses = m.addresses := by
  cases result with
  | ok m' => exact h m' rfl
  | err e => rfl
  | panic => rfl

lemma addresses_writeManyFromPacked {m : FieldMap Bool} {address quantity : UInt16}
    {values : List UInt8} {packedBitOffset : Nat} :
    (m.writeManyFromPacked address quantity values packedBitOffset).2.addresses =
      m.addresses := by
  rw [writeManyFromPacked]
  split
  · rfl
  split
  · rfl
  split
  · rfl
  refine eachIndex_keeps (P := fun m' : FieldMap Bool => m'.addresses = m.addresses) ?_ _ rfl
  intro m₁ i m₂ hm₁ h
  rw [writePackedBit, Outcome.bind_eq_ok] at h
  obtain ⟨_, _, h⟩ := h
  rw [Outcome.bind_eq_ok] at h
  obtain ⟨_, _, h⟩ := h
  exact (addresses_writeSingle h).trans hm₁

lemma addresses_writeMany {m : FieldMap UInt16} {address : UInt16} {values : List UInt16} :
    (m.writeMany address values).2.addresses = m.addresses := by
  rw [writeMany]
  split
  · rfl
  refine eachIndex_keeps (P := fun m' : FieldMap UInt16 => m'.addresses = m.addresses) ?_ _ rfl
  intro m₁ i m₂ hm₁ h
  rw [writeWord, Outcome.bind_eq_ok] at h
  obtain ⟨_, _, h⟩ := h
  rw [Outcome.bind_eq_ok] at h
  obtain ⟨_, _, h⟩ := h
  exact (addresses_writeSingle h).trans hm₁

end FieldMap

namespace Layout

lemma Shapes.onMap (h : l.Shapes maps) (k : Nat) {write : FieldMap α → Fallible Unit × FieldMap α}
    (hwrite : ∀ m, (write m).2.addresses = m.addresses) :
    l.Shapes (onMap k write maps).2 := by
  rw [ModbusRs.onMap]
  cases hk : maps[k]? with
  | none => exact h
  | some m =>
    dsimp only
    rw [Shapes, List.map_set, hwrite, set_self]
    · exact h
    · rw [List.getElem?_map, hk]
      rfl

lemma Shapes.askThen (h : l.Shapes maps) (asked : Fallible Unit)
    {write : List (FieldMap α) → Fallible Unit × List (FieldMap α)}
    (hwrite : l.Shapes (write maps).2) : l.Shapes (askThen asked write maps).2 := by
  cases asked with
  | ok u => exact hwrite
  | err e => exact h
  | panic => exact h

lemma shapes_routeOne {address : UInt16} {write : Nat → FieldMap α → Fallible (FieldMap α)}
    (hwrite : ∀ k m m', write k m = .ok m' → m'.addresses = m.addresses) :
    l.Shapes (routeOne l address write).2 := by
  rw [routeOne]
  cases (groupSegments l.maps).find? (·.contains address) with
  | none => exact rfl
  | some seg =>
    have hstart : l.Shapes l.maps := rfl
    apply hstart.onMap
    intro m
    exact FieldMap.addresses_intoOutput (hwrite seg.target m)

end Layout

end

lemma shapes_writeCoils (hook : Option (BatchHook UInt8)) (l : Layout Bool)
    (address quantity : UInt16) (values : List UInt8) :
    l.Shapes (writeCoils hook l address quantity values).2 := by
  refine segmentLoop_keeps (P := l.Shapes) ?_ address quantity 0 rfl
  intro k cursor take offset maps hmaps
  apply hmaps.askThen
  apply hmaps.onMap
  intro m
  exact FieldMap.addresses_writeManyFromPacked

lemma shapes_writeRegisters (hook : Option (BatchHook UInt16)) (l : Layout UInt16)
    (address : UInt16) (values : List UInt16) :
    l.Shapes (writeRegisters hook l address values).2 := by
  refine segmentLoop_keeps (P := l.Shapes) ?_ address _ 0 rfl
  intro k cursor take offset maps hmaps
  split
  · apply hmaps.askThen
    apply hmaps.onMap
    intro m
    exact FieldMap.addresses_writeMany
  · exact hmaps

lemma shapes_writeOne {β α : Type} (hooks : GroupHooks β α)
    (old : FieldMap α → UInt16 → Fallible α) (packed : α → β) (l : Layout α) (address : UInt16)
    (value : α) : l.Shapes (routeOne l address (hooks.writeOne old packed address value)).2 := by
  apply Layout.shapes_routeOne
  intro k m m' h
  rw [GroupHooks.writeOne, Outcome.bind_eq_ok] at h
  obtain ⟨_, _, h⟩ := h
  exact FieldMap.addresses_writeSingle h

lemma shapes_maskRegister (l : Layout UInt16) (address andMask orMask : UInt16) :
    l.Shapes (maskRegister l address andMask orMask).2 := by
  apply Layout.shapes_routeOne
  intro k m m' h
  rw [Outcome.bind_eq_ok] at h
  obtain ⟨_, _, h⟩ := h
  rw [Outcome.bind_eq_ok] at h
  obtain ⟨_, _, h⟩ := h
  rw [Outcome.bind_eq_ok] at h
  obtain ⟨_, _, h⟩ := h
  exact FieldMap.addresses_writeSingle h

section

variable [Features]

lemma shapes_writeArm {α : Type} {fc : FunctionCode} {echo : ModbusResponse} {l : Layout α}
    {written : Fallible Unit × List (FieldMap α)} (h : l.Shapes written.2) :
    l.Shapes (writeArm fc echo l written).2 := by
  rw [writeArm]
  split
  · exact rfl
  · exact h

lemma shapes_writeMultipleCoilsArm (hook : Option (BatchHook UInt8)) (l : Layout Bool)
    (address count : UInt16) (data : List UInt8) :
    l.Shapes (writeMultipleCoilsArm hook l address count data).2 := by
  rw [writeMultipleCoilsArm]
  split
  · exact rfl
  · exact shapes_writeCoils hook l address count data

lemma shapes_writeMultipleRegistersArm (hook : Option (BatchHook UInt16)) (l : Layout UInt16)
    (address count : UInt16) (data : List UInt8) :
    l.Shapes (writeMultipleRegistersArm hook l address count data).2 := by
  rw [writeMultipleRegistersArm]
  split
  · exact rfl
  · exact shapes_writeRegisters hook l address _

lemma shapes_readWriteMultipleRegistersArm (hook : Option (BatchHook UInt16)) (l : Layout UInt16)
    (readAddress readCount writeAddress writeCount : UInt16) (data : List UInt8) :
    l.Shapes (readWriteMultipleRegistersArm hook l readAddress readCount writeAddress writeCount
      data).2 := by
  have hpart : l.Shapes (readWriteWritePart hook l readCount writeAddress writeCount data).2 := by
    rw [readWriteWritePart]
    split
    · exact rfl
    split
    · exact rfl
    have hwritten := shapes_writeRegisters hook l writeAddress
      (decodeRegisters 121 writeCount data)
    generalize writeRegisters hook l writeAddress _ = written at hwritten
    obtain ⟨result, maps⟩ := written
    cases result <;> exact hwritten
  rw [readWriteMultipleRegistersArm]
  generalize readWriteWritePart hook l readCount writeAddress writeCount data = part at hpart
  obtain ⟨result, maps⟩ := part
  match result with
  | .ok none => exact hpart
  | .ok (some response) => exact hpart
  | .err e => exact hpart
  | .panic => exact hpart

end

/-! ### The handler -/

namespace Layout

variable {α : Type} (l : Layout α)

/-- The layout with other values in its fields. -/
def remap (maps : List (FieldMap α)) (h : l.Shapes maps) : Layout α where
  maps
  disjoint := by
    have hbounds : (maps.map fun m => (m.addrMin, m.addrMax)) =
        l.maps.map fun m => (m.addrMin, m.addrMax) := FieldMap.map_bounds_congr h
    have hpairs := l.disjoint
    rw [← List.pairwise_map (f := fun m : FieldMap α => (m.addrMin, m.addrMax))
      (R := fun a b => a.2 < b.1 ∨ b.2 < a.1), ← hbounds, List.pairwise_map] at hpairs
    exact hpairs
  ordered := by
    have hbounds : (maps.map fun m => (m.addrMin, m.addrMax)) =
        l.maps.map fun m => (m.addrMin, m.addrMax) := FieldMap.map_bounds_congr h
    have hchain := l.ordered
    rw [← List.isChain_map (fun m : FieldMap α => (m.addrMin, m.addrMax))
      (R := fun a b => a.1 ≤ b.1), ← hbounds, List.isChain_map] at hchain
    exact hchain

end Layout

namespace ModbusApp

variable [Features] (hooks : AppHooks) (app : ModbusApp)

/-- The application after an arm that writes to the coils. -/
def afterCoils (r : Fallible ModbusResponse × List (FieldMap Bool)) (h : app.coils.Shapes r.2) :
    Fallible ModbusResponse × ModbusApp :=
  (r.1, { app with coils := app.coils.remap r.2 h })

/-- The application after an arm that writes to the holding registers. -/
def afterRegisters (r : Fallible ModbusResponse × List (FieldMap UInt16))
    (h : app.holdingRegisters.Shapes r.2) : Fallible ModbusResponse × ModbusApp :=
  (r.1, { app with holdingRegisters := app.holdingRegisters.remap r.2 h })

/-- `handle`, with a panic as an outcome. -/
def handle : RequestBody → Fallible ModbusResponse × ModbusApp
  | .readCoils address count => (readBitsArm .readCoils app.coils address count, app)
  | .writeSingleCoil address value =>
    app.afterCoils (writeSingleCoilArm hooks.coils app.coils address value)
      (shapes_writeArm (shapes_writeOne ..))
  | .writeMultipleCoils address count data =>
    app.afterCoils
      (writeMultipleCoilsArm hooks.coils.onBatchWrite app.coils address count data.toList)
      (shapes_writeMultipleCoilsArm ..)
  | .readDiscreteInputs address count =>
    (readBitsArm .readDiscreteInputs app.discreteInputs address count, app)
  | .readHoldingRegisters address count =>
    (readWordsArm .readHoldingRegisters app.holdingRegisters address count, app)
  | .writeSingleRegister address value =>
    app.afterRegisters
      (writeSingleRegisterArm hooks.holdingRegisters app.holdingRegisters address value)
      (shapes_writeArm (shapes_writeOne ..))
  | .writeMultipleRegisters address count data =>
    app.afterRegisters
      (writeMultipleRegistersArm hooks.holdingRegisters.onBatchWrite app.holdingRegisters address
        count data.toList)
      (shapes_writeMultipleRegistersArm ..)
  | .maskWriteRegister address andMask orMask =>
    app.afterRegisters (maskWriteRegisterArm app.holdingRegisters address andMask orMask)
      (shapes_writeArm (shapes_maskRegister ..))
  | .readWriteMultipleRegisters readAddress readCount writeAddress writeCount data =>
    app.afterRegisters
      (readWriteMultipleRegistersArm hooks.holdingRegisters.onBatchWrite app.holdingRegisters
        readAddress readCount writeAddress writeCount data.toList)
      (shapes_readWriteMultipleRegistersArm ..)
  | .readInputRegisters address count =>
    (readWordsArm .readInputRegisters app.inputRegisters address count, app)
  | _ => (pure .noResponse, app)

/-- The `AsyncAppHandler` of the application, with the default `on_exception`. -/
def handler : AsyncAppHandler ModbusApp where
  handle request app :=
    (match (app.handle hooks request.body).1 with
      | .ok response => some response
      | _ => none, (app.handle hooks request.body).2)
  onException _ _ _ _ app := app

end ModbusApp

end ModbusRs
