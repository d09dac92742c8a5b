import ModbusRs.Macros.Memory

/-!
# Runs of requests against a generated application

The requests that a session hands to the generated handler, one after the other, with the
responses. A run is one of the memory, and a read of registers gives the values that were
written last.
-/

namespace ModbusRs

open Tables

section

variable [Features]

/-- A request that the session can parse is handled. -/
structure Handled (hooks : AppHooks) (app : ModbusApp) (exchange : RequestBody × ModbusResponse)
    (app' : ModbusApp) : Prop where
  parsed : ∃ fc pdu, parseBody fc pdu = .ok exchange.1
  handled : app.handle hooks exchange.1 = (.ok exchange.2, app')

/-- An exchange with a memory. -/
def Memory.Exchanges (mem : Memory) (exchange : RequestBody × ModbusResponse)
    (mem' : Memory) : Prop :=
  mem.Serves mem' exchange.2 exchange.1

end

/-! ### The last write -/

/-- The tables that requests write to. -/
inductive WritableTable where
  | coils
  | holdingRegisters
deriving DecidableEq, Repr

namespace WritableTable

/-- What the addresses of a table hold. -/
abbrev Value : WritableTable → Type
  | .coils => Bool
  | .holdingRegisters => UInt16

/-- The table of a memory. -/
def table (mem : Memory) : (w : WritableTable) → Table w.Value
  | .coils => mem.coils
  | .holdingRegisters => mem.holdingRegisters

variable [Features]

/-- A write that was answered without an exception stores a value at an address. -/
def Stores (exchange : RequestBody × ModbusResponse) (a : Nat) :
    (w : WritableTable) → w.Value → Prop
  | .coils, v => match exchange.1 with
    | .writeSingleCoil address value =>
      exchange.2 = .ofCoil address value ∧ a = address.toNat ∧ v = value
    | .writeMultipleCoils address count data =>
      exchange.2 = .echoMultiWrite .writeMultipleCoils address count ∧ address.toNat ≤ a ∧
        (requestBits data.toList count)[a - address.toNat]? = some v
    | _ => False
  | .holdingRegisters, v => match exchange.1 with
    | .writeSingleRegister address value =>
      exchange.2 = .echoRegister address value ∧ a = address.toNat ∧ v = value
    | .writeMultipleRegisters address count data =>
      exchange.2 = .echoMultiWrite .writeMultipleRegisters address count ∧ address.toNat ≤ a ∧
        (requestWords data.toList count)[a - address.toNat]? = some v
    | .readWriteMultipleRegisters _ _ address count data =>
      (∃ read, exchange.2 = .byteCountPayload .readWriteMultipleRegisters read) ∧
        address.toNat ≤ a ∧ (requestWords data.toList count)[a - address.toNat]? = some v
    | _ => False

/-- The range of a write request has an address. -/
def MayWrite (body : RequestBody) (a : Nat) : WritableTable → Prop
  | .coils => match body with
    | .writeSingleCoil address _ => a = address.toNat
    | .writeMultipleCoils address count _ =>
      address.toNat ≤ a ∧ a < address.toNat + count.toNat
    | _ => False
  | .holdingRegisters => match body with
    | .writeSingleRegister address _ => a = address.toNat
    | .maskWriteRegister address _ _ => a = address.toNat
    | .writeMultipleRegisters address count _ =>
      address.toNat ≤ a ∧ a < address.toNat + count.toNat
    | .readWriteMultipleRegisters _ _ address count _ =>
      address.toNat ≤ a ∧ a < address.toNat + count.toNat
    | _ => False

/-- A read of the table. -/
def readBody : WritableTable → UInt16 → UInt16 → RequestBody
  | .coils => .readCoils
  | .holdingRegisters => .readHoldingRegisters

/-- The data of a response has a value at a place. -/
def Shows (bytes : List UInt8) (i : Nat) : (w : WritableTable) → w.Value → Prop
  | .coils, v => i / 8 < bytes.length ∧ bitAt bytes i = v
  | .holdingRegisters, v =>
    ∃ words : List UInt16, bytes = words.flatMap toBeBytes ∧ words[i]? = some v

variable {w : WritableTable}

section

variable {α : Type} {t t' : Table α} {fc : FunctionCode} {echo response : ModbusResponse}
  {address : UInt16} {a : Nat}

lemma get_of_writesOne {asked : Prop} {value : α → α} {v : α}
    (h : Memory.WritesOne fc echo asked t address value response t') (hecho : response = echo)
    (hne : echo ≠ .noResponse ∧ ∀ code, echo ≠ .exception fc code)
    (hvalue : ∀ old, value old = v) : t' address.toNat = some v := by
  cases h with
  | absent _ => exact absurd hecho.symm hne.1
  | done old _ =>
    have hwritten := @holds_overwrite _ t address.toNat [value old] 0 Nat.zero_lt_one
    rw [Nat.add_zero] at hwritten
    rw [hwritten, hvalue]
    rfl
  | refused code _ => exact absurd hecho.symm (hne.2 code)

lemma keeps_of_writesOne {asked : Prop} {value : α → α}
    (h : Memory.WritesOne fc echo asked t address value response t') (ha : a ≠ address.toNat) :
    t' a = t a := by
  cases h with
  | absent _ => rfl
  | done old _ =>
    apply overwrite_outside
    rw [List.length_singleton]
    omega
  | refused code _ => rfl

variable {answer : Table α → ModbusResponse → Prop} {values : List α}

lemma get_of_writes {v : α} (h : Memory.Writes fc answer t address values response t')
    (hne : response ≠ .noResponse ∧ ∀ code, response ≠ .exception fc code)
    (ha : address.toNat ≤ a) (hvalue : values[a - address.toNat]? = some v) :
    t' a = some v := by
  cases h with
  | absent _ => exact absurd rfl hne.1
  | done response _ _ =>
    obtain ⟨hlt, _⟩ := List.getElem?_eq_some_iff.mp hvalue
    have hwritten := @holds_overwrite _ t address.toNat values (a - address.toNat) hlt
    rwa [Nat.add_sub_cancel' ha, hvalue] at hwritten
  | refused n _ _ _ code => exact absurd rfl (hne.2 code)

lemma keeps_of_writes {count : Nat} (h : Memory.Writes fc answer t address values response t')
    (hcount : values.length ≤ count)
    (ha : ¬(address.toNat ≤ a ∧ a < address.toNat + count)) : t' a = t a := by
  cases h with
  | absent _ => rfl
  | done response _ _ =>
    apply overwrite_outside
    omega
  | refused n _ _ _ code =>
    apply overwrite_outside
    rw [List.length_take]
    omega

end

/-- What a write stores is in the table then. -/
lemma table_of_stores {mem mem' : Memory} {exchange : RequestBody × ModbusResponse} {a : Nat}
    {v : w.Value} (h : mem.Exchanges exchange mem') (hstores : Stores exchange a w v) :
    table mem' w a = some v := by
  obtain ⟨body, response⟩ := exchange
  cases w with
  | coils =>
    cases body with
    | writeSingleCoil address value =>
      obtain ⟨_, rfl, hwrites⟩ := h
      obtain ⟨hecho, rfl, rfl⟩ := hstores
      exact get_of_writesOne hwrites hecho ⟨nofun, nofun⟩ fun _ => rfl
    | writeMultipleCoils address count data =>
      obtain ⟨_, rfl, hwrites⟩ := h
      obtain ⟨hecho, ha, hvalue⟩ := hstores
      dsimp only at hecho
      exact get_of_writes hwrites (hecho ▸ ⟨nofun, nofun⟩) ha hvalue
    | _ => exact hstores.elim
  | holdingRegisters =>
    cases body with
    | writeSingleRegister address value =>
      obtain ⟨_, rfl, hwrites⟩ := h
      obtain ⟨hecho, rfl, rfl⟩ := hstores
      exact get_of_writesOne hwrites hecho ⟨nofun, nofun⟩ fun _ => rfl
    | writeMultipleRegisters address count data =>
      obtain ⟨_, rfl, hwrites⟩ := h
      obtain ⟨hecho, ha, hvalue⟩ := hstores
      dsimp only at hecho
      exact get_of_writes hwrites (hecho ▸ ⟨nofun, nofun⟩) ha hvalue
    | readWriteMultipleRegisters _ _ address count data =>
      obtain ⟨_, rfl, hwrites⟩ := h
      obtain ⟨⟨read, hread⟩, ha, hvalue⟩ := hstores
      dsimp only at hread
      exact get_of_writes hwrites (hread ▸ ⟨nofun, nofun⟩) ha hvalue
    | _ => exact hstores.elim

/-- A request whose range does not have the address leaves it as it is. -/
lemma table_of_not_mayWrite {mem mem' : Memory} {exchange : RequestBody × ModbusResponse} {a : Nat}
    (h : mem.Exchanges exchange mem') (hnot : ¬MayWrite exchange.1 a w) :
    table mem' w a = table mem w a := by
  obtain ⟨body, response⟩ := exchange
  cases body with
  | writeSingleCoil address value =>
    obtain ⟨_, hmem, hwrites⟩ := h
    cases w with
    | coils => exact hmem ▸ keeps_of_writesOne hwrites hnot
    | holdingRegisters => exact hmem ▸ rfl
  | writeMultipleCoils address count data =>
    obtain ⟨_, hmem, hwrites⟩ := h
    cases w with
    | coils =>
      exact hmem ▸ keeps_of_writes hwrites (Nat.le_of_eq (length_requestBits _ count)) hnot
    | holdingRegisters => exact hmem ▸ rfl
  | writeSingleRegister address value =>
    obtain ⟨_, hmem, hwrites⟩ := h
    cases w with
    | coils => exact hmem ▸ rfl
    | holdingRegisters => exact hmem ▸ keeps_of_writesOne hwrites hnot
  | maskWriteRegister address andMask orMask =>
    obtain ⟨_, hmem, hwrites⟩ := h
    cases w with
    | coils => exact hmem ▸ rfl
    | holdingRegisters => exact hmem ▸ keeps_of_writesOne hwrites hnot
  | writeMultipleRegisters address count data =>
    obtain ⟨_, hmem, hwrites⟩ := h
    cases w with
    | coils => exact hmem ▸ rfl
    | holdingRegisters =>
      exact hmem ▸ keeps_of_writes hwrites (length_requestWords_le _ count) hnot
  | readWriteMultipleRegisters _ _ address count data =>
    obtain ⟨_, hmem, hwrites⟩ := h
    cases w with
    | coils => exact hmem ▸ rfl
    | holdingRegisters =>
      exact hmem ▸ keeps_of_writes hwrites (length_requestWords_le _ count) hnot
  | _ =>
    obtain ⟨hmem, _⟩ := h
    exact congrArg (fun m => table m w a) hmem

/-- A read shows what the table has. -/
lemma shows_of_read {mem mem' : Memory} {address count : UInt16} {fc : FunctionCode} {data : Adu}
    {a : Nat} {v : w.Value}
    (h : mem.Exchanges (w.readBody address count, .byteCountPayload fc data) mem')
    (ha : address.toNat ≤ a ∧ a < address.toNat + count.toNat) (hv : table mem w a = some v) :
    Shows data.toList (a - address.toNat) w v := by
  have hplace : address.toNat + (a - address.toNat) = a := Nat.add_sub_cancel' ha.1
  cases w with
  | coils =>
    obtain ⟨_, hreads⟩ := h
    cases hreads with
    | values _ values _ hlength hholds hdata =>
      have hget := hholds (a - address.toNat) (by omega)
      rw [hplace] at hget
      have hsize := hdata.length_eq
      refine ⟨by omega, ?_⟩
      rw [hdata.bits _ (by omega), List.getD_eq_getElem?_getD, ← hget]
      exact congrArg (Option.getD · false) hv
  | holdingRegisters =>
    obtain ⟨_, hreads⟩ := h
    cases hreads with
    | values _ values _ hlength hholds hdata =>
      have hget := hholds (a - address.toNat) (by omega)
      rw [hplace] at hget
      exact ⟨values, hdata, hget.symm.trans hv⟩

end WritableTable

end ModbusRs
