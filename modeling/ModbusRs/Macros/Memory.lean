import ModbusRs.Library.Tables
import ModbusRs.Macros.AllOrNothing
import ModbusRs.Macros.Crashes

/-!
# The generated handler as a memory

What a client may expect of a device: four tables of values, reads that give the values of a whole
range or an exception, and writes that are done or refused, a batch possibly after some of its
values. The generated handler does nothing else.
-/

namespace ModbusRs

open Outcome Tables

/-- The values of a device, by address. -/
structure Memory where
  coils : Table Bool
  discreteInputs : Table Bool
  holdingRegisters : Table UInt16
  inputRegisters : Table UInt16

/-- The values of the fields of an application. -/
def ModbusApp.memory (app : ModbusApp) : Memory where
  coils := app.coils.get
  discreteInputs := app.discreteInputs.get
  holdingRegisters := app.holdingRegisters.get
  inputRegisters := app.inputRegisters.get

/-! ### What a device does -/

/-- The bits of a response, the first one lowest and clear ones behind the last. -/
structure PacksBits (values : List Bool) (bytes : List UInt8) : Prop where
  length_eq : bytes.length = (values.length + 7) / 8
  bits : ∀ j < 8 * bytes.length, bitAt bytes j = values.getD j false

/-- The words of a response. -/
def PacksWords (values : List UInt16) (bytes : List UInt8) : Prop :=
  bytes = values.flatMap toBeBytes

/-- The bits of a batch. -/
def requestBits (data : List UInt8) (count : UInt16) : List Bool :=
  (List.range count.toNat).map (bitAt data)

/-- The words of a batch. -/
def requestWords (data : List UInt8) (count : UInt16) : List UInt16 :=
  (decodeWords data).take count.toNat

namespace Memory

section

variable {α : Type}

/-- A range is mapped, and it does not end with the address space. -/
def Readable (t : Table α) (address count : UInt16) : Prop :=
  (count = 0 ∨ address.toNat + count.toNat < 65536) ∧
    ∀ i < count.toNat, (t (address.toNat + i)).isSome = true

variable [Features]

/-- A read gives the values of a readable range. -/
inductive Reads (packs : List α → List UInt8 → Prop) (fc : FunctionCode) (t : Table α)
    (address count : UInt16) : ModbusResponse → Prop where
  | absent (h : ∀ other, t other = none) : Reads packs fc t address count .noResponse
  | values (hreadable : Readable t address count) (values : List α) (data : Adu)
      (hlength : values.length = count.toNat) (hholds : Holds t address.toNat values)
      (hdata : packs values data.toList) :
      Reads packs fc t address count (.byteCountPayload fc data)
  | refused (h : ¬Readable t address count) :
      Reads packs fc t address count (.exception fc .illegalDataAddress)

/-- A write of one value is done or leaves the table as it is. It is refused where there is no
value, and elsewhere only if somebody is asked. -/
inductive WritesOne (fc : FunctionCode) (echo : ModbusResponse) (asked : Prop) (t : Table α)
    (address : UInt16) (value : α → α) : ModbusResponse → Table α → Prop where
  | absent (h : ∀ other, t other = none) : WritesOne fc echo asked t address value .noResponse t
  | done (old : α) (h : t address.toNat = some old) :
      WritesOne fc echo asked t address value echo (overwrite t address.toNat [value old])
  | refused (code : ExceptionCode)
      (h : t address.toNat = none ∧ code = .illegalDataAddress ∨ asked) :
      WritesOne fc echo asked t address value (.exception fc code) t

/-- A batch is written as a whole and answered, or it is refused after some of its values: before
the last one, or behind it where the address space ends. -/
inductive Writes (fc : FunctionCode) (answer : Table α → ModbusResponse → Prop) (t : Table α)
    (address : UInt16) (values : List α) : ModbusResponse → Table α → Prop where
  | absent (h : ∀ other, t other = none) : Writes fc answer t address values .noResponse t
  | done (response : ModbusResponse)
      (hmapped : ∀ i < values.length, (t (address.toNat + i)).isSome = true)
      (hanswer : answer (overwrite t address.toNat values) response) :
      Writes fc answer t address values response (overwrite t address.toNat values)
  | refused (n : Nat) (hn : n ≤ values.length)
      (hpart : n = 0 ∨ n < values.length ∨ address.toNat + n = 65536)
      (hmapped : ∀ i < n, (t (address.toNat + i)).isSome = true) (code : ExceptionCode) :
      Writes fc answer t address values (.exception fc code)
        (overwrite t address.toNat (values.take n))

end

variable [Features]

/-- A request changes at most the table that it writes to. -/
def Serves (mem : Memory) (mem' : Memory) (response : ModbusResponse) : RequestBody → Prop
  | .readCoils address count =>
    mem' = mem ∧ Reads PacksBits .readCoils mem.coils address count response
  | .readDiscreteInputs address count =>
    mem' = mem ∧ Reads PacksBits .readDiscreteInputs mem.discreteInputs address count response
  | .readHoldingRegisters address count =>
    mem' = mem ∧ Reads PacksWords .readHoldingRegisters mem.holdingRegisters address count response
  | .readInputRegisters address count =>
    mem' = mem ∧ Reads PacksWords .readInputRegisters mem.inputRegisters address count response
  | .writeSingleCoil address value => ∃ t, mem' = { mem with coils := t } ∧
    WritesOne .writeSingleCoil (.ofCoil address value) True mem.coils address (fun _ => value)
      response t
  | .writeSingleRegister address value => ∃ t, mem' = { mem with holdingRegisters := t } ∧
    WritesOne .writeSingleRegister (.echoRegister address value) True mem.holdingRegisters address
      (fun _ => value) response t
  | .maskWriteRegister address andMask orMask => ∃ t, mem' = { mem with holdingRegisters := t } ∧
    WritesOne .maskWriteRegister (.echoMaskWrite address andMask orMask) False
      mem.holdingRegisters address (fun old => maskedWord old andMask orMask) response t
  | .writeMultipleCoils address count data => ∃ t, mem' = { mem with coils := t } ∧
    Writes .writeMultipleCoils (fun _ r => r = .echoMultiWrite .writeMultipleCoils address count)
      mem.coils address (requestBits data.toList count) response t
  | .writeMultipleRegisters address count data =>
    ∃ t, mem' = { mem with holdingRegisters := t } ∧
    Writes .writeMultipleRegisters
      (fun _ r => r = .echoMultiWrite .writeMultipleRegisters address count)
      mem.holdingRegisters address (requestWords data.toList count) response t
  | .readWriteMultipleRegisters readAddress readCount writeAddress writeCount data =>
    ∃ t, mem' = { mem with holdingRegisters := t } ∧
    Writes .readWriteMultipleRegisters
      (fun t r => Reads PacksWords .readWriteMultipleRegisters t readAddress readCount r)
      mem.holdingRegisters writeAddress (requestWords data.toList writeCount) response t
  | _ => mem' = mem ∧ response = .noResponse

end Memory

/-! ### Reads -/

lemma readLoop_eq_err_iff {α : Type}
    {read : FieldMap α → UInt16 → UInt16 → Nat → List UInt8 → Fallible (List UInt8)}
    {maps : List (FieldMap α)} {address quantity : UInt16} {out : List UInt8} {e : MbusError} :
    readLoop read maps address quantity out = .err e ↔
      (segmentLoop (mapSegments maps)
        (fun m cursor take offset out => intoOutput out (read m cursor take offset out))
        (quantity.toNat + 1) address quantity 0 out).1 = .err e := by
  rw [readLoop]
  generalize segmentLoop (mapSegments maps) _ _ address quantity 0 out = loop
  obtain ⟨result, out'⟩ := loop
  cases result with
  | ok u => exact iff_of_false (by rintro ⟨⟩) (by rintro ⟨⟩)
  | err e' => simp
  | panic => exact iff_of_false (by rintro ⟨⟩) (by rintro ⟨⟩)

lemma eq_of_found_eq_err {α : Type} {a : Option α} {e : MbusError} (h : found a = .err e) :
    e = .invalidAddress := by
  cases a with
  | none =>
    cases h
    rfl
  | some a => cases h

lemma intoOutput_eq_err {σ : Type} {out : σ} {result : Fallible σ} {e : MbusError} :
    (intoOutput out result).1 = .err e ↔ result = .err e := by
  cases result <;> simp [intoOutput]

/-- A read of registers fails for a missing address only. -/
lemma readWordsLoop_err {l : Layout UInt16} {address count : UInt16} {e : MbusError}
    (h : readLoop readWords l.maps address count (List.replicate maxPduDataLen 0) = .err e) :
    e = .invalidAddress := by
  have hsize : (List.replicate maxPduDataLen (0 : UInt8)).length = 252 := List.length_replicate
  rw [readLoop_eq_err_iff] at h
  refine segmentLoop_result (R := fun r => r = .err e → e = .invalidAddress)
    (P := fun out => out.length = 252) (Q := fun _ _ _ => True) nofun (fun h => by cases h; rfl)
    ?_ (fun _ _ _ _ _ _ _ _ => trivial) address count hsize trivial (Nat.lt_succ_self _) h
  intro seg hseg cursor remaining offset out hout _ hcontains hpos
  rw [intoOutput_eq_err]
  by_cases hfits : 2 * (offset + (seg.take cursor remaining).toNat) ≤ out.length
  · obtain ⟨hread, hkeeps⟩ := readWords_keeps hseg hcontains hpos hfits
    refine ⟨fun herr => ?_, hkeeps.trans hout⟩
    rw [hread] at herr
    exact eq_of_found_eq_err herr
  · rw [readWords_eq_panic (by omega)]
    exact ⟨nofun, hout⟩

lemma readBitsLoop_err {l : Layout Bool} {address count : UInt16} (hcount : count.toNat ≤ 2016)
    {e : MbusError}
    (h : readLoop readBits l.maps address count (List.replicate maxPduDataLen 0) = .err e) :
    e = .invalidAddress := by
  have hsize : (List.replicate maxPduDataLen (0 : UInt8)).length = 252 := List.length_replicate
  rw [readLoop_eq_err_iff] at h
  refine segmentLoop_result (R := fun r => r = .err e → e = .invalidAddress)
    (P := fun out => out.length = 252)
    (Q := fun _ remaining offset => offset + remaining.toNat ≤ 2016) nofun
    (fun h => by cases h; rfl) ?_ ?_ address count hsize (by omega) (Nat.lt_succ_self _) h
  · intro seg hseg cursor remaining offset out hout hQ hcontains hpos
    obtain ⟨hread, hkeeps⟩ := readBits_keeps hseg hcontains hpos hout hQ
    rw [intoOutput_eq_err]
    refine ⟨fun herr => ?_, hkeeps⟩
    rw [hread] at herr
    exact eq_of_found_eq_err herr
  · intro seg _ cursor remaining offset hQ hcontains _
    have htake := Segment.toNat_take hcontains remaining
    have hrest : (remaining - seg.take cursor remaining).toNat =
        remaining.toNat - (seg.take cursor remaining).toNat :=
      UInt16.toNat_sub_of_le _ _ (UInt16.le_iff_toNat_le.mpr (by omega))
    omega

lemma readable_iff {α : Type} {l : Layout α} {address count : UInt16} :
    Memory.Readable l.get address count ↔
      (count = 0 ∨ address.toNat + count.toNat < 65536) ∧ l.HasAll address count :=
  Iff.rfl

/-- A read that does not overrun the buffer cannot have more words than fit. -/
lemma Layout.overruns_of_hasAll {l : Layout UInt16} {address count : UInt16}
    (hall : l.HasAll address count) (hcount : 126 < count.toNat) : l.Overruns address count := by
  obtain ⟨seg, hseg, hfirst, hlast⟩ := exists_mapSegment (hall 126 hcount)
  refine ⟨hcount, seg, hseg, hfirst, hlast, fun i hi => hall i ?_⟩
  omega

/-- What a loop over a readable or an unreadable range gives. -/
lemma readLoop_cases {α : Type} {l : Layout α} {address count : UInt16} {width : Nat}
    {loop : Fallible (List UInt8)} {shows : List UInt8 → Prop} (hne : loop ≠ .panic)
    (herr : ∀ e, loop = .err e → e = .invalidAddress)
    (hspec : (loop.isOk = true ↔ Memory.Readable l.get address count) ∧
      ∀ out, loop = .ok out → out.length = 252 ∧ shows (out.take width)) :
    (Memory.Readable l.get address count ∧
        ∃ out, loop = .ok out ∧ out.length = 252 ∧ shows (out.take width)) ∨
      (¬Memory.Readable l.get address count ∧ loop = .err .invalidAddress) := by
  cases loop with
  | ok out => exact Or.inl ⟨hspec.1.mp rfl, out, rfl, hspec.2 out rfl⟩
  | err e =>
    obtain rfl := herr e rfl
    exact Or.inr ⟨hspec.1.not.mp Bool.false_ne_true, rfl⟩
  | panic => exact absurd rfl hne

lemma readWordsLoop_cases {l : Layout UInt16} {address count : UInt16}
    (h : ¬l.Overruns address count) :
    (Memory.Readable l.get address count ∧ ∃ out,
      readLoop readWords l.maps address count (List.replicate maxPduDataLen 0) = .ok out ∧
        out.length = 252 ∧ ShowsWords l address count (out.take (count.toNat * 2))) ∨
    (¬Memory.Readable l.get address count ∧
      readLoop readWords l.maps address count (List.replicate maxPduDataLen 0) =
        .err .invalidAddress) := by
  have hsize : (List.replicate maxPduDataLen (0 : UInt8)).length = 252 := List.length_replicate
  refine readLoop_cases ((readWordsLoop_eq_panic_iff l address count).not.mpr h)
    (fun e => readWordsLoop_err) ?_
  by_cases hcount : count.toNat ≤ 126
  · have hspec := @readWords_spec address count (List.replicate maxPduDataLen 0) l (by omega)
    rwa [hsize] at hspec
  · have hnot : ¬Memory.Readable l.get address count := fun hreadable =>
      h (Layout.overruns_of_hasAll hreadable.2 (by omega))
    have hloop : ∀ out,
        readLoop readWords l.maps address count (List.replicate maxPduDataLen 0) ≠ .ok out :=
      fun out hok => hcount (readWordsLoop_le hok).1
    refine ⟨iff_of_false ?_ hnot, fun out hok => absurd hok (hloop out)⟩
    rw [Outcome.isOk_iff_exists]
    exact fun ⟨out, hok⟩ => hloop out hok

lemma readBitsLoop_cases {l : Layout Bool} {address count : UInt16}
    (hcount : count.toNat ≤ 2016) :
    (Memory.Readable l.get address count ∧ ∃ out,
      readLoop readBits l.maps address count (List.replicate maxPduDataLen 0) = .ok out ∧
        out.length = 252 ∧ ShowsBits l address count (out.take ((count.toNat + 7) / 8))) ∨
    (¬Memory.Readable l.get address count ∧
      readLoop readBits l.maps address count (List.replicate maxPduDataLen 0) =
        .err .invalidAddress) := by
  have hsize : (List.replicate maxPduDataLen (0 : UInt8)).length = 252 := List.length_replicate
  refine readLoop_cases (readBitsLoop_ne_panic l hcount) (fun e => readBitsLoop_err hcount) ?_
  have hspec := @readBits_spec address count (List.replicate maxPduDataLen 0) l hcount
    (by omega) fun j _ => bitAt_replicate _ j
  rwa [hsize] at hspec

lemma holds_of_collect {α : Type} {get : Nat → Option α} {n address : Nat} {values : List α}
    (h : collect get n address = some values) : Holds get address values := by
  induction n generalizing address values with
  | zero =>
    cases h
    exact fun i hi => absurd hi (Nat.not_lt_zero i)
  | succ n ih =>
    rw [collect] at h
    cases hget : get address with
    | none =>
      rw [hget] at h
      cases h
    | some a =>
      rw [hget] at h
      cases hcollect : collect get n (address + 1) with
      | none =>
        rw [hcollect] at h
        cases h
      | some rest =>
        rw [hcollect] at h
        cases h
        intro i hi
        cases i with
        | zero => exact hget
        | succ i =>
          rw [List.getElem?_cons_succ, ← ih hcollect i (Nat.lt_of_succ_lt_succ hi),
            Nat.add_assoc, Nat.add_comm 1]

/-- The values of a range that is mapped. -/
lemma Layout.holds_values {α : Type} {l : Layout α} {address count : UInt16}
    (h : l.HasAll address count) : Holds l.get address.toNat (l.values address count) :=
  holds_of_collect (l.hasAll_iff.mp h)

lemma packsBits_of_shows {l : Layout Bool} {address count : UInt16} {bytes : List UInt8}
    (hall : l.HasAll address count) (h : ShowsBits l address count bytes) :
    PacksBits (l.values address count) bytes := by
  refine ⟨?_, h.bits⟩
  rw [h.length_eq, Layout.length_values hall]

/-- A group without maps has no values. -/
lemma Layout.get_of_isEmpty {α : Type} {l : Layout α} (h : l.maps.isEmpty = true) (other : Nat) :
    l.get other = none := by
  apply Layout.get_eq_none
  rw [List.isEmpty_iff.mp h]
  exact fun m hm => (List.not_mem_nil hm).elim

section

variable [Features]

/-- What an arm makes of a loop that reads. -/
lemma reads_of_cases {α : Type} {l : Layout α} {packs : List α → List UInt8 → Prop}
    {fc : FunctionCode} {address count : UInt16} {width : Nat} {loop : Fallible (List UInt8)}
    (hwidth : Memory.Readable l.get address count → width ≤ 252)
    (hloop : (Memory.Readable l.get address count ∧ ∃ out, loop = .ok out ∧ out.length = 252 ∧
        packs (l.values address count) (out.take width)) ∨
      (¬Memory.Readable l.get address count ∧ loop = .err .invalidAddress)) :
    ∃ response, readResponse fc width loop = .ok response ∧
      Memory.Reads packs fc l.get address count response := by
  rcases hloop with ⟨hreadable, out, rfl, hlength, hpacks⟩ | ⟨hnot, rfl⟩
  · have hfit : (out.take width).length ≤ maxAduFrameLen := by
      have hmax := le_maxAduFrameLen
      rw [List.length_take]
      omega
    have hslice : slice (ε := MbusError) out 0 width = .ok (out.take width) :=
      slice_of_le (Nat.zero_le _) (by rw [hlength]; exact hwidth hreadable)
    refine ⟨.byteCountPayload fc (.ofSlice (out.take width)), ?_, ?_⟩
    · rw [readResponse, hslice]
      rfl
    · apply Memory.Reads.values hreadable (l.values address count)
      · exact Layout.length_values hreadable.2
      · exact Layout.holds_values hreadable.2
      · rwa [HVec.ofSlice_toList hfit]
  · exact ⟨_, rfl, .refused hnot⟩

lemma reads_readWords {fc : FunctionCode} {l : Layout UInt16} {address count : UInt16}
    (h : ¬l.Overruns address count) :
    ∃ response, readResponse fc (count.toNat * 2)
        (readLoop readWords l.maps address count (List.replicate maxPduDataLen 0)) = .ok response ∧
      Memory.Reads PacksWords fc l.get address count response := by
  apply reads_of_cases
  · intro hreadable
    by_contra hcount
    exact h (Layout.overruns_of_hasAll hreadable.2 (by omega))
  · exact readWordsLoop_cases h

lemma reads_readWordsArm {fc : FunctionCode} {l : Layout UInt16} {address count : UInt16}
    (h : ¬l.Overruns address count) :
    ∃ response, readWordsArm fc l address count = .ok response ∧
      Memory.Reads PacksWords fc l.get address count response := by
  rw [readWordsArm]
  split
  · rename_i hempty
    exact ⟨_, rfl, .absent (Layout.get_of_isEmpty hempty)⟩
  · exact reads_readWords h

lemma reads_readBitsArm {fc : FunctionCode} {l : Layout Bool} {address count : UInt16}
    (h : ¬(l.maps ≠ [] ∧ 2016 < count.toNat)) :
    ∃ response, readBitsArm fc l address count = .ok response ∧
      Memory.Reads PacksBits fc l.get address count response := by
  rw [readBitsArm]
  split
  · rename_i hempty
    exact ⟨_, rfl, .absent (Layout.get_of_isEmpty hempty)⟩
  · rename_i hempty
    have hcount : count.toNat ≤ 2016 := by
      by_contra hgt
      exact h ⟨fun hnil => hempty (List.isEmpty_iff.mpr hnil), by omega⟩
    have hsize : (List.replicate maxPduDataLen (0 : UInt8)).length = 252 := List.length_replicate
    dsimp only
    rw [slice_of_le (Nat.zero_le _) (by omega)]
    change ∃ response, readResponse fc _ _ = .ok response ∧ _
    apply reads_of_cases
    · intro _
      omega
    · rcases readBitsLoop_cases hcount with ⟨hreadable, out, hok, hlength, hshows⟩ | hrefused
      · exact Or.inl ⟨hreadable, out, hok, hlength, packsBits_of_shows hreadable.2 hshows⟩
      · exact Or.inr hrefused

end

/-! ### Writes of one value -/

section

variable {α : Type} {l : Layout α}

lemma fieldAt_set {k : Nat} {m : FieldMap α} (hm : l.maps[k]? = some m) {address : UInt16}
    {old : α} (h : m.get address = some old) (value : α) :
    fieldAt (l.maps.set k (m.set address value)) = overwrite l.get address.toNat [value] := by
  have hmem : UInt16.ofNat address.toNat ∈ m.addresses := by
    rw [UInt16.ofNat_toNat]
    exact FieldMap.isSome_get.mp (Option.isSome_of_eq_some h)
  have hshapes : l.Shapes l.maps := rfl
  have hset := hshapes.setAt_eq_set hm hm hmem value
  rw [UInt16.ofNat_toNat] at hset
  have hbounds := m.bounds_of_get h
  have hget : l.get address.toNat = some old := by
    rw [Layout.get_eq (List.mem_of_getElem? hm) hbounds.1 hbounds.2, UInt16.ofNat_toNat, h]
  apply eq_overwrite
  · intro i hi
    rw [List.length_singleton, Nat.lt_one_iff] at hi
    subst hi
    rw [← hset, Nat.add_zero, fieldAt_setAt address.toNat_lt, if_pos rfl]
    change (l.get address.toNat).map _ = _
    rw [hget]
    rfl
  · intro other hother
    rw [List.length_singleton] at hother
    rw [← hset, fieldAt_setAt address.toNat_lt, if_neg (by omega)]
    rfl

variable [Features]

/-- A write that reaches the map of its address. -/
lemma writesOne_routeOne {fc : FunctionCode} {echo : ModbusResponse} {asked : Prop}
    {address : UInt16} {value : α → α} {write : Nat → FieldMap α → Fallible (FieldMap α)}
    (hwrite : ∀ k m, m.addrMin.toNat ≤ address.toNat → address.toNat ≤ m.addrMax.toNat →
      (∃ e, write k m = .err e ∧ (m.get address = none ∧ e = .invalidAddress ∨ asked)) ∨
      ∃ old, m.get address = some old ∧ write k m = .ok (m.set address (value old))) :
    ∃ response, (writeArm fc echo l (routeOne l address write)).1 = .ok response ∧
      Memory.WritesOne fc echo asked l.get address value response
        (fieldAt (writeArm fc echo l (routeOne l address write)).2) := by
  rw [writeArm]
  split
  · rename_i hempty
    exact ⟨_, rfl, .absent (Layout.get_of_isEmpty hempty)⟩
  rcases routeOne_cases l address with ⟨k, m, hm, hfirst, hlast, hroute⟩ | ⟨hout, hroute⟩
  · have hget : l.get address.toNat = m.get address := by
      rw [Layout.get_eq (List.mem_of_getElem? hm) hfirst hlast, UInt16.ofNat_toNat]
    rw [hroute]
    rcases hwrite k m hfirst hlast with ⟨e, herr, hwhy⟩ | ⟨old, hold, hok⟩
    · rw [herr]
      refine ⟨_, rfl, ?_⟩
      change Memory.WritesOne _ _ _ _ _ _ _ (fieldAt (l.maps.set k m))
      rw [set_self hm]
      apply Memory.WritesOne.refused
      rw [hget]
      refine hwhy.imp_left fun hout => ⟨hout.1, ?_⟩
      rw [hout.2]
      rfl
    · rw [hok]
      refine ⟨_, rfl, ?_⟩
      change Memory.WritesOne _ _ _ _ _ _ _ (fieldAt (l.maps.set k (m.set address (value old))))
      rw [fieldAt_set hm hold]
      exact .done old (hget.trans hold)
  · rw [hroute]
    exact ⟨_, rfl, .refused _ (Or.inl ⟨Layout.get_eq_none hout, rfl⟩)⟩

lemma writesOne_writeOne {β : Type} (hooks : GroupHooks β α) {fc : FunctionCode}
    {echo : ModbusResponse} {old : FieldMap α → UInt16 → Fallible α} {default : α}
    (hold : ∀ (m : FieldMap α) (address : UInt16), m.addrMin.toNat ≤ address.toNat →
      address.toNat ≤ m.addrMax.toNat → old m address = .ok ((m.get address).getD default))
    (packed : α → β) (address : UInt16) (value : α) :
    ∃ response, (writeArm fc echo l
        (routeOne l address (hooks.writeOne old packed address value))).1 = .ok response ∧
      Memory.WritesOne fc echo True l.get address (fun _ => value) response
        (fieldAt (writeArm fc echo l
          (routeOne l address (hooks.writeOne old packed address value))).2) := by
  apply writesOne_routeOne
  intro k m hfirst hlast
  rw [GroupHooks.writeOne]
  cases hask : hooks.ask old packed k m address value with
  | ok u =>
    rw [Outcome.ok_bind, FieldMap.writeSingle]
    cases hget : m.get address with
    | none => exact Or.inl ⟨_, rfl, Or.inr trivial⟩
    | some oldValue => exact Or.inr ⟨oldValue, rfl, rfl⟩
  | err e => exact Or.inl ⟨e, rfl, Or.inr trivial⟩
  | panic =>
    exfalso
    rw [GroupHooks.ask] at hask
    cases hlookup : hooks.onWrite.lookup address with
    | none =>
      rw [hlookup] at hask
      dsimp only at hask
      split at hask
      · cases (askHook_eq_panic_iff.mp hask).2
      · cases hask
    | some hook =>
      rw [hlookup, hold m address hfirst hlast] at hask
      exact lift_ne_panic _ hask

lemma writesOne_maskRegister {l : Layout UInt16} {fc : FunctionCode} {echo : ModbusResponse}
    (address andMask orMask : UInt16) :
    ∃ response, (writeArm fc echo l (maskRegister l address andMask orMask)).1 = .ok response ∧
      Memory.WritesOne fc echo False l.get address (fun old => maskedWord old andMask orMask)
        response (fieldAt (writeArm fc echo l (maskRegister l address andMask orMask)).2) := by
  apply writesOne_routeOne
  intro k m hfirst hlast
  rw [encodeOne_eq hfirst hlast]
  cases hget : m.get address with
  | none => exact Or.inl ⟨_, rfl, Or.inl ⟨rfl, rfl⟩⟩
  | some old =>
    refine Or.inr ⟨old, rfl, ?_⟩
    have hword : fromBeBytes (UInt8.ofNat (old.toNat / 256)) (UInt8.ofNat (old.toNat % 256)) =
        old := fromBeBytes_toBeBytes old
    change m.writeSingle address (maskedWord (fromBeBytes _ _) andMask orMask) = _
    rw [hword, FieldMap.writeSingle, hget]

end

/-! ### Batches -/

section

variable {α : Type} {l : Layout α}

lemma Layout.lt_of_isSome {address : Nat} (h : (l.get address).isSome = true) :
    address < 65536 := by
  by_contra hge
  rw [get, fieldAt, if_neg hge] at h
  cases h

/-- The places that are accepted from the start on. -/
lemma exists_front (accepted : Nat → Prop) (n : Nat) :
    ∃ k ≤ n, (∀ j < k, accepted j) ∧ (k < n → ¬accepted k) := by
  induction n with
  | zero => exact ⟨0, le_rfl, nofun, nofun⟩
  | succ n ih =>
    obtain ⟨k, hk, hall, hstop⟩ := ih
    by_cases hlt : k < n
    · exact ⟨k, Nat.le_succ_of_le hk, hall, fun _ => hstop hlt⟩
    · obtain rfl : k = n := by omega
      by_cases haccepted : accepted k
      · refine ⟨k + 1, le_rfl, fun j hj => ?_, fun h => absurd h (Nat.lt_irrefl _)⟩
        rcases Nat.lt_succ_iff_lt_or_eq.mp hj with h | rfl
        · exact hall j h
        · exact haccepted
      · exact ⟨k, Nat.le_succ k, hall, fun _ => haccepted⟩

/-- A batch overwrites its table with the values before the first refusal. -/
lemma batch_overwrites {asked : UInt16 → UInt16 → Nat → Fallible Unit} {value : Nat → Option α}
    {address count : UInt16} {values : List α} (hlength : values.length = count.toNat)
    (hvalue : ∀ i v, value i = some v → i < count.toNat → values[i]? = some v)
    {result : Fallible Unit × List (FieldMap α)}
    (hspec : (result.1 = .ok () ↔ l.AcceptsAll asked value address count) ∧
      (∀ i < count.toNat, (∀ j ≤ i, l.Accepted asked value address count j) →
        fieldAt result.2 (address.toNat + i) = value i) ∧
      ∀ other, (∀ i < count.toNat, other = address.toNat + i →
          ¬∀ j ≤ i, l.Accepted asked value address count j) →
        fieldAt result.2 other = l.get other) :
    ∃ n ≤ values.length, fieldAt result.2 = overwrite l.get address.toNat (values.take n) ∧
      (∀ i < n, (l.get (address.toNat + i)).isSome = true) ∧
      (result.1 = .ok () → n = values.length) ∧
      (result.1 ≠ .ok () → n < values.length ∨ address.toNat + n = 65536) := by
  obtain ⟨hok, hwritten, hkept⟩ := hspec
  obtain ⟨n, hn, hall, hstop⟩ :=
    exists_front (l.Accepted asked value address count) count.toNat
  have htake : (values.take n).length = n := by
    rw [List.length_take]
    omega
  refine ⟨n, by omega, ?_, fun i hi => (hall i hi).mapped, fun h => ?_, fun h => ?_⟩
  · apply eq_overwrite
    · intro i hi
      rw [htake] at hi
      obtain ⟨v, hv⟩ := Option.isSome_iff_exists.mp (hall i hi).given
      rw [hwritten i (by omega) fun j hj => hall j (by omega), hv, List.getElem?_take_of_lt hi,
        hvalue i v hv (by omega)]
    · intro other hother
      rw [htake] at hother
      refine hkept other fun i hi heq hupto => hstop (by omega) (hupto n (by omega))
  · obtain ⟨_, haccepts⟩ := hok.mp h
    by_contra hne
    exact hstop (by omega) (haccepts n (by omega))
  · by_contra hnot
    push Not at hnot
    obtain ⟨hle, hend⟩ := hnot
    obtain rfl : n = count.toNat := by omega
    refine h (hok.mpr ⟨?_, hall⟩)
    by_cases hzero : count = 0
    · exact Or.inl hzero
    · have hpos : 0 < count.toNat := Nat.pos_of_ne_zero fun hz => hzero (UInt16.toNat_inj.mp hz)
      have hlast := Layout.lt_of_isSome (hall (count.toNat - 1) (by omega)).mapped
      exact Or.inr (by omega)

variable [Features]

/-- What an arm makes of a batch that was written. -/
lemma writes_of_batch {fc : FunctionCode} {answer : Table α → ModbusResponse → Prop}
    {address : UInt16} {values : List α} {result : Fallible Unit × List (FieldMap α)}
    (respond : Fallible Unit → Fallible ModbusResponse) (hne : result.1 ≠ .panic)
    (hbatch : ∃ n ≤ values.length,
      fieldAt result.2 = overwrite l.get address.toNat (values.take n) ∧
      (∀ i < n, (l.get (address.toNat + i)).isSome = true) ∧
      (result.1 = .ok () → n = values.length) ∧
      (result.1 ≠ .ok () → n < values.length ∨ address.toNat + n = 65536))
    (hdone : result.1 = .ok () → ∃ response, respond (.ok ()) = .ok response ∧
      answer (fieldAt result.2) response)
    (hrefused : ∀ e, respond (.err e) = .ok (.exception fc (mbusErrToException e))) :
    ∃ response, respond result.1 = .ok response ∧
      Memory.Writes fc answer l.get address values response (fieldAt result.2) := by
  obtain ⟨n, hn, htable, hmapped, hall, hpart⟩ := hbatch
  obtain ⟨outcome, maps⟩ := result
  cases outcome with
  | ok u =>
    obtain ⟨response, hresponse, hanswer⟩ := hdone rfl
    obtain rfl := hall rfl
    rw [List.take_length] at htable
    refine ⟨response, hresponse, ?_⟩
    rw [htable] at hanswer ⊢
    exact .done response hmapped hanswer
  | err e =>
    refine ⟨_, hrefused e, ?_⟩
    rw [htable]
    exact .refused n hn (Or.inr (hpart nofun)) hmapped _
  | panic => exact absurd rfl hne

end

lemma requestBits_of_coilAt {data : List UInt8} {count : UInt16} {i : Nat} {v : Bool}
    (h : coilAt data i = some v) (hi : i < count.toNat) : (requestBits data count)[i]? = some v := by
  rw [coilAt] at h
  split at h
  · cases h
    rw [requestBits, List.getElem?_map, List.getElem?_range hi]
    rfl
  · cases h

lemma length_requestBits (data : List UInt8) (count : UInt16) :
    (requestBits data count).length = count.toNat := by
  rw [requestBits, List.length_map, List.length_range]

lemma length_requestWords_le (data : List UInt8) (count : UInt16) :
    (requestWords data count).length ≤ count.toNat :=
  List.length_take_le _ _

/-- The FC10 loop overwrites the table. -/
lemma writeRegisters_overwrites (hook : Option (BatchHook UInt16)) (l : Layout UInt16)
    (address : UInt16) {values : List UInt16} (hvalues : values.length < 65536) :
    ∃ n ≤ values.length, fieldAt (writeRegisters hook l address values).2 =
        overwrite l.get address.toNat (values.take n) ∧
      (∀ i < n, (l.get (address.toNat + i)).isSome = true) ∧
      ((writeRegisters hook l address values).1 = .ok () → n = values.length) ∧
      ((writeRegisters hook l address values).1 ≠ .ok () →
        n < values.length ∨ address.toNat + n = 65536) := by
  have hcount : values.length = (UInt16.ofNat values.length).toNat := by
    rw [UInt16.toNat_ofNat']
    omega
  exact batch_overwrites hcount (fun i v hv _ => hv) (writeRegisters_spec hook l address hcount)

section

variable [Features]

lemma writes_writeMultipleCoilsArm (hook : Option (BatchHook UInt8)) (l : Layout Bool)
    (address count : UInt16) {data : List UInt8} (hdata : data.length ≤ maxPduDataLen)
    (hsafe : ¬l.HookOverruns hook address count data) :
    ∃ response, (writeMultipleCoilsArm hook l address count data).1 = .ok response ∧
      Memory.Writes .writeMultipleCoils
        (fun _ r => r = .echoMultiWrite .writeMultipleCoils address count) l.get address
        (requestBits data count) response
        (fieldAt (writeMultipleCoilsArm hook l address count data).2) := by
  rw [writeMultipleCoilsArm]
  split
  · rename_i hempty
    exact ⟨_, rfl, .absent (Layout.get_of_isEmpty hempty)⟩
  · have hne := (writeCoils_eq_panic_iff hook l address count hdata).not.mpr hsafe
    have hbatch := batch_overwrites (length_requestBits data count)
      (fun i v hv hi => requestBits_of_coilAt hv hi) (writeCoils_spec hook l address count data)
    generalize writeCoils hook l address count data = written at hne hbatch
    exact writes_of_batch (multiWriteResponse .writeMultipleCoils address count) hne hbatch
      (fun _ => ⟨_, rfl, rfl⟩) fun e => rfl

lemma writes_writeMultipleRegistersArm (hook : Option (BatchHook UInt16)) (l : Layout UInt16)
    (address count : UInt16) {data : List UInt8} (hdata : data.length / 2 ≤ 125) :
    ∃ response, (writeMultipleRegistersArm hook l address count data).1 = .ok response ∧
      Memory.Writes .writeMultipleRegisters
        (fun _ r => r = .echoMultiWrite .writeMultipleRegisters address count) l.get address
        (requestWords data count) response
        (fieldAt (writeMultipleRegistersArm hook l address count data).2) := by
  have hlength := decodeRegisters_length_le 125 count data
  rw [decodeRegisters_eq hdata] at hlength
  rw [writeMultipleRegistersArm, decodeRegisters_eq hdata]
  split
  · rename_i hempty
    exact ⟨_, rfl, .absent (Layout.get_of_isEmpty hempty)⟩
  · have hne := writeRegisters_ne_panic hook l address
      (show ((decodeWords data).take count.toNat).length < 65536 by omega)
    have hbatch := writeRegisters_overwrites hook l address
      (show ((decodeWords data).take count.toNat).length < 65536 by omega)
    rw [requestWords]
    generalize writeRegisters hook l address _ = written at hne hbatch
    exact writes_of_batch (multiWriteResponse .writeMultipleRegisters address count) hne hbatch
      (fun _ => ⟨_, rfl, rfl⟩) fun e => rfl

/-- FC17 writes first, and reads what the write left. -/
lemma writes_readWriteMultipleRegistersArm (hook : Option (BatchHook UInt16)) (l : Layout UInt16)
    (readAddress readCount writeAddress writeCount : UInt16) {data : List UInt8}
    (hdata : data.length / 2 ≤ 121) :
    ∃ response, (readWriteMultipleRegistersArm hook l readAddress readCount writeAddress writeCount
        data).1 = .ok response ∧
      Memory.Writes .readWriteMultipleRegisters
        (fun t r => Memory.Reads PacksWords .readWriteMultipleRegisters t readAddress readCount r)
        l.get writeAddress (requestWords data writeCount) response
        (fieldAt (readWriteMultipleRegistersArm hook l readAddress readCount writeAddress
          writeCount data).2) := by
  have hlength := decodeRegisters_length_le 121 writeCount data
  rw [decodeRegisters_eq hdata] at hlength
  rw [readWriteMultipleRegistersArm, readWriteWritePart, decodeRegisters_eq hdata]
  by_cases hempty : l.maps.isEmpty = true
  · rw [if_pos hempty]
    exact ⟨_, rfl, .absent (Layout.get_of_isEmpty hempty)⟩
  rw [if_neg hempty]
  by_cases hbad : (!(1 ≤ writeCount && writeCount ≤ 121) || !(1 ≤ readCount && readCount ≤ 125)) =
      true
  · rw [if_pos hbad]
    refine ⟨_, rfl, ?_⟩
    have hnothing : Memory.Writes .readWriteMultipleRegisters
        (fun t r => Memory.Reads PacksWords .readWriteMultipleRegisters t readAddress readCount r)
        l.get writeAddress (requestWords data writeCount)
        (.exception .readWriteMultipleRegisters .illegalDataValue)
        (overwrite l.get writeAddress.toNat ((requestWords data writeCount).take 0)) :=
      .refused 0 (Nat.zero_le _) (Or.inl rfl) (fun _ hlt => absurd hlt (Nat.not_lt_zero _))
        .illegalDataValue
    rwa [List.take_zero, overwrite_nil] at hnothing
  rw [if_neg hbad]
  have hsmall : readCount.toNat ≤ 125 := by
    by_contra hgt
    have hmax : (125 : UInt16).toNat = 125 := rfl
    refine hbad ?_
    rw [Bool.or_eq_true, Bool.not_eq_true', Bool.not_eq_true', Bool.and_eq_false_iff,
      Bool.and_eq_false_iff, decide_eq_false_iff_not, decide_eq_false_iff_not,
      decide_eq_false_iff_not, decide_eq_false_iff_not, UInt16.le_iff_toNat_le (b := 125), hmax]
    omega
  have hne := writeRegisters_ne_panic hook l writeAddress
    (show ((decodeWords data).take writeCount.toNat).length < 65536 by omega)
  have hbatch := writeRegisters_overwrites hook l writeAddress
    (show ((decodeWords data).take writeCount.toNat).length < 65536 by omega)
  have hshapes := shapes_writeRegisters hook l writeAddress
    ((decodeWords data).take writeCount.toNat)
  rw [requestWords]
  generalize writeRegisters hook l writeAddress _ = written at hne hbatch hshapes
  obtain ⟨response, hresponse, hreads⟩ := @reads_readWords _ .readWriteMultipleRegisters
    (l.remap written.2 hshapes) readAddress readCount fun hover => by
      have hcross := hover.1
      omega
  have hwrites := @writes_of_batch _ l _ .readWriteMultipleRegisters
    (fun t r => Memory.Reads PacksWords .readWriteMultipleRegisters t readAddress readCount r)
    writeAddress _ written
    (writeResponse .readWriteMultipleRegisters response) hne hbatch (fun _ => ⟨response, rfl, hreads⟩) fun e => rfl
  obtain ⟨outcome, maps⟩ := written
  cases outcome with
  | ok u =>
    obtain ⟨response', hresponse', hwrites⟩ := hwrites
    cases hresponse'
    exact ⟨response, hresponse, hwrites⟩
  | err e => exact hwrites
  | panic => exact absurd rfl hne

end

/-! ### The handler -/

section

variable [Features]

/-- The data of a batch fits the request that it comes with. -/
lemma length_div_of_parseBody {fc : FunctionCode} {pdu : Pdu} {address count : UInt16} {data : Adu}
    (h : parseBody fc pdu = .ok (.writeMultipleRegisters address count data)) :
    data.toList.length / 2 ≤ 125 := by
  have hfields : ∃ fields, pdu.writeMultipleFields = .ok fields ∧
      copyBytes fields.values = .ok data := by
    cases fc <;> simp [parseBody, Outcome.bind_eq_ok] at h
    obtain ⟨fields, hfields, hcopy, _⟩ := h
    exact ⟨fields, hfields, hcopy⟩
  obtain ⟨fields, hfields, hcopy⟩ := hfields
  rw [copyBytes, lift_eq_ok, HVec.extendOr_eq_ok, HVec.empty_toList, List.nil_append] at hcopy
  obtain ⟨hdata, _⟩ := Pdu.writeMultipleFields_eq_ok.mp hfields
  have hle := pdu.data.length_le
  rw [hdata, List.length_append, List.length_append, List.length_cons, toBeBytes_length,
    toBeBytes_length] at hle
  rw [hcopy]
  change _ ≤ 252 at hle
  omega

lemma length_div_of_parseBody_readWrite {fc : FunctionCode} {pdu : Pdu}
    {readAddress readCount writeAddress writeCount : UInt16} {data : Adu}
    (h : parseBody fc pdu =
      .ok (.readWriteMultipleRegisters readAddress readCount writeAddress writeCount data)) :
    data.toList.length / 2 ≤ 121 := by
  have hfields : ∃ fields, pdu.readWriteMultipleFields = .ok fields ∧
      copyBytes fields.writeValues = .ok data := by
    cases fc <;> simp [parseBody, Outcome.bind_eq_ok] at h
    obtain ⟨fields, hfields, hcopy, _⟩ := h
    exact ⟨fields, hfields, hcopy⟩
  obtain ⟨fields, hfields, hcopy⟩ := hfields
  rw [copyBytes, lift_eq_ok, HVec.extendOr_eq_ok, HVec.empty_toList, List.nil_append] at hcopy
  obtain ⟨hdata, _⟩ := Pdu.readWriteMultipleFields_eq_ok.mp hfields
  have hle := pdu.data.length_le
  rw [hdata] at hle
  simp only [List.length_append, List.length_cons, toBeBytes_length] at hle
  rw [hcopy]
  change _ ≤ 252 at hle
  omega

/-- A request that does not crash the handler is served as by a memory. -/
lemma ModbusApp.handle_serves (hooks : AppHooks) (app : ModbusApp) {fc : FunctionCode} {pdu : Pdu}
    {body : RequestBody} (hparse : parseBody fc pdu = .ok body)
    (hsafe : ¬app.Crashes hooks body) :
    ∃ response, (app.handle hooks body).1 = .ok response ∧
      app.memory.Serves (app.handle hooks body).2.memory response body := by
  cases body with
  | readCoils address count =>
    obtain ⟨response, hresponse, hreads⟩ := reads_readBitsArm hsafe
    exact ⟨response, hresponse, rfl, hreads⟩
  | readDiscreteInputs address count =>
    obtain ⟨response, hresponse, hreads⟩ := reads_readBitsArm hsafe
    exact ⟨response, hresponse, rfl, hreads⟩
  | readHoldingRegisters address count =>
    obtain ⟨response, hresponse, hreads⟩ := reads_readWordsArm hsafe
    exact ⟨response, hresponse, rfl, hreads⟩
  | readInputRegisters address count =>
    obtain ⟨response, hresponse, hreads⟩ := reads_readWordsArm hsafe
    exact ⟨response, hresponse, rfl, hreads⟩
  | writeSingleCoil address value =>
    obtain ⟨response, hresponse, hwrites⟩ := writesOne_writeOne hooks.coils
      (fun m address => oldCoil_eq) (fun value => if value then 1 else 0) address value
    exact ⟨response, hresponse, _, rfl, hwrites⟩
  | writeSingleRegister address value =>
    obtain ⟨response, hresponse, hwrites⟩ := writesOne_writeOne hooks.holdingRegisters
      (fun m address => oldRegister_eq) id address value
    exact ⟨response, hresponse, _, rfl, hwrites⟩
  | maskWriteRegister address andMask orMask =>
    obtain ⟨response, hresponse, hwrites⟩ := writesOne_maskRegister address andMask orMask
    exact ⟨response, hresponse, _, rfl, hwrites⟩
  | writeMultipleCoils address count data =>
    obtain ⟨response, hresponse, hwrites⟩ := writes_writeMultipleCoilsArm _ _ address count
      (length_of_parseBody hparse) hsafe
    exact ⟨response, hresponse, _, rfl, hwrites⟩
  | writeMultipleRegisters address count data =>
    obtain ⟨response, hresponse, hwrites⟩ := writes_writeMultipleRegistersArm
      hooks.holdingRegisters.onBatchWrite app.holdingRegisters address count
      (length_div_of_parseBody hparse)
    exact ⟨response, hresponse, _, rfl, hwrites⟩
  | readWriteMultipleRegisters readAddress readCount writeAddress writeCount data =>
    obtain ⟨response, hresponse, hwrites⟩ := writes_readWriteMultipleRegistersArm
      hooks.holdingRegisters.onBatchWrite app.holdingRegisters readAddress readCount writeAddress
      writeCount (length_div_of_parseBody_readWrite hparse)
    exact ⟨response, hresponse, _, rfl, hwrites⟩
  | _ => exact ⟨_, rfl, rfl, rfl⟩

end

end ModbusRs
