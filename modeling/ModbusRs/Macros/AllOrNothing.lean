import ModbusRs.Macros.BatchWalk

/-!
# Batch writes that are all or nothing

A batch write goes from address to address and does not take back what it has written. So it is
all or nothing exactly when it is accepted as a whole, or when the values before the first refusal
are what the fields hold already.
-/

namespace ModbusRs

open Outcome

section

variable {α : Type} {l : Layout α} {value : Nat → Option α} {address count : UInt16}
  {maps : List (FieldMap α)}

/-- A write that reports success has written the range and nothing else. Any other write has not
written at all. -/
structure AllOrNothing (l : Layout α) (value : Nat → Option α) (address count : UInt16)
    (success : Prop) (maps : List (FieldMap α)) : Prop where
  all : success → (∀ i < count.toNat, ∃ v, value i = some v ∧
      fieldAt maps (address.toNat + i) = some v) ∧
    ∀ other, (∀ i < count.toNat, other ≠ address.toNat + i) → fieldAt maps other = l.get other
  nothing : ¬success → ∀ other, fieldAt maps other = l.get other

lemma AllOrNothing.of_unchanged {success : Prop} (h : ¬success) :
    AllOrNothing l value address count success l.maps := ⟨fun h' => absurd h' h, fun _ _ => rfl⟩

/-- A batch with fewer values than the count of the request is not written as a whole. -/
lemma allOrNothing_iff {success : Prop} {asked : UInt16 → UInt16 → Nat → Fallible Unit}
    {value' : Nat → Option α} {n : UInt16} (hn : n.toNat ≤ count.toNat)
    (hvalue : ∀ i < n.toNat, value' i = value i) (hend : n ≠ count → value n.toNat = none)
    (hsuccess : success ↔ l.AcceptsAll asked value' address n)
    (hspec : (∀ i < n.toNat, (∀ j ≤ i, l.Accepted asked value' address n j) →
        fieldAt maps (address.toNat + i) = value' i) ∧
      ∀ other, (∀ i < n.toNat, other = address.toNat + i →
        ¬∀ j ≤ i, l.Accepted asked value' address n j) → fieldAt maps other = l.get other) :
    AllOrNothing l value address count success maps ↔
      (l.AcceptsAll asked value' address n ∧ n = count) ∨
        (¬l.AcceptsAll asked value' address n ∧ l.Repeats asked value' address n) := by
  obtain ⟨hwritten, hkept⟩ := hspec
  constructor
  · intro h
    by_cases hall : l.AcceptsAll asked value' address n
    · refine Or.inl ⟨hall, ?_⟩
      by_contra hne
      have hlt : n.toNat < count.toNat :=
        Nat.lt_of_le_of_ne hn fun heq => hne (UInt16.toNat_inj.mp heq)
      obtain ⟨v, hv, _⟩ := (h.all (hsuccess.mpr hall)).1 n.toNat hlt
      rw [hend hne] at hv
      cases hv
    · refine Or.inr ⟨hall, fun i hi haccepted => ?_⟩
      rw [← h.nothing (hsuccess.not.mpr hall), hwritten i hi haccepted]
  · rintro (⟨hall, rfl⟩ | ⟨hall, hrepeats⟩)
    · refine ⟨fun _ => ⟨fun i hi => ?_, fun other hother => ?_⟩,
        fun h => absurd (hsuccess.mpr hall) h⟩
      · obtain ⟨v, hv⟩ := Option.isSome_iff_exists.mp (hall.2 i hi).given
        refine ⟨v, (hvalue i hi).symm.trans hv, ?_⟩
        rw [hwritten i hi fun j hj => hall.2 j (Nat.lt_of_le_of_lt hj hi), hv]
      · exact hkept other fun i hi heq => absurd heq (hother i hi)
    · refine ⟨fun h => absurd (hsuccess.mp h) hall, fun _ other => ?_⟩
      by_cases hin : ∃ i < n.toNat, other = address.toNat + i ∧
          ∀ j ≤ i, l.Accepted asked value' address n j
      · obtain ⟨i, hi, rfl, haccepted⟩ := hin
        rw [hwritten i hi haccepted, hrepeats i hi haccepted]
      · exact hkept other fun i hi heq haccepted => hin ⟨i, hi, heq, haccepted⟩

/-- A batch that has a value for each address of the request. -/
lemma allOrNothing_iff_of_complete {success : Prop}
    {asked : UInt16 → UInt16 → Nat → Fallible Unit}
    (hsuccess : success ↔ l.AcceptsAll asked value address count)
    (hspec : (∀ i < count.toNat, (∀ j ≤ i, l.Accepted asked value address count j) →
        fieldAt maps (address.toNat + i) = value i) ∧
      ∀ other, (∀ i < count.toNat, other = address.toNat + i →
        ¬∀ j ≤ i, l.Accepted asked value address count j) → fieldAt maps other = l.get other) :
    AllOrNothing l value address count success maps ↔
      l.AcceptsAll asked value address count ∨ l.Repeats asked value address count := by
  rw [allOrNothing_iff le_rfl (fun _ _ => rfl) (fun h => absurd rfl h) hsuccess hspec,
    and_iff_left rfl]
  constructor
  · rintro (h | h)
    · exact Or.inl h
    · exact Or.inr h.2
  · rintro (h | h)
    · exact Or.inl h
    · by_cases hall : l.AcceptsAll asked value address count
      · exact Or.inl hall
      · exact Or.inr ⟨hall, h⟩

end

/-! ### The words of a request -/

lemma length_decodeWords (data : List UInt8) : (decodeWords data).length = data.length / 2 := by
  fun_induction decodeWords data with
  | case1 hi lo rest ih =>
    rw [List.length_cons, ih, List.length_cons, List.length_cons]
    omega
  | case2 data h =>
    cases data with
    | nil => rfl
    | cons b rest =>
      cases rest with
      | nil => exact (Nat.div_eq_of_lt (show 1 < 2 by decide)).symm
      | cons b' rest => exact absurd rfl (h b b' rest)

lemma decodeWords_take (n : Nat) (data : List UInt8) :
    decodeWords (data.take (2 * n)) = (decodeWords data).take n := by
  induction n generalizing data with
  | zero => rfl
  | succ n ih =>
    rw [Nat.mul_succ]
    cases data with
    | nil => rfl
    | cons b rest =>
      cases rest with
      | nil => rfl
      | cons b' rest =>
        rw [List.take_succ_cons, List.take_succ_cons, decodeWords, decodeWords, List.take_succ_cons,
          ih]

/-- Data that fits into a request is decoded as far as the count goes. -/
lemma decodeRegisters_eq {capacity : Nat} {data : List UInt8} (h : data.length / 2 ≤ capacity)
    (count : UInt16) :
    decodeRegisters capacity count data = (decodeWords data).take count.toNat := by
  have htake : data.take (min (count.toNat * 2) data.length) = data.take (2 * count.toNat) := by
    rw [Nat.mul_comm, ← List.take_eq_take_min]
  rw [decodeRegisters, htake, decodeWords_take, List.take_of_length_le]
  rw [List.length_take, length_decodeWords]
  omega

/-! ### The five writes -/

section

variable {coils : Layout Bool} {registers : Layout UInt16} {coilHook : Option (BatchHook UInt8)}
  {registerHook : Option (BatchHook UInt16)} {address count : UInt16}

/-- The batch of coils is accepted as a whole, or what is written of it changes nothing. -/
def CoilsCommit (hook : Option (BatchHook UInt8)) (l : Layout Bool) (address count : UInt16)
    (data : List UInt8) : Prop :=
  l.AcceptsAll (askedCoils hook data) (coilAt data) address count ∨
    l.Repeats (askedCoils hook data) (coilAt data) address count

/-- The batch of registers is accepted as a whole, with a value for each address of the request,
or it is refused and what is written of it changes nothing. -/
def RegistersCommit (hook : Option (BatchHook UInt16)) (l : Layout UInt16)
    (address count : UInt16) (values : List UInt16) : Prop :=
  (l.AcceptsAll (askedRegisters hook values) (values[·]?) address (UInt16.ofNat values.length) ∧
      values.length = count.toNat) ∨
    (¬l.AcceptsAll (askedRegisters hook values) (values[·]?) address
        (UInt16.ofNat values.length) ∧
      l.Repeats (askedRegisters hook values) (values[·]?) address (UInt16.ofNat values.length))

lemma writeCoils_allOrNothing_iff {data : List UInt8} {success : Prop}
    (hsuccess : success ↔ (writeCoils coilHook coils address count data).1 = .ok ()) :
    AllOrNothing coils (coilAt data) address count success
        (writeCoils coilHook coils address count data).2 ↔
      CoilsCommit coilHook coils address count data := by
  obtain ⟨hok, hspec⟩ := writeCoils_spec coilHook coils address count data
  exact allOrNothing_iff_of_complete (hsuccess.trans hok) hspec

/-- Values that are decoded up to the count of the request. -/
lemma writeRegisters_allOrNothing_iff {words : List UInt16} {success : Prop}
    (hsuccess : success ↔
      (writeRegisters registerHook registers address (words.take count.toNat)).1 = .ok ()) :
    AllOrNothing registers (words[·]?) address count success
        (writeRegisters registerHook registers address (words.take count.toNat)).2 ↔
      RegistersCommit registerHook registers address count (words.take count.toNat) := by
  have hlength : (words.take count.toNat).length ≤ count.toNat := List.length_take_le _ _
  have hcount := count.toNat_lt
  have hn : (UInt16.ofNat (words.take count.toNat).length).toNat =
      (words.take count.toNat).length := by
    rw [UInt16.toNat_ofNat']
    omega
  obtain ⟨hok, hspec⟩ := writeRegisters_spec registerHook registers address hn.symm
  have hsame : (words.take count.toNat).length = count.toNat ↔
      UInt16.ofNat (words.take count.toNat).length = count := by
    rw [← UInt16.toNat_inj, hn]
  rw [RegistersCommit, hsame]
  refine allOrNothing_iff (by rwa [hn]) (fun i hi => ?_) (fun hne => ?_) (hsuccess.trans hok) hspec
  · rw [hn] at hi
    exact List.getElem?_take_of_lt (by omega)
  · rw [hn]
    rw [Ne, ← hsame, List.length_take] at hne
    refine List.getElem?_eq_none ?_
    rw [List.length_take]
    omega

/-- A batch without values is accepted. -/
lemma acceptsAll_zero {α : Type} {l : Layout α}
    {asked : UInt16 → UInt16 → Nat → Fallible Unit} {value : Nat → Option α} :
    l.AcceptsAll asked value address 0 :=
  ⟨Or.inl rfl, fun i hi => absurd hi (Nat.not_lt_zero i)⟩

variable [Features]

lemma multiWriteResponse_eq_ok {fc : FunctionCode} {result : Fallible Unit} :
    multiWriteResponse fc address count result = .ok (.echoMultiWrite fc address count) ↔
      result = .ok () := by
  cases result with
  | ok u => exact iff_of_true rfl rfl
  | err e => exact iff_of_false nofun nofun
  | panic => exact iff_of_false nofun nofun

/-- Batch writes are all or nothing exactly when they are accepted as a whole or repeat what the
fields hold up to the first refusal, for the two handlers of `#[modbus_app]`, and for the arms of
`#[async_modbus_app]` when the data has all registers that the count promises. -/
theorem batchWrites_allOrNothing_iff (coils : Layout Bool) (registers : Layout UInt16)
    (coilHook : Option (BatchHook UInt8)) (registerHook : Option (BatchHook UInt16))
    (address count : UInt16) :
    (∀ data, AllOrNothing coils (coilAt data) address count
        ((ModbusApp.writeMultipleCoilsRequest coilHook coils address count data).1 = .ok ())
        (ModbusApp.writeMultipleCoilsRequest coilHook coils address count data).2 ↔
      CoilsCommit coilHook coils address count data) ∧
    (∀ values : List UInt16, values.length = count.toNat →
      (AllOrNothing registers (values[·]?) address count
        ((ModbusApp.writeMultipleRegistersRequest registerHook registers address values).1 = .ok ())
        (ModbusApp.writeMultipleRegistersRequest registerHook registers address values).2 ↔
      RegistersCommit registerHook registers address count values)) ∧
    (∀ data, AllOrNothing coils (coilAt data) address count
        ((writeMultipleCoilsArm coilHook coils address count data).1 =
          .ok (.echoMultiWrite .writeMultipleCoils address count))
        (writeMultipleCoilsArm coilHook coils address count data).2 ↔
      CoilsCommit coilHook coils address count data) ∧
    (∀ data : List UInt8, 5 + data.length ≤ maxPduDataLen →
      (AllOrNothing registers ((decodeWords data)[·]?) address count
        ((writeMultipleRegistersArm registerHook registers address count data).1 =
          .ok (.echoMultiWrite .writeMultipleRegisters address count))
        (writeMultipleRegistersArm registerHook registers address count data).2 ↔
      registers.maps = [] ∨ RegistersCommit registerHook registers address count
        ((decodeWords data).take count.toNat))) ∧
    ∀ (readCount : UInt16) (data : List UInt8), 9 + data.length ≤ maxPduDataLen →
      (AllOrNothing registers ((decodeWords data)[·]?) address count
        ((readWriteWritePart registerHook registers readCount address count data).1 = .ok none)
        (readWriteWritePart registerHook registers readCount address count data).2 ↔
      (registers.maps = [] ∨ ¬((1 ≤ count ∧ count ≤ 121) ∧ 1 ≤ readCount ∧ readCount ≤ 125)) ∨
        RegistersCommit registerHook registers address count
          ((decodeWords data).take count.toNat)) := by
  refine ⟨fun data => ?_, fun values hvalues => ?_, fun data => ?_, fun data hdata => ?_,
    fun readCount data hdata => ?_⟩
  · rw [ModbusApp.writeMultipleCoilsRequest]
    by_cases hzero : count = 0
    · subst hzero
      rw [if_pos rfl]
      exact iff_of_true (.of_unchanged nofun) (Or.inl acceptsAll_zero)
    · rw [if_neg hzero]
      exact writeCoils_allOrNothing_iff Iff.rfl
  · rw [ModbusApp.writeMultipleRegistersRequest]
    have htake : values.take count.toNat = values := List.take_of_length_le (by omega)
    by_cases hempty : values.isEmpty = true
    · rw [if_pos hempty]
      rw [List.isEmpty_iff.mp hempty] at hvalues ⊢
      exact iff_of_true (.of_unchanged nofun) (Or.inl ⟨acceptsAll_zero, hvalues⟩)
    · rw [if_neg hempty]
      have hiff := @writeRegisters_allOrNothing_iff registers registerHook address count values _
        Iff.rfl
      rwa [htake] at hiff
  · rw [writeMultipleCoilsArm]
    by_cases hempty : coils.maps.isEmpty = true
    · rw [if_pos hempty]
      refine iff_of_true (.of_unchanged nofun) (Or.inr fun i _ h => ?_)
      have hmapped := (h 0 (Nat.zero_le i)).mapped
      rw [Layout.get_eq_none fun m hm => ?_] at hmapped
      · cases hmapped
      · rw [List.isEmpty_iff.mp hempty] at hm
        cases hm
    · rw [if_neg hempty]
      exact writeCoils_allOrNothing_iff multiWriteResponse_eq_ok
  · rw [writeMultipleRegistersArm]
    change 5 + data.length ≤ 252 at hdata
    by_cases hempty : registers.maps.isEmpty = true
    · rw [if_pos hempty]
      exact iff_of_true (.of_unchanged nofun) (Or.inl (List.isEmpty_iff.mp hempty))
    · rw [if_neg hempty, or_iff_right fun h => hempty (List.isEmpty_iff.mpr h),
        decodeRegisters_eq (by omega)]
      exact writeRegisters_allOrNothing_iff multiWriteResponse_eq_ok
  · rw [readWriteWritePart]
    change 9 + data.length ≤ 252 at hdata
    by_cases hempty : registers.maps.isEmpty = true
    · rw [if_pos hempty]
      exact iff_of_true (.of_unchanged nofun) (Or.inl (Or.inl (List.isEmpty_iff.mp hempty)))
    · have hne : registers.maps ≠ [] := fun h => hempty (List.isEmpty_iff.mpr h)
      have hcheck : (!(decide (1 ≤ count) && decide (count ≤ 121)) ||
          !(decide (1 ≤ readCount) && decide (readCount ≤ 125))) = true ↔
          ¬((1 ≤ count ∧ count ≤ 121) ∧ 1 ≤ readCount ∧ readCount ≤ 125) := by
        rw [← Bool.not_and, Bool.not_eq_true', Bool.eq_false_iff, Ne, Bool.and_eq_true,
          Bool.and_eq_true, Bool.and_eq_true, decide_eq_true_iff, decide_eq_true_iff,
          decide_eq_true_iff, decide_eq_true_iff]
      rw [if_neg hempty, or_iff_right hne]
      by_cases hbad : ¬((1 ≤ count ∧ count ≤ 121) ∧ 1 ≤ readCount ∧ readCount ≤ 125)
      · rw [if_pos (hcheck.mpr hbad)]
        exact iff_of_true (.of_unchanged nofun) (Or.inl hbad)
      · rw [if_neg (hcheck.not.mpr hbad), or_iff_right hbad, decodeRegisters_eq (by omega),
          ← writeRegisters_allOrNothing_iff Iff.rfl]
        generalize writeRegisters registerHook registers address _ = written
        obtain ⟨result, maps⟩ := written
        cases result with
        | ok u => exact iff_of_eq (congrArg (AllOrNothing _ _ _ _ · _) (by simp))
        | err e => exact iff_of_eq (congrArg (AllOrNothing _ _ _ _ · _) (by simp))
        | panic => exact iff_of_eq (congrArg (AllOrNothing _ _ _ _ · _) (by simp))

end

/-- Three registers in a row. -/
def threeRegisters : Layout UInt16 where
  maps := [⟨[(10, 0), (11, 0)], by decide⟩, ⟨[(12, 0)], by decide⟩]
  disjoint := by decide
  ordered := by decide

/-- Two coils with an address between them that belongs to neither. -/
def gappedCoils : Layout Bool where
  maps := [⟨[(10, false), (12, false)], by decide⟩]
  disjoint := by decide
  ordered := by decide

theorem batchWrites_allOrNothing_three :
    letI : Features := Features.minimal
    (AllOrNothing threeRegisters (([1, 2, 3] : List UInt16)[·]?) 10 3
        ((ModbusApp.writeMultipleRegistersRequest none threeRegisters 10 [1, 2, 3]).1 = .ok ())
        (ModbusApp.writeMultipleRegistersRequest none threeRegisters 10 [1, 2, 3]).2 ↔
      RegistersCommit none threeRegisters 10 3 [1, 2, 3]) ∧
    (AllOrNothing threeRegisters ((decodeWords [0, 1, 0, 2])[·]?) 10 3
        ((writeMultipleRegistersArm none threeRegisters 10 3 [0, 1, 0, 2]).1 =
          .ok (.echoMultiWrite .writeMultipleRegisters 10 3))
        (writeMultipleRegistersArm none threeRegisters 10 3 [0, 1, 0, 2]).2 ↔
      threeRegisters.maps = [] ∨ RegistersCommit none threeRegisters 10 3
        ((decodeWords [0, 1, 0, 2]).take (3 : UInt16).toNat)) ∧
    (AllOrNothing threeRegisters ((decodeWords [0, 1, 0, 2])[·]?) 10 3
        ((readWriteWritePart none threeRegisters 1 10 3 [0, 1, 0, 2]).1 = .ok none)
        (readWriteWritePart none threeRegisters 1 10 3 [0, 1, 0, 2]).2 ↔
      (threeRegisters.maps = [] ∨
          ¬((1 ≤ (3 : UInt16) ∧ (3 : UInt16) ≤ 121) ∧ 1 ≤ (1 : UInt16) ∧ (1 : UInt16) ≤ 125)) ∨
        RegistersCommit none threeRegisters 10 3
          ((decodeWords [0, 1, 0, 2]).take (3 : UInt16).toNat)) := by
  let _ := Features.minimal
  obtain ⟨_, hregisters, _, harm, hpart⟩ :=
    batchWrites_allOrNothing_iff gappedCoils threeRegisters none none 10 3
  exact ⟨hregisters [1, 2, 3] rfl, harm [0, 1, 0, 2] (by decide),
    hpart 1 [0, 1, 0, 2] (by decide)⟩

theorem gappedCoils_not_allOrNothing :
    ¬∀ (hook : Option (BatchHook UInt8)) (l : Layout Bool) (address count : UInt16)
      (data : List UInt8), AllOrNothing l (coilAt data) address count
        ((ModbusApp.writeMultipleCoilsRequest hook l address count data).1 = .ok ())
        (ModbusApp.writeMultipleCoilsRequest hook l address count data).2 := by
  intro h
  have hrefused : (ModbusApp.writeMultipleCoilsRequest none gappedCoils 10 3 [5]).1.isOk = false := by
    decide +kernel
  have hkept := (h none gappedCoils 10 3 [5]).nothing (fun hok => by
    rw [hok] at hrefused
    cases hrefused) 10
  exact absurd hkept (by decide +kernel)

end ModbusRs
