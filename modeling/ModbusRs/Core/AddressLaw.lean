import ModbusRs.Core.Models

/-!
# Blocks as maps of their addresses

A block of coils or registers is meant as a total map on its addresses. The end of the block is
computed in 16 bits, so the law fails for the blocks that reach the address 65535, and only there.
-/

namespace ModbusRs

open Outcome

/-! ### Bits of a byte -/

/-- The bit `index` of a byte. -/
def bitMask (index : Nat) : UInt8 := (1 : UInt8) <<< UInt8.ofNat index

lemma byte_or_and (a b c : UInt8) : (a ||| b) &&& c = a &&& c ||| b &&& c := by
  rw [← UInt8.toBitVec_inj]
  ext i
  simp [Bool.and_or_distrib_right]

lemma bitMask_ne_zero {i : Nat} (hi : i < 8) : bitMask i ≠ 0 := by
  have hall : ∀ i < 8, bitMask i ≠ 0 := by decide
  exact hall i hi

/-- Different bits have nothing in common. -/
lemma bitMask_and {i j : Nat} (hi : i < 8) (hj : j < 8) (hij : i ≠ j) :
    bitMask i &&& bitMask j = 0 ∧ ~~~bitMask i &&& bitMask j = bitMask j := by
  have hall : ∀ i < 8, ∀ j < 8, i ≠ j →
      bitMask i &&& bitMask j = 0 ∧ ~~~bitMask i &&& bitMask j = bitMask j := by decide
  exact hall i hi j hj hij

/-- The byte with one bit written. -/
def writeBit (byte : UInt8) (i : Nat) (value : Bool) : UInt8 :=
  if value then byte ||| bitMask i else byte &&& ~~~bitMask i

lemma writeBit_and_self (byte : UInt8) {i : Nat} (hi : i < 8) (value : Bool) :
    (writeBit byte i value &&& bitMask i != 0) = value := by
  cases value with
  | false => simp [writeBit, UInt8.and_assoc]
  | true =>
    have hself : (byte ||| bitMask i) &&& bitMask i = bitMask i := by
      rw [← UInt8.toBitVec_inj]
      ext k
      simpa using .inr
    rw [writeBit, if_pos rfl, hself]
    exact bne_iff_ne.mpr (bitMask_ne_zero hi)

lemma writeBit_and_of_ne (byte : UInt8) {i j : Nat} (hi : i < 8) (hj : j < 8) (hij : i ≠ j)
    (value : Bool) : writeBit byte i value &&& bitMask j = byte &&& bitMask j := by
  cases value with
  | false =>
    rw [writeBit, if_neg Bool.false_ne_true, UInt8.and_assoc, (bitMask_and hi hj hij).2]
  | true =>
    rw [writeBit, if_pos rfl, byte_or_and, (bitMask_and hi hj hij).1, UInt8.or_zero]

/-- The bits of the packed bytes after one was written. -/
lemma bitAt_writeBit {bytes bytes' : List UInt8} {i : Nat} {value : Bool}
    (hi : i / 8 < bytes.length)
    (hbytes : bytes' = bytes.set (i / 8) (writeBit (bytes.getD (i / 8) 0) (i % 8) value)) (j : Nat) :
    bitAt bytes' j = if j = i then value else bitAt bytes j := by
  have hlt (k : Nat) : k % 8 < 8 := Nat.mod_lt k (by decide)
  have hget : bytes'.getD (j / 8) 0 = if i / 8 = j / 8 then
      writeBit (bytes.getD (i / 8) 0) (i % 8) value else bytes.getD (j / 8) 0 := by
    simp only [hbytes, List.getD_eq_getElem?_getD, List.getElem?_set]
    rw [if_pos hi]
    split <;> rfl
  rw [bitAt, bitAt, hget]
  by_cases hji : j = i
  · subst hji
    rw [if_pos rfl, if_pos rfl]
    exact writeBit_and_self _ (hlt j) value
  · rw [if_neg hji]
    by_cases hbyte : i / 8 = j / 8
    · have hbit : i % 8 ≠ j % 8 := by omega
      rw [if_pos hbyte, hbyte]
      exact congrArg (· != 0) (writeBit_and_of_ne _ (hlt i) (hlt j) hbit value)
    · rw [if_neg hbyte]

/-! ### Addresses of a block -/

/-- The block has the address. -/
def Covers (fromAddress quantity address : UInt16) : Prop :=
  fromAddress.toNat ≤ address.toNat ∧ address.toNat < fromAddress.toNat + quantity.toNat

variable {fromAddress quantity address : UInt16}

/-- The addresses of a block that ends before the address space does. -/
lemma covers_iff (hend : fromAddress.toNat + quantity.toNat ≤ 65535) :
    Covers fromAddress quantity address ↔
      ∃ i < quantity.toNat, address = fromAddress + UInt16.ofNat i := by
  constructor
  · rintro ⟨hle, hlt⟩
    refine ⟨address.toNat - fromAddress.toNat, by omega, UInt16.toNat_inj.mp ?_⟩
    rw [toNat_add_ofNat hend (by omega)]
    omega
  · rintro ⟨i, hi, rfl⟩
    rw [Covers, toNat_add_ofNat hend hi]
    omega

section Check

variable [Features]

lemma checkAddress_of_not_covers (hend : fromAddress.toNat + quantity.toNat ≤ 65535)
    (h : ¬Covers fromAddress quantity address) :
    BitBlock.checkAddress fromAddress quantity address = .err .invalidAddress := by
  have hsum : (fromAddress + quantity).toNat = fromAddress.toNat + quantity.toNat := by
    rw [UInt16.toNat_add]
    omega
  rw [Covers, not_and_or] at h
  rw [BitBlock.checkAddress]
  by_cases hlt : address < fromAddress
  · rw [decide_eq_true hlt]
    rfl
  · rw [UInt16.lt_iff_toNat_lt] at hlt
    rw [decide_eq_false (by rwa [UInt16.lt_iff_toNat_lt]), guardErr_false, ok_bind, addU16,
      if_neg (by omega), ok_bind, decide_eq_true (by
        rw [ge_iff_le, UInt16.le_iff_toNat_le]
        omega)]
    rfl

/-- The end of a block with the last address overflows: no address passes the check. -/
lemma checkAddress_ne_ok (hend : fromAddress.toNat + quantity.toNat = 65536) :
    BitBlock.checkAddress fromAddress quantity address ≠ .ok () := by
  have hsum : fromAddress + quantity = 0 := by
    rw [← UInt16.toNat_inj, UInt16.toNat_add, hend]
    rfl
  rw [BitBlock.checkAddress]
  by_cases hlt : address < fromAddress
  · rw [decide_eq_true hlt]
    rintro ⟨⟩
  · rw [decide_eq_false hlt, guardErr_false, ok_bind, addU16]
    split
    · rintro ⟨⟩
    · rw [hsum, ok_bind, decide_eq_true (UInt16.zero_le)]
      rintro ⟨⟩

end Check

/-! ### The law -/

/-- Reading gives a value at every address of the block, and refuses all others. -/
def ReadsTotally {β : Type} (fromAddress quantity : UInt16) (value : UInt16 → Fallible β) : Prop :=
  ∀ address, (Covers fromAddress quantity address → ∃ v, value address = .ok v) ∧
    (¬Covers fromAddress quantity address → value address = .err .invalidAddress)

/-- A kind of blocks that can be written. -/
structure BlockModel (τ β : Type) where
  fromAddress : τ → UInt16
  quantity : τ → UInt16
  value : τ → UInt16 → Fallible β
  setValue : τ → UInt16 → β → Fallible τ

/-- The last value of a sequence of writes that goes to the address. -/
def lastSet {β : Type} (address : UInt16) : List (UInt16 × β) → Option β
  | [] => none
  | (a, v) :: sets =>
    match lastSet address sets with
    | some w => some w
    | none => if a = address then some v else none

namespace BlockModel

variable {τ β : Type}

/-- The block after a sequence of writes; a write that is refused leaves it as it is. -/
def setAll (M : BlockModel τ β) (block : τ) : List (UInt16 × β) → Fallible τ
  | [] => .ok block
  | (address, v) :: sets =>
    match M.setValue block address v with
    | .ok next => M.setAll next sets
    | .err _ => M.setAll block sets
    | .panic => .panic

/-- After any sequence of writes an address of the block has the last value written there, or else
the value it had; addresses outside are refused for reading and writing; nothing overflows. -/
def HoldsLastSet (M : BlockModel τ β) (block : τ) : Prop :=
  ∀ sets : List (UInt16 × β), ∃ block', M.setAll block sets = .ok block' ∧ ∀ address,
    (Covers (M.fromAddress block) (M.quantity block) address →
      (∃ v, M.value block' address = .ok v ∧
        (lastSet address sets).elim (M.value block address) .ok = .ok v) ∧
      ∀ v, ∃ next, M.setValue block' address v = .ok next) ∧
    (¬Covers (M.fromAddress block) (M.quantity block) address →
      M.value block' address = .err .invalidAddress ∧
        ∀ v, M.setValue block' address v = .err .invalidAddress)

lemma HoldsLastSet.reads {M : BlockModel τ β} {block : τ} (h : M.HoldsLastSet block) :
    ReadsTotally (M.fromAddress block) (M.quantity block) (M.value block) := by
  obtain ⟨block', hall, hlaw⟩ := h []
  cases hall
  refine fun address => ⟨fun hcovers => ?_, fun hcovers => ((hlaw address).2 hcovers).1⟩
  obtain ⟨⟨v, hv, _⟩, _⟩ := (hlaw address).1 hcovers
  exact ⟨v, hv⟩

/-- What one read and one write of a block do. -/
structure Lawful (M : BlockModel τ β) (block : τ) : Prop where
  reads : ReadsTotally (M.fromAddress block) (M.quantity block) (M.value block)
  refuses : ∀ address v, ¬Covers (M.fromAddress block) (M.quantity block) address →
    M.setValue block address v = .err .invalidAddress
  sets : ∀ address v, Covers (M.fromAddress block) (M.quantity block) address →
    ∃ next, M.setValue block address v = .ok next ∧
      M.fromAddress next = M.fromAddress block ∧ M.quantity next = M.quantity block ∧
      ∀ other, Covers (M.fromAddress block) (M.quantity block) other →
        M.value next other = if other = address then .ok v else M.value block other

/-- A block is lawful for all writes when all blocks at its place are for one. -/
theorem holdsLastSet {M : BlockModel τ β} {block : τ}
    (h : ∀ b, M.fromAddress b = M.fromAddress block → M.quantity b = M.quantity block →
      M.Lawful b) : M.HoldsLastSet block := by
  intro sets
  induction sets generalizing block with
  | nil =>
    have hblock := h block rfl rfl
    refine ⟨block, rfl, fun address => ⟨fun hcovers => ⟨?_, fun v => ?_⟩, fun hcovers => ⟨?_, ?_⟩⟩⟩
    · obtain ⟨v, hv⟩ := (hblock.reads address).1 hcovers
      exact ⟨v, hv, hv⟩
    · obtain ⟨next, hnext, _⟩ := hblock.sets address v hcovers
      exact ⟨next, hnext⟩
    · exact (hblock.reads address).2 hcovers
    · exact fun v => hblock.refuses address v hcovers
  | cons set sets ih =>
    obtain ⟨a, v⟩ := set
    have hblock := h block rfl rfl
    by_cases ha : Covers (M.fromAddress block) (M.quantity block) a
    · obtain ⟨next, hnext, hfrom, hquantity, hvalue⟩ := hblock.sets a v ha
      have hrest : ∀ b, M.fromAddress b = M.fromAddress next →
          M.quantity b = M.quantity next → M.Lawful b := fun b hb hb' =>
        h b (hb.trans hfrom) (hb'.trans hquantity)
      obtain ⟨block', hall, hlaw⟩ := ih hrest
      rw [hfrom, hquantity] at hlaw
      refine ⟨block', by rw [setAll, hnext]; exact hall, fun address => ⟨fun hcovers => ?_,
        (hlaw address).2⟩⟩
      obtain ⟨⟨w, hw, hlast⟩, hsets⟩ := (hlaw address).1 hcovers
      refine ⟨⟨w, hw, ?_⟩, hsets⟩
      rw [lastSet]
      cases hlater : lastSet address sets with
      | some u => rwa [hlater] at hlast
      | none =>
        rw [hlater, Option.elim_none, hvalue address hcovers] at hlast
        by_cases heq : a = address
        · rw [if_pos heq.symm] at hlast
          rwa [if_pos heq]
        · rw [if_neg fun h => heq h.symm] at hlast
          rwa [if_neg heq]
    · obtain ⟨block', hall, hlaw⟩ := ih h
      refine ⟨block', by rw [setAll, hblock.refuses a v ha]; exact hall, fun address =>
        ⟨fun hcovers => ?_, (hlaw address).2⟩⟩
      obtain ⟨⟨w, hw, hlast⟩, hsets⟩ := (hlaw address).1 hcovers
      refine ⟨⟨w, hw, ?_⟩, hsets⟩
      have hne : a ≠ address := fun heq => ha (heq ▸ hcovers)
      rw [lastSet, if_neg hne]
      cases hrest : lastSet address sets <;> rwa [hrest] at hlast

end BlockModel

section Models

variable [Features]

/-- `Coils`. -/
def coilModel : BlockModel Coils Bool where
  fromAddress := BitBlock.fromAddress
  quantity := BitBlock.quantity
  value := BitBlock.value
  setValue := BitBlock.setValue

/-- `HoldingRegisters<N>`. -/
def holdingRegisterModel (n : Nat) : BlockModel (Registers n) UInt16 where
  fromAddress := Registers.fromAddress
  quantity := Registers.quantity
  value := Registers.value
  setValue := Registers.setValue

/-- A read and a write of an address outside are refused. -/
lemma bitBlock_refuses (block : BitBlock) (hend : block.fromAddress.toNat +
    block.quantity.toNat ≤ 65535) (h : ¬Covers block.fromAddress block.quantity address) :
    block.value address = .err .invalidAddress ∧
      ∀ v, block.setValue address v = .err .invalidAddress := by
  have hcheck := checkAddress_of_not_covers hend h
  refine ⟨?_, fun v => ?_⟩
  · rw [BitBlock.value, hcheck]
    rfl
  · rw [BitBlock.setValue, hcheck]
    rfl

lemma bitBlock_reads (block : BitBlock)
    (hend : block.fromAddress.toNat + block.quantity.toNat ≤ 65535) :
    ReadsTotally block.fromAddress block.quantity block.value := by
  refine fun address => ⟨fun hcovers => ?_, fun hcovers => (bitBlock_refuses block hend hcovers).1⟩
  obtain ⟨i, hi, rfl⟩ := (covers_iff hend).mp hcovers
  exact ⟨_, block.value_add hend hi⟩

omit [Features] in
/-- Different offsets are different addresses. -/
lemma add_ofNat_inj {i j : Nat} (hend : fromAddress.toNat + quantity.toNat ≤ 65535)
    (hi : i < quantity.toNat) (hj : j < quantity.toNat) :
    fromAddress + UInt16.ofNat i = fromAddress + UInt16.ofNat j ↔ i = j := by
  refine ⟨fun heq => ?_, fun heq => heq ▸ rfl⟩
  have hnat := congrArg UInt16.toNat heq
  rw [toNat_add_ofNat hend hi, toNat_add_ofNat hend hj] at hnat
  omega

lemma BitBlock.setValue_add (block : BitBlock) {i : Nat}
    (hend : block.fromAddress.toNat + block.quantity.toNat ≤ 65535)
    (hi : i < block.quantity.toNat) (v : Bool) :
    ∃ next, block.setValue (block.fromAddress + UInt16.ofNat i) v = .ok next ∧
      next.fromAddress = block.fromAddress ∧ next.quantity = block.quantity ∧
      ∀ j, bitAt next.values.toList j = if j = i then v else bitAt block.values.toList j := by
  have hle : block.quantity.toNat ≤ 2000 := block.quantity_le
  have hlen : i / 8 < block.values.toList.length := by
    rw [Vector.length_toList]
    change _ < 250
    omega
  rw [setValue, checkAddress_add hend hi, ok_bind, add_ofNat_sub hend hi]
  dsimp only
  rw [index_of_lt hlen, ok_bind]
  refine ⟨_, rfl, rfl, rfl, fun j => bitAt_writeBit hlen ?_ j⟩
  rw [Vector.toList_setIfInBounds, List.getD_eq_getElem?_getD, List.getElem?_eq_getElem hlen]
  rfl

lemma lawful_coilModel (coils : Coils)
    (hend : coils.fromAddress.toNat + coils.quantity.toNat ≤ 65535) :
    coilModel.Lawful coils where
  reads := bitBlock_reads coils hend
  refuses _ v hcovers := (bitBlock_refuses coils hend hcovers).2 v
  sets address v hcovers := by
    obtain ⟨i, hi, rfl⟩ := (covers_iff hend).mp hcovers
    obtain ⟨next, hset, hfrom, hquantity, hbits⟩ := coils.setValue_add hend hi v
    refine ⟨next, hset, hfrom, hquantity, fun other hother => ?_⟩
    obtain ⟨j, hj, rfl⟩ := (covers_iff hend).mp hother
    have hvalue : next.value (coils.fromAddress + UInt16.ofNat j) =
        .ok (bitAt next.values.toList j) := by
      rw [← hfrom]
      exact next.value_add (by rwa [hfrom, hquantity]) (by rwa [hquantity])
    simp only [add_ofNat_inj hend hj hi]
    refine hvalue.trans ?_
    rw [hbits]
    split
    · rfl
    · exact (coils.value_add hend hj).symm

lemma Registers.setValue_add {n : Nat} (registers : Registers n) {i : Nat}
    (hend : registers.fromAddress.toNat + registers.quantity.toNat ≤ 65535)
    (hi : i < registers.quantity.toNat) (v : UInt16) :
    ∃ next, registers.setValue (registers.fromAddress + UInt16.ofNat i) v = .ok next ∧
      next.fromAddress = registers.fromAddress ∧ next.quantity = registers.quantity ∧
      ∀ j, next.values.toList.getD j 0 = if j = i then v else registers.values.toList.getD j 0 := by
  have hlt : i < n := Nat.lt_of_lt_of_le hi registers.quantity_le
  rw [setValue, BitBlock.checkAddress_add hend hi, ok_bind, add_ofNat_sub hend hi]
  dsimp only
  rw [if_pos hlt]
  refine ⟨_, rfl, rfl, rfl, fun j => ?_⟩
  have hlen : i < registers.values.toList.length := by rwa [Vector.length_toList]
  rw [Vector.toList_setIfInBounds, List.getD_eq_getElem?_getD, List.getElem?_set, if_pos hlen]
  by_cases hij : i = j
  · rw [if_pos hij, if_pos hij.symm]
    rfl
  · rw [if_neg hij, if_neg fun h => hij h.symm, List.getD_eq_getElem?_getD]

lemma registers_refuses {n : Nat} (registers : Registers n)
    (hend : registers.fromAddress.toNat + registers.quantity.toNat ≤ 65535)
    (h : ¬Covers registers.fromAddress registers.quantity address) :
    registers.value address = .err .invalidAddress ∧
      ∀ v, registers.setValue address v = .err .invalidAddress := by
  have hcheck := checkAddress_of_not_covers hend h
  refine ⟨?_, fun v => ?_⟩
  · rw [Registers.value, hcheck]
    rfl
  · rw [Registers.setValue, hcheck]
    rfl

lemma registers_reads {n : Nat} (registers : Registers n)
    (hend : registers.fromAddress.toNat + registers.quantity.toNat ≤ 65535) :
    ReadsTotally registers.fromAddress registers.quantity registers.value := by
  refine fun address => ⟨fun hcovers => ?_, fun hcovers =>
    (registers_refuses registers hend hcovers).1⟩
  obtain ⟨i, hi, rfl⟩ := (covers_iff hend).mp hcovers
  exact ⟨_, registers.value_add hend hi⟩

lemma lawful_holdingRegisterModel {n : Nat} (registers : Registers n)
    (hend : registers.fromAddress.toNat + registers.quantity.toNat ≤ 65535) :
    (holdingRegisterModel n).Lawful registers where
  reads := registers_reads registers hend
  refuses _ v hcovers := (registers_refuses registers hend hcovers).2 v
  sets address v hcovers := by
    obtain ⟨i, hi, rfl⟩ := (covers_iff hend).mp hcovers
    obtain ⟨next, hset, hfrom, hquantity, hwords⟩ := registers.setValue_add hend hi v
    refine ⟨next, hset, hfrom, hquantity, fun other hother => ?_⟩
    obtain ⟨j, hj, rfl⟩ := (covers_iff hend).mp hother
    have hvalue : next.value (registers.fromAddress + UInt16.ofNat j) =
        .ok (next.values.toList.getD j 0) := by
      rw [← hfrom]
      exact next.value_add (by rwa [hfrom, hquantity]) (by rwa [hquantity])
    simp only [add_ofNat_inj hend hj hi]
    refine hvalue.trans ?_
    rw [hwords]
    split
    · rfl
    · exact (registers.value_add hend hj).symm

/-- A block with the last address refuses its own first address. -/
lemma not_readsTotally {β : Type} {value : UInt16 → Fallible β} {read : UInt16 → Fallible β}
    (hend : fromAddress.toNat + quantity.toNat = 65536)
    (hvalue : ∀ address, value address =
      BitBlock.checkAddress fromAddress quantity address >>= fun _ => read address) :
    ¬ReadsTotally fromAddress quantity value := by
  intro h
  have hfirst : Covers fromAddress quantity fromAddress := by
    have hlt := fromAddress.toNat_lt
    exact ⟨Nat.le_refl _, by omega⟩
  obtain ⟨v, hv⟩ := (h fromAddress).1 hfirst
  rw [hvalue] at hv
  obtain ⟨u, hcheck, _⟩ := bind_eq_ok.mp hv
  exact checkAddress_ne_ok hend hcheck

/-- The blocks of coils, discrete inputs and registers are total maps of their addresses exactly
when they end before the last address. -/
theorem addressLaw_iff (n : Nat) :
    (∀ coils : Coils, coils.fromAddress.toNat + coils.quantity.toNat ≤ 65536 →
      (coilModel.HoldsLastSet coils ↔
        coils.fromAddress.toNat + coils.quantity.toNat ≤ 65535)) ∧
    (∀ inputs : DiscreteInputs, inputs.fromAddress.toNat + inputs.quantity.toNat ≤ 65536 →
      (ReadsTotally inputs.fromAddress inputs.quantity inputs.value ↔
        inputs.fromAddress.toNat + inputs.quantity.toNat ≤ 65535)) ∧
    ∀ registers : Registers n,
      registers.fromAddress.toNat + registers.quantity.toNat ≤ 65536 →
      ((holdingRegisterModel n).HoldsLastSet registers ↔
        registers.fromAddress.toNat + registers.quantity.toNat ≤ 65535) ∧
      (ReadsTotally registers.fromAddress registers.quantity registers.value ↔
        registers.fromAddress.toNat + registers.quantity.toNat ≤ 65535) := by
  have hbits (block : BitBlock)
      (hle : block.fromAddress.toNat + block.quantity.toNat ≤ 65536) :
      ReadsTotally block.fromAddress block.quantity block.value ↔
        block.fromAddress.toNat + block.quantity.toNat ≤ 65535 := by
    refine ⟨fun h => ?_, bitBlock_reads block⟩
    by_contra hgt
    exact not_readsTotally (by omega) (fun _ => rfl) h
  have hwords (registers : Registers n)
      (hle : registers.fromAddress.toNat + registers.quantity.toNat ≤ 65536) :
      ReadsTotally registers.fromAddress registers.quantity registers.value ↔
        registers.fromAddress.toNat + registers.quantity.toNat ≤ 65535 := by
    refine ⟨fun h => ?_, registers_reads registers⟩
    by_contra hgt
    exact not_readsTotally (by omega) (fun _ => rfl) h
  refine ⟨fun coils hle => ⟨fun h => (hbits coils hle).mp h.reads, fun hend => ?_⟩, hbits,
    fun registers hle => ⟨⟨fun h => (hwords registers hle).mp h.reads, fun hend => ?_⟩,
      hwords registers hle⟩⟩
  · refine BlockModel.holdsLastSet fun b hfrom hquantity => lawful_coilModel b ?_
    change b.fromAddress = coils.fromAddress at hfrom
    change b.quantity = coils.quantity at hquantity
    rwa [hfrom, hquantity]
  · refine BlockModel.holdsLastSet fun b hfrom hquantity => lawful_holdingRegisterModel b ?_
    change b.fromAddress = registers.fromAddress at hfrom
    change b.quantity = registers.quantity at hquantity
    rwa [hfrom, hquantity]

end Models

/-- A coil at the last address. -/
theorem addressLaw_last : ¬∀ [Features] (coils : Coils),
    coils.fromAddress.toNat + coils.quantity.toNat ≤ 65536 → coilModel.HoldsLastSet coils := by
  intro h
  let _ := Features.minimal
  obtain ⟨coils, hnew, hfrom, hquantity⟩ : ∃ coils : Coils, BitBlock.new 65535 1 = .ok coils ∧
      coils.fromAddress = 65535 ∧ coils.quantity = 1 := ⟨_, rfl, rfl, rfl⟩
  have hlaw := h coils (by rw [hfrom, hquantity]; decide)
  refine not_readsTotally ?_ (fun _ => rfl) hlaw.reads
  change coils.fromAddress.toNat + coils.quantity.toNat = 65536
  rw [hfrom, hquantity]
  rfl

end ModbusRs
