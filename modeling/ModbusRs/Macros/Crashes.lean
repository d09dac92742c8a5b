import ModbusRs.Core.Layouts
import ModbusRs.Macros.App
import ModbusRs.Macros.Panics

/-!
# Requests that crash the generated handler

The handler panics on a read whose bits do not fit its buffer of 252 bytes, on a read of registers
with a part that crosses the end of this buffer, and, where a hook is asked for batches of coils,
on a batch with a part that crosses the end of the data. All other requests are answered.
-/

namespace ModbusRs

open Outcome

/-! ### Reads -/

lemma Layout.mapSegments_apart {α : Type} (l : Layout α) : Apart (mapSegments l.maps) := by
  intro seg hseg seg' hseg'
  obtain ⟨m, hm, rfl⟩ := List.mem_map.mp hseg
  obtain ⟨m', hm', rfl⟩ := List.mem_map.mp hseg'
  by_cases heq : m = m'
  · subst heq
    exact Or.inl rfl
  · have _ : Std.Symm fun a b : FieldMap α => a.addrMax < b.addrMin ∨ b.addrMax < a.addrMin :=
      ⟨fun _ _ h => h.symm⟩
    have hdisjoint := l.disjoint.forall hm hm' heq
    rw [UInt16.lt_iff_toNat_lt, UInt16.lt_iff_toNat_lt] at hdisjoint
    exact Or.inr hdisjoint

/-- An address with a field is in the range of its map. -/
lemma Layout.exists_mapSegment {α : Type} {l : Layout α} {address : Nat}
    (h : (l.get address).isSome = true) :
    ∃ seg ∈ mapSegments l.maps, seg.first.toNat ≤ address ∧ address ≤ seg.last.toNat := by
  by_contra hnone
  push Not at hnone
  rw [Layout.get_eq_none fun m hm => ?_] at h
  · cases h
  · have hout := hnone ⟨m.addrMin, m.addrMax, m⟩ (List.mem_map_of_mem hm)
    dsimp only at hout
    omega

/-- A walk over fields goes through where there are fields. -/
lemma walk_get_iff {α σ : Type} (get : Nat → Option α) (put : Nat → α → σ → σ)
    (n address offset : Nat) (s : σ) :
    (walk (fun a i s => (get a).map fun v => put i v s) n address offset s).1 = true ↔
      ∀ i < n, (get (address + i)).isSome = true := by
  have hwalk := walk_put get put n address offset s
  rw [← collect_isSome_iff]
  cases hcollect : collect get n address with
  | none =>
    rw [hcollect] at hwalk
    exact iff_of_false (Bool.not_eq_true _ ▸ hwalk) Bool.false_ne_true
  | some values =>
    rw [hcollect] at hwalk
    exact iff_of_true (congrArg Prod.fst hwalk) rfl

/-- A segment that puts the values of its addresses to their places. -/
lemma follows_of_found {α σ : Type} {get : Nat → Option α} {put : Nat → α → σ → σ}
    {n address offset : Nat} {s : σ} {result : Fallible σ}
    (hresult : result =
      found ((collect get n address).map fun values => place put offset values s)) :
    Follows False (intoOutput s result)
        (walk (fun a i s => (get a).map fun v => put i v s) n address offset s) ∧
      (intoOutput s result).1 ≠ .panic := by
  have hwalk := walk_put get put n address offset s
  subst hresult
  cases hcollect : collect get n address with
  | none =>
    rw [hcollect] at hwalk
    refine ⟨⟨iff_of_false nofun (Bool.not_eq_true _ ▸ hwalk), ?_⟩, nofun⟩
    exact fun h => h.elim (fun h => absurd (hwalk.symm.trans h) Bool.false_ne_true) False.elim
  | some values =>
    rw [hcollect] at hwalk
    dsimp only at hwalk
    rw [hwalk]
    exact ⟨⟨iff_of_true rfl rfl, fun _ => rfl⟩, nofun⟩

lemma readLoop_eq_panic_iff {α : Type}
    {read : FieldMap α → UInt16 → UInt16 → Nat → List UInt8 → Fallible (List UInt8)}
    {maps : List (FieldMap α)} {address quantity : UInt16} {out : List UInt8} :
    readLoop read maps address quantity out = .panic ↔
      (segmentLoop (mapSegments maps)
        (fun m cursor take offset out => intoOutput out (read m cursor take offset out))
        (quantity.toNat + 1) address quantity 0 out).1 = .panic := by
  rw [readLoop]
  generalize segmentLoop (mapSegments maps) _ _ address quantity 0 out = loop
  obtain ⟨result, out'⟩ := loop
  cases result with
  | ok u => exact iff_of_false (by rintro ⟨⟩) (by rintro ⟨⟩)
  | err e => exact iff_of_false (by rintro ⟨⟩) (by rintro ⟨⟩)
  | panic => exact iff_of_true rfl rfl

/-- A read of registers comes to a part that crosses the end of a buffer of 252 bytes. -/
def Layout.Overruns (l : Layout UInt16) (address count : UInt16) : Prop :=
  Overflows (mapSegments l.maps) (fun i => (l.get (address.toNat + i)).isSome = true) 126 address
    count

lemma length_place_putWord {words : List UInt16} {offset : Nat} {out : List UInt8}
    (hout : 2 * (offset + words.length) ≤ out.length) :
    (place putWord offset words out).length = out.length := by
  rw [place_putWord hout, List.length_append, List.length_append, List.length_take,
    List.length_drop, flatMap_toBeBytes_length]
  omega

lemma readWords_eq_panic {m : FieldMap UInt16} {cursor take : UInt16} {offset : Nat}
    {out : List UInt8} (h : out.length < 2 * (offset + take.toNat)) :
    readWords m cursor take offset out = .panic := by
  have hslice : slice (ε := MbusError) out (2 * offset) (2 * offset + take.toNat * 2) = .panic :=
    slice_eq_panic.mpr (Or.inr (by omega))
  rw [readWords, hslice]
  rfl

/-- A part of a read that fits the buffer leaves a buffer of the same size. -/
lemma readWords_keeps {l : Layout UInt16} {seg : Segment (FieldMap UInt16)}
    (hseg : seg ∈ mapSegments l.maps) {cursor remaining : UInt16}
    (hcontains : seg.contains cursor = true) (hpos : 0 < remaining.toNat) {offset : Nat}
    {out : List UInt8} (hout : 2 * (offset + (seg.take cursor remaining).toNat) ≤ out.length) :
    readWords seg.target cursor (seg.take cursor remaining) offset out =
        found ((collect l.get (seg.take cursor remaining).toNat cursor.toNat).map fun words =>
          place putWord offset words out) ∧
      (intoOutput out (readWords seg.target cursor (seg.take cursor remaining) offset
        out)).2.length = out.length := by
  have htake := Segment.toNat_take hcontains remaining
  rw [Segment.contains_iff] at hcontains
  obtain ⟨m, hm, rfl⟩ := List.mem_map.mp hseg
  generalize Segment.take _ cursor remaining = take at htake hout ⊢
  dsimp only at htake hcontains
  have hread := @readWords_eq cursor take (by omega) l m hm hcontains.1 (by omega) offset out hout
  refine ⟨hread, ?_⟩
  dsimp only
  rw [hread]
  cases hcollect : collect l.get take.toNat cursor.toNat with
  | none => rfl
  | some words =>
    have hlength := (collect_eq_some hcollect).1
    exact length_place_putWord (by omega)

lemma readWordsLoop_eq_panic_iff (l : Layout UInt16) (address count : UInt16) :
    readLoop readWords l.maps address count (List.replicate maxPduDataLen 0) = .panic ↔
      l.Overruns address count := by
  have hsize : (List.replicate maxPduDataLen (0 : UInt8)).length = 252 := List.length_replicate
  rw [readLoop_eq_panic_iff, Layout.Overruns,
    ← overflows_iff (fun a i s => (l.get a).map fun v => putWord i v s)
      (s := List.replicate maxPduDataLen 0) (fun i => Layout.exists_mapSegment)
      (fun i _ => walk_get_iff l.get putWord i address.toNat 0 _)]
  refine segmentLoop_eq_panic _
    (fun seg c remaining offset => 126 < offset + (seg.take c remaining).toNat)
    (P := fun out => out.length = 252) (Q := fun _ _ _ => True) l.mapSegments_apart ?_ ?_ (fun _ _ _ _ _ _ _ _ => trivial) ?_ address count hsize trivial
    (Nat.lt_succ_self _)
  · intro seg _ cursor remaining offset out hout _ _ _ hbad
    rw [readWords_eq_panic (by omega)]
    rfl
  · intro seg hseg cursor remaining offset out hout _ hcontains hpos hgood
    obtain ⟨hread, hkeeps⟩ := readWords_keeps hseg hcontains hpos
      (show 2 * (offset + (seg.take cursor remaining).toNat) ≤ out.length by omega)
    obtain ⟨hfollows, hne⟩ := follows_of_found hread
    exact ⟨hfollows, hne, fun _ => hkeeps.trans hout⟩
  · intro address' offset out h
    rw [Layout.get_eq_none fun m hm => h ⟨m.addrMin, m.addrMax, m⟩ (List.mem_map_of_mem hm)]
    rfl

/-- A part of a read of bits leaves a buffer of the same size. -/
lemma readBits_keeps {l : Layout Bool} {seg : Segment (FieldMap Bool)}
    (hseg : seg ∈ mapSegments l.maps) {cursor remaining : UInt16}
    (hcontains : seg.contains cursor = true) (hpos : 0 < remaining.toNat) {offset : Nat}
    {out : List UInt8} (hout : out.length = 252) (hsmall : offset + remaining.toNat ≤ 2016) :
    readBits seg.target cursor (seg.take cursor remaining) offset out =
        found ((collect l.get (seg.take cursor remaining).toNat cursor.toNat).map fun bits =>
          place putBit offset bits out) ∧
      (intoOutput out (readBits seg.target cursor (seg.take cursor remaining) offset
        out)).2.length = 252 := by
  have htake := Segment.toNat_take hcontains remaining
  rw [Segment.contains_iff] at hcontains
  obtain ⟨m, hm, rfl⟩ := List.mem_map.mp hseg
  generalize Segment.take _ cursor remaining = take at htake ⊢
  dsimp only at htake hcontains
  have hread := @readBits_eq cursor take (by omega) l m hm hcontains.1 (by omega) offset out
    (by omega) (by change _ ≤ 8 * 252; omega)
  refine ⟨hread, ?_⟩
  dsimp only
  rw [hread]
  cases collect l.get take.toNat cursor.toNat with
  | none => exact hout
  | some bits => exact (length_place_putBit bits offset out).trans hout

lemma readBitsLoop_ne_panic (l : Layout Bool) {address count : UInt16}
    (hcount : count.toNat ≤ 2016) :
    readLoop readBits l.maps address count (List.replicate maxPduDataLen 0) ≠ .panic := by
  have hsize : (List.replicate maxPduDataLen (0 : UInt8)).length = 252 := List.length_replicate
  rw [Ne, readLoop_eq_panic_iff]
  refine segmentLoop_result (R := (· ≠ .panic)) (P := fun out => out.length = 252)
    (Q := fun _ remaining offset => offset + remaining.toNat ≤ 2016) nofun nofun ?_ ?_ address
    count hsize
    (by omega) (Nat.lt_succ_self _)
  · intro seg hseg cursor remaining offset out hout hQ hcontains hpos
    obtain ⟨hread, hkeeps⟩ := readBits_keeps hseg hcontains hpos hout hQ
    exact ⟨(follows_of_found hread).2, hkeeps⟩
  · intro seg _ cursor remaining offset hQ hcontains _
    have htake := Segment.toNat_take hcontains remaining
    have hrest : (remaining - seg.take cursor remaining).toNat =
        remaining.toNat - (seg.take cursor remaining).toNat :=
      UInt16.toNat_sub_of_le _ _ (UInt16.le_iff_toNat_le.mpr (by omega))
    omega

/-- A loop over registers that succeeds read no more than fits its buffer. -/
lemma readWordsLoop_le {l : Layout UInt16} {address count : UInt16} {out : List UInt8}
    (h : readLoop readWords l.maps address count (List.replicate maxPduDataLen 0) = .ok out) :
    count.toNat ≤ 126 ∧ out.length = 252 := by
  have hsize : (List.replicate maxPduDataLen (0 : UInt8)).length = 252 := List.length_replicate
  have hloop := @segmentLoop_ok_le _ _ (mapSegments l.maps)
    (fun m cursor take offset out => intoOutput out (readWords m cursor take offset out))
    (fun out => out.length = 252) 126 ?_ (count.toNat + 1) address count 0 _ hsize
  · rw [readLoop] at h
    generalize segmentLoop (mapSegments l.maps) _ _ address count 0 _ = loop at h hloop
    obtain ⟨result, out'⟩ := loop
    rw [Outcome.bind_eq_ok] at h
    obtain ⟨u, hok, hpure⟩ := h
    cases hpure
    obtain ⟨hend, hout⟩ := hloop hok
    refine ⟨?_, hout⟩
    rcases hend with rfl | hend
    · exact Nat.zero_le _
    · omega
  · intro seg hseg cursor remaining offset out hout hcontains hpos hok
    by_cases hfits : 2 * (offset + (seg.take cursor remaining).toNat) ≤ out.length
    · obtain ⟨_, hkeeps⟩ := readWords_keeps hseg hcontains hpos hfits
      exact ⟨by omega, hkeeps.trans hout⟩
    · rw [readWords_eq_panic (by omega)] at hok
      cases hok

/-! ### Batches -/

section

variable {σ : Type} {f : σ → Nat → Fallible σ}

lemma foldlM_keeps {P : σ → Prop} {indices : List Nat}
    (hf : ∀ i ∈ indices, ∀ s, P s → ∃ s', f s i = .ok s' ∧ P s') {s : σ} (hs : P s) :
    ∃ s', indices.foldlM f s = .ok s' ∧ P s' := by
  induction indices generalizing s with
  | nil => exact ⟨s, rfl, hs⟩
  | cons i rest ih =>
    obtain ⟨s', hok, hs'⟩ := hf i List.mem_cons_self s hs
    rw [List.foldlM_cons, hok, Outcome.ok_bind]
    apply ih
    · exact fun j hj => hf j (List.mem_cons_of_mem i hj)
    · exact hs'

/-- A loop whose rounds never return an error panics when some round always does. -/
lemma foldlM_eq_panic {indices : List Nat} {i : Nat} (hi : i ∈ indices)
    (hf : ∀ s j e, f s j ≠ .err e) (hbad : ∀ s, f s i = .panic) (s : σ) :
    indices.foldlM f s = .panic := by
  induction indices generalizing s with
  | nil => cases hi
  | cons j rest ih =>
    rw [List.foldlM_cons]
    by_cases heq : i = j
    · rw [← heq, hbad]
      rfl
    · cases h : f s j with
      | ok s' => exact ih (List.mem_of_ne_of_mem heq hi) s'
      | err e => exact absurd h (hf s j e)
      | panic => rfl

end

lemma index_ne_err {α : Type} (xs : List α) (i : Nat) (e : MbusError) : index xs i ≠ .err e := by
  rw [index]
  split <;> rintro ⟨⟩

/-- The packed bits of a part exist exactly when the data has all of them. -/
lemma packBits_eq_panic {data : List UInt8} {offset : Nat} {take : UInt16}
    (h : 8 * data.length < offset + take.toNat) (hpos : 0 < take.toNat) :
    packBits data offset take = .panic := by
  have hloop : (List.range take.toNat).foldlM (packBit data offset)
      (List.replicate maxPduDataLen 0) = .panic := by
    refine foldlM_eq_panic (List.mem_range.mpr (Nat.sub_one_lt_of_lt hpos)) ?_ ?_ _
    · intro packed i e hbit
      rw [packBit] at hbit
      cases hsrc : index (ε := MbusError) data ((offset + i) / 8) with
      | err e' => exact index_ne_err _ _ _ hsrc
      | panic =>
        rw [hsrc] at hbit
        cases hbit
      | ok srcByte =>
        rw [hsrc, Outcome.ok_bind] at hbit
        cases hdst : index (ε := MbusError) packed (i / 8) with
        | err e' => exact index_ne_err _ _ _ hdst
        | panic =>
          rw [hdst] at hbit
          cases hbit
        | ok byte =>
          rw [hdst] at hbit
          cases hbit
    · intro packed
      have hout : index (ε := MbusError) data ((offset + (take.toNat - 1)) / 8) = .panic :=
        index_eq_panic.mpr (by omega)
      rw [packBit, hout]
      rfl
  rw [packBits, hloop]
  rfl

lemma packBits_ne_panic {data : List UInt8} {offset : Nat} {take : UInt16}
    (h : offset + take.toNat ≤ 8 * data.length) (hdata : data.length ≤ maxPduDataLen) :
    packBits data offset take ≠ .panic := by
  change _ ≤ 252 at hdata
  obtain ⟨packed, hloop, hpacked⟩ := @foldlM_keeps _ (packBit data offset)
    (fun packed => packed.length = 252) (List.range take.toNat) (by
      intro i hi packed hpacked
      rw [List.mem_range] at hi
      rw [packBit, index_of_lt (by omega), Outcome.ok_bind, index_of_lt (by omega)]
      exact ⟨_, rfl, (List.length_set ..).trans hpacked⟩)
    (List.replicate maxPduDataLen 0) List.length_replicate
  rw [packBits, hloop]
  change slice (ε := MbusError) packed 0 ((take.toNat + 7) / 8) ≠ .panic
  rw [slice_of_le (Nat.zero_le _) (by omega)]
  exact nofun

lemma eachIndex_ne_panic {σ : Type} {write : σ → Nat → Fallible σ} {indices : List Nat}
    (hwrite : ∀ i ∈ indices, ∀ s, write s i ≠ .panic) (s : σ) :
    (eachIndex write indices s).1 ≠ .panic := by
  induction indices generalizing s with
  | nil => rintro ⟨⟩
  | cons i rest ih =>
    rw [eachIndex]
    cases h : write s i with
    | ok s' => exact ih (fun j hj => hwrite j (List.mem_cons_of_mem i hj)) s'
    | err e => rintro ⟨⟩
    | panic => exact absurd h (hwrite i List.mem_cons_self s)

namespace FieldMap

lemma writeSingle_ne_panic {α : Type} (m : FieldMap α) (address : UInt16) (value : α) :
    m.writeSingle address value ≠ .panic := by
  rw [writeSingle]
  split <;> rintro ⟨⟩

lemma writeManyFromPacked_ne_panic (m : FieldMap Bool) (address quantity : UInt16)
    (values : List UInt8) (packedBitOffset : Nat) :
    (m.writeManyFromPacked address quantity values packedBitOffset).1 ≠ .panic := by
  rw [writeManyFromPacked]
  split
  · rintro ⟨⟩
  split
  · rintro ⟨⟩
  split
  · rintro ⟨⟩
  apply eachIndex_ne_panic
  intro i _ m'
  rw [writePackedBit, guard_decide_bind_ne_panic]
  intro hbyte
  rw [index_of_lt (by omega)]
  exact writeSingle_ne_panic m' _ _

lemma writeMany_ne_panic (m : FieldMap UInt16) (address : UInt16) (values : List UInt16) :
    (m.writeMany address values).1 ≠ .panic := by
  rw [writeMany]
  split
  · rintro ⟨⟩
  apply eachIndex_ne_panic
  intro i hi m'
  rw [List.mem_range] at hi
  rw [writeWord, guard_decide_bind_ne_panic]
  intro _
  rw [index_of_lt hi]
  exact writeSingle_ne_panic m' _ _

end FieldMap

section

variable {α : Type} {l : Layout α} {maps : List (FieldMap α)}

lemma onMap_ne_panic (hmaps : l.Shapes maps) {seg : Segment Nat}
    (hseg : seg ∈ groupSegments l.maps) {write : FieldMap α → Fallible Unit × FieldMap α}
    (hwrite : ∀ m, (write m).1 ≠ .panic) : (onMap seg.target write maps).1 ≠ .panic := by
  obtain ⟨k, m, hm, rfl⟩ := mem_groupSegments.mp hseg
  obtain ⟨m', hm', _⟩ := hmaps.getElem? hm
  rw [onMap, hm']
  exact hwrite m'

lemma askThen_eq_panic_iff {asked : Fallible Unit}
    {write : List (FieldMap α) → Fallible Unit × List (FieldMap α)}
    (hwrite : (write maps).1 ≠ .panic) :
    (askThen asked write maps).1 = .panic ↔ asked = .panic := by
  cases asked with
  | ok u => exact iff_of_false hwrite nofun
  | err e => exact iff_of_false nofun nofun
  | panic => exact iff_of_true rfl rfl

lemma askHook_eq_panic_iff {β : Type} {hook : Option (BatchHook β)} {cursor take : UInt16}
    {values : Fallible (List β)} :
    askHook hook cursor take values = .panic ↔ hook.isSome = true ∧ values = .panic := by
  cases hook with
  | none => exact iff_of_false nofun fun h => Bool.false_ne_true h.1
  | some batchFn =>
    cases values with
    | ok values => exact iff_of_false (lift_ne_panic _) (fun h => nomatch h.2)
    | err e => exact iff_of_false nofun (fun h => nomatch h.2)
    | panic => exact iff_of_true rfl ⟨rfl, rfl⟩

end

/-- A batch of coils for a hook comes to a part that crosses the end of the data. -/
def Layout.HookOverruns (l : Layout Bool) (hook : Option (BatchHook UInt8))
    (address count : UInt16) (data : List UInt8) : Prop :=
  hook.isSome = true ∧ Overflows (groupSegments l.maps)
    (l.Accepted (askedCoils hook data) (coilAt data) address count) (8 * data.length) address count

lemma writeCoils_eq_panic_iff (hook : Option (BatchHook UInt8)) (l : Layout Bool)
    (address count : UInt16) {data : List UInt8} (hdata : data.length ≤ maxPduDataLen) :
    (writeCoils hook l address count data).1 = .panic ↔
      l.HookOverruns hook address count data := by
  have hwalk : ∀ i ≤ count.toNat, (walk (writeItem address.toNat
      (l.Accepted (askedCoils hook data) (coilAt data) address count) (coilAt data)) i
      address.toNat 0 l.maps).1 = true ↔
      ∀ j < i, l.Accepted (askedCoils hook data) (coilAt data) address count j := by
    intro i _
    have hspec := (@walk_writeItem _ l
      (l.Accepted (askedCoils hook data) (coilAt data) address count) (coilAt data) address.toNat
      address.toNat 0 i rfl (fun j _ h => by
        rw [Nat.zero_add] at h ⊢
        exact ⟨h.mapped, h.given⟩) l.maps rfl).1
    simpa only [Nat.zero_add] using hspec
  have hgap : ∀ i, l.Accepted (askedCoils hook data) (coilAt data) address count i →
      ∃ seg ∈ groupSegments l.maps, seg.first.toNat ≤ address.toNat + i ∧
        address.toNat + i ≤ seg.last.toNat := by
    intro i haccepted
    obtain ⟨seg, hseg, hbounds⟩ := Layout.exists_mapSegment haccepted.mapped
    obtain ⟨m, hm, rfl⟩ := List.mem_map.mp hseg
    obtain ⟨k, hk⟩ := List.mem_iff_getElem?.mp hm
    exact ⟨_, mem_groupSegments.mpr ⟨k, m, hk, rfl⟩, hbounds⟩
  have hne (m : FieldMap Bool) (cursor take : UInt16) (offset : Nat) :=
    m.writeManyFromPacked_ne_panic cursor take data offset
  rw [Layout.HookOverruns, ← overflows_iff _ hgap hwalk]
  refine Iff.trans (segmentLoop_eq_panic (writeItem address.toNat
    (l.Accepted (askedCoils hook data) (coilAt data) address count) (coilAt data))
    (fun seg c remaining offset =>
      hook.isSome = true ∧ 8 * data.length < offset + (seg.take c remaining).toNat)
    (P := l.Shapes) (Q := l.InBatch address count)
    (fun _ hseg _ hseg' => Layout.groupSegments_apart hseg hseg') ?_ ?_
    (fun seg hseg cursor remaining offset hbatch => hbatch.next hseg) ?_ address count rfl
    ⟨rfl, rfl, Or.inr (Or.inl rfl)⟩ (Nat.lt_succ_self _)) ?_
  · intro seg hseg cursor remaining offset maps hmaps _ hcontains hpos ⟨hsome, hcross⟩
    have htake := Segment.toNat_take hcontains remaining
    rw [askThen_eq_panic_iff (onMap_ne_panic hmaps hseg fun m => hne m _ _ _),
      askHook_eq_panic_iff]
    exact ⟨hsome, packBits_eq_panic hcross (by omega)⟩
  · intro seg hseg cursor remaining offset maps hmaps hbatch hcontains hpos hfits
    obtain ⟨k, m, hm, rfl⟩ := mem_groupSegments.mp hseg
    have hfollows := @writeCoils_part_follows hook l address count cursor remaining offset k data
      hbatch m hm hcontains hpos _ rfl maps hmaps
    refine ⟨⟨hfollows.ok_iff, fun _ => hfollows.state (Or.inr trivial)⟩, ?_, fun _ => ?_⟩
    · dsimp only
      rw [Ne, askThen_eq_panic_iff (onMap_ne_panic hmaps hseg fun m => hne m _ _ _),
        askHook_eq_panic_iff]
      rintro ⟨hsome, hpanic⟩
      refine packBits_ne_panic ?_ hdata hpanic
      by_contra hcross
      exact hfits ⟨hsome, by omega⟩
    · apply hmaps.askThen
      apply hmaps.onMap
      intro m'
      exact FieldMap.addresses_writeManyFromPacked
  · intro address' offset maps h
    refine if_neg fun ⟨heq, haccepted⟩ => ?_
    obtain ⟨seg, hseg, hbounds⟩ := hgap offset haccepted
    have hout := h seg hseg
    omega
  · constructor
    · rintro ⟨i, seg, c, hbegins, hreached, hsome, hcross⟩
      exact ⟨hsome, i, seg, c, hbegins, hreached, hcross⟩
    · rintro ⟨hsome, i, seg, c, hbegins, hreached, hcross⟩
      exact ⟨i, seg, c, hbegins, hreached, hsome, hcross⟩

lemma writeRegisters_ne_panic (hook : Option (BatchHook UInt16)) (l : Layout UInt16)
    (address : UInt16) {values : List UInt16} (hvalues : values.length < 65536) :
    (writeRegisters hook l address values).1 ≠ .panic := by
  have hlength : (UInt16.ofNat values.length).toNat = values.length := by
    rw [UInt16.toNat_ofNat']
    omega
  refine segmentLoop_result (R := (· ≠ .panic)) (P := l.Shapes)
    (Q := fun _ remaining offset => remaining.toNat + offset = values.length) nofun nofun ?_ ?_
    address _ rfl (by omega) (by omega)
  · intro seg hseg cursor remaining offset maps hmaps hQ hcontains hpos
    have htake := Segment.toNat_take hcontains remaining
    have hslice : slice (ε := MbusError) (values.drop offset) 0
        (seg.take cursor remaining).toNat =
        .ok ((values.drop offset).take (seg.take cursor remaining).toNat) :=
      slice_of_le (Nat.zero_le _) (by rw [List.length_drop]; omega)
    rw [hslice]
    constructor
    · dsimp only
      rw [Ne, askThen_eq_panic_iff
        (onMap_ne_panic hmaps hseg fun m => m.writeMany_ne_panic cursor _), askHook_eq_panic_iff]
      exact fun h => nomatch h.2
    · apply hmaps.askThen
      apply hmaps.onMap
      intro m
      exact FieldMap.addresses_writeMany
  · intro seg _ cursor remaining offset hQ hcontains _
    have htake := Segment.toNat_take hcontains remaining
    have hrest : (remaining - seg.take cursor remaining).toNat =
        remaining.toNat - (seg.take cursor remaining).toNat :=
      UInt16.toNat_sub_of_le _ _ (UInt16.le_iff_toNat_le.mpr (by omega))
    omega

/-! ### Writes of one value -/

section

variable {α : Type} {l : Layout α} {address : UInt16}

/-- A write of one value goes to the map whose range has its address. -/
lemma routeOne_cases (l : Layout α) (address : UInt16) :
    (∃ k m, l.maps[k]? = some m ∧ m.addrMin.toNat ≤ address.toNat ∧
      address.toNat ≤ m.addrMax.toNat ∧ ∀ write : Nat → FieldMap α → Fallible (FieldMap α),
        routeOne l address write = ((intoOutput m (write k m)).1,
          l.maps.set k (intoOutput m (write k m)).2)) ∨
    ((∀ m ∈ l.maps, address.toNat < m.addrMin.toNat ∨ m.addrMax.toNat < address.toNat) ∧
      ∀ write : Nat → FieldMap α → Fallible (FieldMap α),
        routeOne l address write = (.err .invalidAddress, l.maps)) := by
  cases hfind : (groupSegments l.maps).find? (·.contains address) with
  | none =>
    refine Or.inr ⟨fun m hm => ?_, fun write => by rw [routeOne, hfind]⟩
    obtain ⟨k, hk⟩ := List.mem_iff_getElem?.mp hm
    have hout := List.find?_eq_none.mp hfind _ (mem_groupSegments.mpr ⟨k, m, hk, rfl⟩)
    rw [Segment.contains_iff] at hout
    dsimp only at hout
    omega
  | some seg =>
    obtain ⟨k, m, hm, rfl⟩ := mem_groupSegments.mp (List.mem_of_find?_eq_some hfind)
    have hcontains : (Segment.mk m.addrMin m.addrMax k).contains address = true :=
      @List.find?_some _ (fun seg : Segment Nat => seg.contains address) _ _ hfind
    rw [Segment.contains_iff] at hcontains
    refine Or.inl ⟨k, m, hm, hcontains.1, hcontains.2, fun write => ?_⟩
    rw [routeOne, hfind]
    dsimp only
    rw [onMap, hm]

variable {m : FieldMap α}

/-- The value that a hook for a coil is shown. -/
lemma oldCoil_eq {m : FieldMap Bool} (hfirst : m.addrMin.toNat ≤ address.toNat)
    (hlast : address.toNat ≤ m.addrMax.toNat) :
    oldCoil m address = .ok ((m.get address).getD false) := by
  have hone : (1 : UInt16).toNat = 1 := rfl
  rw [oldCoil, m.encodeBits_eq (by decide) hfirst (by omega) rfl, hone, collect, collect,
    UInt16.ofNat_toNat]
  cases m.get address with
  | none => rfl
  | some bit => cases bit <;> rfl

lemma encodeOne_eq {m : FieldMap UInt16} (hfirst : m.addrMin.toNat ≤ address.toNat)
    (hlast : address.toNat ≤ m.addrMax.toNat) : m.encodeWords address 1 [0, 0] =
      found ((m.get address).map fun word => (2, toBeBytes word)) := by
  have hone : (1 : UInt16).toNat = 1 := rfl
  rw [m.encodeWords_eq (by decide) hfirst (by omega) rfl, hone, collect, collect,
    UInt16.ofNat_toNat]
  cases m.get address with
  | none => rfl
  | some word =>
    rw [Option.map_some, Option.map_some, List.flatMap_cons, List.flatMap_nil, List.append_nil]
    rfl

/-- The value that a hook for a register is shown. -/
lemma oldRegister_eq {m : FieldMap UInt16} (hfirst : m.addrMin.toNat ≤ address.toNat)
    (hlast : address.toNat ≤ m.addrMax.toNat) :
    oldRegister m address = .ok ((m.get address).getD 0) := by
  rw [oldRegister, encodeOne_eq hfirst hlast]
  cases m.get address with
  | none => rfl
  | some word => exact congrArg Outcome.ok (fromBeBytes_toBeBytes word)

end

lemma routeOne_ne_panic {α : Type} {l : Layout α} {address : UInt16}
    {write : Nat → FieldMap α → Fallible (FieldMap α)}
    (hwrite : ∀ k m, m.addrMin.toNat ≤ address.toNat → address.toNat ≤ m.addrMax.toNat →
      write k m ≠ .panic) : (routeOne l address write).1 ≠ .panic := by
  rcases routeOne_cases l address with ⟨k, m, _, hfirst, hlast, hroute⟩ | ⟨_, hroute⟩
  · rw [hroute]
    have hne := hwrite k m hfirst hlast
    cases h : write k m with
    | ok m' => exact nofun
    | err e => exact nofun
    | panic => exact absurd h hne
  · rw [hroute]
    exact nofun

lemma writeOne_ne_panic {β α : Type} (hooks : GroupHooks β α)
    {old : FieldMap α → UInt16 → Fallible α} {default : α}
    (hold : ∀ (m : FieldMap α) (address : UInt16), m.addrMin.toNat ≤ address.toNat →
      address.toNat ≤ m.addrMax.toNat → old m address = .ok ((m.get address).getD default))
    (packed : α → β) (l : Layout α) (address : UInt16) (value : α) :
    (routeOne l address (hooks.writeOne old packed address value)).1 ≠ .panic := by
  apply routeOne_ne_panic
  intro k m hfirst hlast
  rw [GroupHooks.writeOne]
  apply Outcome.bind_ne_panic
  · rw [GroupHooks.ask]
    cases hooks.onWrite.lookup address with
    | none =>
      dsimp only
      split
      · rw [Ne, askHook_eq_panic_iff]
        exact fun h => by cases h.2
      · rintro ⟨⟩
    | some hook =>
      rw [hold m address hfirst hlast]
      exact lift_ne_panic _
  · exact fun _ _ => m.writeSingle_ne_panic address value

lemma maskRegister_ne_panic (l : Layout UInt16) (address andMask orMask : UInt16) :
    (maskRegister l address andMask orMask).1 ≠ .panic := by
  apply routeOne_ne_panic
  intro k m hfirst hlast
  rw [encodeOne_eq hfirst hlast]
  cases m.get address with
  | none => exact nofun
  | some word => exact m.writeSingle_ne_panic address _

/-! ### The arms -/

lemma Layout.Overruns.ne_nil {l : Layout UInt16} {address count : UInt16}
    (h : l.Overruns address count) : l.maps ≠ [] := by
  obtain ⟨_, seg, hseg, _⟩ := h
  obtain ⟨m, hm, _⟩ := List.mem_map.mp hseg
  exact List.ne_nil_of_mem hm

lemma decodeRegisters_length_le (capacity : Nat) (count : UInt16) (data : List UInt8) :
    (decodeRegisters capacity count data).length ≤ capacity :=
  List.length_take_le _ _

section

variable [Features]

lemma readBitsArm_eq_panic_iff (fc : FunctionCode) (l : Layout Bool) (address count : UInt16) :
    readBitsArm fc l address count = .panic ↔ l.maps ≠ [] ∧ 2016 < count.toNat := by
  rw [readBitsArm, ← List.isEmpty_eq_false_iff]
  cases l.maps.isEmpty with
  | true => exact iff_of_false (by rintro ⟨⟩) fun h => Bool.false_ne_true h.1.symm
  | false =>
    rw [if_neg Bool.false_ne_true]
    dsimp only
    by_cases hcount : count.toNat ≤ 2016
    · refine iff_of_false ?_ (fun h => Nat.not_lt.mpr hcount h.2)
      rw [slice_of_le (Nat.zero_le _) (by
        rw [List.length_replicate]
        change _ ≤ 252
        omega)]
      change readResponse fc _ _ ≠ _
      have hspec := (@readBits_spec address count (List.replicate maxPduDataLen 0) l
        hcount (by
          rw [List.length_replicate]
          change _ ≤ 252
          omega) fun j _ => bitAt_replicate _ j).2
      cases hloop : readLoop readBits l.maps address count (List.replicate maxPduDataLen 0) with
      | ok out =>
        obtain ⟨hlength, _⟩ := hspec out hloop
        rw [List.length_replicate] at hlength
        rw [readResponse, slice_of_le (Nat.zero_le _) (by
          rw [hlength]
          change _ ≤ 252
          omega)]
        rintro ⟨⟩
      | err e => rintro ⟨⟩
      | panic => exact absurd hloop (readBitsLoop_ne_panic l hcount)
    · have hslice : slice (ε := MbusError) (List.replicate maxPduDataLen (0 : UInt8)) 0
          ((count.toNat + 7) / 8) = .panic := by
        rw [slice_eq_panic, List.length_replicate]
        change _ ∨ 252 < _
        omega
      rw [hslice]
      exact iff_of_true rfl ⟨rfl, by omega⟩

lemma readWordsResponse_eq_panic_iff (fc : FunctionCode) (l : Layout UInt16)
    (address count : UInt16) :
    readResponse fc (count.toNat * 2)
        (readLoop readWords l.maps address count (List.replicate maxPduDataLen 0)) = .panic ↔
      l.Overruns address count := by
  rw [← readWordsLoop_eq_panic_iff]
  cases hloop : readLoop readWords l.maps address count (List.replicate maxPduDataLen 0) with
  | ok out =>
    obtain ⟨hcount, hlength⟩ := readWordsLoop_le hloop
    rw [readResponse, slice_of_le (Nat.zero_le _) (by omega)]
    exact iff_of_false (by rintro ⟨⟩) (by rintro ⟨⟩)
  | err e => exact iff_of_false (by rintro ⟨⟩) (by rintro ⟨⟩)
  | panic => exact iff_of_true rfl rfl

lemma readWordsArm_eq_panic_iff (fc : FunctionCode) (l : Layout UInt16) (address count : UInt16) :
    readWordsArm fc l address count = .panic ↔ l.Overruns address count := by
  rw [readWordsArm]
  split
  · rename_i hempty
    exact iff_of_false (by rintro ⟨⟩) fun h => h.ne_nil (List.isEmpty_iff.mp hempty)
  · exact readWordsResponse_eq_panic_iff fc l address count

lemma writeResponse_eq_panic_iff {fc : FunctionCode} {echo : ModbusResponse}
    {result : Fallible Unit} : writeResponse fc echo result = .panic ↔ result = .panic := by
  cases result with
  | ok u => exact iff_of_false nofun nofun
  | err e => exact iff_of_false nofun nofun
  | panic => exact iff_of_true rfl rfl

lemma writeArm_ne_panic {α : Type} {fc : FunctionCode} {echo : ModbusResponse} {l : Layout α}
    {written : Fallible Unit × List (FieldMap α)} (h : written.1 ≠ .panic) :
    (writeArm fc echo l written).1 ≠ .panic := by
  rw [writeArm]
  split
  · rintro ⟨⟩
  · exact writeResponse_eq_panic_iff.not.mpr h

lemma multiWriteResponse_eq_panic_iff {fc : FunctionCode} {address count : UInt16}
    {result : Fallible Unit} :
    multiWriteResponse fc address count result = .panic ↔ result = .panic := by
  cases result with
  | ok u => exact iff_of_false nofun nofun
  | err e => exact iff_of_false nofun nofun
  | panic => exact iff_of_true rfl rfl

lemma writeMultipleCoilsArm_eq_panic_iff (hook : Option (BatchHook UInt8)) (l : Layout Bool)
    (address count : UInt16) {data : List UInt8} (hdata : data.length ≤ maxPduDataLen) :
    (writeMultipleCoilsArm hook l address count data).1 = .panic ↔
      l.HookOverruns hook address count data := by
  rw [writeMultipleCoilsArm]
  split
  · rename_i hempty
    refine iff_of_false (by rintro ⟨⟩) fun h => ?_
    obtain ⟨_, _, seg, hseg, _⟩ := h
    obtain ⟨k, m, hm, _⟩ := mem_groupSegments.mp hseg
    rw [List.isEmpty_iff.mp hempty] at hm
    cases hm
  · exact multiWriteResponse_eq_panic_iff.trans
      (writeCoils_eq_panic_iff hook l address count hdata)

lemma writeMultipleRegistersArm_ne_panic (hook : Option (BatchHook UInt16)) (l : Layout UInt16)
    (address count : UInt16) (data : List UInt8) :
    (writeMultipleRegistersArm hook l address count data).1 ≠ .panic := by
  have hlength := decodeRegisters_length_le 125 count data
  rw [writeMultipleRegistersArm]
  split
  · rintro ⟨⟩
  · exact multiWriteResponse_eq_panic_iff.not.mpr
      (writeRegisters_ne_panic hook l address (by omega))

/-- The arm reads at most 125 registers, of which the buffer has room. -/
lemma readWriteMultipleRegistersArm_ne_panic (hook : Option (BatchHook UInt16))
    (l : Layout UInt16) (readAddress readCount writeAddress writeCount : UInt16)
    (data : List UInt8) :
    (readWriteMultipleRegistersArm hook l readAddress readCount writeAddress writeCount
      data).1 ≠ .panic := by
  have hlength := decodeRegisters_length_le 121 writeCount data
  have hwritten := writeRegisters_ne_panic hook l writeAddress
    (show (decodeRegisters 121 writeCount data).length < 65536 by omega)
  have hshapes := shapes_writeRegisters hook l writeAddress (decodeRegisters 121 writeCount data)
  rw [readWriteMultipleRegistersArm, readWriteWritePart]
  by_cases hempty : l.maps.isEmpty = true
  · rw [if_pos hempty]
    rintro ⟨⟩
  rw [if_neg hempty]
  by_cases hbad : (!(1 ≤ writeCount && writeCount ≤ 121) || !(1 ≤ readCount && readCount ≤ 125)) =
      true
  · rw [if_pos hbad]
    rintro ⟨⟩
  rw [if_neg hbad]
  generalize writeRegisters hook l writeAddress _ = written at hwritten hshapes
  obtain ⟨result, maps⟩ := written
  cases result with
  | ok u =>
    have hread := readWordsResponse_eq_panic_iff .readWriteMultipleRegisters (l.remap maps hshapes)
      readAddress readCount
    refine hread.not.mpr fun hover => hbad ?_
    have hcross := hover.1
    have hmax : (125 : UInt16).toNat = 125 := rfl
    rw [Bool.or_eq_true, Bool.not_eq_true', Bool.not_eq_true', Bool.and_eq_false_iff,
      Bool.and_eq_false_iff, decide_eq_false_iff_not, decide_eq_false_iff_not,
      decide_eq_false_iff_not, decide_eq_false_iff_not, UInt16.le_iff_toNat_le (b := 125), hmax]
    omega
  | err e => rintro ⟨⟩
  | panic => exact absurd rfl hwritten

lemma length_of_parseBody {fc : FunctionCode} {pdu : Pdu} {address count : UInt16} {data : Adu}
    (h : parseBody fc pdu = .ok (.writeMultipleCoils address count data)) :
    data.toList.length ≤ maxPduDataLen := by
  have hfields : ∃ fields, pdu.writeMultipleFields = .ok fields ∧
      copyBytes fields.values = .ok data := by
    cases fc <;> simp [parseBody, Outcome.bind_eq_ok] at h
    obtain ⟨fields, hfields, hcopy, _⟩ := h
    exact ⟨fields, hfields, hcopy⟩
  obtain ⟨fields, hfields, hcopy⟩ := hfields
  rw [copyBytes, lift_eq_ok, HVec.extendOr_eq_ok, HVec.empty_toList, List.nil_append] at hcopy
  obtain ⟨hdata, _⟩ := Pdu.writeMultipleFields_eq_ok.mp hfields
  have hle := pdu.data.length_le
  rw [hdata, List.length_append, List.length_append, List.length_cons] at hle
  rw [hcopy]
  change _ ≤ 252 at hle ⊢
  omega

end

namespace ModbusApp

variable [Features] (hooks : AppHooks) (app : ModbusApp)

/-- The requests that crash the handler. -/
def Crashes : RequestBody → Prop
  | .readCoils _ count => app.coils.maps ≠ [] ∧ 2016 < count.toNat
  | .readDiscreteInputs _ count => app.discreteInputs.maps ≠ [] ∧ 2016 < count.toNat
  | .readHoldingRegisters address count => app.holdingRegisters.Overruns address count
  | .readInputRegisters address count => app.inputRegisters.Overruns address count
  | .writeMultipleCoils address count data =>
    app.coils.HookOverruns hooks.coils.onBatchWrite address count data.toList
  | _ => False

end ModbusApp

/-- An application that is asked nothing. -/
def noHooks : AppHooks := ⟨⟨none, [], fun _ _ => false⟩, ⟨none, [], fun _ _ => false⟩⟩

end ModbusRs
