import ModbusRs.Macros.Writes

/-!
# Batch writes from address to address

What the loop over the parts of a batch does is what a walk over its addresses does, one value
after the other: a value is written if its address is mapped, the data has it, and the hook
approves the part that begins with it. The walk stays where it is refused.
-/

namespace ModbusRs

open Outcome

/-! ### The group as a whole -/

section

variable {α : Type}

/-- The field at an address of a group gets a value. -/
def setAt (address : Nat) (value : α) (maps : List (FieldMap α)) : List (FieldMap α) :=
  maps.map (·.set (UInt16.ofNat address) value)

lemma fieldAt_setAt {address : Nat} (haddress : address < 65536) (value : α)
    (maps : List (FieldMap α)) (other : Nat) : fieldAt (setAt address value maps) other =
      if other = address then (fieldAt maps address).map fun _ => value
      else fieldAt maps other := by
  rw [fieldAt, fieldAt, fieldAt, if_pos haddress, setAt, List.findSome?_map]
  by_cases hother : other = address
  · subst hother
    rw [if_pos rfl, if_pos haddress, List.map_findSome?]
    congr 1
    funext m
    dsimp only [Function.comp_apply]
    rw [FieldMap.get_set, if_pos rfl]
  · rw [if_neg hother]
    by_cases hlt : other < 65536
    · have hne : UInt16.ofNat other ≠ UInt16.ofNat address := by
        intro heq
        have hnat := congrArg UInt16.toNat heq
        rw [UInt16.toNat_ofNat', UInt16.toNat_ofNat'] at hnat
        omega
      rw [if_pos hlt, if_pos hlt]
      congr 1
      funext m
      dsimp only [Function.comp_apply]
      rw [FieldMap.get_set, if_neg hne]
    · rw [if_neg hlt, if_neg hlt]

/-- The maps of the layout, with other values in their fields. -/
def Layout.Shapes (l : Layout α) (maps : List (FieldMap α)) : Prop :=
  maps.map (·.addresses) = l.maps.map (·.addresses)

namespace Layout

variable {l : Layout α} {maps : List (FieldMap α)}

lemma Shapes.setAt (h : l.Shapes maps) (address : Nat) (value : α) :
    l.Shapes (setAt address value maps) := by
  rw [Shapes, ModbusRs.setAt, List.map_map]
  refine Eq.trans (List.map_congr_left fun m _ => ?_) h
  exact FieldMap.addresses_set

lemma Shapes.getElem? (h : l.Shapes maps) {k : Nat} {m : FieldMap α} (hm : l.maps[k]? = some m) :
    ∃ m', maps[k]? = some m' ∧ m'.addresses = m.addresses := by
  have hk := congrArg (·[k]?) h
  rw [List.getElem?_map, List.getElem?_map, hm] at hk
  obtain ⟨m', hm', haddresses⟩ := Option.map_eq_some_iff.mp hk
  exact ⟨m', hm', haddresses⟩

/-- The same addresses are mapped, with whatever values. -/
lemma Shapes.isSome_fieldAt (h : l.Shapes maps) (address : Nat) :
    (fieldAt maps address).isSome = (l.get address).isSome := by
  have hmem (maps : List (FieldMap α)) :
      (maps.findSome? (·.get (UInt16.ofNat address))).isSome =
        (maps.map (·.addresses)).any fun addresses => UInt16.ofNat address ∈ addresses := by
    rw [List.isSome_findSome?, List.any_map]
    congr 1
    funext m
    exact Bool.eq_iff_iff.mpr (FieldMap.isSome_get.trans (decide_eq_true_iff).symm)
  rw [get, fieldAt, fieldAt]
  split
  · rw [hmem, hmem, h]
  · rfl

/-- Two maps with an address in common are at the same position. -/
lemma eq_of_mem_addresses {j k : Nat} {m m' : FieldMap α} (hm : l.maps[j]? = some m)
    (hm' : l.maps[k]? = some m') {address : UInt16} (h : address ∈ m.addresses)
    (h' : address ∈ m'.addresses) : j = k := by
  obtain ⟨hj, rfl⟩ := List.getElem?_eq_some_iff.mp hm
  obtain ⟨hk, rfl⟩ := List.getElem?_eq_some_iff.mp hm'
  obtain ⟨a, ha⟩ := Option.isSome_iff_exists.mp (FieldMap.isSome_get.mpr h)
  obtain ⟨a', ha'⟩ := Option.isSome_iff_exists.mp (FieldMap.isSome_get.mpr h')
  have hbounds := FieldMap.bounds_of_get _ ha
  have hbounds' := FieldMap.bounds_of_get _ ha'
  have hpairs := List.pairwise_iff_getElem.mp l.disjoint
  by_contra hne
  rcases Nat.lt_or_gt_of_ne hne with hlt | hgt
  · have hapart := hpairs j k hj hk hlt
    rw [UInt16.lt_iff_toNat_lt, UInt16.lt_iff_toNat_lt] at hapart
    omega
  · have hapart := hpairs k j hk hj hgt
    rw [UInt16.lt_iff_toNat_lt, UInt16.lt_iff_toNat_lt] at hapart
    omega

/-- A write to the group is a write to the map that has the address. -/
lemma Shapes.setAt_eq_set (h : l.Shapes maps) {k : Nat} {m m' : FieldMap α}
    (hm : l.maps[k]? = some m) (hm' : maps[k]? = some m') {address : Nat}
    (haddress : UInt16.ofNat address ∈ m.addresses) (value : α) :
    ModbusRs.setAt address value maps = maps.set k (m'.set (UInt16.ofNat address) value) := by
  have hklt := (List.getElem?_eq_some_iff.mp hm').1
  refine List.ext_getElem? fun j => ?_
  rw [ModbusRs.setAt, List.getElem?_map, List.getElem?_set]
  by_cases hkj : k = j
  · subst hkj
    rw [if_pos rfl, if_pos hklt, hm']
    rfl
  · rw [if_neg hkj]
    cases hj : maps[j]? with
    | none => rfl
    | some other =>
      have hlength : maps.length = l.maps.length := by
        have hlen := congrArg List.length h
        rwa [List.length_map, List.length_map] at hlen
      have hjlt := (List.getElem?_eq_some_iff.mp hj).1
      obtain ⟨other', hother', haddresses⟩ :=
        h.getElem? (List.getElem?_eq_getElem (show j < l.maps.length by omega))
      rw [hj] at hother'
      cases hother'
      refine congrArg some (FieldMap.set_of_not_mem fun hmem => hkj ?_)
      rw [haddresses] at hmem
      exact eq_of_mem_addresses hm (List.getElem?_eq_getElem (by omega)) haddress hmem

end Layout

/-! ### The walk of a write -/

/-- The part that begins at a place of a batch may be written. -/
def Layout.Approved (l : Layout α) (asked : UInt16 → UInt16 → Nat → Fallible Unit)
    (address count : UInt16) (i : Nat) : Prop :=
  ∀ seg ∈ groupSegments l.maps, ∀ cursor : UInt16, cursor.toNat = address.toNat + i →
    seg.contains cursor = true → i = 0 ∨ seg.first = cursor →
    asked cursor (seg.take cursor (count - UInt16.ofNat i)) i = .ok ()

/-- A value of a batch is accepted: its address is mapped, the data has it, and if a part begins
with it, then the hook approves. -/
structure Layout.Accepted (l : Layout α) (asked : UInt16 → UInt16 → Nat → Fallible Unit)
    (value : Nat → Option α) (address count : UInt16) (i : Nat) : Prop where
  mapped : (l.get (address.toNat + i)).isSome = true
  given : (value i).isSome = true
  approved : l.Approved asked address count i

open Classical in
/-- One value of a batch, written if it is accepted. -/
noncomputable def writeItem (start : Nat) (accepted : Nat → Prop) (value : Nat → Option α)
    (address i : Nat) (maps : List (FieldMap α)) : Option (List (FieldMap α)) :=
  if address = start + i ∧ accepted i then (value i).map fun v => setAt address v maps else none

section

variable {l : Layout α} {accepted : Nat → Prop} {value : Nat → Option α}

/-- A walk of writes goes through when all values are accepted. What comes before the first
refusal is written in any case. -/
lemma walk_writeItem {start address offset n : Nat} (hstart : address = start + offset)
    (haccepted : ∀ i < n, accepted (offset + i) → (l.get (address + i)).isSome = true ∧
      (value (offset + i)).isSome = true)
    {maps : List (FieldMap α)} (hmaps : l.Shapes maps) :
    ((walk (writeItem start accepted value) n address offset maps).1 = true ↔
      ∀ i < n, accepted (offset + i)) ∧
    (∀ i < n, (∀ j ≤ i, accepted (offset + j)) →
      fieldAt (walk (writeItem start accepted value) n address offset maps).2 (address + i) =
        value (offset + i)) ∧
    ∀ other, (∀ i < n, other = address + i → ¬∀ j ≤ i, accepted (offset + j)) →
      fieldAt (walk (writeItem start accepted value) n address offset maps).2 other =
        fieldAt maps other := by
  induction n generalizing address offset maps with
  | zero =>
    refine ⟨iff_of_true rfl ?_, ?_, fun _ _ => rfl⟩
    · exact fun _ hlt => absurd hlt (Nat.not_lt_zero _)
    · exact fun _ hlt => absurd hlt (Nat.not_lt_zero _)
  | succ n ih =>
    rw [walk]
    by_cases hfirst : accepted offset
    · obtain ⟨hmapped, hgiven⟩ := haccepted 0 n.succ_pos hfirst
      obtain ⟨v, hv⟩ := Option.isSome_iff_exists.mp hgiven
      rw [Nat.add_zero] at hmapped hv
      have hitem : writeItem start accepted value address offset maps =
          some (setAt address v maps) := by
        rw [writeItem, if_pos ⟨hstart, hfirst⟩, hv]
        rfl
      have hlt : address < 65536 := by
        by_contra hge
        rw [Layout.get, fieldAt, if_neg hge] at hmapped
        cases hmapped
      have hset := fieldAt_setAt hlt v maps
      rw [← hmaps.isSome_fieldAt, Option.isSome_iff_exists] at hmapped
      obtain ⟨old, hold⟩ := hmapped
      have hshift (i : Nat) : accepted (offset + 1 + i) ↔ accepted (offset + (i + 1)) := by
        rw [Nat.add_right_comm, Nat.add_assoc]
      have hupto (i : Nat) :
          (∀ j ≤ i + 1, accepted (offset + j)) ↔ ∀ j ≤ i, accepted (offset + 1 + j) := by
        constructor
        · exact fun h j hj => (hshift j).mpr (h (j + 1) (Nat.succ_le_succ hj))
        · intro h j hj
          cases j with
          | zero => exact hfirst
          | succ j => exact (hshift j).mp (h j (Nat.le_of_succ_le_succ hj))
      obtain ⟨hok, hwritten, hkept⟩ := @ih (address + 1) (offset + 1) (by omega) (fun i hi h => by
        rw [Nat.add_right_comm address, Nat.add_right_comm offset]
        exact haccepted (i + 1) (Nat.succ_lt_succ hi) ((hshift i).mp h)) _ (hmaps.setAt address v)
      rw [hitem]
      refine ⟨?_, ?_, ?_⟩
      · rw [hok, Nat.forall_lt_succ_left]
        exact ⟨fun h => ⟨hfirst, fun i hi => (hshift i).mp (h i hi)⟩,
          fun h i hi => (hshift i).mpr (h.2 i hi)⟩
      · intro i hi hall
        cases i with
        | zero =>
          refine (hkept _ fun i _ heq => by omega).trans ?_
          rw [hset, if_pos (Nat.add_zero _), hold, Nat.add_zero, hv]
          rfl
        | succ i =>
          have hnext := hwritten i (Nat.lt_of_succ_lt_succ hi) ((hupto i).mp hall)
          rwa [Nat.add_right_comm address, Nat.add_right_comm offset] at hnext
      · intro other hother
        have hne : other ≠ address := fun heq => hother 0 n.succ_pos heq fun j hj => by
          rw [Nat.le_zero.mp hj]
          exact hfirst
        refine (hkept other fun i hi heq h => ?_).trans ?_
        · exact hother (i + 1) (Nat.succ_lt_succ hi) (by omega) ((hupto i).mpr h)
        · rw [hset, if_neg hne]
    · have hitem : writeItem start accepted value address offset maps = none :=
        if_neg fun h => hfirst h.2
      rw [hitem]
      refine ⟨iff_of_false (by rintro ⟨⟩) fun h => hfirst (h 0 n.succ_pos), ?_, fun _ _ => rfl⟩
      intro i _ hall
      exact absurd (hall 0 (Nat.zero_le i)) hfirst

/-- The loop over the indices of a part follows the walk over its addresses. -/
lemma eachIndex_follows {τ : Type} {P : List τ → Prop} {write : τ → Nat → Fallible τ}
    {item : Nat → Nat → List τ → Option (List τ)} {n address offset k : Nat}
    (hwrite : ∀ i < n, ∀ (s : List τ) (m : τ), P s → s[k]? = some m →
      (item (address + i) (offset + i) s = none ∧ ∀ m', write m i ≠ .ok m') ∨
      ∃ m', write m i = .ok m' ∧ item (address + i) (offset + i) s = some (s.set k m') ∧
        P (s.set k m'))
    {s : List τ} {m : τ} (hs : P s) (hm : s[k]? = some m) :
    Follows True ((eachIndex write (List.range n) m).1,
        s.set k (eachIndex write (List.range n) m).2) (walk item n address offset s) := by
  induction n generalizing write address offset s m with
  | zero => exact ⟨iff_of_true rfl rfl, fun _ => set_self hm⟩
  | succ n ih =>
    rw [List.range_succ_eq_map, eachIndex, walk]
    rcases hwrite 0 n.succ_pos s m hs hm with ⟨hnone, hrefused⟩ | ⟨m', hok, hsome, hs'⟩
    · rw [Nat.add_zero, Nat.add_zero] at hnone
      rw [hnone]
      cases hresult : write m 0 with
      | ok m' => exact absurd hresult (hrefused m')
      | err e => exact ⟨iff_of_false (by rintro ⟨⟩) (by rintro ⟨⟩), fun _ => set_self hm⟩
      | panic => exact ⟨iff_of_false (by rintro ⟨⟩) (by rintro ⟨⟩), fun _ => set_self hm⟩
    · rw [Nat.add_zero, Nat.add_zero] at hsome
      have hklt := (List.getElem?_eq_some_iff.mp hm).1
      have hrest := @ih (fun m i => write m (i + 1)) (address + 1) (offset + 1)
        (fun i hi s m hs hm => by
          rw [Nat.add_right_comm address, Nat.add_right_comm offset]
          exact hwrite (i + 1) (Nat.succ_lt_succ hi) s m hs hm)
        _ m' hs' (List.getElem?_set_self hklt)
      rw [List.set_set] at hrest
      rw [hok, hsome]
      dsimp only
      rw [eachIndex_map]
      exact hrest

lemma mem_groupSegments {maps : List (FieldMap α)} {seg : Segment Nat} :
    seg ∈ groupSegments maps ↔
      ∃ k m, maps[k]? = some m ∧ seg = ⟨m.addrMin, m.addrMax, k⟩ := by
  rw [groupSegments, List.mem_mapIdx]
  constructor
  · rintro ⟨k, hk, rfl⟩
    exact ⟨k, _, List.getElem?_eq_getElem hk, rfl⟩
  · rintro ⟨k, m, hm, rfl⟩
    obtain ⟨hk, rfl⟩ := List.getElem?_eq_some_iff.mp hm
    exact ⟨k, hk, rfl⟩

/-- The segments of a layout do not meet. -/
lemma Layout.groupSegments_apart {seg seg' : Segment Nat} (hseg : seg ∈ groupSegments l.maps)
    (hseg' : seg' ∈ groupSegments l.maps) :
    seg = seg' ∨ seg.last.toNat < seg'.first.toNat ∨ seg'.last.toNat < seg.first.toNat := by
  obtain ⟨j, m, hm, rfl⟩ := mem_groupSegments.mp hseg
  obtain ⟨k, m', hm', rfl⟩ := mem_groupSegments.mp hseg'
  obtain ⟨hj, rfl⟩ := List.getElem?_eq_some_iff.mp hm
  obtain ⟨hk, rfl⟩ := List.getElem?_eq_some_iff.mp hm'
  have hpairs := List.pairwise_iff_getElem.mp l.disjoint
  rcases Nat.lt_trichotomy j k with hlt | rfl | hgt
  · have hapart := hpairs j k hj hk hlt
    rw [UInt16.lt_iff_toNat_lt, UInt16.lt_iff_toNat_lt] at hapart
    exact Or.inr hapart
  · exact Or.inl rfl
  · have hapart := hpairs k j hk hj hgt
    rw [UInt16.lt_iff_toNat_lt, UInt16.lt_iff_toNat_lt] at hapart
    exact Or.inr hapart.symm

lemma Layout.eq_of_contains {seg seg' : Segment Nat} (hseg : seg ∈ groupSegments l.maps)
    (hseg' : seg' ∈ groupSegments l.maps) {cursor : UInt16} (h : seg.contains cursor = true)
    (h' : seg'.contains cursor = true) : seg = seg' := by
  rw [Segment.contains_iff] at h h'
  rcases groupSegments_apart hseg hseg' with heq | hlt | hgt
  · exact heq
  · omega
  · omega

/-- Where the loop over a batch is: behind the values that were written, with a new part ahead. -/
structure Layout.InBatch (l : Layout α) (address count cursor remaining : UInt16) (offset : Nat) :
    Prop where
  cursor_eq : cursor.toNat = address.toNat + offset
  remaining_eq : remaining.toNat + offset = count.toNat
  first : remaining = 0 ∨ offset = 0 ∨
    ∀ seg ∈ groupSegments l.maps, seg.contains cursor = true → seg.first = cursor

lemma Layout.InBatch.next {address count cursor remaining : UInt16} {offset : Nat}
    (h : l.InBatch address count cursor remaining offset) {seg : Segment Nat}
    (hseg : seg ∈ groupSegments l.maps) (hcontains : seg.contains cursor = true)
    (hlt : cursor.toNat + (seg.take cursor remaining).toNat < 65536) :
    l.InBatch address count (cursor + seg.take cursor remaining)
      (remaining - seg.take cursor remaining)
      (offset + (seg.take cursor remaining).toNat) := by
  have htake := Segment.toNat_take hcontains remaining
  have hbounds := Segment.contains_iff.mp hcontains
  generalize seg.take cursor remaining = take at htake hlt ⊢
  have hcursor : (cursor + take).toNat = cursor.toNat + take.toNat := by
    rw [UInt16.toNat_add]
    omega
  have hremaining : (remaining - take).toNat = remaining.toNat - take.toNat :=
    UInt16.toNat_sub_of_le _ _ (UInt16.le_iff_toNat_le.mpr (by omega))
  refine ⟨?_, ?_, ?_⟩
  · rw [hcursor, h.cursor_eq, Nat.add_assoc]
  · rw [hremaining, ← h.remaining_eq]
    omega
  · by_cases hall : take.toNat = remaining.toNat
    · refine Or.inl (UInt16.toNat_inj.mp ?_)
      rw [hremaining, hall, Nat.sub_self]
      rfl
    · refine Or.inr (Or.inr fun seg' hseg' hcontains' => ?_)
      rw [Segment.contains_iff, hcursor] at hcontains'
      rw [← UInt16.toNat_inj, hcursor]
      rcases groupSegments_apart hseg hseg' with rfl | hbefore | hafter
      · omega
      · omega
      · omega

/-- A part of a batch follows the walk over its addresses. -/
lemma askThen_follows (asked : UInt16 → UInt16 → Nat → Fallible Unit)
    (write : FieldMap α → Nat → Fallible (FieldMap α))
    {address count cursor remaining : UInt16} {offset k : Nat}
    (hbatch : l.InBatch address count cursor remaining offset) {m : FieldMap α}
    (hm : l.maps[k]? = some m)
    (hcontains : (Segment.mk m.addrMin m.addrMax k).contains cursor = true)
    (hpos : 0 < remaining.toNat) {take : UInt16}
    (htake : take = (Segment.mk m.addrMin m.addrMax k).take cursor remaining)
    {part : FieldMap α → Fallible Unit × FieldMap α}
    (hpart : ∀ m', m'.addresses = m.addresses →
      part m' = eachIndex write (List.range take.toNat) m')
    (hwrite : ∀ i < take.toNat, ∀ m', m'.addresses = m.addresses →
      (∀ v, UInt16.ofNat (cursor.toNat + i) ∈ m.addresses → value (offset + i) = some v →
        write m' i = .ok (m'.set (UInt16.ofNat (cursor.toNat + i)) v)) ∧
      ∀ m'', write m' i = .ok m'' → UInt16.ofNat (cursor.toNat + i) ∈ m.addresses ∧
        (value (offset + i)).isSome = true)
    {maps : List (FieldMap α)} (hmaps : l.Shapes maps) :
    Follows True (askThen (asked cursor take offset) (onMap k part) maps)
      (walk (writeItem address.toNat (l.Accepted asked value address count) value) take.toNat
        cursor.toNat offset maps) := by
  have hseg : Segment.mk m.addrMin m.addrMax k ∈ groupSegments l.maps :=
    mem_groupSegments.mpr ⟨k, m, hm, rfl⟩
  have hmin := Segment.toNat_take hcontains remaining
  have hbounds := Segment.contains_iff.mp hcontains
  have hrest : count - UInt16.ofNat offset = remaining := by
    have hcount := count.toNat_lt
    have heq := hbatch.remaining_eq
    have hoffset : (UInt16.ofNat offset).toNat = offset := by
      rw [UInt16.toNat_ofNat']
      omega
    refine UInt16.toNat_inj.mp ?_
    rw [UInt16.toNat_sub_of_le _ _ (UInt16.le_iff_toNat_le.mpr (by omega))]
    omega
  rw [← htake] at hmin
  dsimp only at hmin hbounds
  by_cases hask : asked cursor take offset = .ok ()
  · obtain ⟨m₀, hm₀, haddresses⟩ := hmaps.getElem? hm
    rw [hask, askThen, onMap, hm₀]
    dsimp only
    rw [hpart m₀ haddresses]
    refine eachIndex_follows (P := l.Shapes) (fun i hi s m' hs hm' => ?_) hmaps hm₀
    obtain ⟨m₁, hm₁, hm'addresses⟩ := hs.getElem? hm
    rw [hm'] at hm₁
    cases hm₁
    obtain ⟨hgood, hbad⟩ := hwrite i hi m' hm'addresses
    have hsmall : cursor.toNat + i < 65536 := by
      have hmax := m.addrMax.toNat_lt
      omega
    have hofNat : (UInt16.ofNat (cursor.toNat + i)).toNat = cursor.toNat + i := by
      rw [UInt16.toNat_ofNat']
      omega
    have hplace : address.toNat + (offset + i) = cursor.toNat + i := by
      rw [hbatch.cursor_eq, Nat.add_assoc]
    have hmapped : (l.get (address.toNat + (offset + i))).isSome = true ↔
        UInt16.ofNat (cursor.toNat + i) ∈ m.addresses := by
      rw [hplace, Layout.get_eq (List.mem_of_getElem? hm) (by omega) (by omega),
        FieldMap.isSome_get]
    by_cases haccepted : l.Accepted asked value address count (offset + i)
    · obtain ⟨v, hv⟩ := Option.isSome_iff_exists.mp haccepted.given
      have hmem := hmapped.mp haccepted.mapped
      have hset := hs.setAt_eq_set hm hm' hmem v
      refine Or.inr ⟨_, hgood v hmem hv, ?_, ?_⟩
      · rw [writeItem, if_pos ⟨hplace.symm, haccepted⟩, hv, ← hset]
        rfl
      · rw [← hset]
        exact hs.setAt _ v
    · refine Or.inl ⟨if_neg fun h => haccepted h.2, fun m'' hok => haccepted ?_⟩
      obtain ⟨hmem, hgiven⟩ := hbad m'' hok
      refine ⟨hmapped.mpr hmem, hgiven, fun seg' hseg' cursor' hcursor' hcontains' hfirst => ?_⟩
      have hinside : (Segment.mk m.addrMin m.addrMax k).contains cursor' = true := by
        rw [Segment.contains_iff]
        dsimp only
        omega
      have heq := Layout.eq_of_contains hseg' hseg hcontains' hinside
      subst heq
      dsimp only at hfirst
      cases i with
      | zero =>
        have hsame : cursor' = cursor := UInt16.toNat_inj.mp (by omega)
        rw [hsame, Nat.add_zero, hrest, ← htake]
        exact hask
      | succ i =>
        rcases hfirst with h | h
        · omega
        · have hnat := congrArg UInt16.toNat h
          omega
  · have hrefused : ¬l.Accepted asked value address count offset := by
      intro haccepted
      have happroved := haccepted.approved _ hseg cursor hbatch.cursor_eq hcontains (by
        rcases hbatch.first with h | h | h
        · rw [h] at hpos
          exact absurd hpos (Nat.lt_irrefl 0)
        · exact Or.inl h
        · exact Or.inr (h _ hseg hcontains))
      rw [hrest, ← htake] at happroved
      exact hask happroved
    obtain ⟨n, hn⟩ : ∃ n, take.toNat = n + 1 := ⟨take.toNat - 1, by omega⟩
    rw [hn, walk, writeItem, if_neg fun h => hrefused h.2]
    cases hresult : asked cursor take offset with
    | ok u => exact absurd hresult hask
    | err e => exact ⟨iff_of_false (by rintro ⟨⟩) (by rintro ⟨⟩), fun _ => rfl⟩
    | panic => exact ⟨iff_of_false (by rintro ⟨⟩) (by rintro ⟨⟩), fun _ => rfl⟩

/-- A batch is accepted as a whole, and the cursor can move behind it. -/
def Layout.AcceptsAll (l : Layout α) (asked : UInt16 → UInt16 → Nat → Fallible Unit)
    (value : Nat → Option α) (address count : UInt16) : Prop :=
  (count = 0 ∨ address.toNat + count.toNat < 65536) ∧
    ∀ i < count.toNat, l.Accepted asked value address count i

/-- The values before the first refusal are what the fields hold already. -/
def Layout.Repeats (l : Layout α) (asked : UInt16 → UInt16 → Nat → Fallible Unit)
    (value : Nat → Option α) (address count : UInt16) : Prop :=
  ∀ i < count.toNat, (∀ j ≤ i, l.Accepted asked value address count j) →
    l.get (address.toNat + i) = value i

/-- What a loop over the parts of a batch leaves. -/
theorem batch_spec {asked : UInt16 → UInt16 → Nat → Fallible Unit} {address count : UInt16}
    {write : Nat → UInt16 → UInt16 → Nat → List (FieldMap α) →
      Fallible Unit × List (FieldMap α)} {fuel : Nat} (hfuel : count.toNat < fuel)
    (hwrite : ∀ k m, l.maps[k]? = some m → ∀ (cursor remaining : UInt16) (offset : Nat)
      (maps : List (FieldMap α)), l.Shapes maps →
      l.InBatch address count cursor remaining offset →
      (Segment.mk m.addrMin m.addrMax k).contains cursor = true → 0 < remaining.toNat →
      ∀ take, take = (Segment.mk m.addrMin m.addrMax k).take cursor remaining →
      Follows True (write k cursor take offset maps)
        (walk (writeItem address.toNat (l.Accepted asked value address count) value) take.toNat
          cursor.toNat offset maps)) :
    ((segmentLoop (groupSegments l.maps) write fuel address count 0 l.maps).1 = .ok () ↔
      l.AcceptsAll asked value address count) ∧
    (∀ i < count.toNat, (∀ j ≤ i, l.Accepted asked value address count j) →
      fieldAt (segmentLoop (groupSegments l.maps) write fuel address count 0 l.maps).2
        (address.toNat + i) = value i) ∧
    ∀ other, (∀ i < count.toNat, other = address.toNat + i →
        ¬∀ j ≤ i, l.Accepted asked value address count j) →
      fieldAt (segmentLoop (groupSegments l.maps) write fuel address count 0 l.maps).2 other =
        l.get other := by
  have hserve : ∀ seg ∈ groupSegments l.maps, ∀ (cursor remaining : UInt16) (offset : Nat)
      (maps : List (FieldMap α)), l.Shapes maps →
      l.InBatch address count cursor remaining offset → seg.contains cursor = true →
      0 < remaining.toNat → offset + remaining.toNat ≤ count.toNat →
      Follows True (write seg.target cursor (seg.take cursor remaining) offset maps)
        (walk (writeItem address.toNat (l.Accepted asked value address count) value)
          (seg.take cursor remaining).toNat cursor.toNat offset maps) := by
    intro seg hseg cursor remaining offset maps hmaps hbatch hcontains hpos _
    obtain ⟨k, m, hm, rfl⟩ := mem_groupSegments.mp hseg
    exact hwrite k m hm cursor remaining offset maps hmaps hbatch hcontains hpos _ rfl
  have hnext : ∀ seg ∈ groupSegments l.maps, ∀ (cursor remaining : UInt16) (offset : Nat),
      l.InBatch address count cursor remaining offset → seg.contains cursor = true →
      cursor.toNat + (seg.take cursor remaining).toNat < 65536 →
      l.InBatch address count (cursor + seg.take cursor remaining)
        (remaining - seg.take cursor remaining)
        (offset + (seg.take cursor remaining).toNat) :=
    fun seg hseg cursor remaining offset hbatch => hbatch.next hseg
  have hgap : ∀ address' offset (maps : List (FieldMap α)), (∀ seg ∈ groupSegments l.maps,
      address' < seg.first.toNat ∨ seg.last.toNat < address') →
      writeItem address.toNat (l.Accepted asked value address count) value address' offset maps =
        none := by
    intro address' offset maps h
    refine if_neg fun ⟨heq, haccepted⟩ => ?_
    have hmapped := haccepted.mapped
    rw [← heq, Layout.get_eq_none fun m hm => ?_] at hmapped
    · cases hmapped
    · obtain ⟨k, hk⟩ := List.mem_iff_getElem?.mp hm
      exact h _ (mem_groupSegments.mpr ⟨k, m, hk, rfl⟩)
  have hitem : ∀ address' offset (maps maps' : List (FieldMap α)), offset < count.toNat →
      l.Shapes maps → writeItem address.toNat (l.Accepted asked value address count) value address'
        offset maps = some maps' → l.Shapes maps' := by
    intro address' offset maps maps' _ hmaps h
    rw [writeItem] at h
    split at h
    · obtain ⟨v, _, rfl⟩ := Option.map_eq_some_iff.mp h
      exact hmaps.setAt address' v
    · cases h
  have hstart : l.InBatch address count address count 0 :=
    ⟨rfl, rfl, Or.inr (Or.inl rfl)⟩
  obtain ⟨hok, hstate⟩ := segmentLoop_follows write hserve hnext hgap hitem address count rfl hstart
    hfuel (Nat.le_of_eq (Nat.zero_add _))
  obtain ⟨hthrough, hwritten, hkept⟩ := @walk_writeItem α l
    (l.Accepted asked value address count) value address.toNat address.toNat 0 count.toNat rfl
    (fun i _ h => by
      rw [Nat.zero_add] at h ⊢
      exact ⟨h.mapped, h.given⟩) l.maps rfl
  simp only [Nat.zero_add] at hthrough hwritten hkept
  rw [hstate (Or.inr trivial)]
  exact ⟨hok.trans (and_congr_right fun _ => hthrough), hwritten, hkept⟩

end

end

/-! ### The two tables -/

/-- The bit of the data for a place of the batch. -/
def coilAt (data : List UInt8) (i : Nat) : Option Bool :=
  if i / 8 < data.length then some (bitAt data i) else none

/-- What the hook for coils says to a part of the batch. -/
def askedCoils (hook : Option (BatchHook UInt8)) (data : List UInt8) (cursor take : UInt16)
    (offset : Nat) : Fallible Unit :=
  askHook hook cursor take (packBits data offset take)

/-- What the hook for registers says to a part of the batch. -/
def askedRegisters (hook : Option (BatchHook UInt16)) (values : List UInt16)
    (cursor take : UInt16) (offset : Nat) : Fallible Unit :=
  askHook hook cursor take (.ok ((values.drop offset).take take.toNat))

lemma add_ofNat_eq (cursor : UInt16) (i : Nat) :
    cursor + UInt16.ofNat i = UInt16.ofNat (cursor.toNat + i) := by
  refine UInt16.toNat_inj.mp ?_
  rw [UInt16.toNat_add, UInt16.toNat_ofNat', UInt16.toNat_ofNat']
  omega

namespace FieldMap

variable {α : Type} {m : FieldMap α} {address : UInt16} {value : α}

lemma writeSingle_of_mem (h : address ∈ m.addresses) :
    m.writeSingle address value = .ok (m.set address value) := by
  obtain ⟨old, hold⟩ := Option.isSome_iff_exists.mp (isSome_get.mpr h)
  rw [writeSingle, hold]

lemma mem_of_writeSingle {m' : FieldMap α} (h : m.writeSingle address value = .ok m') :
    address ∈ m.addresses := by
  rw [writeSingle] at h
  cases hget : m.get address with
  | none =>
    rw [hget] at h
    cases h
  | some old => exact isSome_get.mp (Option.isSome_of_eq_some hget)

end FieldMap

/-- A part of an FC0F write follows the walk over its addresses. -/
lemma writeCoils_part_follows (hook : Option (BatchHook UInt8)) {l : Layout Bool}
    {address count cursor remaining : UInt16} {offset k : Nat} {data : List UInt8}
    (hbatch : l.InBatch address count cursor remaining offset) {m : FieldMap Bool}
    (hm : l.maps[k]? = some m)
    (hcontains : (Segment.mk m.addrMin m.addrMax k).contains cursor = true)
    (hpos : 0 < remaining.toNat) {take : UInt16}
    (htake : take = (Segment.mk m.addrMin m.addrMax k).take cursor remaining)
    {maps : List (FieldMap Bool)} (hmaps : l.Shapes maps) :
    Follows True (askThen (askHook hook cursor take (packBits data offset take))
        (onMap k fun m => m.writeManyFromPacked cursor take data offset) maps)
      (walk (writeItem address.toNat
        (l.Accepted (askedCoils hook data) (coilAt data) address count) (coilAt data)) take.toNat
        cursor.toNat offset maps) := by
  have hmin := Segment.toNat_take hcontains remaining
  have hbounds := Segment.contains_iff.mp hcontains
  have hmax := m.addrMax.toNat_lt
  rw [← htake] at hmin
  dsimp only at hmin hbounds
  refine askThen_follows (askedCoils hook data) (FieldMap.writePackedBit cursor data offset) hbatch
    hm hcontains hpos htake ?_ ?_ hmaps
  · intro m' haddresses
    obtain ⟨hfirst, hlast⟩ := FieldMap.bounds_congr haddresses
    have hne : take ≠ 0 := by
      rintro rfl
      change 0 = _ at hmin
      omega
    have hone : (1 : UInt16).toNat = 1 := rfl
    have hsub : (take - 1).toNat = take.toNat - 1 :=
      UInt16.toNat_sub_of_le _ _ (UInt16.le_iff_toNat_le.mpr (by omega))
    have hadd : (cursor + (take - 1)).toNat = cursor.toNat + (take.toNat - 1) := by
      rw [UInt16.toNat_add, hsub]
      omega
    have hrange : (decide (cursor < m'.addrMin) || decide (m'.addrMax < cursor + (take - 1))) =
        false := by
      rw [hfirst, hlast, Bool.or_eq_false_iff, decide_eq_false_iff_not, decide_eq_false_iff_not,
        UInt16.lt_iff_toNat_lt, UInt16.lt_iff_toNat_lt, hadd]
      omega
    rw [FieldMap.writeManyFromPacked, if_neg hne, if_neg (by omega), hrange]
    rfl
  · intro i hi m' haddresses
    rw [FieldMap.writePackedBit, add_ofNat_eq, coilAt, ← haddresses]
    by_cases hbyte : (offset + i) / 8 < data.length
    · rw [if_pos hbyte, decide_eq_false (Nat.not_le.mpr hbyte), index_of_lt hbyte]
      change (∀ v, _ → _ → m'.writeSingle _ _ = _) ∧ ∀ m'', m'.writeSingle _ _ = _ → _
      refine ⟨fun v hmem hv => ?_, fun m'' hok => ⟨FieldMap.mem_of_writeSingle hok, rfl⟩⟩
      cases hv
      rw [FieldMap.writeSingle_of_mem hmem, bitAt, List.getD_eq_getElem?_getD,
        List.getElem?_eq_getElem hbyte]
      rfl
    · rw [if_neg hbyte, decide_eq_true (Nat.not_lt.mp hbyte)]
      exact ⟨fun v _ hv => (by cases hv), fun m'' hok => (by cases hok)⟩

/-- The FC0F loop. -/
lemma writeCoils_spec (hook : Option (BatchHook UInt8)) (l : Layout Bool) (address count : UInt16)
    (data : List UInt8) :
    ((writeCoils hook l address count data).1 = .ok () ↔
      l.AcceptsAll (askedCoils hook data) (coilAt data) address count) ∧
    (∀ i < count.toNat,
      (∀ j ≤ i, l.Accepted (askedCoils hook data) (coilAt data) address count j) →
      fieldAt (writeCoils hook l address count data).2 (address.toNat + i) = coilAt data i) ∧
    ∀ other, (∀ i < count.toNat, other = address.toNat + i →
        ¬∀ j ≤ i, l.Accepted (askedCoils hook data) (coilAt data) address count j) →
      fieldAt (writeCoils hook l address count data).2 other = l.get other := by
  refine batch_spec (Nat.lt_succ_self _) ?_
  intro k m hm cursor remaining offset maps hmaps hbatch hcontains hpos take htake
  exact writeCoils_part_follows hook hbatch hm hcontains hpos htake hmaps

/-- The FC10 loop. -/
lemma writeRegisters_spec (hook : Option (BatchHook UInt16)) (l : Layout UInt16)
    (address : UInt16) {values : List UInt16} {count : UInt16}
    (hcount : values.length = count.toNat) :
    ((writeRegisters hook l address values).1 = .ok () ↔
      l.AcceptsAll (askedRegisters hook values) (values[·]?) address count) ∧
    (∀ i < count.toNat,
      (∀ j ≤ i, l.Accepted (askedRegisters hook values) (values[·]?) address count j) →
      fieldAt (writeRegisters hook l address values).2 (address.toNat + i) = values[i]?) ∧
    ∀ other, (∀ i < count.toNat, other = address.toNat + i →
        ¬∀ j ≤ i, l.Accepted (askedRegisters hook values) (values[·]?) address count j) →
      fieldAt (writeRegisters hook l address values).2 other = l.get other := by
  have hlength : UInt16.ofNat values.length = count := by
    rw [hcount, UInt16.ofNat_toNat]
  rw [writeRegisters, hlength]
  refine batch_spec (Nat.lt_succ_of_le (Nat.le_of_eq hcount.symm)) ?_
  intro k m hm cursor remaining offset maps hmaps hbatch hcontains hpos take htake
  have hmin := Segment.toNat_take hcontains remaining
  have hbounds := Segment.contains_iff.mp hcontains
  have hmax := m.addrMax.toNat_lt
  have hremaining := hbatch.remaining_eq
  rw [← htake] at hmin
  dsimp only at hmin hbounds
  have hdrop : take.toNat ≤ (values.drop offset).length := by
    rw [List.length_drop]
    omega
  have hpart : ((values.drop offset).take take.toNat).length = take.toNat :=
    List.length_take_of_le hdrop
  have hslice : slice (ε := MbusError) (values.drop offset) 0 take.toNat =
      .ok ((values.drop offset).take take.toNat) := slice_of_le (Nat.zero_le _) hdrop
  rw [hslice]
  refine askThen_follows (askedRegisters hook values)
    (FieldMap.writeWord cursor ((values.drop offset).take take.toNat)) hbatch hm hcontains hpos
    htake ?_ ?_ hmaps
  · intro m' _
    rw [FieldMap.writeMany, hpart, if_neg]
    intro hempty
    rw [List.isEmpty_iff.mp hempty] at hpart
    change 0 = _ at hpart
    omega
  · intro i hi m' haddresses
    have hindex : ((values.drop offset).take take.toNat)[i]? = values[offset + i]? := by
      rw [List.getElem?_take_of_lt hi, List.getElem?_drop]
    have hlt : offset + i < values.length := by omega
    have hi' : i < ((values.drop offset).take take.toNat).length := by omega
    rw [List.getElem?_eq_getElem hi', List.getElem?_eq_getElem hlt] at hindex
    rw [FieldMap.writeWord, add_ofNat_eq, ← haddresses, index_of_lt hi',
      List.getElem?_eq_getElem hlt, Option.some.inj hindex]
    have hguard : decide (65536 ≤ cursor.toNat + (UInt16.ofNat i).toNat) = false := by
      rw [UInt16.toNat_ofNat']
      exact decide_eq_false (by omega)
    rw [hguard]
    change (∀ v, _ → _ → m'.writeSingle _ _ = _) ∧ ∀ m'', m'.writeSingle _ _ = _ → _
    refine ⟨fun v hmem hv => ?_, fun m'' hok => ⟨FieldMap.mem_of_writeSingle hok, rfl⟩⟩
    cases hv
    exact FieldMap.writeSingle_of_mem hmem

end ModbusRs
