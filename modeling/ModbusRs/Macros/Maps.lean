import ModbusRs.Core.AddressLaw
import Mathlib.Data.List.Chain
import Mathlib.Data.List.Pairwise

/-!
# Maps of a generated application

The structs with `#[derive(CoilsModel)]` and its siblings, as their fields by address, and the
groups of such maps that `#[modbus_app]` accepts. A generated handler serves a range of addresses
segment by segment, with a cursor; what it does is compared with a walk over the addresses, one
after the other.
-/

namespace ModbusRs

open Outcome

/-! ### Segments -/

/-- The addresses from `first` to `last`, and what serves them. -/
structure Segment (β : Type) where
  first : UInt16
  last : UInt16
  target : β

/-- `(ADDR_MIN..=ADDR_MAX).contains(&cursor)`. -/
def Segment.contains {β : Type} (seg : Segment β) (cursor : UInt16) : Bool :=
  seg.first ≤ cursor && cursor ≤ seg.last

/-- The `take` of `build_available_take_tokens`, for a cursor in the segment. -/
def Segment.take {β : Type} (seg : Segment β) (cursor remaining : UInt16) : UInt16 :=
  let gap := seg.last - cursor
  let available := if gap = 0xFFFF then 0xFFFF else gap + 1
  if remaining < available then remaining else available

section

variable {β σ : Type} (segments : List (Segment β))
  (serve : β → UInt16 → UInt16 → Nat → σ → Fallible Unit × σ)

/-- The loop of a generated handler: the segment that contains the cursor serves what it can, and
the cursor moves behind it. -/
def segmentLoop : Nat → UInt16 → UInt16 → Nat → σ → Fallible Unit × σ
  | 0, _, _, _, s => (.panic, s)
  | fuel + 1, cursor, remaining, offset, s =>
    if remaining = 0 then (.ok (), s)
    else match segments.find? (·.contains cursor) with
      | none => (.err .invalidAddress, s)
      | some seg =>
        let take := seg.take cursor remaining
        match serve seg.target cursor take offset s with
        | (.ok (), s) =>
          if cursor.toNat + take.toNat < 65536 then
            segmentLoop fuel (cursor + take) (remaining - take) (offset + take.toNat) s
          else (.err .invalidAddress, s)
        | (e, s) => (e, s)

/-- A walk over `count` addresses, which ends early where `item` does not go on. -/
def walk (item : Nat → Nat → σ → Option σ) : Nat → Nat → Nat → σ → Bool × σ
  | 0, _, _, s => (true, s)
  | count + 1, address, offset, s =>
    match item address offset s with
    | none => (false, s)
    | some s => walk item count (address + 1) (offset + 1) s

variable {item : Nat → Nat → σ → Option σ}

lemma walk_add (item : Nat → Nat → σ → Option σ) (m n address offset : Nat) (s : σ) :
    walk item (m + n) address offset s = match walk item m address offset s with
      | (true, s') => walk item n (address + m) (offset + m) s'
      | (false, s') => (false, s') := by
  induction m generalizing address offset s with
  | zero => rw [Nat.zero_add]; rfl
  | succ m ih =>
    rw [Nat.add_right_comm, walk, walk]
    cases item address offset s with
    | none => rfl
    | some s' =>
      dsimp only
      rw [ih, Nat.add_right_comm address, Nat.add_right_comm offset]
      rfl

/-- What each item keeps, a walk within the limit keeps. -/
lemma walk_keeps {P : σ → Prop} {limit : Nat}
    (hitem : ∀ address offset s s', offset < limit → P s → item address offset s = some s' → P s')
    {n address offset : Nat} {s : σ} (hlimit : offset + n ≤ limit) (hs : P s) :
    P (walk item n address offset s).2 := by
  induction n generalizing address offset s with
  | zero => exact hs
  | succ n ih =>
    rw [walk]
    cases h : item address offset s with
    | none => exact hs
    | some s' => exact ih (by omega) (hitem _ _ _ _ (by omega) hs h)

/-- The values at `count` addresses, if each has one. -/
def collect {α : Type} (get : Nat → Option α) : Nat → Nat → Option (List α)
  | 0, _ => some []
  | count + 1, address =>
    match get address, collect get count (address + 1) with
    | some a, some values => some (a :: values)
    | _, _ => none

lemma collect_isSome_iff {α : Type} {get : Nat → Option α} {n address : Nat} :
    (collect get n address).isSome = true ↔ ∀ i < n, (get (address + i)).isSome = true := by
  induction n generalizing address with
  | zero => exact iff_of_true rfl fun i hi => absurd hi (Nat.not_lt_zero i)
  | succ n ih =>
    have hrest : (collect get n (address + 1)).isSome = true ↔
        ∀ i < n, (get (address + (i + 1))).isSome = true := by
      rw [ih]
      simp only [Nat.add_assoc, Nat.add_comm 1]
    rw [Nat.forall_lt_succ_left, ← hrest, Nat.add_zero, collect]
    cases get address with
    | none => exact iff_of_false nofun (fun h => nomatch h.1)
    | some a =>
      cases collect get n (address + 1) with
      | none => exact iff_of_false nofun (fun h => nomatch h.2)
      | some values => exact iff_of_true rfl ⟨rfl, rfl⟩

lemma collect_eq_some {α : Type} {get : Nat → Option α} {n address : Nat} {values : List α}
    (h : collect get n address = some values) :
    values.length = n ∧ (List.range n).filterMap (fun i => get (address + i)) = values := by
  induction n generalizing address values with
  | zero =>
    cases h
    exact ⟨rfl, rfl⟩
  | succ n ih =>
    rw [collect] at h
    cases hget : get address with
    | none =>
      rw [hget] at h
      cases h
    | some a =>
      rw [hget] at h
      cases hcollect : collect get n (address + 1) with
      | none =>
        rw [hcollect] at h
        cases h
      | some rest =>
        rw [hcollect] at h
        cases h
        obtain ⟨hlength, hrest⟩ := ih hcollect
        refine ⟨congrArg (· + 1) hlength, ?_⟩
        rw [List.range_succ_eq_map, List.filterMap_cons, Nat.add_zero, hget, List.filterMap_map,
          ← hrest]
        refine congrArg (a :: ·) (List.filterMap_congr fun i _ => ?_)
        exact congrArg get (Nat.add_assoc address 1 i ▸ Nat.add_comm 1 i ▸ rfl)

lemma collect_congr {α : Type} {get get' : Nat → Option α} {n address : Nat}
    (h : ∀ i < n, get (address + i) = get' (address + i)) :
    collect get n address = collect get' n address := by
  induction n generalizing address with
  | zero => rfl
  | succ n ih =>
    have hrest : collect get n (address + 1) = collect get' n (address + 1) :=
      ih fun i hi => by
        rw [Nat.add_assoc, Nat.add_comm 1]
        exact h (i + 1) (Nat.succ_lt_succ hi)
    have hfirst : get address = get' address := h 0 n.succ_pos
    rw [collect, collect, hfirst, hrest]

lemma collect_getElem? {α : Type} (front values : List α) :
    collect (fun i => (front ++ values)[i]?) values.length front.length = some values := by
  induction values generalizing front with
  | nil => rfl
  | cons a values ih =>
    have hrest := ih (front ++ [a])
    rw [List.length_append, List.length_singleton, List.append_assoc, List.singleton_append]
      at hrest
    rw [List.length_cons, collect, hrest, List.getElem?_append_right le_rfl, Nat.sub_self]
    rfl

/-- The values put one after the other, from an offset on. -/
def place {α : Type} (put : Nat → α → σ → σ) : Nat → List α → σ → σ
  | _, [], s => s
  | offset, a :: values, s => place put (offset + 1) values (put offset a s)

/-- A walk that puts the value of each address to its place. -/
lemma walk_put {α : Type} (get : Nat → Option α) (put : Nat → α → σ → σ) (n address offset : Nat)
    (s : σ) : let walked := walk (fun a i s => (get a).map fun v => put i v s) n address offset s
      match collect get n address with
      | some values => walked = (true, place put offset values s)
      | none => walked.1 = false := by
  induction n generalizing address offset s with
  | zero => rfl
  | succ n ih =>
    rw [collect, walk]
    cases get address with
    | none => rfl
    | some a =>
      have hrest := ih (address + 1) (offset + 1) (put offset a s)
      cases hcollect : collect get n (address + 1) with
      | none =>
        rw [hcollect] at hrest
        exact hrest
      | some values =>
        rw [hcollect] at hrest
        exact hrest

/-- Where nothing is found, the address is refused. -/
def found {α : Type} : Option α → Fallible α
  | some a => .ok a
  | none => .err .invalidAddress

/-- A loop that puts the value of each address to its place, with an invariant that keeps the
places in range. -/
lemma foldlM_put {α : Type} (get : Nat → Option α) {put : Nat → α → σ → σ}
    {f : σ → Nat → Fallible σ} {P : σ → Prop} {n address offset : Nat}
    (hf : ∀ i < n, ∀ s, P s →
      f s i = found ((get (address + i)).map fun v => put (offset + i) v s))
    (hput : ∀ i < n, ∀ v s, P s → P (put (offset + i) v s)) {s : σ} (hs : P s) :
    (List.range n).foldlM f s =
      found ((collect get n address).map fun values => place put offset values s) := by
  induction n generalizing f address offset s with
  | zero => rfl
  | succ n ih =>
    rw [List.range_succ_eq_map, List.foldlM_cons, hf 0 n.succ_pos s hs, Nat.add_zero, collect]
    cases get address with
    | none => rfl
    | some a =>
      have hrest : ∀ i < n, ∀ s, P s → f s (i + 1) =
          found ((get (address + 1 + i)).map fun v => put (offset + 1 + i) v s) := by
        intro i hi s hs
        rw [hf (i + 1) (Nat.succ_lt_succ hi) s hs, Nat.add_right_comm address,
          Nat.add_right_comm offset, Nat.add_assoc address, Nat.add_assoc offset]
      have hputRest : ∀ i < n, ∀ v s, P s → P (put (offset + 1 + i) v s) := by
        intro i hi
        rw [Nat.add_right_comm, Nat.add_assoc]
        exact hput (i + 1) (Nat.succ_lt_succ hi)
      have hrun := ih hrest hputRest (hput 0 n.succ_pos a s hs)
      rw [Nat.add_zero] at hrun
      rw [Option.map_some, found, Outcome.ok_bind, List.foldlM_map]
      refine hrun.trans ?_
      cases collect get n (address + 1) <;> rfl

/-- What is served is what the walk does; `early` says that this is so where both fail, too. -/
structure Follows (early : Prop) (served : Fallible Unit × σ) (walked : Bool × σ) : Prop where
  ok_iff : served.1 = .ok () ↔ walked.1 = true
  state : walked.1 = true ∨ early → served.2 = walked.2

variable {segments}

lemma Segment.contains_iff {seg : Segment β} {cursor : UInt16} :
    seg.contains cursor = true ↔
      seg.first.toNat ≤ cursor.toNat ∧ cursor.toNat ≤ seg.last.toNat := by
  rw [contains, Bool.and_eq_true, decide_eq_true_iff, decide_eq_true_iff, UInt16.le_iff_toNat_le,
    UInt16.le_iff_toNat_le]

/-- A segment serves up to its end, or all that remains. -/
lemma Segment.toNat_take {seg : Segment β} {cursor : UInt16}
    (h : seg.contains cursor = true) (remaining : UInt16) : (seg.take cursor remaining).toNat =
      min remaining.toNat (seg.last.toNat - cursor.toNat + 1) := by
  rw [contains_iff] at h
  have hgap := UInt16.toNat_sub_of_le _ _ (UInt16.le_iff_toNat_le.mpr h.2)
  have hlast := seg.last.toNat_lt
  have hremaining := remaining.toNat_lt
  have hone : (0xFFFF : UInt16).toNat = 65535 := rfl
  have havailable : (if seg.last - cursor = 0xFFFF then (0xFFFF : UInt16)
      else seg.last - cursor + 1).toNat =
      if seg.last.toNat - cursor.toNat = 65535 then 65535
      else seg.last.toNat - cursor.toNat + 1 := by
    have hiff : seg.last - cursor = 0xFFFF ↔ seg.last.toNat - cursor.toNat = 65535 := by
      rw [← UInt16.toNat_inj, hgap, hone]
    by_cases hmax : seg.last - cursor = 0xFFFF
    · rw [if_pos hmax, if_pos (hiff.mp hmax)]
      rfl
    · rw [if_neg hmax, if_neg (hiff.not.mp hmax), UInt16.toNat_add, hgap]
      have hne := hiff.not.mp hmax
      change (_ + 1) % 65536 = _
      omega
  rw [take]
  generalize (if seg.last - cursor = 0xFFFF then (0xFFFF : UInt16)
    else seg.last - cursor + 1) = available at havailable
  by_cases hlt : remaining < available
  · rw [if_pos hlt]
    rw [UInt16.lt_iff_toNat_lt] at hlt
    split at havailable <;> omega
  · rw [if_neg hlt]
    rw [UInt16.lt_iff_toNat_lt] at hlt
    split at havailable <;> omega

/-- The loop follows the walk as long as what serves the segments does, but it refuses a range
that ends with the address space. -/
theorem segmentLoop_follows {early : Prop} {limit : Nat} {P : σ → Prop}
    {Q : UInt16 → UInt16 → Nat → Prop}
    (hserve : ∀ seg ∈ segments, ∀ (cursor remaining : UInt16) (offset : Nat) (s : σ), P s →
      Q cursor remaining offset → seg.contains cursor = true → 0 < remaining.toNat →
      offset + remaining.toNat ≤ limit →
      Follows early (serve seg.target cursor (seg.take cursor remaining) offset s)
        (walk item (seg.take cursor remaining).toNat cursor.toNat offset s))
    (hnext : ∀ seg ∈ segments, ∀ (cursor remaining : UInt16) (offset : Nat),
      Q cursor remaining offset → seg.contains cursor = true →
      cursor.toNat + (seg.take cursor remaining).toNat < 65536 →
      Q (cursor + seg.take cursor remaining) (remaining - seg.take cursor remaining)
        (offset + (seg.take cursor remaining).toNat))
    (hgap : ∀ address offset s, (∀ seg ∈ segments, address < seg.first.toNat ∨
      seg.last.toNat < address) → item address offset s = none)
    (hitem : ∀ address offset s s', offset < limit → P s → item address offset s = some s' → P s')
    {fuel : Nat} (cursor remaining : UInt16) {offset : Nat} {s : σ} (hs : P s)
    (hQ : Q cursor remaining offset)
    (hfuel : remaining.toNat < fuel) (hlimit : offset + remaining.toNat ≤ limit) :
    ((segmentLoop segments serve fuel cursor remaining offset s).1 = .ok () ↔
      (remaining = 0 ∨ cursor.toNat + remaining.toNat < 65536) ∧
        (walk item remaining.toNat cursor.toNat offset s).1 = true) ∧
    ((walk item remaining.toNat cursor.toNat offset s).1 = true ∨ early →
      (segmentLoop segments serve fuel cursor remaining offset s).2 =
        (walk item remaining.toNat cursor.toNat offset s).2) := by
  induction fuel generalizing cursor remaining offset s with
  | zero => exact absurd hfuel (Nat.not_lt_zero _)
  | succ fuel ih =>
    rw [segmentLoop]
    by_cases hzero : remaining = 0
    · subst hzero
      exact ⟨iff_of_true rfl ⟨Or.inl rfl, rfl⟩, fun _ => rfl⟩
    rw [if_neg hzero]
    have hpos : 0 < remaining.toNat := Nat.pos_of_ne_zero fun h =>
      hzero (UInt16.toNat_inj.mp h)
    cases hfind : segments.find? (·.contains cursor) with
    | none =>
      have hnone : item cursor.toNat offset s = none := by
        refine hgap _ _ _ fun seg hseg => ?_
        have hout := List.find?_eq_none.mp hfind seg hseg
        rw [Segment.contains_iff] at hout
        omega
      obtain ⟨n, hn⟩ := Nat.exists_eq_add_of_lt hpos
      rw [Nat.zero_add] at hn
      rw [hn, walk, hnone]
      exact ⟨iff_of_false nofun (fun h => nomatch h.2), fun _ => rfl⟩
    | some seg =>
      have hseg := List.mem_of_find?_eq_some hfind
      have hcontains : seg.contains cursor = true :=
        @List.find?_some _ (fun seg : Segment β => seg.contains cursor) _ _ hfind
      have hmin := Segment.toNat_take hcontains remaining
      have hfollows := hserve seg hseg cursor remaining offset s hs hQ hcontains hpos hlimit
      have hstep := hnext seg hseg cursor remaining offset hQ hcontains
      have hkeeps : P (walk item (seg.take cursor remaining).toNat cursor.toNat offset s).2 :=
        walk_keeps hitem (by omega) hs
      have hbounds := Segment.contains_iff.mp hcontains
      dsimp only
      generalize seg.take cursor remaining = take at hmin hfollows hkeeps hstep
      have hle : take.toNat ≤ remaining.toNat := by omega
      have hsplit := walk_add item take.toNat (remaining.toNat - take.toNat)
        cursor.toNat offset s
      rw [Nat.add_sub_cancel' hle] at hsplit
      rw [hsplit]
      generalize walk item take.toNat cursor.toNat offset s = walked at hfollows hkeeps
      obtain ⟨through, sw⟩ := walked
      generalize serve seg.target cursor take offset s = served at hfollows
      obtain ⟨result, s'⟩ := served
      cases through with
      | false =>
        have hne : result ≠ .ok () := fun h => nomatch hfollows.ok_iff.mp h
        have hsame : early → s' = sw := fun h => hfollows.state (Or.inr h)
        cases result with
        | ok _ => exact absurd rfl hne
        | err e =>
          exact ⟨iff_of_false nofun (fun h => nomatch h.2),
            fun h => hsame (h.resolve_left Bool.false_ne_true)⟩
        | panic =>
          exact ⟨iff_of_false nofun (fun h => nomatch h.2),
            fun h => hsame (h.resolve_left Bool.false_ne_true)⟩
      | true =>
        have hok : result = .ok () := hfollows.ok_iff.mpr rfl
        have hsame : s' = sw := hfollows.state (Or.inl rfl)
        subst hok hsame
        dsimp only
        have hlast := seg.last.toNat_lt
        by_cases hmore : cursor.toNat + take.toNat < 65536
        · have hcursor : (cursor + take).toNat = cursor.toNat + take.toNat := by
            rw [UInt16.toNat_add]
            omega
          have hrest : (remaining - take).toNat = remaining.toNat - take.toNat :=
            UInt16.toNat_sub_of_le _ _ (UInt16.le_iff_toNat_le.mpr hle)
          have hrec := @ih (cursor + take) (remaining - take) (offset + take.toNat) s' hkeeps
            (hstep hmore) (by omega) (by omega)
          rw [if_pos hmore]
          rw [hcursor, hrest] at hrec
          refine ⟨hrec.1.trans (and_congr_left fun _ => ?_), hrec.2⟩
          rw [← UInt16.toNat_inj, hrest]
          have hz : (0 : UInt16).toNat = 0 := rfl
          constructor
          · rintro (h | h)
            · exact Or.inr (by omega)
            · exact Or.inr (by omega)
          · rintro (h | h)
            · exact absurd h hzero
            · exact Or.inr (by omega)
        · rw [if_neg hmore]
          have hwrap : cursor.toNat + take.toNat = 65536 := by omega
          refine ⟨iff_of_false nofun fun h => ?_, fun _ => ?_⟩
          · rcases h.1 with h | h
            · exact hzero h
            · omega
          · rw [hwrap]
            cases hrest : remaining.toNat - take.toNat with
            | zero => rfl
            | succ n =>
              have hnone : item 65536 (offset + take.toNat) s' = none :=
                hgap _ _ _ fun seg _ => Or.inr seg.last.toNat_lt
              dsimp only
              rw [walk, hnone]

end

/-! ### Maps and layouts -/

/-- A struct with a derived map. No two of its fields have an address in common. -/
structure FieldMap (α : Type) where
  fields : List (UInt16 × α)
  nodup : (fields.map (·.1)).Nodup

namespace FieldMap

variable {α : Type} (m : FieldMap α)

/-- `ADDR_MIN`. -/
def addrMin : UInt16 := UInt16.ofNat ((m.fields.map (·.1.toNat)).min?.getD 0)

/-- `ADDR_MAX`. -/
def addrMax : UInt16 := UInt16.ofNat ((m.fields.map (·.1.toNat)).max?.getD 0)

/-- The generated `match` on an address. -/
def get (address : UInt16) : Option α := m.fields.lookup address

/-- A field lies between the first and the last address of its map. -/
lemma bounds_of_get {address : UInt16} {a : α} (h : m.get address = some a) :
    m.addrMin.toNat ≤ address.toNat ∧ address.toNat ≤ m.addrMax.toNat := by
  have hmem : address.toNat ∈ m.fields.map (·.1.toNat) := by
    obtain ⟨l, l', hl, _⟩ := List.lookup_eq_some_iff.mp h
    rw [hl]
    simp
  have hsmall : ∀ n ∈ m.fields.map (·.1.toNat), n < 65536 := by
    intro n hn
    obtain ⟨f, _, rfl⟩ := List.mem_map.mp hn
    exact f.1.toNat_lt
  obtain ⟨lo, hlo⟩ := Option.isSome_iff_exists.mp
    (List.isSome_min?_of_mem hmem)
  obtain ⟨hi, hhi⟩ := Option.isSome_iff_exists.mp
    (List.isSome_max?_of_mem hmem)
  rw [addrMin, addrMax, hlo, hhi]
  rw [List.min?_eq_some_iff] at hlo
  rw [List.max?_eq_some_iff] at hhi
  have hloSmall := hsmall lo hlo.1
  have hhiSmall := hsmall hi hhi.1
  have hle := hlo.2 _ hmem
  have hge := hhi.2 _ hmem
  rw [Option.getD_some, Option.getD_some, UInt16.toNat_ofNat', UInt16.toNat_ofNat']
  omega

end FieldMap

/-- The value of the field at an address, if there is one in some map. -/
def fieldAt {α : Type} (maps : List (FieldMap α)) (address : Nat) : Option α :=
  if address < 65536 then maps.findSome? (·.get (UInt16.ofNat address)) else none

/-- The maps of a group as segments. -/
def mapSegments {α : Type} (maps : List (FieldMap α)) : List (Segment (FieldMap α)) :=
  maps.map fun m => ⟨m.addrMin, m.addrMax, m⟩

/-- A group of maps that passes the overlap check and the order check. -/
structure Layout (α : Type) where
  maps : List (FieldMap α)
  disjoint : maps.Pairwise fun a b => a.addrMax < b.addrMin ∨ b.addrMax < a.addrMin
  ordered : maps.IsChain fun a b => a.addrMin ≤ b.addrMin

namespace Layout

variable {α : Type} (l : Layout α)

/-- The value of the field at an address. -/
def get (address : Nat) : Option α := fieldAt l.maps address

/-- Every address of the range belongs to a field of some map. -/
def HasAll (address quantity : UInt16) : Prop :=
  ∀ i < quantity.toNat, (l.get (address.toNat + i)).isSome

instance (address quantity : UInt16) : Decidable (l.HasAll address quantity) :=
  inferInstanceAs (Decidable (∀ i < quantity.toNat, _))

variable {l}

/-- Between the first and the last address of a map there are only its own fields. -/
lemma get_eq {m : FieldMap α} (hm : m ∈ l.maps) {address : Nat}
    (hfirst : m.addrMin.toNat ≤ address) (hlast : address ≤ m.addrMax.toNat) :
    l.get address = m.get (UInt16.ofNat address) := by
  have hlt := m.addrMax.toNat_lt
  have haddress : (UInt16.ofNat address).toNat = address := by
    rw [UInt16.toNat_ofNat']
    omega
  have hother : ∀ m' ∈ l.maps, m' ≠ m → m'.get (UInt16.ofNat address) = none := by
    intro m' hm' hne
    have _ : Std.Symm fun a b : FieldMap α => a.addrMax < b.addrMin ∨ b.addrMax < a.addrMin :=
      ⟨fun _ _ h => h.symm⟩
    have hdisjoint := l.disjoint.forall hm' hm hne
    rw [UInt16.lt_iff_toNat_lt, UInt16.lt_iff_toNat_lt] at hdisjoint
    cases hget : m'.get (UInt16.ofNat address) with
    | none => rfl
    | some a =>
      have hbounds := m'.bounds_of_get hget
      omega
  rw [get, fieldAt, if_pos (by omega)]
  cases hget : m.get (UInt16.ofNat address) with
  | none =>
    refine List.findSome?_eq_none_iff.mpr fun m' hm' => ?_
    by_cases heq : m' = m
    · rw [heq, hget]
    · exact hother m' hm' heq
  | some a =>
    cases hfind : l.maps.findSome? (·.get (UInt16.ofNat address)) with
    | none => exact absurd (List.findSome?_eq_none_iff.mp hfind m hm) (by rw [hget]; nofun)
    | some b =>
      obtain ⟨m', hm', hb⟩ := List.exists_of_findSome?_eq_some hfind
      by_cases heq : m' = m
      · rw [heq, hget] at hb
        exact hb.symm
      · rw [hother m' hm' heq] at hb
        cases hb

/-- Outside of all maps there are no fields. -/
lemma get_eq_none {address : Nat}
    (h : ∀ m ∈ l.maps, address < m.addrMin.toNat ∨ m.addrMax.toNat < address) :
    l.get address = none := by
  rw [get, fieldAt]
  split
  · rename_i hlt
    refine List.findSome?_eq_none_iff.mpr fun m hm => ?_
    cases hget : m.get (UInt16.ofNat address) with
    | none => rfl
    | some a =>
      have hbounds := m.bounds_of_get hget
      have haddress : (UInt16.ofNat address).toNat = address := by
        rw [UInt16.toNat_ofNat']
        omega
      have hout := h m hm
      omega
  · rfl

end Layout

end ModbusRs
