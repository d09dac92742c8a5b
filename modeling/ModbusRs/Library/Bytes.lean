import ModbusRs.Library.Outcome
import Mathlib.Data.List.Perm.Basic

/-!
# Bounded vectors and big-endian words

`HVec α n` is a vector with room for `n` elements, so a value that exceeds its capacity
cannot be built; `push` and `extendFromSlice` fail when the room is used up and leave the
vector as it was. `toBeBytes` and `fromBeBytes` are the network order of 16-bit words.
-/

/-- A vector of capacity `n`. -/
structure HVec (α : Type) (n : Nat) where
  toList : List α
  length_le : toList.length ≤ n
  deriving DecidableEq, Repr

namespace HVec

variable {α : Type} {n : Nat}

/-- The empty vector. -/
def empty : HVec α n := ⟨[], Nat.zero_le n⟩

@[simp] lemma empty_toList : (empty : HVec α n).toList = [] := rfl

@[ext] lemma ext {v w : HVec α n} (h : v.toList = w.toList) : v = w := by
  cases v
  cases w
  cases h
  rfl

/-- Number of elements. -/
def length (v : HVec α n) : Nat := v.toList.length

/-- Append a slice, or fail without change when it does not fit. -/
def extendFromSlice (v : HVec α n) (xs : List α) : Option (HVec α n) :=
  if h : (v.toList ++ xs).length ≤ n then some ⟨v.toList ++ xs, h⟩ else none

/-- Append one element, or fail without change when it does not fit. -/
def push (v : HVec α n) (x : α) : Option (HVec α n) := v.extendFromSlice [x]

lemma extendFromSlice_eq_some {v w : HVec α n} {xs : List α} :
    v.extendFromSlice xs = some w ↔ w.toList = v.toList ++ xs := by
  unfold extendFromSlice
  split
  next h =>
    constructor
    · intro he
      cases he
      rfl
    · intro he
      exact congrArg some (HVec.ext he.symm)
  next h =>
    simp only [reduceCtorEq, false_iff]
    intro he
    exact h (he ▸ w.length_le)

lemma extendFromSlice_eq_none {v : HVec α n} {xs : List α} :
    v.extendFromSlice xs = none ↔ n < v.toList.length + xs.length := by
  unfold extendFromSlice
  split
  next h => simpa using h
  next h => simpa using h

lemma extendFromSlice_of_le {v : HVec α n} {xs : List α} (h : v.toList.length + xs.length ≤ n) :
    v.extendFromSlice xs = some ⟨v.toList ++ xs, by simpa using h⟩ :=
  extendFromSlice_eq_some.mpr rfl

/-- A vector refuses an element exactly when it is full. -/
lemma push_eq_none {v : HVec α n} {x : α} : v.push x = none ↔ v.toList.length = n := by
  have hle := v.length_le
  rw [push, extendFromSlice_eq_none, List.length_singleton]
  omega

lemma push_of_ne (v : HVec α n) (x : α) (h : v.toList.length ≠ n) :
    ∃ w, v.push x = some w ∧ w.toList = v.toList ++ [x] := by
  obtain ⟨w, hw⟩ := Option.ne_none_iff_exists'.mp fun hnone => h (push_eq_none.mp hnone)
  exact ⟨w, hw, extendFromSlice_eq_some.mp hw⟩

/-- `v.extend_from_slice(xs).map_err(|_| e)`. -/
def extendOr {ε : Type} (v : HVec α n) (xs : List α) (e : ε) : Except ε (HVec α n) :=
  match v.extendFromSlice xs with
  | some w => .ok w
  | none => .error e

/-- `v.push(x).map_err(|_| e)`. -/
def pushOr {ε : Type} (v : HVec α n) (x : α) (e : ε) : Except ε (HVec α n) := v.extendOr [x] e

lemma extendOr_of_le {ε : Type} {v : HVec α n} {xs : List α} (e : ε)
    (h : v.toList.length + xs.length ≤ n) :
    v.extendOr xs e = .ok ⟨v.toList ++ xs, by simpa using h⟩ := by
  rw [extendOr, extendFromSlice_of_le h]

lemma extendOr_of_gt {ε : Type} {v : HVec α n} {xs : List α} (e : ε)
    (h : n < v.toList.length + xs.length) : v.extendOr xs e = .error e := by
  rw [extendOr, extendFromSlice_eq_none.mpr h]

lemma extendOr_eq_ok {ε : Type} {v w : HVec α n} {xs : List α} {e : ε} :
    v.extendOr xs e = .ok w ↔ w.toList = v.toList ++ xs := by
  unfold extendOr
  rw [← extendFromSlice_eq_some]
  cases v.extendFromSlice xs <;> simp

/-- A loop that appends one piece after the other, and finds room for all of them. -/
lemma foldlM_extendOr_of_le {ε β : Type} {f : β → List α} {e : ε} {v : HVec α n} {xs : List β}
    (h : v.toList.length + (xs.flatMap f).length ≤ n) :
    xs.foldlM (fun (v : HVec α n) x => v.extendOr (f x) e) v =
      .ok ⟨v.toList ++ xs.flatMap f, by simpa using h⟩ := by
  induction xs generalizing v with
  | nil =>
    rw [List.foldlM_nil]
    exact congrArg Except.ok (HVec.ext (by simp))
  | cons x xs ih =>
    rw [List.flatMap_cons, List.length_append] at h
    rw [List.foldlM_cons, extendOr_of_le e (by omega), Except.ok_bind, ih (by
      rw [List.length_append]
      omega)]
    exact congrArg Except.ok (HVec.ext (by simp))

lemma foldlM_extendOr_of_gt {ε β : Type} {f : β → List α} {e : ε} {v : HVec α n} {xs : List β}
    (h : n < v.toList.length + (xs.flatMap f).length) :
    xs.foldlM (fun (v : HVec α n) x => v.extendOr (f x) e) v = .error e := by
  induction xs generalizing v with
  | nil =>
    have hle := v.length_le
    rw [List.flatMap_nil, List.length_nil] at h
    omega
  | cons x xs ih =>
    rw [List.flatMap_cons, List.length_append] at h
    rw [List.foldlM_cons]
    by_cases hx : v.toList.length + (f x).length ≤ n
    · rw [extendOr_of_le e hx, Except.ok_bind]
      exact ih (by
        rw [List.length_append]
        omega)
    · rw [extendOr_of_gt e (by omega), Except.error_bind]

/-- The loop ends well exactly when everything fits. -/
lemma foldlM_extendOr_eq_ok {ε β : Type} {f : β → List α} {e : ε} {v w : HVec α n} {xs : List β} :
    xs.foldlM (fun (v : HVec α n) x => v.extendOr (f x) e) v = .ok w ↔
      w.toList = v.toList ++ xs.flatMap f := by
  by_cases h : v.toList.length + (xs.flatMap f).length ≤ n
  · rw [foldlM_extendOr_of_le h, Except.ok.injEq, HVec.ext_iff, eq_comm]
  · rw [foldlM_extendOr_of_gt (by omega)]
    refine iff_of_false nofun fun hw => h ?_
    have hle := w.length_le
    rwa [hw, List.length_append] at hle

lemma pushOr_eq_ok {ε : Type} {v w : HVec α n} {x : α} {e : ε} :
    v.pushOr x e = .ok w ↔ w.toList = v.toList ++ [x] :=
  extendOr_eq_ok

lemma exists_extendOr {ε : Type} (v : HVec α n) (xs : List α) (e : ε)
    (h : v.toList.length + xs.length ≤ n) :
    ∃ w, v.extendOr xs e = .ok w ∧ w.toList.length = v.toList.length + xs.length :=
  ⟨_, extendOr_of_le e h, List.length_append⟩

/-- A loop whose rounds add `k` elements each. -/
lemma exists_foldlM {ε β : Type} {f : HVec α n → β → Except ε (HVec α n)} {k : Nat}
    (hf : ∀ v b, v.toList.length + k ≤ n →
      ∃ w, f v b = .ok w ∧ w.toList.length = v.toList.length + k)
    (bs : List β) (v : HVec α n) (h : v.toList.length + k * bs.length ≤ n) :
    ∃ w, bs.foldlM f v = .ok w ∧ w.toList.length = v.toList.length + k * bs.length := by
  induction bs generalizing v with
  | nil => exact ⟨v, rfl, rfl⟩
  | cons b bs ih =>
    rw [List.length_cons, Nat.mul_add, Nat.mul_one] at h ⊢
    obtain ⟨w, hw, hlen⟩ := hf v b (by omega)
    obtain ⟨w', hw', hlen'⟩ := ih w (by omega)
    refine ⟨w', ?_, by omega⟩
    rw [List.foldlM_cons, hw, Except.ok_bind, hw']

/-- `v.clear(); v.extend_from_slice(xs)`, with a slice that does not fit ignored. -/
def ofSlice (xs : List α) : HVec α n := (empty.extendFromSlice xs).getD empty

lemma ofSlice_toList {xs : List α} (h : xs.length ≤ n) : (ofSlice xs : HVec α n).toList = xs := by
  rw [ofSlice, extendFromSlice_of_le (by simpa using h)]
  rfl

/-- `v.copy_within(count.., 0)` followed by the truncation. -/
def dropFirst (v : HVec α n) (count : Nat) : HVec α n :=
  ⟨v.toList.drop count, by
    rw [List.length_drop]
    exact Nat.le_trans (Nat.sub_le _ _) v.length_le⟩

@[simp] lemma dropFirst_toList (v : HVec α n) (count : Nat) :
    (v.dropFirst count).toList = v.toList.drop count := rfl

/-- `v.pop_front()` of a queue. -/
def popFront (v : HVec α n) : Option (α × HVec α n) :=
  match v.toList with
  | [] => none
  | x :: _ => some (x, v.dropFirst 1)

/-- `v.swap_remove(i)`, for an index in range. -/
def swapRemove (v : HVec α n) (i : Nat) : Option (α × HVec α n) :=
  match v.toList[i]?, v.toList.getLast? with
  | some x, some last => some (x, ⟨(v.toList.set i last).dropLast, by
      rw [List.length_dropLast, List.length_set]
      exact Nat.le_trans (Nat.sub_le _ _) v.length_le⟩)
  | _, _ => none

lemma popFront_eq_some {v w : HVec α n} {x : α} :
    v.popFront = some (x, w) ↔ v.toList = x :: w.toList := by
  unfold popFront
  split
  next h => simp [h]
  next y rest h =>
    rw [h, Option.some.injEq, Prod.mk.injEq, List.cons.injEq, HVec.ext_iff, dropFirst_toList, h]
    rfl

/-- The removed element, and the last one in its place. -/
lemma swapRemove_eq_some {v w : HVec α n} {i : Nat} {x : α}
    (h : v.swapRemove i = some (x, w)) :
    v.toList[i]? = some x ∧
      ∃ last, v.toList.getLast? = some last ∧ w.toList = (v.toList.set i last).dropLast := by
  unfold swapRemove at h
  split at h
  next y last hi hlast =>
    cases h
    exact ⟨hi, last, hlast, rfl⟩
  next => cases h

lemma swapRemove_length {v w : HVec α n} {i : Nat} {x : α} (h : v.swapRemove i = some (x, w)) :
    w.toList.length + 1 = v.toList.length := by
  obtain ⟨hi, last, _, hw⟩ := swapRemove_eq_some h
  have hpos := (List.getElem?_eq_some_iff.mp hi).1
  rw [hw, List.length_dropLast, List.length_set]
  omega

lemma getElem?_of_swapRemove {v w : HVec α n} {i : Nat} {x : α}
    (h : v.swapRemove i = some (x, w)) : v.toList[i]? = some x :=
  (swapRemove_eq_some h).1

lemma mem_of_mem_swapRemove {v w : HVec α n} {i : Nat} {x y : α}
    (h : v.swapRemove i = some (x, w)) (hy : y = x ∨ y ∈ w.toList) : y ∈ v.toList := by
  obtain ⟨hi, last, hlast, hw⟩ := swapRemove_eq_some h
  rcases hy with rfl | hy
  · exact List.mem_of_getElem? hi
  · rw [hw] at hy
    rcases List.mem_or_eq_of_mem_set (List.dropLast_subset _ hy) with hy | rfl
    · exact hy
    · exact List.mem_of_getLast? hlast

lemma swapRemove_isSome {v : HVec α n} {i : Nat} (h : i < v.toList.length) :
    ∃ w, v.swapRemove i = some (v.toList[i], w) := by
  have hlast : v.toList.getLast? = some (v.toList.getLast (List.ne_nil_of_length_pos (by omega))) :=
    List.getLast?_eq_some_getLast _
  unfold swapRemove
  split
  next y last hi _ =>
    rw [List.getElem?_eq_getElem h] at hi
    cases hi
    exact ⟨_, rfl⟩
  next hno => exact absurd hlast (hno _ _ (List.getElem?_eq_getElem h))

/-- Removing one element and moving the last into its place only reorders the others. -/
lemma swapRemove_perm {v w : HVec α n} {i : Nat} {x : α} (h : v.swapRemove i = some (x, w)) :
    (x :: w.toList).Perm v.toList := by
  obtain ⟨hi, last, hlast, hw⟩ := swapRemove_eq_some h
  obtain ⟨hlt, hget⟩ := List.getElem?_eq_some_iff.mp hi
  have hset : (v.toList.set i last).getLast? = some last := by
    rw [List.getLast?_eq_getElem?, List.length_set, List.getElem?_set]
    split
    next => rfl
    next => rw [← List.getLast?_eq_getElem?, hlast]
  have hsplit : v.toList.set i last = w.toList ++ [last] := by
    obtain ⟨front, hfront⟩ := List.getLast?_eq_some_iff.mp hset
    rw [hw, hfront, List.dropLast_concat]
  have hmoved : (last :: w.toList).Perm (last :: v.toList.eraseIdx i) :=
    calc
      (last :: w.toList).Perm (w.toList ++ [last]) := (List.perm_append_singleton last _).symm
      _ = v.toList.set i last := hsplit.symm
      (v.toList.set i last).Perm (last :: v.toList.eraseIdx i) :=
        List.set_perm_cons_eraseIdx hlt last
  calc
    (x :: w.toList).Perm (x :: v.toList.eraseIdx i) := (hmoved.cons_inv).cons x
    _ = v.toList[i] :: v.toList.eraseIdx i := by rw [hget]
    (v.toList[i] :: v.toList.eraseIdx i).Perm v.toList := List.getElem_cons_eraseIdx_perm hlt

/-- The elements before the removed one stay where they are. -/
lemma take_swapRemove {v w : HVec α n} {i : Nat} {x : α} (h : v.swapRemove i = some (x, w)) :
    w.toList.take i = v.toList.take i := by
  obtain ⟨hi, last, _, hw⟩ := swapRemove_eq_some h
  have hlt := (List.getElem?_eq_some_iff.mp hi).1
  rw [hw, List.dropLast_eq_take, List.length_set, List.take_take, Nat.min_eq_left (by omega),
    List.take_set_of_le (Nat.le_refl _)]

/-- The elements behind the removed one, in some order, come after the elements before it. -/
lemma drop_swapRemove_perm {v w : HVec α n} {i : Nat} {x : α} (h : v.swapRemove i = some (x, w)) :
    (w.toList.drop i).Perm (v.toList.drop (i + 1)) := by
  have hperm := swapRemove_perm h
  have hfront := take_swapRemove h
  obtain ⟨hlt, hget⟩ := List.getElem?_eq_some_iff.mp (getElem?_of_swapRemove h)
  rw [← List.take_append_drop i w.toList, ← List.take_append_drop i v.toList, hfront,
    List.drop_eq_getElem_cons hlt, hget] at hperm
  exact ((List.perm_append_left_iff _).mp (List.perm_middle.trans hperm)).cons_inv

/-- `v[i] = x`, for an index in range. -/
def set (v : HVec α n) (i : Nat) (x : α) : HVec α n :=
  ⟨v.toList.set i x, by
    rw [List.length_set]
    exact v.length_le⟩

@[simp] lemma set_toList (v : HVec α n) (i : Nat) (x : α) :
    (v.set i x).toList = v.toList.set i x := rfl

/-- The loop that swaps out every element with the property, with the number of those. It
looks at the same index again after a removal. -/
def swapRemoveWhere (p : α → Bool) : Nat → Nat → HVec α n → Nat × HVec α n
  | 0, _, v => (0, v)
  | rounds + 1, i, v =>
    match v.toList[i]?, v.swapRemove i with
    | some x, some (_, w) =>
      if p x then
        let (count, v) := swapRemoveWhere p rounds i w
        (count + 1, v)
      else swapRemoveWhere p rounds (i + 1) v
    | _, _ => (0, v)

lemma swapRemoveWhere_perm (p : α → Bool) (rounds i : Nat) (v : HVec α n)
    (h : v.toList.length ≤ i + rounds) (hdone : ∀ x ∈ v.toList.take i, p x = false) :
    (swapRemoveWhere p rounds i v).2.toList.Perm (v.toList.filter fun x => !p x) := by
  have hpast : ∀ (i : Nat) (v : HVec α n), v.toList.length ≤ i →
      (∀ x ∈ v.toList.take i, p x = false) → v.toList.Perm (v.toList.filter fun x => !p x) := by
    intro i v hlen hdone
    rw [List.take_of_length_le hlen] at hdone
    rw [List.filter_eq_self.mpr (fun x hx => by simp [hdone x hx])]
  induction rounds generalizing i v with
  | zero => exact hpast i v (by omega) hdone
  | succ rounds ih =>
    by_cases hi : i < v.toList.length
    · obtain ⟨w, hw⟩ := swapRemove_isSome hi
      have hlen := swapRemove_length hw
      rw [swapRemoveWhere, List.getElem?_eq_getElem hi, hw]
      dsimp only
      split
      next hp =>
        have hfilter : (v.toList.filter fun x => !p x).Perm (w.toList.filter fun x => !p x) := by
          have h := ((swapRemove_perm hw).filter fun x => !p x).symm
          rwa [List.filter_cons_of_neg (by simpa using hp)] at h
        rw [← take_swapRemove hw] at hdone
        exact (ih i w (by omega) hdone).trans hfilter.symm
      next hp =>
        refine ih (i + 1) v (by omega) fun x hx => ?_
        rw [← List.take_append_getElem hi, List.mem_append, List.mem_singleton] at hx
        rcases hx with hx | rfl
        · exact hdone x hx
        · simpa using hp
    · rw [swapRemoveWhere, List.getElem?_eq_none (by omega)]
      exact hpast i v (by omega) hdone

/-- Update one element in place. -/
def modify (v : HVec α n) (i : Nat) (f : α → α) : HVec α n :=
  ⟨v.toList.modify i f, by
    rw [List.length_modify]
    exact v.length_le⟩

@[simp] lemma modify_toList (v : HVec α n) (i : Nat) (f : α → α) :
    (v.modify i f).toList = v.toList.modify i f := rfl

/-- Update every element, with its index. -/
def mapIdx (v : HVec α n) (f : Nat → α → α) : HVec α n :=
  ⟨v.toList.mapIdx f, by
    rw [List.length_mapIdx]
    exact v.length_le⟩

@[simp] lemma mapIdx_toList (v : HVec α n) (f : Nat → α → α) :
    (v.mapIdx f).toList = v.toList.mapIdx f := rfl

end HVec

namespace List

variable {α : Type} {n : Nat}

/-- `v.swap_remove(i)` of a vector without a limit. -/
def swapRemove (l : List α) (i : Nat) : Option (α × List α) :=
  match l[i]?, l.getLast? with
  | some x, some last => some (x, (l.set i last).dropLast)
  | _, _ => none

/-- `HVec.swapRemoveWhere` of a vector without a limit. -/
def swapRemoveWhere (p : α → Bool) : Nat → Nat → List α → Nat × List α
  | 0, _, l => (0, l)
  | rounds + 1, i, l =>
    match l[i]?, l.swapRemove i with
    | some x, some (_, l') =>
      if p x then
        let (count, l) := swapRemoveWhere p rounds i l'
        (count + 1, l)
      else swapRemoveWhere p rounds (i + 1) l
    | _, _ => (0, l)

lemma swapRemove_toList (v : HVec α n) (i : Nat) :
    v.toList.swapRemove i = (v.swapRemove i).map fun found => (found.1, found.2.toList) := by
  unfold swapRemove HVec.swapRemove
  split <;> rfl

lemma swapRemoveWhere_toList (p : α → Bool) (rounds i : Nat) (v : HVec α n) :
    v.toList.swapRemoveWhere p rounds i =
      ((v.swapRemoveWhere p rounds i).1, (v.swapRemoveWhere p rounds i).2.toList) := by
  induction rounds generalizing i v with
  | zero => rfl
  | succ rounds ih =>
    rw [swapRemoveWhere, HVec.swapRemoveWhere, swapRemove_toList]
    cases v.toList[i]? with
    | none => rfl
    | some x =>
      cases v.swapRemove i with
      | none => rfl
      | some found =>
        dsimp only [Option.map_some]
        split
        · rw [ih]
        · exact ih (i + 1) v

end List

/-- `u16::from_be_bytes([hi, lo])`. -/
def fromBeBytes (hi lo : UInt8) : UInt16 := UInt16.ofNat (hi.toNat * 256 + lo.toNat)

/-- `u16::from_le_bytes([lo, hi])`. -/
def fromLeBytes (lo hi : UInt8) : UInt16 := fromBeBytes hi lo

/-- `value.to_be_bytes()`. -/
def toBeBytes (value : UInt16) : List UInt8 :=
  [UInt8.ofNat (value.toNat / 256), UInt8.ofNat (value.toNat % 256)]

/-- `value.to_le_bytes()`. -/
def toLeBytes (value : UInt16) : List UInt8 :=
  [UInt8.ofNat (value.toNat % 256), UInt8.ofNat (value.toNat / 256)]

@[simp] lemma fromBeBytes_toNat (hi lo : UInt8) :
    (fromBeBytes hi lo).toNat = hi.toNat * 256 + lo.toNat := by
  have h := hi.toNat_lt
  have h' := lo.toNat_lt
  exact UInt16.toNat_ofNat_of_lt (by simp only [UInt16.size]; omega)

@[simp] lemma toBeBytes_length (value : UInt16) : (toBeBytes value).length = 2 := rfl

@[simp] lemma toLeBytes_length (value : UInt16) : (toLeBytes value).length = 2 := rfl

lemma flatMap_toBeBytes_length (values : List UInt16) :
    (values.flatMap toBeBytes).length = 2 * values.length := by
  rw [List.length_flatMap]
  simp [Nat.mul_comm]

lemma fromBeBytes_toBeBytes (value : UInt16) :
    fromBeBytes (UInt8.ofNat (value.toNat / 256)) (UInt8.ofNat (value.toNat % 256)) = value := by
  have h := value.toNat_lt
  apply UInt16.toNat_inj.mp
  rw [fromBeBytes_toNat, UInt8.toNat_ofNat_of_lt' (by simp only [UInt8.size]; omega),
    UInt8.toNat_ofNat_of_lt' (by simp only [UInt8.size]; omega)]
  omega

lemma fromBeBytes_eq_zero {hi lo : UInt8} : fromBeBytes hi lo = 0 ↔ hi = 0 ∧ lo = 0 := by
  rw [← UInt16.toNat_inj, ← UInt8.toNat_inj, ← UInt8.toNat_inj, fromBeBytes_toNat]
  simp only [UInt16.toNat_zero, UInt8.toNat_zero]
  omega

/-- `values.chunks_exact(2)` read as big-endian words. -/
def beWords : List UInt8 → List UInt16
  | hi :: lo :: rest => fromBeBytes hi lo :: beWords rest
  | _ => []

lemma beWords_length (values : List UInt8) : (beWords values).length = values.length / 2 := by
  induction values using beWords.induct with
  | case1 hi lo rest ih =>
    simp only [beWords, List.length_cons, ih]
    omega
  | case2 values h =>
    match values, h with
    | [], _ => rfl
    | [b], _ => simp [beWords]
    | hi :: lo :: rest, h => exact absurd rfl (h hi lo rest)
