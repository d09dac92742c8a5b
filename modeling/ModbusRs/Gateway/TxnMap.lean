import ModbusRs.Library.Bytes

/-!
# The gateway's transaction map

The gateway numbers the requests it forwards with a counter of its own, and keeps for each
request in flight the transaction id under which the client knows it. The counter wraps, and
`allocate` does not look whether the next number is still in use. `DynamicTxnMap` is the same map
without a limit.
-/

namespace ModbusRs

/-- `TxnEntry`. -/
structure TxnEntry where
  internalTxn : UInt16
  upstreamTxn : UInt16
  sessionId : UInt8
  deriving DecidableEq, Repr

/-- `TxnMap<N>`. -/
structure TxnMap (n : Nat) where
  entries : HVec TxnEntry n
  nextInternal : UInt16
  deriving DecidableEq, Repr

namespace TxnMap

variable {n : Nat}

/-- `TxnMap::new`. -/
def new : TxnMap n := ⟨.empty, 0⟩

/-- `allocate`. -/
def allocate (m : TxnMap n) (upstreamTxn : UInt16) (sessionId : UInt8) : Option UInt16 × TxnMap n :=
  if m.entries.length = n then (none, m)
  else
    match m.entries.push ⟨m.nextInternal, upstreamTxn, sessionId⟩ with
    | some entries => (some m.nextInternal, ⟨entries, m.nextInternal + 1⟩)
    | none => (none, { m with nextInternal := m.nextInternal + 1 })

/-- `lookup`. -/
def lookup (m : TxnMap n) (internalTxn : UInt16) : Option TxnEntry :=
  m.entries.toList.find? (·.internalTxn == internalTxn)

/-- `remove`. -/
def remove (m : TxnMap n) (internalTxn : UInt16) : Option TxnEntry × TxnMap n :=
  match m.entries.toList.findIdx? (·.internalTxn == internalTxn) with
  | none => (none, m)
  | some pos =>
    match m.entries.swapRemove pos with
    | some (entry, entries) => (some entry, { m with entries })
    | none => (none, m)

/-- `remove_by_session`, with the number of entries it dropped. -/
def removeBySession (m : TxnMap n) (sessionId : UInt8) : Nat × TxnMap n :=
  let (count, entries) :=
    HVec.swapRemoveWhere (·.sessionId == sessionId) m.entries.length 0 m.entries
  (count, { m with entries })

end TxnMap

/-- `DynamicTxnMap`. -/
structure DynamicTxnMap where
  entries : List TxnEntry
  nextInternal : UInt16
  deriving DecidableEq, Repr

namespace DynamicTxnMap

/-- `DynamicTxnMap::new`. -/
def new : DynamicTxnMap := ⟨[], 0⟩

/-- `DynamicTxnMap::allocate`. -/
def allocate (m : DynamicTxnMap) (upstreamTxn : UInt16) (sessionId : UInt8) :
    Option UInt16 × DynamicTxnMap :=
  (some m.nextInternal,
    ⟨m.entries ++ [⟨m.nextInternal, upstreamTxn, sessionId⟩], m.nextInternal + 1⟩)

/-- `DynamicTxnMap::lookup`. -/
def lookup (m : DynamicTxnMap) (internalTxn : UInt16) : Option TxnEntry :=
  m.entries.find? (·.internalTxn == internalTxn)

/-- `DynamicTxnMap::remove`. -/
def remove (m : DynamicTxnMap) (internalTxn : UInt16) : Option TxnEntry × DynamicTxnMap :=
  match m.entries.findIdx? (·.internalTxn == internalTxn) with
  | none => (none, m)
  | some pos =>
    match m.entries.swapRemove pos with
    | some (entry, entries) => (some entry, { m with entries })
    | none => (none, m)

/-- `DynamicTxnMap::remove_by_session`, with the number of entries it dropped. -/
def removeBySession (m : DynamicTxnMap) (sessionId : UInt8) : Nat × DynamicTxnMap :=
  let (count, entries) := m.entries.swapRemoveWhere (·.sessionId == sessionId) m.entries.length 0
  (count, { m with entries })

end DynamicTxnMap

namespace TxnMap

variable {n : Nat}

/-- The internal ids that are taken. -/
def ids (m : TxnMap n) : List UInt16 := m.entries.toList.map (·.internalTxn)

lemma allocate_eq_some {m m' : TxnMap n} {upstreamTxn internalTxn : UInt16} {sessionId : UInt8}
    (h : m.allocate upstreamTxn sessionId = (some internalTxn, m')) :
    internalTxn = m.nextInternal ∧
      m'.entries.toList = m.entries.toList ++ [⟨internalTxn, upstreamTxn, sessionId⟩] := by
  unfold allocate at h
  split at h
  · cases h
  · split at h
    next entries hpush =>
      cases h
      exact ⟨rfl, HVec.extendFromSlice_eq_some.mp hpush⟩
    next => cases h

/-- With room the counter's value is allocated, whether it is in use or not. -/
lemma allocate_of_room {m : TxnMap n} (h : m.entries.toList.length ≠ n) (upstreamTxn : UInt16)
    (sessionId : UInt8) :
    ∃ entries, m.allocate upstreamTxn sessionId =
        (some m.nextInternal, ⟨entries, m.nextInternal + 1⟩) ∧
      entries.toList = m.entries.toList ++ [⟨m.nextInternal, upstreamTxn, sessionId⟩] := by
  obtain ⟨entries, hpush, hentries⟩ :=
    HVec.push_of_ne m.entries ⟨m.nextInternal, upstreamTxn, sessionId⟩ h
  refine ⟨entries, ?_, hentries⟩
  have hroom : ¬m.entries.length = n := h
  rw [allocate, if_neg hroom, hpush]

lemma length_lt_of_allocate {m m' : TxnMap n} {upstreamTxn internalTxn : UInt16}
    {sessionId : UInt8} (h : m.allocate upstreamTxn sessionId = (some internalTxn, m')) :
    m.entries.length < n := by
  obtain ⟨_, hentries⟩ := allocate_eq_some h
  have hle := m'.entries.length_le
  rw [hentries, List.length_append, List.length_singleton] at hle
  exact hle

/-- The map refuses exactly when it is full, and stays as it is. -/
lemma allocate_eq_none {m m' : TxnMap n} {upstreamTxn : UInt16} {sessionId : UInt8}
    (h : m.allocate upstreamTxn sessionId = (none, m')) : m.entries.length = n ∧ m' = m := by
  unfold allocate at h
  split at h
  next hfull =>
    cases h
    exact ⟨hfull, rfl⟩
  next hfull =>
    split at h
    next => cases h
    next hpush =>
      have hlong := HVec.extendFromSlice_eq_none.mp hpush
      have hle : m.entries.toList.length ≤ n := m.entries.length_le
      rw [List.length_singleton] at hlong
      exact absurd (show m.entries.toList.length = n by omega) hfull

/-- What `remove` gives is the first entry under the id, and it takes only that one out. -/
lemma remove_eq_some {m m' : TxnMap n} {internalTxn : UInt16} {entry : TxnEntry}
    (h : m.remove internalTxn = (some entry, m')) :
    entry.internalTxn = internalTxn ∧ (entry :: m'.entries.toList).Perm m.entries.toList := by
  unfold remove at h
  split at h
  · cases h
  next pos hpos =>
    split at h
    next entry' entries hswap =>
      cases h
      obtain ⟨hlt, hid, _⟩ := List.findIdx?_eq_some_iff_getElem.mp hpos
      obtain ⟨_, hget⟩ := List.getElem?_eq_some_iff.mp (HVec.getElem?_of_swapRemove hswap)
      rw [hget] at hid
      exact ⟨eq_of_beq hid, HVec.swapRemove_perm hswap⟩
    next => cases h

lemma remove_eq_none {m m' : TxnMap n} {internalTxn : UInt16}
    (h : m.remove internalTxn = (none, m')) : internalTxn ∉ m.ids ∧ m' = m := by
  unfold remove at h
  split at h
  next hnone =>
    cases h
    refine ⟨?_, rfl⟩
    rw [ids, List.mem_map]
    rintro ⟨entry, hmem, rfl⟩
    have hno := List.findIdx?_eq_none_iff.mp hnone entry hmem
    rw [beq_self_eq_true] at hno
    cases hno
  next pos hpos =>
    split at h
    next => cases h
    next hswap =>
      obtain ⟨hlt, _⟩ := List.findIdx?_eq_some_iff_getElem.mp hpos
      obtain ⟨w, hw⟩ := HVec.swapRemove_isSome hlt
      rw [hw] at hswap
      cases hswap

/-- `remove` finds what `lookup` finds. -/
lemma remove_eq_lookup (m : TxnMap n) (internalTxn : UInt16) :
    (m.remove internalTxn).1 = m.lookup internalTxn := by
  unfold remove lookup
  rw [List.find?_eq_bind_findIdx?_getElem?]
  cases hpos : m.entries.toList.findIdx? (·.internalTxn == internalTxn) with
  | none => rfl
  | some pos =>
    obtain ⟨hlt, _⟩ := List.findIdx?_eq_some_iff_getElem.mp hpos
    obtain ⟨entries, hswap⟩ := HVec.swapRemove_isSome hlt
    dsimp only [Option.bind_some]
    rw [hswap, List.getElem?_eq_getElem hlt]

lemma removeBySession_perm (m : TxnMap n) (sessionId : UInt8) :
    (m.removeBySession sessionId).2.entries.toList.Perm
      (m.entries.toList.filter fun entry => !(entry.sessionId == sessionId)) :=
  HVec.swapRemoveWhere_perm _ _ 0 m.entries (by simp [HVec.length]) (by simp)

end TxnMap

end ModbusRs
