import ModbusRs.Gateway.TxnMap
import ModbusRs.Library.Lists
import ModbusRs.Library.Runs
import Mathlib.Data.List.Nodup
import Mathlib.Logic.Function.Basic

/-!
# Whose request an internal id stands for

Beside a transaction map stands the book of what was allocated: the transaction and the session
that each internal id in use was given out for. The map agrees with the book as long as the counter
does not come back to an id in use, and not longer.
-/

namespace ModbusRs

/-- A call of a transaction map that changes it. -/
inductive TxnAction where
  | allocate (upstreamTxn : UInt16) (sessionId : UInt8)
  | remove (internalTxn : UInt16)
  | removeBySession (sessionId : UInt8)
  deriving DecidableEq, Repr

/-- What a call returns. -/
inductive TxnAnswer where
  | allocated (internalTxn : Option UInt16)
  | removed (entry : Option TxnEntry)
  | dropped (count : Nat)
  deriving DecidableEq, Repr

/-- The transaction and the session that an internal id was allocated for. -/
abbrev TxnBook := UInt16 → Option (UInt16 × UInt8)

/-- The book after a call. -/
def TxnBook.after (book : TxnBook) : TxnAction → TxnAnswer → TxnBook
  | .allocate upstreamTxn sessionId, .allocated (some internalTxn) =>
    Function.update book internalTxn (some (upstreamTxn, sessionId))
  | .remove internalTxn, _ => Function.update book internalTxn none
  | .removeBySession sessionId, _ => fun internalTxn =>
    (book internalTxn).filter fun owner => !(owner.2 == sessionId)
  | _, _ => book

/-- A kind of transaction maps. -/
structure TxnTable (τ : Type) where
  new : τ
  allocate : τ → UInt16 → UInt8 → Option UInt16 × τ
  lookup : τ → UInt16 → Option TxnEntry
  remove : τ → UInt16 → Option TxnEntry × τ
  removeBySession : τ → UInt8 → Nat × τ
  entries : τ → List TxnEntry
  nextInternal : τ → UInt16
  capacity : Option Nat

/-- The maps with room for `n` entries. -/
def txnTable (n : Nat) : TxnTable (TxnMap n) where
  new := .new
  allocate := TxnMap.allocate
  lookup := TxnMap.lookup
  remove := TxnMap.remove
  removeBySession := TxnMap.removeBySession
  entries m := m.entries.toList
  nextInternal m := m.nextInternal
  capacity := some n

/-- The maps without a limit. -/
def dynamicTxnTable : TxnTable DynamicTxnMap where
  new := .new
  allocate := DynamicTxnMap.allocate
  lookup := DynamicTxnMap.lookup
  remove := DynamicTxnMap.remove
  removeBySession := DynamicTxnMap.removeBySession
  entries m := m.entries
  nextInternal m := m.nextInternal
  capacity := none

namespace TxnTable

variable {τ τ' : Type}

/-- The map is full. -/
def Full (T : TxnTable τ) (m : τ) : Prop := T.capacity = some (T.entries m).length

/-- The internal ids in use. -/
def ids (T : TxnTable τ) (m : τ) : List UInt16 := (T.entries m).map (·.internalTxn)

/-- One call. -/
def call (T : TxnTable τ) (m : τ) : TxnAction → TxnAnswer × τ
  | .allocate upstreamTxn sessionId =>
    Prod.map .allocated id (T.allocate m upstreamTxn sessionId)
  | .remove internalTxn => Prod.map .removed id (T.remove m internalTxn)
  | .removeBySession sessionId => Prod.map .dropped id (T.removeBySession m sessionId)

/-- One call, with its entry in the book. -/
def perform (T : TxnTable τ) (action : TxnAction) (s : τ × TxnBook) : τ × TxnBook :=
  ((T.call s.1 action).2, s.2.after action (T.call s.1 action).1)

/-- What a sequence of calls returns. -/
def answers (T : TxnTable τ) (m : τ) : List TxnAction → List TxnAnswer
  | [] => []
  | action :: actions => (T.call m action).1 :: T.answers (T.call m action).2 actions

/-- The ids in use are distinct, and `lookup` and `remove` of an id return what the book says. -/
structure Faithful (T : TxnTable τ) (s : τ × TxnBook) : Prop where
  distinct : (T.ids s.1).Nodup
  looksUp : ∀ internalTxn, T.lookup s.1 internalTxn =
    (s.2 internalTxn).map fun owner => ⟨internalTxn, owner.1, owner.2⟩
  removes : ∀ internalTxn, (T.remove s.1 internalTxn).1 =
    (s.2 internalTxn).map fun owner => ⟨internalTxn, owner.1, owner.2⟩

/-- What the map allocates is the counter's value: it is not in use, or there is no room. -/
def CountsFresh (T : TxnTable τ) (action : TxnAction) (s : τ × TxnBook) : Prop :=
  match action with
  | .allocate _ _ => T.Full s.1 ∨ T.nextInternal s.1 ∉ T.ids s.1
  | _ => True

/-- What both kinds of maps have in common. -/
structure Lawful (T : TxnTable τ) : Prop where
  entries_new : T.entries T.new = []
  allocate_of_full : ∀ m upstreamTxn sessionId, T.Full m →
    T.allocate m upstreamTxn sessionId = (none, m)
  allocate_of_room : ∀ m upstreamTxn sessionId, ¬T.Full m →
    ∃ m', T.allocate m upstreamTxn sessionId = (some (T.nextInternal m), m') ∧
      T.entries m' = T.entries m ++ [⟨T.nextInternal m, upstreamTxn, sessionId⟩]
  lookup_eq : ∀ m internalTxn, T.lookup m internalTxn =
    (T.entries m).find? (·.internalTxn == internalTxn)
  remove_eq : ∀ m internalTxn, (T.remove m internalTxn).1 = T.lookup m internalTxn
  entries_remove : ∀ m internalTxn,
    ((T.lookup m internalTxn).toList ++ T.entries (T.remove m internalTxn).2).Perm (T.entries m)
  entries_removeBySession : ∀ m sessionId,
    (T.entries (T.removeBySession m sessionId).2).Perm
      ((T.entries m).filter fun entry => !(entry.sessionId == sessionId))

/-- The entries of the map are those of the book. -/
structure Agrees (T : TxnTable τ) (s : τ × TxnBook) : Prop where
  distinct : (T.ids s.1).Nodup
  mem_iff : ∀ entry, entry ∈ T.entries s.1 ↔
    s.2 entry.internalTxn = some (entry.upstreamTxn, entry.sessionId)

namespace Lawful

variable {T : TxnTable τ} {s : τ × TxnBook}

lemma lookup_eq_some (h : T.Lawful) {m : τ} {entry : TxnEntry} {internalTxn : UInt16}
    (hm : (T.ids m).Nodup) :
    T.lookup m internalTxn = some entry ↔
      entry ∈ T.entries m ∧ entry.internalTxn = internalTxn := by
  have hexclusive : List.Exclusive (fun (id : UInt16) (entry : TxnEntry) =>
      entry.internalTxn == id) (T.entries m) := by
    refine (List.pairwise_map.mp hm).imp fun hne id hid => ?_
    exact hne ((eq_of_beq hid.1).trans (eq_of_beq hid.2).symm)
  rw [h.lookup_eq]
  exact (hexclusive.find?_eq_some_iff (k := internalTxn)).trans (and_congr_right fun _ => beq_iff_eq)

theorem faithful_iff (h : T.Lawful) : T.Faithful s ↔ T.Agrees s := by
  constructor
  · rintro ⟨hdistinct, hlooksUp, _⟩
    refine ⟨hdistinct, fun entry => ?_⟩
    have hfound : T.lookup s.1 entry.internalTxn = some entry ↔
        entry ∈ T.entries s.1 ∧ entry.internalTxn = entry.internalTxn := h.lookup_eq_some hdistinct
    rw [hlooksUp, Option.map_eq_some_iff] at hfound
    refine (and_iff_left rfl).symm.trans (hfound.symm.trans ⟨?_, fun hbook => ⟨_, hbook, rfl⟩⟩)
    rintro ⟨owner, howner, hentry⟩
    rw [howner, ← hentry]
  · rintro ⟨hdistinct, hmem⟩
    have hlooksUp (internalTxn : UInt16) : T.lookup s.1 internalTxn =
        (s.2 internalTxn).map fun owner => ⟨internalTxn, owner.1, owner.2⟩ := by
      refine Option.ext fun entry => ?_
      rw [h.lookup_eq_some hdistinct, hmem, Option.map_eq_some_iff]
      constructor
      · rintro ⟨hbook, rfl⟩
        exact ⟨_, hbook, rfl⟩
      · rintro ⟨owner, howner, rfl⟩
        exact ⟨howner, rfl⟩
    exact ⟨hdistinct, hlooksUp, fun internalTxn => (h.remove_eq _ _).trans (hlooksUp _)⟩

/-- An allocation keeps map and book together exactly when the counter is not at an id in use. -/
lemma agrees_allocate (h : T.Lawful) (hs : T.Agrees s) (upstreamTxn : UInt16)
    (sessionId : UInt8) :
    T.Agrees (T.perform (.allocate upstreamTxn sessionId) s) ↔
      T.Full s.1 ∨ T.nextInternal s.1 ∉ T.ids s.1 := by
  by_cases hfull : T.Full s.1
  · rw [perform, call, h.allocate_of_full _ _ _ hfull]
    exact iff_of_true hs (.inl hfull)
  obtain ⟨m', halloc, hentries⟩ := h.allocate_of_room s.1 upstreamTxn sessionId hfull
  rw [perform, call, halloc, or_iff_right hfull]
  dsimp only [Prod.map, id]
  have hids : T.ids m' = T.ids s.1 ++ [T.nextInternal s.1] := by
    rw [ids, hentries, List.map_append]
    rfl
  constructor
  · rintro ⟨hdistinct, _⟩ hused
    rw [hids, List.nodup_append] at hdistinct
    exact hdistinct.2.2 _ hused _ List.mem_cons_self rfl
  · intro hfresh
    refine ⟨?_, fun entry => ?_⟩
    · rw [hids]
      exact List.nodup_append.mpr ⟨hs.distinct, List.nodup_singleton _, fun id hid id' hid' => by
        rw [List.mem_singleton.mp hid']
        exact fun heq => hfresh (heq ▸ hid)⟩
    · rw [hentries, List.mem_append, List.mem_singleton]
      dsimp only [TxnBook.after]
      by_cases heq : entry.internalTxn = T.nextInternal s.1
      · have hold : entry ∉ T.entries s.1 := fun hmem =>
          hfresh (heq ▸ List.mem_map_of_mem hmem)
        rw [or_iff_right hold, heq, Function.update_self, Option.some_inj]
        obtain ⟨id, txn, sid⟩ := entry
        obtain rfl : id = T.nextInternal s.1 := heq
        simp [eq_comm]
      · have hnew : entry ≠ ⟨T.nextInternal s.1, upstreamTxn, sessionId⟩ := fun h =>
          heq (h ▸ rfl)
        rw [or_iff_left hnew, Function.update_of_ne heq, hs.mem_iff]

lemma agrees_remove (h : T.Lawful) (hs : T.Agrees s) (internalTxn : UInt16) :
    T.Agrees (T.perform (.remove internalTxn) s) := by
  have hperm := h.entries_remove s.1 internalTxn
  have hdistinct := ((hperm.map TxnEntry.internalTxn).nodup_iff).mpr hs.distinct
  rw [List.map_append, List.nodup_append] at hdistinct
  refine ⟨hdistinct.2.1, fun entry => ?_⟩
  have hmem := hperm.mem_iff (a := entry)
  rw [List.mem_append, Option.mem_toList, h.lookup_eq_some hs.distinct] at hmem
  dsimp only [perform, call, TxnBook.after]
  by_cases heq : entry.internalTxn = internalTxn
  · rw [heq, Function.update_self]
    refine iff_of_false (fun hleft => ?_) nofun
    have hfound := (h.lookup_eq_some hs.distinct).mpr ⟨hmem.mp (.inr hleft), heq⟩
    exact hdistinct.2.2 internalTxn (by rw [hfound]; exact List.mem_singleton.mpr heq.symm)
      entry.internalTxn (List.mem_map_of_mem hleft) heq.symm
  · rw [Function.update_of_ne heq, ← hs.mem_iff, ← hmem, or_iff_right fun hfound => heq hfound.2]
    exact Iff.rfl

lemma agrees_removeBySession (h : T.Lawful) (hs : T.Agrees s) (sessionId : UInt8) :
    T.Agrees (T.perform (.removeBySession sessionId) s) := by
  have hperm := h.entries_removeBySession s.1 sessionId
  refine ⟨?_, fun entry => ?_⟩
  · refine ((hperm.map TxnEntry.internalTxn).nodup_iff).mpr ?_
    exact hs.distinct.sublist (List.filter_sublist.map _)
  · refine hperm.mem_iff.trans ?_
    rw [List.mem_filter, hs.mem_iff]
    dsimp only [perform, call, TxnBook.after]
    rw [Option.filter_eq_some_iff]

/-- One call keeps map and book together exactly when it counts fresh. -/
lemma faithful_perform_iff (h : T.Lawful) (action : TxnAction) (s : τ × TxnBook)
    (hs : T.Faithful s) : T.Faithful (T.perform action s) ↔ T.CountsFresh action s := by
  have hagrees := h.faithful_iff.mp hs
  rw [h.faithful_iff]
  cases action with
  | allocate upstreamTxn sessionId => exact h.agrees_allocate hagrees upstreamTxn sessionId
  | remove internalTxn => exact iff_of_true (h.agrees_remove hagrees internalTxn) trivial
  | removeBySession sessionId =>
    exact iff_of_true (h.agrees_removeBySession hagrees sessionId) trivial

lemma faithful_new (h : T.Lawful) : T.Faithful (T.new, fun _ => none) := by
  refine h.faithful_iff.mpr ⟨?_, fun entry => ?_⟩
  · rw [ids, h.entries_new]
    exact List.nodup_nil
  · rw [h.entries_new]
    exact iff_of_false List.not_mem_nil nofun

end Lawful

end TxnTable

lemma lawful_txnTable (n : Nat) : (txnTable n).Lawful where
  entries_new := rfl
  allocate_of_full m upstreamTxn sessionId hfull := if_pos (Option.some_inj.mp hfull).symm
  allocate_of_room m upstreamTxn sessionId hroom := by
    have hne : m.entries.toList.length ≠ n := fun heq => hroom (congrArg some heq.symm)
    obtain ⟨entries, halloc, hentries⟩ := TxnMap.allocate_of_room hne upstreamTxn sessionId
    exact ⟨_, halloc, hentries⟩
  lookup_eq _ _ := rfl
  remove_eq m internalTxn := m.remove_eq_lookup internalTxn
  entries_remove m internalTxn := by
    change ((m.lookup internalTxn).toList ++ (m.remove internalTxn).2.entries.toList).Perm _
    rw [← TxnMap.remove_eq_lookup]
    rcases hremove : m.remove internalTxn with ⟨_ | entry, m'⟩
    · rw [(TxnMap.remove_eq_none hremove).2]
      exact .refl _
    · exact (TxnMap.remove_eq_some hremove).2
  entries_removeBySession m sessionId := m.removeBySession_perm sessionId

namespace TxnMap

variable {n : Nat}

/-- The same map without the limit. -/
def unbounded (m : TxnMap n) : DynamicTxnMap := ⟨m.entries.toList, m.nextInternal⟩

lemma remove_unbounded (m : TxnMap n) (internalTxn : UInt16) :
    m.unbounded.remove internalTxn =
      ((m.remove internalTxn).1, (m.remove internalTxn).2.unbounded) := by
  unfold DynamicTxnMap.remove remove unbounded
  dsimp only
  cases m.entries.toList.findIdx? (·.internalTxn == internalTxn) with
  | none => rfl
  | some pos =>
    dsimp only
    rw [List.swapRemove_toList]
    cases m.entries.swapRemove pos <;> rfl

lemma removeBySession_unbounded (m : TxnMap n) (sessionId : UInt8) :
    m.unbounded.removeBySession sessionId =
      ((m.removeBySession sessionId).1, (m.removeBySession sessionId).2.unbounded) := by
  unfold DynamicTxnMap.removeBySession removeBySession unbounded
  dsimp only
  rw [List.swapRemoveWhere_toList]
  rfl

lemma allocate_unbounded {m : TxnMap n} (h : m.entries.toList.length ≠ n) (upstreamTxn : UInt16)
    (sessionId : UInt8) :
    m.unbounded.allocate upstreamTxn sessionId =
      ((m.allocate upstreamTxn sessionId).1, (m.allocate upstreamTxn sessionId).2.unbounded) := by
  obtain ⟨entries, halloc, hentries⟩ := m.allocate_of_room h upstreamTxn sessionId
  rw [halloc, unbounded, unbounded, hentries]
  rfl

/-- As long as the map without a limit holds no more than `n` entries, both return the same. -/
lemma call_unbounded (m : TxnMap n) (action : TxnAction)
    (hroom : (dynamicTxnTable.call m.unbounded action).2.entries.length ≤ n) :
    dynamicTxnTable.call m.unbounded action =
      (((txnTable n).call m action).1, ((txnTable n).call m action).2.unbounded) := by
  cases action with
  | allocate upstreamTxn sessionId =>
    have hle : (m.entries.toList ++ [(⟨m.nextInternal, upstreamTxn, sessionId⟩ : TxnEntry)]).length
        ≤ n := hroom
    rw [List.length_append, List.length_singleton] at hle
    have hne : m.entries.toList.length ≠ n := by omega
    exact congrArg (Prod.map TxnAnswer.allocated id) (allocate_unbounded hne upstreamTxn sessionId)
  | remove internalTxn =>
    exact congrArg (Prod.map TxnAnswer.removed id) (m.remove_unbounded internalTxn)
  | removeBySession sessionId =>
    exact congrArg (Prod.map TxnAnswer.dropped id) (m.removeBySession_unbounded sessionId)

end TxnMap

/-- A map with a limit that holds the same entries. -/
def DynamicTxnMap.bounded (m : DynamicTxnMap) : TxnMap m.entries.length :=
  ⟨⟨m.entries, Nat.le_refl _⟩, m.nextInternal⟩

lemma lawful_dynamicTxnTable : dynamicTxnTable.Lawful where
  entries_new := rfl
  allocate_of_full _ _ _ hfull := nomatch hfull
  allocate_of_room _ _ _ _ := ⟨_, rfl, rfl⟩
  lookup_eq _ _ := rfl
  remove_eq m internalTxn := by
    change (m.bounded.unbounded.remove internalTxn).1 = _
    rw [TxnMap.remove_unbounded]
    exact m.bounded.remove_eq_lookup internalTxn
  entries_remove m internalTxn := by
    change (_ ++ (m.bounded.unbounded.remove internalTxn).2.entries).Perm _
    rw [TxnMap.remove_unbounded]
    exact (lawful_txnTable _).entries_remove m.bounded internalTxn
  entries_removeBySession m sessionId := by
    change (m.bounded.unbounded.removeBySession sessionId).2.entries.Perm _
    rw [TxnMap.removeBySession_unbounded]
    exact m.bounded.removeBySession_perm sessionId

namespace TxnMap

/-- The map without a limit never holds more than `n` entries. -/
def Within (n : Nat) : List TxnAction → DynamicTxnMap → Prop :=
  Runs.Meets (fun action m => (dynamicTxnTable.call m action).2.entries.length ≤ n)
    fun action m => (dynamicTxnTable.call m action).2

lemma answers_unbounded {n : Nat} {actions : List TxnAction} {m : TxnMap n}
    (h : Within n actions m.unbounded) :
    (txnTable n).answers m actions = dynamicTxnTable.answers m.unbounded actions := by
  induction actions generalizing m with
  | nil => rfl
  | cons action actions ih =>
    obtain ⟨hroom, hrest⟩ := h
    have hcall := m.call_unbounded action hroom
    rw [TxnTable.answers, TxnTable.answers, hcall]
    refine congrArg₂ List.cons rfl (ih ?_)
    have hnext := congrArg Prod.snd hcall
    dsimp only at hnext
    rwa [← hnext]

end TxnMap

/-- A map is faithful throughout a run exactly when the counter is at an id in use in none of its
allocations; and the two kinds of maps answer the same up to the capacity. -/
theorem txnTables_faithful_iff (n : Nat) (actions : List TxnAction) :
    (Runs.Meets (fun action s => (txnTable n).Faithful ((txnTable n).perform action s))
        (txnTable n).perform actions (.new, fun _ => none) ↔
      Runs.Meets (txnTable n).CountsFresh (txnTable n).perform actions (.new, fun _ => none)) ∧
    (Runs.Meets (fun action s => dynamicTxnTable.Faithful (dynamicTxnTable.perform action s))
        dynamicTxnTable.perform actions (.new, fun _ => none) ↔
      Runs.Meets dynamicTxnTable.CountsFresh dynamicTxnTable.perform actions
        (.new, fun _ => none)) ∧
    (TxnMap.Within n actions .new →
      (txnTable n).answers .new actions = dynamicTxnTable.answers .new actions) := by
  have hlimited := lawful_txnTable n
  have hunlimited := lawful_dynamicTxnTable
  refine ⟨?_, ?_, fun hwithin => TxnMap.answers_unbounded (m := .new) hwithin⟩
  · exact Runs.meets_iff_of_invariant hlimited.faithful_perform_iff hlimited.faithful_new
  · exact Runs.meets_iff_of_invariant hunlimited.faithful_perform_iff hunlimited.faithful_new

/-- Requests that are answered one after the other, with the ids from `first` on. -/
def TxnAction.answeredInTurn (first : UInt16) : Nat → List TxnAction
  | 0 => []
  | count + 1 => .allocate 0 1 :: .remove first :: answeredInTurn (first + 1) count

/-- They leave a map as it was that held one other request, and the counter moves on. -/
lemma DynamicTxnMap.answeredInTurn_run {entry : TxnEntry} {first : UInt16} {count : Nat}
    (hother : ∀ k < count, first + UInt16.ofNat k ≠ entry.internalTxn) (book : TxnBook) :
    ∃ book', (TxnAction.answeredInTurn first count).foldl
      (fun s action => dynamicTxnTable.perform action s) (⟨[entry], first⟩, book) =
        (⟨[entry], first + UInt16.ofNat count⟩, book') := by
  induction count generalizing first book with
  | zero => exact ⟨book, by simp [TxnAction.answeredInTurn]⟩
  | succ count ih =>
    have hne : (entry.internalTxn == first) = false := by
      have hfirst := hother 0 (Nat.succ_pos count)
      rw [beq_eq_false_iff_ne]
      exact fun heq => hfirst (by simp [heq])
    have hremove : (⟨[entry, ⟨first, 0, 1⟩], first + 1⟩ : DynamicTxnMap).remove first =
        (some ⟨first, 0, 1⟩, ⟨[entry], first + 1⟩) := by
      simp [DynamicTxnMap.remove, List.findIdx?_cons, hne, List.swapRemove]
    have hstep (k : Nat) : first + 1 + UInt16.ofNat k = first + UInt16.ofNat (k + 1) := by
      rw [UInt16.ofNat_add, UInt16.add_assoc, UInt16.add_comm 1]
      rfl
    obtain ⟨taken, htaken⟩ : ∃ taken, dynamicTxnTable.perform (.remove first)
        (dynamicTxnTable.perform (.allocate 0 1) (⟨[entry], first⟩, book)) =
          (⟨[entry], first + 1⟩, taken) :=
      ⟨_, Prod.ext (congrArg Prod.snd hremove) rfl⟩
    have hlater : ∀ k < count, first + 1 + UInt16.ofNat k ≠ entry.internalTxn := by
      intro k hk
      rw [hstep]
      exact hother (k + 1) (Nat.succ_lt_succ hk)
    obtain ⟨book', hrun⟩ := ih hlater taken
    refine ⟨book', ?_⟩
    rw [TxnAction.answeredInTurn, List.foldl_cons, List.foldl_cons, htaken, hrun, hstep]

/-- The id 0 stays in use while 65535 requests are answered; the next one gets it, too. -/
theorem txnTables_wrapped : ¬∀ (n : Nat) (actions : List TxnAction),
    Runs.Meets (fun action s => (txnTable n).Faithful ((txnTable n).perform action s))
      (txnTable n).perform actions (.new, fun _ => none) ∧
    Runs.Meets (fun action s => dynamicTxnTable.Faithful (dynamicTxnTable.perform action s))
      dynamicTxnTable.perform actions (.new, fun _ => none) ∧
    (TxnMap.Within n actions .new →
      (txnTable n).answers .new actions = dynamicTxnTable.answers .new actions) := by
  intro h
  obtain ⟨_, hdynamic, _⟩ := h 2
    (.allocate 0 0 :: (TxnAction.answeredInTurn 1 65535 ++ [.allocate 1 1]))
  have hfresh := (Runs.meets_iff_of_invariant lawful_dynamicTxnTable.faithful_perform_iff
    lawful_dynamicTxnTable.faithful_new).mp hdynamic
  have hlast := hfresh.2.of_append
  have hother (k : Nat) (hk : k < 65535) : 1 + UInt16.ofNat k ≠ (0 : UInt16) := by
    intro heq
    have hnat := congrArg UInt16.toNat heq
    rw [UInt16.toNat_add, UInt16.toNat_ofNat_of_lt' (by simp only [UInt16.size]; omega)] at hnat
    simp at hnat
    omega
  set start : TxnBook := Function.update (fun _ => none) 0 (some (0, 0)) with hstart
  have hheld : dynamicTxnTable.perform (.allocate 0 0) (dynamicTxnTable.new, fun _ => none) =
      ((⟨[⟨0, 0, 0⟩], 1⟩ : DynamicTxnMap), start) := rfl
  obtain ⟨book, hrun⟩ : ∃ book, (TxnAction.answeredInTurn 1 65535).foldl
      (fun s action => dynamicTxnTable.perform action s) (⟨[⟨0, 0, 0⟩], 1⟩, start) =
        (⟨[⟨0, 0, 0⟩], 1 + UInt16.ofNat 65535⟩, book) :=
    DynamicTxnMap.answeredInTurn_run hother start
  rw [hheld, hrun] at hlast
  rcases hlast.1 with hfull | hunused
  · exact nomatch hfull
  · exact hunused List.mem_cons_self

end ModbusRs
