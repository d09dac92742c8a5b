import ModbusRs.Core.Types
import ModbusRs.Library.Bytes
import ModbusRs.Library.Lists

/-!
# The route tables of the gateway

`UnitRouteTable` and `RangeRouteTable` send units to channels, with room for so many entries; the
dynamic tables are the same without the limit. `add` refuses what would make the route of a unit
ambiguous. A unit of a unit table is a range with one element, so all four are tables of ranges.
-/

namespace ModbusRs.Gateway

/-- `UnitRouteEntry`. -/
structure UnitRouteEntry where
  unit : UInt8
  channel : Nat
  deriving DecidableEq, Repr

/-- `UnitRangeRoute`. -/
structure UnitRangeRoute where
  min : UInt8
  max : UInt8
  channel : Nat
  deriving DecidableEq, Repr

/-- `UnitRouteTable<N>`. -/
structure UnitRouteTable (n : Nat) where
  entries : HVec UnitRouteEntry n

/-- `RangeRouteTable<N>`. -/
structure RangeRouteTable (n : Nat) where
  ranges : HVec UnitRangeRoute n

/-- `DynamicUnitRouteTable`. -/
structure DynamicUnitRouteTable where
  entries : List UnitRouteEntry

/-- `DynamicRangeRouteTable`. -/
structure DynamicRangeRouteTable where
  ranges : List UnitRangeRoute

namespace UnitRouteTable

variable {n : Nat}

/-- `UnitRouteTable::new`. -/
def new : UnitRouteTable n := ⟨.empty⟩

/-- `UnitRouteTable::add`. -/
def add (t : UnitRouteTable n) (unit : UnitIdOrSlaveAddr) (channel : Nat) :
    Except MbusError Unit × UnitRouteTable n :=
  if t.entries.toList.any (·.unit == unit.get) then (.error .invalidAddress, t)
  else
    match t.entries.push ⟨unit.get, channel⟩ with
    | some entries => (.ok (), ⟨entries⟩)
    | none => (.error .tooManyRequests, t)

/-- `UnitRouteTable::route`. -/
def route (t : UnitRouteTable n) (unit : UnitIdOrSlaveAddr) : Option Nat :=
  (t.entries.toList.find? (·.unit == unit.get)).map (·.channel)

end UnitRouteTable

namespace DynamicUnitRouteTable

/-- `DynamicUnitRouteTable::new`. -/
def new : DynamicUnitRouteTable := ⟨[]⟩

/-- `DynamicUnitRouteTable::add`. -/
def add (t : DynamicUnitRouteTable) (unit : UnitIdOrSlaveAddr) (channel : Nat) :
    Except MbusError Unit × DynamicUnitRouteTable :=
  if t.entries.any (·.unit == unit.get) then (.error .invalidAddress, t)
  else (.ok (), ⟨t.entries ++ [⟨unit.get, channel⟩]⟩)

/-- `DynamicUnitRouteTable::route`. -/
def route (t : DynamicUnitRouteTable) (unit : UnitIdOrSlaveAddr) : Option Nat :=
  (t.entries.find? (·.unit == unit.get)).map (·.channel)

end DynamicUnitRouteTable

namespace RangeRouteTable

variable {n : Nat}

/-- `RangeRouteTable::new`. -/
def new : RangeRouteTable n := ⟨.empty⟩

/-- `RangeRouteTable::add`. -/
def add (t : RangeRouteTable n) (min max : UInt8) (channel : Nat) :
    Except MbusError Unit × RangeRouteTable n :=
  if min > max then (.error .invalidAddress, t)
  else if t.ranges.toList.any fun r => !(decide (r.max < min) || decide (r.min > max)) then
    (.error .invalidAddress, t)
  else
    match t.ranges.push ⟨min, max, channel⟩ with
    | some ranges => (.ok (), ⟨ranges⟩)
    | none => (.error .tooManyRequests, t)

/-- `RangeRouteTable::route`. -/
def route (t : RangeRouteTable n) (unit : UnitIdOrSlaveAddr) : Option Nat :=
  (t.ranges.toList.find? fun r => decide (r.min ≤ unit.get) && decide (unit.get ≤ r.max)).map
    (·.channel)

end RangeRouteTable

namespace DynamicRangeRouteTable

/-- `DynamicRangeRouteTable::new`. -/
def new : DynamicRangeRouteTable := ⟨[]⟩

/-- `DynamicRangeRouteTable::add`. -/
def add (t : DynamicRangeRouteTable) (min max : UInt8) (channel : Nat) :
    Except MbusError Unit × DynamicRangeRouteTable :=
  if min > max then (.error .invalidAddress, t)
  else if t.ranges.any fun r => !(decide (r.max < min) || decide (r.min > max)) then
    (.error .invalidAddress, t)
  else (.ok (), ⟨t.ranges ++ [⟨min, max, channel⟩]⟩)

/-- `DynamicRangeRouteTable::route`. -/
def route (t : DynamicRangeRouteTable) (unit : UnitIdOrSlaveAddr) : Option Nat :=
  (t.ranges.find? fun r => decide (r.min ≤ unit.get) && decide (unit.get ≤ r.max)).map (·.channel)

end DynamicRangeRouteTable

namespace UnitRangeRoute

/-- The unit is in the range. -/
def contains (unit : UInt8) (r : UnitRangeRoute) : Bool :=
  decide (r.min ≤ unit) && decide (unit ≤ r.max)

/-- The ranges reach into each other. -/
def Overlaps (r s : UnitRangeRoute) : Prop := r.min ≤ s.max ∧ s.min ≤ r.max

lemma contains_iff {unit : UInt8} {r : UnitRangeRoute} :
    contains unit r = true ↔ r.min ≤ unit ∧ unit ≤ r.max := by
  rw [contains, Bool.and_eq_true, decide_eq_true_iff, decide_eq_true_iff]

/-- Two ranges overlap when a unit is in both: with well ordered bounds, the larger minimum is. -/
lemma overlaps_iff {r s : UnitRangeRoute} (hr : r.min ≤ r.max) (hs : s.min ≤ s.max) :
    r.Overlaps s ↔ ∃ unit, contains unit r = true ∧ contains unit s = true := by
  simp only [contains_iff]
  constructor
  · rintro ⟨hrs, hsr⟩
    rcases UInt8.le_total r.min s.min with hle | hle
    · exact ⟨s.min, ⟨hle, hsr⟩, UInt8.le_refl _, hs⟩
    · exact ⟨r.min, ⟨UInt8.le_refl _, hr⟩, hle, hrs⟩
  · rintro ⟨unit, ⟨hrmin, hrmax⟩, hsmin, hsmax⟩
    exact ⟨UInt8.le_trans hrmin hsmax, UInt8.le_trans hsmin hrmax⟩

end UnitRangeRoute

/-- A kind of route tables, seen as tables of ranges: `range` is the range that an `add` asks
for, `ranges` those that a table holds. -/
structure RouteTable (τ ρ : Type) where
  new : τ
  add : τ → ρ → Except MbusError Unit × τ
  route : τ → UnitIdOrSlaveAddr → Option Nat
  ranges : τ → List UnitRangeRoute
  range : ρ → UnitRangeRoute

/-- The unit tables with room for `n` entries. -/
def unitRouteTable (n : Nat) : RouteTable (UnitRouteTable n) (UnitIdOrSlaveAddr × Nat) where
  new := .new
  add t request := t.add request.1 request.2
  route := UnitRouteTable.route
  ranges t := t.entries.toList.map fun e => ⟨e.unit, e.unit, e.channel⟩
  range request := ⟨request.1.get, request.1.get, request.2⟩

/-- The unit tables without a limit. -/
def dynamicUnitRouteTable : RouteTable DynamicUnitRouteTable (UnitIdOrSlaveAddr × Nat) where
  new := .new
  add t request := t.add request.1 request.2
  route := DynamicUnitRouteTable.route
  ranges t := t.entries.map fun e => ⟨e.unit, e.unit, e.channel⟩
  range request := ⟨request.1.get, request.1.get, request.2⟩

/-- The range tables with room for `n` entries. -/
def rangeRouteTable (n : Nat) : RouteTable (RangeRouteTable n) UnitRangeRoute where
  new := .new
  add t request := t.add request.min request.max request.channel
  route := RangeRouteTable.route
  ranges t := t.ranges.toList
  range request := request

/-- The range tables without a limit. -/
def dynamicRangeRouteTable : RouteTable DynamicRangeRouteTable UnitRangeRoute where
  new := .new
  add t request := t.add request.min request.max request.channel
  route := DynamicRangeRouteTable.route
  ranges t := t.ranges
  range request := request

namespace RouteTable

variable {τ τ' ρ : Type}

/-- The table after the requests, and what they were answered. -/
def addAll (T : RouteTable τ ρ) (t : τ) : List ρ → List (Except MbusError Unit) × τ
  | [] => ([], t)
  | request :: requests =>
    let rest := T.addAll (T.add t request).2 requests
    ((T.add t request).1 :: rest.1, rest.2)

/-- The requests that the table took. -/
def accepted (T : RouteTable τ ρ) (t : τ) : List ρ → List ρ
  | [] => []
  | request :: requests =>
    match (T.add t request).1 with
    | .ok () => request :: T.accepted (T.add t request).2 requests
    | .error _ => T.accepted (T.add t request).2 requests

/-- The route of a unit is settled: after any requests the ranges are disjoint and well ordered,
those of the accepted requests; a refused request changes nothing; a unit goes to the channel of
the only range it is in; and the accepted requests give the same routes in every order. -/
structure Unambiguous (T : RouteTable τ ρ) (requests : List ρ) : Prop where
  disjoint : (T.ranges (T.addAll T.new requests).2).Pairwise fun r s =>
    ∀ unit, ¬(r.contains unit = true ∧ s.contains unit = true)
  ordered : ∀ r ∈ T.ranges (T.addAll T.new requests).2, r.min ≤ r.max
  stored : T.ranges (T.addAll T.new requests).2 = (T.accepted T.new requests).map T.range
  refused : ∀ request e, (T.add (T.addAll T.new requests).2 request).1 = .error e →
    (T.add (T.addAll T.new requests).2 request).2 = (T.addAll T.new requests).2
  routed : ∀ unit, ∀ r ∈ T.ranges (T.addAll T.new requests).2, r.contains unit.get = true →
    T.route (T.addAll T.new requests).2 unit = some r.channel ∧
      ∀ s ∈ T.ranges (T.addAll T.new requests).2, s.contains unit.get = true → s = r
  unrouted : ∀ unit, (∀ r ∈ T.ranges (T.addAll T.new requests).2, r.contains unit.get = false) →
    T.route (T.addAll T.new requests).2 unit = none
  reordered : ∀ order, order.Perm (T.accepted T.new requests) →
    (∀ answer ∈ (T.addAll T.new order).1, answer = .ok ()) ∧
      ∀ unit, T.route (T.addAll T.new order).2 unit = T.route (T.addAll T.new requests).2 unit

/-- As long as the table without a limit holds no more than `n` ranges, both give the same
answers. -/
def AgreesUpTo (T : RouteTable τ ρ) (D : RouteTable τ' ρ) (n : Nat) (requests : List ρ) : Prop :=
  (D.ranges (D.addAll D.new requests).2).length ≤ n →
    (T.addAll T.new requests).1 = (D.addAll D.new requests).1 ∧
      T.ranges (T.addAll T.new requests).2 = D.ranges (D.addAll D.new requests).2 ∧
      ∀ unit, T.route (T.addAll T.new requests).2 unit = D.route (D.addAll D.new requests).2 unit

/-- A table of ranges takes the range: it is well ordered and reaches into no other. -/
def Admits (ranges : List UnitRangeRoute) (r : UnitRangeRoute) : Prop :=
  r.min ≤ r.max ∧ ∀ s ∈ ranges, ¬s.Overlaps r

/-- What the four kinds of tables have in common: `add` is a function of the ranges that are
stored, and so is `route`. -/
structure Lawful (T : RouteTable τ ρ) (limit : Option Nat) : Prop where
  ranges_new : T.ranges T.new = []
  add_of_not_admits : ∀ t request, ¬Admits (T.ranges t) (T.range request) →
    T.add t request = (.error .invalidAddress, t)
  add_of_full : ∀ t request, Admits (T.ranges t) (T.range request) →
    some (T.ranges t).length = limit → T.add t request = (.error .tooManyRequests, t)
  add_of_admits : ∀ t request, Admits (T.ranges t) (T.range request) →
    some (T.ranges t).length ≠ limit →
      ∃ t', T.add t request = (.ok (), t') ∧ T.ranges t' = T.ranges t ++ [T.range request]
  route_eq : ∀ t unit, T.route t unit =
    ((T.ranges t).find? (UnitRangeRoute.contains unit.get)).map (·.channel)

/-- What a list of ranges keeps while ranges are admitted to it. -/
structure Settled (ranges : List UnitRangeRoute) : Prop where
  ordered : ∀ r ∈ ranges, r.min ≤ r.max
  apart : List.Exclusive UnitRangeRoute.contains ranges

lemma Settled.nil : Settled [] := ⟨nofun, List.Pairwise.nil⟩

lemma Settled.perm {ranges ranges' : List UnitRangeRoute} (h : Settled ranges)
    (hperm : ranges.Perm ranges') : Settled ranges' :=
  ⟨fun r hr => h.ordered r (hperm.mem_iff.mpr hr), h.apart.perm hperm⟩

/-- A range is admitted exactly when the list with it is settled. -/
lemma Settled.concat_iff {ranges : List UnitRangeRoute} {r : UnitRangeRoute} :
    Settled (ranges ++ [r]) ↔ Settled ranges ∧ Admits ranges r := by
  constructor
  · rintro ⟨hordered, hapart⟩
    obtain ⟨hapart, hr⟩ := List.exclusive_concat.mp hapart
    have hold (s : UnitRangeRoute) (hs : s ∈ ranges) : s.min ≤ s.max :=
      hordered s (List.mem_append_left _ hs)
    have hnew : r.min ≤ r.max := hordered r (List.mem_append_right _ List.mem_cons_self)
    refine ⟨⟨hold, hapart⟩, hnew, fun s hs hoverlaps => ?_⟩
    obtain ⟨unit, hunit⟩ := (UnitRangeRoute.overlaps_iff (hold s hs) hnew).mp hoverlaps
    exact hr s hs unit hunit
  · rintro ⟨⟨hordered, hapart⟩, hnew, hr⟩
    refine ⟨fun s hs => ?_, List.exclusive_concat.mpr ⟨hapart, fun s hs unit hunit => ?_⟩⟩
    · rcases List.mem_append.mp hs with hs | hs
      · exact hordered s hs
      · rwa [List.mem_singleton.mp hs]
    · exact hr s hs ((UnitRangeRoute.overlaps_iff (hordered s hs) hnew).mpr ⟨unit, hunit⟩)

namespace Lawful

variable {T : RouteTable τ ρ} {D : RouteTable τ' ρ} {limit : Option Nat}

lemma refused (h : T.Lawful limit) {t : τ} {request : ρ} {e : MbusError}
    (he : (T.add t request).1 = .error e) : (T.add t request).2 = t := by
  by_cases hadmits : Admits (T.ranges t) (T.range request)
  · by_cases hfull : some (T.ranges t).length = limit
    · rw [h.add_of_full t request hadmits hfull]
    · obtain ⟨t', hadd, _⟩ := h.add_of_admits t request hadmits hfull
      rw [hadd] at he
      cases he
  · rw [h.add_of_not_admits t request hadmits]

/-- What `add` takes is admitted, and comes to the end of the ranges. -/
lemma taken (h : T.Lawful limit) {t : τ} {request : ρ} (hok : (T.add t request).1 = .ok ()) :
    Admits (T.ranges t) (T.range request) ∧ some (T.ranges t).length ≠ limit ∧
      T.ranges (T.add t request).2 = T.ranges t ++ [T.range request] := by
  by_cases hadmits : Admits (T.ranges t) (T.range request)
  · by_cases hfull : some (T.ranges t).length = limit
    · rw [h.add_of_full t request hadmits hfull] at hok
      cases hok
    · obtain ⟨t', hadd, hranges⟩ := h.add_of_admits t request hadmits hfull
      refine ⟨hadmits, hfull, ?_⟩
      rw [hadd, hranges]
  · rw [h.add_of_not_admits t request hadmits] at hok
    cases hok

lemma ranges_addAll (h : T.Lawful limit) (t : τ) (requests : List ρ) :
    T.ranges (T.addAll t requests).2 = T.ranges t ++ (T.accepted t requests).map T.range := by
  induction requests generalizing t with
  | nil => simp [addAll, accepted]
  | cons request requests ih =>
    rw [addAll, accepted]
    cases hadd : (T.add t request).1 with
    | error e => exact (ih _).trans (by rw [h.refused hadd])
    | ok =>
      obtain ⟨_, _, hranges⟩ := h.taken hadd
      refine (ih _).trans ?_
      rw [hranges, List.append_assoc]
      rfl

lemma settled_addAll (h : T.Lawful limit) {t : τ} (ht : Settled (T.ranges t))
    (requests : List ρ) : Settled (T.ranges (T.addAll t requests).2) := by
  induction requests generalizing t with
  | nil => exact ht
  | cons request requests ih =>
    refine ih ?_
    cases hadd : (T.add t request).1 with
    | error e => rwa [h.refused hadd]
    | ok =>
      obtain ⟨hadmits, _, hranges⟩ := h.taken hadd
      rw [hranges]
      exact Settled.concat_iff.mpr ⟨ht, hadmits⟩

/-- Requests whose ranges fit together are all taken. -/
lemma addAll_of_settled (h : T.Lawful limit) {t : τ} {requests : List ρ}
    (hsettled : Settled (T.ranges t ++ requests.map T.range))
    (hroom : ∀ n, limit = some n → (T.ranges t ++ requests.map T.range).length ≤ n) :
    (∀ answer ∈ (T.addAll t requests).1, answer = .ok ()) ∧
      T.ranges (T.addAll t requests).2 = T.ranges t ++ requests.map T.range := by
  induction requests generalizing t with
  | nil => exact ⟨nofun, (List.append_nil _).symm⟩
  | cons request requests ih =>
    have hsplit : T.ranges t ++ (request :: requests).map T.range =
        T.ranges t ++ [T.range request] ++ requests.map T.range := by simp
    rw [hsplit] at hsettled hroom
    have hprefix : Settled (T.ranges t ++ [T.range request]) :=
      ⟨fun r hr => hsettled.ordered r (List.mem_append_left _ hr),
        (List.pairwise_append.mp hsettled.apart).1⟩
    have hfull : some (T.ranges t).length ≠ limit := by
      intro heq
      have hle := hroom _ heq.symm
      simp only [List.length_append, List.length_singleton] at hle
      omega
    obtain ⟨t', hadd, hranges⟩ :=
      h.add_of_admits t request (Settled.concat_iff.mp hprefix).2 hfull
    rw [← hranges] at hsettled hroom
    obtain ⟨hanswers, hfinal⟩ := ih hsettled hroom
    rw [addAll, hadd, hsplit, ← hranges]
    refine ⟨fun answer hanswer => ?_, hfinal⟩
    rcases List.mem_cons.mp hanswer with rfl | hanswer
    · rfl
    · exact hanswers answer hanswer

/-- A limited table never holds more than it has room for. -/
lemma length_addAll_le (h : T.Lawful limit) {t : τ} {n : Nat} (hlimit : limit = some n)
    (ht : (T.ranges t).length ≤ n) (requests : List ρ) :
    (T.ranges (T.addAll t requests).2).length ≤ n := by
  induction requests generalizing t with
  | nil => exact ht
  | cons request requests ih =>
    refine ih ?_
    cases hadd : (T.add t request).1 with
    | error e => rwa [h.refused hadd]
    | ok =>
      obtain ⟨_, hfull, hranges⟩ := h.taken hadd
      rw [hlimit, Ne, Option.some_inj] at hfull
      rw [hranges, List.length_append, List.length_singleton]
      omega

theorem unambiguous (h : T.Lawful limit) (requests : List ρ) : T.Unambiguous requests := by
  have hnew : Settled (T.ranges T.new) := by
    rw [h.ranges_new]
    exact .nil
  have hsettled := h.settled_addAll hnew requests
  have hstored := h.ranges_addAll T.new requests
  rw [h.ranges_new, List.nil_append] at hstored
  refine ⟨hsettled.apart, hsettled.ordered, hstored, fun _ _ => h.refused,
    fun unit r hr hunit => ⟨?_, fun s hs hs' => ?_⟩, fun unit hnone => ?_, fun order hperm => ?_⟩
  · rw [h.route_eq, (hsettled.apart.find?_eq_some_iff (k := unit.get)).mpr ⟨hr, hunit⟩]
    rfl
  · have hfound := (hsettled.apart.find?_eq_some_iff (k := unit.get)).mpr ⟨hr, hunit⟩
    rw [hsettled.apart.find?_eq_some_iff.mpr ⟨hs, hs'⟩] at hfound
    exact Option.some_inj.mp hfound
  · rw [h.route_eq, List.find?_eq_none.mpr fun r hr => by rw [hnone r hr]; nofun]
    rfl
  · have hranges := hperm.map T.range
    rw [← hstored] at hranges
    have horder : Settled (T.ranges T.new ++ order.map T.range) := by
      rw [h.ranges_new]
      exact hsettled.perm hranges.symm
    obtain ⟨hanswers, hfinal⟩ := h.addAll_of_settled horder fun n hlimit => by
      rw [h.ranges_new, List.nil_append, hranges.length_eq]
      exact h.length_addAll_le hlimit (by rw [h.ranges_new]; exact Nat.zero_le n) requests
    refine ⟨hanswers, fun unit => ?_⟩
    rw [h.ranges_new, List.nil_append] at hfinal
    rw [h.route_eq, h.route_eq, hfinal, hsettled.apart.find?_perm hranges.symm]

/-- Tables that hold the same ranges answer the same until the limited one is full. -/
lemma agree (h : T.Lawful limit) (hd : D.Lawful none) (hrange : T.range = D.range)
    (requests : List ρ) {t : τ} {d : τ'} (hsame : T.ranges t = D.ranges d)
    (hroom : ∀ n, limit = some n → (D.ranges (D.addAll d requests).2).length ≤ n) :
    (T.addAll t requests).1 = (D.addAll d requests).1 ∧
      T.ranges (T.addAll t requests).2 = D.ranges (D.addAll d requests).2 := by
  induction requests generalizing t d with
  | nil => exact ⟨rfl, hsame⟩
  | cons request requests ih =>
    have hstep : (T.add t request).1 = (D.add d request).1 ∧
        T.ranges (T.add t request).2 = D.ranges (D.add d request).2 := by
      by_cases hadmits : Admits (T.ranges t) (T.range request)
      · have hadmits' : Admits (D.ranges d) (D.range request) := by rwa [← hsame, ← hrange]
        obtain ⟨d', hadd', hranges'⟩ := hd.add_of_admits d request hadmits' nofun
        have hfull : some (T.ranges t).length ≠ limit := by
          intro heq
          have hle := hroom _ heq.symm
          rw [addAll, hadd', hd.ranges_addAll, hranges', ← hsame] at hle
          simp only [List.length_append, List.length_singleton] at hle
          omega
        obtain ⟨t', hadd, hranges⟩ := h.add_of_admits t request hadmits hfull
        rw [hadd, hadd']
        exact ⟨rfl, by rw [hranges, hranges', hsame, hrange]⟩
      · have hadmits' : ¬Admits (D.ranges d) (D.range request) := by rwa [← hsame, ← hrange]
        rw [h.add_of_not_admits t request hadmits, hd.add_of_not_admits d request hadmits']
        exact ⟨rfl, hsame⟩
    obtain ⟨hanswers, hranges⟩ := ih hstep.2 hroom
    exact ⟨congrArg₂ List.cons hstep.1 hanswers, hranges⟩

lemma agreesUpTo {n : Nat} (h : T.Lawful (some n)) (hd : D.Lawful none)
    (hrange : T.range = D.range) (requests : List ρ) : T.AgreesUpTo D n requests := by
  intro hle
  have hsame : T.ranges T.new = D.ranges D.new := by rw [h.ranges_new, hd.ranges_new]
  obtain ⟨hanswers, hranges⟩ := h.agree hd hrange requests hsame fun n' hn' => by
    rwa [← Option.some_inj.mp hn']
  refine ⟨hanswers, hranges, fun unit => ?_⟩
  rw [h.route_eq, hd.route_eq, hranges]

end Lawful

end RouteTable

section Tables

open RouteTable

/-- The test of `add` against the stored units is the test for overlapping ranges. -/
lemma admits_unit {entries : List UnitRouteEntry} {unit : UInt8} {channel : Nat} :
    Admits (entries.map fun e => ⟨e.unit, e.unit, e.channel⟩) ⟨unit, unit, channel⟩ ↔
      entries.any (·.unit == unit) = false := by
  rw [List.any_eq_false]
  simp only [Admits, UInt8.le_refl, true_and, List.mem_map, forall_exists_index, and_imp,
    forall_apply_eq_imp_iff₂, UnitRangeRoute.Overlaps, beq_iff_eq]
  refine forall₂_congr fun e _ => not_congr ⟨fun h => UInt8.le_antisymm h.1 h.2, ?_⟩
  rintro rfl
  exact ⟨UInt8.le_refl _, UInt8.le_refl _⟩

/-- The tests of `add` against the bounds and the stored ranges. -/
lemma admits_range {ranges : List UnitRangeRoute} {min max : UInt8} {channel : Nat} :
    Admits ranges ⟨min, max, channel⟩ ↔ ¬min > max ∧
      (ranges.any fun r => !(decide (r.max < min) || decide (r.min > max))) = false := by
  rw [List.any_eq_false]
  simp only [Admits, UnitRangeRoute.Overlaps, gt_iff_lt, UInt8.not_lt, Bool.not_eq_true',
    Bool.or_eq_false_iff, decide_eq_false_iff_not]
  exact and_congr_right fun _ => forall₂_congr fun _ _ => not_congr And.comm

lemma contains_unit (unit : UInt8) (entries : List UnitRouteEntry) :
    ((entries.map fun e => (⟨e.unit, e.unit, e.channel⟩ : UnitRangeRoute)).find?
      (UnitRangeRoute.contains unit)).map (·.channel) =
        (entries.find? (·.unit == unit)).map (·.channel) := by
  have htest : (UnitRangeRoute.contains unit ∘ fun e : UnitRouteEntry =>
      (⟨e.unit, e.unit, e.channel⟩ : UnitRangeRoute)) = (·.unit == unit) := by
    funext e
    rw [Bool.eq_iff_iff, Function.comp_apply, UnitRangeRoute.contains_iff, beq_iff_eq]
    refine ⟨fun h => UInt8.le_antisymm h.1 h.2, ?_⟩
    rintro rfl
    exact ⟨UInt8.le_refl _, UInt8.le_refl _⟩
  rw [List.find?_map, htest, Option.map_map]
  rfl

lemma lawful_unitRouteTable (n : Nat) : (unitRouteTable n).Lawful (some n) where
  ranges_new := rfl
  add_of_not_admits t request h := by
    have hany : t.entries.toList.any (·.unit == request.1.get) = true := by
      rw [← Bool.not_eq_false]
      exact fun hany => h (admits_unit.mpr hany)
    exact if_pos hany
  add_of_full t request h hfull := by
    have hpush : t.entries.push ⟨request.1.get, request.2⟩ = none :=
      HVec.push_eq_none.mpr (by simpa [unitRouteTable] using hfull)
    change UnitRouteTable.add t request.1 request.2 = _
    rw [UnitRouteTable.add, if_neg (Bool.eq_false_iff.mp (admits_unit.mp h)), hpush]
  add_of_admits t request h hfull := by
    obtain ⟨entries, hpush, hentries⟩ :=
      HVec.push_of_ne t.entries ⟨request.1.get, request.2⟩ (by simpa [unitRouteTable] using hfull)
    refine ⟨⟨entries⟩, ?_, ?_⟩
    · change UnitRouteTable.add t request.1 request.2 = _
      rw [UnitRouteTable.add, if_neg (Bool.eq_false_iff.mp (admits_unit.mp h)), hpush]
    · simp [unitRouteTable, hentries]
  route_eq t unit := (contains_unit unit.get t.entries.toList).symm

lemma lawful_dynamicUnitRouteTable : dynamicUnitRouteTable.Lawful none where
  ranges_new := rfl
  add_of_not_admits t request h := by
    have hany : t.entries.any (·.unit == request.1.get) = true := by
      rw [← Bool.not_eq_false]
      exact fun hany => h (admits_unit.mpr hany)
    exact if_pos hany
  add_of_full t request _ hfull := nomatch hfull
  add_of_admits t request h _ := by
    refine ⟨_, if_neg (Bool.eq_false_iff.mp (admits_unit.mp h)), ?_⟩
    simp [dynamicUnitRouteTable]
  route_eq t unit := (contains_unit unit.get t.entries).symm

lemma lawful_rangeRouteTable (n : Nat) : (rangeRouteTable n).Lawful (some n) where
  ranges_new := rfl
  add_of_not_admits t request h := by
    change RangeRouteTable.add t request.min request.max request.channel = _
    unfold RangeRouteTable.add
    split
    · rfl
    · rw [if_pos]
      rw [← Bool.not_eq_false]
      exact fun hany => h (admits_range.mpr ⟨‹_›, hany⟩)
  add_of_full t request h hfull := by
    have hpush : t.ranges.push ⟨request.min, request.max, request.channel⟩ = none :=
      HVec.push_eq_none.mpr (by simpa [rangeRouteTable] using hfull)
    change Admits t.ranges.toList request at h
    obtain ⟨horder, hany⟩ := admits_range.mp h
    change RangeRouteTable.add t request.min request.max request.channel = _
    rw [RangeRouteTable.add, if_neg horder, if_neg (Bool.eq_false_iff.mp hany), hpush]
  add_of_admits t request h hfull := by
    obtain ⟨ranges, hpush, hranges⟩ := HVec.push_of_ne t.ranges request
      (by simpa [rangeRouteTable] using hfull)
    change Admits t.ranges.toList request at h
    obtain ⟨horder, hany⟩ := admits_range.mp h
    refine ⟨⟨ranges⟩, ?_, hranges⟩
    change RangeRouteTable.add t request.min request.max request.channel = _
    rw [RangeRouteTable.add, if_neg horder, if_neg (Bool.eq_false_iff.mp hany), hpush]
  route_eq _ _ := rfl

lemma lawful_dynamicRangeRouteTable : dynamicRangeRouteTable.Lawful none where
  ranges_new := rfl
  add_of_not_admits t request h := by
    change DynamicRangeRouteTable.add t request.min request.max request.channel = _
    unfold DynamicRangeRouteTable.add
    split
    · rfl
    · rw [if_pos]
      rw [← Bool.not_eq_false]
      exact fun hany => h (admits_range.mpr ⟨‹_›, hany⟩)
  add_of_full t request _ hfull := nomatch hfull
  add_of_admits t request h _ := by
    change Admits t.ranges request at h
    obtain ⟨horder, hany⟩ := admits_range.mp h
    refine ⟨⟨t.ranges ++ [request]⟩, ?_, rfl⟩
    change DynamicRangeRouteTable.add t request.min request.max request.channel = _
    rw [DynamicRangeRouteTable.add, if_neg horder, if_neg (Bool.eq_false_iff.mp hany)]
  route_eq _ _ := rfl

/-- After any requests the route tables are unambiguous, and those with a limit agree with those
without until it is exceeded. -/
theorem routeTables_unambiguous (n : Nat) (ranges : List UnitRangeRoute)
    (units : List (UnitIdOrSlaveAddr × Nat)) :
    ((rangeRouteTable n).Unambiguous ranges ∧ dynamicRangeRouteTable.Unambiguous ranges ∧
      (rangeRouteTable n).AgreesUpTo dynamicRangeRouteTable n ranges) ∧
    (unitRouteTable n).Unambiguous units ∧ dynamicUnitRouteTable.Unambiguous units ∧
      (unitRouteTable n).AgreesUpTo dynamicUnitRouteTable n units := by
  have hrange := lawful_rangeRouteTable n
  have hunit := lawful_unitRouteTable n
  refine ⟨⟨hrange.unambiguous ranges, lawful_dynamicRangeRouteTable.unambiguous ranges, ?_⟩,
    hunit.unambiguous units, lawful_dynamicUnitRouteTable.unambiguous units, ?_⟩
  · exact hrange.agreesUpTo lawful_dynamicRangeRouteTable rfl ranges
  · exact hunit.agreesUpTo lawful_dynamicUnitRouteTable rfl units

end Tables

end ModbusRs.Gateway
