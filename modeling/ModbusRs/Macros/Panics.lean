import ModbusRs.Macros.Handle

/-!
# Generated handlers that panic

A loop over segments panics exactly when it comes to a part that does. It comes to the part that
begins at an address when all addresses before it were served. The handler checks neither the
quantity of a read against its buffer nor the data of a batch against its quantity, so it panics
where a part crosses the end of one of them.
-/

namespace ModbusRs

open Outcome

section

variable {β σ : Type} {segments : List (Segment β)}
  {serve : β → UInt16 → UInt16 → Nat → σ → Fallible Unit × σ}
  {item : Nat → Nat → σ → Option σ} {P : σ → Prop} {Q : UInt16 → UInt16 → Nat → Prop}
  {bad : Segment β → UInt16 → UInt16 → Nat → Prop}

lemma toNat_sub_ofNat {remaining : UInt16} {i : Nat} (h : i ≤ remaining.toNat) :
    (remaining - UInt16.ofNat i).toNat = remaining.toNat - i := by
  have hlt := remaining.toNat_lt
  have hi : (UInt16.ofNat i).toNat = i := by
    rw [UInt16.toNat_ofNat']
    omega
  rw [UInt16.toNat_sub_of_le _ _ (UInt16.le_iff_toNat_le.mpr (by omega)), hi]

/-- The segments do not meet. -/
def Apart (segments : List (Segment β)) : Prop :=
  ∀ seg ∈ segments, ∀ seg' ∈ segments,
    seg = seg' ∨ seg.last.toNat < seg'.first.toNat ∨ seg'.last.toNat < seg.first.toNat

/-- A part of a range begins at one of its addresses. -/
structure Begins (segments : List (Segment β)) (address count : UInt16) (i : Nat)
    (seg : Segment β) (cursor : UInt16) : Prop where
  mem : seg ∈ segments
  lt : i < count.toNat
  cursor_eq : cursor.toNat = address.toNat + i
  contains : seg.contains cursor = true
  first : i = 0 ∨ seg.first = cursor

/-- The segment of an address in a range is the one that begins last before it. -/
lemma Begins.not_inside (hapart : Apart segments) {address count cursor : UInt16} {i : Nat}
    {seg seg' : Segment β} (h : Begins segments address count i seg' cursor)
    (hseg : seg ∈ segments) (hcontains : seg.contains address = true) (hpos : i ≠ 0) :
    seg.last.toNat < cursor.toNat := by
  have hfirst := h.first.resolve_left hpos
  have hcursor := h.cursor_eq
  rw [Segment.contains_iff] at hcontains
  by_contra hge
  have hnat := congrArg UInt16.toNat hfirst
  rcases hapart seg hseg seg' h.mem with rfl | hlt | hgt
  · omega
  · omega
  · have hbounds := Segment.contains_iff.mp h.contains
    omega

variable (item bad) in
/-- A loop panics exactly when it comes to a bad part. -/
theorem segmentLoop_eq_panic (hapart : Apart segments)
    (hbad : ∀ seg ∈ segments, ∀ (cursor remaining : UInt16) (offset : Nat) (s : σ), P s →
      Q cursor remaining offset → seg.contains cursor = true → 0 < remaining.toNat →
      bad seg cursor remaining offset →
      (serve seg.target cursor (seg.take cursor remaining) offset s).1 = .panic)
    (hgood : ∀ seg ∈ segments, ∀ (cursor remaining : UInt16) (offset : Nat) (s : σ), P s →
      Q cursor remaining offset → seg.contains cursor = true → 0 < remaining.toNat →
      ¬bad seg cursor remaining offset →
      Follows False (serve seg.target cursor (seg.take cursor remaining) offset s)
          (walk item (seg.take cursor remaining).toNat cursor.toNat offset s) ∧
        (serve seg.target cursor (seg.take cursor remaining) offset s).1 ≠ .panic ∧
        ((serve seg.target cursor (seg.take cursor remaining) offset s).1 = .ok () →
          P (serve seg.target cursor (seg.take cursor remaining) offset s).2))
    (hnext : ∀ seg ∈ segments, ∀ (cursor remaining : UInt16) (offset : Nat),
      Q cursor remaining offset → seg.contains cursor = true →
      cursor.toNat + (seg.take cursor remaining).toNat < 65536 →
      Q (cursor + seg.take cursor remaining) (remaining - seg.take cursor remaining)
        (offset + (seg.take cursor remaining).toNat))
    (hgap : ∀ address offset s, (∀ seg ∈ segments, address < seg.first.toNat ∨
      seg.last.toNat < address) → item address offset s = none)
    {fuel : Nat} (cursor remaining : UInt16) {offset : Nat} {s : σ} (hs : P s)
    (hQ : Q cursor remaining offset) (hfuel : remaining.toNat < fuel) :
    (segmentLoop segments serve fuel cursor remaining offset s).1 = .panic ↔
      ∃ i seg c, Begins segments cursor remaining i seg c ∧
        (walk item i cursor.toNat offset s).1 = true ∧
        bad seg c (remaining - UInt16.ofNat i) (offset + i) := by
  induction fuel generalizing cursor remaining offset s with
  | zero => exact absurd hfuel (Nat.not_lt_zero _)
  | succ fuel ih =>
    rw [segmentLoop]
    by_cases hzero : remaining = 0
    · subst hzero
      refine iff_of_false (by rintro ⟨⟩) ?_
      rintro ⟨i, _, _, h, _⟩
      exact absurd h.lt (Nat.not_lt_zero i)
    rw [if_neg hzero]
    have hpos : 0 < remaining.toNat := Nat.pos_of_ne_zero fun h =>
      hzero (UInt16.toNat_inj.mp h)
    -- a part that begins at the cursor is the part of the segment found there
    have hcursor {seg : Segment β} {c : UInt16} (h : Begins segments cursor remaining 0 seg c) :
        c = cursor := UInt16.toNat_inj.mp h.cursor_eq
    cases hfind : segments.find? (·.contains cursor) with
    | none =>
      refine iff_of_false (by rintro ⟨⟩) ?_
      rintro ⟨i, seg, c, hbegins, hwalk, _⟩
      cases i with
      | zero =>
        have hout := List.find?_eq_none.mp hfind seg hbegins.mem
        rw [← hcursor hbegins] at hout
        exact hout hbegins.contains
      | succ i =>
        have hnone : item cursor.toNat offset s = none := by
          refine hgap _ _ _ fun seg hseg => ?_
          have hout := List.find?_eq_none.mp hfind seg hseg
          rw [Segment.contains_iff] at hout
          omega
        rw [walk, hnone] at hwalk
        cases hwalk
    | some seg =>
      have hseg := List.mem_of_find?_eq_some hfind
      have hcontains : seg.contains cursor = true :=
        @List.find?_some _ (fun seg : Segment β => seg.contains cursor) _ _ hfind
      have hbounds := Segment.contains_iff.mp hcontains
      have hmin := Segment.toNat_take hcontains remaining
      have hsame {seg' : Segment β} {c : UInt16}
          (h : Begins segments cursor remaining 0 seg' c) : seg' = seg := by
        have hcontains' := h.contains
        rw [hcursor h, Segment.contains_iff] at hcontains'
        rcases hapart seg' h.mem seg hseg with heq | hlt | hgt
        · exact heq
        · omega
        · omega
      -- no other part begins before the segment ends
      have hbehind {i : Nat} {seg' : Segment β} {c : UInt16}
          (h : Begins segments cursor remaining i seg' c) (hi : i ≠ 0) :
          (seg.take cursor remaining).toNat ≤ i := by
        have hlast := h.not_inside hapart hseg hcontains hi
        have hc := h.cursor_eq
        omega
      have hstep := hnext seg hseg cursor remaining offset hQ hcontains
      dsimp only
      by_cases hbadNow : bad seg cursor remaining offset
      · have hpanic := hbad seg hseg cursor remaining offset s hs hQ hcontains hpos hbadNow
        generalize serve seg.target cursor (seg.take cursor remaining) offset s = served at hpanic ⊢
        obtain ⟨result, s'⟩ := served
        dsimp only at hpanic
        subst hpanic
        refine iff_of_true rfl ⟨0, seg, cursor, ⟨hseg, hpos, rfl, hcontains, Or.inl rfl⟩, rfl, ?_⟩
        have hall : remaining - UInt16.ofNat 0 = remaining :=
          UInt16.toNat_inj.mp (toNat_sub_ofNat (Nat.zero_le _))
        rwa [hall]
      · obtain ⟨hfollows, hne, hkeeps⟩ := hgood seg hseg cursor remaining offset s hs hQ hcontains
          hpos hbadNow
        have hnow {seg' : Segment β} {c : UInt16} (h : Begins segments cursor remaining 0 seg' c) :
            ¬bad seg' c (remaining - UInt16.ofNat 0) (offset + 0) := by
          have hall : remaining - UInt16.ofNat 0 = remaining :=
            UInt16.toNat_inj.mp (toNat_sub_ofNat (Nat.zero_le _))
          rwa [hsame h, hcursor h, hall]
        generalize seg.take cursor remaining = take at *
        have hsplit (n : Nat) := walk_add item take.toNat n cursor.toNat offset s
        generalize serve seg.target cursor take offset s = served at *
        obtain ⟨result, s'⟩ := served
        generalize walk item take.toNat cursor.toNat offset s = walked at hfollows hsplit
        obtain ⟨through, sw⟩ := walked
        cases result with
        | panic => exact absurd rfl hne
        | err e =>
          have hfailed : through = false := by
            by_contra htrue
            cases hfollows.ok_iff.mpr (Bool.eq_true_of_not_eq_false htrue)
          subst hfailed
          refine iff_of_false (by rintro ⟨⟩) ?_
          rintro ⟨i, seg', c, hbegins, hwalk, hbad'⟩
          rcases Nat.eq_zero_or_pos i with rfl | hi
          · exact hnow hbegins hbad'
          · obtain ⟨n, rfl⟩ := Nat.exists_eq_add_of_le (hbehind hbegins (by omega))
            rw [hsplit] at hwalk
            cases hwalk
        | ok u =>
          have hthrough : through = true := hfollows.ok_iff.mp rfl
          have hstate : s' = sw := hfollows.state (Or.inl hthrough)
          subst hthrough hstate
          dsimp only at hsplit ⊢
          have hlast := seg.last.toNat_lt
          by_cases hmore : cursor.toNat + take.toNat < 65536
          · have hmoved : (cursor + take).toNat = cursor.toNat + take.toNat := by
              rw [UInt16.toNat_add]
              omega
            have hrest : (remaining - take).toNat = remaining.toNat - take.toNat :=
              UInt16.toNat_sub_of_le _ _ (UInt16.le_iff_toNat_le.mpr (by omega))
            have hrestSub {n : Nat} (hn : take.toNat + n ≤ remaining.toNat) :
                remaining - take - UInt16.ofNat n = remaining - UInt16.ofNat (take.toNat + n) := by
              refine UInt16.toNat_inj.mp ?_
              rw [toNat_sub_ofNat (by omega), toNat_sub_ofNat hn, hrest]
              omega
            rw [if_pos hmore, @ih (cursor + take) (remaining - take) (offset + take.toNat) s'
              (hkeeps rfl) (hstep hmore) (by omega), hmoved]
            constructor
            · rintro ⟨n, seg', c, hbegins, hwalk, hbad'⟩
              have hlt := hbegins.lt
              have hc := hbegins.cursor_eq
              rw [hrest] at hlt
              rw [hmoved] at hc
              have hcontains' := Segment.contains_iff.mp hbegins.contains
              have hfirst : seg'.first = c := by
                rcases hbegins.first with rfl | hfirst
                · refine UInt16.toNat_inj.mp ?_
                  rcases hapart seg hseg seg' hbegins.mem with rfl | hbefore | hafter
                  · omega
                  · omega
                  · omega
                · exact hfirst
              refine ⟨take.toNat + n, seg', c, ⟨hbegins.mem, by omega, by omega, hbegins.contains,
                Or.inr hfirst⟩, ?_, ?_⟩
              · rw [hsplit]
                exact hwalk
              · rwa [← hrestSub (by omega), ← Nat.add_assoc]
            · rintro ⟨i, seg', c, hbegins, hwalk, hbad'⟩
              rcases Nat.eq_zero_or_pos i with rfl | hi
              · exact absurd hbad' (hnow hbegins)
              · obtain ⟨n, rfl⟩ := Nat.exists_eq_add_of_le (hbehind hbegins (by omega))
                have hlt := hbegins.lt
                have hc := hbegins.cursor_eq
                rw [hsplit] at hwalk
                rw [← hrestSub (by omega), ← Nat.add_assoc] at hbad'
                exact ⟨n, seg', c, ⟨hbegins.mem, by omega, by omega, hbegins.contains,
                  Or.inr (hbegins.first.resolve_left (by omega))⟩, hwalk, hbad'⟩
          · rw [if_neg hmore]
            refine iff_of_false (by rintro ⟨⟩) ?_
            rintro ⟨i, seg', c, hbegins, hwalk, hbad'⟩
            rcases Nat.eq_zero_or_pos i with rfl | hi
            · exact hnow hbegins hbad'
            · have hle := hbehind hbegins (by omega)
              have hc := hbegins.cursor_eq
              have hcsmall := c.toNat_lt
              omega

/-- A part of the range crosses a limit, and all addresses before it are accepted. -/
def Overflows (segments : List (Segment β)) (accepted : Nat → Prop) (limit : Nat)
    (address count : UInt16) : Prop :=
  limit < count.toNat ∧ ∃ seg ∈ segments, seg.first.toNat ≤ address.toNat + limit ∧
    address.toNat + limit ≤ seg.last.toNat ∧
    ∀ i, address.toNat + i < seg.first.toNat → accepted i

variable (item) in
/-- A loop that panics at the parts that cross a limit. -/
lemma overflows_iff {accepted : Nat → Prop} {limit : Nat} {address count : UInt16} {s : σ}
    (hgap : ∀ i, accepted i → ∃ seg ∈ segments, seg.first.toNat ≤ address.toNat + i ∧
      address.toNat + i ≤ seg.last.toNat)
    (hwalk : ∀ i ≤ count.toNat, (walk item i address.toNat 0 s).1 = true ↔
      ∀ j < i, accepted j) :
    (∃ i seg c, Begins segments address count i seg c ∧
      (walk item i address.toNat 0 s).1 = true ∧
      limit < 0 + i + (seg.take c (count - UInt16.ofNat i)).toNat) ↔
    Overflows segments accepted limit address count := by
  constructor
  · rintro ⟨i, seg, c, hbegins, hreached, hcross⟩
    have hlt := hbegins.lt
    have hc := hbegins.cursor_eq
    have htake := Segment.toNat_take hbegins.contains (count - UInt16.ofNat i)
    have hbounds := Segment.contains_iff.mp hbegins.contains
    rw [toNat_sub_ofNat (by omega)] at htake
    rw [hwalk i (by omega)] at hreached
    refine ⟨by omega, ?_⟩
    by_cases hbefore : limit < i
    · obtain ⟨seg', hseg', hfirst', hlast'⟩ := hgap limit (hreached limit hbefore)
      refine ⟨seg', hseg', hfirst', hlast', fun j hj => hreached j (by omega)⟩
    · refine ⟨seg, hbegins.mem, by omega, by omega, fun j hj => hreached j ?_⟩
      rcases hbegins.first with rfl | hfirst
      · omega
      · have hnat := congrArg UInt16.toNat hfirst
        omega
  · rintro ⟨hlimit, seg, hseg, hfirst, hlast, haccepted⟩
    have hmax := seg.last.toNat_lt
    -- the part begins with the segment, or with the range inside of it
    obtain ⟨i, hi, hstart⟩ : ∃ i ≤ limit, address.toNat + i = max address.toNat seg.first.toNat :=
      ⟨seg.first.toNat - address.toNat, by omega, by omega⟩
    have hcursor : (UInt16.ofNat (address.toNat + i)).toNat = address.toNat + i := by
      rw [UInt16.toNat_ofNat']
      omega
    have hcontains : seg.contains (UInt16.ofNat (address.toNat + i)) = true := by
      rw [Segment.contains_iff, hcursor]
      omega
    have htake := Segment.toNat_take hcontains (count - UInt16.ofNat i)
    rw [toNat_sub_ofNat (by omega), hcursor] at htake
    refine ⟨i, seg, UInt16.ofNat (address.toNat + i), ⟨hseg, by omega, hcursor, hcontains, ?_⟩,
      ?_, by omega⟩
    · rcases Nat.eq_zero_or_pos i with hzero | hpos
      · exact Or.inl hzero
      · refine Or.inr (UInt16.toNat_inj.mp ?_)
        rw [hcursor]
        omega
    · rw [hwalk i (by omega)]
      exact fun j hj => haccepted j (by omega)

/-- A loop ends as one of its parts does, or where no segment goes on. -/
lemma segmentLoop_result {R : Fallible Unit → Prop} (hdone : R (.ok ()))
    (hgap : R (.err .invalidAddress))
    (hserve : ∀ seg ∈ segments, ∀ (cursor remaining : UInt16) (offset : Nat) (s : σ), P s →
      Q cursor remaining offset → seg.contains cursor = true → 0 < remaining.toNat →
      R (serve seg.target cursor (seg.take cursor remaining) offset s).1 ∧
        P (serve seg.target cursor (seg.take cursor remaining) offset s).2)
    (hnext : ∀ seg ∈ segments, ∀ (cursor remaining : UInt16) (offset : Nat),
      Q cursor remaining offset → seg.contains cursor = true →
      cursor.toNat + (seg.take cursor remaining).toNat < 65536 →
      Q (cursor + seg.take cursor remaining) (remaining - seg.take cursor remaining)
        (offset + (seg.take cursor remaining).toNat))
    {fuel : Nat} (cursor remaining : UInt16) {offset : Nat} {s : σ} (hs : P s)
    (hQ : Q cursor remaining offset) (hfuel : remaining.toNat < fuel) :
    R (segmentLoop segments serve fuel cursor remaining offset s).1 := by
  induction fuel generalizing cursor remaining offset s with
  | zero => exact absurd hfuel (Nat.not_lt_zero _)
  | succ fuel ih =>
    rw [segmentLoop]
    by_cases hzero : remaining = 0
    · rw [if_pos hzero]
      exact hdone
    rw [if_neg hzero]
    have hpos : 0 < remaining.toNat := Nat.pos_of_ne_zero fun h =>
      hzero (UInt16.toNat_inj.mp h)
    cases hfind : segments.find? (·.contains cursor) with
    | none => exact hgap
    | some seg =>
      have hseg := List.mem_of_find?_eq_some hfind
      have hcontains : seg.contains cursor = true :=
        @List.find?_some _ (fun seg : Segment β => seg.contains cursor) _ _ hfind
      have hmin := Segment.toNat_take hcontains remaining
      obtain ⟨hresult, hkeeps⟩ := hserve seg hseg cursor remaining offset s hs hQ hcontains hpos
      have hstep := hnext seg hseg cursor remaining offset hQ hcontains
      dsimp only
      generalize seg.take cursor remaining = take at *
      generalize serve seg.target cursor take offset s = served at *
      obtain ⟨result, s'⟩ := served
      cases result with
      | ok u =>
        dsimp only
        split
        · rename_i hmore
          have hrest : (remaining - take).toNat = remaining.toNat - take.toNat :=
            UInt16.toNat_sub_of_le _ _ (UInt16.le_iff_toNat_le.mpr (by omega))
          apply ih
          · exact hkeeps
          · exact hstep hmore
          · omega
        · exact hgap
      | err e => exact hresult
      | panic => exact hresult

/-- A loop that succeeds ends within the limit that its parts keep. -/
lemma segmentLoop_ok_le {limit : Nat}
    (hserve : ∀ seg ∈ segments, ∀ (cursor remaining : UInt16) (offset : Nat) (s : σ), P s →
      seg.contains cursor = true → 0 < remaining.toNat →
      (serve seg.target cursor (seg.take cursor remaining) offset s).1 = .ok () →
      offset + (seg.take cursor remaining).toNat ≤ limit ∧
        P (serve seg.target cursor (seg.take cursor remaining) offset s).2)
    {fuel : Nat} (cursor remaining : UInt16) {offset : Nat} {s : σ} (hs : P s)
    (hok : (segmentLoop segments serve fuel cursor remaining offset s).1 = .ok ()) :
    (remaining = 0 ∨ offset + remaining.toNat ≤ limit) ∧
      P (segmentLoop segments serve fuel cursor remaining offset s).2 := by
  induction fuel generalizing cursor remaining offset s with
  | zero => cases hok
  | succ fuel ih =>
    rw [segmentLoop] at hok ⊢
    by_cases hzero : remaining = 0
    · rw [if_pos hzero]
      exact ⟨Or.inl hzero, hs⟩
    rw [if_neg hzero] at hok ⊢
    have hpos : 0 < remaining.toNat := Nat.pos_of_ne_zero fun h =>
      hzero (UInt16.toNat_inj.mp h)
    cases hfind : segments.find? (·.contains cursor) with
    | none =>
      rw [hfind] at hok
      cases hok
    | some seg =>
      rw [hfind] at hok
      have hseg := List.mem_of_find?_eq_some hfind
      have hcontains : seg.contains cursor = true :=
        @List.find?_some _ (fun seg : Segment β => seg.contains cursor) _ _ hfind
      have hmin := Segment.toNat_take hcontains remaining
      have hpart := hserve seg hseg cursor remaining offset s hs hcontains hpos
      dsimp only at hok ⊢
      generalize seg.take cursor remaining = take at *
      generalize serve seg.target cursor take offset s = served at *
      obtain ⟨result, s'⟩ := served
      cases result with
      | ok u =>
        obtain ⟨hle, hkeeps⟩ := hpart rfl
        dsimp only at hok ⊢
        split at hok
        · rename_i hmore
          rw [if_pos hmore]
          have hrest : (remaining - take).toNat = remaining.toNat - take.toNat :=
            UInt16.toNat_sub_of_le _ _ (UInt16.le_iff_toNat_le.mpr (by omega))
          obtain ⟨hend, hfinal⟩ := ih _ _ hkeeps hok
          refine ⟨Or.inr ?_, hfinal⟩
          rcases hend with hend | hend
          · have hnat := congrArg UInt16.toNat hend
            rw [hrest] at hnat
            have hz : (0 : UInt16).toNat = 0 := rfl
            omega
          · omega
        · cases hok
      | err e => cases hok
      | panic => cases hok

end

end ModbusRs
