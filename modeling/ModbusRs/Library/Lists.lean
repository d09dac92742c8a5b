import Mathlib.Data.List.Perm.Basic
import Mathlib.Order.Lattice

/-!
# Lists with one element updated

What `List.modify` does to the image of a list, to the elements with a property and to the
values that some of its elements hold; lists that lose only elements without a property; lists
that are searched for a key; and lists that are sorted by one key and by another.
-/

namespace List

variable {α β : Type}

/-- An element of a list with one more at its end. -/
lemma getElem?_concat_eq_some {l : List α} {a b : α} {i : Nat} (h : (l ++ [a])[i]? = some b) :
    l[i]? = some b ∨ i = l.length ∧ a = b := by
  rcases Nat.lt_or_ge i l.length with hlt | hge
  · rw [getElem?_append_left hlt] at h
    exact .inl h
  · rw [getElem?_append_right hge] at h
    obtain ⟨hi, hab⟩ := getElem?_eq_some_iff.mp h
    rw [length_singleton] at hi
    exact .inr ⟨by omega, by rwa [getElem_singleton] at hab⟩

/-- No two elements of the list have a key in common. -/
def Exclusive {κ : Type} (p : κ → α → Bool) (l : List α) : Prop :=
  l.Pairwise fun a b => ∀ k, ¬(p k a = true ∧ p k b = true)

section Exclusive

variable {κ : Type} {p : κ → α → Bool} {l l' : List α}

lemma Exclusive.perm (h : Exclusive p l) (hperm : l.Perm l') : Exclusive p l' :=
  (hperm.pairwise_iff fun hab k hk => hab k hk.symm).mp h

lemma exclusive_concat {a : α} :
    Exclusive p (l ++ [a]) ↔ Exclusive p l ∧ ∀ b ∈ l, ∀ k, ¬(p k b = true ∧ p k a = true) := by
  unfold Exclusive
  rw [pairwise_append]
  simp

/-- The search for a key finds the only element that has it. -/
lemma Exclusive.find?_eq_some_iff (h : Exclusive p l) {k : κ} {a : α} :
    l.find? (p k) = some a ↔ a ∈ l ∧ p k a = true := by
  refine ⟨fun hfind => ⟨mem_of_find?_eq_some hfind, find?_some hfind⟩, ?_⟩
  rintro ⟨ha, hk⟩
  induction l with
  | nil => cases ha
  | cons b l ih =>
    obtain ⟨hb, hl⟩ := pairwise_cons.mp h
    rcases mem_cons.mp ha with rfl | ha
    · exact find?_cons_of_pos hk
    · rw [find?_cons_of_neg fun hkb => hb a ha k ⟨hkb, hk⟩]
      exact ih hl ha

/-- So it does not matter in which order the elements stand. -/
lemma Exclusive.find?_perm (h : Exclusive p l) (hperm : l.Perm l') (k : κ) :
    l'.find? (p k) = l.find? (p k) := by
  refine Option.ext fun a => ?_
  rw [(h.perm hperm).find?_eq_some_iff, h.find?_eq_some_iff, hperm.mem_iff]

end Exclusive

/-- The update of an element is an update of its image. -/
lemma map_modify_comm {f : α → α} {f' : β → β} {g : α → β} (h : ∀ a, g (f a) = f' (g a))
    (l : List α) (i : Nat) : (l.modify i f).map g = (l.map g).modify i f' := by
  induction l generalizing i with
  | nil => simp
  | cons a l ih =>
    cases i with
    | zero => simp [h]
    | succ i => simp [ih]

/-- An update that does not show in the image. -/
lemma map_modify_eq {f : α → α} {g : α → β} {l : List α} {i : Nat}
    (h : ∀ a, l[i]? = some a → g (f a) = g a) : (l.modify i f).map g = l.map g := by
  refine ext_getElem? fun j => ?_
  rw [getElem?_map, getElem?_map, getElem?_modify]
  cases ha : l[j]? with
  | none => rfl
  | some a =>
    by_cases hij : i = j
    · subst hij
      simpa using h a ha
    · simp [hij]

lemma filterMap_modify_eq {f : α → α} {g : α → Option β} (h : ∀ a, g (f a) = g a) (l : List α)
    (i : Nat) : (l.modify i f).filterMap g = l.filterMap g := by
  induction l generalizing i with
  | nil => simp
  | cons a l ih =>
    cases i with
    | zero => simp only [modify_zero_cons, filterMap_cons, h]
    | succ i => simp only [modify_succ_cons, filterMap_cons, ih]

/-- An update of every element that does not show in the image. -/
lemma map_mapIdx_eq {f : Nat → α → α} {g : α → β} (h : ∀ i a, g (f i a) = g a) (l : List α) :
    (l.mapIdx f).map g = l.map g := by
  induction l generalizing f with
  | nil => simp
  | cons a l ih =>
    rw [mapIdx_cons, map_cons, map_cons, h, ih fun i => h (i + 1)]

lemma filterMap_mapIdx_eq {f : Nat → α → α} {g : α → Option β} (h : ∀ i a, g (f i a) = g a)
    (l : List α) : (l.mapIdx f).filterMap g = l.filterMap g := by
  induction l generalizing f with
  | nil => simp
  | cons a l ih =>
    rw [mapIdx_cons, filterMap_cons, filterMap_cons, h, ih fun i => h (i + 1)]

/-- What holds of all elements, and of the updated one after the update. -/
lemma forall_mem_modify {P : α → Prop} {f : α → α} {l : List α} {i : Nat} (h : ∀ a ∈ l, P a)
    (hf : ∀ a, l[i]? = some a → P (f a)) : ∀ b ∈ l.modify i f, P b := by
  intro b hb
  obtain ⟨j, hj⟩ := mem_iff_getElem?.mp hb
  rw [getElem?_modify] at hj
  cases ha : l[j]? with
  | none =>
    rw [ha] at hj
    cases hj
  | some a =>
    rw [ha] at hj
    by_cases hij : i = j
    · subst hij
      have hab : f a = b := by simpa using hj
      exact hab ▸ hf a ha
    · have hab : a = b := by simpa [hij] using hj
      exact hab ▸ h a (mem_of_getElem? ha)

lemma filter_modify_of_neg {p : α → Bool} {f : α → α} {l : List α} {i : Nat} {a : α}
    (hi : l[i]? = some a) (ha : p a = false) (hf : p (f a) = false) :
    (l.modify i f).filter p = l.filter p := by
  obtain ⟨hlt, rfl⟩ := getElem?_eq_some_iff.mp hi
  obtain ⟨front, b, back, hl, rfl, hmodify⟩ := exists_of_modify f hlt
  have hb : l[front.length] = b := by simp [hl]
  rw [hb] at ha hf
  rw [hmodify, hl]
  simp [ha, hf]

/-- The only element with a property, updated. -/
lemma filter_modify_of_singleton {p : α → Bool} {f : α → α} {l : List α} {i : Nat} {a b : α}
    (h : l.filter p = [b]) (hi : l[i]? = some a) (ha : p a = true) (hf : p (f a) = true) :
    a = b ∧ (l.modify i f).filter p = [f a] := by
  obtain ⟨hlt, rfl⟩ := getElem?_eq_some_iff.mp hi
  obtain ⟨front, c, back, hl, rfl, hmodify⟩ := exists_of_modify f hlt
  have hc : l[front.length] = c := by simp [hl]
  rw [hc] at ha hf ⊢
  rw [hl, filter_append, filter_cons_of_pos ha] at h
  obtain ⟨hfront, hrest⟩ : front.filter p = [] ∧ c :: back.filter p = [b] := by
    cases hf' : front.filter p with
    | nil =>
      rw [hf'] at h
      exact ⟨rfl, h⟩
    | cons d rest =>
      rw [hf'] at h
      simp at h
  obtain ⟨rfl, hback⟩ := cons.inj hrest
  refine ⟨rfl, ?_⟩
  rw [hmodify, filter_append, filter_cons_of_pos hf, hfront, hback]
  rfl

/-- What the elements hold, before and after an update. -/
lemma filterMap_modify_perm {f : α → α} {g : α → Option β} {l : List α} {i : Nat} {a : α}
    (hi : l[i]? = some a) :
    ((g a).toList ++ (l.modify i f).filterMap g).Perm ((g (f a)).toList ++ l.filterMap g) := by
  have hcons : ∀ (b : α) (l : List α), (b :: l).filterMap g = (g b).toList ++ l.filterMap g := by
    intro b l
    rw [filterMap_cons]
    cases g b <;> rfl
  obtain ⟨hlt, rfl⟩ := getElem?_eq_some_iff.mp hi
  obtain ⟨front, b, back, hl, rfl, hmodify⟩ := exists_of_modify f hlt
  have hb : l[front.length] = b := by simp [hl]
  rw [hb, hmodify, hl, filterMap_append, filterMap_append, hcons, hcons]
  generalize front.filterMap g = xs
  generalize back.filterMap g = ys
  generalize (g b).toList = old
  generalize (g (f b)).toList = new
  calc
    (old ++ (xs ++ (new ++ ys))).Perm (old ++ (new ++ (xs ++ ys))) :=
      (perm_append_comm_assoc xs new ys).append_left old
    (old ++ (new ++ (xs ++ ys))).Perm (new ++ (old ++ (xs ++ ys))) :=
      perm_append_comm_assoc old new (xs ++ ys)
    (new ++ (old ++ (xs ++ ys))).Perm (new ++ (xs ++ (old ++ ys))) :=
      (perm_append_comm_assoc old xs ys).append_left new

/-- From `l` to `l'` nothing is added, and nothing with the property is lost. -/
structure Keeps (p : α → Bool) (l l' : List α) : Prop where
  perm : (l'.filter p).Perm (l.filter p)
  subset : l' ⊆ l

section Keeps

variable {p : α → Bool} {l l' l'' : List α}

lemma Keeps.of_perm (h : l'.Perm l) : Keeps p l l' := ⟨h.filter p, h.subset⟩

lemma Keeps.trans (h : Keeps p l l') (h' : Keeps p l' l'') : Keeps p l l'' :=
  ⟨h'.perm.trans h.perm, fun _ ha => h.subset (h'.subset ha)⟩

lemma Keeps.lose {lost : List α} (h : ∀ a ∈ lost, p a = false) (l : List α) :
    Keeps p (lost ++ l) l := by
  refine ⟨?_, subset_append_right lost l⟩
  have hnone : lost.filter p = [] := filter_eq_nil_iff.mpr fun a ha => by simp [h a ha]
  rw [filter_append, hnone, nil_append]

lemma Keeps.append_right (h : Keeps p l l') (added : List α) :
    Keeps p (l ++ added) (l' ++ added) := by
  constructor
  · rw [filter_append, filter_append]
    exact h.perm.append_right _
  · exact fun a ha => (mem_append.mp ha).elim (fun h' => mem_append_left _ (h.subset h'))
      fun h' => mem_append_right _ h'

end Keeps

lemma eq_singleton_of_nodup {l : List α} {a : α} (h : l.Nodup) (hmem : a ∈ l)
    (hall : ∀ b ∈ l, b = a) : l = [a] := by
  cases l with
  | nil => cases hmem
  | cons b rest =>
    obtain rfl := hall b mem_cons_self
    cases rest with
    | nil => rfl
    | cons c rest =>
      obtain rfl := hall c (mem_cons_of_mem _ mem_cons_self)
      exact absurd mem_cons_self (nodup_cons.mp h).1

/-! ### Related lists -/

section Forall₂

variable {R S : α → β → Prop} {as : List α} {bs : List β}

lemma Forall₂.exists_of_mem (h : Forall₂ R as bs) {a : α} (ha : a ∈ as) : ∃ b ∈ bs, R a b := by
  induction h with
  | nil => cases ha
  | @cons x y _ _ hxy _ ih =>
    rcases mem_cons.mp ha with rfl | ha
    · exact ⟨y, mem_cons_self, hxy⟩
    · obtain ⟨b, hb, hab⟩ := ih ha
      exact ⟨b, mem_cons_of_mem y hb, hab⟩

/-- Elements of the first list may be assumed to be such. -/
lemma Forall₂.imp_of_mem (h : Forall₂ R as bs) (hRS : ∀ a ∈ as, ∀ b, R a b → S a b) :
    Forall₂ S as bs := by
  induction h with
  | nil => exact .nil
  | cons hxy _ ih =>
    exact .cons (hRS _ mem_cons_self _ hxy) (ih fun a ha => hRS a (mem_cons_of_mem _ ha))

end Forall₂

end List

/-- A list that is sorted by one key is sorted by another when the keys agree, and only then. -/
lemma List.pairwise_map_lt_iff {α κ ν : Type} [Preorder κ] [LinearOrder ν] {f : α → κ} {g : α → ν}
    {l : List α} (hf : l.Pairwise fun a b => f a < f b) (hg : (l.map g).Nodup) :
    (l.map g).Pairwise (· < ·) ↔ ∀ a ∈ l, ∀ b ∈ l, g a < g b → f a < f b := by
  induction l with
  | nil => exact iff_of_true .nil fun _ ha => nomatch ha
  | cons x l ih =>
    obtain ⟨hx, hl⟩ := List.pairwise_cons.mp hf
    rw [List.map_cons, List.nodup_cons] at hg
    rw [List.map_cons, List.pairwise_cons, ih hl hg.2]
    constructor
    · rintro ⟨hlt, horder⟩ a ha b hb hab
      rcases List.mem_cons.mp ha with rfl | ha' <;> rcases List.mem_cons.mp hb with rfl | hb'
      · exact absurd hab (lt_irrefl _)
      · exact hx b hb'
      · exact absurd hab (lt_asymm (hlt _ (List.mem_map_of_mem ha')))
      · exact horder a ha' b hb' hab
    · intro horder
      refine ⟨fun y hy => ?_, fun a ha b hb =>
        horder a (List.mem_cons_of_mem x ha) b (List.mem_cons_of_mem x hb)⟩
      obtain ⟨b, hb, rfl⟩ := List.mem_map.mp hy
      have hne : g x ≠ g b := fun heq => hg.1 (heq ▸ List.mem_map_of_mem hb)
      rcases lt_or_gt_of_ne hne with hlt | hgt
      · exact hlt
      · exact absurd (horder b (List.mem_cons_of_mem x hb) x List.mem_cons_self hgt)
          (lt_asymm (hx b hb))
