import Mathlib.Logic.Function.Iterate
import Mathlib.Tactic.Common

/-!
# Cyclic redundancy checks

A reflected CRC of any width: the bits of a message enter at the low end of a register, which
shifts down and takes up the polynomial whenever a one leaves it. The register is linear in
exclusive or. For a polynomial whose highest bit is set the register is only zero again after an
error if the error has more bits than the register.
-/

namespace Crc

variable {w : Nat}

/-- A bit at the low end of a register. -/
def bit (b : Bool) : BitVec w := (BitVec.ofBool b).setWidth w

/-- One shift of the register. -/
def step (poly crc : BitVec w) : BitVec w :=
  if crc.getLsbD 0 then (crc >>> 1) ^^^ poly else crc >>> 1

/-- One bit of the message. -/
def feed (poly crc : BitVec w) (b : Bool) : BitVec w := step poly (crc ^^^ bit b)

/-- The bits of a message, one after the other. -/
def run (poly crc : BitVec w) (bits : List Bool) : BitVec w := bits.foldl (feed poly) crc

@[simp] lemma run_nil (poly crc : BitVec w) : run poly crc [] = crc := rfl

@[simp] lemma run_cons (poly crc : BitVec w) (b : Bool) (bits : List Bool) :
    run poly crc (b :: bits) = run poly (feed poly crc b) bits := rfl

lemma run_append (poly crc : BitVec w) (front bits : List Bool) :
    run poly crc (front ++ bits) = run poly (run poly crc front) bits := List.foldl_append

lemma getLsbD_bit (b : Bool) (i : Nat) :
    (bit b : BitVec w).getLsbD i = (decide (i < w) && decide (i = 0) && b) := by
  rw [bit, BitVec.getLsbD_setWidth, BitVec.getLsbD_ofBool, Bool.and_assoc]

lemma getLsbD_step (poly crc : BitVec w) (i : Nat) :
    (step poly crc).getLsbD i =
      (crc.getLsbD (i + 1) ^^ (crc.getLsbD 0 && poly.getLsbD i)) := by
  rw [step, Nat.add_comm i 1]
  cases crc.getLsbD 0 <;> simp

/-! ### Linearity -/

lemma bit_xor (a b : Bool) : (bit (a ^^ b) : BitVec w) = bit a ^^^ bit b := by
  apply BitVec.eq_of_getLsbD_eq
  intro i hi
  rw [BitVec.getLsbD_xor, getLsbD_bit, getLsbD_bit, getLsbD_bit, ← Bool.and_xor_distrib_left]

lemma step_xor (poly a b : BitVec w) : step poly (a ^^^ b) = step poly a ^^^ step poly b := by
  apply BitVec.eq_of_getLsbD_eq
  intro i hi
  simp only [getLsbD_step, BitVec.getLsbD_xor]
  cases a.getLsbD 0 <;> cases b.getLsbD 0 <;> cases poly.getLsbD i <;>
    cases a.getLsbD (i + 1) <;> cases b.getLsbD (i + 1) <;> rfl

lemma feed_xor (poly a b : BitVec w) (x y : Bool) :
    feed poly (a ^^^ b) (x ^^ y) = feed poly a x ^^^ feed poly b y := by
  rw [feed, feed, feed, ← step_xor, bit_xor]
  congr 1
  ac_rfl

/-- The registers of two messages of one length add up to that of their sum. -/
theorem run_xor (poly a b : BitVec w) {xs ys : List Bool} (h : xs.length = ys.length) :
    run poly (a ^^^ b) (xs.zipWith xor ys) = run poly a xs ^^^ run poly b ys := by
  induction xs generalizing a b ys with
  | nil =>
    cases List.length_eq_zero_iff.mp h.symm
    rfl
  | cons x xs ih =>
    cases ys with
    | nil => cases h
    | cons y ys =>
      rw [List.zipWith_cons_cons, run_cons, run_cons, run_cons, feed_xor]
      exact ih _ _ (Nat.succ.inj h)

/-! ### Several steps at once -/

/-- Low bits that are clear leave the polynomial out. -/
lemma iterate_step_of_clear (poly x : BitVec w) {k : Nat}
    (h : ∀ i < k, x.getLsbD i = false) : (step poly)^[k] x = x >>> k := by
  induction k with
  | zero => rw [Function.iterate_zero_apply, BitVec.ushiftRight_zero]
  | succ k ih =>
    have hlow : (x >>> k).getLsbD 0 = false := by
      rw [BitVec.getLsbD_ushiftRight]
      exact h k (Nat.lt_succ_self k)
    rw [Function.iterate_succ_apply', ih fun i hi => h i (Nat.lt_succ_of_lt hi), step, hlow,
      if_neg Bool.false_ne_true, BitVec.shiftRight_add]

lemma iterate_step_xor (poly a b : BitVec w) (k : Nat) :
    (step poly)^[k] (a ^^^ b) = (step poly)^[k] a ^^^ (step poly)^[k] b := by
  induction k with
  | zero => rfl
  | succ k ih => rw [Function.iterate_succ_apply', Function.iterate_succ_apply',
      Function.iterate_succ_apply', ih, step_xor]

/-- The register that the bits of a message stand for, the first bit lowest. -/
def ofBits : List Bool → BitVec w
  | [] => 0#w
  | b :: bits => ofBits bits <<< 1 ^^^ bit b

lemma getLsbD_ofBits (bits : List Bool) {i : Nat} (hi : i < w) :
    (ofBits bits : BitVec w).getLsbD i = bits.getD i false := by
  induction bits generalizing i with
  | nil => simp [ofBits]
  | cons b bits ih =>
    rw [ofBits, BitVec.getLsbD_xor, BitVec.getLsbD_shiftLeft, getLsbD_bit]
    cases i with
    | zero => simp [hi]
    | succ i => simpa [hi] using ih (Nat.lt_of_succ_lt hi)

lemma step_ofBits_shiftLeft (poly : BitVec w) {bits : List Bool} (h : bits.length < w) :
    step poly (ofBits bits <<< 1) = ofBits bits := by
  apply BitVec.eq_of_getLsbD_eq
  intro i hi
  have hlow : (ofBits bits <<< 1 : BitVec w).getLsbD 0 = false := by
    rw [BitVec.getLsbD_shiftLeft]
    simp
  rw [getLsbD_step, hlow, Bool.false_and, Bool.xor_false, BitVec.getLsbD_shiftLeft,
    Nat.add_sub_cancel]
  by_cases hi' : i + 1 < w
  · simp [hi']
  · have hlen : bits.length ≤ i := by omega
    rw [getLsbD_ofBits bits hi]
    simp [hi', List.getElem?_eq_none hlen]

/-- At most as many bits as the register has can enter it at once. -/
theorem run_eq_iterate (poly crc : BitVec w) {bits : List Bool} (h : bits.length ≤ w) :
    run poly crc bits = (step poly)^[bits.length] (crc ^^^ ofBits bits) := by
  induction bits generalizing crc with
  | nil =>
    rw [run_nil, ofBits, BitVec.xor_zero]
    rfl
  | cons b bits ih =>
    have hsplit : crc ^^^ ofBits (b :: bits) = (crc ^^^ bit b) ^^^ ofBits bits <<< 1 := by
      rw [ofBits]
      ac_rfl
    rw [run_cons, ih _ (Nat.le_of_succ_le h), List.length_cons, Function.iterate_succ_apply, hsplit,
      step_xor, step_ofBits_shiftLeft poly h, feed]

/-! ### Errors -/

section Errors

variable {poly : BitVec w}

lemma step_zero (poly : BitVec w) : step poly 0#w = 0#w := by
  rw [step, if_neg (by simp)]
  simp

/-- With a one at its high end the polynomial cannot cancel what is shifted down. -/
lemma step_eq_zero (hpoly : poly.msb = true) {x : BitVec w} : step poly x = 0#w ↔ x = 0#w := by
  constructor
  · intro h
    have hbits (i : Nat) : (x.getLsbD (i + 1) ^^ (x.getLsbD 0 && poly.getLsbD i)) = false := by
      rw [← getLsbD_step, h]
      simp
    have hlow : x.getLsbD 0 = false := by
      have htop := hbits (w - 1)
      rw [BitVec.getLsbD_of_ge x _ (by omega), ← BitVec.msb_eq_getLsbD_last, hpoly] at htop
      simpa using htop
    apply BitVec.eq_of_getLsbD_eq
    intro i _
    cases i with
    | zero => simpa using hlow
    | succ i =>
      have hi := hbits i
      rw [hlow] at hi
      simpa using hi
  · rintro rfl
    exact step_zero poly

lemma iterate_step_eq_zero (hpoly : poly.msb = true) {x : BitVec w} (k : Nat) :
    (step poly)^[k] x = 0#w ↔ x = 0#w := by
  induction k with
  | zero => rfl
  | succ k ih => rw [Function.iterate_succ_apply', step_eq_zero hpoly, ih]

/-- The last bits of a message clear the register exactly when they are the register. -/
theorem run_eq_zero_iff (hpoly : poly.msb = true) {crc : BitVec w} {bits : List Bool}
    (h : bits.length ≤ w) : run poly crc bits = 0#w ↔ crc = ofBits bits := by
  rw [run_eq_iterate poly crc h, iterate_step_eq_zero hpoly, BitVec.xor_eq_zero_iff]

lemma run_replicate_false (crc : BitVec w) (k : Nat) :
    run poly crc (List.replicate k false) = (step poly)^[k] crc := by
  have hbit : (bit false : BitVec w) = 0#w := by
    apply BitVec.eq_of_getLsbD_eq
    intro i _
    rw [getLsbD_bit]
    simp
  induction k generalizing crc with
  | zero => rfl
  | succ k ih =>
    rw [List.replicate_succ, run_cons, ih, Function.iterate_succ_apply, feed, hbit,
      BitVec.xor_zero]

/-- The bits of an error lie within `n` consecutive ones, and there is an error. -/
def IsBurst (n : Nat) (error : List Bool) : Prop :=
  ∃ before burst after, error =
      List.replicate before false ++ burst ++ List.replicate after false ∧
    burst.length ≤ n ∧ true ∈ burst

lemma ofBits_ne_zero {bits : List Bool} (h : bits.length ≤ w) (htrue : true ∈ bits) :
    (ofBits bits : BitVec w) ≠ 0#w := by
  intro hzero
  obtain ⟨i, hi, hbit⟩ := List.getElem_of_mem htrue
  have hget := getLsbD_ofBits bits (Nat.lt_of_lt_of_le hi h)
  rw [hzero, List.getD_eq_getElem?_getD, List.getElem?_eq_getElem hi, hbit] at hget
  simp at hget

/-- **Bursts.** No burst of at most the width of the register leaves it clear. -/
theorem run_burst_ne_zero (hpoly : poly.msb = true) {error : List Bool} (h : IsBurst w error) :
    run poly 0#w error ≠ 0#w := by
  obtain ⟨before, burst, after, rfl, hlen, htrue⟩ := h
  rw [run_append, run_append, run_replicate_false, run_replicate_false, Ne,
    iterate_step_eq_zero hpoly, (iterate_step_eq_zero hpoly before).mpr rfl,
    run_eq_zero_iff hpoly hlen]
  exact fun h => ofBits_ne_zero hlen htrue h.symm

end Errors

end Crc
