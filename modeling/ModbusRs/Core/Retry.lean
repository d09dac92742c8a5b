import ModbusRs.Core.Types

/-!
# Retry scheduling

Back-off strategies and jitter, on saturating machine integers.
-/

namespace ModbusRs

/-- `u64::MAX`. -/
def u64Max : UInt64 := 0xFFFFFFFFFFFFFFFF

/-- `a.saturating_add(b)` on `u64`. -/
def satAdd64 (a b : UInt64) : UInt64 := .ofNat (min (a.toNat + b.toNat) (2 ^ 64 - 1))

/-- `a.saturating_add(b)` on `u32`. -/
def satAdd32 (a b : UInt32) : UInt32 := .ofNat (min (a.toNat + b.toNat) (2 ^ 32 - 1))

/-- `a.saturating_mul(b)` on `u32`. -/
def satMul32 (a b : UInt32) : UInt32 := .ofNat (min (a.toNat * b.toNat) (2 ^ 32 - 1))

/-- `a.saturating_add(1)` on `u8`. -/
def satSucc8 (a : UInt8) : UInt8 := if a = 255 then a else a + 1

/-- `a.saturating_sub(1)` on `u8`. -/
def satPred8 (a : UInt8) : UInt8 := if a = 0 then a else a - 1

@[simp] lemma satAdd64_toNat (a b : UInt64) :
    (satAdd64 a b).toNat = min (a.toNat + b.toNat) (2 ^ 64 - 1) :=
  UInt64.toNat_ofNat_of_lt' (Nat.lt_of_le_of_lt (Nat.min_le_right _ _) (by decide))

@[simp] lemma satAdd32_toNat (a b : UInt32) :
    (satAdd32 a b).toNat = min (a.toNat + b.toNat) (2 ^ 32 - 1) :=
  UInt32.toNat_ofNat_of_lt' (Nat.lt_of_le_of_lt (Nat.min_le_right _ _) (by decide))

@[simp] lemma satMul32_toNat (a b : UInt32) :
    (satMul32 a b).toNat = min (a.toNat * b.toNat) (2 ^ 32 - 1) :=
  UInt32.toNat_ofNat_of_lt' (Nat.lt_of_le_of_lt (Nat.min_le_right _ _) (by decide))

lemma toNat_min32 (a b : UInt32) : (min a b).toNat = min a.toNat b.toNat := by
  by_cases h : a ≤ b
  · rw [show min a b = a from if_pos h, Nat.min_eq_left (UInt32.le_iff_toNat_le.mp h)]
  · rw [show min a b = b from if_neg h, Nat.min_eq_right]
    rw [UInt32.le_iff_toNat_le] at h
    omega

lemma toNat_min8 (a b : UInt8) : (min a b).toNat = min a.toNat b.toNat := by
  by_cases h : a ≤ b
  · rw [show min a b = a from if_pos h, Nat.min_eq_left (UInt8.le_iff_toNat_le.mp h)]
  · rw [show min a b = b from if_neg h, Nat.min_eq_right]
    rw [UInt8.le_iff_toNat_le] at h
    omega

lemma satPred8_toNat (a : UInt8) : (satPred8 a).toNat = a.toNat - 1 := by
  unfold satPred8
  split
  next h => rw [h]; rfl
  next h =>
    have hpos : 1 ≤ a := by
      rw [UInt8.le_iff_toNat_le]
      exact Nat.one_le_iff_ne_zero.mpr fun h0 => h (UInt8.toNat_inj.mp h0)
    exact UInt8.toNat_sub_of_le a 1 hpos

lemma satSucc8_of_lt {a : UInt8} (h : a.toNat < 255) : satSucc8 a = .ofNat (a.toNat + 1) := by
  have hne : a ≠ 255 := fun heq => Nat.ne_of_lt h (congrArg UInt8.toNat heq)
  rw [satSucc8, if_neg hne, UInt8.ofNat_add, UInt8.ofNat_toNat]
  rfl

/-- `BackoffStrategy`. -/
inductive BackoffStrategy where
  | immediate
  | fixed (delayMs : UInt32)
  | exponential (baseDelayMs maxDelayMs : UInt32)
  | linear (initialDelayMs incrementMs maxDelayMs : UInt32)
  deriving DecidableEq, Repr

/-- `delay_ms_for_retry`. -/
def BackoffStrategy.delayMsForRetry (strategy : BackoffStrategy) (retryAttempt : UInt8) : UInt32 :=
  let attempt := max retryAttempt 1
  match strategy with
  | .immediate => 0
  | .fixed delayMs => delayMs
  | .exponential baseDelayMs maxDelayMs =>
    let shift := min (satPred8 attempt) 31
    min (satMul32 baseDelayMs (1 <<< shift.toUInt32)) maxDelayMs
  | .linear initialDelayMs incrementMs maxDelayMs =>
    let growth := satMul32 incrementMs (satPred8 attempt).toUInt32
    min (satAdd32 initialDelayMs growth) maxDelayMs

/-- `JitterStrategy`. -/
inductive JitterStrategy where
  | none
  | percentage (percent : UInt8)
  | boundedMs (maxJitterMs : UInt32)
  deriving DecidableEq, Repr

/-- `RetryRandomFn`: the values that the callback returns, one after the other. -/
abbrev RetryRandomFn := Nat → UInt32

namespace JitterStrategy

/-- `delta`, unless the strategy leaves the delay alone. -/
def delta (strategy : JitterStrategy) (baseDelayMs : UInt32) : Option UInt32 :=
  match strategy with
  | .none => Option.none
  | .percentage percent =>
    if percent = 0 || baseDelayMs = 0 then Option.none
    else some (satMul32 baseDelayMs (min percent 100).toUInt32 / 100)
  | .boundedMs maxJitterMs => if maxJitterMs = 0 then Option.none else some maxJitterMs

/-- `apply`, and the number of values the callback has returned after it. -/
def apply (strategy : JitterStrategy) (baseDelayMs : UInt32) (randomFn : Option RetryRandomFn)
    (drawn : Nat) : UInt32 × Nat :=
  match strategy.delta baseDelayMs, randomFn with
  | some delta, some cb =>
    let span := satAdd32 (satMul32 delta 2) 1
    if span = 0 then (baseDelayMs, drawn + 1)
    else
      let offset : Int := (cb drawn % span).toNat - delta.toNat
      let jittered := baseDelayMs.toNat + offset
      (.ofNat (max jittered 0).toNat, drawn + 1)
  | _, _ => (baseDelayMs, drawn)

end JitterStrategy

/-! ### Bounds of the delays -/

namespace BackoffStrategy

/-- The delay on unbounded integers. The base delay doubles at most 31 times. -/
def exactDelay (strategy : BackoffStrategy) (attempt : Nat) : Nat :=
  match strategy with
  | .immediate => 0
  | .fixed delayMs => delayMs.toNat
  | .exponential baseDelayMs maxDelayMs =>
    min (baseDelayMs.toNat * 2 ^ min (attempt - 1) 31) maxDelayMs.toNat
  | .linear initialDelayMs incrementMs maxDelayMs =>
    min (initialDelayMs.toNat + incrementMs.toNat * (attempt - 1)) maxDelayMs.toNat

/-- The cap of a growing delay. -/
def cap : BackoffStrategy → Option UInt32
  | .exponential _ maxDelayMs => some maxDelayMs
  | .linear _ _ maxDelayMs => some maxDelayMs
  | _ => none

lemma exactDelay_mono (strategy : BackoffStrategy) {a b : Nat} (h : a ≤ b) :
    strategy.exactDelay a ≤ strategy.exactDelay b := by
  cases strategy with
  | immediate => exact Nat.le_refl _
  | fixed delayMs => exact Nat.le_refl _
  | exponential baseDelayMs maxDelayMs =>
    have hexp : min (a - 1) 31 ≤ min (b - 1) 31 := by omega
    have hgrow := Nat.mul_le_mul_left baseDelayMs.toNat (Nat.pow_le_pow_right Nat.two_pos hexp)
    simp only [exactDelay]
    omega
  | linear initialDelayMs incrementMs maxDelayMs =>
    have hgrow := Nat.mul_le_mul_left incrementMs.toNat (Nat.sub_le_sub_right h 1)
    simp only [exactDelay]
    omega

lemma satPred8_max_toNat (attempt : UInt8) : (satPred8 (max attempt 1)).toNat = attempt.toNat - 1 := by
  rw [satPred8_toNat]
  by_cases h : attempt ≤ 1
  · rw [show max attempt 1 = 1 from if_pos h]
    rw [UInt8.le_iff_toNat_le] at h
    change 1 - 1 = _
    change _ ≤ 1 at h
    omega
  · rw [show max attempt 1 = attempt from if_neg h]

/-- No sum, product or shift leaves the 32 bits unnoticed. -/
lemma delayMsForRetry_toNat (strategy : BackoffStrategy) (attempt : UInt8) :
    (strategy.delayMsForRetry attempt).toNat = strategy.exactDelay attempt.toNat := by
  cases strategy with
  | immediate => rfl
  | fixed delayMs => rfl
  | exponential baseDelayMs maxDelayMs =>
    have hshift : (min (satPred8 (max attempt 1)) 31).toNat = min (attempt.toNat - 1) 31 := by
      rw [toNat_min8, satPred8_max_toNat]
      rfl
    have hpow : 2 ^ min (attempt.toNat - 1) 31 < 2 ^ 32 :=
      Nat.pow_lt_pow_right (by decide) (by omega)
    have hfactor : ((1 : UInt32) <<< (min (satPred8 (max attempt 1)) 31).toUInt32).toNat =
        2 ^ min (attempt.toNat - 1) 31 := by
      have hmod : min (attempt.toNat - 1) 31 % 32 = min (attempt.toNat - 1) 31 :=
        Nat.mod_eq_of_lt (by omega)
      rw [UInt32.toNat_shiftLeft, UInt8.toNat_toUInt32, hshift, hmod, Nat.shiftLeft_eq]
      change 1 * _ % _ = _
      rw [Nat.one_mul, Nat.mod_eq_of_lt hpow]
    have hmax := maxDelayMs.toNat_lt
    simp only [delayMsForRetry, exactDelay, toNat_min32, satMul32_toNat, hfactor]
    omega
  | linear initialDelayMs incrementMs maxDelayMs =>
    have hmax := maxDelayMs.toNat_lt
    simp only [delayMsForRetry, exactDelay, toNat_min32, satMul32_toNat, satAdd32_toNat,
      UInt8.toNat_toUInt32, satPred8_max_toNat]
    omega

/-- The delays grow with the attempt, are what they are on unbounded integers and respect the
cap. -/
structure Bounded (strategy : BackoffStrategy) : Prop where
  mono : ∀ a b, a ≤ b → strategy.delayMsForRetry a ≤ strategy.delayMsForRetry b
  exact : ∀ attempt,
    (strategy.delayMsForRetry attempt).toNat = strategy.exactDelay attempt.toNat
  capped : ∀ maxDelayMs ∈ strategy.cap, ∀ attempt, strategy.delayMsForRetry attempt ≤ maxDelayMs

lemma bounded (strategy : BackoffStrategy) : strategy.Bounded where
  mono a b h := by
    rw [UInt32.le_iff_toNat_le, delayMsForRetry_toNat, delayMsForRetry_toNat]
    exact strategy.exactDelay_mono (UInt8.le_iff_toNat_le.mp h)
  exact := strategy.delayMsForRetry_toNat
  capped maxDelayMs hcap attempt := by
    rw [UInt32.le_iff_toNat_le, delayMsForRetry_toNat]
    cases strategy with
    | immediate => cases hcap
    | fixed delayMs => cases hcap
    | exponential baseDelayMs maxDelayMs' =>
      cases hcap
      exact Nat.min_le_right _ _
    | linear initialDelayMs incrementMs maxDelayMs' =>
      cases hcap
      exact Nat.min_le_right _ _

end BackoffStrategy

namespace JitterStrategy

/-- How far from the base delay the strategy may go. -/
def amplitude (strategy : JitterStrategy) (baseDelayMs : UInt32) : Nat :=
  match strategy with
  | .none => 0
  | .percentage percent => baseDelayMs.toNat * min percent.toNat 100 / 100
  | .boundedMs maxJitterMs => maxJitterMs.toNat

/-- How far above the base delay the random values lead. The percentage is taken of a product that
saturates, and a span that saturates cuts its upper half short. -/
def reach (strategy : JitterStrategy) (baseDelayMs : UInt32) : Nat :=
  match strategy with
  | .none => 0
  | .percentage percent => min (baseDelayMs.toNat * min percent.toNat 100) (2 ^ 32 - 1) / 100
  | .boundedMs maxJitterMs => min maxJitterMs.toNat (2 ^ 32 - 2 - maxJitterMs.toNat)

/-- The delay with its offset, before it is cast back. -/
def jittered (strategy : JitterStrategy) (baseDelayMs : UInt32) (randomFn : Option RetryRandomFn)
    (drawn : Nat) : Int :=
  match strategy.delta baseDelayMs, randomFn with
  | some delta, some cb =>
    baseDelayMs.toNat + ((cb drawn % satAdd32 (satMul32 delta 2) 1).toNat - delta.toNat)
  | _, _ => baseDelayMs.toNat

/-- With any random value the result keeps to the amplitude, from 0 on, and the cast loses
nothing. -/
def Bounded (strategy : JitterStrategy) (baseDelayMs : UInt32) : Prop :=
  ∀ randomFn drawn,
    baseDelayMs.toNat - strategy.amplitude baseDelayMs ≤
        (strategy.apply baseDelayMs randomFn drawn).1.toNat ∧
      (strategy.apply baseDelayMs randomFn drawn).1.toNat ≤
        baseDelayMs.toNat + strategy.amplitude baseDelayMs ∧
      (strategy.apply baseDelayMs randomFn drawn).1.toNat =
        max (strategy.jittered baseDelayMs randomFn drawn) 0

variable {strategy : JitterStrategy} {baseDelayMs : UInt32} {delta : UInt32}

/-- No strategy goes further than its amplitude, and the highest random value reaches furthest. -/
lemma delta_bounds (h : strategy.delta baseDelayMs = some delta) :
    delta.toNat ≤ strategy.amplitude baseDelayMs ∧
      strategy.reach baseDelayMs = min delta.toNat (2 ^ 32 - 2 - delta.toNat) := by
  cases strategy with
  | none => cases h
  | percentage percent =>
    rw [JitterStrategy.delta] at h
    split at h
    · cases h
    · cases h
      have hpercent : (min percent 100).toUInt32.toNat = min percent.toNat 100 := by
        rw [UInt8.toNat_toUInt32, toNat_min8]
        rfl
      simp only [amplitude, reach, UInt32.toNat_div, satMul32_toNat, hpercent]
      change _ / 100 ≤ _ ∧ _ = min (_ / 100) (_ - _ / 100)
      omega
  | boundedMs maxJitterMs =>
    rw [JitterStrategy.delta] at h
    split at h
    · cases h
    · cases h
      exact ⟨Nat.le_refl _, rfl⟩

lemma reach_of_delta_none (h : strategy.delta baseDelayMs = Option.none) :
    strategy.reach baseDelayMs = 0 := by
  cases strategy with
  | none => rfl
  | percentage percent =>
    rw [JitterStrategy.delta] at h
    split at h
    next hzero =>
      rw [Bool.or_eq_true, decide_eq_true_iff, decide_eq_true_iff] at hzero
      obtain rfl | rfl := hzero
      · simp [reach]
      · simp [reach]
    next => cases h
  | boundedMs maxJitterMs =>
    rw [JitterStrategy.delta] at h
    split at h
    next hzero => simp [reach, hzero]
    next => cases h

/-- The span is the number of offsets, unless it saturates. -/
lemma span_toNat (delta : UInt32) : (satAdd32 (satMul32 delta 2) 1).toNat =
    min (2 * delta.toNat + 1) (2 ^ 32 - 1) := by
  rw [satAdd32_toNat, satMul32_toNat]
  change min (min (_ * 2) _ + 1) _ = _
  omega

lemma apply_eq (randomFn : Option RetryRandomFn) (drawn : Nat) :
    (strategy.apply baseDelayMs randomFn drawn).1 =
      .ofNat (max (strategy.jittered baseDelayMs randomFn drawn) 0).toNat := by
  have hbase : baseDelayMs = .ofNat (max (baseDelayMs.toNat : Int) 0).toNat := by
    rw [Int.max_eq_left (Int.natCast_nonneg _), Int.toNat_natCast, UInt32.ofNat_toNat]
  cases hdelta : strategy.delta baseDelayMs with
  | none =>
    simp only [apply, jittered, hdelta]
    exact hbase
  | some delta =>
    cases randomFn with
    | none =>
      simp only [apply, jittered, hdelta]
      exact hbase
    | some cb =>
      have hspan : satAdd32 (satMul32 delta 2) 1 ≠ 0 := by
        intro h
        have hzero := span_toNat delta
        rw [h] at hzero
        change 0 = _ at hzero
        omega
      simp only [apply, jittered, hdelta, if_neg hspan]

end JitterStrategy

/-- **Bounds of the retry delays.** Delays grow with the attempt up to their cap, and jitter keeps
to its amplitude, exactly when base delay and reach together fit into 32 bits. -/
theorem retryDelays_bounded_iff (backoff : BackoffStrategy) (jitter : JitterStrategy)
    (baseDelayMs : UInt32) :
    backoff.Bounded ∧ jitter.Bounded baseDelayMs ↔
      baseDelayMs.toNat + jitter.reach baseDelayMs < 2 ^ 32 := by
  rw [and_iff_right backoff.bounded]
  cases hdelta : jitter.delta baseDelayMs with
  | none =>
    rw [jitter.reach_of_delta_none hdelta]
    refine iff_of_true (fun randomFn drawn => ?_) baseDelayMs.toNat_lt
    have hjittered : jitter.jittered baseDelayMs randomFn drawn = baseDelayMs.toNat := by
      simp only [JitterStrategy.jittered, hdelta]
    rw [JitterStrategy.apply_eq, hjittered, Int.max_eq_left (Int.natCast_nonneg _),
      Int.toNat_natCast, UInt32.ofNat_toNat]
    exact ⟨Nat.sub_le _ _, Nat.le_add_right _ _, rfl⟩
  | some delta =>
    obtain ⟨hamplitude, hreach⟩ := JitterStrategy.delta_bounds hdelta
    have hspan := JitterStrategy.span_toNat delta
    have hlt := delta.toNat_lt
    have hbase := baseDelayMs.toNat_lt
    constructor
    · intro h
      -- the highest random value of the span
      obtain ⟨-, -, hcast⟩ := h (some fun _ => satAdd32 (satMul32 delta 2) 1 - 1) 0
      have hvalue : ((satAdd32 (satMul32 delta 2) 1 - 1) % satAdd32 (satMul32 delta 2) 1).toNat =
          min (2 * delta.toNat + 1) (2 ^ 32 - 1) - 1 := by
        have hone : (1 : UInt32) ≤ satAdd32 (satMul32 delta 2) 1 := by
          rw [UInt32.le_iff_toNat_le, hspan]
          change 1 ≤ _
          omega
        rw [UInt32.toNat_mod, UInt32.toNat_sub_of_le _ _ hone, hspan]
        exact Nat.mod_eq_of_lt (by change _ - 1 < _; omega)
      have hresult := (jitter.apply baseDelayMs
        (some fun _ => satAdd32 (satMul32 delta 2) 1 - 1) 0).1.toNat_lt
      simp only [JitterStrategy.jittered, hdelta, hvalue] at hcast
      omega
    · intro h randomFn drawn
      have hle : jitter.jittered baseDelayMs randomFn drawn ≤
            baseDelayMs.toNat + jitter.reach baseDelayMs ∧
          (baseDelayMs.toNat : Int) - delta.toNat ≤
            jitter.jittered baseDelayMs randomFn drawn := by
        cases randomFn with
        | none =>
          simp only [JitterStrategy.jittered, hdelta]
          omega
        | some cb =>
          have hmod : (cb drawn % satAdd32 (satMul32 delta 2) 1).toNat <
              min (2 * delta.toNat + 1) (2 ^ 32 - 1) := by
            rw [UInt32.toNat_mod, ← hspan]
            exact Nat.mod_lt _ (by omega)
          simp only [JitterStrategy.jittered, hdelta]
          omega
      rw [JitterStrategy.apply_eq, UInt32.toNat_ofNat_of_lt' (by
        change _ < 2 ^ 32
        omega)]
      have hle' : jitter.reach baseDelayMs ≤ delta.toNat := by
        rw [hreach]
        exact Nat.min_le_left _ _
      omega

/-- One millisecond of jitter on the longest delay. -/
theorem retryDelays_wrap : ¬∀ (backoff : BackoffStrategy) (jitter : JitterStrategy)
    (baseDelayMs : UInt32), backoff.Bounded ∧ jitter.Bounded baseDelayMs := by
  intro h
  have hfits := (retryDelays_bounded_iff .immediate (.boundedMs 1) 0xFFFFFFFF).mp
    (h .immediate (.boundedMs 1) 0xFFFFFFFF)
  exact absurd hfits (by decide)

end ModbusRs
