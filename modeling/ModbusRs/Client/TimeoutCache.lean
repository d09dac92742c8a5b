import ModbusRs.Client.Moves

/-!
# The timeout cache

`next_timeout_check` lets `handle_timeouts` skip its scan. The cache is sound if it is not later
than the time at which any request has to be looked at. A scan restores it, but a new request does
not, so that the cached time of an older request can hide the deadline of a newer one.
-/

namespace ModbusRs

open Outcome

/-- The response deadline of a request, or the time of its scheduled retry. -/
def ExpectedResponse.dueAt [Features] {τ : Type} (setup : ClientSetup τ)
    (response : ExpectedResponse) : UInt64 :=
  response.nextRetryTimestamp.getD (satAdd64 response.sentTimestamp setup.responseTimeoutMs)

section

variable [Features] {τ : Type} {setup : ClientSetup τ} {response : ExpectedResponse}

lemma ExpectedResponse.dueAt_retry {retryAt : UInt64}
    (h : response.nextRetryTimestamp = some retryAt) : response.dueAt setup = retryAt := by
  rw [dueAt, h]
  rfl

lemma ExpectedResponse.dueAt_waiting (h : response.nextRetryTimestamp = none) :
    response.dueAt setup = satAdd64 response.sentTimestamp setup.responseTimeoutMs := by
  rw [dueAt, h]
  rfl

end

namespace ClientServices

variable [Features] {n : Nat} {τ : Type} (setup : ClientSetup τ) (s : ClientServices n τ)

/-- The cached time is not later than the earliest deadline or retry. -/
def CacheSound : Prop :=
  ∀ checkAt, s.nextTimeoutCheck = some checkAt →
    ∀ response ∈ s.expectedResponses.toList, checkAt ≤ response.dueAt setup

/-- The client but for its cached time. -/
def uncached : ClientServices n τ := { s with nextTimeoutCheck := none }

/-- At every time `handle_timeouts` does what the full scan would do. -/
def ActsAsScan : Prop :=
  ∀ now, (s.handleTimeouts setup now).uncached = (s.scanTimeouts setup now).uncached

/-- A request that is added to the expectations is not due before the cached time. -/
def QueuedInTime (action : SyncClientAction τ) (s : ClientServices n τ) : Prop :=
  match action with
  | .submit call txnId unit now =>
    unit.isBroadcast = false → s.expectedResponses.toList.length < n →
      (∃ frame, call.buildFrame txnId unit.get setup.transport.transportType = .ok frame) →
      ∀ checkAt, s.nextTimeoutCheck = some checkAt → checkAt ≤ satAdd64 now setup.responseTimeoutMs
  | _ => True

end ClientServices

namespace TimeoutScan

variable [Features] {n : Nat} {τ : Type} {setup : ClientSetup τ} {now : UInt64}
  {scan scan' : TimeoutScan n τ}

/-- `new_next_check` is not later than any entry before the index is due. -/
def Sound (setup : ClientSetup τ) (scan : TimeoutScan n τ) : Prop :=
  ∀ response ∈ scan.client.expectedResponses.toList.take scan.i,
    scan.newNextCheck ≤ response.dueAt setup

lemma watch_le (time : UInt64) :
    (scan.watch time).newNextCheck ≤ time ∧
      (scan.watch time).newNextCheck ≤ scan.newNextCheck := by
  change (if _ then _ else _) ≤ _ ∧ (if _ then _ else _) ≤ _
  split
  next h => exact ⟨UInt64.le_refl _, UInt64.le_of_lt h⟩
  next h => exact ⟨UInt64.not_lt.mp h, UInt64.le_refl _⟩

/-- The index stays, and so do the entries before it. -/
lemma Sound.of_same (h : Sound setup scan) (hi : scan'.i = scan.i)
    (hcheck : scan'.newNextCheck = scan.newNextCheck)
    (htake : scan'.client.expectedResponses.toList.take scan.i =
      scan.client.expectedResponses.toList.take scan.i) : Sound setup scan' := by
  unfold Sound
  rw [hi, hcheck, htake]
  exact h

/-- The index passes an entry whose time is watched. -/
lemma Sound.of_watched {entry : ExpectedResponse} (h : Sound setup scan) (hi : scan'.i = scan.i + 1)
    (hcheck : scan'.newNextCheck ≤ scan.newNextCheck)
    (htake : scan'.client.expectedResponses.toList.take scan.i =
      scan.client.expectedResponses.toList.take scan.i)
    (hentry : scan'.client.expectedResponses.toList[scan.i]? = some entry)
    (hwatched : scan'.newNextCheck ≤ entry.dueAt setup) : Sound setup scan' := by
  intro response hresponse
  rw [hi, List.take_add_one, hentry, htake, Option.toList_some, List.mem_append,
    List.mem_singleton] at hresponse
  rcases hresponse with hbefore | rfl
  · exact UInt64.le_trans hcheck (h response hbefore)
  · exact hwatched

lemma Round.sound (h : Round setup now scan scan') (hscan : Sound setup scan) :
    Sound setup scan' := by
  have hset {entry entry' : ExpectedResponse}
      (hentry : scan.client.expectedResponses.toList[scan.i]? = some entry) :
      (scan.client.expectedResponses.toList.set scan.i entry').take scan.i =
          scan.client.expectedResponses.toList.take scan.i ∧
        (scan.client.expectedResponses.toList.set scan.i entry')[scan.i]? = some entry' :=
    ⟨List.take_set_of_le (Nat.le_refl _),
      List.getElem?_set_self (List.getElem?_eq_some_iff.mp hentry).1⟩
  cases h with
  | notDue hentry hretry hnow =>
    refine hscan.of_watched rfl (watch_le _).2 rfl hentry ?_
    rw [ExpectedResponse.dueAt_retry hretry]
    exact (watch_le _).1
  | resent hentry hretry hnow hsend =>
    obtain rfl := congrArg Prod.snd hsend
    exact hscan.of_watched rfl (watch_le _).2 (hset hentry).1 (hset hentry).2 (watch_le _).1
  | unsent hentry hretry hnow hsend hremove =>
    exact hscan.of_same rfl rfl (HVec.take_swapRemove hremove)
  | waiting hentry hretry hnow =>
    refine hscan.of_watched rfl (watch_le _).2 rfl hentry ?_
    rw [ExpectedResponse.dueAt_waiting hretry]
    exact (watch_le _).1
  | exhausted hentry hretry hnow hleft hremove =>
    exact hscan.of_same rfl rfl (HVec.take_swapRemove hremove)
  | scheduled drawn hentry hretry hnow hleft hchosen =>
    exact hscan.of_watched rfl (watch_le _).2 (hset hentry).1 (hset hentry).2 (watch_le _).1
  | scheduledNow drawn hentry hretry hnow hleft hchosen =>
    exact hscan.of_same rfl rfl (hset hentry).1

/-- A round does nothing to a client none of whose requests are due. -/
lemma Round.client_eq (h : Round setup now scan scan')
    (hdue : ∀ response ∈ scan.client.expectedResponses.toList, now < response.dueAt setup) :
    scan'.client = scan.client := by
  have hretried {entry : ExpectedResponse} {retryAt : UInt64}
      (hentry : scan.client.expectedResponses.toList[scan.i]? = some entry)
      (hretry : entry.nextRetryTimestamp = some retryAt) : ¬retryAt ≤ now := by
    have hlt := hdue entry (List.mem_of_getElem? hentry)
    rw [ExpectedResponse.dueAt_retry hretry] at hlt
    exact UInt64.not_le.mpr hlt
  have hwaiting {entry : ExpectedResponse}
      (hentry : scan.client.expectedResponses.toList[scan.i]? = some entry)
      (hretry : entry.nextRetryTimestamp = none) :
      ¬satAdd64 entry.sentTimestamp setup.responseTimeoutMs < now := by
    have hlt := hdue entry (List.mem_of_getElem? hentry)
    rw [ExpectedResponse.dueAt_waiting hretry] at hlt
    exact UInt64.lt_asymm hlt
  cases h with
  | notDue | waiting => rfl
  | resent hentry hretry hnow => exact absurd hnow (hretried hentry hretry)
  | unsent hentry hretry hnow => exact absurd hnow (hretried hentry hretry)
  | exhausted hentry hretry hnow => exact absurd hnow (hwaiting hentry hretry)
  | scheduled _ hentry hretry hnow => exact absurd hnow (hwaiting hentry hretry)
  | scheduledNow _ hentry hretry hnow => exact absurd hnow (hwaiting hentry hretry)

lemma round_eq_none (h : scan.round setup now = none) :
    scan.client.expectedResponses.toList.length ≤ scan.i := by
  unfold round at h
  split at h
  next hentry => exact List.getElem?_eq_none_iff.mp hentry
  next => split at h <;> cases h

end TimeoutScan

namespace ClientServices

variable [Features] {n : Nat} {τ : Type} {setup : ClientSetup τ} {s : ClientServices n τ}
  {now : UInt64}

/-- A scan restores the cache. -/
lemma cacheSound_scanTimeouts : (s.scanTimeouts setup now).CacheSound setup := by
  let start : TimeoutScan n τ := ⟨s, 0, u64Max⟩
  have hstart : start.Sound setup := fun _ hresponse => nomatch hresponse
  have hround (scan scan' : TimeoutScan n τ)
      (hbody : (TimeoutScan.loop setup now).body scan = some scan') (hscan : scan.Sound setup) :
      scan'.Sound setup :=
    (TimeoutScan.round_eq_some hbody).sound hscan
  obtain ⟨hsound, hdone⟩ := Loop.finish_invariant hround hstart
  intro checkAt hcheck response hresponse
  unfold scanTimeouts at hcheck hresponse
  dsimp only at hcheck hresponse
  split at hcheck
  · cases hcheck
    refine hsound response ?_
    rwa [List.take_of_length_le (TimeoutScan.round_eq_none hdone)]
  · cases hcheck

/-- A scan of requests none of which is due does nothing. -/
lemma scanTimeouts_of_waiting
    (hdue : ∀ response ∈ s.expectedResponses.toList, now < response.dueAt setup) :
    (s.scanTimeouts setup now).uncached = s.uncached := by
  let start : TimeoutScan n τ := ⟨s, 0, u64Max⟩
  have hround (scan scan' : TimeoutScan n τ)
      (hbody : (TimeoutScan.loop setup now).body scan = some scan') (hscan : scan.client = s) :
      scan'.client = s := by
    have hround := TimeoutScan.round_eq_some hbody
    rw [hround.client_eq (by rwa [hscan]), hscan]
  have hclient : ((TimeoutScan.loop setup now).finish start).client = s :=
    (Loop.finish_invariant hround rfl).1
  change ((TimeoutScan.loop setup now).finish start).client.uncached = s.uncached
  rw [hclient]

/-- With a sound cache the early exit skips only scans that would do nothing. -/
lemma CacheSound.actsAsScan (h : s.CacheSound setup) : s.ActsAsScan setup := by
  intro now
  unfold handleTimeouts
  split
  next hempty =>
    have hnone (response : ExpectedResponse) (hresponse : response ∈ s.expectedResponses.toList) :
        now < response.dueAt setup := by
      rw [List.isEmpty_iff.mp hempty] at hresponse
      cases hresponse
    exact (scanTimeouts_of_waiting hnone).symm
  next =>
    split
    next checkAt hcheck =>
      split
      next hnow =>
        refine (scanTimeouts_of_waiting fun response hresponse => ?_).symm
        exact UInt64.lt_of_lt_of_le hnow (h checkAt hcheck response hresponse)
      next => rfl
    next => rfl

lemma CacheSound.handleTimeouts (h : s.CacheSound setup) :
    (s.handleTimeouts setup now).CacheSound setup := by
  unfold ClientServices.handleTimeouts
  split
  · exact nofun
  · split
    · split
      · exact h
      · exact cacheSound_scanTimeouts
    · exact cacheSound_scanTimeouts

end ClientServices

namespace ClientM

open ClientServices

variable [Features] {n : Nat} {τ : Type} {setup : ClientSetup τ} {s : ClientServices n τ}

/-- Requests that end leave the cache sound. -/
lemma allows_cacheSound : Allows fun s s' : ClientServices n τ =>
    s.CacheSound setup → s'.CacheSound setup where
  refl _ := id
  trans _ _ _ h h' := h' ∘ h
  buffers _ _ _ _ := id
  answered _ _ _ _ _ hremove h checkAt hcheck response hresponse :=
    h checkAt hcheck response (HVec.mem_of_mem_swapRemove hremove (.inr hresponse))
  lost _ _ _ := nofun

/-- An action leaves a sound cache sound if and only if it adds no request that is due before the
cached time. -/
theorem cacheSound_perform_iff (h : s.CacheSound setup) (action : SyncClientAction τ) :
    (perform setup action s).CacheSound setup ↔ QueuedInTime setup action s := by
  cases action with
  | submit call txnId unit now =>
    have hsubmit := submission_submit setup call txnId unit now s
    change CacheSound setup ((submit setup call txnId unit now).run s).2 ↔ _
    generalize (submit setup call txnId unit now).run s = ended at hsubmit ⊢
    obtain ⟨result, s'⟩ := ended
    cases hsubmit with
    | refused hresult hrefused =>
      refine iff_of_true h fun hunit hroom hframe => ?_
      rcases hrefused with hbroadcast | hfull | hbuild
      · rw [hunit] at hbroadcast
        cases hbroadcast
      · exact absurd hfull (Nat.not_le_of_lt hroom)
      · exact absurd hframe (fun ⟨frame, hframe⟩ => hbuild frame hframe)
    | broadcast hunit =>
      refine iff_of_true h fun hunit' => ?_
      rw [hunit] at hunit'
      cases hunit'
    | @queued frame responses hunit hframe hresponses =>
      have hmem (response : ExpectedResponse) : response ∈ responses.toList ↔
          response ∈ s.expectedResponses.toList ∨
            response = expectation setup s.requested call txnId unit frame now := by
        rw [hresponses, List.mem_append, List.mem_singleton]
      constructor
      · intro hsound _ _ _ checkAt hcheck
        exact hsound checkAt hcheck _ ((hmem _).mpr (.inr rfl))
      · intro hintime checkAt hcheck response hresponse
        rcases (hmem response).mp hresponse with hresponse | rfl
        · exact h checkAt hcheck response hresponse
        · refine hintime hunit ?_ ⟨frame, hframe⟩ checkAt hcheck
          have hle := responses.length_le
          rw [hresponses, List.length_append] at hle
          exact hle
  | poll now => exact iff_of_true (allows_cacheSound.poll now (fun s h => h.handleTimeouts) s h) trivial
  | _ => exact iff_of_true (allows_cacheSound.perform s (fun _ _ _ _ h => nomatch h)
      (fun _ h => nomatch h) h) trivial

/-- While every new request is added in time, the cache is sound, and `handle_timeouts` does what
a full scan would do. -/
theorem cacheSound_of_queuedInTime {s₀ : ClientServices n τ} {link : Link τ}
    (hnew : ClientServices.new setup link = .ok s₀)
    (hrun : Runs.RunWhen (QueuedInTime setup) (perform setup) s₀ s) :
    s.CacheSound setup ∧ s.ActsAsScan setup := by
  have hstart : s₀.CacheSound setup := by
    unfold ClientServices.new at hnew
    split at hnew
    · cases hnew
    · cases hnew
      exact nofun
  have hsound := hrun.invariant (P := fun s => s.CacheSound setup)
    (fun action s hintime h => (cacheSound_perform_iff h action).mpr hintime) hstart
  exact ⟨hsound, hsound.actsAsScan⟩

omit [Features] in
/-- A request that is added after the scan that watches an older one. -/
theorem cacheSound_of_queuedInTime_later :
    letI : Features := Features.minimal
    let setup : ClientSetup Unit := ⟨.silent .stdTcp, ⟨10, 1, .fixed 1000, .none, none⟩⟩
    let s₀ : ClientServices 2 Unit := ⟨⟨(), []⟩, .empty, .empty, none, 0, 0, []⟩
    let s := [SyncClientAction.submit (.readMultipleCoils 0 1) 1 (.fromU8 1) 0, .poll 0,
      .submit (.readMultipleCoils 0 1) 2 (.fromU8 1) 5].foldl
        (fun s action => perform setup action s) s₀
    s.CacheSound setup ∧ s.ActsAsScan setup := by
  let _ := Features.minimal
  intro setup s₀ s
  have hnew : ClientServices.new setup ⟨(), []⟩ = .ok s₀ := rfl
  refine cacheSound_of_queuedInTime hnew (Runs.RunWhen.foldl ⟨?_, trivial, ?_, trivial⟩)
  · exact fun _ _ _ => nofun
  · intro _ _ _ checkAt hcheck
    have hten : (perform setup (.poll 0) (perform setup
        (.submit (.readMultipleCoils 0 1) 1 (.fromU8 1) 0) s₀)).nextTimeoutCheck = some 10 := by
      decide +kernel
    rw [hten] at hcheck
    cases hcheck
    decide

omit [Features] in
/-- A long back-off hides the deadline of a request that is added later. -/
theorem cacheSound_backoff :
    ¬∀ [Features] (n : Nat) (τ : Type) (setup : ClientSetup τ) (s : ClientServices n τ),
      Reachable setup s → s.CacheSound setup ∧ s.ActsAsScan setup := by
  intro h
  let _ := Features.minimal
  let setup : ClientSetup Unit := ⟨.silent .stdTcp, ⟨10, 1, .fixed 1000, .none, none⟩⟩
  let s₀ : ClientServices 2 Unit := ⟨⟨(), []⟩, .empty, .empty, none, 0, 0, []⟩
  let s := [SyncClientAction.submit (.readMultipleCoils 0 1) 1 (.fromU8 1) 0, .poll 0, .poll 20,
    .submit (.readMultipleCoils 0 1) 2 (.fromU8 1) 30].foldl
      (fun s action => perform setup action s) s₀
  have hs := h 2 Unit setup s ⟨s₀, ⟨⟨(), []⟩, rfl⟩, Runs.Run.foldl _ s₀⟩
  -- the retry of the first request is cached, and the second one is overdue before it
  have hskip : (s.handleTimeouts setup 50).uncached.events.length = 3 := by decide +kernel
  have hscan : (s.scanTimeouts setup 50).uncached.events.length = 4 := by decide +kernel
  rw [hs.2 50, hscan] at hskip
  cases hskip

end ClientM

end ModbusRs
