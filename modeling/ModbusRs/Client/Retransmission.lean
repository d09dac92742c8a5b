import ModbusRs.Client.Moves
import ModbusRs.Library.Lists

/-!
# Bounded retransmission

The history of a request is the list of its transmissions and the list of the delays chosen for
its retries. A request that awaits a response knows where its history stands, so that every
further transmission is counted and comes late enough.
-/

namespace ModbusRs

open Outcome Book

/-- The frames sent for a request, with the times at which they were sent. -/
def transmissions (serial : Nat) (events : List ClientEvent) : List (List UInt8 × UInt64) :=
  events.filterMap fun
    | .sent serial' adu now => if serial' = serial then some (adu, now) else none
    | _ => none

/-- The delays chosen for the retries of a request. -/
def delays (serial : Nat) (events : List ClientEvent) : List UInt32 :=
  events.filterMap fun
    | .scheduled serial' delayMs _ => if serial' = serial then some delayMs else none
    | _ => none

/-! ### Histories -/

section History

variable [Features] {τ : Type} (setup : ClientSetup τ)

/-- The time from which a frame sent at `sentAt` may be sent again after the delay: `u64::MAX`,
if the sum is larger. -/
def resendFrom (sentAt : UInt64) (delayMs : UInt32) : Nat :=
  min (sentAt.toNat + setup.responseTimeoutMs.toNat + delayMs.toNat) (2 ^ 64 - 1)

/-- A history of the same frame, sent no more often than the attempts allow and never before its
timeout and the delay chosen for the attempt have passed. -/
structure Paced (sent : List (List UInt8 × UInt64)) (chosen : List UInt32) : Prop where
  same : ∃ adu, ∀ transmission ∈ sent, transmission.1 = adu
  bounded : sent.length ≤ 1 + setup.config.retryAttempts.toNat
  chooses : ∀ j delayMs, chosen[j]? = some delayMs →
    setup.config.Chooses (.ofNat (j + 1)) delayMs
  spaced : ∀ j first second, sent[j]? = some first → sent[j + 1]? = some second →
    ∃ delayMs, chosen[j]? = some delayMs ∧ resendFrom setup first.2 delayMs ≤ second.2.toNat

/-- What a request that awaits a response knows of its history. -/
structure Recorded (response : ExpectedResponse) (sent : List (List UInt8 × UInt64))
    (chosen : List UInt32) : Prop where
  frame : ∀ transmission ∈ sent, transmission.1 = response.originalAdu.toList
  left : sent.length + response.retriesLeft.toNat = 1 + setup.config.retryAttempts.toNat
  index : sent.length = 1 + response.retryAttemptIndex.toNat
  last : sent.getLast?.map Prod.snd = some response.sentTimestamp
  waiting : response.nextRetryTimestamp = none → chosen.length + 1 = sent.length
  retrying : ∀ retryAt, response.nextRetryTimestamp = some retryAt →
    response.retriesLeft ≠ 0 ∧ chosen.length = sent.length ∧
      ∃ delayMs, chosen.getLast? = some delayMs ∧
        resendFrom setup response.sentTimestamp delayMs ≤ retryAt.toNat

variable {setup} {response : ExpectedResponse} {sent : List (List UInt8 × UInt64)}
  {chosen : List UInt32} {now : UInt64}

lemma paced_nil : Paced setup [] [] where
  same := ⟨[], nofun⟩
  bounded := Nat.zero_le _
  chooses _ _ := nofun
  spaced _ _ _ := nofun

lemma paced_singleton (adu : List UInt8) (now : UInt64) : Paced setup [(adu, now)] [] where
  same := ⟨adu, fun _ hmem => by rw [List.mem_singleton.mp hmem]⟩
  bounded := Nat.le_add_right 1 _
  chooses _ _ := nofun
  spaced _ _ _ _ := nofun

/-- A request that has just been added to the expectations. -/
lemma recorded_queued (hretries : response.retriesLeft = setup.config.retryAttempts)
    (hindex : response.retryAttemptIndex = 0) (hnext : response.nextRetryTimestamp = none) :
    Recorded setup response [(response.originalAdu.toList, response.sentTimestamp)] [] where
  frame _ hmem := by rw [List.mem_singleton.mp hmem]
  left := by rw [hretries, List.length_singleton]
  index := by
    rw [hindex]
    rfl
  last := rfl
  waiting _ := rfl
  retrying retryAt hretry := by
    rw [hnext] at hretry
    cases hretry

/-- A retry that is scheduled extends the delays. -/
lemma Recorded.schedule (h : Recorded setup response sent chosen) (hpaced : Paced setup sent chosen)
    {delayMs : UInt32} (hnext : response.nextRetryTimestamp = none)
    (hnow : satAdd64 response.sentTimestamp setup.responseTimeoutMs < now)
    (hleft : response.retriesLeft ≠ 0)
    (hchosen : setup.config.Chooses (satSucc8 response.retryAttemptIndex) delayMs) :
    Recorded setup { response with
      nextRetryTimestamp := some (satAdd64 now delayMs.toUInt64) } sent (chosen ++ [delayMs]) ∧
      Paced setup sent (chosen ++ [delayMs]) := by
  have hlen := h.waiting hnext
  refine ⟨⟨h.frame, h.left, h.index, h.last, nofun, ?_⟩, hpaced.same, hpaced.bounded, ?_, ?_⟩
  · rintro _ ⟨⟩
    refine ⟨hleft, by rw [List.length_append, List.length_singleton, hlen], delayMs,
      List.getLast?_concat, ?_⟩
    rw [UInt64.lt_iff_toNat_lt, satAdd64_toNat] at hnow
    have hmax := now.toNat_lt
    rw [resendFrom, satAdd64_toNat, UInt32.toNat_toUInt64]
    dsimp only
    omega
  · intro j d hd
    rcases List.getElem?_concat_eq_some hd with hd | ⟨rfl, rfl⟩
    · exact hpaced.chooses j d hd
    · have hpos : response.retriesLeft.toNat ≠ 0 := fun h0 => hleft (UInt8.toNat_inj.mp h0)
      have hattempts := setup.config.retryAttempts.toNat_lt
      have hcount := h.left
      have hindex := h.index
      rw [satSucc8_of_lt (by omega)] at hchosen
      rwa [show chosen.length = response.retryAttemptIndex.toNat by omega]
  · intro j first second hfirst hsecond
    obtain ⟨d, hd, hle⟩ := hpaced.spaced j first second hfirst hsecond
    exact ⟨d, List.getElem?_append_left (List.getElem?_eq_some_iff.mp hd).1 ▸ hd, hle⟩

/-- A retry that is sent extends the transmissions. -/
lemma Recorded.resend (h : Recorded setup response sent chosen) (hpaced : Paced setup sent chosen)
    {retryAt : UInt64} (hnext : response.nextRetryTimestamp = some retryAt)
    (hnow : retryAt ≤ now) :
    Recorded setup (response.retried now) (sent ++ [(response.originalAdu.toList, now)]) chosen ∧
      Paced setup (sent ++ [(response.originalAdu.toList, now)]) chosen := by
  obtain ⟨hleft, hlen, delayMs, hlast, hfrom⟩ := h.retrying retryAt hnext
  have hpos : response.retriesLeft.toNat ≠ 0 := fun h0 => hleft (UInt8.toNat_inj.mp h0)
  have hattempts := setup.config.retryAttempts.toNat_lt
  have hcount := h.left
  have hindex := h.index
  have hframe : ∀ transmission ∈ sent ++ [(response.originalAdu.toList, now)],
      transmission.1 = response.originalAdu.toList := by
    intro transmission hmem
    rcases List.mem_append.mp hmem with hmem | hmem
    · exact h.frame transmission hmem
    · rw [List.mem_singleton.mp hmem]
  have hmore : (sent ++ [(response.originalAdu.toList, now)]).length = sent.length + 1 :=
    List.length_append
  refine ⟨⟨hframe, ?_, ?_, ?_, ?_, nofun⟩, ⟨_, hframe⟩, ?_, hpaced.chooses, ?_⟩
  · rw [hmore, ExpectedResponse.retried, satPred8_toNat]
    omega
  · rw [hmore, ExpectedResponse.retried, satSucc8_of_lt (by omega), UInt8.toNat_ofNat']
    omega
  · rw [List.getLast?_concat]
    rfl
  · intro _
    rw [hmore, hlen]
  · rw [hmore]
    omega
  · intro j first second hfirst hsecond
    rcases List.getElem?_concat_eq_some hsecond with hsecond | ⟨hj, rfl⟩
    · have hj := (List.getElem?_eq_some_iff.mp hsecond).1
      rw [List.getElem?_append_left (by omega)] at hfirst
      exact hpaced.spaced j first second hfirst hsecond
    · rw [List.getElem?_append_left (by omega)] at hfirst
      rw [List.getLast?_eq_getElem?] at hlast
      refine ⟨delayMs, by rwa [show j = chosen.length - 1 by omega], ?_⟩
      have htime : first.2 = response.sentTimestamp := by
        have hlast := h.last
        rw [List.getLast?_eq_getElem?, show sent.length - 1 = j by omega, hfirst] at hlast
        exact Option.some.inj hlast
      rw [htime]
      exact Nat.le_trans hfrom (UInt64.le_iff_toNat_le.mp hnow)

end History

/-! ### Events -/

section Events

variable (serial serial' : Nat) (events later : List ClientEvent)

@[simp] lemma transmissions_append :
    transmissions serial (events ++ later) =
      transmissions serial events ++ transmissions serial later :=
  List.filterMap_append

@[simp] lemma delays_append :
    delays serial (events ++ later) = delays serial events ++ delays serial later :=
  List.filterMap_append

variable {serial later}

/-- Events about other requests are no part of the history. -/
lemma history_of_ne (h : ∀ event ∈ later, event.serial ≠ serial) :
    transmissions serial later = [] ∧ delays serial later = [] := by
  constructor
  · refine List.filterMap_eq_nil_iff.mpr fun event hevent => ?_
    cases event with
    | sent serial' adu now => exact if_neg (h _ hevent)
    | scheduled | reported => rfl
  · refine List.filterMap_eq_nil_iff.mpr fun event hevent => ?_
    cases event with
    | scheduled serial' delayMs now => exact if_neg (h _ hevent)
    | sent | reported => rfl

@[simp] lemma transmissions_sent (adu : List UInt8) (now : UInt64) :
    transmissions serial [.sent serial adu now] = [(adu, now)] := by
  simp [transmissions]

@[simp] lemma delays_sent (adu : List UInt8) (now : UInt64) :
    delays serial [.sent serial' adu now] = [] := rfl

@[simp] lemma transmissions_scheduled (delayMs : UInt32) (now : UInt64) :
    transmissions serial [.scheduled serial' delayMs now] = [] := rfl

@[simp] lemma delays_scheduled (delayMs : UInt32) (now : UInt64) :
    delays serial [.scheduled serial delayMs now] = [delayMs] := by
  simp [delays]

lemma history_reports [Features] (response : ExpectedResponse)
    (callback : Option (UnitIdOrSlaveAddr × ResponseCallback)) :
    transmissions serial (reports response callback) = [] ∧
      delays serial (reports response callback) = [] := by
  cases callback <;> exact ⟨rfl, rfl⟩

end Events

namespace Book

variable [Features] {τ : Type} {setup : ClientSetup τ} {b b' : Book}

/-- Every history is paced, and the pending requests know theirs. -/
structure Regular (setup : ClientSetup τ) (b : Book) : Prop where
  numbered : b.Numbered
  known : ∀ event ∈ b.events, event.serial < b.requested
  paced : ∀ serial, Paced setup (transmissions serial b.events) (delays serial b.events)
  recorded : ∀ response ∈ b.pending,
    Recorded setup response (transmissions response.serial b.events)
      (delays response.serial b.events)

/-- A move that adds events about one request: its history has to be checked, and the other
pending requests stay. -/
lemma Regular.of_later (h : b.Regular setup) (hmove : Move setup b b') (serial : Nat)
    {later : List ClientEvent} (hevents : b'.events = b.events ++ later)
    (hlater : ∀ event ∈ later, event.serial = serial)
    (hpaced : Paced setup (transmissions serial b'.events) (delays serial b'.events))
    (hpending : ∀ response ∈ b'.pending, response ∈ b.pending ∧ response.serial ≠ serial ∨
      Recorded setup response (transmissions response.serial b'.events)
        (delays response.serial b'.events)) : b'.Regular setup := by
  have hother {serial' : Nat} (hne : serial' ≠ serial) :
      transmissions serial' b'.events = transmissions serial' b.events ∧
        delays serial' b'.events = delays serial' b.events := by
    have hnew : ∀ event ∈ later, event.serial ≠ serial' := fun event hevent heq =>
      hne (heq.symm.trans (hlater event hevent))
    obtain ⟨hsent, hchosen⟩ := history_of_ne hnew
    rw [hevents, transmissions_append, delays_append, hsent, hchosen, List.append_nil,
      List.append_nil]
    exact ⟨rfl, rfl⟩
  refine ⟨hmove.numbered h.numbered, ?_, fun serial' => ?_, fun response hresponse => ?_⟩
  · obtain ⟨hle, more, hmore, hconcerns⟩ := hmove.exists_events
    rw [hmore]
    intro event hevent
    rcases List.mem_append.mp hevent with hevent | hevent
    · exact Nat.lt_of_lt_of_le (h.known event hevent) hle
    · rcases hconcerns event hevent with hserial | ⟨hserial, hlt⟩
      · exact Nat.lt_of_lt_of_le (h.numbered.lt_requested _ hserial) hle
      · rwa [hserial]
  · by_cases hne : serial' = serial
    · rwa [hne]
    · rw [(hother hne).1, (hother hne).2]
      exact h.paced serial'
  · rcases hpending response hresponse with ⟨hbefore, hne⟩ | hrecorded
    · rw [(hother hne).1, (hother hne).2]
      exact h.recorded response hbefore
    · exact hrecorded

/-- A request that has not been made has no history. -/
lemma Regular.history_requested (h : b.Regular setup) :
    transmissions b.requested b.events = [] ∧ delays b.requested b.events = [] :=
  history_of_ne fun event hevent => Nat.ne_of_lt (h.known event hevent)

/-- The other pending requests have other numbers. -/
lemma Numbered.ne_of_mem (h : b.Numbered) {response other : ExpectedResponse}
    {rest : List ExpectedResponse} (hpending : b.pending.Perm (response :: rest))
    (hother : other ∈ rest) : other ∈ b.pending ∧ other.serial ≠ response.serial := by
  have hnodup := (List.nodup_cons.mp ((serials_perm hpending).nodup_iff.mp h.nodup)).1
  refine ⟨hpending.mem_iff.mpr (List.mem_cons_of_mem _ hother), fun heq => hnodup ?_⟩
  rw [← heq]
  exact List.mem_map_of_mem hother

lemma Move.regular (hmove : Move setup b b') (h : b.Regular setup) : b'.Regular setup := by
  have hold {response : ExpectedResponse} (hresponse : response ∈ b.pending) :
      response.serial ≠ b.requested :=
    Nat.ne_of_lt (h.numbered.lt_requested _ (List.mem_map_of_mem hresponse))
  have hmove' := hmove
  cases hmove with
  | refused =>
    exact h.of_later hmove' b.requested (List.append_nil _).symm (fun _ hevent => nomatch hevent)
      (h.paced _) fun response hresponse => .inr (h.recorded response hresponse)
  | broadcast adu now =>
    refine h.of_later hmove' b.requested rfl (fun event hevent => ?_) ?_
      fun response hresponse => .inl ⟨hresponse, hold hresponse⟩
    · rw [List.mem_singleton.mp hevent]
      rfl
    · rw [transmissions_append, delays_append, h.history_requested.1, h.history_requested.2,
        transmissions_sent, delays_sent]
      exact paced_singleton adu now
  | @queued response pending hserial hretries hindex hnext hpending =>
    have hsent : transmissions response.serial (b.events ++
        [.sent response.serial response.originalAdu.toList response.sentTimestamp]) =
          [(response.originalAdu.toList, response.sentTimestamp)] := by
      rw [transmissions_append, hserial, h.history_requested.1, transmissions_sent, List.nil_append]
    have hchosen : delays response.serial (b.events ++
        [.sent response.serial response.originalAdu.toList response.sentTimestamp]) = [] := by
      rw [delays_append, hserial, h.history_requested.2, delays_sent, List.nil_append]
    refine h.of_later hmove' response.serial rfl (fun event hevent => ?_) ?_
      fun other hother => ?_
    · rw [List.mem_singleton.mp hevent]
      rfl
    · rw [hsent, hchosen]
      exact paced_singleton _ _
    · rcases List.mem_cons.mp (hpending.mem_iff.mp hother) with rfl | hother
      · right
        rw [hsent, hchosen]
        exact recorded_queued hretries hindex hnext
      · exact .inl ⟨hother, hserial ▸ hold hother⟩
  | @removed response pending callback hpending =>
    have hsame (serial : Nat) :
        transmissions serial (b.events ++ reports response callback) =
            transmissions serial b.events ∧
          delays serial (b.events ++ reports response callback) = delays serial b.events := by
      rw [transmissions_append, delays_append, (history_reports response callback).1,
        (history_reports response callback).2, List.append_nil, List.append_nil]
      exact ⟨rfl, rfl⟩
    refine h.of_later hmove' response.serial rfl (fun event hevent => ?_) ?_
      fun other hother => .inl (h.numbered.ne_of_mem hpending hother)
    · obtain ⟨report, -, rfl⟩ := List.mem_map.mp hevent
      rfl
    · rw [(hsame _).1, (hsame _).2]
      exact h.paced _
  | @scheduled response rest pending now delayMs hbefore hnext hnow hleft hchosen hafter =>
    have hresponse : response ∈ b.pending := hbefore.mem_iff.mpr List.mem_cons_self
    obtain ⟨hrecorded, hpaced⟩ := (h.recorded response hresponse).schedule (h.paced _) hnext hnow
      hleft hchosen
    refine h.of_later hmove' response.serial rfl (fun event hevent => ?_) ?_
      fun other hother => ?_
    · rw [List.mem_singleton.mp hevent]
      rfl
    · simpa using hpaced
    · rcases List.mem_cons.mp (hafter.mem_iff.mp hother) with rfl | hother
      · right
        simpa using hrecorded
      · exact .inl (h.numbered.ne_of_mem hbefore hother)
  | @resent response rest pending now retryAt hbefore hnext hnow hafter =>
    have hresponse : response ∈ b.pending := hbefore.mem_iff.mpr List.mem_cons_self
    obtain ⟨hrecorded, hpaced⟩ := (h.recorded response hresponse).resend (h.paced _) hnext hnow
    refine h.of_later hmove' response.serial rfl (fun event hevent => ?_) ?_
      fun other hother => ?_
    · rw [List.mem_singleton.mp hevent]
      rfl
    · simpa using hpaced
    · rcases List.mem_cons.mp (hafter.mem_iff.mp hother) with rfl | hother
      · right
        simpa [ExpectedResponse.retried] using hrecorded
      · exact .inl (h.numbered.ne_of_mem hbefore hother)

end Book

/-! ### One scan -/

namespace TimeoutScan

variable [Features] {n : Nat} {τ : Type} {setup : ClientSetup τ} {now : UInt64}
  {scan scan' : TimeoutScan n τ}

/-- The numbers of the requests that the scan has not passed yet. -/
def remaining (scan : TimeoutScan n τ) : List Nat :=
  (scan.client.expectedResponses.toList.drop scan.i).map ExpectedResponse.serial

/-- The events of a round are about the request at the index, and at most one of them is its
transmission. -/
lemma Round.exists_later (h : Round setup now scan scan') :
    ∃ entry later, scan.client.expectedResponses.toList[scan.i]? = some entry ∧
      scan'.client.events = scan.client.events ++ later ∧
      (∀ event ∈ later, event.serial = entry.serial) ∧
      (transmissions entry.serial later).length ≤ 1 := by
  cases h with
  | @notDue entry retryAt hentry hretry hnow =>
    exact ⟨entry, [], hentry, (List.append_nil _).symm, fun _ hevent => (nomatch hevent), Nat.zero_le _⟩
  | @waiting entry hentry hretry hnow =>
    exact ⟨entry, [], hentry, (List.append_nil _).symm, fun _ hevent => (nomatch hevent), Nat.zero_le _⟩
  | @resent entry retryAt client hentry hretry hnow hsend =>
    obtain rfl := congrArg Prod.snd hsend
    refine ⟨entry, _, hentry, rfl, ?_, ?_⟩
    · simp [ClientEvent.serial]
    · rw [transmissions_sent]
      exact Nat.le_refl _
  | @unsent entry retryAt client e rest hentry hretry hnow hsend hremove =>
    obtain rfl := congrArg Prod.snd hsend
    refine ⟨entry, _, hentry, List.append_assoc _ _ _, ?_, ?_⟩
    · simp [ClientEvent.serial]
    · rw [transmissions_append, transmissions_sent]
      exact Nat.le_refl _
  | @exhausted entry rest hentry hretry hnow hleft hremove =>
    refine ⟨entry, _, hentry, rfl, ?_, Nat.zero_le _⟩
    simp [ClientEvent.serial]
  | @scheduled entry retryDelayMs drawn hentry hretry hnow hleft hchosen =>
    refine ⟨entry, _, hentry, rfl, ?_, Nat.zero_le _⟩
    simp [ClientEvent.serial]
  | @scheduledNow entry drawn hentry hretry hnow hleft hchosen =>
    refine ⟨entry, _, hentry, rfl, ?_, Nat.zero_le _⟩
    simp [ClientEvent.serial]

/-- A round passes or removes the request at the index, or sends nothing and looks at it again. -/
lemma Round.remaining_cases (h : Round setup now scan scan') {entry : ExpectedResponse}
    (hentry : scan.client.expectedResponses.toList[scan.i]? = some entry) :
    scan.remaining.Perm (entry.serial :: scan'.remaining) ∨
      scan'.remaining = scan.remaining ∧ ∀ serial, transmissions serial scan'.client.events =
        transmissions serial scan.client.events := by
  obtain ⟨hlt, hget⟩ := List.getElem?_eq_some_iff.mp hentry
  have hpass : scan.remaining = entry.serial ::
      (scan.client.expectedResponses.toList.drop (scan.i + 1)).map ExpectedResponse.serial := by
    rw [remaining, List.drop_eq_getElem_cons hlt, List.map_cons, hget]
  have hset (entry' : ExpectedResponse) : scan.remaining = entry.serial ::
      ((scan.client.expectedResponses.toList.set scan.i entry').drop (scan.i + 1)).map
        ExpectedResponse.serial := by
    rw [hpass, List.drop_set_of_lt (Nat.lt_succ_self _)]
  have hremoved {entry' : ExpectedResponse} {rest : HVec ExpectedResponse n}
      (hremove : scan.client.expectedResponses.swapRemove scan.i = some (entry', rest)) :
      scan.remaining.Perm
        (entry.serial :: (rest.toList.drop scan.i).map ExpectedResponse.serial) := by
    rw [hpass]
    exact ((HVec.drop_swapRemove_perm hremove).map ExpectedResponse.serial).symm.cons _
  cases h with
  | notDue | waiting => exact .inl (.of_eq hpass)
  | resent hentry' hretry hnow hsend =>
    obtain rfl := congrArg Prod.snd hsend
    exact .inl (.of_eq (hset _))
  | unsent hentry' hretry hnow hsend hremove => exact .inl (hremoved hremove)
  | exhausted hentry' hretry hnow hleft hremove => exact .inl (hremoved hremove)
  | scheduled => exact .inl (.of_eq (hset _))
  | @scheduledNow entry' drawn hentry' hretry hnow hleft hchosen =>
    refine .inr ⟨?_, fun serial => ?_⟩
    · obtain rfl := Option.some.inj (hentry.symm.trans hentry')
      change List.map _ (List.drop scan.i (List.set _ scan.i _)) = _
      rw [List.drop_eq_getElem_cons (by rwa [List.length_set]), List.getElem_set_self,
        List.drop_set_of_lt (Nat.lt_succ_self _), hpass]
      rfl
    · change transmissions serial (scan.client.events ++ [.scheduled ..]) = _
      rw [transmissions_append, transmissions_scheduled, List.append_nil]

/-- The scan has sent no request twice, and none of those it has not passed. -/
structure SentOnce (events : List ClientEvent) (scan : TimeoutScan n τ) : Prop where
  nodup : scan.remaining.Nodup
  unsent : ∀ serial ∈ scan.remaining,
    transmissions serial scan.client.events = transmissions serial events
  once : ∀ serial, (transmissions serial scan.client.events).length ≤
    (transmissions serial events).length + 1

lemma Round.sentOnce {events : List ClientEvent} (h : Round setup now scan scan')
    (hscan : SentOnce events scan) : SentOnce events scan' := by
  obtain ⟨entry, later, hentry, hevents, hserial, hlen⟩ := h.exists_later
  rcases h.remaining_cases hentry with hperm | ⟨hsame, hsent⟩
  · have hnodup := List.nodup_cons.mp (hperm.nodup_iff.mp hscan.nodup)
    have hother {serial : Nat} (hne : serial ≠ entry.serial) :
        transmissions serial scan'.client.events = transmissions serial scan.client.events := by
      have hnone : ∀ event ∈ later, event.serial ≠ serial := fun event hevent heq =>
        hne (heq.symm.trans (hserial event hevent))
      rw [hevents, transmissions_append, (history_of_ne hnone).1, List.append_nil]
    refine ⟨hnodup.2, fun serial hmem => ?_, fun serial => ?_⟩
    · rw [hother fun heq => hnodup.1 (heq ▸ hmem)]
      exact hscan.unsent serial (hperm.mem_iff.mpr (List.mem_cons_of_mem _ hmem))
    · by_cases heq : serial = entry.serial
      · have hunsent := hscan.unsent entry.serial (hperm.mem_iff.mpr List.mem_cons_self)
        rw [heq, hevents, transmissions_append, hunsent, List.length_append]
        exact Nat.add_le_add_left hlen _
      · rw [hother heq]
        exact hscan.once serial
  · refine ⟨hsame ▸ hscan.nodup, fun serial hmem => ?_, fun serial => ?_⟩
    · rw [hsent]
      exact hscan.unsent serial (hsame ▸ hmem)
    · rw [hsent]
      exact hscan.once serial

end TimeoutScan

namespace ClientServices

variable [Features] {n : Nat} {τ : Type} {setup : ClientSetup τ} {s : ClientServices n τ}
  {now : UInt64}

lemma transmissions_scanTimeouts (hs : s.book.Numbered) (serial : Nat) :
    (transmissions serial (s.scanTimeouts setup now).events).length ≤
      (transmissions serial s.events).length + 1 := by
  let start : TimeoutScan n τ := ⟨s, 0, u64Max⟩
  have hstart : start.SentOnce s.events := ⟨hs.nodup, fun _ _ => rfl, fun _ => Nat.le_succ _⟩
  have hround (scan scan' : TimeoutScan n τ)
      (hbody : (TimeoutScan.loop setup now).body scan = some scan')
      (hscan : scan.SentOnce s.events) : scan'.SentOnce s.events :=
    (TimeoutScan.round_eq_some hbody).sentOnce hscan
  exact (Loop.finish_invariant hround hstart).1.once serial

lemma transmissions_handleTimeouts (hs : s.book.Numbered) (serial : Nat) :
    (transmissions serial (s.handleTimeouts setup now).events).length ≤
      (transmissions serial s.events).length + 1 := by
  unfold handleTimeouts
  split
  · exact Nat.le_succ _
  · split
    · split
      · exact Nat.le_succ _
      · exact transmissions_scanTimeouts hs serial
    · exact transmissions_scanTimeouts hs serial

end ClientServices

namespace ClientM

variable [Features] {n : Nat} {τ : Type} {setup : ClientSetup τ} {s : ClientServices n τ}

/-- In every run a request is sent once and again at most as often as there are retries, each time
after its timeout and the chosen delay or at `u64::MAX`. A call of `handle_timeouts` sends it at
most once, and its scan ends. -/
theorem retransmission_bounded (hs : Reachable setup s) (serial : Nat) (now : UInt64) :
    Paced setup (transmissions serial s.events) (delays serial s.events) ∧
      (transmissions serial (s.handleTimeouts setup now).events).length ≤
        (transmissions serial s.events).length + 1 ∧
      ∀ rounds, 2 * s.expectedResponses.toList.length + 1 < rounds →
        (TimeoutScan.loop setup now).iterate rounds ⟨s, 0, u64Max⟩ =
          some ((TimeoutScan.loop setup now).finish ⟨s, 0, u64Max⟩) := by
  have hempty : Book.Regular setup ⟨[], [], 0⟩ :=
    ⟨⟨List.nodup_nil, nofun⟩, fun _ hevent => (nomatch hevent), fun _ => paced_nil,
      fun _ hresponse => nomatch hresponse⟩
  have hregular := hs.invariant (fun _ _ hmove => hmove.regular) hempty
  refine ⟨hregular.paced serial, s.transmissions_handleTimeouts hregular.numbered serial,
    fun rounds hrounds => ?_⟩
  refine (TimeoutScan.loop setup now).iterate_eq_finish (Nat.lt_of_le_of_lt ?_ hrounds)
  exact TimeoutScan.measure_le ⟨s, 0, u64Max⟩

omit [Features] in
/-- A request that is sent three times. -/
theorem retransmission_bounded_twice :
    letI : Features := Features.minimal
    let setup : ClientSetup Unit := ⟨.silent .stdTcp, ⟨10, 2, .fixed 100, .none, none⟩⟩
    let s₀ : ClientServices 1 Unit := ⟨⟨(), []⟩, .empty, .empty, none, 0, 0, []⟩
    let s := [SyncClientAction.submit (.readMultipleCoils 0 1) 1 (.fromU8 1) 0, .poll 11, .poll 111,
      .poll 122, .poll 222].foldl (fun s action => perform setup action s) s₀
    (transmissions 0 s.events).map Prod.snd = [0, 111, 222] ∧
      Paced setup (transmissions 0 s.events) (delays 0 s.events) := by
  let _ := Features.minimal
  intro setup s₀ s
  have hs : Reachable setup s := ⟨s₀, ⟨⟨(), []⟩, rfl⟩, Runs.Run.foldl _ s₀⟩
  exact ⟨by decide +kernel, (retransmission_bounded hs 0 0).1⟩

omit [Features] in
/-- Times saturate: a retry can come too early at the end of the clock. -/
theorem retransmission_saturated :
    ¬∀ [Features] (n : Nat) (τ : Type) (setup : ClientSetup τ) (s : ClientServices n τ)
      (serial j : Nat) (first second : List UInt8 × UInt64), Reachable setup s →
      (transmissions serial s.events)[j]? = some first →
      (transmissions serial s.events)[j + 1]? = some second →
      ∃ delayMs, (delays serial s.events)[j]? = some delayMs ∧
        first.2.toNat + setup.responseTimeoutMs.toNat + delayMs.toNat ≤ second.2.toNat := by
  intro h
  let _ := Features.minimal
  let setup : ClientSetup Unit := ⟨.silent .stdTcp, ⟨5, 1, .fixed 100, .none, none⟩⟩
  let s₀ : ClientServices 1 Unit := ⟨⟨(), []⟩, .empty, .empty, none, 0, 0, []⟩
  let s := [SyncClientAction.submit (.readMultipleCoils 0 1) 1 (.fromU8 1) (u64Max - 9),
    .poll (u64Max - 3), .poll u64Max].foldl (fun s action => perform setup action s) s₀
  have hs : Reachable setup s := ⟨s₀, ⟨⟨(), []⟩, rfl⟩, Runs.Run.foldl _ s₀⟩
  let adu : List UInt8 := [0, 1, 0, 0, 0, 6, 1, 1, 0, 0, 0, 1]
  have hsent : transmissions 0 s.events = [(adu, u64Max - 9), (adu, u64Max)] := by decide +kernel
  have hchosen : delays 0 s.events = [100] := by decide +kernel
  obtain ⟨delayMs, hdelay, hle⟩ := h 1 Unit setup s 0 0 (adu, u64Max - 9) (adu, u64Max) hs
    (by rw [hsent]; rfl) (by rw [hsent]; rfl)
  rw [hchosen] at hdelay
  obtain rfl := Option.some.inj hdelay
  exact absurd hle (by decide)

end ClientM

end ModbusRs
