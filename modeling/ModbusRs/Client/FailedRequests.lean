import ModbusRs.Client.Moves

/-!
# Requests that fail

A request that ends in an error should leave the client as it was. The expectation is recorded
before the frame is sent, and a transport that refuses the frame does not take it back.
-/

namespace ModbusRs

open Outcome Book

namespace ClientM

variable [Features] {n : Nat} {τ : Type} {setup : ClientSetup τ} {s s' : ClientServices n τ}
  {call : ClientCall} {txnId : UInt16} {unit : UnitIdOrSlaveAddr} {now : UInt64}

/-- The request made in the first state left no trace in the second: no expectation, and nothing
that the client does later is about it. -/
def LeavesNoTrace (setup : ClientSetup τ) (s s' : ClientServices n τ) : Prop :=
  s'.expectedResponses = s.expectedResponses ∧ ∀ s'', Runs.Run (perform setup) s' s'' →
    ∃ later, s''.events = s'.events ++ later ∧ ∀ event ∈ later, event.serial ≠ s.requested

/-- The transport refuses the frame of a request that has been added to the expectations. -/
def SendFails (setup : ClientSetup τ) (call : ClientCall) (txnId : UInt16)
    (unit : UnitIdOrSlaveAddr) (s : ClientServices n τ) : Prop :=
  unit.isBroadcast = false ∧ s.expectedResponses.toList.length < n ∧
    ∃ frame e, call.buildFrame txnId unit.get setup.transport.transportType = .ok frame ∧
      (setup.transport.send frame.toList s.link.state).1 = .error e

/-- A request that is not pending stays without a trace. -/
lemma leavesNoTrace_of_over (hresponses : s'.expectedResponses = s.expectedResponses)
    (hover : s'.book.Over s.requested) : LeavesNoTrace setup s s' := by
  refine ⟨hresponses, fun s'' hrun => ?_⟩
  let quiet (b : Book) : Prop := b.Over s.requested ∧
    ∃ later, b.events = s'.events ++ later ∧ ∀ event ∈ later, event.serial ≠ s.requested
  have hquiet : quiet s''.book := by
    refine run_invariant hrun (fun b b' hmove hb => ?_)
      ⟨hover, [], (List.append_nil _).symm, fun _ hevent => nomatch hevent⟩
    obtain ⟨hb, later, hlater, hother⟩ := hb
    obtain ⟨hb', more, hmore, hother'⟩ := hmove.over hb
    refine ⟨hb', later ++ more, by rw [hmore, hlater, List.append_assoc], fun event hevent => ?_⟩
    rcases List.mem_append.mp hevent with hevent | hevent
    · exact hother event hevent
    · exact hother' event hevent
  exact hquiet.2

/-- A failing request leaves no trace, except if the transport refuses its frame. -/
theorem submit_leavesNoTrace_iff (hs : Reachable setup s) {e : MbusError}
    (herr : ((submit setup call txnId unit now).run s).1 = .err e) :
    LeavesNoTrace setup s ((submit setup call txnId unit now).run s).2 ↔
      ¬SendFails setup call txnId unit s := by
  have hsubmit := submission_submit setup call txnId unit now s
  generalize (submit setup call txnId unit now).run s = ended at hsubmit herr ⊢
  obtain ⟨result, s'⟩ := ended
  have hnew : s.requested ∉ s.book.serials := fun hmem =>
    Nat.lt_irrefl _ (hs.numbered.lt_requested _ hmem)
  have hover (s' : ClientServices n τ) (hresponses : s'.expectedResponses = s.expectedResponses)
      (hrequested : s'.requested = s.requested + 1) : LeavesNoTrace setup s s' := by
    refine leavesNoTrace_of_over hresponses ⟨?_, ?_⟩
    · rwa [serials, ClientServices.book, hresponses]
    · exact Nat.lt_of_lt_of_eq (Nat.lt_succ_self _) hrequested.symm
  cases hsubmit with
  | refused hresult hrefused =>
    refine iff_of_true (hover _ rfl rfl) ?_
    rintro ⟨hunit, hroom, frame, e, hframe, -⟩
    rcases hrefused with hbroadcast | hfull | hbuild
    · rw [hunit] at hbroadcast
      cases hbroadcast
    · exact Nat.not_le_of_lt hroom hfull
    · exact hbuild frame hframe
  | broadcast hunit =>
    refine iff_of_true (hover _ rfl rfl) fun hfails => ?_
    rw [hfails.1] at hunit
    cases hunit
  | @queued frame responses hunit hframe hresponses =>
    have hlen : responses.toList.length = s.expectedResponses.toList.length + 1 := by
      rw [hresponses]
      exact List.length_append
    refine iff_of_false (fun htrace => ?_) (not_not_intro ⟨hunit, ?_, frame, ?_⟩)
    · have hsame : responses = s.expectedResponses := htrace.1
      rw [hsame] at hlen
      exact Nat.ne_of_lt (Nat.lt_succ_self _) hlen
    · have hle := responses.length_le
      rwa [hlen] at hle
    · cases hsend : (setup.transport.send frame.toList s.link.state).1 with
      | ok _ =>
        rw [hsend] at herr
        cases herr
      | error e => exact ⟨e, hframe, rfl⟩

omit [Features] in
/-- A request that is refused because its quantity is zero. -/
theorem submit_leavesNoTrace_invalid :
    letI : Features := Features.minimal
    let setup : ClientSetup Unit := ⟨.refusing .stdTcp, ⟨100, 2, .fixed 10, .none, none⟩⟩
    let s : ClientServices 1 Unit := ⟨⟨(), []⟩, .empty, .empty, none, 0, 0, []⟩
    LeavesNoTrace setup s ((submit setup (.readMultipleCoils 0 0) 7 (.fromU8 1) 0).run s).2 := by
  let _ := Features.minimal
  intro setup s
  have hs : Reachable setup s := ⟨s, ⟨⟨(), []⟩, rfl⟩, .refl s⟩
  refine (submit_leavesNoTrace_iff (e := .invalidQuantity) hs rfl).mpr ?_
  rintro ⟨-, -, frame, e, hframe, -⟩
  cases hframe

omit [Features] in
/-- A transport that refuses the frame leaves the request behind, to be retried. -/
theorem submit_leavesNoTrace_unsent :
    ¬∀ [Features] (n : Nat) (τ : Type) (setup : ClientSetup τ) (s : ClientServices n τ)
      (call : ClientCall) (txnId : UInt16) (unit : UnitIdOrSlaveAddr) (now : UInt64)
      (e : MbusError), Reachable setup s →
      ((submit setup call txnId unit now).run s).1 = .err e →
      LeavesNoTrace setup s ((submit setup call txnId unit now).run s).2 := by
  intro h
  let _ := Features.minimal
  let setup : ClientSetup Unit := ⟨.refusing .stdTcp, ⟨100, 2, .fixed 10, .none, none⟩⟩
  let s : ClientServices 1 Unit := ⟨⟨(), []⟩, .empty, .empty, none, 0, 0, []⟩
  have hs : Reachable setup s := ⟨s, ⟨⟨(), []⟩, rfl⟩, .refl s⟩
  have htrace := h 1 Unit setup s (.readMultipleCoils 0 1) 7 (.fromU8 1) 0 .sendFailed hs rfl
  exact absurd (congrArg (·.toList.length) htrace.1) (by decide +kernel)

end ClientM

end ModbusRs
