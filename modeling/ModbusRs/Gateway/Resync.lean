import ModbusRs.Gateway.Effects
import Mathlib.Logic.Function.Iterate

/-!
# Requests behind garbage

The framing loop of the gateway takes frames out of an upstream buffer as long as one is
complete. It drops the bytes of a frame that does not decode, but never a byte for itself: a
request that follows garbage is found exactly when the garbage looks like a sequence of frames.
-/

namespace ModbusRs.Gateway

open Outcome

/-- The garbage in front of a frame falls into pieces, each as long as `derive_length_from_bytes`
tells with what follows it, and so does the frame when it has come to the front. -/
inductive Delimited (tt : TransportType) (frame : List UInt8) : List UInt8 → Prop
  | reached (h : deriveLengthFromBytes frame tt = some frame.length) : Delimited tt frame []
  | piece {garbage : List UInt8} {n : Nat}
    (h : deriveLengthFromBytes (garbage ++ frame) tt = some n) (hle : n ≤ garbage.length)
    (hrest : Delimited tt frame (garbage.drop n)) : Delimited tt frame garbage

/-- An upstream stays of its kind when it sends. The framing loop asks for the kind once, before
it starts. -/
def SteadyType [Features] {υ δ : Type} (setup : GatewaySetup υ δ) : Prop :=
  ∀ frame state, setup.transportTypeRt (setup.upstream.send frame state).2 =
    setup.transportTypeRt state

lemma completeLength_eq_some_iff [Features] {tt : TransportType}
    {rxbuf : HVec UInt8 maxAduFrameLen} {n : Nat} :
    completeLength tt rxbuf = some n ↔
      deriveLengthFromBytes rxbuf.toList tt = some n ∧ n ≤ rxbuf.toList.length := by
  refine ⟨completeLength_eq_some, fun ⟨hlen, hle⟩ => ?_⟩
  unfold completeLength
  rw [hlen]
  exact if_pos hle

lemma decodeRequest_ok {id connection : Nat} {sessionIdx : UInt8} {tt : TransportType}
    {frame : List UInt8} {message : ModbusMessage} (h : decompileAduFrame frame tt = .ok message) :
    ∃ request, decodeRequest id sessionIdx connection tt frame = some request := by
  unfold decodeRequest
  split
  · exact ⟨_, rfl⟩
  next hne => exact absurd h (hne message)

namespace GatewayServices

variable [Features] {cap : Capacity} {υ δ : Type} {setup : GatewaySetup υ δ}

variable (setup) in
/-- What an upstream has in its buffer, and the format it is read in. -/
def buffered (s : GatewayServices cap υ δ) (up : Nat) : Option (TransportType × List UInt8) :=
  s.upstreams.toList[up]?.map fun channel =>
    (setup.transportTypeRt channel.link.state, channel.rxbuf.toList)

variable (setup) in
/-- The framing loop comes to a round that accepts the frame, as all that is left. -/
def Processes (s : GatewayServices cap υ δ) (up : Nat) (nowMs : UInt64) (frame : List UInt8) :
    Prop :=
  ∃ rounds, ∃ last : GatewayServices cap υ δ,
    (GatewayM.perform setup (.upstreamRound up nowMs))^[rounds] s = last ∧
    (last.buffered setup up).map Prod.snd = some frame ∧
    ∃ request, (last.takeUpstreamFrame setup up).1 = some (some request) ∧ request.frame = frame

/-! ### What a round does to the buffer -/

section Buffered

variable {s s' : GatewayServices cap υ δ}

lemma buffered_congr (h : s'.upstreams = s.upstreams) (up : Nat) :
    s'.buffered setup up = s.buffered setup up := by
  rw [buffered, h]
  rfl

lemma buffered_sendReply (hsteady : SteadyType setup) (s : GatewayServices cap υ δ)
    (target : Nat) (request : UpstreamRequest) (adu : List UInt8) (delivery : Option Delivery)
    (up : Nat) :
    (s.sendReply setup target request adu delivery).2.buffered setup up = s.buffered setup up := by
  unfold sendReply
  split
  next => rfl
  next channel hup =>
    unfold buffered
    dsimp only
    rw [HVec.modify_toList, List.getElem?_modify]
    by_cases htarget : target = up
    · subst htarget
      rw [hup]
      simp only [if_true, Option.map_eq_map, Option.map_some, Link.send]
      rw [hsteady]
    · simp only [if_neg htarget, id_map']

lemma buffered_sendExceptionUpstream (hsteady : SteadyType setup) (s : GatewayServices cap υ δ)
    (upstream : Option Nat) (request : UpstreamRequest) (code : ExceptionCode) (up : Nat) :
    (s.sendExceptionUpstream setup upstream request code).buffered setup up =
      s.buffered setup up := by
  cases upstream with
  | none => rfl
  | some target =>
    rw [sendExceptionUpstream_some]
    exact buffered_sendReply hsteady s target request _ none up

lemma Dispatched.buffered (hsteady : SteadyType setup) {i : Nat} {request : PendingRequest}
    {nowMs : UInt64} (h : Dispatched setup s i request nowMs s') (up : Nat) :
    s'.buffered setup up = s.buffered setup up := by
  cases h with
  | refused _ => exact buffered_sendExceptionUpstream hsteady s _ _ _ up
  | unencodable => rfl
  | unsent txnMap internalTxn adu _ =>
    refine (buffered_sendExceptionUpstream hsteady _ _ _ _ up).trans (buffered_congr ?_ up)
    rw [removeTxn, sendDownstream_upstreams]
  | overflowed => exact buffered_congr (sendDownstream_upstreams setup _ i _) up
  | sent => exact buffered_congr (sendDownstream_upstreams setup _ i _) up

lemma HandedOn.buffered (hsteady : SteadyType setup) {dispatches : Nat → PendingRequest → Prop}
    {request : PendingRequest} {nowMs : UInt64}
    (h : HandedOn setup dispatches s request nowMs s') (up : Nat) :
    s'.buffered setup up = s.buffered setup up := by
  cases h with
  | refused upstream code _ _ => exact buffered_sendExceptionUpstream hsteady s upstream _ code up
  | queued => rfl
  | dispatched _ _ _ _ h => exact h.buffered hsteady up

lemma buffered_dropFrame (s : GatewayServices cap υ δ) (up n : Nat) :
    (s.dropFrame up n).buffered setup up =
      (s.buffered setup up).map fun held => (held.1, held.2.drop n) := by
  unfold buffered dropFrame
  dsimp only
  rw [HVec.modify_toList, List.getElem?_modify]
  cases s.upstreams.toList[up]? <;> simp

variable {up : Nat} (nowMs : UInt64) {tt : TransportType} {bytes : List UInt8}

/-- Without a complete frame a round changes nothing. -/
lemma round_incomplete (hbuf : s.buffered setup up = some (tt, bytes))
    (h : ∀ n, deriveLengthFromBytes bytes tt = some n → bytes.length < n) :
    (s.takeUpstreamFrame setup up).1 = none ∧
      GatewayM.perform setup (.upstreamRound up nowMs) s = s := by
  obtain ⟨channel, hup, hchannel⟩ := Option.map_eq_some_iff.mp hbuf
  obtain ⟨rfl, rfl⟩ := Prod.mk.inj hchannel
  have hnone : completeLength (setup.transportTypeRt channel.link.state) channel.rxbuf = none := by
    rw [Option.eq_none_iff_forall_not_mem]
    intro n hn
    obtain ⟨hlen, hle⟩ := completeLength_eq_some_iff.mp hn
    exact Nat.not_lt.mpr hle (h n hlen)
  have htake : s.takeUpstreamFrame setup up = (none, s) := by
    unfold takeUpstreamFrame
    rw [hup]
    dsimp only
    rw [hnone]
  refine ⟨by rw [htake], ?_⟩
  rw [GatewayM.perform, GatewayM.upstreamRound, GatewayM.run_update_bind, htake]
  rfl

/-- A complete frame leaves the buffer, whether it decodes or not. -/
lemma round_complete (hsteady : SteadyType setup) (hbuf : s.buffered setup up = some (tt, bytes))
    {n : Nat} (hlen : deriveLengthFromBytes bytes tt = some n) (hle : n ≤ bytes.length) :
    (GatewayM.perform setup (.upstreamRound up nowMs) s).buffered setup up =
        some (tt, bytes.drop n) ∧
      (∀ request, (s.takeUpstreamFrame setup up).1 = some (some request) →
        request.frame = bytes.take n) ∧
      ∀ message, decompileAduFrame (bytes.take n) tt = .ok message →
        ∃ request, (s.takeUpstreamFrame setup up).1 = some (some request) ∧
          request.frame = bytes.take n := by
  obtain ⟨channel, hup, hchannel⟩ := Option.map_eq_some_iff.mp hbuf
  obtain ⟨rfl, rfl⟩ := Prod.mk.inj hchannel
  have hcomplete := completeLength_eq_some_iff.mpr ⟨hlen, hle⟩
  have htake : s.takeUpstreamFrame setup up =
      (decodeRequest s.accepted.length channel.sessionId channel.connection
          (setup.transportTypeRt channel.link.state) (channel.rxbuf.toList.take n)).elim
        (some none, s.dropFrame up n)
        fun request => (some (some request), (s.dropFrame up n).accept request) := by
    unfold takeUpstreamFrame
    rw [hup]
    dsimp only
    rw [hcomplete]
    dsimp only
    cases decodeRequest s.accepted.length channel.sessionId channel.connection
      (setup.transportTypeRt channel.link.state) (channel.rxbuf.toList.take n) with
    | none => rfl
    | some request => rfl
  have hdrop : (s.dropFrame up n).buffered setup up =
      some (setup.transportTypeRt channel.link.state, channel.rxbuf.toList.drop n) := by
    rw [buffered_dropFrame, hbuf]
    rfl
  rw [GatewayM.perform, GatewayM.upstreamRound, GatewayM.run_update_bind, htake]
  cases hdecode : decodeRequest s.accepted.length channel.sessionId channel.connection
      (setup.transportTypeRt channel.link.state) (channel.rxbuf.toList.take n) with
  | none =>
    refine ⟨hdrop, fun _ h => absurd h (by simp), fun message h => ?_⟩
    obtain ⟨request, hrequest⟩ := decodeRequest_ok h
    rw [hrequest] at hdecode
    cases hdecode
  | some request =>
    obtain ⟨_, hsession, _, _, hframe⟩ := decodeRequest_eq_some hdecode
    have hon : HandedOn setup (fun _ _ => True) ((s.dropFrame up n).accept request)
        ⟨request, s.router.rewrite request.unit⟩ nowMs
        ((GatewayM.handleRequest setup up request nowMs).run
          ((s.dropFrame up n).accept request)).2 := by
      refine handleRequest_cases ⟨{ channel with rxbuf := channel.rxbuf.dropFirst n }, ?_,
        hsession.symm⟩ fun _ _ _ _ => trivial
      simp [accept, dropFrame, hup]
    refine ⟨?_, fun request' h => ?_, fun _ _ => ⟨request, rfl, hframe⟩⟩
    · simp only [Option.elim_some]
      rw [EffM.run_bind_pure_snd, hon.buffered hsteady up]
      exact hdrop
    · cases h
      exact hframe

omit [Features] in
/-- A round takes a complete frame, or there is none. -/
lemma complete_or_incomplete (bytes : List UInt8) (tt : TransportType) :
    (∃ n, deriveLengthFromBytes bytes tt = some n ∧ n ≤ bytes.length) ∨
      ∀ n, deriveLengthFromBytes bytes tt = some n → bytes.length < n := by
  by_cases h : ∃ n, deriveLengthFromBytes bytes tt = some n ∧ n ≤ bytes.length
  · exact Or.inl h
  · refine Or.inr fun n hn => Nat.lt_of_not_le fun hle => h ⟨n, hn, hle⟩

/-- The buffer never grows. -/
lemma buffered_rounds (hsteady : SteadyType setup) (rounds : Nat)
    (hbuf : s.buffered setup up = some (tt, bytes)) :
    ∃ left, ((GatewayM.perform setup (.upstreamRound up nowMs))^[rounds] s).buffered setup up =
      some (tt, left) ∧ left.length ≤ bytes.length := by
  induction rounds generalizing s bytes with
  | zero => exact ⟨bytes, hbuf, Nat.le_refl _⟩
  | succ rounds ih =>
    rw [Function.iterate_succ_apply]
    rcases complete_or_incomplete bytes tt with ⟨n, hlen, hle⟩ | hincomplete
    · obtain ⟨hround, _, _⟩ := round_complete nowMs hsteady hbuf hlen hle
      obtain ⟨left, hleft, hshort⟩ := ih hround
      rw [List.length_drop] at hshort
      exact ⟨left, hleft, by omega⟩
    · obtain ⟨_, hround⟩ := round_incomplete nowMs hbuf hincomplete
      rw [hround]
      exact ih hbuf

/-- When bytes signal garbage, the loop waits with them. -/
lemma round_garbage (hbuf : s.buffered setup up = some (tt, bytes))
    (hgarbage : deriveLengthFromBytes bytes tt = some usizeMax) :
    GatewayM.perform setup (.upstreamRound up nowMs) s = s := by
  refine (round_incomplete nowMs hbuf fun n hn => ?_).2
  obtain rfl : usizeMax = n := Option.some.inj (hgarbage.symm.trans hn)
  obtain ⟨channel, _, hchannel⟩ := Option.map_eq_some_iff.mp hbuf
  obtain ⟨_, rfl⟩ := Prod.mk.inj hchannel
  have hcap : maxAduFrameLen < usizeMax := by
    unfold maxAduFrameLen usizeMax
    split <;> decide
  exact Nat.lt_of_le_of_lt channel.rxbuf.length_le hcap

end Buffered

section Processes

variable {s : GatewayServices cap υ δ} {up : Nat} {nowMs : UInt64} {tt : TransportType}
  {garbage frame : List UInt8}

lemma Delimited.processes (hsteady : SteadyType setup) {message : ModbusMessage}
    (hframe : decompileAduFrame frame tt = .ok message)
    (hbuf : s.buffered setup up = some (tt, garbage ++ frame))
    (h : Delimited tt frame garbage) : s.Processes setup up nowMs frame := by
  induction h generalizing s with
  | reached hlen =>
    rw [List.nil_append] at hbuf
    obtain ⟨_, _, haccepts⟩ := round_complete nowMs hsteady hbuf hlen (Nat.le_refl _)
    rw [List.take_length] at haccepts
    exact ⟨0, s, rfl, by rw [hbuf]; rfl, haccepts message hframe⟩
  | @piece garbage n hlen hle _ ih =>
    have hshort : n ≤ (garbage ++ frame).length := by
      rw [List.length_append]
      omega
    obtain ⟨hround, _, _⟩ := round_complete nowMs hsteady hbuf hlen hshort
    rw [List.drop_append_of_le_length hle] at hround
    obtain ⟨rounds, last, hlast, hrest⟩ := ih hround
    exact ⟨rounds + 1, last, hlast, hrest⟩

lemma Processes.delimited (hsteady : SteadyType setup)
    (hbuf : s.buffered setup up = some (tt, garbage ++ frame))
    (h : s.Processes setup up nowMs frame) : Delimited tt frame garbage := by
  obtain ⟨rounds, last, hlast, hleft, request, htake, hrequest⟩ := h
  induction rounds generalizing s garbage with
  | zero =>
    obtain rfl : s = last := hlast
    rw [hbuf, Option.map_some, Option.some.injEq, List.append_left_eq_self] at hleft
    subst hleft
    rw [List.nil_append] at hbuf
    rcases complete_or_incomplete frame tt with ⟨n, hlen, hle⟩ | hincomplete
    · obtain ⟨_, htaken, _⟩ := round_complete nowMs hsteady hbuf hlen hle
      have hall : frame = frame.take n := hrequest.symm.trans (htaken request htake)
      have hn : frame.length = n := by
        have hcount := congrArg List.length hall
        rw [List.length_take] at hcount
        omega
      exact .reached (hn ▸ hlen)
    · obtain ⟨hnone, _⟩ := round_incomplete nowMs hbuf hincomplete
      rw [hnone] at htake
      cases htake
  | succ rounds ih =>
    rw [Function.iterate_succ_apply] at hlast
    rcases complete_or_incomplete (garbage ++ frame) tt with ⟨n, hlen, hle⟩ | hincomplete
    · obtain ⟨hround, _, _⟩ := round_complete nowMs hsteady hbuf hlen hle
      by_cases hn : n ≤ garbage.length
      · rw [List.drop_append_of_le_length hn] at hround
        exact .piece hlen hn (ih hround hlast)
      · -- a piece that reaches into the frame leaves too little for it
        obtain ⟨left, hbuffered, hshort⟩ := buffered_rounds nowMs hsteady rounds hround
        rw [← hlast, hbuffered, Option.map_some, Option.some.injEq] at hleft
        have hleft : left = frame := hleft
        rw [hleft, List.length_drop, List.length_append] at hshort
        rw [List.length_append] at hle
        omega
    · obtain ⟨_, hround⟩ := round_incomplete nowMs hbuf hincomplete
      rw [hround] at hlast
      exact ih hbuf hlast

/-- A request behind garbage is processed if and only if the garbage looks like frames. -/
theorem processes_iff (hsteady : SteadyType setup) {message : ModbusMessage}
    (hbuf : s.buffered setup up = some (tt, garbage ++ frame))
    (hframe : decompileAduFrame frame tt = .ok message) :
    s.Processes setup up nowMs frame ↔ Delimited tt frame garbage :=
  ⟨Processes.delimited hsteady hbuf, Delimited.processes hsteady hframe hbuf⟩

/-- Behind bytes that signal garbage a request is never processed. -/
lemma not_processes_of_garbage (hbuf : s.buffered setup up = some (tt, garbage ++ frame))
    (hgarbage : deriveLengthFromBytes (garbage ++ frame) tt = some usizeMax)
    (hne : garbage ≠ []) : ¬s.Processes setup up nowMs frame := by
  rintro ⟨rounds, last, hlast, hleft, _⟩
  rw [Function.iterate_fixed (round_garbage nowMs hbuf hgarbage)] at hlast
  rw [← hlast, hbuf, Option.map_some, Option.some.injEq] at hleft
  exact hne (List.append_left_eq_self.mp hleft)

end Processes

end GatewayServices

/-- The gateway of the examples, with some bytes in the buffer of its only upstream. -/
def heard [Features] (bytes : List UInt8) :
    GatewayServices ⟨1, 1, 1, 1⟩ (List UInt8) (List UInt8) :=
  (((GatewayServices.new .passthrough).addUpstream bytes).2.receiveUpstream
    (arrivingSetup .stdTcp .stdTcp) 0).2

/-- A read of one register. -/
def readRequest : List UInt8 :=
  [0x00, 0x01, 0x00, 0x00, 0x00, 0x06, 0x11, 0x03, 0x00, 0x6B, 0x00, 0x01]

lemma decompile_readRequest : ∃ message, decompileAduFrame readRequest .stdTcp = .ok message :=
  ⟨_, rfl⟩

namespace GatewayServices

/-- The read behind a frame with an unknown function code. -/
theorem processes_behind_unknown :
    letI : Features := Features.minimal
    (heard ([0x00, 0x09, 0x00, 0x00, 0x00, 0x02, 0x11, 0x63] ++ readRequest)).Processes
      (arrivingSetup .stdTcp .stdTcp) 0 0 readRequest ↔
    Delimited .stdTcp readRequest [0x00, 0x09, 0x00, 0x00, 0x00, 0x02, 0x11, 0x63] := by
  let _ := Features.minimal
  obtain ⟨message, hframe⟩ := decompile_readRequest
  exact processes_iff (fun _ _ => rfl) (by decide +kernel) hframe

/-- One stray byte in front of the read: the protocol id is read at the wrong place, and the loop
waits for a frame that cannot come. -/
theorem processes_behind_stray_byte_fails :
    ¬∀ [Features] (setup : GatewaySetup (List UInt8) (List UInt8))
      (s : GatewayServices ⟨1, 1, 1, 1⟩ (List UInt8) (List UInt8)) (up : Nat) (nowMs : UInt64)
      (tt : TransportType) (garbage frame : List UInt8) (message : ModbusMessage),
      SteadyType setup → s.buffered setup up = some (tt, garbage ++ frame) →
      decompileAduFrame frame tt = .ok message → s.Processes setup up nowMs frame := by
  intro h
  let _ := Features.minimal
  have hbuf : (heard ([0xFF] ++ readRequest)).buffered (arrivingSetup .stdTcp .stdTcp) 0 =
      some (.stdTcp, [0xFF] ++ readRequest) := by decide +kernel
  have hgarbage : deriveLengthFromBytes ([0xFF] ++ readRequest) .stdTcp = some usizeMax := by
    decide +kernel
  obtain ⟨message, hframe⟩ := decompile_readRequest
  exact not_processes_of_garbage hbuf hgarbage (by decide)
    (h _ _ 0 0 _ [0xFF] readRequest message (fun _ _ => rfl) hbuf hframe)

end GatewayServices

end ModbusRs.Gateway
