import ModbusRs.Gateway.Bookkeeping

/-!
# What is sent on a session

Seen from the clients the gateway is a list of connected sessions, each with the frames sent on
it. `Taped` lists what a step can do to them and to the record of the replies. While a session
stays connected and no second one is given its number, it carries the replies recorded for it
and nothing else.
-/

namespace ModbusRs.Gateway

/-- A session: its id, and the upstream behind it. -/
abbrev Session : Type := UInt8 × Nat

/-- The connected sessions with the frames sent on them. -/
abbrev Tape : Type := List (Session × List (List UInt8))

/-- What a step does to the tape and to the record of the replies, each with its session.
`connects` and `drops` tell which sessions it adds and which it drops. -/
inductive Taped (connects : Session → Prop) (drops : UInt8 → Prop) (tape : Tape)
    (sent : List (Session × List UInt8)) : Tape → List (Session × List UInt8) → Prop
  | same : Taped connects drops tape sent tape sent
  | replied (up : Nat) (session : Session) (frames : List (List UInt8)) (adu : List UInt8)
    (h : tape[up]? = some (session, frames)) :
    Taped connects drops tape sent (tape.modify up fun line => (line.1, line.2 ++ [adu]))
      (sent ++ [(session, adu)])
  | connected (session : Session) (hconnects : connects session) :
    Taped connects drops tape sent (tape ++ [(session, [])]) sent
  | dropped (tape' : Tape) (session : Session) (frames : List (List UInt8))
    (hdrops : drops session.1) (h : ((session, frames) :: tape').Perm tape) :
    Taped connects drops tape sent tape' sent

/-- The lines of a session id. -/
def Tape.lines (tape : Tape) (sid : UInt8) : Tape := tape.filter (·.1.1 == sid)

/-- The replies recorded for a session id. -/
def repliesOf (sid : UInt8) (sent : List (Session × List UInt8)) : List (List UInt8) :=
  (sent.filter (·.1.1 == sid)).map Prod.snd

/-- The session id has one line with the replies recorded for it, or it has not been there yet. -/
def Recorded (sid : UInt8) (tape : Tape) (sent : List (Session × List UInt8)) : Prop :=
  (∃ connection, tape.lines sid = [((sid, connection), repliesOf sid sent)]) ∨
    (tape.lines sid = [] ∧ repliesOf sid sent = [])

section Taped

variable {connects : Session → Prop} {drops : UInt8 → Prop} {tape tape' : Tape} {sid : UInt8}
  {sent sent' : List (Session × List UInt8)}

lemma Taped.of_eq (htape : tape' = tape) (hsent : sent' = sent) :
    Taped connects drops tape sent tape' sent' := by
  rw [htape, hsent]
  exact .same

lemma repliesOf_append (session : Session) (adu : List UInt8) :
    repliesOf sid (sent ++ [(session, adu)]) =
      repliesOf sid sent ++ if session.1 = sid then [adu] else [] := by
  unfold repliesOf
  rw [List.filter_append, List.map_append]
  by_cases h : session.1 = sid <;> simp [h]

lemma Tape.mem_lines {up : Nat} {session : Session} {frames : List (List UInt8)}
    (h : tape[up]? = some (session, frames)) : (session, frames) ∈ tape.lines session.1 :=
  List.mem_filter.mpr ⟨List.mem_of_getElem? h, beq_self_eq_true session.1⟩

/-- A session keeps its line until it is dropped. -/
lemma Taped.lines_ne_nil (h : Taped connects drops tape sent tape' sent')
    (hdrops : ∀ sessionId, drops sessionId → sessionId ≠ sid) (hlines : tape.lines sid ≠ []) :
    tape'.lines sid ≠ [] := by
  cases h with
  | same => exact hlines
  | replied up session frames adu hup =>
    by_cases hsession : session.1 = sid
    · subst hsession
      have hup' : (tape.modify up fun line => (line.1, line.2 ++ [adu]))[up]? =
          some (session, frames ++ [adu]) := by simp [hup]
      exact List.ne_nil_of_mem (Tape.mem_lines hup')
    · rw [Tape.lines, List.filter_modify_of_neg hup (by simpa using hsession)
        (by simpa using hsession)]
      exact hlines
  | connected session _ =>
    rw [Tape.lines, List.filter_append]
    exact List.append_ne_nil_of_left_ne_nil hlines _
  | dropped _ session frames hdrop hperm =>
    intro hnil
    have hlines' := (hperm.filter (·.1.1 == sid)).length_eq
    rw [List.filter_cons_of_neg (by simpa using hdrops session.1 hdrop)] at hlines'
    change (Tape.lines tape' sid).length = (tape.lines sid).length at hlines'
    rw [hnil] at hlines'
    exact hlines (List.eq_nil_of_length_eq_zero hlines'.symm)

/-- What is sent on a session is recorded for it. -/
theorem Taped.recorded (h : Taped connects drops tape sent tape' sent')
    (hconnects : ∀ session, connects session → session.1 = sid → tape.lines sid = [])
    (hdrops : ∀ sessionId, drops sessionId → sessionId ≠ sid) (hr : Recorded sid tape sent) :
    Recorded sid tape' sent' := by
  cases h with
  | same => exact hr
  | replied up session frames adu hup =>
    unfold Recorded
    rw [repliesOf_append]
    by_cases hsession : session.1 = sid
    · subst hsession
      rcases hr with ⟨connection, hline⟩ | ⟨hnone, _⟩
      · obtain ⟨hframes, hmodified⟩ := List.filter_modify_of_singleton
          (f := fun line => (line.1, line.2 ++ [adu])) hline hup (beq_self_eq_true _)
          (beq_self_eq_true _)
        obtain ⟨hsession, hframes⟩ := Prod.mk.inj hframes
        refine Or.inl ⟨connection, hmodified.trans ?_⟩
        rw [if_pos rfl, ← hsession, hframes]
      · have hmem := Tape.mem_lines hup
        rw [hnone] at hmem
        cases hmem
    · rw [if_neg hsession, List.append_nil, Tape.lines,
        List.filter_modify_of_neg hup (by simpa using hsession) (by simpa using hsession)]
      exact hr
  | connected session hconnect =>
    have hlines : Tape.lines (tape ++ [(session, [])]) sid =
        tape.lines sid ++ if session.1 = sid then [(session, [])] else [] := by
      rw [Tape.lines, List.filter_append]
      by_cases hsession : session.1 = sid <;> simp [Tape.lines, hsession]
    unfold Recorded
    rw [hlines]
    by_cases hsession : session.1 = sid
    · have hnone := hconnects session hconnect hsession
      rcases hr with ⟨_, hline⟩ | ⟨_, hnothing⟩
      · rw [hnone] at hline
        cases hline
      · rw [hnone, hnothing, if_pos hsession]
        exact Or.inl ⟨session.2, by rw [← hsession, List.nil_append]⟩
    · rw [if_neg hsession, List.append_nil]
      exact hr
  | dropped _ session frames hdrop hperm =>
    have hlines : (Tape.lines tape' sid).Perm (tape.lines sid) := by
      have hfilter := hperm.filter (·.1.1 == sid)
      rwa [List.filter_cons_of_neg (by simpa using hdrops session.1 hdrop)] at hfilter
    rcases hr with ⟨connection, hline⟩ | ⟨hnone, hnothing⟩
    · rw [hline] at hlines
      exact Or.inl ⟨connection, List.perm_singleton.mp hlines⟩
    · rw [hnone] at hlines
      exact Or.inr ⟨hlines.eq_nil, hnothing⟩

/-- The connected sessions. -/
def Tape.sessions (tape : Tape) : List Session := tape.map Prod.fst

/-- Sessions change only where one is added or dropped. -/
lemma Taped.sessions (h : Taped connects drops tape sent tape' sent') :
    tape'.sessions = tape.sessions ∨
      (∃ session, connects session ∧ tape'.sessions = tape.sessions ++ [session]) ∨
      ∃ session, drops session.1 ∧ (session :: tape'.sessions).Perm tape.sessions := by
  cases h with
  | same => exact Or.inl rfl
  | replied up session frames adu _ =>
    refine Or.inl ?_
    apply List.map_modify_eq
    exact fun _ _ => rfl
  | connected session hconnect => exact Or.inr (Or.inl ⟨session, hconnect, List.map_append⟩)
  | dropped _ session frames hdrop hperm =>
    exact Or.inr (Or.inr ⟨session, hdrop, hperm.map Prod.fst⟩)

end Taped

namespace GatewayServices

variable [Features] {cap : Capacity} {υ δ : Type} {setup : GatewaySetup υ δ}

/-- The sessions, with the frames sent on each. -/
def tape (s : GatewayServices cap υ δ) : Tape :=
  s.upstreams.toList.map fun channel =>
    ((channel.sessionId, channel.connection), channel.link.sent)

/-- The record of the replies, as the sessions see it. -/
def sent (s : GatewayServices cap υ δ) : List (Session × List UInt8) :=
  s.replies.map fun reply => ((reply.sessionId, reply.connection), reply.adu)

lemma tape_sessions (s : GatewayServices cap υ δ) : s.tape.sessions = s.sessions := List.map_map

/-- The id the next upstream is given. -/
def nextSessionId (s : GatewayServices cap υ δ) : UInt8 := UInt8.ofNat s.upstreams.length

/-- The session a step adds. -/
def Connects (action : GatewayAction υ δ) (s : GatewayServices cap υ δ) (session : Session) :
    Prop :=
  (∃ transport, action = .addUpstream transport) ∧ s.upstreams.length < cap.upstream ∧
    session = (s.nextSessionId, s.connections)

section Cases

variable {connects : Session → Prop} {drops : UInt8 → Prop} {s s' : GatewayServices cap υ δ}
  {nowMs : UInt64}

lemma getElem?_tape {up : Nat} {channel : UpstreamChannel υ}
    (h : s.upstreams.toList[up]? = some channel) :
    s.tape[up]? = some ((channel.sessionId, channel.connection), channel.link.sent) := by
  rw [tape, List.getElem?_map, h]
  rfl

variable (connects drops) in
/-- A step that changes the tape and the record together. -/
def TapedTo (s s' : GatewayServices cap υ δ) : Prop :=
  Taped connects drops s.tape s.sent s'.tape s'.sent

lemma tape_congr (h : s'.upstreams = s.upstreams) : s'.tape = s.tape := by
  rw [tape, h]
  rfl

/-- A step that sends nothing upstream. -/
lemma TapedTo.of_eq (htape : s'.tape = s.tape) (hreplies : s'.replies = s.replies) :
    TapedTo connects drops s s' := by
  refine Taped.of_eq htape ?_
  rw [sent, hreplies]
  rfl

lemma TapedTo.congr {s₁ : GatewayServices cap υ δ} (h : TapedTo connects drops s₁ s')
    (htape : s₁.tape = s.tape) (hreplies : s₁.replies = s.replies) :
    TapedTo connects drops s s' := by
  unfold TapedTo sent at h ⊢
  rwa [htape, hreplies] at h

lemma tapedTo_sendReply (s : GatewayServices cap υ δ) (up : Nat) (request : UpstreamRequest)
    (adu : List UInt8) (delivery : Option Delivery) :
    TapedTo connects drops s (s.sendReply setup up request adu delivery).2 := by
  unfold sendReply
  split
  next => exact .same
  next channel hup =>
    have htape : (s.upstreams.toList.modify up fun channel : UpstreamChannel υ =>
        { channel with link := (channel.link.send setup.upstream adu).2 }).map
          (fun channel => ((channel.sessionId, channel.connection), channel.link.sent)) =
        s.tape.modify up fun line => (line.1, line.2 ++ [adu]) := by
      apply List.map_modify_comm
      exact fun _ => rfl
    have hsent : (s.replies ++ [Reply.mk request channel.sessionId channel.connection adu
        delivery]).map (fun reply => ((reply.sessionId, reply.connection), reply.adu)) =
        s.sent ++ [((channel.sessionId, channel.connection), adu)] := List.map_append
    unfold TapedTo tape sent
    dsimp only
    rw [HVec.modify_toList, htape, hsent]
    exact .replied up _ channel.link.sent adu (getElem?_tape hup)

lemma tapedTo_sendExceptionUpstream (s : GatewayServices cap υ δ) (upstream : Option Nat)
    (request : UpstreamRequest) (code : ExceptionCode) :
    TapedTo connects drops s (s.sendExceptionUpstream setup upstream request code) := by
  cases upstream with
  | none => exact .same
  | some up =>
    rw [sendExceptionUpstream_some]
    exact tapedTo_sendReply s up request _ none

variable {request : PendingRequest}

lemma Dispatched.tapedTo {i : Nat} (h : Dispatched setup s i request nowMs s') :
    TapedTo connects drops s s' := by
  cases h with
  | refused _ => exact tapedTo_sendExceptionUpstream _ _ _ _
  | unencodable => exact .of_eq rfl rfl
  | unsent txnMap internalTxn adu _ =>
    refine (tapedTo_sendExceptionUpstream _ _ _ _).congr ?_ ?_
    · exact tape_congr (sendDownstream_upstreams setup { s with txnMap } i adu)
    · exact sendDownstream_replies setup _ i adu
  | overflowed txnMap internalTxn adu _ _ =>
    have htape := tape_congr (sendDownstream_upstreams setup { s with txnMap } i adu)
    exact .of_eq htape (sendDownstream_replies setup { s with txnMap } i adu)
  | sent txnMap internalTxn adu deadlineMs _ =>
    have htape := tape_congr (sendDownstream_upstreams setup { s with txnMap } i adu)
    exact .of_eq htape (sendDownstream_replies setup { s with txnMap } i adu)

lemma HandedOn.tapedTo {dispatches : Nat → PendingRequest → Prop}
    (h : HandedOn setup dispatches s request nowMs s') : TapedTo connects drops s s' := by
  cases h with
  | refused upstream code _ _ => exact tapedTo_sendExceptionUpstream s upstream _ code
  | queued => exact .of_eq rfl rfl
  | dispatched _ _ _ _ h => exact h.tapedTo

lemma Polled.tapedTo {i : Nat} (h : Polled setup s i nowMs s') : TapedTo connects drops s s' := by
  cases h with
  | untouched _ => exact .of_eq rfl rfl
  | expired _ _ internalTxn _ request _ =>
    exact tapedTo_sendExceptionUpstream (s.removeTxn internalTxn) _ _ _
  | broken _ received internalTxn _ request _ =>
    exact tapedTo_sendExceptionUpstream
      ((s.modifyDownstream i fun _ => received).removeTxn internalTxn) _ _ _
  | incomplete => exact .of_eq rfl rfl
  | completed channel received internalTxn deadlineMs request expectedLen =>
    rcases completeResponse_cases setup (s.modifyDownstream i fun _ => received) i expectedLen
        received internalTxn request with ⟨h, _⟩ | ⟨response, entry, up, _, h⟩
    · rw [setState, modifyDownstream, h]
      exact .of_eq rfl rfl
    · rw [setState, modifyDownstream, h]
      exact tapedTo_sendReply ((s.modifyDownstream i fun _ => received).takeResponse i expectedLen
        internalTxn) up request.toUpstreamRequest _ _

end Cases

/-- An upstream whose line on the tape does not change. -/
lemma tape_modify {s s' : GatewayServices cap υ δ} {up : Nat}
    {f : UpstreamChannel υ → UpstreamChannel υ} (hs' : s'.upstreams = s.upstreams.modify up f)
    (h : ∀ channel, s.upstreams.toList[up]? = some channel →
      (f channel).sessionId = channel.sessionId ∧ (f channel).connection = channel.connection ∧
        (f channel).link.sent = channel.link.sent) :
    s'.tape = s.tape := by
  rw [tape, hs']
  refine List.map_modify_eq fun channel hup => ?_
  obtain ⟨hid, hconnection, hsent⟩ := h channel hup
  rw [hid, hconnection, hsent]

variable (setup) in
/-- Every step changes the tape and the record together. -/
theorem tapedTo_perform (action : GatewayAction υ δ) (s : GatewayServices cap υ δ) :
    TapedTo (Connects action s) (Drops action) s (GatewayM.perform setup action s) := by
  cases action with
  | environment upstream downstream router =>
    refine Taped.of_eq ?_ rfl
    unfold tape
    rw [GatewayM.perform, GatewayM.environment, HVec.mapIdx_toList]
    apply List.map_mapIdx_eq
    exact fun _ _ => rfl
  | addUpstream transport =>
    rw [GatewayM.perform, addUpstream]
    split
    next upstreams hpush =>
      have hlt : s.upstreams.length < cap.upstream := by
        have hle := upstreams.length_le
        rwa [HVec.extendFromSlice_eq_some.mp hpush, List.length_append] at hle
      have htape : upstreams.toList.map (fun channel =>
          ((channel.sessionId, channel.connection), channel.link.sent)) =
          s.tape ++ [((s.nextSessionId, s.connections), [])] := by
        rw [HVec.extendFromSlice_eq_some.mp hpush, List.map_append]
        rfl
      have hconnected : Taped (Connects (.addUpstream transport) s)
          (Drops (.addUpstream transport : GatewayAction υ δ)) s.tape s.sent
          (s.tape ++ [((s.nextSessionId, s.connections), [])]) s.sent :=
        .connected _ ⟨⟨transport, rfl⟩, hlt, rfl⟩
      rw [← htape] at hconnected
      exact hconnected
    next => exact .of_eq rfl rfl
  | addDownstream transport =>
    rw [GatewayM.perform, addDownstream]
    split <;> exact .of_eq rfl rfl
  | pollDownstream i nowMs => exact (pollDownstream_cases s i nowMs).tapedTo
  | serviceNext nowMs =>
    rcases serviceNext_cases setup s nowMs with ⟨_, hsame⟩ | ⟨request, pending, _, hon⟩
    · rw [hsame]
      exact .of_eq rfl rfl
    · exact hon.tapedTo.congr rfl rfl
  | receiveUpstream up =>
    rw [GatewayM.perform, receiveUpstream]
    split
    next => exact .of_eq rfl rfl
    next channel hup =>
      have hrecv : ({ s with upstreams := s.upstreams.modify up fun channel' =>
          { channel' with link := (channel.link.recv setup.upstream).2 } } :
          GatewayServices cap υ δ).tape = s.tape := by
        refine tape_modify rfl fun channel' hup' => ⟨rfl, rfl, ?_⟩
        rw [hup] at hup'
        cases hup'
        rfl
      dsimp only
      split
      · refine Taped.of_eq (Eq.trans ?_ hrecv) rfl
        exact tape_modify rfl fun _ _ => ⟨rfl, rfl, rfl⟩
      all_goals exact Taped.of_eq hrecv rfl
  | upstreamRound up nowMs =>
    have hrounded := upstreamRound_cases setup s up nowMs
    generalize GatewayM.perform setup (.upstreamRound up nowMs) s = s' at hrounded ⊢
    cases hrounded with
    | nothing _ => exact .of_eq rfl rfl
    | undecodable _ _ => exact .of_eq (tape_modify rfl fun _ _ => ⟨rfl, rfl, rfl⟩) rfl
    | accepted _ _ _ _ _ _ _ hon =>
      exact hon.tapedTo.congr (tape_modify rfl fun _ _ => ⟨rfl, rfl, rfl⟩) rfl
  | removeSession sessionIdx =>
    rw [GatewayM.perform, removeSession]
    cases hfind : s.findUpstream sessionIdx with
    | none => exact .of_eq rfl rfl
    | some pos =>
      dsimp only
      split
      next removed upstreams hswap =>
        obtain ⟨channel, hpos, hid⟩ := findUpstream_eq_some hfind
        rw [HVec.getElem?_of_swapRemove hswap] at hpos
        cases hpos
        subst hid
        have hperm := (HVec.swapRemove_perm hswap).map fun channel : UpstreamChannel υ =>
          ((channel.sessionId, channel.connection), channel.link.sent)
        exact .dropped _ (removed.sessionId, removed.connection) removed.link.sent rfl hperm
      next => exact .of_eq rfl rfl

end GatewayServices

end ModbusRs.Gateway
