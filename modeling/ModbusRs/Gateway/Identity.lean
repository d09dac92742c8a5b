import ModbusRs.Gateway.Custody
import Mathlib.Data.List.Nodup

/-!
# Session ids and the upstreams behind them

A session id is the number of upstreams connected at the time, and upstreams leave from the
middle. An id can then be given to a second upstream, or to a new one while requests of the old
one are still on their way. As long as no id in use is given out, an id stands for one upstream,
and every reply goes to the upstream that made the request.
-/

namespace ModbusRs.Gateway.GatewayServices

variable [Features] {cap : Capacity} {υ δ : Type} (setup : GatewaySetup υ δ)

/-- The next id belongs to no connected upstream, and no request in the queue, in the map or on
a channel refers to it. -/
def SessionIdFree (s : GatewayServices cap υ δ) : Prop :=
  (∀ session ∈ s.sessions, session.1 ≠ s.nextSessionId) ∧
    (∀ request ∈ s.waiting, request.sessionIdx ≠ s.nextSessionId) ∧
    ∀ entry ∈ s.txnMap.entries.toList, entry.sessionId ≠ s.nextSessionId

instance (s : GatewayServices cap υ δ) : Decidable s.SessionIdFree :=
  inferInstanceAs (Decidable (_ ∧ _ ∧ _))

/-- An upstream is added only under an id that is not in use. -/
def AddsFree (action : GatewayAction υ δ) (s : GatewayServices cap υ δ) : Prop :=
  match action with
  | .addUpstream _ => s.upstreams.length < cap.upstream → s.SessionIdFree
  | _ => True

/-- An id stands for one upstream: no two connected upstreams share it, what waits under it was
made by the upstream that has it, and what was sent was sent to the upstream that asked. -/
structure Identified (s : GatewayServices cap υ δ) : Prop where
  nodup : (s.upstreams.toList.map (·.sessionId)).Nodup
  waiting : ∀ request ∈ s.waiting, ∀ channel ∈ s.upstreams.toList,
    channel.sessionId = request.sessionIdx → channel.connection = request.connection
  replies : ∀ reply ∈ s.replies, reply.connection = reply.request.connection

variable {setup}

lemma map_fst_sessions (s : GatewayServices cap υ δ) :
    s.sessions.map Prod.fst = s.upstreams.toList.map (·.sessionId) := List.map_map

/-- The same, over the pairs of ids and upstreams. -/
lemma identified_iff {s : GatewayServices cap υ δ} :
    Identified s ↔ (s.sessions.map Prod.fst).Nodup ∧
      (∀ request ∈ s.waiting, ∀ session ∈ s.sessions, session.1 = request.sessionIdx →
        session.2 = request.connection) ∧
      ∀ reply ∈ s.replies, reply.connection = reply.request.connection := by
  rw [map_fst_sessions]
  constructor
  · intro h
    refine ⟨h.nodup, fun request hrequest session hsession hid => ?_, h.replies⟩
    obtain ⟨channel, hchannel, rfl⟩ := List.mem_map.mp hsession
    exact h.waiting request hrequest channel hchannel hid
  · rintro ⟨hnodup, hwaiting, hreplies⟩
    refine ⟨hnodup, fun request hrequest channel hchannel hid => ?_, hreplies⟩
    exact hwaiting request hrequest _ (List.mem_map.mpr ⟨channel, hchannel, rfl⟩) hid

omit [Features] in
lemma eq_of_nodup_ids {sessions : List Session} (h : (sessions.map Prod.fst).Nodup)
    {session session' : Session} (hmem : session ∈ sessions) (hmem' : session' ∈ sessions)
    (hid : session.1 = session'.1) : session = session' :=
  List.inj_on_of_nodup_map h hmem hmem' hid

section Step

variable {action : GatewayAction υ δ} {s : GatewayServices cap υ δ}

variable (setup) in
lemma sessions_perform (action : GatewayAction υ δ) (s : GatewayServices cap υ δ) :
    (GatewayM.perform setup action s).sessions = s.sessions ∨
      (∃ session, Connects action s session ∧
        (GatewayM.perform setup action s).sessions = s.sessions ++ [session]) ∨
      ∃ session : Session, Drops action session.1 ∧
        (session :: (GatewayM.perform setup action s).sessions).Perm s.sessions := by
  have h := Taped.sessions (tapedTo_perform setup action s)
  simp only [tape_sessions] at h
  exact h

/-- A new session has a number that is not in use. -/
lemma AddsFree.sessionIdFree (h : AddsFree action s) {session : Session}
    (hconnects : Connects action s session) :
    s.SessionIdFree ∧ session.1 = s.nextSessionId := by
  obtain ⟨⟨transport, rfl⟩, hlt, rfl⟩ := hconnects
  exact ⟨h hlt, rfl⟩

lemma nodup_perform (haction : AddsFree action s) (h : (s.sessions.map Prod.fst).Nodup) :
    ((GatewayM.perform setup action s).sessions.map Prod.fst).Nodup := by
  rcases sessions_perform setup action s with hsame |
    ⟨session, hconnects, hadded⟩ | ⟨session, _, hperm⟩
  · rw [hsame]
    exact h
  · obtain ⟨⟨hfree, _⟩, hid⟩ := haction.sessionIdFree hconnects
    rw [hadded, List.map_append, List.nodup_append]
    refine ⟨h, List.nodup_singleton _, ?_⟩
    rintro _ hmem _ hnew rfl
    obtain ⟨old, hold, heq⟩ := List.mem_map.mp hmem
    refine hfree old hold ?_
    rw [heq, List.mem_singleton.mp hnew, hid]
  · have hids := (hperm.map Prod.fst).nodup_iff.mpr h
    exact (List.nodup_cons.mp hids).2

/-- What is in hand was made by the upstream that has its session id. -/
lemma connection_eq_of_inHand (hnodup : (s.sessions.map Prod.fst).Nodup)
    (hwaiting : ∀ request ∈ s.waiting, ∀ session ∈ s.sessions, session.1 = request.sessionIdx →
      session.2 = request.connection) {request : UpstreamRequest}
    (h : request ∈ taken setup action s ∨ request ∈ s.waiting) {session : Session}
    (hsession : session ∈ s.sessions) (hid : session.1 = request.sessionIdx) :
    session.2 = request.connection := by
  rcases h with htaken | hmem
  · obtain ⟨_, _, hown⟩ := mem_taken htaken
    rw [eq_of_nodup_ids hnodup hsession hown hid]
  · exact hwaiting request hmem session hsession hid

end Step

/-- Adding upstreams under free ids keeps every id with its upstream. -/
lemma Identified.perform {action : GatewayAction υ δ} {s : GatewayServices cap υ δ}
    (h : Identified s) (haction : AddsFree action s) :
    Identified (GatewayM.perform setup action s) := by
  obtain ⟨hnodup, hwaiting, hreplies⟩ := identified_iff.mp h
  refine identified_iff.mpr ⟨nodup_perform haction hnodup, ?_, ?_⟩
  · intro request hrequest session hsession hid
    have hhand := (handled_perform setup action s).mem_waiting hrequest
    rcases sessions_perform setup action s with hsame |
      ⟨added, hconnects, hadded⟩ | ⟨dropped, _, hperm⟩
    · rw [hsame] at hsession
      exact connection_eq_of_inHand hnodup hwaiting hhand hsession hid
    · rw [hadded, List.mem_append, List.mem_singleton] at hsession
      rcases hsession with hsession | rfl
      · exact connection_eq_of_inHand hnodup hwaiting hhand hsession hid
      · obtain ⟨⟨_, hfree, _⟩, hnew⟩ := haction.sessionIdFree hconnects
        obtain ⟨⟨transport, rfl⟩, _⟩ := hconnects
        rcases hhand with htaken | hmem
        · cases htaken
        · exact absurd (hid.symm.trans hnew) (hfree request hmem)
    · exact connection_eq_of_inHand hnodup hwaiting hhand
        (hperm.subset (List.mem_cons_of_mem _ hsession)) hid
  · intro reply hreply
    have hanswered : ∀ request, (request ∈ taken setup action s ∨ request ∈ s.waiting) →
        Answered s request reply → reply.connection = reply.request.connection := by
      intro request hhand hanswered
      rw [hanswered.request_eq]
      exact connection_eq_of_inHand hnodup hwaiting hhand hanswered.mem_sessions
        hanswered.sessionId_eq
    rcases mem_replies_perform hreply with hold | ⟨request, hhand, hrefused⟩ |
      ⟨i, nowMs, rfl, hdelivers⟩
    · exact hreplies reply hold
    · exact hanswered request hhand.mem hrefused.toAnswered
    · obtain ⟨request, hmem, hdelivered⟩ := hdelivers.answered
      exact hanswered request (Or.inr hmem) hdelivered

/-- In every run in which upstreams are added under free ids, an id stands for one upstream. -/
theorem identified_of_addsFree {router : Router} {s : GatewayServices cap υ δ}
    (h : Runs.RunWhen AddsFree (GatewayM.perform setup) (.new router) s) : Identified s := by
  refine h.invariant (P := Identified) (fun action s haction hs => hs.perform haction) ?_
  refine ⟨List.nodup_nil, fun _ hmem => ?_, fun _ hmem => ?_⟩ <;> cases hmem

/-- A client reads a register and leaves, and another one connects. -/
def readAndReplaced : List (GatewayAction (List UInt8) (List UInt8)) :=
  answeredRead (valueFrame 0) ++ [.removeSession 0, .addUpstream (readFrame 2)]

omit [Features] in
/-- The second client has the session id of the first one. -/
theorem identified_readAndReplaced :
    letI := Features.minimal
    Identified (readAndReplaced.foldl
      (fun s action => GatewayM.perform (arrivingSetup .stdTcp .stdTcp) action s)
      (.new .passthrough : GatewayServices ⟨1, 1, 1, 0⟩ (List UInt8) (List UInt8))) := by
  let _ := Features.minimal
  have hmeets : Runs.Meets AddsFree (GatewayM.perform (arrivingSetup .stdTcp .stdTcp))
      readAndReplaced
      (.new .passthrough : GatewayServices ⟨1, 1, 1, 0⟩ (List UInt8) (List UInt8)) := by
    refine ⟨fun _ => ?_, trivial, trivial, trivial, trivial, trivial, fun _ => ?_, trivial⟩
    all_goals decide +kernel
  exact identified_of_addsFree (Runs.RunWhen.foldl hmeets)

/-- A transport on which nothing is heard until it is cut off. -/
def silentUntilCut (tt : TransportType) : Transport Bool where
  transportType := tt
  supportsBroadcastWrites := tt.isSerialType
  connect connected := (.ok (), connected)
  disconnect connected := (.ok (), connected)
  send _ connected := (.ok (), connected)
  recv connected := (.error (if connected then .timeout else .connectionClosed), connected)
  isConnected connected := connected

/-- A gateway with such upstreams. -/
def cuttableSetup : GatewaySetup Bool (List UInt8) where
  upstream := silentUntilCut .stdTcp
  transportTypeRt _ := .stdTcp
  downstream := .arriving .stdTcp
  responseTimeoutMs := 1000
  origin _ := none

/-- Two clients connect, the first one is cut off, and a third one connects. -/
def thirdClient : GatewayServices ⟨2, 1, 1, 0⟩ Bool (List UInt8) :=
  let s := GatewayM.perform cuttableSetup (.addUpstream true)
    (GatewayM.perform cuttableSetup (.addUpstream true) (.new .passthrough))
  let s := GatewayM.perform cuttableSetup
    (.environment (fun i connected => connected && i != 0) (fun _ x => x) .passthrough) s
  GatewayM.perform cuttableSetup (.addUpstream true) ((GatewayM.poll cuttableSetup 0).run s).2

lemma reachable_thirdClient : GatewayM.Reachable cuttableSetup thirdClient := by
  unfold thirdClient
  refine GatewayM.Reachable.perform (GatewayM.Reachable.poll ?_ _) _
  exact ((GatewayM.Reachable.new _).perform _ |>.perform _).perform _

omit [Features] in
/-- The third client is given the session id of the second one. -/
theorem thirdClient_not_identified :
    ¬∀ [Features] (setup : GatewaySetup Bool (List UInt8))
      (s : GatewayServices ⟨2, 1, 1, 0⟩ Bool (List UInt8)),
      GatewayM.Reachable setup s → Identified s := by
  intro h
  let _ := Features.minimal
  have hshared : ¬(thirdClient.upstreams.toList.map (·.sessionId)).Nodup := by
    decide +kernel
  exact hshared (h cuttableSetup _ reachable_thirdClient).nodup

end ModbusRs.Gateway.GatewayServices
