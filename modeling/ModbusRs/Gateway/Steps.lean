import ModbusRs.Gateway.Services
import ModbusRs.Library.Runs

/-!
# The gateway as a system of steps

`poll` is a sequence of smaller actions: look at one downstream channel, serve one waiting
request, receive from one upstream, take one frame from its buffer, drop one session. Between
them the environment may change the transports and the routes, and channels may be added.
-/

namespace ModbusRs.Gateway

/-- What can happen to a gateway. -/
inductive GatewayAction (υ δ : Type) where
  | environment (upstream : Nat → υ → υ) (downstream : Nat → δ → δ) (router : Router)
  | addUpstream (transport : υ)
  | addDownstream (transport : δ)
  | pollDownstream (i : Nat) (nowMs : UInt64)
  | serviceNext (nowMs : UInt64)
  | receiveUpstream (up : Nat)
  | upstreamRound (up : Nat) (nowMs : UInt64)
  | removeSession (sessionIdx : UInt8)

/-- `PassthroughRouter`. -/
def Router.passthrough : Router := ⟨fun _ => some 0, id⟩

/-- A gateway that hears what has arrived. All of it is meant for the first request. -/
def arrivingSetup [Features] (upstreamType downstreamType : TransportType) :
    GatewaySetup (List UInt8) (List UInt8) where
  upstream := .arriving upstreamType
  transportTypeRt _ := upstreamType
  downstream := .arriving downstreamType
  responseTimeoutMs := 1000
  origin _ := some 0

namespace GatewayM

open GatewayServices

variable [Features] {cap : Capacity} {υ δ : Type} (setup : GatewaySetup υ δ)

/-- The environment at work. -/
def environment (upstream : Nat → υ → υ) (downstream : Nat → δ → δ) (router : Router)
    (s : GatewayServices cap υ δ) : GatewayServices cap υ δ :=
  { s with
    upstreams := s.upstreams.mapIdx fun i channel =>
      { channel with link := { channel.link with state := upstream i channel.link.state } }
    downstreams := s.downstreams.mapIdx fun i channel =>
      { channel with link := { channel.link with state := downstream i channel.link.state } }
    router := router }

/-- What an action leaves behind, however it ends. -/
def perform (action : GatewayAction υ δ) (s : GatewayServices cap υ δ) :
    GatewayServices cap υ δ :=
  match action with
  | .environment upstream downstream router => environment upstream downstream router s
  | .addUpstream transport => (s.addUpstream transport).2
  | .addDownstream transport => (s.addDownstream transport).2
  | .pollDownstream i nowMs => (s.pollDownstream setup i nowMs).2
  | .serviceNext nowMs => ((serviceNext setup nowMs).run s).2
  | .receiveUpstream up => (s.receiveUpstream setup up).2
  | .upstreamRound up nowMs => ((upstreamRound setup up nowMs).run s).2
  | .removeSession sessionIdx => s.removeSession sessionIdx

/-- The states a gateway can get into. -/
def Reachable (s : GatewayServices cap υ δ) : Prop :=
  Runs.Reachable (fun s => ∃ router, s = .new router) (perform setup) s

/-! ### Polling is a run -/

/-- Every state the routine can end in is reached by a run. -/
abbrev Steps {α : Type} (m : GatewayM cap υ δ α) : Prop :=
  m.Within (Runs.Run (perform setup))

variable {setup}

lemma steps_pure {α : Type} (a : α) : Steps setup (pure a : GatewayM cap υ δ α) :=
  EffM.within_pure Runs.RunWhen.refl a

lemma steps_gets {α : Type} (f : GatewayServices cap υ δ → α) :
    Steps setup (EffM.gets f : GatewayM cap υ δ α) := fun s => Runs.RunWhen.refl s

lemma steps_bind {α β : Type} {m : GatewayM cap υ δ α} {f : α → GatewayM cap υ δ β}
    (hm : Steps setup m) (hf : ∀ a, Steps setup (f a)) : Steps setup (m >>= f) :=
  EffM.Within.bind (fun _ _ _ => Runs.RunWhen.trans) hm hf

/-- A routine that performs one action. -/
lemma steps_of_perform {α : Type} {m : GatewayM cap υ δ α} (action : GatewayAction υ δ)
    (h : ∀ s, (m.run s).2 = perform setup action s) : Steps setup m := by
  intro s
  rw [h]
  exact Runs.Run.single action s

lemma steps_servicePending (nowMs : UInt64) (limit : Nat) :
    Steps setup (servicePending setup nowMs limit : GatewayM cap υ δ Unit) := by
  induction limit with
  | zero => exact steps_pure ()
  | succ limit ih =>
    refine steps_bind (steps_gets _) fun s => ?_
    split
    · exact steps_pure ()
    · exact steps_bind (steps_of_perform (.serviceNext nowMs) fun _ => rfl) fun _ => ih

lemma steps_drainDownstream (i : Nat) (nowMs : UInt64) :
    Steps setup (drainDownstream setup i nowMs : GatewayM cap υ δ Bool) := by
  refine steps_bind (steps_of_perform (.pollDownstream i nowMs) fun _ => rfl) fun freed => ?_
  cases freed with
  | none => exact steps_pure false
  | some active =>
    exact steps_bind (steps_servicePending nowMs cap.pending) fun _ => steps_pure active

lemma steps_drainDownstreams (nowMs : UInt64) (channels : List Nat) :
    Steps setup (drainDownstreams setup nowMs channels : GatewayM cap υ δ Bool) := by
  induction channels with
  | nil => exact steps_pure false
  | cons i rest ih =>
    refine steps_bind (steps_drainDownstream i nowMs) fun _ => ?_
    exact steps_bind ih fun _ => steps_pure _

end GatewayM

/-- What the parts of a poll do to the services is within a preorder. -/
structure PartsWithin [Features] {cap : Capacity} {υ δ : Type} (setup : GatewaySetup υ δ)
    (R : GatewayServices cap υ δ → GatewayServices cap υ δ → Prop) (nowMs : UInt64) : Prop where
  refl : ∀ s, R s s
  trans : ∀ s₁ s₂ s₃, R s₁ s₂ → R s₂ s₃ → R s₁ s₃
  drainDownstream : ∀ i, (GatewayM.drainDownstream setup i nowMs).Within R
  receiveUpstream : ∀ up s, R s (s.receiveUpstream setup up).2
  upstreamRound : ∀ up, (GatewayM.upstreamRound setup up nowMs).Within R
  removeSession : ∀ sessionIdx s, R s (s.removeSession sessionIdx)

namespace PartsWithin

open GatewayM GatewayServices

variable [Features] {cap : Capacity} {υ δ : Type} {setup : GatewaySetup υ δ}
  {R : GatewayServices cap υ δ → GatewayServices cap υ δ → Prop} {nowMs : UInt64}

lemma gets (h : PartsWithin setup R nowMs) {α : Type} (f : GatewayServices cap υ δ → α) :
    (EffM.gets f : GatewayM cap υ δ α).Within R := fun s => h.refl s

lemma drainDownstreams (h : PartsWithin setup R nowMs) (channels : List Nat) :
    (drainDownstreams setup nowMs channels).Within R := by
  induction channels with
  | nil => exact EffM.within_pure h.refl false
  | cons i rest ih =>
    refine EffM.Within.bind h.trans (h.drainDownstream i) fun _ => ?_
    exact EffM.Within.bind h.trans ih fun _ => EffM.within_pure h.refl _

lemma upstreamFrames (h : PartsWithin setup R nowMs) (up rounds : Nat) :
    (upstreamFrames setup up nowMs rounds).Within R := by
  induction rounds with
  | zero => exact EffM.within_pure h.refl false
  | succ rounds ih =>
    refine EffM.Within.bind h.trans (h.upstreamRound up) fun taken => ?_
    cases taken with
    | none => exact EffM.within_pure h.refl false
    | some active => exact EffM.Within.bind h.trans ih fun _ => EffM.within_pure h.refl _

lemma drainUpstream (h : PartsWithin setup R nowMs) (up : Nat) :
    (drainUpstream setup up nowMs).Within R := by
  refine EffM.Within.bind h.trans (h.receiveUpstream up) fun _ => ?_
  refine EffM.Within.bind h.trans (h.gets _) fun _ => ?_
  exact EffM.Within.bind h.trans (h.upstreamFrames up _) fun _ => EffM.within_pure h.refl _

lemma drainUpstreams (h : PartsWithin setup R nowMs) (channels : List Nat) :
    (drainUpstreams setup nowMs channels).Within R := by
  induction channels with
  | nil => exact EffM.within_pure h.refl _
  | cons up rest ih =>
    refine EffM.Within.bind h.trans (h.drainUpstream up) fun _ => ?_
    exact EffM.Within.bind h.trans ih fun _ => EffM.within_pure h.refl _

lemma removeSessions (h : PartsWithin setup R nowMs) (gone : List UInt8)
    (s : GatewayServices cap υ δ) :
    R s (gone.foldl GatewayServices.removeSession s) := by
  induction gone generalizing s with
  | nil => exact h.refl s
  | cons sessionIdx gone ih => exact h.trans _ _ _ (h.removeSession sessionIdx s) (ih _)

theorem poll (h : PartsWithin setup R nowMs) : (poll setup nowMs).Within R := by
  refine EffM.Within.bind h.trans (h.gets _) fun _ => ?_
  refine EffM.Within.bind h.trans (h.drainDownstreams _) fun _ => ?_
  refine EffM.Within.bind h.trans (h.gets _) fun _ => ?_
  refine EffM.Within.bind h.trans (h.drainUpstreams _) fun drained => ?_
  refine EffM.Within.bind h.trans (EffM.within_modify (h.removeSessions drained.1)) fun _ => ?_
  exact EffM.Within.bind h.trans (h.gets _) fun _ => EffM.within_pure h.refl _

end PartsWithin

namespace GatewayM

open GatewayServices

variable [Features] {cap : Capacity} {υ δ : Type} {setup : GatewaySetup υ δ}

/-- A poll is a run of the smaller actions. -/
theorem steps_poll (nowMs : UInt64) :
    Steps setup (poll setup nowMs : GatewayM cap υ δ PollOutcome) := by
  refine PartsWithin.poll
    { refl := Runs.RunWhen.refl
      trans := fun _ _ _ => Runs.RunWhen.trans
      drainDownstream := fun i => steps_drainDownstream i nowMs
      receiveUpstream := fun up s => Runs.Run.single (GatewayAction.receiveUpstream up) s
      upstreamRound := fun up s => Runs.Run.single (GatewayAction.upstreamRound up nowMs) s
      removeSession := fun sessionIdx s => Runs.Run.single (GatewayAction.removeSession sessionIdx) s }

lemma Reachable.new (router : Router) :
    Reachable setup (.new router : GatewayServices cap υ δ) :=
  ⟨_, ⟨router, rfl⟩, Runs.RunWhen.refl _⟩

lemma Reachable.perform {s : GatewayServices cap υ δ} (h : Reachable setup s)
    (action : GatewayAction υ δ) : Reachable setup (perform setup action s) := by
  obtain ⟨s₀, hs₀, hrun⟩ := h
  exact ⟨s₀, hs₀, hrun.trans (Runs.Run.single action s)⟩

lemma Reachable.poll {s : GatewayServices cap υ δ} (h : Reachable setup s) (nowMs : UInt64) :
    Reachable setup ((poll setup nowMs).run s).2 := by
  obtain ⟨s₀, hs₀, hrun⟩ := h
  exact ⟨s₀, hs₀, hrun.trans (steps_poll nowMs s)⟩

end GatewayM

/-- A client reads a register of unit 1. -/
def readFrame (txnId : UInt8) : List UInt8 :=
  [0x00, txnId, 0x00, 0x00, 0x00, 0x06, 0x01, 0x03, 0x00, 0x00, 0x00, 0x01]

/-- The device answers with a value. -/
def valueFrame (txnId : UInt8) : List UInt8 :=
  [0x00, txnId, 0x00, 0x00, 0x00, 0x05, 0x01, 0x03, 0x02, 0x12, 0x34]

/-- A register is read, and the device sends a response. -/
def answeredRead (response : List UInt8) : List (GatewayAction (List UInt8) (List UInt8)) :=
  [.addUpstream (readFrame 1), .addDownstream response, .receiveUpstream 0, .upstreamRound 0 0,
    .pollDownstream 0 0]

/-- The gateway after these actions. -/
def afterRead [Features] (response : List UInt8) :
    GatewayServices ⟨1, 1, 1, 0⟩ (List UInt8) (List UInt8) :=
  (answeredRead response).foldl
    (fun s action => GatewayM.perform (arrivingSetup .stdTcp .stdTcp) action s) (.new .passthrough)

lemma reachable_afterRead [Features] (response : List UInt8) :
    GatewayM.Reachable (arrivingSetup .stdTcp .stdTcp) (afterRead response) :=
  ⟨_, ⟨.passthrough, rfl⟩, Runs.Run.foldl (answeredRead response) _⟩

end ModbusRs.Gateway
