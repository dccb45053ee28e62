import AotDrone.Backend.State
import AotDrone.Lib.Binary64
import AotDrone.Lib.Run

/-! The command bridge beside the threads that write what it reads (`cmd_bridge.py`). A tick reads the
intent, the VIS snapshot and the VIS age under three acquisitions of the lock, and any step of another
thread may fall between them. -/

namespace AotDrone.Backend
open AotDrone.Lib AotDrone.Lib.Double AotDrone.Lib.Run AotDrone.Json

/-- What the constructor of `CmdBridge` accepts, as far as a tick reads it. -/
structure BridgeConfig where
  visFresh : Double := fin (1 / 4)
  maxPayloadBytes : Nat := 4096
  connectBackoffInitial : Double := 1
  connectBackoffMax : Double := 5
  visFresh_nonneg : ¬ visFresh < 0 := by decide +kernel
  maxPayloadBytes_pos : 0 < maxPayloadBytes := by decide

/-- The defaults of the constructor. -/
def BridgeConfig.unset : BridgeConfig := {}

/-- How far the tick under way has come. `receivedAt` is when the snapshot was received: the bridge
does not read it, the statements about it do. -/
inductive TickStage where
  | idle
  | readIntent (now : Double) (intent : Option Intent)
  | readVis (now : Double) (intent : Option Intent) (snapshot : Option VisMessage) (receivedAt : Option Double)
  /-- The thread has ended with an exception. -/
  | crashed

structure CmdBridge where
  shared : SharedState
  stage : TickStage := .idle
  socketOpen : Bool := false
  nextConnectAttempt : Double := 0
  connectBackoff : Double

/-- A step of one of the threads: the VIS ingestor, a request to `/api/intent`, a call of `stop`, or
the bridge. -/
inductive BridgeAction where
  | recordVisOk (msg : VisMessage) (rxMonotonic : Double)
  | updateIntent (intent : Intent) (updateMonotonic : Double)
  | closeSocket
  | attemptConnect (now : Double) (connects : Bool)
  | getLatestIntent (now : Double)
  | getLatestVis
  | getVisAge (sends : Bool)

namespace CmdBridge
variable [Fpu] (config : BridgeConfig)

omit [Fpu] in
/-- Before the first tick. -/
def init (cmdNextSeq : ℤ) : CmdBridge :=
  { shared := { cmdNextSeq := cmdNextSeq }, connectBackoff := config.connectBackoffInitial }

def attemptConnect (bridge : CmdBridge) (now : Double) (connects : Bool) : CmdBridge :=
  if now < bridge.nextConnectAttempt then bridge
  else
    let shared := bridge.shared.recordFcConnectAttempt now
    if connects then
      { bridge with
        shared := shared.setFcConnected true
        socketOpen := true
        nextConnectAttempt := now
        connectBackoff := config.connectBackoffInitial }
    else
      { bridge with
        shared := shared.setFcConnected false
        nextConnectAttempt := now + bridge.connectBackoff
        connectBackoff := pyMin (bridge.connectBackoff * 2) config.connectBackoffMax }

variable [FloatRepr]

/-- `_send_tick` from the age on, with the payload it sends. What follows the age touches only fields
that no other thread writes, so it is one step. -/
def sendTick (bridge : CmdBridge) (now : Double) (intent : Option Intent) (snapshot : Option VisMessage)
    (sends : Bool) : CmdBridge × Option CmdPayload :=
  let age := bridge.shared.getVisAge now
  let (seq, shared) := bridge.shared.reserveCmdSeq none
  match buildCmdPayload seq now intent snapshot age config.visFresh with
  | .error _ => ({ bridge with shared := shared, stage := .crashed }, none)
  | .ok (payload, reason) =>
    let shared := (shared.setTrackingBlockedReason reason).recordCmdTxAttempt
    match frameCmdPayload payload config.maxPayloadBytes with
    | .error (.valueError _) => ({ bridge with shared := shared.recordCmdTxFail, stage := .idle }, none)
    | .error .structError => ({ bridge with shared := shared, stage := .crashed }, none)
    | .ok frame =>
      let shared := shared.recordLastCmdPayload payload (frame.length - 4)
      if ¬ bridge.socketOpen then
        ({ bridge with
           shared := shared.recordCmdTxFail.setFcConnected false
           stage := .idle
           nextConnectAttempt := now }, none)
      else if ¬ sends then
        ({ bridge with
           shared := shared.recordCmdTxFail.setFcConnected false
           stage := .idle
           socketOpen := false
           nextConnectAttempt := now + bridge.connectBackoff
           connectBackoff := pyMin (bridge.connectBackoff * 2) config.connectBackoffMax }, none)
      else ({ bridge with shared := shared.recordCmdTxOk now, stage := .idle }, some payload)

/-- One step, and the payload it sends if it sends one. A step of the bridge out of its turn does nothing. -/
def act (bridge : CmdBridge) : BridgeAction → CmdBridge × Option CmdPayload
  | .recordVisOk msg rxMonotonic => ({ bridge with shared := bridge.shared.recordVisOk msg rxMonotonic }, none)
  | .updateIntent intent updateMonotonic =>
    ({ bridge with shared := bridge.shared.updateIntent intent updateMonotonic }, none)
  | .closeSocket => ({ bridge with socketOpen := false }, none)
  | .attemptConnect now connects =>
    match bridge.stage, bridge.socketOpen with
    | .idle, false => (bridge.attemptConnect config now connects, none)
    | _, _ => (bridge, none)
  | .getLatestIntent now =>
    match bridge.stage, bridge.socketOpen with
    | .idle, true => ({ bridge with stage := .readIntent now bridge.shared.latestIntent }, none)
    | _, _ => (bridge, none)
  | .getLatestVis =>
    match bridge.stage with
    | .readIntent now intent =>
      ({ bridge with
         stage := .readVis now intent bridge.shared.vis.latest bridge.shared.vis.lastRxMonotonic }, none)
    | _ => (bridge, none)
  | .getVisAge sends =>
    match bridge.stage with
    | .readVis now intent snapshot _ => bridge.sendTick config now intent snapshot sends
    | _ => (bridge, none)

def step (bridge : CmdBridge) (action : BridgeAction) : CmdBridge := (bridge.act config action).1

/-- The payload of the frame a step sends. -/
def sent (bridge : CmdBridge) (action : BridgeAction) : Option CmdPayload := (bridge.act config action).2

/-! ## What goes out with a frame -/

omit [FloatRepr] in
/-- The snapshot that the tick has read was received at most `visFresh` before the tick. -/
def SampleFresh (bridge : CmdBridge) : Prop :=
  match bridge.stage with
  | .readVis now _ _ (some receivedAt) => SharedState.ageSince now receivedAt ≤ config.visFresh
  | _ => False

omit [FloatRepr] in
/-- A fresh message has landed since the tick read its snapshot, and the snapshot is stale. -/
def Overtaken (bridge : CmdBridge) : Prop :=
  match bridge.stage with
  | .readVis now _ _ (some receivedAt) =>
    ¬ SharedState.ageSince now receivedAt ≤ config.visFresh ∧
      ∃ newest ∈ bridge.shared.vis.lastRxMonotonic, SharedState.ageSince now newest ≤ config.visFresh
  | _ => False

/-- A frame that carries a tracking object, or asks for Tracking, carries a fresh sample. -/
def NoStaleSample (_ : Past CmdBridge BridgeAction) (bridge : CmdBridge) (action : BridgeAction) : Prop :=
  ∀ payload ∈ bridge.sent config action,
    payload.tracking.isSome = true ∨ payload.desiredMode = modeTracking → bridge.SampleFresh config

/-- No frame goes out of a tick that was overtaken between its two reads. -/
def NotOvertaken (_ : Past CmdBridge BridgeAction) (bridge : CmdBridge) (action : BridgeAction) : Prop :=
  (bridge.sent config action).isSome = true → ¬ bridge.Overtaken config

omit [Fpu] [FloatRepr] in
/-- A message and the time of its receipt come together. -/
def VisPaired (bridge : CmdBridge) : Prop :=
  bridge.shared.vis.latest.isSome = bridge.shared.vis.lastRxMonotonic.isSome ∧
    ∀ now intent snapshot receivedAt,
      bridge.stage = .readVis now intent snapshot receivedAt → snapshot.isSome = receivedAt.isSome

variable {config}

/-! ## Step lemmas -/

omit [Fpu] [FloatRepr] in
/-- A payload carries a sample exactly when the reads call it fresh, and asks for Tracking only then. -/
theorem buildCmdPayload_fresh {seq : ℤ} {now : Double} {intent : Option Intent} {snapshot : Option VisMessage}
    {age : Option Double} {visFresh : Double} {payload : CmdPayload} {reason : Option BlockedReason}
    (built : buildCmdPayload seq now intent snapshot age visFresh = .ok (payload, reason)) :
    payload.tracking.isSome = isVisFresh snapshot age visFresh ∧
      (payload.desiredMode = modeTracking → isVisFresh snapshot age visFresh = true) := by
  obtain ⟨⟨-, -, -, tracking⟩, -, mode⟩ := buildCmdPayload_ok built
  refine ⟨?_, mode⟩
  rw [tracking]
  cases fresh : isVisFresh snapshot age visFresh with
  | false => rfl
  | true =>
    have present : snapshot.isSome = true := (Bool.and_eq_true_iff.1 fresh).1
    simp [present]

/-- What a tick that sends has built, from the age it has just read. -/
theorem sendTick_sent {bridge : CmdBridge} {now : Double} {intent : Option Intent} {snapshot : Option VisMessage}
    {sends : Bool} {payload : CmdPayload} (out : (bridge.sendTick config now intent snapshot sends).2 = some payload) :
    ∃ seq reason, buildCmdPayload seq now intent snapshot (bridge.shared.getVisAge now) config.visFresh =
      .ok (payload, reason) := by
  unfold sendTick at out
  dsimp only at out
  split at out
  · cases out
  · next built =>
    split at out
    · cases out
    · cases out
    · split_ifs at out
      cases out
      exact ⟨_, _, built⟩

variable (config) in
/-- A tick leaves the VIS stream and the intent alone and ends without a snapshot. -/
theorem sendTick_frame (bridge : CmdBridge) (now : Double) (intent : Option Intent) (snapshot : Option VisMessage)
    (sends : Bool) :
    (bridge.sendTick config now intent snapshot sends).1.shared.vis = bridge.shared.vis ∧
      (bridge.sendTick config now intent snapshot sends).1.shared.latestIntent = bridge.shared.latestIntent ∧
      ((bridge.sendTick config now intent snapshot sends).1.stage = .idle ∨
        (bridge.sendTick config now intent snapshot sends).1.stage = .crashed) := by
  simp only [sendTick]
  cases buildCmdPayload _ now intent snapshot (bridge.shared.getVisAge now) config.visFresh with
  | error _ => simp
  | ok built =>
    dsimp only
    cases frameCmdPayload built.1 config.maxPayloadBytes with
    | error raised => cases raised <;> simp
    | ok frame => cases bridge.socketOpen <;> cases sends <;> simp

/-- Only a tick that has read a snapshot sends. -/
theorem sent_cases {bridge : CmdBridge} {action : BridgeAction} {payload : CmdPayload}
    (out : bridge.sent config action = some payload) :
    ∃ now intent snapshot receivedAt, bridge.stage = .readVis now intent snapshot receivedAt ∧
      ∃ seq reason, buildCmdPayload seq now intent snapshot (bridge.shared.getVisAge now) config.visFresh =
        .ok (payload, reason) := by
  unfold sent at out
  cases action with
  | recordVisOk msg rxMonotonic => cases out
  | updateIntent intent updateMonotonic => cases out
  | closeSocket => cases out
  | attemptConnect now connects =>
    simp only [act] at out
    split at out <;> cases out
  | getLatestIntent now =>
    simp only [act] at out
    split at out <;> cases out
  | getLatestVis =>
    simp only [act] at out
    split at out <;> cases out
  | getVisAge sends =>
    cases read : bridge.stage with
    | idle => simp [act, read] at out
    | readIntent now intent => simp [act, read] at out
    | crashed => simp [act, read] at out
    | readVis now intent snapshot receivedAt =>
      simp only [act, read] at out
      exact ⟨now, intent, snapshot, receivedAt, rfl, sendTick_sent out⟩

theorem visPaired_step {bridge : CmdBridge} (paired : bridge.VisPaired) (action : BridgeAction) :
    (bridge.step config action).VisPaired := by
  obtain ⟨shared, staged⟩ := paired
  unfold step
  cases action with
  | recordVisOk msg rxMonotonic => exact ⟨rfl, staged⟩
  | updateIntent intent updateMonotonic => exact ⟨shared, staged⟩
  | closeSocket => exact ⟨shared, staged⟩
  | attemptConnect now connects =>
    simp only [act]
    split
    · simp only [CmdBridge.attemptConnect]
      split_ifs
      · exact ⟨shared, staged⟩
      · exact ⟨shared, staged⟩
      · exact ⟨shared, staged⟩
    · exact ⟨shared, staged⟩
  | getLatestIntent now =>
    simp only [act]
    split
    · exact ⟨shared, by rintro _ _ _ _ ⟨⟩⟩
    · exact ⟨shared, staged⟩
  | getLatestVis =>
    simp only [act]
    split
    · refine ⟨shared, ?_⟩
      rintro _ _ _ _ ⟨⟩
      exact shared
    · exact ⟨shared, staged⟩
  | getVisAge sends =>
    simp only [act]
    split
    · next now intent snapshot receivedAt _ =>
      obtain ⟨vis, -, ended⟩ := sendTick_frame config bridge now intent snapshot sends
      refine ⟨by rw [vis, shared], ?_⟩
      intro _ _ _ _ read
      rcases ended with ended | ended <;> rw [ended] at read <;> cases read
    · exact ⟨shared, staged⟩

/-- A frame carries a stale sample exactly when its tick was overtaken. -/
theorem noStaleSample_iff (past : Past CmdBridge BridgeAction) {bridge : CmdBridge} (paired : bridge.VisPaired)
    (action : BridgeAction) :
    bridge.NoStaleSample config past action ↔ bridge.NotOvertaken config past action := by
  unfold NoStaleSample NotOvertaken
  cases out : bridge.sent config action with
  | none => simp
  | some payload =>
    obtain ⟨now, intent, snapshot, receivedAt, read, seq, reason, built⟩ := sent_cases out
    have carries : payload.tracking.isSome = true ∨ payload.desiredMode = modeTracking ↔
        isVisFresh snapshot (bridge.shared.getVisAge now) config.visFresh = true := by
      obtain ⟨sample, mode⟩ := buildCmdPayload_fresh built
      rw [← sample] at mode ⊢
      exact ⟨fun either => either.elim id mode, .inl⟩
    have present := paired.2 now intent snapshot receivedAt read
    simp only [Option.mem_def, Option.some.injEq, forall_eq', carries, Option.isSome_some, forall_const]
    simp only [SampleFresh, Overtaken, read, isVisFresh, present, SharedState.getVisAge]
    cases receivedAt with
    | none => simp
    | some received =>
      cases bridge.shared.vis.lastRxMonotonic with
      | none => simp
      | some newest =>
        simpa using not_imp_not.symm

/-- No frame mixes an old sample with a new age along exactly the interleavings in which no frame
goes out of a tick that was overtaken between its two reads. -/
theorem noStaleSample_always_iff (config : BridgeConfig) (cmdNextSeq : ℤ) (actions : List BridgeAction) :
    Always (CmdBridge.step config) (fun past bridge action => bridge.NoStaleSample config past action) []
        (init config cmdNextSeq) actions ↔
      Always (CmdBridge.step config) (fun past bridge action => bridge.NotOvertaken config past action) []
        (init config cmdNextSeq) actions := by
  apply Always.iff_of_invariant (fun _ bridge => bridge.VisPaired) (D := fun _ _ _ => True)
  · intro past bridge action paired _
    exact noStaleSample_iff past paired action
  · intro past bridge action paired _ _
    exact visPaired_step paired action
  · exact ⟨rfl, by rintro _ _ _ _ ⟨⟩⟩
  · exact Always.true _ _ _

end CmdBridge

section hardware
attribute [local instance] Binary64.binary64 plainRepr

def sighting (seq : ℤ) : VisMessage where
  seq := seq
  timestamp := 1
  trackingState := trackingStateTracking
  locX := 0
  locY := 0
  boundW := fin (1 / 4)
  boundH := fin (1 / 4)
  confidence := 1

/-- Vision is out for ten seconds and resumes between the two reads of a tick. -/
def visionResumes : List BridgeAction :=
  [.attemptConnect 0 true, .recordVisOk (sighting 1) 0, .updateIntent { desiredMode := modeTracking } 1,
    .getLatestIntent 10, .getLatestVis, .recordVisOk (sighting 2) 10, .getVisAge true]

instance (config : BridgeConfig) (bridge : CmdBridge) : Decidable (bridge.SampleFresh config) := by
  unfold CmdBridge.SampleFresh
  split <;> infer_instance

instance (config : BridgeConfig) (past : Past CmdBridge BridgeAction) (bridge : CmdBridge) (action : BridgeAction) :
    Decidable (bridge.NoStaleSample config past action) :=
  inferInstanceAs (Decidable (∀ payload ∈ bridge.sent config action,
    payload.tracking.isSome = true ∨ payload.desiredMode = modeTracking → bridge.SampleFresh config))

theorem vision_resumes_with_old_sample :
    ¬ Always (CmdBridge.step {}) (fun past bridge action => bridge.NoStaleSample {} past action) []
      (CmdBridge.init {} 0) visionResumes := by
  decide +kernel

end hardware
end AotDrone.Backend
