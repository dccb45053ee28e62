import AotDrone.Fc.MspRcSink
import AotDrone.Fc.Phases
import AotDrone.Lib.Binary64
import AotDrone.Lib.Decimal

/-! The telemetry datagrams of the loop (`build_tel_json` of `main.cpp`), and what holds of the telemetry in every
turn. -/

namespace AotDrone.Fc
open AotDrone.Lib AotDrone.Lib.Double AotDrone.Lib.Decimal

/-! ## The text -/

/-- A magnitude under `std::fixed` with six digits, in units of the last one. A tie may go either way. -/
class FixedFormat where
  micros : ℚ → ℕ
  nearest : ∀ x : ℚ, |(micros x : ℚ) - |x| * 10 ^ 6| ≤ 1 / 2

def ControlMode.code : ControlMode → ℤ
  | .manual => 0
  | .tracking => 1
  | .landSafely => 2
  | .takeoff => 3

def TrackingState.code : TrackingState → ℤ
  | .noTarget => 1
  | .targetDetected => 2
  | .tracking => 3
  | .searching => 4

/-- Members as the stream writes them, with commas between. -/
def membersText : List (String × Text) → Text
  | [] => []
  | [(name, value)] => '"' :: (name.toList ++ '"' :: ':' :: value)
  | (name, value) :: next :: rest => '"' :: (name.toList ++ '"' :: ':' :: (value ++ ',' :: membersText (next :: rest)))

def intText (n : ℤ) : Text := (Token.ofInt n).render

section text
variable [FixedFormat]

def fixedToken (x : ℚ) : Token := .ofUnits (decide (x < 0)) (FixedFormat.micros x) 6

def fixedText : Double → Text
  | fin x => (fixedToken x).render
  | nan => "nan".toList
  | inf false => "inf".toList
  | inf true => "-inf".toList

/-- What is told of a target: nothing while none is tracked. -/
def toldTarget (telemetry : TelemetryData) (message : TrackingMessage) : TrackingMessage :=
  if telemetry.trackingState = .tracking then
    { message with
      targetX := clampTargetCoord message.targetX
      targetY := clampTargetCoord message.targetY
      boundW := clampUnit message.boundW
      boundH := clampUnit message.boundH
      confidence := clampUnit message.confidence }
  else {}

def buildTelJson (seq : ℕ) (telemetry : TelemetryData) (message : TrackingMessage) (cmdAge mspTxRatio : Double) : Text :=
  let target := toldTarget telemetry message
  '\x7b' ::
    (membersText
        [("type", "\"TEL\"".toList), ("seq", intText seq), ("timestamp_s", fixedText telemetry.timestamp),
          ("control_mode", intText telemetry.controlMode.code), ("cmd_age_s", fixedText cmdAge),
          ("msp_tx_ratio", fixedText mspTxRatio), ("tracking_state", intText telemetry.trackingState.code),
          ("distFront_m", fixedText telemetry.distFront), ("distBack_m", fixedText telemetry.distBack),
          ("distBottom_m", fixedText telemetry.distBottom), ("target_x", fixedText target.targetX),
          ("target_y", fixedText target.targetY), ("bound_w", fixedText target.boundW),
          ("bound_h", fixedText target.boundH), ("confidence", fixedText target.confidence)] ++
      ['\x7d'])

end text

/-! ## The process and its sink -/

/-- The process, with the sink it asks for the ratio of its writes. A sink without a wire counts none. -/
structure TelProcess where
  process : FcProcess
  sink : Msp.MspRcSink := {}

namespace TelProcess
variable [Fpu] [Libc]

/-- An event, and in a turn the outcome `writeChannels` counts if it counts one. -/
def step (p : TelProcess) : Event × Option Bool → TelProcess
  | (.reception frame, _) => { p with process := p.process.step (.reception frame) }
  | (.tick now late ageNow sinkOk, wrote) =>
    { process := p.process.step (.tick now late ageNow sinkOk)
      sink := wrote.elim p.sink fun success => p.sink.count success }

/-- The datagram of a turn. `tel_seq` is a `uint64_t`. -/
def telJson [FixedFormat] (p : TelProcess) (event : Event × Option Bool) : Option Text :=
  (p.process.turn event.1).map fun turn =>
    let after := p.step event
    let controller := after.process.loop.controller
    buildTelJson (p.process.loop.telSeq % 2 ^ 64) controller.telemetryData controller.lastTrackingMsg turn.2.cmdAge
      after.sink.txRatio

end TelProcess

/-! ## What the telemetry says -/

/-- A message every value of which is in its range. -/
structure TrackingMessage.Clamped (message : TrackingMessage) : Prop where
  targetX : clampTargetCoord message.targetX = message.targetX
  targetY : clampTargetCoord message.targetY = message.targetY
  boundW : clampUnit message.boundW = message.boundW
  boundH : clampUnit message.boundH = message.boundH
  confidence : clampUnit message.confidence = message.confidence

theorem clampTargetCoord_idem (value : Double) : clampTargetCoord (clampTargetCoord value) = clampTargetCoord value := by
  obtain ⟨x, clamped, low, high⟩ := clampTargetCoord_within value
  rw [clamped, clampTargetCoord_fin low high]

theorem clampUnit_idem (value : Double) : clampUnit (clampUnit value) = clampUnit value := by
  obtain ⟨x, clamped, low, high⟩ := clampUnit_within value
  rw [clamped]
  change clamp (fin x) (fin 0) (fin 1) = _
  rw [clamp_fin _ _ _ (by norm_num), min_eq_left high, max_eq_right low]

/-- The two tell the same, but for what they tell of tracking, and `after` tells its own mode if `fc` does. -/
structure SameReport (fc after : FlightController) : Prop where
  timestamp : after.telemetryData.timestamp = fc.telemetryData.timestamp
  distFront : after.telemetryData.distFront = fc.telemetryData.distFront
  distBack : after.telemetryData.distBack = fc.telemetryData.distBack
  distBottom : after.telemetryData.distBottom = fc.telemetryData.distBottom
  message : after.lastTrackingMsg = fc.lastTrackingMsg
  mode : fc.telemetryData.controlMode = fc.controlMode → after.telemetryData.controlMode = after.controlMode

namespace SameReport
variable {fc after last : FlightController}

theorem refl (fc : FlightController) : SameReport fc fc := ⟨rfl, rfl, rfl, rfl, rfl, id⟩

theorem trans (first : SameReport fc after) (second : SameReport after last) : SameReport fc last where
  timestamp := second.timestamp.trans first.timestamp
  distFront := second.distFront.trans first.distFront
  distBack := second.distBack.trans first.distBack
  distBottom := second.distBottom.trans first.distBottom
  message := second.message.trans first.message
  mode told := second.mode (first.mode told)

theorem of_steers (steers : FlightController.Steers fc after) : SameReport fc after := by
  rw [steers.2]
  exact ⟨rfl, rfl, rfl, rfl, rfl, id⟩

end SameReport

namespace FlightController
variable (fc : FlightController)

theorem setControlMode_sameReport (mode : ControlMode) : SameReport fc (fc.setControlMode mode) := by
  unfold setControlMode
  split_ifs with same
  · exact ⟨rfl, rfl, rfl, rfl, rfl, fun _ => same⟩
  all_goals exact ⟨rfl, rfl, rfl, rfl, rfl, fun _ => rfl⟩

theorem finishStep_sameReport : SameReport fc fc.finishStep := by
  unfold finishStep
  dsimp only
  split_ifs <;> exact ⟨rfl, rfl, rfl, rfl, rfl, id⟩

variable [Fpu]

theorem runLandSafelyMode_sameReport (dt : Double) : SameReport fc (fc.runLandSafelyMode dt) := by
  unfold runLandSafelyMode
  dsimp only
  split_ifs <;> exact ⟨rfl, rfl, rfl, rfl, rfl, id⟩

theorem landInstead_sameReport (dt : Double) : SameReport fc ((fc.setControlMode .landSafely).runLandSafelyMode dt) :=
  (setControlMode_sameReport fc _).trans (runLandSafelyMode_sameReport _ dt)

theorem runTakeoffMode_sameReport (dt : Double) : SameReport fc (fc.runTakeoffMode dt) := by
  by_cases uncalibrated : fc.hoverThrottle = 0
  · rw [runTakeoffMode_uncalibrated _ _ uncalibrated]
    exact landInstead_sameReport fc dt
  · unfold runTakeoffMode
    rw [if_neg uncalibrated]
    dsimp only
    split_ifs
    all_goals first
      | exact ⟨rfl, rfl, rfl, rfl, rfl, id⟩
      | (refine SameReport.trans ?_ (setControlMode_sameReport _ _)
         exact ⟨rfl, rfl, rfl, rfl, rfl, id⟩)

theorem runTrackingMode_sameReport (dt : Double) : SameReport fc (fc.runTrackingMode dt) := by
  by_cases uncalibrated : fc.hoverThrottle = 0
  · rw [runTrackingMode_uncalibrated _ _ uncalibrated]
    exact landInstead_sameReport fc dt
  · exact .of_steers (runTrackingMode_steers fc dt uncalibrated)

theorem dispatchMode_sameReport (dt : Double) : SameReport fc (fc.dispatchMode dt) := by
  unfold dispatchMode
  cases fc.controlMode with
  | manual => exact .of_steers (runManualMode_steers fc)
  | tracking => exact runTrackingMode_sameReport fc dt
  | landSafely => exact runLandSafelyMode_sameReport fc dt
  | takeoff => exact runTakeoffMode_sameReport fc dt

/-- A control step counts the clock on and tells its own mode. -/
theorem updateTimeStep_report (dt : Double) :
    SameReport { fc with telemetryData.timestamp := fc.telemetryData.timestamp + clampedDt dt } (fc.updateTimeStep dt) := by
  rw [updateTimeStep_eq]
  have started : SameReport { fc with telemetryData.timestamp := fc.telemetryData.timestamp + clampedDt dt }
      (fc.startStep dt) := ⟨rfl, rfl, rfl, rfl, rfl, fun _ => rfl⟩
  exact (started.trans (dispatchMode_sameReport _ _)).trans (finishStep_sameReport _)

end FlightController

/-! ## The turns of the loop -/

theorem latch_sameReport (trigger engaged : Bool) (fc : FlightController) :
    SameReport fc (MainLoop.latch trigger engaged fc).2 := by
  rw [MainLoop.latch_snd]
  split_ifs
  · exact FlightController.setControlMode_sameReport fc _
  · exact .refl fc

/-- What every controller of the loop tells: its own mode, no distance, and a message in its ranges. -/
structure Reports (fc : FlightController) : Prop where
  mode : fc.telemetryData.controlMode = fc.controlMode
  distFront : fc.telemetryData.distFront = 0
  distBack : fc.telemetryData.distBack = 0
  distBottom : fc.telemetryData.distBottom = 0
  message : fc.lastTrackingMsg.Clamped

theorem SameReport.reports {fc after : FlightController} (same : SameReport fc after) (reports : Reports fc) :
    Reports after where
  mode := same.mode reports.mode
  distFront := same.distFront.trans reports.distFront
  distBack := same.distBack.trans reports.distBack
  distBottom := same.distBottom.trans reports.distBottom
  message := same.message ▸ reports.message

theorem updateTracking_reports {fc : FlightController} (reports : Reports fc) (message : TrackingMessage) :
    Reports (fc.updateTracking message) :=
  { reports with
    message := ⟨clampTargetCoord_idem _, clampTargetCoord_idem _, clampUnit_idem _, clampUnit_idem _, clampUnit_idem _⟩ }

section turns
variable [Fpu]

/-- Applying a frame leaves the clock alone. -/
theorem applyCmd_reports {fc : FlightController} (reports : Reports fc) (cmd : CommandFrame) (sink : RcSink) :
    Reports (MainLoop.applyCmd cmd sink fc) ∧
      (MainLoop.applyCmd cmd sink fc).telemetryData.timestamp = fc.telemetryData.timestamp := by
  have moded : SameReport fc (MainLoop.applyMode cmd sink fc) := by
    unfold MainLoop.applyMode applyControlModeSafely
    cases toControlMode cmd.desiredMode with
    | none => exact .refl fc
    | some desired =>
      dsimp only
      split_ifs
      · exact FlightController.setControlMode_sameReport fc desired
      · exact .refl fc
  have armed (fc : FlightController) : SameReport fc (MainLoop.applyArm cmd fc) := by
    unfold MainLoop.applyArm
    split_ifs
    · exact ⟨rfl, rfl, rfl, rfl, rfl, id⟩
    · exact .refl fc
  have overridden (fc : FlightController) : SameReport fc (applySetpointOverrides cmd fc) := by
    unfold applySetpointOverrides
    dsimp only
    split
    · exact .refl fc
    · exact ⟨rfl, rfl, rfl, rfl, rfl, id⟩
  have same := (moded.trans (armed _)).trans (overridden _)
  unfold MainLoop.applyCmd applyTrackingUpdate
  split_ifs
  · cases toTrackingState cmd.tracking.trackingState with
    | none => exact ⟨same.reports reports, same.timestamp⟩
    | some state => exact ⟨updateTracking_reports (same.reports reports) _, same.timestamp⟩
  · exact ⟨same.reports reports, same.timestamp⟩

/-- Up to `updateTimeStep` a turn leaves the clock alone. -/
theorem entry_reports {loop : MainLoop} (reports : Reports loop.controller) (r : Readings) :
    Reports (loop.entry r) ∧
      (loop.entry r).telemetryData.timestamp = loop.controller.telemetryData.timestamp := by
  have applied : Reports (loop.applyLatest r.latest r.sink).controller ∧
      (loop.applyLatest r.latest r.sink).controller.telemetryData.timestamp = loop.controller.telemetryData.timestamp := by
    unfold MainLoop.applyLatest
    cases loop.accepted r.latest with
    | none => exact ⟨reports, rfl⟩
    | some cmd => exact applyCmd_reports reports cmd r.sink
  have stale : SameReport _ ((loop.applyLatest r.latest r.sink).staleLatch r.cmdAge).controller :=
    latch_sameReport _ _ _
  have sunk : SameReport _ (((loop.applyLatest r.latest r.sink).staleLatch r.cmdAge).sinkLatch r.sink).controller :=
    latch_sameReport _ _ _
  have same := stale.trans sunk
  exact ⟨same.reports applied.1, same.timestamp.trans applied.2⟩

/-- A turn counts the clock on by the duration the controller counts. -/
theorem step_reports {loop : MainLoop} (reports : Reports loop.controller) (r : Readings) :
    Reports (loop.step r).controller ∧
      (loop.step r).controller.telemetryData.timestamp =
        loop.controller.telemetryData.timestamp + FlightController.clampedDt r.dt := by
  obtain ⟨entered, time⟩ := entry_reports reports r
  have same := FlightController.updateTimeStep_report (loop.entry r) r.dt
  rw [MainLoop.step_controller]
  refine ⟨same.reports ?_, ?_⟩
  · exact { entered with }
  · rw [same.timestamp, ← time]

theorem boot_reports (hover : HoverEnv) :
    Reports (boot hover).controller ∧ (boot hover).controller.telemetryData.timestamp = 0 := by
  have start : Reports FlightController.init := ⟨rfl, rfl, rfl, rfl, rfl, rfl, rfl, rfl, rfl⟩
  have hovered (fc : FlightController) : SameReport fc (fc.setHoverThrottle hover.us) := by
    unfold FlightController.setHoverThrottle
    split_ifs <;> exact ⟨rfl, rfl, rfl, rfl, rfl, id⟩
  have same := (FlightController.setControlMode_sameReport .init .landSafely).trans (hovered _)
  exact ⟨same.reports start, same.timestamp⟩

end turns

/-! ## Runs within 10^9 seconds -/

/-- A reading of the steady clock, in nanoseconds. -/
def InTime (time : ℤ) : Prop := 0 ≤ time ∧ time ≤ 10 ^ 18

def Event.InTime : Event → Prop
  | .reception frame => Fc.InTime frame.recvTime
  | .tick now late ageNow _ => Fc.InTime now ∧ (∀ frame ∈ late, Fc.InTime frame.recvTime) ∧ Fc.InTime ageNow

section hardware
attribute [local instance] Binary64.binary64

theorem steadySeconds_within {time : ℤ} (inTime : InTime time) : Within 0 (10 ^ 9) (steadySeconds time) := by
  have zero : IsDouble (fin 0) := isDouble_zero
  have most : IsDouble (fin (10 ^ 18)) := by
    change Fpu.round (10 ^ 18) = fin (10 ^ 18)
    decide +kernel
  have seconds : IsDouble (fin (10 ^ 9)) := by
    change Fpu.round (10 ^ 9) = fin (10 ^ 9)
    decide +kernel
  obtain ⟨q, finite, low, high⟩ :=
    round_within zero most (by exact_mod_cast inTime.1 : (0 : ℚ) ≤ time) (by exact_mod_cast inTime.2)
  rw [steadySeconds, finite]
  change Within 0 (10 ^ 9) (fin q / fin 1000000000)
  rw [fin_div (by norm_num)]
  apply round_within zero seconds
  · positivity
  · rw [div_le_iff₀ (by norm_num)]
    linarith

/-- The ratio is a mean of itself and the outcome. -/
theorem count_within {sink : Msp.MspRcSink} (within : Within 0 1 sink.txRatio) (success : Bool) :
    Within 0 1 (sink.count success).txRatio := by
  have alpha : Msp.kTxRatioAlpha = fin (3602879701896397 / 2 ^ 56) := by decide +kernel
  have rest : (1 : Double) - Msp.kTxRatioAlpha = fin (8556839292003942 / 2 ^ 53) := by decide +kernel
  have zero : IsDouble (fin 0) := isDouble_zero
  have kept : Within 0 (8556839292003942 / 2 ^ 53) ((1 - Msp.kTxRatioAlpha) * sink.txRatio) := by
    obtain ⟨q, finite, low, high⟩ := within
    have double : IsDouble (fin (8556839292003942 / 2 ^ 53)) := by
      change Fpu.round (8556839292003942 / 2 ^ 53) = fin (8556839292003942 / 2 ^ 53)
      decide +kernel
    rw [rest, finite]
    exact round_within zero double (by positivity) (mul_le_of_le_one_right (by norm_num) high)
  have added : Within 0 (3602879701896397 / 2 ^ 56) (Msp.kTxRatioAlpha * if success then 1 else 0) := by
    cases success with
    | true => exact ⟨3602879701896397 / 2 ^ 56, by decide +kernel, by norm_num, le_rfl⟩
    | false => exact ⟨0, by decide +kernel, le_rfl, by norm_num⟩
  obtain ⟨a, first, low, high⟩ := kept
  obtain ⟨b, second, low', high'⟩ := added
  rw [Msp.MspRcSink.count, first, second]
  change Within 0 1 (Fpu.round (a + b))
  have least := Fpu.round_mono (add_nonneg low low')
  have most := Fpu.round_mono (add_le_add high high')
  have whole : Fpu.round (8556839292003942 / 2 ^ 53 + 3602879701896397 / 2 ^ 56) = fin 1 := by decide +kernel
  rw [show Fpu.round 0 = fin 0 from zero] at least
  rw [whole] at most
  exact within_of_le least most

/-- The time of a frame, once one has been received. -/
def Received (server : CommandServer) : Prop := Within (-1) (10 ^ 9) server.lastCmdTime

theorem publish_received [Libc] {server : CommandServer} (received : Received server) {frame : Reception}
    (inTime : InTime frame.recvTime) : Received (FcProcess.publish server frame) := by
  unfold FcProcess.publish CommandServer.receive
  split
  · exact received
  · obtain ⟨q, finite, low, high⟩ := steadySeconds_within inTime
    exact ⟨q, finite, by linarith, high⟩

theorem lateServer_received [Libc] {server : CommandServer} (received : Received server) {late : List Reception}
    (inTime : ∀ frame ∈ late, InTime frame.recvTime) : Received (late.foldl FcProcess.publish server) := by
  induction late generalizing server with
  | nil => exact received
  | cons frame late ih =>
    rw [List.forall_mem_cons] at inTime
    exact ih (publish_received received inTime.1) inTime.2

theorem age_within {server : CommandServer} (received : Received server) {now : ℤ} (inTime : InTime now) :
    Within (-10 ^ 9) (10 ^ 9) (server.secondsSinceLastCmd (steadySeconds now)) := by
  unfold CommandServer.secondsSinceLastCmd
  split_ifs with never
  · exact ⟨1000000000, rfl, by norm_num, by norm_num⟩
  · obtain ⟨last, known, -, recent⟩ := received
    obtain ⟨time, finite, low, high⟩ := steadySeconds_within inTime
    rw [known]
    rw [known] at never
    have positive : 0 < last := not_le.1 fun below => never (fin_le_fin.2 below)
    rw [finite, fin_sub]
    have double : IsDouble (fin (10 ^ 9)) := by
      change Fpu.round (10 ^ 9) = fin (10 ^ 9)
      decide +kernel
    have negative : IsDouble (fin (-10 ^ 9)) := by
      change Fpu.round (-10 ^ 9) = fin (-10 ^ 9)
      decide +kernel
    exact round_within negative double (by linarith) (by linarith)

/-- What every process of a run tells is finite and bounded. -/
structure TelProcess.Inv (p : TelProcess) : Prop where
  reports : Reports p.process.loop.controller
  clock : Within 0 (2 ^ 53) p.process.loop.controller.telemetryData.timestamp
  received : Received p.process.server
  ratio : Within 0 1 p.sink.txRatio

theorem TelProcess.step_inv [Libc] {p : TelProcess} (inv : p.Inv) {event : Event × Option Bool}
    (inTime : event.1.InTime) : (p.step event).Inv := by
  obtain ⟨event, wrote⟩ := event
  cases event with
  | reception frame => exact { inv with received := publish_received inv.received inTime }
  | tick now late ageNow sinkOk =>
    obtain ⟨reports, clock⟩ := step_reports inv.reports (p.process.readings now late ageNow sinkOk)
    refine ⟨reports, ?_, lateServer_received inv.received inTime.2.1, ?_⟩
    · change Within 0 (2 ^ 53) (p.process.loop.step _).controller.telemetryData.timestamp
      rw [clock]
      exact Binary64.clock_within inv.clock (FlightController.clampedDt_within _)
    · cases wrote with
      | none => exact inv.ratio
      | some success => exact count_within inv.ratio success

theorem TelProcess.boot_inv (hover : HoverEnv) (tuningMismatch : Bool) (start : ℤ) :
    TelProcess.Inv { process := bootProcess hover tuningMismatch start } where
  reports := (boot_reports hover).1
  clock := ⟨0, (boot_reports hover).2, le_rfl, by norm_num⟩
  received := ⟨-1, rfl, le_rfl, by norm_num⟩
  ratio := ⟨1, rfl, zero_le_one, le_rfl⟩

end hardware
end AotDrone.Fc
