import AotDrone.Fc.Arming
import AotDrone.Fc.Follow

/-! Tracking over whole runs of the loop: what the outputs say about the last tracking message and how
long ago it was applied. -/

namespace AotDrone.Fc
open AotDrone.Lib AotDrone.Lib.Double AotDrone.Lib.Run

/-- The members that judge a target. Only a tracking update, the clock and the configuration write them. -/
structure Tracked where
  timestamp : Double
  lastTrackingMsg : TrackingMessage
  lastTrackingUpdateTime : Double
  trackingConfig : TrackingConfig

/-- The tracking message a frame hands to the controller. -/
def trackingGiven (cmd : CommandFrame) : Option TrackingMessage :=
  if cmd.tracking.hasTracking then
    (toTrackingState cmd.tracking.trackingState).map fun state =>
      { state
        targetX := cmd.tracking.locX
        targetY := cmd.tracking.locY
        boundW := cmd.tracking.boundW
        boundH := cmd.tracking.boundH
        confidence := cmd.tracking.confidence
        timestamp := cmd.tracking.visTimestamp }
  else none

theorem applyTrackingUpdate_eq (cmd : CommandFrame) (fc : FlightController) :
    applyTrackingUpdate cmd fc = (trackingGiven cmd).elim fc fc.updateTracking := by
  unfold applyTrackingUpdate trackingGiven
  cases cmd.tracking.hasTracking with
  | false => rfl
  | true => cases toTrackingState cmd.tracking.trackingState <;> rfl

namespace FlightController

def tracked (fc : FlightController) : Tracked where
  timestamp := fc.telemetryData.timestamp
  lastTrackingMsg := fc.lastTrackingMsg
  lastTrackingUpdateTime := fc.lastTrackingUpdateTime
  trackingConfig := fc.trackingConfig

variable (fc : FlightController)

def Given.tracked (given : Given) : Tracked where
  timestamp := given.timestamp
  lastTrackingMsg := given.lastTrackingMsg
  lastTrackingUpdateTime := given.lastTrackingUpdateTime
  trackingConfig := given.trackingConfig

theorem setControlMode_tracked (mode : ControlMode) : (fc.setControlMode mode).tracked = fc.tracked :=
  congrArg Given.tracked (fc.setControlMode_given mode)

section handlers
variable [Fpu] (dt : Double)

/-- A control step only moves the clock. -/
theorem updateTimeStep_tracked : (fc.updateTimeStep dt).tracked =
    { fc.tracked with timestamp := fc.telemetryData.timestamp + clampedDt dt } :=
  (congrArg Given.tracked (updateTimeStep_given fc dt) :)

end handlers
end FlightController

section turns
variable [Fpu]

theorem applySetpointOverrides_tracked (cmd : CommandFrame) (fc : FlightController) :
    (applySetpointOverrides cmd fc).tracked = fc.tracked := by
  unfold applySetpointOverrides
  dsimp only
  split_ifs <;> rfl

omit [Fpu] in
theorem applyMode_tracked (cmd : CommandFrame) (sink : RcSink) (fc : FlightController) :
    (MainLoop.applyMode cmd sink fc).tracked = fc.tracked := by
  unfold MainLoop.applyMode applyControlModeSafely
  cases toControlMode cmd.desiredMode with
  | none => rfl
  | some desired =>
    dsimp only
    split_ifs
    · exact fc.setControlMode_tracked desired
    · rfl

omit [Fpu] in
theorem applyArm_tracked (cmd : CommandFrame) (fc : FlightController) :
    (MainLoop.applyArm cmd fc).tracked = fc.tracked := by
  unfold MainLoop.applyArm
  split_ifs <;> rfl

/-- A message is stored with its coordinates limited, at the present controller time. -/
def Tracked.update (tracked : Tracked) (msg : TrackingMessage) : Tracked :=
  { tracked with
    lastTrackingMsg :=
      { state := msg.state
        targetX := clampTargetCoord msg.targetX
        targetY := clampTargetCoord msg.targetY
        boundW := clampUnit msg.boundW
        boundH := clampUnit msg.boundH
        confidence := clampUnit msg.confidence
        timestamp := msg.timestamp }
    lastTrackingUpdateTime := tracked.timestamp }

namespace MainLoop
variable (loop : MainLoop) (r : Readings)

/-- The tracking message this turn applies, if it applies one. -/
def trackingApplied : Option TrackingMessage := (loop.accepted r.latest).bind trackingGiven

theorem entry_tracked : (loop.entry r).tracked =
    (loop.trackingApplied r).elim loop.controller.tracked loop.controller.tracked.update := by
  have applied : (loop.applyLatest r.latest r.sink).controller.tracked =
      (loop.trackingApplied r).elim loop.controller.tracked loop.controller.tracked.update := by
    unfold applyLatest trackingApplied
    cases loop.accepted r.latest with
    | none => rfl
    | some cmd =>
      have before : (applySetpointOverrides cmd (applyArm cmd (applyMode cmd r.sink loop.controller))).tracked =
          loop.controller.tracked := by
        rw [applySetpointOverrides_tracked, applyArm_tracked, applyMode_tracked]
      change (applyTrackingUpdate cmd _).tracked = (trackingGiven cmd).elim _ _
      rw [applyTrackingUpdate_eq, ← before]
      cases trackingGiven cmd <;> rfl
  rw [entry_eq, latch_snd, latch_snd, ← applied]
  split_ifs <;> simp only [FlightController.setControlMode_tracked]

theorem step_tracked : (loop.step r).controller.tracked =
    { (loop.entry r).tracked with
      timestamp := (loop.entry r).tracked.timestamp + FlightController.clampedDt r.dt } := by
  rw [step_controller]
  exact FlightController.updateTimeStep_tracked _ _

end MainLoop

theorem boot_tracked (hover : HoverEnv) : (boot hover).controller.tracked = FlightController.init.tracked := by
  unfold boot FlightController.setHoverThrottle
  split_ifs <;> rfl

/-! ## The log of a run -/

/-- Controller time so far, and the last tracking message applied with the time at which it was. -/
structure TrackingLog where
  clock : Double := 0
  last : Option (TrackingMessage × Double) := none

namespace TrackingLog

/-- A turn applies its frame before it counts its duration. -/
def turn (log : TrackingLog) (turn : MainLoop × Readings) : TrackingLog where
  clock := log.clock + FlightController.clampedDt turn.2.dt
  last := ((turn.1.trackingApplied turn.2).map fun msg => (msg, log.clock)).or log.last

def of (past : Past MainLoop Readings) : TrackingLog := past.foldl turn {}

/-- The last tracking message names a target with enough confidence, and its age is within the timeout. -/
def Recent (log : TrackingLog) : Prop :=
  ∃ msg time, log.last = some (msg, time) ∧ msg.state = .tracking ∧
    (TrackingConfig.default).minConfidence ≤ msg.confidence ∧
    log.clock - time ≤ (TrackingConfig.default).trackingTimeout

theorem of_append (past : Past MainLoop Readings) (last : MainLoop × Readings) :
    of (past ++ [last]) = (of past).turn last := by
  unfold of
  rw [List.foldl_append]
  rfl

/-- The controller holds what the log says. -/
structure Matches (log : TrackingLog) (tracked : Tracked) : Prop where
  clock : tracked.timestamp = log.clock
  config : tracked.trackingConfig = .default
  none : log.last = none → tracked.lastTrackingUpdateTime = -1
  some : ∀ msg time, log.last = some (msg, time) →
    tracked.lastTrackingUpdateTime = time ∧ tracked.lastTrackingMsg.state = msg.state ∧
      tracked.lastTrackingMsg.confidence = clampUnit msg.confidence

variable {log : TrackingLog} {loop : MainLoop} {r : Readings}

/-- The controller as the handler of a turn finds it, its clock advanced. -/
theorem Matches.turn (holds : log.Matches loop.controller.tracked) :
    (log.turn (loop, r)).Matches (loop.step r).controller.tracked := by
  rw [loop.step_tracked, loop.entry_tracked]
  cases applied : loop.trackingApplied r with
  | none =>
    have last : (log.turn (loop, r)).last = log.last := by
      unfold TrackingLog.turn
      rw [applied]
      rfl
    refine ⟨?_, holds.config, ?_, ?_⟩
    · exact congrArg (· + FlightController.clampedDt r.dt) holds.clock
    · rw [last]
      exact holds.none
    · rw [last]
      exact holds.some
  | some given =>
    have last : (log.turn (loop, r)).last = Option.some (given, log.clock) := by
      unfold TrackingLog.turn
      rw [applied]
      rfl
    refine ⟨?_, holds.config, ?_, ?_⟩
    · exact congrArg (· + FlightController.clampedDt r.dt) holds.clock
    · rw [last]
      intro absent
      cases absent
    · rw [last]
      intro msg time same
      cases same
      exact ⟨holds.clock, rfl, rfl⟩

end TrackingLog
end turns

/-! ## On the hardware -/

section hardware
attribute [local instance] Binary64.binary64

namespace TrackingLog
variable {log : TrackingLog} {loop : MainLoop} {r : Readings}

/-- In doubles a sum of durations of at most a second stops at 2 ^ 53. -/
structure Bounded (log : TrackingLog) : Prop where
  clock : Within 0 (2 ^ 53) log.clock
  last : ∀ msg time, log.last = some (msg, time) → Within 0 (2 ^ 53) time

theorem Bounded.turn (bounded : log.Bounded) : (log.turn (loop, r)).Bounded := by
  refine ⟨Binary64.clock_within bounded.clock (FlightController.clampedDt_within r.dt), ?_⟩
  intro msg time same
  unfold TrackingLog.turn at same
  cases applied : loop.trackingApplied r with
  | none =>
    rw [applied] at same
    exact bounded.last msg time same
  | some given =>
    rw [applied] at same
    cases same
    exact bounded.clock

theorem confidence_clampUnit {confidence : Double}
    (enough : ¬ clampUnit confidence < (TrackingConfig.default).minConfidence) :
    (TrackingConfig.default).minConfidence ≤ confidence := by
  have half : (TrackingConfig.default).minConfidence = fin (1 / 2) := by decide +kernel
  rw [half] at enough ⊢
  have low : ¬ (0 : Double) < fin (1 / 2) → False := fun below => below (fin_lt_fin.2 (by norm_num))
  cases confidence with
  | nan => exact (low enough).elim
  | inf negative => exact (low enough).elim
  | fin q =>
    rw [FlightController.clampUnit_rat, fin_lt_fin, not_lt] at enough
    rw [fin_le_fin]
    by_contra less
    have inner : max 0 (min q 1) < 1 / 2 := max_lt (by norm_num) (min_lt_of_left_lt (not_le.1 less))
    linarith

theorem Matches.recent {fc : FlightController} (holds : log.Matches fc.tracked) (bounded : log.Bounded)
    (valid : fc.isTargetValid = true) : log.Recent := by
  unfold FlightController.isTargetValid FlightController.trackingStale at valid
  simp only [Bool.not_eq_true', Bool.or_eq_false_iff, decide_eq_false_iff_not, not_not] at valid
  obtain ⟨⟨⟨given, fresh⟩, state⟩, confidence⟩ := valid
  have config : fc.trackingConfig = .default := holds.config
  have clock : fc.telemetryData.timestamp = log.clock := holds.clock
  rw [config] at fresh confidence
  cases last : log.last with
  | none =>
    have never : fc.lastTrackingUpdateTime = -1 := holds.none last
    rw [never] at given
    exact absurd (fin_lt_fin.2 (by norm_num)) given
  | some message =>
    obtain ⟨msg, time⟩ := message
    obtain ⟨applied, sameState, sameConfidence⟩ := holds.some msg time last
    change fc.lastTrackingUpdateTime = time at applied
    change fc.lastTrackingMsg.state = msg.state at sameState
    change fc.lastTrackingMsg.confidence = clampUnit msg.confidence at sameConfidence
    rw [clock, applied] at fresh
    rw [sameConfidence] at confidence
    refine ⟨msg, time, last, sameState.symm.trans state, confidence_clampUnit confidence, ?_⟩
    obtain ⟨a, now, a_nonneg, a_le⟩ := bounded.clock
    obtain ⟨b, before, b_nonneg, b_le⟩ := bounded.last msg time last
    have age : Within (-2 ^ 53) (2 ^ 53) (log.clock - time) := by
      rw [now, before, fin_sub]
      have low : Fpu.round (-2 ^ 53) = fin (-2 ^ 53) := by decide +kernel
      have high : Fpu.round (2 ^ 53) = fin (2 ^ 53) := by decide +kernel
      exact round_within low high (by linarith) (by linarith)
    obtain ⟨span, same, -⟩ := age
    have timeout : (TrackingConfig.default).trackingTimeout ≠ nan := by decide +kernel
    exact Double.le_of_not_lt (by simp [same]) timeout fresh

end TrackingLog

namespace MainLoop

/-- On a turn dispatched in Tracking, a deflected pitch or the reported state Tracking goes with a recent target;
otherwise the vehicle hovers, at minimum throttle while it is disarmed. -/
def TrackingMoves (past : Past MainLoop Readings) (loop : MainLoop) (r : Readings) : Prop :=
  (loop.entry r).controlMode = .tracking →
    let cmd := loop.rcCmd r
    let telemetry := (loop.step r).controller.telemetryData
    (cmd.pitch ≠ droneMid ∨ telemetry.trackingState = .tracking →
        (TrackingLog.of (past ++ [(loop, r)])).Recent) ∧
      (cmd.pitch = droneMid → telemetry.trackingState ≠ .tracking →
        cmd.roll = droneMid ∧
          (cmd.yaw = droneMid ∨ cmd.yaw = FlightController.yawChannel searchYawRate) ∧
          cmd.throttle = (if cmd.isArmed then loop.controller.hoverThrottle else droneMin) ∧
          telemetry.confidence = 0)

/-- Between turns, the controller holds the log and a known hover throttle. -/
structure TrackingInv (past : Past MainLoop Readings) (loop : MainLoop) : Prop where
  log : (TrackingLog.of past).Matches loop.controller.tracked
  bounded : (TrackingLog.of past).Bounded
  calibrated : loop.Calibrated
  hover : loop.controller.hoverThrottle = 0 ∨
    droneMin ≤ loop.controller.hoverThrottle ∧ loop.controller.hoverThrottle ≤ kAltHoldMaxThrottle

variable {past : Past MainLoop Readings} {loop : MainLoop} {r : Readings}

theorem TrackingInv.step (inv : TrackingInv past loop) : TrackingInv (past ++ [(loop, r)]) (loop.step r) where
  log := by
    rw [TrackingLog.of_append]
    exact inv.log.turn
  bounded := by
    rw [TrackingLog.of_append]
    exact inv.bounded.turn
  calibrated := loop.step_calibrated r inv.calibrated
  hover := by
    rw [step_hoverThrottle]
    exact inv.hover

theorem finishStep_reports (fc : FlightController) :
    fc.finishStep.telemetryData.trackingState = fc.telemetryData.trackingState ∧
      (fc.telemetryData.trackingState ≠ .tracking → fc.finishStep.telemetryData.confidence = 0) ∧
      fc.finishStep.currentCommand.roll = clampU16 fc.currentCommand.roll droneMin droneMax ∧
      fc.finishStep.currentCommand.pitch = clampU16 fc.currentCommand.pitch droneMin droneMax ∧
      fc.finishStep.currentCommand.yaw = clampU16 fc.currentCommand.yaw droneMin droneMax := by
  unfold FlightController.finishStep
  dsimp only
  split_ifs with armed tracking tracking
  · exact ⟨rfl, fun other => absurd tracking other, rfl, rfl, rfl⟩
  · exact ⟨rfl, fun _ => rfl, rfl, rfl, rfl⟩
  · exact ⟨rfl, fun other => absurd tracking other, rfl, rfl, rfl⟩
  · exact ⟨rfl, fun _ => rfl, rfl, rfl, rfl⟩

/-- The end of a step leaves a hovering vehicle hovering, and takes the throttle away while it is disarmed. -/
theorem finishStep_hovers {fc after : FlightController} (hovers : fc.Hovers after) (low : droneMin ≤ fc.hoverThrottle)
    (high : fc.hoverThrottle ≤ kAltHoldMaxThrottle) :
    let cmd := after.finishStep.currentCommand
    cmd.roll = droneMid ∧ cmd.pitch = droneMid ∧
      (cmd.yaw = droneMid ∨ cmd.yaw = FlightController.yawChannel searchYawRate) ∧
      cmd.throttle = (if cmd.isArmed then fc.hoverThrottle else droneMin) ∧
      after.finishStep.telemetryData.trackingState ≠ .tracking ∧ after.finishStep.telemetryData.confidence = 0 := by
  obtain ⟨state, confidence, roll, pitch, yaw⟩ := finishStep_reports after
  have middle : clampU16 droneMid droneMin droneMax = droneMid := rfl
  dsimp only
  rw [roll, pitch, yaw, state, hovers.roll, hovers.pitch, middle]
  refine ⟨rfl, rfl, ?_, ?_, hovers.notTracking, confidence hovers.notTracking⟩
  · cases hovers.yaw with
    | inl level =>
      rw [level]
      exact .inl rfl
    | inr search =>
      rw [search]
      right
      decide +kernel
  · rw [FlightController.finishStep_isArmed]
    cases armed : after.currentCommand.isArmed with
    | false =>
      rw [FlightController.finishStep_throttle _ armed]
      rfl
    | true =>
      rw [FlightController.finishStep_throttle_armed _ armed, hovers.throttle, if_pos rfl]
      exact clampU16_eq low (high.trans (by decide))

theorem TrackingInv.moves (inv : TrackingInv past loop) : TrackingMoves past loop r := by
  intro tracking
  have known := loop.entry_calibrated r inv.calibrated (by rw [tracking]; rfl)
  obtain ⟨low, high⟩ : droneMin ≤ (loop.entry r).hoverThrottle ∧
      (loop.entry r).hoverThrottle ≤ kAltHoldMaxThrottle := by
    rw [entry_hoverThrottle] at known ⊢
    exact inv.hover.resolve_left known
  have output : (loop.step r).controller =
      (((loop.entry r).startStep r.dt).runTrackingMode (FlightController.clampedDt r.dt)).finishStep := by
    rw [step_controller, FlightController.updateTimeStep_eq]
    unfold FlightController.dispatchMode
    rw [show ((loop.entry r).startStep r.dt).controlMode = .tracking from tracking]
  dsimp only
  unfold rcCmd
  rw [output]
  cases FlightController.runTrackingMode_cases ((loop.entry r).startStep r.dt) low high
    (FlightController.clampedDt r.dt) with
  | inl follows =>
    have found : ((loop.entry r).startStep r.dt).tracked = (loop.step r).controller.tracked := by
      rw [step_tracked]
      rfl
    have holds := inv.log.turn (r := r)
    rw [← found] at holds
    rw [TrackingLog.of_append]
    refine ⟨fun _ => holds.recent inv.bounded.turn follows.1, ?_⟩
    intro _ other
    have reports := (FlightController.runFollowTargetState_follows ((loop.entry r).startStep r.dt) known follows.1).tracking
    rw [follows.2, (finishStep_reports _).1] at other
    exact absurd reports other
  | inr hovers =>
    obtain ⟨roll, pitch, yaw, throttle, state, confidence⟩ := finishStep_hovers hovers.2 low high
    refine ⟨?_, ?_⟩
    · intro moves
      cases moves with
      | inl deflected => exact absurd pitch deflected
      | inr reported => exact absurd reported state
    · intro _ _
      refine ⟨roll, yaw, ?_, confidence⟩
      rw [throttle, ← loop.entry_hoverThrottle r]
      rfl

theorem trackingInv_boot (hover : HoverEnv) : TrackingInv [] (boot hover) where
  log := by
    rw [boot_tracked]
    refine ⟨rfl, rfl, fun _ => rfl, ?_⟩
    intro msg time same
    cases same
  bounded := by
    refine ⟨⟨0, rfl, le_rfl, by norm_num⟩, ?_⟩
    intro msg time same
    cases same
  calibrated := boot_calibrated hover
  hover := by
    rw [boot_hoverThrottle]
    exact hover.valid

/-- Tracking moves only on a recent valid target, on every run. -/
theorem tracking_moves_always (hover : HoverEnv) (inputs : List Readings) :
    Always step TrackingMoves [] (boot hover) inputs := by
  apply Always.of_forall TrackingInv
  · intro past loop r inv
    exact inv.moves
  · intro past loop r inv
    exact inv.step
  · exact trackingInv_boot hover

end MainLoop

/-- A frame that asks for Tracking on a vehicle that is disarmed. -/
theorem tracking_disarmed_throttle :
    ((boot ⟨1400, by decide⟩).entry (firstTurn { seq := 0, desiredMode := 1 })).controlMode = .tracking ∧
      ((boot ⟨1400, by decide⟩).rcCmd (firstTurn { seq := 0, desiredMode := 1 })).pitch = droneMid ∧
      ((boot ⟨1400, by decide⟩).step
        (firstTurn { seq := 0, desiredMode := 1 })).controller.telemetryData.trackingState ≠ .tracking ∧
      ((boot ⟨1400, by decide⟩).rcCmd (firstTurn { seq := 0, desiredMode := 1 })).throttle = 1000 ∧
      (boot ⟨1400, by decide⟩).controller.hoverThrottle = 1400 := by
  decide +kernel

end hardware
end AotDrone.Fc
