import AotDrone.Fc.FlightController

/-! What each operation of the controller does to the mode, the hover throttle and the arm
channel. Everything later is derived from these, without unfolding the operations again. -/

namespace AotDrone.Fc.FlightController
open AotDrone.Lib AotDrone.Lib.Double

/-- The two differ in channels other than the arm channel and in the reported tracking at most. -/
def Steers (fc after : FlightController) : Prop :=
  after.currentCommand.aux1 = fc.currentCommand.aux1 ∧
    after = { fc with
      currentCommand := after.currentCommand
      telemetryData.trackingState := after.telemetryData.trackingState
      telemetryData.confidence := after.telemetryData.confidence }

/-- The members that no handler and no change of mode writes. -/
structure Given where
  userParams : UserParams
  lastTrackingMsg : TrackingMessage
  lastTrackingUpdateTime : Double
  trackingConfig : TrackingConfig
  hoverThrottle : Nat
  timestamp : Double

def given (fc : FlightController) : Given where
  userParams := fc.userParams
  lastTrackingMsg := fc.lastTrackingMsg
  lastTrackingUpdateTime := fc.lastTrackingUpdateTime
  trackingConfig := fc.trackingConfig
  hoverThrottle := fc.hoverThrottle
  timestamp := fc.telemetryData.timestamp

namespace Steers
variable {fc after last : FlightController}

theorem refl (fc : FlightController) : Steers fc fc := ⟨rfl, rfl⟩

theorem trans (first : Steers fc after) (second : Steers after last) : Steers fc last :=
  ⟨second.1.trans first.1, second.2.trans (congrArg (fun fc : FlightController =>
    { fc with
      currentCommand := last.currentCommand
      telemetryData.trackingState := last.telemetryData.trackingState
      telemetryData.confidence := last.telemetryData.confidence }) first.2)⟩

theorem controlMode (steers : Steers fc after) : after.controlMode = fc.controlMode :=
  (congrArg FlightController.controlMode steers.2 :)

theorem given (steers : Steers fc after) : after.given = fc.given := (congrArg FlightController.given steers.2 :)

theorem hoverThrottle (steers : Steers fc after) : after.hoverThrottle = fc.hoverThrottle :=
  congrArg Given.hoverThrottle steers.given

end Steers

section settings
variable (fc : FlightController)

@[simp] theorem setArm_controlMode (arm : Bool) : (fc.setArm arm).controlMode = fc.controlMode := rfl
@[simp] theorem setArm_hoverThrottle (arm : Bool) : (fc.setArm arm).hoverThrottle = fc.hoverThrottle := rfl
@[simp] theorem setArm_aux1 (arm : Bool) :
    (fc.setArm arm).currentCommand.aux1 = if arm then droneAuxMax else droneAuxMin := rfl

theorem setAngleMode_steers (angle : Bool) : Steers fc (fc.setAngleMode angle) := ⟨rfl, rfl⟩
theorem setAltHold_steers (enabled : Bool) : Steers fc (fc.setAltHold enabled) := ⟨rfl, rfl⟩
theorem runManualMode_steers : Steers fc fc.runManualMode := ⟨rfl, rfl⟩

@[simp] theorem setControlMode_controlMode (mode : ControlMode) :
    (fc.setControlMode mode).controlMode = mode := by
  unfold setControlMode
  split_ifs with same
  · exact same.symm
  all_goals rfl

theorem setControlMode_given (mode : ControlMode) : (fc.setControlMode mode).given = fc.given := by
  unfold setControlMode
  split_ifs <;> rfl

@[simp] theorem setControlMode_hoverThrottle (mode : ControlMode) :
    (fc.setControlMode mode).hoverThrottle = fc.hoverThrottle :=
  congrArg Given.hoverThrottle (fc.setControlMode_given mode)

@[simp] theorem setControlMode_aux1 (mode : ControlMode) :
    (fc.setControlMode mode).currentCommand.aux1 = fc.currentCommand.aux1 := by
  unfold setControlMode
  split_ifs <;> rfl

theorem setHoverThrottle_controlMode (hover : Nat) :
    (fc.setHoverThrottle hover).controlMode = fc.controlMode := by
  unfold setHoverThrottle
  split_ifs <;> rfl

theorem setHoverThrottle_valid (hover : Nat)
    (valid : hover = 0 ∨ droneMin ≤ hover ∧ hover ≤ kAltHoldMaxThrottle) :
    (fc.setHoverThrottle hover).hoverThrottle = hover := by
  unfold setHoverThrottle
  split_ifs with zero
  · exact zero.symm
  · obtain ⟨low, high⟩ := valid.resolve_left zero
    exact clampU16_eq low high

@[simp] theorem updateTracking_controlMode (msg : TrackingMessage) :
    (fc.updateTracking msg).controlMode = fc.controlMode := rfl
@[simp] theorem updateTracking_hoverThrottle (msg : TrackingMessage) :
    (fc.updateTracking msg).hoverThrottle = fc.hoverThrottle := rfl
@[simp] theorem updateTracking_currentCommand (msg : TrackingMessage) :
    (fc.updateTracking msg).currentCommand = fc.currentCommand := rfl

@[simp] theorem setManualSetpoints_controlMode (cmd : BetaFlightCommand) :
    (fc.setManualSetpoints cmd).controlMode = fc.controlMode := rfl
@[simp] theorem setManualSetpoints_hoverThrottle (cmd : BetaFlightCommand) :
    (fc.setManualSetpoints cmd).hoverThrottle = fc.hoverThrottle := rfl
@[simp] theorem setManualSetpoints_aux1 (cmd : BetaFlightCommand) :
    (fc.setManualSetpoints cmd).currentCommand.aux1 = clampU16 cmd.aux1 droneAuxMin droneAuxMax := rfl

end settings

variable [Fpu] (fc : FlightController)

theorem commandForward_steers (speed : Double) : Steers fc (fc.commandForward speed) := by
  unfold commandForward
  dsimp only
  split_ifs
  all_goals exact ⟨rfl, rfl⟩

theorem commandYawRate_steers (rate : Double) : Steers fc (fc.commandYawRate rate) := by
  unfold commandYawRate
  split_ifs
  all_goals exact ⟨rfl, rfl⟩

theorem commandAltHoldDelta_steers (delta : Double) : Steers fc (fc.commandAltHoldDelta delta) := by
  unfold commandAltHoldDelta
  split_ifs
  · exact .refl fc
  · exact ⟨rfl, rfl⟩

/-! ## Mode handlers -/

theorem runHoverSearchState_steers : Steers fc fc.runHoverSearchState := by
  unfold runHoverSearchState
  refine Steers.trans ?_ (commandYawRate_steers _ _)
  refine Steers.trans ?_ (commandAltHoldDelta_steers _ _)
  exact ⟨rfl, rfl⟩

theorem runHoverStillState_steers (state : TrackingState) : Steers fc (fc.runHoverStillState state) := by
  unfold runHoverStillState
  refine Steers.trans ?_ (commandAltHoldDelta_steers _ _)
  exact ⟨rfl, rfl⟩

theorem runFollowTargetLogic_steers : Steers fc fc.runFollowTargetLogic := by
  unfold runFollowTargetLogic
  refine (commandAltHoldDelta_steers fc 0).trans ?_
  generalize fc.commandAltHoldDelta 0 = neutral
  dsimp only
  split_ifs
  · exact ⟨rfl, rfl⟩
  all_goals
    refine Steers.trans (Steers.trans ?_ (commandAltHoldDelta_steers _ _)) ⟨rfl, rfl⟩
    refine Steers.trans (Steers.trans ?_ (commandYawRate_steers _ _)) (commandForward_steers _ _)
    exact ⟨rfl, rfl⟩

theorem runFollowTargetState_steers : Steers fc fc.runFollowTargetState :=
  ((setAngleMode_steers fc true).trans (setAltHold_steers _ true)).trans (runFollowTargetLogic_steers _)

theorem runTrackingMode_steers (dt : Double) (calibrated : fc.hoverThrottle ≠ 0) :
    Steers fc (fc.runTrackingMode dt) := by
  unfold runTrackingMode
  rw [if_neg calibrated]
  by_cases stale : fc.trackingStale = true
  · rw [if_pos stale]
    exact runHoverSearchState_steers fc
  · rw [if_neg stale]
    cases fc.lastTrackingMsg.state with
    | tracking =>
      cases valid : fc.isTargetValid with
      | true => simpa only [valid, ↓reduceIte] using runFollowTargetState_steers fc
      | false => simpa only [valid, Bool.false_eq_true, ↓reduceIte] using runHoverSearchState_steers fc
    | searching => exact runHoverSearchState_steers fc
    | targetDetected => exact runHoverStillState_steers fc _
    | noTarget => exact runHoverStillState_steers fc _

theorem runLandSafelyMode_given (dt : Double) : (fc.runLandSafelyMode dt).given = fc.given := by
  unfold runLandSafelyMode
  dsimp only
  split_ifs <;> rfl

/-- Landing keeps mode and hover throttle; it may disarm and never arms. -/
theorem runLandSafelyMode_frame (dt : Double) :
    (fc.runLandSafelyMode dt).controlMode = fc.controlMode ∧
      (fc.runLandSafelyMode dt).hoverThrottle = fc.hoverThrottle ∧
      ((fc.runLandSafelyMode dt).currentCommand.aux1 = fc.currentCommand.aux1 ∨
        (fc.runLandSafelyMode dt).currentCommand.aux1 = droneAuxMin) := by
  unfold runLandSafelyMode
  dsimp only
  split_ifs
  all_goals first | exact ⟨rfl, rfl, .inl rfl⟩ | exact ⟨rfl, rfl, .inr rfl⟩

/-- With a calibrated hover throttle the Takeoff handler arms, and it stays in Takeoff or hands
over to Tracking. -/
theorem runTakeoffMode_frame (dt : Double) (calibrated : fc.hoverThrottle ≠ 0) :
    ((fc.runTakeoffMode dt).controlMode = fc.controlMode ∨
        (fc.runTakeoffMode dt).controlMode = .tracking) ∧
      (fc.runTakeoffMode dt).hoverThrottle = fc.hoverThrottle ∧
      (fc.runTakeoffMode dt).currentCommand.aux1 = droneAuxMax := by
  unfold runTakeoffMode
  rw [if_neg calibrated]
  dsimp only
  split_ifs
  all_goals first
    | exact ⟨.inl rfl, rfl, rfl⟩
    | exact ⟨.inr (setControlMode_controlMode _ _), setControlMode_hoverThrottle _ _, setControlMode_aux1 _ _⟩

/-- Without a calibrated hover throttle both handlers land instead. -/
theorem runTakeoffMode_uncalibrated (dt : Double) (uncalibrated : fc.hoverThrottle = 0) :
    fc.runTakeoffMode dt = (fc.setControlMode .landSafely).runLandSafelyMode dt := if_pos uncalibrated

theorem runTrackingMode_uncalibrated (dt : Double) (uncalibrated : fc.hoverThrottle = 0) :
    fc.runTrackingMode dt = (fc.setControlMode .landSafely).runLandSafelyMode dt := if_pos uncalibrated

/-- What the handlers may do to the mode. -/
theorem dispatchMode_controlMode (dt : Double) :
    (fc.dispatchMode dt).controlMode =
        (if fc.hoverThrottle = 0 ∧ (fc.controlMode = .tracking ∨ fc.controlMode = .takeoff)
          then .landSafely else fc.controlMode) ∨
      fc.hoverThrottle ≠ 0 ∧ fc.controlMode = .takeoff ∧ (fc.dispatchMode dt).controlMode = .tracking := by
  unfold dispatchMode
  cases mode : fc.controlMode with
  | manual => simp [(runManualMode_steers fc).controlMode, mode]
  | landSafely => simp [(runLandSafelyMode_frame fc dt).1, mode]
  | tracking =>
    by_cases calibrated : fc.hoverThrottle = 0
    · simp [runTrackingMode_uncalibrated _ _ calibrated, calibrated, (runLandSafelyMode_frame _ dt).1]
    · simp [(runTrackingMode_steers fc dt calibrated).controlMode, mode, calibrated]
  | takeoff =>
    by_cases calibrated : fc.hoverThrottle = 0
    · simp [runTakeoffMode_uncalibrated _ _ calibrated, calibrated, (runLandSafelyMode_frame _ dt).1]
    · rcases (runTakeoffMode_frame fc dt calibrated).1 with same | handed
      · simp [same, mode, calibrated]
      · simp [handed, calibrated]

theorem runTakeoffMode_given (dt : Double) : (fc.runTakeoffMode dt).given = fc.given := by
  unfold runTakeoffMode
  dsimp only
  split_ifs
  · rw [runLandSafelyMode_given, setControlMode_given]
  all_goals first | rfl | exact setControlMode_given _ _

theorem runTrackingMode_given (dt : Double) : (fc.runTrackingMode dt).given = fc.given := by
  by_cases calibrated : fc.hoverThrottle = 0
  · rw [runTrackingMode_uncalibrated _ _ calibrated, runLandSafelyMode_given, setControlMode_given]
  · exact (runTrackingMode_steers fc dt calibrated).given

theorem dispatchMode_given (dt : Double) : (fc.dispatchMode dt).given = fc.given := by
  unfold dispatchMode
  cases fc.controlMode with
  | manual => rfl
  | tracking => exact runTrackingMode_given fc dt
  | landSafely => exact runLandSafelyMode_given fc dt
  | takeoff => exact runTakeoffMode_given fc dt

/-- Only Takeoff writes the arm channel up. -/
theorem dispatchMode_aux1 (dt : Double) (notTakeoff : fc.controlMode ≠ .takeoff ∨ fc.hoverThrottle = 0) :
    (fc.dispatchMode dt).currentCommand.aux1 = fc.currentCommand.aux1 ∨
      (fc.dispatchMode dt).currentCommand.aux1 = droneAuxMin := by
  unfold dispatchMode
  have landing := (runLandSafelyMode_frame (fc.setControlMode .landSafely) dt).2.2
  rw [setControlMode_aux1] at landing
  cases mode : fc.controlMode with
  | manual => exact .inl rfl
  | landSafely => exact (runLandSafelyMode_frame fc dt).2.2
  | tracking =>
    by_cases calibrated : fc.hoverThrottle = 0
    · simpa only [runTrackingMode_uncalibrated _ _ calibrated] using landing
    · exact .inl (runTrackingMode_steers fc dt calibrated).1
  | takeoff =>
    have uncalibrated := notTakeoff.resolve_left (not_not.2 mode)
    simpa only [runTakeoffMode_uncalibrated _ _ uncalibrated] using landing

/-! ## The control step -/

/-- `updateTimeStep` up to the dispatch: the clock and the telemetry copies. -/
def startStep (dt : Double) : FlightController :=
  { fc with
    telemetryData.timestamp := fc.telemetryData.timestamp + clampedDt dt
    telemetryData.controlMode := fc.controlMode
    telemetryData.lastTrackingMsg := fc.lastTrackingMsg }

/-- `updateTimeStep` after the dispatch: the throttle guard, the confidence and the clamps. -/
def finishStep (fc : FlightController) : FlightController :=
  let fc := if fc.currentCommand.isArmed then fc else { fc with currentCommand.throttle := droneMin }
  let fc :=
    if fc.telemetryData.trackingState = .tracking then fc
    else { fc with telemetryData.confidence := 0 }
  fc.clampCommandChannels

theorem updateTimeStep_eq (dt : Double) :
    fc.updateTimeStep dt = ((fc.startStep dt).dispatchMode (clampedDt dt)).finishStep := rfl

omit [Fpu] in
theorem finishStep_frame : fc.finishStep.controlMode = fc.controlMode ∧
    fc.finishStep.hoverThrottle = fc.hoverThrottle ∧
    fc.finishStep.currentCommand.aux1 = clampU16 fc.currentCommand.aux1 droneAuxMin droneAuxMax := by
  unfold finishStep
  dsimp only
  split_ifs <;> exact ⟨rfl, rfl, rfl⟩

omit [Fpu] in
/-- What is disarmed after the handler leaves with minimum throttle. -/
theorem finishStep_throttle (disarmed : fc.currentCommand.isArmed = false) :
    fc.finishStep.currentCommand.throttle = droneMin := by
  unfold finishStep
  simp only [disarmed, Bool.false_eq_true, ↓reduceIte]
  split_ifs <;> rfl

omit [Fpu] in
theorem finishStep_given : fc.finishStep.given = fc.given := by
  unfold finishStep
  dsimp only
  split_ifs <;> rfl

/-- Of these a control step writes the clock only. -/
theorem updateTimeStep_given (dt : Double) : (fc.updateTimeStep dt).given =
    { fc.given with timestamp := fc.telemetryData.timestamp + clampedDt dt } := by
  rw [updateTimeStep_eq, finishStep_given, dispatchMode_given]
  rfl

theorem updateTimeStep_hoverThrottle (dt : Double) : (fc.updateTimeStep dt).hoverThrottle = fc.hoverThrottle :=
  (congrArg Given.hoverThrottle (updateTimeStep_given fc dt) :)

/-- What a control step may do to the mode. -/
theorem updateTimeStep_controlMode (dt : Double) :
    (fc.updateTimeStep dt).controlMode =
        (if fc.hoverThrottle = 0 ∧ (fc.controlMode = .tracking ∨ fc.controlMode = .takeoff)
          then .landSafely else fc.controlMode) ∨
      fc.hoverThrottle ≠ 0 ∧ fc.controlMode = .takeoff ∧ (fc.updateTimeStep dt).controlMode = .tracking := by
  have dispatched := dispatchMode_controlMode (fc.startStep dt) (clampedDt dt)
  rw [updateTimeStep_eq, (finishStep_frame _).1]
  exact dispatched

/-- Only the main loop takes the controller out of LandSafely. -/
theorem updateTimeStep_landSafely (dt : Double) (landing : fc.controlMode = .landSafely) :
    (fc.updateTimeStep dt).controlMode = .landSafely := by
  simpa [landing] using updateTimeStep_controlMode fc dt

theorem updateTimeStep_tracking (dt : Double) (tracking : fc.controlMode = .tracking)
    (calibrated : fc.hoverThrottle ≠ 0) : (fc.updateTimeStep dt).controlMode = .tracking := by
  simpa [tracking, calibrated] using updateTimeStep_controlMode fc dt

end AotDrone.Fc.FlightController
