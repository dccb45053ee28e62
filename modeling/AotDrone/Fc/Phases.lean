import AotDrone.Fc.LoopFacts

/-! What the frame and the latches of a turn leave for its handler: the timers of the two timed modes
and the arm and throttle channels. -/

namespace AotDrone.Fc
open AotDrone.Lib AotDrone.Lib.Double

/-- The members that the two timed handlers and a change of mode write, and nothing else. -/
structure Phase where
  landSafelyInitialized : Bool
  landTimer : Double
  landStartThrottle : Nat
  takeoffInitialized : Bool
  takeoffTimer : Double
  deriving DecidableEq

/-- What a change of mode leaves of them. -/
def Phase.left (phase : Phase) : Phase :=
  { phase with landSafelyInitialized := false, landTimer := 0, takeoffInitialized := false, takeoffTimer := 0 }

@[simp] theorem Phase.left_left (phase : Phase) : phase.left.left = phase.left := rfl

/-- The arm channel holds one of the two values `setArm` writes. -/
def BetaFlightCommand.ArmSettled (cmd : BetaFlightCommand) : Prop :=
  cmd.aux1 = if cmd.isArmed then droneAuxMax else droneAuxMin

theorem armSettled_iff (cmd : BetaFlightCommand) :
    cmd.ArmSettled ↔ cmd.aux1 = droneAuxMin ∨ cmd.aux1 = droneAuxMax := by
  unfold BetaFlightCommand.ArmSettled
  constructor
  · intro settled
    rw [settled]
    cases cmd.isArmed with
    | false => exact .inl rfl
    | true => exact .inr rfl
  · intro two
    unfold BetaFlightCommand.isArmed
    cases two with
    | inl low =>
      rw [low]
      rfl
    | inr high =>
      rw [high]
      rfl

namespace FlightController

def phase (fc : FlightController) : Phase where
  landSafelyInitialized := fc.landSafelyInitialized
  landTimer := fc.landTimer
  landStartThrottle := fc.landStartThrottle
  takeoffInitialized := fc.takeoffInitialized
  takeoffTimer := fc.takeoffTimer

variable (fc : FlightController)

theorem setControlMode_phase (mode : ControlMode) :
    (fc.setControlMode mode).phase = if mode = fc.controlMode then fc.phase else fc.phase.left := by
  unfold setControlMode
  split_ifs <;> rfl

/-- The throttle `setControlMode` leaves: entering Manual presets it. -/
theorem setControlMode_throttle (mode : ControlMode) :
    (fc.setControlMode mode).currentCommand.throttle =
      if mode = .manual ∧ fc.controlMode ≠ .manual then
        if fc.currentCommand.isArmed then fc.hoverThrottle else droneMin
      else fc.currentCommand.throttle := by
  unfold setControlMode
  by_cases same : mode = fc.controlMode
  · rw [if_pos same, if_neg]
    rintro ⟨manual, other⟩
    exact other (same.symm.trans manual)
  · rw [if_neg same]
    cases mode with
    | manual =>
      rw [if_pos ⟨rfl, Ne.symm same⟩]
      rfl
    | tracking => rfl
    | landSafely => rfl
    | takeoff => rfl

end FlightController

namespace FlightController
variable [Fpu] (fc : FlightController) (dt : Double)

theorem clampedDt_within (dt : Double) : Within 0 1 (clampedDt dt) := by
  have bound : Within 0 1 kMaxControlDt :=
    round_within isDouble_zero isDouble_one (by norm_num) (by norm_num)
  unfold clampedDt
  split_ifs with bad long
  · exact ⟨0, rfl, le_rfl, by norm_num⟩
  · exact bound
  · obtain ⟨most, same, -, most_le⟩ := bound
    rw [not_or, Bool.not_eq_false] at bad
    obtain ⟨q, rfl⟩ := isFinite_iff.1 bad.1
    have nonneg : 0 ≤ q := not_lt.1 fun below => bad.2 (fin_lt_fin.2 below)
    rw [same, fin_lt_fin, not_lt] at long
    exact ⟨q, rfl, nonneg, long.trans most_le⟩

omit [Fpu] in
theorem finishStep_phase : fc.finishStep.phase = fc.phase := by
  unfold finishStep
  dsimp only
  split_ifs <;> rfl

omit [Fpu] in
/-- What is armed after the handler leaves with the throttle of the handler. -/
theorem finishStep_throttle_armed (armed : fc.currentCommand.isArmed = true) :
    fc.finishStep.currentCommand.throttle = clampU16 fc.currentCommand.throttle droneMin droneMax := by
  unfold finishStep
  simp only [armed, ↓reduceIte]
  split_ifs <;> rfl

omit [Fpu] in
theorem Steers.phase {fc after : FlightController} (steers : Steers fc after) : after.phase = fc.phase :=
  (congrArg FlightController.phase steers.2 :)

/-- Outside LandSafely no handler starts a landing. -/
theorem updateTimeStep_idle (cruising : fc.controlMode ≠ .landSafely)
    (calibrated : needsMsp fc.controlMode = true → fc.hoverThrottle ≠ 0) (idle : fc.landSafelyInitialized = false) :
    (fc.updateTimeStep dt).landSafelyInitialized = false := by
  change (fc.updateTimeStep dt).phase.landSafelyInitialized = false
  rw [updateTimeStep_eq, finishStep_phase]
  have started : (fc.startStep dt).phase.landSafelyInitialized = false := idle
  unfold dispatchMode
  cases mode : (fc.startStep dt).controlMode with
  | manual => exact started
  | landSafely => exact absurd mode cruising
  | tracking =>
    have known : (fc.startStep dt).hoverThrottle ≠ 0 := calibrated (by rw [show fc.controlMode = _ from mode]; rfl)
    rw [(runTrackingMode_steers _ (clampedDt dt) known).phase]
    exact started
  | takeoff =>
    have known : (fc.startStep dt).hoverThrottle ≠ 0 := calibrated (by rw [show fc.controlMode = _ from mode]; rfl)
    dsimp only
    unfold runTakeoffMode
    rw [if_neg known]
    dsimp only
    split_ifs
    all_goals try exact started
    all_goals
      rw [setControlMode_phase]
      split_ifs
      · exact started
      · rfl

/-- A control step leaves the arm channel at one of its two values. -/
theorem updateTimeStep_armSettled (settled : fc.currentCommand.ArmSettled) :
    (fc.updateTimeStep dt).currentCommand.ArmSettled := by
  rw [armSettled_iff] at settled ⊢
  rw [updateTimeStep_eq, (finishStep_frame _).2.2]
  have dispatched : ((fc.startStep dt).dispatchMode (clampedDt dt)).currentCommand.aux1 = droneAuxMin ∨
      ((fc.startStep dt).dispatchMode (clampedDt dt)).currentCommand.aux1 = droneAuxMax := by
    by_cases takesOff : fc.controlMode = .takeoff ∧ fc.hoverThrottle ≠ 0
    · right
      have armed := (runTakeoffMode_frame (fc.startStep dt) (clampedDt dt) takesOff.2).2.2
      unfold dispatchMode
      rwa [show (fc.startStep dt).controlMode = .takeoff from takesOff.1]
    · have other : (fc.startStep dt).controlMode ≠ .takeoff ∨ (fc.startStep dt).hoverThrottle = 0 := by
        rw [not_and_or, not_not] at takesOff
        exact takesOff
      cases dispatchMode_aux1 (fc.startStep dt) (clampedDt dt) other with
      | inl same =>
        rw [same]
        exact settled
      | inr disarmed => exact .inl disarmed
  cases dispatched with
  | inl low =>
    rw [low]
    exact .inl rfl
  | inr high =>
    rw [high]
    exact .inr rfl

omit [Fpu] in
theorem finishStep_isArmed : fc.finishStep.currentCommand.isArmed = fc.currentCommand.isArmed := by
  unfold BetaFlightCommand.isArmed
  rw [(finishStep_frame fc).2.2, decide_eq_decide]
  unfold clampU16 droneAuxMin droneAuxMax
  split_ifs <;> omega

/-- What leaves a control step disarmed leaves it with minimum throttle. -/
theorem updateTimeStep_throttle_disarmed (disarmed : (fc.updateTimeStep dt).currentCommand.isArmed = false) :
    (fc.updateTimeStep dt).currentCommand.throttle = droneMin := by
  rw [updateTimeStep_eq] at disarmed ⊢
  rw [finishStep_isArmed] at disarmed
  exact finishStep_throttle _ disarmed

omit [Fpu] in
theorem clampU16_range (v : Nat) :
    droneMin ≤ clampU16 v droneMin droneMax ∧ clampU16 v droneMin droneMax ≤ droneMax := by
  unfold clampU16 droneMin droneMax
  split_ifs <;> omega

theorem updateTimeStep_throttle_range : droneMin ≤ (fc.updateTimeStep dt).currentCommand.throttle ∧
    (fc.updateTimeStep dt).currentCommand.throttle ≤ droneMax := by
  rw [updateTimeStep_eq]
  cases armed : ((fc.startStep dt).dispatchMode (clampedDt dt)).currentCommand.isArmed with
  | false =>
    rw [finishStep_throttle _ armed]
    decide
  | true =>
    rw [finishStep_throttle_armed _ armed]
    exact clampU16_range _

end FlightController

/-! ## The frame -/

theorem applyTrackingUpdate_phase (cmd : CommandFrame) (fc : FlightController) :
    (applyTrackingUpdate cmd fc).phase = fc.phase := by
  unfold applyTrackingUpdate
  cases toTrackingState cmd.tracking.trackingState with
  | none => rw [ite_self]
  | some state => split_ifs <;> rfl

section setpoints
variable [Fpu] (cmd : CommandFrame) (fc : FlightController)

/-- The throttle that `apply_setpoint_overrides` leaves where it found `throttle`. -/
def throttleOverride (cmd : CommandFrame) (throttle : Nat) : Nat :=
  let setpoints := cmd.setpoints
  if !setpoints.hasRoll && !setpoints.hasPitch && !setpoints.hasYawRate && !setpoints.hasThrottle then throttle
  else clampU16 (if setpoints.hasThrottle then throttleToPwm setpoints.throttle else throttle) droneMin droneMax

theorem applySetpointOverrides_channels :
    (applySetpointOverrides cmd fc).phase = fc.phase ∧
      (applySetpointOverrides cmd fc).currentCommand.throttle = throttleOverride cmd fc.currentCommand.throttle ∧
      (fc.currentCommand.ArmSettled →
        (applySetpointOverrides cmd fc).currentCommand.aux1 = fc.currentCommand.aux1) := by
  unfold applySetpointOverrides throttleOverride
  dsimp only
  split_ifs with none
  · exact ⟨rfl, rfl, fun _ => rfl⟩
  all_goals
    refine ⟨rfl, rfl, ?_⟩
    intro settled
    rw [FlightController.setManualSetpoints_aux1]
    rw [BetaFlightCommand.ArmSettled] at settled
    change clampU16 fc.currentCommand.aux1 droneAuxMin droneAuxMax = _
    rw [settled]
    split_ifs <;> rfl

namespace MainLoop
variable (sink : RcSink)

/-- The frame brings the controller into Manual from another mode. -/
def entersManual (cmd : CommandFrame) (sink : RcSink) (fc : FlightController) : Bool :=
  decide (requestedMode cmd sink fc = .manual) && decide (fc.controlMode ≠ .manual)

/-- Whether the vehicle is armed once the frame is applied. -/
def armedBy (cmd : CommandFrame) (fc : FlightController) : Bool :=
  if cmd.hasArm then cmd.arm else fc.currentCommand.isArmed

/-- The throttle once the frame is applied: its setpoint, the preset of Manual, or what was there. -/
def throttleBy (cmd : CommandFrame) (sink : RcSink) (fc : FlightController) : Nat :=
  throttleOverride cmd
    (if entersManual cmd sink fc then if fc.currentCommand.isArmed then fc.hoverThrottle else droneMin
      else fc.currentCommand.throttle)

omit [Fpu] in
theorem applyMode_channels :
    (applyMode cmd sink fc).phase =
        (if requestedMode cmd sink fc = fc.controlMode then fc.phase else fc.phase.left) ∧
      (applyMode cmd sink fc).currentCommand.throttle =
        (if entersManual cmd sink fc then if fc.currentCommand.isArmed then fc.hoverThrottle else droneMin
          else fc.currentCommand.throttle) ∧
      (applyMode cmd sink fc).currentCommand.aux1 = fc.currentCommand.aux1 := by
  unfold applyMode entersManual requestedMode applyControlModeSafely
  cases toControlMode cmd.desiredMode with
  | none =>
    refine ⟨(if_pos rfl).symm, ?_, rfl⟩
    cases fc.controlMode <;> rfl
  | some desired =>
    by_cases gate : modeGate desired fc sink = true
    · simp only [gate, ↓reduceIte, fc.setControlMode_phase, fc.setControlMode_throttle, fc.setControlMode_aux1,
        Bool.and_eq_true, decide_eq_true_eq, and_self]
    · simp only [gate, Bool.false_eq_true, ↓reduceIte, and_true, true_and]
      cases fc.controlMode <;> rfl

omit [Fpu] in
theorem applyArm_channels :
    (applyArm cmd fc).phase = fc.phase ∧
      (applyArm cmd fc).currentCommand.throttle = fc.currentCommand.throttle ∧
      (applyArm cmd fc).currentCommand.aux1 =
        if cmd.hasArm then if cmd.arm then droneAuxMax else droneAuxMin else fc.currentCommand.aux1 := by
  unfold applyArm
  cases cmd.hasArm with
  | false => exact ⟨rfl, rfl, rfl⟩
  | true => exact ⟨rfl, rfl, rfl⟩

/-- What an applied frame leaves of the timers and of the two channels. -/
theorem applyCmd_channels :
    (applyCmd cmd sink fc).phase =
        (if requestedMode cmd sink fc = fc.controlMode then fc.phase else fc.phase.left) ∧
      (applyCmd cmd sink fc).currentCommand.throttle = throttleBy cmd sink fc ∧
      (fc.currentCommand.ArmSettled →
        (applyCmd cmd sink fc).currentCommand.aux1 = if armedBy cmd fc then droneAuxMax else droneAuxMin) := by
  obtain ⟨modePhase, modeThrottle, modeAux⟩ := applyMode_channels cmd fc sink
  obtain ⟨armPhase, armThrottle, armAux⟩ := applyArm_channels cmd (applyMode cmd sink fc)
  obtain ⟨setPhase, setThrottle, setAux⟩ :=
    applySetpointOverrides_channels cmd (applyArm cmd (applyMode cmd sink fc))
  have command := (applyTrackingUpdate_frame cmd
    (applySetpointOverrides cmd (applyArm cmd (applyMode cmd sink fc)))).2.2
  refine ⟨?_, ?_, ?_⟩
  · calc (applyCmd cmd sink fc).phase
        = (applySetpointOverrides cmd (applyArm cmd (applyMode cmd sink fc))).phase := applyTrackingUpdate_phase _ _
      _ = _ := setPhase.trans (armPhase.trans modePhase)
  · unfold applyCmd throttleBy
    rw [command, setThrottle, armThrottle, modeThrottle]
  · intro settled
    have armed : (applyArm cmd (applyMode cmd sink fc)).currentCommand.aux1 =
        if armedBy cmd fc then droneAuxMax else droneAuxMin := by
      rw [armAux, modeAux, settled, armedBy]
      cases cmd.hasArm <;> rfl
    unfold applyCmd
    rw [command, setAux, armed]
    rw [BetaFlightCommand.ArmSettled, BetaFlightCommand.isArmed, armed]
    cases armedBy cmd fc <;> rfl

/-! ## The turn -/

variable (loop : MainLoop) (r : Readings)

/-- Whether the vehicle is armed when the handler of this turn runs. -/
def armedAtEntry : Bool :=
  match loop.accepted r.latest with
  | none => loop.controller.currentCommand.isArmed
  | some cmd => armedBy cmd loop.controller

/-- The throttle the handler of this turn finds. -/
def throttleAtEntry : Nat :=
  match loop.accepted r.latest with
  | none => loop.controller.currentCommand.throttle
  | some cmd => throttleBy cmd r.sink loop.controller

/-- Neither the frame of this turn nor a latch changes the mode. -/
def KeepsMode : Prop :=
  loop.modeAfterCmd r = loop.controller.controlMode ∧ (loop.entry r).controlMode = loop.controller.controlMode

instance : Decidable (loop.KeepsMode r) :=
  inferInstanceAs (Decidable (loop.modeAfterCmd r = loop.controller.controlMode ∧
    (loop.entry r).controlMode = loop.controller.controlMode))

theorem applyLatest_channels :
    (loop.applyLatest r.latest r.sink).controller.phase =
        (if loop.modeAfterCmd r = loop.controller.controlMode then loop.controller.phase
          else loop.controller.phase.left) ∧
      (loop.applyLatest r.latest r.sink).controller.currentCommand.throttle = loop.throttleAtEntry r ∧
      (loop.controller.currentCommand.ArmSettled →
        (loop.applyLatest r.latest r.sink).controller.currentCommand.aux1 =
          if loop.armedAtEntry r then droneAuxMax else droneAuxMin) := by
  unfold applyLatest modeAfterCmd throttleAtEntry armedAtEntry
  cases loop.accepted r.latest with
  | none => exact ⟨(if_pos rfl).symm, rfl, id⟩
  | some cmd => exact applyCmd_channels cmd loop.controller r.sink

theorem keepsMode_iff : loop.KeepsMode r ↔ loop.modeAfterCmd r = loop.controller.controlMode ∧
    ((loop.staleEngages r || loop.sinkEngages r) = true → loop.modeAfterCmd r = .landSafely) := by
  unfold KeepsMode
  rw [entry_controlMode]
  by_cases engages : (loop.staleEngages r || loop.sinkEngages r) = true
  · rw [if_pos engages, forall_prop_of_true engages]
    constructor
    · intro kept
      exact ⟨kept.1, kept.1.trans kept.2.symm⟩
    · intro kept
      exact ⟨kept.1, kept.2.symm.trans kept.1⟩
  · rw [if_neg engages, forall_prop_of_false engages, and_self, and_true]

/-- A real change of mode resets both timers. -/
theorem entry_phase : (loop.entry r).phase =
    if loop.KeepsMode r then loop.controller.phase else loop.controller.phase.left := by
  have frame := (applyLatest_frame loop r).1
  have phase := (applyLatest_channels loop r).1
  simp only [keepsMode_iff]
  rw [entry_eq, latch_snd, latch_snd, ← staleEngages, ← sinkEngages]
  by_cases kept : loop.modeAfterCmd r = loop.controller.controlMode
  · rw [if_pos kept] at phase
    simp only [kept, true_and]
    rw [kept] at frame
    cases loop.staleEngages r <;> cases loop.sinkEngages r <;>
      simp [FlightController.setControlMode_phase, frame, phase, eq_comm]
  · rw [if_neg kept] at phase
    simp only [kept, false_and, ↓reduceIte]
    cases loop.staleEngages r <;> cases loop.sinkEngages r <;>
      simp [FlightController.setControlMode_phase, frame, phase]

theorem entry_throttle : (loop.entry r).currentCommand.throttle = loop.throttleAtEntry r := by
  rw [entry_eq, latch_snd, latch_snd, ← (applyLatest_channels loop r).2.1]
  split_ifs <;> simp [FlightController.setControlMode_throttle]

theorem entry_armed (settled : loop.controller.currentCommand.ArmSettled) :
    (loop.entry r).currentCommand.aux1 = (if loop.armedAtEntry r then droneAuxMax else droneAuxMin) ∧
      (loop.entry r).currentCommand.isArmed = loop.armedAtEntry r := by
  have aux := (loop.entry_aux1 r).trans ((applyLatest_channels loop r).2.2 settled)
  refine ⟨aux, ?_⟩
  rw [BetaFlightCommand.isArmed, aux]
  cases loop.armedAtEntry r <;> rfl

theorem step_armSettled (settled : loop.controller.currentCommand.ArmSettled) :
    (loop.step r).controller.currentCommand.ArmSettled := by
  have armed := loop.entry_armed r settled
  rw [step_controller]
  apply FlightController.updateTimeStep_armSettled
  rw [BetaFlightCommand.ArmSettled, armed.1, armed.2]

/-- The frames leave the throttle in the range of the channel, up to the 0 of an uncalibrated preset. -/
theorem throttleAtEntry_le (range : loop.controller.currentCommand.throttle ≤ droneMax)
    (hover : loop.controller.hoverThrottle ≤ droneMax) : loop.throttleAtEntry r ≤ droneMax := by
  unfold throttleAtEntry
  cases loop.accepted r.latest with
  | none => exact range
  | some cmd =>
    change throttleBy cmd r.sink loop.controller ≤ droneMax
    unfold throttleBy throttleOverride
    generalize preset : ite (entersManual cmd r.sink loop.controller = true) _ _ = found
    have bounded : found ≤ droneMax := by
      rw [← preset]
      split_ifs
      · exact hover
      · decide
      · exact range
    dsimp only
    split_ifs
    · exact bounded
    all_goals exact (FlightController.clampU16_range _).2

omit [Fpu] in
/-- In a mode that flies by the hover throttle, that throttle is known. -/
def Calibrated : Prop := needsMsp loop.controller.controlMode = true → loop.controller.hoverThrottle ≠ 0

theorem entry_calibrated (calibrated : loop.Calibrated) (needs : needsMsp (loop.entry r).controlMode = true) :
    (loop.entry r).hoverThrottle ≠ 0 := by
  rw [entry_hoverThrottle]
  rw [entry_controlMode] at needs
  by_cases engages : (loop.staleEngages r || loop.sinkEngages r) = true
  · rw [if_pos engages] at needs
    exact absurd needs (by decide)
  · rw [if_neg engages, modeAfterCmd] at needs
    cases applied : loop.accepted r.latest with
    | none =>
      rw [applied] at needs
      exact calibrated needs
    | some cmd =>
      rw [applied] at needs
      cases requestedMode_gate cmd r.sink loop.controller needs with
      | inl same => exact calibrated (same ▸ needs)
      | inr usable => exact usable.2.2

theorem step_calibrated (calibrated : loop.Calibrated) : (loop.step r).Calibrated := by
  intro needs
  rw [step_hoverThrottle]
  have entered := loop.entry_calibrated r calibrated
  rw [entry_hoverThrottle] at entered
  rw [step_controller] at needs
  cases FlightController.updateTimeStep_controlMode (loop.entry r) r.dt with
  | inl same =>
    rw [same] at needs
    split_ifs at needs with lands
    · exact absurd needs (by decide)
    · exact entered needs
  | inr handed =>
    apply entered
    rw [handed.2.1]
    rfl

/-- A turn ends in Takeoff only if it entered it. -/
theorem step_takeoff (after : (loop.step r).controller.controlMode = .takeoff) :
    (loop.entry r).controlMode = .takeoff := by
  rw [step_controller] at after
  cases FlightController.updateTimeStep_controlMode (loop.entry r) r.dt with
  | inl same =>
    rw [after] at same
    split_ifs at same
    exact same.symm
  | inr handed => exact handed.2.1

end MainLoop
end setpoints

theorem HoverEnv.us_le (hover : HoverEnv) : hover.us ≤ droneMax := by
  cases hover.valid with
  | inl zero =>
    rw [zero]
    decide
  | inr range => exact range.2.trans (by decide)

theorem boot_calibrated [Fpu] (hover : HoverEnv) : (boot hover).Calibrated := by
  intro needs
  rw [boot_controlMode] at needs
  exact absurd needs (by decide)

theorem boot_phase [Fpu] (hover : HoverEnv) : (boot hover).controller.phase = FlightController.init.phase := by
  unfold boot FlightController.setHoverThrottle
  split_ifs <;> rfl

theorem boot_currentCommand [Fpu] (hover : HoverEnv) : (boot hover).controller.currentCommand = {} := by
  unfold boot FlightController.setHoverThrottle
  split_ifs <;> rfl

end AotDrone.Fc
