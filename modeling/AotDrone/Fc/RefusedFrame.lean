import AotDrone.Fc.Landing

/-! Frames whose mode is refused or unknown, on a turn that finds the vehicle disarmed: the mode stays,
and what the frame asks of the arm channel is applied all the same. -/

namespace AotDrone.Fc
open AotDrone.Lib AotDrone.Lib.Double AotDrone.Lib.Run

/-- The gate refuses the mode of the frame, or the frame names none. -/
def Refused (cmd : CommandFrame) (sink : RcSink) (fc : FlightController) : Prop :=
  ∀ desired, toControlMode cmd.desiredMode = some desired → modeGate desired fc sink = false

theorem requestedMode_refused {cmd : CommandFrame} {sink : RcSink} {fc : FlightController}
    (refused : Refused cmd sink fc) : requestedMode cmd sink fc = fc.controlMode := by
  unfold requestedMode
  cases named : toControlMode cmd.desiredMode with
  | none => rfl
  | some desired =>
    dsimp only
    rw [refused desired named, if_neg Bool.false_ne_true]

section turns
variable [Fpu]

namespace FlightController
variable (fc : FlightController) (dt : Double)

/-- Manual and Tracking leave the arm channel to the frames. -/
theorem updateTimeStep_steered (steered : fc.controlMode = .manual ∨ fc.controlMode = .tracking)
    (calibrated : needsMsp fc.controlMode = true → fc.hoverThrottle ≠ 0) :
    (fc.updateTimeStep dt).currentCommand.aux1 = clampU16 fc.currentCommand.aux1 droneAuxMin droneAuxMax := by
  rw [updateTimeStep_eq, (finishStep_frame _).2.2]
  have kept : Steers (fc.startStep dt) ((fc.startStep dt).dispatchMode (clampedDt dt)) := by
    unfold dispatchMode
    cases steered with
    | inl manual =>
      rw [show (fc.startStep dt).controlMode = .manual from manual]
      exact runManualMode_steers _
    | inr tracking =>
      have known : (fc.startStep dt).hoverThrottle ≠ 0 := calibrated (by rw [tracking]; rfl)
      rw [show (fc.startStep dt).controlMode = .tracking from tracking]
      exact runTrackingMode_steers _ _ known
  rw [kept.1]
  rfl

end FlightController

namespace MainLoop
variable (loop : MainLoop) (r : Readings)

/-- On a turn that finds the arm channel down, an applied frame that is refused leaves the mode, and the turn
is disarmed exactly when the frame does not ask to arm or a landing is over. -/
def RefusedArms (_ : Past MainLoop Readings) (loop : MainLoop) (r : Readings) : Prop :=
  loop.controller.currentCommand.aux1 = droneAuxMin →
    ∀ cmd ∈ loop.accepted r.latest, Refused cmd r.sink loop.controller →
      loop.modeAfterCmd r = loop.controller.controlMode ∧
        ((loop.rcCmd r).Disarmed ↔ ¬ (cmd.hasArm = true ∧ cmd.arm = true) ∨
          (loop.entry r).controlMode = .landSafely ∧ kDisarmTime ≤ loop.landClock r)

/-- Between turns, Takeoff has the vehicle armed. -/
structure ArmInv (loop : MainLoop) : Prop where
  landing : loop.LandingInv
  takeoff : loop.controller.controlMode = .takeoff → loop.controller.currentCommand.aux1 = droneAuxMax

variable {loop r} {past : Past MainLoop Readings}

theorem ArmInv.step (inv : loop.ArmInv) : (loop.step r).ArmInv where
  landing := inv.landing.step
  takeoff := by
    intro after
    have entered := loop.step_takeoff r after
    apply FlightController.updateTimeStep_takeoff_arms _ r.dt _ entered
    apply loop.entry_calibrated r inv.landing.calibrated
    rw [entered]
    rfl

theorem ArmInv.refusedArms (inv : loop.ArmInv) : RefusedArms past loop r := by
  intro down cmd applied refused
  rw [Option.mem_def] at applied
  have kept : loop.modeAfterCmd r = loop.controller.controlMode := by
    rw [modeAfterCmd, applied]
    exact requestedMode_refused refused
  have grounded : (loop.entry r).controlMode ≠ .takeoff := by
    intro takeoff
    rw [entry_controlMode] at takeoff
    split_ifs at takeoff
    have armed := inv.takeoff (kept.symm.trans takeoff)
    exact absurd (down.symm.trans armed) (by decide)
  have arms : loop.armedAtEntry r = (cmd.hasArm && cmd.arm) := by
    rw [armedAtEntry, applied]
    unfold armedBy
    rw [isArmed_of_aux1_min _ down]
    change (if cmd.hasArm then cmd.arm else false) = _
    cases cmd.hasArm <;> rfl
  obtain ⟨aux, -⟩ := loop.entry_armed r inv.landing.settled
  refine ⟨kept, ?_⟩
  cases asks : cmd.hasArm && cmd.arm with
  | false =>
    have quiet : ¬ (cmd.hasArm = true ∧ cmd.arm = true) := by
      rw [← Bool.and_eq_true, asks]
      exact Bool.false_ne_true
    rw [arms, asks] at aux
    exact iff_of_true (FlightController.updateTimeStep_disarmed _ r.dt aux fun takes => grounded takes.2) (.inl quiet)
  | true =>
    have both := Bool.and_eq_true_iff.1 asks
    rw [or_iff_right (not_not.2 both)]
    rw [arms, asks] at aux
    have stays (steered : (loop.entry r).controlMode = .manual ∨ (loop.entry r).controlMode = .tracking) :
        ¬ (loop.rcCmd r).Disarmed := by
      have raised := FlightController.updateTimeStep_steered _ r.dt steered
        (loop.entry_calibrated r inv.landing.calibrated)
      rw [aux] at raised
      exact fun disarmed => absurd (disarmed.1.symm.trans raised) (by decide)
    cases mode : (loop.entry r).controlMode with
    | takeoff => exact absurd mode grounded
    | landSafely =>
      obtain ⟨-, ended, ramp⟩ := inv.landing.turn mode
      rw [arms, asks] at ended ramp
      rw [and_iff_right rfl]
      constructor
      · intro disarmed
        by_contra under
        exact absurd (disarmed.1.symm.trans (ramp rfl under).2) (by decide)
      · exact ended rfl
    | manual => exact iff_of_false (stays (.inl mode)) fun landing => absurd landing.1 (by decide)
    | tracking => exact iff_of_false (stays (.inr mode)) fun landing => absurd landing.1 (by decide)

/-- The FC applies the arm field of a frame whatever becomes of its mode. -/
theorem refused_arms_always (hover : HoverEnv) (inputs : List Readings) :
    Always step RefusedArms [] (boot hover) inputs := by
  apply Always.of_forall fun _ => ArmInv
  · intro past loop r inv
    exact inv.refusedArms
  · intro past loop r inv
    exact inv.step
  · refine ⟨landingInv_boot hover, ?_⟩
    intro takeoff
    rw [boot_controlMode] at takeoff
    exact absurd takeoff (by decide)

end MainLoop
end turns

section hardware
attribute [local instance] Binary64.binary64

/-- Takeoff without a calibrated hover throttle. -/
def refusedTakeoff : CommandFrame := { seq := 0, desiredMode := 3, hasArm := true, arm := true }

theorem refused_frame_arms :
    (boot ⟨0, by decide⟩).accepted (firstTurn refusedTakeoff).latest = some refusedTakeoff ∧
      (boot ⟨0, by decide⟩).controller.currentCommand.aux1 = droneAuxMin ∧
      modeGate .takeoff (boot ⟨0, by decide⟩).controller (firstTurn refusedTakeoff).sink = false ∧
      ¬ ((boot ⟨0, by decide⟩).rcCmd (firstTurn refusedTakeoff)).Disarmed := by
  decide +kernel

end hardware
end AotDrone.Fc
