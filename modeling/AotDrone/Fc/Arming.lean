import AotDrone.Fc.LoopFacts
import AotDrone.Lib.Binary64

/-! Disarm requests. The frame writes the arm channel, the handlers may write it again, and the
throttle guard comes last. -/

namespace AotDrone.Fc
open AotDrone.Lib AotDrone.Lib.Double

def BetaFlightCommand.Disarmed (cmd : BetaFlightCommand) : Prop :=
  cmd.aux1 = droneAuxMin ∧ cmd.throttle = droneMin

instance (cmd : BetaFlightCommand) : Decidable cmd.Disarmed :=
  inferInstanceAs (Decidable (cmd.aux1 = droneAuxMin ∧ cmd.throttle = droneMin))

theorem isArmed_of_aux1_min (cmd : BetaFlightCommand) (low : cmd.aux1 = droneAuxMin) :
    cmd.isArmed = false := by
  unfold BetaFlightCommand.isArmed
  rw [low]
  decide

namespace FlightController
variable [Fpu] (fc : FlightController) (dt : Double)

/-- A controller entered with the arm channel down leaves it down, unless it takes off. -/
theorem updateTimeStep_disarmed (low : fc.currentCommand.aux1 = droneAuxMin)
    (grounded : ¬ (fc.hoverThrottle ≠ 0 ∧ fc.controlMode = .takeoff)) :
    (fc.updateTimeStep dt).currentCommand.Disarmed := by
  have notTakeoff : fc.controlMode ≠ .takeoff ∨ fc.hoverThrottle = 0 := by
    by_cases calibrated : fc.hoverThrottle = 0
    · exact .inr calibrated
    · exact .inl fun takeoff => grounded ⟨calibrated, takeoff⟩
  rw [updateTimeStep_eq]
  have kept := dispatchMode_aux1 (fc.startStep dt) (clampedDt dt) notTakeoff
  have down : ((fc.startStep dt).dispatchMode (clampedDt dt)).currentCommand.aux1 = droneAuxMin := by
    rcases kept with same | disarmed
    · exact same.trans low
    · exact disarmed
  constructor
  · rw [(finishStep_frame _).2.2, down]
    rfl
  · exact finishStep_throttle _ (isArmed_of_aux1_min _ down)

/-- The Takeoff handler raises the arm channel whatever was written before. -/
theorem updateTimeStep_takeoff_arms (calibrated : fc.hoverThrottle ≠ 0)
    (takeoff : fc.controlMode = .takeoff) :
    (fc.updateTimeStep dt).currentCommand.aux1 = droneAuxMax := by
  have armed := (runTakeoffMode_frame (fc.startStep dt) (clampedDt dt) calibrated).2.2
  have dispatched : (fc.startStep dt).dispatchMode (clampedDt dt) =
      (fc.startStep dt).runTakeoffMode (clampedDt dt) := by
    unfold dispatchMode
    rw [show (fc.startStep dt).controlMode = .takeoff from takeoff]
  rw [updateTimeStep_eq, (finishStep_frame _).2.2, dispatched, armed]
  rfl

end FlightController

namespace MainLoop
variable [Fpu] (loop : MainLoop) (r : Readings)

/-- This turn runs the Takeoff handler: the frame leaves the controller in Takeoff with a calibrated
hover throttle, and neither failsafe engages. -/
def RunsTakeoff : Prop :=
  loop.controller.hoverThrottle ≠ 0 ∧ loop.modeAfterCmd r = .takeoff ∧
    loop.staleEngages r = false ∧ loop.sinkEngages r = false

theorem entry_takeoff_iff :
    (loop.entry r).hoverThrottle ≠ 0 ∧ (loop.entry r).controlMode = .takeoff ↔ loop.RunsTakeoff r := by
  rw [entry_hoverThrottle, entry_controlMode]
  unfold RunsTakeoff
  cases loop.staleEngages r <;> cases loop.sinkEngages r <;> simp

/-- An applied disarm request reaches `updateTimeStep`. -/
theorem entry_disarmed (cmd : CommandFrame) (applied : loop.accepted r.latest = some cmd)
    (hasArm : cmd.hasArm = true) (disarm : cmd.arm = false) :
    (loop.entry r).currentCommand.aux1 = droneAuxMin := by
  rw [entry_aux1]
  unfold applyLatest
  rw [applied]
  exact applyCmd_disarms cmd loop.controller r.sink hasArm disarm

/-- The turn that applies a disarm request writes a disarmed command exactly when it does not run
the Takeoff handler. -/
theorem rcCmd_disarmed_iff (cmd : CommandFrame) (applied : loop.accepted r.latest = some cmd)
    (hasArm : cmd.hasArm = true) (disarm : cmd.arm = false) :
    (loop.rcCmd r).Disarmed ↔ ¬ loop.RunsTakeoff r := by
  rw [← entry_takeoff_iff]
  unfold rcCmd
  rw [step_controller]
  constructor
  · intro disarmed takeoff
    have armed := FlightController.updateTimeStep_takeoff_arms (loop.entry r) r.dt takeoff.1 takeoff.2
    have clash := disarmed.1.symm.trans armed
    revert clash
    decide
  · intro grounded
    exact FlightController.updateTimeStep_disarmed _ _ (loop.entry_disarmed r cmd applied hasArm disarm) grounded

end MainLoop

section hardware
attribute [local instance] Binary64.binary64

/-- A first turn with a healthy sink and a fresh link. -/
def firstTurn (cmd : CommandFrame) : Readings :=
  { dt := 0.02, latest := some cmd, cmdAge := 0.01, sink := { ok := true, tuningMismatch := false } }

def disarmInTakeoff : CommandFrame := { seq := 0, desiredMode := 3, hasArm := true, arm := false }

theorem disarm_loses_in_takeoff :
    (boot ⟨1400, by decide⟩).accepted (firstTurn disarmInTakeoff).latest = some disarmInTakeoff ∧
      disarmInTakeoff.hasArm = true ∧ disarmInTakeoff.arm = false ∧
      ¬ ((boot ⟨1400, by decide⟩).rcCmd (firstTurn disarmInTakeoff)).Disarmed := by
  decide +kernel

theorem disarm_wins_in_manual :
    ((boot ⟨1400, by decide⟩).rcCmd (firstTurn { disarmInTakeoff with desiredMode := 0 })).Disarmed := by
  refine (MainLoop.rcCmd_disarmed_iff _ _ { disarmInTakeoff with desiredMode := 0 } ?_ rfl rfl).2 ?_
  · decide +kernel
  · rintro ⟨_, takeoff, _⟩
    revert takeoff
    decide +kernel

end hardware
end AotDrone.Fc
