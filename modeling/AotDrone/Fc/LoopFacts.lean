import AotDrone.Fc.ControllerFacts
import AotDrone.Fc.MainLoop

/-! What one turn of the loop does to the mode, the hover throttle, the arm channel and the
latches, stated once for every invariant that follows. -/

namespace AotDrone.Fc
open AotDrone.Lib AotDrone.Lib.Double

/-- The mode a frame leaves the controller in: the one it asks for where that is a known mode that
passes the gate, else the present one. -/
def requestedMode (cmd : CommandFrame) (sink : RcSink) (fc : FlightController) : ControlMode :=
  match toControlMode cmd.desiredMode with
  | some desired => if modeGate desired fc sink then desired else fc.controlMode
  | none => fc.controlMode

/-- A frame that leaves the controller in a mode that needs the sink found the sink usable, or the
controller in that mode. -/
theorem requestedMode_gate (cmd : CommandFrame) (sink : RcSink) (fc : FlightController)
    (needs : needsMsp (requestedMode cmd sink fc) = true) :
    requestedMode cmd sink fc = fc.controlMode ∨
      (sink.ok = true ∧ sink.tuningMismatch = false ∧ fc.hoverThrottle ≠ 0) := by
  unfold requestedMode at needs ⊢
  cases desired : toControlMode cmd.desiredMode with
  | none => exact .inl rfl
  | some mode =>
    by_cases gate : modeGate mode fc sink = true
    · simp only [desired, gate, ↓reduceIte] at needs ⊢
      right
      simpa [modeGate, needs, and_assoc] using gate
    · simp only [gate, Bool.false_eq_true, ↓reduceIte, true_or]

section frame
variable (cmd : CommandFrame) (fc : FlightController)

theorem applyTrackingUpdate_frame :
    (applyTrackingUpdate cmd fc).controlMode = fc.controlMode ∧
      (applyTrackingUpdate cmd fc).hoverThrottle = fc.hoverThrottle ∧
      (applyTrackingUpdate cmd fc).currentCommand = fc.currentCommand := by
  unfold applyTrackingUpdate
  cases toTrackingState cmd.tracking.trackingState with
  | none => simp only [ite_self, and_self]
  | some state => split_ifs <;> exact ⟨rfl, rfl, rfl⟩

namespace MainLoop

theorem applyMode_frame (sink : RcSink) :
    (applyMode cmd sink fc).controlMode = requestedMode cmd sink fc ∧
      (applyMode cmd sink fc).hoverThrottle = fc.hoverThrottle := by
  unfold applyMode requestedMode applyControlModeSafely
  cases toControlMode cmd.desiredMode with
  | none => exact ⟨rfl, rfl⟩
  | some desired =>
    dsimp only
    split_ifs
    · exact ⟨fc.setControlMode_controlMode desired, fc.setControlMode_hoverThrottle desired⟩
    · exact ⟨rfl, rfl⟩

theorem applyArm_frame :
    (applyArm cmd fc).controlMode = fc.controlMode ∧ (applyArm cmd fc).hoverThrottle = fc.hoverThrottle := by
  unfold applyArm
  split_ifs <;> exact ⟨rfl, rfl⟩

end MainLoop

variable [Fpu]

theorem applySetpointOverrides_frame :
    (applySetpointOverrides cmd fc).controlMode = fc.controlMode ∧
      (applySetpointOverrides cmd fc).hoverThrottle = fc.hoverThrottle ∧
      (fc.currentCommand.aux1 = droneAuxMin →
        (applySetpointOverrides cmd fc).currentCommand.aux1 = droneAuxMin) := by
  unfold applySetpointOverrides
  dsimp only
  split
  · exact ⟨rfl, rfl, id⟩
  · refine ⟨rfl, rfl, ?_⟩
    intro disarmed
    rw [FlightController.setManualSetpoints_aux1, disarmed]
    rfl

namespace MainLoop

@[simp] theorem applyCmd_controlMode (sink : RcSink) :
    (applyCmd cmd sink fc).controlMode = requestedMode cmd sink fc := by
  unfold applyCmd
  rw [(applyTrackingUpdate_frame cmd _).1, (applySetpointOverrides_frame cmd _).1, (applyArm_frame cmd _).1]
  exact (applyMode_frame cmd fc sink).1

@[simp] theorem applyCmd_hoverThrottle (sink : RcSink) :
    (applyCmd cmd sink fc).hoverThrottle = fc.hoverThrottle := by
  unfold applyCmd
  rw [(applyTrackingUpdate_frame cmd _).2.1, (applySetpointOverrides_frame cmd _).2.1,
    (applyArm_frame cmd _).2]
  exact (applyMode_frame cmd fc sink).2

/-- A disarm request is still in the arm channel when the frame has been applied. -/
theorem applyCmd_disarms (sink : RcSink) (hasArm : cmd.hasArm = true) (disarm : cmd.arm = false) :
    (applyCmd cmd sink fc).currentCommand.aux1 = droneAuxMin := by
  unfold applyCmd
  rw [(applyTrackingUpdate_frame cmd _).2.2]
  apply (applySetpointOverrides_frame cmd _).2.2
  simp only [applyArm, hasArm, disarm, ↓reduceIte, FlightController.setArm_aux1, Bool.false_eq_true]

end MainLoop
end frame

/-! ## The latches -/

namespace MainLoop
section latches
variable (trigger engaged : Bool) (fc : FlightController)

@[simp] theorem latch_fst : (latch trigger engaged fc).1 = trigger := by
  cases trigger <;> cases engaged <;> rfl

/-- A latch acts on the controller only as it engages. -/
theorem latch_snd :
    (latch trigger engaged fc).2 = if trigger && !engaged then fc.setControlMode .landSafely else fc := by
  cases trigger <;> cases engaged <;> rfl

end latches

variable [Fpu] (loop : MainLoop) (r : Readings)

/-- The stale-link latch engages at this turn. -/
def staleEngages : Bool := staleNow r.cmdAge && !loop.failsafeEngaged

omit [Fpu] in
/-- The sink latch engages at this turn. -/
def sinkEngages : Bool := !r.sink.ok && !loop.sinkDegradedEngaged

/-- The mode the frame of this turn leaves behind, if one is applied. -/
def modeAfterCmd : ControlMode :=
  match loop.accepted r.latest with
  | none => loop.controller.controlMode
  | some cmd => requestedMode cmd r.sink loop.controller

omit [Fpu] in
theorem modeAfterCmd_accepted {cmd : CommandFrame} (applied : loop.accepted r.latest = some cmd) :
    loop.modeAfterCmd r = requestedMode cmd r.sink loop.controller := by
  rw [modeAfterCmd, applied]

theorem applyLatest_frame :
    (loop.applyLatest r.latest r.sink).controller.controlMode = loop.modeAfterCmd r ∧
      (loop.applyLatest r.latest r.sink).controller.hoverThrottle = loop.controller.hoverThrottle ∧
      (loop.applyLatest r.latest r.sink).failsafeEngaged = loop.failsafeEngaged ∧
      (loop.applyLatest r.latest r.sink).sinkDegradedEngaged = loop.sinkDegradedEngaged := by
  unfold applyLatest modeAfterCmd
  cases loop.accepted r.latest with
  | none => exact ⟨rfl, rfl, rfl, rfl⟩
  | some cmd => exact ⟨applyCmd_controlMode cmd _ _, applyCmd_hoverThrottle cmd _ _, rfl, rfl⟩

/-- The controller `updateTimeStep` is given: the applied frame, then the two latches. -/
theorem entry_eq : loop.entry r =
    (latch (!r.sink.ok) loop.sinkDegradedEngaged
      (latch (staleNow r.cmdAge) loop.failsafeEngaged (loop.applyLatest r.latest r.sink).controller).2).2 := by
  obtain ⟨_, _, stale, degraded⟩ := applyLatest_frame loop r
  simp only [entry, beforeUpdate, sinkLatch, staleLatch, stale, degraded]

theorem entry_controlMode : (loop.entry r).controlMode =
    if loop.staleEngages r || loop.sinkEngages r then .landSafely else loop.modeAfterCmd r := by
  rw [entry_eq, latch_snd, latch_snd, ← staleEngages, ← sinkEngages]
  cases loop.sinkEngages r <;> cases loop.staleEngages r <;> simp [(applyLatest_frame loop r).1]

@[simp] theorem entry_hoverThrottle : (loop.entry r).hoverThrottle = loop.controller.hoverThrottle := by
  rw [entry_eq, latch_snd, latch_snd]
  split_ifs <;> simp [(applyLatest_frame loop r).2.1]

/-- The latches leave the arm channel alone. -/
theorem entry_aux1 : (loop.entry r).currentCommand.aux1 =
    (loop.applyLatest r.latest r.sink).controller.currentCommand.aux1 := by
  rw [entry_eq, latch_snd, latch_snd]
  split_ifs <;> simp

/-! ## The whole turn -/

@[simp] theorem step_failsafeEngaged : (loop.step r).failsafeEngaged = staleNow r.cmdAge :=
  latch_fst _ _ _

@[simp] theorem step_sinkDegradedEngaged : (loop.step r).sinkDegradedEngaged = !r.sink.ok :=
  latch_fst _ _ _

theorem step_controller : (loop.step r).controller = (loop.entry r).updateTimeStep r.dt := rfl

/-- `main` sets the hover throttle before the loop and nothing sets it again. -/
@[simp] theorem step_hoverThrottle :
    (loop.step r).controller.hoverThrottle = loop.controller.hoverThrottle := by
  rw [step_controller, FlightController.updateTimeStep_hoverThrottle, entry_hoverThrottle]

/-- After a turn that entered LandSafely the controller is in LandSafely. -/
theorem step_landSafely (landing : (loop.entry r).controlMode = .landSafely) :
    (loop.step r).controller.controlMode = .landSafely :=
  FlightController.updateTimeStep_landSafely _ r.dt landing

end MainLoop

theorem boot_controlMode [Fpu] (hover : HoverEnv) : (boot hover).controller.controlMode = .landSafely :=
  FlightController.setHoverThrottle_controlMode _ _

theorem boot_hoverThrottle [Fpu] (hover : HoverEnv) : (boot hover).controller.hoverThrottle = hover.us :=
  FlightController.setHoverThrottle_valid _ _ hover.valid

end AotDrone.Fc
