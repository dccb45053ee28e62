import AotDrone.Fc.Arming
import AotDrone.Fc.Phases
import AotDrone.Fc.TakeoffRamp

/-! The throttle of a takeoff: spool, a ramp to a fixed target, then the hover throttle. -/

namespace AotDrone.Fc
open AotDrone.Lib AotDrone.Lib.Double AotDrone.Lib.Run

section handler
variable [Fpu]

namespace FlightController
variable (fc : FlightController) (dt : Double)

/-- The timer the takeoff handler starts from. -/
def takeoffElapsed : Double := if fc.takeoffInitialized then fc.takeoffTimer else 0

structure TakeoffStep (fc after : FlightController) (timer : Double) : Prop where
  armed : after.currentCommand.isArmed = true
  throttle : after.currentCommand.throttle = takeoffThrottle fc.hoverThrottle timer
  ended : TakeoffOver timer → after.controlMode = .tracking
  goesOn : ¬ TakeoffOver timer →
    after.controlMode = fc.controlMode ∧ after.takeoffInitialized = true ∧ after.takeoffTimer = timer

/-- The handler with its timer already set. -/
theorem runTakeoffMode_running (calibrated : fc.hoverThrottle ≠ 0) (started : fc.takeoffInitialized = true) :
    TakeoffStep fc (fc.runTakeoffMode dt) (fc.takeoffTimer + dt) := by
  unfold runTakeoffMode
  rw [if_neg calibrated, if_pos started]
  dsimp only
  by_cases spool : fc.takeoffTimer + dt < takeoffSpoolTime
  · rw [if_pos (by exact spool)]
    refine ⟨rfl, (if_pos spool).symm, fun ended => absurd spool ended.1, fun _ => ⟨rfl, started, rfl⟩⟩
  · rw [if_neg (by exact spool)]
    by_cases ramp : fc.takeoffTimer + dt - takeoffSpoolTime < takeoffRampTime
    · rw [if_pos (by exact ramp)]
      refine ⟨rfl, ?_, fun ended => absurd ramp ended.2.1, fun _ => ⟨rfl, started, rfl⟩⟩
      unfold takeoffThrottle
      rw [if_neg spool, if_pos ramp]
      rfl
    · rw [if_neg (by exact ramp)]
      have hover : fc.hoverThrottle = takeoffThrottle fc.hoverThrottle (fc.takeoffTimer + dt) := by
        unfold takeoffThrottle
        rw [if_neg spool, if_neg ramp]
      by_cases hold : takeoffRampTime + takeoffHoldTime < fc.takeoffTimer + dt - takeoffSpoolTime
      · rw [if_pos (by exact hold)]
        refine ⟨?_, ?_, fun _ => setControlMode_controlMode _ _, fun on => absurd ⟨spool, ramp, hold⟩ on⟩
        · unfold BetaFlightCommand.isArmed
          rw [setControlMode_aux1]
          rfl
        · rw [setControlMode_throttle, if_neg fun manual => absurd manual.1 (by decide)]
          exact hover
      · rw [if_neg (by exact hold)]
        exact ⟨rfl, hover, fun ended => absurd ended.2.2 hold, fun _ => ⟨rfl, started, rfl⟩⟩

theorem runTakeoffMode_step (calibrated : fc.hoverThrottle ≠ 0) :
    TakeoffStep fc (fc.runTakeoffMode dt) (fc.takeoffElapsed + dt) := by
  unfold takeoffElapsed
  cases started : fc.takeoffInitialized with
  | true => exact runTakeoffMode_running fc dt calibrated started
  | false =>
    have resets : fc.runTakeoffMode dt =
        { fc with takeoffInitialized := true, takeoffTimer := 0 }.runTakeoffMode dt := by
      unfold runTakeoffMode
      simp only [calibrated, started, Bool.false_eq_true, ↓reduceIte]
    rw [resets]
    have running := runTakeoffMode_running { fc with takeoffInitialized := true, takeoffTimer := 0 } dt calibrated rfl
    exact ⟨running.armed, running.throttle, running.ended, running.goesOn⟩

/-- What a control step in Takeoff does. -/
theorem updateTimeStep_takeoff (takeoff : fc.controlMode = .takeoff) (calibrated : fc.hoverThrottle ≠ 0) :
    (fc.updateTimeStep dt).currentCommand.throttle =
        clampU16 (takeoffThrottle fc.hoverThrottle (fc.takeoffElapsed + clampedDt dt)) droneMin droneMax ∧
      (TakeoffOver (fc.takeoffElapsed + clampedDt dt) → (fc.updateTimeStep dt).controlMode = .tracking) ∧
      (¬ TakeoffOver (fc.takeoffElapsed + clampedDt dt) → (fc.updateTimeStep dt).controlMode = .takeoff ∧
        (fc.updateTimeStep dt).takeoffInitialized = true ∧
        (fc.updateTimeStep dt).takeoffTimer = fc.takeoffElapsed + clampedDt dt) := by
  have taken : (fc.startStep dt).dispatchMode (clampedDt dt) = (fc.startStep dt).runTakeoffMode (clampedDt dt) := by
    unfold dispatchMode
    rw [show (fc.startStep dt).controlMode = .takeoff from takeoff]
  have step := runTakeoffMode_step (fc.startStep dt) (clampedDt dt) calibrated
  have phase := finishStep_phase ((fc.startStep dt).runTakeoffMode (clampedDt dt))
  rw [updateTimeStep_eq, taken, finishStep_throttle_armed _ step.armed, step.throttle, (finishStep_frame _).1]
  refine ⟨rfl, step.ended, ?_⟩
  intro on
  obtain ⟨mode, started, timer⟩ := step.goesOn on
  exact ⟨mode.trans takeoff, (congrArg Phase.takeoffInitialized phase).trans started,
    (congrArg Phase.takeoffTimer phase).trans timer⟩

end FlightController
namespace MainLoop
variable (loop : MainLoop) (r : Readings)

/-- Within a takeoff the throttle does not go down, it stays at or below the hover throttle, and the turn that
hands over to Tracking writes the hover throttle. -/
def Climbs (_ : Past MainLoop Readings) (loop : MainLoop) (r : Readings) : Prop :=
  (loop.entry r).controlMode = .takeoff →
    (loop.KeepsMode r → loop.controller.currentCommand.throttle ≤ (loop.rcCmd r).throttle) ∧
      (loop.rcCmd r).throttle ≤ loop.controller.hoverThrottle ∧
      ((loop.step r).controller.controlMode = .tracking →
        (loop.rcCmd r).throttle = loop.controller.hoverThrottle)

instance (past : Past MainLoop Readings) : Decidable (Climbs past loop r) :=
  inferInstanceAs (Decidable ((loop.entry r).controlMode = .takeoff →
    (loop.KeepsMode r → loop.controller.currentCommand.throttle ≤ (loop.rcCmd r).throttle) ∧
      (loop.rcCmd r).throttle ≤ loop.controller.hoverThrottle ∧
      ((loop.step r).controller.controlMode = .tracking →
        (loop.rcCmd r).throttle = loop.controller.hoverThrottle)))

/-- Where the timer of a takeoff stands with this turn. -/
def takeoffClock : Double := (loop.entry r).takeoffElapsed + FlightController.clampedDt r.dt

theorem entry_takeoffElapsed : (loop.entry r).takeoffElapsed =
    if loop.KeepsMode r ∧ loop.controller.takeoffInitialized = true then loop.controller.takeoffTimer else 0 := by
  change (if (loop.entry r).phase.takeoffInitialized then (loop.entry r).phase.takeoffTimer else 0) = _
  rw [entry_phase]
  by_cases keeps : loop.KeepsMode r
  · rw [if_pos keeps]
    simp only [keeps, true_and]
    rfl
  · simp only [keeps, false_and, ↓reduceIte]
    rfl

end MainLoop
end handler

/-! ## On the hardware -/

section hardware
attribute [local instance] Binary64.binary64

namespace MainLoop
variable {loop : MainLoop} {r : Readings} {elapsed : ℤ}

/-- Between turns, the output of a takeoff is the profile at its timer. -/
structure ClimbInv (loop : MainLoop) : Prop where
  calibrated : loop.Calibrated
  hover : loop.controller.hoverThrottle ≤ droneMax
  spooled : takeoffSpoolThrottle ≤ loop.controller.hoverThrottle
  running : loop.controller.controlMode = .takeoff → loop.controller.takeoffInitialized = true ∧
    0 ≤ loop.controller.takeoffTimer ∧ IsDouble loop.controller.takeoffTimer ∧
    loop.controller.currentCommand.throttle =
      takeoffThrottle loop.controller.hoverThrottle loop.controller.takeoffTimer

/-- The timer a turn in Takeoff starts from. -/
theorem ClimbInv.start (inv : loop.ClimbInv) (takeoff : (loop.entry r).controlMode = .takeoff) :
    0 ≤ (loop.entry r).takeoffElapsed ∧ IsDouble (loop.entry r).takeoffElapsed ∧ (loop.KeepsMode r →
      loop.controller.currentCommand.throttle =
        takeoffThrottle loop.controller.hoverThrottle (loop.entry r).takeoffElapsed) := by
  rw [entry_takeoffElapsed]
  by_cases keeps : loop.KeepsMode r
  · obtain ⟨started, nonneg, double, throttle⟩ := inv.running (keeps.2.symm.trans takeoff)
    rw [if_pos ⟨keeps, started⟩]
    exact ⟨nonneg, double, fun _ => throttle⟩
  · rw [if_neg fun both => keeps both.1]
    exact ⟨fin_le_fin.2 le_rfl, isDouble_zero, fun kept => absurd kept keeps⟩

/-- What a turn in Takeoff writes, and what it leaves. -/
structure TakeoffTurn (loop : MainLoop) (r : Readings) : Prop where
  ticks : Ticks (loop.entry r).takeoffElapsed (loop.takeoffClock r)
  nonneg : 0 ≤ loop.takeoffClock r
  double : IsDouble (loop.takeoffClock r)
  throttle : (loop.rcCmd r).throttle = takeoffThrottle loop.controller.hoverThrottle (loop.takeoffClock r)
  ended : TakeoffOver (loop.takeoffClock r) → (loop.step r).controller.controlMode = .tracking
  goesOn : ¬ TakeoffOver (loop.takeoffClock r) → (loop.step r).controller.controlMode = .takeoff ∧
    (loop.step r).controller.takeoffInitialized = true ∧
    (loop.step r).controller.takeoffTimer = loop.takeoffClock r

theorem ClimbInv.turn (inv : loop.ClimbInv) (counted : r.dt = steadySeconds elapsed)
    (takeoff : (loop.entry r).controlMode = .takeoff) : loop.TakeoffTurn r := by
  obtain ⟨start, double, -⟩ := inv.start takeoff
  have ticks : Ticks (loop.entry r).takeoffElapsed (loop.takeoffClock r) := by
    unfold takeoffClock
    rw [counted]
    exact ticks_clock start double elapsed
  have nonneg := Double.le_trans start ticks.1
  have known : (loop.entry r).hoverThrottle ≠ 0 := by
    apply loop.entry_calibrated r inv.calibrated
    rw [takeoff]
    rfl
  obtain ⟨throttle, ended, goesOn⟩ := FlightController.updateTimeStep_takeoff _ r.dt takeoff known
  change _ = clampU16 (takeoffThrottle _ (loop.takeoffClock r)) droneMin droneMax at throttle
  have low := takeoffThrottle_low nonneg inv.spooled
  have top : takeoffThrottle loop.controller.hoverThrottle (loop.takeoffClock r) ≤ droneMax :=
    (takeoffThrottle_le_max nonneg).trans (max_le (by decide) inv.hover)
  rw [entry_hoverThrottle, clampU16_eq (le_trans (by decide) low) top] at throttle
  exact ⟨ticks, nonneg, isDouble_add _ _, throttle, ended, goesOn⟩

theorem ClimbInv.climbs (inv : loop.ClimbInv) (counted : r.dt = steadySeconds elapsed)
    (high : takeoffTargetThrottle ≤ loop.controller.hoverThrottle) (past : Past MainLoop Readings) :
    Climbs past loop r := by
  intro takeoff
  have turn := inv.turn counted takeoff
  obtain ⟨start, -, before⟩ := inv.start takeoff
  refine ⟨?_, ?_, ?_⟩
  · intro keeps
    rw [before keeps, turn.throttle]
    exact takeoffThrottle_mono start turn.ticks high
  · rw [turn.throttle]
    exact takeoffThrottle_le turn.nonneg high
  · intro handed
    have ended : TakeoffOver (loop.takeoffClock r) := by
      by_contra on
      exact absurd ((turn.goesOn on).1.symm.trans handed) (by decide)
    rw [turn.throttle]
    exact takeoffThrottle_after _ ended.1 ended.2.1

theorem ClimbInv.step (inv : loop.ClimbInv) (counted : r.dt = steadySeconds elapsed) : (loop.step r).ClimbInv where
  calibrated := loop.step_calibrated r inv.calibrated
  hover := (loop.step_hoverThrottle r).trans_le inv.hover
  spooled := inv.spooled.trans_eq (loop.step_hoverThrottle r).symm
  running := by
    intro after
    have turn := inv.turn counted (loop.step_takeoff r after)
    have on : ¬ TakeoffOver (loop.takeoffClock r) :=
      fun reached => absurd (after.symm.trans (turn.ended reached)) (by decide)
    obtain ⟨-, started, timer⟩ := turn.goesOn on
    rw [step_hoverThrottle, timer]
    exact ⟨started, turn.nonneg, turn.double, turn.throttle⟩

theorem climbInv_boot (hover : HoverEnv) (spooled : takeoffSpoolThrottle ≤ hover.us) : (boot hover).ClimbInv where
  calibrated := boot_calibrated hover
  hover := by
    rw [boot_hoverThrottle]
    exact hover.us_le
  spooled := by
    rw [boot_hoverThrottle]
    exact spooled
  running := by
    intro takeoff
    rw [boot_controlMode] at takeoff
    exact absurd takeoff (by decide)

/-- A turn of the loop by what the steady clock counts: the nanoseconds since the turn before. -/
structure ClockTurn where
  elapsed : ℤ
  latest : Option CommandFrame
  cmdAge : Double
  sink : RcSink

def ClockTurn.readings (turn : ClockTurn) : Readings where
  dt := steadySeconds turn.elapsed
  latest := turn.latest
  cmdAge := turn.cmdAge
  sink := turn.sink

/-! ## A climb that ends just before the ramp does -/

/-- A turn of 50 ms with a fresh link and a healthy sink. -/
def climbTurn (latest : Option CommandFrame) : ClockTurn where
  elapsed := 50000000
  latest
  cmdAge := 0
  sink := { ok := true, tuningMismatch := false }

def takeoffFrame : CommandFrame := { seq := 0, desiredMode := 3 }

/-- The timer of a takeoff after this many such turns. -/
def climbTimer : Nat → Double
  | 0 => 0
  | turns + 1 => climbTimer turns + FlightController.clampedDt (steadySeconds 50000000)

/-- The last turn before the end of the ramp is at its target already. -/
theorem climbTimer_target (hoverThrottle : Nat) : takeoffThrottle hoverThrottle (climbTimer 48) = 1250 := by
  have spooled : ¬ climbTimer 48 < takeoffSpoolTime := by decide +kernel
  have ramping : climbTimer 48 - takeoffSpoolTime < takeoffRampTime := by decide +kernel
  unfold takeoffThrottle
  rw [if_neg spooled]
  dsimp only
  rw [if_pos ramping]
  decide +kernel

theorem climbTimer_on : ∀ turns < 49, ¬ TakeoffOver (climbTimer turns) := by decide +kernel

/-- A takeoff under way for this many turns. -/
structure Climbing (hoverThrottle turns : Nat) (loop : MainLoop) : Prop where
  inv : loop.ClimbInv
  hover : loop.controller.hoverThrottle = hoverThrottle
  mode : loop.controller.controlMode = .takeoff
  timer : loop.controller.takeoffTimer = climbTimer turns

theorem staleNow_zero : staleNow 0 = false := by decide +kernel

theorem entry_climbTurn {latest : Option CommandFrame} :
    (loop.entry (climbTurn latest).readings).controlMode = loop.modeAfterCmd (climbTurn latest).readings := by
  rw [entry_controlMode, staleEngages, sinkEngages]
  change (if (staleNow 0 && _ || !true && _) = true then _ else _) = _
  rw [staleNow_zero]
  rfl

/-- A turn that finds or starts a takeoff, before its end. -/
theorem ClimbInv.climbing {turns : Nat} {latest : Option CommandFrame} (inv : loop.ClimbInv)
    (takeoff : (loop.entry (climbTurn latest).readings).controlMode = .takeoff)
    (elapsed : (loop.entry (climbTurn latest).readings).takeoffElapsed = climbTimer turns) (early : turns < 48) :
    Climbing loop.controller.hoverThrottle (turns + 1) (loop.step (climbTurn latest).readings) ∧
      (loop.rcCmd (climbTurn latest).readings).throttle =
        takeoffThrottle loop.controller.hoverThrottle (climbTimer (turns + 1)) := by
  have counted : (climbTurn latest).readings.dt = steadySeconds 50000000 := rfl
  have turn := inv.turn counted takeoff
  have clock : loop.takeoffClock (climbTurn latest).readings = climbTimer (turns + 1) := by
    unfold takeoffClock
    rw [elapsed]
    rfl
  have on : ¬ TakeoffOver (loop.takeoffClock (climbTurn latest).readings) := by
    rw [clock]
    exact climbTimer_on _ (Nat.succ_lt_succ early)
  obtain ⟨mode, -, timer⟩ := turn.goesOn on
  rw [← clock]
  exact ⟨⟨inv.step counted, loop.step_hoverThrottle _, mode, timer.trans clock⟩, turn.throttle⟩

section climbing
variable {hoverThrottle turns : Nat} (climbing : Climbing hoverThrottle turns loop)
include climbing

theorem Climbing.turn (early : turns < 48) : (loop.entry (climbTurn none).readings).controlMode = .takeoff ∧
    Climbing hoverThrottle (turns + 1) (loop.step (climbTurn none).readings) ∧
    (loop.rcCmd (climbTurn none).readings).throttle =
      takeoffThrottle hoverThrottle (climbTimer (turns + 1)) := by
  have takeoff : (loop.entry (climbTurn none).readings).controlMode = .takeoff := entry_climbTurn.trans climbing.mode
  have keeps : loop.KeepsMode (climbTurn none).readings := ⟨rfl, takeoff.trans climbing.mode.symm⟩
  have elapsed : (loop.entry (climbTurn none).readings).takeoffElapsed = climbTimer turns := by
    rw [entry_takeoffElapsed, if_pos ⟨keeps, (climbing.inv.running climbing.mode).1⟩]
    exact climbing.timer
  have next := climbing.inv.climbing takeoff elapsed early
  rw [climbing.hover] at next
  exact ⟨takeoff, next⟩

theorem Climbing.later (count : Nat) (early : turns + count ≤ 48) :
    Climbing hoverThrottle (turns + count)
      ((List.replicate count (climbTurn none).readings).foldl MainLoop.step loop) := by
  induction count generalizing loop turns with
  | zero => exact climbing
  | succ count ih =>
    have next := ih (climbing.turn (by omega)).2.1 (by omega)
    rwa [Nat.add_right_comm, Nat.add_assoc] at next

end climbing

/-- The last turn before the end of the ramp writes its target. -/
theorem Climbing.overshoots {hoverThrottle : Nat} (climbing : Climbing hoverThrottle 47 loop)
    (low : hoverThrottle < 1250) (past : Past MainLoop Readings) :
    ¬ Climbs past loop (climbTurn none).readings := by
  obtain ⟨takeoff, -, throttle⟩ := climbing.turn (by decide)
  intro climbs
  have most := (climbs takeoff).2.1
  rw [throttle, climbTimer_target, climbing.hover] at most
  omega

theorem boot_climbing (hover : HoverEnv) (spooled : takeoffSpoolThrottle ≤ hover.us) :
    Climbing hover.us 1 ((boot hover).step (climbTurn (some takeoffFrame)).readings) := by
  have applied : (boot hover).accepted (some takeoffFrame) = some takeoffFrame := rfl
  have known : hover.us ≠ 0 := fun zero => absurd (spooled.trans_eq zero) (by decide)
  have takeoff : ((boot hover).entry (climbTurn (some takeoffFrame)).readings).controlMode = .takeoff := by
    have passes : modeGate .takeoff (boot hover).controller { ok := true, tuningMismatch := false } = true := by
      unfold modeGate
      rw [boot_hoverThrottle, bne_iff_ne.2 known]
      rfl
    rw [entry_climbTurn, modeAfterCmd_accepted _ _ applied]
    change (if modeGate .takeoff (boot hover).controller { ok := true, tuningMismatch := false } = true
      then ControlMode.takeoff else (boot hover).controller.controlMode) = _
    rw [if_pos passes]
  have changes : ¬ (boot hover).KeepsMode (climbTurn (some takeoffFrame)).readings := by
    intro keeps
    have still := takeoff.symm.trans keeps.2
    rw [boot_controlMode] at still
    exact absurd still (by decide)
  have elapsed : ((boot hover).entry (climbTurn (some takeoffFrame)).readings).takeoffElapsed = climbTimer 0 := by
    rw [entry_takeoffElapsed, if_neg fun both => changes both.1]
    rfl
  have first := ((climbInv_boot hover spooled).climbing takeoff elapsed (by decide)).1
  rwa [boot_hoverThrottle] at first

/-- Takeoff climbs to hover and no higher, whatever the frames and whatever the clock counts, exactly for the hover
throttles that the ramp to 1250 does not pass. -/
theorem takeoff_climbs_iff (hover : HoverEnv) (spooled : takeoffSpoolThrottle ≤ hover.us) :
    (∀ turns : List ClockTurn, Always step Climbs [] (boot hover) (turns.map ClockTurn.readings)) ↔ 1250 ≤ hover.us := by
  constructor
  · intro climbs
    by_contra low
    have near := (boot_climbing hover spooled).later 46 (by decide)
    have run := climbs ((climbTurn (some takeoffFrame) :: List.replicate 46 (climbTurn none)) ++ [climbTurn none])
    rw [List.map_append, List.map_cons, List.map_replicate] at run
    obtain ⟨past, last⟩ := Always.last _ _ _ _ run
    rw [List.foldl_cons] at last
    exact near.overshoots (not_le.1 low) past last
  · intro high turns
    apply Always.of_invariant (fun _ loop => loop.ClimbInv ∧ loop.controller.hoverThrottle = hover.us)
      (Q := fun _ _ r => ∃ elapsed, r.dt = steadySeconds elapsed)
    · intro past loop r inv ⟨elapsed, counted⟩
      exact inv.1.climbs counted (high.trans_eq inv.2.symm) past
    · intro past loop r inv ⟨elapsed, counted⟩
      exact ⟨inv.1.step counted, (loop.step_hoverThrottle r).trans inv.2⟩
    · exact ⟨climbInv_boot hover spooled, boot_hoverThrottle hover⟩
    · apply (Always.iff_forall (fun r : Readings => ∃ elapsed, r.dt = steadySeconds elapsed) _ _ _).2
      intro r member
      obtain ⟨turn, -, rfl⟩ := List.mem_map.1 member
      exact ⟨turn.elapsed, rfl⟩

end MainLoop

theorem takeoff_climbs_at_1400 :
    Always MainLoop.step MainLoop.Climbs [] (boot ⟨1400, by decide⟩)
      ((MainLoop.climbTurn (some MainLoop.takeoffFrame) :: List.replicate 60 (MainLoop.climbTurn none)).map
        MainLoop.ClockTurn.readings) :=
  (MainLoop.takeoff_climbs_iff ⟨1400, by decide⟩ (by decide)).2 (by decide) _

/-- With a hover throttle of 1100 turns of 50 ms pass it: the 28th writes 1106. -/
theorem takeoff_overshoots :
    ¬ Always MainLoop.step MainLoop.Climbs [] (boot ⟨1100, by decide⟩)
      ((MainLoop.climbTurn (some MainLoop.takeoffFrame) :: List.replicate 27 (MainLoop.climbTurn none)).map
        MainLoop.ClockTurn.readings) ∧
      (((MainLoop.climbTurn (some MainLoop.takeoffFrame) :: List.replicate 26 (MainLoop.climbTurn none)).foldl
        (fun loop turn => loop.step turn.readings) (boot ⟨1100, by decide⟩)).rcCmd
          (MainLoop.climbTurn none).readings).throttle = 1106 := by
  decide +kernel

end hardware
end AotDrone.Fc
