import AotDrone.Fc.Arming
import AotDrone.Fc.Phases

/-! Landing over whole runs of the loop: when it keeps the throttle down, and how it ends. -/

namespace AotDrone.Fc
open AotDrone.Lib AotDrone.Lib.Double AotDrone.Lib.Run

section handler
variable [Fpu]

/-- The ramp of a landing from `start`, `elapsed` seconds in. -/
def landRamp (start : Nat) (elapsed : Double) : Double := ofU16 start - kLandRampRateUsPerS * elapsed

def landThrottle (start : Nat) (elapsed : Double) : Nat :=
  toU16 (clamp (landRamp start elapsed) (ofU16 kMinLandThrottle) (ofU16 droneMax))

omit [Fpu] in
/-- What a landing that starts from `throttle` captures. -/
def landCapture (hoverThrottle throttle : Nat) : Nat :=
  max kMinLandThrottle (if hoverThrottle = 0 then throttle else min throttle hoverThrottle)

namespace FlightController
variable (fc : FlightController) (dt : Double)

/-- The timer the landing handler starts from. -/
def landElapsed : Double := if fc.landSafelyInitialized then fc.landTimer else 0

omit [Fpu] in
def landStart : Nat :=
  if fc.landSafelyInitialized then fc.landStartThrottle
  else landCapture fc.hoverThrottle fc.currentCommand.throttle

/-- The members a landing step leaves, with its timer at `timer`. -/
def landed (timer : Double) : Phase :=
  { fc.phase with landSafelyInitialized := true, landTimer := timer, landStartThrottle := fc.landStart }

theorem dispatchMode_landing (landing : fc.controlMode = .landSafely) :
    (fc.startStep dt).dispatchMode (clampedDt dt) = (fc.startStep dt).runLandSafelyMode (clampedDt dt) := by
  unfold dispatchMode
  rw [show (fc.startStep dt).controlMode = .landSafely from landing]

/-- The controller with what the first step of a landing captures. -/
def landStarted : FlightController :=
  { fc with landSafelyInitialized := true, landTimer := fc.landElapsed, landStartThrottle := fc.landStart }

omit [Fpu] in
theorem landStarted_initialized : fc.landStarted.landSafelyInitialized = true := rfl

theorem runLandSafelyMode_started : fc.runLandSafelyMode dt = fc.landStarted.runLandSafelyMode dt := by
  have captures : (if fc.landSafelyInitialized then fc
      else
        { fc with
          landSafelyInitialized := true
          landTimer := 0
          landStartThrottle := landCapture fc.hoverThrottle fc.currentCommand.throttle }) = fc.landStarted := by
    unfold landStarted landElapsed landStart
    cases started : fc.landSafelyInitialized with
    | false => rfl
    | true =>
      simp only [↓reduceIte]
      rw [← started]
  unfold landCapture at captures
  unfold runLandSafelyMode
  rw [captures]
  rfl

theorem runLandSafelyMode_disarmed (disarmed : fc.currentCommand.isArmed = false) :
    (fc.runLandSafelyMode dt).phase = fc.landed fc.landElapsed ∧
      (fc.runLandSafelyMode dt).currentCommand.isArmed = false ∧
      (fc.runLandSafelyMode dt).currentCommand.aux1 = fc.currentCommand.aux1 := by
  have still : fc.landStarted.currentCommand.isArmed = false := disarmed
  rw [runLandSafelyMode_started, runLandSafelyMode, if_pos fc.landStarted_initialized]
  dsimp only
  rw [if_pos still]
  exact ⟨rfl, disarmed, rfl⟩

theorem runLandSafelyMode_over (armed : fc.currentCommand.isArmed = true)
    (ended : kDisarmTime ≤ fc.landElapsed + dt) :
    (fc.runLandSafelyMode dt).phase = fc.landed (fc.landElapsed + dt) ∧
      (fc.runLandSafelyMode dt).currentCommand.aux1 = droneAuxMin := by
  have still : ¬ fc.landStarted.currentCommand.isArmed = false := ne_false_of_eq_true armed
  rw [runLandSafelyMode_started, runLandSafelyMode, if_pos fc.landStarted_initialized]
  dsimp only
  rw [if_neg still, if_pos (by exact ended)]
  exact ⟨rfl, rfl⟩

theorem runLandSafelyMode_ramp (armed : fc.currentCommand.isArmed = true)
    (under : ¬ kDisarmTime ≤ fc.landElapsed + dt) :
    (fc.runLandSafelyMode dt).phase = fc.landed (fc.landElapsed + dt) ∧
      (fc.runLandSafelyMode dt).currentCommand.aux1 = fc.currentCommand.aux1 ∧
      (fc.runLandSafelyMode dt).currentCommand.throttle = landThrottle fc.landStart (fc.landElapsed + dt) := by
  have still : ¬ fc.landStarted.currentCommand.isArmed = false := ne_false_of_eq_true armed
  rw [runLandSafelyMode_started, runLandSafelyMode, if_pos fc.landStarted_initialized]
  dsimp only
  rw [if_neg still, if_neg (by exact under)]
  exact ⟨rfl, rfl, rfl⟩

/-- A control step of a landing that finds the vehicle disarmed leaves it disarmed and its timer alone. -/
theorem updateTimeStep_landing_disarmed (landing : fc.controlMode = .landSafely)
    (disarmed : fc.currentCommand.isArmed = false) :
    (fc.updateTimeStep dt).phase = fc.landed fc.landElapsed ∧
      (fc.updateTimeStep dt).currentCommand.throttle = droneMin ∧
      (fc.updateTimeStep dt).currentCommand.aux1 = clampU16 fc.currentCommand.aux1 droneAuxMin droneAuxMax := by
  obtain ⟨phase, still, aux⟩ := runLandSafelyMode_disarmed (fc.startStep dt) (clampedDt dt) disarmed
  rw [updateTimeStep_eq, dispatchMode_landing _ _ landing, finishStep_phase, finishStep_throttle _ still,
    (finishStep_frame _).2.2, phase, aux]
  exact ⟨rfl, rfl, rfl⟩

theorem updateTimeStep_landing_over (landing : fc.controlMode = .landSafely)
    (armed : fc.currentCommand.isArmed = true) (ended : kDisarmTime ≤ fc.landElapsed + clampedDt dt) :
    (fc.updateTimeStep dt).phase = fc.landed (fc.landElapsed + clampedDt dt) ∧
      (fc.updateTimeStep dt).currentCommand.Disarmed := by
  obtain ⟨phase, aux⟩ := runLandSafelyMode_over (fc.startStep dt) (clampedDt dt) armed ended
  rw [updateTimeStep_eq, dispatchMode_landing _ _ landing, finishStep_phase, phase]
  refine ⟨rfl, ?_, finishStep_throttle _ (isArmed_of_aux1_min _ aux)⟩
  rw [(finishStep_frame _).2.2, aux]
  rfl

theorem updateTimeStep_landing_ramp (landing : fc.controlMode = .landSafely)
    (armed : fc.currentCommand.isArmed = true) (under : ¬ kDisarmTime ≤ fc.landElapsed + clampedDt dt) :
    (fc.updateTimeStep dt).phase = fc.landed (fc.landElapsed + clampedDt dt) ∧
      (fc.updateTimeStep dt).currentCommand.aux1 = clampU16 fc.currentCommand.aux1 droneAuxMin droneAuxMax ∧
      (fc.updateTimeStep dt).currentCommand.throttle =
        clampU16 (landThrottle fc.landStart (fc.landElapsed + clampedDt dt)) droneMin droneMax := by
  obtain ⟨phase, aux, throttle⟩ := runLandSafelyMode_ramp (fc.startStep dt) (clampedDt dt) armed under
  have still : ((fc.startStep dt).runLandSafelyMode (clampedDt dt)).currentCommand.isArmed = true := by
    unfold BetaFlightCommand.isArmed at armed ⊢
    rwa [aux]
  rw [updateTimeStep_eq, dispatchMode_landing _ _ landing, finishStep_phase, phase, (finishStep_frame _).2.2, aux,
    finishStep_throttle_armed _ still, throttle]
  exact ⟨rfl, rfl, rfl⟩

end FlightController

/-! ## The ramp -/

section ramp
variable {start : Nat} {t later : ℚ}

variable (start) in
/-- What the ramp has come down by is exact up to its rounding. -/
theorem landRamp_round (nonneg : 0 ≤ t) (under : t < 5) :
    ∃ y, Fpu.round (50 * t) = fin y ∧ 0 ≤ y ∧ y ≤ 250 ∧ landRamp start (fin t) = Fpu.round (start - y) := by
  have fifty : Within 0 250 (Fpu.round (50 * t)) :=
    round_within isDouble_zero (Fpu.round_int 250 (by norm_num)) (by positivity) (by linarith)
  obtain ⟨y, product, y_nonneg, y_le⟩ := fifty
  refine ⟨y, product, y_nonneg, y_le, ?_⟩
  change ofU16 start - Fpu.round (50 * t) = _
  rw [product]
  exact fin_sub _ _

/-- Before the disarm time the ramp is a finite value at most its start. -/
theorem landRamp_fin (high : start ≤ droneMax) (nonneg : 0 ≤ t) (under : t < 5) :
    ∃ z, landRamp start (fin t) = fin z ∧ z ≤ start := by
  obtain ⟨y, -, y_nonneg, y_le, value⟩ := landRamp_round start nonneg under
  have whole : IsDouble (fin start) := by
    have small : |(start : ℤ)| ≤ 2 ^ 53 := by
      rw [abs_of_nonneg (by positivity)]
      unfold droneMax at high
      omega
    exact Fpu.round_int start small
  have low : IsDouble (fin (-250)) := by
    have rounded := Fpu.round_int (-250) (by norm_num)
    rwa [Int.cast_neg] at rounded
  have above : -250 ≤ (start : ℚ) - y := by
    have positive := start.cast_nonneg (α := ℚ)
    linarith
  obtain ⟨z, same, -, z_le⟩ := round_within low whole above (by linarith)
  exact ⟨z, value.trans same, z_le⟩

variable (start) in
theorem landRamp_antitone (nonneg : 0 ≤ t) (order : t ≤ later) (under : later < 5) :
    landRamp start (fin later) ≤ landRamp start (fin t) := by
  obtain ⟨y, product, -, -, value⟩ := landRamp_round start nonneg (order.trans_lt under)
  obtain ⟨y', product', -, -, value'⟩ := landRamp_round start (nonneg.trans order) under
  have grows : y ≤ y' := by
    have rounded := Fpu.round_mono (mul_le_mul_of_nonneg_left order (by norm_num : (0 : ℚ) ≤ 50))
    rwa [product, product', fin_le_fin] at rounded
  rw [value, value']
  exact Fpu.round_mono (by linarith)

theorem landThrottle_eq {z : ℚ} (high : start ≤ droneMax) (value : landRamp start (fin t) = fin z) (below : z ≤ start) :
    landThrottle start (fin t) = ⌊max (kMinLandThrottle : ℚ) z⌋₊ := by
  have top : z ≤ (droneMax : ℚ) := below.trans (by exact_mod_cast high)
  have nonneg : (0 : ℚ) ≤ max (kMinLandThrottle : ℚ) z := le_max_of_le_left (Nat.cast_nonneg _)
  have bounds : (kMinLandThrottle : ℚ) ≤ (droneMax : ℚ) := by norm_num [kMinLandThrottle, droneMin, droneMax]
  unfold landThrottle ofU16
  rw [value, clamp_fin _ _ _ bounds, min_eq_left top, toU16_fin nonneg]

/-- The ramp reaches a channel value exactly when it is below the next one. -/
theorem landThrottle_le_iff {M : Nat} (high : start ≤ droneMax) (nonneg : 0 ≤ t) (under : t < 5)
    (least : kMinLandThrottle ≤ M) :
    landThrottle start (fin t) ≤ M ↔ landRamp start (fin t) < ofU16 (M + 1) := by
  obtain ⟨z, value, below⟩ := landRamp_fin high nonneg under
  have floor_nonneg : (0 : ℚ) ≤ max (kMinLandThrottle : ℚ) z := le_max_of_le_left (Nat.cast_nonneg _)
  have reached : (kMinLandThrottle : ℚ) < ((M + 1 : Nat) : ℚ) := by exact_mod_cast Nat.lt_succ_of_le least
  calc landThrottle start (fin t) ≤ M ↔ ⌊max (kMinLandThrottle : ℚ) z⌋₊ < M + 1 := by
        rw [landThrottle_eq high value below, Nat.lt_succ_iff]
    _ ↔ max (kMinLandThrottle : ℚ) z < ((M + 1 : Nat) : ℚ) := Nat.floor_lt floor_nonneg
    _ ↔ z < ((M + 1 : Nat) : ℚ) := by rw [max_lt_iff, and_iff_right reached]
    _ ↔ landRamp start (fin t) < ofU16 (M + 1) := by rw [value, ofU16, fin_lt_fin]

theorem landThrottle_range (high : start ≤ droneMax) (nonneg : 0 ≤ t) (under : t < 5) :
    droneMin ≤ landThrottle start (fin t) ∧ landThrottle start (fin t) ≤ max kMinLandThrottle start := by
  obtain ⟨z, value, below⟩ := landRamp_fin high nonneg under
  rw [landThrottle_eq high value below]
  constructor
  · apply Nat.le_floor
    exact (show (droneMin : ℚ) ≤ kMinLandThrottle by norm_num [kMinLandThrottle, droneMin]).trans (le_max_left _ _)
  · apply Nat.floor_le_of_le
    rw [Nat.cast_max]
    exact max_le_max le_rfl below

theorem landThrottle_antitone (high : start ≤ droneMax) (nonneg : 0 ≤ t) (order : t ≤ later) (under : later < 5) :
    landThrottle start (fin later) ≤ landThrottle start (fin t) := by
  obtain ⟨z, value, below⟩ := landRamp_fin high nonneg (order.trans_lt under)
  obtain ⟨z', value', below'⟩ := landRamp_fin high (nonneg.trans order) under
  have ordered := landRamp_antitone start nonneg order under
  rw [value, value', fin_le_fin] at ordered
  rw [landThrottle_eq high value below, landThrottle_eq high value' below']
  exact Nat.floor_le_floor (max_le_max le_rfl ordered)

end ramp

namespace MainLoop
variable (loop : MainLoop) (r : Readings)

/-- This turn goes on with the landing it finds under way. -/
def landsOn : Bool := decide (loop.KeepsMode r) && loop.controller.landSafelyInitialized

/-- The timer of the landing as this turn finds it. -/
def landFound : Double := if loop.landsOn r then loop.controller.landTimer else 0

/-- Where the timer stands with this turn, if the turn finds the vehicle armed. -/
def landClock : Double := loop.landFound r + FlightController.clampedDt r.dt

/-- Where the ramp of the landing starts. -/
def landBase : Nat :=
  if loop.landsOn r then loop.controller.landStartThrottle
  else landCapture loop.controller.hoverThrottle (loop.throttleAtEntry r)

theorem entry_landsOn : (loop.entry r).phase.landSafelyInitialized = loop.landsOn r := by
  unfold landsOn
  rw [entry_phase]
  by_cases keeps : loop.KeepsMode r
  · rw [if_pos keeps, decide_eq_true keeps, Bool.true_and]
    rfl
  · rw [if_neg keeps, decide_eq_false keeps, Bool.false_and]
    rfl

theorem entry_phase_landsOn {loop : MainLoop} {r : Readings} (on : loop.landsOn r = true) :
    (loop.entry r).phase = loop.controller.phase := by
  rw [landsOn, Bool.and_eq_true, decide_eq_true_eq] at on
  rw [entry_phase, if_pos on.1]

theorem entry_landElapsed : (loop.entry r).landElapsed = loop.landFound r := by
  change (if (loop.entry r).phase.landSafelyInitialized then (loop.entry r).phase.landTimer else 0) = _
  rw [entry_landsOn]
  unfold landFound
  split_ifs with on
  · rw [entry_phase_landsOn on]
    rfl
  · rfl

theorem entry_landStart : (loop.entry r).landStart = loop.landBase r := by
  unfold FlightController.landStart landBase
  rw [entry_hoverThrottle, entry_throttle]
  change (if (loop.entry r).phase.landSafelyInitialized then (loop.entry r).phase.landStartThrottle else _) = _
  rw [entry_landsOn]
  split_ifs with on
  · rw [entry_phase_landsOn on]
    rfl
  · rfl

/-- The state between turns as far as a landing depends on it. -/
structure LandingInv (loop : MainLoop) : Prop where
  settled : loop.controller.currentCommand.ArmSettled
  disarmed : loop.controller.currentCommand.isArmed = false → loop.controller.currentCommand.throttle = droneMin
  throttle : loop.controller.currentCommand.throttle ≤ droneMax
  hover : loop.controller.hoverThrottle ≤ droneMax
  calibrated : loop.Calibrated
  underWay : loop.controller.landSafelyInitialized = true →
    loop.controller.controlMode = .landSafely ∧ IsDouble loop.controller.landTimer ∧ 0 ≤ loop.controller.landTimer ∧
      loop.controller.landStartThrottle ≤ droneMax ∧
      (loop.controller.currentCommand.isArmed = true →
        loop.controller.currentCommand.throttle =
          landThrottle loop.controller.landStartThrottle loop.controller.landTimer)

variable {loop r}

theorem LandingInv.found (inv : loop.LandingInv) : 0 ≤ loop.landFound r ∧ IsDouble (loop.landFound r) := by
  unfold landFound
  cases on : loop.landsOn r with
  | false => exact ⟨fin_le_fin.2 le_rfl, isDouble_zero⟩
  | true =>
    unfold landsOn at on
    rw [Bool.and_eq_true] at on
    obtain ⟨-, double, nonneg, -⟩ := inv.underWay on.2
    exact ⟨nonneg, double⟩

/-- The clock does not go back. -/
theorem LandingInv.timer (inv : loop.LandingInv) :
    0 ≤ loop.landFound r ∧ IsDouble (loop.landFound r) ∧ loop.landFound r ≤ loop.landClock r := by
  have found : 0 ≤ loop.landFound r ∧ IsDouble (loop.landFound r) := inv.found
  obtain ⟨d, tick, forward, -⟩ := FlightController.clampedDt_within r.dt
  refine ⟨found.1, found.2, ?_⟩
  rw [landClock, tick]
  exact le_add_fin found.1 found.2 forward

/-- Before the disarm time the clock is finite. -/
theorem LandingInv.clock (inv : loop.LandingInv) (under : ¬ kDisarmTime ≤ loop.landClock r) :
    ∃ before now : ℚ, loop.landFound r = fin before ∧ loop.landClock r = fin now ∧
      0 ≤ before ∧ before ≤ now ∧ now < 5 := by
  obtain ⟨nonneg, -, grows⟩ := inv.timer (r := r)
  have finite {x : Double} (above : 0 ≤ x) (below : ¬ kDisarmTime ≤ x) : ∃ q, x = fin q := by
    cases x with
    | nan => exact absurd above not_le_nan
    | inf negative =>
      cases fin_le_inf.1 above
      exact absurd (fin_le_inf.2 rfl) below
    | fin q => exact ⟨q, rfl⟩
  obtain ⟨now, clock⟩ := finite (Double.le_trans nonneg grows) under
  obtain ⟨before, found⟩ := finite nonneg fun ended => under (Double.le_trans ended grows)
  rw [found] at nonneg
  rw [found, clock] at grows
  rw [clock] at under
  have short : now < 5 := not_le.1 fun ended => under (fin_le_fin.2 ended)
  exact ⟨before, now, found, clock, fin_le_fin.1 nonneg, fin_le_fin.1 grows, short⟩

theorem LandingInv.base (inv : loop.LandingInv) : loop.landBase r ≤ droneMax := by
  unfold landBase
  cases on : loop.landsOn r with
  | true =>
    unfold landsOn at on
    rw [Bool.and_eq_true] at on
    exact (inv.underWay on.2).2.2.2.1
  | false =>
    have found := throttleAtEntry_le loop r inv.throttle inv.hover
    have floor : kMinLandThrottle ≤ droneMax := by decide
    rw [if_neg Bool.false_ne_true]
    unfold landCapture
    split_ifs
    · exact max_le floor found
    · exact max_le floor ((min_le_left _ _).trans found)

/-- What a turn of a landing writes. -/
theorem LandingInv.turn (inv : loop.LandingInv) (landing : (loop.entry r).controlMode = .landSafely) :
    (loop.armedAtEntry r = false → (loop.rcCmd r).Disarmed) ∧
      (loop.armedAtEntry r = true → kDisarmTime ≤ loop.landClock r → (loop.rcCmd r).Disarmed) ∧
      (loop.armedAtEntry r = true → ¬ kDisarmTime ≤ loop.landClock r →
        (loop.rcCmd r).throttle = landThrottle (loop.landBase r) (loop.landClock r) ∧
          (loop.rcCmd r).aux1 = droneAuxMax) := by
  obtain ⟨aux, armed⟩ := loop.entry_armed r inv.settled
  have elapsed : (loop.entry r).landElapsed + FlightController.clampedDt r.dt = loop.landClock r := by
    rw [entry_landElapsed]
    rfl
  refine ⟨?_, ?_, ?_⟩
  · intro off
    rw [off] at armed aux
    obtain ⟨-, throttle, arm⟩ := FlightController.updateTimeStep_landing_disarmed _ r.dt landing armed
    refine ⟨?_, throttle⟩
    rw [aux] at arm
    exact arm
  · intro on ended
    rw [on] at armed
    exact (FlightController.updateTimeStep_landing_over _ r.dt landing armed (elapsed ▸ ended)).2
  · intro on under
    rw [on] at armed aux
    obtain ⟨-, arm, throttle⟩ :=
      FlightController.updateTimeStep_landing_ramp _ r.dt landing armed (elapsed ▸ under)
    rw [aux] at arm
    refine ⟨?_, arm⟩
    obtain ⟨before, now, -, clock, nonneg, order, soon⟩ := inv.clock under
    rw [elapsed, entry_landStart, clock] at throttle
    obtain ⟨low, high⟩ := landThrottle_range (inv.base (r := r)) (nonneg.trans order) soon
    have top : landThrottle (loop.landBase r) (fin now) ≤ droneMax :=
      high.trans (max_le (by decide) inv.base)
    rw [clampU16_eq low top] at throttle
    rw [clock]
    exact throttle

theorem LandingInv.phase (inv : loop.LandingInv) (landing : (loop.entry r).controlMode = .landSafely) :
    (loop.step r).controller.phase =
      (loop.entry r).landed (if loop.armedAtEntry r then loop.landClock r else loop.landFound r) := by
  have armed := (loop.entry_armed r inv.settled).2
  have elapsed : (loop.entry r).landElapsed + FlightController.clampedDt r.dt = loop.landClock r := by
    rw [entry_landElapsed]
    rfl
  rw [step_controller]
  cases on : loop.armedAtEntry r with
  | false =>
    rw [on] at armed
    rw [(FlightController.updateTimeStep_landing_disarmed _ r.dt landing armed).1, entry_landElapsed]
    rfl
  | true =>
    rw [on] at armed
    by_cases ended : kDisarmTime ≤ (loop.entry r).landElapsed + FlightController.clampedDt r.dt
    · rw [(FlightController.updateTimeStep_landing_over _ r.dt landing armed ended).1, elapsed]
      rfl
    · rw [(FlightController.updateTimeStep_landing_ramp _ r.dt landing armed ended).1, elapsed]
      rfl

variable (loop r) in
theorem step_landSafely_entry (calibrated : loop.Calibrated) :
    (loop.step r).controller.controlMode = .landSafely ↔ (loop.entry r).controlMode = .landSafely := by
  constructor
  · intro lands
    have known := loop.entry_calibrated r calibrated
    rw [step_controller] at lands
    cases FlightController.updateTimeStep_controlMode (loop.entry r) r.dt with
    | inl same =>
      rw [lands] at same
      split_ifs at same with uncalibrated
      · have needs : needsMsp (loop.entry r).controlMode = true := by
          cases uncalibrated.2 with
          | inl tracking =>
            rw [tracking]
            rfl
          | inr takeoff =>
            rw [takeoff]
            rfl
        exact absurd uncalibrated.1 (known needs)
      · exact same.symm
    | inr handed =>
      rw [lands] at handed
      exact absurd handed.2.2 (by decide)
  · exact loop.step_landSafely r

theorem LandingInv.step (inv : loop.LandingInv) : (loop.step r).LandingInv where
  settled := loop.step_armSettled r inv.settled
  disarmed := FlightController.updateTimeStep_throttle_disarmed _ _
  throttle := (FlightController.updateTimeStep_throttle_range _ _).2
  hover := (loop.step_hoverThrottle r).trans_le inv.hover
  calibrated := loop.step_calibrated r inv.calibrated
  underWay := by
    intro started
    by_cases landing : (loop.entry r).controlMode = .landSafely
    · have phase := inv.phase landing
      have timer := congrArg Phase.landTimer phase
      have start := congrArg Phase.landStartThrottle phase
      change (loop.step r).controller.landTimer = _ at timer
      change (loop.step r).controller.landStartThrottle = (loop.entry r).landStart at start
      rw [entry_landStart] at start
      change (loop.step r).controller.landTimer =
        if loop.armedAtEntry r then loop.landClock r else loop.landFound r at timer
      obtain ⟨nonneg, double, grows⟩ := inv.timer (r := r)
      rw [timer, start]
      refine ⟨(loop.step_landSafely_entry r inv.calibrated).2 landing, ?_, ?_, inv.base, ?_⟩
      · split_ifs
        · exact isDouble_add _ _
        · exact double
      · split_ifs
        · exact Double.le_trans nonneg grows
        · exact nonneg
      · intro armed
        obtain ⟨off, ended, ramp⟩ := inv.turn landing
        have still (disarmed : (loop.rcCmd r).Disarmed) : False := by
          have clash := (isArmed_of_aux1_min _ disarmed.1).symm.trans armed
          cases clash
        cases on : loop.armedAtEntry r with
        | false => exact (still (off on)).elim
        | true =>
          rw [if_pos rfl]
          exact (ramp on fun reached => still (ended on reached)).1
    · have idle : (loop.entry r).landSafelyInitialized = false := by
        change (loop.entry r).phase.landSafelyInitialized = false
        rw [entry_phase]
        split_ifs with keeps
        · by_contra initialized
          rw [Bool.not_eq_false] at initialized
          exact landing (keeps.2.trans (inv.underWay initialized).1)
        · rfl
      have stays := FlightController.updateTimeStep_idle _ r.dt landing (loop.entry_calibrated r inv.calibrated) idle
      exact absurd (started.symm.trans stays) (by decide)

theorem landingInv_boot (hover : HoverEnv) : (boot hover).LandingInv where
  settled := by
    rw [boot_currentCommand]
    rfl
  disarmed := by
    rw [boot_currentCommand]
    exact fun _ => rfl
  throttle := by
    rw [boot_currentCommand]
    decide
  hover := by
    rw [boot_hoverThrottle]
    exact hover.us_le
  calibrated := boot_calibrated hover
  underWay := by
    intro started
    have idle := congrArg Phase.landSafelyInitialized (boot_phase hover)
    exact absurd (started.symm.trans idle : true = false) (by decide)

/-! ## Descent -/

section descent
variable (loop : MainLoop) (r : Readings)

/-- A turn that ends in LandSafely adds no throttle to the turn before, up to the least landing throttle. -/
def Descends (_ : Past MainLoop Readings) (loop : MainLoop) (r : Readings) : Prop :=
  (loop.step r).controller.controlMode = .landSafely →
    (loop.rcCmd r).throttle ≤ max loop.controller.currentCommand.throttle kMinLandThrottle

/-- Before the disarm time, an armed landing starts from a throttle so far above the output of the turn
before that the ramp is above it too, or the frame of this turn arms again in a landing whose ramp has
not come down to its floor. -/
def Lifts (_ : Past MainLoop Readings) (loop : MainLoop) (r : Readings) : Prop :=
  (loop.entry r).controlMode = .landSafely ∧ loop.armedAtEntry r = true ∧ ¬ kDisarmTime ≤ loop.landClock r ∧
    if loop.landsOn r then
      loop.controller.currentCommand.isArmed = false ∧
        ¬ landRamp loop.controller.landStartThrottle (loop.landClock r) < ofU16 (kMinLandThrottle + 1)
    else
      ¬ landRamp (landCapture loop.controller.hoverThrottle (loop.throttleAtEntry r)) (loop.landClock r) <
        ofU16 (max loop.controller.currentCommand.throttle kMinLandThrottle + 1)

instance (past : Past MainLoop Readings) : Decidable (Descends past loop r) :=
  inferInstanceAs (Decidable ((loop.step r).controller.controlMode = .landSafely →
    (loop.rcCmd r).throttle ≤ max loop.controller.currentCommand.throttle kMinLandThrottle))

variable {loop r} {past : Past MainLoop Readings}

theorem descends_iff (inv : loop.LandingInv) : Descends past loop r ↔ ¬ Lifts past loop r := by
  unfold Descends Lifts
  rw [loop.step_landSafely_entry r inv.calibrated, not_and]
  apply imp_congr_right
  intro landing
  obtain ⟨off, ended, ramp⟩ := inv.turn landing
  have least : droneMin ≤ max loop.controller.currentCommand.throttle kMinLandThrottle :=
    le_max_of_le_right (by decide)
  cases on : loop.armedAtEntry r with
  | false =>
    rw [(off on).2]
    exact iff_of_true least fun armed => absurd armed.1 Bool.false_ne_true
  | true =>
    by_cases reached : kDisarmTime ≤ loop.landClock r
    · rw [(ended on reached).2]
      exact iff_of_true least fun under => under.2.1 reached
    · obtain ⟨before, now, found, clock, nonneg, order, soon⟩ := inv.clock reached
      rw [(ramp on reached).1, and_iff_right rfl, and_iff_right reached, clock]
      have bound := landThrottle_le_iff (inv.base (r := r)) (nonneg.trans order) soon
        (le_max_right loop.controller.currentCommand.throttle kMinLandThrottle)
      cases under : loop.landsOn r with
      | false =>
        rw [bound, if_neg Bool.false_ne_true, not_not, landBase, under, if_neg Bool.false_ne_true]
      | true =>
        have base : loop.landBase r = loop.controller.landStartThrottle := by
          rw [landBase, under, if_pos rfl]
        have timer : loop.controller.landTimer = fin before := by
          rw [landFound, under, if_pos rfl] at found
          exact found
        unfold landsOn at under
        rw [Bool.and_eq_true] at under
        obtain ⟨-, -, -, high, output⟩ := inv.underWay under.2
        rw [if_pos rfl, base]
        cases armed : loop.controller.currentCommand.isArmed with
        | true =>
          -- the turn before wrote the same ramp, earlier
          rw [output armed, timer]
          have down := landThrottle_antitone high nonneg order soon
          exact iff_of_true (le_max_of_le_left down) fun again => absurd again.1.symm Bool.false_ne_true
        | false =>
          rw [inv.disarmed armed, and_iff_right rfl, not_not]
          exact landThrottle_le_iff high (nonneg.trans order) soon (by decide)

/-- The runs on which landing never adds throttle are exactly those on which no turn lifts a landing. -/
theorem landing_descends_iff (hover : HoverEnv) (inputs : List Readings) :
    Always step Descends [] (boot hover) inputs ↔
      Always step (fun past loop r => ¬ Lifts past loop r) [] (boot hover) inputs := by
  apply Always.iff_of_invariant (fun _ loop => loop.LandingInv) (D := fun _ _ _ => True)
  · intro past loop r inv _
    exact descends_iff inv
  · intro past loop r inv _ _
    exact inv.step
  · exact landingInv_boot hover
  · exact Always.true _ _ _

end descent
end MainLoop
end handler

/-! ## The end of a landing, in exact numbers -/

section rationals
attribute [local instance] exact

/-- The control time of a turn in seconds. -/
def controlSeconds (r : Readings) : ℚ :=
  match FlightController.clampedDt r.dt with
  | fin seconds => seconds
  | _ => 0

theorem clampedDt_eq (r : Readings) : FlightController.clampedDt r.dt = fin (controlSeconds r) := by
  obtain ⟨d, tick, -⟩ := FlightController.clampedDt_within r.dt
  unfold controlSeconds
  rw [tick]

/-- The control time of the turns that find the vehicle armed. -/
def armedSeconds (turns : Past MainLoop Readings) : ℚ :=
  (turns.map fun turn => if turn.1.armedAtEntry turn.2 then controlSeconds turn.2 else 0).sum

/-- The turns since the mode last changed, the turn of the change first. -/
def sinceChange (past : Past MainLoop Readings) : Past MainLoop Readings :=
  past.foldl (fun stay turn => if turn.1.KeepsMode turn.2 then stay ++ [turn] else [turn]) []

/-- The throttle a landing captures on the first of its turns. -/
def captured (stay : Past MainLoop Readings) : Nat :=
  match stay with
  | [] => droneMin
  | (loop, r) :: _ => landCapture loop.controller.hoverThrottle (loop.throttleAtEntry r)

/-- A turn in LandSafely, with the armed time `t` of its stay so far: an armed turn before five seconds is on
the ramp from the captured throttle, and every other turn is disarmed. -/
def LandingEnds (past : Past MainLoop Readings) (loop : MainLoop) (r : Readings) : Prop :=
  (loop.entry r).controlMode = .landSafely →
    let stay := sinceChange (past ++ [(loop, r)])
    let t := armedSeconds stay
    if loop.armedAtEntry r = true ∧ t < 5 then
      (loop.rcCmd r).throttle = ⌊max (kMinLandThrottle : ℚ) (captured stay - 50 * t)⌋₊ ∧
        (loop.rcCmd r).aux1 = droneAuxMax
    else (loop.rcCmd r).Disarmed

/-- The timer of the landing under way is the armed time of the stay. -/
structure StayInv (past : Past MainLoop Readings) (loop : MainLoop) : Prop where
  landing : loop.LandingInv
  entered : loop.controller.controlMode = .landSafely → loop.controller.landSafelyInitialized = true ∨ past = []
  timed : loop.controller.landSafelyInitialized = true →
    loop.controller.landTimer = fin (armedSeconds (sinceChange past)) ∧
      loop.controller.landStartThrottle = captured (sinceChange past) ∧ sinceChange past ≠ []

variable {past : Past MainLoop Readings} {loop : MainLoop} {r : Readings}

theorem armedSeconds_append (turns : Past MainLoop Readings) (turn : MainLoop × Readings) :
    armedSeconds (turns ++ [turn]) =
      armedSeconds turns + if turn.1.armedAtEntry turn.2 then controlSeconds turn.2 else 0 := by
  unfold armedSeconds
  rw [List.map_append, List.sum_append, List.map_singleton, List.sum_singleton]

theorem sinceChange_append (turn : MainLoop × Readings) :
    sinceChange (past ++ [turn]) = if turn.1.KeepsMode turn.2 then sinceChange past ++ [turn] else [turn] := by
  unfold sinceChange
  rw [List.foldl_append]
  rfl

/-- The landing of a turn in the terms of its stay. -/
theorem StayInv.turn (inv : StayInv past loop) (landing : (loop.entry r).controlMode = .landSafely) :
    (if loop.armedAtEntry r then loop.landClock r else loop.landFound r) =
        fin (armedSeconds (sinceChange (past ++ [(loop, r)]))) ∧
      loop.landBase r = captured (sinceChange (past ++ [(loop, r)])) ∧ sinceChange (past ++ [(loop, r)]) ≠ [] := by
  have clock {q : ℚ} (found : loop.landFound r = fin q) :
      (if loop.armedAtEntry r then loop.landClock r else loop.landFound r) =
        fin (q + if loop.armedAtEntry r then controlSeconds r else 0) := by
    unfold MainLoop.landClock
    rw [found, clampedDt_eq]
    split_ifs
    · rfl
    · rw [add_zero]
  rw [sinceChange_append]
  cases on : loop.landsOn r with
  | true =>
    have found : loop.landFound r = loop.controller.landTimer := by rw [MainLoop.landFound, on, if_pos rfl]
    have base : loop.landBase r = loop.controller.landStartThrottle := by rw [MainLoop.landBase, on, if_pos rfl]
    unfold MainLoop.landsOn at on
    rw [Bool.and_eq_true, decide_eq_true_eq] at on
    obtain ⟨timer, start, nonempty⟩ := inv.timed on.2
    rw [if_pos on.1, clock (found.trans timer), armedSeconds_append]
    refine ⟨rfl, ?_, by simp⟩
    rw [base, start]
    cases stay : sinceChange past with
    | nil => exact absurd stay nonempty
    | cons first rest => rfl
  | false =>
    have found : loop.landFound r = fin 0 := by
      rw [MainLoop.landFound, on]
      rfl
    have base : loop.landBase r = landCapture loop.controller.hoverThrottle (loop.throttleAtEntry r) := by
      rw [MainLoop.landBase, on, if_neg Bool.false_ne_true]
    have fresh : (if loop.KeepsMode r then sinceChange past ++ [(loop, r)] else [(loop, r)]) = [(loop, r)] := by
      by_cases keeps : loop.KeepsMode r
      · -- in LandSafely without a landing under way: the loop has just started
        have before := inv.entered (keeps.2.symm.trans landing)
        unfold MainLoop.landsOn at on
        rw [decide_eq_true keeps, Bool.true_and] at on
        rw [on] at before
        rw [if_pos keeps, before.resolve_left Bool.false_ne_true]
        rfl
      · exact if_neg keeps
    rw [fresh, clock found]
    refine ⟨?_, base, by simp⟩
    rw [zero_add, armedSeconds, List.map_singleton, List.sum_singleton]

theorem StayInv.ends (inv : StayInv past loop) : LandingEnds past loop r := by
  intro landing
  obtain ⟨off, ended, ramp⟩ := inv.landing.turn landing
  obtain ⟨clock, base, -⟩ := inv.turn landing
  dsimp only
  generalize sinceChange (past ++ [(loop, r)]) = stay at clock base ⊢
  cases on : loop.armedAtEntry r with
  | false =>
    rw [if_neg fun armed => Bool.false_ne_true armed.1]
    exact off on
  | true =>
    rw [on, if_pos rfl] at clock
    have reached : kDisarmTime ≤ loop.landClock r ↔ 5 ≤ armedSeconds stay := by
      rw [clock]
      exact fin_le_fin
    by_cases under : armedSeconds stay < 5
    · have before : ¬ kDisarmTime ≤ loop.landClock r := fun late => not_le.2 under (reached.1 late)
      obtain ⟨throttle, aux⟩ := ramp on before
      rw [if_pos ⟨rfl, under⟩]
      refine ⟨?_, aux⟩
      have high := inv.landing.base (r := r)
      rw [base] at high throttle
      obtain ⟨_, now, _, same, nonneg, order, soon⟩ := inv.landing.clock before
      rw [clock] at throttle same
      cases same
      obtain ⟨z, value, below⟩ := landRamp_fin high (nonneg.trans order) soon
      have exactly : landRamp (captured stay) (fin (armedSeconds stay)) =
          fin (captured stay - 50 * armedSeconds stay) := by
        rw [sub_eq_add_neg]
        rfl
      rw [throttle, landThrottle_eq high value below]
      rw [exactly] at value
      cases value
      rfl
    · rw [if_neg fun armed => under armed.2]
      exact ended on (reached.2 (not_lt.1 under))

theorem StayInv.step (inv : StayInv past loop) : StayInv (past ++ [(loop, r)]) (loop.step r) where
  landing := inv.landing.step
  entered := by
    intro lands
    have landing := (loop.step_landSafely_entry r inv.landing.calibrated).1 lands
    exact .inl (congrArg Phase.landSafelyInitialized (inv.landing.phase landing))
  timed := by
    intro started
    have landing := (loop.step_landSafely_entry r inv.landing.calibrated).1 (inv.landing.step.underWay started).1
    obtain ⟨clock, base, nonempty⟩ := inv.turn landing
    have phase := inv.landing.phase landing
    refine ⟨?_, ?_, nonempty⟩
    · rw [← clock]
      exact congrArg Phase.landTimer phase
    · rw [← base, ← MainLoop.entry_landStart]
      exact congrArg Phase.landStartThrottle phase

/-- However a landing is interfered with while the controller stays in LandSafely, it follows its ramp for five
armed seconds and is disarmed from then on, as on every turn that finds the vehicle disarmed. -/
theorem landing_ends (hover : HoverEnv) (inputs : List Readings) :
    Always MainLoop.step LandingEnds [] (boot hover) inputs := by
  apply Always.of_forall StayInv
  · intro past loop r inv
    exact inv.ends
  · intro past loop r inv
    exact inv.step
  · refine ⟨MainLoop.landingInv_boot hover, fun _ => .inr rfl, ?_⟩
    intro started
    have idle := congrArg Phase.landSafelyInitialized (boot_phase hover)
    exact absurd (started.symm.trans idle : true = false) (by decide)

end rationals

section hardware
attribute [local instance] Binary64.binary64

/-- The first frame asks for a landing, arms and carries a throttle setpoint. -/
def armedLanding : CommandFrame :=
  { seq := 0, desiredMode := 2, hasArm := true, arm := true, setpoints := { hasThrottle := true, throttle := 1400 } }

theorem landing_lifts :
    ¬ Always MainLoop.step MainLoop.Descends [] (boot ⟨1400, by decide⟩) [firstTurn armedLanding] ∧
      ((boot ⟨1400, by decide⟩).rcCmd (firstTurn armedLanding)).throttle = 1399 := by
  decide +kernel

end hardware
end AotDrone.Fc
