import AotDrone.Fc.TrackingRuns

/-! Takeoff while the backend repeats the Takeoff intent: the handler hands over to Tracking by
itself, and every later frame still asks for Takeoff. -/

namespace AotDrone.Fc
open AotDrone.Lib AotDrone.Lib.Double AotDrone.Lib.Run

/-- The default configuration and a target coordinate on the screen. -/
def Tracked.Aimed [Fpu] (tracked : Tracked) : Prop :=
  tracked.trackingConfig = .default ∧ Within (-1) 1 tracked.lastTrackingMsg.targetY

namespace FlightController
variable [Fpu] (fc : FlightController) (dt : Double)

/-- How far from the hover throttle Tracking goes at a control step: by the height of a target it follows, else
not at all. -/
def deltaAsked : Double :=
  if (fc.startStep dt).isTargetValid then followDelta fc.trackingConfig fc.lastTrackingMsg.targetY else 0

/-- The height Tracking asks for falls on the channel value a takeoff spools at. -/
def AtSpoolHeight : Prop :=
  ofU16 takeoffSpoolThrottle ≤ heightThrottle fc.hoverThrottle (fc.deltaAsked dt) ∧
    heightThrottle fc.hoverThrottle (fc.deltaAsked dt) < ofU16 (takeoffSpoolThrottle + 1)

instance : Decidable (fc.AtSpoolHeight dt) :=
  inferInstanceAs (Decidable (ofU16 takeoffSpoolThrottle ≤ heightThrottle fc.hoverThrottle (fc.deltaAsked dt) ∧
    heightThrottle fc.hoverThrottle (fc.deltaAsked dt) < ofU16 (takeoffSpoolThrottle + 1)))

theorem negOne_isDouble : IsDouble (fin (-1)) := by
  have whole := Fpu.round_int (-1) (by norm_num)
  push_cast at whole
  exact whole

/-- No height error asks for more than the gain, up or down. -/
theorem followDelta_limit {limit gain : ℚ} (known : (TrackingConfig.default).kAltPerUnitError = fin gain)
    (nonneg : 0 ≤ gain) (small : gain ≤ limit) (unit : limit ≤ 1) (down : IsDouble (fin (-limit)))
    (up : IsDouble (fin limit)) {y : Double} (aimed : Within (-1) 1 y) :
    Within (-limit) limit (followDelta TrackingConfig.default y) := by
  obtain ⟨q, rfl, low, high⟩ := aimed
  have centred : Within (-1) 1 (deadbandError (fin q - (TrackingConfig.default).desiredTargetY)
      (TrackingConfig.default).yDeadband) := by
    have error : Within (-1) 1 (fin q - (TrackingConfig.default).desiredTargetY) := by
      change Within (-1) 1 (fin q - fin 0)
      rw [fin_sub, sub_zero]
      exact round_within negOne_isDouble isDouble_one low high
    unfold deadbandError
    split_ifs
    · exact ⟨0, rfl, by norm_num, by norm_num⟩
    · exact error
  obtain ⟨error, same, least, most⟩ := centred
  obtain ⟨delta, product, above, below⟩ : Within (-limit) limit (Fpu.round (-gain * error)) :=
    round_within down up (by nlinarith) (by nlinarith)
  have whole : followDelta TrackingConfig.default (fin q) = clamp (fin delta) (-1) 1 := by
    unfold followDelta
    rw [known, same, ← product]
    rfl
  have inside : clamp (fin delta) (-1) 1 = fin delta := clamp_fin_of_mem (by linarith) (by linarith)
  rw [whole, inside]
  exact ⟨delta, rfl, above, below⟩

theorem followDelta_within {y : Double} (aimed : Within (-1) 1 y) :
    Within (-1) 1 (followDelta TrackingConfig.default y) := by
  obtain ⟨gain, half, nonneg, small⟩ : Within 0 1 (TrackingConfig.default).kAltPerUnitError :=
    round_within isDouble_zero isDouble_one (by norm_num) (by norm_num)
  exact followDelta_limit half nonneg small le_rfl negOne_isDouble isDouble_one aimed

theorem deltaAsked_within (aimed : fc.tracked.Aimed) : Within (-1) 1 (fc.deltaAsked dt) := by
  unfold deltaAsked
  split_ifs
  · rw [show fc.trackingConfig = .default from aimed.1]
    exact followDelta_within aimed.2
  · exact ⟨0, rfl, by norm_num, by norm_num⟩

/-- Half of the range below a hover throttle of 1042 or more ends above the spool throttle. -/
theorem heightThrottle_above {hoverThrottle : Nat} {delta : ℚ} (lifted : 1042 ≤ hoverThrottle)
    (high : hoverThrottle ≤ kAltHoldMaxThrottle) (above : -1 / 2 ≤ delta) :
    ofU16 (takeoffSpoolThrottle + 1) ≤ heightThrottle hoverThrottle (fin delta) := by
  have low : droneMin ≤ hoverThrottle := le_trans (by decide) lifted
  have top : hoverThrottle ≤ droneMax := high.trans (by decide)
  have bottom : (1042 : ℚ) ≤ hoverThrottle := by exact_mod_cast lifted
  have limit : (hoverThrottle : ℚ) ≤ 1800 := by exact_mod_cast high
  have floor : ((droneMin : Nat) : ℚ) = 1000 := by norm_num [droneMin]
  have ceiling : ((kAltHoldMaxThrottle : Nat) : ℚ) = 1800 := by norm_num [kAltHoldMaxThrottle]
  have least : Fpu.round 1021 = fin 1021 := Fpu.round_int 1021 (by norm_num)
  have deepest : Fpu.round (1021 - hoverThrottle) = fin (1021 - hoverThrottle : ℚ) := by
    have whole := Fpu.round_int (1021 - (hoverThrottle : ℤ)) (by rw [abs_le]; unfold droneMax at top; omega)
    push_cast at whole
    exact whole
  have lands {step : Double} (most : fin (1021 - hoverThrottle : ℚ) ≤ step) :
      fin 1021 ≤ ofU16 hoverThrottle + step := by
    cases step with
    | nan => exact absurd most not_le_nan
    | inf negative =>
      cases fin_le_inf.1 most
      exact fin_le_inf.2 rfl
    | fin move =>
      have rounded := Fpu.round_mono (show (1021 : ℚ) ≤ hoverThrottle + move by linarith [fin_le_fin.1 most])
      rwa [least] at rounded
  unfold heightThrottle
  rw [span_eq low top, span_eq high (by decide), floor, ceiling]
  apply lands
  rw [← deepest]
  split_ifs with down
  · exact Fpu.round_mono (by nlinarith)
  · have nonneg : 0 ≤ delta := not_lt.1 fun negative => down (fin_lt_fin.2 negative)
    exact Fpu.round_mono (by nlinarith)

section tracking
variable (low : droneMin ≤ fc.hoverThrottle) (high : fc.hoverThrottle ≤ kAltHoldMaxThrottle)
include low high

/-- The handler of Tracking writes the height it asks for and leaves the arm channel alone. -/
theorem runTrackingMode_height (aimed : fc.tracked.Aimed) :
    ((fc.startStep dt).runTrackingMode (clampedDt dt)).currentCommand.throttle =
        toU16 (heightThrottle fc.hoverThrottle (fc.deltaAsked dt)) ∧
      ((fc.startStep dt).runTrackingMode (clampedDt dt)).currentCommand.aux1 = fc.currentCommand.aux1 := by
  have known : fc.hoverThrottle ≠ 0 := fun zero => absurd (low.trans_eq zero) (by decide)
  obtain ⟨delta, asked, above, below⟩ := fc.deltaAsked_within dt aimed
  rw [asked, ← altHoldThrottle_eq low high above below, ← asked]
  unfold deltaAsked
  rcases runTrackingMode_cases (fc.startStep dt) low high (clampedDt dt) with ⟨valid, follows⟩ | ⟨invalid, hovers⟩
  · have written := runFollowTargetState_follows _ (by exact known) valid
    rw [if_pos valid, follows]
    exact ⟨written.throttle, written.aux1⟩
  · rw [if_neg (ne_true_of_eq_false invalid), altHoldThrottle_zero low high]
    exact ⟨hovers.throttle, hovers.aux1⟩

/-- What a control step in Tracking writes while the vehicle is armed. -/
theorem updateTimeStep_height (tracking : fc.controlMode = .tracking) (armed : fc.currentCommand.aux1 = droneAuxMax)
    (aimed : fc.tracked.Aimed) :
    ((fc.updateTimeStep dt).currentCommand.throttle = takeoffSpoolThrottle ↔ fc.AtSpoolHeight dt) ∧
      (fc.updateTimeStep dt).currentCommand.aux1 = droneAuxMax := by
  obtain ⟨delta, asked, above, below⟩ := fc.deltaAsked_within dt aimed
  obtain ⟨value, height, least, most⟩ := heightThrottle_within low high above below
  obtain ⟨throttle, aux⟩ := runTrackingMode_height fc dt low high aimed
  have taken : (fc.startStep dt).dispatchMode (clampedDt dt) = (fc.startStep dt).runTrackingMode (clampedDt dt) := by
    unfold dispatchMode
    rw [show (fc.startStep dt).controlMode = .tracking from tracking]
  have still : ((fc.startStep dt).runTrackingMode (clampedDt dt)).currentCommand.isArmed = true := by
    unfold BetaFlightCommand.isArmed
    rw [aux, armed]
    rfl
  have positive : (0 : ℚ) ≤ value := le_trans (Nat.cast_nonneg _) least
  have inside : clampU16 ⌊value⌋₊ droneMin droneMax = ⌊value⌋₊ :=
    clampU16_eq (Nat.le_floor least) ((Nat.floor_le_of_le most).trans (by decide))
  constructor
  · unfold AtSpoolHeight
    rw [updateTimeStep_eq, taken, finishStep_throttle_armed _ still, throttle, asked, height, toU16_fin positive, inside,
      Nat.floor_eq_iff positive]
    change _ ↔ fin _ ≤ fin _ ∧ fin _ < fin _
    rw [fin_le_fin, fin_lt_fin, Nat.cast_add, Nat.cast_one]
  · rw [updateTimeStep_eq, taken, (finishStep_frame _).2.2, aux, armed]
    rfl

end tracking
end FlightController

namespace MainLoop
variable [Fpu] (loop : MainLoop) (r : Readings)

/-- A turn of a takeoff under one repeated intent: fresh link, healthy sink, and any applied frame
asks for Takeoff. What the boot probe found about the rate profile does not change. -/
def TakingOff (tuningMismatch : Bool) (_ : Past MainLoop Readings) (loop : MainLoop) (r : Readings) : Prop :=
  staleNow r.cmdAge = false ∧ r.sink = { ok := true, tuningMismatch } ∧
    ∀ cmd ∈ loop.accepted r.latest, toControlMode cmd.desiredMode = some .takeoff

/-- The Takeoff handler ran at this turn and left the controller in Tracking. -/
def HandsOver : Prop :=
  (loop.entry r).controlMode = .takeoff ∧ (loop.step r).controller.controlMode = .tracking

/-- After a hand-over the Takeoff handler does not run again, and the throttle is not the one it spools at. -/
def NotRestarted (past : Past MainLoop Readings) (loop : MainLoop) (r : Readings) : Prop :=
  (∃ turn ∈ past, HandsOver turn.1 turn.2) →
    ((loop.entry r).controlMode ≠ .takeoff ∧ (loop.step r).controller.controlMode ≠ .takeoff) ∧
      (loop.rcCmd r).throttle ≠ takeoffSpoolThrottle

/-- A turn that finds the controller in Tracking finds no frame to apply, and a height that is not the one of the
spool throttle. -/
def LeftInTracking (_ : Past MainLoop Readings) (loop : MainLoop) (r : Readings) : Prop :=
  loop.controller.controlMode = .tracking →
    loop.accepted r.latest = none ∧ ¬ loop.controller.AtSpoolHeight r.dt

instance (tuningMismatch : Bool) (past : Past MainLoop Readings) : Decidable (TakingOff tuningMismatch past loop r) :=
  inferInstanceAs (Decidable (staleNow r.cmdAge = false ∧ r.sink = { ok := true, tuningMismatch } ∧
    ∀ cmd ∈ loop.accepted r.latest, toControlMode cmd.desiredMode = some .takeoff))

instance : Decidable (loop.HandsOver r) :=
  inferInstanceAs (Decidable
    ((loop.entry r).controlMode = .takeoff ∧ (loop.step r).controller.controlMode = .tracking))

instance (past : Past MainLoop Readings) : Decidable (NotRestarted past loop r) :=
  inferInstanceAs (Decidable ((∃ turn ∈ past, HandsOver turn.1 turn.2) →
    ((loop.entry r).controlMode ≠ .takeoff ∧ (loop.step r).controller.controlMode ≠ .takeoff) ∧
      (loop.rcCmd r).throttle ≠ takeoffSpoolThrottle))

instance (past : Past MainLoop Readings) : Decidable (LeftInTracking past loop r) :=
  inferInstanceAs (Decidable (loop.controller.controlMode = .tracking →
    loop.accepted r.latest = none ∧ ¬ loop.controller.AtSpoolHeight r.dt))

/-- Under one repeated Takeoff intent, being in Tracking and having been handed over are the same, and the vehicle
is armed there. -/
structure HandedOverInv (tuningMismatch : Bool) (past : Past MainLoop Readings) (loop : MainLoop) : Prop where
  low : droneMin ≤ loop.controller.hoverThrottle
  high : loop.controller.hoverThrottle ≤ kAltHoldMaxThrottle
  aimed : loop.controller.tracked.Aimed
  handed : (∃ turn ∈ past, HandsOver turn.1 turn.2) ↔ loop.controller.controlMode = .tracking
  armed : loop.controller.controlMode = .tracking → loop.controller.currentCommand.aux1 = droneAuxMax
  confirmed : needsMsp loop.controller.controlMode = true → tuningMismatch = false

variable {loop r} {past : Past MainLoop Readings} {tuningMismatch : Bool}

theorem HandedOverInv.calibrated (inv : HandedOverInv tuningMismatch past loop) :
    loop.controller.hoverThrottle ≠ 0 := fun zero => absurd (inv.low.trans_eq zero) (by decide)

/-- No latch acts on a turn of such a takeoff. -/
theorem TakingOff.entry_eq (takingOff : TakingOff tuningMismatch past loop r) :
    loop.entry r = (loop.applyLatest r.latest r.sink).controller := by
  obtain ⟨fresh, healthy, -⟩ := takingOff
  rw [MainLoop.entry_eq, latch_snd, latch_snd, fresh, healthy]
  rfl

/-- The mode a turn of such a takeoff enters `updateTimeStep` with. -/
theorem TakingOff.entry (takingOff : TakingOff tuningMismatch past loop r)
    (calibrated : loop.controller.hoverThrottle ≠ 0) :
    (loop.entry r).controlMode =
      if tuningMismatch = false ∧ loop.accepted r.latest ≠ none then .takeoff else loop.controller.controlMode := by
  have entered := takingOff.entry_eq
  obtain ⟨-, healthy, intent⟩ := takingOff
  rw [entered, (applyLatest_frame loop r).1]
  unfold modeAfterCmd
  cases applied : loop.accepted r.latest with
  | none => simp
  | some cmd =>
    have takeoff := intent cmd (by rw [applied]; rfl)
    simp [requestedMode, takeoff, modeGate, needsMsp, healthy, calibrated]

/-- Without a frame the controller is entered as it was left. -/
theorem TakingOff.entry_unchanged (takingOff : TakingOff tuningMismatch past loop r)
    (unapplied : loop.accepted r.latest = none) : loop.entry r = loop.controller := by
  rw [takingOff.entry_eq]
  unfold applyLatest
  rw [unapplied]

theorem notRestarted_iff (inv : HandedOverInv tuningMismatch past loop)
    (takingOff : TakingOff tuningMismatch past loop r) :
    NotRestarted past loop r ↔ LeftInTracking past loop r := by
  unfold NotRestarted LeftInTracking
  rw [inv.handed]
  apply forall_congr'
  intro tracking
  by_cases unapplied : loop.accepted r.latest = none
  · have entered := takingOff.entry_unchanged unapplied
    have stays : (loop.step r).controller.controlMode = .tracking := by
      rw [step_controller, entered]
      exact FlightController.updateTimeStep_tracking _ r.dt tracking inv.calibrated
    have height := (FlightController.updateTimeStep_height _ r.dt inv.low inv.high tracking (inv.armed tracking)
      inv.aimed).1
    have written : (loop.rcCmd r).throttle = (loop.controller.updateTimeStep r.dt).currentCommand.throttle := by
      rw [rcCmd, step_controller, entered]
    rw [written, entered, stays, tracking]
    simp only [unapplied, true_and]
    constructor
    · intro safe spooling
      exact safe.2 (height.2 spooling)
    · intro free
      exact ⟨⟨by decide, by decide⟩, fun spools => free (height.1 spools)⟩
  · have entered : (loop.entry r).controlMode = .takeoff := by
      have confirmed : tuningMismatch = false := inv.confirmed (by rw [tracking]; rfl)
      rw [takingOff.entry inv.calibrated, if_pos ⟨confirmed, unapplied⟩]
    exact iff_of_false (fun safe => safe.1.1 entered) (fun left => unapplied left.1)

theorem aimed_step (aimed : loop.controller.tracked.Aimed) : (loop.step r).controller.tracked.Aimed := by
  rw [step_tracked, entry_tracked]
  cases loop.trackingApplied r with
  | none => exact aimed
  | some msg => exact ⟨aimed.1, clampTargetCoord_within _⟩

/-- A turn in Takeoff leaves the vehicle armed. -/
theorem step_takeoff_armed (takeoff : (loop.entry r).controlMode = .takeoff)
    (calibrated : loop.controller.hoverThrottle ≠ 0) :
    (loop.step r).controller.currentCommand.aux1 = droneAuxMax := by
  have taken : ((loop.entry r).startStep r.dt).dispatchMode (FlightController.clampedDt r.dt) =
      ((loop.entry r).startStep r.dt).runTakeoffMode (FlightController.clampedDt r.dt) := by
    unfold FlightController.dispatchMode
    rw [show ((loop.entry r).startStep r.dt).controlMode = .takeoff from takeoff]
  have known : ((loop.entry r).startStep r.dt).hoverThrottle ≠ 0 := by
    change (loop.entry r).hoverThrottle ≠ 0
    rwa [entry_hoverThrottle]
  rw [step_controller, FlightController.updateTimeStep_eq, taken, (FlightController.finishStep_frame _).2.2,
    (FlightController.runTakeoffMode_frame _ _ known).2.2]
  rfl

theorem handedOverInv_step (inv : HandedOverInv tuningMismatch past loop)
    (takingOff : TakingOff tuningMismatch past loop r) (left : LeftInTracking past loop r) :
    HandedOverInv tuningMismatch (past ++ [(loop, r)]) (loop.step r) := by
  have calibrated : (loop.entry r).hoverThrottle ≠ 0 := by
    rw [entry_hoverThrottle]
    exact inv.calibrated
  have moved := FlightController.updateTimeStep_controlMode (loop.entry r) r.dt
  rw [← step_controller] at moved
  simp only [calibrated, false_and, ↓reduceIte, ne_eq, not_false_eq_true, true_and] at moved
  -- nothing but Takeoff turns into Tracking
  have source : (loop.step r).controller.controlMode = .tracking →
      loop.controller.controlMode = .tracking ∨ loop.HandsOver r := by
    intro after
    rcases moved with same | ⟨takeoff, -⟩
    · rw [after, takingOff.entry inv.calibrated] at same
      split_ifs at same
      exact .inl same.symm
    · exact .inr ⟨takeoff, after⟩
  have stays : loop.controller.controlMode = .tracking →
      (loop.step r).controller.controlMode = .tracking ∧
        (loop.step r).controller.currentCommand.aux1 = droneAuxMax := by
    intro tracking
    rw [step_controller, takingOff.entry_unchanged (left tracking).1]
    exact ⟨FlightController.updateTimeStep_tracking _ r.dt tracking inv.calibrated,
      (FlightController.updateTimeStep_height _ r.dt inv.low inv.high tracking (inv.armed tracking) inv.aimed).2⟩
  refine ⟨?_, ?_, aimed_step inv.aimed, ?_, ?_, ?_⟩
  · rw [step_hoverThrottle]
    exact inv.low
  · rw [step_hoverThrottle]
    exact inv.high
  · simp only [List.mem_append, List.mem_singleton, or_and_right, exists_or, exists_eq_left, inv.handed]
    constructor
    · rintro (tracking | handsOver)
      · exact (stays tracking).1
      · exact handsOver.2
    · exact source
  · intro after
    rcases source after with tracking | handsOver
    · exact (stays tracking).2
    · exact step_takeoff_armed handsOver.1 inv.calibrated
  · intro needs
    have entered : needsMsp (loop.entry r).controlMode = true := by
      rcases moved with same | ⟨takeoff, -⟩
      · rwa [← same]
      · rw [takeoff]
        rfl
    rw [takingOff.entry inv.calibrated] at entered
    split_ifs at entered with applied
    · exact applied.1
    · exact inv.confirmed entered

theorem handedOverInv_boot (hover : HoverEnv) (calibrated : hover.us ≠ 0) (tuningMismatch : Bool) :
    HandedOverInv tuningMismatch [] (boot hover) := by
  obtain ⟨low, high⟩ := hover.valid.resolve_left calibrated
  refine ⟨?_, ?_, ?_, ?_, ?_, ?_⟩
  · rwa [boot_hoverThrottle]
  · rwa [boot_hoverThrottle]
  · rw [boot_tracked]
    exact ⟨rfl, 0, rfl, by norm_num, by norm_num⟩
  · rw [boot_controlMode]
    simp
  · rw [boot_controlMode]
    intro tracking
    exact absurd tracking (by decide)
  · rw [boot_controlMode]
    intro needs
    exact absurd needs (by decide)

/-- Under one repeated Takeoff intent, Takeoff is never restarted and the throttle never back at the spool exactly
when no frame is applied while the controller is in Tracking and no target asks for that height. -/
theorem notRestarted_always_iff (hover : HoverEnv) (calibrated : hover.us ≠ 0) (tuningMismatch : Bool)
    (inputs : List Readings) (takingOff : Always step (TakingOff tuningMismatch) [] (boot hover) inputs) :
    Always step NotRestarted [] (boot hover) inputs ↔ Always step LeftInTracking [] (boot hover) inputs := by
  apply Always.iff_of_invariant (HandedOverInv tuningMismatch) (D := TakingOff tuningMismatch)
  · intro past loop r inv domain
    exact notRestarted_iff inv domain
  · intro past loop r inv domain left
    exact handedOverInv_step inv domain left
  · exact handedOverInv_boot hover calibrated tuningMismatch
  · exact takingOff

end MainLoop

section hardware
attribute [local instance] Binary64.binary64

/-- From a hover throttle of 1042 on no target asks for the height of the spool throttle. -/
theorem not_atSpoolHeight {fc : FlightController} (lifted : 1042 ≤ fc.hoverThrottle)
    (high : fc.hoverThrottle ≤ kAltHoldMaxThrottle) (aimed : fc.tracked.Aimed) (dt : Double) :
    ¬ fc.AtSpoolHeight dt := by
  have asked : Within (-(1 / 2)) (1 / 2) (fc.deltaAsked dt) := by
    unfold FlightController.deltaAsked
    split_ifs
    · rw [show fc.trackingConfig = .default from aimed.1]
      have up : Fpu.round (1 / 2) = fin (1 / 2) := by decide +kernel
      have down : Fpu.round (-(1 / 2)) = fin (-(1 / 2)) := by decide +kernel
      have gain : (TrackingConfig.default).kAltPerUnitError = fin (1 / 2) := by decide +kernel
      exact FlightController.followDelta_limit gain (by norm_num) le_rfl (by norm_num) down up aimed.2
    · exact ⟨0, rfl, by norm_num, by norm_num⟩
  obtain ⟨delta, same, above, below⟩ := asked
  rintro ⟨-, spools⟩
  rw [same] at spools
  exact Double.not_lt_of_le (FlightController.heightThrottle_above lifted high (by linarith)) spools

/-- There the height needs no condition: it is the repeated frames alone that restart a takeoff. -/
theorem MainLoop.notRestarted_always_iff_unapplied (hover : HoverEnv) (lifted : 1042 ≤ hover.us) (tuningMismatch : Bool)
    (inputs : List Readings) (takingOff : Always step (TakingOff tuningMismatch) [] (boot hover) inputs) :
    Always step NotRestarted [] (boot hover) inputs ↔
      Always step (fun _ loop r => loop.controller.controlMode = .tracking → loop.accepted r.latest = none) []
        (boot hover) inputs := by
  have free {past : Past MainLoop Readings} {loop : MainLoop} {r : Readings}
      (inv : HandedOverInv tuningMismatch past loop ∧ 1042 ≤ loop.controller.hoverThrottle) :
      LeftInTracking past loop r ↔ (loop.controller.controlMode = .tracking → loop.accepted r.latest = none) :=
    forall_congr' fun _ => and_iff_left (not_atSpoolHeight inv.2 inv.1.high inv.1.aimed r.dt)
  apply Always.iff_of_invariant
    (fun past loop => HandedOverInv tuningMismatch past loop ∧ 1042 ≤ loop.controller.hoverThrottle)
    (D := TakingOff tuningMismatch)
  · intro past loop r inv domain
    exact (notRestarted_iff inv.1 domain).trans (free inv)
  · intro past loop r inv domain left
    exact ⟨handedOverInv_step inv.1 domain ((free inv).2 left), by rw [step_hoverThrottle]; exact inv.2⟩
  · exact ⟨handedOverInv_boot hover (by omega) tuningMismatch, by rwa [boot_hoverThrottle]⟩
  · exact takingOff

/-- The backend repeats the Takeoff intent under the next number. -/
def takeoffTurn (seq : Nat) : Readings where
  dt := 0.2
  latest := some { seq, desiredMode := 3 }
  cmdAge := 0.01
  sink := { ok := true, tuningMismatch := false }

def takeoffTurns (turns : Nat) : List Readings := (List.range turns).map takeoffTurn

/-- Seventeen turns lift off and hand over; no later turn finds a frame that it has not applied yet. -/
theorem takeoff_not_restarted_after_handover :
    ((takeoffTurns 17).foldl MainLoop.step (boot ⟨1400, by decide⟩)).controller.controlMode = .tracking ∧
      Always MainLoop.step MainLoop.NotRestarted [] (boot ⟨1400, by decide⟩)
        (takeoffTurns 17 ++ List.replicate 10 (takeoffTurn 16)) :=
  ⟨by decide +kernel, (MainLoop.notRestarted_always_iff _ (by decide) false _ (by decide +kernel)).2 (by decide +kernel)⟩

/-- Seventeen turns lift off and hand over; the eighteenth frame starts the spool again. -/
theorem takeoff_restarted_by_repetition :
    Always MainLoop.step (MainLoop.TakingOff false) [] (boot ⟨1400, by decide⟩) (takeoffTurns 18) ∧
      ¬ Always MainLoop.step MainLoop.NotRestarted [] (boot ⟨1400, by decide⟩) (takeoffTurns 18) ∧
      (((takeoffTurns 17).foldl MainLoop.step (boot ⟨1400, by decide⟩)).rcCmd
        (takeoffTurn 17)).throttle = takeoffSpoolThrottle := by
  decide +kernel

end hardware
end AotDrone.Fc
