import AotDrone.Fc.Follow
import AotDrone.Fc.MainLoop
import AotDrone.Lib.Binary64
import AotDrone.Vision.Payload

/-! The altitude loop from a box in pixels to the throttle, through all three programs. -/

namespace AotDrone.Link
open AotDrone.Lib AotDrone.Lib.Double AotDrone.Json AotDrone.Backend AotDrone.Vision AotDrone.Fc

/-- What the camera sees, and what goes into the payload beside it. -/
structure View where
  box : PixelBBox
  imgW : ℤ
  imgH : ℤ
  seq : ℤ
  timestamp : Double
  confidence : Double

/-- The tracking object of a CMD payload as the flight controller reads it. -/
def received (tracking : TrackingObject) : CommandTracking where
  hasTracking := true
  trackingState := tracking.trackingState
  locX := tracking.locX
  locY := tracking.locY
  boundW := tracking.boundW
  boundH := tracking.boundH
  confidence := tracking.confidence
  visSeq := tracking.visSeq
  visTimestamp := tracking.visTimestamp

section chain
variable [Fpu]

/-- The controller once a tracked box has come through: vision, the validator and the tracking object
of the backend, the update of the controller. -/
def followBox (fc : FlightController) (view : View) : Option FlightController := do
  let bbox ← (normalizeBboxXywh view.box view.imgW view.imgH).toOption
  let payload := buildVisPayload view.seq view.timestamp .tracking bbox view.confidence
  let vis ← (validateVisMessage payload).toOption
  some (applyTrackingUpdate { tracking := received (buildTrackingObject vis) } fc)

end chain

/-! ## Throttle around the hover point -/

section rational
attribute [local instance] exact

/-- How far the centre of the box is above the centre of the image, in halves of the image. -/
def heightAbove (y h : ℚ) (imgH : ℤ) : ℚ := 1 - 2 * max 0 (min 1 ((y + h / 2) / imgH))

/-- The throttle climbs for a target above the deadband and descends for one below it. -/
def SignRight (up : ℚ) (hover throttle : Nat) : Prop :=
  (1 / 50 < up → hover ≤ throttle) ∧ (up < -1 / 50 → throttle ≤ hover)

theorem heightAbove_mem (y h : ℚ) (imgH : ℤ) : -1 ≤ heightAbove y h imgH ∧ heightAbove y h imgH ≤ 1 := by
  have low : 0 ≤ max 0 (min 1 ((y + h / 2) / (imgH : ℚ))) := le_max_left _ _
  have high : max 0 (min 1 ((y + h / 2) / (imgH : ℚ))) ≤ 1 := max_le zero_le_one (min_le_left _ _)
  unfold heightAbove
  constructor <;> linarith

theorem half_eq : (0.5 : Double) = fin (1 / 2) := by
  rw [ofScientific_eq]
  exact congrArg fin (by norm_num)

/-- Upwards on the screen is upwards in the payload. -/
theorem centred_height (y h : ℚ) {imgH : ℤ} (positive : 0 < imgH) :
    centred (0.5 - clamp01 ((fin y + fin h / 2) / fin imgH)) = fin (heightAbove y h imgH) := by
  have nonzero : (imgH : ℚ) ≠ 0 := by exact_mod_cast positive.ne'
  have centre : (fin y + fin h / 2) / fin imgH = fin ((y + h / 2) / imgH) := by
    change (fin y + fin h / fin 2) / fin imgH = _
    rw [fin_div (by norm_num : (2 : ℚ) ≠ 0)]
    exact fin_div nonzero
  have bounded : clamp01 (fin ((y + h / 2) / imgH)) = fin (max 0 (min 1 ((y + h / 2) / imgH))) := by
    change pyMax (fin 0) (pyMin (fin 1) _) = _
    rw [pyMin_fin, pyMax_fin]
  obtain ⟨low, high⟩ := heightAbove_mem y h imgH
  have doubled : (1 / 2 - max 0 (min 1 ((y + h / 2) / (imgH : ℚ)))) * 2 = heightAbove y h imgH := by
    unfold heightAbove
    ring
  rw [centre, bounded, half_eq]
  change pyMax (fin (-1)) (pyMin (fin 1) (fin ((1 / 2 + -max 0 (min 1 ((y + h / 2) / (imgH : ℚ)))) * 2))) = _
  rw [← sub_eq_add_neg, doubled, pyMin_fin, pyMax_fin, min_eq_right high, max_eq_right low]

theorem normalizeBboxXywh_exact (box : PixelBBox) {imgW imgH : ℤ} (image : 0 < imgW ∧ 0 < imgH) :
    normalizeBboxXywh box imgW imgH =
      .ok
        { cx := clamp01 ((box.x + box.w / 2) / fin imgW)
          cy := clamp01 ((box.y + box.h / 2) / fin imgH)
          w := clamp01 (box.w / fin imgW)
          h := clamp01 (box.h / fin imgH) } := by
  unfold normalizeBboxXywh
  rw [if_neg (by omega)]
  rfl

/-- Every box in an image comes through; its height is the target's, and nothing else that the throttle
depends on has moved. -/
theorem followBox_arrives (fc : FlightController) {view : View} (image : 0 < view.imgW ∧ 0 < view.imgH) {y h : ℚ}
    (top : view.box.y = fin y) (tall : view.box.h = fin h) :
    ∃ after, followBox fc view = some after ∧
      after.lastTrackingMsg.targetY = fin (heightAbove y h view.imgH) ∧
      after.hoverThrottle = fc.hoverThrottle ∧ after.trackingConfig = fc.trackingConfig := by
  unfold followBox
  rw [normalizeBboxXywh_exact view.box image]
  simp only [Except.toOption, Option.bind_eq_bind, Option.bind_some, buildVisPayload_accepted]
  refine ⟨_, rfl, ?_, rfl, rfl⟩
  obtain ⟨low, high⟩ := heightAbove_mem y h view.imgH
  change clampTargetCoord (centred (0.5 - clamp01 ((view.box.y + view.box.h / 2) / fin view.imgH))) = _
  rw [top, tall, centred_height y h image.2, clampTargetCoord_fin low high]

/-- No payload is built for an image without pixels. -/
theorem followBox_image {fc after : FlightController} {view : View} (arrives : followBox fc view = some after) :
    0 < view.imgW ∧ 0 < view.imgH := by
  by_contra empty
  unfold followBox normalizeBboxXywh at arrives
  rw [if_pos (by omega)] at arrives
  cases arrives

/-- Outside the deadband the height is halved, with a minus in front. -/
theorem deltaLaw_outside {up : ℚ} (range : -1 ≤ up ∧ up ≤ 1) (outside : 1 / 50 ≤ |up|) :
    FlightController.deltaLaw up = -(1 / 2 * up) := by
  have wide : ¬ |up| < 2 / 100 := not_lt.2 (le_trans (by norm_num) outside)
  unfold FlightController.deltaLaw FlightController.deadband
  rw [if_neg wide, min_eq_left (by linarith [range.1]), max_eq_right (by linarith [range.2])]
  ring

/-- The throttle for a valid target outside the deadband: descent below the hover point for a target
above the centre, climb for one below. -/
theorem throttle_of_height {after : FlightController} (defaults : after.trackingConfig = .default)
    (low : droneMin ≤ after.hoverThrottle) (high : after.hoverThrottle ≤ kAltHoldMaxThrottle)
    (valid : after.isTargetValid = true) {up : ℚ} (target : after.lastTrackingMsg.targetY = fin up)
    (range : -1 ≤ up ∧ up ≤ 1) (outside : 1 / 50 ≤ |up|) :
    after.runFollowTargetLogic.currentCommand.throttle =
      if 0 < up then ⌊(after.hoverThrottle : ℚ) + -(1 / 2 * up) * (after.hoverThrottle - 1000)⌋₊
      else ⌊(after.hoverThrottle : ℚ) + -(1 / 2 * up) * (1800 - after.hoverThrottle)⌋₊ := by
  have calibrated : after.hoverThrottle ≠ 0 := fun zero => absurd (low.trans_eq zero) (by decide)
  rw [(FlightController.runFollowTargetLogic_follows after calibrated valid).throttle, defaults, target,
    FlightController.followDelta_fin, deltaLaw_outside range outside,
    FlightController.altHoldThrottle_fin low high (by linarith [range.2]) (by linarith [range.1])]
  unfold FlightController.throttleLaw
  by_cases above : 0 < up
  · rw [if_pos (by linarith), if_pos above]
  · rw [if_neg (by linarith [not_lt.1 above]), if_neg above]

/-- The altitude loop has the right sign exactly where its wrong sign cannot show: above the centre only
at the least hover throttle, below it only where the step up rounds to nothing. -/
theorem signRight_iff (fc after : FlightController) (view : View) (y h : ℚ) (top : view.box.y = fin y)
    (tall : view.box.h = fin h) (defaults : fc.trackingConfig = .default) (low : droneMin ≤ fc.hoverThrottle)
    (high : fc.hoverThrottle ≤ kAltHoldMaxThrottle) (arrives : followBox fc view = some after)
    (valid : after.isTargetValid = true) :
    SignRight (heightAbove y h view.imgH) fc.hoverThrottle after.runFollowTargetLogic.currentCommand.throttle ↔
      (1 / 50 < heightAbove y h view.imgH → fc.hoverThrottle = droneMin) ∧
        (heightAbove y h view.imgH < -1 / 50 →
          -heightAbove y h view.imgH * (kAltHoldMaxThrottle - fc.hoverThrottle) < 2) := by
  obtain ⟨other, same, target, hover, config⟩ := followBox_arrives fc (followBox_image arrives) top tall
  obtain rfl : after = other := Option.some.inj (arrives.symm.trans same)
  have range := heightAbove_mem y h view.imgH
  generalize heightAbove y h view.imgH = up at target range ⊢
  rw [← hover] at low high ⊢
  have throttle := throttle_of_height (config.trans defaults) low high valid target range
  have least : (1000 : ℚ) ≤ after.hoverThrottle := by exact_mod_cast low
  have most : (after.hoverThrottle : ℚ) ≤ 1800 := by exact_mod_cast high
  unfold SignRight
  apply and_congr
  · apply forall_congr'
    intro above
    rw [throttle (by rw [abs_of_pos (by linarith)]; linarith), if_pos (by linarith), Nat.le_floor_iff (by nlinarith)]
    constructor
    · intro climbs
      have flat : up * (after.hoverThrottle - 1000) ≤ 0 := by linarith
      have tight : (after.hoverThrottle : ℚ) ≤ 1000 := by nlinarith
      exact le_antisymm (by exact_mod_cast tight) low
    · intro flat
      rw [flat]
      norm_num [droneMin]
  · apply forall_congr'
    intro below
    rw [throttle (by rw [abs_of_neg (by linarith)]; linarith), if_neg (by linarith), ← Nat.lt_succ_iff,
      Nat.floor_lt (by nlinarith)]
    push_cast [kAltHoldMaxThrottle]
    constructor <;> intro small <;> linarith

instance (up : ℚ) (hover throttle : Nat) : Decidable (SignRight up hover throttle) :=
  inferInstanceAs (Decidable ((1 / 50 < up → hover ≤ throttle) ∧ (up < -1 / 50 → throttle ≤ hover)))

/-- A box in the upper half of the image. -/
def boxAbove : View where
  box := { x := 300, y := 100, w := 40, h := 120 }
  imgW := 640
  imgH := 480
  seq := 7
  timestamp := 1
  confidence := 1

def hovering (hover : HoverEnv) : FlightController := (boot hover).controller

theorem box_above_descends : ∃ after ∈ followBox (hovering ⟨1400, by decide⟩) boxAbove,
    after.isTargetValid = true ∧
      ¬ SignRight (heightAbove 100 120 480) 1400 after.runFollowTargetLogic.currentCommand.throttle := by
  decide +kernel

theorem box_above_at_least_hover : ∃ after ∈ followBox (hovering ⟨1000, by decide⟩) boxAbove,
    SignRight (heightAbove 100 120 480) 1000 after.runFollowTargetLogic.currentCommand.throttle := by
  refine ⟨(followBox (hovering ⟨1000, by decide⟩) boxAbove).get (by decide +kernel), Option.get_mem _, ?_⟩
  exact (signRight_iff (hovering ⟨1000, by decide⟩) _ boxAbove 100 120 rfl rfl rfl (by decide +kernel)
    (by decide +kernel) (Option.some_get _).symm (by decide +kernel)).2 (by decide +kernel)

end rational
end AotDrone.Link
