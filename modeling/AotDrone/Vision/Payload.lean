import AotDrone.Backend.SchemaContract

/-! From a box in pixels to a VIS payload (`types.py`, `_build_vis_payload` of `main.py`). -/

namespace AotDrone.Vision
open AotDrone.Lib AotDrone.Lib.Double AotDrone.Json AotDrone.Backend

inductive VisState where
  | noTarget
  | targetDetected
  | tracking
  | searching
  deriving DecidableEq, Repr

/-- `_TRACKING_STATE_TO_CODE` -/
def trackingStateToCode : VisState → ℤ
  | .noTarget => 1
  | .targetDetected => 2
  | .tracking => 3
  | .searching => 4

/-- Python keeps the first argument unless the second beats it, so a `nan` comes out as 1. -/
def clamp01 (value : Double) : Double := pyMax 0 (pyMin 1 value)

structure PixelBBox where
  x : Double
  y : Double
  w : Double
  h : Double

structure NormalizedBBox where
  cx : Double := 0
  cy : Double := 0
  w : Double := 0
  h : Double := 0

inductive VisionError where
  | valueError (message : String)
  | overflowError

variable [Fpu]

/-- `float()` of an integer. -/
def floatOfInt (n : ℤ) : Except VisionError Double :=
  if (Fpu.round n).isFinite then .ok (Fpu.round n) else .error .overflowError

def normalizeBboxXywh (box : PixelBBox) (imgW imgH : ℤ) : Except VisionError NormalizedBBox :=
  if imgW ≤ 0 ∨ imgH ≤ 0 then .error (.valueError "image dimensions must be positive")
  else do
    let imgW ← floatOfInt imgW
    let imgH ← floatOfInt imgH
    .ok
      { cx := clamp01 ((box.x + box.w / 2) / imgW)
        cy := clamp01 ((box.y + box.h / 2) / imgH)
        w := clamp01 (box.w / imgW)
        h := clamp01 (box.h / imgH) }

/-- A coordinate from the middle of the image, twice the distance. -/
def centred (distance : Double) : Double := pyMax (-1) (pyMin 1 (distance * 2))

/-- The numbers of a payload, in the order of the wire. -/
def visFields (seq : ℤ) (timestamp : Double) (state : VisState) (bbox : NormalizedBBox)
    (confidence : Double) : VisMessage :=
  if trackingStateToCode state ≠ trackingStateTracking then
    { seq := seq, timestamp, trackingState := trackingStateToCode state, locX := 0, locY := 0, boundW := 0,
      boundH := 0, confidence := 0 }
  else
    { seq := seq
      timestamp
      trackingState := trackingStateToCode state
      locX := centred (bbox.cx - 0.5)
      locY := centred (0.5 - bbox.cy)
      boundW := clamp01 bbox.w
      boundH := clamp01 bbox.h
      confidence := clamp01 confidence }

omit [Fpu] in
/-- The members of a payload. -/
def visMembers (fields : VisMessage) : Members :=
  [(pyStr "type", .str (pyStr "VIS")), (pyStr "seq", .int fields.seq),
    (pyStr "timestamp_s", .float fields.timestamp), (pyStr "tracking_state", .int fields.trackingState),
    (pyStr "loc_x", .float fields.locX), (pyStr "loc_y", .float fields.locY),
    (pyStr "bound_w", .float fields.boundW), (pyStr "bound_h", .float fields.boundH),
    (pyStr "confidence", .float fields.confidence)]

def buildVisPayload (seq : ℤ) (timestamp : Double) (state : VisState) (bbox : NormalizedBBox)
    (confidence : Double) : Value := .obj (visMembers (visFields seq timestamp state bbox confidence))

omit [Fpu] in
/-- Python's two comparisons bound every value, `nan` included. -/
theorem pyMax_pyMin_mem {lower upper : ℚ} (ordered : lower ≤ upper) (value : Double) :
    fin lower ≤ pyMax (fin lower) (pyMin (fin upper) value) ∧
      pyMax (fin lower) (pyMin (fin upper) value) ≤ fin upper := by
  cases value with
  | fin q =>
    rw [pyMin_fin, pyMax_fin, fin_le_fin, fin_le_fin]
    exact ⟨le_max_left _ _, max_le ordered (min_le_left _ _)⟩
  | nan =>
    have top : pyMin (fin upper) nan = fin upper := if_neg not_nan_lt
    rw [top, pyMax_fin, fin_le_fin, fin_le_fin]
    exact ⟨le_max_left _ _, max_le ordered le_rfl⟩
  | inf negative =>
    cases negative with
    | true =>
      have bottom : pyMin (fin upper) (inf true) = inf true := if_pos (inf_lt_fin.2 rfl)
      have low : pyMax (fin lower) (inf true) = fin lower := if_neg (by simp)
      rw [bottom, low, fin_le_fin, fin_le_fin]
      exact ⟨le_rfl, ordered⟩
    | false =>
      have top : pyMin (fin upper) (inf false) = fin upper := if_neg (by simp)
      rw [top, pyMax_fin, fin_le_fin, fin_le_fin]
      exact ⟨le_max_left _ _, max_le ordered le_rfl⟩

omit [Fpu] in
theorem clamp01_mem (value : Double) : unit.Holds (clamp01 value) := by
  have bounded := pyMax_pyMin_mem (zero_le_one (α := ℚ)) value
  simp only [Bounds.Holds, unit, Int.cast_zero, Int.cast_one]
  exact bounded

theorem centred_mem (distance : Double) : signedUnit.Holds (centred distance) := by
  have bounded := pyMax_pyMin_mem (by norm_num : (-1 : ℚ) ≤ 1) (distance * 2)
  simp only [Bounds.Holds, signedUnit, Int.cast_neg, Int.cast_one]
  exact bounded

omit [Fpu] in
theorem zero_mem {bounds : Bounds} (known : bounds = signedUnit ∨ bounds = unit) : bounds.Holds 0 := by
  rcases known with rfl | rfl <;> decide +kernel

omit [Fpu] in
theorem trackingStateToCode_mem (state : VisState) : trackingStateToCode state ∈ trackingStates := by
  cases state <;> decide

theorem zero_still : ¬ nonTrackingZeroEps < Double.abs 0 := by
  have nonneg : (0 : Double) ≤ nonTrackingZeroEps := round_nonneg (by norm_num)
  exact Double.not_lt_of_le nonneg

/-- The numbers of a payload pass every check of the validator. -/
theorem visFields_carried (seq : ℤ) (timestamp : Double) (state : VisState) (bbox : NormalizedBBox)
    (confidence : Double) :
    VisCarries Value.ByFloat (visMembers (visFields seq timestamp state bbox confidence))
      (visFields seq timestamp state bbox confidence) := by
  have complete (fields : VisMessage) : Complete "VIS" visRequiredFields (visMembers fields) :=
    ⟨List.all_eq_true.1 rfl, rfl⟩
  have known := trackingStateToCode_mem state
  unfold visFields
  split_ifs with idle
  · refine ⟨complete _, rfl, .inr rfl, rfl, known, .inr rfl, .inr rfl, .inr rfl, .inr rfl, .inr rfl,
      zero_mem (.inl rfl), zero_mem (.inl rfl), zero_mem (.inr rfl), zero_mem (.inr rfl), zero_mem (.inr rfl), ?_⟩
    simpa [VisMessage.trackingFields] using fun _ => zero_still
  · exact ⟨complete _, rfl, .inr rfl, rfl, known, .inr rfl, .inr rfl, .inr rfl, .inr rfl, .inr rfl,
      centred_mem _, centred_mem _, clamp01_mem _, clamp01_mem _, clamp01_mem _,
      fun idle' => absurd idle' idle⟩

theorem visFields_normalized (seq : ℤ) (timestamp : Double) (state : VisState) (bbox : NormalizedBBox)
    (confidence : Double) :
    (visFields seq timestamp state bbox confidence).normalized = visFields seq timestamp state bbox confidence := by
  unfold visFields VisMessage.normalized
  by_cases tracking : trackingStateToCode state = trackingStateTracking
  · simp [tracking]
  · simp [tracking, VisMessage.zeroed]

/-- The validator of the backend accepts every payload and keeps its numbers. -/
theorem buildVisPayload_accepted (seq : ℤ) (timestamp : Double) (state : VisState) (bbox : NormalizedBBox)
    (confidence : Double) :
    validateVisMessage (buildVisPayload seq timestamp state bbox confidence) =
      .ok (visFields seq timestamp state bbox confidence) := by
  rw [validateVisMessage_ok_iff]
  exact ⟨_, _, rfl, visFields_carried seq timestamp state bbox confidence, (visFields_normalized _ _ _ _ _).symm⟩

end AotDrone.Vision
