import AotDrone.Lib.Overlap
import AotDrone.Vision.Pipeline
import Mathlib.MeasureTheory.Measure.Lebesgue.Basic

/-! `_iou` is the overlap of two boxes as parts of the plane (`vision_pipeline.py`). -/

namespace AotDrone.Vision
open AotDrone.Lib AotDrone.Lib.Double MeasureTheory Set

/-- What `_iou` asks of a box before it computes anything. -/
structure PixelBBox.Proper (box : PixelBBox) : Prop where
  x : box.x.isFinite = true
  y : box.y.isFinite = true
  w : box.w.isFinite = true
  h : box.h.isFinite = true
  wide : 0 < box.w
  high : 0 < box.h

/-- A box with numbers for its sides, and an area. -/
structure Rect where
  x : ℚ
  y : ℚ
  w : ℚ
  h : ℚ
  wide : 0 < w
  high : 0 < h

def Rect.bbox (r : Rect) : PixelBBox := ⟨fin r.x, fin r.y, fin r.w, fin r.h⟩

theorem PixelBBox.Proper.rect {box : PixelBBox} (proper : box.Proper) : ∃ r : Rect, box = r.bbox := by
  obtain ⟨x, y, w, h⟩ := box
  obtain ⟨x, y, w, h, wide, high⟩ := proper
  obtain ⟨left, rfl⟩ := isFinite_iff.1 x
  obtain ⟨top, rfl⟩ := isFinite_iff.1 y
  obtain ⟨width, rfl⟩ := isFinite_iff.1 w
  obtain ⟨height, rfl⟩ := isFinite_iff.1 h
  exact ⟨⟨left, top, width, height, fin_lt_fin.1 wide, fin_lt_fin.1 high⟩, rfl⟩

theorem not_fin_nonpos {q : ℚ} (positive : 0 < q) : ¬ fin q ≤ 0 :=
  fun below => absurd (fin_le_fin.1 below) (not_le.2 positive)

/-- A box that is not proper overlaps with nothing, whatever the arithmetic. -/
theorem iou_improper [Fpu] {a b : PixelBBox} (improper : ¬ (a.Proper ∧ b.Proper)) : iou a b = 0 := by
  unfold iou
  by_cases finite : [a.x, a.y, a.w, a.h, b.x, b.y, b.w, b.h].all Double.isFinite
  · rw [if_neg (not_not.2 finite)]
    apply if_pos
    simp only [List.all_cons, List.all_nil, Bool.and_true, Bool.and_eq_true] at finite
    obtain ⟨ax, ay, aw, ah, bx, bY, bw, bh⟩ := finite
    by_contra positive
    simp only [not_or] at positive
    obtain ⟨awide, ahigh, bwide, bhigh⟩ := positive
    have above {size : Double} (finite : size.isFinite = true) (large : ¬ size ≤ 0) : 0 < size := by
      obtain ⟨q, rfl⟩ := isFinite_iff.1 finite
      exact fin_lt_fin.2 (not_le.1 fun below => large (fin_le_fin.2 below))
    exact improper ⟨⟨ax, ay, aw, ah, above aw awide, above ah ahigh⟩, ⟨bx, bY, bw, bh, above bw bwide, above bh bhigh⟩⟩
  · exact if_pos finite

/-! ## Areas -/

namespace Rect

/-- The length that two intervals share. -/
def shared (start length start' length' : ℚ) : ℚ := min (start + length) (start' + length') - max start start'

theorem shared_le {start length start' length' : ℚ} : shared start length start' length' ≤ length := by
  unfold shared
  linarith [min_le_left (start + length) (start' + length'), le_max_left start start']

variable (a b : Rect)

def area : ℚ := a.w * a.h

/-- The area that both cover. -/
def common : ℚ := max (shared a.x a.w b.x b.w) 0 * max (shared a.y a.h b.y b.h) 0

theorem area_pos : 0 < a.area := mul_pos a.wide a.high

theorem common_le : common a b ≤ a.area := by
  have across : max (shared a.x a.w b.x b.w) 0 ≤ a.w := max_le shared_le a.wide.le
  have down : max (shared a.y a.h b.y b.h) 0 ≤ a.h := max_le shared_le a.high.le
  exact mul_le_mul across down (le_max_right _ _) a.wide.le

/-- What `_iou` computes, as a number. -/
def iouValue : ℚ := common a b / (a.area + b.area - common a b)

section exact
attribute [local instance] exact

theorem iou_bbox : iou a.bbox b.bbox = fin (iouValue a b) := by
  have sized : ¬ (a.bbox.w ≤ 0 ∨ a.bbox.h ≤ 0 ∨ b.bbox.w ≤ 0 ∨ b.bbox.h ≤ 0) := by
    simp only [not_or]
    exact ⟨not_fin_nonpos a.wide, not_fin_nonpos a.high, not_fin_nonpos b.wide, not_fin_nonpos b.high⟩
  have across : pyMin (a.bbox.x + a.bbox.w) (b.bbox.x + b.bbox.w) - pyMax a.bbox.x b.bbox.x =
      fin (shared a.x a.w b.x b.w) := by
    change pyMin (fin (a.x + a.w)) (fin (b.x + b.w)) - pyMax (fin a.x) (fin b.x) = _
    rw [pyMin_fin, pyMax_fin, fin_sub]
    rfl
  have down : pyMin (a.bbox.y + a.bbox.h) (b.bbox.y + b.bbox.h) - pyMax a.bbox.y b.bbox.y =
      fin (shared a.y a.h b.y b.h) := by
    change pyMin (fin (a.y + a.h)) (fin (b.y + b.h)) - pyMax (fin a.y) (fin b.y) = _
    rw [pyMin_fin, pyMax_fin, fin_sub]
    rfl
  unfold iou
  rw [if_neg (by simp [bbox]), if_neg sized, across, down]
  by_cases apart : shared a.x a.w b.x b.w ≤ 0 ∨ shared a.y a.h b.y b.h ≤ 0
  · have nothing : common a b = 0 := by
      unfold common
      cases apart with
      | inl left => rw [max_eq_right left, zero_mul]
      | inr right => rw [max_eq_right right, mul_zero]
    have least : fin (shared a.x a.w b.x b.w) ≤ 0 ∨ fin (shared a.y a.h b.y b.h) ≤ 0 :=
      apart.imp fin_le_fin.2 fin_le_fin.2
    rw [if_pos least, iouValue, nothing, zero_div]
    rfl
  · obtain ⟨wide, high⟩ := not_or.1 apart
    have least : ¬ (fin (shared a.x a.w b.x b.w) ≤ 0 ∨ fin (shared a.y a.h b.y b.h) ≤ 0) :=
      not_or.2 ⟨not_fin_nonpos (not_le.1 wide), not_fin_nonpos (not_le.1 high)⟩
    have product : common a b = shared a.x a.w b.x b.w * shared a.y a.h b.y b.h := by
      unfold common
      rw [max_eq_left (not_le.1 wide).le, max_eq_left (not_le.1 high).le]
    have union : a.bbox.w * a.bbox.h + b.bbox.w * b.bbox.h -
        fin (shared a.x a.w b.x b.w) * fin (shared a.y a.h b.y b.h) = fin (a.area + b.area - common a b) := by
      rw [product]
      change fin (a.w * a.h + b.w * b.h) - fin (shared a.x a.w b.x b.w * shared a.y a.h b.y b.h) = _
      rw [fin_sub]
      rfl
    have positive : 0 < a.area + b.area - common a b := by linarith [common_le a b, b.area_pos]
    rw [if_neg least]
    dsimp only
    rw [union, if_neg (not_fin_nonpos positive)]
    change fin (shared a.x a.w b.x b.w * shared a.y a.h b.y b.h) / _ = _
    rw [← product, fin_div positive.ne']
    rfl

end exact

/-! ## The plane -/

/-- The part of the plane that the box covers. -/
def region (r : Rect) : Set (ℝ × ℝ) := Icc (r.x : ℝ) (r.x + r.w) ×ˢ Icc (r.y : ℝ) (r.y + r.h)

theorem region_injective {a b : Rect} (same : a.region = b.region) : a = b := by
  have across : (a.x : ℝ) ≤ a.x + a.w := by
    have wide : (0 : ℝ) < a.w := by exact_mod_cast a.wide
    linarith
  have down : (a.y : ℝ) ≤ a.y + a.h := by
    have high : (0 : ℝ) < a.h := by exact_mod_cast a.high
    linarith
  have filled : a.region.Nonempty := (nonempty_Icc.2 across).prod (nonempty_Icc.2 down)
  obtain ⟨sides, heights⟩ := (prod_eq_prod_iff_of_nonempty filled).1 same
  obtain ⟨left, right⟩ := (Icc_eq_Icc_iff across).1 sides
  obtain ⟨top, bottom⟩ := (Icc_eq_Icc_iff down).1 heights
  have x : a.x = b.x := by exact_mod_cast left
  have y : a.y = b.y := by exact_mod_cast top
  have w : a.w = b.w := by
    rw [left] at right
    exact_mod_cast add_left_cancel right
  have h : a.h = b.h := by
    rw [top] at bottom
    exact_mod_cast add_left_cancel bottom
  cases a
  cases b
  simp only at x y w h
  subst x y w h
  rfl

/-- A box is the closure of its inside. -/
theorem region_regular (r : Rect) : closure (interior r.region) = r.region := by
  have wide : (r.w : ℝ) ≠ 0 := by exact_mod_cast r.wide.ne'
  have high : (r.h : ℝ) ≠ 0 := by exact_mod_cast r.high.ne'
  unfold region
  rw [interior_prod_eq, closure_prod_eq, closure_interior_Icc (by simpa using wide),
    closure_interior_Icc (by simpa using high)]

theorem real_Icc_inter (start length start' length' : ℚ) :
    volume.real (Icc (start : ℝ) (start + length) ∩ Icc (start' : ℝ) (start' + length')) =
      (max (shared start length start' length') 0 : ℚ) := by
  rw [Icc_inter_Icc, Real.volume_real_Icc]
  unfold shared
  push_cast
  rfl

theorem real_common : volume.real (a.region ∩ b.region) = (common a b : ℚ) := by
  unfold region common
  rw [prod_inter_prod, Measure.volume_eq_prod, measureReal_prod_prod, real_Icc_inter, real_Icc_inter]
  push_cast
  rfl

theorem real_region : volume.real a.region = (a.area : ℚ) := by
  have whole : common a a = a.area := by
    unfold common shared area
    rw [min_self, max_self, min_self, max_self, add_sub_cancel_left, add_sub_cancel_left, max_eq_left a.wide.le,
      max_eq_left a.high.le]
  rw [← whole, ← real_common, inter_self]

theorem region_finite : volume a.region ≠ ⊤ := by
  intro infinite
  have zero : volume.real a.region = 0 := by
    rw [Measure.real, infinite]
    rfl
  rw [real_region] at zero
  exact a.area_pos.ne' (by exact_mod_cast zero)

theorem covers_finite : volume (a.region ∪ b.region) ≠ ⊤ := (measure_union_lt_top (lt_top_iff_ne_top.2 a.region_finite)
  (lt_top_iff_ne_top.2 b.region_finite)).ne

theorem real_union : volume.real (a.region ∪ b.region) = (a.area + b.area - common a b : ℚ) := by
  have measurable : MeasurableSet b.region := measurableSet_Icc.prod measurableSet_Icc
  have sum := measureReal_union_add_inter measurable a.region_finite b.region_finite
  rw [real_common, real_region, real_region] at sum
  push_cast
  linarith

theorem covers_something : volume (a.region ∪ b.region) ≠ 0 := by
  intro nothing
  have zero : volume.real (a.region ∪ b.region) = 0 := by
    rw [Measure.real, nothing]
    rfl
  rw [real_union] at zero
  have sum : a.area + b.area - common a b = 0 := by exact_mod_cast zero
  linarith [common_le a b, b.area_pos]

theorem iouValue_overlap : (iouValue a b : ℝ) = overlap volume a.region b.region := by
  unfold iouValue overlap
  rw [real_common, real_union]
  push_cast
  rfl

end Rect

/-- A side as a number; of one that is none nothing is asked. -/
def coordinate : Double → ℚ
  | fin q => q
  | _ => 0

/-- The part of the plane that a box covers. -/
def PixelBBox.region (box : PixelBBox) : Set (ℝ × ℝ) :=
  Icc (coordinate box.x : ℝ) (coordinate box.x + coordinate box.w) ×ˢ
    Icc (coordinate box.y : ℝ) (coordinate box.y + coordinate box.h)

theorem Rect.bbox_region (r : Rect) : r.bbox.region = r.region := rfl

/-! ## The test for a new start of the tracker -/

theorem VisionPipeline.shouldReinit_last [Fpu] {config : VisionPipelineConfig} {pipeline : VisionPipeline}
    {detected : Detection} {last : PixelBBox} (known : pipeline.lastTrackerBbox = some last) :
    pipeline.shouldReinit config detected =
      (!pipeline.trackerActive || decide (iou last detected.bbox < config.trackerReinitIou)) := by
  unfold shouldReinit
  rw [known]

/-- Where the test says so, and only there, the tracker is started on the detection. -/
theorem VisionPipeline.followDetection_active [Fpu] {config : VisionPipelineConfig} {pipeline : VisionPipeline}
    {frame : Frame} {detected : Detection} {after : VisionPipeline × TrackerResult}
    (followed : pipeline.followDetection config frame detected = .ok after) :
    after.1.trackerActive =
      if pipeline.shouldReinit config detected then frame.initialized else pipeline.trackerActive := by
  unfold followDetection at followed
  simp only [bind_eq_ok] at followed
  obtain ⟨result, -, made⟩ := followed
  cases made
  rfl

section exact
attribute [local instance] exact
variable {a b : PixelBBox}

/-- In exact numbers `_iou` is the overlap of the two boxes as parts of the plane. -/
theorem iou_overlap (left : a.Proper) (right : b.Proper) :
    ∃ q : ℚ, iou a b = fin q ∧ (q : ℝ) = overlap volume a.region b.region := by
  obtain ⟨r, rfl⟩ := left.rect
  obtain ⟨r', rfl⟩ := right.rect
  exact ⟨_, r.iou_bbox r', r.iouValue_overlap r'⟩

theorem iou_comm (left : a.Proper) (right : b.Proper) : iou a b = iou b a := by
  obtain ⟨q, same, value⟩ := iou_overlap left right
  obtain ⟨q', same', value'⟩ := iou_overlap right left
  rw [overlap_comm, ← value] at value'
  rw [same, same', Rat.cast_injective value']

theorem iou_nonneg (left : a.Proper) (right : b.Proper) : 0 ≤ iou a b := by
  obtain ⟨q, same, value⟩ := iou_overlap left right
  have nonneg : (0 : ℝ) ≤ q := value ▸ overlap_nonneg
  rw [same]
  exact fin_le_fin.2 (by exact_mod_cast nonneg)

theorem iou_le_one (left : a.Proper) (right : b.Proper) : iou a b ≤ 1 := by
  obtain ⟨q, same, value⟩ := iou_overlap left right
  obtain ⟨r, rfl⟩ := left.rect
  obtain ⟨r', rfl⟩ := right.rect
  have most : (q : ℝ) ≤ 1 := value ▸ overlap_le_one (r.covers_finite r')
  rw [same]
  exact fin_le_fin.2 (by exact_mod_cast most)

theorem iou_eq_one_iff (left : a.Proper) (right : b.Proper) : iou a b = 1 ↔ a = b := by
  obtain ⟨r, rfl⟩ := left.rect
  obtain ⟨r', rfl⟩ := right.rect
  have full : iou r.bbox r'.bbox = 1 ↔ overlap volume r.region r'.region = 1 := by
    rw [r.iou_bbox r', ← r.iouValue_overlap r']
    constructor
    · intro one
      have value : r.iouValue r' = 1 := fin.inj one
      exact_mod_cast value
    · intro one
      have value : r.iouValue r' = 1 := by exact_mod_cast one
      rw [value]
      rfl
  rw [full, overlap_eq_one_iff (r.covers_finite r') (r.covers_something r') r.region_regular r'.region_regular]
  constructor
  · intro same
    rw [Rect.region_injective same]
  · intro same
    rw [← r.bbox_region, ← r'.bbox_region, same]

theorem iou_eq_zero_iff (left : a.Proper) (right : b.Proper) : iou a b = 0 ↔ volume (a.region ∩ b.region) = 0 := by
  obtain ⟨r, rfl⟩ := left.rect
  obtain ⟨r', rfl⟩ := right.rect
  rw [r.bbox_region, r'.bbox_region, ← overlap_eq_zero_iff (r.covers_finite r') (r.covers_something r'),
    r.iou_bbox r', ← r.iouValue_overlap r']
  constructor
  · intro zero
    have value : r.iouValue r' = 0 := fin.inj zero
    exact_mod_cast value
  · intro zero
    have value : r.iouValue r' = 0 := by exact_mod_cast zero
    rw [value]
    rfl

/-- `_iou` is an overlap of boxes, and a box that is none makes the tracker start anew. -/
theorem iou_measures (a b : PixelBBox) :
    (a.Proper → b.Proper →
      iou a b = iou b a ∧ 0 ≤ iou a b ∧ iou a b ≤ 1 ∧ (iou a b = 1 ↔ a = b) ∧
        (iou a b = 0 ↔ volume (a.region ∩ b.region) = 0)) ∧
    (¬ (a.Proper ∧ b.Proper) →
      iou a b = 0 ∧ ∀ (config : VisionPipelineConfig) (pipeline : VisionPipeline) (detected : Detection),
        0 < config.trackerReinitIou → pipeline.lastTrackerBbox = some a → detected.bbox = b →
          pipeline.shouldReinit config detected = true ∧
            ∀ (frame : Frame) (after : VisionPipeline × TrackerResult),
              pipeline.updateTracking config frame (some detected) = .ok after →
                after.1.trackerActive = frame.initialized) := by
  constructor
  · intro left right
    exact ⟨iou_comm left right, iou_nonneg left right, iou_le_one left right, iou_eq_one_iff left right,
      iou_eq_zero_iff left right⟩
  · intro improper
    have zero := iou_improper improper
    constructor
    · exact zero
    · intro config pipeline detected positive last box
      have reinit : pipeline.shouldReinit config detected = true := by
        rw [pipeline.shouldReinit_last last, box, zero, Bool.or_eq_true]
        exact .inr (decide_eq_true positive)
      refine ⟨reinit, ?_⟩
      intro frame after updated
      rw [VisionPipeline.followDetection_active updated, if_pos reinit]

section thresholds
variable {config : VisionPipelineConfig} {pipeline : VisionPipeline} {detected : Detection} {last : PixelBBox}
  (known : pipeline.lastTrackerBbox = some last) (active : pipeline.trackerActive = true)
include known active

/-- With a threshold of zero a tracker that runs is never started anew. -/
theorem shouldReinit_zero (threshold : config.trackerReinitIou = 0) :
    pipeline.shouldReinit config detected = false := by
  have nonneg : 0 ≤ iou last detected.bbox := by
    by_cases proper : last.Proper ∧ detected.bbox.Proper
    · exact iou_nonneg proper.1 proper.2
    · rw [iou_improper proper]
      exact fin_le_fin.2 le_rfl
  rw [pipeline.shouldReinit_last known, active, threshold, Bool.or_eq_false_iff]
  exact ⟨rfl, decide_eq_false (Double.not_lt_of_le nonneg)⟩

/-- With a threshold of one it goes on only where the detection is the box it has. -/
theorem shouldReinit_one (threshold : config.trackerReinitIou = 1) :
    pipeline.shouldReinit config detected = false ↔ last.Proper ∧ last = detected.bbox := by
  rw [pipeline.shouldReinit_last known, active, threshold, Bool.or_eq_false_iff, decide_eq_false_iff_not]
  constructor
  · intro kept
    obtain ⟨-, above⟩ := kept
    by_cases proper : last.Proper ∧ detected.bbox.Proper
    · obtain ⟨q, same, -⟩ := iou_overlap proper.1 proper.2
      have one : iou last detected.bbox = 1 := by
        have most := iou_le_one proper.1 proper.2
        rw [same] at above most ⊢
        have least : ¬ q < 1 := fun below => above (fin_lt_fin.2 below)
        exact congrArg fin (le_antisymm (fin_le_fin.1 most) (not_lt.1 least))
      exact ⟨proper.1, (iou_eq_one_iff proper.1 proper.2).1 one⟩
    · rw [iou_improper proper] at above
      exact absurd (fin_lt_fin.2 zero_lt_one) above
  · intro kept
    obtain ⟨proper, same⟩ := kept
    rw [(iou_eq_one_iff proper (same ▸ proper)).2 same]
    exact ⟨rfl, Double.not_lt_of_le (fin_le_fin.2 le_rfl)⟩

end thresholds

/-- Two boxes of which each covers half of the other. -/
theorem halves_measured : (⟨0, 0, 10, 10⟩ : PixelBBox).Proper ∧ (⟨5, 0, 10, 10⟩ : PixelBBox).Proper ∧
    iou ⟨0, 0, 10, 10⟩ ⟨5, 0, 10, 10⟩ = fin (1 / 3) ∧
    iou ⟨0, 0, 10, 10⟩ ⟨5, 0, 10, 10⟩ = iou ⟨5, 0, 10, 10⟩ ⟨0, 0, 10, 10⟩ := by
  have left : (⟨0, 0, 10, 10⟩ : PixelBBox).Proper := ⟨rfl, rfl, rfl, rfl, by decide +kernel, by decide +kernel⟩
  have right : (⟨5, 0, 10, 10⟩ : PixelBBox).Proper := ⟨rfl, rfl, rfl, rfl, by decide +kernel, by decide +kernel⟩
  exact ⟨left, right, by decide +kernel, ((iou_measures _ _).1 left right).1⟩

end exact
end AotDrone.Vision
