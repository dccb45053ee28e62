import AotDrone.Vision.Pipeline
import Mathlib.Data.Int.ConditionallyCompleteOrder
import Mathlib.Data.Set.Prod
import Mathlib.Order.Interval.Set.LinearOrder

/-! The box that the OpenCV tracker is started on (`opencv_tracker.py`). -/

namespace AotDrone.Vision
open AotDrone.Lib AotDrone.Lib.Double

structure CvBBox where
  x : ℤ
  y : ℤ
  w : ℤ
  h : ℤ
  deriving DecidableEq, Repr

/-- `int(round(float(value)))` -/
def roundFloat : Double → Except VisionError ℤ
  | fin value => .ok (roundHalfEven value)
  | nan => .error (.valueError "cannot convert float NaN to integer")
  | inf _ => .error .overflowError

/-- The shape is that of the array, height first. A frame without one has none. -/
def toCvBbox (bbox : PixelBBox) (shape : Option (List ℤ)) : Except VisionError (Option CvBBox) :=
  match shape with
  | some (imgH :: imgW :: _) =>
    if imgW ≤ 0 ∨ imgH ≤ 0 then .ok none
    else do
      let x ← roundFloat bbox.x
      let y ← roundFloat bbox.y
      let w ← roundFloat bbox.w
      let h ← roundFloat bbox.h
      if w ≤ 0 ∨ h ≤ 0 then .ok none
      else
        let x := max 0 (min x (imgW - 1))
        let y := max 0 (min y (imgH - 1))
        let w := min w (imgW - x)
        let h := min h (imgH - y)
        if w ≤ 0 ∨ h ≤ 0 then .ok none else .ok (some { x, y, w, h })
  | _ => .ok none

/-- `KCF` and `CSRT` are made by the factory, and `none` by nothing. -/
structure OpenCvTracker where
  factory : Bool
  active : Bool := false

/-- What `tracker.init` answers for a box is up to OpenCV. -/
def OpenCvTracker.initialize (tracker : OpenCvTracker) (init : CvBBox → Bool) (shape : Option (List ℤ))
    (bbox : PixelBBox) : Except VisionError (OpenCvTracker × Bool) :=
  if tracker.factory = false then .ok (tracker, false)
  else do
    match ← toCvBbox bbox shape with
    | none => .ok ({ tracker with active := false }, false)
    | some cvBbox => .ok ({ tracker with active := init cvBbox }, init cvBbox)

/-- The tracker starts on the box that `_to_cv_bbox` makes, or not at all. -/
theorem initialize_started {tracker after : OpenCvTracker} {init : CvBBox → Bool} {shape : Option (List ℤ)}
    {bbox : PixelBBox} (started : tracker.initialize init shape bbox = .ok (after, true)) :
    ∃ kept, toCvBbox bbox shape = .ok (some kept) ∧ init kept = true := by
  unfold OpenCvTracker.initialize at started
  split at started
  · cases started
  · obtain ⟨outcome, made, answered⟩ := bind_eq_ok.1 started
    cases outcome with
    | none => cases answered
    | some kept => exact ⟨kept, made, (Prod.mk.inj (Except.ok.inj answered)).2⟩

/-! ## Pixels -/

/-- The pixels of a side of a box. -/
def side (start length : ℤ) : Set ℤ := Set.Ico start (start + length)

/-- The pixels of a box. -/
def CvBBox.pixels (box : CvBBox) : Set (ℤ × ℤ) := side box.x box.w ×ˢ side box.y box.h

/-- The pixels of a frame. -/
def framePixels (imgW imgH : ℤ) : Set (ℤ × ℤ) := side 0 imgW ×ˢ side 0 imgH

/-- The side starts in the frame, or before it and reaches its far end. -/
def Reaches (size start length : ℤ) : Prop :=
  0 ≤ start ∧ start < size ∨ start < 0 ∧ size ≤ start + length

/-- What becomes of a side of the box. -/
structure SideClamped (size start length kept shown : ℤ) : Prop where
  inside : 0 ≤ kept ∧ 0 < shown ∧ kept + shown ≤ size
  nearest : kept = max 0 (min start (size - 1))
  visible : Reaches size start length → side kept shown = side start length ∩ side 0 size
  edge : size ≤ start → side kept shown = side (size - 1) 1

theorem side_clamped {size start length : ℤ} (frame : 0 < size) (box : 0 < length) :
    SideClamped size start length (max 0 (min start (size - 1)))
      (min length (size - max 0 (min start (size - 1)))) := by
  constructor
  · omega
  · rfl
  · intro reaches
    unfold Reaches at reaches
    unfold side
    rw [Set.Ico_inter_Ico, Set.Ico_eq_Ico_iff (.inl (by omega))]
    simp only [max_def, min_def]
    omega
  · intro beyond
    unfold side
    rw [Set.Ico_eq_Ico_iff (.inl (by omega))]
    omega

theorem pixels_visible {kept box : CvBBox} {imgW imgH : ℤ} (across : side kept.x kept.w = side box.x box.w ∩ side 0 imgW)
    (down : side kept.y kept.h = side box.y box.h ∩ side 0 imgH) :
    kept.pixels = box.pixels ∩ framePixels imgW imgH := by
  unfold CvBBox.pixels framePixels
  rw [Set.prod_inter_prod, across, down]

def rounded (x y w h : ℚ) : CvBBox := ⟨roundHalfEven x, roundHalfEven y, roundHalfEven w, roundHalfEven h⟩

/-- What the tracker is started on. -/
structure BoxClamped (box : CvBBox) (imgW imgH : ℤ) (kept : CvBBox) : Prop where
  across : SideClamped imgW box.x box.w kept.x kept.w
  down : SideClamped imgH box.y box.h kept.y kept.h
  visible : Reaches imgW box.x box.w → Reaches imgH box.y box.h → kept.pixels = box.pixels ∩ framePixels imgW imgH

variable (x y w h : ℚ) (imgW imgH : ℤ) (channels : List ℤ)

theorem toCvBbox_none (empty : imgW ≤ 0 ∨ imgH ≤ 0 ∨ roundHalfEven w ≤ 0 ∨ roundHalfEven h ≤ 0) :
    toCvBbox ⟨fin x, fin y, fin w, fin h⟩ (some (imgH :: imgW :: channels)) = .ok none := by
  unfold toCvBbox
  dsimp only
  by_cases frame : imgW ≤ 0 ∨ imgH ≤ 0
  · rw [if_pos frame]
  · have box : roundHalfEven w ≤ 0 ∨ roundHalfEven h ≤ 0 := by omega
    rw [if_neg frame]
    exact if_pos box

theorem toCvBbox_some (frame : 0 < imgW ∧ 0 < imgH) (box : 0 < roundHalfEven w ∧ 0 < roundHalfEven h) :
    ∃ kept, toCvBbox ⟨fin x, fin y, fin w, fin h⟩ (some (imgH :: imgW :: channels)) = .ok (some kept) ∧
      BoxClamped (rounded x y w h) imgW imgH kept := by
  have across : SideClamped imgW (roundHalfEven x) (roundHalfEven w) _ _ := side_clamped frame.1 box.1
  have down : SideClamped imgH (roundHalfEven y) (roundHalfEven h) _ _ := side_clamped frame.2 box.2
  refine ⟨⟨_, _, _, _⟩, ?_, across, down, fun wide tall => pixels_visible (across.visible wide) (down.visible tall)⟩
  unfold toCvBbox
  dsimp only
  rw [if_neg (by omega)]
  change (if roundHalfEven w ≤ 0 ∨ roundHalfEven h ≤ 0 then _ else _) = _
  rw [if_neg (by omega), if_neg]
  exact fun none => none.elim (not_le.2 across.inside.2.1) (not_le.2 down.inside.2.1)

/-- A box with an area is moved into the frame and cut at its far edges; one without an area is none. -/
theorem toCvBbox_clamped :
    ∃ outcome, toCvBbox ⟨fin x, fin y, fin w, fin h⟩ (some (imgH :: imgW :: channels)) = .ok outcome ∧
      (outcome = none ↔ imgW ≤ 0 ∨ imgH ≤ 0 ∨ roundHalfEven w ≤ 0 ∨ roundHalfEven h ≤ 0) ∧
        ∀ kept ∈ outcome, BoxClamped (rounded x y w h) imgW imgH kept := by
  by_cases empty : imgW ≤ 0 ∨ imgH ≤ 0 ∨ roundHalfEven w ≤ 0 ∨ roundHalfEven h ≤ 0
  · exact ⟨none, toCvBbox_none x y w h imgW imgH channels empty, iff_of_true rfl empty, nofun⟩
  · obtain ⟨kept, made, clamped⟩ := toCvBbox_some x y w h imgW imgH channels (by omega) (by omega)
    refine ⟨some kept, made, iff_of_false (Option.some_ne_none kept) empty, ?_⟩
    rintro _ ⟨⟩
    exact clamped

/-- A box that begins to the right of the frame once it is rounded is moved to the last column. -/
theorem beyond_clamped :
    toCvBbox ⟨fin 1919.7, fin 1079.3, fin 100.9, fin 50.2⟩ (some [1080, 1920, 3]) = .ok (some ⟨1919, 1079, 1, 1⟩) ∧
      (rounded 1919.7 1079.3 100.9 50.2).pixels ∩ framePixels 1920 1080 = ∅ := by
  have box : rounded 1919.7 1079.3 100.9 50.2 = ⟨1920, 1079, 101, 50⟩ := by decide +kernel
  constructor
  · obtain ⟨left, top, wide, tall⟩ := CvBBox.mk.inj box
    unfold toCvBbox roundFloat
    dsimp only
    rw [left, top, wide, tall]
    rfl
  · rw [box]
    unfold CvBBox.pixels framePixels side
    rw [Set.prod_inter_prod, Set.Ico_inter_Ico, Set.Ico_eq_empty (by decide), Set.empty_prod]

end AotDrone.Vision
