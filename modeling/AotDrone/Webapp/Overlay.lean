import AotDrone.Vision.Payload

/-! Where the overlay draws a box (`overlayMath.ts`), and which part of the image that is. -/

namespace AotDrone.Webapp
open AotDrone.Lib AotDrone.Lib.Double AotDrone.Backend AotDrone.Vision

structure NormalizedBox where
  centerX : Double
  centerY : Double
  boundW : Double
  boundH : Double

structure CanvasRect where
  x : Double
  y : Double
  width : Double
  height : Double
  centerX : Double
  centerY : Double

section canvas
variable [Fpu]

def normalizedToCanvasRect (box : NormalizedBox) (canvasWidth canvasHeight : Double) : Option CanvasRect :=
  if ¬ (canvasWidth.isFinite ∧ canvasHeight.isFinite) then none
  else if canvasWidth ≤ 0 ∨ canvasHeight ≤ 0 then none
  else if ¬ (box.centerX.isFinite ∧ box.centerY.isFinite ∧ box.boundW.isFinite ∧ box.boundH.isFinite) then none
  else
    let centerXNorm := clamp box.centerX (-1) 1
    let centerYNorm := clamp box.centerY (-1) 1
    let boundWNorm := clamp box.boundW 0 1
    let boundHNorm := clamp box.boundH 0 1
    let cxNorm01 := (centerXNorm + 1) / 2
    let cyNorm01 := 1 - (centerYNorm + 1) / 2
    let centerX := cxNorm01 * canvasWidth
    let centerY := cyNorm01 * canvasHeight
    let widthRaw := boundWNorm * canvasWidth
    let heightRaw := boundHNorm * canvasHeight
    let leftRaw := centerX - widthRaw / 2
    let topRaw := centerY - heightRaw / 2
    let rightRaw := leftRaw + widthRaw
    let bottomRaw := topRaw + heightRaw
    let left := clamp leftRaw 0 canvasWidth
    let top := clamp topRaw 0 canvasHeight
    let right := clamp rightRaw 0 canvasWidth
    let bottom := clamp bottomRaw 0 canvasHeight
    some
      { x := left
        y := top
        width := mathMax 0 (right - left)
        height := mathMax 0 (bottom - top)
        centerX := clamp centerX 0 canvasWidth
        centerY := clamp centerY 0 canvasHeight }

/-- The box of a VIS message, as `getOverlaySample` takes it. -/
def overlayBox (vis : VisMessage) : NormalizedBox where
  centerX := vis.locX
  centerY := vis.locY
  boundW := vis.boundW
  boundH := vis.boundH

/-- The rectangle drawn for a tracked box: normalised, sent, checked by the backend, and drawn. -/
def drawnRect (seq : ℤ) (timestamp confidence : Double) (box : PixelBBox) (imgW imgH : ℤ)
    (canvasWidth canvasHeight : Double) : Option CanvasRect := do
  let bbox ← (normalizeBboxXywh box imgW imgH).toOption
  let vis ← (validateVisMessage (buildVisPayload seq timestamp .tracking bbox confidence)).toOption
  normalizedToCanvasRect (overlayBox vis) canvasWidth canvasHeight

end canvas

/-! ## Spans of an axis -/

/-- A piece of an axis. -/
structure Span where
  start : ℚ
  size : ℚ
  deriving DecidableEq

namespace Span
variable (length : ℚ) (s : Span)

/-- The part that lies on the axis. -/
def onAxis : Span := ⟨max 0 s.start, min length (s.start + s.size) - max 0 s.start⟩

def centre : ℚ := s.start + s.size / 2

/-- The span moved and cut so that its centre is on the axis and it is no longer than the axis. -/
def clamped : Span :=
  let size := min length s.size
  ⟨max 0 (min length s.centre) - size / 2, size⟩

def scaled (k : ℚ) : Span := ⟨k * s.start, k * s.size⟩

/-- The spans whose part on the axis survives the clamping: those with their centre on the axis that are not longer,
and of the longer ones those that reach the same ends anyway. -/
def Survives : Prop :=
  (0 ≤ s.centre ∧ s.centre ≤ length ∧ s.size ≤ length) ∨ (length < s.size ∧ s.centre = length / 2) ∨
    (s.centre < 0 ∧ length < s.size ∧ s.start + s.size = length / 2) ∨
    (length < s.centre ∧ length < s.size ∧ s.start = length / 2)

theorem scaled_inj {k : ℚ} (positive : 0 < k) {s t : Span} : s.scaled k = t.scaled k ↔ s = t := by
  obtain ⟨start, size⟩ := s
  obtain ⟨start', size'⟩ := t
  simp only [scaled, Span.mk.injEq, mul_right_inj' positive.ne']

variable {length s}

theorem onAxis_inj {t : Span} :
    s.onAxis length = t.onAxis length ↔
      max 0 s.start = max 0 t.start ∧ min length (s.start + s.size) = min length (t.start + t.size) := by
  simp only [onAxis, Span.mk.injEq]
  constructor
  · rintro ⟨starts, sizes⟩
    exact ⟨starts, by linarith⟩
  · rintro ⟨starts, ends⟩
    exact ⟨starts, by rw [starts, ends]⟩

/-- The part of a clamped span on the axis, by where its centre and its size were cut. -/
theorem clamped_onAxis_inj {centre size : ℚ} (kept : max 0 (min length s.centre) = centre)
    (cut : min length s.size = size) :
    (s.clamped length).onAxis length = s.onAxis length ↔
      max 0 (centre - size / 2) = max 0 (s.centre - s.size / 2) ∧
        min length (centre + size / 2) = min length (s.centre + s.size / 2) := by
  have ends : s.start = s.centre - s.size / 2 ∧ s.start + s.size = s.centre + s.size / 2 := by
    unfold Span.centre
    constructor <;> ring
  have last : centre - size / 2 + size = centre + size / 2 := by ring
  rw [onAxis_inj, clamped, kept, cut, last, ends.2, ends.1]

/-- The part of a span on the axis survives the clamping in exactly these cases. -/
theorem clamped_onAxis_iff (nonempty : 0 < s.size) (axis : 0 < length) :
    (s.clamped length).onAxis length = s.onAxis length ↔ s.Survives length := by
  have ends : s.start = s.centre - s.size / 2 ∧ s.start + s.size = s.centre + s.size / 2 := by
    unfold centre
    constructor <;> ring
  unfold Survives
  rw [ends.2, ends.1]
  rcases lt_or_ge s.centre 0 with left | notLeft
  · -- the centre moves right, to the beginning of the axis
    have kept : max 0 (min length s.centre) = 0 := max_eq_left ((min_le_right _ _).trans left.le)
    rcases le_or_gt s.size length with fits | longer
    · rw [clamped_onAxis_inj kept (min_eq_right fits)]
      grind
    · rw [clamped_onAxis_inj kept (min_eq_left longer.le)]
      grind
  rcases le_or_gt s.centre length with notRight | right
  · -- the centre stays
    have kept : max 0 (min length s.centre) = s.centre := by
      rw [min_eq_right notRight, max_eq_right notLeft]
    rcases le_or_gt s.size length with fits | longer
    · rw [clamped_onAxis_inj kept (min_eq_right fits)]
      exact iff_of_true ⟨rfl, rfl⟩ (.inl ⟨notLeft, notRight, fits⟩)
    · rw [clamped_onAxis_inj kept (min_eq_left longer.le)]
      grind
  · -- the centre moves left, to the end of the axis
    have kept : max 0 (min length s.centre) = length := by
      rw [min_eq_left right.le, max_eq_right axis.le]
    rcases le_or_gt s.size length with fits | longer
    · rw [clamped_onAxis_inj kept (min_eq_right fits)]
      grind
    · rw [clamped_onAxis_inj kept (min_eq_left longer.le)]
      grind

end Span

/-! ## The drawn rectangle over the rationals -/

section rational
attribute [local instance] exact

theorem fin_add_fin (a b : ℚ) : fin a + fin b = fin (a + b) := rfl
theorem fin_sub_fin (a b : ℚ) : fin a - fin b = fin (a - b) := fin_sub a b
theorem fin_mul_fin (a b : ℚ) : fin a * fin b = fin (a * b) := rfl
theorem fin_div_two (a : ℚ) : fin a / 2 = fin (a / 2) := fin_div (by norm_num)

/-- A side as it is drawn on a canvas: from its centre and its size, both in units of the image. -/
def drawnSide (canvas centre size : ℚ) : Span :=
  let start := max 0 (min (centre * canvas - size * canvas / 2) canvas)
  ⟨start, max 0 (max 0 (min (centre * canvas - size * canvas / 2 + size * canvas) canvas) - start)⟩

/-- Drawn is the part of the clamped span that lies on the axis. -/
theorem drawnSide_eq {canvas length : ℚ} (positive : 0 < canvas) (axis : 0 < length) (s : Span) (nonempty : 0 < s.size) :
    drawnSide canvas (max 0 (min 1 (s.centre / length))) (max 0 (min 1 (s.size / length))) =
      ((s.clamped length).onAxis length).scaled (canvas / length) := by
  set k := canvas / length with scale
  set p := max 0 (min 1 (s.centre / length))
  set m := max 0 (min 1 (s.size / length))
  have factor : 0 < k := div_pos positive axis
  have whole : canvas = k * length := (div_mul_cancel₀ _ axis.ne').symm
  have centre : max 0 (min length s.centre) = length * p := by
    rw [mul_max_of_nonneg _ _ axis.le, mul_min_of_nonneg _ _ axis.le, mul_zero, mul_one, mul_div_cancel₀ _ axis.ne']
  have size : min length s.size = length * m := by
    rw [mul_max_of_nonneg _ _ axis.le, mul_min_of_nonneg _ _ axis.le, mul_zero, mul_one, mul_div_cancel₀ _ axis.ne',
      max_eq_right (le_min axis.le nonempty.le)]
  have p_le : length * p ≤ length := centre ▸ max_le axis.le (min_le_left _ _)
  have p_nonneg : 0 ≤ length * p := centre ▸ le_max_left _ _
  have m_nonneg : 0 ≤ length * m := size ▸ le_min axis.le nonempty.le
  set u := length * p - length * m / 2 with first
  have start : p * canvas - m * canvas / 2 = k * u := by
    rw [whole, first]
    ring
  have finish : p * canvas - m * canvas / 2 + m * canvas = k * (u + length * m) := by
    rw [start, whole]
    ring
  have starts : max 0 (min (k * u) (k * length)) = k * max 0 u := by
    rw [min_eq_left (mul_le_mul_of_nonneg_left (by linarith) factor.le), mul_max_of_nonneg _ _ factor.le, mul_zero]
  have ends : max 0 (min (k * (u + length * m)) (k * length)) = k * min length (u + length * m) := by
    rw [← mul_min_of_nonneg _ _ factor.le, min_comm, max_eq_right]
    exact mul_nonneg factor.le (le_min axis.le (by linarith))
  have forwards : max 0 u ≤ min length (u + length * m) :=
    max_le (le_min axis.le (by linarith)) (le_min (by linarith) (by linarith))
  rw [drawnSide, finish, start, Span.clamped, centre, size, Span.onAxis, Span.scaled, whole, starts, ends]
  dsimp only
  rw [← mul_sub, max_eq_right (mul_nonneg factor.le (sub_nonneg.2 forwards))]

/-- What is drawn for a box of the wire. -/
theorem normalizedToCanvasRect_eq {centreX centreY width height canvasW canvasH : ℚ}
    (x : 0 ≤ centreX ∧ centreX ≤ 1) (y : 0 ≤ centreY ∧ centreY ≤ 1) (w : 0 ≤ width ∧ width ≤ 1)
    (h : 0 ≤ height ∧ height ≤ 1) (wide : 0 < canvasW) (high : 0 < canvasH) :
    normalizedToCanvasRect ⟨fin (2 * centreX - 1), fin (1 - 2 * centreY), fin width, fin height⟩ (fin canvasW)
        (fin canvasH) =
      some
        { x := fin (drawnSide canvasW centreX width).start
          y := fin (drawnSide canvasH centreY height).start
          width := fin (drawnSide canvasW centreX width).size
          height := fin (drawnSide canvasH centreY height).size
          centerX := fin (max 0 (min (centreX * canvasW) canvasW))
          centerY := fin (max 0 (min (centreY * canvasH) canvasH)) } := by
  have zero : (0 : Double) = fin 0 := rfl
  have one : (1 : Double) = fin 1 := rfl
  have signed {c : ℚ} (low : -1 ≤ c) (high : c ≤ 1) : clamp (fin c) (-1) 1 = fin c := by
    change clamp (fin c) (fin (-1)) (fin 1) = _
    rw [clamp_fin _ _ _ (by norm_num), min_eq_left high, max_eq_right low]
  have plain {c : ℚ} (low : 0 ≤ c) (high : c ≤ 1) : clamp (fin c) 0 1 = fin c := by
    rw [zero, one, clamp_fin _ _ _ (by norm_num), min_eq_left high, max_eq_right low]
  have across : (2 * centreX - 1 + 1) / 2 = centreX := by ring
  have down : 1 - (1 - 2 * centreY + 1) / 2 = centreY := by ring
  unfold normalizedToCanvasRect
  rw [if_neg (by simp), if_neg (by rw [zero, fin_le_fin, fin_le_fin]; exact not_or.2 ⟨not_le.2 wide, not_le.2 high⟩),
    if_neg (by simp)]
  dsimp only
  rw [signed (by linarith) (by linarith), signed (by linarith) (by linarith), plain w.1 w.2, plain h.1 h.2]
  simp only [zero, one, fin_add_fin, fin_sub_fin, fin_mul_fin, fin_div_two, across, down, clamp_fin _ _ _ wide.le,
    clamp_fin _ _ _ high.le, mathMax_fin]
  rfl

/-- The box of the wire, from a box in pixels. -/
theorem normalizeBboxXywh_eq {x y w h : ℚ} {imgW imgH : ℤ} (wide : 0 < imgW) (high : 0 < imgH) :
    normalizeBboxXywh ⟨fin x, fin y, fin w, fin h⟩ imgW imgH =
      .ok
        { cx := fin (max 0 (min 1 ((⟨x, w⟩ : Span).centre / imgW)))
          cy := fin (max 0 (min 1 ((⟨y, h⟩ : Span).centre / imgH)))
          w := fin (max 0 (min 1 (w / imgW)))
          h := fin (max 0 (min 1 (h / imgH))) } := by
  have ratio (a : ℚ) {n : ℤ} (positive : 0 < n) : clamp01 (fin a / fin n) = fin (max 0 (min 1 (a / n))) := by
    rw [fin_div (Int.cast_ne_zero.2 positive.ne')]
    change pyMax (fin 0) (pyMin (fin 1) (fin (a / n))) = _
    rw [pyMin_fin, pyMax_fin]
  unfold normalizeBboxXywh
  rw [if_neg (by omega)]
  change Except.ok (NormalizedBBox.mk (clamp01 ((fin x + fin w / 2) / fin imgW)) (clamp01 ((fin y + fin h / 2) / fin imgH))
    (clamp01 (fin w / fin imgW)) (clamp01 (fin h / fin imgH))) = _
  rw [fin_div_two, fin_div_two, fin_add_fin, fin_add_fin, ratio _ wide, ratio _ high, ratio _ wide, ratio _ high]
  rfl

theorem centred_eq {c : ℚ} (low : 0 ≤ c) (high : c ≤ 1) : centred (fin (c - 1 / 2)) = fin (2 * c - 1) := by
  have doubled : fin (c - 1 / 2) * 2 = fin (2 * c - 1) := congrArg fin (by ring)
  rw [centred, doubled]
  change pyMax (fin (-1)) (pyMin (fin 1) (fin (2 * c - 1))) = _
  rw [pyMin_fin, pyMax_fin, min_eq_right (by linarith), max_eq_right (by linarith)]

theorem clamp01_eq {c : ℚ} (low : 0 ≤ c) (high : c ≤ 1) : clamp01 (fin c) = fin c := by
  change pyMax (fin 0) (pyMin (fin 1) (fin c)) = _
  rw [pyMin_fin, pyMax_fin, min_eq_right high, max_eq_right low]

/-- The rectangle shows a span of each axis. -/
def Shows (rect : CanvasRect) (across down : Span) : Prop :=
  rect.x = fin across.start ∧ rect.y = fin down.start ∧ rect.width = fin across.size ∧ rect.height = fin down.size

theorem drawnRect_eq (seq : ℤ) (timestamp confidence : Double) (x y w h : ℚ) (imgW imgH : ℤ) (canvasW canvasH : ℚ)
    (wideBox : 0 < w) (highBox : 0 < h) (wide : 0 < imgW) (high : 0 < imgH) (wideCanvas : 0 < canvasW)
    (highCanvas : 0 < canvasH) :
    ∃ rect, drawnRect seq timestamp confidence ⟨fin x, fin y, fin w, fin h⟩ imgW imgH (fin canvasW) (fin canvasH) =
        some rect ∧
      Shows rect ((((⟨x, w⟩ : Span).clamped imgW).onAxis imgW).scaled (canvasW / imgW))
        ((((⟨y, h⟩ : Span).clamped imgH).onAxis imgH).scaled (canvasH / imgH)) := by
  have bounded (a : ℚ) : 0 ≤ max 0 (min 1 a) ∧ max 0 (min 1 a) ≤ 1 :=
    ⟨le_max_left _ _, max_le zero_le_one (min_le_left _ _)⟩
  have sides (s : Span) (n : ℤ) := bounded (s.centre / n)
  have sizes (z : ℚ) (n : ℤ) := bounded (z / n)
  have drawn := normalizedToCanvasRect_eq (sides ⟨x, w⟩ imgW) (sides ⟨y, h⟩ imgH) (sizes w imgW) (sizes h imgH) wideCanvas
    highCanvas
  refine ⟨_, Eq.trans ?_ drawn, ?_⟩
  · have half : (0.5 : Double) = fin (1 / 2) := by
      rw [ofScientific_eq]
      exact congrArg fin (by norm_num)
    have across {c : ℚ} (held : 0 ≤ c ∧ c ≤ 1) : centred (fin c - 0.5) = fin (2 * c - 1) := by
      rw [half, fin_sub_fin, centred_eq held.1 held.2]
    have down {c : ℚ} (held : 0 ≤ c ∧ c ≤ 1) : centred (0.5 - fin c) = fin (1 - 2 * c) := by
      have flipped : fin (1 / 2) - fin c = fin ((1 - c) - 1 / 2) := congrArg fin (by ring)
      rw [half, flipped, centred_eq (by linarith) (by linarith)]
      exact congrArg fin (by ring)
    rw [drawnRect, normalizeBboxXywh_eq wide high]
    change (Except.toOption (validateVisMessage _)).bind _ = _
    rw [buildVisPayload_accepted]
    change normalizedToCanvasRect (overlayBox _) _ _ = _
    rw [visFields, if_neg (by decide), overlayBox]
    dsimp only
    rw [across (sides ⟨x, w⟩ imgW), down (sides ⟨y, h⟩ imgH), clamp01_eq (sizes w imgW).1 (sizes w imgW).2,
      clamp01_eq (sizes h imgH).1 (sizes h imgH).2]
  · have first := drawnSide_eq wideCanvas (Int.cast_pos.2 wide) ⟨x, w⟩ wideBox
    have second := drawnSide_eq highCanvas (Int.cast_pos.2 high) ⟨y, h⟩ highBox
    rw [← first, ← second]
    exact ⟨rfl, rfl, rfl, rfl⟩

theorem Shows.iff {rect : CanvasRect} {across down : Span} (shown : Shows rect across down) {across' down' : Span} :
    Shows rect across' down' ↔ across = across' ∧ down = down' := by
  obtain ⟨x, y, width, height⟩ := shown
  obtain ⟨start, size⟩ := across
  obtain ⟨start', size'⟩ := down
  obtain ⟨first, second⟩ := across'
  obtain ⟨third, fourth⟩ := down'
  simp only [Shows, x, y, width, height, Double.fin.injEq, Span.mk.injEq]
  tauto

/-- On a canvas of the image's shape the overlay shows the part of the image that the clamped box covers. This is the
part that the box itself covers exactly where each of its sides survives the clamping. -/
theorem overlay_shows_iff (seq : ℤ) (timestamp confidence : Double) (x y w h : ℚ) (imgW imgH : ℤ) (canvasW canvasH : ℚ)
    (wideBox : 0 < w) (highBox : 0 < h) (wide : 0 < imgW) (high : 0 < imgH) (wideCanvas : 0 < canvasW)
    (highCanvas : 0 < canvasH) (shape : canvasW * imgH = canvasH * imgW) :
    ∃ rect, drawnRect seq timestamp confidence ⟨fin x, fin y, fin w, fin h⟩ imgW imgH (fin canvasW) (fin canvasH) =
        some rect ∧
      Shows rect ((((⟨x, w⟩ : Span).clamped imgW).onAxis imgW).scaled (canvasW / imgW))
        ((((⟨y, h⟩ : Span).clamped imgH).onAxis imgH).scaled (canvasW / imgW)) ∧
      (Shows rect (((⟨x, w⟩ : Span).onAxis imgW).scaled (canvasW / imgW))
          (((⟨y, h⟩ : Span).onAxis imgH).scaled (canvasW / imgW)) ↔
        (⟨x, w⟩ : Span).Survives imgW ∧ (⟨y, h⟩ : Span).Survives imgH) := by
  have axisW : (0 : ℚ) < imgW := Int.cast_pos.2 wide
  have axisH : (0 : ℚ) < imgH := Int.cast_pos.2 high
  have scale : canvasH / imgH = canvasW / imgW := by
    rw [div_eq_div_iff axisH.ne' axisW.ne', shape]
  obtain ⟨rect, drawn, shown⟩ := drawnRect_eq seq timestamp confidence x y w h imgW imgH canvasW canvasH wideBox highBox
    wide high wideCanvas highCanvas
  rw [scale] at shown
  refine ⟨rect, drawn, shown, ?_⟩
  have positive := div_pos wideCanvas axisW
  rw [shown.iff, Span.scaled_inj positive, Span.scaled_inj positive]
  exact and_congr (Span.clamped_onAxis_iff wideBox axisW) (Span.clamped_onAxis_iff highBox axisH)

/-- A box inside the image is shown where it is. -/
theorem inside_box_shown :
    ∃ rect, drawnRect 0 0 1 ⟨fin 100, fin 50, fin 64, fin 48⟩ 640 480 (fin 320) (fin 240) = some rect ∧
      Shows rect ⟨50, 32⟩ ⟨25, 24⟩ := by
  obtain ⟨rect, drawn, -, exactly⟩ := overlay_shows_iff 0 0 1 100 50 64 48 640 480 320 240 (by norm_num) (by norm_num)
    (by decide) (by decide) (by norm_num) (by norm_num) (by norm_num)
  have survives : (⟨100, 64⟩ : Span).Survives (640 : ℤ) ∧ (⟨50, 48⟩ : Span).Survives (480 : ℤ) := by
    refine ⟨.inl ?_, .inl ?_⟩
    · norm_num [Span.centre]
    · norm_num [Span.centre]
  have across : ((⟨100, 64⟩ : Span).onAxis (640 : ℤ)).scaled (320 / (640 : ℤ)) = ⟨50, 32⟩ := by decide +kernel
  have down : ((⟨50, 48⟩ : Span).onAxis (480 : ℤ)).scaled (320 / (640 : ℤ)) = ⟨25, 24⟩ := by decide +kernel
  have shown := exactly.2 survives
  rw [across, down] at shown
  exact ⟨rect, drawn, shown⟩

/-- A box that hangs over the left edge with its centre off the image is drawn wider than its part of the image. -/
theorem overhanging_box_widened :
    ∃ rect, drawnRect 0 0 1 ⟨fin (-60), fin 0, fin 100, fin 480⟩ 640 480 (fin 640) (fin 480) = some rect ∧
      Shows rect ⟨0, 50⟩ ⟨0, 480⟩ ∧
      ¬ Shows rect (((⟨-60, 100⟩ : Span).onAxis 640).scaled (640 / 640)) (((⟨0, 480⟩ : Span).onAxis 480).scaled (640 / 640)) := by
  obtain ⟨rect, drawn, shown⟩ := drawnRect_eq 0 0 1 (-60) 0 100 480 640 480 640 480 (by norm_num) (by norm_num) (by decide)
    (by decide) (by norm_num) (by norm_num)
  have across : (((⟨-60, 100⟩ : Span).clamped (640 : ℤ)).onAxis (640 : ℤ)).scaled (640 / (640 : ℤ)) = ⟨0, 50⟩ := by
    decide +kernel
  have down : (((⟨0, 480⟩ : Span).clamped (480 : ℤ)).onAxis (480 : ℤ)).scaled (480 / (480 : ℤ)) = ⟨0, 480⟩ := by
    decide +kernel
  rw [across, down] at shown
  refine ⟨rect, drawn, shown, ?_⟩
  rw [shown.iff]
  decide +kernel

end rational
end AotDrone.Webapp
