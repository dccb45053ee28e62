import Mathlib.MeasureTheory.Measure.OpenPos
import Mathlib.MeasureTheory.Measure.Real

/-! The overlap of two sets in a measure space: the share that both cover of what they cover together. -/

namespace AotDrone.Lib
open MeasureTheory Set

variable {α : Type*} [MeasurableSpace α] {μ : Measure α} {s t : Set α}

noncomputable def overlap (μ : Measure α) (s t : Set α) : ℝ := μ.real (s ∩ t) / μ.real (s ∪ t)

theorem overlap_comm (μ : Measure α) (s t : Set α) : overlap μ s t = overlap μ t s := by
  unfold overlap
  rw [inter_comm, union_comm]

theorem overlap_nonneg : 0 ≤ overlap μ s t := div_nonneg measureReal_nonneg measureReal_nonneg

variable (finite : μ (s ∪ t) ≠ ⊤)
include finite

theorem overlap_le_one : overlap μ s t ≤ 1 := by
  apply div_le_one_of_le₀ _ measureReal_nonneg
  exact measureReal_mono (inter_subset_left.trans subset_union_left) finite

variable (covers : μ (s ∪ t) ≠ 0)
include covers

theorem overlap_eq_zero_iff : overlap μ s t = 0 ↔ μ (s ∩ t) = 0 := by
  have inside : s ∩ t ⊆ s ∪ t := inter_subset_left.trans subset_union_left
  have positive : μ.real (s ∪ t) ≠ 0 := (measureReal_ne_zero_iff finite).2 covers
  unfold overlap
  rw [div_eq_zero_iff, or_iff_left positive, measureReal_eq_zero_iff (measure_ne_top_of_subset inside finite)]

/-- Two sets that overlap fully differ by nothing that the measure sees. -/
theorem null_of_overlap_one (measurable : NullMeasurableSet (s ∩ t) μ) (full : overlap μ s t = 1) :
    μ ((s ∪ t) \ (s ∩ t)) = 0 := by
  have inside : s ∩ t ⊆ s ∪ t := inter_subset_left.trans subset_union_left
  have bounded : μ (s ∩ t) ≠ ⊤ := measure_ne_top_of_subset inside finite
  have positive : μ.real (s ∪ t) ≠ 0 := (measureReal_ne_zero_iff finite).2 covers
  have same : μ.real (s ∩ t) = μ.real (s ∪ t) := (div_eq_one_iff_eq positive).1 full
  rw [measure_sdiff inside measurable bounded, (measureReal_eq_measureReal_iff bounded finite).1 same, tsub_self]

section topology
variable [TopologicalSpace α] [OpensMeasurableSpace α] [μ.IsOpenPosMeasure]

omit [OpensMeasurableSpace α] finite covers in
/-- A set that is the closure of its interior lies in every closed set that misses nothing of it. -/
theorem subset_of_null (regular : closure (interior s) = s) (closed : IsClosed t) (null : μ (s \ t) = 0) : s ⊆ t := by
  have opens : IsOpen (interior s \ t) := isOpen_interior.sdiff closed
  have small : μ (interior s \ t) = 0 := measure_mono_null (sdiff_subset_sdiff_left interior_subset) null
  have inside : interior s ⊆ t := sdiff_eq_empty.1 (opens.measure_eq_zero_iff μ |>.1 small)
  rw [← regular]
  exact closed.closure_subset_iff.2 inside

/-- Sets without isolated parts overlap fully exactly when they are one. -/
theorem overlap_eq_one_iff (left : closure (interior s) = s) (right : closure (interior t) = t) :
    overlap μ s t = 1 ↔ s = t := by
  have leftClosed : IsClosed s := left ▸ isClosed_closure
  have rightClosed : IsClosed t := right ▸ isClosed_closure
  constructor
  · intro full
    have null := null_of_overlap_one finite covers (leftClosed.inter rightClosed).nullMeasurableSet full
    apply Subset.antisymm
    · apply subset_of_null (μ := μ) left rightClosed
      apply measure_mono_null _ null
      exact fun x member => ⟨.inl member.1, fun both => member.2 both.2⟩
    · apply subset_of_null (μ := μ) right leftClosed
      apply measure_mono_null _ null
      exact fun x member => ⟨.inr member.1, fun both => member.2 both.1⟩
  · intro same
    subst same
    have positive : μ.real (s ∪ s) ≠ 0 := (measureReal_ne_zero_iff finite).2 covers
    unfold overlap
    rw [inter_self, union_self] at *
    exact div_self positive

end topology
end AotDrone.Lib
