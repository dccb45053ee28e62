import Mathlib.Algebra.Order.Field.Basic
import Mathlib.Tactic.Linarith
import Mathlib.Tactic.Ring

/-! A token bucket in exact numbers: a request takes a token, tokens come back at a rate up to a capacity. -/

namespace AotDrone.Lib.TokenBucket

variable {K : Type*} [Field K] [LinearOrder K]

/-- The tokens that were left at the last request, and its time. -/
structure Bucket (K : Type*) where
  tokens : K
  last : K

namespace Bucket

section law
variable (capacity rate : K) (bucket : Bucket K) (now : K)

def refilled : K := min capacity (bucket.tokens + max 0 (now - bucket.last) * rate)

def Allows : Prop := 1 ≤ bucket.refilled capacity rate now

instance : Decidable (bucket.Allows capacity rate now) := inferInstanceAs (Decidable (1 ≤ _))

def next : Bucket K where
  tokens := bucket.refilled capacity rate now - if bucket.Allows capacity rate now then 1 else 0
  last := now

end law

variable [IsStrictOrderedRing K] {capacity rate : K} {bucket : Bucket K} {now : K}

/-- The tokens stay between none and the capacity. -/
def Fits (capacity : K) (bucket : Bucket K) : Prop := 0 ≤ bucket.tokens ∧ bucket.tokens ≤ capacity

omit [IsStrictOrderedRing K] in
theorem Fits.full (room : 0 ≤ capacity) (now : K) : Fits capacity { tokens := capacity, last := now } :=
  ⟨room, le_rfl⟩

theorem refilled_nonneg (room : 0 ≤ capacity) (positive : 0 ≤ rate) (fits : bucket.Fits capacity) :
    0 ≤ bucket.refilled capacity rate now := by
  have refill : 0 ≤ max 0 (now - bucket.last) * rate := mul_nonneg (le_max_left _ _) positive
  exact le_min room (add_nonneg fits.1 refill)

theorem refilled_le (later : bucket.last ≤ now) :
    bucket.refilled capacity rate now ≤ bucket.tokens + rate * (now - bucket.last) := by
  unfold refilled
  rw [max_eq_right (sub_nonneg.2 later), mul_comm rate]
  exact min_le_right _ _

theorem Fits.next (room : 0 ≤ capacity) (positive : 0 ≤ rate) (fits : bucket.Fits capacity) (now : K) :
    (bucket.next capacity rate now).Fits capacity := by
  have nonneg : 0 ≤ bucket.refilled capacity rate now := refilled_nonneg room positive fits
  have most : bucket.refilled capacity rate now ≤ capacity := min_le_left _ _
  unfold Bucket.next Fits
  dsimp only
  split_ifs with allowed
  · exact ⟨sub_nonneg.2 allowed, (sub_le_self _ zero_le_one).trans most⟩
  · rw [sub_zero]
    exact ⟨nonneg, most⟩

/-- A request that comes long enough after the last one finds a token. -/
theorem Fits.allows (enough : 1 ≤ capacity) (positive : 0 < rate) (fits : bucket.Fits capacity)
    (spaced : bucket.last + 1 / rate ≤ now) : bucket.Allows capacity rate now := by
  have refill : 1 ≤ (now - bucket.last) * rate := by
    rw [← div_le_iff₀ positive]
    linarith
  have some : (now - bucket.last) * rate ≤ max 0 (now - bucket.last) * rate :=
    mul_le_mul_of_nonneg_right (le_max_right _ _) positive.le
  refine le_min enough ?_
  linarith [fits.1]

theorem full_allows (enough : 1 ≤ capacity) (positive : 0 ≤ rate) (created now : K) :
    Bucket.Allows capacity rate { tokens := capacity, last := created } now := by
  have refill : 0 ≤ max 0 (now - created) * rate := mul_nonneg (le_max_left _ _) positive
  exact le_min enough (by dsimp only; linarith)

/-! ## Windows -/

/-- The requests that were allowed in the window from `start` to `stop`, against the tokens that are left. -/
structure Bounded (capacity rate start stop : K) (count : ℕ) (bucket : Bucket K) : Prop where
  before : bucket.last < start → count = 0
  within : bucket.last ≤ stop → count + bucket.tokens ≤ capacity + rate * max 0 (bucket.last - start)
  total : (count : K) ≤ capacity + rate * (stop - start)

variable {start stop : K} {count : ℕ}

theorem Bounded.full (room : 0 ≤ capacity) (positive : 0 ≤ rate) (window : start ≤ stop) (now : K) :
    Bounded capacity rate start stop 0 { tokens := capacity, last := now } where
  before _ := rfl
  within _ := by
    have refill : 0 ≤ rate * max 0 (now - start) := mul_nonneg positive (le_max_left _ _)
    push_cast
    linarith
  total := by
    have refill : 0 ≤ rate * (stop - start) := mul_nonneg positive (sub_nonneg.2 window)
    push_cast
    linarith

/-- The tokens before a request inside the window, with the requests allowed so far. -/
theorem Bounded.refilled (positive : 0 ≤ rate) (later : bucket.last ≤ now) (inside : start ≤ now ∧ now ≤ stop)
    (bounded : Bounded capacity rate start stop count bucket) :
    count + bucket.refilled capacity rate now ≤ capacity + rate * (now - start) := by
  rcases lt_or_ge bucket.last start with early | late
  · have most : bucket.refilled capacity rate now ≤ capacity := min_le_left _ _
    have refill : 0 ≤ rate * (now - start) := mul_nonneg positive (sub_nonneg.2 inside.1)
    rw [bounded.before early]
    push_cast
    linarith
  · have held := bounded.within (later.trans inside.2)
    have refill : bucket.refilled capacity rate now ≤ _ := refilled_le later
    rw [max_eq_right (sub_nonneg.2 late)] at held
    calc (count : K) + bucket.refilled capacity rate now
        ≤ count + bucket.tokens + rate * (now - bucket.last) := by linarith
      _ ≤ capacity + rate * (bucket.last - start) + rate * (now - bucket.last) := by linarith
      _ = capacity + rate * (now - start) := by ring

/-- Every token taken in a window was there when it began or has come back since. -/
theorem Bounded.next (positive : 0 ≤ rate) (room : 0 ≤ capacity) (fits : bucket.Fits capacity)
    (later : bucket.last ≤ now) (bounded : Bounded capacity rate start stop count bucket) :
    Bounded capacity rate start stop
      (count + if start ≤ now ∧ now ≤ stop ∧ bucket.Allows capacity rate now then 1 else 0)
      (bucket.next capacity rate now) := by
  have left := fits.next room positive now
  by_cases inside : start ≤ now ∧ now ≤ stop
  · have held := bounded.refilled positive later inside
    have taken : ((count + if start ≤ now ∧ now ≤ stop ∧ bucket.Allows capacity rate now then 1 else 0 : ℕ) : K) +
        (bucket.next capacity rate now).tokens = count + bucket.refilled capacity rate now := by
      unfold Bucket.next
      simp only [inside, true_and]
      split_ifs <;> push_cast <;> ring
    refine ⟨fun early => absurd inside.1 (not_le.2 early), fun _ => ?_, ?_⟩
    · change _ ≤ capacity + rate * max 0 (now - start)
      rw [taken, max_eq_right (sub_nonneg.2 inside.1)]
      exact held
    · have window : rate * (now - start) ≤ rate * (stop - start) :=
        mul_le_mul_of_nonneg_left (by linarith [inside.2]) positive
      linarith [left.1]
  · have same : (count + if start ≤ now ∧ now ≤ stop ∧ bucket.Allows capacity rate now then 1 else 0) = count := by
      rw [if_neg fun all => inside ⟨all.1, all.2.1⟩, Nat.add_zero]
    rw [same]
    have none (early : now < start) : count = 0 := bounded.before (later.trans_lt early)
    refine ⟨none, fun soon => ?_, bounded.total⟩
    change (count : K) + _ ≤ capacity + rate * max 0 (now - start)
    have refill : 0 ≤ rate * max 0 (now - start) := mul_nonneg positive (le_max_left _ _)
    rw [none (not_le.1 fun late => inside ⟨late, soon⟩)]
    push_cast
    linarith [left.2]

end Bucket
end AotDrone.Lib.TokenBucket
