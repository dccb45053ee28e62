import Mathlib.Algebra.Order.Field.Rat
import Mathlib.Algebra.Order.Ring.Abs
import Mathlib.Data.Rat.Floor
import Mathlib.Tactic.Linarith
import Mathlib.Tactic.NormNum

/-! Floating-point values as rationals with the special values beside them. The rounding of
every operation is a parameter, so a program can be read with the arithmetic of its machine
or with exact rationals. Signed zeros are identified. -/

namespace AotDrone.Lib

inductive Double where
  | nan
  | inf (negative : Bool)
  | fin (value : ℚ)
  deriving DecidableEq

namespace Double

/-- The IEEE order: `nan` is below nothing and above nothing. -/
def blt : Double → Double → Bool
  | nan, _ => false
  | _, nan => false
  | inf a, inf b => a && !b
  | inf a, fin _ => a
  | fin _, inf b => !b
  | fin a, fin b => decide (a < b)

def ble : Double → Double → Bool
  | nan, _ => false
  | _, nan => false
  | inf a, inf b => a || !b
  | inf a, fin _ => a
  | fin _, inf b => !b
  | fin a, fin b => decide (a ≤ b)

instance : LT Double := ⟨fun a b => blt a b = true⟩
instance : LE Double := ⟨fun a b => ble a b = true⟩
instance : DecidableLT Double := fun a b => inferInstanceAs (Decidable (blt a b = true))
instance : DecidableLE Double := fun a b => inferInstanceAs (Decidable (ble a b = true))

instance (n : Nat) : OfNat Double n := ⟨fin (OfNat.ofNat n)⟩

@[simp] theorem fin_lt_fin {a b : ℚ} : fin a < fin b ↔ a < b := by
  change decide (a < b) = true ↔ a < b
  exact decide_eq_true_iff

@[simp] theorem fin_le_fin {a b : ℚ} : fin a ≤ fin b ↔ a ≤ b := by
  change decide (a ≤ b) = true ↔ a ≤ b
  exact decide_eq_true_iff

@[simp] theorem not_nan_lt {a : Double} : ¬ nan < a := Bool.false_ne_true
@[simp] theorem not_nan_le {a : Double} : ¬ nan ≤ a := Bool.false_ne_true

@[simp] theorem not_lt_nan {a : Double} : ¬ a < nan := by cases a <;> exact Bool.false_ne_true
@[simp] theorem not_le_nan {a : Double} : ¬ a ≤ nan := by cases a <;> exact Bool.false_ne_true

@[simp] theorem fin_lt_inf {a : ℚ} {b : Bool} : fin a < inf b ↔ b = false := by
  change (!b) = true ↔ _
  simp

@[simp] theorem fin_le_inf {a : ℚ} {b : Bool} : fin a ≤ inf b ↔ b = false := by
  change (!b) = true ↔ _
  simp

@[simp] theorem inf_lt_fin {a : Bool} {b : ℚ} : inf a < fin b ↔ a = true := Iff.rfl
@[simp] theorem inf_le_fin {a : Bool} {b : ℚ} : inf a ≤ fin b ↔ a = true := Iff.rfl

protected theorem le_trans {a b c : Double} (first : a ≤ b) (second : b ≤ c) : a ≤ c := by
  change ble a c = true
  change ble a b = true at first
  change ble b c = true at second
  cases a <;> cases b <;> cases c <;> simp only [ble, decide_eq_true_eq] at first second ⊢ <;>
    first | exact first.trans second | grind

protected theorem lt_of_le_of_lt {a b c : Double} (first : a ≤ b) (second : b < c) : a < c := by
  change blt a c = true
  change ble a b = true at first
  change blt b c = true at second
  cases a <;> cases b <;> cases c <;> simp only [ble, blt, decide_eq_true_eq] at first second ⊢ <;>
    first | exact first.trans_lt second | grind

protected theorem not_lt_of_le {a b : Double} (below : a ≤ b) : ¬ b < a := by
  change ¬ blt b a = true
  change ble a b = true at below
  cases a <;> cases b <;> simp only [ble, blt, decide_eq_true_eq, not_lt] at below ⊢ <;>
    first | exact below | grind

protected theorem le_of_lt {a b : Double} (below : a < b) : a ≤ b := by
  change ble a b = true
  change blt a b = true at below
  cases a <;> cases b <;> simp only [ble, blt, decide_eq_true_eq] at below ⊢ <;>
    first | exact below.le | grind

protected theorem le_of_not_lt {a b : Double} (left : a ≠ nan) (right : b ≠ nan) (above : ¬ b < a) : a ≤ b := by
  change ¬ blt b a = true at above
  change ble a b = true
  cases a <;> cases b <;> simp only [blt, ble, decide_eq_true_eq, not_lt] at above ⊢ <;>
    first | exact above | grind

protected theorem le_refl {a : Double} (number : a ≠ nan) : a ≤ a :=
  Double.le_of_not_lt number number fun below => Double.not_lt_of_le (Double.le_of_lt below) below

/-- A value between two finite ones is finite. -/
theorem fin_of_between {lower upper : ℚ} {x : Double} (above : fin lower ≤ x) (below : x ≤ fin upper) :
    ∃ q, x = fin q := by
  cases x with
  | nan => exact absurd above not_le_nan
  | inf negative =>
    rw [fin_le_inf] at above
    rw [inf_le_fin, above] at below
    cases below
  | fin q => exact ⟨q, rfl⟩

def isFinite : Double → Bool
  | fin _ => true
  | _ => false

@[simp] theorem isFinite_fin (a : ℚ) : isFinite (fin a) = true := rfl
@[simp] theorem isFinite_nan : isFinite nan = false := rfl
@[simp] theorem isFinite_inf (a : Bool) : isFinite (inf a) = false := rfl

theorem isFinite_iff {a : Double} : a.isFinite = true ↔ ∃ q, a = fin q := by
  cases a <;> simp

def neg : Double → Double
  | nan => nan
  | inf a => inf !a
  | fin a => fin (-a)

instance : Neg Double := ⟨neg⟩

@[simp] theorem neg_fin (a : ℚ) : -fin a = fin (-a) := rfl

def abs : Double → Double
  | nan => nan
  | inf _ => inf false
  | fin a => fin |a|

@[simp] theorem abs_fin (a : ℚ) : abs (fin a) = fin |a| := rfl

/-- C++ `std::clamp`: a `nan` value is returned as it is. -/
def clamp (value lo hi : Double) : Double :=
  if value < lo then lo else if hi < value then hi else value

theorem clamp_fin (value lo hi : ℚ) (ordered : lo ≤ hi) :
    clamp (fin value) (fin lo) (fin hi) = fin (max lo (min value hi)) := by
  simp only [clamp, fin_lt_fin]
  split_ifs with low high
  · rw [max_eq_left (le_trans (min_le_left _ _) low.le)]
  · rw [min_eq_right high.le, max_eq_right ordered]
  · rw [min_eq_left (not_lt.1 high), max_eq_right (not_lt.1 low)]

/-- Python `max(a, b)`: the first of the two unless the second is greater. -/
def pyMax (a b : Double) : Double := if a < b then b else a

/-- Python `min(a, b)`: the first of the two unless the second is less. -/
def pyMin (a b : Double) : Double := if b < a then b else a

theorem pyMax_fin (a b : ℚ) : pyMax (fin a) (fin b) = fin (max a b) := by
  simp only [pyMax, fin_lt_fin]
  split_ifs with less
  · rw [max_eq_right less.le]
  · rw [max_eq_left (not_lt.1 less)]

theorem pyMin_fin (a b : ℚ) : pyMin (fin a) (fin b) = fin (min a b) := by
  simp only [pyMin, fin_lt_fin]
  split_ifs with less
  · rw [min_eq_right less.le]
  · rw [min_eq_left (not_lt.1 less)]

protected theorem number_of_le {a b : Double} (below : a ≤ b) : b ≤ b := by
  apply Double.le_refl
  rintro rfl
  exact not_le_nan below

protected theorem le_pyMax {a : Double} (number : a ≤ a) (b : Double) : a ≤ pyMax a b := by
  unfold pyMax
  split_ifs with below
  · exact Double.le_of_lt below
  · exact number

protected theorem pyMin_le {a : Double} (number : a ≤ a) (b : Double) : pyMin a b ≤ a := by
  unfold pyMin
  split_ifs with below
  · exact Double.le_of_lt below
  · exact number

/-! `Math.max`, `Math.min` and `Math.round` of JavaScript: the first two pass `nan` on, the last takes halves up. -/

def mathMax (a b : Double) : Double := if a = nan ∨ b = nan then nan else pyMax a b

def mathMin (a b : Double) : Double := if a = nan ∨ b = nan then nan else pyMin a b

def mathRound : Double → Double
  | fin x => fin ⌊x + 1 / 2⌋
  | x => x

theorem mathMax_fin (a b : ℚ) : mathMax (fin a) (fin b) = fin (max a b) := by
  rw [mathMax, if_neg (by simp), pyMax_fin]

theorem mathRound_mono {a b : Double} (below : a ≤ b) : mathRound a ≤ mathRound b := by
  cases a with
  | nan => exact absurd below not_nan_le
  | inf negative =>
    cases b with
    | nan => exact absurd below not_le_nan
    | inf other => exact below
    | fin b => exact inf_le_fin.2 (inf_le_fin.1 below)
  | fin a =>
    cases b with
    | nan => exact absurd below not_le_nan
    | inf other => exact fin_le_inf.2 (fin_le_inf.1 below)
    | fin b =>
      have shifted : a + 1 / 2 ≤ b + 1 / 2 := by linarith [fin_le_fin.1 below]
      exact fin_le_fin.2 (Int.cast_le.2 (Int.floor_mono shifted))

theorem mathRound_zero : mathRound 0 = 0 := by
  change fin ⌊(0 : ℚ) + 1 / 2⌋ = fin 0
  norm_num

theorem mathMax_zero_of_nonneg {a : Double} (nonneg : 0 ≤ a) : mathMax 0 a = a := by
  have number : a ≠ nan := by
    rintro rfl
    exact not_le_nan nonneg
  rw [mathMax, if_neg (by simp [number]), pyMax]
  split
  · rfl
  next above =>
    cases a with
    | nan => exact absurd rfl number
    | inf negative =>
      cases fin_le_inf.1 nonneg
      exact absurd (fin_lt_inf.2 rfl) above
    | fin a =>
      have low : (0 : ℚ) ≤ a := fin_le_fin.1 nonneg
      have high : ¬ (0 : ℚ) < a := fun less => above (fin_lt_fin.2 less)
      exact congrArg fin (le_antisymm low (not_lt.1 high))

theorem mathMax_zero_of_nonpos {a : Double} (nonpos : a ≤ 0) : mathMax 0 a = 0 := by
  have number : a ≠ nan := by
    rintro rfl
    exact not_nan_le nonpos
  rw [mathMax, if_neg (by simp [number]), pyMax, if_neg (Double.not_lt_of_le nonpos)]

/-- The fraction is dropped; outside the range of the target type C++ leaves the result open. -/
def truncate : Double → ℤ
  | fin a => if 0 ≤ a then ⌊a⌋ else ⌈a⌉
  | _ => 0

theorem truncate_fin_of_nonneg {a : ℚ} (nonneg : 0 ≤ a) : truncate (fin a) = ⌊a⌋ := if_pos nonneg

/-- C `lround`: halves go away from zero. -/
def lround : Double → ℤ
  | fin a => if 0 ≤ a then ⌊a + 1 / 2⌋ else ⌈a - 1 / 2⌉
  | _ => 0

/-- C `nearbyint` under the default rounding mode: halves go to the even neighbour. -/
def roundHalfEven (a : ℚ) : ℤ :=
  let below := ⌊a⌋
  let rest := a - below
  if rest < 1 / 2 then below
  else if 1 / 2 < rest then below + 1
  else if below % 2 = 0 then below else below + 1

theorem roundHalfEven_intCast (n : ℤ) : roundHalfEven (n : ℚ) = n := by
  simp [roundHalfEven]

theorem floor_le_roundHalfEven (a : ℚ) : ⌊a⌋ ≤ roundHalfEven a := by
  unfold roundHalfEven
  dsimp only
  split_ifs <;> omega

theorem roundHalfEven_le_floor_add_one (a : ℚ) : roundHalfEven a ≤ ⌊a⌋ + 1 := by
  unfold roundHalfEven
  dsimp only
  split_ifs <;> omega

theorem roundHalfEven_near (a : ℚ) : |(roundHalfEven a : ℚ) - a| ≤ 1 / 2 := by
  have below := Int.floor_le a
  have above := Int.lt_floor_add_one a
  unfold roundHalfEven
  dsimp only
  rw [abs_le]
  split_ifs <;> push_cast <;> constructor <;> linarith

theorem roundHalfEven_mono {a b : ℚ} (below : a ≤ b) : roundHalfEven a ≤ roundHalfEven b := by
  rcases (Int.floor_mono below).lt_or_eq with apart | same
  · have upper := roundHalfEven_le_floor_add_one a
    have lower := floor_le_roundHalfEven b
    omega
  · unfold roundHalfEven
    dsimp only
    rw [same]
    split_ifs <;> first | omega | (exfalso; linarith)

/-- The arithmetic of a machine: every result is the exact one, rounded. -/
class Fpu where
  round : ℚ → Double
  round_mono : ∀ {a b : ℚ}, a ≤ b → round a ≤ round b
  round_int : ∀ n : ℤ, |n| ≤ 2 ^ 53 → round n = fin n
  round_idem : ∀ {a b : ℚ}, round a = fin b → round b = fin b

/-- Every result is kept exactly: numbers read as rationals. -/
@[reducible] def exact : Fpu where
  round := fin
  round_mono below := fin_le_fin.2 below
  round_int _ _ := rfl
  round_idem same := same ▸ rfl

section arithmetic
variable [Fpu]

instance : OfScientific Double where
  ofScientific mantissa negative exponent :=
    Fpu.round (OfScientific.ofScientific mantissa negative exponent : ℚ)

/-- A value the arithmetic can hold. -/
def IsDouble : Double → Prop
  | fin a => Fpu.round a = fin a
  | _ => True

theorem isDouble_round (a : ℚ) : IsDouble (Fpu.round a) := by
  cases rounded : Fpu.round a with
  | nan => trivial
  | inf negative => trivial
  | fin b => exact Fpu.round_idem rounded

theorem round_zero : Fpu.round 0 = fin 0 := by simpa using Fpu.round_int 0 (by norm_num)

theorem round_nonneg {a : ℚ} (nonneg : 0 ≤ a) : 0 ≤ Fpu.round a := by
  have below := Fpu.round_mono nonneg
  rwa [round_zero] at below

/-- A finite value between two bounds. -/
def Within (lower upper : ℚ) (x : Double) : Prop := ∃ q, x = fin q ∧ lower ≤ q ∧ q ≤ upper

omit [Fpu] in
theorem within_of_le {lower upper : ℚ} {x : Double} (above : fin lower ≤ x) (below : x ≤ fin upper) :
    Within lower upper x := by
  obtain ⟨q, rfl⟩ := fin_of_between above below
  exact ⟨q, rfl, fin_le_fin.1 above, fin_le_fin.1 below⟩

theorem round_within {lower upper a : ℚ} (low : IsDouble (fin lower)) (high : IsDouble (fin upper)) (above : lower ≤ a)
    (below : a ≤ upper) : Within lower upper (Fpu.round a) := by
  have least := Fpu.round_mono above
  have most := Fpu.round_mono below
  rw [show Fpu.round lower = fin lower from low] at least
  rw [show Fpu.round upper = fin upper from high] at most
  exact within_of_le least most

def add : Double → Double → Double
  | fin a, fin b => Fpu.round (a + b)
  | nan, _ => nan
  | _, nan => nan
  | inf a, inf b => if a = b then inf a else nan
  | inf a, fin _ => inf a
  | fin _, inf b => inf b

def mul : Double → Double → Double
  | fin a, fin b => Fpu.round (a * b)
  | nan, _ => nan
  | _, nan => nan
  | inf a, inf b => inf (a != b)
  | inf a, fin b => if b = 0 then nan else inf (a != decide (b < 0))
  | fin a, inf b => if a = 0 then nan else inf (decide (a < 0) != b)

/-- A quotient by zero takes the sign of the dividend: the zero counts as positive. -/
def div : Double → Double → Double
  | fin a, fin b =>
      if b ≠ 0 then Fpu.round (a / b) else if a = 0 then nan else inf (decide (a < 0))
  | nan, _ => nan
  | _, nan => nan
  | inf _, inf _ => nan
  | inf a, fin b => inf (a != decide (b < 0))
  | fin _, inf _ => 0

instance : Add Double := ⟨add⟩
instance : Sub Double := ⟨fun a b => add a (-b)⟩
instance : Mul Double := ⟨mul⟩
instance : Div Double := ⟨div⟩

/-! Every result is one the arithmetic can hold. -/

theorem isDouble_zero : IsDouble 0 := round_zero

theorem isDouble_one : IsDouble 1 := by
  have one := Fpu.round_int 1 (by norm_num)
  rwa [Int.cast_one] at one

theorem isDouble_mul (a b : Double) : IsDouble (a * b) := by
  change IsDouble (mul a b)
  unfold mul
  split
  · exact isDouble_round _
  · trivial
  · trivial
  · trivial
  · split <;> trivial
  · split <;> trivial

theorem isDouble_add (a b : Double) : IsDouble (a + b) := by
  change IsDouble (add a b)
  unfold add
  split
  · exact isDouble_round _
  · trivial
  · trivial
  · split <;> trivial
  · trivial
  · trivial

theorem isDouble_div (a b : Double) : IsDouble (a / b) := by
  change IsDouble (div a b)
  unfold div
  split
  · split_ifs
    · exact isDouble_round _
    · trivial
    · trivial
  · trivial
  · trivial
  · trivial
  · trivial
  · exact isDouble_zero

/-- A clock does not go back. -/
theorem le_add_fin {a : Double} (nonneg : 0 ≤ a) (double : IsDouble a) {d : ℚ} (forward : 0 ≤ d) : a ≤ a + fin d := by
  cases a with
  | nan => exact absurd nonneg not_le_nan
  | inf negative =>
    cases fin_le_inf.1 nonneg
    rfl
  | fin q =>
    have rounded := Fpu.round_mono (le_add_of_nonneg_right forward : q ≤ q + d)
    rwa [show Fpu.round q = fin q from double] at rounded

/-- What is not negative is at most its double. -/
theorem le_double {a : Double} (nonneg : 0 ≤ a) (double : IsDouble a) : a ≤ a * 2 := by
  cases a with
  | nan => exact absurd nonneg not_le_nan
  | inf negative =>
    cases fin_le_inf.1 nonneg
    rfl
  | fin q =>
    have positive : 0 ≤ q := fin_le_fin.1 nonneg
    have grows : q ≤ q * 2 := by linarith
    have rounded := Fpu.round_mono grows
    rwa [show Fpu.round q = fin q from double] at rounded

theorem inf_mul_fin {negative : Bool} {p : ℚ} (positive : 0 < p) : inf negative * fin p = inf negative := by
  change (if p = 0 then nan else inf (negative != decide (p < 0))) = _
  rw [if_neg positive.ne', decide_eq_false positive.not_gt, Bool.bne_false]

/-- What is not negative keeps the order of two factors. -/
theorem mul_le_mul_fin {base : Double} (nonneg : 0 ≤ base) {p q : ℚ} (positive : 0 < p) (below : p ≤ q) :
    base * fin p ≤ base * fin q := by
  cases base with
  | nan => exact absurd nonneg not_le_nan
  | inf negative =>
    rw [inf_mul_fin positive, inf_mul_fin (positive.trans_le below)]
    exact Double.le_refl nofun
  | fin b => exact Fpu.round_mono (mul_le_mul_of_nonneg_left below (fin_le_fin.1 nonneg))

theorem mul_fin_nonneg {base : Double} (nonneg : 0 ≤ base) {p : ℚ} (positive : 0 < p) : 0 ≤ base * fin p := by
  cases base with
  | nan => exact absurd nonneg not_le_nan
  | inf negative =>
    rw [inf_mul_fin positive]
    exact nonneg
  | fin b => exact round_nonneg (mul_nonneg (fin_le_fin.1 nonneg) positive.le)

theorem mul_fin_nonpos {base : Double} (nonpos : base ≤ 0) {p : ℚ} (positive : 0 < p) : base * fin p ≤ 0 := by
  cases base with
  | nan => exact absurd nonpos not_nan_le
  | inf negative =>
    rw [inf_mul_fin positive]
    exact nonpos
  | fin b =>
    have rounded := Fpu.round_mono (mul_nonpos_of_nonpos_of_nonneg (fin_le_fin.1 nonpos) positive.le)
    rwa [round_zero] at rounded

omit [Fpu] in
theorem pyMax_cases (a b : Double) : pyMax a b = a ∨ pyMax a b = b := by
  unfold pyMax
  split
  · exact .inr rfl
  · exact .inl rfl

omit [Fpu] in
theorem pyMin_cases (a b : Double) : pyMin a b = a ∨ pyMin a b = b := by
  unfold pyMin
  split
  · exact .inr rfl
  · exact .inl rfl

theorem isDouble_pyMax {a b : Double} (left : IsDouble a) (right : IsDouble b) : IsDouble (pyMax a b) := by
  rcases pyMax_cases a b with same | same
  · rwa [same]
  · rwa [same]

theorem isDouble_pyMin {a b : Double} (left : IsDouble a) (right : IsDouble b) : IsDouble (pyMin a b) := by
  rcases pyMin_cases a b with same | same
  · rwa [same]
  · rwa [same]

theorem fin_sub (a b : ℚ) : fin a - fin b = Fpu.round (a - b) := by
  rw [sub_eq_add_neg]
  rfl
theorem fin_div {a b : ℚ} (nonzero : b ≠ 0) : fin a / fin b = Fpu.round (a / b) := if_pos nonzero

/-! Operations that do not make a `nan` of numbers. -/

theorem round_ne_nan (a : ℚ) : Fpu.round a ≠ nan := by
  intro bad
  have same := Fpu.round_mono (le_refl a)
  rw [bad] at same
  exact not_nan_le same

theorem fin_add_ne_nan (a : ℚ) {b : Double} (number : b ≠ nan) : fin a + b ≠ nan := by
  cases b with
  | nan => exact absurd rfl number
  | inf negative => exact nofun
  | fin b => exact round_ne_nan _

theorem fin_sub_ne_nan (a : ℚ) {b : Double} (number : b ≠ nan) : fin a - b ≠ nan := by
  cases b with
  | nan => exact absurd rfl number
  | inf negative => exact nofun
  | fin b => exact round_ne_nan _

theorem add_fin_ne_nan {a : Double} (number : a ≠ nan) (b : ℚ) : a + fin b ≠ nan := by
  cases a with
  | nan => exact absurd rfl number
  | inf negative => exact nofun
  | fin a => exact round_ne_nan _

theorem fin_mul_ne_nan {a : ℚ} (nonzero : a ≠ 0) {b : Double} (number : b ≠ nan) : fin a * b ≠ nan := by
  cases b with
  | nan => exact absurd rfl number
  | inf negative =>
    change (if a = 0 then nan else inf _) ≠ nan
    rw [if_neg nonzero]
    exact nofun
  | fin b => exact round_ne_nan _

theorem mul_fin_ne_nan {a : Double} (number : a ≠ nan) {b : ℚ} (nonzero : b ≠ 0) : a * fin b ≠ nan := by
  cases a with
  | nan => exact absurd rfl number
  | inf negative =>
    change (if b = 0 then nan else inf _) ≠ nan
    rw [if_neg nonzero]
    exact nofun
  | fin a => exact round_ne_nan _

omit [Fpu] in
theorem clamp_within {lower upper : ℚ} (ordered : lower ≤ upper) {value : Double} (number : value ≠ nan) :
    Within lower upper (clamp value (fin lower) (fin upper)) := by
  unfold clamp
  split_ifs with low high
  · exact ⟨lower, rfl, le_rfl, ordered⟩
  · exact ⟨upper, rfl, ordered, le_rfl⟩
  · exact within_of_le (Double.le_of_not_lt nofun number low) (Double.le_of_not_lt number nofun high)

omit [Fpu] in
theorem lt_neg_self {a : Double} : a < -a ↔ a < 0 := by
  cases a with
  | nan => exact iff_of_false not_nan_lt not_nan_lt
  | inf negative => cases negative <;> decide
  | fin a =>
    change fin a < fin (-a) ↔ fin a < fin 0
    rw [fin_lt_fin, fin_lt_fin]
    exact lt_neg_self_iff

/-- A number limited to a symmetric range is a fraction of the limit. -/
theorem clamp_div_ne_nan {limit : Double} (positive : 0 < limit) (q : ℚ) :
    clamp (fin q) (-limit) limit / limit ≠ nan := by
  cases limit with
  | nan => exact absurd positive not_lt_nan
  | inf negative =>
    cases fin_lt_inf.1 positive
    exact nofun
  | fin limit =>
    have above : 0 < limit := fin_lt_fin.1 positive
    rw [neg_fin, clamp_fin _ _ _ (by linarith), fin_div above.ne']
    exact round_ne_nan _

theorem ofScientific_eq (mantissa : Nat) (negative : Bool) (exponent : Nat) :
    (OfScientific.ofScientific mantissa negative exponent : Double) =
      Fpu.round (OfScientific.ofScientific mantissa negative exponent : ℚ) := rfl

end arithmetic

end Double
end AotDrone.Lib
