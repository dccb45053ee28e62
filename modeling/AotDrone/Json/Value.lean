import AotDrone.Lib.Double

/-! The values `json.loads` returns, as Python holds them: integers of any size, floats that may
be non-finite, strings of code points that may be lone surrogates. -/

namespace AotDrone.Json
open AotDrone.Lib AotDrone.Lib.Double

abbrev CodePoint := Fin 0x110000

instance CodePoint.neZero : NeZero 0x110000 := ⟨by decide⟩

abbrev PyStr := List CodePoint

def pyStr (s : String) : PyStr := s.toList.map fun c => Fin.ofNat 0x110000 c.toNat

/-- The floats may be those of `φ`. -/
inductive Value (φ : Type := Double) where
  | null
  | bool (value : Bool)
  | int (value : ℤ)
  | float (value : φ)
  | str (value : PyStr)
  | arr (items : List (Value φ))
  | obj (members : List (PyStr × Value φ))

abbrev Members (φ : Type := Double) := List (PyStr × Value φ)

namespace Members

/-- `name in payload` -/
def has (members : Members) (name : String) : Bool := (members.lookup (pyStr name)).isSome

/-- `payload.get(name)` -/
def get (members : Members) (name : String) : Value := (members.lookup (pyStr name)).getD .null

/-- `payload[name] = value`: a name that is there keeps its place. -/
def set (members : Members) (name : PyStr) (value : Value) : Members :=
  if members.any (·.1 = name) then members.map fun m => if m.1 = name then (name, value) else m
  else members ++ [(name, value)]

end Members

namespace Value

/-- The number a value is, before any conversion. -/
def number : Value → Option Double
  | int n => some (fin n)
  | float x => some x
  | _ => none

/-- The values `isinstance(value, (int | float))` admits once bool is ruled out. -/
def IsNumber (v : Value) : Prop := v.number.isSome = true

def IsInt (v : Value) : Prop := ∃ n, v = int n

instance : DecidablePred IsInt := fun v =>
  match v with
  | int n => .isTrue ⟨n, rfl⟩
  | null | bool _ | float _ | str _ | arr _ | obj _ => .isFalse (by rintro ⟨_, eq⟩; cases eq)

instance : DecidablePred IsNumber := fun v => inferInstanceAs (Decidable (v.number.isSome = true))

variable [Fpu]

/-- An integer `float()` cannot hold. -/
def TooLarge : Value → Prop
  | int n => (Fpu.round n).isFinite = false
  | _ => False

instance : DecidablePred TooLarge := fun v =>
  match v with
  | int n => inferInstanceAs (Decidable ((Fpu.round n).isFinite = false))
  | null | bool _ | float _ | str _ | arr _ | obj _ => .isFalse id

/-- A finite number that `float()` keeps as it is. -/
def KeptByFloat : Value → Prop
  | int n => Fpu.round n = fin n
  | float x => x.isFinite = true
  | _ => False

instance : DecidablePred KeptByFloat := fun v =>
  match v with
  | int n => inferInstanceAs (Decidable (Fpu.round n = fin n))
  | float x => inferInstanceAs (Decidable (x.isFinite = true))
  | null | bool _ | str _ | arr _ | obj _ => .isFalse id

/-- Two ways a number of a payload can be read: as it stands, and through `float()`. -/
def Exactly (v : Value) (x : Double) : Prop := v.number = some x

def ByFloat (v : Value) (x : Double) : Prop :=
  (∃ n : ℤ, v = int n ∧ Fpu.round n = x ∧ x.isFinite = true) ∨ v = float x

theorem byFloat_of_kept {v : Value} (kept : v.KeptByFloat) : ∃ q, v.number = some (fin q) ∧ v.ByFloat (fin q) := by
  cases v with
  | int n => exact ⟨n, rfl, .inl ⟨n, rfl, kept, rfl⟩⟩
  | float x =>
    obtain ⟨q, rfl⟩ := isFinite_iff.1 kept
    exact ⟨q, rfl, .inr rfl⟩
  | null | bool _ | str _ | arr _ | obj _ => exact kept.elim

theorem byFloat_number {v : Value} {x : Double} (read : v.ByFloat x) : v.IsNumber ∧ ¬ v.TooLarge := by
  rcases read with ⟨n, rfl, rounded, finite⟩ | rfl
  · refine ⟨rfl, ?_⟩
    intro large
    rw [TooLarge, rounded, finite] at large
    cases large
  · exact ⟨rfl, id⟩

theorem exists_byFloat {v : Value} (number : v.IsNumber) (fits : ¬ v.TooLarge) : ∃ x, v.ByFloat x := by
  cases v with
  | int n => exact ⟨_, .inl ⟨n, rfl, rfl, by simpa [TooLarge] using fits⟩⟩
  | float x => exact ⟨x, .inr rfl⟩
  | null | bool _ | str _ | arr _ | obj _ => cases number

/-- Reading through `float()` changes nothing exactly when the number is kept. -/
theorem kept_iff {v : Value} {x y : Double} (exactly : v.Exactly x) (byFloat : v.ByFloat y) :
    v.KeptByFloat ↔ x = y ∧ x.isFinite = true := by
  rcases byFloat with ⟨n, rfl, rounded, _⟩ | rfl
  · cases exactly
    simp only [KeptByFloat, rounded, isFinite_fin, and_true]
    exact eq_comm
  · cases exactly
    simp only [KeptByFloat, true_and]

/-- Whatever rounds into a range with small whole bounds lies in it and is not rounded at all. -/
theorem round_in_range {lower upper : ℤ} (low : |lower| < 2 ^ 53) (high : |upper| < 2 ^ 53) {n : ℤ}
    (above : fin lower ≤ Fpu.round n) (below : Fpu.round n ≤ fin upper) : Fpu.round n = fin n := by
  have left : lower ≤ n := by
    by_contra outside
    have less : (n : ℚ) ≤ ((lower - 1 : ℤ) : ℚ) := by exact_mod_cast (by omega : n ≤ lower - 1)
    have rounded := Fpu.round_int (lower - 1) (by rw [abs_le]; rw [abs_lt] at low; omega)
    have chain := Double.le_trans above (rounded ▸ Fpu.round_mono less)
    rw [fin_le_fin] at chain
    have : lower ≤ lower - 1 := by exact_mod_cast chain
    omega
  have right : n ≤ upper := by
    by_contra outside
    have more : ((upper + 1 : ℤ) : ℚ) ≤ n := by exact_mod_cast (by omega : upper + 1 ≤ n)
    have rounded := Fpu.round_int (upper + 1) (by rw [abs_le]; rw [abs_lt] at high; omega)
    have chain := Double.le_trans (rounded ▸ Fpu.round_mono more) below
    rw [fin_le_fin] at chain
    have : upper + 1 ≤ upper := by exact_mod_cast chain
    omega
  apply Fpu.round_int
  rw [abs_lt] at low high
  rw [abs_le]
  omega

/-- Inside such a range both readings agree. -/
theorem exactly_iff_byFloat {lower upper : ℤ} (low : |lower| < 2 ^ 53) (high : |upper| < 2 ^ 53)
    {v : Value} {x : Double} (above : fin lower ≤ x) (below : x ≤ fin upper) :
    v.Exactly x ↔ v.ByFloat x := by
  constructor
  · intro exactly
    cases v with
    | int n =>
      obtain rfl : fin n = x := by simpa [Exactly, number] using exactly
      rw [fin_le_fin] at above below
      have left : lower ≤ n := by exact_mod_cast above
      have right : n ≤ upper := by exact_mod_cast below
      refine .inl ⟨n, rfl, Fpu.round_int n ?_, rfl⟩
      rw [abs_lt] at low high
      rw [abs_le]
      omega
    | float y =>
      obtain rfl : y = x := by simpa [Exactly, number] using exactly
      exact .inr rfl
    | null | bool _ | str _ | arr _ | obj _ => cases exactly
  · rintro (⟨n, rfl, rfl, _⟩ | rfl)
    · rw [round_in_range low high above below]
      rfl
    · rfl

end Value
end AotDrone.Json
