import AotDrone.Json.Value
import AotDrone.Lib.Binary64
import AotDrone.Lib.Decimal

/-! `json.dumps` with the separators "," and ":": ASCII text, every other code point escaped. -/

namespace AotDrone.Json
open AotDrone.Lib AotDrone.Lib.Double AotDrone.Lib.Decimal

/-- `float.__repr__` of the finite floats: a number of RFC 8259 that reads back as the same float. -/
class FloatRepr [Fpu] where
  token : ℚ → Token
  round_value : ∀ x : ℚ, Fpu.round x = fin x → Fpu.round (value (token x).render) = fin x

/-! ## Strings -/

/-- A 16-bit unit as four hexadecimal digits. -/
def hex4 (unit : Nat) : Text :=
  [Nat.digitChar (unit / 0x1000 % 16), Nat.digitChar (unit / 0x100 % 16), Nat.digitChar (unit / 0x10 % 16),
    Nat.digitChar (unit % 16)]

def escapeUnit (unit : Nat) : Text := '\\' :: 'u' :: hex4 unit

def escapeCodePoint (c : CodePoint) : Text :=
  if c.val = '"'.toNat then ['\\', '"']
  else if c.val = '\\'.toNat then ['\\', '\\']
  else if c.val = '\n'.toNat then ['\\', 'n']
  else if c.val = '\r'.toNat then ['\\', 'r']
  else if c.val = '\t'.toNat then ['\\', 't']
  else if c.val = 0x0C then ['\\', 'f']
  else if c.val = 0x08 then ['\\', 'b']
  else if 0x20 ≤ c.val ∧ c.val ≤ 0x7E then [Char.ofNat c.val]
  else if c.val < 0x10000 then escapeUnit c.val
  else escapeUnit (0xD800 + (c.val - 0x10000) / 0x400) ++ escapeUnit (0xDC00 + (c.val - 0x10000) % 0x400)

def escape (s : PyStr) : Text := s.flatMap escapeCodePoint

def dumpString (s : PyStr) : Text := '"' :: (escape s ++ ['"'])

/-! ## Values -/

/-- Floats with the text that `json.dumps` gives them. -/
class FloatText (φ : Type) where
  text : φ → Text

/-- A `Double` does not tell the sign of a zero; its zero is printed as the positive one. -/
def dumpFloat [Fpu] [FloatRepr] : Double → Text
  | fin x => (FloatRepr.token x).render
  | nan => "NaN".toList
  | inf false => "Infinity".toList
  | inf true => "-Infinity".toList

instance doubleText [Fpu] [FloatRepr] : FloatText Double := ⟨dumpFloat⟩

/-- A float with the sign of its zero. -/
inductive PyFloat where
  | negativeZero
  | double (x : Double)

/-- The float without the sign of its zero. -/
def PyFloat.value : PyFloat → Double
  | negativeZero => 0
  | double x => x

instance PyFloat.floatText [Fpu] [FloatRepr] : FloatText PyFloat where
  text
    | negativeZero => "-0.0".toList
    | double x => dumpFloat x

section dumps
variable {φ : Type} [FloatText φ]

mutual
def dumps : Value φ → Text
  | .null => "null".toList
  | .bool b => if b then "true".toList else "false".toList
  | .int n => (Token.ofInt n).render
  | .float x => FloatText.text x
  | .str s => dumpString s
  | .arr items => '[' :: (dumpItems items ++ [']'])
  | .obj members => '{' :: (dumpMembers members ++ ['}'])
def dumpItems : List (Value φ) → Text
  | [] => []
  | [v] => dumps v
  | v :: w :: rest => dumps v ++ ',' :: dumpItems (w :: rest)
def dumpMembers : Members φ → Text
  | [] => []
  | [(name, v)] => dumpString name ++ ':' :: dumps v
  | (name, v) :: m :: rest => dumpString name ++ ':' :: (dumps v ++ ',' :: dumpMembers (m :: rest))
end

end dumps

/-! ## A representation of the binary64 floats -/

theorem scaled_whole (rounded : ℤ) {place : ℤ} {k places : ℕ} (shift : place = k - places) :
    (rounded : ℚ) * 2 ^ place * 10 ^ places = ((rounded * 2 ^ k * 5 ^ places : ℤ) : ℚ) := by
  have split : (10 : ℚ) ^ places = 2 ^ places * 5 ^ places := by
    rw [← mul_pow]
    norm_num
  have power : (2 : ℚ) ^ place * 2 ^ places = 2 ^ k := by
    rw [shift, zpow_sub₀ (by norm_num), zpow_natCast, zpow_natCast]
    exact div_mul_cancel₀ _ (by positivity)
  calc (rounded : ℚ) * 2 ^ place * 10 ^ places = rounded * (2 ^ place * 2 ^ places) * 5 ^ places := by
        rw [split]
        ring
    _ = ((rounded * 2 ^ k * 5 ^ places : ℤ) : ℚ) := by
        rw [power]
        push_cast
        rfl

def smallestPlaces : ℕ := 1074

/-- Every binary64 value is a whole number of units of 10^-1074. -/
theorem exists_whole {x : ℚ} (kept : Binary64.round x = fin x) : ∃ n : ℤ, x * 10 ^ smallestPlaces = n := by
  have same : Binary64.nearest x = x := by
    unfold Binary64.round at kept
    split_ifs at kept
    exact Double.fin.inj kept
  have place : -(smallestPlaces : ℤ) ≤ Binary64.lastPlace x := le_max_right _ _
  have shift : Binary64.lastPlace x = ((Binary64.lastPlace x + smallestPlaces).toNat : ℤ) - smallestPlaces := by
    omega
  have scaled := scaled_whole (roundHalfEven (x / 2 ^ Binary64.lastPlace x)) shift
  have rounded : (roundHalfEven (x / 2 ^ Binary64.lastPlace x) : ℚ) * 2 ^ Binary64.lastPlace x = x := same
  rw [rounded] at scaled
  exact ⟨_, scaled⟩

/-- Whole numbers below 10^16 as Python prints them; any other value exactly, in units of 10^-1074. -/
def plainToken (x : ℚ) : Token :=
  if x.den = 1 ∧ |x| < 10 ^ 16 then .ofParts x.num (some 0) none
  else .ofParts (x * 10 ^ smallestPlaces).num none (some smallestPlaces)

theorem value_plainToken {x : ℚ} (kept : Binary64.round x = fin x) : value (plainToken x).render = x := by
  unfold plainToken
  split_ifs with plain
  · rw [value_pointZero]
    exact Rat.coe_int_num_of_den_eq_one plain.1
  · obtain ⟨n, whole⟩ := exists_whole kept
    rw [value_scaled, whole, Rat.num_intCast, ← whole]
    exact mul_div_cancel_right₀ x (by positivity)

/-- The value to some decimal places. -/
def decimalsToken (places : ℕ) (x : ℚ) : Token :=
  .ofUnits (decide (x < 0)) (roundHalfEven (|x| * 10 ^ places)).natAbs places

section hardware
attribute [local instance] Binary64.binary64

@[reducible] def plainRepr : FloatRepr where
  token := plainToken
  round_value x kept := by
    rw [value_plainToken kept]
    exact kept

/-- The decimals Python prints: no more than it takes to read the value back. -/
def fewestDecimals (x : ℚ) : Option Token :=
  ((List.range' 1 20).map (decimalsToken · x)).find? fun t => decide (Fpu.round (value t.render) = fin x)

/-- What Python prints from 10^-4 to 10^16; any other value exactly. -/
def decimalToken (x : ℚ) : Token :=
  if x = 0 ∨ 1 / 10 ^ 4 ≤ |x| ∧ |x| < 10 ^ 16 then (fewestDecimals x).getD (plainToken x) else plainToken x

@[reducible] def decimalRepr : FloatRepr where
  token := decimalToken
  round_value x kept := by
    have plain := plainRepr.round_value x kept
    unfold decimalToken
    split_ifs
    · cases found : fewestDecimals x with
      | none => exact plain
      | some t =>
        have reads := List.find?_some found
        exact of_decide_eq_true reads
    · exact plain

end hardware
end AotDrone.Json
