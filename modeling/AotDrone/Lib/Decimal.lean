import AotDrone.Lib.Double
import Mathlib.Tactic.IntervalCases
import Mathlib.Tactic.Ring
import Mathlib.Algebra.Order.Field.Power

/-! Decimal number tokens, their exact value, and the C conversion of a token to a double. -/

namespace AotDrone.Lib

/-- Bytes read as characters. -/
abbrev Text := List Char

theorem toNat_charOfNat {n : Nat} (small : n < 0xD800) : (Char.ofNat n).toNat = n := by
  rw [Char.ofNat, dif_pos (.inl small)]
  rfl

namespace Decimal
open Double

def splitSign : Text → Bool × Text
  | '-' :: rest => (true, rest)
  | '+' :: rest => (false, rest)
  | text => (false, text)

/-- The fraction digits after a point, and what follows them. -/
def splitFraction : Text → Text × Text
  | '.' :: rest => (rest.takeWhile Char.isDigit, rest.dropWhile Char.isDigit)
  | text => ([], text)

def signedExponent (text : Text) : ℤ :=
  let (negative, digits) := splitSign text
  let magnitude : ℤ := Nat.ofDigitChars 10 (digits.takeWhile Char.isDigit) 0
  if negative then -magnitude else magnitude

def exponentValue : Text → ℤ
  | 'e' :: rest => signedExponent rest
  | 'E' :: rest => signedExponent rest
  | _ => 0

/-- The exact value of a decimal token. -/
def value (text : Text) : ℚ :=
  let (negative, body) := splitSign text
  let whole := body.takeWhile Char.isDigit
  let (fraction, tail) := splitFraction (body.dropWhile Char.isDigit)
  let exponent := exponentValue tail - fraction.length
  let magnitude := (Nat.ofDigitChars 10 (whole ++ fraction) 0 : ℚ) * 10 ^ exponent
  if negative then -magnitude else magnitude

def Digits (text : Text) : Prop := text ≠ [] ∧ ∀ c ∈ text, c.isDigit = true

instance (text : Text) : Decidable (Digits text) := inferInstanceAs (Decidable (_ ∧ _))

/-- The parts of an RFC 8259 number. -/
structure Token where
  negative : Bool
  whole : Text
  fraction : Option Text
  /-- The letter, the sign if there is one, the digits. -/
  exponent : Option (Char × Text × Text)
  whole_digits : Digits whole
  /-- No leading zero. -/
  whole_head : whole.length = 1 ∨ whole.head? ≠ some '0'
  fraction_digits : ∀ f ∈ fraction, Digits f
  exponent_digits : ∀ e ∈ exponent, (e.1 = 'e' ∨ e.1 = 'E') ∧
    (e.2.1 = [] ∨ e.2.1 = ['+'] ∨ e.2.1 = ['-']) ∧ Digits e.2.2

namespace Token

def fractionText (t : Token) : Text :=
  match t.fraction with
  | none => []
  | some digits => '.' :: digits

def exponentText (t : Token) : Text :=
  match t.exponent with
  | none => []
  | some (letter, sign, digits) => letter :: (sign ++ digits)

def render (t : Token) : Text :=
  (if t.negative then ['-'] else []) ++ t.whole ++ t.fractionText ++ t.exponentText

end Token

/-- Some digits are worth less than the power of ten with as many zeros. -/
theorem ofDigitChars_lt {digits : Text} (all : ∀ c ∈ digits, c.isDigit = true) :
    Nat.ofDigitChars 10 digits 0 < 10 ^ digits.length := by
  induction digits with
  | nil => simp
  | cons c rest ih =>
    rw [List.forall_mem_cons] at all
    have later := ih all.2
    have digit : c.toNat - '0'.toNat ≤ 9 := by
      have bounds := all.1
      simp only [Char.isDigit, Bool.and_eq_true, decide_eq_true_eq, ge_iff_le, UInt32.le_iff_toNat_le] at bounds
      have nine : '9'.val.toNat = 57 ∧ '0'.toNat = 48 := by decide
      have same : c.toNat = c.val.toNat := rfl
      omega
    rw [Nat.ofDigitChars_cons, Nat.ofDigitChars_eq_ofDigitChars_zero, List.length_cons, pow_succ, Nat.mul_zero, Nat.zero_add]
    have scaled := Nat.mul_le_mul_left (10 ^ rest.length) digit
    omega

theorem toDigits_head (n : Nat) (positive : 0 < n) : (Nat.toDigits 10 n).head? ≠ some '0' := by
  induction n using Nat.strong_induction_on with
  | _ n ih =>
    by_cases small : n < 10
    · rw [Nat.toDigits_of_lt_base small]
      interval_cases n <;> decide
    · rw [Nat.toDigits_of_base_le (by decide) (not_lt.1 small),
        List.head?_append_of_ne_nil _ Nat.toDigits_ne_nil]
      exact ih (n / 10) (Nat.div_lt_self positive (by decide)) (Nat.div_pos (not_lt.1 small) (by decide))

theorem toDigits_digits (n : Nat) : Digits (Nat.toDigits 10 n) :=
  ⟨Nat.toDigits_ne_nil, fun _ member => Nat.isDigit_of_mem_toDigits (by decide) (by decide) member⟩

theorem toDigits_no_leading_zero (n : Nat) :
    (Nat.toDigits 10 n).length = 1 ∨ (Nat.toDigits 10 n).head? ≠ some '0' := by
  rcases Nat.eq_zero_or_pos n with zero | positive
  · left
    rw [zero, Nat.toDigits_zero]
    rfl
  · exact .inr (toDigits_head n positive)

/-- An integer scaled by a power of ten, with an optional fraction and exponent part. -/
def Token.ofParts (n : ℤ) (fraction : Option Nat) (exponent : Option Nat) : Token where
  negative := decide (n < 0)
  whole := Nat.toDigits 10 n.natAbs
  fraction := fraction.map (Nat.toDigits 10)
  exponent := exponent.map fun k => ('e', ['-'], Nat.toDigits 10 k)
  whole_digits := toDigits_digits _
  whole_head := toDigits_no_leading_zero _
  fraction_digits := by
    intro f member
    obtain ⟨k, -, rfl⟩ := Option.map_eq_some_iff.1 member
    exact toDigits_digits k
  exponent_digits := by
    intro e member
    obtain ⟨k, -, rfl⟩ := Option.map_eq_some_iff.1 member
    exact ⟨.inl rfl, .inr (.inr rfl), toDigits_digits k⟩

/-- What Python and JSON print for an integer. -/
abbrev Token.ofInt (n : ℤ) : Token := .ofParts n none none

/-- A number of units of 10^-places, with that many decimals. -/
def Token.ofUnits (negative : Bool) (units places : ℕ) : Token where
  negative := negative
  whole := Nat.toDigits 10 (units / 10 ^ places)
  fraction :=
    let digits := Nat.toDigits 10 (units % 10 ^ places)
    some (List.replicate (places - digits.length) '0' ++ digits)
  exponent := none
  whole_digits := toDigits_digits _
  whole_head := toDigits_no_leading_zero _
  fraction_digits := by
    intro f member
    cases member
    refine ⟨List.append_ne_nil_of_right_ne_nil _ Nat.toDigits_ne_nil, ?_⟩
    intro c member
    rcases List.mem_append.1 member with zero | digit
    · rw [List.eq_of_mem_replicate zero]
      rfl
    · exact (toDigits_digits _).2 c digit
  exponent_digits := by
    intro e member
    cases member

theorem takeWhile_stops {α : Type*} {p : α → Bool} {xs rest : List α} (all : ∀ x ∈ xs, p x = true)
    (stop : ∀ x ∈ rest.head?, p x = false) : (xs ++ rest).takeWhile p = xs ∧ (xs ++ rest).dropWhile p = rest := by
  rw [List.takeWhile_append_of_pos all, List.dropWhile_append_of_pos all]
  cases rest with
  | nil => exact ⟨List.append_nil xs, rfl⟩
  | cons x rest =>
    have plain := stop x rfl
    simp [plain]

theorem Digits.head {digits : Text} (h : Digits digits) (rest : Text) :
    ∃ d tail, digits ++ rest = d :: tail ∧ d.isDigit = true := by
  obtain ⟨nonempty, all⟩ := h
  cases digits with
  | nil => exact absurd rfl nonempty
  | cons d tail => exact ⟨d, tail ++ rest, rfl, all d (List.mem_cons_self ..)⟩

theorem splitSign_digit {d : Char} {tail : Text} (digit : d.isDigit = true) :
    splitSign (d :: tail) = (false, d :: tail) := by
  unfold splitSign
  split
  · next same => cases same; exact absurd digit (by decide)
  · next same => cases same; exact absurd digit (by decide)
  · rfl

theorem splitSign_digits {digits : Text} (h : Digits digits) (rest : Text) :
    splitSign (digits ++ rest) = (false, digits ++ rest) := by
  obtain ⟨d, tail, cons, digit⟩ := h.head rest
  rw [cons, splitSign_digit digit]

def Token.exponentPart (t : Token) : ℤ :=
  match t.exponent with
  | none => 0
  | some (_, sign, digits) =>
      if sign = ['-'] then -(Nat.ofDigitChars 10 digits 0 : ℤ) else Nat.ofDigitChars 10 digits 0

/-- The digits before and after the point, read as one number. -/
def Token.mantissa (t : Token) : Nat := Nat.ofDigitChars 10 (t.whole ++ t.fraction.getD []) 0

theorem exponentText_head (t : Token) : ∀ c ∈ t.exponentText.head?, c.isDigit = false := by
  intro c member
  unfold Token.exponentText at member
  cases shape : t.exponent with
  | none => simp [shape] at member
  | some e =>
    obtain ⟨letter, sign, digits⟩ := e
    have letters := (t.exponent_digits _ shape).1
    simp only [shape, List.head?_cons, Option.mem_def, Option.some.injEq] at member
    subst member
    rcases letters with rfl | rfl <;> decide

theorem exponentValue_text (t : Token) : exponentValue t.exponentText = t.exponentPart := by
  unfold Token.exponentText Token.exponentPart
  cases shape : t.exponent with
  | none => rfl
  | some e =>
    obtain ⟨letter, sign, digits⟩ := e
    obtain ⟨letters, signs, all⟩ := t.exponent_digits _ shape
    have read : (digits ++ []).takeWhile Char.isDigit = digits := (takeWhile_stops all.2 (by simp)).1
    rw [List.append_nil] at read
    have signed : signedExponent (sign ++ digits) =
        if sign = ['-'] then -(Nat.ofDigitChars 10 digits 0 : ℤ) else Nat.ofDigitChars 10 digits 0 := by
      rcases signs with rfl | rfl | rfl
      · have plain := splitSign_digits all []
        rw [List.append_nil] at plain
        simp only [signedExponent, List.nil_append, plain, read]
        rfl
      · simp only [signedExponent, List.cons_append, List.nil_append, splitSign, read]
        rfl
      · simp only [signedExponent, List.cons_append, List.nil_append, splitSign, read, ↓reduceIte]
    rcases letters with rfl | rfl
    · exact signed
    · exact signed

theorem value_render (t : Token) :
    value t.render = (if t.negative then -1 else 1) * (t.mantissa : ℚ) *
      10 ^ (t.exponentPart - (t.fraction.getD []).length) := by
  have tailHead : ∀ c ∈ (t.fractionText ++ t.exponentText).head?, c.isDigit = false := by
    intro c member
    unfold Token.fractionText at member
    cases shape : t.fraction with
    | none =>
      simp only [shape, List.nil_append] at member
      exact exponentText_head t c member
    | some digits =>
      simp only [shape, List.cons_append, List.head?_cons, Option.mem_def, Option.some.injEq] at member
      subst member
      decide
  have split : splitSign t.render = (t.negative, t.whole ++ (t.fractionText ++ t.exponentText)) := by
    unfold Token.render
    cases t.negative with
    | true => simp [splitSign]
    | false =>
      simp only [Bool.false_eq_true, ↓reduceIte, List.nil_append, List.append_assoc]
      exact splitSign_digits t.whole_digits _
  obtain ⟨taken, dropped⟩ := takeWhile_stops t.whole_digits.2 tailHead
  have fractionSplit : splitFraction (t.fractionText ++ t.exponentText) =
      (t.fraction.getD [], t.exponentText) := by
    unfold Token.fractionText
    cases shape : t.fraction with
    | none =>
      simp only [List.nil_append, Option.getD_none]
      unfold Token.exponentText
      cases other : t.exponent with
      | none => rfl
      | some e =>
        obtain ⟨letter, sign, digits⟩ := e
        rcases (t.exponent_digits _ other).1 with same | same
        · change letter = 'e' at same
          subst same
          rfl
        · change letter = 'E' at same
          subst same
          rfl
    | some digits =>
      obtain ⟨inside, after⟩ := takeWhile_stops (t.fraction_digits _ shape).2 (exponentText_head t)
      simp only [List.cons_append, splitFraction, inside, after, Option.getD_some]
  unfold value
  simp only [split, taken, dropped, fractionSplit, exponentValue_text]
  unfold Token.mantissa
  cases t.negative <;> simp

theorem signed_natAbs (n : ℤ) (fraction exponent : Option Nat) :
    (if (Token.ofParts n fraction exponent).negative then -1 else 1) * (n.natAbs : ℚ) = n := by
  simp only [Token.ofParts, decide_eq_true_eq]
  split_ifs with negative
  · rw [neg_one_mul, ← Int.cast_natCast, Int.ofNat_natAbs_of_nonpos negative.le]
    push_cast
    ring
  · rw [one_mul, ← Int.cast_natCast, Int.natAbs_of_nonneg (not_lt.1 negative)]

theorem mantissa_ofParts (n : ℤ) (exponent : Option Nat) : (Token.ofParts n none exponent).mantissa = n.natAbs := by
  simp only [Token.mantissa, Token.ofParts, Option.map_none, Option.getD_none, List.append_nil]
  exact Nat.ofDigitChars_toDigits (by decide) (by decide)

theorem value_ofInt (n : ℤ) : value (Token.ofInt n).render = n := by
  rw [value_render, mantissa_ofParts, signed_natAbs]
  simp [Token.exponentPart, Token.ofParts]

/-- An integer with the exponent `-k`. -/
theorem value_scaled (n : ℤ) (k : Nat) : value (Token.ofParts n none (some k)).render = n / 10 ^ k := by
  rw [value_render, mantissa_ofParts, signed_natAbs]
  simp [Token.exponentPart, Token.ofParts, div_eq_mul_inv]

/-- An integer with a zero behind the point. -/
theorem value_pointZero (n : ℤ) : value (Token.ofParts n (some 0) none).render = n := by
  have digits : (Token.ofParts n (some 0) none).mantissa = n.natAbs * 10 := by
    simp only [Token.mantissa, Token.ofParts, Option.map_some, Option.getD_some, Nat.ofDigitChars_append,
      Nat.ofDigitChars_ten_toDigits, Nat.toDigits_zero]
    simp [Nat.ofDigitChars_cons, mul_comm]
  rw [value_render, digits, Nat.cast_mul, ← mul_assoc, signed_natAbs]
  simp [Token.exponentPart, Token.ofParts]

section units
variable (negative : Bool) (units : ℕ) {places : ℕ}

theorem fraction_ofUnits (some_place : 0 < places) :
    ∃ digits, (Token.ofUnits negative units places).fraction = some digits ∧ digits.length = places ∧
      Nat.ofDigitChars 10 digits 0 = units % 10 ^ places := by
  have small : (Nat.toDigits 10 (units % 10 ^ places)).length ≤ places :=
    (Nat.length_toDigits_le_iff (by decide) some_place).2 (Nat.mod_lt _ (by positivity))
  refine ⟨_, rfl, ?_, ?_⟩
  · rw [List.length_append, List.length_replicate]
    omega
  · rw [Nat.ofDigitChars_append, Nat.ofDigitChars_replicate_zero, mul_zero, Nat.ofDigitChars_ten_toDigits]

theorem value_ofUnits (some_place : 0 < places) :
    value (Token.ofUnits negative units places).render = (if negative then -1 else 1) * (units : ℚ) / 10 ^ places := by
  obtain ⟨digits, fraction, length, last⟩ := fraction_ofUnits negative units some_place
  have all : (Token.ofUnits negative units places).mantissa = units := by
    rw [Token.mantissa, fraction, Option.getD_some, Nat.ofDigitChars_append, Nat.ofDigitChars_eq_ofDigitChars_zero, length,
      last]
    change 10 ^ places * Nat.ofDigitChars 10 (Nat.toDigits 10 (units / 10 ^ places)) 0 + _ = _
    rw [Nat.ofDigitChars_ten_toDigits]
    exact Nat.div_add_mod units (10 ^ places)
  rw [value_render, all, fraction, Option.getD_some, length]
  have power : (10 : ℚ) ^ ((0 : ℤ) - places) = (10 ^ places)⁻¹ := by
    rw [zero_sub, zpow_neg, zpow_natCast]
  rw [div_eq_mul_inv, ← power]
  rfl

theorem length_ofUnits (some_place : 0 < places) :
    (Token.ofUnits negative units places).render.length =
      (if negative then 1 else 0) + (Nat.toDigits 10 (units / 10 ^ places)).length + 1 + places := by
  obtain ⟨digits, fraction, length, -⟩ := fraction_ofUnits negative units some_place
  rw [Token.render, Token.fractionText, fraction]
  cases negative <;> simp [Token.ofUnits, Token.exponentText, length] <;> omega

end units

end Decimal

open Double in
/-- What the C standard leaves to the library: whether `strtod` sets `errno` for a value
below the smallest normal one. -/
class Libc where
  reportsUnderflow : ℚ → Bool

/-- A C library that reports every tiny result. -/
@[reducible] def Libc.strict : Libc where
  reportsUnderflow _ := true

namespace Double

def smallestNormal : ℚ := 2 ^ (-1022 : ℤ)

/-- `strtod` sets `errno` on a value this small. -/
def Underflows [Libc] (exactValue : ℚ) : Prop :=
  exactValue ≠ 0 ∧ |exactValue| < smallestNormal ∧ Libc.reportsUnderflow exactValue = true

instance [Libc] (exactValue : ℚ) : Decidable (Underflows exactValue) :=
  inferInstanceAs (Decidable (_ ∧ _ ∧ _))

/-- No integer is too small for a normal double. -/
theorem not_underflows_int [Libc] (n : ℤ) : ¬ Underflows (n : ℚ) := by
  rintro ⟨nonzero, small, -⟩
  have whole : (1 : ℚ) ≤ |(n : ℚ)| := by exact_mod_cast Int.one_le_abs (by exact_mod_cast nonzero)
  have normal : smallestNormal ≤ 1 := zpow_le_one_of_nonpos₀ (by norm_num) (by norm_num)
  linarith

/-- C `strtod` of a whole decimal token; `none` when `errno` is set. -/
def strtod [Fpu] [Libc] (token : Text) : Option Double :=
  let exactValue := Decimal.value token
  if Underflows exactValue then none
  else
    match Fpu.round exactValue with
    | fin value => some (fin value)
    | _ => none

end Double
end AotDrone.Lib
