import AotDrone.Json.Value
import AotDrone.Lib.Decimal

/-! The words of JSON text as Python documents them: `bytes.decode("utf-8")`, strings with lone surrogates, and integers of
any size beside the floats. -/

namespace AotDrone.Json
open AotDrone.Lib AotDrone.Lib.Double

abbrev Bytes := List UInt8

def isTail (b : UInt8) : Bool := decide (0x80 ≤ b) && decide (b ≤ 0xBF)

def tailBits (b : UInt8) : Nat := b.toNat - 0x80

/-- Strict UTF-8: no overlong form, no surrogate, nothing above U+10FFFF. -/
def decodeUtf8 : Bytes → Option PyStr
  | [] => some []
  | a :: rest =>
    if a < 0x80 then (decodeUtf8 rest).map (Fin.ofNat 0x110000 a.toNat :: ·)
    else
      match rest with
      | b :: rest =>
        if 0xC2 ≤ a ∧ a ≤ 0xDF ∧ isTail b then
          (decodeUtf8 rest).map (Fin.ofNat 0x110000 ((a.toNat - 0xC0) * 0x40 + tailBits b) :: ·)
        else
          match rest with
          | c :: rest =>
            if 0xE0 ≤ a ∧ a ≤ 0xEF ∧ isTail b ∧ isTail c ∧ (a = 0xE0 → 0xA0 ≤ b) ∧ (a = 0xED → b ≤ 0x9F) then
              (decodeUtf8 rest).map
                (Fin.ofNat 0x110000 ((a.toNat - 0xE0) * 0x1000 + tailBits b * 0x40 + tailBits c) :: ·)
            else
              match rest with
              | d :: rest =>
                if 0xF0 ≤ a ∧ a ≤ 0xF4 ∧ isTail b ∧ isTail c ∧ isTail d ∧ (a = 0xF0 → 0x90 ≤ b) ∧
                    (a = 0xF4 → b ≤ 0x8F) then
                  (decodeUtf8 rest).map
                    (Fin.ofNat 0x110000
                      ((a.toNat - 0xF0) * 0x40000 + tailBits b * 0x1000 + tailBits c * 0x40 + tailBits d) :: ·)
                else none
              | [] => none
          | [] => none
      | [] => none

theorem length_decodeUtf8 {data : Bytes} {decoded : PyStr} (found : decodeUtf8 data = some decoded) :
    decoded.length ≤ data.length := by
  fun_induction decodeUtf8 data generalizing decoded with
  | case1 =>
    cases found
    exact le_rfl
  | case2 a rest _ ih | case3 a _ b rest _ ih | case4 a _ b _ c rest _ ih | case5 a _ b _ c _ d rest _ ih =>
    obtain ⟨later, read, rfl⟩ := Option.map_eq_some_iff.1 found
    have shorter := ih read
    simp only [List.length_cons]
    omega
  | case6 => cases found
  | case7 => cases found
  | case8 => cases found
  | case9 => cases found

def CodePoint.is (c : CodePoint) (char : Char) : Bool := c.val == char.toNat

def CodePoint.isWhitespace (c : CodePoint) : Bool := c.is ' ' || c.is '\t' || c.is '\n' || c.is '\r'

def CodePoint.isDigit (c : CodePoint) : Bool := decide ('0'.toNat ≤ c.val) && decide (c.val ≤ '9'.toNat)

def skipWhitespace (s : PyStr) : PyStr := s.dropWhile CodePoint.isWhitespace

def hexDigit (c : CodePoint) : Option Nat :=
  if '0'.toNat ≤ c.val ∧ c.val ≤ '9'.toNat then some (c.val - '0'.toNat)
  else if 'a'.toNat ≤ c.val ∧ c.val ≤ 'f'.toNat then some (c.val - 'a'.toNat + 10)
  else if 'A'.toNat ≤ c.val ∧ c.val ≤ 'F'.toNat then some (c.val - 'A'.toNat + 10)
  else none

def hexValue (digits : List CodePoint) : Option Nat :=
  digits.foldl (fun acc c => do return (← acc) * 16 + (← hexDigit c)) (some 0)

def simpleEscape (c : CodePoint) : Option CodePoint :=
  if c.is '"' || c.is '\\' || c.is '/' then some c
  else if c.is 'b' then some 8
  else if c.is 'f' then some 12
  else if c.is 'n' then some 10
  else if c.is 'r' then some 13
  else if c.is 't' then some 9
  else none

/-- One element of a string literal: a code point, and whether an escape `\u` gave it. -/
abbrev Unit16 := CodePoint × Bool

/-- The body of a string literal behind its opening quote, up to the closing one. -/
def scanUnits : PyStr → Option (List Unit16 × PyStr)
  | [] => none
  | c :: rest =>
    if c.is '"' then some ([], rest)
    else if c.is '\\' then
      match rest with
      | [] => none
      | e :: rest =>
        if e.is 'u' then
          match rest with
          | h₁ :: h₂ :: h₃ :: h₄ :: rest => do
            let unit ← hexValue [h₁, h₂, h₃, h₄]
            let (units, rest) ← scanUnits rest
            some ((Fin.ofNat 0x110000 unit, true) :: units, rest)
          | _ => none
        else do
          let unit ← simpleEscape e
          let (units, rest) ← scanUnits rest
          some ((unit, false) :: units, rest)
    else if c.val < 0x20 then none
    else do
      let (units, rest) ← scanUnits rest
      some ((c, false) :: units, rest)

/-- An escaped high surrogate and the escaped low one behind it are one code point; a surrogate
without its partner stays. -/
def joinSurrogates : List Unit16 → PyStr
  | (high, true) :: (low, true) :: rest =>
    if 0xD800 ≤ high.val ∧ high.val ≤ 0xDBFF ∧ 0xDC00 ≤ low.val ∧ low.val ≤ 0xDFFF then
      Fin.ofNat 0x110000 (0x10000 + (high.val - 0xD800) * 0x400 + (low.val - 0xDC00)) :: joinSurrogates rest
    else high :: joinSurrogates ((low, true) :: rest)
  | (unit, _) :: rest => unit :: joinSurrogates rest
  | [] => []

def scanString (s : PyStr) : Option (PyStr × PyStr) := (scanUnits s).map fun (units, rest) => (joinSurrogates units, rest)

def asText (s : PyStr) : Text := s.map fun c => Char.ofNat c.val

def scanSign : PyStr → PyStr × PyStr
  | c :: rest => if c.is '-' then ([c], rest) else ([], c :: rest)
  | [] => ([], [])

/-- The whole digits at the head, without a leading zero. -/
def scanWhole : PyStr → PyStr × PyStr
  | c :: rest =>
    if c.is '0' then ([c], rest)
    else ((c :: rest).takeWhile CodePoint.isDigit, (c :: rest).dropWhile CodePoint.isDigit)
  | [] => ([], [])

/-- The fraction part at the head, if there is one: a point and at least one digit. -/
def scanFraction : PyStr → PyStr × PyStr
  | point :: digit :: rest =>
    if point.is '.' ∧ digit.isDigit then
      (point :: (digit :: rest).takeWhile CodePoint.isDigit, (digit :: rest).dropWhile CodePoint.isDigit)
    else ([], point :: digit :: rest)
  | s => ([], s)

/-- The exponent part at the head, if there is one; an `e` without digits is left alone. -/
def scanExponent (s : PyStr) : PyStr × PyStr :=
  match s with
  | e :: rest =>
    let sign := rest.takeWhile fun c => c.is '+' || c.is '-'
    let digits := (rest.drop sign.length).takeWhile CodePoint.isDigit
    if (e.is 'e' || e.is 'E') ∧ sign.length ≤ 1 ∧ digits ≠ [] then
      (e :: (sign ++ digits), rest.drop (sign.length + digits.length))
    else ([], s)
  | [] => ([], [])

variable [Fpu]

/-- A number at the head: an integer, or a float once it has a fraction or an exponent. -/
def scanNumber (s : PyStr) : Option (Value × PyStr) :=
  let (sign, body) := scanSign s
  let (whole, rest) := scanWhole body
  if whole = [] then none
  else
    let (fraction, rest) := scanFraction rest
    let (exponent, rest) := scanExponent rest
    if fraction = [] ∧ exponent = [] then
      let magnitude : ℤ := Nat.ofDigitChars 10 (asText whole) 0
      some (.int (if sign = [] then magnitude else -magnitude), rest)
    else some (.float (Fpu.round (Decimal.value (asText (sign ++ whole ++ fraction ++ exponent)))), rest)

/-! ## What is left behind a word

A word leaves less than it found. -/

omit [Fpu] in
theorem length_skipWhitespace (s : PyStr) : (skipWhitespace s).length ≤ s.length :=
  (List.dropWhile_sublist _).length_le

omit [Fpu] in
theorem scanUnits_shorter {s : PyStr} {units : List Unit16} {rest : PyStr}
    (scanned : scanUnits s = some (units, rest)) : rest.length < s.length := by
  fun_induction scanUnits s generalizing units rest with
  | case1 => cases scanned
  | case2 c tail quote =>
    cases scanned
    exact Nat.lt_succ_self _
  | case3 => cases scanned
  | case4 c _ _ e _ h₁ h₂ h₃ h₄ tail ih =>
    simp only [bind, Option.bind_eq_some_iff] at scanned
    obtain ⟨unit, -, ⟨more, left⟩, scanned, found⟩ := scanned
    cases found
    have := ih scanned
    simp only [List.length_cons]
    omega
  | case5 => cases scanned
  | case6 c _ _ e tail _ ih =>
    simp only [bind, Option.bind_eq_some_iff] at scanned
    obtain ⟨unit, -, ⟨more, left⟩, scanned, found⟩ := scanned
    cases found
    have := ih scanned
    simp only [List.length_cons]
    omega
  | case7 => cases scanned
  | case8 c tail _ _ _ ih =>
    simp only [bind, Option.bind_eq_some_iff] at scanned
    obtain ⟨⟨more, left⟩, scanned, found⟩ := scanned
    cases found
    have := ih scanned
    simp only [List.length_cons]
    omega

omit [Fpu] in
theorem scanString_shorter {s value rest : PyStr} (scanned : scanString s = some (value, rest)) :
    rest.length < s.length := by
  unfold scanString at scanned
  obtain ⟨⟨units, left⟩, scanned, found⟩ := Option.map_eq_some_iff.1 scanned
  cases found
  exact scanUnits_shorter scanned

omit [Fpu] in
theorem scanFraction_length (s : PyStr) : (scanFraction s).2.length ≤ s.length := by
  unfold scanFraction
  split
  · split_ifs
    · exact ((List.dropWhile_sublist _).length_le).trans (Nat.le_succ _)
    · exact le_rfl
  · exact le_rfl

omit [Fpu] in
theorem scanExponent_length (s : PyStr) : (scanExponent s).2.length ≤ s.length := by
  unfold scanExponent
  split
  · dsimp only
    split_ifs
    · simp only [List.length_drop, List.length_cons]
      omega
    · exact le_rfl
  · exact le_rfl

omit [Fpu] in
theorem scanSign_length (s : PyStr) : (scanSign s).2.length ≤ s.length := by
  unfold scanSign
  split
  · split_ifs
    · exact Nat.le_succ _
    · exact le_rfl
  · exact le_rfl

omit [Fpu] in
theorem scanWhole_append (s : PyStr) : (scanWhole s).1 ++ (scanWhole s).2 = s := by
  unfold scanWhole
  split
  · split_ifs
    · rfl
    · exact List.takeWhile_append_dropWhile
  · rfl

theorem scanNumber_shorter {s : PyStr} {value : Value} {rest : PyStr}
    (scanned : scanNumber s = some (value, rest)) : rest.length < s.length := by
  unfold scanNumber at scanned
  dsimp only at scanned
  have signed := scanSign_length s
  have split := congrArg List.length (scanWhole_append (scanSign s).2)
  have fraction := scanFraction_length (scanWhole (scanSign s).2).2
  have exponent := scanExponent_length (scanFraction (scanWhole (scanSign s).2).2).2
  rw [List.length_append] at split
  split_ifs at scanned with empty
  all_goals
    cases scanned
    have := List.length_pos_of_ne_nil empty
    omega

end AotDrone.Json
