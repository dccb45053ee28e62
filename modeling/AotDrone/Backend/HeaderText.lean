import AotDrone.Json.Loads
import Mathlib.Data.List.DropRight
import Mathlib.Data.List.Infix
import Mathlib.Data.Nat.Digits.Defs

/-! The methods of Python's `str` that read the headers of a request. -/

namespace AotDrone.Backend
open AotDrone.Json

/-- `str.isspace` of one character. -/
def isSpace (c : CodePoint) : Bool :=
  (decide (0x09 ≤ c.val) && decide (c.val ≤ 0x0D)) || (decide (0x1C ≤ c.val) && decide (c.val ≤ 0x20)) ||
    (decide (0x2000 ≤ c.val) && decide (c.val ≤ 0x200A)) ||
      decide (c.val ∈ [0x85, 0xA0, 0x1680, 0x2028, 0x2029, 0x202F, 0x205F, 0x3000])

def stripBy (space : CodePoint → Bool) (s : PyStr) : PyStr := (s.dropWhile space).rdropWhile space

/-- `str.strip` -/
def strip (s : PyStr) : PyStr := stripBy isSpace s

/-- Outside ASCII two characters have an ASCII letter in their lower case. The others are kept: the lower case is
only compared with ASCII texts. -/
def lowerChar (c : CodePoint) : PyStr :=
  if 'A'.toNat ≤ c.val ∧ c.val ≤ 'Z'.toNat then [Fin.ofNat 0x110000 (c.val + 0x20)]
  else if c.val = 0x0130 then [0x69, 0x0307]
  else if c.val = 0x212A then [0x6B]
  else [c]

/-- `str.lower` -/
def lower (s : PyStr) : PyStr := s.flatMap lowerChar

/-- The zeros of the decimal digits of Unicode. -/
def decimalZeros : List Nat :=
  [0x30, 0x660, 0x6F0, 0x7C0, 0x966, 0x9E6, 0xA66, 0xAE6, 0xB66, 0xBE6, 0xC66, 0xCE6, 0xD66, 0xDE6, 0xE50, 0xED0, 0xF20,
    0x1040, 0x1090, 0x17E0, 0x1810, 0x1946, 0x19D0, 0x1A80, 0x1A90, 0x1B50, 0x1BB0, 0x1C40, 0x1C50, 0xA620, 0xA8D0,
    0xA900, 0xA9D0, 0xA9F0, 0xAA50, 0xABF0, 0xFF10, 0x104A0, 0x10D30, 0x11066, 0x110F0, 0x11136, 0x111D0, 0x112F0,
    0x11450, 0x114D0, 0x11650, 0x116C0, 0x11730, 0x118E0, 0x11950, 0x11C50, 0x11D50, 0x11DA0, 0x16A60, 0x16AC0, 0x16B50,
    0x1D7CE, 0x1D7D8, 0x1D7E2, 0x1D7EC, 0x1D7F6, 0x1E140, 0x1E2F0, 0x1E950, 0x1FBF0]

def decimal (c : CodePoint) : Option Nat :=
  (decimalZeros.find? fun first => decide (first ≤ c.val) && decide (c.val ≤ first + 9)).map fun first => c.val - first

/-- Digits, with a single underscore at most between two of them. -/
def readDigits : PyStr → Option (List Nat)
  | [] => none
  | [c] => (decimal c).map fun digit => [digit]
  | c :: separator :: rest => do
    let digit ← decimal c
    let digits ← if separator.is '_' then readDigits rest else readDigits (separator :: rest)
    some (digit :: digits)

/-- `sys.int_info.default_max_str_digits` -/
def maxStrDigits : Nat := 4300

def readMagnitude (s : PyStr) : Option Nat := do
  let digits ← readDigits s
  if maxStrDigits < digits.length then none else some (Nat.ofDigits 10 digits.reverse)

/-- `int` leaves the separators of ASCII where they are. -/
def isIntSpace (c : CodePoint) : Bool := isSpace c && !(decide (0x1C ≤ c.val) && decide (c.val ≤ 0x1F))

/-- `int` of a text, which raises a `ValueError` for one that is no number. -/
def pyInt (s : PyStr) : Option ℤ :=
  match stripBy isIntSpace s with
  | [] => none
  | sign :: rest =>
    if sign.is '-' then (readMagnitude rest).map fun magnitude => -magnitude
    else if sign.is '+' then (readMagnitude rest).map fun magnitude => magnitude
    else (readMagnitude (sign :: rest)).map fun magnitude => magnitude

/-- The parts of `str.split(",")`. -/
def splitCommas (s : PyStr) : List PyStr := s.splitOnP fun c => c.is ','

/-- `part in text` -/
def contains (part text : PyStr) : Bool := decide (part <:+: text)

example : pyInt (pyStr " +1_0٣ ") = some 103 := by decide

end AotDrone.Backend
