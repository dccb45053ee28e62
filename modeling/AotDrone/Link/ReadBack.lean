import AotDrone.Fc.MemberScan
import AotDrone.Json.DumpsSyntax

/-! The reader of the flight controller on text that `json.dumps` has written. -/

namespace AotDrone.Link
open AotDrone.Lib AotDrone.Lib.Double AotDrone.Lib.Decimal AotDrone.Json AotDrone.Fc

/-! ## Strings -/

/-- A string body as the reader takes it: an escape is the character after the backslash. -/
def unescape : Text → Text
  | '\\' :: c :: rest => c :: unescape rest
  | c :: rest => c :: unescape rest
  | [] => []

/-- The name under which the reader finds a member. -/
def fcKey (name : PyStr) : Text := unescape (escape name)

theorem unescape_body {raw value : Text} (body : Body raw value) : unescape raw = value := by
  induction body with
  | nil => rfl
  | plain noEscape noQuote _ ih =>
    rw [unescape, ih]
    rintro _ _ rfl
    exact fun _ => noEscape rfl
  | escaped c _ ih => rw [unescape, ih]

theorem escapeUnit_body (unit : Nat) : Body (escapeUnit unit) ('u' :: hex4 unit) := unit_body (unicodeUnit unit)

theorem escapeCodePoint_body (c : CodePoint) : ∃ value, Body (escapeCodePoint c) value := by
  rw [← unitsOf_text]
  exact ⟨_, quoted_body _⟩

/-- A dumped name reads as its key. -/
theorem readQuoted_quotedOf (s : PyStr) : readQuoted (quotedOf s) = fcKey s := by
  rw [fcKey, ← quotedOf_text, unescape_body (quoted_body _)]

/-- A dumped string is closed, and read as its key. -/
theorem escape_body (s : PyStr) : Body (escape s) (fcKey s) := by
  rw [← quotedOf_text, ← readQuoted_quotedOf]
  exact quoted_body _

/-! ## Values -/

section values
variable [Fpu] [FloatRepr]

/-- The number token of a value, where the reader finds one. -/
def numberText : Value → Option Text
  | .int n => some (Token.ofInt n).render
  | .float (fin x) => some (FloatRepr.token x).render
  | _ => none

/-- The reader cannot step over a float that is not finite. -/
def Skippable : Value → Prop
  | .float x => x.isFinite = true
  | _ => True

instance : DecidablePred Skippable := fun v =>
  match v with
  | .float x => inferInstanceAs (Decidable (x.isFinite = true))
  | .null | .bool _ | .int _ | .str _ | .arr _ | .obj _ => .isTrue trivial

/-- A string value, as the reader takes it. -/
def stringText : Value → Option Text
  | .str s => some (fcKey s)
  | _ => none

def boolValue : Value → Option Bool
  | .bool b => some b
  | _ => none

theorem numberToken_value (v : Value) : numberToken v.node = numberText v := by
  cases v with
  | float x => cases x <;> rfl
  | null | bool _ | int _ | str _ | arr _ | obj _ => rfl

theorem readable_value (v : Value) : Readable v.node ↔ Skippable v := by
  cases v with
  | float x =>
    cases x with
    | fin x => exact (iff_of_true trivial rfl)
    | nan | inf _ => exact (iff_of_false id Bool.false_ne_true)
  | null | bool _ | int _ | str _ | arr _ | obj _ => exact Iff.rfl

theorem stringValue_value (v : Value) : stringValue v.node = stringText v := by
  cases v with
  | str s => rw [Value.node, stringValue, readQuoted_quotedOf, stringText]
  | float x => cases x <;> rfl
  | null | bool _ | int _ | arr _ | obj _ => rfl

theorem boolOf_value (v : Value) : boolOf v.node = boolValue v := by
  cases v with
  | float x => cases x <;> rfl
  | null | bool _ | int _ | str _ | arr _ | obj _ => rfl

end values
end AotDrone.Link
