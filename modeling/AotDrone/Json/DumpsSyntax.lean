import AotDrone.Json.Dumps
import AotDrone.Json.Syntax

/-! What `json.dumps` writes is JSON text: RFC 8259 where every float is finite. -/

namespace AotDrone.Json
open AotDrone.Lib AotDrone.Lib.Double AotDrone.Lib.Decimal

/-! ## Strings -/

theorem digitChar_hex {d : Nat} (small : d < 16) :
    (Nat.digitChar d).isDigit ∨ Nat.digitChar d ∈ ['a', 'b', 'c', 'd', 'e', 'f', 'A', 'B', 'C', 'D', 'E', 'F'] := by
  interval_cases d <;> decide

/-- The escape of a 16-bit unit. -/
def unicodeUnit (unit : Nat) : StringUnit :=
  .unicode (hex4 unit) rfl (by
    intro d member
    simp only [hex4, List.mem_cons, List.not_mem_nil, or_false] at member
    rcases member with rfl | rfl | rfl | rfl <;> exact digitChar_hex (Nat.mod_lt _ (by decide)))

theorem ofNat_ne {n : Nat} {c : Char} (small : n ≤ 0x7E) (other : n ≠ c.toNat) : Char.ofNat n ≠ c := by
  rintro rfl
  exact other (toNat_charOfNat (by omega)).symm

theorem le_toNat_ofNat {n : Nat} (printable : 0x20 ≤ n) (small : n ≤ 0x7E) : 0x20 ≤ (Char.ofNat n).toNat := by
  rwa [toNat_charOfNat (by omega)]

/-- How `json.dumps` writes a code point. -/
def unitsOf (c : CodePoint) : Quoted :=
  if quote : c.val = '"'.toNat then [.escapedQuote]
  else if backslash : c.val = '\\'.toNat then [.short '\\' (by simp)]
  else if c.val = '\n'.toNat then [.short 'n' (by simp)]
  else if c.val = '\r'.toNat then [.short 'r' (by simp)]
  else if c.val = '\t'.toNat then [.short 't' (by simp)]
  else if c.val = 0x0C then [.short 'f' (by simp)]
  else if c.val = 0x08 then [.short 'b' (by simp)]
  else if ascii : 0x20 ≤ c.val ∧ c.val ≤ 0x7E then
    [.plain (Char.ofNat c.val) (le_toNat_ofNat ascii.1 ascii.2) (ofNat_ne ascii.2 quote) (ofNat_ne ascii.2 backslash)]
  else if c.val < 0x10000 then [unicodeUnit c.val]
  else [unicodeUnit (0xD800 + (c.val - 0x10000) / 0x400), unicodeUnit (0xDC00 + (c.val - 0x10000) % 0x400)]

theorem unitsOf_text (c : CodePoint) : (unitsOf c).text = escapeCodePoint c := by
  unfold unitsOf escapeCodePoint
  simp only [apply_dite Quoted.text, apply_ite Quoted.text]
  rfl

def quotedOf (s : PyStr) : Quoted := s.flatMap unitsOf

theorem quotedOf_text (s : PyStr) : (quotedOf s).text = escape s := by
  induction s with
  | nil => rfl
  | cons c s ih =>
    change ((unitsOf c ++ quotedOf s).flatMap StringUnit.text) = escapeCodePoint c ++ escape s
    rw [List.flatMap_append, ← ih, ← unitsOf_text]
    rfl

/-! ## Values -/

section values
variable [Fpu] [FloatRepr]

mutual
def Value.node : Value → Node
  | .null => .null
  | .bool b => .bool b
  | .int n => .number (.ofInt n)
  | .float (fin x) => .number (FloatRepr.token x)
  | .float nan => .nonFinite .nan
  | .float (inf negative) => .nonFinite (.inf negative)
  | .str s => .string (quotedOf s)
  | .arr items => .array .none (itemsOf items)
  | .obj members => .object .none (fieldsOf members)
def itemsOf : List Value → List (Blank × Node × Blank)
  | [] => []
  | v :: rest => (.none, v.node, .none) :: itemsOf rest
def fieldsOf : Members → Fields
  | [] => []
  | (name, v) :: rest => ⟨.none, quotedOf name, .none, .none, v.node, .none⟩ :: fieldsOf rest
end

mutual
/-- `json.dumps` writes JSON text. -/
theorem node_text : ∀ v : Value, v.node.text = dumps v
  | .null => rfl
  | .bool _ => rfl
  | .int _ => rfl
  | .float (fin _) => rfl
  | .float nan => rfl
  | .float (inf true) => rfl
  | .float (inf false) => rfl
  | .str s => by rw [Value.node, Node.text, quotedOf_text, dumps, dumpString]
  | .arr items => by
    rw [Value.node, Node.text, itemsOf_text items, dumps]
    rfl
  | .obj members => by
    rw [Value.node, Node.text, fieldsOf_text members, dumps]
    rfl
theorem itemsOf_text : ∀ items : List Value, itemsText (itemsOf items) = dumpItems items
  | [] => rfl
  | [v] => by
    rw [itemsOf, itemsOf, itemsText, node_text v, dumpItems]
    simp [Blank.none]
  | v :: w :: rest => by
    have later := itemsOf_text (w :: rest)
    rw [itemsOf] at later
    rw [itemsOf, itemsOf, itemsText, node_text v, dumpItems, later]
    simp [Blank.none]
theorem fieldsOf_text : ∀ members : Members, fieldsText (fieldsOf members) = dumpMembers members
  | [] => rfl
  | [(name, v)] => by
    rw [fieldsOf, fieldsOf, fieldsText, node_text v, dumpMembers, Member.text, quotedOf_text]
    simp [Blank.none, dumpString]
  | (name, v) :: m :: rest => by
    have later := fieldsOf_text (m :: rest)
    rw [fieldsOf] at later
    rw [fieldsOf, fieldsOf, fieldsText, node_text v, dumpMembers, later, Member.text, quotedOf_text]
    simp [Blank.none, dumpString]
end

end values
end AotDrone.Json
