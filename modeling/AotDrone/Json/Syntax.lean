import AotDrone.Lib.Decimal

/-! JSON texts as they are written: the grammar of RFC 8259 with its white space and its escapes, and the three
words that some writers use for floats that are not finite. -/

namespace AotDrone.Json
open AotDrone.Lib AotDrone.Lib.Decimal

/-- The white space of RFC 8259. -/
structure Blank where
  text : Text
  blank : ∀ c ∈ text, c ∈ [' ', '\t', '\n', '\r']

def Blank.none : Blank := ⟨[], by simp⟩

/-- One character of a string, or one escape. A string is read byte by byte. -/
inductive StringUnit where
  | plain (c : Char) (printable : 0x20 ≤ c.toNat) (noQuote : c ≠ '"') (noEscape : c ≠ '\\')
  | short (c : Char) (known : c ∈ ['"', '\\', '/', 'b', 'f', 'n', 'r', 't'])
  | unicode (digits : Text) (four : digits.length = 4)
      (hex : ∀ d ∈ digits, d.isDigit ∨ d ∈ ['a', 'b', 'c', 'd', 'e', 'f', 'A', 'B', 'C', 'D', 'E', 'F'])

def StringUnit.escapedQuote : StringUnit := .short '"' (by simp)

abbrev Quoted := List StringUnit

def StringUnit.text : StringUnit → Text
  | plain c _ _ _ => [c]
  | short c _ => ['\\', c]
  | unicode digits _ _ => '\\' :: 'u' :: digits

/-- What stands between the quotes. -/
def Quoted.text (s : Quoted) : Text := s.flatMap StringUnit.text

/-- `NaN`, `Infinity` and `-Infinity`. -/
inductive NonFinite where
  | nan
  | inf (negative : Bool)

def NonFinite.text : NonFinite → Text
  | nan => "NaN".toList
  | inf false => "Infinity".toList
  | inf true => "-Infinity".toList

/-- A member of an object, with the white space around its parts. -/
structure Member (α : Type) where
  before : Blank
  name : Quoted
  beforeColon : Blank
  afterColon : Blank
  value : α
  after : Blank

inductive Node where
  | null
  | bool (value : Bool)
  | number (token : Token)
  | nonFinite (word : NonFinite)
  | string (value : Quoted)
  | array (blank : Blank) (items : List (Blank × Node × Blank))
  | object (blank : Blank) (fields : List (Member Node))

abbrev Fields := List (Member Node)

def Member.text {α : Type} (value : Text) (field : Member α) : Text :=
  field.before.text ++ ('"' :: (field.name.text ++ ('"' :: (field.beforeColon.text ++
    (':' :: (field.afterColon.text ++ (value ++ field.after.text)))))))

mutual
def Node.text : Node → Text
  | .null => "null".toList
  | .bool b => if b then "true".toList else "false".toList
  | .number token => token.render
  | .nonFinite word => word.text
  | .string s => '"' :: (s.text ++ ['"'])
  | .array blank items => '[' :: (blank.text ++ (itemsText items ++ [']']))
  | .object blank fields => '{' :: (blank.text ++ (fieldsText fields ++ ['}']))
def itemsText : List (Blank × Node × Blank) → Text
  | [] => []
  | [(before, v, after)] => before.text ++ (v.text ++ after.text)
  | (before, v, after) :: next :: rest =>
    before.text ++ (v.text ++ (after.text ++ ',' :: itemsText (next :: rest)))
def fieldsText : Fields → Text
  | [] => []
  | [⟨before, name, beforeColon, afterColon, v, after⟩] =>
    Member.text v.text ⟨before, name, beforeColon, afterColon, v, after⟩
  | ⟨before, name, beforeColon, afterColon, v, after⟩ :: next :: rest =>
    Member.text v.text ⟨before, name, beforeColon, afterColon, v, after⟩ ++ ',' :: fieldsText (next :: rest)
end

/-- A text that is one object. -/
structure ObjectText where
  before : Blank
  blank : Blank
  fields : Fields
  after : Blank

def ObjectText.text (o : ObjectText) : Text := o.before.text ++ ((Node.object o.blank o.fields).text ++ o.after.text)

/-! ## What holds of every value of a text -/

mutual
def Node.All (P : Node → Prop) : Node → Prop
  | .null => P .null
  | .bool b => P (.bool b)
  | .number token => P (.number token)
  | .nonFinite word => P (.nonFinite word)
  | .string s => P (.string s)
  | .array blank items => P (.array blank items) ∧ allItems P items
  | .object blank fields => P (.object blank fields) ∧ allFields P fields
def allItems (P : Node → Prop) : List (Blank × Node × Blank) → Prop
  | [] => True
  | (_, v, _) :: rest => v.All P ∧ allItems P rest
def allFields (P : Node → Prop) : Fields → Prop
  | [] => True
  | ⟨_, _, _, _, v, _⟩ :: rest => v.All P ∧ allFields P rest
end

section all
variable {P : Node → Prop}

theorem Node.All.self {v : Node} (all : v.All P) : P v := by
  cases v with
  | array blank items | object blank fields => exact all.1
  | null | bool _ | number _ | nonFinite _ | string _ => exact all

theorem allFields_mem {fields : Fields} (all : allFields P fields) : ∀ m ∈ fields, m.value.All P := by
  induction fields with
  | nil =>
    intro m member
    cases member
  | cons first rest ih =>
    intro m member
    rcases List.mem_cons.1 member with rfl | later
    · exact all.1
    · exact ih all.2 m later

/-- Not one of the words that RFC 8259 lacks. -/
def Node.Standard : Node → Prop
  | .nonFinite _ => False
  | _ => True

theorem Node.All.member {blank : Blank} {fields : Fields} (all : (Node.object blank fields).All P) :
    ∀ m ∈ fields, m.value.All P := allFields_mem all.2

end all
end AotDrone.Json
