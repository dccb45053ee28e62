import AotDrone.Json.DumpsSyntax
import AotDrone.Json.ReadNode

/-! What `json.dumps` writes, as bytes and read back. -/

namespace AotDrone.Json
open AotDrone.Lib AotDrone.Lib.Double AotDrone.Lib.Decimal

/-! ## Bytes -/

/-- `text.encode("utf-8")` of an ASCII text. -/
def asciiBytes (text : Text) : Bytes := text.map fun c => UInt8.ofNat c.toNat

theorem decodeUtf8_ascii {text : Text} (ascii : ∀ c ∈ text, c.toNat < 0x80) :
    decodeUtf8 (asciiBytes text) = some (codePoints text) := by
  induction text with
  | nil => rfl
  | cons c text ih =>
    have small := ascii c List.mem_cons_self
    have byte : (UInt8.ofNat c.toNat).toNat = c.toNat := by
      rw [UInt8.toNat_ofNat']
      omega
    have single : UInt8.ofNat c.toNat < 0x80 := by
      rw [UInt8.lt_iff_toNat_lt, byte]
      exact small
    have later := ih fun d member => ascii d (List.mem_cons_of_mem _ member)
    rw [asciiBytes, List.map_cons, decodeUtf8.eq_def]
    change (if UInt8.ofNat c.toNat < 0x80 then
      (decodeUtf8 (asciiBytes text)).map (Fin.ofNat 0x110000 (UInt8.ofNat c.toNat).toNat :: ·) else _) = _
    rw [if_pos single, later, byte]
    rfl

/-- A text of ASCII characters. -/
def Ascii (text : Text) : Prop := ∀ c ∈ text, c.toNat < 0x80

section ascii

theorem ascii_word (text : Text) (all : text.all (fun c => decide (c.toNat < 0x80)) = true) : Ascii text := by
  intro c member
  exact of_decide_eq_true (List.all_eq_true.1 all c member)

theorem Ascii.append {first second : Text} (left : Ascii first) (right : Ascii second) : Ascii (first ++ second) := by
  intro c member
  rcases List.mem_append.1 member with old | new
  · exact left c old
  · exact right c new

theorem Ascii.cons {c : Char} {text : Text} (head : c.toNat < 0x80) (tail : Ascii text) : Ascii (c :: text) := by
  intro d member
  rcases List.mem_cons.1 member with rfl | later
  · exact head
  · exact tail d later

theorem ascii_digits {digits : Text} (all : ∀ c ∈ digits, c.isDigit = true) : Ascii digits := by
  intro c member
  have digit := all c member
  simp only [Char.isDigit, Bool.and_eq_true, decide_eq_true_eq, ge_iff_le, UInt32.le_iff_toNat_le] at digit
  have nine : '9'.val.toNat = 57 := by decide
  have same : c.toNat = c.val.toNat := rfl
  omega

theorem ascii_render (t : Token) : Ascii t.render := by
  have sign : Ascii (if t.negative then ['-'] else []) := by
    cases t.negative with
    | true => exact Ascii.cons (by decide) (List.forall_mem_nil _)
    | false => exact List.forall_mem_nil _
  have fraction : Ascii t.fractionText := by
    unfold Token.fractionText
    cases shape : t.fraction with
    | none => exact List.forall_mem_nil _
    | some digits => exact Ascii.cons (by decide) (ascii_digits (t.fraction_digits digits shape).2)
  have exponent : Ascii t.exponentText := by
    unfold Token.exponentText
    cases shape : t.exponent with
    | none => exact List.forall_mem_nil _
    | some e =>
      obtain ⟨letter, sign, digits⟩ := e
      obtain ⟨letters, signs, all⟩ := t.exponent_digits _ shape
      apply Ascii.cons
      · rcases letters with same | same
        · exact (congrArg Char.toNat same).trans_lt (by decide)
        · exact (congrArg Char.toNat same).trans_lt (by decide)
      · apply Ascii.append _ (ascii_digits all.2)
        rcases signs with same | same | same
        · exact (show sign = [] from same) ▸ List.forall_mem_nil _
        · exact (show sign = ['+'] from same) ▸ Ascii.cons (by decide) (List.forall_mem_nil _)
        · exact (show sign = ['-'] from same) ▸ Ascii.cons (by decide) (List.forall_mem_nil _)
  exact ((sign.append (ascii_digits t.whole_digits.2)).append fraction).append exponent

theorem ascii_digitChar {d : Nat} (small : d < 16) : (Nat.digitChar d).toNat < 0x80 := by
  interval_cases d <;> decide

theorem ascii_escapeUnit (unit : Nat) : Ascii (escapeUnit unit) := by
  apply Ascii.cons (by decide)
  apply Ascii.cons (by decide)
  intro c member
  simp only [hex4, List.mem_cons, List.not_mem_nil, or_false] at member
  rcases member with rfl | rfl | rfl | rfl <;> exact ascii_digitChar (Nat.mod_lt _ (by decide))

theorem ascii_escapeCodePoint (c : CodePoint) : Ascii (escapeCodePoint c) := by
  unfold escapeCodePoint
  split_ifs with _ _ _ _ _ _ _ printable
  · exact Ascii.cons (by decide) (Ascii.cons (by decide) (List.forall_mem_nil _))
  · exact Ascii.cons (by decide) (Ascii.cons (by decide) (List.forall_mem_nil _))
  · exact Ascii.cons (by decide) (Ascii.cons (by decide) (List.forall_mem_nil _))
  · exact Ascii.cons (by decide) (Ascii.cons (by decide) (List.forall_mem_nil _))
  · exact Ascii.cons (by decide) (Ascii.cons (by decide) (List.forall_mem_nil _))
  · exact Ascii.cons (by decide) (Ascii.cons (by decide) (List.forall_mem_nil _))
  · exact Ascii.cons (by decide) (Ascii.cons (by decide) (List.forall_mem_nil _))
  · apply Ascii.cons _ (List.forall_mem_nil _)
    rw [toNat_charOfNat (by omega)]
    omega
  · exact ascii_escapeUnit _
  · exact (ascii_escapeUnit _).append (ascii_escapeUnit _)

theorem ascii_dumpString (s : PyStr) : Ascii (dumpString s) := by
  apply Ascii.cons (by decide)
  apply Ascii.append _ (Ascii.cons (by decide) (List.forall_mem_nil _))
  intro d member
  obtain ⟨c, -, inside⟩ := List.mem_flatMap.1 member
  exact ascii_escapeCodePoint c d inside

variable [Fpu] [FloatRepr]

theorem ascii_dumpFloat (x : Double) : Ascii (dumpFloat x) := by
  cases x with
  | fin x => exact ascii_render _
  | nan => exact ascii_word "NaN".toList (by decide)
  | inf negative =>
    cases negative with
    | true => exact ascii_word "-Infinity".toList (by decide)
    | false => exact ascii_word "Infinity".toList (by decide)

mutual
theorem ascii_dumps : ∀ v : Value, Ascii (dumps v)
  | .null => ascii_word "null".toList (by decide)
  | .bool true => ascii_word "true".toList (by decide)
  | .bool false => ascii_word "false".toList (by decide)
  | .int n => ascii_render _
  | .float x => ascii_dumpFloat x
  | .str s => ascii_dumpString s
  | .arr items =>
    .cons (by decide) ((ascii_dumpItems items).append (.cons (by decide) (List.forall_mem_nil _)))
  | .obj members =>
    .cons (by decide) ((ascii_dumpMembers members).append (.cons (by decide) (List.forall_mem_nil _)))
theorem ascii_dumpItems : ∀ items : List Value, Ascii (dumpItems items)
  | [] => List.forall_mem_nil _
  | [v] => ascii_dumps v
  | v :: w :: rest => (ascii_dumps v).append (.cons (by decide) (ascii_dumpItems (w :: rest)))
theorem ascii_dumpMembers : ∀ members : Members, Ascii (dumpMembers members)
  | [] => List.forall_mem_nil _
  | [(name, v)] => (ascii_dumpString name).append (.cons (by decide) (ascii_dumps v))
  | (name, v) :: m :: rest =>
    (ascii_dumpString name).append
      (.cons (by decide) ((ascii_dumps v).append (.cons (by decide) (ascii_dumpMembers (m :: rest)))))
end

end ascii

/-! ## Values -/

/-- A string of printable ASCII. -/
def Printable (s : PyStr) : Prop := ∀ c ∈ s, 0x20 ≤ c.val ∧ c.val ≤ 0x7E

instance : DecidablePred Printable := fun s =>
  List.decidableBAll (fun c : CodePoint => 0x20 ≤ c.val ∧ c.val ≤ 0x7E) s

theorem joinSurrogates_plain (s : PyStr) : joinSurrogates (s.map fun c => (c, false)) = s := by
  induction s with
  | nil => rfl
  | cons c s ih =>
    rw [List.map_cons, joinSurrogates, ih]
    rintro _ _ _ ⟨⟩

theorem unit16_unitsOf {c : CodePoint} (printable : 0x20 ≤ c.val ∧ c.val ≤ 0x7E) :
    (unitsOf c).map StringUnit.unit16 = [(c, false)] := by
  have codes : '\n'.toNat = 10 ∧ '\r'.toNat = 13 ∧ '\t'.toNat = 9 := by decide
  unfold unitsOf
  split_ifs with quote backslash
  · have same : c = 34 := Fin.ext quote
    rw [same]
    rfl
  · have same : c = 92 := Fin.ext backslash
    rw [same]
    rfl
  · omega
  · omega
  · omega
  · omega
  · omega
  · have same : (Fin.ofNat 0x110000 (Char.ofNat c.val).toNat : CodePoint) = c := by
      apply Fin.ext
      rw [codePoint_val, toNat_charOfNat (by omega)]
    rw [List.map_singleton, StringUnit.unit16, same]

theorem decoded_quotedOf {s : PyStr} (printable : Printable s) : Quoted.decoded (quotedOf s) = s := by
  have units : (quotedOf s).map StringUnit.unit16 = s.map fun c => (c, false) := by
    induction s with
    | nil => rfl
    | cons c s ih =>
      have later := ih fun d member => printable d (List.mem_cons_of_mem _ member)
      rw [quotedOf, List.flatMap_cons, List.map_append, unit16_unitsOf (printable c List.mem_cons_self), List.map_cons,
        ← later]
      rfl
  rw [Quoted.decoded, units, joinSurrogates_plain]

theorem read_ofInt [Fpu] (n : ℤ) : Token.read (Token.ofInt n) = .int n := by
  have magnitude : Nat.ofDigitChars 10 (Nat.toDigits 10 n.natAbs) 0 = n.natAbs :=
    Nat.ofDigitChars_toDigits (by decide) (by decide)
  simp only [Token.read, Token.ofParts, Option.map_none, and_self, ↓reduceIte, magnitude, decide_eq_true_eq]
  split_ifs <;> congr 1 <;> omega

section values
variable [Fpu]

/-- An integer as it is read. -/
theorem read_cases (t : Token) :
    (∃ n : ℤ, Token.read t = .int n ∧ value t.render = n) ∨ Token.read t = .float (Fpu.round (value t.render)) := by
  unfold Token.read
  split_ifs with integer negative
  · refine .inl ⟨_, rfl, ?_⟩
    rw [value_render, Token.mantissa, Token.exponentPart, integer.1, integer.2, negative]
    simp
  · refine .inl ⟨_, rfl, ?_⟩
    rw [value_render, Token.mantissa, Token.exponentPart, integer.1, integer.2, if_neg negative]
    simp
  · exact .inr rfl

/-- What a number is to JavaScript: its exact value, rounded. -/
theorem read_ecma (t : Token) : Dialect.ecma.number (Token.read t) = .float (Fpu.round (value t.render)) := by
  rcases read_cases t with ⟨n, read, exactly⟩ | read
  · rw [read, exactly]
    rfl
  · rw [read]
    rfl

/-- What Python reads is, by `float()`, the value rounded. -/
theorem read_byFloat (t : Token) (finite : (Fpu.round (value t.render)).isFinite = true) :
    Value.ByFloat (Dialect.python.number (Token.read t)) (Fpu.round (value t.render)) := by
  rcases read_cases t with ⟨n, read, exactly⟩ | read
  · rw [read]
    rw [exactly] at finite ⊢
    exact .inl ⟨n, rfl, rfl, finite⟩
  · rw [read]
    exact .inr rfl

variable (dialect : Dialect)

omit [Fpu] in
/-- The members of an object without white space. -/
def namedFields (nodes : List (PyStr × Node)) : Fields :=
  nodes.map fun m => ⟨.none, quotedOf m.1, .none, .none, m.2, .none⟩

omit [Fpu] in
theorem fieldsText_named (name : PyStr) (v : Node) (nodes : List (PyStr × Node)) :
    fieldsText (namedFields ((name, v) :: nodes)) =
      dumpString name ++ ':' :: (v.text ++ if nodes = [] then [] else ',' :: fieldsText (namedFields nodes)) := by
  cases nodes with
  | nil => simp [namedFields, fieldsText, Member.text, quotedOf_text, Blank.none, dumpString]
  | cons next rest => simp [namedFields, fieldsText, Member.text, quotedOf_text, Blank.none, dumpString]

omit [Fpu] in
theorem ascii_named {nodes : List (PyStr × Node)} (values : ∀ m ∈ nodes, Ascii m.2.text) :
    Ascii (fieldsText (namedFields nodes)) := by
  induction nodes with
  | nil => exact List.forall_mem_nil _
  | cons m nodes ih =>
    rw [List.forall_mem_cons] at values
    rw [fieldsText_named]
    apply (ascii_dumpString _).append (.cons (by decide) (values.1.append _))
    split_ifs
    · exact List.forall_mem_nil _
    · exact .cons (by decide) (ih values.2)

/-- The members of an object, where each value is read as `read` says. -/
theorem fieldsRead_named {nodes : List (PyStr × Node)} (read : Node → Value)
    (values : ∀ m ∈ nodes, m.2.read dialect = some (read m.2)) (printable : ∀ m ∈ nodes, Printable m.1)
    (distinct : (nodes.map Prod.fst).Nodup) (before : Members) (new : ∀ m ∈ nodes, ∀ b ∈ before, b.1 ≠ m.1) :
    fieldsRead dialect before (namedFields nodes) = some (before ++ nodes.map fun m => (m.1, read m.2)) := by
  induction nodes generalizing before with
  | nil =>
    rw [namedFields, List.map_nil, fieldsRead, List.map_nil, List.append_nil]
  | cons m nodes ih =>
    obtain ⟨name, v⟩ := m
    rw [List.forall_mem_cons] at values printable new
    rw [List.map_cons, List.nodup_cons] at distinct
    have absent : before.any (fun b => b.1 = name) = false := by
      rw [List.any_eq_false]
      intro b member same
      exact new.1 b member (of_decide_eq_true same)
    have placed : Members.set before name (read v) = before ++ [(name, read v)] := by
      rw [Members.set, absent]
      rfl
    have later := ih values.2 printable.2 distinct.2 (before ++ [(name, read v)]) (by
      intro m member b known
      rw [List.mem_append, List.mem_singleton] at known
      cases known with
      | inl old => exact new.2 m member b old
      | inr last =>
        rw [last]
        rintro same
        exact distinct.1 (same ▸ List.mem_map_of_mem member))
    rw [namedFields] at later
    rw [namedFields, List.map_cons, fieldsRead, values.1]
    simp only [decoded_quotedOf printable.1, placed, later, List.append_assoc, List.map_cons, List.singleton_append]

/-- An object read back, member by member. -/
theorem object_read {nodes : List (PyStr × Node)} (read : Node → Value)
    (values : ∀ m ∈ nodes, m.2.read dialect = some (read m.2)) (printable : ∀ m ∈ nodes, Printable m.1)
    (distinct : (nodes.map Prod.fst).Nodup) :
    (Node.object .none (namedFields nodes)).read dialect = some (.obj (nodes.map fun m => (m.1, read m.2))) := by
  rw [Node.read, fieldsRead_named dialect read values printable distinct [] (fun _ _ => List.forall_mem_nil _),
    List.nil_append]
  rfl

variable [FloatRepr]

theorem fieldsOf_eq (members : Members) : fieldsOf members = namedFields (members.map fun m => (m.1, m.2.node)) := by
  induction members with
  | nil => rfl
  | cons m members ih =>
    rw [fieldsOf, ih]
    rfl

/-- A dumped object read back. -/
theorem obj_read {members : Members} (read : Value → Value)
    (values : ∀ m ∈ members, m.2.node.read dialect = some (read m.2)) (printable : ∀ m ∈ members, Printable m.1)
    (distinct : (members.map Prod.fst).Nodup) :
    (Value.obj members).node.read dialect = some (.obj (members.map fun m => (m.1, read m.2))) := by
  have reads : ∀ m ∈ members.map fun m => (m.1, m.2.node),
      m.2.read dialect = some ((m.2.read dialect).getD .null) := by
    intro m member
    obtain ⟨n, known, rfl⟩ := List.mem_map.1 member
    rw [values n known]
    rfl
  have names : ∀ m ∈ members.map fun m => (m.1, m.2.node), Printable m.1 := by
    intro m member
    obtain ⟨n, known, rfl⟩ := List.mem_map.1 member
    exact printable n known
  rw [Value.node, fieldsOf_eq, object_read dialect (fun v => (v.read dialect).getD .null) reads names
    (by rwa [List.map_map]), List.map_map]
  congr 2
  apply List.map_congr_left
  intro m member
  rw [Function.comp_apply, values m member]
  rfl

/-- An object with a member that is not read is not read. -/
theorem obj_unread {members : Members} {m : PyStr × Value} (member : m ∈ members)
    (unread : m.2.node.read dialect = none) : (Value.obj members).node.read dialect = none := by
  have fields (before : Members) : fieldsRead dialect before (fieldsOf members) = none := by
    induction members generalizing before with
    | nil => cases member
    | cons first members ih =>
      rw [fieldsOf, fieldsRead]
      rcases List.mem_cons.1 member with rfl | later
      · rw [unread]
      · cases first.2.node.read dialect with
        | none => rfl
        | some value => exact ih later _
  rw [Value.node, Node.read, fields]
  rfl

end values

end AotDrone.Json
