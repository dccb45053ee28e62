import AotDrone.Json.Reader
import AotDrone.Json.Syntax

/-! What the readers make of a JSON text, value by value. -/

namespace AotDrone.Json
open AotDrone.Lib AotDrone.Lib.Double AotDrone.Lib.Decimal

def codePoints (text : Text) : PyStr := text.map fun c => Fin.ofNat 0x110000 c.toNat

@[simp] theorem codePoints_nil : codePoints [] = [] := rfl

@[simp] theorem codePoints_cons (c : Char) (text : Text) :
    codePoints (c :: text) = Fin.ofNat 0x110000 c.toNat :: codePoints text := rfl

@[simp] theorem codePoints_append (first second : Text) :
    codePoints (first ++ second) = codePoints first ++ codePoints second := List.map_append

@[simp] theorem codePoints_length (text : Text) : (codePoints text).length = text.length := List.length_map _

theorem codePoint_val (c : Char) : (Fin.ofNat 0x110000 c.toNat : CodePoint).val = c.toNat := by
  have small : c.toNat < 0x110000 := by
    rcases c.valid with low | ⟨-, high⟩
    · exact Nat.lt_trans low (by decide)
    · exact high
  exact Nat.mod_eq_of_lt small

@[simp] theorem codePoint_is (c char : Char) : CodePoint.is (Fin.ofNat 0x110000 c.toNat) char = decide (c = char) := by
  rw [CodePoint.is, codePoint_val, Bool.eq_iff_iff, beq_iff_eq, decide_eq_true_iff, Char.toNat_inj]

@[simp] theorem codePoint_isDigit (c : Char) : CodePoint.isDigit (Fin.ofNat 0x110000 c.toNat) = c.isDigit := by
  rw [CodePoint.isDigit, codePoint_val]
  rfl

theorem asText_codePoints (text : Text) : asText (codePoints text) = text := by
  rw [asText, codePoints, List.map_map]
  have back : ((fun c : CodePoint => Char.ofNat c.val) ∘ fun c : Char => Fin.ofNat 0x110000 c.toNat) = id := by
    funext c
    simp only [Function.comp_apply, codePoint_val, Char.ofNat_toNat, id]
  rw [back, List.map_id]

/-! ## White space -/

theorem skip_blank (blank : Blank) (rest : PyStr) :
    skipWhitespace (codePoints blank.text ++ rest) = skipWhitespace rest := by
  obtain ⟨text, blank⟩ := blank
  induction text with
  | nil => rfl
  | cons c text ih =>
    have space : CodePoint.isWhitespace (Fin.ofNat 0x110000 c.toNat) = true := by
      have known := blank c List.mem_cons_self
      simp only [List.mem_cons, List.not_mem_nil, or_false] at known
      simp only [CodePoint.isWhitespace, codePoint_is, Bool.or_eq_true, decide_eq_true_eq]
      tauto
    have later := ih fun d member => blank d (List.mem_cons_of_mem _ member)
    simp only [codePoints_cons, List.cons_append, skipWhitespace, List.dropWhile_cons, space, ↓reduceIte]
    exact later

theorem skip_solid {c : CodePoint} (solid : c.isWhitespace = false) (rest : PyStr) :
    skipWhitespace (c :: rest) = c :: rest := by
  rw [skipWhitespace, List.dropWhile_cons, solid]
  rfl

/-! ## Strings -/

def StringUnit.unit16 : StringUnit → Unit16
  | .plain c _ _ _ => (Fin.ofNat 0x110000 c.toNat, false)
  | .short c _ => ((simpleEscape (Fin.ofNat 0x110000 c.toNat)).getD 0, false)
  | .unicode digits _ _ => (Fin.ofNat 0x110000 ((hexValue (codePoints digits)).getD 0), true)

/-- The string between the quotes. -/
def Quoted.decoded (s : Quoted) : PyStr := joinSurrogates (s.map StringUnit.unit16)

theorem hexDigit_some {c : Char} (hex : c.isDigit ∨ c ∈ ['a', 'b', 'c', 'd', 'e', 'f', 'A', 'B', 'C', 'D', 'E', 'F']) :
    ∃ value, hexDigit (Fin.ofNat 0x110000 c.toNat) = some value := by
  unfold hexDigit
  rw [codePoint_val]
  rcases hex with digit | letter
  · have range : '0'.toNat ≤ c.toNat ∧ c.toNat ≤ '9'.toNat := by
      simp only [Char.isDigit, Bool.and_eq_true, decide_eq_true_eq, ge_iff_le, UInt32.le_iff_toNat_le] at digit
      exact digit
    rw [if_pos range]
    exact ⟨_, rfl⟩
  · simp only [List.mem_cons, List.not_mem_nil, or_false] at letter
    rcases letter with rfl | rfl | rfl | rfl | rfl | rfl | rfl | rfl | rfl | rfl | rfl | rfl <;> exact ⟨_, rfl⟩

theorem hexValue_some {digits : Text}
    (hex : ∀ d ∈ digits, d.isDigit ∨ d ∈ ['a', 'b', 'c', 'd', 'e', 'f', 'A', 'B', 'C', 'D', 'E', 'F']) :
    ∃ value, hexValue (codePoints digits) = some value := by
  have folds (acc : Nat) : ∃ value,
      (codePoints digits).foldl (fun acc c => do return (← acc) * 16 + (← hexDigit c)) (some acc) = some value := by
    induction digits generalizing acc with
    | nil => exact ⟨acc, rfl⟩
    | cons d digits ih =>
      obtain ⟨value, digit⟩ := hexDigit_some (hex d List.mem_cons_self)
      obtain ⟨result, rest⟩ := ih (fun e member => hex e (List.mem_cons_of_mem _ member)) (acc * 16 + value)
      refine ⟨result, ?_⟩
      rw [codePoints_cons, List.foldl_cons, digit]
      exact rest
  exact folds 0

theorem scanUnits_quoted (s : Quoted) (rest : PyStr) :
    scanUnits (codePoints s.text ++ Fin.ofNat 0x110000 '"'.toNat :: rest) = some (s.map StringUnit.unit16, rest) := by
  induction s with
  | nil =>
    rw [Quoted.text, List.flatMap_nil, codePoints_nil, List.nil_append, scanUnits.eq_def]
    rfl
  | cons u s ih =>
    have unfolds : codePoints (Quoted.text (u :: s)) = codePoints u.text ++ codePoints (Quoted.text s) :=
      codePoints_append _ _
    rw [unfolds, List.append_assoc, List.map_cons]
    cases u with
    | plain c printable noQuote noEscape =>
      have low : ¬ (Fin.ofNat 0x110000 c.toNat : CodePoint).val < 0x20 := by
        rw [codePoint_val]
        omega
      rw [scanUnits.eq_def]
      simp only [StringUnit.text, codePoints_cons, codePoints_nil, List.cons_append, List.nil_append,
        codePoint_is, noQuote, noEscape, decide_false, Bool.false_eq_true, ↓reduceIte, low, ih]
      rfl
    | short c known =>
      have letter : c ≠ 'u' := by
        rintro rfl
        exact absurd known (by decide)
      have escape : ∃ unit, simpleEscape (Fin.ofNat 0x110000 c.toNat) = some unit := by
        simp only [List.mem_cons, List.not_mem_nil, or_false] at known
        rcases known with rfl | rfl | rfl | rfl | rfl | rfl | rfl | rfl <;> exact ⟨_, rfl⟩
      obtain ⟨unit, escape⟩ := escape
      rw [scanUnits.eq_def]
      simp only [StringUnit.text, codePoints_cons, codePoints_nil, List.cons_append, List.nil_append,
        codePoint_is, letter, decide_false, Bool.false_eq_true, ↓reduceIte, ih, StringUnit.unit16, escape]
      rfl
    | unicode digits four hex =>
      obtain ⟨value, found⟩ := hexValue_some hex
      obtain ⟨d₁, d₂, d₃, d₄, rfl⟩ := List.length_eq_four.1 four
      simp only [StringUnit.unit16, found]
      simp only [codePoints_cons, codePoints_nil] at found
      rw [scanUnits.eq_def]
      simp only [StringUnit.text, codePoints_cons, codePoints_nil, List.cons_append, List.nil_append,
        codePoint_is, decide_true, ↓reduceIte, found, ih]
      rfl

theorem scanString_quoted (s : Quoted) (rest : PyStr) :
    scanString (codePoints s.text ++ Fin.ofNat 0x110000 '"'.toNat :: rest) = some (s.decoded, rest) := by
  rw [scanString, scanUnits_quoted]
  rfl

/-! ## Numbers -/

section numbers
variable {rest : PyStr}

/-- What may stand behind a value: the end, white space, a comma or a closing bracket. -/
def Closes (rest : PyStr) : Prop :=
  ∀ c ∈ rest.head?, c.isWhitespace = true ∨ c.is ',' = true ∨ c.is '\x7d' = true ∨ c.is ']' = true

theorem closes_blank (blank : Blank) (closes : Closes rest) : Closes (codePoints blank.text ++ rest) := by
  obtain ⟨text, blank⟩ := blank
  cases text with
  | nil => exact closes
  | cons c text =>
    intro d head
    cases head
    have known := blank c List.mem_cons_self
    simp only [List.mem_cons, List.not_mem_nil, or_false] at known
    left
    simp only [CodePoint.isWhitespace, codePoint_is, Bool.or_eq_true, decide_eq_true_eq]
    tauto

/-- No character of a number closes a value. -/
theorem Closes.other (closes : Closes rest) :
    ∀ c ∈ rest.head?, c.isDigit = false ∧ c.is '.' = false ∧ c.is 'e' = false ∧ c.is 'E' = false := by
  intro c head
  have known := closes c head
  simp only [CodePoint.isWhitespace, CodePoint.isDigit, CodePoint.is, Bool.or_eq_true, beq_iff_eq, Bool.and_eq_false_iff,
    decide_eq_false_iff_not, beq_eq_false_iff_ne] at known ⊢
  have codes : ' '.toNat = 32 ∧ '\t'.toNat = 9 ∧ '\n'.toNat = 10 ∧ '\r'.toNat = 13 ∧ ','.toNat = 44 ∧
      '\x7d'.toNat = 125 ∧ ']'.toNat = 93 ∧ '0'.toNat = 48 ∧ '9'.toNat = 57 ∧ '.'.toNat = 46 ∧ 'e'.toNat = 101 ∧
      'E'.toNat = 69 := by decide
  omega

theorem takeWhile_codePoints {digits : Text} (all : ∀ c ∈ digits, c.isDigit = true)
    (stop : ∀ c ∈ rest.head?, c.isDigit = false) :
    (codePoints digits ++ rest).takeWhile CodePoint.isDigit = codePoints digits ∧
      (codePoints digits ++ rest).dropWhile CodePoint.isDigit = rest := by
  apply takeWhile_stops _ stop
  intro c member
  obtain ⟨d, digit, rfl⟩ := List.mem_map.1 member
  rw [codePoint_isDigit]
  exact all d digit

theorem scanSign_render (negative : Bool) {body : PyStr} (digit : ∀ c ∈ body.head?, c.is '-' = false) :
    scanSign (codePoints (if negative then ['-'] else []) ++ body) =
      (codePoints (if negative then ['-'] else []), body) := by
  cases negative with
  | true => rfl
  | false =>
    cases body with
    | nil => rfl
    | cons c body =>
      have plain := digit c rfl
      simp [scanSign, plain]

/-- What may not follow the whole digits, if they are a single zero or not. -/
theorem scanWhole_render {whole : Text} (digits : Digits whole) (leading : whole.length = 1 ∨ whole.head? ≠ some '0')
    (stop : ∀ c ∈ rest.head?, c.isDigit = false) : scanWhole (codePoints whole ++ rest) = (codePoints whole, rest) := by
  obtain ⟨nonempty, all⟩ := digits
  cases whole with
  | nil => exact absurd rfl nonempty
  | cons d whole =>
    by_cases zero : d = '0'
    · have single : whole = [] := by
        rcases leading with one | other
        · exact List.eq_nil_of_length_eq_zero (by simpa using one)
        · exact absurd (by rw [zero]; rfl) other
      rw [single, zero]
      rfl
    · obtain ⟨taken, dropped⟩ := takeWhile_codePoints all stop
      rw [codePoints_cons, List.cons_append] at taken dropped ⊢
      simp only [scanWhole, codePoint_is, zero, decide_false, Bool.false_eq_true, ↓reduceIte, taken, dropped]

theorem scanFraction_render (t : Token) (tail : PyStr) (noPoint : ∀ c ∈ tail.head?, c.isDigit = false ∧ c.is '.' = false) :
    scanFraction (codePoints t.fractionText ++ tail) = (codePoints t.fractionText, tail) := by
  unfold Token.fractionText
  cases shape : t.fraction with
  | none =>
    match tail with
    | [] | [_] => rfl
    | c :: d :: tail =>
      have other := (noPoint c rfl).2
      simp [scanFraction, other]
  | some digits =>
    obtain ⟨nonempty, all⟩ := t.fraction_digits digits shape
    cases digits with
    | nil => exact absurd rfl nonempty
    | cons d digits =>
      obtain ⟨taken, dropped⟩ := takeWhile_codePoints all fun c head => (noPoint c head).1
      have digit := all d List.mem_cons_self
      rw [codePoints_cons, List.cons_append] at taken dropped
      simp only [codePoints_cons, List.cons_append, scanFraction, codePoint_is, codePoint_isDigit, digit, decide_true,
        and_self, ↓reduceIte, taken, dropped]

theorem takeWhile_sign {sign : Text} (known : sign = [] ∨ sign = ['+'] ∨ sign = ['-']) {body : PyStr}
    (digit : ∀ c ∈ body.head?, c.is '+' = false ∧ c.is '-' = false) :
    (codePoints sign ++ body).takeWhile (fun c => c.is '+' || c.is '-') = codePoints sign := by
  have stops : body.takeWhile (fun c => c.is '+' || c.is '-') = [] := by
    cases body with
    | nil => rfl
    | cons c body =>
      obtain ⟨plus, minus⟩ := digit c rfl
      simp [plus, minus]
  rcases known with rfl | rfl | rfl
  · exact stops
  · exact congrArg (List.cons _) stops
  · exact congrArg (List.cons _) stops

theorem digit_unsigned {c : CodePoint} (digit : c.isDigit = true) : c.is '+' = false ∧ c.is '-' = false := by
  simp only [CodePoint.isDigit, CodePoint.is, Bool.and_eq_true, decide_eq_true_eq, beq_eq_false_iff_ne] at digit ⊢
  have codes : '0'.toNat = 48 ∧ '+'.toNat = 43 ∧ '-'.toNat = 45 := by decide
  omega

theorem digits_head {digits : Text} (h : Digits digits) (tail : PyStr) :
    ∀ c ∈ (codePoints digits ++ tail).head?, c.isDigit = true := by
  obtain ⟨d, more, cons, digit⟩ := h.head []
  rw [List.append_nil] at cons
  intro c head
  rw [cons] at head
  cases head
  rw [codePoint_isDigit]
  exact digit

theorem scanExponent_render (t : Token) (closes : Closes rest) :
    scanExponent (codePoints t.exponentText ++ rest) = (codePoints t.exponentText, rest) := by
  unfold Token.exponentText
  cases shape : t.exponent with
  | none =>
    cases rest with
    | nil => rfl
    | cons c rest =>
      obtain ⟨-, -, small, capital⟩ := closes.other c rfl
      simp [scanExponent, small, capital]
  | some e =>
    obtain ⟨letter, sign, digits⟩ := e
    obtain ⟨letters, signs, all⟩ := t.exponent_digits _ shape
    have letter : (decide (letter = 'e') || decide (letter = 'E')) = true := by
      simpa using letters
    have short : sign.length ≤ 1 := by
      rcases signs with none | plus | minus
      · exact (congrArg List.length none).trans_le (by decide)
      · exact (congrArg List.length plus).le
      · exact (congrArg List.length minus).le
    have signed := takeWhile_sign signs fun c head => digit_unsigned (digits_head all rest c head)
    obtain ⟨taken, -⟩ := takeWhile_codePoints all.2 fun c head => (closes.other c head).1
    have nonempty : codePoints digits ≠ [] := by
      intro none
      exact all.1 (List.map_eq_nil_iff.1 none)
    have behind : (codePoints sign ++ (codePoints digits ++ rest)).drop (sign.length + digits.length) = rest := by
      rw [← List.drop_drop, ← codePoints_length sign, List.drop_left, ← codePoints_length digits, List.drop_left]
    have inside : (codePoints sign ++ (codePoints digits ++ rest)).drop sign.length = codePoints digits ++ rest := by
      rw [← codePoints_length sign, List.drop_left]
    simp only [codePoints_cons, codePoints_append, List.cons_append, List.append_assoc, scanExponent, signed,
      codePoints_length, inside, taken, codePoint_is, letter, short, nonempty, ne_eq, not_false_eq_true, and_self,
      ↓reduceIte, behind]

/-- What a number is read as: an integer, unless it has a fraction or an exponent. -/
def Token.read [Fpu] (t : Token) : Value :=
  if t.fraction = none ∧ t.exponent = none then
    .int (if t.negative then -(Nat.ofDigitChars 10 t.whole 0 : ℤ) else Nat.ofDigitChars 10 t.whole 0)
  else .float (Fpu.round (value t.render))

theorem scanNumber_render [Fpu] (t : Token) (closes : Closes rest) :
    scanNumber (codePoints t.render ++ rest) = some (Token.read t, rest) := by
  have atExponent : ∀ c ∈ (codePoints t.exponentText ++ rest).head?, c.isDigit = false ∧ c.is '.' = false := by
    unfold Token.exponentText
    cases shape : t.exponent with
    | none =>
      intro c head
      obtain ⟨digit, point, -⟩ := closes.other c head
      exact ⟨digit, point⟩
    | some e =>
      obtain ⟨letter, sign, digits⟩ := e
      intro c head
      cases head
      rw [codePoint_isDigit, codePoint_is]
      rcases (t.exponent_digits _ shape).1 with rfl | rfl <;> decide
  have atFraction : ∀ c ∈ (codePoints t.fractionText ++ (codePoints t.exponentText ++ rest)).head?,
      c.isDigit = false := by
    unfold Token.fractionText
    cases t.fraction with
    | none => exact fun c head => (atExponent c head).1
    | some digits =>
      intro c head
      cases head
      decide
  have split : codePoints t.render ++ rest = codePoints (if t.negative then ['-'] else []) ++
      (codePoints t.whole ++ (codePoints t.fractionText ++ (codePoints t.exponentText ++ rest))) := by
    rw [Token.render, codePoints_append, codePoints_append, codePoints_append]
    simp only [List.append_assoc]
  have wholeHead := digits_head t.whole_digits (codePoints t.fractionText ++ (codePoints t.exponentText ++ rest))
  have nonempty : codePoints t.whole ≠ [] := by
    intro none
    exact t.whole_digits.1 (List.map_eq_nil_iff.1 none)
  have whole : asText (codePoints t.whole) = t.whole := asText_codePoints _
  have all : asText (codePoints (if t.negative then ['-'] else []) ++ codePoints t.whole ++ codePoints t.fractionText ++
      codePoints t.exponentText) = t.render := by
    rw [← codePoints_append, ← codePoints_append, ← codePoints_append, asText_codePoints]
    rfl
  have fraction : codePoints t.fractionText = [] ↔ t.fraction = none := by
    unfold Token.fractionText
    cases t.fraction <;> simp
  have exponent : codePoints t.exponentText = [] ↔ t.exponent = none := by
    unfold Token.exponentText
    cases t.exponent <;> simp
  have sign : (codePoints (if t.negative then ['-'] else []) = []) ↔ t.negative = false := by
    cases t.negative <;> simp
  rw [split, Token.read]
  simp only [scanNumber, scanSign_render t.negative fun c head => (digit_unsigned (wholeHead c head)).2,
    scanWhole_render t.whole_digits t.whole_head atFraction, scanFraction_render t _ atExponent,
    scanExponent_render t closes, nonempty, ↓reduceIte, whole, all, fraction, exponent, sign]
  by_cases integer : t.fraction = none ∧ t.exponent = none
  · rw [if_pos integer, if_pos integer]
    cases t.negative <;> rfl
  · rw [if_neg integer, if_neg integer]

end numbers

/-! ## Scalars -/

def NonFinite.double : NonFinite → Double
  | nan => .nan
  | inf negative => .inf negative

def wordRead (dialect : Dialect) (word : NonFinite) : Option Value :=
  if dialect.words then some (.float word.double) else none

section scalars
variable [Fpu] (dialect : Dialect) {rest : PyStr}

omit [Fpu] in
/-- A number begins with a digit, or with a minus before one. -/
theorem render_head (t : Token) (rest : PyStr) :
    ∃ c tail, codePoints t.render ++ rest = c :: tail ∧
      (c.isDigit = true ∨ c.is '-' = true ∧ ∃ d after, tail = d :: after ∧ d.isDigit = true) := by
  obtain ⟨d, after, whole, digit⟩ := t.whole_digits.head (t.fractionText ++ t.exponentText)
  have text : t.render = (if t.negative then ['-'] else []) ++ d :: after := by
    rw [← whole, Token.render, List.append_assoc, List.append_assoc]
  rw [text]
  rw [← codePoint_isDigit] at digit
  cases t.negative with
  | true => exact ⟨_, _, rfl, .inr ⟨rfl, _, _, rfl, digit⟩⟩
  | false => exact ⟨_, _, rfl, .inl digit⟩

omit [Fpu] in
/-- No word begins like a number. -/
theorem literal_head : ∀ literal ∈ Json.literals,
    ∃ first second more, pyStr literal.1 = first :: second :: more ∧ first.isDigit = false ∧
      (first.is '-' = true → second.isDigit = false) := by
  intro literal member
  simp only [Json.literals, List.mem_cons, List.not_mem_nil, or_false] at member
  rcases member with rfl | rfl | rfl | rfl | rfl | rfl <;> exact ⟨_, _, _, rfl, rfl, by decide⟩

theorem scanScalar_render (t : Token) (closes : Closes rest) :
    dialect.scanScalar (codePoints t.render ++ rest) = some (dialect.number (Token.read t), rest) := by
  have none : dialect.scanLiteral (codePoints t.render ++ rest) = none := by
    unfold Dialect.scanLiteral
    rw [List.findSome?_eq_none_iff]
    intro literal member
    obtain ⟨first, second, more, letters, noDigit, noSign⟩ := literal_head literal (Dialect.literals_known member)
    obtain ⟨c, tail, located, number⟩ := render_head t rest
    apply if_neg
    rw [located, letters]
    intro same
    rw [List.isPrefixOf_cons_cons, Bool.and_eq_true, beq_iff_eq] at same
    obtain ⟨rfl, same⟩ := same
    rcases number with digit | ⟨minus, d, after, rfl, digit⟩
    · rw [noDigit] at digit
      cases digit
    · rw [List.isPrefixOf_cons_cons, Bool.and_eq_true, beq_iff_eq] at same
      rw [same.1] at noSign
      rw [noSign minus] at digit
      cases digit
  rw [Dialect.scanScalar, none, scanNumber_render t closes]
  rfl

theorem scanScalar_word (word : NonFinite) (rest : PyStr) :
    dialect.scanScalar (codePoints word.text ++ rest) = (wordRead dialect word).map fun value => (value, rest) := by
  obtain ⟨words, integers⟩ := dialect
  cases words with
  | true =>
    cases word with
    | nan => rfl
    | inf negative => cases negative <;> rfl
  | false =>
    cases word with
    | nan => rfl
    | inf negative => cases negative <;> rfl

theorem scanScalar_null (rest : PyStr) : dialect.scanScalar (codePoints "null".toList ++ rest) = some (.null, rest) := by
  obtain ⟨words, integers⟩ := dialect
  cases words <;> rfl

theorem scanScalar_bool (b : Bool) (rest : PyStr) :
    dialect.scanScalar (codePoints (if b then "true".toList else "false".toList) ++ rest) = some (.bool b, rest) := by
  obtain ⟨words, integers⟩ := dialect
  cases words <;> cases b <;> rfl

end scalars

/-! ## Values -/

section values
variable [Fpu] (dialect : Dialect)

mutual
/-- The value of a text, unless it holds a word that the dialect lacks. -/
def Node.read : Node → Option Value
  | .null => some .null
  | .bool b => some (.bool b)
  | .number token => some (dialect.number (Token.read token))
  | .nonFinite word => wordRead dialect word
  | .string s => some (.str s.decoded)
  | .array _ items => (itemsRead [] items).map .arr
  | .object _ fields => (fieldsRead [] fields).map .obj
def itemsRead (before : List Value) : List (Blank × Node × Blank) → Option (List Value)
  | [] => some before
  | (_, v, _) :: rest =>
    match v.read with
    | none => none
    | some value => itemsRead (before ++ [value]) rest
def fieldsRead (before : Members) : Fields → Option Members
  | [] => some before
  | ⟨_, name, _, _, v, _⟩ :: rest =>
    match v.read with
    | none => none
    | some value => fieldsRead (Members.set before name.decoded value) rest
end

mutual
/-- How many containers are open at once. -/
def Node.depth : Node → Nat
  | .null | .bool _ | .number _ | .nonFinite _ | .string _ => 0
  | .array _ items => itemsDepth items + 1
  | .object _ fields => fieldsDepth fields + 1
def itemsDepth : List (Blank × Node × Blank) → Nat
  | [] => 0
  | (_, v, _) :: rest => max v.depth (itemsDepth rest)
def fieldsDepth : Fields → Nat
  | [] => 0
  | ⟨_, _, _, _, v, _⟩ :: rest => max v.depth (fieldsDepth rest)
end

/-- A value or none, before the rest of the text. -/
def outcome (rest : PyStr) : Option Value → Except LoadsError (Value × PyStr)
  | some value => .ok (value, rest)
  | none => .error .decodeError

omit [Fpu] in
theorem node_head (v : Node) :
    ∃ c tail, codePoints v.text = c :: tail ∧ c.isWhitespace = false ∧ c.is ']' = false := by
  cases v with
  | null => exact ⟨_, _, rfl, by decide, by decide⟩
  | bool b => cases b <;> exact ⟨_, _, rfl, by decide, by decide⟩
  | nonFinite word =>
    cases word with
    | nan => exact ⟨_, _, rfl, by decide, by decide⟩
    | inf negative => cases negative <;> exact ⟨_, _, rfl, by decide, by decide⟩
  | string s => exact ⟨_, _, rfl, by decide, by decide⟩
  | array blank items => exact ⟨_, _, rfl, by decide, by decide⟩
  | object blank fields => exact ⟨_, _, rfl, by decide, by decide⟩
  | number token =>
    obtain ⟨c, tail, located, number⟩ := render_head token []
    rw [List.append_nil] at located
    refine ⟨c, tail, located, ?_⟩
    simp only [CodePoint.isWhitespace, CodePoint.isDigit, CodePoint.is, Bool.and_eq_true, decide_eq_true_eq,
      Bool.or_eq_false_iff, beq_iff_eq, beq_eq_false_iff_ne] at number ⊢
    have codes : ' '.toNat = 32 ∧ '\t'.toNat = 9 ∧ '\n'.toNat = 10 ∧ '\r'.toNat = 13 ∧ ']'.toNat = 93 ∧
        '0'.toNat = 48 ∧ '9'.toNat = 57 ∧ '-'.toNat = 45 := by decide
    rcases number with digit | ⟨minus, -⟩ <;> omega

omit [Fpu] in
theorem skip_node (v : Node) (rest : PyStr) : skipWhitespace (codePoints v.text ++ rest) = codePoints v.text ++ rest := by
  obtain ⟨c, tail, located, solid, -⟩ := node_head v
  rw [located]
  exact skip_solid solid _

variable {dialect} {fuel depth : Nat} {rest next : PyStr} {d : CodePoint}

theorem readValue_scalar {c : CodePoint} {tail : PyStr} (plain : c.is '"' = false ∧ c.is '\x7b' = false ∧ c.is '[' = false)
    {found : Option Value} (scanned : dialect.scanScalar (c :: tail) = found.map fun value => (value, rest)) :
    dialect.readValue (fuel + 1) depth (c :: tail) = outcome rest found := by
  obtain ⟨quote, brace, bracket⟩ := plain
  simp only [Dialect.readValue, quote, brace, bracket, Bool.false_eq_true, ↓reduceIte, scanned]
  cases found <;> rfl

theorem readMembers_step (members : Members) (m : Member Node) {value : Text} {found : Option Value}
    (read : dialect.readValue fuel depth (skipWhitespace (codePoints value ++ (codePoints m.after.text ++ d :: next))) =
      outcome (codePoints m.after.text ++ d :: next) found)
    (solid : d.isWhitespace = false) :
    dialect.readMembers (fuel + 1) depth members (skipWhitespace (codePoints (m.text value) ++ d :: next)) =
      found.elim (.error .decodeError) fun value =>
        if d.is '\x7d' then .ok (.obj (Members.set members m.name.decoded value), next)
        else if d.is ',' then
          dialect.readMembers fuel depth (Members.set members m.name.decoded value) (skipWhitespace next)
        else .error .decodeError := by
  have quote : CodePoint.isWhitespace (Fin.ofNat 0x110000 '"'.toNat) = false := by decide
  have colon : CodePoint.isWhitespace (Fin.ofNat 0x110000 ':'.toNat) = false := by decide
  simp only [Member.text, codePoints_append, codePoints_cons, List.append_assoc, List.cons_append, skip_blank,
    skip_solid quote, Dialect.readMembers, codePoint_is, decide_true, ↓reduceIte, scanString_quoted, skip_solid colon, read]
  cases found with
  | none => rfl
  | some value => simp only [outcome, skip_blank, skip_solid solid, Option.elim_some]

theorem readItems_step (items : List Value) (before : Blank) {after : Blank} {v : Node} {found : Option Value}
    (read : dialect.readValue fuel depth (codePoints v.text ++ (codePoints after.text ++ d :: next)) =
      outcome (codePoints after.text ++ d :: next) found)
    (solid : d.isWhitespace = false) :
    dialect.readItems (fuel + 1) depth items
        (skipWhitespace (codePoints before.text ++ (codePoints v.text ++ (codePoints after.text ++ d :: next)))) =
      found.elim (.error .decodeError) fun value =>
        if d.is ']' then .ok (.arr (items ++ [value]), next)
        else if d.is ',' then dialect.readItems fuel depth (items ++ [value]) (skipWhitespace next)
        else .error .decodeError := by
  simp only [skip_blank, skip_node, Dialect.readItems, read]
  cases found with
  | none => rfl
  | some value => simp only [outcome, skip_blank, skip_solid solid, Option.elim_some]

omit [Fpu] in
theorem closes_separator {char : Char} (known : char ∈ [',', '\x7d', ']']) (rest : PyStr) :
    Closes (Fin.ofNat 0x110000 char.toNat :: rest) := by
  intro c head
  cases head
  simp only [List.mem_cons, List.not_mem_nil, or_false] at known
  rcases known with rfl | rfl | rfl <;> decide

omit [Fpu] in
theorem fields_head (m : Member Node) (fields : Fields) (rest : PyStr) :
    ∃ after, skipWhitespace (codePoints (fieldsText (m :: fields)) ++ rest) = Fin.ofNat 0x110000 '"'.toNat :: after := by
  have quote : CodePoint.isWhitespace (Fin.ofNat 0x110000 '"'.toNat) = false := by decide
  obtain ⟨before, name, beforeColon, afterColon, v, after⟩ := m
  cases fields with
  | nil =>
    simp only [fieldsText, Member.text, codePoints_append, codePoints_cons, List.append_assoc, List.cons_append,
      skip_blank, skip_solid quote]
    exact ⟨_, rfl⟩
  | cons next fields =>
    simp only [fieldsText, Member.text, codePoints_append, codePoints_cons, List.append_assoc, List.cons_append,
      skip_blank, skip_solid quote]
    exact ⟨_, rfl⟩

omit [Fpu] in
theorem items_head (item : Blank × Node × Blank) (items : List (Blank × Node × Blank)) (rest : PyStr) :
    ∃ d after, skipWhitespace (codePoints (itemsText (item :: items)) ++ rest) = d :: after ∧ d.is ']' = false := by
  obtain ⟨before, v, after⟩ := item
  obtain ⟨c, tail, located, solid, open_⟩ := node_head v
  cases items with
  | nil =>
    simp only [itemsText, codePoints_append, List.append_assoc, skip_blank, skip_node]
    rw [located]
    exact ⟨_, _, rfl, open_⟩
  | cons next items =>
    simp only [itemsText, codePoints_append, List.append_assoc, skip_blank, skip_node]
    rw [located]
    exact ⟨_, _, rfl, open_⟩

omit [Fpu] in
theorem number_plain {c : CodePoint} {tail : PyStr}
    (number : c.isDigit = true ∨ c.is '-' = true ∧ ∃ d after, tail = d :: after ∧ d.isDigit = true) :
    c.is '"' = false ∧ c.is '\x7b' = false ∧ c.is '[' = false := by
  simp only [CodePoint.isDigit, CodePoint.is, Bool.and_eq_true, decide_eq_true_eq, beq_iff_eq,
    beq_eq_false_iff_ne] at number ⊢
  have codes : '"'.toNat = 34 ∧ '\x7b'.toNat = 123 ∧ '['.toNat = 91 ∧ '0'.toNat = 48 ∧ '9'.toNat = 57 ∧
      '-'.toNat = 45 := by decide
  rcases number with digit | ⟨minus, -⟩ <;> omega

variable (dialect)

mutual
/-- A reader reads every value that its dialect has, and refuses the others. -/
theorem readValue_node : ∀ (v : Node) (fuel depth : Nat) (rest : PyStr), 2 * v.text.length + 1 ≤ fuel →
    v.depth ≤ depth → Closes rest →
    dialect.readValue fuel depth (codePoints v.text ++ rest) = outcome rest (v.read dialect)
  | .null, fuel + 1, depth, rest, _, _, _ => readValue_scalar (by decide) (scanScalar_null dialect rest)
  | .bool b, fuel + 1, depth, rest, _, _, _ => by
    have scanned := scanScalar_bool dialect b rest
    cases b <;> exact readValue_scalar (by decide) scanned
  | .number token, fuel + 1, depth, rest, _, _, closes => by
    have scanned := scanScalar_render dialect token closes
    obtain ⟨c, tail, located, number⟩ := render_head token rest
    rw [Node.text, located]
    rw [located] at scanned
    exact readValue_scalar (number_plain number) scanned
  | .nonFinite word, fuel + 1, depth, rest, _, _, _ => by
    have scanned := scanScalar_word dialect word rest
    cases word with
    | nan => exact readValue_scalar (by decide) scanned
    | inf negative => cases negative <;> exact readValue_scalar (by decide) scanned
  | .string s, fuel + 1, depth, rest, _, _, _ => by
    simp only [Node.text, codePoints_cons, codePoints_append, codePoints_nil, List.cons_append, List.append_assoc,
      List.nil_append, Dialect.readValue, codePoint_is, decide_true, ↓reduceIte, scanString_quoted]
    rfl
  | .array blank [], fuel + 1, depth + 1, rest, _, _, _ => by
    have bracket : CodePoint.isWhitespace (Fin.ofNat 0x110000 ']'.toNat) = false := by decide
    simp only [Node.text, itemsText, codePoints_cons, codePoints_append, codePoints_nil, List.cons_append,
      List.append_assoc, List.nil_append, Dialect.readValue, skip_blank, skip_solid bracket]
    rfl
  | .array blank (item :: items), fuel + 1, depth + 1, rest, enough, within, _ => by
    rw [Node.text, List.length_cons, List.length_append, List.length_append, List.length_singleton] at enough
    rw [Node.depth] at within
    have read := readItems_items (item :: items) fuel depth [] rest (by omega) (by omega) (List.cons_ne_nil _ _)
    obtain ⟨d, after, begins, more⟩ := items_head item items (Fin.ofNat 0x110000 ']'.toNat :: rest)
    rw [begins] at read
    simp only [Node.text, codePoints_cons, codePoints_append, codePoints_nil, List.cons_append, List.append_assoc,
      List.nil_append, Dialect.readValue, skip_blank, begins, more, read, Node.read]
    rfl
  | .object blank [], fuel + 1, depth + 1, rest, _, _, _ => by
    have brace : CodePoint.isWhitespace (Fin.ofNat 0x110000 '\x7d'.toNat) = false := by decide
    simp only [Node.text, fieldsText, codePoints_cons, codePoints_append, codePoints_nil, List.cons_append,
      List.append_assoc, List.nil_append, Dialect.readValue, skip_blank, skip_solid brace]
    rfl
  | .object blank (m :: fields), fuel + 1, depth + 1, rest, enough, within, _ => by
    rw [Node.text, List.length_cons, List.length_append, List.length_append, List.length_singleton] at enough
    rw [Node.depth] at within
    have read := readMembers_fields (m :: fields) fuel depth [] rest (by omega) (by omega) (List.cons_ne_nil _ _)
    obtain ⟨after, begins⟩ := fields_head m fields (Fin.ofNat 0x110000 '\x7d'.toNat :: rest)
    rw [begins] at read
    simp only [Node.text, codePoints_cons, codePoints_append, codePoints_nil, List.cons_append, List.append_assoc,
      List.nil_append, Dialect.readValue, skip_blank, begins, read, Node.read]
    rfl
theorem readItems_items : ∀ (items : List (Blank × Node × Blank)) (fuel depth : Nat) (before : List Value) (rest : PyStr),
    2 * (itemsText items).length + 2 ≤ fuel → itemsDepth items ≤ depth → items ≠ [] →
    dialect.readItems fuel depth before
        (skipWhitespace (codePoints (itemsText items) ++ Fin.ofNat 0x110000 ']'.toNat :: rest)) =
      outcome rest ((itemsRead dialect before items).map .arr)
  | [], _, _, _, _, _, _, nonempty => absurd rfl nonempty
  | [(blank, v, after)], fuel + 1, depth, before, rest, enough, within, _ => by
    rw [itemsText, List.length_append, List.length_append] at enough
    rw [itemsDepth, itemsDepth] at within
    have read := readValue_node v fuel depth (codePoints after.text ++ Fin.ofNat 0x110000 ']'.toNat :: rest) (by omega)
      (by omega) (closes_blank after (closes_separator (by decide) rest))
    have step := readItems_step before blank read (by decide)
    rw [itemsText, codePoints_append, codePoints_append, List.append_assoc, List.append_assoc, step, itemsRead]
    cases v.read dialect <;> rfl
  | (blank, v, after) :: next :: items, fuel + 1, depth, before, rest, enough, within, _ => by
    rw [itemsText, List.length_append, List.length_append, List.length_append, List.length_cons] at enough
    rw [itemsDepth] at within
    have read := readValue_node v fuel depth (codePoints after.text ++ Fin.ofNat 0x110000 ','.toNat ::
      (codePoints (itemsText (next :: items)) ++ Fin.ofNat 0x110000 ']'.toNat :: rest)) (by omega)
      (by omega) (closes_blank after (closes_separator (by decide) _))
    have step := readItems_step before blank read (by decide)
    have later (value : Value) := readItems_items (next :: items) fuel depth (before ++ [value]) rest (by omega) (by omega)
      (List.cons_ne_nil _ _)
    rw [itemsText, codePoints_append, codePoints_append, codePoints_append, codePoints_cons, List.append_assoc,
      List.append_assoc, List.append_assoc, List.cons_append, step, itemsRead]
    cases v.read dialect with
    | none => rfl
    | some value => exact later value
theorem readMembers_fields : ∀ (fields : Fields) (fuel depth : Nat) (before : Members) (rest : PyStr),
    2 * (fieldsText fields).length + 1 ≤ fuel → fieldsDepth fields ≤ depth → fields ≠ [] →
    dialect.readMembers fuel depth before
        (skipWhitespace (codePoints (fieldsText fields) ++ Fin.ofNat 0x110000 '\x7d'.toNat :: rest)) =
      outcome rest ((fieldsRead dialect before fields).map .obj)
  | [], _, _, _, _, _, _, nonempty => absurd rfl nonempty
  | [⟨blank, name, beforeColon, afterColon, v, after⟩], fuel + 1, depth, before, rest, enough, within, _ => by
    rw [fieldsText] at enough
    rw [fieldsDepth, fieldsDepth] at within
    have shorter : v.text.length < (Member.text v.text ⟨blank, name, beforeColon, afterColon, v, after⟩).length := by
      simp only [Member.text, List.length_append, List.length_cons]
      omega
    have read := readValue_node v fuel depth (codePoints after.text ++ Fin.ofNat 0x110000 '\x7d'.toNat :: rest) (by omega)
      (by omega) (closes_blank after (closes_separator (by decide) rest))
    rw [← skip_node] at read
    have step := readMembers_step before ⟨blank, name, beforeColon, afterColon, v, after⟩ read (by decide)
    rw [fieldsText, step, fieldsRead]
    cases v.read dialect <;> rfl
  | ⟨blank, name, beforeColon, afterColon, v, after⟩ :: next :: fields, fuel + 1, depth, before, rest, enough, within, _ => by
    rw [fieldsText, List.length_append, List.length_cons] at enough
    rw [fieldsDepth] at within
    have shorter : v.text.length < (Member.text v.text ⟨blank, name, beforeColon, afterColon, v, after⟩).length := by
      simp only [Member.text, List.length_append, List.length_cons]
      omega
    have read := readValue_node v fuel depth (codePoints after.text ++ Fin.ofNat 0x110000 ','.toNat ::
      (codePoints (fieldsText (next :: fields)) ++ Fin.ofNat 0x110000 '\x7d'.toNat :: rest)) (by omega)
      (by omega) (closes_blank after (closes_separator (by decide) _))
    rw [← skip_node] at read
    have step := readMembers_step before ⟨blank, name, beforeColon, afterColon, v, after⟩ read (by decide)
    have later (value : Value) := readMembers_fields (next :: fields) fuel depth (Members.set before name.decoded value) rest
      (by omega) (by omega) (List.cons_ne_nil _ _)
    rw [fieldsText, codePoints_append, codePoints_cons, List.append_assoc, List.cons_append, step, fieldsRead]
    cases v.read dialect with
    | none => rfl
    | some value => exact later value
end

/-- A whole text that is one value. -/
theorem read_node (v : Node) {depth : Nat} (within : v.depth ≤ depth) :
    dialect.read depth (codePoints v.text) = (v.read dialect).elim (.error .decodeError) .ok := by
  have skipped := skip_node v []
  rw [List.append_nil] at skipped
  have found := readValue_node dialect v (2 * v.text.length + 1) depth [] le_rfl within (by intro c head; cases head)
  rw [List.append_nil] at found
  rw [Dialect.read, codePoints_length, skipped, found]
  cases v.read dialect <;> rfl

end values

end AotDrone.Json
