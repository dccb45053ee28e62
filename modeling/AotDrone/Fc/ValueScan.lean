import AotDrone.Fc.ScanFacts
import AotDrone.Json.Syntax

/-! The scanners of the CMD reader on a JSON value: what they take it for, and where they come out behind it. -/

namespace AotDrone.Fc
open AotDrone.Lib AotDrone.Lib.Double AotDrone.Lib.Decimal AotDrone.Json

/-! ## Strings -/

/-- What the reader makes of a character or an escape. -/
def readUnit : StringUnit → Text
  | .plain c _ _ _ => [c]
  | .short c _ => [c]
  | .unicode digits _ _ => 'u' :: digits

def readQuoted (s : Quoted) : Text := s.flatMap readUnit

theorem body_of_plain {text : Text} (plain : ∀ c ∈ text, c ≠ '\\' ∧ c ≠ '"') : Body text text := by
  induction text with
  | nil => exact .nil
  | cons c text ih =>
    obtain ⟨noEscape, noQuote⟩ := plain c List.mem_cons_self
    exact .plain noEscape noQuote (ih fun d member => plain d (List.mem_cons_of_mem _ member))

theorem unit_body (u : StringUnit) : Body u.text (readUnit u) := by
  cases u with
  | plain c printable noQuote noEscape => exact .plain noEscape noQuote .nil
  | short c known => exact .escaped c .nil
  | unicode digits four hex =>
    apply Body.escaped
    apply body_of_plain
    intro d member
    rcases hex d member with digit | letter
    · exact ⟨by rintro rfl; exact absurd digit (by decide), by rintro rfl; exact absurd digit (by decide)⟩
    · exact ⟨by rintro rfl; exact absurd letter (by decide), by rintro rfl; exact absurd letter (by decide)⟩

/-- A string is closed, whatever escapes it has. -/
theorem quoted_body (s : Quoted) : Body s.text (readQuoted s) := by
  induction s with
  | nil => exact .nil
  | cons u s ih => exact (unit_body u).append ih

/-! ## Characters of numbers -/

/-- The characters of a number token. -/
def InNumber (c : Char) : Prop := c.isDigit = true ∨ c = '-' ∨ c = '+' ∨ c = '.' ∨ c = 'e' ∨ c = 'E'

theorem render_inNumber (t : Token) : ∀ c ∈ t.render, InNumber c := by
  intro c member
  simp only [Token.render, List.mem_append] at member
  rcases member with ((sign | whole) | fraction) | exponent
  · cases negative : t.negative with
    | true => exact .inr (.inl (by simpa [negative] using sign))
    | false => simp [negative] at sign
  · exact .inl (t.whole_digits.2 c whole)
  · unfold Token.fractionText at fraction
    cases shape : t.fraction with
    | none => simp [shape] at fraction
    | some digits =>
      rcases List.mem_cons.1 (by simpa only [shape] using fraction) with rfl | digit
      · exact .inr (.inr (.inr (.inl rfl)))
      · exact .inl ((t.fraction_digits digits shape).2 c digit)
  · unfold Token.exponentText at exponent
    cases shape : t.exponent with
    | none => simp [shape] at exponent
    | some e =>
      obtain ⟨letter, sign, digits⟩ := e
      obtain ⟨letters, signs, all⟩ := t.exponent_digits _ shape
      simp only [shape, List.mem_cons, List.mem_append] at exponent
      rcases exponent with rfl | inSign | digit
      · exact .inr (.inr (.inr (.inr letters)))
      · rcases signs with none | plus | minus
        · simp [show sign = [] from none] at inSign
        · simp only [show sign = ['+'] from plus, List.mem_singleton] at inSign
          exact .inr (.inr (.inl inSign))
        · simp only [show sign = ['-'] from minus, List.mem_singleton] at inSign
          exact .inr (.inl inSign)
      · exact .inl (all.2 c digit)

theorem InNumber.plain {c : Char} (number : InNumber c) :
    c ≠ '"' ∧ c ≠ '{' ∧ c ≠ '}' ∧ c ≠ '[' ∧ c ≠ ']' ∧ c ≠ 't' ∧ c ≠ 'f' ∧ c ≠ 'n' := by
  refine ⟨?_, ?_, ?_, ?_, ?_, ?_, ?_, ?_⟩ <;> rintro rfl <;> revert number <;> unfold InNumber <;> decide

theorem render_ne_nil (t : Token) : t.render ≠ [] := by
  have nonempty := t.whole_digits.1
  simp [Token.render, nonempty]

theorem pair_ne {openCh closeCh c : Char} (pair : Pair openCh closeCh)
    (plain : c ≠ '{' ∧ c ≠ '}' ∧ c ≠ '[' ∧ c ≠ ']') : c ≠ openCh ∧ c ≠ closeCh := by
  rcases pair with pair | pair <;> cases pair
  · exact ⟨plain.1, plain.2.1⟩
  · exact ⟨plain.2.2.1, plain.2.2.2⟩

section passes
variable {openCh closeCh : Char} (pair : Pair openCh closeCh)
include pair

theorem passes_render (t : Token) : Passes openCh closeCh t.render := by
  apply Passes.plains
  intro c member
  have plain := (render_inNumber t c member).plain
  exact ⟨plain.1, pair_ne pair ⟨plain.2.1, plain.2.2.1, plain.2.2.2.1, plain.2.2.2.2.1⟩⟩

theorem passes_text (text : Text) (plain : text.all (fun c => decide (c ∉ ['"', '{', '}', '[', ']'])) = true) :
    Passes openCh closeCh text := by
  apply Passes.plains
  intro c member
  have out := List.all_eq_true.1 plain c member
  simp only [decide_eq_true_eq, List.mem_cons, List.not_mem_nil, or_false, not_or] at out
  exact ⟨out.1, pair_ne pair out.2⟩

/-- Brackets of either kind close again. -/
theorem passes_enclosed {first last : Char} (enclosing : Pair first last) {text : Text}
    (inner : Passes openCh closeCh text) : Passes openCh closeCh (first :: (text ++ [last])) := by
  by_cases same : first = openCh
  · have both : last = closeCh := by
      rcases pair with pair | pair <;> rcases enclosing with enclosing | enclosing <;> cases pair <;>
        cases enclosing <;> first | rfl | exact absurd same (by decide)
    rw [same, both]
    exact Passes.braces pair inner
  · have other : first ≠ closeCh ∧ last ≠ openCh ∧ last ≠ closeCh := by
      rcases pair with pair | pair <;> rcases enclosing with enclosing | enclosing <;> cases pair <;>
        cases enclosing <;> first | decide | exact absurd rfl same
    have opened : Passes openCh closeCh [first] := Passes.plain enclosing.distinct.1 same other.1
    have closed : Passes openCh closeCh [last] := Passes.plain enclosing.distinct.2.1 other.2.1 other.2.2
    exact opened.append (inner.append closed)

theorem passes_blank (blank : Blank) : Passes openCh closeCh blank.text := by
  apply Passes.plains
  intro c member
  have space := blank.blank c member
  simp only [List.mem_cons, List.not_mem_nil, or_false] at space
  refine ⟨?_, pair_ne pair ⟨?_, ?_, ?_, ?_⟩⟩ <;> rintro rfl <;> revert space <;> decide

theorem passes_word (word : NonFinite) : Passes openCh closeCh word.text := by
  cases word with
  | nan => exact passes_text pair "NaN".toList (by decide)
  | inf negative =>
    cases negative with
    | false => exact passes_text pair "Infinity".toList (by decide)
    | true => exact passes_text pair "-Infinity".toList (by decide)

theorem passes_field {α : Type} {value : Text} (inner : Passes openCh closeCh value) (field : Member α) :
    Passes openCh closeCh (field.text value) := by
  have colon : Passes openCh closeCh [':'] := passes_text pair [':'] (by decide)
  have behind := (passes_blank pair field.afterColon).append (inner.append (passes_blank pair field.after))
  have name := (Passes.string (quoted_body field.name)).append
    ((passes_blank pair field.beforeColon).append (colon.append behind))
  have all := (passes_blank pair field.before).append name
  simpa [Member.text] using all

theorem passes_items (items : List (Blank × Node × Blank))
    (inner : ∀ item ∈ items, Passes openCh closeCh item.2.1.text) : Passes openCh closeCh (itemsText items) := by
  induction items with
  | nil => exact Passes.nil
  | cons item rest ih =>
    obtain ⟨before, v, after⟩ := item
    have value := inner _ List.mem_cons_self
    have behind := ih fun item member => inner item (List.mem_cons_of_mem _ member)
    cases rest with
    | nil => exact (passes_blank pair before).append (value.append (passes_blank pair after))
    | cons next rest =>
      have comma := (passes_text pair [','] (by decide)).append behind
      exact (passes_blank pair before).append (value.append ((passes_blank pair after).append comma))

theorem passes_members (fields : Fields) (inner : ∀ field ∈ fields, Passes openCh closeCh field.value.text) :
    Passes openCh closeCh (fieldsText fields) := by
  induction fields with
  | nil => exact Passes.nil
  | cons field rest ih =>
    obtain ⟨before, name, beforeColon, afterColon, v, after⟩ := field
    have value := inner _ List.mem_cons_self
    have behind := ih fun field member => inner field (List.mem_cons_of_mem _ member)
    cases rest with
    | nil => exact passes_field pair value _
    | cons next rest =>
      have comma := (passes_text pair [','] (by decide)).append behind
      exact (passes_field pair value _).append comma

/-- The loop over braces or brackets walks over every value. -/
theorem passes_node : ∀ v : Node, Passes openCh closeCh v.text
  | .null => passes_text pair "null".toList (by decide)
  | .bool true => passes_text pair "true".toList (by decide)
  | .bool false => passes_text pair "false".toList (by decide)
  | .number token => passes_render pair token
  | .nonFinite word => passes_word pair word
  | .string s => Passes.string (quoted_body s)
  | .array blank items => by
    have elements := passes_items pair items fun (before, v, after) member =>
      have smaller := List.sizeOf_lt_of_mem member
      have within : sizeOf v < sizeOf (before, v, after) := by simp +arith
      passes_node v
    have inner := passes_enclosed pair (.inr rfl) ((passes_blank pair blank).append elements)
    rwa [List.append_assoc] at inner
  | .object blank fields => by
    have members := passes_members pair fields fun field member =>
      have smaller := List.sizeOf_lt_of_mem member
      have within : sizeOf field.value < sizeOf field := by
        cases field
        simp +arith
      passes_node field.value
    have inner := passes_enclosed pair (.inl rfl) ((passes_blank pair blank).append members)
    rwa [List.append_assoc] at inner
termination_by v => sizeOf v

theorem passes_fields (fields : Fields) : Passes openCh closeCh (fieldsText fields) :=
  passes_members pair fields fun field _ => passes_node pair field.value

end passes

/-! ## Skipping a value -/

section values
variable {json rest : Text} {i stop : Nat}

/-- The number token of a value, where the reader finds one. -/
def numberToken : Node → Option Text
  | .number token => some token.render
  | _ => none

/-- The reader cannot step over a float that is not finite. -/
def Readable : Node → Prop
  | .nonFinite _ => False
  | _ => True

instance : DecidablePred Readable := fun v =>
  match v with
  | .nonFinite _ => .isFalse id
  | .null | .bool _ | .number _ | .string _ | .array _ _ | .object _ _ => .isTrue trivial

/-- A value that starts like no number has no number token. -/
theorem parseJsonNumberTokenFrom_none {sign : Text} {c : Char} (signs : sign = [] ∨ sign = ['-'])
    (located : json.drop i = sign ++ c :: rest) (notNumber : ¬ InNumber c) :
    parseJsonNumberTokenFrom json i stop = none := by
  have at_c : charAt json (i + sign.length) = c := charAt_cons (drop_piece located)
  have notDigit : c.isDigit = false := by
    by_contra digit
    exact notNumber (.inl (by simpa using digit))
  have noPoint : c ≠ '.' := by
    rintro rfl
    exact notNumber (.inr (.inr (.inr (.inl rfl))))
  have signEnd : (if charAt json i = '+' ∨ charAt json i = '-' then i + 1 else i) = i + sign.length := by
    rcases signs with rfl | rfl
    · refine if_neg ?_
      rw [charAt_cons located]
      rintro (rfl | rfl)
      · exact notNumber (.inr (.inr (.inl rfl)))
      · exact notNumber (.inr (.inl rfl))
    · exact if_pos (.inr (charAt_cons located))
  have whole : digitsEnd json (i + sign.length) stop = i + sign.length := by
    unfold digitsEnd
    cases stop - (i + sign.length) with
    | zero => rfl
    | succ n =>
      rw [digitsLoop, at_c, notDigit]
      rfl
  unfold parseJsonNumberTokenFrom
  dsimp only
  rw [signEnd, whole, at_c]
  simp [noPoint]

theorem compareAt_other {c d : Char} {tail word : Text} (located : json.drop i = c :: tail) (other : c ≠ d) :
    compareAt json i (d :: word) = false := by
  simp [compareAt, substr, located, other]

theorem compareAt_same {word : Text} (located : json.drop i = word ++ rest) : compareAt json i word = true := by
  rw [compareAt, substr_piece located]
  exact beq_self_eq_true word

theorem wordEnd_delimited {word : Text} (located : json.drop i = word ++ rest) (delimited : Delimited rest) :
    wordEnd json i stop word = some (i + word.length) := by
  obtain ⟨d, tail, rfl, delim⟩ := delimited
  exact if_pos (.inr (by rw [charAt_cons (drop_piece located)]; exact delim))

/-- What starts like no other value is skipped as a number. -/
theorem skipJsonValue_number {c : Char} {tail : Text} (located : json.drop i = c :: tail) (room : i < stop)
    (other : c ∉ ['"', '{', '[', 't', 'f', 'n']) :
    skipJsonValue json i stop = (parseJsonNumberTokenFrom json i stop).map (·.2) := by
  simp only [List.mem_cons, List.not_mem_nil, or_false, not_or] at other
  obtain ⟨quote, brace, bracket, t, f, n⟩ := other
  have noTrue : compareAt json i "true".toList = false := compareAt_other located t
  have noFalse : compareAt json i "false".toList = false := compareAt_other located f
  have noNull : compareAt json i "null".toList = false := compareAt_other located n
  unfold skipJsonValue
  rw [if_neg (by omega), charAt_cons located]
  simp only [quote, brace, bracket, noTrue, noFalse, noNull, Bool.false_eq_true, and_false, ↓reduceIte]

theorem skipJsonValue_word (word : Text) (known : word ∈ ["true".toList, "false".toList, "null".toList])
    (located : json.drop i = word ++ rest) (room : i + word.length ≤ stop) (delimited : Delimited rest) :
    skipJsonValue json i stop = some (i + word.length) := by
  have same := compareAt_same located
  have ends : wordEnd json i stop word = _ := wordEnd_delimited located delimited
  simp only [List.mem_cons, List.not_mem_nil, or_false] at known
  unfold skipJsonValue
  rcases known with rfl | rfl | rfl
  · have head : charAt json i = 't' := charAt_cons located
    rw [if_neg (by simp at room; omega), head]
    simp only [Char.reduceEq, ↓reduceIte, same, and_true]
    rw [if_pos (by simpa using room), ends]
  · have head : charAt json i = 'f' := charAt_cons located
    have noTrue : compareAt json i "true".toList = false := compareAt_other located (by decide)
    rw [if_neg (by simp at room; omega), head]
    simp only [Char.reduceEq, ↓reduceIte, same, noTrue, Bool.false_eq_true, and_true, and_false]
    rw [if_pos (by simpa using room), ends]
  · have head : charAt json i = 'n' := charAt_cons located
    have noTrue : compareAt json i "true".toList = false := compareAt_other located (by decide)
    have noFalse : compareAt json i "false".toList = false := compareAt_other located (by decide)
    rw [if_neg (by simp at room; omega), head]
    simp only [Char.reduceEq, ↓reduceIte, same, noTrue, noFalse, Bool.false_eq_true, and_true, and_false]
    rw [if_pos (by simpa using room), ends]

theorem skipJsonValue_render (t : Token) (located : json.drop i = t.render ++ rest)
    (room : i + t.render.length ≤ stop) (delimited : Delimited rest) :
    skipJsonValue json i stop = some (i + t.render.length) := by
  have positive := List.length_pos_iff.2 (render_ne_nil t)
  obtain ⟨c, tail, head⟩ := List.exists_cons_of_ne_nil (render_ne_nil t)
  have plain := (render_inNumber t c (by rw [head]; exact List.mem_cons_self ..)).plain
  have start : json.drop i = c :: (tail ++ rest) := by rw [located, head, List.cons_append]
  rw [skipJsonValue_number start (by omega) (by simp [plain]),
    parseJsonNumberTokenFrom_render t located room delimited]
  rfl

/-- The text of a float that is not finite starts like no value the reader knows. -/
theorem word_strange (word : NonFinite) :
    ∃ sign c tail, (sign = [] ∨ sign = ['-']) ∧ word.text = sign ++ c :: tail ∧ ¬ InNumber c ∧
      c ∉ ['"', '{', '[', 't', 'f', 'n'] := by
  cases word with
  | nan => exact ⟨[], 'N', "aN".toList, .inl rfl, rfl, by unfold InNumber; decide, by decide⟩
  | inf negative =>
    cases negative with
    | false => exact ⟨[], 'I', "nfinity".toList, .inl rfl, rfl, by unfold InNumber; decide, by decide⟩
    | true => exact ⟨['-'], 'I', "nfinity".toList, .inr rfl, rfl, by unfold InNumber; decide, by decide⟩

theorem numberToken_node (v : Node) (located : json.drop i = v.text ++ rest) (room : i + v.text.length ≤ stop)
    (delimited : Delimited rest) : (parseJsonNumberTokenFrom json i stop).map (·.1) = numberToken v := by
  have none_of {c : Char} {tail : Text} (start : json.drop i = c :: tail) (other : ¬ InNumber c)
      (same : numberToken v = none) : (parseJsonNumberTokenFrom json i stop).map (·.1) = numberToken v := by
    rw [parseJsonNumberTokenFrom_none (.inl rfl) start other, same]
    rfl
  cases v with
  | number token =>
    rw [parseJsonNumberTokenFrom_render token located room delimited]
    rfl
  | nonFinite word =>
    obtain ⟨sign, c, tail, signs, text, other, _⟩ := word_strange word
    have start : json.drop i = sign ++ c :: (tail ++ rest) := by
      rw [located, show (Node.nonFinite word).text = word.text from rfl, text]
      simp
    rw [parseJsonNumberTokenFrom_none signs start other]
    rfl
  | null => exact none_of located (by unfold InNumber; decide) rfl
  | bool b => cases b <;> exact none_of located (by unfold InNumber; decide) rfl
  | string s => exact none_of located (by unfold InNumber; decide) rfl
  | array blank items => exact none_of located (by unfold InNumber; decide) rfl
  | object blank fields => exact none_of located (by unfold InNumber; decide) rfl

/-- Two brackets, and what stands between them. -/
theorem skipJsonValue_enclosed {inner : Text} {first last : Char} (enclosing : Pair first last)
    (passes : Passes first last inner) (located : json.drop i = first :: (inner ++ [last]) ++ rest)
    (room : i + (first :: (inner ++ [last])).length ≤ stop) :
    skipJsonValue json i stop = some (i + (first :: (inner ++ [last])).length) := by
  have start : json.drop i = first :: (inner ++ last :: rest) := by simpa using located
  have length : (first :: (inner ++ [last])).length = inner.length + 2 := by simp
  rw [length] at room ⊢
  have close := findMatchingClose_eq enclosing passes start (by omega : i + inner.length + 2 ≤ stop)
  unfold skipJsonValue
  rw [if_neg (by omega), charAt_cons start]
  rcases enclosing with pair | pair <;> cases pair <;> simp only [Char.reduceEq, ↓reduceIte, close] <;> rfl

theorem skipJsonValue_node (v : Node) (located : json.drop i = v.text ++ rest) (room : i + v.text.length ≤ stop)
    (delimited : Delimited rest) :
    skipJsonValue json i stop = if Readable v then some (i + v.text.length) else none := by
  cases v with
  | number token => exact skipJsonValue_render token located room delimited
  | null => exact skipJsonValue_word "null".toList (by decide) located room delimited
  | bool b =>
    cases b with
    | true => exact skipJsonValue_word "true".toList (by decide) located room delimited
    | false => exact skipJsonValue_word "false".toList (by decide) located room delimited
  | nonFinite word =>
    obtain ⟨sign, c, tail, signs, text, other, unknown⟩ := word_strange word
    have same : (Node.nonFinite word).text = word.text := rfl
    have start : json.drop i = sign ++ c :: (tail ++ rest) := by
      rw [located, same, text]
      simp
    have positive : 0 < (Node.nonFinite word).text.length := by
      rw [same, text]
      simp
    rw [if_neg (show ¬ Readable (.nonFinite word) from id)]
    rcases signs with rfl | rfl
    · rw [skipJsonValue_number start (by omega) unknown, parseJsonNumberTokenFrom_none (.inl rfl) start other]
      rfl
    · rw [skipJsonValue_number start (by omega) (by decide), parseJsonNumberTokenFrom_none (.inr rfl) start other]
      rfl
  | string s =>
    have start : json.drop i = '"' :: (s.text ++ '"' :: rest) := by
      rw [located]
      simp [Node.text]
    have length : (Node.string s).text.length = s.text.length + 2 := by simp [Node.text]
    rw [if_pos (show Readable (.string s) from trivial), length]
    unfold skipJsonValue
    rw [if_neg (by omega), charAt_cons start, if_pos rfl,
      parseJsonStringToken_body (quoted_body s) start (by omega)]
    rfl
  | array blank items =>
    have passes := (passes_blank (.inr rfl) blank).append (passes_items (.inr rfl) items fun item _ => passes_node (.inr rfl) item.2.1)
    rw [if_pos (show Readable (.array blank items) from trivial)]
    rw [Node.text, ← List.append_assoc] at located room ⊢
    exact skipJsonValue_enclosed (.inr rfl) passes located room
  | object blank fields =>
    have passes := (passes_blank (.inl rfl) blank).append (passes_fields (.inl rfl) fields)
    rw [if_pos (show Readable (.object blank fields) from trivial)]
    rw [Node.text, ← List.append_assoc] at located room ⊢
    exact skipJsonValue_enclosed (.inl rfl) passes located room

/-- What the first character of a value tells of it. -/
def HeadTells (v : Node) (c : Char) : Prop :=
  isSpace c = false ∧ (c = '"' → ∃ s, v = .string s) ∧ (c = '{' → ∃ blank fields, v = .object blank fields) ∧
    (c = 't' ∨ c = 'f' → ∃ b, v = .bool b)

theorem headTells_other {v : Node} {c : Char} (solid : isSpace c = false) (other : c ∉ ['"', '{', 't', 'f']) :
    HeadTells v c := by
  simp only [List.mem_cons, List.not_mem_nil, or_false, not_or] at other
  exact ⟨solid, fun same => absurd same other.1, fun same => absurd same other.2.1,
    fun same => (same.elim other.2.2.1 other.2.2.2).elim⟩

theorem InNumber.solid {c : Char} (number : InNumber c) : isSpace c = false := by
  cases space : isSpace c with
  | false => rfl
  | true =>
    revert number
    unfold InNumber
    rcases isSpace_cases space with rfl | rfl | rfl | rfl | rfl | rfl <;> decide

/-- No value starts with white space, and only strings, objects and truth values start as they do. -/
theorem node_head (v : Node) : ∃ c tail, v.text = c :: tail ∧ HeadTells v c := by
  cases v with
  | number token =>
    obtain ⟨c, tail, head⟩ := List.exists_cons_of_ne_nil (render_ne_nil token)
    have inNumber := render_inNumber token c (by rw [head]; exact List.mem_cons_self ..)
    exact ⟨c, tail, head, headTells_other inNumber.solid (by simp [inNumber.plain])⟩
  | nonFinite word =>
    cases word with
    | nan => exact ⟨'N', "aN".toList, rfl, headTells_other (by decide) (by decide)⟩
    | inf negative =>
      cases negative with
      | false => exact ⟨'I', "nfinity".toList, rfl, headTells_other (by decide) (by decide)⟩
      | true => exact ⟨'-', "Infinity".toList, rfl, headTells_other (by decide) (by decide)⟩
  | bool b =>
    cases b with
    | true => exact ⟨'t', "rue".toList, rfl, by decide, nofun, nofun, fun _ => ⟨true, rfl⟩⟩
    | false => exact ⟨'f', "alse".toList, rfl, by decide, nofun, nofun, fun _ => ⟨false, rfl⟩⟩
  | null => exact ⟨'n', "ull".toList, rfl, headTells_other (by decide) (by decide)⟩
  | string s => exact ⟨'"', _, rfl, by decide, fun _ => ⟨s, rfl⟩, nofun, nofun⟩
  | array blank items => exact ⟨'[', _, rfl, headTells_other (by decide) (by decide)⟩
  | object blank fields => exact ⟨'{', _, rfl, by decide, nofun, fun _ => ⟨blank, fields, rfl⟩, nofun⟩

end values
end AotDrone.Fc
