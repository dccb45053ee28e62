import AotDrone.Fc.CommandReceiver

/-! What the scanners of the CMD reader do on text whose shape is known. A position is located by
what is left of the text from there on. -/

namespace AotDrone.Fc
open AotDrone.Lib AotDrone.Lib.Double AotDrone.Lib.Decimal

section positions
variable {json piece rest : Text} {i stop : Nat} {c : Char}

theorem drop_piece (located : json.drop i = piece ++ rest) : json.drop (i + piece.length) = rest := by
  rw [← List.drop_drop, located, List.drop_left]

theorem drop_cons (located : json.drop i = c :: rest) : json.drop (i + 1) = rest :=
  drop_piece (show json.drop i = [c] ++ rest from located)

theorem charAt_cons (located : json.drop i = c :: rest) : charAt json i = c := by
  have head : json[i]? = some c := by
    rw [← Nat.add_zero i, ← List.getElem?_drop, located]
    rfl
  rw [charAt, List.getD_eq_getElem?_getD, head]
  rfl

theorem substr_piece (located : json.drop i = piece ++ rest) : substr json i piece.length = piece := by
  rw [substr, located, List.take_left]

theorem skipWsRange_stay (solid : isSpace (charAt json i) = false) : skipWsRange json i stop = i := by
  unfold skipWsRange
  cases stop - i with
  | zero => rfl
  | succ n =>
    unfold skipWsLoop
    rw [solid]
    rfl

theorem isSpace_cases (space : isSpace c = true) :
    c = ' ' ∨ c = '\t' ∨ c = '\n' ∨ c = '\x0b' ∨ c = '\x0c' ∨ c = '\x0d' := by
  simpa [isSpace, or_assoc] using space

end positions

/-! ## Strings -/

/-- The characters between two quotes, and what the reader makes of them. -/
inductive Body : Text → Text → Prop
  | nil : Body [] []
  | plain {raw value : Text} {c : Char} (noEscape : c ≠ '\\') (noQuote : c ≠ '"') (rest : Body raw value) :
      Body (c :: raw) (c :: value)
  | escaped {raw value : Text} (c : Char) (rest : Body raw value) : Body ('\\' :: c :: raw) (c :: value)

theorem Body.append {raw value raw' value' : Text} (first : Body raw value) (second : Body raw' value') :
    Body (raw ++ raw') (value ++ value') := by
  induction first with
  | nil => exact second
  | plain noEscape noQuote _ ih => exact .plain noEscape noQuote ih
  | escaped c _ ih => exact .escaped c ih

section strings
variable {json raw value rest : Text} {i : Nat} {c : Char}

theorem stringTokenLoop_plain (located : json.drop i = c :: rest) (noEscape : c ≠ '\\') (noQuote : c ≠ '"')
    (n : Nat) (acc : Text) :
    stringTokenLoop json (n + 1) i acc false = stringTokenLoop json n (i + 1) (acc ++ [c]) false := by
  simp only [stringTokenLoop, charAt_cons located, Bool.false_eq_true, ↓reduceIte, noEscape, noQuote]

theorem stringTokenLoop_escaped (located : json.drop i = '\\' :: c :: rest) (n : Nat) (acc : Text) :
    stringTokenLoop json (n + 2) i acc false = stringTokenLoop json n (i + 2) (acc ++ [c]) false := by
  simp only [stringTokenLoop, charAt_cons located, charAt_cons (drop_cons located), Bool.false_eq_true, ↓reduceIte]

theorem stringTokenLoop_body (body : Body raw value) (located : json.drop i = raw ++ '"' :: rest) (n : Nat)
    (acc : Text) :
    stringTokenLoop json (raw.length + (n + 1)) i acc false = some (acc ++ value, i + raw.length + 1) := by
  induction body generalizing i acc with
  | nil => simp [stringTokenLoop, charAt_cons located]
  | @plain raw value c noEscape noQuote _ ih =>
    rw [show (c :: raw).length + (n + 1) = raw.length + (n + 1) + 1 by simp only [List.length_cons]; omega,
      stringTokenLoop_plain located noEscape noQuote, ih (drop_cons located)]
    simp only [List.append_assoc, List.cons_append, List.nil_append, List.length_cons]
    congr 2
    omega
  | @escaped raw value c _ ih =>
    rw [show ('\\' :: c :: raw).length + (n + 1) = raw.length + (n + 1) + 2 by simp only [List.length_cons]; omega,
      stringTokenLoop_escaped located, ih (drop_cons (drop_cons located))]
    simp only [List.append_assoc, List.cons_append, List.nil_append, List.length_cons]
    congr 2
    omega

theorem parseJsonStringToken_body (body : Body raw value) {stop : Nat}
    (located : json.drop i = '"' :: (raw ++ '"' :: rest)) (room : i + raw.length + 2 ≤ stop) :
    parseJsonStringToken json i stop = some (value, i + raw.length + 2) := by
  unfold parseJsonStringToken
  rw [if_neg (by rw [charAt_cons located]; simp; omega),
    show stop - (i + 1) = raw.length + (stop - (i + raw.length + 2) + 1) by omega,
    stringTokenLoop_body body (drop_cons located)]
  simp only [List.nil_append]
  congr 2
  omega

end strings

/-! ## Matching braces -/

section braces
variable {json raw value rest text more : Text} {openCh closeCh c : Char} {i : Nat} {depth : ℤ}

/-- The two pairs the reader matches. -/
def Pair (openCh closeCh : Char) : Prop := (openCh, closeCh) = ('{', '}') ∨ (openCh, closeCh) = ('[', ']')

theorem matchingCloseLoop_char (located : json.drop i = c :: rest) (noEscape : c ≠ '\\') (noQuote : c ≠ '"')
    (n : Nat) :
    matchingCloseLoop json openCh closeCh (n + 1) i depth true false =
      matchingCloseLoop json openCh closeCh n (i + 1) depth true false := by
  rw [matchingCloseLoop]
  simp only [charAt_cons located, Bool.false_eq_true, ↓reduceIte, noEscape, noQuote]

theorem matchingCloseLoop_escape (located : json.drop i = '\\' :: c :: rest) (n : Nat) :
    matchingCloseLoop json openCh closeCh (n + 2) i depth true false =
      matchingCloseLoop json openCh closeCh n (i + 2) depth true false := by
  have backslash : matchingCloseLoop json openCh closeCh (n + 2) i depth true false =
      matchingCloseLoop json openCh closeCh (n + 1) (i + 1) depth true true := by
    rw [matchingCloseLoop]
    simp only [charAt_cons located, Bool.false_eq_true, ↓reduceIte]
  rw [backslash, matchingCloseLoop]
  simp only [↓reduceIte]

theorem matchingCloseLoop_quote (located : json.drop i = '"' :: rest) (inString : Bool) (n : Nat) :
    matchingCloseLoop json openCh closeCh (n + 1) i depth inString false =
      matchingCloseLoop json openCh closeCh n (i + 1) depth (!inString) false := by
  rw [matchingCloseLoop]
  cases inString <;> simp [charAt_cons located]

theorem matchingCloseLoop_inside (body : Body raw value) (located : json.drop i = raw ++ '"' :: rest) (n : Nat) :
    matchingCloseLoop json openCh closeCh (raw.length + (n + 1)) i depth true false =
      matchingCloseLoop json openCh closeCh n (i + raw.length + 1) depth false false := by
  induction body generalizing i with
  | nil =>
    rw [show ([] : Text).length + (n + 1) = n + 1 by simp, matchingCloseLoop_quote located]
    rfl
  | @plain raw value c noEscape noQuote _ ih =>
    rw [show (c :: raw).length + (n + 1) = raw.length + (n + 1) + 1 by simp only [List.length_cons]; omega,
      matchingCloseLoop_char located noEscape noQuote, ih (drop_cons located), List.length_cons]
    congr 1
    omega
  | @escaped raw value c _ ih =>
    rw [show ('\\' :: c :: raw).length + (n + 1) = raw.length + (n + 1) + 2 by simp only [List.length_cons]; omega,
      matchingCloseLoop_escape located, ih (drop_cons (drop_cons located)), List.length_cons, List.length_cons]
    congr 1
    omega

/-- The loop walks over the text and comes out at the depth it went in. -/
def Passes (openCh closeCh : Char) (text : Text) : Prop :=
  ∀ (json rest : Text) (i n : Nat) (depth : ℤ), json.drop i = text ++ rest → 1 ≤ depth →
    matchingCloseLoop json openCh closeCh (text.length + n) i depth false false =
      matchingCloseLoop json openCh closeCh n (i + text.length) depth false false

theorem Passes.nil : Passes openCh closeCh [] := by
  intro json rest i n depth _ _
  simp

theorem Passes.append (first : Passes openCh closeCh text) (second : Passes openCh closeCh more) :
    Passes openCh closeCh (text ++ more) := by
  intro json rest i n depth located deep
  rw [List.append_assoc] at located
  rw [List.length_append, Nat.add_assoc, first _ _ _ (more.length + n) _ located deep,
    second _ _ _ n _ (drop_piece located) deep, Nat.add_assoc]

theorem Passes.plain (noQuote : c ≠ '"') (noOpen : c ≠ openCh) (noClose : c ≠ closeCh) :
    Passes openCh closeCh [c] := by
  intro json rest i n depth located _
  rw [show [c].length + n = n + 1 by simp only [List.length_singleton]; omega, matchingCloseLoop]
  simp [charAt_cons located, noQuote, noOpen, noClose]

theorem Passes.plains (solid : ∀ c ∈ text, c ≠ '"' ∧ c ≠ openCh ∧ c ≠ closeCh) : Passes openCh closeCh text := by
  induction text with
  | nil => exact Passes.nil
  | cons c text ih =>
    obtain ⟨noQuote, noOpen, noClose⟩ := solid c (List.mem_cons_self ..)
    have tail := ih fun d member => solid d (List.mem_cons_of_mem _ member)
    exact Passes.append (Passes.plain noQuote noOpen noClose) tail

theorem Passes.string (body : Body raw value) : Passes openCh closeCh ('"' :: (raw ++ ['"'])) := by
  intro json rest i n depth located _
  have inside : json.drop (i + 1) = raw ++ '"' :: rest := by simpa using drop_cons located
  rw [show ('"' :: (raw ++ ['"'])).length + n = raw.length + (n + 1) + 1 by simp; omega,
    matchingCloseLoop_quote located, Bool.not_false, matchingCloseLoop_inside body inside]
  simp only [List.length_cons, List.length_append, List.length_nil]
  congr 1
  omega

theorem Pair.distinct (pair : Pair openCh closeCh) : openCh ≠ '"' ∧ closeCh ≠ '"' ∧ closeCh ≠ openCh := by
  rcases pair with pair | pair <;> cases pair <;> decide

theorem matchingCloseLoop_open (pair : Pair openCh closeCh) (located : json.drop i = openCh :: rest) (n : Nat) :
    matchingCloseLoop json openCh closeCh (n + 1) i depth false false =
      matchingCloseLoop json openCh closeCh n (i + 1) (depth + 1) false false := by
  rw [matchingCloseLoop]
  simp [charAt_cons located, pair.distinct.1]

theorem Passes.braces (pair : Pair openCh closeCh) (inner : Passes openCh closeCh text) :
    Passes openCh closeCh (openCh :: (text ++ [closeCh])) := by
  intro json rest i n depth located deep
  have inside : json.drop (i + 1) = text ++ closeCh :: rest := by simpa using drop_cons located
  obtain ⟨_, noQuote, noOpen⟩ := pair.distinct
  rw [show (openCh :: (text ++ [closeCh])).length + n = text.length + (n + 1) + 1 by simp; omega,
    matchingCloseLoop_open pair located, inner _ _ _ (n + 1) _ inside (by omega), matchingCloseLoop]
  have deeper : depth ≠ 0 ∧ ¬ depth < 0 := by omega
  simp [charAt_cons (drop_piece inside), noQuote, noOpen, deeper]
  congr 1
  omega

theorem findMatchingClose_eq (pair : Pair openCh closeCh) (inner : Passes openCh closeCh text) {stop : Nat}
    (located : json.drop i = openCh :: (text ++ closeCh :: rest)) (room : i + text.length + 2 ≤ stop) :
    findMatchingClose json i stop openCh closeCh = some (i + text.length + 1) := by
  have inside := drop_cons located
  obtain ⟨_, noQuote, noOpen⟩ := pair.distinct
  unfold findMatchingClose
  rw [if_neg (by rw [charAt_cons located]; simp; omega),
    show stop - i = text.length + (stop - (i + text.length + 2) + 1) + 1 by omega,
    matchingCloseLoop_open pair located, inner _ _ _ _ _ inside (by omega), matchingCloseLoop]
  simp [charAt_cons (drop_piece inside), noQuote, noOpen]
  omega

end braces
/-! ## Numbers -/

section numbers
variable {json digits rest : Text} {i stop : Nat}

theorem digitsLoop_digits (all : ∀ c ∈ digits, c.isDigit = true) (located : json.drop i = digits ++ rest) (n : Nat) :
    digitsLoop json (digits.length + n) i = digitsLoop json n (i + digits.length) := by
  induction digits generalizing i with
  | nil => simp
  | cons d digits ih =>
    have digit := all d (List.mem_cons_self ..)
    rw [show (d :: digits).length + n = digits.length + n + 1 by simp only [List.length_cons]; omega, digitsLoop,
      charAt_cons located, digit, if_pos rfl,
      ih (fun c member => all c (List.mem_cons_of_mem _ member)) (drop_cons located), List.length_cons]
    congr 1
    omega

/-- The run of digits ends where something else stands. -/
theorem digitsEnd_digits (all : ∀ c ∈ digits, c.isDigit = true) (located : json.drop i = digits ++ rest)
    (room : i + digits.length ≤ stop) (ends : ∀ c ∈ rest.head?, c.isDigit = false) :
    digitsEnd json i stop = i + digits.length := by
  unfold digitsEnd
  rw [show stop - i = digits.length + (stop - (i + digits.length)) by omega, digitsLoop_digits all located]
  have after := drop_piece located
  have plain : (charAt json (i + digits.length)).isDigit = false := by
    cases rest with
    | nil =>
      have outside : json[i + digits.length]? = none := by
        rw [← Nat.add_zero (i + digits.length), ← List.getElem?_drop, after]
        rfl
      rw [charAt, List.getD_eq_getElem?_getD, outside]
      rfl
    | cons c rest => rw [charAt_cons after, ends c rfl]
  cases stop - (i + digits.length) with
  | zero => rfl
  | succ n =>
    rw [digitsLoop, plain]
    rfl

/-- A character that may follow a number. -/
def Delimited (rest : Text) : Prop := ∃ c tail, rest = c :: tail ∧ isValueDelim c = true

theorem Delimited.head (delimited : Delimited rest) :
    ∀ c ∈ rest.head?, c.isDigit = false ∧ c ≠ '.' ∧ c ≠ 'e' ∧ c ≠ 'E' := by
  obtain ⟨d, tail, rfl, delim⟩ := delimited
  intro c member
  obtain rfl : d = c := by simpa using member
  have cases : d = ',' ∨ d = '}' ∨ d = ']' ∨ isSpace d = true := by simpa [isValueDelim, or_assoc] using delim
  rcases cases with rfl | rfl | rfl | space
  · decide
  · decide
  · decide
  · rcases isSpace_cases space with rfl | rfl | rfl | rfl | rfl | rfl <;> decide

/-- The digits of an exponent are there and are all read. -/
theorem exponentEnd_digits (all : Digits digits) (located : json.drop i = digits ++ rest)
    (room : i + digits.length ≤ stop) (delimited : Delimited rest) :
    (if i < digitsEnd json i stop then some (digitsEnd json i stop) else none) = some (i + digits.length) := by
  have some := List.length_pos_iff.2 all.1
  rw [digitsEnd_digits all.2 located room fun c member => (delimited.head c member).1, if_pos (by omega)]

theorem charAt_digit (all : Digits digits) (located : json.drop i = digits ++ rest) :
    (charAt json i).isDigit = true := by
  obtain ⟨d, tail, cons, digit⟩ := all.head rest
  rw [charAt_cons (located.trans cons)]
  exact digit

theorem not_sign_of_digit {c : Char} (digit : c.isDigit = true) : ¬ (c = '+' ∨ c = '-') := by
  rintro (rfl | rfl) <;> cases digit

theorem sign_skipped {sign : Text} (signs : sign = [] ∨ sign = ['+'] ∨ sign = ['-']) (all : Digits digits)
    (located : json.drop i = sign ++ (digits ++ rest)) (room : i + sign.length < stop) :
    (if i < stop ∧ (charAt json i = '+' ∨ charAt json i = '-') then i + 1 else i) = i + sign.length := by
  rcases signs with rfl | rfl | rfl
  · have digit := charAt_digit all located
    exact if_neg fun both => not_sign_of_digit digit both.2
  · exact if_pos ⟨by simp at room; omega, .inl (charAt_cons located)⟩
  · exact if_pos ⟨by simp at room; omega, .inr (charAt_cons located)⟩

theorem exponentEnd_text (t : Token) (located : json.drop i = t.exponentText ++ rest)
    (room : i + t.exponentText.length ≤ stop) (delimited : Delimited rest) :
    exponentEnd json i stop = some (i + t.exponentText.length) := by
  unfold Token.exponentText at located room ⊢
  cases shape : t.exponent with
  | none =>
    simp only [shape, List.nil_append] at located
    obtain ⟨d, tail, rfl, delim⟩ := delimited
    have plain := Delimited.head ⟨d, tail, rfl, delim⟩ d rfl
    unfold exponentEnd
    rw [if_neg (by rw [charAt_cons located]; simp [plain])]
    rfl
  | some e =>
    obtain ⟨letter, sign, digits⟩ := e
    obtain ⟨letters, signs, all⟩ := t.exponent_digits _ shape
    simp only [shape, List.cons_append, List.append_assoc] at located
    simp only [shape, List.length_cons, List.length_append] at room
    have behind := drop_cons located
    unfold exponentEnd
    rw [if_pos (by rw [charAt_cons located]; exact ⟨by omega, letters⟩)]
    dsimp only at signs all ⊢
    have positive := List.length_pos_iff.2 all.1
    rw [sign_skipped signs all behind (by omega), exponentEnd_digits all (drop_piece behind) (by omega) delimited]
    simp only [List.length_cons, List.length_append]
    congr 1
    omega

/-- The text before the exponent: where it ends, and that it has a digit. -/
theorem mantissa_end (t : Token) (located : json.drop i = t.whole ++ (t.fractionText ++ (t.exponentText ++ rest)))
    (room : i + (t.whole.length + (t.fractionText.length + t.exponentText.length)) ≤ stop)
    (delimited : Delimited rest) :
    digitsEnd json i stop = i + t.whole.length ∧
      (if (decide (i + t.whole.length < stop) && decide (charAt json (i + t.whole.length) = '.')) = true then
        digitsEnd json (i + t.whole.length + 1) stop else i + t.whole.length) =
        i + t.whole.length + t.fractionText.length := by
  have exponentHead : ∀ c ∈ (t.exponentText ++ rest).head?, c.isDigit = false ∧ c ≠ '.' := by
    intro c member
    cases text : t.exponentText with
    | nil =>
      rw [text, List.nil_append] at member
      exact ⟨(delimited.head c member).1, (delimited.head c member).2.1⟩
    | cons letter tail =>
      have plain := exponentText_head t c (by rw [text] at member ⊢; exact member)
      obtain rfl : letter = c := by simpa [text] using member
      refine ⟨plain, ?_⟩
      rintro rfl
      unfold Token.exponentText at text
      cases shape : t.exponent with
      | none => simp [shape] at text
      | some e =>
        obtain ⟨letters, -⟩ := t.exponent_digits e shape
        simp only [shape, List.cons.injEq] at text
        rw [text.1] at letters
        revert letters
        decide
  have behind := drop_piece located
  unfold Token.fractionText at *
  cases shape : t.fraction with
  | none =>
    simp only [shape, List.nil_append, List.length_nil] at *
    refine ⟨digitsEnd_digits t.whole_digits.2 located (by omega) fun c member => (exponentHead c member).1, ?_⟩
    have noPoint : charAt json (i + t.whole.length) ≠ '.' := by
      cases tail : t.exponentText ++ rest with
      | nil =>
        obtain ⟨d, more, rfl, -⟩ := delimited
        simp at tail
      | cons c more =>
        rw [tail] at behind exponentHead
        rw [charAt_cons behind]
        exact (exponentHead c rfl).2
    rw [if_neg (by simp [noPoint])]
    rfl
  | some digits =>
    have all := t.fraction_digits digits shape
    simp only [shape, List.cons_append, List.length_cons] at *
    refine ⟨digitsEnd_digits t.whole_digits.2 located (by omega) (by simp), ?_⟩
    rw [if_pos (by rw [charAt_cons behind]; simp; omega),
      digitsEnd_digits all.2 (drop_cons behind) (by omega) fun c member => (exponentHead c member).1]
    omega

theorem parseJsonNumberTokenFrom_render (t : Token) (located : json.drop i = t.render ++ rest)
    (room : i + t.render.length ≤ stop) (delimited : Delimited rest) :
    parseJsonNumberTokenFrom json i stop = some (t.render, i + t.render.length) := by
  have token := substr_piece located
  have after := drop_piece located
  obtain ⟨sign, signs, parts⟩ : ∃ sign : Text, (sign = [] ∨ sign = ['+'] ∨ sign = ['-']) ∧
      t.render = sign ++ (t.whole ++ (t.fractionText ++ t.exponentText)) :=
    ⟨if t.negative then ['-'] else [], by cases t.negative <;> simp, by simp [Token.render]⟩
  have length : t.render.length =
      sign.length + (t.whole.length + (t.fractionText.length + t.exponentText.length)) := by
    rw [parts]
    simp
  have positive := List.length_pos_iff.2 t.whole_digits.1
  have start : json.drop i = sign ++ (t.whole ++ (t.fractionText ++ (t.exponentText ++ rest))) := by
    rw [located, parts]
    simp
  have body := drop_piece start
  have signEnd := sign_skipped signs t.whole_digits start (show i + sign.length < stop by omega)
  simp only [show i < stop by omega, true_and] at signEnd
  obtain ⟨whole, next⟩ := mantissa_end t body
    (show _ + (t.whole.length + (t.fractionText.length + t.exponentText.length)) ≤ stop by omega) delimited
  have tail := drop_piece (drop_piece body)
  have exponent := exponentEnd_text t tail (show _ + t.exponentText.length ≤ stop by omega) delimited
  unfold parseJsonNumberTokenFrom
  rw [if_neg (by omega)]
  dsimp only
  rw [signEnd, whole, next, if_neg (by simp [t.whole_digits.1]), exponent]
  dsimp only
  rw [show i + sign.length + t.whole.length + t.fractionText.length + t.exponentText.length =
    i + t.render.length by omega, if_neg ?_, Nat.add_sub_cancel_left, token]
  rintro ⟨_, refused⟩
  obtain ⟨d, tail, rfl, delim⟩ := delimited
  rw [charAt_cons after, delim] at refused
  cases refused

end numbers
end AotDrone.Fc
