import AotDrone.Fc.ValueScan
import Mathlib.Data.Option.Defs

/-! Looking a member up in the text of an object is looking it up among the members, under the name
the reader sees. -/

namespace AotDrone.Fc
open AotDrone.Lib AotDrone.Lib.Double AotDrone.Lib.Decimal AotDrone.Json

/-- The first value the reader finds under a key. A float that is not finite hides what follows it. -/
def lookupKey (key : Text) : Fields → Option Node
  | [] => none
  | m :: rest =>
    if readQuoted m.name = key then some m.value else if Readable m.value then lookupKey key rest else none

/-! ## White space -/

def Spaces (text : Text) : Prop := ∀ c ∈ text, isSpace c = true

theorem Spaces.nil : Spaces [] := by
  intro c member
  cases member

theorem Spaces.append {text more : Text} (first : Spaces text) (second : Spaces more) : Spaces (text ++ more) := by
  intro c member
  rcases List.mem_append.1 member with left | right
  · exact first c left
  · exact second c right

theorem blank_spaces (blank : Blank) : Spaces blank.text := by
  intro c member
  have space := blank.blank c member
  simp only [List.mem_cons, List.not_mem_nil, or_false] at space
  rcases space with rfl | rfl | rfl | rfl <;> rfl

section lookup
variable {json lead more rest key : Text} {i stop : Nat}

theorem skipWsLoop_spaces (spaces : Spaces lead) (located : json.drop i = lead ++ rest) (n : Nat) :
    skipWsLoop json (lead.length + n) i = skipWsLoop json n (i + lead.length) := by
  induction lead generalizing i with
  | nil => simp
  | cons c lead ih =>
    have space := spaces c List.mem_cons_self
    rw [show (c :: lead).length + n = lead.length + n + 1 by simp only [List.length_cons]; omega, skipWsLoop,
      charAt_cons located, if_pos space, ih (fun d member => spaces d (List.mem_cons_of_mem _ member))
      (drop_cons located), List.length_cons]
    congr 1
    omega

/-- White space is skipped up to the end or to a character that is none. -/
theorem skipWsRange_spaces (spaces : Spaces lead) (located : json.drop i = lead ++ rest)
    (room : i + lead.length ≤ stop)
    (ends : i + lead.length = stop ∨ isSpace (charAt json (i + lead.length)) = false) :
    skipWsRange json i stop = i + lead.length := by
  unfold skipWsRange
  rw [show stop - i = lead.length + (stop - (i + lead.length)) by omega, skipWsLoop_spaces spaces located]
  rcases ends with last | solid
  · rw [last, Nat.sub_self]
    rfl
  · exact skipWsRange_stay solid

theorem skipWsRange_char {c : Char} (spaces : Spaces lead) (located : json.drop i = lead ++ c :: rest)
    (solid : isSpace c = false) (room : i + lead.length ≤ stop) : skipWsRange json i stop = i + lead.length := by
  apply skipWsRange_spaces spaces located room
  exact .inr (by rw [charAt_cons (drop_piece located), solid])

/-! ## The loop over the members -/

/-- The text of the value stands at the position, before `stop`. -/
def Stands (json : Text) (stop pos : Nat) (v : Node) : Prop :=
  ∃ rest, json.drop pos = v.text ++ rest ∧ Delimited rest ∧ pos + v.text.length ≤ stop

/-- What stands between a member and the end of its object. -/
def behind (fields : Fields) : Text :=
  match fields with
  | [] => []
  | m :: rest => ',' :: fieldsText (m :: rest)

theorem fieldsText_cons (m : Member Node) (fields : Fields) :
    fieldsText (m :: fields) = m.text m.value.text ++ behind fields := by
  cases fields with
  | nil => simp [fieldsText, behind]
  | cons next rest => rfl

theorem delimited_spaces (spaces : Spaces lead) (delimited : Delimited rest) : Delimited (lead ++ rest) := by
  cases lead with
  | nil => exact delimited
  | cons c lead =>
    refine ⟨c, lead ++ rest, rfl, ?_⟩
    simp [isValueDelim, spaces c List.mem_cons_self]

theorem delimited_behind (fields : Fields) (rest : Text) : Delimited (behind fields ++ '}' :: rest) := by
  cases fields with
  | nil => exact ⟨'}', rest, rfl, rfl⟩
  | cons m fields => exact ⟨',', _, rfl, rfl⟩

theorem findKeyLoop_spaces (spaces : Spaces lead) (located : json.drop i = lead ++ rest) (n : Nat) :
    findKeyLoop json (i + lead.length) key n i = none := by
  cases n with
  | zero => rfl
  | succ n =>
    rw [findKeyLoop]
    by_cases empty : i + lead.length ≤ i
    · rw [if_pos empty]
    · rw [if_neg empty, skipWsRange_spaces spaces located le_rfl (.inl rfl)]
      exact if_pos le_rfl

theorem findKeyLoop_comma (spaces : Spaces lead) (located : json.drop i = lead ++ ',' :: rest)
    (room : i + lead.length < stop) (n : Nat) :
    findKeyLoop json stop key (n + 1) i = findKeyLoop json stop key n (i + lead.length + 1) := by
  rw [findKeyLoop, if_neg (by omega), skipWsRange_char spaces located rfl room.le]
  dsimp only
  rw [if_neg (by omega), if_pos (charAt_cons (drop_piece located))]

/-- One turn of the loop reads one member up to the end of its value. -/
theorem findKeyLoop_member {raw name beforeColon afterColon : Text} (body : Body raw name) (spaces : Spaces lead)
    (spacesBefore : Spaces beforeColon) (spacesAfter : Spaces afterColon) (v : Node) (delimited : Delimited more)
    (located : json.drop i =
      lead ++ '"' :: (raw ++ '"' :: (beforeColon ++ ':' :: (afterColon ++ (v.text ++ more)))))
    {pos : Nat} (value : pos = i + lead.length + raw.length + 2 + beforeColon.length + 1 + afterColon.length)
    (room : pos + v.text.length ≤ stop) (n : Nat) :
    findKeyLoop json stop key (n + 1) i =
      if name = key then some pos
      else if Readable v then
        findKeyLoop json stop key n
          (if pos + v.text.length < stop ∧ charAt json (pos + v.text.length) = ',' then pos + v.text.length + 1
          else pos + v.text.length)
      else none := by
  have quote := drop_piece located
  have colon : json.drop (i + lead.length + raw.length + 2) =
      beforeColon ++ ':' :: (afterColon ++ (v.text ++ more)) := by
    have inside : json.drop (i + lead.length + 1) = raw ++ '"' :: _ := drop_cons quote
    have after := drop_cons (drop_piece inside)
    rwa [show i + lead.length + 1 + raw.length + 1 = i + lead.length + raw.length + 2 by omega] at after
  have behindColon := drop_cons (drop_piece colon)
  have start := drop_piece behindColon
  rw [← value] at start
  obtain ⟨c, tail, head, tells⟩ := node_head v
  have positive : 0 < v.text.length := by
    rw [head]
    simp
  have first : afterColon ++ (v.text ++ more) = afterColon ++ c :: (tail ++ more) := by rw [head, List.cons_append]
  rw [findKeyLoop, if_neg (by omega), skipWsRange_char spaces located rfl (by omega)]
  dsimp only
  rw [if_neg (by omega), charAt_cons quote, if_neg (by decide), if_neg (by decide),
    parseJsonStringToken_body body quote (by omega)]
  dsimp only
  rw [skipWsRange_char spacesBefore colon rfl (by omega), charAt_cons (drop_piece colon), if_neg (by simp; omega),
    skipWsRange_char spacesAfter (behindColon.trans first) tells.1 (by omega), ← value, if_neg (by omega),
    skipJsonValue_node v start room delimited]
  by_cases readable : Readable v
  · simp only [if_pos readable]
  · simp only [if_neg readable]

/-- Behind the last value the loop finds nothing. -/
theorem findKeyLoop_closed (spaces : Spaces lead) (located : json.drop i = lead ++ '}' :: rest) (n : Nat) :
    findKeyLoop json (i + lead.length) key n
      (if i < i + lead.length ∧ charAt json i = ',' then i + 1 else i) = none := by
  have stay : ¬ (i < i + lead.length ∧ charAt json i = ',') := by
    rintro ⟨inside, comma⟩
    cases lead with
    | nil => exact absurd inside (by simp)
    | cons c lead =>
      have space := spaces c List.mem_cons_self
      rw [← charAt_cons located, comma] at space
      cases space
  rw [if_neg stay, findKeyLoop_spaces spaces located]

/-- Behind any other value it comes to the next member, with one turn more where white space precedes the comma. -/
theorem findKeyLoop_separated (spaces : Spaces lead) (located : json.drop i = lead ++ ',' :: rest)
    (room : i + lead.length < stop) {n : Nat} (enough : lead.length ≤ n) :
    ∃ m, n ≤ m + lead.length ∧
      findKeyLoop json stop key n (if i < stop ∧ charAt json i = ',' then i + 1 else i) =
        findKeyLoop json stop key m (i + lead.length + 1) := by
  cases lead with
  | nil => exact ⟨n, le_rfl, by rw [if_pos ⟨room, charAt_cons located⟩, List.length_nil, Nat.add_zero]⟩
  | cons c lead =>
    have stay : charAt json i ≠ ',' := by
      rw [charAt_cons located]
      rintro rfl
      cases spaces ',' List.mem_cons_self
    rw [List.length_cons] at enough
    obtain ⟨m, rfl⟩ : ∃ m, n = m + 1 := ⟨n - 1, by omega⟩
    refine ⟨m, by rw [List.length_cons]; omega, ?_⟩
    rw [if_neg fun both => stay both.2, findKeyLoop_comma spaces located room]

/-- The loop finds a member exactly when the lookup does, and stops where its value stands. -/
theorem findKeyLoop_fields (fields : Fields) (spaces : Spaces lead)
    (located : json.drop i = lead ++ (fieldsText fields ++ '}' :: rest)) (n : Nat)
    (enough : lead.length + (fieldsText fields).length ≤ n) :
    Option.Rel (Stands json (i + lead.length + (fieldsText fields).length))
      (findKeyLoop json (i + lead.length + (fieldsText fields).length) key n i) (lookupKey key fields) := by
  generalize ends : i + lead.length + (fieldsText fields).length = stop
  induction fields generalizing i n lead with
  | nil =>
    simp only [fieldsText, List.length_nil, Nat.add_zero] at ends
    rw [← ends, findKeyLoop_spaces spaces located]
    exact .none
  | cons m fields ih =>
    obtain ⟨before, name, beforeColon, afterColon, v, after⟩ := m
    have text : fieldsText (⟨before, name, beforeColon, afterColon, v, after⟩ :: fields) =
        before.text ++ '"' :: (name.text ++ '"' :: (beforeColon.text ++ ':' :: (afterColon.text ++
          (v.text ++ (after.text ++ behind fields))))) := by
      rw [fieldsText_cons, Member.text]
      simp
    have length := congrArg List.length text
    simp only [List.length_append, List.length_cons] at length
    have member : json.drop i = lead ++ before.text ++ '"' :: (name.text ++ '"' :: (beforeColon.text ++
        ':' :: (afterColon.text ++ (v.text ++ (after.text ++ (behind fields ++ '}' :: rest)))))) := by
      rw [located, text]
      simp
    obtain ⟨pos, value⟩ : ∃ pos, pos = i + (lead ++ before.text).length + name.text.length + 2 +
        beforeColon.text.length + 1 + afterColon.text.length := ⟨_, rfl⟩
    have place := value
    rw [List.length_append] at place
    have start : json.drop pos = v.text ++ (after.text ++ (behind fields ++ '}' :: rest)) := by
      have at_value := drop_piece (drop_cons (drop_piece (drop_cons (drop_piece (drop_cons (drop_piece member))))))
      rw [← at_value, value]
      congr 1
      omega
    have spaced := spaces.append (blank_spaces before)
    have delimited := delimited_spaces (blank_spaces after) (delimited_behind fields rest)
    obtain ⟨n, rfl⟩ : ∃ k, n = k + 1 := ⟨n - 1, by omega⟩
    rw [findKeyLoop_member (quoted_body name) spaced (blank_spaces beforeColon) (blank_spaces afterColon) v delimited
      member value (by omega), lookupKey]
    by_cases same : readQuoted name = key
    · rw [if_pos same, if_pos same]
      exact .some ⟨_, start, delimited, show pos + v.text.length ≤ stop by omega⟩
    rw [if_neg same, if_neg same]
    by_cases readable : Readable v
    swap
    · rw [if_neg readable, if_neg readable]
      exact .none
    rw [if_pos readable, if_pos readable]
    have next := drop_piece start
    cases fields with
    | nil =>
      simp only [behind, List.length_nil, Nat.add_zero, List.nil_append] at length next
      rw [← show pos + v.text.length + after.text.length = stop by omega, findKeyLoop_closed (blank_spaces after) next]
      exact .none
    | cons m fields =>
      have count : (behind (m :: fields)).length = (fieldsText (m :: fields)).length + 1 := rfl
      have later : json.drop (pos + v.text.length) =
          after.text ++ ',' :: (fieldsText (m :: fields) ++ '}' :: rest) := by
        rw [next]
        rfl
      obtain ⟨left, spent, moved⟩ := findKeyLoop_separated (blank_spaces after) later
        (show pos + v.text.length + after.text.length < stop by omega) (show after.text.length ≤ n by omega)
      rw [moved]
      exact ih Spaces.nil (drop_cons (drop_piece later)) left (by rw [List.length_nil]; omega)
        (by rw [List.length_nil]; omega)

/-! ## Fields of an object -/

/-- The braces at `start` and `stop` hold the members. -/
def Holds (json : Text) (start stop : Nat) (blank : Blank) (fields : Fields) : Prop :=
  stop = start + 1 + (blank.text.length + (fieldsText fields).length) ∧
    ∃ rest, json.drop start = '{' :: (blank.text ++ (fieldsText fields ++ '}' :: rest))

/-- A string value, as the reader takes it. -/
def stringValue : Node → Option Text
  | .string s => some (readQuoted s)
  | _ => none

def boolOf : Node → Option Bool
  | .bool b => some b
  | _ => none

variable {blank : Blank} {fields : Fields} {start : Nat} (object : Holds json start stop blank fields)
include object

theorem Holds.findKey (key : Text) :
    Option.Rel (Stands json stop) (findKeyInObject json start stop key) (lookupKey key fields) := by
  obtain ⟨ends, rest, located⟩ := object
  have inside := drop_cons located
  have last : charAt json stop = '}' := by
    rw [ends, ← Nat.add_assoc]
    exact charAt_cons (drop_piece (drop_piece inside))
  have found : Option.Rel _ (findKeyLoop json _ key (stop - start) (start + 1)) (lookupKey key fields) :=
    findKeyLoop_fields fields (blank_spaces blank) inside (stop - start) (by omega)
  rw [Nat.add_assoc, ← ends] at found
  unfold findKeyInObject
  rw [if_neg (by rw [charAt_cons located, last]; simp; omega)]
  exact found

theorem Holds.present {key : Text} {v : Node} (present : lookupKey key fields = some v) :
    ∃ pos, findKeyInObject json start stop key = some pos ∧ Stands json stop pos v := by
  have found := object.findKey key
  rw [present] at found
  generalize findKeyInObject json start stop key = position at found
  cases found with
  | some stands => exact ⟨_, rfl, stands⟩

theorem Holds.absent {key : Text} (absent : lookupKey key fields = none) :
    findKeyInObject json start stop key = none := by
  have found := object.findKey key
  rw [absent] at found
  generalize findKeyInObject json start stop key = position at found
  cases found
  rfl

theorem Holds.number (key : Text) :
    parseJsonNumberTokenInObject json start stop key = (lookupKey key fields).bind numberToken := by
  unfold parseJsonNumberTokenInObject
  cases value : lookupKey key fields with
  | none =>
    rw [object.absent value]
    rfl
  | some v =>
    obtain ⟨pos, found, rest, located, delimited, room⟩ := object.present value
    rw [found]
    exact numberToken_node v located room delimited

omit object in
/-- The first character of a value that has been found. -/
theorem Stands.head {pos : Nat} {v : Node} (stands : Stands json stop pos v) :
    pos < stop ∧ HeadTells v (charAt json pos) ∧ ∃ tail, json.drop pos = charAt json pos :: tail := by
  obtain ⟨rest, located, -, room⟩ := stands
  obtain ⟨c, tail, head, tells⟩ := node_head v
  have start : json.drop pos = c :: (tail ++ rest) := by rw [located, head, List.cons_append]
  rw [charAt_cons start]
  rw [head, List.length_cons] at room
  exact ⟨by omega, tells, _, start⟩

theorem Holds.string (key : Text) :
    parseJsonStringFieldInObject json start stop key = (lookupKey key fields).bind stringValue := by
  unfold parseJsonStringFieldInObject
  cases value : lookupKey key fields with
  | none =>
    rw [object.absent value]
    rfl
  | some v =>
    obtain ⟨pos, found, stands⟩ := object.present value
    obtain ⟨-, ⟨-, string, -⟩, -⟩ := stands.head
    rw [found]
    dsimp only
    by_cases quote : charAt json pos = '"'
    · obtain ⟨s, rfl⟩ := string quote
      obtain ⟨rest, located, -, room⟩ := stands
      have quoted : json.drop pos = '"' :: (s.text ++ '"' :: rest) := by
        rw [located]
        simp [Node.text]
      have length : (Node.string s).text.length = s.text.length + 2 := by simp [Node.text]
      rw [parseJsonStringToken_body (quoted_body s) quoted (by omega)]
      rfl
    · have notString : stringValue v = none := by
        cases v with
        | string s =>
          obtain ⟨rest, located, -, -⟩ := stands
          exact absurd (charAt_cons located) quote
        | null | bool _ | number _ | nonFinite _ | array _ _ | object _ _ => rfl
      unfold parseJsonStringToken
      rw [if_pos (.inr quote), Option.bind_some, notString]
      rfl

theorem Holds.bool (key : Text) :
    parseJsonBoolFieldInObject json start stop key = (lookupKey key fields).bind boolOf := by
  unfold parseJsonBoolFieldInObject
  cases value : lookupKey key fields with
  | none =>
    rw [object.absent value]
    rfl
  | some v =>
    obtain ⟨pos, found, stands⟩ := object.present value
    obtain ⟨-, ⟨-, -, -, truth⟩, tail, start⟩ := stands.head
    rw [found]
    dsimp only
    by_cases initial : charAt json pos = 't' ∨ charAt json pos = 'f'
    · obtain ⟨b, rfl⟩ := truth initial
      obtain ⟨rest, located, delimited, room⟩ := stands
      cases b with
      | true =>
        have word : json.drop pos = "true".toList ++ rest := located
        have ends : wordEnd json pos stop "true".toList = _ := wordEnd_delimited word delimited
        rw [if_pos ⟨room, compareAt_same word, by rw [ends]; rfl⟩]
        rfl
      | false =>
        have word : json.drop pos = "false".toList ++ rest := located
        have ends : wordEnd json pos stop "false".toList = _ := wordEnd_delimited word delimited
        have noTrue : compareAt json pos "true".toList = false := compareAt_other located (by decide)
        rw [if_neg (fun both => Bool.false_ne_true (noTrue.symm.trans both.2.1)),
          if_pos ⟨room, compareAt_same word, by rw [ends]; rfl⟩]
        rfl
    · have noTrue : compareAt json pos "true".toList = false := compareAt_other start fun t => initial (.inl t)
      have noFalse : compareAt json pos "false".toList = false := compareAt_other start fun f => initial (.inr f)
      have notBool : boolOf v = none := by
        cases v with
        | bool b =>
          obtain ⟨rest, located, -, -⟩ := stands
          cases b with
          | true => exact absurd (.inl (charAt_cons located)) initial
          | false => exact absurd (.inr (charAt_cons located)) initial
        | null | string _ | number _ | nonFinite _ | array _ _ | object _ _ => rfl
      rw [if_neg (fun both => Bool.false_ne_true (noTrue.symm.trans both.2.1)),
        if_neg (fun both => Bool.false_ne_true (noFalse.symm.trans both.2.1)), Option.bind_some, notBool]

/-- A member that is an object: where its braces stand. -/
theorem Holds.member {key : Text} {space : Blank} {inner : Fields}
    (present : lookupKey key fields = some (.object space inner)) :
    ∃ first last, findKeyInObject json start stop key = some first ∧ first < stop ∧ charAt json first = '{' ∧
      findObjectSpanInObject json start stop key = some (first, last) ∧ Holds json first last space inner := by
  obtain ⟨pos, found, rest, located, delimited, room⟩ := object.present present
  have braced : json.drop pos = '{' :: ((space.text ++ fieldsText inner) ++ '}' :: rest) := by
    rw [located]
    simp [Node.text]
  have length : (Node.object space inner).text.length = (space.text ++ fieldsText inner).length + 2 := by
    simp [Node.text]
    omega
  have first := charAt_cons braced
  have passes := (passes_blank (.inl rfl) space).append (passes_fields (.inl rfl) inner)
  refine ⟨pos, pos + 1 + (space.text.length + (fieldsText inner).length), found, by omega, first, ?_, rfl, rest, ?_⟩
  · unfold findObjectSpanInObject
    rw [found]
    dsimp only
    rw [if_neg (by rw [first]; simp; omega), findMatchingClose_eq (.inl rfl) passes braced (by omega), Option.map_some,
      List.length_append]
    congr 2
    omega
  · rw [braced, List.append_assoc]

/-- A member found where no brace stands is no object. -/
theorem Holds.noBrace {key : Text} {v : Node} (present : lookupKey key fields = some v)
    (noObject : ∀ space inner, v ≠ .object space inner) :
    ∃ pos, findKeyInObject json start stop key = some pos ∧ charAt json pos ≠ '{' := by
  obtain ⟨pos, found, stands⟩ := object.present present
  obtain ⟨-, ⟨-, -, braces, -⟩, -⟩ := stands.head
  refine ⟨pos, found, ?_⟩
  intro brace
  obtain ⟨space, inner, same⟩ := braces brace
  exact noObject space inner same

/-- What the source does with a member that has to be an object where it is there. -/
theorem Holds.objectMember {α : Type} {key : Text} {absent a : α} {read : Nat → Nat → Option α} (Reads : Fields → α → Prop)
    (inner : ∀ space inner first last, lookupKey key fields = some (.object space inner) →
      Holds json first last space inner → (read first last = some a ↔ Reads inner a)) :
    (match findKeyInObject json start stop key with
      | none => some absent
      | some valuePos =>
        if stop ≤ valuePos ∨ charAt json valuePos ≠ '{' then none
        else
          match findObjectSpanInObject json start stop key with
          | none => none
          | some (first, last) => read first last) = some a ↔
      match lookupKey key fields with
      | none => a = absent
      | some (.object _ members) => Reads members a
      | some _ => False := by
  cases value : lookupKey key fields with
  | none =>
    rw [object.absent value]
    exact Option.some_inj.trans eq_comm
  | some v =>
    cases v with
    | object space members =>
      obtain ⟨first, last, found, inside, brace, span, braces⟩ := object.member value
      rw [found]
      dsimp only
      rw [if_neg (by simp [brace]; omega), span]
      exact inner _ _ _ _ value braces
    | null | bool _ | number _ | nonFinite _ | string _ | array _ _ =>
      obtain ⟨pos, found, noBrace⟩ := object.noBrace value nofun
      rw [found]
      dsimp only
      rw [if_pos (.inr noBrace)]
      exact iff_of_false nofun id

omit object in
theorem findRootObjectSpan_object (o : ObjectText) :
    ∃ start stop, findRootObjectSpan o.text = some (start, stop) ∧ Holds o.text start stop o.blank o.fields := by
  obtain ⟨before, blank, fields, after⟩ := o
  have located : (ObjectText.text ⟨before, blank, fields, after⟩).drop 0 =
      before.text ++ '{' :: ((blank.text ++ fieldsText fields) ++ '}' :: after.text) := by
    simp [ObjectText.text, Node.text]
  have length : (ObjectText.text ⟨before, blank, fields, after⟩).length =
      before.text.length + (blank.text ++ fieldsText fields).length + 2 + after.text.length := by
    simp [ObjectText.text, Node.text]
    omega
  generalize ObjectText.text ⟨before, blank, fields, after⟩ = json at located length
  have braced := drop_piece located
  have tail := drop_cons (drop_piece (drop_cons braced))
  have first := charAt_cons braced
  have passes := (passes_blank (.inl rfl) blank).append (passes_fields (.inl rfl) fields)
  have close := findMatchingClose_eq (.inl rfl) passes braced (show _ ≤ json.length by omega)
  refine ⟨0 + before.text.length, 0 + before.text.length + 1 + (blank.text.length + (fieldsText fields).length), ?_, rfl,
    after.text, ?_⟩
  · unfold findRootObjectSpan
    rw [skipWsRange_char (blank_spaces before) located rfl (by omega)]
    dsimp only
    rw [if_neg (by rw [first]; simp; omega), close]
    dsimp only
    have behindRoot : json.drop (0 + before.text.length + (blank.text ++ fieldsText fields).length + 1 + 1) =
        after.text ++ [] := by
      rw [List.append_nil, ← tail]
      congr 1
      omega
    have ends := skipWsRange_spaces (blank_spaces after) behindRoot (show _ ≤ json.length by omega) (.inl (by omega))
    have last : 0 + before.text.length + (blank.text ++ fieldsText fields).length + 1 + 1 + after.text.length =
        json.length := by omega
    rw [last] at ends
    rw [ends, if_neg (not_not_intro rfl), List.length_append]
    congr 2
    omega
  · rw [braced, List.append_assoc]

end lookup
end AotDrone.Fc
