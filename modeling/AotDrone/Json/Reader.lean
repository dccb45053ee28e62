import AotDrone.Json.Loads

/-! The readers of JSON text on both ends: `json.loads` of Python, RFC 8259 with words for the floats that are not finite
and the recursion limit of the interpreter, and `JSON.parse` of ECMAScript, which knows no such words, no integers and no
depth. -/

namespace AotDrone.Json
open AotDrone.Lib AotDrone.Lib.Double

/-- What `json.loads` raises; `fuel` is the bound of the reader below and is never met. -/
inductive LoadsError where
  | decodeError
  | recursionError
  | fuel
  deriving DecidableEq

/-- Where the readers differ on scalars. -/
structure Dialect where
  words : Bool
  integers : Bool

def literals : List (String × Value) :=
  [("null", .null), ("true", .bool true), ("false", .bool false), ("NaN", .float nan),
    ("Infinity", .float (inf false)), ("-Infinity", .float (inf true))]

namespace Dialect

def python : Dialect := { words := true, integers := true }

def ecma : Dialect := { words := false, integers := false }

def literals (dialect : Dialect) : List (String × Value) :=
  if dialect.words then Json.literals else Json.literals.take 3

/-- A literal at the head. -/
def scanLiteral (dialect : Dialect) (s : PyStr) : Option (Value × PyStr) :=
  dialect.literals.findSome? fun literal =>
    if (pyStr literal.1).isPrefixOf s then some (literal.2, s.drop (pyStr literal.1).length) else none

variable [Fpu]

def number (dialect : Dialect) : Value → Value
  | .int n => if dialect.integers then .int n else .float (Fpu.round n)
  | v => v

def scanScalar (dialect : Dialect) (s : PyStr) : Option (Value × PyStr) :=
  (dialect.scanLiteral s).or ((scanNumber s).map fun (value, rest) => (dialect.number value, rest))

/-! The readers of values. `depth` is how many containers may still be entered. -/

mutual
def readValue (dialect : Dialect) : Nat → Nat → PyStr → Except LoadsError (Value × PyStr)
  | 0, _, _ => .error .fuel
  | fuel + 1, depth, s =>
    match s with
    | [] => .error .decodeError
    | c :: rest =>
      if c.is '"' then
        match scanString rest with
        | some (value, rest) => .ok (.str value, rest)
        | none => .error .decodeError
      else if c.is '\x7b' then
        match depth with
        | 0 => .error .recursionError
        | depth + 1 =>
          match skipWhitespace rest with
          | [] => .error .decodeError
          | d :: after =>
            if d.is '\x7d' then .ok (.obj [], after) else dialect.readMembers fuel depth [] (d :: after)
      else if c.is '[' then
        match depth with
        | 0 => .error .recursionError
        | depth + 1 =>
          match skipWhitespace rest with
          | [] => .error .decodeError
          | d :: after => if d.is ']' then .ok (.arr [], after) else dialect.readItems fuel depth [] (d :: after)
      else
        match dialect.scanScalar s with
        | some found => .ok found
        | none => .error .decodeError
def readMembers (dialect : Dialect) : Nat → Nat → Members → PyStr → Except LoadsError (Value × PyStr)
  | 0, _, _, _ => .error .fuel
  | fuel + 1, depth, members, s =>
    match s with
    | [] => .error .decodeError
    | c :: rest =>
      if c.is '"' then
        match scanString rest with
        | none => .error .decodeError
        | some (key, rest) =>
          match skipWhitespace rest with
          | [] => .error .decodeError
          | d :: rest =>
            if d.is ':' then
              match dialect.readValue fuel depth (skipWhitespace rest) with
              | .error e => .error e
              | .ok (value, rest) =>
                match skipWhitespace rest with
                | [] => .error .decodeError
                | d :: rest =>
                  if d.is '\x7d' then .ok (.obj (Members.set members key value), rest)
                  else if d.is ',' then
                    dialect.readMembers fuel depth (Members.set members key value) (skipWhitespace rest)
                  else .error .decodeError
            else .error .decodeError
      else .error .decodeError
def readItems (dialect : Dialect) : Nat → Nat → List Value → PyStr → Except LoadsError (Value × PyStr)
  | 0, _, _, _ => .error .fuel
  | fuel + 1, depth, items, s =>
    match dialect.readValue fuel depth s with
    | .error e => .error e
    | .ok (value, rest) =>
      match skipWhitespace rest with
      | [] => .error .decodeError
      | d :: rest =>
        if d.is ']' then .ok (.arr (items ++ [value]), rest)
        else if d.is ',' then dialect.readItems fuel depth (items ++ [value]) (skipWhitespace rest)
        else .error .decodeError
end

/-- A whole text, with at most `depth` containers open at once. -/
def read (dialect : Dialect) (depth : Nat) (s : PyStr) : Except LoadsError Value :=
  match dialect.readValue (2 * s.length + 1) depth (skipWhitespace s) with
  | .error e => .error e
  | .ok (value, rest) => if skipWhitespace rest = [] then .ok value else .error .decodeError

/-! ## One step of each reader -/

/-- What a member begins with: the key, and what is left behind the colon. -/
def MemberHead (s key tail : PyStr) : Prop :=
  ∃ quote rest behind colon, s = quote :: rest ∧ scanString rest = some (key, behind) ∧
    skipWhitespace behind = colon :: tail

section steps
variable {dialect : Dialect} {P : Except LoadsError (Value × PyStr) → Prop} {fuel depth : Nat} {s : PyStr}

theorem readValue_cases (undecodable : P (.error .decodeError)) (tooDeep : P (.error .recursionError))
    (string : ∀ quote rest value after, s = quote :: rest → scanString rest = some (value, after) →
      P (.ok (.str value, after)))
    (object : ∀ brace rest d after inner, s = brace :: rest → skipWhitespace rest = d :: after →
      P (.ok (.obj [], after)) ∧ P (dialect.readMembers fuel inner [] (d :: after)))
    (array : ∀ bracket rest d after inner, s = bracket :: rest → skipWhitespace rest = d :: after →
      P (.ok (.arr [], after)) ∧ P (dialect.readItems fuel inner [] (d :: after)))
    (scalar : ∀ found, dialect.scanScalar s = some found → P (.ok found)) :
    P (dialect.readValue (fuel + 1) depth s) := by
  unfold readValue
  split
  · exact undecodable
  · rename_i c rest
    split_ifs
    · cases scanned : scanString rest with
      | none => exact undecodable
      | some pair => exact string c rest pair.1 pair.2 rfl scanned
    · cases depth with
      | zero => exact tooDeep
      | succ inner =>
        cases skipped : skipWhitespace rest with
        | nil => exact undecodable
        | cons d after =>
          obtain ⟨empty, members⟩ := object c rest d after inner rfl skipped
          dsimp only
          split_ifs
          · exact empty
          · exact members
    · cases depth with
      | zero => exact tooDeep
      | succ inner =>
        cases skipped : skipWhitespace rest with
        | nil => exact undecodable
        | cons d after =>
          obtain ⟨empty, items⟩ := array c rest d after inner rfl skipped
          dsimp only
          split_ifs
          · exact empty
          · exact items
    · cases scanned : dialect.scanScalar (c :: rest) with
      | none => exact undecodable
      | some found => exact scalar found scanned

theorem readMembers_cases {members : Members} (undecodable : P (.error .decodeError))
    (failed : ∀ key tail e, MemberHead s key tail → dialect.readValue fuel depth (skipWhitespace tail) = .error e → P (.error e))
    (read : ∀ key tail value left d next, MemberHead s key tail →
      dialect.readValue fuel depth (skipWhitespace tail) = .ok (value, left) → skipWhitespace left = d :: next →
      P (.ok (.obj (Members.set members key value), next)) ∧
        P (dialect.readMembers fuel depth (Members.set members key value) (skipWhitespace next))) :
    P (dialect.readMembers (fuel + 1) depth members s) := by
  unfold readMembers
  split
  · exact undecodable
  · rename_i c rest
    split_ifs
    · cases scanned : scanString rest with
      | none => exact undecodable
      | some pair =>
        obtain ⟨key, behind⟩ := pair
        dsimp only
        cases skipped : skipWhitespace behind with
        | nil => exact undecodable
        | cons colon tail =>
          have head : MemberHead (c :: rest) key tail := ⟨c, rest, behind, colon, rfl, scanned, skipped⟩
          dsimp only
          split_ifs
          · cases found : dialect.readValue fuel depth (skipWhitespace tail) with
            | error e => exact failed key tail e head found
            | ok pair =>
              obtain ⟨value, left⟩ := pair
              dsimp only
              cases after : skipWhitespace left with
              | nil => exact undecodable
              | cons d next =>
                obtain ⟨last, more⟩ := read key tail value left d next head found after
                dsimp only
                split_ifs
                · exact last
                · exact more
                · exact undecodable
          · exact undecodable
    · exact undecodable

theorem readItems_cases {items : List Value} (undecodable : P (.error .decodeError))
    (failed : ∀ e, dialect.readValue fuel depth s = .error e → P (.error e))
    (read : ∀ value left d next, dialect.readValue fuel depth s = .ok (value, left) → skipWhitespace left = d :: next →
      P (.ok (.arr (items ++ [value]), next)) ∧ P (dialect.readItems fuel depth (items ++ [value]) (skipWhitespace next))) :
    P (dialect.readItems (fuel + 1) depth items s) := by
  unfold readItems
  cases found : dialect.readValue fuel depth s with
  | error e => exact failed e found
  | ok pair =>
    obtain ⟨value, left⟩ := pair
    dsimp only
    cases after : skipWhitespace left with
    | nil => exact undecodable
    | cons d next =>
      obtain ⟨last, more⟩ := read value left d next found after
      dsimp only
      split_ifs
      · exact last
      · exact more
      · exact undecodable

end steps

/-! ## The readers never run out of fuel

Every reader leaves less than it found, and two units for each code point are enough. -/

omit [Fpu] in
theorem literals_known {dialect : Dialect} {literal : String × Value} (member : literal ∈ dialect.literals) :
    literal ∈ Json.literals := by
  unfold literals at member
  split_ifs at member
  · exact member
  · exact List.mem_of_mem_take member

omit [Fpu] in
theorem scanLiteral_shorter {dialect : Dialect} {s : PyStr} {value : Value} {rest : PyStr}
    (scanned : dialect.scanLiteral s = some (value, rest)) : rest.length < s.length := by
  obtain ⟨literal, member, found⟩ := List.exists_of_findSome?_eq_some scanned
  split_ifs at found with isPrefix
  cases found
  have bound := (List.isPrefixOf_iff_prefix.1 isPrefix).length_le
  have positive : ∀ literal ∈ Json.literals, 0 < (pyStr literal.1).length := by decide +kernel
  have := positive literal (literals_known member)
  rw [List.length_drop]
  omega

theorem scanScalar_shorter {dialect : Dialect} {s : PyStr} {value : Value} {rest : PyStr}
    (scanned : dialect.scanScalar s = some (value, rest)) : rest.length < s.length := by
  rcases Option.or_eq_some_iff.1 scanned with literal | ⟨-, number⟩
  · exact scanLiteral_shorter literal
  · obtain ⟨⟨own, left⟩, scannedNumber, same⟩ := Option.map_eq_some_iff.1 number
    cases same
    exact scanNumber_shorter scannedNumber

/-- The reader had fuel enough, and a value it read leaves less than `s`. -/
def Shortens (s : PyStr) (result : Except LoadsError (Value × PyStr)) : Prop :=
  result ≠ .error .fuel ∧ ∀ value rest, result = .ok (value, rest) → rest.length < s.length

namespace Shortens
variable {s t : PyStr}

omit [Fpu] in
theorem refused {e : LoadsError} (other : e ≠ .fuel) : Shortens s (.error e) := by
  refine ⟨?_, ?_⟩
  · intro same
    cases same
    exact other rfl
  · intro value rest found
    cases found

omit [Fpu] in
theorem found {value : Value} {rest : PyStr} (shorter : rest.length < s.length) :
    Shortens s (.ok (value, rest)) := by
  refine ⟨?_, ?_⟩
  · intro same
    cases same
  · intro _ _ same
    cases same
    exact shorter

omit [Fpu] in
theorem mono {result : Except LoadsError (Value × PyStr)} (shortens : Shortens t result)
    (longer : t.length ≤ s.length) : Shortens s result :=
  ⟨shortens.1, fun value rest found => (shortens.2 value rest found).trans_le longer⟩

end Shortens

omit [Fpu] in
theorem length_of_skip {s rest : PyStr} {d : CodePoint} (skipped : skipWhitespace s = d :: rest) :
    rest.length < s.length := by
  have bound := length_skipWhitespace s
  rw [skipped, List.length_cons] at bound
  omega

omit [Fpu] in
theorem MemberHead.shorter {s key tail : PyStr} (head : MemberHead s key tail) : tail.length + 2 < s.length := by
  obtain ⟨quote, rest, behind, colon, rfl, scanned, skipped⟩ := head
  have keyed := scanString_shorter scanned
  have valued := length_of_skip skipped
  rw [List.length_cons]
  omega

/-- One more unit of fuel for each of the three readers. -/
theorem shortens (dialect : Dialect) (fuel : Nat) :
    (∀ depth s, 2 * s.length + 1 ≤ fuel → Shortens s (dialect.readValue fuel depth s)) ∧
      (∀ depth members s, 2 * s.length + 1 ≤ fuel → Shortens s (dialect.readMembers fuel depth members s)) ∧
      ∀ depth items s, 2 * s.length + 2 ≤ fuel → Shortens s (dialect.readItems fuel depth items s) := by
  induction fuel with
  | zero =>
    refine ⟨?_, ?_, ?_⟩
    · intro depth s enough
      omega
    · intro depth members s enough
      omega
    · intro depth items s enough
      omega
  | succ fuel ih =>
    obtain ⟨values, members, items⟩ := ih
    have undecodable (s : PyStr) : Shortens s (.error .decodeError) := .refused (by decide)
    refine ⟨?_, ?_, ?_⟩
    · intro depth s enough
      apply readValue_cases (undecodable s) (.refused (by decide))
      · rintro quote rest value after rfl scanned
        exact .found ((scanString_shorter scanned).trans (Nat.lt_succ_self _))
      · rintro brace rest d after inner rfl skipped
        have shorter := length_of_skip skipped
        rw [List.length_cons] at enough
        refine ⟨.found (by rw [List.length_cons]; omega), (members inner [] _ ?_).mono ?_⟩
        · rw [List.length_cons]
          omega
        · simp only [List.length_cons]
          omega
      · rintro bracket rest d after inner rfl skipped
        have shorter := length_of_skip skipped
        rw [List.length_cons] at enough
        refine ⟨.found (by rw [List.length_cons]; omega), (items inner [] _ ?_).mono ?_⟩
        · rw [List.length_cons]
          omega
        · simp only [List.length_cons]
          omega
      · exact fun found scanned => .found (scanScalar_shorter scanned)
    · intro depth read s enough
      apply readMembers_cases (undecodable s)
      · intro key tail e head failed
        have shorter := head.shorter
        have bound := length_skipWhitespace tail
        have first := values depth (skipWhitespace tail) (by omega)
        rw [failed] at first
        exact .refused fun same => first.1 (by rw [same])
      · intro key tail value left d next head found after
        have shorter := head.shorter
        have bound := length_skipWhitespace tail
        have first := (values depth (skipWhitespace tail) (by omega)).2 value left found
        have closing := length_of_skip after
        have last := length_skipWhitespace next
        exact ⟨.found (by omega), (members depth _ _ (by omega)).mono (by omega)⟩
    · intro depth read s enough
      have first := values depth s (by omega)
      apply readItems_cases (undecodable s)
      · intro e failed
        rw [failed] at first
        exact .refused fun same => first.1 (by rw [same])
      · intro value left d next found after
        have shorter := first.2 value left found
        have closing := length_of_skip after
        have last := length_skipWhitespace next
        exact ⟨.found (by omega), (items depth _ _ (by omega)).mono (by omega)⟩

theorem read_ne_fuel (dialect : Dialect) (depth : Nat) (s : PyStr) : dialect.read depth s ≠ .error .fuel := by
  have bound := length_skipWhitespace s
  have shortens := (dialect.shortens (2 * s.length + 1)).1 depth (skipWhitespace s) (by omega)
  unfold read
  cases scanned : dialect.readValue (2 * s.length + 1) depth (skipWhitespace s) with
  | error e =>
    intro same
    rw [scanned] at shortens
    exact shortens.1 (by cases same; rfl)
  | ok pair =>
    dsimp only
    split_ifs <;> exact fun same => by cases same

end Dialect

variable [Fpu]

/-- `json.loads`, where `recursionLimit` containers may be open at once. -/
def loads (recursionLimit : Nat) (s : PyStr) : Except LoadsError Value := Dialect.python.read recursionLimit s

/-- `JSON.parse`. No text opens more containers than it has characters. -/
def jsonParse (s : PyStr) : Option Value := (Dialect.ecma.read s.length s).toOption

end AotDrone.Json
