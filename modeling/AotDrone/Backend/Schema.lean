import AotDrone.Json.Value

/-! The checks `tel_schema.py` and `vis_schema.py` are made of, and what it means for a validator
to keep its contract. -/

namespace AotDrone.Backend
open AotDrone.Lib AotDrone.Lib.Double AotDrone.Json

inductive DropReason where
  | oversize
  | json
  | schema
  | range
  | semantics
  deriving DecidableEq, Repr

/-- The text of a validation error; the one about the type tag ends in the `repr` of what was found. -/
inductive Detail where
  | text (message : String)
  | unexpectedType (expected : String) (got : Value)

/-- What a validator raises. -/
inductive Raised where
  | validation (reason : DropReason) (detail : Detail)
  | overflowError

def trackingStates : List ℤ := [1, 2, 3, 4]

/-- The bounds of a field, and how Python prints them. -/
structure Bounds where
  lower : ℤ
  upper : ℤ
  text : String

def signedUnit : Bounds where
  lower := -1
  upper := 1
  text := "[-1.0, 1.0]"

def unit : Bounds where
  lower := 0
  upper := 1
  text := "[0.0, 1.0]"

def Bounds.Holds (bounds : Bounds) (value : Double) : Prop := fin bounds.lower ≤ value ∧ value ≤ fin bounds.upper

instance (bounds : Bounds) : DecidablePred bounds.Holds := fun value =>
  inferInstanceAs (Decidable (fin bounds.lower ≤ value ∧ value ≤ fin bounds.upper))

def refuse {α : Type} (reason : DropReason) (message : String) : Except Raised α :=
  .error (.validation reason (.text message))

def requireObject (kind : String) (payload : Value) : Except Raised Members :=
  match payload with
  | .obj members => .ok members
  | _ => refuse .schema s!"{kind} payload must be a JSON object"

def joined (names : List String) : String := ", ".intercalate names

def requireMembers (kind : String) (required : List String) (members : Members) : Except Raised Unit :=
  let missing := required.filter fun name => !members.has name
  if missing = [] then .ok ()
  else refuse .schema s!"missing required {kind} fields: {joined (missing.mergeSort fun a b => decide (a ≤ b))}"

def requireType (kind : String) (members : Members) : Except Raised Unit :=
  match members.get "type" with
  | .str found =>
    if found = pyStr kind then .ok ()
    else .error (.validation .schema (.unexpectedType kind (.str found)))
  | found => .error (.validation .schema (.unexpectedType kind found))

def requireInt (members : Members) (fieldName : String) : Except Raised ℤ :=
  match members.get fieldName with
  | .int value => .ok value
  | _ => refuse .schema s!"{fieldName} must be int"

/-- `float(value)` raises OverflowError on an integer no double can hold. -/
def requireFloat [Fpu] (members : Members) (fieldName : String) : Except Raised Double :=
  match members.get fieldName with
  | .int value => if (Fpu.round value).isFinite then .ok (Fpu.round value) else .error .overflowError
  | .float value => .ok value
  | _ => refuse .schema s!"{fieldName} must be float/int"

def requireOneOf (allowed : List ℤ) (value : ℤ) (message : String) : Except Raised Unit :=
  if value ∈ allowed then .ok () else refuse .range message

def ensureInRange (fieldName : String) (value : Double) (bounds : Bounds) : Except Raised Unit :=
  if bounds.Holds value then .ok () else refuse .range s!"{fieldName} out of range {bounds.text}"

/-! ## Running checks in sequence -/

section sequence
variable {α β : Type}

theorem bind_ok_iff {x : Except Raised α} {f : α → Except Raised β} {b : β} :
    (x >>= f) = .ok b ↔ ∃ a, x = .ok a ∧ f a = .ok b := by
  cases x with
  | error e => simp [bind, Except.bind]
  | ok a => simp [bind, Except.bind]

theorem bind_overflow_iff {x : Except Raised α} {f : α → Except Raised β} :
    (x >>= f) = .error .overflowError ↔
      x = .error .overflowError ∨ ∃ a, x = .ok a ∧ f a = .error .overflowError := by
  cases x with
  | error e => simp [bind, Except.bind]
  | ok a => simp [bind, Except.bind]

/-- Every validation error of `x` has a reason out of `support`. -/
def Supported (support : List DropReason) (x : Except Raised α) : Prop :=
  ∀ reason detail, x = .error (.validation reason detail) → reason ∈ support

theorem Supported.ok (support : List DropReason) (a : α) : Supported support (.ok a : Except Raised α) := by
  intro reason detail raised
  cases raised

theorem Supported.refuse {support : List DropReason} {reason : DropReason} (member : reason ∈ support)
    (message : String) : Supported support (refuse reason message : Except Raised α) := by
  intro other detail raised
  cases raised
  exact member

theorem Supported.bind {support : List DropReason} {x : Except Raised α} {f : α → Except Raised β}
    (first : Supported support x) (rest : ∀ a, Supported support (f a)) : Supported support (x >>= f) := by
  intro reason detail raised
  cases x with
  | error e =>
    change Except.error e = _ at raised
    cases raised
    exact first reason detail rfl
  | ok a => exact rest a reason detail raised

end sequence

section checks
variable {members : Members} {kind name : String}

@[simp] theorem requireObject_ok {payload : Value} :
    requireObject kind payload = .ok members ↔ payload = .obj members := by
  cases payload <;> simp [requireObject, refuse]

@[simp] theorem requireObject_overflow {payload : Value} :
    requireObject kind payload ≠ .error .overflowError := by
  cases payload <;> simp [requireObject, refuse]

@[simp] theorem requireMembers_ok {required : List String} {u : PUnit} :
    requireMembers kind required members = .ok u ↔ ∀ field ∈ required, members.has field = true := by
  unfold requireMembers
  dsimp only
  split_ifs with none <;> simpa [refuse] using none

@[simp] theorem requireMembers_overflow {required : List String} :
    requireMembers kind required members ≠ .error .overflowError := by
  unfold requireMembers
  dsimp only
  split_ifs <;> simp [refuse]

@[simp] theorem requireType_ok {u : PUnit} :
    requireType kind members = .ok u ↔ members.get "type" = .str (pyStr kind) := by
  unfold requireType
  cases members.get "type" with
  | str found => by_cases same : found = pyStr kind <;> simp [same]
  | null | bool _ | int _ | float _ | arr _ | obj _ => simp

@[simp] theorem requireType_overflow : requireType kind members ≠ .error .overflowError := by
  unfold requireType
  cases members.get "type" with
  | str found => by_cases same : found = pyStr kind <;> simp [same]
  | null | bool _ | int _ | float _ | arr _ | obj _ => simp

@[simp] theorem requireInt_ok {n : ℤ} : requireInt members name = .ok n ↔ members.get name = .int n := by
  unfold requireInt
  cases members.get name <;> simp [refuse]

@[simp] theorem requireInt_overflow : requireInt members name ≠ .error .overflowError := by
  unfold requireInt
  cases members.get name <;> simp [refuse]

@[simp] theorem requireFloat_ok [Fpu] {x : Double} :
    requireFloat members name = .ok x ↔ (members.get name).ByFloat x := by
  unfold requireFloat Value.ByFloat
  cases members.get name with
  | int n =>
    by_cases fits : (Fpu.round n).isFinite = true
    · simp only [fits, ↓reduceIte, Except.ok.injEq, Value.int.injEq, reduceCtorEq, or_false]
      constructor
      · rintro rfl
        exact ⟨n, rfl, rfl, fits⟩
      · rintro ⟨_, rfl, rounded, _⟩
        exact rounded
    · simp only [fits, Bool.false_eq_true, ↓reduceIte, reduceCtorEq, Value.int.injEq, or_false, false_iff]
      rintro ⟨_, rfl, rfl, finite⟩
      exact fits finite
  | float y => simp
  | null | bool _ | str _ | arr _ | obj _ => simp [refuse]

@[simp] theorem requireFloat_overflow [Fpu] :
    requireFloat members name = .error .overflowError ↔ (members.get name).TooLarge := by
  unfold requireFloat Value.TooLarge
  cases members.get name with
  | int n => by_cases fits : (Fpu.round n).isFinite = true <;> simp [fits]
  | float _ | null | bool _ | str _ | arr _ | obj _ => simp [refuse]

@[simp] theorem requireOneOf_ok {allowed : List ℤ} {value : ℤ} {message : String} {u : PUnit} :
    requireOneOf allowed value message = .ok u ↔ value ∈ allowed := by
  unfold requireOneOf
  split_ifs with member <;> simpa [refuse] using member

@[simp] theorem requireOneOf_overflow {allowed : List ℤ} {value : ℤ} {message : String} :
    requireOneOf allowed value message ≠ .error .overflowError := by
  unfold requireOneOf
  split_ifs <;> simp [refuse]

@[simp] theorem ensureInRange_ok {value : Double} {bounds : Bounds} {u : PUnit} :
    ensureInRange name value bounds = .ok u ↔ bounds.Holds value := by
  unfold ensureInRange
  split_ifs with holds <;> simpa [refuse] using holds

@[simp] theorem ensureInRange_overflow {value : Double} {bounds : Bounds} :
    ensureInRange name value bounds ≠ .error .overflowError := by
  unfold ensureInRange
  split_ifs <;> simp [refuse]

end checks

/-! The checks raise for the schema or for a range. -/

section reasons
variable {support : List DropReason} (kind name : String) (members : Members)

theorem requireObject_supported (schema : .schema ∈ support) (payload : Value) :
    Supported support (requireObject kind payload) := by
  cases payload with
  | obj members => exact .ok support members
  | null | bool _ | int _ | float _ | str _ | arr _ => exact .refuse schema _

theorem requireMembers_supported (schema : .schema ∈ support) (required : List String) :
    Supported support (requireMembers kind required members) := by
  unfold requireMembers
  dsimp only
  split_ifs
  · exact .ok support ()
  · exact .refuse schema _

theorem requireType_supported (schema : .schema ∈ support) : Supported support (requireType kind members) := by
  intro reason detail raised
  unfold requireType at raised
  split at raised
  · split_ifs at raised
    cases raised
    exact schema
  · cases raised
    exact schema

theorem requireInt_supported (schema : .schema ∈ support) : Supported support (requireInt members name) := by
  unfold requireInt
  cases members.get name with
  | int n => exact .ok support n
  | null | bool _ | float _ | str _ | arr _ | obj _ => exact .refuse schema _

theorem requireFloat_supported [Fpu] (schema : .schema ∈ support) :
    Supported support (requireFloat members name) := by
  unfold requireFloat
  cases members.get name with
  | int n =>
    dsimp only
    split_ifs
    · exact .ok support _
    · intro reason detail raised
      cases raised
  | float x => exact .ok support x
  | null | bool _ | str _ | arr _ | obj _ => exact .refuse schema _

theorem requireOneOf_supported (range : .range ∈ support) (allowed : List ℤ) (value : ℤ) (message : String) :
    Supported support (requireOneOf allowed value message) := by
  unfold requireOneOf
  split_ifs
  · exact .ok support ()
  · exact .refuse range _

theorem ensureInRange_supported (range : .range ∈ support) (value : Double) (bounds : Bounds) :
    Supported support (ensureInRange name value bounds) := by
  unfold ensureInRange
  split_ifs
  · exact .ok support ()
  · exact .refuse range _

end reasons
end AotDrone.Backend
