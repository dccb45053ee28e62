import AotDrone.Backend.Broadcast
import AotDrone.Link.EnvelopeText
import AotDrone.Webapp.Updates

/-! When the data of an update says in the webapp what it says in the backend. -/

namespace AotDrone.Link
open AotDrone.Lib AotDrone.Lib.Double AotDrone.Json AotDrone.Backend AotDrone.Webapp

section numbers
variable [Fpu]

/-- A double holds the integer. -/
def ExactInt (n : ℤ) : Prop := Fpu.round n = fin n

/-- A float that any reader of numbers takes. -/
structure FiniteDouble (x : Double) : Prop where
  finite : x.isFinite = true
  double : IsDouble x

theorem exactInt_small {n : ℤ} (small : |n| ≤ 2 ^ 53) : ExactInt n := Fpu.round_int n small

theorem readNumber_exact (n : ℤ) : readNumber (some (.float (Fpu.round n))) = some (fin n) ↔ ExactInt n := by
  unfold readNumber ExactInt
  by_cases finite : (Fpu.round (n : ℚ)).isFinite = true
  · simp only [finite, ↓reduceIte, Option.some.injEq]
  · simp only [finite, Bool.false_eq_true, ↓reduceIte, reduceCtorEq, false_iff]
    intro exactly
    rw [exactly] at finite
    exact finite rfl

/-- A counter that is missing reads as zero, which no counter beyond the doubles is. -/
theorem readCounter_exact (n : ℤ) : readCounter (some (.float (Fpu.round n))) = fin n ↔ ExactInt n := by
  rw [← readNumber_exact, readCounter]
  cases read : readNumber (some (.float (Fpu.round (n : ℚ)))) with
  | some x => rw [Option.getD_some, Option.some.injEq]
  | none =>
    simp only [Option.getD_none, reduceCtorEq, iff_false]
    intro zero
    have none : n = 0 := by exact_mod_cast (Double.fin.inj zero).symm
    have found := (readNumber_exact 0).2 (exactInt_small (by decide))
    rw [← none, read] at found
    cases found

omit [Fpu] in
theorem readNumber_float {x : Double} (finite : x.isFinite = true) : readNumber (some (.float x)) = some x :=
  if_pos finite

omit [Fpu] in
theorem readCounter_float {x : Double} (finite : x.isFinite = true) : readCounter (some (.float x)) = x := by
  rw [readCounter, readNumber_float finite]
  rfl

/-- A reading of `time.monotonic()`. -/
structure Monotonic (x : Double) : Prop extends FiniteDouble x where
  nonneg : 0 ≤ x

/-- The time between two readings of the clock, or zero. -/
theorem finiteDouble_age {now lastRx : Double} (present : Monotonic now) (past : Monotonic lastRx) :
    FiniteDouble (SharedState.ageSince now lastRx) := by
  obtain ⟨a, rfl⟩ := isFinite_iff.1 present.finite
  obtain ⟨b, rfl⟩ := isFinite_iff.1 past.finite
  have later : 0 ≤ b := fin_le_fin.1 past.nonneg
  have double : IsDouble (fin a - fin b) := by
    rw [fin_sub]
    exact isDouble_round _
  have aged : IsDouble (SharedState.ageSince (fin a) (fin b)) := isDouble_pyMax isDouble_zero double
  refine ⟨?_, aged⟩
  rw [SharedState.ageSince, fin_sub]
  by_cases forward : b ≤ a
  · obtain ⟨q, rounded, -⟩ := round_within isDouble_zero present.double (sub_nonneg.2 forward) (sub_le_self a later)
    rw [rounded]
    rcases pyMax_cases 0 (fin q) with same | same <;> rw [same] <;> rfl
  · have below : Fpu.round (a - b) ≤ 0 := by
      have rounded := Fpu.round_mono (sub_nonpos.2 (not_le.1 forward).le)
      rwa [round_zero] at rounded
    rw [pyMax, if_neg (Double.not_lt_of_le below)]
    rfl

end numbers

section members
variable [Fpu] [FloatRepr] {members : Members} (name : String) {value : Option Double}

omit [Fpu] [FloatRepr] in
theorem nullable_flat (value : Option Double) : Flat (nullable value) := by cases value <;> trivial

omit [FloatRepr] in
theorem nullable_sayable (finite : ∀ x ∈ value, FiniteDouble x) : Sayable (nullable value) := by
  cases value with
  | none => trivial
  | some x => exact (finite x rfl).finite

theorem readNumber_member {x : Double} (finite : FiniteDouble x)
    (known : members.lookup (pyStr name) = some (.float x)) :
    readNumber (property (ecmaMembers members) name) = some x := by
  rw [property_float name finite.double known]
  exact readNumber_float finite.finite

theorem readCounter_member {x : Double} (finite : FiniteDouble x)
    (known : members.lookup (pyStr name) = some (.float x)) :
    readCounter (property (ecmaMembers members) name) = x := by
  rw [property_float name finite.double known]
  exact readCounter_float finite.finite

theorem readNullable_member (finite : ∀ x ∈ value, FiniteDouble x)
    (known : members.lookup (pyStr name) = some (nullable value)) :
    readNullableNumber (property (ecmaMembers members) name) = value := by
  rw [property_ecma name known]
  cases value with
  | none => rfl
  | some x =>
    rw [nullable, ecma_float (finite x rfl).double]
    exact readNumber_float (finite x rfl).finite

end members

section specs
variable {x : Double} (key : String)

/-- The bounds of the validator are those of the webapp. -/
theorem admits_bounded {bounds : Bounds} (holds : bounds.Holds x) :
    (FieldSpec.bounded key (fin bounds.lower) (fin bounds.upper)).Admits x :=
  ⟨holds.finite, Double.not_lt_of_le holds.1, Double.not_lt_of_le holds.2⟩

theorem admits_signed (holds : signedUnit.Holds x) : (FieldSpec.bounded key (-1) 1).Admits x := by
  have least : fin ((signedUnit.lower : ℤ) : ℚ) = -1 := by decide +kernel
  have most : fin ((signedUnit.upper : ℤ) : ℚ) = 1 := by decide +kernel
  rw [← least, ← most]
  exact admits_bounded key holds

theorem admits_unit (holds : unit.Holds x) : (FieldSpec.bounded key 0 1).Admits x := by
  have least : fin ((unit.lower : ℤ) : ℚ) = 0 := by decide +kernel
  have most : fin ((unit.upper : ℤ) : ℚ) = 1 := by decide +kernel
  rw [← least, ← most]
  exact admits_bounded key holds

theorem admits_state {n : ℤ} (known : n ∈ trackingStates) :
    (FieldSpec.enum "tracking_state" trackingStateValues).Admits (fin n) := by
  refine ⟨rfl, ?_⟩
  simp only [trackingStates, List.mem_cons, List.not_mem_nil, or_false] at known
  rcases known with rfl | rfl | rfl | rfl <;> decide +kernel

theorem admits_mode {n : ℤ} (known : n ∈ controlModes) :
    (FieldSpec.enum "control_mode" controlModeValues).Admits (fin n) := by
  refine ⟨rfl, ?_⟩
  simp only [controlModes, List.mem_cons, List.not_mem_nil, or_false] at known
  rcases known with rfl | rfl | rfl | rfl <;> decide +kernel

theorem exactInt_state [Fpu] {n : ℤ} (known : n ∈ trackingStates) : ExactInt n := by
  apply exactInt_small
  simp only [trackingStates, List.mem_cons, List.not_mem_nil, or_false] at known
  rcases known with rfl | rfl | rfl | rfl <;> decide

theorem exactInt_mode [Fpu] {n : ℤ} (known : n ∈ controlModes) : ExactInt n := by
  apply exactInt_small
  simp only [controlModes, List.mem_cons, List.not_mem_nil, or_false] at known
  rcases known with rfl | rfl | rfl | rfl <;> decide

end specs

/-! ## TEL -/

section tel
variable [Fpu] [FloatRepr]

/-- What a validator has checked of a stored message, and that its numbers are those of the machine. -/
structure TelSound (msg : TelMessage) : Prop where
  mode_mem : msg.controlMode ∈ controlModes
  state_mem : msg.trackingState ∈ trackingStates
  targetX_range : signedUnit.Holds msg.targetX
  targetY_range : signedUnit.Holds msg.targetY
  boundW_range : unit.Holds msg.boundW
  boundH_range : unit.Holds msg.boundH
  confidence_range : unit.Holds msg.confidence
  doubles : ∀ x ∈ msg.unbounded ++ msg.bounded, IsDouble x

/-- The update that says what a message says. -/
def shownTel (msg : TelMessage) (rxMonotonic telAge : Option Double) : TelUpdate where
  type := some (pyStr "TEL")
  seq := some (fin msg.seq)
  timestamp := some msg.timestamp
  controlMode := some (fin msg.controlMode)
  trackingState := some (fin msg.trackingState)
  distFront := some msg.distFront
  distBack := some msg.distBack
  distBottom := some msg.distBottom
  targetX := some msg.targetX
  targetY := some msg.targetY
  boundW := some msg.boundW
  boundH := some msg.boundH
  confidence := some msg.confidence
  cmdAge := none
  rxMonotonic := rxMonotonic
  telAge := telAge

variable {msg : TelMessage} {rxMonotonic telAge : Option Double}

omit [Fpu] [FloatRepr] in
theorem telUpdateData_eq (msg : TelMessage) (rxMonotonic telAge : Option Double) :
    telUpdateData msg rxMonotonic telAge =
      msg.members ++ [(pyStr "rx_monotonic_s", nullable rxMonotonic), (pyStr "tel_age_s", nullable telAge)] := by
  have first : pyStr "rx_monotonic_s" ∉ msg.members.map Prod.fst := by
    simp only [TelMessage.members, List.map_cons, List.map_nil]
    decide
  have second : pyStr "tel_age_s" ∉ (msg.members ++ [(pyStr "rx_monotonic_s", nullable rxMonotonic)]).map Prod.fst := by
    simp only [TelMessage.members, List.map_append, List.map_cons, List.map_nil]
    decide
  rw [telUpdateData, set_new first, set_new second, List.append_assoc]
  rfl

omit [Fpu] [FloatRepr] in
theorem telUpdateData_flat (msg : TelMessage) (rxMonotonic telAge : Option Double) :
    FlatData (telUpdateData msg rxMonotonic telAge) := by
  rw [telUpdateData_eq]
  refine ⟨?_, ?_, ?_⟩
  · simp only [TelMessage.members, List.cons_append, List.nil_append, List.forall_mem_cons, List.not_mem_nil,
      false_imp_iff, implies_true, and_true]
    have tag : Printable (pyStr "TEL") := by decide
    exact ⟨tag, trivial, trivial, trivial, trivial, trivial, trivial, trivial, trivial, trivial, trivial, trivial,
      trivial, nullable_flat _, nullable_flat _⟩
  · simp only [TelMessage.members, List.cons_append, List.nil_append, List.forall_mem_cons, List.not_mem_nil,
      false_imp_iff, implies_true, and_true]
    decide
  · simp only [TelMessage.members, List.cons_append, List.nil_append, List.map_cons, List.map_nil]
    decide

/-- What the parser makes of a message with finite numbers: only its number may have changed. -/
theorem parseTelUpdate_data (sound : TelSound msg) (finite : ∀ x ∈ msg.unbounded, x.isFinite = true)
    (received : ∀ x ∈ rxMonotonic, FiniteDouble x) (aged : ∀ x ∈ telAge, FiniteDouble x) :
    parseTelUpdate (.obj (ecmaMembers (telUpdateData msg rxMonotonic telAge))) =
      { value := some
          { shownTel msg rxMonotonic telAge with seq := readNumber (some (.float (Fpu.round msg.seq))) }
        mismatch := none } := by
  have doubles := sound.doubles
  simp only [TelMessage.unbounded, TelMessage.bounded, List.cons_append, List.nil_append, List.forall_mem_cons,
    List.not_mem_nil, false_imp_iff, implies_true, and_true] at doubles finite
  obtain ⟨timestampD, frontD, backD, bottomD, targetXD, targetYD, boundWD, boundHD, confidenceD⟩ := doubles
  obtain ⟨timestampF, frontF, backF, bottomF⟩ := finite
  rw [telUpdateData_eq]
  have fields : List.Forall₂
      (FieldSpec.Holds (ecmaMembers (msg.members ++
        [(pyStr "rx_monotonic_s", nullable rxMonotonic), (pyStr "tel_age_s", nullable telAge)])))
      telFieldSpecs
      [("target_x", msg.targetX), ("target_y", msg.targetY), ("bound_w", msg.boundW), ("bound_h", msg.boundH),
        ("confidence", msg.confidence), ("tracking_state", fin msg.trackingState),
        ("control_mode", fin msg.controlMode)] := by
    exact .cons ⟨rfl, property_float "target_x" targetXD rfl, admits_signed _ sound.targetX_range⟩ <|
      .cons ⟨rfl, property_float "target_y" targetYD rfl, admits_signed _ sound.targetY_range⟩ <|
      .cons ⟨rfl, property_float "bound_w" boundWD rfl, admits_unit _ sound.boundW_range⟩ <|
      .cons ⟨rfl, property_float "bound_h" boundHD rfl, admits_unit _ sound.boundH_range⟩ <|
      .cons ⟨rfl, property_float "confidence" confidenceD rfl, admits_unit _ sound.confidence_range⟩ <|
      .cons ⟨rfl, property_int "tracking_state" (exactInt_state sound.state_mem) rfl, admits_state sound.state_mem⟩ <|
      .cons ⟨rfl, property_int "control_mode" (exactInt_mode sound.mode_mem) rfl, admits_mode sound.mode_mem⟩ .nil
  rw [parseTelUpdate, asRecord]
  dsimp only
  rw [validateFields_ok fields]
  dsimp only
  have age : property (ecmaMembers (msg.members ++
      [(pyStr "rx_monotonic_s", nullable rxMonotonic), (pyStr "tel_age_s", nullable telAge)])) "cmd_age_s" = none := by
    rw [property, ecmaMembers, lookup_map_values]
    rfl
  rw [property_ecma "type" rfl, property_ecma "seq" rfl, age,
    readNumber_member "timestamp_s" ⟨timestampF, timestampD⟩ rfl, readNumber_member "distFront_m" ⟨frontF, frontD⟩ rfl,
    readNumber_member "distBack_m" ⟨backF, backD⟩ rfl, readNumber_member "distBottom_m" ⟨bottomF, bottomD⟩ rfl,
    readNullable_member "rx_monotonic_s" received rfl, readNullable_member "tel_age_s" aged rfl]
  rfl

/-- The numbers of a message that no range bounds are finite, and a double holds its number. -/
def TelTold (msg : TelMessage) : Prop := ExactInt msg.seq ∧ ∀ x ∈ msg.unbounded, x.isFinite = true

omit [FloatRepr] in
theorem telUpdateData_sayable (sound : TelSound msg) (received : ∀ x ∈ rxMonotonic, FiniteDouble x)
    (aged : ∀ x ∈ telAge, FiniteDouble x) :
    (∀ m ∈ telUpdateData msg rxMonotonic telAge, Sayable m.2) ↔ ∀ x ∈ msg.unbounded, x.isFinite = true := by
  rw [telUpdateData_eq]
  simp only [TelMessage.members, TelMessage.unbounded, List.cons_append, List.nil_append, List.forall_mem_cons,
    List.not_mem_nil, false_imp_iff, implies_true, and_true]
  constructor
  · rintro ⟨-, -, timestamp, -, -, front, back, bottom, -⟩
    exact ⟨timestamp, front, back, bottom⟩
  · rintro ⟨timestamp, front, back, bottom⟩
    exact ⟨trivial, trivial, timestamp, trivial, trivial, front, back, bottom, sound.targetX_range.finite,
      sound.targetY_range.finite, sound.boundW_range.finite, sound.boundH_range.finite, sound.confidence_range.finite,
      nullable_sayable received, nullable_sayable aged⟩

theorem telTold_iff (sound : TelSound msg) (received : ∀ x ∈ rxMonotonic, FiniteDouble x)
    (aged : ∀ x ∈ telAge, FiniteDouble x) :
    (∀ m ∈ telUpdateData msg rxMonotonic telAge, Sayable m.2) ∧
        parseTelUpdate (.obj (ecmaMembers (telUpdateData msg rxMonotonic telAge))) =
          { value := some (shownTel msg rxMonotonic telAge), mismatch := none } ↔
      TelTold msg := by
  rw [telUpdateData_sayable sound received aged, TelTold, and_comm]
  apply and_congr_left
  intro finite
  rw [parseTelUpdate_data sound finite received aged, ← readNumber_exact]
  simp only [shownTel, ParsedUpdate.mk.injEq, Option.some.injEq, TelUpdate.mk.injEq, and_true, true_and]

end tel

/-! ## VIS -/

section vis
variable [Fpu] [FloatRepr]

structure VisSound (msg : VisMessage) : Prop where
  state_mem : msg.trackingState ∈ trackingStates
  locX_range : signedUnit.Holds msg.locX
  locY_range : signedUnit.Holds msg.locY
  boundW_range : unit.Holds msg.boundW
  boundH_range : unit.Holds msg.boundH
  confidence_range : unit.Holds msg.confidence
  doubles : ∀ x ∈ msg.timestamp :: msg.trackingFields.map Prod.snd, IsDouble x

def shownVis (msg : VisMessage) (rxMonotonic visAge : Option Double) : VisUpdate where
  type := some (pyStr "VIS")
  seq := some (fin msg.seq)
  timestamp := some msg.timestamp
  trackingState := some (fin msg.trackingState)
  locX := some msg.locX
  locY := some msg.locY
  boundW := some msg.boundW
  boundH := some msg.boundH
  confidence := some msg.confidence
  rxMonotonic := rxMonotonic
  visAge := visAge

variable {msg : VisMessage} {rxMonotonic visAge : Option Double}

omit [Fpu] [FloatRepr] in
theorem visUpdateData_eq (msg : VisMessage) (rxMonotonic visAge : Option Double) :
    visUpdateData msg rxMonotonic visAge =
      msg.members ++ [(pyStr "rx_monotonic_s", nullable rxMonotonic), (pyStr "vis_age_s", nullable visAge)] := by
  have first : pyStr "rx_monotonic_s" ∉ msg.members.map Prod.fst := by
    simp only [VisMessage.members, List.map_cons, List.map_nil]
    decide
  have second : pyStr "vis_age_s" ∉ (msg.members ++ [(pyStr "rx_monotonic_s", nullable rxMonotonic)]).map Prod.fst := by
    simp only [VisMessage.members, List.map_append, List.map_cons, List.map_nil]
    decide
  rw [visUpdateData, set_new first, set_new second, List.append_assoc]
  rfl

omit [Fpu] [FloatRepr] in
theorem visUpdateData_flat (msg : VisMessage) (rxMonotonic visAge : Option Double) :
    FlatData (visUpdateData msg rxMonotonic visAge) := by
  rw [visUpdateData_eq]
  refine ⟨?_, ?_, ?_⟩
  · simp only [VisMessage.members, List.cons_append, List.nil_append, List.forall_mem_cons, List.not_mem_nil,
      false_imp_iff, implies_true, and_true]
    have tag : Printable (pyStr "VIS") := by decide
    exact ⟨tag, trivial, trivial, trivial, trivial, trivial, trivial, trivial, trivial, nullable_flat _,
      nullable_flat _⟩
  · simp only [VisMessage.members, List.cons_append, List.nil_append, List.forall_mem_cons, List.not_mem_nil,
      false_imp_iff, implies_true, and_true]
    decide
  · simp only [VisMessage.members, List.cons_append, List.nil_append, List.map_cons, List.map_nil]
    decide

theorem parseVisUpdate_data (sound : VisSound msg) (finite : msg.timestamp.isFinite = true)
    (received : ∀ x ∈ rxMonotonic, FiniteDouble x) (aged : ∀ x ∈ visAge, FiniteDouble x) :
    parseVisUpdate (.obj (ecmaMembers (visUpdateData msg rxMonotonic visAge))) =
      { value := some
          { shownVis msg rxMonotonic visAge with seq := readNumber (some (.float (Fpu.round msg.seq))) }
        mismatch := none } := by
  have doubles := sound.doubles
  simp only [VisMessage.trackingFields, List.map_cons, List.map_nil, List.forall_mem_cons, List.not_mem_nil,
    false_imp_iff, implies_true, and_true] at doubles
  obtain ⟨timestampD, locXD, locYD, boundWD, boundHD, confidenceD⟩ := doubles
  rw [visUpdateData_eq]
  have fields : List.Forall₂
      (FieldSpec.Holds (ecmaMembers (msg.members ++
        [(pyStr "rx_monotonic_s", nullable rxMonotonic), (pyStr "vis_age_s", nullable visAge)])))
      visFieldSpecs
      [("loc_x", msg.locX), ("loc_y", msg.locY), ("bound_w", msg.boundW), ("bound_h", msg.boundH),
        ("confidence", msg.confidence), ("tracking_state", fin msg.trackingState)] := by
    exact .cons ⟨rfl, property_float "loc_x" locXD rfl, admits_signed _ sound.locX_range⟩ <|
      .cons ⟨rfl, property_float "loc_y" locYD rfl, admits_signed _ sound.locY_range⟩ <|
      .cons ⟨rfl, property_float "bound_w" boundWD rfl, admits_unit _ sound.boundW_range⟩ <|
      .cons ⟨rfl, property_float "bound_h" boundHD rfl, admits_unit _ sound.boundH_range⟩ <|
      .cons ⟨rfl, property_float "confidence" confidenceD rfl, admits_unit _ sound.confidence_range⟩ <|
      .cons ⟨rfl, property_int "tracking_state" (exactInt_state sound.state_mem) rfl, admits_state sound.state_mem⟩ .nil
  rw [parseVisUpdate, asRecord]
  dsimp only
  rw [validateFields_ok fields]
  dsimp only
  rw [property_ecma "type" rfl, property_ecma "seq" rfl, readNumber_member "timestamp_s" ⟨finite, timestampD⟩ rfl,
    readNullable_member "rx_monotonic_s" received rfl, readNullable_member "vis_age_s" aged rfl]
  rfl

def VisTold (msg : VisMessage) : Prop := ExactInt msg.seq ∧ msg.timestamp.isFinite = true

omit [FloatRepr] in
theorem visUpdateData_sayable (sound : VisSound msg) (received : ∀ x ∈ rxMonotonic, FiniteDouble x)
    (aged : ∀ x ∈ visAge, FiniteDouble x) :
    (∀ m ∈ visUpdateData msg rxMonotonic visAge, Sayable m.2) ↔ msg.timestamp.isFinite = true := by
  rw [visUpdateData_eq]
  simp only [VisMessage.members, List.cons_append, List.nil_append, List.forall_mem_cons, List.not_mem_nil,
    false_imp_iff, implies_true, and_true]
  constructor
  · rintro ⟨-, -, timestamp, -⟩
    exact timestamp
  · intro timestamp
    exact ⟨trivial, trivial, timestamp, trivial, sound.locX_range.finite, sound.locY_range.finite,
      sound.boundW_range.finite, sound.boundH_range.finite, sound.confidence_range.finite, nullable_sayable received,
      nullable_sayable aged⟩

theorem visTold_iff (sound : VisSound msg) (received : ∀ x ∈ rxMonotonic, FiniteDouble x)
    (aged : ∀ x ∈ visAge, FiniteDouble x) :
    (∀ m ∈ visUpdateData msg rxMonotonic visAge, Sayable m.2) ∧
        parseVisUpdate (.obj (ecmaMembers (visUpdateData msg rxMonotonic visAge))) =
          { value := some (shownVis msg rxMonotonic visAge), mismatch := none } ↔
      VisTold msg := by
  rw [visUpdateData_sayable sound received aged, VisTold, and_comm]
  apply and_congr_left
  intro finite
  rw [parseVisUpdate_data sound finite received aged, ← readNumber_exact]
  simp only [shownVis, ParsedUpdate.mk.injEq, Option.some.injEq, VisUpdate.mk.injEq, and_true, true_and]

end vis
end AotDrone.Link
