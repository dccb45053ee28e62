import AotDrone.Fc.MemberScan
import AotDrone.Lib.Binary64

/-! The reader of CMD payloads against the structure of the text: on one RFC 8259 object it finds what a reading
by members finds. -/

namespace AotDrone.Fc
open AotDrone.Lib AotDrone.Lib.Double AotDrone.Lib.Decimal AotDrone.Json

/-! ## A reading by members -/

/-- One of the members has the name and the value. -/
def HasMember (fields : Fields) (name : String) (v : Node) : Prop :=
  ∃ m ∈ fields, m.name.text = name.toList ∧ m.value = v

/-- The names of an object are pairwise distinct and contain no backslash. -/
structure PlainNames (fields : Fields) : Prop where
  distinct : (fields.map fun m => m.name.text).Nodup
  noEscape : ∀ m ∈ fields, '\\' ∉ m.name.text

def NamesPlain : Node → Prop
  | .object _ fields => PlainNames fields
  | _ => True

/-- One RFC 8259 object with such names throughout, and a `type` without a backslash. -/
structure PlainObject (o : ObjectText) : Prop where
  standard : (Node.object o.blank o.fields).All Node.Standard
  names : (Node.object o.blank o.fields).All NamesPlain
  type : ∀ s, HasMember o.fields "type" (.string s) → '\\' ∉ s.text

section reading
variable [Fpu] [Libc]

/-- `strtod` converts the token to a finite double without a range error. -/
def UsableToken (token : Token) (x : Double) : Prop := strtod token.render = some x ∧ x.isFinite = true

def NumberMember (fields : Fields) (name : String) (x : Double) : Prop :=
  ∃ token, HasMember fields name (.number token) ∧ UsableToken token x

/-- A double in the range of an int, within 1e-6 of the integer it rounds to. -/
def IntLike (x : Double) (n : ℤ) : Prop :=
  ∃ q, x = fin q ∧ (intMin ≤ q ∧ q ≤ intMax) ∧ n = roundHalfEven q ∧ ¬ 1e-6 < Double.abs (x - fin n)

def IntMember (fields : Fields) (name : String) (n : ℤ) : Prop := ∃ x, NumberMember fields name x ∧ IntLike x n

/-- A member that counts where it is a number, and then has to be usable. -/
def OptionalNumber (fields : Fields) (name : String) (has : Bool) (x : Double) : Prop :=
  (has = true ∧ NumberMember fields name x) ∨
    (has = false ∧ x = 0 ∧ ∀ token, ¬ HasMember fields name (.number token))

/-- A member that is absent, or an object that is read. -/
def ObjectMember {α : Type} (fields : Fields) (name : String) (absent : α) (Reads : Fields → α → Prop) (a : α) : Prop :=
  (a = absent ∧ ∀ v, ¬ HasMember fields name v) ∨
    ∃ blank inner, HasMember fields name (.object blank inner) ∧ Reads inner a

structure SetpointsReading (fields : Fields) (setpoints : CommandSetpoints) : Prop where
  roll : OptionalNumber fields "roll" setpoints.hasRoll setpoints.roll
  pitch : OptionalNumber fields "pitch" setpoints.hasPitch setpoints.pitch
  yawRate : OptionalNumber fields "yaw_rate" setpoints.hasYawRate setpoints.yawRate
  throttle : OptionalNumber fields "throttle" setpoints.hasThrottle setpoints.throttle

structure TrackingReading (fields : Fields) (tracking : CommandTracking) : Prop where
  hasTracking : tracking.hasTracking = true
  trackingState : IntMember fields "tracking_state" tracking.trackingState
  known : 1 ≤ tracking.trackingState ∧ tracking.trackingState ≤ 4
  locX : NumberMember fields "loc_x" tracking.locX
  locY : NumberMember fields "loc_y" tracking.locY
  boundW : NumberMember fields "bound_w" tracking.boundW
  boundH : NumberMember fields "bound_h" tracking.boundH
  confidence : NumberMember fields "confidence" tracking.confidence
  visSeq : IntMember fields "vis_seq" tracking.visSeq
  visTimestamp : NumberMember fields "vis_timestamp_s" tracking.visTimestamp

/-- What the fields of a parsed frame are. -/
structure CmdReading (o : ObjectText) (frame : CommandFrame) : Prop where
  type : ∃ s, HasMember o.fields "type" (.string s) ∧ s.text = "CMD".toList
  seq : IntMember o.fields "seq" frame.seq
  timestamp : NumberMember o.fields "timestamp_s" frame.timestamp
  desiredMode : IntMember o.fields "desired_mode" frame.desiredMode
  arm : (frame.hasArm = true ∧ HasMember o.fields "arm" (.bool frame.arm)) ∨
    (frame.hasArm = false ∧ frame.arm = false ∧ ∀ b, ¬ HasMember o.fields "arm" (.bool b))
  setpoints : ObjectMember o.fields "setpoints" {} SetpointsReading frame.setpoints
  tracking : ObjectMember o.fields "tracking" {} TrackingReading frame.tracking
  rawJson : frame.rawJson = o.text

/-- When a text is a CMD payload. -/
structure Acceptable (fields : Fields) : Prop where
  type : ∃ s, HasMember fields "type" (.string s) ∧ s.text = "CMD".toList
  seq : ∃ n, IntMember fields "seq" n
  timestamp : ∃ x, NumberMember fields "timestamp_s" x
  desiredMode : ∃ n, IntMember fields "desired_mode" n
  setpoints : ∀ v, HasMember fields "setpoints" v → ∃ blank inner, v = .object blank inner ∧
    ∀ name ∈ ["roll", "pitch", "yaw_rate", "throttle"], ∀ token,
      HasMember inner name (.number token) → ∃ x, UsableToken token x
  tracking : ∀ v, HasMember fields "tracking" v → ∃ blank inner, v = .object blank inner ∧
    (∃ n, IntMember inner "tracking_state" n ∧ 1 ≤ n ∧ n ≤ 4) ∧ (∃ n, IntMember inner "vis_seq" n) ∧
    ∀ name ∈ ["loc_x", "loc_y", "bound_w", "bound_h", "confidence", "vis_timestamp_s"],
      ∃ x, NumberMember inner name x

end reading

/-! ## Finding by name -/

theorem plain_body {raw value : Text} (body : Body raw value) (noEscape : '\\' ∉ raw) : value = raw := by
  induction body with
  | nil => rfl
  | plain _ _ _ ih => rw [ih fun member => noEscape (List.mem_cons_of_mem _ member)]
  | escaped c _ _ => exact absurd List.mem_cons_self noEscape

theorem readQuoted_plain {s : Quoted} (noEscape : '\\' ∉ s.text) : readQuoted s = s.text :=
  plain_body (quoted_body s) noEscape

/-- What the reader needs of the members of one object. -/
structure Legible (fields : Fields) : Prop where
  readable : ∀ m ∈ fields, Readable m.value
  names : PlainNames fields

section members
variable {fields : Fields} {name : String} {v w : Node}

theorem lookupKey_iff (legible : Legible fields) : lookupKey name.toList fields = some v ↔ HasMember fields name v := by
  obtain ⟨readable, distinct, noEscape⟩ := legible
  induction fields with
  | nil =>
    refine ⟨nofun, ?_⟩
    rintro ⟨m, ⟨⟩, -⟩
  | cons m rest ih =>
    rw [List.forall_mem_cons] at readable noEscape
    rw [List.map_cons, List.nodup_cons] at distinct
    rw [lookupKey, readQuoted_plain noEscape.1]
    by_cases same : m.name.text = name.toList
    · rw [if_pos same, Option.some.injEq]
      constructor
      · exact fun value => ⟨m, List.mem_cons_self, same, value⟩
      · rintro ⟨other, member, named, value⟩
        rcases List.mem_cons.1 member with rfl | later
        · exact value
        · exact absurd (List.mem_map.2 ⟨other, later, named.trans same.symm⟩) distinct.1
    · rw [if_neg same, if_pos readable.1, ih readable.2 distinct.2 noEscape.2]
      constructor
      · rintro ⟨other, later, found⟩
        exact ⟨other, List.mem_cons_of_mem _ later, found⟩
      · rintro ⟨other, member, named, value⟩
        rcases List.mem_cons.1 member with rfl | later
        · exact absurd named same
        · exact ⟨other, later, named, value⟩

theorem lookupKey_none (legible : Legible fields) : lookupKey name.toList fields = none ↔ ∀ v, ¬ HasMember fields name v := by
  rw [Option.eq_none_iff_forall_ne_some]
  exact forall_congr' fun v => not_congr (lookupKey_iff legible)

/-- With the names apart, a name has one value. -/
theorem HasMember.unique (legible : Legible fields) (first : HasMember fields name v) (second : HasMember fields name w) :
    v = w := by
  rw [← lookupKey_iff legible] at first second
  exact Option.some.inj (first.symm.trans second)

variable {α : Type} {absent a : α} {Reads : Fields → α → Prop}

theorem objectMember_absent (missing : ∀ v, ¬ HasMember fields name v) :
    ObjectMember fields name absent Reads a ↔ a = absent := by
  constructor
  · rintro (⟨same, -⟩ | ⟨_, _, member, -⟩)
    · exact same
    · exact absurd member (missing _)
  · exact fun same => .inl ⟨same, missing⟩

theorem objectMember_object (legible : Legible fields) {blank : Blank} {inner : Fields}
    (member : HasMember fields name (.object blank inner)) :
    ObjectMember fields name absent Reads a ↔ Reads inner a := by
  constructor
  · rintro (⟨-, missing⟩ | ⟨_, _, other, reads⟩)
    · exact absurd member (missing _)
    · cases member.unique legible other
      exact reads
  · exact fun reads => .inr ⟨blank, inner, member, reads⟩

theorem not_objectMember (legible : Legible fields) (member : HasMember fields name v)
    (noObject : ∀ blank inner, v ≠ .object blank inner) : ¬ ObjectMember fields name absent Reads a := by
  rintro (⟨-, missing⟩ | ⟨blank, inner, other, -⟩)
  · exact missing v member
  · exact noObject blank inner (member.unique legible other)

theorem objectMember_iff (legible : Legible fields) :
    (match lookupKey name.toList fields with
      | none => a = absent
      | some (.object _ members) => Reads members a
      | some _ => False) ↔ ObjectMember fields name absent Reads a := by
  cases value : lookupKey name.toList fields with
  | none => exact (objectMember_absent ((lookupKey_none legible).1 value)).symm
  | some v =>
    have member := (lookupKey_iff legible).1 value
    cases v with
    | object space members => exact (objectMember_object legible member).symm
    | null | bool _ | number _ | nonFinite _ | string _ | array _ _ =>
      exact iff_of_false id (not_objectMember legible member nofun)

end members

/-! ## Numbers -/

section numbers
variable [Fpu] [Libc] {fields : Fields} {name : String}

theorem parseDouble_some {token : Token} {x : Double} : parseDouble token.render = some x ↔ UsableToken token x := by
  unfold parseDouble UsableToken
  cases strtod token.render with
  | none => simp
  | some value =>
    dsimp only
    split_ifs with finite
    · simp only [Option.some.injEq]
      exact ⟨fun same => ⟨same, same ▸ finite⟩, fun both => both.1⟩
    · simp only [Option.some.injEq, false_iff]
      rintro ⟨rfl, other⟩
      exact finite other

theorem parseIntLike_some {token : Token} {n : ℤ} :
    parseIntLike token.render = some n ↔ ∃ x, UsableToken token x ∧ IntLike x n := by
  unfold parseIntLike
  cases parsed : parseDouble token.render with
  | none =>
    simp only [reduceCtorEq, false_iff]
    rintro ⟨x, usable, -⟩
    rw [← parseDouble_some, parsed] at usable
    cases usable
  | some value =>
    have usable := parseDouble_some.1 parsed
    obtain ⟨q, rfl⟩ := isFinite_iff.1 usable.2
    have only {x : Double} (other : UsableToken token x) : x = fin q := by
      rw [← parseDouble_some, parsed] at other
      exact (Option.some.inj other).symm
    have whole : truncate (fin (roundHalfEven q)) = roundHalfEven q := by simp [truncate]
    simp only [nearbyint, fin_lt_fin, whole]
    constructor
    · intro read
      split_ifs at read with range far
      rw [not_or, not_lt, not_lt] at range
      cases read
      exact ⟨fin q, usable, q, rfl, range, rfl, far⟩
    · rintro ⟨x, other, p, rfl, range, rfl, near⟩
      cases only other
      rw [if_neg (by rw [not_or, not_lt, not_lt]; exact range), if_neg near]

end numbers

/-! ## Fields -/

section fields
variable [Fpu] [Libc] {json : Text} {start stop : Nat} {blank : Blank} {fields : Fields} {name : String}
  (object : Holds json start stop blank fields) (legible : Legible fields)
include object legible

omit [Fpu] [Libc] in
theorem number_some {text : Text} :
    parseJsonNumberTokenInObject json start stop name.toList = some text ↔
      ∃ token, HasMember fields name (.number token) ∧ token.render = text := by
  rw [object.number, Option.bind_eq_some_iff]
  constructor
  · rintro ⟨v, found, number⟩
    cases v with
    | number token =>
      cases number
      exact ⟨token, (lookupKey_iff legible).1 found, rfl⟩
    | null | bool _ | nonFinite _ | string _ | array _ _ | object _ _ => cases number
  · rintro ⟨token, member, rfl⟩
    exact ⟨_, (lookupKey_iff legible).2 member, rfl⟩

omit [Fpu] [Libc] in
theorem number_none :
    parseJsonNumberTokenInObject json start stop name.toList = none ↔
      ∀ token, ¬ HasMember fields name (.number token) := by
  rw [Option.eq_none_iff_forall_ne_some]
  constructor
  · exact fun none token member => none _ ((number_some object legible).2 ⟨token, member, rfl⟩)
  · rintro absent text found
    obtain ⟨token, member, -⟩ := (number_some object legible).1 found
    exact absent token member

theorem numberMember_iff {x : Double} :
    NumberMember fields name x ↔
      ∃ text, parseJsonNumberTokenInObject json start stop name.toList = some text ∧ parseDouble text = some x := by
  constructor
  · rintro ⟨token, member, usable⟩
    exact ⟨_, (number_some object legible).2 ⟨token, member, rfl⟩, parseDouble_some.2 usable⟩
  · rintro ⟨text, found, parsed⟩
    obtain ⟨token, member, rfl⟩ := (number_some object legible).1 found
    exact ⟨token, member, parseDouble_some.1 parsed⟩

theorem intMember_iff {n : ℤ} :
    IntMember fields name n ↔
      ∃ text, parseJsonNumberTokenInObject json start stop name.toList = some text ∧ parseIntLike text = some n := by
  constructor
  · rintro ⟨x, ⟨token, member, usable⟩, whole⟩
    exact ⟨_, (number_some object legible).2 ⟨token, member, rfl⟩, parseIntLike_some.2 ⟨x, usable, whole⟩⟩
  · rintro ⟨text, found, parsed⟩
    obtain ⟨token, member, rfl⟩ := (number_some object legible).1 found
    obtain ⟨x, usable, whole⟩ := parseIntLike_some.1 parsed
    exact ⟨x, ⟨token, member, usable⟩, whole⟩

theorem optionalNumber_some {has : Bool} {x : Double} :
    parseOptionalNumberInObject json start stop name.toList = some (has, x) ↔ OptionalNumber fields name has x := by
  unfold parseOptionalNumberInObject OptionalNumber
  rw [numberMember_iff object legible, ← number_none object legible]
  cases parseJsonNumberTokenInObject json start stop name.toList with
  | none => simp [eq_comm]
  | some text => cases parsed : parseDouble text <;> cases has <;> simp [parsed]

omit [Fpu] [Libc] in
theorem optionalBool_iff {has arm : Bool} :
    parseOptionalBoolInObject json start stop name.toList = (has, arm) ↔
      (has = true ∧ HasMember fields name (.bool arm)) ∨
        (has = false ∧ arm = false ∧ ∀ b, ¬ HasMember fields name (.bool b)) := by
  have member (b : Bool) : HasMember fields name (.bool b) ↔ (lookupKey name.toList fields).bind boolOf = some b := by
    rw [← lookupKey_iff legible, Option.bind_eq_some_iff]
    constructor
    · exact fun found => ⟨_, found, rfl⟩
    · rintro ⟨v, found, value⟩
      cases v with
      | bool c =>
        cases value
        exact found
      | null | number _ | nonFinite _ | string _ | array _ _ | object _ _ => cases value
  unfold parseOptionalBoolInObject
  simp only [member, object.bool]
  cases (lookupKey name.toList fields).bind boolOf with
  | none => simp [eq_comm]
  | some b => cases has <;> simp [eq_comm]

theorem setpointsReading_iff {setpoints : CommandSetpoints} :
    (do
        let (hasRoll, roll) ← parseOptionalNumberInObject json start stop "roll".toList
        let (hasPitch, pitch) ← parseOptionalNumberInObject json start stop "pitch".toList
        let (hasYawRate, yawRate) ← parseOptionalNumberInObject json start stop "yaw_rate".toList
        let (hasThrottle, throttle) ← parseOptionalNumberInObject json start stop "throttle".toList
        some ({ hasRoll, roll, hasPitch, pitch, hasYawRate, yawRate, hasThrottle, throttle } : CommandSetpoints)) =
      some setpoints ↔ SetpointsReading fields setpoints := by
  simp only [Option.bind_eq_bind, Option.bind_eq_some_iff, Prod.exists, optionalNumber_some object legible,
    Option.some.injEq]
  constructor
  · rintro ⟨_, _, roll, _, _, pitch, _, _, yawRate, _, _, throttle, rfl⟩
    exact ⟨roll, pitch, yawRate, throttle⟩
  · rintro ⟨roll, pitch, yawRate, throttle⟩
    exact ⟨_, _, roll, _, _, pitch, _, _, yawRate, _, _, throttle, rfl⟩

theorem parseSetpoints_some
    (legibleInner : ∀ blank inner, HasMember fields "setpoints" (.object blank inner) → Legible inner)
    {setpoints : CommandSetpoints} :
    parseSetpoints json start stop = some setpoints ↔
      ObjectMember fields "setpoints" {} SetpointsReading setpoints := by
  rw [← objectMember_iff legible]
  apply object.objectMember
  intro blank inner first last found braces
  exact setpointsReading_iff braces (legibleInner _ _ ((lookupKey_iff legible).1 found))

theorem trackingReading_iff {tracking : CommandTracking} :
    (do
        let stateToken ← parseJsonNumberTokenInObject json start stop "tracking_state".toList
        let locXToken ← parseJsonNumberTokenInObject json start stop "loc_x".toList
        let locYToken ← parseJsonNumberTokenInObject json start stop "loc_y".toList
        let boundWToken ← parseJsonNumberTokenInObject json start stop "bound_w".toList
        let boundHToken ← parseJsonNumberTokenInObject json start stop "bound_h".toList
        let confidenceToken ← parseJsonNumberTokenInObject json start stop "confidence".toList
        let visSeqToken ← parseJsonNumberTokenInObject json start stop "vis_seq".toList
        let visTimestampToken ← parseJsonNumberTokenInObject json start stop "vis_timestamp_s".toList
        let trackingState ← parseIntLike stateToken
        let locX ← parseDouble locXToken
        let locY ← parseDouble locYToken
        let boundW ← parseDouble boundWToken
        let boundH ← parseDouble boundHToken
        let confidence ← parseDouble confidenceToken
        let visSeq ← parseIntLike visSeqToken
        let visTimestamp ← parseDouble visTimestampToken
        if trackingState < 1 ∨ 4 < trackingState then none
        else
          some
            ({ hasTracking := true, trackingState, locX, locY, boundW, boundH, confidence, visSeq,
               visTimestamp } : CommandTracking)) =
      some tracking ↔ TrackingReading fields tracking := by
  constructor
  · intro read
    obtain ⟨_, t1, read⟩ := Option.bind_eq_some_iff.1 read
    obtain ⟨_, t2, read⟩ := Option.bind_eq_some_iff.1 read
    obtain ⟨_, t3, read⟩ := Option.bind_eq_some_iff.1 read
    obtain ⟨_, t4, read⟩ := Option.bind_eq_some_iff.1 read
    obtain ⟨_, t5, read⟩ := Option.bind_eq_some_iff.1 read
    obtain ⟨_, t6, read⟩ := Option.bind_eq_some_iff.1 read
    obtain ⟨_, t7, read⟩ := Option.bind_eq_some_iff.1 read
    obtain ⟨_, t8, read⟩ := Option.bind_eq_some_iff.1 read
    obtain ⟨_, v1, read⟩ := Option.bind_eq_some_iff.1 read
    obtain ⟨_, v2, read⟩ := Option.bind_eq_some_iff.1 read
    obtain ⟨_, v3, read⟩ := Option.bind_eq_some_iff.1 read
    obtain ⟨_, v4, read⟩ := Option.bind_eq_some_iff.1 read
    obtain ⟨_, v5, read⟩ := Option.bind_eq_some_iff.1 read
    obtain ⟨_, v6, read⟩ := Option.bind_eq_some_iff.1 read
    obtain ⟨_, v7, read⟩ := Option.bind_eq_some_iff.1 read
    obtain ⟨_, v8, read⟩ := Option.bind_eq_some_iff.1 read
    split_ifs at read with unknown
    cases read
    have float {field : String} {x : Double} (found : ∃ text, _ ∧ _) : NumberMember fields field x :=
      (numberMember_iff object legible).2 found
    refine ⟨rfl, (intMember_iff object legible).2 ⟨_, t1, v1⟩, by dsimp only; omega, float ⟨_, t2, v2⟩,
      float ⟨_, t3, v3⟩, float ⟨_, t4, v4⟩, float ⟨_, t5, v5⟩, float ⟨_, t6, v6⟩,
      (intMember_iff object legible).2 ⟨_, t7, v7⟩, float ⟨_, t8, v8⟩⟩
  · obtain ⟨has, state, x, y, w, h, confidence, seq, timestamp⟩ := tracking
    rintro ⟨rfl, state, known, locX, locY, boundW, boundH, confidence, visSeq, visTimestamp⟩
    obtain ⟨_, t1, v1⟩ := (intMember_iff object legible).1 state
    obtain ⟨_, t2, v2⟩ := (numberMember_iff object legible).1 locX
    obtain ⟨_, t3, v3⟩ := (numberMember_iff object legible).1 locY
    obtain ⟨_, t4, v4⟩ := (numberMember_iff object legible).1 boundW
    obtain ⟨_, t5, v5⟩ := (numberMember_iff object legible).1 boundH
    obtain ⟨_, t6, v6⟩ := (numberMember_iff object legible).1 confidence
    obtain ⟨_, t7, v7⟩ := (intMember_iff object legible).1 visSeq
    obtain ⟨_, t8, v8⟩ := (numberMember_iff object legible).1 visTimestamp
    rw [t1, t2, t3, t4, t5, t6, t7, t8]
    simp only [Option.bind_eq_bind, Option.bind_some, v1, v2, v3, v4, v5, v6, v7, v8]
    rw [if_neg (by dsimp only at known; omega)]

theorem parseTracking_some
    (legibleInner : ∀ blank inner, HasMember fields "tracking" (.object blank inner) → Legible inner)
    {tracking : CommandTracking} :
    parseTracking json start stop = some tracking ↔ ObjectMember fields "tracking" {} TrackingReading tracking := by
  rw [← objectMember_iff legible]
  apply object.objectMember
  intro blank inner first last found braces
  exact trackingReading_iff braces (legibleInner _ _ ((lookupKey_iff legible).1 found))

omit [Fpu] [Libc] in
theorem typeField_some (noEscape : ∀ s, HasMember fields name (.string s) → '\\' ∉ s.text) {text : Text} :
    parseJsonStringFieldInObject json start stop name.toList = some text ↔
      ∃ s, HasMember fields name (.string s) ∧ s.text = text := by
  rw [object.string, Option.bind_eq_some_iff]
  constructor
  · rintro ⟨v, found, value⟩
    have member := (lookupKey_iff legible).1 found
    cases v with
    | string s =>
      rw [stringValue, readQuoted_plain (noEscape s member), Option.some.injEq] at value
      exact ⟨s, member, value⟩
    | null | bool _ | number _ | nonFinite _ | array _ _ | object _ _ => cases value
  · rintro ⟨s, member, rfl⟩
    refine ⟨_, (lookupKey_iff legible).2 member, ?_⟩
    rw [stringValue, readQuoted_plain (noEscape s member)]

end fields

/-! ## Payloads -/

section payloads
variable {o : ObjectText}

theorem legible_of_all {blank : Blank} {fields : Fields}
    (standard : (Node.object blank fields).All Node.Standard) (names : (Node.object blank fields).All NamesPlain) :
    Legible fields := by
  refine ⟨?_, names.self⟩
  intro m member
  have value := (standard.member m member).self
  cases shape : m.value with
  | nonFinite word =>
    rw [shape] at value
    exact value.elim
  | null | bool _ | number _ | string _ | array _ _ | object _ _ => trivial

theorem PlainObject.legible (plain : PlainObject o) : Legible o.fields := legible_of_all plain.standard plain.names

theorem PlainObject.inner (plain : PlainObject o) {name : String} (blank : Blank) (inner : Fields)
    (member : HasMember o.fields name (.object blank inner)) : Legible inner := by
  obtain ⟨m, member, -, value⟩ := member
  apply legible_of_all (value ▸ plain.standard.member m member) (value ▸ plain.names.member m member)

variable [Fpu] [Libc]

theorem parseCmdFrame_some (plain : PlainObject o) {frame : CommandFrame} :
    parseCmdFrame o.text = some frame ↔ CmdReading o frame := by
  obtain ⟨start, stop, root, object⟩ := findRootObjectSpan_object o
  have legible := plain.legible
  unfold parseCmdFrame
  rw [root]
  dsimp only
  constructor
  · intro read
    obtain ⟨type, typeFound, read⟩ := Option.bind_eq_some_iff.1 read
    split_ifs at read with other
    rw [not_not] at other
    obtain ⟨_, seqFound, read⟩ := Option.bind_eq_some_iff.1 read
    obtain ⟨_, timeFound, read⟩ := Option.bind_eq_some_iff.1 read
    obtain ⟨_, modeFound, read⟩ := Option.bind_eq_some_iff.1 read
    obtain ⟨seq, seqRead, read⟩ := Option.bind_eq_some_iff.1 read
    obtain ⟨timestamp, timeRead, read⟩ := Option.bind_eq_some_iff.1 read
    obtain ⟨desiredMode, modeRead, read⟩ := Option.bind_eq_some_iff.1 read
    obtain ⟨setpoints, setpointsRead, read⟩ := Option.bind_eq_some_iff.1 read
    obtain ⟨tracking, trackingRead, read⟩ := Option.bind_eq_some_iff.1 read
    cases read
    refine ⟨?_, (intMember_iff object legible).2 ⟨_, seqFound, seqRead⟩,
      (numberMember_iff object legible).2 ⟨_, timeFound, timeRead⟩,
      (intMember_iff object legible).2 ⟨_, modeFound, modeRead⟩, (optionalBool_iff object legible).1 rfl,
      (parseSetpoints_some object legible plain.inner).1 setpointsRead,
      (parseTracking_some object legible plain.inner).1 trackingRead, rfl⟩
    rw [← other]
    exact (typeField_some object legible plain.type).1 typeFound
  · obtain ⟨seq, timestamp, desiredMode, hasArm, arm, setpoints, tracking, rawJson⟩ := frame
    rintro ⟨type, seqReads, timeReads, modeReads, armReads, setpointsReads, trackingReads, rfl⟩
    have typeFound := (typeField_some object legible plain.type).2 type
    obtain ⟨_, seqFound, seqRead⟩ := (intMember_iff object legible).1 seqReads
    obtain ⟨_, timeFound, timeRead⟩ := (numberMember_iff object legible).1 timeReads
    obtain ⟨_, modeFound, modeRead⟩ := (intMember_iff object legible).1 modeReads
    have armRead := (optionalBool_iff object legible).2 armReads
    have setpointsRead := (parseSetpoints_some object legible plain.inner).2 setpointsReads
    have trackingRead := (parseTracking_some object legible plain.inner).2 trackingReads
    rw [typeFound, Option.bind_eq_bind, Option.bind_some, if_neg (not_not_intro rfl), seqFound, timeFound, modeFound]
    simp only [Option.bind_eq_bind, Option.bind_some, seqRead, timeRead, modeRead, setpointsRead, trackingRead, armRead]

/-! ## When there is a frame -/

omit [Fpu] [Libc] in
theorem objectMember_exists {α : Type} {fields : Fields} (legible : Legible fields) {name : String} {absent : α}
    {Reads : Fields → α → Prop} :
    (∃ a, ObjectMember fields name absent Reads a) ↔
      ∀ v, HasMember fields name v → ∃ blank inner, v = .object blank inner ∧ ∃ a, Reads inner a := by
  constructor
  · rintro ⟨a, ⟨-, missing⟩ | ⟨blank, inner, member, reads⟩⟩ v found
    · exact absurd found (missing v)
    · exact ⟨blank, inner, found.unique legible member, a, reads⟩
  · intro readable
    by_cases present : ∃ v, HasMember fields name v
    · obtain ⟨v, member⟩ := present
      obtain ⟨blank, inner, rfl, a, reads⟩ := readable v member
      exact ⟨a, .inr ⟨blank, inner, member, reads⟩⟩
    · exact ⟨absent, .inl ⟨rfl, not_exists.1 present⟩⟩

theorem optionalNumber_exists {fields : Fields} (legible : Legible fields) {name : String} :
    (∃ has x, OptionalNumber fields name has x) ↔
      ∀ token, HasMember fields name (.number token) → ∃ x, UsableToken token x := by
  constructor
  · rintro ⟨has, x, ⟨-, other, found, usable⟩ | ⟨-, -, missing⟩⟩ token member
    · cases member.unique legible found
      exact ⟨x, usable⟩
    · exact absurd member (missing token)
  · intro usable
    by_cases present : ∃ token, HasMember fields name (.number token)
    · obtain ⟨token, member⟩ := present
      obtain ⟨x, value⟩ := usable token member
      exact ⟨true, x, .inl ⟨rfl, token, member, value⟩⟩
    · exact ⟨false, 0, .inr ⟨rfl, rfl, not_exists.1 present⟩⟩

theorem setpoints_exists {fields : Fields} (legible : Legible fields) :
    (∃ setpoints, SetpointsReading fields setpoints) ↔
      ∀ name ∈ ["roll", "pitch", "yaw_rate", "throttle"], ∀ token,
        HasMember fields name (.number token) → ∃ x, UsableToken token x := by
  simp only [List.forall_mem_cons, ← optionalNumber_exists legible]
  constructor
  · rintro ⟨setpoints, roll, pitch, yawRate, throttle⟩
    exact ⟨⟨_, _, roll⟩, ⟨_, _, pitch⟩, ⟨_, _, yawRate⟩, ⟨_, _, throttle⟩, List.forall_mem_nil _⟩
  · rintro ⟨⟨_, _, roll⟩, ⟨_, _, pitch⟩, ⟨_, _, yawRate⟩, ⟨_, _, throttle⟩, -⟩
    exact ⟨⟨_, _, _, _, _, _, _, _⟩, roll, pitch, yawRate, throttle⟩

theorem tracking_exists {fields : Fields} :
    (∃ tracking, TrackingReading fields tracking) ↔
      (∃ n, IntMember fields "tracking_state" n ∧ 1 ≤ n ∧ n ≤ 4) ∧ (∃ n, IntMember fields "vis_seq" n) ∧
        ∀ name ∈ ["loc_x", "loc_y", "bound_w", "bound_h", "confidence", "vis_timestamp_s"],
          ∃ x, NumberMember fields name x := by
  simp only [List.forall_mem_cons]
  constructor
  · rintro ⟨tracking, -, state, known, locX, locY, boundW, boundH, confidence, visSeq, visTimestamp⟩
    exact ⟨⟨_, state, known⟩, ⟨_, visSeq⟩, ⟨_, locX⟩, ⟨_, locY⟩, ⟨_, boundW⟩, ⟨_, boundH⟩, ⟨_, confidence⟩,
      ⟨_, visTimestamp⟩, List.forall_mem_nil _⟩
  · rintro ⟨⟨_, state, known⟩, ⟨_, visSeq⟩, ⟨_, locX⟩, ⟨_, locY⟩, ⟨_, boundW⟩, ⟨_, boundH⟩, ⟨_, confidence⟩,
      ⟨_, visTimestamp⟩, -⟩
    exact ⟨⟨true, _, _, _, _, _, _, _, _⟩, rfl, state, known, locX, locY, boundW, boundH, confidence, visSeq,
      visTimestamp⟩

theorem reading_exists (plain : PlainObject o) : (∃ frame, CmdReading o frame) ↔ Acceptable o.fields := by
  have legible := plain.legible
  constructor
  · rintro ⟨frame, type, seq, timestamp, desiredMode, -, setpoints, tracking, -⟩
    refine ⟨type, ⟨_, seq⟩, ⟨_, timestamp⟩, ⟨_, desiredMode⟩, ?_, ?_⟩
    · intro v member
      obtain ⟨blank, inner, rfl, reads⟩ := (objectMember_exists legible).1 ⟨_, setpoints⟩ v member
      exact ⟨blank, inner, rfl, (setpoints_exists (plain.inner _ _ member)).1 reads⟩
    · intro v member
      obtain ⟨blank, inner, rfl, reads⟩ := (objectMember_exists legible).1 ⟨_, tracking⟩ v member
      exact ⟨blank, inner, rfl, tracking_exists.1 reads⟩
  · rintro ⟨type, ⟨seq, seqReads⟩, ⟨timestamp, timeReads⟩, ⟨desiredMode, modeReads⟩, setpoints, tracking⟩
    obtain ⟨_, setpointsReads⟩ : ∃ a, ObjectMember o.fields "setpoints" {} SetpointsReading a := by
      refine (objectMember_exists legible).2 fun v member => ?_
      obtain ⟨blank, inner, rfl, usable⟩ := setpoints v member
      exact ⟨blank, inner, rfl, (setpoints_exists (plain.inner _ _ member)).2 usable⟩
    obtain ⟨_, trackingReads⟩ : ∃ a, ObjectMember o.fields "tracking" {} TrackingReading a := by
      refine (objectMember_exists legible).2 fun v member => ?_
      obtain ⟨blank, inner, rfl, usable⟩ := tracking v member
      exact ⟨blank, inner, rfl, tracking_exists.2 usable⟩
    obtain ⟨hasArm, arm, armReads⟩ : ∃ hasArm arm, (hasArm = true ∧ HasMember o.fields "arm" (.bool arm)) ∨
        (hasArm = false ∧ arm = false ∧ ∀ b, ¬ HasMember o.fields "arm" (.bool b)) := by
      by_cases present : ∃ b, HasMember o.fields "arm" (.bool b)
      · obtain ⟨b, member⟩ := present
        exact ⟨true, b, .inl ⟨rfl, member⟩⟩
      · exact ⟨false, false, .inr ⟨rfl, rfl, not_exists.1 present⟩⟩
    exact ⟨⟨_, _, _, _, _, _, _, _⟩, type, seqReads, timeReads, modeReads, armReads, setpointsReads, trackingReads, rfl⟩

/-- The reader accepts exactly the payloads that a reading by members accepts, and makes the same of them. -/
theorem parseCmdFrame_agrees (plain : PlainObject o) :
    ((∃ frame, parseCmdFrame o.text = some frame) ↔ Acceptable o.fields) ∧
      ∀ frame, parseCmdFrame o.text = some frame ↔ CmdReading o frame := by
  refine ⟨?_, fun frame => parseCmdFrame_some plain⟩
  rw [← reading_exists plain]
  exact exists_congr fun frame => parseCmdFrame_some plain

end payloads

section hardware
attribute [local instance] Binary64.binary64 Libc.strict

/-- A string without quotes, backslashes or control characters. -/
def quote (text : String) : Quoted :=
  text.toList.filterMap fun c =>
    if plain : 0x20 ≤ c.toNat ∧ c ≠ '"' ∧ c ≠ '\\' then some (.plain c plain.1 plain.2.1 plain.2.2) else none

def space : Blank := ⟨[' '], by simp⟩

def spaced (name : String) (v : Node) : Member Node where
  before := space
  name := quote name
  beforeColon := space
  afterColon := space
  value := v
  after := space

def decoy : Node := .object .none [spaced "type" (.string (quote "TEL")), spaced "seq" (.number (.ofInt 7))]

/-- A payload with spaces everywhere, members of the wanted names one level down and a boolean that is none. -/
def decoyed : ObjectText where
  before := space
  blank := space
  fields :=
    [spaced "meta" (.array space [(space, decoy, space), (space, .string [.escapedQuote], space)]),
      spaced "type" (.string (quote "CMD")), spaced "seq" (.number (.ofInt 12)),
      spaced "timestamp_s" (.number (.ofInt 44)), spaced "arm" .null, spaced "desired_mode" (.number (.ofInt 2)),
      spaced "setpoints" (.object space [spaced "roll" (.string (quote "left")), spaced "pitch" (.number (.ofInt 0))])]
  after := space

theorem decoyed_accepted : Acceptable decoyed.fields := by
  have standard : (Node.object decoyed.blank decoyed.fields).All Node.Standard := by
    simp [decoyed, decoy, spaced, Node.All, allItems, allFields, Node.Standard]
  have names : (Node.object decoyed.blank decoyed.fields).All NamesPlain := by
    simp only [decoyed, decoy, spaced, Node.All, allItems, allFields, NamesPlain, and_true, true_and]
    exact ⟨⟨by decide +kernel, by decide +kernel⟩, ⟨by decide +kernel, by decide +kernel⟩, by decide +kernel,
      by decide +kernel⟩
  have type : HasMember decoyed.fields "type" (.string (quote "CMD")) := ⟨spaced "type" _, by simp [decoyed], by decide, rfl⟩
  have plain : PlainObject decoyed := by
    refine ⟨standard, names, fun s member => ?_⟩
    cases member.unique (legible_of_all standard names) type
    decide
  exact (parseCmdFrame_agrees plain).1.1
    ⟨{ seq := 12, timestamp := 44, desiredMode := 2, setpoints := { hasPitch := true }, rawJson := decoyed.text },
      by decide +kernel⟩

end hardware
end AotDrone.Fc
