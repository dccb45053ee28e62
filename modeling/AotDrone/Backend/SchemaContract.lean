import AotDrone.Backend.State
import AotDrone.Lib.Binary64

/-! The contract of the two validators over every JSON value: what is accepted, unchanged, with
every number finite, and a supported reason for everything else. -/

namespace AotDrone.Backend
open AotDrone.Lib AotDrone.Lib.Double AotDrone.Json

/-- The validator returns exactly the messages `accepts` allows, and raises a validation error with
a reason out of `support` on everything else. -/
def KeepsContract {α : Type} (validate : Except Raised α) (accepts : α → Prop) (support : List DropReason) :
    Prop :=
  (∀ msg, validate = .ok msg ↔ accepts msg) ∧
    ((∀ msg, ¬ accepts msg) → ∃ reason detail, validate = .error (.validation reason detail) ∧ reason ∈ support)

theorem keepsContract_iff {α : Type} {validate : Except Raised α} {accepts : α → Prop}
    {support : List DropReason} (supported : Supported support validate) :
    KeepsContract validate accepts support ↔
      validate ≠ .error .overflowError ∧ ∀ msg, validate = .ok msg ↔ accepts msg := by
  constructor
  · rintro ⟨exactly, otherwise⟩
    refine ⟨?_, exactly⟩
    intro overflow
    have none : ∀ msg, ¬ accepts msg := by
      intro msg accepted
      rw [← exactly, overflow] at accepted
      cases accepted
    obtain ⟨reason, detail, raised, _⟩ := otherwise none
    rw [overflow] at raised
    cases raised
  · rintro ⟨fits, exactly⟩
    refine ⟨exactly, ?_⟩
    intro none
    cases run : validate with
    | ok msg => exact absurd ((exactly msg).1 run) (none msg)
    | error raised =>
      cases raised with
      | overflowError => exact absurd run fits
      | validation reason detail => exact ⟨reason, detail, rfl, supported reason detail run⟩

section contract
variable [Fpu]

/-- Reading the fields in this order, a number too large for a double comes before any field that is
no number. -/
def FirstTooLarge (members : Members) : List String → Prop
  | [] => False
  | name :: rest =>
    (members.get name).TooLarge ∨ (members.get name).IsNumber ∧ FirstTooLarge members rest

omit [Fpu] in
def Complete (kind : String) (required : List String) (members : Members) : Prop :=
  (∀ field ∈ required, members.has field = true) ∧ members.get "type" = .str (pyStr kind)

/-- A field through `float()`: too large, or a number to go on with. -/
theorem tooLarge_or_iff {v : Value} {later : Prop} :
    (v.TooLarge ∨ (∃ x, v.ByFloat x) ∧ later) ↔ (v.TooLarge ∨ v.IsNumber ∧ later) := by
  constructor
  · rintro (large | ⟨⟨x, read⟩, rest⟩)
    · exact .inl large
    · exact .inr ⟨(Value.byFloat_number read).1, rest⟩
  · rintro (large | ⟨number, rest⟩)
    · exact .inl large
    · by_cases large : v.TooLarge
      · exact .inl large
      · exact .inr ⟨Value.exists_byFloat number large, rest⟩

/-- Numbers within the bounds the schemas use read the same either way. -/
theorem bounded_reads {bounds : Bounds} {v : Value} {x : Double} (known : bounds = signedUnit ∨ bounds = unit)
    (holds : bounds.Holds x) : v.Exactly x ↔ v.ByFloat x := by
  rcases known with rfl | rfl
  · exact Value.exactly_iff_byFloat (by norm_num [signedUnit]) (by norm_num [signedUnit]) holds.1 holds.2
  · exact Value.exactly_iff_byFloat (by norm_num [unit]) (by norm_num [unit]) holds.1 holds.2

omit [Fpu] in
theorem Bounds.Holds.finite {bounds : Bounds} {x : Double} (holds : bounds.Holds x) : x.isFinite = true := by
  obtain ⟨q, rfl⟩ := fin_of_between holds.1 holds.2
  rfl

/-! ## VIS -/

/-- The members hold the fields of `read`, each number read by `reads`, and pass every check but
the one for finite numbers. -/
structure VisCarries (reads : Value → Double → Prop) (members : Members) (read : VisMessage) : Prop where
  complete : Complete "VIS" visRequiredFields members
  seq : members.get "seq" = .int read.seq
  timestamp : reads (members.get "timestamp_s") read.timestamp
  trackingState : members.get "tracking_state" = .int read.trackingState
  state_mem : read.trackingState ∈ trackingStates
  locX : reads (members.get "loc_x") read.locX
  locY : reads (members.get "loc_y") read.locY
  boundW : reads (members.get "bound_w") read.boundW
  boundH : reads (members.get "bound_h") read.boundH
  confidence : reads (members.get "confidence") read.confidence
  locX_range : signedUnit.Holds read.locX
  locY_range : signedUnit.Holds read.locY
  boundW_range : unit.Holds read.boundW
  boundH_range : unit.Holds read.boundH
  confidence_range : unit.Holds read.confidence
  still : read.trackingState ≠ trackingStateTracking →
    ∀ field ∈ read.trackingFields, ¬ nonTrackingZeroEps < Double.abs field.2

/-- What is kept of a message: the tracking fields are zero while nothing is tracked. -/
def VisMessage.normalized (msg : VisMessage) : VisMessage :=
  if msg.trackingState = trackingStateTracking then msg else msg.zeroed

theorem zeroNonTracking_ok {values msg : VisMessage} :
    zeroNonTracking values = .ok msg ↔
      (values.trackingState ≠ trackingStateTracking →
        ∀ field ∈ values.trackingFields, ¬ nonTrackingZeroEps < Double.abs field.2) ∧
      msg = values.normalized := by
  unfold zeroNonTracking VisMessage.normalized
  by_cases tracking : values.trackingState = trackingStateTracking
  · simp only [tracking, ↓reduceIte, Except.ok.injEq, ne_eq, not_true_eq_false, false_implies, true_and]
    exact eq_comm
  · simp only [tracking, ↓reduceIte, List.filter_eq_nil_iff, decide_eq_true_eq, ne_eq, not_false_eq_true,
      forall_const]
    split_ifs with still
    · rw [Except.ok.injEq, and_iff_right still]
      exact eq_comm
    · simp only [refuse, reduceCtorEq, still, false_and]

theorem zeroNonTracking_overflow {values : VisMessage} :
    zeroNonTracking values ≠ .error .overflowError := by
  unfold zeroNonTracking
  dsimp only
  split_ifs <;> simp [refuse]

theorem validateVisMessage_ok_iff {payload : Value} {msg : VisMessage} :
    validateVisMessage payload = .ok msg ↔
      ∃ (members : Members) (read : VisMessage), payload = .obj members ∧ VisCarries Value.ByFloat members read ∧
        msg = read.normalized := by
  unfold validateVisMessage
  simp only [bind_ok_iff, requireObject_ok, requireMembers_ok, requireType_ok, requireInt_ok, requireFloat_ok,
    requireOneOf_ok, ensureInRange_ok, zeroNonTracking_ok]
  constructor
  · rintro ⟨members, rfl, _, fields, _, type, seq, seqIs, timestamp, timestampIs, state, stateIs, _, stateMem,
      locX, locXIs, locY, locYIs, boundW, boundWIs, boundH, boundHIs, confidence, confidenceIs,
      _, locXIn, _, locYIn, _, boundWIn, _, boundHIn, _, confidenceIn, still, rfl⟩
    exact ⟨members, _, rfl, ⟨⟨fields, type⟩, seqIs, timestampIs, stateIs, stateMem, locXIs, locYIs, boundWIs,
      boundHIs, confidenceIs, locXIn, locYIn, boundWIn, boundHIn, confidenceIn, still⟩, rfl⟩
  · rintro ⟨members, read, rfl, c, rfl⟩
    exact ⟨members, rfl, (), c.complete.1, (), c.complete.2, _, c.seq, _, c.timestamp, _, c.trackingState, (),
      c.state_mem, _, c.locX, _, c.locY, _, c.boundW, _, c.boundH, _, c.confidence, (), c.locX_range, (),
      c.locY_range, (), c.boundW_range, (), c.boundH_range, (), c.confidence_range, c.still, rfl⟩

/-- The reading of a VIS payload reaches a number too large for a double. -/
def VisOverflows (payload : Value) : Prop :=
  ∃ members : Members, payload = .obj members ∧ Complete "VIS" visRequiredFields members ∧
    (members.get "seq").IsInt ∧
      ((members.get "timestamp_s").TooLarge ∨ (members.get "timestamp_s").IsNumber ∧
        ∃ state, members.get "tracking_state" = .int state ∧ state ∈ trackingStates ∧
          FirstTooLarge members ["loc_x", "loc_y", "bound_w", "bound_h", "confidence"])

theorem validateVisMessage_overflow_iff {payload : Value} :
    validateVisMessage payload = .error .overflowError ↔ VisOverflows payload := by
  unfold validateVisMessage VisOverflows Complete Value.IsInt
  simp only [bind_overflow_iff, requireObject_ok, requireObject_overflow, requireMembers_ok,
    requireMembers_overflow, requireType_ok, requireType_overflow, requireInt_ok, requireInt_overflow,
    requireFloat_ok, requireFloat_overflow, requireOneOf_ok, requireOneOf_overflow, ensureInRange_ok,
    ensureInRange_overflow, zeroNonTracking_overflow, false_or, exists_const, and_false, or_false,
    exists_and_right, tooLarge_or_iff, FirstTooLarge, and_assoc]

theorem zeroNonTracking_supported (values : VisMessage) : Supported visDropReasons (zeroNonTracking values) := by
  unfold zeroNonTracking
  dsimp only
  split_ifs
  · exact .ok visDropReasons _
  · exact .ok visDropReasons _
  · exact .refuse (by decide) _

theorem validateVisMessage_supported (payload : Value) : Supported visDropReasons (validateVisMessage payload) := by
  have schema : DropReason.schema ∈ visDropReasons := by decide
  have range : DropReason.range ∈ visDropReasons := by decide
  unfold validateVisMessage
  repeat' first
    | exact requireObject_supported _ schema _
    | exact requireMembers_supported _ _ schema _
    | exact requireType_supported _ _ schema
    | exact requireInt_supported _ _ schema
    | exact requireFloat_supported _ _ schema
    | exact requireOneOf_supported range _ _ _
    | exact ensureInRange_supported _ range _ _
    | exact zeroNonTracking_supported _
    | refine Supported.bind ?_ fun _ => ?_

/-- The accepted messages: every field as the payload has it, every number finite, and the tracking
fields zero while nothing is tracked. -/
def VisAccepts (payload : Value) (msg : VisMessage) : Prop :=
  ∃ (members : Members) (read : VisMessage), payload = .obj members ∧ VisCarries Value.Exactly members read ∧
    (∀ x ∈ read.timestamp :: read.trackingFields.map Prod.snd, x.isFinite = true) ∧ msg = read.normalized

/-- Where the payload passes every other check, its timestamp is a finite number `float()` keeps. -/
def VisTimestampKept (payload : Value) : Prop :=
  ∀ (members : Members) (read : VisMessage), payload = .obj members → VisCarries Value.Exactly members read →
    (members.get "timestamp_s").KeptByFloat

namespace VisCarries
variable {members : Members} {read : VisMessage}

/-- The bounded fields read the same either way, so the readings differ in the timestamp at most. -/
theorem change {reads other : Value → Double → Prop} {timestamp : Double}
    (same : ∀ {bounds : Bounds} {v : Value} {x : Double}, bounds = signedUnit ∨ bounds = unit →
      bounds.Holds x → reads v x → other v x)
    (carries : VisCarries reads members read) (stamp : other (members.get "timestamp_s") timestamp) :
    VisCarries other members { read with timestamp } where
  complete := carries.complete
  seq := carries.seq
  timestamp := stamp
  trackingState := carries.trackingState
  state_mem := carries.state_mem
  locX := same (.inl rfl) carries.locX_range carries.locX
  locY := same (.inl rfl) carries.locY_range carries.locY
  boundW := same (.inr rfl) carries.boundW_range carries.boundW
  boundH := same (.inr rfl) carries.boundH_range carries.boundH
  confidence := same (.inr rfl) carries.confidence_range carries.confidence
  locX_range := carries.locX_range
  locY_range := carries.locY_range
  boundW_range := carries.boundW_range
  boundH_range := carries.boundH_range
  confidence_range := carries.confidence_range
  still := carries.still

/-- Every number but the timestamp is finite, being in its range. -/
theorem finite {reads : Value → Double → Prop} (carries : VisCarries reads members read) :
    ∀ x ∈ read.trackingFields.map Prod.snd, x.isFinite = true := by
  intro x member
  simp only [VisMessage.trackingFields, List.map_cons, List.map_nil, List.mem_cons, List.not_mem_nil,
    or_false] at member
  rcases member with rfl | rfl | rfl | rfl | rfl
  · exact carries.locX_range.finite
  · exact carries.locY_range.finite
  · exact carries.boundW_range.finite
  · exact carries.boundH_range.finite
  · exact carries.confidence_range.finite

end VisCarries

omit [Fpu] in
theorem VisMessage.normalized_timestamp (msg : VisMessage) : msg.normalized.timestamp = msg.timestamp := by
  unfold VisMessage.normalized
  split_ifs <;> rfl

/-- The VIS validator keeps its contract on exactly the payloads whose numbers all fit a double and
whose timestamp is finite and kept by `float()`. -/
theorem visContract_iff (payload : Value) :
    KeepsContract (validateVisMessage payload) (VisAccepts payload) visDropReasons ↔
      ¬ VisOverflows payload ∧ VisTimestampKept payload := by
  rw [keepsContract_iff (validateVisMessage_supported payload), Ne, validateVisMessage_overflow_iff]
  apply and_congr_right
  intro fits
  constructor
  · rintro exactly members read rfl carries
    have small : ¬ (members.get "timestamp_s").TooLarge := by
      intro large
      exact fits ⟨members, rfl, carries.complete, ⟨_, carries.seq⟩, .inl large⟩
    have number : (members.get "timestamp_s").IsNumber := by
      rw [Value.IsNumber, carries.timestamp]
      rfl
    obtain ⟨stamp, byFloat⟩ := Value.exists_byFloat number small
    have floated := carries.change (fun known holds => (bounded_reads known holds).1) byFloat
    have run := validateVisMessage_ok_iff.2 ⟨members, _, rfl, floated, rfl⟩
    obtain ⟨members', read', same, carries', finite, stored⟩ := (exactly _).1 run
    cases same
    have stamps : stamp = read'.timestamp := by
      have := congrArg VisMessage.timestamp stored
      rwa [VisMessage.normalized_timestamp, VisMessage.normalized_timestamp] at this
    exact (Value.kept_iff carries'.timestamp byFloat).2 ⟨stamps.symm, finite _ (.head _)⟩
  · intro kept msg
    rw [validateVisMessage_ok_iff]
    constructor
    · rintro ⟨members, read, rfl, carries, rfl⟩
      obtain ⟨stamp, exactly⟩ := Option.isSome_iff_exists.1 (Value.byFloat_number carries.timestamp).1
      have exact' := carries.change (fun known holds => (bounded_reads known holds).2) exactly
      obtain ⟨rfl, finite⟩ := (Value.kept_iff exactly carries.timestamp).1 (kept members _ rfl exact')
      exact ⟨members, read, rfl, exact', List.forall_mem_cons.2 ⟨finite, carries.finite⟩, rfl⟩
    · rintro ⟨members, read, rfl, carries, _, rfl⟩
      obtain ⟨q, exactly, byFloat⟩ := Value.byFloat_of_kept (kept members read rfl carries)
      have stamp : fin q = read.timestamp := Option.some.inj (exactly.symm.trans carries.timestamp)
      rw [stamp] at byFloat
      exact ⟨members, read, rfl, carries.change (fun known holds => (bounded_reads known holds).1) byFloat, rfl⟩

/-! ## TEL -/

structure TelCarries (reads : Value → Double → Prop) (members : Members) (read : TelMessage) : Prop where
  complete : Complete "TEL" telRequiredFields members
  seq : members.get "seq" = .int read.seq
  timestamp : reads (members.get "timestamp_s") read.timestamp
  controlMode : members.get "control_mode" = .int read.controlMode
  trackingState : members.get "tracking_state" = .int read.trackingState
  mode_mem : read.controlMode ∈ controlModes
  state_mem : read.trackingState ∈ trackingStates
  distFront : reads (members.get "distFront_m") read.distFront
  distBack : reads (members.get "distBack_m") read.distBack
  distBottom : reads (members.get "distBottom_m") read.distBottom
  targetX : reads (members.get "target_x") read.targetX
  targetY : reads (members.get "target_y") read.targetY
  boundW : reads (members.get "bound_w") read.boundW
  boundH : reads (members.get "bound_h") read.boundH
  confidence : reads (members.get "confidence") read.confidence
  targetX_range : signedUnit.Holds read.targetX
  targetY_range : signedUnit.Holds read.targetY
  boundW_range : unit.Holds read.boundW
  boundH_range : unit.Holds read.boundH
  confidence_range : unit.Holds read.confidence

theorem validateTelMessage_ok_iff {payload : Value} {msg : TelMessage} :
    validateTelMessage payload = .ok msg ↔
      ∃ members : Members, payload = .obj members ∧ TelCarries Value.ByFloat members msg := by
  unfold validateTelMessage
  simp only [bind_ok_iff, requireObject_ok, requireMembers_ok, requireType_ok, requireInt_ok, requireFloat_ok,
    requireOneOf_ok, ensureInRange_ok, pure, Except.pure, Except.ok.injEq]
  constructor
  · rintro ⟨members, rfl, _, fields, _, type, seq, seqIs, timestamp, timestampIs, mode, modeIs, state, stateIs,
      _, modeMem, _, stateMem, front, frontIs, back, backIs, bottom, bottomIs, targetX, targetXIs, targetY,
      targetYIs, boundW, boundWIs, boundH, boundHIs, confidence, confidenceIs, _, targetXIn, _, targetYIn,
      _, boundWIn, _, boundHIn, _, confidenceIn, rfl⟩
    exact ⟨members, rfl, ⟨fields, type⟩, seqIs, timestampIs, modeIs, stateIs, modeMem, stateMem, frontIs, backIs,
      bottomIs, targetXIs, targetYIs, boundWIs, boundHIs, confidenceIs, targetXIn, targetYIn, boundWIn, boundHIn,
      confidenceIn⟩
  · rintro ⟨members, rfl, c⟩
    exact ⟨members, rfl, (), c.complete.1, (), c.complete.2, _, c.seq, _, c.timestamp, _, c.controlMode, _,
      c.trackingState, (), c.mode_mem, (), c.state_mem, _, c.distFront, _, c.distBack, _, c.distBottom, _,
      c.targetX, _, c.targetY, _, c.boundW, _, c.boundH, _, c.confidence, (), c.targetX_range, (),
      c.targetY_range, (), c.boundW_range, (), c.boundH_range, (), c.confidence_range, rfl⟩

/-- The reading of a TEL payload reaches a number too large for a double. -/
def TelOverflows (payload : Value) : Prop :=
  ∃ members : Members, payload = .obj members ∧ Complete "TEL" telRequiredFields members ∧
    (members.get "seq").IsInt ∧
      ((members.get "timestamp_s").TooLarge ∨ (members.get "timestamp_s").IsNumber ∧
        ∃ mode, members.get "control_mode" = .int mode ∧
          ∃ state, members.get "tracking_state" = .int state ∧ mode ∈ controlModes ∧ state ∈ trackingStates ∧
            FirstTooLarge members ["distFront_m", "distBack_m", "distBottom_m", "target_x", "target_y", "bound_w",
              "bound_h", "confidence"])

theorem validateTelMessage_overflow_iff {payload : Value} :
    validateTelMessage payload = .error .overflowError ↔ TelOverflows payload := by
  unfold validateTelMessage TelOverflows Complete Value.IsInt
  simp only [bind_overflow_iff, requireObject_ok, requireObject_overflow, requireMembers_ok,
    requireMembers_overflow, requireType_ok, requireType_overflow, requireInt_ok, requireInt_overflow,
    requireFloat_ok, requireFloat_overflow, requireOneOf_ok, requireOneOf_overflow, ensureInRange_ok,
    ensureInRange_overflow, pure, Except.pure, reduceCtorEq, false_or, exists_const, and_false, or_false,
    exists_and_right, tooLarge_or_iff, FirstTooLarge, and_assoc]

theorem validateTelMessage_supported (payload : Value) : Supported telDropReasons (validateTelMessage payload) := by
  have schema : DropReason.schema ∈ telDropReasons := by decide
  have range : DropReason.range ∈ telDropReasons := by decide
  unfold validateTelMessage
  repeat' first
    | exact requireObject_supported _ schema _
    | exact requireMembers_supported _ _ schema _
    | exact requireType_supported _ _ schema
    | exact requireInt_supported _ _ schema
    | exact requireFloat_supported _ _ schema
    | exact requireOneOf_supported range _ _ _
    | exact ensureInRange_supported _ range _ _
    | exact .ok telDropReasons _
    | refine Supported.bind ?_ fun _ => ?_

/-- The numbers of a TEL message that no range bounds. -/
def TelMessage.unbounded (msg : TelMessage) : List Double :=
  [msg.timestamp, msg.distFront, msg.distBack, msg.distBottom]

def TelMessage.bounded (msg : TelMessage) : List Double :=
  [msg.targetX, msg.targetY, msg.boundW, msg.boundH, msg.confidence]

def telUnboundedFields : List String := ["timestamp_s", "distFront_m", "distBack_m", "distBottom_m"]

def TelAccepts (payload : Value) (msg : TelMessage) : Prop :=
  ∃ members : Members, payload = .obj members ∧ TelCarries Value.Exactly members msg ∧
    ∀ x ∈ msg.unbounded ++ msg.bounded, x.isFinite = true

/-- Where the payload passes every other check, the numbers without a range are finite ones that
`float()` keeps. -/
def TelNumbersKept (payload : Value) : Prop :=
  ∀ (members : Members) (read : TelMessage), payload = .obj members → TelCarries Value.Exactly members read →
    ∀ name ∈ telUnboundedFields, (members.get name).KeptByFloat

namespace TelCarries
variable {members : Members} {read : TelMessage}

omit [Fpu] in
/-- The bounded fields read the same either way, so the readings differ in the other four at most. -/
theorem change {reads other : Value → Double → Prop} {timestamp distFront distBack distBottom : Double}
    (same : ∀ {bounds : Bounds} {v : Value} {x : Double}, bounds = signedUnit ∨ bounds = unit →
      bounds.Holds x → reads v x → other v x)
    (carries : TelCarries reads members read) (stamp : other (members.get "timestamp_s") timestamp)
    (front : other (members.get "distFront_m") distFront) (back : other (members.get "distBack_m") distBack)
    (bottom : other (members.get "distBottom_m") distBottom) :
    TelCarries other members { read with timestamp, distFront, distBack, distBottom } where
  complete := carries.complete
  seq := carries.seq
  timestamp := stamp
  controlMode := carries.controlMode
  trackingState := carries.trackingState
  mode_mem := carries.mode_mem
  state_mem := carries.state_mem
  distFront := front
  distBack := back
  distBottom := bottom
  targetX := same (.inl rfl) carries.targetX_range carries.targetX
  targetY := same (.inl rfl) carries.targetY_range carries.targetY
  boundW := same (.inr rfl) carries.boundW_range carries.boundW
  boundH := same (.inr rfl) carries.boundH_range carries.boundH
  confidence := same (.inr rfl) carries.confidence_range carries.confidence
  targetX_range := carries.targetX_range
  targetY_range := carries.targetY_range
  boundW_range := carries.boundW_range
  boundH_range := carries.boundH_range
  confidence_range := carries.confidence_range

omit [Fpu] in
theorem finite_bounded {reads : Value → Double → Prop} (carries : TelCarries reads members read) :
    ∀ x ∈ read.bounded, x.isFinite = true := by
  intro x member
  simp only [TelMessage.bounded, List.mem_cons, List.not_mem_nil, or_false] at member
  rcases member with rfl | rfl | rfl | rfl | rfl
  · exact carries.targetX_range.finite
  · exact carries.targetY_range.finite
  · exact carries.boundW_range.finite
  · exact carries.boundH_range.finite
  · exact carries.confidence_range.finite

omit [Fpu] in
/-- The four numbers without a range, as the payload has them. -/
theorem numbers (carries : TelCarries Value.Exactly members read) :
    (members.get "timestamp_s").IsNumber ∧ (members.get "distFront_m").IsNumber ∧
      (members.get "distBack_m").IsNumber ∧ (members.get "distBottom_m").IsNumber := by
  have isNumber : ∀ {v : Value} {x : Double}, v.Exactly x → v.IsNumber := by
    intro v x exactly
    rw [Value.IsNumber, exactly]
    rfl
  exact ⟨isNumber carries.timestamp, isNumber carries.distFront, isNumber carries.distBack,
    isNumber carries.distBottom⟩

/-- Short of an overflow, none of the four is too large for a double. -/
theorem small (carries : TelCarries Value.Exactly members read) (fits : ¬ TelOverflows (.obj members)) :
    ¬ (members.get "timestamp_s").TooLarge ∧ ¬ (members.get "distFront_m").TooLarge ∧
      ¬ (members.get "distBack_m").TooLarge ∧ ¬ (members.get "distBottom_m").TooLarge := by
  obtain ⟨stamp, front, back, _⟩ := carries.numbers
  have reached : FirstTooLarge members ["distFront_m", "distBack_m", "distBottom_m", "target_x", "target_y",
      "bound_w", "bound_h", "confidence"] → False := by
    intro large
    exact fits ⟨members, rfl, carries.complete, ⟨_, carries.seq⟩, .inr ⟨stamp, _, carries.controlMode, _,
      carries.trackingState, carries.mode_mem, carries.state_mem, large⟩⟩
  refine ⟨?_, ?_, ?_, ?_⟩
  · intro large
    exact fits ⟨members, rfl, carries.complete, ⟨_, carries.seq⟩, .inl large⟩
  · intro large
    exact reached (.inl large)
  · intro large
    exact reached (.inr ⟨front, .inl large⟩)
  · intro large
    exact reached (.inr ⟨front, .inr ⟨back, .inl large⟩⟩)

end TelCarries

/-- The TEL validator keeps its contract on exactly the payloads whose numbers all fit a double and
whose numbers without a range are finite and kept by `float()`. -/
theorem telContract_iff (payload : Value) :
    KeepsContract (validateTelMessage payload) (TelAccepts payload) telDropReasons ↔
      ¬ TelOverflows payload ∧ TelNumbersKept payload := by
  rw [keepsContract_iff (validateTelMessage_supported payload), Ne, validateTelMessage_overflow_iff]
  apply and_congr_right
  intro fits
  constructor
  · rintro exactly members read rfl carries
    obtain ⟨smallT, smallF, smallB, smallG⟩ := carries.small fits
    obtain ⟨numberT, numberF, numberB, numberG⟩ := carries.numbers
    obtain ⟨stamp, floatT⟩ := Value.exists_byFloat numberT smallT
    obtain ⟨front, floatF⟩ := Value.exists_byFloat numberF smallF
    obtain ⟨back, floatB⟩ := Value.exists_byFloat numberB smallB
    obtain ⟨bottom, floatG⟩ := Value.exists_byFloat numberG smallG
    have floated := carries.change (fun known holds => (bounded_reads known holds).1) floatT floatF floatB floatG
    have run := validateTelMessage_ok_iff.2 ⟨members, rfl, floated⟩
    obtain ⟨members', same, carries', finite⟩ := (exactly _).1 run
    cases same
    simp only [telUnboundedFields, List.forall_mem_cons, List.not_mem_nil, false_implies, implies_true, and_true]
    simp only [TelMessage.unbounded, List.cons_append, List.forall_mem_cons] at finite
    obtain ⟨finT, finF, finB, finG, _⟩ := finite
    exact ⟨(Value.kept_iff carries'.timestamp floatT).2 ⟨rfl, finT⟩,
      (Value.kept_iff carries'.distFront floatF).2 ⟨rfl, finF⟩,
      (Value.kept_iff carries'.distBack floatB).2 ⟨rfl, finB⟩,
      (Value.kept_iff carries'.distBottom floatG).2 ⟨rfl, finG⟩⟩
  · intro kept msg
    rw [validateTelMessage_ok_iff]
    constructor
    · rintro ⟨members, rfl, carries⟩
      obtain ⟨stamp, exactT⟩ := Option.isSome_iff_exists.1 (Value.byFloat_number carries.timestamp).1
      obtain ⟨front, exactF⟩ := Option.isSome_iff_exists.1 (Value.byFloat_number carries.distFront).1
      obtain ⟨back, exactB⟩ := Option.isSome_iff_exists.1 (Value.byFloat_number carries.distBack).1
      obtain ⟨bottom, exactG⟩ := Option.isSome_iff_exists.1 (Value.byFloat_number carries.distBottom).1
      have exact' := carries.change (fun known holds => (bounded_reads known holds).2) exactT exactF exactB exactG
      have keeps := kept members _ rfl exact'
      simp only [telUnboundedFields, List.forall_mem_cons, List.not_mem_nil, false_implies, implies_true,
        and_true] at keeps
      obtain ⟨keepT, keepF, keepB, keepG⟩ := keeps
      obtain ⟨rfl, finT⟩ := (Value.kept_iff exactT carries.timestamp).1 keepT
      obtain ⟨rfl, finF⟩ := (Value.kept_iff exactF carries.distFront).1 keepF
      obtain ⟨rfl, finB⟩ := (Value.kept_iff exactB carries.distBack).1 keepB
      obtain ⟨rfl, finG⟩ := (Value.kept_iff exactG carries.distBottom).1 keepG
      refine ⟨members, rfl, exact', ?_⟩
      simp only [TelMessage.unbounded, List.cons_append, List.nil_append, List.forall_mem_cons]
      exact ⟨finT, finF, finB, finG, carries.finite_bounded⟩
    · rintro ⟨members, rfl, carries, _⟩
      have keeps := kept members msg rfl carries
      have byFloat : ∀ {name : String} {x : Double}, name ∈ telUnboundedFields →
          (Members.get members name).Exactly x → (Members.get members name).ByFloat x := by
        intro name x member exactly
        obtain ⟨q, number, read⟩ := Value.byFloat_of_kept (keeps name member)
        rwa [Option.some.inj (number.symm.trans exactly)] at read
      exact ⟨members, rfl, carries.change (fun known holds => (bounded_reads known holds).1)
        (byFloat (by decide) carries.timestamp) (byFloat (by decide) carries.distFront)
        (byFloat (by decide) carries.distBack) (byFloat (by decide) carries.distBottom)⟩

/-- Both validators keep their contract on exactly those payloads. -/
theorem contracts_iff (payload : Value) :
    KeepsContract (validateTelMessage payload) (TelAccepts payload) telDropReasons ∧
        KeepsContract (validateVisMessage payload) (VisAccepts payload) visDropReasons ↔
      (¬ TelOverflows payload ∧ TelNumbersKept payload) ∧ ¬ VisOverflows payload ∧ VisTimestampKept payload :=
  and_congr (telContract_iff payload) (visContract_iff payload)

end contract

section hardware
attribute [local instance] Binary64.binary64

/-- What `json.loads` makes of a VIS message with `"timestamp_s":NaN`. -/
def timelessVis : Members :=
  [(pyStr "type", .str (pyStr "VIS")), (pyStr "seq", .int 1), (pyStr "timestamp_s", .float nan),
    (pyStr "tracking_state", .int 3), (pyStr "loc_x", .int 0), (pyStr "loc_y", .int 0),
    (pyStr "bound_w", .int 0), (pyStr "bound_h", .int 0), (pyStr "confidence", .int 1)]

theorem nan_timestamp_accepted :
    ¬ (KeepsContract (validateTelMessage (.obj timelessVis)) (TelAccepts (.obj timelessVis)) telDropReasons ∧
      KeepsContract (validateVisMessage (.obj timelessVis)) (VisAccepts (.obj timelessVis)) visDropReasons) := by
  rintro ⟨-, exactly, -⟩
  have run : (validateVisMessage (.obj timelessVis)).toOption.map VisMessage.timestamp = some nan := by
    decide +kernel
  cases validated : validateVisMessage (.obj timelessVis) with
  | error raised =>
    rw [validated] at run
    cases run
  | ok msg =>
    obtain ⟨members, read, _, _, finite, stored⟩ := (exactly msg).1 validated
    have timely := finite _ (.head _)
    rw [← read.normalized_timestamp, ← stored] at timely
    rw [validated] at run
    have timeless : msg.timestamp = nan := Option.some.inj run
    rw [timeless] at timely
    cases timely

end hardware
end AotDrone.Backend
