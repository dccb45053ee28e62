import AotDrone.Link.MemberLookup

/-! The reader of CMD payloads over members instead of positions. On the text of an object that
`json.dumps` has written, `parseCmdFrame` is this reader. -/

namespace AotDrone.Link
open AotDrone.Lib AotDrone.Lib.Double AotDrone.Lib.Decimal AotDrone.Json AotDrone.Fc

variable [Fpu] [Libc] [FloatRepr]

/-- The number token the reader finds under a name. -/
def numberUnder (name : String) (members : Members) : Option Text := (fcLookup name.toList members).bind numberText

def readOptionalNumber (name : String) (members : Members) : Option (Bool × Double) :=
  match numberUnder name members with
  | none => some (false, 0)
  | some token => (parseDouble token).map fun value => (true, value)

def readSetpoints (members : Members) : Option CommandSetpoints := do
  let (hasRoll, roll) ← readOptionalNumber "roll" members
  let (hasPitch, pitch) ← readOptionalNumber "pitch" members
  let (hasYawRate, yawRate) ← readOptionalNumber "yaw_rate" members
  let (hasThrottle, throttle) ← readOptionalNumber "throttle" members
  some { hasRoll, roll, hasPitch, pitch, hasYawRate, yawRate, hasThrottle, throttle }

def readTracking (members : Members) : Option CommandTracking := do
  let stateToken ← numberUnder "tracking_state" members
  let locXToken ← numberUnder "loc_x" members
  let locYToken ← numberUnder "loc_y" members
  let boundWToken ← numberUnder "bound_w" members
  let boundHToken ← numberUnder "bound_h" members
  let confidenceToken ← numberUnder "confidence" members
  let visSeqToken ← numberUnder "vis_seq" members
  let visTimestampToken ← numberUnder "vis_timestamp_s" members
  let trackingState ← parseIntLike stateToken
  let locX ← parseDouble locXToken
  let locY ← parseDouble locYToken
  let boundW ← parseDouble boundWToken
  let boundH ← parseDouble boundHToken
  let confidence ← parseDouble confidenceToken
  let visSeq ← parseIntLike visSeqToken
  let visTimestamp ← parseDouble visTimestampToken
  if trackingState < 1 ∨ 4 < trackingState then none
  else
    some
      { hasTracking := true, trackingState, locX, locY, boundW, boundH, confidence, visSeq,
        visTimestamp }

/-- A member that has to be an object where it is there. -/
def readMember {α : Type} (name : String) (absent : α) (read : Members → Option α) (members : Members) : Option α :=
  match fcLookup name.toList members with
  | none => some absent
  | some (.obj inner) => read inner
  | some _ => none

def readCmdFrame (members : Members) : Option CommandFrame := do
  let type ← (fcLookup "type".toList members).bind stringText
  if type ≠ "CMD".toList then none
  else
    let seqToken ← numberUnder "seq" members
    let tsToken ← numberUnder "timestamp_s" members
    let modeToken ← numberUnder "desired_mode" members
    let seq ← parseIntLike seqToken
    let timestamp ← parseDouble tsToken
    let desiredMode ← parseIntLike modeToken
    let arm := (fcLookup "arm".toList members).bind boolValue
    let setpoints ← readMember "setpoints" {} readSetpoints members
    let tracking ← readMember "tracking" {} readTracking members
    some
      { seq
        timestamp
        desiredMode
        hasArm := arm.isSome
        arm := arm.getD false
        setpoints
        tracking
        rawJson := dumps (.obj members) }

section fields
variable {json : Text} {start stop : Nat} {blank : Blank} {members : Members}
  (object : Holds json start stop blank (fieldsOf members))
include object

omit [Libc] in
theorem number_members (name : String) :
    parseJsonNumberTokenInObject json start stop name.toList = numberUnder name members := by
  rw [object.number]
  exact lookupKey_bind _ _ numberToken_value

theorem optionalNumber_members (name : String) :
    parseOptionalNumberInObject json start stop name.toList = readOptionalNumber name members := by
  unfold parseOptionalNumberInObject readOptionalNumber
  rewrite [number_members object]
  cases numberUnder name members <;> rfl

omit [Libc] in
theorem optionalBool_members (name : String) :
    parseOptionalBoolInObject json start stop name.toList =
      (((fcLookup name.toList members).bind boolValue).isSome,
        ((fcLookup name.toList members).bind boolValue).getD false) := by
  unfold parseOptionalBoolInObject
  rw [object.bool, lookupKey_bind _ _ boolOf_value]
  cases (fcLookup name.toList members).bind boolValue <;> rfl

omit [Libc] in
/-- A member that has to be an object, read by members. -/
theorem objectMember_members {α : Type} (name : String) (absent : α) {read : Nat → Nat → Option α} {of : Members → Option α}
    (same : ∀ inner first last, Holds json first last .none (fieldsOf inner) → read first last = of inner) :
    (match findKeyInObject json start stop name.toList with
      | none => some absent
      | some valuePos =>
        if stop ≤ valuePos ∨ charAt json valuePos ≠ '{' then none
        else
          match findObjectSpanInObject json start stop name.toList with
          | none => none
          | some (first, last) => read first last) = readMember name absent of members := by
  apply Option.ext
  intro a
  -- The member that is found tells which members `of` reads.
  have looked := lookupKey_fieldsOf name.toList members
  refine (object.objectMember (fun _ a => ∃ inner, fcLookup name.toList members = some (.obj inner) ∧ of inner = some a)
    ?_).trans ?_
  swap
  · rw [looked, readMember]
    cases value : fcLookup name.toList members with
    | none => exact eq_comm.trans Option.some_inj.symm
    | some v =>
      cases v with
      | obj inner => simp [Value.node]
      | float x => cases x <;> simp [Value.node]
      | null | bool _ | int _ | str _ | arr _ => simp [Value.node]
  · intro space inner first last found braces
    rw [looked, Option.map_eq_some_iff] at found
    obtain ⟨v, member, shape⟩ := found
    cases v with
    | obj inner =>
      cases shape
      rw [same _ _ _ braces, member]
      simp
    | float x => cases x <;> cases shape
    | null | bool _ | int _ | str _ | arr _ => cases shape

theorem parseSetpoints_members : parseSetpoints json start stop = readMember "setpoints" {} readSetpoints members := by
  apply objectMember_members object
  intro inner first last braces
  rw [optionalNumber_members braces, optionalNumber_members braces, optionalNumber_members braces,
    optionalNumber_members braces]
  rfl

theorem parseTracking_members : parseTracking json start stop = readMember "tracking" {} readTracking members := by
  apply objectMember_members object
  intro inner first last braces
  simp only [number_members braces]
  rfl

end fields

/-- The flight controller reads an object the backend has written member by member. -/
theorem parseCmdFrame_dumps (members : Members) : parseCmdFrame (dumps (.obj members)) = readCmdFrame members := by
  obtain ⟨start, stop, root, object⟩ := findRootObjectSpan_object (dumped members)
  change Holds _ start stop .none (fieldsOf members) at object
  rw [dumped_text] at root object
  unfold parseCmdFrame readCmdFrame
  rw [root]
  dsimp only
  rw [object.string, lookupKey_bind _ _ stringValue_value, number_members object, number_members object,
    number_members object, optionalBool_members object, parseSetpoints_members object, parseTracking_members object]

end AotDrone.Link
