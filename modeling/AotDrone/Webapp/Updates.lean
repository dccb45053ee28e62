import AotDrone.Webapp.Envelope

/-! The readers of `types.ts` for the data of LINK_STATUS, TEL_UPDATE and VIS_UPDATE. `none` stands for `undefined`
where a field may be missing, and for `null` where it may be null. -/

namespace AotDrone.Webapp
open AotDrone.Lib AotDrone.Lib.Double AotDrone.Json

structure LinkStatus where
  fcConnected : Bool
  fcLastConnectAttempt : Option Double
  cmdTxTotal : Double
  cmdTxOk : Double
  cmdTxFail : Double
  cmdLastSent : Option Double
  cmdHzEst : Double
  trackingBlockedReason : Option PyStr
  visAge : Option Double
  visRxOk : Double
  visRxBad : Double
  visDropReasonOversize : Double
  visDropReasonJson : Double
  visDropReasonSchema : Double
  visDropReasonRange : Double
  visDropReasonSemantics : Double
  telAge : Option Double
  telRxOk : Double
  telRxBad : Double
  visFresh : Double
  telFresh : Double
  cmdTimeout : Double
  cmdHz : Double
  telHz : Double

structure TelUpdate where
  type : Option PyStr
  seq : Option Double
  timestamp : Option Double
  controlMode : Option Double
  trackingState : Option Double
  distFront : Option Double
  distBack : Option Double
  distBottom : Option Double
  targetX : Option Double
  targetY : Option Double
  boundW : Option Double
  boundH : Option Double
  confidence : Option Double
  cmdAge : Option Double
  rxMonotonic : Option Double
  telAge : Option Double

structure VisUpdate where
  type : Option PyStr
  seq : Option Double
  timestamp : Option Double
  trackingState : Option Double
  locX : Option Double
  locY : Option Double
  boundW : Option Double
  boundH : Option Double
  confidence : Option Double
  rxMonotonic : Option Double
  visAge : Option Double

/-- `readNumber(value) ?? 0` -/
def readCounter (value : Option Value) : Double := (readNumber value).getD 0

def asLinkStatus (value : Value) : Option LinkStatus := do
  let record ← asRecord value
  let fcConnected ← readBoolean (property record "fc_connected")
  some
    { fcConnected
      fcLastConnectAttempt := readNullableNumber (property record "fc_last_connect_attempt_s")
      cmdTxTotal := readCounter (property record "cmd_tx_total")
      cmdTxOk := readCounter (property record "cmd_tx_ok")
      cmdTxFail := readCounter (property record "cmd_tx_fail")
      cmdLastSent := readNullableNumber (property record "cmd_last_sent_monotonic_s")
      cmdHzEst := readCounter (property record "cmd_hz_est")
      trackingBlockedReason := readString (property record "tracking_blocked_reason")
      visAge := readNullableNumber (property record "vis_age_s")
      visRxOk := readCounter (property record "vis_rx_ok")
      visRxBad := readCounter (property record "vis_rx_bad")
      visDropReasonOversize := readCounter (property record "vis_drop_reason_oversize")
      visDropReasonJson := readCounter (property record "vis_drop_reason_json")
      visDropReasonSchema := readCounter (property record "vis_drop_reason_schema")
      visDropReasonRange := readCounter (property record "vis_drop_reason_range")
      visDropReasonSemantics := readCounter (property record "vis_drop_reason_semantics")
      telAge := readNullableNumber (property record "tel_age_s")
      telRxOk := readCounter (property record "tel_rx_ok")
      telRxBad := readCounter (property record "tel_rx_bad")
      visFresh := readCounter (property record "vis_fresh_s")
      telFresh := readCounter (property record "tel_fresh_s")
      cmdTimeout := readCounter (property record "cmd_timeout_s")
      cmdHz := readCounter (property record "cmd_hz")
      telHz := readCounter (property record "tel_hz") }

structure ParsedUpdate (α : Type) where
  value : Option α
  mismatch : Option String

/-- The outer `none` is `ok: false`. -/
def readBoundedNumber (value : Option Value) (min max : Double) : Option (Option Double) :=
  match value with
  | none => some none
  | some _ =>
    match readNumber value with
    | none => none
    | some parsed => if parsed < min ∨ max < parsed then none else some (some parsed)

def readEnumNumber (value : Option Value) (allowed : List Double) : Option (Option Double) :=
  match value with
  | none => some none
  | some _ =>
    match readNumber value with
    | none => none
    | some parsed => if parsed ∈ allowed then some (some parsed) else none

inductive FieldSpec where
  | bounded (key : String) (min max : Double)
  | enum (key : String) (allowed : List Double)

namespace FieldSpec

def key : FieldSpec → String
  | bounded key _ _ | enum key _ => key

def read (raw : Option Value) : FieldSpec → Option (Option Double)
  | bounded _ min max => readBoundedNumber raw min max
  | enum _ allowed => readEnumNumber raw allowed

/-- A number that the field may hold. -/
def Admits (x : Double) : FieldSpec → Prop
  | bounded _ min max => x.isFinite = true ∧ ¬ x < min ∧ ¬ max < x
  | enum _ allowed => x.isFinite = true ∧ x ∈ allowed

theorem read_admitted {spec : FieldSpec} {x : Double} (admits : spec.Admits x) :
    spec.read (some (.float x)) = some (some x) := by
  cases spec with
  | bounded key min max =>
    obtain ⟨finite, above, below⟩ := admits
    simp only [read, readBoundedNumber, readNumber, finite, ↓reduceIte, above, below, or_self]
  | enum key allowed =>
    obtain ⟨finite, member⟩ := admits
    simp only [read, readEnumNumber, readNumber, finite, ↓reduceIte, member]

end FieldSpec

/-- The name of the first field that fails, or the fields that are there. -/
def validateFields (source : Members) : List FieldSpec → Except String (List (String × Double))
  | [] => .ok []
  | spec :: specs =>
    match spec.read (property source spec.key) with
    | none => .error spec.key
    | some value => (validateFields source specs).map fun out => (value.map (spec.key, ·)).toList ++ out

/-- The record holds a number that the spec admits. -/
def FieldSpec.Holds (source : Members) (spec : FieldSpec) (field : String × Double) : Prop :=
  field.1 = spec.key ∧ property source spec.key = some (.float field.2) ∧ spec.Admits field.2

/-- Fields that hold what their specs admit are all taken. -/
theorem validateFields_ok {source : Members} {specs : List FieldSpec} {fields : List (String × Double)}
    (holds : List.Forall₂ (FieldSpec.Holds source) specs fields) : validateFields source specs = .ok fields := by
  induction holds with
  | nil => rfl
  | @cons spec field specs fields first rest ih =>
    obtain ⟨name, present, admits⟩ := first
    have read : spec.read (property source spec.key) = some (some field.2) := by
      rw [present]
      exact FieldSpec.read_admitted admits
    have entry : (spec.key, field.2) = field := Prod.ext name.symm rfl
    rw [validateFields, read]
    dsimp only
    rw [ih, Option.map_some, entry]
    rfl

def trackingStateValues : List Double := [1, 2, 3, 4]

def controlModeValues : List Double := [0, 1, 2, 3]

def telFieldSpecs : List FieldSpec :=
  [.bounded "target_x" (-1) 1, .bounded "target_y" (-1) 1, .bounded "bound_w" 0 1, .bounded "bound_h" 0 1,
    .bounded "confidence" 0 1, .enum "tracking_state" trackingStateValues, .enum "control_mode" controlModeValues]

def visFieldSpecs : List FieldSpec :=
  [.bounded "loc_x" (-1) 1, .bounded "loc_y" (-1) 1, .bounded "bound_w" 0 1, .bounded "bound_h" 0 1,
    .bounded "confidence" 0 1, .enum "tracking_state" trackingStateValues]

def mismatchOf (event failingField : String) : String := s!"{event}.{failingField} out of range or wrong type"

def parseTelUpdate (value : Value) : ParsedUpdate TelUpdate :=
  match asRecord value with
  | none => { value := none, mismatch := none }
  | some record =>
    match validateFields record telFieldSpecs with
    | .error failingField => { value := none, mismatch := some (mismatchOf "TEL_UPDATE" failingField) }
    | .ok validated =>
      { value := some
          { type := readString (property record "type")
            seq := readNumber (property record "seq")
            timestamp := readNumber (property record "timestamp_s")
            controlMode := validated.lookup "control_mode"
            trackingState := validated.lookup "tracking_state"
            distFront := readNumber (property record "distFront_m")
            distBack := readNumber (property record "distBack_m")
            distBottom := readNumber (property record "distBottom_m")
            targetX := validated.lookup "target_x"
            targetY := validated.lookup "target_y"
            boundW := validated.lookup "bound_w"
            boundH := validated.lookup "bound_h"
            confidence := validated.lookup "confidence"
            cmdAge := readNumber (property record "cmd_age_s")
            rxMonotonic := readNullableNumber (property record "rx_monotonic_s")
            telAge := readNullableNumber (property record "tel_age_s") }
        mismatch := none }

def parseVisUpdate (value : Value) : ParsedUpdate VisUpdate :=
  match asRecord value with
  | none => { value := none, mismatch := none }
  | some record =>
    match validateFields record visFieldSpecs with
    | .error failingField => { value := none, mismatch := some (mismatchOf "VIS_UPDATE" failingField) }
    | .ok validated =>
      { value := some
          { type := readString (property record "type")
            seq := readNumber (property record "seq")
            timestamp := readNumber (property record "timestamp_s")
            trackingState := validated.lookup "tracking_state"
            locX := validated.lookup "loc_x"
            locY := validated.lookup "loc_y"
            boundW := validated.lookup "bound_w"
            boundH := validated.lookup "bound_h"
            confidence := validated.lookup "confidence"
            rxMonotonic := readNullableNumber (property record "rx_monotonic_s")
            visAge := readNullableNumber (property record "vis_age_s") }
        mismatch := none }

end AotDrone.Webapp
