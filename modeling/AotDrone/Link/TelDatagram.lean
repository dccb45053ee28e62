import AotDrone.Fc.Telemetry
import AotDrone.Link.Datagram

/-! From a turn of the flight loop to the TEL message the backend holds. -/

namespace AotDrone.Link
open AotDrone.Lib AotDrone.Lib.Double AotDrone.Lib.Decimal AotDrone.Lib.Run AotDrone.Json AotDrone.Backend AotDrone.Fc

/-! ## Six decimals -/

section decimals
variable [Fpu]

/-- The float nearest to the value rounded to six decimals. -/
def Rounds (x : ℚ) (stored : Double) : Prop := ∃ k : ℤ, |(k : ℚ) - x * 10 ^ 6| ≤ 1 / 2 ∧ stored = Fpu.round (k / 10 ^ 6)

theorem Rounds.zero {stored : Double} (rounds : Rounds 0 stored) : stored = 0 := by
  obtain ⟨k, near, rfl⟩ := rounds
  rw [zero_mul, sub_zero, ← Int.cast_abs] at near
  have whole : |k| = 0 := by
    by_contra nonzero
    have one : (1 : ℚ) ≤ (|k| : ℤ) := by exact_mod_cast Int.one_le_abs (abs_ne_zero.1 nonzero)
    linarith
  rw [abs_eq_zero.1 whole, Int.cast_zero, zero_div]
  exact round_zero

/-- Rounding keeps to bounds that are whole. -/
theorem Rounds.mem {lower upper : ℤ} (small : |lower| ≤ 2 ^ 53 ∧ |upper| ≤ 2 ^ 53) {x : ℚ} (above : lower ≤ x)
    (below : x ≤ upper) {stored : Double} (rounds : Rounds x stored) : fin lower ≤ stored ∧ stored ≤ fin upper := by
  obtain ⟨k, near, rfl⟩ := rounds
  obtain ⟨low, high⟩ := abs_le.1 near
  have least : lower * 10 ^ 6 ≤ k := by
    have apart : ((lower * 10 ^ 6 - 1 : ℤ) : ℚ) < k := by
      push_cast
      linarith
    have whole := Int.cast_lt.1 apart
    omega
  have most : k ≤ upper * 10 ^ 6 := by
    have apart : (k : ℚ) < ((upper * 10 ^ 6 + 1 : ℤ) : ℚ) := by
      push_cast
      linarith
    have whole := Int.cast_lt.1 apart
    omega
  rw [← Fpu.round_int lower small.1, ← Fpu.round_int upper small.2]
  constructor
  · apply Fpu.round_mono
    rw [le_div_iff₀ (by norm_num)]
    exact_mod_cast least
  · apply Fpu.round_mono
    rw [div_le_iff₀ (by norm_num)]
    exact_mod_cast most

variable [FixedFormat]

/-- What is read of a number with six decimals. -/
def sixDecimals (x : ℚ) : Double := Fpu.round (value (fixedToken x).render)

theorem sixDecimals_rounds (x : ℚ) : Rounds x (sixDecimals x) := by
  have near := FixedFormat.nearest x
  have read := value_ofUnits (decide (x < 0)) (FixedFormat.micros x) (by decide : 0 < 6)
  by_cases negative : x < 0
  · refine ⟨-FixedFormat.micros x, ?_, ?_⟩
    · rw [abs_of_neg negative, ← abs_neg] at near
      convert near using 2
      push_cast
      ring
    · rw [sixDecimals, fixedToken, read, decide_eq_true negative]
      push_cast
      simp
  · refine ⟨FixedFormat.micros x, ?_, ?_⟩
    · rwa [abs_of_nonneg (not_lt.1 negative)] at near
    · rw [sixDecimals, fixedToken, read, decide_eq_false negative]
      simp

theorem sixDecimals_zero : sixDecimals 0 = 0 := (sixDecimals_rounds 0).zero

omit [Fpu] in
/-- The characters of a number up to 2^53. -/
theorem fixedToken_length {x : ℚ} (small : |x| ≤ 2 ^ 53) : (fixedToken x).render.length ≤ 24 := by
  have near := abs_le.1 (FixedFormat.nearest x)
  have units : FixedFormat.micros x ≤ 2 ^ 53 * 10 ^ 6 := by
    have apart : (FixedFormat.micros x : ℚ) < ((2 ^ 53 * 10 ^ 6 + 1 : ℕ) : ℚ) := by
      push_cast
      linarith
    exact Nat.le_of_lt_succ (Nat.cast_lt.1 apart)
  have digits : (Nat.toDigits 10 (FixedFormat.micros x / 10 ^ 6)).length ≤ 16 := by
    apply (Nat.length_toDigits_le_iff (by decide) (by decide)).2
    exact (Nat.div_le_of_le_mul (units.trans (by decide))).trans_lt (by decide : 2 ^ 53 < 10 ^ 16)
  rw [fixedToken, length_ofUnits _ _ (by decide)]
  split_ifs <;> omega

end decimals

/-! ## The text as JSON -/

theorem plain_dumpString {name : String} (plain : escape (pyStr name) = name.toList) :
    dumpString (pyStr name) = '"' :: (name.toList ++ ['"']) := by
  rw [dumpString, plain]

theorem membersText_named (members : List (String × Node))
    (plain : ∀ m ∈ members, escape (pyStr m.1) = m.1.toList) :
    membersText (members.map fun m => (m.1, m.2.text)) =
      fieldsText (namedFields (members.map fun m => (pyStr m.1, m.2))) := by
  induction members with
  | nil => rfl
  | cons m members ih =>
    rw [List.forall_mem_cons] at plain
    have later := ih plain.2
    rw [List.map_cons, List.map_cons, fieldsText_named, plain_dumpString plain.1]
    cases members with
    | nil => simp [membersText]
    | cons next rest =>
      rw [List.map_cons, membersText, ← later]
      simp

/-- The length of an object without white space. -/
theorem length_named (nodes : List (PyStr × Node)) :
    (fieldsText (namedFields nodes)).length + 2 = objectBytes (nodes.map fun m => (m.1, m.2.text.length)) := by
  induction nodes with
  | nil => rfl
  | cons m nodes ih =>
    rw [fieldsText_named]
    cases nodes with
    | nil =>
      simp only [objectBytes, List.length_append, List.length_cons, length_dumpString, List.map_cons, List.map_nil,
        List.sum_cons, List.sum_nil, List.length_nil, ↓reduceIte]
      omega
    | cons next nodes =>
      simp only [objectBytes, List.length_append, List.length_cons, length_dumpString, List.map_cons, List.sum_cons,
        reduceCtorEq, ↓reduceIte] at ih ⊢
      omega

/-! ## The numbers of a datagram -/

/-- The numbers of a TEL datagram while every one is finite and no distance is known. -/
structure TelNumbers where
  seq : ℕ
  timestamp : ℚ
  controlMode : ControlMode
  cmdAge : ℚ
  mspTxRatio : ℚ
  trackingState : TrackingState
  targetX : ℚ
  targetY : ℚ
  boundW : ℚ
  boundH : ℚ
  confidence : ℚ

/-- Numbers that are short to write, the bounded ones in their ranges. -/
structure TelNumbers.Fits (n : TelNumbers) : Prop where
  seq : n.seq < 2 ^ 64
  timestamp : 0 ≤ n.timestamp ∧ n.timestamp ≤ 2 ^ 53
  cmdAge : |n.cmdAge| ≤ 2 ^ 53
  mspTxRatio : |n.mspTxRatio| ≤ 2 ^ 53
  targetX : -1 ≤ n.targetX ∧ n.targetX ≤ 1
  targetY : -1 ≤ n.targetY ∧ n.targetY ≤ 1
  boundW : 0 ≤ n.boundW ∧ n.boundW ≤ 1
  boundH : 0 ≤ n.boundH ∧ n.boundH ≤ 1
  confidence : 0 ≤ n.confidence ∧ n.confidence ≤ 1

namespace TelNumbers
variable [FixedFormat] (n : TelNumbers)

def nodes : List (String × Node) :=
  [("type", .string (quotedOf (pyStr "TEL"))), ("seq", .number (.ofInt n.seq)),
    ("timestamp_s", .number (fixedToken n.timestamp)), ("control_mode", .number (.ofInt n.controlMode.code)),
    ("cmd_age_s", .number (fixedToken n.cmdAge)), ("msp_tx_ratio", .number (fixedToken n.mspTxRatio)),
    ("tracking_state", .number (.ofInt n.trackingState.code)), ("distFront_m", .number (fixedToken 0)),
    ("distBack_m", .number (fixedToken 0)), ("distBottom_m", .number (fixedToken 0)),
    ("target_x", .number (fixedToken n.targetX)), ("target_y", .number (fixedToken n.targetY)),
    ("bound_w", .number (fixedToken n.boundW)), ("bound_h", .number (fixedToken n.boundH)),
    ("confidence", .number (fixedToken n.confidence))]

def named : List (PyStr × Node) := n.nodes.map fun m => (pyStr m.1, m.2)

def node : Node := .object .none (namedFields n.named)

/-- The text `build_tel_json` writes of such numbers is JSON. -/
theorem buildTelJson_text {telemetry : TelemetryData} {message : TrackingMessage} {cmdAge mspTxRatio : Double}
    (timestamp : telemetry.timestamp = fin n.timestamp) (mode : telemetry.controlMode = n.controlMode)
    (age : cmdAge = fin n.cmdAge) (ratio : mspTxRatio = fin n.mspTxRatio)
    (state : telemetry.trackingState = n.trackingState)
    (distances : telemetry.distFront = 0 ∧ telemetry.distBack = 0 ∧ telemetry.distBottom = 0)
    (targetX : (toldTarget telemetry message).targetX = fin n.targetX)
    (targetY : (toldTarget telemetry message).targetY = fin n.targetY)
    (boundW : (toldTarget telemetry message).boundW = fin n.boundW)
    (boundH : (toldTarget telemetry message).boundH = fin n.boundH)
    (confidence : (toldTarget telemetry message).confidence = fin n.confidence) :
    buildTelJson n.seq telemetry message cmdAge mspTxRatio = n.node.text := by
  have plain : ∀ m ∈ n.nodes, escape (pyStr m.1) = m.1.toList := by
    simp only [nodes, List.forall_mem_cons, List.not_mem_nil, false_imp_iff, implies_true, and_true]
    decide
  have members := membersText_named n.nodes plain
  rw [buildTelJson, node, Node.text, named, ← members, timestamp, mode, age, ratio, state, distances.1, distances.2.1,
    distances.2.2, targetX, targetY, boundW, boundH, confidence]
  rfl

theorem node_standard : n.node.All Node.Standard := by
  simp only [node, named, nodes, namedFields, List.map_cons, List.map_nil, Node.All, allFields, Node.Standard, and_self]

theorem node_depth : n.node.depth = 1 := by
  simp only [node, named, nodes, namedFields, List.map_cons, List.map_nil, Node.depth, fieldsDepth]
  rfl

theorem node_ascii : Ascii n.node.text := by
  have values : ∀ m ∈ n.named, Ascii m.2.text := by
    simp only [named, nodes, List.map_cons, List.map_nil, List.forall_mem_cons, List.not_mem_nil, false_imp_iff,
      implies_true, and_true]
    exact ⟨ascii_word "\"TEL\"".toList (by decide), ascii_render _, ascii_render _, ascii_render _, ascii_render _,
      ascii_render _, ascii_render _, ascii_render _, ascii_render _, ascii_render _, ascii_render _, ascii_render _,
      ascii_render _, ascii_render _, ascii_render _⟩
  exact .cons (by decide) ((ascii_named values).append (.cons (by decide) (List.forall_mem_nil _)))

theorem node_short (fits : n.Fits) : n.node.text.length ≤ 1024 := by
  have bounded {lower upper x : ℚ} (wide : -2 ^ 53 ≤ lower ∧ upper ≤ 2 ^ 53) (held : lower ≤ x ∧ x ≤ upper) :
      (fixedToken x).render.length ≤ 24 :=
    fixedToken_length (abs_le.2 ⟨wide.1.trans held.1, held.2.trans wide.2⟩)
  have seq : (Token.ofInt n.seq).render.length ≤ 20 := by
    have digits : (Nat.toDigits 10 n.seq).length ≤ 20 :=
      (Nat.length_toDigits_le_iff (by decide) (by decide)).2 (fits.seq.trans (by decide))
    rw [length_render_int, intBytes, if_neg (by omega), Int.natAbs_natCast]
    omega
  have mode : (Token.ofInt n.controlMode.code).render.length = 1 := by
    cases n.controlMode <;> rfl
  have state : (Token.ofInt n.trackingState.code).render.length = 1 := by
    cases n.trackingState <;> rfl
  have none := fixedToken_length (by norm_num : |(0 : ℚ)| ≤ 2 ^ 53)
  have time := bounded (by norm_num) fits.timestamp
  have age := fixedToken_length fits.cmdAge
  have ratio := fixedToken_length fits.mspTxRatio
  have targetX := bounded (by norm_num) fits.targetX
  have targetY := bounded (by norm_num) fits.targetY
  have boundW := bounded (by norm_num) fits.boundW
  have boundH := bounded (by norm_num) fits.boundH
  have confidence := bounded (by norm_num) fits.confidence
  have tag : (Node.string (quotedOf (pyStr "TEL"))).text.length = 5 := rfl
  have names : (["type", "seq", "timestamp_s", "control_mode", "cmd_age_s", "msp_tx_ratio", "tracking_state",
      "distFront_m", "distBack_m", "distBottom_m", "target_x", "target_y", "bound_w", "bound_h", "confidence"].map
        fun name => textBytes (pyStr name)) = [4, 3, 11, 12, 9, 12, 14, 11, 10, 12, 8, 8, 7, 7, 10] := rfl
  simp only [List.map_cons, List.map_nil, List.cons.injEq, and_true] at names
  have length : n.node.text.length = (fieldsText (namedFields n.named)).length + 2 := by
    rw [node, Node.text]
    simp [Blank.none]
  have text (t : Token) : (Node.number t).text = t.render := rfl
  rw [length, length_named]
  simp only [objectBytes, named, nodes, List.map_cons, List.map_nil, List.sum_cons, List.sum_nil, List.length_cons,
    List.length_nil, names, tag, mode, state, text]
  omega

variable [Fpu]

/-- What the backend reads. -/
def message : TelMessage where
  seq := n.seq
  timestamp := sixDecimals n.timestamp
  controlMode := n.controlMode.code
  trackingState := n.trackingState.code
  distFront := 0
  distBack := 0
  distBottom := 0
  targetX := sixDecimals n.targetX
  targetY := sixDecimals n.targetY
  boundW := sixDecimals n.boundW
  boundH := sixDecimals n.boundH
  confidence := sixDecimals n.confidence

def read (v : Node) : Value := (v.read Dialect.python).getD .null

def members : Members := n.named.map fun m => (m.1, read m.2)

theorem node_read : n.node.read Dialect.python = some (.obj n.members) := by
  apply object_read
  · simp only [named, nodes, List.map_cons, List.map_nil, List.forall_mem_cons, List.not_mem_nil, false_imp_iff,
      implies_true, and_true]
    exact ⟨rfl, rfl, rfl, rfl, rfl, rfl, rfl, rfl, rfl, rfl, rfl, rfl, rfl, rfl, rfl⟩
  · simp only [named, nodes, List.map_cons, List.map_nil, List.forall_mem_cons, List.not_mem_nil, false_imp_iff,
      implies_true, and_true]
    decide
  · simp only [named, nodes, List.map_cons, List.map_nil]
    decide

theorem validate_members (fits : n.Fits) : validateTelMessage (.obj n.members) = .ok n.message := by
  rw [validateTelMessage_ok_iff]
  refine ⟨n.members, rfl, ?_⟩
  have number {v : Value} {x : ℚ} (lower upper : ℤ) (small : |lower| ≤ 2 ^ 53 ∧ |upper| ≤ 2 ^ 53)
      (held : lower ≤ x ∧ x ≤ upper) (known : v = read (.number (fixedToken x))) :
      Value.ByFloat v (sixDecimals x) ∧ fin lower ≤ sixDecimals x ∧ sixDecimals x ≤ fin upper := by
    have range := (sixDecimals_rounds x).mem small held.1 held.2
    refine ⟨?_, range⟩
    obtain ⟨q, finite⟩ := fin_of_between range.1 range.2
    rw [known]
    exact read_byFloat (fixedToken x) (by rw [sixDecimals] at finite; rw [finite]; rfl)
  have zero {v : Value} (known : v = read (.number (fixedToken 0))) : Value.ByFloat v 0 := by
    have held := number 0 0 (by decide) (by norm_num) known
    rw [sixDecimals_zero] at held
    exact held.1
  have whole (k : ℤ) {v : Value} (known : v = read (.number (.ofInt k))) : v = .int k := by
    rw [known, read, Node.read, read_ofInt]
    rfl
  have timestamp v := @number v n.timestamp 0 (2 ^ 53) (by decide) (by exact_mod_cast fits.timestamp)
  have targetX v := @number v n.targetX (-1) 1 (by decide) (by exact_mod_cast fits.targetX)
  have targetY v := @number v n.targetY (-1) 1 (by decide) (by exact_mod_cast fits.targetY)
  have boundW v := @number v n.boundW 0 1 (by decide) (by exact_mod_cast fits.boundW)
  have boundH v := @number v n.boundH 0 1 (by decide) (by exact_mod_cast fits.boundH)
  have confidence v := @number v n.confidence 0 1 (by decide) (by exact_mod_cast fits.confidence)
  simp only [members, named, nodes, List.map_cons, List.map_nil]
  exact
    { complete := ⟨List.all_eq_true.1 rfl, rfl⟩
      seq := whole n.seq rfl
      timestamp := (timestamp _ rfl).1
      controlMode := whole n.controlMode.code rfl
      trackingState := whole n.trackingState.code rfl
      mode_mem := by
        change n.controlMode.code ∈ controlModes
        cases n.controlMode <;> decide
      state_mem := by
        change n.trackingState.code ∈ trackingStates
        cases n.trackingState <;> decide
      distFront := zero rfl
      distBack := zero rfl
      distBottom := zero rfl
      targetX := (targetX _ rfl).1
      targetY := (targetY _ rfl).1
      boundW := (boundW _ rfl).1
      boundH := (boundH _ rfl).1
      confidence := (confidence _ rfl).1
      targetX_range := (targetX _ rfl).2
      targetY_range := (targetY _ rfl).2
      boundW_range := (boundW _ rfl).2
      boundH_range := (boundH _ rfl).2
      confidence_range := (confidence _ rfl).2 }

end TelNumbers

/-! ## Runs -/

section hardware
attribute [local instance] Binary64.binary64

def RoundsTo (value stored : Double) : Prop := ∃ x, value = fin x ∧ Rounds x stored

/-- What a stored message tells of the controller that sent it. -/
structure Tells (controller : FlightController) (message : TelMessage) : Prop where
  mode : message.controlMode = controller.controlMode.code
  state : message.trackingState = controller.telemetryData.trackingState.code
  tracked : controller.telemetryData.trackingState = .tracking →
    RoundsTo controller.lastTrackingMsg.targetX message.targetX ∧
      RoundsTo controller.lastTrackingMsg.targetY message.targetY ∧
      RoundsTo controller.lastTrackingMsg.boundW message.boundW ∧
      RoundsTo controller.lastTrackingMsg.boundH message.boundH ∧
      RoundsTo controller.lastTrackingMsg.confidence message.confidence
  ranges : signedUnit.Holds message.targetX ∧ signedUnit.Holds message.targetY ∧ unit.Holds message.boundW ∧
    unit.Holds message.boundH ∧ unit.Holds message.confidence
  idle : controller.telemetryData.trackingState ≠ .tracking →
    message.targetX = 0 ∧ message.targetY = 0 ∧ message.boundW = 0 ∧ message.boundH = 0 ∧ message.confidence = 0

/-- The text is JSON of at most 1024 bytes, and the backend stores what it tells. -/
structure TelStored (controller : FlightController) (text : Text) : Prop where
  short : text.length ≤ 1024
  json : ∃ v : Node, v.All Node.Standard ∧ v.text = text
  stored : ∀ (state : SharedState) (rxMonotonic : Double), ∃ message : TelMessage,
    ingest {} state (.tel (asciiBytes text) rxMonotonic) =
        ({ state with tel := state.tel.recordRxTotal.recordOk message message.seq message.timestamp rxMonotonic },
          .ok true) ∧
      Tells controller message

/-- The values told of a target are those of its message, or zero while none is tracked. -/
theorem told_cases (controller : FlightController) (message : controller.lastTrackingMsg.Clamped) :
    (controller.telemetryData.trackingState = .tracking ∧
        toldTarget controller.telemetryData controller.lastTrackingMsg = controller.lastTrackingMsg) ∨
      controller.telemetryData.trackingState ≠ .tracking ∧
        toldTarget controller.telemetryData controller.lastTrackingMsg = {} := by
  unfold toldTarget
  split_ifs with tracking
  · rw [message.targetX, message.targetY, message.boundW, message.boundH, message.confidence]
    exact .inl ⟨tracking, rfl⟩
  · exact .inr ⟨tracking, rfl⟩

theorem toldTarget_within {controller : FlightController} (message : controller.lastTrackingMsg.Clamped) :
    let target := toldTarget controller.telemetryData controller.lastTrackingMsg
    Within (-1) 1 target.targetX ∧ Within (-1) 1 target.targetY ∧ Within 0 1 target.boundW ∧
      Within 0 1 target.boundH ∧ Within 0 1 target.confidence := by
  rcases told_cases controller message with ⟨-, same⟩ | ⟨-, same⟩
  · rw [same]
    exact ⟨message.targetX ▸ clampTargetCoord_within _, message.targetY ▸ clampTargetCoord_within _,
      message.boundW ▸ clampUnit_within _, message.boundH ▸ clampUnit_within _,
      message.confidence ▸ clampUnit_within _⟩
  · have coordinate : Within (-1) 1 0 := ⟨0, rfl, by norm_num, by norm_num⟩
    have size : Within 0 1 0 := ⟨0, rfl, le_rfl, by norm_num⟩
    rw [same]
    exact ⟨coordinate, coordinate, size, size, size⟩

section printed
variable [FixedFormat]

theorem sixDecimals_signedUnit {x : ℚ} (range : -1 ≤ x ∧ x ≤ 1) : signedUnit.Holds (sixDecimals x) :=
  (sixDecimals_rounds x).mem (by decide) (by exact_mod_cast range.1) (by exact_mod_cast range.2)

theorem sixDecimals_unit {x : ℚ} (range : 0 ≤ x ∧ x ≤ 1) : unit.Holds (sixDecimals x) :=
  (sixDecimals_rounds x).mem (by decide) (by exact_mod_cast range.1) (by exact_mod_cast range.2)

theorem buildTelJson_stored {controller : FlightController} (reports : Reports controller)
    (clock : Within 0 (2 ^ 53) controller.telemetryData.timestamp) {cmdAge mspTxRatio : Double}
    (age : Within (-10 ^ 9) (10 ^ 9) cmdAge) (ratio : Within 0 1 mspTxRatio) {seq : ℕ} (counted : seq < 2 ^ 64) :
    TelStored controller
      (buildTelJson seq controller.telemetryData controller.lastTrackingMsg cmdAge mspTxRatio) := by
  have told := told_cases controller reports.message
  obtain ⟨timestamp, timeIs, early, late⟩ := clock
  obtain ⟨cmdAge, rfl, young, old⟩ := age
  obtain ⟨mspTxRatio, rfl, none, all⟩ := ratio
  obtain ⟨⟨targetX, xIs, xRange⟩, ⟨targetY, yIs, yRange⟩, ⟨boundW, wIs, wRange⟩, ⟨boundH, hIs, hRange⟩,
    ⟨confidence, cIs, cRange⟩⟩ := toldTarget_within reports.message
  let n : TelNumbers :=
    { seq, timestamp, controlMode := controller.controlMode, cmdAge, mspTxRatio
      trackingState := controller.telemetryData.trackingState, targetX, targetY, boundW, boundH, confidence }
  have fits : n.Fits :=
    { seq := counted
      timestamp := ⟨early, late⟩
      cmdAge := abs_le.2 ⟨by linarith, by linarith⟩
      mspTxRatio := abs_le.2 ⟨by linarith, by linarith⟩
      targetX := xRange
      targetY := yRange
      boundW := wRange
      boundH := hRange
      confidence := cRange }
  have text : buildTelJson seq controller.telemetryData controller.lastTrackingMsg (fin cmdAge) (fin mspTxRatio) =
      n.node.text :=
    n.buildTelJson_text timeIs reports.mode rfl rfl rfl ⟨reports.distFront, reports.distBack, reports.distBottom⟩ xIs yIs
      wIs hIs cIs
  rw [text]
  refine ⟨n.node_short fits, ⟨n.node, n.node_standard, rfl⟩, ?_⟩
  intro state rxMonotonic
  have stored := processDatagram_text telKind n.node_ascii (n.node_short fits)
    (n.node_depth.trans_le (by decide : 1 ≤ 1000)) n.node_read (n.validate_members fits) state.tel rxMonotonic
  refine ⟨n.message, ?_, ?_⟩
  · rw [ingest, stored]
    rfl
  have rounds {value shown : Double} {x : ℚ} (known : shown = fin x) (same : shown = value) :
      RoundsTo value (sixDecimals x) := ⟨x, same.symm.trans known, sixDecimals_rounds x⟩
  have zero {shown : Double} {x : ℚ} (known : shown = fin x) (none : shown = 0) : sixDecimals x = 0 := by
    have same : x = 0 := Double.fin.inj (known.symm.trans none)
    rw [same, sixDecimals_zero]
  refine ⟨rfl, rfl, ?_, ?_, ?_⟩
  · intro tracking
    obtain ⟨-, same⟩ := told.resolve_right fun idle => idle.1 tracking
    rw [same] at xIs yIs wIs hIs cIs
    exact ⟨rounds xIs rfl, rounds yIs rfl, rounds wIs rfl, rounds hIs rfl, rounds cIs rfl⟩
  · exact ⟨sixDecimals_signedUnit xRange, sixDecimals_signedUnit yRange, sixDecimals_unit wRange, sixDecimals_unit hRange,
      sixDecimals_unit cRange⟩
  · intro idle
    obtain ⟨-, same⟩ := told.resolve_left fun tracking => idle tracking.1
    rw [same] at xIs yIs wIs hIs cIs
    exact ⟨zero xIs rfl, zero yIs rfl, zero wIs rfl, zero hIs rfl, zero cIs rfl⟩

/-- Every TEL datagram of a run is stored with what the controller tells after the turn. -/
theorem tel_datagrams_stored [Libc] (hover : HoverEnv) (tuningMismatch : Bool) (start : ℤ)
    (events : List (Event × Option Bool)) (inTime : ∀ event ∈ events, event.1.InTime) :
    Always TelProcess.step
      (fun _ p event => ∀ text ∈ p.telJson event, TelStored (p.step event).process.loop.controller text) []
      { process := bootProcess hover tuningMismatch start } events := by
  apply Always.of_invariant (fun _ p => TelProcess.Inv p) (Q := fun _ _ event => event.1.InTime)
  · intro past p event inv inTime text sent
    have after := p.step_inv inv inTime
    obtain ⟨turn, taken, rfl⟩ := Option.map_eq_some_iff.1 sent
    obtain ⟨event, wrote⟩ := event
    cases event with
    | reception frame => cases taken
    | tick now late ageNow sinkOk =>
      cases taken
      have received := lateServer_received inv.received inTime.2.1
      exact buildTelJson_stored after.reports after.clock (age_within received inTime.2.2) after.ratio
        (Nat.mod_lt _ (by decide))
  · intro past p event inv inTime
    exact p.step_inv inv inTime
  · exact TelProcess.boot_inv hover tuningMismatch start
  · exact (Always.iff_forall _ _ _ _).2 inTime

end printed

/-- Ties go to the even digit, as they do in glibc. -/
@[reducible] def halfEvenFormat : FixedFormat where
  micros x := (roundHalfEven (|x| * 10 ^ 6)).natAbs
  nearest x := by
    have nonneg : 0 ≤ roundHalfEven (|x| * 10 ^ 6) := by
      apply (Int.floor_nonneg.2 _).trans (floor_le_roundHalfEven _)
      positivity
    rw [Nat.cast_natAbs, abs_of_nonneg nonneg]
    exact roundHalfEven_near _

attribute [local instance] Libc.strict halfEvenFormat

def trackingCmd : Text :=
  ("\x7b\"type\":\"CMD\",\"seq\":7,\"timestamp_s\":1,\"desired_mode\":1,\"tracking\":\x7b\"tracking_state\":3," ++
    "\"loc_x\":0.3333333,\"loc_y\":-0.25,\"bound_w\":0.1,\"bound_h\":0.2,\"confidence\":0.9,\"vis_seq\":1," ++
    "\"vis_timestamp_s\":1.5\x7d\x7d").toList

def trackingTick : Event × Option Bool := (.tick (10 ^ 9) [] (10 ^ 9) true, some true)

def trackingEvents : List (Event × Option Bool) := [(.reception ⟨trackingCmd, 10 ^ 9⟩, none), trackingTick]

/-- A process that has received the command and not yet taken a turn. -/
def trackingProcess : TelProcess where
  process := (bootProcess ⟨1500, .inr (by decide)⟩ false 0).step (.reception ⟨trackingCmd, 10 ^ 9⟩)

theorem tracking_turn_stored :
    (trackingProcess.step trackingTick).process.loop.controller.telemetryData.trackingState = .tracking ∧
      ∀ text ∈ trackingProcess.telJson trackingTick,
        TelStored (trackingProcess.step trackingTick).process.loop.controller text := by
  refine ⟨by decide +kernel, ?_⟩
  have second : InTime (10 ^ 9) := by constructor <;> norm_num
  have inTime : ∀ event ∈ trackingEvents, event.1.InTime := by
    simp only [trackingEvents, trackingTick, List.forall_mem_cons, List.not_mem_nil, false_imp_iff, implies_true, and_true]
    exact ⟨second, second, List.forall_mem_nil _, second⟩
  have started : ({ process := bootProcess ⟨1500, .inr (by decide)⟩ false 0 } : TelProcess).step
      (.reception ⟨trackingCmd, 10 ^ 9⟩, none) = trackingProcess := rfl
  have run := tel_datagrams_stored ⟨1500, .inr (by decide)⟩ false 0 trackingEvents inTime
  rw [trackingEvents, Always, Always, started] at run
  exact run.2.1

end hardware
end AotDrone.Link
