import AotDrone.Link.CmdRead

/-! Which setpoints the flight controller takes for the four it knows. It reads an escape as the character
behind the backslash, so a control character that JSON writes as `\t` reads as a plain `t`. -/

namespace AotDrone.Link
open AotDrone.Lib AotDrone.Lib.Double AotDrone.Lib.Decimal AotDrone.Json AotDrone.Backend AotDrone.Fc

/-! ## Names and what they read as -/

/-- The control characters that are escaped with a letter. -/
def shortEscapes : List (Nat × Char) := [(0x08, 'b'), (0x09, 't'), (0x0A, 'n'), (0x0C, 'f'), (0x0D, 'r')]

def ReadsAs (point : CodePoint) (letter : Char) : Prop :=
  point.val = letter.toNat ∨ (point.val, letter) ∈ shortEscapes

/-- The key is the name, up to letters replaced by the control characters that are escaped with them. -/
def Alias (key : PyStr) (name : Text) : Prop := List.Forall₂ ReadsAs key name

instance ReadsAs.decidable (point : CodePoint) (letter : Char) : Decidable (ReadsAs point letter) :=
  inferInstanceAs (Decidable (_ ∨ _))

instance Alias.decidable (key : PyStr) (name : Text) : Decidable (Alias key name) :=
  inferInstanceAs (Decidable (List.Forall₂ ReadsAs key name))

/-- A letter that JSON prints as it stands and that starts no escape of its own. -/
def Plain (letter : Char) : Prop := (0x20 ≤ letter.toNat ∧ letter.toNat ≤ 0x7E) ∧ letter ≠ 'u'

instance Plain.decidable : DecidablePred Plain := fun _ => inferInstanceAs (Decidable (_ ∧ _))

theorem readsAs_control {point : CodePoint} {letter : Char} (control : point.val < 0x20) (plain : Plain letter) :
    ReadsAs point letter ↔ (point.val, letter) ∈ shortEscapes := by
  have other : point.val ≠ letter.toNat := by
    have range := plain.1
    omega
  rw [ReadsAs, or_iff_right other]

theorem readsAs_printable {point : CodePoint} {letter : Char} (printable : 0x20 ≤ point.val) :
    ReadsAs point letter ↔ point.val = letter.toNat := by
  rw [ReadsAs, or_iff_left_iff_imp]
  intro short
  simp only [shortEscapes, List.mem_cons, List.not_mem_nil, or_false, Prod.mk.injEq] at short
  omega

theorem eq_ofNat_iff {n : Nat} {letter : Char} (small : n ≤ 0x7E) : Char.ofNat n = letter ↔ n = letter.toNat := by
  constructor
  · rintro rfl
    exact (toNat_charOfNat (by omega)).symm
  · intro same
    rw [same, Char.ofNat_toNat]

theorem unescape_singleton (c : Char) : unescape [c] = [c] := by
  rw [unescape, unescape]
  intro escape rest _ more
  cases more

/-- A code point reads as one letter at most. -/
theorem readsAs_iff (point : CodePoint) {letter : Char} (plain : Plain letter) (rest tail : Text) :
    unescape (escapeCodePoint point) ++ rest = letter :: tail ↔ ReadsAs point letter ∧ rest = tail := by
  have short {n : Nat} {c : Char} (here : point.val = n) (control : n < 0x20)
      (listed : ∀ d, (n, d) ∈ shortEscapes ↔ c = d) : c :: rest = letter :: tail ↔ ReadsAs point letter ∧ rest = tail := by
    rw [List.cons.injEq, readsAs_control (by omega) plain, here, listed]
  have printed {n : Nat} (here : point.val = n) (range : 0x20 ≤ n ∧ n ≤ 0x7E) :
      Char.ofNat n :: rest = letter :: tail ↔ ReadsAs point letter ∧ rest = tail := by
    rw [List.cons.injEq, readsAs_printable (by omega), here, eq_ofNat_iff range.2]
  have unit (text : Text) (strange : ¬ ReadsAs point letter) :
      'u' :: text = letter :: tail ↔ ReadsAs point letter ∧ rest = tail := by
    rw [List.cons.injEq]
    exact ⟨fun both => absurd both.1.symm plain.2, fun both => absurd both.1 strange⟩
  have strange (outside : ¬ (0x20 ≤ point.val ∧ point.val ≤ 0x7E)) (long : ∀ d, (point.val, d) ∉ shortEscapes) :
      ¬ ReadsAs point letter := by
    rintro (same | listed)
    · exact outside (same ▸ plain.1)
    · exact long _ listed
  unfold escapeCodePoint
  by_cases quote : point.val = '"'.toNat
  · rw [if_pos quote]
    exact printed quote (by decide)
  by_cases backslash : point.val = '\\'.toNat
  · rw [if_neg quote, if_pos backslash]
    exact printed backslash (by decide)
  rw [if_neg quote, if_neg backslash]
  by_cases n : point.val = '\n'.toNat
  · rw [if_pos n]
    exact short n (by decide) (by simp [shortEscapes, eq_comm])
  by_cases r : point.val = '\r'.toNat
  · rw [if_neg n, if_pos r]
    exact short r (by decide) (by simp [shortEscapes, eq_comm])
  by_cases t : point.val = '\t'.toNat
  · rw [if_neg n, if_neg r, if_pos t]
    exact short t (by decide) (by simp [shortEscapes, eq_comm])
  rw [if_neg n, if_neg r, if_neg t]
  by_cases f : point.val = 0x0C
  · rw [if_pos f]
    exact short f (by decide) (by simp [shortEscapes, eq_comm])
  by_cases b : point.val = 0x08
  · rw [if_neg f, if_pos b]
    exact short b (by decide) (by simp [shortEscapes, eq_comm])
  rw [if_neg f, if_neg b]
  by_cases ascii : 0x20 ≤ point.val ∧ point.val ≤ 0x7E
  · rw [if_pos ascii, unescape_singleton]
    exact printed rfl ascii
  have long : ∀ d, (point.val, d) ∉ shortEscapes := by
    intro d
    simp only [shortEscapes, List.mem_cons, List.not_mem_nil, or_false, Prod.mk.injEq]
    rintro (⟨here, -⟩ | ⟨here, -⟩ | ⟨here, -⟩ | ⟨here, -⟩ | ⟨here, -⟩)
    · exact b here
    · exact t here
    · exact n here
    · exact f here
    · exact r here
  rw [if_neg ascii]
  by_cases bmp : point.val < 0x10000
  · rw [if_pos bmp, unescape_body (escapeUnit_body _)]
    exact unit _ (strange ascii long)
  · rw [if_neg bmp, unescape_body ((escapeUnit_body _).append (escapeUnit_body _))]
    exact unit _ (strange ascii long)

theorem unescape_ne_nil (point : CodePoint) : unescape (escapeCodePoint point) ≠ [] := by
  have nonempty : escapeCodePoint point ≠ [] := by
    simp only [escapeCodePoint, escapeUnit, apply_ite (· ≠ ([] : Text)), ne_eq, reduceCtorEq, not_false_eq_true,
      List.cons_append, ite_self]
  obtain ⟨value, body⟩ := escapeCodePoint_body point
  rw [unescape_body body]
  intro empty
  rw [empty] at body
  generalize escapeCodePoint point = raw at body nonempty
  cases body
  exact nonempty rfl

theorem fcKey_cons (point : CodePoint) (key : PyStr) :
    fcKey (point :: key) = unescape (escapeCodePoint point) ++ fcKey key := by
  obtain ⟨value, body⟩ := escapeCodePoint_body point
  rw [unescape_body body]
  exact unescape_body (body.append (escape_body key))

/-- The keys the reader takes for a name are the aliases of the name. -/
theorem fcKey_eq_iff {name : Text} (plain : ∀ letter ∈ name, Plain letter) (key : PyStr) :
    fcKey key = name ↔ Alias key name := by
  induction key generalizing name with
  | nil =>
    unfold Alias
    rw [List.forall₂_nil_left_iff]
    exact eq_comm
  | cons point key ih =>
    rw [fcKey_cons]
    cases name with
    | nil => simp [Alias, unescape_ne_nil]
    | cons letter tail =>
      obtain ⟨first, plain⟩ := List.forall_mem_cons.1 plain
      rw [readsAs_iff point first, ih plain]
      exact List.forall₂_cons.symm

/-! ## Setpoints -/

/-- The setpoint that is stored under the name. -/
def ownSetpoint (setpoints : List (PyStr × Double)) (name : String) : Option Double := setpoints.lookup (pyStr name)

/-- The first setpoint stored under an alias of the name. -/
def firstAlias (setpoints : List (PyStr × Double)) (name : String) : Option (PyStr × Double) :=
  setpoints.find? fun s => decide (Alias s.1 name.toList)

/-- The first alias of each of the four names, if there is one, is stored with the value of the name itself. -/
def AliasesAgree (setpoints : List (PyStr × Double)) : Prop :=
  ∀ name ∈ setpointNames, ∀ s ∈ firstAlias setpoints name, ownSetpoint setpoints name = some s.2

/-- The four setpoints and nothing else. -/
def ownSetpoints (setpoints : List (PyStr × Double)) : CommandSetpoints where
  hasRoll := (ownSetpoint setpoints "roll").isSome
  roll := (ownSetpoint setpoints "roll").getD 0
  hasPitch := (ownSetpoint setpoints "pitch").isSome
  pitch := (ownSetpoint setpoints "pitch").getD 0
  hasYawRate := (ownSetpoint setpoints "yaw_rate").isSome
  yawRate := (ownSetpoint setpoints "yaw_rate").getD 0
  hasThrottle := (ownSetpoint setpoints "throttle").isSome
  throttle := (ownSetpoint setpoints "throttle").getD 0

theorem setpointNames_plain {name : String} (known : name ∈ setpointNames) :
    (∀ letter ∈ name.toList, Plain letter) ∧ Alias (pyStr name) name.toList := by
  have both : name.toList.all (fun letter => decide (Plain letter)) = true ∧ Alias (pyStr name) name.toList := by
    simp only [setpointNames, List.mem_cons, List.not_mem_nil, or_false] at known
    rcases known with rfl | rfl | rfl | rfl <;> decide
  exact ⟨fun letter member => of_decide_eq_true (List.all_eq_true.1 both.1 letter member), both.2⟩

section reader
variable {setpoints : List (PyStr × Double)} (finite : ∀ s ∈ setpoints, s.2.isFinite = true)
include finite

/-- The reader looks the setpoint up under the first alias. -/
theorem fcLookup_setpoints {name : Text} (plain : ∀ letter ∈ name, Plain letter) :
    fcLookup name (setpointMembers setpoints) =
      (setpoints.find? fun s => decide (Alias s.1 name)).map fun s => .float s.2 := by
  induction setpoints with
  | nil => rfl
  | cons s later ih =>
    obtain ⟨skippable, finite⟩ := List.forall_mem_cons.1 finite
    have cons : setpointMembers (s :: later) = (s.1, .float s.2) :: setpointMembers later := rfl
    rw [cons, fcLookup, List.find?_cons]
    by_cases same : Alias s.1 name
    · rw [if_pos ((fcKey_eq_iff plain s.1).2 same), decide_eq_true same]
      rfl
    · rw [if_neg fun read => same ((fcKey_eq_iff plain s.1).1 read), if_pos (show Skippable (.float s.2) from skippable),
        decide_eq_false same]
      exact ih finite

variable [Fpu] [Libc] [FloatRepr]

/-- Where the reader takes a setpoint it takes the value of the first alias. -/
theorem readOptionalNumber_some (doubles : ∀ s ∈ setpoints, IsDouble s.2) {name : String} (known : name ∈ setpointNames)
    {found : Bool × Double} (read : readOptionalNumber name (setpointMembers setpoints) = some found) :
    found = ((firstAlias setpoints name).isSome, ((firstAlias setpoints name).map Prod.snd).getD 0) := by
  unfold readOptionalNumber numberUnder at read
  rw [fcLookup_setpoints finite (setpointNames_plain known).1] at read
  unfold firstAlias
  cases first : setpoints.find? fun s => decide (Alias s.1 name.toList) with
  | none =>
    rw [first] at read
    cases read
    rfl
  | some s =>
    have member := List.mem_of_find?_eq_some first
    obtain ⟨x, value⟩ := isFinite_iff.1 (finite s member)
    have double := doubles s member
    rw [value] at double
    rw [first, Option.map_some, Option.bind_some, value] at read
    dsimp only [numberText] at read
    rw [parseDouble_token double] at read
    split_ifs at read
    · cases read
      rw [Option.isSome_some, Option.map_some, value]
      rfl
    · cases read

end reader

/-- Taking the first alias for the name is right exactly when both have the same value. -/
theorem firstAlias_iff {setpoints : List (PyStr × Double)} {name : String} (known : name ∈ setpointNames) :
    (firstAlias setpoints name).map Prod.snd = ownSetpoint setpoints name ↔
      ∀ s ∈ firstAlias setpoints name, ownSetpoint setpoints name = some s.2 := by
  cases first : firstAlias setpoints name with
  | some s => simp [eq_comm]
  | none =>
    have absent : ownSetpoint setpoints name = none := by
      unfold ownSetpoint
      by_contra present
      obtain ⟨value, stored⟩ := Option.ne_none_iff_exists'.1 present
      obtain ⟨before, after, rfl, -⟩ := List.lookup_eq_some_iff.1 stored
      have aliased := List.find?_eq_none.1 first (pyStr name, value) (by simp)
      exact aliased (decide_eq_true (setpointNames_plain known).2)
    simp [absent]

section frames
variable [Fpu] [Libc] [FloatRepr] {setpoints : List (PyStr × Double)}

/-- The reader's setpoints are the four under their own names exactly when the aliases agree. -/
theorem readSetpoints_own_iff (finite : ∀ s ∈ setpoints, s.2.isFinite = true) (doubles : ∀ s ∈ setpoints, IsDouble s.2)
    {found : CommandSetpoints} (read : readSetpoints (setpointMembers setpoints) = some found) :
    found = ownSetpoints setpoints ↔ AliasesAgree setpoints := by
  have agree {name : String} (known : name ∈ setpointNames) {found : Bool × Double}
      (read : readOptionalNumber name (setpointMembers setpoints) = some found) :
      (found.1 = (ownSetpoint setpoints name).isSome ∧ found.2 = (ownSetpoint setpoints name).getD 0) ↔
        ∀ s ∈ firstAlias setpoints name, ownSetpoint setpoints name = some s.2 := by
    rw [readOptionalNumber_some finite doubles known read, ← firstAlias_iff known]
    cases firstAlias setpoints name <;> cases ownSetpoint setpoints name <;> simp
  unfold readSetpoints at read
  simp only [Option.bind_eq_bind] at read
  obtain ⟨roll, readRoll, read⟩ := Option.bind_eq_some_iff.1 read
  obtain ⟨pitch, readPitch, read⟩ := Option.bind_eq_some_iff.1 read
  obtain ⟨yawRate, readYawRate, read⟩ := Option.bind_eq_some_iff.1 read
  obtain ⟨throttle, readThrottle, read⟩ := Option.bind_eq_some_iff.1 read
  cases read
  simp only [AliasesAgree, setpointNames, List.forall_mem_cons, List.not_mem_nil, false_implies, implies_true, and_true,
    ← agree (show "roll" ∈ setpointNames by decide) readRoll, ← agree (show "pitch" ∈ setpointNames by decide) readPitch,
    ← agree (show "yaw_rate" ∈ setpointNames by decide) readYawRate,
    ← agree (show "throttle" ∈ setpointNames by decide) readThrottle, ownSetpoints, CommandSetpoints.mk.injEq, and_assoc]

/-- An accepted frame says what its payload says, and of the setpoints those under the four names and nothing
else, exactly when the first alias of each of the four names has the value of the name. -/
theorem own_setpoints_iff {seq : ℤ} {now : Double} {intent : Option Intent} {snapshot : Option VisMessage}
    {age : Option Double} {visFresh : Double} {payload : CmdPayload} {reason : Option BlockedReason}
    {maxPayloadBytes : Nat} {frame : Text} {read : CommandFrame} (tick : IsDouble now)
    (intents : ∀ i ∈ intent, StoredIntent i)
    (finite : ∀ i ∈ intent, ∀ setpoints ∈ i.setpoints, ∀ s ∈ setpoints, s.2.isFinite = true)
    (visions : ∀ vis ∈ snapshot, ∀ x ∈ TrackingObject.floats (buildTrackingObject vis), IsDouble x)
    (built : buildCmdPayload seq now intent snapshot age visFresh = .ok (payload, reason))
    (framed : frameCmdPayload payload maxPayloadBytes = .ok frame) (parsed : parseCmdFrame (frame.drop 4) = some read) :
    read = frameOf payload (ownSetpoints ((intent.bind (·.setpoints)).getD [])) (payload.tracking.elim {} received) ↔
      ∀ i ∈ intent, ∀ setpoints ∈ i.setpoints, AliasesAgree setpoints := by
  obtain ⟨⟨-, time, sent, tracking⟩, -⟩ := buildCmdPayload_ok built
  have text := (frameCmdPayload_ok framed).2
  have trackingDoubles : ∀ t ∈ payload.tracking, ∀ x ∈ TrackingObject.floats t, IsDouble x := by
    rw [tracking]
    intro t carried
    split_ifs at carried
    · obtain ⟨vis, known, rfl⟩ := Option.map_eq_some_iff.1 carried
      exact visions vis known
    · cases carried
  rw [text, parseCmdFrame_dumps] at parsed
  obtain ⟨found, readS, rfl⟩ := readCmdFrame_some (time ▸ tick) trackingDoubles parsed
  rw [sent] at readS
  have sameFrame : frameOf payload found (payload.tracking.elim {} received) =
      frameOf payload (ownSetpoints ((intent.bind (·.setpoints)).getD [])) (payload.tracking.elim {} received) ↔
        found = ownSetpoints ((intent.bind (·.setpoints)).getD []) := by
    constructor
    · intro same
      exact congrArg CommandFrame.setpoints same
    · intro same
      rw [same]
  rw [sameFrame]
  cases intent with
  | none =>
    cases readS
    simp [ownSetpoints, ownSetpoint]
  | some i =>
    cases stored : i.setpoints with
    | none =>
      rw [Option.bind_some, stored] at readS
      cases readS
      simp [ownSetpoints, ownSetpoint, stored]
    | some setpoints =>
      rw [Option.bind_some, stored] at readS
      simp only [Option.bind_some, stored, Option.getD_some, Option.mem_def, Option.some.injEq, forall_eq']
      exact readSetpoints_own_iff (finite i rfl setpoints stored) ((intents i rfl).spec.2 setpoints stored) readS

end frames

section hardware
attribute [local instance] Binary64.binary64 Libc.strict plainRepr

def setpointIntent (setpoints : List (PyStr × Double)) : Intent where
  desiredMode := 0
  setpoints := some setpoints

def setpointPayload (setpoints : List (PyStr × Double)) : CmdPayload where
  seq := 5
  timestamp := fin 8
  desiredMode := 0
  arm := none
  setpoints := some setpoints
  tracking := none

theorem setpointIntent_stored {setpoints : List (PyStr × Double)} (doubles : ∀ s ∈ setpoints, IsDouble s.2) :
    StoredIntent (setpointIntent setpoints) := by
  refine ⟨{ desiredMode := 0, setpoints := some setpoints }, rfl, ?_⟩
  rintro _ ⟨⟩
  exact doubles

/-- What the flight controller makes of a Manual intent with the setpoints. -/
def readOf (setpoints : List (PyStr × Double)) : Option CommandFrame :=
  (frameCmdPayload (setpointPayload setpoints) 4096).toOption.bind fun frame => parseCmdFrame (frame.drop 4)

theorem readOf_some {setpoints : List (PyStr × Double)} {read : CommandFrame} (found : readOf setpoints = some read) :
    ∃ frame, frameCmdPayload (setpointPayload setpoints) 4096 = .ok frame ∧ parseCmdFrame (frame.drop 4) = some read := by
  unfold readOf at found
  cases framed : frameCmdPayload (setpointPayload setpoints) 4096 with
  | error e =>
    rw [framed] at found
    cases found
  | ok frame =>
    rw [framed] at found
    exact ⟨frame, rfl, found⟩

/-- A tab and "hrottle". -/
def tabHrottle : PyStr := 9 :: pyStr "hrottle"

/-- It is written as \throttle and taken for full throttle. -/
theorem tab_hrottle_read_as_throttle :
    StoredIntent (setpointIntent [(tabHrottle, 1)]) ∧
      buildCmdPayload 5 (fin 8) (some (setpointIntent [(tabHrottle, 1)])) none none 1 =
        .ok (setpointPayload [(tabHrottle, 1)], none) ∧
      (∃ frame read, frameCmdPayload (setpointPayload [(tabHrottle, 1)]) 4096 = .ok frame ∧
        parseCmdFrame (frame.drop 4) = some read ∧ read.setpoints.hasThrottle = true ∧ read.setpoints.throttle = 1) ∧
      ownSetpoint [(tabHrottle, 1)] "throttle" = none := by
  have double : IsDouble (1 : Double) := Fpu.round_int 1 (by decide)
  have full : (readOf [(tabHrottle, 1)]).map (fun read => (read.setpoints.hasThrottle, read.setpoints.throttle)) =
      some (true, 1) := by
    decide +kernel
  obtain ⟨read, found, same⟩ := Option.map_eq_some_iff.1 full
  obtain ⟨frame, framed, parsed⟩ := readOf_some found
  exact ⟨setpointIntent_stored (by simpa using double), rfl, ⟨frame, read, framed, parsed, Prod.mk.inj same⟩, by decide⟩

/-- A roll behind keys that read as no name. -/
def decoys : List (PyStr × Double) := [(pyStr "Roll", 2), (10 :: pyStr "roll", 3), ([0x1F681], 4), (pyStr "roll", 1)]

theorem decoys_ignored :
    ∃ frame, frameCmdPayload (setpointPayload decoys) 4096 = .ok frame ∧
      parseCmdFrame (frame.drop 4) = some (frameOf (setpointPayload decoys) { hasRoll := true, roll := 1 } {}) := by
  have doubles : ∀ s ∈ decoys, IsDouble s.2 := by
    simp only [decoys, List.forall_mem_cons, List.not_mem_nil, false_implies, implies_true, and_true]
    exact ⟨Fpu.round_int 2 (by decide), Fpu.round_int 3 (by decide), Fpu.round_int 4 (by decide),
      Fpu.round_int 1 (by decide)⟩
  have taken : (readOf decoys).isSome = true := by decide +kernel
  obtain ⟨read, found⟩ := Option.isSome_iff_exists.1 taken
  obtain ⟨frame, framed, parsed⟩ := readOf_some found
  have built : buildCmdPayload 5 (fin 8) (some (setpointIntent decoys)) none none 1 = .ok (setpointPayload decoys, none) :=
    rfl
  have tick : IsDouble (fin 8) := Fpu.round_int 8 (by decide)
  have intents : ∀ i ∈ some (setpointIntent decoys), StoredIntent i := by
    rintro _ ⟨⟩
    exact setpointIntent_stored doubles
  have finite : ∀ i ∈ some (setpointIntent decoys), ∀ setpoints ∈ i.setpoints, ∀ s ∈ setpoints, s.2.isFinite = true := by
    rintro _ ⟨⟩ _ ⟨⟩
    decide
  have agree : ∀ i ∈ some (setpointIntent decoys), ∀ setpoints ∈ i.setpoints, AliasesAgree setpoints := by
    rintro _ ⟨⟩ _ ⟨⟩
    unfold AliasesAgree
    decide
  have own := (own_setpoints_iff tick intents finite (by rintro _ ⟨⟩) built framed parsed).2 agree
  rw [own] at parsed
  exact ⟨frame, framed, parsed⟩

end hardware
end AotDrone.Link
