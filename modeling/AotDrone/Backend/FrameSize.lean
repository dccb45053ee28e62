import AotDrone.Backend.State

/-! How long the frame of an intent is. -/

namespace AotDrone.Backend
open AotDrone.Lib AotDrone.Lib.Double AotDrone.Lib.Decimal AotDrone.Json

/-! ## Lengths of JSON text -/

def escapedBytes (c : CodePoint) : Nat :=
  if c.val ∈ ['"'.toNat, '\\'.toNat, '\n'.toNat, '\r'.toNat, '\t'.toNat, 0x0C, 0x08] then 2
  else if 0x20 ≤ c.val ∧ c.val ≤ 0x7E then 1
  else if c.val < 0x10000 then 6
  else 12

def textBytes (s : PyStr) : Nat := (s.map escapedBytes).sum

def intBytes (n : ℤ) : Nat := (if n < 0 then 1 else 0) + (Nat.toDigits 10 n.natAbs).length

theorem length_escape (s : PyStr) : (escape s).length = textBytes s := by
  have one (c : CodePoint) : (escapeCodePoint c).length = escapedBytes c := by
    unfold escapeCodePoint escapedBytes
    simp only [List.mem_cons, List.not_mem_nil, or_false, ite_or, apply_ite List.length]
    rfl
  rw [escape, List.length_flatMap, textBytes]
  simp only [one]

theorem length_dumpString (s : PyStr) : (dumpString s).length = textBytes s + 2 := by
  rw [dumpString, List.length_cons, List.length_append, length_escape]
  rfl

theorem length_render_int (n : ℤ) : (Token.ofInt n).render.length = intBytes n := by
  by_cases negative : n < 0
  · simp [Token.render, Token.ofParts, Token.fractionText, Token.exponentText, intBytes, negative, Nat.add_comm]
  · simp [Token.render, Token.ofParts, Token.fractionText, Token.exponentText, intBytes, negative]

section sizes
variable {φ : Type} [FloatText φ]

/-- The length of what `float.__repr__` gives, or of the name of a float that is not finite. -/
def floatBytes (x : φ) : Nat := (FloatText.text x).length

/-- The members of an object, with its braces, colons and commas. -/
def objectBytes (members : List (PyStr × Nat)) : Nat :=
  2 + (members.map fun m => textBytes m.1 + 3 + m.2).sum + (members.length - 1)

theorem length_dumpMembers (members : Members φ) :
    (dumpMembers members).length + 2 = objectBytes (members.map fun m => (m.1, (dumps m.2).length)) := by
  induction members with
  | nil => rfl
  | cons m members ih =>
    obtain ⟨name, v⟩ := m
    cases members with
    | nil =>
      simp only [dumpMembers, objectBytes, List.length_append, List.length_cons, length_dumpString, List.map_cons,
        List.map_nil, List.sum_cons, List.sum_nil, List.length_nil]
      omega
    | cons next members =>
      simp only [dumpMembers, objectBytes, List.length_append, List.length_cons, length_dumpString, List.map_cons,
        List.sum_cons] at ih ⊢
      omega

theorem length_dumps_obj (members : Members φ) :
    (dumps (.obj members)).length = objectBytes (members.map fun m => (m.1, (dumps m.2).length)) := by
  rw [← length_dumpMembers, dumps, List.length_cons, List.length_append]
  rfl

/-! ## Payloads -/

def setpointsBytes (setpoints : List (PyStr × φ)) : Nat :=
  objectBytes (setpoints.map fun s => (s.1, floatBytes s.2))

def trackingBytes (vis : VisMessage φ) : Nat :=
  objectBytes
    [(pyStr "tracking_state", intBytes vis.trackingState), (pyStr "loc_x", floatBytes vis.locX),
      (pyStr "loc_y", floatBytes vis.locY), (pyStr "bound_w", floatBytes vis.boundW),
      (pyStr "bound_h", floatBytes vis.boundH), (pyStr "confidence", floatBytes vis.confidence),
      (pyStr "vis_seq", intBytes vis.seq), (pyStr "vis_timestamp_s", floatBytes vis.timestamp)]

/-- The length of the payload of an intent, with the VIS message it carries if it carries one. Every mode is one
digit. -/
def payloadBytes (seq : ℤ) (now : φ) (intent : Intent φ) (carried : Option (VisMessage φ)) : Nat :=
  objectBytes
    ([(pyStr "type", 5), (pyStr "seq", intBytes seq), (pyStr "timestamp_s", floatBytes now), (pyStr "desired_mode", 1)] ++
      ((intent.arm.map fun arm => (pyStr "arm", if arm then 4 else 5)).toList ++
        ((intent.setpoints.map fun setpoints => (pyStr "setpoints", setpointsBytes setpoints)).toList ++
          (carried.map fun vis => (pyStr "tracking", trackingBytes vis)).toList)))

theorem length_setpoints (setpoints : List (PyStr × φ)) :
    (dumps (setpointsValue setpoints)).length = setpointsBytes setpoints := by
  rw [setpointsValue, length_dumps_obj, List.map_map, setpointsBytes]
  rfl

theorem length_tracking (vis : VisMessage φ) : (dumps (buildTrackingObject vis).toValue).length = trackingBytes vis := by
  rw [TrackingObject.toValue, length_dumps_obj, trackingBytes, ← length_render_int, ← length_render_int]
  rfl

theorem length_mode {mode : ℤ} (known : mode ∈ controlModes) : (dumps (.int mode : Value φ)).length = 1 := by
  simp only [controlModes, List.mem_cons, List.not_mem_nil, or_false] at known
  rcases known with rfl | rfl | rfl | rfl <;> rfl

theorem length_payload {payload : CmdPayload φ} {intent : Intent φ} {carried : Option (VisMessage φ)}
    (mode : payload.desiredMode ∈ controlModes) (arm : payload.arm = intent.arm)
    (setpoints : payload.setpoints = intent.setpoints) (tracking : payload.tracking = carried.map buildTrackingObject) :
    (dumps (.obj payload.members)).length = payloadBytes payload.seq payload.timestamp intent carried := by
  have tag : (dumps (.str (pyStr "CMD") : Value φ)).length = 5 := rfl
  have bool (b : Bool) : (dumps (.bool b : Value φ)).length = if b then 4 else 5 := by cases b <;> rfl
  have seq : (dumps (.int payload.seq : Value φ)).length = intBytes payload.seq := length_render_int _
  have time : (dumps (.float payload.timestamp)).length = floatBytes payload.timestamp := rfl
  rw [length_dumps_obj, payloadBytes, CmdPayload.members, arm, setpoints, tracking]
  simp only [List.map_append, List.map_cons, List.map_nil, tag, seq, time, length_mode mode]
  congr 3
  · cases intent.arm <;> simp [bool]
  congr 1
  · cases intent.setpoints <;> simp [length_setpoints]
  · cases carried <;> simp [length_tracking]

variable {request : IntentRequest φ} {intent : Intent φ} {seq : ℤ} {visFresh : Double}

omit [FloatText φ] in
/-- The payload of an accepted intent is built. -/
theorem buildCmdPayload_accepted (accepted : postIntent request = .ok intent) (seqIn : 0 ≤ seq) (config : ¬ visFresh < 0)
    (now : φ) (snapshot : Option (VisMessage φ)) (age : Option Double) :
    ∃ payload reason, buildCmdPayload seq now (some intent) snapshot age visFresh = .ok (payload, reason) := by
  have known : intent.desiredMode ∈ controlModes := by
    unfold postIntent at accepted
    split_ifs at accepted with known
    cases accepted
    exact known
  unfold buildCmdPayload
  rw [if_neg (not_lt.2 seqIn), if_neg config]
  simp only [Option.map_some, Option.getD_some]
  rw [if_neg (not_not_intro known)]
  exact ⟨_, _, rfl⟩

theorem payload_length {now : φ} {snapshot : Option (VisMessage φ)} {age : Option Double} {payload : CmdPayload φ}
    {reason : Option BlockedReason}
    (built : buildCmdPayload seq now (some intent) snapshot age visFresh = .ok (payload, reason)) :
    (dumps (.obj payload.members)).length =
      payloadBytes seq now intent (if isVisFresh snapshot age visFresh then snapshot else none) := by
  obtain ⟨⟨sameSeq, time, setpoints, tracking⟩, mode, -⟩ := buildCmdPayload_ok built
  have arm := buildCmdPayload_arm built
  rw [Option.bind_some] at setpoints arm
  rw [← sameSeq, ← time]
  apply length_payload mode arm setpoints
  rw [tracking]
  split_ifs <;> rfl

/-- A text of at most 4096 bytes is framed. -/
theorem frameCmdPayload_isOk_iff (payload : CmdPayload φ) :
    (∃ frame, frameCmdPayload payload 4096 = .ok frame) ↔ (dumps (.obj payload.members)).length ≤ 4096 := by
  have nonempty : 1 ≤ (dumps (.obj payload.members)).length := by
    rw [length_dumps_obj, objectBytes]
    omega
  unfold frameCmdPayload
  dsimp only
  by_cases short : (dumps (.obj payload.members)).length ≤ 4096
  · rw [if_neg (by simp [nonempty, short]), if_neg (by omega)]
    exact ⟨fun _ => short, fun _ => ⟨_, rfl⟩⟩
  · rw [if_pos (by simp [short])]
    exact ⟨nofun, fun fits => absurd fits short⟩

/-- An intent without its setpoints. -/
def Intent.bare (intent : Intent φ) : Intent φ := { intent with setpoints := none }

/-- A setpoints object adds its name, a colon, a comma and itself. -/
theorem payloadBytes_bare (now : φ) (carried : Option (VisMessage φ)) :
    payloadBytes seq now intent carried =
      payloadBytes seq now intent.bare carried + (intent.setpoints.map fun setpoints => 13 + setpointsBytes setpoints).getD 0 := by
  have name : textBytes (pyStr "setpoints") = 9 := rfl
  unfold payloadBytes Intent.bare
  cases intent.setpoints with
  | none => rfl
  | some setpoints =>
    simp only [objectBytes, Option.map_some, Option.map_none, Option.toList_some, Option.toList_none, Option.getD_some,
      List.nil_append, List.map_append, List.map_cons, List.map_nil, List.sum_append, List.sum_cons, List.sum_nil,
      List.length_append, List.length_cons, List.length_nil, name]
    omega

end sizes

/-! ## Landings -/

section landings
variable {φ : Type}

/-- A request to land, disarmed. -/
def landing (setpoints : List (PyStr × φ)) : IntentRequest φ where
  desiredMode := modeLandSafely
  arm := some false
  setpoints := some setpoints

def landingIntent (setpoints : List (PyStr × φ)) : Intent φ where
  desiredMode := modeLandSafely
  arm := some false
  setpoints := some setpoints

theorem textBytes_replicate (n : Nat) (c : CodePoint) : textBytes (List.replicate n c) = n * escapedBytes c := by
  induction n with
  | zero => simp [textBytes]
  | succ n ih =>
    rw [textBytes] at ih ⊢
    rw [List.replicate_succ, List.map_cons, List.sum_cons, ih, Nat.succ_mul, Nat.add_comm]

theorem long_key_long [FloatText φ] {key : PyStr} (long : 4096 ≤ textBytes key) (seq : ℤ) (now value : φ)
    (carried : Option (VisMessage φ)) : ¬ payloadBytes seq now (landingIntent [(key, value)]) carried ≤ 4096 := by
  simp only [payloadBytes, landingIntent, setpointsBytes, objectBytes, Option.map_some, Option.toList_some, List.map_append,
    List.map_cons, List.map_nil, List.sum_append, List.sum_cons, List.sum_nil]
  omega

end landings
end AotDrone.Backend
