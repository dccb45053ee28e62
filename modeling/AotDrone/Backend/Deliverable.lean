import AotDrone.Backend.FrameSize
import AotDrone.Backend.Ingest
import AotDrone.Json.LoadsScalars

/-! Which of the accepted intents are delivered. The floats of a request and of a snapshot may be negative zeros, which
take one byte more than zeros. -/

namespace AotDrone.Backend
open AotDrone.Lib AotDrone.Lib.Double AotDrone.Lib.Decimal AotDrone.Json

/-! ## Snapshots -/

section snapshots
variable {φ : Type}

/-- The floats of a message. -/
def VisMessage.floats (vis : VisMessage φ) : List φ :=
  [vis.timestamp, vis.locX, vis.locY, vis.boundW, vis.boundH, vis.confidence]

def VisMessage.map {ψ : Type} (f : φ → ψ) (vis : VisMessage φ) : VisMessage ψ where
  seq := vis.seq
  timestamp := f vis.timestamp
  trackingState := vis.trackingState
  locX := f vis.locX
  locY := f vis.locY
  boundW := f vis.boundW
  boundH := f vis.boundH
  confidence := f vis.confidence

/-- The ingestor has stored the message of a datagram. -/
def Ingested [Fpu] (vis : VisMessage PyFloat) : Prop :=
  ∃ (state : SharedState) (data : Bytes) (rxMonotonic : Double),
    (ingest {} state (.vis data rxMonotonic)).2 = .ok true ∧
      (ingest {} state (.vis data rxMonotonic)).1.vis.latest = some (vis.map PyFloat.value)

theorem intBytes_le {n : ℤ} {k : ℕ} (some_digit : 0 < k) (small : n.natAbs < 10 ^ k) : intBytes n ≤ k + 1 := by
  have digits : (Nat.toDigits 10 n.natAbs).length ≤ k := (Nat.length_toDigits_le_iff (by decide) some_digit).2 small
  rw [intBytes]
  split_ifs <;> omega

/-- The number of a snapshot came in a datagram, and its state is one of four. -/
theorem Ingested.ints [Fpu] {vis : VisMessage PyFloat} (ingested : Ingested vis) :
    intBytes vis.seq ≤ 514 ∧ intBytes vis.trackingState ≤ 2 := by
  obtain ⟨state, data, rxMonotonic, returned, latest⟩ := ingested
  obtain ⟨decoded, payload, message, short, loaded, validated, stored⟩ := visKind.processDatagram_stored returned
  change (visKind.processDatagram _ _ _ _ _).1.latest = _ at latest
  rw [stored] at latest
  obtain ⟨members, read, rfl, carries, normal⟩ := validateVisMessage_ok_iff.1 validated
  have same : read.seq = vis.seq ∧ read.trackingState = vis.trackingState := by
    have kept : message.seq = read.seq ∧ message.trackingState = read.trackingState := by
      rw [normal]
      unfold VisMessage.normalized
      split_ifs <;> exact ⟨rfl, rfl⟩
    rw [← kept.1, ← kept.2, Option.some.inj latest]
    exact ⟨rfl, rfl⟩
  refine ⟨?_, ?_⟩
  · have small := loads_int loaded carries.seq
    rw [same.1] at small
    have digits := intBytes_le (Nat.succ_pos _) (small.trans (Nat.pow_lt_pow_right (by decide) (Nat.lt_succ_self _)))
    exact digits.trans (Nat.add_le_add_right (Nat.succ_le_succ short) 1)
  · have known := carries.state_mem
    rw [same.2] at known
    simp only [trackingStates, List.mem_cons, List.not_mem_nil, or_false] at known
    rcases known with known | known | known | known <;> rw [known] <;> decide

end snapshots

/-! ## The room for the setpoints -/

section room
variable {φ : Type} [FloatText φ] {seq : ℤ} {now : φ} {carried : Option (VisMessage φ)}

/-- How long the setpoints object of an intent may be: what a frame of 4096 bytes leaves of the rest of the payload, the
name of the member, its colon and a comma. -/
def setpointsRoom (seq : ℤ) (now : φ) (intent : Intent φ) (carried : Option (VisMessage φ)) : ℕ :=
  4083 - payloadBytes seq now intent.bare carried

theorem trackingBytes_le {vis : VisMessage φ} (ints : intBytes vis.seq ≤ 514 ∧ intBytes vis.trackingState ≤ 2)
    (printed : ∀ x ∈ vis.floats, floatBytes x ≤ 24) : trackingBytes vis ≤ 800 := by
  simp only [VisMessage.floats, List.forall_mem_cons, List.not_mem_nil, false_imp_iff, implies_true, and_true] at printed
  obtain ⟨timestamp, locX, locY, boundW, boundH, confidence⟩ := printed
  have names : (["tracking_state", "loc_x", "loc_y", "bound_w", "bound_h", "confidence", "vis_seq", "vis_timestamp_s"].map
      fun name => textBytes (pyStr name)) = [14, 5, 5, 7, 7, 10, 7, 15] := rfl
  simp only [List.map_cons, List.map_nil, List.cons.injEq, and_true] at names
  simp only [trackingBytes, objectBytes, List.map_cons, List.map_nil, List.sum_cons, List.sum_nil, List.length_cons,
    List.length_nil, names]
  omega

/-- Without setpoints an intent takes less than a quarter of a frame. -/
theorem bareBytes_le (seqIn : 0 ≤ seq ∧ seq ≤ cmdSeqMax) (time : floatBytes now ≤ 24)
    (snapshot : ∀ vis ∈ carried, trackingBytes vis ≤ 800) (intent : Intent φ) :
    payloadBytes seq now intent.bare carried ≤ 1000 := by
  have digits : intBytes seq ≤ 11 := by
    apply intBytes_le (by decide)
    have most : cmdSeqMax = 2147483647 := rfl
    omega
  have names : (["type", "seq", "timestamp_s", "desired_mode", "arm", "tracking"].map fun name => textBytes (pyStr name)) =
      [4, 3, 11, 12, 3, 8] := rfl
  simp only [List.map_cons, List.map_nil, List.cons.injEq, and_true] at names
  unfold payloadBytes Intent.bare objectBytes
  cases carried with
  | none =>
    rcases intent.arm with _ | _ | _ <;>
    · simp [names]
      omega
  | some vis =>
    have tracking := snapshot vis rfl
    rcases intent.arm with _ | _ | _ <;>
    · simp [names]
      omega

end room

/-! ## Delivery -/

section delivery
variable [Fpu] [FloatRepr]

/-- Where no float takes more than the 24 characters of `float.__repr__`, the intents that are delivered are those whose
setpoints, if there are any, leave room for the rest of the payload. -/
theorem accepted_delivered_iff {request : IntentRequest PyFloat} {intent : Intent PyFloat}
    (accepted : postIntent request = .ok intent) {seq : ℤ} (seqIn : 0 ≤ seq ∧ seq ≤ cmdSeqMax) (now : PyFloat)
    (snapshot : Option (VisMessage PyFloat)) (ingested : ∀ vis ∈ snapshot, Ingested vis)
    (printed : ∀ x ∈ now :: (snapshot.map VisMessage.floats).getD [], floatBytes x ≤ 24) (age : Option Double)
    {visFresh : Double} (config : ¬ visFresh < 0) :
    (∃ payload reason frame, buildCmdPayload seq now (some intent) snapshot age visFresh = .ok (payload, reason) ∧
        frameCmdPayload payload 4096 = .ok frame) ↔
      ∀ setpoints ∈ intent.setpoints, setpointsBytes setpoints ≤
        setpointsRoom seq now intent (if isVisFresh snapshot age visFresh then snapshot else none) := by
  obtain ⟨payload, reason, built⟩ := buildCmdPayload_accepted accepted seqIn.1 config now snapshot age
  rw [List.forall_mem_cons] at printed
  have bare : payloadBytes seq now intent.bare (if isVisFresh snapshot age visFresh then snapshot else none) ≤ 1000 := by
    refine bareBytes_le seqIn printed.1 ?_ intent
    intro vis carried
    have present : vis ∈ snapshot := by
      split_ifs at carried
      · exact carried
      · cases carried
    refine trackingBytes_le (ingested vis present).ints ?_
    rw [Option.mem_def.1 present] at printed
    exact printed.2
  have size := payload_length built
  rw [payloadBytes_bare] at size
  have framed : (∃ frame, frameCmdPayload payload 4096 = .ok frame) ↔
      ∀ setpoints ∈ intent.setpoints, setpointsBytes setpoints ≤
        setpointsRoom seq now intent (if isVisFresh snapshot age visFresh then snapshot else none) := by
    rw [frameCmdPayload_isOk_iff, size]
    unfold setpointsRoom
    cases intent.setpoints with
    | none =>
      rw [Option.map_none, Option.getD_none]
      exact iff_of_true (by omega) (by simp)
    | some setpoints =>
      rw [Option.map_some, Option.getD_some]
      simp only [Option.mem_def, Option.some.injEq, forall_eq']
      omega
  rw [← framed]
  constructor
  · rintro ⟨payload, reason, frame, again, framed⟩
    rw [built] at again
    cases again
    exact ⟨frame, framed⟩
  · rintro ⟨frame, framed⟩
    exact ⟨payload, reason, frame, built, framed⟩

end delivery

section hardware
attribute [local instance] Binary64.binary64 plainRepr

theorem landing_with_throttle_sent :
    ∃ payload reason frame,
      buildCmdPayload 0 (PyFloat.double (fin 8)) (some (landingIntent [(pyStr "throttle", .negativeZero)])) none none 1 =
          .ok (payload, reason) ∧
        frameCmdPayload payload 4096 = .ok frame := by
  have seqIn : (0 : ℤ) ≤ 0 ∧ 0 ≤ cmdSeqMax := by decide
  have config : ¬ (1 : Double) < 0 := by decide
  have accepted : postIntent (landing [(pyStr "throttle", PyFloat.negativeZero)]) =
      .ok (landingIntent [(pyStr "throttle", .negativeZero)]) := rfl
  refine (accepted_delivered_iff accepted seqIn (.double (fin 8)) none (by simp) ?_ none config).2 ?_
  · decide +kernel
  · rintro _ ⟨⟩
    decide +kernel

/-- A landing with one setpoint whose key has 4096 letters is accepted and never sent. -/
theorem landing_with_long_key_lost :
    postIntent (landing [(List.replicate 4096 97, PyFloat.double 1)]) =
        .ok (landingIntent [(List.replicate 4096 97, .double 1)]) ∧
      ¬ ∃ payload reason frame,
        buildCmdPayload 0 (PyFloat.double (fin 8)) (some (landingIntent [(List.replicate 4096 97, .double 1)])) none none
          1 = .ok (payload, reason) ∧ frameCmdPayload payload 4096 = .ok frame := by
  have long : 4096 ≤ textBytes (List.replicate 4096 97) := by
    rw [textBytes_replicate]
    decide
  refine ⟨rfl, ?_⟩
  rintro ⟨payload, reason, frame, built, framed⟩
  have short := (frameCmdPayload_isOk_iff payload).1 ⟨frame, framed⟩
  rw [payload_length built] at short
  exact long_key_long long _ _ _ _ short

end hardware
end AotDrone.Backend
