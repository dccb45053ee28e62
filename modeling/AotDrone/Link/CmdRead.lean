import AotDrone.Link.CmdAccepted

/-! What a frame says that the flight controller has accepted, whatever payload it was sent in. -/

namespace AotDrone.Link
open AotDrone.Lib AotDrone.Lib.Double AotDrone.Lib.Decimal AotDrone.Json AotDrone.Backend AotDrone.Fc

section payload
variable [Fpu] [Libc] [FloatRepr] {payload : CmdPayload} {frame : CommandFrame}

omit [Fpu] [Libc] [FloatRepr] in
theorem lookup_timestamp (payload : CmdPayload) :
    fcLookup "timestamp_s".toList payload.members = some (.float payload.timestamp) := by
  rw [members_eq]
  exact (fcLookup_skip (by decide)).trans ((fcLookup_skip (by decide)).trans (fcLookup_hit (by decide)))

/-- The three numbers at the top of an accepted payload. -/
theorem readCmdFrame_header (read : readCmdFrame payload.members = some frame) :
    payload.timestamp.isFinite = true ∧ (intMin ≤ payload.seq ∧ payload.seq ≤ intMax) ∧
      (intMin ≤ payload.desiredMode ∧ payload.desiredMode ≤ intMax) := by
  unfold readCmdFrame at read
  simp only [Option.bind_eq_bind] at read
  obtain ⟨type, -, read⟩ := Option.bind_eq_some_iff.1 read
  split_ifs at read
  obtain ⟨seqToken, seqFound, read⟩ := Option.bind_eq_some_iff.1 read
  obtain ⟨tsToken, tsFound, read⟩ := Option.bind_eq_some_iff.1 read
  obtain ⟨modeToken, modeFound, read⟩ := Option.bind_eq_some_iff.1 read
  obtain ⟨seq, seqRead, read⟩ := Option.bind_eq_some_iff.1 read
  obtain ⟨timestamp, -, read⟩ := Option.bind_eq_some_iff.1 read
  obtain ⟨mode, modeRead, -⟩ := Option.bind_eq_some_iff.1 read
  have finite : payload.timestamp.isFinite = true := by
    rw [numberUnder, lookup_timestamp, Option.bind_some] at tsFound
    cases time : payload.timestamp with
    | fin q => rfl
    | nan | inf _ =>
      rw [time] at tsFound
      cases tsFound
  obtain ⟨-, seqLookup, -, modeLookup⟩ := lookup_header payload finite
  have inRange {n value : ℤ} {token : Text} (found : numberText (.int n) = some token)
      (parsed : parseIntLike token = some value) : intMin ≤ n ∧ n ≤ intMax := by
    cases found
    rw [parseIntLike_ofInt] at parsed
    split_ifs at parsed with range
    exact range
  rw [numberUnder, seqLookup, Option.bind_some] at seqFound
  rw [numberUnder, modeLookup, Option.bind_some] at modeFound
  exact ⟨finite, inRange seqFound seqRead, inRange modeFound modeRead⟩

/-- An accepted frame carries the arm field of its payload. -/
theorem readCmdFrame_arm (read : readCmdFrame payload.members = some frame) :
    frame.hasArm = payload.arm.isSome ∧ frame.arm = payload.arm.getD false := by
  have arm : (payload.arm.map Value.bool).bind boolValue = payload.arm := by cases payload.arm <;> rfl
  obtain ⟨finite, -⟩ := readCmdFrame_header read
  unfold readCmdFrame at read
  rw [lookup_arm payload finite, arm] at read
  simp only [Option.bind_eq_bind] at read
  obtain ⟨type, -, read⟩ := Option.bind_eq_some_iff.1 read
  split_ifs at read
  obtain ⟨_, -, read⟩ := Option.bind_eq_some_iff.1 read
  obtain ⟨_, -, read⟩ := Option.bind_eq_some_iff.1 read
  obtain ⟨_, -, read⟩ := Option.bind_eq_some_iff.1 read
  obtain ⟨_, -, read⟩ := Option.bind_eq_some_iff.1 read
  obtain ⟨_, -, read⟩ := Option.bind_eq_some_iff.1 read
  obtain ⟨_, -, read⟩ := Option.bind_eq_some_iff.1 read
  obtain ⟨_, -, read⟩ := Option.bind_eq_some_iff.1 read
  obtain ⟨_, -, read⟩ := Option.bind_eq_some_iff.1 read
  cases read
  exact ⟨rfl, rfl⟩

/-- Everything else an accepted frame says is what its payload says; the setpoints are what the reader found. -/
theorem readCmdFrame_some (time : IsDouble payload.timestamp)
    (trackingDoubles : ∀ t ∈ payload.tracking, ∀ x ∈ TrackingObject.floats t, IsDouble x)
    (read : readCmdFrame payload.members = some frame) :
    ∃ setpoints, (payload.setpoints.elim (some {}) fun sent => readSetpoints (setpointMembers sent)) = some setpoints ∧
      frame = frameOf payload setpoints (payload.tracking.elim {} received) := by
  obtain ⟨finite, seqIn, modeIn⟩ := readCmdFrame_header read
  obtain ⟨now, same⟩ := isFinite_iff.1 finite
  rw [readCmdFrame_payload same (same ▸ time) seqIn modeIn trackingDoubles] at read
  split_ifs at read
  obtain ⟨setpoints, readS, read⟩ := Option.bind_eq_some_iff.1 read
  obtain ⟨tracking, readT, read⟩ := Option.bind_eq_some_iff.1 read
  refine ⟨setpoints, readS, ?_⟩
  have received : tracking = payload.tracking.elim {} received := by
    cases stored : payload.tracking with
    | none =>
      rw [stored] at readT
      cases readT
      rfl
    | some t =>
      rw [stored, Option.elim_some] at readT
      split_ifs at readT
      cases readT
      rfl
  rw [← received]
  cases read
  rfl

end payload
end AotDrone.Link
