import AotDrone.Link.UpdateData

/-! When a link status says in the webapp what it says in the backend. -/

namespace AotDrone.Link
open AotDrone.Lib AotDrone.Lib.Double AotDrone.Json AotDrone.Backend AotDrone.Webapp

section status
variable [Fpu] [FloatRepr]

/-- The times of a state are readings of the clock, and its rate is a number of the machine. -/
structure LinkSound (state : SharedState) : Prop where
  attempted : ∀ x ∈ state.fcLastConnectAttempt, Monotonic x
  sent : ∀ x ∈ state.cmdLastSent, Monotonic x
  tel : ∀ x ∈ state.tel.lastRxMonotonic, Monotonic x
  vis : ∀ x ∈ state.vis.lastRxMonotonic, Monotonic x
  rate : IsDouble state.cmdHzEst

def linkCounters (state : SharedState) : List Nat :=
  [state.cmdTxTotal, state.cmdTxOk, state.cmdTxFail, state.vis.rxOk, state.vis.rxBad, state.vis.dropReason .oversize,
    state.vis.dropReason .json, state.vis.dropReason .schema, state.vis.dropReason .range,
    state.vis.dropReason .semantics, state.tel.rxOk, state.tel.rxBad]

def settings (config : BroadcastConfig) : List Double :=
  [config.visFresh, config.telFresh, config.cmdTimeout, config.cmdHzNominal, config.telHzNominal]

/-- The status that says what the state says. -/
def shownLinkStatus (config : BroadcastConfig) (state : SharedState) (now : Double) : LinkStatus where
  fcConnected := state.fcConnected
  fcLastConnectAttempt := state.fcLastConnectAttempt
  cmdTxTotal := fin (state.cmdTxTotal : ℤ)
  cmdTxOk := fin (state.cmdTxOk : ℤ)
  cmdTxFail := fin (state.cmdTxFail : ℤ)
  cmdLastSent := state.cmdLastSent
  cmdHzEst := state.cmdHzEst
  trackingBlockedReason := state.trackingBlockedReason.map fun reason => pyStr reason.name
  visAge := state.getVisAge now
  visRxOk := fin (state.vis.rxOk : ℤ)
  visRxBad := fin (state.vis.rxBad : ℤ)
  visDropReasonOversize := fin (state.vis.dropReason .oversize : ℤ)
  visDropReasonJson := fin (state.vis.dropReason .json : ℤ)
  visDropReasonSchema := fin (state.vis.dropReason .schema : ℤ)
  visDropReasonRange := fin (state.vis.dropReason .range : ℤ)
  visDropReasonSemantics := fin (state.vis.dropReason .semantics : ℤ)
  telAge := state.getTelAge now
  telRxOk := fin (state.tel.rxOk : ℤ)
  telRxBad := fin (state.tel.rxBad : ℤ)
  visFresh := config.visFresh
  telFresh := config.telFresh
  cmdTimeout := config.cmdTimeout
  cmdHz := config.cmdHzNominal
  telHz := config.telHzNominal

variable {config : BroadcastConfig} {state : SharedState} {now : Double} {video : VideoStatus}

omit [FloatRepr] in
theorem buildLinkStatus_eq (config : BroadcastConfig) (state : SharedState) (now : Double) (video : VideoStatus) :
    buildLinkStatus config state now video =
      state.getLinkStatus config.visFresh config.telFresh config.cmdTimeout config.cmdHzNominal config.telHzNominal
        now ++ video.members := by
  apply updated_new
  · simp only [VideoStatus.members, SharedState.getLinkStatus, List.map_cons, List.map_nil, List.forall_mem_cons,
      List.not_mem_nil, false_imp_iff, implies_true, and_true]
    decide
  · simp only [VideoStatus.members, List.map_cons, List.map_nil]
    decide

omit [Fpu] [FloatRepr] in
theorem reason_flat (reason : Option BlockedReason) :
    Flat (reason.elim .null fun reason => .str (pyStr reason.name)) := by
  cases reason with
  | none => trivial
  | some reason =>
    have printable : Printable (pyStr reason.name) := by cases reason <;> decide
    exact printable

omit [FloatRepr] in
theorem buildLinkStatus_flat (config : BroadcastConfig) (state : SharedState) (now : Double) (video : VideoStatus) :
    FlatData (buildLinkStatus config state now video) := by
  rw [buildLinkStatus_eq]
  refine ⟨?_, ?_, ?_⟩
  · simp only [VideoStatus.members, SharedState.getLinkStatus, List.cons_append, List.nil_append,
      List.forall_mem_cons, List.not_mem_nil, false_imp_iff, implies_true, and_true]
    simp only [nullable_flat, reason_flat, true_and]
    simp only [Flat, and_self]
  · simp only [VideoStatus.members, SharedState.getLinkStatus, List.cons_append, List.nil_append,
      List.forall_mem_cons, List.not_mem_nil, false_imp_iff, implies_true, and_true]
    decide
  · simp only [VideoStatus.members, SharedState.getLinkStatus, List.cons_append, List.nil_append, List.map_cons,
      List.map_nil]
    decide

omit [FloatRepr] in
theorem finiteDouble_ages (sound : LinkSound state) (present : Monotonic now) :
    (∀ x ∈ state.getVisAge now, FiniteDouble x) ∧ ∀ x ∈ state.getTelAge now, FiniteDouble x := by
  refine ⟨?_, ?_⟩
  · intro x member
    obtain ⟨lastRx, received, rfl⟩ := Option.map_eq_some_iff.1 member
    exact finiteDouble_age present (sound.vis lastRx received)
  · intro x member
    obtain ⟨lastRx, received, rfl⟩ := Option.map_eq_some_iff.1 member
    exact finiteDouble_age present (sound.tel lastRx received)

/-- The rate, the settings and what is known of the video are finite. -/
def LinkFinite (config : BroadcastConfig) (state : SharedState) (video : VideoStatus) : Prop :=
  (∀ x ∈ state.cmdHzEst :: settings config, x.isFinite = true) ∧ video.videoFpsEst.isFinite = true ∧
    ∀ x ∈ video.lastFrameAge, x.isFinite = true

omit [Fpu] [FloatRepr] in
theorem nullable_sayable_iff {value : Option Double} : Sayable (nullable value) ↔ ∀ x ∈ value, x.isFinite = true := by
  cases value with
  | none => exact iff_of_true trivial (by simp)
  | some x => exact ⟨fun finite _ same => Option.some.inj same ▸ finite, fun finite => finite x rfl⟩

omit [FloatRepr] in
theorem buildLinkStatus_sayable (sound : LinkSound state) (present : Monotonic now) :
    (∀ m ∈ buildLinkStatus config state now video, Sayable m.2) ↔ LinkFinite config state video := by
  obtain ⟨visAge, telAge⟩ := finiteDouble_ages sound present
  have attempted := nullable_sayable fun x member => (sound.attempted x member).toFiniteDouble
  have sent := nullable_sayable fun x member => (sound.sent x member).toFiniteDouble
  have reason : Sayable (state.trackingBlockedReason.elim .null fun reason => .str (pyStr reason.name)) := by
    cases state.trackingBlockedReason <;> trivial
  rw [buildLinkStatus_eq, LinkFinite, ← nullable_sayable_iff]
  simp only [VideoStatus.members, SharedState.getLinkStatus, settings, List.cons_append, List.nil_append,
    List.forall_mem_cons, List.not_mem_nil, false_imp_iff, implies_true, and_true, attempted, sent, reason,
    nullable_sayable visAge, nullable_sayable telAge, true_and]
  simp only [Sayable, true_and, and_true, and_assoc]

/-- What the reader makes of a status with finite numbers: only its counters may have changed. -/
theorem asLinkStatus_data (sound : LinkSound state) (present : Monotonic now)
    (finite : LinkFinite config state video) :
    asLinkStatus (.obj (ecmaMembers (buildLinkStatus config state now video))) =
      some
        { shownLinkStatus config state now with
          cmdTxTotal := readCounter (some (.float (Fpu.round (state.cmdTxTotal : ℤ))))
          cmdTxOk := readCounter (some (.float (Fpu.round (state.cmdTxOk : ℤ))))
          cmdTxFail := readCounter (some (.float (Fpu.round (state.cmdTxFail : ℤ))))
          visRxOk := readCounter (some (.float (Fpu.round (state.vis.rxOk : ℤ))))
          visRxBad := readCounter (some (.float (Fpu.round (state.vis.rxBad : ℤ))))
          visDropReasonOversize := readCounter (some (.float (Fpu.round (state.vis.dropReason .oversize : ℤ))))
          visDropReasonJson := readCounter (some (.float (Fpu.round (state.vis.dropReason .json : ℤ))))
          visDropReasonSchema := readCounter (some (.float (Fpu.round (state.vis.dropReason .schema : ℤ))))
          visDropReasonRange := readCounter (some (.float (Fpu.round (state.vis.dropReason .range : ℤ))))
          visDropReasonSemantics := readCounter (some (.float (Fpu.round (state.vis.dropReason .semantics : ℤ))))
          telRxOk := readCounter (some (.float (Fpu.round (state.tel.rxOk : ℤ))))
          telRxBad := readCounter (some (.float (Fpu.round (state.tel.rxBad : ℤ)))) } := by
  obtain ⟨visAge, telAge⟩ := finiteDouble_ages sound present
  have doubles := config.doubles
  obtain ⟨numbers, -⟩ := finite
  simp only [settings, List.forall_mem_cons, List.not_mem_nil, false_imp_iff, implies_true, and_true] at doubles numbers
  obtain ⟨visFreshD, telFreshD, cmdTimeoutD, cmdHzD, telHzD⟩ := doubles
  obtain ⟨rate, visFreshF, telFreshF, cmdTimeoutF, cmdHzF, telHzF⟩ := numbers
  have reason :
      readString (some (ecma (state.trackingBlockedReason.elim .null fun reason => .str (pyStr reason.name)))) =
        state.trackingBlockedReason.map fun reason => pyStr reason.name := by
    cases state.trackingBlockedReason <;> rfl
  have connected : readBoolean (some (ecma (.bool state.fcConnected))) = some state.fcConnected := rfl
  rw [buildLinkStatus_eq, asLinkStatus, asRecord]
  simp only [Option.bind_eq_bind, Option.bind_some]
  rw [property_ecma "fc_connected" rfl, connected, Option.bind_some,
    readNullable_member "fc_last_connect_attempt_s" (fun x member => (sound.attempted x member).toFiniteDouble) rfl,
    property_ecma "cmd_tx_total" rfl, property_ecma "cmd_tx_ok" rfl, property_ecma "cmd_tx_fail" rfl,
    readNullable_member "cmd_last_sent_monotonic_s" (fun x member => (sound.sent x member).toFiniteDouble) rfl,
    readCounter_member "cmd_hz_est" ⟨rate, sound.rate⟩ rfl, property_ecma "tracking_blocked_reason" rfl, reason,
    readNullable_member "vis_age_s" visAge rfl, property_ecma "vis_rx_ok" rfl, property_ecma "vis_rx_bad" rfl,
    property_ecma "vis_drop_reason_oversize" rfl, property_ecma "vis_drop_reason_json" rfl,
    property_ecma "vis_drop_reason_schema" rfl, property_ecma "vis_drop_reason_range" rfl,
    property_ecma "vis_drop_reason_semantics" rfl, readNullable_member "tel_age_s" telAge rfl,
    property_ecma "tel_rx_ok" rfl, property_ecma "tel_rx_bad" rfl,
    readCounter_member "vis_fresh_s" ⟨visFreshF, visFreshD⟩ rfl,
    readCounter_member "tel_fresh_s" ⟨telFreshF, telFreshD⟩ rfl,
    readCounter_member "cmd_timeout_s" ⟨cmdTimeoutF, cmdTimeoutD⟩ rfl, readCounter_member "cmd_hz" ⟨cmdHzF, cmdHzD⟩ rfl,
    readCounter_member "tel_hz" ⟨telHzF, telHzD⟩ rfl]
  rfl

/-- The numbers are finite, and a double holds every counter. -/
def LinkTold (config : BroadcastConfig) (state : SharedState) (video : VideoStatus) : Prop :=
  (∀ n ∈ linkCounters state, ExactInt n) ∧ LinkFinite config state video

theorem linkTold_iff (sound : LinkSound state) (present : Monotonic now) :
    (∀ m ∈ buildLinkStatus config state now video, Sayable m.2) ∧
        asLinkStatus (.obj (ecmaMembers (buildLinkStatus config state now video))) =
          some (shownLinkStatus config state now) ↔
      LinkTold config state video := by
  rw [buildLinkStatus_sayable sound present, LinkTold, and_comm]
  apply and_congr_left
  intro finite
  rw [asLinkStatus_data sound present finite]
  simp only [linkCounters, List.forall_mem_cons, List.not_mem_nil, false_imp_iff, implies_true, and_true,
    ← readCounter_exact, shownLinkStatus, Option.some.injEq, LinkStatus.mk.injEq, true_and]

end status
end AotDrone.Link
