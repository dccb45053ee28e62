import AotDrone.Fc.LoopFacts
import AotDrone.Lib.Binary64

/-! The two failsafe latches over whole runs of the process: the mode gate holds on every turn, and
the exact runs on which the stale-link failsafe covers every turn. -/

namespace AotDrone.Fc
open AotDrone.Lib AotDrone.Lib.Double AotDrone.Lib.Run

/-! ## Mode gate -/

namespace MainLoop
variable [Fpu] (loop : MainLoop) (r : Readings)

/-- `updateTimeStep` is entered in Tracking or Takeoff only with a usable sink and a known hover throttle. -/
def GateHolds : Prop :=
  needsMsp (loop.entry r).controlMode = true →
    r.sink.ok = true ∧ r.sink.tuningMismatch = false ∧ (loop.entry r).hoverThrottle ≠ 0

omit [Fpu] in
/-- Between turns: in a mode that needs the sink, the sink latch is clear. -/
def GateInv (tuningMismatch : Bool) : Prop :=
  needsMsp loop.controller.controlMode = true →
    loop.sinkDegradedEngaged = false ∧ tuningMismatch = false ∧ loop.controller.hoverThrottle ≠ 0

variable {loop r}

theorem gateHolds_of_inv (inv : loop.GateInv r.sink.tuningMismatch) : loop.GateHolds r := by
  intro needs
  rw [entry_hoverThrottle]
  rw [entry_controlMode] at needs
  by_cases engages : (loop.staleEngages r || loop.sinkEngages r) = true
  · -- a latch that engages leaves LandSafely, which needs nothing
    rw [if_pos engages] at needs
    exact absurd needs (by decide)
  · rw [if_neg engages] at needs
    unfold modeAfterCmd at needs
    have kept : needsMsp loop.controller.controlMode = true →
        r.sink.ok = true ∧ r.sink.tuningMismatch = false ∧ loop.controller.hoverThrottle ≠ 0 := by
      intro before
      obtain ⟨clear, confirmed, calibrated⟩ := inv before
      refine ⟨?_, confirmed, calibrated⟩
      simp only [sinkEngages, clear, Bool.not_false, Bool.and_true, Bool.or_eq_true, not_or,
        Bool.not_eq_true, Bool.not_eq_false'] at engages
      exact engages.2
    cases applied : loop.accepted r.latest with
    | none =>
      rw [applied] at needs
      exact kept needs
    | some cmd =>
      rw [applied] at needs
      rcases requestedMode_gate cmd r.sink loop.controller needs with same | usable
      · exact kept (same ▸ needs)
      · exact usable

theorem gateInv_step (inv : loop.GateInv r.sink.tuningMismatch) :
    (loop.step r).GateInv r.sink.tuningMismatch := by
  have holds := gateHolds_of_inv inv
  intro needs
  rw [step_sinkDegradedEngaged, step_hoverThrottle]
  have entered : needsMsp (loop.entry r).controlMode = true := by
    rcases FlightController.updateTimeStep_controlMode (loop.entry r) r.dt with same | ⟨_, takeoff, _⟩
    · rw [step_controller, same] at needs
      split_ifs at needs
      · exact absurd needs (by decide)
      · exact needs
    · rw [takeoff]
      rfl
  obtain ⟨healthy, confirmed, calibrated⟩ := holds entered
  rw [entry_hoverThrottle] at calibrated
  exact ⟨by simp [healthy], confirmed, calibrated⟩

end MainLoop

variable [Fpu] [Libc]

/-- On every turn of every run, `updateTimeStep` is entered in Tracking or Takeoff only with a
healthy sink, a confirmed rate profile and a known hover throttle. -/
theorem gate_always (hover : HoverEnv) (tuningMismatch : Bool) (start : ℤ) (events : List Event) :
    Always FcProcess.step (fun _ p event => ∀ turn ∈ p.turn event, p.loop.GateHolds turn.2) []
      (bootProcess hover tuningMismatch start) events := by
  apply Always.of_forall fun _ p => p.loop.GateInv p.tuningMismatch
  · intro past p event inv turn member
    cases event with
    | reception frame => exact absurd member (by simp [FcProcess.turn])
    | tick now late ageNow sinkOk =>
      obtain rfl : (now, p.readings now late ageNow sinkOk) = turn := by simpa [FcProcess.turn] using member
      exact MainLoop.gateHolds_of_inv inv
  · intro past p event inv
    cases event with
    | reception frame => exact inv
    | tick now late ageNow sinkOk => exact MainLoop.gateInv_step inv
  · intro needs
    rw [show (bootProcess hover tuningMismatch start).loop = boot hover from rfl, boot_controlMode] at needs
    exact absurd needs (by decide)

/-! ## Stale link -/

namespace MainLoop
omit [Libc]
variable (loop : MainLoop) (r : Readings)

/-- A turn that finds the link stale enters and leaves `updateTimeStep` in LandSafely. -/
def StaleLands : Prop :=
  staleNow r.cmdAge = true →
    (loop.entry r).controlMode = .landSafely ∧ (loop.step r).controller.controlMode = .landSafely

/-- This turn applies a frame that leaves the controller outside LandSafely. -/
def LeavesLandSafely : Prop :=
  ∃ cmd ∈ loop.accepted r.latest, requestedMode cmd r.sink loop.controller ≠ .landSafely

/-- The link is stale, its latch is spent, and the frame of this turn leaves LandSafely with nothing
to bring the controller back. -/
def StaleEscapes : Prop :=
  staleNow r.cmdAge = true ∧ loop.failsafeEngaged = true ∧ loop.LeavesLandSafely r ∧
    loop.sinkEngages r = false

omit [Fpu] in
def StaleInv : Prop := loop.failsafeEngaged = true → loop.controller.controlMode = .landSafely

variable {loop r}

theorem staleLands_iff (inv : loop.StaleInv) : loop.StaleLands r ↔ ¬ loop.StaleEscapes r := by
  have mode := loop.entry_controlMode r
  constructor
  · rintro lands ⟨stale, engaged, ⟨cmd, applied, leaves⟩, quiet⟩
    have entered := (lands stale).1
    simp only [staleEngages, stale, engaged, quiet, Bool.not_true, Bool.and_false, Bool.or_self,
      Bool.false_eq_true, ↓reduceIte, modeAfterCmd, Option.mem_def.1 applied] at mode
    exact leaves (mode.symm.trans entered)
  · intro safe stale
    have entered : (loop.entry r).controlMode = .landSafely := by
      rw [mode]
      by_cases engages : (loop.staleEngages r || loop.sinkEngages r) = true
      · exact if_pos engages
      · rw [if_neg engages]
        simp only [Bool.or_eq_true, not_or, Bool.not_eq_true] at engages
        have engaged : loop.failsafeEngaged = true := by simpa [staleEngages, stale] using engages.1
        unfold modeAfterCmd
        cases applied : loop.accepted r.latest with
        | none => exact inv engaged
        | some cmd =>
          by_contra leaves
          exact safe ⟨stale, engaged, ⟨cmd, applied, leaves⟩, engages.2⟩
    exact ⟨entered, loop.step_landSafely r entered⟩

theorem staleInv_step (lands : loop.StaleLands r) : (loop.step r).StaleInv := by
  intro engaged
  rw [step_failsafeEngaged] at engaged
  exact (lands engaged).2

end MainLoop

/-- The stale-link failsafe covers every turn of exactly the runs in which no turn escapes it. -/
theorem staleLands_always_iff (hover : HoverEnv) (tuningMismatch : Bool) (start : ℤ) (events : List Event) :
    Always FcProcess.step (fun _ p event => ∀ turn ∈ p.turn event, p.loop.StaleLands turn.2) []
        (bootProcess hover tuningMismatch start) events ↔
      Always FcProcess.step (fun _ p event => ∀ turn ∈ p.turn event, ¬ p.loop.StaleEscapes turn.2) []
        (bootProcess hover tuningMismatch start) events := by
  apply Always.iff_of_invariant (fun _ p => p.loop.StaleInv) (D := fun _ _ _ => True)
  · intro past p event inv _
    exact forall₂_congr fun turn _ => MainLoop.staleLands_iff inv
  · intro past p event inv _ safe
    cases event with
    | reception frame => exact inv
    | tick now late ageNow sinkOk =>
      exact MainLoop.staleInv_step ((MainLoop.staleLands_iff inv).2 (safe _ rfl))
  · intro _
    exact boot_controlMode hover
  · exact Always.true _ _ _

/-! ## Only accepted frames count -/

/-- `proto::CMD_TIMEOUT_S` on the steady clock. -/
def cmdTimeoutNs : ℤ := 500000000

namespace FcProcess

omit [Libc] in
/-- The turn accepts a frame: one in range and ahead of the last one applied. -/
def Accepts (p : FcProcess) (turn : ℤ × Readings) : Prop := (p.loop.accepted turn.2.latest).isSome = true

/-- Neither this turn nor one of the last half second has accepted a frame. -/
def Quiet (past : Past FcProcess Event) (p : FcProcess) (turn : ℤ × Readings) : Prop :=
  ¬ p.Accepts turn ∧
    ∀ before ∈ past, ∀ earlier ∈ before.1.turn before.2,
      before.1.Accepts earlier → cmdTimeoutNs < turn.1 - earlier.1

/-- A quiet turn enters `updateTimeStep` in LandSafely. -/
def QuietLands (past : Past FcProcess Event) (p : FcProcess) (turn : ℤ × Readings) : Prop :=
  p.Quiet past turn → (p.loop.entry turn.2).controlMode = .landSafely

end FcProcess

/-! What decides it are the frames received, those that the loop will discard among them. -/

/-- The last frame that parsed. -/
def lastHeard (received : List Reception) : Option Reception :=
  received.reverse.find? fun frame => (parseCmdFrame frame.json).isSome

/-- Every frame heard is older than the timeout: it is enough that the last one is. -/
def Unheard (received : List Reception) (now : ℤ) : Prop :=
  ∀ frame ∈ lastHeard received, ¬ steadySeconds frame.recvTime ≤ 0 →
    cmdTimeout < steadySeconds now - steadySeconds frame.recvTime

instance (received : List Reception) (now : ℤ) : Decidable (Unheard received now) :=
  inferInstanceAs (Decidable (∀ frame ∈ lastHeard received, ¬ steadySeconds frame.recvTime ≤ 0 →
    cmdTimeout < steadySeconds now - steadySeconds frame.recvTime))

/-- What the events of a run say: the frames received, and what the last turn met. -/
structure Heard where
  received : List Reception := []
  unheard : Bool := false
  sinkFailed : Bool := false

namespace Heard

def next (heard : Heard) : Event → Heard
  | .reception frame => { heard with received := heard.received ++ [frame] }
  | .tick _ late ageNow sinkOk =>
      { received := heard.received ++ late
        unheard := decide (Unheard (heard.received ++ late) ageNow)
        sinkFailed := !sinkOk }

def of (past : Past FcProcess Event) : Heard := past.foldl (fun heard turn => heard.next turn.2) {}

theorem of_append (past : Past FcProcess Event) (p : FcProcess) (event : Event) :
    of (past ++ [(p, event)]) = (of past).next event := by
  unfold of
  rw [List.foldl_append]
  rfl

end Heard

/-- A quiet turn that finds the controller outside LandSafely comes after a silence: no frame, accepted or not, was
heard within the timeout, and this turn is the first to meet that. Or the sink has just failed. -/
def QuietSilent (past : Past FcProcess Event) (p : FcProcess) (event : Event) : Prop :=
  match event with
  | .reception _ => True
  | .tick now late ageNow sinkOk =>
      p.Quiet past (now, p.readings now late ageNow sinkOk) → p.loop.controller.controlMode ≠ .landSafely →
        Unheard ((Heard.of past).received ++ late) ageNow ∧ (Heard.of past).unheard = false ∨
          sinkOk = false ∧ (Heard.of past).sinkFailed = false

/-- The mailbox stamps the last frame that parsed. -/
theorem publish_lastCmdTime (received : List Reception) : (received.foldl FcProcess.publish {}).lastCmdTime =
    (lastHeard received).elim (-1) fun frame => steadySeconds frame.recvTime := by
  induction received using List.reverseRecOn with
  | nil => rfl
  | append_singleton received frame ih =>
    unfold lastHeard at ih ⊢
    rw [List.foldl_append, List.reverse_append, List.reverse_singleton, List.singleton_append]
    change (FcProcess.publish _ frame).lastCmdTime = _
    unfold FcProcess.publish CommandServer.receive
    cases parsed : parseCmdFrame frame.json with
    | none =>
      rw [List.find?_cons_of_neg (by simp [parsed])]
      exact ih
    | some cmd =>
      rw [List.find?_cons_of_pos (by simp [parsed])]
      rfl

/-- The age that the loop reads is above the timeout exactly when nothing was heard within it. -/
theorem staleNow_iff_unheard (received : List Reception) (now : ℤ) :
    MainLoop.staleNow ((received.foldl FcProcess.publish {}).secondsSinceLastCmd (steadySeconds now)) = true ↔
      Unheard received now := by
  have never : cmdTimeout < 1000000000 := by
    obtain ⟨half, same, -, most⟩ : Within 0 1 cmdTimeout :=
      round_within isDouble_zero isDouble_one (by norm_num) (by norm_num)
    rw [same]
    exact fin_lt_fin.2 (by linarith)
  unfold MainLoop.staleNow CommandServer.secondsSinceLastCmd Unheard
  rw [publish_lastCmdTime, decide_eq_true_iff]
  cases lastHeard received with
  | none =>
    have unset : (-1 : Double) ≤ 0 := fin_le_fin.2 (by norm_num)
    rw [Option.elim_none, if_pos unset]
    exact iff_of_true never (by simp)
  | some frame =>
    change cmdTimeout < (if steadySeconds frame.recvTime ≤ 0 then 1000000000
      else steadySeconds now - steadySeconds frame.recvTime) ↔ _
    simp only [Option.mem_some_iff, forall_eq']
    by_cases unset : steadySeconds frame.recvTime ≤ 0
    · rw [if_pos unset]
      exact iff_of_true never fun set => absurd unset set
    · rw [if_neg unset, forall_prop_of_true unset]

/-- Between events, the mailbox and the latches hold what was heard. -/
structure HeardInv (past : Past FcProcess Event) (p : FcProcess) : Prop where
  server : p.server = (Heard.of past).received.foldl FcProcess.publish {}
  stale : p.loop.failsafeEngaged = (Heard.of past).unheard
  degraded : p.loop.sinkDegradedEngaged = (Heard.of past).sinkFailed

namespace HeardInv
variable {past : Past FcProcess Event} {p : FcProcess} (inv : HeardInv past p)
include inv

theorem staleNow (now : ℤ) (late : List Reception) (ageNow : ℤ) (sinkOk : Bool) :
    MainLoop.staleNow (p.readings now late ageNow sinkOk).cmdAge =
      decide (Unheard ((Heard.of past).received ++ late) ageNow) := by
  rw [Bool.eq_iff_iff, decide_eq_true_iff, ← staleNow_iff_unheard, List.foldl_append, ← inv.server]
  rfl

theorem step (event : Event) : HeardInv (past ++ [(p, event)]) (p.step event) := by
  cases event with
  | reception frame =>
    refine ⟨?_, ?_, ?_⟩
    · rw [Heard.of_append]
      change FcProcess.publish p.server frame = _
      rw [inv.server, Heard.next, List.foldl_append]
      rfl
    · rw [Heard.of_append]
      exact inv.stale
    · rw [Heard.of_append]
      exact inv.degraded
  | tick now late ageNow sinkOk =>
    refine ⟨?_, ?_, ?_⟩
    · rw [Heard.of_append]
      change p.lateServer late = _
      rw [FcProcess.lateServer, inv.server, Heard.next, List.foldl_append]
    · rw [Heard.of_append]
      exact (MainLoop.step_failsafeEngaged _ _).trans (inv.staleNow now late ageNow sinkOk)
    · rw [Heard.of_append]
      exact MainLoop.step_sinkDegradedEngaged _ _

theorem quietLands_iff (event : Event) :
    (∀ turn ∈ p.turn event, p.QuietLands past turn) ↔ QuietSilent past p event := by
  cases event with
  | reception frame => exact iff_of_true (fun turn member => absurd member (by simp [FcProcess.turn])) trivial
  | tick now late ageNow sinkOk =>
    have whole : (∀ turn ∈ p.turn (.tick now late ageNow sinkOk), p.QuietLands past turn) ↔
        p.QuietLands past (now, p.readings now late ageNow sinkOk) := by
      simp only [FcProcess.turn, Option.mem_some_iff, forall_eq']
    rw [whole]
    apply forall_congr'
    intro quiet
    have unapplied : p.loop.accepted (p.readings now late ageNow sinkOk).latest = none := by
      simpa [FcProcess.Accepts] using quiet.1
    have stale : p.loop.staleEngages (p.readings now late ageNow sinkOk) =
        (decide (Unheard ((Heard.of past).received ++ late) ageNow) && !(Heard.of past).unheard) := by
      unfold MainLoop.staleEngages
      rw [inv.staleNow, inv.stale]
    have degraded : p.loop.sinkEngages (p.readings now late ageNow sinkOk) =
        (!sinkOk && !(Heard.of past).sinkFailed) := by
      unfold MainLoop.sinkEngages
      rw [inv.degraded]
      rfl
    rw [MainLoop.entry_controlMode, stale, degraded]
    unfold MainLoop.modeAfterCmd
    rw [unapplied]
    by_cases landing : p.loop.controller.controlMode = .landSafely
    · simp [landing]
    · simp [landing, or_iff_not_imp_left]

end HeardInv

/-- A link without accepted frames lands the vehicle on exactly the runs in which every quiet turn that finds the
controller elsewhere comes after a silence, or as the sink fails. -/
theorem quietLands_always_iff (hover : HoverEnv) (tuningMismatch : Bool) (start : ℤ) (events : List Event) :
    Always FcProcess.step (fun past p event => ∀ turn ∈ p.turn event, p.QuietLands past turn) []
        (bootProcess hover tuningMismatch start) events ↔
      Always FcProcess.step QuietSilent [] (bootProcess hover tuningMismatch start) events := by
  apply Always.iff_of_invariant HeardInv (D := fun _ _ _ => True)
  · intro past p event inv _
    exact inv.quietLands_iff event
  · intro past p event inv _ _
    exact inv.step event
  · exact ⟨rfl, rfl, rfl⟩
  · exact Always.true _ _ _

/-! ## Runs that escape -/

section decidable

instance (loop : MainLoop) (r : Readings) : Decidable (loop.StaleLands r) :=
  inferInstanceAs (Decidable (MainLoop.staleNow r.cmdAge = true →
    (loop.entry r).controlMode = .landSafely ∧ (loop.step r).controller.controlMode = .landSafely))

instance (p : FcProcess) (turn : ℤ × Readings) : Decidable (p.Accepts turn) :=
  inferInstanceAs (Decidable ((p.loop.accepted turn.2.latest).isSome = true))

instance (past : Past FcProcess Event) (p : FcProcess) (turn : ℤ × Readings) :
    Decidable (p.Quiet past turn) :=
  inferInstanceAs (Decidable (¬ p.Accepts turn ∧
    ∀ before ∈ past, ∀ earlier ∈ before.1.turn before.2,
      before.1.Accepts earlier → cmdTimeoutNs < turn.1 - earlier.1))

instance (past : Past FcProcess Event) (p : FcProcess) (turn : ℤ × Readings) :
    Decidable (p.QuietLands past turn) :=
  inferInstanceAs (Decidable (p.Quiet past turn → (p.loop.entry turn.2).controlMode = .landSafely))

end decidable
end AotDrone.Fc

namespace AotDrone.Fc
open AotDrone.Lib AotDrone.Lib.Double AotDrone.Lib.Run
attribute [local instance] Binary64.binary64 Libc.strict

/-- The least a CMD payload carries. -/
def bareCmd (seq mode : Nat) : Text :=
  "\x7b\"type\":\"CMD\",\"seq\":".toList ++ Nat.toDigits 10 seq ++
    ",\"timestamp_s\":1,\"desired_mode\":".toList ++ Nat.toDigits 10 mode ++ "\x7d".toList

def milliseconds (ms : ℤ) : ℤ := ms * 1000000

/-- The first turn spends the latch; the loop stalls, and the frame found a second later is applied. -/
def stalledLoop : List Event :=
  [.tick (milliseconds 1000) [] (milliseconds 1000) true,
    .reception ⟨bareCmd 0 0, milliseconds 2000⟩,
    .tick (milliseconds 3000) [] (milliseconds 3000) true]

theorem stalled_loop_escapes :
    ¬ Always FcProcess.step (fun _ p event => ∀ turn ∈ p.turn event, p.loop.StaleLands turn.2) []
      (bootProcess ⟨0, .inl rfl⟩ false 0) stalledLoop := by
  decide +kernel

/-- One frame is accepted; its repetitions are discarded and still keep the link fresh. -/
def repeatedFrame : List Event :=
  [.reception ⟨bareCmd 5 0, milliseconds 1000⟩,
    .tick (milliseconds 1010) [] (milliseconds 1010) true,
    .reception ⟨bareCmd 5 0, milliseconds 1600⟩,
    .tick (milliseconds 1700) [] (milliseconds 1700) true]

theorem repeated_frame_keeps_link :
    ¬ Always FcProcess.step (fun past p event => ∀ turn ∈ p.turn event, p.QuietLands past turn) []
      (bootProcess ⟨0, .inl rfl⟩ false 0) repeatedFrame := by
  decide +kernel

end AotDrone.Fc
