import AotDrone.Link.CmdSeq

/-! A backend that is replaced while the flight controller keeps running. The new process numbers its frames
from the clock, the flight controller goes on from the number it applied last. -/

namespace AotDrone.Link
open AotDrone.Lib AotDrone.Lib.Double AotDrone.Lib.Run AotDrone.Backend AotDrone.Fc

/-- The backend, the mailbox its frames reach, and the loop that looks into it. -/
structure CmdLink where
  backend : SharedState
  mailbox : Option CommandFrame := none
  loop : MainLoop

inductive LinkEvent where
  /-- The backend sends a frame under the next number. -/
  | send (cmd : CommandFrame)
  /-- The loop takes a turn; what it reads of the mailbox is the mailbox. -/
  | turn (r : Readings)
  /-- A new process, or `reset`. -/
  | restart (monotonic : Double)

namespace CmdLink
variable [Fpu]

def step (link : CmdLink) : LinkEvent → CmdLink
  | .send cmd =>
    let (seq, backend) := link.backend.reserveCmdSeq none
    { link with backend, mailbox := some { cmd with seq } }
  | .turn r => { link with loop := link.loop.step { r with latest := link.mailbox } }
  | .restart monotonic => { link with backend := link.backend.reset monotonic }

/-- A backend that starts at `monotonic`, and a flight controller that has just booted. -/
def init (hover : HoverEnv) (monotonic : Double) : CmdLink where
  backend := SharedState.reset { cmdNextSeq := 0 } monotonic
  loop := boot hover

end CmdLink

/-! ## Places of the frames

The same run with numbers that do not wrap: a frame stands at the millisecond its backend started plus the
frames sent before it. -/

structure Ledger where
  origin : ℤ
  sent : Nat := 0
  restarted : Bool := false
  mail : Option ℤ := none
  applied : Option ℤ := none
  /-- The frame in the mailbox comes from a backend that replaced another, and has not been applied. -/
  awaited : Bool := false

namespace Ledger
variable [Fpu]

def record (ledger : Ledger) (turn : CmdLink × LinkEvent) : Ledger :=
  match turn.2 with
  | .send _ =>
    { ledger with mail := some (ledger.origin + ledger.sent), sent := ledger.sent + 1, awaited := ledger.restarted }
  | .turn _ =>
    if (turn.1.loop.accepted turn.1.mailbox).isSome then { ledger with applied := ledger.mail, awaited := false }
    else ledger
  | .restart monotonic =>
    { ledger with origin := SharedState.monotonicMillis monotonic, sent := 0, restarted := true, awaited := false }

def of (monotonic : Double) (past : Past CmdLink LinkEvent) : Ledger :=
  past.foldl record { origin := SharedState.monotonicMillis monotonic }

end Ledger

section restart
variable [Fpu] (start : Double)

/-- A turn that finds a frame of the new backend for the first time accepts it. -/
def NewFrameAccepted (past : Past CmdLink LinkEvent) (link : CmdLink) : LinkEvent → Prop
  | .turn _ => (Ledger.of start past).awaited = true → (link.loop.accepted link.mailbox).isSome = true
  | _ => True

/-- Such a frame stands at most half the ring further than the one applied last. -/
def NewFrameForward (past : Past CmdLink LinkEvent) (_ : CmdLink) : LinkEvent → Prop
  | .turn _ =>
    (Ledger.of start past).awaited = true →
      ∀ mail ∈ (Ledger.of start past).mail, ∀ applied ∈ (Ledger.of start past).applied, Forward (mail - applied)
  | _ => True

/-- Every number is the place of its frame on the ring. -/
structure PlacesInv (past : Past CmdLink LinkEvent) (link : CmdLink) : Prop where
  next : link.backend.cmdNextSeq = ((Ledger.of start past).origin + (Ledger.of start past).sent) % cmdSeqMod
  mail : link.mailbox.map CommandFrame.seq = (Ledger.of start past).mail.map (· % cmdSeqMod)
  applied : link.loop.lastCmdSeq = (Ledger.of start past).applied.map (· % cmdSeqMod)
  awaited : (Ledger.of start past).awaited = true → (Ledger.of start past).mail.isSome = true

variable {start} {past : Past CmdLink LinkEvent} {link : CmdLink}

theorem ledger_append (event : LinkEvent) :
    Ledger.of start (past ++ [(link, event)]) = (Ledger.of start past).record (link, event) := by
  simp only [Ledger.of, List.foldl_append, List.foldl_cons, List.foldl_nil]

theorem step_lastCmdSeq (loop : MainLoop) (r : Readings) :
    (loop.step r).lastCmdSeq = ((loop.accepted r.latest).map CommandFrame.seq).or loop.lastCmdSeq := by
  change (loop.applyLatest r.latest r.sink).lastCmdSeq = _
  unfold MainLoop.applyLatest
  cases loop.accepted r.latest <;> rfl

omit [Fpu] in
theorem accepted_mem {loop : MainLoop} {latest : Option CommandFrame} {cmd : CommandFrame}
    (accepted : loop.accepted latest = some cmd) : latest = some cmd := (Option.filter_eq_some_iff.1 accepted).1

/-- The acceptance test looks at the places alone. -/
theorem accepted_iff_forward (inv : PlacesInv start past link) {mail : ℤ}
    (known : (Ledger.of start past).mail = some mail) :
    (link.loop.accepted link.mailbox).isSome = true ↔
      ∀ applied ∈ (Ledger.of start past).applied, Forward (mail - applied) := by
  have seqs := inv.mail
  have last := inv.applied
  rw [known] at seqs
  obtain ⟨cmd, found, seq⟩ := Option.map_eq_some_iff.1 seqs
  have range := emod_range mail
  have inRange : MainLoop.seqInRange cmd = true := by
    simp only [MainLoop.seqInRange, seq, Bool.and_eq_true, decide_eq_true_eq, kCmdSeqMaxFc]
    simp only [cmdSeqMax] at range
    omega
  simp only [MainLoop.accepted, found, Option.filter_some, MainLoop.accepts, inRange, last, Bool.true_and]
  cases (Ledger.of start past).applied with
  | none => simp
  | some applied =>
    simp only [Option.map_some, seq, Option.mem_def, Option.some.injEq, forall_eq']
    rw [← forward_mod, ← fc_seqAdvances_iff]
    split_ifs with advances <;> simpa using advances

theorem newFrameAccepted_iff (inv : PlacesInv start past link) (event : LinkEvent) :
    NewFrameAccepted start past link event ↔ NewFrameForward start past link event := by
  cases event with
  | turn r =>
    apply forall_congr'
    intro awaited
    obtain ⟨mail, known⟩ := Option.isSome_iff_exists.1 (inv.awaited awaited)
    rw [accepted_iff_forward inv known, known]
    simp
  | send cmd | restart monotonic => rfl

theorem placesInv_step (inv : PlacesInv start past link) (event : LinkEvent) :
    PlacesInv start (past ++ [(link, event)]) (link.step event) := by
  obtain ⟨next, mail, applied, awaited⟩ := inv
  cases event with
  | send cmd =>
    refine ⟨?_, ?_, ?_, ?_⟩ <;> rw [ledger_append]
    · change nextSeq link.backend.cmdNextSeq =
        ((Ledger.of start past).origin + ((Ledger.of start past).sent + 1 : ℕ)) % cmdSeqMod
      rw [next, nextSeq_emod, add_assoc]
      rfl
    · exact congrArg some next
    · exact applied
    · intro _
      rfl
  | turn r =>
    have last := step_lastCmdSeq link.loop { r with latest := link.mailbox }
    change (link.step (.turn r)).loop.lastCmdSeq = ((link.loop.accepted link.mailbox).map _).or _ at last
    cases accepts : link.loop.accepted link.mailbox with
    | none =>
      have kept : (Ledger.of start past).record (link, .turn r) = Ledger.of start past := by
        simp [Ledger.record, accepts]
      rw [accepts] at last
      refine ⟨?_, ?_, ?_, ?_⟩ <;> rw [ledger_append, kept]
      · exact next
      · exact mail
      · exact last.trans applied
      · exact awaited
    | some cmd =>
      have moved : (Ledger.of start past).record (link, .turn r) =
          { Ledger.of start past with applied := (Ledger.of start past).mail, awaited := false } := by
        simp [Ledger.record, accepts]
      rw [accepts] at last
      refine ⟨?_, ?_, ?_, ?_⟩ <;> rw [ledger_append, moved]
      · exact next
      · exact mail
      · rw [accepted_mem accepts] at mail
        exact last.trans mail
      · rintro ⟨⟩
  | restart monotonic =>
    refine ⟨?_, ?_, ?_, ?_⟩ <;> rw [ledger_append]
    · change SharedState.monotonicMillis monotonic % cmdSeqMod =
        (SharedState.monotonicMillis monotonic + (0 : ℕ)) % cmdSeqMod
      rw [Nat.cast_zero, add_zero]
    · exact mail
    · exact applied
    · rintro ⟨⟩

/-- A flight controller that keeps running accepts every frame of a new backend in exactly the runs in which
each such frame it looks at stands at most half the ring ahead of the frame it applied last. -/
theorem newFramesAccepted_always_iff (hover : HoverEnv) (start : Double) (events : List LinkEvent) :
    Always CmdLink.step (NewFrameAccepted start) [] (CmdLink.init hover start) events ↔
      Always CmdLink.step (NewFrameForward start) [] (CmdLink.init hover start) events := by
  apply Always.iff_of_invariant (PlacesInv start) (D := fun _ _ _ => True)
  · intro past link event inv _
    exact newFrameAccepted_iff inv event
  · intro past link event inv _ _
    exact placesInv_step inv event
  · refine ⟨?_, rfl, rfl, by rintro ⟨⟩⟩
    change SharedState.monotonicMillis start % cmdSeqMod = (SharedState.monotonicMillis start + (0 : ℕ)) % cmdSeqMod
    rw [Nat.cast_zero, add_zero]
  · exact Always.true _ _ _

end restart

section rational
attribute [local instance] exact

theorem monotonicMillis_eq {t : ℚ} (nonneg : 0 ≤ t) : SharedState.monotonicMillis (fin t) = ⌊t * 1000⌋ :=
  truncate_fin_of_nonneg (mul_nonneg nonneg (by norm_num))

/-- No frame of the old backend stands further than the clock, and the first frame of the new one is accepted
where the old backend has run for at most 2^30 milliseconds, twelve days. -/
theorem firstFrame_forward {start stop : ℚ} (nonneg : 0 ≤ start) {sent applied : Nat} (sentBefore : applied < sent)
    (rate : (sent : ℚ) ≤ 1000 * (stop - start)) :
    let distance := SharedState.monotonicMillis (fin stop) - (SharedState.monotonicMillis (fin start) + applied)
    0 < distance ∧ (distance ≤ 2 ^ 30 → Forward distance) := by
  have later : 0 ≤ stop := by
    have : (0 : ℚ) ≤ sent := Nat.cast_nonneg _
    linarith
  intro distance
  have positive : 0 < distance := by
    simp only [distance, monotonicMillis_eq nonneg, monotonicMillis_eq later]
    have reached : ⌊start * 1000⌋ + sent ≤ ⌊stop * 1000⌋ := by
      rw [← Int.floor_add_natCast]
      apply Int.floor_le_floor
      linarith
    omega
  refine ⟨positive, ?_⟩
  intro short
  unfold Forward cmdSeqHalf cmdSeqMod cmdSeqMax
  omega

end rational

section hardware
attribute [local instance] Binary64.binary64

/-- A turn with a fresh link and a healthy sink; `latest` is read from the mailbox. -/
def anyTurn : Readings where
  dt := 0.02
  latest := none
  cmdAge := 0.01
  sink := { ok := true, tuningMismatch := false }

instance (start : Double) (past : Past CmdLink LinkEvent) (link : CmdLink) (event : LinkEvent) :
    Decidable (NewFrameAccepted start past link event) :=
  match event with
  | .turn _ => inferInstanceAs (Decidable (_ → _))
  | .send _ | .restart _ => .isTrue trivial

/-- A backend that starts with the clock is replaced after 1073742 seconds, twelve and a half days. -/
theorem restart_after_half_ring_refused :
    ¬ Always CmdLink.step (NewFrameAccepted 0) [] (CmdLink.init ⟨0, .inl rfl⟩ 0)
      [.send { desiredMode := 0 }, .turn anyTurn, .restart 1073742, .send { desiredMode := 0 }, .turn anyTurn] := by
  decide +kernel

end hardware
end AotDrone.Link
