import AotDrone.Backend.State
import AotDrone.Fc.LoopFacts
import AotDrone.Lib.Binary64

/-! The sequence numbers the backend reserves against the test the flight controller puts them to. -/

namespace AotDrone.Link
open AotDrone.Lib AotDrone.Lib.Double AotDrone.Lib.Run AotDrone.Backend AotDrone.Fc

/-! ## Numbers on the ring -/

/-- A step around the ring that the comparators take for one ahead. -/
def Forward (distance : ℤ) : Prop := 0 < distance % cmdSeqMod ∧ distance % cmdSeqMod ≤ cmdSeqHalf

instance (distance : ℤ) : Decidable (Forward distance) := inferInstanceAs (Decidable (_ ∧ _))

theorem backend_seqAdvances_iff (prev candidate : ℤ) :
    Backend.seqAdvances prev candidate = true ↔ Forward (candidate - prev) := by
  simp only [Backend.seqAdvances, Forward, Bool.and_eq_true, decide_eq_true_eq]

/-- The 32-bit comparator of the flight controller is the comparator of the backend. -/
theorem fc_seqAdvances_iff (prev candidate : ℤ) :
    Fc.seqAdvances prev candidate = true ↔ Forward (candidate - prev) := by
  have masked : ((candidate - prev) % 2 ^ 32).toNat &&& (kCmdSeqMod - 1) =
      ((candidate - prev) % cmdSeqMod).toNat := by
    rw [kCmdSeqMod, Nat.and_two_pow_sub_one_eq_mod]
    simp only [cmdSeqMod, cmdSeqMax]
    omega
  simp only [Fc.seqAdvances, masked, Forward, Bool.and_eq_true, decide_eq_true_eq, kCmdSeqHalf]
  have nonneg : 0 ≤ (candidate - prev) % cmdSeqMod := Int.emod_nonneg _ (by decide)
  have half : cmdSeqHalf = 2 ^ 30 := by decide
  omega

/-- Only the places of the numbers on the ring matter. -/
theorem forward_mod (prev candidate : ℤ) :
    Forward (candidate % cmdSeqMod - prev % cmdSeqMod) ↔ Forward (candidate - prev) := by
  unfold Forward
  rw [Int.emod_sub_emod, Int.sub_emod_emod]

/-! ## Reserving numbers -/

/-- The calls that touch the counter. -/
inductive SeqCall where
  | reserve (minimum : Option ℤ)
  | ensureMinimum (minimum : ℤ)

namespace SeqCall

def apply (state : SharedState) : SeqCall → SharedState
  | reserve minimum => (state.reserveCmdSeq minimum).2
  | ensureMinimum minimum => state.ensureCmdSeqMinimum minimum

/-- The number a call returns. -/
def number (state : SharedState) : SeqCall → Option ℤ
  | reserve minimum => some (state.reserveCmdSeq minimum).1
  | ensureMinimum _ => none

def minimum : SeqCall → Option ℤ
  | reserve minimum => minimum
  | ensureMinimum minimum => some minimum

/-- How far the minimum of a call moves the counter before a number is taken. -/
def jump (state : SharedState) (call : SeqCall) : ℤ :=
  call.minimum.elim 0 fun minimum =>
    let distance := (clampedMinimum minimum - state.cmdNextSeq) % cmdSeqMod
    if distance ≤ cmdSeqHalf then distance else 0

end SeqCall

/-- The number returned last. -/
def lastNumber (past : Past SharedState SeqCall) : Option ℤ :=
  past.foldl (fun last turn => (turn.2.number turn.1).or last) none

/-- How far minima have moved the counter since that number. -/
def moved (past : Past SharedState SeqCall) : ℤ :=
  past.foldl (fun sum turn => if (turn.2.number turn.1).isSome then 0 else sum + turn.2.jump turn.1) 0

/-- A number that is returned is in range, and the flight controller takes it after the one before. -/
def NumberAdvances (past : Past SharedState SeqCall) (state : SharedState) (call : SeqCall) : Prop :=
  ∀ number ∈ call.number state, (0 ≤ number ∧ number ≤ cmdSeqMax) ∧
    ∀ last ∈ lastNumber past, Fc.seqAdvances last number = true

/-- The minima since the last number, this call's among them, leave the next one within half the ring. -/
def MinimaForward (past : Past SharedState SeqCall) (state : SharedState) (call : SeqCall) : Prop :=
  (call.number state).isSome = true → (lastNumber past).isSome = true → Forward (1 + moved past + call.jump state)

def CounterInRange (state : SharedState) : Prop := 0 ≤ state.cmdNextSeq ∧ state.cmdNextSeq ≤ cmdSeqMax

/-- The counter stands one past the last number and as much further as minima have moved it. -/
def CounterInv (past : Past SharedState SeqCall) (state : SharedState) : Prop :=
  CounterInRange state ∧ ∀ last ∈ lastNumber past, state.cmdNextSeq = (last + 1 + moved past) % cmdSeqMod

section counter
variable {past : Past SharedState SeqCall} {state : SharedState}

theorem clampedMinimum_range (minimum : ℤ) : 0 ≤ clampedMinimum minimum ∧ clampedMinimum minimum ≤ cmdSeqMax := by
  unfold clampedMinimum cmdSeqMax
  omega

/-- Where a minimum leaves the counter. -/
theorem caughtUp_eq (inRange : CounterInRange state) (minimum : ℤ) :
    state.caughtUp minimum = (state.cmdNextSeq + (SeqCall.ensureMinimum minimum).jump state) % cmdSeqMod := by
  have clamped := clampedMinimum_range minimum
  have advances := backend_seqAdvances_iff state.cmdNextSeq (clampedMinimum minimum)
  unfold CounterInRange at inRange
  unfold Forward at advances
  change (if Backend.seqAdvances state.cmdNextSeq (clampedMinimum minimum) then clampedMinimum minimum
      else state.cmdNextSeq) =
    (state.cmdNextSeq + if (clampedMinimum minimum - state.cmdNextSeq) % cmdSeqMod ≤ cmdSeqHalf then
      (clampedMinimum minimum - state.cmdNextSeq) % cmdSeqMod else 0) % cmdSeqMod
  generalize clampedMinimum minimum = clamped at *
  rw [if_congr advances rfl rfl]
  simp only [cmdSeqHalf, cmdSeqMod, cmdSeqMax] at *
  split_ifs <;> omega

theorem reserve_eq (inRange : CounterInRange state) (minimum : Option ℤ) :
    (state.reserveCmdSeq minimum).1 = (state.cmdNextSeq + (SeqCall.reserve minimum).jump state) % cmdSeqMod := by
  cases minimum with
  | none =>
    unfold CounterInRange cmdSeqMax at inRange
    change state.cmdNextSeq = (state.cmdNextSeq + 0) % cmdSeqMod
    simp only [cmdSeqMod, cmdSeqMax]
    omega
  | some minimum => exact caughtUp_eq inRange minimum

theorem emod_range (n : ℤ) : 0 ≤ n % cmdSeqMod ∧ n % cmdSeqMod ≤ cmdSeqMax := by
  unfold cmdSeqMod cmdSeqMax
  omega

/-- A call takes the counter to the number it returns and one further, or only moves it. -/
theorem apply_next (inRange : CounterInRange state) (call : SeqCall) :
    (call.apply state).cmdNextSeq =
      (state.cmdNextSeq + call.jump state + if (call.number state).isSome then 1 else 0) % cmdSeqMod := by
  cases call with
  | reserve minimum =>
    change nextSeq (state.reserveCmdSeq minimum).1 = _
    rw [reserve_eq inRange, nextSeq_emod]
    rfl
  | ensureMinimum minimum =>
    change state.caughtUp minimum = (_ + 0) % cmdSeqMod
    rw [caughtUp_eq inRange, add_zero]

theorem lastNumber_append (call : SeqCall) :
    lastNumber (past ++ [(state, call)]) = (call.number state).or (lastNumber past) := by
  simp only [lastNumber, List.foldl_append, List.foldl_cons, List.foldl_nil]

theorem moved_append (call : SeqCall) :
    moved (past ++ [(state, call)]) =
      if (call.number state).isSome then 0 else moved past + call.jump state := by
  simp only [moved, List.foldl_append, List.foldl_cons, List.foldl_nil]

theorem numberAdvances_iff (inv : CounterInv past state) (call : SeqCall) :
    NumberAdvances past state call ↔ MinimaForward past state call := by
  obtain ⟨inRange, counts⟩ := inv
  unfold NumberAdvances MinimaForward
  cases call with
  | ensureMinimum minimum => simp [SeqCall.number]
  | reserve minimum =>
    simp only [SeqCall.number, Option.mem_def, Option.some.injEq, forall_eq', Option.isSome_some, forall_const,
      reserve_eq inRange, emod_range, true_and, and_self]
    cases known : lastNumber past with
    | none => simp
    | some last =>
      have distance : last + 1 + moved past + (SeqCall.reserve minimum).jump state - last =
          1 + moved past + (SeqCall.reserve minimum).jump state := by ring
      simp only [Option.some.injEq, forall_eq', Option.isSome_some, forall_const, fc_seqAdvances_iff,
        counts last known, Forward, Int.emod_add_emod, Int.emod_sub_emod, distance]

theorem counterInv_step (inv : CounterInv past state) (call : SeqCall) :
    CounterInv (past ++ [(state, call)]) (call.apply state) := by
  obtain ⟨inRange, counts⟩ := inv
  have next := apply_next inRange call
  refine ⟨by rw [CounterInRange, next]; exact emod_range _, ?_⟩
  rw [lastNumber_append, moved_append, next]
  cases call with
  | reserve minimum =>
    simp only [SeqCall.number, Option.some_or, Option.mem_def, Option.some.injEq, forall_eq', Option.isSome_some,
      ↓reduceIte, reserve_eq inRange, add_zero, Int.emod_add_emod]
  | ensureMinimum minimum =>
    simp only [SeqCall.number, Option.none_or, Option.isSome_none, Bool.false_eq_true, ↓reduceIte, add_zero]
    intro last known
    rw [counts last known, Int.emod_add_emod]
    ring_nf

end counter

/-- Every number follows the one before for the flight controller along exactly the sequences of calls whose
minima never leave the next number more than half the ring ahead. -/
theorem numberAdvances_always_iff (cmdNextSeq : ℤ) (inRange : 0 ≤ cmdNextSeq ∧ cmdNextSeq ≤ cmdSeqMax)
    (calls : List SeqCall) :
    Always (fun state call => SeqCall.apply state call) NumberAdvances [] { cmdNextSeq } calls ↔
      Always (fun state call => SeqCall.apply state call) MinimaForward [] { cmdNextSeq } calls := by
  apply Always.iff_of_invariant CounterInv (D := fun _ _ _ => True)
  · intro past state call inv _
    exact numberAdvances_iff inv call
  · intro past state call inv _ _
    exact counterInv_step inv call
  · refine ⟨inRange, ?_⟩
    intro last known
    cases known
  · exact Always.true _ _ _

instance (past : Past SharedState SeqCall) (state : SharedState) (call : SeqCall) :
    Decidable (NumberAdvances past state call) :=
  inferInstanceAs (Decidable (∀ number ∈ call.number state, (0 ≤ number ∧ number ≤ cmdSeqMax) ∧
    ∀ last ∈ lastNumber past, Fc.seqAdvances last number = true))

instance (past : Past SharedState SeqCall) (state : SharedState) (call : SeqCall) :
    Decidable (MinimaForward past state call) :=
  inferInstanceAs (Decidable ((call.number state).isSome = true → (lastNumber past).isSome = true →
    Forward (1 + moved past + call.jump state)))

/-- A minimum half the ring ahead of the counter is one too far ahead of the last number. -/
theorem minimum_half_ahead_refused :
    ¬ Always (fun state call => SeqCall.apply state call) NumberAdvances [] { cmdNextSeq := 0 }
      [.reserve none, .reserve (some (2 ^ 30 + 1))] := by
  decide +kernel

theorem minimum_short_of_half_taken :
    Always (fun state call => SeqCall.apply state call) NumberAdvances [] { cmdNextSeq := 0 }
      [.reserve none, .ensureMinimum 7, .reserve (some (2 ^ 30))] :=
  (numberAdvances_always_iff 0 (by decide) _).2 (by decide +kernel)

end AotDrone.Link
