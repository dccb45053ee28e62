import AotDrone.Link.Restart

/-! What it means that one number is ahead of another: the backend gets there from it, one reservation at a time, within
half the ring. -/

namespace AotDrone.Link
open AotDrone.Lib AotDrone.Lib.Double AotDrone.Lib.Run AotDrone.Backend AotDrone.Fc

/-! ## The comparator on machine words -/

/-- `seq_advances` as it is compiled: the operands are `int32_t`, the difference is reinterpreted as `uint32_t`. -/
def seqAdvancesWord (prev candidate : BitVec 32) : Bool :=
  let diff := (candidate - prev) &&& (BitVec.ofNat 32 kCmdSeqMod - 1)
  decide (0 < diff) && decide (diff ≤ BitVec.ofNat 32 kCmdSeqHalf)

section words
variable {prev candidate : ℤ}

theorem toInt_word {n : ℤ} (inRange : 0 ≤ n ∧ n ≤ cmdSeqMax) : (BitVec.ofInt 32 n).toInt = n := by
  unfold cmdSeqMax at inRange
  exact BitVec.toInt_ofInt_eq_self (by decide) (by omega) (by omega)

theorem word_no_overflow (prevIn : 0 ≤ prev ∧ prev ≤ cmdSeqMax) (candidateIn : 0 ≤ candidate ∧ candidate ≤ cmdSeqMax) :
    (BitVec.ofInt 32 candidate).ssubOverflow (BitVec.ofInt 32 prev) = false := by
  unfold BitVec.ssubOverflow
  rw [toInt_word prevIn, toInt_word candidateIn]
  unfold cmdSeqMax at prevIn candidateIn
  rw [Bool.or_eq_false_iff, decide_eq_false_iff_not, decide_eq_false_iff_not]
  omega

/-- The masked word is the remainder. -/
theorem word_diff (prev candidate : ℤ) :
    ((BitVec.ofInt 32 candidate - BitVec.ofInt 32 prev) &&& (BitVec.ofNat 32 kCmdSeqMod - 1)).toNat =
      ((candidate - prev) % cmdSeqMod).toNat := by
  have mask : (BitVec.ofNat 32 kCmdSeqMod - 1).toNat = 2 ^ 31 - 1 := by decide
  have word : (BitVec.ofInt 32 candidate - BitVec.ofInt 32 prev).toNat = ((candidate - prev) % 2 ^ 32).toNat := by
    rw [BitVec.sub_eq_add_neg, ← BitVec.ofInt_neg, ← BitVec.ofInt_add, BitVec.toNat_ofInt, ← sub_eq_add_neg]
    rfl
  rw [BitVec.toNat_and, mask, word, Nat.and_two_pow_sub_one_eq_mod]
  simp only [cmdSeqMod, cmdSeqMax]
  omega

theorem seqAdvancesWord_iff (prev candidate : ℤ) :
    seqAdvancesWord (BitVec.ofInt 32 prev) (BitVec.ofInt 32 candidate) = true ↔ Forward (candidate - prev) := by
  have half : (BitVec.ofNat 32 kCmdSeqHalf).toNat = 2 ^ 30 := by decide
  have zero : (0 : BitVec 32).toNat = 0 := by decide
  have nonneg : 0 ≤ (candidate - prev) % cmdSeqMod := Int.emod_nonneg _ (by decide)
  have halfway : cmdSeqHalf = 2 ^ 30 := by decide
  unfold seqAdvancesWord Forward
  dsimp only
  rw [Bool.and_eq_true, decide_eq_true_eq, decide_eq_true_eq, BitVec.lt_def, BitVec.le_def, word_diff, half, zero,
    halfway]
  omega

/-- In range the 32-bit subtraction does not overflow, and the comparators agree. -/
theorem comparators_agree (prevIn : 0 ≤ prev ∧ prev ≤ cmdSeqMax) (candidateIn : 0 ≤ candidate ∧ candidate ≤ cmdSeqMax) :
    (BitVec.ofInt 32 candidate).ssubOverflow (BitVec.ofInt 32 prev) = false ∧
      seqAdvancesWord (BitVec.ofInt 32 prev) (BitVec.ofInt 32 candidate) = Backend.seqAdvances prev candidate := by
  refine ⟨word_no_overflow prevIn candidateIn, ?_⟩
  rw [Bool.eq_iff_iff, seqAdvancesWord_iff, backend_seqAdvances_iff]

/-- Across the wrap. -/
theorem comparators_agree_at_wrap :
    (BitVec.ofInt 32 0).ssubOverflow (BitVec.ofInt 32 cmdSeqMax) = false ∧
      seqAdvancesWord (BitVec.ofInt 32 cmdSeqMax) (BitVec.ofInt 32 0) = Backend.seqAdvances cmdSeqMax 0 :=
  comparators_agree (by decide) (by decide)

end words

/-! ## Reservations -/

theorem reserve_nextSeq (state : SharedState) :
    (state.reserveCmdSeq none).1 = state.cmdNextSeq ∧
      (state.reserveCmdSeq none).2.cmdNextSeq = nextSeq state.cmdNextSeq := ⟨rfl, rfl⟩

section reservations
variable {seq : ℤ}

theorem nextSeq_iterate (inRange : 0 ≤ seq ∧ seq ≤ cmdSeqMax) (k : Nat) : nextSeq^[k] seq = (seq + k) % cmdSeqMod := by
  unfold cmdSeqMax at inRange
  induction k with
  | zero =>
    simp only [Function.iterate_zero, id, cmdSeqMod, cmdSeqMax]
    omega
  | succ k ih =>
    rw [Function.iterate_succ_apply', ih, nextSeq_emod, add_assoc]
    rfl

theorem nextSeq_iterate_range (inRange : 0 ≤ seq ∧ seq ≤ cmdSeqMax) (k : Nat) :
    0 ≤ nextSeq^[k] seq ∧ nextSeq^[k] seq ≤ cmdSeqMax := by
  rw [nextSeq_iterate inRange]
  exact emod_range _

/-- A number is ahead of another when at most half the ring of reservations leads to it. -/
theorem forward_iff_reserved {prev candidate : ℤ} (prevIn : 0 ≤ prev ∧ prev ≤ cmdSeqMax)
    (candidateIn : 0 ≤ candidate ∧ candidate ≤ cmdSeqMax) :
    Forward (candidate - prev) ↔ ∃ k : Nat, 1 ≤ k ∧ k ≤ 2 ^ 30 ∧ candidate = nextSeq^[k] prev := by
  unfold Forward
  constructor
  · rintro ⟨positive, within⟩
    refine ⟨((candidate - prev) % cmdSeqMod).toNat, ?_, ?_, ?_⟩
    · omega
    · simp only [cmdSeqHalf, cmdSeqMod, cmdSeqMax] at within ⊢
      omega
    · rw [nextSeq_iterate prevIn, Int.toNat_of_nonneg positive.le, Int.add_emod_emod]
      simp only [cmdSeqMod, cmdSeqMax] at candidateIn ⊢
      omega
  · rintro ⟨k, positive, within, reached⟩
    rw [reached, nextSeq_iterate prevIn, Int.emod_sub_emod]
    simp only [cmdSeqHalf, cmdSeqMod, cmdSeqMax]
    omega

/-- Later numbers of a stretch of at most half the ring are ahead of earlier ones. -/
theorem forward_between (inRange : 0 ≤ seq ∧ seq ≤ cmdSeqMax) {j k : Nat} (later : j < k) (within : k ≤ 2 ^ 30) :
    Forward (nextSeq^[k] seq - nextSeq^[j] seq) := by
  rw [nextSeq_iterate inRange, nextSeq_iterate inRange, forward_mod]
  unfold Forward
  simp only [cmdSeqHalf, cmdSeqMod, cmdSeqMax]
  omega

/-- A number is not ahead of one that up to `2 ^ 30 - 1` reservations lead to. -/
theorem not_forward_back (inRange : 0 ≤ seq ∧ seq ≤ cmdSeqMax) {k : Nat} (within : k < 2 ^ 30) :
    ¬ Forward (seq - nextSeq^[k] seq) := by
  rw [nextSeq_iterate inRange]
  unfold Forward
  simp only [cmdSeqHalf, cmdSeqMod, cmdSeqMax] at inRange ⊢
  omega

end reservations

/-! ## What the flight controller applies -/

/-- A turn of the loop whose mailbox holds the frame of a reservation, counted from the frame applied last. -/
structure Delivery where
  reservation : Nat
  readings : Readings

section deliveries
variable [Fpu] {seq : ℤ}

omit [Fpu] in
theorem accepted_seqAdvances_iff {loop : MainLoop} {last : ℤ} (applied : loop.lastCmdSeq = some last)
    {cmd : CommandFrame} (inRange : 0 ≤ cmd.seq ∧ cmd.seq ≤ cmdSeqMax) :
    (loop.accepted (some cmd)).isSome = true ↔ Forward (cmd.seq - last) := by
  have known : MainLoop.seqInRange cmd = true := by
    have most : kCmdSeqMaxFc = cmdSeqMax := by decide
    rw [MainLoop.seqInRange, most, Bool.and_eq_true, decide_eq_true_eq, decide_eq_true_eq]
    exact inRange
  have accepts : loop.accepts cmd = Fc.seqAdvances last cmd.seq := by
    rw [MainLoop.accepts, known, applied]
    rfl
  rw [← fc_seqAdvances_iff, MainLoop.accepted, Option.filter_some, accepts]
  cases Fc.seqAdvances last cmd.seq <;> simp

/-- A turn applies the frame in the mailbox. -/
def Applies (loop : MainLoop) (delivery : Delivery) : Prop :=
  (loop.accepted delivery.readings.latest).isSome = true

/-- The frame is in the mailbox, and its reservation is at most half the ring ahead. -/
def Delivers (seq : ℤ) (delivery : Delivery) : Prop :=
  delivery.reservation ≤ 2 ^ 30 ∧
    ∃ cmd, delivery.readings.latest = some cmd ∧ cmd.seq = nextSeq^[delivery.reservation] seq

omit [Fpu] in
theorem delivered_iff (inRange : 0 ≤ seq ∧ seq ≤ cmdSeqMax) {loop : MainLoop} {last : Nat}
    (applied : loop.lastCmdSeq = some (nextSeq^[last] seq)) {delivery : Delivery} (delivers : Delivers seq delivery)
    (later : last ≤ delivery.reservation) : Applies loop delivery ↔ last < delivery.reservation := by
  obtain ⟨within, cmd, mailbox, number⟩ := delivers
  have cmdIn : 0 ≤ cmd.seq ∧ cmd.seq ≤ cmdSeqMax := by
    rw [number]
    exact nextSeq_iterate_range inRange _
  unfold Applies
  rw [mailbox, accepted_seqAdvances_iff applied cmdIn, number]
  rcases later.lt_or_eq with ahead | same
  · exact iff_of_true (forward_between inRange ahead within) ahead
  · rw [same, sub_self]
    exact iff_of_false (by decide) (lt_irrefl _)

/-- The last frame applied stays the latest of those delivered. -/
theorem step_applied (inRange : 0 ≤ seq ∧ seq ≤ cmdSeqMax) {loop : MainLoop} {last : Nat}
    (applied : loop.lastCmdSeq = some (nextSeq^[last] seq)) {delivery : Delivery} (delivers : Delivers seq delivery)
    (later : last ≤ delivery.reservation) :
    (loop.step delivery.readings).lastCmdSeq = some (nextSeq^[delivery.reservation] seq) := by
  have known := delivered_iff inRange applied delivers later
  obtain ⟨-, cmd, mailbox, number⟩ := delivers
  unfold Applies at known
  rw [step_lastCmdSeq, applied]
  rw [mailbox] at known ⊢
  rcases later.lt_or_eq with ahead | same
  · obtain ⟨taken, accepted⟩ := Option.isSome_iff_exists.1 (known.2 ahead)
    have own : some cmd = some taken := accepted_mem accepted
    cases own
    rw [accepted, ← number]
    rfl
  · have refused : loop.accepted (some cmd) = none := by
      rw [← Option.not_isSome_iff_eq_none, known]
      exact same.not_lt
    rw [refused, same]
    rfl

/-- Frames that are delivered in the order of their reservations are applied when they are first seen. -/
theorem deliveries_applied (inRange : 0 ≤ seq ∧ seq ≤ cmdSeqMax) {loop : MainLoop} {last : Nat}
    (applied : loop.lastCmdSeq = some (nextSeq^[last] seq)) {deliveries : List Delivery}
    (delivers : ∀ delivery ∈ deliveries, Delivers seq delivery)
    (later : ∀ delivery ∈ deliveries, last ≤ delivery.reservation)
    (order : deliveries.Pairwise fun first second => first.reservation ≤ second.reservation)
    (past : Past MainLoop Delivery) (seen : ∀ reservation, (∀ turn ∈ past, turn.2.reservation < reservation) ∧
      0 < reservation ↔ last < reservation) :
    Always (fun loop delivery => loop.step delivery.readings) (fun past loop delivery => Applies loop delivery ↔
      (∀ turn ∈ past, turn.2.reservation < delivery.reservation) ∧ 0 < delivery.reservation) past loop deliveries := by
  induction deliveries generalizing last loop past with
  | nil => trivial
  | cons delivery deliveries ih =>
    rw [List.forall_mem_cons] at delivers later
    rw [List.pairwise_cons] at order
    refine ⟨?_, ?_⟩
    · dsimp only
      rw [seen]
      exact delivered_iff inRange applied delivers.1 later.1
    · apply ih (step_applied inRange applied delivers.1 later.1) delivers.2 order.1 order.2
      intro reservation
      rw [List.forall_mem_append, List.forall_mem_singleton, and_right_comm, seen]
      have least := later.1
      dsimp only
      omega

/-- A number is ahead of another exactly when the backend comes from the other to it in at most half the ring of
reservations. Of frames that are delivered in the order of their reservations, however many are lost, the flight
controller applies each when it first sees it, and it refuses every frame of the `2 ^ 30 - 1` reservations before the
last one. -/
theorem ahead_iff_reserved :
    (∀ state : SharedState, (state.reserveCmdSeq none).2.cmdNextSeq = nextSeq (state.reserveCmdSeq none).1) ∧
    (∀ prev candidate, (0 ≤ prev ∧ prev ≤ cmdSeqMax) → (0 ≤ candidate ∧ candidate ≤ cmdSeqMax) →
      (Fc.seqAdvances prev candidate = true ↔ ∃ k : Nat, 1 ≤ k ∧ k ≤ 2 ^ 30 ∧ candidate = nextSeq^[k] prev)) ∧
    (∀ (loop : MainLoop) seq (deliveries : List Delivery), (0 ≤ seq ∧ seq ≤ cmdSeqMax) → loop.lastCmdSeq = some seq →
      (∀ delivery ∈ deliveries, Delivers seq delivery) →
      (deliveries.Pairwise fun first second => first.reservation ≤ second.reservation) →
      Always (fun loop delivery => loop.step delivery.readings) (fun past loop delivery => Applies loop delivery ↔
        (∀ turn ∈ past, turn.2.reservation < delivery.reservation) ∧ 0 < delivery.reservation) [] loop deliveries) ∧
    (∀ (loop : MainLoop) (cmd : CommandFrame) (k : Nat), (0 ≤ cmd.seq ∧ cmd.seq ≤ cmdSeqMax) → k < 2 ^ 30 →
      loop.lastCmdSeq = some (nextSeq^[k] cmd.seq) → loop.accepted (some cmd) = none) := by
  refine ⟨fun state => (reserve_nextSeq state).2, ?_, ?_, ?_⟩
  · intro prev candidate prevIn candidateIn
    rw [fc_seqAdvances_iff]
    exact forward_iff_reserved prevIn candidateIn
  · intro loop seq deliveries inRange applied delivers order
    apply deliveries_applied inRange applied delivers (fun _ _ => Nat.zero_le _) order
    intro reservation
    simp
  · intro loop cmd k inRange within applied
    rw [← Option.not_isSome_iff_eq_none, accepted_seqAdvances_iff applied inRange]
    exact not_forward_back inRange within

end deliveries

section rational
attribute [local instance] exact

def numbered (seq : ℤ) : Readings where
  dt := 0
  latest := some { seq }
  cmdAge := 0
  sink := { ok := true, tuningMismatch := false }

/-- Two frames across the wrap, the first seen twice, and a frame between them lost. -/
theorem ahead_iff_reserved_at_wrap :
    Always (fun loop (delivery : Delivery) => loop.step delivery.readings) (fun past loop delivery =>
        Applies loop delivery ↔
          (∀ turn ∈ past, turn.2.reservation < delivery.reservation) ∧ 0 < delivery.reservation) []
      { controller := FlightController.init, lastCmdSeq := some cmdSeqMax }
      [⟨1, numbered 0⟩, ⟨1, numbered 0⟩, ⟨3, numbered 2⟩] := by
  apply ahead_iff_reserved.2.2.1 _ cmdSeqMax _ (by decide) rfl
  · simp only [List.forall_mem_cons, List.not_mem_nil, false_imp_iff, implies_true, and_true]
    exact ⟨⟨by decide, _, rfl, rfl⟩, ⟨by decide, _, rfl, rfl⟩, ⟨by decide, _, rfl, rfl⟩⟩
  · simp

end rational

/-! ## Minima below the range -/

/-- A minimum below 0 is taken for 0, which is ahead of the upper half of the ring. It leaves the counter alone exactly
in the lower half. -/
theorem negative_minimum_iff {state : SharedState} (inRange : CounterInRange state) {minimum : ℤ}
    (negative : minimum < 0) :
    (state.ensureCmdSeqMinimum minimum = state ∧ state.reserveCmdSeq (some minimum) = state.reserveCmdSeq none) ↔
      state.cmdNextSeq < 2 ^ 30 := by
  have clamped : clampedMinimum minimum = 0 := by
    unfold clampedMinimum cmdSeqMax
    omega
  have ahead : Backend.seqAdvances state.cmdNextSeq 0 = true ↔ ¬ state.cmdNextSeq < 2 ^ 30 := by
    rw [backend_seqAdvances_iff, Forward]
    simp only [CounterInRange, cmdSeqHalf, cmdSeqMod, cmdSeqMax] at inRange ⊢
    omega
  have ensured : (state.ensureCmdSeqMinimum minimum).cmdNextSeq =
      if Backend.seqAdvances state.cmdNextSeq 0 then 0 else state.cmdNextSeq := by
    change state.caughtUp minimum = _
    unfold SharedState.caughtUp
    rw [clamped]
  constructor
  · rintro ⟨kept, -⟩
    by_contra upper
    have zero := congrArg SharedState.cmdNextSeq kept
    rw [ensured, if_pos (ahead.2 upper)] at zero
    omega
  · intro lower
    have behind : Backend.seqAdvances state.cmdNextSeq 0 = false := by
      rw [← Bool.not_eq_true, ahead]
      exact not_not_intro lower
    rw [behind, if_neg Bool.false_ne_true] at ensured
    have still : state.caughtUp minimum = state.cmdNextSeq := ensured
    refine ⟨?_, ?_⟩
    · unfold SharedState.ensureCmdSeqMinimum
      rw [still]
    · unfold SharedState.reserveCmdSeq
      rw [Option.elim_some, still]
      rfl

theorem negative_minimum_at_five :
    (SharedState.ensureCmdSeqMinimum { cmdNextSeq := 5 } (-1) = { cmdNextSeq := 5 } ∧
        SharedState.reserveCmdSeq { cmdNextSeq := 5 } (some (-1)) = SharedState.reserveCmdSeq { cmdNextSeq := 5 } none) ↔
      ({ cmdNextSeq := 5 } : SharedState).cmdNextSeq < 2 ^ 30 :=
  negative_minimum_iff ⟨by decide, by decide⟩ (by decide)

/-- From `2 ^ 30` on the counter is sent back to 0. -/
theorem negative_minimum_resets :
    ¬ (SharedState.ensureCmdSeqMinimum { cmdNextSeq := 2 ^ 30 } (-1) = { cmdNextSeq := 2 ^ 30 } ∧
      SharedState.reserveCmdSeq { cmdNextSeq := 2 ^ 30 } (some (-1)) =
        SharedState.reserveCmdSeq { cmdNextSeq := 2 ^ 30 } none) := by
  rintro ⟨-, same⟩
  have number := congrArg Prod.fst same
  revert number
  decide

end AotDrone.Link
