import AotDrone.Link.AltitudeSign
import AotDrone.Link.CmdReader

/-! What the flight controller reads of the CMD payloads the backend sends. -/

namespace AotDrone.Link
open AotDrone.Lib AotDrone.Lib.Double AotDrone.Lib.Decimal AotDrone.Json AotDrone.Backend AotDrone.Fc

/-! ## Numbers -/

section numbers
variable [Fpu] [Libc]

theorem parseDouble_eq (token : Text) :
    parseDouble token =
      if Underflows (value token) then none
      else if (Fpu.round (value token)).isFinite then some (Fpu.round (value token)) else none := by
  unfold parseDouble strtod
  dsimp only
  by_cases tiny : Underflows (value token)
  · rw [if_pos tiny, if_pos tiny]
  · rw [if_neg tiny, if_neg tiny]
    cases Fpu.round (value token) <;> rfl

omit [Fpu] [Libc] in
theorem nearbyint_int (n : ℤ) : nearbyint (fin n) = fin n := by
  rw [nearbyint, roundHalfEven_intCast]

theorem parseIntLike_ofInt (n : ℤ) :
    parseIntLike (Token.ofInt n).render = if intMin ≤ n ∧ n ≤ intMax then some n else none := by
  unfold parseIntLike
  rw [parseDouble_eq, value_ofInt, if_neg (not_underflows_int n)]
  by_cases inside : intMin ≤ n ∧ n ≤ intMax
  · have kept : Fpu.round (n : ℚ) = fin n := by
      apply Fpu.round_int
      simp only [intMin, intMax] at inside
      rw [abs_le]
      omega
    have apart : ¬ (1e-6 : Double) < Double.abs (fin n - nearbyint (fin n)) := by
      have nonneg : (0 : Double) ≤ 1e-6 := round_nonneg (by norm_num)
      rw [nearbyint_int, fin_sub, sub_self, round_zero, abs_fin, abs_zero]
      exact Double.not_lt_of_le nonneg
    have low : ¬ (n : ℚ) < intMin := not_lt.2 (by exact_mod_cast inside.1)
    have high : ¬ (intMax : ℚ) < n := not_lt.2 (by exact_mod_cast inside.2)
    rw [if_pos inside, kept, isFinite_fin, if_pos rfl]
    dsimp only
    rw [if_neg (by simp [low, high]), if_neg apart, nearbyint_int]
    simp [truncate]
  · rw [if_neg inside]
    have outside : ∀ v, Fpu.round (n : ℚ) = fin v → fin v < fin intMin ∨ fin intMax < fin v := by
      intro v rounded
      rw [fin_lt_fin, fin_lt_fin]
      rcases not_and_or.1 inside with below | above
      · left
        have less : (n : ℚ) ≤ ((intMin - 1 : ℤ) : ℚ) := by exact_mod_cast (by omega : n ≤ intMin - 1)
        have bound := Fpu.round_mono less
        rw [Fpu.round_int (intMin - 1) (by decide), rounded, fin_le_fin] at bound
        push_cast at bound
        linarith
      · right
        have more : ((intMax + 1 : ℤ) : ℚ) ≤ n := by exact_mod_cast (by omega : intMax + 1 ≤ n)
        have bound := Fpu.round_mono more
        rw [Fpu.round_int (intMax + 1) (by decide), rounded, fin_le_fin] at bound
        push_cast at bound
        linarith
    cases rounded : Fpu.round (n : ℚ) with
    | fin v =>
      rw [isFinite_fin, if_pos rfl]
      dsimp only
      rw [if_pos (outside v rounded)]
    | nan | inf _ => rfl

variable [FloatRepr]

/-- A finite float whose token `strtod` takes without an error. -/
def Readable : Double → Prop
  | fin x => ¬ Underflows (value (FloatRepr.token x).render)
  | _ => False

instance : DecidablePred Readable := fun x =>
  match x with
  | fin x => inferInstanceAs (Decidable (¬ Underflows (value (FloatRepr.token x).render)))
  | nan | inf _ => .isFalse id

theorem parseDouble_token {x : ℚ} (double : IsDouble (fin x)) :
    parseDouble (FloatRepr.token x).render = if Readable (fin x) then some (fin x) else none := by
  rw [parseDouble_eq, FloatRepr.round_value x double, isFinite_fin, if_pos rfl]
  by_cases tiny : Underflows (value (FloatRepr.token x).render)
  · rw [if_pos tiny, if_neg (show ¬ Readable (fin x) from not_not_intro tiny)]
  · rw [if_neg tiny, if_pos (show Readable (fin x) from tiny)]

end numbers
/-! ## Lookups in a payload -/

section lookups
variable {key : Text} {name : PyStr} {rest : Members}

theorem fcLookup_hit {v : Value} (same : fcKey name = key) : fcLookup key ((name, v) :: rest) = some v := if_pos same

theorem fcLookup_skip {v : Value} (other : fcKey name ≠ key) (skippable : Skippable v := by exact trivial) :
    fcLookup key ((name, v) :: rest) = fcLookup key rest := by
  rw [fcLookup, if_neg other, if_pos skippable]

/-- A member that may be missing. -/
def optional {α : Type} (name : PyStr) (f : α → Value) (present : Option α) : Members :=
  (present.map fun x => (name, f x)).toList

theorem fcLookup_optional_hit {α : Type} {f : α → Value} {present : Option α} (same : fcKey name = key)
    (absent : fcLookup key rest = none) : fcLookup key (optional name f present ++ rest) = present.map f := by
  cases present with
  | none => exact absent
  | some x => exact fcLookup_hit same

theorem fcLookup_optional_skip {α : Type} {f : α → Value} {present : Option α} (other : fcKey name ≠ key)
    (skippable : ∀ x, Skippable (f x) := by exact fun _ => trivial) :
    fcLookup key (optional name f present ++ rest) = fcLookup key rest := by
  cases present with
  | none => rfl
  | some x => exact fcLookup_skip other (skippable x)

/-- The four members every payload has, and the three it may have. -/
theorem members_eq (payload : CmdPayload) :
    payload.members =
      (pyStr "type", .str (pyStr "CMD")) :: (pyStr "seq", .int payload.seq) ::
        (pyStr "timestamp_s", .float payload.timestamp) :: (pyStr "desired_mode", .int payload.desiredMode) ::
          (optional (pyStr "arm") Value.bool payload.arm ++
            (optional (pyStr "setpoints") setpointsValue payload.setpoints ++
              (optional (pyStr "tracking") TrackingObject.toValue payload.tracking ++ []))) := by
  rw [List.append_nil]
  rfl

variable (payload : CmdPayload) (finite : payload.timestamp.isFinite = true)
include finite

/-- What stands behind the four members is found past them. -/
theorem fcLookup_optionals (type : fcKey (pyStr "type") ≠ key) (seq : fcKey (pyStr "seq") ≠ key)
    (timestamp : fcKey (pyStr "timestamp_s") ≠ key) (mode : fcKey (pyStr "desired_mode") ≠ key) :
    fcLookup key payload.members =
      fcLookup key
        (optional (pyStr "arm") Value.bool payload.arm ++
          (optional (pyStr "setpoints") setpointsValue payload.setpoints ++
            (optional (pyStr "tracking") TrackingObject.toValue payload.tracking ++ []))) := by
  rw [members_eq]
  exact (fcLookup_skip type).trans ((fcLookup_skip seq).trans ((fcLookup_skip timestamp (by exact finite)).trans
    (fcLookup_skip mode)))

theorem lookup_arm : fcLookup "arm".toList payload.members = payload.arm.map Value.bool := by
  rw [fcLookup_optionals payload finite (by decide) (by decide) (by decide) (by decide)]
  exact fcLookup_optional_hit (by decide)
    ((fcLookup_optional_skip (by decide)).trans (fcLookup_optional_skip (by decide)))

theorem lookup_setpoints : fcLookup "setpoints".toList payload.members = payload.setpoints.map setpointsValue := by
  rw [fcLookup_optionals payload finite (by decide) (by decide) (by decide) (by decide)]
  exact (fcLookup_optional_skip (by decide)).trans
    (fcLookup_optional_hit (by decide) (fcLookup_optional_skip (by decide)))

theorem lookup_tracking : fcLookup "tracking".toList payload.members = payload.tracking.map TrackingObject.toValue := by
  rw [fcLookup_optionals payload finite (by decide) (by decide) (by decide) (by decide)]
  exact (fcLookup_optional_skip (by decide)).trans
    ((fcLookup_optional_skip (by decide)).trans (fcLookup_optional_hit (by decide) rfl))

theorem lookup_header :
    fcLookup "type".toList payload.members = some (.str (pyStr "CMD")) ∧
      fcLookup "seq".toList payload.members = some (.int payload.seq) ∧
      fcLookup "timestamp_s".toList payload.members = some (.float payload.timestamp) ∧
      fcLookup "desired_mode".toList payload.members = some (.int payload.desiredMode) := by
  rw [members_eq]
  refine ⟨fcLookup_hit (by decide), ?_, ?_, ?_⟩
  · exact (fcLookup_skip (by decide)).trans (fcLookup_hit (by decide))
  · exact (fcLookup_skip (by decide)).trans ((fcLookup_skip (by decide)).trans (fcLookup_hit (by decide)))
  · exact (fcLookup_skip (by decide)).trans ((fcLookup_skip (by decide)).trans
      ((fcLookup_skip (by decide) (by exact finite)).trans (fcLookup_hit (by decide))))

end lookups
/-! ## The tracking object -/

section tracking
variable (t : TrackingObject)

def TrackingObject.members : Members :=
  [(pyStr "tracking_state", .int t.trackingState), (pyStr "loc_x", .float t.locX),
    (pyStr "loc_y", .float t.locY), (pyStr "bound_w", .float t.boundW), (pyStr "bound_h", .float t.boundH),
    (pyStr "confidence", .float t.confidence), (pyStr "vis_seq", .int t.visSeq),
    (pyStr "vis_timestamp_s", .float t.visTimestamp)]

def TrackingObject.floats : List Double :=
  [t.locX, t.locY, t.boundW, t.boundH, t.confidence, t.visTimestamp]

variable [Fpu] [Libc] [FloatRepr]

/-- What the reader asks of a tracking object. -/
def TrackingReadable : Prop :=
  (1 ≤ t.trackingState ∧ t.trackingState ≤ 4) ∧ (intMin ≤ t.visSeq ∧ t.visSeq ≤ intMax) ∧
    ∀ x ∈ TrackingObject.floats t, Readable x

instance : Decidable (TrackingReadable t) := inferInstanceAs (Decidable (_ ∧ _ ∧ _))

omit [Libc] in
theorem numberUnder_tracking (i : Nat) {name : String} {v : Value}
    (nth : (TrackingObject.members t)[i]? = some (pyStr name, v)) (plain : fcKey (pyStr name) = name.toList) :
    numberUnder name (TrackingObject.members t) =
      if ∀ m ∈ (TrackingObject.members t).take i, Skippable m.2 then numberText v else none := by
  have distinct : ((TrackingObject.members t).map fun m => fcKey m.1).Nodup := by
    change (["tracking_state", "loc_x", "loc_y", "bound_w", "bound_h", "confidence", "vis_seq",
      "vis_timestamp_s"].map fun name => fcKey (pyStr name)).Nodup
    decide
  unfold numberUnder
  rw [← plain, fcLookup_nth distinct nth]
  split_ifs <;> rfl

omit [Fpu] [Libc] [FloatRepr] in
theorem bind_guard {α β : Type} {p : Prop} [Decidable p] {a : α} {f : α → Option β} :
    ((if p then some a else none).bind f) = if p then f a else none := by
  split_ifs <;> rfl

omit [Fpu] [Libc] [FloatRepr] in
theorem members_skippable (finite : ∀ x ∈ TrackingObject.floats t, x.isFinite = true) :
    ∀ m ∈ TrackingObject.members t, Skippable m.2 := by
  intro m member
  simp only [TrackingObject.floats, List.forall_mem_cons] at finite
  simp only [TrackingObject.members, List.mem_cons, List.not_mem_nil, or_false] at member
  rcases member with rfl | rfl | rfl | rfl | rfl | rfl | rfl | rfl
  · trivial
  · exact finite.1
  · exact finite.2.1
  · exact finite.2.2.1
  · exact finite.2.2.2.1
  · exact finite.2.2.2.2.1
  · trivial
  · exact finite.2.2.2.2.2.1

/-- Every member of finite numbers is found, so only the ranges of the whole numbers decide. -/
theorem readTracking_finite (doubles : ∀ x ∈ TrackingObject.floats t, IsDouble x)
    (finite : ∀ x ∈ TrackingObject.floats t, x.isFinite = true) :
    readTracking (TrackingObject.members t) = if TrackingReadable t then some (received t) else none := by
  have look (i : Nat) {name : String} {v : Value} (nth : (TrackingObject.members t)[i]? = some (pyStr name, v))
      (plain : fcKey (pyStr name) = name.toList) :
      numberUnder name (TrackingObject.members t) = numberText v :=
    (numberUnder_tracking t i nth plain).trans
      (if_pos fun m member => members_skippable t finite m (List.mem_of_mem_take member))
  unfold readTracking
  rw [look 0 rfl (by decide), look 1 rfl (by decide), look 2 rfl (by decide), look 3 rfl (by decide),
    look 4 rfl (by decide), look 5 rfl (by decide), look 6 rfl (by decide), look 7 rfl (by decide)]
  clear look
  obtain ⟨state, locX, locY, boundW, boundH, confidence, seq, timestamp⟩ := t
  simp only [TrackingObject.floats, List.forall_mem_cons, isFinite_iff] at finite doubles
  obtain ⟨⟨locX, rfl⟩, ⟨locY, rfl⟩, ⟨boundW, rfl⟩, ⟨boundH, rfl⟩, ⟨confidence, rfl⟩, ⟨timestamp, rfl⟩, -⟩ := finite
  dsimp only [numberText, Option.bind_eq_bind, Option.bind_some]
  rw [parseIntLike_ofInt, parseIntLike_ofInt, parseDouble_token doubles.1, parseDouble_token doubles.2.1,
    parseDouble_token doubles.2.2.1, parseDouble_token doubles.2.2.2.1, parseDouble_token doubles.2.2.2.2.1,
    parseDouble_token doubles.2.2.2.2.2.1]
  have order : ∀ r : CommandTracking, (if state < 1 ∨ 4 < state then none else some r) =
      if 1 ≤ state ∧ state ≤ 4 then some r else none := by
    intro r
    rw [← ite_not]
    exact if_congr (by omega) rfl rfl
  simp only [bind_guard, order, ← ite_and, and_assoc]
  refine if_congr ?_ rfl rfl
  simp only [TrackingReadable, TrackingObject.floats, List.forall_mem_cons, intMin, intMax]
  constructor
  · rintro ⟨-, -, x, y, w, h, c, seqLow, seqHigh, ts, state⟩
    exact ⟨state, ⟨seqLow, seqHigh⟩, x, y, w, h, c, ts, List.forall_mem_nil _⟩
  · rintro ⟨state, ⟨seqLow, seqHigh⟩, x, y, w, h, c, ts, -⟩
    exact ⟨by omega, by omega, x, y, w, h, c, seqLow, seqHigh, ts, state⟩

omit [Libc] in
/-- A number that is not finite hides the last member from the reader, or is the last member. -/
theorem timestamp_hidden (infinite : ¬ ∀ x ∈ TrackingObject.floats t, x.isFinite = true) :
    numberUnder "vis_timestamp_s" (TrackingObject.members t) = none := by
  rw [numberUnder_tracking t 7 rfl (by decide)]
  split_ifs with visible
  · cases last : t.visTimestamp with
    | fin q =>
      refine (infinite ?_).elim
      have float (i : Nat) {name : PyStr} {x : Double}
          (nth : ((TrackingObject.members t).take 7)[i]? = some (name, .float x)) : x.isFinite = true :=
        visible _ (List.mem_of_getElem? nth)
      simp only [TrackingObject.floats, List.forall_mem_cons, last]
      exact ⟨float 1 rfl, float 2 rfl, float 3 rfl, float 4 rfl, float 5 rfl, rfl, List.forall_mem_nil _⟩
    | nan | inf _ => rfl
  · rfl

variable {t} in
theorem TrackingReadable.finite (readable : TrackingReadable t) : ∀ x ∈ TrackingObject.floats t, x.isFinite = true := by
  obtain ⟨-, -, readable⟩ := readable
  intro x member
  have read := readable x member
  cases x with
  | fin q => rfl
  | nan | inf _ => exact read.elim

/-- The reader recovers the whole object, or refuses it. -/
theorem readTracking_eq (doubles : ∀ x ∈ TrackingObject.floats t, IsDouble x) :
    readTracking (TrackingObject.members t) = if TrackingReadable t then some (received t) else none := by
  by_cases finite : ∀ x ∈ TrackingObject.floats t, x.isFinite = true
  · exact readTracking_finite t doubles finite
  · rw [if_neg fun readable => finite readable.finite]
    unfold readTracking
    rw [timestamp_hidden t finite]
    simp only [Option.bind_eq_bind, Option.bind_none, Option.bind_fun_none]

end tracking

/-! ## Setpoints -/

section setpoints
variable [Fpu] [Libc] [FloatRepr]

/-- The setpoints the reader knows. -/
def setpointNames : List String := ["roll", "pitch", "yaw_rate", "throttle"]

def setpointMembers (setpoints : List (PyStr × Double)) : Members :=
  setpoints.map fun (name, value) => (name, .float value)

/-- Where the reader finds a number for a setpoint it knows, it can read it. -/
def SetpointsReadable (setpoints : List (PyStr × Double)) : Prop :=
  ∀ name ∈ setpointNames, ∀ x : ℚ,
    fcLookup name.toList (setpointMembers setpoints) = some (.float (fin x)) → Readable (fin x)

theorem readSetpoints_isSome (members : Members) :
    (readSetpoints members).isSome ↔ ∀ name ∈ setpointNames, (readOptionalNumber name members).isSome := by
  simp only [setpointNames, List.forall_mem_cons]
  unfold readSetpoints
  cases readOptionalNumber "roll" members with
  | none => simp
  | some roll =>
    cases readOptionalNumber "pitch" members with
    | none => simp
    | some pitch =>
      cases readOptionalNumber "yaw_rate" members with
      | none => simp
      | some yawRate => cases readOptionalNumber "throttle" members <;> simp

/-- A number that is missing, or written as a literal, is no obstacle. -/
theorem readOptionalNumber_isSome {setpoints : List (PyStr × Double)} (doubles : ∀ s ∈ setpoints, IsDouble s.2)
    (name : String) :
    (readOptionalNumber name (setpointMembers setpoints)).isSome ↔
      ∀ x : ℚ, fcLookup name.toList (setpointMembers setpoints) = some (.float (fin x)) → Readable (fin x) := by
  unfold readOptionalNumber numberUnder
  cases found : fcLookup name.toList (setpointMembers setpoints) with
  | none => simp
  | some v =>
    obtain ⟨_, member⟩ := fcLookup_mem found
    obtain ⟨s, known, same⟩ := List.mem_map.1 member
    cases same
    have double := doubles s known
    cases value : s.2 with
    | fin x =>
      rw [value] at double
      simp only [Option.bind_some, numberText, parseDouble_token double, Option.some.injEq, Value.float.injEq,
        fin.injEq, forall_eq']
      split_ifs with readable <;> simpa using readable
    | nan | inf _ => simp [numberText]

theorem readSetpoints_readable {setpoints : List (PyStr × Double)} (doubles : ∀ s ∈ setpoints, IsDouble s.2) :
    (readSetpoints (setpointMembers setpoints)).isSome ↔ SetpointsReadable setpoints := by
  rw [readSetpoints_isSome]
  exact forall₂_congr fun name _ => readOptionalNumber_isSome doubles name

end setpoints
end AotDrone.Link
