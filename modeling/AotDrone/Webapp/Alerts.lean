import AotDrone.Lib.Decimal
import AotDrone.Webapp.Stream

/-! The alerts that `App.tsx` derives from its state. Some are held for a while after their condition has gone, and what
was derived last is kept until something changes. -/

namespace AotDrone.Webapp
open AotDrone.Lib AotDrone.Lib.Double AotDrone.Lib.Decimal AotDrone.Json

structure StatusAlert where
  id : PyStr
  detail : PyStr
  severity : WarningSeverity
  deriving DecidableEq

def derivedWarningHoldMs : ℤ := 1500

/-- `Number.prototype.toString`, which `toFixed` falls back on from 10^21 on. -/
class NumberToString where
  text : ℚ → String

/-- `toFixed` of a finite number: the larger of two equally near ones. -/
def toFixed [NumberToString] (x : ℚ) (digits : ℕ) : String :=
  if |x| < 10 ^ 21 then String.ofList (Token.ofUnits (decide (x < 0)) ⌊|x| * 10 ^ digits + 1 / 2⌋.toNat digits).render
  else NumberToString.text x

/-- `formatSeconds` of `format.ts`, of a number. -/
def formatSeconds [NumberToString] (digits : ℕ) : Double → String
  | fin x => toFixed x digits ++ " s"
  | _ => "n/a"

section
variable [Fpu]

def projectAge (snapshotAge : Option Double) (snapshotAtMs : Option ℤ) (nowMs : ℤ) : Option Double :=
  match snapshotAge, snapshotAtMs with
  | none, _ => none
  | some snapshotAge, none => some snapshotAge
  | some snapshotAge, some snapshotAtMs =>
    let elapsed := mathMax 0 (fin (nowMs - snapshotAtMs : ℤ) / 1000)
    some (snapshotAge + elapsed)

def defaultVisFresh : Double := 0.25

def defaultTelFresh : Double := 0.5

/-- A threshold that the backend has told, or the default. -/
def freshThreshold (raw : Option Double) (default : Double) : Double :=
  match raw with
  | some raw => if 0 < raw then raw else default
  | none => default

/-- What the alerts are derived from, and what they are kept for. -/
structure AlertDeps where
  nowMs : ℤ
  projectedTelAge : Option Double
  projectedVisAge : Option Double
  fcConnected : Option Bool
  schemaMismatchDetail : Option String
  wsConnected : Bool
  wsConsecutiveErrors : ℕ
  trackingBlockedReason : Option PyStr
  telFreshThreshold : Double
  visFreshThreshold : Double
  deriving DecidableEq

def alertDeps (state : StreamState) (nowMs : ℤ) : AlertDeps where
  nowMs
  projectedTelAge := projectAge (readField (state.linkStatus.bind (·.telAge))) state.linkUpdatedAtMs nowMs
  projectedVisAge := projectAge (readField (state.linkStatus.bind (·.visAge))) state.linkUpdatedAtMs nowMs
  fcConnected := state.linkStatus.map (·.fcConnected)
  schemaMismatchDetail := state.schemaMismatchDetail
  wsConnected := state.wsConnected
  wsConsecutiveErrors := state.wsConsecutiveErrors
  trackingBlockedReason := state.linkStatus.bind (·.trackingBlockedReason)
  telFreshThreshold := freshThreshold (readField (state.linkStatus.map (·.telFresh))) defaultTelFresh
  visFreshThreshold := freshThreshold (readField (state.linkStatus.map (·.visFresh))) defaultVisFresh

end

/-- The alerts that are held. -/
inductive HeldAlert where
  | wsDisconnected
  | fcDisconnected
  | visStale
  | telStale
  deriving DecidableEq

namespace AlertDeps
variable (deps : AlertDeps)

def holds : HeldAlert → Bool
  | .wsDisconnected => !deps.wsConnected
  | .fcDisconnected => deps.fcConnected == some false
  | .visStale => deps.projectedVisAge.any fun age => decide (deps.visFreshThreshold ≤ age)
  | .telStale => deps.projectedTelAge.any fun age => decide (deps.telFreshThreshold ≤ age)

variable [NumberToString]

def heldAlert : HeldAlert → StatusAlert
  | .wsDisconnected => ⟨pyStr "ws-disconnected", pyStr "WebSocket disconnected.", .error⟩
  | .fcDisconnected => ⟨pyStr "fc-disconnected", pyStr "FC command link is disconnected.", .warn⟩
  | .visStale =>
    ⟨pyStr "vis-stale", pyStr ("Vision stale (>= " ++ formatSeconds 2 deps.visFreshThreshold ++ ")."), .warn⟩
  | .telStale =>
    ⟨pyStr "tel-stale", pyStr ("Telemetry stale (>= " ++ formatSeconds 2 deps.telFreshThreshold ++ ")."), .warn⟩

omit [NumberToString] in
/-- The alerts that come and go with the state. -/
def plainAlerts : List StatusAlert :=
  (match deps.trackingBlockedReason with
    | none => []
    | some reason =>
      if reason = [] then []
      else
        [{ id := pyStr "tracking-blocked-" ++ reason
           detail :=
            if reason = pyStr "stale_vis" then pyStr "Tracking blocked: Vision stale."
            else if reason = pyStr "no_vis" then pyStr "Tracking blocked: No vision."
            else pyStr "Tracking blocked: " ++ reason
           severity := if reason = pyStr "no_vis" then .error else .warn }]) ++
    (match deps.schemaMismatchDetail with
      | none => []
      | some detail =>
        [⟨pyStr "schema-mismatch", pyStr ("Schema mismatch — " ++ detail ++ ". Backend update needed."), .warn⟩]) ++
    if 3 ≤ deps.wsConsecutiveErrors then
      [{ id := pyStr "ws-transport-errors"
         detail := pyStr ("WS transport unstable (" ++ toString deps.wsConsecutiveErrors ++ " consecutive errors).")
         severity := .error }]
    else []

end AlertDeps

def heldAlerts : List HeldAlert := [.wsDisconnected, .fcDisconnected, .visStale, .telStale]

/-- `derivedWarningHoldRef` with the value and the dependencies that `useMemo` keeps. -/
structure AlertMemo where
  holdUntil : HeldAlert → Option ℤ := fun _ => none
  kept : Option (AlertDeps × List StatusAlert) := none

namespace AlertMemo
variable (memo : AlertMemo) (deps : AlertDeps)

/-- What `held` writes. -/
def hold : HeldAlert → Option ℤ := fun alert =>
  if deps.holds alert then some (deps.nowMs + derivedWarningHoldMs) else memo.holdUntil alert

/-- What `held` answers. -/
def held (alert : HeldAlert) : Bool :=
  deps.holds alert || decide (deps.nowMs < (memo.holdUntil alert).getD 0)

variable [NumberToString]

def derive : List StatusAlert :=
  (((heldAlerts.filter (memo.held deps)).map deps.heldAlert) ++ deps.plainAlerts).take 5

/-- `useMemo`, which may also have forgotten. -/
def render (forgotten : Bool) : AlertMemo × List StatusAlert :=
  match if forgotten then none else memo.kept with
  | some (deps', alerts) => if deps' = deps then (memo, alerts) else (recompute, memo.derive deps)
  | none => (recompute, memo.derive deps)
where recompute : AlertMemo := { holdUntil := memo.hold deps, kept := some (deps, memo.derive deps) }

/-- The component after some renders. -/
def after (renders : List (AlertDeps × Bool)) : AlertMemo :=
  renders.foldl (fun memo render => (memo.render render.1 render.2).1) {}

end AlertMemo

/-! ## What is shown -/

/-- Its condition holds now, or held last less than the hold time ago. -/
def recently (earlier : List AlertDeps) (deps : AlertDeps) (alert : HeldAlert) : Bool :=
  deps.holds alert ||
    ((earlier.reverse.find? (·.holds alert)).any fun last => decide (deps.nowMs < last.nowMs + derivedWarningHoldMs))

def alertsShown [NumberToString] (earlier : List AlertDeps) (deps : AlertDeps) : List StatusAlert :=
  (((heldAlerts.filter (recently earlier deps)).map deps.heldAlert) ++ deps.plainAlerts).take 5

namespace AlertMemo
variable {memo : AlertMemo} {earlier : List AlertDeps} {deps : AlertDeps}

/-- To hold twice for one render is to hold once. -/
theorem hold_hold (memo : AlertMemo) (deps : AlertDeps) (kept : Option (AlertDeps × List StatusAlert)) :
    AlertMemo.hold { holdUntil := memo.hold deps, kept } deps = memo.hold deps := by
  funext alert
  unfold hold
  dsimp only
  split <;> rfl

theorem held_hold (memo : AlertMemo) (deps : AlertDeps) (kept : Option (AlertDeps × List StatusAlert)) :
    AlertMemo.held { holdUntil := memo.hold deps, kept } deps = memo.held deps := by
  funext alert
  unfold held hold
  dsimp only
  by_cases condition : deps.holds alert = true
  · simp [condition]
  · simp [condition]

variable [NumberToString]

/-- The holds tell when each condition held last, and what is kept would be derived again. -/
structure Remembers (memo : AlertMemo) (earlier : List AlertDeps) : Prop where
  holdUntil : ∀ alert, memo.holdUntil alert =
    (earlier.reverse.find? (·.holds alert)).map (·.nowMs + derivedWarningHoldMs)
  kept : ∀ deps alerts, memo.kept = some (deps, alerts) → alerts = memo.derive deps ∧ memo.hold deps = memo.holdUntil

theorem Remembers.hold (remembers : memo.Remembers earlier) (deps : AlertDeps) (alert : HeldAlert) :
    memo.hold deps alert =
      ((earlier ++ [deps]).reverse.find? (·.holds alert)).map (·.nowMs + derivedWarningHoldMs) := by
  rw [List.reverse_append, List.reverse_singleton, List.singleton_append, List.find?_cons]
  unfold AlertMemo.hold
  cases deps.holds alert
  · rw [if_neg Bool.false_ne_true]
    exact remembers.holdUntil alert
  · rfl

/-- A render shows what is derived anew, whether it was kept or not. -/
theorem Remembers.render (remembers : memo.Remembers earlier) (deps : AlertDeps) (forgotten : Bool) :
    (memo.render deps forgotten).1.Remembers (earlier ++ [deps]) ∧
      (memo.render deps forgotten).2 = memo.derive deps := by
  have recomputed : (render.recompute memo deps).Remembers (earlier ++ [deps]) := by
    refine ⟨remembers.hold deps, ?_⟩
    intro _ _ same
    obtain ⟨rfl, rfl⟩ := Prod.mk.inj (Option.some_inj.1 same)
    refine ⟨?_, hold_hold memo deps _⟩
    unfold derive render.recompute
    rw [held_hold]
  unfold AlertMemo.render
  split
  next deps' alerts found =>
    split
    next same =>
      subst same
      have cached : memo.kept = some (deps', alerts) := by
        cases forgotten
        · exact found
        · cases found
      obtain ⟨rederived, still⟩ := remembers.kept deps' alerts cached
      refine ⟨⟨?_, remembers.kept⟩, rederived⟩
      intro alert
      rw [← still]
      exact remembers.hold deps' alert
    · exact ⟨recomputed, rfl⟩
  · exact ⟨recomputed, rfl⟩

theorem Remembers.after (renders : List (AlertDeps × Bool)) : (after renders).Remembers (renders.map Prod.fst) := by
  induction renders using List.reverseRecOn with
  | nil => exact ⟨fun _ => rfl, fun _ _ none => absurd none.symm (Option.some_ne_none _)⟩
  | append_singleton renders render ih =>
    unfold AlertMemo.after at ih ⊢
    rw [List.foldl_append, List.map_append]
    exact (ih.render render.1 render.2).1

theorem Remembers.derive (remembers : memo.Remembers earlier) (epoch : 0 ≤ deps.nowMs) :
    memo.derive deps = alertsShown earlier deps := by
  have same : memo.held deps = recently earlier deps := by
    funext alert
    unfold held recently
    rw [remembers.holdUntil]
    cases earlier.reverse.find? (·.holds alert) with
    | none => simp [not_lt.2 epoch]
    | some last => rfl
  unfold AlertMemo.derive alertsShown
  rw [same]

end AlertMemo

/-- After any renders, at any times and with whatever React keeps of them, a render at a time that is not negative shows an
alert exactly as long as its condition held less than the hold time ago. -/
theorem alerts_held [NumberToString] (renders : List (AlertDeps × Bool)) (deps : AlertDeps) (forgotten : Bool)
    (epoch : 0 ≤ deps.nowMs) :
    ((AlertMemo.after renders).render deps forgotten).2 = alertsShown (renders.map Prod.fst) deps := by
  have remembers := AlertMemo.Remembers.after renders
  rw [(remembers.render deps forgotten).2, remembers.derive epoch]

/-- The state of a page whose socket has, or has not, been opened. -/
def socketAlone (wsConnected : Bool) (nowMs : ℤ) : AlertDeps :=
  @alertDeps exact { wsConnected } nowMs

/-- A second and a half after the socket has been opened again the alert is gone, and not before. -/
theorem alerts_held_socketAlone :
    letI : NumberToString := ⟨fun _ => ""⟩
    let after := AlertMemo.after [(socketAlone false 1000, false)]
    (after.render (socketAlone true 2499) false).2.map StatusAlert.id = [pyStr "ws-disconnected"] ∧
      (after.render (socketAlone true 2500) true).2 = [] := by
  let : NumberToString := ⟨fun _ => ""⟩
  constructor
  · exact (congrArg (List.map StatusAlert.id) (alerts_held _ (socketAlone true 2499) false (by decide))).trans rfl
  · exact (alerts_held _ (socketAlone true 2500) true (by decide)).trans rfl

end AotDrone.Webapp
