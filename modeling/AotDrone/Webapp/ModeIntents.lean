import AotDrone.Webapp.App

/-! The mode that the App shows and sends, beside the mode that the backend has accepted. -/

namespace AotDrone.Webapp
open AotDrone.Lib.Run
open AotDrone.Backend (Intent postIntent)

/-- Every request of the App is one that the backend takes. -/
theorem IntentRequest.body_accepted (request : IntentRequest) :
    postIntent request.body = .ok { desiredMode := request.desiredMode.code, arm := request.arm } := by
  obtain ⟨mode, arm⟩ := request
  cases mode <;> rfl

namespace World

/-- The mode of the last intent that the backend has accepted. -/
def acceptedMode (world : World) : ℤ := (world.latestIntent.map (·.desiredMode)).getD ControlMode.manual.code

/-- An error has been shown for the last mode selection. -/
def selectionFailed (world : World) : Prop := ∃ number, world.selection = .sent number ∧ number ∈ world.failed

/-- An arm click sends the accepted mode, and what is shown while nothing is in flight is the accepted mode, or an error has
been shown for it. -/
structure ModeKept (_past : Past World WorldEvent) (world : World) (event : WorldEvent) : Prop where
  sent : event = .toggleArm → ∀ request, (world.step event).requests = world.requests ++ [request] →
    request.desiredMode.code = world.acceptedMode
  shown : (world.step event).intentInFlightRef = false →
    (world.step event).state.selectedMode.code = (world.step event).acceptedMode ∨ (world.step event).selectionFailed

/-- The backend has accepted the intent of the last mode selection, if there is one. -/
def selectionAccepted (world : World) : Bool :=
  match world.selection with
  | .none => true
  | .sent number => world.accepted.contains number
  | .dropped => false

/-- No mode is selected while a request is in flight, as the buttons are disabled then. An arm click that is sent comes
after the backend has accepted the last selection. No intent is accepted after a later one was sent. -/
def Careful (_past : Past World WorldEvent) (world : World) : WorldEvent → Prop
  | .selectMode mode => (mode = .tracking ∧ world.trackingBlocked = true) ∨ world.intentInFlightRef = false
  | .toggleArm => world.intentInFlightRef = false → world.selectionAccepted = true
  | .accepts number => number + 1 = world.requests.length
  | _ => True

instance Careful.decidable (past : Past World WorldEvent) (world : World) (event : WorldEvent) :
    Decidable (Careful past world event) :=
  match event with
  | .selectMode _ => inferInstanceAs (Decidable (_ ∨ _))
  | .toggleArm => inferInstanceAs (Decidable (_ → _))
  | .accepts _ => inferInstanceAs (Decidable (_ = _))
  | .linkStatus _ | .succeeds _ | .fails _ _ => .isTrue trivial

/-- The last mode selection, the requests since then, and what has come of them. -/
structure Traced (world : World) : Prop where
  shown : world.state.selectedMode = world.lastDesiredModeRef
  flights : (world.intentInFlightRef = false ∧ world.flights = []) ∨
    (world.intentInFlightRef = true ∧ ∃ flight, world.flights = [flight])
  carried : ∀ number request, world.requests[number]? = some request →
    (∀ first, world.selection = .sent first → first ≤ number) → request.desiredMode = world.lastDesiredModeRef
  unselected : world.selection = .none → world.lastDesiredModeRef = .manual
  kept : world.selection ≠ .dropped
  accepted : ∀ number ∈ world.accepted, number < world.requests.length
  acceptedMode : (∀ number, world.selection = .sent number → number ∈ world.accepted) →
    world.acceptedMode = world.lastDesiredModeRef.code
  ended : ∀ number, world.selection = .sent number →
    number < world.requests.length ∧ (number ∈ world.accepted ∨ number ∈ world.failed ∨ number ∈ world.flights.map (·.number))

theorem create_traced : create.Traced where
  shown := rfl
  flights := .inl ⟨rfl, rfl⟩
  carried := by
    intro number request found
    exact absurd found (Option.some_ne_none request).symm
  unselected := fun _ => rfl
  kept := by
    intro dropped
    cases dropped
  accepted := by
    intro number mem
    cases mem
  acceptedMode := fun _ => rfl
  ended := by
    intro number sent
    cases sent

variable {world : World}

/-- What the App dispatches elsewhere leaves the trace alone. -/
theorem Traced.dispatch (traced : world.Traced) (action : AppAction)
    (other : (reducer world.state action).selectedMode = world.state.selectedMode) : (world.dispatch action).Traced :=
  ⟨other.trans traced.shown, traced.flights, traced.carried, traced.unselected, traced.kept, traced.accepted,
    traced.acceptedMode, traced.ended⟩

theorem Traced.landed (traced : world.Traced) (idle : world.intentInFlightRef = false) : world.flights = [] := by
  cases traced.flights with
  | inl quiet => exact quiet.2
  | inr busy => exact absurd (idle.symm.trans busy.1) Bool.false_ne_true

theorem sendIntent_idle (idle : world.intentInFlightRef = false) (payload : IntentRequest) (successMessage : String)
    (onSuccess : Option Bool) :
    world.sendIntent payload successMessage onSuccess =
      { world.dispatch (.intentPending "Sending intent...") with
        intentInFlightRef := true
        flights := world.flights ++ [⟨world.requests.length, successMessage, onSuccess⟩]
        requests := world.requests ++ [payload] } := by
  unfold sendIntent
  rw [if_neg (by rw [idle]; exact Bool.false_ne_true)]

theorem onSelectMode_idle (idle : world.intentInFlightRef = false) {mode : ControlMode}
    (open_ : ¬ (mode = .tracking ∧ world.trackingBlocked = true)) :
    world.onSelectMode mode =
      { world with
        state := reducer (reducer world.state (.setSelectedMode mode)) (.intentPending "Sending intent...")
        intentInFlightRef := true
        lastDesiredModeRef := mode
        selection := .sent world.requests.length
        flights := world.flights ++
          [⟨world.requests.length, "Mode intent sent: " ++ toControlModeName mode ++ ".", none⟩]
        requests := world.requests ++ [{ desiredMode := mode }] } := by
  unfold onSelectMode
  rw [if_neg open_, sendIntent_idle (by exact idle), idle]
  rfl

theorem request_cases {requests : List IntentRequest} {payload request : IntentRequest} {number : Nat}
    (found : (requests ++ [payload])[number]? = some request) :
    requests[number]? = some request ∨ (number = requests.length ∧ request = payload) := by
  by_cases old : number < requests.length
  · rw [List.getElem?_append_left old] at found
    exact .inl found
  · have bound := (List.getElem?_eq_some_iff.1 found).1
    rw [List.length_append, List.length_singleton] at bound
    have last : number = requests.length := Nat.le_antisymm (Nat.lt_succ_iff.1 bound) (not_lt.1 old)
    subst last
    rw [List.getElem?_concat_length] at found
    exact .inr ⟨rfl, (Option.some.inj found).symm⟩

theorem Traced.toggleArm (traced : world.Traced) : world.onToggleArm.Traced := by
  unfold onToggleArm sendIntent
  dsimp only
  split
  · exact traced
  next idle =>
    have landed := traced.landed (Bool.not_eq_true _ ▸ idle)
    refine ⟨traced.shown, .inr ⟨rfl, ?_⟩, ?_, traced.unselected, traced.kept, ?_, traced.acceptedMode, ?_⟩
    · rw [landed]
      exact ⟨_, rfl⟩
    · intro number request found after
      cases request_cases found with
      | inl old => exact traced.carried number request old after
      | inr new =>
        rw [new.2]
        rfl
    · intro number mem
      rw [List.length_append]
      exact Nat.lt_add_right _ (traced.accepted number mem)
    · intro number sent
      obtain ⟨bound, ends⟩ := traced.ended number sent
      rw [landed] at ends
      rw [List.length_append]
      exact ⟨Nat.lt_add_right _ bound, ends.imp id (Or.imp id fun flying => absurd flying List.not_mem_nil)⟩

theorem Traced.selectMode (traced : world.Traced) {mode : ControlMode}
    (careful : (mode = .tracking ∧ world.trackingBlocked) ∨ world.intentInFlightRef = false) :
    (world.onSelectMode mode).Traced := by
  by_cases open_ : mode = .tracking ∧ world.trackingBlocked = true
  · unfold onSelectMode
    rw [if_pos open_]
    exact traced.dispatch _ rfl
  · have idle := careful.resolve_left open_
    have landed := traced.landed idle
    rw [onSelectMode_idle idle open_]
    refine ⟨rfl, .inr ⟨rfl, ?_⟩, ?_, ?_, ?_, ?_, ?_, ?_⟩
    · rw [landed]
      exact ⟨_, rfl⟩
    · intro number request found after
      cases request_cases found with
      | inl old =>
        have bound := (List.getElem?_eq_some_iff.1 old).1
        exact absurd bound (not_lt.2 (after _ rfl))
      | inr new => rw [new.2]
    · intro none
      cases none
    · intro dropped
      cases dropped
    · intro number mem
      rw [List.length_append]
      exact Nat.lt_add_right _ (traced.accepted number mem)
    · intro confirmed
      exact absurd (traced.accepted _ (confirmed _ rfl)) (lt_irrefl _)
    · intro number sent
      cases sent
      rw [List.length_append, List.map_append]
      exact ⟨Nat.lt_succ_self _, .inr (.inr (List.mem_append_right _ (List.mem_singleton_self _)))⟩

theorem Traced.accept (traced : world.Traced) {number : Nat} (inOrder : number + 1 = world.requests.length) :
    (world.accept number).Traced := by
  unfold World.accept
  cases found : world.requests[number]? with
  | none => exact traced
  | some request =>
    rw [Option.map_some, request.body_accepted]
    dsimp only
    have first {first : Nat} (sent : world.selection = .sent first) : first ≤ number := by
      have bound := (traced.ended first sent).1
      omega
    refine ⟨traced.shown, traced.flights, traced.carried, traced.unselected, traced.kept, ?_, ?_, ?_⟩
    · intro other mem
      cases List.mem_append.1 mem with
      | inl old => exact traced.accepted other old
      | inr new =>
        rw [List.mem_singleton.1 new]
        exact (List.getElem?_eq_some_iff.1 found).1
    · intro _
      exact congrArg ControlMode.code (traced.carried number request found fun _ sent => first sent)
    · intro other sent
      obtain ⟨bound, ends⟩ := traced.ended other sent
      exact ⟨bound, ends.imp (List.mem_append_left _) id⟩

/-- The only call in flight returns. -/
theorem Traced.land (traced : world.Traced) {flight : Flight} (flying : flight ∈ world.flights)
    (known : flight.number ∈ world.accepted ∨ flight.number ∈ world.failed) : (world.land flight).Traced := by
  have only : world.flights = [flight] := by
    cases traced.flights with
    | inl quiet =>
      rw [quiet.2] at flying
      cases flying
    | inr busy =>
      obtain ⟨-, other, only⟩ := busy
      rw [only] at flying ⊢
      rw [List.mem_singleton.1 flying]
  refine ⟨traced.shown, .inl ⟨rfl, ?_⟩, traced.carried, traced.unselected, traced.kept, traced.accepted,
    traced.acceptedMode, ?_⟩
  · unfold World.land
    rw [only]
    simp
  · intro number sent
    obtain ⟨bound, ends⟩ := traced.ended number sent
    refine ⟨bound, ?_⟩
    rw [only, List.map_singleton, List.mem_singleton] at ends
    cases ends with
    | inl accepted => exact .inl accepted
    | inr ends =>
      cases ends with
      | inl failed => exact .inr (.inl failed)
      | inr same =>
        rw [same]
        exact known.imp id .inl

theorem Traced.succeed (traced : world.Traced) {number : Nat} (answered : number ∈ world.accepted) :
    (world.succeed number).Traced := by
  unfold World.succeed
  cases found : world.flights.find? (·.number = number) with
  | none => exact traced
  | some flight =>
    have flying := List.mem_of_find?_eq_some found
    have same : flight.number = number := by simpa using List.find?_some found
    have finished := traced.dispatch (.intentFinished .success flight.successMessage) rfl
    dsimp only
    cases flight.onSuccess with
    | none => exact finished.land flying (.inl (same ▸ answered))
    | some armed => exact (finished.dispatch (.setArmed armed) rfl).land flying (.inl (same ▸ answered))

theorem Traced.fail (traced : world.Traced) (number : Nat) (message : String) : (world.fail number message).Traced := by
  unfold World.fail
  cases found : world.flights.find? (·.number = number) with
  | none => exact traced
  | some flight =>
    have finished := traced.dispatch (.intentFinished .error message) rfl
    have shown : { world.dispatch (.intentFinished .error message) with
        failed := world.failed ++ [flight.number] }.Traced := by
      refine ⟨finished.shown, finished.flights, finished.carried, finished.unselected, finished.kept, finished.accepted,
        finished.acceptedMode, ?_⟩
      intro sent at_sent
      obtain ⟨bound, ends⟩ := finished.ended sent at_sent
      exact ⟨bound, ends.imp id (Or.imp (List.mem_append_left _) id)⟩
    exact shown.land (List.mem_of_find?_eq_some found) (.inr (List.mem_append_right _ (List.mem_singleton_self _)))

theorem step_traced (past : Past World WorldEvent) {event : WorldEvent} (traced : world.Traced)
    (lawful : world.mayHappen event = true) (careful : Careful past world event) : (world.step event).Traced := by
  cases event with
  | linkStatus trackingBlockedReason => exact traced.dispatch _ rfl
  | selectMode mode => exact traced.selectMode careful
  | toggleArm => exact traced.toggleArm
  | accepts number => exact traced.accept careful
  | succeeds number => exact traced.succeed (List.contains_iff_mem.1 lawful)
  | fails number message => exact traced.fail number message

/-- While nothing is in flight, the mode that is shown is the accepted one, or its error has been shown. -/
theorem Traced.settled (traced : world.Traced) (idle : world.intentInFlightRef = false) :
    world.state.selectedMode.code = world.acceptedMode ∨ world.selectionFailed := by
  rw [traced.shown]
  cases selection : world.selection with
  | none =>
    exact .inl (traced.acceptedMode fun number sent => absurd (selection.symm.trans sent) (by simp)).symm
  | dropped => exact absurd selection traced.kept
  | sent number =>
    obtain ⟨-, ends⟩ := traced.ended number selection
    rw [traced.landed idle] at ends
    cases ends with
    | inl accepted =>
      refine .inl (traced.acceptedMode fun other sent => ?_).symm
      cases selection.symm.trans sent
      exact accepted
    | inr ends =>
      exact .inr ⟨number, selection, ends.resolve_right List.not_mem_nil⟩

/-- Along every run whose steps are careful the App keeps to the mode that the backend has accepted. -/
theorem mode_kept (events : List WorldEvent)
    (lawful : Always step (fun _ world event => world.mayHappen event = true) [] create events)
    (careful : Always step Careful [] create events) : Always step ModeKept [] create events := by
  apply Always.of_invariant (fun _ world => world.Traced) _ _ [] create events create_traced (lawful.and _ _ _ careful)
  · intro past world event traced both
    have after := step_traced past traced both.1 both.2
    refine ⟨?_, after.settled⟩
    intro arms request sent
    subst arms
    by_cases idle : world.intentInFlightRef = false
    · have payload : request.desiredMode = world.lastDesiredModeRef := by
        change (world.onToggleArm).requests = _ at sent
        unfold onToggleArm at sent
        rw [sendIntent_idle idle] at sent
        cases List.append_cancel_left sent
        rfl
      have confirmed : ∀ number, world.selection = .sent number → number ∈ world.accepted := by
        intro number selection
        have accepted := both.2 idle
        rw [selectionAccepted, selection] at accepted
        exact List.contains_iff_mem.1 accepted
      rw [payload, traced.acceptedMode confirmed]
    · have same : (world.step .toggleArm).requests = world.requests := by
        change (world.onToggleArm).requests = _
        unfold onToggleArm sendIntent
        rw [if_pos (Bool.not_eq_false _ ▸ idle)]
      rw [same] at sent
      exact absurd (List.append_right_eq_self.1 sent.symm) (List.cons_ne_nil _ _)
  · intro past world event traced both
    exact step_traced past traced both.1 both.2

/-- A takeoff is selected, accepted and armed. -/
theorem accepted_takeoff_armed :
    Always step ModeKept [] create
      [.selectMode .takeoff, .accepts 0, .succeeds 0, .toggleArm, .accepts 1, .succeeds 1] :=
  mode_kept _ (by decide) (by decide)

/-- The backend refuses a takeoff, and Arm is pressed next. -/
def refusedTakeoff : List WorldEvent := [.selectMode .takeoff, .fails 0 "Request failed.", .toggleArm]

/-- The arm click sends the refused takeoff again. -/
theorem refused_takeoff_resent :
    Always step (fun _ world event => world.mayHappen event = true) [] create refusedTakeoff ∧
      ¬ Always step ModeKept [] create refusedTakeoff := by
  refine ⟨⟨rfl, rfl, rfl, trivial⟩, ?_⟩
  intro ⟨_, _, kept, _⟩
  have code := kept.sent rfl _ rfl
  revert code
  decide

end World
end AotDrone.Webapp
