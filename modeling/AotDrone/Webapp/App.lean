import AotDrone.Backend.CmdSchema
import AotDrone.Lib.Run

/-! The intents of `App.tsx`: mode selections and arm clicks, with the requests they send and the backend that answers. -/

namespace AotDrone.Webapp
open AotDrone.Backend (Intent postIntent)

inductive ControlMode where
  | manual
  | tracking
  | landSafely
  | takeoff
  deriving DecidableEq, Repr

def ControlMode.code : ControlMode → ℤ
  | manual => 0
  | tracking => 1
  | landSafely => 2
  | takeoff => 3

def toControlModeName : ControlMode → String
  | .manual => "Manual"
  | .tracking => "Tracking"
  | .landSafely => "LandSafely"
  | .takeoff => "Takeoff"

inductive IntentFeedbackKind where
  | idle
  | sending
  | success
  | error
  deriving DecidableEq, Repr

/-- What the intents read and write of the state. -/
structure AppState where
  /-- `linkStatus?.tracking_blocked_reason` -/
  trackingBlockedReason : Option String := none
  selectedMode : ControlMode := .manual
  armed : Bool := false
  intentPending : Bool := false
  intentFeedbackKind : IntentFeedbackKind := .idle
  intentFeedbackMessage : String := "Ready."

inductive AppAction where
  | streamBatch (trackingBlockedReason : Option String)
  | setSelectedMode (mode : ControlMode)
  | setArmed (armed : Bool)
  | intentPending (message : String)
  | intentFinished (kind : IntentFeedbackKind) (message : String)

def reducer (state : AppState) : AppAction → AppState
  | .streamBatch trackingBlockedReason => { state with trackingBlockedReason }
  | .setSelectedMode mode => { state with selectedMode := mode }
  | .setArmed armed => { state with armed }
  | .intentPending message =>
    { state with intentPending := true, intentFeedbackKind := .sending, intentFeedbackMessage := message }
  | .intentFinished kind message =>
    { state with intentPending := false, intentFeedbackKind := kind, intentFeedbackMessage := message }

structure IntentRequest where
  desiredMode : ControlMode
  arm : Option Bool := none
  deriving DecidableEq

/-- The request as the backend reads it. -/
def IntentRequest.body (request : IntentRequest) : Backend.IntentRequest where
  desiredMode := request.desiredMode.code
  arm := request.arm

/-- A call of `postIntent` that has not returned, with what the App tells if it succeeds and what it then sets `armed` to. -/
structure Flight where
  number : Nat
  successMessage : String
  onSuccess : Option Bool

/-- What became of the intent of the last mode selection: sent as a request with a number, or not sent. -/
inductive Selection where
  | none
  | sent (number : Nat)
  | dropped
  deriving DecidableEq

/-- The App and the backend, with the requests between them. Requests are numbered in the order in which they are sent. -/
structure World where
  state : AppState := {}
  intentInFlightRef : Bool := false
  lastDesiredModeRef : ControlMode := .manual
  flights : List Flight := []
  requests : List IntentRequest := []
  /-- The requests whose failure the App has shown. -/
  failed : List Nat := []
  selection : Selection := .none
  /-- The requests that the backend has accepted. -/
  accepted : List Nat := []
  latestIntent : Option Intent := none

inductive WorldEvent where
  | linkStatus (trackingBlockedReason : Option String)
  | selectMode (mode : ControlMode)
  | toggleArm
  /-- The backend accepts a request. -/
  | accepts (number : Nat)
  /-- The App gets the answer to an accepted request. -/
  | succeeds (number : Nat)
  /-- A request is refused, or no answer to it arrives. -/
  | fails (number : Nat) (message : String)

namespace World
variable (world : World)

def create : World := {}

def dispatch (action : AppAction) : World := { world with state := reducer world.state action }

def sendIntent (payload : IntentRequest) (successMessage : String) (onSuccess : Option Bool) : World :=
  if world.intentInFlightRef then world
  else
    { world.dispatch (.intentPending "Sending intent...") with
      intentInFlightRef := true
      flights := world.flights ++ [⟨world.requests.length, successMessage, onSuccess⟩]
      requests := world.requests ++ [payload] }

/-- Tracking is blocked for a reason that is not empty. -/
def trackingBlocked : Bool := world.state.trackingBlockedReason.any (· ≠ "")

def onSelectMode (mode : ControlMode) : World :=
  if mode = .tracking ∧ world.trackingBlocked then
    world.dispatch (.intentFinished .error ("Tracking blocked: " ++ world.state.trackingBlockedReason.getD ""))
  else
    let selection := if world.intentInFlightRef then .dropped else .sent world.requests.length
    { world.dispatch (.setSelectedMode mode) with lastDesiredModeRef := mode, selection }.sendIntent
      { desiredMode := mode } ("Mode intent sent: " ++ toControlModeName mode ++ ".") none

def onToggleArm : World :=
  let nextArm := !world.state.armed
  world.sendIntent { desiredMode := world.lastDesiredModeRef, arm := some nextArm }
    (if nextArm then "Arm intent sent." else "Disarm intent sent.") (some nextArm)

/-- The backend handles a request that is on its way. -/
def accept (number : Nat) : World :=
  match world.requests[number]?.map fun request => postIntent request.body with
  | some (.ok intent) => { world with latestIntent := some intent, accepted := world.accepted ++ [number] }
  | _ => world

/-- The end of `sendIntent`, after the call of `postIntent` has returned. -/
def land (flight : Flight) : World :=
  { world with intentInFlightRef := false, flights := world.flights.filter (·.number ≠ flight.number) }

def succeed (number : Nat) : World :=
  match world.flights.find? (·.number = number) with
  | none => world
  | some flight =>
    let world := world.dispatch (.intentFinished .success flight.successMessage)
    (flight.onSuccess.elim world fun armed => world.dispatch (.setArmed armed)).land flight

def fail (number : Nat) (message : String) : World :=
  match world.flights.find? (·.number = number) with
  | none => world
  | some flight =>
    { world.dispatch (.intentFinished .error message) with failed := world.failed ++ [flight.number] }.land flight

def step : WorldEvent → World
  | .linkStatus trackingBlockedReason => world.dispatch (.streamBatch trackingBlockedReason)
  | .selectMode mode => world.onSelectMode mode
  | .toggleArm => world.onToggleArm
  | .accepts number => world.accept number
  | .succeeds number => world.succeed number
  | .fails number message => world.fail number message

/-- A request is accepted at most once after it has been sent, and answered after it has been accepted. -/
def mayHappen : WorldEvent → Bool
  | .accepts number => number < world.requests.length && !world.accepted.contains number
  | .succeeds number => world.accepted.contains number
  | _ => true

end World
end AotDrone.Webapp
