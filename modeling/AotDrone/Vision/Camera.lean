import AotDrone.Lib.Double
import AotDrone.Lib.Run

/-! The camera and how it comes back (`camera.py`). -/

namespace AotDrone.Vision
open AotDrone.Lib AotDrone.Lib.Double AotDrone.Lib.Run

inductive SourceKind where
  | webcam
  | file
  deriving DecidableEq, Repr

/-- The configuration as `__init__` keeps it. -/
structure CameraConfig where
  kind : SourceKind
  reconnectInitial : Double
  reconnectMax : Double
  blackFramesAfterOpen : Nat

def CameraConfig.create (kind : SourceKind) (reconnectInitial reconnectMax : Double) (blackFramesAfterOpen : ℤ) :
    CameraConfig where
  kind := kind
  reconnectInitial := pyMax 0 reconnectInitial
  reconnectMax := pyMax (pyMax 0 reconnectInitial) reconnectMax
  blackFramesAfterOpen := blackFramesAfterOpen.toNat

/-- The captures are numbered as `cv2` makes them. -/
structure CameraSource where
  config : CameraConfig
  /-- `none` is the sentinel that stands for a released capture. -/
  capture : Option Nat
  postOpenGraceRemaining : Nat
  nextBackoff : Double
  /-- How many captures have been made. -/
  made : Nat

/-- A source whose first capture has been opened. -/
def CameraSource.create (config : CameraConfig) : CameraSource where
  config := config
  capture := some 0
  postOpenGraceRemaining := config.blackFramesAfterOpen
  nextBackoff := config.reconnectInitial
  made := 1

/-- What is done to the captures, and what a read of one gives: a frame, or nothing. The sentinel can be read too. -/
inductive CameraEvent where
  | read (capture : Option Nat) (good : Bool)
  | release (capture : Nat)
  | sleep (seconds : Double)
  | reopen (capture : Nat) (opened : Bool)

/-- What the device answers in one call of `read`, as far as it is asked: to the first read, to a reopen, and to the
read after it. -/
structure DeviceAnswers (F : Type) where
  current : Bool × Option F
  opened : Bool
  first : Bool × Option F

structure ReadCall (F : Type) where
  answer : Bool × Option F
  log : List CameraEvent
  after : CameraSource

/-- `ok and frame is not None` -/
def goodFrame {F : Type} : Bool × Option F → Option F
  | (true, frame) => frame
  | (false, _) => none

namespace CameraSource
variable {F : Type} [Fpu]

omit [Fpu] in
/-- `self._capture.read()`, which the sentinel answers itself. -/
def readCapture (source : CameraSource) (answer : Bool × Option F) : Option F :=
  match source.capture with
  | none => none
  | some _ => goodFrame answer

def escalated (source : CameraSource) : Double :=
  pyMin source.config.reconnectMax (pyMax (source.nextBackoff * 2) 0.05)

/-- The capture is released, and the backoff waited for. -/
def closing (source : CameraSource) : List CameraEvent :=
  source.capture.toList.map CameraEvent.release ++ if 0 < source.nextBackoff then [.sleep source.nextBackoff] else []

def attemptOneReconnect (source : CameraSource) (answers : DeviceAnswers F) : ReadCall F :=
  let capture := source.made
  let dead := { source with capture := none, made := source.made + 1 }
  if answers.opened = false then
    -- A capture that does not open is released before it is kept.
    { answer := (false, none)
      log := source.closing ++ [.reopen capture false, .release capture]
      after := { dead with nextBackoff := source.escalated } }
  else
    let fresh := { dead with capture := some capture, postOpenGraceRemaining := source.config.blackFramesAfterOpen }
    match fresh.readCapture answers.first with
    | some frame =>
      { answer := (true, some frame)
        log := source.closing ++ [.reopen capture true, .read (some capture) true]
        after := { fresh with nextBackoff := source.config.reconnectInitial } }
    | none =>
      { answer := (false, none)
        log := source.closing ++ [.reopen capture true, .read (some capture) false]
        after :=
          { fresh with
            postOpenGraceRemaining := fresh.postOpenGraceRemaining - 1
            nextBackoff := source.escalated } }

def read (source : CameraSource) (answers : DeviceAnswers F) : ReadCall F :=
  match source.readCapture answers.current with
  | some frame =>
    { answer := (true, some frame)
      log := [.read source.capture true]
      after :=
        { source with
          postOpenGraceRemaining := source.config.blackFramesAfterOpen
          nextBackoff := source.config.reconnectInitial } }
  | none =>
    let empty := CameraEvent.read source.capture false
    if source.config.kind ≠ .webcam then { answer := (false, none), log := [empty], after := source }
    else if 0 < source.postOpenGraceRemaining then
      { answer := (false, none)
        log := [empty]
        after := { source with postOpenGraceRemaining := source.postOpenGraceRemaining - 1 } }
    else
      let call := source.attemptOneReconnect answers
      { call with log := empty :: call.log }

def step (source : CameraSource) (answers : DeviceAnswers F) : CameraSource := (source.read answers).after

/-! ## The schedule -/

/-- All that has been done to the captures, after the first was opened. -/
def history (past : Past CameraSource (DeviceAnswers F)) : List CameraEvent :=
  past.flatMap fun earlier => (earlier.1.read earlier.2).log

end CameraSource

namespace CameraEvent

def isReopen : CameraEvent → Bool
  | reopen _ _ => true
  | _ => false

def countEmpty (count : Nat) : CameraEvent → Nat
  | read _ true | reopen _ true => 0
  | read _ false => count + 1
  | _ => count

def countReopen (count : Nat) : CameraEvent → Nat
  | read _ true => 0
  | reopen _ _ => count + 1
  | _ => count

def addWait (waits : List Double) : CameraEvent → List Double
  | read _ _ => []
  | sleep seconds => waits ++ [seconds]
  | _ => waits

end CameraEvent

/-- The empty reads since the last good frame or successful reopen. -/
def empties (log : List CameraEvent) : Nat := log.foldl CameraEvent.countEmpty 0

/-- The reopens since the last good frame. -/
def reopens (log : List CameraEvent) : Nat := log.foldl CameraEvent.countReopen 0

theorem empties_read (log : List CameraEvent) (capture : Option Nat) (good : Bool) :
    empties (log ++ [.read capture good]) = if good then 0 else empties log + 1 := by
  unfold empties
  rw [List.foldl_append]
  cases good <;> rfl

theorem reopens_read (log : List CameraEvent) (capture : Option Nat) (good : Bool) :
    reopens (log ++ [.read capture good]) = if good then 0 else reopens log := by
  unfold reopens
  rw [List.foldl_append]
  cases good <;> rfl

/-- The waits since the last read. -/
def waited (log : List CameraEvent) : List Double := log.foldl CameraEvent.addWait []

namespace CameraConfig
variable [Fpu] (config : CameraConfig)

/-- The wait before a reopen, by the number of reopens before it. -/
def wait : Nat → Double
  | 0 => config.reconnectInitial
  | k + 1 => pyMin config.reconnectMax (pyMax (wait k * 2) 0.05)

/-- No wait is longer than the longest that was asked for. -/
theorem wait_le_max (kind : SourceKind) (initial longest : Double) (blackFrames : ℤ) (k : Nat) :
    (create kind initial longest blackFrames).wait k ≤ (create kind initial longest blackFrames).reconnectMax := by
  have start : (0 : Double) ≤ pyMax 0 initial := Double.le_pyMax (fin_le_fin.2 le_rfl) initial
  have most : pyMax 0 initial ≤ pyMax (pyMax 0 initial) longest := Double.le_pyMax (Double.number_of_le start) longest
  cases k with
  | zero => exact most
  | succ k => exact Double.pyMin_le (Double.number_of_le most) _

/-- What holds of an event, with the events before it. A wait of zero is no wait. -/
def EventKept (before : List CameraEvent) : CameraEvent → Prop
  | .reopen _ _ =>
    config.blackFramesAfterOpen < empties before ∧
      waited before = if 0 < config.wait (reopens before) then [config.wait (reopens before)] else []
  | .read (some capture) _ => .release capture ∉ before
  | _ => True

end CameraConfig

namespace CameraSource
variable {F : Type} [Fpu] {config : CameraConfig} {past : Past CameraSource (DeviceAnswers F)} {source : CameraSource}
  {answers : DeviceAnswers F}

/-- What holds of one call of `read`, with the calls before it. -/
structure CallKept (config : CameraConfig) (past : Past CameraSource (DeviceAnswers F)) (source : CameraSource)
    (answers : DeviceAnswers F) : Prop where
  events : Along config.EventKept (history past) (source.read answers).log
  once : (source.read answers).log.countP CameraEvent.isReopen ≤ 1
  file : config.kind ≠ .webcam → (source.read answers).log.countP CameraEvent.isReopen = 0
  good : (source.read answers).answer.1 = true →
    (source.read answers).answer.2.isSome = true ∧ (source.read answers).after.nextBackoff = config.reconnectInitial ∧
      (source.read answers).after.postOpenGraceRemaining = config.blackFramesAfterOpen

/-- What the history of the captures says of the source. -/
structure SourceInv (config : CameraConfig) (log : List CameraEvent) (source : CameraSource) : Prop where
  configIs : source.config = config
  grace : config.blackFramesAfterOpen ≤ empties log + source.postOpenGraceRemaining
  backoff : source.nextBackoff = config.wait (reopens log)
  alive : ∀ capture ∈ source.capture, capture < source.made ∧ .release capture ∉ log
  numbered : ∀ capture, .release capture ∈ log → capture < source.made

/-- The ways through a call of `read`. -/
inductive Reads (source : CameraSource) : List CameraEvent → Bool × Option F → CameraSource → Prop
  | good (frame : F) :
      Reads source [.read source.capture true] (true, some frame)
        { source with
          postOpenGraceRemaining := source.config.blackFramesAfterOpen
          nextBackoff := source.config.reconnectInitial }
  | ended (kind : source.config.kind ≠ .webcam) :
      Reads source [.read source.capture false] (false, none) source
  | tolerated (kind : source.config.kind = .webcam) (grace : 0 < source.postOpenGraceRemaining) :
      Reads source [.read source.capture false] (false, none)
        { source with postOpenGraceRemaining := source.postOpenGraceRemaining - 1 }
  | failed (kind : source.config.kind = .webcam) (grace : source.postOpenGraceRemaining = 0) :
      Reads source
        (.read source.capture false :: (source.closing ++ [.reopen source.made false, .release source.made]))
        (false, none)
        { source with capture := none, made := source.made + 1, nextBackoff := source.escalated }
  | emptied (kind : source.config.kind = .webcam) (grace : source.postOpenGraceRemaining = 0) :
      Reads source
        (.read source.capture false :: (source.closing ++ [.reopen source.made true, .read (some source.made) false]))
        (false, none)
        { source with
          capture := some source.made
          made := source.made + 1
          postOpenGraceRemaining := source.config.blackFramesAfterOpen - 1
          nextBackoff := source.escalated }
  | recovered (frame : F) (kind : source.config.kind = .webcam) (grace : source.postOpenGraceRemaining = 0) :
      Reads source
        (.read source.capture false :: (source.closing ++ [.reopen source.made true, .read (some source.made) true]))
        (true, some frame)
        { source with
          capture := some source.made
          made := source.made + 1
          postOpenGraceRemaining := source.config.blackFramesAfterOpen
          nextBackoff := source.config.reconnectInitial }

theorem read_reads (source : CameraSource) (answers : DeviceAnswers F) :
    source.Reads (source.read answers).log (source.read answers).answer (source.read answers).after := by
  unfold read
  cases answered : source.readCapture answers.current with
  | some frame => exact .good frame
  | none =>
    dsimp only
    split_ifs with file grace
    · exact .ended file
    · exact .tolerated (not_not.1 file) grace
    · have kind := not_not.1 file
      have spent := Nat.eq_zero_of_not_pos grace
      unfold attemptOneReconnect
      dsimp only
      split_ifs with shut
      · exact .failed kind spent
      · split
        next frame _ => exact .recovered frame kind spent
        next => exact .emptied kind spent

omit [Fpu] in
theorem empties_closing (source : CameraSource) (log : List CameraEvent) : empties (log ++ source.closing) = empties log := by
  unfold closing empties
  rw [List.foldl_append, List.foldl_append]
  cases source.capture <;> split_ifs <;> rfl

omit [Fpu] in
theorem reopens_closing (source : CameraSource) (log : List CameraEvent) : reopens (log ++ source.closing) = reopens log := by
  unfold closing reopens
  rw [List.foldl_append, List.foldl_append]
  cases source.capture <;> split_ifs <;> rfl

omit [Fpu] in
theorem waited_closing (log : List CameraEvent) (capture : Option Nat) (good : Bool) :
    waited (log ++ [.read capture good] ++ source.closing) =
      if 0 < source.nextBackoff then [source.nextBackoff] else [] := by
  unfold closing waited
  rw [List.foldl_append, List.foldl_append, List.foldl_append]
  cases source.capture <;> split_ifs <;> rfl

theorem along_closing (before : List CameraEvent) : Along config.EventKept before source.closing := by
  unfold closing
  cases source.capture <;> split_ifs <;> simp [Along, CameraConfig.EventKept]

omit [Fpu] in
theorem mem_closing {capture : Nat} (released : .release capture ∈ source.closing) : source.capture = some capture := by
  unfold closing at released
  rcases List.mem_append.1 released with held | slept
  · obtain ⟨_, member, same⟩ := List.mem_map.1 held
    rw [← CameraEvent.release.inj same]
    exact Option.mem_toList.1 member
  · split_ifs at slept
    · cases List.mem_singleton.1 slept
    · cases slept

omit [Fpu] in
theorem closing_reopens : source.closing.countP CameraEvent.isReopen = 0 := by
  unfold closing
  cases source.capture <;> split_ifs <;> rfl

variable {log : List CameraEvent}

theorem SourceInv.read_kept (inv : SourceInv config log source) (good : Bool) :
    config.EventKept log (.read source.capture good) := by
  cases held : source.capture with
  | none => trivial
  | some capture => exact (inv.alive capture held).2

/-- The reopen of a call: the source has been patient, and has waited. -/
theorem SourceInv.reopen_kept (inv : SourceInv config log source) (grace : source.postOpenGraceRemaining = 0)
    (opened : Bool) (later : List CameraEvent)
    (rest : Along config.EventKept
      (log ++ [.read source.capture false] ++ source.closing ++ [.reopen source.made opened]) later) :
    Along config.EventKept log
      (.read source.capture false :: (source.closing ++ .reopen source.made opened :: later)) := by
  refine ⟨inv.read_kept false, (along_append _ _ _ _).2 ⟨along_closing _, ⟨?_, ?_⟩, rest⟩⟩
  · have spent := inv.grace
    rw [grace] at spent
    rw [empties_closing, empties_read]
    exact Nat.lt_succ_of_le spent
  · rw [waited_closing, reopens_closing, reopens_read, inv.backoff]
    rfl

/-- A capture that has just been made has not been released. -/
theorem SourceInv.fresh (inv : SourceInv config log source) (opened : Bool) :
    .release source.made ∉ log ++ [.read source.capture false] ++ source.closing ++ [.reopen source.made opened] := by
  intro released
  simp only [List.mem_append, List.mem_singleton] at released
  rcases released with ((before | read) | closed) | reopened
  · exact (inv.numbered _ before).false
  · cases read
  · exact (inv.alive _ (mem_closing closed)).1.false
  · cases reopened

theorem SourceInv.released (inv : SourceInv config log source) {capture : Nat} {later : List CameraEvent}
    (released : .release capture ∈ log ++ .read source.capture false :: (source.closing ++ later))
    (other : .release capture ∉ later) : capture < source.made := by
  simp only [List.mem_append, List.mem_cons] at released
  rcases released with before | read | closed | after
  · exact inv.numbered _ before
  · cases read
  · exact (inv.alive _ (mem_closing closed)).1
  · exact absurd after other

omit [Fpu] in
theorem empties_call (log rest : List CameraEvent) :
    empties (log ++ .read source.capture false :: (source.closing ++ rest)) =
      rest.foldl CameraEvent.countEmpty (empties log + 1) := by
  have closed := (empties_closing source _).trans (empties_read log source.capture false)
  unfold empties at closed ⊢
  rw [List.append_cons, ← List.append_assoc, List.foldl_append, closed]
  rfl

omit [Fpu] in
theorem reopens_call (log rest : List CameraEvent) :
    reopens (log ++ .read source.capture false :: (source.closing ++ rest)) =
      rest.foldl CameraEvent.countReopen (reopens log) := by
  have closed := (reopens_closing source _).trans (reopens_read log source.capture false)
  unfold reopens at closed ⊢
  rw [List.append_cons, ← List.append_assoc, List.foldl_append, closed]
  rfl

theorem SourceInv.escalated (inv : SourceInv config log source) :
    source.escalated = config.wait (reopens log + 1) := by
  unfold CameraSource.escalated CameraConfig.wait
  rw [inv.configIs, inv.backoff]

/-- A single read leaves every capture as it was. -/
theorem SourceInv.read_alive (inv : SourceInv config log source) (good : Bool) :
    (∀ capture ∈ source.capture,
        capture < source.made ∧ .release capture ∉ log ++ [CameraEvent.read source.capture good]) ∧
      ∀ capture, .release capture ∈ log ++ [CameraEvent.read source.capture good] → capture < source.made := by
  simp only [List.mem_append, List.mem_singleton, reduceCtorEq, or_false]
  exact ⟨inv.alive, inv.numbered⟩

/-- A capture that has been opened again is the one that is held. -/
theorem SourceInv.reopen_alive (inv : SourceInv config log source) (good : Bool) :
    let trace := log ++ .read source.capture false ::
      (source.closing ++ [.reopen source.made true, .read (some source.made) good])
    (∀ capture ∈ some source.made, capture < source.made + 1 ∧ .release capture ∉ trace) ∧
      ∀ capture, .release capture ∈ trace → capture < source.made + 1 := by
  intro trace
  constructor
  · rintro _ ⟨⟩
    exact ⟨Nat.lt_succ_self _, fun released => (inv.released released (by simp)).false⟩
  · exact fun capture released => Nat.lt_succ_of_lt (inv.released released (by simp))

/-- One call keeps to the schedule, and the source keeps in step with its history. -/
theorem SourceInv.read (inv : SourceInv config log source) (answers : DeviceAnswers F) :
    Along config.EventKept log (source.read answers).log ∧
      SourceInv config (log ++ (source.read answers).log) (source.read answers).after := by
  have reads := read_reads source answers
  have escalated := inv.escalated
  have grace := inv.grace
  have backoff := inv.backoff
  obtain rfl := inv.configIs
  generalize (source.read answers).log = events at reads ⊢
  generalize (source.read answers).answer = answer at reads
  generalize (source.read answers).after = after at reads ⊢
  cases reads with
  | good frame =>
    obtain ⟨alive, numbered⟩ := inv.read_alive true
    refine ⟨⟨inv.read_kept true, trivial⟩, rfl, ?_, ?_, alive, numbered⟩
    · rw [empties_read]
      exact (Nat.zero_add _).ge
    · rw [reopens_read]
      rfl
  | ended kind =>
    obtain ⟨alive, numbered⟩ := inv.read_alive false
    refine ⟨⟨inv.read_kept false, trivial⟩, rfl, ?_, ?_, alive, numbered⟩
    · rw [empties_read]
      change source.config.blackFramesAfterOpen ≤ empties log + 1 + source.postOpenGraceRemaining
      omega
    · rw [reopens_read]
      exact backoff
  | tolerated kind left =>
    obtain ⟨alive, numbered⟩ := inv.read_alive false
    refine ⟨⟨inv.read_kept false, trivial⟩, rfl, ?_, ?_, alive, numbered⟩
    · rw [empties_read]
      change source.config.blackFramesAfterOpen ≤ empties log + 1 + (source.postOpenGraceRemaining - 1)
      omega
    · rw [reopens_read]
      exact backoff
  | failed kind spent =>
    refine ⟨inv.reopen_kept spent false _ ⟨trivial, trivial⟩, rfl, ?_, ?_, nofun, ?_⟩
    · rw [empties_call]
      exact grace.trans (Nat.add_le_add_right (Nat.le_succ _) _)
    · rw [reopens_call]
      exact escalated
    · intro capture released
      by_cases new : capture = source.made
      · exact new ▸ Nat.lt_succ_self _
      · exact Nat.lt_succ_of_lt (inv.released released (by simp [new]))
  | emptied kind spent =>
    obtain ⟨alive, numbered⟩ := inv.reopen_alive false
    refine ⟨inv.reopen_kept spent true _ ⟨inv.fresh true, trivial⟩, rfl, ?_, ?_, alive, numbered⟩
    · rw [empties_call]
      change source.config.blackFramesAfterOpen ≤ 1 + (source.config.blackFramesAfterOpen - 1)
      omega
    · rw [reopens_call]
      exact escalated
  | recovered frame kind spent =>
    obtain ⟨alive, numbered⟩ := inv.reopen_alive true
    refine ⟨inv.reopen_kept spent true _ ⟨inv.fresh true, trivial⟩, rfl, ?_, ?_, alive, numbered⟩
    · rw [empties_call]
      exact Nat.le_add_left _ _
    · rw [reopens_call]
      rfl

/-- A call asks for at most one new capture, and only for a webcam; a frame that it returns sets the source back to
the start of its schedule. -/
theorem read_once (source : CameraSource) (answers : DeviceAnswers F) :
    (source.read answers).log.countP CameraEvent.isReopen ≤ (if source.config.kind = .webcam then 1 else 0) ∧
      ((source.read answers).answer.1 = true →
        (source.read answers).answer.2.isSome = true ∧
          (source.read answers).after.nextBackoff = source.config.reconnectInitial ∧
            (source.read answers).after.postOpenGraceRemaining = source.config.blackFramesAfterOpen) := by
  have reads := read_reads source answers
  have once (later : List CameraEvent) :
      (CameraEvent.read source.capture false :: (source.closing ++ later)).countP CameraEvent.isReopen =
        later.countP CameraEvent.isReopen := by
    rw [List.countP_cons_of_neg Bool.noConfusion, List.countP_append, closing_reopens, Nat.zero_add]
  generalize (source.read answers).log = events at reads ⊢
  generalize (source.read answers).answer = answer at reads ⊢
  generalize (source.read answers).after = after at reads ⊢
  cases reads with
  | good frame => exact ⟨Nat.zero_le _, fun _ => ⟨rfl, rfl, rfl⟩⟩
  | ended kind => exact ⟨Nat.zero_le _, nofun⟩
  | tolerated kind left => exact ⟨Nat.zero_le _, nofun⟩
  | failed kind spent =>
    rw [if_pos kind]
    exact ⟨(once _).le, nofun⟩
  | emptied kind spent =>
    rw [if_pos kind]
    exact ⟨(once _).le, nofun⟩
  | recovered frame kind spent =>
    rw [if_pos kind]
    exact ⟨(once _).le, fun _ => ⟨rfl, rfl, rfl⟩⟩

/-- Along every sequence of calls a source keeps to its schedule: it is patient, it waits as the backoff says, it reads
no capture that it has released, and it starts again with a frame. -/
theorem calls_kept (config : CameraConfig) (calls : List (DeviceAnswers F)) :
    Always step (CallKept config) [] (create config) calls := by
  apply Always.of_forall fun past source => SourceInv config (history past) source
  · intro past source answers inv
    obtain ⟨once, good⟩ := read_once source answers
    rw [inv.configIs] at once good
    refine ⟨(inv.read answers).1, once.trans (by split_ifs <;> decide), ?_, good⟩
    intro file
    rw [if_neg file] at once
    exact Nat.le_zero.1 once
  · intro past source answers inv
    have next := (inv.read answers).2
    have longer : history (past ++ [(source, answers)]) = history past ++ (source.read answers).log := by
      unfold history
      rw [List.flatMap_append, List.flatMap_singleton]
    rw [longer]
    exact next
  · exact ⟨rfl, Nat.le_add_left _ _, rfl, by rintro _ ⟨⟩; exact ⟨Nat.one_pos, List.not_mem_nil⟩, nofun⟩

end CameraSource
end AotDrone.Vision
