import AotDrone.Fc.MainLoop
import AotDrone.Lib.Simulation
import Mathlib.Data.List.Perm.Basic

/-! The two threads around `CommandServer` (`CommandServer.cpp`): one calls `start` and `stop`, the other is `run_loop`.
A step is a system call or a section under `socket_mutex_`; the kernel gives out any number that is not open. -/

namespace AotDrone.Fc
open AotDrone.Lib AotDrone.Lib.Double AotDrone.Lib.Run

/-- Where the calling thread stands: between calls, in `start`, or in `stop`. -/
inductive ControlStage where
  | idle
  | socket
  | listen (fd : ℕ)
  | publish (fd : ℕ)
  | run
  | spawn
  | close
  | join

/-- Where `run_loop` stands. -/
inductive WorkerStage where
  | absent
  | top
  | snapshot
  | accepting
  | accepted (fd : ℕ)
  | inner
  | innerSnapshot
  | reading (client : ℕ)
  | lost (client : ℕ)
  | received (json : Text)
  | finishing
  | ended

/-- `opened` are the descriptors that the kernel has open for the server; a `close` of any other number is a stray. -/
structure ServerThreads where
  running : Bool := false
  listenFd : Option ℕ := none
  clientFd : Option ℕ := none
  control : ControlStage := .idle
  worker : WorkerStage := .absent
  mailbox : CommandServer := {}
  opened : List ℕ := []
  strayCloses : ℕ := 0

/-- What the system calls of a step return, and the clock. -/
structure Answer where
  fd : Option ℕ := none
  ok : Bool := true
  json : Option Text := none
  recvTime : Double := 0

inductive ServerEvent where
  | start
  | stop
  | control (answer : Answer)
  | worker (answer : Answer)

namespace ServerThreads

def closeFd (s : ServerThreads) (fd : ℕ) : ServerThreads :=
  if fd ∈ s.opened then { s with opened := s.opened.erase fd } else { s with strayCloses := s.strayCloses + 1 }

/-- `shutdown_and_close_fd` on `client_fd_`. -/
def closeClient (s : ServerThreads) : ServerThreads :=
  match s.clientFd with
  | none => s
  | some fd => { s.closeFd fd with clientFd := none }

/-- `shutdown_and_close_fd` on `listen_fd_`. -/
def closeListen (s : ServerThreads) : ServerThreads :=
  match s.listenFd with
  | none => s
  | some fd => { s.closeFd fd with listenFd := none }

/-- The next step of `start` or `stop`. A `join` waits for the end of the worker. -/
def controlStep (s : ServerThreads) (answer : Answer) : ServerThreads :=
  match s.control with
  | .idle => s
  | .socket =>
    match answer.fd with
    | none => { s with control := .idle }
    | some fd => if fd ∈ s.opened then s else { s with opened := fd :: s.opened, control := .listen fd }
  | .listen fd => if answer.ok then { s with control := .publish fd } else { s.closeFd fd with control := .idle }
  | .publish fd => { s with listenFd := some fd, control := .run }
  | .run => { s with running := true, control := .spawn }
  | .spawn => { s with worker := .top, control := .idle }
  | .close => { s.closeClient.closeListen with control := .join }
  | .join =>
    match s.worker with
    | .absent | .ended => { s with worker := .absent, control := .idle }
    | .top | .snapshot | .accepting | .accepted _ | .inner | .innerSnapshot | .reading _ | .lost _ | .received _
    | .finishing => s

variable [Fpu] [Libc]

/-- The next step of `run_loop`. -/
def workerStep (s : ServerThreads) (answer : Answer) : ServerThreads :=
  match s.worker with
  | .absent | .ended => s
  | .top => if s.running then { s with worker := .snapshot } else { s with worker := .finishing }
  | .snapshot => if s.listenFd.isSome then { s with worker := .accepting } else { s with worker := .finishing }
  | .accepting =>
    match answer.fd with
    | none => { s with worker := .top }
    | some fd => if fd ∈ s.opened then s else { s with opened := fd :: s.opened, worker := .accepted fd }
  | .accepted fd =>
    if s.running then { s.closeClient with clientFd := some fd, worker := .inner }
    else { s.closeFd fd with worker := .finishing }
  | .inner => if s.running then { s with worker := .innerSnapshot } else { s with worker := .top }
  | .innerSnapshot =>
    match s.clientFd with
    | none => { s with worker := .top }
    | some client => { s with worker := .reading client }
  | .reading client =>
    match answer.json with
    | none => { s with worker := .lost client }
    | some json => { s with worker := .received json }
  | .lost client =>
    if s.clientFd = some client then { s.closeClient with worker := .top } else { s with worker := .top }
  | .received json => { s with mailbox := s.mailbox.receive json answer.recvTime, worker := .inner }
  | .finishing => { s.closeClient.closeListen with worker := .ended }

/-- A call waits until the one before it has returned. -/
def step (s : ServerThreads) : ServerEvent → ServerThreads
  | .start =>
    match s.control with
    | .idle => if s.running then s else { s with control := .socket }
    | .socket | .listen _ | .publish _ | .run | .spawn | .close | .join => s
  | .stop =>
    match s.control with
    | .idle => { s with running := false, control := .close }
    | .socket | .listen _ | .publish _ | .run | .spawn | .close | .join => s
  | .control answer => s.controlStep answer
  | .worker answer => s.workerStep answer

end ServerThreads

/-! ## Who holds a descriptor -/

def ControlStage.holds : ControlStage → List ℕ
  | .listen fd | .publish fd => [fd]
  | .idle | .socket | .run | .spawn | .close | .join => []

def WorkerStage.holds : WorkerStage → List ℕ
  | .accepted fd => [fd]
  | .absent | .top | .snapshot | .accepting | .inner | .innerSnapshot | .reading _ | .lost _ | .received _ | .finishing
  | .ended => []

/-- The thread runs and is not on its way out. -/
def WorkerStage.Serving : WorkerStage → Prop
  | .top | .snapshot | .accepting | .accepted _ | .inner | .innerSnapshot | .reading _ | .lost _ | .received _ => True
  | .absent | .finishing | .ended => False

/-- The steps that the thread still takes once `stop` has cleared the flag and the fields. -/
def WorkerStage.left : WorkerStage → ℕ
  | .absent | .ended => 0
  | .finishing => 1
  | .top | .snapshot | .accepted _ => 2
  | .accepting | .inner | .innerSnapshot | .lost _ => 3
  | .received _ => 4
  | .reading _ => 5

namespace ServerThreads

/-- The descriptors in the two fields and in the hands of the two threads. -/
def held (s : ServerThreads) : List ℕ :=
  s.listenFd.toList ++ (s.clientFd.toList ++ (s.worker.holds ++ s.control.holds))

/-- What the calling thread can rely on where it stands. -/
def Settled (s : ServerThreads) : Prop :=
  match s.control with
  | .idle =>
    if s.running then s.listenFd.isSome ∧ s.worker.Serving
    else s.listenFd = none ∧ s.clientFd = none ∧ s.worker = .absent
  | .socket | .listen _ | .publish _ =>
    s.running = false ∧ s.listenFd = none ∧ s.clientFd = none ∧ s.worker = .absent
  | .run => s.running = false ∧ s.listenFd.isSome ∧ s.worker = .absent
  | .spawn => s.running = true ∧ s.listenFd.isSome ∧ s.worker = .absent
  | .close => s.running = false
  | .join => s.running = false ∧ s.listenFd = none ∧ s.clientFd = none

end ServerThreads

/-- The open descriptors are those held, each once, and nothing else was ever closed. -/
structure Books (opened : List ℕ) (strayCloses : ℕ) (held : List ℕ) : Prop where
  accounted : opened.Perm held
  distinct : opened.Nodup
  noStray : strayCloses = 0

structure ServerThreads.Sound (s : ServerThreads) : Prop where
  books : Books s.opened s.strayCloses s.held
  settled : s.Settled

namespace Books

variable {opened held : List ℕ} {strays fd : ℕ}

theorem perm {held' : List ℕ} (books : Books opened strays held) (same : held.Perm held') :
    Books opened strays held' :=
  ⟨books.accounted.trans same, books.distinct, books.noStray⟩

theorem obtained (books : Books opened strays held) (fresh : fd ∉ opened) : Books (fd :: opened) strays (fd :: held) :=
  ⟨books.accounted.cons fd, List.nodup_cons.mpr ⟨fresh, books.distinct⟩, books.noStray⟩

theorem closed (books : Books opened strays (fd :: held)) : fd ∈ opened ∧ Books (opened.erase fd) strays held := by
  have here : fd ∈ opened := books.accounted.mem_iff.mpr List.mem_cons_self
  have rest : (opened.erase fd).Perm held := (List.cons_perm_iff_perm_erase.mp books.accounted.symm).2.symm
  exact ⟨here, rest, books.distinct.erase fd, books.noStray⟩

end Books

namespace ServerThreads

variable {s : ServerThreads} {fd : ℕ} {held : List ℕ}

/-! ## What a `close` does to what is held -/

theorem closeFd_held (books : Books s.opened s.strayCloses (fd :: held)) :
    ∃ left, s.closeFd fd = { s with opened := left } ∧ Books left s.strayCloses held := by
  obtain ⟨here, left⟩ := books.closed
  exact ⟨_, if_pos here, left⟩

theorem closeClient_held (books : Books s.opened s.strayCloses (s.clientFd.toList ++ held)) :
    ∃ left, s.closeClient = { s with opened := left, clientFd := none } ∧ Books left s.strayCloses held := by
  unfold closeClient
  cases client : s.clientFd with
  | none =>
    have same : s = { s with clientFd := none } := by rw [← client]
    rw [client] at books
    exact ⟨s.opened, same, books⟩
  | some fd =>
    rw [client] at books
    obtain ⟨left, closed, kept⟩ := closeFd_held books
    exact ⟨left, by simp only [closed], kept⟩

theorem closeListen_held (books : Books s.opened s.strayCloses (s.listenFd.toList ++ held)) :
    ∃ left, s.closeListen = { s with opened := left, listenFd := none } ∧ Books left s.strayCloses held := by
  unfold closeListen
  cases listening : s.listenFd with
  | none =>
    have same : s = { s with listenFd := none } := by rw [← listening]
    rw [listening] at books
    exact ⟨s.opened, same, books⟩
  | some fd =>
    rw [listening] at books
    obtain ⟨left, closed, kept⟩ := closeFd_held books
    exact ⟨left, by simp only [closed], kept⟩

theorem closeBoth_held (books : Books s.opened s.strayCloses (s.listenFd.toList ++ (s.clientFd.toList ++ held))) :
    ∃ left, s.closeClient.closeListen = { s with opened := left, clientFd := none, listenFd := none } ∧
      Books left s.strayCloses held := by
  obtain ⟨left, client, books⟩ := closeClient_held (books.perm (List.perm_append_comm_assoc ..))
  rw [client]
  obtain ⟨left, listening, books⟩ := closeListen_held
    (s := { s with opened := left, clientFd := none }) books
  exact ⟨left, by rw [listening], books⟩

/-! ## What one step keeps -/

theorem controlStep_sound (sound : s.Sound) (answer : Answer) : (s.controlStep answer).Sound := by
  obtain ⟨books, settled⟩ := sound
  unfold held at books
  unfold Settled at settled
  unfold controlStep
  cases stage : s.control with
  | idle => exact ⟨books, by unfold Settled; exact settled⟩
  | socket =>
    rw [stage] at books settled
    cases answer.fd with
    | none =>
      refine ⟨books, ?_⟩
      change if s.running then _ else _
      rw [if_neg (by simp [settled.1])]
      exact settled.2
    | some fd =>
      dsimp only
      split
      · next taken =>
        refine ⟨?_, ?_⟩
        · unfold held; rw [stage]; exact books
        · unfold Settled; rw [stage]; exact settled
      · next fresh =>
        refine ⟨(books.obtained fresh).perm ?_, settled⟩
        change (fd :: _).Perm (s.listenFd.toList ++ (s.clientFd.toList ++ (s.worker.holds ++ [fd])))
        rw [settled.2.1, settled.2.2.1, settled.2.2.2]
        exact .refl _
  | listen fd =>
    rw [stage] at books settled
    dsimp only
    split
    · exact ⟨books, settled⟩
    · rw [settled.2.1, settled.2.2.1, settled.2.2.2] at books
      obtain ⟨left, closed, kept⟩ := closeFd_held books
      rw [closed]
      refine ⟨?_, ?_⟩
      · change Books left s.strayCloses (s.listenFd.toList ++ (s.clientFd.toList ++ (s.worker.holds ++ [])))
        rw [settled.2.1, settled.2.2.1, settled.2.2.2]
        exact kept
      · change if s.running then _ else _
        rw [if_neg (by simp [settled.1])]
        exact settled.2
  | publish fd =>
    rw [stage] at books settled
    refine ⟨?_, settled.1, rfl, settled.2.2.2⟩
    change Books s.opened s.strayCloses ([fd] ++ (s.clientFd.toList ++ (s.worker.holds ++ [])))
    rw [settled.2.1] at books
    rw [settled.2.2.1, settled.2.2.2] at books ⊢
    exact books
  | run =>
    rw [stage] at books settled
    exact ⟨books, rfl, settled.2⟩
  | spawn =>
    rw [stage] at books settled
    refine ⟨?_, ?_⟩
    · rw [settled.2.2] at books
      exact books
    · change if s.running then _ else _
      rw [if_pos settled.1]
      exact ⟨settled.2.1, trivial⟩
  | close =>
    rw [stage] at books settled
    obtain ⟨left, closed, kept⟩ := closeBoth_held books
    rw [closed]
    exact ⟨kept, settled, rfl, rfl⟩
  | join =>
    rw [stage] at books settled
    obtain ⟨halted, listening, client⟩ := settled
    have idles (none_held : s.worker.holds = []) : Sound { s with worker := .absent, control := .idle } := by
      refine ⟨?_, ?_⟩
      · rw [none_held] at books
        exact books
      · change if s.running then _ else _
        rw [if_neg (by simp [halted])]
        exact ⟨listening, client, rfl⟩
    have waits : s.Sound := by
      refine ⟨?_, ?_⟩
      · unfold held; rw [stage]; exact books
      · unfold Settled; rw [stage]; exact ⟨halted, listening, client⟩
    dsimp only
    split
    · next gone => exact idles (by rw [gone]; rfl)
    · next done => exact idles (by rw [done]; rfl)
    all_goals exact waits

theorem third_perm {listening client rest : List ℕ} :
    (listening ++ (client ++ fd :: rest)).Perm (fd :: (listening ++ (client ++ rest))) := by
  rw [← List.append_assoc, ← List.append_assoc]
  exact List.perm_middle

/-- What the caller relies on stays true when a worker that it started moves on. -/
theorem Settled.moved (settled : s.Settled) (present : s.worker ≠ .absent) {worker : WorkerStage}
    {clientFd : Option ℕ} (serving : s.running = true → s.listenFd.isSome → worker.Serving)
    (client : s.running = false → s.clientFd = none → clientFd = none) (opened : List ℕ) :
    Settled { s with worker := worker, clientFd := clientFd, opened := opened } := by
  unfold Settled at settled ⊢
  dsimp only
  split at settled
  · split at settled
    · next on =>
      rw [if_pos on]
      exact ⟨settled.1, serving on settled.1⟩
    · exact absurd settled.2.2 present
  · exact absurd settled.2.2.2 present
  · exact absurd settled.2.2.2 present
  · exact absurd settled.2.2.2 present
  · exact absurd settled.2.2 present
  · exact absurd settled.2.2 present
  · exact settled
  · exact ⟨settled.1, settled.2.1, client settled.1 settled.2.2⟩

/-- A worker on its way out is one that `stop` waits for. -/
theorem Settled.finished (settled : s.Settled) (leaving : s.worker = .finishing) (opened : List ℕ) :
    Settled { s with opened := opened, clientFd := none, listenFd := none, worker := .ended } := by
  unfold Settled at settled ⊢
  rw [leaving] at settled
  dsimp only
  split at settled
  · split at settled
    · exact settled.2.elim
    · exact nomatch settled.2.2
  · exact nomatch settled.2.2.2
  · exact nomatch settled.2.2.2
  · exact nomatch settled.2.2.2
  · exact nomatch settled.2.2
  · exact nomatch settled.2.2
  · exact settled
  · exact ⟨settled.1, rfl, rfl⟩

variable [Fpu] [Libc]

theorem workerStep_sound (sound : s.Sound) (answer : Answer) : (s.workerStep answer).Sound := by
  have books := sound.books
  have settled := sound.settled
  unfold held at books
  unfold workerStep
  have moved (present : s.worker ≠ .absent) {worker : WorkerStage} (serving : worker.Serving) (opened : List ℕ) :
      Settled { s with worker := worker, opened := opened } :=
    settled.moved present (fun _ _ => serving) (fun _ none_held => none_held) opened
  have halted (present : s.worker ≠ .absent) (off : ¬s.running = true) (opened : List ℕ) :
      Settled { s with worker := .finishing, opened := opened } :=
    settled.moved present (fun on _ => absurd on off) (fun _ none_held => none_held) opened
  cases stage : s.worker with
  | absent => exact sound
  | ended => exact sound
  | top =>
    have present : s.worker ≠ .absent := by simp [stage]
    rw [stage] at books
    dsimp only
    split
    · exact ⟨books, moved present (by trivial) _⟩
    · next off => exact ⟨books, halted present off _⟩
  | snapshot =>
    have present : s.worker ≠ .absent := by simp [stage]
    rw [stage] at books
    dsimp only
    split
    · exact ⟨books, moved present (by trivial) _⟩
    · next gone =>
      exact ⟨books, settled.moved present (fun _ here => absurd here gone) (fun _ none_held => none_held) _⟩
  | accepting =>
    have present : s.worker ≠ .absent := by simp [stage]
    rw [stage] at books
    cases answer.fd with
    | none => exact ⟨books, moved present (by trivial) _⟩
    | some fd =>
      dsimp only
      split
      · exact sound
      · next fresh =>
        refine ⟨(books.obtained fresh).perm ?_, moved present (by trivial) _⟩
        exact third_perm.symm
  | accepted fd =>
    have present : s.worker ≠ .absent := by simp [stage]
    rw [stage] at books
    dsimp only
    split
    · next on =>
      obtain ⟨left, closed, kept⟩ := closeClient_held (books.perm (List.perm_append_comm_assoc ..))
      rw [closed]
      refine ⟨kept, settled.moved present (fun _ _ => by trivial) (fun off => ?_) left⟩
      rw [on] at off
      cases off
    · next off =>
      obtain ⟨left, closed, kept⟩ := closeFd_held (books.perm third_perm)
      rw [closed]
      exact ⟨kept, halted present off left⟩
  | inner =>
    have present : s.worker ≠ .absent := by simp [stage]
    rw [stage] at books
    dsimp only
    split <;> exact ⟨books, moved present (by trivial) _⟩
  | innerSnapshot =>
    have present : s.worker ≠ .absent := by simp [stage]
    rw [stage] at books
    dsimp only
    split <;> exact ⟨books, moved present (by trivial) _⟩
  | reading client =>
    have present : s.worker ≠ .absent := by simp [stage]
    rw [stage] at books
    dsimp only
    split <;> exact ⟨books, moved present (by trivial) _⟩
  | lost client =>
    have present : s.worker ≠ .absent := by simp [stage]
    rw [stage] at books
    dsimp only
    split
    · obtain ⟨left, closed, kept⟩ := closeClient_held (books.perm (List.perm_append_comm_assoc ..))
      rw [closed]
      exact ⟨kept, settled.moved present (fun _ _ => by trivial) (fun _ _ => rfl) left⟩
    · exact ⟨books, moved present (by trivial) _⟩
  | received json =>
    have present : s.worker ≠ .absent := by simp [stage]
    rw [stage] at books
    exact ⟨books, moved present (by trivial) s.opened⟩
  | finishing =>
    rw [stage] at books
    obtain ⟨left, closed, kept⟩ := closeBoth_held books
    rw [closed]
    exact ⟨kept, settled.finished stage left⟩

theorem step_sound (s : ServerThreads) (event : ServerEvent) (sound : s.Sound) : (s.step event).Sound := by
  obtain ⟨books, settled⟩ := sound
  cases event with
  | control answer => exact controlStep_sound ⟨books, settled⟩ answer
  | worker answer => exact workerStep_sound ⟨books, settled⟩ answer
  | start =>
    unfold step
    cases stage : s.control with
    | idle =>
      unfold held at books
      unfold Settled at settled
      rw [stage] at books settled
      dsimp only
      split
      · next on =>
        refine ⟨?_, ?_⟩
        · unfold held; rw [stage]; exact books
        · unfold Settled; rw [stage]; exact settled
      · next off =>
        rw [if_neg off] at settled
        exact ⟨books, by simpa using off, settled⟩
    | socket | listen | publish | run | spawn | close | join => exact ⟨books, settled⟩
  | stop =>
    unfold step
    cases stage : s.control with
    | idle =>
      unfold held at books
      rw [stage] at books
      exact ⟨books, rfl⟩
    | socket | listen | publish | run | spawn | close | join => exact ⟨books, settled⟩

theorem run_sound (events : List ServerEvent) : (events.foldl step {}).Sound :=
  foldl_invariant Sound step_sound {} events ⟨⟨.refl _, .nil, rfl⟩, rfl, rfl, rfl⟩

/-! ## `stop` returns -/

omit [Fpu] [Libc] in
theorem closeFd_control (s : ServerThreads) (fd : ℕ) : (s.closeFd fd).control = s.control := by
  unfold closeFd
  split <;> rfl

omit [Fpu] [Libc] in
theorem closeClient_control (s : ServerThreads) : s.closeClient.control = s.control := by
  unfold closeClient
  split
  · rfl
  · exact closeFd_control s _

omit [Fpu] [Libc] in
theorem closeListen_control (s : ServerThreads) : s.closeListen.control = s.control := by
  unfold closeListen
  split
  · rfl
  · exact closeFd_control s _

theorem workerStep_control (s : ServerThreads) (answer : Answer) : (s.workerStep answer).control = s.control := by
  unfold workerStep
  split
  all_goals try split
  all_goals try split
  all_goals simp only [closeFd_control, closeClient_control, closeListen_control]

omit [Fpu] [Libc] in
/-- Once `stop` waits, only the hands of the worker hold anything. -/
theorem Sound.opened_join (sound : s.Sound) (waiting : s.control = .join) : s.opened.Perm s.worker.holds := by
  have settled := sound.settled
  have accounted := sound.books.accounted
  unfold Settled at settled
  unfold held at accounted
  rw [waiting] at settled accounted
  rw [settled.2.1, settled.2.2] at accounted
  simpa [ControlStage.holds] using accounted

theorem workerStep_left (sound : s.Sound) (waiting : s.control = .join) (answer : Answer) :
    (s.workerStep answer).worker.left ≤ s.worker.left - 1 := by
  have accounted := sound.opened_join waiting
  have settled := sound.settled
  unfold Settled at settled
  rw [waiting] at settled
  obtain ⟨off, listening, client⟩ := settled
  unfold workerStep
  cases stage : s.worker with
  | absent => simp [stage, WorkerStage.left]
  | ended => simp [stage, WorkerStage.left]
  | top => simp [off, WorkerStage.left]
  | snapshot => simp [listening, WorkerStage.left]
  | accepting =>
    rw [stage] at accounted
    have nothing : s.opened = [] := accounted.eq_nil
    cases answer.fd with
    | none => simp [WorkerStage.left]
    | some fd => simp [nothing, WorkerStage.left]
  | accepted fd => simp [off, WorkerStage.left]
  | inner => simp [off, WorkerStage.left]
  | innerSnapshot => simp [client, WorkerStage.left]
  | reading fd => cases answer.json <;> simp [WorkerStage.left]
  | lost fd => simp [client, WorkerStage.left]
  | received json => simp [WorkerStage.left]
  | finishing => simp [WorkerStage.left]

/-- Whatever its system calls return, the worker ends within as many steps as it has left. -/
theorem worker_ends (sound : s.Sound) (waiting : s.control = .join) (answers : List Answer)
    (enough : s.worker.left ≤ answers.length) :
    let s' := (answers.map ServerEvent.worker).foldl step s
    s'.Sound ∧ s'.control = .join ∧ s'.worker.left = 0 := by
  induction answers generalizing s with
  | nil => exact ⟨sound, waiting, Nat.le_zero.mp enough⟩
  | cons answer rest ih =>
    have less := workerStep_left sound waiting answer
    refine ih (workerStep_sound sound answer) ?_ ?_
    · exact (workerStep_control s answer).trans waiting
    · simp only [List.length_cons] at enough
      change (s.workerStep answer).worker.left ≤ rest.length
      omega

omit [Fpu] [Libc] in
theorem join_returns (waiting : s.control = .join) (done : s.worker.left = 0) (answer : Answer) :
    s.controlStep answer = { s with worker := .absent, control := .idle } := by
  unfold controlStep
  rw [waiting]
  cases stage : s.worker <;> simp_all [WorkerStage.left]

omit [Fpu] [Libc] in
theorem Sound.stopped (sound : s.Sound) (idle : s.control = .idle) (off : s.running = false) :
    s.opened = [] ∧ s.worker = .absent := by
  have settled := sound.settled
  have accounted := sound.books.accounted
  unfold Settled at settled
  unfold held at accounted
  rw [idle] at settled accounted
  dsimp only at settled
  rw [if_neg (by simp [off])] at settled
  rw [settled.1, settled.2.1, settled.2.2] at accounted
  exact ⟨accounted.eq_nil, settled.2.2⟩

/-- However the caller and the receive thread interleave and whatever the system calls return: no descriptor is closed
twice or left behind, a server that says it runs listens on a live thread, and a `stop` that waits returns once the
thread has taken five steps, with nothing open and no thread. -/
theorem descriptors_accounted (events : List ServerEvent) :
    let s := events.foldl step {}
    s.strayCloses = 0 ∧ s.opened.Nodup ∧ s.opened.Perm s.held ∧
      (s.control = .idle → s.running = true → s.listenFd.isSome ∧ s.worker.Serving) ∧
      (s.control = .idle → s.running = false → s.opened = [] ∧ s.worker = .absent) ∧
      (s.control = .spawn → s.worker = .absent) ∧
      (s.control = .join → ∀ answers : List Answer, 5 ≤ answers.length → ∀ answer : Answer,
        let stopped := ((answers.map ServerEvent.worker).foldl step s).step (.control answer)
        stopped.control = .idle ∧ stopped.running = false ∧ stopped.opened = [] ∧ stopped.worker = .absent) := by
  intro s
  have sound : s.Sound := run_sound events
  have settled := sound.settled
  unfold Settled at settled
  refine ⟨sound.books.noStray, sound.books.distinct, sound.books.accounted, ?_, sound.stopped, ?_, ?_⟩
  · intro idle on
    rw [idle] at settled
    dsimp only at settled
    rw [if_pos on] at settled
    exact settled
  · intro spawning
    rw [spawning] at settled
    exact settled.2.2
  · intro waiting answers enough answer
    have most : s.worker.left ≤ 5 := by
      cases s.worker <;> simp [WorkerStage.left]
    obtain ⟨later, still, done⟩ := worker_ends sound waiting answers (by omega)
    have returned := join_returns still done answer
    have off : ((answers.map ServerEvent.worker).foldl step s).running = false := by
      have kept := later.settled
      unfold Settled at kept
      rw [still] at kept
      exact kept.1
    have ended : (((answers.map ServerEvent.worker).foldl step s).controlStep answer).Sound :=
      controlStep_sound later answer
    change (ServerThreads.controlStep _ answer).control = _ ∧ (ServerThreads.controlStep _ answer).running = _ ∧
      (ServerThreads.controlStep _ answer).opened = _ ∧ (ServerThreads.controlStep _ answer).worker = _
    rw [returned] at ended ⊢
    exact ⟨rfl, off, ended.stopped rfl off⟩

end ServerThreads
end AotDrone.Fc
