import Mathlib.Data.List.Basic

/-! Runs of a machine that takes one input at a time. A property of a run may look at
the ticks already taken, so the past travels with the state. -/

namespace AotDrone.Lib.Run

variable {σ ι : Type*}

/-- The ticks already taken, oldest first: the state each one found and its input. -/
abbrev Past (σ ι : Type*) := List (σ × ι)

/-- `P` holds at every input of the run from `s`, of the past, the state the input finds and the input. -/
def Always (step : σ → ι → σ) (P : Past σ ι → σ → ι → Prop) : Past σ ι → σ → List ι → Prop
  | _, _, [] => True
  | past, s, i :: rest => P past s i ∧ Always step P (past ++ [(s, i)]) (step s i) rest

instance Always.decidable (step : σ → ι → σ) (P : Past σ ι → σ → ι → Prop)
    [∀ past s i, Decidable (P past s i)] (past : Past σ ι) (s : σ) (inputs : List ι) :
    Decidable (Always step P past s inputs) :=
  match inputs with
  | [] => .isTrue trivial
  | i :: rest =>
    have := Always.decidable step P (past ++ [(s, i)]) (step s i) rest
    inferInstanceAs (Decidable (P past s i ∧ Always step P (past ++ [(s, i)]) (step s i) rest))

variable {step : σ → ι → σ} {P Q D : Past σ ι → σ → ι → Prop}

/-- The invariant rule: what the ticks so far guarantee may be used for the next one. -/
theorem Always.of_invariant (Inv : Past σ ι → σ → Prop)
    (use : ∀ past s i, Inv past s → Q past s i → P past s i)
    (keep : ∀ past s i, Inv past s → Q past s i → Inv (past ++ [(s, i)]) (step s i))
    (past : Past σ ι) (s : σ) (inputs : List ι) (start : Inv past s)
    (run : Always step Q past s inputs) : Always step P past s inputs := by
  induction inputs generalizing past s with
  | nil => trivial
  | cons i rest ih =>
    obtain ⟨now, later⟩ := run
    exact ⟨use past s i start now, ih _ _ (keep past s i start now) later⟩

theorem Always.and (past : Past σ ι) (s : σ) (inputs : List ι)
    (first : Always step P past s inputs) (second : Always step Q past s inputs) :
    Always step (fun past s i => P past s i ∧ Q past s i) past s inputs := by
  induction inputs generalizing past s with
  | nil => trivial
  | cons i rest ih => exact ⟨⟨first.1, second.1⟩, ih _ _ first.2 second.2⟩

theorem Always.true (past : Past σ ι) (s : σ) (inputs : List ι) :
    Always step (fun _ _ _ => True) past s inputs := by
  induction inputs generalizing past s with
  | nil => trivial
  | cons i rest ih => exact ⟨trivial, ih _ _⟩

/-- A property of the inputs alone. -/
theorem Always.iff_forall (R : ι → Prop) (past : Past σ ι) (s : σ) (inputs : List ι) :
    Always step (fun _ _ i => R i) past s inputs ↔ ∀ i ∈ inputs, R i := by
  induction inputs generalizing past s with
  | nil => simp [Always]
  | cons i rest ih =>
    rw [List.forall_mem_cons, ← ih (past ++ [(s, i)]) (step s i)]
    rfl

/-- A relation between each two of the inputs. -/
theorem Always.of_pairwise (R : ι → ι → Prop) (past : Past σ ι) (s : σ) (inputs : List ι)
    (before : ∀ earlier ∈ past, ∀ i ∈ inputs, R earlier.2 i) (ordered : inputs.Pairwise R) :
    Always step (fun past _ i => ∀ earlier ∈ past, R earlier.2 i) past s inputs := by
  induction inputs generalizing past s with
  | nil => trivial
  | cons i rest ih =>
    obtain ⟨first, later⟩ := List.pairwise_cons.1 ordered
    refine ⟨fun earlier member => before earlier member i List.mem_cons_self, ih _ _ ?_ later⟩
    intro earlier member j follows
    rcases List.mem_append.1 member with old | now
    · exact before earlier old j (List.mem_cons_of_mem _ follows)
    · rw [List.mem_singleton.1 now]
      exact first j follows

/-- What holds of every tick that an invariant allows holds along every run. -/
theorem Always.of_forall (Inv : Past σ ι → σ → Prop) (use : ∀ past s i, Inv past s → P past s i)
    (keep : ∀ past s i, Inv past s → Inv (past ++ [(s, i)]) (step s i))
    (past : Past σ ι) (s : σ) (inputs : List ι) (start : Inv past s) :
    Always step P past s inputs :=
  Always.of_invariant Inv (fun past s i inv _ => use past s i inv)
    (fun past s i inv _ => keep past s i inv) past s inputs start (Always.true past s inputs)

/-- What holds at every input holds at the last one. -/
theorem Always.last (past : Past σ ι) (s : σ) (inputs : List ι) (i : ι)
    (run : Always step P past s (inputs ++ [i])) : ∃ before, P before (inputs.foldl step s) i := by
  induction inputs generalizing past s with
  | nil => exact ⟨past, run.1⟩
  | cons first rest ih => exact ih _ _ run.2

/-- Two properties that agree wherever the invariant holds, and that keep it, agree on whole runs.
The run may be restricted to a domain `D`. -/
theorem Always.iff_of_invariant (Inv : Past σ ι → σ → Prop)
    (agree : ∀ past s i, Inv past s → D past s i → (P past s i ↔ Q past s i))
    (keep : ∀ past s i, Inv past s → D past s i → Q past s i → Inv (past ++ [(s, i)]) (step s i))
    (past : Past σ ι) (s : σ) (inputs : List ι) (start : Inv past s)
    (domain : Always step D past s inputs) :
    Always step P past s inputs ↔ Always step Q past s inputs := by
  constructor
  · intro run
    exact Always.of_invariant (Q := fun past s i => D past s i ∧ P past s i) Inv
      (fun past s i inv both => (agree past s i inv both.1).1 both.2)
      (fun past s i inv both => keep past s i inv both.1 ((agree past s i inv both.1).1 both.2))
      past s inputs start (Always.and past s inputs domain run)
  · intro run
    exact Always.of_invariant (Q := fun past s i => D past s i ∧ Q past s i) Inv
      (fun past s i inv both => (agree past s i inv both.1).2 both.2)
      (fun past s i inv both => keep past s i inv both.1 both.2)
      past s inputs start (Always.and past s inputs domain run)

/-! ## Traces -/

variable {ε : Type*}

/-- `P` holds at every event of a trace, of the events before it and the event. -/
def Along (P : List ε → ε → Prop) : List ε → List ε → Prop
  | _, [] => True
  | before, event :: rest => P before event ∧ Along P (before ++ [event]) rest

theorem along_append (P : List ε → ε → Prop) (before first second : List ε) :
    Along P before (first ++ second) ↔ Along P before first ∧ Along P (before ++ first) second := by
  induction first generalizing before with
  | nil => simp [Along]
  | cons event rest ih => rw [List.cons_append, Along, Along, ih, List.append_assoc, List.singleton_append, and_assoc]

/-! ## What the steps of a run say -/

variable {ω : Type*}

/-- What the steps of the run from `s` say, in their order. -/
def trail (step : σ → ι → σ) (say : σ → ι → Option ω) : σ → List ι → List ω
  | _, [] => []
  | s, i :: rest => (say s i).toList ++ trail step say (step s i) rest

theorem trail_concat (say : σ → ι → Option ω) (s : σ) (inputs : List ι) (i : ι) :
    trail step say s (inputs ++ [i]) = trail step say s inputs ++ (say (inputs.foldl step s) i).toList := by
  induction inputs generalizing s with
  | nil => exact List.append_nil _
  | cons first rest ih => rw [List.cons_append, trail, trail, ih, List.append_assoc, List.foldl_cons]

/-- What is said at each input, of all the inputs before it. -/
def trailAlong (say : List ι → ι → Option ω) (inputs : List ι) : List ω :=
  trail (fun before i => before ++ [i]) say [] inputs

theorem trailAlong_concat (say : List ι → ι → Option ω) (inputs : List ι) (i : ι) :
    trailAlong say (inputs ++ [i]) = trailAlong say inputs ++ (say inputs i).toList := by
  have all : ∀ before, inputs.foldl (fun before i => before ++ [i]) before = before ++ inputs := by
    induction inputs with
    | nil => exact fun before => (List.append_nil before).symm
    | cons first rest ih =>
      intro before
      rw [List.foldl_cons, ih, List.append_assoc, List.singleton_append]
  unfold trailAlong
  rw [trail_concat, all, List.nil_append]

end AotDrone.Lib.Run
