import AotDrone.Lib.Run

/-! A machine beside another that takes the same inputs: what relates the two after one input relates them after a run. -/

namespace AotDrone.Lib.Run

variable {σ τ ι : Type*} {step : σ → ι → σ} {Q : Past σ ι → σ → ι → Prop}

/-- The simulation rule, for the runs that keep to `Q`. -/
theorem Always.simulates (Rel : σ → τ → Prop) (abstract : τ → ι → τ)
    (keep : ∀ past s t i, Rel s t → Q past s i → Rel (step s i) (abstract t i))
    (past : Past σ ι) (s : σ) (t : τ) (inputs : List ι) (start : Rel s t) (run : Always step Q past s inputs) :
    Rel (inputs.foldl step s) (inputs.foldl abstract t) := by
  induction inputs generalizing past s t with
  | nil => exact start
  | cons i rest ih =>
    obtain ⟨now, later⟩ := run
    exact ih _ _ _ (keep past s t i start now) later

/-- The simulation rule, for every run. -/
theorem simulates (Rel : σ → τ → Prop) (abstract : τ → ι → τ)
    (keep : ∀ s t i, Rel s t → Rel (step s i) (abstract t i)) (s : σ) (t : τ) (inputs : List ι) (start : Rel s t) :
    Rel (inputs.foldl step s) (inputs.foldl abstract t) :=
  Always.simulates (Q := fun _ _ _ => True) Rel abstract (fun _ s t i rel _ => keep s t i rel) [] s t inputs start
    (Always.true [] s inputs)

/-- An invariant is a simulation of nothing. -/
theorem foldl_invariant (Inv : σ → Prop) (keep : ∀ s i, Inv s → Inv (step s i)) (s : σ) (inputs : List ι)
    (start : Inv s) : Inv (inputs.foldl step s) :=
  simulates (fun s (_ : Unit) => Inv s) (fun _ _ => ()) (fun s _ i inv => keep s i inv) s () inputs start

end AotDrone.Lib.Run
