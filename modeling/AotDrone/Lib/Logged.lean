import AotDrone.Lib.Run

/-! Computations that write down what they do. A loop is given a number of turns; one that is still
going when they are used up has no value. -/

namespace AotDrone.Lib

structure Logged (ε α : Type) where
  events : List ε
  value : Option α

namespace Logged
variable {ε α β σ : Type}

instance : Monad (Logged ε) where
  pure a := ⟨[], some a⟩
  bind x f :=
    match x.value with
    | none => ⟨x.events, none⟩
    | some a => ⟨x.events ++ (f a).events, (f a).value⟩

def report (event : ε) : Logged ε Unit := ⟨[event], some ()⟩

/-- What evaluating a loop's condition and body once does with the loop. -/
inductive Turn (σ α : Type) where
  | again (next : σ)
  | leave (a : α)

def loop (note : σ → σ → ε) (turn : σ → Logged ε (Turn σ α)) : Nat → σ → Logged ε α
  | 0, _ => ⟨[], none⟩
  | turns + 1, s => do
    match ← turn s with
    | .leave a => pure a
    | .again next =>
      report (note s next)
      loop note turn turns next

/-! ## Values -/

@[simp] theorem value_pure (a : α) : (pure a : Logged ε α).value = some a := rfl
@[simp] theorem value_report (event : ε) : (report event).value = some () := rfl

theorem value_bind {x : Logged ε α} {f : α → Logged ε β} {a : α} (value : x.value = some a) :
    (x >>= f).value = (f a).value := by
  change (match x.value with
    | none => (⟨x.events, none⟩ : Logged ε β)
    | some a => ⟨x.events ++ (f a).events, (f a).value⟩).value = _
  rw [value]

theorem events_bind {x : Logged ε α} {f : α → Logged ε β} {a : α} (value : x.value = some a) :
    (x >>= f).events = x.events ++ (f a).events := by
  change (match x.value with
    | none => (⟨x.events, none⟩ : Logged ε β)
    | some a => ⟨x.events ++ (f a).events, (f a).value⟩).events = _
  rw [value]

/-! ## Events -/

/-- All that was written down satisfies `P`. -/
def Clean (P : ε → Prop) (x : Logged ε α) : Prop := ∀ event ∈ x.events, P event

variable {P : ε → Prop}

@[simp] theorem clean_pure (a : α) : Clean P (pure a : Logged ε α) := by
  intro event member
  cases member

@[simp] theorem clean_report {event : ε} : Clean P (report event) ↔ P event := by
  unfold Clean report
  exact List.forall_mem_singleton

theorem clean_bind {x : Logged ε α} {f : α → Logged ε β} {a : α} (value : x.value = some a) :
    Clean P (x >>= f) ↔ Clean P x ∧ Clean P (f a) := by
  unfold Clean
  rw [events_bind value]
  exact List.forall_mem_append

/-! ## Total correctness -/

/-- The computation ends with a value that satisfies `Q`, and all it writes down satisfies `P`. -/
def Ends (P : ε → Prop) (x : Logged ε α) (Q : α → Prop) : Prop := ∃ a, x.value = some a ∧ Q a ∧ Clean P x

variable {x : Logged ε α} {f : α → Logged ε β} {Q Q' : α → Prop} {R : β → Prop}

theorem Ends.pure {a : α} (holds : Q a) : Ends P (pure a : Logged ε α) Q := ⟨a, rfl, holds, clean_pure a⟩

theorem Ends.report {event : ε} (holds : P event) : Ends P (report event) fun _ => True :=
  ⟨(), rfl, trivial, clean_report.2 holds⟩

theorem Ends.bind (first : Ends P x Q) (rest : ∀ a, Q a → Ends P (f a) R) : Ends P (x >>= f) R := by
  obtain ⟨a, value, holds, clean⟩ := first
  obtain ⟨b, last, result, later⟩ := rest a holds
  exact ⟨b, (value_bind value).trans last, result, (clean_bind value).2 ⟨clean, later⟩⟩

theorem Ends.mono (ends : Ends P x Q) (weaker : ∀ a, Q a → Q' a) : Ends P x Q' := by
  obtain ⟨a, value, holds, clean⟩ := ends
  exact ⟨a, value, weaker a holds, clean⟩

/-- The loop rule: a turn keeps the invariant and lowers the variant, or leaves the loop. -/
theorem ends_loop {note : σ → σ → ε} {turn : σ → Logged ε (Turn σ α)} (Inv : σ → Prop) (variant : σ → Nat)
    (step : ∀ s, Inv s → Ends P (turn s) fun
      | .leave a => Q a
      | .again next => P (note s next) ∧ Inv next ∧ variant next < variant s)
    (turns : Nat) (s : σ) (start : Inv s) (enough : variant s < turns) : Ends P (loop note turn turns s) Q := by
  induction turns generalizing s with
  | zero => omega
  | succ turns ih =>
    unfold loop
    apply (step s start).bind
    intro next done
    cases next with
    | leave a => exact .pure done
    | again next =>
      obtain ⟨noted, kept, lower⟩ := done
      apply (Ends.report noted).bind
      intro _ _
      exact ih next kept (by omega)

/-! ## Exact correctness -/

/-- The computation ends with `a`; all it writes down satisfies `P` if and only if `good` holds. -/
structure Computes (P : ε → Prop) (x : Logged ε α) (a : α) (good : Prop) : Prop where
  value : x.value = some a
  clean : Clean P x ↔ good

section exactly
variable {a : α} {b : β} {good good' later : Prop}

theorem Computes.pure : Computes P (pure a : Logged ε α) a True := ⟨rfl, iff_of_true (clean_pure a) trivial⟩

theorem Computes.report {event : ε} : Computes P (report event) () (P event) := ⟨rfl, clean_report⟩

theorem Computes.bind (first : Computes P x a good) (rest : Computes P (f a) b later) :
    Computes P (x >>= f) b (good ∧ later) :=
  ⟨(value_bind first.value).trans rest.value, (clean_bind first.value).trans (and_congr first.clean rest.clean)⟩

theorem Computes.of_iff (computes : Computes P x a good) (same : good ↔ good') : Computes P x a good' :=
  ⟨computes.value, computes.clean.trans same⟩

theorem Computes.of_true (computes : Computes P x a good) (holds : good) : Computes P x a True :=
  computes.of_iff (iff_true_intro holds)

theorem Computes.map (first : Computes P x a good) (g : α → β) :
    Computes P (x >>= fun a => Pure.pure (g a)) (g a) good :=
  (first.bind (f := fun a => Pure.pure (g a)) .pure).of_iff (iff_of_eq (and_true good))

/-- What never writes down anything wrong leaves the verdict to the rest. -/
theorem Computes.andThen (first : Computes P x a True) (rest : Computes P (f a) b later) :
    Computes P (x >>= f) b later :=
  (first.bind rest).of_iff (iff_of_eq (true_and later))

theorem Computes.ite {c : Prop} [Decidable c] {x y : Logged ε α} {a b : α} (yes : c → Computes P x a good)
    (no : ¬ c → Computes P y b good) : Computes P (if c then x else y) (if c then a else b) good := by
  by_cases holds : c
  · rw [if_pos holds, if_pos holds]
    exact yes holds
  · rw [if_neg holds, if_neg holds]
    exact no holds

/-- The run rule: a run writes down nothing wrong if and only if none of its steps does. -/
theorem computes_foldlM {ι : Type} {step : σ → ι → Logged ε σ} {next : σ → ι → σ} {verdict : σ → ι → Prop}
    (Inv : σ → Prop) (one : ∀ s i, Inv s → Computes P (step s i) (next s i) (verdict s i))
    (keep : ∀ s i, Inv s → Inv (next s i)) (past : Run.Past σ ι) (s : σ) (inputs : List ι) (start : Inv s) :
    Computes P (inputs.foldlM step s) (inputs.foldl next s)
      (Run.Always next (fun _ s i => verdict s i) past s inputs) := by
  induction inputs generalizing past s with
  | nil => exact .pure
  | cons i rest ih => exact (one s i start).bind (ih _ _ (keep s i start))

end exactly

end Logged
end AotDrone.Lib
