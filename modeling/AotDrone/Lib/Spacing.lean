import Mathlib.Data.List.Chain
import Mathlib.Logic.Function.Basic

/-! A gate that spaces what is sent under a key. Its callers are threads: a call takes its time, asks the gate, sends and
notes the time, and the steps of the others may fall between any two of these. -/

namespace AotDrone.Lib.Spacing

variable {θ κ τ ι δ : Type*}

/-! ## Calls one after the other -/

/-- What is let through of calls that come one after the other, from the time of the last one let through. -/
def admitted (due : τ → τ → Bool) : Option τ → List (ι × τ) → List (ι × τ)
  | _, [] => []
  | last, ask :: rest =>
    if last.all (due · ask.2) then ask :: admitted due (some ask.2) rest else admitted due last rest

section admitted
variable {due : τ → τ → Bool}

theorem admitted_append (last : Option τ) (asks : List (ι × τ)) (ask : ι × τ) :
    admitted due last (asks ++ [ask]) = admitted due last asks ++
      if (((admitted due last asks).getLast?.map Prod.snd).or last).all (due · ask.2) then [ask] else [] := by
  induction asks generalizing last with
  | nil => rfl
  | cons first rest ih =>
    rw [List.cons_append, admitted, admitted]
    by_cases through : last.all (due · first.2) = true
    · rw [if_pos through, if_pos through, ih, List.cons_append, List.getLast?_cons]
      cases (admitted due (some first.2) rest).getLast? <;> rfl
    · rw [if_neg through, if_neg through, ih]

theorem admitted_sublist (last : Option τ) (asks : List (ι × τ)) : (admitted due last asks).Sublist asks := by
  induction asks generalizing last with
  | nil => exact List.Sublist.refl []
  | cons ask rest ih =>
    rw [admitted]
    split_ifs
    · exact (ih _).cons_cons ask
    · exact (ih _).cons ask

variable (due) in
/-- Each call that is let through is due after the one before. -/
theorem admitted_spaced (asks : List (ι × τ)) :
    (admitted due none asks).IsChain fun earlier later => due earlier.2 later.2 = true := by
  have spaced : ∀ (last : Option τ),
      (admitted due last asks).IsChain (fun earlier later => due earlier.2 later.2 = true) ∧
        ∀ first ∈ (admitted due last asks).head?, last.all (due · first.2) = true := by
    induction asks with
    | nil => exact fun _ => ⟨List.IsChain.nil, nofun⟩
    | cons ask rest ih =>
      intro last
      rw [admitted]
      split_ifs with through
      · refine ⟨List.isChain_cons.2 ⟨fun next member => (ih (some ask.2)).2 next member, (ih _).1⟩, ?_⟩
        intro first member
        obtain rfl := Option.some.inj member
        exact through
      · exact ih last
  exact (spaced none).1

/-- Later calls take back nothing. -/
theorem admitted_initial (last : Option τ) (before after : List (ι × τ)) :
    admitted due last before <+: admitted due last (before ++ after) := by
  induction before generalizing last with
  | nil => exact List.nil_prefix
  | cons first before ih =>
    rw [List.cons_append, admitted, admitted]
    split_ifs with through
    · exact List.prefix_cons_inj first |>.2 (ih (some first.2))
    · exact ih last

variable (due) in
/-- A call that is held back comes while one let through before it is not yet due again. -/
theorem admitted_covers {asks : List (ι × τ)} {before after : List (ι × τ)} {ask : ι × τ}
    (split : asks = before ++ ask :: after) :
    ask ∈ admitted due none asks ∨ ∃ earlier ∈ admitted due none before, due earlier.2 ask.2 = false := by
  obtain ⟨rest, same⟩ : admitted due none (before ++ [ask]) <+: admitted due none (before ++ [ask] ++ after) :=
    admitted_initial none _ _
  rw [split, List.append_cons, ← same, admitted_append, Option.or_none]
  cases last : (admitted due none before).getLast? with
  | none => exact .inl (by simp)
  | some earlier =>
    cases through : due earlier.2 ask.2 with
    | true => exact .inl (by simp [through])
    | false => exact .inr ⟨earlier, List.mem_of_getLast? last, through⟩

theorem admitted_map {ι' : Type*} (f : ι → ι') (last : Option τ) (asks : List (ι × τ)) :
    admitted due last (asks.map (Prod.map f id)) = (admitted due last asks).map (Prod.map f id) := by
  induction asks generalizing last with
  | nil => rfl
  | cons ask rest ih =>
    rw [List.map_cons, admitted, admitted]
    by_cases through : last.all (due · ask.2) = true
    · rw [if_pos through, List.map_cons, ← ih, Prod.map_snd, id, if_pos through]
    · rw [if_neg through, ← ih, Prod.map_snd, id, if_neg through]

end admitted

/-! ## Threads -/

/-- What a gate knows of a call: its key, and whether it passes unasked; and when a key may be sent again. -/
structure Rules (κ ι τ : Type*) where
  key : ι → κ
  forced : ι → Bool
  due : κ → τ → τ → Bool

def Rules.passes (rules : Rules κ ι τ) (last : κ → Option τ) (call : ι) (now : τ) : Bool :=
  rules.forced call || (last (rules.key call)).all (rules.due (rules.key call) · now)

/-- How far a thread has come with its call. -/
inductive Stage (ι τ : Type*) where
  | idle
  | asking (call : ι) (now : τ)
  | passed (call : ι) (now : τ)
  | sent (call : ι) (now : τ)

/-- The threads, with what each is still to call; when a key was sent last; and, oldest first, the calls that threads
have taken on, what they have asked and what they have sent. -/
structure Gate (θ κ ι τ δ : Type*) where
  stage : θ → Stage ι τ
  todo : θ → List ι
  last : κ → Option τ
  taken : List ι := []
  asked : List (ι × τ) := []
  sent : List ((ι × τ) × δ) := []

def Gate.closed : Gate θ κ ι τ δ where
  stage := fun _ => .idle
  todo := fun _ => []
  last := fun _ => none

section steps
variable [DecidableEq θ] [DecidableEq κ] (rules : Rules κ ι τ)

def Gate.busy (gate : Gate θ κ ι τ δ) (thread : θ) : Bool :=
  match gate.stage thread, gate.todo thread with
  | .idle, [] => false
  | _, _ => true

omit [DecidableEq θ] [DecidableEq κ] in
theorem Gate.idle_of_not_busy (gate : Gate θ κ ι τ δ) {thread : θ} (free : gate.busy thread = false) :
    gate.stage thread = .idle ∧ gate.todo thread = [] := by
  unfold Gate.busy at free
  split at free
  · next stage todo => exact ⟨stage, todo⟩
  · cases free

/-- A thread that has nothing to call takes some calls on. -/
def Gate.submit (gate : Gate θ κ ι τ δ) (thread : θ) (calls : List ι) : Gate θ κ ι τ δ :=
  if gate.busy thread then gate
  else { gate with todo := Function.update gate.todo thread calls, taken := gate.taken ++ calls }

/-- The next step of a thread. `time` tells a call its time, `data` what it sends, if it has anything to send. -/
def Gate.advance (gate : Gate θ κ ι τ δ) (thread : θ) (time : ι → τ) (data : ι → τ → Option δ) : Gate θ κ ι τ δ :=
  match gate.stage thread with
  | .idle =>
    match gate.todo thread with
    | [] => gate
    | call :: rest =>
      { gate with
        stage := Function.update gate.stage thread (.asking call (time call))
        todo := Function.update gate.todo thread rest }
  | .asking call now =>
    { gate with
      stage := Function.update gate.stage thread (if rules.passes gate.last call now then .passed call now else .idle)
      asked := gate.asked ++ [(call, now)] }
  | .passed call now =>
    match data call now with
    | none => { gate with stage := Function.update gate.stage thread .idle }
    | some payload =>
      { gate with
        stage := Function.update gate.stage thread (.sent call now)
        sent := gate.sent ++ [((call, now), payload)] }
  | .sent call now =>
    { gate with
      stage := Function.update gate.stage thread .idle
      last := Function.update gate.last (rules.key call) (some now) }

/-! ## A key that one thread alone sends -/

variable {rules}

def Stage.call? : Stage ι τ → Option ι
  | .idle => none
  | .asking call _ | .passed call _ | .sent call _ => some call

def Stage.ask? : Stage ι τ → Option (ι × τ)
  | .idle => none
  | .asking call now | .passed call now | .sent call now => some (call, now)

/-- The call of the key that has passed and is not sent yet. -/
def Stage.passing (rules : Rules κ ι τ) (key : κ) : Stage ι τ → List (ι × τ)
  | .passed call now => if rules.key call = key then [(call, now)] else []
  | .idle | .asking _ _ | .sent _ _ => []

/-- The time of the key that is not noted yet. -/
def Stage.unnoted (rules : Rules κ ι τ) (key : κ) : Stage ι τ → Option τ
  | .sent call now => if rules.key call = key then some now else none
  | .idle | .asking _ _ | .passed _ _ => none

def Stage.unasked : Stage ι τ → Option ι
  | .asking call _ => some call
  | .idle | .passed _ _ | .sent _ _ => none

def Gate.takenOf (rules : Rules κ ι τ) (key : κ) (gate : Gate θ κ ι τ δ) : List ι :=
  gate.taken.filter (rules.key · = key)

/-- The calls of the key that a thread is still to ask for. -/
def Gate.waitingOf (rules : Rules κ ι τ) (key : κ) (gate : Gate θ κ ι τ δ) (thread : θ) : List ι :=
  ((gate.stage thread).unasked.toList ++ gate.todo thread).filter (rules.key · = key)

def Gate.askedOf (rules : Rules κ ι τ) (key : κ) (gate : Gate θ κ ι τ δ) : List (ι × τ) :=
  gate.asked.filter (rules.key ·.1 = key)

def Gate.sentOf (rules : Rules κ ι τ) (key : κ) (gate : Gate θ κ ι τ δ) : List (ι × τ) :=
  (gate.sent.map Prod.fst).filter (rules.key ·.1 = key)

def Gate.inHand (gate : Gate θ κ ι τ δ) (thread : θ) : List ι := (gate.stage thread).call?.toList ++ gate.todo thread

/-- Nobody but `owner` calls under the key, and it asks each time. -/
def Gate.OwnedBy (rules : Rules κ ι τ) (key : κ) (owner : θ) (gate : Gate θ κ ι τ δ) : Prop :=
  ∀ thread, ∀ call ∈ gate.inHand thread, rules.key call = key → thread = owner ∧ rules.forced call = false

/-- What is sent under the key is what a gate lets through of calls that come one after the other. -/
structure Gate.Sequential (rules : Rules κ ι τ) (key : κ) (owner : θ) (gate : Gate θ κ ι τ δ) : Prop where
  asks : (gate.askedOf rules key).map Prod.fst ++ gate.waitingOf rules key owner = gate.takenOf rules key
  sends : gate.sentOf rules key ++ (gate.stage owner).passing rules key =
    admitted (rules.due key) none (gate.askedOf rules key)
  /-- A call that has passed is the last one asked. -/
  holds : (gate.stage owner).passing rules key ≠ [] →
    gate.sentOf rules key = admitted (rules.due key) none (gate.askedOf rules key).dropLast
  notes : ((gate.stage owner).unnoted rules key).or (gate.last key) = (gate.sentOf rules key).getLast?.map Prod.snd

omit [DecidableEq θ] in
theorem Stage.eq_passed {stage : Stage ι τ} {key : κ} {ask : ι × τ} (passing : ask ∈ stage.passing rules key) :
    stage = .passed ask.1 ask.2 := by
  cases stage with
  | passed call now =>
    change ask ∈ (if rules.key call = key then [(call, now)] else []) at passing
    split_ifs at passing
    · rw [List.mem_singleton.1 passing]
    · cases passing
  | idle | asking call now | sent call now => cases passing

omit [DecidableEq θ] [DecidableEq κ] in
theorem Gate.inHand_free {gate : Gate θ κ ι τ δ} {thread : θ} (free : gate.busy thread = false) :
    gate.inHand thread = [] := by
  obtain ⟨stage, todo⟩ := gate.idle_of_not_busy free
  rw [Gate.inHand, stage, todo]
  rfl

omit [DecidableEq κ] in
theorem Gate.submit_inHand {gate : Gate θ κ ι τ δ} {thread other : θ} {calls : List ι} {call : ι}
    (member : call ∈ (gate.submit thread calls).inHand other) :
    call ∈ gate.inHand other ∨ other = thread ∧ gate.busy thread = false ∧ call ∈ calls := by
  unfold Gate.submit at member
  split_ifs at member with busy
  · exact .inl member
  rcases List.mem_append.1 member with current | later
  · exact .inl (List.mem_append_left _ current)
  change call ∈ Function.update gate.todo thread calls other at later
  by_cases self : other = thread
  · rw [self, Function.update_self] at later
    exact .inr ⟨self, by simpa using busy, later⟩
  · rw [Function.update_of_ne self] at later
    exact .inl (List.mem_append_right _ later)

/-- A step takes nothing into anyone's hands. -/
theorem Gate.advance_inHand {gate : Gate θ κ ι τ δ} {thread other : θ} {time : ι → τ} {data : ι → τ → Option δ}
    {call : ι} (member : call ∈ (gate.advance rules thread time data).inHand other) : call ∈ gate.inHand other := by
  by_cases self : other = thread
  · subst self
    unfold Gate.advance at member
    unfold Gate.inHand at member ⊢
    cases stage : gate.stage other with
    | idle =>
      rw [stage] at member
      dsimp only at member
      cases next : gate.todo other with
      | nil => simpa [next, stage] using member
      | cons first rest => simpa [next, Stage.call?] using member
    | asking first now =>
      rw [stage] at member
      simp only [Function.update_self] at member
      split_ifs at member
      · exact member
      · exact List.mem_append_right _ member
    | passed first now =>
      rw [stage] at member
      dsimp only at member
      cases payload : data first now with
      | none =>
        simp only [payload, Function.update_self] at member
        exact List.mem_append_right _ member
      | some payload' =>
        simp only [payload, Function.update_self] at member
        exact member
    | sent first now =>
      rw [stage] at member
      simp only [Function.update_self] at member
      exact List.mem_append_right _ member
  · unfold Gate.advance at member
    split at member
    · split at member
      · exact member
      · simpa [Gate.inHand, self] using member
    · simpa [Gate.inHand, self] using member
    · split at member
      · simpa [Gate.inHand, self] using member
      · simpa [Gate.inHand, self] using member
    · simpa [Gate.inHand, self] using member

namespace Gate.OwnedBy
variable {gate : Gate θ κ ι τ δ} {key : κ} {owner : θ}

omit [DecidableEq θ] [DecidableEq κ] in
theorem closed : (Gate.closed : Gate θ κ ι τ δ).OwnedBy rules key owner := by
  intro thread call member
  rw [Gate.inHand_free rfl] at member
  cases member

omit [DecidableEq κ] in
theorem submit (owned : gate.OwnedBy rules key owner) (thread : θ) {calls : List ι}
    (own : ∀ call ∈ calls, rules.key call = key → thread = owner ∧ rules.forced call = false) :
    (gate.submit thread calls).OwnedBy rules key owner := by
  intro other call member same
  rcases Gate.submit_inHand member with old | ⟨rfl, -, new⟩
  · exact owned other call old same
  · exact own call new same

theorem advance (owned : gate.OwnedBy rules key owner) (thread : θ) (time : ι → τ) (data : ι → τ → Option δ) :
    (gate.advance rules thread time data).OwnedBy rules key owner :=
  fun other call member => owned other call (Gate.advance_inHand member)

end Gate.OwnedBy

omit [DecidableEq κ] in
/-- What a step of one thread does not change of that thread, it changes of none. -/
theorem Gate.stage_step (gate : Gate θ κ ι τ δ) {α : Type*} (f : Stage ι τ → α) (thread : θ) {stage : Stage ι τ}
    (same : f stage = f (gate.stage thread)) (other : θ) :
    f (Function.update gate.stage thread stage other) = f (gate.stage other) := by
  by_cases self : other = thread
  · rw [self, Function.update_self, same]
  · rw [Function.update_of_ne self]

namespace Gate.Sequential
variable {gate : Gate θ κ ι τ δ} {key : κ} {owner : θ}

omit [DecidableEq θ] in
theorem closed : (Gate.closed : Gate θ κ ι τ δ).Sequential rules key owner where
  asks := rfl
  sends := rfl
  holds := fun passing => absurd rfl passing
  notes := rfl

theorem submit (inv : gate.Sequential rules key owner) (thread : θ) {calls : List ι}
    (own : ∀ call ∈ calls, rules.key call = key → thread = owner ∧ rules.forced call = false) :
    (gate.submit thread calls).Sequential rules key owner := by
  unfold Gate.submit
  split_ifs with busy
  · exact inv
  refine ⟨?_, inv.sends, inv.holds, inv.notes⟩
  · change (gate.askedOf rules key).map Prod.fst ++
      ((gate.stage owner).unasked.toList ++ Function.update gate.todo thread calls owner).filter _ =
        (gate.taken ++ calls).filter _
    have asks := inv.asks
    unfold Gate.waitingOf Gate.takenOf at asks
    have taken : (gate.taken ++ calls).filter (rules.key · = key) =
        gate.taken.filter (rules.key · = key) ++ calls.filter (rules.key · = key) := List.filter_append _ _
    rw [taken, ← asks, List.append_assoc]
    congr 1
    by_cases self : owner = thread
    · obtain ⟨stage, todo⟩ := gate.idle_of_not_busy (by simpa using busy)
      rw [self, stage, todo, Function.update_self]
      rfl
    · have none : calls.filter (rules.key · = key) = [] := by
        rw [List.filter_eq_nil_iff]
        intro call member same
        exact self (own call member (of_decide_eq_true same)).1.symm
      rw [Function.update_of_ne self, none, List.append_nil]

theorem waiting_step {after : Gate θ κ ι τ δ} (thread : θ)
    (others : ∀ other ≠ thread, after.stage other = gate.stage other ∧ after.todo other = gate.todo other)
    (own : after.waitingOf rules key thread = gate.waitingOf rules key thread) (other : θ) :
    after.waitingOf rules key other = gate.waitingOf rules key other := by
  by_cases self : other = thread
  · rw [self, own]
  · rw [Gate.waitingOf, (others other self).1, (others other self).2, Gate.waitingOf]

omit [DecidableEq θ] in
/-- A step that neither asks nor sends under the key, and notes nothing of it. -/
theorem of_same (inv : gate.Sequential rules key owner) {after : Gate θ κ ι τ δ}
    (taken : after.takenOf rules key = gate.takenOf rules key)
    (waiting : after.waitingOf rules key owner = gate.waitingOf rules key owner)
    (asked : after.askedOf rules key = gate.askedOf rules key)
    (sent : after.sentOf rules key = gate.sentOf rules key) (last : after.last key = gate.last key)
    (passing : (after.stage owner).passing rules key = (gate.stage owner).passing rules key)
    (unnoted : (after.stage owner).unnoted rules key = (gate.stage owner).unnoted rules key) :
    after.Sequential rules key owner := by
  refine ⟨?_, ?_, ?_, ?_⟩
  · rw [asked, waiting, taken, inv.asks]
  · rw [sent, passing, asked, inv.sends]
  · rw [sent, passing, asked]
    exact inv.holds
  · rw [sent, unnoted, last, inv.notes]

variable {thread : θ} {call : ι} {now : τ}

theorem waiting_stage {after : Gate θ κ ι τ δ} {stage : Stage ι τ}
    (stages : after.stage = Function.update gate.stage thread stage) (todo : after.todo = gate.todo)
    (same : stage.unasked.toList.filter (rules.key · = key) =
      (gate.stage thread).unasked.toList.filter (rules.key · = key)) :
    after.waitingOf rules key owner = gate.waitingOf rules key owner := by
  apply waiting_step thread
  · intro other ne
    exact ⟨by rw [stages, Function.update_of_ne ne], by rw [todo]⟩
  · rw [Gate.waitingOf, stages, todo, Function.update_self, List.filter_append, same, ← List.filter_append,
      Gate.waitingOf]

theorem take (inv : gate.Sequential rules key owner) {rest : List ι} (stage : gate.stage thread = .idle)
    (next : gate.todo thread = call :: rest) :
    Gate.Sequential rules key owner { gate with
      stage := Function.update gate.stage thread (.asking call now)
      todo := Function.update gate.todo thread rest } := by
  apply inv.of_same
  · rfl
  · apply waiting_step thread
    · intro other ne
      exact ⟨Function.update_of_ne ne _ _, Function.update_of_ne ne _ _⟩
    · simp [Gate.waitingOf, Stage.unasked, next, stage]
  · rfl
  · rfl
  · rfl
  · exact gate.stage_step (Stage.passing rules key) thread (by rw [stage]; rfl) owner
  · exact gate.stage_step (Stage.unnoted rules key) thread (by rw [stage]; rfl) owner

/-- What a thread goes on to after it has asked: it sends, or it has nothing in hand. -/
theorem asked_stage (rules : Rules κ ι τ) (call : ι) (now : τ) (key : κ) (passed : Bool) :
    (if passed then Stage.passed call now else .idle).unasked = none ∧
      (if passed then Stage.passed call now else .idle).unnoted rules key = none := by
  cases passed <;> exact ⟨rfl, rfl⟩

theorem ask_other (inv : gate.Sequential rules key owner) (stage : gate.stage thread = .asking call now)
    (other : rules.key call ≠ key) :
    Gate.Sequential rules key owner { gate with
      stage := Function.update gate.stage thread (if rules.passes gate.last call now then .passed call now else .idle)
      asked := gate.asked ++ [(call, now)] } := by
  obtain ⟨nothing, noted⟩ := asked_stage rules call now key (rules.passes gate.last call now)
  apply inv.of_same
  · rfl
  · apply waiting_stage (by rfl) (by rfl)
    rw [nothing, stage]
    simp [Stage.unasked, other]
  · simp [Gate.askedOf, List.filter_append, other]
  · rfl
  · rfl
  · apply gate.stage_step (Stage.passing rules key)
    rw [stage]
    split_ifs
    · simp [Stage.passing, other]
    · rfl
  · exact gate.stage_step (Stage.unnoted rules key) thread (noted.trans (by rw [stage]; rfl)) owner

theorem ask_own (inv : gate.Sequential rules key thread) (stage : gate.stage thread = .asking call now)
    (same : rules.key call = key) (asks : rules.forced call = false) :
    Gate.Sequential rules key thread { gate with
      stage := Function.update gate.stage thread (if rules.passes gate.last call now then .passed call now else .idle)
      asked := gate.asked ++ [(call, now)] } := by
  obtain ⟨nothing, noted⟩ := asked_stage rules call now key (rules.passes gate.last call now)
  have waits := inv.asks
  have before := inv.sends
  have latest := inv.notes
  rw [Gate.waitingOf, stage, Stage.unasked] at waits
  rw [stage, Stage.passing, List.append_nil] at before
  rw [stage, Stage.unnoted, Option.none_or] at latest
  have asked : (gate.asked ++ [(call, now)]).filter (rules.key ·.1 = key) =
      gate.askedOf rules key ++ [(call, now)] := by
    rw [List.filter_append]
    simp [Gate.askedOf, same]
  refine ⟨?_, ?_, ?_, ?_⟩
  · change List.map _ (List.filter _ _) ++
      ((Function.update gate.stage thread _ thread).unasked.toList ++ gate.todo thread).filter _ = _
    rw [asked, Function.update_self, nothing, List.map_append, List.append_assoc]
    change _ = gate.takenOf rules key
    rw [← waits]
    simp [same]
  · have passes : rules.passes gate.last call now = (gate.last key).all (rules.due key · now) := by
      rw [Rules.passes, asks, Bool.false_or, same]
    change gate.sentOf rules key ++ (Function.update gate.stage thread _ thread).passing rules key =
      admitted _ none ((gate.asked ++ [(call, now)]).filter _)
    rw [asked, admitted_append, ← before, Option.or_none, ← latest, Function.update_self, passes]
    congr 1
    split_ifs
    · rw [Stage.passing, if_pos same]
    · rfl
  · intro _
    change gate.sentOf rules key = admitted _ none ((gate.asked ++ [(call, now)]).filter _).dropLast
    rw [asked, List.dropLast_concat]
    exact before
  · change (Option.or ((Function.update gate.stage thread _ thread).unnoted rules key) _) = _
    rw [Function.update_self, noted]
    exact latest

theorem ask (inv : gate.Sequential rules key owner) (owned : gate.OwnedBy rules key owner)
    (stage : gate.stage thread = .asking call now) :
    Gate.Sequential rules key owner { gate with
      stage := Function.update gate.stage thread (if rules.passes gate.last call now then .passed call now else .idle)
      asked := gate.asked ++ [(call, now)] } := by
  by_cases same : rules.key call = key
  · obtain ⟨rfl, asks⟩ := owned thread call (by simp [Gate.inHand, stage, Stage.call?]) same
    exact inv.ask_own stage same asks
  · exact inv.ask_other stage same

theorem refuse (inv : gate.Sequential rules key owner) (stage : gate.stage thread = .passed call now)
    (other : rules.key call ≠ key) :
    Gate.Sequential rules key owner { gate with stage := Function.update gate.stage thread .idle } := by
  apply inv.of_same
  · rfl
  · exact waiting_stage (by rfl) (by rfl) (by rw [stage]; rfl)
  · rfl
  · rfl
  · rfl
  · exact gate.stage_step (Stage.passing rules key) thread (by rw [stage, Stage.passing, if_neg other]; rfl) owner
  · exact gate.stage_step (Stage.unnoted rules key) thread (by rw [stage]; rfl) owner

theorem send (inv : gate.Sequential rules key owner) (owned : gate.OwnedBy rules key owner)
    (stage : gate.stage thread = .passed call now) (payload : δ) :
    Gate.Sequential rules key owner { gate with
      stage := Function.update gate.stage thread (.sent call now)
      sent := gate.sent ++ [((call, now), payload)] } := by
  have waiting : Gate.waitingOf rules key { gate with
      stage := Function.update gate.stage thread (.sent call now)
      sent := gate.sent ++ [((call, now), payload)] } owner = gate.waitingOf rules key owner :=
    waiting_stage (by rfl) (by rfl) (by rw [stage]; rfl)
  by_cases same : rules.key call = key
  · obtain ⟨rfl, -⟩ := owned thread call (by simp [Gate.inHand, stage, Stage.call?]) same
    have before := inv.sends
    rw [stage, Stage.passing, if_pos same] at before
    have sent : ((gate.sent ++ [((call, now), payload)]).map Prod.fst).filter (rules.key ·.1 = key) =
        gate.sentOf rules key ++ [(call, now)] := by
      simp [Gate.sentOf, List.filter_append, same]
    refine ⟨?_, ?_, ?_, ?_⟩
    · rw [waiting]
      exact inv.asks
    · change List.filter _ _ ++ (Function.update gate.stage thread _ thread).passing rules key = _
      rw [sent, Function.update_self, Stage.passing, List.append_nil]
      exact before
    · intro passing
      change (Function.update gate.stage thread _ thread).passing rules key ≠ [] at passing
      rw [Function.update_self] at passing
      exact absurd rfl passing
    · change ((Function.update gate.stage thread _ thread).unnoted rules key).or _ = (List.filter _ _).getLast?.map _
      rw [sent, Function.update_self, Stage.unnoted, if_pos same, List.getLast?_concat]
      rfl
  · apply inv.of_same
    · rfl
    · exact waiting
    · rfl
    · simp [Gate.sentOf, List.filter_append, same]
    · rfl
    · exact gate.stage_step (Stage.passing rules key) thread (by rw [stage, Stage.passing, if_neg same]; rfl) owner
    · exact gate.stage_step (Stage.unnoted rules key) thread (by rw [stage, Stage.unnoted, if_neg same]; rfl) owner

theorem note (inv : gate.Sequential rules key owner) (owned : gate.OwnedBy rules key owner)
    (stage : gate.stage thread = .sent call now) :
    Gate.Sequential rules key owner { gate with
      stage := Function.update gate.stage thread .idle
      last := Function.update gate.last (rules.key call) (some now) } := by
  have waiting : Gate.waitingOf rules key { gate with
      stage := Function.update gate.stage thread .idle
      last := Function.update gate.last (rules.key call) (some now) } owner = gate.waitingOf rules key owner :=
    waiting_stage (by rfl) (by rfl) (by rw [stage]; rfl)
  have passing := gate.stage_step (Stage.passing rules key) thread
    (show Stage.idle.passing rules key = _ by rw [stage]; rfl) owner
  by_cases same : rules.key call = key
  · obtain ⟨rfl, -⟩ := owned thread call (by simp [Gate.inHand, stage, Stage.call?]) same
    have latest := inv.notes
    rw [stage, Stage.unnoted, if_pos same, Option.some_or] at latest
    refine ⟨?_, ?_, ?_, ?_⟩
    · rw [waiting]
      exact inv.asks
    · rw [passing]
      exact inv.sends
    · rw [passing]
      exact inv.holds
    · change ((Function.update gate.stage thread _ thread).unnoted rules key).or
        (Function.update gate.last (rules.key call) _ key) = _
      rw [Function.update_self, Stage.unnoted, Option.none_or, same, Function.update_self]
      exact latest
  · apply inv.of_same
    · rfl
    · exact waiting
    · rfl
    · rfl
    · exact Function.update_of_ne (Ne.symm same) _ _
    · exact passing
    · exact gate.stage_step (Stage.unnoted rules key) thread (by rw [stage, Stage.unnoted, if_neg same]; rfl) owner

/-- One step of any thread, which has what to send under the key. -/
theorem advance (inv : gate.Sequential rules key owner) (owned : gate.OwnedBy rules key owner) (thread : θ)
    (time : ι → τ) {data : ι → τ → Option δ}
    (present : ∀ call now, gate.stage thread = .passed call now → rules.key call = key → (data call now).isSome) :
    (gate.advance rules thread time data).Sequential rules key owner := by
  unfold Gate.advance
  cases stage : gate.stage thread with
  | idle =>
    dsimp only
    cases next : gate.todo thread with
    | nil => exact inv
    | cons call rest => exact inv.take stage next
  | asking call now => exact inv.ask owned stage
  | passed call now =>
    dsimp only
    cases some_ : data call now with
    | none =>
      apply inv.refuse stage
      intro same
      have is_some := present call now stage same
      rw [some_] at is_some
      cases is_some
    | some payload => exact inv.send owned stage payload
  | sent call now => exact inv.note owned stage

omit [DecidableEq θ] in
/-- An owner that is free has asked for every call that it took on, and has sent what passed. -/
theorem free (inv : gate.Sequential rules key owner) (free : gate.busy owner = false) :
    (gate.askedOf rules key).map Prod.fst = gate.takenOf rules key ∧
      gate.sentOf rules key = admitted (rules.due key) none (gate.askedOf rules key) := by
  obtain ⟨stage, todo⟩ := gate.idle_of_not_busy free
  have asks := inv.asks
  have sends := inv.sends
  rw [Gate.waitingOf, stage, todo] at asks
  rw [stage, Stage.passing, List.append_nil] at sends
  exact ⟨by simpa [Stage.unasked] using asks, sends⟩

omit [DecidableEq θ] in
/-- What was let through before a later call was asked has been sent. -/
theorem sent_before (inv : gate.Sequential rules key owner) {before after : List (ι × τ)} {ask earlier : ι × τ}
    (split : gate.askedOf rules key = before ++ ask :: after)
    (member : earlier ∈ admitted (rules.due key) none before) : earlier ∈ gate.sentOf rules key := by
  by_cases passing : (gate.stage owner).passing rules key = []
  · have sends := inv.sends
    rw [passing, List.append_nil, split] at sends
    rw [sends]
    exact (admitted_initial none before _).subset member
  · rw [inv.holds passing, split, List.dropLast_append_cons]
    exact (admitted_initial none before _).subset member

end Gate.Sequential

/-! ## What is asked and sent -/

/-- Every call has a time that `Time` allows, and every call that was sent has sent what `Data` allows. -/
structure Gate.Sends (Time : ι × τ → Prop) (Data : ι × τ → δ → Prop) (gate : Gate θ κ ι τ δ) : Prop where
  stages : ∀ thread, ∀ ask ∈ (gate.stage thread).ask?, Time ask
  asked : ∀ ask ∈ gate.asked, Time ask
  sent : ∀ s ∈ gate.sent, Time s.1 ∧ Data s.1 s.2

namespace Gate.Sends
variable {Time : ι × τ → Prop} {Data : ι × τ → δ → Prop} {gate : Gate θ κ ι τ δ}

omit [DecidableEq θ] [DecidableEq κ] in
theorem closed : (Gate.closed : Gate θ κ ι τ δ).Sends Time Data := ⟨nofun, nofun, nofun⟩

omit [DecidableEq κ] in
theorem submit (inv : gate.Sends Time Data) (thread : θ) (calls : List ι) :
    (gate.submit thread calls).Sends Time Data := by
  unfold Gate.submit
  split_ifs
  · exact inv
  · exact ⟨inv.stages, inv.asked, inv.sent⟩

omit [DecidableEq κ] in
theorem stages_step (inv : gate.Sends Time Data) {thread : θ} {stage : Stage ι τ} (new : ∀ ask ∈ stage.ask?, Time ask)
    (other : θ) : ∀ ask ∈ (Function.update gate.stage thread stage other).ask?, Time ask := by
  by_cases self : other = thread
  · rw [self, Function.update_self]
    exact new
  · rw [Function.update_of_ne self]
    exact inv.stages other

theorem advance (inv : gate.Sends Time Data) (thread : θ) {time : ι → τ} {data : ι → τ → Option δ}
    (times : ∀ call, Time (call, time call))
    (sends : ∀ call now payload, gate.stage thread = .passed call now → data call now = some payload →
      Data (call, now) payload) : (gate.advance rules thread time data).Sends Time Data := by
  have current := inv.stages thread
  unfold Gate.advance
  cases stage : gate.stage thread with
  | idle =>
    dsimp only
    cases next : gate.todo thread with
    | nil => exact inv
    | cons call rest =>
      refine ⟨inv.stages_step ?_, inv.asked, inv.sent⟩
      intro ask member
      obtain rfl := Option.some.inj member
      exact times call
  | asking call now =>
    rw [stage] at current
    refine ⟨inv.stages_step ?_, ?_, inv.sent⟩
    · intro ask member
      split_ifs at member
      · exact current ask member
      · cases member
    · intro ask member
      rcases List.mem_append.1 member with old | new
      · exact inv.asked ask old
      · rw [List.mem_singleton.1 new]
        exact current _ rfl
  | passed call now =>
    rw [stage] at current
    dsimp only
    cases payload : data call now with
    | none => exact ⟨inv.stages_step (fun _ member => absurd member (Option.not_mem_none _)), inv.asked, inv.sent⟩
    | some payload' =>
      refine ⟨inv.stages_step current, inv.asked, ?_⟩
      intro s member
      rcases List.mem_append.1 member with old | new
      · exact inv.sent s old
      · rw [List.mem_singleton.1 new]
        exact ⟨current _ rfl, sends call now payload' stage payload⟩
  | sent call now => exact ⟨inv.stages_step (fun _ member => absurd member (Option.not_mem_none _)), inv.asked, inv.sent⟩

end Gate.Sends

end steps
end AotDrone.Lib.Spacing
