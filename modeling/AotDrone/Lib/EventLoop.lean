import Mathlib.Data.List.Nodup
import Mathlib.Data.List.Range
import Mathlib.Logic.Function.Basic

/-! Callbacks that wait in an event loop for their time, and an owner that knows at most one of each kind by its
number. -/

namespace AotDrone.Lib.EventLoop

variable {κ δ : Type*}

/-- A callback that was given to the loop, under the number it got. -/
structure Timeout (κ δ : Type*) where
  id : ℕ
  callback : κ
  delay : δ

/-- The timers that wait, and all that were ever made. They are numbered in order. -/
structure Loop (κ δ : Type*) where
  pending : List (Timeout κ δ)
  made : List (Timeout κ δ)
  waits : pending.Sublist made
  numbered : made.map Timeout.id = List.range made.length

namespace Loop

def idle : Loop κ δ := ⟨[], [], .refl _, rfl⟩

variable (loop : Loop κ δ)

def setTimeout (callback : κ) (delay : δ) : Loop κ δ where
  pending := loop.pending ++ [⟨loop.made.length, callback, delay⟩]
  made := loop.made ++ [⟨loop.made.length, callback, delay⟩]
  waits := loop.waits.append (.refl _)
  numbered := by
    rw [List.map_append, loop.numbered, List.length_append, List.length_singleton, List.range_succ]
    rfl

def clearTimeout (id : ℕ) : Loop κ δ where
  pending := loop.pending.filter (·.id != id)
  made := loop.made
  waits := List.filter_sublist.trans loop.waits
  numbered := loop.numbered

def timer? (id : ℕ) : Option (Timeout κ δ) := loop.pending.find? (·.id == id)

theorem timer?_mem {id : ℕ} {timer : Timeout κ δ} (found : loop.timer? id = some timer) :
    timer ∈ loop.pending ∧ timer.id = id := by
  unfold timer? at found
  have same := List.find?_some found
  exact ⟨List.mem_of_find?_eq_some found, beq_iff_eq.1 same⟩

theorem distinct : (loop.pending.map Timeout.id).Nodup := by
  have sublist := loop.waits.map Timeout.id
  rw [loop.numbered] at sublist
  exact List.nodup_range.sublist sublist

/-- No two timers that wait have the same number. -/
theorem same_timer {loop : Loop κ δ} {first second : Timeout κ δ} (left : first ∈ loop.pending)
    (right : second ∈ loop.pending) (same : first.id = second.id) : first = second :=
  List.inj_on_of_nodup_map loop.distinct left right same

/-- A timer that waits alone. -/
theorem pending_alone {id : ℕ} (waiting : ∃ timer ∈ loop.pending, timer.id = id)
    (only : ∀ timer ∈ loop.pending, timer.id = id) : loop.pending.map Timeout.id = [id] := by
  obtain ⟨timer, pending, same⟩ := waiting
  have member : id ∈ loop.pending.map Timeout.id := List.mem_map.2 ⟨timer, pending, same⟩
  have equal : ∀ other ∈ loop.pending.map Timeout.id, other = id := List.forall_mem_map.2 only
  have repeated := List.eq_replicate_of_mem equal
  have once := List.nodup_replicate.1 (repeated ▸ loop.distinct)
  have some_id := List.length_pos_of_mem member
  rw [repeated, show (loop.pending.map Timeout.id).length = 1 by omega]
  rfl

theorem mem_setTimeout {callback : κ} {delay : δ} {timer : Timeout κ δ} :
    timer ∈ (loop.setTimeout callback delay).pending ↔
      timer ∈ loop.pending ∨ timer = ⟨loop.made.length, callback, delay⟩ := by
  change timer ∈ loop.pending ++ [_] ↔ _
  rw [List.mem_append, List.mem_singleton]

theorem mem_clearTimeout {id : ℕ} {timer : Timeout κ δ} :
    timer ∈ (loop.clearTimeout id).pending ↔ timer ∈ loop.pending ∧ timer.id ≠ id := by
  change timer ∈ loop.pending.filter _ ↔ _
  rw [List.mem_filter, bne_iff_ne]

/-- The owner knows every timer that waits, as the one of its kind, and every timer it knows waits. -/
structure Owned (known : κ → Option ℕ) : Prop where
  held : ∀ timer ∈ loop.pending, known timer.callback = some timer.id
  waiting : ∀ callback id, known callback = some id → ∃ timer ∈ loop.pending, timer.callback = callback ∧ timer.id = id

theorem Owned.idle : (idle : Loop κ δ).Owned fun _ => none where
  held := nofun
  waiting := nofun

variable {loop} {known : κ → Option ℕ}

theorem Owned.pending_iff (owned : loop.Owned known) (callback : κ) :
    (∃ timer ∈ loop.pending, timer.callback = callback) ↔ (known callback).isSome = true := by
  rw [Option.isSome_iff_exists]
  constructor
  · rintro ⟨timer, pending, rfl⟩
    exact ⟨timer.id, owned.held timer pending⟩
  · rintro ⟨id, same⟩
    obtain ⟨timer, pending, kind, -⟩ := owned.waiting callback id same
    exact ⟨timer, pending, kind⟩

variable [DecidableEq κ]

/-- Two timers of one kind would have the one number that the owner knows. -/
theorem Owned.alone (owned : loop.Owned known) (callback : κ) :
    (loop.pending.filter (·.callback = callback)).length ≤ 1 := by
  have kind {timer : Timeout κ δ} (member : timer ∈ loop.pending.filter (·.callback = callback)) :
      timer ∈ loop.pending ∧ known callback = some timer.id := by
    obtain ⟨pending, same⟩ := List.mem_filter.1 member
    exact ⟨pending, of_decide_eq_true same ▸ owned.held timer pending⟩
  have nodup : (loop.pending.filter (·.callback = callback)).Nodup := loop.distinct.of_map.filter _
  cases found : loop.pending.filter (·.callback = callback) with
  | nil => exact Nat.zero_le _
  | cons first rest =>
    cases rest with
    | nil => exact le_rfl
    | cons second rest =>
      rw [found] at kind nodup
      obtain ⟨left, knowsFirst⟩ := kind List.mem_cons_self
      obtain ⟨right, knowsSecond⟩ := kind (List.mem_cons_of_mem _ List.mem_cons_self)
      have same := same_timer left right (Option.some_inj.1 (knowsFirst.symm.trans knowsSecond))
      exact absurd (same ▸ List.mem_cons_self) (List.nodup_cons.1 nodup).1

theorem Owned.setTimeout (owned : loop.Owned known) {callback : κ} (free : known callback = none) (delay : δ) :
    (loop.setTimeout callback delay).Owned (Function.update known callback (some loop.made.length)) where
  held := by
    intro timer pending
    rcases (mem_setTimeout loop).1 pending with old | rfl
    · have kind : timer.callback ≠ callback := by
        rintro rfl
        exact Option.some_ne_none _ ((owned.held timer old).symm.trans free)
      rw [Function.update_of_ne kind]
      exact owned.held timer old
    · exact Function.update_self ..
  waiting := by
    intro other id same
    by_cases kind : other = callback
    · subst kind
      rw [Function.update_self, Option.some_inj] at same
      exact ⟨_, (mem_setTimeout loop).2 (.inr rfl), rfl, same⟩
    · rw [Function.update_of_ne kind] at same
      obtain ⟨timer, pending, rest⟩ := owned.waiting other id same
      exact ⟨timer, (mem_setTimeout loop).2 (.inl pending), rest⟩

theorem Owned.clearTimeout (owned : loop.Owned known) {callback : κ} {id : ℕ} (same : known callback = some id) :
    (loop.clearTimeout id).Owned (Function.update known callback none) where
  held := by
    intro timer pending
    obtain ⟨old, other⟩ := (mem_clearTimeout loop).1 pending
    have kind : timer.callback ≠ callback := by
      rintro rfl
      exact other (Option.some_inj.1 ((owned.held timer old).symm.trans same))
    rw [Function.update_of_ne kind]
    exact owned.held timer old
  waiting := by
    intro other number known
    by_cases kind : other = callback
    · subst kind
      rw [Function.update_self] at known
      exact absurd known.symm (Option.some_ne_none _)
    · rw [Function.update_of_ne kind] at known
      obtain ⟨timer, pending, rfl, rfl⟩ := owned.waiting other number known
      refine ⟨timer, (mem_clearTimeout loop).2 ⟨pending, ?_⟩, rfl, rfl⟩
      -- Were it the one that is cleared, it would be of both kinds.
      intro cleared
      obtain ⟨own, waits, rfl, rfl⟩ := owned.waiting callback id same
      exact kind (congrArg Timeout.callback (same_timer pending waits cleared))

end Loop
end AotDrone.Lib.EventLoop
