import Mathlib

/-! A list in which one entry is replaced: what is counted of it changes by the entry. And numbered
families in which one member is. -/

namespace AotDrone.Lib

variable {α : Type*} {l : List α} {i : ℕ} {old : α}

theorem getElem?_set_present (present : l[i]? = some old) (new : α) (j : ℕ) :
    (l.set i new)[j]? = if j = i then some new else l[j]? := by
  obtain ⟨bound, -⟩ := List.getElem?_eq_some_iff.1 present
  rw [List.getElem?_set]
  by_cases same : j = i
  · rw [if_pos same.symm, if_pos bound, if_pos same]
  · rw [if_neg (Ne.symm same), if_neg same]

theorem sum_map_set (present : l[i]? = some old) (new : α) (f : α → ℕ) :
    ((l.set i new).map f).sum + f old = (l.map f).sum + f new := by
  induction l generalizing i with
  | nil => cases present
  | cons first l ih =>
    cases i with
    | zero =>
      obtain rfl := Option.some.inj present
      rw [List.set_cons_zero, List.map_cons, List.map_cons, List.sum_cons, List.sum_cons]
      omega
    | succ i =>
      have later := ih present
      rw [List.set_cons_succ, List.map_cons, List.map_cons, List.sum_cons, List.sum_cons]
      omega

theorem countP_set_present (present : l[i]? = some old) (new : α) (p : α → Bool) :
    (l.set i new).countP p + (if p old then 1 else 0) = l.countP p + if p new then 1 else 0 := by
  have counted : ∀ entries : List α, entries.countP p = (entries.map fun a => if p a then 1 else 0).sum := by
    intro entries
    induction entries with
    | nil => rfl
    | cons a entries ih => rw [List.countP_cons, List.map_cons, List.sum_cons, ih, Nat.add_comm]
  rw [counted, counted]
  exact sum_map_set present new fun a => if p a then 1 else 0

/-- What holds of every entry and of the new one holds of every entry after. -/
theorem forall_mem_set {P : α → Prop} (all : ∀ a ∈ l, P a) {new : α} (fresh : P new) : ∀ a ∈ l.set i new, P a := by
  intro a member
  rcases List.mem_or_eq_of_mem_set member with earlier | rfl
  · exact all a earlier
  · exact fresh

/-- What a replaced member agrees on with the old one is unchanged throughout. -/
theorem apply_update_kept {ι β : Type*} [DecidableEq ι] (f : α → β) {g : ι → α} {i : ι} {new : α} (kept : f new = f (g i))
    (j : ι) : f (Function.update g i new j) = f (g j) := by
  by_cases here : j = i
  · rw [here, Function.update_self, kept]
  · rw [Function.update_of_ne here]

/-- Where a list of a numbered family grows and those behind it are empty, the family as a whole grows at its end. -/
theorem flatMap_range_grow {f g : ℕ → List α} {n : ℕ} {more : List α} (inside : i < n) (grown : g i = f i ++ more)
    (same : ∀ j < i, g j = f j) (empty : ∀ j, i < j → f j = [] ∧ g j = []) :
    (List.range n).flatMap g = (List.range n).flatMap f ++ more := by
  induction n with
  | zero => exact absurd inside (Nat.not_lt_zero i)
  | succ n ih =>
    rw [List.range_succ, List.flatMap_append, List.flatMap_append, List.flatMap_singleton, List.flatMap_singleton]
    rcases Nat.lt_or_eq_of_le (Nat.le_of_lt_succ inside) with earlier | last
    · rw [ih earlier, (empty n earlier).1, (empty n earlier).2, List.append_nil, List.append_nil]
    · subst last
      have kept : (List.range i).flatMap g = (List.range i).flatMap f :=
        List.flatMap_congr fun j before => same j (List.mem_range.1 before)
      rw [kept, grown, List.append_assoc]

end AotDrone.Lib
