import Mathlib.Data.List.Basic
import Mathlib.Data.List.DropRight
import Mathlib.Order.Nat

/-! A queue of bounded length that makes room by dropping its oldest item, beside the log of all that was ever
appended to it. -/

namespace AotDrone.Lib.Window

variable {α : Type*} {size : ℕ}

def append (size : ℕ) (queue : List α) (item : α) : List α :=
  (if size ≤ queue.length then queue.tail else queue) ++ [item]

/-- Without pops the queue is the end of the log. -/
theorem append_rtake (positive : 0 < size) (log : List α) (item : α) :
    append size (log.rtake size) item = (log ++ [item]).rtake size := by
  obtain ⟨size, rfl⟩ := Nat.exists_eq_add_of_lt positive
  rw [Nat.zero_add, List.rtake_concat_succ]
  unfold append List.rtake
  rw [List.length_drop]
  congr 1
  split_ifs with full
  · rw [List.tail_drop]
    congr 1
    omega
  · congr 1
    omega

inductive Op (α : Type*) where
  | append (item : α)
  | pop (item : α)

/-- All that was appended and all that was popped, in order, with the places of the popped items among the appended
ones. The items before the place `gone` have left the queue. -/
structure Log (α : Type*) where
  appended : List α := []
  popped : List α := []
  places : List ℕ := []
  gone : ℕ := 0

/-- An item leaves when it is popped, or when `size` items have been appended after it. -/
def Log.after (size : ℕ) (log : Log α) : Op α → Log α
  | .append item =>
    { log with appended := log.appended ++ [item], gone := max log.gone (log.appended.length + 1 - size) }
  | .pop item =>
    { log with popped := log.popped ++ [item], places := log.places ++ [log.gone], gone := log.gone + 1 }

def logOf (size : ℕ) (history : List (Op α)) : Log α := history.foldl (Log.after size) {}

theorem logOf_append (history : List (Op α)) (op : Op α) :
    logOf size (history ++ [op]) = (logOf size history).after size op := by
  unfold logOf
  rw [List.foldl_append]
  rfl

/-- What a queue owes to its log. -/
structure Serves (size : ℕ) (log : Log α) (queue : List α) : Prop where
  waiting : queue = log.appended.drop log.gone
  gone : log.gone ≤ log.appended.length
  bounded : queue.length ≤ size
  order : log.popped.Sublist (log.appended.take log.gone)
  increasing : log.places.Pairwise (· < ·)
  passed : ∀ place ∈ log.places, place < log.gone
  placed : log.popped.map some = log.places.map fun place => log.appended[place]?
  skipped : ∀ place < log.gone, place ∉ log.places → place + size < log.appended.length

theorem Serves.start : Serves size ({} : Log α) [] where
  waiting := rfl
  gone := le_rfl
  bounded := Nat.zero_le _
  order := List.Sublist.refl _
  increasing := List.Pairwise.nil
  passed := List.forall_mem_nil _
  placed := rfl
  skipped := nofun

variable {log : Log α} {queue : List α} {item : α}

theorem Serves.length_eq (serves : Serves size log queue) : queue.length = log.appended.length - log.gone := by
  rw [serves.waiting, List.length_drop]

theorem Serves.append (serves : Serves size log queue) (positive : 0 < size) :
    Serves size (log.after size (.append item)) (append size queue item) := by
  have length := serves.length_eq
  have gone := serves.gone
  have bounded := serves.bounded
  have next : max log.gone (log.appended.length + 1 - size) =
      if size ≤ queue.length then log.gone + 1 else log.gone := by
    split_ifs <;> omega
  have further : log.gone ≤ max log.gone (log.appended.length + 1 - size) := le_max_left _ _
  constructor
  · change Window.append size queue item = (log.appended ++ [item]).drop (max log.gone _)
    rw [next]
    unfold Window.append
    split_ifs with full
    · rw [List.drop_append_of_le_length (by omega), ← List.tail_drop, ← serves.waiting]
    · rw [List.drop_append_of_le_length gone, ← serves.waiting]
  · change max log.gone _ ≤ (log.appended ++ [item]).length
    rw [List.length_append, List.length_singleton]
    omega
  · unfold Window.append
    rw [List.length_append, List.length_singleton]
    split_ifs with full
    · rw [List.length_tail]
      omega
    · omega
  · change log.popped.Sublist ((log.appended ++ [item]).take (max log.gone _))
    apply serves.order.trans
    rw [← List.take_append_of_le_length gone]
    exact List.take_sublist_take_left further
  · exact serves.increasing
  · exact fun place member => (serves.passed place member).trans_le further
  · change log.popped.map some = log.places.map fun place => (log.appended ++ [item])[place]?
    rw [serves.placed]
    apply List.map_congr_left
    intro place member
    exact (List.getElem?_append_left ((serves.passed place member).trans_le gone)).symm
  · change ∀ place < max log.gone _, place ∉ log.places → place + size < (log.appended ++ [item]).length
    intro place before other
    rw [List.length_append, List.length_singleton]
    by_cases earlier : place < log.gone
    · exact Nat.lt_succ_of_lt (serves.skipped place earlier other)
    · omega

theorem Serves.pop {rest : List α} (serves : Serves size log (item :: rest)) :
    Serves size (log.after size (.pop item)) rest := by
  have length := serves.length_eq
  have waiting := serves.waiting
  have inside : log.gone < log.appended.length := by
    rw [List.length_cons] at length
    omega
  rw [List.drop_eq_getElem_cons inside] at waiting
  obtain ⟨rfl, rfl⟩ := List.cons.inj waiting
  constructor
  · rfl
  · exact inside
  · exact (Nat.le_succ _).trans serves.bounded
  · change (log.popped ++ [log.appended[log.gone]]).Sublist (log.appended.take (log.gone + 1))
    rw [List.take_succ_eq_append_getElem inside]
    exact serves.order.append (List.Sublist.refl _)
  · change (log.places ++ [log.gone]).Pairwise (· < ·)
    rw [List.pairwise_append]
    refine ⟨serves.increasing, List.pairwise_singleton _ _, ?_⟩
    intro place member next last
    rw [List.mem_singleton.1 last]
    exact serves.passed place member
  · change ∀ place ∈ log.places ++ [log.gone], place < log.gone + 1
    intro place member
    rcases List.mem_append.1 member with earlier | last
    · exact Nat.lt_succ_of_lt (serves.passed place earlier)
    · rw [List.mem_singleton.1 last]
      exact Nat.lt_succ_self _
  · change (log.popped ++ [log.appended[log.gone]]).map some =
      (log.places ++ [log.gone]).map fun place => log.appended[place]?
    rw [List.map_append, List.map_append, serves.placed, List.map_singleton, List.map_singleton,
      List.getElem?_eq_getElem inside]
  · change ∀ place < log.gone + 1, place ∉ log.places ++ [log.gone] → place + size < log.appended.length
    intro place before other
    rw [List.mem_append, List.mem_singleton, not_or] at other
    exact serves.skipped place (by omega) other.1

end AotDrone.Lib.Window
