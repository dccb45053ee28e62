import AotDrone.Link.ReadBack

/-! Member lookup over the members that were dumped, under the names the flight controller reads. -/

namespace AotDrone.Link
open AotDrone.Lib AotDrone.Lib.Double AotDrone.Lib.Decimal AotDrone.Json AotDrone.Fc

/-- The first member the reader finds under a key. A float that is not finite hides what follows it. -/
def fcLookup (key : Text) : Members → Option Value
  | [] => none
  | (name, v) :: rest => if fcKey name = key then some v else if Skippable v then fcLookup key rest else none

/-- With all names apart, a member is found under its own unless something before it hides it. -/
theorem fcLookup_nth {members : Members} (distinct : (members.map fun m => fcKey m.1).Nodup) {i : Nat}
    {name : PyStr} {v : Value} (nth : members[i]? = some (name, v)) :
    fcLookup (fcKey name) members = if ∀ m ∈ members.take i, Skippable m.2 then some v else none := by
  induction members generalizing i with
  | nil => cases nth
  | cons m members ih =>
    obtain ⟨first, w⟩ := m
    rw [List.map_cons, List.nodup_cons] at distinct
    cases i with
    | zero =>
      cases nth
      rw [fcLookup, if_pos rfl, if_pos (by simp)]
    | succ i =>
      rw [List.getElem?_cons_succ] at nth
      have other : fcKey first ≠ fcKey name := by
        intro same
        exact distinct.1 (List.mem_map.2 ⟨_, List.mem_of_getElem? nth, same.symm⟩)
      rw [fcLookup, if_neg other, ih distinct.2 nth]
      simp only [List.take_succ_cons, List.forall_mem_cons]
      by_cases skippable : Skippable w
      · rw [if_pos skippable]
        exact if_congr (by simp [skippable]) rfl rfl
      · rw [if_neg skippable, if_neg fun both => skippable both.1]

theorem fcLookup_mem {key : Text} {members : Members} {v : Value} (found : fcLookup key members = some v) :
    ∃ name, (name, v) ∈ members := by
  induction members with
  | nil => cases found
  | cons m members ih =>
    obtain ⟨name, w⟩ := m
    rw [fcLookup] at found
    split_ifs at found
    · cases found
      exact ⟨name, List.mem_cons_self ..⟩
    · obtain ⟨other, member⟩ := ih found
      exact ⟨other, List.mem_cons_of_mem _ member⟩

section lookup
variable [Fpu] [FloatRepr]

/-- Looking up in the text of an object is looking up among its members. -/
theorem lookupKey_fieldsOf (key : Text) (members : Members) :
    lookupKey key (fieldsOf members) = (fcLookup key members).map Value.node := by
  induction members with
  | nil => rfl
  | cons m members ih =>
    obtain ⟨name, v⟩ := m
    rw [fieldsOf, lookupKey, fcLookup, readQuoted_quotedOf]
    simp only [readable_value, ih]
    split_ifs <;> rfl

/-- What the reader makes of the value it finds. -/
theorem lookupKey_bind {α : Type} (key : Text) (members : Members) {read : Node → Option α} {of : Value → Option α}
    (same : ∀ v, read v.node = of v) :
    (lookupKey key (fieldsOf members)).bind read = (fcLookup key members).bind of := by
  rw [lookupKey_fieldsOf, Option.bind_map]
  congr 1
  exact funext same

/-- The members of an object and no white space. -/
def dumped (members : Members) : ObjectText := ⟨.none, .none, fieldsOf members, .none⟩

theorem dumped_text (members : Members) : (dumped members).text = dumps (.obj members) := by
  rw [← node_text (.obj members)]
  simp [ObjectText.text, dumped, Value.node, Blank.none]

end lookup
end AotDrone.Link
