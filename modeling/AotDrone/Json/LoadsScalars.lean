import AotDrone.Json.Reader

/-! What holds of every number in a text holds of every number that a reader returns: floats that the machine can hold,
integers with no more digits than the text has characters. -/

namespace AotDrone.Json
open AotDrone.Lib AotDrone.Lib.Double AotDrone.Lib.Decimal

/-- `P` of a value, or of the members of the object that it is. -/
def Holds (P : Value → Prop) : Value → Prop
  | .obj members => ∀ m ∈ members, P m.2
  | .null => P .null
  | .bool b => P (.bool b)
  | .int n => P (.int n)
  | .float x => P (.float x)
  | .str s => P (.str s)
  | .arr items => P (.arr items)

theorem forall_mem_set_value {P : Value → Prop} {members : Members} (all : ∀ m ∈ members, P m.2) (name : PyStr)
    {value : Value} (new : P value) : ∀ m ∈ Members.set members name value, P m.2 := by
  unfold Members.set
  split_ifs
  · intro m member
    obtain ⟨old, isOld, rfl⟩ := List.mem_map.1 member
    split_ifs
    · exact new
    · exact all old isOld
  · intro m member
    rcases List.mem_append.1 member with isOld | isNew
    · exact all m isOld
    · rw [List.mem_singleton.1 isNew]
      exact new

/-- A value of a member that is there. -/
theorem Members.mem_of_get {members : Members} {name : String} {value : Value} (found : members.get name = value)
    (present : value ≠ .null) : ∃ m ∈ members, m.2 = value := by
  unfold Members.get at found
  cases located : members.lookup (pyStr name) with
  | none =>
    rw [located] at found
    exact absurd found.symm present
  | some v =>
    rw [located] at found
    obtain ⟨before, after, rfl, -⟩ := List.lookup_eq_some_iff.1 located
    exact ⟨_, List.mem_append_right _ List.mem_cons_self, found⟩

section reading
variable [Fpu] {dialect : Dialect} {P : Value → Prop} {bound : ℕ}

omit [Fpu] in
theorem scanWhole_digits (s : PyStr) : ∀ c ∈ asText (scanWhole s).1, c.isDigit = true := by
  intro c member
  obtain ⟨own, among, rfl⟩ := List.mem_map.1 member
  have digit : own.isDigit = true := by
    unfold scanWhole at among
    split at among
    · split_ifs at among with zero
      · rw [List.mem_singleton.1 among]
        have code := beq_iff_eq.1 zero
        unfold CodePoint.isDigit
        rw [code]
        decide
      · exact List.all_eq_true.1 (List.all_takeWhile ..) own among
    · cases among
  unfold CodePoint.isDigit at digit
  rw [Bool.and_eq_true, decide_eq_true_eq, decide_eq_true_eq] at digit
  have codes : '0'.toNat = 48 ∧ '9'.toNat = 57 := by decide
  have code : (Char.ofNat own.val).toNat = own.val := toNat_charOfNat (by omega)
  have same : (Char.ofNat own.val).toNat = (Char.ofNat own.val).val.toNat := rfl
  simp only [Char.isDigit, Bool.and_eq_true, decide_eq_true_eq, ge_iff_le, UInt32.le_iff_toNat_le]
  have ends : '0'.val.toNat = 48 ∧ '9'.val.toNat = 57 := by decide
  omega

/-- An integer has no more digits than the text has characters; a float has been rounded. -/
theorem scanNumber_cases {s rest : PyStr} {value : Value} (scanned : scanNumber s = some (value, rest)) :
    (∃ n : ℤ, value = .int n ∧ n.natAbs < 10 ^ s.length) ∨ ∃ q, value = .float (Fpu.round q) := by
  have signed := scanSign_length s
  have split := congrArg List.length (scanWhole_append (scanSign s).2)
  rw [List.length_append] at split
  have small := ofDigitChars_lt (scanWhole_digits (scanSign s).2)
  have shorter : (asText (scanWhole (scanSign s).2).1).length ≤ s.length := by
    rw [asText, List.length_map]
    omega
  have bound := small.trans_le (Nat.pow_le_pow_right (by decide) shorter)
  unfold scanNumber at scanned
  dsimp only at scanned
  split_ifs at scanned
  · cases scanned
    exact .inl ⟨_, rfl, bound⟩
  · cases scanned
    refine .inl ⟨_, rfl, ?_⟩
    rw [Int.natAbs_neg]
    exact bound
  · cases scanned
    exact .inr ⟨_, rfl⟩

/-- A scalar is a word, or such a number. -/
theorem scanScalar_cases {s rest : PyStr} {value : Value} (scanned : dialect.scanScalar s = some (value, rest)) :
    value ∈ literals.map Prod.snd ∨ (∃ n : ℤ, value = .int n ∧ n.natAbs < 10 ^ s.length) ∨
      ∃ q, value = .float (Fpu.round q) := by
  rcases Option.or_eq_some_iff.1 scanned with literal | ⟨-, number⟩
  · obtain ⟨known, member, found⟩ := List.exists_of_findSome?_eq_some literal
    split_ifs at found
    cases found
    exact .inl (List.mem_map_of_mem (Dialect.literals_known member))
  · obtain ⟨⟨own, left⟩, scannedNumber, same⟩ := Option.map_eq_some_iff.1 number
    cases same
    rcases scanNumber_cases scannedNumber with ⟨n, rfl, small⟩ | ⟨q, rfl⟩
    · unfold Dialect.number
      dsimp only
      split_ifs
      · exact .inr (.inl ⟨n, rfl, small⟩)
      · exact .inr (.inr ⟨n, rfl⟩)
    · exact .inr (.inr ⟨q, rfl⟩)

/-- `P` holds of what is no number, of the words, of integers with at most `bound` digits and of floats that have been
rounded. -/
structure OfScalars (P : Value → Prop) (bound : ℕ) : Prop where
  other : ∀ value : Value, value.number = none → P value
  word : ∀ value ∈ literals.map Prod.snd, P value
  int : ∀ n : ℤ, n.natAbs < 10 ^ bound → P (.int n)
  float : ∀ q, P (.float (Fpu.round q))

namespace OfScalars

theorem holds_scalar (rule : OfScalars P bound) {s rest : PyStr} {value : Value} (within : s.length ≤ bound)
    (scanned : dialect.scanScalar s = some (value, rest)) : Holds P value := by
  rcases scanScalar_cases scanned with word | ⟨n, rfl, small⟩ | ⟨q, rfl⟩
  · have own := rule.word value word
    simp only [literals, List.map_cons, List.map_nil, List.mem_cons, List.not_mem_nil, or_false] at word
    rcases word with rfl | rfl | rfl | rfl | rfl | rfl <;> exact own
  · exact rule.int n (small.trans_le (Nat.pow_le_pow_right (by decide) within))
  · exact rule.float q

theorem of_holds (rule : OfScalars P bound) {value : Value} (holds : Holds P value) : P value := by
  cases value with
  | null | bool _ | int _ | float _ | str _ | arr _ => exact holds
  | obj members => exact rule.other _ rfl

/-- What a reader returns. -/
def Reads (P : Value → Prop) (result : Except LoadsError (Value × PyStr)) : Prop :=
  ∀ value rest, result = .ok (value, rest) → Holds P value

omit [Fpu] in
theorem reads_error {e : LoadsError} : Reads P (.error e) := by
  intro value rest found
  cases found

omit [Fpu] in
theorem reads_ok {value : Value} {rest : PyStr} (holds : Holds P value) : Reads P (.ok (value, rest)) := by
  intro _ _ same
  cases same
  exact holds

/-- The readers call each other with one unit of fuel less, on less text. -/
theorem reads (rule : OfScalars P bound) (fuel : ℕ) :
    (∀ depth s, s.length ≤ bound → 2 * s.length + 1 ≤ fuel → Reads P (dialect.readValue fuel depth s)) ∧
      (∀ depth members s, s.length ≤ bound → 2 * s.length + 1 ≤ fuel → (∀ m ∈ members, P m.2) →
        Reads P (dialect.readMembers fuel depth members s)) ∧
      ∀ depth items s, s.length ≤ bound → 2 * s.length + 2 ≤ fuel → Reads P (dialect.readItems fuel depth items s) := by
  induction fuel with
  | zero =>
    refine ⟨?_, ?_, ?_⟩
    · intro depth s _ enough
      omega
    · intro depth members s _ enough
      omega
    · intro depth items s _ enough
      omega
  | succ fuel ih =>
    obtain ⟨values, members, items⟩ := ih
    refine ⟨?_, ?_, ?_⟩
    · intro depth s within enough
      apply Dialect.readValue_cases reads_error reads_error
      · exact fun _ _ _ _ _ _ => reads_ok (rule.other _ rfl)
      · rintro brace rest d after inner rfl skipped
        have shorter := Dialect.length_of_skip skipped
        rw [List.length_cons] at within enough
        refine ⟨reads_ok (List.forall_mem_nil _), members inner [] _ ?_ ?_ (List.forall_mem_nil _)⟩
        · rw [List.length_cons]
          omega
        · rw [List.length_cons]
          omega
      · rintro bracket rest d after inner rfl skipped
        have shorter := Dialect.length_of_skip skipped
        rw [List.length_cons] at within enough
        refine ⟨reads_ok (rule.other _ rfl), items inner [] _ ?_ ?_⟩
        · rw [List.length_cons]
          omega
        · rw [List.length_cons]
          omega
      · exact fun found scanned => reads_ok (rule.holds_scalar within scanned)
    · intro depth read s within enough all
      apply Dialect.readMembers_cases reads_error
      · exact fun _ _ _ _ _ => reads_error
      · intro key tail value left d next head found after
        have shorter := head.shorter
        have skipped := length_skipWhitespace tail
        have first := ((dialect.shortens fuel).1 depth (skipWhitespace tail) (by omega)).2 value left found
        have closing := Dialect.length_of_skip after
        have last := length_skipWhitespace next
        have holds := values depth (skipWhitespace tail) (by omega) (by omega) value left found
        have grown := forall_mem_set_value all key (rule.of_holds holds)
        exact ⟨reads_ok grown, members depth _ _ (by omega) (by omega) grown⟩
    · intro depth read s within enough
      apply Dialect.readItems_cases reads_error
      · exact fun _ _ => reads_error
      · intro value left d next found after
        have first := ((dialect.shortens fuel).1 depth s (by omega)).2 value left found
        have closing := Dialect.length_of_skip after
        have last := length_skipWhitespace next
        exact ⟨reads_ok (rule.other _ rfl), items depth _ _ (by omega) (by omega)⟩

/-- A text of at most `bound` characters. -/
theorem read (rule : OfScalars P bound) {depth : ℕ} {s : PyStr} {value : Value} (within : s.length ≤ bound)
    (found : dialect.read depth s = .ok value) : Holds P value := by
  have skipped := length_skipWhitespace s
  unfold Dialect.read at found
  cases scanned : dialect.readValue (2 * s.length + 1) depth (skipWhitespace s) with
  | error e =>
    rw [scanned] at found
    cases found
  | ok pair =>
    rw [scanned] at found
    dsimp only at found
    split_ifs at found
    cases found
    exact (rule.reads _).1 depth _ (by omega) (by omega) _ _ scanned

end OfScalars

/-! ## Floats -/

/-- The floats among the members. -/
def MembersDoubles (members : Members) : Prop := ∀ m ∈ members, ∀ x, m.2 = .float x → IsDouble x

theorem doubles_ofScalars (bound : ℕ) : OfScalars (fun value => ∀ x, value = .float x → IsDouble x) bound := by
  refine ⟨?_, ?_, ?_, ?_⟩
  · rintro _ none x rfl
    cases none
  · rintro _ word x rfl
    simp only [literals, List.map_cons, List.map_nil, List.mem_cons, List.not_mem_nil, or_false, reduceCtorEq, false_or,
      Value.float.injEq] at word
    rcases word with rfl | rfl | rfl <;> trivial
  · exact fun _ _ _ same => by cases same
  · rintro q _ ⟨⟩
    exact isDouble_round q

theorem loads_doubles {recursionLimit : ℕ} {s : PyStr} {members : Members}
    (loaded : loads recursionLimit s = .ok (.obj members)) : MembersDoubles members :=
  (doubles_ofScalars s.length).read le_rfl loaded

/-- A number of a loaded object that is read through `float()` is a double. -/
theorem MembersDoubles.get {members : Members} (doubles : MembersDoubles members) {name : String} {x : Double}
    (read : (Members.get members name).ByFloat x) : IsDouble x := by
  rcases read with ⟨n, -, rfl, -⟩ | float
  · exact isDouble_round _
  · obtain ⟨m, member, same⟩ := Members.mem_of_get float (by simp)
    exact doubles m member x same

/-! ## Integers -/

theorem ints_ofScalars (bound : ℕ) : OfScalars (fun value => ∀ n : ℤ, value = .int n → n.natAbs < 10 ^ bound) bound := by
  refine ⟨?_, ?_, ?_, ?_⟩
  · rintro _ none n rfl
    cases none
  · rintro _ word n rfl
    simp [literals] at word
  · rintro n small _ ⟨⟩
    exact small
  · exact fun _ _ same => by cases same

/-- An integer of a loaded object has no more digits than the text has characters. -/
theorem loads_int {recursionLimit : ℕ} {s : PyStr} {members : Members} {name : String} {n : ℤ}
    (loaded : loads recursionLimit s = .ok (.obj members)) (found : Members.get members name = .int n) :
    n.natAbs < 10 ^ s.length := by
  have ints : ∀ m ∈ members, ∀ n : ℤ, m.2 = .int n → n.natAbs < 10 ^ s.length :=
    (ints_ofScalars s.length).read le_rfl loaded
  obtain ⟨m, member, same⟩ := Members.mem_of_get found (by simp)
  exact ints m member n same

end reading
end AotDrone.Json
