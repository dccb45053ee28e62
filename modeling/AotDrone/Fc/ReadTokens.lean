import AotDrone.Fc.ReadLog
import Mathlib.Data.Option.Basic

/-! Single tokens of the logged reader: each scan ends, stays inside the text and finds what the plain
scanner finds. -/

namespace AotDrone.Fc.ReadLog
open AotDrone.Lib AotDrone.Lib.Double AotDrone.Lib.Logged

/-- A scan that ends with `Q`, every access of it inside the text and every turn an advance. -/
abbrev Reads {α : Type} (json : Text) (x : Scan α) (Q : α → Prop) : Prop := Ends (Access.Sound json) x Q

/-- No depth of braces in the text is out of the range of an `int`. -/
def Countable (json : Text) : Prop := (json.length : ℤ) ≤ intMax

/-- What is found satisfies `B`, and on a countable text it is `found`. -/
def Finds {α : Type} (json : Text) (x : Scan (Option α)) (B : α → Prop) (found : Option α) : Prop :=
  Reads json x fun r => (∀ a, r = some a → B a) ∧ (Countable json → r = found)

section rules
variable {α β σ : Type} {json : Text} {turns i : Nat}

theorem readAt_ends (inside : i < json.length) : Reads json (readAt json i) (· = charAt json i) := by
  have sound : Access.Sound json (.read i) := inside
  unfold readAt
  apply (Ends.report sound).bind
  intro _ _
  exact .pure rfl

theorem readEither_ends (inside : i < json.length) (first second : Char) :
    Reads json (readEither json i first second) (· = decide (charAt json i = first ∨ charAt json i = second)) := by
  unfold readEither
  apply (readAt_ends inside).bind
  intro c same
  subst same
  split_ifs with hit
  · exact .pure (by simp [hit])
  · apply (readAt_ends inside).bind
    intro c same
    subst same
    exact .pure (by simp [hit])

theorem eitherAt_ends {stop : Nat} (room : stop ≤ json.length) (first second : Char) :
    Reads json (eitherAt json i stop first second)
      (· = decide (i < stop ∧ (charAt json i = first ∨ charAt json i = second))) := by
  unfold eitherAt
  split_ifs with under
  · simpa only [under, true_and] using readEither_ends (under.trans_le room) first second
  · exact .pure (by simp [under])

theorem testAt_ends {stop : Nat} (room : stop ≤ json.length) (test : Char → Bool) :
    Reads json (testAt json i stop test) (· = decide (i < stop ∧ test (charAt json i) = true)) := by
  unfold testAt
  split_ifs with under
  · apply (readAt_ends (under.trans_le room)).bind
    intro c read
    subst read
    exact .pure (by simp [under])
  · exact .pure (by simp [under])

/-- A loop whose index goes up to `stop` at most. -/
theorem scan_ends {index : σ → Nat} {turn : σ → Scan (Turn σ α)} {Q : α → Prop} {s : σ} (Inv : σ → Prop) (stop : Nat)
    (room : stop ≤ json.length)
    (step : ∀ s, Inv s → Reads json (turn s) fun
      | .leave a => Q a
      | .again next => Inv next ∧ index s < index next ∧ index next ≤ stop)
    (start : Inv s) (enough : json.length < turns) : Reads json (scan index turn turns s) Q := by
  unfold scan
  apply ends_loop Inv (fun s => stop - index s) _ turns s start (by omega)
  intro s inv
  apply (step s inv).mono
  intro next done
  cases next with
  | leave a => exact done
  | again next =>
    obtain ⟨kept, advanced, within⟩ := done
    exact ⟨advanced, kept, by omega⟩

theorem orReturn_ends {x : Scan (Option α)} {f : α → Scan β} {failed : β} {Q : Option α → Prop} {R : β → Prop}
    (first : Reads json x Q) (missing : Q none → R failed) (rest : ∀ a, Q (some a) → Reads json (f a) R) :
    Reads json (orReturn x failed f) R := by
  unfold orReturn
  apply first.bind
  intro r holds
  cases r with
  | none => exact .pure (missing holds)
  | some a => exact rest a holds

/-- A plain reader that goes by what is found, read beside the scan. -/
theorem Finds.require {x : Scan (Option α)} {f : α → Scan (Option β)} {B : α → Prop} {C : β → Prop}
    {found : Option α} {failed plain : Option β} {g : α → Option β} (first : Finds json x B found)
    (absent : found = none → plain = failed) (present : ∀ a, found = some a → plain = g a)
    (missing : ∀ b, failed = some b → C b) (rest : ∀ a, B a → Finds json (f a) C (g a)) :
    Finds json (orReturn x failed f) C plain := by
  apply orReturn_ends first
  · intro done
    obtain ⟨-, same⟩ := done
    exact ⟨missing, fun countable => (absent (same countable).symm).symm⟩
  · intro a done
    obtain ⟨bound, same⟩ := done
    apply (rest a (bound a rfl)).mono
    intro r holds
    constructor
    · exact holds.1
    · intro countable
      rw [present a (same countable).symm, holds.2 countable]

theorem Finds.bind {x : Scan (Option α)} {f : α → Scan (Option β)} {B : α → Prop} {C : β → Prop}
    {found : Option α} {g : α → Option β} (first : Finds json x B found)
    (rest : ∀ a, B a → Finds json (f a) C (g a)) : Finds json (orReturn x none f) C (found.bind g) := by
  apply first.require
  · intro absent
    rw [absent]
    rfl
  · intro a present
    rw [present]
  · exact nofun
  · exact rest

theorem Finds.pure {B : α → Prop} {found : Option α} (bound : ∀ a, found = some a → B a) :
    Finds json (Pure.pure found) B found := Ends.pure ⟨bound, fun _ => rfl⟩

/-- A token is read to a value or refused, without a look at the text. -/
theorem Finds.convert {f : α → Scan (Option β)} {found : Option α} {C : β → Prop} {g : α → Option β}
    (rest : ∀ a, Finds json (f a) C (g a)) : Finds json (orReturn (Pure.pure found) none f) C (found.bind g) :=
  (Finds.pure (B := fun _ => True) fun _ _ => trivial).bind fun a _ => rest a

theorem Finds.map {x : Scan (Option α)} {B : α → Prop} {C : β → Prop} {found : Option α} (first : Finds json x B found)
    (f : α → β) (bound : ∀ a, B a → C (f a)) :
    Finds json (x >>= fun r => Pure.pure (r.map f)) C (found.map f) := by
  apply Ends.bind first
  intro r done
  obtain ⟨bounded, same⟩ := done
  apply Ends.pure
  constructor
  · intro b made
    obtain ⟨a, rfl, rfl⟩ := Option.map_eq_some_iff.1 made
    exact bound a (bounded a rfl)
  · intro countable
    rw [same countable]

end rules

/-! ## The loops over single characters -/

section tokens
variable {json : Text} {turns i stop : Nat}

/-- The two loops that run over characters of one kind. -/
theorem span_ends {accepts : Char → Bool} (run : Nat → Nat)
    (equation : ∀ i, run i = if i < stop ∧ accepts (charAt json i) = true then run (i + 1) else i)
    (room : stop ≤ json.length) (enough : json.length < turns) :
    Reads json (scan id (spanTurn json accepts stop) turns i) fun n => n = run i ∧ i ≤ n ∧ n ≤ max i stop := by
  apply scan_ends (fun s => run s = run i ∧ i ≤ s ∧ s ≤ max i stop) stop room _ ⟨rfl, le_rfl, le_max_left _ _⟩ enough
  intro s inv
  obtain ⟨same, low, high⟩ := inv
  unfold spanTurn
  split_ifs with under
  · apply (readAt_ends (under.trans_le room)).bind
    intro c read
    subst read
    split_ifs with accepted
    · apply Ends.pure
      have next : run (s + 1) = run i := by rw [← same, equation s, if_pos ⟨under, accepted⟩]
      exact ⟨⟨next, by omega, by omega⟩, by change s < s + 1; omega, by change s + 1 ≤ stop; omega⟩
    · apply Ends.pure
      have last : run s = s := by rw [equation s, if_neg fun both => accepted both.2]
      exact ⟨last.symm.trans same, low, high⟩
  · apply Ends.pure
    have last : run s = s := by rw [equation s, if_neg fun both => under both.1]
    exact ⟨last.symm.trans same, low, high⟩

theorem skipWsRange_equation (i : Nat) : Fc.skipWsRange json i stop =
    if i < stop ∧ isSpace (charAt json i) = true then Fc.skipWsRange json (i + 1) stop else i := by
  by_cases under : i < stop
  · unfold Fc.skipWsRange
    rw [show stop - i = stop - (i + 1) + 1 by omega, skipWsLoop]
    simp only [under, true_and]
  · rw [if_neg fun both => under both.1, Fc.skipWsRange, show stop - i = 0 by omega]
    rfl

theorem digitsEnd_equation (i : Nat) : Fc.digitsEnd json i stop =
    if i < stop ∧ (charAt json i).isDigit = true then Fc.digitsEnd json (i + 1) stop else i := by
  by_cases under : i < stop
  · unfold Fc.digitsEnd
    rw [show stop - i = stop - (i + 1) + 1 by omega, digitsLoop]
    simp only [under, true_and]
  · rw [if_neg fun both => under both.1, Fc.digitsEnd, show stop - i = 0 by omega]
    rfl

theorem skipWsRange_ends (room : stop ≤ json.length) (enough : json.length < turns) :
    Reads json (skipWsRange turns json i stop) fun n => n = Fc.skipWsRange json i stop ∧ i ≤ n ∧ n ≤ max i stop :=
  span_ends (Fc.skipWsRange json · stop) skipWsRange_equation room enough

theorem digitsEnd_ends (room : stop ≤ json.length) (enough : json.length < turns) :
    Reads json (digitsEnd turns json i stop) fun n => n = Fc.digitsEnd json i stop ∧ i ≤ n ∧ n ≤ max i stop :=
  span_ends (Fc.digitsEnd json · stop) digitsEnd_equation room enough

/-- A token that is read on every text, whatever an `int` can count. -/
def Tokenizes (json : Text) (start stop : Nat) (x : Scan (Option (Text × Nat))) (found : Option (Text × Nat)) : Prop :=
  Reads json x fun r => r = found ∧ ∀ token, r = some token → start < token.2 ∧ token.2 ≤ stop

theorem Tokenizes.finds {start : Nat} {x : Scan (Option (Text × Nat))} {found : Option (Text × Nat)}
    (tokenizes : Tokenizes json start stop x found) :
    Finds json x (fun token => start < token.2 ∧ token.2 ≤ stop) found := by
  apply Ends.mono tokenizes
  intro r done
  exact ⟨done.2, fun _ => done.1⟩

theorem parseJsonStringToken_ends (start : Nat) (room : stop ≤ json.length) (enough : json.length < turns) :
    Tokenizes json start stop (parseJsonStringToken turns json start stop)
      (Fc.parseJsonStringToken json start stop) := by
  unfold parseJsonStringToken
  by_cases out : stop ≤ start
  · rw [if_pos out, Fc.parseJsonStringToken, if_pos (.inl out)]
    exact .pure ⟨rfl, nofun⟩
  · rw [if_neg out]
    apply (readAt_ends (by omega)).bind
    intro c read
    subst read
    by_cases quoted : charAt json start = '"'
    · rw [if_neg (not_not.2 quoted), Fc.parseJsonStringToken, if_neg (by simp [out, quoted])]
      -- the plain loop, from the position the state has reached, is the plain loop from the start
      apply scan_ends (fun s => start < s.1 ∧ stringTokenLoop json (stop - s.1) s.1 s.2.1 s.2.2 =
        stringTokenLoop json (stop - (start + 1)) (start + 1) [] false) stop room _ ⟨by simp, rfl⟩ enough
      intro s inv
      obtain ⟨i, value, escaped⟩ := s
      obtain ⟨low, same⟩ := inv
      dsimp only at low same
      rw [← same]
      unfold stringTurn
      dsimp only
      by_cases under : i < stop
      · rw [if_pos under, show stop - i = stop - (i + 1) + 1 by omega, stringTokenLoop]
        apply (readAt_ends (under.trans_le room)).bind
        intro c read
        subst read
        have advance : i < i + 1 ∧ i + 1 ≤ stop := by omega
        have later : start < i + 1 := by omega
        split_ifs
        · exact .pure ⟨⟨later, rfl⟩, advance⟩
        · exact .pure ⟨⟨later, rfl⟩, advance⟩
        · apply Ends.pure
          constructor
          · rfl
          · intro token made
            cases made
            exact ⟨later, advance.2⟩
        · exact .pure ⟨⟨later, rfl⟩, advance⟩
      · rw [if_neg under, show stop - i = 0 by omega]
        exact .pure ⟨rfl, nofun⟩
    · rw [if_pos quoted, Fc.parseJsonStringToken, if_pos (.inr quoted)]
      exact .pure ⟨rfl, nofun⟩

/-- An exponent is read up to the end of its digits. -/
theorem exponentEnd_ends (room : stop ≤ json.length) (enough : json.length < turns) :
    Reads json (exponentEnd turns json i stop) fun r =>
      r = Fc.exponentEnd json i stop ∧ ∀ next, r = some next → i ≤ next ∧ next ≤ max i stop := by
  unfold exponentEnd
  apply (eitherAt_ends room 'e' 'E').bind
  intro hasExponent same
  by_cases present : i < stop ∧ (charAt json i = 'e' ∨ charAt json i = 'E')
  · rw [same, decide_eq_true present, if_pos rfl, Fc.exponentEnd, if_pos present]
    apply (eitherAt_ends room '+' '-').bind
    intro signed same
    subst same
    simp only [decide_eq_true_eq]
    obtain ⟨sign, passed, sign_ge, sign_le⟩ : ∃ sign, (if i + 1 < stop ∧ (charAt json (i + 1) = '+' ∨
        charAt json (i + 1) = '-') then i + 1 + 1 else i + 1) = sign ∧ i ≤ sign ∧ sign ≤ stop :=
      ⟨_, rfl, by split_ifs <;> omega, by split_ifs <;> omega⟩
    rw [passed]
    apply (digitsEnd_ends room enough).bind
    intro next done
    obtain ⟨rfl, low, high⟩ := done
    split_ifs
    · apply Ends.pure
      constructor
      · rfl
      · intro next made
        cases made
        omega
    · exact .pure ⟨rfl, nofun⟩
  · rw [same, decide_eq_false present, if_neg Bool.false_ne_true, Fc.exponentEnd, if_neg present]
    apply Ends.pure
    constructor
    · rfl
    · intro next made
      cases made
      omega

theorem fractionEnd_ends (room : stop ≤ json.length) (enough : json.length < turns) {point : Bool}
    (under : point = true → i < stop) :
    Reads json (fractionEnd turns json i stop point) fun n =>
      n = (if point then Fc.digitsEnd json (i + 1) stop else i) ∧ i ≤ n ∧ n ≤ max i stop := by
  unfold fractionEnd
  split_ifs with present
  · apply (digitsEnd_ends room enough).mono
    intro n done
    obtain ⟨same, low, high⟩ := done
    have inside := under present
    exact ⟨same, by omega, by omega⟩
  · exact .pure ⟨rfl, le_rfl, le_max_left _ _⟩

/-- Behind a mantissa that is not empty: an exponent, a delimiter, and the token is cut out. -/
theorem mantissa_ends {start next : Nat} (room : stop ≤ json.length) (enough : json.length < turns)
    (moved : start < next) (within : next ≤ stop) :
    Tokenizes json start stop
      (orReturn (exponentEnd turns json next stop) none fun next => do
        let strange ← testAt json next stop fun c => !isValueDelim c
        if strange then pure none
        else do
          report (.substr start next)
          pure (some (substr json start (next - start), next)))
      (match Fc.exponentEnd json next stop with
      | none => none
      | some next =>
        if next < stop ∧ isValueDelim (charAt json next) = false then none
        else some (substr json start (next - start), next)) := by
  apply orReturn_ends (exponentEnd_ends room enough)
  · intro done
    rw [← done.1]
    exact ⟨rfl, nofun⟩
  · intro finish done
    obtain ⟨same, bounded⟩ := done
    obtain ⟨finish_ge, finish_le⟩ := bounded finish rfl
    rw [← same]
    apply (testAt_ends room fun c => !isValueDelim c).bind
    intro strange same
    simp only [Bool.not_eq_true'] at same
    subst same
    simp only [decide_eq_true_eq]
    split_ifs
    · exact .pure ⟨rfl, nofun⟩
    · have after : start < finish := by omega
      have inside : finish ≤ stop := by omega
      have sound : Access.Sound json (.substr start finish) := ⟨after.le, inside.trans room⟩
      apply (Ends.report sound).bind
      intro _ _
      apply Ends.pure
      constructor
      · rfl
      · intro token made
        cases made
        exact ⟨after, inside⟩

theorem parseJsonNumberTokenFrom_ends (start : Nat) (room : stop ≤ json.length) (enough : json.length < turns) :
    Tokenizes json start stop (parseJsonNumberTokenFrom turns json start stop)
      (Fc.parseJsonNumberTokenFrom json start stop) := by
  unfold parseJsonNumberTokenFrom Fc.parseJsonNumberTokenFrom
  by_cases out : stop ≤ start
  · rw [if_pos out, if_pos out]
    exact .pure ⟨rfl, nofun⟩
  · rw [if_neg out, if_neg out]
    apply (readEither_ends (by omega) '+' '-').bind
    intro signed same
    subst same
    simp only [decide_eq_true_eq]
    obtain ⟨i, passed, i_ge, i_le⟩ : ∃ i, (if charAt json start = '+' ∨ charAt json start = '-' then start + 1
        else start) = i ∧ start ≤ i ∧ i ≤ stop := ⟨_, rfl, by split_ifs <;> omega, by split_ifs <;> omega⟩
    rw [passed]
    apply (digitsEnd_ends room enough).bind
    intro whole done
    obtain ⟨rfl, whole_ge, whole_le⟩ := done
    generalize Fc.digitsEnd json i stop = whole at whole_ge whole_le
    apply (testAt_ends room (· == '.')).bind
    intro point same
    have pointed : point = (decide (whole < stop) && decide (charAt json whole = '.')) := by
      rw [same, Bool.decide_and]
      simp only [beq_iff_eq]
    rw [← pointed]
    have inside : point = true → whole < stop := by
      intro present
      rw [pointed, Bool.and_eq_true, decide_eq_true_eq] at present
      exact present.1
    apply (fractionEnd_ends room enough inside).bind
    intro next done
    obtain ⟨same, next_ge, next_le⟩ := done
    rw [← same]
    split_ifs with noDigit
    · exact .pure ⟨rfl, nofun⟩
    · -- a digit was read, before or behind the point, so the position has moved
      have moved : start < next := by
        rw [Bool.not_eq_false, Bool.or_eq_true, Bool.and_eq_true, decide_eq_true_eq, decide_eq_true_eq] at noDigit
        omega
      exact mantissa_ends room enough moved (by omega)

end tokens

/-! ## Braces -/

section braces
variable [IntOverflow] {json : Text} {turns stop : Nat} {openCh closeCh : Char}

theorem storedInt_eq {n : ℤ} (low : -1 ≤ n) (high : n ≤ intMax) : storedInt n = n := by
  unfold storedInt
  apply if_pos
  constructor
  · unfold intMin
    omega
  · exact high

/-- The plain loop from the state that a loop over the braces has reached. -/
def CloseState.rest (json : Text) (stop : Nat) (openCh closeCh : Char) (s : CloseState) : Option Nat :=
  matchingCloseLoop json openCh closeCh (stop - s.i) s.i s.depth s.inString s.escaped

/-- The depth is exact: it is at most the number of characters passed. -/
structure CloseState.Counted (json : Text) (s : CloseState) : Prop where
  countable : Countable json
  nonneg : 0 ≤ s.depth
  passed : s.depth ≤ s.i

/-- What a turn may do when the plain loop answers `answer`. -/
def CloseState.After (json : Text) (stop : Nat) (openCh closeCh : Char) (s : CloseState) (answer : Option Nat) :
    Turn CloseState (Option Nat) → Prop
  | .leave r => (∀ pos, r = some pos → pos = s.i ∧ pos < stop) ∧ (s.Counted json → r = answer)
  | .again next => next.i = s.i + 1 ∧ next.i ≤ stop ∧
      (s.Counted json → next.Counted json ∧ next.rest json stop openCh closeCh = answer)

omit [IntOverflow] in
/-- A character that is no brace leaves the depth alone. -/
theorem CloseState.After.flat {s : CloseState} {inString escaped : Bool} (under : s.i < stop) :
    s.After json stop openCh closeCh
      (matchingCloseLoop json openCh closeCh (stop - (s.i + 1)) (s.i + 1) s.depth inString escaped)
      (.again { i := s.i + 1, depth := s.depth, inString, escaped }) := by
  constructor
  · rfl
  · constructor
    · exact under
    · intro counted
      have passed := counted.passed
      have later : s.depth ≤ (s.i + 1 : Nat) := by omega
      exact ⟨⟨counted.countable, counted.nonneg, later⟩, rfl⟩

/-- An opening brace. -/
theorem CloseState.After.deeper {s : CloseState} (room : stop ≤ json.length) (under : s.i < stop) :
    s.After json stop openCh closeCh
      (matchingCloseLoop json openCh closeCh (stop - (s.i + 1)) (s.i + 1) (s.depth + 1) s.inString s.escaped)
      (.again { s with i := s.i + 1, depth := storedInt (s.depth + 1) }) := by
  constructor
  · rfl
  · constructor
    · exact under
    · intro counted
      obtain ⟨countable, nonneg, passed⟩ := counted
      have fits : s.depth + 1 ≤ intMax := by
        unfold Countable at countable
        omega
      have later : s.depth + 1 ≤ (s.i + 1 : Nat) := by omega
      rw [storedInt_eq (by omega) fits]
      exact ⟨⟨countable, by dsimp only; omega, later⟩, rfl⟩

/-- A closing brace is the one that is looked for, closes too much, or leaves the depth exact. -/
theorem shallower_ends {s : CloseState} (room : stop ≤ json.length) (under : s.i < stop) :
    Reads json
      (if storedInt (s.depth - 1) = 0 then pure (.leave (some s.i))
        else if storedInt (s.depth - 1) < 0 then pure (.leave none)
        else pure (.again { s with i := s.i + 1, depth := storedInt (s.depth - 1) }))
      (s.After json stop openCh closeCh
        (if s.depth - 1 = 0 then some s.i
          else if s.depth - 1 < 0 then none
          else matchingCloseLoop json openCh closeCh (stop - (s.i + 1)) (s.i + 1) (s.depth - 1) s.inString
            s.escaped)) := by
  have exactly (counted : s.Counted json) : storedInt (s.depth - 1) = s.depth - 1 := by
    obtain ⟨countable, nonneg, passed⟩ := counted
    apply storedInt_eq (by omega)
    unfold Countable at countable
    omega
  by_cases back : storedInt (s.depth - 1) = 0
  · rw [if_pos back]
    apply Ends.pure
    constructor
    · intro pos made
      cases made
      exact ⟨rfl, under⟩
    · intro counted
      rw [exactly counted] at back
      rw [if_pos back]
  · rw [if_neg back]
    by_cases below : storedInt (s.depth - 1) < 0
    · rw [if_pos below]
      apply Ends.pure
      constructor
      · exact nofun
      · intro counted
        rw [exactly counted] at back below
        rw [if_neg back, if_pos below]
    · rw [if_neg below]
      apply Ends.pure
      constructor
      · rfl
      · constructor
        · exact under
        · intro counted
          have same := exactly counted
          obtain ⟨countable, nonneg, passed⟩ := counted
          have later : s.depth - 1 ≤ (s.i + 1 : Nat) := by omega
          rw [same] at back below
          rw [same, if_neg back, if_neg below]
          exact ⟨⟨countable, by dsimp only; omega, later⟩, rfl⟩

theorem closeTurn_ends (room : stop ≤ json.length) (s : CloseState) :
    Reads json (closeTurn json stop openCh closeCh s)
      (s.After json stop openCh closeCh (s.rest json stop openCh closeCh)) := by
  obtain ⟨i, depth, inString, escaped⟩ := s
  unfold closeTurn CloseState.rest
  dsimp only
  by_cases under : i < stop
  · rw [if_pos under, show stop - i = stop - (i + 1) + 1 by omega, matchingCloseLoop]
    apply (readAt_ends (under.trans_le room)).bind
    intro c read
    subst read
    cases inString with
    | true =>
      simp only [↓reduceIte]
      split_ifs
      all_goals exact .pure (.flat under)
    | false =>
      simp only [Bool.false_eq_true, ↓reduceIte]
      by_cases quote : charAt json i = '"'
      · rw [if_pos quote, if_pos quote]
        exact .pure (.flat under)
      · rw [if_neg quote, if_neg quote]
        by_cases opens : charAt json i = openCh
        · rw [if_pos opens, if_pos opens]
          exact .pure (.deeper room under)
        · rw [if_neg opens, if_neg opens]
          by_cases closes : charAt json i = closeCh
          · rw [if_pos closes, if_pos closes]
            exact shallower_ends (s := { i, depth, inString := false, escaped }) room under
          · rw [if_neg closes, if_neg closes]
            exact .pure (.flat under)
  · rw [if_neg under, show stop - i = 0 by omega]
    exact .pure ⟨nofun, fun _ => rfl⟩

/-- The matching brace stands between the opening one and the end. -/
theorem findMatchingClose_finds {openPos : Nat} (room : stop ≤ json.length) (enough : json.length < turns) :
    Finds json (findMatchingClose turns json openPos stop openCh closeCh) (fun pos => openPos ≤ pos ∧ pos < stop)
      (Fc.findMatchingClose json openPos stop openCh closeCh) := by
  unfold findMatchingClose
  by_cases out : stop ≤ openPos
  · rw [if_pos out, Fc.findMatchingClose, if_pos (.inl out)]
    exact .pure nofun
  · rw [if_neg out]
    apply (readAt_ends (by omega)).bind
    intro c read
    subst read
    by_cases opens : charAt json openPos = openCh
    · rw [if_neg (not_not.2 opens), Fc.findMatchingClose, if_neg (by simp [out, opens])]
      apply scan_ends (fun s => openPos ≤ s.i ∧ (Countable json → s.Counted json ∧ s.rest json stop openCh closeCh =
        matchingCloseLoop json openCh closeCh (stop - openPos) openPos 0 false false)) stop room _ _ enough
      · intro s inv
        obtain ⟨low, same⟩ := inv
        apply (closeTurn_ends room s).mono
        intro turn done
        cases turn with
        | leave r =>
          obtain ⟨found, answer⟩ := done
          constructor
          · intro pos made
            obtain ⟨rfl, under⟩ := found pos made
            exact ⟨low, under⟩
          · intro countable
            rw [answer (same countable).1, (same countable).2]
        | again next =>
          obtain ⟨advance, within, kept⟩ := done
          refine ⟨⟨by omega, ?_⟩, by omega, within⟩
          intro countable
          have before := same countable
          have after := kept before.1
          exact ⟨after.1, after.2.trans before.2⟩
      · constructor
        · exact le_rfl
        · intro countable
          exact ⟨⟨countable, le_rfl, Int.natCast_nonneg _⟩, rfl⟩
    · rw [if_pos opens, Fc.findMatchingClose, if_pos (.inr opens)]
      exact .pure ⟨nofun, fun _ => rfl⟩

end braces

end AotDrone.Fc.ReadLog
