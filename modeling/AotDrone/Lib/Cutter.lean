import Mathlib.Data.List.Basic

/-! A stream taken apart from its front, piece by piece, while its bytes still arrive. -/

namespace AotDrone.Lib

/-- `next` is the first piece of a stream and what is behind it, or none while too little has arrived. -/
structure Cutter (β π : Type*) where
  next : List β → Option (π × List β)
  bytes : π → List β
  split : ∀ {stream piece rest}, next stream = some (piece, rest) → stream = bytes piece ++ rest
  nonempty : ∀ piece, bytes piece ≠ []
  /-- More bytes behind do not change a piece that is there. -/
  settled : ∀ {stream piece rest} (more), next stream = some (piece, rest) →
    next (stream ++ more) = some (piece, rest ++ more)

namespace Cutter

variable {β π : Type*} (cutter : Cutter β π) {stream rest : List β} {piece : π}

theorem shorter (found : cutter.next stream = some (piece, rest)) : rest.length < stream.length := by
  have positive := List.length_pos_of_ne_nil (cutter.nonempty piece)
  rw [cutter.split found, List.length_append]
  omega

/-- The pieces that have arrived, and the bytes left over. -/
def cut (stream : List β) : List π × List β :=
  match _found : cutter.next stream with
  | none => ([], stream)
  | some (piece, rest) => (piece :: (cut rest).1, (cut rest).2)
termination_by stream.length
decreasing_by all_goals exact cutter.shorter (by assumption)

theorem cut_none (waits : cutter.next stream = none) : cutter.cut stream = ([], stream) := by
  rw [cut]
  split <;> simp_all

theorem cut_some (found : cutter.next stream = some (piece, rest)) :
    cutter.cut stream = (piece :: (cutter.cut rest).1, (cutter.cut rest).2) := by
  rw [cut]
  split <;> simp_all

/-- Induction along the pieces. -/
theorem cut_induction {P : List β → Prop} (waits : ∀ stream, cutter.next stream = none → P stream)
    (piece : ∀ stream piece rest, cutter.next stream = some (piece, rest) → P rest → P stream)
    (stream : List β) : P stream := by
  induction length : stream.length using Nat.strongRecOn generalizing stream with
  | _ n ih =>
    cases found : cutter.next stream with
    | none => exact waits stream found
    | some front =>
      have shorter := cutter.shorter found
      exact piece stream front.1 front.2 found (ih _ (length ▸ shorter) front.2 rfl)

theorem cut_stops (stream : List β) : cutter.next (cutter.cut stream).2 = none := by
  induction stream using cutter.cut_induction with
  | waits stream waits => rwa [cutter.cut_none waits]
  | piece stream piece rest found ih => rwa [cutter.cut_some found]

/-- Every byte is in one piece or left over. -/
theorem cut_conserves (stream : List β) :
    ((cutter.cut stream).1.map cutter.bytes).flatten ++ (cutter.cut stream).2 = stream := by
  induction stream using cutter.cut_induction with
  | waits stream waits =>
    rw [cutter.cut_none waits]
    rfl
  | piece stream piece rest found ih =>
    rw [cutter.cut_some found, List.map_cons, List.flatten_cons, List.append_assoc, ih, ← cutter.split found]

/-- What is left over is cut on when more arrives. -/
theorem cut_append (stream more : List β) :
    cutter.cut (stream ++ more) =
      ((cutter.cut stream).1 ++ (cutter.cut ((cutter.cut stream).2 ++ more)).1,
        (cutter.cut ((cutter.cut stream).2 ++ more)).2) := by
  induction stream using cutter.cut_induction with
  | waits stream waits =>
    rw [cutter.cut_none waits]
    rfl
  | piece stream piece rest found ih =>
    rw [cutter.cut_some (cutter.settled more found), cutter.cut_some found, ih]
    rfl

/-! ## Seeking -/

/-- The pieces before the first that satisfies `p`, that piece, and what is behind it. -/
def seek (p : π → Bool) (stream : List β) : Option (List π × π × List β) :=
  match _found : cutter.next stream with
  | none => none
  | some (piece, rest) =>
    if p piece then some ([], piece, rest)
    else (seek p rest).map fun (before, found, behind) => (piece :: before, found, behind)
termination_by stream.length
decreasing_by exact cutter.shorter (by assumption)

variable {p : π → Bool} {before : List π} {behind : List β}

theorem seek_none (waits : cutter.next stream = none) : cutter.seek p stream = none := by
  rw [seek]
  split <;> simp_all

theorem seek_some (found : cutter.next stream = some (piece, rest)) :
    cutter.seek p stream =
      if p piece then some ([], piece, rest)
      else (cutter.seek p rest).map fun (before, found, behind) => (piece :: before, found, behind) := by
  rw [seek]
  split <;> simp_all

/-- More bytes do not change what has been found. -/
theorem seek_append (found : cutter.seek p stream = some (before, piece, behind)) (more : List β) :
    cutter.seek p (stream ++ more) = some (before, piece, behind ++ more) := by
  induction stream using cutter.cut_induction generalizing before with
  | waits stream waits =>
    rw [cutter.seek_none waits] at found
    cases found
  | piece stream first rest next ih =>
    rw [cutter.seek_some next] at found
    rw [cutter.seek_some (cutter.settled more next)]
    cases holds : p first with
    | true =>
      rw [holds, if_pos rfl] at found
      cases found
      rw [if_pos rfl]
    | false =>
      rw [holds, if_neg Bool.false_ne_true] at found
      obtain ⟨⟨earlier, own, after⟩, later, same⟩ := Option.map_eq_some_iff.1 found
      cases same
      rw [if_neg Bool.false_ne_true, ih later]
      rfl

/-- A search that has found nothing goes on from the bytes left over. -/
theorem seek_later (missing : cutter.seek p stream = none) (more : List β) :
    cutter.seek p (stream ++ more) =
      (cutter.seek p ((cutter.cut stream).2 ++ more)).map fun (before, found, behind) =>
        ((cutter.cut stream).1 ++ before, found, behind) := by
  induction stream using cutter.cut_induction with
  | waits stream waits =>
    rw [cutter.cut_none waits]
    cases cutter.seek p (stream ++ more) <;> rfl
  | piece stream first rest next ih =>
    rw [cutter.seek_some next] at missing
    rw [cutter.seek_some (cutter.settled more next), cutter.cut_some next]
    cases holds : p first with
    | true =>
      rw [holds, if_pos rfl] at missing
      cases missing
    | false =>
      rw [holds, if_neg Bool.false_ne_true, Option.map_eq_none_iff] at missing
      rw [if_neg Bool.false_ne_true, ih missing, Option.map_map]
      rfl

end Cutter
end AotDrone.Lib
