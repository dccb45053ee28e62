import Mathlib.Data.List.Infix

/-! Codes of which no word begins another: a stream of words tells its words, one by one, as far as it has come. -/

namespace AotDrone.Lib

variable {α β : Type*}

/-- No word is empty, and two words that begin the same stream are one. -/
structure PrefixCode (encode : α → List β) : Prop where
  ne_nil : ∀ a, encode a ≠ []
  cancel : ∀ {a b : α} {rest rest' : List β}, encode a ++ rest = encode b ++ rest' → a = b

namespace PrefixCode
variable {encode : α → List β}

/-- What one stream has of another are its words. -/
theorem flatMap_initial (code : PrefixCode encode) (words words' : List α) :
    words.flatMap encode <+: words'.flatMap encode ↔ words <+: words' := by
  induction words generalizing words' with
  | nil => exact iff_of_true List.nil_prefix List.nil_prefix
  | cons a words ih =>
    rw [List.flatMap_cons]
    cases words' with
    | nil =>
      refine iff_of_false ?_ (fun starts => List.cons_ne_nil a words (List.prefix_nil.1 starts))
      intro starts
      exact code.ne_nil a (List.append_eq_nil_iff.1 (List.prefix_nil.1 starts)).1
    | cons b words' =>
      rw [List.flatMap_cons]
      constructor
      · rintro ⟨rest, same⟩
        rw [List.append_assoc] at same
        obtain rfl := code.cancel same
        rw [List.prefix_cons_inj, ← ih]
        exact ⟨rest, List.append_cancel_left same⟩
      · intro starts
        obtain ⟨rfl, later⟩ := List.cons_prefix_cons.1 starts
        exact (List.prefix_append_right_inj _).2 ((ih words').2 later)

theorem eq_of_append_cons {stop : β} {word word' rest rest' : List β} (free : stop ∉ word) (free' : stop ∉ word')
    (same : word ++ stop :: rest = word' ++ stop :: rest') : word = word' := by
  induction word generalizing word' with
  | nil =>
    cases word' with
    | nil => rfl
    | cons first _ =>
      obtain ⟨rfl, -⟩ := List.cons_eq_cons.1 same
      exact absurd List.mem_cons_self free'
  | cons first word ih =>
    cases word' with
    | nil =>
      obtain ⟨rfl, -⟩ := List.cons_eq_cons.1 same
      exact absurd List.mem_cons_self free
    | cons first' word' =>
      obtain ⟨rfl, later⟩ := List.cons_eq_cons.1 same
      rw [ih (fun member => free (List.mem_cons_of_mem _ member)) (fun member => free' (List.mem_cons_of_mem _ member))
        later]

/-- A word that ends where its last symbol comes first. -/
theorem ended {word : α → List β} {stop : β} (injective : Function.Injective word) (free : ∀ a, stop ∉ word a)
    (tail : List β) : PrefixCode fun a => word a ++ stop :: tail where
  ne_nil a := by simp
  cancel := by
    intro a b rest rest' same
    rw [List.append_assoc, List.append_assoc, List.cons_append, List.cons_append] at same
    exact injective (eq_of_append_cons (free a) (free b) same)

theorem after (code : PrefixCode encode) (lead : List β) : PrefixCode fun a => lead ++ encode a where
  ne_nil a := by
    intro empty
    exact code.ne_nil a (List.append_eq_nil_iff.1 empty).2
  cancel := by
    intro a b rest rest' same
    rw [List.append_assoc, List.append_assoc] at same
    exact code.cancel (List.append_cancel_left same)

/-- A body behind the word of its length. -/
theorem counted {header : ℕ → List β} (code : PrefixCode header) (tail : List β) :
    PrefixCode fun body : List β => header body.length ++ body ++ tail where
  ne_nil body := by
    intro empty
    exact code.ne_nil _ (List.append_eq_nil_iff.1 (List.append_eq_nil_iff.1 empty).1).1
  cancel := by
    intro body body' rest rest' same
    simp only [List.append_assoc] at same
    have long : body.length = body'.length := code.cancel same
    rw [long] at same
    exact (List.append_inj (List.append_cancel_left same) long).1

end PrefixCode
end AotDrone.Lib
