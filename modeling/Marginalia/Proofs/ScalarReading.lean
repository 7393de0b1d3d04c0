import Marginalia.Proofs.StringReading

/-!
# Reading scalars

A number might have more digits, and a time might follow a date; nothing else that comes after a
scalar can change it.

## Main definitions

* `Toml.Stops` — a text that does not carry on a value before it.

## Main results

* `Toml.SpellsScalar.reads` — what has the form of a scalar is read.
* `Toml.exists_spells_of_scalar?` — what is read has the form of a scalar.
-/

namespace Marginalia
namespace Toml

/-! ### What ends a value -/

/-- A text that does not carry on a value that stands before it. -/
def Stops (r : Text) : Prop :=
  ∀ c, (skipSpace r).head? = some c → isScalarChar c = false ∧ c ≠ '"' ∧ c ≠ '\''

theorem isScalarChar_of_isDigit {c : Char} (h : Text.isDigit c) : isScalarChar c := by
  simp [isScalarChar, Text.isAlphanumeric, h]

theorem isSpace_of_isScalarChar {c : Char} (h : isScalarChar c) : isSpace c = false := by
  by_contra hspace
  rcases (isSpace_iff c).1 (by simpa using hspace) with rfl | rfl <;>
    exact absurd h (by decide)

theorem takeWhile_append_stop {p : Char → Bool} {w r : Text} (hw : ∀ c ∈ w, p c)
    (hr : ∀ c, r.head? = some c → p c = false) : (w ++ r).takeWhile p = w := by
  rw [List.takeWhile_append_of_pos hw]
  cases r with
  | nil => simp
  | cons c r => simp [hr c rfl]

namespace Stops

theorem head {c : Char} {r : Text} (h : Stops (c :: r)) :
    isScalarChar c = false ∧ c ≠ '"' ∧ c ≠ '\'' := by
  by_cases hspace : isSpace c
  · rcases (isSpace_iff c).1 hspace with rfl | rfl <;> decide
  · exact h c (by rw [skipSpace_cons_of_not (by simpa using hspace)]; rfl)

theorem unquoted {r : Text} (h : Stops r) : Unquoted r := by
  cases r with
  | nil => exact ⟨by simp, by simp⟩
  | cons c r => exact ⟨by simpa using h.head.2.1, by simpa using h.head.2.2⟩

theorem not_digit {a : Char} {r : Text} (h : Stops (' ' :: a :: r)) : Text.isDigit a = false := by
  by_contra hdigit
  have hscalar : isScalarChar a := isScalarChar_of_isDigit (by simpa using hdigit)
  have hskip : skipSpace (' ' :: a :: r) = a :: r :=
    skipSpace_cons_of_not (isSpace_of_isScalarChar hscalar) r
  simpa [hscalar] using (h a (by rw [hskip]; rfl)).1

theorem nil : Stops [] := by intro c hc; cases hc

theorem takeWhile_append {w r : Text} (h : Stops r) (hw : ∀ c ∈ w, isScalarChar c) :
    (w ++ r).takeWhile isScalarChar = w := by
  refine takeWhile_append_stop hw fun c hc => ?_
  obtain ⟨rest, rfl⟩ := List.head?_eq_some_iff.1 hc
  exact h.head.1

end Stops

/-! ### Scalars -/

theorem scalarText_eq {first rest : Text} :
    (first ++ rest).takeWhile isScalarChar = first → scalarText (first ++ rest) =
      match rest with
      | ' ' :: a :: b :: ':' :: rest =>
        if isDate first && Text.isDigit a && Text.isDigit b then
          first ++ ' ' :: a :: b :: ':' :: rest.takeWhile isScalarChar
        else first
      | _ => first := by
  intro h
  unfold scalarText
  simp only [h, List.drop_left]
  rfl

theorem scalarText_plain {w r : Text} (hw : ∀ c ∈ w, isScalarChar c) (hr : Stops r) :
    scalarText (w ++ r) = w := by
  rw [scalarText_eq (hr.takeWhile_append hw)]
  split
  · simp [hr.not_digit]
  · rfl

theorem scalarText_moment {date time r : Text} {a b : Char} (hdate : ∀ c ∈ date, isScalarChar c)
    (hday : isDate date) (ha : Text.isDigit a) (hb : Text.isDigit b)
    (htime : ∀ c ∈ time, isScalarChar c) (hr : Stops r) :
    scalarText (date ++ ' ' :: a :: b :: ':' :: (time ++ r)) =
      date ++ ' ' :: a :: b :: ':' :: time := by
  have hfirst : (date ++ ' ' :: a :: b :: ':' :: (time ++ r)).takeWhile isScalarChar = date := by
    rw [List.takeWhile_append_of_pos hdate]
    simp [show isScalarChar ' ' = false by decide]
  rw [scalarText_eq hfirst]
  simp [hday, ha, hb, hr.takeWhile_append htime]

/-- What has the form of a scalar is read as its value. -/
theorem SpellsScalar.reads {v : Value} {w : Text} (h : SpellsScalar v w) :
    Reads scalar? Stops w v := by
  intro r hr
  cases h with
  | plain hw hv => simp [scalar?, scalarText_plain (List.all_eq_true.1 hw) hr, hv]
  | moment hdate hday ha hb htime hv =>
    have htext := scalarText_moment (List.all_eq_true.1 hdate) hday ha hb
      (List.all_eq_true.1 htime) hr
    simp [scalar?, htext, hv]

/-- What is read as a scalar has the form of one. -/
theorem exists_spells_of_scalar? {t r : Text} {v : Value} (h : scalar? t = some (v, r)) :
    ∃ w, t = w ++ r ∧ SpellsScalar v w := by
  obtain ⟨v, hv, heq⟩ := Option.map_eq_some_iff.1 h
  cases heq
  obtain ⟨first, rest, rfl, hfirst, htake⟩ : ∃ first rest, t = first ++ rest ∧
      first.all isScalarChar ∧ (first ++ rest).takeWhile isScalarChar = first := by
    refine ⟨_, _, List.takeWhile_append_dropWhile.symm, List.all_takeWhile, ?_⟩
    rw [List.takeWhile_append_dropWhile]
  have hplain : scalarText (first ++ rest) = first → ∃ w, first ++ rest =
      w ++ (first ++ rest).drop (scalarText (first ++ rest)).length ∧ SpellsScalar v w := by
    intro htext
    rw [htext] at hv ⊢
    exact ⟨first, by simp, .plain hfirst hv⟩
  -- the characters of a number go on behind a space if they are a date before a time
  have htext := scalarText_eq htake
  split at htext
  · next a b rest =>
    split at htext
    · next hmoment =>
      simp only [Bool.and_eq_true] at hmoment
      rw [htext] at hv ⊢
      refine ⟨_, ?_, .moment hfirst hmoment.1.1 hmoment.1.2 hmoment.2 List.all_takeWhile hv⟩
      have hcut : first ++ ' ' :: a :: b :: ':' :: rest =
          (first ++ ' ' :: a :: b :: ':' :: rest.takeWhile isScalarChar) ++
            rest.dropWhile isScalarChar := by simp
      rw [hcut, List.drop_left]
    · exact hplain htext
  · exact hplain htext

theorem scalar?_of_not {c : Char} (h : isScalarChar c = false) (t : Text) :
    scalar? (c :: t) = none := by
  have htext : scalarText (c :: t) = [] := by
    have htake : ([] ++ c :: t).takeWhile isScalarChar = [] := by simp [h]
    rw [← List.nil_append (c :: t), scalarText_eq htake]
    split
    · rfl
    · rfl
  rw [scalar?, htext]
  rfl

end Toml
end Marginalia
