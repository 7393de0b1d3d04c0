import Marginalia.Html.Node

/-!
# What escaping leaves

Text between tags must hold no angle brackets, and the value of an attribute no double
quotes either.  Each way of escaping gives such texts, whatever it is applied to.

## Main definitions

* `Html.Flat` — a text without angle brackets.
* `Html.Quotable` — a text without angle brackets and double quotes.

## Main results

* `Html.flat_escapeText`, `Html.quotable_escape`, `Html.quotable_escapeAttribute`,
  `Html.quotable_escapeUrl` — what the four ways of escaping leave.
* `Html.quotable_decimal` — numbers can be quoted as they are.
-/

namespace Marginalia
namespace Html

/-- A text without angle brackets. -/
def Flat (t : Text) : Prop := ∀ c ∈ t, c ≠ '<' ∧ c ≠ '>'

/-- A text without angle brackets and double quotes. -/
def Quotable (t : Text) : Prop := ∀ c ∈ t, c ≠ '"' ∧ c ≠ '<' ∧ c ≠ '>'

instance (t : Text) : Decidable (Flat t) :=
  decidable_of_iff (t.all (fun c => c != '<' && c != '>') = true) (by simp [Flat])

instance (t : Text) : Decidable (Quotable t) :=
  decidable_of_iff (t.all (fun c => c != '"' && (c != '<' && c != '>')) = true)
    (by simp [Quotable])

@[simp] theorem flat_nil : Flat [] := by simp [Flat]

@[simp] theorem quotable_nil : Quotable [] := by simp [Quotable]

theorem Quotable.flat {t : Text} (h : Quotable t) : Flat t := fun c hc => (h c hc).2

theorem flat_append {a b : Text} : Flat (a ++ b) ↔ Flat a ∧ Flat b := by
  exact List.forall_mem_append

theorem quotable_append {a b : Text} : Quotable (a ++ b) ↔ Quotable a ∧ Quotable b := by
  exact List.forall_mem_append

/-- White space is no bracket. -/
theorem flat_of_isBlank {t : Text} (h : Text.isBlank t = true) : Flat t := by
  intro c hc
  have hspace : Text.isSpace c = true := List.all_eq_true.mp h c hc
  constructor
  · rintro rfl
    exact absurd hspace (by decide)
  · rintro rfl
    exact absurd hspace (by decide)

/-- A text is quotable if everything written for its characters is. -/
theorem quotable_flatMap {f : Char → Text} (h : ∀ c, Quotable (f c)) (t : Text) :
    Quotable (t.flatMap f) := by
  intro c hc
  obtain ⟨d, -, hd⟩ := List.mem_flatMap.mp hc
  exact h d c hd

/-! ### Character by character -/

theorem quotable_escapeChar (c : Char) (rest : Text) : Quotable (escapeChar c rest) := by
  unfold escapeChar
  split
  · split <;> decide
  · split
    · decide
    · split
      · decide
      · split
        · decide
        · next h => simp_all [Quotable]

theorem flat_textChar (c : Char) : Flat (textChar c) := by
  unfold textChar
  split
  · decide
  · split
    · decide
    · split
      · decide
      · simp_all [Flat]

theorem quotable_attributeChar (c : Char) : Quotable (attributeChar c) := by
  unfold attributeChar
  split
  · decide
  · split
    · decide
    · next hquote _ =>
      unfold textChar
      split
      · decide
      · split
        · decide
        · split
          · decide
          · simp_all [Quotable]

theorem ne_of_isUrlChar {c : Char} (h : isUrlChar c = true) : c ≠ '"' ∧ c ≠ '<' ∧ c ≠ '>' := by
  refine ⟨?_, ?_, ?_⟩ <;> (rintro rfl; exact absurd h (by decide))

theorem ne_hexDigit :
    ∀ n < 16, hexDigit n ≠ '"' ∧ hexDigit n ≠ '<' ∧ hexDigit n ≠ '>' := by
  decide

theorem quotable_percentByte (b : UInt8) : Quotable (percentByte b) := by
  have hhigh : b.toNat / 16 < 16 := by
    have := b.toNat_lt
    omega
  have hlow : b.toNat % 16 < 16 := Nat.mod_lt _ (by omega)
  intro c hc
  simp only [percentByte, List.mem_cons, List.not_mem_nil, or_false] at hc
  rcases hc with rfl | rfl | rfl
  · decide
  · exact ne_hexDigit _ hhigh
  · exact ne_hexDigit _ hlow

theorem quotable_urlChar (c : Char) : Quotable (urlChar c) := by
  unfold urlChar
  split
  · decide
  · split
    · decide
    · split
      · next hc => simpa [Quotable] using ne_of_isUrlChar hc
      · intro d hd
        obtain ⟨b, -, hb⟩ := List.mem_flatMap.mp hd
        exact quotable_percentByte b d hb

/-! ### Whole texts -/

theorem quotable_escapeChars (t : Text) : Quotable (escapeChars t) := by
  induction t with
  | nil => exact quotable_nil
  | cons c t ih => exact quotable_append.mpr ⟨quotable_escapeChar c t, ih⟩

/-- What `escape` leaves can stand anywhere. -/
theorem quotable_escape (t : Text) : Quotable (escape t) := by
  unfold escape
  split
  · next hplain =>
    intro c hc
    have hspecial : isSpecial c = false := by
      rw [isPlain, Bool.not_eq_true', List.any_eq_false] at hplain
      exact Bool.eq_false_iff.mpr (hplain c hc)
    simp only [isSpecial, Bool.or_eq_false_iff, beq_eq_false_iff_ne] at hspecial
    exact ⟨hspecial.2, hspecial.1.1.2, hspecial.1.2⟩
  · exact quotable_escapeChars t

/-- What `escapeText` leaves can stand between tags. -/
theorem flat_escapeText (t : Text) : Flat (escapeText t) := by
  intro c hc
  obtain ⟨d, -, hd⟩ := List.mem_flatMap.mp hc
  exact flat_textChar d c hd

/-- What `escapeAttribute` leaves can be quoted. -/
theorem quotable_escapeAttribute (t : Text) : Quotable (escapeAttribute t) :=
  quotable_flatMap quotable_attributeChar t

/-- What `escapeUrl` leaves can be quoted. -/
theorem quotable_escapeUrl (t : Text) : Quotable (escapeUrl t) :=
  quotable_flatMap quotable_urlChar t

/-- The digits of a number can be quoted. -/
theorem quotable_decimal (n : Nat) : Quotable (Text.decimal n) := by
  intro c hc
  have hdigit : c.isDigit = true := Nat.isDigit_of_mem_toDigits (by omega) (by omega) hc
  refine ⟨?_, ?_, ?_⟩ <;> (rintro rfl; exact absurd hdigit (by decide))

end Html
end Marginalia
