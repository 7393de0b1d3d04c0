import Marginalia.Highlighter
import Marginalia.Proofs.Styles

/-!
# Highlighting plain text

Where no language is known, line by line all of a text ends up in one span.

## Main definitions

* `Highlighter.Unmarked` — a highlighter that knows no language but plain text.

## Main results

* `Text.flatten_fullLines` — the lines of a text are all of it.
* `Highlighter.hook_plainText` — **code is in one span**, whatever its token is.
* `Highlighter.unmarked_plainText` — the highlighter that runs is of that kind.
-/

namespace Marginalia

/-! ### Lines with their newlines -/

namespace Text

theorem flatten_consHead (c : Char) (ls : List Text) :
    (consHead c ls).flatten = c :: ls.flatten := by
  cases ls <;> rfl

theorem consHead_ne_nil (c : Char) (ls : List Text) : consHead c ls ≠ [] := by
  cases ls <;> simp [consHead]

/-- The lines of a text are all of it. -/
theorem flatten_fullLines (t : Text) : (fullLines t).flatten = t := by
  induction t with
  | nil => rfl
  | cons c t ih =>
    unfold fullLines
    split
    · rw [List.flatten_cons, ih, List.singleton_append]
    · rw [flatten_consHead, ih]

theorem fullLines_eq_nil_iff {t : Text} : fullLines t = [] ↔ t = [] := by
  cases t with
  | nil => simp [fullLines]
  | cons c t =>
    unfold fullLines
    split
    · simp
    · simp [consHead_ne_nil]

end Text

namespace Highlighter

/-! ### Plain text -/

/-- A highlighter that marks all code as plain text.  Its stylesheets stay within the element
that they stand in. -/
structure Unmarked (pen : Highlighter) : Prop where
  hook_eq : ∀ token, pen.hook token = Hook.highlight
  flat_stylesheet : ∀ theme, Html.Flat (pen.stylesheet theme)

/-- Lines are escaped and put on top of those before. -/
theorem foldlM_escapeAttribute (ls done : List Text) :
    ls.foldlM (fun done line => some (Html.escapeAttribute line :: done)) done =
      some ((ls.map Html.escapeAttribute).reverse ++ done) := by
  induction ls generalizing done with
  | nil => rfl
  | cons l ls ih =>
    rw [List.foldlM_cons, Option.bind_eq_bind, Option.bind_some, ih]
    simp

theorem flatten_map_escapeAttribute (ls : List Text) :
    (ls.map Html.escapeAttribute).flatten = Html.escapeAttribute ls.flatten := by
  unfold Html.escapeAttribute
  rw [List.flatMap_def, List.map_flatten, List.flatten_flatten, List.map_map]
  rfl

/-- **Code is in one span**, whatever its token is. -/
theorem hook_plainText (token : Text) : plainText.hook token = Hook.highlight := by
  funext t
  -- no line fails, and the pieces are put together in the order of the lines
  have hmark : plainText.mark? (plainText.languageOf token) t =
      some (plainText.finish (t.fullLines.map Html.escapeAttribute).reverse) := by
    have hlines := foldlM_escapeAttribute t.fullLines []
    rw [List.append_nil] at hlines
    exact congrArg (Option.map plainText.finish) hlines
  have hpieces : (t.fullLines.map Html.escapeAttribute).flatten = Html.escapeAttribute t := by
    rw [flatten_map_escapeAttribute, Text.flatten_fullLines]
  have hempty : (t.fullLines.map Html.escapeAttribute).reverse.isEmpty = t.isEmpty := by
    rw [Bool.eq_iff_iff, List.isEmpty_iff, List.isEmpty_iff, List.reverse_eq_nil_iff,
      List.map_eq_nil_iff, Text.fullLines_eq_nil_iff]
  rw [hook, hmark, Option.getD_some, Hook.highlight, ← hpieces, ← hempty]
  simp only [plainText, List.reverse_reverse]

theorem unmarked_plainText : plainText.Unmarked := ⟨hook_plainText, Theme.flat_stylesheet⟩

end Highlighter
end Marginalia
