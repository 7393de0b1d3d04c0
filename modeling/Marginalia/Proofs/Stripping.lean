import Marginalia.Marker

/-!
# What is stripped from a comment line

A comment line is indentation, the marker, white space and the comment's own text.  The
indentation is passed over before the marker is looked for.  So a marker is found in all the
lines of this pattern if it does not begin with white space, and in no line at all if it does.

## Main definitions

* `Text.Flush` — a text that does not begin with white space.
* `Marker.Usable` — a marker that can mark a line: not empty, flush, and within a line.
* `Marker.Pattern` — the pattern of comment lines.

## Main results

* `Text.after?_eq_some_iff` — what follows a beginning.
* `Text.trimStart_eq_iff` — what is left without the white space at the beginning.
* `Marker.strip_eq_some_iff` — the text of a comment line, by its pattern.
* `Marker.finds_pattern_iff` — **the markers that are found in all lines of the pattern.**
-/

namespace Marginalia
namespace Text

/-- A text that does not begin with white space. -/
def Flush (t : Text) : Prop := ∀ c ∈ t.head?, isSpace c = false

instance (t : Text) : Decidable (Flush t) :=
  decidable_of_iff (t.head?.all (fun c => !isSpace c) = true) (by cases t <;> simp [Flush])

@[simp] theorem flush_nil : Flush [] := by simp [Flush]

/-- How a text begins is decided by its first part, unless that is empty. -/
theorem flush_append {a : Text} (ha : a ≠ []) (b : Text) : Flush (a ++ b) ↔ Flush a := by
  obtain ⟨c, a, rfl⟩ := List.exists_cons_of_ne_nil ha
  rfl

theorem flush_trimStart (t : Text) : Flush (trimStart t) := by
  induction t with
  | nil => exact flush_nil
  | cons c t ih =>
    rw [trimStart, List.dropWhile_cons]
    split
    · exact ih
    · next hc =>
      intro d hd
      obtain rfl : c = d := by simpa using hd
      exact Bool.eq_false_iff.mpr hc

theorem trimStart_of_flush {t : Text} (h : Flush t) : trimStart t = t := by
  cases t with
  | nil => rfl
  | cons c t => simp [trimStart, h c rfl]

/-- White space in front of a text is passed over. -/
theorem trimStart_append {space : Text} (h : isBlank space = true) (t : Text) :
    trimStart (space ++ t) = trimStart t :=
  List.dropWhile_append_of_pos (List.all_eq_true.mp h)

/-- A text is some white space and what is left without it. -/
theorem trimStart_eq_iff {t rest : Text} :
    trimStart t = rest ↔ Flush rest ∧ ∃ space, isBlank space = true ∧ t = space ++ rest := by
  constructor
  · rintro rfl
    exact ⟨flush_trimStart t, t.takeWhile isSpace, List.all_takeWhile,
      List.takeWhile_append_dropWhile.symm⟩
  · rintro ⟨hflush, space, hspace, rfl⟩
    rw [trimStart_append hspace, trimStart_of_flush hflush]

theorem after?_eq_some_iff {start t rest : Text} :
    after? start t = some rest ↔ t = start ++ rest := by
  induction start generalizing t with
  | nil => simp [after?]
  | cons p start ih =>
    cases t with
    | nil => simp [after?]
    | cons c t =>
      rw [after?]
      by_cases hc : p = c
      · rw [if_pos hc, ih, hc, List.cons_append, List.cons.injEq]
        simp
      · simp [hc, Ne.symm hc]

end Text

namespace Marker

/-- A marker that can mark a line: it is not empty, does not begin with white space and
holds no newline. -/
structure Usable (m : Marker) : Prop where
  ne_nil : m.text ≠ []
  flush : Text.Flush m.text
  notMem_newline : '\n' ∉ m.text

/-- The pattern of a comment line with the text `t`: indentation, the marker, white space and
the text, which does not begin with white space. -/
def Pattern (m : Marker) (line t : Text) : Prop :=
  ∃ indentation space, Text.isBlank indentation = true ∧ Text.isBlank space = true ∧
    Text.Flush t ∧ line = indentation ++ m.text ++ space ++ t

variable {m : Marker} {line t : Text}

/-- What is looked for in a line without its indentation is the marker. -/
theorem strip_eq_some_iff_exists :
    m.strip line = some t ↔
      m.text ≠ [] ∧ ∃ rest, Text.trimStart line = m.text ++ rest ∧ Text.trimStart rest = t := by
  rw [strip]
  by_cases hm : m.text = []
  · simp [hm]
  · simp [hm, Text.after?_eq_some_iff]

/-- The comment lines are the lines of the pattern, if the marker is not empty and does not
begin with white space. -/
theorem strip_eq_some_iff :
    m.strip line = some t ↔ (m.text ≠ [] ∧ Text.Flush m.text) ∧ m.Pattern line t := by
  rw [strip_eq_some_iff_exists, and_assoc]
  refine and_congr_right fun hm => ?_
  simp only [Text.trimStart_eq_iff]
  constructor
  · rintro ⟨rest, ⟨hflush, indentation, hind, rfl⟩, ht, space, hspace, rfl⟩
    exact ⟨(Text.flush_append hm _).mp hflush, indentation, space, hind, hspace, ht, by simp⟩
  · rintro ⟨hflush, indentation, space, hind, hspace, ht, rfl⟩
    exact ⟨space ++ t, ⟨(Text.flush_append hm _).mpr hflush, indentation, hind, by simp⟩,
      ht, space, hspace, rfl⟩

/-- The text of a comment line is flush, and the line ends with it. -/
theorem strip_eq_some (h : m.strip line = some t) : Text.Flush t ∧ t <:+ line := by
  obtain ⟨-, indentation, space, -, -, ht, rfl⟩ := strip_eq_some_iff.mp h
  exact ⟨ht, List.suffix_append _ t⟩

/-- A line that consists of the marker and a flush text is a comment line with that text. -/
theorem strip_append (hm : m.Usable) (ht : Text.Flush t) : m.strip (m.text ++ t) = some t :=
  strip_eq_some_iff.mpr ⟨⟨hm.ne_nil, hm.flush⟩, [], [], rfl, rfl, ht, by simp⟩

/-- An empty line is no comment line. -/
theorem strip_nil (m : Marker) : m.strip [] = none := by
  rw [Option.eq_none_iff_forall_ne_some]
  intro t h
  obtain ⟨⟨hm, -⟩, indentation, space, -, -, -, hline⟩ := strip_eq_some_iff.mp h
  simp [hm] at hline

/-- Any text may follow the indentation and the marker. -/
theorem pattern_append {indentation : Text} (h : Text.isBlank indentation = true) (text : Text) :
    m.Pattern (indentation ++ m.text ++ text) (Text.trimStart text) := by
  obtain ⟨hflush, space, hspace, htext⟩ := Text.trimStart_eq_iff.mp (Eq.refl (Text.trimStart text))
  refine ⟨indentation, space, h, hspace, hflush, ?_⟩
  rw [List.append_assoc _ space, ← htext]

/-- **The markers that are found in all lines of the pattern.**  The comment lines are the
lines of the pattern just if the marker does not begin with white space.  Then every line with
indentation, the marker and any text is a comment line.  A marker that begins with white space
marks no line. -/
theorem finds_pattern_iff (m : Marker) (hm : m.text ≠ []) :
    ((∀ line t, m.strip line = some t ↔ m.Pattern line t) ↔ Text.Flush m.text) ∧
      (Text.Flush m.text → ∀ indentation text, Text.isBlank indentation = true →
        m.strip (indentation ++ m.text ++ text) = some (Text.trimStart text)) ∧
      (¬Text.Flush m.text → ∀ line, m.strip line = none) := by
  refine ⟨⟨?_, ?_⟩, ?_, ?_⟩
  · -- the marker alone is a line of the pattern
    intro hfound
    have halone : m.Pattern m.text [] := ⟨[], [], rfl, rfl, Text.flush_nil, by simp⟩
    exact (strip_eq_some_iff.mp ((hfound m.text []).mpr halone)).1.2
  · intro hflush line t
    rw [strip_eq_some_iff]
    exact and_iff_right ⟨hm, hflush⟩
  · intro hflush indentation text hind
    exact strip_eq_some_iff.mpr ⟨⟨hm, hflush⟩, pattern_append hind text⟩
  · intro hflush line
    rw [Option.eq_none_iff_forall_ne_some]
    intro t h
    exact hflush (strip_eq_some_iff.mp h).1.2

/-- A marker may end with white space, and the text may begin with the marker once more; but
with a space in front of it the same marker is found nowhere. -/
theorem finds_pattern_iff_hash :
    ("# ".toList ≠ [] ∧ Text.Flush "# ".toList ∧ Text.isBlank "\t".toList = true ∧
        strip ⟨"# ".toList⟩ "\t#  # x".toList = some "# x".toList) ∧
      " # ".toList ≠ [] ∧ ¬Text.Flush " # ".toList ∧
        strip ⟨" # ".toList⟩ "\t #  # x".toList = none := by
  have hne : "# ".toList ≠ [] := by decide
  have hflush : Text.Flush "# ".toList := by decide
  have hind : Text.isBlank "\t".toList = true := by decide
  have hne' : " # ".toList ≠ [] := by decide
  have hflush' : ¬Text.Flush " # ".toList := by decide
  obtain ⟨-, hfound, -⟩ := finds_pattern_iff ⟨"# ".toList⟩ hne
  obtain ⟨-, -, hnone⟩ := finds_pattern_iff ⟨" # ".toList⟩ hne'
  exact ⟨⟨hne, hflush, hind, hfound hflush "\t".toList " # x".toList hind⟩, hne', hflush',
    hnone hflush' "\t #  # x".toList⟩

/-- A line of the pattern in which a marker with a space in front of it is not found. -/
theorem strip_spaced_marker :
    (⟨" #".toList⟩ : Marker).text ≠ [] ∧ Pattern ⟨" #".toList⟩ " # hi".toList "hi".toList ∧
      strip ⟨" #".toList⟩ " # hi".toList = none := by
  refine ⟨by decide, ⟨[], " ".toList, ?_⟩, by decide⟩
  decide

end Marker
end Marginalia
