import Marginalia.Proofs.Trim

/-!
# The margins of a code block

The margins of a code block are its blank lines before the first line that is not blank and
after the last one.  Trimming cuts them off.  What is left has no margins, and however many
blank lines are put around it, it is what trimming leaves again.

## Main definitions

* `Code.Marginless` — a text whose first and last lines are not blank.
* `Code.addMargins` — a text with blank lines around it.

## Main results

* `Code.lines_trim` — the lines that trimming leaves.
* `Code.marginless_trim`, `Code.trim_of_marginless` — texts without margins are the ones that
  trimming leaves, and it does not change them.
* `Code.trim_cuts_margins` — **trimming cuts off the margins and nothing else.**
-/

namespace Marginalia
namespace Text

/-! ### Lines of blank texts -/

/-- A text is blank just if its lines are. -/
theorem all_isBlank_lines (t : Text) : (lines t).all isBlank = isBlank t := by
  rw [← isBlank_unlines, unlines_lines]

/-- Texts that are ended by newlines have their own lines, before those of the rest. -/
theorem lines_endLines_append_lines (ts : List Text) (t : Text) :
    lines (endLines ts ++ t) = ts.flatMap lines ++ lines t := by
  induction ts with
  | nil => rfl
  | cons s ts ih =>
    rw [endLines_cons, List.append_assoc, List.cons_append, lines_append_newline, ih,
      List.flatMap_cons, List.append_assoc]

/-- Texts that are begun by newlines have their own lines, after those of the rest. -/
theorem lines_append_flatMap_newline (ts : List Text) :
    ∀ t : Text, lines (t ++ ts.flatMap ('\n' :: ·)) = lines t ++ ts.flatMap lines := by
  induction ts with
  | nil => simp
  | cons s ts ih =>
    intro t
    rw [List.flatMap_cons, List.cons_append, lines_append_newline, ih, List.flatMap_cons]

/-- Blank texts have blank lines. -/
theorem all_isBlank_flatMap_lines {ts : List Text} (h : ∀ t ∈ ts, isBlank t = true) :
    (ts.flatMap lines).all isBlank = true := by
  rw [List.all_flatMap, List.all_eq_true]
  intro t ht
  rw [all_isBlank_lines]
  exact h t ht

end Text

namespace Code

open Text

/-! ### Trimming leaves no margins -/

/-- A text whose first and last lines are not blank. -/
structure Marginless (t : Text) : Prop where
  first : ∀ l ∈ (lines t).head?, isBlank l = false
  last : ∀ l ∈ (lines t).getLast?, isBlank l = false

theorem trimLines_prefix_dropWhile (ls : List Text) : trimLines ls <+: ls.dropWhile isBlank :=
  List.rdropWhile_prefix isBlank _

/-- Trimmed lines are lines of the block. -/
theorem trimLines_infix_self (ls : List Text) : trimLines ls <:+: ls :=
  (trimLines_prefix_dropWhile ls).isInfix.trans (List.dropWhile_suffix _).isInfix

/-- The lines that trimming leaves. -/
theorem lines_trim {t : Text} (h : trim t ≠ []) : lines (trim t) = trimLines (lines t) := by
  have hne : trimLines (lines t) ≠ [] := by
    intro hnil
    rw [trim_eq_unlines, hnil, unlines_nil] at h
    exact h rfl
  rw [trim_eq_unlines]
  exact lines_unlines hne fun l hl => notMem_of_mem_lines l ((trimLines_infix_self _).subset hl)

/-- Nothing is left of a block just if all of its lines are blank. -/
theorem trim_eq_nil_iff (t : Text) : trim t = [] ↔ ∀ l ∈ lines t, isBlank l = true := by
  rw [← List.all_eq_true, trim_eq_unlines]
  constructor
  · intro hnil
    by_contra hall
    have hsolid := all_trimLines (Bool.eq_false_iff.mpr hall)
    rw [← isBlank_unlines, hnil] at hsolid
    exact absurd hsolid (by decide)
  · intro hall
    rw [trimLines_of_all hall, unlines_nil]

theorem marginless_trim {t : Text} (h : trim t ≠ []) : Marginless (trim t) := by
  have hlines := lines_trim h
  have hne : trimLines (lines t) ≠ [] := hlines ▸ lines_ne_nil (trim t)
  constructor
  · intro l hl
    rw [hlines, List.head?_eq_some_head hne, Option.mem_some_iff] at hl
    -- the first line that is left is the first one that has not been dropped
    rw [← hl, (trimLines_prefix_dropWhile (lines t)).head hne]
    exact List.head_dropWhile_not isBlank _
  · intro l hl
    rw [hlines, List.getLast?_eq_getLast_of_ne_nil hne, Option.mem_some_iff] at hl
    rw [← hl]
    exact Bool.eq_false_iff.mpr (List.rdropWhile_last_not isBlank _ hne)

/-- Trimming does not change a text without margins. -/
theorem trim_of_marginless {t : Text} (h : Marginless t) : trim t = t := by
  have hfront : (lines t).dropWhile isBlank = lines t := by
    cases hlines : lines t with
    | nil => rfl
    | cons l ls =>
      rw [List.dropWhile_cons_of_neg]
      simp [h.first l (by simp [hlines])]
  have hback : (lines t).rdropWhile isBlank = lines t := by
    rw [List.rdropWhile_eq_self_iff]
    intro hne
    rw [h.last _ (List.getLast?_eq_getLast_of_ne_nil hne)]
    exact Bool.false_ne_true
  rw [trim_eq_unlines, trimLines, hfront, hback, unlines_lines]

theorem trim_trim (t : Text) : trim (trim t) = trim t := by
  by_cases h : trim t = []
  · rw [h, trim_nil]
  · exact trim_of_marginless (marginless_trim h)

/-- Lines are their margins around what trimming leaves. -/
theorem exists_margins (ls : List Text) :
    ∃ front back, (∀ l ∈ front ++ back, isBlank l = true) ∧ ls = front ++ trimLines ls ++ back := by
  refine ⟨ls.takeWhile isBlank, (ls.dropWhile isBlank).rtakeWhile isBlank, ?_, ?_⟩
  · intro l hl
    rcases List.mem_append.mp hl with hl | hl
    · exact List.mem_takeWhile_imp hl
    · exact List.mem_rtakeWhile_imp hl
  · rw [trimLines, List.append_assoc, List.rdropWhile_append_rtakeWhile,
      List.takeWhile_append_dropWhile]

/-! ### Adding margins -/

/-- A text with lines before and after it. -/
def addMargins (front back : List Text) (t : Text) : Text :=
  endLines front ++ t ++ back.flatMap ('\n' :: ·)

theorem lines_addMargins (front back : List Text) (t : Text) :
    lines (addMargins front back t) = front.flatMap lines ++ lines t ++ back.flatMap lines := by
  rw [addMargins, List.append_assoc, lines_endLines_append_lines, lines_append_flatMap_newline,
    List.append_assoc]

/-- Blank lines at the end are trimmed. -/
theorem trimLines_append_blanks {blanks : List Text} (h : blanks.all isBlank = true)
    (ls : List Text) : trimLines (ls ++ blanks) = trimLines ls := by
  induction blanks using List.reverseRecOn with
  | nil => rw [List.append_nil]
  | append_singleton blanks l ih =>
    rw [List.all_append, Bool.and_eq_true] at h
    rw [← List.append_assoc, trimLines_concat (by simpa using h.2), ih h.1]

/-- Blank lines around a text make no difference to what trimming leaves of it. -/
theorem trim_addMargins {front back : List Text} (h : ∀ l ∈ front ++ back, isBlank l = true)
    (t : Text) : trim (addMargins front back t) = trim t := by
  obtain ⟨hfront, hback⟩ := List.forall_mem_append.mp h
  rw [trim_eq_unlines, lines_addMargins, trimLines_append_blanks (all_isBlank_flatMap_lines hback),
    trimLines_append_of_all (all_isBlank_flatMap_lines hfront), ← trim_eq_unlines]

/-- **Trimming cuts off the margins and nothing else.**  It cuts a block at its newlines, drops
the blank lines at the beginning and at the end, and joins the others.  Doing so again changes
nothing; nothing is left just if all lines are blank; the lines that are left stand in the
block as they are, one after another, the first and the last of them not blank; and blank
lines around what is left are cut off again. -/
theorem trim_cuts_margins (t : Text) :
    trim t = ['\n'].intercalate
        (((List.splitOn '\n' t).dropWhile isBlank).rdropWhile isBlank) ∧
      trim (trim t) = trim t ∧
      (trim t = [] ↔ ∀ l ∈ List.splitOn '\n' t, isBlank l = true) ∧
      (trim t ≠ [] → Marginless (trim t) ∧
        ∃ front back, (∀ l ∈ front ++ back, isBlank l = true) ∧
          List.splitOn '\n' t = front ++ List.splitOn '\n' (trim t) ++ back) ∧
      ∀ front back, (∀ l ∈ front ++ back, isBlank l = true) →
        trim (addMargins front back (trim t)) = trim t := by
  simp only [← lines_eq_splitOn, ← unlines_eq_intercalate]
  refine ⟨trim_eq_unlines t, trim_trim t, trim_eq_nil_iff t, ?_, ?_⟩
  · intro hne
    rw [lines_trim hne]
    exact ⟨marginless_trim hne, exists_margins (lines t)⟩
  · intro front back h
    rw [trim_addMargins h, trim_trim]

/-- A blank line inside a block stays, and so does the white space of the lines around it. -/
theorem trim_cuts_margins_indented :
    trim "\n \n  a \n\t\n  b\u3000\n\n".toList ≠ [] ∧
      Marginless (trim "\n \n  a \n\t\n  b\u3000\n\n".toList) ∧
      (∀ l ∈ ["\t".toList, []] ++ ["\u2028".toList], isBlank l = true) ∧
      trim (addMargins ["\t".toList, []] ["\u2028".toList]
        (trim "\n \n  a \n\t\n  b\u3000\n\n".toList)) = "  a \n\t\n  b\u3000".toList := by
  obtain ⟨-, -, -, hleft, hagain⟩ := trim_cuts_margins "\n \n  a \n\t\n  b\u3000\n\n".toList
  have htrim : trim "\n \n  a \n\t\n  b\u3000\n\n".toList = "  a \n\t\n  b\u3000".toList := by
    decide
  have hne : trim "\n \n  a \n\t\n  b\u3000\n\n".toList ≠ [] := by rw [htrim]; decide
  have hblank : ∀ l ∈ ["\t".toList, []] ++ ["\u2028".toList], isBlank l = true := by decide
  exact ⟨hne, (hleft hne).1, hblank, (hagain _ _ hblank).trans htrim⟩

end Code
end Marginalia
