import Marginalia.Proofs.Lines

/-!
# Code blocks and their lines

A code block is trimmed by looking for newlines from both of its ends.  Seen as lines, it
loses the blank lines at its beginning and at its end and keeps the others as they are.

## Main definitions

* `Code.trimLines` — lines without the blank ones at either end.

## Main results

* `Code.trim_unlines` — trimming lines that have been joined.
* `Code.trim_eq_unlines` — trimming a text, in terms of its lines.
* `Code.trim_endLines` — trimming lines that have been ended.
-/

namespace Marginalia
namespace Code

open Text

/-- Lines without the blank ones at the beginning and at the end. -/
def trimLines (ls : List Text) : List Text := (ls.dropWhile isBlank).rdropWhile isBlank

@[simp] theorem trimLines_nil : trimLines [] = [] := rfl

/-! ### Passing over blank lines -/

/-- Lines without the blank ones at the beginning, except that the last line stays. -/
def skipLines : List Text → List Text
  | [] => []
  | [l] => [l]
  | l :: l' :: ls => if isBlank l then skipLines (l' :: ls) else l :: l' :: ls

@[simp] theorem skipLines_nil : skipLines [] = [] := rfl

@[simp] theorem skipLines_singleton (l : Text) : skipLines [l] = [l] := rfl

theorem skipBlankFrom_of_notMem {t : Text} (h : '\n' ∉ t) (line : Text) :
    skipBlankFrom line t = line := by
  induction t with
  | nil => rfl
  | cons c t ih =>
    have hc : c ≠ '\n' := fun hc => h (by simp [hc])
    have ht : '\n' ∉ t := fun ht => h (by simp [ht])
    rw [skipBlankFrom, if_neg hc, ih ht]
    split <;> rfl

theorem skipBlankFrom_append_newline {a : Text} (h : '\n' ∉ a) (line t : Text) :
    skipBlankFrom line (a ++ '\n' :: t) = if isBlank a then skipBlankLines t else line := by
  induction a with
  | nil => rfl
  | cons c a ih =>
    have hc : c ≠ '\n' := fun hc => h (by simp [hc])
    have ha : '\n' ∉ a := fun ha => h (by simp [ha])
    rw [List.cons_append, skipBlankFrom, if_neg hc, ih ha, isBlank_cons]
    by_cases hs : isSpace c = true <;> simp [hs]

theorem skipBlankLines_unlines {ls : List Text} (h : ∀ l ∈ ls, '\n' ∉ l) :
    skipBlankLines (unlines ls) = unlines (skipLines ls) := by
  induction ls with
  | nil => rfl
  | cons l ls ih =>
    cases ls with
    | nil => exact skipBlankFrom_of_notMem (h l (by simp)) l
    | cons l' ls =>
      rw [skipLines, unlines_cons_cons, skipBlankLines,
        skipBlankFrom_append_newline (h l (by simp)), ih fun k hk => h k (by simp [hk])]
      split <;> rfl

theorem skipLines_suffix (ls : List Text) : skipLines ls <:+ ls := by
  induction ls with
  | nil => exact List.suffix_rfl
  | cons l ls ih =>
    cases ls with
    | nil => exact List.suffix_rfl
    | cons l' ls =>
      rw [skipLines]
      split
      · exact ih.trans (List.suffix_cons l (l' :: ls))
      · exact List.suffix_rfl

/-- If a line stays anyway, keeping the last one makes no difference. -/
theorem skipLines_eq_dropWhile {ls : List Text} (h : ls.all isBlank = false) :
    skipLines ls = ls.dropWhile isBlank := by
  induction ls with
  | nil => simp at h
  | cons l ls ih =>
    cases ls with
    | nil =>
      have hl : isBlank l = false := by simpa using h
      simp [hl]
    | cons l' ls =>
      rw [skipLines, List.dropWhile_cons]
      cases hl : isBlank l with
      | true =>
        rw [List.all_cons, hl, Bool.true_and] at h
        simpa using ih h
      | false => simp

/-! ### Trimming -/

theorem trimLines_of_all {ls : List Text} (h : ls.all isBlank = true) : trimLines ls = [] := by
  rw [trimLines, List.rdropWhile_eq_nil_iff]
  intro l hl
  exact List.all_eq_true.mp h l ((List.dropWhile_suffix _).subset hl)

/-- Lines without the blank ones at the end, except that the first line stays. -/
def skipLinesBack (ls : List Text) : List Text := flipLines (skipLines (flipLines ls))

theorem reverse_skipBlankLines_reverse {ls : List Text} (h : ∀ l ∈ ls, '\n' ∉ l) :
    (skipBlankLines (unlines ls).reverse).reverse = unlines (skipLinesBack ls) := by
  have hflip : ∀ l ∈ flipLines ls, '\n' ∉ l := fun l hl => by
    simpa using h l.reverse (mem_flipLines.mp hl)
  rw [reverse_unlines, skipBlankLines_unlines hflip, reverse_unlines, skipLinesBack]

theorem all_skipLines {ls : List Text} (h : ls.all isBlank = true) :
    (skipLines ls).all isBlank = true := by
  rw [List.all_eq_true] at h ⊢
  exact fun l hl => h l ((skipLines_suffix ls).subset hl)

theorem all_skipLinesBack {ls : List Text} (h : ls.all isBlank = true) :
    (skipLinesBack ls).all isBlank = true := by
  rw [skipLinesBack, all_isBlank_flipLines]
  exact all_skipLines (by rwa [all_isBlank_flipLines])

theorem skipLinesBack_eq_rdropWhile {ls : List Text} (h : ls.all isBlank = false) :
    skipLinesBack ls = ls.rdropWhile isBlank := by
  rw [skipLinesBack, skipLines_eq_dropWhile (by rwa [all_isBlank_flipLines]), flipLines_dropWhile]

/-- A line that is not blank is still there when blank lines have been dropped before it. -/
theorem all_dropWhile {ls : List Text} (h : ls.all isBlank = false) :
    (ls.dropWhile isBlank).all isBlank = false := by
  rw [← List.takeWhile_append_dropWhile (p := isBlank) (l := ls), List.all_append] at h
  have htake : (ls.takeWhile isBlank).all isBlank = true :=
    List.all_eq_true.mpr fun _ hl => List.mem_takeWhile_imp hl
  rwa [htake, Bool.true_and] at h

theorem all_trimLines {ls : List Text} (h : ls.all isBlank = false) :
    (trimLines ls).all isBlank = false := by
  have hne : trimLines ls ≠ [] := by
    intro hnil
    rw [trimLines, List.rdropWhile_eq_nil_iff, ← List.all_eq_true, all_dropWhile h] at hnil
    exact Bool.false_ne_true hnil
  rw [List.all_eq_false]
  exact ⟨_, List.getLast_mem hne, List.rdropWhile_last_not isBlank (ls.dropWhile isBlank) hne⟩

/-- Trimming joined lines trims the list of them. -/
theorem trim_unlines {ls : List Text} (h : ∀ l ∈ ls, '\n' ∉ l) :
    trim (unlines ls) = unlines (trimLines ls) := by
  have hskip : ∀ l ∈ skipLines ls, '\n' ∉ l := fun l hl => h l ((skipLines_suffix ls).subset hl)
  rw [trim, skipBlankLines_unlines h, reverse_skipBlankLines_reverse hskip, isBlank_unlines]
  cases hall : ls.all isBlank with
  | true =>
    rw [all_skipLinesBack (all_skipLines hall), trimLines_of_all hall, if_pos rfl, unlines_nil]
  | false =>
    have hlines : skipLinesBack (skipLines ls) = trimLines ls := by
      rw [skipLines_eq_dropWhile hall, skipLinesBack_eq_rdropWhile (all_dropWhile hall), trimLines]
    rw [hlines, all_trimLines hall, if_neg Bool.false_ne_true]

/-- A code block is trimmed line by line. -/
theorem trim_eq_unlines (t : Text) : trim t = unlines (trimLines (lines t)) := by
  rw [← trim_unlines notMem_of_mem_lines, unlines_lines]

/-- Blank lines at the beginning are trimmed. -/
theorem trimLines_append_of_all {blanks : List Text} (h : blanks.all isBlank = true)
    (ls : List Text) : trimLines (blanks ++ ls) = trimLines ls := by
  rw [trimLines, List.dropWhile_append_of_pos fun l hl => List.all_eq_true.mp h l hl, trimLines]

/-- A blank line at the end is trimmed. -/
theorem trimLines_concat {l : Text} (h : isBlank l = true) (ls : List Text) :
    trimLines (ls ++ [l]) = trimLines ls := by
  rw [trimLines, List.dropWhile_append]
  split
  · next hnil => simp [trimLines, List.isEmpty_iff.mp hnil, h]
  · rw [List.rdropWhile_concat_pos _ _ _ h, trimLines]

/-- Trimming lines that have been ended. -/
theorem trim_endLines {ls : List Text} (h : ∀ l ∈ ls, '\n' ∉ l) :
    trim (endLines ls) = unlines (trimLines ls) := by
  have hmem : ∀ l ∈ ls ++ [[]], '\n' ∉ l := by
    intro l hl
    rcases List.mem_append.mp hl with hl | hl
    · exact h l hl
    · simp [List.mem_singleton.mp hl]
  rw [endLines_eq_unlines, trim_unlines hmem, trimLines_concat rfl]

end Code
end Marginalia
