import Marginalia.Scan
import Mathlib.Data.List.DropRight

/-!
# Texts and their lines

A text is cut at its newlines into one line more than it has newlines, and joining
those lines gives the text back.  Lines are also written with a newline after each of
them, as the prose and the code of a section being built are.

## Main definitions

* `Text.endLines` — lines, each ended by a newline.
* `Text.flipLines` — the lines of a text read backwards.

## Main results

* `Text.lines_eq_splitOn`, `Text.unlines_eq_intercalate` — cutting and joining in the
  terms of the standard library.
* `Text.unlines_lines`, `Text.lines_unlines` — the two undo each other.
* `Text.lines_append_newline` — a newline cuts a text into two independent halves.
* `dropReturn_eq`, `dropReturn_append_return` — what happens to a carriage return.
-/

namespace Marginalia
namespace Text

/-! ### Cutting and joining -/

theorem splitOn_eq_splitOn (sep : Char) (t : Text) : splitOn sep t = List.splitOn sep t := by
  induction t with
  | nil => rfl
  | cons c t ih =>
    rw [splitOn, List.splitOn_cons_eq_if_modifyHead, ih]
    by_cases hc : c = sep
    · simp [hc]
    · obtain ⟨p, ps, hp⟩ := List.exists_cons_of_ne_nil (List.splitOn_ne_nil sep t)
      simp [hc, hp, consHead]

theorem joinWith_eq_intercalate (sep : Char) (ps : List Text) :
    joinWith sep ps = [sep].intercalate ps := by
  induction ps with
  | nil => rfl
  | cons p ps ih =>
    cases ps with
    | nil => simp [joinWith]
    | cons q ps =>
      rw [joinWith, ih, List.intercalate_cons_cons]
      · simp
      · simp

theorem lines_eq_splitOn (t : Text) : lines t = List.splitOn '\n' t := splitOn_eq_splitOn '\n' t

theorem unlines_eq_intercalate (ls : List Text) : unlines ls = ['\n'].intercalate ls :=
  joinWith_eq_intercalate '\n' ls

@[simp] theorem lines_nil : lines [] = [[]] := rfl

@[simp] theorem unlines_nil : unlines [] = [] := rfl

@[simp] theorem unlines_singleton (l : Text) : unlines [l] = l := rfl

@[simp] theorem unlines_cons_cons (l l' : Text) (ls : List Text) :
    unlines (l :: l' :: ls) = l ++ '\n' :: unlines (l' :: ls) := rfl

theorem lines_ne_nil (t : Text) : lines t ≠ [] := splitOn_ne_nil '\n' t

/-- Joining the lines of a text gives the text. -/
@[simp] theorem unlines_lines (t : Text) : unlines (lines t) = t := by
  rw [unlines_eq_intercalate, lines_eq_splitOn, List.intercalate_splitOn]

/-- Lines without newlines in them are the lines of what they are joined to. -/
theorem lines_unlines {ls : List Text} (hne : ls ≠ []) (h : ∀ l ∈ ls, '\n' ∉ l) :
    lines (unlines ls) = ls := by
  rw [unlines_eq_intercalate, lines_eq_splitOn, List.splitOn_intercalate '\n' h hne]

/-- A newline cuts a text into two halves with lines of their own. -/
theorem lines_append_newline (a b : Text) : lines (a ++ '\n' :: b) = lines a ++ lines b := by
  simp only [lines_eq_splitOn, List.splitOn_append_cons_self]

theorem lines_of_notMem {l : Text} (h : '\n' ∉ l) : lines l = [l] := by
  rw [lines_eq_splitOn, List.splitOn_eq_singleton h]

theorem notMem_of_mem_lines {t : Text} : ∀ l ∈ lines t, '\n' ∉ l := by
  induction t with
  | nil => simp
  | cons c t ih =>
    intro l hl
    unfold lines splitOn at hl
    split at hl
    · rcases List.mem_cons.mp hl with rfl | hl
      · simp
      · exact ih l hl
    · next hc =>
      obtain ⟨p, ps, hp⟩ := List.exists_cons_of_ne_nil (lines_ne_nil t)
      rw [lines] at hp
      rw [hp, consHead] at hl
      have hmem : ∀ q ∈ p :: ps, '\n' ∉ q := fun q hq => ih q (by rw [lines, hp]; exact hq)
      rcases List.mem_cons.mp hl with rfl | hl
      · have := hmem p (by simp)
        simp [this, Ne.symm hc]
      · exact hmem l (by simp [hl])

/-! ### Lines that are ended -/

/-- Lines, each ended by a newline. -/
def endLines (ls : List Text) : Text := ls.flatMap fun l => l ++ ['\n']

@[simp] theorem endLines_nil : endLines [] = [] := rfl

@[simp] theorem endLines_cons (l : Text) (ls : List Text) :
    endLines (l :: ls) = l ++ '\n' :: endLines ls := by
  simp [endLines]

@[simp] theorem endLines_append (ls ls' : List Text) :
    endLines (ls ++ ls') = endLines ls ++ endLines ls' := by
  simp [endLines]

theorem endLines_eq_nil {ls : List Text} : endLines ls = [] ↔ ls = [] := by
  cases ls <;> simp

/-- Ended lines are lines joined, with an empty one last. -/
theorem endLines_eq_unlines (ls : List Text) : endLines ls = unlines (ls ++ [[]]) := by
  induction ls with
  | nil => rfl
  | cons l ls ih =>
    obtain ⟨l', rest, h⟩ := List.exists_cons_of_ne_nil (l := ls ++ [[]]) (by simp)
    rw [endLines_cons, ih, List.cons_append, h, unlines_cons_cons]

/-- The lines of ended lines, followed by the lines of the rest. -/
theorem lines_endLines_append {ls : List Text} (h : ∀ l ∈ ls, '\n' ∉ l) (t : Text) :
    lines (endLines ls ++ t) = ls ++ lines t := by
  induction ls with
  | nil => rfl
  | cons l ls ih =>
    rw [endLines_cons, List.append_assoc, List.cons_append, lines_append_newline,
      lines_of_notMem (h l (by simp)), ih fun l' hl' => h l' (by simp [hl'])]
    rfl

theorem lines_endLines {ls : List Text} (h : ∀ l ∈ ls, '\n' ∉ l) :
    lines (endLines ls) = ls ++ [[]] := by
  simpa using lines_endLines_append h []

/-! ### Blank texts -/

@[simp] theorem isBlank_append (a b : Text) : isBlank (a ++ b) = (isBlank a && isBlank b) := by
  simp [isBlank]

@[simp] theorem isBlank_reverse (t : Text) : isBlank t.reverse = isBlank t := by
  simp [isBlank]

/-- Lines joined are blank if all of them are. -/
theorem isBlank_unlines (ls : List Text) : isBlank (unlines ls) = ls.all isBlank := by
  induction ls with
  | nil => rfl
  | cons l ls ih =>
    cases ls with
    | nil => simp
    | cons l' ls =>
      have hnewline : isSpace '\n' = true := by decide
      rw [unlines_cons_cons, isBlank_append, isBlank_cons, ih, hnewline]
      simp

theorem unlines_concat {ls : List Text} (hne : ls ≠ []) (l : Text) :
    unlines (ls ++ [l]) = unlines ls ++ '\n' :: l := by
  induction ls with
  | nil => exact absurd rfl hne
  | cons l' ls ih =>
    cases ls with
    | nil => rfl
    | cons l'' ls =>
      rw [List.cons_append, List.cons_append, unlines_cons_cons, ← List.cons_append,
        ih (by simp), unlines_cons_cons, List.append_assoc, List.cons_append]

/-! ### Reading backwards -/

/-- The lines of a text that is read backwards. -/
def flipLines (ls : List Text) : List Text := ls.reverse.map List.reverse

theorem mem_flipLines {l : Text} {ls : List Text} : l ∈ flipLines ls ↔ l.reverse ∈ ls := by
  simp only [flipLines, List.mem_map, List.mem_reverse]
  constructor
  · rintro ⟨k, hk, rfl⟩
    rwa [List.reverse_reverse]
  · intro h
    exact ⟨l.reverse, h, List.reverse_reverse l⟩

@[simp] theorem all_isBlank_flipLines (ls : List Text) :
    (flipLines ls).all isBlank = ls.all isBlank := by
  have h : isBlank ∘ List.reverse = isBlank := funext isBlank_reverse
  rw [flipLines, List.all_map, List.all_reverse, h]

theorem reverse_unlines (ls : List Text) : (unlines ls).reverse = unlines (flipLines ls) := by
  induction ls with
  | nil => rfl
  | cons l ls ih =>
    cases ls with
    | nil => rfl
    | cons l' ls =>
      have hflip : flipLines (l :: l' :: ls) = flipLines (l' :: ls) ++ [l.reverse] := by
        simp [flipLines]
      rw [unlines_cons_cons, hflip, unlines_concat (by simp [flipLines]), ← ih]
      simp

/-- Dropping blank lines from the front of flipped lines drops them from the back. -/
theorem flipLines_dropWhile (ls : List Text) :
    flipLines ((flipLines ls).dropWhile isBlank) = ls.rdropWhile isBlank := by
  have h : isBlank ∘ List.reverse = isBlank := funext isBlank_reverse
  rw [flipLines, flipLines, List.dropWhile_map, h, ← List.map_reverse, List.map_map,
    List.reverse_involutive.comp_self, List.map_id]
  rfl

end Text

/-! ### Carriage returns -/

@[simp] theorem dropReturn_append_return (l : Text) : dropReturn (l ++ ['\r']) = l := by
  induction l with
  | nil => rfl
  | cons c l ih =>
    cases l with
    | nil => rfl
    | cons c' l => simpa [dropReturn] using ih

/-- One carriage return at the end of a line is dropped, and nothing else. -/
theorem dropReturn_eq (l : Text) :
    dropReturn l = if l.getLast? = some '\r' then l.dropLast else l := by
  induction l with
  | nil => rfl
  | cons c l ih =>
    cases l with
    | nil => by_cases hc : c = '\r' <;> simp [dropReturn, hc]
    | cons c' l =>
      rw [dropReturn, ih, List.getLast?_cons_cons]
      · split <;> simp
      · simp

/-- A line without a carriage return at its end stays as it is. -/
theorem dropReturn_of_getLast? {l : Text} (h : l.getLast? ≠ some '\r') : dropReturn l = l := by
  rw [dropReturn_eq, if_neg h]

theorem notMem_dropReturn {c : Char} {l : Text} (h : c ∉ l) : c ∉ dropReturn l := by
  rw [dropReturn_eq]
  split
  · exact fun hc => h ((List.dropLast_prefix l).subset hc)
  · exact h

/-- No line of a source has a newline in it. -/
theorem notMem_of_mem_sourceLines {source : Text} : ∀ l ∈ sourceLines source, '\n' ∉ l := by
  intro l hl
  obtain ⟨raw, hraw, rfl⟩ := List.mem_map.mp hl
  exact notMem_dropReturn (Text.notMem_of_mem_lines raw hraw)

end Marginalia
