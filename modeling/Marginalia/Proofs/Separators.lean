import Marginalia.Proofs.CleanText
import Marginalia.Proofs.Lines

/-!
# Escaping piece by piece

Whether an ampersand is escaped depends on what follows it, but not past a character that
occurs in no character reference.  Such characters separate pieces of a text that are escaped
each on its own; the lines of a text are such pieces.

## Main definitions

* `Html.isSeparator` — the characters that occur in no reference.

## Main results

* `Html.completesReference_append` — references do not reach over a separator.
* `Html.escape_append` — the pieces around a separator are escaped each on its own.
* `Html.lines_escape` — the lines of a text are escaped one by one.
* `Html.escape_local` — **escaping is local between separators.**
-/

namespace Marginalia
namespace Html

/-! ### Separators -/

/-- A character that occurs in no character reference. -/
def isSeparator (c : Char) : Bool :=
  !(Text.isLetter c || Text.isDigit c || c == '_' || c == '#' || c == ';' || c == '&')

section

variable {c : Char} (hc : isSeparator c = true)

include hc

theorem ne_ampersand_of_isSeparator : c ≠ '&' := by
  rintro rfl
  exact absurd hc (by decide)

theorem ne_semicolon_of_isSeparator : c ≠ ';' := by
  rintro rfl
  exact absurd hc (by decide)

theorem isReferenceChar_of_isSeparator : isReferenceChar c = false := by
  simp only [isSeparator, Bool.not_eq_true', Bool.or_eq_false_iff] at hc
  simp [isReferenceChar, isNameChar, Text.isAlphanumeric, hc]

/-- References do not reach over a separator. -/
theorem completesReference_append (a b : Text) :
    CompletesReference (a ++ c :: b) ↔ CompletesReference a := by
  constructor
  · rintro ⟨body, rest, hbody, heq⟩
    have hmem : c ∉ body ++ [';'] := by
      rw [List.mem_append, List.mem_singleton, not_or]
      exact ⟨hbody.notMem (isReferenceChar_of_isSeparator hc), ne_semicolon_of_isSeparator hc⟩
    have hsplit : a ++ c :: b = (body ++ [';']) ++ rest := by
      rw [heq, List.append_assoc, List.singleton_append]
    rcases List.append_eq_append_iff.mp hsplit with ⟨more, hmore, hrest⟩ | ⟨more, hmore, -⟩
    · -- the reference would have to go on with the separator
      cases more with
      | nil => exact ⟨body, [], hbody, by rw [hmore, List.append_nil]⟩
      | cons d more =>
        obtain ⟨rfl, -⟩ := List.cons.inj hrest
        exact absurd (hmore ▸ List.mem_append_right a List.mem_cons_self) hmem
    · exact ⟨body, more, hbody, by rw [hmore, List.append_assoc, List.singleton_append]⟩
  · rintro ⟨body, rest, hbody, rfl⟩
    exact ⟨body, rest ++ c :: b, hbody, by rw [List.append_assoc, List.cons_append]⟩

theorem startsReference_append (a b : Text) :
    startsReference (a ++ c :: b) = startsReference a := by
  rw [Bool.eq_iff_iff, startsReference_iff, startsReference_iff]
  exact completesReference_append hc a b

/-! ### Pieces -/

/-- How a character is escaped does not depend on what follows a separator. -/
theorem escapeChar_append (d : Char) (a b : Text) :
    escapeChar d (a ++ c :: b) = escapeChar d a := by
  rw [escapeChar, escapeChar, startsReference_append hc]

theorem escapeChars_append (a b : Text) :
    escapeChars (a ++ c :: b) = escapeChars a ++ escapeChars [c] ++ escapeChars b := by
  induction a with
  | nil =>
    have halone : escapeChar c b = escapeChar c [] :=
      escapeChar_alone fun h => ne_ampersand_of_isSeparator hc h.1
    rw [List.nil_append, escapeChars_cons, halone, escapeChars_cons, escapeChars_nil,
      List.append_nil, List.nil_append]
  | cons d a ih =>
    rw [List.cons_append, escapeChars_cons d, escapeChar_append hc, ih, escapeChars_cons d]
    simp only [List.append_assoc]

/-- The pieces around a separator are escaped each on its own. -/
theorem escape_append (a b : Text) :
    escape (a ++ c :: b) = escape a ++ escape [c] ++ escape b := by
  simp only [escape_eq_escapeChars, escapeChars_append hc]

end

/-! ### Lines -/

open Text (lines unlines unlines_lines lines_unlines)

/-- Escaping writes no newlines of its own. -/
theorem notMem_newline_escapeChar {c : Char} (hc : c ≠ '\n') (rest : Text) :
    '\n' ∉ escapeChar c rest := by
  unfold escapeChar
  split
  · split <;> decide
  · split
    · decide
    · split
      · decide
      · split
        · decide
        · rw [List.mem_singleton]
          exact Ne.symm hc

theorem notMem_newline_escape {t : Text} (h : '\n' ∉ t) : '\n' ∉ escape t := by
  rw [escape_eq_escapeChars]
  induction t with
  | nil => exact List.not_mem_nil
  | cons c t ih =>
    rw [List.mem_cons, not_or] at h
    rw [escapeChars_cons, List.mem_append, not_or]
    exact ⟨notMem_newline_escapeChar (Ne.symm h.1) t, ih h.2⟩

/-- Lines that are joined are escaped one by one. -/
theorem escape_unlines (ls : List Text) : escape (unlines ls) = unlines (ls.map escape) := by
  induction ls with
  | nil => rfl
  | cons l ls ih =>
    cases ls with
    | nil => rfl
    | cons l' ls =>
      have hnewline : isSeparator '\n' = true := by decide
      have hescape : escape ['\n'] = ['\n'] := by decide
      rw [Text.unlines_cons_cons, escape_append hnewline, ih, hescape, List.append_assoc]
      rfl

/-- The lines of a text are escaped one by one. -/
theorem lines_escape (t : Text) : lines (escape t) = (lines t).map escape := by
  have hne : (lines t).map escape ≠ [] := fun h => Text.lines_ne_nil t (List.map_eq_nil_iff.mp h)
  have hmem : ∀ l ∈ (lines t).map escape, '\n' ∉ l := by
    intro l hl
    obtain ⟨k, hk, rfl⟩ := List.mem_map.mp hl
    exact notMem_newline_escape (Text.notMem_of_mem_lines k hk)
  calc lines (escape t)
      = lines (escape (unlines (lines t))) := by rw [unlines_lines]
    _ = lines (unlines ((lines t).map escape)) := by rw [escape_unlines]
    _ = (lines t).map escape := lines_unlines hne hmem

/-- **Escaping is local between separators.**  So a text of several lines is escaped line by
line, and has as many lines afterwards. -/
theorem escape_local :
    (∀ (a b : Text) (c : Char), isSeparator c = true →
      escape (a ++ c :: b) = escape a ++ escape [c] ++ escape b) ∧
    ∀ t : Text, escape t = unlines ((lines t).map escape) ∧
      (lines (escape t)).length = (lines t).length := by
  refine ⟨fun a b c hc => escape_append hc a b, fun t => ⟨?_, ?_⟩⟩
  · rw [← lines_escape, unlines_lines]
  · rw [lines_escape, List.length_map]

/-- A reference that a separator cuts is none, on either side. -/
theorem escape_local_cut :
    isSeparator '\u00E9' = true ∧
      escape "&#x\u00E9f;&lt\n;&".toList = "&amp;#x\u00E9f;&amp;lt\n;&amp;".toList := by
  refine ⟨by decide, ?_⟩
  have hcut := escape_local.1 "&#x".toList "f;&lt\n;&".toList '\u00E9' (by decide)
  exact hcut.trans (by decide)

end Html
end Marginalia
