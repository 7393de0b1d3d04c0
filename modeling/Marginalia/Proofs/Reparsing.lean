import Marginalia.Proofs.Regions
import Marginalia.Proofs.WriteBack
import Marginalia.Renderer

/-!
# Code as a source

The code of a section is a source itself.  It has no comment lines and is not blank at either
end, so it makes one section, without prose.  Its lines are read as they are, except that a
carriage return at the end of one is dropped; there is such a line only if one of the source
ended in two of them.

## Main results

* `Section.mem_sourceLines` — the lines of the code of a section are lines of its source.
* `Section.IsCode.sectionsOf_eq` — code whose lines do not end in carriage returns makes one
  section.
* `Section.sectionsOf_code` — **the code of a section is its own only section.**
-/

namespace Marginalia

/-! ### Lines of code -/

/-- What ends in a carriage return after one has been dropped ended in two of them. -/
theorem suffix_of_getLast?_dropReturn {l : Text} (h : (dropReturn l).getLast? = some '\r') :
    ['\r', '\r'] <:+ l := by
  obtain ⟨front, hfront⟩ := List.getLast?_eq_some_iff.mp h
  rw [dropReturn_eq] at hfront
  split at hfront
  · next hlast =>
    obtain ⟨back, rfl⟩ := List.getLast?_eq_some_iff.mp hlast
    rw [List.dropLast_concat] at hfront
    exact ⟨front, by rw [hfront, List.append_assoc]; rfl⟩
  · next hlast => exact absurd (by rw [hfront, List.getLast?_concat]) hlast

theorem getLast?_ne_of_mem_sourceLines {source : Text}
    (h : ∀ l ∈ List.splitOn '\n' source, ¬ ['\r', '\r'] <:+ l) :
    ∀ l ∈ sourceLines source, l.getLast? ≠ some '\r' := by
  intro l hl hlast
  obtain ⟨raw, hraw, rfl⟩ := List.mem_map.mp hl
  rw [Text.lines_eq_splitOn] at hraw
  exact h raw hraw (suffix_of_getLast?_dropReturn hlast)

namespace Section

open Grouping

variable {m : Marker} {source t : Text} {s : Section}

/-- The lines of the code of a section are lines of the source. -/
theorem mem_sourceLines (hs : s ∈ sectionsOf m source) (hne : s.code ≠ []) :
    ∀ l ∈ Text.lines s.code, l ∈ sourceLines source := by
  rw [sectionsOf_eq_map_toSection] at hs
  obtain ⟨b, hb, rfl⟩ := List.mem_map.mp hs
  have hsound := Progress.sound_run (linesOf m source)
  have hmem : ∀ l ∈ b.code, l ∈ linesOf m source := fun l hl =>
    hsound.mem_of_mem_blocks hb (List.mem_append_right _ hl)
  have hkept : b.code.rdropWhile Line.isBlank ≠ [] := by
    intro hnil
    rw [Block.toSection, hnil] at hne
    exact hne rfl
  intro l hl
  rw [Block.lines_code (fun l hl => isRead_of_mem_linesOf l (hmem l hl)) hkept] at hl
  obtain ⟨line, hline, rfl⟩ := List.mem_map.mp hl
  have hcode : line ∈ b.code := (List.rdropWhile_prefix _ _).subset hline
  have hcomment := (hsound.blocks_shaped b hb).code_not_comment line hcode
  have hread := hmem line hcode
  rw [linesOf_eq_map] at hread
  obtain ⟨raw, hraw, rfl⟩ := List.mem_map.mp hread
  rw [Line.isComment_classify, Option.isSome_eq_false_iff, Option.isNone_iff_eq_none] at hcomment
  rwa [Line.verbatim_classify hcomment]

/-! ### Sections of code -/

/-- Code whose lines do not end in carriage returns makes one section, without prose. -/
theorem IsCode.sectionsOf_eq (h : IsCode m t) (hne : t ≠ [])
    (hreturn : ∀ l ∈ Text.lines t, l.getLast? ≠ some '\r') : sectionsOf m t = [⟨[], t⟩] := by
  have hprose : IsProse [] := ⟨[], rfl, by simp⟩
  have hform : WellFormed m [⟨[], t⟩] := by
    constructor <;> simp [hprose, h, hne]
  -- its lines are those of the block that the section is written as
  have hlines : linesOf m t = ([⟨[], t⟩].map (toBlock m)).flatMap Block.lines := by
    have hdrop : sourceLines t = Text.lines t := by
      rw [sourceLines]
      exact (List.map_congr_left fun l hl => dropReturn_of_getLast? (hreturn l hl)).trans
        (List.map_id _)
    rw [linesOf_eq_map, hdrop]
    simp [toBlock, Block.lines, proseLines, codeLines, hne]
  rw [sectionsOf_eq_map_toSection, hlines, blocks_run_toBlock hform, List.map_singleton,
    List.map_singleton, toSection_toBlock hprose h]

/-- **The code of a section is its own only section.**  If no line of a source ends in two
carriage returns, the code of each of its sections, read as a source, makes one section with
that code and without comments.  So a renderer makes the same region of the code, and shows
nothing in the region of the comments. -/
theorem sectionsOf_code (hsource : ∀ l ∈ List.splitOn '\n' source, ¬ ['\r', '\r'] <:+ l)
    (hs : s ∈ sectionsOf m source) (hne : s.code ≠ []) :
    sectionsOf m s.code = [⟨[], s.code⟩] ∧
      ∀ comment code : Hook,
        (⟨m, comment, code⟩ : Renderer).fragment (.sections [s]) =
            Fragment.write [Fragment.regions comment code s] ∧
          (⟨m, comment, code⟩ : Renderer).fragment (.text s.code) =
            Fragment.write [{ Fragment.regions comment code s with comments := emptyComment }] := by
  have hcode : sectionsOf m s.code = [⟨[], s.code⟩] :=
    ((wellFormed_sectionsOf m source).code s hs).sectionsOf_eq hne fun l hl =>
      getLast?_ne_of_mem_sourceLines hsource l (mem_sourceLines hs hne l hl)
  refine ⟨hcode, fun comment code => ⟨Fragment.render_eq_write comment code [s], ?_⟩⟩
  rw [Renderer.fragment, Source.toSections, hcode]
  exact Fragment.render_eq_write comment code [⟨[], s.code⟩]

/-- A blank line inside the code stays, and so does a carriage return at the beginning of a
line; those at line ends are gone. -/
theorem sectionsOf_code_returns :
    (∀ l ∈ List.splitOn '\n' "// a\r\n\r\n\rx\r\n \t\r\n  y // z\r".toList, ¬ ['\r', '\r'] <:+ l) ∧
      ⟨"a\n".toList, "\rx\n \t\n  y // z".toList⟩ ∈
        sectionsOf Marker.slashes "// a\r\n\r\n\rx\r\n \t\r\n  y // z\r".toList ∧
      sectionsOf Marker.slashes "\rx\n \t\n  y // z".toList =
        [⟨[], "\rx\n \t\n  y // z".toList⟩] ∧
      (⟨Marker.slashes, Hook.identity, Hook.escape⟩ : Renderer).fragment
          (.text "\rx\n \t\n  y // z".toList) =
        Fragment.write [⟨emptyComment, "\rx\n \t\n  y // z".toList⟩] := by
  have hsource : ∀ l ∈ List.splitOn '\n' "// a\r\n\r\n\rx\r\n \t\r\n  y // z\r".toList,
      ¬ ['\r', '\r'] <:+ l := by decide
  have hs : ⟨"a\n".toList, "\rx\n \t\n  y // z".toList⟩ ∈
      sectionsOf Marker.slashes "// a\r\n\r\n\rx\r\n \t\r\n  y // z\r".toList := by decide +kernel
  obtain ⟨hcode, hregions⟩ := sectionsOf_code hsource hs (by decide)
  exact ⟨hsource, hs, hcode, (hregions Hook.identity Hook.escape).2.trans (by decide +kernel)⟩

/-- Two carriage returns at the end of a line are dropped one at a time. -/
example : sectionsOf Marker.slashes "x\r\r".toList = [⟨[], "x\r".toList⟩] ∧
    sectionsOf Marker.slashes "x\r".toList = [⟨[], "x".toList⟩] := by
  decide

end Section
end Marginalia
