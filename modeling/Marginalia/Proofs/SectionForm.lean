import Marginalia.Proofs.Margins
import Marginalia.Proofs.ScannedBlocks
import Marginalia.Proofs.Stripping

/-!
# The form of the sections of a source

The prose of a section consists of lines that are ended and do not begin with white space,
its code of lines that are no comment lines and are not blank at either end; only the first
section may lack prose, and only the last one code.

## Main definitions

* `Section.IsProse`, `Section.IsCode`, `Section.WellFormed` — the form.

## Main results

* `Section.wellFormed_sectionsOf` — the sections of every source are of the form.
* `Section.trim_code_of_mem` — their code needs no trimming.
-/

namespace Marginalia
namespace Section

/-! ### The form -/

/-- Prose: lines that are ended by newlines and do not begin with white space. -/
def IsProse (t : Text) : Prop :=
  ∃ ls, t = Text.endLines ls ∧ ∀ l ∈ ls, '\n' ∉ l ∧ Text.Flush l

/-- Code: nothing, or lines of which the first and the last are not blank and none is a
comment line. -/
def IsCode (m : Marker) (t : Text) : Prop :=
  t = [] ∨
    (∀ l ∈ (Text.lines t).head?, Text.isBlank l = false) ∧
      (∀ l ∈ (Text.lines t).getLast?, Text.isBlank l = false) ∧
        ∀ l ∈ Text.lines t, m.strip l = none

/-- The form of the sections of a source: only the first may lack prose, and only the last
code. -/
structure WellFormed (m : Marker) (ss : List Section) : Prop where
  prose : ∀ s ∈ ss, IsProse s.comments
  code : ∀ s ∈ ss, IsCode m s.code
  comments_ne_nil : ∀ s ∈ ss.tail, s.comments ≠ []
  code_ne_nil : ∀ s ∈ ss.dropLast, s.code ≠ []
  nonempty : ∀ s ∈ ss, ¬(s.comments = [] ∧ s.code = [])

end Section

/-! ### The sections of a source are of the form -/

namespace Grouping
namespace Block

variable {b : Block} {m : Marker}

/-- What a line that is not code holds of prose. -/
def proseText : Line → Text
  | .comment t => t
  | _ => []

/-- The prose of a block is made of its lines without markers. -/
theorem comments_toSection (h : b.Shaped) :
    b.toSection.comments = Text.endLines (b.prose.map proseText) := by
  have hprose := h.prose_not_code
  rw [toSection]
  generalize b.prose = prose at hprose
  induction prose with
  | nil => rfl
  | cons l prose ih =>
    have ih := ih fun k hk => hprose k (by simp [hk])
    simp only at ih
    rw [List.flatMap_cons, ih, List.map_cons, Text.endLines_cons]
    cases l with
    | comment t => simp [Line.prose, proseText]
    | blank t => rfl
    | code t => simpa using hprose (.code t) (by simp)

/-- What a line holds of prose has no newline in it and does not begin with white space. -/
theorem facts_proseText {l : Line} (h : l.IsRead m) :
    '\n' ∉ proseText l ∧ Text.Flush (proseText l) := by
  cases l with
  | comment t =>
    obtain ⟨raw, hraw, hstrip⟩ := h.strip_of_comment
    obtain ⟨hflush, hsuffix⟩ := Marker.strip_eq_some hstrip
    exact ⟨fun hmem => hraw (hsuffix.subset hmem), hflush⟩
  | blank t => exact ⟨List.not_mem_nil, Text.flush_nil⟩
  | code t => exact ⟨List.not_mem_nil, Text.flush_nil⟩

theorem isProse_comments (h : b.Shaped) (hread : ∀ l ∈ b.prose, l.IsRead m) :
    Section.IsProse b.toSection.comments := by
  refine ⟨_, comments_toSection h, ?_⟩
  intro t ht
  obtain ⟨l, hl, rfl⟩ := List.mem_map.mp ht
  exact facts_proseText (hread l hl)

/-- The lines of the code that a block makes. -/
theorem lines_code (hread : ∀ l ∈ b.code, l.IsRead m)
    (hne : b.code.rdropWhile Line.isBlank ≠ []) :
    Text.lines b.toSection.code = (b.code.rdropWhile Line.isBlank).map Line.verbatim := by
  rw [toSection]
  refine Text.lines_unlines (by simpa using hne) ?_
  intro t ht
  obtain ⟨l, hl, rfl⟩ := List.mem_map.mp ht
  exact (hread l ((List.rdropWhile_prefix _ _).subset hl)).notMem_verbatim

/-- Blank lines at the end do not make up all of the code. -/
theorem rdropWhile_code_ne_nil (h : b.Shaped) (hcode : b.code ≠ []) :
    b.code.rdropWhile Line.isBlank ≠ [] := by
  rw [ne_eq, List.rdropWhile_eq_nil_iff]
  intro hblank
  obtain ⟨t, ht⟩ := Line.exists_eq_code (h.code_first _ (List.head?_eq_some_head hcode))
  simpa [ht] using hblank _ (List.head_mem hcode)

/-- The first line of the code is still there without the blank lines at the end. -/
theorem head?_rdropWhile_code (h : b.Shaped) (hcode : b.code ≠ []) :
    (b.code.rdropWhile Line.isBlank).head? = b.code.head? := by
  have hne := rdropWhile_code_ne_nil h hcode
  rw [List.head?_eq_some_head hne, (List.rdropWhile_prefix Line.isBlank b.code).head hne,
    ← List.head?_eq_some_head]

theorem isCode_code (h : b.Shaped) (hread : ∀ l ∈ b.code, l.IsRead m) :
    Section.IsCode m b.toSection.code := by
  by_cases hcode : b.code = []
  · left
    simp [toSection, hcode]
  · right
    have hne := rdropWhile_code_ne_nil h hcode
    have hsub := (List.rdropWhile_prefix Line.isBlank b.code).subset
    rw [lines_code hread hne]
    refine ⟨?_, ?_, ?_⟩
    · -- the first line is a code line of the block
      intro t ht
      rw [List.head?_map, head?_rdropWhile_code h hcode, Option.mem_def,
        Option.map_eq_some_iff] at ht
      obtain ⟨l, hl, rfl⟩ := ht
      have hmem : l ∈ b.code := List.mem_of_mem_head? hl
      rw [(hread l hmem).isBlank_verbatim (h.code_not_comment l hmem)]
      obtain ⟨t, rfl⟩ := Line.exists_eq_code (h.code_first l hl)
      rfl
    · -- the last line is not blank: those at the end have been dropped
      intro t ht
      rw [List.getLast?_map, Option.mem_def, Option.map_eq_some_iff] at ht
      obtain ⟨l, hl, rfl⟩ := ht
      have hmem : l ∈ b.code := hsub (List.mem_of_getLast? hl)
      rw [(hread l hmem).isBlank_verbatim (h.code_not_comment l hmem)]
      have hlast := List.rdropWhile_last_not Line.isBlank b.code hne
      rw [List.getLast?_eq_getLast_of_ne_nil hne, Option.some.injEq] at hl
      rw [hl] at hlast
      exact Bool.eq_false_iff.mpr hlast
    · intro t ht
      obtain ⟨l, hl, rfl⟩ := List.mem_map.mp ht
      exact (hread l (hsub hl)).strip_verbatim (h.code_not_comment l (hsub hl))

theorem comments_ne_nil (h : b.Shaped) (hprose : b.prose ≠ []) : b.toSection.comments ≠ [] := by
  rw [comments_toSection h, ne_eq, Text.endLines_eq_nil]
  simpa using hprose

theorem code_ne_nil (h : b.Shaped) (hread : ∀ l ∈ b.code, l.IsRead m) (hcode : b.code ≠ []) :
    b.toSection.code ≠ [] := by
  intro hnil
  have hblank : Text.isBlank b.toSection.code = true := by rw [hnil]; rfl
  have hne := rdropWhile_code_ne_nil h hcode
  rw [toSection, Text.isBlank_unlines, List.all_map, List.all_eq_true] at hblank
  have hmem := (List.rdropWhile_prefix Line.isBlank b.code).subset (List.getLast_mem hne)
  have hlast := hblank _ (List.getLast_mem hne)
  rw [Function.comp_apply,
    (hread _ hmem).isBlank_verbatim (h.code_not_comment _ hmem)] at hlast
  exact List.rdropWhile_last_not Line.isBlank b.code hne hlast

end Block

namespace Progress.Sound

variable {p : Progress} {ls : List Line} {m : Marker}

theorem mem_of_mem_blocks (h : p.Sound ls) {b : Block} (hb : b ∈ p.blocks) {l : Line}
    (hl : l ∈ b.lines) : l ∈ ls := by
  rw [h.lines, List.mem_append, List.mem_flatMap]
  rw [Progress.blocks] at hb
  split at hb
  · exact Or.inl ⟨b, hb, hl⟩
  · rcases List.mem_append.mp hb with hb | hb
    · exact Or.inl ⟨b, hb, hl⟩
    · rw [List.mem_singleton.mp hb] at hl
      exact Or.inr hl

theorem prose_ne_nil_of_mem_tail (h : p.Sound ls) : ∀ b ∈ p.blocks.tail, b.prose ≠ [] := by
  intro b hb
  rw [Progress.blocks] at hb
  split at hb
  · exact h.closed_prose b hb
  · exact h.prose_ne_nil_of_mem_tail_concat b hb

theorem code_ne_nil_of_mem_dropLast (h : p.Sound ls) : ∀ b ∈ p.blocks.dropLast, b.code ≠ [] := by
  intro b hb
  refine h.closed_code b ?_
  rw [Progress.blocks] at hb
  split at hb
  · exact (List.dropLast_prefix _).subset hb
  · rwa [List.dropLast_concat] at hb

theorem prose_or_code_ne_nil (h : p.Sound ls) :
    ∀ b ∈ p.blocks, b.prose ≠ [] ∨ b.code ≠ [] := by
  intro b hb
  rw [Progress.blocks] at hb
  split at hb
  · exact Or.inr (h.closed_code b hb)
  · next hempty =>
    rcases List.mem_append.mp hb with hb | hb
    · exact Or.inr (h.closed_code b hb)
    · rw [List.mem_singleton.mp hb]
      exact not_and_or.mp hempty

/-- The sections that the blocks make are of the form. -/
theorem wellFormed (h : p.Sound ls) (hread : ∀ l ∈ ls, l.IsRead m) :
    Section.WellFormed m (p.blocks.map Block.toSection) := by
  have hlines : ∀ b ∈ p.blocks, ∀ l ∈ b.lines, l.IsRead m := fun b hb l hl =>
    hread l (h.mem_of_mem_blocks hb hl)
  have hprose : ∀ b ∈ p.blocks, ∀ l ∈ b.prose, l.IsRead m := fun b hb l hl =>
    hlines b hb l (by simp [Block.lines, hl])
  have hcode : ∀ b ∈ p.blocks, ∀ l ∈ b.code, l.IsRead m := fun b hb l hl =>
    hlines b hb l (by simp [Block.lines, hl])
  -- each field of the form is one about the blocks that make the sections
  constructor
  case prose =>
    intro s hs
    obtain ⟨b, hb, rfl⟩ := List.mem_map.mp hs
    exact Block.isProse_comments (h.blocks_shaped b hb) (hprose b hb)
  case code =>
    intro s hs
    obtain ⟨b, hb, rfl⟩ := List.mem_map.mp hs
    exact Block.isCode_code (h.blocks_shaped b hb) (hcode b hb)
  case comments_ne_nil =>
    intro s hs
    rw [← List.map_tail] at hs
    obtain ⟨b, hb, rfl⟩ := List.mem_map.mp hs
    exact Block.comments_ne_nil (h.blocks_shaped b (List.mem_of_mem_tail hb))
      (h.prose_ne_nil_of_mem_tail b hb)
  case code_ne_nil =>
    intro s hs
    rw [← List.map_dropLast] at hs
    obtain ⟨b, hb, rfl⟩ := List.mem_map.mp hs
    have hmem := (List.dropLast_prefix _).subset hb
    exact Block.code_ne_nil (h.blocks_shaped b hmem) (hcode b hmem)
      (h.code_ne_nil_of_mem_dropLast b hb)
  case nonempty =>
    intro s hs
    obtain ⟨b, hb, rfl⟩ := List.mem_map.mp hs
    rintro ⟨hcomments, hnil⟩
    rcases h.prose_or_code_ne_nil b hb with hne | hne
    · exact Block.comments_ne_nil (h.blocks_shaped b hb) hne hcomments
    · exact Block.code_ne_nil (h.blocks_shaped b hb) (hcode b hb) hne hnil

end Progress.Sound
end Grouping

namespace Section

open Grouping

/-- The sections of every source are of the form. -/
theorem wellFormed_sectionsOf (m : Marker) (source : Text) :
    WellFormed m (sectionsOf m source) := by
  rw [sectionsOf_eq_map_toSection]
  exact (Progress.sound_run _).wellFormed isRead_of_mem_linesOf

/-- Code without blank lines around it is not changed by trimming. -/
theorem IsCode.trim_eq {m : Marker} {t : Text} (h : IsCode m t) : Code.trim t = t := by
  rcases h with rfl | ⟨hfirst, hlast, -⟩
  · rfl
  · exact Code.trim_of_marginless ⟨hfirst, hlast⟩

/-- The code of a section of a source has been trimmed already. -/
theorem trim_code_of_mem {m : Marker} {source : Text} {s : Section}
    (h : s ∈ sectionsOf m source) : Code.trim s.code = s.code :=
  ((wellFormed_sectionsOf m source).code s h).trim_eq

end Section

end Marginalia
