import Marginalia.Proofs.SectionForm

/-!
# Sections written as a source

Each list of sections of the form that sections of sources have can be written as a source
that has them.  The lines end in `\r\n`, so that a carriage return at the end of a line of
the sections is not taken for part of the line end.

## Main definitions

* `Section.proseLines`, `Section.codeLines` — the lines of the fields of a section.
* `Section.rows`, `Section.source`, `Section.sourceOf` — sections as a source.
* `Section.toBlock` — the lines of a section, each with what it is.

## Main results

* `Grouping.Progress.blocks_run` — blocks are found again in their lines.
* `Section.sectionsOf_sourceOf` — sections of the form are read again.
* `Section.wellFormed_image` — **the sections of sources are those of the form.**
-/

namespace Marginalia
namespace Section

/-! ### Sections as a source -/

/-- The lines of the prose of a section. -/
def proseLines (s : Section) : List Text := (Text.lines s.comments).dropLast

/-- The lines of the code of a section. -/
def codeLines (s : Section) : List Text := if s.code = [] then [] else Text.lines s.code

/-- The lines of a section in a source: its prose, each line after the marker, and its
code. -/
def rows (m : Marker) (s : Section) : List Text := s.proseLines.map (m.text ++ ·) ++ s.codeLines

/-- A section as a source. -/
def source (m : Marker) (s : Section) : Text := (s.rows m).flatMap fun l => l ++ ['\r', '\n']

/-- Sections as a source. -/
def sourceOf (m : Marker) (ss : List Section) : Text := ss.flatMap (source m)

end Section

/-! ### Reading what has been written -/

namespace Grouping

/-- A block in which nothing but comments stands before the code. -/
structure Block.Plain (b : Block) : Prop where
  shaped : b.Shaped
  comments : ∀ l ∈ b.prose, l.isComment = true
  gap : b.gap = []

namespace Progress

variable {closed : List Block} {b : Block}

theorem foldl_take_comments {ls : List Line} (h : ∀ l ∈ ls, l.isComment = true) :
    ∀ prose : List Line,
      ls.foldl take ⟨closed, ⟨prose, [], []⟩⟩ = ⟨closed, ⟨prose ++ ls, [], []⟩⟩ := by
  induction ls with
  | nil => simp
  | cons l ls ih =>
    intro prose
    obtain ⟨t, rfl⟩ := Line.exists_eq_comment (h l (by simp))
    rw [List.foldl_cons, take, if_pos rfl, List.append_nil, ih fun k hk => h k (by simp [hk])]
    simp

theorem foldl_take_code {ls : List Line} (h : ∀ l ∈ ls, l.isComment = false)
    (prose : List Line) : ∀ code : List Line,
      (code = [] → ∀ l, ls.head? = some l → l.isCode = true) →
      ls.foldl take ⟨closed, ⟨prose, [], code⟩⟩ = ⟨closed, ⟨prose, [], code ++ ls⟩⟩ := by
  induction ls with
  | nil => simp
  | cons l ls ih =>
    intro code hfirst
    have hl := h l (by simp)
    have hstep : take ⟨closed, ⟨prose, [], code⟩⟩ l = ⟨closed, ⟨prose, [], code ++ [l]⟩⟩ := by
      cases l with
      | comment t => simp at hl
      | blank t =>
        have hcode : code ≠ [] := fun hnil => by simpa using hfirst hnil (.blank t) rfl
        rw [take, if_neg hcode]
      | code t => rfl
    rw [List.foldl_cons, hstep, ih (fun k hk => h k (by simp [hk])) _ (by simp)]
    simp

/-- The lines of such a block make it up again. -/
theorem foldl_take_lines (h : b.Plain) : b.lines.foldl take ⟨closed, {}⟩ = ⟨closed, b⟩ := by
  have hcode :
      b.code.foldl take ⟨closed, ⟨b.prose, [], []⟩⟩ = ⟨closed, ⟨b.prose, [], [] ++ b.code⟩⟩ :=
    foldl_take_code h.shaped.code_not_comment b.prose [] fun _ => h.shaped.code_first
  rw [Block.lines, h.gap, List.append_nil, List.foldl_append, foldl_take_comments h.comments,
    List.nil_append, hcode, List.nil_append, ← h.gap]

/-- After code, they make it up as the next block if they begin with a comment. -/
theorem foldl_take_lines_of_code (h : b.Plain) (hne : b.prose ≠ []) {p : Progress}
    (hcode : p.current.code ≠ []) :
    b.lines.foldl take p = ⟨p.closed ++ [p.current], b⟩ := by
  obtain ⟨l, prose, hprose⟩ := List.exists_cons_of_ne_nil hne
  obtain ⟨t, rfl⟩ := Line.exists_eq_comment (h.comments l (by simp [hprose]))
  have hlines : b.lines = .comment t :: (prose ++ b.gap ++ b.code) := by
    rw [Block.lines, hprose, List.cons_append, List.cons_append]
  have hstep : p.take (.comment t) = take ⟨p.closed ++ [p.current], {}⟩ (.comment t) := by
    rw [take, if_neg hcode, take, if_pos rfl]
    rfl
  rw [hlines, List.foldl_cons, hstep, ← List.foldl_cons, ← hlines]
  exact foldl_take_lines h

/-- The lines of blocks one after another make up those blocks, as long as there is code
before each block and prose in it. -/
theorem foldl_take_flatMap : ∀ (bs : List Block) (p : Progress),
    (∀ b ∈ bs, b.Plain ∧ b.prose ≠ []) → (∀ b ∈ (p.current :: bs).dropLast, b.code ≠ []) →
      ((bs.flatMap Block.lines).foldl take p).closed ++
        [((bs.flatMap Block.lines).foldl take p).current] = p.closed ++ p.current :: bs := by
  intro bs
  induction bs with
  | nil => intro p _ _; rfl
  | cons b bs ih =>
    intro p hbs hcode
    obtain ⟨hplain, hne⟩ := hbs b (by simp)
    rw [List.dropLast_cons_of_ne_nil (by simp)] at hcode
    rw [List.flatMap_cons, List.foldl_append,
      foldl_take_lines_of_code hplain hne (hcode p.current (by simp)),
      ih _ (fun k hk => hbs k (by simp [hk])) fun k hk => hcode k (by simp [hk])]
    simp

/-- The lines of all blocks make up the blocks. -/
theorem blocks_run {bs : List Block} (hplain : ∀ b ∈ bs, b.Plain)
    (hprose : ∀ b ∈ bs.tail, b.prose ≠ []) (hcode : ∀ b ∈ bs.dropLast, b.code ≠ [])
    (hne : ∀ b ∈ bs, ¬(b.prose = [] ∧ b.code = [])) :
    (run (bs.flatMap Block.lines)).blocks = bs := by
  cases bs with
  | nil => rfl
  | cons b bs =>
    have hrun : run ((b :: bs).flatMap Block.lines) =
        (bs.flatMap Block.lines).foldl take ⟨[], b⟩ := by
      rw [run, List.flatMap_cons, List.foldl_append]
      rw [foldl_take_lines (hplain b (by simp))]
    have hall := foldl_take_flatMap bs ⟨[], b⟩
      (fun k hk => ⟨hplain k (by simp [hk]), hprose k hk⟩) hcode
    rw [hrun]
    generalize (bs.flatMap Block.lines).foldl take ⟨[], b⟩ = q at hall
    rw [List.nil_append] at hall
    have hlast : ¬(q.current.prose = [] ∧ q.current.code = []) := hne _ (by rw [← hall]; simp)
    rw [blocks, if_neg hlast, hall]

/-- A blank line at the end makes no difference. -/
theorem map_toSection_take_blank (p : Progress) (t : Text) :
    (p.take (.blank t)).blocks.map Block.toSection = p.blocks.map Block.toSection := by
  rw [take, blocks, blocks]
  split
  · next hcode =>
    by_cases hprose : p.current.prose = [] <;> simp [hcode, hprose, Block.toSection]
  · next hcode =>
    have hcode' : p.current.code ++ [.blank t] ≠ [] := by simp
    rw [if_neg fun h => hcode' h.2, if_neg fun h => hcode h.2, List.map_append, List.map_append,
      List.map_singleton, List.map_singleton, Block.toSection,
      List.rdropWhile_concat_pos _ _ _ (by rfl), Block.toSection]

end Progress
end Grouping

namespace Section

open Grouping

variable {m : Marker} {s : Section}

/-- The lines of a section, each with what it is. -/
def toBlock (m : Marker) (s : Section) : Block where
  prose := s.proseLines.map .comment
  gap := []
  code := s.codeLines.map (Line.classify m)

/-- Prose is its lines, which are flush. -/
theorem endLines_proseLines (h : IsProse s.comments) :
    Text.endLines s.proseLines = s.comments ∧ ∀ l ∈ s.proseLines, '\n' ∉ l ∧ Text.Flush l := by
  obtain ⟨ls, hls, hflush⟩ := h
  have hlines : s.proseLines = ls := by
    rw [proseLines, hls, Text.lines_endLines fun l hl => (hflush l hl).1, List.dropLast_concat]
  rw [hlines]
  exact ⟨hls.symm, hflush⟩

theorem unlines_codeLines (s : Section) : Text.unlines s.codeLines = s.code := by
  rw [codeLines]
  split
  · next hnil => rw [hnil, Text.unlines_nil]
  · exact Text.unlines_lines s.code

theorem notMem_of_mem_codeLines : ∀ l ∈ s.codeLines, '\n' ∉ l := by
  intro l hl
  rw [codeLines] at hl
  split at hl
  · simp at hl
  · exact Text.notMem_of_mem_lines l hl

theorem codeLines_eq_nil_iff : s.codeLines = [] ↔ s.code = [] := by
  rw [codeLines]
  split
  · next hnil => simp [hnil]
  · next hne => simp [hne, Text.lines_ne_nil]

/-- Code is its lines, of which none is a comment line and neither end is blank. -/
theorem facts_codeLines (h : IsCode m s.code) :
    (∀ l ∈ s.codeLines, m.strip l = none) ∧
      (∀ l ∈ s.codeLines.head?, Text.isBlank l = false) ∧
        ∀ l ∈ s.codeLines.getLast?, Text.isBlank l = false := by
  rw [codeLines]
  split
  · simp
  · next hne =>
    obtain ⟨hfirst, hlast, hstrip⟩ := h.resolve_left hne
    exact ⟨hstrip, hfirst, hlast⟩

/-- A line that is no comment is blank or code. -/
theorem classify_of_strip {l : Text} (h : m.strip l = none) :
    Line.classify m l = if Text.isBlank l then .blank l else .code l := by
  rw [Line.classify, h]

theorem facts_classify {l : Text} (h : m.strip l = none) :
    (Line.classify m l).isComment = false ∧ (Line.classify m l).isBlank = Text.isBlank l ∧
      (Line.classify m l).isCode = !Text.isBlank l := by
  rw [classify_of_strip h]
  split
  · next hblank => simp [hblank]
  · next hblank => simp [hblank]

theorem plain_toBlock (h : IsCode m s.code) : (s.toBlock m).Plain := by
  obtain ⟨hstrip, hfirst, -⟩ := facts_codeLines h
  have hcomments : ∀ l ∈ (s.toBlock m).prose, l.isComment = true := by
    intro l hl
    obtain ⟨t, -, rfl⟩ := List.mem_map.mp hl
    rfl
  refine ⟨⟨?_, ?_, by simp [toBlock], ?_, ?_⟩, hcomments, rfl⟩
  · intro l hl
    obtain ⟨t, rfl⟩ := Line.exists_eq_comment (hcomments l hl)
    rfl
  · exact fun l hl => hcomments l (List.mem_of_getLast? hl)
  · intro l hl
    rw [toBlock, List.head?_map, Option.map_eq_some_iff] at hl
    obtain ⟨t, ht, rfl⟩ := hl
    rw [(facts_classify (hstrip t (List.mem_of_mem_head? ht))).2.2, hfirst t ht]
    rfl
  · intro l hl
    obtain ⟨t, ht, rfl⟩ := List.mem_map.mp hl
    exact (facts_classify (hstrip t ht)).1

/-- The block of a section makes that section. -/
theorem toSection_toBlock (hprose : IsProse s.comments) (hcode : IsCode m s.code) :
    (s.toBlock m).toSection = s := by
  obtain ⟨hstrip, -, hlast⟩ := facts_codeLines hcode
  have hcomments : (s.proseLines.map Line.comment).flatMap Line.prose = s.comments := by
    rw [List.flatMap_map, ← (endLines_proseLines hprose).1]
    rfl
  have hkept : (s.codeLines.map (Line.classify m)).rdropWhile Line.isBlank =
      s.codeLines.map (Line.classify m) := by
    rw [List.rdropWhile_eq_self_iff]
    intro hne
    rw [List.getLast_map]
    have hmem := List.getLast_mem (l := s.codeLines) (by simpa using hne)
    rw [(facts_classify (hstrip _ hmem)).2.1,
      hlast _ (List.getLast?_eq_getLast_of_ne_nil (by simpa using hne))]
    exact Bool.false_ne_true
  have hverbatim : (s.codeLines.map (Line.classify m)).map Line.verbatim = s.codeLines := by
    rw [List.map_map]
    exact (List.map_congr_left fun l hl => Line.verbatim_classify (hstrip l hl)).trans
      (List.map_id _)
  rw [Block.toSection, toBlock, hcomments, hkept, hverbatim, unlines_codeLines]

/-- The lines of the source that is written for sections: those of the sections, and an
empty one after the last line end. -/
theorem sourceLines_sourceOf {ss : List Section} (h : ∀ s ∈ ss, ∀ l ∈ s.rows m, '\n' ∉ l) :
    sourceLines (sourceOf m ss) = ss.flatMap (rows m) ++ [[]] := by
  have hsource : sourceOf m ss = Text.endLines ((ss.flatMap (rows m)).map (· ++ ['\r'])) := by
    simp only [sourceOf, Text.endLines, List.flatMap_map, List.flatMap_assoc, List.append_assoc]
    rfl
  have hlines : ∀ l ∈ (ss.flatMap (rows m)).map (· ++ ['\r']), '\n' ∉ l := by
    intro l hl
    obtain ⟨r, hr, rfl⟩ := List.mem_map.mp hl
    obtain ⟨s, hs, hrs⟩ := List.mem_flatMap.mp hr
    simp [h s hs r hrs]
  have hdrop : dropReturn ∘ (· ++ ['\r']) = id := funext dropReturn_append_return
  rw [sourceLines, hsource, Text.lines_endLines hlines, List.map_append, List.map_map, hdrop,
    List.map_id]
  rfl

/-- The lines of a section, in a source, are those of its block. -/
theorem map_classify_rows (hm : m.Usable) (h : IsProse s.comments) :
    (s.rows m).map (Line.classify m) = (s.toBlock m).lines := by
  have hprose : s.proseLines.map (Line.classify m ∘ (m.text ++ ·)) = s.proseLines.map .comment := by
    refine List.map_congr_left fun l hl => ?_
    rw [Function.comp_apply, Line.classify,
      Marker.strip_append hm ((endLines_proseLines h).2 l hl).2]
  rw [rows, List.map_append, List.map_map, hprose, toBlock, Block.lines, List.append_nil]

theorem notMem_of_mem_rows (hm : m.Usable) (h : IsProse s.comments) :
    ∀ l ∈ s.rows m, '\n' ∉ l := by
  intro l hl
  rcases List.mem_append.mp hl with hl | hl
  · obtain ⟨t, ht, rfl⟩ := List.mem_map.mp hl
    rw [List.mem_append, not_or]
    exact ⟨hm.notMem_newline, ((endLines_proseLines h).2 t ht).1⟩
  · exact notMem_of_mem_codeLines l hl

theorem map_classify_flatMap_rows (hm : m.Usable) :
    ∀ {ss : List Section}, (∀ s ∈ ss, IsProse s.comments) →
      (ss.flatMap (rows m)).map (Line.classify m) = (ss.map (toBlock m)).flatMap Block.lines := by
  intro ss
  induction ss with
  | nil => intro _; rfl
  | cons s ss ih =>
    intro h
    obtain ⟨hs, hss⟩ := List.forall_mem_cons.mp h
    rw [List.flatMap_cons, List.map_append, map_classify_rows hm hs, ih hss, List.map_cons,
      List.flatMap_cons]

theorem linesOf_sourceOf (hm : m.Usable) {ss : List Section}
    (h : ∀ s ∈ ss, IsProse s.comments) :
    linesOf m (sourceOf m ss) = (ss.map (toBlock m)).flatMap Block.lines ++ [.blank []] := by
  -- the line end of the last row leaves an empty line at the end
  have hempty : Line.classify m [] = .blank [] := by
    rw [classify_of_strip m.strip_nil]
    rfl
  rw [linesOf_eq_map, sourceLines_sourceOf fun s hs => notMem_of_mem_rows hm (h s hs),
    List.map_append, map_classify_flatMap_rows hm h, List.map_singleton, hempty]

theorem prose_toBlock_ne_nil (h : IsProse s.comments) (hne : s.comments ≠ []) :
    (s.toBlock m).prose ≠ [] := by
  intro hnil
  rw [toBlock, List.map_eq_nil_iff] at hnil
  rw [← (endLines_proseLines h).1, hnil] at hne
  exact hne rfl

theorem code_toBlock_ne_nil (hne : s.code ≠ []) : (s.toBlock m).code ≠ [] := by
  intro hnil
  rw [toBlock, List.map_eq_nil_iff, codeLines_eq_nil_iff] at hnil
  exact hne hnil

/-- The blocks of sections of the form are found again in their lines. -/
theorem blocks_run_toBlock {ss : List Section} (h : WellFormed m ss) :
    (Progress.run ((ss.map (toBlock m)).flatMap Block.lines)).blocks = ss.map (toBlock m) := by
  apply Progress.blocks_run
  · intro b hb
    obtain ⟨s, hs, rfl⟩ := List.mem_map.mp hb
    exact plain_toBlock (h.code s hs)
  · -- a comment begins each block but the first one
    intro b hb
    rw [← List.map_tail] at hb
    obtain ⟨s, hs, rfl⟩ := List.mem_map.mp hb
    exact prose_toBlock_ne_nil (h.prose s (List.mem_of_mem_tail hs)) (h.comments_ne_nil s hs)
  · -- and code comes before it
    intro b hb
    rw [← List.map_dropLast] at hb
    obtain ⟨s, hs, rfl⟩ := List.mem_map.mp hb
    exact code_toBlock_ne_nil (h.code_ne_nil s hs)
  · intro b hb
    obtain ⟨s, hs, rfl⟩ := List.mem_map.mp hb
    rintro ⟨hprose, hcode⟩
    refine h.nonempty s hs ⟨?_, ?_⟩
    · by_contra hne
      exact prose_toBlock_ne_nil (h.prose s hs) hne hprose
    · by_contra hne
      exact code_toBlock_ne_nil hne hcode

/-- Sections of the form are read again from the source that is written for them. -/
theorem sectionsOf_sourceOf (hm : m.Usable) {ss : List Section} (h : WellFormed m ss) :
    sectionsOf m (sourceOf m ss) = ss := by
  have hsections : (ss.map (toBlock m)).map Block.toSection = ss := by
    rw [List.map_map]
    exact (List.map_congr_left fun s hs =>
      toSection_toBlock (h.prose s hs) (h.code s hs)).trans (List.map_id _)
  rw [sectionsOf_eq_map_toSection, linesOf_sourceOf hm h.prose, Progress.run_concat,
    Progress.map_toSection_take_blank, blocks_run_toBlock h, hsections]

/-- **Which sections sources have.**  The sections of every source are of the form, and
every list of sections of the form is that of the source written for it. -/
theorem wellFormed_image (hm : m.Usable) :
    (∀ source, WellFormed m (sectionsOf m source)) ∧
      ∀ ss, WellFormed m ss → sectionsOf m (sourceOf m ss) = ss :=
  ⟨wellFormed_sectionsOf m, fun _ h => sectionsOf_sourceOf hm h⟩

/-- Prose between and after code, a line end within a line, and code that ends with prose. -/
theorem wellFormed_image_slashes :
    Marker.slashes.Usable ∧
      sectionsOf Marker.slashes
          (sourceOf Marker.slashes
            [⟨[], "head();".toList⟩, ⟨"one\n\ntwo\r\n".toList, "  a\n \nb".toList⟩,
              ⟨"tail\n".toList, []⟩]) =
        [⟨[], "head();".toList⟩, ⟨"one\n\ntwo\r\n".toList, "  a\n \nb".toList⟩,
          ⟨"tail\n".toList, []⟩] := by
  have hm : Marker.slashes.Usable := ⟨by decide, by decide, by decide⟩
  refine ⟨hm, (wellFormed_image hm).2 _ ⟨?_, ?_, by decide, by decide, by decide⟩⟩
  · intro s hs
    simp only [List.mem_cons, List.not_mem_nil, or_false] at hs
    rcases hs with rfl | rfl | rfl
    · exact ⟨[], by decide, by decide⟩
    · exact ⟨["one".toList, [], "two\r".toList], by decide, by decide⟩
    · exact ⟨["tail".toList], by decide, by decide⟩
  · intro s hs
    simp only [List.mem_cons, List.not_mem_nil, or_false] at hs
    rcases hs with rfl | rfl | rfl
    · exact Or.inr ⟨by decide, by decide, by decide⟩
    · exact Or.inr ⟨by decide, by decide, by decide⟩
    · exact Or.inl rfl

end Section
end Marginalia
