import Marginalia.Proofs.SectionForm

/-!
# Sources that go on

A source that ends and one that goes on after a line end are read alike up to there.  So the
blocks that are complete stay, and of the block being read either the code goes on or, as long
as there is none, the prose.  If a comment line comes next after code, the rest is read as if
it stood alone.

## Main definitions

* `Grouping.Block.Grows` — what a block may become when more lines are read.
* `Grouping.Progress.after` — blocks read after others that are complete.

## Main results

* `Grouping.Progress.exists_foldl_take` — what becomes of the blocks when lines are read.
* `Grouping.Progress.blocks_foldl_take_of_code` — a comment line after code begins anew.
* `sectionsOf_append_newline` — **the sections of a source that goes on.**
-/

namespace Marginalia

/-! ### Beginnings of lines -/

namespace Text

/-- The first of some lines, joined, begin all of them joined. -/
theorem unlines_prefix {ls ls' : List Text} (h : ls <+: ls') : unlines ls <+: unlines ls' := by
  obtain ⟨rest, rfl⟩ := h
  induction ls with
  | nil => exact List.nil_prefix
  | cons l ls ih =>
    cases ls with
    | nil =>
      cases rest with
      | nil => exact List.prefix_rfl
      | cons r rest => exact ⟨_, rfl⟩
    | cons l' ls =>
      rw [List.cons_append, List.cons_append, unlines_cons_cons, unlines_cons_cons,
        List.prefix_append_right_inj, List.cons_prefix_cons]
      exact ⟨rfl, ih⟩

end Text

/-- What is dropped at the end of a list may only stay if the list goes on. -/
theorem rdropWhile_mono {α : Type} (p : α → Bool) {as bs : List α}
    (h : as <+: bs) : as.rdropWhile p <+: bs.rdropWhile p := by
  obtain ⟨rest, rfl⟩ := h
  induction rest using List.reverseRecOn with
  | nil => exact ⟨[], by rw [List.append_nil, List.append_nil]⟩
  | append_singleton rest b ih =>
    rw [← List.append_assoc, List.rdropWhile_concat]
    split
    · exact ih
    · exact (List.rdropWhile_prefix p as).trans ((List.prefix_append as rest).trans
        (List.prefix_append _ [b]))

namespace Grouping

/-! ### Blocks that grow -/

/-- What the block `b` may become when more lines are read: with code in it only the code goes
on, and without code the prose. -/
structure Block.Grows (b b' : Block) : Prop where
  of_code : b.code ≠ [] → b'.prose = b.prose ∧ b.code <+: b'.code
  of_prose : b.code = [] → b.prose <+: b'.prose

namespace Block.Grows

variable {b b' b'' : Block}

theorem refl (b : Block) : b.Grows b :=
  ⟨fun _ => ⟨rfl, List.prefix_rfl⟩, fun _ => List.prefix_rfl⟩

theorem code_ne_nil (h : b.Grows b') (hcode : b.code ≠ []) : b'.code ≠ [] := by
  intro hnil
  have hprefix := (h.of_code hcode).2
  rw [hnil, List.prefix_nil] at hprefix
  exact hcode hprefix

/-- The prose goes on in any case. -/
theorem prose_prefix (h : b.Grows b') : b.prose <+: b'.prose := by
  by_cases hcode : b.code = []
  · exact h.of_prose hcode
  · exact ⟨[], (List.append_nil _).trans (h.of_code hcode).1.symm⟩

theorem trans (h : b.Grows b') (h' : b'.Grows b'') : b.Grows b'' := by
  constructor
  · intro hcode
    obtain ⟨hprose, hprefix⟩ := h.of_code hcode
    obtain ⟨hprose', hprefix'⟩ := h'.of_code (h.code_ne_nil hcode)
    exact ⟨hprose'.trans hprose, hprefix.trans hprefix'⟩
  · intro _
    exact h.prose_prefix.trans h'.prose_prefix

/-- A block with something in it does not become empty. -/
theorem not_empty (h : b.Grows b') (hne : ¬(b.prose = [] ∧ b.code = [])) :
    ¬(b'.prose = [] ∧ b'.code = []) := by
  rintro ⟨hprose, hcode⟩
  refine hne ⟨?_, ?_⟩
  · simpa [hprose] using h.prose_prefix
  · by_contra hb
    exact h.code_ne_nil hb hcode

/-- The section of a block grows with it. -/
theorem comments_eq (h : b.Grows b') (hcode : b.code ≠ []) :
    b'.toSection.comments = b.toSection.comments := by
  rw [toSection, toSection, (h.of_code hcode).1]

theorem code_prefix (h : b.Grows b') (hcode : b.code ≠ []) :
    b.toSection.code <+: b'.toSection.code :=
  Text.unlines_prefix
    ((rdropWhile_mono Line.isBlank (h.of_code hcode).2).map Line.verbatim)

theorem comments_prefix (h : b.Grows b') : b.toSection.comments <+: b'.toSection.comments := by
  obtain ⟨rest, hrest⟩ := h.prose_prefix
  rw [toSection, toSection, ← hrest, List.flatMap_append]
  exact List.prefix_append _ _

end Block.Grows

/-- Code without lines is empty, and code with lines is not. -/
theorem Block.code_toSection_eq_nil_iff {m : Marker} {b : Block} (h : b.Shaped)
    (hread : ∀ l ∈ b.code, l.IsRead m) : b.toSection.code = [] ↔ b.code = [] := by
  constructor
  · intro hnil
    by_contra hcode
    exact Block.code_ne_nil h hread hcode hnil
  · intro hcode
    rw [toSection, hcode]
    rfl

/-! ### Reading on -/

namespace Progress

variable {p : Progress} {l : Line} {ls : List Line}

/-- A line that does not close the block being read lets it grow. -/
theorem grows_take (h : l.isComment = true → p.current.code = []) :
    p.current.Grows (p.take l).current := by
  cases l with
  | comment t =>
    rw [take, if_pos (h rfl)]
    refine ⟨fun hcode => absurd (h rfl) hcode, fun _ => ?_⟩
    rw [List.append_assoc]
    exact List.prefix_append _ _
  | blank t =>
    rw [take]
    split
    · next hcode => exact ⟨fun hne => absurd hcode hne, fun _ => List.prefix_rfl⟩
    · next hcode =>
      exact ⟨fun _ => ⟨rfl, List.prefix_append _ _⟩, fun hnil => absurd hnil hcode⟩
  | code t =>
    exact ⟨fun _ => ⟨rfl, List.prefix_append _ _⟩, fun _ => List.prefix_rfl⟩

/-- When lines are read, the blocks that are complete stay where they are, and what the block
being read has become comes next. -/
theorem exists_foldl_take : ∀ (ls : List Line) (p : Progress),
    ∃ b more, (ls.foldl take p).closed ++ [(ls.foldl take p).current] = p.closed ++ b :: more ∧
      p.current.Grows b := by
  intro ls
  induction ls with
  | nil => exact fun p => ⟨p.current, [], rfl, .refl _⟩
  | cons l ls ih =>
    intro p
    obtain ⟨b, more, hall, hgrows⟩ := ih (p.take l)
    rw [List.foldl_cons, hall]
    by_cases hcloses : l.isComment = true ∧ p.current.code ≠ []
    · -- the block being read is complete now, and does not grow any more
      refine ⟨p.current, b :: more, ?_, .refl _⟩
      rw [take_of_closes hcloses.1 hcloses.2]
      simp
    · have hadds : l.isComment = true → p.current.code = [] := fun hl => by
        by_contra hcode
        exact hcloses ⟨hl, hcode⟩
      exact ⟨b, more, by rw [closed_take hadds], (grows_take hadds).trans hgrows⟩

theorem run_append (ls ls' : List Line) : run (ls ++ ls') = ls'.foldl take (run ls) :=
  List.foldl_append

theorem closed_eq_nil (h : p.Sound ls) (hempty : p.current.prose = [] ∧ p.current.code = []) :
    p.closed = [] := by
  by_contra hne
  exact h.current_prose hne hempty.1

/-- The blocks after more lines, if there is one that is being read. -/
theorem exists_blocks_run_append
    (hne : ¬((run ls).current.prose = [] ∧ (run ls).current.code = [])) (ls' : List Line) :
    ∃ b more, (run (ls ++ ls')).blocks = (run ls).closed ++ b :: more ∧
      (run ls).current.Grows b := by
  obtain ⟨b, more, hall, hgrows⟩ := exists_foldl_take ls' (run ls)
  rw [← run_append] at hall
  refine ⟨b, more, ?_, hgrows⟩
  rw [blocks, if_neg, hall]
  -- the block being read in the end is either this one or one that has prose
  intro hempty
  rcases List.eq_nil_or_concat' more with rfl | ⟨front, last, rfl⟩
  · obtain ⟨-, hlast⟩ := List.append_inj' hall rfl
    rw [List.singleton_inj.mp hlast] at hempty
    exact hgrows.not_empty hne hempty
  · have hclosed : (run (ls ++ ls')).closed = (run ls).closed ++ b :: front := by
      rw [← List.cons_append, ← List.append_assoc] at hall
      exact (List.append_inj' hall rfl).1
    have hnil := closed_eq_nil (sound_run _) hempty
    rw [hclosed] at hnil
    simp at hnil

/-- Blocks that are read after the complete blocks `bs`. -/
def after (bs : List Block) (p : Progress) : Progress := ⟨bs ++ p.closed, p.current⟩

theorem take_after (bs : List Block) (p : Progress) (l : Line) :
    (p.after bs).take l = (p.take l).after bs := by
  cases l with
  | comment t =>
    rw [take, take]
    by_cases hcode : p.current.code = [] <;> simp [after, hcode]
  | blank t =>
    rw [take, take]
    by_cases hcode : p.current.code = [] <;> simp [after, hcode]
  | code t => rfl

theorem foldl_take_after (bs : List Block) : ∀ (ls : List Line) (p : Progress),
    ls.foldl take (p.after bs) = (ls.foldl take p).after bs := by
  intro ls
  induction ls with
  | nil => exact fun _ => rfl
  | cons l ls ih =>
    intro p
    rw [List.foldl_cons, List.foldl_cons, take_after, ih]

theorem blocks_after (bs : List Block) (p : Progress) : (p.after bs).blocks = bs ++ p.blocks := by
  rw [blocks, blocks, after]
  dsimp only
  split
  · rfl
  · rw [List.append_assoc]

/-- A comment line after code is read as if nothing stood before it. -/
theorem blocks_foldl_take_of_code (hcode : p.current.code ≠ []) (hl : l.isComment = true)
    (ls : List Line) : ((l :: ls).foldl take p).blocks =
      p.closed ++ [p.current] ++ (run (l :: ls)).blocks := by
  have hfirst : p.take l = (take {} l).after (p.closed ++ [p.current]) := by
    rw [take_of_closes hl hcode]
    obtain ⟨t, rfl⟩ := Line.exists_eq_comment hl
    simp [take, after]
  rw [List.foldl_cons, hfirst, foldl_take_after, blocks_after, run, List.foldl_cons]

end Progress

/-- The lines of a source that goes on after a line end. -/
theorem linesOf_append_newline (m : Marker) (a b : Text) :
    linesOf m (a ++ '\n' :: b) = linesOf m a ++ linesOf m b := by
  simp only [linesOf_eq_map, sourceLines, Text.lines_append_newline, List.map_append]

/-- The lines of a text whose first line is a comment line begin with one. -/
theorem exists_linesOf_eq_cons {m : Marker} {b : Text}
    (h : ((sourceLines b).head?.bind m.strip).isSome = true) :
    ∃ l ls, linesOf m b = l :: ls ∧ l.isComment = true := by
  cases hlines : sourceLines b with
  | nil => simp [hlines] at h
  | cons line rest =>
    obtain ⟨t, ht⟩ := Option.isSome_iff_exists.mp (by simpa [hlines] using h)
    refine ⟨Line.classify m line, rest.map (Line.classify m), ?_, ?_⟩
    · rw [linesOf_eq_map, hlines, List.map_cons]
    · rw [Line.classify, ht]
      rfl

end Grouping

section

open Grouping

/-- **The sections of a source that goes on.**  When a source goes on after a line end, its
sections stay as they are but for the last one.  If that has code, its comments stay and its
code goes on; if it has none, its comments go on.  If it has code and a comment line comes
next, it stays too, and the sections of the rest follow. -/
theorem sectionsOf_append_newline (m : Marker) (a b : Text) :
    (∀ i, i + 1 < (sectionsOf m a).length →
      (sectionsOf m (a ++ '\n' :: b))[i]? = (sectionsOf m a)[i]?) ∧
    (∀ s, (sectionsOf m a).getLast? = some s →
      ∃ s', (sectionsOf m (a ++ '\n' :: b))[(sectionsOf m a).length - 1]? = some s' ∧
        (s.code ≠ [] → s'.comments = s.comments ∧ s.code <+: s'.code) ∧
        (s.code = [] → s.comments <+: s'.comments)) ∧
    (∀ s, (sectionsOf m a).getLast? = some s → s.code ≠ [] →
      ((sourceLines b).head?.bind m.strip).isSome = true →
        sectionsOf m (a ++ '\n' :: b) = sectionsOf m a ++ sectionsOf m b) := by
  have hsound := Progress.sound_run (linesOf m a)
  rw [sectionsOf_eq_map_toSection, sectionsOf_eq_map_toSection, linesOf_append_newline]
  by_cases hempty : (Progress.run (linesOf m a)).current.prose = [] ∧
      (Progress.run (linesOf m a)).current.code = []
  · -- nothing but blank lines so far, so that there are no sections
    have hnil : (Progress.run (linesOf m a)).blocks = [] := by
      rw [Progress.blocks, if_pos hempty, Progress.closed_eq_nil hsound hempty]
    simp [hnil]
  · have hblocks : (Progress.run (linesOf m a)).blocks =
        (Progress.run (linesOf m a)).closed ++ [(Progress.run (linesOf m a)).current] := by
      rw [Progress.blocks, if_neg hempty]
    have hcode : (Progress.run (linesOf m a)).current.toSection.code = [] ↔
        (Progress.run (linesOf m a)).current.code = [] :=
      Block.code_toSection_eq_nil_iff hsound.current_shaped fun l hl =>
        isRead_of_mem_linesOf l (hsound.current_mem hl)
    obtain ⟨block, more, hmore, hgrows⟩ := Progress.exists_blocks_run_append hempty (linesOf m b)
    rw [hblocks, hmore]
    refine ⟨?_, ?_, ?_⟩
    · intro i hi
      have hlt : i < ((Progress.run (linesOf m a)).closed.map Block.toSection).length := by
        simpa using hi
      rw [List.map_append, List.map_append, List.getElem?_append_left hlt,
        List.getElem?_append_left hlt]
    · intro s hs
      obtain rfl : (Progress.run (linesOf m a)).current.toSection = s := by simpa using hs
      refine ⟨block.toSection, by simp, ?_, ?_⟩
      · intro hne
        have hne' := mt hcode.mpr hne
        exact ⟨hgrows.comments_eq hne', hgrows.code_prefix hne'⟩
      · exact fun _ => hgrows.comments_prefix
    · intro s hs hne hfirst
      obtain rfl : (Progress.run (linesOf m a)).current.toSection = s := by simpa using hs
      obtain ⟨l, ls, hlines, hcomment⟩ := exists_linesOf_eq_cons hfirst
      rw [← hmore, sectionsOf_eq_map_toSection, Progress.run_append, hlines,
        Progress.blocks_foldl_take_of_code (mt hcode.mpr hne) hcomment, List.map_append]

end

/-- Code that goes on after the source, and a comment line that follows code. -/
theorem sectionsOf_append_newline_slashes :
    (sectionsOf Marker.slashes ("// a\nb\n\n// c\nd".toList ++ '\n' :: " e\n\n// f".toList))[0]? =
        (sectionsOf Marker.slashes "// a\nb\n\n// c\nd".toList)[0]? ∧
      (∃ s', (sectionsOf Marker.slashes
            ("// a\nb\n\n// c\nd".toList ++ '\n' :: " e\n\n// f".toList))[1]? = some s' ∧
          s'.comments = "c\n".toList ∧ "d".toList <+: s'.code) ∧
      sectionsOf Marker.slashes ("// a\nb\n".toList ++ '\n' :: " // c\r\n\n// d".toList) =
        sectionsOf Marker.slashes "// a\nb\n".toList ++
          sectionsOf Marker.slashes " // c\r\n\n// d".toList := by
  have hmore := sectionsOf_append_newline Marker.slashes "// a\nb\n\n// c\nd".toList
    " e\n\n// f".toList
  have hcomment := sectionsOf_append_newline Marker.slashes "// a\nb\n".toList
    " // c\r\n\n// d".toList
  refine ⟨hmore.1 0 (by decide), ?_, ?_⟩
  · obtain ⟨s', hs', hcode, -⟩ := hmore.2.1 ⟨"c\n".toList, "d".toList⟩ (by decide)
    exact ⟨s', hs', hcode (by decide)⟩
  · exact hcomment.2.2 ⟨"a\n".toList, "b".toList⟩ (by decide) (by decide) (by decide)

end Marginalia
