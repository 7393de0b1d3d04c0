import Marginalia.Proofs.SectionForm

/-!
# What holds of a scan at any time

Where a blank line belongs is decided only by the next line that is not blank, and a section
is closed only when the next block begins.  Nothing is lost or taken twice in between: what has
been collected of the current block has just as many newlines as lines of it have been read.

These facts cannot be carried from line to line by themselves: the texts of a scan no longer say
whether a code line or a comment line was read last.  The blocks that a scan stands for do, and
what holds of them after each line (`Grouping.Progress.Sound.take`) is carried over to the scan.

## Main definitions

* `Text.Ended` — a text that is empty or ends with a newline.
* `Grouping.newStarts`, `Grouping.lastStart` — where blocks begin after the first one, and where
  the current block began.
* `Scan.BeginsWithCode` — empty lines and then a line of code.
* `Scan.Invariant` — what holds of a scan that has read some lines.

## Main results

* `Grouping.Progress.current_run` — the current block consists of the lines since it began.
* `Grouping.Progress.newlines_scan` — each line of the current block has been collected once.
* `Grouping.Progress.Sound.invariant` — what holds of a scan, from what holds of the blocks.
* `Scan.invariant_run` — **what holds of a scan after any number of lines.**
-/

namespace Marginalia

/-! ### Texts of ended lines -/

namespace Text

/-- A text that is empty or ends with a newline. -/
def Ended (t : Text) : Prop := ∀ c ∈ t.getLast?, c = '\n'

theorem ended_endLines (ls : List Text) : Ended (endLines ls) := by
  rcases List.eq_nil_or_concat' ls with rfl | ⟨front, l, rfl⟩
  · simp [Ended]
  · simp [Ended]

theorem count_endLines {ls : List Text} (h : ∀ l ∈ ls, '\n' ∉ l) :
    (endLines ls).count '\n' = ls.length := by
  induction ls with
  | nil => rfl
  | cons l ls ih =>
    have hl : l.count '\n' = 0 := List.count_eq_zero.mpr (h l (by simp))
    rw [endLines_cons, List.count_append, hl, List.count_cons_self,
      ih fun k hk => h k (by simp [hk]), Nat.zero_add, List.length_cons]

/-- Empty lines are a run of newlines. -/
theorem endLines_empty {α : Type} (as : List α) :
    endLines (as.map fun _ => []) = List.replicate as.length '\n' := by
  induction as with
  | nil => rfl
  | cons a as ih => rw [List.map_cons, endLines_cons, ih]; rfl

end Text

namespace Grouping

/-! ### The current block -/

/-- The lines at which a new block begins. -/
def newStarts (ls : List Line) : List Nat := (List.range ls.length).filter (beginsAt ls)

/-- The line at which the current block began: the last one at which a new block begins, and
the first line if there is none. -/
def lastStart (ls : List Line) : Nat := (newStarts ls).getLastD 0

variable {ls : List Line} {l : Line}

/-- A comment line after code begins a new block. -/
theorem newStarts_concat_start (hl : l.isComment = true)
    (hlast : (lastSolid? ls).any Line.isCode = true) :
    newStarts (ls ++ [l]) = newStarts ls ++ [ls.length] := by
  rw [newStarts, filter_beginsAt_concat, hl, hlast, Bool.and_self, if_pos rfl, newStarts]

/-- Any other line goes on with the current block. -/
theorem newStarts_concat_extend (h : (l.isComment && (lastSolid? ls).any Line.isCode) = false) :
    newStarts (ls ++ [l]) = newStarts ls := by
  rw [newStarts, filter_beginsAt_concat, h, if_neg Bool.false_ne_true, List.append_nil, newStarts]

theorem lastStart_le_length (ls : List Line) : lastStart ls ≤ ls.length := by
  rcases List.eq_nil_or_concat' (newStarts ls) with h | ⟨front, i, h⟩
  · rw [lastStart, h]
    exact Nat.zero_le _
  · have hmem : i ∈ newStarts ls := by simp [h]
    rw [lastStart, h, List.getLastD_concat]
    exact (List.mem_range.mp (List.mem_filter.mp hmem).1).le

namespace Progress

variable {p : Progress} {m : Marker}

/-- The current block consists of the lines read since it began, and a block has been closed
for each new one that has begun. -/
theorem current_run (ls : List Line) :
    (run ls).current.lines = ls.drop (lastStart ls) ∧
      (run ls).closed.length = (newStarts ls).length := by
  induction ls using List.reverseRecOn with
  | nil => exact ⟨rfl, rfl⟩
  | append_singleton ls l ih =>
    obtain ⟨hlines, hclosed⟩ := ih
    have hsound := sound_run ls
    rw [run_concat]
    rcases (run ls).closes_or_adds l with ⟨hl, hcode⟩ | hl
    · have hstart := newStarts_concat_start hl (hsound.lastSolid?_of_code hcode)
      rw [take_of_closes hl hcode, lastStart, hstart, List.getLastD_concat, List.drop_left]
      exact ⟨rfl, by rw [List.length_append, hclosed, List.length_append]; rfl⟩
    · have hextend := newStarts_concat_extend (hsound.not_begins hl)
      have hstart : lastStart (ls ++ [l]) = lastStart ls := by rw [lastStart, hextend, lastStart]
      rw [lines_current_take hl, closed_take hl, hlines, hstart, hextend,
        List.drop_append_of_le_length (lastStart_le_length ls)]
      exact ⟨rfl, hclosed⟩

/-- The second comment begins a block, and the blank line before it belongs to the first. -/
example : lastStart (linesOf Marker.slashes "\n// a\nx\n\n// b\n\n".toList) = 4 := by decide

end Progress

end Grouping

/-! ### The invariant -/

namespace Scan

/-- Empty lines and then a line of code: one that is neither blank nor a comment line. -/
def BeginsWithCode (m : Marker) (t : Text) : Prop :=
  ∃ n line rest, t = List.replicate n '\n' ++ line ++ '\n' :: rest ∧
    '\n' ∉ line ∧ Text.isBlank line = false ∧ m.strip line = none

/-- What holds of a scan that has read the lines `ls`. -/
structure Invariant (m : Marker) (ls : List Line) (s : Scan) : Prop where
  /-- Nothing but newlines is held back. -/
  pending_newlines : ∀ c ∈ s.pending, c = '\n'
  /-- Nothing is held back once there is code. -/
  pending_before_code : s.pending ≠ [] → s.code = []
  comments_ended : Text.Ended s.comments
  code_ended : Text.Ended s.code
  code_begins : s.code ≠ [] → BeginsWithCode m s.code
  /-- There is no comment line in the code. -/
  code_lines : ∀ l ∈ Text.lines s.code, m.strip l = none
  closed_code : ∀ c ∈ s.closed, c.code ≠ []
  /-- Only the first section may lack comments. -/
  closed_comments : ∀ c ∈ s.closed.tail, c.comments ≠ []
  /-- A section is closed only for a comment line, with which the current comments begin. -/
  comments_ne_nil : s.closed ≠ [] → s.comments ≠ []
  /-- There is a section for each block before the current one. -/
  closed_length : s.closed.length = (Grouping.newStarts ls).length
  /-- Each line of the current block has been collected once. -/
  newlines : s.comments.count '\n' + s.code.count '\n' + s.pending.count '\n' =
    ls.length - Grouping.lastStart ls

end Scan

namespace Grouping

/-! ### What has been collected of the current block -/

namespace Block

variable {b : Block} {m : Marker}

/-- The texts that are collected for the code of a block, line by line: those of the blank lines
held back are empty.  Without a code line there are none. -/
def codeTexts (b : Block) : List Text :=
  if b.code = [] then [] else (b.gap.map fun _ => []) ++ b.code.map Line.verbatim

theorem codeTexts_of_nil (h : b.code = []) : b.codeTexts = [] := if_pos h

theorem codeTexts_of_ne_nil (h : b.code ≠ []) :
    b.codeTexts = (b.gap.map fun _ => []) ++ b.code.map Line.verbatim := if_neg h

/-- The texts of the code have no newlines in them and are no comment lines. -/
theorem facts_codeTexts (h : b.Shaped) (hread : ∀ l ∈ b.code, l.IsRead m) :
    ∀ t ∈ b.codeTexts, '\n' ∉ t ∧ m.strip t = none := by
  intro t ht
  rw [codeTexts] at ht
  split at ht
  · simp at ht
  · rcases List.mem_append.mp ht with ht | ht
    · obtain ⟨_, _, rfl⟩ := List.mem_map.mp ht
      exact ⟨List.not_mem_nil, m.strip_nil⟩
    · obtain ⟨l, hl, rfl⟩ := List.mem_map.mp ht
      exact ⟨(hread l hl).notMem_verbatim, (hread l hl).strip_verbatim (h.code_not_comment l hl)⟩

end Block

namespace Progress

variable {p : Progress} {m : Marker}

theorem comments_scan (h : p.current.Shaped) :
    p.scan.comments = Text.endLines (p.current.prose.map Block.proseText) :=
  Block.comments_toSection h

theorem code_scan (h : p.current.Shaped) : p.scan.code = Text.endLines p.current.codeTexts := by
  rw [scan, Block.codeTexts]
  split
  · rfl
  · rw [Block.flatMap_prose_gap h, ← Text.endLines_append]

theorem pending_scan (h : p.current.Shaped) :
    p.scan.pending =
      if p.current.code = [] then List.replicate p.current.gap.length '\n' else [] := by
  rw [scan, Block.flatMap_prose_gap h, Text.endLines_empty]

/-- Each line of the current block has been collected once. -/
theorem newlines_scan (h : p.current.Shaped) (hread : ∀ l ∈ p.current.lines, l.IsRead m) :
    p.scan.comments.count '\n' + p.scan.code.count '\n' + p.scan.pending.count '\n' =
      p.current.lines.length := by
  have hprose : ∀ l ∈ p.current.prose, l.IsRead m := fun l hl => hread l (by simp [Block.lines, hl])
  have hcode : ∀ l ∈ p.current.code, l.IsRead m := fun l hl => hread l (by simp [Block.lines, hl])
  have hcomments : p.scan.comments.count '\n' = p.current.prose.length := by
    rw [comments_scan h, Text.count_endLines, List.length_map]
    intro t ht
    obtain ⟨l, hl, rfl⟩ := List.mem_map.mp ht
    exact (Block.facts_proseText (hprose l hl)).1
  have htexts : p.scan.code.count '\n' = p.current.codeTexts.length := by
    rw [code_scan h, Text.count_endLines fun t ht => (Block.facts_codeTexts h hcode t ht).1]
  rw [hcomments, htexts, pending_scan h, Block.lines]
  -- the blank lines between prose and code are either held back or in the code
  by_cases hnil : p.current.code = []
  · simp [Block.codeTexts_of_nil hnil, hnil]
  · simp [Block.codeTexts_of_ne_nil hnil, hnil]

/-- The code begins with the blank lines that were held back and the first code line. -/
theorem beginsWithCode_scan (h : p.current.Shaped) (hread : ∀ l ∈ p.current.code, l.IsRead m)
    (hcode : p.scan.code ≠ []) : Scan.BeginsWithCode m p.scan.code := by
  have hne : p.current.code ≠ [] := by
    intro hnil
    rw [code_scan h, Block.codeTexts_of_nil hnil] at hcode
    exact hcode rfl
  obtain ⟨l, rest, hlines⟩ := List.exists_cons_of_ne_nil hne
  obtain ⟨t, rfl⟩ := Line.exists_eq_code (h.code_first l (by rw [hlines]; rfl))
  obtain ⟨hnewline, hstrip, hblank⟩ := (hread (.code t) (by simp [hlines])).of_not_comment rfl
  refine ⟨p.current.gap.length, t, Text.endLines (rest.map Line.verbatim), ?_, hnewline, hblank,
    hstrip⟩
  rw [code_scan h, Block.codeTexts_of_ne_nil hne, hlines, Text.endLines_append,
    Text.endLines_empty, List.map_cons, Text.endLines_cons, List.append_assoc]
  rfl

end Progress

namespace Progress.Sound

variable {p : Progress} {ls : List Line} {m : Marker}

/-- What holds of a scan, from what holds of the blocks that it stands for. -/
theorem invariant (h : p.Sound ls) (hread : ∀ l ∈ ls, l.IsRead m)
    (hlines : p.current.lines = ls.drop (lastStart ls))
    (hlength : p.closed.length = (newStarts ls).length) : p.scan.Invariant m ls := by
  have hshaped := h.current_shaped
  have hcurrent : ∀ l ∈ p.current.lines, l.IsRead m := fun l hl =>
    hread l (List.mem_of_mem_drop (hlines ▸ hl))
  have hcode : ∀ l ∈ p.current.code, l.IsRead m := fun l hl => hread l (h.current_mem hl)
  have htexts := Block.facts_codeTexts hshaped hcode
  constructor
  case pending_newlines =>
    intro c hc
    rw [pending_scan hshaped] at hc
    split at hc
    · exact (List.mem_replicate.mp hc).2
    · simp at hc
  case pending_before_code =>
    intro hpending
    rw [pending_scan hshaped] at hpending
    split at hpending
    · next hnil => rw [code_scan hshaped, Block.codeTexts_of_nil hnil, Text.endLines_nil]
    · exact absurd rfl hpending
  case comments_ended =>
    rw [comments_scan hshaped]
    exact Text.ended_endLines _
  case code_ended =>
    rw [code_scan hshaped]
    exact Text.ended_endLines _
  case code_begins => exact beginsWithCode_scan hshaped hcode
  case code_lines =>
    rw [code_scan hshaped, Text.lines_endLines fun t ht => (htexts t ht).1]
    refine List.forall_mem_append.mpr ⟨fun t ht => (htexts t ht).2, ?_⟩
    exact List.forall_mem_singleton.mpr m.strip_nil
  case closed_code =>
    intro s hs
    obtain ⟨b, hb, rfl⟩ := List.mem_map.mp hs
    have hclosed : ∀ l ∈ b.code, l.IsRead m := by
      intro l hl
      refine hread l ?_
      rw [h.lines, List.mem_append, List.mem_flatMap]
      exact Or.inl ⟨b, hb, by simp [Block.lines, hl]⟩
    exact Block.code_ne_nil (h.closed_shaped b hb) hclosed (h.closed_code b hb)
  case closed_comments =>
    intro s hs
    rw [scan, ← List.map_tail] at hs
    obtain ⟨b, hb, rfl⟩ := List.mem_map.mp hs
    exact Block.comments_ne_nil (h.closed_shaped b (List.mem_of_mem_tail hb)) (h.closed_prose b hb)
  case comments_ne_nil =>
    intro hclosed
    exact Block.comments_ne_nil hshaped (h.current_prose (by simpa [scan] using hclosed))
  case closed_length => rw [scan, List.length_map, hlength]
  case newlines => rw [newlines_scan hshaped hcurrent, hlines, List.length_drop]

end Progress.Sound
end Grouping

namespace Scan

open Grouping

/-- **What holds of a scan after any number of lines.**  Only newlines are held back, and only
while there is no code.  The comments and the code consist of whole lines; the code begins with
a line of code, apart from empty lines, and has no comment line in it.  Each section that has
been closed has code, each but the first has comments, and after it there are comments again.
The newlines in all that has been collected are as many as the lines since the current block
began. -/
theorem invariant_run (m : Marker) (source : Text) (n : Nat) :
    (run m start ((sourceLines source).take n)).Invariant m ((linesOf m source).take n) := by
  have hnewline : ∀ l ∈ (sourceLines source).take n, '\n' ∉ l := fun l hl =>
    notMem_of_mem_sourceLines l (List.mem_of_mem_take hl)
  have hread : ∀ l ∈ (linesOf m source).take n, l.IsRead m := fun l hl =>
    isRead_of_mem_linesOf l (List.mem_of_mem_take hl)
  obtain ⟨hlines, hlength⟩ := Progress.current_run ((linesOf m source).take n)
  rw [Progress.scan_run_classify hnewline, List.map_take, ← linesOf_eq_map]
  exact (Progress.sound_run _).invariant hread hlines hlength

end Scan
end Marginalia
