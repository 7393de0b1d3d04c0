import Marginalia.Proofs.Grouping

/-!
# What the scanner has read

The scanner keeps texts, and the texts no longer say which lines they come from.  Here the
lines are kept instead: the blocks that are complete and the one being read, each as its
prose, the blank lines held back after that, and its code.  Each state of this kind stands
for a state of the scanner, and both take the next line in the same way.

## Main definitions

* `Grouping.Block`, `Grouping.Block.Shaped` — the lines of a block by what they become.
* `Grouping.Progress`, `Grouping.Progress.take` — the blocks read so far.
* `Grouping.Progress.scan` — the state of the scanner that they stand for.
* `Grouping.Progress.Sound` — what holds of them after the lines `ls`.

## Main results

* `Grouping.scan_take` — the scanner takes a line as the blocks do.
* `Grouping.Sound.take` — what holds of the blocks goes on to hold.
* `Grouping.sectionsOf_eq_map_section` — the sections of a source, from its blocks.
* `Grouping.sectionsOf_eq_map_blocks` — **the sections of a source are those of its blocks.**
-/

namespace Marginalia
namespace Grouping

/-! ### Blocks -/

/-- The lines of a block by what they become. -/
structure Block where
  /-- The lines up to the last comment line. -/
  prose : List Line := []
  /-- The blank lines between prose and code. -/
  gap : List Line := []
  /-- The lines from the first code line on. -/
  code : List Line := []

namespace Block

/-- The lines of a block. -/
def lines (b : Block) : List Line := b.prose ++ b.gap ++ b.code

/-- The section that a block makes. -/
def toSection (b : Block) : Section :=
  ⟨b.prose.flatMap Line.prose,
    Text.unlines ((b.code.rdropWhile Line.isBlank).map Line.verbatim)⟩

/-- No code stands in the prose, which ends with a comment; nothing but blank lines follows
it; no comment stands in the code, which begins with a code line. -/
structure Shaped (b : Block) : Prop where
  prose_not_code : ∀ l ∈ b.prose, l.isCode = false
  prose_last : ∀ l, b.prose.getLast? = some l → l.isComment = true
  gap_blank : ∀ l ∈ b.gap, l.isBlank = true
  code_first : ∀ l, b.code.head? = some l → l.isCode = true
  code_not_comment : ∀ l ∈ b.code, l.isComment = false

theorem shaped_empty : ({} : Block).Shaped := by
  constructor <;> simp

namespace Shaped

variable {b : Block}

theorem proseLines_lines (h : b.Shaped) : proseLines b.lines = b.prose := by
  rw [lines, List.append_assoc, proseLines_append h.prose_last]
  intro l hl
  rcases List.mem_append.mp hl with hl | hl
  · obtain ⟨t, rfl⟩ := Line.exists_eq_blank (h.gap_blank l hl)
    rfl
  · exact h.code_not_comment l hl

theorem codeLines_lines (h : b.Shaped) : codeLines b.lines = b.code.rdropWhile Line.isBlank := by
  rw [lines, codeLines_append _ h.code_first]
  intro l hl
  rcases List.mem_append.mp hl with hl | hl
  · exact h.prose_not_code l hl
  · obtain ⟨t, rfl⟩ := Line.exists_eq_blank (h.gap_blank l hl)
    rfl

theorem sectionOf_lines (h : b.Shaped) : sectionOf b.lines = b.toSection := by
  rw [sectionOf, h.proseLines_lines, h.codeLines_lines, toSection]

end Shaped
end Block

/-! ### Progress -/

/-- The blocks that are complete and the one being read. -/
structure Progress where
  /-- The blocks that are complete. -/
  closed : List Block := []
  /-- The block being read; there is none if it has neither prose nor code. -/
  current : Block := {}

namespace Progress

/-- The blocks if nothing follows. -/
def blocks (p : Progress) : List Block :=
  if p.current.prose = [] ∧ p.current.code = [] then p.closed else p.closed ++ [p.current]

/-- Take a line. -/
def take (p : Progress) : Line → Progress
  | .comment t =>
    if p.current.code = [] then
      { p with current := ⟨p.current.prose ++ p.current.gap ++ [.comment t], [], []⟩ }
    else ⟨p.closed ++ [p.current], ⟨[.comment t], [], []⟩⟩
  | .blank l =>
    if p.current.code = [] then
      { p with current := { p.current with gap := p.current.gap ++ [.blank l] } }
    else { p with current := { p.current with code := p.current.code ++ [.blank l] } }
  | .code l => { p with current := { p.current with code := p.current.code ++ [.code l] } }

/-- The state of the scanner that has read as much. -/
def scan (p : Progress) : Scan where
  closed := p.closed.map Block.toSection
  comments := p.current.prose.flatMap Line.prose
  code :=
    if p.current.code = [] then []
    else p.current.gap.flatMap Line.prose ++ Text.endLines (p.current.code.map Line.verbatim)
  pending := if p.current.code = [] then p.current.gap.flatMap Line.prose else []

/-- What holds when the lines `ls` have been read. -/
structure Sound (p : Progress) (ls : List Line) : Prop where
  lines : ls = p.closed.flatMap Block.lines ++ p.current.lines
  blocks : Grouping.blocks ls = p.blocks.map Block.lines
  closed_shaped : ∀ b ∈ p.closed, b.Shaped
  closed_code : ∀ b ∈ p.closed, b.code ≠ []
  closed_prose : ∀ b ∈ p.closed.tail, b.prose ≠ []
  current_shaped : p.current.Shaped
  current_prose : p.closed ≠ [] → p.current.prose ≠ []

theorem sound_nil : ({} : Progress).Sound [] := by
  constructor
  case blocks => exact blocks_of_all rfl
  case current_shaped => exact Block.shaped_empty
  all_goals simp [Block.lines]

end Progress

namespace Progress.Sound

variable {p : Progress} {ls : List Line}

/-- Only blank lines have been read as long as the block being read has no prose and no
code. -/
theorem all_isBlank_eq_true_iff (h : p.Sound ls) :
    ls.all Line.isBlank = true ↔ p.current.prose = [] ∧ p.current.code = [] := by
  constructor
  · intro hall
    rw [h.lines, List.all_append, Bool.and_eq_true] at hall
    simp only [Block.lines, List.all_append, Bool.and_eq_true, List.all_eq_true] at hall
    obtain ⟨-, ⟨hprose, -⟩, hcode⟩ := hall
    -- prose ends with a comment line and code begins with a code line
    constructor
    · by_contra hne
      have hlast := h.current_shaped.prose_last _ (List.getLast?_eq_getLast_of_ne_nil hne)
      obtain ⟨t, ht⟩ := Line.exists_eq_comment hlast
      simpa [ht] using hprose _ (List.getLast_mem hne)
    · by_contra hne
      have hfirst := h.current_shaped.code_first _ (List.head?_eq_some_head hne)
      obtain ⟨t, ht⟩ := Line.exists_eq_code hfirst
      simpa [ht] using hcode _ (List.head_mem hne)
  · rintro ⟨hprose, hcode⟩
    have hclosed : p.closed = [] := by
      by_contra hne
      exact h.current_prose hne hprose
    rw [h.lines, hclosed, Block.lines, hprose, hcode]
    simpa using h.current_shaped.gap_blank

theorem all_isBlank_of_ne (h : p.Sound ls)
    (hne : ¬(p.current.prose = [] ∧ p.current.code = [])) : ls.all Line.isBlank = false := by
  rw [Bool.eq_false_iff]
  exact fun hall => hne (h.all_isBlank_eq_true_iff.mp hall)

/-- The last line that is not blank is a code line as soon as there is code. -/
theorem lastSolid?_of_code (h : p.Sound ls) (hcode : p.current.code ≠ []) :
    (lastSolid? ls).any Line.isCode = true := by
  have hfound : (lastSolid? p.current.code).isSome = true := by
    rw [lastSolid?, List.find?_isSome]
    refine ⟨p.current.code.head hcode, List.mem_reverse.mpr (List.head_mem hcode), ?_⟩
    have hfirst := h.current_shaped.code_first _ (List.head?_eq_some_head hcode)
    obtain ⟨t, ht⟩ := Line.exists_eq_code hfirst
    simp [ht]
  obtain ⟨l, hl⟩ := Option.isSome_iff_exists.mp hfound
  have hsolid : l.isBlank = false := by simpa using List.find?_some hl
  have hmem : l ∈ p.current.code := List.mem_reverse.mp (List.mem_of_find?_eq_some hl)
  rw [h.lines, Block.lines, ← List.append_assoc, lastSolid?_append, hl]
  exact Line.isCode_of_not (h.current_shaped.code_not_comment l hmem) hsolid

/-- Before there is code the last line that is not blank is a comment line. -/
theorem lastSolid?_of_prose (h : p.Sound ls) (hcode : p.current.code = []) :
    (lastSolid? ls).any Line.isCode = false := by
  have hgap : lastSolid? p.current.gap = none :=
    lastSolid?_of_all (List.all_eq_true.mpr h.current_shaped.gap_blank)
  rw [h.lines, Block.lines, hcode, List.append_nil, ← List.append_assoc, lastSolid?_append, hgap,
    Option.none_or, lastSolid?_append]
  rcases List.eq_nil_or_concat' p.current.prose with hprose | ⟨front, l, hprose⟩
  · have hclosed : p.closed = [] := by
      by_contra hne
      exact h.current_prose hne hprose
    rw [hprose, hclosed]
    rfl
  · have hl : l.isComment = true := h.current_shaped.prose_last l (by simp [hprose])
    obtain ⟨t, rfl⟩ := Line.exists_eq_comment hl
    rw [hprose]
    simp [lastSolid?]

/-- Unless it is a comment line after code, the next line begins no block. -/
theorem not_begins (h : p.Sound ls) {l : Line} (hl : l.isComment = true → p.current.code = []) :
    (l.isComment && (lastSolid? ls).any Line.isCode) = false := by
  cases hc : l.isComment with
  | true => rw [h.lastSolid?_of_prose (hl hc)]; rfl
  | false => rfl

theorem current_mem {l : Line} (h : p.Sound ls) (hl : l ∈ p.current.code) : l ∈ ls := by
  rw [h.lines, Block.lines]
  simp [hl]

theorem blocks_shaped (h : p.Sound ls) : ∀ b ∈ p.blocks, b.Shaped := by
  intro b hb
  rw [Progress.blocks] at hb
  split at hb
  · exact h.closed_shaped b hb
  · rcases List.mem_append.mp hb with hb | hb
    · exact h.closed_shaped b hb
    · rw [List.mem_singleton.mp hb]
      exact h.current_shaped

end Progress.Sound

/-! ### Taking a line -/

namespace Block

variable {b : Block} {m : Marker}

/-- The lines held back count as empty ones. -/
theorem flatMap_prose_gap (h : b.Shaped) :
    b.gap.flatMap Line.prose = Text.endLines (b.gap.map fun _ => []) := by
  have hgap := h.gap_blank
  generalize b.gap = gap at hgap
  induction gap with
  | nil => rfl
  | cons l gap ih =>
    obtain ⟨t, rfl⟩ := Line.exists_eq_blank (hgap l (by simp))
    rw [List.flatMap_cons, Line.prose, ih fun k hk => hgap k (by simp [hk]), List.map_cons,
      Text.endLines_cons]
    rfl

/-- Dropping blank lines from the end, before or after the lines are taken verbatim. -/
theorem rdropWhile_verbatim {code : List Line} (hread : ∀ l ∈ code, l.IsRead m)
    (hcode : ∀ l ∈ code, l.isComment = false) :
    (code.map Line.verbatim).rdropWhile Text.isBlank =
      (code.rdropWhile Line.isBlank).map Line.verbatim := by
  induction code using List.reverseRecOn with
  | nil => rfl
  | append_singleton code l ih =>
    have hl : Text.isBlank l.verbatim = l.isBlank :=
      (hread l (by simp)).isBlank_verbatim (hcode l (by simp))
    rw [List.map_append, List.map_singleton, List.rdropWhile_concat, List.rdropWhile_concat, hl]
    split
    · exact ih (fun k hk => hread k (by simp [hk])) fun k hk => hcode k (by simp [hk])
    · simp

/-- The code that the scanner has collected is trimmed to the code of the section. -/
theorem trim_code (h : b.Shaped) (hread : ∀ l ∈ b.code, l.IsRead m) :
    Code.trim (b.gap.flatMap Line.prose ++ Text.endLines (b.code.map Line.verbatim)) =
      b.toSection.code := by
  -- the newlines that the scanner has kept for the gap are empty lines in front of the code
  have hgap : (b.gap.map fun _ => ([] : Text)).all Text.isBlank = true := by simp
  have hlines : ∀ l ∈ (b.gap.map fun _ => ([] : Text)) ++ b.code.map Line.verbatim, '\n' ∉ l := by
    intro l hl
    rcases List.mem_append.mp hl with hl | hl
    · obtain ⟨_, _, rfl⟩ := List.mem_map.mp hl
      simp
    · obtain ⟨k, hk, rfl⟩ := List.mem_map.mp hl
      exact (hread k hk).notMem_verbatim
  have hfront : (b.code.map Line.verbatim).dropWhile Text.isBlank = b.code.map Line.verbatim := by
    cases hcode : b.code with
    | nil => rfl
    | cons l code =>
      obtain ⟨t, rfl⟩ := Line.exists_eq_code (h.code_first l (by simp [hcode]))
      have hblank : Text.isBlank (Line.code t).verbatim = false :=
        (hread (.code t) (by simp [hcode])).isBlank_verbatim rfl
      simp [hblank]
  rw [flatMap_prose_gap h, ← Text.endLines_append, Code.trim_endLines hlines,
    Code.trimLines_append_of_all hgap, Code.trimLines, hfront,
    rdropWhile_verbatim hread h.code_not_comment, toSection]

end Block

namespace Progress

variable {p : Progress} {ls : List Line} {m : Marker}

/-- Closing the section being built closes the block being read. -/
theorem close_scan (h : p.current.Shaped) (hread : ∀ l ∈ p.current.code, l.IsRead m) :
    p.scan.close.closed = (p.closed ++ [p.current]).map Block.toSection := by
  have hsection : Code.trim p.scan.code = p.current.toSection.code := by
    by_cases hcode : p.current.code = []
    · simp [scan, hcode, Block.toSection]
    · rw [scan, if_neg hcode]
      exact Block.trim_code h hread
  rw [Scan.close, hsection]
  simp [scan, Block.toSection]

theorem isEmpty_code_scan : p.scan.code.isEmpty = p.current.code.isEmpty := by
  cases hcode : p.current.code <;> simp [scan, hcode]

/-- The scanner takes a line as the blocks do. -/
theorem scan_take (h : p.current.Shaped) (hread : ∀ l ∈ p.current.code, l.IsRead m) (l : Line) :
    (p.take l).scan = p.scan.take l := by
  by_cases hcode : p.current.code = []
  · cases l with
    | comment t => simp [take, scan, hcode, Scan.take, Scan.addComment, Line.prose]
    | blank l => simp [take, scan, hcode, Scan.take, Scan.hold, Line.prose]
    | code l => simp [take, scan, hcode, Scan.take, Scan.addCode, Line.verbatim]
  · -- with code in the section no blank lines are held back
    have hempty : p.scan.code.isEmpty = false := by
      rw [isEmpty_code_scan, List.isEmpty_eq_false_iff]
      exact hcode
    have hpending : p.scan.pending = [] := by simp [scan, hcode]
    cases l with
    | comment t =>
      have hclosed := close_scan h hread
      rw [take, if_neg hcode, Scan.take, Scan.addComment, hempty, if_neg Bool.false_ne_true,
        hclosed]
      simp [scan, Scan.close, hcode, Line.prose]
    | blank l =>
      rw [take, if_neg hcode, Scan.take, hempty, if_neg Bool.false_ne_true, Scan.addCode, hpending]
      simp [scan, hcode, Line.verbatim]
    | code l =>
      rw [take, Scan.take, Scan.addCode, hpending]
      simp [scan, hcode, Line.verbatim]

/-- A line closes the block being read or is added to it. -/
theorem closes_or_adds (p : Progress) (l : Line) :
    (l.isComment = true ∧ p.current.code ≠ []) ∨ (l.isComment = true → p.current.code = []) := by
  by_cases hcode : p.current.code = []
  · exact Or.inr fun _ => hcode
  · cases hl : l.isComment with
    | true => exact Or.inl ⟨rfl, hcode⟩
    | false => exact Or.inr fun h => absurd h Bool.false_ne_true

/-- A comment line after code closes the block being read and begins another one. -/
theorem take_of_closes {l : Line} (hl : l.isComment = true) (hcode : p.current.code ≠ []) :
    p.take l = ⟨p.closed ++ [p.current], ⟨[l], [], []⟩⟩ := by
  obtain ⟨t, rfl⟩ := Line.exists_eq_comment hl
  rw [take, if_neg hcode]

theorem closed_take {l : Line} (h : l.isComment = true → p.current.code = []) :
    (p.take l).closed = p.closed := by
  cases l with
  | comment t => rw [take, if_pos (h rfl)]
  | blank t => rw [take]; split <;> rfl
  | code t => rfl

/-- Any other line is added to the block being read. -/
theorem lines_current_take {l : Line} (h : l.isComment = true → p.current.code = []) :
    (p.take l).current.lines = p.current.lines ++ [l] := by
  cases l with
  | comment t =>
    rw [take, if_pos (h rfl)]
    simp [Block.lines, h rfl]
  | blank t =>
    rw [take]
    split
    · next hcode => simp [Block.lines, hcode]
    · simp [Block.lines]
  | code t => simp [take, Block.lines]

theorem empty_current_take {l : Line} (h : l.isComment = true → p.current.code = []) :
    ((p.take l).current.prose = [] ∧ (p.take l).current.code = []) ↔
      (p.current.prose = [] ∧ p.current.code = []) ∧ l.isBlank = true := by
  cases l with
  | comment t =>
    rw [take, if_pos (h rfl)]
    simp
  | blank t =>
    rw [take]
    split <;> simp [*]
  | code t => simp [take]

end Progress

/-! ### What goes on to hold -/

namespace Block.Shaped

variable {b : Block}

/-- A comment line makes prose of everything before it. -/
theorem addComment (h : b.Shaped) (t : Text) :
    (⟨b.prose ++ b.gap ++ [.comment t], [], []⟩ : Block).Shaped where
  prose_not_code := by
    intro l hl
    simp only [List.mem_append, List.mem_singleton] at hl
    rcases hl with (hl | hl) | rfl
    · exact h.prose_not_code l hl
    · obtain ⟨t, rfl⟩ := Line.exists_eq_blank (h.gap_blank l hl)
      rfl
    · rfl
  prose_last := by simp
  gap_blank := by simp
  code_first := by simp
  code_not_comment := by simp

theorem addBlank (h : b.Shaped) (t : Text) :
    ({ b with gap := b.gap ++ [.blank t] } : Block).Shaped where
  prose_not_code := h.prose_not_code
  prose_last := h.prose_last
  gap_blank := by
    intro l hl
    rcases List.mem_append.mp hl with hl | hl
    · exact h.gap_blank l hl
    · rw [List.mem_singleton.mp hl]
      rfl
  code_first := h.code_first
  code_not_comment := h.code_not_comment

theorem addCode (h : b.Shaped) {l : Line} (hl : l.isComment = false)
    (hfirst : b.code = [] → l.isCode = true) :
    ({ b with code := b.code ++ [l] } : Block).Shaped where
  prose_not_code := h.prose_not_code
  prose_last := h.prose_last
  gap_blank := h.gap_blank
  code_first := by
    intro k hk
    cases hcode : b.code with
    | nil =>
      obtain rfl : l = k := by simpa [hcode] using hk
      exact hfirst hcode
    | cons c code => exact h.code_first k (by simpa [hcode] using hk)
  code_not_comment := by
    intro k hk
    rcases List.mem_append.mp hk with hk | hk
    · exact h.code_not_comment k hk
    · rw [List.mem_singleton.mp hk]
      exact hl

end Block.Shaped

namespace Progress

variable {p : Progress} {ls : List Line} {m : Marker}

theorem shaped_take (h : p.current.Shaped) (l : Line) : (p.take l).current.Shaped := by
  cases l with
  | comment t =>
    rw [take]
    split
    · exact h.addComment t
    · exact Block.shaped_empty.addComment t
  | blank t =>
    rw [take]
    split
    · exact h.addBlank t
    · next hcode => exact h.addCode rfl fun hnil => absurd hnil hcode
  | code t => exact h.addCode rfl fun _ => rfl

namespace Sound

/-- The blocks after a line that is added to the block being read. -/
theorem blocks_take (h : p.Sound ls) {l : Line} (hl : l.isComment = true → p.current.code = []) :
    Grouping.blocks (ls ++ [l]) = (p.take l).blocks.map Block.lines := by
  rw [Progress.blocks, closed_take hl]
  by_cases hempty : p.current.prose = [] ∧ p.current.code = []
  · -- nothing but blank lines so far: the line begins the first block, unless it is blank too
    have hall : ls.all Line.isBlank = true := h.all_isBlank_eq_true_iff.mpr hempty
    have hclosed : p.closed = [] := by
      by_contra hne
      exact h.current_prose hne hempty.1
    cases hblank : l.isBlank with
    | true =>
      rw [if_pos ((empty_current_take hl).mpr ⟨hempty, hblank⟩), hclosed,
        blocks_of_all (by rw [all_isBlank_concat, hall, hblank]; rfl)]
      rfl
    | false =>
      rw [if_neg fun hnil => by simp [((empty_current_take hl).mp hnil).2] at hblank, hclosed,
        blocks_concat_first hall hblank]
      have hlines : ls = p.current.lines := by rw [h.lines, hclosed]; rfl
      simp [lines_current_take hl, ← hlines]
  · have hall : ls.all Line.isBlank = false := h.all_isBlank_of_ne hempty
    have hbs : Grouping.blocks ls = p.closed.map Block.lines ++ [p.current.lines] := by
      rw [h.blocks, Progress.blocks, if_neg hempty, List.map_append, List.map_singleton]
    rw [if_neg fun hnil => hempty ((empty_current_take hl).mp hnil).1,
      blocks_concat_extend hall (h.not_begins hl) hbs, List.map_append, List.map_singleton,
      lines_current_take hl]

/-- Only the first block of all may lack prose. -/
theorem prose_ne_nil_of_mem_tail_concat (h : p.Sound ls) :
    ∀ b ∈ (p.closed ++ [p.current]).tail, b.prose ≠ [] := by
  intro b hb
  cases hclosed : p.closed with
  | nil => simp [hclosed] at hb
  | cons c closed =>
    rw [hclosed, List.cons_append, List.tail_cons] at hb
    rcases List.mem_append.mp hb with hb | hb
    · exact h.closed_prose b (by simpa [hclosed] using hb)
    · rw [List.mem_singleton.mp hb]
      exact h.current_prose (by simp [hclosed])

/-- A comment line after code completes the block being read and begins another one. -/
theorem take_closing (h : p.Sound ls) {l : Line} (hl : l.isComment = true)
    (hcode : p.current.code ≠ []) : (p.take l).Sound (ls ++ [l]) := by
  have hempty : ¬(p.current.prose = [] ∧ p.current.code = []) := fun hnil => hcode hnil.2
  have hshaped := shaped_take h.current_shaped l
  rw [take_of_closes hl hcode] at hshaped ⊢
  constructor
  case lines => simp [h.lines, Block.lines]
  case blocks =>
    rw [blocks_concat_start (h.all_isBlank_of_ne hempty) hl (h.lastSolid?_of_code hcode),
      h.blocks, Progress.blocks, if_neg hempty]
    simp [Progress.blocks, Block.lines]
  case closed_shaped =>
    exact List.forall_mem_append.mpr
      ⟨h.closed_shaped, List.forall_mem_singleton.mpr h.current_shaped⟩
  case closed_code =>
    exact List.forall_mem_append.mpr ⟨h.closed_code, List.forall_mem_singleton.mpr hcode⟩
  case closed_prose => exact h.prose_ne_nil_of_mem_tail_concat
  case current_shaped => exact hshaped
  case current_prose => simp

/-- Any other line becomes a line of the block being read. -/
theorem take_adding (h : p.Sound ls) {l : Line} (hl : l.isComment = true → p.current.code = []) :
    (p.take l).Sound (ls ++ [l]) := by
  constructor
  case lines => rw [closed_take hl, lines_current_take hl, ← List.append_assoc, ← h.lines]
  case blocks => exact h.blocks_take hl
  case closed_shaped =>
    rw [closed_take hl]
    exact h.closed_shaped
  case closed_code =>
    rw [closed_take hl]
    exact h.closed_code
  case closed_prose =>
    rw [closed_take hl]
    exact h.closed_prose
  case current_shaped => exact shaped_take h.current_shaped l
  case current_prose =>
    -- no line that is added takes prose away
    rw [closed_take hl]
    intro hne
    have hprose := h.current_prose hne
    cases l with
    | comment t =>
      rw [Progress.take, if_pos (hl rfl)]
      simp
    | blank t =>
      rw [Progress.take]
      split <;> exact hprose
    | code t => exact hprose

/-- What holds of the blocks goes on to hold when a line is taken. -/
theorem take (h : p.Sound ls) (l : Line) : (p.take l).Sound (ls ++ [l]) := by
  rcases p.closes_or_adds l with ⟨hl, hcode⟩ | hl
  · exact h.take_closing hl hcode
  · exact h.take_adding hl

end Sound

/-! ### The sections of a source -/

/-- Take lines in order. -/
def run (ls : List Line) : Progress := ls.foldl take {}

@[simp] theorem run_nil : run [] = {} := rfl

theorem run_concat (ls : List Line) (l : Line) : run (ls ++ [l]) = (run ls).take l := by
  simp [run]

theorem sound_run (ls : List Line) : (run ls).Sound ls := by
  induction ls using List.reverseRecOn with
  | nil => exact sound_nil
  | append_singleton ls l ih =>
    rw [run_concat]
    exact ih.take l

/-- After any number of lines the scanner is in the state that the blocks stand for. -/
theorem scan_run {ls : List Line} (hread : ∀ l ∈ ls, l.IsRead m) :
    ls.foldl Scan.take Scan.start = (run ls).scan := by
  induction ls using List.reverseRecOn with
  | nil => rfl
  | append_singleton ls l ih =>
    have hsound := sound_run ls
    have hcode : ∀ k ∈ (run ls).current.code, k.IsRead m := fun k hk =>
      hread k (List.mem_append_left _ (hsound.current_mem hk))
    rw [List.foldl_append, ih fun k hk => hread k (by simp [hk]), run_concat,
      scan_take hsound.current_shaped hcode]
    rfl

/-- The same for lines that have not been classified yet. -/
theorem scan_run_classify {ls : List Text} (h : ∀ l ∈ ls, '\n' ∉ l) :
    Scan.run m Scan.start ls = (run (ls.map (Line.classify m))).scan := by
  have hread : ∀ l ∈ ls.map (Line.classify m), l.IsRead m := by
    intro l hl
    obtain ⟨raw, hraw, rfl⟩ := List.mem_map.mp hl
    exact ⟨raw, h raw hraw, rfl⟩
  rw [← scan_run hread, List.foldl_map]
  rfl

/-- Prose without code lines is empty only if it has no lines. -/
theorem isEmpty_comments_scan (h : p.current.Shaped) :
    p.scan.comments.isEmpty = p.current.prose.isEmpty := by
  have hprose := h.prose_not_code
  cases hlines : p.current.prose with
  | nil => simp [scan, hlines]
  | cons l prose =>
    rw [hlines] at hprose
    cases l with
    | comment t => simp [scan, hlines, Line.prose]
    | blank t => simp [scan, hlines, Line.prose]
    | code t => simpa using hprose _ (List.mem_cons_self ..)

/-- The sections once the scanner has finished are those of the blocks. -/
theorem finish_scan (h : p.current.Shaped) (hread : ∀ l ∈ p.current.code, l.IsRead m) :
    p.scan.finish = p.blocks.map Block.toSection := by
  rw [Scan.finish, isEmpty_comments_scan h, isEmpty_code_scan, blocks, close_scan h hread]
  by_cases hempty : p.current.prose = [] ∧ p.current.code = []
  · simp [hempty, scan]
  · rw [if_neg hempty, if_neg (by simpa using hempty)]

end Progress

/-- The blocks that the scanner finds in a source. -/
theorem sectionsOf_eq_map_toSection (m : Marker) (source : Text) :
    sectionsOf m source = (Progress.run (linesOf m source)).blocks.map Block.toSection := by
  have hsound := Progress.sound_run (linesOf m source)
  rw [sectionsOf, Progress.scan_run_classify notMem_of_mem_sourceLines, ← linesOf_eq_map]
  exact Progress.finish_scan hsound.current_shaped fun l hl =>
    isRead_of_mem_linesOf l (hsound.current_mem hl)

namespace Progress.Sound

variable {p : Progress} {ls : List Line}

/-- The blocks that have been read are all of the lines. -/
theorem flatten_blocks (h : p.Sound ls) (hne : Grouping.blocks ls ≠ []) :
    (Grouping.blocks ls).flatten = ls := by
  by_cases hempty : p.current.prose = [] ∧ p.current.code = []
  · exact absurd (blocks_of_all (h.all_isBlank_eq_true_iff.mpr hempty)) hne
  · rw [h.blocks, Progress.blocks, if_neg hempty]
    calc ((p.closed ++ [p.current]).map Block.lines).flatten
        = p.closed.flatMap Block.lines ++ p.current.lines := by simp [List.flatMap]
      _ = ls := h.lines.symm

theorem blocks_eq_nil_iff (h : p.Sound ls) :
    Grouping.blocks ls = [] ↔ ∀ l ∈ ls, l.isBlank = true := by
  rw [← List.all_eq_true]
  constructor
  · intro hnil
    by_contra hall
    have hempty := fun hempty => hall (h.all_isBlank_eq_true_iff.mpr hempty)
    rw [h.blocks, Progress.blocks, if_neg hempty] at hnil
    simp at hnil
  · exact blocks_of_all

end Progress.Sound

/-- What a block is made of, in the order of its lines: prose without code lines, blank
lines, code without comment lines, and blank lines again. -/
theorem Block.Shaped.exists_parts {b : Block} (h : b.Shaped) :
    ∃ gap rest, b.lines = proseLines b.lines ++ gap ++ codeLines b.lines ++ rest ∧
      (∀ l ∈ proseLines b.lines, l.isCode = false) ∧
      (∀ l ∈ codeLines b.lines, l.isComment = false) ∧
      ∀ l ∈ gap ++ rest, l.isBlank = true := by
  rw [h.proseLines_lines, h.codeLines_lines]
  refine ⟨b.gap, b.code.rtakeWhile Line.isBlank, ?_, h.prose_not_code, ?_, ?_⟩
  · rw [List.append_assoc (b.prose ++ b.gap), List.rdropWhile_append_rtakeWhile]
    rfl
  · exact fun l hl => h.code_not_comment l ((List.rdropWhile_prefix _ _).subset hl)
  · intro l hl
    rcases List.mem_append.mp hl with hl | hl
    · exact h.gap_blank l hl
    · exact List.mem_rtakeWhile_imp hl

/-- **The sections of a source are those of its blocks.**  The blocks are all of the lines,
unless these are all blank and there is no block; and each line of a block belongs to its
prose or to its code, not to both, or is blank. -/
theorem sectionsOf_eq_map_blocks (m : Marker) (source : Text) :
    sectionsOf m source = (blocks (linesOf m source)).map sectionOf ∧
      (blocks (linesOf m source) = [] ↔ ∀ l ∈ linesOf m source, l.isBlank = true) ∧
      (blocks (linesOf m source) ≠ [] → (blocks (linesOf m source)).flatten = linesOf m source) ∧
      ∀ b ∈ blocks (linesOf m source),
        ∃ gap rest, b = proseLines b ++ gap ++ codeLines b ++ rest ∧
          (∀ l ∈ proseLines b, l.isCode = false) ∧ (∀ l ∈ codeLines b, l.isComment = false) ∧
          ∀ l ∈ gap ++ rest, l.isBlank = true := by
  have hsound := Progress.sound_run (linesOf m source)
  refine ⟨?_, hsound.blocks_eq_nil_iff, hsound.flatten_blocks, ?_⟩
  · rw [sectionsOf_eq_map_toSection, hsound.blocks, List.map_map]
    exact List.map_congr_left fun b hb => (hsound.blocks_shaped b hb).sectionOf_lines.symm
  · intro b hb
    rw [hsound.blocks] at hb
    obtain ⟨block, hblock, rfl⟩ := List.mem_map.mp hb
    exact (hsound.blocks_shaped block hblock).exists_parts

end Grouping
end Marginalia
