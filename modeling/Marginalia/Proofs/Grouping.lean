import Marginalia.Proofs.Trim

/-!
# The grouping of lines into blocks

What the sections of a source are can be said without a scanner.  The lines are cut
before each comment line whose nearest line before it that is not blank is a code line;
each of the blocks between the cuts makes one section.

## Main definitions

* `Line.isComment`, `Line.isBlank`, `Line.isCode` — what a line is.
* `Line.IsRead` — that a line stands for one of a source.
* `Grouping.linesOf` — the lines of a source, each with what it is.
* `Grouping.beginsAt`, `Grouping.starts`, `Grouping.blocks` — where blocks begin, and the
  blocks.
* `Grouping.proseLines`, `Grouping.codeLines`, `Grouping.sectionOf` — what a block makes.

## Main results

* `Grouping.blocks_concat_start`, `Grouping.blocks_concat_extend` — the blocks when a line
  is added at the end.
* `Grouping.proseLines_append`, `Grouping.codeLines_append` — the parts of a block that
  consists of prose, blank lines and code in this order.
-/

namespace Marginalia

namespace Line

/-- Whether a line is a comment line. -/
def isComment : Line → Bool
  | .comment _ => true
  | _ => false

/-- Whether a line is a blank line. -/
def isBlank : Line → Bool
  | .blank _ => true
  | _ => false

/-- Whether a line is a code line. -/
def isCode : Line → Bool
  | .code _ => true
  | _ => false

/-- What a line adds to prose: the text of a comment and a newline, or just the newline. -/
def prose : Line → Text
  | .comment text => text ++ ['\n']
  | .blank _ => ['\n']
  | .code _ => []

/-- A line that is no comment, as it stands in the source. -/
def verbatim : Line → Text
  | .comment _ => []
  | .blank line => line
  | .code line => line

@[simp] theorem isComment_comment (t : Text) : (comment t).isComment = true := rfl

@[simp] theorem isComment_blank (l : Text) : (blank l).isComment = false := rfl

@[simp] theorem isComment_code (l : Text) : (code l).isComment = false := rfl

@[simp] theorem isBlank_comment (t : Text) : (comment t).isBlank = false := rfl

@[simp] theorem isBlank_blank (l : Text) : (blank l).isBlank = true := rfl

@[simp] theorem isBlank_code (l : Text) : (code l).isBlank = false := rfl

@[simp] theorem isCode_comment (t : Text) : (comment t).isCode = false := rfl

@[simp] theorem isCode_blank (l : Text) : (blank l).isCode = false := rfl

@[simp] theorem isCode_code (l : Text) : (code l).isCode = true := rfl

theorem exists_eq_comment {l : Line} (h : l.isComment = true) : ∃ t, l = comment t := by
  cases l with
  | comment t => exact ⟨t, rfl⟩
  | blank t => simp at h
  | code t => simp at h

theorem exists_eq_blank {l : Line} (h : l.isBlank = true) : ∃ t, l = blank t := by
  cases l with
  | comment t => simp at h
  | blank t => exact ⟨t, rfl⟩
  | code t => simp at h

theorem exists_eq_code {l : Line} (h : l.isCode = true) : ∃ t, l = code t := by
  cases l with
  | comment t => simp at h
  | blank t => simp at h
  | code t => exact ⟨t, rfl⟩

theorem isCode_of_not {l : Line} (hc : l.isComment = false) (hb : l.isBlank = false) :
    l.isCode = true := by
  cases l with
  | comment t => simp at hc
  | blank t => simp at hb
  | code t => rfl

theorem isComment_classify (m : Marker) (l : Text) :
    (classify m l).isComment = (m.strip l).isSome := by
  unfold classify
  cases m.strip l with
  | some t => rfl
  | none => cases Text.isBlank l <;> rfl

/-- A line that is no comment is kept as it is. -/
theorem verbatim_classify {m : Marker} {l : Text} (h : m.strip l = none) :
    (classify m l).verbatim = l := by
  rw [classify, h]
  cases Text.isBlank l <;> rfl

/-- Whether a line stands for one of a source whose comments are marked by `m`. -/
def IsRead (m : Marker) (l : Line) : Prop := ∃ raw, '\n' ∉ raw ∧ classify m raw = l

namespace IsRead

variable {m : Marker}

/-- A comment line holds what follows the marker. -/
theorem strip_of_comment {t : Text} (h : (comment t).IsRead m) :
    ∃ raw, '\n' ∉ raw ∧ m.strip raw = some t := by
  obtain ⟨raw, hraw, hl⟩ := h
  refine ⟨raw, hraw, ?_⟩
  unfold classify at hl
  split at hl
  · next text hstrip => rw [hstrip, comment.inj hl]
  · split at hl <;> simp at hl

/-- Any other line is one that is not a comment, blank or not. -/
theorem of_not_comment {l : Line} (h : l.IsRead m) (hl : l.isComment = false) :
    '\n' ∉ l.verbatim ∧ m.strip l.verbatim = none ∧ Text.isBlank l.verbatim = l.isBlank := by
  obtain ⟨raw, hraw, rfl⟩ := h
  unfold classify at hl ⊢
  split at hl
  · simp at hl
  · next hstrip =>
    split
    · next hblank => exact ⟨hraw, hstrip, hblank⟩
    · next hblank => exact ⟨hraw, hstrip, Bool.eq_false_iff.mpr hblank⟩

theorem isBlank_verbatim {l : Line} (h : l.IsRead m) (hl : l.isComment = false) :
    Text.isBlank l.verbatim = l.isBlank := (h.of_not_comment hl).2.2

theorem strip_verbatim {l : Line} (h : l.IsRead m) (hl : l.isComment = false) :
    m.strip l.verbatim = none := (h.of_not_comment hl).2.1

theorem notMem_verbatim {l : Line} (h : l.IsRead m) : '\n' ∉ l.verbatim := by
  cases l with
  | comment t => simp [verbatim]
  | blank l => exact (h.of_not_comment rfl).1
  | code l => exact (h.of_not_comment rfl).1

end IsRead
end Line

namespace Grouping

/-! ### Lines -/

/-- A line without one carriage return at its end. -/
def chomp (l : Text) : Text := if l.getLast? = some '\r' then l.dropLast else l

/-- The lines of a source, each with what it is when comments are marked by `m`. -/
def linesOf (m : Marker) (source : Text) : List Line :=
  (List.splitOn '\n' source).map fun l => Line.classify m (chomp l)

theorem linesOf_eq_map (m : Marker) (source : Text) :
    linesOf m source = (sourceLines source).map (Line.classify m) := by
  have h : dropReturn = chomp := funext dropReturn_eq
  rw [linesOf, sourceLines, Text.lines_eq_splitOn, List.map_map, h]
  rfl

/-- The lines of a source are read from texts without newlines. -/
theorem isRead_of_mem_linesOf {m : Marker} {source : Text} :
    ∀ l ∈ linesOf m source, l.IsRead m := by
  intro l hl
  rw [linesOf_eq_map] at hl
  obtain ⟨raw, hraw, rfl⟩ := List.mem_map.mp hl
  exact ⟨raw, notMem_of_mem_sourceLines raw hraw, rfl⟩

/-! ### Blocks -/

/-- The last line that is not blank. -/
def lastSolid? (ls : List Line) : Option Line := ls.reverse.find? fun l => !l.isBlank

/-- Whether a new block begins with the line at `i`: it is a comment line, and the nearest
line before it that is not blank is a code line. -/
def beginsAt (ls : List Line) (i : Nat) : Bool :=
  ls[i]?.any Line.isComment && (lastSolid? (ls.take i)).any Line.isCode

/-- Where blocks begin: at the first line, and wherever a new one does.  Lines that are all
blank make no block. -/
def starts (ls : List Line) : List Nat :=
  if ls.all Line.isBlank then [] else 0 :: (List.range ls.length).filter (beginsAt ls)

/-- The lines from each of the positions up to the next one. -/
def cutAt (ls : List Line) : List Nat → List (List Line)
  | [] => []
  | [a] => [ls.drop a]
  | a :: b :: rest => (ls.take b).drop a :: cutAt ls (b :: rest)

/-- The blocks that lines make. -/
def blocks (ls : List Line) : List (List Line) := cutAt ls (starts ls)

/-- The lines of a block up to its last comment line. -/
def proseLines (b : List Line) : List Line := b.rdropWhile fun l => !l.isComment

/-- The lines of a block from its first code line to its last line that is not blank. -/
def codeLines (b : List Line) : List Line :=
  (b.dropWhile fun l => !l.isCode).rdropWhile Line.isBlank

/-- The section that a block makes. -/
def sectionOf (b : List Line) : Section :=
  ⟨(proseLines b).flatMap Line.prose, Text.unlines ((codeLines b).map Line.verbatim)⟩

/-! ### Adding a line -/

theorem lastSolid?_append (ls ls' : List Line) :
    lastSolid? (ls ++ ls') = (lastSolid? ls').or (lastSolid? ls) := by
  simp [lastSolid?]

theorem lastSolid?_of_all {ls : List Line} (h : ls.all Line.isBlank = true) :
    lastSolid? ls = none := by
  rw [List.all_eq_true] at h
  simpa [lastSolid?] using h

theorem beginsAt_concat_of_lt {ls : List Line} (l : Line) {i : Nat} (hi : i < ls.length) :
    beginsAt (ls ++ [l]) i = beginsAt ls i := by
  rw [beginsAt, beginsAt, List.getElem?_append_left hi, List.take_append_of_le_length hi.le]

theorem beginsAt_concat_length (ls : List Line) (l : Line) :
    beginsAt (ls ++ [l]) ls.length = (l.isComment && (lastSolid? ls).any Line.isCode) := by
  simp [beginsAt]

theorem filter_beginsAt_concat (ls : List Line) (l : Line) :
    (List.range (ls ++ [l]).length).filter (beginsAt (ls ++ [l])) =
      (List.range ls.length).filter (beginsAt ls) ++
        if l.isComment && (lastSolid? ls).any Line.isCode then [ls.length] else [] := by
  have hbefore : (List.range ls.length).filter (beginsAt (ls ++ [l])) =
      (List.range ls.length).filter (beginsAt ls) :=
    List.filter_congr fun i hi => beginsAt_concat_of_lt l (List.mem_range.mp hi)
  rw [List.length_append, List.length_singleton, List.range_succ, List.filter_append, hbefore,
    List.filter_singleton, beginsAt_concat_length, Bool.cond_eq_ite]

/-- Among lines that are all blank no block begins. -/
theorem filter_beginsAt_of_all {ls : List Line} (h : ls.all Line.isBlank = true) :
    (List.range ls.length).filter (beginsAt ls) = [] := by
  rw [List.filter_eq_nil_iff]
  intro i _
  have htake : (ls.take i).all Line.isBlank = true := by
    rw [List.all_eq_true] at h ⊢
    exact fun l hl => h l ((List.take_subset i ls) hl)
  simp [beginsAt, lastSolid?_of_all htake]

theorem starts_of_all {ls : List Line} (h : ls.all Line.isBlank = true) : starts ls = [] := by
  rw [starts, if_pos h]

theorem starts_of_not_all {ls : List Line} (h : ls.all Line.isBlank = false) :
    starts ls = 0 :: (List.range ls.length).filter (beginsAt ls) := by
  rw [starts, h, if_neg Bool.false_ne_true]

theorem all_isBlank_concat (ls : List Line) (l : Line) :
    (ls ++ [l]).all Line.isBlank = (ls.all Line.isBlank && l.isBlank) := by
  simp

/-- The first line that is not blank begins the first block. -/
theorem starts_concat_first {ls : List Line} (h : ls.all Line.isBlank = true) {l : Line}
    (hl : l.isBlank = false) : starts (ls ++ [l]) = [0] := by
  have hall : (ls ++ [l]).all Line.isBlank = false := by rw [all_isBlank_concat, h, hl]; rfl
  rw [starts_of_not_all hall, filter_beginsAt_concat, filter_beginsAt_of_all h,
    lastSolid?_of_all h]
  simp

theorem starts_concat {ls : List Line} (h : ls.all Line.isBlank = false) (l : Line) :
    starts (ls ++ [l]) =
      starts ls ++ if l.isComment && (lastSolid? ls).any Line.isCode then [ls.length] else [] := by
  have hall : (ls ++ [l]).all Line.isBlank = false := by rw [all_isBlank_concat, h]; rfl
  rw [starts_of_not_all hall, starts_of_not_all h, filter_beginsAt_concat, List.cons_append]

theorem le_length_of_mem_starts {ls : List Line} : ∀ a ∈ starts ls, a ≤ ls.length := by
  intro a ha
  rw [starts] at ha
  split at ha
  · simp at ha
  · rcases List.mem_cons.mp ha with rfl | ha
    · exact Nat.zero_le _
    · exact (List.mem_range.mp (List.mem_filter.mp ha).1).le

/-- A cut at the end of the lines so far sets off the line that is added. -/
theorem cutAt_concat_start {ls : List Line} (l : Line) :
    ∀ as : List Nat, as ≠ [] → (∀ a ∈ as, a ≤ ls.length) →
      cutAt (ls ++ [l]) (as ++ [ls.length]) = cutAt ls as ++ [[l]] := by
  intro as
  induction as with
  | nil => intro h _; exact absurd rfl h
  | cons a as ih =>
    intro _ hle
    cases as with
    | nil =>
      simp [cutAt]
    | cons b as =>
      have hb : b ≤ ls.length := hle b (by simp)
      rw [List.cons_append, List.cons_append, cutAt, ← List.cons_append,
        ih (by simp) fun a ha => hle a (by simp [ha]), List.take_append_of_le_length hb, cutAt,
        List.cons_append]

/-- Without a new cut the last block takes the line that is added. -/
theorem cutAt_concat_extend {ls : List Line} (l : Line) :
    ∀ (as : List Nat) (bs : List (List Line)) (b : List Line), (∀ a ∈ as, a ≤ ls.length) →
      cutAt ls as = bs ++ [b] → cutAt (ls ++ [l]) as = bs ++ [b ++ [l]] := by
  intro as
  induction as with
  | nil => intro bs b _ h; simp [cutAt] at h
  | cons a as ih =>
    intro bs b hle h
    cases as with
    | nil =>
      -- the last cut: everything after it is the last block
      have ha : a ≤ ls.length := hle a (by simp)
      obtain ⟨rfl, rfl⟩ : bs = [] ∧ b = ls.drop a := by
        rw [cutAt] at h
        cases bs with
        | nil => simpa using h.symm
        | cons x bs => simp at h
      rw [cutAt, List.drop_append_of_le_length ha, List.nil_append]
    | cons a' as =>
      have ha' : a' ≤ ls.length := hle a' (by simp)
      rw [cutAt] at h
      cases bs with
      | nil =>
        have hnil : cutAt ls (a' :: as) = [] := by simpa using (List.cons.inj h).2
        cases as <;> simp [cutAt] at hnil
      | cons x bs =>
        obtain ⟨rfl, htail⟩ := List.cons.inj h
        rw [cutAt, List.take_append_of_le_length ha',
          ih bs b (fun c hc => hle c (by simp [hc])) htail, List.cons_append]

theorem blocks_of_all {ls : List Line} (h : ls.all Line.isBlank = true) : blocks ls = [] := by
  rw [blocks, starts_of_all h, cutAt]

/-- The first line that is not blank makes a block of everything so far. -/
theorem blocks_concat_first {ls : List Line} (h : ls.all Line.isBlank = true) {l : Line}
    (hl : l.isBlank = false) : blocks (ls ++ [l]) = [ls ++ [l]] := by
  rw [blocks, starts_concat_first h hl, cutAt, List.drop_zero]

/-- A comment line after code makes a block of its own. -/
theorem blocks_concat_start {ls : List Line} (h : ls.all Line.isBlank = false) {l : Line}
    (hl : l.isComment = true) (hlast : (lastSolid? ls).any Line.isCode = true) :
    blocks (ls ++ [l]) = blocks ls ++ [[l]] := by
  rw [blocks, starts_concat h, hl, hlast, Bool.and_self, if_pos rfl, blocks]
  exact cutAt_concat_start l _ (by simp [starts_of_not_all h]) le_length_of_mem_starts

/-- Any other line belongs to the last block. -/
theorem blocks_concat_extend {ls : List Line} (h : ls.all Line.isBlank = false) {l : Line}
    (hl : (l.isComment && (lastSolid? ls).any Line.isCode) = false) {bs : List (List Line)}
    {b : List Line} (hbs : blocks ls = bs ++ [b]) : blocks (ls ++ [l]) = bs ++ [b ++ [l]] := by
  rw [blocks, starts_concat h, hl, if_neg Bool.false_ne_true, List.append_nil]
  exact cutAt_concat_extend l _ _ _ le_length_of_mem_starts hbs

/-! ### The parts of a block -/

/-- The prose of a block goes up to its last comment line. -/
theorem proseLines_append {prose rest : List Line}
    (hprose : ∀ l, prose.getLast? = some l → l.isComment = true)
    (hrest : ∀ l ∈ rest, l.isComment = false) : proseLines (prose ++ rest) = prose := by
  induction rest using List.reverseRecOn with
  | nil =>
    rw [List.append_nil, proseLines, List.rdropWhile_eq_self_iff]
    intro hne
    simpa using hprose _ (List.getLast?_eq_getLast_of_ne_nil hne)
  | append_singleton rest l ih =>
    have hl : l.isComment = false := hrest l (by simp)
    rw [← List.append_assoc, proseLines, List.rdropWhile_concat_pos _ _ _ (by simp [hl])]
    exact ih fun k hk => hrest k (by simp [hk])

/-- The code of a block begins with its first code line. -/
theorem codeLines_append {front code : List Line} (hfront : ∀ l ∈ front, l.isCode = false)
    (hcode : ∀ l, code.head? = some l → l.isCode = true) :
    codeLines (front ++ code) = code.rdropWhile Line.isBlank := by
  have hself : (code.dropWhile fun l => !l.isCode) = code := by
    cases code with
    | nil => rfl
    | cons l code => simp [hcode l rfl]
  rw [codeLines, List.dropWhile_append_of_pos fun l hl => by simp [hfront l hl], hself]

end Grouping
end Marginalia
