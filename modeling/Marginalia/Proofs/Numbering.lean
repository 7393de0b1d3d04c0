import Marginalia.Proofs.SectionForm

/-!
# Code lines and the comments before them

Each code line of a source is numbered by how many comment lines stand before it.  In a block
all comment lines stand before the code, so its code lines have one number; every block but the
first has a comment line, so different blocks have different numbers.  Two code lines belong
to one block therefore if no comment line stands between them.

## Main definitions

* `Grouping.numbered` — the code lines, each with the number of comment lines before it.
* `Grouping.Block.shown` — the code lines of a block.
* `Grouping.commentCounts` — how many comment lines there are up to the end of each block.

## Main results

* `Grouping.numbered_eq_zipIdx` — the number of a code line, by its place.
* `Grouping.numbered_flatMap_lines` — the number of a code line, by its block.
* `Grouping.Progress.Sound.nodup_commentCounts` — different blocks have different numbers.
* `Grouping.exists_region` — **which block the code lines of a source belong to.**
-/

namespace Marginalia
namespace Grouping

variable {m : Marker} {ls : List Line}

/-! ### Numbers by place -/

/-- The code lines, each with the number of comment lines before it, which begins with `k`. -/
def numbered : Nat → List Line → List (Text × Nat)
  | _, [] => []
  | k, .comment _ :: ls => numbered (k + 1) ls
  | k, .blank _ :: ls => numbered k ls
  | k, .code l :: ls => (l, k) :: numbered k ls

theorem numbered_append (ls ls' : List Line) (k : Nat) :
    numbered k (ls ++ ls') = numbered k ls ++ numbered (k + ls.countP Line.isComment) ls' := by
  induction ls generalizing k with
  | nil => rfl
  | cons l ls ih =>
    cases l with
    | comment t =>
      rw [List.cons_append, numbered, numbered, ih, List.countP_cons_of_pos rfl,
        Nat.add_right_comm, Nat.add_assoc]
    | blank t =>
      rw [List.cons_append, numbered, numbered, ih,
        List.countP_cons_of_neg Bool.false_ne_true]
    | code t =>
      rw [List.cons_append, numbered, numbered, ih,
        List.countP_cons_of_neg Bool.false_ne_true, List.cons_append]

/-- Lines without code have nothing to be numbered. -/
theorem numbered_of_not_code (h : ∀ l ∈ ls, l.isCode = false) (k : Nat) : numbered k ls = [] := by
  induction ls generalizing k with
  | nil => rfl
  | cons l ls ih =>
    have htail : ∀ l ∈ ls, l.isCode = false := fun l hl => h l (by simp [hl])
    cases l with
    | comment t => exact ih htail (k + 1)
    | blank t => exact ih htail k
    | code t => exact absurd (h (.code t) (by simp)) (by simp)

/-- Without comment lines all numbers are the same. -/
theorem numbered_of_not_comment (h : ∀ l ∈ ls, l.isComment = false) (k : Nat) :
    numbered k ls = ((ls.filter Line.isCode).map Line.verbatim).map (·, k) := by
  induction ls with
  | nil => rfl
  | cons l ls ih =>
    have htail : ∀ l ∈ ls, l.isComment = false := fun l hl => h l (by simp [hl])
    cases l with
    | comment t => exact absurd (h (.comment t) (by simp)) (by simp)
    | blank t => exact ih htail
    | code t =>
      rw [numbered, ih htail, List.filter_cons_of_pos rfl]
      rfl

/-- The number of a code line is that of the comment lines before its place. -/
theorem numbered_eq_zipIdx (ls : List Line) :
    numbered 0 ls = (ls.zipIdx.filter fun l => l.1.isCode).map fun l =>
      (l.1.verbatim, (ls.take l.2).countP Line.isComment) := by
  induction ls using List.reverseRecOn with
  | nil => rfl
  | append_singleton ls l ih =>
    have hbefore : ((ls.zipIdx.filter fun l => l.1.isCode).map fun k =>
        (k.1.verbatim, ((ls ++ [l]).take k.2).countP Line.isComment)) =
        (ls.zipIdx.filter fun l => l.1.isCode).map fun k =>
          (k.1.verbatim, (ls.take k.2).countP Line.isComment) := by
      refine List.map_congr_left ?_
      intro k hk
      have hlt : k.2 < ls.length := List.snd_lt_of_mem_zipIdx (List.mem_filter.mp hk).1
      rw [List.take_append_of_le_length hlt.le]
    rw [numbered_append, ih, List.zipIdx_append, List.filter_append, List.map_append, hbefore]
    cases l with
    | comment t => rfl
    | blank t => rfl
    | code t =>
      have htake : (ls ++ [Line.code t]).take (0 + ls.length) = ls := by
        rw [Nat.zero_add, List.take_left]
      rw [numbered, numbered, Nat.zero_add]
      change _ = _ ++ [(t, ((ls ++ [Line.code t]).take (0 + ls.length)).countP Line.isComment)]
      rw [htake]

/-- Between two places the number stays the same if no comment line stands there. -/
theorem countP_take_eq_iff {i j : Nat} (hij : i ≤ j) :
    (ls.take i).countP Line.isComment = (ls.take j).countP Line.isComment ↔
      ∀ k, i ≤ k → k < j → ∀ l ∈ ls[k]?, l.isComment = false := by
  have hsplit : ls.take j = ls.take i ++ (ls.take j).drop i := by
    calc ls.take j = (ls.take j).take i ++ (ls.take j).drop i :=
          (List.take_append_drop i (ls.take j)).symm
      _ = ls.take i ++ (ls.take j).drop i := by rw [List.take_take, Nat.min_eq_left hij]
  rw [hsplit, List.countP_append, Nat.left_eq_add, List.countP_eq_zero]
  constructor
  · intro h k hik hkj l hl
    refine Bool.eq_false_iff.mpr (h l (List.mem_iff_getElem?.mpr ⟨k - i, ?_⟩))
    rw [List.getElem?_drop, Nat.add_sub_cancel' hik, List.getElem?_take, if_pos hkj]
    exact hl
  · intro h l hl
    obtain ⟨n, hn⟩ := List.mem_iff_getElem?.mp hl
    rw [List.getElem?_drop, List.getElem?_take] at hn
    split at hn
    · next hlt => exact Bool.eq_false_iff.mp (h (i + n) (Nat.le_add_right i n) hlt l hn)
    · cases hn

/-! ### Numbers by block -/

namespace Block

variable {b : Block}

/-- The code lines of a block. -/
def shown (b : Block) : List Text := (b.code.filter Line.isCode).map Line.verbatim

/-- All comment lines of a block stand before its code lines. -/
theorem numbered_lines (h : b.Shaped) (k : Nat) :
    numbered k b.lines = b.shown.map (·, k + b.lines.countP Line.isComment) := by
  have hfront : ∀ l ∈ b.prose ++ b.gap, l.isCode = false := by
    intro l hl
    rcases List.mem_append.mp hl with hl | hl
    · exact h.prose_not_code l hl
    · obtain ⟨t, rfl⟩ := Line.exists_eq_blank (h.gap_blank l hl)
      rfl
  have hcode : b.code.countP Line.isComment = 0 := by
    rw [List.countP_eq_zero]
    intro l hl
    rw [h.code_not_comment l hl]
    exact Bool.false_ne_true
  have hall : b.lines.countP Line.isComment = (b.prose ++ b.gap).countP Line.isComment := by
    rw [lines, List.countP_append, hcode, Nat.add_zero]
  rw [hall, lines, numbered_append, numbered_of_not_code hfront, List.nil_append,
    numbered_of_not_comment h.code_not_comment]
  rfl

/-- A block with prose has a comment line. -/
theorem countP_pos (h : b.Shaped) (hprose : b.prose ≠ []) :
    0 < b.lines.countP Line.isComment := by
  have hlast := h.prose_last _ (List.getLast?_eq_getLast_of_ne_nil hprose)
  rw [List.countP_pos_iff]
  refine ⟨b.prose.getLast hprose, ?_, hlast⟩
  rw [lines, List.append_assoc]
  exact List.mem_append_left _ (List.getLast_mem hprose)

end Block

/-- How many comment lines there are up to the end of each block, beginning with `k`. -/
def commentCounts : Nat → List Block → List Nat
  | _, [] => []
  | k, b :: bs =>
    (k + b.lines.countP Line.isComment) :: commentCounts (k + b.lines.countP Line.isComment) bs

@[simp] theorem length_commentCounts (k : Nat) (bs : List Block) :
    (commentCounts k bs).length = bs.length := by
  induction bs generalizing k with
  | nil => rfl
  | cons b bs ih => rw [commentCounts, List.length_cons, ih, List.length_cons]

/-- The number of a code line is that of the comment lines up to the end of its block. -/
theorem numbered_flatMap_lines {bs : List Block} (h : ∀ b ∈ bs, b.Shaped) (k : Nat) :
    numbered k (bs.flatMap Block.lines) =
      (bs.zip (commentCounts k bs)).flatMap fun b => b.1.shown.map (·, b.2) := by
  induction bs generalizing k with
  | nil => rfl
  | cons b bs ih =>
    obtain ⟨hb, hbs⟩ := List.forall_mem_cons.mp h
    rw [List.flatMap_cons, numbered_append, Block.numbered_lines hb, ih hbs, commentCounts,
      List.zip_cons_cons, List.flatMap_cons]

theorem lt_of_mem_commentCounts {bs : List Block}
    (h : ∀ b ∈ bs, 0 < b.lines.countP Line.isComment) (k : Nat) :
    ∀ n ∈ commentCounts k bs, k < n := by
  induction bs generalizing k with
  | nil => exact fun n hn => absurd hn List.not_mem_nil
  | cons b bs ih =>
    obtain ⟨hb, hbs⟩ := List.forall_mem_cons.mp h
    intro n hn
    rcases List.mem_cons.mp hn with rfl | hn
    · omega
    · have hlt := ih hbs _ n hn
      omega

/-- With a comment line in every block but the first, different blocks have different
numbers. -/
theorem nodup_commentCounts {bs : List Block}
    (h : ∀ b ∈ bs.tail, 0 < b.lines.countP Line.isComment) (k : Nat) :
    (commentCounts k bs).Nodup := by
  induction bs generalizing k with
  | nil => exact List.nodup_nil
  | cons b bs ih =>
    rw [commentCounts, List.nodup_cons]
    constructor
    · intro hmem
      exact Nat.lt_irrefl _ (lt_of_mem_commentCounts h _ _ hmem)
    · exact ih (fun c hc => h c (List.mem_of_mem_tail hc)) _

/-- Items are counted by the places of different numbers. -/
theorem zipIdx_eq_map_zip {α : Type} {as : List α} {ns : List Nat}
    (hlength : ns.length = as.length) (hnodup : ns.Nodup) :
    as.zipIdx = (as.zip ns).map fun a => (a.1, ns.idxOf a.2) := by
  refine List.ext_getElem (by simp [hlength]) ?_
  intro i hi _
  have hi : i < ns.length := by
    rw [hlength]
    simpa using hi
  simp [hnodup.idxOf_getElem i hi]

namespace Progress.Sound

variable {p : Progress}

/-- After the last block there are blank lines at most. -/
theorem exists_rest (h : p.Sound ls) :
    ∃ rest, ls = p.blocks.flatMap Block.lines ++ rest ∧ ∀ l ∈ rest, l.isBlank = true := by
  rw [Progress.blocks]
  split
  · next hempty =>
    refine ⟨p.current.gap, ?_, h.current_shaped.gap_blank⟩
    rw [h.lines, Block.lines, hempty.1, hempty.2]
    simp
  · refine ⟨[], ?_, by simp⟩
    rw [h.lines]
    simp

theorem numbered_eq (h : p.Sound ls) :
    numbered 0 ls =
      (p.blocks.zip (commentCounts 0 p.blocks)).flatMap fun b => b.1.shown.map (·, b.2) := by
  obtain ⟨rest, hrest, hblank⟩ := h.exists_rest
  have hcode : ∀ l ∈ rest, l.isCode = false := by
    intro l hl
    obtain ⟨t, rfl⟩ := Line.exists_eq_blank (hblank l hl)
    rfl
  rw [hrest, numbered_append, numbered_of_not_code hcode, List.append_nil,
    numbered_flatMap_lines h.blocks_shaped]

theorem nodup_commentCounts (h : p.Sound ls) : (commentCounts 0 p.blocks).Nodup := by
  refine Grouping.nodup_commentCounts ?_ 0
  intro b hb
  exact Block.countP_pos (h.blocks_shaped b (List.mem_of_mem_tail hb))
    (h.prose_ne_nil_of_mem_tail b hb)

end Progress.Sound

/-- **Which block the code lines of a source belong to.**  The code lines of the blocks, each
with the place of its block, are those of the source in order, and two of them belong to one
block just if no comment line stands between them. -/
theorem exists_region {p : Progress} (h : p.Sound ls) :
    ∃ region : Nat → Nat,
      (p.blocks.zipIdx.flatMap fun b => b.1.shown.map (·, b.2)) =
        ((ls.zipIdx.filter fun l => l.1.isCode).map fun l => (l.1.verbatim, region l.2)) ∧
      ∀ i j, i < j → (∃ l ∈ ls[i]?, l.isCode = true) → (∃ l ∈ ls[j]?, l.isCode = true) →
        (region i = region j ↔ ∀ k, i < k → k < j → ∀ l ∈ ls[k]?, l.isComment = false) := by
  have hnumbered := h.numbered_eq
  rw [numbered_eq_zipIdx] at hnumbered
  -- the number of a code line is that of some block
  have hmem : ∀ i, (∃ l ∈ ls[i]?, l.isCode = true) →
      (ls.take i).countP Line.isComment ∈ commentCounts 0 p.blocks := by
    rintro i ⟨l, hl, hcode⟩
    have hline : (l.verbatim, (ls.take i).countP Line.isComment) ∈
        (ls.zipIdx.filter fun l => l.1.isCode).map fun l =>
          (l.1.verbatim, (ls.take l.2).countP Line.isComment) := by
      refine List.mem_map.mpr ⟨(l, i), List.mem_filter.mpr ⟨?_, hcode⟩, rfl⟩
      exact List.mem_zipIdx_iff_getElem?.mpr hl
    rw [hnumbered] at hline
    obtain ⟨⟨b, n⟩, hb, ht⟩ := List.mem_flatMap.mp hline
    obtain ⟨t, -, heq⟩ := List.mem_map.mp ht
    rw [← (Prod.mk.inj heq).2]
    exact (List.of_mem_zip hb).2
  refine ⟨fun i => (commentCounts 0 p.blocks).idxOf ((ls.take i).countP Line.isComment), ?_, ?_⟩
  · have hmap := congrArg
      (List.map fun l : Text × Nat => (l.1, (commentCounts 0 p.blocks).idxOf l.2)) hnumbered
    rw [List.map_map, List.map_flatMap] at hmap
    rw [zipIdx_eq_map_zip (length_commentCounts 0 p.blocks) h.nodup_commentCounts,
      List.flatMap_map]
    refine Eq.trans ?_ hmap.symm
    simp only [List.map_map]
    rfl
  · intro i j hij hi hj
    rw [List.idxOf_inj (hmem i hi), countP_take_eq_iff hij.le]
    constructor
    · exact fun hno k hik hkj => hno k hik.le hkj
    · intro hno k hik hkj l hl
      rcases Nat.lt_or_eq_of_le hik with hik | rfl
      · exact hno k hik hkj l hl
      · obtain ⟨l', hl', hcode⟩ := hi
        obtain rfl : l = l' := Option.some.inj (hl.symm.trans hl')
        obtain ⟨t, rfl⟩ := Line.exists_eq_code hcode
        rfl

end Grouping
end Marginalia
