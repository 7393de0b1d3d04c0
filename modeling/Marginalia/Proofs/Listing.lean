import Marginalia.Proofs.Decoding
import Marginalia.Proofs.Numbering
import Marginalia.Proofs.References
import Marginalia.Renderer

/-!
# Listings

What a reader sees of highlighted code is what is inside the span around it, with character
references replaced.  Without blank lines that is the code of the source: all of its code
lines as they are, each in the region of its block.

## Main definitions

* `Text.solidLines` — the lines of a text that are not blank.
* `Html.unwrap` — a text without a tag around it.
* `listing` — the lines that a code region shows.
* `Grouping.rawLines`, `Marker.isCodeLine` — the code lines of a source.

## Main results

* `Text.solidLines_trim` — trimming drops blank lines only.
* `listing_highlight` — highlighted code shows its lines.
* `Grouping.Block.listing_codeRegion` — the region of a block shows its code lines.
* `listing_shows_code` — **the listing of a source is its code.**
-/

namespace Marginalia

/-! ### Lines that are not blank -/

/-- Dropping items from the front leaves those of the other kind. -/
theorem filter_dropWhile_not {α : Type} (p : α → Bool) (as : List α) :
    (as.dropWhile p).filter (fun a => !p a) = as.filter fun a => !p a := by
  have htake : (as.takeWhile p).filter (fun a => !p a) = [] := by
    rw [List.filter_eq_nil_iff]
    intro a ha
    rw [List.mem_takeWhile_imp ha]
    exact Bool.false_ne_true
  calc (as.dropWhile p).filter (fun a => !p a)
      = (as.takeWhile p ++ as.dropWhile p).filter fun a => !p a := by
        rw [List.filter_append, htake, List.nil_append]
    _ = as.filter fun a => !p a := by rw [List.takeWhile_append_dropWhile]

/-- Dropping items from the back leaves those of the other kind. -/
theorem filter_rdropWhile_not {α : Type} (p : α → Bool) (as : List α) :
    (as.rdropWhile p).filter (fun a => !p a) = as.filter fun a => !p a := by
  rw [List.rdropWhile, List.filter_reverse, filter_dropWhile_not, ← List.filter_reverse,
    List.reverse_reverse]

namespace Text

/-- The lines of a text that are not blank. -/
def solidLines (t : Text) : List Text := (lines t).filter fun l => !isBlank l

theorem solidLines_unlines {ls : List Text} (h : ∀ l ∈ ls, '\n' ∉ l) :
    solidLines (unlines ls) = ls.filter fun l => !isBlank l := by
  cases ls with
  | nil => rfl
  | cons l ls => rw [solidLines, lines_unlines (List.cons_ne_nil l ls) h]

/-- Trimming drops blank lines only. -/
theorem solidLines_trim (t : Text) : solidLines (Code.trim t) = solidLines t := by
  have hmem : ∀ l ∈ Code.trimLines (lines t), '\n' ∉ l := fun l hl =>
    notMem_of_mem_lines l ((Code.trimLines_infix_self _).subset hl)
  rw [Code.trim_eq_unlines, solidLines_unlines hmem, Code.trimLines, filter_rdropWhile_not,
    filter_dropWhile_not, solidLines]

end Text

/-! ### What a code region shows -/

/-- A text without a tag around it. -/
def Html.unwrap (tag : Html.Tag) (t : Text) : Text :=
  ((t.dropPrefix? tag.opening).bind fun inner => inner.dropSuffix? tag.closing).getD t

theorem Html.unwrap_around (tag : Html.Tag) (t : Text) :
    unwrap tag (tag.opening ++ t ++ tag.closing) = t := by
  have hprefix : (tag.opening ++ t ++ tag.closing).dropPrefix? tag.opening =
      some (t ++ tag.closing) :=
    List.dropPrefix?_eq_some_iff.mpr ⟨tag.opening, List.append_assoc .., beq_self_eq_true _⟩
  have hsuffix : (t ++ tag.closing).dropSuffix? tag.closing = some t :=
    List.dropSuffix?_eq_some_iff.mpr ⟨tag.closing, rfl, beq_self_eq_true _⟩
  rw [unwrap, hprefix, Option.bind_some, hsuffix, Option.getD_some]

/-- Inside the span of highlighted code there is the code, escaped. -/
theorem Hook.unwrap_highlight (t : Text) :
    Html.unwrap span (highlight t) = Html.escapeAttribute t := by
  rw [highlight_eq]
  cases t with
  | nil => rfl
  | cons c t => exact Html.unwrap_around span _

/-- The lines that a code region shows: without the span around it, with references replaced
once, and without blank lines. -/
def listing (table : Html.ReferenceTable) (code : Text) : List Text :=
  Text.solidLines (Html.decode table (Html.unwrap Hook.span code))

section

variable {table : Html.ReferenceTable} (htable : table.Knows)
  (happ : table "#39".toList = some ['\''])

include htable happ

/-- Highlighted code shows its lines. -/
theorem listing_highlight (t : Text) : listing table (Hook.highlight t) = Text.solidLines t := by
  rw [listing, Hook.unwrap_highlight, Html.decode_escapeAttribute htable happ]

theorem listing_codeRegion (code : Text) :
    listing table (Fragment.codeRegion Hook.highlight code) = Text.solidLines code := by
  have hregion : Fragment.codeRegion Hook.highlight code = Hook.highlight (Code.trim code) := by
    rw [Fragment.codeRegion]
    cases Code.trim code <;> rfl
  rw [hregion, listing_highlight htable happ, Text.solidLines_trim]

namespace Grouping

/-- The region of a block shows its code lines. -/
theorem Block.listing_codeRegion {m : Marker} {b : Block} (h : b.Shaped)
    (hread : ∀ l ∈ b.code, l.IsRead m) :
    listing table (Fragment.codeRegion Hook.highlight b.toSection.code) = b.shown := by
  have hmem : ∀ l ∈ (b.code.rdropWhile Line.isBlank).map Line.verbatim, '\n' ∉ l := by
    intro t ht
    obtain ⟨l, hl, rfl⟩ := List.mem_map.mp ht
    exact (hread l ((List.rdropWhile_prefix _ _).subset hl)).notMem_verbatim
  have hkind : ∀ l ∈ b.code, (!Text.isBlank l.verbatim) = l.isCode := by
    intro l hl
    rw [(hread l hl).isBlank_verbatim (h.code_not_comment l hl)]
    have hcomment := h.code_not_comment l hl
    cases l with
    | comment t => cases hcomment
    | blank t => rfl
    | code t => rfl
  rw [Marginalia.listing_codeRegion htable happ, toSection, Text.solidLines_unlines hmem,
    ← rdropWhile_verbatim hread h.code_not_comment, filter_rdropWhile_not, List.filter_map, shown]
  exact congrArg _ (List.filter_congr hkind)

end Grouping

end

/-! ### The lines of a source -/

/-- The lines of a source as they are, each without one carriage return at its end. -/
def Grouping.rawLines (source : Text) : List Text := (List.splitOn '\n' source).map chomp

/-- Whether a line is neither blank nor a comment line. -/
def Marker.isCodeLine (m : Marker) (l : Text) : Bool := (m.strip l).isNone && !Text.isBlank l

namespace Line

variable {m : Marker} {l : Text}

theorem isCode_classify (m : Marker) (l : Text) : (classify m l).isCode = m.isCodeLine l := by
  unfold classify Marker.isCodeLine
  cases m.strip l with
  | some t => rfl
  | none => cases Text.isBlank l <;> rfl

theorem strip_of_isCodeLine (h : m.isCodeLine l = true) : m.strip l = none := by
  rw [Marker.isCodeLine, Bool.and_eq_true] at h
  exact Option.isNone_iff_eq_none.mp h.1

end Line

namespace Grouping

theorem linesOf_eq_map_rawLines (m : Marker) (source : Text) :
    linesOf m source = (rawLines source).map (Line.classify m) := by
  rw [linesOf, rawLines, List.map_map]
  rfl

theorem getElem?_linesOf (m : Marker) (source : Text) (i : Nat) :
    (linesOf m source)[i]? = (rawLines source)[i]?.map (Line.classify m) := by
  rw [linesOf_eq_map_rawLines, List.getElem?_map]

/-- A code line of a source, among its lines that have been classified. -/
theorem exists_isCode {m : Marker} {source : Text} {i : Nat}
    (h : ∃ l ∈ (rawLines source)[i]?, m.isCodeLine l = true) :
    ∃ l ∈ (linesOf m source)[i]?, l.isCode = true := by
  obtain ⟨l, hl, hcode⟩ := h
  refine ⟨Line.classify m l, ?_, (Line.isCode_classify m l).trans hcode⟩
  rw [getElem?_linesOf, Option.mem_def.mp hl]
  rfl

/-- A line of a source is no comment line just if it is classified as none. -/
theorem forall_strip_eq_none_iff {m : Marker} {source : Text} {i : Nat} :
    (∀ l ∈ (linesOf m source)[i]?, l.isComment = false) ↔
      ∀ l ∈ (rawLines source)[i]?, m.strip l = none := by
  rw [getElem?_linesOf]
  cases (rawLines source)[i]? with
  | none => simp
  | some l => simp [Line.isComment_classify]

/-- The code lines of a source, numbered in some way by their places. -/
theorem map_filter_zipIdx_linesOf (m : Marker) (source : Text) (region : Nat → Nat) :
    (((linesOf m source).zipIdx.filter fun l => l.1.isCode).map fun l =>
        (l.1.verbatim, region l.2)) =
      ((rawLines source).zipIdx.filter fun l => m.isCodeLine l.1).map fun l =>
        (l.1, region l.2) := by
  have hkind : ((fun l : Line × Nat => l.1.isCode) ∘ Prod.map (Line.classify m) id) =
      fun l => m.isCodeLine l.1 := funext fun l => Line.isCode_classify m l.1
  rw [linesOf_eq_map_rawLines, List.zipIdx_map, List.filter_map, List.map_map, hkind]
  refine List.map_congr_left ?_
  intro l hl
  have hcode : m.isCodeLine l.1 = true := (List.mem_filter.mp hl).2
  change ((Line.classify m l.1).verbatim, region l.2) = _
  rw [Line.verbatim_classify (Line.strip_of_isCodeLine hcode)]

end Grouping

/-! ### The listing of a source -/

/-- Items with the places of what they come from, without the places. -/
theorem map_fst_flatMap_zipIdx {α β : Type} (f : α → List β) (as : List α) :
    (as.zipIdx.flatMap fun a => (f a.1).map (·, a.2)).map Prod.fst = as.flatMap f := by
  have hfst : ∀ a : α × Nat, ((f a.1).map (·, a.2)).map Prod.fst = f a.1 := by
    intro a
    rw [List.map_map]
    exact List.map_id _
  calc (as.zipIdx.flatMap fun a => (f a.1).map (·, a.2)).map Prod.fst
      = as.zipIdx.flatMap fun a => f a.1 := by rw [List.map_flatMap, funext hfst]
    _ = (as.zipIdx.map Prod.fst).flatMap f := (List.flatMap_map ..).symm
    _ = as.flatMap f := by rw [List.zipIdx_map_fst]

/-- Items that are selected with their places, without the places. -/
theorem map_fst_filter_zipIdx {α : Type} (p : α → Bool) (as : List α) (f : Nat → Nat) :
    (as.zipIdx.filter fun a => p a.1).map (Prod.fst ∘ fun a => (a.1, f a.2)) = as.filter p := by
  calc (as.zipIdx.filter fun a => p a.1).map (Prod.fst ∘ fun a => (a.1, f a.2))
      = (as.zipIdx.map Prod.fst).filter p := List.filter_map.symm
    _ = as.filter p := by rw [List.zipIdx_map_fst]

section

open Grouping

variable {m : Marker} {comment : Hook} {table : Html.ReferenceTable}

/-- What the regions of a source show, each with its place, are the code lines of the
blocks. -/
theorem zipIdx_listing_regions (htable : table.Knows) (happ : table "#39".toList = some ['\''])
    (source : Text) :
    (((sectionsOf m source).map (Fragment.regions comment Hook.highlight)).zipIdx.flatMap
        fun r => (listing table r.1.code).map (·, r.2)) =
      (Progress.run (linesOf m source)).blocks.zipIdx.flatMap fun b => b.1.shown.map (·, b.2) := by
  have hsound := Progress.sound_run (linesOf m source)
  rw [sectionsOf_eq_map_toSection, List.map_map, List.zipIdx_map, List.flatMap_map]
  refine List.flatMap_congr ?_
  intro b hb
  have hmem : b.1 ∈ (Progress.run (linesOf m source)).blocks :=
    List.mem_of_getElem? (List.mem_zipIdx_iff_getElem?.mp hb)
  have hread : ∀ l ∈ b.1.code, l.IsRead m := by
    intro l hl
    refine isRead_of_mem_linesOf l (hsound.mem_of_mem_blocks hmem ?_)
    exact List.mem_append_right _ hl
  change (listing table (Fragment.codeRegion Hook.highlight b.1.toSection.code)).map _ = _
  rw [Block.listing_codeRegion htable happ (hsound.blocks_shaped b.1 hmem) hread]
  rfl

end

/-- **The listing of a source is its code.**  There is one way to read regions off the HTML of
a source with highlighted code.  What the code regions show, one after another, are the code
lines of the source as they are, in order.  Each of them belongs to a region, and two of them
to the same one just if no comment line stands between them. -/
theorem listing_shows_code :
    ∀ (m : Marker) (comment : Hook) (table : Html.ReferenceTable), comment.ForComments →
      table.Knows → table "#39".toList = some ['\''] → ∀ source : Text,
      (∃! rs, Fragment.Decodes
        ((⟨m, comment, Hook.highlight⟩ : Renderer).fragment (.text source)) rs) ∧
      ∀ rs, Fragment.Decodes
          ((⟨m, comment, Hook.highlight⟩ : Renderer).fragment (.text source)) rs →
        (rs.flatMap fun r => listing table r.code) =
          (Grouping.rawLines source).filter m.isCodeLine ∧
        ∃ region : Nat → Nat,
          (rs.zipIdx.flatMap fun r => (listing table r.1.code).map (·, r.2)) =
            (((Grouping.rawLines source).zipIdx.filter fun l => m.isCodeLine l.1).map
              fun l => (l.1, region l.2)) ∧
          ∀ i j, i < j → (∃ l ∈ (Grouping.rawLines source)[i]?, m.isCodeLine l = true) →
            (∃ l ∈ (Grouping.rawLines source)[j]?, m.isCodeLine l = true) →
              (region i = region j ↔
                ∀ k, i < k → k < j → ∀ l ∈ (Grouping.rawLines source)[k]?, m.strip l = none) := by
  intro m comment table hcomment htable happ source
  have hdecodes := Fragment.decodes_render hcomment Hook.forCode_highlight (sectionsOf m source)
  refine ⟨⟨_, hdecodes, fun rs hrs => hrs.unique hdecodes⟩, ?_⟩
  intro rs hrs
  obtain rfl := hrs.unique hdecodes
  obtain ⟨region, hplaces, hregion⟩ :=
    Grouping.exists_region (Grouping.Progress.sound_run (Grouping.linesOf m source))
  rw [← zipIdx_listing_regions htable happ, Grouping.map_filter_zipIdx_linesOf] at hplaces
  refine ⟨?_, region, hplaces, ?_⟩
  · -- without the places of the regions
    have hfst := congrArg (List.map Prod.fst) hplaces
    rwa [map_fst_flatMap_zipIdx fun r : Regions => listing table r.code, List.map_map,
      map_fst_filter_zipIdx] at hfst
  · intro i j hij hi hj
    rw [hregion i j hij (Grouping.exists_isCode hi) (Grouping.exists_isCode hj)]
    simp only [Grouping.forall_strip_eq_none_iff]

/-- References and quotes in the code are shown as they are, and a comment line between code
lines sets them apart. -/
theorem listing_shows_code_references :
    Hook.ForComments Hook.escape ∧ Html.ReferenceTable.quotes.Knows ∧
      Html.ReferenceTable.quotes "#39".toList = some ['\''] ∧
      ∃ rs, Fragment.Decodes
          ((⟨Marker.slashes, Hook.escape, Hook.highlight⟩ : Renderer).fragment
            (.text "a &lt; '\"'\r\n \n// &\nb\n\nc".toList)) rs ∧
        (rs.flatMap fun r => listing .quotes r.code) =
          ["a &lt; '\"'".toList, "b".toList, "c".toList] ∧
        ∃ region : Nat → Nat,
          (rs.zipIdx.flatMap fun r => (listing .quotes r.1.code).map (·, r.2)) =
            [("a &lt; '\"'".toList, region 0), ("b".toList, region 3), ("c".toList, region 5)] ∧
          region 0 ≠ region 3 ∧ region 3 = region 5 := by
  have hraw : Grouping.rawLines "a &lt; '\"'\r\n \n// &\nb\n\nc".toList =
      ["a &lt; '\"'".toList, " ".toList, "// &".toList, "b".toList, [], "c".toList] := by
    decide +kernel
  obtain ⟨⟨rs, hrs, -⟩, hall⟩ := listing_shows_code Marker.slashes Hook.escape .quotes
    Hook.forComments_escape Html.ReferenceTable.knows_quotes rfl
    "a &lt; '\"'\r\n \n// &\nb\n\nc".toList
  obtain ⟨hlines, region, hplaces, hregion⟩ := hall rs hrs
  rw [hraw] at hlines hplaces hregion
  refine ⟨Hook.forComments_escape, Html.ReferenceTable.knows_quotes, rfl, rs, hrs, hlines,
    region, hplaces, ?_, ?_⟩
  · intro heq
    have hstrip := (hregion 0 3 (by decide) ⟨_, rfl, by decide⟩ ⟨_, rfl, by decide⟩).mp heq
      2 (by decide) (by decide) _ rfl
    revert hstrip
    decide
  · refine (hregion 3 5 (by decide) ⟨_, rfl, by decide⟩ ⟨_, rfl, by decide⟩).mpr ?_
    intro k hlo hhi l hl
    obtain rfl : k = 4 := by omega
    obtain rfl := Option.some.inj hl
    rfl

end Marginalia
