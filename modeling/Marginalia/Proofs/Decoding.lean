import Marginalia.Proofs.Footnotes
import Marginalia.Proofs.HookMarkup
import Marginalia.Proofs.Regions
import Mathlib.Logic.ExistsUnique

/-!
# Regions read off rendered HTML

The hooks decide what stands in the regions.  As long as the hook for comments never writes
the tag that ends a comment region, and the hook for code never the one that ends a section,
the HTML of a list of sections determines the regions of each of them.

## Main definitions

* `Hook.ForComments`, `Hook.ForCode` — the hooks that leave regions closed.

## Main results

* `Hook.forComments_of_markup`, `Hook.forCode_of_markup` — hooks that write markup without
  those elements are of that kind.
* `Fragment.decodes_render` — the regions of a fragment can be read off it.
* `Fragment.render_eq_render_iff` — equal fragments have equal regions.
* `Fragment.regions_determined` — **rendered HTML determines its regions**, and each region
  depends on its own section only.
-/

namespace Marginalia
namespace Hook

/-! ### Hooks that leave regions closed -/

/-- The hook never writes the tag that ends a comment region. -/
def ForComments (hook : Hook) : Prop := ∀ t, ¬ Regions.commentEnd <:+: hook t

/-- The hook never writes the tag that ends a section. -/
def ForCode (hook : Hook) : Prop := ∀ t, ¬ Regions.codeEnd <:+: hook t

theorem forComments_of_markup {hook : Hook} {v : Html.Vocabulary}
    (h : ∀ t, Html.Markup v (hook t)) (hdiv : "div".toList ∉ v.elements.entries.map Prod.fst) :
    hook.ForComments := by
  have hname : Html.IsName "div".toList := by decide
  intro t
  exact (h t).not_closing hname hdiv (by unfold Regions.commentEnd; simp)

theorem forCode_of_markup {hook : Hook} {v : Html.Vocabulary}
    (h : ∀ t, Html.Markup v (hook t))
    (hsection : "section".toList ∉ v.elements.entries.map Prod.fst) : hook.ForCode := by
  have hname : Html.IsName "section".toList := by decide
  intro t
  exact (h t).not_closing hname hsection (by unfold Regions.codeEnd; simp)

theorem forComments_escape : ForComments escape :=
  forComments_of_markup (fun t => (tagged_escape .empty t).markup) List.not_mem_nil

theorem forCode_escape : ForCode escape :=
  forCode_of_markup (fun t => (tagged_escape .empty t).markup) List.not_mem_nil

theorem forComments_highlight : ForComments highlight :=
  forComments_of_markup (fun t => (tagged_highlight t).markup) (by decide)

theorem forCode_highlight : ForCode highlight :=
  forCode_of_markup (fun t => (tagged_highlight t).markup) (by decide)

theorem forComments_markdown (o : Markdown.Options) : ForComments (markdown o) :=
  forComments_of_markup (fun t => (tagged_markdown o t).markup) (by decide)

theorem forCode_markdown (o : Markdown.Options) : ForCode (markdown o) :=
  forCode_of_markup (fun t => (tagged_markdown o t).markup) (by decide)

/-- With any extensions formatting leaves code regions closed. -/
theorem forCode_markdownWith (r : Markdown.FullReading) (x : Markdown.Extensions) :
    ForCode (markdownWith r x) := fun t => not_infix_markdownWith_section r x t

/-- Without footnotes formatting leaves comment regions closed. -/
theorem forComments_markdownWith (r : Markdown.FullReading) {x : Markdown.Extensions}
    (hx : x .footnotes = false) : ForComments (markdownWith r x) :=
  fun t => not_infix_markdownWith_div (r.isFootnote_eq_false x t hx)

end Hook

namespace Fragment

/-! ### Reading regions off a fragment -/

variable {comment code comment' code' : Hook}

theorem closed_regions (hcomment : comment.ForComments) (hcode : code.ForCode) (s : Section) :
    (regions comment code s).Closed := by
  constructor
  · change ¬ Regions.commentEnd <:+: commentRegion comment s.comments
    unfold commentRegion
    split
    · unfold Regions.commentEnd emptyComment
      decide
    · exact hcomment s.comments
  · change ¬ Regions.codeEnd <:+: codeRegion code s.code
    unfold codeRegion
    split
    · unfold Regions.codeEnd
      decide
    · exact hcode (Code.trim s.code)

/-- The regions of its sections can be read off a fragment. -/
theorem decodes_render (hcomment : comment.ForComments) (hcode : code.ForCode)
    (ss : List Section) :
    Decodes (render comment code ss) (ss.map (regions comment code)) := by
  constructor
  · intro r hr
    obtain ⟨s, -, rfl⟩ := List.mem_map.mp hr
    exact closed_regions hcomment hcode s
  · exact (render_eq_write comment code ss).symm

/-- Nothing else can be read off it. -/
theorem decodes_render_iff (hcomment : comment.ForComments) (hcode : code.ForCode)
    {ss : List Section} {rs : List Regions} :
    Decodes (render comment code ss) rs ↔ rs = ss.map (regions comment code) := by
  constructor
  · intro h
    exact h.unique (decodes_render hcomment hcode ss)
  · rintro rfl
    exact decodes_render hcomment hcode ss

/-- Equal fragments have equal regions. -/
theorem render_eq_render_iff (hcomment : comment.ForComments) (hcode : code.ForCode)
    (hcomment' : comment'.ForComments) (hcode' : code'.ForCode) {ss ss' : List Section} :
    render comment code ss = render comment' code' ss' ↔
      ss.map (regions comment code) = ss'.map (regions comment' code') := by
  constructor
  · intro heq
    have hdecodes := decodes_render hcomment hcode ss
    rw [heq] at hdecodes
    exact (decodes_render_iff hcomment' hcode').mp hdecodes
  · intro heq
    rw [render_eq_write, render_eq_write, heq]

/-! ### Regions one by one -/

/-- The regions that are read off a fragment are those of its sections, one by one. -/
theorem Decodes.getElem? (hcomment : comment.ForComments) (hcode : code.ForCode)
    {ss : List Section} {rs : List Regions} (h : Decodes (render comment code ss) rs) :
    rs.length = ss.length ∧ ∀ i : Nat, rs[i]? = ss[i]?.map (regions comment code) := by
  obtain rfl := (decodes_render_iff hcomment hcode).mp h
  exact ⟨List.length_map _, fun i => List.getElem?_map⟩

/-- Equal fragments have as many sections, with equal regions. -/
theorem regions_eq_of_render_eq (hcomment : comment.ForComments) (hcode : code.ForCode)
    (hcomment' : comment'.ForComments) (hcode' : code'.ForCode) {ss ss' : List Section}
    (heq : render comment code ss = render comment' code' ss') :
    ss.length = ss'.length ∧
      ∀ i : Nat, ss[i]?.map (regions comment code) = ss'[i]?.map (regions comment' code') := by
  have hregions := (render_eq_render_iff hcomment hcode hcomment' hcode').mp heq
  constructor
  · simpa using congrArg List.length hregions
  · intro i
    simpa using congrArg (fun rs : List Regions => rs[i]?) hregions

/-- A section that is replaced changes no regions but its own. -/
theorem Decodes.set (hcomment : comment.ForComments) (hcode : code.ForCode) {ss : List Section}
    {rs rs' : List Regions} {i : Nat} {s : Section} (h : Decodes (render comment code ss) rs)
    (h' : Decodes (render comment code (ss.set i s)) rs') :
    rs' = rs.set i (regions comment code s) := by
  rw [(decodes_render_iff hcomment hcode).mp h, (decodes_render_iff hcomment hcode).mp h',
    List.map_set]

theorem Decodes.code_eq (hcomment : comment.ForComments) (hcode : code.ForCode)
    (hcomment' : comment'.ForComments) {ss : List Section} {rs rs' : List Regions}
    (h : Decodes (render comment code ss) rs) (h' : Decodes (render comment' code ss) rs') :
    rs'.map Regions.code = rs.map Regions.code := by
  rw [(decodes_render_iff hcomment hcode).mp h, (decodes_render_iff hcomment' hcode).mp h',
    List.map_map, List.map_map]
  rfl

theorem Decodes.comments_eq (hcomment : comment.ForComments) (hcode : code.ForCode)
    (hcode' : code'.ForCode) {ss : List Section} {rs rs' : List Regions}
    (h : Decodes (render comment code ss) rs) (h' : Decodes (render comment code' ss) rs') :
    rs'.map Regions.comments = rs.map Regions.comments := by
  rw [(decodes_render_iff hcomment hcode).mp h, (decodes_render_iff hcomment hcode').mp h',
    List.map_map, List.map_map]
  rfl

/-- **Rendered HTML determines its regions**: there is one way to read them off it, and
what is read off are the regions of the sections in order.  So sections with the same HTML
have the same regions, a section that is replaced changes no other regions, and a hook that
is replaced does not change what the other one has made.  The hooks that escape, highlight
and format are all of the kind that this needs; one that formats with footnotes is not, for
comments. -/
theorem regions_determined :
    (∀ comment code : Hook, comment.ForComments → code.ForCode → ∀ ss : List Section,
      (∃! rs, Decodes (render comment code ss) rs) ∧
      (∀ rs, Decodes (render comment code ss) rs →
        rs.length = ss.length ∧
        ∀ i : Nat, rs[i]? = ss[i]?.map fun s =>
          ⟨commentRegion comment s.comments, codeRegion code s.code⟩) ∧
      (∀ comment' code' : Hook, comment'.ForComments → code'.ForCode → ∀ ss' : List Section,
        render comment code ss = render comment' code' ss' →
          ss.length = ss'.length ∧
          ∀ i : Nat, ss[i]?.map (regions comment code) = ss'[i]?.map (regions comment' code')) ∧
      (∀ (i : Nat) s rs rs', Decodes (render comment code ss) rs →
        Decodes (render comment code (ss.set i s)) rs' →
          rs'.length = rs.length ∧ ∀ j : Nat, j ≠ i → rs'[j]? = rs[j]?) ∧
      (∀ comment' : Hook, comment'.ForComments → ∀ rs rs',
        Decodes (render comment code ss) rs → Decodes (render comment' code ss) rs' →
          rs'.map Regions.code = rs.map Regions.code) ∧
      (∀ code' : Hook, code'.ForCode → ∀ rs rs',
        Decodes (render comment code ss) rs → Decodes (render comment code' ss) rs' →
          rs'.map Regions.comments = rs.map Regions.comments)) ∧
    (Hook.ForComments Hook.escape ∧ Hook.ForCode Hook.escape) ∧
    (Hook.ForComments Hook.highlight ∧ Hook.ForCode Hook.highlight) ∧
    (∀ o, Hook.ForComments (Hook.markdown o) ∧ Hook.ForCode (Hook.markdown o)) ∧
    ∀ (r : Markdown.FullReading) (x : Markdown.Extensions),
      Hook.ForCode (Hook.markdownWith r x) ∧
      (x .footnotes = false → Hook.ForComments (Hook.markdownWith r x)) := by
  refine ⟨?_, ⟨Hook.forComments_escape, Hook.forCode_escape⟩,
    ⟨Hook.forComments_highlight, Hook.forCode_highlight⟩,
    fun o => ⟨Hook.forComments_markdown o, Hook.forCode_markdown o⟩,
    fun r x => ⟨Hook.forCode_markdownWith r x, Hook.forComments_markdownWith r⟩⟩
  intro comment code hcomment hcode ss
  refine ⟨?_, ?_, ?_, ?_, ?_, ?_⟩
  · -- one way to read it
    have hdecodes := decodes_render hcomment hcode ss
    exact ⟨_, hdecodes, fun rs hrs => hrs.unique hdecodes⟩
  · intro rs hrs
    exact hrs.getElem? hcomment hcode
  · intro comment' code' hcomment' hcode' ss' heq
    exact regions_eq_of_render_eq hcomment hcode hcomment' hcode' heq
  · -- another section at `i`
    intro i s rs rs' hrs hrs'
    obtain rfl := hrs.set hcomment hcode hrs'
    refine ⟨List.length_set, ?_⟩
    intro j hj
    exact List.getElem?_set_ne (Ne.symm hj)
  · intro comment' hcomment' rs rs' hrs hrs'
    exact hrs.code_eq hcomment hcode hcomment' hrs'
  · intro code' hcode' rs rs' hrs hrs'
    exact hrs.comments_eq hcomment hcode hcode' hrs'

/-- The text of a footnote is in a `div`, which ends the comment region that it stands in. -/
theorem not_forComments_footnotes :
    ¬ ∀ (r : Markdown.FullReading) (x : Markdown.Extensions),
      Hook.ForComments (Hook.markdownWith r x) ∧ Hook.ForCode (Hook.markdownWith r x) := by
  intro hall
  have hcomments := (hall .noting (· == .footnotes)).1 Markdown.footnoteSource
  rw [Hook.markdownWith_noting] at hcomments
  exact hcomments (by decide +kernel)

/-- Texts that look like the ends of their regions do not end them, and all extensions but
footnotes leave comment regions closed. -/
theorem regions_determined_escape :
    (Hook.ForComments Hook.escape ∧ Hook.ForCode Hook.highlight ∧
      ∀ rs, Decodes (render Hook.escape Hook.highlight
          [⟨"</div>\n".toList, "\n</section>".toList⟩]) rs →
        rs = [⟨"&lt;/div&gt;\n".toList,
          "<span class=\"text plain\">&lt;/section&gt;</span>".toList⟩]) ∧
    Hook.ForComments (Hook.markdownWith .noting (· != .footnotes)) := by
  refine ⟨⟨Hook.forComments_escape, Hook.forCode_highlight, ?_⟩,
    (regions_determined.2.2.2.2 .noting (· != .footnotes)).2 rfl⟩
  intro rs hrs
  obtain ⟨-, hregions, -⟩ := regions_determined.1 Hook.escape Hook.highlight
    Hook.forComments_escape Hook.forCode_highlight [⟨"</div>\n".toList, "\n</section>".toList⟩]
  obtain ⟨hlength, hall⟩ := hregions rs hrs
  obtain ⟨r, rfl⟩ := List.length_eq_one_iff.mp hlength
  have hr : r = ⟨commentRegion Hook.escape "</div>\n".toList,
      codeRegion Hook.highlight "\n</section>".toList⟩ := by
    simpa using hall 0
  rw [hr]
  decide +kernel

end Fragment
end Marginalia
