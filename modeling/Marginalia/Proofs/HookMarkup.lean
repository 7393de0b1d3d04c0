import Marginalia.Proofs.ProseMarkup

/-!
# Hooks that write markup

Each hook has its own tags: escaping writes none, highlighting a span around all of the
text, and formatting those for prose.

## Main definitions

* `Html.Vocabulary.listing` — the tags of highlighted code.

## Main results

* `Hook.tagged_escape`, `Hook.tagged_highlight`, `Hook.tagged_markdown` — **the hooks write
  markup**, with these tags.
-/

namespace Marginalia

/-- The names in highlighted code. -/
def Html.Vocabulary.listing : Html.Vocabulary where
  elements := ⟨[("span".toList, ["class".toList])], by decide⟩
  voids := .none

namespace Hook

open Html (Tagged)

/-! ### What the hooks write -/

theorem tagged_escape (v : Html.Vocabulary) (t : Text) : Tagged v (escape t) [] :=
  .of_flat (Html.quotable_escape t).flat

/-- What the tag around highlighted code says. -/
def span : Html.Tag := ⟨"span".toList, [⟨"class".toList, "text plain".toList⟩]⟩

theorem highlight_eq (t : Text) :
    highlight t =
      if t.isEmpty then [] else span.opening ++ Html.escapeAttribute t ++ span.closing := by
  unfold highlight span
  split
  · rfl
  · simp [Html.Tag.opening, Html.Tag.closing, Html.Tag.inside, Html.Attribute.write]

theorem allows_span : Html.Vocabulary.listing.elements.Allows span :=
  Html.Names.allows_single (List.mem_singleton_self _) (List.mem_singleton_self _) (by decide)

/-- Highlighted code has its two tags around it and no other. -/
theorem tagged_highlight (t : Text) :
    Tagged .listing (highlight t) (if t.isEmpty then [] else [span.opening, span.closing]) := by
  have hflat := (Html.quotable_escapeAttribute t).flat
  rw [highlight_eq]
  split
  · exact .of_flat Html.flat_nil
  · exact .element allows_span (.of_flat hflat)

theorem tagged_markdown (o : Markdown.Options) (t : Text) :
    Tagged .prose (markdown o t)
      (Html.Node.elementTagsAll (Markdown.Block.nodesList (Markdown.read o t))) :=
  Markdown.tagged_render o t

end Hook
end Marginalia
