import Marginalia.Proofs.Spared

/-!
# Footnotes

Of all the extensions that documents can be read with, the one for footnotes is the only one
that brings in a `div`.  The extensions that are read here bring in none.

## Main definitions

* `Markdown.FullReading.noting` — a reading that knows one footnote.

## Main results

* `Markdown.Block.footless_eventsList` — documents that are read here have no footnotes.
* `Hook.not_infix_markdownWith_div`, `Hook.not_infix_markdownWith_section` — **what formatting
  does not close**, with any extensions.
-/

namespace Marginalia
namespace Markdown

/-! ### Documents without footnotes -/

/-- There are no footnotes among the events. -/
def Footless (es : List Event) : Prop := ∀ e ∈ es, e.isFootnote = false

namespace Footless

variable {es es' : List Event}

theorem nil : Footless [] := fun _ he => absurd he List.not_mem_nil

theorem single {e : Event} (h : e.isFootnote = false) : Footless [e] :=
  List.forall_mem_singleton.mpr h

theorem append (h : Footless es) (h' : Footless es') : Footless (es ++ es') :=
  List.forall_mem_append.mpr ⟨h, h'⟩

/-- A container that is not a footnote. -/
theorem around {c : Container} (hstart : (Event.start c).isFootnote = false)
    (hstop : (Event.stop c).isFootnote = false) (h : Footless es) : Footless (around c es) :=
  List.forall_mem_cons.mpr ⟨hstart, h.append (.single hstop)⟩

theorem flatMap {α : Type} {f : α → List Event} {xs : List α} (h : ∀ x, Footless (f x)) :
    Footless (xs.flatMap f) := by
  intro e he
  obtain ⟨x, -, he⟩ := List.mem_flatMap.mp he
  exact h x e he

end Footless

namespace Inline

mutual

theorem footless_events : ∀ i : Inline, Footless (events i)
  | .text _ | .code _ | .html _ | .softBreak | .hardBreak | .checkbox _ => by
    rw [events]
    exact .single rfl
  | .emphasis content => by
    rw [events]
    exact .around rfl rfl (footless_eventsList content)
  | .strong content => by
    rw [events]
    exact .around rfl rfl (footless_eventsList content)
  | .deleted content => by
    rw [events]
    exact .around rfl rfl (footless_eventsList content)
  | .link _ _ content => by
    rw [events]
    exact .around rfl rfl (footless_eventsList content)
  | .image _ _ content => by
    rw [events]
    exact .around rfl rfl (footless_eventsList content)

theorem footless_eventsList : ∀ is : List Inline, Footless (eventsList is)
  | [] => by
    rw [eventsList]
    exact .nil
  | i :: is => by
    rw [eventsList]
    exact (footless_events i).append (footless_eventsList is)

end

end Inline

namespace Block

theorem footless_cellEvents (cells : List (List Inline)) : Footless (cellEvents cells) :=
  .flatMap fun cell => .around rfl rfl (Inline.footless_eventsList cell)

mutual

theorem footless_events : ∀ b : Block (List Inline), Footless (events b)
  | .paragraph prose => by
    rw [events]
    exact .around rfl rfl (Inline.footless_eventsList prose)
  | .plain prose => by
    rw [events]
    exact Inline.footless_eventsList prose
  | .heading _ prose => by
    rw [events]
    exact .around rfl rfl (Inline.footless_eventsList prose)
  | .rule => by
    rw [events]
    exact .single rfl
  | .code _ _ => by
    rw [events]
    exact .around rfl rfl (.single rfl)
  | .html _ => by
    rw [events]
    exact .around rfl rfl (.single rfl)
  | .quote content => by
    rw [events]
    exact .around rfl rfl (footless_eventsList content)
  | .list _ items => by
    rw [events]
    exact .around rfl rfl (footless_itemEvents items)
  | .table _ header rows => by
    have hhead := (footless_cellEvents header).around (c := .tableHead) rfl rfl
    have hrows : Footless (rows.flatMap fun row => around .tableRow (cellEvents row)) :=
      .flatMap fun row => .around rfl rfl (footless_cellEvents row)
    rw [events]
    exact .around rfl rfl (hhead.append hrows)

theorem footless_eventsList : ∀ bs : List (Block (List Inline)), Footless (eventsList bs)
  | [] => by
    rw [eventsList]
    exact .nil
  | b :: bs => by
    rw [eventsList]
    exact (footless_events b).append (footless_eventsList bs)

theorem footless_itemEvents :
    ∀ items : List (List (Block (List Inline))), Footless (itemEvents items)
  | [] => by
    rw [itemEvents]
    exact .nil
  | item :: items => by
    rw [itemEvents]
    exact ((footless_eventsList item).around rfl rfl).append (footless_itemEvents items)

end

end Block

/-! ### A footnote -/

/-- A document that is the text of a footnote. -/
def footnoteSource : Text := "[^1]: x\n".toList

/-- The events of that document where there are footnotes. -/
def footnoteEvents : List Event :=
  around (.footnote "1".toList) (around .paragraph [.text "x".toList])

/-- Documents as they are read here, but for one that is a footnote where there are any. -/
def FullReading.noting : FullReading where
  events x t :=
    if x .footnotes = true ∧ t = footnoteSource then footnoteEvents
    else Markdown.events ⟨x .tables, x .strikethrough, x .tasks⟩ t
  events_extensions o t := if_neg fun h => Bool.noConfusion h.1
  isFootnote_eq_false x t hx := by
    rw [if_neg fun h => Bool.noConfusion (hx.symm.trans h.1)]
    exact Block.footless_eventsList _

end Markdown

/-! ### What formatting closes -/

namespace Hook

open Markdown

/-- Formatting closes no section, whatever the extensions are. -/
theorem not_infix_markdownWith_section (r : FullReading) (x : Extensions) (t : Text) :
    ¬ "</section>".toList <:+: markdownWith r x t := by
  have hhtml : ∀ e ∈ (r.events x t).map Event.demote, e.isHtml = false :=
    List.forall_mem_map.mpr fun e _ => e.isHtml_demote
  exact not_infix_write isForeign_section hhtml fun _ => by decide

/-- Formatting a text without footnotes closes no `div`. -/
theorem not_infix_markdownWith_div {r : FullReading} {x : Extensions} {t : Text}
    (h : Footless (r.events x t)) : ¬ "</div>".toList <:+: markdownWith r x t := by
  have hhtml : ∀ e ∈ (r.events x t).map Event.demote, e.isHtml = false :=
    List.forall_mem_map.mpr fun e _ => e.isHtml_demote
  -- an event is a footnote after the demotion exactly if it was one before
  refine not_infix_write isForeign_div hhtml ?_
  rintro ⟨_, hmem, hfoot⟩
  obtain ⟨e, he, rfl⟩ := List.mem_map.mp hmem
  rw [e.isFootnote_demote, h e he] at hfoot
  cases hfoot

/-- The text of a footnote is a `div`. -/
theorem markdownWith_noting :
    markdownWith .noting (· == .footnotes) footnoteSource =
      ("<div class=\"footnote-definition\" id=\"1\">".toList ++
        "<sup class=\"footnote-definition-label\">1</sup>\n<p>x</p>\n</div>\n".toList) := by
  decide +kernel

end Hook
end Marginalia
