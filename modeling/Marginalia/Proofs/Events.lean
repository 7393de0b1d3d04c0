import Marginalia.Proofs.VisibleText

/-!
# What is shown of a document

The events of a document come with the text that is meant, code and HTML as they stand in the
document.  What a reader sees of it when it has been formatted are these texts, except those
in the descriptions of images.  That HTML is turned into text before it is written is what
makes it seen.

## Main definitions

* `Markdown.payloads` — the texts of events outside of images, in order.
* `Markdown.Pays` — events that have a text outside of images.

## Main results

* `Markdown.Pays.around`, `Markdown.Pays.image` — what stands around events.
* `Markdown.Block.pays_eventsList` — the events of blocks have the text in their HTML.
* `Markdown.markdown_shows_payloads` — **formatting escapes every character once**, and HTML in
  the prose is shown as text.
-/

namespace Marginalia
namespace Markdown

theorem around_append (c : Container) (es rest : List Event) :
    around c es ++ rest = .start c :: (es ++ .stop c :: rest) := by
  rw [around, List.cons_append, List.append_assoc, List.singleton_append]

/-! ### Texts outside of images -/

/-- Whether a container is an image. -/
def Container.isImage : Container → Bool
  | .image _ _ => true
  | _ => false

/-- How many images are open after an event, of `depth` before. -/
def imageDepth (depth : Nat) : Event → Nat
  | .start c => if c.isImage then depth + 1 else depth
  | .stop c => if c.isImage then depth - 1 else depth
  | _ => depth

/-- The texts of events outside of images, one after another; `depth` images are open. -/
def payloadsFrom : (depth : Nat) → List Event → Text
  | _, [] => []
  | depth, e :: es =>
    (if depth = 0 then e.payload else []) ++ payloadsFrom (imageDepth depth e) es

/-- The texts of events outside of images, one after another. -/
def payloads (es : List Event) : Text := payloadsFrom 0 es

/-- The same without newlines. -/
def shownPayloads (depth : Nat) (es : List Event) : Text :=
  Text.withoutNewlines (payloadsFrom depth es)

theorem shownPayloads_cons_outside (e : Event) (es : List Event) :
    shownPayloads 0 (e :: es) =
      Text.withoutNewlines e.payload ++ shownPayloads (imageDepth 0 e) es := by
  rw [shownPayloads, payloadsFrom, if_pos rfl, Text.withoutNewlines_append]
  rfl

theorem shownPayloads_cons_inside (depth : Nat) (e : Event) (es : List Event) :
    shownPayloads (depth + 1) (e :: es) = shownPayloads (imageDepth (depth + 1) e) es := by
  rw [shownPayloads, payloadsFrom, if_neg (Nat.succ_ne_zero depth), List.nil_append]
  rfl

/-- Outside of images the events have the text `t`; inside of images they have none, and the
same images are open after them. -/
structure Pays (es : List Event) (t : Text) : Prop where
  outside : Yields (shownPayloads 0) es t
  inside : ∀ depth, Yields (shownPayloads (depth + 1)) es []

namespace Pays

variable {es es' : List Event} {t t' : Text}

theorem nil : Pays [] [] := ⟨.nil, fun _ => .nil⟩

theorem append (h : Pays es t) (h' : Pays es' t') : Pays (es ++ es') (t ++ t') :=
  ⟨h.outside.append h'.outside, fun depth => (h.inside depth).append (h'.inside depth)⟩

/-- An event that has nothing to do with images. -/
theorem single {e : Event} (h : ∀ depth, imageDepth depth e = depth) :
    Pays [e] (Text.withoutNewlines e.payload) where
  outside rest := by
    rw [List.singleton_append, shownPayloads_cons_outside, h]
  inside depth rest := by
    rw [List.singleton_append, shownPayloads_cons_inside, h]
    rfl

/-- What begins and ends around events adds no text to them. -/
theorem around {c : Container} (hc : c.isImage = false) (h : Pays es t) :
    Pays (around c es) t := by
  have hstart : Pays [.start c] [] := single fun depth => by simp [imageDepth, hc]
  have hstop : Pays [.stop c] [] := single fun depth => by simp [imageDepth, hc]
  have hall := hstart.append (h.append hstop)
  rwa [List.nil_append, List.append_nil] at hall

/-- The description of an image is not among the texts. -/
theorem image {url title : Text} (h : Pays es t) :
    Pays (Markdown.around (.image url title) es) [] where
  outside rest := by
    have hstop : shownPayloads 1 (.stop (.image url title) :: rest) = shownPayloads 0 rest :=
      shownPayloads_cons_inside 0 (.stop (.image url title)) rest
    rw [around_append, shownPayloads_cons_outside]
    exact (h.inside 0 (.stop (.image url title) :: rest)).trans hstop
  inside depth rest := by
    have hstop : shownPayloads (depth + 2) (.stop (.image url title) :: rest) =
        shownPayloads (depth + 1) rest :=
      shownPayloads_cons_inside (depth + 1) (.stop (.image url title)) rest
    rw [around_append, shownPayloads_cons_inside]
    exact (h.inside (depth + 1) (.stop (.image url title) :: rest)).trans hstop

theorem eq (h : Pays es t) : Text.withoutNewlines (payloads es) = t := h.outside.eq rfl

end Pays

/-! ### The texts of a document -/

open Html.Node (shownAll shownAll_nil shownAll_cons shownAll_append shown_text shown_void
  shown_element)

namespace Inline

mutual

theorem pays_events : ∀ i : Inline, Pays (events i) (node i).shown
  | .text t => by
    rw [events, node, shown_text]
    exact .single fun _ => rfl
  | .code t => by
    rw [events, node, shown_element, shownAll_cons, shownAll_nil, shown_text, List.append_nil]
    exact .single fun _ => rfl
  | .html t => by
    rw [events, node, shown_text]
    exact .single fun _ => rfl
  | .softBreak => by
    -- the newline that is written for it is not counted
    rw [events, node, shown_text]
    exact .single fun _ => rfl
  | .hardBreak => by
    rw [events, node, shown_void]
    exact .single fun _ => rfl
  | .emphasis content => by
    rw [events, node, shown_element]
    exact .around rfl (pays_eventsList content)
  | .strong content => by
    rw [events, node, shown_element]
    exact .around rfl (pays_eventsList content)
  | .deleted content => by
    rw [events, node, shown_element]
    exact .around rfl (pays_eventsList content)
  | .link url title content => by
    rw [events, node, shown_element]
    exact .around rfl (pays_eventsList content)
  | .image url title content => by
    rw [events, node, shown_void]
    exact .image (pays_eventsList content)
  | .checkbox ticked => by
    rw [events, node, shown_void]
    exact .single fun _ => rfl

theorem pays_eventsList : ∀ is : List Inline, Pays (eventsList is) (shownAll (nodes is))
  | [] => by
    rw [eventsList, nodes, shownAll_nil]
    exact .nil
  | i :: is => by
    rw [eventsList, nodes, shownAll_cons]
    exact (pays_events i).append (pays_eventsList is)

end

end Inline

namespace Block

theorem pays_cellEvents (element : Html.Alignment → Html.Element)
    (columns : List Html.Alignment) (cells : List (List Inline)) :
    Pays (cellEvents cells) (shownAll (cellNodes element columns cells)) := by
  have hcell : ∀ cell, Pays (around .tableCell (Inline.eventsList cell))
      (shownAll (Inline.nodes cell)) :=
    fun cell => .around rfl (Inline.pays_eventsList cell)
  induction columns, cells using cellNodes.induct with
  | case1 columns =>
    rw [cellNodes, shownAll_nil]
    exact .nil
  | case2 cell cells ih =>
    rw [cellNodes, shownAll_cons, shown_element]
    exact (hcell cell).append ih
  | case3 column columns cell cells ih =>
    rw [cellNodes, shownAll_cons, shown_element]
    exact (hcell cell).append ih

/-- The rows of a table after the header. -/
theorem pays_rows (columns : List Html.Alignment) (rows : List (List (List Inline))) :
    Pays (rows.flatMap fun row => around .tableRow (cellEvents row))
      (shownAll (rows.flatMap fun row =>
        [.element .row (cellNodes .cell columns row), .text ['\n']])) := by
  induction rows with
  | nil =>
    rw [List.flatMap_nil, List.flatMap_nil, shownAll_nil]
    exact .nil
  | cons row rows ih =>
    have hrow : shownAll [.element .row (cellNodes .cell columns row), .text ['\n']] =
        shownAll (cellNodes .cell columns row) := by
      simp [Text.withoutNewlines]
    rw [List.flatMap_cons, List.flatMap_cons, shownAll_append, hrow]
    exact (Pays.around rfl (pays_cellEvents .cell columns row)).append ih

mutual

theorem pays_events : ∀ b : Block (List Inline), Pays (events b) (shownAll (nodes b))
  | .paragraph prose => by
    rw [events, nodes, shownAll_cons, shown_element, shownAll_nil, List.append_nil]
    exact .around rfl (Inline.pays_eventsList prose)
  | .plain prose => by
    rw [events, nodes]
    exact Inline.pays_eventsList prose
  | .heading level prose => by
    rw [events, nodes, shownAll_cons, shown_element, shownAll_nil, List.append_nil]
    exact .around rfl (Inline.pays_eventsList prose)
  | .rule => by
    rw [events, nodes, shownAll_cons, shown_void, shownAll_nil]
    exact .single fun _ => rfl
  | .code info body => by
    have hbody : Pays [.text body] (Text.withoutNewlines body) := .single fun _ => rfl
    rw [events, nodes]
    simpa using hbody.around (c := .codeBlock info) rfl
  | .html body => by
    have hbody : Pays [.html body] (Text.withoutNewlines body) := .single fun _ => rfl
    rw [events, nodes]
    simpa using hbody.around (c := .htmlBlock) rfl
  | .quote content => by
    rw [events, nodes, shownAll_cons, shown_element, shownAll_nil, List.append_nil]
    exact .around rfl (pays_eventsList content)
  | .list start items => by
    rw [events, nodes, shownAll_cons, shown_element, shownAll_nil, List.append_nil]
    exact .around rfl (pays_itemEvents items)
  | .table columns header rows => by
    have hheader := (pays_cellEvents .headerCell columns header).around (c := .tableHead)
      rfl
    have htable := (hheader.append (pays_rows columns rows)).around (c := .table columns) rfl
    rw [events, nodes]
    simpa using htable

theorem pays_eventsList :
    ∀ bs : List (Block (List Inline)), Pays (eventsList bs) (shownAll (nodesList bs))
  | [] => by
    rw [eventsList, nodesList, shownAll_nil]
    exact .nil
  | b :: bs => by
    rw [eventsList, nodesList, shownAll_append]
    exact (pays_events b).append (pays_eventsList bs)

theorem pays_itemEvents :
    ∀ items : List (List (Block (List Inline))),
      Pays (itemEvents items) (shownAll (itemNodes items))
  | [] => by
    rw [itemEvents, itemNodes, shownAll_nil]
    exact .nil
  | item :: items => by
    rw [itemEvents, itemNodes, shownAll_cons, shown_element]
    exact (Pays.around rfl (pays_eventsList item)).append (pays_itemEvents items)

end

end Block

/-- **Formatting escapes every character once**, and HTML in the prose is shown as text.
Without its tags and newlines, and with references replaced once, the HTML of a text has the
texts of the events outside of images, in order. -/
theorem markdown_shows_payloads {table : Html.ReferenceTable} (htable : table.Knows)
    (o : Options) (t : Text) :
    Text.withoutNewlines (Html.decode table (Html.stripTags (Hook.markdown o t))) =
      Text.withoutNewlines (payloads (events o t)) := by
  have hlevelled := Block.levelledAll_nodesList (read o t) (levelled_read o t)
  have hseen := Html.Node.visible_render htable hlevelled
  rw [Hook.markdown, render_eq]
  exact hseen.trans (Block.pays_eventsList (read o t)).eq.symm

/-- References by name are replaced once in prose and not at all in code and HTML, in a
paragraph as in a table; the description of an image is not shown. -/
theorem markdown_shows_payloads_table :
    Html.ReferenceTable.quotes.Knows ∧
      Text.withoutNewlines (Html.decode .quotes (Html.stripTags (Hook.markdown .all
        ("<p>\n&lt;\n</p>\n\n- [x] &amp;lt; `&lt;` ![<i>](u) *\\<b>*\n\n".toList ++
          "caf&eacute; &mdash; `&mdash;`\n\n|<b>|`<`|\n|-|-|\n".toList)))) =
      "<p>&lt;</p>&lt; &lt;  <b>café — &mdash;<b><".toList := by
  refine ⟨Html.ReferenceTable.knows_quotes, ?_⟩
  rw [markdown_shows_payloads Html.ReferenceTable.knows_quotes]
  decide +kernel

/-- HTML that is written without being turned into text is not seen. -/
example :
    Html.stripTags (write [.inlineHtml "<b>".toList]) = [] ∧
      payloads [.inlineHtml "<b>".toList] = "<b>".toList := by
  decide +kernel

end Markdown
end Marginalia
