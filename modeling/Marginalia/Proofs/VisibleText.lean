import Marginalia.Proofs.ProseMarkup
import Marginalia.Proofs.References

/-!
# What a reader sees of formatted prose

A reader of HTML passes over the tags and sees what the references stand for.  Newlines are
left out of account, since some are written for the layout of the HTML only.

## Main definitions

* `Html.stripTags` — a text without its tags.
* `Text.withoutNewlines`, `Html.visible` — a text without newlines, and what is seen of HTML.
* `Yields` — what a function makes of a beginning, whatever follows it.
* `Html.Node.shown` — the text in a node.

## Main results

* `Html.yields_escapeText`, `Html.yields_tag` — escaped text is seen, and tags are not.
* `Html.Node.visible_render` — **what is seen of nodes is the text in them.**
-/

namespace Marginalia

/-! ### What is made of a beginning -/

/-- The function makes `t` of the beginning `x`, whatever follows it. -/
def Yields {α : Type} (f : List α → Text) (x : List α) (t : Text) : Prop :=
  ∀ rest, f (x ++ rest) = t ++ f rest

namespace Yields

variable {α : Type} {f : List α → Text} {x y : List α} {t u : Text}

theorem nil : Yields f [] [] := fun _ => rfl

theorem append (hx : Yields f x t) (hy : Yields f y u) : Yields f (x ++ y) (t ++ u) := by
  intro rest
  rw [List.append_assoc, hx, hy, List.append_assoc]

/-- Where nothing follows, nothing else is made. -/
theorem eq (h : Yields f x t) (hnil : f [] = []) : f x = t := by
  have hx := h []
  rwa [hnil, List.append_nil, List.append_nil] at hx

end Yields

/-- A text without its newlines. -/
def Text.withoutNewlines (t : Text) : Text := t.filter (· != '\n')

@[simp] theorem Text.withoutNewlines_append (a b : Text) :
    withoutNewlines (a ++ b) = withoutNewlines a ++ withoutNewlines b := List.filter_append ..

namespace Html

/-! ### Tags are passed over -/

/-- A text without its tags; `inside` says whether it begins inside of one. -/
def stripFrom : (inside : Bool) → Text → Text
  | _, [] => []
  | false, c :: t => if c = '<' then stripFrom true t else c :: stripFrom false t
  | true, c :: t => if c = '>' then stripFrom false t else stripFrom true t

/-- A text without its tags, each from an opening bracket to the next closing one. -/
def stripTags (t : Text) : Text := stripFrom false t

theorem stripTags_append {a : Text} (h : Flat a) (rest : Text) :
    stripTags (a ++ rest) = a ++ stripTags rest := by
  induction a with
  | nil => rfl
  | cons c a ih =>
    obtain ⟨hc, ha⟩ := List.forall_mem_cons.mp h
    rw [List.cons_append, stripTags, stripFrom, if_neg hc.1, List.cons_append]
    exact congrArg _ (ih ha)

theorem stripFrom_inside {body : Text} (h : Flat body) (rest : Text) :
    stripFrom true (body ++ '>' :: rest) = stripTags rest := by
  induction body with
  | nil => rfl
  | cons c body ih =>
    obtain ⟨hc, hbody⟩ := List.forall_mem_cons.mp h
    rw [List.cons_append, stripFrom, if_neg hc.2]
    exact ih hbody

theorem stripTags_tag {v : Vocabulary} {tag : Text} (h : v.IsTag tag) (rest : Text) :
    stripTags (tag ++ rest) = stripTags rest := by
  obtain ⟨body, rfl, hbody⟩ := h.eq_body
  rw [List.append_assoc, List.cons_append, stripTags, stripFrom, if_pos rfl,
    List.singleton_append]
  exact stripFrom_inside hbody rest

/-! ### What is seen -/

/-- What a reader sees of HTML, newlines apart: there are no tags in it, and references have
been replaced once. -/
def visible (table : ReferenceTable) (t : Text) : Text :=
  Text.withoutNewlines (decode table (stripTags t))

variable {table : ReferenceTable}

@[simp] theorem visible_nil : visible table [] = [] := rfl

/-- Tags are not seen. -/
theorem yields_tag {v : Vocabulary} {tag : Text} (h : v.IsTag tag) :
    Yields (visible table) tag [] := by
  intro rest
  rw [visible, stripTags_tag h]
  rfl

/-- Newlines for the layout are not seen. -/
theorem yields_newlineIf (wanted : Bool) : Yields (visible table) (newlineIf wanted) [] := by
  cases wanted with
  | false => exact .nil
  | true =>
    intro rest
    have hflat : Flat ['\n'] := by decide
    rw [newlineIf, if_pos rfl, visible, stripTags_append hflat, List.singleton_append,
      decode_cons (by decide)]
    rfl

/-- Escaped text is seen as it was. -/
theorem yields_escapeText (h : table.Knows) (t : Text) :
    Yields (visible table) (escapeText t) (Text.withoutNewlines t) := by
  intro rest
  rw [visible, stripTags_append (flat_escapeText t), decode_escapeText_append h,
    Text.withoutNewlines_append, visible]

/-! ### Nodes -/

namespace Node

mutual

/-- The text in a node, newlines apart. -/
def shown : Node → Text
  | .text t => Text.withoutNewlines t
  | .void _ => []
  | .element _ content => shownAll content

/-- The text in nodes, newlines apart. -/
def shownAll : List Node → Text
  | [] => []
  | node :: nodes => shown node ++ shownAll nodes

end

@[simp] theorem shown_text (t : Text) : (text t).shown = Text.withoutNewlines t := by
  rw [shown]

@[simp] theorem shown_void (v : Void) : (void v).shown = [] := by rw [shown]

@[simp] theorem shown_element (e : Element) (content : List Node) :
    (element e content).shown = shownAll content := by
  rw [shown]

@[simp] theorem shownAll_nil : shownAll [] = [] := by rw [shownAll]

@[simp] theorem shownAll_cons (node : Node) (nodes : List Node) :
    shownAll (node :: nodes) = node.shown ++ shownAll nodes := by
  rw [shownAll]

@[simp] theorem shownAll_append (a b : List Node) :
    shownAll (a ++ b) = shownAll a ++ shownAll b := by
  induction a with
  | nil => simp
  | cons node a ih => simp [ih]

mutual

theorem yields_write (htable : table.Knows) : ∀ (fresh : Bool) (node : Node), node.Levelled →
    Yields (visible table) (write fresh node).1 node.shown
  | fresh, .text t, _ => by
    rw [write, shown_text]
    exact yields_escapeText htable t
  | fresh, .void v, _ => by
    have hbefore := @yields_newlineIf table (v.startsLine && !fresh)
    have hvoid := @yields_tag table .prose _ (.void v.allows v.slash_mem)
    have hafter := @yields_newlineIf table v.breaksAfter
    rw [write, shown_void, Void.tag_eq]
    exact (hbefore.append hvoid).append hafter
  | fresh, .element e content, h => by
    obtain ⟨he, hcontent⟩ := levelled_element.mp h
    have hbefore := @yields_newlineIf table (e.startsLine && !fresh)
    have hopen := @yields_tag table .prose _ (.opening (Element.allows he))
    have hbreak := @yields_newlineIf table e.breaksAfterOpen
    have hinside := yields_writeAll htable e.breaksAfterOpen content hcontent
    have hclose := @yields_tag table .prose _ (.closing (Element.allows he))
    have hafter := @yields_newlineIf table e.breaksAfterClose
    rw [write, shown_element, Element.openTag_eq, Element.closeTag_eq]
    simpa using ((((hbefore.append hopen).append hbreak).append hinside).append hclose).append
      hafter

theorem yields_writeAll (htable : table.Knows) : ∀ (fresh : Bool) (nodes : List Node),
    LevelledAll nodes → Yields (visible table) (writeAll fresh nodes).1 (shownAll nodes)
  | fresh, [], _ => by
    rw [writeAll, shownAll_nil]
    exact .nil
  | fresh, node :: nodes, h => by
    obtain ⟨hnode, hnodes⟩ := levelledAll_cons.mp h
    rw [writeAll, shownAll_cons]
    exact (yields_write htable fresh node hnode).append (yields_writeAll htable _ nodes hnodes)

end

/-- **What is seen of nodes is the text in them.** -/
theorem visible_render (htable : table.Knows) {nodes : List Node} (h : LevelledAll nodes) :
    visible table (render nodes) = shownAll nodes :=
  (yields_writeAll htable true nodes h).eq visible_nil

end Node
end Html
end Marginalia
