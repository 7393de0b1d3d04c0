import Marginalia.Proofs.Headings
import Marginalia.Proofs.Markup
import Marginalia.Proofs.Writing

/-!
# Formatted prose is markup

Whatever a text says, formatting it gives markup whose tags are those for prose.

## Main definitions

* `Html.Vocabulary.prose` — the tags for prose.
* `Html.Element.parts`, `Html.Void.parts` — what the tag of an element says.
* `Html.Node.Levelled` — a node whose headings are of levels from one to six.
* `Html.Node.elementTags` — the tags of the elements in a node.

## Main results

* `Html.Node.tagged_render` — the text of nodes is markup.
* `Markdown.tagged_render` — **formatted prose is markup.**
-/

namespace Marginalia
namespace Html

/-! ### The vocabulary -/

/-- The elements in formatted prose. -/
def Names.prose : Names where
  entries :=
    [("p".toList, []), ("h1".toList, []), ("h2".toList, []), ("h3".toList, []),
      ("h4".toList, []), ("h5".toList, []), ("h6".toList, []), ("blockquote".toList, []),
      ("ul".toList, []), ("ol".toList, ["start".toList]), ("li".toList, []),
      ("pre".toList, []), ("code".toList, ["class".toList]), ("table".toList, []),
      ("thead".toList, []), ("tbody".toList, []), ("tr".toList, []),
      ("th".toList, ["style".toList]), ("td".toList, ["style".toList]), ("em".toList, []),
      ("strong".toList, []), ("del".toList, []), ("a".toList, ["href".toList, "title".toList])]
  isName := by decide

/-- The elements without content in formatted prose. -/
def Names.proseVoids : Names where
  entries :=
    [("br".toList, []), ("hr".toList, []),
      ("img".toList, ["src".toList, "alt".toList, "title".toList]),
      ("input".toList, ["disabled".toList, "type".toList, "checked".toList])]
  isName := by decide

/-- The tags for prose. -/
def Vocabulary.prose : Vocabulary := ⟨.prose, .proseVoids⟩

/-! ### Tags -/

/-- The attribute that aligns a cell, if there is one. -/
def Alignment.parts : Alignment → List Attribute
  | .unset => []
  | .left => [⟨"style".toList, "text-align: left".toList⟩]
  | .center => [⟨"style".toList, "text-align: center".toList⟩]
  | .right => [⟨"style".toList, "text-align: right".toList⟩]

theorem Alignment.attribute_eq (a : Alignment) :
    a.attribute = a.parts.flatMap Attribute.write := by
  unfold Alignment.attribute parts
  cases a <;> simp [Attribute.write]

/-- The title, if there is one. -/
def titleParts (title : Text) : List Attribute :=
  if title.isEmpty then [] else [⟨"title".toList, escapeAttribute title⟩]

theorem titleAttribute_eq (title : Text) :
    titleAttribute title = (titleParts title).flatMap Attribute.write := by
  unfold titleAttribute titleParts
  split
  · rfl
  · simp [Attribute.write]

namespace Element

/-- What the tags of an element say. -/
def parts (e : Element) : Tag where
  name := e.name
  attributes :=
    match e with
    | .numbered start => if start = 1 then [] else [⟨"start".toList, Text.decimal start⟩]
    | .listing language =>
      if language.isEmpty then []
      else [⟨"class".toList, "language-".toList ++ escapeAttribute language⟩]
    | .headerCell alignment => alignment.parts
    | .cell alignment => alignment.parts
    | .link url title => ⟨"href".toList, escapeUrl url⟩ :: titleParts title
    | _ => []

@[simp] theorem parts_name (e : Element) : e.parts.name = e.name := rfl

theorem attributes_eq (e : Element) :
    e.attributes = e.parts.attributes.flatMap Attribute.write := by
  unfold attributes parts
  cases e with
  | numbered start =>
    dsimp only
    split
    · rfl
    · simp [Attribute.write]
  | listing language =>
    dsimp only
    split
    · rfl
    · simp [Attribute.write]
  | headerCell alignment => exact alignment.attribute_eq
  | cell alignment => exact alignment.attribute_eq
  | link url title => simp [Attribute.write, titleAttribute_eq]
  | _ => rfl

theorem openTag_eq (e : Element) : e.openTag = e.parts.opening := by
  rw [openTag, attributes_eq, Tag.opening, Tag.inside, parts_name, List.cons_append]

theorem closeTag_eq (e : Element) : e.closeTag = e.parts.closing := rfl

end Element

namespace Void

/-- What the tag of a void element says. -/
def parts : Void → Tag
  | .lineBreak => ⟨"br".toList, []⟩
  | .rule => ⟨"hr".toList, []⟩
  | .image url alt title =>
    ⟨"img".toList,
      ⟨"src".toList, escapeUrl url⟩ :: ⟨"alt".toList, escapeAttribute alt⟩ :: titleParts title⟩
  | .checkbox ticked =>
    ⟨"input".toList,
      [⟨"disabled".toList, []⟩, ⟨"type".toList, "checkbox".toList⟩] ++
        if ticked then [⟨"checked".toList, []⟩] else []⟩

/-- How the tag of a void element ends. -/
def slash : Void → Text
  | .checkbox _ => "/".toList
  | _ => " /".toList

theorem tag_eq (v : Void) : v.tag = v.parts.void v.slash := by
  unfold tag parts slash
  cases v with
  | checkbox ticked => cases ticked <;> simp [Tag.void, Tag.inside, Attribute.write]
  | _ => simp [Tag.void, Tag.inside, Attribute.write, titleAttribute_eq]

theorem slash_mem (v : Void) : v.slash ∈ slashes := by
  unfold slash slashes
  cases v <;> simp

end Void

/-! ### Allowed tags -/

/-- A cell has the name it has, and the attribute that aligns it if there is one. -/
theorem Alignment.allows (a : Alignment) {n : Names} {name : Text}
    (h : (name, ["style".toList]) ∈ n.entries) : n.Allows ⟨name, a.parts⟩ := by
  cases a
  case unset => exact Names.allows_bare h
  all_goals exact Names.allows_single h (List.mem_singleton_self _) (by decide)

theorem titleParts_allowed (title : Text) :
    ∀ x ∈ titleParts title, x.name = "title".toList ∧ Quotable x.value := by
  intro x hx
  unfold titleParts at hx
  split at hx
  · cases hx
  · obtain rfl := List.mem_singleton.mp hx
    exact ⟨rfl, quotable_escapeAttribute title⟩

/-- The level of a heading is one that there is. -/
def Element.Levelled : Element → Prop
  | .heading level => IsLevel level
  | _ => True

theorem allows_heading {level : Nat} (h : IsLevel level) :
    Names.prose.Allows ⟨"h".toList ++ Text.decimal level, []⟩ := by
  -- the six levels, one by one
  have hdigits : ∀ n < 7, 1 ≤ n → Text.decimal n ∈ [['1'], ['2'], ['3'], ['4'], ['5'], ['6']] := by
    decide
  have hdigit := hdigits level (Nat.lt_succ_of_le h.2) h.1
  unfold Names.prose
  refine ⟨[], ?_, by simp⟩
  simpa using hdigit

theorem Element.allows {e : Element} (h : e.Levelled) : Names.prose.Allows e.parts := by
  have hol : ("ol".toList, ["start".toList]) ∈ Names.prose.entries := by
    unfold Names.prose
    simp
  have hcode : ("code".toList, ["class".toList]) ∈ Names.prose.entries := by
    unfold Names.prose
    simp
  unfold parts name
  cases e with
  | heading level => exact allows_heading h
  | numbered start =>
    dsimp only
    split
    · exact Names.allows_bare hol
    · exact Names.allows_single hol (List.mem_singleton_self _) (quotable_decimal start)
  | listing language =>
    have hlabel : Quotable "language-".toList := by decide
    dsimp only
    split
    · exact Names.allows_bare hcode
    · exact Names.allows_single hcode (List.mem_singleton_self _)
        (quotable_append.mpr ⟨hlabel, quotable_escapeAttribute language⟩)
  | code => exact Names.allows_bare hcode
  | headerCell alignment => exact alignment.allows (by unfold Names.prose; simp)
  | cell alignment => exact alignment.allows (by unfold Names.prose; simp)
  | link url title =>
    refine ⟨["href".toList, "title".toList], by unfold Names.prose; simp, ?_⟩
    intro x hx
    rcases List.mem_cons.mp hx with rfl | hx
    · exact ⟨by simp, quotable_escapeUrl url⟩
    · obtain ⟨hname, hvalue⟩ := titleParts_allowed title x hx
      exact ⟨by simp [hname], hvalue⟩
  | _ => exact ⟨[], by unfold Names.prose; simp, by simp⟩

theorem Void.allows (v : Void) : Names.proseVoids.Allows v.parts := by
  unfold Names.proseVoids parts
  cases v with
  | image url alt title =>
    refine ⟨["src".toList, "alt".toList, "title".toList], by simp, ?_⟩
    intro x hx
    rcases List.mem_cons.mp hx with rfl | hx
    · exact ⟨by simp, quotable_escapeUrl url⟩
    rcases List.mem_cons.mp hx with rfl | hx
    · exact ⟨by simp, quotable_escapeAttribute alt⟩
    · obtain ⟨hname, hvalue⟩ := titleParts_allowed title x hx
      exact ⟨by simp [hname], hvalue⟩
  | checkbox ticked =>
    refine ⟨["disabled".toList, "type".toList, "checked".toList], by simp, ?_⟩
    cases ticked <;> decide
  | _ => exact ⟨[], by simp, by simp⟩

/-! ### Nodes -/

namespace Node

mutual

/-- All headings in the node are of levels that there are. -/
def Levelled : Node → Prop
  | .text _ => True
  | .void _ => True
  | .element e content => e.Levelled ∧ LevelledAll content

/-- All headings in the nodes are of levels that there are. -/
def LevelledAll : List Node → Prop
  | [] => True
  | node :: nodes => Levelled node ∧ LevelledAll nodes

end

@[simp] theorem levelled_text (t : Text) : (text t).Levelled := by simp only [Levelled]

@[simp] theorem levelled_void (v : Void) : (void v).Levelled := by simp only [Levelled]

@[simp] theorem levelled_element {e : Element} {content : List Node} :
    (element e content).Levelled ↔ e.Levelled ∧ LevelledAll content := by
  rw [Levelled]

@[simp] theorem levelledAll_nil : LevelledAll [] := by simp only [LevelledAll]

@[simp] theorem levelledAll_cons {node : Node} {nodes : List Node} :
    LevelledAll (node :: nodes) ↔ node.Levelled ∧ LevelledAll nodes := by
  rw [LevelledAll]

@[simp] theorem levelledAll_append {a b : List Node} :
    LevelledAll (a ++ b) ↔ LevelledAll a ∧ LevelledAll b := by
  induction a with
  | nil => simp
  | cons node a ih => simp [ih, and_assoc]

/-- An element alone. -/
theorem levelledAll_element {e : Element} {content : List Node} (he : e.Levelled)
    (h : LevelledAll content) : LevelledAll [.element e content] := by
  simp [he, h]

/-! ### The text of nodes -/

mutual

/-- The tags of the elements in a node. -/
def elementTags : Node → List Text
  | .text _ => []
  | .void v => [v.tag]
  | .element e content => e.openTag :: elementTagsAll content ++ [e.closeTag]

/-- The tags of the elements in nodes. -/
def elementTagsAll : List Node → List Text
  | [] => []
  | node :: nodes => elementTags node ++ elementTagsAll nodes

end

theorem tagged_newlineIf (v : Vocabulary) (wanted : Bool) : Tagged v (newlineIf wanted) [] := by
  refine .of_flat ?_
  cases wanted <;> decide

mutual

theorem tagged_write : ∀ (fresh : Bool) (node : Node), node.Levelled →
    Tagged .prose (write fresh node).1 (elementTags node)
  | fresh, .text t, _ => by
    rw [write, elementTags]
    exact .of_flat (flat_escapeText t)
  | fresh, .void v, _ => by
    have hbefore := tagged_newlineIf .prose (v.startsLine && !fresh)
    have hvoid : Tagged .prose (v.parts.void v.slash) _ := .void v.allows v.slash_mem
    have hafter := tagged_newlineIf .prose v.breaksAfter
    rw [write, elementTags, Void.tag_eq]
    simpa using (hbefore.append hvoid).append hafter
  | fresh, .element e content, h => by
    rw [Levelled] at h
    have hbefore := tagged_newlineIf .prose (e.startsLine && !fresh)
    have hinside := (tagged_newlineIf .prose e.breaksAfterOpen).append
      (tagged_writeAll e.breaksAfterOpen content h.2)
    have helement : Tagged .prose (e.parts.opening ++ _ ++ e.parts.closing) _ :=
      .element (Element.allows h.1) hinside
    have hafter := tagged_newlineIf .prose e.breaksAfterClose
    rw [write, elementTags, Element.openTag_eq, Element.closeTag_eq]
    simpa using (hbefore.append helement).append hafter

theorem tagged_writeAll : ∀ (fresh : Bool) (nodes : List Node), LevelledAll nodes →
    Tagged .prose (writeAll fresh nodes).1 (elementTagsAll nodes)
  | fresh, [], _ => by
    rw [writeAll, elementTagsAll]
    exact .of_flat flat_nil
  | fresh, node :: nodes, h => by
    rw [LevelledAll] at h
    rw [writeAll, elementTagsAll]
    exact (tagged_write fresh node h.1).append (tagged_writeAll _ nodes h.2)

end

/-- The text of nodes is markup, and the tags in it are those of their elements: texts bring
in none. -/
theorem tagged_render {nodes : List Node} (h : LevelledAll nodes) :
    Tagged .prose (render nodes) (elementTagsAll nodes) :=
  tagged_writeAll true nodes h

end Node
end Html

namespace Markdown

open Html.Node (LevelledAll levelledAll_element levelledAll_cons levelledAll_append)

/-! ### Spans -/

namespace Inline

mutual

theorem levelled_node : ∀ i : Inline, (node i).Levelled
  | .text t => by simp [node]
  | .code t => by simp [node, Html.Element.Levelled]
  | .html t => by simp [node]
  | .softBreak => by simp [node]
  | .hardBreak => by simp [node]
  | .emphasis content => by simp [node, Html.Element.Levelled, levelledAll_nodes content]
  | .strong content => by simp [node, Html.Element.Levelled, levelledAll_nodes content]
  | .deleted content => by simp [node, Html.Element.Levelled, levelledAll_nodes content]
  | .link url title content => by
    simp [node, Html.Element.Levelled, levelledAll_nodes content]
  | .image url title content => by simp [node]
  | .checkbox ticked => by simp [node]

theorem levelledAll_nodes : ∀ is : List Inline, LevelledAll (nodes is)
  | [] => by simp [nodes]
  | i :: is => by
    rw [nodes]
    exact levelledAll_cons.mpr ⟨levelled_node i, levelledAll_nodes is⟩

end

end Inline

/-! ### Blocks -/

namespace Block

theorem levelledAll_cellNodes {element : Html.Alignment → Html.Element}
    (helement : ∀ a, (element a).Levelled) :
    ∀ (columns : List Html.Alignment) (cells : List (List Inline)),
      LevelledAll (cellNodes element columns cells) := by
  intro columns cells
  induction columns, cells using cellNodes.induct with
  | case1 columns => simp [cellNodes]
  | case2 cell cells ih => simp [cellNodes, helement, Inline.levelledAll_nodes, ih]
  | case3 column columns cell cells ih =>
    simp [cellNodes, helement, Inline.levelledAll_nodes, ih]

/-- The rows of a table after the header. -/
theorem levelledAll_rows (columns : List Html.Alignment) :
    ∀ rows : List (List (List Inline)),
      LevelledAll (rows.flatMap fun row =>
        [.element .row (cellNodes .cell columns row), .text ['\n']]) := by
  intro rows
  induction rows with
  | nil => simp
  | cons row rows ih =>
    have hcell : ∀ a, (Html.Element.cell a).Levelled := fun _ => trivial
    have hcells := levelledAll_cellNodes hcell columns row
    rw [List.flatMap_cons, levelledAll_append]
    refine ⟨?_, ih⟩
    simp [Html.Element.Levelled, hcells]

mutual

theorem levelledAll_nodes : ∀ b : Block (List Inline), b.Levelled → LevelledAll (nodes b)
  | .paragraph prose, _ => by
    rw [nodes]
    exact levelledAll_element trivial (Inline.levelledAll_nodes prose)
  | .plain prose, _ => by
    rw [nodes]
    exact Inline.levelledAll_nodes prose
  | .heading level prose, h => by
    rw [Levelled] at h
    rw [nodes]
    exact levelledAll_element h (Inline.levelledAll_nodes prose)
  | .rule, _ => by simp [nodes]
  | .code language body, _ => by
    rw [nodes]
    exact levelledAll_element trivial (levelledAll_element trivial (by simp))
  | .html body, _ => by simp [nodes]
  | .quote content, h => by
    rw [Levelled] at h
    rw [nodes]
    exact levelledAll_element trivial (levelledAll_nodesList content h)
  | .list start items, h => by
    rw [Levelled] at h
    rw [nodes]
    refine levelledAll_element ?_ (levelledAll_itemNodes items h)
    cases start <;> trivial
  | .table columns header rows, _ => by
    have hcell : ∀ a, (Html.Element.headerCell a).Levelled := fun _ => trivial
    have hcells := levelledAll_cellNodes hcell columns header
    have hhead := levelledAll_element (e := .tableHead) trivial
      (levelledAll_element (e := .row) trivial hcells)
    have hbody := levelledAll_element (e := .tableBody) trivial (levelledAll_rows columns rows)
    rw [nodes]
    exact levelledAll_element trivial (levelledAll_append.mpr ⟨hhead, hbody⟩)

theorem levelledAll_nodesList :
    ∀ bs : List (Block (List Inline)), LevelledList bs → LevelledAll (nodesList bs)
  | [], _ => by simp [nodesList]
  | b :: bs, h => by
    rw [LevelledList] at h
    rw [nodesList, levelledAll_append]
    exact ⟨levelledAll_nodes b h.1, levelledAll_nodesList bs h.2⟩

theorem levelledAll_itemNodes :
    ∀ items : List (List (Block (List Inline))), LevelledItems items →
      LevelledAll (itemNodes items)
  | [], _ => by simp [itemNodes]
  | item :: items, h => by
    rw [LevelledItems] at h
    rw [itemNodes]
    exact levelledAll_cons.mpr
      ⟨Html.Node.levelled_element.mpr ⟨trivial, levelledAll_nodesList item h.1⟩,
        levelledAll_itemNodes items h.2⟩

end

end Block

/-- **Formatted prose is markup**, whatever the text says, and the tags in it are those of
the elements of the document. -/
theorem tagged_render (o : Options) (t : Text) :
    Html.Tagged .prose (render o t)
      (Html.Node.elementTagsAll (Block.nodesList (read o t))) := by
  rw [render_eq]
  exact Html.Node.tagged_render (Block.levelledAll_nodesList _ (levelled_read o t))

end Markdown
end Marginalia
