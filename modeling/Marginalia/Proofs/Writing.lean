import Marginalia.Markdown
import Mathlib.Data.List.Basic

/-!
# Events written as a tree

A document is written event by event.  Its events come from a tree of blocks and spans, and
what is written is the text of a tree of HTML: each container becomes an element around what
is inside, and a text becomes a text.  HTML in the document has been turned into text before,
so that nothing in the tree is markup that the document has brought in.

## Main definitions

* `Markdown.Inline.node`, `Markdown.Block.nodes` — spans and blocks as HTML.
* `Markdown.Writer.Open` — a writer outside of images, whose text is shown.
* `Markdown.Writes`, `Markdown.Shows` — events that are written as nodes; for the latter what
  is remembered of tables may change.
* `Markdown.Describes` — events that are written as a text in the description of an image.

## Main results

* `Markdown.Writes.around`, `Markdown.Writes.image` — containers become elements.
* `Markdown.Inline.writes_events`, `Markdown.Block.shows_events` — spans and blocks.
* `Markdown.render_eq` — **what is written of a document is the text of its tree.**
-/

namespace Marginalia

/-! ### Nodes one after another -/

namespace Html

theorem endsLine_append (t : Text) {u : Text} (h : u ≠ []) : endsLine (t ++ u) = endsLine u := by
  rw [endsLine, List.getLast?_append_of_ne_nil _ h, endsLine]

namespace Node

theorem writeAll_append (fresh : Bool) (a b : List Node) :
    writeAll fresh (a ++ b) =
      ((writeAll fresh a).1 ++ (writeAll (writeAll fresh a).2 b).1,
        (writeAll (writeAll fresh a).2 b).2) := by
  induction a generalizing fresh with
  | nil => simp [writeAll]
  | cons node a ih => simp [writeAll, ih]

theorem writeAll_singleton (fresh : Bool) (node : Node) :
    writeAll fresh [node] = write fresh node := by
  simp [writeAll]

end Node
end Html

namespace Markdown

/-! ### The tree of HTML -/

namespace Inline

mutual

/-- A span of an image's description, without any formatting. -/
def description : Inline → Text
  | .text t => t
  | .code t => t
  | .html t => t
  | .softBreak => [' ']
  | .hardBreak => [' ']
  | .emphasis content => descriptions content
  | .strong content => descriptions content
  | .deleted content => descriptions content
  | .link _ _ content => descriptions content
  | .image _ _ content => descriptions content
  | .checkbox ticked => if ticked then "[x]".toList else "[ ]".toList

/-- Spans of an image's description. -/
def descriptions : List Inline → Text
  | [] => []
  | i :: is => description i ++ descriptions is

end

mutual

/-- A span as HTML. -/
def node : Inline → Html.Node
  | .text t => .text t
  | .code t => .element .code [.text t]
  | .html t => .text t
  | .softBreak => .text ['\n']
  | .hardBreak => .void .lineBreak
  | .emphasis content => .element .emphasis (nodes content)
  | .strong content => .element .strong (nodes content)
  | .deleted content => .element .deleted (nodes content)
  | .link url title content => .element (.link url title) (nodes content)
  | .image url title content => .void (.image url (descriptions content) title)
  | .checkbox ticked => .void (.checkbox ticked)

/-- Spans as HTML. -/
def nodes : List Inline → List Html.Node
  | [] => []
  | i :: is => node i :: nodes is

end

end Inline

namespace Block

/-- The cells of a row, each aligned as its column is. -/
def cellNodes (element : Html.Alignment → Html.Element) :
    List Html.Alignment → List (List Inline) → List Html.Node
  | _, [] => []
  | [], cell :: cells =>
    .element (element .unset) (Inline.nodes cell) :: cellNodes element [] cells
  | column :: columns, cell :: cells =>
    .element (element column) (Inline.nodes cell) :: cellNodes element columns cells

mutual

/-- A block as HTML. -/
def nodes : Block (List Inline) → List Html.Node
  | .paragraph prose => [.element .paragraph (Inline.nodes prose)]
  | .plain prose => Inline.nodes prose
  | .heading level prose => [.element (.heading level) (Inline.nodes prose)]
  | .rule => [.void .rule]
  | .code info body =>
    [.element .preformatted [.element (.listing (Writer.language info)) [.text body]]]
  | .html body => [.text body]
  | .quote content => [.element .quote (nodesList content)]
  | .list start items => [.element (Writer.listElement start) (itemNodes items)]
  | .table columns header rows =>
    [.element .table
      [ .element .tableHead [.element .row (cellNodes .headerCell columns header)],
        .element .tableBody (rows.flatMap fun row =>
          [.element .row (cellNodes .cell columns row), .text ['\n']]) ]]

/-- Blocks as HTML. -/
def nodesList : List (Block (List Inline)) → List Html.Node
  | [] => []
  | b :: bs => nodes b ++ nodesList bs

/-- The items of a list as HTML. -/
def itemNodes : List (List (Block (List Inline))) → List Html.Node
  | [] => []
  | item :: items => .element .item (nodesList item) :: itemNodes items

end

end Block

/-! ### Writing -/

namespace Writing

/-- Nodes one after another. -/
def nodes (ns : List Html.Node) : Writing := fun w =>
  ((Html.Node.writeAll w.fresh ns).1, { w with fresh := (Html.Node.writeAll w.fresh ns).2 })

theorem nodes_append (a b : List Html.Node) : nodes (a ++ b) = (nodes a).andThen (nodes b) := by
  funext w
  rw [nodes, Html.Node.writeAll_append]
  rfl

theorem nodes_pair (a b : Html.Node) : nodes [a, b] = (nodes [a]).andThen (nodes [b]) :=
  nodes_append [a] [b]

theorem andThen_assoc (f g h : Writing) :
    (f.andThen g).andThen h = f.andThen (g.andThen h) := by
  funext w
  simp [andThen]

/-- An element around nodes. -/
theorem nodes_element (e : Html.Element) (ns : List Html.Node) :
    nodes [.element e ns] = (opening e).andThen ((nodes ns).andThen (closing e)) := by
  funext w
  simp [nodes, andThen, opening, closing, Html.Node.writeAll_singleton, Html.Node.write]

theorem nodes_void (v : Html.Void) : nodes [.void v] = void v := by
  funext w
  simp [nodes, void, Html.Node.writeAll_singleton, Html.Node.write]

theorem void_image (url alt title : Text) (w : Writer) :
    void (.image url alt title) w =
      ((Html.Void.image url alt title).tag, { w with fresh := false }) :=
  Prod.ext (List.append_nil _) rfl

theorem nodes_text (t : Text) :
    nodes [.text t] = fun w => (Html.escapeText t, { w with fresh := Html.endsLine t }) := by
  funext w
  simp [nodes, Html.Node.writeAll_singleton, Html.Node.write]

end Writing

namespace Writer

open Writing

theorem run_append (es es' : List Event) : run (es ++ es') = (run es).andThen (run es') := by
  induction es with
  | nil => rfl
  | cons e es ih => rw [List.cons_append, run, run, ih, andThen_assoc]

/-- The writer is outside of images, and text is shown. -/
structure Open (w : Writer) : Prop where
  image : w.image = none
  silent : w.silent = false

/-- What is written last decides whether a line has ended. -/
theorem put_append (t : Text) {u : Text} (h : u ≠ []) (w : Writer) :
    put (t ++ u) w = (t ++ u, { w with fresh := Html.endsLine u }) := by
  rw [put, Html.endsLine_append t h]

theorem begin_image (url title : Text) (w : Writer) :
    begin (.image url title) w =
      ("<img src=\"".toList ++ Html.escapeUrl url ++ "\" alt=\"".toList,
        { w with fresh := false, image := some ⟨0, title⟩ }) := by
  rw [begin, andThen, put_append _ (by decide)]
  rfl

theorem endImage_eq (title : Text) (w : Writer) :
    endImage title w =
      ("\"".toList ++ Html.titleAttribute title ++ " />".toList,
        { w with fresh := false, image := none }) := by
  rw [endImage, andThen, put_append _ (by decide)]
  rfl

/-- A heading without a name, classes or attributes begins as an element does. -/
theorem begin_heading (level : Nat) :
    begin (.heading level none [] []) = opening (.heading level) := by
  have hnames : headingNames none [] = [] := rfl
  have hattributes : (Html.Element.heading level).attributes = [] := rfl
  have htag : '<' :: (Html.Element.heading level).name ++ headingNames none [] ++
      [].flatMap headingAttribute ++ ['>'] = (Html.Element.heading level).openTag := by
    rw [hnames, List.flatMap_nil, List.append_nil, Html.Element.openTag, hattributes]
  have hfresh : Html.endsLine (Html.Element.heading level).openTag = false :=
    Html.endsLine_append _ (by decide)
  funext w
  rw [begin, htag, onFreshLine, hfresh]
  exact Prod.ext (List.append_nil _).symm rfl

/-- A block quote that is not about anything begins as an element does. -/
theorem begin_quote : begin (.quote none) = opening .quote := by
  have htag : "<blockquote".toList ++ alertAttribute none ++ ">\n".toList =
      Html.Element.quote.openTag ++ ['\n'] := by decide
  have hfresh : Html.endsLine (Html.Element.quote.openTag ++ ['\n']) = true :=
    Html.endsLine_append _ (by decide)
  funext w
  rw [begin, htag, onFreshLine, hfresh, ← List.append_assoc]
  rfl

theorem step_of_open {w : Writer} (h : w.Open) (e : Event) : step e w = write e w := by
  rw [step, h.image]

theorem step_of_image {w : Writer} {i : OpenImage} (h : w.image = some i) (e : Event) :
    step e w = describe i e w := by
  rw [step, h]

theorem describe_stop_zero (title : Text) (c : Container) :
    describe ⟨0, title⟩ (.stop c) = endImage title := rfl

theorem describe_start (i : OpenImage) (c : Container) (w : Writer) :
    describe i (.start c) w = ([], { w with image := some { i with depth := i.depth + 1 } }) := rfl

theorem describe_stop_succ (i : OpenImage) (c : Container) (w : Writer) :
    describe { i with depth := i.depth + 1 } (.stop c) w = ([], { w with image := some i }) := rfl

end Writer

/-- Events as they are written: HTML among them is text. -/
def writing (es : List Event) : Writing := Writer.run (es.map Event.demote)

theorem writing_append (es es' : List Event) :
    writing (es ++ es') = (writing es).andThen (writing es') := by
  rw [writing, List.map_append, Writer.run_append]
  rfl

theorem writing_singleton (e : Event) : writing [e] = Writer.step e.demote := by
  funext w
  simp [writing, Writer.run, Writing.andThen, Writing.nothing]

theorem writing_around (c : Container) (es : List Event) :
    writing (around c es) =
      (Writer.step (.start c)).andThen ((writing es).andThen (Writer.step (.stop c))) := by
  have hstop : writing [.stop c] = Writer.step (.stop c) := writing_singleton (.stop c)
  rw [← hstop, ← writing_append]
  rfl

/-! ### Descriptions of images -/

/-- In the description of an image the events are written as the text `t`, escaped. -/
def Describes (es : List Event) (t : Text) : Prop :=
  ∀ (w : Writer) (i : OpenImage), w.image = some i →
    ∃ fresh, writing es w = (Html.escapeAttribute t, { w with fresh := fresh })

namespace Describes

variable {es es' : List Event} {t t' : Text}

theorem nil : Describes [] [] := fun w _ _ => ⟨w.fresh, rfl⟩

theorem append (h : Describes es t) (h' : Describes es' t') :
    Describes (es ++ es') (t ++ t') := by
  intro w i hi
  obtain ⟨fresh, hw⟩ := h w i hi
  obtain ⟨fresh', hw'⟩ := h' { w with fresh := fresh } i hi
  refine ⟨fresh', ?_⟩
  rw [writing_append, Writing.andThen, hw, hw', Html.escapeAttribute, Html.escapeAttribute,
    Html.escapeAttribute, List.flatMap_append]

/-- An event that is written as a text. -/
theorem single {e : Event} (h : ∀ i w, ∃ fresh,
    Writer.describe i e.demote w = (Html.escapeAttribute t, { w with fresh := fresh })) :
    Describes [e] t := by
  intro w i hi
  rw [writing_singleton, Writer.step_of_image hi]
  exact h i w

/-- Containers have no formatting in a description. -/
theorem around (c : Container) (h : Describes es t) : Describes (around c es) t := by
  intro w i hi
  -- the container is one level deeper, and back from there
  obtain ⟨fresh, hw⟩ := h { w with image := some { i with depth := i.depth + 1 } } _ rfl
  refine ⟨fresh, ?_⟩
  rw [writing_around, Writing.andThen, Writer.step_of_image hi, Writer.describe_start,
    Writing.andThen, hw, Writer.step_of_image rfl, Writer.describe_stop_succ, hi, List.nil_append,
    List.append_nil]

end Describes

/-! ### Nodes -/

/-- Outside of images the events are written as the nodes `ns`. -/
def Writes (es : List Event) (ns : List Html.Node) : Prop :=
  ∀ w : Writer, w.Open → writing es w = Writing.nodes ns w

/-- Outside of images the events are written as the nodes `ns`; nothing is said of what is
remembered of tables. -/
def Shows (es : List Event) (ns : List Html.Node) : Prop :=
  ∀ w : Writer, w.Open → ∃ w' : Writer, w'.Open ∧
    w'.fresh = (Html.Node.writeAll w.fresh ns).2 ∧
    writing es w = ((Html.Node.writeAll w.fresh ns).1, w')

/-- A container outside of images, around what has been written. -/
theorem writing_container {c : Container} {es : List Event} {w : Writer} {r : Text × Writer}
    (hw : w.Open) (h : writing es (Writer.begin c w).2 = r) (hr : r.2.Open) :
    writing (around c es) w =
      ((Writer.begin c w).1 ++ (r.1 ++ (Writer.finish c r.2).1), (Writer.finish c r.2).2) := by
  rw [writing_around, Writing.andThen, Writer.step_of_open hw, Writer.write, Writing.andThen, h,
    Writer.step_of_open hr, Writer.write]

namespace Writes

variable {es es' : List Event} {ns ns' : List Html.Node}

theorem nil : Writes [] [] := fun _ _ => rfl

theorem append (h : Writes es ns) (h' : Writes es' ns') : Writes (es ++ es') (ns ++ ns') := by
  intro w hw
  have hafter : (Writing.nodes ns w).2.Open := ⟨hw.image, hw.silent⟩
  rw [writing_append, Writing.nodes_append, Writing.andThen, h w hw, h' _ hafter]
  rfl

/-- An event that is written as a node. -/
theorem single {e : Event}
    (h : ∀ w : Writer, w.Open → Writer.write e.demote w = Writing.nodes ns w) :
    Writes [e] ns := by
  intro w hw
  rw [writing_singleton, Writer.step_of_open hw, h w hw]

/-- A container that is written as an element. -/
theorem around {c : Container} {e : Html.Element} (hbegin : Writer.begin c = Writing.opening e)
    (hfinish : Writer.finish c = Writing.closing e) (h : Writes es ns) :
    Writes (around c es) [.element e ns] := by
  intro w hw
  have hinside : writing es (Writer.begin c w).2 = Writing.nodes ns (Writing.opening e w).2 := by
    rw [hbegin]
    exact h _ ⟨hw.image, hw.silent⟩
  rw [writing_container hw hinside ⟨hw.image, hw.silent⟩, Writing.nodes_element, hbegin, hfinish]
  rfl

/-- An image has its description as an attribute. -/
theorem image {url title t : Text} (h : Describes es t) :
    Writes (Markdown.around (.image url title) es) [.void (.image url t title)] := by
  intro w hw
  have hstart : Writer.step (.start (.image url title)) w =
      ("<img src=\"".toList ++ Html.escapeUrl url ++ "\" alt=\"".toList,
        { w with fresh := false, image := some ⟨0, title⟩ }) := by
    rw [Writer.step_of_open hw, Writer.write, Writer.begin_image]
  obtain ⟨fresh, hes⟩ := h { w with fresh := false, image := some ⟨0, title⟩ } ⟨0, title⟩ rfl
  -- the description is open when the image ends
  have hstop : Writer.step (.stop (.image url title))
      { w with fresh := fresh, image := some ⟨0, title⟩ } =
        ("\"".toList ++ Html.titleAttribute title ++ " />".toList,
          { w with fresh := false, image := none }) := by
    rw [Writer.step_of_image rfl, Writer.describe_stop_zero, Writer.endImage_eq]
  have htag : (Html.Void.image url t title).tag =
      "<img src=\"".toList ++ Html.escapeUrl url ++ "\" alt=\"".toList ++
        (Html.escapeAttribute t ++ ("\"".toList ++ Html.titleAttribute title ++ " />".toList)) := by
    unfold Html.Void.tag
    simp
  rw [writing_around, Writing.nodes_void, Writing.void_image, htag, hw.image, Writing.andThen,
    hstart, Writing.andThen, hes, hstop]

theorem shows (h : Writes es ns) : Shows es ns :=
  fun w hw => ⟨(Writing.nodes ns w).2, ⟨hw.image, hw.silent⟩, rfl, h w hw⟩

end Writes

namespace Shows

variable {es es' : List Event} {ns ns' : List Html.Node}

theorem nil : Shows [] [] := Writes.nil.shows

theorem append (h : Shows es ns) (h' : Shows es' ns') : Shows (es ++ es') (ns ++ ns') := by
  intro w hw
  obtain ⟨w', hw', hfresh, hes⟩ := h w hw
  obtain ⟨w'', hw'', hfresh', hes'⟩ := h' w' hw'
  refine ⟨w'', hw'', ?_, ?_⟩
  · rw [hfresh', hfresh, Html.Node.writeAll_append]
  · rw [writing_append, Html.Node.writeAll_append, Writing.andThen, hes, hes', hfresh]

/-- A container that is written as an element. -/
theorem around {c : Container} {e : Html.Element} (hbegin : Writer.begin c = Writing.opening e)
    (hfinish : Writer.finish c = Writing.closing e) (h : Shows es ns) :
    Shows (around c es) [.element e ns] := by
  intro w hw
  obtain ⟨w', hw', -, hes⟩ := h (Writing.opening e w).2 ⟨hw.image, hw.silent⟩
  rw [← hbegin] at hes
  refine ⟨(Writing.closing e w').2, ⟨hw'.image, hw'.silent⟩, ?_, ?_⟩
  · rw [Html.Node.writeAll_singleton, Html.Node.write]
    rfl
  · rw [writing_container hw hes hw', hbegin, hfinish, Html.Node.writeAll_singleton,
      Html.Node.write]
    simp [Writing.opening, Writing.closing]

end Shows

/-! ### Spans -/

namespace Inline

mutual

theorem describes_events : ∀ i : Inline, Describes (events i) (description i)
  | .text t => by
    rw [events, description]
    exact .single fun i w => ⟨_, rfl⟩
  | .code t => by
    rw [events, description]
    exact .single fun i w => ⟨_, rfl⟩
  | .html t => by
    rw [events, description]
    exact .single fun i w => ⟨_, rfl⟩
  | .softBreak => by
    rw [events, description]
    exact .single fun i w => ⟨_, rfl⟩
  | .hardBreak => by
    rw [events, description]
    exact .single fun i w => ⟨_, rfl⟩
  | .emphasis content => by
    rw [events, description]
    exact .around _ (describes_eventsList content)
  | .strong content => by
    rw [events, description]
    exact .around _ (describes_eventsList content)
  | .deleted content => by
    rw [events, description]
    exact .around _ (describes_eventsList content)
  | .link url title content => by
    rw [events, description]
    exact .around _ (describes_eventsList content)
  | .image url title content => by
    rw [events, description]
    exact .around _ (describes_eventsList content)
  | .checkbox ticked => by
    rw [events, description]
    exact .single fun i w => by cases ticked <;> exact ⟨_, rfl⟩

theorem describes_eventsList : ∀ is : List Inline, Describes (eventsList is) (descriptions is)
  | [] => by
    rw [eventsList, descriptions]
    exact .nil
  | i :: is => by
    rw [eventsList, descriptions]
    exact (describes_events i).append (describes_eventsList is)

end

mutual

theorem writes_events : ∀ i : Inline, Writes (events i) [node i]
  | .text t => by
    rw [events, node]
    exact .single fun w hw => by simp [Event.demote, Writer.write, hw.silent, Writing.nodes_text]
  | .code t => by
    rw [events, node]
    refine .single fun w hw => ?_
    rw [Writing.nodes_element, Writing.nodes_text]
    rfl
  | .html t => by
    rw [events, node]
    exact .single fun w hw => by simp [Event.demote, Writer.write, hw.silent, Writing.nodes_text]
  | .softBreak => by
    rw [events, node]
    refine .single fun w hw => ?_
    rw [Writing.nodes_text]
    rfl
  | .hardBreak => by
    rw [events, node]
    exact .single fun w hw => by rw [Writing.nodes_void]; rfl
  | .emphasis content => by
    rw [events, node]
    exact .around rfl rfl (writes_eventsList content)
  | .strong content => by
    rw [events, node]
    exact .around rfl rfl (writes_eventsList content)
  | .deleted content => by
    rw [events, node]
    exact .around rfl rfl (writes_eventsList content)
  | .link url title content => by
    rw [events, node]
    exact .around rfl rfl (writes_eventsList content)
  | .image url title content => by
    rw [events, node]
    exact .image (describes_eventsList content)
  | .checkbox ticked => by
    rw [events, node]
    exact .single fun w hw => by rw [Writing.nodes_void]; rfl

theorem writes_eventsList : ∀ is : List Inline, Writes (eventsList is) (nodes is)
  | [] => by
    rw [eventsList, nodes]
    exact .nil
  | i :: is => by
    rw [eventsList, nodes]
    exact (writes_events i).append (writes_eventsList is)

end

end Inline

/-! ### Tables -/

namespace Block

theorem cellNodes_cons (element : Html.Alignment → Html.Element) (columns : List Html.Alignment)
    (cell : List Inline) (cells : List (List Inline)) :
    cellNodes element columns (cell :: cells) =
      .element (element (columns.headD .unset)) (Inline.nodes cell) ::
        cellNodes element columns.tail cells := by
  cases columns <;> rfl

/-- A cell has the element of its column, and the writer goes on to the next one. -/
theorem writing_cell {w : Writer} (hw : w.Open) (cell : List Inline) :
    writing (around .tableCell (Inline.eventsList cell)) w =
      Writing.nodes [.element w.cellElement (Inline.nodes cell)]
        { w with column := w.column + 1 } := by
  have hinside := Inline.writes_eventsList cell (Writer.begin .tableCell w).2
    ⟨hw.image, hw.silent⟩
  rw [writing_container hw hinside ⟨hw.image, hw.silent⟩, Writing.nodes_element]
  rfl

/-- The cells of a row are aligned from the column on where the writer is. -/
theorem writing_cellEvents (cells : List (List Inline)) : ∀ w : Writer, w.Open →
    writing (cellEvents cells) w =
      Writing.nodes (cellNodes (Writer.cellOf w.inHead) (w.columns.drop w.column) cells)
        { w with column := w.column + cells.length } := by
  -- the writer counts columns where the tree takes them off a list
  induction cells with
  | nil =>
    intro w hw
    rfl
  | cons cell cells ih =>
    intro w hw
    have helement : Writer.cellOf w.inHead ((w.columns.drop w.column).headD .unset) =
        w.cellElement := by
      rw [Writer.cellElement, List.getD_eq_getElem?_getD, List.headD_eq_head?_getD,
        List.head?_drop]
    have hnodes : Writing.nodes
        (cellNodes (Writer.cellOf w.inHead) (w.columns.drop w.column) (cell :: cells)) =
          (Writing.nodes [.element w.cellElement (Inline.nodes cell)]).andThen (Writing.nodes
            (cellNodes (Writer.cellOf w.inHead) (w.columns.drop (w.column + 1)) cells)) := by
      rw [cellNodes_cons, helement, List.tail_drop, ← Writing.nodes_append, List.singleton_append]
    have hsplit : cellEvents (cell :: cells) =
        around .tableCell (Inline.eventsList cell) ++ cellEvents cells := List.flatMap_cons
    have hcount : w.column + (cell :: cells).length = w.column + 1 + cells.length := by
      rw [List.length_cons]
      omega
    have hcells := ih (Writing.nodes [.element w.cellElement (Inline.nodes cell)]
      { w with column := w.column + 1 }).2 ⟨hw.image, hw.silent⟩
    rw [hsplit, writing_append, Writing.andThen, writing_cell hw, hcells, hnodes, hcount]
    rfl

/-- The cells of a row, when the row has just begun. -/
theorem writing_row {c : Container} {v w : Writer} (hw : w.Open)
    (hbegin : (Writer.begin c v).2 = { w with column := 0 }) (cells : List (List Inline)) :
    writing (cellEvents cells) (Writer.begin c v).2 =
      Writing.nodes (cellNodes (Writer.cellOf w.inHead) w.columns cells)
        { w with column := cells.length } := by
  have hcells := writing_cellEvents cells { w with column := 0 } ⟨hw.image, hw.silent⟩
  rw [hbegin, hcells, Nat.zero_add]
  rfl

/-- The header row, with the beginning of the part for the others. -/
theorem writing_tableHead {w : Writer} (hw : w.Open) (header : List (List Inline)) :
    writing (around .tableHead (cellEvents header)) w =
      ((Writing.nodes [.element .tableHead [.element .row
          (cellNodes .headerCell w.columns header)]]).andThen (Writing.opening .tableBody))
        { w with inHead := false, column := header.length } := by
  have hcells := writing_row (c := .tableHead) (v := w)
    (w := { w with fresh := false, inHead := true }) ⟨hw.image, hw.silent⟩ rfl header
  rw [writing_container hw hcells ⟨hw.image, hw.silent⟩, Writing.nodes_element,
    Writing.nodes_element]
  simp only [Writer.begin, Writer.finish, Writing.andThen, Writing.remember, List.nil_append,
    List.append_assoc]
  rfl

/-- A row after the header. -/
theorem writing_tableRow {w : Writer} (hw : w.Open) (hhead : w.inHead = false)
    (row : List (List Inline)) :
    writing (around .tableRow (cellEvents row)) w =
      Writing.nodes [.element .row (cellNodes .cell w.columns row), .text ['\n']]
        { w with column := row.length } := by
  have hcells := writing_row (c := .tableRow) (v := w) (w := { w with fresh := false })
    ⟨hw.image, hw.silent⟩ rfl row
  have hcell : Writer.cellOf w.inHead = .cell := by rw [hhead]; rfl
  rw [writing_container hw hcells ⟨hw.image, hw.silent⟩, Writing.nodes_pair, Writing.nodes_element,
    Writing.nodes_text, hcell]
  simp only [Writer.begin, Writer.finish, Writing.andThen, Writing.remember, List.nil_append,
    List.append_assoc]
  rfl

/-- The rows after the header. -/
theorem writing_tableRows (rows : List (List (List Inline))) :
    ∀ w : Writer, w.Open → w.inHead = false → ∃ column,
      writing (rows.flatMap fun row => around .tableRow (cellEvents row)) w =
        Writing.nodes (rows.flatMap fun row =>
            [.element .row (cellNodes .cell w.columns row), .text ['\n']])
          { w with column := column } := by
  induction rows with
  | nil =>
    intro w _ _
    exact ⟨w.column, rfl⟩
  | cons row rows ih =>
    intro w hw hhead
    obtain ⟨column, hrows⟩ := ih (Writing.nodes
      [.element .row (cellNodes .cell w.columns row), .text ['\n']]
        { w with column := row.length }).2 ⟨hw.image, hw.silent⟩ hhead
    refine ⟨column, ?_⟩
    rw [List.flatMap_cons, List.flatMap_cons, writing_append, Writing.andThen,
      writing_tableRow hw hhead, hrows, Writing.nodes_append]
    rfl

/-- What stands inside of a table. -/
theorem writing_tableParts {w : Writer} (hw : w.Open) (header : List (List Inline))
    (rows : List (List (List Inline))) : ∃ column,
      writing (around .tableHead (cellEvents header) ++
          rows.flatMap fun row => around .tableRow (cellEvents row)) w =
        ((Writing.nodes [.element .tableHead [.element .row
            (cellNodes .headerCell w.columns header)]]).andThen
          ((Writing.opening .tableBody).andThen (Writing.nodes (rows.flatMap fun row =>
            [.element .row (cellNodes .cell w.columns row), .text ['\n']]))))
          { w with inHead := false, column := column } := by
  obtain ⟨column, hrows⟩ := writing_tableRows rows
    { w with fresh := true, inHead := false, column := header.length } ⟨hw.image, hw.silent⟩ rfl
  have hafter : (writing (around .tableHead (cellEvents header)) w).2 =
      { w with fresh := true, inHead := false, column := header.length } := by
    rw [writing_tableHead hw]
    rfl
  refine ⟨column, ?_⟩
  rw [writing_append, Writing.andThen, hafter, hrows, writing_tableHead hw,
    ← Writing.andThen_assoc]
  rfl

/-- A table is a part for its header and a part for the other rows. -/
theorem shows_table (columns : List Html.Alignment) (header : List (List Inline))
    (rows : List (List (List Inline))) :
    Shows (events (.table columns header rows)) (nodes (.table columns header rows)) := by
  intro w hw
  -- the header row ends its part and begins that of the others, which the table ends
  obtain ⟨column, hinside⟩ := writing_tableParts (w := (Writer.begin (.table columns) w).2)
    ⟨hw.image, hw.silent⟩ header rows
  have htree : Writing.nodes (nodes (.table columns header rows)) =
      (Writing.opening .table).andThen
        (((Writing.nodes [.element .tableHead [.element .row
            (cellNodes .headerCell columns header)]]).andThen
          ((Writing.opening .tableBody).andThen ((Writing.nodes (rows.flatMap fun row =>
            [.element .row (cellNodes .cell columns row), .text ['\n']])).andThen
              (Writing.closing .tableBody)))).andThen (Writing.closing .table)) := by
    rw [nodes, Writing.nodes_element, Writing.nodes_pair, Writing.nodes_element .tableBody]
  refine ⟨{ w with fresh := true, columns := columns, column := column, inHead := false },
    ⟨hw.image, hw.silent⟩, ?_, ?_⟩
  · rw [nodes, Html.Node.writeAll_singleton, Html.Node.write]
    rfl
  · change _ = ((Writing.nodes (nodes (.table columns header rows)) w).1, _)
    rw [events, writing_container hw hinside ⟨hw.image, hw.silent⟩, htree]
    simp only [Writing.andThen_assoc]
    simp only [Writer.begin, Writer.finish, Writing.andThen, Writing.remember, List.nil_append,
      List.append_assoc]
    rfl

end Block

/-! ### Blocks -/

namespace Block

/-- A code block is preformatted text around a listing. -/
theorem writes_code (info body : Text) :
    Writes (around (.codeBlock info) [.text body])
      [.element .preformatted [.element (.listing (Writer.language info)) [.text body]]] := by
  have hbody : Writes [.text body] [.text body] := Inline.writes_events (.text body)
  intro w hw
  have hinside := hbody (Writer.begin (.codeBlock info) w).2 ⟨hw.image, hw.silent⟩
  rw [writing_container hw hinside ⟨hw.image, hw.silent⟩, Writing.nodes_element,
    Writing.nodes_element]
  simp [Writer.begin, Writer.finish, Writing.andThen]

/-- Nothing stands around a block of HTML. -/
theorem writes_html (body : Text) : Writes (around .htmlBlock [.html body]) [.text body] := by
  have hbody : Writes [.html body] [.text body] := Inline.writes_events (.html body)
  intro w hw
  have hinside := hbody w hw
  rw [writing_container hw hinside ⟨hw.image, hw.silent⟩]
  exact Prod.ext (List.append_nil _) rfl

mutual

theorem shows_events : ∀ b : Block (List Inline), Shows (events b) (nodes b)
  | .paragraph prose => by
    rw [events, nodes]
    exact .around rfl rfl (Inline.writes_eventsList prose).shows
  | .plain prose => by
    rw [events, nodes]
    exact (Inline.writes_eventsList prose).shows
  | .heading level prose => by
    rw [events, nodes]
    exact .around (Writer.begin_heading level) rfl (Inline.writes_eventsList prose).shows
  | .rule => by
    rw [events, nodes]
    exact (Writes.single fun w hw => by rw [Writing.nodes_void]; rfl).shows
  | .code info body => by
    rw [events, nodes]
    exact (writes_code info body).shows
  | .html body => by
    rw [events, nodes]
    exact (writes_html body).shows
  | .quote content => by
    rw [events, nodes]
    exact .around Writer.begin_quote rfl (shows_eventsList content)
  | .list start items => by
    rw [events, nodes]
    exact .around rfl rfl (shows_itemEvents items)
  | .table columns header rows => shows_table columns header rows

theorem shows_eventsList : ∀ bs : List (Block (List Inline)), Shows (eventsList bs) (nodesList bs)
  | [] => by
    rw [eventsList, nodesList]
    exact .nil
  | b :: bs => by
    rw [eventsList, nodesList]
    exact (shows_events b).append (shows_eventsList bs)

theorem shows_itemEvents :
    ∀ items : List (List (Block (List Inline))), Shows (itemEvents items) (itemNodes items)
  | [] => by
    rw [itemEvents, itemNodes]
    exact .nil
  | item :: items => by
    rw [itemEvents, itemNodes]
    exact (Shows.around rfl rfl (shows_eventsList item)).append (shows_itemEvents items)

end

end Block

/-- **What is written of a document is the text of its tree**: HTML in the document has become
text, and nothing in the tree is markup that the document has brought in. -/
theorem render_eq (o : Options) (t : Text) :
    render o t = Html.Node.render (Block.nodesList (read o t)) := by
  obtain ⟨w', hw', -, hes⟩ := Block.shows_eventsList (read o t) {} ⟨rfl, rfl⟩
  -- no image is open at the end
  have hrest : w'.rest = [] := by rw [Writer.rest, hw'.image]
  have hrun : Writer.run ((events o t).map Event.demote) {} = _ := hes
  rw [render, write, hrun, hrest, List.append_nil]
  rfl

end Markdown
end Marginalia
