import Marginalia.Markdown.Event

/-!
# Events as HTML

The events of a document are written one after another.  Most of them are tags from a fixed
vocabulary or text, which is escaped; HTML is written as it is, so that it depends on the
events whether a document can bring in markup of its own.

## Main definitions

* `Markdown.Writer` — what there is to remember between events.
* `Markdown.Writing` — a piece of text that is written, and the writer after it.
* `Markdown.Writer.begin`, `Markdown.Writer.finish` — what stands around other events.
* `Markdown.Writer.write`, `Markdown.Writer.describe` — an event, outside of images and in the
  description of one.
* `Markdown.Writer.run`, `Markdown.write` — events as HTML.

A block begins on a fresh line: when what has been written does not end in a newline, one is
written before it.
-/

namespace Marginalia
namespace Markdown

open Html (Element Void newlineIf endsLine escapeText escapeAttribute escapeUrl titleAttribute)

/-- An image whose description is being written. -/
structure OpenImage where
  /-- How many containers are open in the description. -/
  depth : Nat
  /-- The title of the image. -/
  title : Text
  deriving DecidableEq, Repr

/-- What is remembered from one event to the next. -/
structure Writer where
  /-- Whether the text so far is at the beginning of a line. -/
  fresh : Bool := true
  /-- How the columns of the table are aligned. -/
  columns : List Html.Alignment := []
  /-- How many cells of the row there have been. -/
  column : Nat := 0
  /-- Whether the row is the header row. -/
  inHead : Bool := true
  /-- The names of the footnotes so far, in the order of their numbers. -/
  footnotes : List Text := []
  /-- Whether text is left out, as it belongs to data about the document. -/
  silent : Bool := false
  /-- The image whose description is being written. -/
  image : Option OpenImage := none
  deriving DecidableEq, Repr

/-- What is written, and the writer after it. -/
abbrev Writing := Writer → Text × Writer

namespace Writing

/-- Nothing. -/
def nothing : Writing := fun w => ([], w)

/-- A text as it is. -/
def put (t : Text) : Writing := fun w => (t, { w with fresh := endsLine t })

/-- A text as it is, on a fresh line. -/
def onFreshLine (t : Text) : Writing := fun w =>
  (newlineIf (!w.fresh) ++ t, { w with fresh := endsLine t })

/-- No text, but a change of what is remembered. -/
def remember (f : Writer → Writer) : Writing := fun w => ([], f w)

/-- One after the other. -/
def andThen (f g : Writing) : Writing := fun w =>
  let first := f w
  let second := g first.2
  (first.1 ++ second.1, second.2)

/-- The tag that opens an element. -/
def opening (e : Element) : Writing := fun w =>
  (newlineIf (e.startsLine && !w.fresh) ++ e.openTag ++ newlineIf e.breaksAfterOpen,
    { w with fresh := e.breaksAfterOpen })

/-- The tag that closes an element. -/
def closing (e : Element) : Writing := fun w =>
  (e.closeTag ++ newlineIf e.breaksAfterClose, { w with fresh := e.breaksAfterClose })

/-- An element without content. -/
def void (v : Void) : Writing := fun w =>
  (newlineIf (v.startsLine && !w.fresh) ++ v.tag ++ newlineIf v.breaksAfter,
    { w with fresh := v.breaksAfter })

end Writing

namespace Writer

open Writing

/-! ### What stands around other events -/

/-- The class of a block quote that is about something. -/
def alertAttribute : Option Alert → Text
  | none => []
  | some .note => " class=\"markdown-alert-note\"".toList
  | some .tip => " class=\"markdown-alert-tip\"".toList
  | some .important => " class=\"markdown-alert-important\"".toList
  | some .warning => " class=\"markdown-alert-warning\"".toList
  | some .caution => " class=\"markdown-alert-caution\"".toList

/-- The name and the classes of a heading. -/
def headingNames (id : Option Text) (classes : List Text) : Text :=
  (match id with
    | none => []
    | some id => " id=\"".toList ++ escapeAttribute id ++ "\"".toList) ++
  (match classes with
    | [] => []
    | first :: others =>
      " class=\"".toList ++ escapeAttribute first ++
        (others.flatMap fun name => ' ' :: escapeAttribute name) ++ "\"".toList)

/-- Another attribute of a heading. -/
def headingAttribute (entry : Text × Option Text) : Text :=
  ' ' :: escapeAttribute entry.1 ++ "=\"".toList ++ entry.2.elim [] escapeAttribute ++
    "\"".toList

/-- The number of a footnote: they are counted as their names come up. -/
def numbered (name : Text) (rest : Nat → Writing) : Writing := fun w =>
  let names := if w.footnotes.contains name then w.footnotes else w.footnotes ++ [name]
  rest (names.idxOf name + 1) { w with footnotes := names }

/-- The name of the language in what stands after a fence. -/
def language (info : Text) : Text := info.takeWhile (· != ' ')

/-- The element of a list. -/
def listElement : Option Nat → Element
  | none => .bullets
  | some start => .numbered start

/-- The element of a cell, in the header row or in another. -/
def cellOf (inHead : Bool) : Html.Alignment → Element := if inHead then .headerCell else .cell

/-- The element of the next cell. -/
def cellElement (w : Writer) : Element := cellOf w.inHead (w.columns.getD w.column .unset)

/-- What is written where something begins. -/
def begin : Container → Writing
  | .paragraph => opening .paragraph
  | .heading level id classes attributes =>
    onFreshLine ('<' :: (Element.heading level).name ++ headingNames id classes ++
      attributes.flatMap headingAttribute ++ ['>'])
  | .quote alert => onFreshLine ("<blockquote".toList ++ alertAttribute alert ++ ">\n".toList)
  | .codeBlock info => (opening .preformatted).andThen (opening (.listing (language info)))
  | .htmlBlock => nothing
  | .list start => opening (listElement start)
  | .item => opening .item
  | .footnote name => numbered name fun n =>
    onFreshLine ("<div class=\"footnote-definition\" id=\"".toList ++ escapeAttribute name ++
      "\"><sup class=\"footnote-definition-label\">".toList ++ Text.decimal n ++
        "</sup>".toList)
  | .definitions => onFreshLine "<dl>\n".toList
  | .term => onFreshLine "<dt>".toList
  | .definition => onFreshLine "<dd>".toList
  | .table columns => (remember fun w => { w with columns := columns }).andThen (opening .table)
  | .tableHead =>
    (remember fun w => { w with inHead := true, column := 0 }).andThen
      ((opening .tableHead).andThen (opening .row))
  | .tableRow => (remember fun w => { w with column := 0 }).andThen (opening .row)
  | .tableCell => fun w => opening w.cellElement w
  | .emphasis => opening .emphasis
  | .strong => opening .strong
  | .deleted => opening .deleted
  | .superscript => put "<sup>".toList
  | .subscript => put "<sub>".toList
  | .link url title => opening (.link url title)
  | .image url title =>
    (remember fun w => { w with image := some ⟨0, title⟩ }).andThen
      (put ("<img src=\"".toList ++ escapeUrl url ++ "\" alt=\"".toList))
  | .metadata => remember fun w => { w with silent := true }

/-- What is written where something ends. -/
def finish : Container → Writing
  | .paragraph => closing .paragraph
  | .heading level _ _ _ => closing (.heading level)
  | .quote _ => closing .quote
  | .codeBlock info => (closing (.listing (language info))).andThen (closing .preformatted)
  | .htmlBlock => nothing
  | .list start => closing (listElement start)
  | .item => closing .item
  | .footnote _ => put "</div>\n".toList
  | .definitions => put "</dl>\n".toList
  | .term => put "</dt>\n".toList
  | .definition => put "</dd>\n".toList
  | .table _ => (closing .tableBody).andThen (closing .table)
  | .tableHead =>
    (remember fun w => { w with inHead := false }).andThen
      ((closing .row).andThen ((closing .tableHead).andThen (opening .tableBody)))
  | .tableRow => (closing .row).andThen (put ['\n'])
  | .tableCell => fun w =>
    (remember fun w => { w with column := w.column + 1 }).andThen (closing w.cellElement) w
  | .emphasis => closing .emphasis
  | .strong => closing .strong
  | .deleted => closing .deleted
  | .superscript => put "</sup>".toList
  | .subscript => put "</sub>".toList
  | .link url title => closing (.link url title)
  -- the end of an image ends its description
  | .image _ _ => nothing
  | .metadata => remember fun w => { w with silent := false }

/-! ### Events -/

/-- An event outside of images. -/
def write : Event → Writing
  | .start c => begin c
  | .stop c => finish c
  | .text t => fun w =>
    if w.silent then nothing w else (escapeText t, { w with fresh := endsLine t })
  | .code t => (opening .code).andThen ((put (escapeText t)).andThen (closing .code))
  | .formula display t =>
    put ((if display then "<span class=\"math math-display\">".toList
      else "<span class=\"math math-inline\">".toList) ++ escapeAttribute t ++ "</span>".toList)
  | .html t => if t.isEmpty then nothing else put t
  | .inlineHtml t => if t.isEmpty then nothing else put t
  | .footnoteReference name => numbered name fun n =>
    put ("<sup class=\"footnote-reference\"><a href=\"#".toList ++ escapeAttribute name ++
      "\">".toList ++ Text.decimal n ++ "</a></sup>".toList)
  | .softBreak => put ['\n']
  | .hardBreak => void .lineBreak
  | .rule => void .rule
  | .task ticked => void (.checkbox ticked)

/-- The end of an image, after its description. -/
def endImage (title : Text) : Writing :=
  (remember fun w => { w with image := none }).andThen
    (put ("\"".toList ++ titleAttribute title ++ " />".toList))

/-- An event in the description of an image, which has no formatting. -/
def describe (i : OpenImage) : Event → Writing
  | .start _ => remember fun w => { w with image := some { i with depth := i.depth + 1 } }
  | .stop _ =>
    if i.depth = 0 then endImage i.title
    else remember fun w => { w with image := some { i with depth := i.depth - 1 } }
  | .text t | .code t | .inlineHtml t => fun w =>
    (escapeAttribute t, { w with fresh := endsLine t })
  | .formula display t =>
    let mark := if display then "$$".toList else "$".toList
    put (mark ++ escapeAttribute t ++ mark)
  | .html _ => nothing
  | .footnoteReference name => numbered name fun n =>
    put ('[' :: Text.decimal n ++ [']'])
  | .softBreak | .hardBreak | .rule => put [' ']
  | .task ticked => put (if ticked then "[x]".toList else "[ ]".toList)

/-- An event. -/
def step (e : Event) : Writing := fun w =>
  match w.image with
  | none => write e w
  | some i => describe i e w

/-- Events one after another. -/
def run : List Event → Writing
  | [] => nothing
  | e :: es => (step e).andThen (run es)

/-- What is left to be written when there are no more events: the end of an image. -/
def rest (w : Writer) : Text :=
  match w.image with
  | none => []
  | some i => (endImage i.title w).1

end Writer

/-- Events as HTML. -/
def write (es : List Event) : Text :=
  let written := Writer.run es {}
  written.1 ++ written.2.rest

end Markdown
end Marginalia
