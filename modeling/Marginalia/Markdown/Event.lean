import Marginalia.Markdown.Tree

/-!
# The events of a document

A document can be read out as a series of events: something begins or ends, or there is a
piece of text.  HTML in a document has events of its own.  It is not to be obeyed, so these
events are turned into events of text before anything is written.

There are events for more than a `Markdown.Block` can hold: notes, formulas, definitions and
the like, which only occur with extensions that are not read here.

## Main definitions

* `Markdown.Container`, `Markdown.Event` — the events, and what may stand around others.
* `Markdown.Event.payload` — the text that an event brings into a document.
* `Markdown.Event.demote` — HTML turned into text.
* `Markdown.Inline.events`, `Markdown.Block.events` — spans and blocks read out.
-/

namespace Marginalia
namespace Markdown

/-- What a block quote can be about. -/
inductive Alert where
  /-- Something worth knowing. -/
  | note
  /-- Something helpful. -/
  | tip
  /-- Something one must know. -/
  | important
  /-- Something one must attend to. -/
  | warning
  /-- Something with consequences. -/
  | caution
  deriving DecidableEq, Repr

/-- What may stand around other events. -/
inductive Container where
  /-- A paragraph. -/
  | paragraph
  /-- A heading; it may have a name, classes and other attributes with or without a value. -/
  | heading (level : Nat) (id : Option Text) (classes : List Text)
      (attributes : List (Text × Option Text))
  /-- A block quote. -/
  | quote (alert : Option Alert)
  /-- A code block, with what stands after its fence. -/
  | codeBlock (info : Text)
  /-- A block of HTML. -/
  | htmlBlock
  /-- A list, with the number of the first item if they are numbered. -/
  | list (start : Option Nat)
  /-- An item of a list. -/
  | item
  /-- The text of a footnote. -/
  | footnote (name : Text)
  /-- A list of definitions. -/
  | definitions
  /-- What is defined. -/
  | term
  /-- What it is defined as. -/
  | definition
  /-- A table, with the alignment of each column. -/
  | table (columns : List Html.Alignment)
  /-- The header row of a table. -/
  | tableHead
  /-- Another row of a table. -/
  | tableRow
  /-- A cell of a row. -/
  | tableCell
  /-- Emphasis. -/
  | emphasis
  /-- Strong emphasis. -/
  | strong
  /-- Text struck through. -/
  | deleted
  /-- Text above the line. -/
  | superscript
  /-- Text below the line. -/
  | subscript
  /-- A link. -/
  | link (url title : Text)
  /-- An image, whose description is inside. -/
  | image (url title : Text)
  /-- Data about the document, which is not shown. -/
  | metadata
  deriving DecidableEq, Repr

/-- An event in a document. -/
inductive Event where
  /-- Something begins. -/
  | start (c : Container)
  /-- Something ends. -/
  | stop (c : Container)
  /-- Text of prose, or of a code block. -/
  | text (t : Text)
  /-- A code span. -/
  | code (t : Text)
  /-- A formula, in a line or by itself. -/
  | formula (display : Bool) (t : Text)
  /-- HTML in a block of its own. -/
  | html (t : Text)
  /-- HTML in prose. -/
  | inlineHtml (t : Text)
  /-- A reference to a footnote. -/
  | footnoteReference (name : Text)
  /-- A line end without meaning. -/
  | softBreak
  /-- A line end that is to be kept. -/
  | hardBreak
  /-- A thematic break. -/
  | rule
  /-- The box of a task. -/
  | task (ticked : Bool)
  deriving DecidableEq, Repr

namespace Event

/-- The text of an event: prose, code and HTML. -/
def payload : Event → Text
  | .text t | .code t | .html t | .inlineHtml t => t
  | _ => []

/-- HTML turned into text; other events stay. -/
def demote : Event → Event
  | .html t | .inlineHtml t => .text t
  | e => e

/-- Whether an event is HTML. -/
def isHtml : Event → Bool
  | .html _ | .inlineHtml _ => true
  | _ => false

/-- Whether an event is the beginning or the end of the text of a footnote. -/
def isFootnote : Event → Bool
  | .start (.footnote _) | .stop (.footnote _) => true
  | _ => false

/-- No HTML is left. -/
@[simp] theorem isHtml_demote (e : Event) : e.demote.isHtml = false := by
  cases e <;> rfl

@[simp] theorem isFootnote_demote (e : Event) : e.demote.isFootnote = e.isFootnote := by
  cases e <;> rfl

/-- Turning HTML into text leaves what an event says. -/
@[simp] theorem payload_demote (e : Event) : e.demote.payload = e.payload := by
  cases e <;> rfl

end Event

/-! ### Documents read out -/

/-- Events inside of something. -/
def around (c : Container) (es : List Event) : List Event := .start c :: (es ++ [.stop c])

namespace Inline

mutual

/-- A span read out. -/
def events : Inline → List Event
  | .text t => [.text t]
  | .code t => [.code t]
  | .html t => [.inlineHtml t]
  | .softBreak => [.softBreak]
  | .hardBreak => [.hardBreak]
  | .emphasis content => around .emphasis (eventsList content)
  | .strong content => around .strong (eventsList content)
  | .deleted content => around .deleted (eventsList content)
  | .link url title content => around (.link url title) (eventsList content)
  | .image url title content => around (.image url title) (eventsList content)
  | .checkbox ticked => [.task ticked]

/-- Spans read out. -/
def eventsList : List Inline → List Event
  | [] => []
  | i :: is => events i ++ eventsList is

end

end Inline

namespace Block

/-- The cells of a row read out. -/
def cellEvents (cells : List (List Inline)) : List Event :=
  cells.flatMap fun cell => around .tableCell (Inline.eventsList cell)

mutual

/-- A block read out. -/
def events : Block (List Inline) → List Event
  | .paragraph prose => around .paragraph (Inline.eventsList prose)
  | .plain prose => Inline.eventsList prose
  | .heading level prose => around (.heading level none [] []) (Inline.eventsList prose)
  | .rule => [.rule]
  | .code info body => around (.codeBlock info) [.text body]
  | .html body => around .htmlBlock [.html body]
  | .quote content => around (.quote none) (eventsList content)
  | .list start items => around (.list start) (itemEvents items)
  | .table columns header rows =>
    around (.table columns) (around .tableHead (cellEvents header) ++
      rows.flatMap fun row => around .tableRow (cellEvents row))

/-- Blocks read out. -/
def eventsList : List (Block (List Inline)) → List Event
  | [] => []
  | b :: bs => events b ++ eventsList bs

/-- The items of a list read out. -/
def itemEvents : List (List (Block (List Inline))) → List Event
  | [] => []
  | item :: items => around .item (eventsList item) ++ itemEvents items

end

end Block
end Markdown
end Marginalia
