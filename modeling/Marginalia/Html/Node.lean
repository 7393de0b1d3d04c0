import Marginalia.Html.Escape

/-!
# HTML from a fixed vocabulary

The elements of formatted prose and their attributes come from the types below and from
nowhere else.  What is written for a document that brings in no markup of its own is the
text of a tree of such elements, in which all that the document says is text, escaped when
the tree is written.

## Main definitions

* `Html.Alignment`, `Html.Element`, `Html.Void` — the vocabulary.
* `Html.Node` — a text, an element with its content, or a void element.
* `Html.Node.write` — the tree as a text, an element at a time.

A block element begins on a fresh line: when what has been written does not end in
a newline, one is written before it.  Writing therefore carries along whether the
text so far is at the beginning of a line.
-/

namespace Marginalia
namespace Html

/-- How the cells of a table column are aligned. -/
inductive Alignment where
  /-- As the reader's program likes. -/
  | unset
  /-- To the left. -/
  | left
  /-- In the middle. -/
  | center
  /-- To the right. -/
  | right
  deriving DecidableEq, Repr

/-- The elements that have content. -/
inductive Element where
  /-- A paragraph. -/
  | paragraph
  /-- A heading of a level from one to six. -/
  | heading (level : Nat)
  /-- A block quote. -/
  | quote
  /-- A list whose items are marked by bullets. -/
  | bullets
  /-- A list whose items are numbered, from `start` on. -/
  | numbered (start : Nat)
  /-- An item of a list. -/
  | item
  /-- Preformatted text, around `listing`. -/
  | preformatted
  /-- A code block, with the name of its language if one is given. -/
  | listing (language : Text)
  /-- A table. -/
  | table
  /-- The part of a table with the header row. -/
  | tableHead
  /-- The part of a table with the other rows. -/
  | tableBody
  /-- A row of a table. -/
  | row
  /-- A cell of the header row. -/
  | headerCell (alignment : Alignment)
  /-- A cell of another row. -/
  | cell (alignment : Alignment)
  /-- A code span. -/
  | code
  /-- Emphasis. -/
  | emphasis
  /-- Strong emphasis. -/
  | strong
  /-- Text struck through. -/
  | deleted
  /-- A link, with a title unless that is empty. -/
  | link (url title : Text)
  deriving DecidableEq, Repr

/-- The elements without content. -/
inductive Void where
  /-- A line break. -/
  | lineBreak
  /-- A thematic break. -/
  | rule
  /-- An image, with a title unless that is empty. -/
  | image (url alt title : Text)
  /-- The box of a task, ticked or not. -/
  | checkbox (ticked : Bool)
  deriving DecidableEq, Repr

/-- A piece of formatted prose. -/
inductive Node where
  /-- Text, not yet escaped. -/
  | text (t : Text)
  /-- An element and what it holds. -/
  | element (e : Element) (content : List Node)
  /-- An element that holds nothing. -/
  | void (v : Void)

/-! ### Tags -/

/-- The attribute that aligns a cell. -/
def Alignment.attribute : Alignment → Text
  | .unset => []
  | .left => " style=\"text-align: left\"".toList
  | .center => " style=\"text-align: center\"".toList
  | .right => " style=\"text-align: right\"".toList

/-- The title attribute; an empty title has none. -/
def titleAttribute (title : Text) : Text :=
  if title.isEmpty then []
  else " title=\"".toList ++ escapeAttribute title ++ "\"".toList

namespace Element

/-- The name of an element in its tags. -/
def name : Element → Text
  | .paragraph => "p".toList
  | .heading level => "h".toList ++ Text.decimal level
  | .quote => "blockquote".toList
  | .bullets => "ul".toList
  | .numbered _ => "ol".toList
  | .item => "li".toList
  | .preformatted => "pre".toList
  | .listing _ => "code".toList
  | .table => "table".toList
  | .tableHead => "thead".toList
  | .tableBody => "tbody".toList
  | .row => "tr".toList
  | .headerCell _ => "th".toList
  | .cell _ => "td".toList
  | .code => "code".toList
  | .emphasis => "em".toList
  | .strong => "strong".toList
  | .deleted => "del".toList
  | .link _ _ => "a".toList

/-- The attributes of an element, each after a space. -/
def attributes : Element → Text
  | .numbered start =>
    if start = 1 then [] else " start=\"".toList ++ Text.decimal start ++ "\"".toList
  | .listing language =>
    if language.isEmpty then []
    else " class=\"language-".toList ++ escapeAttribute language ++ "\"".toList
  | .headerCell alignment => alignment.attribute
  | .cell alignment => alignment.attribute
  | .link url title =>
    " href=\"".toList ++ escapeUrl url ++ "\"".toList ++ titleAttribute title
  | _ => []

/-- The tag that opens an element. -/
def openTag (e : Element) : Text := '<' :: e.name ++ e.attributes ++ ['>']

/-- The tag that closes an element. -/
def closeTag (e : Element) : Text := '<' :: '/' :: e.name ++ ['>']

/-- Whether an element begins on a fresh line. -/
def startsLine : Element → Bool
  | .paragraph | .heading _ | .quote | .bullets | .numbered _ | .item | .preformatted => true
  | _ => false

/-- Whether a newline follows the opening tag. -/
def breaksAfterOpen : Element → Bool
  | .quote | .bullets | .numbered _ | .tableBody => true
  | _ => false

/-- Whether a newline follows the closing tag. -/
def breaksAfterClose : Element → Bool
  | .paragraph | .heading _ | .quote | .bullets | .numbered _ | .item | .preformatted
  | .table => true
  | _ => false

end Element

namespace Void

/-- The tag of a void element. -/
def tag : Void → Text
  | .lineBreak => "<br />".toList
  | .rule => "<hr />".toList
  | .image url alt title =>
    "<img src=\"".toList ++ escapeUrl url ++ "\" alt=\"".toList ++ escapeAttribute alt ++
      "\"".toList ++ titleAttribute title ++ " />".toList
  | .checkbox ticked =>
    "<input disabled=\"\" type=\"checkbox\"".toList ++
      (if ticked then " checked=\"\"".toList else []) ++ "/>".toList

/-- Whether a void element begins on a fresh line. -/
def startsLine : Void → Bool
  | .rule => true
  | _ => false

/-- Whether a newline follows the tag. -/
def breaksAfter : Void → Bool
  | .lineBreak | .rule | .checkbox _ => true
  | .image _ _ _ => false

end Void

/-! ### Writing -/

/-- A newline, if one is wanted. -/
def newlineIf (wanted : Bool) : Text := if wanted then ['\n'] else []

/-- Whether the text so far is at the beginning of a line after a text has been
written: an empty text leaves it in the middle of one. -/
def endsLine (t : Text) : Bool := t.getLast? == some '\n'

namespace Node

mutual

/-- The text of a node.  `fresh` says whether the text so far is at the beginning
of a line; the answer says so for the text with the node. -/
def write (fresh : Bool) : Node → Text × Bool
  | .text t => (escapeText t, endsLine t)
  | .void v =>
    (newlineIf (v.startsLine && !fresh) ++ v.tag ++ newlineIf v.breaksAfter, v.breaksAfter)
  | .element e content =>
    let inside := writeAll e.breaksAfterOpen content
    (newlineIf (e.startsLine && !fresh) ++ e.openTag ++ newlineIf e.breaksAfterOpen ++
      inside.1 ++ e.closeTag ++ newlineIf e.breaksAfterClose, e.breaksAfterClose)

/-- The text of nodes one after another. -/
def writeAll (fresh : Bool) : List Node → Text × Bool
  | [] => ([], fresh)
  | node :: nodes =>
    let first := write fresh node
    let others := writeAll first.2 nodes
    (first.1 ++ others.1, others.2)

end

/-- Nodes as the text of a document, which begins on a fresh line. -/
def render (nodes : List Node) : Text := (writeAll true nodes).1

end Node
end Html
end Marginalia
