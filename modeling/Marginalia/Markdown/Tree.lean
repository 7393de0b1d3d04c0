import Marginalia.Html.Node

/-!
# Formatted prose as a tree

A document is a list of blocks; the blocks that hold prose hold spans of it.

## Main definitions

* `Markdown.Options` — which extensions are read.
* `Markdown.Inline` — a span of prose.
* `Markdown.Block` — a block, over what its prose is: raw text while blocks are being
  found, spans afterwards.
* `Markdown.Block.map`, `Markdown.Block.mapList` — change what the prose is.
-/

namespace Marginalia
namespace Markdown

/-- The extensions that are read. -/
structure Options where
  /-- Tables of cells between bars. -/
  tables : Bool
  /-- Text struck through between tildes. -/
  strikethrough : Bool
  /-- List items that begin with a box. -/
  tasks : Bool
  deriving DecidableEq, Repr

/-- Every extension. -/
def Options.all : Options := ⟨true, true, true⟩

/-- A span of prose. -/
inductive Inline where
  /-- Text as it is meant, escapes and references resolved. -/
  | text (t : Text)
  /-- A code span. -/
  | code (t : Text)
  /-- HTML in the prose, which is shown and not obeyed. -/
  | html (t : Text)
  /-- A line end without meaning. -/
  | softBreak
  /-- A line end that is to be kept. -/
  | hardBreak
  /-- Emphasis. -/
  | emphasis (content : List Inline)
  /-- Strong emphasis. -/
  | strong (content : List Inline)
  /-- Text struck through. -/
  | deleted (content : List Inline)
  /-- A link. -/
  | link (url title : Text) (content : List Inline)
  /-- An image, described by its content. -/
  | image (url title : Text) (content : List Inline)
  /-- The box of a task. -/
  | checkbox (ticked : Bool)

/-- A block whose prose is of type `α`. -/
inductive Block (α : Type) where
  /-- A paragraph. -/
  | paragraph (prose : α)
  /-- A paragraph of a tight list, which is shown without one. -/
  | plain (prose : α)
  /-- A heading. -/
  | heading (level : Nat) (prose : α)
  /-- A thematic break. -/
  | rule
  /-- A code block, with what stands after its fence. -/
  | code (info body : Text)
  /-- A block of HTML, which is shown and not obeyed. -/
  | html (body : Text)
  /-- A block quote. -/
  | quote (content : List (Block α))
  /-- A list of items, with the number of the first if they are numbered. -/
  | list (start : Option Nat) (items : List (List (Block α)))
  /-- A table: the alignment of each column, the header and the other rows. -/
  | table (columns : List Html.Alignment) (header : List α) (rows : List (List α))

namespace Block

variable {α β : Type}

mutual

/-- A block with its prose changed by `f`. -/
def map (f : α → β) : Block α → Block β
  | .paragraph prose => .paragraph (f prose)
  | .plain prose => .plain (f prose)
  | .heading level prose => .heading level (f prose)
  | .rule => .rule
  | .code info body => .code info body
  | .html body => .html body
  | .quote content => .quote (mapList f content)
  | .list start items => .list start (mapItems f items)
  | .table columns header rows => .table columns (header.map f) (rows.map (List.map f))

/-- Blocks with their prose changed by `f`. -/
def mapList (f : α → β) : List (Block α) → List (Block β)
  | [] => []
  | b :: bs => map f b :: mapList f bs

/-- The items of a list with their prose changed by `f`. -/
def mapItems (f : α → β) : List (List (Block α)) → List (List (Block β))
  | [] => []
  | item :: items => mapList f item :: mapItems f items

end

/-- A paragraph as it stands in a tight list; other blocks are unchanged. -/
def tighten : Block α → Block α
  | .paragraph prose => .plain prose
  | b => b

end Block
end Markdown
end Marginalia
