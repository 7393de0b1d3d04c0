import Marginalia.Markdown.Definition
import Marginalia.Markdown.Mark
import Marginalia.Markdown.Tree

/-!
# Documents being read

Blocks are found line by line.  While that goes on, some quotes and lists are open, one
inside another; each keeps the blocks that have been completed in it.

## Main definitions

* `Markdown.Draft` — a block whose spans have not been read.
* `Markdown.Frame`, `Markdown.matchFrames` — an open quote or list, and how many of them a
  line belongs to.
* `Markdown.Progress` — everything known in the middle of a document, with the
  operations that put blocks into it and open and close frames.
-/

namespace Marginalia
namespace Markdown

/-! ### Frames -/

/-- A block whose spans have not been read yet. -/
abbrev Draft := Block Passage

/-- The item of an open list that is still open. -/
structure OpenItem where
  /-- The columns its lines are indented by. -/
  indent : Nat
  /-- The blocks completed in it, the last one first. -/
  content : List Draft

/-- An open quote or list. -/
inductive Frame where
  /-- A quote, with the blocks completed in it, the last one first. -/
  | quote (content : List Draft)
  /-- A list: the mark it began with, whether it is still tight, the items completed,
  the last one first, and the open item. -/
  | list (mark : ListMark) (tight : Bool) (items : List (List Draft))
      (current : Option OpenItem)

/-- How many levels a frame is deep: an open item is one inside its list. -/
def Frame.depth : Frame → Nat
  | .quote _ => 1
  | .list _ _ _ none => 1
  | .list _ _ _ (some _) => 2

/-- How many levels frames are deep. -/
def depth : List Frame → Nat
  | [] => 0
  | frame :: frames => frame.depth + depth frames

/-- What a frame puts at the beginning of its lines; nothing if it is a list without an
open item. -/
def Frame.holder? : Frame → Option Holder
  | .quote _ => some .quote
  | .list _ _ _ none => none
  | .list _ _ _ (some item) => some (.item item.indent)

/-- What a line inside of all frames stands in. -/
def holders (frames : List Frame) : List Holder := frames.filterMap Frame.holder?

/-- How many levels a line belongs to, and the place on it after their marks.  The
frames are given from the outermost one on.  A line without the indentation of an item may
still belong to its list. -/
def matchFrames : List Frame → Cursor → Nat × Cursor
  | [], c => (0, c)
  | frame :: frames, c =>
    match (match frame.holder? with
      | none => some c
      | some holder => holder.pass? c) with
    | some inside =>
      let deeper := matchFrames frames inside
      (frame.depth + deeper.1, deeper.2)
    | none => (frame.depth - 1, c)

/-- The list that an open list becomes. -/
def closedList (mark : ListMark) (tight : Bool) (items : List (List Draft)) : Draft :=
  .list mark.start (if tight then items.map (List.map Block.tighten) else items)

/-! ### Progress -/

/-- What is known in the middle of a document. -/
structure Progress where
  /-- The open frames, the innermost one first. -/
  frames : List Frame := []
  /-- The blocks completed outside of every frame, the last one first. -/
  blocks : List Draft := []
  /-- Whether the line before was blank. -/
  afterBlank : Bool := false
  /-- Whether the item begun last has nothing on its first line and nothing since. -/
  inEmptyItem : Bool := false
  /-- Whether the line before ended a definition. -/
  afterDefinition : Bool := false
  /-- The definitions found, the last one first. -/
  definitions : List Definition := []

namespace Progress

/-- Put a completed block where it belongs.  In a list without an open item it is an
item of its own. -/
def add (p : Progress) (b : Draft) : Progress :=
  match p.frames with
  | [] => { p with blocks := b :: p.blocks }
  | .quote content :: frames => { p with frames := .quote (b :: content) :: frames }
  | .list mark tight items (some item) :: frames =>
    { p with
      frames := .list mark tight items (some { item with content := b :: item.content })
        :: frames }
  | .list mark tight items none :: frames =>
    { p with frames := .list mark tight ([b] :: items) none :: frames }

/-- Close the innermost level.  An item that is still empty is forgotten when a tight list
is closed. -/
def closeOne (p : Progress) : Progress :=
  match p.frames with
  | [] => p
  | .quote content :: frames => { p with frames := frames }.add (.quote content.reverse)
  | .list mark tight items (some item) :: frames =>
    { p with frames := .list mark tight (item.content.reverse :: items) none :: frames }
  | .list mark tight items none :: frames =>
    { p with frames := frames, inEmptyItem := p.inEmptyItem && !tight }.add
      (closedList mark tight items.reverse)

/-- Close a number of levels. -/
def closeMany (p : Progress) : Nat → Progress
  | 0 => p
  | n + 1 => p.closeOne.closeMany n

/-- Close all levels deeper than `n`. -/
def closeTo (p : Progress) (n : Nat) : Progress := p.closeMany (depth p.frames - n)

/-- Close an item that began with an empty line and has met another one: it stays
empty. -/
def leaveEmptyItem (p : Progress) : Progress :=
  let closed :=
    match p.inEmptyItem && p.afterBlank, p.frames with
    | true, .list _ _ _ (some _) :: _ => p.closeOne
    | _, _ => p
  { closed with inEmptyItem := false }

/-- Make the list loose whose item has just met a blank line. -/
def loosen (p : Progress) : Progress :=
  match p.afterBlank, p.frames with
  | true, .list mark _ items (some item) :: frames =>
    { p with frames := .list mark false items (some item) :: frames, afterBlank := false }
  | _, _ => { p with afterBlank := false }

/-- Get ready for a block that is no item of the list before it. -/
def settle (p : Progress) : Progress :=
  let p := p.leaveEmptyItem
  let p :=
    match p.frames with
    | .list _ _ _ none :: _ => p.closeOne
    | _ => p
  p.loosen

/-- Open an item, in the list before it if that has the same kind of mark. -/
def openItem (p : Progress) (mark : ListMark) (indent : Nat) : Progress :=
  let p := p.leaveEmptyItem
  let continued :=
    match p.frames with
    | .list old tight items none :: frames =>
      if old.delimiter = mark.delimiter then
        some { p with
          frames := .list old (tight && !p.afterBlank) items (some ⟨indent, []⟩) :: frames
          afterBlank := false }
      else none
    | _ => none
  match continued with
  | some p => p
  | none =>
    let p := if p.frames.isEmpty then p else p.settle
    { p with
      frames := .list mark true [] (some ⟨indent, []⟩) :: p.frames
      afterBlank := false }

/-- Open a quote. -/
def openQuote (p : Progress) : Progress :=
  let p := p.settle
  { p with frames := .quote [] :: p.frames }

/-- Take a blank line.  An item that is still empty then takes no line that is
indented. -/
def takeBlank (p : Progress) : Progress :=
  match p.inEmptyItem, p.frames with
  | _, .quote _ :: _ => p
  | true, .list mark tight items (some item) :: frames =>
    { p with
      frames := .list mark tight items (some { item with indent := 0 }) :: frames
      afterBlank := true }
  | _, _ => { p with afterBlank := true }

/-- Take a definition, unless the label has one already. -/
def define (p : Progress) (d : Definition) : Progress :=
  { p with
    definitions :=
      if (lookup d.label p.definitions).isSome then p.definitions else d :: p.definitions
    afterDefinition := true }

/-- The blocks once the document has ended. -/
def finish (p : Progress) : List Draft := (p.closeTo 0).blocks.reverse

end Progress
end Markdown
end Marginalia
