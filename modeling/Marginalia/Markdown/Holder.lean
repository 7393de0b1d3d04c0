import Marginalia.Markdown.Cursor

/-!
# What prose stands in

Prose may stand in quotes and list items.  Each of its lines then begins with their
marks and indentation, which are no part of what the prose says.

## Main definitions

* `Markdown.Holder`, `Markdown.Holder.pass?` — a quote or item, and what it asks of a line.
* `Markdown.passMarks` — what follows the marks a line begins with.
* `Markdown.Setting`, `Markdown.Passage` — prose whose spans have not been read, and where
  it stands.
-/

namespace Marginalia
namespace Markdown

/-- What a line of prose may stand in. -/
inductive Holder where
  /-- A quote, whose lines begin with a mark. -/
  | quote
  /-- An item, whose lines are indented by a number of columns. -/
  | item (indent : Nat)
  deriving DecidableEq, Repr

/-- The place after what a holder puts at the beginning of a line, if that is there.  A line
that ends at once belongs to an item however little it is indented. -/
def Holder.pass? (c : Cursor) : Holder → Option Cursor
  | .quote =>
    let inside := (c.skip 3).2
    match inside.rest with
    | '>' :: rest => some ((inside.advance rest).skip 1).2
    | _ => none
  | .item indent =>
    let inside := c.skip indent
    if inside.1 == indent || inside.2.atEnd then some inside.2 else none

/-- The place after the marks of the holders, from the outermost one up to the first whose
mark is missing. -/
def passHolders : List Holder → Cursor → Cursor
  | [], c => c
  | h :: hs, c =>
    match h.pass? c with
    | some inside => passHolders hs inside
    | none => c

/-- What follows the marks that a line in the given holders begins with. -/
def passMarks (hs : List Holder) (t : Text) : Text := (passHolders hs (Cursor.ofLine t)).rest

/-- How many characters of marks a line in the given holders begins with. -/
def marksLength (hs : List Holder) (t : Text) : Nat := t.length - (passMarks hs t).length

/-! ### Passages -/

/-- How prose is set. -/
inductive Setting where
  /-- On lines of its own, in holders given from the outermost one on. -/
  | lines (holders : List Holder)
  /-- On the line of a heading, after its number signs. -/
  | heading
  /-- In a cell of a table. -/
  | cell
  deriving DecidableEq, Repr

/-- The holders at the beginning of each line but the first one. -/
def Setting.holders : Setting → List Holder
  | .lines hs => hs
  | _ => []

/-- Prose whose spans have not been read yet. -/
structure Passage where
  /-- The box of the task the prose belongs to. -/
  task : Option Bool
  /-- Where it stands. -/
  setting : Setting
  /-- How many spacing characters stand directly before it. -/
  lead : Nat
  /-- The prose as written, with the marks of its later lines and all line ends but the
  last. -/
  source : Text
  deriving Repr

end Markdown
end Marginalia
