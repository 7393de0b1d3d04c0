import Marginalia.Markdown.Line

/-!
# Reading the beginning of a line

How far a line is indented is counted in columns; a tab goes to the next multiple of
four.  A block may take part of the columns of a tab and leave the others to what
stands inside it.

## Main definitions

* `Markdown.Cursor` — a place on a line.
* `Markdown.Cursor.skip` — pass over columns of indentation.
* `Markdown.Cursor.padding` — the columns left of a tab, as spaces.
* `Markdown.Cursor.dedented` — what follows the indentation.
-/

namespace Marginalia
namespace Markdown

/-- A place on a line. -/
structure Cursor where
  /-- What is still to be read: the rest of the line and of the document. -/
  rest : Text
  /-- The columns read, up to a multiple of four. -/
  column : Nat
  /-- The columns left of a tab of which others have been passed over. -/
  spare : Nat
  deriving Repr

namespace Cursor

/-- The beginning of a line. -/
def ofLine (line : Text) : Cursor := ⟨line, 0, 0⟩

@[simp] theorem rest_ofLine (line : Text) : (ofLine line).rest = line := rfl

/-- Pass over at most `wanted` columns of spaces and tabs, having passed over
`passed`; says how many were passed over in all. -/
def skipFrom : Text → Nat → Nat → Nat → Nat × Cursor
  | rest, column, 0, passed => (passed, ⟨rest, column, 0⟩)
  | [], column, _ + 1, passed => (passed, ⟨[], column, 0⟩)
  | c :: rest, column, wanted + 1, passed =>
    if c = ' ' then skipFrom rest (column + 1) wanted (passed + 1)
    else if c = '\t' then
      let width := 4 - column % 4
      if width ≤ wanted + 1 then
        skipFrom rest (column + width) (wanted + 1 - width) (passed + width)
      else (passed + (wanted + 1), ⟨rest, column + width, width - (wanted + 1)⟩)
    else (passed, ⟨c :: rest, column, 0⟩)

/-- Pass over at most `wanted` columns of spaces and tabs, and say how many. -/
def skip (c : Cursor) (wanted : Nat) : Nat × Cursor :=
  if wanted ≤ c.spare then (wanted, { c with spare := c.spare - wanted })
  else skipFrom c.rest c.column (wanted - c.spare) c.spare

/-- Pass over a character that is one column wide. -/
def advance (c : Cursor) (rest : Text) : Cursor := ⟨rest, c.column + 1, c.spare⟩

/-- Whether the line ends here. -/
def atEnd (c : Cursor) : Bool := c.rest.head?.all isLineEnd

/-- Whether nothing is left to read on the line. -/
def atEmpty (c : Cursor) : Bool := isEmptyLine c.rest

/-- A space for each column left of a tab. -/
def padding (c : Cursor) : Text := List.replicate c.spare ' '

/-- What follows the indentation. -/
def dedented (c : Cursor) : Text := c.rest.dropWhile isIndentation

end Cursor
end Markdown
end Marginalia
