import Marginalia.Markdown.Line
import Marginalia.Html.Node

/-!
# The rows of tables

A row is cut into cells at its bars.  A bar directly after a backslash cuts nothing.

## Main definitions

* `Markdown.rowPieces`, `Markdown.rowCells` — the cells of a row.
* `Markdown.columnCount` — how many columns a header row has.
* `Markdown.delimiterRow?` — the alignments that the row after the header asks for.
* `Markdown.tableColumns?` — the columns of the table that a header row begins.
-/

namespace Marginalia
namespace Markdown

/-- The pieces of a row between the bars that cut it, as written. -/
def barPieces : Text → List Text
  | [] => [[]]
  | '\\' :: '|' :: t => Text.consHead '\\' (Text.consHead '|' (barPieces t))
  | c :: t => if c = '|' then [] :: barPieces t else Text.consHead c (barPieces t)

/-- Pieces without the last one if there is nothing in it. -/
def dropEmptyLast (pieces : List Text) : List Text :=
  match pieces.getLast? with
  | some last => if isEmptyLine last then pieces.dropLast else pieces
  | none => pieces

/-- The pieces of a row that are cells: a bar may stand before the first and after the
last one. -/
def rowPieces (t : Text) : List Text :=
  dropEmptyLast (barPieces ((Text.after? ['|'] t).getD t))

/-- The cells of a row, without the spacing they begin with. -/
def rowCells (t : Text) : List Text := (rowPieces t).map (·.dropWhile isSpacing)

/-- The number of columns a header row has; a row without bars has none. -/
def columnCount (t : Text) : Nat :=
  if (barPieces t).length ≤ 1 then 0 else (rowPieces (t.dropWhile isSpacing)).length

/-! ### Delimiter rows -/

/-- The alignment that a cell of a delimiter row asks for. -/
def cellAlignment (t : Text) : Html.Alignment :=
  let body := t.filter (· != ' ')
  let left := body.head? == some ':'
  let right := (body.drop 1).any (· == ':')
  if left && right then .center else if left then .left else if right then .right else .unset

/-- A character that may stand in a delimiter row. -/
def isDelimiter (c : Char) : Bool := c == '|' || c == '-' || c == ':' || c == ' '

/-- The alignments of the columns if a line is the delimiter row of a table: cells of
hyphens between bars, with colons at the ends of some.  A cell that no bar follows may do
without a hyphen. -/
def delimiterRow? (t : Text) : Option (List Html.Alignment) :=
  let t := lineText t
  let row := t.dropWhile (· == ' ')
  if 3 < Text.runLength ' ' t || !row.all isDelimiter then none
  else
    let pieces := Text.splitOn '|' ((Text.after? ['|'] row).getD row)
    -- a bar follows every piece but the last one
    if row.any (· == '|') && row.any (· == '-') &&
        pieces.dropLast.all (·.any (· == '-')) then
      some ((dropEmptyLast pieces).map cellAlignment)
    else none

/-- The columns of the table whose header row is `t`, given the text of the line after it:
that must be a delimiter row with as many cells. -/
def tableColumns? (t next : Text) : Option (List Html.Alignment) :=
  match delimiterRow? next with
  | none => none
  | some columns =>
    if columnCount t != 0 && columnCount t == columns.length then some columns else none

end Markdown
end Marginalia
