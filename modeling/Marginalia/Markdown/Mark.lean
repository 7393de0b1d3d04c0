import Marginalia.Markdown.Cursor

/-!
# The marks that begin blocks

Each function looks at the first line of a text that begins with the first character
that is not indentation.

## Main definitions

* `Markdown.isRule`, `Markdown.headingLevel?`, `Markdown.headingText`,
  `Markdown.underlineLevel?` — thematic breaks and headings.
* `Markdown.fence?`, `Markdown.closesFence` — code fences.
* `Markdown.ListMark`, `Markdown.listMark?`, `Markdown.interruptingItem` — the marks of
  list items.
* `Markdown.taskBox?` — the box of a task.
-/

namespace Marginalia
namespace Markdown

/-! ### Thematic breaks, headings and fences -/

/-- A thematic break: three or more of `*`, `-` or `_`, and spaces among them. -/
def isRule (t : Text) : Bool :=
  match lineText t with
  | [] => false
  | c :: t =>
    (c == '*' || c == '-' || c == '_') && t.all (fun d => d == c || isIndentation d) &&
      2 ≤ t.count c

/-- The level of a heading that begins with number signs. -/
def headingLevel? (t : Text) : Option Nat :=
  let level := Text.runLength '#' t
  if 1 ≤ level && level ≤ 6 && (t.drop level).head?.all isSpaceOrEnd then some level else none

/-- The text of a heading after its number signs: without the spaces that end it, and
without the number signs that may close it. -/
def headingText (t : Text) : Text :=
  let reversed := ((lineText t).dropWhile isSpacing).reverse.dropWhile (· == ' ')
  match reversed.dropWhile (· == '#') with
  | [] => []
  | ' ' :: body => (body.dropWhile (· == ' ')).reverse
  | _ => reversed.reverse

/-- The level of the heading that a line underlines. -/
def underlineLevel? : Text → Option Nat
  | '=' :: t => if isEmptyLine (t.dropWhile (· == '=')) then some 1 else none
  | '-' :: t => if isEmptyLine (t.dropWhile (· == '-')) then some 2 else none
  | _ => none

/-- A code fence: its character and how often it is repeated.  No backtick follows a
fence of backticks before the next newline. -/
def fence? : Text → Option (Char × Nat)
  | [] => none
  | c :: t =>
    let length := Text.runLength c t + 1
    if 3 ≤ length && (c == '~' ||
        (c == '\x60' && !(upToNewline (t.drop (length - 1))).any (· == '\x60'))) then
      some (c, length)
    else none

/-- Whether a line closes a code block that was opened by `length` times `c`; the end of
the document does so as well. -/
def closesFence (c : Char) (length : Nat) (t : Text) : Bool :=
  let run := Text.runLength c t
  t.isEmpty || (length ≤ run && ((t.drop run).dropWhile (· == ' ')).head?.all isLineEnd)

/-! ### List items -/

/-- The mark of a list item: the character that tells lists apart, and the number. -/
structure ListMark where
  /-- A bullet, or what follows a number. -/
  delimiter : Char
  /-- The number; zero for a bullet. -/
  number : Nat
  deriving DecidableEq, Repr

/-- A character that marks the items of a list without numbers. -/
def isBullet (c : Char) : Bool := c == '-' || c == '+' || c == '*'

/-- A mark as the start of a list. -/
def ListMark.start (m : ListMark) : Option Nat :=
  if isBullet m.delimiter then none else some m.number

/-- A bullet or a number of at most nine digits, and what follows it. -/
def bareMark? (t : Text) : Option (ListMark × Text) :=
  match t with
  | [] => none
  | c :: rest =>
    if isBullet c then some (⟨c, 0⟩, rest)
    else
      let digits := t.takeWhile Text.isDigit
      if digits.isEmpty || 9 < digits.length then none
      else
        match t.drop digits.length with
        | [] => none
        | d :: rest =>
          if d == '.' || d == ')' then some (⟨d, Text.numeral 10 digits⟩, rest) else none

/-- The list item that begins at a cursor, after `indent` columns: its mark, the
columns its content is indented by, and the place where that begins.  A thematic
break is no item. -/
def listMark? (indent : Nat) (c : Cursor) : Option (ListMark × Nat × Cursor) :=
  match bareMark? c.rest with
  | none => none
  | some (mark, rest) =>
    if isBullet mark.delimiter && isRule c.rest then none
    else
      let width := (c.rest.takeWhile Text.isDigit).length + 1
      -- a column of white space belongs to the mark, if the line does not end
      let (passed, inside) := Cursor.skip ⟨rest, c.column + width, c.spare⟩ 1
      if passed == 1 || inside.atEnd then
        let indent := indent + width + 1
        if inside.atEmpty then some (mark, indent, inside)
        else
          -- four columns more are those of indented code
          let (more, deeper) := inside.skip 4
          if more < 4 then some (mark, indent + more, deeper) else some (mark, indent, inside)
      else none

/-- Whether a list item begins here that may interrupt a paragraph: `any` allows every
item, else something must stand on its line, and a number must be one. -/
def interruptingItem (any : Bool) (t : Text) : Bool :=
  match bareMark? t with
  | none => false
  | some (mark, rest) =>
    rest.head?.all (fun c => isIndentation c || isLineEnd c) &&
      (any || ((isBullet mark.delimiter || mark.number == 1) && !isEmptyLine rest))

/-- The box of a task at the beginning of an item: whether it is ticked, and the place
after it.  White space or a line end must follow. -/
def taskBox? (c : Cursor) : Option (Bool × Cursor) :=
  let c := (c.skip 3).2
  match c.rest with
  | '[' :: box :: ']' :: rest =>
    if rest.head?.any isSpaceOrEnd then
      let after : Cursor := ⟨rest, c.column + 3, c.spare⟩
      if isSpacing box then some (false, after)
      else if box == 'x' || box == 'X' then some (true, after)
      else none
    else none
  | _ => none

end Markdown
end Marginalia
