import Marginalia.Markdown.Reference

/-!
# Lines of a document

A line ends with a newline, with a carriage return, or with both in this order.  A line
is represented by the document from its beginning on, so that whoever looks at a line
sees what follows it as well.

## Main definitions

* `Markdown.lineStarts` — the document from each of its lines on.
* `Markdown.lineText`, `Markdown.wholeLine` — the first line, without and with its end.
* `Markdown.nextLine?` — the document after the first line.
* `Markdown.isEmptyLine` — a line with nothing to read on it.
* `Markdown.upToNewline`, `Markdown.verbatim`, `Markdown.linesWithin` — lines as they are
  kept in code and in HTML, where a carriage return alone does not end them.
-/

namespace Marginalia
namespace Markdown

/-- A character that belongs to the end of a line. -/
def isLineEnd (c : Char) : Bool := c == '\n' || c == '\r'

/-- Whether a line ends with `c` when `t` follows: a carriage return before a newline is
not the last character of the end. -/
def endsLine (c : Char) (t : Text) : Bool :=
  c == '\n' || (c == '\r' && t.head? != some '\n')

/-- The document from each line after its first one on. -/
def laterLines : Text → List Text
  | [] => []
  | c :: t => if endsLine c t && !t.isEmpty then t :: laterLines t else laterLines t

/-- The document from each of its lines on.  Nothing begins after the last line end. -/
def lineStarts (t : Text) : List Text := if t.isEmpty then [] else t :: laterLines t

/-- The first line, without its end. -/
def lineText (t : Text) : Text := t.takeWhile fun c => !isLineEnd c

/-- What follows the line end a text begins with. -/
def afterLineEnd? : Text → Option Text
  | '\n' :: t => some t
  | '\r' :: '\n' :: t => some t
  | '\r' :: t => some t
  | _ => none

/-- How many characters the line end takes that a text begins with. -/
def lineEndWidth (t : Text) : Nat := if Text.beginsWith ['\r', '\n'] t then 2 else 1

/-- What follows the first line, if that has an end. -/
def nextLine? (t : Text) : Option Text := afterLineEnd? (t.dropWhile fun c => !isLineEnd c)

/-- The first line with its end. -/
def wholeLine : Text → Text
  | [] => []
  | c :: t => if endsLine c t then [c] else c :: wholeLine t

/-- Whether there is nothing to read on the first line. -/
def isEmptyLine (t : Text) : Bool := (t.dropWhile isSpacing).head?.all isLineEnd

/-! ### Verbatim lines -/

/-- A text up to its first newline, and with it. -/
def upToNewline : Text → Text
  | [] => []
  | c :: t => if c = '\n' then [c] else c :: upToNewline t

/-- The first line as it is kept: up to a newline, and without the carriage return in
front of its last character. -/
def verbatim (t : Text) : Text :=
  let line := upToNewline t
  match line.reverse with
  | last :: '\r' :: before => (last :: before).reverse
  | _ => line

/-- How many lines begin inside a text, the one it begins with apart. -/
def linesWithin (t : Text) : Nat := (laterLines t).length

@[simp] theorem lineStarts_nil : lineStarts [] = [] := rfl

@[simp] theorem lineText_nil : lineText [] = [] := rfl

@[simp] theorem isEmptyLine_nil : isEmptyLine [] = true := rfl

end Markdown
end Marginalia
