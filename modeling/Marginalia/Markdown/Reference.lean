import Marginalia.Markdown.NamedCharacters
import Marginalia.Text.Punctuation

/-!
# Escapes and character references

In prose a backslash before punctuation makes it ordinary, and a character can be
written by its number or by a name.

## Main definitions

* `Markdown.reference?` — the character reference that follows an ampersand.
* `Markdown.unescape` — a text with its escapes and references resolved.
* `Markdown.isSpacing` — the characters that separate things on a line.
-/

namespace Marginalia
namespace Markdown

/-- The characters that separate things on one line: spaces, tabs, vertical tabs and
form feeds. -/
def isSpacing (c : Char) : Bool := c == ' ' || c == '\t' || c == '\x0b' || c == '\x0c'

/-- Spacing and line ends. -/
def isSpaceOrEnd (c : Char) : Bool := isSpacing c || c == '\n' || c == '\r'

/-- The characters that indent a line. -/
def isIndentation (c : Char) : Bool := c == ' ' || c == '\t'

/-- The character of a number.  Zero and the numbers that belong to no character stand
for the replacement character. -/
def numberedCharacter (n : Nat) : Char :=
  if n ≠ 0 && n.isValidChar then Char.ofNat n else '\uFFFD'

/-- The reference by number whose digits a text begins with: at most `most` digits,
ended by a semicolon.  Also says how many characters the reference takes. -/
def numberReference? (base most : Nat) (accept : Char → Bool) (t : Text) :
    Option (Text × Nat) :=
  let digits := t.takeWhile accept
  if digits.isEmpty || digits.length > most then none
  else if (t.drop digits.length).head? == some ';' then
    some ([numberedCharacter (Text.numeral base digits)], digits.length + 1)
  else none

/-- The character reference that a text after an ampersand completes: what it stands
for, and how many characters it takes. -/
def reference? : Text → Option (Text × Nat)
  | '#' :: 'x' :: t => (numberReference? 16 6 Text.isHexDigit t).map fun r => (r.1, r.2 + 2)
  | '#' :: 'X' :: t => (numberReference? 16 6 Text.isHexDigit t).map fun r => (r.1, r.2 + 2)
  | '#' :: t => (numberReference? 10 7 Text.isDigit t).map fun r => (r.1, r.2 + 1)
  | t =>
    let name := t.takeWhile Text.isAlphanumeric
    if (t.drop name.length).head? == some ';' then
      (namedCharacter? name).map fun value => (value, name.length + 1)
    else none

/-- One step of `unescape`; the state is the result so far, last character first.  In a
cell of a table two backslashes before a bar are as good as one. -/
def unescapeStep (cell : Bool) (done : Text) (c : Char) (rest : Text) : Text × Nat :=
  if c = '\\' then
    match rest with
    | p :: next =>
      if cell && p == '\\' && next.head? == some '|' then ('|' :: done, 2)
      else if Text.isAsciiPunctuation p then (p :: done, 1)
      else (c :: done, 0)
    | [] => (c :: done, 0)
  else if c = '&' then
    match reference? rest with
    | some (value, taken) => (value.reverse ++ done, taken)
    | none => (c :: done, 0)
  else if c = '\r' then (done, 0)
  else (c :: done, 0)

/-- A text with backslash escapes and character references resolved; `cell` says whether
it stands in a cell of a table.  Carriage returns are left out. -/
def unescape (cell : Bool) (t : Text) : Text :=
  (Text.scanFrom (unescapeStep cell) t 0 []).reverse

end Markdown
end Marginalia
