import Marginalia.Markdown.Holder
import Marginalia.Text.CaseFold

/-!
# Destinations, titles and labels of links

A link says where it leads next to its text, or by a label that is defined elsewhere
in the document.

Each reader of a part also says how many characters of the text the part takes.

## Main definitions

* `Markdown.destination?` — where a link leads.
* `Markdown.titleFrom`, `Markdown.title?` — the title of a link in prose.
* `Markdown.target?` — a destination and a title in parentheses.
* `Markdown.labelFrom`, `Markdown.label?` — a label.
-/

namespace Marginalia
namespace Markdown

/-! ### Destinations -/

/-- A destination in angle brackets, the first of which has been read, and the rest
after the second. -/
def angledDestination? : Text → Option (Text × Text)
  | [] => none
  | '>' :: t => some ([], t)
  | '\\' :: c :: t =>
    if Text.isAsciiPunctuation c then
      (angledDestination? t).map fun r => ('\\' :: c :: r.1, r.2)
    else (angledDestination? (c :: t)).map fun r => ('\\' :: r.1, r.2)
  | c :: t =>
    if isLineEnd c || c = '<' then none
    else (angledDestination? t).map fun r => (c :: r.1, r.2)

/-- How deep parentheses may be nested in a destination. -/
def maxParentheses : Nat := 33

/-- A destination without brackets, inside `depth` open parentheses, and the rest.  It
ends at white space, a control character or a parenthesis that closes none of its own. -/
def bareDestination? : Nat → Text → Option (Text × Text)
  | depth, [] => if depth = 0 then some ([], []) else none
  | depth, '\\' :: c :: t =>
    if Text.isAsciiPunctuation c then
      (bareDestination? depth t).map fun r => ('\\' :: c :: r.1, r.2)
    else (bareDestination? depth (c :: t)).map fun r => ('\\' :: r.1, r.2)
  | depth, c :: t =>
    if c.toNat ≤ 0x20 then if depth = 0 then some ([], c :: t) else none
    else if c = '(' then
      if depth = maxParentheses then none
      else (bareDestination? (depth + 1) t).map fun r => (c :: r.1, r.2)
    else if c = ')' then
      match depth with
      | 0 => some ([], c :: t)
      | depth + 1 => (bareDestination? depth t).map fun r => (c :: r.1, r.2)
    else (bareDestination? depth t).map fun r => (c :: r.1, r.2)

/-- The destination a text begins with, as written, and the rest. -/
def destination? : Text → Option (Text × Text)
  | '<' :: t => angledDestination? t
  | t => bareDestination? 0 t

/-! ### Titles -/

/-- What the bar after two backslashes makes of a title in a cell of a table, given what
follows it: the bar stands for itself, unless punctuation follows, which then stands for
itself and alone.  Also says how many characters follow the bar. -/
def titleBar (after : Text) : Char × Nat :=
  match after with
  | p :: _ => if Text.isAsciiPunctuation p then (p, 1) else ('|', 0)
  | [] => ('|', 0)

/-- A title as it is meant, up to the character that closes it.  `opener` must not occur
in it.  `cell` says whether it stands in a cell of a table.  The text looked at begins at
`position`, and `resume` says where prose goes on after a line end. -/
def titleFrom (cell : Bool) (resume : Nat → Option Nat) (opener closer : Char) :
    Text → (position skip : Nat) → Option (Text × Nat)
  | [], _, _ => none
  | _ :: t, i, skip + 1 =>
    (titleFrom cell resume opener closer t (i + 1) skip).map fun r => (r.1, r.2 + 1)
  | c :: t, i, 0 =>
    let onward (shown : Text) (skip : Nat) : Option (Text × Nat) :=
      (titleFrom cell resume opener closer t (i + 1) skip).map fun r => (shown ++ r.1, r.2 + 1)
    if c = closer then some ([], 1)
    else if c = opener then none
    else if isLineEnd c then
      -- the beginning of the next line is no part of the title
      match resume i with
      | some j => onward ['\n'] (j - i - 1)
      | none => onward [c] 0
    else if c = '&' then
      match reference? t with
      | some (value, taken) => onward value taken
      | none => onward [c] 0
    else if c = '\\' then
      match t with
      | p :: next =>
        match (if cell && p == '\\' then Text.after? ['|'] next else none) with
        | some after => onward [(titleBar after).1] ((titleBar after).2 + 2)
        | none => if Text.isAsciiPunctuation p then onward [p] 1 else onward [c] 0
      | [] => onward [c] 0
    else onward [c] 0

/-- The title a text begins with, in quotes or parentheses. -/
def title? (cell : Bool) (resume : Nat → Option Nat) (position : Nat) (t : Text) :
    Option (Text × Nat) :=
  let between (opener closer : Char) (t : Text) : Option (Text × Nat) :=
    (titleFrom cell resume opener closer t (position + 1) 0).map fun r => (r.1, r.2 + 1)
  match t with
  | '"' :: t => between '"' '"' t
  | '\'' :: t => between '\'' '\'' t
  | '(' :: t => between '(' ')' t
  | _ => none

/-- What follows the white space between the parts of a link: spacing and at most one
line end, with the marks of the line after it. -/
def skipSeparator (hs : List Holder) (t : Text) : Text :=
  let t := t.dropWhile isSpacing
  match afterLineEnd? t with
  | some next => (passMarks hs next).dropWhile isSpacing
  | none => t

/-- A destination and perhaps a title in parentheses, as they are meant, and the length of
all of it.  The text looked at begins at `position`. -/
def target? (s : Setting) (resume : Nat → Option Nat) (position : Nat) (t : Text) :
    Option (Text × Text × Nat) := do
  let cell := s == .cell
  let inner ← Text.after? ['('] t
  let (url, afterUrl) ← destination? (skipSeparator s.holders inner)
  let beforeTitle := skipSeparator s.holders afterUrl
  let found := title? cell resume (position + (t.length - beforeTitle.length)) beforeTitle
  let (title, rest) := match found with
    | some (title, taken) => (title, skipSeparator s.holders (beforeTitle.drop taken))
    | none => ([], beforeTitle)
  let after ← Text.after? [')'] rest
  pure (unescape cell url, title, t.length - after.length)

/-! ### Labels -/

/-- The weight that a label must not reach. -/
def maxLabel : Nat := 1000

/-- What has been read of a label. -/
structure LabelProgress where
  /-- How much it weighs: white space counts, and so do escapes and the bytes of characters
  that are not ASCII. -/
  weight : Nat
  /-- Whether there is something in it besides white space. -/
  filled : Bool
  /-- Whether white space has been read last, and then whether a line has ended in it. -/
  space : Option Bool

namespace LabelProgress

/-- Nothing read. -/
def start : LabelProgress := ⟨0, false, none⟩

/-- Take something that is not white space. -/
def fill (p : LabelProgress) (weight : Nat) : LabelProgress := ⟨p.weight + weight, true, none⟩

end LabelProgress

/-- The weight of a character in a label. -/
def labelWeight (c : Char) : Nat := if c.toNat < 0x80 then 0 else c.utf8Size

/-- The rest of a label up to its closing bracket, with each run of white space made one
space, and its length with the bracket.  `onward` says how many characters belong to the
beginning of a line, or that the label cannot go on there.  No two lines end in one run of
white space. -/
def labelFrom (cell : Bool) (onward : Text → Option Nat) :
    Text → (skip : Nat) → LabelProgress → Option (Text × Nat)
  | [], _, _ => none
  | _ :: t, skip + 1, p => (labelFrom cell onward t skip p).map fun r => (r.1, r.2 + 1)
  | c :: t, 0, p =>
    let next (shown : Text) (skip : Nat) (p : LabelProgress) : Option (Text × Nat) :=
      (labelFrom cell onward t skip p).map fun r => (shown ++ r.1, r.2 + 1)
    if maxLabel ≤ p.weight || c = '[' then none
    else if c = ']' then if p.filled then some ([], 1) else none
    else if c = '\\' then
      if cell && Text.beginsWith ['|'] t then next ['|'] 1 (p.fill 1)
      else if cell && Text.beginsWith ['\\', '|'] t then next ['\\', '|'] 2 (p.fill 2)
      else
        -- an escape weighs two, and what its character has beyond one byte
        match t with
        | d :: _ => next [c, d] 1 (p.fill (1 + d.utf8Size))
        | [] => none
    else if isSpaceOrEnd c then
      -- only the first character of a run of white space is shown
      let shown := if p.space.isSome then [] else [' ']
      if endsLine c t then
        if p.space == some true then none
        else
          match onward t with
          | some skip => next shown skip ⟨p.weight + 1 + skip, p.filled, some true⟩
          | none => none
      else next shown 0 ⟨p.weight + 1, p.filled, some (p.space.getD false)⟩
    else next [c] 0 (p.fill (labelWeight c))

/-- A label as it is compared with others: without case, and without the white space at
its ends. -/
def normalizeLabel (t : Text) : Text :=
  Text.fold ((t.dropWhile isSpaceOrEnd).reverse.dropWhile isSpaceOrEnd).reverse

/-- The label a text begins with, its opening bracket read already, as it is compared, and
its length with the closing bracket.  A label is not blank. -/
def label? (cell : Bool) (onward : Text → Option Nat) (t : Text) : Option (Text × Nat) :=
  (labelFrom cell onward t 0 .start).map fun r => (normalizeLabel r.1, r.2)

end Markdown
end Marginalia
