import Marginalia.Markdown.Draft
import Marginalia.Markdown.RawHtml
import Marginalia.Markdown.Row

/-!
# From lines to blocks

Each line first goes through the open frames, then may open new ones, and what is left
of it begins a block or is blank.  A block that goes on takes its other lines at once:
the functions that read such a block look at the lines that follow, and say how many
of them belong to it.

## Main definitions

* `Markdown.codeLines`, `Markdown.fencedLines`, `Markdown.htmlLines`, `Markdown.tableRows` —
  the lines of a block.
* `Markdown.proseFrom` — the lines of a paragraph.
* `Markdown.openFrames` — the frames that a line opens.
* `Markdown.readBlock`, `Markdown.readProse`, `Markdown.readLine` — a block, a paragraph or
  definition, and a line.
* `Markdown.readBlocks` — the blocks and the definitions of a document.
-/

namespace Marginalia
namespace Markdown

/-! ### Lines that go on -/

/-- The place on a line after the marks of all `frames`, which are given from the
outermost one on; `none` if the line does not belong to all of them. -/
def inside? (frames : List Frame) (line : Text) : Option Cursor :=
  let found := matchFrames frames (Cursor.ofLine line)
  if found.1 == depth frames then some found.2 else none

/-- A block being collected line by line: its text, and how many lines it takes. -/
structure Collected where
  /-- The text of the lines. -/
  text : Text
  /-- How many lines there are. -/
  lines : Nat

/-- Nothing collected. -/
def Collected.empty : Collected := ⟨[], 0⟩

/-- Lines in front of those collected. -/
def Collected.after (first more : Collected) : Collected :=
  ⟨first.text ++ more.text, first.lines + more.lines⟩

/-- What is kept verbatim from a place on, after some spaces, and how many lines that takes
besides the one it begins on. -/
def keep (spaces : Nat) (t : Text) : Collected :=
  ⟨List.replicate spaces ' ' ++ verbatim t, linesWithin (upToNewline t)⟩

/-- What is kept verbatim of a line that belongs to a block, and how many lines that is. -/
def keepLine (c : Cursor) : Collected :=
  let kept := keep c.spare c.rest
  ⟨kept.text, kept.lines + 1⟩

/-- A line of an indented code block. -/
structure CodeLine where
  /-- The line as it is kept. -/
  kept : Collected
  /-- Whether it is blank. -/
  blank : Bool

/-- How many lines of the document the lines of a code block take. -/
def linesTaken : List CodeLine → Nat
  | [] => 0
  | line :: rest => line.kept.lines + linesTaken rest

/-- The lines of an indented code block.  `skip` lines have been taken in by the one
before. -/
def codeLines (frames : List Frame) : List Text → (skip : Nat) → List CodeLine
  | [], _ => []
  | _ :: rest, skip + 1 => codeLines frames rest skip
  | line :: rest, 0 =>
    match inside? frames line with
    | none => []
    | some c =>
      let passed := c.skip 4
      -- marks at the end of the document are no line of code
      if (passed.1 == 4 || passed.2.atEnd) && !passed.2.rest.isEmpty then
        let kept := keepLine passed.2
        ⟨kept, passed.2.atEmpty⟩ :: codeLines frames rest (kept.lines - 1)
      else []

/-- The lines of a fenced code block up to the fence that closes it; the block is
indented by `indent` columns. -/
def fencedLines (frames : List Frame) (indent : Nat) (fence : Char) (length : Nat) :
    List Text → (skip : Nat) → Collected
  | [], _ => .empty
  | _ :: rest, skip + 1 => fencedLines frames indent fence length rest skip
  | line :: rest, 0 =>
    match inside? frames line with
    | none => .empty
    | some c =>
      let dedented := (c.skip indent).2
      let passed := dedented.skip (4 - indent)
      if passed.1 < 4 - indent && closesFence fence length passed.2.rest then ⟨[], 1⟩
      else
        let kept := keepLine dedented
        kept.after (fencedLines frames indent fence length rest (kept.lines - 1))

/-- The lines of a block of HTML after one that does not end it.  The block goes on up
to a line with `ending` in it, or up to a blank line if that is `none`. -/
def htmlLines (frames : List Frame) (ending : Option Text) :
    List Text → (skip : Nat) → Collected
  | [], _ => .empty
  | _ :: rest, skip + 1 => htmlLines frames ending rest skip
  | line :: rest, 0 =>
    match inside? frames line with
    | none => .empty
    | some c =>
      let kept := keepLine c
      match ending with
      | some part =>
        if c.rest.isEmpty then .empty
        else if Text.includes part kept.text then kept
        else kept.after (htmlLines frames ending rest (kept.lines - 1))
      | none =>
        if c.atEmpty then .empty
        else kept.after (htmlLines frames ending rest (kept.lines - 1))

/-! ### Prose that goes on -/

/-- Whether a line begins something that ends a paragraph, tables apart.  `anyItem`
allows every list item to do so. -/
def interrupts (anyItem : Bool) (t : Text) : Bool :=
  t.head?.all isLineEnd || isRule t || (headingLevel? t).isSome || (fence? t).isSome ||
    Text.beginsWith ['>'] t || interruptingItem anyItem t ||
    match t with
    | '<' :: rest => (htmlEnd? rest).isSome || startsBlockTag rest
    | _ => false

/-- The columns of the table that begins at `t`, if the line after that is its delimiter
row. -/
def columnsAt? (frames : List Frame) (t : Text) : Option (List Html.Alignment) := do
  let next ← nextLine? t
  let c ← inside? frames next
  tableColumns? (lineText t) c.rest

/-- How a line goes on with the prose before it. -/
structure Onward where
  /-- The place after the marks of the frames it belongs to. -/
  cursor : Cursor
  /-- Whether it belongs to all of them. -/
  current : Bool
  /-- What follows up to four columns of indentation. -/
  text : Text
  /-- Whether it is indented by less than four columns. -/
  near : Bool
  /-- Whether it begins something else than prose. -/
  interrupting : Bool

/-- How a line goes on with the prose before it.  An item in the same frames as the prose
interrupts it only if something stands in it, and a row only if a table begins. -/
def Onward.ofLine (o : Options) (frames : List Frame) (line : Text) : Onward :=
  let found := matchFrames frames (Cursor.ofLine line)
  let current := found.1 == depth frames
  let passed := found.2.skip 4
  let t := passed.2.rest
  let near := passed.1 < 4
  { cursor := found.2
    current := current
    text := t
    near := near
    interrupting := near && (interrupts (!current) t ||
      (o.tables && Text.beginsWith ['|'] t && (columnsAt? frames t).isSome)) }

/-- Whether there is prose on the line. -/
def Onward.isProse (w : Onward) : Bool :=
  !w.interrupting && !w.cursor.dedented.head?.all isLineEnd

/-- The level of the heading that the line makes of the prose before it. -/
def Onward.underline? (w : Onward) : Option Nat :=
  if w.near && w.current then underlineLevel? w.text else none

/-- How many characters belong to the beginning of a line on which a definition goes on, if
it may do so.  A line that would underline a heading is never part of a definition; for a
label it must belong to the same frames for that. -/
def definitionOnward (o : Options) (frames : List Frame) (inLabel : Bool) (line : Text) :
    Option Nat :=
  let w := Onward.ofLine o frames line
  let underline := w.near && (!inLabel || w.current) && (underlineLevel? w.text).isSome
  if w.interrupting || underline then none else some (line.length - w.text.length)

/-- The lines of a paragraph. -/
structure Prose where
  /-- The lines as written, without the last line end. -/
  source : Text
  /-- How many lines follow the first one. -/
  lines : Nat
  /-- The level of the heading it is if the last line underlines it. -/
  underline : Option Nat

/-- The lines of the paragraph that begins at `t`, given the lines after that. -/
def proseFrom (o : Options) (frames : List Frame) (t : Text) : List Text → Prose
  | [] => ⟨lineText t, 0, none⟩
  | line :: rest =>
    let w := Onward.ofLine o frames line
    match w.underline? with
    | some level => ⟨lineText t, 1, some level⟩
    | none =>
      if w.isProse then
        let more := proseFrom o frames line rest
        { more with source := wholeLine t ++ more.source, lines := more.lines + 1 }
      else ⟨lineText t, 0, none⟩

/-- The rows of a table after its delimiter row. -/
def tableRows (frames : List Frame) : List Text → List (List Text)
  | [] => []
  | line :: rest =>
    match inside? frames line with
    | none => []
    | some c =>
      let t := c.dedented
      let cells := rowCells (lineText t)
      if interrupts true t || cells.isEmpty then [] else cells :: tableRows frames rest

/-- A row with one cell for each of `n` columns. -/
def fitRow (n : Nat) (cells : List Text) : List Text :=
  (cells ++ List.replicate (n - cells.length) []).take n

/-- What stands after an opening fence, without the spaces around it. -/
def fenceInfo (t : Text) : Text :=
  unescape false ((t.dropWhile isSpacing).reverse.dropWhile isSpaceOrEnd).reverse

/-! ### Blocks -/

/-- Read the paragraph or table that begins at `t`, after `lead` spacing characters, and say
how many of the lines that follow belong to it.  A table does not keep the box of a task,
and no header row ends with a backslash that escapes nothing. -/
def readParagraph (o : Options) (p : Progress) (task : Option Bool) (lead : Nat) (t : Text)
    (rest : List Text) : Progress × Nat :=
  let frames := p.frames.reverse
  let escaped := Text.runLength '\\' (lineText t).reverse % 2 == 1
  match if o.tables && !escaped then columnsAt? frames t else none with
  | some columns =>
    let rows := tableRows frames (rest.drop 1)
    let fit (cells : List Text) : List Passage :=
      (fitRow columns.length cells).map fun cell => ⟨none, .cell, 0, cell⟩
    (p.add (.table columns (fit (rowCells (lineText t))) (rows.map fit)), rows.length + 1)
  | none =>
    let prose := proseFrom o frames t rest
    let passage : Passage := ⟨task, .lines (holders frames), lead, prose.source⟩
    let block : Draft :=
      match prose.underline with
      | some level => .heading level passage
      | none => .paragraph passage
    (p.add block, prose.lines)

/-- Read the definition, paragraph or table that begins at `t`, after `lead` spacing
characters, and say how many of the lines that follow belong to it. -/
def readProse (o : Options) (p : Progress) (lead : Nat) (t : Text) (rest : List Text) :
    Progress × Nat :=
  let onward := definitionOnward o p.frames.reverse
  match definition? (onward true) (onward false) t with
  | some (d, after) =>
    (p.define d, (rest.takeWhile fun line => after.length < line.length).length)
  | none => readParagraph o p none lead t rest

/-- Read the block that begins at a place on a line, and say how many of the lines that
follow belong to it.  The line is not blank. -/
def readBlock (o : Options) (p : Progress) (c : Cursor) (rest : List Text) :
    Progress × Nat :=
  let p := p.settle
  let frames := p.frames.reverse
  let passed := c.skip 4
  let inner := passed.2
  let t := inner.rest
  if passed.1 == 4 then
    let kept := keep inner.spare t
    let more := codeLines frames rest kept.lines
    -- blank lines at the end belong to what follows
    let body := (more.reverse.dropWhile CodeLine.blank).reverse
    let trailing := more.getLast?.any CodeLine.blank
    let block : Draft := .code [] (kept.text ++ body.flatMap (·.kept.text))
    ({ p.add block with afterBlank := trailing }, kept.lines + linesTaken more)
  else
    let html? : Option (Option Text) :=
      match t with
      | '<' :: after =>
        match htmlEnd? after with
        | some part => some (some part)
        | none => if startsBlockTag after || isLoneTag after then some none else none
      | _ => none
    match html? with
    | some ending =>
      let kept := keep (max c.spare passed.1) t
      let complete := ending.any fun part => Text.includes part kept.text
      let more := if complete then .empty else htmlLines frames ending rest kept.lines
      let whole := kept.after more
      (p.add (.html whole.text), whole.lines)
    | none =>
    if isRule t then (p.add .rule, 0)
    else
    match headingLevel? t with
    | some level =>
      (p.add (.heading level ⟨none, .heading, 0, headingText (t.drop level)⟩), 0)
    | none =>
    match fence? t with
    | some (fence, length) =>
      let first := upToNewline t
      let more := fencedLines frames passed.1 fence length rest (linesWithin first)
      (p.add (.code (fenceInfo (first.drop length)) more.text), linesWithin first + more.lines)
    | none => readProse o p 0 t rest

/-! ### Frames that a line opens -/

/-- What follows the marks of the frames that a line opens. -/
inductive Opened where
  /-- A block, or nothing but spacing. -/
  | block (c : Cursor)
  /-- Nothing after the mark of an item, or after the box of a task. -/
  | nothing
  /-- The prose of a task. -/
  | task (ticked : Bool) (t : Text)

/-- Open the frames whose marks stand at a place on a line, one after another, and say
what follows them.  No more than `fuel` frames are opened. -/
def openFramesFrom (o : Options) : Nat → Progress → Cursor → Progress × Opened
  | 0, p, c => (p, .block c)
  | fuel + 1, p, c =>
    let passed := c.skip 4
    if 4 ≤ passed.1 then (p, .block c)
    else
      match listMark? passed.1 passed.2 with
      | some (mark, indent, inside) =>
        let p := p.openItem mark indent
        if inside.atEmpty then ({ p with inEmptyItem := true }, .nothing)
        else
          match if o.tasks then taskBox? inside else none with
          | some (ticked, after) =>
            -- what follows a box is prose, even if it looks like another block
            if after.atEmpty then
              let box : Passage := ⟨some ticked, .lines [], 0, []⟩
              ({ p.add (.plain box) with inEmptyItem := true }, .nothing)
            else (p, .task ticked after.dedented)
          | none => openFramesFrom o fuel p inside
      | none =>
        match passed.2.rest with
        | '>' :: rest => openFramesFrom o fuel p.openQuote ((passed.2.advance rest).skip 1).2
        | _ => (p, .block c)

/-- Open the frames whose marks stand at a place on a line.  Each mark takes a character,
so the length of the line is enough. -/
def openFrames (o : Options) (p : Progress) (c : Cursor) : Progress × Opened :=
  openFramesFrom o ((lineText c.rest).length + 1) p c

/-- Read a line, and say how many of the lines that follow have been read with it.  What
follows a definition is read as prose whatever frames its line belongs to. -/
def readLine (o : Options) (p : Progress) (line : Text) (rest : List Text) :
    Progress × Nat :=
  let frames := p.frames.reverse
  let w := Onward.ofLine o frames line
  if p.afterDefinition && w.isProse then
    let t := w.cursor.dedented
    let lead := ((line.take (line.length - t.length)).reverse.takeWhile isSpacing).length
    readProse o { p with afterDefinition := false } lead t rest
  else
    let found := matchFrames frames (Cursor.ofLine line)
    match openFrames o ({ p with afterDefinition := false }.closeTo found.1) found.2 with
    | (p, .nothing) => (p, 0)
    | (p, .task ticked t) => readParagraph o p (some ticked) 0 t rest
    | (p, .block c) => if c.atEmpty then (p.takeBlank, 0) else readBlock o p c rest

/-- The blocks of a document and the definitions in it. -/
def readBlocks (o : Options) (t : Text) : List Draft × List Definition :=
  let p := Text.scanFrom (readLine o) (lineStarts t) 0 {}
  (p.finish, p.definitions)

end Markdown
end Marginalia
