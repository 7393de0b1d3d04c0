import Marginalia.Markdown.Definition
import Marginalia.Markdown.RawHtml
import Marginalia.Markdown.Token

/-!
# From prose to spans

The tokens of prose are taken once from left to right.  Code spans, addresses, HTML and
links are settled on the way; emphasis is settled when the text of a link or all of the
prose has been read.

## Main definitions

* `Markdown.codeText` — the text of a code span.
* `Markdown.Bracket`, `Markdown.Reading` — an open bracket, and what has been read.
* `Markdown.Context.linkTarget?`, `Markdown.Reading.closeBracket` — where a link leads, and
  what a closing bracket makes.
* `Markdown.Reading.take` — what a token makes, with those that follow it.
* `Markdown.readSpans` — the spans of prose.
-/

namespace Marginalia
namespace Markdown

/-- What the spans of prose depend on besides the prose. -/
structure Context where
  /-- The definitions of the document. -/
  definitions : List Definition
  /-- Where the prose stands. -/
  setting : Setting

/-- How many characters of marks a line of the prose begins with. -/
def Context.marks (x : Context) (t : Text) : Nat := marksLength x.setting.holders t

/-! ### Code spans -/

/-- The first `length` characters of a text as a code span shows them, but for the spaces at
its ends: line ends are spaces, the marks of lines are left out, and in a cell of a table a
bar needs no backslash. -/
def codeBody (s : Setting) : Text → (length skip : Nat) → Text
  | [], _, _ => []
  | _, 0, _ => []
  | _ :: t, length + 1, skip + 1 => codeBody s t length skip
  | c :: t, length + 1, 0 =>
    if isLineEnd c then ' ' :: codeBody s t length (marksLength s.holders t)
    else if s == .cell && c == '\\' && t.head? == some '|' then codeBody s t length 0
    else c :: codeBody s t length 0

/-- The text of a code span that takes the first `length` characters after its backticks: one
space on either side is left out unless there is nothing else. -/
def codeText (s : Setting) (t : Text) (length : Nat) : Text :=
  let t := codeBody s t length 0
  if t.head? == some ' ' && t.getLast? == some ' ' && !t.all (· == ' ') then
    (t.drop 1).dropLast
  else t

/-! ### Reading -/

/-- An opening bracket that has not been closed. -/
structure Bracket where
  /-- Whether it would begin an image. -/
  image : Bool
  /-- Whether it may begin anything: inside of a link there is no other. -/
  active : Bool
  /-- Its token. -/
  token : Token
  /-- The pieces before it, the last one first. -/
  before : List Piece

/-- What stands for a bracket that begins nothing. -/
def Bracket.literal (b : Bracket) : Piece := .span (.text b.token.shown)

/-- What has been read. -/
structure Reading where
  /-- The pieces after the innermost open bracket, the last one first. -/
  pieces : List Piece := []
  /-- The open brackets, the innermost one first. -/
  brackets : List Bracket := []
  /-- How many characters of the prose have been dealt with. -/
  reached : Nat := 0

/-- The label whose opening bracket `t` follows, as it is compared, and its length. -/
def Context.label? (x : Context) (t : Text) : Option (Text × Nat) :=
  Markdown.label? (x.setting == .cell) (fun t => some (x.marks t)) t

/-- Where a link leads whose closing bracket is `t`, with the tokens that follow: the address,
the title and how many characters of the prose have been read then.  The label of a link
without one is its text. -/
def Context.linkTarget? (x : Context) (b : Bracket) (t : Token) (rest : List Token) :
    Option (Text × Text × Nat) :=
  let own (reached : Nat) : Option (Text × Text × Nat) := do
    let (label, length) ← x.label? b.token.after
    if b.token.stop + length = t.stop then
      let d ← lookup label x.definitions
      pure (d.url, d.title, reached)
    else none
  match target? x.setting (Token.resume rest) t.stop t.after with
  | some (url, title, length) => some (url, title, t.stop + length)
  | none =>
    match rest with
    | [] => own t.stop
    | next :: _ =>
      -- a token begins after the backslash of an escape, which does not count here
      match next.onward with
      | '[' :: ']' :: _ => own (next.start + 2)
      | '[' :: inner =>
        match x.label? inner with
        | some (label, length) =>
          (lookup label x.definitions).map fun d => (d.url, d.title, next.start + 1 + length)
        | none => own t.stop
      | _ => own t.stop

namespace Reading

/-- Add a piece, and note how far that goes. -/
def push (r : Reading) (p : Piece) (reached : Nat) : Reading :=
  { r with pieces := p :: r.pieces, reached := reached }

/-- Add a span, and note how far that goes. -/
def pushSpan (r : Reading) (i : Inline) (reached : Nat) : Reading := r.push (.span i) reached

/-- Add a token as it reads if nothing comes of it. -/
def pushShown (r : Reading) (t : Token) : Reading := r.pushSpan (.text t.shown) t.stop

/-- Take a closing bracket. -/
def closeBracket (x : Context) (r : Reading) (t : Token) (rest : List Token) : Reading :=
  match r.brackets with
  | [] => r.pushShown t
  | b :: brackets =>
    match if b.active then x.linkTarget? b t rest else none with
    | none =>
      let opened := { r with pieces := r.pieces ++ b.literal :: b.before, brackets := brackets }
      opened.pushShown t
    | some (url, title, reached) =>
      let content := resolve (r.pieces.any Piece.isRun) r.pieces.reverse
      if b.image then
        { pieces := .span (.image url title content) :: b.before
          brackets := brackets
          reached := reached }
      else
        { pieces := .span (.link url title content) :: b.before
          -- there are no links in links
          brackets := brackets.map fun b => if b.image then b else { b with active := false }
          reached := reached }

/-- Take a run of backticks.  It begins a code span if there is another one as long; an
escaped backtick is none of them. -/
def takeTicks (x : Context) (r : Reading) (length : Nat) (escaped : Bool) (t : Token)
    (rest : List Token) : Reading :=
  let wanted := if escaped then length - 1 else length
  let isClosing (other : Token) : Bool :=
    match other.kind with
    | .ticks length _ => length == wanted
    | _ => false
  match rest.find? isClosing with
  | some closing =>
    let code := codeText x.setting t.after (closing.start - t.stop)
    let r := if escaped then r.pushSpan (.text ['\x60']) t.stop else r
    r.pushSpan (.code code) closing.stop
  | none => r.pushShown t

/-- Take an opening angle bracket. -/
def takeAngle (x : Context) (r : Reading) (t : Token) : Reading :=
  match autolink? t.after with
  | some (url, shown, rest) =>
    r.pushSpan (.link url [] [.text shown]) (t.stop + (t.after.length - rest.length))
  | none =>
    match html? x.marks t.after with
    | some (shown, length) => r.pushSpan (.html ('<' :: shown)) (t.stop + length)
    | none => r.pushShown t

/-- Take a token, with those that follow it. -/
def take (x : Context) (r : Reading) (t : Token) (rest : List Token) : Reading :=
  match t.kind with
  | .text => r.pushShown t
  | .value v => r.pushSpan (.text v) t.stop
  | .softBreak => r.pushSpan .softBreak t.stop
  | .hardBreak => r.pushSpan .hardBreak t.stop
  | .escapedBreak => r.push .escapedBreak t.stop
  | .ticks length escaped => r.takeTicks x length escaped t rest
  | .angle => r.takeAngle x t
  | .opening image =>
    { pieces := [], brackets := ⟨image, true, t, r.pieces⟩ :: r.brackets, reached := t.stop }
  | .closing => r.closeBracket x t rest
  | .run mark length opens closes =>
    r.push (.run mark length opens closes (t.shown.drop length)) t.stop

/-- Take tokens in order, as far as they have not been dealt with. -/
def run (x : Context) (r : Reading) : List Token → Reading
  | [] => r
  | t :: rest =>
    match t.beyond? r.reached with
    | some t => run x (r.take x t rest) rest
    | none => run x r rest

/-- The pieces when everything has been read: open brackets are text. -/
def finish (r : Reading) : List Piece :=
  (r.brackets.foldl (fun pieces b => pieces ++ b.literal :: b.before) r.pieces).reverse

end Reading

/-- The spans of a passage, with the definitions of its document. -/
def readSpans (o : Options) (ds : List Definition) (p : Passage) : List Inline :=
  let tokens := p.tokens o
  resolve (tokens.any (·.kind.isMark)) (Reading.run ⟨ds, p.setting⟩ {} tokens).finish

end Markdown
end Marginalia
