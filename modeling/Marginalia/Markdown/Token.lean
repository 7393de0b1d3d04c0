import Marginalia.Markdown.Emphasis
import Marginalia.Markdown.Holder

/-!
# Prose as tokens

Prose is cut into tokens before anything in it is matched: text, resolved characters, line
ends, and the marks that may turn out to begin or end a span.  A token keeps its place in
the prose, because a link or a code span takes characters and not tokens.

## Main definitions

* `Markdown.TokenKind`, `Markdown.Token` — the tokens.
* `Markdown.Token.beyond?` — what is left of a token.
* `Markdown.Lexing`, `Markdown.Lexing.step` — what has been cut, and what a character makes.
* `Markdown.Passage.tokens` — the tokens of a passage.
-/

namespace Marginalia
namespace Markdown

/-- What a token is. -/
inductive TokenKind where
  /-- Characters that stand for themselves. -/
  | text
  /-- A character reference, and what it stands for. -/
  | value (t : Text)
  /-- A line end without meaning. -/
  | softBreak
  /-- A line end that is to be kept, because of the spacing before it. -/
  | hardBreak
  /-- A line end that is to be kept, because of the backslash before it. -/
  | escapedBreak
  /-- A run of backticks.  The first one of them may be escaped. -/
  | ticks (length : Nat) (escaped : Bool)
  /-- An opening angle bracket. -/
  | angle
  /-- An opening square bracket, perhaps with an exclamation mark before it. -/
  | opening (image : Bool)
  /-- A closing square bracket. -/
  | closing
  /-- A run of marks of emphasis. -/
  | run (mark : Char) (length : Nat) (opens closes : Bool)
  deriving DecidableEq, Repr

/-- Whether something may have to be matched with a token. -/
def TokenKind.isMark : TokenKind → Bool
  | .ticks _ _ | .angle | .opening _ | .closing | .run _ _ _ _ => true
  | _ => false

/-- A part of prose. -/
structure Token where
  /-- What it is. -/
  kind : TokenKind
  /-- How many characters stand before it. -/
  start : Nat
  /-- How many characters stand before its end. -/
  stop : Nat
  /-- The token as it reads if nothing comes of it. -/
  shown : Text
  /-- The prose after it. -/
  after : Text
  deriving Repr

namespace Token

/-- The prose from the token on. -/
def onward (t : Token) : Text := t.shown ++ t.after

/-- What is left of a token when the first `reached` characters have been dealt with.  Only
text is left in part. -/
def beyond? (reached : Nat) (t : Token) : Option Token :=
  if reached ≤ t.start then some t
  else if reached < t.stop && t.kind == .text then
    some { t with start := reached, shown := t.shown.drop (reached - t.start) }
  else none

/-- Where the first of some tokens begins that ends beyond the character at `position`, if
it begins beyond it as well. -/
def resume (ts : List Token) (position : Nat) : Option Nat :=
  match ts.find? fun t => position + 1 < t.stop with
  | some t => if position < t.start then some t.start else none
  | none => none

end Token

/-! ### Cutting -/

/-- What has been cut into tokens. -/
structure Lexing where
  /-- The tokens, the last one first. -/
  tokens : List Token := []
  /-- The characters of text after them, the last one first. -/
  pending : Text := []
  /-- How many characters have been read. -/
  position : Nat := 0
  /-- The character before; a space at the beginning of a line. -/
  prev : Char := ' '
  /-- How many spacing characters stand directly before. -/
  spacing : Nat := 0

namespace Lexing

/-- Make a token of the pending text but for the last `omitted` characters of it; `after` is
the prose not read yet. -/
def flush (l : Lexing) (omitted : Nat) (after : Text) : Lexing :=
  let kept := l.pending.drop omitted
  if kept.isEmpty then { l with pending := [] }
  else
    { l with
      tokens :=
        { kind := .text
          start := l.position - l.pending.length
          stop := l.position - omitted
          shown := kept.reverse
          after := (l.pending.take omitted).reverse ++ after } :: l.tokens
      pending := [] }

/-- How many spacing characters the pending text ends with. -/
def trailing (l : Lexing) : Nat := (l.pending.takeWhile isSpacing).length

/-- Take the first `width` characters of `t` as a token, after the pending text. -/
def emit (l : Lexing) (kind : TokenKind) (width : Nat) (t : Text) : Lexing :=
  let l := l.flush 0 t
  { l with
    tokens := ⟨kind, l.position, l.position + width, t.take width, t.drop width⟩ :: l.tokens
    position := l.position + width
    prev := (t.drop (width - 1)).head?.getD ' '
    spacing := 0 }

/-- Take a character as text. -/
def keep (l : Lexing) (c : Char) : Lexing :=
  { l with
    pending := c :: l.pending
    position := l.position + 1
    prev := c
    spacing := if isSpacing c then l.spacing + 1 else 0 }

/-- Take a character as text that `passed` others, which are left out, stand before; `t` is
the prose from the first of these on. -/
def keepEscaped (l : Lexing) (passed : Nat) (c : Char) (t : Text) : Lexing :=
  let l := l.flush 0 t
  { l with
    pending := [c]
    position := l.position + passed + 1
    prev := c
    spacing := 0 }

/-- Take the end of a line, for which `width` characters of `t` stand and the last `back`
characters read.  The marks and the indentation of the next line belong to no token. -/
def endLine (hs : List Holder) (l : Lexing) (kind : TokenKind) (back width : Nat) (t : Text) :
    Lexing × Nat :=
  let next := t.drop width
  let inside := (passMarks hs next).dropWhile isIndentation
  let passed := next.take (next.length - inside.length)
  ({ l with
      tokens := ⟨kind, l.position - back, l.position + width, t.take width, next⟩ :: l.tokens
      position := l.position + width + passed.length
      prev := ' '
      spacing := (passed.reverse.takeWhile isSpacing).length },
    width - 1 + passed.length)

/-- Take a line end, with which `t` begins.  Two spacing characters before it keep it; the
spacing is no part of the text. -/
def takeLineEnd (hs : List Holder) (l : Lexing) (t : Text) : Lexing × Nat :=
  let flushed := l.flush l.trailing t
  if 2 ≤ l.spacing then flushed.endLine hs .hardBreak l.spacing (lineEndWidth t) t
  else flushed.endLine hs .softBreak 0 (lineEndWidth t) t

/-- Take a backslash, which `rest` follows. -/
def takeBackslash (s : Setting) (l : Lexing) (rest : Text) : Lexing × Nat :=
  let t := '\\' :: rest
  match rest with
  | '\x60' :: more =>
    -- the backticks are one token, although the first of them is escaped
    let length := Text.runLength '\x60' more + 1
    let l := l.flush 0 t
    (({ l with position := l.position + 1 }).emit (.ticks length true) length rest, length)
  | p :: next =>
    if isLineEnd p then
      (l.flush 0 t).endLine s.holders .escapedBreak 0 (lineEndWidth rest + 1) t
    else if s == .cell && p == '\\' && next.head? == some '|' then (l.keepEscaped 2 '|' t, 2)
    else if Text.isAsciiPunctuation p then (l.keepEscaped 1 p t, 1)
    else (l.keep '\\', 0)
  | [] => (l.keep '\\', 0)

/-- Take a run of marks of emphasis, of which `rest` follows the first one. -/
def takeRun (l : Lexing) (mark : Char) (rest : Text) : Lexing × Nat :=
  let others := Text.runLength mark rest
  let length := others + 1
  let next := (rest.drop others).head?
  let opens := canOpen mark length l.prev next
  let closes := canClose mark length l.prev next
  -- no more than two tildes strike anything through
  if (opens || closes) && !(mark == '~' && 2 < length) then
    (l.emit (.run mark length opens closes) length (mark :: rest), others)
  else ((List.replicate length mark).foldl keep l, others)

/-- Take a character, and say how many of those after it belong to it. -/
def step (o : Options) (s : Setting) (l : Lexing) (c : Char) (rest : Text) : Lexing × Nat :=
  if isLineEnd c then l.takeLineEnd s.holders (c :: rest)
  else
    match c with
    | '\\' => l.takeBackslash s rest
    | '\x60' =>
      let length := Text.runLength '\x60' rest + 1
      (l.emit (.ticks length false) length (c :: rest), length - 1)
    | '*' => l.takeRun '*' rest
    | '_' => l.takeRun '_' rest
    | '~' => if o.strikethrough then l.takeRun '~' rest else (l.keep '~', 0)
    | '<' =>
      -- nothing that may follow an angle bracket begins with a backslash
      if rest.head? == some '\\' then (l.keep '<', 0) else (l.emit .angle 1 (c :: rest), 0)
    | '!' =>
      if rest.head? == some '[' then (l.emit (.opening true) 2 (c :: rest), 1)
      else (l.keep '!', 0)
    | '[' => (l.emit (.opening false) 1 (c :: rest), 0)
    | ']' => (l.emit .closing 1 (c :: rest), 0)
    | '&' =>
      match reference? rest with
      | some (value, taken) => (l.emit (.value value) (taken + 1) (c :: rest), taken)
      | none => (l.keep '&', 0)
    | c => (l.keep c, 0)

/-- The tokens when everything has been read.  The spacing at the end is left out, but in a
heading the last token reaches up to the end. -/
def finish (s : Setting) (l : Lexing) : List Token :=
  match (l.flush l.trailing []).tokens with
  | [] => []
  | last :: tokens =>
    if s == .heading then
      ({ last with stop := l.position, shown := last.onward, after := [] } :: tokens).reverse
    else (last :: tokens).reverse

end Lexing

/-- The tokens of a passage. -/
def Passage.tokens (o : Options) (p : Passage) : List Token :=
  (Text.scanFrom (Lexing.step o p.setting) p.source 0 { spacing := p.lead }).finish p.setting

end Markdown
end Marginalia
