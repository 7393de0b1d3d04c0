import Marginalia.Markdown.Tree
import Marginalia.Text.Punctuation

/-!
# Emphasis

Runs of `*`, `_` and `~` are matched once everything that binds closer has been found.
A run may open or close according to the characters beside it; the nearest run that
fits is matched first, and what does not match is text.

## Main definitions

* `Markdown.canOpen`, `Markdown.canClose` — what the neighbours of a run allow.
* `Markdown.Piece` — a span, or a run that has not been matched.
* `Markdown.Opener`, `Markdown.fits` — a run that waits for its match.
* `Markdown.resolve` — pieces with their runs matched.
-/

namespace Marginalia
namespace Markdown

/-! ### What may open and close -/

/-- Whether a run may stand inside a word. -/
def insideWord (mark : Char) (length : Nat) : Bool :=
  mark == '*' || (mark == '~' && 1 < length)

/-- Whether a run of `mark` may open, between the given characters.  The beginning of a
line counts as white space; `next` is `none` at the end of the prose. -/
def canOpen (mark : Char) (length : Nat) (prev : Char) (next : Option Char) : Bool :=
  match next with
  | none => false
  | some next =>
    if Text.isSpace next then false
    else if Text.isSpace prev || Text.isPunctuation prev then true
    else if mark == '*' then !Text.isPunctuation next
    else insideWord mark length

/-- Whether a run of `mark` may close, between the given characters. -/
def canClose (mark : Char) (length : Nat) (prev : Char) (next : Option Char) : Bool :=
  if Text.isSpace prev then false
  else
    match next with
    | none => true
    | some next =>
      Text.isSpace next || Text.isPunctuation next ||
        (insideWord mark length && !Text.isPunctuation prev) ||
          (mark == '~' && prev == '~')

/-! ### Pieces and openers -/

/-- A part of prose whose runs have not been matched. -/
inductive Piece where
  /-- A span. -/
  | span (i : Inline)
  /-- A line end after a backslash. -/
  | escapedBreak
  /-- A run of `length` times `mark`, and the text that belongs to it as long as it is not
  matched. -/
  | run (mark : Char) (length : Nat) (opens closes : Bool) (tail : Text)

/-- Whether a piece is a run. -/
def Piece.isRun : Piece → Bool
  | .run _ _ _ _ _ => true
  | _ => false

/-- A run that waits for its match. -/
structure Opener where
  /-- Its character. -/
  mark : Char
  /-- How many characters of it are left, less one. -/
  others : Nat
  /-- How long it was at first. -/
  length : Nat
  /-- Whether it could have closed as well. -/
  both : Bool
  /-- Whether it may still be matched. -/
  waiting : Bool
  /-- The spans before it, the last one first. -/
  before : List Inline

namespace Opener

/-- What is left of an opener, as text. -/
def literal (o : Opener) : Inline := .text (List.replicate (o.others + 1) o.mark)

/-- An opener and what follows it as spans, the last one first, if it is never
matched. -/
def giveUp (content : List Inline) (o : Opener) : List Inline :=
  content ++ o.literal :: o.before

end Opener

/-- Whether a closing run of `length` times `mark`, which could have opened if `both`,
matches an opener.  When one of the two could be either, their lengths must not add up
to a multiple of three unless both are one. -/
def fits (mark : Char) (length : Nat) (both : Bool) (o : Opener) : Bool :=
  o.waiting && o.mark == mark && (mark != '~' || o.length == length) &&
    ((!both && !o.both) || (length + o.length) % 3 != 0 || length % 3 == 0)

/-- Spans inside `n` marks of emphasis: pairs are strong and stand inside a single
mark. -/
def emphasize : Nat → List Inline → List Inline
  | 0, content => content
  | 1, content => [.emphasis content]
  | n + 2, content => emphasize n [.strong content]

/-- Spans inside `n` times `mark`. -/
def enclose (mark : Char) (n : Nat) (content : List Inline) : List Inline :=
  if mark == '~' then [.deleted content] else emphasize n content

/-- Pieces being matched: the openers that wait, the innermost one first, and the spans
after the innermost one, the last one first. -/
structure Matching where
  /-- The openers. -/
  openers : List Opener
  /-- The spans after the innermost opener. -/
  spans : List Inline

namespace Matching

/-- Take the openers off up to the first one that fits; those above it are given up.
Answers with the opener, the spans after it and the openers below. -/
def takeOpener (test : Opener → Bool) :
    List Opener → List Inline → Option (Opener × List Inline × List Opener)
  | [], _ => none
  | o :: openers, spans =>
    if test o then some (o, spans, openers)
    else takeOpener test openers (o.giveUp spans)

/-- Match the `others + 1` characters left of a closing run, and say how many are left
when nothing more fits. -/
def close (mark : Char) (length : Nat) (both : Bool) (others : Nat) (m : Matching) :
    Matching × Nat :=
  match takeOpener (fits mark length both) m.openers m.spans with
  | none =>
    let openers :=
      if mark == '~' then
        m.openers.map fun o => if o.mark == '~' then { o with waiting := false } else o
      else m.openers
    (⟨openers, m.spans⟩, others + 1)
  | some (o, content, below) =>
    -- the marks nearest to the content are used up
    let used := min (others + 1) (o.others + 1)
    let spans := (enclose mark used content.reverse).reverse
    let m : Matching :=
      if o.others + 1 - used = 0 then ⟨below, spans ++ o.before⟩
      else ⟨{ o with others := o.others - used } :: below, spans⟩
    match h : others + 1 - used with
    | 0 => (m, 0)
    | left + 1 =>
      have : left < others := by omega
      close mark length both left m
termination_by others

/-- Take a piece. -/
def take (m : Matching) : Piece → Matching
  | .span i => { m with spans := i :: m.spans }
  | .escapedBreak => { m with spans := .hardBreak :: m.spans }
  | .run mark length opens closes tail =>
    let both := opens && closes
    let (m, left) :=
      match closes, length with
      | true, others + 1 => m.close mark length both others
      | _, _ => (m, length)
    match left with
    | 0 => m
    | others + 1 =>
      if opens then ⟨⟨mark, others, length, both, true, m.spans⟩ :: m.openers, []⟩
      else { m with spans := .text (List.replicate left mark ++ tail) :: m.spans }

/-- The spans when no piece is left. -/
def finish (m : Matching) : List Inline := (m.openers.foldl Opener.giveUp m.spans).reverse

end Matching

/-- Pieces of which the last one is not a line end after a backslash: nothing is left for
such a line end to break, and the backslash stands for itself. -/
def settleLast : List Piece → List Piece
  | [] => []
  | [.escapedBreak] => [.span (.text ['\\'])]
  | p :: ps => p :: settleLast ps

/-- Pieces with their runs matched.  `marked` says whether there has been anything among
them to match; only then is their end looked at. -/
def resolve (marked : Bool) (ps : List Piece) : List Inline :=
  ((if marked then settleLast ps else ps).foldl Matching.take ⟨[], []⟩).finish

end Markdown
end Marginalia
