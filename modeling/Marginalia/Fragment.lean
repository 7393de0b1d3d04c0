import Marginalia.Html.Escape
import Marginalia.Section

/-!
# Sections as an HTML fragment

A fragment is one `<div class="lit">` that holds a `<section>` for each section,
with a region for the comments and a region for the code.  What goes into the
regions is made by two hooks, which the caller chooses.

## Main definitions

* `Hook` — a function from the text of a field to HTML; `Hook.identity`,
  `Hook.escape` and `Hook.highlight` are the simple ones.
* `Regions`, `Fragment.write` — the content of the two regions, and the frame
  around them.
* `Fragment.renderM` — a fragment by hooks that may have effects, so that the order
  of their calls is part of what is defined.
* `Fragment.render`, `Fragment.renderRecorded` — with plain hooks, and with a record
  of the calls.

A hook is called only for a field that is not empty; the code is passed without
the blank lines around it.
-/

namespace Marginalia

/-! ### Hooks -/

/-- Makes HTML of the text of a field. -/
abbrev Hook := Text → Text

namespace Hook

/-- The text unchanged. -/
def identity : Hook := fun t => t

/-- The text with `Html.escape`. -/
def escape : Hook := Html.escape

/-- Text in a language without a grammar: one span around all of it. -/
def highlight : Hook := fun t =>
  if t.isEmpty then []
  else "<span class=\"text plain\">".toList ++ Html.escapeAttribute t ++ "</span>".toList

end Hook

/-! ### The frame -/

/-- What the two regions of a section hold. -/
structure Regions where
  /-- The region of the comments. -/
  comments : Text
  /-- The region of the code. -/
  code : Text
  deriving DecidableEq, Repr

/-- What stands in a comment region that would show nothing. -/
def emptyComment : Text := "&nbsp;".toList

/-- What fills a comment region, given what the hook made. -/
def fillComment (html : Text) : Text := if Text.isBlank html then emptyComment else html

/-- A section of a fragment. -/
def Regions.write (r : Regions) : Text :=
  "<section>\n<div class=\"lit-comment\">\n".toList ++ r.comments ++
    "\n</div>\n<code class=\"lit-code\">\n".toList ++ r.code ++
      "\n</code>\n</section>\n".toList

namespace Fragment

/-- The beginning of a fragment. -/
def opening : Text := "<div class=\"lit\">\n".toList

/-- The end of a fragment. -/
def closing : Text := "</div>\n".toList

/-- A fragment with the given regions. -/
def write (rs : List Regions) : Text := opening ++ rs.flatMap Regions.write ++ closing

/-! ### Rendering -/

section Effects

variable {m : Type → Type} [Monad m]

/-- The regions of a section: the comments first, then the code. -/
def regionsM (comment code : Text → m Text) (s : Section) : m Regions := do
  let commentHtml ← if s.comments.isEmpty then pure [] else comment s.comments
  let trimmed := Code.trim s.code
  let codeHtml ← if trimmed.isEmpty then pure [] else code trimmed
  pure ⟨fillComment commentHtml, codeHtml⟩

/-- The regions of sections in order. -/
def regionListM (comment code : Text → m Text) : List Section → m (List Regions)
  | [] => pure []
  | s :: rest => do
    let r ← regionsM comment code s
    let rs ← regionListM comment code rest
    pure (r :: rs)

/-- The fragment of sections, by hooks that may have effects. -/
def renderM (comment code : Text → m Text) (ss : List Section) : m Text := do
  let rs ← regionListM comment code ss
  pure (write rs)

end Effects

/-- The fragment of sections. -/
def render (comment code : Hook) (ss : List Section) : Text :=
  Id.run (renderM (fun t => pure (comment t)) (fun t => pure (code t)) ss)

/-! ### Recording the calls -/

/-- A call of a hook, with the text passed. -/
inductive Call where
  /-- The hook for comments was called. -/
  | comment (text : Text)
  /-- The hook for code was called. -/
  | code (text : Text)
  deriving DecidableEq, Repr

/-- Call a hook and note the call. -/
def recording (note : Text → Call) (hook : Hook) (t : Text) : StateM (List Call) Text := do
  modify fun calls => calls ++ [note t]
  pure (hook t)

/-- The fragment of sections and the calls made for it, in order. -/
def renderRecorded (comment code : Hook) (ss : List Section) : Text × List Call :=
  renderM (recording Call.comment comment) (recording Call.code code) ss []

end Fragment
end Marginalia
