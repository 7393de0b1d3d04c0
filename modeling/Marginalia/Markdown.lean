import Marginalia.Fragment
import Marginalia.Markdown.Blocks
import Marginalia.Markdown.Spans
import Marginalia.Markdown.Writer

/-!
# Formatted prose as HTML

Comments are written in Markdown.  A text is read into a tree, the tree is read out, HTML
among its events is turned back into text, and what is left is written: HTML in the prose
stays visible instead of turning into markup.

Only the extensions of `Markdown.Options` are read here.  What is done with the events of a
document does not depend on that, so formatting can be said with any reading of documents,
whatever extensions it knows.

## Main definitions

* `Markdown.Document`, `Markdown.read` — the tree of a text.
* `Markdown.events` — a text read out.
* `Markdown.render`, `Hook.markdown` — a text as HTML.
* `Markdown.Extension`, `Markdown.FullReading` — all the extensions there are, and a reading of
  documents with any of them.
* `Hook.markdownWith` — formatting with any extensions.
-/

namespace Marginalia
namespace Markdown

/-- A document whose spans have been read. -/
abbrev Document := List (Block (List Inline))

/-- The spans of a passage, the box of its task first. -/
def Passage.spans (o : Options) (ds : List Definition) (p : Passage) : List Inline :=
  (match p.task with
    | some ticked => [.checkbox ticked]
    | none => []) ++ readSpans o ds p

/-- The tree of a text. -/
def read (o : Options) (t : Text) : Document :=
  let (drafts, ds) := readBlocks o t
  Block.mapList (Passage.spans o ds) drafts

/-- The events of a text. -/
def events (o : Options) (t : Text) : List Event := Block.eventsList (read o t)

/-- A text as HTML. -/
def render (o : Options) (t : Text) : Text := write ((events o t).map Event.demote)

/-! ### Any extensions -/

/-- The extensions that documents can be read with. -/
inductive Extension where
  /-- Tables of cells between bars. -/
  | tables
  /-- Notes that are referred to by a name. -/
  | footnotes
  /-- Such notes in their older form. -/
  | oldFootnotes
  /-- Text struck through between tildes. -/
  | strikethrough
  /-- List items that begin with a box. -/
  | tasks
  /-- Curly quotes, dashes and dots. -/
  | smartPunctuation
  /-- Names, classes and attributes of headings. -/
  | headingAttributes
  /-- Data about the document between dashes. -/
  | yamlMetadata
  /-- Data about the document between plus signs. -/
  | plusMetadata
  /-- Formulas between dollar signs. -/
  | formulas
  /-- Block quotes with a class. -/
  | alerts
  /-- Lists of definitions. -/
  | definitionLists
  /-- Text above the line. -/
  | superscript
  /-- Text below the line. -/
  | subscript
  /-- Links between double brackets. -/
  | wikilinks
  deriving DecidableEq, Repr

/-- A choice of extensions. -/
abbrev Extensions := Extension → Bool

/-- The extensions that are read here, among all of them. -/
def Options.extensions (o : Options) : Extensions
  | .tables => o.tables
  | .strikethrough => o.strikethrough
  | .tasks => o.tasks
  | _ => false

/-- A reading of documents with any extensions. -/
structure FullReading where
  /-- The events of a text. -/
  events : Extensions → Text → List Event
  /-- With the extensions that are read here, a text has the events that it has here. -/
  events_extensions : ∀ o t, events o.extensions t = Markdown.events o t
  /-- There are no footnotes unless they are chosen. -/
  isFootnote_eq_false : ∀ x t, x .footnotes = false → ∀ e ∈ events x t, e.isFootnote = false

end Markdown

namespace Hook

/-- Formats text with the given extensions. -/
def markdown (o : Markdown.Options) : Hook := Markdown.render o

/-- Formats text with any extensions, as `r` reads them. -/
def markdownWith (r : Markdown.FullReading) (x : Markdown.Extensions) : Hook := fun t =>
  Markdown.write ((r.events x t).map Markdown.Event.demote)

/-- With the extensions that are read here, formatting is as it is here. -/
theorem markdownWith_extensions (r : Markdown.FullReading) (o : Markdown.Options) :
    markdownWith r o.extensions = markdown o := by
  funext t
  rw [markdownWith, r.events_extensions, markdown, Markdown.render]

end Hook
end Marginalia
