import Marginalia.Fragment
import Marginalia.Page
import Marginalia.Scan

/-!
# Renderers

A renderer is a marker and a pair of hooks, chosen once and used for many sources.

## Main definitions

* `Source` — raw text, or sections found earlier.
* `Renderer`, `Renderer.plain` — the type, and the one that escapes everything.
* `Renderer.fragment`, `Renderer.document` — a source as a fragment or as a page.
-/

namespace Marginalia

/-- What can be rendered. -/
inductive Source where
  /-- Text whose sections are still to be found. -/
  | text (t : Text)
  /-- Sections, rendered as they are. -/
  | sections (ss : List Section)
  deriving DecidableEq, Repr

/-- The sections of a source, when comments are marked by `m`. -/
def Source.toSections (m : Marker) : Source → List Section
  | .text t => sectionsOf m t
  | .sections ss => ss

/-- A source as a fragment, its comments marked by `//` if it is raw text. -/
def Source.fragment (comment code : Hook) (s : Source) : Text :=
  Fragment.render comment code (s.toSections Marker.slashes)

/-- A marker and a pair of hooks. -/
structure Renderer where
  /-- The marker of comments in raw text. -/
  marker : Marker
  /-- Fills the comment regions. -/
  comment : Hook
  /-- Fills the code regions. -/
  code : Hook

namespace Renderer

/-- Finds comments after `//` and escapes both fields. -/
def plain : Renderer := ⟨Marker.slashes, Hook.escape, Hook.escape⟩

/-- The sections this renderer finds in a text. -/
def parse (r : Renderer) (t : Text) : List Section := sectionsOf r.marker t

/-- A source as a fragment. -/
def fragment (r : Renderer) (s : Source) : Text :=
  Fragment.render r.comment r.code (s.toSections r.marker)

/-- A source as a page. -/
def document (r : Renderer) (title : Text) (s : Source) (stylesheet : Option Text) : Text :=
  Page.write ⟨title, r.fragment s, stylesheet⟩

end Renderer
end Marginalia
