import Marginalia.Highlighter
import Marginalia.Markdown
import Marginalia.Marker
import Marginalia.Path
import Marginalia.Renderer
import Marginalia.Toml.Read

/-!
# Settings

What is made of a source file can be chosen in a settings file, by the keys
`comment_marker`, `markdown`, `highlight`, `theme` and `standalone` at its top level.

## Main definitions

* `Settings` — the choices there are, with their defaults.
* `Settings.ofMembers?`, `Settings.read?`, `Settings.ofFile` — the settings that a file
  makes.  A file with a fault anywhere makes none.
* `Settings.markerFor`, `Settings.rendererFor` — what the settings mean for a path.
* `Overrides`, `Overrides.apply` — settings that are given for one run.
-/

namespace Marginalia

/-- How source files are rendered. -/
structure Settings where
  /-- The marker of comments; without one it is chosen by the extension of each file. -/
  marker : Option Text := none
  /-- Whether comments are formatted as Markdown. -/
  markdown : Bool := true
  /-- Whether code is highlighted. -/
  highlight : Bool := true
  /-- The name of the theme of a complete page. -/
  theme : Text := Theme.inspiredGitHub.name
  /-- Whether a complete page is made. -/
  standalone : Bool := false
  deriving DecidableEq, Repr, Inhabited

namespace Settings

/-! ### Reading -/

/-- The string under a key: `some none` without the key, `none` if it has another type. -/
def string? (ms : Toml.Members) (key : String) : Option (Option Text) :=
  match ms.get? key.toList with
  | none => some none
  | some (.value (.string t)) => some (some t)
  | some _ => none

/-- The truth value under a key: `some none` without the key, `none` if it has another
type. -/
def boolean? (ms : Toml.Members) (key : String) : Option (Option Bool) :=
  match ms.get? key.toList with
  | none => some none
  | some (.value (.boolean b)) => some (some b)
  | some _ => none

/-- The settings that the top-level keys of a document make; `none` if one of them has the
wrong type.  Other keys do not matter. -/
def ofMembers? (ms : Toml.Members) : Option Settings := do
  let marker ← string? ms "comment_marker"
  let markdown ← boolean? ms "markdown"
  let highlight ← boolean? ms "highlight"
  let theme ← string? ms "theme"
  let standalone ← boolean? ms "standalone"
  let default : Settings := {}
  pure
    { marker := marker
      markdown := markdown.getD default.markdown
      highlight := highlight.getD default.highlight
      theme := theme.getD default.theme
      standalone := standalone.getD default.standalone }

/-- The settings that a text makes. -/
def read? (t : Text) : Option Settings := Toml.read? t >>= ofMembers?

/-- The settings that a file makes, given what reading it gave.  Without a file, or with a
fault in it, these are the defaults. -/
def ofFile {ε : Type} : Except ε Text → Settings
  | .error _ => {}
  | .ok t => (read? t).getD {}

/-! ### Applying -/

/-- The marker of comments in a file. -/
def markerFor (s : Settings) (p : Path) : Marker :=
  match s.marker with
  | some t => ⟨t⟩
  | none => Marker.ofExtension p.extension

/-- The renderer of a file: its extension is the token for the language of its code. -/
def rendererFor (s : Settings) (p : Path) (pen : Highlighter := .plainText) : Renderer where
  marker := s.markerFor p
  comment := if s.markdown then Hook.markdown .all else Hook.escape
  code := if s.highlight then pen.hook p.extension else Hook.escape

end Settings

/-! ### Overriding -/

/-- Settings given for one run. -/
structure Overrides where
  /-- The marker of comments in all files, if given. -/
  marker : Option Text := none
  /-- Whether comments are to be escaped. -/
  plain : Bool := false
  /-- Whether code is to be escaped. -/
  noHighlight : Bool := false
  /-- Whether a complete page is to be made. -/
  standalone : Bool := false
  /-- The name of the theme, if given. -/
  theme : Option Text := none
  deriving DecidableEq, Repr, Inhabited

/-- The settings with those replaced that are given. -/
def Overrides.apply (o : Overrides) (s : Settings) : Settings where
  marker := o.marker <|> s.marker
  markdown := s.markdown && !o.plain
  highlight := s.highlight && !o.noHighlight
  theme := o.theme.getD s.theme
  standalone := s.standalone || o.standalone

end Marginalia
