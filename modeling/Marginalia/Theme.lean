import Marginalia.Theme.Base16Mocha
import Marginalia.Theme.Base16Ocean
import Marginalia.Theme.InspiredGitHub

/-!
# Highlighting themes

## Main definitions

* `Theme`, `Theme.name`, `Theme.all` — the themes and their names, in order.
* `Theme.ofName?` — the theme with a name.
* `Theme.stylesheet` — what a theme adds to a page.
-/

namespace Marginalia

/-- A highlighting theme. -/
inductive Theme where
  /-- Dark on white. -/
  | inspiredGitHub
  /-- Solarized on its dark ground. -/
  | solarizedDark
  /-- Solarized on its light ground. -/
  | solarizedLight
  /-- Eighties on a dark ground. -/
  | base16EightiesDark
  /-- Mocha on a dark ground. -/
  | base16MochaDark
  /-- Ocean on a dark ground. -/
  | base16OceanDark
  /-- Ocean on a light ground. -/
  | base16OceanLight
  deriving DecidableEq, Repr

namespace Theme

/-- The name by which a theme is chosen. -/
def name : Theme → Text
  | .inspiredGitHub => "InspiredGitHub".toList
  | .solarizedDark => "Solarized (dark)".toList
  | .solarizedLight => "Solarized (light)".toList
  | .base16EightiesDark => "base16-eighties.dark".toList
  | .base16MochaDark => "base16-mocha.dark".toList
  | .base16OceanDark => "base16-ocean.dark".toList
  | .base16OceanLight => "base16-ocean.light".toList

/-- The themes in the order of their names. -/
def all : List Theme :=
  [.inspiredGitHub, .solarizedDark, .solarizedLight, .base16EightiesDark, .base16MochaDark,
    .base16OceanDark, .base16OceanLight]

/-- The theme with a name, in exactly that spelling. -/
def ofName? (t : Text) : Option Theme := all.find? fun theme => theme.name == t

/-- The rules that a theme adds to a page, as far as its colours are known here. -/
def stylesheet : Theme → Text
  | .inspiredGitHub => Stylesheet.inspiredGitHub.write
  | .solarizedDark => (Stylesheet.untold "Solarized (dark)").write
  | .solarizedLight => (Stylesheet.untold "Solarized (light)").write
  | .base16EightiesDark => (Stylesheet.untold "Base16 Eighties Dark").write
  | .base16MochaDark => Stylesheet.base16MochaDark.write
  | .base16OceanDark => Stylesheet.base16OceanDark.write
  | .base16OceanLight => (Stylesheet.untold "Base16 Ocean Light").write

theorem stylesheet_ne_nil (theme : Theme) : theme.stylesheet ≠ [] := by
  cases theme <;> exact Stylesheet.write_ne_nil _

end Theme
end Marginalia
