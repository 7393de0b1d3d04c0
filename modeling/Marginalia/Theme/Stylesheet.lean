import Marginalia.Text

/-!
# Stylesheets of highlighting themes

A stylesheet gives colours and type to the classes of highlighted code.

## Main definitions

* `Stylesheet`, `Stylesheet.Rule` — the type.
* `Stylesheet.write` — a stylesheet as a text.
* `Stylesheet.untold` — what there is of a stylesheet whose colours are not known.
-/

namespace Marginalia

namespace Stylesheet

/-- How type can be set off. -/
inductive Face where
  /-- In bold type. -/
  | bold
  /-- In italic type. -/
  | italic
  deriving DecidableEq, Repr

/-- What a selector is shown in. -/
structure Rule where
  /-- What the rule is about. -/
  selector : String
  /-- The colour of the text; empty if the rule leaves it alone. -/
  ink : String
  /-- The colour behind it; empty if the rule leaves it alone. -/
  paper : String
  /-- How the type is set off. -/
  faces : List Face
  deriving DecidableEq, Repr

end Stylesheet

/-- The colours of a theme. -/
structure Stylesheet where
  /-- The name that its author gave it. -/
  title : String
  /-- The colour of code. -/
  ink : String
  /-- The colour behind code. -/
  paper : String
  /-- What differs from that. -/
  rules : List Stylesheet.Rule
  deriving DecidableEq, Repr

namespace Stylesheet

/-- The declaration of a colour; an empty one declares nothing. -/
def declare (property colour : String) : String :=
  if colour.isEmpty then "" else " " ++ property ++ ": " ++ colour ++ ";\n"

/-- The declaration of a face. -/
def Face.declare : Face → String
  | .bold => "font-weight: bold;\n"
  | .italic => "font-style: italic;\n"

/-- A rule as a text. -/
def Rule.write (r : Rule) : String :=
  r.selector ++ " \x7b\n" ++ Stylesheet.declare "color" r.ink ++
    Stylesheet.declare "background-color" r.paper ++ String.join (r.faces.map Face.declare) ++
      "\x7d\n"

/-- A stylesheet as a text: a comment with its title, the rule for all code, and the
others. -/
def write (s : Stylesheet) : Text :=
  ("/*\n * theme \"" ++ s.title ++ "\" generated by syntect\n */\n\n" ++
    Rule.write ⟨".code", s.ink, s.paper, []⟩ ++ "\n" ++
      String.join (s.rules.map Rule.write)).toList

theorem write_ne_nil (s : Stylesheet) : s.write ≠ [] := by
  simp [write]

/-- The stylesheet of a theme whose colours are not known: its title, and a rule for code
that declares nothing. -/
def untold (title : String) : Stylesheet := ⟨title, "", "", []⟩

end Stylesheet
end Marginalia
