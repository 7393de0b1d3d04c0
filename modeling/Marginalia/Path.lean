import Marginalia.Text

/-!
# Paths

A path is a text that names a file by steps from folder to folder, with slashes between
them.  Systems also have names that are no Unicode text, whose extensions would be taken for empty
and whose titles would be shown with replacement characters; there are none of these here.

## Main definitions

* `Path` — the type.
* `Path.steps`, `Path.names` — the parts between the slashes, and those that say
  something about the name.
* `Path.fileName?`, `Path.extension` — the name at the end of a path, and its extension.
-/

namespace Marginalia

/-- The name of a file as it is given, relative or from the root. -/
structure Path where
  /-- The path as written. -/
  text : Text
  deriving DecidableEq, Repr, Inhabited

namespace Path

/-- The step that stays where it is. -/
def here : Text := ".".toList

/-- The step to the folder around. -/
def up : Text := "..".toList

/-- The parts between the slashes; a part may be empty. -/
def steps (p : Path) : List Text := Text.splitOn '/' p.text

/-- Whether a path begins at the root. -/
def fromRoot (p : Path) : Bool := Text.beginsWith ['/'] p.text

/-- Whether a step stays where it is. -/
def staysPut (step : Text) : Bool := step.isEmpty || step == here

/-- The steps that lead somewhere. -/
def names (p : Path) : List Text := p.steps.filter fun step => !staysPut step

/-- The name at the end of a path; `none` if it ends by going up or leads nowhere. -/
def fileName? (p : Path) : Option Text :=
  match p.names.getLast? with
  | none => none
  | some name => if name = up then none else some name

/-- What follows the last dot of a file name.  A name without a dot has no extension, nor
has one whose only dot is its first character. -/
def extensionOf (name : Text) : Text :=
  match name.reverse.span (· != '.') with
  | (_, []) => []
  | (_, [_]) => []
  | (ending, _) => ending.reverse

/-- The extension of the name at the end of a path; empty if there is none. -/
def extension (p : Path) : Text :=
  match p.fileName? with
  | none => []
  | some name => extensionOf name

end Path
end Marginalia
