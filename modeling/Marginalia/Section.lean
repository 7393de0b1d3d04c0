import Marginalia.Text

/-!
# Sections

A section pairs a run of comment prose with the code that follows it.

## Main definitions

* `Section` — the type.
* `Code.trim` — a code block without the blank lines around it.
-/

namespace Marginalia

/-- A block of prose and the code it is about. -/
structure Section where
  /-- The prose, its markers removed, each comment line ended by a newline. -/
  comments : Text
  /-- The code, its lines joined by newlines. -/
  code : Text
  deriving DecidableEq, Repr, Inhabited

namespace Code

/-- Pass over blank lines; `line` is where the current line begins and the last
argument what is left to look at.  A line without a newline is never passed over. -/
def skipBlankFrom (line : Text) : Text → Text
  | [] => line
  | c :: rest =>
    if c = '\n' then skipBlankFrom rest rest
    else if Text.isSpace c then skipBlankFrom line rest
    else line

/-- A text without the blank lines at its beginning. -/
def skipBlankLines (code : Text) : Text := skipBlankFrom code code

/-- A code block without the blank lines at its beginning and at its end.  Blank
lines between other lines stay, and so does the white space of the lines kept. -/
def trim (code : Text) : Text :=
  let body := (skipBlankLines (skipBlankLines code).reverse).reverse
  if Text.isBlank body then [] else body

@[simp] theorem skipBlankFrom_nil (line : Text) : skipBlankFrom line [] = line := rfl

@[simp] theorem trim_nil : trim [] = [] := rfl

end Code

end Marginalia
