import Marginalia.FileTree
import Marginalia.Settings

/-!
# From files to HTML

## Main definitions

* `Failure`, `Failure.message` — why nothing can be made of some files.
* `Reader` — where the texts of files come from.
* `parseFile` — the sections of a file.
* `fragments`, `renderFiles` — files as one fragment after another, or as a page.
-/

namespace Marginalia

/-- Why nothing can be made of some files. -/
inductive Failure where
  /-- A file cannot be read or written. -/
  | file (e : FileError)
  /-- There is no theme of the name. -/
  | unknownTheme (name : Text)
  deriving DecidableEq, Repr

/-- The wording of a failure. -/
def Failure.message : Failure → Text
  | .file e => e.message
  | .unknownTheme name => "unknown theme: ".toList ++ name

/-- Gives the text of the file at a path. -/
abbrev Reader := Path → Except FileError Text

/-- Read a file for something that is to be made of it. -/
def Reader.get (read : Reader) (p : Path) : Except Failure Text :=
  match read p with
  | .error e => .error (.file e)
  | .ok t => .ok t

/-- The sections of a file. -/
def parseFile (read : Reader) (s : Settings) (p : Path) : Except Failure (List Section) := do
  let source ← read.get p
  pure (sectionsOf (s.markerFor p) source)

/-- The fragments of files, in the order of their paths; the first file that cannot be read
decides the failure. -/
def fragments (read : Reader) (s : Settings) (ps : List Path)
    (pen : Highlighter := .plainText) : Except Failure Text :=
  match ps with
  | [] => pure []
  | p :: ps => do
    let source ← read.get p
    let rest ← fragments read s ps pen
    pure ((s.rendererFor p pen).fragment (.text source) ++ rest)

/-- The stylesheet of a page: that of the theme if code is highlighted. -/
def Settings.stylesheet (s : Settings) (pen : Highlighter := .plainText) :
    Except Failure (Option Text) :=
  if s.highlight then
    match Theme.ofName? s.theme with
    | none => .error (.unknownTheme s.theme)
    | some theme => .ok (some (pen.stylesheet theme))
  else .ok none

/-- The title of a page about files: the name of the first one. -/
def pageTitle (ps : List Path) : Text :=
  match ps.head? >>= Path.fileName? with
  | none => "lit".toList
  | some name => name

/-- Files as HTML: a page if the settings ask for one, else only the fragments. -/
def renderFiles (read : Reader) (s : Settings) (ps : List Path)
    (pen : Highlighter := .plainText) : Except Failure Text := do
  let body ← fragments read s ps pen
  if s.standalone then
    let stylesheet ← s.stylesheet pen
    pure (Page.write ⟨pageTitle ps, body, stylesheet⟩)
  else pure body

end Marginalia
