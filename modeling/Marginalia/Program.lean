import Marginalia.CommandLine
import Marginalia.Json.Sections
import Marginalia.Publish

/-!
# The program

## Main definitions

* `Answer`, `Command.answer` — what a command comes to, given the texts of files.
* `Outcome` — how a run ends, with its exit status, output and error.
* `FileTree.settings` — the settings in a working folder.
* `run` — a run in a tree of files.
-/

namespace Marginalia

/-- What a command comes to. -/
inductive Answer where
  /-- A text for the output. -/
  | print (text : Text)
  /-- A text for a file. -/
  | save (p : Path) (text : Text)
  deriving DecidableEq, Repr

/-- The names of the themes, one to a line. -/
def themeLines : Text := Theme.all.flatMap fun theme => theme.name ++ ['\n']

/-- What a command comes to under the settings of the working folder. -/
def Command.answer (read : Reader) (s : Settings) (c : Command)
    (pen : Highlighter := .plainText) : Except Failure Answer :=
  match c with
  | .render files output overrides => do
    let html ← renderFiles read (overrides.apply s) files pen
    match output with
    | none => pure (.print html)
    | some p => pure (.save p html)
  | .parse file overrides => do
    let ss ← parseFile read (overrides.apply s) file
    pure (.print (Section.writeList ss ++ ['\n']))
  | .themes => pure (.print themeLines)
  | .help topic => pure (.print topic.text)
  | .version => pure (.print CommandLine.versionLine)

/-! ### Runs -/

/-- How a run ends. -/
inductive Outcome where
  /-- It did what it was asked to do. -/
  | success (output : Text)
  /-- It could not. -/
  | failure (f : Failure)
  /-- It was not asked for anything that makes sense. -/
  | misuse
  deriving DecidableEq, Repr

namespace Outcome

/-- The exit status of a run. -/
def status : Outcome → Nat
  | .success _ => 0
  | .failure _ => 1
  | .misuse => 2

/-- The text that a run prints. -/
def output : Outcome → Text
  | .success t => t
  | _ => []

/-- The error that a run reports. -/
def error? : Outcome → Option Text
  | .failure f => some f.message
  | _ => none

end Outcome

/-- The file with settings, in the working folder. -/
def settingsPath : Path := ⟨"lit.toml".toList⟩

/-- The settings in the working folder of a tree. -/
def FileTree.settings (t : FileTree) : Settings := Settings.ofFile (t.readText settingsPath)

/-- Carry out a command in a tree. -/
def FileTree.perform (t : FileTree) (c : Command) (pen : Highlighter := .plainText) :
    Outcome × FileTree :=
  match c.answer t.readText t.settings pen with
  | .error f => (.failure f, t)
  | .ok (.print text) => (.success text, t)
  | .ok (.save p text) =>
    match t.write p text with
    | .error e => (.failure (.file e), t)
    | .ok t => (.success [], t)

/-- A run in a tree of files: how it ends, and the tree afterwards. -/
def run (args : List Text) (t : FileTree) (pen : Highlighter := .plainText) :
    Outcome × FileTree :=
  match Command.ofArguments? args with
  | none => (.misuse, t)
  | some c => t.perform c pen

end Marginalia
